/-!
# Binary properties of code points

`binaryProperties` pairs the long name of each binary property of the Unicode character
database files of properties, core properties and emoji data with its code points, written as a
set table (see `BuildSpec.Unicode.Ranges`). The data is that of Unicode 16.0.
-/

namespace BuildSpec.Unicode

/-- The code points with the property ASCII Hex Digit. -/
def asciiHexDigitText : String :=
  "30,9,7,5,1A,5"

/-- The code points with the property Alphabetic. -/
def alphabeticText : String :=
  String.join [
  "41,19,6,19,2F,0,A,0,4,0,5,16,1,1E,1,1C9,4,B,E,4,7,0,1,0,56,0,1D,11,1,1,2,3,1,0,6,0,1,2,1,0,1,",
  "13,1,52,1,8A,8,A5,1,25,2,0,6,28,27,D,1,0,1,1,1,1,1,0,8,1A,4,3,1D,A,5,37,1,6,E,65,1,7,4,7,4,2,",
  "A,2,2,0,10,2F,D,64,18,20,9,1,4,0,5,17,2,12,13,18,7,A,5,17,1,5,8,0,8,29,A,B,3,6,6,4B,1,F,1,2,",
  "4,E,D,12,1,7,2,1,2,15,1,6,1,0,3,3,3,7,2,1,2,1,1,0,8,0,4,1,1,4,C,1,A,0,4,2,1,5,4,1,2,15,1,6,1,",
  "1,1,1,1,1,4,4,4,1,2,1,4,0,7,3,1,0,11,5,B,2,1,8,1,2,1,15,1,6,1,1,1,4,3,8,1,2,1,1,3,0,F,3,15,3,",
  "4,2,1,7,2,1,2,15,1,6,1,1,1,4,3,7,2,1,2,1,9,1,4,1,1,4,D,0,10,1,1,5,3,2,1,3,3,1,1,0,1,1,3,1,3,",
  "2,3,B,4,4,3,2,1,2,3,0,6,0,28,C,1,2,1,16,1,F,3,7,1,2,1,2,8,1,1,2,2,0,2,3,1C,3,1,7,1,2,1,16,1,",
  "9,1,4,3,7,1,2,1,2,8,1,6,1,1,3,D,2,C,C,1,2,1,28,2,7,1,2,1,2,1,0,5,3,7,4,16,5,1,2,1,11,3,17,1,",
  "8,1,0,2,6,8,5,1,0,1,7,12,1,D,39,5,6,6,0,33,1,1,0,1,4,1,17,1,0,1,12,1,2,2,4,1,0,6,0,E,3,20,0,",
  "3F,7,1,23,4,12,4,F,1,23,43,36,1,0,2,4,10,3F,A,3,2,25,1,0,5,0,2,2A,1,14C,1,3,2,6,1,0,1,3,2,28,",
  "1,3,2,20,1,3,2,6,1,0,1,3,2,E,1,38,1,3,2,42,25,F,10,55,2,5,3,26B,2,10,1,19,5,4A,3,A,7,13,B,14,",
  "C,13,C,C,1,2,1,1,C,33,2,12,E,0,4,0,43,58,7,2A,5,45,A,1E,1,B,4,8,17,1D,2,4,B,2B,4,19,36,1B,4,",
  "3E,2,13,32,0,17,1,B,2,31,33,1,E,1,7,33,29,2,3,A,2B,1,A,E,36,16,2,A,23,2,A,5,2A,2,2,29,3,1,5,",
  "1,1,3,0,5,BF,13,21,B,115,2,5,2,25,2,5,2,7,1,0,1,0,1,0,1,1E,2,34,1,6,1,0,3,2,1,6,3,3,2,5,4,C,",
  "5,2,1,6,74,0,D,0,10,C,65,0,4,0,2,9,1,0,3,4,6,0,1,0,1,0,1,3,1,A,2,3,5,4,4,0,11,28,32D,33,716,",
  "E4,6,3,3,1,C,25,1,0,5,0,2,37,7,0,10,16,9,6,1,6,1,6,1,6,1,6,1,6,1,6,1,6,1,1F,2F,0,1D5,2,19,8,",
  "7,4,2,4,4,55,6,2,1,59,1,3,5,2A,1,5D,11,1F,30,F,200,19BF,40,568C,43,2D,2,10C,3,F,A,1,14,2E,5,",
  "7,3,70,27,8,2,66,2,42,2,1,1,0,1,7,15,13,1,20,18,33,C,43,1,0,2C,5,3,0,1,2,A,20,5,22,D,1C,3,32,",
  "1,B,F,0,10,F,A,4,1,36,9,D,12,16,3,44,1,0,1,0,18,2,2,F,2,3,B,5,2,5,2,5,9,6,1,6,1,2A,1,D,6,7A,",
  "15,2BA3,C,16,4,30,2104,16D,2,69,26,6,C,4,5,B,1,C,1,4,1,0,1,1,1,1,1,6B,21,16A,12,3F,2,35,28,B,",
  "74,4,1,86,24,19,6,19,B,58,3,5,2,5,2,5,2,2,23,B,1,19,1,12,1,1,1,E,2,D,22,7A,45,34,10B,1C,3,30,",
  "2F,1F,D,1D,5,2A,5,1D,2,23,4,7,1,4,2A,9D,12,23,4,23,4,27,8,33,C,A,1,E,1,6,1,1,1,A,1,E,1,6,1,1,",
  "3,33,C,136,9,15,A,7,18,5,1,29,1,8,45,5,2,0,1,2B,1,1,3,0,2,16,A,16,9,1E,41,12,1,1,A,15,A,19,",
  "46,37,6,1,40,3,1,1,5,7,1,2,1,1C,2A,1C,3,1C,23,7,1,1B,1B,35,A,15,A,12,D,11,6E,48,37,32,D,32,D,",
  "27,22,1B,3,0,5,16,FA,29,1,1,3,1,10,2,37,0,3,1C,A,0,8,15,2A,11,2E,14,1B,16,9,45,2B,4,A,38,9,0,",
  "D,18,17,32,11,3,8,22,3,0,9,3F,1,3,9,1,A,0,1,0,23,11,1,21,2,0,6,3,3E,6,1,0,1,3,1,E,1,9,7,38,",
  "17,3,1,7,2,1,2,15,1,6,1,1,1,4,3,7,2,1,2,1,3,0,6,0,5,6,1C,9,1,0,2,0,1,25,1,9,1,0,2,0,1,3,1,1,",
  "3,0,1,0,2C,41,1,2,1,3,14,2,1E,41,2,1,1,0,B8,35,2,6,19,5,22,3E,1,0,3,0,3B,35,2,0,47,1A,2,D,15,",
  "6,B9,38,67,3F,1F,7,2,0,2,7,1,1,1,1D,1,1,2,1,2,3,5D,7,2,2D,2,5,1,0,1,1,1B,32,2,9,11,47,5,0,12,",
  "48,C7,20,1F,8,1,2C,1,6,1,0,31,1D,2,15,1,D,49,6,1,1,1,2B,3,0,1,1,1,2,1,0,2,1,18,5,1,1,1,24,1,",
  "1,1,3,1,0,147,16,9,10,1,28,3,2,6F,0,4F,399,66,6E,11,C3,A4C,60,F,42F,11,5,19,F9A,5,246,1AB9,",
  "2E,6D1,238,7,1E,11,4E,11,1D,12,2F,10,3,1F,14,5,12,1B0,2C,D3,3F,80,4A,4,38,7,10,40,1,1,0,C,1,",
  "E,17F7,8,4D5,29,9,22E7,3,1,6,1,1,1,122,F,0,1D,2,2,0,E,3,8,18B,904,6A,5,C,3,8,7,9,4,0,1761,54,",
  "1,46,1,1,2,0,2,1,2,3,1,B,1,0,1,6,1,40,1,3,2,7,1,6,1,1B,1,3,1,4,1,0,3,6,1,153,2,18,1,18,1,1E,",
  "1,18,1,1E,1,18,1,1E,1,18,1,1E,1,18,1,7,734,1E,6,5,D5,6,1,10,2,6,1,1,1,4,5,3D,21,0,70,2C,A,6,",
  "10,0,141,1D,12,2B,1E4,1B,E4,1D,2,0,1EF,6,1,3,1,1,1,E,1,C4,3B,43,3,0,3,0,4B4,3,1,1A,1,1,1,0,2,",
  "0,1,9,1,3,1,0,1,0,6,0,4,0,1,0,1,0,1,2,1,1,1,0,2,0,1,0,1,0,1,0,1,0,1,1,1,0,2,3,1,6,1,3,1,3,1,",
  "0,1,9,1,10,5,2,1,4,1,10,274,19,6,19,6,19,E76,A6DF,20,1039,6,DD,2,1681,E,1D30,F,26D,9A2,21D,",
  "5E2,134A,5,105F"]

/-- The code points with the property Bidi Control. -/
def bidiControlText : String :=
  "61C,0,19F1,1,1A,4,37,3"

/-- The code points with the property Case Ignorable. -/
def caseIgnorableText : String :=
  String.join [
  "27,0,6,0,B,0,23,0,1,0,47,0,4,0,1,0,4,0,2,1,1F7,BF,4,1,4,0,9,1,1,0,FB,6,CF,0,5,0,31,2C,1,0,1,",
  "1,1,1,1,0,2C,0,B,5,A,A,1,0,23,0,A,14,10,0,65,7,1,9,1,3,21,0,1,0,1E,1A,5B,A,3A,A,4,0,2,0,18,",
  "17,2B,2,2C,0,7,1,5,8,29,39,37,0,1,0,4,7,4,0,3,6,A,1,D,0,F,0,3A,0,4,3,8,0,14,1,1A,0,2,1,39,0,",
  "4,1,4,1,2,2,3,0,1E,1,3,0,B,1,39,0,4,4,1,1,4,0,14,1,16,5,1,0,3A,0,2,0,1,3,8,0,7,1,B,1,1E,0,3D,",
  "0,C,0,32,0,3,0,37,0,1,2,5,2,1,3,7,1,B,1,1D,0,3A,0,2,0,6,0,5,1,14,1,1C,1,39,1,4,3,8,0,14,1,1D,",
  "0,48,0,7,2,1,0,5A,0,2,6,B,8,62,0,2,8,9,0,1,6,49,1,1B,0,1,0,1,0,37,D,1,4,1,1,5,A,1,23,9,0,66,",
  "3,1,5,1,1,2,1,19,1,4,2,10,3,D,0,2,1,6,0,F,0,5E,0,260,2,3B2,2,1D,1,1E,1,1E,1,40,1,1,6,8,0,2,A,",
  "3,0,5,0,2D,4,33,0,41,1,22,0,76,2,4,1,9,0,6,2,DB,1,2,0,3A,0,1,6,1,0,1,0,2,7,6,9,2,0,27,0,8,1E,",
  "31,3,30,0,1,4,1,0,5,0,28,8,C,1,20,3,2,1,1,2,38,0,1,1,3,0,1,2,3A,7,2,1,40,5,52,2,1,C,1,6,4,0,",
  "6,0,3,1,32,3E,D,0,22,64,1BD,0,1,2,B,2,D,2,D,2,D,1,C,4,8,1,A,0,2,0,2,4,31,4,1,9,1,0,D,0,10,C,",
  "33,20,B8B,1,71,2,7D,0,F,0,60,1F,2F,0,1D5,0,24,3,3,4,5,0,5D,5,5D,2,6F16,0,4E2,5,10E,0,62,3,1,",
  "9,1,0,1C,3,50,1,E,21,4E,0,17,2,67,2,3,1,8,0,3,0,4,0,19,1,5,0,97,1,1A,11,D,0,26,7,19,A,2E,2,",
  "30,0,2,3,2,1,11,0,15,1,42,5,2,1,2,1,C,0,8,0,23,0,B,0,33,0,1,2,2,1,5,1,1,0,1B,0,E,1,5,1,1,0,",
  "64,4,9,2,79,0,2,0,4,0,4F30,0,93,10,23D,F,3,0,C,F,22,0,2,0,A9,0,7,0,6,0,B,0,23,0,1,0,2F,0,2D,",
  "1,43,0,15,2,201,0,E2,0,95,4,405,5,1,29,1,8,246,2,1,1,5,3,28,2,4,0,A5,1,23D,3,26,0,1A,4,1,0,",
  "13B,1,4F,3,46,A,31,3,7B,0,36,E,29,0,2,1,A,2,31,3,2,1,2,0,4,0,A,0,32,2,24,4,1,7,3E,0,C,1,34,8,",
  "A,3,2,0,5F,2,2,0,1,1,6,0,2,0,9D,0,3,7,15,1,39,1,3,0,25,6,3,4,46,5,D,0,1,0,1,0,E,1,55,7,2,2,1,",
  "0,17,0,54,5,1,0,4,1,1,1,EE,3,6,1,1,1,1B,1,55,7,2,0,1,1,6A,0,1,0,2,5,1,0,65,0,1,0,2,3,1,4,103,",
  "8,1,1,100,1,1,0,4,0,90,3,2,1,4,0,20,9,28,5,2,3,8,0,9,5,2,2,2E,C,1,1,196,6,1,5,1,0,52,15,2,6,",
  "1,1,1,1,7A,5,3,0,1,1,1,6,1,0,48,1,3,0,1,0,15B,1,B,1,34,4,5,0,1,0,17,0,14D5,10,6,E,2CC8,B,3,2,",
  "9C0,4,3B,6,9,3,1FC,2,28,1,1E2,0,3F,10,40,1,1,1,400B,3,1,6,1,1,C9E,1,1,3,125C,2D,2,16,220,2,9,",
  "F,2,6,1E,3,94,2,7BB,36,4,31,8,0,E,0,16,4,1,E,550,6,1,10,2,6,1,1,1,4,5,3D,21,0,A0,D,170,0,3D,",
  "3,1FB,4,FE,1,2E0,6,6D,7,AAF,4,C0C01,0,1E,5F,80,EF"]

/-- The code points with the property Cased. -/
def casedText : String :=
  String.join [
  "41,19,6,19,2F,0,A,0,4,0,5,16,1,1E,1,C2,1,3,4,CF,2,22,7,1,1E,4,60,0,2A,3,2,1,2,3,1,0,6,0,1,2,",
  "1,0,1,13,1,52,1,8A,8,A5,1,25,9,28,B17,25,1,0,5,0,2,2A,1,3,2A0,55,2,5,882,A,5,2A,2,2,40,BF,40,",
  "115,2,5,2,25,2,5,2,7,1,0,1,0,1,0,1,1E,2,34,1,6,1,0,3,2,1,6,3,3,2,5,4,C,5,2,1,6,74,0,D,0,10,C,",
  "65,0,4,0,2,9,1,0,3,4,6,0,1,0,1,0,1,3,1,5,4,0,2,3,5,4,4,0,11,1F,3,1,331,33,716,E4,6,3,3,1,C,",
  "25,1,0,5,0,7912,2D,12,1D,84,65,3,3,1,3D,2,1,1,0,1,7,15,4,1,2,335,2A,1,D,6,4F,4F40,6,C,4,409,",
  "19,6,19,4A5,4F,60,23,4,23,74,A,1,E,1,6,1,1,1,A,1,E,1,6,1,1,1C3,0,2,2,1,29,1,8,4C5,32,D,32,5D,",
  "15,A,15,B1A,3F,5560,3F,6580,54,1,46,1,1,2,0,2,1,2,3,1,B,1,0,1,6,1,40,1,3,2,7,1,6,1,1B,1,3,1,",
  "4,1,0,3,6,1,153,2,18,1,18,1,1E,1,18,1,1E,1,18,1,1E,1,18,1,1E,1,18,1,7,734,9,1,13,6,5,105,3D,",
  "892,43,7EC,19,6,19,6,19"]

/-- The code points with the property Changes When Casefolded. -/
def changesWhenCasefoldedText : String :=
  String.join [
  "41,19,5A,0,A,16,1,7,20,0,1,0,1,0,1,0,1,0,1,0,1,0,1,0,1,0,1,0,1,0,1,0,1,0,1,0,1,0,1,0,1,0,1,0,",
  "1,0,1,0,1,0,1,0,1,0,1,0,1,0,1,0,1,0,1,0,2,0,1,0,1,0,1,0,1,0,1,0,1,0,1,0,1,1,1,0,1,0,1,0,1,0,",
  "1,0,1,0,1,0,1,0,1,0,1,0,1,0,1,0,1,0,1,0,1,0,1,0,1,0,1,0,1,0,1,0,1,0,1,0,1,1,1,0,1,0,1,0,1,1,",
  "1,0,1,1,1,2,2,3,1,1,1,2,3,1,1,1,1,0,1,0,1,1,1,0,2,0,1,1,1,2,1,0,1,1,3,0,7,1,1,1,1,1,1,0,1,0,",
  "1,0,1,0,1,0,1,0,1,0,1,0,2,0,1,0,1,0,1,0,1,0,1,0,1,0,1,0,1,0,2,1,1,0,1,2,1,0,1,0,1,0,1,0,1,0,",
  "1,0,1,0,1,0,1,0,1,0,1,0,1,0,1,0,1,0,1,0,1,0,1,0,1,0,1,0,1,0,1,0,1,0,1,0,1,0,1,0,1,0,1,0,1,0,",
  "1,0,7,1,1,1,2,0,1,3,1,0,1,0,1,0,1,0,F6,0,2A,0,1,0,3,0,8,0,6,0,1,2,1,0,1,1,1,10,1,8,16,0,C,2,",
  "3,1,1,0,1,0,1,0,1,0,1,0,1,0,1,0,1,0,1,0,1,0,1,0,1,0,1,1,2,1,1,0,1,1,2,32,30,0,1,0,1,0,1,0,1,",
  "0,1,0,1,0,1,0,1,0,1,0,1,0,1,0,1,0,1,0,1,0,1,0,1,0,9,0,1,0,1,0,1,0,1,0,1,0,1,0,1,0,1,0,1,0,1,",
  "0,1,0,1,0,1,0,1,0,1,0,1,0,1,0,1,0,1,0,1,0,1,0,1,0,1,0,1,0,1,0,1,0,1,1,1,0,1,0,1,0,1,0,1,0,1,",
  "0,2,0,1,0,1,0,1,0,1,0,1,0,1,0,1,0,1,0,1,0,1,0,1,0,1,0,1,0,1,0,1,0,1,0,1,0,1,0,1,0,1,0,1,0,1,",
  "0,1,0,1,0,1,0,1,0,1,0,1,0,1,0,1,0,1,0,1,0,1,0,1,0,1,0,1,0,1,0,1,0,1,0,1,0,1,0,1,0,1,0,1,0,1,",
  "0,1,0,1,0,2,25,30,0,B18,25,1,0,5,0,32A,5,882,9,6,2A,2,2,140,0,1,0,1,0,1,0,1,0,1,0,1,0,1,0,1,",
  "0,1,0,1,0,1,0,1,0,1,0,1,0,1,0,1,0,1,0,1,0,1,0,1,0,1,0,1,0,1,0,1,0,1,0,1,0,1,0,1,0,1,0,1,0,1,",
  "0,1,0,1,0,1,0,1,0,1,0,1,0,1,0,1,0,1,0,1,0,1,0,1,0,1,0,1,0,1,0,1,0,1,0,1,0,1,0,1,0,1,0,1,0,1,",
  "0,1,0,1,0,1,0,1,0,1,0,1,0,1,0,1,0,1,0,1,0,1,0,1,0,1,0,1,0,1,0,1,0,1,0,1,0,1,0,1,0,5,1,2,0,1,",
  "0,1,0,1,0,1,0,1,0,1,0,1,0,1,0,1,0,1,0,1,0,1,0,1,0,1,0,1,0,1,0,1,0,1,0,1,0,1,0,1,0,1,0,1,0,1,",
  "0,1,0,1,0,1,0,1,0,1,0,1,0,1,0,1,0,1,0,1,0,1,0,1,0,1,0,1,0,1,0,1,0,1,0,1,0,1,0,1,0,1,0,1,0,1,",
  "0,1,0,9,7,8,5,A,7,8,7,8,5,B,0,1,0,1,0,1,0,8,7,10,2F,2,2,2,5,5,2,2,5,B,3,C,4,5,2,2,5,129,0,3,",
  "1,6,0,2D,F,13,0,332,19,730,2F,30,0,1,2,2,0,1,0,1,0,1,3,1,0,2,0,8,2,1,0,1,0,1,0,1,0,1,0,1,0,1,",
  "0,1,0,1,0,1,0,1,0,1,0,1,0,1,0,1,0,1,0,1,0,1,0,1,0,1,0,1,0,1,0,1,0,1,0,1,0,1,0,1,0,1,0,1,0,1,",
  "0,1,0,1,0,1,0,1,0,1,0,1,0,1,0,1,0,1,0,1,0,1,0,1,0,1,0,1,0,1,0,1,0,1,0,1,0,1,0,8,0,1,0,4,0,",
  "794D,0,1,0,1,0,1,0,1,0,1,0,1,0,1,0,1,0,1,0,1,0,1,0,1,0,1,0,1,0,1,0,1,0,1,0,1,0,1,0,1,0,1,0,1,",
  "0,13,0,1,0,1,0,1,0,1,0,1,0,1,0,1,0,1,0,1,0,1,0,1,0,1,0,1,0,87,0,1,0,1,0,1,0,1,0,1,0,1,0,3,0,",
  "1,0,1,0,1,0,1,0,1,0,1,0,1,0,1,0,1,0,1,0,1,0,1,0,1,0,1,0,1,0,1,0,1,0,1,0,1,0,1,0,1,0,1,0,1,0,",
  "1,0,1,0,1,0,1,0,1,0,1,0,1,0,A,0,1,0,1,1,1,0,1,0,1,0,1,0,4,0,1,0,2,0,1,0,3,0,1,0,1,0,1,0,1,0,",
  "1,0,1,0,1,0,1,0,1,0,1,4,1,4,1,0,1,0,1,0,1,0,1,0,1,0,1,0,1,3,1,0,1,1,3,0,5,0,1,0,1,0,1,0,18,0,",
  "37A,4F,4F40,6,C,4,409,19,4C5,27,88,23,9C,A,1,E,1,6,1,1,6EA,32,9D,15,B3A,1F,5580,1F,7AA0,21"]

/-- The code points with the property Changes When Casemapped. -/
def changesWhenCasemappedText : String :=
  String.join [
  "41,19,6,19,3A,0,A,16,1,1E,1,3F,1,53,1,1B,2,D,2,1,1,0,4,5C,1,11,6,1A,1,1,1,0,1,1,3,1,1,3,1,4,",
  "2,0,1,1,2,0,7,0,2,0,1,1,3,5,5,0,A,1,A6,0,2A,3,2,1,3,2,1,0,6,0,1,2,1,0,1,13,1,2E,3,20,1,4,1,",
  "84,8,A5,1,25,A,26,B18,25,1,0,5,0,2,2A,2,2,2A0,55,2,5,882,A,5,2A,2,2,B9,0,3,0,10,0,71,9B,2,0,",
  "1,75,2,5,2,25,2,5,2,7,1,0,1,0,1,0,1,1E,2,34,1,6,1,0,3,2,1,6,3,3,2,5,4,C,5,2,1,6,129,0,3,1,6,",
  "0,1B,0,11,1F,3,1,331,33,716,70,1,1,1,1,7,65,7,3,3,1,C,25,1,0,5,0,7912,2D,12,1B,86,D,2,3D,9,E,",
  "3,2,2,4,1,18,1,1D,2,1,1,0,1,7,18,1,35C,0,1C,4F,4F40,6,C,4,409,19,6,19,4A5,4F,60,23,4,23,74,A,",
  "1,E,1,6,1,1,1,A,1,E,1,6,1,1,6C3,32,D,32,5D,15,A,15,B1A,3F,5560,3F,7A80,43"]

/-- The code points with the property Changes When Lowercased. -/
def changesWhenLowercasedText : String :=
  String.join [
  "41,19,65,16,1,6,21,0,1,0,1,0,1,0,1,0,1,0,1,0,1,0,1,0,1,0,1,0,1,0,1,0,1,0,1,0,1,0,1,0,1,0,1,0,",
  "1,0,1,0,1,0,1,0,1,0,1,0,1,0,1,0,1,0,2,0,1,0,1,0,1,0,1,0,1,0,1,0,1,0,2,0,1,0,1,0,1,0,1,0,1,0,",
  "1,0,1,0,1,0,1,0,1,0,1,0,1,0,1,0,1,0,1,0,1,0,1,0,1,0,1,0,1,0,1,0,1,0,1,1,1,0,1,0,3,1,1,0,1,1,",
  "1,2,2,3,1,1,1,2,3,1,1,1,1,0,1,0,1,1,1,0,2,0,1,1,1,2,1,0,1,1,3,0,7,1,1,1,1,1,1,0,1,0,1,0,1,0,",
  "1,0,1,0,1,0,1,0,2,0,1,0,1,0,1,0,1,0,1,0,1,0,1,0,1,0,2,1,1,0,1,2,1,0,1,0,1,0,1,0,1,0,1,0,1,0,",
  "1,0,1,0,1,0,1,0,1,0,1,0,1,0,1,0,1,0,1,0,1,0,1,0,1,0,1,0,1,0,1,0,1,0,1,0,1,0,1,0,1,0,1,0,7,1,",
  "1,1,2,0,1,3,1,0,1,0,1,0,1,0,121,0,1,0,3,0,8,0,6,0,1,2,1,0,1,1,1,10,1,8,23,0,8,0,1,0,1,0,1,0,",
  "1,0,1,0,1,0,1,0,1,0,1,0,1,0,1,0,5,0,2,0,1,1,2,32,30,0,1,0,1,0,1,0,1,0,1,0,1,0,1,0,1,0,1,0,1,",
  "0,1,0,1,0,1,0,1,0,1,0,1,0,9,0,1,0,1,0,1,0,1,0,1,0,1,0,1,0,1,0,1,0,1,0,1,0,1,0,1,0,1,0,1,0,1,",
  "0,1,0,1,0,1,0,1,0,1,0,1,0,1,0,1,0,1,0,1,0,1,1,1,0,1,0,1,0,1,0,1,0,1,0,2,0,1,0,1,0,1,0,1,0,1,",
  "0,1,0,1,0,1,0,1,0,1,0,1,0,1,0,1,0,1,0,1,0,1,0,1,0,1,0,1,0,1,0,1,0,1,0,1,0,1,0,1,0,1,0,1,0,1,",
  "0,1,0,1,0,1,0,1,0,1,0,1,0,1,0,1,0,1,0,1,0,1,0,1,0,1,0,1,0,1,0,1,0,1,0,1,0,1,0,2,25,B49,25,1,",
  "0,5,0,2D2,55,893,0,6,2A,2,2,140,0,1,0,1,0,1,0,1,0,1,0,1,0,1,0,1,0,1,0,1,0,1,0,1,0,1,0,1,0,1,",
  "0,1,0,1,0,1,0,1,0,1,0,1,0,1,0,1,0,1,0,1,0,1,0,1,0,1,0,1,0,1,0,1,0,1,0,1,0,1,0,1,0,1,0,1,0,1,",
  "0,1,0,1,0,1,0,1,0,1,0,1,0,1,0,1,0,1,0,1,0,1,0,1,0,1,0,1,0,1,0,1,0,1,0,1,0,1,0,1,0,1,0,1,0,1,",
  "0,1,0,1,0,1,0,1,0,1,0,1,0,1,0,1,0,1,0,1,0,1,0,1,0,1,0,9,0,1,0,1,0,1,0,1,0,1,0,1,0,1,0,1,0,1,",
  "0,1,0,1,0,1,0,1,0,1,0,1,0,1,0,1,0,1,0,1,0,1,0,1,0,1,0,1,0,1,0,1,0,1,0,1,0,1,0,1,0,1,0,1,0,1,",
  "0,1,0,1,0,1,0,1,0,1,0,1,0,1,0,1,0,1,0,1,0,1,0,1,0,1,0,1,0,1,0,1,0,9,7,8,5,A,7,8,7,8,5,B,0,1,",
  "0,1,0,1,0,8,7,18,7,8,7,8,7,8,4,B,4,B,3,C,4,B,4,129,0,3,1,6,0,2D,F,13,0,332,19,730,2F,30,0,1,",
  "2,2,0,1,0,1,0,1,3,1,0,2,0,8,2,1,0,1,0,1,0,1,0,1,0,1,0,1,0,1,0,1,0,1,0,1,0,1,0,1,0,1,0,1,0,1,",
  "0,1,0,1,0,1,0,1,0,1,0,1,0,1,0,1,0,1,0,1,0,1,0,1,0,1,0,1,0,1,0,1,0,1,0,1,0,1,0,1,0,1,0,1,0,1,",
  "0,1,0,1,0,1,0,1,0,1,0,1,0,1,0,1,0,1,0,1,0,8,0,1,0,4,0,794D,0,1,0,1,0,1,0,1,0,1,0,1,0,1,0,1,0,",
  "1,0,1,0,1,0,1,0,1,0,1,0,1,0,1,0,1,0,1,0,1,0,1,0,1,0,1,0,13,0,1,0,1,0,1,0,1,0,1,0,1,0,1,0,1,0,",
  "1,0,1,0,1,0,1,0,1,0,87,0,1,0,1,0,1,0,1,0,1,0,1,0,3,0,1,0,1,0,1,0,1,0,1,0,1,0,1,0,1,0,1,0,1,0,",
  "1,0,1,0,1,0,1,0,1,0,1,0,1,0,1,0,1,0,1,0,1,0,1,0,1,0,1,0,1,0,1,0,1,0,1,0,1,0,1,0,A,0,1,0,1,1,",
  "1,0,1,0,1,0,1,0,4,0,1,0,2,0,1,0,3,0,1,0,1,0,1,0,1,0,1,0,1,0,1,0,1,0,1,0,1,4,1,4,1,0,1,0,1,0,",
  "1,0,1,0,1,0,1,0,1,3,1,0,1,1,3,0,5,0,1,0,1,0,1,0,18,0,572B,19,4C5,27,88,23,9C,A,1,E,1,6,1,1,",
  "6EA,32,9D,15,B3A,1F,5580,1F,7AA0,21"]

/-- The code points with the property Changes When Titlecased. -/
def changesWhenTitlecasedText : String :=
  String.join [
  "61,19,3A,0,29,17,1,7,1,0,1,0,1,0,1,0,1,0,1,0,1,0,1,0,1,0,1,0,1,0,1,0,1,0,1,0,1,0,1,0,1,0,1,0,",
  "1,0,1,0,1,0,1,0,1,0,1,0,1,0,1,0,1,0,1,0,2,0,1,0,1,0,1,0,1,0,1,0,1,0,1,1,1,0,1,0,1,0,1,0,1,0,",
  "1,0,1,0,1,0,1,0,1,0,1,0,1,0,1,0,1,0,1,0,1,0,1,0,1,0,1,0,1,0,1,0,1,0,1,0,2,0,1,0,1,2,2,0,1,0,",
  "2,0,3,0,5,0,2,0,3,2,2,0,2,0,1,0,1,0,2,0,4,0,2,0,3,0,1,0,2,0,3,0,1,0,4,0,1,1,1,1,1,0,1,0,1,0,",
  "1,0,1,0,1,0,1,0,1,0,1,1,1,0,1,0,1,0,1,0,1,0,1,0,1,0,1,0,1,2,1,0,1,0,3,0,1,0,1,0,1,0,1,0,1,0,",
  "1,0,1,0,1,0,1,0,1,0,1,0,1,0,1,0,1,0,1,0,1,0,1,0,1,0,1,0,3,0,1,0,1,0,1,0,1,0,1,0,1,0,1,0,1,0,",
  "8,0,2,1,1,0,4,0,1,0,1,0,1,0,1,5,1,1,1,0,1,1,3,1,1,3,1,4,2,0,1,1,2,0,7,0,2,0,1,1,3,5,5,0,A,1,",
  "A6,0,2B,0,1,0,3,0,3,2,12,0,1B,22,1,1,3,2,1,0,1,0,1,0,1,0,1,0,1,0,1,0,1,0,1,0,1,0,1,0,1,4,1,0,",
  "2,0,2,0,34,2F,1,0,1,0,1,0,1,0,1,0,1,0,1,0,1,0,1,0,1,0,1,0,1,0,1,0,1,0,1,0,1,0,1,0,9,0,1,0,1,",
  "0,1,0,1,0,1,0,1,0,1,0,1,0,1,0,1,0,1,0,1,0,1,0,1,0,1,0,1,0,1,0,1,0,1,0,1,0,1,0,1,0,1,0,1,0,1,",
  "0,1,0,2,0,1,0,1,0,1,0,1,0,1,0,1,1,1,0,1,0,1,0,1,0,1,0,1,0,1,0,1,0,1,0,1,0,1,0,1,0,1,0,1,0,1,",
  "0,1,0,1,0,1,0,1,0,1,0,1,0,1,0,1,0,1,0,1,0,1,0,1,0,1,0,1,0,1,0,1,0,1,0,1,0,1,0,1,0,1,0,1,0,1,",
  "0,1,0,1,0,1,0,1,0,1,0,1,0,1,0,1,0,1,0,1,0,31,26,E70,5,882,8,1,0,EE,0,3,0,10,0,72,0,1,0,1,0,1,",
  "0,1,0,1,0,1,0,1,0,1,0,1,0,1,0,1,0,1,0,1,0,1,0,1,0,1,0,1,0,1,0,1,0,1,0,1,0,1,0,1,0,1,0,1,0,1,",
  "0,1,0,1,0,1,0,1,0,1,0,1,0,1,0,1,0,1,0,1,0,1,0,1,0,1,0,1,0,1,0,1,0,1,0,1,0,1,0,1,0,1,0,1,0,1,",
  "0,1,0,1,0,1,0,1,0,1,0,1,0,1,0,1,0,1,0,1,0,1,0,1,0,1,0,1,0,1,0,1,0,1,0,1,0,1,0,1,0,1,0,1,0,1,",
  "0,1,0,1,6,5,0,1,0,1,0,1,0,1,0,1,0,1,0,1,0,1,0,1,0,1,0,1,0,1,0,1,0,1,0,1,0,1,0,1,0,1,0,1,0,1,",
  "0,1,0,1,0,1,0,1,0,1,0,1,0,1,0,1,0,1,0,1,0,1,0,1,0,1,0,1,0,1,0,1,0,1,0,1,0,1,0,1,0,1,0,1,0,1,",
  "0,1,0,1,0,1,0,1,8,8,5,A,7,8,7,8,5,A,7,8,7,8,D,2,7,8,7,8,7,8,4,1,1,6,0,3,2,1,1,8,3,2,1,8,7,A,",
  "2,1,1,156,0,21,F,4,0,34B,19,746,2F,1,0,3,1,1,0,1,0,1,0,6,0,2,0,A,0,1,0,1,0,1,0,1,0,1,0,1,0,1,",
  "0,1,0,1,0,1,0,1,0,1,0,1,0,1,0,1,0,1,0,1,0,1,0,1,0,1,0,1,0,1,0,1,0,1,0,1,0,1,0,1,0,1,0,1,0,1,",
  "0,1,0,1,0,1,0,1,0,1,0,1,0,1,0,1,0,1,0,1,0,1,0,1,0,1,0,1,0,1,0,1,0,1,0,1,0,1,0,8,0,1,0,4,0,C,",
  "25,1,0,5,0,7913,0,1,0,1,0,1,0,1,0,1,0,1,0,1,0,1,0,1,0,1,0,1,0,1,0,1,0,1,0,1,0,1,0,1,0,1,0,1,",
  "0,1,0,1,0,1,0,13,0,1,0,1,0,1,0,1,0,1,0,1,0,1,0,1,0,1,0,1,0,1,0,1,0,1,0,87,0,1,0,1,0,1,0,1,0,",
  "1,0,1,0,3,0,1,0,1,0,1,0,1,0,1,0,1,0,1,0,1,0,1,0,1,0,1,0,1,0,1,0,1,0,1,0,1,0,1,0,1,0,1,0,1,0,",
  "1,0,1,0,1,0,1,0,1,0,1,0,1,0,1,0,1,0,1,0,A,0,1,0,2,0,1,0,1,0,1,0,1,0,4,0,4,0,1,1,2,0,1,0,1,0,",
  "1,0,1,0,1,0,1,0,1,0,1,0,1,0,B,0,1,0,1,0,1,0,1,0,1,0,1,0,1,0,4,0,1,0,2,0,3,0,1,0,1,0,1,0,1,0,",
  "1,0,1A,0,35C,0,1C,4F,4F40,6,C,4,429,19,4CD,27,88,23,9B,A,1,E,1,6,1,1,703,32,7D,15,B3A,1F,",
  "5580,1F,7AA2,21"]

/-- The code points with the property Changes When Uppercased. -/
def changesWhenUppercasedText : String :=
  String.join [
  "61,19,3A,0,29,17,1,7,1,0,1,0,1,0,1,0,1,0,1,0,1,0,1,0,1,0,1,0,1,0,1,0,1,0,1,0,1,0,1,0,1,0,1,0,",
  "1,0,1,0,1,0,1,0,1,0,1,0,1,0,1,0,1,0,1,0,2,0,1,0,1,0,1,0,1,0,1,0,1,0,1,1,1,0,1,0,1,0,1,0,1,0,",
  "1,0,1,0,1,0,1,0,1,0,1,0,1,0,1,0,1,0,1,0,1,0,1,0,1,0,1,0,1,0,1,0,1,0,1,0,2,0,1,0,1,2,2,0,1,0,",
  "2,0,3,0,5,0,2,0,3,2,2,0,2,0,1,0,1,0,2,0,4,0,2,0,3,0,1,0,2,0,3,0,1,0,5,1,1,1,1,1,1,0,1,0,1,0,",
  "1,0,1,0,1,0,1,0,1,1,1,0,1,0,1,0,1,0,1,0,1,0,1,0,1,0,1,1,1,1,1,0,3,0,1,0,1,0,1,0,1,0,1,0,1,0,",
  "1,0,1,0,1,0,1,0,1,0,1,0,1,0,1,0,1,0,1,0,1,0,1,0,1,0,3,0,1,0,1,0,1,0,1,0,1,0,1,0,1,0,1,0,8,0,",
  "2,1,1,0,4,0,1,0,1,0,1,0,1,5,1,1,1,0,1,1,3,1,1,3,1,4,2,0,1,1,2,0,7,0,2,0,1,1,3,5,5,0,A,1,A6,0,",
  "2B,0,1,0,3,0,3,2,12,0,1B,22,1,1,3,2,1,0,1,0,1,0,1,0,1,0,1,0,1,0,1,0,1,0,1,0,1,0,1,4,1,0,2,0,",
  "2,0,34,2F,1,0,1,0,1,0,1,0,1,0,1,0,1,0,1,0,1,0,1,0,1,0,1,0,1,0,1,0,1,0,1,0,1,0,9,0,1,0,1,0,1,",
  "0,1,0,1,0,1,0,1,0,1,0,1,0,1,0,1,0,1,0,1,0,1,0,1,0,1,0,1,0,1,0,1,0,1,0,1,0,1,0,1,0,1,0,1,0,1,",
  "0,2,0,1,0,1,0,1,0,1,0,1,0,1,1,1,0,1,0,1,0,1,0,1,0,1,0,1,0,1,0,1,0,1,0,1,0,1,0,1,0,1,0,1,0,1,",
  "0,1,0,1,0,1,0,1,0,1,0,1,0,1,0,1,0,1,0,1,0,1,0,1,0,1,0,1,0,1,0,1,0,1,0,1,0,1,0,1,0,1,0,1,0,1,",
  "0,1,0,1,0,1,0,1,0,1,0,1,0,1,0,1,0,1,0,31,26,B48,2A,2,2,2F8,5,882,8,1,0,EE,0,3,0,10,0,72,0,1,",
  "0,1,0,1,0,1,0,1,0,1,0,1,0,1,0,1,0,1,0,1,0,1,0,1,0,1,0,1,0,1,0,1,0,1,0,1,0,1,0,1,0,1,0,1,0,1,",
  "0,1,0,1,0,1,0,1,0,1,0,1,0,1,0,1,0,1,0,1,0,1,0,1,0,1,0,1,0,1,0,1,0,1,0,1,0,1,0,1,0,1,0,1,0,1,",
  "0,1,0,1,0,1,0,1,0,1,0,1,0,1,0,1,0,1,0,1,0,1,0,1,0,1,0,1,0,1,0,1,0,1,0,1,0,1,0,1,0,1,0,1,0,1,",
  "0,1,0,1,0,1,0,1,6,5,0,1,0,1,0,1,0,1,0,1,0,1,0,1,0,1,0,1,0,1,0,1,0,1,0,1,0,1,0,1,0,1,0,1,0,1,",
  "0,1,0,1,0,1,0,1,0,1,0,1,0,1,0,1,0,1,0,1,0,1,0,1,0,1,0,1,0,1,0,1,0,1,0,1,0,1,0,1,0,1,0,1,0,1,",
  "0,1,0,1,0,1,0,1,0,1,0,1,8,8,5,A,7,8,7,8,5,A,7,8,7,8,D,2,34,1,1,4,0,1,0,3,2,1,1,4,0,3,3,2,1,8,",
  "7,A,2,1,1,4,0,151,0,21,F,4,0,34B,19,746,2F,1,0,3,1,1,0,1,0,1,0,6,0,2,0,A,0,1,0,1,0,1,0,1,0,1,",
  "0,1,0,1,0,1,0,1,0,1,0,1,0,1,0,1,0,1,0,1,0,1,0,1,0,1,0,1,0,1,0,1,0,1,0,1,0,1,0,1,0,1,0,1,0,1,",
  "0,1,0,1,0,1,0,1,0,1,0,1,0,1,0,1,0,1,0,1,0,1,0,1,0,1,0,1,0,1,0,1,0,1,0,1,0,1,0,1,0,1,0,8,0,1,",
  "0,4,0,C,25,1,0,5,0,7913,0,1,0,1,0,1,0,1,0,1,0,1,0,1,0,1,0,1,0,1,0,1,0,1,0,1,0,1,0,1,0,1,0,1,",
  "0,1,0,1,0,1,0,1,0,1,0,13,0,1,0,1,0,1,0,1,0,1,0,1,0,1,0,1,0,1,0,1,0,1,0,1,0,1,0,87,0,1,0,1,0,",
  "1,0,1,0,1,0,1,0,3,0,1,0,1,0,1,0,1,0,1,0,1,0,1,0,1,0,1,0,1,0,1,0,1,0,1,0,1,0,1,0,1,0,1,0,1,0,",
  "1,0,1,0,1,0,1,0,1,0,1,0,1,0,1,0,1,0,1,0,1,0,1,0,A,0,1,0,2,0,1,0,1,0,1,0,1,0,4,0,4,0,1,1,2,0,",
  "1,0,1,0,1,0,1,0,1,0,1,0,1,0,1,0,1,0,B,0,1,0,1,0,1,0,1,0,1,0,1,0,1,0,4,0,1,0,2,0,3,0,1,0,1,0,",
  "1,0,1,0,1,0,1A,0,35C,0,1C,4F,4F40,6,C,4,429,19,4CD,27,88,23,9B,A,1,E,1,6,1,1,703,32,7D,15,",
  "B3A,1F,5580,1F,7AA2,21"]

/-- The code points with the property Dash. -/
def dashText : String :=
  String.join [
  "2D,0,55C,0,33,0,E41,0,405,0,809,5,3D,0,27,0,F,0,186,0,C04,0,2,0,1F,1,4,0,1C,0,1BE,0,13,0,6F,",
  "0,CD90,1,25,0,A,0,A9,0,E60,0,13E,0"]

/-- The code points with the property Default Ignorable Code Point. -/
def defaultIgnorableCodePointText : String :=
  String.join [
  "AD,0,2A1,0,2CC,0,B42,1,653,1,55,4,7FB,4,1A,4,31,F,10F4,0,CC9B,F,EF,0,A0,0,4F,8,BCA7,3,14CF,7,",
  "C2E85,FFF"]

/-- The code points with the property Deprecated. -/
def deprecatedText : String :=
  "149,0,529,0,903,0,1,0,829,1,8C5,5,2B9,1,DDCD6,0"

/-- The code points with the property Diacritic. -/
def diacriticText : String :=
  String.join [
  "5E,0,1,0,47,0,6,0,4,0,2,1,1F7,9E,1,7,5,5,11,1,4,0,9,1,FD,4,D1,0,37,2C,1,0,1,1,1,1,1,0,83,7,4,",
  "1,86,1,4,1,3,2,43,1A,5B,A,3A,A,22,1,7E,7,29,9,10,1B,3D,0,10,0,3,3,1C,0,4A,0,10,0,6E,0,10,0,",
  "6E,0,10,0,2F,2,3C,0,10,0,7,0,77,0,6E,0,10,0,6E,0,10,0,6D,1,10,0,7C,0,6F,0,C,5,1,0,6B,0,D,4,",
  "4B,1,1B,0,1,0,1,0,4,1,42,2,1,1,3E,0,70,0,1,1,28,1,4,4,19,6,1,0,A,1,2C1,2,3B4,1,1E,0,94,A,9,0,",
  "15B,2,124,0,14,7,2,0,30,E,2,A,68,0,F,0,26,8,36,1,3A,0,B,1,42,1,40,5,52,18,4,0,6,0,2,2,32,3E,",
  "30,23,5,B,25,A,1BD,0,1,2,B,2,D,2,D,2,D,1,CF0,2,13D,0,1FA,5,69,3,5F,0,7572,0,C,1,1,0,1C,1,52,",
  "1,E,21,66,2,6D,1,C,0,25,0,97,0,1B,11,39,3,24,0,5F,0,C,0,24,0,95,2,41,3,33,0,64,4,9,2,80,1,",
  "4F30,0,301,F,10E,0,1,0,2F,0,2D,1,43,0,2FC,0,49F,5,1,29,1,8,27D,2,4,0,A5,1,23B,5,26,0,1A,4,",
  "18F,2,46,A,31,3,C0,0,29,0,48,1,78,1,3E,0,4C,0,9,2,68,1,B2,1,50,1,10,0,18,6,3,4,59,2,1,1,D,1,",
  "5F,0,3,0,7B,1,FB,1,7E,0,76,1,73,0,10D,1,102,1,4,0,9C,0,53,0,12,0,51,0,1A5,0,102,0,1,1,51,0,",
  "1A9,1,17,0,14EC,E,2CD9,0,9C0,4,3B,6,234,1,222,10,50,1,3FFE,3,1,6,1,1,1F01,2D,2,16,220,2,3,5,",
  "8,7,2,6,1E,3,E82,3D,C2,6,177,0,3D,3,2FE,1,2E0,6,6D,2,1,2"]

/-- The code points with the property Emoji. -/
def emojiText : String :=
  String.join [
  "23,0,6,0,5,9,6F,0,4,0,1F8D,0,C,0,D8,0,16,0,5A,5,F,1,16F,1,C,0,A6,0,19,A,4,2,C7,0,E7,1,A,0,9,",
  "0,3A,3,1,4,9,0,2,0,2,1,2,0,4,0,2,0,1,1,2,0,3,0,3,1,8,2,5,0,1,0,5,B,B,1,2,0,1,1,1,0,12,0,2,1,",
  "12,5,1,0,1,1,3,1,5,0,2,1,4,1,B,1,5,1,2,0,5,1,1,0,1,1,14,1,5,5,1,3,2,0,4,0,2,0,2,5,1,0,2,0,1,",
  "0,1,0,6,0,3,0,6,0,A,1,F,0,2,0,4,0,1,0,4,2,1,0,B,1,30,2,9,0,E,0,E,0,174,1,1CF,2,13,1,33,0,4,0,",
  "4DA,0,C,0,259,0,1,0,1BD6A,0,CA,0,A0,1,C,1,E,0,2,9,4B,19,1,1,17,0,14,0,2,8,15,1,AE,21,2,6F,2,",
  "1,1,2,2,52,2,2,1,106,1,3E,B,5,1,17,7,1,2,7,C,0,2,3,2,0,4,1,D,1,2,0,8,1,9,0,5,2,C,2,8,2,2,0,1,",
  "0,4,0,6,0,3,0,6,55,30,45,5,7,2,2,4,9,3,0,1,1,3,0,2,9,E3,B,4,0,11B,2E,1,9,1,B8,70,C,3,9,5,37,",
  "7,E,2,A,6,8"]

/-- The code points with the property Emoji Component. -/
def emojiComponentText : String :=
  "23,0,6,0,5,9,1FD3,0,D5,0,DD2B,0,F3D6,19,1FB,4,5B0,3,C066C,5F"

/-- The code points with the property Emoji Modifier. -/
def emojiModifierText : String :=
  "1F3FB,4"

/-- The code points with the property Emoji Modifier Base. -/
def emojiModifierBaseText : String :=
  String.join [
  "261D,0,DB,0,10,3,1CC77,0,3C,2,2,0,2,2,75,1,2,A,15,12,3,0,4,2,1,2,7,0,1,0,18,0,C9,1,4,0,15,0,",
  "4,1,AE,2,3,4,53,0,10,2,9,0,B,0,23F,0,2,0,8,7,6,0,9,9,2,2,38,0,3D,1,1,1,1,0,11,2,1,C,E5,2,2A,",
  "8"]

/-- The code points with the property Emoji Presentation. -/
def emojiPresentationText : String :=
  String.join [
  "231A,1,CD,3,3,0,2,0,209,1,15,1,32,B,2B,0,13,0,D,0,8,1,11,1,5,1,8,0,5,0,15,0,7,1,1,0,4,0,2,0,",
  "7,0,4,1,1C,0,23,0,1,0,4,2,1,0,3D,2,18,0,E,0,35B,1,33,0,4,0,1C4AE,0,CA,0,BE,0,2,9,4B,19,1,0,",
  "18,0,14,0,2,4,1,2,15,1,AE,20,C,8,1,45,1,15,C,2A,4,4,C,10,3,0,3,46,1,0,1,BA,2,3E,D,3,1,17,12,",
  "0,1A,1,D,0,56,54,30,45,6,0,3,2,2,2,4,3,B,1,7,8,E3,B,4,0,11B,2E,1,9,1,B8,70,C,3,9,5,37,7,E,2,",
  "A,6,8"]

/-- The code points with the property Extended Pictographic. -/
def extendedPictographicText : String :=
  String.join [
  "A9,0,4,0,1F8D,0,C,0,D8,0,16,0,5A,5,F,1,16F,1,C,0,A6,0,19,A,4,2,C7,0,E7,1,A,0,9,0,3A,3,1,4,9,",
  "0,2,0,2,1,2,0,4,0,2,0,1,1,2,0,3,0,3,1,8,2,5,0,1,0,5,B,B,1,2,0,1,1,1,0,12,0,2,1,12,5,1,0,1,1,",
  "3,1,5,0,2,1,4,1,B,1,5,1,2,0,5,1,1,0,1,1,14,1,5,5,1,3,2,0,4,0,2,0,2,5,1,0,2,0,1,0,1,0,6,0,3,0,",
  "6,0,A,1,F,0,2,0,4,0,1,0,4,2,1,0,B,1,30,2,9,0,E,0,E,0,174,1,1CF,2,13,1,33,0,4,0,4DA,0,C,0,259,",
  "0,1,0,1BD6A,0,27,3,64,B,F,1,F,0,E,1,25,9,70,1,C,1,E,0,2,9,13,37,1B,E,A,0,14,0,2,8,1,3,9,16,6,",
  "BB,2,6F,2,1,1,2,2,52,2,2,1,3,5,FD,1,3E,B,5,1,17,7,1,2,7,C,0,2,3,2,0,4,1,D,1,2,0,8,1,9,0,5,2,",
  "C,2,8,2,2,0,1,0,4,0,6,0,3,0,6,55,30,45,5,7,2,10,3,0,1,5,2,C,DA,25,C,3,38,7,A,5,28,7,1E,1,C,3,",
  "2,D,9,26,C,2E,1,9,1,B8,58,7,E,91,100,3FD"]

/-- The code points with the property Extender. -/
def extenderText : String :=
  String.join [
  "B7,0,218,1,36E,0,1B9,0,276,0,89,0,59,0,2F0,0,7F,0,943,0,38,0,263,0,18E,0,44,0,1389,0,2B,4,67,",
  "1,5D,2,6F16,0,5F6,0,3C2,0,16,0,89,0,6C,0,15,1,547B,0,810,1,5CB,0,1B,0,4,0,4C7,0,125,0,74,1,",
  "1F2,2,4CF,0,50A9,1,49C,1,1,0,7158,1,4B1,0,354,2"]

/-- The code points with the property Grapheme Base. -/
def graphemeBaseText : String :=
  String.join [
  "20,5E,21,C,1,251,70,7,2,5,4,6,1,0,1,13,1,DF,7,A5,1,25,2,31,2,2,2E,0,1,0,2,0,2,0,9,1A,4,5,11,",
  "9,B,0,1,2D,15,F,1,64,8,0,6,1,2,0,4,1F,2,0,1,1D,1D,58,B,0,E,2A,9,6,3,17,4,0,9,0,3,0,7,E,1,18,",
  "5,0,1,A,5,1E,11,29,39,36,1,0,1,3,8,3,1,2,7,9,2,1C,1,1,1,7,2,1,2,15,1,6,1,0,3,3,3,0,1,1,6,1,2,",
  "1,1,0,D,1,1,2,4,17,5,0,1,5,4,1,2,15,1,6,1,1,1,1,1,1,4,2,18,3,1,0,7,9,2,2,1,0,C,0,1,8,1,2,1,",
  "15,1,6,1,1,1,4,3,3,8,0,1,1,3,0,F,1,4,B,7,0,8,1,1,7,2,1,2,15,1,6,1,1,1,4,3,0,2,0,6,1,2,1,F,1,",
  "1,2,4,11,B,0,1,5,3,2,1,3,3,1,1,0,1,1,3,1,3,2,3,B,5,0,1,1,3,2,1,2,3,0,15,14,6,2,1,7,1,2,1,16,",
  "1,F,3,0,3,3,13,2,2,0,2,1,4,9,7,9,1,A,1,2,1,16,1,9,1,4,3,1,2,0,1,1,18,1,1,1,4,9,1,2,E,A,1,2,1,",
  "28,2,0,1,1,5,2,1,2,1,1,4,2,1,9,4,19,2,1,1,11,3,17,1,8,1,0,2,6,9,1,6,6,7,9,2,2,C,2F,1,1,B,7,8,",
  "C,25,1,1,0,1,4,1,17,1,0,1,9,1,1,9,0,2,4,1,0,9,9,2,3,20,17,2,1A,1,0,1,0,1,D,1,23,12,0,5,0,2,4,",
  "31,7,1,5,1,C,25,2C,4,0,6,0,2,1,2,18,2,3,3,F,4,C,1,1,2,5,1,E,1,27,1,0,5,0,2,178,1,3,2,6,1,0,1,",
  "3,2,28,1,3,2,20,1,3,2,6,1,0,1,3,2,E,1,38,1,3,2,42,5,1C,3,19,6,55,2,5,2,29C,3,58,7,11,D,12,3,",
  "1,9,11,E,C,1,2,F,33,2,0,7,7,1,1,B,8,3,9,6,9,6,A,5,9,6,58,7,4,2,21,1,0,5,45,A,1E,4,3,2,2,4,1,",
  "1,5,7,0,3,29,2,4,B,2B,4,19,6,A,3,38,2,1,3,37,1,0,9,0,1,1,8,5,D,9,6,9,6,D,56,2F,A,3,3,7,1,1C,",
  "9,B,2,1F,4,1,6,37,1,0,2,2,1,0,D,2F,8,1,5,E,3,3D,5,2A,2,A,B,0,D,0,7,3,1,5,1,2,2,0,5,BF,40,115,",
  "2,5,2,25,2,5,2,7,1,0,1,0,1,0,1,1E,2,34,1,E,1,D,2,5,1,12,2,2,1,8,1,A,5,17,7,30,10,1,2,1A,1,C,",
  "3,20,3F,8B,4,299,16,A,15,713,2,1F,1,157,3,1,5,2C,1,0,5,0,2,37,7,1,F,16,9,6,1,6,1,6,1,6,1,6,1,",
  "6,1,6,1,6,21,5D,22,19,1,58,C,D5,1A,39,6,F,1,55,4,64,5,2A,1,5D,1,55,9,2F,1,726C,3,36,9,15B,14,",
  "2E,4,0,A,1F,2,4F,2,5,8,CD,2,1,1,0,1,7,15,F,1,2,1,3,1,18,2,4,4,9,6,37,8,43,A,B,18,C,1,25,8,18,",
  "B,0,C,1D,6,2F,1,1,4,1,2,1,1,C,1,A,4,6,1,18,1,28,6,1,2,1,B,2,1,7,1,0,2,9,2,1F,1,32,1,0,3,1,2,",
  "4,2,0,1,0,18,10,2,7,B,5,2,5,2,5,9,6,1,6,1,3B,4,74,1,1,1,3,3,9,6,2BA3,C,16,4,30,2104,16D,2,69,",
  "26,6,C,4,5,0,1,17,1,4,1,0,1,1,1,1,1,7C,10,1BC,2,35,7,0,20,F,10,9,16,22,1,12,1,3,4,4,1,86,4,",
  "9C,2,1E,3,5,2,5,2,5,2,2,3,6,1,6,D,1,2,B,1,19,1,12,1,1,1,E,2,D,22,7A,5,2,4,2C,3,57,1,C,3,0,2F,",
  "2C,83,1C,3,30,10,1A,4,23,9,1D,5,25,A,1D,1,24,4,D,2A,9D,2,9,6,23,4,23,4,27,8,33,B,B,1,E,1,6,1,",
  "1,1,A,1,E,1,6,1,1,3,33,C,136,9,15,A,7,18,5,1,29,1,8,45,5,2,0,1,2B,1,1,3,0,2,16,1,47,8,8,30,",
  "12,1,1,5,20,3,1A,5,0,40,37,4,13,2,2E,F,3,1,2,1,1C,A,8,7,8,7,3F,20,24,6,B,9,35,3,1C,2,1A,5,19,",
  "7,3,C,6,50,48,37,32,D,32,7,29,C,9,6,25,8,17,8,1,D0,1E,1,29,3,0,2,1,10,2,3B,27,8,15,B,8,16,11,",
  "4,3,26,1B,14,16,9,0,1,35,F,6,4,1D,1,1,2,0,C,30,4,1,2,1,1,3,E,18,7,9,9,23,5,0,9,11,8,22,1,2,B,",
  "33,9,0,1,7,4,1,1,F,1,13,B,11,1,1B,3,1,4,5,1,1,3F,6,1,0,1,3,1,E,1,A,6,2E,1,2,D,9,8,1,1,7,2,1,",
  "2,15,1,6,1,1,1,4,3,0,1,0,1,3,2,1,2,1,3,0,C,6,1C,9,1,0,2,0,1,25,1,0,1,1,F,0,1,1,3,0,1,2,1,1,",
  "27,37,8,1,3,0,1,14,1,0,1,2,1E,2F,1,1,6,0,1,1,1,0,2,0,2,3,8,9,A6,2E,1,1,6,3,2,0,2,1A,24,32,8,",
  "1,1,0,2,3,B,9,6,C,13,2A,1,0,1,1,8,1,6,9,6,13,1C,1A,3,0,1,1,4,0,9,16,B9,2E,9,0,2,0,64,52,C,7,",
  "2,0,2,7,1,1,1,17,1,4,1,1,6,3,1,2,9,9,46,7,2,29,8,3,1,3,1B,0,A,27,6,1,4,7,9,0,6,1,3,2D,D,0,2,",
  "8,D,48,7,9,B6,21,E,9,6,8,1,25,E,0,1,5,A,1C,3,1F,19,0,7,0,2,0,4B,6,1,1,1,25,15,0,9,9,6,5,1,1,",
  "1,24,4,1,1,0,1,0,7,9,136,12,2,3,9,E,1,23,8,1,3,16,56,0,F,31,D,39A,66,6E,1,4,B,C3,A4C,62,D,",
  "42F,11,5,19,F9A,5,246,1AB9,1D,C,2,3,9,6C6,238,7,1E,1,9,4,50,1,9,6,1D,7,0,A,2F,7,E,A,9,1,6,1,",
  "14,5,12,1B0,39,C6,5A,65,4A,5,37,B,C,40,3,1C,17F7,8,4D5,29,9,22E7,3,1,6,1,1,1,122,F,0,1D,2,2,",
  "0,E,3,8,18B,904,6A,5,C,3,8,7,9,2,0,2,0,F60,F9,6,1B3,9C,73,3C,F5,A,26,2,3B,5,2,16,1,7,1D,4,3C,",
  "15,41,3,0,7A,13,C,13,C,56,9,18,87,54,1,46,1,1,2,0,2,1,2,3,1,B,1,0,1,6,1,40,1,3,2,7,1,6,1,1B,",
  "1,3,1,4,1,0,3,6,1,153,2,123,2,231,37,3,32,7,1,D,1,6,474,1E,6,5,105,3D,92,2C,A,6,2,9,4,1,140,",
  "1D,12,2B,4,9,5,0,1D0,1B,4,9,D6,1D,2,A,4,0,1E0,6,1,3,1,1,1,E,1,C4,2,8,30,43,7,0,4,9,4,1,311,",
  "43,4C,3C,C2,3,1,1A,1,1,1,0,2,0,1,9,1,3,1,0,1,0,6,0,4,0,1,0,1,0,1,2,1,1,1,0,2,0,1,0,1,0,1,0,1,",
  "0,1,1,1,0,2,3,1,6,1,3,1,3,1,0,1,9,1,10,5,2,1,4,1,10,34,1,10E,2B,4,63,C,E,2,E,1,E,1,24,A,AD,",
  "38,1C,D,2B,4,8,7,1,E,5,9A,3D7,4,10,3,C,3,76,4,5E,6,B,4,0,F,B,4,37,8,9,6,27,8,1D,2,B,4,1,3E,",
  "153,C,D,2,C,3,9,5,37,7,E,2,A,6,8,7,92,1,65,406,A6DF,20,1039,6,DD,2,1681,E,1D30,F,26D,9A2,21D,",
  "5E2,134A,5,105F"]

/-- The code points with the property Grapheme Extend. -/
def graphemeExtendText : String :=
  String.join [
  "300,6F,113,6,107,2C,1,0,1,1,1,1,1,0,48,A,30,14,10,0,65,6,2,5,2,1,1,3,23,0,1E,1A,5B,A,3A,8,9,",
  "0,18,3,1,8,1,2,1,4,2B,2,3B,8,2A,17,1,1F,37,0,1,0,4,7,4,0,3,6,A,1,1D,0,3A,0,1,0,2,3,8,0,9,0,A,",
  "1,1A,0,2,1,39,0,4,1,4,1,2,2,3,0,1E,1,3,0,B,1,39,0,4,4,1,1,4,0,14,1,16,5,1,0,3A,0,1,1,1,3,8,0,",
  "7,2,A,1,1E,0,3B,0,1,0,C,0,9,0,28,0,3,0,37,0,1,2,5,2,1,3,7,1,B,1,1D,0,3A,0,2,1,1,0,3,2,1,3,7,",
  "1,B,1,1C,1,39,1,1,0,2,3,8,0,9,0,A,1,1D,0,48,0,4,0,2,2,1,0,8,0,51,0,2,6,C,7,62,0,2,8,B,6,49,1,",
  "1B,0,1,0,1,0,37,D,1,4,1,1,5,A,1,23,9,0,66,3,1,5,1,1,2,1,19,1,4,2,10,3,D,0,2,1,6,0,F,0,2BF,2,",
  "3B2,3,1C,2,1D,1,1E,1,40,1,1,6,8,0,2,A,9,0,2D,2,1,0,75,1,22,0,76,2,4,1,9,0,6,2,DB,1,2,0,3A,0,",
  "1,6,1,0,1,0,2,7,6,9,2,0,30,1E,31,3,30,9,4,2,26,8,C,1,20,3,2,5,38,0,1,1,3,0,1,4,38,7,2,1,98,2,",
  "1,C,1,6,4,0,6,0,3,1,C6,3F,20C,0,C3,20,BFE,2,8D,0,60,1F,22A,5,69,1,75D4,3,1,9,20,1,50,1,110,0,",
  "3,0,4,0,19,1,5,0,97,1,1A,11,D,0,26,7,19,A,1,0,2C,2,30,0,2,3,2,1,2,0,24,0,43,5,2,1,2,1,C,0,8,",
  "0,2F,0,33,0,1,2,2,1,5,1,1,0,2A,1,8,0,EE,0,2,0,4,0,4F30,0,2E1,F,10,F,16E,1,25D,0,E2,0,95,4,",
  "686,2,1,1,5,3,28,2,4,0,A5,1,23D,3,41,4,13D,1,4F,3,46,A,31,3,7B,0,36,E,29,0,2,1,A,2,31,3,2,1,",
  "7,0,3D,2,24,4,1,7,3E,0,C,1,34,8,1,0,8,3,2,0,5F,2,2,3,6,0,2,0,9D,0,3,7,15,1,39,1,1,0,1,0,C,0,",
  "9,0,E,6,3,4,43,0,2,5,1,0,2,0,1,2,4,2,1,0,E,1,55,7,2,2,1,0,17,0,51,0,2,5,1,0,2,0,1,1,1,1,EB,0,",
  "2,3,6,1,1,1,1B,1,55,7,2,0,1,1,6A,0,1,0,2,7,65,0,1,0,2,3,1,4,103,8,1,1,F5,0,A,3,4,0,90,3,2,1,",
  "4,0,20,9,28,5,2,3,8,0,9,5,2,2,2E,C,1,1,196,6,1,5,1,0,52,15,2,6,1,1,1,1,7A,5,3,0,1,1,1,6,1,0,",
  "48,1,3,0,1,0,15B,1,B,1,34,4,5,2,17,0,14E5,0,6,E,2CC8,B,3,2,9C0,4,3B,6,418,0,3F,3,51,0,B,1,",
  "4CAB,1,1261,2D,2,16,21E,4,3,5,8,7,2,6,1E,3,94,2,7BB,36,4,31,8,0,E,0,16,4,1,E,550,6,1,10,2,6,",
  "1,1,1,4,64,0,A0,6,177,0,3D,3,1FC,3,FE,1,2E0,6,6D,6,C16D5,5F,80,EF"]

/-- The code points with the property Grapheme Link. -/
def graphemeLinkText : String :=
  String.join [
  "94D,0,7F,0,7F,0,7F,0,7F,0,7F,0,7F,0,7F,0,6D,1,10,0,7C,0,6F,0,7F,0,C9,0,B4,1,6D9,1,1E,0,9D,0,",
  "28D,0,E3,0,65,1,46,1,118B,0,7A86,0,25,0,97,0,8E,0,6C,0,135,0,F6,0,5E51,0,606,0,29,0,E,0,39,0,",
  "79,1,8B,0,74,0,B4,0,62,0,80,2,71,0,7F,0,FC,0,7F,0,76,0,74,0,10D,0,103,1,A1,0,53,0,12,0,51,0,",
  "1A5,0,104,1,51,0,1A9,1,41EC,0"]

/-- The code points with the property Hex Digit. -/
def hexDigitText : String :=
  "30,9,7,5,1A,5,FEA9,9,7,5,1A,5"

/-- The code points with the property Hyphen. -/
def hyphenText : String :=
  "2D,0,7F,0,4DC,0,127B,0,809,1,E05,0,2E3,0,CD67,0,A9,0,57,0"

/-- The code points with the property IDS Binary Operator. -/
def idsBinaryOperatorText : String :=
  "2FF0,1,2,9,1F1,0"

/-- The code points with the property IDS Trinary Operator. -/
def idsTrinaryOperatorText : String :=
  "2FF2,1"

/-- The code points with the property IDS Unary Operator. -/
def idsUnaryOperatorText : String :=
  "2FFE,1"

/-- The code points with the property ID Compat Math Continue. -/
def idCompatMathContinueText : String :=
  "B2,1,5,0,1FB6,0,3,A,1,E,173,0,4,0,16,0,1B4A2,0,19,0,1F,0,19,0,1F,0,19,0,1F,0,19,0,1F,0,19,0"

/-- The code points with the property ID Compat Math Start. -/
def idCompatMathStartText : String :=
  "2202,0,4,0,16,0,1B4A2,0,19,0,1F,0,19,0,1F,0,19,0,1F,0,19,0,1F,0,19,0"

/-- The code points with the property ID Continue. -/
def idContinueText : String :=
  String.join [
  "30,9,7,19,4,0,1,19,2F,0,A,0,1,0,2,0,5,16,1,1E,1,1C9,4,B,E,4,7,0,1,0,11,74,1,1,2,3,1,0,6,4,1,",
  "0,1,13,1,52,1,8A,1,4,2,A5,1,25,2,0,6,28,8,2C,1,0,1,1,1,1,1,0,8,1A,4,3,1D,A,5,49,4,65,1,7,2,9,",
  "1,12,2,0,10,3A,2,64,E,35,4,0,2,0,2,2D,12,1B,4,A,5,17,1,5,8,4A,1,80,2,9,1,12,1,7,2,1,2,15,1,6,",
  "1,0,3,3,2,8,2,1,2,3,8,0,4,1,1,4,2,B,A,0,1,0,2,2,1,5,4,1,2,15,1,6,1,1,1,1,1,1,2,0,1,4,4,1,2,2,",
  "3,0,7,3,1,0,7,F,B,2,1,8,1,2,1,15,1,6,1,1,1,4,2,9,1,2,1,2,2,0,F,3,2,9,9,6,1,2,1,7,2,1,2,15,1,",
  "6,1,1,1,4,2,8,2,1,2,2,7,2,4,1,1,4,2,9,1,0,10,1,1,5,3,2,1,3,3,1,1,0,1,1,3,1,3,2,3,B,4,4,3,2,1,",
  "3,2,0,6,0,E,9,10,C,1,2,1,16,1,F,2,8,1,2,1,3,7,1,1,2,2,0,2,3,2,9,10,3,1,7,1,2,1,16,1,9,1,4,2,",
  "8,1,2,1,3,7,1,6,1,1,3,2,9,1,2,C,C,1,2,1,32,1,2,1,4,5,3,7,4,2,9,A,5,1,2,1,11,3,17,1,8,1,0,2,6,",
  "3,0,4,5,1,0,1,7,6,9,2,1,D,39,5,E,1,9,27,1,1,0,1,4,1,17,1,0,1,16,2,4,1,0,1,6,1,9,2,3,20,0,17,",
  "1,6,9,B,0,1,0,1,0,4,9,1,23,4,13,1,11,1,23,9,0,39,49,6,4D,2,25,1,0,5,0,2,2A,1,14C,1,3,2,6,1,0,",
  "1,3,2,28,1,3,2,20,1,3,2,6,1,0,1,3,2,E,1,38,1,3,2,42,2,2,9,8,E,F,10,55,2,5,3,26B,2,10,1,19,5,",
  "4A,3,A,7,15,9,15,B,13,C,C,1,2,1,1,C,53,3,0,4,1,2,9,21,2,1,A,6,58,7,2A,5,45,A,1E,1,B,4,B,A,27,",
  "2,4,B,2B,4,19,6,A,25,1B,4,3E,1,1C,2,A,6,9,D,0,8,D,1,F,31,4C,3,9,11,8,C,73,C,37,8,9,3,30,2,A,",
  "5,2A,2,2,10,2,1,26,5,215,2,5,2,25,2,5,2,7,1,0,1,0,1,0,1,1E,2,34,1,6,1,0,3,2,1,6,3,3,2,5,4,C,",
  "5,2,1,6,F,1,31,1,13,0,1C,0,D,0,10,C,33,C,4,0,3,B,11,0,4,0,2,9,1,0,2,5,6,0,1,0,1,0,1,F,2,3,5,",
  "4,4,0,11,28,A77,E4,6,8,C,25,1,0,5,0,2,37,7,0,F,17,9,6,1,6,1,6,1,6,1,6,1,6,1,6,1,6,1,1F,205,2,",
  "19,E,1,4,2,4,4,55,2,6,1,5E,5,2A,1,5D,11,1F,30,F,200,19BF,40,568C,43,2D,2,10C,3,1B,14,2F,4,9,",
  "1,72,25,8,2,66,2,42,2,1,1,0,1,7,15,35,4,0,13,33,C,45,A,9,6,17,3,0,1,30,2,23,C,1C,3,40,E,A,6,",
  "1E,1,36,9,D,2,9,6,16,3,48,18,2,2,F,2,4,A,5,2,5,2,5,9,6,1,6,1,2A,1,D,6,7A,1,1,2,9,6,2BA3,C,16,",
  "4,30,2104,16D,2,69,26,6,C,4,5,B,1,C,1,4,1,0,1,1,1,1,1,6B,21,16A,12,3F,2,35,28,B,4,F,10,F,3,1,",
  "18,2,20,4,1,86,13,9,7,19,4,0,1,19,A,59,3,5,2,5,2,5,2,2,23,B,1,19,1,12,1,1,1,E,2,D,22,7A,45,",
  "34,88,0,82,1C,3,30,F,0,1F,1F,D,1D,5,2A,5,1D,2,23,4,7,1,4,2A,9D,2,9,6,23,4,23,4,27,8,33,C,A,1,",
  "E,1,6,1,1,1,A,1,E,1,6,1,1,3,33,C,136,9,15,A,7,18,5,1,29,1,8,45,5,2,0,1,2B,1,1,3,0,2,16,A,16,",
  "9,1E,41,12,1,1,A,15,A,19,46,37,6,1,40,3,1,1,5,7,1,2,1,1C,2,2,4,0,20,1C,3,1C,23,7,1,1D,19,35,",
  "A,15,A,12,D,11,6E,48,37,32,D,32,D,27,8,9,6,25,3,4,1,16,FA,29,1,1,3,1,10,2,37,20,A,0,8,20,1F,",
  "15,2A,14,1B,16,9,46,1F,F,9,3B,7,0,D,18,7,9,6,34,1,9,4,3,8,23,2,0,9,44,4,3,1,C,1,0,23,11,1,24,",
  "6,3,3E,6,1,0,1,3,1,E,1,9,7,3A,5,9,6,3,1,7,2,1,2,15,1,6,1,1,1,4,1,9,2,1,2,2,2,0,6,0,5,6,2,6,3,",
  "4,B,9,1,0,2,0,1,25,1,9,1,0,2,0,1,3,1,7,D,1,1D,4A,5,9,4,3,1E,45,1,0,8,9,A6,35,2,8,17,5,22,40,",
  "3,0,B,9,26,38,7,9,6,13,1C,1A,2,E,4,9,6,6,B9,3A,65,49,15,7,2,0,2,7,1,1,1,1D,1,1,2,8,C,9,46,7,",
  "2,2D,2,7,1,1,1B,3E,8,0,8,49,3,0,12,48,C7,20,F,9,6,8,1,2C,1,8,F,9,18,1D,2,15,1,D,49,6,1,1,1,",
  "2B,3,0,1,1,1,8,8,9,6,5,1,1,1,24,1,1,1,5,7,9,136,16,9,10,1,28,3,4,D,A,55,0,4F,399,66,6E,11,C3,",
  "A4C,60,F,42F,10,15,A,F9A,5,246,1AB9,39,6C6,238,7,1E,1,9,6,4E,1,9,6,1D,2,4,B,36,9,3,C,9,9,14,",
  "5,12,1B0,2C,3,9,C6,3F,80,4A,4,38,7,10,40,1,1,1,B,1,E,17F7,8,4D5,29,9,22E7,3,1,6,1,1,1,122,F,",
  "0,1D,2,2,0,E,3,8,18B,904,6A,5,C,3,8,7,9,3,1,1051,9,206,2D,2,16,21E,4,3,5,8,7,2,6,1E,3,94,2,",
  "1BB,54,1,46,1,1,2,0,2,1,2,3,1,B,1,0,1,6,1,40,1,3,2,7,1,6,1,1B,1,3,1,4,1,0,3,6,1,153,2,18,1,",
  "18,1,1E,1,18,1,1E,1,18,1,1E,1,18,1,1E,1,18,1,7,2,31,200,36,4,31,8,0,E,0,16,4,1,E,450,1E,6,5,",
  "D5,6,1,10,2,6,1,1,1,4,5,3D,21,0,70,2C,3,D,2,9,4,0,141,1E,11,39,1D6,29,D6,2A,1E5,6,1,3,1,1,1,",
  "E,1,C4,B,6,29,4B,4,9,4A6,3,1,1A,1,1,1,0,2,0,1,9,1,3,1,0,1,0,6,0,4,0,1,0,1,0,1,2,1,1,1,0,2,0,",
  "1,0,1,0,1,0,1,0,1,1,1,0,2,3,1,6,1,3,1,3,1,0,1,9,1,10,5,2,1,4,1,10,D34,9,406,A6DF,20,1039,6,",
  "DD,2,1681,E,1D30,F,26D,9A2,21D,5E2,134A,5,105F,ADD50,EF"]

/-- The code points with the property ID Start. -/
def idStartText : String :=
  String.join [
  "41,19,6,19,2F,0,A,0,4,0,5,16,1,1E,1,1C9,4,B,E,4,7,0,1,0,81,4,1,1,2,3,1,0,6,0,1,2,1,0,1,13,1,",
  "52,1,8A,8,A5,1,25,2,0,6,28,47,1A,4,3,2D,2A,23,1,1,62,1,0,F,1,7,1,A,2,2,0,10,0,1,1D,1D,58,B,0,",
  "18,20,9,1,4,0,5,15,4,0,9,0,3,0,17,18,7,A,5,17,1,5,11,29,3A,35,3,0,12,0,7,9,F,F,4,7,2,1,2,15,",
  "1,6,1,0,3,3,3,0,10,0,D,1,1,2,E,1,A,0,8,5,4,1,2,15,1,6,1,1,1,1,1,1,1F,3,1,0,13,2,10,8,1,2,1,",
  "15,1,6,1,1,1,4,3,0,12,0,F,1,17,0,B,7,2,1,2,15,1,6,1,1,1,4,3,0,1E,1,1,2,F,0,11,0,1,5,3,2,1,3,",
  "3,1,1,0,1,1,3,1,3,2,3,B,16,0,34,7,1,2,1,16,1,F,3,0,1A,2,2,0,2,1,1E,0,4,7,1,2,1,16,1,9,1,4,3,",
  "0,1F,1,1,1,F,1,11,8,1,2,1,28,2,0,10,0,5,2,8,2,18,5,5,11,3,17,1,8,1,0,2,6,3A,2F,1,1,C,6,3A,1,",
  "1,0,1,4,1,17,1,0,1,9,1,1,9,0,2,4,1,0,15,3,20,0,3F,7,1,23,1B,4,73,2A,14,0,10,5,4,3,3,0,3,1,7,",
  "2,4,C,C,0,11,25,1,0,5,0,2,2A,1,14C,1,3,2,6,1,0,1,3,2,28,1,3,2,20,1,3,2,6,1,0,1,3,2,E,1,38,1,",
  "3,2,42,25,F,10,55,2,5,3,26B,2,10,1,19,5,4A,3,A,7,11,D,12,E,11,E,C,1,2,F,33,23,0,4,0,43,58,7,",
  "28,1,0,5,45,A,1E,31,1D,2,4,B,2B,4,19,36,16,9,34,52,0,5D,2E,11,7,36,1D,D,1,A,2B,1A,23,29,2,A,",
  "23,2,A,5,2A,2,2,29,3,1,5,1,1,3,0,5,BF,40,115,2,5,2,25,2,5,2,7,1,0,1,0,1,0,1,1E,2,34,1,6,1,0,",
  "3,2,1,6,3,3,2,5,4,C,5,2,1,6,74,0,D,0,10,C,65,0,4,0,2,9,1,0,2,5,6,0,1,0,1,0,1,F,2,3,5,4,4,0,",
  "11,28,A77,E4,6,3,3,1,C,25,1,0,5,0,2,37,7,0,10,16,9,6,1,6,1,6,1,6,1,6,1,6,1,6,1,6,226,2,19,8,",
  "7,4,2,4,4,55,4,4,1,59,1,3,5,2A,1,5D,11,1F,30,F,200,19BF,40,568C,43,2D,2,10C,3,F,A,1,14,2E,10,",
  "1E,2,4F,27,8,2,66,2,42,2,1,1,0,1,7,15,F,1,2,1,3,1,16,1D,33,E,31,3E,5,3,0,1,1,B,1B,A,16,19,1C,",
  "7,2E,1C,0,10,4,1,9,A,4,1,28,17,2,1,7,14,16,3,0,3,31,1,0,3,1,2,4,2,0,1,0,18,2,2,A,7,2,C,5,2,5,",
  "2,5,9,6,1,6,1,2A,1,D,6,72,1D,2BA3,C,16,4,30,2104,16D,2,69,26,6,C,4,5,0,1,9,1,C,1,4,1,0,1,1,1,",
  "1,1,6B,21,16A,12,3F,2,35,28,B,74,4,1,86,24,19,6,19,B,58,3,5,2,5,2,5,2,2,23,B,1,19,1,12,1,1,1,",
  "E,2,D,22,7A,45,34,10B,1C,3,30,2F,1F,D,1D,5,25,A,1D,2,23,4,7,1,4,2A,9D,12,23,4,23,4,27,8,33,C,",
  "A,1,E,1,6,1,1,1,A,1,E,1,6,1,1,3,33,C,136,9,15,A,7,18,5,1,29,1,8,45,5,2,0,1,2B,1,1,3,0,2,16,A,",
  "16,9,1E,41,12,1,1,A,15,A,19,46,37,6,1,40,0,F,3,1,2,1,1C,2A,1C,3,1C,23,7,1,1B,1B,35,A,15,A,12,",
  "D,11,6E,48,37,32,D,32,D,23,26,1B,9,16,FA,29,6,1,10,2,3B,1C,A,0,8,15,2A,11,2E,14,1B,16,C,34,",
  "39,1,2,0,D,2C,20,18,1A,23,1D,0,2,0,8,22,3,0,C,2F,E,3,15,0,1,0,23,11,1,18,13,1,3F,6,1,0,1,3,1,",
  "E,1,9,7,2E,26,7,2,1,2,15,1,6,1,1,1,4,3,0,12,0,C,4,1E,9,1,0,2,0,1,25,1,0,19,0,1,0,2C,34,12,3,",
  "14,2,1E,2F,14,1,1,0,B8,2E,29,3,24,2F,14,0,3B,2A,D,0,47,1A,25,6,B9,2B,74,3F,1F,7,2,0,2,7,1,1,",
  "1,17,F,0,1,0,5E,7,2,26,10,0,1,0,1C,0,A,27,7,0,15,0,B,2D,13,0,12,48,C7,20,1F,8,1,24,11,0,31,",
  "1D,70,6,1,1,1,25,15,0,19,5,1,1,1,1F,E,0,147,12,F,0,1,C,1,21,7C,0,4F,399,66,6E,11,C3,A4C,60,F,",
  "42F,11,5,19,F9A,5,246,1AB9,1D,6E2,238,7,1E,11,4E,11,1D,12,2F,10,3,1F,14,5,12,1B0,2C,D3,3F,80,",
  "4A,5,0,42,C,40,1,1,0,1C,17F7,8,4D5,29,9,22E7,3,1,6,1,1,1,122,F,0,1D,2,2,0,E,3,8,18B,904,6A,5,",
  "C,3,8,7,9,1766,54,1,46,1,1,2,0,2,1,2,3,1,B,1,0,1,6,1,40,1,3,2,7,1,6,1,1B,1,3,1,4,1,0,3,6,1,",
  "153,2,18,1,18,1,1E,1,18,1,1E,1,18,1,1E,1,18,1,1E,1,18,1,7,734,1E,6,5,105,3D,92,2C,A,6,10,0,",
  "141,1D,12,2B,1E4,1B,E4,1D,2,0,1EF,6,1,3,1,1,1,E,1,C4,3B,43,7,0,4B4,3,1,1A,1,1,1,0,2,0,1,9,1,",
  "3,1,0,1,0,6,0,4,0,1,0,1,0,1,2,1,1,1,0,2,0,1,0,1,0,1,0,1,0,1,1,1,0,2,3,1,6,1,3,1,3,1,0,1,9,1,",
  "10,5,2,1,4,1,10,1144,A6DF,20,1039,6,DD,2,1681,E,1D30,F,26D,9A2,21D,5E2,134A,5,105F"]

/-- The code points with the property Ideographic. -/
def ideographicText : String :=
  String.join [
  "3006,1,19,8,E,2,3C5,19BF,40,51FF,5900,16D,2,69,750A,0,1B,17F7,8,4D5,29,9,2467,18B,4D04,A6DF,",
  "20,1039,6,DD,2,1681,E,1D30,F,26D,9A2,21D,5E2,134A,5,105F"]

/-- The code points with the property Join Control. -/
def joinControlText : String :=
  "200C,1"

/-- The code points with the property Logical Order Exception. -/
def logicalOrderExceptionText : String :=
  "E40,4,7B,4,AF0,2,2,0,90FA,1,2,0,1,1"

/-- The code points with the property Lowercase. -/
def lowercaseText : String :=
  String.join [
  "61,19,2F,0,A,0,4,0,24,17,1,7,1,0,1,0,1,0,1,0,1,0,1,0,1,0,1,0,1,0,1,0,1,0,1,0,1,0,1,0,1,0,1,0,",
  "1,0,1,0,1,0,1,0,1,0,1,0,1,0,1,0,1,0,1,0,1,0,1,1,1,0,1,0,1,0,1,0,1,0,1,0,1,0,1,1,1,0,1,0,1,0,",
  "1,0,1,0,1,0,1,0,1,0,1,0,1,0,1,0,1,0,1,0,1,0,1,0,1,0,1,0,1,0,1,0,1,0,1,0,1,0,1,0,2,0,1,0,1,2,",
  "2,0,1,0,2,0,3,1,4,0,2,0,3,2,2,0,2,0,1,0,1,0,2,0,1,1,1,0,2,0,3,0,1,0,2,1,2,2,6,0,2,0,2,0,1,0,",
  "1,0,1,0,1,0,1,0,1,0,1,0,1,1,1,0,1,0,1,0,1,0,1,0,1,0,1,0,1,0,1,1,2,0,1,0,3,0,1,0,1,0,1,0,1,0,",
  "1,0,1,0,1,0,1,0,1,0,1,0,1,0,1,0,1,0,1,0,1,0,1,0,1,0,1,0,1,0,1,0,1,0,1,0,1,0,1,0,1,0,1,0,1,0,",
  "1,0,1,6,2,0,2,1,1,0,4,0,1,0,1,0,1,0,1,44,2,22,7,1,1E,4,60,0,2B,0,1,0,3,0,2,3,12,0,1B,22,1,1,",
  "3,2,1,0,1,0,1,0,1,0,1,0,1,0,1,0,1,0,1,0,1,0,1,0,1,4,1,0,2,0,2,1,33,2F,1,0,1,0,1,0,1,0,1,0,1,",
  "0,1,0,1,0,1,0,1,0,1,0,1,0,1,0,1,0,1,0,1,0,1,0,9,0,1,0,1,0,1,0,1,0,1,0,1,0,1,0,1,0,1,0,1,0,1,",
  "0,1,0,1,0,1,0,1,0,1,0,1,0,1,0,1,0,1,0,1,0,1,0,1,0,1,0,1,0,1,0,2,0,1,0,1,0,1,0,1,0,1,0,1,1,1,",
  "0,1,0,1,0,1,0,1,0,1,0,1,0,1,0,1,0,1,0,1,0,1,0,1,0,1,0,1,0,1,0,1,0,1,0,1,0,1,0,1,0,1,0,1,0,1,",
  "0,1,0,1,0,1,0,1,0,1,0,1,0,1,0,1,0,1,0,1,0,1,0,1,0,1,0,1,0,1,0,1,0,1,0,1,0,1,0,1,0,1,0,1,0,1,",
  "0,1,0,30,28,B47,2A,1,3,2F8,5,882,8,1,0,75,BF,41,0,1,0,1,0,1,0,1,0,1,0,1,0,1,0,1,0,1,0,1,0,1,",
  "0,1,0,1,0,1,0,1,0,1,0,1,0,1,0,1,0,1,0,1,0,1,0,1,0,1,0,1,0,1,0,1,0,1,0,1,0,1,0,1,0,1,0,1,0,1,",
  "0,1,0,1,0,1,0,1,0,1,0,1,0,1,0,1,0,1,0,1,0,1,0,1,0,1,0,1,0,1,0,1,0,1,0,1,0,1,0,1,0,1,0,1,0,1,",
  "0,1,0,1,0,1,0,1,0,1,0,1,0,1,0,1,0,1,0,1,0,1,0,1,0,1,0,1,0,1,0,1,0,1,8,1,0,1,0,1,0,1,0,1,0,1,",
  "0,1,0,1,0,1,0,1,0,1,0,1,0,1,0,1,0,1,0,1,0,1,0,1,0,1,0,1,0,1,0,1,0,1,0,1,0,1,0,1,0,1,0,1,0,1,",
  "0,1,0,1,0,1,0,1,0,1,0,1,0,1,0,1,0,1,0,1,0,1,0,1,0,1,0,1,0,1,0,1,0,1,0,1,0,1,0,1,8,8,5,A,7,8,",
  "7,8,5,A,7,8,7,8,D,2,7,8,7,8,7,8,4,1,1,6,0,3,2,1,1,8,3,2,1,8,7,A,2,1,1,79,0,D,0,10,C,6D,0,3,1,",
  "3,0,1B,0,4,0,4,0,2,1,8,3,4,0,21,F,4,0,34B,19,746,2F,1,0,3,1,1,0,1,0,1,0,4,0,1,1,1,7,3,0,1,0,",
  "1,0,1,0,1,0,1,0,1,0,1,0,1,0,1,0,1,0,1,0,1,0,1,0,1,0,1,0,1,0,1,0,1,0,1,0,1,0,1,0,1,0,1,0,1,0,",
  "1,0,1,0,1,0,1,0,1,0,1,0,1,0,1,0,1,0,1,0,1,0,1,0,1,0,1,0,1,0,1,0,1,0,1,0,1,0,1,0,1,0,1,0,1,0,",
  "1,0,1,1,7,0,1,0,4,0,C,25,1,0,5,0,7913,0,1,0,1,0,1,0,1,0,1,0,1,0,1,0,1,0,1,0,1,0,1,0,1,0,1,0,",
  "1,0,1,0,1,0,1,0,1,0,1,0,1,0,1,0,1,0,13,0,1,0,1,0,1,0,1,0,1,0,1,0,1,0,1,0,1,0,1,0,1,0,1,0,1,2,",
  "85,0,1,0,1,0,1,0,1,0,1,0,1,2,1,0,1,0,1,0,1,0,1,0,1,0,1,0,1,0,1,0,1,0,1,0,1,0,1,0,1,0,1,0,1,0,",
  "1,0,1,0,1,0,1,0,1,0,1,0,1,0,1,0,1,0,1,0,1,0,1,0,1,0,1,0,1,9,1,0,1,0,2,0,1,0,1,0,1,0,1,0,4,0,",
  "1,0,2,0,1,2,1,0,1,0,1,0,1,0,1,0,1,0,1,0,1,0,1,0,1,0,5,0,5,0,1,0,1,0,1,0,1,0,1,0,1,0,1,0,4,0,",
  "1,0,2,0,3,0,1,0,1,0,1,0,1,0,1,0,16,2,1,0,1,2,335,2A,1,D,6,4F,4F40,6,C,4,429,19,4CD,27,88,23,",
  "9B,A,1,E,1,6,1,1,1C3,0,2,2,1,29,1,8,505,32,7D,15,B3A,1F,5580,1F,659A,19,1A,6,1,11,1A,19,1A,3,",
  "1,0,1,6,1,A,1A,19,1A,19,1A,19,1A,19,1A,19,1A,19,1A,19,1A,19,1A,1B,1C,18,1,5,1A,18,1,5,1A,18,",
  "1,5,1A,18,1,5,1A,18,1,5,1,0,734,9,1,13,6,5,105,3D,8B4,21"]

/-- The code points with the property Math. -/
def mathText : String :=
  String.join [
  "2B,0,10,2,1F,0,1D,0,1,0,2D,0,4,0,25,0,1F,0,2D8,2,2,0,1A,1,2,2,20F,2,1A0D,0,1B,2,B,0,3,0,D,0,",
  "E,3,15,4,B,4,41,C,4,0,3,1,4,4,12,0,4,0,2,9,1,0,2,5,6,0,3,1,2,1,1,2,1,5,3,D,1,0,44,17,1,5,1,1,",
  "4,1,4,1F,1,0,6,1,E,10B,8,3,14,1,5A,0,1E,1A,1,0,18,0,B,6,1BD,1,C,9,4,5,4,1,2,1,3,4,E,0,1,0,2,",
  "5,B,7,5,1,39,0,1,0,1D,3,9,2,150,3F,100,1FF,30,14,2,5,CFDC,0,337,5,1,0,A2,0,10,2,1D,0,1,0,1D,",
  "0,1,0,83,0,6,3,DA1,1,C670,54,1,46,1,1,2,0,2,1,2,3,1,B,1,0,1,6,1,40,1,3,2,7,1,6,1,1B,1,3,1,4,",
  "1,0,3,6,1,153,2,123,2,31,1600,3,1,1A,1,1,1,0,2,0,1,9,1,3,1,0,1,0,6,0,4,0,1,0,1,0,1,2,1,1,1,0,",
  "2,0,1,0,1,0,1,0,1,0,1,1,1,0,2,3,1,6,1,3,1,3,1,0,1,9,1,10,5,2,1,4,1,10,34,1"]

/-- The code points with the property Modifier Combining Mark. -/
def modifierCombiningMarkText : String :=
  "654,1,2,0,83,0,6,0,3,1,1E1,1,1,2,3,0,1F,0"

/-- The code points with the property Noncharacter Code Point. -/
def noncharacterCodePointText : String :=
  String.join [
  "FDD0,1F,20E,1,FFFE,1,FFFE,1,FFFE,1,FFFE,1,FFFE,1,FFFE,1,FFFE,1,FFFE,1,FFFE,1,FFFE,1,FFFE,1,",
  "FFFE,1,FFFE,1,FFFE,1,FFFE,1,FFFE,1"]

/-- The code points with the property Other Alphabetic. -/
def otherAlphabeticText : String :=
  String.join [
  "345,0,1D,C,240,D,1,0,1,1,1,1,1,0,48,A,30,C,1,6,10,0,65,6,4,3,2,1,4,0,23,0,1E,F,66,A,65,1,3,8,",
  "1,2,1,3,6A,0,3C,B,3,6,6,13,36,1,2,E,1,1,5,2,A,1,1D,2,3A,6,2,1,2,1,A,0,A,1,1D,2,3A,4,4,1,2,1,",
  "4,0,1E,1,3,0,B,2,3A,7,1,2,1,1,15,1,16,2,4,2,3A,6,2,1,2,1,9,1,A,1,1E,0,3B,4,3,2,1,2,A,0,28,4,",
  "39,6,1,2,1,2,8,1,B,1,1D,2,3A,6,1,2,1,2,8,1,B,1,F,0,C,3,3A,6,1,2,1,2,A,0,A,1,1D,2,4B,5,1,0,1,",
  "7,12,1,3D,0,2,6,12,0,63,0,2,5,1,1,10,0,A3,12,9,A,1,23,6E,B,1,0,2,3,17,3,4,2,1,2,2,6,3,3,D,B,",
  "1,0,A,3,674,1,1E,1,1E,1,1E,1,42,12,BC,1,22,0,76,B,4,8,DE,4,39,9,2,13,4A,1,B,2,31,4,30,E,3C,2,",
  "1E,8,2,1,39,A,32,12,19C,21,6C1,33,8F6,1F,7874,7,22,1,162,0,8,0,17,4,58,1,32,F,1,0,39,0,26,4,",
  "1C,B,2D,3,30,B,25,0,43,D,C,0,8,1,2D,2,32,0,1,2,2,1,5,0,2C,4,5,0,ED,7,4F33,0,857,4,686,2,1,1,",
  "5,3,314,3,41,0,141,1,4F,0,103,2,35,D,2D,1,B,2,2D,8,9,0,3D,2,24,B,12,1,39,2,30,C,E,1,5C,8,2,0,",
  "6,0,2,0,9D,9,17,3,3A,6,2,1,2,1,A,0,A,1,54,8,1,0,2,0,1,3,1,1,67,C,1,2,6A,11,ED,6,2,6,1D,1,52,",
  "E,1,0,6A,A,67,D,101,C,F7,5,1,1,2,1,3,0,1,0,8E,6,2,5,4,0,1C,9,2A,4,1,3,12,A,2E,D,197,7,1,6,53,",
  "15,1,D,7A,5,3,0,1,1,1,2,1,0,3,0,42,4,1,1,1,3,15C,3,9,1,1,0,30,6,3,2,41DD,10,E20,0,1,36,7,3,",
  "5D,1,4CAC,0,2361,6,1,10,2,6,1,1,1,4,64,0,8B7,0,7E8,19,6,19,6,19"]

/-- The code points with the property Other Default Ignorable Code Point. -/
def otherDefaultIgnorableCodePointText : String :=
  "34F,0,E0F,1,653,1,8AF,0,10FE,0,CE3B,0,4F,8,D0007,0,1,1D,60,7F,F0,E0F"

/-- The code points with the property Other Grapheme Extend. -/
def otherGraphemeExtendText : String :=
  String.join [
  "9BE,0,18,0,166,0,18,0,66,0,18,0,E8,0,1,0,4,1,1,1,9,1,67,0,18,0,77,0,F,0,935,0,1E,0,400,0,5,0,",
  "1,0,5,1,65,0,47,1,418,0,1021,1,7923,0,6C,0,55DD,1,1220,0,74,0,108,0,E,0,9,0,60,0,9,0,2,0,1,2,",
  "5,0,E0,0,C,0,F1,0,106,0,279,0,C,0,603,0,50AE,1,6173,1,6,5,C2EAD,5F"]

/-- The code points with the property Other ID Continue. -/
def otherIdContinueText : String :=
  "B7,0,2CF,0,FE1,8,668,0,631,1,10ED,0,CE69,0"

/-- The code points with the property Other ID Start. -/
def otherIdStartText : String :=
  "1885,1,891,0,15,0,F6C,1"

/-- The code points with the property Other Lowercase. -/
def otherLowercaseText : String :=
  String.join [
  "AA,0,F,0,1F5,8,7,1,1E,4,60,0,34,0,D81,0,C2F,3E,D,0,22,24,2B1,0,D,0,10,C,D3,F,350,19,792,1,",
  "7A1E,1,D2,0,81,2,3,1,362,3,9,0,5C16,0,2,2,1,29,1,8,D875,3D"]

/-- The code points with the property Other Math. -/
def otherMathText : String :=
  String.join [
  "5E,0,371,2,2,0,1A,1,2,1,1C20,0,1B,2,B,0,20,3,18,1,E,1,41,C,4,0,3,1,4,4,12,0,4,0,2,9,1,0,3,4,",
  "6,0,3,1,2,1,1,2,1,5,3,3,5,4,4B,4,2,3,1,1,1,1,1,0,1,4,2,1,4,1,4,11,2,1,1,0,1,6,1,0,6,1,122,3,",
  "A8,1,1,0,18,0,11,0,1BD,1,C,8,5,4,5,1,2,1,3,4,E,0,1,0,2,5,18,1,39,0,1,0,1D,3,9,1,156,1,1F,9,",
  "193,15,3F,3,20,1,D463,0,1,0,4,0,D3,0,1,0,D4C1,54,1,46,1,1,2,0,2,1,2,3,1,B,1,0,1,6,1,40,1,3,2,",
  "7,1,6,1,1B,1,3,1,4,1,0,3,6,1,153,2,18,1,18,1,1E,1,18,1,1E,1,18,1,1E,1,18,1,1E,1,18,1,7,2,31,",
  "1600,3,1,1A,1,1,1,0,2,0,1,9,1,3,1,0,1,0,6,0,4,0,1,0,1,0,1,2,1,1,1,0,2,0,1,0,1,0,1,0,1,0,1,1,",
  "1,0,2,3,1,6,1,3,1,3,1,0,1,9,1,10,5,2,1,4,1,10"]

/-- The code points with the property Other Uppercase. -/
def otherUppercaseText : String :=
  "2160,F,346,19,1CC60,19,6,19,6,19"

/-- The code points with the property Pattern Syntax. -/
def patternSyntaxText : String :=
  String.join [
  "21,E,A,6,1A,3,1,0,1A,3,22,6,1,0,1,1,1,0,1,1,4,0,4,0,3,0,17,0,1F,0,1F18,17,8,E,2,12,1,9,131,",
  "2CF,A0,275,1E,401,1,68,200,7F,181,2,4,18,F,0,CD0D,1,105,1"]

/-- The code points with the property Pattern White Space. -/
def patternWhiteSpaceText : String :=
  "9,4,12,0,64,0,1F88,1,18,1"

/-- The code points with the property Prepended Concatenation Mark. -/
def prependedConcatenationMarkText : String :=
  "600,5,D7,0,31,0,180,1,50,0,107DA,0,F,0"

/-- The code points with the property Quotation Mark. -/
def quotationMarkText : String :=
  "22,0,4,0,83,0,F,0,1F5C,7,19,1,E07,0,1C9,3,D,2,CE21,3,BD,0,4,0,5A,1"

/-- The code points with the property Radical. -/
def radicalText : String :=
  "2E80,19,1,58,C,D5"

/-- The code points with the property Regional Indicator. -/
def regionalIndicatorText : String :=
  "1F1E6,19"

/-- The code points with the property Sentence Terminal. -/
def sentenceTerminalText : String :=
  String.join [
  "21,0,C,0,10,0,549,0,93,2,B4,0,2B,2,F6,0,3D,0,1,0,3,1,125,1,6E4,1,316,0,4,1,305,0,C6,1,9D,1,",
  "2D,0,5,0,13A,1,162,3,A2,1,A,1,2,1,1D,2,BB,1,41,1,3A4,0,17,1,9,2,CAF,2,132,0,D,0,16,1,1AD,0,",
  "74FC,0,10E,1,E3,0,3,0,17E,1,56,1,5F,0,98,1,93,2,90,1,F9,0,5226,0,2,1,3B,0,3,1,A9,0,C,0,10,0,",
  "41,0,AF4,1,4FD,4,2C,3,BD,1,75,3,7F,2,81,1,6,0,10,1,58,1,1,1,6C,0,12A,1,75,1,175,1,5,E,69,1,",
  "F9,2,205,0,1,0,FB,1,57,1,1A4,1,2B4,1,4A,1,4B29,1,85,0,41,1,B,0,229,1,128,0,4E06,0,1DE8,0"]

/-- The code points with the property Soft Dotted. -/
def softDottedText : String :=
  String.join [
  "69,1,C4,0,119,0,1E,0,34,0,14,0,140,0,62,0,1,0,1909,0,33,0,D,0,3,0,84,0,9D,0,1A5,0,D6,1,B32,0,",
  "1A7A5,1,32,1,32,1,32,1,32,1,32,1,32,1,32,1,32,1,32,1,32,1,32,1,32,1,886,0,131,1,1A,0"]

/-- The code points with the property Terminal Punctuation. -/
def terminalPunctuationText : String :=
  String.join [
  "21,0,A,0,1,0,B,1,3,0,33E,0,8,0,201,0,39,0,48,0,E,0,1,2,B4,0,2B,A,1,0,EB,1,36,5,1,7,1F,0,105,",
  "1,4F4,1,AC,0,4,5,137,1,315,7,305,0,7C,2,47,1,9D,2,3,0,27,3,2,1,13A,1,162,3,A2,1,A,1,1,2,1D,2,",
  "BB,4,3E,1,3A4,0,17,1,9,2,CAF,2,132,0,D,0,4,0,A,0,1,1,3,1,1AC,1,74FB,1,10D,2,E3,4,17E,1,56,1,",
  "5F,0,97,2,93,2,7F,0,10,1,F9,0,5226,0,2,1,39,2,1,3,A9,0,A,0,1,0,B,1,3,0,41,0,2,0,43A,0,30,0,",
  "486,0,C7,0,136,1,98,5,44,5,59,3,3B8,4,2C,3,BD,6,70,3,7F,2,81,1,6,0,10,1,58,4,6C,0,12A,1,75,2,",
  "C,1,166,3,3,E,69,1,F9,2,205,0,1,0,FB,1,57,1,4,1,19E,2,2D,0,285,1,4A,1,52B,4,45F9,1,85,0,41,2,",
  "A,0,229,1,127,1,4E06,0,1DE7,3"]

/-- The code points with the property Unified Ideograph. -/
def unifiedIdeographText : String :=
  String.join [
  "3400,19BF,40,51FF,5A0E,1,1,0,1,1,A,0,1,0,1,1,2,2,105D6,A6DF,20,1039,6,DD,2,1681,E,1D30,F,26D,",
  "11A2,134A,5,105F"]

/-- The code points with the property Uppercase. -/
def uppercaseText : String :=
  String.join [
  "41,19,65,16,1,6,21,0,1,0,1,0,1,0,1,0,1,0,1,0,1,0,1,0,1,0,1,0,1,0,1,0,1,0,1,0,1,0,1,0,1,0,1,0,",
  "1,0,1,0,1,0,1,0,1,0,1,0,1,0,1,0,1,0,2,0,1,0,1,0,1,0,1,0,1,0,1,0,1,0,2,0,1,0,1,0,1,0,1,0,1,0,",
  "1,0,1,0,1,0,1,0,1,0,1,0,1,0,1,0,1,0,1,0,1,0,1,0,1,0,1,0,1,0,1,0,1,0,1,1,1,0,1,0,3,1,1,0,1,1,",
  "1,2,2,3,1,1,1,2,3,1,1,1,1,0,1,0,1,1,1,0,2,0,1,1,1,2,1,0,1,1,3,0,7,0,2,0,2,0,2,0,1,0,1,0,1,0,",
  "1,0,1,0,1,0,1,0,2,0,1,0,1,0,1,0,1,0,1,0,1,0,1,0,1,0,2,0,2,0,1,2,1,0,1,0,1,0,1,0,1,0,1,0,1,0,",
  "1,0,1,0,1,0,1,0,1,0,1,0,1,0,1,0,1,0,1,0,1,0,1,0,1,0,1,0,1,0,1,0,1,0,1,0,1,0,1,0,1,0,1,0,7,1,",
  "1,1,2,0,1,3,1,0,1,0,1,0,1,0,121,0,1,0,3,0,8,0,6,0,1,2,1,0,1,1,1,10,1,8,23,0,2,2,3,0,1,0,1,0,",
  "1,0,1,0,1,0,1,0,1,0,1,0,1,0,1,0,1,0,5,0,2,0,1,1,2,32,30,0,1,0,1,0,1,0,1,0,1,0,1,0,1,0,1,0,1,",
  "0,1,0,1,0,1,0,1,0,1,0,1,0,1,0,9,0,1,0,1,0,1,0,1,0,1,0,1,0,1,0,1,0,1,0,1,0,1,0,1,0,1,0,1,0,1,",
  "0,1,0,1,0,1,0,1,0,1,0,1,0,1,0,1,0,1,0,1,0,1,0,1,1,1,0,1,0,1,0,1,0,1,0,1,0,2,0,1,0,1,0,1,0,1,",
  "0,1,0,1,0,1,0,1,0,1,0,1,0,1,0,1,0,1,0,1,0,1,0,1,0,1,0,1,0,1,0,1,0,1,0,1,0,1,0,1,0,1,0,1,0,1,",
  "0,1,0,1,0,1,0,1,0,1,0,1,0,1,0,1,0,1,0,1,0,1,0,1,0,1,0,1,0,1,0,1,0,1,0,1,0,1,0,1,0,2,25,B49,",
  "25,1,0,5,0,2D2,55,893,0,6,2A,2,2,140,0,1,0,1,0,1,0,1,0,1,0,1,0,1,0,1,0,1,0,1,0,1,0,1,0,1,0,1,",
  "0,1,0,1,0,1,0,1,0,1,0,1,0,1,0,1,0,1,0,1,0,1,0,1,0,1,0,1,0,1,0,1,0,1,0,1,0,1,0,1,0,1,0,1,0,1,",
  "0,1,0,1,0,1,0,1,0,1,0,1,0,1,0,1,0,1,0,1,0,1,0,1,0,1,0,1,0,1,0,1,0,1,0,1,0,1,0,1,0,1,0,1,0,1,",
  "0,1,0,1,0,1,0,1,0,1,0,1,0,1,0,1,0,1,0,1,0,1,0,1,0,1,0,1,0,9,0,1,0,1,0,1,0,1,0,1,0,1,0,1,0,1,",
  "0,1,0,1,0,1,0,1,0,1,0,1,0,1,0,1,0,1,0,1,0,1,0,1,0,1,0,1,0,1,0,1,0,1,0,1,0,1,0,1,0,1,0,1,0,1,",
  "0,1,0,1,0,1,0,1,0,1,0,1,0,1,0,1,0,1,0,1,0,1,0,1,0,1,0,1,0,1,0,1,0,1,0,9,7,8,5,A,7,8,7,8,5,B,",
  "0,1,0,1,0,1,0,8,7,48,3,C,3,C,3,C,4,B,3,106,0,4,0,3,2,2,2,2,0,3,4,6,0,1,0,1,0,1,3,2,3,A,1,5,0,",
  "1A,F,13,0,332,19,730,2F,30,0,1,2,2,0,1,0,1,0,1,3,1,0,2,0,8,2,1,0,1,0,1,0,1,0,1,0,1,0,1,0,1,0,",
  "1,0,1,0,1,0,1,0,1,0,1,0,1,0,1,0,1,0,1,0,1,0,1,0,1,0,1,0,1,0,1,0,1,0,1,0,1,0,1,0,1,0,1,0,1,0,",
  "1,0,1,0,1,0,1,0,1,0,1,0,1,0,1,0,1,0,1,0,1,0,1,0,1,0,1,0,1,0,1,0,1,0,1,0,8,0,1,0,4,0,794D,0,1,",
  "0,1,0,1,0,1,0,1,0,1,0,1,0,1,0,1,0,1,0,1,0,1,0,1,0,1,0,1,0,1,0,1,0,1,0,1,0,1,0,1,0,1,0,13,0,1,",
  "0,1,0,1,0,1,0,1,0,1,0,1,0,1,0,1,0,1,0,1,0,1,0,1,0,87,0,1,0,1,0,1,0,1,0,1,0,1,0,3,0,1,0,1,0,1,",
  "0,1,0,1,0,1,0,1,0,1,0,1,0,1,0,1,0,1,0,1,0,1,0,1,0,1,0,1,0,1,0,1,0,1,0,1,0,1,0,1,0,1,0,1,0,1,",
  "0,1,0,1,0,1,0,1,0,A,0,1,0,1,1,1,0,1,0,1,0,1,0,4,0,1,0,2,0,1,0,3,0,1,0,1,0,1,0,1,0,1,0,1,0,1,",
  "0,1,0,1,0,1,4,1,4,1,0,1,0,1,0,1,0,1,0,1,0,1,0,1,3,1,0,1,1,3,0,5,0,1,0,1,0,1,0,18,0,572B,19,",
  "4C5,27,88,23,9C,A,1,E,1,6,1,1,6EA,32,9D,15,B3A,1F,5580,1F,65A0,19,1A,19,1A,19,1A,0,1,1,2,0,2,",
  "1,2,3,1,7,1A,19,1A,1,1,3,2,7,1,6,1B,1,1,3,1,4,1,0,3,6,1B,19,1A,19,1A,19,1A,19,1A,19,1A,19,1E,",
  "18,21,18,21,18,21,18,21,18,21,0,1135,21,80E,19,6,19,6,19"]

/-- The code points with the property Variation Selector. -/
def variationSelectorText : String :=
  "180B,2,1,0,E5F0,F,D02F0,EF"

/-- The code points with the property White Space. -/
def whiteSpaceText : String :=
  "9,4,12,0,64,0,1A,0,15DF,0,97F,A,1D,1,5,0,2F,0,FA0,0"

/-- The code points with the property XID Continue. -/
def xidContinueText : String :=
  String.join [
  "30,9,7,19,4,0,1,19,2F,0,A,0,1,0,2,0,5,16,1,1E,1,1C9,4,B,E,4,7,0,1,0,11,74,1,1,3,2,1,0,6,4,1,",
  "0,1,13,1,52,1,8A,1,4,2,A5,1,25,2,0,6,28,8,2C,1,0,1,1,1,1,1,0,8,1A,4,3,1D,A,5,49,4,65,1,7,2,9,",
  "1,12,2,0,10,3A,2,64,E,35,4,0,2,0,2,2D,12,1B,4,A,5,17,1,5,8,4A,1,80,2,9,1,12,1,7,2,1,2,15,1,6,",
  "1,0,3,3,2,8,2,1,2,3,8,0,4,1,1,4,2,B,A,0,1,0,2,2,1,5,4,1,2,15,1,6,1,1,1,1,1,1,2,0,1,4,4,1,2,2,",
  "3,0,7,3,1,0,7,F,B,2,1,8,1,2,1,15,1,6,1,1,1,4,2,9,1,2,1,2,2,0,F,3,2,9,9,6,1,2,1,7,2,1,2,15,1,",
  "6,1,1,1,4,2,8,2,1,2,2,7,2,4,1,1,4,2,9,1,0,10,1,1,5,3,2,1,3,3,1,1,0,1,1,3,1,3,2,3,B,4,4,3,2,1,",
  "3,2,0,6,0,E,9,10,C,1,2,1,16,1,F,2,8,1,2,1,3,7,1,1,2,2,0,2,3,2,9,10,3,1,7,1,2,1,16,1,9,1,4,2,",
  "8,1,2,1,3,7,1,6,1,1,3,2,9,1,2,C,C,1,2,1,32,1,2,1,4,5,3,7,4,2,9,A,5,1,2,1,11,3,17,1,8,1,0,2,6,",
  "3,0,4,5,1,0,1,7,6,9,2,1,D,39,5,E,1,9,27,1,1,0,1,4,1,17,1,0,1,16,2,4,1,0,1,6,1,9,2,3,20,0,17,",
  "1,6,9,B,0,1,0,1,0,4,9,1,23,4,13,1,11,1,23,9,0,39,49,6,4D,2,25,1,0,5,0,2,2A,1,14C,1,3,2,6,1,0,",
  "1,3,2,28,1,3,2,20,1,3,2,6,1,0,1,3,2,E,1,38,1,3,2,42,2,2,9,8,E,F,10,55,2,5,3,26B,2,10,1,19,5,",
  "4A,3,A,7,15,9,15,B,13,C,C,1,2,1,1,C,53,3,0,4,1,2,9,21,2,1,A,6,58,7,2A,5,45,A,1E,1,B,4,B,A,27,",
  "2,4,B,2B,4,19,6,A,25,1B,4,3E,1,1C,2,A,6,9,D,0,8,D,1,F,31,4C,3,9,11,8,C,73,C,37,8,9,3,30,2,A,",
  "5,2A,2,2,10,2,1,26,5,215,2,5,2,25,2,5,2,7,1,0,1,0,1,0,1,1E,2,34,1,6,1,0,3,2,1,6,3,3,2,5,4,C,",
  "5,2,1,6,F,1,31,1,13,0,1C,0,D,0,10,C,33,C,4,0,3,B,11,0,4,0,2,9,1,0,2,5,6,0,1,0,1,0,1,F,2,3,5,",
  "4,4,0,11,28,A77,E4,6,8,C,25,1,0,5,0,2,37,7,0,F,17,9,6,1,6,1,6,1,6,1,6,1,6,1,6,1,6,1,1F,205,2,",
  "19,E,1,4,2,4,4,55,2,1,2,2,1,5E,5,2A,1,5D,11,1F,30,F,200,19BF,40,568C,43,2D,2,10C,3,1B,14,2F,",
  "4,9,1,72,25,8,2,66,2,42,2,1,1,0,1,7,15,35,4,0,13,33,C,45,A,9,6,17,3,0,1,30,2,23,C,1C,3,40,E,",
  "A,6,1E,1,36,9,D,2,9,6,16,3,48,18,2,2,F,2,4,A,5,2,5,2,5,9,6,1,6,1,2A,1,D,6,7A,1,1,2,9,6,2BA3,",
  "C,16,4,30,2104,16D,2,69,26,6,C,4,5,B,1,C,1,4,1,0,1,1,1,1,1,6B,21,8A,6,D9,12,3F,2,35,28,9,6,F,",
  "10,F,3,1,18,2,21,0,1,0,3,0,1,0,1,0,1,0,1,7D,13,9,7,19,4,0,1,19,A,59,3,5,2,5,2,5,2,2,23,B,1,",
  "19,1,12,1,1,1,E,2,D,22,7A,45,34,88,0,82,1C,3,30,F,0,1F,1F,D,1D,5,2A,5,1D,2,23,4,7,1,4,2A,9D,",
  "2,9,6,23,4,23,4,27,8,33,C,A,1,E,1,6,1,1,1,A,1,E,1,6,1,1,3,33,C,136,9,15,A,7,18,5,1,29,1,8,45,",
  "5,2,0,1,2B,1,1,3,0,2,16,A,16,9,1E,41,12,1,1,A,15,A,19,46,37,6,1,40,3,1,1,5,7,1,2,1,1C,2,2,4,",
  "0,20,1C,3,1C,23,7,1,1D,19,35,A,15,A,12,D,11,6E,48,37,32,D,32,D,27,8,9,6,25,3,4,1,16,FA,29,1,",
  "1,3,1,10,2,37,20,A,0,8,20,1F,15,2A,14,1B,16,9,46,1F,F,9,3B,7,0,D,18,7,9,6,34,1,9,4,3,8,23,2,",
  "0,9,44,4,3,1,C,1,0,23,11,1,24,6,3,3E,6,1,0,1,3,1,E,1,9,7,3A,5,9,6,3,1,7,2,1,2,15,1,6,1,1,1,4,",
  "1,9,2,1,2,2,2,0,6,0,5,6,2,6,3,4,B,9,1,0,2,0,1,25,1,9,1,0,2,0,1,3,1,7,D,1,1D,4A,5,9,4,3,1E,45,",
  "1,0,8,9,A6,35,2,8,17,5,22,40,3,0,B,9,26,38,7,9,6,13,1C,1A,2,E,4,9,6,6,B9,3A,65,49,15,7,2,0,2,",
  "7,1,1,1,1D,1,1,2,8,C,9,46,7,2,2D,2,7,1,1,1B,3E,8,0,8,49,3,0,12,48,C7,20,F,9,6,8,1,2C,1,8,F,9,",
  "18,1D,2,15,1,D,49,6,1,1,1,2B,3,0,1,1,1,8,8,9,6,5,1,1,1,24,1,1,1,5,7,9,136,16,9,10,1,28,3,4,D,",
  "A,55,0,4F,399,66,6E,11,C3,A4C,60,F,42F,10,15,A,F9A,5,246,1AB9,39,6C6,238,7,1E,1,9,6,4E,1,9,6,",
  "1D,2,4,B,36,9,3,C,9,9,14,5,12,1B0,2C,3,9,C6,3F,80,4A,4,38,7,10,40,1,1,1,B,1,E,17F7,8,4D5,29,",
  "9,22E7,3,1,6,1,1,1,122,F,0,1D,2,2,0,E,3,8,18B,904,6A,5,C,3,8,7,9,3,1,1051,9,206,2D,2,16,21E,",
  "4,3,5,8,7,2,6,1E,3,94,2,1BB,54,1,46,1,1,2,0,2,1,2,3,1,B,1,0,1,6,1,40,1,3,2,7,1,6,1,1B,1,3,1,",
  "4,1,0,3,6,1,153,2,18,1,18,1,1E,1,18,1,1E,1,18,1,1E,1,18,1,1E,1,18,1,7,2,31,200,36,4,31,8,0,E,",
  "0,16,4,1,E,450,1E,6,5,D5,6,1,10,2,6,1,1,1,4,5,3D,21,0,70,2C,3,D,2,9,4,0,141,1E,11,39,1D6,29,",
  "D6,2A,1E5,6,1,3,1,1,1,E,1,C4,B,6,29,4B,4,9,4A6,3,1,1A,1,1,1,0,2,0,1,9,1,3,1,0,1,0,6,0,4,0,1,",
  "0,1,0,1,2,1,1,1,0,2,0,1,0,1,0,1,0,1,0,1,1,1,0,2,3,1,6,1,3,1,3,1,0,1,9,1,10,5,2,1,4,1,10,D34,",
  "9,406,A6DF,20,1039,6,DD,2,1681,E,1D30,F,26D,9A2,21D,5E2,134A,5,105F,ADD50,EF"]

/-- The code points with the property XID Start. -/
def xidStartText : String :=
  String.join [
  "41,19,6,19,2F,0,A,0,4,0,5,16,1,1E,1,1C9,4,B,E,4,7,0,1,0,81,4,1,1,3,2,1,0,6,0,1,2,1,0,1,13,1,",
  "52,1,8A,8,A5,1,25,2,0,6,28,47,1A,4,3,2D,2A,23,1,1,62,1,0,F,1,7,1,A,2,2,0,10,0,1,1D,1D,58,B,0,",
  "18,20,9,1,4,0,5,15,4,0,9,0,3,0,17,18,7,A,5,17,1,5,11,29,3A,35,3,0,12,0,7,9,F,F,4,7,2,1,2,15,",
  "1,6,1,0,3,3,3,0,10,0,D,1,1,2,E,1,A,0,8,5,4,1,2,15,1,6,1,1,1,1,1,1,1F,3,1,0,13,2,10,8,1,2,1,",
  "15,1,6,1,1,1,4,3,0,12,0,F,1,17,0,B,7,2,1,2,15,1,6,1,1,1,4,3,0,1E,1,1,2,F,0,11,0,1,5,3,2,1,3,",
  "3,1,1,0,1,1,3,1,3,2,3,B,16,0,34,7,1,2,1,16,1,F,3,0,1A,2,2,0,2,1,1E,0,4,7,1,2,1,16,1,9,1,4,3,",
  "0,1F,1,1,1,F,1,11,8,1,2,1,28,2,0,10,0,5,2,8,2,18,5,5,11,3,17,1,8,1,0,2,6,3A,2F,1,0,D,6,3A,1,",
  "1,0,1,4,1,17,1,0,1,9,1,0,A,0,2,4,1,0,15,3,20,0,3F,7,1,23,1B,4,73,2A,14,0,10,5,4,3,3,0,3,1,7,",
  "2,4,C,C,0,11,25,1,0,5,0,2,2A,1,14C,1,3,2,6,1,0,1,3,2,28,1,3,2,20,1,3,2,6,1,0,1,3,2,E,1,38,1,",
  "3,2,42,25,F,10,55,2,5,3,26B,2,10,1,19,5,4A,3,A,7,11,D,12,E,11,E,C,1,2,F,33,23,0,4,0,43,58,7,",
  "28,1,0,5,45,A,1E,31,1D,2,4,B,2B,4,19,36,16,9,34,52,0,5D,2E,11,7,36,1D,D,1,A,2B,1A,23,29,2,A,",
  "23,2,A,5,2A,2,2,29,3,1,5,1,1,3,0,5,BF,40,115,2,5,2,25,2,5,2,7,1,0,1,0,1,0,1,1E,2,34,1,6,1,0,",
  "3,2,1,6,3,3,2,5,4,C,5,2,1,6,74,0,D,0,10,C,65,0,4,0,2,9,1,0,2,5,6,0,1,0,1,0,1,F,2,3,5,4,4,0,",
  "11,28,A77,E4,6,3,3,1,C,25,1,0,5,0,2,37,7,0,10,16,9,6,1,6,1,6,1,6,1,6,1,6,1,6,1,6,226,2,19,8,",
  "7,4,2,4,4,55,6,2,1,59,1,3,5,2A,1,5D,11,1F,30,F,200,19BF,40,568C,43,2D,2,10C,3,F,A,1,14,2E,10,",
  "1E,2,4F,27,8,2,66,2,42,2,1,1,0,1,7,15,F,1,2,1,3,1,16,1D,33,E,31,3E,5,3,0,1,1,B,1B,A,16,19,1C,",
  "7,2E,1C,0,10,4,1,9,A,4,1,28,17,2,1,7,14,16,3,0,3,31,1,0,3,1,2,4,2,0,1,0,18,2,2,A,7,2,C,5,2,5,",
  "2,5,9,6,1,6,1,2A,1,D,6,72,1D,2BA3,C,16,4,30,2104,16D,2,69,26,6,C,4,5,0,1,9,1,C,1,4,1,0,1,1,1,",
  "1,1,6B,21,8A,6,D9,12,3F,2,35,28,9,77,0,1,0,3,0,1,0,1,0,1,0,1,7D,24,19,6,19,B,37,2,1E,3,5,2,5,",
  "2,5,2,2,23,B,1,19,1,12,1,1,1,E,2,D,22,7A,45,34,10B,1C,3,30,2F,1F,D,1D,5,25,A,1D,2,23,4,7,1,4,",
  "2A,9D,12,23,4,23,4,27,8,33,C,A,1,E,1,6,1,1,1,A,1,E,1,6,1,1,3,33,C,136,9,15,A,7,18,5,1,29,1,8,",
  "45,5,2,0,1,2B,1,1,3,0,2,16,A,16,9,1E,41,12,1,1,A,15,A,19,46,37,6,1,40,0,F,3,1,2,1,1C,2A,1C,3,",
  "1C,23,7,1,1B,1B,35,A,15,A,12,D,11,6E,48,37,32,D,32,D,23,26,1B,9,16,FA,29,6,1,10,2,3B,1C,A,0,",
  "8,15,2A,11,2E,14,1B,16,C,34,39,1,2,0,D,2C,20,18,1A,23,1D,0,2,0,8,22,3,0,C,2F,E,3,15,0,1,0,23,",
  "11,1,18,13,1,3F,6,1,0,1,3,1,E,1,9,7,2E,26,7,2,1,2,15,1,6,1,1,1,4,3,0,12,0,C,4,1E,9,1,0,2,0,1,",
  "25,1,0,19,0,1,0,2C,34,12,3,14,2,1E,2F,14,1,1,0,B8,2E,29,3,24,2F,14,0,3B,2A,D,0,47,1A,25,6,B9,",
  "2B,74,3F,1F,7,2,0,2,7,1,1,1,17,F,0,1,0,5E,7,2,26,10,0,1,0,1C,0,A,27,7,0,15,0,B,2D,13,0,12,48,",
  "C7,20,1F,8,1,24,11,0,31,1D,70,6,1,1,1,25,15,0,19,5,1,1,1,1F,E,0,147,12,F,0,1,C,1,21,7C,0,4F,",
  "399,66,6E,11,C3,A4C,60,F,42F,11,5,19,F9A,5,246,1AB9,1D,6E2,238,7,1E,11,4E,11,1D,12,2F,10,3,",
  "1F,14,5,12,1B0,2C,D3,3F,80,4A,5,0,42,C,40,1,1,0,1C,17F7,8,4D5,29,9,22E7,3,1,6,1,1,1,122,F,0,",
  "1D,2,2,0,E,3,8,18B,904,6A,5,C,3,8,7,9,1766,54,1,46,1,1,2,0,2,1,2,3,1,B,1,0,1,6,1,40,1,3,2,7,",
  "1,6,1,1B,1,3,1,4,1,0,3,6,1,153,2,18,1,18,1,1E,1,18,1,1E,1,18,1,1E,1,18,1,1E,1,18,1,7,734,1E,",
  "6,5,105,3D,92,2C,A,6,10,0,141,1D,12,2B,1E4,1B,E4,1D,2,0,1EF,6,1,3,1,1,1,E,1,C4,3B,43,7,0,4B4,",
  "3,1,1A,1,1,1,0,2,0,1,9,1,3,1,0,1,0,6,0,4,0,1,0,1,0,1,2,1,1,1,0,2,0,1,0,1,0,1,0,1,0,1,1,1,0,2,",
  "3,1,6,1,3,1,3,1,0,1,9,1,10,5,2,1,4,1,10,1144,A6DF,20,1039,6,DD,2,1681,E,1D30,F,26D,9A2,21D,",
  "5E2,134A,5,105F"]

/-- Each binary property by its long name, with the text of its set table. -/
def binaryProperties : List (String × String) := [
  ("ASCII_Hex_Digit", asciiHexDigitText),
  ("Alphabetic", alphabeticText),
  ("Bidi_Control", bidiControlText),
  ("Case_Ignorable", caseIgnorableText),
  ("Cased", casedText),
  ("Changes_When_Casefolded", changesWhenCasefoldedText),
  ("Changes_When_Casemapped", changesWhenCasemappedText),
  ("Changes_When_Lowercased", changesWhenLowercasedText),
  ("Changes_When_Titlecased", changesWhenTitlecasedText),
  ("Changes_When_Uppercased", changesWhenUppercasedText),
  ("Dash", dashText),
  ("Default_Ignorable_Code_Point", defaultIgnorableCodePointText),
  ("Deprecated", deprecatedText),
  ("Diacritic", diacriticText),
  ("Emoji", emojiText),
  ("Emoji_Component", emojiComponentText),
  ("Emoji_Modifier", emojiModifierText),
  ("Emoji_Modifier_Base", emojiModifierBaseText),
  ("Emoji_Presentation", emojiPresentationText),
  ("Extended_Pictographic", extendedPictographicText),
  ("Extender", extenderText),
  ("Grapheme_Base", graphemeBaseText),
  ("Grapheme_Extend", graphemeExtendText),
  ("Grapheme_Link", graphemeLinkText),
  ("Hex_Digit", hexDigitText),
  ("Hyphen", hyphenText),
  ("IDS_Binary_Operator", idsBinaryOperatorText),
  ("IDS_Trinary_Operator", idsTrinaryOperatorText),
  ("IDS_Unary_Operator", idsUnaryOperatorText),
  ("ID_Compat_Math_Continue", idCompatMathContinueText),
  ("ID_Compat_Math_Start", idCompatMathStartText),
  ("ID_Continue", idContinueText),
  ("ID_Start", idStartText),
  ("Ideographic", ideographicText),
  ("Join_Control", joinControlText),
  ("Logical_Order_Exception", logicalOrderExceptionText),
  ("Lowercase", lowercaseText),
  ("Math", mathText),
  ("Modifier_Combining_Mark", modifierCombiningMarkText),
  ("Noncharacter_Code_Point", noncharacterCodePointText),
  ("Other_Alphabetic", otherAlphabeticText),
  ("Other_Default_Ignorable_Code_Point", otherDefaultIgnorableCodePointText),
  ("Other_Grapheme_Extend", otherGraphemeExtendText),
  ("Other_ID_Continue", otherIdContinueText),
  ("Other_ID_Start", otherIdStartText),
  ("Other_Lowercase", otherLowercaseText),
  ("Other_Math", otherMathText),
  ("Other_Uppercase", otherUppercaseText),
  ("Pattern_Syntax", patternSyntaxText),
  ("Pattern_White_Space", patternWhiteSpaceText),
  ("Prepended_Concatenation_Mark", prependedConcatenationMarkText),
  ("Quotation_Mark", quotationMarkText),
  ("Radical", radicalText),
  ("Regional_Indicator", regionalIndicatorText),
  ("Sentence_Terminal", sentenceTerminalText),
  ("Soft_Dotted", softDottedText),
  ("Terminal_Punctuation", terminalPunctuationText),
  ("Unified_Ideograph", unifiedIdeographText),
  ("Uppercase", uppercaseText),
  ("Variation_Selector", variationSelectorText),
  ("White_Space", whiteSpaceText),
  ("XID_Continue", xidContinueText),
  ("XID_Start", xidStartText)]

end BuildSpec.Unicode
