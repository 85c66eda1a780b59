/-!
# Grapheme, word and sentence break classes of code points

For each of the three properties, a list of its values with their aliases (the long name
second, in order of the long names) and a run table (see `BuildSpec.Unicode.Runs`) that gives
every code point its value as a position in that list. The data is that of Unicode 16.0.
-/

namespace BuildSpec.Unicode

/-- The values of the grapheme cluster break property, each as its aliases. -/
def graphemeBreakValues : Array (List String) := #[
  ["CR", "CR"], ["CN", "Control"], ["EB", "E_Base"], ["EBG", "E_Base_GAZ"],
  ["EM", "E_Modifier"], ["EX", "Extend"], ["GAZ", "Glue_After_Zwj"], ["L", "L"], ["LF", "LF"],
  ["LV", "LV"], ["LVT", "LVT"], ["XX", "Other"], ["PP", "Prepend"],
  ["RI", "Regional_Indicator"], ["SM", "SpacingMark"], ["T", "T"], ["V", "V"], ["ZWJ", "ZWJ"]]

/-- The grapheme cluster break value of every code point, as runs of positions in `graphemeBreakValues`. -/
def graphemeBreakRunsText : String :=
  String.join [
  "A,1,1,8,2,1,1,0,12,1,5F,B,21,1,D,B,1,1,252,B,70,5,113,B,7,5,107,B,2D,5,1,B,1,5,1,B,2,5,1,B,2,",
  "5,1,B,1,5,38,B,6,C,A,B,B,5,1,B,1,1,2E,B,15,5,10,B,1,5,65,B,7,5,1,C,1,B,6,5,2,B,2,5,1,B,4,5,",
  "21,B,1,C,1,B,1,5,1E,B,1B,5,5B,B,B,5,3A,B,9,5,9,B,1,5,18,B,4,5,1,B,9,5,1,B,3,5,1,B,5,5,2B,B,3,",
  "5,34,B,2,C,5,B,9,5,2A,B,18,5,1,C,20,5,1,E,36,B,1,5,1,E,1,5,1,B,3,E,8,5,4,E,1,5,2,E,1,B,7,5,A,",
  "B,2,5,1D,B,1,5,2,E,38,B,1,5,1,B,1,5,2,E,4,5,2,B,2,E,2,B,2,E,1,5,9,B,1,5,A,B,2,5,1A,B,1,5,2,B,",
  "2,5,1,E,38,B,1,5,1,B,3,E,2,5,4,B,2,5,2,B,3,5,3,B,1,5,1E,B,2,5,3,B,1,5,B,B,2,5,1,E,38,B,1,5,1,",
  "B,3,E,5,5,1,B,2,5,1,E,1,B,2,E,1,5,14,B,2,5,16,B,6,5,1,B,1,5,2,E,38,B,1,5,1,B,2,5,1,E,4,5,2,B,",
  "2,E,2,B,2,E,1,5,7,B,3,5,A,B,2,5,1E,B,1,5,3B,B,1,5,1,E,1,5,2,E,3,B,3,E,1,B,3,E,1,5,9,B,1,5,28,",
  "B,1,5,3,E,1,5,37,B,1,5,1,B,3,5,4,E,1,B,3,5,1,B,4,5,7,B,2,5,B,B,2,5,1D,B,1,5,2,E,38,B,1,5,1,B,",
  "1,E,2,5,1,E,1,5,2,E,1,B,3,5,1,B,4,5,7,B,2,5,B,B,2,5,F,B,1,E,C,B,2,5,2,E,37,B,2,5,1,B,1,5,2,E,",
  "4,5,1,B,3,E,1,B,3,E,1,5,1,C,8,B,1,5,A,B,2,5,1D,B,1,5,2,E,46,B,1,5,4,B,1,5,2,E,3,5,1,B,1,5,1,",
  "B,7,E,1,5,12,B,2,E,3D,B,1,5,1,B,1,E,7,5,C,B,8,5,62,B,1,5,1,B,1,E,9,5,B,B,7,5,49,B,2,5,1B,B,1,",
  "5,1,B,1,5,1,B,1,5,4,B,2,E,31,B,E,5,1,E,5,5,1,B,2,5,5,B,B,5,1,B,24,5,9,B,1,5,66,B,4,5,1,E,6,5,",
  "1,B,2,5,2,E,2,5,17,B,2,E,2,5,4,B,3,5,10,B,4,5,D,B,1,5,1,B,1,E,2,5,6,B,1,5,F,B,1,5,62,B,60,7,",
  "48,10,58,F,15D,B,3,5,3B2,B,4,5,1C,B,3,5,1D,B,2,5,1E,B,2,5,40,B,2,5,1,E,7,5,8,E,1,5,2,E,B,5,9,",
  "B,1,5,2D,B,3,5,1,1,1,5,75,B,2,5,22,B,1,5,76,B,3,5,4,E,2,5,3,E,4,B,2,E,1,5,6,E,3,5,DB,B,2,5,2,",
  "E,1,5,39,B,1,E,1,5,1,E,7,5,1,B,1,5,1,B,1,5,2,B,8,5,6,E,A,5,2,B,1,5,30,B,1F,5,31,B,4,5,1,E,2F,",
  "B,A,5,4,E,3,5,26,B,9,5,C,B,2,5,1,E,1E,B,1,E,4,5,2,E,6,5,38,B,1,5,1,E,2,5,3,E,1,5,1,E,5,5,30,",
  "B,8,E,8,5,2,E,2,5,98,B,3,5,1,B,D,5,1,E,7,5,4,B,1,5,6,B,1,5,2,B,1,E,2,5,C6,B,40,5,20B,B,1,1,1,",
  "5,1,11,2,1,18,B,7,1,31,B,10,1,60,B,21,5,BFE,B,3,5,8D,B,1,5,60,B,20,5,22A,B,6,5,69,B,2,5,75D4,",
  "B,4,5,1,B,A,5,20,B,2,5,50,B,2,5,110,B,1,5,3,B,1,5,4,B,1,5,17,B,2,E,2,5,1,E,4,B,1,5,53,B,2,E,",
  "32,B,10,E,2,5,1A,B,12,5,D,B,1,5,26,B,8,5,19,B,B,5,1,E,1,5,C,B,1D,7,3,B,3,5,1,E,2F,B,1,5,2,E,",
  "4,5,2,E,2,5,2,E,1,5,24,B,1,5,43,B,6,5,2,E,2,5,2,E,2,5,C,B,1,5,8,B,1,5,1,E,2E,B,1,5,33,B,1,5,",
  "1,B,3,5,2,B,2,5,5,B,2,5,1,B,1,5,29,B,1,E,2,5,2,E,5,B,1,E,1,5,EC,B,2,E,1,5,2,E,1,5,2,E,1,B,1,",
  "E,1,5,12,B,1,9,1B,A,1,9,1B,A,1,9,1B,A,1,9,1B,A,1,9,1B,A,1,9,1B,A,1,9,1B,A,1,9,1B,A,1,9,1B,A,",
  "1,9,1B,A,1,9,1B,A,1,9,1B,A,1,9,1B,A,1,9,1B,A,1,9,1B,A,1,9,1B,A,1,9,1B,A,1,9,1B,A,1,9,1B,A,1,",
  "9,1B,A,1,9,1B,A,1,9,1B,A,1,9,1B,A,1,9,1B,A,1,9,1B,A,1,9,1B,A,1,9,1B,A,1,9,1B,A,1,9,1B,A,1,9,",
  "1B,A,1,9,1B,A,1,9,1B,A,1,9,1B,A,1,9,1B,A,1,9,1B,A,1,9,1B,A,1,9,1B,A,1,9,1B,A,1,9,1B,A,1,9,1B,",
  "A,1,9,1B,A,1,9,1B,A,1,9,1B,A,1,9,1B,A,1,9,1B,A,1,9,1B,A,1,9,1B,A,1,9,1B,A,1,9,1B,A,1,9,1B,A,",
  "1,9,1B,A,1,9,1B,A,1,9,1B,A,1,9,1B,A,1,9,1B,A,1,9,1B,A,1,9,1B,A,1,9,1B,A,1,9,1B,A,1,9,1B,A,1,",
  "9,1B,A,1,9,1B,A,1,9,1B,A,1,9,1B,A,1,9,1B,A,1,9,1B,A,1,9,1B,A,1,9,1B,A,1,9,1B,A,1,9,1B,A,1,9,",
  "1B,A,1,9,1B,A,1,9,1B,A,1,9,1B,A,1,9,1B,A,1,9,1B,A,1,9,1B,A,1,9,1B,A,1,9,1B,A,1,9,1B,A,1,9,1B,",
  "A,1,9,1B,A,1,9,1B,A,1,9,1B,A,1,9,1B,A,1,9,1B,A,1,9,1B,A,1,9,1B,A,1,9,1B,A,1,9,1B,A,1,9,1B,A,",
  "1,9,1B,A,1,9,1B,A,1,9,1B,A,1,9,1B,A,1,9,1B,A,1,9,1B,A,1,9,1B,A,1,9,1B,A,1,9,1B,A,1,9,1B,A,1,",
  "9,1B,A,1,9,1B,A,1,9,1B,A,1,9,1B,A,1,9,1B,A,1,9,1B,A,1,9,1B,A,1,9,1B,A,1,9,1B,A,1,9,1B,A,1,9,",
  "1B,A,1,9,1B,A,1,9,1B,A,1,9,1B,A,1,9,1B,A,1,9,1B,A,1,9,1B,A,1,9,1B,A,1,9,1B,A,1,9,1B,A,1,9,1B,",
  "A,1,9,1B,A,1,9,1B,A,1,9,1B,A,1,9,1B,A,1,9,1B,A,1,9,1B,A,1,9,1B,A,1,9,1B,A,1,9,1B,A,1,9,1B,A,",
  "1,9,1B,A,1,9,1B,A,1,9,1B,A,1,9,1B,A,1,9,1B,A,1,9,1B,A,1,9,1B,A,1,9,1B,A,1,9,1B,A,1,9,1B,A,1,",
  "9,1B,A,1,9,1B,A,1,9,1B,A,1,9,1B,A,1,9,1B,A,1,9,1B,A,1,9,1B,A,1,9,1B,A,1,9,1B,A,1,9,1B,A,1,9,",
  "1B,A,1,9,1B,A,1,9,1B,A,1,9,1B,A,1,9,1B,A,1,9,1B,A,1,9,1B,A,1,9,1B,A,1,9,1B,A,1,9,1B,A,1,9,1B,",
  "A,1,9,1B,A,1,9,1B,A,1,9,1B,A,1,9,1B,A,1,9,1B,A,1,9,1B,A,1,9,1B,A,1,9,1B,A,1,9,1B,A,1,9,1B,A,",
  "1,9,1B,A,1,9,1B,A,1,9,1B,A,1,9,1B,A,1,9,1B,A,1,9,1B,A,1,9,1B,A,1,9,1B,A,1,9,1B,A,1,9,1B,A,1,",
  "9,1B,A,1,9,1B,A,1,9,1B,A,1,9,1B,A,1,9,1B,A,1,9,1B,A,1,9,1B,A,1,9,1B,A,1,9,1B,A,1,9,1B,A,1,9,",
  "1B,A,1,9,1B,A,1,9,1B,A,1,9,1B,A,1,9,1B,A,1,9,1B,A,1,9,1B,A,1,9,1B,A,1,9,1B,A,1,9,1B,A,1,9,1B,",
  "A,1,9,1B,A,1,9,1B,A,1,9,1B,A,1,9,1B,A,1,9,1B,A,1,9,1B,A,1,9,1B,A,1,9,1B,A,1,9,1B,A,1,9,1B,A,",
  "1,9,1B,A,1,9,1B,A,1,9,1B,A,1,9,1B,A,1,9,1B,A,1,9,1B,A,1,9,1B,A,1,9,1B,A,1,9,1B,A,1,9,1B,A,1,",
  "9,1B,A,1,9,1B,A,1,9,1B,A,1,9,1B,A,1,9,1B,A,1,9,1B,A,1,9,1B,A,1,9,1B,A,1,9,1B,A,1,9,1B,A,1,9,",
  "1B,A,1,9,1B,A,1,9,1B,A,1,9,1B,A,1,9,1B,A,1,9,1B,A,1,9,1B,A,1,9,1B,A,1,9,1B,A,1,9,1B,A,1,9,1B,",
  "A,1,9,1B,A,1,9,1B,A,1,9,1B,A,1,9,1B,A,1,9,1B,A,1,9,1B,A,1,9,1B,A,1,9,1B,A,1,9,1B,A,1,9,1B,A,",
  "1,9,1B,A,1,9,1B,A,1,9,1B,A,1,9,1B,A,1,9,1B,A,1,9,1B,A,1,9,1B,A,1,9,1B,A,1,9,1B,A,1,9,1B,A,1,",
  "9,1B,A,1,9,1B,A,1,9,1B,A,1,9,1B,A,1,9,1B,A,1,9,1B,A,1,9,1B,A,1,9,1B,A,1,9,1B,A,1,9,1B,A,1,9,",
  "1B,A,1,9,1B,A,1,9,1B,A,1,9,1B,A,1,9,1B,A,1,9,1B,A,1,9,1B,A,1,9,1B,A,1,9,1B,A,1,9,1B,A,1,9,1B,",
  "A,1,9,1B,A,1,9,1B,A,1,9,1B,A,1,9,1B,A,1,9,1B,A,1,9,1B,A,1,9,1B,A,1,9,1B,A,1,9,1B,A,1,9,1B,A,",
  "1,9,1B,A,1,9,1B,A,1,9,1B,A,1,9,1B,A,1,9,1B,A,1,9,1B,A,1,9,1B,A,1,9,1B,A,1,9,1B,A,1,9,1B,A,1,",
  "9,1B,A,1,9,1B,A,1,9,1B,A,1,9,1B,A,1,9,1B,A,1,9,1B,A,1,9,1B,A,1,9,1B,A,1,9,1B,A,1,9,1B,A,1,9,",
  "1B,A,1,9,1B,A,1,9,1B,A,1,9,1B,A,1,9,1B,A,1,9,1B,A,1,9,1B,A,1,9,1B,A,1,9,1B,A,1,9,1B,A,1,9,1B,",
  "A,1,9,1B,A,1,9,1B,A,1,9,1B,A,1,9,1B,A,1,9,1B,A,1,9,1B,A,1,9,1B,A,1,9,1B,A,1,9,1B,A,1,9,1B,A,",
  "1,9,1B,A,1,9,1B,A,1,9,1B,A,1,9,1B,A,1,9,1B,A,1,9,1B,A,1,9,1B,A,1,9,1B,A,1,9,1B,A,1,9,1B,A,1,",
  "9,1B,A,1,9,1B,A,1,9,1B,A,1,9,1B,A,1,9,1B,A,1,9,1B,A,1,9,1B,A,1,9,1B,A,1,9,1B,A,1,9,1B,A,1,9,",
  "1B,A,1,9,1B,A,1,9,1B,A,1,9,1B,A,1,9,1B,A,1,9,1B,A,1,9,1B,A,1,9,1B,A,1,9,1B,A,1,9,1B,A,1,9,1B,",
  "A,1,9,1B,A,1,9,1B,A,1,9,1B,A,1,9,1B,A,1,9,1B,A,1,9,1B,A,1,9,1B,A,1,9,1B,A,1,9,1B,A,1,9,1B,A,",
  "1,9,1B,A,1,9,1B,A,1,9,1B,A,1,9,1B,A,1,9,1B,A,1,9,1B,A,1,9,1B,A,1,9,1B,A,1,9,1B,A,1,9,1B,A,1,",
  "9,1B,A,1,9,1B,A,1,9,1B,A,1,9,1B,A,1,9,1B,A,1,9,1B,A,1,9,1B,A,1,9,1B,A,1,9,1B,A,1,9,1B,A,1,9,",
  "1B,A,C,B,17,10,4,B,31,F,2322,B,1,5,2E1,B,10,5,10,B,10,5,CF,B,1,1,9E,B,2,5,50,B,C,1,201,B,1,5,",
  "E2,B,1,5,95,B,5,5,686,B,3,5,1,B,2,5,5,B,4,5,28,B,3,5,4,B,1,5,A5,B,2,5,23D,B,4,5,41,B,5,5,13D,",
  "B,2,5,4F,B,4,5,46,B,B,5,31,B,4,5,7A,B,1,E,1,5,1,E,35,B,F,5,29,B,1,5,2,B,2,5,A,B,3,5,1,E,2D,B,",
  "3,E,4,5,2,E,2,5,2,B,1,C,4,B,1,5,A,B,1,C,32,B,3,5,24,B,5,5,1,E,8,5,10,B,2,E,2C,B,1,5,C,B,2,5,",
  "1,E,30,B,3,E,9,5,1,E,1,5,1,B,2,C,5,B,4,5,1,B,1,E,1,5,5C,B,3,E,3,5,2,E,4,5,6,B,1,5,2,B,1,5,9D,",
  "B,1,5,3,E,8,5,15,B,2,5,2,E,37,B,2,5,1,B,1,5,1,E,1,5,4,E,2,B,2,E,2,B,2,E,1,5,9,B,1,5,A,B,2,E,",
  "2,B,7,5,3,B,5,5,43,B,1,5,2,E,6,5,1,B,1,5,2,B,1,5,1,B,3,5,1,E,1,B,2,E,3,5,1,C,1,5,E,B,2,5,52,",
  "B,3,E,8,5,2,E,3,5,1,E,1,5,17,B,1,5,51,B,1,5,2,E,6,5,1,E,1,5,2,E,1,5,1,E,2,5,1,E,2,5,EB,B,1,5,",
  "2,E,4,5,2,B,4,E,2,5,1,E,2,5,1B,B,2,5,52,B,3,E,8,5,2,E,1,5,1,E,2,5,6A,B,1,5,1,E,1,5,2,E,8,5,",
  "65,B,1,5,1,E,1,5,2,B,4,5,1,E,5,5,100,B,3,E,9,5,1,E,2,5,F5,B,1,5,5,E,1,B,2,E,2,B,4,5,1,C,1,E,",
  "1,C,1,E,1,5,8D,B,3,E,4,5,2,B,2,5,4,E,1,5,3,B,1,E,1C,B,A,5,28,B,6,5,1,E,1,B,4,5,8,B,1,5,9,B,6,",
  "5,2,E,3,5,28,B,6,C,D,5,1,E,2,5,195,B,1,E,7,5,1,B,6,5,1,E,1,5,52,B,16,5,1,B,1,E,7,5,1,E,2,5,1,",
  "E,2,5,7A,B,6,5,3,B,1,5,1,B,2,5,1,B,7,5,1,C,1,5,42,B,5,E,1,B,2,5,1,B,2,E,1,5,1,E,1,5,15B,B,2,",
  "5,2,E,9,B,2,5,1,C,1,E,30,B,2,E,5,5,3,B,2,E,3,5,17,B,1,5,14D5,B,10,1,1,5,6,B,F,5,2CC8,B,C,5,3,",
  "E,3,5,9C0,B,5,5,3B,B,7,5,22C,B,1,10,3,B,4,10,1E4,B,1,5,1,B,37,E,7,B,4,5,51,B,1,5,B,B,2,5,",
  "4CAB,B,2,5,1,B,4,1,125C,B,2E,5,2,B,17,5,21E,B,5,5,3,B,6,5,8,1,8,5,2,B,7,5,1E,B,4,5,94,B,3,5,",
  "7BB,B,37,5,4,B,32,5,8,B,1,5,E,B,1,5,16,B,5,5,1,B,F,5,550,B,7,5,1,B,11,5,2,B,7,5,1,B,2,5,1,B,",
  "5,5,64,B,1,5,A0,B,7,5,177,B,1,5,3D,B,4,5,1FC,B,4,5,FE,B,2,5,2E0,B,7,5,6D,B,7,5,89B,B,1A,D,",
  "1FB,B,5,5,C0C00,B,20,1,60,5,80,1,F0,5,E10,1,2F000,B"]

/-- The values of the word break property, each as its aliases. -/
def wordBreakValues : Array (List String) := #[
  ["LE", "ALetter"], ["CR", "CR"], ["DQ", "Double_Quote"], ["EB", "E_Base"],
  ["EBG", "E_Base_GAZ"], ["EM", "E_Modifier"], ["Extend", "Extend"], ["EX", "ExtendNumLet"],
  ["FO", "Format"], ["GAZ", "Glue_After_Zwj"], ["HL", "Hebrew_Letter"], ["KA", "Katakana"],
  ["LF", "LF"], ["ML", "MidLetter"], ["MN", "MidNum"], ["MB", "MidNumLet"], ["NL", "Newline"],
  ["NU", "Numeric"], ["XX", "Other"], ["RI", "Regional_Indicator"], ["SQ", "Single_Quote"],
  ["WSegSpace", "WSegSpace"], ["ZWJ", "ZWJ"]]

/-- The word break value of every code point, as runs of positions in `wordBreakValues`. -/
def wordBreakRunsText : String :=
  String.join [
  "A,12,1,C,2,10,1,1,12,12,1,15,1,12,1,2,4,12,1,14,4,12,1,E,1,12,1,F,1,12,A,11,1,D,1,E,5,12,1A,",
  "0,4,12,1,7,1,12,1A,0,A,12,1,10,24,12,1,0,2,12,1,8,7,12,1,0,1,12,1,D,1,0,1,12,1,0,5,12,17,0,1,",
  "12,1F,0,1,12,1E0,0,6,12,22,0,70,6,5,0,1,12,2,0,2,12,4,0,1,E,1,0,6,12,1,0,1,D,3,0,1,12,1,0,1,",
  "12,14,0,1,12,53,0,1,12,8B,0,1,12,7,6,A6,0,1,12,26,0,2,12,4,0,1,12,1,0,1,D,29,0,1,E,1,0,6,12,",
  "2D,6,1,12,1,6,1,12,2,6,1,12,2,6,1,12,1,6,8,12,1B,A,4,12,4,A,1,0,1,D,B,12,6,11,6,12,2,E,2,12,",
  "B,6,1,12,1,8,3,12,2B,0,15,6,A,11,1,12,1,11,1,E,1,12,2,0,1,6,63,0,1,12,1,0,7,6,1,11,1,12,6,6,",
  "2,0,2,6,1,12,4,6,2,0,A,11,3,0,2,12,1,0,F,12,2,0,1,6,1E,0,1B,6,2,12,59,0,B,6,1,0,E,12,A,11,21,",
  "0,9,6,2,0,2,12,1,E,1,12,1,0,2,12,1,6,2,12,16,0,4,6,1,0,9,6,1,0,3,6,1,0,5,6,12,12,19,0,3,6,4,",
  "12,B,0,5,12,18,0,1,12,6,0,1,12,2,11,5,12,9,6,2A,0,18,6,1,11,21,6,36,0,3,6,1,0,12,6,1,0,7,6,A,",
  "0,2,6,2,12,A,11,1,12,10,0,3,6,1,12,8,0,2,12,2,0,2,12,16,0,1,12,7,0,1,12,1,0,3,12,4,0,2,12,1,",
  "6,1,0,7,6,2,12,2,6,2,12,3,6,1,0,8,12,1,6,4,12,2,0,1,12,3,0,2,6,2,12,A,11,2,0,A,12,1,0,1,12,1,",
  "6,2,12,3,6,1,12,6,0,4,12,2,0,2,12,16,0,1,12,7,0,1,12,2,0,1,12,2,0,1,12,2,0,2,12,1,6,1,12,5,6,",
  "4,12,2,6,2,12,3,6,3,12,1,6,7,12,4,0,1,12,1,0,7,12,A,11,2,6,3,0,1,6,B,12,3,6,1,12,9,0,1,12,3,",
  "0,1,12,16,0,1,12,7,0,1,12,2,0,1,12,5,0,2,12,1,6,1,0,8,6,1,12,3,6,1,12,3,6,2,12,1,0,F,12,2,0,",
  "2,6,2,12,A,11,9,12,1,0,6,6,1,12,3,6,1,12,8,0,2,12,2,0,2,12,16,0,1,12,7,0,1,12,2,0,1,12,5,0,2,",
  "12,1,6,1,0,7,6,2,12,2,6,2,12,3,6,7,12,3,6,4,12,2,0,1,12,3,0,2,6,2,12,A,11,1,12,1,0,10,12,1,6,",
  "1,0,1,12,6,0,3,12,3,0,1,12,4,0,3,12,2,0,1,12,1,0,1,12,2,0,3,12,2,0,3,12,3,0,3,12,C,0,4,12,5,",
  "6,3,12,3,6,1,12,4,6,2,12,1,0,6,12,1,6,E,12,A,11,10,12,5,6,8,0,1,12,3,0,1,12,17,0,1,12,10,0,2,",
  "12,1,6,1,0,7,6,1,12,3,6,1,12,4,6,7,12,2,6,1,12,3,0,2,12,1,0,2,12,2,0,2,6,2,12,A,11,10,12,1,0,",
  "3,6,1,12,8,0,1,12,3,0,1,12,17,0,1,12,A,0,1,12,5,0,2,12,1,6,1,0,7,6,1,12,3,6,1,12,4,6,7,12,2,",
  "6,6,12,2,0,1,12,2,0,2,6,2,12,A,11,1,12,2,0,1,6,C,12,4,6,9,0,1,12,3,0,1,12,29,0,2,6,1,0,7,6,1,",
  "12,3,6,1,12,4,6,1,0,5,12,3,0,1,6,7,12,3,0,2,6,2,12,A,11,A,12,6,0,1,12,3,6,1,12,12,0,3,12,18,",
  "0,1,12,9,0,1,12,1,0,2,12,7,0,3,12,1,6,4,12,6,6,1,12,1,6,1,12,8,6,6,12,A,11,2,12,2,6,3D,12,1,",
  "6,2,12,7,6,C,12,8,6,1,12,A,11,57,12,1,6,2,12,9,6,B,12,7,6,1,12,A,11,26,12,1,0,17,12,2,6,6,12,",
  "A,11,B,12,1,6,1,12,1,6,1,12,1,6,4,12,2,6,8,0,1,12,24,0,4,12,14,6,1,12,2,6,5,0,B,6,1,12,24,6,",
  "9,12,1,6,64,12,14,6,1,12,A,11,C,12,4,6,4,12,3,6,1,12,3,6,2,12,7,6,3,12,4,6,D,12,C,6,1,12,1,6,",
  "A,11,4,6,2,12,26,0,1,12,1,0,5,12,1,0,2,12,2B,0,1,12,14D,0,1,12,4,0,2,12,7,0,1,12,1,0,1,12,4,",
  "0,2,12,29,0,1,12,4,0,2,12,21,0,1,12,4,0,2,12,7,0,1,12,1,0,1,12,4,0,2,12,F,0,1,12,39,0,1,12,4,",
  "0,2,12,43,0,2,12,3,6,20,12,10,0,10,12,56,0,2,12,6,0,3,12,26C,0,2,12,11,0,1,15,1A,0,5,12,4B,0,",
  "3,12,B,0,7,12,12,0,4,6,9,12,13,0,3,6,B,12,12,0,2,6,C,12,D,0,1,12,3,0,1,12,2,6,40,12,20,6,9,",
  "12,1,6,2,12,A,11,21,12,3,6,1,8,1,6,A,11,6,12,59,0,7,12,5,0,2,6,22,0,1,6,1,0,5,12,46,0,A,12,",
  "1F,0,1,12,C,6,4,12,C,6,A,12,A,11,80,12,B,11,25,12,17,0,5,6,39,12,A,6,1,12,1D,6,2,12,1,6,A,11,",
  "6,12,A,11,16,12,1F,6,31,12,5,6,2F,0,11,6,8,0,3,12,A,11,11,12,9,6,C,12,3,6,1E,0,D,6,2,0,A,11,",
  "2C,0,E,6,C,12,24,0,14,6,8,12,A,11,3,12,3,0,A,11,24,0,2,12,B,0,5,12,2B,0,2,12,3,0,10,12,3,6,1,",
  "12,15,6,4,0,1,6,6,0,1,6,2,0,3,6,1,0,5,12,C0,0,40,6,116,0,2,12,6,0,2,12,26,0,2,12,6,0,2,12,8,",
  "0,1,12,1,0,1,12,1,0,1,12,1,0,1,12,1F,0,2,12,35,0,1,12,7,0,1,12,1,0,3,12,3,0,1,12,7,0,3,12,4,",
  "0,2,12,6,0,4,12,D,0,5,12,3,0,1,12,7,0,3,12,7,15,1,12,3,15,1,12,1,6,1,16,2,8,8,12,2,F,A,12,1,",
  "F,2,12,1,D,2,10,5,8,1,7,F,12,2,7,3,12,1,E,F,12,1,7,A,12,1,15,5,8,1,12,A,8,1,12,1,0,D,12,1,0,",
  "10,12,D,0,33,12,21,6,11,12,1,0,4,12,1,0,2,12,A,0,1,12,1,0,3,12,5,0,6,12,1,0,1,12,1,0,1,12,1,",
  "0,1,12,4,0,1,12,B,0,2,12,4,0,5,12,5,0,4,12,1,0,11,12,29,0,32D,12,34,0,716,12,E5,0,6,12,4,0,3,",
  "6,2,0,C,12,26,0,1,12,1,0,5,12,1,0,2,12,38,0,7,12,1,0,F,12,1,6,17,0,9,12,7,0,1,12,7,0,1,12,7,",
  "0,1,12,7,0,1,12,7,0,1,12,7,0,1,12,7,0,1,12,7,0,1,12,20,6,2F,12,1,0,1D0,12,1,15,4,12,1,0,24,",
  "12,6,6,1,12,5,B,5,12,2,0,5C,12,2,6,2,B,3,12,5B,B,1,12,4,B,5,12,2B,0,1,12,5E,0,11,12,20,0,30,",
  "12,10,B,D0,12,2F,B,1,12,58,B,6CA8,12,48D,0,43,12,2E,0,2,12,10D,0,3,12,10,0,A,11,2,0,14,12,2F,",
  "0,4,6,1,12,A,6,1,12,1F,0,2,6,50,0,2,6,16,12,C6,0,2,12,2,0,1,12,1,0,1,12,8,0,15,12,10,0,1,6,3,",
  "0,1,6,4,0,1,6,17,0,5,6,4,12,1,6,13,12,34,0,C,12,2,6,32,0,12,6,A,12,A,11,6,12,12,6,6,0,3,12,1,",
  "0,1,12,2,0,1,6,A,11,1C,0,8,6,2,12,17,0,D,6,C,12,1D,0,3,12,4,6,2F,0,E,6,E,12,1,0,A,11,B,12,1,",
  "6,A,12,A,11,6,12,29,0,E,6,9,12,3,0,1,6,8,0,2,6,2,12,A,11,21,12,3,6,32,12,1,6,1,12,3,6,2,12,2,",
  "6,5,12,2,6,1,12,1,6,1E,12,B,0,5,6,2,12,3,0,2,6,A,12,6,0,2,12,6,0,2,12,6,0,9,12,7,0,1,12,7,0,",
  "1,12,3A,0,6,12,73,0,8,6,1,12,2,6,2,12,A,11,6,12,2BA4,0,C,12,17,0,4,12,31,0,2304,12,7,0,C,12,",
  "5,0,5,12,1,A,1,6,A,A,1,12,D,A,1,12,5,A,1,12,1,A,1,12,2,A,1,12,2,A,1,12,A,A,62,0,21,12,16B,0,",
  "12,12,40,0,2,12,36,0,28,12,C,0,4,12,10,6,3,12,1,D,C,12,10,6,3,12,2,7,18,12,3,7,1,E,1,12,1,F,",
  "1,12,1,E,1,D,1A,12,5,0,1,12,87,0,2,12,1,8,7,12,1,F,4,12,1,E,1,12,1,F,1,12,A,11,1,D,1,E,5,12,",
  "1A,0,4,12,1,7,1,12,1A,0,B,12,38,B,2,6,1F,0,3,12,6,0,2,12,6,0,2,12,6,0,2,12,3,0,1C,12,3,8,4,",
  "12,C,0,1,12,1A,0,1,12,13,0,1,12,2,0,1,12,F,0,2,12,E,0,22,12,7B,0,45,12,35,0,88,12,1,6,82,12,",
  "1D,0,3,12,31,0,F,12,1,6,1F,12,20,0,D,12,1E,0,5,12,26,0,5,6,5,12,1E,0,2,12,24,0,4,12,8,0,1,12,",
  "5,0,2A,12,9E,0,2,12,A,11,6,12,24,0,4,12,24,0,4,12,28,0,8,12,34,0,C,12,B,0,1,12,F,0,1,12,7,0,",
  "1,12,2,0,1,12,B,0,1,12,F,0,1,12,7,0,1,12,2,0,3,12,34,0,C,12,137,0,9,12,16,0,A,12,8,0,18,12,6,",
  "0,1,12,2A,0,1,12,9,0,45,12,6,0,2,12,1,0,1,12,2C,0,1,12,2,0,3,12,1,0,2,12,17,0,A,12,17,0,9,12,",
  "1F,0,41,12,13,0,1,12,2,0,A,12,16,0,A,12,1A,0,46,12,38,0,6,12,2,0,40,12,1,0,3,6,1,12,2,6,5,12,",
  "4,6,4,0,1,12,3,0,1,12,1D,0,2,12,3,6,4,12,1,6,20,12,1D,0,3,12,1D,0,23,12,8,0,1,12,1C,0,2,6,19,",
  "12,36,0,A,12,16,0,A,12,13,0,D,12,12,0,6E,12,49,0,37,12,33,0,D,12,33,0,D,12,24,0,4,6,8,12,A,",
  "11,6,12,A,11,1C,0,3,12,5,6,1,12,17,0,FA,12,2A,0,1,12,2,6,3,12,2,0,10,12,3,0,37,12,4,6,1D,0,A,",
  "12,1,0,8,12,16,0,B,6,1F,12,12,0,4,6,2A,12,15,0,1B,12,17,0,9,12,3,6,35,0,F,6,1F,12,A,11,1,6,2,",
  "0,2,6,1,0,9,12,4,6,2D,0,B,6,2,12,1,11,4,12,1,6,A,12,1,11,2,12,19,0,7,12,A,11,6,12,3,6,24,0,E,",
  "6,1,12,A,11,4,12,1,0,2,6,1,0,8,12,23,0,1,6,2,12,1,0,9,12,3,6,30,0,E,6,4,0,4,12,4,6,1,12,2,6,",
  "A,11,1,0,1,12,1,0,23,12,12,0,1,12,19,0,C,6,6,12,1,6,2,0,1,6,3E,12,7,0,1,12,1,0,1,12,4,0,1,12,",
  "F,0,1,12,A,0,7,12,2F,0,C,6,5,12,A,11,6,12,4,6,1,12,8,0,2,12,2,0,2,12,16,0,1,12,7,0,1,12,2,0,",
  "1,12,5,0,1,12,2,6,1,0,7,6,2,12,2,6,2,12,3,6,2,12,1,0,6,12,1,6,5,12,5,0,2,6,2,12,7,6,3,12,5,6,",
  "B,12,A,0,1,12,1,0,2,12,1,0,1,12,26,0,1,12,1,0,9,6,1,12,1,6,2,12,1,6,1,12,4,6,1,12,5,6,1,0,1,",
  "6,1,0,D,12,2,6,1D,12,35,0,12,6,4,0,5,12,A,11,4,12,1,6,3,0,1E,12,30,0,14,6,2,0,1,12,1,0,8,12,",
  "A,11,A6,12,2F,0,7,6,2,12,9,6,17,12,4,0,2,6,22,12,30,0,11,6,3,12,1,0,B,12,A,11,26,12,2B,0,D,6,",
  "1,0,7,12,A,11,6,12,14,11,39,12,F,6,4,12,A,11,C6,12,2C,0,F,6,65,12,40,0,A,11,15,12,8,0,2,12,1,",
  "0,2,12,8,0,1,12,2,0,1,12,18,0,6,6,1,12,2,6,2,12,4,6,1,0,1,6,1,0,2,6,C,12,A,11,46,12,8,0,2,12,",
  "27,0,7,6,2,12,7,6,1,0,1,12,1,0,1,6,1B,12,1,0,A,6,28,0,7,6,1,0,4,6,8,12,1,6,8,12,1,0,B,6,2E,0,",
  "10,6,3,12,1,0,12,12,49,0,C7,12,21,0,F,12,A,11,6,12,9,0,1,12,25,0,8,6,1,12,8,6,1,0,F,12,A,11,",
  "18,12,1E,0,2,12,16,6,1,12,E,6,49,12,7,0,1,12,2,0,1,12,26,0,6,6,3,12,1,6,1,12,2,6,1,12,7,6,1,",
  "0,1,6,8,12,A,11,6,12,6,0,1,12,2,0,1,12,20,0,5,6,1,12,2,6,1,12,5,6,1,0,7,12,A,11,136,12,13,0,",
  "4,6,9,12,2,6,1,0,1,6,D,0,1,12,22,0,7,6,3,12,5,6,D,12,A,11,1,6,55,12,1,0,4F,12,39A,0,66,12,6F,",
  "0,11,12,C4,0,A4C,12,61,0,F,12,430,0,10,8,1,6,6,0,F,6,A,12,F9B,0,5,12,247,0,1AB9,12,1E,0,12,6,",
  "A,11,6C6,12,239,0,7,12,1F,0,1,12,A,11,6,12,4F,0,1,12,A,11,6,12,1E,0,2,12,5,6,B,12,30,0,7,6,9,",
  "12,4,0,C,12,A,11,9,12,15,0,5,12,13,0,1B0,12,2D,0,3,12,A,11,C6,12,40,0,80,12,4B,0,4,12,1,6,1,",
  "0,37,6,7,12,4,6,D,0,40,12,2,0,1,12,1,0,1,6,B,12,2,6,3FFE,12,4,B,1,12,7,B,1,12,2,B,1,12,1,B,",
  "11F,12,3,B,32,12,1,B,E,12,4,B,A98,12,6B,0,5,12,D,0,3,12,9,0,7,12,A,0,3,12,2,6,1,12,4,8,104C,",
  "12,A,11,206,12,2E,6,2,12,17,6,21E,12,5,6,3,12,6,6,8,8,8,6,2,12,7,6,1E,12,4,6,94,12,3,6,1BB,",
  "12,55,0,1,12,47,0,1,12,2,0,2,12,1,0,2,12,2,0,2,12,4,0,1,12,C,0,1,12,1,0,1,12,7,0,1,12,41,0,1,",
  "12,4,0,2,12,8,0,1,12,7,0,1,12,1C,0,1,12,4,0,1,12,5,0,1,12,1,0,3,12,7,0,1,12,154,0,2,12,19,0,",
  "1,12,19,0,1,12,1F,0,1,12,19,0,1,12,1F,0,1,12,19,0,1,12,1F,0,1,12,19,0,1,12,1F,0,1,12,19,0,1,",
  "12,8,0,2,12,32,11,200,12,37,6,4,12,32,6,8,12,1,6,E,12,1,6,16,12,5,6,1,12,F,6,450,12,1F,0,6,",
  "12,6,0,D5,12,7,6,1,12,11,6,2,12,7,6,1,12,2,6,1,12,5,6,5,12,3E,0,21,12,1,6,70,12,2D,0,3,12,7,",
  "6,7,0,2,12,A,11,4,12,1,0,141,12,1E,0,1,6,11,12,2C,0,4,6,A,11,1D6,12,1C,0,4,6,A,11,D6,12,1E,0,",
  "2,6,1,0,A,11,1E5,12,7,0,1,12,4,0,1,12,2,0,1,12,F,0,1,12,C5,0,B,12,7,6,29,12,44,0,7,6,1,0,4,",
  "12,A,11,4A6,12,4,0,1,12,1B,0,1,12,2,0,1,12,1,0,2,12,1,0,1,12,A,0,1,12,4,0,1,12,1,0,1,12,1,0,",
  "6,12,1,0,4,12,1,0,1,12,1,0,1,12,1,0,1,12,3,0,1,12,2,0,1,12,1,0,2,12,1,0,1,12,1,0,1,12,1,0,1,",
  "12,1,0,1,12,1,0,1,12,2,0,1,12,1,0,2,12,4,0,1,12,7,0,1,12,4,0,1,12,4,0,1,12,1,0,1,12,A,0,1,12,",
  "11,0,5,12,3,0,1,12,5,0,1,12,11,0,274,12,1A,0,6,12,1A,0,6,12,1A,0,5C,12,1A,13,1FB,12,5,6,7F0,",
  "12,A,11,C0407,12,1,8,1E,12,60,6,80,12,F0,6,2FE10,12"]

/-- The values of the sentence break property, each as its aliases. -/
def sentenceBreakValues : Array (List String) := #[
  ["AT", "ATerm"], ["CR", "CR"], ["CL", "Close"], ["EX", "Extend"], ["FO", "Format"],
  ["LF", "LF"], ["LO", "Lower"], ["NU", "Numeric"], ["LE", "OLetter"], ["XX", "Other"],
  ["SC", "SContinue"], ["ST", "STerm"], ["SE", "Sep"], ["SP", "Sp"], ["UP", "Upper"]]

/-- The sentence break value of every code point, as runs of positions in `sentenceBreakValues`. -/
def sentenceBreakRunsText : String :=
  String.join [
  "9,9,1,D,1,5,2,D,1,1,12,9,1,D,1,B,1,2,4,9,3,2,2,9,2,A,1,0,1,9,A,7,2,A,3,9,1,B,1,9,1A,E,1,2,1,",
  "9,1,2,3,9,1A,6,1,2,1,9,1,2,7,9,1,C,1A,9,1,D,9,9,1,6,1,2,1,9,1,4,7,9,1,6,4,9,1,6,1,2,4,9,17,E,",
  "1,9,7,E,18,6,1,9,8,6,1,E,1,6,1,E,1,6,1,E,1,6,1,E,1,6,1,E,1,6,1,E,1,6,1,E,1,6,1,E,1,6,1,E,1,6,",
  "1,E,1,6,1,E,1,6,1,E,1,6,1,E,1,6,1,E,1,6,1,E,1,6,1,E,1,6,1,E,1,6,1,E,1,6,1,E,1,6,1,E,1,6,1,E,",
  "1,6,1,E,1,6,1,E,1,6,1,E,1,6,1,E,1,6,1,E,1,6,1,E,1,6,1,E,2,6,1,E,1,6,1,E,1,6,1,E,1,6,1,E,1,6,",
  "1,E,1,6,1,E,1,6,1,E,1,6,1,E,2,6,1,E,1,6,1,E,1,6,1,E,1,6,1,E,1,6,1,E,1,6,1,E,1,6,1,E,1,6,1,E,",
  "1,6,1,E,1,6,1,E,1,6,1,E,1,6,1,E,1,6,1,E,1,6,1,E,1,6,1,E,1,6,1,E,1,6,1,E,1,6,1,E,1,6,1,E,1,6,",
  "1,E,1,6,1,E,1,6,1,E,1,6,1,E,1,6,2,E,1,6,1,E,1,6,1,E,3,6,2,E,1,6,1,E,1,6,2,E,1,6,3,E,2,6,4,E,",
  "1,6,2,E,1,6,3,E,3,6,2,E,1,6,2,E,1,6,1,E,1,6,1,E,1,6,2,E,1,6,1,E,2,6,1,E,1,6,2,E,1,6,3,E,1,6,",
  "1,E,1,6,2,E,2,6,1,8,1,E,3,6,4,8,2,E,1,6,2,E,1,6,2,E,1,6,1,E,1,6,1,E,1,6,1,E,1,6,1,E,1,6,1,E,",
  "1,6,1,E,1,6,1,E,1,6,1,E,2,6,1,E,1,6,1,E,1,6,1,E,1,6,1,E,1,6,1,E,1,6,1,E,1,6,1,E,1,6,1,E,1,6,",
  "1,E,2,6,2,E,1,6,1,E,1,6,3,E,1,6,1,E,1,6,1,E,1,6,1,E,1,6,1,E,1,6,1,E,1,6,1,E,1,6,1,E,1,6,1,E,",
  "1,6,1,E,1,6,1,E,1,6,1,E,1,6,1,E,1,6,1,E,1,6,1,E,1,6,1,E,1,6,1,E,1,6,1,E,1,6,1,E,1,6,1,E,1,6,",
  "1,E,1,6,1,E,1,6,1,E,1,6,1,E,1,6,1,E,1,6,1,E,1,6,1,E,1,6,1,E,1,6,1,E,1,6,1,E,7,6,2,E,1,6,2,E,",
  "2,6,1,E,1,6,4,E,1,6,1,E,1,6,1,E,1,6,1,E,1,6,1,E,45,6,2,8,23,6,7,8,2,6,4,9,C,8,E,9,5,6,7,9,1,",
  "8,1,9,1,8,11,9,70,3,1,E,1,6,1,E,1,6,1,8,1,9,1,E,1,6,2,9,4,6,1,A,1,E,6,9,1,E,1,9,3,E,1,9,1,E,",
  "1,9,2,E,1,6,11,E,1,9,9,E,23,6,1,E,2,6,3,E,3,6,1,E,1,6,1,E,1,6,1,E,1,6,1,E,1,6,1,E,1,6,1,E,1,",
  "6,1,E,1,6,1,E,1,6,1,E,1,6,1,E,1,6,1,E,1,6,1,E,5,6,1,E,1,6,1,9,1,E,1,6,2,E,2,6,33,E,30,6,1,E,",
  "1,6,1,E,1,6,1,E,1,6,1,E,1,6,1,E,1,6,1,E,1,6,1,E,1,6,1,E,1,6,1,E,1,6,1,E,1,6,1,E,1,6,1,E,1,6,",
  "1,E,1,6,1,E,1,6,1,E,1,6,1,E,1,6,1,E,1,6,1,9,7,3,1,E,1,6,1,E,1,6,1,E,1,6,1,E,1,6,1,E,1,6,1,E,",
  "1,6,1,E,1,6,1,E,1,6,1,E,1,6,1,E,1,6,1,E,1,6,1,E,1,6,1,E,1,6,1,E,1,6,1,E,1,6,1,E,1,6,1,E,1,6,",
  "1,E,1,6,1,E,1,6,1,E,1,6,1,E,1,6,1,E,1,6,1,E,1,6,1,E,1,6,1,E,1,6,1,E,1,6,1,E,1,6,2,E,1,6,1,E,",
  "1,6,1,E,1,6,1,E,1,6,1,E,1,6,1,E,1,6,1,E,2,6,1,E,1,6,1,E,1,6,1,E,1,6,1,E,1,6,1,E,1,6,1,E,1,6,",
  "1,E,1,6,1,E,1,6,1,E,1,6,1,E,1,6,1,E,1,6,1,E,1,6,1,E,1,6,1,E,1,6,1,E,1,6,1,E,1,6,1,E,1,6,1,E,",
  "1,6,1,E,1,6,1,E,1,6,1,E,1,6,1,E,1,6,1,E,1,6,1,E,1,6,1,E,1,6,1,E,1,6,1,E,1,6,1,E,1,6,1,E,1,6,",
  "1,E,1,6,1,E,1,6,1,E,1,6,1,E,1,6,1,E,1,6,1,E,1,6,1,E,1,6,1,E,1,6,1,E,1,6,1,E,1,6,1,E,1,6,1,E,",
  "1,6,1,E,1,6,1,E,1,6,1,E,1,6,1,E,1,6,1,E,1,6,1,E,1,6,1,E,1,6,1,9,26,E,2,9,1,8,3,9,1,A,2,9,29,",
  "6,1,B,7,9,2D,3,1,9,1,3,1,9,2,3,1,9,2,3,1,9,1,3,8,9,1B,8,4,9,5,8,C,9,6,7,6,9,2,A,2,9,B,3,1,9,",
  "1,4,3,B,2B,8,15,3,A,7,1,9,2,7,1,9,2,8,1,3,63,8,1,B,1,8,7,3,1,7,1,9,6,3,2,8,2,3,1,9,4,3,2,8,A,",
  "7,3,8,2,9,1,8,3,B,C,9,1,4,1,8,1,3,1E,8,1B,3,2,9,59,8,B,3,1,8,E,9,A,7,21,8,9,3,2,8,2,9,1,A,1,",
  "B,1,8,2,9,1,3,2,9,16,8,4,3,1,8,9,3,1,8,3,3,1,8,5,3,9,9,1,B,1,9,1,B,3,9,2,B,1,9,19,8,3,3,4,9,",
  "B,8,5,9,18,8,1,9,6,8,1,9,2,7,5,9,9,3,2A,8,18,3,1,7,21,3,36,8,3,3,1,8,12,3,1,8,7,3,A,8,2,3,2,",
  "B,A,7,1,9,10,8,3,3,1,9,8,8,2,9,2,8,2,9,16,8,1,9,7,8,1,9,1,8,3,9,4,8,2,9,1,3,1,8,7,3,2,9,2,3,",
  "2,9,3,3,1,8,8,9,1,3,4,9,2,8,1,9,3,8,2,3,2,9,A,7,2,8,A,9,1,8,1,9,1,3,2,9,3,3,1,9,6,8,4,9,2,8,",
  "2,9,16,8,1,9,7,8,1,9,2,8,1,9,2,8,1,9,2,8,2,9,1,3,1,9,5,3,4,9,2,3,2,9,3,3,3,9,1,3,7,9,4,8,1,9,",
  "1,8,7,9,A,7,2,3,3,8,1,3,B,9,3,3,1,9,9,8,1,9,3,8,1,9,16,8,1,9,7,8,1,9,2,8,1,9,5,8,2,9,1,3,1,8,",
  "8,3,1,9,3,3,1,9,3,3,2,9,1,8,F,9,2,8,2,3,2,9,A,7,9,9,1,8,6,3,1,9,3,3,1,9,8,8,2,9,2,8,2,9,16,8,",
  "1,9,7,8,1,9,2,8,1,9,5,8,2,9,1,3,1,8,7,3,2,9,2,3,2,9,3,3,7,9,3,3,4,9,2,8,1,9,3,8,2,3,2,9,A,7,",
  "1,9,1,8,10,9,1,3,1,8,1,9,6,8,3,9,3,8,1,9,4,8,3,9,2,8,1,9,1,8,1,9,2,8,3,9,2,8,3,9,3,8,3,9,C,8,",
  "4,9,5,3,3,9,3,3,1,9,4,3,2,9,1,8,6,9,1,3,E,9,A,7,10,9,5,3,8,8,1,9,3,8,1,9,17,8,1,9,10,8,2,9,1,",
  "3,1,8,7,3,1,9,3,3,1,9,4,3,7,9,2,3,1,9,3,8,2,9,1,8,2,9,2,8,2,3,2,9,A,7,10,9,1,8,3,3,1,9,8,8,1,",
  "9,3,8,1,9,17,8,1,9,A,8,1,9,5,8,2,9,1,3,1,8,7,3,1,9,3,3,1,9,4,3,7,9,2,3,6,9,2,8,1,9,2,8,2,3,2,",
  "9,A,7,1,9,2,8,1,3,C,9,4,3,9,8,1,9,3,8,1,9,29,8,2,3,1,8,7,3,1,9,3,3,1,9,4,3,1,8,5,9,3,8,1,3,7,",
  "9,3,8,2,3,2,9,A,7,A,9,6,8,1,9,3,3,1,9,12,8,3,9,18,8,1,9,9,8,1,9,1,8,2,9,7,8,3,9,1,3,4,9,6,3,",
  "1,9,1,3,1,9,8,3,6,9,A,7,2,9,2,3,D,9,30,8,1,3,2,8,7,3,5,9,7,8,8,3,1,9,A,7,27,9,2,8,1,9,1,8,1,",
  "9,5,8,1,9,18,8,1,9,1,8,1,9,A,8,1,3,2,8,9,3,1,8,2,9,5,8,1,9,1,8,1,9,7,3,1,9,A,7,2,9,4,8,20,9,",
  "1,8,17,9,2,3,6,9,A,7,B,9,1,3,1,9,1,3,1,9,1,3,4,2,2,3,8,8,1,9,24,8,4,9,14,3,1,9,2,3,5,8,B,3,1,",
  "9,24,3,9,9,1,3,39,9,2B,8,14,3,1,8,A,7,2,B,4,9,6,8,4,3,4,8,3,3,1,8,3,3,2,8,7,3,3,8,4,3,D,8,C,",
  "3,1,8,1,3,A,7,4,3,2,9,26,E,1,9,1,E,5,9,1,E,2,9,2B,8,1,9,1,6,14C,8,1,9,4,8,2,9,7,8,1,9,1,8,1,",
  "9,4,8,2,9,29,8,1,9,4,8,2,9,21,8,1,9,4,8,2,9,7,8,1,9,1,8,1,9,4,8,2,9,F,8,1,9,39,8,1,9,4,8,2,9,",
  "43,8,2,9,3,3,2,9,1,B,4,9,2,B,17,9,10,8,10,9,56,E,2,9,6,6,3,9,26C,8,1,9,1,B,11,8,1,D,1A,8,2,2,",
  "3,9,4B,8,3,9,B,8,7,9,12,8,4,3,9,9,13,8,3,3,2,B,9,9,12,8,2,3,C,9,D,8,1,9,3,8,1,9,2,3,C,9,34,8,",
  "20,3,2,B,1,9,1,8,4,9,1,8,1,3,2,9,A,7,18,9,1,A,1,B,4,9,1,A,1,B,1,9,3,3,1,4,1,3,A,7,6,9,59,8,7,",
  "9,5,8,2,3,22,8,1,3,1,8,5,9,46,8,A,9,1F,8,1,9,C,3,4,9,C,3,8,9,2,B,A,7,1E,8,2,9,5,8,B,9,2C,8,4,",
  "9,1A,8,6,9,B,7,25,9,17,8,5,3,4,9,35,8,A,3,1,9,1D,3,2,9,1,3,A,7,6,9,A,7,D,9,1,8,4,B,4,9,1F,3,",
  "31,9,5,3,2F,8,11,3,8,8,1,9,2,B,A,7,2,B,2,9,2,B,B,9,9,3,9,9,3,B,3,3,1E,8,D,3,2,8,A,7,2C,8,E,3,",
  "C,9,24,8,14,3,3,9,2,B,3,9,A,7,3,9,3,8,A,7,24,8,2,B,9,6,1,E,1,6,5,9,2B,8,2,9,3,8,10,9,3,3,1,9,",
  "15,3,4,8,1,3,6,8,1,3,2,8,3,3,1,8,5,9,C0,6,40,3,1,E,1,6,1,E,1,6,1,E,1,6,1,E,1,6,1,E,1,6,1,E,1,",
  "6,1,E,1,6,1,E,1,6,1,E,1,6,1,E,1,6,1,E,1,6,1,E,1,6,1,E,1,6,1,E,1,6,1,E,1,6,1,E,1,6,1,E,1,6,1,",
  "E,1,6,1,E,1,6,1,E,1,6,1,E,1,6,1,E,1,6,1,E,1,6,1,E,1,6,1,E,1,6,1,E,1,6,1,E,1,6,1,E,1,6,1,E,1,",
  "6,1,E,1,6,1,E,1,6,1,E,1,6,1,E,1,6,1,E,1,6,1,E,1,6,1,E,1,6,1,E,1,6,1,E,1,6,1,E,1,6,1,E,1,6,1,",
  "E,1,6,1,E,1,6,1,E,1,6,1,E,1,6,1,E,1,6,1,E,1,6,1,E,1,6,1,E,1,6,1,E,1,6,1,E,1,6,1,E,1,6,1,E,1,",
  "6,1,E,1,6,1,E,1,6,1,E,1,6,1,E,1,6,1,E,1,6,1,E,1,6,1,E,1,6,1,E,1,6,1,E,1,6,1,E,1,6,1,E,1,6,1,",
  "E,1,6,1,E,1,6,1,E,1,6,1,E,1,6,1,E,1,6,1,E,1,6,1,E,1,6,1,E,1,6,1,E,1,6,1,E,1,6,1,E,1,6,1,E,9,",
  "6,1,E,1,6,1,E,1,6,1,E,1,6,1,E,1,6,1,E,1,6,1,E,1,6,1,E,1,6,1,E,1,6,1,E,1,6,1,E,1,6,1,E,1,6,1,",
  "E,1,6,1,E,1,6,1,E,1,6,1,E,1,6,1,E,1,6,1,E,1,6,1,E,1,6,1,E,1,6,1,E,1,6,1,E,1,6,1,E,1,6,1,E,1,",
  "6,1,E,1,6,1,E,1,6,1,E,1,6,1,E,1,6,1,E,1,6,1,E,1,6,1,E,1,6,1,E,1,6,1,E,1,6,1,E,1,6,1,E,1,6,1,",
  "E,1,6,1,E,1,6,1,E,1,6,1,E,1,6,1,E,1,6,1,E,1,6,1,E,1,6,1,E,1,6,1,E,1,6,1,E,1,6,1,E,1,6,1,E,1,",
  "6,1,E,1,6,1,E,1,6,1,E,9,6,8,E,6,6,2,9,6,E,2,9,8,6,8,E,8,6,8,E,6,6,2,9,6,E,2,9,8,6,1,9,1,E,1,",
  "9,1,E,1,9,1,E,1,9,1,E,8,6,8,E,E,6,2,9,8,6,8,E,8,6,8,E,8,6,8,E,5,6,1,9,2,6,5,E,1,9,1,6,3,9,3,",
  "6,1,9,2,6,5,E,3,9,4,6,2,9,2,6,4,E,4,9,8,6,5,E,5,9,3,6,1,9,2,6,5,E,3,9,B,D,1,4,2,3,2,4,3,9,2,",
  "A,3,9,8,2,4,9,1,0,3,9,2,C,5,4,1,D,9,9,2,2,1,9,2,B,7,9,2,2,3,B,15,9,1,D,5,4,1,9,A,4,1,9,1,6,B,",
  "9,2,2,1,6,D,9,2,2,1,9,D,6,33,9,21,3,11,9,1,E,4,9,1,E,2,9,1,6,3,E,2,6,3,E,1,6,1,9,1,E,3,9,5,E,",
  "6,9,1,E,1,9,1,E,1,9,1,E,1,9,4,E,1,9,1,6,4,E,1,6,4,8,1,6,2,9,2,6,2,E,5,9,1,E,4,6,4,9,1,6,11,9,",
  "10,E,10,6,3,8,1,E,1,6,4,8,17F,9,4,2,1D,9,2,2,18B,9,1A,E,1A,6,271,9,6,2,7,9,E,2,4F,9,2,2,1F,9,",
  "A,2,193,9,16,2,3F,9,4,2,20,9,2,2,202,9,30,E,30,6,1,E,1,6,3,E,2,6,1,E,1,6,1,E,1,6,1,E,1,6,4,E,",
  "1,6,1,E,2,6,1,E,8,6,3,E,1,6,1,E,1,6,1,E,1,6,1,E,1,6,1,E,1,6,1,E,1,6,1,E,1,6,1,E,1,6,1,E,1,6,",
  "1,E,1,6,1,E,1,6,1,E,1,6,1,E,1,6,1,E,1,6,1,E,1,6,1,E,1,6,1,E,1,6,1,E,1,6,1,E,1,6,1,E,1,6,1,E,",
  "1,6,1,E,1,6,1,E,1,6,1,E,1,6,1,E,1,6,1,E,1,6,1,E,1,6,1,E,1,6,1,E,1,6,1,E,1,6,1,E,1,6,1,E,1,6,",
  "1,E,1,6,1,E,1,6,1,E,1,6,1,E,1,6,1,E,1,6,1,E,1,6,1,E,1,6,1,E,1,6,1,E,1,6,1,E,1,6,1,E,1,6,1,E,",
  "1,6,1,E,1,6,1,E,1,6,1,E,1,6,1,E,1,6,1,E,1,6,1,E,2,6,6,9,1,E,1,6,1,E,1,6,3,3,1,E,1,6,5,9,3,B,",
  "4,9,26,6,1,9,1,6,5,9,1,6,2,9,38,8,7,9,1,8,F,9,1,3,17,8,9,9,7,8,1,9,7,8,1,9,7,8,1,9,7,8,1,9,7,",
  "8,1,9,7,8,1,9,7,8,1,9,7,8,1,9,20,3,E,2,E,9,2,2,2,9,A,2,4,9,1,B,1,8,C,9,1,B,5,9,1,2,10,9,2,B,",
  "8,2,1A3,9,1,D,1,A,1,B,2,9,3,8,A,2,2,9,8,2,1,9,3,2,1,9,9,8,6,3,1,9,5,8,2,9,5,8,4,9,56,8,2,9,2,",
  "3,2,9,3,8,1,9,5A,8,1,9,4,8,5,9,2B,8,1,9,5E,8,11,9,20,8,30,9,10,8,200,9,19C0,8,40,9,568D,8,43,",
  "9,2E,8,1,9,1,B,10D,8,1,9,2,B,10,8,A,7,2,8,14,9,1,E,1,6,1,E,1,6,1,E,1,6,1,E,1,6,1,E,1,6,1,E,1,",
  "6,1,E,1,6,1,E,1,6,1,E,1,6,1,E,1,6,1,E,1,6,1,E,1,6,1,E,1,6,1,E,1,6,1,E,1,6,1,E,1,6,1,E,1,6,1,",
  "E,1,6,1,E,1,6,1,E,1,6,1,E,1,6,1,E,1,6,1,E,1,6,1,8,4,3,1,9,A,3,1,9,1,8,1,E,1,6,1,E,1,6,1,E,1,",
  "6,1,E,1,6,1,E,1,6,1,E,1,6,1,E,1,6,1,E,1,6,1,E,1,6,1,E,1,6,1,E,1,6,1,E,1,6,1,E,1,6,1,E,3,6,2,",
  "3,50,8,2,3,1,9,1,B,3,9,1,B,1F,9,9,8,2,9,1,E,1,6,1,E,1,6,1,E,1,6,1,E,1,6,1,E,1,6,1,E,1,6,1,E,",
  "3,6,1,E,1,6,1,E,1,6,1,E,1,6,1,E,1,6,1,E,1,6,1,E,1,6,1,E,1,6,1,E,1,6,1,E,1,6,1,E,1,6,1,E,1,6,",
  "1,E,1,6,1,E,1,6,1,E,1,6,1,E,1,6,1,E,1,6,1,E,1,6,1,E,1,6,1,E,1,6,1,E,1,6,1,E,1,6,1,E,1,6,1,E,",
  "1,6,1,E,1,6,1,E,1,6,1,E,1,6,1,E,1,6,1,E,1,6,1,E,1,6,1,E,1,6,1,E,A,6,1,E,1,6,1,E,1,6,2,E,1,6,",
  "1,E,1,6,1,E,1,6,1,E,1,6,1,E,1,6,1,8,2,9,1,E,1,6,1,E,1,6,1,8,1,E,1,6,1,E,3,6,1,E,1,6,1,E,1,6,",
  "1,E,1,6,1,E,1,6,1,E,1,6,1,E,1,6,1,E,1,6,1,E,1,6,1,E,1,6,1,E,1,6,5,E,1,6,5,E,1,6,1,E,1,6,1,E,",
  "1,6,1,E,1,6,1,E,1,6,1,E,1,6,1,E,1,6,1,E,1,6,4,E,1,6,1,E,1,6,2,E,1,6,2,9,1,E,1,6,1,9,1,6,1,9,",
  "1,6,1,E,1,6,1,E,1,6,1,E,1,6,1,E,15,9,3,6,1,E,1,6,1,8,3,6,7,8,1,3,3,8,1,3,4,8,1,3,17,8,5,3,4,",
  "9,1,3,13,9,34,8,2,9,2,B,8,9,2,3,32,8,12,3,8,9,2,B,A,7,6,9,12,3,6,8,3,9,1,8,1,9,2,8,1,3,A,7,",
  "1C,8,8,3,1,9,1,B,17,8,D,3,C,9,1D,8,3,9,4,3,2F,8,E,3,7,9,2,B,5,9,1,8,A,7,6,9,5,8,1,3,A,8,A,7,",
  "5,8,1,9,29,8,E,3,9,9,3,8,1,3,8,8,2,3,2,9,A,7,3,9,3,B,17,8,3,9,1,8,3,3,32,8,1,3,1,8,3,3,2,8,2,",
  "3,5,8,2,3,1,8,1,3,1,8,18,9,3,8,2,9,B,8,5,3,2,B,3,8,2,3,A,9,6,8,2,9,6,8,2,9,6,8,9,9,7,8,1,9,7,",
  "8,1,9,2B,6,1,9,E,6,6,9,50,6,23,8,8,3,1,B,2,3,2,9,A,7,6,9,2BA4,8,C,9,17,8,4,9,31,8,2104,9,16E,",
  "8,2,9,6A,8,26,9,7,6,C,9,5,6,5,9,1,8,1,3,A,8,1,9,D,8,1,9,5,8,1,9,1,8,1,9,2,8,1,9,2,8,1,9,6C,8,",
  "21,9,16B,8,2,2,10,9,40,8,2,9,36,8,28,9,C,8,4,9,10,3,2,A,1,B,2,A,2,B,2,2,7,9,10,3,1,9,2,A,2,9,",
  "10,2,2,9,2,2,7,9,2,A,1,0,1,9,2,A,2,B,1,A,6,2,4,9,1,A,C,9,5,8,1,9,87,8,2,9,1,4,1,9,1,B,6,9,2,",
  "2,2,9,2,A,1,0,1,9,A,7,2,A,3,9,1,B,1,9,1A,E,1,2,1,9,1,2,3,9,1A,6,1,2,1,9,1,2,1,9,2,2,1,B,2,2,",
  "1,A,1,9,38,8,2,3,1F,8,3,9,6,8,2,9,6,8,2,9,6,8,2,9,3,8,1C,9,3,4,4,9,C,8,1,9,1A,8,1,9,13,8,1,9,",
  "2,8,1,9,F,8,2,9,E,8,22,9,7B,8,45,9,35,8,88,9,1,3,82,9,1D,8,3,9,31,8,F,9,1,3,1F,9,20,8,D,9,1E,",
  "8,5,9,26,8,5,3,5,9,1E,8,2,9,24,8,4,9,8,8,1,9,5,8,2A,9,28,E,28,6,4E,8,2,9,A,7,6,9,24,E,4,9,24,",
  "6,4,9,28,8,8,9,34,8,C,9,B,E,1,9,F,E,1,9,7,E,1,9,2,E,1,9,B,6,1,9,F,6,1,9,7,6,1,9,2,6,3,9,34,8,",
  "C,9,137,8,9,9,16,8,A,9,8,8,18,9,1,6,2,8,3,6,1,9,2A,6,1,9,9,6,45,9,6,8,2,9,1,8,1,9,2C,8,1,9,2,",
  "8,3,9,1,8,2,9,17,8,A,9,17,8,9,9,1F,8,41,9,13,8,1,9,2,8,A,9,16,8,A,9,1A,8,46,9,38,8,6,9,2,8,",
  "40,9,1,8,3,3,1,9,2,3,5,9,4,3,4,8,1,9,3,8,1,9,1D,8,2,9,3,3,4,9,1,3,16,9,2,B,8,9,1D,8,3,9,1D,8,",
  "23,9,8,8,1,9,1C,8,2,3,19,9,36,8,A,9,16,8,A,9,13,8,D,9,12,8,6E,9,49,8,37,9,33,E,D,9,33,6,D,9,",
  "24,8,4,3,8,9,A,7,6,9,A,7,6,8,16,E,3,9,5,3,1,9,1,8,16,6,FA,9,2A,8,1,9,2,3,3,9,2,8,10,9,3,8,37,",
  "9,4,3,1D,8,A,9,1,8,8,9,16,8,B,3,4,9,5,B,16,9,12,8,4,3,4,B,26,9,15,8,1B,9,17,8,9,9,3,3,35,8,F,",
  "3,2,B,1D,9,A,7,1,3,2,8,2,3,1,8,9,9,4,3,2D,8,B,3,2,9,1,7,4,B,1,3,A,9,1,7,2,9,19,8,7,9,A,7,6,9,",
  "3,3,24,8,E,3,1,9,A,7,1,9,3,B,1,8,2,3,1,8,8,9,23,8,1,3,2,9,1,8,9,9,3,3,30,8,E,3,4,8,2,B,2,9,4,",
  "3,1,B,2,3,A,7,1,8,1,9,1,8,1,9,2,B,20,9,12,8,1,9,19,8,C,3,2,B,1,9,2,B,1,9,1,3,2,8,1,3,3E,9,7,",
  "8,1,9,1,8,1,9,4,8,1,9,F,8,1,9,A,8,1,B,6,9,2F,8,C,3,5,9,A,7,6,9,4,3,1,9,8,8,2,9,2,8,2,9,16,8,",
  "1,9,7,8,1,9,2,8,1,9,5,8,1,9,2,3,1,8,7,3,2,9,2,3,2,9,3,3,2,9,1,8,6,9,1,3,5,9,5,8,2,3,2,9,7,3,",
  "3,9,5,3,B,9,A,8,1,9,1,8,2,9,1,8,1,9,26,8,1,9,1,8,9,3,1,9,1,3,2,9,1,3,1,9,4,3,1,9,5,3,1,8,1,3,",
  "1,8,2,B,B,9,2,3,1D,9,35,8,12,3,4,8,2,B,3,9,A,7,4,9,1,3,3,8,1E,9,30,8,14,3,2,8,1,9,1,8,8,9,A,",
  "7,A6,9,2F,8,7,3,2,9,9,3,1,9,2,B,5,9,F,B,4,8,2,3,22,9,30,8,11,3,2,B,1,9,1,8,B,9,A,7,26,9,2B,8,",
  "D,3,1,8,7,9,A,7,6,9,14,7,1C,9,1B,8,2,9,F,3,4,9,A,7,2,9,3,B,1,9,7,8,B9,9,2C,8,F,3,65,9,20,E,",
  "20,6,A,7,15,9,8,8,2,9,1,8,2,9,8,8,1,9,2,8,1,9,18,8,6,3,1,9,2,3,2,9,4,3,1,8,1,3,1,8,2,3,1,B,1,",
  "9,1,B,9,9,A,7,46,9,8,8,2,9,27,8,7,3,2,9,7,3,1,8,1,9,1,8,1,3,1B,9,1,8,A,3,28,8,7,3,1,8,4,3,3,",
  "9,2,B,3,9,1,3,8,9,1,8,B,3,2E,8,10,3,1,9,2,B,1,8,12,9,49,8,C7,9,21,8,F,9,A,7,6,9,9,8,1,9,25,8,",
  "8,3,1,9,8,3,1,8,2,B,D,9,A,7,18,9,1E,8,2,9,16,3,1,9,E,3,49,9,7,8,1,9,2,8,1,9,26,8,6,3,3,9,1,3,",
  "1,9,2,3,1,9,7,3,1,8,1,3,8,9,A,7,6,9,6,8,1,9,2,8,1,9,20,8,5,3,1,9,2,3,1,9,5,3,1,8,7,9,A,7,136,",
  "9,13,8,4,3,2,B,7,9,2,3,1,8,1,3,D,8,1,9,22,8,7,3,3,9,5,3,2,B,B,9,A,7,1,3,55,9,1,8,4F,9,39A,8,",
  "66,9,6F,8,11,9,C4,8,A4C,9,61,8,F,9,430,8,10,4,1,3,6,8,F,3,A,9,F9B,8,5,9,247,8,1AB9,9,1E,8,12,",
  "3,A,7,6C6,9,239,8,7,9,1F,8,1,9,A,7,4,9,2,B,4F,8,1,9,A,7,6,9,1E,8,2,9,5,3,1,B,A,9,30,8,7,3,2,",
  "B,7,9,4,8,1,B,B,9,A,7,9,9,15,8,5,9,13,8,1B0,9,2D,8,1,9,2,B,A,7,C6,9,20,E,20,6,18,9,1,B,67,9,",
  "4B,8,4,9,1,3,1,8,37,3,7,9,4,3,D,8,40,9,2,8,1,9,1,8,1,3,B,9,2,3,E,9,17F8,8,8,9,4D6,8,29,9,A,8,",
  "22E7,9,4,8,1,9,7,8,1,9,2,8,1,9,123,8,F,9,1,8,1D,9,3,8,2,9,1,8,E,9,4,8,8,9,18C,8,904,9,6B,8,5,",
  "9,D,8,3,9,9,8,7,9,A,8,3,9,2,3,1,B,4,4,104C,9,A,7,206,9,2E,3,2,9,17,3,21E,9,5,3,3,9,6,3,8,4,8,",
  "3,2,9,7,3,1E,9,4,3,94,9,3,3,1BB,9,1A,E,1A,6,1A,E,7,6,1,9,12,6,1A,E,1A,6,1,E,1,9,2,E,2,9,1,E,",
  "2,9,2,E,2,9,4,E,1,9,8,E,4,6,1,9,1,6,1,9,7,6,1,9,B,6,1A,E,1A,6,2,E,1,9,4,E,2,9,8,E,1,9,7,E,1,",
  "9,1A,6,2,E,1,9,4,E,1,9,5,E,1,9,1,E,3,9,7,E,1,9,1A,6,1A,E,1A,6,1A,E,1A,6,1A,E,1A,6,1A,E,1A,6,",
  "1A,E,1A,6,1A,E,1C,6,2,9,19,E,1,9,19,6,1,9,6,6,19,E,1,9,19,6,1,9,6,6,19,E,1,9,19,6,1,9,6,6,19,",
  "E,1,9,19,6,1,9,6,6,19,E,1,9,19,6,1,9,6,6,1,E,1,6,2,9,32,7,200,9,37,3,4,9,32,3,8,9,1,3,E,9,1,",
  "3,3,9,1,B,12,9,5,3,1,9,F,3,450,9,A,6,1,8,14,6,6,9,6,6,D5,9,7,3,1,9,11,3,2,9,7,3,1,9,2,3,1,9,",
  "5,3,5,9,3E,6,21,9,1,3,70,9,2D,8,3,9,7,3,7,8,2,9,A,7,4,9,1,8,141,9,1E,8,1,3,11,9,2C,8,4,3,A,7,",
  "1D6,9,1C,8,4,3,A,7,D6,9,1E,8,2,3,1,8,A,7,1E5,9,7,8,1,9,4,8,1,9,2,8,1,9,F,8,1,9,C5,8,B,9,7,3,",
  "29,9,22,E,22,6,7,3,1,8,4,9,A,7,4A6,9,4,8,1,9,1B,8,1,9,2,8,1,9,1,8,2,9,1,8,1,9,A,8,1,9,4,8,1,",
  "9,1,8,1,9,1,8,6,9,1,8,4,9,1,8,1,9,1,8,1,9,1,8,1,9,3,8,1,9,2,8,1,9,1,8,2,9,1,8,1,9,1,8,1,9,1,",
  "8,1,9,1,8,1,9,1,8,1,9,2,8,1,9,1,8,2,9,4,8,1,9,7,8,1,9,4,8,1,9,4,8,1,9,1,8,1,9,A,8,1,9,11,8,5,",
  "9,3,8,1,9,5,8,1,9,11,8,274,9,1A,E,6,9,1A,E,6,9,1A,E,4EC,9,3,2,577,9,A,7,406,9,A6E0,8,20,9,",
  "103A,8,6,9,DE,8,2,9,1682,8,E,9,1D31,8,F,9,26E,8,9A2,9,21E,8,5E2,9,134B,8,5,9,1060,8,ADC51,9,",
  "1,4,1E,9,60,3,80,9,F0,3,2FE10,9"]

end BuildSpec.Unicode
