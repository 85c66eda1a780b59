/-!
# General categories and ages of code points

Two run tables (see `BuildSpec.Unicode.Runs`) covering every code point from zero:

* `categoryRunsText` gives each code point its general category, as a position in
  `BuildSpec.Unicode.leafCategories`;
* `ageRunsText` gives each code point the version of Unicode that assigned it, as a position
  in `BuildSpec.Unicode.ages` counted from one, or zero for a code point not yet assigned.

The data is that of Unicode 16.0.
-/

namespace BuildSpec.Unicode

/-- The general category of every code point, as runs of positions in `leafCategories`. -/
def categoryRunsText : String :=
  String.join [
  "20,19,1,16,3,11,1,13,3,11,1,D,1,E,1,11,1,12,1,11,1,C,2,11,A,8,2,11,3,12,2,11,1A,0,1,D,1,11,1,",
  "E,1,14,1,B,1,14,1A,1,1,D,1,12,1,E,1,12,21,19,1,16,1,11,4,13,1,15,1,11,1,14,1,15,1,4,1,F,1,12,",
  "1,1A,1,15,1,14,1,15,1,12,2,A,1,14,1,1,2,11,1,14,1,A,1,4,1,10,3,A,1,11,17,0,1,12,7,0,18,1,1,",
  "12,8,1,1,0,1,1,1,0,1,1,1,0,1,1,1,0,1,1,1,0,1,1,1,0,1,1,1,0,1,1,1,0,1,1,1,0,1,1,1,0,1,1,1,0,1,",
  "1,1,0,1,1,1,0,1,1,1,0,1,1,1,0,1,1,1,0,1,1,1,0,1,1,1,0,1,1,1,0,1,1,1,0,1,1,1,0,1,1,1,0,1,1,1,",
  "0,1,1,1,0,1,1,1,0,1,1,1,0,1,1,1,0,1,1,1,0,2,1,1,0,1,1,1,0,1,1,1,0,1,1,1,0,1,1,1,0,1,1,1,0,1,",
  "1,1,0,1,1,1,0,2,1,1,0,1,1,1,0,1,1,1,0,1,1,1,0,1,1,1,0,1,1,1,0,1,1,1,0,1,1,1,0,1,1,1,0,1,1,1,",
  "0,1,1,1,0,1,1,1,0,1,1,1,0,1,1,1,0,1,1,1,0,1,1,1,0,1,1,1,0,1,1,1,0,1,1,1,0,1,1,1,0,1,1,1,0,1,",
  "1,1,0,1,1,1,0,1,1,2,0,1,1,1,0,1,1,1,0,3,1,2,0,1,1,1,0,1,1,2,0,1,1,3,0,2,1,4,0,1,1,2,0,1,1,3,",
  "0,3,1,2,0,1,1,2,0,1,1,1,0,1,1,1,0,1,1,2,0,1,1,1,0,2,1,1,0,1,1,2,0,1,1,3,0,1,1,1,0,1,1,2,0,2,",
  "1,1,4,1,0,3,1,4,4,1,0,1,2,1,1,1,0,1,2,1,1,1,0,1,2,1,1,1,0,1,1,1,0,1,1,1,0,1,1,1,0,1,1,1,0,1,",
  "1,1,0,1,1,1,0,1,1,1,0,2,1,1,0,1,1,1,0,1,1,1,0,1,1,1,0,1,1,1,0,1,1,1,0,1,1,1,0,1,1,1,0,1,1,1,",
  "0,2,1,1,0,1,2,1,1,1,0,1,1,3,0,1,1,1,0,1,1,1,0,1,1,1,0,1,1,1,0,1,1,1,0,1,1,1,0,1,1,1,0,1,1,1,",
  "0,1,1,1,0,1,1,1,0,1,1,1,0,1,1,1,0,1,1,1,0,1,1,1,0,1,1,1,0,1,1,1,0,1,1,1,0,1,1,1,0,1,1,1,0,1,",
  "1,1,0,1,1,1,0,1,1,1,0,1,1,1,0,1,1,1,0,1,1,1,0,1,1,1,0,1,1,1,0,1,1,1,0,1,1,1,0,7,1,2,0,1,1,2,",
  "0,2,1,1,0,1,1,4,0,1,1,1,0,1,1,1,0,1,1,1,0,1,1,1,0,45,1,2,4,1A,1,12,3,4,14,C,3,E,14,5,3,7,14,",
  "1,3,1,14,1,3,11,14,70,5,1,0,1,1,1,0,1,1,1,3,1,14,1,0,1,1,2,1D,1,3,3,1,1,11,1,0,4,1D,2,14,1,0,",
  "1,11,3,0,1,1D,1,0,1,1D,2,0,1,1,11,0,1,1D,9,0,23,1,1,0,2,1,3,0,3,1,1,0,1,1,1,0,1,1,1,0,1,1,1,",
  "0,1,1,1,0,1,1,1,0,1,1,1,0,1,1,1,0,1,1,1,0,1,1,1,0,1,1,1,0,1,1,1,0,5,1,1,0,1,1,1,12,1,0,1,1,2,",
  "0,2,1,33,0,30,1,1,0,1,1,1,0,1,1,1,0,1,1,1,0,1,1,1,0,1,1,1,0,1,1,1,0,1,1,1,0,1,1,1,0,1,1,1,0,",
  "1,1,1,0,1,1,1,0,1,1,1,0,1,1,1,0,1,1,1,0,1,1,1,0,1,1,1,0,1,1,1,15,5,5,2,7,1,0,1,1,1,0,1,1,1,0,",
  "1,1,1,0,1,1,1,0,1,1,1,0,1,1,1,0,1,1,1,0,1,1,1,0,1,1,1,0,1,1,1,0,1,1,1,0,1,1,1,0,1,1,1,0,1,1,",
  "1,0,1,1,1,0,1,1,1,0,1,1,1,0,1,1,1,0,1,1,1,0,1,1,1,0,1,1,1,0,1,1,1,0,1,1,1,0,1,1,1,0,1,1,1,0,",
  "1,1,1,0,1,1,2,0,1,1,1,0,1,1,1,0,1,1,1,0,1,1,1,0,1,1,1,0,1,1,1,0,2,1,1,0,1,1,1,0,1,1,1,0,1,1,",
  "1,0,1,1,1,0,1,1,1,0,1,1,1,0,1,1,1,0,1,1,1,0,1,1,1,0,1,1,1,0,1,1,1,0,1,1,1,0,1,1,1,0,1,1,1,0,",
  "1,1,1,0,1,1,1,0,1,1,1,0,1,1,1,0,1,1,1,0,1,1,1,0,1,1,1,0,1,1,1,0,1,1,1,0,1,1,1,0,1,1,1,0,1,1,",
  "1,0,1,1,1,0,1,1,1,0,1,1,1,0,1,1,1,0,1,1,1,0,1,1,1,0,1,1,1,0,1,1,1,0,1,1,1,0,1,1,1,0,1,1,1,0,",
  "1,1,1,0,1,1,1,0,1,1,1,0,1,1,1,0,1,1,1,0,1,1,1,0,1,1,1,0,1,1,1,0,1,1,1,0,1,1,1,0,1,1,1,1D,26,",
  "0,2,1D,1,3,6,11,29,1,1,11,1,C,2,1D,2,15,1,13,1,1D,2D,5,1,C,1,5,1,11,2,5,1,11,2,5,1,11,1,5,8,",
  "1D,1B,4,4,1D,4,4,2,11,B,1D,6,1A,3,12,2,11,1,13,2,11,2,15,B,5,1,11,1,1A,3,11,20,4,1,3,A,4,15,",
  "5,A,8,4,11,2,4,1,5,63,4,1,11,1,4,7,5,1,1A,1,15,6,5,2,3,2,5,1,15,4,5,2,4,A,8,3,4,2,15,1,4,E,",
  "11,1,1D,1,1A,1,4,1,5,1E,4,1B,5,2,1D,59,4,B,5,1,4,E,1D,A,8,21,4,9,5,2,3,1,15,3,11,1,3,2,1D,1,",
  "5,2,13,16,4,4,5,1,3,9,5,1,3,3,5,1,3,5,5,2,1D,F,11,1,1D,19,4,3,5,2,1D,1,11,1,1D,B,4,5,1D,18,4,",
  "1,14,6,4,1,1D,2,1A,5,1D,9,5,29,4,1,3,18,5,1,1A,20,5,1,6,36,4,1,5,1,6,1,5,1,4,3,6,8,5,4,6,1,5,",
  "2,6,1,4,7,5,A,4,2,5,2,11,A,8,1,11,1,3,F,4,1,5,2,6,1,1D,8,4,2,1D,2,4,2,1D,16,4,1,1D,7,4,1,1D,",
  "1,4,3,1D,4,4,2,1D,1,5,1,4,3,6,4,5,2,1D,2,6,2,1D,2,6,1,5,1,4,8,1D,1,6,4,1D,2,4,1,1D,3,4,2,5,2,",
  "1D,A,8,2,4,2,13,6,A,1,15,1,13,1,4,1,11,1,5,2,1D,2,5,1,6,1,1D,6,4,4,1D,2,4,2,1D,16,4,1,1D,7,4,",
  "1,1D,2,4,1,1D,2,4,1,1D,2,4,2,1D,1,5,1,1D,3,6,2,5,4,1D,2,5,2,1D,3,5,3,1D,1,5,7,1D,4,4,1,1D,1,",
  "4,7,1D,A,8,2,5,3,4,1,5,1,11,A,1D,2,5,1,6,1,1D,9,4,1,1D,3,4,1,1D,16,4,1,1D,7,4,1,1D,2,4,1,1D,",
  "5,4,2,1D,1,5,1,4,3,6,5,5,1,1D,2,5,1,6,1,1D,2,6,1,5,2,1D,1,4,F,1D,2,4,2,5,2,1D,A,8,1,11,1,13,",
  "7,1D,1,4,6,5,1,1D,1,5,2,6,1,1D,8,4,2,1D,2,4,2,1D,16,4,1,1D,7,4,1,1D,2,4,1,1D,5,4,2,1D,1,5,1,",
  "4,1,6,1,5,1,6,4,5,2,1D,2,6,2,1D,2,6,1,5,7,1D,2,5,1,6,4,1D,2,4,1,1D,3,4,2,5,2,1D,A,8,1,15,1,4,",
  "6,A,A,1D,1,5,1,4,1,1D,6,4,3,1D,3,4,1,1D,4,4,3,1D,2,4,1,1D,1,4,1,1D,2,4,3,1D,2,4,3,1D,3,4,3,",
  "1D,C,4,4,1D,2,6,1,5,2,6,3,1D,3,6,1,1D,3,6,1,5,2,1D,1,4,6,1D,1,6,E,1D,A,8,3,A,6,15,1,13,1,15,",
  "5,1D,1,5,3,6,1,5,8,4,1,1D,3,4,1,1D,17,4,1,1D,10,4,2,1D,1,5,1,4,3,5,4,6,1,1D,3,5,1,1D,4,5,7,",
  "1D,2,5,1,1D,3,4,2,1D,1,4,2,1D,2,4,2,5,2,1D,A,8,7,1D,1,11,7,A,1,15,1,4,1,5,2,6,1,11,8,4,1,1D,",
  "3,4,1,1D,17,4,1,1D,A,4,1,1D,5,4,2,1D,1,5,1,4,1,6,1,5,5,6,1,1D,1,5,2,6,1,1D,2,6,2,5,7,1D,2,6,",
  "6,1D,2,4,1,1D,2,4,2,5,2,1D,A,8,1,1D,2,4,1,6,C,1D,2,5,2,6,9,4,1,1D,3,4,1,1D,29,4,2,5,1,4,3,6,",
  "4,5,1,1D,3,6,1,1D,3,6,1,5,1,4,1,15,4,1D,3,4,1,6,7,A,3,4,2,5,2,1D,A,8,9,A,1,15,6,4,1,1D,1,5,2,",
  "6,1,1D,12,4,3,1D,18,4,1,1D,9,4,1,1D,1,4,2,1D,7,4,3,1D,1,5,4,1D,3,6,3,5,1,1D,1,5,1,1D,8,6,6,",
  "1D,A,8,2,1D,2,6,1,11,C,1D,30,4,1,5,2,4,7,5,4,1D,1,13,6,4,1,3,8,5,1,11,A,8,2,11,25,1D,2,4,1,",
  "1D,1,4,1,1D,5,4,1,1D,18,4,1,1D,1,4,1,1D,A,4,1,5,2,4,9,5,1,4,2,1D,5,4,1,1D,1,3,1,1D,7,5,1,1D,",
  "A,8,2,1D,4,4,20,1D,1,4,3,15,F,11,1,15,1,11,3,15,2,5,6,15,A,8,A,A,1,15,1,5,1,15,1,5,1,15,1,5,",
  "1,D,1,E,1,D,1,E,2,6,8,4,1,1D,24,4,4,1D,E,5,1,6,5,5,1,11,2,5,5,4,B,5,1,1D,24,5,1,1D,8,15,1,5,",
  "6,15,1,1D,2,15,5,11,4,15,2,11,25,1D,2B,4,2,6,4,5,1,6,6,5,1,6,2,5,2,6,2,5,1,4,A,8,6,11,6,4,2,",
  "6,2,5,4,4,3,5,1,4,3,6,2,4,7,6,3,4,4,5,D,4,1,5,2,6,2,5,6,6,1,5,1,4,1,6,A,8,3,6,1,5,2,15,26,0,",
  "1,1D,1,0,5,1D,1,0,2,1D,2B,1,1,11,1,3,3,1,149,4,1,1D,4,4,2,1D,7,4,1,1D,1,4,1,1D,4,4,2,1D,29,4,",
  "1,1D,4,4,2,1D,21,4,1,1D,4,4,2,1D,7,4,1,1D,1,4,1,1D,4,4,2,1D,F,4,1,1D,39,4,1,1D,4,4,2,1D,43,4,",
  "2,1D,3,5,9,11,14,A,3,1D,10,4,A,15,6,1D,56,0,2,1D,6,1,2,1D,1,C,26C,4,1,15,1,11,11,4,1,16,1A,4,",
  "1,D,1,E,3,1D,4B,4,3,11,3,9,8,4,7,1D,12,4,3,5,1,6,9,1D,13,4,2,5,1,6,2,11,9,1D,12,4,2,5,C,1D,D,",
  "4,1,1D,3,4,1,1D,2,5,C,1D,34,4,2,5,1,6,7,5,8,6,1,5,2,6,B,5,3,11,1,3,3,11,1,13,1,4,1,5,2,1D,A,",
  "8,6,1D,A,A,6,1D,6,11,1,C,4,11,3,5,1,1A,1,5,A,8,6,1D,23,4,1,3,35,4,7,1D,5,4,2,5,22,4,1,5,1,4,",
  "5,1D,46,4,A,1D,1F,4,1,1D,3,5,4,6,2,5,3,6,4,1D,2,6,1,5,6,6,3,5,4,1D,1,15,3,1D,2,11,A,8,1E,4,2,",
  "1D,5,4,B,1D,2C,4,4,1D,1A,4,6,1D,A,8,1,A,3,1D,22,15,17,4,2,5,2,6,1,5,2,1D,2,11,35,4,1,6,1,5,1,",
  "6,7,5,1,1D,1,5,1,6,1,5,2,6,8,5,6,6,A,5,2,1D,1,5,A,8,6,1D,A,8,6,1D,7,11,1,3,6,11,2,1D,E,5,1,7,",
  "10,5,31,1D,4,5,1,6,2F,4,1,5,1,6,5,5,1,6,1,5,5,6,1,5,2,6,8,4,1,1D,2,11,A,8,7,11,A,15,9,5,9,15,",
  "3,11,2,5,1,6,1E,4,1,6,4,5,2,6,2,5,1,6,3,5,2,4,A,8,2C,4,1,5,1,6,2,5,3,6,1,5,1,6,3,5,2,6,8,1D,",
  "4,11,24,4,8,6,8,5,2,6,2,5,3,1D,5,11,A,8,3,1D,3,4,A,8,1E,4,6,3,2,11,9,1,1,0,1,1,5,1D,2B,0,2,",
  "1D,3,0,8,11,8,1D,3,5,1,11,D,5,1,6,7,5,4,4,1,5,6,4,1,5,2,4,1,6,2,5,1,4,5,1D,2C,1,3F,3,D,1,1,3,",
  "22,1,25,3,40,5,1,0,1,1,1,0,1,1,1,0,1,1,1,0,1,1,1,0,1,1,1,0,1,1,1,0,1,1,1,0,1,1,1,0,1,1,1,0,1,",
  "1,1,0,1,1,1,0,1,1,1,0,1,1,1,0,1,1,1,0,1,1,1,0,1,1,1,0,1,1,1,0,1,1,1,0,1,1,1,0,1,1,1,0,1,1,1,",
  "0,1,1,1,0,1,1,1,0,1,1,1,0,1,1,1,0,1,1,1,0,1,1,1,0,1,1,1,0,1,1,1,0,1,1,1,0,1,1,1,0,1,1,1,0,1,",
  "1,1,0,1,1,1,0,1,1,1,0,1,1,1,0,1,1,1,0,1,1,1,0,1,1,1,0,1,1,1,0,1,1,1,0,1,1,1,0,1,1,1,0,1,1,1,",
  "0,1,1,1,0,1,1,1,0,1,1,1,0,1,1,1,0,1,1,1,0,1,1,1,0,1,1,1,0,1,1,1,0,1,1,1,0,1,1,1,0,1,1,1,0,1,",
  "1,1,0,1,1,1,0,1,1,1,0,1,1,1,0,1,1,1,0,1,1,1,0,1,1,1,0,1,1,1,0,1,1,1,0,1,1,1,0,1,1,1,0,1,1,1,",
  "0,1,1,1,0,1,1,1,0,1,1,1,0,1,1,1,0,1,1,1,0,1,1,1,0,1,1,1,0,9,1,1,0,1,1,1,0,1,1,1,0,1,1,1,0,1,",
  "1,1,0,1,1,1,0,1,1,1,0,1,1,1,0,1,1,1,0,1,1,1,0,1,1,1,0,1,1,1,0,1,1,1,0,1,1,1,0,1,1,1,0,1,1,1,",
  "0,1,1,1,0,1,1,1,0,1,1,1,0,1,1,1,0,1,1,1,0,1,1,1,0,1,1,1,0,1,1,1,0,1,1,1,0,1,1,1,0,1,1,1,0,1,",
  "1,1,0,1,1,1,0,1,1,1,0,1,1,1,0,1,1,1,0,1,1,1,0,1,1,1,0,1,1,1,0,1,1,1,0,1,1,1,0,1,1,1,0,1,1,1,",
  "0,1,1,1,0,1,1,1,0,1,1,1,0,1,1,1,0,1,1,1,0,1,1,1,0,1,1,1,0,1,1,1,0,1,1,1,0,1,1,1,0,9,1,8,0,6,",
  "1,2,1D,6,0,2,1D,8,1,8,0,8,1,8,0,6,1,2,1D,6,0,2,1D,8,1,1,1D,1,0,1,1D,1,0,1,1D,1,0,1,1D,1,0,8,",
  "1,8,0,E,1,2,1D,8,1,8,2,8,1,8,2,8,1,8,2,5,1,1,1D,2,1,4,0,1,2,1,14,1,1,3,14,3,1,1,1D,2,1,4,0,1,",
  "2,3,14,4,1,2,1D,2,1,4,0,1,1D,3,14,8,1,5,0,3,14,2,1D,3,1,1,1D,2,1,4,0,1,2,2,14,1,1D,B,16,5,1A,",
  "6,C,2,11,1,F,1,10,1,D,2,F,1,10,1,D,1,F,8,11,1,17,1,18,5,1A,1,16,9,11,1,F,1,10,4,11,2,B,3,11,",
  "1,12,1,D,1,E,B,11,1,12,1,11,1,B,A,11,1,16,5,1A,1,1D,A,1A,1,A,1,3,2,1D,6,A,3,12,1,D,1,E,1,3,A,",
  "A,3,12,1,D,1,E,1,1D,D,3,3,1D,21,13,F,1D,D,5,4,7,1,5,3,7,C,5,F,1D,2,15,1,0,4,15,1,0,2,15,1,1,",
  "3,0,2,1,3,0,1,1,1,15,1,0,2,15,1,12,5,0,6,15,1,0,1,15,1,0,1,15,1,0,1,15,4,0,1,15,1,1,4,0,1,1,",
  "4,4,1,1,2,15,2,1,2,0,5,12,1,0,4,1,1,15,1,12,2,15,1,1,1,15,10,A,23,9,1,0,1,1,4,9,1,A,2,15,4,",
  "1D,5,12,5,15,2,12,4,15,1,12,2,15,1,12,2,15,1,12,7,15,1,12,1F,15,2,12,2,15,1,12,1,15,1,12,1F,",
  "15,10C,12,8,15,1,D,1,E,1,D,1,E,14,15,2,12,7,15,1,D,1,E,51,15,1,12,1E,15,19,12,28,15,6,12,48,",
  "15,16,1D,B,15,15,1D,3C,A,4E,15,16,A,B7,15,1,12,9,15,1,12,36,15,8,12,6F,15,1,12,F8,15,1,D,1,E,",
  "1,D,1,E,1,D,1,E,1,D,1,E,1,D,1,E,1,D,1,E,1,D,1,E,1E,A,2C,15,5,12,1,D,1,E,1F,12,1,D,1,E,1,D,1,",
  "E,1,D,1,E,1,D,1,E,1,D,1,E,10,12,100,15,83,12,1,D,1,E,1,D,1,E,1,D,1,E,1,D,1,E,1,D,1,E,1,D,1,E,",
  "1,D,1,E,1,D,1,E,1,D,1,E,1,D,1,E,1,D,1,E,3F,12,1,D,1,E,1,D,1,E,20,12,1,D,1,E,102,12,30,15,15,",
  "12,2,15,6,12,27,15,2,1D,20,15,1,1D,69,15,30,0,30,1,1,0,1,1,3,0,2,1,1,0,1,1,1,0,1,1,1,0,1,1,4,",
  "0,1,1,1,0,2,1,1,0,6,1,2,3,3,0,1,1,1,0,1,1,1,0,1,1,1,0,1,1,1,0,1,1,1,0,1,1,1,0,1,1,1,0,1,1,1,",
  "0,1,1,1,0,1,1,1,0,1,1,1,0,1,1,1,0,1,1,1,0,1,1,1,0,1,1,1,0,1,1,1,0,1,1,1,0,1,1,1,0,1,1,1,0,1,",
  "1,1,0,1,1,1,0,1,1,1,0,1,1,1,0,1,1,1,0,1,1,1,0,1,1,1,0,1,1,1,0,1,1,1,0,1,1,1,0,1,1,1,0,1,1,1,",
  "0,1,1,1,0,1,1,1,0,1,1,1,0,1,1,1,0,1,1,1,0,1,1,1,0,1,1,1,0,1,1,1,0,1,1,1,0,1,1,1,0,1,1,1,0,1,",
  "1,1,0,1,1,1,0,1,1,1,0,1,1,1,0,1,1,1,0,1,1,1,0,1,1,1,0,2,1,6,15,1,0,1,1,1,0,1,1,3,5,1,0,1,1,5,",
  "1D,4,11,1,A,2,11,26,1,1,1D,1,1,5,1D,1,1,2,1D,38,4,7,1D,1,3,1,11,E,1D,1,5,17,4,9,1D,7,4,1,1D,",
  "7,4,1,1D,7,4,1,1D,7,4,1,1D,7,4,1,1D,7,4,1,1D,7,4,1,1D,7,4,1,1D,20,5,2,11,1,F,1,10,1,F,1,10,3,",
  "11,1,F,1,10,1,11,1,F,1,10,9,11,1,C,2,11,1,C,1,11,1,F,1,10,2,11,1,F,1,10,1,D,1,E,1,D,1,E,1,D,",
  "1,E,1,D,1,E,5,11,1,3,A,11,2,C,4,11,1,C,1,11,1,D,D,11,2,15,3,11,1,D,1,E,1,D,1,E,1,D,1,E,1,D,1,",
  "E,1,C,22,1D,1A,15,1,1D,59,15,C,1D,D6,15,1A,1D,10,15,1,16,3,11,1,15,1,3,1,4,1,9,1,D,1,E,1,D,1,",
  "E,1,D,1,E,1,D,1,E,1,D,1,E,2,15,1,D,1,E,1,D,1,E,1,D,1,E,1,D,1,E,1,C,1,D,2,E,1,15,9,9,4,5,2,6,",
  "1,C,5,3,2,15,3,9,1,3,1,4,1,11,2,15,1,1D,56,4,2,1D,2,5,2,14,2,3,1,4,1,C,5A,4,1,11,3,3,1,4,5,",
  "1D,2B,4,1,1D,5E,4,1,1D,2,15,4,A,A,15,20,4,26,15,9,1D,1,15,10,4,1F,15,1,1D,A,A,1E,15,8,A,1,15,",
  "F,A,20,15,A,A,27,15,F,A,140,15,19C0,4,40,15,5215,4,1,3,477,4,3,1D,37,15,9,1D,28,4,6,3,2,11,",
  "10C,4,1,3,3,11,10,4,A,8,2,4,14,1D,1,0,1,1,1,0,1,1,1,0,1,1,1,0,1,1,1,0,1,1,1,0,1,1,1,0,1,1,1,",
  "0,1,1,1,0,1,1,1,0,1,1,1,0,1,1,1,0,1,1,1,0,1,1,1,0,1,1,1,0,1,1,1,0,1,1,1,0,1,1,1,0,1,1,1,0,1,",
  "1,1,0,1,1,1,0,1,1,1,0,1,1,1,0,1,1,1,4,1,5,3,7,1,11,A,5,1,11,1,3,1,0,1,1,1,0,1,1,1,0,1,1,1,0,",
  "1,1,1,0,1,1,1,0,1,1,1,0,1,1,1,0,1,1,1,0,1,1,1,0,1,1,1,0,1,1,1,0,1,1,1,0,1,1,1,0,1,1,2,3,2,5,",
  "46,4,A,9,2,5,6,11,8,1D,17,14,9,3,2,14,1,0,1,1,1,0,1,1,1,0,1,1,1,0,1,1,1,0,1,1,1,0,1,1,1,0,3,",
  "1,1,0,1,1,1,0,1,1,1,0,1,1,1,0,1,1,1,0,1,1,1,0,1,1,1,0,1,1,1,0,1,1,1,0,1,1,1,0,1,1,1,0,1,1,1,",
  "0,1,1,1,0,1,1,1,0,1,1,1,0,1,1,1,0,1,1,1,0,1,1,1,0,1,1,1,0,1,1,1,0,1,1,1,0,1,1,1,0,1,1,1,0,1,",
  "1,1,0,1,1,1,0,1,1,1,0,1,1,1,0,1,1,1,0,1,1,1,0,1,1,1,0,1,1,1,0,1,1,1,3,8,1,1,0,1,1,1,0,1,1,2,",
  "0,1,1,1,0,1,1,1,0,1,1,1,0,1,1,1,0,1,1,1,3,2,14,1,0,1,1,1,0,1,1,1,4,1,0,1,1,1,0,3,1,1,0,1,1,1,",
  "0,1,1,1,0,1,1,1,0,1,1,1,0,1,1,1,0,1,1,1,0,1,1,1,0,1,1,1,0,1,1,1,0,1,1,5,0,1,1,5,0,1,1,1,0,1,",
  "1,1,0,1,1,1,0,1,1,1,0,1,1,1,0,1,1,1,0,1,1,1,0,1,1,4,0,1,1,1,0,1,1,2,0,1,1,2,1D,1,0,1,1,1,1D,",
  "1,1,1,1D,1,1,1,0,1,1,1,0,1,1,1,0,1,1,1,0,15,1D,3,3,1,0,1,1,1,4,2,3,1,1,7,4,1,5,3,4,1,5,4,4,1,",
  "5,17,4,2,6,2,5,1,6,4,15,1,5,3,1D,6,A,2,15,1,13,1,15,6,1D,34,4,4,11,8,1D,2,6,32,4,10,6,2,5,8,",
  "1D,2,11,A,8,6,1D,12,5,6,4,3,11,1,4,1,11,2,4,1,5,A,8,1C,4,8,5,2,11,17,4,B,5,2,6,B,1D,1,11,1D,",
  "4,3,1D,3,5,1,6,2F,4,1,5,2,6,4,5,2,6,2,5,3,6,D,11,1,1D,1,3,A,8,4,1D,2,11,5,4,1,5,1,3,9,4,A,8,",
  "5,4,1,1D,29,4,6,5,2,6,2,5,2,6,2,5,9,1D,3,4,1,5,8,4,1,5,1,6,2,1D,A,8,2,1D,4,11,10,4,1,3,6,4,3,",
  "15,1,4,1,6,1,5,1,6,32,4,1,5,1,4,3,5,2,4,2,5,5,4,2,5,1,4,1,5,1,4,18,1D,2,4,1,3,2,11,B,4,1,6,2,",
  "5,2,6,2,11,1,4,2,3,1,6,1,5,A,1D,6,4,2,1D,6,4,2,1D,6,4,9,1D,7,4,1,1D,7,4,1,1D,2B,1,1,14,4,3,9,",
  "1,1,3,2,14,4,1D,50,1,23,4,2,6,1,5,2,6,1,5,2,6,1,11,1,6,1,5,2,1D,A,8,6,1D,2BA4,4,C,1D,17,4,4,",
  "1D,31,4,4,1D,800,1B,1900,1C,16E,4,2,1D,6A,4,26,1D,7,1,C,1D,5,1,5,1D,1,4,1,5,A,4,1,12,D,4,1,",
  "1D,5,4,1,1D,1,4,1,1D,2,4,1,1D,2,4,1,1D,6C,4,11,14,10,1D,16B,4,1,E,1,D,10,15,40,4,2,1D,36,4,7,",
  "1D,1,15,20,1D,C,4,1,13,3,15,10,5,7,11,1,D,1,E,1,11,6,1D,10,5,1,11,2,C,2,B,1,D,1,E,1,D,1,E,1,",
  "D,1,E,1,D,1,E,1,D,1,E,1,D,1,E,1,D,1,E,1,D,1,E,2,11,1,D,1,E,4,11,3,B,3,11,1,1D,4,11,1,C,1,D,1,",
  "E,1,D,1,E,1,D,1,E,3,11,1,12,1,C,3,12,1,1D,1,11,1,13,2,11,4,1D,5,4,1,1D,87,4,2,1D,1,1A,1,1D,3,",
  "11,1,13,3,11,1,D,1,E,1,11,1,12,1,11,1,C,2,11,A,8,2,11,3,12,2,11,1A,0,1,D,1,11,1,E,1,14,1,B,1,",
  "14,1A,1,1,D,1,12,1,E,1,12,1,D,1,E,1,11,1,D,1,E,2,11,A,4,1,3,2D,4,2,3,1F,4,3,1D,6,4,2,1D,6,4,",
  "2,1D,6,4,2,1D,3,4,3,1D,2,13,1,12,1,14,1,15,2,13,1,1D,1,15,4,12,2,15,A,1D,3,1A,2,15,2,1D,C,4,",
  "1,1D,1A,4,1,1D,13,4,1,1D,2,4,1,1D,F,4,2,1D,E,4,22,1D,7B,4,5,1D,3,11,4,1D,2D,A,3,1D,9,15,35,9,",
  "4,A,11,15,2,A,3,15,1,1D,D,15,3,1D,1,15,2F,1D,2D,15,1,5,82,1D,1D,4,3,1D,31,4,F,1D,1,5,1B,A,4,",
  "1D,20,4,4,A,9,1D,14,4,1,9,8,4,1,9,5,1D,26,4,5,5,5,1D,1E,4,1,1D,1,11,24,4,4,1D,8,4,1,11,5,9,",
  "2A,1D,28,0,28,1,4E,4,2,1D,A,8,6,1D,24,0,4,1D,24,1,4,1D,28,4,8,1D,34,4,B,1D,1,11,B,0,1,1D,F,0,",
  "1,1D,7,0,1,1D,2,0,1,1D,B,1,1,1D,F,1,1,1D,7,1,1,1D,2,1,3,1D,34,4,C,1D,137,4,9,1D,16,4,A,1D,8,",
  "4,18,1D,6,3,1,1D,2A,3,1,1D,9,3,45,1D,6,4,2,1D,1,4,1,1D,2C,4,1,1D,2,4,3,1D,1,4,2,1D,17,4,1,1D,",
  "1,11,8,A,17,4,2,15,7,A,1F,4,8,1D,9,A,30,1D,13,4,1,1D,2,4,5,1D,5,A,16,4,6,A,3,1D,1,11,1A,4,5,",
  "1D,1,11,40,1D,38,4,4,1D,2,A,2,4,10,A,2,1D,2E,A,1,4,3,5,1,1D,2,5,5,1D,4,5,4,4,1,1D,3,4,1,1D,",
  "1D,4,2,1D,3,5,4,1D,1,5,9,A,7,1D,9,11,7,1D,1D,4,2,A,1,11,1D,4,3,A,20,1D,8,4,1,15,1C,4,2,5,4,",
  "1D,5,A,7,11,9,1D,36,4,3,1D,7,11,16,4,2,1D,8,A,13,4,5,1D,8,A,12,4,7,1D,4,11,C,1D,7,A,50,1D,49,",
  "4,37,1D,33,0,D,1D,33,1,7,1D,6,A,24,4,4,5,8,1D,A,8,6,1D,A,8,4,4,1,3,1,4,16,0,3,1D,5,5,1,C,1,3,",
  "16,1,8,1D,2,12,D0,1D,1F,A,1,1D,2A,4,1,1D,2,5,1,C,2,1D,2,4,10,1D,3,4,37,1D,4,5,1D,4,A,A,1,4,8,",
  "1D,16,4,B,5,4,A,5,11,16,1D,12,4,4,5,4,11,26,1D,15,4,7,A,14,1D,17,4,9,1D,1,6,1,5,1,6,35,4,F,5,",
  "7,11,4,1D,14,A,A,8,1,5,2,4,2,5,1,4,9,1D,3,5,1,6,2D,4,3,6,4,5,2,6,2,5,2,11,1,1A,4,11,1,5,A,1D,",
  "1,1A,2,1D,19,4,7,1D,A,8,6,1D,3,5,24,4,5,5,1,6,8,5,1,1D,A,8,4,11,1,4,2,6,1,4,8,1D,23,4,1,5,2,",
  "11,1,4,9,1D,2,5,1,6,30,4,3,6,9,5,2,6,4,4,4,11,4,5,1,11,1,6,1,5,A,8,1,4,1,11,1,4,3,11,1,1D,14,",
  "A,B,1D,12,4,1,1D,19,4,3,6,3,5,2,6,1,5,1,6,2,5,6,11,1,5,2,4,1,5,3E,1D,7,4,1,1D,1,4,1,1D,4,4,1,",
  "1D,F,4,1,1D,A,4,1,11,6,1D,2F,4,1,5,3,6,8,5,5,1D,A,8,6,1D,2,5,2,6,1,1D,8,4,2,1D,2,4,2,1D,16,4,",
  "1,1D,7,4,1,1D,2,4,1,1D,5,4,1,1D,2,5,1,4,2,6,1,5,4,6,2,1D,2,6,2,1D,3,6,2,1D,1,4,6,1D,1,6,5,1D,",
  "5,4,2,6,2,1D,7,5,3,1D,5,5,B,1D,A,4,1,1D,1,4,2,1D,1,4,1,1D,26,4,1,1D,1,4,3,6,6,5,1,1D,1,6,2,",
  "1D,1,6,1,1D,4,6,1,1D,2,6,1,5,1,6,1,5,1,4,1,5,1,4,2,11,1,1D,2,11,8,1D,2,5,1D,1D,35,4,3,6,8,5,",
  "2,6,3,5,1,6,1,5,4,4,5,11,A,8,2,11,1,1D,1,11,1,5,3,4,1E,1D,30,4,3,6,6,5,1,6,1,5,4,6,2,5,1,6,2,",
  "5,2,4,1,11,1,4,8,1D,A,8,A6,1D,2F,4,3,6,4,5,2,1D,4,6,2,5,1,6,2,5,17,11,4,4,2,5,22,1D,30,4,3,6,",
  "8,5,2,6,1,5,1,6,2,5,3,11,1,4,B,1D,A,8,6,1D,D,11,13,1D,2B,4,1,5,1,6,1,5,2,6,6,5,1,6,1,5,1,4,1,",
  "11,6,1D,A,8,6,1D,14,8,1C,1D,1B,4,2,1D,1,5,1,6,1,5,2,6,4,5,1,6,5,5,4,1D,A,8,2,A,3,11,1,15,7,4,",
  "B9,1D,2C,4,3,6,9,5,1,6,2,5,1,11,64,1D,20,0,20,1,A,8,9,A,C,1D,8,4,2,1D,1,4,2,1D,8,4,1,1D,2,4,",
  "1,1D,18,4,6,6,1,1D,2,6,2,1D,2,5,1,6,1,5,1,4,1,6,1,4,1,6,1,5,3,11,9,1D,A,8,46,1D,8,4,2,1D,27,",
  "4,3,6,4,5,2,1D,2,5,4,6,1,5,1,4,1,11,1,4,1,6,1B,1D,1,4,A,5,28,4,6,5,1,6,1,4,4,5,8,11,1,5,8,1D,",
  "1,4,6,5,2,6,3,5,2E,4,D,5,1,6,2,5,3,11,1,4,5,11,D,1D,49,4,7,1D,A,11,B6,1D,21,4,1,11,E,1D,A,8,",
  "6,1D,9,4,1,1D,25,4,1,6,7,5,1,1D,6,5,1,6,1,5,1,4,5,11,A,1D,A,8,13,A,3,1D,2,11,1E,4,2,1D,16,5,",
  "1,1D,1,6,7,5,1,6,2,5,1,6,2,5,49,1D,7,4,1,1D,2,4,1,1D,26,4,6,5,3,1D,1,5,1,1D,2,5,1,1D,7,5,1,4,",
  "1,5,8,1D,A,8,6,1D,6,4,1,1D,2,4,1,1D,20,4,5,6,1,1D,2,5,1,1D,2,6,1,5,1,6,1,5,1,4,7,1D,A,8,136,",
  "1D,13,4,2,5,2,6,2,11,7,1D,2,5,1,4,1,6,D,4,1,1D,22,4,2,6,5,5,3,1D,2,6,1,5,1,6,1,5,D,11,A,8,1,",
  "5,55,1D,1,4,F,1D,15,A,8,15,4,13,11,15,D,1D,1,11,39A,4,66,1D,6F,9,1,1D,5,11,B,1D,C4,4,A4C,1D,",
  "61,4,2,11,D,1D,430,4,10,1A,1,5,6,4,F,5,A,1D,F9B,4,5,1D,247,4,1AB9,1D,1E,4,C,5,3,6,3,5,A,8,",
  "6C6,1D,239,4,7,1D,1F,4,1,1D,A,8,4,1D,2,11,4F,4,1,1D,A,8,6,1D,1E,4,2,1D,5,5,1,11,A,1D,30,4,7,",
  "5,5,11,4,15,4,3,1,11,1,15,A,1D,A,8,1,1D,7,A,1,1D,15,4,5,1D,13,4,1B0,1D,3,3,28,4,2,3,3,11,A,8,",
  "C6,1D,20,0,20,1,17,A,4,11,65,1D,4B,4,4,1D,1,5,1,4,37,6,7,1D,4,5,D,3,40,1D,2,3,1,11,1,3,1,5,B,",
  "1D,2,6,E,1D,17F8,4,8,1D,4D6,4,29,1D,A,4,22E7,1D,4,3,1,1D,7,3,1,1D,2,3,1,1D,123,4,F,1D,1,4,1D,",
  "1D,3,4,2,1D,1,4,E,1D,4,4,8,1D,18C,4,904,1D,6B,4,5,1D,D,4,3,1D,9,4,7,1D,A,4,2,1D,1,15,2,5,1,",
  "11,4,1A,F5C,1D,F0,15,A,8,6,1D,1B4,15,4C,1D,2E,5,2,1D,17,5,9,1D,74,15,3C,1D,F6,15,A,1D,27,15,",
  "2,1D,3C,15,2,6,3,5,3,15,6,6,8,1A,8,5,2,15,7,5,1E,15,4,5,3D,15,15,1D,42,15,3,5,1,15,7A,1D,14,",
  "A,C,1D,14,A,C,1D,57,15,9,1D,19,A,87,1D,1A,0,1A,1,1A,0,7,1,1,1D,12,1,1A,0,1A,1,1,0,1,1D,2,0,2,",
  "1D,1,0,2,1D,2,0,2,1D,4,0,1,1D,8,0,4,1,1,1D,1,1,1,1D,7,1,1,1D,B,1,1A,0,1A,1,2,0,1,1D,4,0,2,1D,",
  "8,0,1,1D,7,0,1,1D,1A,1,2,0,1,1D,4,0,1,1D,5,0,1,1D,1,0,3,1D,7,0,1,1D,1A,1,1A,0,1A,1,1A,0,1A,1,",
  "1A,0,1A,1,1A,0,1A,1,1A,0,1A,1,1A,0,1C,1,2,1D,19,0,1,12,19,1,1,12,6,1,19,0,1,12,19,1,1,12,6,1,",
  "19,0,1,12,19,1,1,12,6,1,19,0,1,12,19,1,1,12,6,1,19,0,1,12,19,1,1,12,6,1,1,0,1,1,2,1D,32,8,",
  "200,15,37,5,4,15,32,5,8,15,1,5,E,15,1,5,2,15,5,11,F,1D,5,5,1,1D,F,5,450,1D,A,1,1,4,14,1,6,1D,",
  "6,1,D5,1D,7,5,1,1D,11,5,2,1D,7,5,1,1D,2,5,1,1D,5,5,5,1D,3E,3,21,1D,1,5,70,1D,2D,4,3,1D,7,5,7,",
  "3,2,1D,A,8,4,1D,1,4,1,15,140,1D,1E,4,1,5,11,1D,2C,4,4,5,A,8,5,1D,1,13,1D0,1D,1B,4,1,3,4,5,A,",
  "8,D6,1D,1E,4,2,5,1,4,A,8,4,1D,1,11,1E0,1D,7,4,1,1D,4,4,1,1D,2,4,1,1D,F,4,1,1D,C5,4,2,1D,9,A,",
  "7,5,29,1D,22,0,22,1,7,5,1,3,4,1D,A,8,4,1D,2,11,311,1D,3B,A,1,15,3,A,1,13,4,A,4C,1D,2D,A,1,15,",
  "F,A,C2,1D,4,4,1,1D,1B,4,1,1D,2,4,1,1D,1,4,2,1D,1,4,1,1D,A,4,1,1D,4,4,1,1D,1,4,1,1D,1,4,6,1D,",
  "1,4,4,1D,1,4,1,1D,1,4,1,1D,1,4,1,1D,3,4,1,1D,2,4,1,1D,1,4,2,1D,1,4,1,1D,1,4,1,1D,1,4,1,1D,1,",
  "4,1,1D,1,4,1,1D,2,4,1,1D,1,4,2,1D,4,4,1,1D,7,4,1,1D,4,4,1,1D,4,4,1,1D,1,4,1,1D,A,4,1,1D,11,4,",
  "5,1D,3,4,1,1D,5,4,1,1D,11,4,34,1D,2,12,10E,1D,2C,15,4,1D,64,15,C,1D,F,15,2,1D,F,15,1,1D,F,15,",
  "1,1D,25,15,A,1D,D,A,A1,15,38,1D,1D,15,D,1D,2C,15,4,1D,9,15,7,1D,2,15,E,1D,6,15,9A,1D,FB,15,5,",
  "14,2D8,15,4,1D,11,15,3,1D,D,15,3,1D,77,15,4,1D,5F,15,6,1D,C,15,4,1D,1,15,F,1D,C,15,4,1D,38,",
  "15,8,1D,A,15,6,1D,28,15,8,1D,1E,15,2,1D,C,15,4,1D,2,15,3E,1D,154,15,C,1D,E,15,2,1D,D,15,3,1D,",
  "A,15,5,1D,38,15,7,1D,F,15,2,1D,B,15,6,1D,9,15,7,1D,93,15,1,1D,5C,15,A,8,406,1D,A6E0,4,20,1D,",
  "103A,4,6,1D,DE,4,2,1D,1682,4,E,1D,1D31,4,F,1D,26E,4,9A2,1D,21E,4,5E2,1D,134B,4,5,1D,1060,4,",
  "ADC51,1D,1,1A,1E,1D,60,1A,80,1D,F0,5,FE10,1D,FFFE,1C,2,1D,FFFE,1C,2,1D"]

/-- The version that assigned every code point, as runs of positions in `ages` counted from one
(zero: unassigned). -/
def ageRunsText : String :=
  String.join [
  "1F6,1,4,4,1E,1,8,4,1,6,1,7,12,4,3,7,B,8,E,9,59,1,5,4,2,7,2F,1,1,4,A,1,5,4,11,7,46,1,9,4,1,6,",
  "8,7,5,8,3,7,2,1,1,4,D,6,4,A,2,1,2,A,2,0,1,1,3,9,1,1,1,10,4,0,7,1,1,0,1,1,1,0,14,1,1,0,2C,1,1,",
  "A,7,1,1,4,2,6,1,1,1,4,1,1,1,4,1,1,1,4,1,1,1,4,12,1,2,5,1,6,5,7,4,8,1,4,C,1,1,4,42,1,1,4,C,1,",
  "1,4,29,1,1,A,2,4,2,6,4,4,35,1,2,6,2,1,2,6,2,1,2,6,1,9,1C,1,2,4,8,1,2,8,2,1,6,9,10,6,4,9,10,A,",
  "2,B,2,C,8,10,1,0,26,1,2,0,7,1,1,14,27,1,1,14,1,1,1,4,2,0,2,10,1,D,1,0,11,2,1,8,D,2,A,1,1,9,9,",
  "1,1,2,3,8,8,0,1B,1,4,0,1,14,5,1,B,0,4,7,1,D,1,10,5,A,1,8,1,1,9,7,5,A,1,1,1,F,1,18,1,8,1,1,1,",
  "C,1A,1,5,A,13,1,3,4,3,7,6,8,1,C,E,1,2,6,48,1,2,4,5,1,1,4,F,1,1,4,1E,1,2,7,A,1,5,4,1,7,E,4,1,",
  "0,1E,4,3,7,1B,4,2,0,3,7,1E,8,12,A,31,4,1,6,E,0,3B,9,2,0,3,14,2E,B,2,0,F,B,1,0,1C,C,2,0,1,C,1,",
  "0,B,13,5,0,1F,18,1,0,2,18,5,0,1,1B,8,18,1,D,1,10,B,D,6,10,2,11,1,18,8,12,A,17,B,18,1,14,F,12,",
  "1,11,1B,D,1,10,1,B,3,1,1,7,35,1,2,C,12,1,1,B,1,C,5,1,1,B,2,C,19,1,2,A,5,C,1,10,2,B,2,9,1,8,2,",
  "9,1,10,3,1,1,0,8,1,2,0,2,1,2,0,16,1,1,0,7,1,1,0,1,1,3,0,4,1,2,0,1,1,1,7,7,1,2,0,2,1,2,0,3,1,",
  "1,8,8,0,1,1,4,0,2,1,1,0,5,1,2,0,15,1,1,B,2,13,1,14,2,0,1,7,1,1,1,7,1,0,6,1,4,0,2,1,2,0,16,1,",
  "1,0,7,1,1,0,2,1,1,0,2,1,1,0,2,1,2,0,1,1,1,0,5,1,4,0,2,1,2,0,3,1,3,0,1,A,7,0,4,1,1,0,1,1,7,0,",
  "F,1,1,A,1,14,A,0,3,1,1,0,7,1,1,7,1,1,1,0,3,1,1,0,16,1,1,0,7,1,1,0,2,1,1,0,5,1,2,0,A,1,1,0,3,",
  "1,1,0,3,1,2,0,1,1,F,0,1,1,3,7,2,0,A,1,1,D,1,7,7,0,1,11,6,13,1,0,3,1,1,0,8,1,2,0,2,1,2,0,16,1,",
  "1,0,7,1,1,0,2,1,1,0,1,7,4,1,2,0,8,1,1,A,2,0,2,1,2,0,3,1,7,0,1,17,2,1,4,0,2,1,1,0,3,1,2,A,2,0,",
  "B,1,1,7,6,C,A,0,2,1,1,0,6,1,3,0,3,1,1,0,4,1,3,0,2,1,1,0,1,1,1,0,2,1,3,0,2,1,3,0,3,1,3,0,8,1,",
  "1,8,3,1,4,0,5,1,3,0,3,1,1,0,4,1,2,0,1,A,6,0,1,1,E,0,1,8,C,1,8,7,5,0,1,10,3,1,1,14,8,1,1,0,3,",
  "1,1,0,17,1,1,0,A,1,1,10,5,1,2,0,1,18,1,A,7,1,1,0,3,1,1,0,4,1,7,0,2,1,1,0,2,A,1,11,2,0,1,18,2,",
  "0,2,1,2,A,2,0,A,1,7,0,1,15,8,A,1,12,1,10,2,1,1,14,8,1,1,0,3,1,1,0,17,1,1,0,A,1,1,0,5,1,2,0,2,",
  "7,7,1,1,0,3,1,1,0,4,1,7,0,2,1,6,0,1,18,1,1,1,0,2,1,2,9,2,0,A,1,1,0,2,9,1,19,C,0,1,13,1,10,2,",
  "1,1,17,8,1,1,0,3,1,1,0,17,1,1,C,10,1,1,C,2,13,1,A,6,1,1,A,1,0,3,1,1,0,4,1,1,C,1,12,4,0,3,12,",
  "1,1,7,12,1,11,2,1,2,A,2,0,A,1,6,A,3,12,7,A,1,0,1,17,2,4,1,0,12,4,3,0,18,4,1,0,9,4,1,0,1,4,2,",
  "0,7,4,3,0,1,4,4,0,6,4,1,0,1,4,1,0,8,4,6,0,A,10,2,0,3,4,C,0,3A,1,4,0,1D,1,25,0,2,1,1,0,1,1,1,",
  "0,1,15,2,1,1,15,1,1,1,0,1,15,1,1,6,15,4,1,1,15,7,1,1,15,3,1,1,0,1,1,1,0,1,1,2,15,2,1,1,15,D,",
  "1,1,15,3,1,2,0,5,1,1,0,1,1,1,0,6,1,1,19,1,0,A,1,2,0,2,1,2,D,20,0,48,2,1,0,21,2,1,4,2,A,4,0,",
  "1B,2,4,C,6,2,1,4,1,2,1,0,15,2,3,4,7,2,1,4,1,2,3,4,1,0,F,4,1,0,1,A,1,4,2,8,3,A,4,B,2,C,25,0,",
  "22,4,1,A,5,4,1,A,2,4,1,A,7,4,3,A,4,4,6,A,1A,4,40,A,4,B,2,A,26,1,1,0,1,D,5,0,1,D,2,0,27,1,2,6,",
  "2,8,1,1,1,8,3,D,5A,1,5,B,44,1,5,B,52,1,6,B,7,4,1,8,3F,4,1,8,1,4,1,0,4,4,2,0,7,4,1,0,1,4,1,0,",
  "4,4,2,0,27,4,1,8,1,4,1,0,4,4,2,0,1F,4,1,8,1,4,1,0,4,4,2,0,7,4,1,0,1,4,1,0,4,4,2,0,7,4,1,8,7,",
  "4,1,0,17,4,1,8,1F,4,1,8,1,4,1,0,4,4,2,0,7,4,1,8,27,4,1,8,13,4,2,0,2,C,2,8,1C,4,3,0,1A,8,6,0,",
  "55,4,1,11,2,0,6,11,2,0,1,B,276,4,9,B,1D,4,3,0,51,4,8,10,7,0,D,6,1,18,7,6,1,18,9,0,1,18,17,6,",
  "9,0,14,6,C,0,D,6,1,0,3,6,1,0,2,6,C,0,5D,4,1,7,2,0,A,4,6,0,A,7,6,0,F,4,1,18,A,4,6,0,58,4,1,14,",
  "7,0,2A,4,1,A,5,0,46,B,A,0,1D,7,2,10,1,0,C,7,4,0,C,7,4,0,1,7,3,0,2A,7,2,0,5,7,B,0,2A,8,2,B,4,",
  "0,1A,8,6,0,A,8,1,B,3,0,2,8,20,7,1C,8,2,0,2,8,3F,B,1,0,1D,B,2,0,B,B,6,0,A,B,6,0,E,B,2,0,F,10,",
  "2,17,E,18,31,0,4C,9,1,18,1,0,2,1B,2D,9,2,18,1,1B,2B,A,3,D,C,A,6,D,34,C,8,0,4,C,38,A,3,0,F,A,",
  "3,0,33,A,9,12,2,1B,5,0,2B,14,2,0,3,14,8,D,8,0,23,B,4,D,1,13,2,10,1,15,5,0,6C,7,58,8,7,9,1C,A,",
  "F,10,4,13,1,18,1,12,1,C,1,B,2,9,9B,1,1,2,4,A,5A,1,6,A,16,1,2,0,6,1,2,0,26,1,2,0,6,1,2,0,8,1,",
  "1,0,1,1,1,0,1,1,1,0,1,1,1,0,1F,1,2,0,35,1,1,0,F,1,1,0,E,1,2,0,6,1,1,0,13,1,2,0,3,1,1,0,9,1,1,",
  "0,2F,1,1,4,17,1,1,6,6,4,5,6,2,7,2,8,1,6,7,8,5,6,1,A,1,0,4,F,7,1,1,6,2,0,1B,1,1,0,5,8,8,C,3,0,",
  "B,1,1,2,1,3,3,4,2,6,4,8,3,B,1,C,1,E,3,10,1,11,1,13,1,18,F,0,12,1,2,4,7,6,1,8,4,9,1,A,F,0,39,",
  "1,2,4,1,7,1,8,F,6,1,8,2,9,1,A,3,B,30,1,1,4,1,9,4,A,1,B,2,11,4,0,5B,1,9,4,C,6,F2,1,E,6,1,1,1,",
  "4,79,1,1,4,1,6,1E,4,34,6,2,7,B,8,C,9,1,B,B,C,7,10,4,12,1,13,25,1,2,4,3,1B,16,0,B,1,15,0,8B,1,",
  "14,6,1,7,96,1,A,6,50,1,8,4,8,6,14,1,2,7,2,6,1,8,1,4,56,1,2,4,C,6,2,8,A,6,8,7,B,8,1,A,2,B,2,7,",
  "10,8,1,9,A,A,3,B,4,A,A,B,1,C,13,B,1,C,1,B,4,C,18,B,1,10,4,1,1,C,4,1,2,C,1C,1,1,C,23,1,1,C,1,",
  "1,1,C,4,1,3,C,1,1,1,B,7,1,2,C,7,1,E,6,1F,1,3,C,18,1,1,C,E,1,1,C,7,8,4,9,1,D,1,A,1,D,2,C,1C,6,",
  "4,A,10,6,100,4,200,6,E,7,6,8,7,9,5,A,4,9,29,A,3,10,5,A,5,B,1A,10,2,0,20,10,1,0,1,17,22,10,3,",
  "14,C,10,1,15,8,10,1,13,19,14,4,11,F,14,1,15,2F,8,1,18,2F,8,1,18,D,9,3,A,1,B,3,A,4,9,6,A,2,B,",
  "6B,8,7,B,2,D,5,0,2D,8,1,0,1,D,5,0,1,D,2,0,36,8,2,D,7,0,1,8,1,C,E,0,1,C,17,8,9,0,7,8,1,0,7,8,",
  "1,0,7,8,1,0,7,8,1,0,7,8,1,0,7,8,1,0,7,8,1,0,7,8,1,0,20,A,18,8,4,A,2,8,13,A,1,B,A,D,7,10,2,12,",
  "5,13,5,14,1,15,3,17,B,18,22,0,1A,4,1,0,59,4,C,0,D6,4,1A,0,C,4,4,1A,38,1,3,4,3,6,1,4,1,1,1,0,",
  "54,1,2,6,2,0,6,1,2,6,5E,1,1,6,5,0,28,1,1,A,1,13,1,14,1,0,5E,1,1,0,10,1,18,4,3,C,5,17,10,8,14,",
  "A,2,1B,9,0,1,1A,10,6,1D,1,2,7,1,0,24,1,C,B,1,7,F,6,1C,1,2,7,1,8,32,1,F,6,C,1,4,7,2F,1,1,16,",
  "77,1,4,7,63,1,2,7,1F,1,1,7,19B6,4,A,17,40,7,51A6,1,16,8,8,A,8,B,1,D,9,11,15,13,5,14,D,17,3,",
  "18,48D,4,3,0,12,4,2,6,10,4,1,6,C,4,1,6,3,4,1,6,1,4,9,0,30,B,12C,A,14,0,20,A,2,C,12,A,8,D,1C,",
  "A,6,10,1,11,1,D,58,B,8,0,17,8,4,9,5,A,2,9,6B,A,2,C,1,11,2,C,2,D,C,10,A,C,1,D,3,10,1,12,1,14,",
  "2,10,6,11,2,14,6,15,2,18,5,15,4,17,3,1B,2,0,2,18,1,0,1,18,1,0,5,18,3,1B,15,0,3,18,2,17,1,10,",
  "2,D,1,C,5,A,2C,8,1,17,3,0,A,B,6,0,38,9,8,0,45,A,1,12,8,0,C,A,6,0,1C,B,2,11,2,14,54,A,B,0,1,A,",
  "1D,B,3,0,4E,B,1,0,B,B,4,0,2,B,1F,10,1,0,37,A,9,0,E,A,2,0,A,A,2,0,4,A,1C,B,4,10,43,B,18,0,5,B,",
  "17,D,A,0,6,C,2,0,6,C,2,0,6,C,9,0,7,C,1,0,7,C,1,0,30,10,4,11,2,10,2,15,4,17,4,0,50,11,2E,B,2,",
  "0,A,B,6,0,2BA4,2,C,0,17,B,4,0,31,B,4,0,800,2,1A2E,1,2,D,3B,6,3,B,2,0,6A,8,26,0,7,1,C,0,5,1,5,",
  "0,1,4,19,1,1,0,5,1,1,0,1,1,1,0,2,1,1,0,2,1,1,0,6C,1,10,C,1,18,10,0,16D,1,10,18,40,1,2,0,36,1,",
  "7,0,1,18,20,5,C,1,1,6,1,7,2,18,10,6,A,8,6,0,4,1,3,A,7,10,2,11,15,1,2,6,2,7,A,1,1,0,13,1,1,0,",
  "4,1,4,0,3,1,1,6,1,1,1,0,87,1,2,0,1,1,1,0,5E,1,2,6,5E,1,3,0,6,1,2,0,6,1,2,0,6,1,2,0,3,1,3,0,7,",
  "1,1,0,7,1,A,0,3,4,1,3,3,1,C,7,1,0,1A,7,1,0,13,7,1,0,2,7,1,0,F,7,2,0,E,7,22,0,7B,7,5,0,3,7,4,",
  "0,2D,7,3,0,9,7,4B,8,2,10,2,12,1,0,C,A,1,17,3,0,1,10,2F,0,2E,A,82,0,1D,A,3,0,31,A,F,0,1C,10,4,",
  "0,1F,5,1,10,4,5,9,0,3,13,1B,5,5,0,2B,10,5,0,1E,7,1,0,1,7,24,8,4,0,E,8,2A,0,26,5,2,7,26,5,50,",
  "7,2,0,A,7,6,0,24,12,4,0,24,12,4,0,28,10,8,0,34,10,B,0,1,10,B,18,1,0,F,18,1,0,7,18,1,0,2,18,1,",
  "0,B,18,1,0,F,18,1,0,7,18,1,0,2,18,3,0,34,1B,C,0,137,10,9,0,16,10,A,0,8,10,18,0,6,18,1,0,2A,",
  "18,1,0,9,18,45,0,6,7,2,0,1,7,1,0,2C,7,1,0,2,7,3,0,1,7,2,0,1,7,16,B,1,0,9,B,3F,10,8,0,9,10,30,",
  "0,13,11,1,0,2,11,5,0,5,11,1A,9,2,B,3,0,1,9,1A,A,5,0,1,A,40,0,38,D,4,0,2,11,2,D,10,11,2,0,2E,",
  "11,4,8,1,0,2,8,5,0,8,8,1,0,3,8,1,0,1B,8,2,14,2,0,3,8,4,0,9,8,1,14,7,0,9,8,7,0,20,B,20,10,20,",
  "0,27,10,4,0,C,10,9,0,36,B,3,0,1D,B,2,0,1B,B,5,0,8,B,12,10,7,0,4,10,C,0,7,10,50,0,49,B,37,0,",
  "33,11,D,0,33,11,7,0,6,11,28,14,8,0,A,14,6,0,26,1B,3,0,1D,1B,8,0,2,1B,D0,0,1F,B,1,0,2A,17,1,0,",
  "3,17,2,0,2,17,10,0,3,1B,37,0,1,1B,3,19,28,14,8,0,2A,14,16,0,1A,18,26,0,1C,17,14,0,17,15,9,0,",
  "4E,C,4,0,1E,C,6,18,9,0,1,10,42,B,1,18,A,0,1,14,2,0,19,D,7,0,A,D,6,0,35,D,1,0,E,D,3,14,1,17,8,",
  "0,27,10,9,0,49,D,4,11,1,10,2,17,A,D,1,10,5,11,1,0,14,10,B,0,12,10,1,0,2B,10,1,12,3,19,3E,0,7,",
  "11,1,0,1,11,1,0,4,11,1,0,F,11,1,0,B,11,6,0,3B,10,5,0,A,10,6,0,1,11,3,10,1,0,8,10,2,0,2,10,2,",
  "0,16,10,1,0,7,10,1,0,2,10,1,0,5,10,1,0,1,14,9,10,2,0,2,10,2,0,3,10,2,0,1,11,6,0,1,10,5,0,7,",
  "10,2,0,7,10,3,0,5,10,B,0,A,1B,1,0,1,1B,2,0,1,1B,1,0,26,1B,1,0,A,1B,1,0,1,1B,2,0,1,1B,1,0,4,",
  "1B,1,0,A,1B,1,0,2,1B,8,0,2,1B,1D,0,5A,12,1,17,1,12,1,0,1,12,1,14,1,15,2,17,1E,0,48,10,8,0,A,",
  "10,A6,0,36,10,2,0,12,10,14,11,22,0,45,10,B,0,A,10,6,0,D,12,13,0,38,D,1,15,1,18,6,0,A,D,6,0,",
  "14,1B,1C,0,1A,11,1,14,2,0,F,11,4,0,10,11,7,18,B9,0,3C,14,64,0,53,10,C,0,1,10,7,17,2,0,1,17,2,",
  "0,8,17,1,0,2,17,1,0,1E,17,1,0,2,17,2,0,C,17,9,0,A,17,46,0,8,15,2,0,2E,15,2,0,B,15,1B,0,48,13,",
  "8,0,34,13,2,15,17,13,1,14,5,13,D,0,10,18,39,10,7,0,A,19,B6,0,22,1B,E,0,A,1B,6,0,9,12,1,0,2D,",
  "12,1,0,E,12,A,0,1D,12,3,0,20,12,2,0,16,12,1,0,E,12,49,0,7,13,1,0,2,13,1,0,2C,13,3,0,1,13,1,0,",
  "2,13,1,0,9,13,8,0,A,13,6,0,6,14,1,0,2,14,1,0,25,14,1,0,2,14,1,0,6,14,7,0,A,14,136,0,19,14,7,",
  "0,11,19,1,0,29,19,3,0,1C,19,1,1B,55,0,1,17,F,0,32,15,D,0,1,15,36F,9,2A,10,1,11,66,0,63,9,C,",
  "10,1,0,4,9,1,10,B,0,C4,11,A4C,0,63,18,D,0,42F,B,1,19,9,15,1D,19,A,0,F9B,1B,5,0,247,11,1AB9,0,",
  "3A,1B,6C6,0,239,C,7,0,1F,10,1,0,A,10,4,0,2,10,4F,18,1,0,A,18,6,0,1E,10,2,0,6,10,A,0,46,10,A,",
  "0,A,10,1,0,7,10,1,0,15,10,5,0,13,10,1B0,0,3A,1B,C6,0,5B,14,65,0,45,D,6,15,4,0,1,15,2F,D,9,15,",
  "7,0,11,D,40,0,1,12,1,13,2,15,1,17,B,0,2,17,E,0,17ED,12,5,14,6,15,8,0,2F3,12,1E3,17,29,0,1,1B,",
  "9,17,22E7,0,4,18,1,0,7,18,1,0,2,18,1,0,2,C,11D,13,4,18,F,0,1,19,1D,0,3,15,2,0,1,19,E,0,4,15,",
  "8,0,18C,13,904,0,6B,10,5,0,D,10,3,0,9,10,7,0,A,10,2,0,8,10,F5C,0,FA,1B,6,0,1B4,1B,4C,0,2E,18,",
  "2,0,17,18,9,0,74,18,3C,0,F6,5,A,0,27,5,2,0,1,A,B4,5,B,11,2,18,15,0,46,8,7A,0,14,19,C,0,14,14,",
  "C,0,57,7,9,0,12,9,7,14,87,0,55,5,1,0,47,5,1,0,2,5,2,0,1,5,2,0,2,5,2,0,4,5,1,0,C,5,1,0,1,5,1,",
  "0,4,5,1,7,2,5,1,0,41,5,1,0,4,5,2,0,8,5,1,0,7,5,1,0,1C,5,1,0,4,5,1,0,5,5,1,0,1,5,3,0,7,5,1,0,",
  "152,5,2,8,2,0,122,5,2,9,2,0,32,5,28C,11,F,0,5,11,1,0,F,11,450,0,1F,18,6,0,6,19,D5,0,7,12,1,0,",
  "11,12,2,0,7,12,1,0,2,12,1,0,5,12,5,0,3E,19,21,0,1,19,70,0,2D,15,3,0,E,15,2,0,A,15,4,0,2,15,",
  "140,0,1F,18,11,0,3A,15,5,0,1,15,1D0,0,2A,19,D6,0,2B,1B,4,0,1,1B,1E0,0,7,18,1,0,4,18,1,0,2,18,",
  "1,0,F,18,1,0,C5,10,2,0,10,10,29,0,4B,12,1,15,4,0,A,12,4,0,2,12,311,0,44,14,4C,0,3D,15,C2,0,4,",
  "D,1,0,1B,D,1,0,2,D,1,0,1,D,2,0,1,D,1,0,A,D,1,0,4,D,1,0,1,D,1,0,1,D,6,0,1,D,4,0,1,D,1,0,1,D,1,",
  "0,1,D,1,0,3,D,1,0,2,D,1,0,1,D,2,0,1,D,1,0,1,D,1,0,1,D,1,0,1,D,1,0,1,D,1,0,2,D,1,0,1,D,2,0,4,",
  "D,1,0,7,D,1,0,4,D,1,0,4,D,1,0,1,D,1,0,A,D,1,0,11,D,5,0,3,D,1,0,5,D,1,0,11,D,34,0,2,D,10E,0,",
  "2C,A,4,0,64,A,C,0,F,C,2,0,E,C,1,10,1,0,F,C,1,0,F,C,16,10,A,0,B,B,2,10,3,17,1F,B,1,14,1,C,1,B,",
  "B,C,1,B,1,C,1,B,2,C,1,B,3,C,1,B,3,C,5,B,8,C,1,B,7,C,1,B,A,C,2,D,1,15,3,17,9,C,1,B,1,C,2,B,2,",
  "C,1,B,A,C,4,B,2,C,1,B,A,C,12,12,1,17,38,0,1A,C,1,B,2,C,D,0,22,B,9,C,1,12,4,0,9,B,7,0,2,C,E,0,",
  "6,13,9A,0,21,C,C,10,3,11,6,C,1,10,46,C,1,10,2,11,14,C,C,10,25,C,1,10,5,C,4,10,5,11,C,10,11,C,",
  "7,10,8,11,3F,C,1,10,1,C,1,10,B6,C,1,10,4,C,2,10,1,11,3E,C,2,10,4,D,7,10,5,11,18,C,12,10,1,12,",
  "29,10,1,12,56,10,5,C,1,D,10,C,1,D,3,C,1,D,1,C,1,D,1,C,1,D,1,C,1,D,3,C,1,D,6,C,2,D,4,C,1,D,1,",
  "C,2,D,4,C,1,D,C,C,2,10,2,11,B,C,30,10,46,C,A,10,1,11,2,12,2,13,1,15,2,17,4,0,1,19,3,18,D,10,",
  "3,0,4,10,3,12,2,13,1,14,1,15,2,17,3,0,74,C,3,19,4,0,5,19,55,10,4,14,1,19,6,0,C,15,4,0,1,18,F,",
  "0,C,10,4,0,38,10,8,0,A,10,6,0,28,10,8,0,1E,10,2,0,2,17,A,1B,4,0,2,1B,3E,0,C,13,1,17,3,15,9,",
  "11,6,12,1,13,8,12,8,13,1,12,2,13,C,12,1,15,C,12,1,13,3,14,F,12,D,13,5,14,1,15,1,17,4,14,2,17,",
  "1,18,1,14,1,15,4,14,5,11,D,12,6,13,B,14,2,17,6,15,3,17,2,15,A,14,6,15,1,11,2,14,8,15,1,17,1,",
  "18,3,15,17,13,19,14,54,15,C,0,E,14,2,0,4,15,1,17,3,19,3,15,2,18,3,0,3,15,4,17,2,19,1,1B,5,0,",
  "1,1B,6,15,13,17,4,18,3,19,7,17,4,18,3,19,1,1B,1,19,3,17,3,18,1,1B,7,0,2,19,7,17,3,18,2,19,1,",
  "1B,2,0,1,1B,8,18,1,19,1,1B,6,0,7,18,2,19,7,0,93,17,1,0,37,17,25,1B,A,17,404,0,2,2,A6D7,5,7,",
  "17,2,18,20,0,1035,B,4,18,1,19,6,0,DE,C,2,0,1682,11,E,0,1D31,13,F,0,26E,1A,9A2,0,21E,5,5E0,0,",
  "2,2,134B,17,5,0,1060,19,DC4E,0,2,2,FFFE,0,2,2,FFFE,0,2,2,FFFE,0,2,2,FFFE,0,2,2,FFFE,0,2,2,",
  "FFFE,0,2,2,FFFE,0,2,2,FFFE,0,2,2,FFFE,0,2,2,FFFE,0,2,2,1,0,1,5,1E,0,60,5,80,0,F0,7,FE0E,0,",
  "20002,2"]

end BuildSpec.Unicode
