/-!
# Simple case folding

Two code points are the same up to case when simple case folding takes them to the same code
point. `foldClassesText` lists every class of two or more code points that are the same up to
case, each as its size followed by its members in increasing order; the classes are in
increasing order of their least members. The data is that of Unicode 16.0.
-/

namespace BuildSpec.Unicode

/-- The classes of code points that are the same up to case, each as its size and members. -/
def foldClassesText : String :=
  String.join [
  "2,41,61,2,42,62,2,43,63,2,44,64,2,45,65,2,46,66,2,47,67,2,48,68,2,49,69,2,4A,6A,3,4B,6B,212A,",
  "2,4C,6C,2,4D,6D,2,4E,6E,2,4F,6F,2,50,70,2,51,71,2,52,72,3,53,73,17F,2,54,74,2,55,75,2,56,76,",
  "2,57,77,2,58,78,2,59,79,2,5A,7A,3,B5,39C,3BC,2,C0,E0,2,C1,E1,2,C2,E2,2,C3,E3,2,C4,E4,3,C5,E5,",
  "212B,2,C6,E6,2,C7,E7,2,C8,E8,2,C9,E9,2,CA,EA,2,CB,EB,2,CC,EC,2,CD,ED,2,CE,EE,2,CF,EF,2,D0,F0,",
  "2,D1,F1,2,D2,F2,2,D3,F3,2,D4,F4,2,D5,F5,2,D6,F6,2,D8,F8,2,D9,F9,2,DA,FA,2,DB,FB,2,DC,FC,2,DD,",
  "FD,2,DE,FE,2,DF,1E9E,2,FF,178,2,100,101,2,102,103,2,104,105,2,106,107,2,108,109,2,10A,10B,2,",
  "10C,10D,2,10E,10F,2,110,111,2,112,113,2,114,115,2,116,117,2,118,119,2,11A,11B,2,11C,11D,2,",
  "11E,11F,2,120,121,2,122,123,2,124,125,2,126,127,2,128,129,2,12A,12B,2,12C,12D,2,12E,12F,2,",
  "132,133,2,134,135,2,136,137,2,139,13A,2,13B,13C,2,13D,13E,2,13F,140,2,141,142,2,143,144,2,",
  "145,146,2,147,148,2,14A,14B,2,14C,14D,2,14E,14F,2,150,151,2,152,153,2,154,155,2,156,157,2,",
  "158,159,2,15A,15B,2,15C,15D,2,15E,15F,2,160,161,2,162,163,2,164,165,2,166,167,2,168,169,2,",
  "16A,16B,2,16C,16D,2,16E,16F,2,170,171,2,172,173,2,174,175,2,176,177,2,179,17A,2,17B,17C,2,",
  "17D,17E,2,180,243,2,181,253,2,182,183,2,184,185,2,186,254,2,187,188,2,189,256,2,18A,257,2,",
  "18B,18C,2,18E,1DD,2,18F,259,2,190,25B,2,191,192,2,193,260,2,194,263,2,195,1F6,2,196,269,2,",
  "197,268,2,198,199,2,19A,23D,2,19B,A7DC,2,19C,26F,2,19D,272,2,19E,220,2,19F,275,2,1A0,1A1,2,",
  "1A2,1A3,2,1A4,1A5,2,1A6,280,2,1A7,1A8,2,1A9,283,2,1AC,1AD,2,1AE,288,2,1AF,1B0,2,1B1,28A,2,",
  "1B2,28B,2,1B3,1B4,2,1B5,1B6,2,1B7,292,2,1B8,1B9,2,1BC,1BD,2,1BF,1F7,3,1C4,1C5,1C6,3,1C7,1C8,",
  "1C9,3,1CA,1CB,1CC,2,1CD,1CE,2,1CF,1D0,2,1D1,1D2,2,1D3,1D4,2,1D5,1D6,2,1D7,1D8,2,1D9,1DA,2,",
  "1DB,1DC,2,1DE,1DF,2,1E0,1E1,2,1E2,1E3,2,1E4,1E5,2,1E6,1E7,2,1E8,1E9,2,1EA,1EB,2,1EC,1ED,2,",
  "1EE,1EF,3,1F1,1F2,1F3,2,1F4,1F5,2,1F8,1F9,2,1FA,1FB,2,1FC,1FD,2,1FE,1FF,2,200,201,2,202,203,",
  "2,204,205,2,206,207,2,208,209,2,20A,20B,2,20C,20D,2,20E,20F,2,210,211,2,212,213,2,214,215,2,",
  "216,217,2,218,219,2,21A,21B,2,21C,21D,2,21E,21F,2,222,223,2,224,225,2,226,227,2,228,229,2,",
  "22A,22B,2,22C,22D,2,22E,22F,2,230,231,2,232,233,2,23A,2C65,2,23B,23C,2,23E,2C66,2,23F,2C7E,2,",
  "240,2C7F,2,241,242,2,244,289,2,245,28C,2,246,247,2,248,249,2,24A,24B,2,24C,24D,2,24E,24F,2,",
  "250,2C6F,2,251,2C6D,2,252,2C70,2,25C,A7AB,2,261,A7AC,2,264,A7CB,2,265,A78D,2,266,A7AA,2,26A,",
  "A7AE,2,26B,2C62,2,26C,A7AD,2,271,2C6E,2,27D,2C64,2,282,A7C5,2,287,A7B1,2,29D,A7B2,2,29E,A7B0,",
  "4,345,399,3B9,1FBE,2,370,371,2,372,373,2,376,377,2,37B,3FD,2,37C,3FE,2,37D,3FF,2,37F,3F3,2,",
  "386,3AC,2,388,3AD,2,389,3AE,2,38A,3AF,2,38C,3CC,2,38E,3CD,2,38F,3CE,2,391,3B1,3,392,3B2,3D0,",
  "2,393,3B3,2,394,3B4,3,395,3B5,3F5,2,396,3B6,2,397,3B7,4,398,3B8,3D1,3F4,3,39A,3BA,3F0,2,39B,",
  "3BB,2,39D,3BD,2,39E,3BE,2,39F,3BF,3,3A0,3C0,3D6,3,3A1,3C1,3F1,3,3A3,3C2,3C3,2,3A4,3C4,2,3A5,",
  "3C5,3,3A6,3C6,3D5,2,3A7,3C7,2,3A8,3C8,3,3A9,3C9,2126,2,3AA,3CA,2,3AB,3CB,2,3CF,3D7,2,3D8,3D9,",
  "2,3DA,3DB,2,3DC,3DD,2,3DE,3DF,2,3E0,3E1,2,3E2,3E3,2,3E4,3E5,2,3E6,3E7,2,3E8,3E9,2,3EA,3EB,2,",
  "3EC,3ED,2,3EE,3EF,2,3F2,3F9,2,3F7,3F8,2,3FA,3FB,2,400,450,2,401,451,2,402,452,2,403,453,2,",
  "404,454,2,405,455,2,406,456,2,407,457,2,408,458,2,409,459,2,40A,45A,2,40B,45B,2,40C,45C,2,",
  "40D,45D,2,40E,45E,2,40F,45F,2,410,430,2,411,431,3,412,432,1C80,2,413,433,3,414,434,1C81,2,",
  "415,435,2,416,436,2,417,437,2,418,438,2,419,439,2,41A,43A,2,41B,43B,2,41C,43C,2,41D,43D,3,",
  "41E,43E,1C82,2,41F,43F,2,420,440,3,421,441,1C83,4,422,442,1C84,1C85,2,423,443,2,424,444,2,",
  "425,445,2,426,446,2,427,447,2,428,448,2,429,449,3,42A,44A,1C86,2,42B,44B,2,42C,44C,2,42D,44D,",
  "2,42E,44E,2,42F,44F,2,460,461,3,462,463,1C87,2,464,465,2,466,467,2,468,469,2,46A,46B,2,46C,",
  "46D,2,46E,46F,2,470,471,2,472,473,2,474,475,2,476,477,2,478,479,2,47A,47B,2,47C,47D,2,47E,",
  "47F,2,480,481,2,48A,48B,2,48C,48D,2,48E,48F,2,490,491,2,492,493,2,494,495,2,496,497,2,498,",
  "499,2,49A,49B,2,49C,49D,2,49E,49F,2,4A0,4A1,2,4A2,4A3,2,4A4,4A5,2,4A6,4A7,2,4A8,4A9,2,4AA,",
  "4AB,2,4AC,4AD,2,4AE,4AF,2,4B0,4B1,2,4B2,4B3,2,4B4,4B5,2,4B6,4B7,2,4B8,4B9,2,4BA,4BB,2,4BC,",
  "4BD,2,4BE,4BF,2,4C0,4CF,2,4C1,4C2,2,4C3,4C4,2,4C5,4C6,2,4C7,4C8,2,4C9,4CA,2,4CB,4CC,2,4CD,",
  "4CE,2,4D0,4D1,2,4D2,4D3,2,4D4,4D5,2,4D6,4D7,2,4D8,4D9,2,4DA,4DB,2,4DC,4DD,2,4DE,4DF,2,4E0,",
  "4E1,2,4E2,4E3,2,4E4,4E5,2,4E6,4E7,2,4E8,4E9,2,4EA,4EB,2,4EC,4ED,2,4EE,4EF,2,4F0,4F1,2,4F2,",
  "4F3,2,4F4,4F5,2,4F6,4F7,2,4F8,4F9,2,4FA,4FB,2,4FC,4FD,2,4FE,4FF,2,500,501,2,502,503,2,504,",
  "505,2,506,507,2,508,509,2,50A,50B,2,50C,50D,2,50E,50F,2,510,511,2,512,513,2,514,515,2,516,",
  "517,2,518,519,2,51A,51B,2,51C,51D,2,51E,51F,2,520,521,2,522,523,2,524,525,2,526,527,2,528,",
  "529,2,52A,52B,2,52C,52D,2,52E,52F,2,531,561,2,532,562,2,533,563,2,534,564,2,535,565,2,536,",
  "566,2,537,567,2,538,568,2,539,569,2,53A,56A,2,53B,56B,2,53C,56C,2,53D,56D,2,53E,56E,2,53F,",
  "56F,2,540,570,2,541,571,2,542,572,2,543,573,2,544,574,2,545,575,2,546,576,2,547,577,2,548,",
  "578,2,549,579,2,54A,57A,2,54B,57B,2,54C,57C,2,54D,57D,2,54E,57E,2,54F,57F,2,550,580,2,551,",
  "581,2,552,582,2,553,583,2,554,584,2,555,585,2,556,586,2,10A0,2D00,2,10A1,2D01,2,10A2,2D02,2,",
  "10A3,2D03,2,10A4,2D04,2,10A5,2D05,2,10A6,2D06,2,10A7,2D07,2,10A8,2D08,2,10A9,2D09,2,10AA,",
  "2D0A,2,10AB,2D0B,2,10AC,2D0C,2,10AD,2D0D,2,10AE,2D0E,2,10AF,2D0F,2,10B0,2D10,2,10B1,2D11,2,",
  "10B2,2D12,2,10B3,2D13,2,10B4,2D14,2,10B5,2D15,2,10B6,2D16,2,10B7,2D17,2,10B8,2D18,2,10B9,",
  "2D19,2,10BA,2D1A,2,10BB,2D1B,2,10BC,2D1C,2,10BD,2D1D,2,10BE,2D1E,2,10BF,2D1F,2,10C0,2D20,2,",
  "10C1,2D21,2,10C2,2D22,2,10C3,2D23,2,10C4,2D24,2,10C5,2D25,2,10C7,2D27,2,10CD,2D2D,2,10D0,",
  "1C90,2,10D1,1C91,2,10D2,1C92,2,10D3,1C93,2,10D4,1C94,2,10D5,1C95,2,10D6,1C96,2,10D7,1C97,2,",
  "10D8,1C98,2,10D9,1C99,2,10DA,1C9A,2,10DB,1C9B,2,10DC,1C9C,2,10DD,1C9D,2,10DE,1C9E,2,10DF,",
  "1C9F,2,10E0,1CA0,2,10E1,1CA1,2,10E2,1CA2,2,10E3,1CA3,2,10E4,1CA4,2,10E5,1CA5,2,10E6,1CA6,2,",
  "10E7,1CA7,2,10E8,1CA8,2,10E9,1CA9,2,10EA,1CAA,2,10EB,1CAB,2,10EC,1CAC,2,10ED,1CAD,2,10EE,",
  "1CAE,2,10EF,1CAF,2,10F0,1CB0,2,10F1,1CB1,2,10F2,1CB2,2,10F3,1CB3,2,10F4,1CB4,2,10F5,1CB5,2,",
  "10F6,1CB6,2,10F7,1CB7,2,10F8,1CB8,2,10F9,1CB9,2,10FA,1CBA,2,10FD,1CBD,2,10FE,1CBE,2,10FF,",
  "1CBF,2,13A0,AB70,2,13A1,AB71,2,13A2,AB72,2,13A3,AB73,2,13A4,AB74,2,13A5,AB75,2,13A6,AB76,2,",
  "13A7,AB77,2,13A8,AB78,2,13A9,AB79,2,13AA,AB7A,2,13AB,AB7B,2,13AC,AB7C,2,13AD,AB7D,2,13AE,",
  "AB7E,2,13AF,AB7F,2,13B0,AB80,2,13B1,AB81,2,13B2,AB82,2,13B3,AB83,2,13B4,AB84,2,13B5,AB85,2,",
  "13B6,AB86,2,13B7,AB87,2,13B8,AB88,2,13B9,AB89,2,13BA,AB8A,2,13BB,AB8B,2,13BC,AB8C,2,13BD,",
  "AB8D,2,13BE,AB8E,2,13BF,AB8F,2,13C0,AB90,2,13C1,AB91,2,13C2,AB92,2,13C3,AB93,2,13C4,AB94,2,",
  "13C5,AB95,2,13C6,AB96,2,13C7,AB97,2,13C8,AB98,2,13C9,AB99,2,13CA,AB9A,2,13CB,AB9B,2,13CC,",
  "AB9C,2,13CD,AB9D,2,13CE,AB9E,2,13CF,AB9F,2,13D0,ABA0,2,13D1,ABA1,2,13D2,ABA2,2,13D3,ABA3,2,",
  "13D4,ABA4,2,13D5,ABA5,2,13D6,ABA6,2,13D7,ABA7,2,13D8,ABA8,2,13D9,ABA9,2,13DA,ABAA,2,13DB,",
  "ABAB,2,13DC,ABAC,2,13DD,ABAD,2,13DE,ABAE,2,13DF,ABAF,2,13E0,ABB0,2,13E1,ABB1,2,13E2,ABB2,2,",
  "13E3,ABB3,2,13E4,ABB4,2,13E5,ABB5,2,13E6,ABB6,2,13E7,ABB7,2,13E8,ABB8,2,13E9,ABB9,2,13EA,",
  "ABBA,2,13EB,ABBB,2,13EC,ABBC,2,13ED,ABBD,2,13EE,ABBE,2,13EF,ABBF,2,13F0,13F8,2,13F1,13F9,2,",
  "13F2,13FA,2,13F3,13FB,2,13F4,13FC,2,13F5,13FD,3,1C88,A64A,A64B,2,1C89,1C8A,2,1D79,A77D,2,",
  "1D7D,2C63,2,1D8E,A7C6,2,1E00,1E01,2,1E02,1E03,2,1E04,1E05,2,1E06,1E07,2,1E08,1E09,2,1E0A,",
  "1E0B,2,1E0C,1E0D,2,1E0E,1E0F,2,1E10,1E11,2,1E12,1E13,2,1E14,1E15,2,1E16,1E17,2,1E18,1E19,2,",
  "1E1A,1E1B,2,1E1C,1E1D,2,1E1E,1E1F,2,1E20,1E21,2,1E22,1E23,2,1E24,1E25,2,1E26,1E27,2,1E28,",
  "1E29,2,1E2A,1E2B,2,1E2C,1E2D,2,1E2E,1E2F,2,1E30,1E31,2,1E32,1E33,2,1E34,1E35,2,1E36,1E37,2,",
  "1E38,1E39,2,1E3A,1E3B,2,1E3C,1E3D,2,1E3E,1E3F,2,1E40,1E41,2,1E42,1E43,2,1E44,1E45,2,1E46,",
  "1E47,2,1E48,1E49,2,1E4A,1E4B,2,1E4C,1E4D,2,1E4E,1E4F,2,1E50,1E51,2,1E52,1E53,2,1E54,1E55,2,",
  "1E56,1E57,2,1E58,1E59,2,1E5A,1E5B,2,1E5C,1E5D,2,1E5E,1E5F,3,1E60,1E61,1E9B,2,1E62,1E63,2,",
  "1E64,1E65,2,1E66,1E67,2,1E68,1E69,2,1E6A,1E6B,2,1E6C,1E6D,2,1E6E,1E6F,2,1E70,1E71,2,1E72,",
  "1E73,2,1E74,1E75,2,1E76,1E77,2,1E78,1E79,2,1E7A,1E7B,2,1E7C,1E7D,2,1E7E,1E7F,2,1E80,1E81,2,",
  "1E82,1E83,2,1E84,1E85,2,1E86,1E87,2,1E88,1E89,2,1E8A,1E8B,2,1E8C,1E8D,2,1E8E,1E8F,2,1E90,",
  "1E91,2,1E92,1E93,2,1E94,1E95,2,1EA0,1EA1,2,1EA2,1EA3,2,1EA4,1EA5,2,1EA6,1EA7,2,1EA8,1EA9,2,",
  "1EAA,1EAB,2,1EAC,1EAD,2,1EAE,1EAF,2,1EB0,1EB1,2,1EB2,1EB3,2,1EB4,1EB5,2,1EB6,1EB7,2,1EB8,",
  "1EB9,2,1EBA,1EBB,2,1EBC,1EBD,2,1EBE,1EBF,2,1EC0,1EC1,2,1EC2,1EC3,2,1EC4,1EC5,2,1EC6,1EC7,2,",
  "1EC8,1EC9,2,1ECA,1ECB,2,1ECC,1ECD,2,1ECE,1ECF,2,1ED0,1ED1,2,1ED2,1ED3,2,1ED4,1ED5,2,1ED6,",
  "1ED7,2,1ED8,1ED9,2,1EDA,1EDB,2,1EDC,1EDD,2,1EDE,1EDF,2,1EE0,1EE1,2,1EE2,1EE3,2,1EE4,1EE5,2,",
  "1EE6,1EE7,2,1EE8,1EE9,2,1EEA,1EEB,2,1EEC,1EED,2,1EEE,1EEF,2,1EF0,1EF1,2,1EF2,1EF3,2,1EF4,",
  "1EF5,2,1EF6,1EF7,2,1EF8,1EF9,2,1EFA,1EFB,2,1EFC,1EFD,2,1EFE,1EFF,2,1F00,1F08,2,1F01,1F09,2,",
  "1F02,1F0A,2,1F03,1F0B,2,1F04,1F0C,2,1F05,1F0D,2,1F06,1F0E,2,1F07,1F0F,2,1F10,1F18,2,1F11,",
  "1F19,2,1F12,1F1A,2,1F13,1F1B,2,1F14,1F1C,2,1F15,1F1D,2,1F20,1F28,2,1F21,1F29,2,1F22,1F2A,2,",
  "1F23,1F2B,2,1F24,1F2C,2,1F25,1F2D,2,1F26,1F2E,2,1F27,1F2F,2,1F30,1F38,2,1F31,1F39,2,1F32,",
  "1F3A,2,1F33,1F3B,2,1F34,1F3C,2,1F35,1F3D,2,1F36,1F3E,2,1F37,1F3F,2,1F40,1F48,2,1F41,1F49,2,",
  "1F42,1F4A,2,1F43,1F4B,2,1F44,1F4C,2,1F45,1F4D,2,1F51,1F59,2,1F53,1F5B,2,1F55,1F5D,2,1F57,",
  "1F5F,2,1F60,1F68,2,1F61,1F69,2,1F62,1F6A,2,1F63,1F6B,2,1F64,1F6C,2,1F65,1F6D,2,1F66,1F6E,2,",
  "1F67,1F6F,2,1F70,1FBA,2,1F71,1FBB,2,1F72,1FC8,2,1F73,1FC9,2,1F74,1FCA,2,1F75,1FCB,2,1F76,",
  "1FDA,2,1F77,1FDB,2,1F78,1FF8,2,1F79,1FF9,2,1F7A,1FEA,2,1F7B,1FEB,2,1F7C,1FFA,2,1F7D,1FFB,2,",
  "1F80,1F88,2,1F81,1F89,2,1F82,1F8A,2,1F83,1F8B,2,1F84,1F8C,2,1F85,1F8D,2,1F86,1F8E,2,1F87,",
  "1F8F,2,1F90,1F98,2,1F91,1F99,2,1F92,1F9A,2,1F93,1F9B,2,1F94,1F9C,2,1F95,1F9D,2,1F96,1F9E,2,",
  "1F97,1F9F,2,1FA0,1FA8,2,1FA1,1FA9,2,1FA2,1FAA,2,1FA3,1FAB,2,1FA4,1FAC,2,1FA5,1FAD,2,1FA6,",
  "1FAE,2,1FA7,1FAF,2,1FB0,1FB8,2,1FB1,1FB9,2,1FB3,1FBC,2,1FC3,1FCC,2,1FD0,1FD8,2,1FD1,1FD9,2,",
  "1FE0,1FE8,2,1FE1,1FE9,2,1FE5,1FEC,2,1FF3,1FFC,2,2132,214E,2,2160,2170,2,2161,2171,2,2162,",
  "2172,2,2163,2173,2,2164,2174,2,2165,2175,2,2166,2176,2,2167,2177,2,2168,2178,2,2169,2179,2,",
  "216A,217A,2,216B,217B,2,216C,217C,2,216D,217D,2,216E,217E,2,216F,217F,2,2183,2184,2,24B6,",
  "24D0,2,24B7,24D1,2,24B8,24D2,2,24B9,24D3,2,24BA,24D4,2,24BB,24D5,2,24BC,24D6,2,24BD,24D7,2,",
  "24BE,24D8,2,24BF,24D9,2,24C0,24DA,2,24C1,24DB,2,24C2,24DC,2,24C3,24DD,2,24C4,24DE,2,24C5,",
  "24DF,2,24C6,24E0,2,24C7,24E1,2,24C8,24E2,2,24C9,24E3,2,24CA,24E4,2,24CB,24E5,2,24CC,24E6,2,",
  "24CD,24E7,2,24CE,24E8,2,24CF,24E9,2,2C00,2C30,2,2C01,2C31,2,2C02,2C32,2,2C03,2C33,2,2C04,",
  "2C34,2,2C05,2C35,2,2C06,2C36,2,2C07,2C37,2,2C08,2C38,2,2C09,2C39,2,2C0A,2C3A,2,2C0B,2C3B,2,",
  "2C0C,2C3C,2,2C0D,2C3D,2,2C0E,2C3E,2,2C0F,2C3F,2,2C10,2C40,2,2C11,2C41,2,2C12,2C42,2,2C13,",
  "2C43,2,2C14,2C44,2,2C15,2C45,2,2C16,2C46,2,2C17,2C47,2,2C18,2C48,2,2C19,2C49,2,2C1A,2C4A,2,",
  "2C1B,2C4B,2,2C1C,2C4C,2,2C1D,2C4D,2,2C1E,2C4E,2,2C1F,2C4F,2,2C20,2C50,2,2C21,2C51,2,2C22,",
  "2C52,2,2C23,2C53,2,2C24,2C54,2,2C25,2C55,2,2C26,2C56,2,2C27,2C57,2,2C28,2C58,2,2C29,2C59,2,",
  "2C2A,2C5A,2,2C2B,2C5B,2,2C2C,2C5C,2,2C2D,2C5D,2,2C2E,2C5E,2,2C2F,2C5F,2,2C60,2C61,2,2C67,",
  "2C68,2,2C69,2C6A,2,2C6B,2C6C,2,2C72,2C73,2,2C75,2C76,2,2C80,2C81,2,2C82,2C83,2,2C84,2C85,2,",
  "2C86,2C87,2,2C88,2C89,2,2C8A,2C8B,2,2C8C,2C8D,2,2C8E,2C8F,2,2C90,2C91,2,2C92,2C93,2,2C94,",
  "2C95,2,2C96,2C97,2,2C98,2C99,2,2C9A,2C9B,2,2C9C,2C9D,2,2C9E,2C9F,2,2CA0,2CA1,2,2CA2,2CA3,2,",
  "2CA4,2CA5,2,2CA6,2CA7,2,2CA8,2CA9,2,2CAA,2CAB,2,2CAC,2CAD,2,2CAE,2CAF,2,2CB0,2CB1,2,2CB2,",
  "2CB3,2,2CB4,2CB5,2,2CB6,2CB7,2,2CB8,2CB9,2,2CBA,2CBB,2,2CBC,2CBD,2,2CBE,2CBF,2,2CC0,2CC1,2,",
  "2CC2,2CC3,2,2CC4,2CC5,2,2CC6,2CC7,2,2CC8,2CC9,2,2CCA,2CCB,2,2CCC,2CCD,2,2CCE,2CCF,2,2CD0,",
  "2CD1,2,2CD2,2CD3,2,2CD4,2CD5,2,2CD6,2CD7,2,2CD8,2CD9,2,2CDA,2CDB,2,2CDC,2CDD,2,2CDE,2CDF,2,",
  "2CE0,2CE1,2,2CE2,2CE3,2,2CEB,2CEC,2,2CED,2CEE,2,2CF2,2CF3,2,A640,A641,2,A642,A643,2,A644,",
  "A645,2,A646,A647,2,A648,A649,2,A64C,A64D,2,A64E,A64F,2,A650,A651,2,A652,A653,2,A654,A655,2,",
  "A656,A657,2,A658,A659,2,A65A,A65B,2,A65C,A65D,2,A65E,A65F,2,A660,A661,2,A662,A663,2,A664,",
  "A665,2,A666,A667,2,A668,A669,2,A66A,A66B,2,A66C,A66D,2,A680,A681,2,A682,A683,2,A684,A685,2,",
  "A686,A687,2,A688,A689,2,A68A,A68B,2,A68C,A68D,2,A68E,A68F,2,A690,A691,2,A692,A693,2,A694,",
  "A695,2,A696,A697,2,A698,A699,2,A69A,A69B,2,A722,A723,2,A724,A725,2,A726,A727,2,A728,A729,2,",
  "A72A,A72B,2,A72C,A72D,2,A72E,A72F,2,A732,A733,2,A734,A735,2,A736,A737,2,A738,A739,2,A73A,",
  "A73B,2,A73C,A73D,2,A73E,A73F,2,A740,A741,2,A742,A743,2,A744,A745,2,A746,A747,2,A748,A749,2,",
  "A74A,A74B,2,A74C,A74D,2,A74E,A74F,2,A750,A751,2,A752,A753,2,A754,A755,2,A756,A757,2,A758,",
  "A759,2,A75A,A75B,2,A75C,A75D,2,A75E,A75F,2,A760,A761,2,A762,A763,2,A764,A765,2,A766,A767,2,",
  "A768,A769,2,A76A,A76B,2,A76C,A76D,2,A76E,A76F,2,A779,A77A,2,A77B,A77C,2,A77E,A77F,2,A780,",
  "A781,2,A782,A783,2,A784,A785,2,A786,A787,2,A78B,A78C,2,A790,A791,2,A792,A793,2,A794,A7C4,2,",
  "A796,A797,2,A798,A799,2,A79A,A79B,2,A79C,A79D,2,A79E,A79F,2,A7A0,A7A1,2,A7A2,A7A3,2,A7A4,",
  "A7A5,2,A7A6,A7A7,2,A7A8,A7A9,2,A7B3,AB53,2,A7B4,A7B5,2,A7B6,A7B7,2,A7B8,A7B9,2,A7BA,A7BB,2,",
  "A7BC,A7BD,2,A7BE,A7BF,2,A7C0,A7C1,2,A7C2,A7C3,2,A7C7,A7C8,2,A7C9,A7CA,2,A7CC,A7CD,2,A7D0,",
  "A7D1,2,A7D6,A7D7,2,A7D8,A7D9,2,A7DA,A7DB,2,A7F5,A7F6,2,FF21,FF41,2,FF22,FF42,2,FF23,FF43,2,",
  "FF24,FF44,2,FF25,FF45,2,FF26,FF46,2,FF27,FF47,2,FF28,FF48,2,FF29,FF49,2,FF2A,FF4A,2,FF2B,",
  "FF4B,2,FF2C,FF4C,2,FF2D,FF4D,2,FF2E,FF4E,2,FF2F,FF4F,2,FF30,FF50,2,FF31,FF51,2,FF32,FF52,2,",
  "FF33,FF53,2,FF34,FF54,2,FF35,FF55,2,FF36,FF56,2,FF37,FF57,2,FF38,FF58,2,FF39,FF59,2,FF3A,",
  "FF5A,2,10400,10428,2,10401,10429,2,10402,1042A,2,10403,1042B,2,10404,1042C,2,10405,1042D,2,",
  "10406,1042E,2,10407,1042F,2,10408,10430,2,10409,10431,2,1040A,10432,2,1040B,10433,2,1040C,",
  "10434,2,1040D,10435,2,1040E,10436,2,1040F,10437,2,10410,10438,2,10411,10439,2,10412,1043A,2,",
  "10413,1043B,2,10414,1043C,2,10415,1043D,2,10416,1043E,2,10417,1043F,2,10418,10440,2,10419,",
  "10441,2,1041A,10442,2,1041B,10443,2,1041C,10444,2,1041D,10445,2,1041E,10446,2,1041F,10447,2,",
  "10420,10448,2,10421,10449,2,10422,1044A,2,10423,1044B,2,10424,1044C,2,10425,1044D,2,10426,",
  "1044E,2,10427,1044F,2,104B0,104D8,2,104B1,104D9,2,104B2,104DA,2,104B3,104DB,2,104B4,104DC,2,",
  "104B5,104DD,2,104B6,104DE,2,104B7,104DF,2,104B8,104E0,2,104B9,104E1,2,104BA,104E2,2,104BB,",
  "104E3,2,104BC,104E4,2,104BD,104E5,2,104BE,104E6,2,104BF,104E7,2,104C0,104E8,2,104C1,104E9,2,",
  "104C2,104EA,2,104C3,104EB,2,104C4,104EC,2,104C5,104ED,2,104C6,104EE,2,104C7,104EF,2,104C8,",
  "104F0,2,104C9,104F1,2,104CA,104F2,2,104CB,104F3,2,104CC,104F4,2,104CD,104F5,2,104CE,104F6,2,",
  "104CF,104F7,2,104D0,104F8,2,104D1,104F9,2,104D2,104FA,2,104D3,104FB,2,10570,10597,2,10571,",
  "10598,2,10572,10599,2,10573,1059A,2,10574,1059B,2,10575,1059C,2,10576,1059D,2,10577,1059E,2,",
  "10578,1059F,2,10579,105A0,2,1057A,105A1,2,1057C,105A3,2,1057D,105A4,2,1057E,105A5,2,1057F,",
  "105A6,2,10580,105A7,2,10581,105A8,2,10582,105A9,2,10583,105AA,2,10584,105AB,2,10585,105AC,2,",
  "10586,105AD,2,10587,105AE,2,10588,105AF,2,10589,105B0,2,1058A,105B1,2,1058C,105B3,2,1058D,",
  "105B4,2,1058E,105B5,2,1058F,105B6,2,10590,105B7,2,10591,105B8,2,10592,105B9,2,10594,105BB,2,",
  "10595,105BC,2,10C80,10CC0,2,10C81,10CC1,2,10C82,10CC2,2,10C83,10CC3,2,10C84,10CC4,2,10C85,",
  "10CC5,2,10C86,10CC6,2,10C87,10CC7,2,10C88,10CC8,2,10C89,10CC9,2,10C8A,10CCA,2,10C8B,10CCB,2,",
  "10C8C,10CCC,2,10C8D,10CCD,2,10C8E,10CCE,2,10C8F,10CCF,2,10C90,10CD0,2,10C91,10CD1,2,10C92,",
  "10CD2,2,10C93,10CD3,2,10C94,10CD4,2,10C95,10CD5,2,10C96,10CD6,2,10C97,10CD7,2,10C98,10CD8,2,",
  "10C99,10CD9,2,10C9A,10CDA,2,10C9B,10CDB,2,10C9C,10CDC,2,10C9D,10CDD,2,10C9E,10CDE,2,10C9F,",
  "10CDF,2,10CA0,10CE0,2,10CA1,10CE1,2,10CA2,10CE2,2,10CA3,10CE3,2,10CA4,10CE4,2,10CA5,10CE5,2,",
  "10CA6,10CE6,2,10CA7,10CE7,2,10CA8,10CE8,2,10CA9,10CE9,2,10CAA,10CEA,2,10CAB,10CEB,2,10CAC,",
  "10CEC,2,10CAD,10CED,2,10CAE,10CEE,2,10CAF,10CEF,2,10CB0,10CF0,2,10CB1,10CF1,2,10CB2,10CF2,2,",
  "10D50,10D70,2,10D51,10D71,2,10D52,10D72,2,10D53,10D73,2,10D54,10D74,2,10D55,10D75,2,10D56,",
  "10D76,2,10D57,10D77,2,10D58,10D78,2,10D59,10D79,2,10D5A,10D7A,2,10D5B,10D7B,2,10D5C,10D7C,2,",
  "10D5D,10D7D,2,10D5E,10D7E,2,10D5F,10D7F,2,10D60,10D80,2,10D61,10D81,2,10D62,10D82,2,10D63,",
  "10D83,2,10D64,10D84,2,10D65,10D85,2,118A0,118C0,2,118A1,118C1,2,118A2,118C2,2,118A3,118C3,2,",
  "118A4,118C4,2,118A5,118C5,2,118A6,118C6,2,118A7,118C7,2,118A8,118C8,2,118A9,118C9,2,118AA,",
  "118CA,2,118AB,118CB,2,118AC,118CC,2,118AD,118CD,2,118AE,118CE,2,118AF,118CF,2,118B0,118D0,2,",
  "118B1,118D1,2,118B2,118D2,2,118B3,118D3,2,118B4,118D4,2,118B5,118D5,2,118B6,118D6,2,118B7,",
  "118D7,2,118B8,118D8,2,118B9,118D9,2,118BA,118DA,2,118BB,118DB,2,118BC,118DC,2,118BD,118DD,2,",
  "118BE,118DE,2,118BF,118DF,2,16E40,16E60,2,16E41,16E61,2,16E42,16E62,2,16E43,16E63,2,16E44,",
  "16E64,2,16E45,16E65,2,16E46,16E66,2,16E47,16E67,2,16E48,16E68,2,16E49,16E69,2,16E4A,16E6A,2,",
  "16E4B,16E6B,2,16E4C,16E6C,2,16E4D,16E6D,2,16E4E,16E6E,2,16E4F,16E6F,2,16E50,16E70,2,16E51,",
  "16E71,2,16E52,16E72,2,16E53,16E73,2,16E54,16E74,2,16E55,16E75,2,16E56,16E76,2,16E57,16E77,2,",
  "16E58,16E78,2,16E59,16E79,2,16E5A,16E7A,2,16E5B,16E7B,2,16E5C,16E7C,2,16E5D,16E7D,2,16E5E,",
  "16E7E,2,16E5F,16E7F,2,1E900,1E922,2,1E901,1E923,2,1E902,1E924,2,1E903,1E925,2,1E904,1E926,2,",
  "1E905,1E927,2,1E906,1E928,2,1E907,1E929,2,1E908,1E92A,2,1E909,1E92B,2,1E90A,1E92C,2,1E90B,",
  "1E92D,2,1E90C,1E92E,2,1E90D,1E92F,2,1E90E,1E930,2,1E90F,1E931,2,1E910,1E932,2,1E911,1E933,2,",
  "1E912,1E934,2,1E913,1E935,2,1E914,1E936,2,1E915,1E937,2,1E916,1E938,2,1E917,1E939,2,1E918,",
  "1E93A,2,1E919,1E93B,2,1E91A,1E93C,2,1E91B,1E93D,2,1E91C,1E93E,2,1E91D,1E93F,2,1E91E,1E940,2,",
  "1E91F,1E941,2,1E920,1E942,2,1E921,1E943"]

end BuildSpec.Unicode
