/-!
# Scripts of code points

`scripts` names every script with its aliases (the long name second), in order of the long
names. Two run tables (see `BuildSpec.Unicode.Runs`) cover every code point:

* `scriptRunsText` gives the script of each code point, as a position in `scripts`;
* `extensionRunsText` gives the scripts each code point is used with (its script extensions),
  as a position in the list `extensionSetsText` of script sets; that list holds each set as its
  size followed by positions in `scripts`.

The data is that of Unicode 16.0.
-/

namespace BuildSpec.Unicode

/-- The scripts, each as its aliases: the short name, the long name, then any others. -/
def scripts : Array (List String) := #[
  ["Adlm", "Adlam"], ["Ahom", "Ahom"], ["Hluw", "Anatolian_Hieroglyphs"], ["Arab", "Arabic"],
  ["Armn", "Armenian"], ["Avst", "Avestan"], ["Bali", "Balinese"], ["Bamu", "Bamum"],
  ["Bass", "Bassa_Vah"], ["Batk", "Batak"], ["Beng", "Bengali"], ["Bhks", "Bhaiksuki"],
  ["Bopo", "Bopomofo"], ["Brah", "Brahmi"], ["Brai", "Braille"], ["Bugi", "Buginese"],
  ["Buhd", "Buhid"], ["Cans", "Canadian_Aboriginal"], ["Cari", "Carian"],
  ["Aghb", "Caucasian_Albanian"], ["Cakm", "Chakma"], ["Cham", "Cham"], ["Cher", "Cherokee"],
  ["Chrs", "Chorasmian"], ["Zyyy", "Common"], ["Copt", "Coptic", "Qaac"],
  ["Xsux", "Cuneiform"], ["Cprt", "Cypriot"], ["Cpmn", "Cypro_Minoan"], ["Cyrl", "Cyrillic"],
  ["Dsrt", "Deseret"], ["Deva", "Devanagari"], ["Diak", "Dives_Akuru"], ["Dogr", "Dogra"],
  ["Dupl", "Duployan"], ["Egyp", "Egyptian_Hieroglyphs"], ["Elba", "Elbasan"],
  ["Elym", "Elymaic"], ["Ethi", "Ethiopic"], ["Gara", "Garay"], ["Geor", "Georgian"],
  ["Glag", "Glagolitic"], ["Goth", "Gothic"], ["Gran", "Grantha"], ["Grek", "Greek"],
  ["Gujr", "Gujarati"], ["Gong", "Gunjala_Gondi"], ["Guru", "Gurmukhi"],
  ["Gukh", "Gurung_Khema"], ["Hani", "Han"], ["Hang", "Hangul"], ["Rohg", "Hanifi_Rohingya"],
  ["Hano", "Hanunoo"], ["Hatr", "Hatran"], ["Hebr", "Hebrew"], ["Hira", "Hiragana"],
  ["Armi", "Imperial_Aramaic"], ["Zinh", "Inherited", "Qaai"],
  ["Phli", "Inscriptional_Pahlavi"], ["Prti", "Inscriptional_Parthian"], ["Java", "Javanese"],
  ["Kthi", "Kaithi"], ["Knda", "Kannada"], ["Kana", "Katakana"],
  ["Hrkt", "Katakana_Or_Hiragana"], ["Kawi", "Kawi"], ["Kali", "Kayah_Li"],
  ["Khar", "Kharoshthi"], ["Kits", "Khitan_Small_Script"], ["Khmr", "Khmer"],
  ["Khoj", "Khojki"], ["Sind", "Khudawadi"], ["Krai", "Kirat_Rai"], ["Laoo", "Lao"],
  ["Latn", "Latin"], ["Lepc", "Lepcha"], ["Limb", "Limbu"], ["Lina", "Linear_A"],
  ["Linb", "Linear_B"], ["Lisu", "Lisu"], ["Lyci", "Lycian"], ["Lydi", "Lydian"],
  ["Mahj", "Mahajani"], ["Maka", "Makasar"], ["Mlym", "Malayalam"], ["Mand", "Mandaic"],
  ["Mani", "Manichaean"], ["Marc", "Marchen"], ["Gonm", "Masaram_Gondi"],
  ["Medf", "Medefaidrin"], ["Mtei", "Meetei_Mayek"], ["Mend", "Mende_Kikakui"],
  ["Merc", "Meroitic_Cursive"], ["Mero", "Meroitic_Hieroglyphs"], ["Plrd", "Miao"],
  ["Modi", "Modi"], ["Mong", "Mongolian"], ["Mroo", "Mro"], ["Mult", "Multani"],
  ["Mymr", "Myanmar"], ["Nbat", "Nabataean"], ["Nagm", "Nag_Mundari"], ["Nand", "Nandinagari"],
  ["Talu", "New_Tai_Lue"], ["Newa", "Newa"], ["Nkoo", "Nko"], ["Nshu", "Nushu"],
  ["Hmnp", "Nyiakeng_Puachue_Hmong"], ["Ogam", "Ogham"], ["Olck", "Ol_Chiki"],
  ["Onao", "Ol_Onal"], ["Hung", "Old_Hungarian"], ["Ital", "Old_Italic"],
  ["Narb", "Old_North_Arabian"], ["Perm", "Old_Permic"], ["Xpeo", "Old_Persian"],
  ["Sogo", "Old_Sogdian"], ["Sarb", "Old_South_Arabian"], ["Orkh", "Old_Turkic"],
  ["Ougr", "Old_Uyghur"], ["Orya", "Oriya"], ["Osge", "Osage"], ["Osma", "Osmanya"],
  ["Hmng", "Pahawh_Hmong"], ["Palm", "Palmyrene"], ["Pauc", "Pau_Cin_Hau"],
  ["Phag", "Phags_Pa"], ["Phnx", "Phoenician"], ["Phlp", "Psalter_Pahlavi"],
  ["Rjng", "Rejang"], ["Runr", "Runic"], ["Samr", "Samaritan"], ["Saur", "Saurashtra"],
  ["Shrd", "Sharada"], ["Shaw", "Shavian"], ["Sidd", "Siddham"], ["Sgnw", "SignWriting"],
  ["Sinh", "Sinhala"], ["Sogd", "Sogdian"], ["Sora", "Sora_Sompeng"], ["Soyo", "Soyombo"],
  ["Sund", "Sundanese"], ["Sunu", "Sunuwar"], ["Sylo", "Syloti_Nagri"], ["Syrc", "Syriac"],
  ["Tglg", "Tagalog"], ["Tagb", "Tagbanwa"], ["Tale", "Tai_Le"], ["Lana", "Tai_Tham"],
  ["Tavt", "Tai_Viet"], ["Takr", "Takri"], ["Taml", "Tamil"], ["Tnsa", "Tangsa"],
  ["Tang", "Tangut"], ["Telu", "Telugu"], ["Thaa", "Thaana"], ["Thai", "Thai"],
  ["Tibt", "Tibetan"], ["Tfng", "Tifinagh"], ["Tirh", "Tirhuta"], ["Todr", "Todhri"],
  ["Toto", "Toto"], ["Tutg", "Tulu_Tigalari"], ["Ugar", "Ugaritic"], ["Zzzz", "Unknown"],
  ["Vaii", "Vai"], ["Vith", "Vithkuqi"], ["Wcho", "Wancho"], ["Wara", "Warang_Citi"],
  ["Yezi", "Yezidi"], ["Yiii", "Yi"], ["Zanb", "Zanabazar_Square"]]

/-- The script of every code point, as runs of positions in `scripts`. -/
def scriptRunsText : String :=
  String.join [
  "41,18,1A,4A,6,18,1A,4A,2F,18,1,4A,F,18,1,4A,5,18,17,4A,1,18,1F,4A,1,18,1C1,4A,27,18,5,4A,5,",
  "18,2,C,14,18,70,39,4,2C,1,18,3,2C,2,A4,4,2C,1,18,1,2C,4,A4,1,2C,1,18,1,2C,1,18,3,2C,1,A4,1,",
  "2C,1,A4,14,2C,1,A4,3F,2C,E,19,10,2C,85,1D,2,39,A9,1D,1,A4,26,4,2,A4,32,4,2,A4,3,4,1,A4,37,36,",
  "8,A4,1B,36,4,A4,6,36,B,A4,5,3,1,18,6,3,1,18,E,3,1,18,3,3,1,18,20,3,1,18,A,3,B,39,1A,3,1,39,",
  "6C,3,1,18,22,3,E,90,1,A4,3C,90,2,A4,3,90,30,3,32,9B,E,A4,3B,69,2,A4,3,69,2E,83,2,A4,F,83,1,",
  "A4,1C,55,2,A4,1,55,1,A4,B,90,5,A4,1F,3,1,A4,2,3,5,A4,4B,3,1,18,1D,3,51,1F,4,39,F,1F,2,18,1A,",
  "1F,4,A,1,A4,8,A,2,A4,2,A,2,A4,16,A,1,A4,7,A,1,A4,1,A,3,A4,4,A,2,A4,9,A,2,A4,2,A,2,A4,4,A,8,",
  "A4,1,A,4,A4,2,A,1,A4,5,A,2,A4,19,A,2,A4,3,2F,1,A4,6,2F,4,A4,2,2F,2,A4,16,2F,1,A4,7,2F,1,A4,2,",
  "2F,1,A4,2,2F,1,A4,2,2F,2,A4,1,2F,1,A4,5,2F,4,A4,2,2F,2,A4,3,2F,3,A4,1,2F,7,A4,4,2F,1,A4,1,2F,",
  "7,A4,11,2F,A,A4,3,2D,1,A4,9,2D,1,A4,3,2D,1,A4,16,2D,1,A4,7,2D,1,A4,2,2D,1,A4,5,2D,2,A4,A,2D,",
  "1,A4,3,2D,1,A4,3,2D,2,A4,1,2D,F,A4,4,2D,2,A4,C,2D,7,A4,7,2D,1,A4,3,78,1,A4,8,78,2,A4,2,78,2,",
  "A4,16,78,1,A4,7,78,1,A4,2,78,1,A4,5,78,2,A4,9,78,2,A4,2,78,2,A4,3,78,7,A4,3,78,4,A4,2,78,1,",
  "A4,5,78,2,A4,12,78,A,A4,2,97,1,A4,6,97,3,A4,3,97,1,A4,4,97,3,A4,2,97,1,A4,1,97,1,A4,2,97,3,",
  "A4,2,97,3,A4,3,97,3,A4,C,97,4,A4,5,97,3,A4,3,97,1,A4,4,97,2,A4,1,97,6,A4,1,97,E,A4,15,97,5,",
  "A4,D,9A,1,A4,3,9A,1,A4,17,9A,1,A4,10,9A,2,A4,9,9A,1,A4,3,9A,1,A4,4,9A,7,A4,2,9A,1,A4,3,9A,2,",
  "A4,1,9A,2,A4,4,9A,2,A4,A,9A,7,A4,9,9A,D,3E,1,A4,3,3E,1,A4,17,3E,1,A4,A,3E,1,A4,5,3E,2,A4,9,",
  "3E,1,A4,3,3E,1,A4,4,3E,7,A4,2,3E,6,A4,2,3E,1,A4,4,3E,2,A4,A,3E,1,A4,3,3E,C,A4,D,54,1,A4,3,54,",
  "1,A4,33,54,1,A4,3,54,1,A4,6,54,4,A4,10,54,2,A4,1A,54,1,A4,3,89,1,A4,12,89,3,A4,18,89,1,A4,9,",
  "89,1,A4,1,89,2,A4,7,89,3,A4,1,89,4,A4,6,89,1,A4,1,89,1,A4,8,89,6,A4,A,89,2,A4,3,89,C,A4,3A,",
  "9C,4,A4,1,18,1C,9C,25,A4,2,49,1,A4,1,49,1,A4,5,49,1,A4,18,49,1,A4,1,49,1,A4,17,49,2,A4,5,49,",
  "1,A4,1,49,1,A4,7,49,1,A4,A,49,2,A4,4,49,20,A4,48,9D,1,A4,24,9D,4,A4,27,9D,1,A4,24,9D,1,A4,F,",
  "9D,1,A4,7,9D,4,18,2,9D,25,A4,A0,63,26,28,1,A4,1,28,5,A4,1,28,2,A4,2B,28,1,18,4,28,100,32,49,",
  "26,1,A4,4,26,2,A4,7,26,1,A4,1,26,1,A4,4,26,2,A4,29,26,1,A4,4,26,2,A4,21,26,1,A4,4,26,2,A4,7,",
  "26,1,A4,1,26,1,A4,4,26,2,A4,F,26,1,A4,39,26,1,A4,4,26,2,A4,43,26,2,A4,20,26,3,A4,1A,26,6,A4,",
  "56,16,2,A4,6,16,2,A4,280,11,1D,6C,3,A4,4B,82,3,18,B,82,7,A4,16,91,9,A4,1,91,15,34,2,18,9,A4,",
  "14,10,C,A4,D,92,1,A4,3,92,1,A4,2,92,C,A4,5E,45,2,A4,A,45,6,A4,A,45,6,A4,2,60,2,18,1,60,1,18,",
  "14,60,6,A4,59,60,7,A4,2B,60,5,A4,46,11,A,A4,1F,4C,1,A4,C,4C,4,A4,C,4C,4,A4,1,4C,3,A4,C,4C,1E,",
  "93,2,A4,5,93,B,A4,2C,67,4,A4,1A,67,6,A4,B,67,3,A4,2,67,20,45,1C,F,2,A4,2,F,3F,94,1,A4,1D,94,",
  "2,A4,B,94,6,A4,A,94,6,A4,E,94,2,A4,1F,39,31,A4,4D,6,1,A4,32,6,40,8D,34,9,8,A4,4,9,38,4B,3,A4,",
  "F,4B,3,A4,3,4B,30,6D,B,1D,5,A4,2B,28,2,A4,3,28,8,8D,8,A4,3,39,1,18,D,39,1,18,7,39,4,18,1,39,",
  "6,18,1,39,3,18,2,39,1,18,5,A4,26,4A,5,2C,1,1D,31,4A,5,2C,4,4A,5,2C,D,4A,1,1D,46,4A,1,2C,40,",
  "39,100,4A,16,2C,2,A4,6,2C,2,A4,26,2C,2,A4,6,2C,2,A4,8,2C,1,A4,1,2C,1,A4,1,2C,1,A4,1,2C,1,A4,",
  "1F,2C,2,A4,35,2C,1,A4,F,2C,1,A4,E,2C,2,A4,6,2C,1,A4,13,2C,2,A4,3,2C,1,A4,9,2C,1,A4,C,18,2,39,",
  "57,18,1,A4,B,18,1,4A,2,A4,B,18,1,4A,F,18,1,A4,D,4A,3,A4,21,18,F,A4,21,39,F,A4,26,18,1,2C,3,",
  "18,2,4A,6,18,1,4A,1B,18,1,4A,11,18,29,4A,3,18,4,A4,29A,18,16,A4,B,18,15,A4,3A0,18,100,E,274,",
  "18,2,A4,20,18,1,A4,69,18,60,29,20,4A,74,19,5,A4,7,19,26,28,1,A4,1,28,5,A4,1,28,2,A4,38,9E,7,",
  "A4,2,9E,E,A4,1,9E,17,26,9,A4,7,26,1,A4,7,26,1,A4,7,26,1,A4,7,26,1,A4,7,26,1,A4,7,26,1,A4,7,",
  "26,1,A4,7,26,1,A4,20,1D,5E,18,22,A4,1A,31,1,A4,59,31,C,A4,D6,31,1A,A4,15,18,1,31,1,18,1,31,",
  "19,18,9,31,4,39,2,32,8,18,4,31,4,18,1,A4,56,37,2,A4,2,39,2,18,3,37,1,18,5A,3F,2,18,3,3F,5,A4,",
  "2B,C,1,A4,5E,32,1,A4,10,18,20,C,26,18,9,A4,1,18,10,3F,1F,32,1,A4,40,18,1F,32,51,18,2F,3F,1,",
  "18,58,3F,A8,18,19C0,31,40,18,5200,31,48D,AA,3,A4,37,AA,9,A4,30,4F,12C,A5,14,A4,60,1D,58,7,8,",
  "A4,22,18,66,4A,3,18,43,4A,2,A4,2,4A,1,A4,1,4A,1,A4,8,4A,15,A4,E,4A,2D,8F,3,A4,A,18,6,A4,38,",
  "7E,8,A4,46,84,8,A4,C,84,6,A4,20,1F,2E,42,1,18,1,42,24,81,B,A4,1,81,1D,32,3,A4,4E,3C,1,A4,1,",
  "18,A,3C,4,A4,2,3C,1F,63,1,A4,37,15,9,A4,E,15,2,A4,A,15,2,A4,4,15,20,63,43,95,18,A4,5,95,17,",
  "5A,A,A4,6,26,2,A4,6,26,2,A4,6,26,9,A4,7,26,1,A4,7,26,1,A4,2B,4A,1,18,9,4A,1,2C,4,4A,2,18,4,",
  "A4,50,16,2E,5A,2,A4,A,5A,6,A4,2BA4,32,C,A4,17,32,4,A4,31,32,2104,A4,16E,31,2,A4,6A,31,26,A4,",
  "7,4A,C,A4,5,4,5,A4,1A,36,1,A4,5,36,1,A4,1,36,1,A4,2,36,1,A4,2,36,1,A4,A,36,73,3,10,A4,16B,3,",
  "2,18,50,3,2,A4,36,3,7,A4,1,3,20,A4,10,3,10,39,A,18,6,A4,E,39,2,1D,23,18,1,A4,13,18,1,A4,4,18,",
  "4,A4,5,3,1,A4,87,3,2,A4,1,18,1,A4,20,18,1A,4A,6,18,1A,4A,B,18,A,3F,1,18,2D,3F,2,18,1F,32,3,",
  "A4,6,32,2,A4,6,32,2,A4,6,32,2,A4,3,32,3,A4,7,18,1,A4,7,18,A,A4,5,18,2,A4,C,4E,1,A4,1A,4E,1,",
  "A4,13,4E,1,A4,2,4E,1,A4,F,4E,2,A4,E,4E,22,A4,7B,4E,5,A4,3,18,4,A4,2D,18,3,A4,9,18,4F,2C,1,A4,",
  "D,18,3,A4,1,2C,2F,A4,2D,18,1,39,82,A4,1D,50,3,A4,31,12,F,A4,1,39,1B,18,4,A4,24,70,9,A4,3,70,",
  "1B,2A,5,A4,2B,72,5,A4,1E,A3,1,A4,1,A3,24,73,4,A4,E,73,2A,A4,50,1E,30,86,1E,7A,2,A4,A,7A,6,A4,",
  "24,79,4,A4,24,79,4,A4,28,24,8,A4,34,13,B,A4,1,13,B,A6,1,A4,F,A6,1,A4,7,A6,1,A4,2,A6,1,A4,B,",
  "A6,1,A4,F,A6,1,A4,7,A6,1,A4,2,A6,3,A4,34,A0,C,A4,137,4D,9,A4,16,4D,A,A4,8,4D,18,A4,6,4A,1,A4,",
  "2A,4A,1,A4,9,4A,45,A4,6,1B,2,A4,1,1B,1,A4,2C,1B,1,A4,2,1B,3,A4,1,1B,2,A4,1,1B,16,38,1,A4,9,",
  "38,20,7C,1F,64,8,A4,9,64,30,A4,13,35,1,A4,2,35,5,A4,5,35,1C,7F,3,A4,1,7F,1A,51,5,A4,1,51,40,",
  "A4,20,5D,18,5C,4,A4,14,5C,2,A4,2E,5C,4,43,1,A4,2,43,5,A4,8,43,1,A4,3,43,1,A4,1D,43,2,A4,3,43,",
  "4,A4,A,43,7,A4,9,43,7,A4,20,75,20,71,20,A4,27,56,4,A4,C,56,9,A4,36,5,3,A4,7,5,16,3B,2,A4,8,",
  "3B,13,3A,5,A4,8,3A,12,80,7,A4,4,80,C,A4,7,80,50,A4,49,76,37,A4,33,6F,D,A4,33,6F,7,A4,6,6F,28,",
  "33,8,A4,A,33,6,A4,26,27,3,A4,1D,27,8,A4,2,27,D0,A4,1F,3,1,A4,2A,A9,1,A4,3,A9,2,A4,2,A9,10,A4,",
  "3,3,37,A4,4,3,28,74,8,A4,2A,8A,16,A4,1A,77,26,A4,1C,17,14,A4,17,25,9,A4,4E,D,4,A4,24,D,9,A4,",
  "1,D,43,3D,A,A4,1,3D,2,A4,19,8B,7,A4,A,8B,6,A4,35,14,1,A4,12,14,8,A4,27,52,9,A4,60,85,1,A4,14,",
  "89,B,A4,12,46,1,A4,2F,46,3E,A4,7,62,1,A4,1,62,1,A4,4,62,1,A4,F,62,1,A4,B,62,6,A4,3B,47,5,A4,",
  "A,47,6,A4,4,2B,1,A4,8,2B,2,A4,2,2B,2,A4,16,2B,1,A4,7,2B,1,A4,2,2B,1,A4,5,2B,1,A4,1,39,9,2B,2,",
  "A4,2,2B,2,A4,3,2B,2,A4,1,2B,6,A4,1,2B,5,A4,7,2B,2,A4,7,2B,3,A4,5,2B,B,A4,A,A2,1,A4,1,A2,2,A4,",
  "1,A2,1,A4,26,A2,1,A4,A,A2,1,A4,1,A2,2,A4,1,A2,1,A4,4,A2,1,A4,A,A2,1,A4,2,A2,8,A4,2,A2,1D,A4,",
  "5C,68,1,A4,5,68,1E,A4,48,9F,8,A4,A,9F,A6,A4,36,87,2,A4,26,87,22,A4,45,5F,B,A4,A,5F,6,A4,D,60,",
  "13,A4,3A,96,6,A4,A,96,6,A4,14,63,1C,A4,1B,1,2,A4,F,1,4,A4,17,1,B9,A4,3C,21,64,A4,53,A8,C,A4,",
  "1,A8,7,20,2,A4,1,20,2,A4,8,20,1,A4,2,20,1,A4,1E,20,1,A4,2,20,2,A4,C,20,9,A4,A,20,46,A4,8,66,",
  "2,A4,2E,66,2,A4,B,66,1B,A4,48,AB,8,A4,53,8C,D,A4,10,11,39,7D,7,A4,A,1F,B6,A4,22,8E,E,A4,A,8E,",
  "6,A4,9,B,1,A4,2D,B,1,A4,E,B,A,A4,1D,B,3,A4,20,57,2,A4,16,57,1,A4,E,57,49,A4,7,58,1,A4,2,58,1,",
  "A4,2C,58,3,A4,1,58,1,A4,2,58,1,A4,9,58,8,A4,A,58,6,A4,6,2E,1,A4,2,2E,1,A4,25,2E,1,A4,2,2E,1,",
  "A4,6,2E,7,A4,A,2E,136,A4,19,53,7,A4,11,41,1,A4,29,41,3,A4,1D,41,55,A4,1,4F,F,A4,32,97,D,A4,1,",
  "97,39A,1A,66,A4,6F,1A,1,A4,5,1A,B,A4,C4,1A,A4C,A4,63,1C,D,A4,456,23,A,A4,F9B,23,5,A4,247,2,",
  "1AB9,A4,3A,30,6C6,A4,239,7,7,A4,1F,61,1,A4,A,61,4,A4,2,61,4F,98,1,A4,A,98,6,A4,1E,8,2,A4,6,8,",
  "A,A4,46,7B,A,A4,A,7B,1,A4,7,7B,1,A4,15,7B,5,A4,13,7B,1B0,A4,3A,48,C6,A4,5B,59,65,A4,4B,5E,4,",
  "A4,39,5E,7,A4,11,5E,40,A4,1,99,1,6A,2,31,1,44,B,A4,2,31,E,A4,17F8,99,8,A4,300,99,1D6,44,29,",
  "A4,1,44,9,99,22E7,A4,4,3F,1,A4,7,3F,1,A4,2,3F,1,A4,1,3F,11F,37,3,3F,F,A4,1,37,1D,A4,3,37,2,",
  "A4,1,3F,E,A4,4,3F,8,A4,18C,6A,904,A4,6B,22,5,A4,D,22,3,A4,9,22,7,A4,A,22,2,A4,4,22,4,18,F5C,",
  "A4,FA,18,6,A4,1B4,18,4C,A4,2E,39,2,A4,17,39,9,A4,74,18,3C,A4,F6,18,A,A4,27,18,2,A4,3E,18,3,",
  "39,11,18,8,39,2,18,7,39,1E,18,4,39,3D,18,15,A4,46,2C,7A,A4,14,18,C,A4,14,18,C,A4,57,18,9,A4,",
  "19,18,87,A4,55,18,1,A4,47,18,1,A4,2,18,2,A4,1,18,2,A4,2,18,2,A4,4,18,1,A4,C,18,1,A4,1,18,1,",
  "A4,7,18,1,A4,41,18,1,A4,4,18,2,A4,8,18,1,A4,7,18,1,A4,1C,18,1,A4,4,18,1,A4,5,18,1,A4,1,18,3,",
  "A4,7,18,1,A4,154,18,2,A4,124,18,2,A4,32,18,28C,88,F,A4,5,88,1,A4,F,88,450,A4,1F,4A,6,A4,6,4A,",
  "D5,A4,7,29,1,A4,11,29,2,A4,7,29,1,A4,2,29,1,A4,5,29,5,A4,3E,1D,21,A4,1,1D,70,A4,2D,6B,3,A4,E,",
  "6B,2,A4,A,6B,4,A4,2,6B,140,A4,1F,A1,11,A4,3A,A7,5,A4,1,A7,1D0,A4,2A,65,D6,A4,2B,6E,4,A4,1,6E,",
  "1E0,A4,7,26,1,A4,4,26,1,A4,2,26,1,A4,F,26,1,A4,C5,5B,2,A4,10,5B,29,A4,4C,0,4,A4,A,0,4,A4,2,0,",
  "311,A4,44,18,4C,A4,3D,18,C2,A4,4,3,1,A4,1B,3,1,A4,2,3,1,A4,1,3,2,A4,1,3,1,A4,A,3,1,A4,4,3,1,",
  "A4,1,3,1,A4,1,3,6,A4,1,3,4,A4,1,3,1,A4,1,3,1,A4,1,3,1,A4,3,3,1,A4,2,3,1,A4,1,3,2,A4,1,3,1,A4,",
  "1,3,1,A4,1,3,1,A4,1,3,1,A4,1,3,1,A4,2,3,1,A4,1,3,2,A4,4,3,1,A4,7,3,1,A4,4,3,1,A4,4,3,1,A4,1,",
  "3,1,A4,A,3,1,A4,11,3,5,A4,3,3,1,A4,5,3,1,A4,11,3,34,A4,2,3,10E,A4,2C,18,4,A4,64,18,C,A4,F,18,",
  "2,A4,F,18,1,A4,F,18,1,A4,25,18,A,A4,AE,18,38,A4,1A,18,1,37,2,18,D,A4,2C,18,4,A4,9,18,7,A4,2,",
  "18,E,A4,6,18,9A,A4,3D8,18,4,A4,11,18,3,A4,D,18,3,A4,77,18,4,A4,5F,18,6,A4,C,18,4,A4,1,18,F,",
  "A4,C,18,4,A4,38,18,8,A4,A,18,6,A4,28,18,8,A4,1E,18,2,A4,C,18,4,A4,2,18,3E,A4,154,18,C,A4,E,",
  "18,2,A4,D,18,3,A4,A,18,5,A4,38,18,7,A4,F,18,2,A4,B,18,6,A4,9,18,7,A4,93,18,1,A4,66,18,406,A4,",
  "A6E0,31,20,A4,103A,31,6,A4,DE,31,2,A4,1682,31,E,A4,1D31,31,F,A4,26E,31,9A2,A4,21E,31,5E2,A4,",
  "134B,31,5,A4,1060,31,ADC51,A4,1,18,1E,A4,60,18,80,A4,F0,39,2FE10,A4"]

/-- The script extensions of every code point, as runs of positions in the sets of
`extensionSetsText`. -/
def extensionRunsText : String :=
  String.join [
  "41,0,1A,1,6,0,1A,1,2F,0,1,1,C,0,1,2,2,0,1,1,5,0,17,1,1,0,1F,1,1,0,1C1,1,3,0,1,3,A,0,1,4,1,0,",
  "3,4,1,0,1,5,9,0,1,6,1,0,1,4,6,0,5,1,5,0,2,7,14,0,1,8,1,9,1,A,1,B,1,C,1,D,1,E,1,F,1,10,1,11,1,",
  "12,1,13,1,14,1,15,1,16,1,17,1,15,1,18,1,17,1,19,F,17,1,1A,1,1B,1,1C,7,17,1,1D,1,1C,1,17,1,1E,",
  "1,1F,10,17,1,20,2,17,1,20,12,17,1,21,5,17,1,22,4,17,D,1,4,20,2,23,2,20,2,24,4,20,1,0,1,20,4,",
  "24,1,20,1,0,1,20,1,0,3,20,1,24,1,20,1,24,14,20,1,24,3F,20,E,25,10,20,83,26,1,27,1,28,2,29,1,",
  "28,A8,26,1,24,26,2A,2,24,30,2A,1,2B,1,2A,2,24,3,2A,1,24,37,2C,8,24,1B,2C,4,24,6,2C,B,24,5,2D,",
  "1,0,6,2D,1,2E,E,2D,1,2E,1,2F,2,2D,1,30,20,2D,1,31,A,2D,B,32,A,2D,A,33,6,2D,1,32,63,2D,1,34,8,",
  "2D,1,0,22,2D,E,35,1,24,3C,35,2,24,3,35,30,2D,32,36,E,24,3B,37,2,24,3,37,2E,38,2,24,F,38,1,24,",
  "1C,39,2,24,1,39,1,24,B,35,5,24,1F,2D,1,24,2,2D,5,24,4B,2D,1,0,1D,2D,51,3A,1,3B,1,3C,2,17,F,",
  "3A,1,3D,1,3E,A,3F,10,3A,4,40,1,24,8,40,2,24,2,40,2,24,16,40,1,24,7,40,1,24,1,40,3,24,4,40,2,",
  "24,9,40,2,24,2,40,2,24,4,40,8,24,1,40,4,24,2,40,1,24,5,40,2,24,A,41,F,40,2,24,3,42,1,24,6,42,",
  "4,24,2,42,2,24,16,42,1,24,7,42,1,24,2,42,1,24,2,42,1,24,2,42,2,24,1,42,1,24,5,42,4,24,2,42,2,",
  "24,3,42,3,24,1,42,7,24,4,42,1,24,1,42,7,24,A,43,7,42,A,24,3,44,1,24,9,44,1,24,3,44,1,24,16,",
  "44,1,24,7,44,1,24,2,44,1,24,5,44,2,24,A,44,1,24,3,44,1,24,3,44,2,24,1,44,F,24,4,44,2,24,A,45,",
  "2,44,7,24,7,44,1,24,3,46,1,24,8,46,2,24,2,46,2,24,16,46,1,24,7,46,1,24,2,46,1,24,5,46,2,24,9,",
  "46,2,24,2,46,2,24,3,46,7,24,3,46,4,24,2,46,1,24,5,46,2,24,12,46,A,24,2,47,1,24,6,47,3,24,3,",
  "47,1,24,4,47,3,24,2,47,1,24,1,47,1,24,2,47,3,24,2,47,3,24,3,47,3,24,C,47,4,24,5,47,3,24,3,47,",
  "1,24,4,47,2,24,1,47,6,24,1,47,E,24,E,48,7,47,5,24,D,49,1,24,3,49,1,24,17,49,1,24,10,49,2,24,",
  "9,49,1,24,3,49,1,24,4,49,7,24,2,49,1,24,3,49,2,24,1,49,2,24,4,49,2,24,A,49,7,24,9,49,D,4A,1,",
  "24,3,4A,1,24,17,4A,1,24,A,4A,1,24,5,4A,2,24,9,4A,1,24,3,4A,1,24,4,4A,7,24,2,4A,6,24,2,4A,1,",
  "24,4,4A,2,24,A,4B,1,24,3,4A,C,24,D,4C,1,24,3,4C,1,24,33,4C,1,24,3,4C,1,24,6,4C,4,24,10,4C,2,",
  "24,1A,4C,1,24,3,4D,1,24,12,4D,3,24,18,4D,1,24,9,4D,1,24,1,4D,2,24,7,4D,3,24,1,4D,4,24,6,4D,1,",
  "24,1,4D,1,24,8,4D,6,24,A,4D,2,24,3,4D,C,24,3A,4E,4,24,1,0,1C,4E,25,24,2,4F,1,24,1,4F,1,24,5,",
  "4F,1,24,18,4F,1,24,1,4F,1,24,17,4F,2,24,5,4F,1,24,1,4F,1,24,7,4F,1,24,A,4F,2,24,4,4F,20,24,",
  "48,50,1,24,24,50,4,24,27,50,1,24,24,50,1,24,F,50,1,24,7,50,4,0,2,50,25,24,40,51,A,52,56,51,",
  "26,53,1,24,1,53,5,24,1,53,2,24,2B,53,1,54,4,53,100,55,49,56,1,24,4,56,2,24,7,56,1,24,1,56,1,",
  "24,4,56,2,24,29,56,1,24,4,56,2,24,21,56,1,24,4,56,2,24,7,56,1,24,1,56,1,24,4,56,2,24,F,56,1,",
  "24,39,56,1,24,4,56,2,24,43,56,2,24,20,56,3,24,1A,56,6,24,56,57,2,24,6,57,2,24,280,58,1D,59,3,",
  "24,59,5A,7,24,16,5B,9,24,1,5B,15,5C,2,5D,9,24,14,5E,C,24,D,5F,1,24,3,5F,1,24,2,5F,C,24,5E,60,",
  "2,24,A,60,6,24,A,60,6,24,2,61,2,62,1,61,1,62,14,61,6,24,59,61,7,24,2B,61,5,24,46,58,A,24,1F,",
  "63,1,24,C,63,4,24,C,63,4,24,1,63,3,24,C,63,1E,64,2,24,5,64,B,24,2C,65,4,24,1A,65,6,24,B,65,3,",
  "24,2,65,20,60,1C,66,2,24,2,66,3F,67,1,24,1D,67,2,24,B,67,6,24,A,67,6,24,E,67,2,24,1F,17,31,",
  "24,4D,68,1,24,32,68,40,69,34,6A,8,24,4,6A,38,6B,3,24,F,6B,3,24,3,6B,30,6C,B,26,5,24,2B,53,2,",
  "24,3,53,8,69,8,24,1,6D,1,3A,1,6D,1,6E,1,3A,1,6F,1,70,1,71,1,72,1,73,1,74,1,3A,2,73,2,3A,1,73,",
  "1,75,1,76,6,3A,1,77,1,78,1,79,1,3A,1,7A,4,3A,1,7B,1,7C,1,7D,2,75,1,40,2,7C,1,7E,5,24,26,1,5,",
  "20,1,26,31,1,5,20,4,1,5,20,D,1,1,26,46,1,3,20,36,17,1,7F,1,17,1,35,5,17,100,1,16,20,2,24,6,",
  "20,2,24,26,20,2,24,6,20,2,24,8,20,1,24,1,20,1,24,1,20,1,24,1,20,1,24,1F,20,2,24,35,20,1,24,F,",
  "20,1,24,E,20,2,24,6,20,1,24,13,20,2,24,3,20,1,24,9,20,1,24,C,0,2,17,21,0,1,80,1F,0,1,81,A,0,",
  "1,82,2,0,1,83,7,0,1,24,B,0,1,1,2,24,B,0,1,1,F,0,1,24,D,1,3,24,21,0,F,24,20,17,1,84,F,24,26,0,",
  "1,20,3,0,2,1,6,0,1,1,1B,0,1,1,11,0,29,1,3,0,4,24,29A,0,16,24,B,0,15,24,3A0,0,100,85,274,0,2,",
  "24,20,0,1,24,69,0,60,86,20,1,74,25,5,24,7,25,26,53,1,24,1,53,5,24,1,53,2,24,38,87,7,24,2,87,",
  "E,24,1,87,17,56,9,24,7,56,1,24,7,56,1,24,7,56,1,24,7,56,1,24,7,56,1,24,7,56,1,24,7,56,1,24,7,",
  "56,1,24,20,26,17,0,1,88,18,0,1,89,1,8A,A,0,1,8B,4,0,1,8C,1,0,1,28,1A,0,22,24,1A,8D,1,24,59,",
  "8D,C,24,D6,8D,1A,24,10,8E,1,0,1,8F,1,90,1,91,1,0,3,8D,2,92,2,93,6,94,1,0,1,91,8,94,4,91,1,0,",
  "9,8D,4,95,2,55,1,91,5,96,1,0,1,91,4,8D,2,97,2,8D,1,24,56,98,2,24,4,96,3,98,1,96,5A,99,1,94,1,",
  "96,3,99,5,24,2B,7,1,24,5E,55,1,24,10,8D,20,7,26,8D,9,24,1,8E,10,99,1F,55,1,24,28,8D,18,0,1F,",
  "55,1,0,31,8D,F,0,C,8D,4,0,2F,99,1,8D,58,99,19,8D,A,0,5,8D,60,0,1F,8D,1,0,19C0,8D,40,0,5200,",
  "8D,48D,9A,3,24,37,9A,9,24,30,9B,12C,9C,14,24,2F,26,1,28,30,26,58,9D,8,24,8,9E,1A,0,66,1,3,0,",
  "43,1,2,24,2,1,1,24,1,1,1,24,8,1,15,24,E,1,2D,9F,3,24,3,A0,3,A1,2,A2,1,A3,1,A2,6,24,38,A4,8,",
  "24,46,A5,8,24,C,A5,6,24,11,3A,1,A6,1,3A,1,A7,C,3A,2E,A8,1,A9,1,A8,24,AA,B,24,1,AA,1D,55,3,24,",
  "4E,AB,1,24,1,AC,A,AB,4,24,2,AB,1F,51,1,24,37,AD,9,24,E,AD,2,24,A,AD,2,24,4,AD,20,51,43,AE,18,",
  "24,5,AE,17,AF,A,24,6,56,2,24,6,56,2,24,6,56,9,24,7,56,1,24,7,56,1,24,2B,1,1,0,9,1,1,20,4,1,2,",
  "0,4,24,50,57,2E,AF,2,24,A,AF,6,24,2BA4,55,C,24,17,55,4,24,31,55,2104,24,16E,8D,2,24,6A,8D,26,",
  "24,7,1,C,24,5,2A,5,24,1A,2C,1,24,5,2C,1,24,1,2C,1,24,2,2C,1,24,2,2C,1,24,A,2C,73,2D,10,24,",
  "16B,2D,2,B0,50,2D,2,24,36,2D,7,24,1,2D,20,24,2,2D,1,B1,A,2D,1,B1,2,2D,10,17,A,0,6,24,E,17,2,",
  "26,15,0,2,91,C,0,1,24,13,0,1,24,4,0,4,24,5,2D,1,24,87,2D,2,24,1,0,1,24,20,0,1A,1,6,0,1A,1,6,",
  "0,5,94,A,99,1,96,2D,99,2,96,1F,55,3,24,6,55,2,24,6,55,2,24,6,55,2,24,3,55,3,24,7,0,1,24,7,0,",
  "A,24,5,0,2,24,C,B2,1,24,1A,B2,1,24,13,B2,1,24,2,B2,1,24,F,B2,2,24,E,B2,22,24,7B,B2,5,24,2,B3,",
  "1,B4,4,24,2D,B5,3,24,9,B4,4F,20,1,24,D,0,3,24,1,20,2F,24,2D,0,1,17,82,24,1D,B6,3,24,31,B7,F,",
  "24,1C,B8,4,24,24,B9,9,24,3,B9,1B,BA,5,24,2B,BB,5,24,1E,BC,1,24,1,BC,24,BD,4,24,E,BD,2A,24,50,",
  "BE,30,BF,1E,C0,2,24,A,C0,6,24,24,C1,4,24,24,C1,4,24,28,C2,8,24,34,C3,B,24,1,C3,B,C4,1,24,F,",
  "C4,1,24,7,C4,1,24,2,C4,1,24,B,C4,1,24,F,C4,1,24,7,C4,1,24,2,C4,3,24,34,C5,C,24,137,C6,9,24,",
  "16,C6,A,24,8,C6,18,24,6,1,1,24,2A,1,1,24,9,1,45,24,6,C7,2,24,1,C7,1,24,2C,C7,1,24,2,C7,3,24,",
  "1,C7,2,24,1,C7,16,C8,1,24,9,C8,20,C9,1F,CA,8,24,9,CA,30,24,13,CB,1,24,2,CB,5,24,5,CB,1C,CC,3,",
  "24,1,CC,1A,CD,5,24,1,CD,40,24,20,CE,18,CF,4,24,14,CF,2,24,2E,CF,4,D0,1,24,2,D0,5,24,8,D0,1,",
  "24,3,D0,1,24,1D,D0,2,24,3,D0,4,24,A,D0,7,24,9,D0,7,24,20,D1,20,D2,20,24,27,D3,4,24,7,D3,1,D4,",
  "4,D3,9,24,36,D5,3,24,7,D5,16,D6,2,24,8,D6,13,D7,5,24,8,D7,12,D8,7,24,4,D8,C,24,7,D8,50,24,49,",
  "D9,37,24,33,DA,D,24,33,DA,7,24,6,DA,28,DB,8,24,A,DB,6,24,26,DC,3,24,1D,DC,8,24,2,DC,D0,24,1F,",
  "2D,1,24,2A,DD,1,24,3,DD,2,24,2,DD,10,24,3,2D,37,24,4,2D,28,DE,8,24,2A,DF,16,24,1A,E0,26,24,",
  "1C,E1,14,24,17,E2,9,24,4E,E3,4,24,24,E3,9,24,1,E3,43,E4,A,24,1,E4,2,24,19,E5,7,24,A,E5,6,24,",
  "35,E6,1,24,12,E6,8,24,27,E7,9,24,60,E8,1,24,14,4D,B,24,12,E9,1,24,2F,E9,3E,24,7,EA,1,24,1,EA,",
  "1,24,4,EA,1,24,F,EA,1,24,B,EA,6,24,3B,EB,5,24,A,EB,6,24,1,EC,1,48,1,EC,1,48,1,24,8,EC,2,24,2,",
  "EC,2,24,16,EC,1,24,7,EC,1,24,2,EC,1,24,5,EC,1,24,2,48,8,EC,2,24,2,EC,2,24,3,EC,2,24,1,EC,6,",
  "24,1,EC,5,24,7,EC,2,24,7,EC,3,24,5,EC,B,24,A,ED,1,24,1,ED,2,24,1,ED,1,24,26,ED,1,24,A,ED,1,",
  "24,1,ED,2,24,1,ED,1,24,4,ED,1,24,A,ED,1,24,2,ED,8,24,2,ED,1D,24,5C,EE,1,24,5,EE,1E,24,48,EF,",
  "8,24,A,EF,A6,24,36,F0,2,24,26,F0,22,24,45,F1,B,24,A,F1,6,24,D,61,13,24,3A,F2,6,24,A,F2,6,24,",
  "14,51,1C,24,1B,F3,2,24,F,F3,4,24,17,F3,B9,24,3C,F4,64,24,53,F5,C,24,1,F5,7,F6,2,24,1,F6,2,24,",
  "8,F6,1,24,2,F6,1,24,1E,F6,1,24,2,F6,2,24,C,F6,9,24,A,F6,46,24,8,7E,2,24,2E,7E,2,24,B,7E,1B,",
  "24,48,F7,8,24,53,F8,D,24,10,58,39,F9,7,24,A,3A,B6,24,22,FA,E,24,A,FA,6,24,9,FB,1,24,2D,FB,1,",
  "24,E,FB,A,24,1D,FB,3,24,20,FC,2,24,16,FC,1,24,E,FC,49,24,7,FD,1,24,2,FD,1,24,2C,FD,3,24,1,FD,",
  "1,24,2,FD,1,24,9,FD,8,24,A,FD,6,24,6,FE,1,24,2,FE,1,24,25,FE,1,24,2,FE,1,24,6,FE,7,24,A,FE,",
  "136,24,19,FF,7,24,11,100,1,24,29,100,3,24,1D,100,55,24,1,9B,F,24,10,47,2,48,1,47,1,48,1E,47,",
  "D,24,1,47,39A,101,66,24,6F,101,1,24,5,101,B,24,C4,101,A4C,24,63,102,D,24,456,103,A,24,F9B,",
  "103,5,24,247,104,1AB9,24,3A,105,6C6,24,239,9D,7,24,1F,106,1,24,A,106,4,24,2,106,4F,107,1,24,",
  "A,107,6,24,1E,108,2,24,6,108,A,24,46,109,A,24,A,109,1,24,7,109,1,24,15,109,5,24,13,109,1B0,",
  "24,3A,10A,C6,24,5B,10B,65,24,4B,10C,4,24,39,10C,7,24,11,10C,40,24,1,10D,1,10E,2,8D,1,10F,B,",
  "24,2,8D,E,24,17F8,10D,8,24,300,10D,1D6,10F,29,24,1,10F,9,10D,22E7,24,4,99,1,24,7,99,1,24,2,",
  "99,1,24,1,99,11F,98,3,99,F,24,1,98,1D,24,3,98,2,24,1,99,E,24,4,99,8,24,18C,10E,904,24,6B,8B,",
  "5,24,D,8B,3,24,9,8B,7,24,A,8B,2,24,8,8B,F5C,24,FA,0,6,24,1B4,0,4C,24,2E,17,2,24,17,17,9,24,",
  "74,0,3C,24,F6,0,A,24,27,0,2,24,3E,0,3,17,11,0,8,17,2,0,7,17,1E,0,4,17,3D,0,15,24,46,20,7A,24,",
  "14,0,C,24,14,0,C,24,57,0,9,24,12,8D,7,0,87,24,55,0,1,24,47,0,1,24,2,0,2,24,1,0,2,24,2,0,2,24,",
  "4,0,1,24,C,0,1,24,1,0,1,24,7,0,1,24,41,0,1,24,4,0,2,24,8,0,1,24,7,0,1,24,1C,0,1,24,4,0,1,24,",
  "5,0,1,24,1,0,3,24,7,0,1,24,154,0,2,24,124,0,2,24,32,0,28C,110,F,24,5,110,1,24,F,110,450,24,",
  "1F,1,6,24,6,1,D5,24,7,86,1,24,11,86,2,24,7,86,1,24,2,86,1,24,5,86,5,24,3E,26,21,24,1,26,70,",
  "24,2D,111,3,24,E,111,2,24,A,111,4,24,2,111,140,24,1F,112,11,24,3A,113,5,24,1,113,1D0,24,2A,",
  "114,D6,24,2B,115,4,24,1,115,1E0,24,7,56,1,24,4,56,1,24,2,56,1,24,F,56,1,24,C5,116,2,24,10,",
  "116,29,24,4C,117,4,24,A,117,4,24,2,117,311,24,44,0,4C,24,3D,0,C2,24,4,2D,1,24,1B,2D,1,24,2,",
  "2D,1,24,1,2D,2,24,1,2D,1,24,A,2D,1,24,4,2D,1,24,1,2D,1,24,1,2D,6,24,1,2D,4,24,1,2D,1,24,1,2D,",
  "1,24,1,2D,1,24,3,2D,1,24,2,2D,1,24,1,2D,2,24,1,2D,1,24,1,2D,1,24,1,2D,1,24,1,2D,1,24,1,2D,1,",
  "24,2,2D,1,24,1,2D,2,24,4,2D,1,24,7,2D,1,24,4,2D,1,24,4,2D,1,24,1,2D,1,24,A,2D,1,24,11,2D,5,",
  "24,3,2D,1,24,5,2D,1,24,11,2D,34,24,2,2D,10E,24,2C,0,4,24,64,0,C,24,F,0,2,24,F,0,1,24,F,0,1,",
  "24,25,0,A,24,AE,0,38,24,1A,0,1,98,2,0,D,24,2C,0,4,24,9,0,7,24,2,8D,E,24,6,0,9A,24,3D8,0,4,24,",
  "11,0,3,24,D,0,3,24,77,0,4,24,5F,0,6,24,C,0,4,24,1,0,F,24,C,0,4,24,38,0,8,24,A,0,6,24,28,0,8,",
  "24,1E,0,2,24,C,0,4,24,2,0,3E,24,154,0,C,24,E,0,2,24,D,0,3,24,A,0,5,24,38,0,7,24,F,0,2,24,B,0,",
  "6,24,9,0,7,24,93,0,1,24,66,0,406,24,A6E0,8D,20,24,103A,8D,6,24,DE,8D,2,24,1682,8D,E,24,1D31,",
  "8D,F,24,26E,8D,9A2,24,21E,8D,5E2,24,134B,8D,5,24,1060,8D,ADC51,24,1,0,1E,24,60,0,80,24,F0,17,",
  "2FE10,24"]

/-- The sets of scripts that code points are used with, each as its size followed by positions
in `scripts`. -/
def extensionSetsText : String :=
  String.join [
  "1,18,1,4A,10,5,12,19,22,24,28,29,2A,2C,2E,31,4A,51,52,72,86,7,A,1D,1F,4A,4F,9C,A1,2,C,4A,2,",
  "4A,4F,2,4A,9C,1,C,8,16,19,1D,2C,4A,72,8E,93,8,16,1D,2C,4A,79,8E,93,A0,4,16,1D,4A,9E,5,29,4A,",
  "8E,90,9C,B,13,16,19,1D,2A,2C,4A,79,90,9E,A0,6,19,24,29,2A,3F,4A,5,1D,2C,4A,72,9E,9,19,22,36,",
  "4A,72,90,93,9E,A0,B,4,1D,22,2A,2C,36,4A,72,90,93,9E,2,4A,9E,3,22,4A,90,4,16,1D,4A,79,3,16,4A,",
  "93,2,4A,8E,2,26,4A,1,39,3,1D,4A,A0,4,2C,4A,72,A0,6,16,22,3F,4A,90,9E,4,16,22,4A,90,2,4A,90,3,",
  "4A,8E,90,3,16,4A,90,7,13,16,2A,4A,8E,90,9C,1,2C,2,4A,79,3,13,4A,A0,2,19,2C,1,A4,1,19,1,1D,2,",
  "1D,72,2,1D,29,2,1D,4A,1,4,3,4,28,29,1,36,1,3,7,3,27,33,69,90,9B,A9,3,3,90,9B,8,0,3,27,33,69,",
  "90,9B,A9,9,0,3,33,55,56,77,80,8A,90,2,3,90,3,3,9B,A9,2,3,33,1,90,1,9B,1,69,1,83,1,55,1,1F,F,",
  "A,1F,2B,2D,2F,3E,4A,54,66,68,78,85,97,9A,9F,D,A,1F,2B,2D,2F,3E,4A,54,68,78,97,9A,9F,15,A,1F,",
  "21,2B,2D,2E,2F,3E,47,52,54,58,66,6E,78,89,8F,96,97,9A,9F,17,A,1F,21,2B,2D,2E,2F,30,3E,47,4C,",
  "52,54,58,66,6E,78,89,8F,96,97,9A,9F,4,1F,21,3D,52,1,A,3,A,14,8F,1,2F,2,2F,62,1,2D,2,2D,46,1,",
  "78,1,97,2,2B,97,1,9A,1,3E,3,3E,66,A2,1,54,1,89,1,9C,1,49,1,9D,1,63,3,14,63,93,1,28,3,28,29,",
  "4A,1,32,1,26,1,16,1,11,1,6C,1,82,1,91,1,34,4,10,34,91,92,1,10,1,92,1,45,1,60,2,60,7E,1,4C,1,",
  "93,1,67,1,F,1,94,1,6,1,8D,1,9,1,4B,1,6D,4,A,1F,2B,3E,3,1F,2B,3E,5,A,1F,68,9A,9F,3,A,1F,9A,3,",
  "1F,68,85,4,A,1F,68,9A,2,1F,85,6,1F,3E,54,78,97,9A,2,A,1F,3,1F,68,9F,3,1F,66,68,3,A,1F,85,2,",
  "1F,68,4,A,1F,68,85,B,A,1F,2B,3E,54,66,78,89,9A,9F,A2,2,1F,2B,4,1F,2B,3E,A2,1,66,3,1D,4A,90,3,",
  "4A,60,7E,2,0,3,6,12,28,29,50,6F,76,4,12,2C,5D,6F,3,1F,2B,4A,1,E,1,29,1,9E,2,19,4A,2,5,76,7,5,",
  "12,28,3D,51,6F,83,1,22,3,0,3,6F,1,31,2,31,99,7,C,31,32,37,3F,60,AA,8,C,31,32,37,3F,60,7E,AA,",
  "5,C,31,32,37,3F,8,C,31,32,37,3F,60,9D,AA,9,C,31,32,37,3F,4F,60,9D,AA,6,C,31,32,37,3F,AA,2,C,",
  "31,2,37,3F,3,31,37,3F,1,37,1,3F,1,AA,1,4F,1,A5,1,7,2,31,4A,1,8F,10,1F,21,2D,2F,3D,3E,46,47,",
  "52,54,5F,66,85,96,9F,A2,F,1F,21,2D,2F,3D,3E,46,47,52,5F,66,85,96,9F,A2,B,1F,21,2D,2F,3D,46,",
  "47,52,5F,96,9F,C,1F,21,2D,2F,3D,46,47,52,5F,85,96,9F,1,7E,1,84,3,A,1F,A2,2,1F,97,1,42,3,42,",
  "4A,63,1,81,1,3C,2,F,3C,1,15,1,95,1,5A,2,3,69,2,3,9B,1,4E,3,1B,1C,4E,2,1B,4E,3,1B,4D,4E,1,50,",
  "1,12,2,3,19,1,70,1,2A,1,72,1,A3,1,73,1,1E,1,86,1,7A,1,79,1,24,1,13,1,A6,1,A0,1,4D,1,1B,1,38,",
  "1,7C,1,64,1,35,1,7F,1,51,1,5D,1,5C,1,43,1,75,1,71,1,56,2,56,77,1,5,1,3B,1,3A,1,80,1,76,1,6F,",
  "1,33,1,27,1,A9,1,74,1,8A,1,77,1,17,1,25,1,D,1,3D,1,8B,1,14,1,52,1,85,1,46,1,62,1,47,1,2B,1,",
  "A2,1,68,1,9F,1,87,1,5F,1,96,1,1,1,21,1,A8,1,20,1,AB,1,8C,1,7D,1,8E,1,B,1,57,1,58,1,2E,1,53,1,",
  "41,1,1A,1,1C,1,23,1,2,1,30,1,61,1,98,1,8,1,7B,1,48,1,59,1,5E,1,99,1,6A,1,44,1,88,1,6B,1,A1,1,",
  "A7,1,65,1,6E,1,5B,1,0"]

end BuildSpec.Unicode
