/-! The names of Unicode properties and of their values that patterns may use. -/

namespace ScriptLint.Regexp.Property

def categories : List String := [
  "C", "Cased_Letter", "Cc", "Cf", "Close_Punctuation", "Cn", "Co", "Combining_Mark",
  "Connector_Punctuation", "Control", "Cs", "Currency_Symbol", "Dash_Punctuation",
  "Decimal_Number", "Enclosing_Mark", "Final_Punctuation", "Format", "Initial_Punctuation", "L",
  "LC", "Letter", "Letter_Number", "Line_Separator", "Ll", "Lm", "Lo", "Lowercase_Letter", "Lt",
  "Lu", "M", "Mark", "Math_Symbol", "Mc", "Me", "Mn", "Modifier_Letter", "Modifier_Symbol", "N",
  "Nd", "Nl", "No", "Nonspacing_Mark", "Number", "Open_Punctuation", "Other", "Other_Letter",
  "Other_Number", "Other_Punctuation", "Other_Symbol", "P", "Paragraph_Separator", "Pc", "Pd",
  "Pe", "Pf", "Pi", "Po", "Private_Use", "Ps", "Punctuation", "S", "Sc", "Separator", "Sk", "Sm",
  "So", "Space_Separator", "Spacing_Mark", "Surrogate", "Symbol", "Titlecase_Letter", "Unassigned",
  "Uppercase_Letter", "Z", "Zl", "Zp", "Zs", "cntrl", "digit", "punct"]

def scripts : List String := [
  "Adlam", "Adlm", "Aghb", "Ahom", "Anatolian_Hieroglyphs", "Arab", "Arabic", "Armenian", "Armi",
  "Armn", "Avestan", "Avst", "Bali", "Balinese", "Bamu", "Bamum", "Bass", "Bassa_Vah", "Batak",
  "Batk", "Beng", "Bengali", "Berf", "Beria_Erfe", "Bhaiksuki", "Bhks", "Bopo", "Bopomofo", "Brah",
  "Brahmi", "Brai", "Braille", "Bugi", "Buginese", "Buhd", "Buhid", "Cakm", "Canadian_Aboriginal",
  "Cans", "Cari", "Carian", "Caucasian_Albanian", "Chakma", "Cham", "Cher", "Cherokee",
  "Chorasmian", "Chrs", "Common", "Copt", "Coptic", "Cpmn", "Cprt", "Cuneiform", "Cypriot",
  "Cypro_Minoan", "Cyrillic", "Cyrl", "Deseret", "Deva", "Devanagari", "Diak", "Dives_Akuru",
  "Dogr", "Dogra", "Dsrt", "Dupl", "Duployan", "Egyp", "Egyptian_Hieroglyphs", "Elba", "Elbasan",
  "Elym", "Elymaic", "Ethi", "Ethiopic", "Gara", "Garay", "Geor", "Georgian", "Glag", "Glagolitic",
  "Gong", "Gonm", "Goth", "Gothic", "Gran", "Grantha", "Greek", "Grek", "Gujarati", "Gujr", "Gukh",
  "Gunjala_Gondi", "Gurmukhi", "Guru", "Gurung_Khema", "Han", "Hang", "Hangul", "Hani",
  "Hanifi_Rohingya", "Hano", "Hanunoo", "Hatr", "Hatran", "Hebr", "Hebrew", "Hira", "Hiragana",
  "Hluw", "Hmng", "Hmnp", "Hung", "Imperial_Aramaic", "Inherited", "Inscriptional_Pahlavi",
  "Inscriptional_Parthian", "Ital", "Java", "Javanese", "Kaithi", "Kali", "Kana", "Kannada",
  "Katakana", "Kawi", "Kayah_Li", "Khar", "Kharoshthi", "Khitan_Small_Script", "Khmer", "Khmr",
  "Khoj", "Khojki", "Khudawadi", "Kirat_Rai", "Kits", "Knda", "Krai", "Kthi", "Lana", "Lao",
  "Laoo", "Latin", "Latn", "Lepc", "Lepcha", "Limb", "Limbu", "Lina", "Linb", "Linear_A",
  "Linear_B", "Lisu", "Lyci", "Lycian", "Lydi", "Lydian", "Mahajani", "Mahj", "Maka", "Makasar",
  "Malayalam", "Mand", "Mandaic", "Mani", "Manichaean", "Marc", "Marchen", "Masaram_Gondi",
  "Medefaidrin", "Medf", "Meetei_Mayek", "Mend", "Mende_Kikakui", "Merc", "Mero",
  "Meroitic_Cursive", "Meroitic_Hieroglyphs", "Miao", "Mlym", "Modi", "Mong", "Mongolian", "Mro",
  "Mroo", "Mtei", "Mult", "Multani", "Myanmar", "Mymr", "Nabataean", "Nag_Mundari", "Nagm", "Nand",
  "Nandinagari", "Narb", "Nbat", "New_Tai_Lue", "Newa", "Nko", "Nkoo", "Nshu", "Nushu",
  "Nyiakeng_Puachue_Hmong", "Ogam", "Ogham", "Ol_Chiki", "Ol_Onal", "Olck", "Old_Hungarian",
  "Old_Italic", "Old_North_Arabian", "Old_Permic", "Old_Persian", "Old_Sogdian",
  "Old_South_Arabian", "Old_Turkic", "Old_Uyghur", "Onao", "Oriya", "Orkh", "Orya", "Osage",
  "Osge", "Osma", "Osmanya", "Ougr", "Pahawh_Hmong", "Palm", "Palmyrene", "Pau_Cin_Hau", "Pauc",
  "Perm", "Phag", "Phags_Pa", "Phli", "Phlp", "Phnx", "Phoenician", "Plrd", "Prti",
  "Psalter_Pahlavi", "Qaac", "Qaai", "Rejang", "Rjng", "Rohg", "Runic", "Runr", "Samaritan",
  "Samr", "Sarb", "Saur", "Saurashtra", "Sgnw", "Sharada", "Shavian", "Shaw", "Shrd", "Sidd",
  "Siddham", "Sidetic", "Sidt", "SignWriting", "Sind", "Sinh", "Sinhala", "Sogd", "Sogdian",
  "Sogo", "Sora", "Sora_Sompeng", "Soyo", "Soyombo", "Sund", "Sundanese", "Sunu", "Sunuwar",
  "Sylo", "Syloti_Nagri", "Syrc", "Syriac", "Tagalog", "Tagb", "Tagbanwa", "Tai_Le", "Tai_Tham",
  "Tai_Viet", "Tai_Yo", "Takr", "Takri", "Tale", "Talu", "Tamil", "Taml", "Tang", "Tangsa",
  "Tangut", "Tavt", "Tayo", "Telu", "Telugu", "Tfng", "Tglg", "Thaa", "Thaana", "Thai", "Tibetan",
  "Tibt", "Tifinagh", "Tirh", "Tirhuta", "Tnsa", "Todhri", "Todr", "Tolong_Siki", "Tols", "Toto",
  "Tulu_Tigalari", "Tutg", "Ugar", "Ugaritic", "Unknown", "Vai", "Vaii", "Vith", "Vithkuqi",
  "Wancho", "Wara", "Warang_Citi", "Wcho", "Xpeo", "Xsux", "Yezi", "Yezidi", "Yi", "Yiii",
  "Zanabazar_Square", "Zanb", "Zinh", "Zyyy", "Zzzz"]

def binary : List String := [
  "ASCII", "AHex", "ASCII_Hex_Digit", "Alphabetic", "Alpha", "Any", "Assigned", "Bidi_Control",
  "Bidi_C", "Bidi_Mirrored", "Bidi_M", "Case_Ignorable", "CI", "Cased", "Changes_When_Casefolded",
  "CWCF", "Changes_When_Casemapped", "CWCM", "Changes_When_Lowercased", "CWL",
  "Changes_When_NFKC_Casefolded", "CWKCF", "Changes_When_Titlecased", "CWT",
  "Changes_When_Uppercased", "CWU", "Dash", "Default_Ignorable_Code_Point", "DI", "Deprecated",
  "Dep", "Diacritic", "Dia", "Emoji", "Emoji_Component", "EComp", "Emoji_Modifier", "EMod",
  "Emoji_Modifier_Base", "EBase", "Emoji_Presentation", "EPres", "Extended_Pictographic",
  "ExtPict", "Extender", "Ext", "Grapheme_Base", "Gr_Base", "Grapheme_Extend", "Gr_Ext",
  "Hex_Digit", "Hex", "IDS_Binary_Operator", "IDSB", "IDS_Trinary_Operator", "IDST", "ID_Continue",
  "IDC", "ID_Start", "IDS", "Ideographic", "Ideo", "Join_Control", "Join_C",
  "Logical_Order_Exception", "LOE", "Lowercase", "Lower", "Math", "Noncharacter_Code_Point",
  "NChar", "Pattern_Syntax", "Pat_Syn", "Pattern_White_Space", "Pat_WS", "Quotation_Mark", "QMark",
  "Radical", "Regional_Indicator", "RI", "Sentence_Terminal", "STerm", "Soft_Dotted", "SD",
  "Terminal_Punctuation", "Term", "Unified_Ideograph", "UIdeo", "Uppercase", "Upper",
  "Variation_Selector", "VS", "White_Space", "space", "XID_Continue", "XIDC", "XID_Start", "XIDS"]

/-- The properties that sequences of characters can have, where a pattern is about sets. -/
def ofStrings : List String := [
  "Basic_Emoji", "Emoji_Keycap_Sequence", "RGI_Emoji", "RGI_Emoji_Modifier_Sequence",
  "RGI_Emoji_Flag_Sequence", "RGI_Emoji_Tag_Sequence", "RGI_Emoji_ZWJ_Sequence"]

def isLone (name : String) : Bool := categories.contains name || binary.contains name

def hasValue (name value : String) : Bool :=
  if name = "General_Category" || name = "gc" then categories.contains value
  else if ["Script", "sc", "Script_Extensions", "scx"].contains name then scripts.contains value
  else false

end ScriptLint.Regexp.Property
