import LiveBuild.Pattern.CodeSet
import LiveBuild.Text.Unicode.Category
import LiveBuild.Text.Unicode.Property
import LiveBuild.Text.Unicode.Script
import LiveBuild.Text.Unicode.Word

/-!
# Named classes of characters

Properties, general categories and scripts, under their long and short names. Case, blanks, hyphens
and underscores in a name do not count, nor does a leading `is`.
-/

namespace LiveBuild.Pattern

open Unicode

def scriptNames : List (String × String) :=
  let rec group : List String → List (String × String)
    | short :: long :: rest => (short, long) :: group rest
    | _ => []
  group (words
    "adlm Adlam aghb Caucasian_Albanian arab Arabic armi Imperial_Aramaic armn Armenian avst Avestan
     bali Balinese bamu Bamum bass Bassa_Vah batk Batak beng Bengali bhks Bhaiksuki bopo Bopomofo
     brah Brahmi brai Braille bugi Buginese buhd Buhid cakm Chakma cans Canadian_Aboriginal
     cari Carian cher Cherokee chrs Chorasmian copt Coptic cpmn Cypro_Minoan cprt Cypriot
     cyrl Cyrillic deva Devanagari diak Dives_Akuru dogr Dogra dsrt Deseret dupl Duployan
     egyp Egyptian_Hieroglyphs elba Elbasan elym Elymaic ethi Ethiopic gara Garay geor Georgian
     glag Glagolitic gong Gunjala_Gondi gonm Masaram_Gondi goth Gothic gran Grantha grek Greek
     gujr Gujarati gukh Gurung_Khema guru Gurmukhi hang Hangul hani Han hano Hanunoo hatr Hatran
     hebr Hebrew hira Hiragana hluw Anatolian_Hieroglyphs hmng Pahawh_Hmong
     hmnp Nyiakeng_Puachue_Hmong hung Old_Hungarian ital Old_Italic java Javanese kali Kayah_Li
     kana Katakana khar Kharoshthi khmr Khmer khoj Khojki kits Khitan_Small_Script knda Kannada
     krai Kirat_Rai kthi Kaithi lana Tai_Tham laoo Lao latn Latin lepc Lepcha limb Limbu
     lina Linear_A linb Linear_B lyci Lycian lydi Lydian mahj Mahajani maka Makasar mand Mandaic
     mani Manichaean marc Marchen medf Medefaidrin mend Mende_Kikakui merc Meroitic_Cursive
     mero Meroitic_Hieroglyphs mlym Malayalam mong Mongolian mroo Mro mtei Meetei_Mayek mult Multani
     mymr Myanmar nagm Nag_Mundari nand Nandinagari narb Old_North_Arabian nbat Nabataean nkoo Nko
     nshu Nushu ogam Ogham olck Ol_Chiki onao Ol_Onal orkh Old_Turkic orya Oriya osge Osage
     osma Osmanya ougr Old_Uyghur palm Palmyrene pauc Pau_Cin_Hau perm Old_Permic phag Phags_Pa
     phli Inscriptional_Pahlavi phlp Psalter_Pahlavi phnx Phoenician plrd Miao
     prti Inscriptional_Parthian qaac Coptic qaai Inherited rjng Rejang rohg Hanifi_Rohingya
     runr Runic samr Samaritan sarb Old_South_Arabian saur Saurashtra sgnw SignWriting shaw Shavian
     shrd Sharada sidd Siddham sind Khudawadi sinh Sinhala sogd Sogdian sogo Old_Sogdian
     sora Sora_Sompeng soyo Soyombo sund Sundanese sunu Sunuwar sylo Syloti_Nagri syrc Syriac
     tagb Tagbanwa takr Takri tale Tai_Le talu New_Tai_Lue taml Tamil tang Tangut tavt Tai_Viet
     telu Telugu tfng Tifinagh tglg Tagalog thaa Thaana tibt Tibetan tirh Tirhuta tnsa Tangsa
     todr Todhri tutg Tulu_Tigalari ugar Ugaritic vaii Vai vith Vithkuqi wara Warang_Citi
     wcho Wancho xpeo Old_Persian xsux Cuneiform yezi Yezidi yiii Yi zanb Zanabazar_Square
     zinh Inherited zyyy Common zzzz Unknown")

/-- The general categories: the two-letter code, and the other names it goes by. -/
def categoryNames : List (String × List String) :=
  [("Lu", ["uppercaseletter"]), ("Ll", ["lowercaseletter"]), ("Lt", ["titlecaseletter"]),
    ("Lm", ["modifierletter"]), ("Lo", ["otherletter"]), ("Mn", ["nonspacingmark"]),
    ("Mc", ["spacingmark"]), ("Me", ["enclosingmark"]), ("Nd", ["decimalnumber", "digit"]),
    ("Nl", ["letternumber"]), ("No", ["othernumber"]), ("Pc", ["connectorpunctuation"]),
    ("Pd", ["dashpunctuation"]), ("Ps", ["openpunctuation"]), ("Pe", ["closepunctuation"]),
    ("Pi", ["initialpunctuation"]), ("Pf", ["finalpunctuation"]), ("Po", ["otherpunctuation"]),
    ("Sm", ["mathsymbol"]), ("Sc", ["currencysymbol"]), ("Sk", ["modifiersymbol"]),
    ("So", ["othersymbol"]), ("Zs", ["spaceseparator"]), ("Zl", ["lineseparator"]),
    ("Zp", ["paragraphseparator"]), ("Cc", ["control", "cntrl"]), ("Cf", ["format"]),
    ("Co", ["privateuse"]), ("Cn", ["unassigned"])]

/-- Groups of general categories, by the codes of their members. -/
def categoryGroups : List (List String × List String) :=
  [(["l", "letter"], ["Lu", "Ll", "Lt", "Lm", "Lo"]), (["lc", "casedletter"], ["Lu", "Ll", "Lt"]),
    (["m", "mark", "combiningmark"], ["Mn", "Mc", "Me"]), (["n", "number"], ["Nd", "Nl", "No"]),
    (["p", "punctuation", "punct"], ["Pc", "Pd", "Ps", "Pe", "Pi", "Pf", "Po"]),
    (["s", "symbol"], ["Sm", "Sc", "Sk", "So"]), (["z", "separator"], ["Zs", "Zl", "Zp"]),
    (["c", "other"], ["Cc", "Cf", "Co", "Cn", "Cs"])]

def properties : List (List String × Ranges) :=
  [(["alphabetic", "alpha"], alphabeticRanges), (["uppercase", "upper"], uppercaseRanges),
    (["lowercase", "lower"], lowercaseRanges),
    (["whitespace", "wspace", "space"], whiteSpaceRanges), (["emoji"], emojiRanges),
    (["idstart", "ids"], idStartRanges), (["idcontinue", "idc"], idContinueRanges),
    (["xidstart", "xids"], xidStartRanges), (["xidcontinue", "xidc"], xidContinueRanges),
    (["math"], mathRanges), (["dash"], dashRanges),
    (["hexdigit", "hex"], hexDigitRanges), (["asciihexdigit", "ahex"], asciiHexDigitRanges),
    (["ideographic", "ideo"], ideographicRanges), (["cased"], casedRanges)]

def isNoise (c : Char) : Bool := isSpace c || c = '_' || c = '-' || 127 < c.toNat

def plainName (name : List Char) : String :=
  let lower := (name.filter fun c => !isNoise c).map Char.toLower
  let startsWithIs := match name with
    | i :: s :: _ => (i = 'i' || i = 'I') && (s = 's' || s = 'S')
    | _ => false
  if startsWithIs then
    let rest := lower.drop 2
    -- The category "other" is also called "isc".
    if rest = ['c'] then "isc" else String.ofList rest
  else
    String.ofList lower

def categories (codes : List String) : CodeSet :=
  CodeSet.ofRanges (categoryRuns.select codes.contains)

def category? (name : String) : Option CodeSet :=
  if name = "any" then some CodeSet.full
  else if name = "ascii" then some ⟨[(0, 127)]⟩
  else if name = "assigned" then some (categories ["Cn"]).complement
  else
    match categoryGroups.find? fun entry => entry.1.contains name with
    | some entry => some (categories entry.2)
    | none =>
        (categoryNames.find? fun entry =>
          plainName entry.1.toList == name || entry.2.contains name).map
          fun entry => categories [entry.1]

def script? (name : String) : Option CodeSet :=
  let long := (scriptNames.find? fun entry => entry.1 == name).map (·.2)
  let isMatch (script : String) : Bool :=
    long == some script || plainName script.toList == name
  let ranges := scriptRuns.select isMatch
  if ranges.isEmpty then none else some (CodeSet.ofRanges ranges)

def property? (name : String) : Option CodeSet :=
  (properties.find? fun entry => entry.1.contains name).map
    fun entry => CodeSet.ofRanges entry.2.pairs.toList

def named? (name : List Char) : Option CodeSet :=
  let name := plainName name
  let property := if ["cf", "sc", "lc"].contains name then none else property? name
  property <|> category? name <|> script? name

def valued? (property value : List Char) : Option CodeSet :=
  let property := plainName property
  if property = "generalcategory" || property = "gc" then category? (plainName value)
  else if ["script", "sc", "scriptextensions", "scx"].contains property then
    script? (plainName value)
  else none

def digits : CodeSet := categories ["Nd"]

def spaces : CodeSet := CodeSet.ofRanges whiteSpaceRanges.pairs.toList

def asciiWord : CodeSet := ⟨[(48, 57), (65, 90), (95, 95), (97, 122)]⟩

def wordCodes : CodeSet := asciiWord.union (CodeSet.ofRanges wordRanges.pairs.toList)

def asciiDigits : CodeSet := ⟨[(48, 57)]⟩

def asciiSpaces : CodeSet := ⟨[(9, 13), (32, 32)]⟩

/-- The classes that are named between colons inside brackets. -/
def asciiClass? (name : String) : Option CodeSet :=
  ([("alnum", [(48, 57), (65, 90), (97, 122)]), ("alpha", [(65, 90), (97, 122)]),
    ("ascii", [(0, 127)]), ("blank", [(9, 9), (32, 32)]), ("cntrl", [(0, 31), (127, 127)]),
    ("digit", [(48, 57)]), ("graph", [(33, 126)]), ("lower", [(97, 122)]), ("print", [(32, 126)]),
    ("punct", [(33, 47), (58, 64), (91, 96), (123, 126)]), ("space", [(9, 13), (32, 32)]),
    ("upper", [(65, 90)]), ("word", [(48, 57), (65, 90), (95, 95), (97, 122)]),
    ("xdigit", [(48, 57), (65, 70), (97, 102)])].find? fun entry => entry.1 == name).map
    fun entry => CodeSet.ofRanges entry.2

end LiveBuild.Pattern
