/-!
# Names of character properties

The names under which classes of characters can be asked for: general categories, scripts,
properties that hold or do not, and properties with values. Names are compared without regard to
case, blanks, underscores, hyphens and a leading `is`.
-/

namespace TaskSync.Pattern

/-- Blanks, underscores and hyphens, which do not count. -/
def isNameFiller (c : Char) : Bool := c == ' ' || c == '_' || c == '-'

/-- The form in which names are compared. -/
def normalName (cs : List Char) : List Char :=
  let lower := cs.map Char.toLower
  let strip (ds : List Char) : List Char :=
    ds.filter fun c => decide (c.toNat ≤ 0x7F) && !isNameFiller c
  match lower with
  | 'i' :: 's' :: rest => if strip rest = ['c'] then ['i', 's', 'c'] else strip rest
  | ds => strip ds

/-- Words of a table, separated by blanks. -/
def wordsOf (table : String) : List (List Char) :=
  (table.splitOn " ").map String.toList

/-- General categories in short and long form, surrogates aside. -/
def categoryNames : String :=
  "any assigned ascii c other cc control cntrl cf format cn unassigned co privateuse l letter "
    ++ "lc casedletter ll lowercaseletter lm modifierletter lo otherletter lt titlecaseletter "
    ++ "lu uppercaseletter m mark combiningmark mc spacingmark me enclosingmark mn "
    ++ "nonspacingmark n number nd decimalnumber digit nl letternumber no othernumber p "
    ++ "punctuation punct pc connectorpunctuation pd dashpunctuation pe closepunctuation pf "
    ++ "finalpunctuation pi initialpunctuation po otherpunctuation ps openpunctuation s symbol "
    ++ "sc currencysymbol sk modifiersymbol sm mathsymbol so othersymbol z separator zl "
    ++ "lineseparator zp paragraphseparator zs spaceseparator"

/-- Scripts in short and long form. -/
def scriptNames : String :=
  "adlm adlam aghb caucasianalbanian ahom arab arabic armi imperialaramaic armn armenian avst "
    ++ "avestan bali balinese bamu bamum bass bassavah batk batak beng bengali bhks bhaiksuki "
    ++ "bopo bopomofo brah brahmi brai braille bugi buginese buhd buhid cakm chakma cans "
    ++ "canadianaboriginal cari carian cham cher cherokee chrs chorasmian copt coptic qaac cpmn "
    ++ "cyprominoan cprt cypriot cyrl cyrillic deva devanagari diak divesakuru dogr dogra dsrt "
    ++ "deseret dupl duployan egyp egyptianhieroglyphs elba elbasan elym elymaic ethi ethiopic "
    ++ "gara garay geor georgian glag glagolitic gong gunjalagondi gonm masaramgondi goth "
    ++ "gothic gran grantha grek greek gujr gujarati gukh gurungkhema guru gurmukhi hang hangul "
    ++ "hani han hano hanunoo hatr hatran hebr hebrew hira hiragana hluw anatolianhieroglyphs "
    ++ "hmng pahawhhmong hmnp nyiakengpuachuehmong hung oldhungarian ital olditalic java "
    ++ "javanese kali kayahli kana katakana kawi khar kharoshthi khmr khmer khoj khojki kits "
    ++ "khitansmallscript knda kannada krai kiratrai kthi kaithi lana taitham laoo lao latn "
    ++ "latin lepc lepcha limb limbu lina lineara linb linearb lisu lyci lycian lydi lydian mahj "
    ++ "mahajani maka makasar mand mandaic mani manichaean marc marchen medf medefaidrin mend "
    ++ "mendekikakui merc meroiticcursive mero meroitichieroglyphs mlym malayalam modi mong "
    ++ "mongolian mroo mro mtei meeteimayek mult multani mymr myanmar nagm nagmundari nand "
    ++ "nandinagari narb oldnortharabian nbat nabataean newa nkoo nko nshu nushu ogam ogham olck "
    ++ "olchiki onao olonal orkh oldturkic orya oriya osge osage osma osmanya ougr olduyghur palm "
    ++ "palmyrene pauc paucinhau perm oldpermic phag phagspa phli inscriptionalpahlavi phlp "
    ++ "psalterpahlavi phnx phoenician plrd miao prti inscriptionalparthian rjng rejang rohg "
    ++ "hanifirohingya runr runic samr samaritan sarb oldsoutharabian saur saurashtra sgnw "
    ++ "signwriting shaw shavian shrd sharada sidd siddham sind khudawadi sinh sinhala sogd "
    ++ "sogdian sogo oldsogdian sora sorasompeng soyo soyombo sund sundanese sunu sunuwar sylo "
    ++ "sylotinagri syrc syriac tagb tagbanwa takr takri tale taile talu newtailue taml tamil "
    ++ "tang tangut tavt taiviet telu telugu tfng tifinagh tglg tagalog thaa thaana thai tibt "
    ++ "tibetan tirh tirhuta tnsa tangsa todr todhri toto tutg tulutigalari ugar ugaritic vaii "
    ++ "vai vith vithkuqi wara warangciti wcho wancho xpeo oldpersian xsux cuneiform yezi yezidi "
    ++ "yiii yi zanb zanabazarsquare zinh inherited qaai zyyy common"

/-- Properties that a character has or has not. -/
def binaryNames : String :=
  "ahex asciihexdigit alpha alphabetic bidic bidicontrol bidim bidimirrored cased ci "
    ++ "caseignorable cwcf changeswhencasefolded cwcm changeswhencasemapped cwl "
    ++ "changeswhenlowercased cwt changeswhentitlecased cwu changeswhenuppercased dash di "
    ++ "defaultignorablecodepoint dep deprecated dia diacritic emoji ecomp emojicomponent emod "
    ++ "emojimodifier ebase emojimodifierbase epres emojipresentation extpict "
    ++ "extendedpictographic ext extender grbase graphemebase grext graphemeextend grlink "
    ++ "graphemelink hex hexdigit hyphen idsb idsbinaryoperator idst idstrinaryoperator idsu "
    ++ "idsunaryoperator idc idcontinue ids idstart idcompatmathcontinue idcompatmathstart ideo "
    ++ "ideographic joinc joincontrol loe logicalorderexception lower lowercase math mcm "
    ++ "modifiercombiningmark nchar noncharactercodepoint oalpha otheralphabetic odi "
    ++ "otherdefaultignorablecodepoint ogrext othergraphemeextend oidc otheridcontinue oids "
    ++ "otheridstart olower otherlowercase omath othermath oupper otheruppercase patsyn "
    ++ "patternsyntax patws patternwhitespace pcm prependedconcatenationmark qmark "
    ++ "quotationmark radical ri regionalindicator sterm sentenceterminal sd softdotted term "
    ++ "terminalpunctuation uideo unifiedideograph upper uppercase vs variationselector wspace "
    ++ "whitespace space xidc xidcontinue xids xidstart"

/-- Ages: the versions in which characters were added. -/
def ageNames : String :=
  "1.1 v11 2.0 v20 2.1 v21 3.0 v30 3.1 v31 3.2 v32 4.0 v40 4.1 v41 5.0 v50 5.1 v51 5.2 v52 "
    ++ "6.0 v60 6.1 v61 6.2 v62 6.3 v63 7.0 v70 8.0 v80 9.0 v90 10.0 v100 11.0 v110 12.0 v120 "
    ++ "12.1 v121 13.0 v130 14.0 v140 15.0 v150 15.1 v151 16.0 v160"

def graphemeBreakNames : String :=
  "cn control cr ex extend l lf lv lvt pp prepend ri regionalindicator sm spacingmark t v zwj"

def wordBreakNames : String :=
  "cr dq doublequote ex extendnumlet extend fo format hl hebrewletter ka katakana le aletter lf "
    ++ "mb midnumlet ml midletter mn midnum nl newline nu numeric ri regionalindicator sq "
    ++ "singlequote wsegspace zwj"

def sentenceBreakNames : String :=
  "at aterm cl close cr ex extend fo format le oletter lf lo lower nu numeric sc scontinue se "
    ++ "sep sp st sterm up upper"

/-- The properties that have values, under their names. -/
def valueTables : List (List String × String) :=
  [(["gc", "generalcategory"], categoryNames), (["sc", "script"], scriptNames),
   (["scx", "scriptextensions"], scriptNames), (["age"], ageNames),
   (["gcb", "graphemeclusterbreak"], graphemeBreakNames), (["wb", "wordbreak"], wordBreakNames),
   (["sb", "sentencebreak"], sentenceBreakNames)]

/-- A class asked for by one name. -/
def isClassName (name : List Char) : Bool :=
  let n := normalName name
  [binaryNames, categoryNames, scriptNames].any fun table => (wordsOf table).contains n

/-- A class asked for by a property and its value. -/
def isValueName (property value : List Char) : Bool :=
  let p := normalName property
  let v := normalName value
  valueTables.any fun (names, table) =>
    names.any (·.toList == p) && (wordsOf table).contains v

end TaskSync.Pattern
