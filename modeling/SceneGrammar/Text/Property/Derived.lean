import SceneGrammar.Text.CharSet
import SceneGrammar.Text.Property.Category
import SceneGrammar.Text.Property.Listed
import SceneGrammar.Text.Property.Script

/-!
# Derived properties

The properties of characters that follow from general categories and listed properties, by the
definitions of Unicode 16.0.
-/

namespace SceneGrammar.Text.Property

/-- How a property follows from others. -/
inductive Definition where
  /-- The characters of some categories or groups of categories. -/
  | categories (names : List String)
  /-- The characters of a script. -/
  | script (name : String)
  /-- The characters of a listed property. -/
  | listed (name : String)
  /-- The characters of a table. -/
  | table (t : String)
  /-- A number of characters with the same distance from each to the next. -/
  | steps (first distance count : Nat)
  /-- The characters of either. -/
  | union (d e : Definition)
  /-- The characters of the first that the second does not have. -/
  | diff (d e : Definition)
deriving Repr

instance : Append Definition := ⟨.union⟩

instance : SDiff Definition := ⟨.diff⟩

/-- The characters of a definition. -/
def Definition.set : Definition → CharSet
  | .categories names => .unionAll (names.filterMap Category.named?)
  | .script name => (Script.named? name).getD .empty
  | .listed name => ((Listed.find? listedProperties name).map Listed.set).getD .empty
  | .table t => .ofTable t
  | .steps first distance count => .ofCodes ((List.range count).map fun k => first + distance * k)
  | .union d e => d.set.union e.set
  | .diff d e => d.set.diff e.set

/-! ## Case -/

/-- Small letters and what is used like them. -/
def lowercase : Definition := .categories ["ll"] ++ .listed "otherlowercase"

/-- Capital letters and what is used like them. -/
def uppercase : Definition := .categories ["lu"] ++ .listed "otheruppercase"

/-- Characters that have a case. -/
def cased : Definition := lowercase ++ uppercase ++ .categories ["lt"]

/-- Characters that do not separate words for the sake of case. -/
def caseIgnorable : Definition :=
  .categories ["mn", "me", "cf", "lm", "sk"]
    ++ .table "27 2E 3A B7 387 55F 5F4 2018-2019 2024 2027 FE13 FE52 FE55 FF07 FF0E FF1A"

/-- Characters that change in small letters. -/
def changesWhenLowered : Definition := .table "
    41-5A C0-D6 D8-DE 100/136 139/147 14A/176 178-179 17B 17D 181-182 184 186-187 189-18B 18E-191
    193-194 196-198 19C-19D 19F-1A0 1A2 1A4 1A6-1A7 1A9 1AC 1AE-1AF 1B1-1B3 1B5 1B7-1B8 1BC
    1C4-1C5 1C7-1C8 1CA-1CB 1CD/1DB 1DE/1EE 1F1-1F2 1F4 1F6-1F8 1FA/232 23A-23B 23D-23E 241
    243-246 248/24E 370 372 376 37F 386 388-38A 38C 38E-38F 391-3A1 3A3-3AB 3CF 3D8/3EE 3F4 3F7
    3F9-3FA 3FD-42F 460/480 48A/4BE 4C0-4C1 4C3/4CD 4D0/52E 531-556 10A0-10C5 10C7 10CD 13A0-13F5
    1C89 1C90-1CBA 1CBD-1CBF 1E00/1E94 1E9E/1EFE 1F08-1F0F 1F18-1F1D 1F28-1F2F 1F38-1F3F 1F48-1F4D
    1F59/1F5F 1F68-1F6F 1F88-1F8F 1F98-1F9F 1FA8-1FAF 1FB8-1FBC 1FC8-1FCC 1FD8-1FDB 1FE8-1FEC
    1FF8-1FFC 2126 212A-212B 2132 2160-216F 2183 24B6-24CF 2C00-2C2F 2C60 2C62-2C64 2C67/2C6B
    2C6D-2C70 2C72 2C75 2C7E-2C80 2C82/2CE2 2CEB 2CED 2CF2 A640/A66C A680/A69A A722/A72E A732/A76E
    A779 A77B A77D-A77E A780/A786 A78B A78D A790 A792 A796/A7A8 A7AA-A7AE A7B0-A7B4 A7B6/A7C2
    A7C4-A7C7 A7C9 A7CB-A7CC A7D0 A7D6/A7DC A7F5 FF21-FF3A 10400-10427 104B0-104D3 10570-1057A
    1057C-1058A 1058C-10592 10594-10595 10C80-10CB2 10D50-10D65 118A0-118BF 16E40-16E5F
    1E900-1E921"

/-- Characters that change in capital letters. -/
def changesWhenRaised : Definition := .table "
    61-7A B5 DF-F6 F8-FF 101/137 13A/146 148-149 14B/177 17A 17C 17E-180 183 185 188 18C 192 195
    199-19B 19E 1A1/1A5 1A8 1AD 1B0 1B4 1B6 1B9 1BD 1BF 1C5-1C6 1C8-1C9 1CB-1CC 1CE/1DA 1DC-1DD
    1DF/1ED 1EF-1F0 1F2-1F3 1F5 1F9/21F 223/233 23C 23F-240 242 247/24D 24F-254 256-257 259
    25B-25C 260-261 263-266 268-26C 26F 271-272 275 27D 280 282-283 287-28C 292 29D-29E 345 371
    373 377 37B-37D 390 3AC-3CE 3D0-3D1 3D5-3D7 3D9/3ED 3EF-3F3 3F5 3F8 3FB 430-45F 461/481
    48B/4BF 4C2/4CC 4CE-4CF 4D1/52F 561-587 10D0-10FA 10FD-10FF 13F8-13FD 1C80-1C88 1C8A 1D79 1D7D
    1D8E 1E01/1E93 1E95-1E9B 1EA1/1EFD 1EFF-1F07 1F10-1F15 1F20-1F27 1F30-1F37 1F40-1F45 1F50-1F57
    1F60-1F67 1F70-1F7D 1F80-1FB4 1FB6-1FB7 1FBC 1FBE 1FC2-1FC4 1FC6-1FC7 1FCC 1FD0-1FD3 1FD6-1FD7
    1FE0-1FE7 1FF2-1FF4 1FF6-1FF7 1FFC 214E 2170-217F 2184 24D0-24E9 2C30-2C5F 2C61 2C65-2C66
    2C68/2C6C 2C73 2C76 2C81/2CE3 2CEC 2CEE 2CF3 2D00-2D25 2D27 2D2D A641/A66D A681/A69B A723/A72F
    A733/A76F A77A A77C A77F/A787 A78C A791 A793-A794 A797/A7A9 A7B5/A7C3 A7C8 A7CA A7CD A7D1
    A7D7/A7DB A7F6 AB53 AB70-ABBF FB00-FB06 FB13-FB17 FF41-FF5A 10428-1044F 104D8-104FB
    10597-105A1 105A3-105B1 105B3-105B9 105BB-105BC 10CC0-10CF2 10D70-10D85 118C0-118DF
    16E60-16E7F 1E922-1E943"

/-- Characters that change at the front of a title. -/
def changesWhenTitled : Definition :=
  (changesWhenRaised
    \ .table "1C5 1C8 1CB 1F2 10D0-10FA 10FD-10FF 1F88-1F8F 1F98-1F9F 1FA8-1FAF 1FBC 1FCC 1FFC")
    ++ .table "1C4 1C7 1CA 1F1"

/-- Characters that change in some case. -/
def changesWhenMapped : Definition := changesWhenLowered ++ changesWhenRaised ++ changesWhenTitled

/-- Characters that change when case is ignored. -/
def changesWhenFolded : Definition :=
  (changesWhenLowered \ .table "13A0-13F5")
    ++ .table "
    B5 DF 149 17F 345 3C2 3D0-3D1 3D5-3D6 3F0-3F1 3F5 587 13F8-13FD 1C80-1C88 1E9A-1E9B 1F80-1F87
    1F90-1F97 1FA0-1FA7 1FB2-1FB4 1FB7 1FC2-1FC4 1FC7 1FF2-1FF4 1FF7 AB70-ABBF FB00-FB06 FB13-FB17"

/-! ## Letters and names -/

/-- Letters, and marks and numbers that are used as letters. -/
def alphabetic : Definition :=
  lowercase ++ uppercase ++ .categories ["lt", "lm", "lo", "nl"] ++ .listed "otheralphabetic"

/-- Signs of mathematics. -/
def math : Definition := .categories ["sm"] ++ .listed "othermath"

/-- Signs that patterns keep for themselves, blanks included. -/
def patternSigns : Definition := .listed "patternsyntax" ++ .listed "patternwhitespace"

/-- Characters that a name can begin with. -/
def nameStart : Definition :=
  (.categories ["letter", "nl"] ++ .listed "otheridstart") \ patternSigns

/-- Characters that a name can go on with. -/
def nameContinue : Definition :=
  (nameStart ++ .categories ["mn", "mc", "nd", "pc"] ++ .listed "otheridcontinue") \ patternSigns

/-- Characters that a name can begin with, also after normalization. -/
def closedNameStart : Definition :=
  nameStart
    \ .table "37A E33 EB3 309B-309C FC5E-FC63 FDFA-FDFB FE70/FE7E FF9E-FF9F"

/-- Characters that a name can go on with, also after normalization. -/
def closedNameContinue : Definition :=
  nameContinue \ .table "37A 309B-309C FC5E-FC63 FDFA-FDFB FE70/FE7E"

/-! ## Display -/

/-- Characters that are not shown where they are not known. -/
def defaultIgnorable : Definition :=
  (.listed "otherdefaultignorablecodepoint" ++ .categories ["cf"] ++ .listed "variationselector")
    \ (.table "FFF9-FFFB 13430-1343F" ++ .listed "prependedconcatenationmark")

/-- Characters that are shown as part of the one before them. -/
def graphemeExtend : Definition := .categories ["me", "mn"] ++ .listed "othergraphemeextend"

/-- Characters that others are shown as part of. -/
def graphemeBase : Definition :=
  .categories ["letter", "mark", "number", "punctuation", "symbol", "zs"] \ graphemeExtend

/-! ## Names of properties -/

/-- The derived properties by their names. -/
def derivedProperties : List (List String × Definition) :=
  [(["alpha", "alphabetic"], alphabetic),
    (["cased"], cased),
    (["ci", "caseignorable"], caseIgnorable),
    (["cwcf", "changeswhencasefolded"], changesWhenFolded),
    (["cwcm", "changeswhencasemapped"], changesWhenMapped),
    (["cwl", "changeswhenlowercased"], changesWhenLowered),
    (["cwt", "changeswhentitlecased"], changesWhenTitled),
    (["cwu", "changeswhenuppercased"], changesWhenRaised),
    (["di", "defaultignorablecodepoint"], defaultIgnorable),
    (["grbase", "graphemebase"], graphemeBase),
    (["grext", "graphemeextend"], graphemeExtend),
    (["idc", "idcontinue"], nameContinue),
    (["ids", "idstart"], nameStart),
    (["lower", "lowercase"], lowercase),
    (["math"], math),
    (["upper", "uppercase"], uppercase),
    (["xidc", "xidcontinue"], closedNameContinue),
    (["xids", "xidstart"], closedNameStart)]

/-- The names of white space. -/
def blankNames : List String := ["wspace", "whitespace", "space"]

/-- The characters of a property that holds or does not hold, by a name in plain form. -/
def named? (name : String) : Option CharSet :=
  match Listed.find? listedProperties name, derivedProperties.find? (·.1.contains name) with
  | some p, _ => some p.set
  | none, some (_, d) => some d.set
  | none, none => if blankNames.contains name then some blank else none

end SceneGrammar.Text.Property
