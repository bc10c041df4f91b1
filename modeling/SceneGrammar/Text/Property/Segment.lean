import SceneGrammar.Text.Property.Derived

/-!
# Parts of clusters, words and sentences

What a character is to the boundaries of clusters, words and sentences. The classes follow from
other properties and from lists of exceptions, by the definitions of Unicode 16.0.
-/

namespace SceneGrammar.Text.Property

/-! ## Joiners and numbers -/

/-- The joiner of two characters. -/
def joiner : Definition := .table "200D"

/-- What belongs to the character before it in words and sentences. -/
def extending : Definition := graphemeExtend ++ .categories ["mc"]

/-- Format characters that stand before a number or a letter. -/
def prepended : Definition := .listed "prependedconcatenationmark"

/-- The mark of an abbreviation, which stands before letters. -/
def abbreviation : Definition := .table "70F"

/-- Digits, the separators between them and the marks before them. -/
def numeric : Definition := .categories ["nd"] ++ .table "66B-66C" ++ (prepended \ abbreviation)

/-- Format characters that stand for themselves. -/
def formatting : Definition :=
  .categories ["cf"] \ (.table "200C-200D" ++ graphemeExtend ++ prepended)

/-! ## Clusters -/

/-- Controls, which are clusters of their own. -/
def controlling : Definition :=
  (.categories ["zl", "zp", "cc", "cf"] ++ (defaultIgnorable \ .categories ["assigned"]))
    \ (.table "A D 200C-200D" ++ prepended ++ graphemeExtend)

/-- What belongs to the character after it in a cluster. -/
def prepending : Definition :=
  prepended ++ .table "D4E 111C2-111C3 113D1 1193F 11941 11A3A 11A84-11A89 11D46 11F02"

/-- Marks that take room but belong to the character before them. -/
def spacing : Definition :=
  (.categories ["mc"] ++ .table "E33 EB3")
    \ (graphemeExtend ++ .table "
      102B-102C 1038 1062-1064 1067-106D 1083 1087-108C 108F 109A-109C 1A61 1A63-1A64 AA7B AA7D
      11720-11721")

/-- Syllables of a leading consonant and a vowel. -/
def openSyllables : Definition := .steps 0xAC00 28 399

/-- The classes of characters in clusters by their names. -/
def clusterParts : List (List String × Definition) :=
  [(["cn", "control"], controlling),
    (["cr"], .table "D"),
    (["ex", "extend"], graphemeExtend ++ .listed "emojimodifier"),
    (["l"], .table "1100-115F A960-A97C"),
    (["lf"], .table "A"),
    (["lv"], openSyllables),
    (["lvt"], .table "AC00-D7A3" \ openSyllables),
    (["pp", "prepend"], prepending),
    (["ri", "regionalindicator"], .listed "regionalindicator"),
    (["sm", "spacingmark"], spacing),
    (["t"], .table "11A8-11FF D7CB-D7FB"),
    (["v"], .table "1160-11A7 D7B0-D7C6 16D63 16D67-16D6A"),
    (["zwj"], joiner)]

/-! ## Words -/

/-- Letters of Katakana and the signs that are used with them. -/
def katakana : Definition := .script "katakana" ++ .table "3031-3035 309B-309C 30A0 30FC FF70"

/-- Letters whose words may hold quotation marks. -/
def hebrewLetters : Definition :=
  .script "hebrew" \ (.script "hebrew" \ .categories ["lo"])

/-- Letters of the scripts that write no blanks between words. -/
def unspacedLetters : Definition := .table "
  E01-E3A E40-E4E E81-E82 E84 E86-E8A E8C-EA3 EA5 EA7-EBD EC0-EC4 EC6 EC8-ECE EDC-EDF 1000-103F
  1050-108F 109A-109F 1780-17D3 17D7 17DC-17DD 1950-196D 1970-1974 1980-19AB 19B0-19C9 19DA
  19DE-19DF 1A20-1A5E 1A60-1A7C 1AA0-1AAD A9E0-A9EF A9FA-A9FE AA60-AAC2 AADB-AADF 11700-1171A
  1171D-1172B 1173A-1173B 1173F-11746"

/-- Letters of words that stand between blanks. -/
def wordLetters : Definition :=
  (alphabetic ++ abbreviation ++ .table "
      2C2-2C5 2D2-2D7 2DE-2DF 2E5-2EB 2ED 2EF-2FF 55A-55C 55E 58A 5F3 A708-A716 A720-A721
      A789-A78A AB5B")
    \ (.listed "ideographic" ++ katakana ++ .script "hiragana" ++ unspacedLetters ++ extending
      ++ hebrewLetters)

/-- The classes of characters in words by their names. -/
def wordParts : List (List String × Definition) :=
  [(["cr"], .table "D"),
    (["dq", "doublequote"], .table "22"),
    (["ex", "extendnumlet"], .categories ["pc"] ++ .table "202F"),
    (["extend"], (extending ++ .listed "emojimodifier") \ joiner),
    (["fo", "format"], formatting \ .table "200B"),
    (["hl", "hebrewletter"], hebrewLetters),
    (["ka", "katakana"], katakana),
    (["le", "aletter"], wordLetters),
    (["lf"], .table "A"),
    (["mb", "midnumlet"], .table "2E 2018-2019 2024 FE52 FF07 FF0E"),
    (["ml", "midletter"], .table "3A B7 387 55F 5F4 2027 FE13 FE55 FF1A"),
    (["mn", "midnum"],
      .table "2C 3B 37E 589 60C-60D 66C 7F8 2044 FE10 FE14 FE50 FE54 FF0C FF1B"),
    (["nl", "newline"], .table "B-C 85 2028-2029"),
    (["nu", "numeric"], numeric \ .table "66C"),
    (["ri", "regionalindicator"], .listed "regionalindicator"),
    (["sq", "singlequote"], .table "27"),
    (["wsegspace"], .categories ["zs"] \ .table "A0 2007 202F"),
    (["zwj"], joiner)]

/-! ## Sentences -/

/-- Stops that also stand within sentences. -/
def openStops : Definition := .table "2E 2024 FE52 FF0E"

/-- Stops that end a sentence. -/
def stops : Definition := .listed "sentenceterminal" \ openStops

/-- Small letters that are not at the front of a sentence. -/
def sentenceLower : Definition := lowercase \ (graphemeExtend ++ .table "10D0-10FA 10FD-10FF")

/-- Capital letters that are at the front of a sentence. -/
def sentenceUpper : Definition :=
  (uppercase ++ .categories ["lt"]) \ .table "1C90-1CBA 1CBD-1CBF"

/-- The classes of characters in sentences by their names. -/
def sentenceParts : List (List String × Definition) :=
  [(["at", "aterm"], openStops),
    (["cl", "close"],
      (.categories ["ps", "pe", "pi", "pf"] ++ .table "22 27 275B-2760 2E00-2E0D 1F676-1F678")
        \ (openStops ++ stops)),
    (["cr"], .table "D"),
    (["ex", "extend"], extending ++ joiner),
    (["fo", "format"], formatting),
    (["le", "oletter"],
      (alphabetic ++ abbreviation ++ .table "5F3") \ (sentenceLower ++ sentenceUpper ++ extending)),
    (["lf"], .table "A"),
    (["lo", "lower"], sentenceLower),
    (["nu", "numeric"], numeric),
    (["sc", "scontinue"], .table "
      2C-2D 3A-3B 37E 55D 60C-60D 7F8 1802 1808 2013-2014 3001 FE10-FE11 FE13-FE14 FE31-FE32
      FE50-FE51 FE54-FE55 FE58 FE63 FF0C-FF0D FF1A-FF1B FF64"),
    (["se", "sep"], .table "85 2028-2029"),
    (["sp"], .table "9 B-C 20 A0 1680 2000-200A 202F 205F 3000"),
    (["st", "sterm"], stops),
    (["up", "upper"], sentenceUpper)]

/-! ## Names of classes -/

/-- The characters of a class by its name. -/
def partNamed? (parts : List (List String × Definition)) (name : String) : Option CharSet :=
  (parts.find? (·.1.contains name)).map (·.2.set)

/-- The characters of a class in clusters. -/
def cluster? (name : String) : Option CharSet := partNamed? clusterParts name

/-- The characters of a class in words. -/
def wordPart? (name : String) : Option CharSet := partNamed? wordParts name

/-- The characters of a class in sentences. -/
def sentencePart? (name : String) : Option CharSet := partNamed? sentenceParts name

end SceneGrammar.Text.Property
