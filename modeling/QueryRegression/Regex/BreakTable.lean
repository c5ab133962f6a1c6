import QueryRegression.Regex.SetTable

/-!
# Parts of text in which characters stand

What characters are when a text is divided into clusters, words or sentences. Each class is made of
properties and of classes further down in the same list.
-/

namespace QueryRegression.Regex

/-- The classes of characters by which clusters end. -/
def clusterTable : List Recipe := [
  { names := ["spacingmark", "sm"]
    members := ["E33 EB3"]
    added := ["mc"]
    removed := ["extend"]
    lacking := [
      "102B-102C 1038 1062-1064 1067-106D 1083 1087-108C 108F 109A-109C 1A61 1A63-1A64 AA7B",
      "AA7D 11720-11721"] },
  { names := ["control", "cn"]
    members := ["2065 FFF0-FFF8 E0000 E0002-E001F E0080-E00FF E01F0-E0FFF"]
    added := ["cc", "cf", "zl", "zp"]
    removed := ["extend", "prepend", "cr", "lf", "zwj"] },
  { names := ["extend", "ex"]
    added := ["graphemeextend", "emojimodifier"] },
  { names := ["prepend", "pp"]
    members := ["D4E 111C2-111C3 113D1 1193F 11941 11A3A 11A84-11A89 11D46 11F02"]
    added := ["prependedconcatenationmark"] },
  { names := ["regionalindicator", "ri"]
    added := ["regionalindicator"] },
  { names := ["lvt"]
    members := ["AC00-D7A3"]
    removed := ["lv"] },
  { names := ["lv"]
    members := ["AC00-D788/1C"] },
  { names := ["l"]
    members := ["1100-115F A960-A97C"] },
  { names := ["v"]
    members := ["1160-11A7 D7B0-D7C6 16D63 16D67-16D6A"] },
  { names := ["t"]
    members := ["11A8-11FF D7CB-D7FB"] },
  { names := ["cr"]
    members := ["D"] },
  { names := ["lf"]
    members := ["A"] },
  { names := ["zwj"]
    members := ["200D"] }]

/-- The classes of characters by which words end. -/
def wordBreakTable : List Recipe := [
  { names := ["aletter", "le"]
    members := [
      "B8 2C2-2C5 2D2-2D7 2DE-2DF 2E5-2EB 2ED 2EF-2FF 55A-55C 55E 58A 5F3 70F A708-A716",
      "A720-A721 A789-A78A AB5B"]
    added := ["alphabetic"]
    removed := ["ideographic", "hiragana", "extend", "hebrewletter", "katakana"]
    lacking := [
      "E01-E30 E32-E33 E40-E46 E81-E82 E84 E86-E8A E8C-EA3 EA5 EA7-EB0 EB2-EB3 EBD EC0-EC4 EC6",
      "EDC-EDF 1000-102A 103F 1050-1055 105A-105D 1061 1065-1066 106E-1070 1075-1081 108E",
      "1780-17B3 17D7 17DC 1950-196D 1970-1974 1980-19AB 19B0-19C9 1A20-1A54 1AA7 A9E0-A9E4",
      "A9E6-A9EF A9FA-A9FE AA60-AA76 AA7A AA7E-AAAF AAB1 AAB5-AAB6 AAB9-AABD AAC0 AAC2",
      "AADB-AADD 11700-1171A 11740-11746"] },
  { names := ["hebrewletter", "hl"]
    added := ["hebrew"]
    lacking := ["591-5C7 5F3-5F4 FB1E FB29"] },
  { names := ["katakana", "ka"]
    members := ["3031-3035 309B-309C 30A0 30FC FF70"]
    added := ["katakana"] },
  { names := ["numeric", "nu"]
    members := ["600-605 66B 6DD 890-891 8E2 19DA 110BD 110CD"]
    added := ["nd"] },
  { names := ["extend"]
    added := ["graphemeextend", "mc", "emojimodifier"] },
  { names := ["format", "fo"]
    added := ["cf"]
    removed := ["graphemeextend", "prependedconcatenationmark"]
    lacking := ["200B 200D"] },
  { names := ["extendnumlet", "ex"]
    members := ["202F"]
    added := ["pc"] },
  { names := ["regionalindicator", "ri"]
    added := ["regionalindicator"] },
  { names := ["wsegspace"]
    added := ["zs"]
    lacking := ["A0 2007 202F"] },
  { names := ["midletter", "ml"]
    members := ["3A B7 387 55F 5F4 2027 FE13 FE55 FF1A"] },
  { names := ["midnum", "mn"]
    members := ["2C 3B 37E 589 60C-60D 66C 7F8 2044 FE10 FE14 FE50 FE54 FF0C FF1B"] },
  { names := ["midnumlet", "mb"]
    members := ["2E 2018-2019 2024 FE52 FF07 FF0E"] },
  { names := ["newline", "nl"]
    members := ["B-C 85 2028-2029"] },
  { names := ["doublequote", "dq"]
    members := ["22"] },
  { names := ["singlequote", "sq"]
    members := ["27"] },
  { names := ["cr"]
    members := ["D"] },
  { names := ["lf"]
    members := ["A"] },
  { names := ["zwj"]
    members := ["200D"] }]

/-- The classes of characters by which sentences end. -/
def sentenceTable : List Recipe := [
  { names := ["oletter", "le"]
    members := ["5F3"]
    added := ["alphabetic"]
    removed := ["lower", "upper", "extend"] },
  { names := ["lower", "lo"]
    added := ["lowercase"]
    removed := ["extend"]
    lacking := ["10D0-10FA 10FD-10FF"] },
  { names := ["upper", "up"]
    added := ["uppercase", "lt"]
    lacking := ["1C90-1CBA 1CBD-1CBF"] },
  { names := ["extend", "ex"]
    members := ["200D"]
    added := ["graphemeextend", "mc"] },
  { names := ["numeric", "nu"]
    members := ["600-605 66B-66C 6DD 890-891 8E2 19DA 110BD 110CD"]
    added := ["nd"] },
  { names := ["format", "fo"]
    added := ["cf"]
    removed := ["graphemeextend", "joincontrol"]
    lacking := ["600-605 6DD 890-891 8E2 110BD 110CD"] },
  { names := ["sp"]
    added := ["whitespace"]
    removed := ["sep", "cr", "lf"] },
  { names := ["sterm", "st"]
    added := ["sentenceterminal"]
    removed := ["aterm"] },
  { names := ["close", "cl"]
    members := ["22 27 275B-2760 2E00-2E01 2E06-2E08 2E0B 1F676-1F678"]
    added := ["ps", "pe", "pi", "pf"] },
  { names := ["aterm", "at"]
    members := ["2E 2024 FE52 FF0E"] },
  { names := ["scontinue", "sc"]
    members := [
      "2C-2D 3A-3B 37E 55D 60C-60D 7F8 1802 1808 2013-2014 3001 FE10-FE11 FE13-FE14 FE31-FE32",
      "FE50-FE51 FE54-FE55 FE58 FE63 FF0C-FF0D FF1A-FF1B FF64"] },
  { names := ["sep", "se"]
    members := ["85 2028-2029"] },
  { names := ["cr"]
    members := ["D"] },
  { names := ["lf"]
    members := ["A"] }]

end QueryRegression.Regex
