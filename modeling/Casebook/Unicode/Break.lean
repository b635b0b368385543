import Casebook.Unicode.Property
import Casebook.Unicode.Script

/-! What a character does at the borders of characters as a reader sees them, of words and of
sentences, after version 16 of the standard. The characters that do nothing special are in no
set.
-/

namespace Casebook.Unicode.Break

open Category Property

/-- The carriage return. -/
def carriageReturn : CodeSet :=
  .ofText "D"

/-- The line feed. -/
def lineFeed : CodeSet :=
  .ofText "A"

/-- The joiner without width. -/
def zeroWidthJoiner : CodeSet :=
  .ofText "200D"

/-- Characters that are one with the one before them. -/
def extending : CodeSet :=
  graphemeExtend ++ emojiModifier

/-- Characters that are in one word with the one before them. -/
def wordExtending : CodeSet :=
  (extending ++ spacingMark).minus zeroWidthJoiner

/-- Characters between which and any other one there is a border. -/
def controlling : CodeSet :=
  (lineSeparator ++ paragraphSeparator ++ control ++ format
    ++ CodeSet.inter unassigned defaultIgnorable).minus
      (carriageReturn ++ lineFeed ++ prependedConcatenationMark ++ .ofText "200C-200D E0020-E007F")

/-- Marks that are one with the character before them and take room of their own. -/
def spacing : CodeSet :=
  (spacingMark ++ .ofText "E33 EB3").minus
    (extending
      ++ .ofLines
        ["102B-102C 1038 1062-1064 1067-106D 1083 1087-108C 108F 109A-109C 1A61 1A63-1A64 AA7B",
         "AA7D 11720-11721"])

/-- Characters that are one with the one behind them. -/
def prepending : CodeSet :=
  prependedConcatenationMark
    ++ .ofText "D4E 111C2-111C3 113D1 1193F 11941 11A3A 11A84-11A89 11D46 11F02"

/-- Consonants that a syllable of Hangul begins with. -/
def leadingJamo : CodeSet :=
  .ofText "1100-115F A960-A97C"

/-- Vowels of Hangul. -/
def vowelJamo : CodeSet :=
  .ofText "1160-11A7 D7B0-D7C6 16D63 16D67-16D6A"

/-- Consonants that a syllable of Hangul ends with. -/
def trailingJamo : CodeSet :=
  .ofText "11A8-11FF D7CB-D7FB"

/-- Syllables of Hangul that end with a vowel, of which every twenty-eighth one does. -/
def openSyllable : CodeSet :=
  .ofText "AC00-D788/1C"

/-- Syllables of Hangul that end with a consonant. -/
def closedSyllable : CodeSet :=
  (CodeSet.ofText "AC00-D7A3").minus openSyllable

/-- Formats, which word borders pass over. -/
def wordFormat : CodeSet :=
  format.minus (prependedConcatenationMark ++ .ofText "200B-200D E0020-E007F")

/-- Katakana and what is written with it. -/
def katakana : CodeSet :=
  Script.katakana
    ++ .ofText "3031-3035 309B-309C 30A0 30FC FF70"

/-- Letters of Hebrew. -/
def hebrewLetter : CodeSet :=
  CodeSet.inter Script.hebrew otherLetter

/-- Characters that connect letters, digits and katakana. -/
def connecting : CodeSet :=
  connectorPunctuation ++ .ofText "202F"

/-- Digits and the signs that go with them. -/
def numeric : CodeSet :=
  decimalNumber
    ++ .ofText "600-605 66B 6DD 890-891 8E2 19DA 110BD 110CD"

/-- Letters of scripts of South East Asia that have no blanks between words, other than Thai and
Lao.
-/
def unspaced : CodeSet :=
  .ofLines
    ["1000-102A 103F 1050-1055 105A-105D 1061 1065-1066 106E-1070 1075-1081 108E 1780-17B3",
     "17D7 17DC 1950-196D 1970-1974 1980-19AB 19B0-19C9 1A20-1A54 1AA7 A9E0-A9E4 A9E6-A9EF",
     "A9FA-A9FE AA60-AA76 AA7A AA7E-AAAF AAB1 AAB5-AAB6 AAB9-AABD AAC0 AAC2 AADB-AADD",
     "11700-1171A 11740-11746"]

/-- Signs that are no letters and yet are taken as such in words. -/
def nearLetter : CodeSet :=
  .ofLines
    ["B8 2C2-2C5 2D2-2D7 2DE-2DF 2E5-2EB 2ED 2EF-2FF 55A-55C 55E 58A 5F3 70F A708-A716",
     "A720-A721 A789-A78A AB5B"]

/-- Letters of words that are told apart by blanks and signs. -/
def wordLetter : CodeSet :=
  (alphabetic.minus (ideographic ++ katakana ++ Script.thai ++ Script.lao ++ Script.hiragana
    ++ wordExtending ++ hebrewLetter ++ unspaced)) ++ nearLetter

/-- Signs that may stand between letters. -/
def midLetter : CodeSet :=
  .ofText "3A B7 387 55F 5F4 2027 FE13 FE55 FF1A"

/-- Signs that may stand between digits. -/
def midNumber : CodeSet :=
  .ofText "2C 3B 37E 589 60C-60D 66C 7F8 2044 FE50 FE54 FF0C FF1B"

/-- Signs that may stand between letters and between digits. -/
def midNumberLetter : CodeSet :=
  .ofText "2E 2018-2019 2024 FE52 FF07 FF0E"

/-- Line ends other than carriage return and line feed. -/
def newline : CodeSet :=
  .ofText "B-C 85 2028-2029"

/-- Blanks that stay together. -/
def wordSpace : CodeSet :=
  .ofText "20 1680 2000-2006 2008-200A 205F 3000"

/-- The straight apostrophe. -/
def singleQuote : CodeSet :=
  .ofText "27"

/-- The straight quotation mark. -/
def doubleQuote : CodeSet :=
  .ofText "22"

/-- Characters that sentence borders pass over with the one before them. -/
def sentenceExtending : CodeSet :=
  graphemeExtend ++ spacingMark ++ zeroWidthJoiner

/-- Formats, which sentence borders pass over. -/
def sentenceFormat : CodeSet :=
  format.minus (.ofText "200C-200D 600-605 6DD 890-891 8E2 110BD 110CD E0020-E007F")

/-- Lowercase letters. Those of Georgian do not tell where a sentence ends. -/
def sentenceLower : CodeSet :=
  lowercase.minus (sentenceExtending ++ .ofText "10D0-10FA 10FD-10FF")

/-- Uppercase letters. Those of Georgian do not tell where a sentence ends. -/
def sentenceUpper : CodeSet :=
  (uppercase ++ titlecaseLetter).minus (.ofText "1C90-1CBA 1CBD-1CBF")

/-- Letters without case. -/
def sentenceLetter : CodeSet :=
  alphabetic.minus (sentenceLower ++ sentenceUpper ++ sentenceExtending) ++ .ofText "5F3"

/-- Digits and the signs that go with them. -/
def sentenceNumeric : CodeSet :=
  numeric ++ .ofText "66C"

/-- Brackets and quotation marks. -/
def closing : CodeSet :=
  (openPunctuation ++ closePunctuation ++ initialPunctuation ++ finalPunctuation ++ quotationMark
    ++ .ofText "275B-2760 2E00-2E01 2E06-2E08 2E0B 1F676-1F678").minus (.ofText "FF02 FF07")

/-- Full stops, which end a sentence or an abbreviation. -/
def ambiguousTerminal : CodeSet :=
  .ofText "2E 2024 FE52 FF0E"

/-- Signs that end a sentence. -/
def terminal : CodeSet :=
  sentenceTerminal.minus ambiguousTerminal

/-- Line ends other than carriage return and line feed. -/
def separating : CodeSet :=
  .ofText "85 2028-2029"

/-- Blanks other than line ends. -/
def sentenceSpace : CodeSet :=
  whiteSpace.minus (carriageReturn ++ lineFeed ++ separating)

/-- Signs after which a sentence goes on. -/
def continuing : CodeSet :=
  .ofLines
    ["2C-2D 3A-3B 37E 55D 60C-60D 7F8 1802 1808 2013-2014 3001 FE10-FE11 FE13-FE14 FE31-FE32",
     "FE50-FE51 FE54-FE55 FE58 FE63 FF0C-FF0D FF1A-FF1B FF64"]

/-- The names of what characters do at the borders of characters as a reader sees them. -/
def graphemeNamed : List (List String × CodeSet) := [
  (["cn", "control"], controlling),
  (["cr"], carriageReturn),
  (["lf"], lineFeed),
  (["ex", "extend"], extending),
  (["pp", "prepend"], prepending),
  (["sm", "spacingmark"], spacing),
  (["ri", "regionalindicator"], regionalIndicator),
  (["zwj"], zeroWidthJoiner),
  (["l"], leadingJamo),
  (["v"], vowelJamo),
  (["t"], trailingJamo),
  (["lv"], openSyllable),
  (["lvt"], closedSyllable)
]

/-- The names of what characters do at the borders of words. -/
def wordNamed : List (List String × CodeSet) := [
  (["le", "aletter"], wordLetter),
  (["cr"], carriageReturn),
  (["lf"], lineFeed),
  (["nl", "newline"], newline),
  (["dq", "doublequote"], doubleQuote),
  (["sq", "singlequote"], singleQuote),
  (["extend"], wordExtending),
  (["ex", "extendnumlet"], connecting),
  (["fo", "format"], wordFormat),
  (["hl", "hebrewletter"], hebrewLetter),
  (["ka", "katakana"], katakana),
  (["ml", "midletter"], midLetter),
  (["mn", "midnum"], midNumber),
  (["mb", "midnumlet"], midNumberLetter),
  (["nu", "numeric"], numeric),
  (["ri", "regionalindicator"], regionalIndicator),
  (["wsegspace"], wordSpace),
  (["zwj"], zeroWidthJoiner)
]

/-- The names of what characters do at the borders of sentences. -/
def sentenceNamed : List (List String × CodeSet) := [
  (["at", "aterm"], ambiguousTerminal),
  (["cr"], carriageReturn),
  (["lf"], lineFeed),
  (["cl", "close"], closing),
  (["ex", "extend"], sentenceExtending),
  (["fo", "format"], sentenceFormat),
  (["lo", "lower"], sentenceLower),
  (["up", "upper"], sentenceUpper),
  (["le", "oletter"], sentenceLetter),
  (["nu", "numeric"], sentenceNumeric),
  (["sc", "scontinue"], continuing),
  (["se", "sep"], separating),
  (["sp"], sentenceSpace),
  (["st", "sterm"], terminal)
]

end Casebook.Unicode.Break
