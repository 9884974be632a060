import Polyglot.Regex.Property.Binary

/-!
# `Polyglot.Regex.Property.Segmentation`: how text is cut into characters, words and sentences

The values of `Grapheme_Cluster_Break`, `Word_Break` and `Sentence_Break`, each with the
characters that have it. Most are derived from categories and properties.
-/

set_option autoImplicit false

namespace Polyglot.Regex.Property

/-- Marks that take room and do not go on a user-perceived character. -/
def spacingException : CharSet := .ofTable [
    "102b-102c 1038 1062-1064 1067-106d 1083 1087-108c 108f 109a-109c 1a61 1a63-1a64 aa7b aa7d",
    "11720-11721"]

/-- Characters that belong to the one behind them. -/
def prepended : CharSet := .ofTable [
    "600-605 6dd 70f 890-891 8e2 d4e 110bd 110cd 111c2-111c3 113d1 1193f 11941 11a3a",
    "11a84-11a89 11d46 11f02"]

/-- Consonants that start a syllable block. -/
def leadingJamo : CharSet := .ofTable ["1100-115f a960-a97c"]

/-- Vowels of a syllable block. -/
def vowelJamo : CharSet := .ofTable ["1160-11a7 d7b0-d7c6 16d63 16d67-16d6a"]

/-- Consonants that end a syllable block. -/
def trailingJamo : CharSet := .ofTable ["11a8-11ff d7cb-d7fb"]

/-- Syllable blocks without a consonant at the end. -/
def openSyllable : CharSet := .ofTable ["ac00-d788/1c"]

/-- All syllable blocks. -/
def syllable : CharSet := .ofTable ["ac00-d7a3"]

/-- Controls, around which text is always cut. -/
def breakControl : CharSet := .ofTable [
    "0-9 b-c e-1f 7f-9f ad 61c 180e 200b 200e-200f 2028-202e 2060-206f feff fff0-fffb",
    "13430-1343f 1bca0-1bca3 1d173-1d17a e0000-e001f e0080-e00ff e01f0-e0fff"]

/-- Format characters that words go on over. -/
def wordFormat : CharSet := .ofTable [
    "ad 600-605 61c 6dd 70f 890-891 8e2 180e 200e-200f 202a-202e 2060-2064 2066-206f feff",
    "fff9-fffb 110bd 110cd 13430-1343f 1bca0-1bca3 1d173-1d17a e0001"]

/-- Letters of Hebrew. -/
def hebrewLetter : CharSet := .ofTable [
    "5d0-5ea 5ef-5f2 fb1d fb1f-fb28 fb2a-fb36 fb38-fb3c fb3e fb40-fb41 fb43-fb44 fb46-fb4f"]

/-- Characters of Katakana words. -/
def katakana : CharSet := .ofTable [
    "3031-3035 309b-309c 30a0-30fa 30fc-30ff 31f0-31ff 32d0-32fe 3300-3357 ff66-ff9d",
    "1aff0-1aff3 1aff5-1affb 1affd-1affe 1b000 1b120-1b122 1b155 1b164-1b167"]

/-- Letters of scripts that put no blanks between words. -/
def unspacedLetter : CharSet := .ofTable [
    "e01-e30 e32-e33 e40-e46 e81-e82 e84 e86-e8a e8c-ea3 ea5 ea7-eb0 eb2-eb3 ebd ec0-ec4 ec6",
    "edc-edf 1000-102a 103f 1050-1055 105a-105d 1061 1065-1066 106e-1070 1075-1081 108e",
    "1780-17b3 17d7 17dc 1950-196d 1970-1974 1980-19ab 19b0-19c9 1a20-1a54 1aa7 3041-3096",
    "309d-309f a9e0-a9e4 a9e6-a9ef a9fa-a9fe aa60-aa76 aa7a aa7e-aaaf aab1 aab5-aab6 aab9-aabd",
    "aac0 aac2 aadb-aadd 11700-1171a 11740-11746 1b001-1b11f 1b132 1b150-1b152"]

/-- Characters of words that are not alphabetic. -/
def otherWordLetter : CharSet := .ofTable [
    "2c2-2c5 2d2-2d7 2de-2df 2e5-2eb 2ed 2ef-2ff 55a-55c 55e 58a 5f3 a708-a716 a720-a721",
    "a789-a78a ab5b"]

/-- Stops inside of words and numbers. -/
def midNumLet : CharSet := .ofTable ["2e 2018-2019 2024 fe52 ff07 ff0e"]

/-- Signs inside of words. -/
def midLetter : CharSet := .ofTable ["3a b7 387 55f 5f4 2027 fe13 fe55 ff1a"]

/-- Signs inside of numbers. -/
def midNum : CharSet := .ofTable [
    "2c 3b 37e 589 60c-60d 66c 7f8 2044 fe10 fe14 fe50 fe54 ff0c ff1b"]

/-- Ends of lines. -/
def newline : CharSet := .ofTable ["b-c 85 2028-2029"]

/-- Digits and signs of numbers. -/
def wordNumeric : CharSet := .ofTable [
    "30-39 660-669 66b 6f0-6f9 7c0-7c9 966-96f 9e6-9ef a66-a6f ae6-aef b66-b6f be6-bef c66-c6f",
    "ce6-cef d66-d6f de6-def e50-e59 ed0-ed9 f20-f29 1040-1049 1090-1099 17e0-17e9 1810-1819",
    "1946-194f 19d0-19d9 1a80-1a89 1a90-1a99 1b50-1b59 1bb0-1bb9 1c40-1c49 1c50-1c59 a620-a629",
    "a8d0-a8d9 a900-a909 a9d0-a9d9 a9f0-a9f9 aa50-aa59 abf0-abf9 ff10-ff19 104a0-104a9",
    "10d30-10d39 10d40-10d49 11066-1106f 110f0-110f9 11136-1113f 111d0-111d9 112f0-112f9",
    "11450-11459 114d0-114d9 11650-11659 116c0-116c9 116d0-116e3 11730-11739 118e0-118e9",
    "11950-11959 11bf0-11bf9 11c50-11c59 11d50-11d59 11da0-11da9 11f50-11f59 16130-16139",
    "16a60-16a69 16ac0-16ac9 16b50-16b59 16d70-16d79 1ccf0-1ccf9 1d7ce-1d7ff 1e140-1e149",
    "1e2f0-1e2f9 1e4f0-1e4f9 1e5f1-1e5fa 1e950-1e959 1fbf0-1fbf9"]

/-- Connectors of words. -/
def wordConnector : CharSet := .ofTable ["5f 202f 203f-2040 2054 fe33-fe34 fe4d-fe4f ff3f"]

/-- Blanks that are kept together. -/
def wordSpace : CharSet := .ofTable ["20 1680 2000-2006 2008-200a 205f 3000"]

/-- Stops that may end a sentence. -/
def sentenceStop : CharSet := .ofTable ["2e 2024 fe52 ff0e"]

/-- Quotes and brackets around sentences. -/
def sentenceClose : CharSet := .ofTable [
    "22 27-29 5b 5d 7b 7d ab bb f3a-f3d 169b-169c 2018-201f 2039-203a 2045-2046 207d-207e",
    "208d-208e 2308-230b 2329-232a 275b-2760 2768-2775 27c5-27c6 27e6-27ef 2983-2998 29d8-29db",
    "29fc-29fd 2e00-2e0d 2e1c-2e1d 2e20-2e29 2e42 2e55-2e5c 3008-3011 3014-301b 301d-301f",
    "fd3e-fd3f fe17-fe18 fe35-fe44 fe47-fe48 fe59-fe5e ff08-ff09 ff3b ff3d ff5b ff5d ff5f-ff60",
    "ff62-ff63 1f676-1f678"]

/-- Signs after which a sentence goes on. -/
def sentenceContinue : CharSet := .ofTable [
    "2c-2d 3a 55d 60c-60d 7f8 1802 1808 2013-2014 3001 fe10-fe11 fe13 fe31-fe32 fe50-fe51 fe55",
    "fe58 fe63 ff0c-ff0d ff1a ff64"]

/-- Ends of paragraphs. -/
def sentenceSeparator : CharSet := .ofTable ["85 2028-2029"]

/-- Blanks between sentences. -/
def sentenceSpace : CharSet := .ofTable ["9 b-c 20 a0 1680 2000-200a 202f 205f 3000"]

/-- Digits and signs of numbers in sentences. -/
def sentenceNumeric : CharSet := .ofTable [
    "30-39 660-669 66b-66c 6f0-6f9 7c0-7c9 966-96f 9e6-9ef a66-a6f ae6-aef b66-b6f be6-bef",
    "c66-c6f ce6-cef d66-d6f de6-def e50-e59 ed0-ed9 f20-f29 1040-1049 1090-1099 17e0-17e9",
    "1810-1819 1946-194f 19d0-19d9 1a80-1a89 1a90-1a99 1b50-1b59 1bb0-1bb9 1c40-1c49 1c50-1c59",
    "a620-a629 a8d0-a8d9 a900-a909 a9d0-a9d9 a9f0-a9f9 aa50-aa59 abf0-abf9 ff10-ff19",
    "104a0-104a9 10d30-10d39 10d40-10d49 11066-1106f 110f0-110f9 11136-1113f 111d0-111d9",
    "112f0-112f9 11450-11459 114d0-114d9 11650-11659 116c0-116c9 116d0-116e3 11730-11739",
    "118e0-118e9 11950-11959 11bf0-11bf9 11c50-11c59 11d50-11d59 11da0-11da9 11f50-11f59",
    "16130-16139 16a60-16a69 16ac0-16ac9 16b50-16b59 16d70-16d79 1ccf0-1ccf9 1d7ce-1d7ff",
    "1e140-1e149 1e2f0-1e2f9 1e4f0-1e4f9 1e5f1-1e5fa 1e950-1e959 1fbf0-1fbf9"]

/-- Format characters that sentences go on over. -/
def sentenceFormat : CharSet := .ofTable [
    "ad 600-605 61c 6dd 70f 890-891 8e2 180e 200b 200e-200f 202a-202e 2060-2064 2066-206f feff",
    "fff9-fffb 110bd 110cd 13430-1343f 1bca0-1bca3 1d173-1d17a e0001"]

/-- Letters of Georgian, whose sentences start without capitals. -/
def uncasedGeorgian : CharSet := .ofTable ["10d0-10fa 10fd-10ff 1c90-1cba 1cbd-1cbf"]

/-- Marks that take room and go on a user-perceived character. -/
def graphemeSpacing : CharSet :=
  ((spacingMark.union (.ofTable ["e33 eb3"])).diff spacingException).diff
    (graphemeExtend.union emojiModifier)

/-- The values of `Grapheme_Cluster_Break`. -/
def graphemeBreaks : List (List String × CharSet) := [
  (["CN", "Control"], breakControl),
  (["CR"], .single '\r'),
  (["EX", "Extend"], graphemeExtend.union emojiModifier),
  (["L"], leadingJamo),
  (["LF"], .single '\n'),
  (["LV"], openSyllable),
  (["LVT"], syllable.diff openSyllable),
  (["PP", "Prepend"], prepended),
  (["RI", "Regional_Indicator"], regionalIndicator),
  (["SM", "SpacingMark"], graphemeSpacing),
  (["T"], trailingJamo),
  (["V"], vowelJamo),
  (["ZWJ"], .single '\u200d')]

/-- Marks that words go on over. -/
def wordExtend : CharSet := .unionAll [graphemeExtend, spacingMark, emojiModifier]

/-- Letters of words. -/
def wordLetter : CharSet :=
  (alphabetic.diff
    (.unionAll [ideographic, hebrewLetter, katakana, wordExtend, unspacedLetter])).union
    otherWordLetter

/-- The values of `Word_Break`. -/
def wordBreaks : List (List String × CharSet) := [
  (["LE", "ALetter"], wordLetter),
  (["CR"], .single '\r'),
  (["DQ", "Double_Quote"], .single '"'),
  (["Extend"], wordExtend),
  (["EX", "ExtendNumLet"], wordConnector),
  (["FO", "Format"], wordFormat),
  (["HL", "Hebrew_Letter"], hebrewLetter),
  (["KA", "Katakana"], katakana),
  (["LF"], .single '\n'),
  (["ML", "MidLetter"], midLetter),
  (["MN", "MidNum"], midNum),
  (["MB", "MidNumLet"], midNumLet),
  (["NL", "Newline"], newline),
  (["NU", "Numeric"], wordNumeric),
  (["RI", "Regional_Indicator"], regionalIndicator),
  (["SQ", "Single_Quote"], .single '\''),
  (["WSegSpace"], wordSpace),
  (["ZWJ"], .single '\u200d')]

/-- Marks that sentences go on over. -/
def sentenceExtend : CharSet := .unionAll [graphemeExtend, spacingMark, .single '\u200d']

/-- Lower-case characters in sentences. -/
def sentenceLower : CharSet := (lowercase.diff sentenceExtend).diff uncasedGeorgian

/-- Upper-case characters in sentences. -/
def sentenceUpper : CharSet := (uppercase.union titlecaseLetter).diff uncasedGeorgian

/-- Letters without case in sentences. -/
def sentenceLetter : CharSet :=
  (alphabetic.diff (.unionAll [sentenceExtend, sentenceLower, sentenceUpper])).union
    (.single '\u05f3')

/-- The values of `Sentence_Break`. -/
def sentenceBreaks : List (List String × CharSet) := [
  (["AT", "ATerm"], sentenceStop),
  (["CR"], .single '\r'),
  (["CL", "Close"], sentenceClose),
  (["EX", "Extend"], sentenceExtend),
  (["FO", "Format"], sentenceFormat),
  (["LF"], .single '\n'),
  (["LO", "Lower"], sentenceLower),
  (["NU", "Numeric"], sentenceNumeric),
  (["LE", "OLetter"], sentenceLetter),
  (["SC", "SContinue"], sentenceContinue),
  (["ST", "STerm"], sentenceTerminal.diff sentenceStop),
  (["SE", "Sep"], sentenceSeparator),
  (["SP", "Sp"], sentenceSpace),
  (["UP", "Upper"], sentenceUpper)]

end Polyglot.Regex.Property
