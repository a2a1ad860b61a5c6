import FormWizard.Unicode.Property

/-! How characters take part in dividing a text into what a reader sees as one character, into words
and into sentences.
-/

namespace FormWizard.Unicode

/-! ### Seen characters -/

/-- Letters that are seen as one with what follows them. -/
def prependedLetters : CharSet :=
  .ofTable [
    "D4E 111C2-111C3 113D1 1193F 11941 11A3A 11A84-11A89 11D46 11F02"]

/-- Marks with room of their own that are not seen as one with what they follow. -/
def separateSpacingMarks : CharSet :=
  .ofTable [
    "102B-102C 1038 1062-1064 1067-106D 1083 1087-108C 108F 109A-109C 1A61 1A63-1A64 AA7B AA7D",
    "11720-11721"]

/-- Vowels that are no marks but seen as one with what they follow. -/
def joinedVowels : CharSet :=
  .ofTable [
    "E33 EB3"]

/-- Consonants at the start of a Korean syllable. -/
def leadingJamo : CharSet :=
  .ofTable [
    "1100-115F A960-A97C"]

/-- Vowels in the middle of a Korean syllable. -/
def vowelJamo : CharSet :=
  .ofTable [
    "1160-11A7 D7B0-D7C6 16D63 16D67-16D6A"]

/-- Consonants at the end of a Korean syllable. -/
def trailingJamo : CharSet :=
  .ofTable [
    "11A8-11FF D7CB-D7FB"]

/-- Korean syllables in one character. -/
def hangulSyllables : CharSet :=
  .ofTable ["AC00-D7A3"]

/-- Korean syllables in one character that end in a vowel. -/
def openHangulSyllables : CharSet :=
  .ofTable ["AC00-D788/1C"]

/-- Characters without a shape that the division into seen characters does not treat as controls:
the ends of lines, the two joiners and tags.
-/
def shapelessExceptions : CharSet :=
  .ofTable ["A D 200C-200D E0020-E007F"]

/-! ### Words -/

/-- Letters of scripts that put no blanks between words. -/
def unspacedLetters : CharSet :=
  .ofTable [
    "E01-E30 E32-E33 E40-E46 E81-E82 E84 E86-E8A E8C-EA3 EA5 EA7-EB0 EB2-EB3 EBD EC0-EC4 EC6",
    "EDC-EDF 1000-102A 103F 1050-1055 105A-105D 1061 1065-1066 106E-1070 1075-1081 108E",
    "1780-17B3 17D7 17DC 1950-196D 1970-1974 1980-19AB 19B0-19C9 1A20-1A54 1AA7 A9E0-A9E4",
    "A9E6-A9EF A9FA-A9FE AA60-AA76 AA7A AA7E-AAAF AAB1 AAB5-AAB6 AAB9-AABD AAC0 AAC2 AADB-AADD",
    "11700-1171A 11740-11746"]

/-- Marks and symbols that stand for letters within words. -/
def letterLikeSymbols : CharSet :=
  .ofTable [
    "2C2-2C5 2D2-2D7 2DE-2DF 2E5-2EB 2ED 2EF-2FF 55A-55C 55E 58A 5F3 70F A708-A716 A720-A721",
    "A789-A78A AB5B"]

/-- Letters of Hebrew. -/
def hebrewLetters : CharSet :=
  .ofTable [
    "5D0-5EA 5EF-5F2 FB1D FB1F-FB28 FB2A-FB36 FB38-FB3C FB3E FB40-FB41 FB43-FB44 FB46-FB4F"]

/-- Katakana and the signs that go with them. -/
def katakana : CharSet :=
  .ofTable [
    "3031-3035 309B-309C 30A0-30FA 30FC-30FF 31F0-31FF 32D0-32FE 3300-3357 FF66-FF9D",
    "1AFF0-1AFF3 1AFF5-1AFFB 1AFFD-1AFFE 1B000 1B120-1B122 1B155 1B164-1B167"]

/-- Punctuation that may stand between digits within a word. -/
def midNumbers : CharSet :=
  .ofTable [
    "2C 3B 37E 589 60C-60D 66C 7F8 2044 FE50 FE54 FF0C FF1B"]

/-- Ends of lines and pages, but for the two most common ones. -/
def wordNewlines : CharSet :=
  .ofTable [
    "B-C 85 2028-2029"]

/-- Blanks that may be broken at. -/
def wordBlanks : CharSet :=
  .ofTable [
    "20 1680 2000-2006 2008-200A 205F 3000"]

/-- Signs and marks that belong to numbers, though they are no decimal digits. -/
def numericSigns : CharSet :=
  .ofTable [
    "600-605 66B 6DD 890-891 8E2 19DA 110BD 110CD"]

/-! ### Sentences -/

/-- The letters of Georgian, which has no capitals in sentences. -/
def georgianLetters : CharSet :=
  .ofTable [
    "10D0-10FA 10FD-10FF 1C90-1CBA 1CBD-1CBF"]

/-- Ends of lines and paragraphs, but for the two most common ones. -/
def sentenceSeparators : CharSet :=
  .ofTable [
    "85 2028-2029"]

/-- Dots that may or may not end a sentence. -/
def fullStops : CharSet :=
  .ofTable [
    "2E 2024 FE52 FF0E"]

/-- Punctuation that goes on with a sentence. -/
def sentenceContinuers : CharSet :=
  .ofTable [
    "2C-2D 3A-3B 37E 55D 60C-60D 7F8 1802 1808 2013-2014 3001 FE10-FE11 FE13-FE14 FE31-FE32",
    "FE50-FE51 FE54-FE55 FE58 FE63 FF0C-FF0D FF1A-FF1B FF64"]

/-- Ornaments that close a sentence like quotation marks. -/
def ornamentalQuotes : CharSet :=
  .ofTable [
    "275B-2760 2E00-2E01 2E06-2E08 2E0B 1F676-1F678"]

end FormWizard.Unicode
