import Gatehouse.Unicode.Property
import Gatehouse.Unicode.Script

/-!
# Where texts can be divided

Characters fall into classes by which texts are divided into what readers take for characters, into
words and into sentences.  Classes that hold of no character have no name here.

Main definitions: `graphemeBreak?`, `wordBreak?` and `sentenceBreak?`.
-/

namespace Gatehouse.Unicode

/-! ## Characters as readers see them -/

/-- Syllables of Hangul without a final consonant: every twenty-eighth one. -/
def openSyllables : Ranges :=
  ⟨(List.range 399).map fun i => (0xAC00 + 28 * i, 0xAC00 + 28 * i)⟩

/-- Marks that belong to the character after them. -/
def prepended : Ranges :=
  (listed "PCM").union
    ⟨[(0xD4E, 0xD4E), (0x111C2, 0x111C3), (0x113D1, 0x113D1), (0x1193F, 0x1193F),
      (0x11941, 0x11941), (0x11A3A, 0x11A3A), (0x11A84, 0x11A89), (0x11D46, 0x11D46),
      (0x11F02, 0x11F02)]⟩

/-- Spacing marks that stand by themselves, and those that do not take up space. -/
def separateMarks : Ranges :=
  graphemeExtend.union
    ⟨[(0x102B, 0x102C), (0x1038, 0x1038), (0x1062, 0x1064), (0x1067, 0x106D), (0x1083, 0x1083),
      (0x1087, 0x108C), (0x108F, 0x108F), (0x109A, 0x109C), (0x1A61, 0x1A61), (0x1A63, 0x1A64),
      (0xAA7B, 0xAA7B), (0xAA7D, 0xAA7D), (0x11720, 0x11721)]⟩

/-- The characters of a class of the division into characters. -/
def graphemeBreak? (name : String) : Option Ranges :=
  match looseName name with
  | "cr" => some ⟨[(13, 13)]⟩
  | "lf" => some ⟨[(10, 10)]⟩
  | "cn" | "control" =>
    some ((Ranges.unionAll [category "Zl", category "Zp", category "Cc", category "Cf",
      defaultIgnorable.diff assigned]).diff
        (Ranges.unionAll [⟨[(10, 10), (13, 13), (0x200D, 0x200D)]⟩, listed "PCM", graphemeExtend]))
  | "ex" | "extend" => some (graphemeExtend.union emojiModifiers)
  | "l" => some ⟨[(0x1100, 0x115F), (0xA960, 0xA97C)]⟩
  | "v" => some ⟨[(0x1160, 0x11A7), (0xD7B0, 0xD7C6), (0x16D63, 0x16D63), (0x16D67, 0x16D6A)]⟩
  | "t" => some ⟨[(0x11A8, 0x11FF), (0xD7CB, 0xD7FB)]⟩
  | "lv" => some openSyllables
  | "lvt" => some ((⟨[(0xAC00, 0xD7A3)]⟩ : Ranges).diff openSyllables)
  | "pp" | "prepend" => some prepended
  | "ri" | "regionalindicator" => some regionalIndicators
  | "sm" | "spacingmark" =>
    some (((category "Mc").union ⟨[(0xE33, 0xE33), (0xEB3, 0xEB3)]⟩).diff separateMarks)
  | "zwj" => some ⟨[(0x200D, 0x200D)]⟩
  | _ => none

/-! ## Words and sentences -/

/-- The ranges of the letters of words, as text. -/
def wordLetterText : List String := [
    "1t p 6 p 1b 0 a 0 4 0 5 m 1 u 1 db 6 x 34 4 1 1 2 3 1 0 6 0 1 2 1 0 1 j 1 2a 1 3u 8 4l 1 ",
    "11 2 3 1 0 1 14 1 0 2w 0 18 16 z 1 1 2q 1 0 f 1 7 1 a 2 2 0 f 1 1 t t 2g b 0 o w 9 1 4 0 ",
    "5 l 4 0 9 0 3 0 n o 7 a 5 n 1 5 h 15 1m 1h 3 0 i 0 7 9 f f 4 7 2 1 2 l 1 6 1 0 3 3 3 0 g ",
    "0 d 1 1 2 e 1 a 0 8 5 4 1 2 l 1 6 1 1 1 1 1 1 v 3 1 0 j 2 g 8 1 2 1 l 1 6 1 1 1 4 3 0 i ",
    "0 f 1 n 0 b 7 2 1 2 l 1 6 1 1 1 4 3 0 u 1 1 2 f 0 h 0 1 5 3 2 1 3 3 1 1 0 1 1 3 1 3 2 3 ",
    "b m 0 1g 7 1 2 1 m 1 f 3 0 q 2 2 0 2 1 u 0 4 7 1 2 1 m 1 9 1 4 3 0 v 1 1 1 f 1 h 8 1 2 1 ",
    "14 2 0 g 0 5 2 8 2 o 5 5 h 3 n 1 8 1 0 2 6 8p 0 1r 7 1 z r 4 7n 11 1 0 5 0 2 16 1 98 1 3 ",
    "2 6 1 0 1 3 2 14 1 3 2 w 1 3 2 6 1 0 1 3 2 e 1 1k 1 3 2 1u 11 f g 2d 2 5 3 h7 2 g 1 p 5 ",
    "22 3 a 7 h d i e h e c 1 2 4v 2g 7 4 2 x 1 0 5 1x a u 69 m 6m 1a h 7 1i t d 1 a 17 q z ",
    "15 2 a z 2 a 5 16 2 2 15 3 1 5 1 1 3 0 5 5b 1s 7p 2 5 2 11 2 5 2 7 1 0 1 0 1 0 1 u 2 1g ",
    "1 6 1 0 3 2 1 6 3 3 2 5 4 c 5 2 1 6 38 0 d 0 g c 2t 0 4 0 2 9 1 0 3 4 6 0 1 0 1 0 1 3 1 ",
    "a 2 3 5 4 4 0 h 14 ml 1f 1ee 6c 6 3 3 1 c 11 1 0 5 0 2 1j 7 0 g m 9 6 1 6 1 6 1 6 1 6 1 ",
    "6 1 6 1 6 28 0 d1 0 1h 1 5k 16 1 2l h v ls0 wc 1v 19 2 7g 3 f a 1 k 1a g u 2 27 o 5h 2 1 ",
    "1 0 1 7 l f 1 2 1 3 1 m t 1f e 1d 1q 5 3 0 1 1 b r a m p s 7 1a s 0 1c 14 n 2 1 7 44 a 7 ",
    "2 c 5 2 5 2 5 9 6 1 6 1 1l 6 36 t 8mb c m 4 1c 6x0 6 c 4 1k 2p x a2 i 1r 2 1h 14 b 38 4 ",
    "1 3q 10 p 6 p 1x u 3 5 2 5 2 5 2 2 z b 1 p 1 i 1 1 1 e 2 d y 3e 1x 1g 7f s 3 1c 1b v d t ",
    "5 11 a t 2 z 4 7 1 4 16 4d i z 4 z 4 13 8 1f c a 1 e 1 6 1 1 1 a 1 e 1 6 1 1 3 1f c 8m 9 ",
    "l a 7 o 5 1 15 1 8 1x 5 2 0 1 17 1 1 3 0 2 m a m 9 u 1t i 1 1 a l a p 1y 1j 6 1 1s 0 f 3 ",
    "1 2 1 s 16 s 3 s z 7 1 r r 1h a l a i d h 32 20 1j 1e d 1e d z 12 r 9 m 6y 15 6 1 g 2 1n ",
    "s a 0 8 l 16 h 1a k r m c 1g 1l 1 2 0 d 18 w o q z t 0 2 0 8 y 3 0 c 1b e 3 l 0 1 0 z h ",
    "1 o j 1 1r 6 1 0 1 3 1 e 1 9 7 1a 12 7 2 1 2 l 1 6 1 1 1 4 3 0 i 0 c 4 u 9 1 0 2 0 1 11 ",
    "1 0 p 0 1 0 18 1g i 3 k 2 u 1b k 1 1 0 54 1a 15 3 10 1b k 0 1n 16 d 0 93 17 38 1r v 7 2 ",
    "0 2 7 1 1 1 n f 0 1 0 2m 7 2 12 g 0 1 0 s 0 a 13 7 0 l 0 b 19 j 0 i 20 5j w v 8 1 10 h 0 ",
    "1d t 34 6 1 1 1 11 l 0 p 5 1 1 1 v e 0 93 i f 0 1 c 1 x 3g 0 27 pl 2u 32 h 5f 218 2o f ",
    "tr h 5 p 32y 5 g6 5a1 t 1cy fs 7 u h 26 h t i 1b g 3 v k 5 i c0 18 5v 1r 3k 22 5 0 1u c ",
    "1s 1 1 0 f18 2y 5 c 3 8 7 9 4me 2c 1 1y 1 1 2 0 2 1 2 3 1 b 1 0 1 6 1 1s 1 3 2 7 1 6 1 r ",
    "1 3 1 4 1 0 3 6 1 9f 2 o 1 o 1 u 1 o 1 u 1 o 1 u 1 o 1 u 1 o 1 7 1f8 u 6 5 79 1p 42 18 a ",
    "6 g 0 8x t i 17 dg r 6c t 2 0 dr 6 1 3 1 1 1 e 1 5g 1n 1v 7 0 xg 3 1 q 1 1 1 0 2 0 1 9 1 ",
    "3 1 0 1 0 6 0 4 0 1 0 1 0 1 2 1 1 1 0 2 0 1 0 1 0 1 0 1 0 1 1 1 0 2 3 1 6 1 3 1 3 1 0 1 ",
    "9 1 g 5 2 1 4 1 g hg p 6 p 6 p"]

/-- The ranges of the digits of numbers, as text. -/
def numericText : List String := [
    "1c 9 152 5 2i 9 1 0 35 0 i 9 5i 9 5i 1 28 0 3n 9 3a 9 3a 9 3a 9 3a 9 3a 9 3a 9 3a 9 3a 9 ",
    "3a 9 2o 9 3a 9 1y 9 7q 9 1y 9 1fq 9 12 9 8c 9 3k 9 4m 9 6 9 52 9 2e 9 3q 9 6 9 r7q 9 iu ",
    "9 12 9 5i 9 m 9 2e 9 ba 9 geu 9 13a 9 1om 9 6 9 m4 9 25 0 f 0 y 9 1o 9 40 9 7q 9 9i 9 3a ",
    "9 ae 9 2u 9 6 j 24 9 bq 9 2u 9 ie 9 2e 9 6u 9 1y 9 bq 9 d06 9 1t2 9 2e 9 3q 9 eu 9 iuu 9 ",
    "250 1d 1ts 9 bq 9 dy 9 6v 9 np 9 3o6 9"]

/-- The ranges of the signs and letters of Katakana, as text. -/
def katakanaText : List String := [
    "9ip 4 2t 1 3 2i 1 3 6o f 5s 1a 1 2f 14b2 1j ytu 3 1 6 1 1 1 0 7z 2 1e 0 e 3"]

/-- The ranges of the signs after which a sentence goes on, as text. -/
def sentenceContinueText : List String := [
    "18 1 c 1 n6 0 da 0 4u 1 dm 0 361 0 5 0 1l6 1 358 0 14pa 1 1 1 s 1 t 1 2 1 2 0 a 0 4o 1 c ",
    "1 20 0"]

/-- Marks that extend the character before them, spacing ones included. -/
def extendingMarks : Ranges :=
  graphemeExtend.union (category "Mc")

/-- The characters of a class of the division into words. -/
def wordBreak? (name : String) : Option Ranges :=
  match looseName name with
  | "cr" => some ⟨[(13, 13)]⟩
  | "dq" | "doublequote" => some ⟨[(0x22, 0x22)]⟩
  | "ex" | "extendnumlet" => some ((category "Pc").union ⟨[(0x202F, 0x202F)]⟩)
  | "extend" => some (extendingMarks.union emojiModifiers)
  | "fo" | "format" =>
    some ((category "Cf").diff
      (Ranges.unionAll [⟨[(0x200B, 0x200D)]⟩, graphemeExtend, listed "PCM"]))
  | "hl" | "hebrewletter" =>
    some (((scriptRanges? "Hebr").getD Ranges.empty).inter (category "Lo"))
  | "ka" | "katakana" => some (Ranges.ofText (String.join katakanaText))
  | "le" | "aletter" => some (Ranges.ofText (String.join wordLetterText))
  | "lf" => some ⟨[(10, 10)]⟩
  | "mb" | "midnumlet" =>
    some ⟨[(0x2E, 0x2E), (0x2018, 0x2019), (0x2024, 0x2024), (0xFE52, 0xFE52), (0xFF07, 0xFF07),
      (0xFF0E, 0xFF0E)]⟩
  | "ml" | "midletter" =>
    some ⟨[(0x3A, 0x3A), (0xB7, 0xB7), (0x387, 0x387), (0x55F, 0x55F), (0x5F4, 0x5F4),
      (0x2027, 0x2027), (0xFE13, 0xFE13), (0xFE55, 0xFE55), (0xFF1A, 0xFF1A)]⟩
  | "mn" | "midnum" =>
    some ⟨[(0x2C, 0x2C), (0x3B, 0x3B), (0x37E, 0x37E), (0x589, 0x589), (0x60C, 0x60D),
      (0x66C, 0x66C), (0x7F8, 0x7F8), (0x2044, 0x2044), (0xFE10, 0xFE10), (0xFE14, 0xFE14), (0xFE50, 0xFE50),
      (0xFE54, 0xFE54), (0xFF0C, 0xFF0C), (0xFF1B, 0xFF1B)]⟩
  | "nl" | "newline" => some ⟨[(11, 12), (0x85, 0x85), (0x2028, 0x2029)]⟩
  | "nu" | "numeric" => some (Ranges.ofText (String.join numericText))
  | "ri" | "regionalindicator" => some regionalIndicators
  | "sq" | "singlequote" => some ⟨[(0x27, 0x27)]⟩
  | "wsegspace" =>
    some ⟨[(0x20, 0x20), (0x1680, 0x1680), (0x2000, 0x2006), (0x2008, 0x200A), (0x205F, 0x205F),
      (0x3000, 0x3000)]⟩
  | "zwj" => some ⟨[(0x200D, 0x200D)]⟩
  | _ => none

/-- Letters of sentences that are lower case; the Georgian ones are not. -/
def sentenceLower : Ranges :=
  (lowercase.diff graphemeExtend).diff ⟨[(0x10D0, 0x10FA), (0x10FD, 0x10FF)]⟩

/-- Letters of sentences that are upper case; the Georgian ones are not. -/
def sentenceUpper : Ranges :=
  (uppercase.union (category "Lt")).diff ⟨[(0x1C90, 0x1CBA), (0x1CBD, 0x1CBF)]⟩

/-- Full stops, which may end a sentence. -/
def fullStops : Ranges :=
  ⟨[(0x2E, 0x2E), (0x2024, 0x2024), (0xFE52, 0xFE52), (0xFF0E, 0xFF0E)]⟩

/-- The characters of a class of the division into sentences. -/
def sentenceBreak? (name : String) : Option Ranges :=
  match looseName name with
  | "at" | "aterm" => some fullStops
  | "cl" | "close" =>
    some ((Ranges.unionAll [category "Ps", category "Pe", category "Pi", category "Pf",
      ⟨[(0x22, 0x22), (0x27, 0x27), (0x275B, 0x2760), (0x2E00, 0x2E01), (0x2E06, 0x2E08),
        (0x2E0B, 0x2E0B), (0x1F676, 0x1F678)]⟩]).diff
        (listed "STerm"))
  | "cr" => some ⟨[(13, 13)]⟩
  | "ex" | "extend" => some (extendingMarks.union ⟨[(0x200D, 0x200D)]⟩)
  | "fo" | "format" =>
    some ((category "Cf").diff
      (Ranges.unionAll [⟨[(0x200C, 0x200D)]⟩, graphemeExtend, listed "PCM"]))
  | "le" | "oletter" =>
    some ((alphabetic.union ⟨[(0x5F3, 0x5F3), (0x70F, 0x70F)]⟩).diff
      (Ranges.unionAll [sentenceLower, sentenceUpper, extendingMarks]))
  | "lf" => some ⟨[(10, 10)]⟩
  | "lo" | "lower" => some sentenceLower
  | "nu" | "numeric" =>
    some ((Ranges.ofText (String.join numericText)).union ⟨[(0x66C, 0x66C)]⟩)
  | "sc" | "scontinue" => some (Ranges.ofText (String.join sentenceContinueText))
  | "se" | "sep" => some ⟨[(0x85, 0x85), (0x2028, 0x2029)]⟩
  | "sp" =>
    some (whiteSpace.diff ⟨[(10, 10), (13, 13), (0x85, 0x85), (0x2028, 0x2029)]⟩)
  | "st" | "sterm" => some ((listed "STerm").diff fullStops)
  | "up" | "upper" => some sentenceUpper
  | _ => none

end Gatehouse.Unicode
