import Gatehouse.Unicode.Category

/-!
# Properties of characters

A property holds of some characters and of no others.  Many properties are listed character by
character; the others follow from the categories and from properties that are listed.

Main definitions: `listed?`, `derived?` and `binaryProperty?`.
-/

namespace Gatehouse.Unicode

/-! ## Listed properties -/

/-- The names of each property that is listed, and its ranges as text. -/
def listedTexts : List (List String × List String) := [
  (["Bidi_C", "Bidi_Control"], [
    "17g 0 54h 1 q 4 1j 3"]),
  (["Bidi_M", "Bidi_Mirrored"], [
    "14 1 i 0 1 0 s 0 1 0 t 0 1 0 19 0 f 0 2v2 3 1gd 1 1wc 1 a 1 1i 1 e 1 4x 0 5c 3 3 5 3 0 3 ",
    "1 3 3 1 3 1 0 1 0 4 8 5 0 1 h 5 3 9 1 1 0 1 7 1 v 2 3 5 0 9 1 2 i 5 1 9 4 2 1 4 n 2 f 8 ",
    "3 k 1 7 1 u5 d 22 0 2 3 1 1 1 2 5 3 5 2 3 d b7 l 2 5 1 d 8 0 7 5 3 0 4 4 1 1 2 4 4 0 1 2 ",
    "2 1 a 5 2 1 c i 1 3 2 0 1 0 2 0 1 3 5 1 6 2 o 1 b 1 4 3 1 1 2 1 4 16 2 7 1 13 5 0 1 0 3 ",
    "4 5 2 4 0 3 4 1 0 74 0 eb 3 3 1 1 1 e 1 2 9 17 7 bv 9 2 7 14ql 5 5 1 4i 1 i 0 1 0 s 0 1 ",
    "0 t 0 1 0 1 1 1 1 16k7 0 1l 0 1l 0 1l 0 1l 0"]),
  (["Dash"], [
    "19 0 124 0 1f 0 2td 0 sl 0 1l5 5 1p 0 13 0 f 0 au 0 2dg 0 2 0 v 1 4 0 s 0 ce 0 j 0 33 0 ",
    "14ls 1 11 0 a 0 4p 0 2u8 0 8u 0"]),
  (["Dep", "Deprecated"], [
    "95 0 10p 0 1s3 0 1 0 1m1 1 1qd 5 jd 1 jh06 0"]),
  (["Dia", "Diacritic"], [
    "2m 0 1 0 1z 0 6 0 4 0 2 1 dz 4e 1 7 5 5 h 1 4 0 9 1 71 4 5t 0 1j 18 1 0 1 1 1 1 1 0 3n 7 ",
    "4 1 3q 1 4 1 3 2 1v q 2j a 1m a y 1 3i 7 15 9 g r 1p 0 g 0 3 3 s 0 22 0 g 0 32 0 g 0 32 ",
    "0 g 0 1b 2 1o 0 g 0 7 0 3b 0 32 0 g 0 32 0 g 0 31 1 g 0 3g 0 33 0 c 5 1 0 2z 0 d 4 23 1 ",
    "r 0 1 0 1 0 4 1 1u 2 1 1 1q 0 34 0 1 1 14 1 4 4 p 6 1 0 a 1 jl 2 qc 1 u 0 44 a 9 0 9n 2 ",
    "84 0 k 7 2 0 1c e 2 a 2w 0 f 0 12 8 1i 1 1m 0 b 1 1u 1 1s 5 2a o 4 0 6 0 2 2 1e 1q 1c z ",
    "5 b 11 a cd 0 1 2 b 2 d 2 d 2 d 1 2k0 2 8t 0 e2 5 2x 3 2n 0 n76 0 c 1 1 0 s 1 2a 1 e x ",
    "2u 2 31 1 c 0 11 0 47 0 r h 1l 3 10 0 2n 0 c 0 10 0 45 2 1t 3 1f 0 2s 4 9 2 3k 1 fn4 0 ",
    "ld f 7i 0 1 0 1b 0 19 1 1v 0 l8 0 wv 5 1 15 1 8 hp 2 4 0 4l 1 fv 5 12 0 q 4 b3 2 1y a 1d ",
    "3 5c 0 15 0 20 1 3c 1 1q 0 24 0 9 2 2w 1 4y 1 28 1 g 0 o 6 3 4 2h 2 1 1 d 1 2n 0 3 0 3f ",
    "1 6z 1 3i 0 3a 1 37 0 7h 1 76 1 4 0 4c 0 2b 0 i 0 29 0 bp 0 76 0 1 1 29 0 bt 1 n 0 44s e ",
    "8ux 0 1xc 4 1n 6 fo 1 f6 g 28 1 cn2 3 1 6 1 1 64h 19 2 m f4 2 3 5 8 7 2 6 u 3 2v6 1p 5e ",
    "6 af 0 1p 3 la 1 kg 6 31 2 1 2"]),
  (["EBase", "Emoji_Modifier_Base"], [
    "7j1 0 63 0 g 3 2iyf 0 1o 2 2 0 2 2 39 1 2 a l i 3 0 4 2 1 2 7 0 1 0 o 0 5l 1 4 0 l 0 4 1 ",
    "4u 2 3 4 2b 0 g 2 9 0 b 0 fz 0 2 0 8 7 6 0 9 9 2 2 1k 0 1p 1 1 1 1 0 h 2 1 c 6d 2 16 8"]),
  (["EComp", "Emoji_Component"], [
    "z 0 6 0 5 9 6ab 0 5x 0 17or 0 1c5y p e3 4 14g 3 gw30 2n"]),
  (["Emoji"], [
    "z 0 6 0 5 9 33 0 4 0 68d 0 c 0 60 0 m 0 2i 5 f 1 a7 1 c 0 4m 0 p a 4 2 5j 0 6f 1 a 0 9 0 ",
    "1m 3 1 4 9 0 2 0 2 1 2 0 4 0 2 0 1 1 2 0 3 0 3 1 8 2 5 0 1 0 5 b b 1 2 0 1 1 1 0 i 0 2 1 ",
    "i 5 1 0 1 1 3 1 5 0 2 1 4 1 b 1 5 1 2 0 5 1 1 0 1 1 k 1 5 5 1 3 2 0 4 0 2 0 2 5 1 0 2 0 ",
    "1 0 1 0 6 0 3 0 6 0 a 1 f 0 2 0 4 0 1 0 4 2 1 0 b 1 1c 2 9 0 e 0 e 0 ac 1 cv 2 j 1 1f 0 ",
    "4 0 yi 0 c 0 gp 0 1 0 2fze 0 5m 0 4g 1 c 1 e 0 2 9 23 p 1 1 n 0 k 0 2 8 l 1 4u x 2 33 2 ",
    "1 1 2 2 2a 2 2 1 7a 1 1q b 5 1 n 7 1 2 7 c 0 2 3 2 0 4 1 d 1 2 0 8 1 9 0 5 2 c 2 8 2 2 0 ",
    "1 0 4 0 6 0 3 0 6 2d 1c 1x 5 7 2 2 4 9 3 0 1 1 3 0 2 9 6b b 4 0 7v 1a 1 9 1 54 34 c 3 9 ",
    "5 1j 7 e 2 a 6 8"]),
  (["EPres", "Emoji_Presentation"], [
    "6xm 1 5p 3 3 0 2 0 eh 1 l 1 1e b 17 0 j 0 d 0 8 1 h 1 5 1 8 0 5 0 l 0 7 1 1 0 4 0 2 0 7 ",
    "0 4 1 s 0 z 0 1 0 4 2 1 0 1p 2 o 0 e 0 nv 1 1f 0 4 0 2hf2 0 5m 0 5a 0 2 9 23 p 1 0 o 0 k ",
    "0 2 4 1 2 l 1 4u w c 8 1 1x 1 l c 16 4 4 c g 3 0 3 1y 1 0 1 56 2 1q d 3 1 n i 0 q 1 d 0 ",
    "2e 2c 1c 1x 6 0 3 2 2 2 4 3 b 1 7 8 6b b 4 0 7v 1a 1 9 1 54 34 c 3 9 5 1j 7 e 2 a 6 8"]),
  (["Ext", "Extender"], [
    "53 0 ew 1 oe 0 c9 0 hi 0 3t 0 2h 0 kw 0 3j 0 1tv 0 1k 0 gz 0 b2 0 1w 0 3ux 0 17 4 2v 1 ",
    "2l 2 lxy 0 16e 0 qq 0 m 0 3t 0 30 0 l 1 gor 0 1lc 1 157 0 r 0 4 0 xz 0 85 0 38 1 du 2 y7 ",
    "0 fxl 1 ws 1 1 0 me0 1 xd 0 no 2"]),
  (["ExtPict", "Extended_Pictographic"], [
    "4p 0 4 0 68d 0 c 0 60 0 m 0 2i 5 f 1 a7 1 c 0 2n 0 1y 0 p a 4 2 5j 0 6f 1 a 0 9 0 1m 3 1 ",
    "5 1 b 1 35 a 39 2 a 1 0 1 0 6 0 3 0 6 0 a 1 f 0 2 0 4 0 1 0 4 2 1 0 b 4 19 2 9 0 e 0 e 0 ",
    "ac 1 cv 2 j 1 1f 0 4 0 yi 0 c 0 gp 0 1 0 2fza 73 d 2 v 0 1o 5 c 1 e 0 2 9 i 1k r e a 0 k ",
    "0 2 8 1 3 9 c1 5 8t 8 7d 1c 3j 38 b 2d 16 c 3 1k 7 a 5 14 7 u 29 c 1a 1 9 1 c8 74 sd"]),
  (["Gr_Link", "Grapheme_Link"], [
    "1u5 0 3j 0 3j 0 3j 0 3j 0 3j 0 3j 0 3j 0 31 1 g 0 3g 0 33 0 3j 0 5l 0 50 1 1cp 1 u 0 4d ",
    "0 i5 0 6b 0 2t 1 1y 1 3gr 0 o7a 0 11 0 47 0 3y 0 30 0 8l 0 6u 0 imp 0 16u 0 15 0 e 0 1l ",
    "0 3d 1 3v 0 38 0 50 0 2q 0 3k 2 35 0 3j 0 70 0 3j 0 3a 0 38 0 7h 0 77 1 4h 0 2b 0 i 0 29 ",
    "0 bp 0 78 1 29 0 bt 1 d0s 0"]),
  (["Hyphen"], [
    "19 0 3j 0 yk 0 3nf 0 1l5 1 2rp 0 kj 0 14kn 0 4p 0 2f 0"]),
  (["Ideo", "Ideographic"], [
    "9hi 1 p 8 e 2 qt 533 1s g73 hkw a5 2 2x n4a 0 r 4qf 8 yd 15 9 76v az f7o wyn w 37d 6 65 ",
    "2 4g1 e 5rk f h9 1wi f1 15u 3t6 5 38f"]),
  (["LOE", "Logical_Order_Exception"], [
    "2tc 4 3f 4 25s 2 2 0 smy 1 2 0 1 1"]),
  (["MCM", "Modifier_Combining_Mark"], [
    "190 1 2 0 3n 0 6 0 3 1 dd 1 1 2 3 0 v 0"]),
  (["NChar", "Noncharacter_Code_Point"], [
    "1e4w v em 1 1eke 1 1eke 1 1eke 1 1eke 1 1eke 1 1eke 1 1eke 1 1eke 1 1eke 1 1eke 1 1eke 1 ",
    "1eke 1 1eke 1 1eke 1 1eke 1 1eke 1"]),
  (["ODI", "Other_Default_Ignorable_Code_Point"], [
    "nj 0 2rz 1 18z 1 1pr 0 3cu 0 14qj 0 27 8 i9dz 0 1 t 2o 3j 6o 2rz"]),
  (["OMath", "Other_Math"], [
    "2m 0 oh 2 2 0 q 1 2 1 5k0 0 r 2 b 0 w 3 o 1 e 1 1t c 4 0 3 1 4 4 i 0 4 0 2 9 1 0 3 4 6 0 ",
    "3 1 2 1 1 2 1 5 3 3 5 4 23 4 2 3 1 1 1 1 1 0 1 4 2 1 4 1 4 h 2 1 1 0 1 6 1 0 6 1 82 3 4o ",
    "1 1 0 o 0 h 0 cd 1 c 8 5 4 5 1 2 1 3 4 e 0 1 0 2 5 o 1 1l 0 1 0 t 3 9 1 9i 1 v 9 b7 l 1r ",
    "3 w 1 15yb 0 1 0 4 0 5v 0 1 0 160x 2c 1 1y 1 1 2 0 2 1 2 3 1 b 1 0 1 6 1 1s 1 3 2 7 1 6 ",
    "1 r 1 3 1 4 1 0 3 6 1 9f 2 o 1 o 1 u 1 o 1 u 1 o 1 u 1 o 1 u 1 o 1 7 2 1d 4cg 3 1 q 1 1 ",
    "1 0 2 0 1 9 1 3 1 0 1 0 6 0 4 0 1 0 1 0 1 2 1 1 1 0 2 0 1 0 1 0 1 0 1 0 1 1 1 0 2 3 1 6 ",
    "1 3 1 3 1 0 1 9 1 g 5 2 1 4 1 g"]),
  (["Pat_Syn", "Pattern_Syntax"], [
    "x e a 6 q 3 1 0 q 3 y 6 1 0 1 1 1 0 1 1 4 0 4 0 3 0 n 0 v 0 654 n 8 e 2 i 1 9 8h jz 4g ",
    "hh u vf e8 3j ap 2 4 o f 0 14i5 1 79 1"]),
  (["PCM", "Prepended_Concatenation_Mark"], [
    "16o 5 5z 0 1d 0 ao 1 28 0 1g4a 0 f 0"]),
  (["QMark", "Quotation_Mark"], [
    "y 0 4 0 3n 0 f 0 670 7 p 1 2rr 0 cp 3 d 2 14pt 3 59 0 4 0 2i 1"]),
  (["Radical"], [
    "96o p 1 2g c 5x"]),
  (["SD", "Soft_Dotted"], [
    "2x 1 5g 0 7t 0 u 0 1g 0 k 0 8w 0 2q 0 1 0 4y1 0 1f 0 d 0 3 0 3o 0 4d 0 bp 0 5y 1 27m 0 ",
    "2bol 1 1e 1 1e 1 1e 1 1e 1 1e 1 1e 1 1e 1 1e 1 1e 1 1e 1 1e 1 1e 1 1om 0 8h 1 q 0"]),
  (["STerm", "Sentence_Terminal"], [
    "x 0 c 0 g 0 11l 0 43 2 50 0 17 2 6u 0 1p 0 1 0 3 1 85 1 1d0 1 ly 0 4 1 lh 0 5i 1 4d 1 19 ",
    "0 5 0 8q 1 9u 3 4i 1 a 1 2 1 t 2 57 1 1t 1 pw 0 n 1 9 2 2i7 2 8i 0 d 0 m 1 bx 0 n3w 0 7i ",
    "1 6b 0 3 0 am 1 2e 1 2n 0 48 1 43 2 40 1 6x 0 g86 0 2 1 1n 0 3 1 4p 0 c 0 g 0 1t 0 25w 1 ",
    "zh 4 18 3 59 1 39 3 3j 2 3l 1 6 0 g 1 2g 1 1 1 30 0 8a 1 39 1 ad 1 5 e 2x 1 6x 2 ed 0 1 ",
    "0 6z 1 2f 1 bo 1 j8 1 22 1 euh 1 3p 0 1t 1 b 0 fd 1 88 0 feu 0 5wo 0"]),
  (["Term", "Terminal_Punctuation"], [
    "x 0 a 0 1 0 b 1 3 0 n2 0 8 0 e9 0 1l 0 20 0 e 0 1 2 50 0 17 a 1 0 6j 1 1i 5 1 7 v 0 79 1 ",
    "z8 1 4s 0 4 5 8n 1 lx 7 lh 0 3g 2 1z 1 4d 2 3 0 13 3 2 1 8q 1 9u 3 4i 1 a 1 1 2 t 2 57 4 ",
    "1q 1 pw 0 n 1 9 2 2i7 2 8i 0 d 0 4 0 a 0 1 1 3 1 bw 1 n3v 1 7h 2 6b 4 am 1 2e 1 2n 0 47 ",
    "2 43 2 3j 0 g 1 6x 0 g86 0 2 1 1l 2 1 3 4p 0 a 0 1 0 b 1 3 0 1t 0 2 0 u2 0 1c 0 w6 0 5j ",
    "0 8m 1 48 5 1w 5 2h 3 qg 4 18 3 59 6 34 3 3j 2 3l 1 6 0 g 1 2g 4 30 0 8a 1 39 2 c 1 9y 3 ",
    "3 e 2x 1 6x 2 ed 0 1 0 6z 1 2f 1 4 1 bi 2 19 0 hx 1 22 1 10r 4 dtl 1 3p 0 1t 2 a 0 fd 1 ",
    "87 1 feu 0 5wn 3"]),
  (["UIdeo", "Unified_Ideograph"], [
    "a9s 533 1s g73 hse 1 1 0 1 1 a 0 1 0 1 1 2 2 1fpy wyn w 37d 6 65 2 4g1 e 5rk f h9 3he ",
    "3t6 5 38f"]),
  (["VS", "Variation_Selector"], [
    "4qz 2 1 0 19f4 f i9yo 6n"])]

/-- The characters with a listed property. -/
def listed? (name : String) : Option Ranges :=
  (listedTexts.find? fun (names, _) => names.any (looseName · == looseName name)).map
    fun (_, parts) => Ranges.ofText (String.join parts)

/-- The characters with a listed property, given by one of its names. -/
def listed (name : String) : Ranges :=
  (listed? name).getD Ranges.empty

/-- Signs for the tones of skin. -/
def emojiModifiers : Ranges := ⟨[(0x1F3FB, 0x1F3FF)]⟩

/-- Letters that are written in pairs for regions. -/
def regionalIndicators : Ranges := ⟨[(0x1F1E6, 0x1F1FF)]⟩

/-! ## Upper and lower case -/

/-- The ranges of the upper case characters without a lower case form. -/
def onlyUpperText : List String := [
    "r6 2 5rh 0 4 0 3 2 2 2 2 0 3 4 6 0 3 0 3 1 2 1 1 0 a 1 5 0 2dve p q p q p q 0 1 1 2 0 2 ",
    "1 2 3 1 7 q p q 1 1 3 2 7 1 6 r 1 1 3 1 4 1 0 3 6 r p q p q p q p q p q p u o x o x o x ",
    "o x o x 0 50l p 6 p 6 p"]

/-- The ranges of the lower case characters without an upper case form. -/
def onlyLowerText : List String := [
    "4q 0 f 0 3h 0 2c 0 s 1 e 0 3 0 2q 0 i 5 r 0 2 0 1 0 2 2 2 0 4 0 5 1 1 0 2 1 1 6 1 1 1 0 ",
    "2 2 6 4 1 0 1 7 2 p 7 1 u 4 45 0 3l 0 9v 0 13 0 29f 0 2df 3c 1 2 1 f 1 1c 64 1 1 0 cx 0 ",
    "d 0 g c 31 0 3 1 3 0 r 0 4 0 4 0 2 1 8 3 27b 0 2 0 2 6 2u 0 o1j 1 42 1 1q 8 l 0 6 0 p 0 ",
    "z 0 1 0 s 2 3 2 mt y 1 6 1 d i6u 0 2 2 1 15 1 8 14db p q 6 1 h q p q 3 1 0 1 6 1 a q p q ",
    "p q p q p q p q p q p q p q r s o 1 5 q o 1 5 q o 1 5 q o 1 5 q o 1 5 1 0 1f8 9 1 j 6 5 ",
    "79 1p"]

/-- The ranges of the characters that fold to another one and have no lower case form. -/
def foldedText : List String := [
    "51 0 15 0 2x 0 1h 0 cl 0 3g 0 d 1 3 1 p 1 3 0 b5 0 2uo 5 1oi 8 ep 1 6c 7 8 7 8 7 a 2 2 0 ",
    "a 2 2 0 16 2 2 0 rjs 27 fnk 6 c 4"]

/-- Characters that have a lower case form. -/
def changesWhenLowercased : Ranges :=
  (uppercase.union (category "Lt")).diff (Ranges.ofText (String.join onlyUpperText))

/-- Characters that have an upper case form. -/
def changesWhenUppercased : Ranges :=
  (lowercase.union (category "Lt")).diff (Ranges.ofText (String.join onlyLowerText))

/-- Characters that have another form at the start of a word.  The Georgian letters of texts have
none. -/
def changesWhenTitlecased : Ranges :=
  let georgian : Ranges := ⟨[(0x10D0, 0x10FA), (0x10FD, 0x10FF)]⟩
  let digraphs : Ranges := ⟨[(0x1C4, 0x1C4), (0x1C7, 0x1C7), (0x1CA, 0x1CA), (0x1F1, 0x1F1)]⟩
  (changesWhenUppercased.diff ((category "Lt").union georgian)).union digraphs

/-- Characters that fold to others.  The upper case of Cherokee folds to itself. -/
def changesWhenCasefolded : Ranges :=
  (changesWhenLowercased.diff ⟨[(0x13A0, 0x13F5)]⟩).union (Ranges.ofText (String.join foldedText))

/-- Characters with a case. -/
def cased : Ranges :=
  Ranges.unionAll [uppercase, lowercase, category "Lt"]

/-- Characters that are passed over where the case of the letters around a place counts: marks,
signs that stand for letters, and signs that may stand inside of words. -/
def caseIgnorable : Ranges :=
  Ranges.unionAll [category "Mn", category "Me", category "Cf", category "Lm", category "Sk",
    ⟨[(0x27, 0x27), (0x2E, 0x2E), (0x3A, 0x3A), (0xB7, 0xB7), (0x387, 0x387), (0x55F, 0x55F),
      (0x5F4, 0x5F4), (0x2018, 0x2019), (0x2024, 0x2024), (0x2027, 0x2027), (0xFE13, 0xFE13),
      (0xFE52, 0xFE52), (0xFE55, 0xFE55), (0xFF07, 0xFF07), (0xFF0E, 0xFF0E), (0xFF1A, 0xFF1A)]⟩]

/-! ## Names in programs -/

/-- Characters in which names begin besides letters. -/
def otherIdStart : Ranges :=
  ⟨[(0x1885, 0x1886), (0x2118, 0x2118), (0x212E, 0x212E), (0x309B, 0x309C)]⟩

/-- Characters with which names go on besides letters, marks and digits. -/
def otherIdContinue : Ranges :=
  ⟨[(0xB7, 0xB7), (0x387, 0x387), (0x1369, 0x1371), (0x19DA, 0x19DA), (0x200C, 0x200D),
    (0x30FB, 0x30FB), (0xFF65, 0xFF65)]⟩

/-- White space in programs. -/
def patternWhiteSpace : Ranges :=
  ⟨[(0x9, 0xD), (0x20, 0x20), (0x85, 0x85), (0x200E, 0x200F), (0x2028, 0x2029)]⟩

/-- Characters that names never contain. -/
def patternSigns : Ranges :=
  (listed "Pattern_Syntax").union patternWhiteSpace

/-- Characters with which names begin. -/
def idStart : Ranges :=
  (Ranges.unionAll [groupRanges 'L', category "Nl", otherIdStart]).diff patternSigns

/-- Characters with which names go on. -/
def idContinue : Ranges :=
  (Ranges.unionAll [idStart, category "Mn", category "Mc", decimalDigits, category "Pc",
    otherIdContinue]).diff patternSigns

/-- Characters in names that are not kept when names are normalized. -/
def unstable : Ranges :=
  ⟨[(0x37A, 0x37A), (0x309B, 0x309C), (0xFC5E, 0xFC63), (0xFDFA, 0xFDFB), (0xFE70, 0xFE70),
    (0xFE72, 0xFE72), (0xFE74, 0xFE74), (0xFE76, 0xFE76), (0xFE78, 0xFE78), (0xFE7A, 0xFE7A),
    (0xFE7C, 0xFE7C), (0xFE7E, 0xFE7E)]⟩

/-- Characters that go on with a name but do not begin one once it is normalized. -/
def unstableStart : Ranges :=
  ⟨[(0xE33, 0xE33), (0xEB3, 0xEB3), (0xFF9E, 0xFF9F)]⟩

/-- Mathematical signs with which names may begin. -/
def mathStart : Ranges :=
  ⟨[(0x2202, 0x2202), (0x2207, 0x2207), (0x221E, 0x221E), (0x1D6C1, 0x1D6C1),
    (0x1D6DB, 0x1D6DB), (0x1D6FB, 0x1D6FB), (0x1D715, 0x1D715), (0x1D735, 0x1D735),
    (0x1D74F, 0x1D74F), (0x1D76F, 0x1D76F), (0x1D789, 0x1D789), (0x1D7A9, 0x1D7A9),
    (0x1D7C3, 0x1D7C3)]⟩

/-- Raised and lowered digits and signs, with which names may go on. -/
def mathScripts : Ranges :=
  ⟨[(0xB2, 0xB3), (0xB9, 0xB9), (0x2070, 0x2070), (0x2074, 0x207E), (0x2080, 0x208E)]⟩

/-! ## By name -/

/-- Characters that are shown neither by themselves nor with the one before them. -/
def defaultIgnorable : Ranges :=
  (Ranges.unionAll [listed "ODI", category "Cf", listed "VS"]).diff
    (Ranges.unionAll [whiteSpace, listed "PCM", ⟨[(0xFFF9, 0xFFFB), (0x13430, 0x13440)]⟩])

/-- The characters with a property that follows from others or holds of a few characters.  The name
of the property has no blanks, hyphens, underscores and capital letters. -/
def derived? (name : String) : Option Ranges :=
  match name with
  | "ahex" | "asciihexdigit" => some ⟨[(48, 57), (65, 70), (97, 102)]⟩
  | "alpha" | "alphabetic" => some alphabetic
  | "cased" => some cased
  | "ci" | "caseignorable" => some caseIgnorable
  | "cwcf" | "changeswhencasefolded" => some changesWhenCasefolded
  | "cwcm" | "changeswhencasemapped" =>
    some (Ranges.unionAll [changesWhenLowercased, changesWhenUppercased, changesWhenTitlecased])
  | "cwl" | "changeswhenlowercased" => some changesWhenLowercased
  | "cwt" | "changeswhentitlecased" => some changesWhenTitlecased
  | "cwu" | "changeswhenuppercased" => some changesWhenUppercased
  | "di" | "defaultignorablecodepoint" => some defaultIgnorable
  | "emod" | "emojimodifier" => some emojiModifiers
  | "grbase" | "graphemebase" =>
    some ((Ranges.unionAll (categoryTexts.filterMap fun (name, _) =>
      if ["Cc", "Cf", "Co", "Zl", "Zp"].contains name then none else categoryRanges? name)).diff
        graphemeExtend)
  | "grext" | "graphemeextend" => some graphemeExtend
  | "hex" | "hexdigit" =>
    some ⟨[(48, 57), (65, 70), (97, 102), (0xFF10, 0xFF19), (0xFF21, 0xFF26), (0xFF41, 0xFF46)]⟩
  | "idc" | "idcontinue" => some idContinue
  | "idcompatmathcontinue" => some (mathStart.union mathScripts)
  | "idcompatmathstart" => some mathStart
  | "ids" | "idstart" => some idStart
  | "idsb" | "idsbinaryoperator" =>
    some ⟨[(0x2FF0, 0x2FF1), (0x2FF4, 0x2FFD), (0x31EF, 0x31EF)]⟩
  | "idst" | "idstrinaryoperator" => some ⟨[(0x2FF2, 0x2FF3)]⟩
  | "idsu" | "idsunaryoperator" => some ⟨[(0x2FFE, 0x2FFF)]⟩
  | "joinc" | "joincontrol" => some ⟨[(0x200C, 0x200D)]⟩
  | "lower" | "lowercase" => some lowercase
  | "math" => some ((category "Sm").union (listed "OMath"))
  | "oalpha" | "otheralphabetic" =>
    some (alphabetic.diff ((groupRanges 'L').union (category "Nl")))
  | "ogrext" | "othergraphemeextend" =>
    some (graphemeExtend.diff ((category "Mn").union (category "Me")))
  | "oidc" | "otheridcontinue" => some otherIdContinue
  | "oids" | "otheridstart" => some otherIdStart
  | "olower" | "otherlowercase" => some (lowercase.diff (category "Ll"))
  | "oupper" | "otheruppercase" => some (uppercase.diff (category "Lu"))
  | "patws" | "patternwhitespace" => some patternWhiteSpace
  | "ri" | "regionalindicator" => some regionalIndicators
  | "space" | "wspace" | "whitespace" => some whiteSpace
  | "upper" | "uppercase" => some uppercase
  | "xidc" | "xidcontinue" => some (idContinue.diff unstable)
  | "xids" | "xidstart" => some (idStart.diff (unstable.union unstableStart))
  | _ => none

/-- The characters with the property of the given name, without regard to case, blanks, hyphens and
underscores. -/
def binaryProperty? (name : String) : Option Ranges :=
  (derived? (looseName name)).or (listed? name)

end Gatehouse.Unicode
