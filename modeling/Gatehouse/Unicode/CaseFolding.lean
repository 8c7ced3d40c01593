import Gatehouse.Unicode.Table

/-!
# Simple case folding

Characters that differ only in case fold to the same character.

Main definitions: `foldings` and `caseVariants`.
-/

namespace Gatehouse.Unicode

/-- The foldings as text. -/
def foldingText : List String := [
    "1t 2w 1s 2i 4 172 a 2k 1s 1 s 1s x 2q 2 3 e 2 2 y 2 2 2m 2 1 4 6p 0 e 2 1 4 ev 1 4 bo 0 ",
    "a 2 1 4 bg 0 4 2 1 8 be 0 4 2 2 4 4e 0 4 b8 0 4 ba 0 4 2 1 4 be 0 4 bi 1 4 bq 0 4 bm 0 4 ",
    "2 3 4 bq 0 4 bu 1 4 bw 0 e 2 1 4 c4 0 4 2 1 4 c4 2 4 2 1 4 c4 0 4 2 1 8 c2 0 a 2 1 4 c6 ",
    "0 4 2 3 4 2 7 9 4 1 9 4 1 9 4 1 y 2 2 12 2 2 9 4 1 4 2 1 4 5d 0 4 33 0 2a 2 1 4 77 1 12 ",
    "2 7 4 gnq 0 4 2 1 4 91 0 4 gnk 2 4 2 1 4 at 0 4 3u 0 4 3y 0 m 2 6u 4 6g 16 a 2 3 4 2 8 4 ",
    "6g 6 4 24 1 c 22 1 4 3k 1 8 3i 1 1w 1s 1 10 1s m 4 2 c 4 g 0 4 1n 0 4 1d 3 4 t 0 4 17 1 ",
    "1e 2 1 4 2z 0 4 2n 2 4 3b 0 4 3j 1 4 2 1 4 d 0 4 2 2 c 77 0 1s 4g 0 3k 1s 1c 1y 2 9 32 2 ",
    "1 4 u 0 u 2 2 5e 2 2 48 2o 289 48 b7k 1 4 b7k 5 4 b7k mi o f 1oi 4 9ln 0 4 9ll 0 4 9l3 0 ",
    "8 9kz 0 4 9l1 0 4 9kn 0 4 9jb 0 4 1ifa 0 4 2 6 4s 4n3 2 c 4n3 8w 8e 2 6 4 37 2 4 br1 1 ",
    "5e 2 9 w f 8 o f a w f 8 w f 8 o f b i f 8 w f o w f 8 w f 8 w f 8 8 f 0 8 43 0 4 h 1 4 ",
    "b2h 9 g 4r 0 4 h 6 4 b5x 4 8 f 0 8 5j 7 4 b51 4 8 f 0 8 67 0 4 d b 8 73 0 8 6z 0 4 h 89 ",
    "4 bll 3 4 cxp 0 4 cqz 6 4 1k 19 1s w j 4 2 mq 2w 1g 1f4 5c 2o 1c 4 2 1 4 gkt 0 4 5vv 0 4 ",
    "gjx 2 e 2 1 4 gmv 0 4 gl5 0 4 gn1 0 4 gmz 1 4 2 2 4 2 8 8 got 0 5m 2 8 a 2 4 4 2 nyl 2m ",
    "2 j 1m 2 3r u 2 3 3i 2 a a 2 1 4 1iiv 0 m 2 4 4 2 1 4 1t8v 2 a 2 3 16 2 1 4 1taf 0 4 ",
    "1tb1 0 4 1tat 0 4 1ta9 0 4 1taf 1 4 1t7n 0 4 1t8z 0 4 1t7t 0 4 1fk 0 y 2 1 4 2n 0 4 1tad ",
    "0 4 1ilr 0 a 2 1 4 1tcd 0 4 2 3 4 2 5 e 2 1 4 1toh o 4 2 oq 8w 1nz3 fnp 4 2 t7 2w 1s xx ",
    "4g 28 3s 40 28 4c 18 26 1 1o 26 1 s 26 1 8 26 1d6 5o 3k 4d 2g 1s 27u 3k 1s gw0 3k 1s o80 ",
    "3s 1w"]

/-- The characters that fold to another one, each with that one. -/
def foldings : List (Nat × Nat) :=
  pairsOfText (String.join foldingText)

/-- All characters that fold as the given one does, itself included. -/
def caseVariants (code : Nat) : List Nat :=
  let folded := (foldings.lookup code).getD code
  folded :: (foldings.filter (·.2 == folded)).map (·.1)

end Gatehouse.Unicode
