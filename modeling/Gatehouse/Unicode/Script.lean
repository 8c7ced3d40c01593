import Gatehouse.Unicode.Table

/-!
# Scripts

Every character belongs to one script, if only to the one of characters that are common to all or
inherit theirs from the character before.  Some are used in further ones.  Scripts have a short and
a long name.

Main definitions: `scriptRanges?` and `scriptExtensions?`.
-/

namespace Gatehouse.Unicode

/-- The short and the long name of each script, and its ranges as text. -/
def scriptTexts : List (String × String × List String) := [
  ("Adlm", "Adlam", [
    "2olc 23 4 9 4 1"]),
  ("Aghb", "Caucasian_Albanian", [
    "1flc 1f b 0"]),
  ("Ahom", "Ahom", [
    "1j40 q 2 e 4 m"]),
  ("Arab", "Arabic", [
    "16o 4 1 5 1 d 1 2 1 v 1 9 b p 1 2z 1 x 28 1b 6o u 1 1 5 22 1 s 1bv4 36 g a2 2 27 2 1h 7 ",
    "0 w f 34 4 1 3q 31f u 1v 2 1j 3 181s 3 1 q 1 1 1 0 2 0 1 9 1 3 1 0 1 0 6 0 4 0 1 0 1 0 1 ",
    "2 1 1 1 0 2 0 1 0 1 0 1 0 1 0 1 1 1 0 2 3 1 6 1 3 1 3 1 0 1 9 1 g 5 2 1 4 1 g 1g 1"]),
  ("Armi", "Imperial_Aramaic", [
    "1g74 l 1 8"]),
  ("Armn", "Armenian", [
    "10x 11 2 1d 2 2 1chv 4"]),
  ("Avst", "Avestan", [
    "1gqo 1h 3 6"]),
  ("Bali", "Balinese", [
    "5c0 24 1 1d"]),
  ("Bamu", "Bamum", [
    "www 2f 124o fs"]),
  ("Bass", "Bassa_Vah", [
    "1zo0 t 2 5"]),
  ("Batk", "Batak", [
    "5hc 1f 8 3"]),
  ("Beng", "Bengali", [
    "1vk 3 1 7 2 1 2 l 1 6 1 0 3 3 2 8 2 1 2 3 8 0 4 1 1 4 2 o"]),
  ("Bhks", "Bhaiksuki", [
    "1k3k 8 1 18 1 d a s"]),
  ("Bopo", "Bopomofo", [
    "kq 1 93t 16 34 v"]),
  ("Brah", "Brahmi", [
    "1hq8 25 4 z 9 0"]),
  ("Brai", "Braille", [
    "7wg 73"]),
  ("Bugi", "Buginese", [
    "54w r 2 1"]),
  ("Buhd", "Buhid", [
    "4lc j"]),
  ("Cakm", "Chakma", [
    "1hxc 1g 1 h"]),
  ("Cans", "Canadian_Aboriginal", [
    "3y8 hr fk 1x 1ewq f"]),
  ("Cari", "Carian", [
    "1f34 1c"]),
  ("Cham", "Cham", [
    "xkw 1i 9 d 2 9 2 3"]),
  ("Cher", "Cherokee", [
    "3vk 2d 2 5 twy 27"]),
  ("Chrs", "Chorasmian", [
    "1ho0 r"]),
  ("Copt", "Coptic", [
    "rm d 80g 37 5 6"]),
  ("Cpmn", "Cypro_Minoan", [
    "1nyo 2q"]),
  ("Cprt", "Cypriot", [
    "1g5c 5 2 0 1 17 1 1 3 0 2 0"]),
  ("Cyrl", "Cyrillic", [
    "sg 3o 2 4o 4ls a 4g 0 24 0 38n v nr4 2n ham 1 18n4 1p x 0"]),
  ("Deva", "Devanagari", [
    "1s0 28 4 e 2 p vhc v mio 9"]),
  ("Diak", "Dives_Akuru", [
    "1ji8 6 2 0 2 7 1 1 1 t 1 1 2 b 9 9"]),
  ("Dogr", "Dogra", [
    "1jb4 1n"]),
  ("Dsrt", "Deseret", [
    "1fcw 27"]),
  ("Dupl", "Duployan", [
    "2fpc 2y 5 c 3 8 7 9 2 3"]),
  ("Egyp", "Egyptian_Hieroglyphs", [
    "1o1s ut a 32y"]),
  ("Elba", "Elbasan", [
    "1fk0 13"]),
  ("Elym", "Elymaic", [
    "1hpc m"]),
  ("Ethi", "Ethiopic", [
    "3k0 20 1 3 2 6 1 0 1 3 2 14 1 3 2 w 1 3 2 6 1 0 1 3 2 e 1 1k 1 3 2 1u 2 v 3 p 546 m 9 6 ",
    "1 6 1 6 1 6 1 6 1 6 1 6 1 6 opu 5 2 5 2 5 9 6 1 6 1qk1 6 1 3 1 1 1 e"]),
  ("Gara", "Garay", [
    "1h6o 11 3 s 8 1"]),
  ("Geor", "Georgian", [
    "3a8 11 1 0 5 0 2 16 1 3 2a8 16 2 2 37k 11 1 0 5 0"]),
  ("Glag", "Glagolitic", [
    "8ow 2n 2e1s 6 1 g 2 6 1 1 1 4"]),
  ("Gong", "Gunjala_Gondi", [
    "1kdc 5 1 1 1 10 1 1 1 5 7 9"]),
  ("Gonm", "Masaram_Gondi", [
    "1kao 6 1 1 1 17 3 0 1 1 1 8 8 9"]),
  ("Goth", "Gothic", [
    "1f74 q"]),
  ("Gran", "Grantha", [
    "1ibk 3 1 7 2 1 2 l 1 6 1 1 1 4 2 8 2 1 2 2 2 0 6 0 5 6 2 6 3 4"]),
  ("Grek", "Greek", [
    "og 3 1 2 2 3 1 0 4 0 1 0 1 2 1 0 1 j 1 1q e f 4yu 4 1e 4 4 4 2c 0 8w l 2 5 2 11 2 5 2 7 ",
    "1 0 1 0 1 0 1 u 2 1g 1 e 1 d 2 5 1 i 2 2 1 8 87 0 rb2 0 gyi 26 h 0 155r 1x"]),
  ("Gujr", "Gujarati", [
    "22p 2 1 8 1 2 1 l 1 6 1 1 1 4 2 9 1 2 1 2 2 0 f 3 2 b 7 6"]),
  ("Gukh", "Gurung_Khema", [
    "1xq8 1l"]),
  ("Guru", "Gurmukhi", [
    "1z5 2 1 5 4 1 2 l 1 6 1 1 1 1 1 1 2 0 1 4 4 1 2 2 3 0 7 3 1 0 7 g"]),
  ("Hang", "Hangul", [
    "3cw 73 5ym 1 75 2l 35 u 1t u nhd s hv 8mb c m 4 1c 7tw u 3 5 2 5 2 5 2 2"]),
  ("Hani", "Han", [
    "96o p 1 2g c 5x 1b 0 1 0 p 8 e 3 qs 533 1s g73 hkw a5 2 2x n48 1 c 1 sge wyn w 37d 6 65 ",
    "2 4g1 e 5rk f h9 1wi f1 15u 3t6 5 38f"]),
  ("Hano", "Hanunoo", [
    "4kg k"]),
  ("Hatr", "Hatran", [
    "1gbk i 1 1 5 4"]),
  ("Hebr", "Hebrew", [
    "13l 1i 8 q 4 5 1cfc p 1 4 1 0 1 1 1 1 1 9"]),
  ("Hira", "Hiragana", [
    "9j5 2d 6 2 23q9 7y i 0 t 2 crx 0"]),
  ("Hluw", "Anatolian_Hieroglyphs", [
    "1s00 g6"]),
  ("Hmng", "Pahawh_Hmong", [
    "1zpc 1x a 9 1 6 1 k 5 i"]),
  ("Hmnp", "Nyiakeng_Puachue_Hmong", [
    "2n0g 18 3 d 2 9 4 1"]),
  ("Hung", "Old_Hungarian", [
    "1h1c 1e d 1e 7 5"]),
  ("Ital", "Old_Italic", [
    "1f5s z 9 2"]),
  ("Java", "Javanese", [
    "xhc 25 2 9 4 1"]),
  ("Kali", "Kayah_Li", [
    "xds 19 1 0"]),
  ("Kana", "Katakana", [
    "9lt 2h 2 2 6o f 5s 1a 1 2f 14b2 9 1 18 ytu 3 1 6 1 1 1 0 7z 2 1e 0 e 3"]),
  ("Kawi", "Kawi", [
    "1kow g 1 14 3 s"]),
  ("Khar", "Kharoshthi", [
    "1gjk 3 1 1 5 7 1 2 1 s 2 2 4 9 7 8"]),
  ("Khmr", "Khmer", [
    "4n4 2l 2 9 6 9 di v"]),
  ("Khoj", "Khojki", [
    "1i4g h 1 1a"]),
  ("Kits", "Khitan_Small_Script", [
    "20o4 0 5cr d1 15 0"]),
  ("Knda", "Kannada", [
    "2gw c 1 2 1 m 1 9 1 4 2 8 1 2 1 3 7 1 6 1 1 3 2 9 1 2"]),
  ("Krai", "Kirat_Rai", [
    "205c 1l"]),
  ("Kthi", "Kaithi", [
    "1hts 1u a 0"]),
  ("Lana", "Tai_Tham", [
    "55s 1q 1 s 2 a 6 9 6 d"]),
  ("Laoo", "Lao", [
    "2v5 1 1 0 1 4 1 n 1 0 1 m 2 4 1 0 1 6 1 9 2 3"]),
  ("Latn", "Latin", [
    "1t p 6 p 1b 0 f 0 5 m 1 u 1 cg 13 4 55n 11 6 1c 5 3 5 c 1 1x 1t 73 a9 0 d 0 g c 3x 1 6 0 ",
    "r 0 h 14 253 v o82 2t 3 1u 2 1 1 0 1 7 l d mo 16 1 8 1 3 fpy 6 t6 p 6 p 1lx 5 1 15 1 8 ",
    "16it u 6 5"]),
  ("Lepc", "Lepcha", [
    "5j4 1j 3 e 3 2"]),
  ("Limb", "Limbu", [
    "4xs u 1 b 4 b 4 0 3 b"]),
  ("Lina", "Linear_A", [
    "1fr4 8m 9 l a 7"]),
  ("Linb", "Linear_B", [
    "1ekg b 1 p 1 i 1 1 1 e 2 d y 3e"]),
  ("Lisu", "Lisu", [
    "wk0 1b o8g 0"]),
  ("Lyci", "Lycian", [
    "1f28 s"]),
  ("Lydi", "Lydian", [
    "1gdc p 5 0"]),
  ("Mahj", "Mahajani", [
    "1hzk 12"]),
  ("Maka", "Makasar", [
    "1ko0 o"]),
  ("Mand", "Mandaic", [
    "1mo r 2 0"]),
  ("Mani", "Manichaean", [
    "1gow 12 4 b"]),
  ("Marc", "Marchen", [
    "1k6o v 2 l 1 d"]),
  ("Medf", "Medefaidrin", [
    "20cg 2i"]),
  ("Mend", "Mende_Kikakui", [
    "2oe8 5g 2 f"]),
  ("Merc", "Meroitic_Cursive", [
    "1ggw n 4 j 2 19"]),
  ("Mero", "Meroitic_Hieroglyphs", [
    "1gg0 v"]),
  ("Mlym", "Malayalam", [
    "2kg c 1 2 1 1e 1 2 1 5 4 f 2 p"]),
  ("Modi", "Modi", [
    "1iww 1w b 9"]),
  ("Mong", "Mongolian", [
    "4qo 1 2 0 1 j 6 2g 7 16 1e45 c"]),
  ("Mroo", "Mro", [
    "1zk0 u 1 9 4 1"]),
  ("Mtei", "Meetei_Mayek", [
    "xr4 m 5l 19 2 9"]),
  ("Mult", "Multani", [
    "1i80 6 1 0 1 3 1 e 1 a"]),
  ("Mymr", "Myanmar", [
    "35s 4f u9s u 2p v le8 j"]),
  ("Nagm", "Nag_Mundari", [
    "2nrk 15"]),
  ("Nand", "Nandinagari", [
    "1jmo 7 2 19 2 a"]),
  ("Narb", "Old_North_Arabian", [
    "1gn4 v"]),
  ("Nbat", "Nabataean", [
    "1g8w u 8 8"]),
  ("Newa", "Newa", [
    "1iio 2j 1 4"]),
  ("Nkoo", "Nko", [
    "1j4 1m 2 2"]),
  ("Nshu", "Nushu", [
    "20o1 0 cy6 az"]),
  ("Ogam", "Ogham", [
    "4g0 s"]),
  ("Olck", "Ol_Chiki", [
    "5lc 1b"]),
  ("Onao", "Ol_Onal", [
    "2nyo 16 4 0"]),
  ("Orkh", "Old_Turkic", [
    "1gxs 20"]),
  ("Orya", "Oriya", [
    "269 2 1 7 2 1 2 l 1 6 1 1 1 4 2 8 2 1 2 2 7 2 4 1 1 4 2 h"]),
  ("Osge", "Osage", [
    "1fhs z 4 z"]),
  ("Osma", "Osmanya", [
    "1fgg t 2 9"]),
  ("Ougr", "Old_Uyghur", [
    "1hm8 p"]),
  ("Palm", "Palmyrene", [
    "1g80 v"]),
  ("Pauc", "Pau_Cin_Hau", [
    "1juo 1k"]),
  ("Perm", "Old_Permic", [
    "1f80 16"]),
  ("Phag", "Phags_Pa", [
    "x8g 1j"]),
  ("Phli", "Inscriptional_Pahlavi", [
    "1gtc i 5 7"]),
  ("Phlp", "Psalter_Pahlavi", [
    "1gu8 h 7 3 c 6"]),
  ("Phnx", "Phoenician", [
    "1gcg r 3 0"]),
  ("Plrd", "Miao", [
    "20hs 22 4 1k 7 g"]),
  ("Prti", "Inscriptional_Parthian", [
    "1gsg l 2 7"]),
  ("Rjng", "Rejang", [
    "xf4 z b 0"]),
  ("Rohg", "Hanifi_Rohingya", [
    "1h4w 13 8 9"]),
  ("Runr", "Runic", [
    "4gw 22 3 a"]),
  ("Samr", "Samaritan", [
    "1kw 19 2 e"]),
  ("Sarb", "Old_South_Arabian", [
    "1gm8 v"]),
  ("Saur", "Saurashtra", [
    "xa8 1x 8 b"]),
  ("Sgnw", "SignWriting", [
    "2l8g i3 f 4 1 e"]),
  ("Shaw", "Shavian", [
    "1ff4 1b"]),
  ("Shrd", "Sharada", [
    "1i0w 2n"]),
  ("Sidd", "Siddham", [
    "1itc 1h 2 11"]),
  ("Sind", "Khudawadi", [
    "1i9c 1m 5 9"]),
  ("Sinh", "Sinhala", [
    "2o1 2 1 h 3 n 1 8 1 0 2 6 3 0 4 5 1 0 1 7 6 9 2 2 1fcc j"]),
  ("Sogd", "Sogdian", [
    "1hkg 15"]),
  ("Sogo", "Old_Sogdian", [
    "1hj4 13"]),
  ("Sora", "Sora_Sompeng", [
    "1hw0 o 7 9"]),
  ("Soyo", "Soyombo", [
    "1jrk 2a"]),
  ("Sund", "Sundanese", [
    "5fk 1r 74 7"]),
  ("Sunu", "Sunuwar", [
    "1k1s x e 9"]),
  ("Sylo", "Syloti_Nagri", [
    "x6o 18"]),
  ("Syrc", "Syriac", [
    "1ds d 1 1n 2 2 7k a"]),
  ("Tagb", "Tagbanwa", [
    "4m8 c 1 2 1 1"]),
  ("Takr", "Takri", [
    "1j0g 1l 6 9"]),
  ("Tale", "Tai_Le", [
    "500 t 2 4"]),
  ("Talu", "New_Tai_Lue", [
    "51c 17 4 p 6 a 3 1"]),
  ("Taml", "Tamil", [
    "29u 1 1 5 3 2 1 3 3 1 1 0 1 1 3 1 3 2 3 b 4 4 3 2 1 3 2 0 6 0 e k 1ih1 1d d 0"]),
  ("Tang", "Tangut", [
    "20o0 0 v 4qf 8 lb e8 8"]),
  ("Tavt", "Tai_Viet", [
    "xog 1u o 4"]),
  ("Telu", "Telugu", [
    "2dc c 1 2 1 m 1 f 2 8 1 2 1 3 7 1 1 2 2 0 2 3 2 9 7 8"]),
  ("Tfng", "Tifinagh", [
    "8xc 1j 7 1 e 0"]),
  ("Tglg", "Tagalog", [
    "4jk l 9 0"]),
  ("Thaa", "Thaana", [
    "1hc 1d"]),
  ("Thai", "Thai", [
    "2rl 1l 5 r"]),
  ("Tibt", "Tibetan", [
    "2yo 1z 1 z 4 12 1 z 1 e 1 6 4 1"]),
  ("Tirh", "Tirhuta", [
    "1im8 1z 8 9"]),
  ("Tnsa", "Tangsa", [
    "1zlc 26 1 9"]),
  ("Todr", "Todhri", [
    "1fpc 1f"]),
  ("Toto", "Toto", [
    "2nbk u"]),
  ("Tutg", "Tulu_Tigalari", [
    "1if4 9 1 0 2 0 1 11 1 9 1 0 2 0 1 3 1 9 1 1 8 1"]),
  ("Ugar", "Ugaritic", [
    "1f9c t 1 0"]),
  ("Vaii", "Vai", [
    "wlc 8b"]),
  ("Vith", "Vithkuqi", [
    "1fn4 a 1 e 1 6 1 1 1 a 1 e 1 6 1 1"]),
  ("Wara", "Warang_Citi", [
    "1jfk 2a c 0"]),
  ("Wcho", "Wancho", [
    "2ncw 1l 5 0"]),
  ("Xpeo", "Old_Persian", [
    "1fa8 z 4 d"]),
  ("Xsux", "Cuneiform", [
    "1kw0 pl 2u 32 1 4 b 5f"]),
  ("Yezi", "Yezidi", [
    "1hfk 15 1 2 2 1"]),
  ("Yiii", "Yi", [
    "vls wc 3 1i"]),
  ("Zanb", "Zanabazar_Square", [
    "1jpc 1z"]),
  ("Zinh", "Inherited", [
    "lc 33 7p 1 ck a q 0 kg 3 3ff u e9 2 1 c 1 6 4 0 6 0 3 1 5i 1r ek 1 5e w 309 3 2z 1 14kl ",
    "f g d r3 0 6a 0 38a 0 1138 19 2 m f4 2 h 7 2 6 u 3 h45u 6n"]),
  ("Zyyy", "Common", [
    "0 1s q 5 q 1a 1 e 1 4 n 0 v 0 ch 12 5 4 2 j 38 0 9 0 6 0 1 0 hp 0 6 0 e 0 3 0 w 0 4c 0 ",
    "ec 0 3l 1 yh 0 b9 3 82 0 167 2 1z 1 5n 1 1 0 y5 0 d 0 7 3 1 5 1 2 2 0 lh b 2 2e 1 a 3 a ",
    "1 e h w 1r 11 1 2 2 5 1 q 1 g 15 2 4 ih m a l pr 74 hf 2 v 1 2w e8 2l b6 k 1 0 1 o f 7 4 ",
    "3 2j 1 3 0 2i 1 43 f w 11 9 0 1c 1r v 28 1b 0 2g 4n 534 1r hkw x 2u 2 4l 9 6s 0 4g 0 az ",
    "0 e 1 g5u 1 5s 9 m y 1 i 1 3 43 0 1 v q 5 q a a 0 19 1 1s 6 1 6 a 4 76 2 4 18 3 8 28 c ",
    "1f 18 6c q 10o4 3 318 6x 6 c3 4c 37 1o 6t a 12 2 1p 3 g 8 1 7 t 4 1o 5x j c j c 2e 9 o ",
    "3r 2c 1 1y 1 1 2 0 2 1 2 3 1 b 1 0 1 6 1 1s 1 3 2 7 1 6 1 r 1 3 1 4 1 0 3 6 1 9f 2 83 2 ",
    "1d 41d 1v 24 1o jm 17 4 2r c e 2 e 1 e 1 10 a 4t 1k p 1 1 d 17 4 8 7 1 e 5 4a rb 4 g 3 c ",
    "3 3a 4 2m 6 b 4 0 f b 4 1j 8 9 6 13 8 t 2 b 4 1 1q 9f c d 2 c 3 9 5 1j 7 e 2 a 6 8 7 42 ",
    "1 2t gvlz 0 u 2n"])]

/-- The short name of each script that shares characters with others, and as text the ranges of
those that are used in it but belong to another one or to none. -/
def extensionTexts : List (String × List String) := [
  ("Adlm", [
    "17j 0 w 0 55a 0 2r5 0"]),
  ("Aghb", [
    "lg 0 18 0 18 0"]),
  ("Arab", [
    "170 0 e 0 3 0 w 0 a a q 0 53y 0 2r5 0 14vw 1 140 r"]),
  ("Armn", [
    "lk 0"]),
  ("Avst", [
    "53 0 8zc 1"]),
  ("Beng", [
    "jg 0 1as 1 h 1 3u2 0 1 0 2 1 1 0 8 0 8 0 2 0 4 0 2 2 rnd 0"]),
  ("Bopo", [
    "jr 0 1 2 d 0 8x3 2 4 9 1 c a 3 2 0 6 0 5f 0 14jt 1 7u 4"]),
  ("Bugi", [
    "xjj 0"]),
  ("Buhd", [
    "4l1 1"]),
  ("Cakm", [
    "1ye 9 18w 9"]),
  ("Cari", [
    "53 0 68y 0 2 0 2qb 0"]),
  ("Cher", [
    "lc 2 1 0 6 1 m 1 b 1"]),
  ("Copt", [
    "53 0 g8 0 3 1 1 0 30 1 8f5 0 1614 r"]),
  ("Cpmn", [
    "1erk 1"]),
  ("Cprt", [
    "1erk 2 4 18 3 8"]),
  ("Cyrl", [
    "jg 0 1v 2 1 0 1 0 1 0 2 0 5 0 ab 1 50x 0 37u 0"]),
  ("Deva", [
    "jg 0 1as 1 h 1 3u2 12 1 1 s6 0 qpr 9"]),
  ("Dogr", [
    "1us b vcw 9"]),
  ("Dupl", [
    "53 0 gf 1 1 0 o 1 8if 0 26oz 3"]),
  ("Elba", [
    "53 0 gd 0"]),
  ("Ethi", [
    "lq 0"]),
  ("Gara", [
    "170 0 e 0 3 0"]),
  ("Geor", [
    "53 0 y9 0 29d 0 31a 0 2qe 0"]),
  ("Glag", [
    "53 0 gb 0 1 0 am 0 2 0 75 0 29d 0 31a 0 2qw 0 nqj 0"]),
  ("Gong", [
    "53 0 1po 1"]),
  ("Gonm", [
    "1us 1"]),
  ("Goth", [
    "53 0 gc 1 2 0 14 0"]),
  ("Gran", [
    "1u9 1 h 1 hs d 3bw 0 1 1 u 2 3 1 s6 0 1buy 0 2hg 1 1 0"]),
  ("Grek", [
    "53 0 g8 1 2 0 1 0 1 0 a 0 1a 0 2 0 1a 0 56z 1 ij 0"]),
  ("Gujr", [
    "1u9 1 h 1 vd6 9"]),
  ("Gukh", [
    "1ut 0"]),
  ("Guru", [
    "1u9 1 h 1 vd6 9"]),
  ("Hang", [
    "9hd 2 4 9 1 c g 0 6 0 5f 0 14jt 1 7u 4"]),
  ("Hani", [
    "53 0 9bs f 1 2 2 0 1 9 1 c a 3 2 0 6 0 4 3 57 0 44 f w 11 9 0 1c 13 1k 1c f b 1f 0 2g o ",
    "a 4 2o u mpt 7 h8d 1 7u 4 15ve h 63i 1"]),
  ("Hano", [
    "4l1 1"]),
  ("Hebr", [
    "lj 1"]),
  ("Hira", [
    "9hd 2 4 9 1 c g 5 1 0 4 1 2j 3 3 0 2i 1 14js 1 7u 4 a 0 19 1"]),
  ("Hung", [
    "6e2 0 2 0 2qb 0 f 0"]),
  ("Java", [
    "xjj 0"]),
  ("Kali", [
    "xf2 0"]),
  ("Kana", [
    "lh 0 t 0 8v1 2 4 9 1 c g 5 1 0 4 1 2j 3 3 0 2i 1 14js 1 7u 4 a 0 19 1"]),
  ("Khoj", [
    "25i 9 v28 9"]),
  ("Knda", [
    "1u9 1 h 1 3u2 0 1 1 6 0 n 0 1 0 ri3 5"]),
  ("Kthi", [
    "1uu 9 79d 0 o3i 9"]),
  ("Latn", [
    "53 0 ec 0 a 0 1 2 1 0 9 0 1 0 12 e 1 1 1 0 f 2 7 1 1 1 12 0 5 0 4 c 7p 1 y2 1 1ig 0 2kc ",
    "0 fq 0 5c 0 2li 0 nvs 7 fa 0"]),
  ("Limb", [
    "1ut 0"]),
  ("Lina", [
    "1err 18"]),
  ("Linb", [
    "1erk 2 4 18 3 8"]),
  ("Lisu", [
    "jg 0 g 0 8xo 1"]),
  ("Lyci", [
    "6e2 0"]),
  ("Lydi", [
    "53 0 8zd 0"]),
  ("Mahj", [
    "53 0 1po b vcw 9"]),
  ("Mand", [
    "18g 0"]),
  ("Mani", [
    "18g 0"]),
  ("Mero", [
    "6e5 0"]),
  ("Mlym", [
    "1u9 1 h 1 3uc 0 n 0 ri5 2"]),
  ("Modi", [
    "x80 9"]),
  ("Mong", [
    "4qq 1 1 0 1m1 0 34h 1 5 3"]),
  ("Mult", [
    "21y 9"]),
  ("Mymr", [
    "xf2 0"]),
  ("Nand", [
    "1u9 0 i 1 ow 9 35l 0 8 0 7 0 rhx 5"]),
  ("Newa", [
    "1u9 1 3uq 0 1 1 9 0 6 0 1 0 1 0"]),
  ("Nkoo", [
    "170 0 e 0 3 0 1cta 1"]),
  ("Onao", [
    "1us 1"]),
  ("Orkh", [
    "6e2 0 2qd 0"]),
  ("Orya", [
    "1u9 1 h 1 3uc 0 n 0"]),
  ("Osge", [
    "ld 0 2 0 6 0 24 0"]),
  ("Ougr", [
    "18g 0 1fht 0"]),
  ("Perm", [
    "53 0 g8 0 5 2 a 0 a7 0"]),
  ("Phag", [
    "4qq 1 1 0 1m1 0 34i 0"]),
  ("Phlp", [
    "18g 0"]),
  ("Rohg", [
    "170 0 e 0 3 0 w 0 43 0"]),
  ("Runr", [
    "4iz 2"]),
  ("Samr", [
    "94h 0"]),
  ("Shaw", [
    "53 0"]),
  ("Shrd", [
    "1u9 0 3ut 0 1 0 2 1 2 0 9 0 2 0 ria 5 2 0"]),
  ("Sind", [
    "1us 1 vd6 9"]),
  ("Sinh", [
    "1us 1 3v0 0"]),
  ("Sogd", [
    "18g 0"]),
  ("Sunu", [
    "lc 1 1 0 9 0 2 0 s 0 3 0"]),
  ("Sylo", [
    "1us 1 3k 9"]),
  ("Syrc", [
    "lf 1 2 1 1 0 o 2 7 1 1 1 ka 0 e 1 2 0 w 0 a a q 0 4nb 0 1 0"]),
  ("Tagb", [
    "4l1 1"]),
  ("Takr", [
    "1us 1 vd6 9"]),
  ("Tale", [
    "lc 1 5 1 3 0 2lv 9"]),
  ("Taml", [
    "1u9 1 h 1 3uc 0 ro8 0 ky5 0 1 0 1j 1"]),
  ("Tang", [
    "9gw f dr 0"]),
  ("Telu", [
    "1u9 1 h 1 3u7 1 1 0 1 0 n 0"]),
  ("Tfng", [
    "le 0 1 0 1 3 p 0"]),
  ("Tglg", [
    "4l1 1"]),
  ("Thaa", [
    "170 0 e 1 2 0 1s 9 1cw8 0 a 0"]),
  ("Thai", [
    "jg 0 q 0 17 0 19 0"]),
  ("Tibt", [
    "9hk 3"]),
  ("Tirh", [
    "1u9 1 h 1 3u7 0 c 0 f 0 ri5 9"]),
  ("Todr", [
    "ld 0 2 0 2 0 9 0 1 0 22 0"]),
  ("Toto", [
    "jg 0"]),
  ("Tutg", [
    "2jq 9 35u 0 1 0 ri3 5 57 0"]),
  ("Yezi", [
    "170 0 e 0 3 0 1s 9"]),
  ("Yiii", [
    "9hd 1 5 9 2 7 67 0 14rp 4"])]

/-- Older short names of scripts. -/
def scriptAliases : List (String × String) := [("qaac", "Copt"), ("qaai", "Zinh")]

/-- The short name of the script with a short or long name, given without regard to case, blanks,
hyphens and underscores. -/
def scriptCode? (name : String) : Option String :=
  let name := looseName name
  (scriptAliases.lookup name).or <|
    (scriptTexts.find? fun (short, long, _) =>
      looseName short == name || looseName long == name).map (·.1)

/-- The characters of a script, given by one of its names. -/
def scriptRanges? (name : String) : Option Ranges := do
  let code ← scriptCode? name
  let (_, parts) ← scriptTexts.lookup code
  return Ranges.ofText (String.join parts)

/-- The characters that are used in a script, given by one of its names.  Characters of no script of
their own count only where they are used in all. -/
def scriptExtensions? (name : String) : Option Ranges := do
  let code ← scriptCode? name
  let own ← scriptRanges? code
  if ["Zyyy", "Zinh"].contains code then
    return own.diff (Ranges.unionAll (extensionTexts.map fun (_, parts) =>
      Ranges.ofText (String.join parts)))
  else
    let shared := ((extensionTexts.lookup code).map fun parts =>
      Ranges.ofText (String.join parts)).getD Ranges.empty
    return own.union shared

end Gatehouse.Unicode
