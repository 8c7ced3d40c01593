import Gatehouse.Unicode.Table

/-!
# Tables for host names

How characters are mapped before they may stand in a host name: to other characters, to nothing,
or not at all.  Beside them stand two classifications that decide which characters may stand
beside each other: how letters join and in which direction they are written.
-/

namespace Gatehouse.Url.Idna

open Unicode (Ranges)

/-- Characters mapped to a single one, as text. -/
def mappedText : List String := [
    "1t 2w 1s 1x 4 73 9 4 41 7 8 73 1 4 172 3 4 7j 0 4 45 5 2k 1s 1 s 1s x 2q 2 5 a 2 2 e 2 3 ",
    "i 2 2 2m 2 1 4 6p 0 e 2 1 4 ev 1 4 bo 0 a 2 1 4 bg 0 4 2 1 8 be 0 4 2 2 4 4e 0 4 b8 0 4 ",
    "ba 0 4 2 1 4 be 0 4 bi 1 4 bq 0 4 bm 0 4 2 3 4 bq 0 4 bu 1 4 bw 0 e 2 1 4 c4 0 4 2 1 4 ",
    "c4 2 4 2 1 4 c4 0 4 2 1 8 c2 0 a 2 1 4 c6 0 4 2 3 4 2 g y 2 2 12 2 5 4 2 1 4 5d 0 4 33 0 ",
    "2a 2 1 4 77 1 12 2 7 4 gnq 0 4 2 1 4 91 0 4 gnk 2 4 2 1 4 at 0 4 3u 0 4 3y 0 m 2 2p 4 wf ",
    "0 4 45 0 4 wf 0 4 w1 0 4 39 0 4 37 0 4 2x 0 4 vz 0 4 vx 13 4 6x 0 4 yx 0 4 yl 0 4 yd 0 4 ",
    "4d 2j 8 3j 1 4 2n 1 4 6g 16 a 2 1 4 ad 1 4 2 7 4 1ad 0 4 6g 6 4 24 0 4 13z 0 c 22 1 4 3k ",
    "1 8 3i 1 1w 1s 1 10 1s z 4 g 0 4 1n 0 4 1d 0 4 p 0 4 b 0 4 h 0 4 t 0 4 17 1 1e 2 1 4 2z ",
    "0 4 2n 0 4 2l 1 4 3b 0 4 3j 1 4 2 1 4 2z 0 4 2 2 c 77 0 1s 4g 0 3k 1s 1c 1y 2 9 32 2 1 4 ",
    "u 0 u 2 2 5e 2 2 48 2o 1x1 4 1 b7 48 b7k 1 4 b7k 5 4 b7k 1a 4 1r l7 o f 1oi 4 9ln 0 4 ",
    "9ll 0 4 9l3 0 8 9kz 0 4 9l1 0 4 9kn 0 4 9jb 0 4 1ifa 0 4 2 6 4s 4n3 2 c 4n3 30 4 bdh 0 4 ",
    "b65 0 a bdj 0 4 bdj 0 4 asp 0 w bdj 1 4 bdl 0 4 apf 0 4 bdn 0 4 bdl 0 8 bdj 0 4 bdh 0 4 ",
    "ber 0 8 anb 0 4 3r 0 4 bex 0 8 bev 0 4 an5 0 8 an3 0 4 bez 1 4 bev 0 4 bet 0 4 b2j 0 4 ",
    "bet 0 4 anx 0 8 3f 0 4 bez 0 8 bet 0 4 3b 0 4 amt 0 4 bex 0 4 31 0 c a51 0 8 a43 0 4 bg1 ",
    "0 4 bfl 0 8 bfh 0 8 a5j 0 4 a4t 0 8 a4l d 4 9yt y 4 as1 0 4 bjl 0 4 arz 0 4 bbv 0 4 arp ",
    "0 4 bjn 0 4 arn 0 4 arl 0 4 arf 0 c arb 0 4 2f 0 4 aol 0 4 arb 0 4 21 0 4 aon 0 4 ar9 0 ",
    "4 ard 0 g arb 0 4 ar7 0 8 aqp 0 4 b2r 0 8 aqh 0 4 8n 0 8 aqj 0 4 bk1 0 c aqf 0 4 aa5 1s ",
    "8e 2 6 4 37 2 4 br1 1 5e 2 9 w f 8 o f a w f 8 w f 8 o f b i f 8 w f 1 4 ayx 1 4 ayz 1 4 ",
    "az1 1 4 az3 1 4 axl 1 4 axn 1 4 axp 1m 8 f 0 4 43 0 4 b31 2 4 b2h 9 4 4r 0 4 b3r 0 4 4r ",
    "0 4 b3t 7 4 b5x 4 8 f 0 4 5j 0 4 b4n 7 4 b51 4 8 f 0 4 67 0 4 b3v 0 4 d 2 4 cgt 8 4 73 0 ",
    "4 b4p 0 4 6z 0 4 b4p 4 19 clb 6 4 1 t 4 cnx 1b 4 cql g 4 cqn 0 4 cnj 2 o cqn 0 4 crh 0 4 ",
    "mm 0 4 cql 0 8 crt 0 4 co1 0 14 crj 0 4 csd 0 4 lq 0 4 crh 0 8 csp 1 4 cpp 0 4 cpj 0 4 ",
    "cp1 0 4 col 0 4 bxx 0 4 cpl 0 g cph 0 4 cpf 0 8 cpb 2t 4 cvx 4 4 c47 2 8 cw5 0 d cw7 0 4 ",
    "clr 0 9 cwd 0 9 cwb 1 4 cwd 3 c cwh 0 9 cwj 6 4 cwj 1 4 bll 1 4 cwr 1 4 cxp 0 4 cqz 0 8 ",
    "cyb 1 9 cyb 0 4 cyd 0 4 1k 0 4 cy3 0 4 cy1 0 g atl 0 4 cyn 2 4 bnb 0 9 bo3 0 4 bnh 0 4 ",
    "bm 4 9 czl 0 4 czn 0 8 czh m 4 d0t 3 4 d0b 4 4 d0h 2 4 d1b 0 8 d1v 0 4 d1f 0 4 d1p 3 4 ",
    "d17 4 4 d1d 2 4 d27 0 8 d2r 0 4 d2b 3 4 2 bp 8 532 8l 10 eal 25 2w ecp 0 2w ee5 0 4 eib ",
    "1ed 5c 2o 1c 4 2 1 4 gkt 0 4 5vv 0 4 gjx 2 e 2 1 4 gmv 0 4 gl5 0 4 gn1 0 4 gmz 1 4 2 2 4 ",
    "2 6 4 her 0 4 he5 0 8 got 0 5m 2 8 a 2 4 4 2 3g 4 r 8f 4 o64 2b 4 18ig c 4 c8w 0 4 cb2 0 ",
    "4 cbs 0 4 cc8 0 4 cdm 0 4 cg0 0 4 cgc 0 4 che 0 4 cis 0 4 dik 0 4 dkm 0 4 dkw 0 4 dm4 0 ",
    "4 dn6 0 4 doa 0 4 dr6 0 4 dsa 0 4 dsu 0 4 e1e 0 4 e6k 0 4 e82 0 4 e8a 0 4 e9w 0 4 eac 0 ",
    "4 ebs 0 4 ecg 0 4 eds 0 4 egm 0 4 ehk 0 4 ej0 0 4 foy 0 4 fsw 0 4 gie 0 4 gjm 0 4 gk0 0 ",
    "4 gkk 0 4 gli 0 4 gpo 0 4 hg4 0 4 hiq 0 4 hpc 0 4 hqk 0 4 hrk 0 4 hsq 0 4 hvo 0 4 hvs 0 ",
    "4 ifu 0 4 igc 0 4 igy 0 4 ihm 0 4 io0 0 4 ioe 0 4 iom 0 4 iv2 0 4 ivk 0 4 iw8 0 4 iwm 0 ",
    "4 izy 0 4 j0u 0 4 j1s 0 4 j66 0 4 k2e 0 4 k4w 0 4 k60 0 4 lb2 0 4 lba 0 4 lfu 0 4 lgo 0 ",
    "4 lhc 0 4 lig 0 4 lkk 0 4 lks 0 4 lzk 0 4 m0u 0 4 m2k 0 4 nmy 0 4 nqk 0 4 nrs 0 4 nuy 0 ",
    "4 nw8 0 4 nwo 0 4 nx0 0 4 nzu 0 4 o02 0 4 o1s 0 4 ppo 0 4 qeg 0 4 qf2 0 4 qfa 0 4 qfg 0 ",
    "4 qfu 0 4 qgs 0 4 qgu 0 4 qla 0 4 qx8 0 4 qxg 0 4 rg8 0 4 rgq 0 4 rjg 0 4 rjs 0 4 rk8 0 ",
    "4 rkm 0 4 rpm 0 4 rpy 0 4 s2k 0 4 s2w 0 4 s5k 0 4 s6g 0 4 s90 0 4 sm4 0 4 smg 0 4 snc 0 ",
    "4 t5g 0 4 tce 0 4 tco 0 4 tmq 0 4 tri 0 4 tu0 0 4 uey 0 4 uma 0 4 vi4 0 4 vjk 0 4 vmo 0 ",
    "4 vpg 0 4 vt6 0 4 vtq 0 4 vu0 0 4 vvs 0 4 vzy 0 4 w0g 0 4 wjm 0 4 wjy 0 4 wke 0 4 wku 0 ",
    "4 wlo 0 4 wmg 0 4 wmm 0 4 wqy 0 4 wr4 0 4 wre 0 4 y9u 0 4 ybg 0 4 z1g 0 4 z22 0 4 z3a 0 ",
    "4 ziy 0 4 zjm 0 4 zni 0 4 zq0 0 4 10lg 0 4 10m8 0 4 10n0 0 4 10ow 0 4 10qw 0 4 111w 0 4 ",
    "112i 0 4 1166 0 4 11jw 0 4 11lk 0 4 11x4 0 4 11y8 0 4 11yg 0 4 12am 0 4 12ks 0 4 12ro 0 ",
    "4 12ry 0 4 12s6 0 4 1480 0 4 148g 0 4 14h2 0 4 14pk 0 4 14po 0 4 14s8 0 4 14y0 0 4 14yo ",
    "0 4 14yu 0 4 14z6 0 4 154k 0 4 156e 0 4 156o 0 4 157e 0 4 15gm 0 4 15je 0 4 15jk 0 4 ",
    "15to 0 4 15ts 0 4 15us 0 4 168q 0 4 16bc 0 4 16bo 0 4 16fi 0 4 16g0 0 4 16g4 0 4 16gm 0 ",
    "4 16i8 0 4 1744 0 4 17qa 0 4 17qs 0 4 17su 0 4 17u0 0 4 17ue 0 4 17uw 0 4 17v2 0 4 17x8 ",
    "0 4 17xe 0 4 17ya 0 4 17yi 0 4 17z6 0 4 180m 0 4 181e 0 4 181s 0 4 1850 0 4 185s 0 4 ",
    "185y 16 4 iwv 1 4 iw7 1f 4 1z 1 4 dua 0 8 due 6u 8 cpt 0 4 cgh 0 4 cpv 0 8 cgh 0 c cpz 0 ",
    "o cgj 0 4 cp7 0 c cqd 0 4 cp1 0 14 cqf 0 2c cm3 1 8 crl 0 8 chr 0 4 chl 0 4 chj 0 4 chb ",
    "0 4 ch5 0 4 ch3 0 4 crn 0 4 cgz 0 4 cgx 0 8 crr 0 4 crp 0 8 crn 0 4 crh 0 4 crf 0 k crd ",
    "0 4 cr9 0 4 cr3 0 4 cql 0 4 cq9 0 4 cq1 0 8 cgx 0 c cpl 0 8 cn9 0 4 cn5 0 8 cmp 0 4 cmn ",
    "0 4 cm5 0 4 cm1 3 4 b8c 0 4 bg2 0 4 b8q 0 4 eq4 0 4 b8o 0 4 bak 0 4 b8m 0 4 qpe 0 4 bcu ",
    "0 4 b98 0 4 b7u 0 4 fmg 0 4 euc 0 4 bhy 4k 4 due 0 4 hgu 0 4 k8y 0 4 sy8 o 4 d6n 0 8 d6l ",
    "0 c d6j 0 4 d6h 0 8 d6f 0 k d6d 0 4 1c10 0 4 1dua 0 4 1eqw 0 4 1gk6 0 4 1hgs 0 4 1ide 0 ",
    "4 1k6o 0 4 1lzy 0 4 1mwk 0 4 1opu 0 4 1pmg 0 4 1qj2 0 4 1rfo 0 4 1sca 2 4 1mjo 1 4 av4 0 ",
    "4 b2u 0 4 avi 0 4 ecw 0 4 b34 0 4 c7k 0 4 auy 0 4 c7c 0 4 azu 0 4 cxc 0 4 kqk 0 4 og0 0 ",
    "4 ms0 0 4 ks6 0 4 11mu 0 4 eg0 0 4 ka2 0 4 l6a 0 4 kq6 0 4 rx2 0 4 d82 0 4 p8o 0 4 zkm 0 ",
    "4 ryk 0 4 coo 0 4 s5a 0 4 qbe 0 4 fcg 0 4 1122 0 4 c2i 0 4 cys 0 4 n0y 0 4 1422 0 4 b8g ",
    "0 4 c8e 0 4 mf4 0 4 ato 0 4 avk 0 4 atm 0 4 h32 0 4 d5i 0 4 cv8 0 4 g62 0 4 g3a 0 4 qy6 ",
    "0 4 b6w 0 4 zle 0 4 cwa 0 4 f6g v 4 uz 0 4 ux 0 4 uv 0 4 ut 0 8 ur 0 4 up 0 4 un 0 4 ul ",
    "0 4 uj 0 4 uh 0 4 uf 0 4 ud 0 4 ub 0 4 u9 0 4 u7 0 4 u5 0 4 u1 0 4 tz 0 4 tx 0 o tv 0 4 ",
    "tr 0 4 tn 0 4 tj 0 4 tf 0 k tb 0 4 t9 0 4 t7 0 o t5 0 g t3 mrl 2m 2 j 1m 2 1 4 1s4j 0 4 ",
    "1s4h 3o u 2 3 3i 2 1 4 1 8 a 2 1 4 1iiv 0 m 2 4 4 2 1 4 1t8v 2 a 2 3 16 2 1 4 1taf 0 4 ",
    "1tb1 0 4 1tat 0 4 1ta9 0 4 1taf 1 4 1t7n 0 4 1t8z 0 4 1t7t 0 4 1fk 0 y 2 1 4 2n 0 4 1tad ",
    "0 4 1ilr 0 a 2 1 4 1tcd 0 y 2 1 4 1toh k 4 1u63 0 4 1u71 0 4 1u6x 0 4 1u6d 0 4 2 2 4 ",
    "1twh 0 4 1tu3 o2 4 1nt 0 4 23 0 4 1uqt 0 4 p 9 4 1upj 6 8w 1nz3 f9c 4 16y7 0 4 1lp5 0 4 ",
    "15yn 0 4 16r9 0 4 1ilh 0 4 1vhh 0 4 1t8h 0 9 zbp 0 4 1r3j 0 4 14s1 0 4 1slj 0 4 1r47 0 4 ",
    "1not 0 4 1fm1 0 4 1c0j 0 4 19cx 0 4 18rx 0 4 18ab 0 4 15af 0 4 1kir 0 4 1jar 0 4 1htl 0 ",
    "4 1gmp 0 4 1a5x 0 4 14yl 0 4 11ld 0 4 1ve9 0 4 1tfx 0 4 1k4x 0 4 1hc5 0 4 19er 0 4 zyb 0 ",
    "4 1pk1 0 4 1i7h 0 4 19kb 0 4 185b 0 4 1nef 0 4 1b4r 0 4 18nj 0 4 1ozf 0 4 1lpf 0 4 1j7j ",
    "0 4 1h0d 0 4 158b 0 4 1v0t 0 4 1u5p 0 4 1tpd 0 4 1mmv 0 4 1k8r 0 4 1hdv 0 4 1fh3 0 4 ",
    "1bvp 0 4 19i5 0 4 19df 0 4 16dr 0 4 12q3 0 4 111v 0 4 101r 0 4 1eu5 0 4 1egp 0 4 1cu1 0 ",
    "4 1aeh 0 4 14dx 0 4 zup 0 4 17md 0 4 1rd1 0 4 1oxp 0 4 1dc7 0 4 1bpp 0 4 1haf 0 4 1erd 0 ",
    "4 16vf 0 4 12ub 0 4 1rdv 0 4 1pzl 0 4 1kkx 0 4 1j39 0 4 1im5 0 4 1d1b 0 4 1cmp 0 4 134b ",
    "0 4 1trz 0 4 1bpr 0 4 1u5r 0 4 1u6p 0 4 1e9f 0 4 1ctt 0 4 1adp 0 4 132f 0 4 17eb 0 4 ",
    "1nh3 0 4 1kmr 0 4 17lp 0 4 1vm1 0 4 1q7j 0 4 1okb 0 4 1gvn 0 4 1g4j 0 4 1tp3 0 4 1eq9 0 ",
    "4 1v0r 0 4 1oqh 0 4 1voz 0 4 1jjr 0 4 1mg1 0 4 1d3j 0 4 1tfz 0 4 1rmj 0 4 1fiv 0 4 1aa1 ",
    "0 4 17rd 0 4 1jzf 0 4 15s1 0 4 1jo3 0 4 1nft 0 4 1au5 0 4 1n6x 0 4 1g69 0 4 1vgx 0 4 ",
    "1ue5 0 4 1u8v 0 4 1l9t 0 4 1d7r 0 4 1b15 0 4 17px 0 4 14yl 0 4 1tsj 0 4 1ta3 0 4 1r8b 0 ",
    "4 1p2j 0 4 1md7 0 4 1ibv 0 4 1eph 0 4 13g1 0 4 11kp 0 4 zxd 0 4 zud 0 4 1ty5 0 4 1lzd 0 ",
    "4 1k4p 0 4 15xx 0 4 1p9v 0 4 1o1p 0 4 1nvj 0 4 1mul 0 4 1iot 0 4 1hub 0 4 1gk5 0 4 1ehh ",
    "0 4 1cub 0 4 1bv3 0 4 161v 0 4 1a39 0 4 15nx 0 4 14f5 0 4 1u6h 0 4 1tyr 0 4 1t4x 0 4 ",
    "1i25 0 4 18l7 0 4 17u5 0 4 1p69 0 4 1opn 0 4 1nbl 0 4 1k31 0 4 1djj 0 4 1h0j 0 4 1vgn 0 ",
    "4 1s9r 0 4 1qbp 0 4 1plt 0 4 1onz 0 4 1gxh 0 4 1gnd 0 4 1c89 0 4 1byr 0 4 14vt 0 4 1307 ",
    "0 4 12vp 0 4 12k7 0 4 1v83 0 4 1ekv 0 4 1539 0 4 133z 0 4 1odr 0 4 1vmv 0 4 1upt 0 4 ",
    "1qcb 0 4 1q7v 0 4 1mix 0 4 1ks9 0 4 1hpf 0 4 1fy5 0 4 1a4r 0 4 15l9 0 4 zn1 0 4 1m61 0 4 ",
    "13cf 0 4 1u2j 0 4 1lsp 0 4 1lm3 0 4 1jip 0 4 1izh 0 4 1gud 0 4 1gbr 0 4 1f45 0 4 1da5 0 ",
    "4 12hv 0 4 1uiv 0 4 1nwn 0 4 1391 0 4 1v0x 0 4 1px3 0 4 1j9z 0 4 1655 0 4 1oyh 0 4 1oa1 ",
    "0 4 1ll1 0 4 1h2f 0 4 138r 0 4 1u93 0 4 1ti5 0 4 1q7n 0 4 1me1 0 4 1lwl 0 4 1ldf 0 4 ",
    "1jp7 0 4 1gvv 0 4 1g5h 0 4 1cd5 0 4 18of 0 4 18nh 0 4 154p 0 4 134f 0 4 1tuf 0 4 1izn 0 ",
    "4 1ti7 0 4 1hrv 0 4 1god 0 4 19t7 0 4 138b 0 4 10z9 0 4 102v 0 4 1ltl 0 4 1jdf 0 4 1bff ",
    "0 4 1e8n 0 4 1e3z 0 4 1djh 0 4 1hf7 0 4 1i9v 0 4 17pj 0 4 1vnd 0 4 1axb 0 4 1ua1 0 4 ",
    "1ucx 0 4 1pdh 0 4 1nq5 0 4 1dg9 0 4 1qm5 0 4 1jnx 0 4 1m77 0 4 166v 0 4 18xj 0 4 13ef 0 ",
    "4 18fx 0 4 1pbj 0 4 1uon 0 4 1swp 2 4 1rvv 1 4 1mbf 2 4 1ugd 0 4 1hav 0 4 1fvd 0 4 1ewn ",
    "0 4 1eut 0 4 1euh 0 4 1es7 0 4 130r 0 4 1dj1 0 4 1cch 1 4 19uj 1 4 17wz 2 4 15uh 0 4 ",
    "15jl 3 4 12et 0 4 12e5 0 4 12br 0 4 10j5 0 4 15lr 0 4 13an 0 4 1vcz 0 4 1uvn 0 4 1uq1 0 ",
    "4 1u4z 0 4 1u3j 0 4 1txj 0 4 1t0x 0 4 1sv5 0 4 1spr 0 4 1rzl 0 4 1rtv 0 4 1qct 0 4 1qcb ",
    "0 4 1opd 0 4 1odn 0 4 1obl 0 4 1o63 0 4 1mub 0 4 1mm7 0 4 1mcj 0 4 1lkt 0 4 1jmj 0 4 ",
    "1jdj 0 4 1iyx 0 4 1i2b 0 4 1hrv 0 4 1gzz 0 4 1f8z 0 4 1ezf 0 4 1eyv 0 4 1eyz 0 4 1eyl 0 ",
    "4 1eyb 0 4 1exz 0 8 1evd 0 4 1elj 0 4 1ehz 0 4 1e0b 0 4 1d51 0 4 1d3x 0 4 1d0v 0 4 1cjz ",
    "0 4 1cbv 0 4 1bkt 0 9 1bd3 0 4 1amn 0 4 18rj 0 4 18k5 0 4 1801 0 4 17wz 0 4 17a9 0 4 ",
    "177d 0 4 165b 0 4 15y5 0 4 13bd 0 4 12vn 0 4 12sd 0 4 1otn 0 4 3ls4 0 4 1bjd 2 4 1w2b 0 ",
    "4 1unr 0 4 1us3 0 4 1vj9 0 4 1uu5 0 4 1uqx 0 4 1u8t 0 4 1u61 0 4 1t4l 0 4 1t8n 0 4 1t4x ",
    "0 4 1t0x 0 4 1s1v 0 4 1rwz 0 4 1roz 0 4 1ro5 0 4 1r97 0 4 1qy9 0 4 1pi7 0 4 1phv 0 4 ",
    "1p9x 0 4 1p67 0 4 1opn 0 4 1oj5 0 4 1on3 0 4 1ofp 0 4 1oib 0 4 1oa9 0 4 1o6n 0 4 1nkh 0 ",
    "4 1nfn 0 4 1ncp 0 4 1myb 0 4 1mih 0 4 1m9h 0 4 1m9b 0 4 1m63 0 4 1kjb 0 4 1kfr 0 4 1ju3 ",
    "0 4 1j7d 0 4 1j8b 0 4 1j3j 0 4 1ipl 0 4 1i6z 0 4 1fqj 0 4 1hw1 0 4 1hpb 0 4 1hij 0 4 ",
    "1h0f 0 4 1gs7 0 4 1gpb 0 4 1gct 0 4 1gcr 0 4 1g3b 0 4 1g2f 0 4 1g13 0 4 1fwd 0 4 1fwz 0 ",
    "4 1fb1 0 4 1ek5 0 4 1e55 0 4 1dut 0 4 1dif 0 4 1d9z 0 4 1crp 0 4 1cgp 0 4 1b5t 0 4 1ax5 ",
    "0 4 19iv 0 4 18tl 0 4 18pt 0 4 18oz 0 4 188j 0 4 185f 0 4 187z 0 4 1851 0 4 1859 0 4 ",
    "1869 0 4 1823 0 4 17xn 0 4 17ch 0 4 16hf 0 4 1601 0 4 15jp 0 4 157h 0 4 13mb 0 4 13gn 0 ",
    "4 13ab 0 4 132z 0 4 1311 0 4 130f 0 4 12xt 0 4 11th 0 4 100z 0 4 3b3q 0 4 3b3c 0 4 3fns ",
    "0 4 23jd 0 4 21rp 0 4 21px 0 4 3roo 0 4 3vuc 0 4 49a0 0 4 106h 0 4 102d 1y 4 2ovv 0 4 ",
    "2owx 0 8 2owt 0 c 2owh 0 4 2ovx 0 4 2ovv 0 4 2r5n 12 9 2oql 0 h 2oq5 0 h 2oq7 0 h 2oqb 0 ",
    "h 2oqv 0 h 2oqt 0 h 2ord 0 h 2op7 0 h 2opb 0 h 2orf 0 h 2orp 0 h 2orr 0 h 2orx 0 9 2ort ",
    "0 9 2orz 0 9 2orz 0 9 2osf 0 9 2orn 0 9 2os5 0 h 2oqx 0 h 2oqt 0 h 2oqt 0 h 2or5 0 9 ",
    "2oqv 0 h 2oqx 0 9 2oqv 0 h 2oqx 0 h 2orb 0 9 2oqf 0 9 2oqh x h 2ouj 0 9 2otb 0 9 2oth 0 ",
    "9 2oth 1 9 2oth 0 9 2otx 0 9 2ott 0 h 2otj 0 9 2p19 i h 2ov3 eo 4 2sav 0 4 29en 1 8 2sa9 ",
    "0 4 2sbr 0 4 2sa5 0 8 29dt o 4 2fqx 0 4 2fr1 0 9 2s9z 0 8 2sd5 0 4 2s8n 0 4 2s8l 0 8 ",
    "29ft 0 8 29g5 0 8 29gl 0 8 29gt 0 g 29gp 2 4 2sbb 0 4 2sb9 4 d 2sbf 0 4 2sef 0 4 29i7 2 ",
    "4 2sdt 0 4 2sdx 0 4 2sdp 0 4 2sff 0 4 2ft3 0 8 2sf5 0 4 2san 0 4 2sal 0 8 29ht 0 4 2sfr ",
    "0 4 2sfn 0 8 2sfh 0 4 2sff 0 4 2sen 0 4 2sel 0 4 2sep 1 4 2sd3 0 8 2sg9 0 4 2set k 8 ",
    "2q4d 0 8 2q4f 0 8 2q4h 0 8 2q4j 0 8 2q4l 0 d 2q4n 0 9 2q4r 0 h 2q4t 0 9 2q4z 0 h 2q51 0 ",
    "h 2q57 0 h 2q5d 0 h 2q5j 0 h 2q5p 0 9 2q5v 0 9 2q5x 0 9 2q5z 0 9 2q61 0 h 2q63 0 h 2q69 ",
    "0 h 2q6f 0 h 2q6l 0 h 2q6r 0 h 2q6x 0 h 2q73 0 h 2q79 0 h 2q73 0 h 2q79 0 h 2q7f 0 h ",
    "2q7l 0 h 2q7r 0 h 2q7x 0 h 2q83 0 9 2q89 0 9 2q8b 0 h 2q8d c 3k 2sov 0 2w 2sn3 0 40 2sov ",
    "0 8 2chf 0 4 2sth 0 8 29wr 0 4 29xh 0 4 29jn 0 4 29k7 0 4 29or 0 4 29op 0 4 29on 0 4 ",
    "29ol 0 4 29oj 0 4 29ld 0 4 29lb 0 4 29l9 0 4 29nb 0 4 29k7 0 4 29p9 0 4 29p7 0 4 29p5 0 ",
    "4 29p3 0 8 29p1 0 4 29oz 0 4 29ox 0 4 29ov 0 4 29ot 0 4 29or 0 4 29op 0 4 29on 0 4 29ol ",
    "0 4 29oj 0 4 29oh 0 4 29of 0 4 29ob 0 4 29o9 0 4 29o7 0 o 29o5 0 4 29o1 0 4 29nx 0 4 ",
    "29nt 0 4 29np 0 k 29nl 0 4 29nj 0 4 29nh 0 o 29nf 0 4 29nd 0 4 29n7 0 8 29s9 1 8 2m9t 0 ",
    "4 2m0h 0 4 2m9v 0 8 2m0h 0 c 2m9z 0 o 2m0j 0 4 2m97 0 c 2mad 0 4 2m91 0 14 2maf 3 o 2m69 ",
    "2 o 2m6d 2 o 2m6h 2 c 2m6l 3 8 2su3 0 4 2stn 1 4 2su3 0 4 2su7 0 4 2g6x 1 4 2eh7 0 g ",
    "2fu9 0 4 2e8p 0 4 2e6d sx 4g 28 3s 40 28 4c 18 26 1 1o 26 1 s 26 1 8 26 dn 8 2uzl 0 4 ",
    "2vqx 0 4 2v2t 0 4 2v6r 1 4 2v2f 0 4 10eb 0 4 2v2f 0 4 2v2j 0 8 2v6x 0 4 2kfr 0 4 2v6z 0 ",
    "4 2v6p 0 4 2v2l 0 4 2v6h 0 4 2v6n 0 4 2v6t 0 4 2v3l 0 4 2vob 0 4 2v3n 0 4 2v6n 0 4 2v53 ",
    "0 8 2v31 0 4 2v6l 0 4 2d3k 0 4 11y5 0 4 2v6n 0 4 2d3g 0 4 2v4z 0 4 2d3e 0 4 2vrn 0 8 ",
    "2v6h 0 4 2vzb 0 4 2v6f 0 4 2d36 0 8 2v6d 0 4 2v6b 0 4 2v45 0 4 2v4b 0 4 10gb 0 4 2v4d 0 ",
    "4 2v65 0 4 2em5 1 4 2v5x 0 8 2v4z 0 4 2v5l 0 c 2vhn 0 4 2d2a 0 4 2d3c xx 5o 3k 4d 2g 1s ",
    "27u 3k 1s gw0 3k 1s 1s 2s 1i il9 2w 51wp 0 14 520v 1dy 2w 54ql 0 2w 54s1 0 2w 54th 0 s ",
    "54ux 1 20 54ux 0 2w 54wd 0 2w 54xt 0 a 54z9 0 4 54z9 2 4 54z9 2 8 54z9 2 g 54z9 1 w 54z9 ",
    "0 g 550p 1 a 550p 0 o 550p 1 18 550p 0 2w 5525 0 2w 553l 0 8 5551 1 g 5551 2 w 5551 1 s ",
    "5551 1 2w 556h 0 8 557x 1 g 557x 1 k 557x 1 4 557x 3 s 557x 1 2w 559d 0 2w 55at 0 2w ",
    "55c9 0 2w 55dp 0 2w 55f5 0 2w 55gl 0 2w 55i1 0 2w 55jh 0 2w 55kx 0 2w 55md 0 2w 55nt 0 ",
    "2w 55p9 0 2w 55qp 0 4 55gl 0 4 5523 2 1w 54h9 0 4 54ht 0 s 54h9 0 4 4sj7 0 1w 54ip 0 9 ",
    "54in 0 o 54ip 0 4 4skx 0 4 54jx 0 4 54jt 0 4 54jr 0 4 54j5 0 4 54jh 0 4 54jl 0 1w 54kh 0 ",
    "4 54l1 0 s 54kh 0 4 4smf 0 1w 54lx 0 9 54lv 0 o 54lx 0 4 4so5 0 4 54n5 0 4 54n1 0 4 54mz ",
    "0 4 54md 0 4 54mp 0 4 54mt 0 1w 54np 0 4 54o9 0 s 54np 0 4 4spn 0 1w 54p5 0 9 54p3 0 o ",
    "54p5 0 4 4srd 0 4 54qd 0 4 54q9 0 4 54q7 0 4 54pl 0 4 54px 0 4 54q1 0 1w 54qx 0 4 54rh 0 ",
    "s 54qx 0 4 4ssv 0 1w 54sd 0 9 54sb 0 o 54sd 0 4 4sul 0 4 54tl 0 4 54th 0 4 54tf 0 4 54st ",
    "0 4 54t5 0 4 54t9 0 1w 54u5 0 4 54up 0 s 54u5 0 4 4sw3 0 1w 54vl 0 9 54vj 0 o 54vl 0 4 ",
    "4sxt 0 4 54wt 0 4 54wp 0 4 54wn 0 4 54w1 0 4 54wd 0 4 54wh 0 9 54ux 2 14 56bf 0 14 56bz ",
    "0 14 56cj 0 14 56d3 0 14 56dn 1m8 10 581r 0 c 581p 0 18 581n 0 4 581j 0 8 581h 0 4 3fy9 ",
    "0 4 57tv 0 4 5817 0 4 5815 0 4 57t5 0 4 57wf 0 4 57up 0 10 583l 0 8 583j 0 8 583f 0 4 ",
    "583d 0 o 583b 0 8 5839 0 4 57zf 0 4 582r 0 4 582v 0 4 582d 0 4 57y7 0 4 3g39 0 4 57xz ",
    "1oy 3s 1w ym 8 5cq9 0 4 5cq3 0 4 5cpz 1 4 5cop 0 4 5cpz 0 4 5cqb 0 4 5cpt 0 4 5cot 0 g ",
    "5cp9 0 4 5cqd 0 4 5cq3 0 4 5cpp 0 4 5cqf 0 4 5cpr 0 4 5cqr 0 4 5cqn 0 8 5cr9 0 4 5cr5 0 ",
    "4 5cr3 0 4 5cqt 0 4 5cqr 0 4 5cqp 0 4 5cnv 0 4 5cjp 0 4 5cl5 0 4 5cnz 1 4 5cs1 0 4 5crv ",
    "1 4 5cqh 2 4 5cs3 1 4 5cql 0 g 5cr1 0 4 5cs5 0 4 5crv 0 4 5crh 0 4 5cs7 0 4 5crj 1 4 ",
    "5csf 0 8 5ct1 0 4 5csx 1 4 5csl 1 4 5csh 6 4 5ctn 4 4 5ctv 1 4 5csd 1 a 5cst 0 4 5ctx 0 ",
    "4 5ctn 1 4 5ctz 0 4 5ctb 1 4 5cu7 2 4 5cup 1 4 5cud 1 4 5cu9 1 4 5cn9 1 4 5crj 1 4 5cvl ",
    "0 4 5cvf 1 4 5cu1 2 4 5cvn 0 4 5cv5 0 4 5cu5 0 a 5cul 0 4 5cul 0 4 5cvp 0 4 5cvf 0 4 ",
    "5cv1 0 4 5cvr 0 4 5cv3 1 4 5cvz 0 8 5cwl 0 4 5cwh 1 4 5cw5 0 4 5cw3 0 4 5cw1 0 4 5ct7 1 ",
    "4 5cqh 1 8 5cxd 0 4 5cx7 0 4 5cx3 0 8 5cvt 0 4 5cx3 0 4 5cxf 0 4 5cwx 0 4 5cvx 1 c 5cwd ",
    "0 4 5cxh 0 4 5cx7 0 4 5cwt 0 4 5cxj 0 4 5cwv 0 4 5cxv 0 4 5cxr 0 8 5cyd 0 4 5cy9 0 4 ",
    "5cy7 0 4 5cxx 0 4 5cxv 0 4 5cxt 5 4 5cz5 0 4 5cyz 0 4 5cyv 1 4 5cxl 0 4 5cyv 0 4 5cz7 0 ",
    "4 5cyp 0 4 5cxp 1 c 5cy5 0 4 5cz9 0 4 5cyz 0 4 5cyl 0 4 5czb 0 4 5cyn 0 4 5czn 0 4 5czj ",
    "0 8 5d05 0 4 5d01 0 4 5czz 0 4 5czp 0 4 5czn 0 4 5czl hb 4 5g9b 0 4 5g8j 3 2w 5g9p 54 4 ",
    "4xi1 d 4 4dxl 0 4 4goj 0 4 4jnv 0 4 4xhz 0 4 4lqn 0 4 4hkl 0 4 3yat 0 4 4hjv 0 4 4lpj 0 ",
    "4 4cfl 0 4 4835 0 4 4cn7 0 4 4k9p 0 4 4f1d 0 4 4kkh 0 4 4cm5 0 4 4kcl 0 4 43b1 0 4 46it ",
    "0 4 3x83 0 4 4hnr 0 4 4jiv 0 4 48wz 0 4 4dur 0 4 4dk5 0 4 4lzl 0 4 4lz5 0 4 3vsx 0 4 ",
    "4fpn 0 4 4lxb 0 4 4jn9 0 4 4dov 0 4 3wxr 0 4 4dyz 0 4 44td 0 4 44fl 0 4 4jmf 0 4 4961 0 ",
    "4 4c49 0 4 4c4d 0 4 46ix 0 4 4k99 0 4 4iyv 0 4 3vff k 4 4f3l 0 4 4jpf 1we 14 5klb 1ds6 4 ",
    "7hc5 0 4 7hch 0 4 7hc1 0 4 2pj5 0 4 7gw7 0 4 7grx 0 4 7gr9 0 4 7gnd 0 4 7ggr 0 4 7gf3 0 ",
    "4 7gat 0 4 7gc7 0 4 7rh7 0 4 2nj9 0 4 7g5d 0 4 7g51 0 4 7g47 0 4 7g37 0 4 2nzf 0 4 7rg3 ",
    "0 4 7g49 0 4 7g27 0 4 2nx1 0 4 7g1r 0 4 7g13 0 4 7h5l 0 4 7g0r 0 4 7g0b 0 4 14e1 0 4 ",
    "7fwv 0 4 7fw5 0 4 7ren 0 4 7ft5 0 4 7fsl 0 4 7fq7 0 4 7fpz 0 4 7rbx 0 4 7fln 0 4 7fll 0 ",
    "4 7fk5 0 4 7fiz 0 8 7fif 0 4 7fhj 0 4 7fet 0 4 7fef 0 4 7fdz 0 4 7fcn 0 4 7fc5 0 d 7fc3 ",
    "0 4 2m1b 0 4 73wp 0 4 7f87 0 4 7f73 0 4 2lk9 0 4 7f6j 0 4 7f69 0 4 7f55 0 4 7ewr 0 4 ",
    "7f2h 0 4 7f1n 0 4 7ezx 0 4 7ewr 0 4 7es5 0 4 7eqr 0 4 7en3 0 4 7em9 0 9 7ekh 0 4 7ejf 0 ",
    "4 7eih 0 4 7ei3 0 4 7ehb 0 4 7dyh 0 4 7edn 0 4 7dyj 0 4 7e9l 0 4 7e7p 0 4 7fyp 0 4 7d8l ",
    "0 4 7don 0 4 7dml 0 4 7dl9 0 4 7dsj 0 4 7djb 0 4 7djf 0 4 7dcn 0 4 2hux 0 4 7d8v 0 4 ",
    "7d8n 0 4 7d7v 0 4 7d6t 0 4 7d6f 0 4 7d2x 0 4 2h67 0 4 2h2l 0 4 7cvf 0 4 7csv 0 4 7cs9 0 ",
    "4 7cwp 0 4 7cov 0 4 7qpd 0 4 7qon 0 4 7cg1 0 9 7cd3 0 4 2fyf 0 4 7c5v 0 4 7c4r 0 4 7c3z ",
    "0 4 7c3d 0 4 2fg1 0 4 7c2t 0 4 7c2h 0 4 7arl 0 4 7c11 0 4 7qi1 0 4 7bxp 0 4 7bwz 0 4 ",
    "7bsh 0 4 7bvd 0 4 2ect 0 4 7bld 0 4 2ect 0 4 7bj3 0 4 7bjb 0 4 7bif 0 8 7bcv 0 4 7q93 0 ",
    "4 7bbh 0 4 7b95 0 4 7b81 0 4 7b5n 0 4 7q6j 0 4 2cy3 0 4 7q57 0 4 7b1x 0 4 7b1t 0 4 7b1p ",
    "0 4 7b0n 0 4 xkp 0 4 7axv 0 9 2can 0 4 6x43 0 9 7aw3 0 4 7q1p 0 4 2665 0 4 1njv 0 4 7ast ",
    "0 4 7asd 0 4 7q0f 0 4 7apv 0 4 7an3 0 4 7aml 0 4 7akr 0 4 7ad9 0 4 7pvx 0 4 7pxn 0 4 ",
    "7acd 0 4 2avz 0 4 7a9n 0 4 7a2j 0 4 7a2d 0 4 7a2b 0 4 7a2h 0 4 79zz 0 4 79yx 0 4 79wz 0 ",
    "4 79xt 0 4 79x9 0 4 79up 0 4 79tn 0 4 79th 0 4 79s3 0 4 79rj 0 4 79nx 0 4 79jb 0 4 79hf ",
    "0 4 79al 0 4 2993 0 4 79br 0 4 79ff 0 4 799h 0 4 7981 0 4 792p 0 4 28wp 0 4 78zd 0 4 ",
    "794l 0 4 7967 0 4 7pk7 0 4 78vn 0 4 78uj 0 4 78sv 0 4 78v1 0 4 7ph1 0 4 78j5 0 4 78hl 0 ",
    "4 27b3 0 4 78b3 0 4 77vr 0 4 785j 0 4 7p7t 0 4 781n 0 4 7p8v 0 4 7pax 0 4 7gcf 0 4 7gcb ",
    "0 4 77vr 0 4 781d 0 4 6xqp 0 4 7lrv 0 4 77up 0 4 77uj 0 4 77u9 0 4 77qx 0 4 77rl 0 4 ",
    "25v7 0 4 7p61 0 4 77ih 0 4 77p1 0 4 77dp 0 4 77ax 0 4 25m3 0 4 77aj 0 4 77gr 0 4 7737 0 ",
    "4 7p1v 0 4 770r 0 4 76vf 0 4 76rj 0 4 76h1 0 4 24r5 0 4 76eb 0 4 7ovf 0 4 76aj 0 4 23yp ",
    "0 4 767t 0 4 7osn 0 4 7669 0 4 763t 0 8 762d 0 4 2383 0 4 2evt 0 4 2325 0 4 75uf 0 4 ",
    "22d9 0 4 75o9 0 4 75nj 0 4 75t9 0 4 75jl 0 4 75hf 0 4 75eb 0 4 75hd 0 4 75f7 0 4 75ef 0 ",
    "4 75dr 0 4 228f 0 4 75id 0 4 754h 0 4 7511 0 4 7oh9 0 4 74vz 0 4 74w9 0 4 21kn 0 4 757t ",
    "0 4 74n5 0 4 21cz 0 4 21ad 0 4 74if 0 4 74c3 0 4 74dn 0 4 74dv 0 4 7ocf 0 4 74bd 0 4 ",
    "748l 0 4 748z 0 4 7461 0 4 2odn 0 4 73xp 0 4 206r 0 4 73sz 0 4 1zon 0 4 73lb 0 4 73kn 0 ",
    "4 73j7 0 4 1yr9 0 4 73gn 0 4 73fj 0 4 1yap 0 4 1xyd 0 4 732z 0 4 7323 0 4 7ny3 0 4 730r ",
    "0 9 7nxj 0 4 72rx 0 4 72qt 0 4 72pp 0 4 72on 0 4 72kv 0 4 7nsf 0 4 72fz 0 4 1wcd 0 4 ",
    "72en 0 4 1w7d 0 4 72bz 0 4 2d6b 0 4 7237 0 4 1v03 0 4 1uyv 0 4 1ur5 0 4 7ngj 0 4 7nfx 0 ",
    "4 71qv 0 4 1uhn 0 4 1uhr 0 4 1ufn 0 4 1ue9 0 8 71ot 0 4 71ov 0 4 71mj 0 4 7ndr 0 4 71j1 ",
    "0 4 7nd5 0 4 7n8r 0 4 1t9b 0 4 718f 0 4 7151 0 4 711j 0 4 7n4r 0 4 1sgn 0 4 70u1 0 4 ",
    "1sab 0 4 1s7z 0 4 70r1 0 4 70lz 0 4 7n0x 0 4 70hd 0 4 70gv 0 4 70gn 0 4 1r5r 0 9 1qp7 0 ",
    "4 7081 0 4 7mpn 0 4 1qaz 0 4 6zw7 0 4 6zw3 0 4 7mnt 0 4 1pzd 0 4 6zhj 0 4 7mh9 0 4 6zgf ",
    "0 4 6zgr 0 4 6zf7 0 4 1osp 0 4 6z9t 0 4 7mc7 0 4 6z4d 0 4 6z15 0 4 6yxh 0 4 7m9l 0 4 ",
    "1nrn 0 4 1npz 0 4 7m7p 0 4 1nhz 0 4 6ygn 0 4 1nch 0 4 6yf9 0 4 6y9p 0 4 6y95 0 4 1mpt 0 ",
    "4 1mlt 0 4 6y49 0 4 1mej 0 4 6y3h 0 4 269t 0 4 7m1j 0 4 6xzz 0 4 6xvj 0 4 7lyp 0 4 6xsd ",
    "0 4 7d0h 0 4 1lmn 0 4 1llx 0 4 267f 0 4 266z 0 4 6xhv 0 4 6xhr 0 4 6s4d 0 4 7ltx 0 4 ",
    "6xa3 0 4 6xah 0 4 6x9j 0 4 7g71 0 4 6x8j 0 4 6x8h 0 4 6x7z 0 4 6x5r 0 4 1k8l 0 4 6x5x 0 ",
    "4 6x2v 0 4 6wz1 0 4 6wuz 0 4 6x2p 0 4 6wu7 0 4 6wrx 0 4 6wlr 0 4 6x09 0 4 6wtp 0 4 6wtn ",
    "0 4 6wst 0 4 1jvf 0 4 1jeb 0 4 1jmp 0 4 7lkn 0 4 6wdp 0 4 6wdn 0 4 6wbr 0 4 1gw1 0 4 ",
    "6w7j 0 4 1ipt 0 4 7li9 0 4 7li3 0 4 1iil 0 4 1i2l 0 4 7lhp 0 4 6vut 0 4 6vu7 0 4 6vtn 0 ",
    "4 6vtl 0 4 6vq3 0 4 6vrz 0 4 6vkl 0 4 6vn3 0 4 6ver 0 4 6vjb 0 4 6vfn 0 4 6ve7 0 4 7lcf ",
    "0 4 6v99 0 4 6v7j 0 4 7lap 0 4 6v2d 0 4 6v29 0 4 1fwb 0 4 6uvx 0 4 6uvl 0 4 7l7p 0 4 ",
    "6uu5 0 4 7s4d 0 4 1f09 0 4 1eq3 0 4 7l0d 0 4 7kzx 0 4 6u71 0 4 6u2t 0 4 6tu5 0 4 6tix 0 ",
    "4 1dg5 0 4 6te9 0 4 6td3 0 4 6t85 0 4 6t33 0 4 1cgh 0 4 2njd 0 4 6syl 0 4 6szh 0 4 6swn ",
    "0 4 2n7h 0 4 6sk3 0 4 6sel 0 4 19uj 0 4 19t3 0 4 6rvf 0 4 6rqb 0 4 6rol 0 4 19bh 0 4 ",
    "6ro5 0 4 6r8d 0 8 6qzl 0 4 6r4r 0 4 6qjn 0 4 6qi5 0 4 17fp 0 4 6pxh 0 4 7jxv 0 4 6pv5 0 ",
    "4 16ur 0 4 7jtj 0 4 6pgf 0 4 7c03 0 4 6pb7 0 4 15cx 0 4 1515 0 4 7jmb 0 4 7jlx 0 4 6p0z ",
    "0 4 149t 0 4 7jir 0 4 1425 0 9 6oyt 0 4 6ox9 0 4 13md 0 4 6on3 0 4 7jbz 0 4 6oj9 0 4 ",
    "6ocb 0 4 6oav 0 4 6o7l 0 4 7j3n 0 4 11gx 0 4 6nsf 0 4 6nbp 0 4 6n19 0 4 7ipp 0 4 7io1 0 ",
    "4 6mvj 0 4 z9f 0 4 7inl 0 4 z6h 0 4 yrt 0 4 ykl 0 4 6mcz 0 4 7iin 0 4 6m9n 0 4 6m9f 0 4 ",
    "6m93 0 4 6m8l 0 4 6m89 0 4 6m69 0 4 x89"]

/-- Characters mapped to several, as text. -/
def expandedText : List String := [
    "4o 2 w lk 6 2 w lg 4 2 w ld 3 2 w mf 3 3 1d 6dg 1g 0 3 1d 6dg 1e 0 3 1f 6dg 1g 35 2 2x ",
    "lj 1 2 2x 2y 0 2 2x 2y b 2 30 53 0 2 30 53 8 2 jg 32 3e 2 2s am 0 2 2s am 0 2 2s am 0 2 ",
    "30 2y 0 2 30 2y 0 2 30 2y 0 2 32 2y 0 2 32 2y 0 2 32 2y 10 2 2s 3e 0 2 2s 3e 0 2 2s 3e ",
    "6c 2 w li 0 2 w lj 0 2 w lm 0 2 w mg 0 2 w lf 0 2 w ln 2u 2 lk ld 1h 2 w qh 9 2 w ld 0 3 ",
    "w lk ld e9 2 12d 136 6l 2 17r 19w 0 2 18o 19w 0 2 1c7 19w 0 2 18q 19w kf 2 1sl 1to 0 2 ",
    "1sm 1to 0 2 1sn 1to 0 2 1ss 1to 0 2 1sx 1to 0 2 1sy 1to 0 2 1t7 1to 0 2 1tb 1to 3g 2 1wh ",
    "1x8 0 2 1wi 1x8 1 2 1wv 1x8 2b 2 20i 20s 2 2 20o 20s y 2 1zq 20s 0 2 1zr 20s 0 2 1zw 20s ",
    "2 2 20b 20s 71 2 275 27w 0 2 276 27w k5 2 2tp 2sy 3j 2 2x9 2wi 14 2 2wb 2vt 0 2 2wb 2w1 ",
    "2t 2 30i 33r 9 2 30s 33r 4 2 30x 33r 4 2 312 33r 4 2 317 33r c 2 30g 33p 9 2 31t 31u 1 2 ",
    "31t 31w 0 2 33m 328 0 3 33m 31t 328 0 2 33n 328 0 3 33n 31t 328 7 2 31t 328 h 2 32q 33r ",
    "9 2 330 33r 4 2 335 33r 4 2 33a 33r 4 2 33f 33r c 2 32o 33p 2xs 2 2p ji 6d 2 64g qh 0 2 ",
    "64h qh 0 2 64i qh 0 2 64j qh 0 2 64k qh 0 2 64l qh 0 2 64m qh 0 2 64n qh 0 2 64g qh 0 2 ",
    "64h qh 0 2 64i qh 0 2 64j qh 0 2 64k qh 0 2 64l qh 0 2 64m qh 0 2 64n qh 0 2 65c qh 0 2 ",
    "65d qh 0 2 65e qh 0 2 65f qh 0 2 65g qh 0 2 65h qh 0 2 65i qh 0 2 65j qh 0 2 65c qh 0 2 ",
    "65d qh 0 2 65e qh 0 2 65f qh 0 2 65g qh 0 2 65h qh 0 2 65i qh 0 2 65j qh 0 2 674 qh 0 2 ",
    "675 qh 0 2 676 qh 0 2 677 qh 0 2 678 qh 0 2 679 qh 0 2 67a qh 0 2 67b qh 0 2 674 qh 0 2 ",
    "675 qh 0 2 676 qh 0 2 677 qh 0 2 678 qh 0 2 679 qh 0 2 67a qh 0 2 67b qh 2 2 67k qh 0 2 ",
    "q9 qh 0 2 q4 qh 2 2 69i qh 4 2 q9 qh 0 2 w lv 1 2 w lv 0 2 w n6 0 3 w lk n6 0 2 67o qh 0 ",
    "2 qf qh 0 2 q6 qh 2 2 69y qh 4 2 qf qh 0 3 w lv lc 0 3 w lv ld 0 3 w lv n6 d 3 w lw lc 0 ",
    "3 w lw ld 0 3 w lw n6 d 3 w lk lc 0 3 w lk ld 3 2 67w qh 0 2 qx qh 0 2 r2 qh 2 2 6ba qh ",
    "4 2 qx qh 0 2 w ld 0 2 w lw o 2 w mr r 2 6cy 6cy 0 3 6cy 6cy 6cy 1 2 6d1 6d1 0 3 6d1 6d1 ",
    "6d1 4 2 x x 1 2 w lh 8 2 1r 1r 0 2 1r x 0 2 x 1r d 4 6cy 6cy 6cy 6cy 28 2 36 37 2f 3 2p ",
    "1b 2r 0 3 2p 1b 37 1 2 4w 2r 1 3 2r 1b 33 0 3 2r 1b 39 2 2 4w 2u c 2 32 33 9 2 37 31 0 3 ",
    "38 2t 30 0 2 38 31 o 3 2u 2p 3c k 3 1d 6dg 1j 0 3 1d 6dg 1l 0 4 1d 6dg 1d 1c 0 3 1d 6dg ",
    "1f 0 3 1e 6dg 1f 0 3 1d 6dg 1h 0 3 1e 6dg 1h 0 3 1f 6dg 1h 0 3 1g 6dg 1h 0 3 1d 6dg 1i 0 ",
    "3 1h 6dg 1i 0 3 1d 6dg 1k 0 3 1f 6dg 1k 0 3 1h 6dg 1k 0 3 1j 6dg 1k 0 2 1d 6dg 1 2 2x 2x ",
    "0 3 2x 2x 2x 0 2 2x 3a 1 2 3a 2x 0 3 3a 2x 2x 0 4 3a 2x 2x 2x 0 2 2x 3c 1 2 3c 2x 0 3 3c ",
    "2x 2x 5 2 2x 2x 0 3 2x 2x 2x 0 2 2x 3a 1 2 3a 2x 0 3 3a 2x 2x 0 4 3a 2x 2x 2x 0 2 2x 3c ",
    "1 2 3c 2x 0 3 3c 2x 2x d 3 1c 6dg 1f 4i 2 6qz 6qz 0 3 6qz 6qz 6qz 1 2 6r2 6r2 0 3 6r2 ",
    "6r2 6r2 fs 2 1d 1c 0 2 1d 1d 0 2 1d 1e 0 2 1d 1f 0 2 1d 1g 0 2 1d 1h 0 2 1d 1i 0 2 1d 1j ",
    "0 2 1d 1k 0 2 1d 1l 0 2 1e 1c 0 3 14 1d 15 0 3 14 1e 15 0 3 14 1f 15 0 3 14 1g 15 0 3 14 ",
    "1h 15 0 3 14 1i 15 0 3 14 1j 15 0 3 14 1k 15 0 3 14 1l 15 0 4 14 1d 1c 15 0 4 14 1d 1d ",
    "15 0 4 14 1d 1e 15 0 4 14 1d 1f 15 0 4 14 1d 1g 15 0 4 14 1d 1h 15 0 4 14 1d 1i 15 0 4 ",
    "14 1d 1j 15 0 4 14 1d 1k 15 0 4 14 1d 1l 15 0 4 14 1e 1c 15 k 3 14 2p 15 0 3 14 2q 15 0 ",
    "3 14 2r 15 0 3 14 2s 15 0 3 14 2t 15 0 3 14 2u 15 0 3 14 2v 15 0 3 14 2w 15 0 3 14 2x 15 ",
    "0 3 14 2y 15 0 3 14 2z 15 0 3 14 30 15 0 3 14 31 15 0 3 14 32 15 0 3 14 33 15 0 3 14 34 ",
    "15 0 3 14 35 15 0 3 14 36 15 0 3 14 37 15 0 3 14 38 15 0 3 14 39 15 0 3 14 3a 15 0 3 14 ",
    "3b 15 0 3 14 3c 15 0 3 14 3d 15 0 3 14 3e 15 11y 4 6qz 6qz 6qz 6qz 2v 3 1m 1m 1p 0 2 1p ",
    "1p 0 3 1p 1p 1p 2t 2 8gt mw 14u 2 w 9ll 0 2 w 9lm 2 2 9l4 9l6 2n 2 9mb 9mw 74 3 14 3cw ",
    "15 0 3 14 3cy 15 0 3 14 3cz 15 0 3 14 3d1 15 0 3 14 3d2 15 0 3 14 3d3 15 0 3 14 3d5 15 0 ",
    "3 14 3d7 15 0 3 14 3d8 15 0 3 14 3da 15 0 3 14 3db 15 0 3 14 3dc 15 0 3 14 3dd 15 0 3 14 ",
    "3de 15 0 3 14 xz4 15 0 3 14 yvs 15 0 3 14 zc4 15 0 3 14 108s 15 0 3 14 10p4 15 0 3 14 ",
    "115g 15 0 3 14 1224 15 0 3 14 12ys 15 0 3 14 13f4 15 0 3 14 14bs 15 0 3 14 14s4 15 0 3 ",
    "14 158g 15 0 3 14 15os 15 0 3 14 1654 15 0 3 14 13p8 15 0 4 14 1350 13ic 15 0 4 14 1350 ",
    "16f8 15 1 3 14 feo 15 0 3 14 fik 15 0 3 14 fex 15 0 3 14 h5n 15 0 3 14 fis 15 0 3 14 g31 ",
    "15 0 3 14 fer 15 0 3 14 g2z 15 0 3 14 fh9 15 0 3 14 gg1 15 0 3 14 kco 15 0 3 14 m7f 15 0 ",
    "3 14 ldg 15 0 3 14 kdk 15 0 3 14 ssx 15 0 3 14 h7j 15 0 3 14 k4l 15 0 3 14 kkq 15 0 3 14 ",
    "kcp 15 0 3 14 ny6 15 0 3 14 glp 15 0 3 14 mm1 15 0 3 14 rs1 15 0 3 14 nz1 15 0 3 14 gc4 ",
    "15 0 3 14 fkz 15 0 3 14 gos 15 0 3 14 i1y 15 0 3 14 nhf 15 0 3 14 flt 15 0 3 14 rt3 15 0 ",
    "3 14 ggk 15 0 3 14 nzh 15 0 3 14 fm9 15 0 3 14 pnu 15 0 3 14 po3 15 c 3 34 38 2t 0 2 1e ",
    "1d 0 2 1e 1e 0 2 1e 1f 0 2 1e 1g 0 2 1e 1h 0 2 1e 1i 0 2 1e 1j 0 2 1e 1k 0 2 1e 1l 0 2 ",
    "1f 1c 0 2 1f 1d 0 2 1f 1e 0 2 1f 1f 0 2 1f 1g 0 2 1f 1h s 2 14c8 y5c 0 2 13p8 13dk 1f 2 ",
    "1f 1i 0 2 1f 1j 0 2 1f 1k 0 2 1f 1l 0 2 1g 1c 0 2 1g 1d 0 2 1g 1e 0 2 1g 1f 0 2 1g 1g 0 ",
    "2 1g 1h 0 2 1g 1i 0 2 1g 1j 0 2 1g 1k 0 2 1g 1l 0 2 1h 1c 0 2 1d kco 0 2 1e kco 0 2 1f ",
    "kco 0 2 1g kco 0 2 1h kco 0 2 1i kco 0 2 1j kco 0 2 1k kco 0 2 1l kco 0 3 1d 1c kco 0 3 ",
    "1d 1d kco 0 3 1d 1e kco 0 2 2w 2v 0 3 2t 36 2v 0 2 2t 3a 0 3 30 38 2s 1b 2 fl0 gp8 0 4 ",
    "9lu 9n5 9oc 9mw 0 4 9lu 9nv 9n9 9lt 0 4 9lu 9o3 9ne 9lu 0 3 9lu 9oc 9nv 0 4 9lw 9mz 9o3 ",
    "9m8 0 3 9lw 9o3 9mp 0 3 9ly 9m1 9o3 0 5 9m0 9mh 9m7 9oc 9mx 0 4 9m0 9oc 9m3 9oc 0 3 9m2 ",
    "9o3 9mh 0 3 9m2 9oc 9nk 0 3 9m3 9lw 9nu 0 4 9m3 9nt 9mr 9mw 0 4 9m3 9nx 9nu 9oc 0 3 9m4 ",
    "9nx 9o3 0 3 9m4 9o3 9ni 0 2 9m6 9m4 0 3 9m6 9mz 9oc 0 4 9m5 9np 9nu 9oc 0 4 9m6 9nv 9mo ",
    "9oc 0 2 9m5 9nx 0 5 9m5 9nx 9m8 9nt 9nk 0 6 9m5 9nx 9nl 9oc 9mw 9nv 0 5 9m5 9nx 9nz 9mr ",
    "9mw 0 3 9m8 9nt 9nk 0 5 9m8 9nt 9nk 9mw 9o3 0 5 9m7 9nv 9mk 9lw 9nx 0 4 9m7 9nx 9oc 9n1 ",
    "0 3 9m9 9oc 9mh 0 3 9mb 9nv 9my 0 3 9mb 9oc 9nh 0 4 9md 9lw 9m7 9nv 0 5 9md 9o3 9mp 9oc ",
    "9nk 0 4 9mf 9nu 9o3 9m8 0 3 9mj 9o3 9mp 0 3 9mj 9o3 9mw 0 3 9mo 9oc 9mh 0 2 9mv 9mf 0 2 ",
    "9mx 9nv 0 2 9mw 9o3 0 2 9my 9n2 0 3 9n2 9mr 9mw 0 3 9n3 9lw 9ms 0 5 9n5 9oc 9mj 9o3 9mw ",
    "0 3 9n5 9oc 9ms 0 4 9n4 9oc 9nw 9nv 0 5 9n8 9lu 9mh 9mw 9nv 0 3 9n8 9m7 9nv 0 2 9n8 9mb ",
    "0 2 9n7 9nv 0 5 9n9 9lt 9nt 9mr 9mx 0 4 9n9 9lv 9oc 9mw 0 5 9na 9mr 9mf 9lz 9nv 0 3 9n9 ",
    "9nt 9o3 0 5 9nc 9m7 9mn 9oc 9nv 0 2 9ne 9ml 0 3 9ne 9mz 9n6 0 3 9nc 9nv 9ms 0 3 9ne 9o3 ",
    "9mh 0 3 9ne 9oc 9mg 0 3 9nd 9oc 9mn 0 4 9nh 9lw 9o3 9mw 0 3 9ng 9nv 9mw 0 2 9nf 9o3 0 3 ",
    "9nh 9o3 9mx 0 3 9nf 9oc 9nv 0 3 9nf 9oc 9o3 0 4 9ni 9lw 9m7 9nx 0 3 9ni 9lw 9nv 0 3 9ni ",
    "9mr 9n3 0 3 9ni 9nv 9m7 0 5 9ni 9o3 9mf 9nr 9o3 0 4 9nj 9m7 9nx 9o3 0 2 9nj 9nu 0 5 9nj ",
    "9nu 9n4 9oc 9nv 0 2 9nl 9m4 0 4 9nl 9m4 9mw 9o3 0 4 9nl 9oc 9mw 9nv 0 3 9no 9oc 9mx 0 3 ",
    "9no 9oc 9nv 0 3 9nq 9lu 9o3 0 4 9nu 9mr 9mw 9nv 0 2 9nu 9nt 0 3 9nv 9n8 9oc 0 4 9nv 9oc ",
    "9na 9nv 0 2 9nw 9nk 0 5 9nw 9o3 9mw 9ma 9o3 0 3 9nz 9mr 9mw 0 2 1c m9l 0 2 1d m9l 0 2 1e ",
    "m9l 0 2 1f m9l 0 2 1g m9l 0 2 1h m9l 0 2 1i m9l 0 2 1j m9l 0 2 1k m9l 0 2 1l m9l 0 3 1d ",
    "1c m9l 0 3 1d 1d m9l 0 3 1d 1e m9l 0 3 1d 1f m9l 0 3 1d 1g m9l 0 3 1d 1h m9l 0 3 1d 1i ",
    "m9l 0 3 1d 1j m9l 0 3 1d 1k m9l 0 3 1d 1l m9l 0 3 1e 1c m9l 0 3 1e 1d m9l 0 3 1e 1e m9l ",
    "0 3 1e 1f m9l 0 3 1e 1g m9l 0 3 2w 34 2p 0 2 2s 2p 0 2 2p 39 0 3 2q 2p 36 0 2 33 3a 0 2 ",
    "34 2r 0 2 2s 31 0 3 2s 31 1e 0 3 2s 31 1f 0 2 2x 39 0 2 inn jdc 0 2 k6l gp8 0 2 hlz l7n ",
    "0 2 k5q lh7 0 4 kkq irz fmi ny6 0 2 34 2p 0 2 32 2p 0 2 qk 2p 0 2 31 2p 0 2 2z 2p 0 2 2z ",
    "2q 0 2 31 2q 0 2 2v 2q 0 3 2r 2p 30 0 4 2z 2r 2p 30 0 2 34 2u 0 2 32 2u 0 2 qk 2u 0 2 qk ",
    "2v 0 2 31 2v 0 2 2z 2v 0 2 2w 3e 0 3 2z 2w 3e 0 3 31 2w 3e 0 3 2v 2w 3e 0 3 38 2w 3e 0 2 ",
    "qk 30 0 2 31 30 0 2 2s 30 0 2 2z 30 0 2 2u 31 0 2 32 31 0 2 qk 31 0 2 31 31 0 2 2r 31 0 ",
    "2 2z 31 0 3 31 31 1e 0 3 2r 31 1e 0 2 31 1e 0 3 2z 31 1e 0 3 31 31 1f 0 3 2r 31 1f 0 2 ",
    "31 1f 0 3 2z 31 1f 0 3 31 6qd 37 0 4 31 6qd 37 1e 0 2 34 2p 0 3 2z 34 2p 0 3 31 34 2p 0 ",
    "3 2v 34 2p 0 3 36 2p 2s 0 5 36 2p 2s 6qd 37 0 6 36 2p 2s 6qd 37 1e 0 2 34 37 0 2 32 37 0 ",
    "2 qk 37 0 2 31 37 0 2 34 3a 0 2 32 3a 0 2 qk 3a 0 2 31 3a 0 2 2z 3a 0 2 31 3a 0 2 34 3b ",
    "0 2 32 3b 0 2 qk 3b 0 2 31 3b 0 2 2z 3b 0 2 31 3b 0 2 2z qx 0 2 31 qx 1 2 2q 35 0 2 2r ",
    "2r 0 2 2r 2s 0 4 2r 6qd 2z 2v 1 2 2s 2q 0 2 2v 3d 0 2 2w 2p 0 2 2w 34 0 2 2x 32 0 2 2z ",
    "2z 0 2 2z 31 0 2 2z 38 0 2 30 31 0 2 30 32 0 3 30 33 2v 0 2 30 3c 0 2 31 2q 0 3 31 2x 30 ",
    "0 3 31 33 30 0 2 34 2w 1 3 34 34 31 0 2 34 36 0 2 37 36 0 2 37 3a 0 2 3b 2q 0 3 3a 6qd ",
    "31 0 3 2p 6qd 31 0 2 1d k4l 0 2 1e k4l 0 2 1f k4l 0 2 1g k4l 0 2 1h k4l 0 2 1i k4l 0 2 ",
    "1j k4l 0 2 1k k4l 0 2 1l k4l 0 3 1d 1c k4l 0 3 1d 1d k4l 0 3 1d 1e k4l 0 3 1d 1f k4l 0 3 ",
    "1d 1g k4l 0 3 1d 1h k4l 0 3 1d 1i k4l 0 3 1d 1j k4l 0 3 1d 1k k4l 0 3 1d 1l k4l 0 3 1e ",
    "1c k4l 0 3 1e 1d k4l 0 3 1e 1e k4l 0 3 1e 1f k4l 0 3 1e 1g k4l 0 3 1e 1h k4l 0 3 1e 1i ",
    "k4l 0 3 1e 1j k4l 0 3 1e 1k k4l 0 3 1e 1l k4l 0 3 1f 1c k4l 0 3 1f 1d k4l 0 3 2v 2p 30 ",
    "13b4 2 2u 2u 0 2 2u 2x 0 2 2u 30 0 3 2u 2u 2x 0 3 2u 2u 30 0 2 37 38 0 2 37 38 c 2 12s ",
    "12u 0 2 12s 12d 0 2 12s 12j 0 2 132 12u 0 2 12s 12l 5 2 15l 14k 1 2 16a 14n a 2 161 14x ",
    "0 2 161 14y 0 3 161 14s 14x 0 3 161 14s 14y 0 2 15c 14n 0 2 15c 14o 0 2 15c 14s 0 2 15d ",
    "14s 0 2 15e 14s 0 2 15f 14s 0 2 15g 14s 0 2 15h 14s 0 2 15i 14s 1 2 15k 14s 0 2 15l 14s ",
    "0 2 15m 14s 0 2 15n 14s 0 2 15o 14s 1 2 15q 14s 1 2 15s 14s 0 2 15t 14s 1 2 15v 14s 0 2 ",
    "15w 14s 1 2 15y 14s 0 2 15z 14s 0 2 160 14s 0 2 161 14s 0 2 162 14s 0 2 15h 14p 0 2 15d ",
    "14v 0 2 15n 14v 0 2 15w 14v 0 2 15c 15o 3x 2 1c7 19w c 2 17q 17r 0 2 17q 17r 0 2 17q 1cl ",
    "0 2 17q 1cl 0 2 17q 18o 0 2 17q 18o 0 2 17q 1c7 0 2 17q 1c7 0 2 17q 1c6 0 2 17q 1c6 0 2 ",
    "17q 1c8 0 2 17q 1c8 0 2 17q 1cg 0 2 17q 1cg 0 2 17q 1cg 0 2 17q 18p 0 2 17q 18p 0 2 17q ",
    "18p 4 2 17q 17w 0 2 17q 17x 0 2 17q 18l 0 2 17q 18p 0 2 17q 18q 0 2 17s 17w 0 2 17s 17x ",
    "0 2 17s 17y 0 2 17s 18l 0 2 17s 18p 0 2 17s 18q 0 2 17u 17w 0 2 17u 17x 0 2 17u 17y 0 2 ",
    "17u 18l 0 2 17u 18p 0 2 17u 18q 0 2 17v 17w 0 2 17v 18l 0 2 17v 18p 0 2 17v 18q 0 2 17w ",
    "17x 0 2 17w 18l 0 2 17x 17w 0 2 17x 18l 0 2 17y 17w 0 2 17y 17x 0 2 17y 18l 0 2 183 17w ",
    "0 2 183 17x 0 2 183 17y 0 2 183 18l 0 2 185 17x 0 2 185 18l 0 2 186 17w 0 2 186 17x 0 2 ",
    "186 17y 0 2 186 18l 0 2 187 17x 0 2 187 18l 0 2 188 18l 0 2 189 17w 0 2 189 18l 0 2 18a ",
    "17w 0 2 18a 18l 0 2 18h 17w 0 2 18h 17x 0 2 18h 17y 0 2 18h 18l 0 2 18h 18p 0 2 18h 18q ",
    "0 2 18i 17x 0 2 18i 18l 0 2 18i 18p 0 2 18i 18q 0 2 18j 17r 0 2 18j 17w 0 2 18j 17x 0 2 ",
    "18j 17y 0 2 18j 18k 0 2 18j 18l 0 2 18j 18p 0 2 18j 18q 0 2 18k 17w 0 2 18k 17x 0 2 18k ",
    "17y 0 2 18k 18l 0 2 18k 18p 0 2 18k 18q 0 2 18l 17w 0 2 18l 17x 0 2 18l 17y 0 2 18l 18l ",
    "0 2 18l 18p 0 2 18l 18q 0 2 18m 17w 0 2 18m 17x 0 2 18m 17y 0 2 18m 18l 0 2 18m 18p 0 2 ",
    "18m 18q 0 2 18n 17w 0 2 18n 18l 0 2 18n 18p 0 2 18n 18q 0 2 18q 17w 0 2 18q 17x 0 2 18q ",
    "17y 0 2 18q 18l 0 2 18q 18p 0 2 18q 18q 0 2 180 19s 0 2 181 19s 0 2 18p 19s 0 3 w 18s ",
    "18x 0 3 w 18t 18x 0 3 w 18u 18x 0 3 w 18v 18x 0 3 w 18w 18x 0 3 w 18x 19s 0 2 17q 181 0 ",
    "2 17q 182 0 2 17q 18l 0 2 17q 18m 0 2 17q 18p 0 2 17q 18q 0 2 17s 181 0 2 17s 182 0 2 ",
    "17s 18l 0 2 17s 18m 0 2 17s 18p 0 2 17s 18q 0 2 17u 181 0 2 17u 182 0 2 17u 18l 0 2 17u ",
    "18m 0 2 17u 18p 0 2 17u 18q 0 2 17v 181 0 2 17v 182 0 2 17v 18l 0 2 17v 18m 0 2 17v 18p ",
    "0 2 17v 18q 0 2 18h 18p 0 2 18h 18q 0 2 18i 18p 0 2 18i 18q 0 2 18j 17r 0 2 18j 18k 0 2 ",
    "18j 18l 0 2 18j 18p 0 2 18j 18q 0 2 18k 18l 0 2 18k 18p 0 2 18k 18q 0 2 18l 17r 0 2 18l ",
    "18l 0 2 18m 181 0 2 18m 182 0 2 18m 18l 0 2 18m 18m 0 2 18m 18p 0 2 18m 18q 0 2 18p 19s ",
    "0 2 18q 181 0 2 18q 182 0 2 18q 18l 0 2 18q 18m 0 2 18q 18p 0 2 18q 18q 0 2 17q 17w 0 2 ",
    "17q 17x 0 2 17q 17y 0 2 17q 18l 0 2 17q 18n 0 2 17s 17w 0 2 17s 17x 0 2 17s 17y 0 2 17s ",
    "18l 0 2 17s 18n 0 2 17u 17w 0 2 17u 17x 0 2 17u 17y 0 2 17u 18l 0 2 17u 18n 0 2 17v 18l ",
    "0 2 17w 17x 0 2 17w 18l 0 2 17x 17w 0 2 17x 18l 0 2 17y 17w 0 2 17y 18l 0 2 183 17w 0 2 ",
    "183 17x 0 2 183 17y 0 2 183 18l 0 2 185 17x 0 2 185 17y 0 2 185 18l 0 2 186 17w 0 2 186 ",
    "17x 0 2 186 17y 0 2 186 18l 0 2 187 17x 0 2 188 18l 0 2 189 17w 0 2 189 18l 0 2 18a 17w ",
    "0 2 18a 18l 0 2 18h 17w 0 2 18h 17x 0 2 18h 17y 0 2 18h 18l 0 2 18i 17x 0 2 18i 18l 0 2 ",
    "18j 17w 0 2 18j 17x 0 2 18j 17y 0 2 18j 18k 0 2 18j 18l 0 2 18k 17w 0 2 18k 17x 0 2 18k ",
    "17y 0 2 18k 18l 0 2 18k 18n 0 2 18l 17w 0 2 18l 17x 0 2 18l 17y 0 2 18l 18l 0 2 18m 17w ",
    "0 2 18m 17x 0 2 18m 17y 0 2 18m 18l 0 2 18m 18n 0 2 18n 17w 0 2 18n 18l 0 2 18n 19s 0 2 ",
    "18q 17w 0 2 18q 17x 0 2 18q 17y 0 2 18q 18l 0 2 18q 18n 0 2 17q 18l 0 2 17q 18n 0 2 17s ",
    "18l 0 2 17s 18n 0 2 17u 18l 0 2 17u 18n 0 2 17v 18l 0 2 17v 18n 0 2 183 18l 0 2 183 18n ",
    "0 2 184 18l 0 2 184 18n 0 2 18j 18k 0 2 18j 18l 0 2 18k 18l 0 2 18m 18l 0 2 18m 18n 0 2 ",
    "18q 18l 0 2 18q 18n 0 3 18g 18u 18x 0 3 18g 18v 18x 0 3 18g 18w 18x 0 2 187 18p 0 2 187 ",
    "18q 0 2 189 18p 0 2 189 18q 0 2 18a 18p 0 2 18a 18q 0 2 183 18p 0 2 183 18q 0 2 184 18p ",
    "0 2 184 18q 0 2 17x 18p 0 2 17x 18q 0 2 17w 18p 0 2 17w 18q 0 2 17y 18p 0 2 17y 18q 0 2 ",
    "185 18p 0 2 185 18q 0 2 186 18p 0 2 186 18q 0 2 184 17w 0 2 184 17x 0 2 184 17y 0 2 184 ",
    "18l 0 2 184 181 0 2 183 181 0 2 185 181 0 2 186 181 0 2 187 18p 0 2 187 18q 0 2 189 18p ",
    "0 2 189 18q 0 2 18a 18p 0 2 18a 18q 0 2 183 18p 0 2 183 18q 0 2 184 18p 0 2 184 18q 0 2 ",
    "17x 18p 0 2 17x 18q 0 2 17w 18p 0 2 17w 18q 0 2 17y 18p 0 2 17y 18q 0 2 185 18p 0 2 185 ",
    "18q 0 2 186 18p 0 2 186 18q 0 2 184 17w 0 2 184 17x 0 2 184 17y 0 2 184 18l 0 2 184 181 ",
    "0 2 183 181 0 2 185 181 0 2 186 181 0 2 184 17w 0 2 184 17x 0 2 184 17y 0 2 184 18l 0 2 ",
    "183 18n 0 2 184 18n 0 2 187 18l 0 2 183 17w 0 2 183 17x 0 2 183 17y 0 2 184 17w 0 2 184 ",
    "17x 0 2 184 17y 0 2 187 18l 0 2 188 18l 0 2 17r 18r 0 2 17r 18r i 3 17u 17w 18l 0 3 17u ",
    "17x 17w 0 3 17u 17x 17w 0 3 17u 17x 18l 0 3 17u 17y 18l 0 3 17u 18l 17w 0 3 17u 18l 17x ",
    "0 3 17u 18l 17y 0 3 17w 18l 17x 0 3 17w 18l 17x 0 3 17x 18l 18q 0 3 17x 18l 18p 0 3 183 ",
    "17x 17w 0 3 183 17w 17x 0 3 183 17w 18p 0 3 183 18l 17x 0 3 183 18l 17x 0 3 183 18l 17w ",
    "0 3 183 18l 18l 0 3 183 18l 18l 0 3 185 17x 17x 0 3 185 17x 17x 0 3 185 18l 18l 0 3 184 ",
    "17x 18l 0 3 184 17x 18l 0 3 184 17w 18q 0 3 184 18l 17y 0 3 184 18l 17y 0 3 184 18l 18l ",
    "0 3 184 18l 18l 0 3 186 17x 18p 0 3 186 17y 18l 0 3 186 17y 18l 0 3 187 18l 17x 0 3 187 ",
    "18l 17x 0 3 187 18l 18l 0 3 187 18l 18q 0 3 189 17w 18l 0 3 189 18l 18l 0 3 189 18l 18l ",
    "0 3 189 18l 18p 0 3 18a 18l 18l 0 3 18a 18l 18q 0 3 18a 18l 18p 0 3 18h 17y 18l 0 3 18h ",
    "17y 18l 0 3 18i 18l 17x 0 3 18i 18l 18l 0 3 18k 17x 18l 0 3 18k 17x 18q 0 3 18k 17x 18p ",
    "0 3 18k 17w 17w 0 3 18k 17w 17w 0 3 18k 17y 18l 0 3 18k 17y 18l 0 3 18k 18l 17x 0 3 18k ",
    "18l 17x 0 3 18l 17x 17w 0 3 18l 17x 18l 0 3 18l 17x 18q 0 3 18l 17w 17x 0 3 18l 17w 18l ",
    "0 3 18l 17y 17w 0 3 18l 17y 18l 2 3 18l 17w 17y 0 3 18n 18l 17w 0 3 18n 18l 18l 0 3 18m ",
    "17x 18l 0 3 18m 17x 18p 0 3 18m 17w 18l 0 3 18m 17w 18l 0 3 18m 17w 18p 0 3 18m 18l 18q ",
    "0 3 18m 18l 18p 0 3 18q 18l 18l 0 3 18q 18l 18l 0 3 17s 17y 18q 0 3 17u 17w 18q 0 3 17u ",
    "17w 18p 0 3 17u 17y 18q 0 3 17u 17y 18p 0 3 17u 18l 18q 0 3 17u 18l 18p 0 3 17w 18l 18q ",
    "0 3 17w 17x 18p 0 3 17w 18l 18p 0 3 183 17y 18p 0 3 185 17x 18q 0 3 184 17x 18q 0 3 186 ",
    "17x 18q 0 3 18k 17w 18q 0 3 18k 18l 18q 0 3 18q 17x 18q 0 3 18q 17w 18q 0 3 18q 18l 18q ",
    "0 3 18l 18l 18q 0 3 18i 18l 18q 0 3 18m 17x 18q 0 3 18i 18l 17x 0 3 18k 17x 18l 0 3 189 ",
    "18l 18q 0 3 18j 18l 18q 0 3 18m 17w 17x 0 3 18l 17y 18q 0 3 18k 17w 18l 0 3 18j 18l 18l ",
    "0 3 18k 17w 18l 0 3 18m 17w 17x 0 3 17w 17x 18q 0 3 17x 17w 18q 0 3 18l 17w 18q 0 3 18h ",
    "18l 18q 0 3 17s 17x 18q 0 3 18j 18l 18l 0 3 189 17w 18l 0 3 185 18l 18l 0 3 183 17y 18q ",
    "0 3 18m 17w 18q 14 3 185 18k 1ci 0 3 18i 18k 1ci 0 4 17r 18k 18k 18n 0 4 17r 18j 17s 181 ",
    "0 4 18l 17x 18l 17z 0 4 185 18k 189 18l 0 4 181 183 18o 18k 0 4 189 18k 18q 18n 0 4 18o ",
    "183 18k 18l 0 3 185 18k 18p 0 i 185 18k 18p w 17r 18k 18k 18n w 189 18k 18q 18n w 18o ",
    "183 18k 18l 0 8 17w 18k w 17w 18k 17r 18k 18n 0 4 181 1cc 17r 18k 24 2 w lh 0 2 w lh 0 2 ",
    "w lh 0 2 w lh z 2 w 18r 0 2 18g 18r 0 2 w 18s 1 2 w 18t 1 2 w 18u 0 2 18g 18u 0 2 w 18v ",
    "0 2 18g 18v 0 2 w 18w 0 2 18g 18w 0 2 w 18x 0 2 18g 18x 0 2 w 18y 0 2 18g 18y 39 2 18k ",
    "17m 0 2 18k 17m 0 2 18k 17n 0 2 18k 17n 0 2 18k 17p 0 2 18k 17p 0 2 18k 17r 0 2 18k 17r ",
    "6e 2 w lg 15dm 2 2jx3 2jxh 0 2 2jx4 2jxh 0 3 2jx4 2jxh 2jxq 0 3 2jx4 2jxh 2jxr 0 3 2jx4 ",
    "2jxh 2jxs 0 3 2jx4 2jxh 2jxt 0 3 2jx4 2jxh 2jxu 2e 2 2jzt 2jxh 0 2 2jzu 2jxh 0 3 2jzt ",
    "2jxh 2jxq 0 3 2jzu 2jxh 2jxq 0 3 2jzt 2jxh 2jxr 0 3 2jzu 2jxh 2jxr 668 2 1c 18 0 2 1d 18 ",
    "0 2 1e 18 0 2 1f 18 0 2 1g 18 0 2 1h 18 0 2 1i 18 0 2 1j 18 0 2 1k 18 0 2 1l 18 5 3 14 ",
    "2p 15 0 3 14 2q 15 0 3 14 2r 15 0 3 14 2s 15 0 3 14 2t 15 0 3 14 2u 15 0 3 14 2v 15 0 3 ",
    "14 2w 15 0 3 14 2x 15 0 3 14 2y 15 0 3 14 2z 15 0 3 14 30 15 0 3 14 31 15 0 3 14 32 15 0 ",
    "3 14 33 15 0 3 14 34 15 0 3 14 35 15 0 3 14 36 15 0 3 14 37 15 0 3 14 38 15 0 3 14 39 15 ",
    "0 3 14 3a 15 0 3 14 3b 15 0 3 14 3c 15 0 3 14 3d 15 0 3 14 3e 15 0 3 9hw 37 9hx 2 2 2r ",
    "2s 0 2 3b 3e r 2 2w 3a 0 2 31 3a 0 2 37 2s 0 2 37 37 0 3 34 34 3a 0 2 3b 2r q 2 31 2r 0 ",
    "2 31 2s 0 2 31 36 z 2 2s 2y 33 2 9kr 9jf 0 2 9mb 9mb 1q 3 9hw kdo 9hx 0 3 9hw fex 9hx 0 ",
    "3 9hw fik 9hx 0 3 9hw i2x 9hx 0 3 9hw m9l 9hx 0 3 9hw jf7 9hx 0 3 9hw nh3 9hx 0 3 9hw ",
    "gd9 9hx 0 3 9hw k0n 9hx"]

/-- Characters mapped to nothing, as text. -/
def ignoredText : List String := [
    "4t 0 ip 0 2rz 1 18z 1 2d 4 1kr 0 2c 4 5 5 3ck 0 14ez f 6n 0 4g 0 11bz 3 43z 7 h479 6n"]

/-- Characters that may not stand in a host name, as text. -/
def disallowedText : List String := [
    "3k v k8 1 6 3 7 0 1 0 k 0 b1 0 12 1 1e 1 3 0 1j 7 r 3 6 g m 0 5c 0 1c 1 1n 1 2t d 1n 1 ",
    "1d 1 f 0 s 1 1 0 b 4 w 6 23 0 4h 0 8 1 2 1 m 0 7 0 1 2 4 1 9 1 2 1 4 7 1 3 2 0 5 1 p 1 3 ",
    "0 6 3 2 1 m 0 7 0 2 0 2 0 2 1 1 0 5 3 2 1 3 2 1 6 4 0 1 6 h 9 3 0 9 0 3 0 m 0 7 0 2 0 5 ",
    "1 a 0 3 0 3 1 1 e 4 1 c 6 7 0 3 0 8 1 2 1 m 0 7 0 2 0 5 1 9 1 2 1 3 6 3 3 2 0 5 1 i 9 2 ",
    "0 6 2 3 0 4 2 2 0 1 0 2 2 2 2 3 2 c 3 5 2 3 0 4 1 1 5 1 d l 4 d 0 3 0 n 0 g 1 9 0 3 0 4 ",
    "6 2 0 3 0 2 1 4 1 a 6 m 0 3 0 n 0 a 0 5 1 9 0 3 0 4 6 2 4 3 0 4 1 a 0 3 b d 0 3 0 1f 0 3 ",
    "0 6 3 g 1 q 0 3 0 i 2 o 0 9 0 1 1 7 2 1 3 6 0 1 0 8 5 a 1 3 b 1m 3 t 10 2 0 1 0 5 0 o 0 ",
    "1 0 n 1 5 0 1 0 7 0 a 1 4 v 20 0 10 3 13 0 10 0 f 0 d 10 5i 0 1 4 1 1 ah 0 4 1 7 0 1 0 4 ",
    "1 15 0 4 1 x 0 4 1 7 0 1 0 4 1 f 0 1l 0 4 1 1v 1 w 2 q 5 2e 1 6 1 hs 0 s 2 2h 6 m 8 o 8 ",
    "k b d 0 3 0 2 b 2m 1 a 5 a 5 q 5 2h 6 17 4 1y 9 v 0 c 3 c 3 1 2 16 1 5 a 18 3 q 5 b 2 1q ",
    "1 1t 0 t 1 b 5 a 5 e 1 1a 1 c j 25 0 4m 7 1o 2 f 2 1q 4 17 1 b 7 17 4 eu 1 6 1 12 1 6 1 ",
    "8 0 1 0 1 0 1 0 v 1 1h 0 f 0 e 1 6 0 j 1 3 0 9 0 e 1 k 2 1 6 1i 4 8 1 r 0 d 2 y d x e 3w ",
    "3 ii l b k 14 j 1co 1 am 4 19 0 1 4 1 1 1k 6 2 d o 8 7 0 7 0 7 0 7 0 7 0 7 0 7 0 7 0 3i ",
    "x q 0 2h b 5y 15 1s 0 2e 1 2v 4 17 0 2m 0 2e 9 1b 0 bm 0 4 0 g 0 m9g 2 1j 8 9o j 54 7 65 ",
    "j 1o 2 a 5 1k 7 1y 7 c 5 38 a u 2 26 0 b 3 x 0 1j 8 e 1 a 1 2v n s 9 6 1 6 1 6 8 7 0 7 0 ",
    "1o 3 3i 1 a 5 8mc b n 3 1d 6ir a6 1 2y 11 7 b 5 4 q 0 5 0 1 0 2 0 2 0 i2 v y 0 6 6 g 0 x ",
    "1 j 0 4 3 5 0 3r 1 1 0 5a 2 6 1 6 1 6 1 3 2 7 0 7 g c 0 q 0 j 0 2 0 f 1 e x 3f 4 3 3 19 ",
    "2 2g 0 d 2 1 1a 1a 3l t 2 1d e s 3 10 8 u 4 17 4 u 0 11 3 e 15 4e 1 a 5 10 3 10 3 14 7 ",
    "1g a c 0 f 0 7 0 2 0 b 0 f 0 7 0 2 2 1g b 8n 8 m 9 8 n 6 0 16 0 9 1w 6 1 1 0 18 0 2 2 1 ",
    "1 n 0 20 7 9 1b j 0 2 4 x 2 r 4 r 11 1k 3 k 1 1e 0 2 4 8 0 3 0 t 1 3 3 a 6 9 6 1s v 13 3 ",
    "c 8 1i 2 t 1 r 4 q 6 4 b 7 27 21 1i 1f c 1f 6 1a 7 a 5 12 2 t 7 2 5r v 0 16 0 3 1 2 f 6 ",
    "7 9 w 1a 7 16 l q 11 s j n 8 26 3 10 8 1q 0 5 c p 6 a 5 1h 0 i 7 13 8 2o 0 k a i 0 1b 1p ",
    "7 0 1 0 4 0 f 0 b 5 1n 4 a 5 4 0 8 1 2 1 m 0 7 0 2 0 5 0 a 1 2 1 3 1 1 5 1 4 7 1 7 2 5 a ",
    "a 0 1 1 1 0 12 0 a 0 1 1 1 0 4 0 a 0 2 7 2 s 2k 0 5 t 20 7 a 4l 1i 1 12 x 1x a a 5 d i ",
    "1m 5 a 5 k r r 1 f 3 n 54 1o 2r 2b b 8 1 1 1 8 0 2 0 u 0 2 1 c 8 a 1x 8 1 1a 1 b q 20 7 ",
    "2b c 21 6 a 2d 8 2f y d a 5 9 0 19 0 e 9 t 2 w 1 m 0 e 20 7 0 2 0 18 2 1 0 2 0 9 7 a 5 6 ",
    "0 2 0 11 0 2 0 6 6 a 5 18 3 a 6t p 6 h 0 15 2 t 2c 1 e 1e c pn 2t 33 0 5 a 5g 217 2r c ",
    "ts f m 9 32z 4 g7 5a0 1m 1c5 ft 6 v 0 a 3 29 0 a 5 u 1 6 9 1y 9 a 0 7 0 l 4 j bz 1m 5h ",
    "2j 4 p 1 p 17 23 3 1l 6 h 1r 5 a 7 8 5p2 14 w 2o 37 6po 4 0 7 0 2 0 83 e 1 s 3 1 1 d 4 7 ",
    "b0 1s3 2z 4 d 2 9 6 a 1 8 317 71 2 c4 5 n e h e 1a 1 n 8 38 1n 6u 9 13 1 5e k 1y 3d k b ",
    "k b 2f 8 p 3q 2d 0 1z 0 2 1 1 1 2 1 4 0 c 0 1 0 7 0 1t 0 4 1 8 0 7 0 s 0 4 0 5 0 1 2 7 0 ",
    "9g 1 84 1 ji e 5 0 f un v 5 6 5w 7 0 h 1 7 0 2 0 5 4 1q w 1 33 19 2 e 1 a 3 2 8v v g 1m ",
    "4 1 cv 16 5x 17 3 1 5b v 0 m 7 2 67 7 0 4 0 2 0 f 0 5h 1 g 14 24 3 a 3 2 ls 1w 23 1p 5d ",
    "4 0 r 0 2 0 1 1 1 0 a 0 4 0 1 0 1 5 1 3 1 0 1 0 1 0 3 0 2 0 1 1 1 0 1 0 1 0 1 0 1 0 2 0 ",
    "1 1 4 0 7 0 4 0 4 0 1 0 a 0 h 4 3 0 5 0 h 1f 2 7h 18 3 2s b f 1 f 0 f 0 11 a 4t 1j t c ",
    "18 3 9 6 2 d 6 49 rd 2 h 2 d 2 62 5 c 3 1 e c 3 1k 7 a 5 14 7 u 1 c 3 2 d 9 12 9k 7 e 1 ",
    "d 2 b 2 1l 0 1 3 g 1 c 3 a 6 43 0 2v sk wyo v 3dq 1 4ge 1 5rl e ha 1wh f2 15t 3t7 4 6ju ",
    "f62t 6o 47bj"]

/-- How characters join, as text: 1 on both sides, 2 to the left, 3 to the right, 4 not at all
and transparent, 5 by themselves. -/
def joiningText : List String := [
    "4t 0 4 gi 33 4 7n 6 4 7b 18 4 1 0 4 1 1 4 1 1 4 1 0 4 20 a 4 1 0 4 3 0 1 1 3 3 0 0 1 0 0 ",
    "3 0 0 1 0 0 3 0 4 1 0 3 3 0 c 1 0 0 5 0 6 1 0 0 3 0 1 1 0 k 4 e 1 1 0 0 4 0 2 3 1 2 3 0 ",
    "f 1 0 h 3 0 11 1 0 0 3 0 1 1 0 8 3 0 0 1 0 0 3 0 0 1 0 0 3 0 1 1 0 1 3 1 0 3 0 6 4 2 5 4 ",
    "2 1 4 1 3 4 0 1 3 a 2 1 2 0 1 f 0 4 0 0 3 0 0 4 0 2 1 0 4 3 0 3 1 0 0 3 0 8 1 0 0 3 0 0 ",
    "1 0 0 3 0 0 1 0 0 3 0 1 1 0 0 3 0 q 4 2 0 3 0 a 1 0 2 3 0 e 1 0 1 3 0 3 1 0 0 3 0 0 1 0 ",
    "1 3 0 2 1 0 1 3 0 5 1 12 a 4 p w 1 0 8 4 6 0 5 2 0 4 o 3 4 1 8 4 1 2 4 1 4 4 i 0 3 0 4 1 ",
    "0 1 3 0 0 1 0 0 3 0 9 1 0 0 3 0 0 1 0 2 3 0 2 4 4 0 1 1 3 1 1 0 3 0 0 1 0 1 3 5 i 3 0 2 ",
    "5 0 0 1 2 4 1 0 0 3 9 7 4 0 9 1 0 2 3 1 0 3 0 1 1 0 1 3 0 5 1 0 0 3 0 e 1 1 n 4 1 v 4 1j ",
    "0 4 1 0 4 4 7 4 4 0 4 3 6 4 a 1 4 t 0 4 1m 0 4 4 3 4 8 0 4 k 1 4 q 0 4 2 1 4 1l 0 4 4 1 ",
    "4 4 1 4 2 2 4 3 0 4 u 1 4 3 0 4 b 1 4 1l 0 4 4 4 4 1 1 4 4 0 4 k 1 4 m 5 4 1 0 4 1m 0 4 ",
    "2 0 4 1 3 4 8 0 4 7 1 4 b 1 4 u 0 4 1p 0 4 c 0 4 1e 0 4 3 0 4 1j 0 4 1 2 4 5 2 4 1 3 4 7 ",
    "1 4 b 1 4 t 0 4 1m 0 4 2 0 4 6 0 4 5 1 4 k 1 4 s 1 4 1l 1 4 4 3 4 8 0 4 k 1 4 t 0 4 20 0 ",
    "4 7 2 4 1 0 4 2i 0 4 2 6 4 c 7 4 2q 0 4 2 8 4 b 6 4 21 1 4 r 0 4 1 0 4 1 0 4 1j d 4 1 4 ",
    "4 1 1 4 5 a 4 1 z 4 9 0 4 2u 3 4 1 5 4 1 1 4 2 1 4 p 1 4 4 2 4 g 3 4 d 0 4 2 1 4 6 0 4 f ",
    "0 4 jj 2 4 qa 2 4 t 1 4 u 1 4 u 1 4 1s 1 4 1 6 4 8 0 4 2 a 4 9 0 4 15 0 1 2 0 5 0 2 4 1 ",
    "0 4 g 2g 1 c 1 4 0 x 1 0 0 4 0 0 1 39 2 4 4 1 4 9 0 4 6 2 4 63 1 4 2 0 4 1m 0 4 1 6 4 1 ",
    "0 4 1 0 4 2 7 4 6 9 4 2 0 4 1c u 4 1d 3 4 1c 0 4 1 4 4 1 0 4 5 0 4 14 8 4 c 1 4 w 3 4 2 ",
    "1 4 1 2 4 1k 0 4 1 1 4 3 0 4 1 2 4 1m 7 4 2 1 4 48 2 4 1 c 4 1 6 4 4 0 4 6 0 4 3 1 4 5i ",
    "1r 4 ej 0 4 1 0 5 0 1 4 q 4 4 1d 4 4 5 5 4 2o w 4 2da 2 4 3x 0 4 2o v 4 fe 3 4 2z 1 4 ",
    "n9w 3 4 1 9 4 w 1 4 28 1 4 7k 0 4 3 0 4 4 0 4 p 1 4 5 0 4 j 1d 1 0 0 2 29 1 4 q h 4 d 0 ",
    "4 12 7 4 p a 4 1a 2 4 1c 0 4 2 3 4 2 1 4 13 0 4 1v 5 4 2 1 4 2 1 4 c 0 4 8 0 4 1b 0 4 1f ",
    "0 4 1 2 4 2 1 4 5 1 4 1 0 4 16 1 4 8 0 4 6m 0 4 2 0 4 4 0 4 fn4 0 4 kh f 4 g f 4 5r 0 4 ",
    "6x 2 4 e9 0 4 6a 0 4 45 4 4 1ae 2 4 1 1 4 5 3 4 14 2 4 4 0 4 3k 4 1 0 0 3 1 0 3 1 1 3 2 ",
    "0 2 0 4 3 0 3 1 0 0 2 0 4 1 0 0 3 0 2 1 0 0 3 2 0 3 0 1 4 4 3 1 0 0 3 40 0 1 0 0 3 0 0 1 ",
    "0 2 3 0 2 1 0 0 3 0 1 1 0 0 3 0 0 1 0 1 3 0 0 1 0 0 3 n 3 3 0 1 1 9d 0 2 0 w 1 0 0 3 0 0 ",
    "1 0 3 4 ar 1 4 28 2 4 1c 2 1 0 0 3 0 g 1 1 a 4 0 2 1 0 0 3 r 3 1 0 1 3 0 b 1 0 3 4 16 0 ",
    "1 1 1 1 0 2 3 1 0 1 0 1 3 0 1 1 0 0 3 0 1 1 1 0 1 0 1 3 0 0 1 4 0 3 0 0 1 0 0 2 1h 0 4 ",
    "1i e 4 15 0 4 2 1 4 a 2 4 1d 3 4 2 1 4 7 0 4 1p 2 4 10 4 4 1 7 4 1q 0 4 c 1 4 1g 8 4 a 3 ",
    "4 2 0 4 2n 2 4 2 0 4 1 1 4 6 0 4 2 0 4 4d 0 4 3 7 4 l 1 4 1l 1 4 3 0 4 11 6 4 3 4 4 5f 7 ",
    "4 2 2 4 1 0 4 n 0 4 2c 5 4 1 0 4 4 1 4 1 1 4 6m 3 4 6 1 4 1 1 4 r 1 4 2d 7 4 2 0 4 1 1 4 ",
    "2y 0 4 1 0 4 2 5 4 1 0 4 2t 2 4 2 3 4 1 4 4 77 8 4 1 1 4 74 1 4 1 0 4 4 0 4 40 3 4 2 1 4 ",
    "4 0 4 w 9 4 14 5 4 2 3 4 8 0 4 9 5 4 2 2 4 1a c 4 1 1 4 ba 6 4 1 5 4 1 0 4 2a l 4 2 6 4 ",
    "1 1 4 1 1 4 3e 5 4 3 0 4 1 1 4 1 6 4 1 0 4 20 1 4 3 0 4 1 0 4 9n 1 4 b 1 4 1g 4 4 5 0 4 ",
    "1 0 4 44t g 4 6 e 4 asa 4 4 1n 6 4 t4 0 4 1r 3 4 29 0 4 f5k 1 4 1 3 4 3mk 19 4 2 m 4 f4 ",
    "2 4 9 f 4 2 6 4 u 3 4 44 2 4 1iz 1i 4 4 1d 4 8 0 4 e 0 4 m 4 4 1 e 4 11s 6 4 1 g 4 2 6 4 ",
    "1 1 4 1 4 4 2s 0 4 4g 6 4 af 0 4 1p 3 4 e4 3 4 rk 6 4 15 1v 1 0 7 4 gzat 0 4 u 2n 4 3k ",
    "6n 4"]

/-- Directions other than left to right, as text. -/
def directionText : List String := [
    "0 8 a 0 0 d 0 0 c 0 0 d 0 0 e 0 0 c 0 d a 0 2 c 0 0 d 0 0 e 0 1 b 0 2 6 0 4 b 0 0 5 0 0 ",
    "8 0 0 5 0 1 8 0 9 4 0 0 8 0 5 b q 5 b q 3 b 0 5 a 0 0 c 0 p a 0 0 8 0 0 b 0 3 6 0 3 b 1 ",
    "1 b 0 0 a 0 1 b 0 1 6 0 1 4 0 0 b 1 2 b 0 0 4 1 4 b n 0 b v 0 b ch 1 b 7 d b 2 d b 5 8 b ",
    "1 g b 0 33 9 4 1 b 8 0 b 5 1 b 1 0 b 32 0 b 3w 6 9 74 0 b 2 1 b 0 0 6 1 18 9 0 0 2 0 0 9 ",
    "0 0 2 0 1 9 0 0 2 0 1 9 0 0 2 0 0 9 8 q 2 4 5 2 b 5 7 0 1 b 0 0 3 0 1 6 0 0 3 0 0 8 0 0 ",
    "3 0 1 b 0 a 9 0 1b 3 0 k 9 0 9 7 0 0 6 0 1 7 0 2 3 0 0 9 0 2s 3 0 6 9 0 0 7 0 0 b 0 5 9 ",
    "0 1 3 0 1 9 0 0 b 0 3 9 0 1 3 0 9 4 0 j 3 1 1 3 0 0 9 0 t 3 0 q 9 2 2g 3 0 a 9 0 0 3 e ",
    "16 2 0 8 9 0 1 2 0 3 b 0 0 2 2 0 9 0 n 2 0 3 9 0 0 2 0 8 9 0 0 2 0 2 9 0 0 2 0 4 9 2 e 2 ",
    "1 o 2 0 2 9 2 0 2 1 a 3 5 u 3 1 1 7 6 7 9 0 15 3 0 n 9 0 0 7 0 v 9 1j 0 9 1 0 9 4 7 9 4 ",
    "0 9 3 6 9 a 1 9 t 0 9 1m 0 9 4 3 9 8 0 9 k 1 9 e 1 6 7 0 6 2 0 9 2 1 9 1l 0 9 4 1 9 4 1 ",
    "9 2 2 9 3 0 9 u 1 9 3 0 9 b 1 9 1l 0 9 4 4 9 1 1 9 4 0 9 k 1 9 d 0 6 8 5 9 1 0 9 1m 0 9 ",
    "2 0 9 1 3 9 8 0 9 7 1 9 b 1 9 u 0 9 1p 0 9 c 0 9 11 5 b 0 0 6 0 0 b 5 0 9 3 0 9 1j 0 9 1 ",
    "2 9 5 2 9 1 3 9 7 1 9 b 1 9 k 6 b 2 0 9 1m 0 9 f 1 9 k 1 9 s 1 9 1l 1 9 4 3 9 8 0 9 k 1 ",
    "9 t 0 9 20 0 9 7 2 9 1 0 9 2i 0 9 2 6 9 4 0 6 7 7 9 2q 0 9 2 8 9 b 5 9 22 1 9 r 0 9 1 0 ",
    "9 1 0 9 0 3 b 1f d 9 1 4 9 1 1 9 5 a 9 1 z 9 9 0 9 2u 3 9 1 5 9 1 1 9 2 1 9 p 1 9 4 2 9 ",
    "g 3 9 d 0 9 2 1 9 6 0 9 f 0 9 jj 2 9 1c 9 b 2u 0 b hr 0 e q 1 b 39 2 9 t 1 9 u 1 9 u 1 9 ",
    "1s 1 9 1 6 9 8 0 9 2 a 9 7 0 6 1 0 9 i 9 b 6 a b 0 2 9 0 0 a 0 0 9 39 1 9 y 0 9 3a 2 9 4 ",
    "1 9 9 0 9 6 2 9 4 0 b 3 1 b 48 x b n 1 9 2 0 9 1m 0 9 1 6 9 1 0 9 1 0 9 2 7 9 6 9 9 2 0 ",
    "9 1c u 9 1d 3 9 1c 0 9 1 4 9 1 0 9 5 0 9 14 8 9 c 1 9 w 3 9 2 1 9 1 2 9 1k 0 9 1 1 9 3 0 ",
    "9 1 2 9 1m 7 9 2 1 9 48 2 9 1 c 9 1 6 9 4 0 9 6 0 9 3 1 9 5i 1r 9 cd 0 b 1 2 b b 2 b d 2 ",
    "b d 2 b d 1 b 1 a e 0 2 a 1 0 2 0 n b 0 0 e 0 5 c 0 0 8 0 4 6 0 e b 0 0 8 0 p b 0 0 e 0 ",
    "4 a 1 3 c 0 5 a 0 0 4 3 5 4 0 1 5 0 2 b 1 9 4 0 1 5 0 2 b h w 6 f w 9 f 1 b 1 3 b 1 1 b ",
    "a 0 b 1 2 b 5 5 b 1 0 b 1 0 b 1 0 b 4 0 6 b 1 b 4 4 b 5 3 b 2 f b 15 2 b 4 3l b 0 0 5 0 ",
    "0 6 0 81 b 1x p b 1 40 b p a b l 13 b 0 j 4 26 ch b 1 9e b 74 hf b 2 v b 1 2w b 6d 5 b 4 ",
    "2 9 7 6 b 3j 0 9 2o v 9 0 2l b y p b 1 2g b c 5x b q b b 4 0 e 0 3 b 3 o b 9 3 9 2 0 b 5 ",
    "1 b 5 2 b 2h 1 9 0 1 b 3 0 b 2i 0 b 5g z b 1l 1 b 1d f b s 2 b 1e e b c 3 b 4n 3 b 2r 1 ",
    "b v 0 b 534 1r b h3k 1i b 92 2 b 2n 3 9 0 0 b 0 9 9 0 1 b u 1 9 28 1 9 e x b 2u 0 b 3d 0 ",
    "9 3 0 9 4 0 9 p 1 9 1 3 b 0 0 9 b 1 6 1m 3 b 24 1 9 q h 9 d 0 9 12 7 9 p a 9 1a 2 9 1c 0 ",
    "9 2 3 9 2 1 9 13 0 9 1v 5 9 2 1 9 2 1 9 c 0 9 8 0 9 1b 0 9 1f 0 9 1 2 9 2 1 9 5 1 9 1 0 ",
    "9 16 1 9 8 0 9 37 1 b 3d 0 9 2 0 9 4 0 9 fn3 0 2 0 0 9 0 9 2 0 0 5 0 c 2 1 4 2 1 0 2 1 1 ",
    "2 1 1 2 1 9 2 0 36 3 g a2 3 0 h b 0 1r 3 2 1h 3 7 0 b w c 3 0 2 b 0 f 9 0 9 b 6 f 9 0 v ",
    "b 0 0 8 0 0 b 0 0 8 1 0 b 0 0 8 0 8 b 0 0 6 0 1 b 0 1 5 0 2 b 1 0 b 0 1 6 0 0 b 4 4 3 1 ",
    "3q 3 2 0 a 1 1 b 0 2 6 0 4 b 0 0 5 0 0 8 0 0 5 0 1 8 0 9 4 0 0 8 0 5 b q 5 b q a b 3e 1 ",
    "6 0 2 b 0 1 6 1 6 b a 4 b 77 0 b 1q 24 b 3 c b 3 0 b 2k 0 9 6a 0 9 0 q 4 3e 4 9 w5 5 2 2 ",
    "0 2 1 17 2 1 1 2 3 0 2 2 m 2 1 1z 2 8 8 2 1c i 2 1 1 2 5 w 2 3 0 b 0 p 2 5 0 2 1s 1j 2 4 ",
    "j 2 2 1a 2 0 2 9 1 1 9 5 3 9 0 3 2 1 2 2 1 s 2 2 2 9 4 0 9 0 8 2 7 8 2 7 1r 2 w 10 2 0 1 ",
    "9 4 b 2 9 1h 2 3 6 b 0 l 2 2 q 2 5 p 2 7 3 2 c 6 2 28 20 2 1j 1e 2 d 1e 2 7 5 2 0 z 3 0 ",
    "3 9 8 9 7 86 u 7 1 15 2 1 1 9 0 0 2 2 1 2 26 13 2 8 l 3 0 a 9 0 8 3 m h 2 0 3 9 0 3 2 12 ",
    "r 2 k m 2 a 0 9 1i e 9 b j b a 0 9 2 1 9 a 2 9 1d 3 9 2 1 9 7 0 9 1p 2 9 10 4 9 1 7 9 1q ",
    "0 9 c 1 9 1g 8 9 a 3 9 2 0 9 2n 2 9 2 0 9 1 1 9 6 0 9 4g 0 9 3 7 9 l 1 9 1l 1 9 3 0 9 11 ",
    "6 9 3 4 9 5f 7 9 2 2 9 1 0 9 n 0 9 2c 5 9 1 0 9 4 1 9 1 1 9 6m 3 9 6 1 9 1 1 9 r 1 9 2d ",
    "7 9 2 0 9 1 1 9 v c b 1q 0 9 1 0 9 2 5 9 1 0 9 2t 2 9 2 3 9 1 4 9 77 8 9 1 1 9 74 1 9 1 ",
    "0 9 4 0 9 40 3 9 2 1 9 4 0 9 w 5 9 2 1 9 14 5 9 2 3 9 8 0 9 9 5 9 2 2 9 1a c 9 1 1 9 ba ",
    "6 9 1 5 9 2c l 9 2 6 9 1 1 9 1 1 9 3e 5 9 3 0 9 1 1 9 1 6 9 1 0 9 20 1 9 3 0 9 1 0 9 9n ",
    "1 9 68 7 b 0 3 6 0 g b eta 4 9 1n 6 9 t4 0 9 1r 3 9 27 0 b 1 0 9 f5k 1 9 1 3 a 3mk 19 9 ",
    "2 m 9 f4 2 9 9 7 a 0 7 9 2 6 9 u 3 9 1n 1 b l 1t b 0 2 9 0 0 b 56 2e b p0 0 b 1l 0 b 1l ",
    "0 b 1l 0 b 1l 0 b a 1d 4 e8 1i 9 4 1d 9 8 0 9 e 0 9 m 4 9 1 e 9 11s 6 9 1 g 9 2 6 9 1 1 ",
    "9 1 4 9 79 6 9 af 0 9 1p 3 9 f 0 6 zk 5g 2 2 8 2 0 6 9 15 1v 2 0 6 9 0 0 2 4 9 2 4 1 2 ",
    "lt 1v 3 24 1o 3 5e 3 3 1 q 3 1 1 3 1 0 3 2 0 3 1 9 3 1 3 3 1 0 3 1 0 3 6 0 3 4 0 3 1 0 3 ",
    "1 0 3 1 2 3 1 1 3 1 0 3 2 0 3 1 0 3 1 0 3 1 0 3 1 0 3 1 1 3 1 0 3 2 3 3 1 6 3 1 3 3 1 3 ",
    "3 1 0 3 1 9 3 1 g 3 5 2 3 1 4 3 1 g 3 1g 1 b 7i 17 b 4 2r b c e b 2 e b 1 e b 1 10 b a a ",
    "4 0 4 b v 0 b 1m 5 b 1p 0 b 4y 5 b 4a rb b 5 f b 3 c b 3 37 b c 2g b 7 b b 4 0 b f b b 4 ",
    "1j b 8 9 b 6 13 b 8 t b 2 1 b 26 9f b c d b 2 4 b 3 4 b 3 6 b 9 s b 3 a b 5 5 b a 9 b 6 ",
    "7 b 8 6 b 9 42 b 1 1i b 11 9 4 gvlz 0 a u 2n a 3k 6n 9"]

/-- Characters mapped to a single one. -/
def mapped : Array (Nat × Nat) :=
  (Unicode.pairsOfText (String.join mappedText)).toArray

/-- Characters mapped to several. -/
def expanded : Array (Nat × List Nat) :=
  (Unicode.sequencesOfText (String.join expandedText)).toArray

/-- Characters mapped to nothing. -/
def ignored : Ranges := Ranges.ofText (String.join ignoredText)

/-- Characters that may not stand in a host name. -/
def disallowed : Ranges := Ranges.ofText (String.join disallowedText)

/-- How a character joins its neighbours. -/
inductive Joining where
  | dual
  | left
  | right
  | transparent
  | causing
  | none
  deriving DecidableEq, Repr

/-- Ranges with the numbers of their joining classes. -/
def joiningClasses : Array (Nat × Nat × Nat) :=
  (Unicode.classesOfText (String.join joiningText)).toArray

/-- How a character joins its neighbours. -/
def joining (code : Nat) : Joining :=
  match Unicode.classOf joiningClasses code with
  | 1 => .dual
  | 2 => .left
  | 3 => .right
  | 4 => .transparent
  | 5 => .causing
  | _ => .none

/-- The direction in which a character is written. -/
inductive Direction where
  | leftToRight
  | rightToLeft
  | arabicLetter
  | european
  | europeanSeparator
  | europeanTerminator
  | arabicNumber
  | commonSeparator
  | mark
  | boundary
  | neutral
  | other
  deriving DecidableEq, Repr

/-- Ranges with the numbers of their directions. -/
def directionClasses : Array (Nat × Nat × Nat) :=
  (Unicode.classesOfText (String.join directionText)).toArray

/-- The direction of a character. -/
def direction (code : Nat) : Direction :=
  match Unicode.classOf directionClasses code with
  | 0 => .leftToRight
  | 2 => .rightToLeft
  | 3 => .arabicLetter
  | 4 => .european
  | 5 => .europeanSeparator
  | 6 => .europeanTerminator
  | 7 => .arabicNumber
  | 8 => .commonSeparator
  | 9 => .mark
  | 10 => .boundary
  | 11 => .neutral
  | _ => .other

end Gatehouse.Url.Idna
