import Gatehouse.Unicode.Table

/-!
# Normalization

The composed form of a text: every character is taken apart as far as it goes, marks are brought
into the order of their classes, and what can be composed again is composed.  Syllables of Hangul
are composed by rule.

Main definition: `composed`.
-/

namespace Gatehouse.Unicode

/-- The characters that stand for a single other one, as text. -/
def singletonText : List String := [
    "n4 8 3j 1 4 2n 1c 4 ad 9 4 1ad 8 4 13z 5ih 4 ayx 1 4 ayz 1 4 az1 1 4 az3 1 4 axl 1 4 axn ",
    "1 4 axp 1p 4 b55 2 4 b2h a 4 b5t 1 4 b5v 7 4 b5x 7 4 b6p 7 4 b51 7 4 b7d 2 4 b81 0 4 cgt ",
    "9 4 b89 1 4 b87 1 4 ccx 2 8 4 84 4 bnd 3 4 czh 0 4 csr e5 8 532 168l 4 16y7 0 4 1lp5 0 4 ",
    "15yn 0 4 16r9 0 4 1ilh 0 4 1vhh 0 4 1t8h 0 9 zbp 0 4 1r3j 0 4 14s1 0 4 1slj 0 4 1r47 0 4 ",
    "1not 0 4 1fm1 0 4 1c0j 0 4 19cx 0 4 18rx 0 4 18ab 0 4 15af 0 4 1kir 0 4 1jar 0 4 1htl 0 ",
    "4 1gmp 0 4 1a5x 0 4 14yl 0 4 11ld 0 4 1ve9 0 4 1tfx 0 4 1k4x 0 4 1hc5 0 4 19er 0 4 zyb 0 ",
    "4 1pk1 0 4 1i7h 0 4 19kb 0 4 185b 0 4 1nef 0 4 1b4r 0 4 18nj 0 4 1ozf 0 4 1lpf 0 4 1j7j ",
    "0 4 1h0d 0 4 158b 0 4 1v0t 0 4 1u5p 0 4 1tpd 0 4 1mmv 0 4 1k8r 0 4 1hdv 0 4 1fh3 0 4 ",
    "1bvp 0 4 19i5 0 4 19df 0 4 16dr 0 4 12q3 0 4 111v 0 4 101r 0 4 1eu5 0 4 1egp 0 4 1cu1 0 ",
    "4 1aeh 0 4 14dx 0 4 zup 0 4 17md 0 4 1rd1 0 4 1oxp 0 4 1dc7 0 4 1bpp 0 4 1haf 0 4 1erd 0 ",
    "4 16vf 0 4 12ub 0 4 1rdv 0 4 1pzl 0 4 1kkx 0 4 1j39 0 4 1im5 0 4 1d1b 0 4 1cmp 0 4 134b ",
    "0 4 1trz 0 4 1bpr 0 4 1u5r 0 4 1u6p 0 4 1e9f 0 4 1ctt 0 4 1adp 0 4 132f 0 4 17eb 0 4 ",
    "1nh3 0 4 1kmr 0 4 17lp 0 4 1vm1 0 4 1q7j 0 4 1okb 0 4 1gvn 0 4 1g4j 0 4 1tp3 0 4 1eq9 0 ",
    "4 1v0r 0 4 1oqh 0 4 1voz 0 4 1jjr 0 4 1mg1 0 4 1d3j 0 4 1tfz 0 4 1rmj 0 4 1fiv 0 4 1aa1 ",
    "0 4 17rd 0 4 1jzf 0 4 15s1 0 4 1jo3 0 4 1nft 0 4 1au5 0 4 1n6x 0 4 1g69 0 4 1vgx 0 4 ",
    "1ue5 0 4 1u8v 0 4 1l9t 0 4 1d7r 0 4 1b15 0 4 17px 0 4 14yl 0 4 1tsj 0 4 1ta3 0 4 1r8b 0 ",
    "4 1p2j 0 4 1md7 0 4 1ibv 0 4 1eph 0 4 13g1 0 4 11kp 0 4 zxd 0 4 zud 0 4 1ty5 0 4 1lzd 0 ",
    "4 1k4p 0 4 15xx 0 4 1p9v 0 4 1o1p 0 4 1nvj 0 4 1mul 0 4 1iot 0 4 1hub 0 4 1gk5 0 4 1ehh ",
    "0 4 1cub 0 4 1bv3 0 4 161v 0 4 1a39 0 4 15nx 0 4 14f5 0 4 1u6h 0 4 1tyr 0 4 1t4x 0 4 ",
    "1i25 0 4 18l7 0 4 17u5 0 4 1p69 0 4 1opn 0 4 1nbl 0 4 1k31 0 4 1djj 0 4 1h0j 0 4 1vgn 0 ",
    "4 1s9r 0 4 1qbp 0 4 1plt 0 4 1onz 0 4 1gxh 0 4 1gnd 0 4 1c89 0 4 1byr 0 4 14vt 0 4 1307 ",
    "0 4 12vp 0 4 12k7 0 4 1v83 0 4 1ekv 0 4 1539 0 4 133z 0 4 1odr 0 4 1vmv 0 4 1upt 0 4 ",
    "1qcb 0 4 1q7v 0 4 1mix 0 4 1ks9 0 4 1hpf 0 4 1fy5 0 4 1a4r 0 4 15l9 0 4 zn1 0 4 1m61 0 4 ",
    "13cf 0 4 1u2j 0 4 1lsp 0 4 1lm3 0 4 1jip 0 4 1izh 0 4 1gud 0 4 1gbr 0 4 1f45 0 4 1da5 0 ",
    "4 12hv 0 4 1uiv 0 4 1nwn 0 4 1391 0 4 1v0x 0 4 1px3 0 4 1j9z 0 4 1655 0 4 1oyh 0 4 1oa1 ",
    "0 4 1ll1 0 4 1h2f 0 4 138r 0 4 1u93 0 4 1ti5 0 4 1q7n 0 4 1me1 0 4 1lwl 0 4 1ldf 0 4 ",
    "1jp7 0 4 1gvv 0 4 1g5h 0 4 1cd5 0 4 18of 0 4 18nh 0 4 154p 0 4 134f 0 4 1tuf 0 4 1izn 0 ",
    "4 1ti7 0 4 1hrv 0 4 1god 0 4 19t7 0 4 138b 0 4 10z9 0 4 102v 0 4 1ltl 0 4 1jdf 0 4 1bff ",
    "0 4 1e8n 0 4 1e3z 0 4 1djh 0 4 1hf7 0 4 1i9v 0 4 17pj 0 4 1vnd 0 4 1axb 0 4 1ua1 0 4 ",
    "1ucx 0 4 1pdh 0 4 1nq5 0 4 1dg9 0 4 1qm5 0 4 1jnx 0 4 1m77 0 4 166v 0 4 18xj 0 4 13ef 0 ",
    "4 18fx 0 4 1pbj 0 4 1uon 0 4 1swp 2 4 1rvv 1 4 1mbf 2 4 1ugd 0 4 1hav 0 4 1fvd 0 4 1ewn ",
    "0 4 1eut 0 4 1euh 0 4 1es7 0 4 130r 0 4 1dj1 0 4 1cch 1 4 19uj 1 4 17wz 2 4 15uh 0 4 ",
    "15jl 3 4 12et 0 4 12e5 0 4 12br 0 4 10j5 0 4 15lr 0 4 13an 0 4 1vcz 0 4 1uvn 0 4 1uq1 0 ",
    "4 1u4z 0 4 1u3j 0 4 1txj 0 4 1t0x 0 4 1sv5 0 4 1spr 0 4 1rzl 0 4 1rtv 0 4 1qct 0 4 1qcb ",
    "0 4 1opd 0 4 1odn 0 4 1obl 0 4 1o63 0 4 1mub 0 4 1mm7 0 4 1mcj 0 4 1lkt 0 4 1jmj 0 4 ",
    "1jdj 0 4 1iyx 0 4 1i2b 0 4 1hrv 0 4 1gzz 0 4 1f8z 0 4 1ezf 0 4 1eyv 0 4 1eyz 0 4 1eyl 0 ",
    "4 1eyb 0 4 1exz 0 8 1evd 0 4 1elj 0 4 1ehz 0 4 1e0b 0 4 1d51 0 4 1d3x 0 4 1d0v 0 4 1cjz ",
    "0 4 1cbv 0 4 1bkt 0 9 1bd3 0 4 1amn 0 4 18rj 0 4 18k5 0 4 1801 0 4 17wz 0 4 17a9 0 4 ",
    "177d 0 4 165b 0 4 15y5 0 4 13bd 0 4 12vn 0 4 12sd 0 4 1otn 0 4 3ls4 0 4 1bjd 2 4 1w2b 0 ",
    "4 1unr 0 4 1us3 0 4 1vj9 0 4 1uu5 0 4 1uqx 0 4 1u8t 0 4 1u61 0 4 1t4l 0 4 1t8n 0 4 1t4x ",
    "0 4 1t0x 0 4 1s1v 0 4 1rwz 0 4 1roz 0 4 1ro5 0 4 1r97 0 4 1qy9 0 4 1pi7 0 4 1phv 0 4 ",
    "1p9x 0 4 1p67 0 4 1opn 0 4 1oj5 0 4 1on3 0 4 1ofp 0 4 1oib 0 4 1oa9 0 4 1o6n 0 4 1nkh 0 ",
    "4 1nfn 0 4 1ncp 0 4 1myb 0 4 1mih 0 4 1m9h 0 4 1m9b 0 4 1m63 0 4 1kjb 0 4 1kfr 0 4 1ju3 ",
    "0 4 1j7d 0 4 1j8b 0 4 1j3j 0 4 1ipl 0 4 1i6z 0 4 1fqj 0 4 1hw1 0 4 1hpb 0 4 1hij 0 4 ",
    "1h0f 0 4 1gs7 0 4 1gpb 0 4 1gct 0 4 1gcr 0 4 1g3b 0 4 1g2f 0 4 1g13 0 4 1fwd 0 4 1fwz 0 ",
    "4 1fb1 0 4 1ek5 0 4 1e55 0 4 1dut 0 4 1dif 0 4 1d9z 0 4 1crp 0 4 1cgp 0 4 1b5t 0 4 1ax5 ",
    "0 4 19iv 0 4 18tl 0 4 18pt 0 4 18oz 0 4 188j 0 4 185f 0 4 187z 0 4 1851 0 4 1859 0 4 ",
    "1869 0 4 1823 0 4 17xn 0 4 17ch 0 4 16hf 0 4 1601 0 4 15jp 0 4 157h 0 4 13mb 0 4 13gn 0 ",
    "4 13ab 0 4 132z 0 4 1311 0 4 130f 0 4 12xt 0 4 11th 0 4 100z 0 4 3b3q 0 4 3b3c 0 4 3fns ",
    "0 4 23jd 0 4 21rp 0 4 21px 0 4 3roo 0 4 3vuc 0 4 49a0 0 4 106h 0 4 102d 2skm 4 7hc5 0 4 ",
    "7hch 0 4 7hc1 0 4 2pj5 0 4 7gw7 0 4 7grx 0 4 7gr9 0 4 7gnd 0 4 7ggr 0 4 7gf3 0 4 7gat 0 ",
    "4 7gc7 0 4 7rh7 0 4 2nj9 0 4 7g5d 0 4 7g51 0 4 7g47 0 4 7g37 0 4 2nzf 0 4 7rg3 0 4 7g49 ",
    "0 4 7g27 0 4 2nx1 0 4 7g1r 0 4 7g13 0 4 7h5l 0 4 7g0r 0 4 7g0b 0 4 14e1 0 4 7fwv 0 4 ",
    "7fw5 0 4 7ren 0 4 7ft5 0 4 7fsl 0 4 7fq7 0 4 7fpz 0 4 7rbx 0 4 7fln 0 4 7fll 0 4 7fk5 0 ",
    "4 7fiz 0 8 7fif 0 4 7fhj 0 4 7fet 0 4 7fef 0 4 7fdz 0 4 7fcn 0 4 7fc5 0 d 7fc3 0 4 2m1b ",
    "0 4 73wp 0 4 7f87 0 4 7f73 0 4 2lk9 0 4 7f6j 0 4 7f69 0 4 7f55 0 4 7ewr 0 4 7f2h 0 4 ",
    "7f1n 0 4 7ezx 0 4 7ewr 0 4 7es5 0 4 7eqr 0 4 7en3 0 4 7em9 0 9 7ekh 0 4 7ejf 0 4 7eih 0 ",
    "4 7ei3 0 4 7ehb 0 4 7dyh 0 4 7edn 0 4 7dyj 0 4 7e9l 0 4 7e7p 0 4 7fyp 0 4 7d8l 0 4 7don ",
    "0 4 7dml 0 4 7dl9 0 4 7dsj 0 4 7djb 0 4 7djf 0 4 7dcn 0 4 2hux 0 4 7d8v 0 4 7d8n 0 4 ",
    "7d7v 0 4 7d6t 0 4 7d6f 0 4 7d2x 0 4 2h67 0 4 2h2l 0 4 7cvf 0 4 7csv 0 4 7cs9 0 4 7cwp 0 ",
    "4 7cov 0 4 7qpd 0 4 7qon 0 4 7cg1 0 9 7cd3 0 4 2fyf 0 4 7c5v 0 4 7c4r 0 4 7c3z 0 4 7c3d ",
    "0 4 2fg1 0 4 7c2t 0 4 7c2h 0 4 7arl 0 4 7c11 0 4 7qi1 0 4 7bxp 0 4 7bwz 0 4 7bsh 0 4 ",
    "7bvd 0 4 2ect 0 4 7bld 0 4 2ect 0 4 7bj3 0 4 7bjb 0 4 7bif 0 8 7bcv 0 4 7q93 0 4 7bbh 0 ",
    "4 7b95 0 4 7b81 0 4 7b5n 0 4 7q6j 0 4 2cy3 0 4 7q57 0 4 7b1x 0 4 7b1t 0 4 7b1p 0 4 7b0n ",
    "0 4 xkp 0 4 7axv 0 9 2can 0 4 6x43 0 9 7aw3 0 4 7q1p 0 4 2665 0 4 1njv 0 4 7ast 0 4 7asd ",
    "0 4 7q0f 0 4 7apv 0 4 7an3 0 4 7aml 0 4 7akr 0 4 7ad9 0 4 7pvx 0 4 7pxn 0 4 7acd 0 4 ",
    "2avz 0 4 7a9n 0 4 7a2j 0 4 7a2d 0 4 7a2b 0 4 7a2h 0 4 79zz 0 4 79yx 0 4 79wz 0 4 79xt 0 ",
    "4 79x9 0 4 79up 0 4 79tn 0 4 79th 0 4 79s3 0 4 79rj 0 4 79nx 0 4 79jb 0 4 79hf 0 4 79al ",
    "0 4 2993 0 4 79br 0 4 79ff 0 4 799h 0 4 7981 0 4 792p 0 4 28wp 0 4 78zd 0 4 794l 0 4 ",
    "7967 0 4 7pk7 0 4 78vn 0 4 78uj 0 4 78sv 0 4 78v1 0 4 7ph1 0 4 78j5 0 4 78hl 0 4 27b3 0 ",
    "4 78b3 0 4 77vr 0 4 785j 0 4 7p7t 0 4 781n 0 4 7p8v 0 4 7pax 0 4 7gcf 0 4 7gcb 0 4 77vr ",
    "0 4 781d 0 4 6xqp 0 4 7lrv 0 4 77up 0 4 77uj 0 4 77u9 0 4 77qx 0 4 77rl 0 4 25v7 0 4 ",
    "7p61 0 4 77ih 0 4 77p1 0 4 77dp 0 4 77ax 0 4 25m3 0 4 77aj 0 4 77gr 0 4 7737 0 4 7p1v 0 ",
    "4 770r 0 4 76vf 0 4 76rj 0 4 76h1 0 4 24r5 0 4 76eb 0 4 7ovf 0 4 76aj 0 4 23yp 0 4 767t ",
    "0 4 7osn 0 4 7669 0 4 763t 0 8 762d 0 4 2383 0 4 2evt 0 4 2325 0 4 75uf 0 4 22d9 0 4 ",
    "75o9 0 4 75nj 0 4 75t9 0 4 75jl 0 4 75hf 0 4 75eb 0 4 75hd 0 4 75f7 0 4 75ef 0 4 75dr 0 ",
    "4 228f 0 4 75id 0 4 754h 0 4 7511 0 4 7oh9 0 4 74vz 0 4 74w9 0 4 21kn 0 4 757t 0 4 74n5 ",
    "0 4 21cz 0 4 21ad 0 4 74if 0 4 74c3 0 4 74dn 0 4 74dv 0 4 7ocf 0 4 74bd 0 4 748l 0 4 ",
    "748z 0 4 7461 0 4 2odn 0 4 73xp 0 4 206r 0 4 73sz 0 4 1zon 0 4 73lb 0 4 73kn 0 4 73j7 0 ",
    "4 1yr9 0 4 73gn 0 4 73fj 0 4 1yap 0 4 1xyd 0 4 732z 0 4 7323 0 4 7ny3 0 4 730r 0 9 7nxj ",
    "0 4 72rx 0 4 72qt 0 4 72pp 0 4 72on 0 4 72kv 0 4 7nsf 0 4 72fz 0 4 1wcd 0 4 72en 0 4 ",
    "1w7d 0 4 72bz 0 4 2d6b 0 4 7237 0 4 1v03 0 4 1uyv 0 4 1ur5 0 4 7ngj 0 4 7nfx 0 4 71qv 0 ",
    "4 1uhn 0 4 1uhr 0 4 1ufn 0 4 1ue9 0 8 71ot 0 4 71ov 0 4 71mj 0 4 7ndr 0 4 71j1 0 4 7nd5 ",
    "0 4 7n8r 0 4 1t9b 0 4 718f 0 4 7151 0 4 711j 0 4 7n4r 0 4 1sgn 0 4 70u1 0 4 1sab 0 4 ",
    "1s7z 0 4 70r1 0 4 70lz 0 4 7n0x 0 4 70hd 0 4 70gv 0 4 70gn 0 4 1r5r 0 9 1qp7 0 4 7081 0 ",
    "4 7mpn 0 4 1qaz 0 4 6zw7 0 4 6zw3 0 4 7mnt 0 4 1pzd 0 4 6zhj 0 4 7mh9 0 4 6zgf 0 4 6zgr ",
    "0 4 6zf7 0 4 1osp 0 4 6z9t 0 4 7mc7 0 4 6z4d 0 4 6z15 0 4 6yxh 0 4 7m9l 0 4 1nrn 0 4 ",
    "1npz 0 4 7m7p 0 4 1nhz 0 4 6ygn 0 4 1nch 0 4 6yf9 0 4 6y9p 0 4 6y95 0 4 1mpt 0 4 1mlt 0 ",
    "4 6y49 0 4 1mej 0 4 6y3h 0 4 269t 0 4 7m1j 0 4 6xzz 0 4 6xvj 0 4 7lyp 0 4 6xsd 0 4 7d0h ",
    "0 4 1lmn 0 4 1llx 0 4 267f 0 4 266z 0 4 6xhv 0 4 6xhr 0 4 6s4d 0 4 7ltx 0 4 6xa3 0 4 ",
    "6xah 0 4 6x9j 0 4 7g71 0 4 6x8j 0 4 6x8h 0 4 6x7z 0 4 6x5r 0 4 1k8l 0 4 6x5x 0 4 6x2v 0 ",
    "4 6wz1 0 4 6wuz 0 4 6x2p 0 4 6wu7 0 4 6wrx 0 4 6wlr 0 4 6x09 0 4 6wtp 0 4 6wtn 0 4 6wst ",
    "0 4 1jvf 0 4 1jeb 0 4 1jmp 0 4 7lkn 0 4 6wdp 0 4 6wdn 0 4 6wbr 0 4 1gw1 0 4 6w7j 0 4 ",
    "1ipt 0 4 7li9 0 4 7li3 0 4 1iil 0 4 1i2l 0 4 7lhp 0 4 6vut 0 4 6vu7 0 4 6vtn 0 4 6vtl 0 ",
    "4 6vq3 0 4 6vrz 0 4 6vkl 0 4 6vn3 0 4 6ver 0 4 6vjb 0 4 6vfn 0 4 6ve7 0 4 7lcf 0 4 6v99 ",
    "0 4 6v7j 0 4 7lap 0 4 6v2d 0 4 6v29 0 4 1fwb 0 4 6uvx 0 4 6uvl 0 4 7l7p 0 4 6uu5 0 4 ",
    "7s4d 0 4 1f09 0 4 1eq3 0 4 7l0d 0 4 7kzx 0 4 6u71 0 4 6u2t 0 4 6tu5 0 4 6tix 0 4 1dg5 0 ",
    "4 6te9 0 4 6td3 0 4 6t85 0 4 6t33 0 4 1cgh 0 4 2njd 0 4 6syl 0 4 6szh 0 4 6swn 0 4 2n7h ",
    "0 4 6sk3 0 4 6sel 0 4 19uj 0 4 19t3 0 4 6rvf 0 4 6rqb 0 4 6rol 0 4 19bh 0 4 6ro5 0 4 ",
    "6r8d 0 8 6qzl 0 4 6r4r 0 4 6qjn 0 4 6qi5 0 4 17fp 0 4 6pxh 0 4 7jxv 0 4 6pv5 0 4 16ur 0 ",
    "4 7jtj 0 4 6pgf 0 4 7c03 0 4 6pb7 0 4 15cx 0 4 1515 0 4 7jmb 0 4 7jlx 0 4 6p0z 0 4 149t ",
    "0 4 7jir 0 4 1425 0 9 6oyt 0 4 6ox9 0 4 13md 0 4 6on3 0 4 7jbz 0 4 6oj9 0 4 6ocb 0 4 ",
    "6oav 0 4 6o7l 0 4 7j3n 0 4 11gx 0 4 6nsf 0 4 6nbp 0 4 6n19 0 4 7ipp 0 4 7io1 0 4 6mvj 0 ",
    "4 z9f 0 4 7inl 0 4 z6h 0 4 yrt 0 4 ykl 0 4 6mcz 0 4 7iin 0 4 6m9n 0 4 6m9f 0 4 6m93 0 4 ",
    "6m8l 0 4 6m89 0 4 6m69 0 4 x89"]

/-- The characters that are composed of two, as text. -/
def compositionText : List String := [
    "5c 1t lc 0 1t ld 0 1t le 0 1t lf 0 1t lk 0 1t lm 1 1v mf 0 1x lc 0 1x ld 0 1x le 0 1x lk ",
    "0 21 lc 0 21 ld 0 21 le 0 21 lk 1 26 lf 0 27 lc 0 27 ld 0 27 le 0 27 lf 0 27 lk 2 2d lc ",
    "0 2d ld 0 2d le 0 2d lk 0 2h ld 2 2p lc 0 2p ld 0 2p le 0 2p lf 0 2p lk 0 2p lm 1 2r mf ",
    "0 2t lc 0 2t ld 0 2t le 0 2t lk 0 2x lc 0 2x ld 0 2x le 0 2x lk 1 32 lf 0 33 lc 0 33 ld ",
    "0 33 le 0 33 lf 0 33 lk 2 39 lc 0 39 ld 0 39 le 0 39 lk 0 3d ld 1 3d lk 0 1t lg 0 2p lg ",
    "0 1t li 0 2p li 0 1t mg 0 2p mg 0 1v ld 0 2r ld 0 1v le 0 2r le 0 1v lj 0 2r lj 0 1v lo ",
    "0 2r lo 0 1w lo 0 2s lo 2 1x lg 0 2t lg 0 1x li 0 2t li 0 1x lj 0 2t lj 0 1x mg 0 2t mg ",
    "0 1x lo 0 2t lo 0 1z le 0 2v le 0 1z li 0 2v li 0 1z lj 0 2v lj 0 1z mf 0 2v mf 0 20 le ",
    "0 2w le 2 21 lf 0 2x lf 0 21 lg 0 2x lg 0 21 li 0 2x li 0 21 mg 0 2x mg 0 21 lj 3 22 le ",
    "0 2y le 0 23 mf 0 2z mf 1 24 ld 0 30 ld 0 24 mf 0 30 mf 0 24 lo 0 30 lo 4 26 ld 0 32 ld ",
    "0 26 mf 0 32 mf 0 26 lo 0 32 lo 3 27 lg 0 33 lg 0 27 li 0 33 li 0 27 ln 0 33 ln 2 2a ld ",
    "0 36 ld 0 2a mf 0 36 mf 0 2a lo 0 36 lo 0 2b ld 0 37 ld 0 2b le 0 37 le 0 2b mf 0 37 mf ",
    "0 2b lo 0 37 lo 0 2c mf 0 38 mf 0 2c lo 0 38 lo 2 2d lf 0 39 lf 0 2d lg 0 39 lg 0 2d li ",
    "0 39 li 0 2d lm 0 39 lm 0 2d ln 0 39 ln 0 2d mg 0 39 mg 0 2f le 0 3b le 0 2h le 0 3d le ",
    "0 2h lk 0 2i ld 0 3e ld 0 2i lj 0 3e lj 0 2i lo 0 3e lo x 27 m3 0 33 m3 d 2d m3 0 39 m3 ",
    "s 1t lo 0 2p lo 0 21 lo 0 2x lo 0 27 lo 0 33 lo 0 2d lo 0 39 lo 0 64 lg 0 70 lg 0 64 ld ",
    "0 70 ld 0 64 lo 0 70 lo 0 64 lc 0 70 lc 1 5g lg 0 6c lg 0 fa lg 0 fb lg 0 5i lg 0 6e lg ",
    "2 1z lo 0 2v lo 0 23 lo 0 2z lo 0 27 mg 0 33 mg 0 dm lg 0 dn lg 0 c7 lo 0 ia lo 0 2y lo ",
    "3 1z ld 0 2v ld 2 26 lc 0 32 lc 0 5h ld 0 6d ld 0 5i ld 0 6e ld 0 60 ld 0 6w ld 0 1t lr ",
    "0 2p lr 0 1t lt 0 2p lt 0 1x lr 0 2t lr 0 1x lt 0 2t lt 0 21 lr 0 2x lr 0 21 lt 0 2x lt ",
    "0 27 lr 0 33 lr 0 27 lt 0 33 lt 0 2a lr 0 36 lr 0 2a lt 0 36 lt 0 2d lr 0 39 lr 0 2d lt ",
    "0 39 lt 0 2b me 0 37 me 0 2c me 0 38 me 2 20 lo 0 2w lo 6 1t lj 0 2p lj 0 1x mf 0 2t mf ",
    "0 5y lg 0 6u lg 0 5x lg 0 6t lg 0 27 lj 0 33 lj 0 fi lg 0 fj lg 0 2h lg 0 3d lg 9d 4o ld ",
    "0 pd ld 1 ph ld 0 pj ld 0 pl ld 1 pr ld 1 px ld 0 q1 ld 0 qy ld p pl lk 0 px lk 0 q9 ld ",
    "0 qd ld 0 qf ld 0 qh ld 0 qz ld p qh lk 0 qt lk 0 qn ld 0 qt ld 0 qx ld 4 r6 ld 0 r6 lk ",
    "17 t1 lc 0 t1 lk 1 sz ld 3 sm lk 4 t6 ld 0 t4 lc 0 tf li a t4 li v u0 li m tx lc 0 tx lk ",
    "1 tv ld 3 uu lk 4 u2 ld 0 u0 lc 0 ub li n vo lr 0 vp lr 21 t2 li 0 ty li d sw li 0 ts li ",
    "0 sw lk 0 ts lk 2 t1 li 0 tx li 2 yg lk 0 yh lk 0 t2 lk 0 ty lk 0 t3 lk 0 tz lk 2 t4 lg ",
    "0 u0 lg 0 t4 lk 0 u0 lk 0 ta lk 0 u6 lk 2 yw lk 0 yx lk 0 tp lk 0 ul lk 0 tf lg 0 ub lg ",
    "0 tf lk 0 ub lk 0 tf ln 0 ub ln 0 tj lk 0 uf lk 2 tn lk 0 uj lk 88 17r 18z 0 17r 190 0 ",
    "18o 190 0 17r 191 0 18q 190 49 1cl 190 1 1c1 190 g 1ci 190 gl 1t4 1to 7 1tc 1to 2 1tf ",
    "1to 46 1xj 1xa 0 1xj 1xz aj 287 28m 2 287 27y 0 287 28n 1z 2aa 2c7 1h 2bq 2bi 0 2br 2bi ",
    "0 2bq 2c7 3f 2fa 2fq 3b 2in 2j9 6 2iu 2j9 0 2iu 2ja 1 2iu 2iq 0 2iy 2j9 3i 2me 2m6 0 2mf ",
    "2m6 0 2me 2mv 3x 2qh 2q2 1 2qh 2q7 0 2qk 2q2 0 2qh 2qn g7 36t 372 25b 5c5 5dh 1 5c7 5dh ",
    "1 5c9 5dh 1 5cb 5dh 1 5cd 5dh 3 5ch 5dh 14 5dm 5dh 1 5do 5dh 2 5dq 5dh 0 5dr 5dh 1 5du ",
    "5dh jg 1t md 0 2p md 0 1u lj 0 2q lj 0 1u mb 0 2q mb 0 1u mp 0 2q mp 0 5j ld 0 6f ld 0 ",
    "1w lj 0 2s lj 0 1w mb 0 2s mb 0 1w mp 0 2s mp 0 1w mf 0 2s mf 0 1w ml 0 2s ml 0 7m lc 0 ",
    "7n lc 0 7m ld 0 7n ld 0 1x ml 0 2t ml 0 1x mo 0 2t mo 0 fc li 0 fd li 0 1y lj 0 2u lj 0 ",
    "1z lg 0 2v lg 0 20 lj 0 2w lj 0 20 mb 0 2w mb 0 20 lk 0 2w lk 0 20 mf 0 2w mf 0 20 mm 0 ",
    "2w mm 0 21 mo 0 2x mo 0 5r ld 0 6n ld 0 23 ld 0 2z ld 0 23 mb 0 2z mb 0 23 mp 0 2z mp 0 ",
    "24 mb 0 30 mb 0 5yu lg 0 5yv lg 0 24 mp 0 30 mp 0 24 ml 0 30 ml 0 25 ld 0 31 ld 0 25 lj ",
    "0 31 lj 0 25 mb 0 31 mb 0 26 lj 0 32 lj 0 26 mb 0 32 mb 0 26 mp 0 32 mp 0 26 ml 0 32 ml ",
    "0 5x ld 0 6t ld 0 5x lk 0 6t lk 0 98 lc 0 99 lc 0 98 ld 0 99 ld 0 28 ld 0 34 ld 0 28 lj ",
    "0 34 lj 0 2a lj 0 36 lj 0 2a mb 0 36 mb 0 5zu lg 0 5zv lg 0 2a mp 0 36 mp 0 2b lj 0 37 ",
    "lj 0 2b mb 0 37 mb 0 9m lj 0 9n lj 0 9s lj 0 9t lj 0 602 lj 0 603 lj 0 2c lj 0 38 lj 0 ",
    "2c mb 0 38 mb 0 2c mp 0 38 mp 0 2c ml 0 38 ml 0 2d mc 0 39 mc 0 2d mo 0 39 mo 0 2d ml 0 ",
    "39 ml 0 a0 ld 0 a1 ld 0 a2 lk 0 a3 lk 0 2e lf 0 3a lf 0 2e mb 0 3a mb 0 2f lc 0 3b lc 0 ",
    "2f ld 0 3b ld 0 2f lk 0 3b lk 0 2f lj 0 3b lj 0 2f mb 0 3b mb 0 2g lj 0 3c lj 0 2g lk 0 ",
    "3c lk 0 2h lj 0 3d lj 0 2i le 0 3e le 0 2i mb 0 3e mb 0 2i mp 0 3e mp 0 2w mp 0 38 lk 0 ",
    "3b lm 0 3d lm 1 an lj 4 1t mb 0 2p mb 0 1t ll 0 2p ll 0 5e ld 0 6a ld 0 5e lc 0 6a lc 0 ",
    "5e ll 0 6a ll 0 5e lf 0 6a lf 0 61s le 0 61t le 0 76 ld 0 77 ld 0 76 lc 0 77 lc 0 76 ll ",
    "0 77 ll 0 76 lf 0 77 lf 0 61s li 0 61t li 0 1x mb 0 2t mb 0 1x ll 0 2t ll 0 1x lf 0 2t ",
    "lf 0 5m ld 0 6i ld 0 5m lc 0 6i lc 0 5m ll 0 6i ll 0 5m lf 0 6i lf 0 62g le 0 62h le 0 ",
    "21 ll 0 2x ll 0 21 mb 0 2x mb 0 27 mb 0 33 mb 0 27 ll 0 33 ll 0 5w ld 0 6s ld 0 5w lc 0 ",
    "6s lc 0 5w ll 0 6s ll 0 5w lf 0 6s lf 0 630 le 0 631 le 0 bk ld 0 bl ld 0 bk lc 0 bl lc ",
    "0 bk ll 0 bl ll 0 bk lf 0 bl lf 0 bk mb 0 bl mb 0 2d mb 0 39 mb 0 2d ll 0 39 ll 0 bz ld ",
    "0 c0 ld 0 bz lc 0 c0 lc 0 bz ll 0 c0 ll 0 bz lf 0 c0 lf 0 bz mb 0 c0 mb 0 2h lc 0 3d lc ",
    "0 2h mb 0 3d mb 0 2h ll 0 3d ll 0 2h lf 0 3d lf 6 q9 lv 0 q9 lw 0 64g lc 0 64h lc 0 64g ",
    "ld 0 64h ld 0 64g n6 0 64h n6 0 pd lv 0 pd lw 0 64o lc 0 64p lc 0 64o ld 0 64p ld 0 64o ",
    "n6 0 64p n6 0 qd lv 0 qd lw 0 64w lc 0 64x lc 0 64w ld 0 64x ld 2 ph lv 0 ph lw 0 654 lc ",
    "0 655 lc 0 654 ld 0 655 ld 2 qf lv 0 qf lw 0 65c lc 0 65d lc 0 65c ld 0 65d ld 0 65c n6 ",
    "0 65d n6 0 pj lv 0 pj lw 0 65k lc 0 65l lc 0 65k ld 0 65l ld 0 65k n6 0 65l n6 0 qh lv 0 ",
    "qh lw 0 65s lc 0 65t lc 0 65s ld 0 65t ld 0 65s n6 0 65t n6 0 pl lv 0 pl lw 0 660 lc 0 ",
    "661 lc 0 660 ld 0 661 ld 0 660 n6 0 661 n6 0 qn lv 0 qn lw 0 668 lc 0 669 lc 0 668 ld 0 ",
    "669 ld 2 pr lv 0 pr lw 0 66g lc 0 66h lc 0 66g ld 0 66h ld 2 qt lv 0 qt lw 0 66o lc 0 ",
    "66p lc 0 66o ld 0 66p ld 0 66o n6 0 66p n6 1 px lw 1 66x lc 1 66x ld 1 66x n6 0 qx lv 0 ",
    "qx lw 0 674 lc 0 675 lc 0 674 ld 0 675 ld 0 674 n6 0 675 n6 0 q1 lv 0 q1 lw 0 67c lc 0 ",
    "67d lc 0 67c ld 0 67d ld 0 67c n6 0 67d n6 0 q9 lc 1 qd lc 1 qf lc 1 qh lc 1 qn lc 1 qt ",
    "lc 1 qx lc 3 64g n9 0 64h n9 0 64i n9 0 64j n9 0 64k n9 0 64l n9 0 64m n9 0 64n n9 0 64o ",
    "n9 0 64p n9 0 64q n9 0 64r n9 0 64s n9 0 64t n9 0 64u n9 0 64v n9 0 65c n9 0 65d n9 0 ",
    "65e n9 0 65f n9 0 65g n9 0 65h n9 0 65i n9 0 65j n9 0 65k n9 0 65l n9 0 65m n9 0 65n n9 ",
    "0 65o n9 0 65p n9 0 65q n9 0 65r n9 0 674 n9 0 675 n9 0 676 n9 0 677 n9 0 678 n9 0 679 ",
    "n9 0 67a n9 0 67b n9 0 67c n9 0 67d n9 0 67e n9 0 67f n9 0 67g n9 0 67h n9 0 67i n9 0 ",
    "67j n9 0 q9 li 0 q9 lg 0 67k n9 0 q9 n9 0 q4 n9 1 q9 n6 0 69i n9 0 pd li 0 pd lg 0 pd lc ",
    "1 pd n9 4 4o n6 0 67o n9 0 qf n9 0 q6 n9 1 qf n6 0 69y n9 0 ph lc 1 pj lc 1 pj n9 0 69r ",
    "lc 0 69r ld 0 69r n6 0 qh li 0 qh lg 0 qy lc 3 qh n6 0 qy n6 0 pl li 0 pl lg 0 pl lc 2 ",
    "6bi lc 0 6bi ld 0 6bi n6 0 qt li 0 qt lg 0 qz lc 1 qp lv 0 qp lw 0 qt n6 0 qz n6 0 px li ",
    "0 px lg 0 px lc 1 pt lw 0 4o lc 4 67w n9 0 qx n9 0 r2 n9 1 qx n6 0 6ba n9 0 pr lc 1 q1 ",
    "lc 1 q1 n9 bh 6mo mw 0 6mq mw i 6ms mw u 6og mw 0 6ok mw 0 6oi mw 1g 6pv mw 4 6q0 mw 2 ",
    "6q3 mw n 6qr mw 1 6qt mw q 6rg mw 2 6rn mw 2 6rp mw 1 6rs mw m 1p mw 1 6sh mw a 6rx mw 0 ",
    "1o mw 0 1q mw 0 6sk mw 0 6sl mw 2 6sy mw 0 6sz mw 2 6t2 mw 0 6t3 mw 6 6t6 mw 0 6t7 mw 2 ",
    "6te mw 0 6tf mw 2 6ti mw 0 6tj mw y 6ua mw 0 6ug mw 0 6uh mw 0 6uj mw 1c 6t8 mw 0 6t9 mw ",
    "0 6tt mw 0 6tu mw 6 6uq mw 0 6ur mw 0 6us mw 0 6ut mw 2n2 9jf 9ll 1 9jh 9ll 1 9jj 9ll 1 ",
    "9jl 9ll 1 9jn 9ll 1 9jp 9ll 1 9jr 9ll 1 9jt 9ll 1 9jv 9ll 1 9jx 9ll 1 9jz 9ll 1 9k1 9ll ",
    "2 9k4 9ll 1 9k6 9ll 1 9k8 9ll 6 9kf 9ll 0 9kf 9lm 1 9ki 9ll 0 9ki 9lm 1 9kl 9ll 0 9kl ",
    "9lm 1 9ko 9ll 0 9ko 9lm 1 9kr 9ll 0 9kr 9lm m 9ja 9ll 9 9lp 9ll d 9m3 9ll 1 9m5 9ll 1 ",
    "9m7 9ll 1 9m9 9ll 1 9mb 9ll 1 9md 9ll 1 9mf 9ll 1 9mh 9ll 1 9mj 9ll 1 9ml 9ll 1 9mn 9ll ",
    "1 9mp 9ll 2 9ms 9ll 1 9mu 9ll 1 9mw 9ll 6 9n3 9ll 0 9n3 9lm 1 9n6 9ll 0 9n6 9lm 1 9n9 ",
    "9ll 0 9n9 9lm 1 9nc 9ll 0 9nc 9lm 1 9nf 9ll 0 9nf 9lm m 9ly 9ll 2 9nz 9ll 0 9o0 9ll 0 ",
    "9o1 9ll 0 9o2 9ll 3 9od 9ll 1863 1huh 1hve 1 1huj 1hve e 1hut 1hve 3m 1hyp 1hyf 0 1hyq ",
    "1hyf ez 1idj 1ida 0 1idj 1idz a6 1int 1inu 0 1int 1ink 1 1int 1inx 6z 1iuw 1iun 0 1iux ",
    "1iun os 1jjp 1jjk"]

/-- The characters that are taken apart into two and are not composed again, as text. -/
def exclusionText : List String := [
    "n8 lk ld 177 1sl 1to 0 1sm 1to 0 1sn 1to 0 1ss 1to 0 1sx 1to 0 1sy 1to 0 1t7 1to 0 1tb ",
    "1to 3g 1wh 1x8 0 1wi 1x8 1 1wv 1x8 2b 20i 20s 2 20o 20s y 1zq 20s 0 1zr 20s 0 1zw 20s 2 ",
    "20b 20s 71 275 27w 0 276 27w rp 30i 33r 9 30s 33r 4 30x 33r 4 312 33r 4 317 33r c 30g ",
    "33p 9 31t 31u 1 31t 31w 0 33m 328 1 33n 328 8 31t 328 h 32q 33r 9 330 33r 4 335 33r 4 ",
    "33a 33r 4 33f 33r c 32o 33p 5cy 8gt mw 154w 15l 14k 1 16a 14n a 161 14x 0 161 14y 0 1dmx ",
    "14x 0 1dmx 14y 0 15c 14n 0 15c 14o 0 15c 14s 0 15d 14s 0 15e 14s 0 15f 14s 0 15g 14s 0 ",
    "15h 14s 0 15i 14s 1 15k 14s 0 15l 14s 0 15m 14s 0 15n 14s 0 15o 14s 1 15q 14s 1 15s 14s ",
    "0 15t 14s 1 15v 14s 0 15w 14s 1 15y 14s 0 15z 14s 0 160 14s 0 161 14s 0 162 14s 0 15h ",
    "14p 0 15d 14v 0 15n 14v 0 15w 14v 16a7 2jx3 2jxh 0 2jx4 2jxh 0 2jxb 2jxq 0 2jxb 2jxr 0 ",
    "2jxb 2jxs 0 2jxb 2jxt 0 2jxb 2jxu 2e 2jzt 2jxh 0 2jzu 2jxh 0 2jzv 2jxq 0 2jzw 2jxq 0 ",
    "2jzv 2jxr 0 2jzw 2jxr"]

/-- The classes of combining marks, as text. -/
def combiningText : List String := [
    "lc k 6e 0 0 6g 0 3 64 0 0 6g 0 0 60 0 4 64 0 1 5m 0 3 64 0 1 5m 0 a 64 0 4 1 0 3 64 0 7 ",
    "6e 0 0 6o 0 0 6e 0 2 64 0 2 6e 0 1 64 1 2 6e 0 3 64 0 0 6e 0 0 6g 0 1 64 0 0 6e 0 0 6h 0 ",
    "1 6i 0 0 6h 0 1 6i 0 0 6h 0 c 6e 7n 4 6e 7d 0 64 0 3 6e 0 0 64 0 2 6e 0 0 66 0 0 64 0 5 ",
    "6e 0 5 64 0 1 6e 0 0 64 0 1 6e 0 0 66 0 0 6c 0 0 6e 0 0 a 0 0 b 0 0 c 0 0 d 0 0 e 0 0 f ",
    "0 0 g 0 0 h 0 0 i 0 1 j 0 0 k 0 0 l 0 0 m 1 0 n 1 0 o 0 0 p 1 0 6e 0 0 64 1 0 i 20 7 6e ",
    "0 0 u 0 0 v 0 0 w 1c 0 r 0 0 s 0 0 t 0 0 u 0 0 v 0 0 w 0 0 x 0 0 y 0 1 6e 0 1 64 0 4 6e ",
    "0 0 64 0 1 6e 0 0 64 g 0 z 2t 6 6e 2 3 6e 0 0 64 0 0 6e 2 1 6e 1 0 64 0 1 6e 0 0 64 z 0 ",
    "10 u 0 6e 0 0 64 0 1 6e 0 0 64 0 1 6e 0 2 64 0 0 6e 0 1 64 0 0 6e 0 0 64 0 2 6e 0 0 64 0 ",
    "0 6e 0 0 64 0 0 6e 0 0 64 0 0 6e 0 0 64 0 1 6e 4g 6 6e 0 0 64 0 0 6e 9 0 64 o 3 6e 1 8 ",
    "6e 1 2 6e 1 4 6e 17 2 64 1o 0 6e 0 2 64 0 3 6e 16 4 6e 0 4 64 0 d 6e 1 0 64 0 1 6e 0 0 ",
    "64 0 1 6e 0 0 64 0 2 6e 0 2 64 0 0 r 0 0 s 0 0 t 0 2 6e 0 0 64 0 1 6e 0 1 64 0 4 6e 1o 0 ",
    "7 g 0 9 3 0 6e 0 0 64 0 1 6e 2v 0 7 g 0 9 1c 0 6e 1p 0 7 g 0 9 32 0 7 g 0 9 32 0 7 g 0 9 ",
    "3j 0 9 32 0 7 g 0 9 7 0 2c 0 0 2j 2t 0 7 g 0 9 31 1 9 g 0 9 3g 0 9 31 1 2v 0 0 9 d 3 2z ",
    "30 1 3a 0 0 9 d 3 3e 24 1 64 r 0 64 1 0 64 1 0 60 1j 0 3l 0 0 3m 1 0 3o 5 3 3m 2 0 3m 1 ",
    "1 6e 0 0 9 1 1 6e 1q 0 64 34 0 7 1 1 9 2a 0 64 jz 2 6e qc 1 9 u 0 9 4d 0 9 a 0 6e 5n 0 ",
    "6c 3z 0 66 0 0 6e 0 0 64 63 0 6e 0 0 64 1z 0 9 k 7 6e 2 0 64 1c 4 6e 0 5 64 0 1 6e 0 0 ",
    "64 1 1 64 0 1 6e 0 1 64 0 4 6e 0 0 64 0 3 6e 2t 0 7 f 0 9 12 0 6e 0 0 64 0 6 6e 1i 1 9 ",
    "1m 0 7 b 1 9 1v 0 7 48 2 6e 1 0 1 0 4 64 0 1 6e 0 3 64 0 0 6e 1 6 1 4 0 64 6 0 6e 3 1 6e ",
    "5i 1 6e 0 0 64 0 6 6e 0 0 64 0 1 6e 0 0 6i 0 0 5y 0 0 64 0 0 5m 0 10 6e 0 0 6g 0 1 6c 0 ",
    "0 64 0 0 62 0 0 6e 0 0 6h 0 0 64 0 0 6e 0 0 64 k0 1 6e 0 1 1 0 3 6e 0 2 1 0 1 6e 4 0 6e ",
    "3 1 1 0 0 6e 0 0 64 0 0 6e 0 1 1 0 3 64 0 0 6e 2da 2 6e 3x 0 9 2o v 6e fe 0 62 0 0 6c 0 ",
    "0 6g 0 0 66 0 1 68 2x 1 8 n9w 0 6e 4 9 6e w 1 6e 28 1 6e 7o 0 9 11 0 9 47 0 9 r h 6e 1l ",
    "2 64 11 0 9 2n 0 7 c 0 9 6n 0 6e 1 1 6e 0 0 64 2 1 6e 5 1 6e 1 0 6e 1g 0 9 6u 0 9 fn4 0 ",
    "q ld 6 6e 0 6 64 0 1 6e r1 0 64 6a 0 64 45 4 6e 1aq 0 64 1 0 6e 14 0 6e 0 0 1 0 0 64 4 0 ",
    "9 4l 0 6e 0 0 64 fx 3 6e ar 1 6e 49 1 64 0 2 6e 0 0 64 0 0 6e 0 3 64 1d 0 6e 0 0 64 0 0 ",
    "6e 0 0 64 5c 0 9 15 0 9 e 0 9 1l 0 9 0 0 7 1x 2 6e 1c 1 9 1q 0 7 24 0 9 9 0 7 2y 0 9 0 0 ",
    "7 4y 0 7 0 0 9 28 1 7 g 0 9 o 6 6e 3 4 6e 5p 0 9 3 0 7 n 0 6e 2r 0 9 0 0 7 6z 0 9 0 0 7 ",
    "3i 0 9 3a 0 9 0 0 7 37 0 9 7h 0 9 0 0 7 76 1 9 4 0 7 4c 0 9 2b 0 9 i 0 9 29 0 9 bp 0 9 ",
    "76 0 7 1 1 9 29 0 9 fa0 4 1 1n 6 6e xl 1 6 f58 0 1 43q 1 60 0 2 1 3 0 6a 0 4 60 8 7 64 2 ",
    "4 6e 0 1 64 u 3 6e 44 2 6e 2pn 6 6e 1 g 6e 2 6 6e 1 1 6e 1 4 6e 79 6 6e af 0 6e 1p 3 6e ",
    "15s 6 64 31 5 6e 0 0 7"]

/-- Characters that stand for a single other one. -/
def singletons : Array (Nat × Nat) :=
  (pairsOfText (String.join singletonText)).toArray

/-- Characters composed of two. -/
def compositions : List (Nat × Nat × Nat) :=
  triplesOfText (String.join compositionText)

/-- What each character that can be taken apart is taken apart into. -/
def decompositions : Array (Nat × Nat × Nat) :=
  ((compositions ++ triplesOfText (String.join exclusionText)).mergeSort
    fun a b => a.1 ≤ b.1).toArray

/-- Ranges of combining marks with their classes. -/
def combiningClasses : Array (Nat × Nat × Nat) :=
  (classesOfText (String.join combiningText)).toArray

/-- The combining class of a character; zero for those that are no marks. -/
def combiningClass (code : Nat) : Nat :=
  classOf combiningClasses code

/-- Take a character apart as far as it goes; `fuel` bounds the depth. -/
def takenApart : Nat → Nat → List Nat
  | 0, code => [code]
  | fuel + 1, code =>
    if 0xAC00 ≤ code ∧ code ≤ 0xD7A3 then
      let s := code - 0xAC00
      let lead := 0x1100 + s / 588
      let vowel := 0x1161 + s % 588 / 28
      if s % 28 = 0 then [lead, vowel] else [lead, vowel, 0x11A7 + s % 28]
    else
      match lookupCode singletons code with
      | some other => takenApart fuel other
      | none =>
        match lookupCode decompositions code with
        | some (a, b) => takenApart fuel a ++ takenApart fuel b
        | none => [code]

/-- Put a mark in its place among the marks at the end of a reversed text. -/
def insertMark (mark : Nat) : List Nat → List Nat
  | [] => [mark]
  | last :: before =>
    if combiningClass last > combiningClass mark ∧ combiningClass mark ≠ 0 then
      last :: insertMark mark before
    else mark :: last :: before

/-- Bring marks into the order of their classes. -/
def orderedMarks (codes : List Nat) : List Nat :=
  (codes.foldl (fun out code => insertMark code out) []).reverse

/-- The character that two compose to. -/
def composite? (a b : Nat) : Option Nat :=
  if 0x1100 ≤ a ∧ a < 0x1113 ∧ 0x1161 ≤ b ∧ b < 0x1176 then
    some (0xAC00 + ((a - 0x1100) * 21 + (b - 0x1161)) * 28)
  else if 0xAC00 ≤ a ∧ a ≤ 0xD7A3 ∧ (a - 0xAC00) % 28 = 0 ∧ 0x11A7 < b ∧ b < 0x11C3 then
    some (a + (b - 0x11A7))
  else (compositions.find? fun (_, x, y) => x == a && y == b).map (·.1)

/-- Compose marks with the base before them.  `held` are the marks since the base that stay. -/
def composeFrom (base : Option Nat) (held : List Nat) : List Nat → List Nat
  | [] => base.toList ++ held
  | code :: rest =>
    let cls := combiningClass code
    match base with
    | none => if cls = 0 then composeFrom (some code) [] rest else code :: composeFrom none [] rest
    | some b =>
      let blocked :=
        match held.getLast? with
        | some last => decide (combiningClass last ≥ cls)
        | none => false
      match (if blocked then none else composite? b code) with
      | some joined => composeFrom (some joined) held rest
      | none =>
        if cls = 0 then b :: held ++ composeFrom (some code) [] rest
        else composeFrom base (held ++ [code]) rest

/-- The composed form of a text. -/
def composed (codes : List Nat) : List Nat :=
  composeFrom none [] (orderedMarks (codes.flatMap (takenApart 4)))

end Gatehouse.Unicode
