import RecordLens.Text.DataText
/-!
The data of compatibility decomposition and of composition for the characters of identifiers
(Unicode 14), as tables sorted by their first numbers.
-/
namespace RecordLens.Text

/-- Decompositions: a code point, how many code points from there on decompose to single ones in
    sequence, and the decomposition of the first. -/
def decompositions : Array (List Nat) := readTable [
  "5a 1 31,5l 1 ts,5q 1 3f,60 1 21 o0,61 1 21 o1,62 1 21 o2,63 1 21 o3,64 1 21 o8,65 1 21 oa",
  "67 1 23 p7,68 1 25 o0,69 1 25 o1,6a 1 25 o2,6b 1 25 o8,6c 1 29 o0,6d 1 29 o1,6e 1 29 o2",
  "6f 1 29 o8,6h 1 2e o3,6i 1 2f o0,6j 1 2f o1,6k 1 2f o2,6l 1 2f o3,6m 1 2f o8,6p 1 2l o0",
  "6q 1 2l o1,6r 1 2l o2,6s 1 2l o8,6t 1 2p o1,70 1 31 o0,71 1 31 o1,72 1 31 o2,73 1 31 o3",
  "74 1 31 o8,75 1 31 oa,77 1 33 p7,78 1 35 o0,79 1 35 o1,7a 1 35 o2,7b 1 35 o8,7c 1 39 o0",
  "7d 1 39 o1,7e 1 39 o2,7f 1 39 o8,7h 1 3e o3,7i 1 3f o0,7j 1 3f o1,7k 1 3f o2,7l 1 3f o3",
  "7m 1 3f o8,7p 1 3l o0,7q 1 3l o1,7r 1 3l o2,7s 1 3l o8,7t 1 3p o1,7v 1 3p o8,80 1 21 o4",
  "81 1 31 o4,82 1 21 o6,83 1 31 o6,84 1 21 p8,85 1 31 p8,86 1 23 o1,87 1 33 o1,88 1 23 o2",
  "89 1 33 o2,8a 1 23 o7,8b 1 33 o7,8c 1 23 oc,8d 1 33 oc,8e 1 24 oc,8f 1 34 oc,8i 1 25 o4",
  "8j 1 35 o4,8k 1 25 o6,8l 1 35 o6,8m 1 25 o7,8n 1 35 o7,8o 1 25 p8,8p 1 35 p8,8q 1 25 oc",
  "8r 1 35 oc,8s 1 27 o2,8t 1 37 o2,8u 1 27 o6,8v 1 37 o6,90 1 27 o7,91 1 37 o7,92 1 27 p7",
  "93 1 37 p7,94 1 28 o2,95 1 38 o2,98 1 29 o3,99 1 39 o3,9a 1 29 o4,9b 1 39 o4,9c 1 29 o6",
  "9d 1 39 o6,9e 1 29 p8,9f 1 39 p8,9g 1 29 o7,9i 1 29 2a,9j 1 39 3a,9k 1 2a o2,9l 1 3a o2",
  "9m 1 2b p7,9n 1 3b p7,9p 1 2c o1,9q 1 3c o1,9r 1 2c p7,9s 1 3c p7,9t 1 2c oc,9u 1 3c oc",
  "9v 1 2c 5n,a0 1 3c 5n,a3 1 2e o1,a4 1 3e o1,a5 1 2e p7,a6 1 3e p7,a7 1 2e oc,a8 1 3e oc",
  "a9 1 ls 3e,ac 1 2f o4,ad 1 3f o4,ae 1 2f o6,af 1 3f o6,ag 1 2f ob,ah 1 3f ob,ak 1 2i o1",
  "al 1 3i o1,am 1 2i p7,an 1 3i p7,ao 1 2i oc,ap 1 3i oc,aq 1 2j o1,ar 1 3j o1,as 1 2j o2",
  "at 1 3j o2,au 1 2j p7,av 1 3j p7,b0 1 2j oc,b1 1 3j oc,b2 1 2k p7,b3 1 3k p7,b4 1 2k oc",
  "b5 1 3k oc,b8 1 2l o3,b9 1 3l o3,ba 1 2l o4,bb 1 3l o4,bc 1 2l o6,bd 1 3l o6,be 1 2l oa",
  "bf 1 3l oa,bg 1 2l ob,bh 1 3l ob,bi 1 2l p8,bj 1 3l p8,bk 1 2n o2,bl 1 3n o2,bm 1 2p o2",
  "bn 1 3p o2,bo 1 2p o8,bp 1 2q o1,bq 1 3q o1,br 1 2q o7,bs 1 3q o7,bt 1 2q oc,bu 1 3q oc",
  "bv 1 3j,d0 1 2f or,d1 1 3f or,df 1 2l or,dg 1 3l or,e4 1 24 2q oc,e5 1 24 3q oc",
  "e6 1 34 3q oc,e7 1 2c 2a,e8 1 2c 3a,e9 1 3c 3a,ea 1 2e 2a,eb 1 2e 3a,ec 1 3e 3a,ed 1 21 oc",
  "ee 1 31 oc,ef 1 29 oc,eg 1 39 oc,eh 1 2f oc,ei 1 3f oc,ej 1 2l oc,ek 1 3l oc,el 1 2l o8 o4",
  "em 1 3l o8 o4,en 1 2l o8 o1,eo 1 3l o8 o1,ep 1 2l o8 oc,eq 1 3l o8 oc,er 1 2l o8 o0",
  "es 1 3l o8 o0,eu 1 21 o8 o4,ev 1 31 o8 o4,f0 1 21 o7 o4,f1 1 31 o7 o4,f2 1 66 o4,f3 1 76 o4",
  "f6 1 27 oc,f7 1 37 oc,f8 1 2b oc,f9 1 3b oc,fa 1 2f p8,fb 1 3f p8,fc 1 2f p8 o4",
  "fd 1 3f p8 o4,fe 1 dn oc,ff 1 ki oc,fg 1 3a oc,fh 1 24 2q,fi 1 24 3q,fj 1 34 3q,fk 1 27 o1",
  "fl 1 37 o1,fo 1 2e o0,fp 1 3e o0,fq 1 21 oa o1,fr 1 31 oa o1,fs 1 66 o1,ft 1 76 o1",
  "fu 1 6o o1,fv 1 7o o1,g0 1 21 of,g1 1 31 of,g2 1 21 oh,g3 1 31 oh,g4 1 25 of,g5 1 35 of",
  "g6 1 25 oh,g7 1 35 oh,g8 1 29 of,g9 1 39 of,ga 1 29 oh,gb 1 39 oh,gc 1 2f of,gd 1 3f of",
  "ge 1 2f oh,gf 1 3f oh,gg 1 2i of,gh 1 3i of,gi 1 2i oh,gj 1 3i oh,gk 1 2l of,gl 1 3l of",
  "gm 1 2l oh,gn 1 3l oh,go 1 2j p6,gp 1 3j p6,gq 1 2k p6,gr 1 3k p6,gu 1 28 oc,gv 1 38 oc",
  "h6 1 21 o7,h7 1 31 o7,h8 1 25 p7,h9 1 35 p7,ha 1 2f o8 o4,hb 1 3f o8 o4,hc 1 2f o3 o4",
  "hd 1 3f o3 o4,he 1 2f o7,hf 1 3f o7,hg 1 2f o7 o4,hh 1 3f o7 o4,hi 1 2p o4,hj 1 3p o4",
  "lg 1 38,lh 1 j6,li 1 3a,lj 1 3i,lk 1 jp,ll 1 jr,lm 1 k1,ln 1 3n,lo 1 3p,n0 1 j3,n1 1 3c",
  "n2 1 3j,n3 1 3o,n4 1 kl,q0 2 o0,q3 1 oj,q4 1 o8 o1,rk 1 lp,s6 1 sh o1,s7 1 5n,s8 1 sl o1",
  "s9 1 sn o1,sa 1 sp o1,sc 1 sv o1,se 1 t5 o1,sf 1 t9 o1,sg 1 tp o8 o1,ta 1 sp o8,tb 1 t5 o8",
  "tc 1 th o1,td 1 tl o1,te 1 tn o1,tf 1 tp o1,tg 1 u5 o8 o1,ua 1 tp o8,ub 1 u5 o8,uc 1 tv o1",
  "ud 1 u5 o1,ue 1 u9 o1,ug 1 ti,uh 1 to,ui 1 t5,uj 1 t5 o1,uk 1 t5 o8,ul 1 u6,um 1 u0,vg 1 tq",
  "vh 2 u1,vk 1 so,vl 1 tl,vp 1 t3,100 1 10l o0,101 1 10l o8,103 1 10j o1,107 1 106 o8",
  "10c 1 10q o1,10d 1 10o o0,10e 1 113 o6,10p 1 10o o6,11p 1 11o o6,12g 1 11l o0,12h 1 11l o8",
  "12j 1 11j o1,12n 1 12m o8,12s 1 11q o1,12t 1 11o o0,12u 1 123 o6,13m 1 13k of,13n 1 13l of",
  "161 1 10m o6,162 1 11m o6,16g 1 10g o6,16h 1 11g o6,16i 1 10g o8,16j 1 11g o8,16m 1 10l o6",
  "16n 1 11l o6,16q 1 16o o8,16r 1 16p o8,16s 1 10m o8,16t 1 11m o8,16u 1 10n o8,16v 1 11n o8",
  "172 1 10o o4,173 1 11o o4,174 1 10o o8,175 1 11o o8,176 1 10u o8,177 1 11u o8,17a 1 178 o8",
  "17b 1 179 o8,17c 1 11d o8,17d 1 12d o8,17e 1 113 o4,17f 1 123 o4,17g 1 113 o8,17h 1 123 o8",
  "17i 1 113 ob,17j 1 123 ob,17k 1 117 o8,17l 1 127 o8,17o 1 11b o8,17p 1 12b o8,1c7 1 1b5 1c2",
  "1h2 1 1h7 1ij,1h3 1 1h7 1ik,1h4 1 1i8 1ik,1h5 1 1h7 1il,1h6 1 1ia 1ik,1jl 1 1h7 1jk",
  "1jm 1 1i8 1jk,1jn 1 1m7 1jk,1jo 1 1ia 1jk,1m0 1 1ml 1ik,1m2 1 1m1 1ik,1mj 1 1mi 1ik",
  "299 1 298 29s,29h 1 29g 29s,29k 1 29j 29s,2ao 1 28l 29s,2ap 1 28m 29s,2aq 1 28n 29s",
  "2ar 1 28s 29s,2as 1 291 29s,2at 1 292 29s,2au 1 29b 29s,2av 1 29f 29s,2eb 1 2e7 2du",
  "2ec 1 2e7 2en,2es 1 2d1 2ds,2et 1 2d2 2ds,2ev 1 2df 2ds,2hj 1 2hi 2hs,2hm 1 2ho 2hs",
  "2ip 1 2gm 2hs,2iq 1 2gn 2hs,2ir 1 2gs 2hs,2iu 1 2hb 2hs,2q8 1 2q7 2qm,2qb 1 2q7 2pu",
  "2qc 1 2q7 2qn,2qs 1 2p1 2ps,2qt 1 2p2 2ps,2sk 1 2si 2un,2ua 1 2u6 2tu,2ub 1 2u7 2tu",
  "2uc 1 2u6 2un,328 1 326 32m,360 1 35v 36l,367 1 366 36l,368 1 366 36m,36a 1 366 362",
  "36b 1 366 362 36l,3aa 1 3a6 39u,3ab 1 3a7 39u,3ac 1 3a6 3an,3eq 1 3ep 3ea,3es 1 3ep 3ef",
  "3et 1 3ep 3ef 3ea,3eu 1 3ep 3ev,3hj 1 3id 3hi,3lj 1 3md 3li,3ms 1 3lb 3kp,3mt 1 3lb 3l1",
  "3q3 1 3q2 3tn,3qd 1 3qc 3tn,3qi 1 3qh 3tn,3qn 1 3qm 3tn,3qs 1 3qr 3tn,3r9 1 3q0 3tl",
  "3rj 1 3rh 3ri,3rl 1 3rh 3rk,3rm 1 3ti 3s0,3rn 1 3ti 3rh 3s0,3ro 1 3tj 3s0,3rp 1 3tj 3rh 3s0",
  "3s1 1 3rh 3s0,3sj 1 3si 3tn,3st 1 3ss 3tn,3t2 1 3t1 3tn,3t7 1 3t6 3tn,3tc 1 3tb 3tn",
  "3tp 1 3sg 3tl,416 1 415 41e,47s 1 46s,6o6 1 6o5 6pl,6o8 1 6o7 6pl,6oa 1 6o9 6pl",
  "6oc 1 6ob 6pl,6oe 1 6od 6pl,6oi 1 6oh 6pl,6pr 1 6pq 6pl,6pt 1 6ps 6pl,6q0 1 6pu 6pl",
  "6q1 1 6pv 6pl,6q3 1 6q2 6pl,79c 1 21,79d 1 66,79e 1 22,79g 2 24,79i 1 ce,79j 8 27,79s 1 2f",
  "79t 1 h2,79u 1 2g,79v 1 2i,7a0 2 2k,7a2 1 2n,7a3 1 31,7a4 2 ig,7a6 1 782,7a7 1 32,7a8 2 34",
  "7aa 1 ip,7ab 2 ir,7ad 1 37,7af 1 3b,7ag 1 3d,7ah 1 ab,7ai 1 3f,7aj 1 ik,7ak 2 78m,7am 1 3g",
  "7an 2 3k,7ap 1 78t,7aq 1 jf,7ar 1 3m,7as 1 795,7at 3 ti,7b0 2 u6,7b2 1 39,7b3 1 3i,7b4 2 3l",
  "7b6 2 ti,7b8 1 u1,7b9 2 u6,7bo 1 11t,7cr 1 ii,7cs 1 33,7ct 1 il,7cu 1 7g,7cv 1 is,7d0 1 36",
  "7d1 1 iv,7d2 1 j1,7d3 1 j5,7d4 3 j8,7d7 1 7br,7d8 1 kt,7d9 1 jd,7da 1 7c5,7db 1 kv,7dc 1 jh",
  "7dd 1 jg,7de 4 ji,7di 1 jo,7dj 2 k2,7dl 1 db,7dm 2 k9,7do 1 78s,7dp 2 kb,7dr 1 3q,7ds 3 kg",
  "7dv 1 to,7g0 1 21 p5,7g1 1 31 p5,7g2 1 22 o7,7g3 1 32 o7,7g4 1 22 p3,7g5 1 32 p3,7g6 1 22 ph",
  "7g7 1 32 ph,7g8 1 23 p7 o1,7g9 1 33 p7 o1,7ga 1 24 o7,7gb 1 34 o7,7gc 1 24 p3,7gd 1 34 p3",
  "7ge 1 24 ph,7gf 1 34 ph,7gg 1 24 p7,7gh 1 34 p7,7gi 1 24 pd,7gj 1 34 pd,7gk 1 25 o4 o0",
  "7gl 1 35 o4 o0,7gm 1 25 o4 o1,7gn 1 35 o4 o1,7go 1 25 pd,7gp 1 35 pd,7gq 1 25 pg,7gr 1 35 pg",
  "7gs 1 25 p7 o6,7gt 1 35 p7 o6,7gu 1 26 o7,7gv 1 36 o7,7h0 1 27 o4,7h1 1 37 o4,7h2 1 28 o7",
  "7h3 1 38 o7,7h4 1 28 p3,7h5 1 38 p3,7h6 1 28 o8,7h7 1 38 o8,7h8 1 28 p7,7h9 1 38 p7",
  "7ha 1 28 pe,7hb 1 38 pe,7hc 1 29 pg,7hd 1 39 pg,7he 1 29 o8 o1,7hf 1 39 o8 o1,7hg 1 2b o1",
  "7hh 1 3b o1,7hi 1 2b p3,7hj 1 3b p3,7hk 1 2b ph,7hl 1 3b ph,7hm 1 2c p3,7hn 1 3c p3",
  "7ho 1 2c p3 o4,7hp 1 3c p3 o4,7hq 1 2c ph,7hr 1 3c ph,7hs 1 2c pd,7ht 1 3c pd,7hu 1 2d o1",
  "7hv 1 3d o1,7i0 1 2d o7,7i1 1 3d o7,7i2 1 2d p3,7i3 1 3d p3,7i4 1 2e o7,7i5 1 3e o7",
  "7i6 1 2e p3,7i7 1 3e p3,7i8 1 2e ph,7i9 1 3e ph,7ia 1 2e pd,7ib 1 3e pd,7ic 1 2f o3 o1",
  "7id 1 3f o3 o1,7ie 1 2f o3 o8,7if 1 3f o3 o8,7ig 1 2f o4 o0,7ih 1 3f o4 o0,7ii 1 2f o4 o1",
  "7ij 1 3f o4 o1,7ik 1 2g o1,7il 1 3g o1,7im 1 2g o7,7in 1 3g o7,7io 1 2i o7,7ip 1 3i o7",
  "7iq 1 2i p3,7ir 1 3i p3,7is 1 2i p3 o4,7it 1 3i p3 o4,7iu 1 2i ph,7iv 1 3i ph,7j0 1 2j o7",
  "7j1 1 3j o7,7j2 1 2j p3,7j3 1 3j p3,7j4 1 2j o1 o7,7j5 1 3j o1 o7,7j6 1 2j oc o7",
  "7j7 1 3j oc o7,7j8 1 2j p3 o7,7j9 1 3j p3 o7,7ja 1 2k o7,7jb 1 3k o7,7jc 1 2k p3,7jd 1 3k p3",
  "7je 1 2k ph,7jf 1 3k ph,7jg 1 2k pd,7jh 1 3k pd,7ji 1 2l p4,7jj 1 3l p4,7jk 1 2l pg",
  "7jl 1 3l pg,7jm 1 2l pd,7jn 1 3l pd,7jo 1 2l o3 o1,7jp 1 3l o3 o1,7jq 1 2l o4 o8",
  "7jr 1 3l o4 o8,7js 1 2m o3,7jt 1 3m o3,7ju 1 2m p3,7jv 1 3m p3,7k0 1 2n o0,7k1 1 3n o0",
  "7k2 1 2n o1,7k3 1 3n o1,7k4 1 2n o8,7k5 1 3n o8,7k6 1 2n o7,7k7 1 3n o7,7k8 1 2n p3",
  "7k9 1 3n p3,7ka 1 2o o7,7kb 1 3o o7,7kc 1 2o o8,7kd 1 3o o8,7ke 1 2p o7,7kf 1 3p o7",
  "7kg 1 2q o2,7kh 1 3q o2,7ki 1 2q p3,7kj 1 3q p3,7kk 1 2q ph,7kl 1 3q ph,7km 1 38 ph",
  "7kn 1 3k o8,7ko 1 3n oa,7kp 1 3p oa,7kq 1 31 lu,7kr 1 3j o7,7l0 1 21 p3,7l1 1 31 p3",
  "7l2 1 21 o9,7l3 1 31 o9,7l4 1 21 o2 o1,7l5 1 31 o2 o1,7l6 1 21 o2 o0,7l7 1 31 o2 o0",
  "7l8 1 21 o2 o9,7l9 1 31 o2 o9,7la 1 21 o2 o3,7lb 1 31 o2 o3,7lc 1 21 p3 o2,7ld 1 31 p3 o2",
  "7le 1 21 o6 o1,7lf 1 31 o6 o1,7lg 1 21 o6 o0,7lh 1 31 o6 o0,7li 1 21 o6 o9,7lj 1 31 o6 o9",
  "7lk 1 21 o6 o3,7ll 1 31 o6 o3,7lm 1 21 p3 o6,7ln 1 31 p3 o6,7lo 1 25 p3,7lp 1 35 p3",
  "7lq 1 25 o9,7lr 1 35 o9,7ls 1 25 o3,7lt 1 35 o3,7lu 1 25 o2 o1,7lv 1 35 o2 o1,7m0 1 25 o2 o0",
  "7m1 1 35 o2 o0,7m2 1 25 o2 o9,7m3 1 35 o2 o9,7m4 1 25 o2 o3,7m5 1 35 o2 o3,7m6 1 25 p3 o2",
  "7m7 1 35 p3 o2,7m8 1 29 o9,7m9 1 39 o9,7ma 1 29 p3,7mb 1 39 p3,7mc 1 2f p3,7md 1 3f p3",
  "7me 1 2f o9,7mf 1 3f o9,7mg 1 2f o2 o1,7mh 1 3f o2 o1,7mi 1 2f o2 o0,7mj 1 3f o2 o0",
  "7mk 1 2f o2 o9,7ml 1 3f o2 o9,7mm 1 2f o2 o3,7mn 1 3f o2 o3,7mo 1 2f p3 o2,7mp 1 3f p3 o2",
  "7mq 1 2f or o1,7mr 1 3f or o1,7ms 1 2f or o0,7mt 1 3f or o0,7mu 1 2f or o9,7mv 1 3f or o9",
  "7n0 1 2f or o3,7n1 1 3f or o3,7n2 1 2f or p3,7n3 1 3f or p3,7n4 1 2l p3,7n5 1 3l p3",
  "7n6 1 2l o9,7n7 1 3l o9,7n8 1 2l or o1,7n9 1 3l or o1,7na 1 2l or o0,7nb 1 3l or o0",
  "7nc 1 2l or o9,7nd 1 3l or o9,7ne 1 2l or o3,7nf 1 3l or o3,7ng 1 2l or p3,7nh 1 3l or p3",
  "7ni 1 2p o0,7nj 1 3p o0,7nk 1 2p p3,7nl 1 3p p3,7nm 1 2p o9,7nn 1 3p o9,7no 1 2p o3",
  "7np 1 3p o3,7o0 1 th oj,7o1 1 th ok,7o2 1 th oj o0,7o3 1 th ok o0,7o4 1 th oj o1",
  "7o5 1 th ok o1,7o6 1 th oj q2,7o7 1 th ok q2,7o8 1 sh oj,7o9 1 sh ok,7oa 1 sh oj o0",
  "7ob 1 sh ok o0,7oc 1 sh oj o1,7od 1 sh ok o1,7oe 1 sh oj q2,7of 1 sh ok q2,7og 1 tl oj",
  "7oh 1 tl ok,7oi 1 tl oj o0,7oj 1 tl ok o0,7ok 1 tl oj o1,7ol 1 tl ok o1,7oo 1 sl oj",
  "7op 1 sl ok,7oq 1 sl oj o0,7or 1 sl ok o0,7os 1 sl oj o1,7ot 1 sl ok o1,7p0 1 tn oj",
  "7p1 1 tn ok,7p2 1 tn oj o0,7p3 1 tn ok o0,7p4 1 tn oj o1,7p5 1 tn ok o1,7p6 1 tn oj q2",
  "7p7 1 tn ok q2,7p8 1 sn oj,7p9 1 sn ok,7pa 1 sn oj o0,7pb 1 sn ok o0,7pc 1 sn oj o1",
  "7pd 1 sn ok o1,7pe 1 sn oj q2,7pf 1 sn ok q2,7pg 1 tp oj,7ph 1 tp ok,7pi 1 tp oj o0",
  "7pj 1 tp ok o0,7pk 1 tp oj o1,7pl 1 tp ok o1,7pm 1 tp oj q2,7pn 1 tp ok q2,7po 1 sp oj",
  "7pp 1 sp ok,7pq 1 sp oj o0,7pr 1 sp ok o0,7ps 1 sp oj o1,7pt 1 sp ok o1,7pu 1 sp oj q2",
  "7pv 1 sp ok q2,7q0 1 tv oj,7q1 1 tv ok,7q2 1 tv oj o0,7q3 1 tv ok o0,7q4 1 tv oj o1",
  "7q5 1 tv ok o1,7q8 1 sv oj,7q9 1 sv ok,7qa 1 sv oj o0,7qb 1 sv ok o0,7qc 1 sv oj o1",
  "7qd 1 sv ok o1,7qg 1 u5 oj,7qh 1 u5 ok,7qi 1 u5 oj o0,7qj 1 u5 ok o0,7qk 1 u5 oj o1",
  "7ql 1 u5 ok o1,7qm 1 u5 oj q2,7qn 1 u5 ok q2,7qp 1 t5 ok,7qr 1 t5 ok o0,7qt 1 t5 ok o1",
  "7qv 1 t5 ok q2,7r0 1 u9 oj,7r1 1 u9 ok,7r2 1 u9 oj o0,7r3 1 u9 ok o0,7r4 1 u9 oj o1",
  "7r5 1 u9 ok o1,7r6 1 u9 oj q2,7r7 1 u9 ok q2,7r8 1 t9 oj,7r9 1 t9 ok,7ra 1 t9 oj o0",
  "7rb 1 t9 ok o0,7rc 1 t9 oj o1,7rd 1 t9 ok o1,7re 1 t9 oj q2,7rf 1 t9 ok q2,7rg 1 th o0",
  "7rh 1 th o1,7ri 1 tl o0,7rj 1 tl o1,7rk 1 tn o0,7rl 1 tn o1,7rm 1 tp o0,7rn 1 tp o1",
  "7ro 1 tv o0,7rp 1 tv o1,7rq 1 u5 o0,7rr 1 u5 o1,7rs 1 u9 o0,7rt 1 u9 o1,7s0 1 th oj q5",
  "7s1 1 th ok q5,7s2 1 th oj o0 q5,7s3 1 th ok o0 q5,7s4 1 th oj o1 q5,7s5 1 th ok o1 q5",
  "7s6 1 th oj q2 q5,7s7 1 th ok q2 q5,7s8 1 sh oj q5,7s9 1 sh ok q5,7sa 1 sh oj o0 q5",
  "7sb 1 sh ok o0 q5,7sc 1 sh oj o1 q5,7sd 1 sh ok o1 q5,7se 1 sh oj q2 q5,7sf 1 sh ok q2 q5",
  "7sg 1 tn oj q5,7sh 1 tn ok q5,7si 1 tn oj o0 q5,7sj 1 tn ok o0 q5,7sk 1 tn oj o1 q5",
  "7sl 1 tn ok o1 q5,7sm 1 tn oj q2 q5,7sn 1 tn ok q2 q5,7so 1 sn oj q5,7sp 1 sn ok q5",
  "7sq 1 sn oj o0 q5,7sr 1 sn ok o0 q5,7ss 1 sn oj o1 q5,7st 1 sn ok o1 q5,7su 1 sn oj q2 q5",
  "7sv 1 sn ok q2 q5,7t0 1 u9 oj q5,7t1 1 u9 ok q5,7t2 1 u9 oj o0 q5,7t3 1 u9 ok o0 q5",
  "7t4 1 u9 oj o1 q5,7t5 1 u9 ok o1 q5,7t6 1 u9 oj q2 q5,7t7 1 u9 ok q2 q5,7t8 1 t9 oj q5",
  "7t9 1 t9 ok q5,7ta 1 t9 oj o0 q5,7tb 1 t9 ok o0 q5,7tc 1 t9 oj o1 q5,7td 1 t9 ok o1 q5",
  "7te 1 t9 oj q2 q5,7tf 1 t9 ok q2 q5,7tg 1 th o6,7th 1 th o4,7ti 1 th o0 q5,7tj 1 th q5",
  "7tk 1 th o1 q5,7tm 1 th q2,7tn 1 th q2 q5,7to 1 sh o6,7tp 1 sh o4,7tq 1 sh o0,7tr 1 sh o1",
  "7ts 1 sh q5,7tu 1 tp,7u2 1 tn o0 q5,7u3 1 tn q5,7u4 1 tn o1 q5,7u6 1 tn q2,7u7 1 tn q2 q5",
  "7u8 1 sl o0,7u9 1 sl o1,7ua 1 sn o0,7ub 1 sn o1,7uc 1 sn q5,7ug 1 tp o6,7uh 1 tp o4",
  "7ui 1 tp o8 o0,7uj 1 tp o8 o1,7um 1 tp q2,7un 1 tp o8 q2,7uo 1 sp o6,7up 1 sp o4,7uq 1 sp o0",
  "7ur 1 sp o1,7v0 1 u5 o6,7v1 1 u5 o4,7v2 1 u5 o8 o0,7v3 1 u5 o8 o1,7v4 1 u1 oj,7v5 1 u1 ok",
  "7v6 1 u5 q2,7v7 1 u5 o8 q2,7v8 1 t5 o6,7v9 1 t5 o4,7va 1 t5 o0,7vb 1 t5 o1,7vc 1 t1 ok",
  "7vi 1 u9 o0 q5,7vj 1 u9 q5,7vk 1 u9 o1 q5,7vm 1 u9 q2,7vn 1 u9 q2 q5,7vo 1 sv o0,7vp 1 sv o1",
  "7vq 1 t9 o0,7vr 1 t9 o1,7vs 1 t9 q5,83h 1 39,83v 1 3e,84g 1 31,84h 1 35,84i 1 3f,84j 1 3o",
  "84k 1 ip,84l 1 38,84m 4 3b,84q 1 3g,84r 2 3j,882 1 23,887 1 cg,88a 1 37,88b 1 28,88c 1 28",
  "88d 1 28,88e 1 38,88f 1 97,88g 1 29,88h 1 29,88i 1 2c,88j 1 3c,88l 1 2e,88p 3 2g,88s 1 2i",
  "88t 1 2i,894 1 2q,896 1 t9,898 1 2q,89a 1 2b,89b 1 21 oa,89c 2 22,89f 1 35,89g 2 25,89j 1 2d",
  "89k 1 3f,89l 4 1eg,89p 1 39,89s 1 u0,89t 1 tj,89u 1 sj,89v 1 t0,8a5 1 24,8a6 2 34,8a8 2 39",
  "8b0 1 29,8b1 1 29 29,8b2 1 29 29 29,8b3 1 29 2m,8b4 1 2m,8b5 1 2m 29,8b6 1 2m 29 29",
  "8b7 1 2m 29 29 29,8b8 1 29 2o,8b9 1 2o,8ba 1 2o 29,8bb 1 2o 29 29,8bc 1 2c,8bd 2 23,8bf 1 2d",
  "8bg 1 39,8bh 1 39 39,8bi 1 39 39 39,8bj 1 39 3m,8bk 1 3m,8bl 1 3m 39,8bm 1 3m 39 39",
  "8bn 1 3m 39 39 39,8bo 1 39 3o,8bp 1 3o,8bq 1 3o 39,8br 1 3o 39 39,8bs 1 3c,8bt 2 33,8bv 1 3d",
  "b3s 1 3a,b3t 1 2m,bbf 1 bb1,c1o 1 kq1,c1p 2 kq4,c2c 1 c2b c4p,c2e 1 c2d c4p,c2g 1 c2f c4p",
  "c2i 1 c2h c4p,c2k 1 c2j c4p,c2m 1 c2l c4p,c2o 1 c2n c4p,c2q 1 c2p c4p,c2s 1 c2r c4p",
  "c2u 1 c2t c4p,c30 1 c2v c4p,c32 1 c31 c4p,c35 1 c34 c4p,c37 1 c36 c4p,c39 1 c38 c4p",
  "c3g 1 c3f c4p,c3h 1 c3f c4q,c3j 1 c3i c4p,c3k 1 c3i c4q,c3m 1 c3l c4p,c3n 1 c3l c4q",
  "c3p 1 c3o c4p,c3q 1 c3o c4q,c3s 1 c3r c4p,c3t 1 c3r c4q,c4k 1 c26 c4p,c4u 1 c4t c4p",
  "c4v 1 c48 c4a,c5c 1 c5b c4p,c5e 1 c5d c4p,c5g 1 c5f c4p,c5i 1 c5h c4p,c5k 1 c5j c4p",
  "c5m 1 c5l c4p,c5o 1 c5n c4p,c5q 1 c5p c4p,c5s 1 c5r c4p,c5u 1 c5t c4p,c60 1 c5v c4p",
  "c62 1 c61 c4p,c65 1 c64 c4p,c67 1 c66 c4p,c69 1 c68 c4p,c6g 1 c6f c4p,c6h 1 c6f c4q",
  "c6j 1 c6i c4p,c6k 1 c6i c4q,c6m 1 c6l c4p,c6n 1 c6l c4q,c6p 1 c6o c4p,c6q 1 c6o c4q",
  "c6s 1 c6r c4p,c6t 1 c6r c4q,c7k 1 c56 c4p,c7n 1 c7f c4p,c7o 1 c7g c4p,c7p 1 c7h c4p",
  "c7q 1 c7i c4p,c7u 1 c7t c4p,c7v 1 c5j c68,c9h 2 480,c9j 1 4da,c9k 1 482,c9l 2 4dc,c9n 3 483",
  "c9q 6 4dg,ca0 1 48q,ca1 3 486,ca4 1 491,ca5 a 489,caf l 4b1,cb4 1 4b0,cb5 2 48k,cb7 2 4e7",
  "cb9 1 4ec,cba 1 4ee,cbb 1 4ej,cbc 1 4en,cbd 1 4ep,cbe 1 48s,cbf 1 4et,cbg 1 4ev,cbh 2 48t",
  "cbj 1 490,cbk 2 492,cbm 1 497,cbn 1 499,cbo 5 49b,cbt 1 49i,cbu 1 49m,cbv 1 4a0,cc0 1 4a7",
  "cc1 1 4ac,cc2 2 4fh,cc4 3 4an,cc7 2 4c4,cc9 1 4c8,cca 2 4ch,ccc 1 4ck,ccd 1 4cu,cce 1 4d1",
  "19ks 1 12a,19kt 1 12c,19rg 1 19rf,19vi 1 23,19vj 1 26,19vk 1 2h,19vo 1 96,19vp 1 aj",
  "1aqs 1 19p7,1aqt 1 1apn,1aqu 1 jb,1aqv 1 1aqi,1ar9 1 kd,1u80 1 1328,1u81 1 pnk,1u82 1 13ma",
  "1u83 1 1368,1u84 1 rmh,1u85 1 jhi,1u86 1 kv5,1u87 1 17ss,1u88 1 17ss,1u89 1 mah,1u8a 1 14eh",
  "1u8b 1 lc7,1u8c 1 ma8,1u8d 1 ofm,1u8e 1 tj9,1u8f 1 vs5,1u8g 1 11hv,1u8h 1 11tq,1u8i 1 127o",
  "1u8j 1 144f,1u8k 1 qg2,1u8l 1 r8r,1u8m 1 s6p,1u8n 1 suu,1u8o 1 111t,1u8p 1 14ba,1u8q 1 16fh",
  "1u8r 1 jk2,1u8s 1 krl,1u8t 1 qo4,1u8u 1 sgr,1u8v 1 11hd,1u90 1 17gu,1u91 1 nag,1u92 1 rvb",
  "1u93 1 11ed,1u94 1 12b4,1u95 1 om9,1u96 1 10eo,1u97 1 120v,1u98 1 nma,1u99 1 pon,1u9a 1 rba",
  "1u9b 1 sns,1u9c 1 146e,1u9d 1 js6,1u9e 1 kdn,1u9f 1 kmu,1u9g 1 p64,1u9h 1 qmj,1u9i 1 sgg",
  "1u9j 1 tn7,1u9k 1 1001,1u9l 1 11g6,1u9m 1 11is,1u9n 1 13ff,1u9o 1 15pi,1u9p 1 16rf",
  "1u9q 1 17fq,1u9r 1 u4c,1u9s 1 ubv,1u9t 1 vd0,1u9u 1 10u9,1u9v 1 14o4,1ua0 1 17jv,1ua1 1 12mm",
  "1ua2 1 m6v,1ua3 1 no4,1ua4 1 v30,1ua5 1 103u,1ua6 1 sj2,1ua7 1 u6a,1ua8 1 1362,1ua9 1 15nn",
  "1uaa 1 m6o,1uab 1 n32,1uac 1 qgj,1uad 1 req,1uae 1 rof,1uaf 1 v9f,1uag 1 vhn,1uah 1 15ib",
  "1uai 1 kmi,1uaj 1 104b,1uak 1 kes,1ual 1 kec,1uam 1 ugs,1uan 1 vdu,1uao 1 10vh,1uap 1 15jl",
  "1uaq 1 12s0,1uar 1 omf,1uas 1 qg2,1uat 1 12nu,1uau 1 jhp,1uav 1 mv7,1ub0 1 o0i,1ub1 1 ss7",
  "1ub2 1 tbg,1ub3 1 kon,1ub4 1 u7r,1ub5 1 jtv,1ub6 1 nt9,1ub7 1 jgd,1ub8 1 r6c,1ub9 1 pbo",
  "1uba 1 v92,1ubb 1 ku3,1ubc 1 m2u,1ubd 1 to1,1ube 1 1129,1ubf 1 12la,1ubg 1 qtq,1ubh 1 13tg",
  "1ubi 1 r48,1ubj 1 onu,1ubk 1 10n5,1ubl 1 ot0,1ubm 1 tb5,1ubn 1 jle,1ubo 1 kb9,1ubp 1 ke9",
  "1ubq 1 q41,1ubr 1 v77,1ubs 1 10jf,1ubt 1 12mi,1ubu 1 14ef,1ubv 1 knl,1uc0 1 l22,1uc1 1 mbj",
  "1uc2 1 nnc,1uc3 1 pe5,1uc4 1 rvu,1uc5 1 u9a,1uc6 1 15dd,1uc7 1 16ja,1uc8 1 17kn,1uc9 1 17me",
  "1uca 1 kkr,1ucb 1 pm6,1ucc 1 qrn,1ucd 1 13r2,1uce 1 njk,1ucf 1 ocg,1ucg 1 og0,1uch 1 p4q",
  "1uci 1 rp3,1ucj 1 sa9,1uck 1 t49,1ucl 1 uea,1ucm 1 vfk,1ucn 1 103f,1uco 1 13p6,1ucp 1 117e",
  "1ucq 1 1413,1ucr 1 14qa,1ucs 1 kgn,1uct 1 kl3,1ucu 1 l5t,1ucv 1 s68,1ud0 1 1262,1ud1 1 12la",
  "1ud2 1 nm9,1ud3 1 nvl,1ud4 1 orr,1ud5 1 qte,1ud6 1 v1u,1ud7 1 srl,1ud8 1 jn4,1ud9 1 lnp",
  "1uda 1 mv7,1udb 1 ndq,1udc 1 o0s,1udd 1 sti,1ude 1 t39,1udf 1 vsq,1udg 1 1026,1udh 1 14hk",
  "1udi 1 15nm,1udj 1 15q8,1udk 1 160o,1udl 1 jsb,1udm 1 ude,1udn 1 14dk,1udo 1 15lo,1udp 1 o71",
  "1udq 1 jk6,1udr 1 k6q,1uds 1 mve,1udt 1 n1v,1udu 1 pcp,1udv 1 qg2,1ue0 1 see,1ue1 1 ti2",
  "1ue2 1 117s,1ue3 1 143s,1ue4 1 17sd,1ue5 1 pk8,1ue6 1 15he,1ue7 1 kk9,1ue8 1 prr,1ue9 1 pvj",
  "1uea 1 ra1,1ueb 1 rks,1uec 1 t09,1ued 1 tap,1uee 1 u3b,1uef 1 v8g,1ueg 1 162u,1ueh 1 kbd",
  "1uei 1 ohe,1uej 1 15jo,1uek 1 k1b,1uel 1 n8p,1uem 1 rfa,1uen 1 13pa,1ueo 1 nsb,1uep 1 oa4",
  "1ueq 1 q0n,1uer 1 ss7,1ues 1 15k6,1uet 1 kh9,1ueu 1 l0f,1uev 1 n35,1uf0 1 pgj,1uf1 1 pqe",
  "1uf2 1 q58,1uf3 1 r75,1uf4 1 t06,1uf5 1 tf2,1uf6 1 vrp,1uf7 1 126f,1uf8 1 1271,1uf9 1 14ec",
  "1ufa 1 15n2,1ufb 1 kpv,1ufc 1 rlq,1ufd 1 l0t,1ufe 1 seg,1uff 1 t4o,1ufg 1 11fq,1ufh 1 15l3",
  "1ufi 1 172n,1ufj 1 17kv,1ufk 1 psn,1ufl 1 reb,1ufm 1 10f8,1ufn 1 umb,1ufo 1 up0,1ufp 1 v4i",
  "1ufq 1 sm0,1ufr 1 s4p,1ufs 1 12qo,1uft 1 jm0,1ufu 1 10pm,1ufv 1 khq,1ug0 1 kg7,1ug1 1 nl6",
  "1ug2 1 omj,1ug3 1 v6m,1ug4 1 ms5,1ug5 1 r8u,1ug6 1 plk,1ug7 1 13pr,1ug8 1 122c,1ug9 1 15id",
  "1uga 1 12cb,1ugb 1 nmj,1ugc 1 ka0,1ugd 1 le0,1ugg 1 m2q,1ugi 1 pjk,1ugl 1 keu,1ugm 1 spa",
  "1ugn 1 tma,1ugo 1 u9s,1ugp 1 uau,1ugq 1 ub5,1ugr 1 ucf,1ugs 1 15qm,1ugt 1 v5u,1ugu 1 vtt",
  "1uh0 1 11gi,1uh2 1 12no,1uh5 1 141o,1uh6 1 147t,1uha 1 167f,1uhb 1 167s,1uhc 1 1698",
  "1uhd 1 17dk,1uhe 1 146u,1uhf 1 15ln,1uhg 1 jte,1uhh 1 k77,1uhi 1 kad,1uhj 1 km9,1uhk 1 kn4",
  "1uhl 1 kqh,1uhm 1 lct,1uhn 1 lg6,1uho 1 lj8,1uhp 1 m20,1uhq 1 m58,1uhr 1 n34,1uhs 1 n3e",
  "1uht 1 o4k,1uhu 1 ob8,1uhv 1 oce,1ui0 1 ofi,1ui1 1 paf,1ui2 1 pf2,1ui3 1 pkh,1ui4 1 q45",
  "1ui5 1 rbn,1ui6 1 rgq,1ui7 1 rp2,1ui8 1 sbe,1ui9 1 shb,1uia 1 t12,1uib 1 u4h,1uic 1 u9u",
  "1uid 1 ua9,1uie 1 ua8,1uif 1 uag,1uig 1 uam,1uih 1 uat,1uii 2 ucd,1uik 1 ui0,1uil 1 uk1",
  "1uim 1 uu0,1uin 1 vfk,1uio 1 vg9,1uip 1 vi1,1uiq 1 vri,1uir 1 1005,1uis 1 10fd,1uit 1 10jp",
  "1uiu 1 10jp,1uiv 1 112n,1uj0 1 128g,1uj1 1 12cm,1uj2 1 12o1,1uj3 1 12pp,1uj4 1 136j",
  "1uj5 1 1388,1uj6 1 13tm,1uj7 1 141o,1uj8 1 15n3,1uj9 1 15vv,1uja 1 161r,1ujb 1 o3l",
  "1ujc 1 4gne,1ujd 1 10go,1ujg 1 jh6,1ujh 1 kdl,1uji 1 kb8,1ujj 1 js0,1ujk 1 ka5,1ujl 1 kc0",
  "1ujm 1 km7,1ujn 1 knq,1ujo 1 lct,1ujp 1 lal,1ujq 1 lcp,1ujr 1 lf2,1ujs 1 m2q,1ujt 1 m5j",
  "1uju 1 ma4,1ujv 1 mak,1uk0 1 mj2,1uk1 1 mp8,1uk2 1 nmi,1uk3 1 nmp,1uk4 1 nr9,1uk5 1 ntd",
  "1uk6 1 o6o,1uk7 1 oae,1uk8 1 o88,1uk9 1 oce,1uka 1 ob0,1ukb 1 ofi,1ukc 1 ohk,1ukd 1 ou4",
  "1uke 1 p0s,1ukf 1 p2i,1ukg 1 pam,1ukh 1 pjk,1uki 1 pon,1ukj 1 por,1ukk 1 pqm,1ukl 1 qrp",
  "1ukm 1 qtq,1ukn 1 ra1,1uko 1 rmr,1ukp 1 rmb,1ukq 1 rp2,1ukr 1 s0u,1uks 1 sbe,1ukt 1 tt7",
  "1uku 1 shl,1ukv 1 slf,1ul0 1 spa,1ul1 1 t3h,1ul2 1 t86,1ul3 1 t9r,1ul4 1 tgt,1ul5 1 tgv",
  "1ul6 1 tma,1ul7 1 tmr,1ul8 1 tnk,1ul9 1 tqa,1ula 1 tq0,1ulb 1 u6c,1ulc 1 ulh,1uld 1 uu0",
  "1ule 1 v3r,1ulf 1 var,1ulg 1 vfk,1ulh 1 vpu,1uli 1 1005,1ulj 1 10qi,1ulk 1 10vf,1ull 1 11rp",
  "1ulm 1 12a1,1uln 1 12c6,1ulo 1 12cm,1ulp 1 12lv,1ulq 1 12no,1ulr 1 12mb,1uls 1 12o1",
  "1ult 1 12nu,1ulu 1 12nd,1ulv 1 12pp,1um0 1 12sa,1um1 1 1388,1um2 1 13po,1um3 1 143i",
  "1um4 1 14cp,1um5 1 14jm,1um6 1 15js,1um7 1 15n3,1um8 1 15qm,1um9 1 15ur,1uma 1 15vv",
  "1umb 1 160b,1umc 1 161r,1umd 1 16oi,1ume 1 17ss,1umf 1 4a2a,1umg 1 4a24,1umh 1 4cul",
  "1umi 1 est,1umj 1 g0o,1umk 1 g1p,1uml 1 4ki9,1umm 1 4n6g,1umn 1 4vmj,1umo 1 17q3,1ump 1 17se",
  "1uo0 1 36 36,1uo1 1 36 39,1uo2 1 36 3c,1uo3 1 36 36 39,1uo4 1 36 36 3c,1uo5 1 3j 3k",
  "1uo6 1 3j 3k,1uoj 1 1bk 1bm,1uok 1 1bk 1b5,1uol 1 1bk 1bb,1uom 1 1bu 1bm,1uon 1 1bk 1bd",
  "1uot 1 1ep 1dk,1uov 1 1fi 1dn,1up0 1 1f2,1up1 1 1eg,1up2 2 1ej,1up4 3 1er,1up7 1 1f8",
  "1up8 1 1fa,1upa 1 1f9 1e1,1upb 1 1f9 1e2,1upc 1 1f9 1ds 1e1,1upd 1 1f9 1ds 1e2",
  "1upe 1 1eg 1dn,1upf 1 1eg 1do,1upg 1 1eg 1ds,1uph 1 1eh 1ds,1upi 1 1ei 1ds,1upj 1 1ej 1ds",
  "1upk 1 1ek 1ds,1upl 1 1el 1ds,1upm 1 1em 1ds,1upo 1 1eo 1ds,1upp 1 1ep 1ds,1upq 1 1eq 1ds",
  "1upr 1 1er 1ds,1ups 1 1es 1ds,1upu 1 1eu 1ds,1uq0 1 1f0 1ds,1uq1 1 1f1 1ds,1uq3 1 1f3 1ds",
  "1uq4 1 1f4 1ds,1uq6 1 1f6 1ds,1uq7 1 1f7 1ds,1uq8 1 1f8 1ds,1uq9 1 1f9 1ds,1uqa 1 1fa 1ds",
  "1uqb 1 1el 1dp,1uqc 1 1eh 1dv,1uqd 1 1er 1dv,1uqe 1 1f4 1dv,1uqf 1 1eg 1es,1uqg 1 1jh",
  "1uqh 1 1jh,1uqi 1 1jr,1uqj 1 1jr,1uqk 1 1jr,1uql 1 1jr,1uqm 1 1ju,1uqn 1 1ju,1uqo 1 1ju",
  "1uqp 1 1ju,1uqq 1 1k0,1uqr 1 1k0,1uqs 1 1k0,1uqt 1 1k0,1uqu 1 1jq,1uqv 1 1jq,1ur0 1 1jq",
  "1ur1 1 1jq,1ur2 1 1jv,1ur3 1 1jv,1ur4 1 1jv,1ur5 1 1jv,1ur6 1 1jp,1ur7 1 1jp,1ur8 1 1jp",
  "1ur9 1 1jp,1ura 1 1l4,1urb 1 1l4,1urc 1 1l4,1urd 1 1l4,1ure 1 1l6,1urf 1 1l6,1urg 1 1l6",
  "1urh 1 1l6,1uri 1 1k4,1urj 1 1k4,1urk 1 1k4,1url 1 1k4,1urm 1 1k3,1urn 1 1k3,1uro 1 1k3",
  "1urp 1 1k3,1urq 1 1k6,1urr 1 1k6,1urs 1 1k6,1urt 2 1k6,1urv 1 1k7,1us0 1 1k7,1us1 1 1k7",
  "1us2 1 1kd,1us3 1 1kd,1us4 1 1kc,1us5 1 1kc,1us6 1 1ke,1us7 1 1ke,1us8 1 1k8,1us9 1 1k8",
  "1usa 1 1ko,1usb 1 1ko,1usc 1 1kh,1usd 1 1kh,1use 1 1l9,1usf 1 1l9,1usg 1 1l9,1ush 1 1l9",
  "1usi 1 1lf,1usj 1 1lf,1usk 1 1lf,1usl 1 1lf,1usm 1 1lj,1usn 1 1lj,1uso 1 1lj,1usp 1 1lj",
  "1usq 1 1lh,1usr 1 1lh,1uss 1 1lh,1ust 1 1lh,1usu 1 1lq,1usv 2 1lq,1ut1 1 1lr,1ut2 1 1lr",
  "1ut3 1 1lr,1ut4 1 1ml 1ik,1ut5 1 1ml 1ik,1ut6 1 1m1,1ut7 1 1m1,1ut8 1 1m1,1ut9 1 1m1",
  "1uta 1 1lu,1utb 1 1lu,1utc 1 1lu,1utd 1 1lu,1ute 1 1mi,1utf 1 1mi,1utg 1 1mi 1ik",
  "1uth 1 1mi 1ik,1uuj 1 1ld,1uuk 1 1ld,1uul 1 1ld,1uum 1 1ld,1uun 1 1m7,1uuo 1 1m7,1uup 1 1m6",
  "1uuq 1 1m6,1uur 1 1m8,1uus 1 1m8,1uut 1 1m7 1jk,1uuu 1 1mb,1uuv 1 1mb,1uv0 1 1m5,1uv1 1 1m5",
  "1uv2 1 1m9,1uv3 1 1m9,1uv4 1 1mg,1uv5 1 1mg,1uv6 1 1mg,1uv7 1 1mg,1uv8 1 1i9,1uv9 1 1i9",
  "1uva 1 1ia 1ik 1h7,1uvb 1 1ia 1ik 1h7,1uvc 1 1ia 1ik 1ml,1uvd 1 1ia 1ik 1ml",
  "1uve 1 1ia 1ik 1i8,1uvf 1 1ia 1ik 1i8,1uvg 1 1ia 1ik 1m7,1uvh 1 1ia 1ik 1m7",
  "1uvi 1 1ia 1ik 1m6,1uvj 1 1ia 1ik 1m6,1uvk 1 1ia 1ik 1m8,1uvl 1 1ia 1ik 1m8",
  "1uvm 1 1ia 1ik 1mg,1uvn 1 1ia 1ik 1mg,1uvo 1 1ia 1ik 1mg,1uvp 1 1ia 1ik 1i9",
  "1uvq 1 1ia 1ik 1i9,1uvr 1 1ia 1ik 1i9,1uvs 1 1mc,1uvt 1 1mc,1uvu 1 1mc,1uvv 1 1mc",
  "1v00 1 1ia 1ik 1hc,1v01 1 1ia 1ik 1hd,1v02 1 1ia 1ik 1i5,1v03 1 1ia 1ik 1i9",
  "1v04 1 1ia 1ik 1ia,1v05 1 1h8 1hc,1v06 1 1h8 1hd,1v07 1 1h8 1he,1v08 1 1h8 1i5",
  "1v09 1 1h8 1i9,1v0a 1 1h8 1ia,1v0b 1 1ha 1hc,1v0c 1 1ha 1hd,1v0d 1 1ha 1he,1v0e 1 1ha 1i5",
  "1v0f 1 1ha 1i9,1v0g 1 1ha 1ia,1v0h 1 1hb 1hc,1v0i 1 1hb 1i5,1v0j 1 1hb 1i9,1v0k 1 1hb 1ia",
  "1v0l 1 1hc 1hd,1v0m 1 1hc 1i5,1v0n 1 1hd 1hc,1v0o 1 1hd 1i5,1v0p 1 1he 1hc,1v0q 1 1he 1hd",
  "1v0r 1 1he 1i5,1v0s 1 1hj 1hc,1v0t 1 1hj 1hd,1v0u 1 1hj 1he,1v0v 1 1hj 1i5,1v10 1 1hl 1hd",
  "1v11 1 1hl 1i5,1v12 1 1hm 1hc,1v13 1 1hm 1hd,1v14 1 1hm 1he,1v15 1 1hm 1i5,1v16 1 1hn 1hd",
  "1v17 1 1hn 1i5,1v18 1 1ho 1i5,1v19 1 1hp 1hc,1v1a 1 1hp 1i5,1v1b 1 1hq 1hc,1v1c 1 1hq 1i5",
  "1v1d 1 1i1 1hc,1v1e 1 1i1 1hd,1v1f 1 1i1 1he,1v1g 1 1i1 1i5,1v1h 1 1i1 1i9,1v1i 1 1i1 1ia",
  "1v1j 1 1i2 1hd,1v1k 1 1i2 1i5,1v1l 1 1i2 1i9,1v1m 1 1i2 1ia,1v1n 1 1i3 1h7,1v1o 1 1i3 1hc",
  "1v1p 1 1i3 1hd,1v1q 1 1i3 1he,1v1r 1 1i3 1i4,1v1s 1 1i3 1i5,1v1t 1 1i3 1i9,1v1u 1 1i3 1ia",
  "1v1v 1 1i4 1hc,1v20 1 1i4 1hd,1v21 1 1i4 1he,1v22 1 1i4 1i5,1v23 1 1i4 1i9,1v24 1 1i4 1ia",
  "1v25 1 1i5 1hc,1v26 1 1i5 1hd,1v27 1 1i5 1he,1v28 1 1i5 1i5,1v29 1 1i5 1i9,1v2a 1 1i5 1ia",
  "1v2b 1 1i6 1hc,1v2c 1 1i6 1hd,1v2d 1 1i6 1he,1v2e 1 1i6 1i5,1v2f 1 1i6 1i9,1v2g 1 1i6 1ia",
  "1v2h 1 1i7 1hc,1v2i 1 1i7 1i5,1v2j 1 1i7 1i9,1v2k 1 1i7 1ia,1v2l 1 1ia 1hc,1v2m 1 1ia 1hd",
  "1v2n 1 1ia 1he,1v2o 1 1ia 1i5,1v2p 1 1ia 1i9,1v2q 1 1ia 1ia,1v2r 1 1hg 1jg,1v2s 1 1hh 1jg",
  "1v2t 1 1i9 1jg,1v34 1 1ia 1ik 1hh,1v35 1 1ia 1ik 1hi,1v36 1 1ia 1ik 1i5,1v37 1 1ia 1ik 1i6",
  "1v38 1 1ia 1ik 1i9,1v39 1 1ia 1ik 1ia,1v3a 1 1h8 1hh,1v3b 1 1h8 1hi,1v3c 1 1h8 1i5",
  "1v3d 1 1h8 1i6,1v3e 1 1h8 1i9,1v3f 1 1h8 1ia,1v3g 1 1ha 1hh,1v3h 1 1ha 1hi,1v3i 1 1ha 1i5",
  "1v3j 1 1ha 1i6,1v3k 1 1ha 1i9,1v3l 1 1ha 1ia,1v3m 1 1hb 1hh,1v3n 1 1hb 1hi,1v3o 1 1hb 1i5",
  "1v3p 1 1hb 1i6,1v3q 1 1hb 1i9,1v3r 1 1hb 1ia,1v3s 1 1i1 1i9,1v3t 1 1i1 1ia,1v3u 1 1i2 1i9",
  "1v3v 1 1i2 1ia,1v40 1 1i3 1h7,1v41 1 1i3 1i4,1v42 1 1i3 1i5,1v43 1 1i3 1i9,1v44 1 1i3 1ia",
  "1v45 1 1i4 1i5,1v46 1 1i4 1i9,1v47 1 1i4 1ia,1v48 1 1i5 1h7,1v49 1 1i5 1i5,1v4a 1 1i6 1hh",
  "1v4b 1 1i6 1hi,1v4c 1 1i6 1i5,1v4d 1 1i6 1i6,1v4e 1 1i6 1i9,1v4f 1 1i6 1ia,1v4g 1 1i9 1jg",
  "1v4h 1 1ia 1hh,1v4i 1 1ia 1hi,1v4j 1 1ia 1i5,1v4k 1 1ia 1i6,1v4l 1 1ia 1i9,1v4m 1 1ia 1ia",
  "1v4n 1 1ia 1ik 1hc,1v4o 1 1ia 1ik 1hd,1v4p 1 1ia 1ik 1he,1v4q 1 1ia 1ik 1i5",
  "1v4r 1 1ia 1ik 1i7,1v4s 1 1h8 1hc,1v4t 1 1h8 1hd,1v4u 1 1h8 1he,1v4v 1 1h8 1i5",
  "1v50 1 1h8 1i7,1v51 1 1ha 1hc,1v52 1 1ha 1hd,1v53 1 1ha 1he,1v54 1 1ha 1i5,1v55 1 1ha 1i7",
  "1v56 1 1hb 1i5,1v57 1 1hc 1hd,1v58 1 1hc 1i5,1v59 1 1hd 1hc,1v5a 1 1hd 1i5,1v5b 1 1he 1hc",
  "1v5c 1 1he 1i5,1v5d 1 1hj 1hc,1v5e 1 1hj 1hd,1v5f 1 1hj 1he,1v5g 1 1hj 1i5,1v5h 1 1hl 1hd",
  "1v5i 1 1hl 1he,1v5j 1 1hl 1i5,1v5k 1 1hm 1hc,1v5l 1 1hm 1hd,1v5m 1 1hm 1he,1v5n 1 1hm 1i5",
  "1v5o 1 1hn 1hd,1v5p 1 1ho 1i5,1v5q 1 1hp 1hc,1v5r 1 1hp 1i5,1v5s 1 1hq 1hc,1v5t 1 1hq 1i5",
  "1v5u 1 1i1 1hc,1v5v 1 1i1 1hd,1v60 1 1i1 1he,1v61 1 1i1 1i5,1v62 1 1i2 1hd,1v63 1 1i2 1i5",
  "1v64 1 1i3 1hc,1v65 1 1i3 1hd,1v66 1 1i3 1he,1v67 1 1i3 1i4,1v68 1 1i3 1i5,1v69 1 1i4 1hc",
  "1v6a 1 1i4 1hd,1v6b 1 1i4 1he,1v6c 1 1i4 1i5,1v6d 1 1i4 1i7,1v6e 1 1i5 1hc,1v6f 1 1i5 1hd",
  "1v6g 1 1i5 1he,1v6h 1 1i5 1i5,1v6i 1 1i6 1hc,1v6j 1 1i6 1hd,1v6k 1 1i6 1he,1v6l 1 1i6 1i5",
  "1v6m 1 1i6 1i7,1v6n 1 1i7 1hc,1v6o 1 1i7 1i5,1v6p 1 1i7 1jg,1v6q 1 1ia 1hc,1v6r 1 1ia 1hd",
  "1v6s 1 1ia 1he,1v6t 1 1ia 1i5,1v6u 1 1ia 1i7,1v6v 1 1ia 1ik 1i5,1v70 1 1ia 1ik 1i7",
  "1v71 1 1h8 1i5,1v72 1 1h8 1i7,1v73 1 1ha 1i5,1v74 1 1ha 1i7,1v75 1 1hb 1i5,1v76 1 1hb 1i7",
  "1v77 1 1hj 1i5,1v78 1 1hj 1i7,1v79 1 1hk 1i5,1v7a 1 1hk 1i7,1v7b 1 1i3 1i4,1v7c 1 1i3 1i5",
  "1v7d 1 1i4 1i5,1v7e 1 1i6 1i5,1v7f 1 1i6 1i7,1v7g 1 1ia 1i5,1v7h 1 1ia 1i7",
  "1v7i 1 1i0 1ie 1ih,1v7j 1 1i0 1if 1ih,1v7k 1 1i0 1ig 1ih,1v7l 1 1hn 1i9,1v7m 1 1hn 1ia",
  "1v7n 1 1hp 1i9,1v7o 1 1hp 1ia,1v7p 1 1hq 1i9,1v7q 1 1hq 1ia,1v7r 1 1hj 1i9,1v7s 1 1hj 1ia",
  "1v7t 1 1hk 1i9,1v7u 1 1hk 1ia,1v7v 1 1hd 1i9,1v80 1 1hd 1ia,1v81 1 1hc 1i9,1v82 1 1hc 1ia",
  "1v83 1 1he 1i9,1v84 1 1he 1ia,1v85 1 1hl 1i9,1v86 1 1hl 1ia,1v87 1 1hm 1i9,1v88 1 1hm 1ia",
  "1v89 1 1hk 1hc,1v8a 1 1hk 1hd,1v8b 1 1hk 1he,1v8c 1 1hk 1i5,1v8d 1 1hk 1hh,1v8e 1 1hj 1hh",
  "1v8f 1 1hl 1hh,1v8g 1 1hm 1hh,1v8h 1 1hn 1i9,1v8i 1 1hn 1ia,1v8j 1 1hp 1i9,1v8k 1 1hp 1ia",
  "1v8l 1 1hq 1i9,1v8m 1 1hq 1ia,1v8n 1 1hj 1i9,1v8o 1 1hj 1ia,1v8p 1 1hk 1i9,1v8q 1 1hk 1ia",
  "1v8r 1 1hd 1i9,1v8s 1 1hd 1ia,1v8t 1 1hc 1i9,1v8u 1 1hc 1ia,1v8v 1 1he 1i9,1v90 1 1he 1ia",
  "1v91 1 1hl 1i9,1v92 1 1hl 1ia,1v93 1 1hm 1i9,1v94 1 1hm 1ia,1v95 1 1hk 1hc,1v96 1 1hk 1hd",
  "1v97 1 1hk 1he,1v98 1 1hk 1i5,1v99 1 1hk 1hh,1v9a 1 1hj 1hh,1v9b 1 1hl 1hh,1v9c 1 1hm 1hh",
  "1v9d 1 1hk 1hc,1v9e 1 1hk 1hd,1v9f 1 1hk 1he,1v9g 1 1hk 1i5,1v9h 1 1hj 1i7,1v9i 1 1hk 1i7",
  "1v9j 1 1hn 1i5,1v9k 1 1hj 1hc,1v9l 1 1hj 1hd,1v9m 1 1hj 1he,1v9n 1 1hk 1hc,1v9o 1 1hk 1hd",
  "1v9p 1 1hk 1he,1v9q 1 1hn 1i5,1v9r 1 1ho 1i5,1v9s 1 1h7 1ib,1v9t 1 1h7 1ib",
  "1vag 1 1ha 1hc 1i5,1vah 1 1ha 1hd 1hc,1vai 1 1ha 1hd 1hc,1vaj 1 1ha 1hd 1i5",
  "1vak 1 1ha 1he 1i5,1val 1 1ha 1i5 1hc,1vam 1 1ha 1i5 1hd,1van 1 1ha 1i5 1he",
  "1vao 1 1hc 1i5 1hd,1vap 1 1hc 1i5 1hd,1vaq 1 1hd 1i5 1ia,1var 1 1hd 1i5 1i9",
  "1vas 1 1hj 1hd 1hc,1vat 1 1hj 1hc 1hd,1vau 1 1hj 1hc 1i9,1vav 1 1hj 1i5 1hd",
  "1vb0 1 1hj 1i5 1hd,1vb1 1 1hj 1i5 1hc,1vb2 1 1hj 1i5 1i5,1vb3 1 1hj 1i5 1i5",
  "1vb4 1 1hl 1hd 1hd,1vb5 1 1hl 1hd 1hd,1vb6 1 1hl 1i5 1i5,1vb7 1 1hk 1hd 1i5",
  "1vb8 1 1hk 1hd 1i5,1vb9 1 1hk 1hc 1ia,1vba 1 1hk 1i5 1he,1vbb 1 1hk 1i5 1he",
  "1vbc 1 1hk 1i5 1i5,1vbd 1 1hk 1i5 1i5,1vbe 1 1hm 1hd 1i9,1vbf 1 1hm 1he 1i5",
  "1vbg 1 1hm 1he 1i5,1vbh 1 1hn 1i5 1hd,1vbi 1 1hn 1i5 1hd,1vbj 1 1hn 1i5 1i5",
  "1vbk 1 1hn 1i5 1ia,1vbl 1 1hp 1hc 1i5,1vbm 1 1hp 1i5 1i5,1vbn 1 1hp 1i5 1i5",
  "1vbo 1 1hp 1i5 1i9,1vbp 1 1hq 1i5 1i5,1vbq 1 1hq 1i5 1ia,1vbr 1 1hq 1i5 1i9",
  "1vbs 1 1i1 1he 1i5,1vbt 1 1i1 1he 1i5,1vbu 1 1i2 1i5 1hd,1vbv 1 1i2 1i5 1i5",
  "1vc0 1 1i4 1hd 1i5,1vc1 1 1i4 1hd 1ia,1vc2 1 1i4 1hd 1i9,1vc3 1 1i4 1hc 1hc",
  "1vc4 1 1i4 1hc 1hc,1vc5 1 1i4 1he 1i5,1vc6 1 1i4 1he 1i5,1vc7 1 1i4 1i5 1hd",
  "1vc8 1 1i4 1i5 1hd,1vc9 1 1i5 1hd 1hc,1vca 1 1i5 1hd 1i5,1vcb 1 1i5 1hd 1ia",
  "1vcc 1 1i5 1hc 1hd,1vcd 1 1i5 1hc 1i5,1vce 1 1i5 1he 1hc,1vcf 1 1i5 1he 1i5",
  "1vci 1 1i5 1hc 1he,1vcj 1 1i7 1i5 1hc,1vck 1 1i7 1i5 1i5,1vcl 1 1i6 1hd 1i5",
  "1vcm 1 1i6 1hd 1i9,1vcn 1 1i6 1hc 1i5,1vco 1 1i6 1hc 1i5,1vcp 1 1i6 1hc 1i9",
  "1vcq 1 1i6 1i5 1ia,1vcr 1 1i6 1i5 1i9,1vcs 1 1ia 1i5 1i5,1vct 1 1ia 1i5 1i5",
  "1vcu 1 1h8 1he 1ia,1vcv 1 1ha 1hc 1ia,1vd0 1 1ha 1hc 1i9,1vd1 1 1ha 1he 1ia",
  "1vd2 1 1ha 1he 1i9,1vd3 1 1ha 1i5 1ia,1vd4 1 1ha 1i5 1i9,1vd5 1 1hc 1i5 1ia",
  "1vd6 1 1hc 1hd 1i9,1vd7 1 1hc 1i5 1i9,1vd8 1 1hj 1he 1i9,1vd9 1 1hl 1hd 1ia",
  "1vda 1 1hk 1hd 1ia,1vdb 1 1hm 1hd 1ia,1vdc 1 1i4 1hc 1ia,1vdd 1 1i4 1i5 1ia",
  "1vde 1 1ia 1hd 1ia,1vdf 1 1ia 1hc 1ia,1vdg 1 1ia 1i5 1ia,1vdh 1 1i5 1i5 1ia",
  "1vdi 1 1i2 1i5 1ia,1vdj 1 1i6 1hd 1ia,1vdk 1 1i2 1i5 1hd,1vdl 1 1i4 1hd 1i5",
  "1vdm 1 1hp 1i5 1ia,1vdn 1 1i3 1i5 1ia,1vdo 1 1i6 1hc 1hd,1vdp 1 1i5 1he 1ia",
  "1vdq 1 1i4 1hc 1i5,1vdr 1 1i3 1i5 1i5,1vds 1 1i4 1hc 1i5,1vdt 1 1i6 1hc 1hd",
  "1vdu 1 1hc 1hd 1ia,1vdv 1 1hd 1hc 1ia,1ve0 1 1i5 1hc 1ia,1ve1 1 1i1 1i5 1ia",
  "1ve2 1 1h8 1hd 1ia,1ve3 1 1i3 1i5 1i5,1ve4 1 1hp 1hc 1i5,1ve5 1 1hl 1i5 1i5",
  "1ve6 1 1hj 1he 1ia,1ve7 1 1i6 1hc 1ia,1vfg 1 1hl 1i4 1mi,1vfh 1 1i2 1i4 1mi",
  "1vfi 1 1h7 1i4 1i4 1i7,1vfj 1 1h7 1i3 1h8 1hh,1vfk 1 1i5 1hd 1i5 1hf,1vfl 1 1hl 1i4 1hp 1i5",
  "1vfm 1 1hh 1hj 1i8 1i4,1vfn 1 1hp 1i4 1ia 1i7,1vfo 1 1i8 1hj 1i4 1i5,1vfp 1 1hl 1i4 1i9",
  "1vhj 1 2v,1vhk 1 2v,1vid 1 2v,1vie 1 2v,1vif 1 2v,1vjh 1 1i0 1ib,1vjn 1 1i0 1ie",
  "1vjp 1 1i0 1if,1vjr 1 1i0 1ig,1vjt 1 1i0 1ih,1vjv 1 1i0 1ii,1vk0 1 1h1,1vk1 1 1h7 1ij",
  "1vk2 1 1h7 1ij,1vk3 1 1h7 1ik,1vk4 1 1h7 1ik,1vk5 1 1i8 1ik,1vk6 1 1i8 1ik,1vk7 1 1h7 1il",
  "1vk8 1 1h7 1il,1vk9 1 1ia 1ik,1vka 1 1ia 1ik,1vkb 1 1ia 1ik,1vkc 1 1ia 1ik,1vkd 1 1h7",
  "1vke 2 1h7,1vkg 1 1h8,1vkh 1 1h8,1vki 2 1h8,1vkk 2 1h9,1vkm 1 1ha,1vkn 1 1ha,1vko 2 1ha",
  "1vkq 1 1hb,1vkr 1 1hb,1vks 2 1hb,1vku 1 1hc,1vkv 1 1hc,1vl0 2 1hc,1vl2 1 1hd,1vl3 1 1hd",
  "1vl4 2 1hd,1vl6 1 1he,1vl7 1 1he,1vl8 2 1he,1vla 2 1hf,1vlc 2 1hg,1vle 2 1hh,1vlg 2 1hi",
  "1vli 1 1hj,1vlj 1 1hj,1vlk 2 1hj,1vlm 1 1hk,1vln 1 1hk,1vlo 2 1hk,1vlq 1 1hl,1vlr 1 1hl",
  "1vls 2 1hl,1vlu 1 1hm,1vlv 1 1hm,1vm0 2 1hm,1vm2 1 1hn,1vm3 1 1hn,1vm4 2 1hn,1vm6 1 1ho",
  "1vm7 1 1ho,1vm8 2 1ho,1vma 1 1hp,1vmb 1 1hp,1vmc 2 1hp,1vme 1 1hq,1vmf 1 1hq,1vmg 1 1hq",
  "1vmh 1 1i1,1vmi 1 1i1,1vmj 1 1i1,1vmk 2 1i1,1vmm 1 1i2,1vmn 1 1i2,1vmo 2 1i2,1vmq 1 1i3",
  "1vmr 1 1i3,1vms 2 1i3,1vmu 1 1i4,1vmv 1 1i4,1vn0 2 1i4,1vn2 1 1i5,1vn3 1 1i5,1vn4 2 1i5",
  "1vn6 1 1i6,1vn7 1 1i6,1vn8 2 1i6,1vna 1 1i7,1vnb 1 1i7,1vnc 2 1i7,1vne 2 1i8,1vng 2 1i9",
  "1vni 1 1ia,1vnj 1 1ia,1vnk 1 1ia,1vnl 1 1i4 1h7 1ij,1vnm 1 1i4 1h7 1ij,1vnn 1 1i4 1h7 1ik",
  "1vno 1 1i4 1h7 1ik,1vnp 1 1i4 1h7 1il,1vnq 1 1i4 1h7 1il,1vnr 1 1i4 1h7,1vns 1 1i4 1h7",
  "1vog a 1g,1vp1 q 21,1vpv 1 2v,1vq1 q 31,1vr6 1 c7i,1vr7 1 c51,1vr8 1 c53,1vr9 1 c55",
  "1vra 1 c57,1vrb 1 c59,1vrc 1 c73,1vrd 1 c75,1vre 1 c77,1vrf 1 c63,1vrg 1 c7s,1vrh 1 c52",
  "1vri 1 c54,1vrj 1 c56,1vrk 1 c58,1vrl 2 c5a,1vrn 1 c5d,1vro 1 c5f,1vrp 1 c5h,1vrq 1 c5j",
  "1vrr 1 c5l,1vrs 1 c5n,1vrt 1 c5p,1vru 1 c5r,1vrv 1 c5t,1vs0 1 c5v,1vs1 1 c61,1vs2 1 c64",
  "1vs3 1 c66,1vs4 1 c68,1vs5 6 c6a,1vsb 1 c6i,1vsc 1 c6l,1vsd 1 c6o,1vse 1 c6r,1vsf 5 c6u",
  "1vsk 1 c74,1vsl 1 c76,1vsm 6 c78,1vss 1 c7f,1vst 1 c7j,1vsu 2 c4p,1vt0 1 4b0,1vt1 2 480",
  "1vt3 1 4da,1vt4 1 482,1vt5 2 4dc,1vt7 3 483,1vta 6 4dg,1vtg 1 48q,1vth 3 486,1vtk 1 491",
  "1vtl a 489,1vu2 6 4b1,1vua 6 4b7,1vui 6 4bd,1vuq 3 4bj,21s1 2 mg,21s3 1 76,21s4 1 kp",
  "21s5 1 ij,21s7 1 l3,21s8 1 1ar6,21s9 1 l5,21sa 1 l4,21sb 2 im,21sd 1 7ch,21se 1 io,21sf 1 iu",
  "21sg 1 l9,21sh 1 j4,21si 1 j2,21sj 1 j0,21sk 1 kr,21sl 1 97,21sm 1 ks,21sn 1 j7,21so 1 k4",
  "21sp 2 la,21sr 1 jc,21ss 1 3no4,21st 1 19se,21su 1 je,21sv 1 3no5,21t0 1 ke,21t1 1 3no6",
  "21t2 1 7o,21t3 2 jm,21t5 1 3h,21t6 1 jq,21t7 1 3no8,21t8 2 jt,21ta 1 k0,21tb 1 l8,21tc 1 l6",
  "21td 1 1ar7,21te 1 l7,21tf 1 k8,21tg 1 b3h,21ti 1 kf,21tj 2 l1,21tl 1 ko,21tm 3 e0",
  "21tp 1 3noa,21tq 1 3nou,244q 1 244p 245q,244s 1 244r 245q,245b 1 2455 245q,249e 1 249h 2497",
  "249f 1 249i 2497,24qb 1 24q7 24pu,24qc 1 24q7 24qn,255r 1 255p 255q,255s 1 255p 255g",
  "255u 1 255p 255t,25dq 1 25do 25df,25dr 1 25dp 25df,269o 1 269l 269g,3l00 q 21,3l0q q 31",
  "3l1k q 21,3l2e 7 31,3l2m i 39,3l38 q 21,3l42 q 31,3l4s 1 21,3l4u 2 23,3l52 1 27,3l55 2 2a",
  "3l59 4 2e,3l5e 8 2j,3l5m 4 31,3l5r 1 36,3l5t 7 38,3l65 b 3g,3l6g q 21,3l7a q 31,3l84 2 21",
  "3l87 4 24,3l8d 8 2a,3l8m 7 2j,3l8u q 31,3l9o 2 21,3l9r 4 24,3la0 5 29,3la6 1 2f,3laa 7 2j",
  "3lai q 31,3lbc q 21,3lc6 q 31,3ld0 q 21,3ldq q 31,3lek q 21,3lfe q 31,3lg8 q 21,3lh2 q 31",
  "3lhs q 21,3lim q 31,3ljg q 21,3lka q 31,3ll4 1 9h,3ll5 1 hn,3ll8 h sh,3llp 1 so,3llq 7 t3",
  "3lm2 p th,3lms 1 tl,3lmt 1 to,3lmu 1 tq,3lmv 1 u6,3ln0 1 u1,3ln1 1 u0,3ln2 h sh,3lnj 1 so",
  "3lnk 7 t3,3lns p th,3lom 1 tl,3lon 1 to,3loo 1 tq,3lop 1 u6,3loq 1 u1,3lor 1 u0,3los h sh",
  "3lpd 1 so,3lpe 7 t3,3lpm p th,3lqg 1 tl,3lqh 1 to,3lqi 1 tq,3lqj 1 u6,3lqk 1 u1,3lql 1 u0",
  "3lqm h sh,3lr7 1 so,3lr8 7 t3,3lrg p th,3lsa 1 tl,3lsb 1 to,3lsc 1 tq,3lsd 1 u6,3lse 1 u1",
  "3lsf 1 u0,3lsg h sh,3lt1 1 so,3lt2 7 t3,3lta p th,3lu4 1 tl,3lu5 1 to,3lu6 1 tq,3lu7 1 u6",
  "3lu8 1 u1,3lu9 1 u0,3lua 2 us,3lue a 1g,3luo a 1g,3lv2 a 1g,3lvc a 1g,3lvm a 1g,3rg0 2 1h7",
  "3rg2 1 1hc,3rg3 1 1hf,3rg5 1 1i8,3rg6 1 1hi,3rg7 1 1hd,3rg8 1 1hn,3rg9 1 1ia,3rga 4 1i3",
  "3rge 1 1hj,3rgf 1 1hp,3rgg 1 1i1,3rgh 1 1hl,3rgi 1 1i2,3rgj 1 1hh,3rgk 1 1hk,3rgl 2 1ha",
  "3rgn 1 1he,3rgo 1 1hg,3rgp 1 1hm,3rgq 1 1ho,3rgr 1 1hq,3rgs 1 1je,3rgt 1 1lq,3rgu 1 1l1",
  "3rgv 1 1jf,3rh1 1 1h8,3rh2 1 1hc,3rh4 1 1i7,3rh7 1 1hd,3rh9 1 1ia,3rha 4 1i3,3rhe 1 1hj",
  "3rhf 1 1hp,3rhg 1 1i1,3rhh 1 1hl,3rhi 1 1i2,3rhk 1 1hk,3rhl 2 1ha,3rhn 1 1he,3rhp 1 1hm",
  "3rhr 1 1hq,3ri2 1 1hc,3ri7 1 1hd,3ri9 1 1ia,3rib 1 1i4,3rid 1 1i6,3rie 1 1hj,3rif 1 1hp",
  "3rih 1 1hl,3rii 1 1i2,3rik 1 1hk,3rin 1 1he,3rip 1 1hm,3rir 1 1hq,3rit 1 1lq,3riv 1 1jf",
  "3rj1 1 1h8,3rj2 1 1hc,3rj4 1 1i7,3rj7 1 1hd,3rj8 1 1hn,3rj9 1 1ia,3rja 1 1i3,3rjc 2 1i5",
  "3rje 1 1hj,3rjf 1 1hp,3rjg 1 1i1,3rjh 1 1hl,3rji 1 1i2,3rjk 1 1hk,3rjl 2 1ha,3rjn 1 1he",
  "3rjp 1 1hm,3rjq 1 1ho,3rjr 1 1hq,3rjs 1 1je,3rju 1 1l1,3rk0 2 1h7,3rk2 1 1hc,3rk3 1 1hf",
  "3rk4 2 1i7,3rk6 1 1hi,3rk7 1 1hd,3rk8 1 1hn,3rk9 1 1ia,3rkb 3 1i4,3rke 1 1hj,3rkf 1 1hp",
  "3rkg 1 1i1,3rkh 1 1hl,3rki 1 1i2,3rkj 1 1hh,3rkk 1 1hk,3rkl 2 1ha,3rkn 1 1he,3rko 1 1hg",
  "3rkp 1 1hm,3rkq 1 1ho,3rkr 1 1hq,3rl1 1 1h8,3rl2 1 1hc,3rl3 1 1hf,3rl5 1 1i8,3rl6 1 1hi",
  "3rl7 1 1hd,3rl8 1 1hn,3rl9 1 1ia,3rlb 3 1i4,3rle 1 1hj,3rlf 1 1hp,3rlg 1 1i1,3rlh 1 1hl",
  "3rli 1 1i2,3rlj 1 1hh,3rlk 1 1hk,3rll 2 1ha,3rln 1 1he,3rlo 1 1hg,3rlp 1 1hm,3rlq 1 1ho",
  "3rlr 1 1hq,3uvg a 1g,5u00 1 jht,5u01 1 jho,5u02 1 ji1,5u03 1 4092,5u04 1 jr0,5u05 1 jte",
  "5u06 1 jtr,5u07 1 k02,5u08 1 k3q,5u09 1 k4p,5u0a 1 k77,5u0b 1 k6f,5u0c 1 d4u,5u0d 1 41hq",
  "5u0e 1 kad,5u0f 1 kak,5u0g 1 kb4,5u0h 1 kbn,5u0i 1 418s,5u0j 1 d5p,5u0k 1 kb7,5u0l 1 kcd",
  "5u0m 1 41ab,5u0n 1 kcn,5u0o 1 kd4,5u0p 1 jmc,5u0q 1 kdc,5u0r 1 kdl,5u0s 1 54ev,5u0t 1 kfl",
  "5u0u 1 kg3,5u0v 1 d6v,5u10 1 khr,5u11 1 ki6,5u12 1 kji,5u13 1 kjn,5u14 1 d8l,5u15 1 km7",
  "5u16 1 km9,5u17 1 kn4,5u18 1 knq,5u19 2 ko5,5u1b 1 kon,5u1c 1 kq9,5u1d 1 kqh,5u1e 1 kqq",
  "5u1f 1 krj,5u1g 1 krt,5u1h 1 krv,5u1i 1 krv,5u1j 1 krv,5u1k 1 42hc,5u1l 1 s3g,5u1m 1 kua",
  "5u1n 1 kuv,5u1o 1 42r3,5u1p 1 kvb,5u1q 1 kvh,5u1r 1 l06,5u1s 1 l4u,5u1t 1 l1o,5u1u 1 l28",
  "5u1v 1 l38,5u20 1 l52,5u21 1 l7m,5u22 1 l8g,5u23 1 laj,5u24 1 lb3,5u25 1 lc4,5u26 1 lc4",
  "5u27 1 lcp,5u28 1 ldb,5u29 1 ldj,5u2a 1 le2,5u2b 1 lom,5u2c 1 lg6,5u2d 1 lon,5u2e 1 lih",
  "5u2f 1 ljk,5u2g 1 kg7,5u2h 1 m7e,5u2i 1 lue,5u2j 1 lvk,5u2k 1 m0d,5u2l 1 lsb,5u2m 1 m1i",
  "5u2n 1 m1h,5u2o 1 m5c,5u2p 1 4574,5u2q 1 m7i,5u2r 1 m7n,5u2s 1 m86,5u2t 1 m8q,5u2u 1 m92",
  "5u2v 1 mb2,5u30 1 45l8,5u31 1 45na,5u32 1 mfc,5u33 1 mgr,5u34 1 mh7,5u35 1 meo,5u36 1 mj6",
  "5u37 1 dne,5u38 1 dns,5u39 1 mo8,5u3a 1 mpu,5u3b 1 mpu,5u3c 1 46e8,5u3d 1 mu3,5u3e 1 muo",
  "5u3f 1 mv7,5u3g 1 mvj,5u3h 1 46oo,5u3i 1 mvv,5u3j 1 n06,5u3k 1 nqj,5u3l 1 n12,5u3m 1 ds1",
  "5u3n 1 n30,5u3o 1 n3e,5u3p 1 n60,5u3q 1 n4d,5u3r 1 47f4,5u3s 1 na3,5u3t 1 47f6,5u3u 1 nbe",
  "5u3v 1 nbb,5u40 1 nbs,5u41 2 nf1,5u43 1 e1f,5u44 1 nft,5u45 1 nh8,5u46 1 nht,5u47 1 nj9",
  "5u48 1 e32,5u49 1 48c3,5u4a 1 e3s,5u4b 1 nlg,5u4c 1 nlj,5u4d 1 nlm,5u4e 1 nma,5u4f 1 58si",
  "5u4g 1 nnu,5u4h 1 48ph,5u4i 1 48ph,5u4j 1 10g1,5u4k 1 np2,5u4l 1 np2,5u4m 1 e67,5u4n 1 4clo",
  "5u4o 1 4oeq,5u4p 1 nr2,5u4q 1 nrb,5u4r 1 e73,5u4s 1 nsq,5u4t 1 nud,5u4u 1 nun,5u4v 1 nvp",
  "5u50 1 o41,5u51 1 e9q,5u52 1 e8s,5u53 1 o4k,5u54 1 49mk,5u55 1 o67,5u56 1 oa8,5u57 1 oac",
  "5u58 1 oae,5u59 1 oac,5u5a 1 obq,5u5b 1 oce,5u5c 1 odi,5u5d 1 od4,5u5e 1 odf,5u5f 1 oeu",
  "5u5g 1 ofi,5u5h 1 ofm,5u5i 1 ogg,5u5j 1 ogr,5u5k 1 oit,5u5l 1 olh,5u5m 1 omk,5u5n 1 oqg",
  "5u5o 1 4aoc,5u5p 1 opt,5u5q 1 ons,5u5r 1 or8,5u5s 1 os3,5u5t 1 ov4,5u5u 1 4avh,5u5v 1 p12",
  "5u60 1 ou5,5u61 1 ot9,5u62 1 ehe,5u63 1 p39,5u64 1 p3u,5u65 1 p4t,5u66 1 p3n,5u67 1 ejc",
  "5u68 1 paf,5u69 1 pbc,5u6a 1 4c0a,5u6b 1 pf3,5u6c 1 pno,5u6d 1 pi9,5u6e 1 eop,5u6f 1 pkh",
  "5u6g 1 eo8,5u6h 1 en4,5u6i 1 kci,5u6j 1 kcl,5u6k 1 po0,5u6l 1 pks,5u6m 1 105d,5u6n 1 gup",
  "5u6o 1 pon,5u6p 1 por,5u6q 1 pp1,5u6r 1 pqu,5u6s 1 pqj,5u6t 1 4cu3,5u6u 1 eq9,5u6v 1 pvq",
  "5u70 1 ps5,5u71 1 q2i,5u72 1 q45,5u73 1 4d3d,5u74 1 q4e,5u75 1 q0v,5u76 1 q8k,5u77 1 est",
  "5u78 1 qa2,5u79 1 qd3,5u7a 1 qfa,5u7b 1 ql8,5u7c 1 4dl3,5u7d 1 qmr,5u7e 1 f0o,5u7f 1 qp1",
  "5u7g 1 4e57,5u7h 1 qqk,5u7i 1 f2e,5u7j 1 qri,5u7k 1 qsv,5u7l 2 qtq,5u7n 1 4ekd,5u7o 1 478b",
  "5u7p 1 4enq,5u7q 1 r2e,5u7r 1 4f5s,5u7s 1 r5v,5u7t 1 r6d,5u7u 1 r37,5u7v 1 r8m,5u80 1 r9u",
  "5u81 1 rbn,5u82 1 ra1,5u83 1 rb9,5u84 1 rbo,5u85 1 rc5,5u86 1 4f8u,5u87 1 r9k,5u88 1 rhf",
  "5u89 1 rje,5u8a 1 f9j,5u8b 1 rmb,5u8c 1 rm7,5u8d 1 4fmh,5u8e 1 rfp,5u8f 1 rre,5u8g 1 4fqu",
  "5u8h 1 4fse,5u8i 1 ru6,5u8j 1 s1p,5u8k 1 s0u,5u8l 1 s0r,5u8m 1 fcm,5u8n 1 s2a,5u8o 1 s3t",
  "5u8p 1 s3n,5u8q 1 s5d,5u8r 1 4195,5u8s 1 sa5,5u8t 1 4gj3,5u8u 1 scs,5u8v 1 4gtb,5u90 1 sh8",
  "5u91 1 shl,5u92 1 sig,5u93 1 4hg8,5u94 1 sk0,5u95 1 skl,5u96 1 4hpl,5u97 1 4i0k,5u98 1 srq",
  "5u99 1 ssb,5u9a 1 flc,5u9b 1 st5,5u9c 1 flo,5u9d 1 flo,5u9e 1 t27,5u9f 1 t2s,5u9g 1 t3h",
  "5u9h 1 t45,5u9i 1 t6a,5u9j 1 for,5u9k 1 t94,5u9l 1 4j1m,5u9m 1 t9u,5u9n 1 4j4i,5u9o 1 tbg",
  "5u9p 1 48cv,5u9q 1 tgg,5u9r 1 4jt1,5u9s 1 4jto,5u9t 1 4k24,5u9u 1 fvs,5u9v 1 g08,5ua0 1 tnk",
  "5ua1 1 4k7j,5ua2 1 4k7i,5ua3 1 4k8p,5ua4 1 4k9j,5ua5 2 tou,5ua7 1 tov,5ua8 1 tqa,5ua9 1 g1p",
  "5uaa 1 tsb,5uab 1 g26,5uac 1 g4m,5uad 1 4l0t,5uae 1 u2e,5uaf 1 u4c,5uag 1 u6c,5uah 1 g73",
  "5uai 1 4lh6,5uaj 1 uam,5uak 1 4lkq,5ual 1 4lm5,5uam 1 ucf,5uan 1 ufb,5uao 1 g9f,5uap 1 ui0",
  "5uaq 1 uia,5uar 1 uif,5uas 1 4mbs,5uat 1 4ml7,5uau 1 4ml7,5uav 1 une,5ub0 1 gg2,5ub1 1 4mtb",
  "5ub2 1 uu6,5ub3 1 uu9,5ub4 1 gh7,5ub5 1 4n40,5ub6 1 v6i,5ub7 1 gl0,5ub8 1 v78,5ub9 1 v73",
  "5uba 1 v80,5ubb 1 4ns6,5ubc 1 vb3,5ubd 1 go1,5ube 1 ve7,5ubf 1 vg2,5ubg 1 vi5,5ubh 1 gpk",
  "5ubi 1 4oh8,5ubj 1 4oi7,5ubk 1 gqp,5ubl 1 4omp,5ubm 1 vrq,5ubn 1 4opu,5ubo 1 vsl,5ubp 1 vvq",
  "5ubq 1 1005,5ubr 1 4p6q,5ubs 1 4p93,5ubt 1 1030,5ubu 1 4pd8,5ubv 1 103g,5uc0 1 4cqv",
  "5uc1 1 gul,5uc2 1 105i,5uc3 1 1083,5uc4 1 h0b,5uc5 1 109u,5uc6 1 mll,5uc7 1 4pt7,5uc8 1 4ptl",
  "5uc9 1 4csj,5uca 1 4css,5ucb 1 10g1,5ucc 1 10g4,5ucd 1 13su,5uce 1 h3b,5ucf 1 10kh",
  "5ucg 1 10kb,5uch 1 10kt,5uci 1 klj,5ucj 1 10lh,5uck 1 10lj,5ucl 1 10lt,5ucm 1 10n6",
  "5ucn 1 4qps,5uco 1 10n5,5ucp 1 10ot,5ucq 1 10r3,5ucr 1 10td,5ucs 1 10p3,5uct 1 10tt",
  "5ucu 1 10v7,5ucv 1 112n,5ud0 1 10qj,5ud1 1 10ua,5ud2 1 10uc,5ud3 1 10us,5ud4 1 4r1m",
  "5ud5 1 4rbb,5ud6 1 4r6l,5ud7 1 h9b,5ud8 1 117h,5ud9 1 117j,5uda 1 118m,5udb 1 4sua",
  "5udc 1 11b4,5udd 1 4rpc,5ude 1 hat,5udf 1 hb1,5udg 1 4rth,5udh 1 4s6i,5udi 1 hbb,5udj 1 11ig",
  "5udk 1 11is,5udl 1 11j7,5udm 1 11j9,5udn 1 11l9,5udo 1 11k8,5udp 1 11oe,5udq 1 11n2",
  "5udr 1 11rp,5uds 1 11p8,5udt 1 11rb,5udu 1 11s6,5udv 1 hen,5ue0 1 11v1,5ue1 1 1201",
  "5ue2 1 hfp,5ue3 1 1230,5ue4 1 1233,5ue5 1 4tj7,5ue6 1 126n,5ue7 1 126u,5ue8 1 hhl",
  "5ue9 1 127q,5uea 1 d5r,5ueb 1 4u5e,5uec 1 4ub6,5ued 1 hlu,5uee 1 hm7,5uef 1 12l0,5ueg 1 12nd",
  "5ueh 1 12sa,5uei 1 132l,5uej 1 4v58,5uek 1 135b,5uel 1 1361,5uem 1 138r,5uen 1 13bn",
  "5ueo 1 4vpf,5uep 1 4204,5ueq 1 13eb,5uer 1 13ds,5ues 1 13fg,5uet 1 426u,5ueu 1 13mk",
  "5uev 1 13po,5uf0 1 51ei,5uf1 1 51fd,5uf2 1 144k,5uf3 1 147h,5uf4 1 148h,5uf5 1 51pe",
  "5uf6 1 148r,5uf7 1 14ho,5uf8 2 14mn,5ufa 1 14js,5ufb 1 14vp,5ufc 1 150l,5ufd 1 52vq",
  "5ufe 1 15cb,5uff 1 icl,5ufg 1 15dn,5ufh 1 53bn,5ufi 1 if6,5ufj 1 15m3,5ufk 1 ndi,5ufl 1 15p3",
  "5ufm 1 54a5,5ufn 1 54gq,5ufo 1 ije,5ufp 1 ijm,5ufq 1 15v0,5ufr 1 550a,5ufs 1 ili,5uft 1 554m",
  "5ufu 1 160b,5ufv 1 160b,5ug0 1 1619,5ug1 1 55dm,5ug2 1 1672,5ug3 1 ipj,5ug4 1 1699",
  "5ug5 1 16d7,5ug6 1 16e2,5ug7 1 16fu,5ug8 1 iue,5ug9 1 56pg,5uga 1 16oi,5ugb 1 1720",
  "5ugc 1 177t,5ugd 1 j6e,5uge 1 j7d,5ugf 1 17b7,5ugg 1 586e,5ugh 1 j7o,5ugi 1 5885,5ugj 1 58ge",
  "5ugk 1 58kh,5ugl 1 17lr,5ugm 1 jam,5ugn 1 17np,5ugo 1 17nu,5ugp 1 17o5,5ugq 1 17of",
  "5ugr 1 17om,5ugs 1 17pr,5ugt 1 59g0"]

/-- Combining classes: a code point, how many code points from there on have the same class, and
    the class. -/
def combiningClasses : Array (List Nat) := readTable [
  "o0 l 76,ol 1 78,om 4 6s,oq 1 78,or 1 6o,os 5 6s,p1 2 6a,p3 4 6s,p7 2 6a,p9 b 6s,pk 5 1",
  "pp 4 6s,pt 8 76,q5 1 7g,q6 1 76,q7 3 6s,qa 3 76,qd 2 6s,qg 3 76,qj 4 6s,qn 1 76,qo 1 78",
  "qp 2 6s,qr 1 76,qs 1 79,qt 2 7a,qv 1 79,r0 2 7a,r2 1 79,r3 d 76,143 5 76,1ch 1 6s,1ci 4 76",
  "1cm 1 6s,1cn 3 76,1cq 1 6u,1cr 1 6s,1cs 6 76,1d2 6 6s,1d8 2 76,1da 1 6s,1db 2 76,1dd 1 6u",
  "1de 1 74,1df 1 76,1dg 1 a,1dh 1 b,1di 1 c,1dj 1 d,1dk 1 e,1dl 1 f,1dm 1 g,1dn 1 h,1do 1 i",
  "1dp 2 j,1dr 1 k,1ds 1 l,1dt 1 m,1dv 1 n,1e1 1 o,1e2 1 p,1e4 1 76,1e5 1 6s,1e7 1 i,1gg 8 76",
  "1go 1 u,1gp 1 v,1gq 1 10,1ib 1 r,1ic 1 s,1id 1 t,1ie 1 u,1if 1 v,1ig 1 10,1ih 1 11,1ii 1 12",
  "1ij 2 76,1il 2 6s,1in 5 76,1is 1 6s,1it 2 76,1iv 1 6s,1jg 1 13,1mm 7 76,1mv 4 76,1n3 1 6s",
  "1n4 1 76,1n7 2 76,1na 1 6s,1nb 2 76,1nd 1 6s,1oh 1 14,1pg 1 76,1ph 1 6s,1pi 2 76,1pk 1 6s",
  "1pl 2 76,1pn 3 6s,1pq 1 76,1pr 2 6s,1pt 1 76,1pu 1 6s,1pv 3 76,1q2 1 6s,1q3 1 76,1q4 1 6s",
  "1q5 1 76,1q6 1 6s,1q7 1 76,1q8 1 6s,1q9 2 76,1vb 7 76,1vi 1 6s,1vj 1 76,1vt 1 6s,20m 4 76",
  "20r 9 76,215 3 76,219 5 76,22p 3 6s,24o 1 76,24p 3 6s,24s 4 76,26a 5 76,26f 5 6s,26k e 76",
  "273 1 6s,274 2 76,276 1 6s,277 2 76,279 1 6s,27a 3 76,27d 3 6s,27g 1 r,27h 1 s,27i 1 t",
  "27j 3 76,27m 1 6s,27n 2 76,27p 2 6s,27r 5 76,29s 1 7,2ad 1 9,2ah 1 76,2ai 1 6s,2aj 2 76",
  "2ds 1 7,2ed 1 9,2fu 1 76,2hs 1 7,2id 1 9,2ls 1 7,2md 1 9,2ps 1 7,2qd 1 9,2ud 1 9,31s 1 7",
  "32d 1 9,32l 1 2k,32m 1 2r,35s 1 7,36d 1 9,39r 2 9,3ad 1 9,3ea 1 9,3ho 2 37,3hq 1 9,3i8 4 3b",
  "3lo 2 3m,3lq 1 9,3m8 4 3q,3oo 2 6s,3pl 1 6s,3pn 1 6s,3pp 1 6o,3rh 1 41,3ri 1 42,3rk 1 44",
  "3rq 4 42,3s0 1 42,3s2 2 76,3s4 1 9,3s6 2 76,3u6 1 6s,41n 1 7,41p 2 9,44d 1 6s,4qt 3 76",
  "5ok 2 9,5pk 1 9,5ui 1 9,5ut 1 76,659 1 74,69p 1 6u,69q 1 76,69r 1 6s,6gn 1 76,6go 1 6s",
  "6j0 1 9,6jl 8 76,6jv 1 6s,6lg 5 76,6ll 6 6s,6lr 2 76,6lt 1 6s,6lv 2 6s,6m1 2 76,6m3 2 6s",
  "6m5 5 76,6ma 1 6s,6mb 4 76,6pk 1 7,6q4 1 9,6rb 1 76,6rc 1 6s,6rd 7 76,6ta 2 9,6v6 1 7",
  "6vi 2 9,71n 1 7,76g 3 76,76k 1 1,76l 5 6s,76q 2 76,76s 4 6s,770 1 76,772 7 1,77d 1 6s",
  "77k 1 76,77o 2 76,7e0 2 76,7e2 1 6s,7e3 7 76,7ea 1 6s,7eb 2 76,7ed 1 7a,7ee 1 6m,7ef 1 6s",
  "7eg 1 6a,7eh 15 76,7fm 1 78,7fn 2 74,7fp 1 6s,7fq 1 6q,7fr 1 76,7fs 1 79,7ft 1 6s,7fu 1 76",
  "7fv 1 6s,86g 2 76,86i 2 1,86k 4 76,86o 3 1,86r 2 76,871 1 76,875 2 1,877 1 76,878 1 6s",
  "879 1 76,87a 2 1,87c 4 6s,87g 1 76,b7f 3 76,bbv 1 9,bf0 10 76,c1a 1 6q,c1b 1 74,c1c 1 78",
  "c1d 1 6u,c1e 2 70,c4p 2 8,19jf 1 76,19jk a 76,19ku 2 76,19ng 2 76,1a06 1 9,1a1c 1 9,1a64 1 9",
  "1a70 i 76,1a9b 3 6s,1aaj 1 9,1adj 1 7,1ae0 1 9,1alg 1 76,1ali 2 76,1alk 1 6s,1aln 2 76",
  "1alu 2 76,1am1 1 76,1anm 1 9,1avd 1 9,1uou 1 q,1vh0 7 76,1vh7 7 6s,1vhe 2 76,20ft 1 6s",
  "20n0 1 6s,20rm 5 76,22gd 1 6s,22gf 1 76,22ho 1 76,22hp 1 1,22hq 1 6s,22hv 1 9,22n5 1 76",
  "22n6 1 6s,2394 4 76,23lb 2 76,23q6 2 6s,23q8 3 76,23qb 1 6s,23qc 1 76,23qd 4 6s,23s2 1 76",
  "23s3 1 6s,23s4 1 76,23s5 1 6s,2426 1 9,243g 1 9,243v 1 9,245p 1 9,245q 1 7,2480 3 76",
  "249j 2 9,24bj 1 7,24e0 1 9,24ea 1 7,24hl 1 9,24hm 1 7,24n9 1 7,24na 1 9,24pr 2 7,24qd 1 9",
  "24r6 7 76,24rg 5 76,2522 1 9,2526 1 7,252u 1 76,2562 1 9,2563 1 7,25dv 1 9,25e0 1 7,25hv 1 9",
  "25lm 1 9,25ln 1 7,25pb 1 9,261p 1 9,261q 1 7,269t 2 9,26a3 1 7,26f0 1 9,26hk 1 9,26i7 1 9",
  "26kp 1 9,271v 1 9,27a2 1 7,27a4 2 9,27cn 1 9,2qng 5 1,2qpg 7 76,2rvg 2 6,3f4u 1 1,3kb5 2 6o",
  "3kb7 3 1,3kbd 1 72,3kbe 5 6o,3kbr 8 6s,3kc5 5 76,3kca 2 6s,3kda 4 76,3ki2 3 76,3o00 7 76",
  "3o08 h 76,3o0r 7 76,3o13 2 76,3o16 5 76,3o9g 7 76,3ole 1 76,3onc 4 76,3q6g 7 6s,3qa4 6 76",
  "3qaa 1 7"]

/-- Compositions: a code point, and then pairs of a code point behind it and what the two compose
    to. -/
def compositions : Array (List Nat) := readTable [
  "1s po 8je,1t po 8j0,1u po 8jf",
  "21 o0 60 o1 61 o2 62 o3 63 o4 80 o6 82 o7 h6 o8 64 o9 7l2 oa 65 oc ed of g0 oh g2 p3 7l0 p5 7g0 p8 84",
  "22 o7 7g2 p3 7g4 ph 7g6,23 o1 86 o2 88 o7 8a oc 8c p7 67",
  "24 o7 7ga oc 8e p3 7gc p7 7gg pd 7gi ph 7ge",
  "25 o0 68 o1 69 o2 6a o3 7ls o4 8i o6 8k o7 8m o8 6b o9 7lq oc 8q of g4 oh g6 p3 7lo p7 h8 p8 8o pd 7go pg 7gq",
  "26 o7 7gu,27 o1 fk o2 8s o4 7h0 o6 8u o7 90 oc f6 p7 92",
  "28 o2 94 o7 7h2 o8 7h6 oc gu p3 7h4 p7 7h8 pe 7ha",
  "29 o0 6c o1 6d o2 6e o3 98 o4 9a o6 9c o7 9g o8 6f o9 7m8 oc ef of g8 oh ga p3 7ma p8 9e pg 7hc",
  "2a o2 9k,2b o1 7hg oc f8 p3 7hi p7 9m ph 7hk,2c o1 9p oc 9t p3 7hm p7 9r pd 7hs ph 7hq",
  "2d o1 7hu o7 7i0 p3 7i2,2e o0 fo o1 a3 o3 6h o7 7i4 oc a7 p3 7i6 p7 a5 pd 7ia ph 7i8",
  "2f o0 6i o1 6j o2 6k o3 6l o4 ac o6 ae o7 he o8 6m o9 7me ob ag oc eh of gc oh ge or d0 p3 7mc p8 fa",
  "2g o1 7ik o7 7im,2i o1 ak o7 7io oc ao of gg oh gi p3 7iq p7 am ph 7iu",
  "2j o1 aq o2 as o7 7j0 oc b0 p3 7j2 p6 go p7 au",
  "2k o7 7ja oc b4 p3 7jc p6 gq p7 b2 pd 7jg ph 7je",
  "2l o0 6p o1 6q o2 6r o3 b8 o4 ba o6 bc o8 6s o9 7n6 oa be ob bg oc ej of gk oh gm or df p3 7n4 p4 7ji p8 bi pd 7jm pg 7jk",
  "2m o3 7js p3 7ju,2n o0 7k0 o1 7k2 o2 bk o7 7k6 o8 7k4 p3 7k8,2o o7 7ka o8 7kc",
  "2p o0 7ni o1 6t o2 bm o3 7no o4 hi o7 7ke o8 bo o9 7nm p3 7nk",
  "2q o1 bp o2 7kg o7 br oc bt p3 7ki ph 7kk",
  "31 o0 70 o1 71 o2 72 o3 73 o4 81 o6 83 o7 h7 o8 74 o9 7l3 oa 75 oc ee of g1 oh g3 p3 7l1 p5 7g1 p8 85",
  "32 o7 7g3 p3 7g5 ph 7g7,33 o1 87 o2 89 o7 8b oc 8d p7 77",
  "34 o7 7gb oc 8f p3 7gd p7 7gh pd 7gj ph 7gf",
  "35 o0 78 o1 79 o2 7a o3 7lt o4 8j o6 8l o7 8n o8 7b o9 7lr oc 8r of g5 oh g7 p3 7lp p7 h9 p8 8p pd 7gp pg 7gr",
  "36 o7 7gv,37 o1 fl o2 8t o4 7h1 o6 8v o7 91 oc f7 p7 93",
  "38 o2 95 o7 7h3 o8 7h7 oc gv p3 7h5 p7 7h9 pe 7hb ph 7km",
  "39 o0 7c o1 7d o2 7e o3 99 o4 9b o6 9d o8 7f o9 7m9 oc eg of g9 oh gb p3 7mb p8 9f pg 7hd",
  "3a o2 9l oc fg,3b o1 7hh oc f9 p3 7hj p7 9n ph 7hl,3c o1 9q oc 9u p3 7hn p7 9s pd 7ht ph 7hr",
  "3d o1 7hv o7 7i1 p3 7i3,3e o0 fp o1 a4 o3 7h o7 7i5 oc a8 p3 7i7 p7 a6 pd 7ib ph 7i9",
  "3f o0 7i o1 7j o2 7k o3 7l o4 ad o6 af o7 hf o8 7m o9 7mf ob ah oc ei of gd oh gf or d1 p3 7md p8 fb",
  "3g o1 7il o7 7in,3i o1 al o7 7ip oc ap of gh oh gj p3 7ir p7 an ph 7iv",
  "3j o1 ar o2 at o7 7j1 oc b1 p3 7j3 p6 gp p7 av",
  "3k o7 7jb o8 7kn oc b5 p3 7jd p6 gr p7 b3 pd 7jh ph 7jf",
  "3l o0 7p o1 7q o2 7r o3 b9 o4 bb o6 bd o8 7s o9 7n7 oa bf ob bh oc ek of gl oh gn or dg p3 7n5 p4 7jj p8 bj pd 7jn pg 7jl",
  "3m o3 7jt p3 7jv,3n o0 7k1 o1 7k3 o2 bl o7 7k7 o8 7k5 oa 7ko p3 7k9,3o o7 7kb o8 7kd",
  "3p o0 7nj o1 7t o2 bn o3 7np o4 hj o7 7kf o8 7v o9 7nn oa 7kp p3 7nl",
  "3q o1 bq o2 7kh o7 bs oc bu p3 7kj ph 7kl,58 o0 7vd o1 s5 q2 7u1",
  "62 o0 7l6 o1 7l4 o3 7la o9 7l8,64 o4 eu,65 o1 fq,66 o1 fs o4 f2,67 o1 7g8",
  "6a o0 7m0 o1 7lu o3 7m4 o9 7m2,6f o1 7he,6k o0 7mi o1 7mg o3 7mm o9 7mk",
  "6l o1 7ic o4 hc o8 7ie,6m o4 ha,6o o1 fu,6s o0 er o1 en o4 el oc ep",
  "72 o0 7l7 o1 7l5 o3 7lb o9 7l9,74 o4 ev,75 o1 fr,76 o1 ft o4 f3,77 o1 7g9",
  "7a o0 7m1 o1 7lv o3 7m5 o9 7m3,7f o1 7hf,7k o0 7mj o1 7mh o3 7mn o9 7ml",
  "7l o1 7id o4 hd o8 7if,7m o4 hb,7o o1 fv,7s o0 es o1 eo o4 em oc eq",
  "82 o0 7lg o1 7le o3 7lk o9 7li,83 o0 7lh o1 7lf o3 7ll o9 7lj,8i o0 7gk o1 7gm",
  "8j o0 7gl o1 7gn,ac o0 7ig o1 7ii,ad o0 7ih o1 7ij,aq o7 7j4,ar o7 7j5,b0 o7 7j6,b1 o7 7j7",
  "b8 o1 7jo,b9 o1 7jp,ba o8 7jq,bb o8 7jr,bv o7 7kr,d0 o0 7ms o1 7mq o3 7n0 o9 7mu p3 7n2",
  "d1 o0 7mt o1 7mr o3 7n1 o9 7mv p3 7n3,df o0 7na o1 7n8 o3 7ne o9 7nc p3 7ng",
  "dg o0 7nb o1 7n9 o3 7nf o9 7nd p3 7nh,dn oc fe,fa o4 fc,fb o4 fd,h6 o4 f0,h7 o4 f1,h8 o6 7gs",
  "h9 o6 7gt,he o4 hg,hf o4 hh,ki oc ff,sh o0 7tq o1 s6 o4 7tp o6 7to oj 7o8 ok 7o9 q5 7ts",
  "sl o0 7u8 o1 s8 oj 7oo ok 7op,sn o0 7ua o1 s9 oj 7p8 ok 7p9 q5 7uc",
  "sp o0 7uq o1 sa o4 7up o6 7uo o8 ta oj 7po ok 7pp,sv o0 7vo o1 sc oj 7q8 ok 7q9,t1 ok 7vc",
  "t5 o0 7va o1 se o4 7v9 o6 7v8 o8 tb ok 7qp,t9 o0 7vq o1 sf oj 7r8 ok 7r9 q5 7vs,tc q5 7tk",
  "te q5 7u4,th o0 7rg o1 tc o4 7th o6 7tg oj 7o0 ok 7o1 q2 7tm q5 7tj",
  "tl o0 7ri o1 td oj 7og ok 7oh,tn o0 7rk o1 te oj 7p0 ok 7p1 q2 7u6 q5 7u3",
  "tp o0 7rm o1 tf o4 7uh o6 7ug o8 ua oj 7pg ok 7ph q2 7um,tv o0 7ro o1 uc oj 7q0 ok 7q1",
  "u1 oj 7v4 ok 7v5,u5 o0 7rq o1 ud o4 7v1 o6 7v0 o8 ub oj 7qg ok 7qh q2 7v6",
  "u9 o0 7rs o1 ue oj 7r0 ok 7r1 q2 7vm q5 7vj,ua o0 7ui o1 sg q2 7un,ub o0 7v2 o1 tg q2 7v7",
  "ue q5 7vk,ui o1 uj o8 uk,106 o8 107,10g o6 16g o8 16i,10j o1 103,10l o0 100 o6 16m o8 101",
  "10m o6 161 o8 16s,10n o8 16u,10o o0 10d o4 172 o6 10p o8 174,10q o1 10c,10u o8 176",
  "113 o4 17e o6 10e o8 17g ob 17i,117 o8 17k,11b o8 17o,11d o8 17c,11g o6 16h o8 16j",
  "11j o1 12j,11l o0 12g o6 16n o8 12h,11m o6 162 o8 16t,11n o8 16v",
  "11o o0 12t o4 173 o6 11p o8 175,11q o1 12s,11u o8 177,123 o4 17f o6 12u o8 17h ob 17j",
  "127 o8 17l,12b o8 17p,12d o8 17d,12m o8 12n,13k of 13m,13l of 13n,16o o8 16q,16p o8 16r",
  "178 o8 17a,179 o8 17b,1h7 1ij 1h2 1ik 1h3 1il 1h5,1i8 1ik 1h4,1ia 1ik 1h6,1m1 1ik 1m2",
  "1mi 1ik 1mj,1ml 1ik 1m0,298 29s 299,29g 29s 29h,29j 29s 29k,2e7 2du 2eb 2en 2ec",
  "2q7 2pu 2qb 2qm 2q8 2qn 2qc,2si 2un 2sk,2u6 2tu 2ua 2un 2uc,2u7 2tu 2ub,326 32m 328",
  "35v 36l 360,366 362 36a 36l 367 36m 368,36a 36l 36b,3a6 39u 3aa 3an 3ac,3a7 39u 3ab",
  "3ep 3ea 3eq 3ef 3es 3ev 3eu,3es 3ea 3et,415 41e 416,6o5 6pl 6o6,6o7 6pl 6o8,6o9 6pl 6oa",
  "6ob 6pl 6oc,6od 6pl 6oe,6oh 6pl 6oi,6pq 6pl 6pr,6ps 6pl 6pt,6pu 6pl 6q0,6pv 6pl 6q1",
  "6q2 6pl 6q3,7hm o4 7ho,7hn o4 7hp,7iq o4 7is,7ir o4 7it,7j2 o7 7j8,7j3 o7 7j9",
  "7l0 o2 7lc o6 7lm,7l1 o2 7ld o6 7ln,7lo o2 7m6,7lp o2 7m7,7mc o2 7mo,7md o2 7mp",
  "7o0 o0 7o2 o1 7o4 q2 7o6 q5 7s0,7o1 o0 7o3 o1 7o5 q2 7o7 q5 7s1,7o2 q5 7s2,7o3 q5 7s3",
  "7o4 q5 7s4,7o5 q5 7s5,7o6 q5 7s6,7o7 q5 7s7,7o8 o0 7oa o1 7oc q2 7oe q5 7s8",
  "7o9 o0 7ob o1 7od q2 7of q5 7s9,7oa q5 7sa,7ob q5 7sb,7oc q5 7sc,7od q5 7sd,7oe q5 7se",
  "7of q5 7sf,7og o0 7oi o1 7ok,7oh o0 7oj o1 7ol,7oo o0 7oq o1 7os,7op o0 7or o1 7ot",
  "7p0 o0 7p2 o1 7p4 q2 7p6 q5 7sg,7p1 o0 7p3 o1 7p5 q2 7p7 q5 7sh,7p2 q5 7si,7p3 q5 7sj",
  "7p4 q5 7sk,7p5 q5 7sl,7p6 q5 7sm,7p7 q5 7sn,7p8 o0 7pa o1 7pc q2 7pe q5 7so",
  "7p9 o0 7pb o1 7pd q2 7pf q5 7sp,7pa q5 7sq,7pb q5 7sr,7pc q5 7ss,7pd q5 7st,7pe q5 7su",
  "7pf q5 7sv,7pg o0 7pi o1 7pk q2 7pm,7ph o0 7pj o1 7pl q2 7pn,7po o0 7pq o1 7ps q2 7pu",
  "7pp o0 7pr o1 7pt q2 7pv,7q0 o0 7q2 o1 7q4,7q1 o0 7q3 o1 7q5,7q8 o0 7qa o1 7qc",
  "7q9 o0 7qb o1 7qd,7qg o0 7qi o1 7qk q2 7qm,7qh o0 7qj o1 7ql q2 7qn,7qp o0 7qr o1 7qt q2 7qv",
  "7r0 o0 7r2 o1 7r4 q2 7r6 q5 7t0,7r1 o0 7r3 o1 7r5 q2 7r7 q5 7t1,7r2 q5 7t2,7r3 q5 7t3",
  "7r4 q5 7t4,7r5 q5 7t5,7r6 q5 7t6,7r7 q5 7t7,7r8 o0 7ra o1 7rc q2 7re q5 7t8",
  "7r9 o0 7rb o1 7rd q2 7rf q5 7t9,7ra q5 7ta,7rb q5 7tb,7rc q5 7tc,7rd q5 7td,7re q5 7te",
  "7rf q5 7tf,7rg q5 7ti,7rk q5 7u2,7rs q5 7vi,7tm q5 7tn,7tv o0 7ud o1 7ue q2 7uf,7u6 q5 7u7",
  "7vm q5 7vn,7vu o0 7ut o1 7uu q2 7uv,8cg po 8cq,8ci po 8cr,8ck po 8de,8eg po 8ed,8ei po 8ef",
  "8ek po 8ee,8g3 po 8g4,8g8 po 8g9,8gb po 8gc,8h3 po 8h4,8h5 po 8h6,8hs po 8i1,8i3 po 8i4",
  "8i5 po 8i7,8i8 po 8i9,8id po 8jd,8j1 po 8j2,8j4 po 8jg,8j5 po 8jh,8ji po 8jk,8jj po 8jl",
  "8jm po 8jo,8jn po 8jp,8jq po 8k0,8jr po 8k1,8js po 8n0,8jt po 8n1,8k2 po 8k4,8k3 po 8k5",
  "8k6 po 8k8,8k7 po 8k9,8kh po 8n2,8ki po 8n3,8l2 po 8lc,8l8 po 8ld,8l9 po 8le,8lb po 8lf",
  "8li po 8na,8lj po 8nb,8lk po 8nc,8ll po 8nd,c26 c4p c4k,c2b c4p c2c,c2d c4p c2e,c2f c4p c2g",
  "c2h c4p c2i,c2j c4p c2k,c2l c4p c2m,c2n c4p c2o,c2p c4p c2q,c2r c4p c2s,c2t c4p c2u",
  "c2v c4p c30,c31 c4p c32,c34 c4p c35,c36 c4p c37,c38 c4p c39,c3f c4p c3g c4q c3h",
  "c3i c4p c3j c4q c3k,c3l c4p c3m c4q c3n,c3o c4p c3p c4q c3q,c3r c4p c3s c4q c3t,c4t c4p c4u",
  "c56 c4p c7k,c5b c4p c5c,c5d c4p c5e,c5f c4p c5g,c5h c4p c5i,c5j c4p c5k,c5l c4p c5m",
  "c5n c4p c5o,c5p c4p c5q,c5r c4p c5s,c5t c4p c5u,c5v c4p c60,c61 c4p c62,c64 c4p c65",
  "c66 c4p c67,c68 c4p c69,c6f c4p c6g c4q c6h,c6i c4p c6j c4q c6k,c6l c4p c6m c4q c6n",
  "c6o c4p c6p c4q c6q,c6r c4p c6s c4q c6t,c7f c4p c7n,c7g c4p c7o,c7h c4p c7p,c7i c4p c7q",
  "c7t c4p c7u,244p 245q 244q,244r 245q 244s,2455 245q 245b,249h 2497 249e,249i 2497 249f",
  "24q7 24pu 24qb 24qn 24qc,255p 255g 255s 255q 255r 255t 255u,25do 25df 25dq,25dp 25df 25dr",
  "269l 269g 269o"]

end RecordLens.Text
