import Harvest.Text.CharSet
/-!
How characters of internationalized host names are mapped before they are encoded. The table lists
the code points at which the rule changes, in order, each in base 36 and followed by a capital
letter: `V` keeps, `I` drops, `X` forbids, and `M` maps to the characters that follow, joined by
points. A rule holds up to the next entry.
-/

namespace Harvest.Url.NameMapping

def table : List String :=
  ["3kX 4gMw 4hV 4oMw.lk 4pV 4qM2p 4rV 4tI 4uV 4vMw.lg 4wV 4yM1e 4zM1f 50Mw.ld 51Mqk 52V",
   "54Mw.mf 55M1d 56M33 57V 58M1d.6dg.1g 59M1d.6dg.1e 5aM1f.6dg.1g 5bV 5cM68 5dM69 5eM6a 5fM6b",
   "5gM6c 5hM6d 5iM6e 5jM6f 5kM6g 5lM6h 5mM6i 5nM6j 5oM6k 5pM6l 5qM6m 5rM6n 5sM6o 5tM6p 5uM6q",
   "5vM6r 5wM6s 5xM6t 5yM6u 5zV 60M6w 61M6x 62M6y 63M6z 64M70 65M71 66M72 67V 68V 74M75 75V",
   "76M77 77V 78M79 79V 7aM7b 7bV 7cM7d 7dV 7eM7f 7fV 7gM7h 7hV 7iM7j 7jV 7kM7l 7lV 7mM7n 7nV",
   "7oM7p 7pV 7qM7r 7rV 7sM7t 7tV 7uM7v 7vV 7wM7x 7xV 7yM7z 7zV 80M81 81V 82M83 83V 84M85 85V",
   "86M87 87V 88M89 89V 8aM8b 8bV 8cM8d 8dV 8eM8f 8fV 8gM2x.lj 8hV 8iM2x.2y 8kM8l 8lV 8mM8n 8nV",
   "8pM8q 8qV 8rM8s 8sV 8tM8u 8uV 8vM30.53 8xM8y 8yV 8zM90 90V 91M92 92V 93M94 94V 95Mjg.32",
   "96M97 97V 98M99 99V 9aM9b 9bV 9cM9d 9dV 9eM9f 9fV 9gM9h 9hV 9iM9j 9jV 9kM9l 9lV 9mM9n 9nV",
   "9oM9p 9pV 9qM9r 9rV 9sM9t 9tV 9uM9v 9vV 9wM9x 9xV 9yM9z 9zV a0Ma1 a1V a2Ma3 a3V a4Ma5 a5V",
   "a6Ma7 a7V a8Ma9 a9V aaMab abV acMad adV aeMaf afV agM73 ahMai aiV ajMak akV alMam amV anM37",
   "aoV apMgj aqMar arV asMat atV auMgk avMaw awV axMgm ayMgn azMb0 b0V b2Md9 b3Mgp b4Mgr b5Mb6",
   "b6V b7Mgw b8Mgz b9V baMh5 bbMh4 bcMbd bdV bgMhb bhMhe biV bjMhh bkMbl blV bmMbn bnV boMbp",
   "bpV bqMhs brMbs bsV btMhv buV bwMbx bxV byMi0 bzMc0 c0V c1Mi2 c2Mi3 c3Mc4 c4V c5Mc6 c6V",
   "c7Mia c8Mc9 c9V ccMcd cdV ckM2s.am cnM30.2y cqM32.2y ctMcu cuV cvMcw cwV cxMcy cyV czMd0",
   "d0V d1Md2 d2V d3Md4 d4V d5Md6 d6V d7Md8 d8V daMdb dbV dcMdd ddV deMdf dfV dgMdh dhV diMdj",
   "djV dkMdl dlV dmMdn dnV doMdp dpV dqMdr drV dtM2s.3e dwMdx dxV dyMb9 dzMcf e0Me1 e1V e2Me3",
   "e3V e4Me5 e5V e6Me7 e7V e8Me9 e9V eaMeb ebV ecMed edV eeMef efV egMeh ehV eiMej ejV ekMel",
   "elV emMen enV eoMep epV eqMer erV esMet etV euMev evV ewMex exV eyMez ezV f0Mf1 f1V f2Mf3",
   "f3V f4Mbi f5V f6Mf7 f7V f8Mf9 f9V faMfb fbV fcMfd fdV feMff ffV fgMfh fhV fiMfj fjV fkMfl",
   "flV fmMfn fnV fuM8rp fvMfw fwV fxMbe fyM8rq fzV g1Mg2 g2V g3Mao g4Mi1 g5Mi4 g6Mg7 g7V g8Mg9",
   "g9V gaMgb gbV gcMgd gdV geMgf gfV j4M2w j5Mh2 j6M2y j7M36 j8Mhl j9Mhn jaMht jbM3b jcM3d jdV",
   "k8Mw.li k9Mw.lj kaMw.lm kbMw.mg kcMw.lf kdMw.ln keV kgMgz khM30 kiM37 kjM3c kkMid klV n4Mlc",
   "n5Mld n6V n7Mlv n8Mlk.ld n9Mqh naV njI nkV ogMoh ohV oiMoj ojV okMjd olV omMon onV ooX",
   "oqMw.qh orV ouM1n ovMs3 owX p0Mw.ld p1Mw.lk.ld p2Mq4 p3M53 p4Mq5 p5Mq6 p6Mq7 p7X p8Mr0 p9X",
   "paMr1 pbMr2 pcV pdMq9 peMqa pfMqb pgMqc phMqd piMqe pjMqf pkMqg plMqh pmMqi pnMqj poMqk",
   "ppMql pqMqm prMqn psMqo ptMqp puX pvMqr pwMqs pxMqt pyMqu pzMqv q0Mqw q1Mqx q2Mqy q3Mqz q4V",
   "qqV qrV r3Mrb r4Mqa r5Mqg r6Mqt r7Mr1 r8Mqz r9Mqu raMqo rbV rcMrd rdV reMrf rfV rgMrh rhV",
   "riMrj rjV rkMrl rlV rmMrn rnV roMrp rpV rqMrr rrV rsMrt rtV ruMrv rvV rwMrx rxV ryMrz rzV",
   "s0Mqi s1Mqp s2Mqr s3V s4Mqg s5Mqd s6V s7Ms8 s8V s9Mqr saMsb sbV sdMor seMos sfMot sgMuo",
   "shMup siMuq sjMur skMus slMut smMuu snMuv soMuw spMux sqMuy srMuz ssMv0 stMv1 suMv2 svMv3",
   "swMts sxMtt syMtu szMtv t0Mtw t1Mtx t2Mty t3Mtz t4Mu0 t5Mu1 t6Mu2 t7Mu3 t8Mu4 t9Mu5 taMu6",
   "tbMu7 tcMu8 tdMu9 teMua tfMub tgMuc thMud tiMue tjMuf tkMug tlMuh tmMui tnMuj toMuk tpMul",
   "tqMum trMun tsV v4Mv5 v5V v6Mv7 v7V v8Mv9 v9V vaMvb vbV vcMvd vdV veMvf vfV vgMvh vhV viMvj",
   "vjV vkMvl vlV vmMvn vnV voMvp vpV vqMvr vrV vsMvt vtV vuMvv vvV vwMvx vxV vyMvz vzV w0Mw1",
   "w1V waMwb wbV wcMwd wdV weMwf wfV wgMwh whV wiMwj wjV wkMwl wlV wmMwn wnV woMwp wpV wqMwr",
   "wrV wsMwt wtV wuMwv wvV wwMwx wxV wyMwz wzV x0Mx1 x1V x2Mx3 x3V x4Mx5 x5V x6Mx7 x7V x8Mx9",
   "x9V xaMxb xbV xcMxd xdV xeMxf xfV xgMxh xhV xiMxj xjV xkMxl xlV xmMxn xnV xoMxp xpV xqMxr",
   "xrV xsMy7 xtMxu xuV xvMxw xwV xxMxy xyV xzMy0 y0V y1My2 y2V y3My4 y4V y5My6 y6V y8My9 y9V",
   "yaMyb ybV ycMyd ydV yeMyf yfV ygMyh yhV yiMyj yjV ykMyl ylV ymMyn ynV yoMyp ypV yqMyr yrV",
   "ysMyt ytV yuMyv yvV ywMyx yxV yyMyz yzV z0Mz1 z1V z2Mz3 z3V z4Mz5 z5V z6Mz7 z7V z8Mz9 z9V",
   "zaMzb zbV zcMzd zdV zeMzf zfV zgMzh zhV ziMzj zjV zkMzl zlV zmMzn znV zoMzp zpV zqMzr zrV",
   "zsMzt ztV zuMzv zvV zwMzx zxV zyMzz zzV 100M101 101V 102M103 103V 104M105 105V 106M107 107V",
   "108M109 109V 10aM10b 10bV 10cM10d 10dV 10eM10f 10fV 10gM10h 10hV 10iM10j 10jV 10kM10l 10lV",
   "10mM10n 10nV 10oM10p 10pV 10qM10r 10rV 10sM10t 10tV 10uM10v 10vV 10wX 10xM129 10yM12a",
   "10zM12b 110M12c 111M12d 112M12e 113M12f 114M12g 115M12h 116M12i 117M12j 118M12k 119M12l",
   "11aM12m 11bM12n 11cM12o 11dM12p 11eM12q 11fM12r 11gM12s 11hM12t 11iM12u 11jM12v 11kM12w",
   "11lM12x 11mM12y 11nM12z 11oM130 11pM131 11qM132 11rM133 11sM134 11tM135 11uM136 11vM137",
   "11wM138 11xM139 11yM13a 11zX 121V 13bM12d.136 13cV 13fX 13hV 13kX 13lV 154X 15cV 163X 167V",
   "16dX 16uV 17gX 17hV 19xM17r.19w 19yM18o.19w 19zM1c7.19w 1a0M18q.19w 1a1V 1ctX 1cuV 1e6X",
   "1e8V 1fvX 1fxV 1iqX 1j4V 1krX 1ktV 1m6X 1m8V 1mnX 1moV 1ngX 1niV 1njX 1nkV 1nvX 1o0V 1owX",
   "1p3V 1r6X 1r7V 1ugM1sl.1to 1uhM1sm.1to 1uiM1sn.1to 1ujM1ss.1to 1ukM1sx.1to 1ulM1sy.1to",
   "1umM1t7.1to 1unM1tb.1to 1uoV 1voX 1vpV 1vxX 1vzV 1w1X 1w3V 1wpX 1wqV 1wxX 1wyV 1wzX 1x2V",
   "1x6X 1x8V 1xhX 1xjV 1xlX 1xnV 1xrX 1xzV 1y0X 1y4M1wh.1x8 1y5M1wi.1x8 1y6X 1y7M1wv.1x8 1y8V",
   "1ycX 1yeV 1z3X 1z5V 1z8X 1z9V 1zfX 1zjV 1zlX 1znV 209X 20aV 20hX 20iV 20jM20i.20s 20kX 20lV",
   "20mM20o.20s 20nX 20oV 20qX 20sV 20tX 20uV 20zX 213V 215X 217V 21aX 21dV 21eX 21lM1zq.20s",
   "21mM1zr.20s 21nM1zw.20s 21oV 21pX 21qM20b.20s 21rX 21yV 22fX 22pV 22sX 22tV 232X 233V 236X",
   "237V 23tX 23uV 241X 242V 244X 245V 24aX 24cV 24mX 24nV 24qX 24rV 24uX 24wV 24xX 25cV 25gX",
   "25iV 25uX 261V 268X 269V 26cX 26dV 26lX 26nV 26pX 26rV 27dX 27eV 27lX 27mV 27oX 27pV 27uX",
   "27wV 285X 287V 289X 28bV 28eX 28lV 28oX 28sM275.27w 28tM276.27w 28uX 28vV 290X 292V 29kX",
   "29uV 29wX 29xV 2a3X 2a6V 2a9X 2aaV 2aeX 2ahV 2ajX 2akV 2alX 2amV 2aoX 2arV 2atX 2awV 2azX",
   "2b2V 2beX 2biV 2bnX 2bqV 2btX 2buV 2byX 2c0V 2c1X 2c7V 2c8X 2cmV 2d7X 2dcV 2dpX 2dqV 2dtX",
   "2duV 2ehX 2eiV 2eyX 2f0V 2f9X 2faV 2fdX 2feV 2fiX 2fpV 2frX 2fsV 2fvX 2fwV 2fyX 2g0V 2g4X",
   "2g6V 2ggX 2gnV 2h9X 2haV 2hdX 2heV 2i1X 2i2V 2icX 2idV 2iiX 2ikV 2itX 2iuV 2ixX 2iyV 2j2X",
   "2j9V 2jbX 2jgV 2jjX 2jkV 2joX 2jqV 2k0X 2k1V 2k4X 2kgV 2ktX 2kuV 2kxX 2kyV 2mdX 2meV 2mhX",
   "2miV 2moX 2msV 2n8X 2naV 2o0X 2o1V 2o4X 2o5V 2onX 2oqV 2peX 2pfV 2poX 2ppV 2pqX 2psV 2pzX",
   "2q2V 2q3X 2q7V 2qdX 2qeV 2qfX 2qgV 2qoX 2quV 2r4X 2r6V 2r9X 2rlV 2szM2tp.2sy 2t0V 2t7X 2tbV",
   "2u4X 2v5V 2v7X 2v8V 2v9X 2vaV 2vfX 2vgV 2w4X 2w5V 2w6X 2w7V 2wjM2x9.2wi 2wkV 2wuX 2wwV 2x1X",
   "2x2V 2x3X 2x4V 2xbX 2xcV 2xmX 2xoM2wb.2vt 2xpM2wb.2w1 2xqV 2xsX 2yoV 2z0M2yz 2z1V",
   "30jM30i.33r 30kV 30oX 30pV 30tM30s.33r 30uV 30yM30x.33r 30zV 313M312.33r 314V 318M317.33r",
   "319V 31lM30g.33p 31mV 31pX 31tV 31vM31t.31u 31wV 31xM31t.31w 31yM33m.328 31zM33m.31t.328",
   "320M33n.328 321M33n.31t.328 322V 329M31t.328 32aV 32rM32q.33r 32sV 32wX 32xV 331M330.33r",
   "332V 336M335.33r 337V 33bM33a.33r 33cV 33gM33f.33r 33hV 33tM32o.33p 33uV 33xX 33yV 34dX",
   "34eV 34rX 35sV 3a8M8w0 3a9M8w1 3aaM8w2 3abM8w3 3acM8w4 3adM8w5 3aeM8w6 3afM8w7 3agM8w8",
   "3ahM8w9 3aiM8wa 3ajM8wb 3akM8wc 3alM8wd 3amM8we 3anM8wf 3aoM8wg 3apM8wh 3aqM8wi 3arM8wj",
   "3asM8wk 3atM8wl 3auM8wm 3avM8wn 3awM8wo 3axM8wp 3ayM8wq 3azM8wr 3b0M8ws 3b1M8wt 3b2M8wu",
   "3b3M8wv 3b4M8ww 3b5M8wx 3b6M8wy 3b7M8wz 3b8M8x0 3b9M8x1 3baX 3bbM8x3 3bcX 3bhM8x9 3biX 3bkV",
   "3csM3bw 3ctV 3fjI 3flV 3m1X 3m2V 3m6X 3m8V 3mfX 3mgV 3mhX 3miV 3mmX 3moV 3ntX 3nuV 3nyX",
   "3o0V 3oxX 3oyV 3p2X 3p4V 3pbX 3pcV 3pdX 3peV 3piX 3pkV 3pzX 3q0V 3rlX 3rmV 3rqX 3rsV 3tnX",
   "3tpV 3ulX 3uoV 3veX 3vkV 3xyX 3y0M3xs 3y1M3xt 3y2M3xu 3y3M3xv 3y4M3xw 3y5M3xx 3y6X 3y8V",
   "4g0X 4g1V 4gtX 4gwV 4jdX 4jkV 4k6X 4kfV 4l3X 4lcV 4lwX 4m8V 4mlX 4mmV 4mpX 4mqV 4msX 4n4V",
   "4okI 4omV 4pqX 4psV 4q2X 4q8V 4qiX 4qoV 4qzI 4r4V 4reX 4rkV 4u1X 4u8V 4vfX 4vkV 4xiX 4xsV",
   "4ynX 4yoV 4z0X 4z4V 4zgX 4zkV 4zlX 4zoV 50uX 50wV 511X 51cV 52kX 52oV 53eX 53kV 53vX 53yV",
   "55oX 55qV 57jX 57kV 58dX 58fV 58qX 58wV 596X 59cV 59qX 59sV 5b2X 5b4V 5bgX 5c0V 5e5X 5e6V",
   "5isX 5j0V 5koX 5krV 5l6X 5l9V 5moMtu 5mpMtw 5mqMu6 5mrMu9 5msMua 5muMui 5mvMv7 5mwMwuj",
   "5mxM5my 5myV 5mzX 5n4M3bk 5n5M3bl 5n6M3bm 5n7M3bn 5n8M3bo 5n9M3bp 5naM3bq 5nbM3br 5ncM3bs",
   "5ndM3bt 5neM3bu 5nfM3bv 5ngM3bw 5nhM3bx 5niM3by 5njM3bz 5nkM3c0 5nlM3c1 5nmM3c2 5nnM3c3",
   "5noM3c4 5npM3c5 5nqM3c6 5nrM3c7 5nsM3c8 5ntM3c9 5nuM3ca 5nvM3cb 5nwM3cc 5nxM3cd 5nyM3ce",
   "5nzM3cf 5o0M3cg 5o1M3ch 5o2M3ci 5o3M3cj 5o4M3ck 5o5M3cl 5o6M3cm 5o7M3cn 5o8M3co 5o9M3cp",
   "5oaM3cq 5obX 5odM3ct 5oeM3cu 5ofM3cv 5ogV 5ooX 5owV 5q3X 5q8V 5rgM2p 5rhM6e 5riM2q 5rjV",
   "5rkM2s 5rlM2t 5rmMd9 5rnM2v 5roM2w 5rpM2x 5rqM2y 5rrM2z 5rsM30 5rtM31 5ruM32 5rvV 5rwM33",
   "5rxMf7 5ryM34 5rzM36 5s0M38 5s1M39 5s2M3b 5s3M2p 5s4Mgg 5s5Mgh 5s6M5qa 5s7M2q 5s8M2s 5s9M2t",
   "5saMgp 5sbMgr 5scMgs 5sdM2v 5seV 5sfM2z 5sgM31 5shM97 5siM33 5sjMgk 5skM5qu 5slM5qv 5smM34",
   "5snM38 5soM39 5spM5r1 5sqMhb 5srM3a 5ssM5r9 5stMqa 5suMqb 5svMqc 5swMqu 5sxMqv 5syM2x",
   "5szM36 5t0M39 5t1M3a 5t2Mqa 5t3Mqb 5t4Mqp 5t5Mqu 5t6Mqv 5t7V 5tkMu5 5tlV 5ujMgi 5ukM2r",
   "5ulMgl 5umM6o 5unMgs 5uoM2u 5upMgv 5uqMgx 5urMh1 5usMh4 5utMh5 5uuMh6 5uvM5tn 5uwMil 5uxMh9",
   "5uyM5tx 5uzMin 5v0Mhd 5v1Mhc 5v2Mhe 5v3Mhf 5v4Mhg 5v5Mhh 5v6Mhk 5v7Mhu 5v8Mhv 5v9Mbv 5vaMi1",
   "5vbMi2 5vcM5r0 5vdMi3 5veMi4 5vfM3e 5vgMi8 5vhMi9 5viMia 5vjMqg 5vkV 5xcM5xd 5xdV 5xeM5xf",
   "5xfV 5xgM5xh 5xhV 5xiM5xj 5xjV 5xkM5xl 5xlV 5xmM5xn 5xnV 5xoM5xp 5xpV 5xqM5xr 5xrV 5xsM5xt",
   "5xtV 5xuM5xv 5xvV 5xwM5xx 5xxV 5xyM5xz 5xzV 5y0M5y1 5y1V 5y2M5y3 5y3V 5y4M5y5 5y5V 5y6M5y7",
   "5y7V 5y8M5y9 5y9V 5yaM5yb 5ybV 5ycM5yd 5ydV 5yeM5yf 5yfV 5ygM5yh 5yhV 5yiM5yj 5yjV 5ykM5yl",
   "5ylV 5ymM5yn 5ynV 5yoM5yp 5ypV 5yqM5yr 5yrV 5ysM5yt 5ytV 5yuM5yv 5yvV 5ywM5yx 5yxV 5yyM5yz",
   "5yzV 5z0M5z1 5z1V 5z2M5z3 5z3V 5z4M5z5 5z5V 5z6M5z7 5z7V 5z8M5z9 5z9V 5zaM5zb 5zbV 5zcM5zd",
   "5zdV 5zeM5zf 5zfV 5zgM5zh 5zhV 5ziM5zj 5zjV 5zkM5zl 5zlV 5zmM5zn 5znV 5zoM5zp 5zpV 5zqM5zr",
   "5zrV 5zsM5zt 5ztV 5zuM5zv 5zvV 5zwM5zx 5zxV 5zyM5zz 5zzV 600M601 601V 602M603 603V 604M605",
   "605V 606M607 607V 608M609 609V 60aM60b 60bV 60cM60d 60dV 60eM60f 60fV 60gM60h 60hV 60iM60j",
   "60jV 60kM60l 60lV 60mM60n 60nV 60oM60p 60pV 60qM60r 60rV 60sM60t 60tV 60uM60v 60vV 60wM60x",
   "60xV 60yM60z 60zV 610M611 611V 612M613 613V 614M615 615V 616M617 617V 618M619 619V 61aM61b",
   "61bV 61cM61d 61dV 61eM61f 61fV 61gM61h 61hV 61mM2p.ji 61nM601 61oV 61qM67 61rV 61sM61t 61tV",
   "61uM61v 61vV 61wM61x 61xV 61yM61z 61zV 620M621 621V 622M623 623V 624M625 625V 626M627 627V",
   "628M629 629V 62aM62b 62bV 62cM62d 62dV 62eM62f 62fV 62gM62h 62hV 62iM62j 62jV 62kM62l 62lV",
   "62mM62n 62nV 62oM62p 62pV 62qM62r 62rV 62sM62t 62tV 62uM62v 62vV 62wM62x 62xV 62yM62z 62zV",
   "630M631 631V 632M633 633V 634M635 635V 636M637 637V 638M639 639V 63aM63b 63bV 63cM63d 63dV",
   "63eM63f 63fV 63gM63h 63hV 63iM63j 63jV 63kM63l 63lV 63mM63n 63nV 63oM63p 63pV 63qM63r 63rV",
   "63sM63t 63tV 63uM63v 63vV 63wM63x 63xV 63yM63z 63zV 640M641 641V 642M643 643V 644M645 645V",
   "646M647 647V 648M649 649V 64aM64b 64bV 64cM64d 64dV 64eM64f 64fV 64oM64g 64pM64h 64qM64i",
   "64rM64j 64sM64k 64tM64l 64uM64m 64vM64n 64wV 652X 654M64w 655M64x 656M64y 657M64z 658M650",
   "659M651 65aX 65cV 65kM65c 65lM65d 65mM65e 65nM65f 65oM65g 65pM65h 65qM65i 65rM65j 65sV",
   "660M65s 661M65t 662M65u 663M65v 664M65w 665M65x 666M65y 667M65z 668V 66eX 66gM668 66hM669",
   "66iM66a 66jM66b 66kM66c 66lM66d 66mX 66oV 66wX 66xM66p 66yX 66zM66r 670X 671M66t 672X",
   "673M66v 674V 67cM674 67dM675 67eM676 67fM677 67gM678 67hM679 67iM67a 67jM67b 67kV 67lMq4",
   "67mV 67nMq5 67oV 67pMq6 67qV 67rMq7 67sV 67tMr0 67uV 67vMr1 67wV 67xMr2 67yX 680M64g.qh",
   "681M64h.qh 682M64i.qh 683M64j.qh 684M64k.qh 685M64l.qh 686M64m.qh 687M64n.qh 688M64g.qh",
   "689M64h.qh 68aM64i.qh 68bM64j.qh 68cM64k.qh 68dM64l.qh 68eM64m.qh 68fM64n.qh 68gM65c.qh",
   "68hM65d.qh 68iM65e.qh 68jM65f.qh 68kM65g.qh 68lM65h.qh 68mM65i.qh 68nM65j.qh 68oM65c.qh",
   "68pM65d.qh 68qM65e.qh 68rM65f.qh 68sM65g.qh 68tM65h.qh 68uM65i.qh 68vM65j.qh 68wM674.qh",
   "68xM675.qh 68yM676.qh 68zM677.qh 690M678.qh 691M679.qh 692M67a.qh 693M67b.qh 694M674.qh",
   "695M675.qh 696M676.qh 697M677.qh 698M678.qh 699M679.qh 69aM67a.qh 69bM67b.qh 69cV",
   "69eM67k.qh 69fMq9.qh 69gMq4.qh 69hX 69iV 69jM69i.qh 69kM69c 69lM69d 69mM67k 69nMq4",
   "69oMq9.qh 69pMw.lv 69qMqh 69rMw.lv 69sMw.n6 69tMw.lk.n6 69uM67o.qh 69vMqf.qh 69wMq6.qh 69xX",
   "69yV 69zM69y.qh 6a0M67m 6a1Mq5 6a2M67o 6a3Mq6 6a4Mqf.qh 6a5Mw.lv.lc 6a6Mw.lv.ld 6a7Mw.lv.n6",
   "6a8V 6abMpc 6acX 6aeV 6agM6a8 6ahM6a9 6aiM67q 6ajMq7 6akX 6alMw.lw.lc 6amMw.lw.ld",
   "6anMw.lw.n6 6aoV 6arMq8 6asV 6awM6ao 6axM6ap 6ayM67u 6azMr1 6b0M6at 6b1Mw.lk.lc 6b2Mw.lk.ld",
   "6b3M2o 6b4X 6b6M67w.qh 6b7Mqx.qh 6b8Mr2.qh 6b9X 6baV 6bbM6ba.qh 6bcM67s 6bdMr0 6beM67w",
   "6bfMr2 6bgMqx.qh 6bhMw.ld 6biMw.lw 6bjX 6bkMw 6bvI 6bwV 6byX 6c0V 6c1M6c0 6c2V 6c7Mw.mr",
   "6c8V 6ckX 6cnV 6coX 6cvMw 6cwV 6czM6cy.6cy 6d0M6cy.6cy.6cy 6d1V 6d2M6d1.6d1 6d3M6d1.6d1.6d1",
   "6d4V 6d8Mx.x 6d9V 6daMw.lh 6dbV 6djM1r.1r 6dkM1r.x 6dlMx.1r 6dmV 6dzM6cy.6cy.6cy.6cy 6e0V",
   "6e7Mw 6e8I 6edX 6eiI 6eoM1c 6epM2x 6eqX 6esM1g 6etM1h 6euM1i 6evM1j 6ewM1k 6exM1l 6eyM17",
   "6ezM6qa 6f0M1p 6f1M14 6f2M15 6f3M32 6f4M1c 6f5M1d 6f6M1e 6f7M1f 6f8M1g 6f9M1h 6faM1i 6fbM1j",
   "6fcM1k 6fdM1l 6feM17 6ffM6qa 6fgM1p 6fhM14 6fiM15 6fjX 6fkM2p 6flM2t 6fmM33 6fnM3c 6foMgp",
   "6fpM2w 6fqM2z 6frM30 6fsM31 6ftM32 6fuM34 6fvM37 6fwM38 6fxX 6g0V 6g8M36.37 6g9V 6gyX 6hcV",
   "6i9X 6ioM2p.1b.2r 6ipM2p.1b.37 6iqM2r 6irM4w.2r 6isV 6itM2r.1b.33 6iuM2r.1b.39 6ivMgr 6iwV",
   "6ixM4w.2u 6iyM2v 6izM2w 6j3M87 6j4M2x 6j6M30 6j8V 6j9M32 6jaM32.33 6jbV 6jdM34 6jeM35",
   "6jfM36 6jiV 6jkM37.31 6jlM38.2t.30 6jmM38.31 6jnV 6joM3e 6jpV 6jqMqx 6jrV 6jsM3e 6jtV",
   "6juM2z 6jvM6d 6jwM2q 6jxM2r 6jyV 6jzM2t 6k1M2u 6k2M6ku 6k3M31 6k4M33 6k5M15c 6k6M15d",
   "6k7M15e 6k8M15f 6k9M2x 6kaV 6kbM2u.2p.3c 6kcMqo 6kdMqb 6kfMqo 6kgM6q9 6khV 6klM2s 6knM2t",
   "6koM2x 6kpM2y 6kqV 6kwM1d.6dg.1j 6kxM1d.6dg.1l 6kyM1d.6dg.1d.1c 6kzM1d.6dg.1f 6l0M1e.6dg.1f",
   "6l1M1d.6dg.1h 6l2M1e.6dg.1h 6l3M1f.6dg.1h 6l4M1g.6dg.1h 6l5M1d.6dg.1i 6l6M1h.6dg.1i",
   "6l7M1d.6dg.1k 6l8M1f.6dg.1k 6l9M1h.6dg.1k 6laM1j.6dg.1k 6lbM1d.6dg 6lcM2x 6ldM2x.2x",
   "6leM2x.2x.2x 6lfM2x.3a 6lgM3a 6lhM3a.2x 6liM3a.2x.2x 6ljM3a.2x.2x.2x 6lkM2x.3c 6llM3c",
   "6lmM3c.2x 6lnM3c.2x.2x 6loM30 6lpM2r 6lqM2s 6lrM31 6lsM2x 6ltM2x.2x 6luM2x.2x.2x 6lvM2x.3a",
   "6lwM3a 6lxM3a.2x 6lyM3a.2x.2x 6lzM3a.2x.2x.2x 6m0M2x.3c 6m1M3c 6m2M3c.2x 6m3M3c.2x.2x",
   "6m4M30 6m5M2r 6m6M2s 6m7M31 6m8V 6mbM6mc 6mcV 6mhM1c.6dg.1f 6miV 6mkX 6moV 6r0M6qz.6qz",
   "6r1M6qz.6qz.6qz 6r2V 6r3M6r2.6r2 6r4M6r2.6r2.6r2 6r5V 6y1M9hk 6y2M9hl 6y3V 756X 75sV 763X",
   "76oM1d 76pM1e 76qM1f 76rM1g 76sM1h 76tM1i 76uM1j 76vM1k 76wM1l 76xM1d.1c 76yM1d.1d",
   "76zM1d.1e 770M1d.1f 771M1d.1g 772M1d.1h 773M1d.1i 774M1d.1j 775M1d.1k 776M1d.1l 777M1e.1c",
   "778M14.1d.15 779M14.1e.15 77aM14.1f.15 77bM14.1g.15 77cM14.1h.15 77dM14.1i.15 77eM14.1j.15",
   "77fM14.1k.15 77gM14.1l.15 77hM14.1d.1c.15 77iM14.1d.1d.15 77jM14.1d.1e.15 77kM14.1d.1f.15",
   "77lM14.1d.1g.15 77mM14.1d.1h.15 77nM14.1d.1i.15 77oM14.1d.1j.15 77pM14.1d.1k.15",
   "77qM14.1d.1l.15 77rM14.1e.1c.15 77sX 78cM14.2p.15 78dM14.2q.15 78eM14.2r.15 78fM14.2s.15",
   "78gM14.2t.15 78hM14.2u.15 78iM14.2v.15 78jM14.2w.15 78kM14.2x.15 78lM14.2y.15 78mM14.2z.15",
   "78nM14.30.15 78oM14.31.15 78pM14.32.15 78qM14.33.15 78rM14.34.15 78sM14.35.15 78tM14.36.15",
   "78uM14.37.15 78vM14.38.15 78wM14.39.15 78xM14.3a.15 78yM14.3b.15 78zM14.3c.15 790M14.3d.15",
   "791M14.3e.15 792M2p 793M2q 794M2r 795M2s 796M2t 797M2u 798M2v 799M2w 79aM2x 79bM2y 79cM2z",
   "79dM30 79eM31 79fM32 79gM33 79hM34 79iM35 79jM36 79kM37 79lM38 79mM39 79nM3a 79oM3b 79pM3c",
   "79qM3d 79rM3e 79sM2p 79tM2q 79uM2r 79vM2s 79wM2t 79xM2u 79yM2v 79zM2w 7a0M2x 7a1M2y 7a2M2z",
   "7a3M30 7a4M31 7a5M32 7a6M33 7a7M34 7a8M35 7a9M36 7aaM37 7abM38 7acM39 7adM3a 7aeM3b 7afM3c",
   "7agM3d 7ahM3e 7aiM1c 7ajV 8b0M6qz.6qz.6qz.6qz 8b1V 8dwM1m.1m.1p 8dxM1p.1p 8dyM1p.1p.1p 8dzV",
   "8gsM8gt.mw 8gtV 8l0X 8l2V 8owM8q8 8oxM8q9 8oyM8qa 8ozM8qb 8p0M8qc 8p1M8qd 8p2M8qe 8p3M8qf",
   "8p4M8qg 8p5M8qh 8p6M8qi 8p7M8qj 8p8M8qk 8p9M8ql 8paM8qm 8pbM8qn 8pcM8qo 8pdM8qp 8peM8qq",
   "8pfM8qr 8pgM8qs 8phM8qt 8piM8qu 8pjM8qv 8pkM8qw 8plM8qx 8pmM8qy 8pnM8qz 8poM8r0 8ppM8r1",
   "8pqM8r2 8prM8r3 8psM8r4 8ptM8r5 8puM8r6 8pvM8r7 8pwM8r8 8pxM8r9 8pyM8ra 8pzM8rb 8q0M8rc",
   "8q1M8rd 8q2M8re 8q3M8rf 8q4M8rg 8q5M8rh 8q6M8ri 8q7M8rj 8q8V 8rkM8rl 8rlV 8rmMh7 8rnM5tp",
   "8roMhp 8rpV 8rrM8rs 8rsV 8rtM8ru 8ruV 8rvM8rw 8rwV 8rxMgh 8ryMhd 8rzMgg 8s0Mgi 8s1V 8s2M8s3",
   "8s3V 8s5M8s6 8s6V 8scM2y 8sdM3a 8seMfz 8sfMg0 8sgM8sh 8shV 8siM8sj 8sjV 8skM8sl 8slV",
   "8smM8sn 8snV 8soM8sp 8spV 8sqM8sr 8srV 8ssM8st 8stV 8suM8sv 8svV 8swM8sx 8sxV 8syM8sz 8szV",
   "8t0M8t1 8t1V 8t2M8t3 8t3V 8t4M8t5 8t5V 8t6M8t7 8t7V 8t8M8t9 8t9V 8taM8tb 8tbV 8tcM8td 8tdV",
   "8teM8tf 8tfV 8tgM8th 8thV 8tiM8tj 8tjV 8tkM8tl 8tlV 8tmM8tn 8tnV 8toM8tp 8tpV 8tqM8tr 8trV",
   "8tsM8tt 8ttV 8tuM8tv 8tvV 8twM8tx 8txV 8tyM8tz 8tzV 8u0M8u1 8u1V 8u2M8u3 8u3V 8u4M8u5 8u5V",
   "8u6M8u7 8u7V 8u8M8u9 8u9V 8uaM8ub 8ubV 8ucM8ud 8udV 8ueM8uf 8ufV 8ugM8uh 8uhV 8uiM8uj 8ujV",
   "8ukM8ul 8ulV 8umM8un 8unV 8uoM8up 8upV 8uqM8ur 8urV 8usM8ut 8utV 8uuM8uv 8uvV 8uwM8ux 8uxV",
   "8uyM8uz 8uzV 8v0M8v1 8v1V 8v2M8v3 8v3V 8v4M8v5 8v5V 8v6M8v7 8v7V 8vfM8vg 8vgV 8vhM8vi 8viV",
   "8vmM8vn 8vnV 8voX 8vtV 8x2X 8x3V 8x4X 8x9V 8xaX 8xcV 8ywX 8z3M8yp 8z4V 8z5X 8zjV 907X 90gV",
   "90nX 90oV 90vX 90wV 913X 914V 91bX 91cV 91jX 91kV 91rX 91sV 91zX 920V 927X 928V 95qX 96oV",
   "97eX 97fV 97jMlal 97kV 99vMvj3 99wX 9a8Mfeo 9a9Mffs 9aaMfg6 9abMfgf 9acMfh5 9adMfid 9aeMfik",
   "9afMfj4 9agMfju 9ahMg1r 9aiMg2t 9ajMg2z 9akMg3m 9alMg46 9amMg4r 9anMg68 9aoMg6t 9apMg74",
   "9aqMgbf 9arMge1 9asMget 9atMgey 9auMgfs 9avMgg1 9awMggs 9axMgh5 9ayMghu 9azMgja 9b0Mgjs",
   "9b1Mgkj 9b2Mh5j 9b3Mh7j 9b4Mhkb 9b5Mhky 9b6Mhl6 9b7Mhlh 9b8Mhlz 9b9Mho3 9baMi1c 9bbMi2o",
   "9bcMi60 9bdMi6n 9beMi76 9bfMi7s 9bgMi9a 9bhMi9d 9biMijf 9bjMijp 9bkMik1 9blMike 9bmMinm",
   "9bnMinu 9boMinz 9bpMir8 9bqMiri 9brMirv 9bsMis3 9btMits 9buMiu9 9bvMiur 9bwMiwz 9bxMjd4",
   "9byMjee 9bzMjez 9c0Mjzj 9c1Mjzo 9c2Mk1z 9c3Mk2f 9c4Mk2s 9c5Mk3d 9c6Mk4g 9c7Mk4l 9c8Mkc0",
   "9c9Mkco 9caMkdk 9cbMl5s 9ccMl7m 9cdMl89 9ceMl9v 9cfMlaj 9cgMlas 9chMlaz 9ciMlcf 9cjMlck",
   "9ckMldg 9clMm7f 9cmMmju 9cnMmk6 9coMmkb 9cpMmkf 9cqMmkn 9crMml5 9csMml7 9ctMmng 9cuMmtg",
   "9cvMmtl 9cwMn30 9cxMn3a 9cyMn4o 9czMn4v 9d0Mn54 9d1Mn5c 9d2Mn7v 9d3Mn82 9d4Mnee 9d5Mnel",
   "9d6Mnfy 9d7Mngf 9d8Mnhq 9d9Mnob 9daMnoi 9dbMnoz 9dcMny2 9ddMo1k 9deMo1q 9dfMo6s 9dgMo97",
   "9dhMoah 9diMokz 9djMooo 9dkMp4m 9dlMp5d 9dmMp6y 9dnMp8d 9doMpa9 9dpMpak 9dqMpaq 9drMpbn",
   "9dsMpdr 9dtMpe1 9duMpnn 9dvMpnu 9dwMpo3 9dxMpoc 9dyMpos 9dzMpp7 9e0Mppb 9e1Mpri 9e2Mprm",
   "9e3Mprs 9e4Mqj1 9e5Mqjv 9e6Mqww 9e7Mqx8 9e8Mqxv 9e9Mr5q 9eaMr63 9ebMr82 9ecMr9c 9edMrp3",
   "9eeMrpi 9efMrpx 9egMrqw 9ehMrrx 9eiMrxg 9ejMrxs 9ekMrzn 9elMs6j 9emMs7e 9enMsd7 9eoMsds",
   "9epMsdx 9eqMsk1 9erMsp5 9esMssm 9etMsss 9euMssx 9evMtiv 9ewMtj4 9exMtng 9eyMtrq 9ezMtrt",
   "9f0Mtt4 9f1Mtw1 9f2Mtwe 9f3Mtwi 9f4Mtwp 9f5Mtzf 9f6Mu0d 9f7Mu0j 9f8Mu0x 9f9Mu5k 9faMu6z",
   "9fbMu73 9fcMuc6 9fdMuc9 9feMucs 9ffMujs 9fgMul4 9fhMulb 9fiMun9 9fjMunj 9fkMunm 9flMunw",
   "9fmMuoq 9fnMuzp 9foMvat 9fpMvb3 9fqMvc5 9frMvcr 9fsMvcz 9ftMvd9 9fuMvdd 9fvMveh 9fwMvel",
   "9fxMvf2 9fyMvf7 9fzMvfk 9g0Mvgb 9g1Mvgq 9g2Mvgy 9g3Mvil 9g4Mvj0 9g5Mvj4 9g6X 9hcMw 9hdV",
   "9heM1a 9hfV 9iuM9hu 9ivV 9iwMgg1 9ixMgg4 9iyMgg5 9izV 9j4X 9j5V 9ljX 9llV 9lnMw.9ll",
   "9loMw.9lm 9lpV 9lrM9l4.9l6 9lsV 9ofM9mb.9mw 9ogX 9olV 9psX 9ptM3cw 9puM3cx 9pvM3hm 9pwM3cy",
   "9pxM3ho 9pyM3hp 9pzM3cz 9q0M3d0 9q1M3d1 9q2M3hs 9q3M3ht 9q4M3hu 9q5M3hv 9q6M3hw 9q7M3hx",
   "9q8M3dm 9q9M3d2 9qaM3d3 9qbM3d4 9qcM3dt 9qdM3d5 9qeM3d6 9qfM3d7 9qgM3d8 9qhM3d9 9qiM3da",
   "9qjM3db 9qkM3dc 9qlM3dd 9qmM3de 9qnM3fl 9qoM3fm 9qpM3fn 9qqM3fo 9qrM3fp 9qsM3fq 9qtM3fr",
   "9quM3fs 9qvM3ft 9qwM3fu 9qxM3fv 9qyM3fw 9qzM3fx 9r0M3fy 9r1M3fz 9r2M3g0 9r3M3g1 9r4M3g2",
   "9r5M3g3 9r6M3g4 9r7M3g5 9r8I 9r9M3dg 9raM3dh 9rbM3if 9rcM3ig 9rdM3ik 9reM3im 9rfM3ir",
   "9rgM3iv 9rhM3ix 9riM3do 9rjM3j1 9rkM3j3 9rlM3dp 9rmM3dq 9rnM3ds 9roM3du 9rpM3dv 9rqM3dz",
   "9rrM3e1 9rsM3e3 9rtM3e4 9ruM3e5 9rvM3e6 9rwM3e7 9rxM3ea 9ryM3ee 9rzM3eo 9s0M3ev 9s1M3f0",
   "9s2M3jl 9s3M3jm 9s4M3fb 9s5M3fc 9s6M3fd 9s7M3gk 9s8M3gl 9s9M3go 9saM3gx 9sbM3gy 9scM3h0",
   "9sdM3ha 9seM3hd 9sfX 9sgV 9siMfeo 9sjMfik 9skMfex 9slMh5n 9smMfey 9snMffx 9soMfez 9spMn5e",
   "9sqMfh5 9srMffd 9ssMfep 9stMhm1 9suMh80 9svMfju 9swV 9uuX 9v4V 9vkM14.3cw.15 9vlM14.3cy.15",
   "9vmM14.3cz.15 9vnM14.3d1.15 9voM14.3d2.15 9vpM14.3d3.15 9vqM14.3d5.15 9vrM14.3d7.15",
   "9vsM14.3d8.15 9vtM14.3da.15 9vuM14.3db.15 9vvM14.3dc.15 9vwM14.3dd.15 9vxM14.3de.15",
   "9vyM14.xz4.15 9vzM14.yvs.15 9w0M14.zc4.15 9w1M14.108s.15 9w2M14.10p4.15 9w3M14.115g.15",
   "9w4M14.1224.15 9w5M14.12ys.15 9w6M14.13f4.15 9w7M14.14bs.15 9w8M14.14s4.15 9w9M14.158g.15",
   "9waM14.15os.15 9wbM14.1654.15 9wcM14.13p8.15 9wdM14.1350.13ic.15 9weM14.1350.16f8.15 9wfX",
   "9wgM14.feo.15 9whM14.fik.15 9wiM14.fex.15 9wjM14.h5n.15 9wkM14.fis.15 9wlM14.g31.15",
   "9wmM14.fer.15 9wnM14.g2z.15 9woM14.fh9.15 9wpM14.gg1.15 9wqM14.kco.15 9wrM14.m7f.15",
   "9wsM14.ldg.15 9wtM14.kdk.15 9wuM14.ssx.15 9wvM14.h7j.15 9wwM14.k4l.15 9wxM14.kkq.15",
   "9wyM14.kcp.15 9wzM14.ny6.15 9x0M14.glp.15 9x1M14.mm1.15 9x2M14.rs1.15 9x3M14.nz1.15",
   "9x4M14.gc4.15 9x5M14.fkz.15 9x6M14.gos.15 9x7M14.i1y.15 9x8M14.nhf.15 9x9M14.flt.15",
   "9xaM14.rt3.15 9xbM14.ggk.15 9xcM14.nzh.15 9xdM14.fm9.15 9xeM14.pnu.15 9xfM14.po3.15 9xgMgun",
   "9xhMinw 9xiMk1z 9xjMoen 9xkV 9xsM34.38.2t 9xtM1e.1d 9xuM1e.1e 9xvM1e.1f 9xwM1e.1g 9xxM1e.1h",
   "9xyM1e.1i 9xzM1e.1j 9y0M1e.1k 9y1M1e.1l 9y2M1f.1c 9y3M1f.1d 9y4M1f.1e 9y5M1f.1f 9y6M1f.1g",
   "9y7M1f.1h 9y8M3cw 9y9M3cy 9yaM3cz 9ybM3d1 9ycM3d2 9ydM3d3 9yeM3d5 9yfM3d7 9ygM3d8 9yhM3da",
   "9yiM3db 9yjM3dc 9ykM3dd 9ylM3de 9ymMxz4 9ynMyvs 9yoMzc4 9ypM108s 9yqM10p4 9yrM115g 9ysM1224",
   "9ytM12ys 9yuM13f4 9yvM14bs 9ywM14s4 9yxM158g 9yyM15os 9yzM1654 9z0M14c8.y5c 9z1M13p8.13dk",
   "9z2M138w 9z3V 9z4Mfeo 9z5Mfik 9z6Mfex 9z7Mh5n 9z8Mfis 9z9Mg31 9zaMfer 9zbMg2z 9zcMfh9",
   "9zdMgg1 9zeMkco 9zfMm7f 9zgMldg 9zhMkdk 9ziMssx 9zjMh7j 9zkMk4l 9zlMkkq 9zmMkcp 9znMny6",
   "9zoMglp 9zpMmm1 9zqMrs1 9zrMnz1 9zsMgc4 9ztMo2g 9zuMn5j 9zvMho3 9zwMsix 9zxMg16 9zyMghc",
   "9zzMlig a00Mu11 a01Mfm9 a02Mg49 a03Ml7n a04Mfey a05Mffx a06Mfez a07Mijq a08Mgkz a09Mgfv",
   "a0aMi3b a0bMi1y a0cMnhf a0dMflt a0eMrt3 a0fMggk a0gMhlo a0hM1f.1i a0iM1f.1j a0jM1f.1k",
   "a0kM1f.1l a0lM1g.1c a0mM1g.1d a0nM1g.1e a0oM1g.1f a0pM1g.1g a0qM1g.1h a0rM1g.1i a0sM1g.1j",
   "a0tM1g.1k a0uM1g.1l a0vM1h.1c a0wM1d.kco a0xM1e.kco a0yM1f.kco a0zM1g.kco a10M1h.kco",
   "a11M1i.kco a12M1j.kco a13M1k.kco a14M1l.kco a15M1d.1c.kco a16M1d.1d.kco a17M1d.1e.kco",
   "a18M2w.2v a19M2t.36.2v a1aM2t.3a a1bM30.38.2s a1cM9lu a1dM9lw a1eM9ly a1fM9m0 a1gM9m2",
   "a1hM9m3 a1iM9m5 a1jM9m7 a1kM9m9 a1lM9mb a1mM9md a1nM9mf a1oM9mh a1pM9mj a1qM9ml a1rM9mn",
   "a1sM9mp a1tM9ms a1uM9mu a1vM9mw a1wM9my a1xM9mz a1yM9n0 a1zM9n1 a20M9n2 a21M9n3 a22M9n6",
   "a23M9n9 a24M9nc a25M9nf a26M9ni a27M9nj a28M9nk a29M9nl a2aM9nm a2bM9no a2cM9nq a2dM9ns",
   "a2eM9nt a2fM9nu a2gM9nv a2hM9nw a2iM9nx a2jM9nz a2kM9o0 a2lM9o1 a2mM9o2 a2nMfl0.gp8",
   "a2oM9lu.9n5.9oc.9mw a2pM9lu.9nv.9n9.9lt a2qM9lu.9o3.9ne.9lu a2rM9lu.9oc.9nv",
   "a2sM9lw.9mz.9o3.9m8 a2tM9lw.9o3.9mp a2uM9ly.9m1.9o3 a2vM9m0.9mh.9m7.9oc.9mx",
   "a2wM9m0.9oc.9m3.9oc a2xM9m2.9o3.9mh a2yM9m2.9oc.9nk a2zM9m3.9lw.9nu a30M9m3.9nt.9mr.9mw",
   "a31M9m3.9nx.9nu.9oc a32M9m4.9nx.9o3 a33M9m4.9o3.9ni a34M9m6.9m4 a35M9m6.9mz.9oc",
   "a36M9m5.9np.9nu.9oc a37M9m6.9nv.9mo.9oc a38M9m5.9nx a39M9m5.9nx.9m8.9nt.9nk",
   "a3aM9m5.9nx.9nl.9oc.9mw.9nv a3bM9m5.9nx.9nz.9mr.9mw a3cM9m8.9nt.9nk a3dM9m8.9nt.9nk.9mw.9o3",
   "a3eM9m7.9nv.9mk.9lw.9nx a3fM9m7.9nx.9oc.9n1 a3gM9m9.9oc.9mh a3hM9mb.9nv.9my a3iM9mb.9oc.9nh",
   "a3jM9md.9lw.9m7.9nv a3kM9md.9o3.9mp.9oc.9nk a3lM9mf.9nu.9o3.9m8 a3mM9mj.9o3.9mp",
   "a3nM9mj.9o3.9mw a3oM9mo.9oc.9mh a3pM9mv.9mf a3qM9mx.9nv a3rM9mw.9o3 a3sM9my.9n2",
   "a3tM9n2.9mr.9mw a3uM9n3.9lw.9ms a3vM9n5.9oc.9mj.9o3.9mw a3wM9n5.9oc.9ms a3xM9n4.9oc.9nw.9nv",
   "a3yM9n8.9lu.9mh.9mw.9nv a3zM9n8.9m7.9nv a40M9n8.9mb a41M9n7.9nv a42M9n9.9lt.9nt.9mr.9mx",
   "a43M9n9.9lv.9oc.9mw a44M9na.9mr.9mf.9lz.9nv a45M9n9.9nt.9o3 a46M9nc.9m7.9mn.9oc.9nv",
   "a47M9ne.9ml a48M9ne.9mz.9n6 a49M9nc.9nv.9ms a4aM9ne.9o3.9mh a4bM9ne.9oc.9mg a4cM9nd.9oc.9mn",
   "a4dM9nh.9lw.9o3.9mw a4eM9ng.9nv.9mw a4fM9nf.9o3 a4gM9nh.9o3.9mx a4hM9nf.9oc.9nv",
   "a4iM9nf.9oc.9o3 a4jM9ni.9lw.9m7.9nx a4kM9ni.9lw.9nv a4lM9ni.9mr.9n3 a4mM9ni.9nv.9m7",
   "a4nM9ni.9o3.9mf.9nr.9o3 a4oM9nj.9m7.9nx.9o3 a4pM9nj.9nu a4qM9nj.9nu.9n4.9oc.9nv a4rM9nl.9m4",
   "a4sM9nl.9m4.9mw.9o3 a4tM9nl.9oc.9mw.9nv a4uM9no.9oc.9mx a4vM9no.9oc.9nv a4wM9nq.9lu.9o3",
   "a4xM9nu.9mr.9mw.9nv a4yM9nu.9nt a4zM9nv.9n8.9oc a50M9nv.9oc.9na.9nv a51M9nw.9nk",
   "a52M9nw.9o3.9mw.9ma.9o3 a53M9nz.9mr.9mw a54M1c.m9l a55M1d.m9l a56M1e.m9l a57M1f.m9l",
   "a58M1g.m9l a59M1h.m9l a5aM1i.m9l a5bM1j.m9l a5cM1k.m9l a5dM1l.m9l a5eM1d.1c.m9l",
   "a5fM1d.1d.m9l a5gM1d.1e.m9l a5hM1d.1f.m9l a5iM1d.1g.m9l a5jM1d.1h.m9l a5kM1d.1i.m9l",
   "a5lM1d.1j.m9l a5mM1d.1k.m9l a5nM1d.1l.m9l a5oM1e.1c.m9l a5pM1e.1d.m9l a5qM1e.1e.m9l",
   "a5rM1e.1f.m9l a5sM1e.1g.m9l a5tM2w.34.2p a5uM2s.2p a5vM2p.39 a5wM2q.2p.36 a5xM33.3a",
   "a5yM34.2r a5zM2s.31 a60M2s.31.1e a61M2s.31.1f a62M2x.39 a63Minn.jdc a64Mk6l.gp8 a65Mhlz.l7n",
   "a66Mk5q.lh7 a67Mkkq.irz.fmi.ny6 a68M34.2p a69M32.2p a6aMqk.2p a6bM31.2p a6cM2z.2p a6dM2z.2q",
   "a6eM31.2q a6fM2v.2q a6gM2r.2p.30 a6hM2z.2r.2p.30 a6iM34.2u a6jM32.2u a6kMqk.2u a6lMqk.2v",
   "a6mM31.2v a6nM2z.2v a6oM2w.3e a6pM2z.2w.3e a6qM31.2w.3e a6rM2v.2w.3e a6sM38.2w.3e a6tMqk.30",
   "a6uM31.30 a6vM2s.30 a6wM2z.30 a6xM2u.31 a6yM32.31 a6zMqk.31 a70M31.31 a71M2r.31 a72M2z.31",
   "a73M31.31.1e a74M2r.31.1e a75M31.1e a76M2z.31.1e a77M31.31.1f a78M2r.31.1f a79M31.1f",
   "a7aM2z.31.1f a7bM31.6qd.37 a7cM31.6qd.37.1e a7dM34.2p a7eM2z.34.2p a7fM31.34.2p",
   "a7gM2v.34.2p a7hM36.2p.2s a7iM36.2p.2s.6qd.37 a7jM36.2p.2s.6qd.37.1e a7kM34.37 a7lM32.37",
   "a7mMqk.37 a7nM31.37 a7oM34.3a a7pM32.3a a7qMqk.3a a7rM31.3a a7sM2z.3a a7tM31.3a a7uM34.3b",
   "a7vM32.3b a7wMqk.3b a7xM31.3b a7yM2z.3b a7zM31.3b a80M2z.qx a81M31.qx a82X a83M2q.35",
   "a84M2r.2r a85M2r.2s a86M2r.6qd.2z.2v a87X a88M2s.2q a89M2v.3d a8aM2w.2p a8bM2w.34 a8cM2x.32",
   "a8dM2z.2z a8eM2z.31 a8fM2z.38 a8gM30.31 a8hM30.32 a8iM30.33.2v a8jM30.3c a8kM31.2q",
   "a8lM31.2x.30 a8mM31.33.30 a8nM34.2w a8oX a8pM34.34.31 a8qM34.36 a8rM37.36 a8sM37.3a",
   "a8tM3b.2q a8uM3a.6qd.31 a8vM2p.6qd.31 a8wM1d.k4l a8xM1e.k4l a8yM1f.k4l a8zM1g.k4l",
   "a90M1h.k4l a91M1i.k4l a92M1j.k4l a93M1k.k4l a94M1l.k4l a95M1d.1c.k4l a96M1d.1d.k4l",
   "a97M1d.1e.k4l a98M1d.1f.k4l a99M1d.1g.k4l a9aM1d.1h.k4l a9bM1d.1i.k4l a9cM1d.1j.k4l",
   "a9dM1d.1k.k4l a9eM1d.1l.k4l a9fM1e.1c.k4l a9gM1e.1d.k4l a9hM1e.1e.k4l a9iM1e.1f.k4l",
   "a9jM1e.1g.k4l a9kM1e.1h.k4l a9lM1e.1i.k4l a9mM1e.1j.k4l a9nM1e.1k.k4l a9oM1e.1l.k4l",
   "a9pM1f.1c.k4l a9qM1f.1d.k4l a9rM2v.2p.30 a9sV wi5X wi8V wjrX wk0V wtoX wu8Mwu9 wu9V wuaMwub",
   "wubV wucMwud wudV wueMwuf wufV wugMwuh wuhV wuiMwuj wujV wukMwul wulV wumMwun wunV wuoMwup",
   "wupV wuqMwur wurV wusMwut wutV wuuMwuv wuvV wuwMwux wuxV wuyMwuz wuzV wv0Mwv1 wv1V wv2Mwv3",
   "wv3V wv4Mwv5 wv5V wv6Mwv7 wv7V wv8Mwv9 wv9V wvaMwvb wvbV wvcMwvd wvdV wveMwvf wvfV wvgMwvh",
   "wvhV ww0Mww1 ww1V ww2Mww3 ww3V ww4Mww5 ww5V ww6Mww7 ww7V ww8Mww9 ww9V wwaMwwb wwbV wwcMwwd",
   "wwdV wweMwwf wwfV wwgMwwh wwhV wwiMwwj wwjV wwkMwwl wwlV wwmMwwn wwnV wwoMwwp wwpV wwqMwwr",
   "wwrV wwsMui wwtMuk wwuV wzcX wzkV x0iMx0j x0jV x0kMx0l x0lV x0mMx0n x0nV x0oMx0p x0pV",
   "x0qMx0r x0rV x0sMx0t x0tV x0uMx0v x0vV x0yMx0z x0zV x10Mx11 x11V x12Mx13 x13V x14Mx15 x15V",
   "x16Mx17 x17V x18Mx19 x19V x1aMx1b x1bV x1cMx1d x1dV x1eMx1f x1fV x1gMx1h x1hV x1iMx1j x1jV",
   "x1kMx1l x1lV x1mMx1n x1nV x1oMx1p x1pV x1qMx1r x1rV x1sMx1t x1tV x1uMx1v x1vV x1wMx1x x1xV",
   "x1yMx1z x1zV x20Mx21 x21V x22Mx23 x23V x24Mx25 x25V x26Mx27 x27V x28Mx29 x29V x2aMx2b x2bV",
   "x2cMx2d x2dV x2eMx2f x2fV x2gMx2h x2hV x2iMx2j x2jV x2kMx2l x2lV x2mMx2n x2nV x2oMx2n x2pV",
   "x2xMx2y x2yV x2zMx30 x30V x31M5tl x32Mx33 x33V x34Mx35 x35V x36Mx37 x37V x38Mx39 x39V",
   "x3aMx3b x3bV x3fMx3g x3gV x3hMh1 x3iV x3kMx3l x3lV x3mMx3n x3nV x3qMx3r x3rV x3sMx3t x3tV",
   "x3uMx3v x3vV x3wMx3x x3xV x3yMx3z x3zV x40Mx41 x41V x42Mx43 x43V x44Mx45 x45V x46Mx47 x47V",
   "x48Mx49 x49V x4aMh2 x4bMgs x4cMgx x4dMh8 x4eMh6 x4fV x4gMim x4hMhz x4iMil x4jMxub x4kMx4l",
   "x4lV x4mMx4n x4nV x4oMx4p x4pV x4qMx4r x4rV x4sMx4t x4tV x4uMx4v x4vV x4wMx4x x4xV x4yMx4z",
   "x4zV x50Mx3o x51Mhu x52M5u6 x53Mx54 x54V x55Mx56 x56V x57Mh0 x58Mx59 x59V x5aMx5b x5bV",
   "x5cMx5d x5dV x5eMx5f x5fV x5gMx5h x5hV x5iMx5j x5jV x5kMx5l x5lV x5mMx5n x5nV x5oMbf x5pX",
   "x69M37 x6aM2r x6bM2u x6cM35 x6dMx6e x6eV x6gM87 x6hM9f x6iV x7xX x80V x8aX x8gV xa0X xa8V",
   "xc6X xceV xcqX xcwV xg4X xgfV xh9X xhcV xjiX xjjV xjuX xjyV xkvX xkwV xmfX xmoV xn2X xn4V",
   "xneX xngV xqbX xqzV xrrX xs1V xs7X xs9V xsfX xshV xsnX xswV xt3X xt4V xtbX xtcV xukMx0n",
   "xulMxtj xumMh7 xunMxua xuoV xuxMi5 xuyV xv0X xv4M3vk xv5M3vl xv6M3vm xv7M3vn xv8M3vo",
   "xv9M3vp xvaM3vq xvbM3vr xvcM3vs xvdM3vt xveM3vu xvfM3vv xvgM3vw xvhM3vx xviM3vy xvjM3vz",
   "xvkM3w0 xvlM3w1 xvmM3w2 xvnM3w3 xvoM3w4 xvpM3w5 xvqM3w6 xvrM3w7 xvsM3w8 xvtM3w9 xvuM3wa",
   "xvvM3wb xvwM3wc xvxM3wd xvyM3we xvzM3wf xw0M3wg xw1M3wh xw2M3wi xw3M3wj xw4M3wk xw5M3wl",
   "xw6M3wm xw7M3wn xw8M3wo xw9M3wp xwaM3wq xwbM3wr xwcM3ws xwdM3wt xweM3wu xwfM3wv xwgM3ww",
   "xwhM3wx xwiM3wy xwjM3wz xwkM3x0 xwlM3x1 xwmM3x2 xwnM3x3 xwoM3x4 xwpM3x5 xwqM3x6 xwrM3x7",
   "xwsM3x8 xwtM3x9 xwuM3xa xwvM3xb xwwM3xc xwxM3xd xwyM3xe xwzM3xf xx0M3xg xx1M3xh xx2M3xi",
   "xx3M3xj xx4M3xk xx5M3xl xx6M3xm xx7M3xn xx8M3xo xx9M3xp xxaM3xq xxbM3xr xxcV xymX xyoV xyyX",
   "xz4V 16lgX 16lsV 16mfX 16mjV 16nwX 1d6oMrpk 1d6pMkc4 1d6qMs7e 1d6rMrt4 1d6sMlw1 1d6tMfg2",
   "1d6uMgkl 1d6vMvj0 1d6xMhn5 1d6yMssx 1d6zMgw7 1d70Mhmw 1d71Mjcm 1d72Mne1 1d73Mp6t 1d74Mqin",
   "1d75Mqt6 1d76Mr20 1d77Msjz 1d78Mkxu 1d79Mljv 1d7aMmah 1d7bMmvy 1d7cMq4d 1d7dMsq2 1d7eMuep",
   "1d7fMfia 1d7gMghh 1d7hMl50 1d7iMmjf 1d7jMqi5 1d7kMv8e 1d7lMifk 1d7mMm3v 1d7nMqfh 1d7oMr50",
   "1d7pMjih 1d7qMpnc 1d7rMqvz 1d7sMiq2 1d7tMkd3 1d7uMlm2 1d7vMmpo 1d7wMslq 1d7xMfpi 1d7yMg53",
   "1d7zMgda 1d80Mjwk 1d81Ml3n 1d82Mmj4 1d83Mnhj 1d84Mpa9 1d85Mqh2 1d86Mqjg 1d87Ms1b 1d88Mtv6",
   "1d89Mupb 1d8aMv7e 1d8bMnt8 1d8cMnzz 1d8dMotc 1d8eMq15 1d8fMt1g 1d8gMvb3 1d8hMrfa 1d8iMhjz",
   "1d8jMiro 1d8kMokg 1d8lMpdq 1d8mMmle 1d8nMnuy 1d8oMrsy 1d8pMttj 1d8qMhjs 1d8rMi8y 1d8sMkyb",
   "1d8tMlp6 1d8uMlxr 1d8vMoq7 1d8wMoxj 1d8xMtor 1d8yMgcy 1d8zMpe3 1d90Mg64 1d91Mg5o 1d92Mo4c",
   "1d93Mou6 1d94Mq29 1d95Mtpx 1d96Mrk0 1d97Mjin 1d98Mkxu 1d99Mrge 1d9aMfg9 1d9bMi5j 1d9cMiz6",
   "1d9dMmtj 1d9eMn74 1d9fMgev 1d9gMnwb 1d9hMfr3 1d9iMiw9 1d9jMff1 1d9kMlho 1d9lMk1k 1d9mMopu",
   "1d9nMgjn 1d9oMhge 1d9pMni9 1d9qMq4p 1d9rMre2 1d9sMla2 1d9tMsds 1d9uMlfs 1d9vMjjy 1d9wMput",
   "1d9xMjog 1d9yMn6t 1d9zMfji 1da0Mg2x 1da1Mg5l 1da2Mkn5 1da3Moo7 1da4Mprj 1da5Mrf6 1da6Mssv",
   "1da7Mgdx 1da8Mgn6 1da9Mho3 1daaMir0 1dabMk3p 1dacMm4e 1dadMnxm 1daeMtkd 1dafMui2 1dagMvbr",
   "1dahMvda 1daiMgbf 1dajMkau 1dakMl87 1dalMsbm 1damMino 1danMj9s 1daoMjcw 1dapMjve 1daqMlyb",
   "1darMmdl 1dasMn0p 1datMo22 1dauMovo 1davMpdb 1dawMs9y 1daxMq9a 1dayMsgz 1dazMt3e 1db0Mg7r",
   "1db1Mgbn 1db2Mgql 1db3Mma0 1db4Mr0i 1db5Mre2 1db6Miq1 1db7Miyd 1db8Mjnf 1db9Ml9q 1dbaMoji",
   "1dbbMmt1 1dbcMfl0 1dbdMh6h 1dbeMi5j 1dbfMiii 1dbgMizg 1dbhMmuq 1dbiMmzt 1dbjMp7e 1dbkMpc6",
   "1dblMsvo 1dbmMtti 1dbnMtvs 1dboMu1k 1dbpMfpn 1dbqMo1a 1dbrMss4 1dbsMtrs 1dbtMj4x 1dbuMfie",
   "1dbvMfyy 1dbwMi5q 1dbxMi7z 1dbyMk2h 1dbzMkxu 1dc0Mmha 1dc1Mncy 1dc2Mq9o 1dc3Msjg 1dc4Mvil",
   "1dc5Mk94 1dc6Mtny 1dc7Mgax 1dc8Mkfv 1dc9Mkj7 1dcaMlkx 1dcbMluk 1dccMmx5 1dcdMn6h 1dceMnsb",
   "1dcfMopc 1dcgMu3i 1dchMg31 1dciMje6 1dcjMtq0 1dckMfu3 1dclMie1 1dcmMlpm 1dcnMsa2 1dcoMivf",
   "1dcpMj7o 1dcqMkk7 1dcrMmtj 1dcsMtqe 1dctMg89 1dcuMglr 1dcvMi91 1dcwMk5v 1dcxMkem 1dcyMko8",
   "1dczMlid 1dd0Mmx2 1dd1Mnaa 1dd2Mp6h 1dd3Mr0v 1dd4Mr1d 1dd5Msss 1dd6Mtsy 1dd7Mgfz 1dd8Mlve",
   "1dd9Mgm5 1ddaMmhc 1ddbMn14 1ddcMqgq 1dddMtr7 1ddeMuvr 1ddfMvbz 1ddgMkgn 1ddhMlor 1ddiMpns",
   "1ddjMo97 1ddkMobk 1ddlMolu 1ddmMmo0 1ddnMm8p 1ddoMriw 1ddpMfk0 1ddqMpx2 1ddrMg8q 1ddsMg7b",
   "1ddtMip2 1dduMjir 1ddvMonq 1ddwMi2t 1ddxMljy 1ddyMkac 1ddzMsaj 1de0Mqx8 1de1Mtot 1de2Mr63",
   "1de3Miqb 1de4Mg1s 1de5Mgxs 1de6V 1de8Mhga 1de9V 1deaMk8k 1debV 1dedMg66 1deeMmqy 1defMngq",
   "1degMny4 1dehMnz2 1deiMnz9 1dejMo0f 1dekMtw6 1delMon2 1demMp8d 1denV 1deoMqhe 1depV",
   "1deqMrg8 1derV 1detMshk 1deuMsn1 1devV 1deyMu7j 1dezMu7w 1df0Mu94 1df1Mv5g 1df2Msm6",
   "1df3Mtrr 1df4Mfqm 1df5Mfzb 1df6Mg25 1df7Mgcp 1df8Mgdg 1df9Mggh 1dfaMgwt 1dfbMgzq 1dfcMh2g",
   "1dfdMhfk 1dfeMhig 1dffMi90 1dfgMi9a 1dfhMj2s 1dfiMj8o 1dfjMj9q 1dfkMjci 1dflMk0f 1dfmMk4i",
   "1dfnMk9d 1dfoMkn9 1dfpMlmf 1dfqMlqy 1dfrMlya 1dfsMmem 1dftMmjv 1dfuMmxu 1dfvMntd 1dfwMny6",
   "1dfxMnyh 1dfyMnyg 1dfzMnyo 1dg0Mnyu 1dg1Mnz1 1dg2Mo0d 1dg3Mo0e 1dg4Mo5c 1dg5Mo75 1dg6Mog0",
   "1dg7Movo 1dg8Mow9 1dg9Moxt 1dgaMp6a 1dgbMpad 1dgcMpnx 1dgdMprt 1dgfMq53 1dggMr2o 1dghMr6e",
   "1dgiMrgh 1dgjMri1 1dgkMrtf 1dglMruw 1dgmMsdy 1dgnMshk 1dgoMtsz 1dgpMu0v 1dgqMu2j 1dgrMj1x",
   "1dgsM36cu 1dgtMpp4 1dguX 1dgwMffq 1dgxMg51 1dgyMg2w 1dgzMfpc 1dh0Mg1x 1dh1Mg3k 1dh2Mgcn",
   "1dh3Mge2 1dh4Mgwt 1dh5Mgut 1dh6Mgwp 1dh7Mgyq 1dh8Mhga 1dh9Mhir 1dhaMhms 1dhbMhn8 1dhcMhuq",
   "1dhdMi08 1dheMiqa 1dhfMiqh 1dhgMiuh 1dhhMiwd 1dhiMj4o 1dhjMj7y 1dhkMj60 1dhlMj9q 1dhmMj8g",
   "1dhnMjci 1dhoMjec 1dhpMjpg 1dhqMjrw 1dhrMjte 1dhsMk0m 1dhtMk8k 1dhuMkd3 1dhvMkd7 1dhwMkeu",
   "1dhxMl89 1dhyMla2 1dhzMlkx 1di0Mlwb 1di1Mlvv 1di2Mlya 1di3Mm5a 1di4Mmem 1di5Mnmv 1di6Mmk5",
   "1di7Mmnj 1di8Mmqy 1di9Mn01 1diaMn46 1dibMn5n 1dicMnbx 1didMnbz 1dieMngq 1difMnh7 1digMnhw",
   "1dihMnka 1diiMnk0 1dijMnv0 1dikMo8h 1dilMog0 1dimMol7 1dinMorf 1dioMovo 1dipMp4u 1diqMpad",
   "1dirMpxu 1disMq27 1ditMqrd 1diuMr41 1divMr5y 1diwMr6e 1dixMren 1diyMrg8 1dizMrez 1dj0Mrgh",
   "1dj1Mrge 1dj2Mrfx 1dj3Mri1 1dj4Mrka 1dj5Mruw 1dj6Msag 1dj7Msj6 1dj8Msrd 1dj9Msxi 1djaMtq4",
   "1djbMtsz 1djcMtw6 1djdMtzv 1djeMu0v 1djfMu17 1djgMu2j 1djhMumq 1djiMvj0 1djjM313e 1djkM3138",
   "1djlM33dh 1djmMbrx 1djnMcns 1djoMcop 1djpM39e1 1djqM3bgw 1djrM3i6r 1djsMvgj 1djtMvim 1djuX",
   "1dkwM2u.2u 1dkxM2u.2x 1dkyM2u.30 1dkzM2u.2u.2x 1dl0M2u.2u.30 1dl1M37.38 1dl3X 1dlfM12s.12u",
   "1dlgM12s.12d 1dlhM12s.12j 1dliM132.12u 1dljM12s.12l 1dlkX 1dlpM15l.14k 1dlqV 1dlrM16a.14n",
   "1dlsM15u 1dltM15c 1dluM15f 1dlvM15g 1dlwM15n 1dlxM15o 1dlyM15p 1dlzM160 1dm0M162 1dm1M17",
   "1dm2M161.14x 1dm3M161.14y 1dm4M161.14s.14x 1dm5M161.14s.14y 1dm6M15c.14n 1dm7M15c.14o",
   "1dm8M15c.14s 1dm9M15d.14s 1dmaM15e.14s 1dmbM15f.14s 1dmcM15g.14s 1dmdM15h.14s 1dmeM15i.14s",
   "1dmfX 1dmgM15k.14s 1dmhM15l.14s 1dmiM15m.14s 1dmjM15n.14s 1dmkM15o.14s 1dmlX 1dmmM15q.14s",
   "1dmnX 1dmoM15s.14s 1dmpM15t.14s 1dmqX 1dmrM15v.14s 1dmsM15w.14s 1dmtX 1dmuM15y.14s",
   "1dmvM15z.14s 1dmwM160.14s 1dmxM161.14s 1dmyM162.14s 1dmzM15h.14p 1dn0M15d.14v 1dn1M15n.14v",
   "1dn2M15w.14v 1dn3M15c.15o 1dn4M19t 1dn6M1a3 1dnaM1a6 1dneM1a8 1dniM1a2 1dnmM1a7 1dnqM1a1",
   "1dnuM1b8 1dnyM1ba 1do2M1ac 1do6M1ab 1doaM1ae 1doeM1af 1doiM1al 1dokM1ak 1domM1am 1dooM1ag",
   "1doqM1aw 1dosM1ap 1douM1bd 1doyM1bj 1dp2M1bn 1dp6M1bl 1dpaM1bu 1dpcM1bv 1dpgM1c0 1dpiM1c1",
   "1dpmM1by 1dpqM1ci 1dpsM1cj 1dpuV 1dqrM1bh 1dqvM1c7 1dqxM1c6 1dqzM1c8 1dr1M1c7.19w 1dr2M1cb",
   "1dr4M1c5 1dr6M1c9 1dr8M1cg 1drcM18p 1dreM17q.17r 1drgM17q.1cl 1driM17q.18o 1drkM17q.1c7",
   "1drmM17q.1c6 1droM17q.1c8 1drqM17q.1cg 1drtM17q.18p 1drwM1cc 1ds0M17q.17w 1ds1M17q.17x",
   "1ds2M17q.18l 1ds3M17q.18p 1ds4M17q.18q 1ds5M17s.17w 1ds6M17s.17x 1ds7M17s.17y 1ds8M17s.18l",
   "1ds9M17s.18p 1dsaM17s.18q 1dsbM17u.17w 1dscM17u.17x 1dsdM17u.17y 1dseM17u.18l 1dsfM17u.18p",
   "1dsgM17u.18q 1dshM17v.17w 1dsiM17v.18l 1dsjM17v.18p 1dskM17v.18q 1dslM17w.17x 1dsmM17w.18l",
   "1dsnM17x.17w 1dsoM17x.18l 1dspM17y.17w 1dsqM17y.17x 1dsrM17y.18l 1dssM183.17w 1dstM183.17x",
   "1dsuM183.17y 1dsvM183.18l 1dswM185.17x 1dsxM185.18l 1dsyM186.17w 1dszM186.17x 1dt0M186.17y",
   "1dt1M186.18l 1dt2M187.17x 1dt3M187.18l 1dt4M188.18l 1dt5M189.17w 1dt6M189.18l 1dt7M18a.17w",
   "1dt8M18a.18l 1dt9M18h.17w 1dtaM18h.17x 1dtbM18h.17y 1dtcM18h.18l 1dtdM18h.18p 1dteM18h.18q",
   "1dtfM18i.17x 1dtgM18i.18l 1dthM18i.18p 1dtiM18i.18q 1dtjM18j.17r 1dtkM18j.17w 1dtlM18j.17x",
   "1dtmM18j.17y 1dtnM18j.18k 1dtoM18j.18l 1dtpM18j.18p 1dtqM18j.18q 1dtrM18k.17w 1dtsM18k.17x",
   "1dttM18k.17y 1dtuM18k.18l 1dtvM18k.18p 1dtwM18k.18q 1dtxM18l.17w 1dtyM18l.17x 1dtzM18l.17y",
   "1du0M18l.18l 1du1M18l.18p 1du2M18l.18q 1du3M18m.17w 1du4M18m.17x 1du5M18m.17y 1du6M18m.18l",
   "1du7M18m.18p 1du8M18m.18q 1du9M18n.17w 1duaM18n.18l 1dubM18n.18p 1ducM18n.18q 1dudM18q.17w",
   "1dueM18q.17x 1dufM18q.17y 1dugM18q.18l 1duhM18q.18p 1duiM18q.18q 1dujM180.19s 1dukM181.19s",
   "1dulM18p.19s 1dumMw.18s.18x 1dunMw.18t.18x 1duoMw.18u.18x 1dupMw.18v.18x 1duqMw.18w.18x",
   "1durMw.18x.19s 1dusM17q.181 1dutM17q.182 1duuM17q.18l 1duvM17q.18m 1duwM17q.18p",
   "1duxM17q.18q 1duyM17s.181 1duzM17s.182 1dv0M17s.18l 1dv1M17s.18m 1dv2M17s.18p 1dv3M17s.18q",
   "1dv4M17u.181 1dv5M17u.182 1dv6M17u.18l 1dv7M17u.18m 1dv8M17u.18p 1dv9M17u.18q 1dvaM17v.181",
   "1dvbM17v.182 1dvcM17v.18l 1dvdM17v.18m 1dveM17v.18p 1dvfM17v.18q 1dvgM18h.18p 1dvhM18h.18q",
   "1dviM18i.18p 1dvjM18i.18q 1dvkM18j.17r 1dvlM18j.18k 1dvmM18j.18l 1dvnM18j.18p 1dvoM18j.18q",
   "1dvpM18k.18l 1dvqM18k.18p 1dvrM18k.18q 1dvsM18l.17r 1dvtM18l.18l 1dvuM18m.181 1dvvM18m.182",
   "1dvwM18m.18l 1dvxM18m.18m 1dvyM18m.18p 1dvzM18m.18q 1dw0M18p.19s 1dw1M18q.181 1dw2M18q.182",
   "1dw3M18q.18l 1dw4M18q.18m 1dw5M18q.18p 1dw6M18q.18q 1dw7M17q.17w 1dw8M17q.17x 1dw9M17q.17y",
   "1dwaM17q.18l 1dwbM17q.18n 1dwcM17s.17w 1dwdM17s.17x 1dweM17s.17y 1dwfM17s.18l 1dwgM17s.18n",
   "1dwhM17u.17w 1dwiM17u.17x 1dwjM17u.17y 1dwkM17u.18l 1dwlM17u.18n 1dwmM17v.18l 1dwnM17w.17x",
   "1dwoM17w.18l 1dwpM17x.17w 1dwqM17x.18l 1dwrM17y.17w 1dwsM17y.18l 1dwtM183.17w 1dwuM183.17x",
   "1dwvM183.17y 1dwwM183.18l 1dwxM185.17x 1dwyM185.17y 1dwzM185.18l 1dx0M186.17w 1dx1M186.17x",
   "1dx2M186.17y 1dx3M186.18l 1dx4M187.17x 1dx5M188.18l 1dx6M189.17w 1dx7M189.18l 1dx8M18a.17w",
   "1dx9M18a.18l 1dxaM18h.17w 1dxbM18h.17x 1dxcM18h.17y 1dxdM18h.18l 1dxeM18i.17x 1dxfM18i.18l",
   "1dxgM18j.17w 1dxhM18j.17x 1dxiM18j.17y 1dxjM18j.18k 1dxkM18j.18l 1dxlM18k.17w 1dxmM18k.17x",
   "1dxnM18k.17y 1dxoM18k.18l 1dxpM18k.18n 1dxqM18l.17w 1dxrM18l.17x 1dxsM18l.17y 1dxtM18l.18l",
   "1dxuM18m.17w 1dxvM18m.17x 1dxwM18m.17y 1dxxM18m.18l 1dxyM18m.18n 1dxzM18n.17w 1dy0M18n.18l",
   "1dy1M18n.19s 1dy2M18q.17w 1dy3M18q.17x 1dy4M18q.17y 1dy5M18q.18l 1dy6M18q.18n 1dy7M17q.18l",
   "1dy8M17q.18n 1dy9M17s.18l 1dyaM17s.18n 1dybM17u.18l 1dycM17u.18n 1dydM17v.18l 1dyeM17v.18n",
   "1dyfM183.18l 1dygM183.18n 1dyhM184.18l 1dyiM184.18n 1dyjM18j.18k 1dykM18j.18l 1dylM18k.18l",
   "1dymM18m.18l 1dynM18m.18n 1dyoM18q.18l 1dypM18q.18n 1dyqM18g.18u.18x 1dyrM18g.18v.18x",
   "1dysM18g.18w.18x 1dytM187.18p 1dyuM187.18q 1dyvM189.18p 1dywM189.18q 1dyxM18a.18p",
   "1dyyM18a.18q 1dyzM183.18p 1dz0M183.18q 1dz1M184.18p 1dz2M184.18q 1dz3M17x.18p 1dz4M17x.18q",
   "1dz5M17w.18p 1dz6M17w.18q 1dz7M17y.18p 1dz8M17y.18q 1dz9M185.18p 1dzaM185.18q 1dzbM186.18p",
   "1dzcM186.18q 1dzdM184.17w 1dzeM184.17x 1dzfM184.17y 1dzgM184.18l 1dzhM184.181 1dziM183.181",
   "1dzjM185.181 1dzkM186.181 1dzlM187.18p 1dzmM187.18q 1dznM189.18p 1dzoM189.18q 1dzpM18a.18p",
   "1dzqM18a.18q 1dzrM183.18p 1dzsM183.18q 1dztM184.18p 1dzuM184.18q 1dzvM17x.18p 1dzwM17x.18q",
   "1dzxM17w.18p 1dzyM17w.18q 1dzzM17y.18p 1e00M17y.18q 1e01M185.18p 1e02M185.18q 1e03M186.18p",
   "1e04M186.18q 1e05M184.17w 1e06M184.17x 1e07M184.17y 1e08M184.18l 1e09M184.181 1e0aM183.181",
   "1e0bM185.181 1e0cM186.181 1e0dM184.17w 1e0eM184.17x 1e0fM184.17y 1e0gM184.18l 1e0hM183.18n",
   "1e0iM184.18n 1e0jM187.18l 1e0kM183.17w 1e0lM183.17x 1e0mM183.17y 1e0nM184.17w 1e0oM184.17x",
   "1e0pM184.17y 1e0qM187.18l 1e0rM188.18l 1e0sM17r.18r 1e0uV 1e1cM17u.17w.18l 1e1dM17u.17x.17w",
   "1e1fM17u.17x.18l 1e1gM17u.17y.18l 1e1hM17u.18l.17w 1e1iM17u.18l.17x 1e1jM17u.18l.17y",
   "1e1kM17w.18l.17x 1e1mM17x.18l.18q 1e1nM17x.18l.18p 1e1oM183.17x.17w 1e1pM183.17w.17x",
   "1e1qM183.17w.18p 1e1rM183.18l.17x 1e1tM183.18l.17w 1e1uM183.18l.18l 1e1wM185.17x.17x",
   "1e1yM185.18l.18l 1e1zM184.17x.18l 1e21M184.17w.18q 1e22M184.18l.17y 1e24M184.18l.18l",
   "1e26M186.17x.18p 1e27M186.17y.18l 1e29M187.18l.17x 1e2bM187.18l.18l 1e2cM187.18l.18q",
   "1e2dM189.17w.18l 1e2eM189.18l.18l 1e2gM189.18l.18p 1e2hM18a.18l.18l 1e2iM18a.18l.18q",
   "1e2jM18a.18l.18p 1e2kM18h.17y.18l 1e2mM18i.18l.17x 1e2nM18i.18l.18l 1e2oM18k.17x.18l",
   "1e2pM18k.17x.18q 1e2qM18k.17x.18p 1e2rM18k.17w.17w 1e2tM18k.17y.18l 1e2vM18k.18l.17x",
   "1e2xM18l.17x.17w 1e2yM18l.17x.18l 1e2zM18l.17x.18q 1e30M18l.17w.17x 1e31M18l.17w.18l",
   "1e32M18l.17y.17w 1e33M18l.17y.18l 1e34V 1e36M18l.17w.17y 1e37M18n.18l.17w 1e38M18n.18l.18l",
   "1e39M18m.17x.18l 1e3aM18m.17x.18p 1e3bM18m.17w.18l 1e3dM18m.17w.18p 1e3eM18m.18l.18q",
   "1e3fM18m.18l.18p 1e3gM18q.18l.18l 1e3iM17s.17y.18q 1e3jM17u.17w.18q 1e3kM17u.17w.18p",
   "1e3lM17u.17y.18q 1e3mM17u.17y.18p 1e3nM17u.18l.18q 1e3oM17u.18l.18p 1e3pM17w.18l.18q",
   "1e3qM17w.17x.18p 1e3rM17w.18l.18p 1e3sM183.17y.18p 1e3tM185.17x.18q 1e3uM184.17x.18q",
   "1e3vM186.17x.18q 1e3wM18k.17w.18q 1e3xM18k.18l.18q 1e3yM18q.17x.18q 1e3zM18q.17w.18q",
   "1e40M18q.18l.18q 1e41M18l.18l.18q 1e42M18i.18l.18q 1e43M18m.17x.18q 1e44M18i.18l.17x",
   "1e45M18k.17x.18l 1e46M189.18l.18q 1e47M18j.18l.18q 1e48M18m.17w.17x 1e49M18l.17y.18q",
   "1e4aM18k.17w.18l 1e4bM18j.18l.18l 1e4cM18k.17w.18l 1e4dM18m.17w.17x 1e4eM17w.17x.18q",
   "1e4fM17x.17w.18q 1e4gM18l.17w.18q 1e4hM18h.18l.18q 1e4iM17s.17x.18q 1e4jM18j.18l.18l",
   "1e4kM189.17w.18l 1e4lM185.18l.18l 1e4mM183.17y.18q 1e4nM18m.17w.18q 1e4oV 1e4wX",
   "1e5sM185.18k.1ci 1e5tM18i.18k.1ci 1e5uM17r.18k.18k.18n 1e5vM17r.18j.17s.181",
   "1e5wM18l.17x.18l.17z 1e5xM185.18k.189.18l 1e5yM181.183.18o.18k 1e5zM189.18k.18q.18n",
   "1e60M18o.183.18k.18l 1e61M185.18k.18p",
   "1e62M185.18k.18p.w.17r.18k.18k.18n.w.189.18k.18q.18n.w.18o.183.18k.18l",
   "1e63M17w.18k.w.17w.18k.17r.18k.18n 1e64M181.1cc.17r.18k 1e65V 1e68I 1e6oM18 1e6pM9hd 1e6qX",
   "1e6rM1m 1e6sM1n 1e6tMx 1e6uM1r 1e6vM9hy 1e6wM9hz 1e6xX 1e74V 1e7kX 1e7lM6c4 1e7mM6c3",
   "1e7nM2n 1e7pM14 1e7qM15 1e7rM3f 1e7sM3h 1e7tM9hw 1e7uM9hx 1e7vM9hs 1e7wM9ht 1e7xM9hm",
   "1e7yM9hn 1e7zM9hk 1e80M9hl 1e81M9ho 1e82M9hp 1e83M9hq 1e84M9hr 1e85V 1e87M2j 1e88M2l",
   "1e89Mw.lh 1e8dM2n 1e8gM18 1e8hM9hd 1e8iX 1e8kM1n 1e8lM1m 1e8mM1r 1e8nMx 1e8oM6c4 1e8pM14",
   "1e8qM15 1e8rM3f 1e8sM3h 1e8tM9hw 1e8uM9hx 1e8vMz 1e8wM12 1e8xM16 1e8yM17 1e8zM19 1e90M1o",
   "1e91M1q 1e92M1p 1e93X 1e94M2k 1e95M10 1e96M11 1e97M1s 1e98X 1e9cMw.18r 1e9dM18g.18r",
   "1e9eMw.18s 1e9fV 1e9gMw.18t 1e9hX 1e9iMw.18u 1e9jM18g.18u 1e9kMw.18v 1e9lM18g.18v",
   "1e9mMw.18w 1e9nM18g.18w 1e9oMw.18x 1e9pM18g.18x 1e9qMw.18y 1e9rM18g.18y 1e9sM17l 1e9tM17m",
   "1e9vM17n 1e9xM17o 1e9zM17p 1ea1M17q 1ea5M17r 1ea7M17s 1eabM17t 1eadM17u 1eahM17v 1ealM17w",
   "1eapM17x 1eatM17y 1eaxM17z 1eazM180 1eb1M181 1eb3M182 1eb5M183 1eb9M184 1ebdM185 1ebhM186",
   "1eblM187 1ebpM188 1ebtM189 1ebxM18a 1ec1M18h 1ec5M18i 1ec9M18j 1ecdM18k 1echM18l 1eclM18m",
   "1ecpM18n 1ectM18o 1ecvM18p 1ecxM18q 1ed1M18k.17m 1ed3M18k.17n 1ed5M18k.17p 1ed7M18k.17r",
   "1ed9X 1edbI 1edcX 1eddMx 1edeMy 1edfMz 1edgM10 1edhM11 1ediM12 1edjM13 1edkM14 1edlM15",
   "1edmM16 1ednM17 1edoM18 1edpM19 1edqM1a 1edrM1b 1edsM1c 1edtM1d 1eduM1e 1edvM1f 1edwM1g",
   "1edxM1h 1edyM1i 1edzM1j 1ee0M1k 1ee1M1l 1ee2M1m 1ee3M1n 1ee4M1o 1ee5M1p 1ee6M1q 1ee7M1r",
   "1ee8M1s 1ee9M2p 1eeaM2q 1eebM2r 1eecM2s 1eedM2t 1eeeM2u 1eefM2v 1eegM2w 1eehM2x 1eeiM2y",
   "1eejM2z 1eekM30 1eelM31 1eemM32 1eenM33 1eeoM34 1eepM35 1eeqM36 1eerM37 1eesM38 1eetM39",
   "1eeuM3a 1eevM3b 1eewM3c 1eexM3d 1eeyM3e 1eezM2j 1ef0M2k 1ef1M2l 1ef2M2m 1ef3M2n 1ef4M2o",
   "1ef5M2p 1ef6M2q 1ef7M2r 1ef8M2s 1ef9M2t 1efaM2u 1efbM2v 1efcM2w 1efdM2x 1efeM2y 1effM2z",
   "1efgM30 1efhM31 1efiM32 1efjM33 1efkM34 1eflM35 1efmM36 1efnM37 1efoM38 1efpM39 1efqM3a",
   "1efrM3b 1efsM3c 1eftM3d 1efuM3e 1efvM3f 1efwM3g 1efxM3h 1efyM3i 1efzM879 1eg0M87a 1eg1M1a",
   "1eg2M9ho 1eg3M9hp 1eg4M9hd 1eg5M9ob 1eg6M9o2 1eg7M9lt 1eg8M9lv 1eg9M9lx 1egaM9lz 1egbM9m1",
   "1egcM9nn 1egdM9np 1egeM9nr 1egfM9mr 1eggM9oc 1eghM9lu 1egiM9lw 1egjM9ly 1egkM9m0 1eglM9m2",
   "1egmM9m3 1egnM9m5 1egoM9m7 1egpM9m9 1egqM9mb 1egrM9md 1egsM9mf 1egtM9mh 1eguM9mj 1egvM9ml",
   "1egwM9mn 1egxM9mp 1egyM9ms 1egzM9mu 1eh0M9mw 1eh1M9my 1eh2M9mz 1eh3M9n0 1eh4M9n1 1eh5M9n2",
   "1eh6M9n3 1eh7M9n6 1eh8M9n9 1eh9M9nc 1ehaM9nf 1ehbM9ni 1ehcM9nj 1ehdM9nk 1eheM9nl 1ehfM9nm",
   "1ehgM9no 1ehhM9nq 1ehiM9ns 1ehjM9nt 1ehkM9nu 1ehlM9nv 1ehmM9nw 1ehnM9nx 1ehoM9nz 1ehpM9o3",
   "1ehqM9ll 1ehrM9lm 1ehsI 1ehtM3cw 1ehuM3cx 1ehvM3hm 1ehwM3cy 1ehxM3ho 1ehyM3hp 1ehzM3cz",
   "1ei0M3d0 1ei1M3d1 1ei2M3hs 1ei3M3ht 1ei4M3hu 1ei5M3hv 1ei6M3hw 1ei7M3hx 1ei8M3dm 1ei9M3d2",
   "1eiaM3d3 1eibM3d4 1eicM3dt 1eidM3d5 1eieM3d6 1eifM3d7 1eigM3d8 1eihM3d9 1eiiM3da 1eijM3db",
   "1eikM3dc 1eilM3dd 1eimM3de 1einX 1eiqM3fl 1eirM3fm 1eisM3fn 1eitM3fo 1eiuM3fp 1eivM3fq",
   "1eiwX 1eiyM3fr 1eizM3fs 1ej0M3ft 1ej1M3fu 1ej2M3fv 1ej3M3fw 1ej4X 1ej6M3fx 1ej7M3fy",
   "1ej8M3fz 1ej9M3g0 1ejaM3g1 1ejbM3g2 1ejcX 1ejeM3g3 1ejfM3g4 1ejgM3g5 1ejhX 1ejkM4i 1ejlM4j",
   "1ejmM4s 1ejnMw.lg 1ejoM4m 1ejpM4l 1ejqM6g9 1ejrX 1ejsM7b6 1ejtM6mo 1ejuM6mp 1ejvM6mq",
   "1ejwM6mr 1ejxM7fk 1ejyM7gr 1ejzX 1ekgV 1eksX 1ektV 1eljX 1elkV 1em3X 1em4V 1em6X 1em7V",
   "1emmX 1emoV 1en2X 1eo0V 1erfX 1erkV 1ernX 1errV 1et0X 1et3V 1evjX 1evkV 1evxX 1ew0V 1ew1X",
   "1excV 1eymX 1f28V 1f31X 1f34V 1f4hX 1f4wV 1f5oX 1f5sV 1f6sX 1f71V 1f7vX 1f80V 1f97X 1f9cV",
   "1fa6X 1fa7V 1fb8X 1fbcV 1fbqX 1fcwM1fe0 1fcxM1fe1 1fcyM1fe2 1fczM1fe3 1fd0M1fe4 1fd1M1fe5",
   "1fd2M1fe6 1fd3M1fe7 1fd4M1fe8 1fd5M1fe9 1fd6M1fea 1fd7M1feb 1fd8M1fec 1fd9M1fed 1fdaM1fee",
   "1fdbM1fef 1fdcM1feg 1fddM1feh 1fdeM1fei 1fdfM1fej 1fdgM1fek 1fdhM1fel 1fdiM1fem 1fdjM1fen",
   "1fdkM1feo 1fdlM1fep 1fdmM1feq 1fdnM1fer 1fdoM1fes 1fdpM1fet 1fdqM1feu 1fdrM1fev 1fdsM1few",
   "1fdtM1fex 1fduM1fey 1fdvM1fez 1fdwM1ff0 1fdxM1ff1 1fdyM1ff2 1fdzM1ff3 1fe0V 1fhaX 1fhcV",
   "1fhmX 1fhsM1fiw 1fhtM1fix 1fhuM1fiy 1fhvM1fiz 1fhwM1fj0 1fhxM1fj1 1fhyM1fj2 1fhzM1fj3",
   "1fi0M1fj4 1fi1M1fj5 1fi2M1fj6 1fi3M1fj7 1fi4M1fj8 1fi5M1fj9 1fi6M1fja 1fi7M1fjb 1fi8M1fjc",
   "1fi9M1fjd 1fiaM1fje 1fibM1fjf 1ficM1fjg 1fidM1fjh 1fieM1fji 1fifM1fjj 1figM1fjk 1fihM1fjl",
   "1fiiM1fjm 1fijM1fjn 1fikM1fjo 1filM1fjp 1fimM1fjq 1finM1fjr 1fioM1fjs 1fipM1fjt 1fiqM1fju",
   "1firM1fjv 1fisX 1fiwV 1fjwX 1fk0V 1fl4X 1flcV 1fmsX 1fn3V 1fn4M1fo7 1fn5M1fo8 1fn6M1fo9",
   "1fn7M1foa 1fn8M1fob 1fn9M1foc 1fnaM1fod 1fnbM1foe 1fncM1fof 1fndM1fog 1fneM1foh 1fnfX",
   "1fngM1foj 1fnhM1fok 1fniM1fol 1fnjM1fom 1fnkM1fon 1fnlM1foo 1fnmM1fop 1fnnM1foq 1fnoM1for",
   "1fnpM1fos 1fnqM1fot 1fnrM1fou 1fnsM1fov 1fntM1fow 1fnuM1fox 1fnvX 1fnwM1foz 1fnxM1fp0",
   "1fnyM1fp1 1fnzM1fp2 1fo0M1fp3 1fo1M1fp4 1fo2M1fp5 1fo3X 1fo4M1fp7 1fo5M1fp8 1fo6X 1fo7V",
   "1foiX 1fojV 1foyX 1fozV 1fp6X 1fp7V 1fp9X 1fpcV 1fqsX 1fr4V 1fzrX 1g00V 1g0mX 1g0wV 1g14X",
   "1g1sV 1g1tMk0 1g1uMk1 1g1vM6e 1g1wMih 1g1xMgj 1g1yX 1g1zMir 1g20Mxuu 1g21Mit 1g22Mis",
   "1g23Mgm 1g24Mgn 1g25M5u9 1g26Mgo 1g27Mgu 1g28Mix 1g29Mh0 1g2aMgy 1g2bMgw 1g2cMij 1g2dM87",
   "1g2eMik 1g2fMh3 1g2gMhw 1g2hMiy 1g2iMiz 1g2jMh8 1g2kM2mmc 1g2lMx3i 1g2mMha 1g2nM2mmd",
   "1g2oMi6 1g2pM2mme 1g2qM6w 1g2rMhi 1g2sMhj 1g2tM35 1g2uMhm 1g2vM2mmg 1g2wMhp 1g2xMhq 1g2yMhs",
   "1g2zMiw 1g30Miu 1g31Mxuv 1g32Miv 1g33Mi0 1g34M8s1 1g35X 1g36Mi7 1g37Mip 1g38Miq 1g39Mig",
   "1g3aMcg 1g3bMch 1g3cMci 1g3dM2mmi 1g3eM2mn2 1g3fX 1g5cV 1g5iX 1g5kV 1g5lX 1g5mV 1g6uX 1g6vV",
   "1g6xX 1g70V 1g71X 1g73V 1g7qX 1g7rV 1g9rX 1g9zV 1ga8X 1gbkV 1gc3X 1gc4V 1gc6X 1gcbV 1gd8X",
   "1gdbV 1ge2X 1ge7V 1geyX 1gg0V 1ghkX 1ghoV 1gi8X 1giaV 1gjoX 1gjpV 1gjrX 1gjwV 1gk4X 1gk5V",
   "1gk8X 1gk9V 1gl2X 1gl4V 1gl7X 1glbV 1gllX 1glsV 1gm1X 1gm8V 1go0X 1gowV 1gpzX 1gq3V 1gqfX",
   "1gqoV 1gs6X 1gs9V 1gt2X 1gt4V 1gtvX 1gu0V 1guqX 1guxV 1gv1X 1gvdV 1gvkX 1gxsV 1gztX",
   "1h1cM1h34 1h1dM1h35 1h1eM1h36 1h1fM1h37 1h1gM1h38 1h1hM1h39 1h1iM1h3a 1h1jM1h3b 1h1kM1h3c",
   "1h1lM1h3d 1h1mM1h3e 1h1nM1h3f 1h1oM1h3g 1h1pM1h3h 1h1qM1h3i 1h1rM1h3j 1h1sM1h3k 1h1tM1h3l",
   "1h1uM1h3m 1h1vM1h3n 1h1wM1h3o 1h1xM1h3p 1h1yM1h3q 1h1zM1h3r 1h20M1h3s 1h21M1h3t 1h22M1h3u",
   "1h23M1h3v 1h24M1h3w 1h25M1h3x 1h26M1h3y 1h27M1h3z 1h28M1h40 1h29M1h41 1h2aM1h42 1h2bM1h43",
   "1h2cM1h44 1h2dM1h45 1h2eM1h46 1h2fM1h47 1h2gM1h48 1h2hM1h49 1h2iM1h4a 1h2jM1h4b 1h2kM1h4c",
   "1h2lM1h4d 1h2mM1h4e 1h2nM1h4f 1h2oM1h4g 1h2pM1h4h 1h2qM1h4i 1h2rX 1h34V 1h4jX 1h4qV 1h60X",
   "1h68V 1h6iX 1h6oV 1h74M1h80 1h75M1h81 1h76M1h82 1h77M1h83 1h78M1h84 1h79M1h85 1h7aM1h86",
   "1h7bM1h87 1h7cM1h88 1h7dM1h89 1h7eM1h8a 1h7fM1h8b 1h7gM1h8c 1h7hM1h8d 1h7iM1h8e 1h7jM1h8f",
   "1h7kM1h8g 1h7lM1h8h 1h7mM1h8i 1h7nM1h8j 1h7oM1h8k 1h7pM1h8l 1h7qX 1h7tV 1h8mX 1h8uV 1h8wX",
   "1heoV 1hfjX 1hfkV 1hgqX 1hgrV 1hguX 1hgwV 1hgyX 1hheV 1hhkX 1hhsV 1hi1X 1hiyV 1hk8X 1hkgV",
   "1hlmX 1hm8V 1hmyX 1ho0V 1hosX 1hpcV 1hpzX 1hq8V 1hseX 1hsiV 1htiX 1htrV 1hvhX 1hviV 1hvnX",
   "1hw0V 1hwpX 1hwwV 1hx6X 1hxcV 1hytX 1hyuV 1hzcX 1hzkV 1i0nX 1i0wV 1i3kX 1i3lV 1i45X 1i4gV",
   "1i4yX 1i4zV 1i6aX 1i80V 1i87X 1i88V 1i89X 1i8aV 1i8eX 1i8fV 1i8uX 1i8vV 1i96X 1i9cV 1iazX",
   "1ib4V 1ibeX 1ibkV 1iboX 1ibpV 1ibxX 1ibzV 1ic1X 1ic3V 1icpX 1icqV 1icxX 1icyV 1id0X 1id1V",
   "1id6X 1id7V 1idhX 1idjV 1idlX 1idnV 1idqX 1idsV 1idtX 1idzV 1ie0X 1ie5V 1iecX 1ieeV 1ielX",
   "1ieoV 1ietX 1if4V 1ifeX 1iffV 1ifgX 1ifiV 1ifjX 1ifkV 1igmX 1ignV 1igxX 1igyV 1igzX 1ih1V",
   "1ih2X 1ih3V 1ih7X 1ih8V 1ihiX 1ihjV 1ihlX 1ihtV 1ihvX 1iioV 1il8X 1il9V 1ileX 1im8V 1io8X",
   "1iogV 1ioqX 1itcV 1iuuX 1iuwV 1ivyX 1iwwV 1iytX 1iz4V 1izeX 1izkV 1izxX 1j0gV 1j22X 1j28V",
   "1j2iX 1j2oV 1j38X 1j40V 1j4rX 1j4tV 1j58X 1j5cV 1j5zX 1jb4V 1jcsX 1jfkM1jgg 1jflM1jgh",
   "1jfmM1jgi 1jfnM1jgj 1jfoM1jgk 1jfpM1jgl 1jfqM1jgm 1jfrM1jgn 1jfsM1jgo 1jftM1jgp 1jfuM1jgq",
   "1jfvM1jgr 1jfwM1jgs 1jfxM1jgt 1jfyM1jgu 1jfzM1jgv 1jg0M1jgw 1jg1M1jgx 1jg2M1jgy 1jg3M1jgz",
   "1jg4M1jh0 1jg5M1jh1 1jg6M1jh2 1jg7M1jh3 1jg8M1jh4 1jg9M1jh5 1jgaM1jh6 1jgbM1jh7 1jgcM1jh8",
   "1jgdM1jh9 1jgeM1jha 1jgfM1jhb 1jggV 1jhvX 1ji7V 1jifX 1jihV 1jiiX 1jikV 1jisX 1jitV 1jivX",
   "1jiwV 1jjqX 1jjrV 1jjtX 1jjvV 1jk7X 1jkgV 1jkqX 1jmoV 1jmwX 1jmyV 1jo8X 1joaV 1jolX 1jpcV",
   "1jrcX 1jrkV 1jtvX 1ju8V 1jw9X 1jwgV 1jwqX 1jz4V 1jzcX 1k1sV 1k2qX 1k34V 1k3eX 1k3kV 1k3tX",
   "1k3uV 1k53X 1k54V 1k5iX 1k5sV 1k6lX 1k6oV 1k7kX 1k7mV 1k88X 1k89V 1k8nX 1kaoV 1kavX 1kawV",
   "1kayX 1kazV 1kc7X 1kcaV 1kcbX 1kccV 1kceX 1kcfV 1kcoX 1kcwV 1kd6X 1kdcV 1kdiX 1kdjV 1kdlX",
   "1kdmV 1kenX 1keoV 1keqX 1kerV 1kexX 1kf4V 1kfeX 1kfkV 1kgsX 1kgwV 1kh6X 1ko0V 1kopX 1kowV",
   "1kpdX 1kpeV 1kqjX 1kqmV 1krfX 1ktsV 1kttX 1ku8V 1kvmX 1kvzV 1llmX 1logV 1lrjX 1lrkV 1lrpX",
   "1ls0V 1lxgX 1nyoV 1o1fX 1o1sV 1ovkX 1ow0V 1owmX 1owwV 1rzvX 1s00V 1sg7X 1xq8V 1xruX 1z40V",
   "1zjtX 1zk0V 1zkvX 1zkwV 1zl6X 1zlaV 1znjX 1znkV 1znuX 1zo0V 1zouX 1zowV 1zp2X 1zpcV 1zraX",
   "1zrkV 1zruX 1zrvV 1zs2X 1zs3V 1zsoX 1zstV 1ztcX 205cV 206yX 20cgM20dc 20chM20dd 20ciM20de",
   "20cjM20df 20ckM20dg 20clM20dh 20cmM20di 20cnM20dj 20coM20dk 20cpM20dl 20cqM20dm 20crM20dn",
   "20csM20do 20ctM20dp 20cuM20dq 20cvM20dr 20cwM20ds 20cxM20dt 20cyM20du 20czM20dv 20d0M20dw",
   "20d1M20dx 20d2M20dy 20d3M20dz 20d4M20e0 20d5M20e1 20d6M20e2 20d7M20e3 20d8M20e4 20d9M20e5",
   "20daM20e6 20dbM20e7 20dcV 20ezX 20f4M20fv 20f5M20fw 20f6M20fx 20f7M20fy 20f8M20fz 20f9M20g0",
   "20faM20g1 20fbM20g2 20fcM20g3 20fdM20g4 20feM20g5 20ffM20g6 20fgM20g7 20fhM20g8 20fiM20g9",
   "20fjM20ga 20fkM20gb 20flM20gc 20fmM20gd 20fnM20ge 20foM20gf 20fpM20gg 20fqM20gh 20frM20gi",
   "20fsM20gj 20ftX 20fvV 20gkX 20hsV 20jvX 20jzV 20lkX 20lrV 20m8X 20o0V 20o5X 20ogV 20onX",
   "20owV 26dyX 26f3V 26fzX 26ioV 26lvX 2dbkV 2dboX 2dbpV 2dbwX 2dbxV 2dbzX 2dc0V 2dk3X 2dkiV",
   "2dkjX 2dlcV 2dlfX 2dlhV 2dliX 2dlwV 2dm0X 2dm8V 2dx8X 2fpcV 2fsbX 2fsgV 2fstX 2fswV 2ft5X",
   "2ftcV 2ftmX 2ftoV 2ftsI 2ftwX 2iv4V 2j12M2p 2j13M2q 2j14M2r 2j15M2s 2j16M2t 2j17M2u 2j18M2v",
   "2j19M2w 2j1aM2x 2j1bM2y 2j1cM2z 2j1dM30 2j1eM31 2j1fM32 2j1gM33 2j1hM34 2j1iM35 2j1jM36",
   "2j1kM37 2j1lM38 2j1mM39 2j1nM3a 2j1oM3b 2j1pM3c 2j1qM3d 2j1rM3e 2j1sM1c 2j1tM1d 2j1uM1e",
   "2j1vM1f 2j1wM1g 2j1xM1h 2j1yM1i 2j1zM1j 2j20M1k 2j21M1l 2j22V 2j25X 2j28V 2jecX 2jeiV 2jf5X",
   "2jfkV 2jg1X 2jggV 2jhqX 2jhsV 2jifX 2jioV 2jlwX 2jnkV 2jueX 2juoV 2jvrX 2jvtV",
   "2jxaM2jx3.2jxh 2jxbM2jx4.2jxh 2jxcM2jx4.2jxh.2jxq 2jxdM2jx4.2jxh.2jxr 2jxeM2jx4.2jxh.2jxs",
   "2jxfM2jx4.2jxh.2jxt 2jxgM2jx4.2jxh.2jxu 2jxhV 2jxvI 2jy3V 2jzvM2jzt.2jxh 2jzwM2jzu.2jxh",
   "2jzxM2jzt.2jxh.2jxq 2jzyM2jzu.2jxh.2jxq 2jzzM2jzt.2jxh.2jxr 2k00M2jzu.2jxh.2jxr 2k01V 2k17X",
   "2k1sV 2k3qX 2k74V 2k7oX 2k80V 2k8kX 2k8wV 2kbbX 2kbkV 2kc9X 2kg0M2p 2kg1M2q 2kg2M2r 2kg3M2s",
   "2kg4M2t 2kg5M2u 2kg6M2v 2kg7M2w 2kg8M2x 2kg9M2y 2kgaM2z 2kgbM30 2kgcM31 2kgdM32 2kgeM33",
   "2kgfM34 2kggM35 2kghM36 2kgiM37 2kgjM38 2kgkM39 2kglM3a 2kgmM3b 2kgnM3c 2kgoM3d 2kgpM3e",
   "2kgqM2p 2kgrM2q 2kgsM2r 2kgtM2s 2kguM2t 2kgvM2u 2kgwM2v 2kgxM2w 2kgyM2x 2kgzM2y 2kh0M2z",
   "2kh1M30 2kh2M31 2kh3M32 2kh4M33 2kh5M34 2kh6M35 2kh7M36 2kh8M37 2kh9M38 2khaM39 2khbM3a",
   "2khcM3b 2khdM3c 2kheM3d 2khfM3e 2khgM2p 2khhM2q 2khiM2r 2khjM2s 2khkM2t 2khlM2u 2khmM2v",
   "2khnM2w 2khoM2x 2khpM2y 2khqM2z 2khrM30 2khsM31 2khtM32 2khuM33 2khvM34 2khwM35 2khxM36",
   "2khyM37 2khzM38 2ki0M39 2ki1M3a 2ki2M3b 2ki3M3c 2ki4M3d 2ki5M3e 2ki6M2p 2ki7M2q 2ki8M2r",
   "2ki9M2s 2kiaM2t 2kibM2u 2kicM2v 2kidX 2kieM2x 2kifM2y 2kigM2z 2kihM30 2kiiM31 2kijM32",
   "2kikM33 2kilM34 2kimM35 2kinM36 2kioM37 2kipM38 2kiqM39 2kirM3a 2kisM3b 2kitM3c 2kiuM3d",
   "2kivM3e 2kiwM2p 2kixM2q 2kiyM2r 2kizM2s 2kj0M2t 2kj1M2u 2kj2M2v 2kj3M2w 2kj4M2x 2kj5M2y",
   "2kj6M2z 2kj7M30 2kj8M31 2kj9M32 2kjaM33 2kjbM34 2kjcM35 2kjdM36 2kjeM37 2kjfM38 2kjgM39",
   "2kjhM3a 2kjiM3b 2kjjM3c 2kjkM3d 2kjlM3e 2kjmM2p 2kjnM2q 2kjoM2r 2kjpM2s 2kjqM2t 2kjrM2u",
   "2kjsM2v 2kjtM2w 2kjuM2x 2kjvM2y 2kjwM2z 2kjxM30 2kjyM31 2kjzM32 2kk0M33 2kk1M34 2kk2M35",
   "2kk3M36 2kk4M37 2kk5M38 2kk6M39 2kk7M3a 2kk8M3b 2kk9M3c 2kkaM3d 2kkbM3e 2kkcM2p 2kkdX",
   "2kkeM2r 2kkfM2s 2kkgX 2kkiM2v 2kkjX 2kklM2y 2kkmM2z 2kknX 2kkpM32 2kkqM33 2kkrM34 2kksM35",
   "2kktX 2kkuM37 2kkvM38 2kkwM39 2kkxM3a 2kkyM3b 2kkzM3c 2kl0M3d 2kl1M3e 2kl2M2p 2kl3M2q",
   "2kl4M2r 2kl5M2s 2kl6X 2kl7M2u 2kl8X 2kl9M2w 2klaM2x 2klbM2y 2klcM2z 2kldM30 2kleM31 2klfM32",
   "2klgX 2klhM34 2kliM35 2kljM36 2klkM37 2kllM38 2klmM39 2klnM3a 2kloM3b 2klpM3c 2klqM3d",
   "2klrM3e 2klsM2p 2kltM2q 2kluM2r 2klvM2s 2klwM2t 2klxM2u 2klyM2v 2klzM2w 2km0M2x 2km1M2y",
   "2km2M2z 2km3M30 2km4M31 2km5M32 2km6M33 2km7M34 2km8M35 2km9M36 2kmaM37 2kmbM38 2kmcM39",
   "2kmdM3a 2kmeM3b 2kmfM3c 2kmgM3d 2kmhM3e 2kmiM2p 2kmjM2q 2kmkM2r 2kmlM2s 2kmmM2t 2kmnM2u",
   "2kmoM2v 2kmpM2w 2kmqM2x 2kmrM2y 2kmsM2z 2kmtM30 2kmuM31 2kmvM32 2kmwM33 2kmxM34 2kmyM35",
   "2kmzM36 2kn0M37 2kn1M38 2kn2M39 2kn3M3a 2kn4M3b 2kn5M3c 2kn6M3d 2kn7M3e 2kn8M2p 2kn9M2q",
   "2knaX 2knbM2s 2kncM2t 2kndM2u 2kneM2v 2knfX 2knhM2y 2kniM2z 2knjM30 2knkM31 2knlM32 2knmM33",
   "2knnM34 2knoM35 2knpX 2knqM37 2knrM38 2knsM39 2kntM3a 2knuM3b 2knvM3c 2knwM3d 2knxX 2knyM2p",
   "2knzM2q 2ko0M2r 2ko1M2s 2ko2M2t 2ko3M2u 2ko4M2v 2ko5M2w 2ko6M2x 2ko7M2y 2ko8M2z 2ko9M30",
   "2koaM31 2kobM32 2kocM33 2kodM34 2koeM35 2kofM36 2kogM37 2kohM38 2koiM39 2kojM3a 2kokM3b",
   "2kolM3c 2komM3d 2konM3e 2kooM2p 2kopM2q 2koqX 2korM2s 2kosM2t 2kotM2u 2kouM2v 2kovX 2kowM2x",
   "2koxM2y 2koyM2z 2kozM30 2kp0M31 2kp1X 2kp2M33 2kp3X 2kp6M37 2kp7M38 2kp8M39 2kp9M3a 2kpaM3b",
   "2kpbM3c 2kpcM3d 2kpdX 2kpeM2p 2kpfM2q 2kpgM2r 2kphM2s 2kpiM2t 2kpjM2u 2kpkM2v 2kplM2w",
   "2kpmM2x 2kpnM2y 2kpoM2z 2kppM30 2kpqM31 2kprM32 2kpsM33 2kptM34 2kpuM35 2kpvM36 2kpwM37",
   "2kpxM38 2kpyM39 2kpzM3a 2kq0M3b 2kq1M3c 2kq2M3d 2kq3M3e 2kq4M2p 2kq5M2q 2kq6M2r 2kq7M2s",
   "2kq8M2t 2kq9M2u 2kqaM2v 2kqbM2w 2kqcM2x 2kqdM2y 2kqeM2z 2kqfM30 2kqgM31 2kqhM32 2kqiM33",
   "2kqjM34 2kqkM35 2kqlM36 2kqmM37 2kqnM38 2kqoM39 2kqpM3a 2kqqM3b 2kqrM3c 2kqsM3d 2kqtM3e",
   "2kquM2p 2kqvM2q 2kqwM2r 2kqxM2s 2kqyM2t 2kqzM2u 2kr0M2v 2kr1M2w 2kr2M2x 2kr3M2y 2kr4M2z",
   "2kr5M30 2kr6M31 2kr7M32 2kr8M33 2kr9M34 2kraM35 2krbM36 2krcM37 2krdM38 2kreM39 2krfM3a",
   "2krgM3b 2krhM3c 2kriM3d 2krjM3e 2krkM2p 2krlM2q 2krmM2r 2krnM2s 2kroM2t 2krpM2u 2krqM2v",
   "2krrM2w 2krsM2x 2krtM2y 2kruM2z 2krvM30 2krwM31 2krxM32 2kryM33 2krzM34 2ks0M35 2ks1M36",
   "2ks2M37 2ks3M38 2ks4M39 2ks5M3a 2ks6M3b 2ks7M3c 2ks8M3d 2ks9M3e 2ksaM2p 2ksbM2q 2kscM2r",
   "2ksdM2s 2kseM2t 2ksfM2u 2ksgM2v 2kshM2w 2ksiM2x 2ksjM2y 2kskM2z 2kslM30 2ksmM31 2ksnM32",
   "2ksoM33 2kspM34 2ksqM35 2ksrM36 2kssM37 2kstM38 2ksuM39 2ksvM3a 2kswM3b 2ksxM3c 2ksyM3d",
   "2kszM3e 2kt0M2p 2kt1M2q 2kt2M2r 2kt3M2s 2kt4M2t 2kt5M2u 2kt6M2v 2kt7M2w 2kt8M2x 2kt9M2y",
   "2ktaM2z 2ktbM30 2ktcM31 2ktdM32 2kteM33 2ktfM34 2ktgM35 2kthM36 2ktiM37 2ktjM38 2ktkM39",
   "2ktlM3a 2ktmM3b 2ktnM3c 2ktoM3d 2ktpM3e 2ktqM2p 2ktrM2q 2ktsM2r 2kttM2s 2ktuM2t 2ktvM2u",
   "2ktwM2v 2ktxM2w 2ktyM2x 2ktzM2y 2ku0M2z 2ku1M30 2ku2M31 2ku3M32 2ku4M33 2ku5M34 2ku6M35",
   "2ku7M36 2ku8M37 2ku9M38 2kuaM39 2kubM3a 2kucM3b 2kudM3c 2kueM3d 2kufM3e 2kugM2p 2kuhM2q",
   "2kuiM2r 2kujM2s 2kukM2t 2kulM2u 2kumM2v 2kunM2w 2kuoM2x 2kupM2y 2kuqM2z 2kurM30 2kusM31",
   "2kutM32 2kuuM33 2kuvM34 2kuwM35 2kuxM36 2kuyM37 2kuzM38 2kv0M39 2kv1M3a 2kv2M3b 2kv3M3c",
   "2kv4M3d 2kv5M3e 2kv6M2p 2kv7M2q 2kv8M2r 2kv9M2s 2kvaM2t 2kvbM2u 2kvcM2v 2kvdM2w 2kveM2x",
   "2kvfM2y 2kvgM2z 2kvhM30 2kviM31 2kvjM32 2kvkM33 2kvlM34 2kvmM35 2kvnM36 2kvoM37 2kvpM38",
   "2kvqM39 2kvrM3a 2kvsM3b 2kvtM3c 2kvuM3d 2kvvM3e 2kvwM2p 2kvxM2q 2kvyM2r 2kvzM2s 2kw0M2t",
   "2kw1M2u 2kw2M2v 2kw3M2w 2kw4M2x 2kw5M2y 2kw6M2z 2kw7M30 2kw8M31 2kw9M32 2kwaM33 2kwbM34",
   "2kwcM35 2kwdM36 2kweM37 2kwfM38 2kwgM39 2kwhM3a 2kwiM3b 2kwjM3c 2kwkM3d 2kwlM3e 2kwmM2p",
   "2kwnM2q 2kwoM2r 2kwpM2s 2kwqM2t 2kwrM2u 2kwsM2v 2kwtM2w 2kwuM2x 2kwvM2y 2kwwM2z 2kwxM30",
   "2kwyM31 2kwzM32 2kx0M33 2kx1M34 2kx2M35 2kx3M36 2kx4M37 2kx5M38 2kx6M39 2kx7M3a 2kx8M3b",
   "2kx9M3c 2kxaM3d 2kxbM3e 2kxcM2p 2kxdM2q 2kxeM2r 2kxfM2s 2kxgM2t 2kxhM2u 2kxiM2v 2kxjM2w",
   "2kxkM2x 2kxlM2y 2kxmM2z 2kxnM30 2kxoM31 2kxpM32 2kxqM33 2kxrM34 2kxsM35 2kxtM36 2kxuM37",
   "2kxvM38 2kxwM39 2kxxM3a 2kxyM3b 2kxzM3c 2ky0M3d 2ky1M3e 2ky2M2p 2ky3M2q 2ky4M2r 2ky5M2s",
   "2ky6M2t 2ky7M2u 2ky8M2v 2ky9M2w 2kyaM2x 2kybM2y 2kycM2z 2kydM30 2kyeM31 2kyfM32 2kygM33",
   "2kyhM34 2kyiM35 2kyjM36 2kykM37 2kylM38 2kymM39 2kynM3a 2kyoM3b 2kypM3c 2kyqM3d 2kyrM3e",
   "2kysM8h 2kytMfr 2kyuX 2kywMq9 2kyxMqa 2kyyMqb 2kyzMqc 2kz0Mqd 2kz1Mqe 2kz2Mqf 2kz3Mqg",
   "2kz4Mqh 2kz5Mqi 2kz6Mqj 2kz7Mqk 2kz8Mql 2kz9Mqm 2kzaMqn 2kzbMqo 2kzcMqp 2kzdMqg 2kzeMqr",
   "2kzfMqs 2kzgMqt 2kzhMqu 2kziMqv 2kzjMqw 2kzkMqx 2kzlM6pz 2kzmMq9 2kznMqa 2kzoMqb 2kzpMqc",
   "2kzqMqd 2kzrMqe 2kzsMqf 2kztMqg 2kzuMqh 2kzvMqi 2kzwMqj 2kzxMqk 2kzyMql 2kzzMqm 2l00Mqn",
   "2l01Mqo 2l02Mqp 2l03Mqr 2l05Mqs 2l06Mqt 2l07Mqu 2l08Mqv 2l09Mqw 2l0aMqx 2l0bM6pu 2l0cMqd",
   "2l0dMqg 2l0eMqi 2l0fMqu 2l0gMqp 2l0hMqo 2l0iMq9 2l0jMqa 2l0kMqb 2l0lMqc 2l0mMqd 2l0nMqe",
   "2l0oMqf 2l0pMqg 2l0qMqh 2l0rMqi 2l0sMqj 2l0tMqk 2l0uMql 2l0vMqm 2l0wMqn 2l0xMqo 2l0yMqp",
   "2l0zMqg 2l10Mqr 2l11Mqs 2l12Mqt 2l13Mqu 2l14Mqv 2l15Mqw 2l16Mqx 2l17M6pz 2l18Mq9 2l19Mqa",
   "2l1aMqb 2l1bMqc 2l1cMqd 2l1dMqe 2l1eMqf 2l1fMqg 2l1gMqh 2l1hMqi 2l1iMqj 2l1jMqk 2l1kMql",
   "2l1lMqm 2l1mMqn 2l1nMqo 2l1oMqp 2l1pMqr 2l1rMqs 2l1sMqt 2l1tMqu 2l1uMqv 2l1vMqw 2l1wMqx",
   "2l1xM6pu 2l1yMqd 2l1zMqg 2l20Mqi 2l21Mqu 2l22Mqp 2l23Mqo 2l24Mq9 2l25Mqa 2l26Mqb 2l27Mqc",
   "2l28Mqd 2l29Mqe 2l2aMqf 2l2bMqg 2l2cMqh 2l2dMqi 2l2eMqj 2l2fMqk 2l2gMql 2l2hMqm 2l2iMqn",
   "2l2jMqo 2l2kMqp 2l2lMqg 2l2mMqr 2l2nMqs 2l2oMqt 2l2pMqu 2l2qMqv 2l2rMqw 2l2sMqx 2l2tM6pz",
   "2l2uMq9 2l2vMqa 2l2wMqb 2l2xMqc 2l2yMqd 2l2zMqe 2l30Mqf 2l31Mqg 2l32Mqh 2l33Mqi 2l34Mqj",
   "2l35Mqk 2l36Mql 2l37Mqm 2l38Mqn 2l39Mqo 2l3aMqp 2l3bMqr 2l3dMqs 2l3eMqt 2l3fMqu 2l3gMqv",
   "2l3hMqw 2l3iMqx 2l3jM6pu 2l3kMqd 2l3lMqg 2l3mMqi 2l3nMqu 2l3oMqp 2l3pMqo 2l3qMq9 2l3rMqa",
   "2l3sMqb 2l3tMqc 2l3uMqd 2l3vMqe 2l3wMqf 2l3xMqg 2l3yMqh 2l3zMqi 2l40Mqj 2l41Mqk 2l42Mql",
   "2l43Mqm 2l44Mqn 2l45Mqo 2l46Mqp 2l47Mqg 2l48Mqr 2l49Mqs 2l4aMqt 2l4bMqu 2l4cMqv 2l4dMqw",
   "2l4eMqx 2l4fM6pz 2l4gMq9 2l4hMqa 2l4iMqb 2l4jMqc 2l4kMqd 2l4lMqe 2l4mMqf 2l4nMqg 2l4oMqh",
   "2l4pMqi 2l4qMqj 2l4rMqk 2l4sMql 2l4tMqm 2l4uMqn 2l4vMqo 2l4wMqp 2l4xMqr 2l4zMqs 2l50Mqt",
   "2l51Mqu 2l52Mqv 2l53Mqw 2l54Mqx 2l55M6pu 2l56Mqd 2l57Mqg 2l58Mqi 2l59Mqu 2l5aMqp 2l5bMqo",
   "2l5cMq9 2l5dMqa 2l5eMqb 2l5fMqc 2l5gMqd 2l5hMqe 2l5iMqf 2l5jMqg 2l5kMqh 2l5lMqi 2l5mMqj",
   "2l5nMqk 2l5oMql 2l5pMqm 2l5qMqn 2l5rMqo 2l5sMqp 2l5tMqg 2l5uMqr 2l5vMqs 2l5wMqt 2l5xMqu",
   "2l5yMqv 2l5zMqw 2l60Mqx 2l61M6pz 2l62Mq9 2l63Mqa 2l64Mqb 2l65Mqc 2l66Mqd 2l67Mqe 2l68Mqf",
   "2l69Mqg 2l6aMqh 2l6bMqi 2l6cMqj 2l6dMqk 2l6eMql 2l6fMqm 2l6gMqn 2l6hMqo 2l6iMqp 2l6jMqr",
   "2l6lMqs 2l6mMqt 2l6nMqu 2l6oMqv 2l6pMqw 2l6qMqx 2l6rM6pu 2l6sMqd 2l6tMqg 2l6uMqi 2l6vMqu",
   "2l6wMqp 2l6xMqo 2l6yMrh 2l70X 2l72M1c 2l73M1d 2l74M1e 2l75M1f 2l76M1g 2l77M1h 2l78M1i",
   "2l79M1j 2l7aM1k 2l7bM1l 2l7cM1c 2l7dM1d 2l7eM1e 2l7fM1f 2l7gM1g 2l7hM1h 2l7iM1i 2l7jM1j",
   "2l7kM1k 2l7lM1l 2l7mM1c 2l7nM1d 2l7oM1e 2l7pM1f 2l7qM1g 2l7rM1h 2l7sM1i 2l7tM1j 2l7uM1k",
   "2l7vM1l 2l7wM1c 2l7xM1d 2l7yM1e 2l7zM1f 2l80M1g 2l81M1h 2l82M1i 2l83M1j 2l84M1k 2l85M1l",
   "2l86M1c 2l87M1d 2l88M1e 2l89M1f 2l8aM1g 2l8bM1h 2l8cM1i 2l8dM1j 2l8eM1k 2l8fM1l 2l8gV 2lqkX",
   "2lqzV 2lr4X 2lr5V 2lrkX 2mm8V 2mn3X 2mn9V 2mnfX 2mtcV 2mtjX 2mtkV 2mu1X 2mu3V 2muaX 2mubV",
   "2mudX 2mueV 2mujX 2muoMts 2mupMtt 2muqMtu 2murMtv 2musMtw 2mutMtx 2muuMty 2muvMtz 2muwMu0",
   "2muxMu2 2muyMu3 2muzMu4 2mv0Mu6 2mv1Mu7 2mv2Mu8 2mv3Mu9 2mv4Mua 2mv5Mub 2mv6Muc 2mv7Mud",
   "2mv8Mue 2mv9Muf 2mvaMug 2mvbMuj 2mvcMul 2mvdMum 2mveMww9 2mvfMyh 2mvgMuu 2mvhMuw 2mviMyx",
   "2mvjMxb 2mvkMy7 2mvlMts 2mvmMtt 2mvnMtu 2mvoMtv 2mvpMtw 2mvqMtx 2mvrMty 2mvsMtz 2mvtMu0",
   "2mvuMu2 2mvvMu3 2mvwMu6 2mvxMu7 2mvyMu9 2mvzMub 2mw0Muc 2mw1Mud 2mw2Mue 2mw3Muf 2mw4Mug",
   "2mw5Mui 2mw6Muj 2mw7Mwh 2mw8Muu 2mw9Mut 2mwaMv3 2mwbMx7 2mwcMwup 2mwdMxd 2mweX 2mxbV 2mxcX",
   "2n0gV 2n1pX 2n1sV 2n26X 2n28V 2n2iX 2n2mV 2n2oX 2nbkV 2ncfX 2ncwV 2neiX 2nenV 2neoX 2nrkV",
   "2nsqX 2nyoV 2nzvX 2nzzV 2o00X 2o5cV 2o67X 2o68V 2o6uX 2o72V 2o74X 2odcV 2odjX 2odkV 2odoX",
   "2odpV 2odrX 2odsV 2oe7X 2oe8V 2ojpX 2ojrV 2ok7X 2olcM2oma 2oldM2omb 2oleM2omc 2olfM2omd",
   "2olgM2ome 2olhM2omf 2oliM2omg 2oljM2omh 2olkM2omi 2ollM2omj 2olmM2omk 2olnM2oml 2oloM2omm",
   "2olpM2omn 2olqM2omo 2olrM2omp 2olsM2omq 2oltM2omr 2oluM2oms 2olvM2omt 2olwM2omu 2olxM2omv",
   "2olyM2omw 2olzM2omx 2om0M2omy 2om1M2omz 2om2M2on0 2om3M2on1 2om4M2on2 2om5M2on3 2om6M2on4",
   "2om7M2on5 2om8M2on6 2om9M2on7 2omaV 2ongX 2onkV 2onuX 2onyV 2oo0X 2p9tV 2pbpX 2pdtV 2pfiX",
   "2pkwM17r 2pkxM17s 2pkyM17w 2pkzM17z 2pl0X 2pl1M18o 2pl2M182 2pl3M17x 2pl4M187 2pl5M18q",
   "2pl6M18j 2pl7M18k 2pl8M18l 2pl9M18m 2plaM183 2plbM189 2plcM18h 2pldM185 2pleM18i 2plfM181",
   "2plgM184 2plhM17u 2pliM17v 2pljM17y 2plkM180 2pllM186 2plmM188 2plnM18a 2ploM19q 2plpM1bu",
   "2plqM1b5 2plrM19r 2plsX 2pltM17s 2pluM17w 2plvX 2plwM18n 2plxX 2plzM17x 2pm0X 2pm1M18q",
   "2pm2M18j 2pm3M18k 2pm4M18l 2pm5M18m 2pm6M183 2pm7M189 2pm8M18h 2pm9M185 2pmaM18i 2pmbX",
   "2pmcM184 2pmdM17u 2pmeM17v 2pmfM17y 2pmgX 2pmhM186 2pmiX 2pmjM18a 2pmkX 2pmqM17w 2pmrX",
   "2pmvM17x 2pmwX 2pmxM18q 2pmyX 2pmzM18k 2pn0X 2pn1M18m 2pn2M183 2pn3M189 2pn4X 2pn5M185",
   "2pn6M18i 2pn7X 2pn8M184 2pn9X 2pnbM17y 2pncX 2pndM186 2pneX 2pnfM18a 2pngX 2pnhM1bu 2pniX",
   "2pnjM19r 2pnkX 2pnlM17s 2pnmM17w 2pnnX 2pnoM18n 2pnpX 2pnrM17x 2pnsM187 2pntM18q 2pnuM18j",
   "2pnvX 2pnwM18l 2pnxM18m 2pnyM183 2pnzM189 2po0M18h 2po1M185 2po2M18i 2po3X 2po4M184",
   "2po5M17u 2po6M17v 2po7M17y 2po8X 2po9M186 2poaM188 2pobM18a 2pocM19q 2podX 2poeM1b5 2pofX",
   "2pogM17r 2pohM17s 2poiM17w 2pojM17z 2pokM18n 2polM18o 2pomM182 2ponM17x 2pooM187 2popM18q",
   "2poqX 2porM18k 2posM18l 2potM18m 2pouM183 2povM189 2powM18h 2poxM185 2poyM18i 2pozM181",
   "2pp0M184 2pp1M17u 2pp2M17v 2pp3M17y 2pp4M180 2pp5M186 2pp6M188 2pp7M18a 2pp8X 2ppdM17s",
   "2ppeM17w 2ppfM17z 2ppgX 2pphM18o 2ppiM182 2ppjM17x 2ppkM187 2pplM18q 2ppmX 2ppnM18k",
   "2ppoM18l 2pppM18m 2ppqM183 2pprM189 2ppsM18h 2pptM185 2ppuM18i 2ppvM181 2ppwM184 2ppxM17u",
   "2ppyM17v 2ppzM17y 2pq0M180 2pq1M186 2pq2M188 2pq3M18a 2pq4X 2prkV 2prmX 2pz4V 2q0cX 2q0gV",
   "2q38X 2q3kV 2q3zX 2q41V 2q4gX 2q4hV 2q4wX 2q4xV 2q5yX 2q69M1c.18 2q6aM1d.18 2q6bM1e.18",
   "2q6cM1f.18 2q6dM1g.18 2q6eM1h.18 2q6fM1i.18 2q6gM1j.18 2q6hM1k.18 2q6iM1l.18 2q6jV",
   "2q6oM14.2p.15 2q6pM14.2q.15 2q6qM14.2r.15 2q6rM14.2s.15 2q6sM14.2t.15 2q6tM14.2u.15",
   "2q6uM14.2v.15 2q6vM14.2w.15 2q6wM14.2x.15 2q6xM14.2y.15 2q6yM14.2z.15 2q6zM14.30.15",
   "2q70M14.31.15 2q71M14.32.15 2q72M14.33.15 2q73M14.34.15 2q74M14.35.15 2q75M14.36.15",
   "2q76M14.37.15 2q77M14.38.15 2q78M14.39.15 2q79M14.3a.15 2q7aM14.3b.15 2q7bM14.3c.15",
   "2q7cM14.3d.15 2q7dM14.3e.15 2q7eM9hw.37.9hx 2q7fM2r 2q7gM36 2q7hM2r.2s 2q7iM3b.3e 2q7jV",
   "2q7kM2p 2q7lM2q 2q7mM2r 2q7nM2s 2q7oM2t 2q7pM2u 2q7qM2v 2q7rM2w 2q7sM2x 2q7tM2y 2q7uM2z",
   "2q7vM30 2q7wM31 2q7xM32 2q7yM33 2q7zM34 2q80M35 2q81M36 2q82M37 2q83M38 2q84M39 2q85M3a",
   "2q86M3b 2q87M3c 2q88M3d 2q89M3e 2q8aM2w.3a 2q8bM31.3a 2q8cM37.2s 2q8dM37.37 2q8eM34.34.3a",
   "2q8fM3b.2r 2q8gV 2q96M31.2r 2q97M31.2s 2q98M31.36 2q99V 2qa8M2s.2y 2qa9V 2qb2X 2qcmV",
   "2qdcM9kr.9jf 2qddM9mb.9mb 2qdeM9md 2qdfX 2qdsMjez 2qdtMi1j 2qduMgjw 2qdvM9mv 2qdwMfik",
   "2qdxMhlm 2qdyMr8j 2qdzMhm1 2qe0Mfj8 2qe1Mk68 2qe2Mmch 2qe3Mk2h 2qe4Mg99 2qe5Mivg 2qe6Mg3x",
   "2qe7Mk34 2qe8Mg7x 2qe9Moqq 2qeaMn4v 2qebMrs9 2qecMhkg 2qedMgmx 2qeeMlxw 2qefMjh1 2qegMjmd",
   "2qehMfeo 2qeiMfex 2qejMsi2 2qekMijq 2qelMffx 2qemMgkz 2qenMjk7 2qeoMrxs 2qepMjf7 2qeqMo01",
   "2qerMo6y 2qesMglk 2qetMlts 2qeuMkcp 2qevMkco 2qewMn5f 2qexMgaa 2qeyMgxi 2qezMsp9 2qf0X",
   "2qf4M9hw.kdo.9hx 2qf5M9hw.fex.9hx 2qf6M9hw.fik.9hx 2qf7M9hw.i2x.9hx 2qf8M9hw.m9l.9hx",
   "2qf9M9hw.jf7.9hx 2qfaM9hw.nh3.9hx 2qfbM9hw.gd9.9hx 2qfcM9hw.k0n.9hx 2qfdX 2qfkMivr 2qflMgkv",
   "2qfmX 2qg0V 2qg6X 2qkgV 2rbtX 2rbwV 2rcdX 2rcgV 2rctX 2rcwV 2riyX 2rj4V 2rjgX 2rjkV 2rjlX",
   "2rk0V 2rkcX 2rkgV 2rm0X 2rm8V 2rmiX 2rmoV 2rnsX 2ro0V 2rouX 2rowV 2rp8X 2rpcV 2rpeX 2rpsV",
   "2rq1X 2rr4V 2s0oX 2s0wV 2s1aX 2s1cV 2s1pX 2s1sV 2s23X 2s26V 2s3rX 2s3sV 2s3tX 2s3xV 2s4dX",
   "2s4fV 2s4rX 2s4vV 2s55X 2s5cV 2s9fX 2s9gV 2sc0M1c 2sc1M1d 2sc2M1e 2sc3M1f 2sc4M1g 2sc5M1h",
   "2sc6M1i 2sc7M1j 2sc8M1k 2sc9M1l 2scaV 2scbX 2t4wV 3q3kX 3q4gV 3ti6X 3ti8V 3xymX 3xyoV 43q9X",
   "43qoV 447yX 464gMfgd 464hMfg8 464iMfgh 464jM2tcy 464kMfog 464lMfqm 464mMfqz 464nMfsy",
   "464oMfwa 464pMfx5 464qMfzb 464rMfyn 464sMae6 464tM2ud6 464uMg25 464vMg2c 464wMg2s 464xMg3b",
   "464yM2u58 464zMaex 4650Mg2v 4651Mg3x 4652M2u6j 4653Mg47 4654Mg4k 4655Mfkc 4656Mg4s 4657Mg51",
   "4658M3ly7 4659Mg6t 465aMg77 465bMafz 465cMg8r 465dMg92 465eMgaa 465fMgaf 465gMahh 465hMgcn",
   "465iMgcp 465jMgdg 465kMge2 465lMged 465mMgee 465nMgev 465oMgg9 465pMggh 465qMggq 465rMghf",
   "465sMghp 465tMghr 465wM2v58 465xMm7k 465yMgju 465zMgkf 4660M2vdv 4661Mgkr 4662Mgkx 4663Mgli",
   "4664Mgpq 4665Mgmw 4666Mgnc 4667Mgo8 4668Mgpu 4669Mgs6 466aMgsw 466bMgur 466cMgv7 466dMgw4",
   "466fMgwp 466gMgx7 466hMgxf 466iMgxu 466jMh7a 466kMgzq 466lMh7b 466mMh1t 466nMh2s 466oMg7b",
   "466pMhke 466qMhce 466rMhdg 466sMhe5 466tMhaj 466uMhf6 466vMhf5 466wMhik 466xM2x9g 466yMhki",
   "466zMhkn 4670Mhl2 4671Mhlm 4672Mhlu 4673Mhnm 4674M2xm0 4675M2xnu 4676Mhrg 4677Mhsr 4678Mht3",
   "4679Mhqw 467aMhuu 467bMaum 467cMav0 467dMhzc 467eMi0u 467gM2y88 467hMi4j 467iMi54 467jMi5j",
   "467kMi5v 467lM2yhk 467mMi67 467nMi6e 467oMitv 467pMi76 467qMayp 467rMi8w 467sMi9a 467tMibk",
   "467uMia5 467vM2z1g 467wMif7 467xM2z1i 467yMige 467zMigb 4680Migs 4681Mijl 4682Mijm 4683Mb3j",
   "4684Mikd 4685Milk 4686Mim5 4687Mind 4688Mb4y 4689M2zr7 468aMb5o 468bMipc 468cMipf 468dMipi",
   "468eMiq2 468fM3pg2 468gMiri 468hM3035 468jMpoh 468kMisi 468mMb7r 468nM335k 468oM3cgq",
   "468pMiua 468qMiuj 468rMb8j 468sMivu 468tMix9 468uMixj 468vMiyh 468wMj29 468xMbay 468yMba4",
   "468zMj2s 4690M30t0 4691Mj47 4692Mj7s 4693Mj7w 4694Mj7y 4695Mj7w 4696Mj96 4697Mj9q 4698Mjaq",
   "4699Mjac 469aMjan 469bMjby 469cMjci 469dMjcm 469eMjdc 469fMjdn 469gMjfh 469hMjht 469iMjis",
   "469jMjm8 469kM31n0 469lMjlp 469mMjjw 469nMjmw 469oMjnn 469pMjqc 469qM31td 469rMjs2 469sMjph",
   "469tMjop 469uMbhq 469vMju1 469wMjum 469xMjvh 469yMjuf 469zMbjg 46a0Mk0f 46a1Mk18 46a2M32mi",
   "46a3Mk4j 46a4Mkc8 46a5Mk7d 46a6Mbo9 46a7Mk9d 46a8Mbns 46a9Mbms 46aaMg42 46abMg45 46acMkcg",
   "46adMk9o 46aeMpf1 46afMdeh 46agMkd3 46ahMkd7 46aiMkdd 46ajMkf2 46akMker 46alM33cz 46amMbpl",
   "46anMkje 46aoMkg5 46apMklu 46aqMkn9 46arM33hp 46asMkni 46atMkkf 46auMkr8 46avMbrx 46awMksi",
   "46axMkv7 46ayMkx6 46azMl2g 46b0M33xf 46b1Ml3v 46b2Mbvc 46b3Ml5t 46b4M34br 46b5Ml78 46b6Mbwu",
   "46b7Ml82 46b8Ml9b 46b9Mla2 46baMla3 46bbM34p9 46bcM2yvf 46bdM34sa 46beMle6 46bfM354s",
   "46bgMlhb 46bhMlhp 46biMlev 46bjMljq 46bkMlku 46blMlmf 46bmMlkx 46bnMlm1 46boMlmg 46bpMlmt",
   "46bqM357i 46brMlkk 46bsMlrj 46btMlta 46buMc37 46bvMlvv 46bwMlvr 46bxM35jl 46byMlq1 46bzMm0e",
   "46c0M35ni 46c1M35ou 46c2Mm2u 46c3Mm61 46c4Mm5a 46c5Mm57 46c6Mc5y 46c7Mm6i 46c8Mm7x 46c9Mm7r",
   "46caMm99 46cbM2u5h 46ccMmdh 46cdM368z 46ceMmfw 46cfM36i3 46cgMmjs 46chMmk5 46ciMmkw",
   "46cjM36yw 46ckMmm8 46clMmmt 46cmM3779 46cnM37dg 46coMmt6 46cpMmtn 46cqMcdo 46crMmud",
   "46csMce0 46cuMmyv 46cvMmzg 46cwMn01 46cxMn0l 46cyMn2i 46czMcgr 46d0Mn50 46d1M386u 46d2Mn5q",
   "46d3M389e 46d4Mn74 46d5M2zrz 46d6Mnbk 46d7M38v5 46d8M38vs 46d9M38zo 46daMcn0 46dbMcnc",
   "46dcMnhw 46ddM394j 46deM394i 46dfM395l 46dgM396b 46dhMnj2 46diMnj3 46dkMnka 46dlMcop",
   "46dmMnm3 46dnMcp2 46doMcra 46dpM39r1 46dqMnri 46drMnt8 46dsMnv0 46dtMctf 46duM3a5i 46dvMnyu",
   "46dwM3a8q 46dxM3a9x 46dyMo0f 46dzMo2z 46e0Mcvj 46e1Mo5c 46e2Mo5m 46e3Mo5r 46e4M3at8",
   "46e5M3b1j 46e7Moa6 46e8Md1e 46e9M3b8r 46eaMog6 46ebMog9 46ecMd2f 46edM3beo 46eeMonm",
   "46efMd5s 46egMoo8 46ehMoo3 46eiMoow 46ejM3c06 46ekMorn 46elMd8h 46emMouf 46enMow2 46eoMoxx",
   "46epMd9w 46eqM3ciw 46erM3cjr 46esMdax 46etM3cnt 46euMp6i 46evM3cqm 46ewMp79 46exMpa2",
   "46eyMpad 46ezM3d22 46f0M3d43 46f1Mpcw 46f2M3d7s 46f3Mpdc 46f4M33a7 46f5Mded 46f6Mpf6",
   "46f7Mphf 46f8Mdfv 46f9Mpj2 46faMhx1 46fbM3dlz 46fcM3dmd 46fdM33bn 46feM33bw 46ffMpoh",
   "46fgMpok 46fhMsda 46fiMdij 46fjMpsh 46fkMpsb 46flMpst 46fmMgc3 46fnMptd 46foMptf 46fpMptp",
   "46fqMpuu 46frM3ebg 46fsMput 46ftMpwd 46fuMpyb 46fvMq0d 46fwMpwj 46fxMq0t 46fyMq1z 46fzMq53",
   "46g0Mpxv 46g1Mq16 46g2Mq18 46g3Mq1o 46g4M3eie 46g5M3eqz 46g6M3emt 46g7Mdnv 46g8Mq9d",
   "46g9Mq9f 46gaMqae 46gbM3g0a 46gcMqck 46gdM3f3g 46geMdp9 46gfMdpd 46ggM3f75 46ghM3ff6",
   "46giMdpn 46gjMqj4 46gkMqjg 46glMqjr 46gmMqjt 46gnMqll 46goMqko 46gpMqoe 46gqMqn6 46grMqrd",
   "46gsMqp4 46gtMqqz 46guMqrq 46gvMdsn 46gwMqu9 46gxMqv5 46gyMdtl 46gzMqxs 46h0Mqxv 46h1M3giv",
   "46h2Mr13 46h3Mr1a 46h4Mdv9 46h5Mr22 46h6Maez 46h7M3gz2 46h8M3h46 46h9Mdz2 46haMdzb 46hbMrds",
   "46hcMrfx 46hdMrka 46heMrpx 46hfM3hrc 46hgMrsb 46hhMrsx 46hiMrvf 46hjMrxz 46hkM3i9b",
   "46hlM2upw 46hmMs0b 46hnMrzw 46hoMs1c 46hpM2uvy 46hqMs7o 46hrMsag 46hsM3jki 46htM3jl9",
   "46huMsk4 46hvMsmp 46hwMsnl 46hxM3ju6 46hyMsnv 46hzMsvs 46i0Mt07 46i1Mt08 46i2Msxo 46i3Mt89",
   "46i4Mt91 46i5M3ksa 46i6Mtjf 46i7Mej9 46i8Mtkn 46i9M3l2v 46iaMeli 46ibMts3 46icMiia 46idMtur",
   "46ieM3ltx 46ifM3lzu 46igMepa 46ihMepi 46iiMu00 46ijM3mdm 46ikMer6 46ilM3mhi 46imMu17",
   "46ioMu21 46ipM3mpi 46iqMu76 46irMeur 46isMu95 46itMucn 46iuMude 46ivMuf2 46iwMez2 46ixM3nsg",
   "46iyMumq 46izMuv4 46j0Mv0d 46j1Mf66 46j2Mf71 46j3Mv3b 46j4M3owe 46j5Mf7c 46j6M3oxx",
   "46j7M3p5a 46j8M3p8x 46j9Mvcr 46jaMf9y 46jbMveh 46jcMvem 46jdMvet 46jeMvf3 46jfMvfa 46jgMvgb",
   "46jhM3pxc 46jiX 47pcV 4bijX 4bioV 4i2iX jo5cI joc0X"]

/-- What becomes of a character. -/
inductive Rule
  | keep
  | drop
  | forbid
  | replace (text : List Char)
  deriving Repr, Inhabited

/-- One entry of the table: the code point and its rule. -/
def entry (s : String) : Nat × Rule :=
  let start := String.ofList (s.toList.takeWhile fun c => !c.isUpper)
  match s.toList.dropWhile fun c => !c.isUpper with
  | 'V' :: _ => (Text.base36 start, .keep)
  | 'I' :: _ => (Text.base36 start, .drop)
  | 'M' :: r =>
    let parts := (String.ofList r).splitOn "."
    (Text.base36 start, .replace (parts.map fun p => Char.ofNat (Text.base36 p)))
  | _ => (Text.base36 start, .forbid)

def entries : Array (Nat × Rule) :=
  ((Text.words table).map entry).toArray

/-- The last entry between `lo` and `hi` that starts at or before a code point. -/
def search (n : Nat) : Nat → Nat → Nat → Nat
  | 0, lo, _ => lo
  | fuel + 1, lo, hi =>
    if hi ≤ lo + 1 then lo
    else
      let mid := (lo + hi) / 2
      match entries[mid]? with
      | some (start, _) => if start ≤ n then search n fuel mid hi else search n fuel lo mid
      | none => lo

/-- The rule for a character outside ASCII. -/
def rule (c : Char) : Rule :=
  match entries[search c.toNat 24 0 entries.size]? with
  | some (_, r) => r
  | none => .forbid

end Harvest.Url.NameMapping
