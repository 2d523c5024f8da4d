import Harvest.Text.CharSet
/-!
Canonical composition of text. A character with a decomposition is taken apart, marks are ordered
by combining class, and a starter is joined with the marks after it where a composite exists.
-/

namespace Harvest.Text.Normal

/-- Each character with a decomposition, then the decomposition, in base 36 and joined by points.
    A closing `X` keeps the pair from being composed again. -/
def table : List String :=
  ["5c.1t.lc 5d.1t.ld 5e.1t.le 5f.1t.lf 5g.1t.lk 5h.1t.lm 5j.1v.mf 5k.1x.lc 5l.1x.ld 5m.1x.le",
   "5n.1x.lk 5o.21.lc 5p.21.ld 5q.21.le 5r.21.lk 5t.26.lf 5u.27.lc 5v.27.ld 5w.27.le 5x.27.lf",
   "5y.27.lk 61.2d.lc 62.2d.ld 63.2d.le 64.2d.lk 65.2h.ld 68.2p.lc 69.2p.ld 6a.2p.le 6b.2p.lf",
   "6c.2p.lk 6d.2p.lm 6f.2r.mf 6g.2t.lc 6h.2t.ld 6i.2t.le 6j.2t.lk 6k.2x.lc 6l.2x.ld 6m.2x.le",
   "6n.2x.lk 6p.32.lf 6q.33.lc 6r.33.ld 6s.33.le 6t.33.lf 6u.33.lk 6x.39.lc 6y.39.ld 6z.39.le",
   "70.39.lk 71.3d.ld 73.3d.lk 74.1t.lg 75.2p.lg 76.1t.li 77.2p.li 78.1t.mg 79.2p.mg 7a.1v.ld",
   "7b.2r.ld 7c.1v.le 7d.2r.le 7e.1v.lj 7f.2r.lj 7g.1v.lo 7h.2r.lo 7i.1w.lo 7j.2s.lo 7m.1x.lg",
   "7n.2t.lg 7o.1x.li 7p.2t.li 7q.1x.lj 7r.2t.lj 7s.1x.mg 7t.2t.mg 7u.1x.lo 7v.2t.lo 7w.1z.le",
   "7x.2v.le 7y.1z.li 7z.2v.li 80.1z.lj 81.2v.lj 82.1z.mf 83.2v.mf 84.20.le 85.2w.le 88.21.lf",
   "89.2x.lf 8a.21.lg 8b.2x.lg 8c.21.li 8d.2x.li 8e.21.mg 8f.2x.mg 8g.21.lj 8k.22.le 8l.2y.le",
   "8m.23.mf 8n.2z.mf 8p.24.ld 8q.30.ld 8r.24.mf 8s.30.mf 8t.24.lo 8u.30.lo 8z.26.ld 90.32.ld",
   "91.26.mf 92.32.mf 93.26.lo 94.32.lo 98.27.lg 99.33.lg 9a.27.li 9b.33.li 9c.27.ln 9d.33.ln",
   "9g.2a.ld 9h.36.ld 9i.2a.mf 9j.36.mf 9k.2a.lo 9l.36.lo 9m.2b.ld 9n.37.ld 9o.2b.le 9p.37.le",
   "9q.2b.mf 9r.37.mf 9s.2b.lo 9t.37.lo 9u.2c.mf 9v.38.mf 9w.2c.lo 9x.38.lo a0.2d.lf a1.39.lf",
   "a2.2d.lg a3.39.lg a4.2d.li a5.39.li a6.2d.lm a7.39.lm a8.2d.ln a9.39.ln aa.2d.mg ab.39.mg",
   "ac.2f.le ad.3b.le ae.2h.le af.3d.le ag.2h.lk ah.2i.ld ai.3e.ld aj.2i.lj ak.3e.lj al.2i.lo",
   "am.3e.lo bk.27.m3 bl.33.m3 bz.2d.m3 c0.39.m3 ct.1t.lo cu.2p.lo cv.21.lo cw.2x.lo cx.27.lo",
   "cy.33.lo cz.2d.lo d0.39.lo d1.64.lg d2.70.lg d3.64.ld d4.70.ld d5.64.lo d6.70.lo d7.64.lc",
   "d8.70.lc da.5g.lg db.6c.lg dc.fa.lg dd.fb.lg de.5i.lg df.6e.lg di.1z.lo dj.2v.lo dk.23.lo",
   "dl.2z.lo dm.27.mg dn.33.mg do.dm.lg dp.dn.lg dq.c7.lo dr.ia.lo ds.2y.lo dw.1z.ld dx.2v.ld",
   "e0.26.lc e1.32.lc e2.5h.ld e3.6d.ld e4.5i.ld e5.6e.ld e6.60.ld e7.6w.ld e8.1t.lr e9.2p.lr",
   "ea.1t.lt eb.2p.lt ec.1x.lr ed.2t.lr ee.1x.lt ef.2t.lt eg.21.lr eh.2x.lr ei.21.lt ej.2x.lt",
   "ek.27.lr el.33.lr em.27.lt en.33.lt eo.2a.lr ep.36.lr eq.2a.lt er.36.lt es.2d.lr et.39.lr",
   "eu.2d.lt ev.39.lt ew.2b.me ex.37.me ey.2c.me ez.38.me f2.20.lo f3.2w.lo fa.1t.lj fb.2p.lj",
   "fc.1x.mf fd.2t.mf fe.5y.lg ff.6u.lg fg.5x.lg fh.6t.lg fi.27.lj fj.33.lj fk.fi.lg fl.fj.lg",
   "fm.2h.lg fn.3d.lg n4.lcX n5.ldX n7.lvX n8.lk.ldX ok.jdX ou.1nX p1.4o.ld p2.pd.ld p3.53X",
   "p4.ph.ld p5.pj.ld p6.pl.ld p8.pr.ld pa.px.ld pb.q1.ld pc.qy.ld q2.pl.lk q3.px.lk q4.q9.ld",
   "q5.qd.ld q6.qf.ld q7.qh.ld q8.qz.ld qy.qh.lk qz.qt.lk r0.qn.ld r1.qt.ld r2.qx.ld r7.r6.ld",
   "r8.r6.lk sg.t1.lc sh.t1.lk sj.sz.ld sn.sm.lk ss.t6.ld st.t4.lc su.tf.li t5.t4.li u1.u0.li",
   "uo.tx.lc up.tx.lk ur.tv.ld uv.uu.lk v0.u2.ld v1.u0.lc v2.ub.li vq.vo.lr vr.vp.lr xt.t2.li",
   "xu.ty.li y8.sw.li y9.ts.li ya.sw.lk yb.ts.lk ye.t1.li yf.tx.li yi.yg.lk yj.yh.lk yk.t2.lk",
   "yl.ty.lk ym.t3.lk yn.tz.lk yq.t4.lg yr.u0.lg ys.t4.lk yt.u0.lk yu.ta.lk yv.u6.lk yy.yw.lk",
   "yz.yx.lk z0.tp.lk z1.ul.lk z2.tf.lg z3.ub.lg z4.tf.lk z5.ub.lk z6.tf.ln z7.ub.ln z8.tj.lk",
   "z9.uf.lk zc.tn.lk zd.uj.lk 17m.17r.18z 17n.17r.190 17o.18o.190 17p.17r.191 17q.18q.190",
   "1c0.1cl.190 1c2.1c1.190 1cj.1ci.190 1t5.1t4.1to 1td.1tc.1to 1tg.1tf.1to 1ug.1sl.1toX",
   "1uh.1sm.1toX 1ui.1sn.1toX 1uj.1ss.1toX 1uk.1sx.1toX 1ul.1sy.1toX 1um.1t7.1toX 1un.1tb.1toX",
   "1xn.1xj.1xa 1xo.1xj.1xz 1y4.1wh.1x8X 1y5.1wi.1x8X 1y7.1wv.1x8X 20j.20i.20sX 20m.20o.20sX",
   "21l.1zq.20sX 21m.1zr.20sX 21n.1zw.20sX 21q.20b.20sX 288.287.28m 28b.287.27y 28c.287.28n",
   "28s.275.27wX 28t.276.27wX 2ac.2aa.2c7 2bu.2bq.2bi 2bv.2br.2bi 2bw.2bq.2c7 2fc.2fa.2fq",
   "2io.2in.2j9 2iv.2iu.2j9 2iw.2iu.2ja 2iy.2iu.2iq 2iz.2iy.2j9 2mi.2me.2m6 2mj.2mf.2m6",
   "2mk.2me.2mv 2qi.2qh.2q2 2qk.2qh.2q7 2ql.2qk.2q2 2qm.2qh.2qn 30j.30i.33rX 30t.30s.33rX",
   "30y.30x.33rX 313.312.33rX 318.317.33rX 31l.30g.33pX 31v.31t.31uX 31x.31t.31wX 31y.33m.328X",
   "320.33n.328X 329.31t.328X 32r.32q.33rX 331.330.33rX 336.335.33rX 33b.33a.33rX 33g.33f.33rX",
   "33t.32o.33pX 36u.36t.372 5c6.5c5.5dh 5c8.5c7.5dh 5ca.5c9.5dh 5cc.5cb.5dh 5ce.5cd.5dh",
   "5ci.5ch.5dh 5dn.5dm.5dh 5dp.5do.5dh 5ds.5dq.5dh 5dt.5dr.5dh 5dv.5du.5dh 5xc.1t.md 5xd.2p.md",
   "5xe.1u.lj 5xf.2q.lj 5xg.1u.mb 5xh.2q.mb 5xi.1u.mp 5xj.2q.mp 5xk.5j.ld 5xl.6f.ld 5xm.1w.lj",
   "5xn.2s.lj 5xo.1w.mb 5xp.2s.mb 5xq.1w.mp 5xr.2s.mp 5xs.1w.mf 5xt.2s.mf 5xu.1w.ml 5xv.2s.ml",
   "5xw.7m.lc 5xx.7n.lc 5xy.7m.ld 5xz.7n.ld 5y0.1x.ml 5y1.2t.ml 5y2.1x.mo 5y3.2t.mo 5y4.fc.li",
   "5y5.fd.li 5y6.1y.lj 5y7.2u.lj 5y8.1z.lg 5y9.2v.lg 5ya.20.lj 5yb.2w.lj 5yc.20.mb 5yd.2w.mb",
   "5ye.20.lk 5yf.2w.lk 5yg.20.mf 5yh.2w.mf 5yi.20.mm 5yj.2w.mm 5yk.21.mo 5yl.2x.mo 5ym.5r.ld",
   "5yn.6n.ld 5yo.23.ld 5yp.2z.ld 5yq.23.mb 5yr.2z.mb 5ys.23.mp 5yt.2z.mp 5yu.24.mb 5yv.30.mb",
   "5yw.5yu.lg 5yx.5yv.lg 5yy.24.mp 5yz.30.mp 5z0.24.ml 5z1.30.ml 5z2.25.ld 5z3.31.ld 5z4.25.lj",
   "5z5.31.lj 5z6.25.mb 5z7.31.mb 5z8.26.lj 5z9.32.lj 5za.26.mb 5zb.32.mb 5zc.26.mp 5zd.32.mp",
   "5ze.26.ml 5zf.32.ml 5zg.5x.ld 5zh.6t.ld 5zi.5x.lk 5zj.6t.lk 5zk.98.lc 5zl.99.lc 5zm.98.ld",
   "5zn.99.ld 5zo.28.ld 5zp.34.ld 5zq.28.lj 5zr.34.lj 5zs.2a.lj 5zt.36.lj 5zu.2a.mb 5zv.36.mb",
   "5zw.5zu.lg 5zx.5zv.lg 5zy.2a.mp 5zz.36.mp 600.2b.lj 601.37.lj 602.2b.mb 603.37.mb 604.9m.lj",
   "605.9n.lj 606.9s.lj 607.9t.lj 608.602.lj 609.603.lj 60a.2c.lj 60b.38.lj 60c.2c.mb 60d.38.mb",
   "60e.2c.mp 60f.38.mp 60g.2c.ml 60h.38.ml 60i.2d.mc 60j.39.mc 60k.2d.mo 60l.39.mo 60m.2d.ml",
   "60n.39.ml 60o.a0.ld 60p.a1.ld 60q.a2.lk 60r.a3.lk 60s.2e.lf 60t.3a.lf 60u.2e.mb 60v.3a.mb",
   "60w.2f.lc 60x.3b.lc 60y.2f.ld 60z.3b.ld 610.2f.lk 611.3b.lk 612.2f.lj 613.3b.lj 614.2f.mb",
   "615.3b.mb 616.2g.lj 617.3c.lj 618.2g.lk 619.3c.lk 61a.2h.lj 61b.3d.lj 61c.2i.le 61d.3e.le",
   "61e.2i.mb 61f.3e.mb 61g.2i.mp 61h.3e.mp 61i.2w.mp 61j.38.lk 61k.3b.lm 61l.3d.lm 61n.an.lj",
   "61s.1t.mb 61t.2p.mb 61u.1t.ll 61v.2p.ll 61w.5e.ld 61x.6a.ld 61y.5e.lc 61z.6a.lc 620.5e.ll",
   "621.6a.ll 622.5e.lf 623.6a.lf 624.61s.le 625.61t.le 626.76.ld 627.77.ld 628.76.lc 629.77.lc",
   "62a.76.ll 62b.77.ll 62c.76.lf 62d.77.lf 62e.61s.li 62f.61t.li 62g.1x.mb 62h.2t.mb 62i.1x.ll",
   "62j.2t.ll 62k.1x.lf 62l.2t.lf 62m.5m.ld 62n.6i.ld 62o.5m.lc 62p.6i.lc 62q.5m.ll 62r.6i.ll",
   "62s.5m.lf 62t.6i.lf 62u.62g.le 62v.62h.le 62w.21.ll 62x.2x.ll 62y.21.mb 62z.2x.mb 630.27.mb",
   "631.33.mb 632.27.ll 633.33.ll 634.5w.ld 635.6s.ld 636.5w.lc 637.6s.lc 638.5w.ll 639.6s.ll",
   "63a.5w.lf 63b.6s.lf 63c.630.le 63d.631.le 63e.bk.ld 63f.bl.ld 63g.bk.lc 63h.bl.lc 63i.bk.ll",
   "63j.bl.ll 63k.bk.lf 63l.bl.lf 63m.bk.mb 63n.bl.mb 63o.2d.mb 63p.39.mb 63q.2d.ll 63r.39.ll",
   "63s.bz.ld 63t.c0.ld 63u.bz.lc 63v.c0.lc 63w.bz.ll 63x.c0.ll 63y.bz.lf 63z.c0.lf 640.bz.mb",
   "641.c0.mb 642.2h.lc 643.3d.lc 644.2h.mb 645.3d.mb 646.2h.ll 647.3d.ll 648.2h.lf 649.3d.lf",
   "64g.q9.lv 64h.q9.lw 64i.64g.lc 64j.64h.lc 64k.64g.ld 64l.64h.ld 64m.64g.n6 64n.64h.n6",
   "64o.pd.lv 64p.pd.lw 64q.64o.lc 64r.64p.lc 64s.64o.ld 64t.64p.ld 64u.64o.n6 64v.64p.n6",
   "64w.qd.lv 64x.qd.lw 64y.64w.lc 64z.64x.lc 650.64w.ld 651.64x.ld 654.ph.lv 655.ph.lw",
   "656.654.lc 657.655.lc 658.654.ld 659.655.ld 65c.qf.lv 65d.qf.lw 65e.65c.lc 65f.65d.lc",
   "65g.65c.ld 65h.65d.ld 65i.65c.n6 65j.65d.n6 65k.pj.lv 65l.pj.lw 65m.65k.lc 65n.65l.lc",
   "65o.65k.ld 65p.65l.ld 65q.65k.n6 65r.65l.n6 65s.qh.lv 65t.qh.lw 65u.65s.lc 65v.65t.lc",
   "65w.65s.ld 65x.65t.ld 65y.65s.n6 65z.65t.n6 660.pl.lv 661.pl.lw 662.660.lc 663.661.lc",
   "664.660.ld 665.661.ld 666.660.n6 667.661.n6 668.qn.lv 669.qn.lw 66a.668.lc 66b.669.lc",
   "66c.668.ld 66d.669.ld 66g.pr.lv 66h.pr.lw 66i.66g.lc 66j.66h.lc 66k.66g.ld 66l.66h.ld",
   "66o.qt.lv 66p.qt.lw 66q.66o.lc 66r.66p.lc 66s.66o.ld 66t.66p.ld 66u.66o.n6 66v.66p.n6",
   "66x.px.lw 66z.66x.lc 671.66x.ld 673.66x.n6 674.qx.lv 675.qx.lw 676.674.lc 677.675.lc",
   "678.674.ld 679.675.ld 67a.674.n6 67b.675.n6 67c.q1.lv 67d.q1.lw 67e.67c.lc 67f.67d.lc",
   "67g.67c.ld 67h.67d.ld 67i.67c.n6 67j.67d.n6 67k.q9.lc 67l.q4X 67m.qd.lc 67n.q5X 67o.qf.lc",
   "67p.q6X 67q.qh.lc 67r.q7X 67s.qn.lc 67t.r0X 67u.qt.lc 67v.r1X 67w.qx.lc 67x.r2X 680.64g.n9",
   "681.64h.n9 682.64i.n9 683.64j.n9 684.64k.n9 685.64l.n9 686.64m.n9 687.64n.n9 688.64o.n9",
   "689.64p.n9 68a.64q.n9 68b.64r.n9 68c.64s.n9 68d.64t.n9 68e.64u.n9 68f.64v.n9 68g.65c.n9",
   "68h.65d.n9 68i.65e.n9 68j.65f.n9 68k.65g.n9 68l.65h.n9 68m.65i.n9 68n.65j.n9 68o.65k.n9",
   "68p.65l.n9 68q.65m.n9 68r.65n.n9 68s.65o.n9 68t.65p.n9 68u.65q.n9 68v.65r.n9 68w.674.n9",
   "68x.675.n9 68y.676.n9 68z.677.n9 690.678.n9 691.679.n9 692.67a.n9 693.67b.n9 694.67c.n9",
   "695.67d.n9 696.67e.n9 697.67f.n9 698.67g.n9 699.67h.n9 69a.67i.n9 69b.67j.n9 69c.q9.li",
   "69d.q9.lg 69e.67k.n9 69f.q9.n9 69g.q4.n9 69i.q9.n6 69j.69i.n9 69k.pd.li 69l.pd.lg 69m.pd.lc",
   "69n.p2X 69o.pd.n9 69q.qhX 69t.4o.n6 69u.67o.n9 69v.qf.n9 69w.q6.n9 69y.qf.n6 69z.69y.n9",
   "6a0.ph.lc 6a1.p4X 6a2.pj.lc 6a3.p5X 6a4.pj.n9 6a5.69r.lc 6a6.69r.ld 6a7.69r.n6 6a8.qh.li",
   "6a9.qh.lg 6aa.qy.lc 6ab.pcX 6ae.qh.n6 6af.qy.n6 6ag.pl.li 6ah.pl.lg 6ai.pl.lc 6aj.p6X",
   "6al.6bi.lc 6am.6bi.ld 6an.6bi.n6 6ao.qt.li 6ap.qt.lg 6aq.qz.lc 6ar.q8X 6as.qp.lv 6at.qp.lw",
   "6au.qt.n6 6av.qz.n6 6aw.px.li 6ax.px.lg 6ay.px.lc 6az.paX 6b0.pt.lw 6b1.4o.lc 6b2.p1X",
   "6b3.2oX 6b6.67w.n9 6b7.qx.n9 6b8.r2.n9 6ba.qx.n6 6bb.6ba.n9 6bc.pr.lc 6bd.p8X 6be.q1.lc",
   "6bf.pbX 6bg.q1.n9 6bh.50X 6bk.6bmX 6bl.6bnX 6jq.q1X 6ju.23X 6jv.5hX 6my.6mo.mw 6mz.6mq.mw",
   "6ni.6ms.mw 6od.6og.mw 6oe.6ok.mw 6of.6oi.mw 6pw.6pv.mw 6q1.6q0.mw 6q4.6q3.mw 6qs.6qr.mw",
   "6qu.6qt.mw 6rl.6rg.mw 6ro.6rn.mw 6rr.6rp.mw 6rt.6rs.mw 6sg.1p.mw 6si.6sh.mw 6st.6rx.mw",
   "6su.1o.mw 6sv.1q.mw 6sw.6sk.mw 6sx.6sl.mw 6t0.6sy.mw 6t1.6sz.mw 6t4.6t2.mw 6t5.6t3.mw",
   "6tc.6t6.mw 6td.6t7.mw 6tg.6te.mw 6th.6tf.mw 6tk.6ti.mw 6tl.6tj.mw 6uk.6ua.mw 6ul.6ug.mw",
   "6um.6uh.mw 6un.6uj.mw 6w0.6t8.mw 6w1.6t9.mw 6w2.6tt.mw 6w3.6tu.mw 6wa.6uq.mw 6wb.6ur.mw",
   "6wc.6us.mw 6wd.6ut.mw 6y1.9hkX 6y2.9hlX 8gs.8gt.mwX 9jg.9jf.9ll 9ji.9jh.9ll 9jk.9jj.9ll",
   "9jm.9jl.9ll 9jo.9jn.9ll 9jq.9jp.9ll 9js.9jr.9ll 9ju.9jt.9ll 9jw.9jv.9ll 9jy.9jx.9ll",
   "9k0.9jz.9ll 9k2.9k1.9ll 9k5.9k4.9ll 9k7.9k6.9ll 9k9.9k8.9ll 9kg.9kf.9ll 9kh.9kf.9lm",
   "9kj.9ki.9ll 9kk.9ki.9lm 9km.9kl.9ll 9kn.9kl.9lm 9kp.9ko.9ll 9kq.9ko.9lm 9ks.9kr.9ll",
   "9kt.9kr.9lm 9lg.9ja.9ll 9lq.9lp.9ll 9m4.9m3.9ll 9m6.9m5.9ll 9m8.9m7.9ll 9ma.9m9.9ll",
   "9mc.9mb.9ll 9me.9md.9ll 9mg.9mf.9ll 9mi.9mh.9ll 9mk.9mj.9ll 9mm.9ml.9ll 9mo.9mn.9ll",
   "9mq.9mp.9ll 9mt.9ms.9ll 9mv.9mu.9ll 9mx.9mw.9ll 9n4.9n3.9ll 9n5.9n3.9lm 9n7.9n6.9ll",
   "9n8.9n6.9lm 9na.9n9.9ll 9nb.9n9.9lm 9nd.9nc.9ll 9ne.9nc.9lm 9ng.9nf.9ll 9nh.9nf.9lm",
   "9o4.9ly.9ll 9o7.9nz.9ll 9o8.9o0.9ll 9o9.9o1.9ll 9oa.9o2.9ll 9oe.9od.9ll 1d6o.rpkX 1d6p.kc4X",
   "1d6q.s7eX 1d6r.rt4X 1d6s.lw1X 1d6t.fg2X 1d6u.gklX 1d6v.vj0X 1d6w.vj0X 1d6x.hn5X 1d6y.ssxX",
   "1d6z.gw7X 1d70.hmwX 1d71.jcmX 1d72.ne1X 1d73.p6tX 1d74.qinX 1d75.qt6X 1d76.r20X 1d77.sjzX",
   "1d78.kxuX 1d79.ljvX 1d7a.mahX 1d7b.mvyX 1d7c.q4dX 1d7d.sq2X 1d7e.uepX 1d7f.fiaX 1d7g.ghhX",
   "1d7h.l50X 1d7i.mjfX 1d7j.qi5X 1d7k.v8eX 1d7l.ifkX 1d7m.m3vX 1d7n.qfhX 1d7o.r50X 1d7p.jihX",
   "1d7q.pncX 1d7r.qvzX 1d7s.iq2X 1d7t.kd3X 1d7u.lm2X 1d7v.mpoX 1d7w.slqX 1d7x.fpiX 1d7y.g53X",
   "1d7z.gdaX 1d80.jwkX 1d81.l3nX 1d82.mj4X 1d83.nhjX 1d84.pa9X 1d85.qh2X 1d86.qjgX 1d87.s1bX",
   "1d88.tv6X 1d89.upbX 1d8a.v7eX 1d8b.nt8X 1d8c.nzzX 1d8d.otcX 1d8e.q15X 1d8f.t1gX 1d8g.vb3X",
   "1d8h.rfaX 1d8i.hjzX 1d8j.iroX 1d8k.okgX 1d8l.pdqX 1d8m.mleX 1d8n.nuyX 1d8o.rsyX 1d8p.ttjX",
   "1d8q.hjsX 1d8r.i8yX 1d8s.kybX 1d8t.lp6X 1d8u.lxrX 1d8v.oq7X 1d8w.oxjX 1d8x.torX 1d8y.gcyX",
   "1d8z.pe3X 1d90.g64X 1d91.g5oX 1d92.o4cX 1d93.ou6X 1d94.q29X 1d95.tpxX 1d96.rk0X 1d97.jinX",
   "1d98.kxuX 1d99.rgeX 1d9a.fg9X 1d9b.i5jX 1d9c.iz6X 1d9d.mtjX 1d9e.n74X 1d9f.gevX 1d9g.nwbX",
   "1d9h.fr3X 1d9i.iw9X 1d9j.ff1X 1d9k.lhoX 1d9l.k1kX 1d9m.opuX 1d9n.gjnX 1d9o.hgeX 1d9p.ni9X",
   "1d9q.q4pX 1d9r.re2X 1d9s.la2X 1d9t.sdsX 1d9u.lfsX 1d9v.jjyX 1d9w.putX 1d9x.jogX 1d9y.n6tX",
   "1d9z.fjiX 1da0.g2xX 1da1.g5lX 1da2.kn5X 1da3.oo7X 1da4.prjX 1da5.rf6X 1da6.ssvX 1da7.gdxX",
   "1da8.gn6X 1da9.ho3X 1daa.ir0X 1dab.k3pX 1dac.m4eX 1dad.nxmX 1dae.tkdX 1daf.ui2X 1dag.vbrX",
   "1dah.vdaX 1dai.gbfX 1daj.kauX 1dak.l87X 1dal.sbmX 1dam.inoX 1dan.j9sX 1dao.jcwX 1dap.jveX",
   "1daq.lybX 1dar.mdlX 1das.n0pX 1dat.o22X 1dau.ovoX 1dav.pdbX 1daw.s9yX 1dax.q9aX 1day.sgzX",
   "1daz.t3eX 1db0.g7rX 1db1.gbnX 1db2.gqlX 1db3.ma0X 1db4.r0iX 1db5.re2X 1db6.iq1X 1db7.iydX",
   "1db8.jnfX 1db9.l9qX 1dba.ojiX 1dbb.mt1X 1dbc.fl0X 1dbd.h6hX 1dbe.i5jX 1dbf.iiiX 1dbg.izgX",
   "1dbh.muqX 1dbi.mztX 1dbj.p7eX 1dbk.pc6X 1dbl.svoX 1dbm.ttiX 1dbn.tvsX 1dbo.u1kX 1dbp.fpnX",
   "1dbq.o1aX 1dbr.ss4X 1dbs.trsX 1dbt.j4xX 1dbu.fieX 1dbv.fyyX 1dbw.i5qX 1dbx.i7zX 1dby.k2hX",
   "1dbz.kxuX 1dc0.mhaX 1dc1.ncyX 1dc2.q9oX 1dc3.sjgX 1dc4.vilX 1dc5.k94X 1dc6.tnyX 1dc7.gaxX",
   "1dc8.kfvX 1dc9.kj7X 1dca.lkxX 1dcb.lukX 1dcc.mx5X 1dcd.n6hX 1dce.nsbX 1dcf.opcX 1dcg.u3iX",
   "1dch.g31X 1dci.je6X 1dcj.tq0X 1dck.fu3X 1dcl.ie1X 1dcm.lpmX 1dcn.sa2X 1dco.ivfX 1dcp.j7oX",
   "1dcq.kk7X 1dcr.mtjX 1dcs.tqeX 1dct.g89X 1dcu.glrX 1dcv.i91X 1dcw.k5vX 1dcx.kemX 1dcy.ko8X",
   "1dcz.lidX 1dd0.mx2X 1dd1.naaX 1dd2.p6hX 1dd3.r0vX 1dd4.r1dX 1dd5.sssX 1dd6.tsyX 1dd7.gfzX",
   "1dd8.lveX 1dd9.gm5X 1dda.mhcX 1ddb.n14X 1ddc.qgqX 1ddd.tr7X 1dde.uvrX 1ddf.vbzX 1ddg.kgnX",
   "1ddh.lorX 1ddi.pnsX 1ddj.o97X 1ddk.obkX 1ddl.oluX 1ddm.mo0X 1ddn.m8pX 1ddo.riwX 1ddp.fk0X",
   "1ddq.px2X 1ddr.g8qX 1dds.g7bX 1ddt.ip2X 1ddu.jirX 1ddv.onqX 1ddw.i2tX 1ddx.ljyX 1ddy.kacX",
   "1ddz.sajX 1de0.qx8X 1de1.totX 1de2.r63X 1de3.iqbX 1de4.g1sX 1de5.gxsX 1de8.hgaX 1dea.k8kX",
   "1ded.g66X 1dee.mqyX 1def.ngqX 1deg.ny4X 1deh.nz2X 1dei.nz9X 1dej.o0fX 1dek.tw6X 1del.on2X",
   "1dem.p8dX 1deo.qheX 1deq.rg8X 1det.shkX 1deu.sn1X 1dey.u7jX 1dez.u7wX 1df0.u94X 1df1.v5gX",
   "1df2.sm6X 1df3.trrX 1df4.fqmX 1df5.fzbX 1df6.g25X 1df7.gcpX 1df8.gdgX 1df9.gghX 1dfa.gwtX",
   "1dfb.gzqX 1dfc.h2gX 1dfd.hfkX 1dfe.higX 1dff.i90X 1dfg.i9aX 1dfh.j2sX 1dfi.j8oX 1dfj.j9qX",
   "1dfk.jciX 1dfl.k0fX 1dfm.k4iX 1dfn.k9dX 1dfo.kn9X 1dfp.lmfX 1dfq.lqyX 1dfr.lyaX 1dfs.memX",
   "1dft.mjvX 1dfu.mxuX 1dfv.ntdX 1dfw.ny6X 1dfx.nyhX 1dfy.nygX 1dfz.nyoX 1dg0.nyuX 1dg1.nz1X",
   "1dg2.o0dX 1dg3.o0eX 1dg4.o5cX 1dg5.o75X 1dg6.og0X 1dg7.ovoX 1dg8.ow9X 1dg9.oxtX 1dga.p6aX",
   "1dgb.padX 1dgc.pnxX 1dgd.prtX 1dge.prtX 1dgf.q53X 1dgg.r2oX 1dgh.r6eX 1dgi.rghX 1dgj.ri1X",
   "1dgk.rtfX 1dgl.ruwX 1dgm.sdyX 1dgn.shkX 1dgo.tszX 1dgp.u0vX 1dgq.u2jX 1dgr.j1xX 1dgs.36cuX",
   "1dgt.pp4X 1dgw.ffqX 1dgx.g51X 1dgy.g2wX 1dgz.fpcX 1dh0.g1xX 1dh1.g3kX 1dh2.gcnX 1dh3.ge2X",
   "1dh4.gwtX 1dh5.gutX 1dh6.gwpX 1dh7.gyqX 1dh8.hgaX 1dh9.hirX 1dha.hmsX 1dhb.hn8X 1dhc.huqX",
   "1dhd.i08X 1dhe.iqaX 1dhf.iqhX 1dhg.iuhX 1dhh.iwdX 1dhi.j4oX 1dhj.j7yX 1dhk.j60X 1dhl.j9qX",
   "1dhm.j8gX 1dhn.jciX 1dho.jecX 1dhp.jpgX 1dhq.jrwX 1dhr.jteX 1dhs.k0mX 1dht.k8kX 1dhu.kd3X",
   "1dhv.kd7X 1dhw.keuX 1dhx.l89X 1dhy.la2X 1dhz.lkxX 1di0.lwbX 1di1.lvvX 1di2.lyaX 1di3.m5aX",
   "1di4.memX 1di5.nmvX 1di6.mk5X 1di7.mnjX 1di8.mqyX 1di9.n01X 1dia.n46X 1dib.n5nX 1dic.nbxX",
   "1did.nbzX 1die.ngqX 1dif.nh7X 1dig.nhwX 1dih.nkaX 1dii.nk0X 1dij.nv0X 1dik.o8hX 1dil.og0X",
   "1dim.ol7X 1din.orfX 1dio.ovoX 1dip.p4uX 1diq.padX 1dir.pxuX 1dis.q27X 1dit.qrdX 1diu.r41X",
   "1div.r5yX 1diw.r6eX 1dix.renX 1diy.rg8X 1diz.rezX 1dj0.rghX 1dj1.rgeX 1dj2.rfxX 1dj3.ri1X",
   "1dj4.rkaX 1dj5.ruwX 1dj6.sagX 1dj7.sj6X 1dj8.srdX 1dj9.sxiX 1dja.tq4X 1djb.tszX 1djc.tw6X",
   "1djd.tzvX 1dje.u0vX 1djf.u17X 1djg.u2jX 1djh.umqX 1dji.vj0X 1djj.313eX 1djk.3138X",
   "1djl.33dhX 1djm.brxX 1djn.cnsX 1djo.copX 1djp.39e1X 1djq.3bgwX 1djr.3i6rX 1djs.vgjX",
   "1djt.vimX 1dlp.15l.14kX 1dlr.16a.14nX 1dm2.161.14xX 1dm3.161.14yX 1dm4.1dmx.14xX",
   "1dm5.1dmx.14yX 1dm6.15c.14nX 1dm7.15c.14oX 1dm8.15c.14sX 1dm9.15d.14sX 1dma.15e.14sX",
   "1dmb.15f.14sX 1dmc.15g.14sX 1dmd.15h.14sX 1dme.15i.14sX 1dmg.15k.14sX 1dmh.15l.14sX",
   "1dmi.15m.14sX 1dmj.15n.14sX 1dmk.15o.14sX 1dmm.15q.14sX 1dmo.15s.14sX 1dmp.15t.14sX",
   "1dmr.15v.14sX 1dms.15w.14sX 1dmu.15y.14sX 1dmv.15z.14sX 1dmw.160.14sX 1dmx.161.14sX",
   "1dmy.162.14sX 1dmz.15h.14pX 1dn0.15d.14vX 1dn1.15n.14vX 1dn2.15w.14vX 1hui.1huh.1hve",
   "1huk.1huj.1hve 1huz.1hut.1hve 1hym.1hyp.1hyf 1hyn.1hyq.1hyf 1idn.1idj.1ida 1ido.1idj.1idz",
   "1inv.1int.1inu 1inw.1int.1ink 1iny.1int.1inx 1iuy.1iuw.1iun 1iuz.1iux.1iun 1jjs.1jjp.1jjk",
   "2jxa.2jx3.2jxhX 2jxb.2jx4.2jxhX 2jxc.2jxb.2jxqX 2jxd.2jxb.2jxrX 2jxe.2jxb.2jxsX",
   "2jxf.2jxb.2jxtX 2jxg.2jxb.2jxuX 2jzv.2jzt.2jxhX 2jzw.2jzu.2jxhX 2jzx.2jzv.2jxqX",
   "2jzy.2jzw.2jxqX 2jzz.2jzv.2jxrX 2k00.2jzw.2jxrX 464g.fgdX 464h.fg8X 464i.fghX 464j.2tcyX",
   "464k.fogX 464l.fqmX 464m.fqzX 464n.fsyX 464o.fwaX 464p.fx5X 464q.fzbX 464r.fynX 464s.ae6X",
   "464t.2ud6X 464u.g25X 464v.g2cX 464w.g2sX 464x.g3bX 464y.2u58X 464z.aexX 4650.g2vX 4651.g3xX",
   "4652.2u6jX 4653.g47X 4654.g4kX 4655.fkcX 4656.g4sX 4657.g51X 4658.3ly7X 4659.g6tX 465a.g77X",
   "465b.afzX 465c.g8rX 465d.g92X 465e.gaaX 465f.gafX 465g.ahhX 465h.gcnX 465i.gcpX 465j.gdgX",
   "465k.ge2X 465l.gedX 465m.geeX 465n.gevX 465o.gg9X 465p.gghX 465q.ggqX 465r.ghfX 465s.ghpX",
   "465t.ghrX 465u.ghrX 465v.ghrX 465w.2v58X 465x.m7kX 465y.gjuX 465z.gkfX 4660.2vdvX 4661.gkrX",
   "4662.gkxX 4663.gliX 4664.gpqX 4665.gmwX 4666.gncX 4667.go8X 4668.gpuX 4669.gs6X 466a.gswX",
   "466b.gurX 466c.gv7X 466d.gw4X 466e.gw4X 466f.gwpX 466g.gx7X 466h.gxfX 466i.gxuX 466j.h7aX",
   "466k.gzqX 466l.h7bX 466m.h1tX 466n.h2sX 466o.g7bX 466p.hkeX 466q.hceX 466r.hdgX 466s.he5X",
   "466t.hajX 466u.hf6X 466v.hf5X 466w.hikX 466x.2x9gX 466y.hkiX 466z.hknX 4670.hl2X 4671.hlmX",
   "4672.hluX 4673.hnmX 4674.2xm0X 4675.2xnuX 4676.hrgX 4677.hsrX 4678.ht3X 4679.hqwX 467a.huuX",
   "467b.aumX 467c.av0X 467d.hzcX 467e.i0uX 467f.i0uX 467g.2y88X 467h.i4jX 467i.i54X 467j.i5jX",
   "467k.i5vX 467l.2yhkX 467m.i67X 467n.i6eX 467o.itvX 467p.i76X 467q.aypX 467r.i8wX 467s.i9aX",
   "467t.ibkX 467u.ia5X 467v.2z1gX 467w.if7X 467x.2z1iX 467y.igeX 467z.igbX 4680.igsX 4681.ijlX",
   "4682.ijmX 4683.b3jX 4684.ikdX 4685.ilkX 4686.im5X 4687.indX 4688.b4yX 4689.2zr7X 468a.b5oX",
   "468b.ipcX 468c.ipfX 468d.ipiX 468e.iq2X 468f.3pg2X 468g.iriX 468h.3035X 468i.3035X",
   "468j.pohX 468k.isiX 468l.isiX 468m.b7rX 468n.335kX 468o.3cgqX 468p.iuaX 468q.iujX 468r.b8jX",
   "468s.ivuX 468t.ix9X 468u.ixjX 468v.iyhX 468w.j29X 468x.bayX 468y.ba4X 468z.j2sX 4690.30t0X",
   "4691.j47X 4692.j7sX 4693.j7wX 4694.j7yX 4695.j7wX 4696.j96X 4697.j9qX 4698.jaqX 4699.jacX",
   "469a.janX 469b.jbyX 469c.jciX 469d.jcmX 469e.jdcX 469f.jdnX 469g.jfhX 469h.jhtX 469i.jisX",
   "469j.jm8X 469k.31n0X 469l.jlpX 469m.jjwX 469n.jmwX 469o.jnnX 469p.jqcX 469q.31tdX 469r.js2X",
   "469s.jphX 469t.jopX 469u.bhqX 469v.ju1X 469w.jumX 469x.jvhX 469y.jufX 469z.bjgX 46a0.k0fX",
   "46a1.k18X 46a2.32miX 46a3.k4jX 46a4.kc8X 46a5.k7dX 46a6.bo9X 46a7.k9dX 46a8.bnsX 46a9.bmsX",
   "46aa.g42X 46ab.g45X 46ac.kcgX 46ad.k9oX 46ae.pf1X 46af.dehX 46ag.kd3X 46ah.kd7X 46ai.kddX",
   "46aj.kf2X 46ak.kerX 46al.33czX 46am.bplX 46an.kjeX 46ao.kg5X 46ap.kluX 46aq.kn9X 46ar.33hpX",
   "46as.kniX 46at.kkfX 46au.kr8X 46av.brxX 46aw.ksiX 46ax.kv7X 46ay.kx6X 46az.l2gX 46b0.33xfX",
   "46b1.l3vX 46b2.bvcX 46b3.l5tX 46b4.34brX 46b5.l78X 46b6.bwuX 46b7.l82X 46b8.l9bX 46b9.la2X",
   "46ba.la3X 46bb.34p9X 46bc.2yvfX 46bd.34saX 46be.le6X 46bf.354sX 46bg.lhbX 46bh.lhpX",
   "46bi.levX 46bj.ljqX 46bk.lkuX 46bl.lmfX 46bm.lkxX 46bn.lm1X 46bo.lmgX 46bp.lmtX 46bq.357iX",
   "46br.lkkX 46bs.lrjX 46bt.ltaX 46bu.c37X 46bv.lvvX 46bw.lvrX 46bx.35jlX 46by.lq1X 46bz.m0eX",
   "46c0.35niX 46c1.35ouX 46c2.m2uX 46c3.m61X 46c4.m5aX 46c5.m57X 46c6.c5yX 46c7.m6iX 46c8.m7xX",
   "46c9.m7rX 46ca.m99X 46cb.2u5hX 46cc.mdhX 46cd.368zX 46ce.mfwX 46cf.36i3X 46cg.mjsX",
   "46ch.mk5X 46ci.mkwX 46cj.36ywX 46ck.mm8X 46cl.mmtX 46cm.3779X 46cn.37dgX 46co.mt6X",
   "46cp.mtnX 46cq.cdoX 46cr.mudX 46cs.ce0X 46ct.ce0X 46cu.myvX 46cv.mzgX 46cw.n01X 46cx.n0lX",
   "46cy.n2iX 46cz.cgrX 46d0.n50X 46d1.386uX 46d2.n5qX 46d3.389eX 46d4.n74X 46d5.2zrzX",
   "46d6.nbkX 46d7.38v5X 46d8.38vsX 46d9.38zoX 46da.cn0X 46db.cncX 46dc.nhwX 46dd.394jX",
   "46de.394iX 46df.395lX 46dg.396bX 46dh.nj2X 46di.nj3X 46dj.nj3X 46dk.nkaX 46dl.copX",
   "46dm.nm3X 46dn.cp2X 46do.craX 46dp.39r1X 46dq.nriX 46dr.nt8X 46ds.nv0X 46dt.ctfX 46du.3a5iX",
   "46dv.nyuX 46dw.3a8qX 46dx.3a9xX 46dy.o0fX 46dz.o2zX 46e0.cvjX 46e1.o5cX 46e2.o5mX 46e3.o5rX",
   "46e4.3at8X 46e5.3b1jX 46e6.3b1jX 46e7.oa6X 46e8.d1eX 46e9.3b8rX 46ea.og6X 46eb.og9X",
   "46ec.d2fX 46ed.3beoX 46ee.onmX 46ef.d5sX 46eg.oo8X 46eh.oo3X 46ei.oowX 46ej.3c06X 46ek.ornX",
   "46el.d8hX 46em.oufX 46en.ow2X 46eo.oxxX 46ep.d9wX 46eq.3ciwX 46er.3cjrX 46es.daxX",
   "46et.3cntX 46eu.p6iX 46ev.3cqmX 46ew.p79X 46ex.pa2X 46ey.padX 46ez.3d22X 46f0.3d43X",
   "46f1.pcwX 46f2.3d7sX 46f3.pdcX 46f4.33a7X 46f5.dedX 46f6.pf6X 46f7.phfX 46f8.dfvX 46f9.pj2X",
   "46fa.hx1X 46fb.3dlzX 46fc.3dmdX 46fd.33bnX 46fe.33bwX 46ff.pohX 46fg.pokX 46fh.sdaX",
   "46fi.dijX 46fj.pshX 46fk.psbX 46fl.pstX 46fm.gc3X 46fn.ptdX 46fo.ptfX 46fp.ptpX 46fq.puuX",
   "46fr.3ebgX 46fs.putX 46ft.pwdX 46fu.pybX 46fv.q0dX 46fw.pwjX 46fx.q0tX 46fy.q1zX 46fz.q53X",
   "46g0.pxvX 46g1.q16X 46g2.q18X 46g3.q1oX 46g4.3eieX 46g5.3eqzX 46g6.3emtX 46g7.dnvX",
   "46g8.q9dX 46g9.q9fX 46ga.qaeX 46gb.3g0aX 46gc.qckX 46gd.3f3gX 46ge.dp9X 46gf.dpdX",
   "46gg.3f75X 46gh.3ff6X 46gi.dpnX 46gj.qj4X 46gk.qjgX 46gl.qjrX 46gm.qjtX 46gn.qllX 46go.qkoX",
   "46gp.qoeX 46gq.qn6X 46gr.qrdX 46gs.qp4X 46gt.qqzX 46gu.qrqX 46gv.dsnX 46gw.qu9X 46gx.qv5X",
   "46gy.dtlX 46gz.qxsX 46h0.qxvX 46h1.3givX 46h2.r13X 46h3.r1aX 46h4.dv9X 46h5.r22X 46h6.aezX",
   "46h7.3gz2X 46h8.3h46X 46h9.dz2X 46ha.dzbX 46hb.rdsX 46hc.rfxX 46hd.rkaX 46he.rpxX",
   "46hf.3hrcX 46hg.rsbX 46hh.rsxX 46hi.rvfX 46hj.rxzX 46hk.3i9bX 46hl.2upwX 46hm.s0bX",
   "46hn.rzwX 46ho.s1cX 46hp.2uvyX 46hq.s7oX 46hr.sagX 46hs.3jkiX 46ht.3jl9X 46hu.sk4X",
   "46hv.smpX 46hw.snlX 46hx.3ju6X 46hy.snvX 46hz.svsX 46i0.t07X 46i1.t08X 46i2.sxoX 46i3.t89X",
   "46i4.t91X 46i5.3ksaX 46i6.tjfX 46i7.ej9X 46i8.tknX 46i9.3l2vX 46ia.eliX 46ib.ts3X 46ic.iiaX",
   "46id.turX 46ie.3ltxX 46if.3lzuX 46ig.epaX 46ih.epiX 46ii.u00X 46ij.3mdmX 46ik.er6X",
   "46il.3mhiX 46im.u17X 46in.u17X 46io.u21X 46ip.3mpiX 46iq.u76X 46ir.eurX 46is.u95X 46it.ucnX",
   "46iu.udeX 46iv.uf2X 46iw.ez2X 46ix.3nsgX 46iy.umqX 46iz.uv4X 46j0.v0dX 46j1.f66X 46j2.f71X",
   "46j3.v3bX 46j4.3oweX 46j5.f7cX 46j6.3oxxX 46j7.3p5aX 46j8.3p8xX 46j9.vcrX 46ja.f9yX",
   "46jb.vehX 46jc.vemX 46jd.vetX 46je.vf3X 46jf.vfaX 46jg.vgbX 46jh.3pxcX"]

/-- Lengths of runs of code points, each with its combining class. -/
def classTable : List String :=
  ["lc 0 l 6e 1 6g 4 64 1 6g 1 60 5 64 2 5m 4 64 2 5m b 64 5 1 4 64 8 6e 1 6o 1 6e 3 64 3 6e 2",
   "64 1 0 3 6e 4 64 1 6e 1 6g 2 64 1 6e 1 6h 2 6i 1 6h 2 6i 1 6h d 6e 7n 0 5 6e 7d 0 1 64 4 6e",
   "1 64 3 6e 1 66 1 64 6 6e 6 64 2 6e 1 64 2 6e 1 66 1 6c 1 6e 1 a 1 b 1 c 1 d 1 e 1 f 1 g 1 h",
   "1 i 2 j 1 k 1 l 1 m 1 0 1 n 1 0 1 o 1 p 1 0 1 6e 1 64 1 0 1 i 20 0 8 6e 1 u 1 v 1 w 1c 0 1",
   "r 1 s 1 t 1 u 1 v 1 w 1 x 1 y 2 6e 2 64 5 6e 1 64 2 6e 1 64 g 0 1 z 2t 0 7 6e 2 0 4 6e 1 64",
   "1 6e 2 0 2 6e 1 0 1 64 2 6e 1 64 z 0 1 10 u 0 1 6e 1 64 2 6e 1 64 2 6e 3 64 1 6e 2 64 1 6e",
   "1 64 3 6e 1 64 1 6e 1 64 1 6e 1 64 1 6e 1 64 2 6e 4g 0 7 6e 1 64 1 6e 9 0 1 64 o 0 4 6e 1 0",
   "9 6e 1 0 3 6e 1 0 5 6e 17 0 3 64 1o 0 1 6e 3 64 4 6e 16 0 5 6e 5 64 e 6e 1 0 1 64 2 6e 1 64",
   "2 6e 1 64 3 6e 3 64 1 r 1 s 1 t 3 6e 1 64 2 6e 2 64 5 6e 1o 0 1 7 g 0 1 9 3 0 1 6e 1 64 2",
   "6e 2v 0 1 7 g 0 1 9 1c 0 1 6e 1p 0 1 7 g 0 1 9 32 0 1 7 g 0 1 9 32 0 1 7 g 0 1 9 3j 0 1 9",
   "32 0 1 7 g 0 1 9 7 0 1 2c 1 2j 2t 0 1 7 g 0 1 9 31 0 2 9 g 0 1 9 3g 0 1 9 31 0 2 2v 1 9 d 0",
   "4 2z 30 0 2 3a 1 9 d 0 4 3e 24 0 2 64 r 0 1 64 1 0 1 64 1 0 1 60 1j 0 1 3l 1 3m 1 0 1 3o 5",
   "0 4 3m 2 0 1 3m 1 0 2 6e 1 9 1 0 2 6e 1q 0 1 64 34 0 1 7 1 0 2 9 2a 0 1 64 jz 0 3 6e qc 0 2",
   "9 u 0 1 9 4d 0 1 9 a 0 1 6e 5n 0 1 6c 3z 0 1 66 1 6e 1 64 63 0 1 6e 1 64 1z 0 1 9 k 0 8 6e",
   "2 0 1 64 1c 0 5 6e 6 64 2 6e 1 64 1 0 2 64 2 6e 2 64 5 6e 1 64 4 6e 2t 0 1 7 f 0 1 9 12 0 1",
   "6e 1 64 7 6e 1i 0 2 9 1m 0 1 7 b 0 2 9 1v 0 1 7 48 0 3 6e 1 0 1 1 5 64 2 6e 4 64 1 6e 1 0 7",
   "1 4 0 1 64 6 0 1 6e 3 0 2 6e 5i 0 2 6e 1 64 7 6e 1 64 2 6e 1 6i 1 5y 1 64 1 5m 11 6e 1 6g 2",
   "6c 1 64 1 62 1 6e 1 6h 1 64 1 6e 1 64 k0 0 2 6e 2 1 4 6e 3 1 2 6e 4 0 1 6e 3 0 2 1 1 6e 1",
   "64 1 6e 2 1 4 64 1 6e 2da 0 3 6e 3x 0 1 9 2o 0 w 6e fe 0 1 62 1 6c 1 6g 1 66 2 68 2x 0 2 8",
   "n9w 0 1 6e 4 0 a 6e w 0 2 6e 28 0 2 6e 7o 0 1 9 11 0 1 9 47 0 1 9 r 0 i 6e 1l 0 3 64 11 0 1",
   "9 2n 0 1 7 c 0 1 9 6n 0 1 6e 1 0 2 6e 1 64 2 0 2 6e 5 0 2 6e 1 0 1 6e 1g 0 1 9 6u 0 1 9 fn4",
   "0 1 q ld 0 7 6e 7 64 2 6e r1 0 1 64 6a 0 1 64 45 0 5 6e 1aq 0 1 64 1 0 1 6e 14 0 1 6e 1 1 1",
   "64 4 0 1 9 4l 0 1 6e 1 64 fx 0 4 6e ar 0 2 6e 49 0 2 64 3 6e 1 64 1 6e 4 64 1d 0 1 6e 1 64",
   "1 6e 1 64 5c 0 1 9 15 0 1 9 e 0 1 9 1l 0 1 9 1 7 1x 0 3 6e 1c 0 2 9 1q 0 1 7 24 0 1 9 9 0 1",
   "7 2y 0 1 9 1 7 4y 0 1 7 1 9 28 0 2 7 g 0 1 9 o 0 7 6e 3 0 5 6e 5p 0 1 9 3 0 1 7 n 0 1 6e 2r",
   "0 1 9 1 7 6z 0 1 9 1 7 3i 0 1 9 3a 0 1 9 1 7 37 0 1 9 7h 0 1 9 1 7 76 0 2 9 4 0 1 7 4c 0 1",
   "9 2b 0 1 9 i 0 1 9 29 0 1 9 bp 0 1 9 76 0 1 7 1 0 2 9 29 0 1 9 fa0 0 5 1 1n 0 7 6e xl 0 2 6",
   "f58 0 1 1 43q 0 2 60 3 1 3 0 1 6a 5 60 8 0 8 64 2 0 5 6e 2 64 u 0 4 6e 44 0 3 6e 2pn 0 7 6e",
   "1 0 h 6e 2 0 7 6e 1 0 2 6e 1 0 5 6e 79 0 7 6e af 0 1 6e 1p 0 4 6e 15s 0 7 64 31 0 6 6e 1 7",
   "l705 0"]

def entries : List (Nat × List Nat × Bool) :=
  (words table).map fun s =>
    let excluded := s.endsWith "X"
    let body := String.ofList (s.toList.filter fun c => c ≠ 'X')
    match (body.splitOn ".").map base36 with
    | n :: parts => (n, parts, excluded)
    | [] => (0, [], true)

def classRuns : List (Nat × Nat) :=
  pairs (numbers classTable)

/-- The class of the run that holds a code point. -/
def classIn (n : Nat) : List (Nat × Nat) → Nat
  | [] => 0
  | (length, value) :: r => if n < length then value else classIn (n - length) r

def combiningClass (n : Nat) : Nat :=
  classIn n classRuns

/-- A decomposition, taken apart further as long as it can be. -/
def decompose : Nat → Nat → List Nat
  | 0, n => [n]
  | fuel + 1, n =>
    if 0xAC00 ≤ n ∧ n ≤ 0xD7A3 then
      let i := n - 0xAC00
      let last := i % 28
      [0x1100 + i / 588, 0x1161 + i % 588 / 28] ++ (if last = 0 then [] else [0x11A7 + last])
    else
      match entries.find? fun e => e.1 == n with
      | some (_, parts, _) => parts.flatMap (decompose fuel)
      | none => [n]

/-- Puts a mark behind the marks of its class or lower, counted from the end. -/
def placeMark (mark : Nat × Nat) : List (Nat × Nat) → List (Nat × Nat)
  | [] => [mark]
  | other :: r =>
    if mark.2 ≠ 0 ∧ mark.2 < other.2 then other :: placeMark mark r else mark :: other :: r

/-- The composite of two characters. -/
def composite? (a b : Nat) : Option Nat :=
  if 0x1100 ≤ a ∧ a < 0x1113 ∧ 0x1161 ≤ b ∧ b < 0x1176 then
    some (0xAC00 + ((a - 0x1100) * 21 + (b - 0x1161)) * 28)
  else if 0xAC00 ≤ a ∧ a ≤ 0xD7A3 ∧ (a - 0xAC00) % 28 = 0 ∧ 0x11A8 ≤ b ∧ b < 0x11C3 then
    some (a + (b - 0x11A7))
  else
    (entries.find? fun (_, parts, excluded) => !excluded && parts == [a, b]).map (·.1)

/-- Composes from the left: `starter` waits for marks, `held` are the marks it could not take,
    the last first. -/
def compose (starter : Option Nat) (held : List (Nat × Nat)) : List (Nat × Nat) → List Nat
  | [] => starter.toList ++ (held.reverse.map (·.1))
  | (n, cls) :: r =>
    match starter with
    | none => if cls = 0 then compose (some n) [] r else n :: compose none [] r
    | some s =>
      let free :=
        match held with
        | [] => true
        | (_, top) :: _ => top ≠ 0 && top < cls
      match if free then composite? s n else none with
      | some joined => compose (some joined) held r
      | none =>
        if cls = 0 then s :: (held.reverse.map (·.1)) ++ compose (some n) [] r
        else compose (some s) ((n, cls) :: held) r

def composed (s : List Char) : List Char :=
  let parts := s.flatMap fun c => decompose 8 c.toNat
  let ordered := parts.foldl (fun acc n => placeMark (n, combiningClass n) acc) []
  (compose none [] ordered.reverse).map Char.ofNat

end Harvest.Text.Normal
