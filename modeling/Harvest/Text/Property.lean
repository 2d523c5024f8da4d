import Harvest.Text.CharSet
/-!
Binary properties of Unicode. Each table lists the lengths of the runs of code points that lack
and that have the property, in turn, starting with one that lacks it.
-/

namespace Harvest.Text.Property

def alphabetic : List String :=
  ["1t q 6 q 1b 1 a 1 4 1 5 n 1 v 1 cq 4 c e 5 7 1 1 1 2e 1 t i 1 2 2 4 1 1 6 1 1 3 1 1 1 k 1",
   "2b 1 3v 8 4m 1 12 2 1 6 15 13 e 1 1 1 2 1 2 1 1 8 r 4 4 t b 5 1k 1 7 e 2u 1 8 4 8 4 3 a 3 2",
   "1 g 1c d 2t o x 9 2 4 1 5 o 2 j j p 7 b 5 o 1 7 7 1 8 16 a c 3 7 6 24 1 g 1 3 4 f d j 1 8 2",
   "2 2 m 1 7 1 1 3 4 3 8 2 2 2 2 1 1 8 1 4 2 1 5 c 2 a 1 4 3 1 6 4 2 2 m 1 7 1 2 1 2 1 2 4 5 4",
   "2 2 2 4 1 7 4 1 1 h 6 b 3 1 9 1 3 1 m 1 7 1 2 1 5 3 9 1 3 1 2 3 1 f 4 l 4 4 3 1 8 2 2 2 m 1",
   "7 1 2 1 5 3 8 2 2 2 2 9 2 4 2 1 5 d 1 g 2 1 6 3 3 1 4 3 2 1 1 1 2 3 2 3 3 3 c 4 5 3 3 1 3 3",
   "1 6 1 14 d 1 3 1 n 1 g 3 8 1 3 1 3 8 2 1 3 1 2 2 4 s 4 1 8 1 3 1 n 1 a 1 5 3 8 1 3 1 3 8 2",
   "5 3 1 4 d 3 c d 1 3 1 15 2 8 1 3 1 3 1 1 5 4 7 5 m 6 1 3 1 i 3 o 1 9 1 1 2 7 8 6 1 1 1 8 i",
   "2 d 1m 5 7 6 1 1f 2 1 1 1 5 1 o 1 1 1 j 1 3 2 5 1 1 6 1 e 4 w 1 1r 8 1 10 4 j 4 g 1 10 1v",
   "1j 1 1 2 5 g 1s a 4 2 12 1 1 5 1 2 17 1 99 1 4 2 7 1 1 1 4 2 15 1 4 2 x 1 4 2 7 1 1 1 4 2 f",
   "1 1l 1 4 2 1v 11 g g 2e 2 6 3 h8 2 h 1 q 5 23 3 b 7 k b l c k c d 1 3 1 2 c 1g 2 j e 1 4 1",
   "1v 2h 7 17 5 1y a v 1 c 4 9 n u 2 5 b 18 4 q 1i s 4 1r 2 k 1e 1 n 2 b 3 1d 1g 1 f 1 8 1f 16",
   "2 4 a 18 1 b e 1j m 3 a 10 2 b 5 17 2 3 15 4 1 6 1 2 3 1 5 5c j y b 7q 2 6 2 12 2 6 2 8 1 1",
   "1 1 1 1 1 v 2 1h 1 7 1 1 3 3 1 7 3 4 2 6 4 d 5 3 1 7 38 1 d 1 g d 2t 1 4 1 2 a 1 1 3 5 6 1",
   "1 1 1 1 1 4 1 b 2 4 5 5 4 1 h 15 ml 1g 1ee 6d 6 4 3 2 c 12 1 1 5 1 2 1k 7 1 g n 9 7 1 7 1 7",
   "1 7 1 7 1 7 1 7 1 7 1 w 1b 1 d1 3 p 9 7 5 2 5 4 2e 6 3 1 2i 1 4 5 17 1 2m h w 1c g e8 534",
   "1s h3h 1v 1a 2 7h 3 g a 2 k 1b 5 8 3 35 13 9 2 2v 2 2a k l 1 x o 1g c 1w 1 1 18 6 3 1 1 3 a",
   "x 5 z d t 3 1f 1 c f 1 g g a 5 1 1j 9 e i n 3 1x 1 1 1 1 o 3 2 g 2 4 b 6 2 6 2 6 9 7 1 7 1",
   "17 1 e 6 3f l 8mc c n 4 1d 6is a6 2 2y 12 7 c 5 5 c 1 d 1 5 1 1 1 2 1 2 1 30 x a3 i 1s 2 1i",
   "14 c 38 5 1 3r 10 q 6 q b 2h 3 6 2 6 2 6 2 3 z c 1 q 1 j 1 2 1 f 2 e y 3f 1x 1h 7f t 3 1d",
   "1b w d u 5 17 5 u 2 10 4 8 1 5 16 4e i 10 4 10 4 14 8 1g c b 1 f 1 7 1 2 1 b 1 f 1 7 1 2 3",
   "1g c 8n 9 m a 8 o 6 1 16 1 9 1x 6 2 1 1 18 1 2 3 1 2 n a n 9 v 1t j 1 2 a m a q 6 q 12 1k 6",
   "2 1s 4 1 2 5 8 1 3 1 t 16 t 3 t z 8 1 s r 1i a m a j d i 32 21 1j 1f d 1f d 14 y s 3 1 5 n",
   "6y 16 1 2 3 2 g 6 1e 3 3 t a 1 8 m 16 i 1a l r n 9 1y 17 5 a 1l 9 1 d p n 1f h 4 8 z 3 1 9",
   "1s 1 4 9 2 a 1 1 1 z i 1 y 2 1 6 4 1q 7 1 1 1 4 1 f 1 a 7 1l n 4 1 8 2 2 2 m 1 7 1 2 1 5 3",
   "8 2 2 2 2 3 1 6 1 5 7 s a 1 1 2 1 1 12 1 a 1 1 2 1 1 4 1 2 3 1 1 1 18 1u 1 3 1 4 k 3 u 1u 2",
   "2 1 1 54 1i 2 7 p 6 y 1r 1 1 3 1 1n 1i 2 1 1z r 2 e l 7 55 1l 2v 1s v 8 2 1 2 8 1 2 1 u 1 2",
   "2 2 2 4 2l 8 2 1a 2 6 1 1 1 2 r 1f 2 a h 20 5 1 i 21 2v 8 2g x v 9 1 19 1 7 1 1 1d u 2 m 1",
   "e 21 7 1 2 1 18 3 1 1 2 1 3 1 1 2 2 o 6 1 2 1 11 1 2 1 4 1 1 n 18 78 n 9 h 1 15 3 3 33 1 27",
   "pm 2u 33 h 5g 218 2p f ts h 6 p 32z 5 g7 5a1 1b 1ch ft 7 v h 27 h u i 1c g 4 v l 5 j c0 19",
   "5v 1s w p 2 p 18 23 4 1l 7 h 1s 2 1 1 c 7 9 5p2 15 w 2p 37 6pp 4 1 7 1 2 1 83 f 1 t 3 2 1 e",
   "4 8 b0 1s4 2z 5 d 3 9 7 a 4 1 4m9 2d 1 1z 1 2 2 1 2 2 2 4 1 c 1 1 1 7 1 1t 1 4 2 8 1 7 1 s",
   "1 4 1 5 1 1 3 7 1 9g 2 p 1 p 1 v 1 p 1 v 1 p 1 v 1 p 1 v 1 p 1 8 1f8 v 6 6 5x 7 1 h 2 7 1 2",
   "1 5 5 1q x 1 34 19 a 7 g 1 8x u i 18 dg s 6c u 2 1 5r v 1 m 8 2 68 7 1 4 1 2 1 f 1 5h 1n 1w",
   "3 1 3 1 xg 4 1 r 1 2 1 1 2 1 1 a 1 4 1 1 1 1 6 1 4 1 1 1 1 1 1 3 1 2 1 1 2 1 1 1 1 1 1 1 1",
   "1 1 2 1 1 2 4 1 7 1 4 1 4 1 1 1 a 1 h 5 3 1 5 1 h hg q 6 q 6 q 2uu wyo w 3dq 2 4ge 2 5rl f",
   "ha 1wi f2 15u 3t7 5 6ju"]

def lowercase : List String :=
  ["2p q 1b 1 a 1 4 1 10 o 1 8 1 1 1 1 1 1 1 1 1 1 1 1 1 1 1 1 1 1 1 1 1 1 1 1 1 1 1 1 1 1 1 1",
   "1 1 1 1 1 1 1 1 1 1 1 1 1 1 1 1 1 1 1 1 1 1 1 2 1 1 1 1 1 1 1 1 1 1 1 1 1 1 1 2 1 1 1 1 1 1",
   "1 1 1 1 1 1 1 1 1 1 1 1 1 1 1 1 1 1 1 1 1 1 1 1 1 1 1 1 1 1 1 1 1 1 1 1 1 1 1 1 2 1 1 1 1 3",
   "2 1 1 1 2 1 3 2 4 1 2 1 3 3 2 1 2 1 1 1 1 1 2 1 1 2 1 1 2 1 3 1 1 1 2 2 2 3 6 1 2 1 2 1 1 1",
   "1 1 1 1 1 1 1 1 1 1 1 1 1 2 1 1 1 1 1 1 1 1 1 1 1 1 1 1 1 1 1 2 2 1 1 1 3 1 1 1 1 1 1 1 1 1",
   "1 1 1 1 1 1 1 1 1 1 1 1 1 1 1 1 1 1 1 1 1 1 1 1 1 1 1 1 1 1 1 1 1 1 1 1 1 1 1 1 1 1 1 1 1 1",
   "1 1 1 7 2 1 2 2 1 1 4 1 1 1 1 1 1 1 1 1x 2 z 7 2 u 5 2o 1 17 1 1 1 3 1 2 4 i 1 r z 1 2 3 3",
   "1 1 1 1 1 1 1 1 1 1 1 1 1 1 1 1 1 1 1 1 1 1 1 5 1 1 2 1 2 2 1f 1c 1 1 1 1 1 1 1 1 1 1 1 1 1",
   "1 1 1 1 1 1 1 1 1 1 1 1 1 1 1 1 1 1 1 1 1 9 1 1 1 1 1 1 1 1 1 1 1 1 1 1 1 1 1 1 1 1 1 1 1 1",
   "1 1 1 1 1 1 1 1 1 1 1 1 1 1 1 1 1 1 1 1 1 1 1 1 1 1 1 1 1 2 1 1 1 1 1 1 1 1 1 1 1 1 2 1 1 1",
   "1 1 1 1 1 1 1 1 1 1 1 1 1 1 1 1 1 1 1 1 1 1 1 1 1 1 1 1 1 1 1 1 1 1 1 1 1 1 1 1 1 1 1 1 1 1",
   "1 1 1 1 1 1 1 1 1 1 1 1 1 1 1 1 1 1 1 1 1 1 1 1 1 1 1 1 1 1 1 1 1 1 1 1 1 1 1 1 1 1 1 1 1 1",
   "1 1c 15 287 17 1 4 l4 6 1oi 9 1 1 39 5c 1t 1 1 1 1 1 1 1 1 1 1 1 1 1 1 1 1 1 1 1 1 1 1 1 1",
   "1 1 1 1 1 1 1 1 1 1 1 1 1 1 1 1 1 1 1 1 1 1 1 1 1 1 1 1 1 1 1 1 1 1 1 1 1 1 1 1 1 1 1 1 1 1",
   "1 1 1 1 1 1 1 1 1 1 1 1 1 1 1 1 1 1 1 1 1 1 1 1 1 1 1 1 1 1 1 1 1 1 1 1 1 1 1 1 1 1 1 1 1 1",
   "1 1 1 1 1 1 1 1 1 1 1 1 1 1 1 1 1 1 1 1 1 1 1 1 1 1 1 1 1 1 1 1 9 1 1 1 1 1 1 1 1 1 1 1 1 1",
   "1 1 1 1 1 1 1 1 1 1 1 1 1 1 1 1 1 1 1 1 1 1 1 1 1 1 1 1 1 1 1 1 1 1 1 1 1 1 1 1 1 1 1 1 1 1",
   "1 1 1 1 1 1 1 1 1 1 1 1 1 1 1 1 1 1 1 1 1 1 1 1 1 1 1 1 1 1 1 1 1 1 1 1 1 1 9 8 6 a 8 8 8 8",
   "6 a 8 8 8 8 e 2 8 8 8 8 8 8 5 1 2 6 1 3 3 1 2 8 4 2 2 8 8 a 3 1 2 3d 1 d 1 g d 31 1 3 2 3 1",
   "r 1 4 1 4 1 2 2 8 4 4 1 x g 4 1 nf q 1fq 1c 1 1 3 2 1 1 1 1 1 1 4 1 1 2 1 8 3 1 1 1 1 1 1 1",
   "1 1 1 1 1 1 1 1 1 1 1 1 1 1 1 1 1 1 1 1 1 1 1 1 1 1 1 1 1 1 1 1 1 1 1 1 1 1 1 1 1 1 1 1 1 1",
   "1 1 1 1 1 1 1 1 1 1 1 1 1 1 1 1 1 1 1 1 1 1 1 1 1 1 1 1 1 1 1 1 1 1 1 1 1 1 1 1 1 1 1 1 1 2",
   "7 1 1 1 4 1 c 12 1 1 5 1 nwz 1 1 1 1 1 1 1 1 1 1 1 1 1 1 1 1 1 1 1 1 1 1 1 1 1 1 1 1 1 1 1",
   "1 1 1 1 1 1 1 1 1 1 1 1 1 1 j 1 1 1 1 1 1 1 1 1 1 1 1 1 1 1 1 1 1 1 1 1 1 1 1 1 1 3 3p 1 1",
   "1 1 1 1 1 1 1 1 1 1 3 1 1 1 1 1 1 1 1 1 1 1 1 1 1 1 1 1 1 1 1 1 1 1 1 1 1 1 1 1 1 1 1 1 1 1",
   "1 1 1 1 1 1 1 1 1 1 1 1 1 1 1 1 1 1 1 1 1 1 1 1 1 1 a 1 1 1 1 2 1 1 1 1 1 1 1 1 1 4 1 1 1 2",
   "1 1 3 1 1 1 1 1 1 1 1 1 1 1 1 1 1 1 1 1 1 1 1 5 1 5 1 1 1 1 1 1 1 1 1 1 1 1 1 1 1 4 1 1 1 2",
   "1 1 1 1 1 1 1 1 1 1 1 1 1 1 1 l 4 1 1 1 3 mt 17 1 e 6 28 fnk 7 c 5 tl q y5 14 3s 10 4b b 1",
   "f 1 7 1 2 cj 1 2 3 1 16 1 9 zp 1f 3h m 27u w gw0 w 1n p k06 q q 7 1 i q q q 4 1 1 1 7 1 b q",
   "q q q q q q q q q q q q q q q q s s p 1 6 q p 1 6 q p 1 6 q p 1 6 q p 1 6 1 1 1f8 a 1 k 6 6",
   "79 1q 1pw y"]

def uppercase : List String :=
  ["1t q 2t n 1 7 x 1 1 1 1 1 1 1 1 1 1 1 1 1 1 1 1 1 1 1 1 1 1 1 1 1 1 1 1 1 1 1 1 1 1 1 1 1 1",
   "1 1 1 1 1 1 1 1 1 1 1 1 1 1 1 1 1 2 1 1 1 1 1 1 1 1 1 1 1 1 1 1 1 2 1 1 1 1 1 1 1 1 1 1 1 1",
   "1 1 1 1 1 1 1 1 1 1 1 1 1 1 1 1 1 1 1 1 1 1 1 1 1 1 1 1 1 1 1 1 1 1 2 1 1 1 1 3 2 1 1 1 2 1",
   "3 2 4 1 2 1 3 3 2 1 2 1 1 1 1 1 2 1 1 2 1 1 2 1 3 1 1 1 2 3 1 7 1 2 1 2 1 2 1 1 1 1 1 1 1 1",
   "1 1 1 1 1 1 1 2 1 1 1 1 1 1 1 1 1 1 1 1 1 1 1 1 1 2 1 2 1 1 3 1 1 1 1 1 1 1 1 1 1 1 1 1 1 1",
   "1 1 1 1 1 1 1 1 1 1 1 1 1 1 1 1 1 1 1 1 1 1 1 1 1 1 1 1 1 1 1 1 1 1 1 1 1 1 1 1 1 1 1 7 2 1",
   "2 2 1 1 4 1 1 1 1 1 1 1 1 81 1 1 1 3 1 8 1 6 1 1 3 1 1 1 2 1 h 1 9 z 1 2 3 3 1 1 1 1 1 1 1",
   "1 1 1 1 1 1 1 1 1 1 1 1 1 1 1 1 5 1 2 1 1 2 2 1f 1c 1 1 1 1 1 1 1 1 1 1 1 1 1 1 1 1 1 1 1 1",
   "1 1 1 1 1 1 1 1 1 1 1 1 1 9 1 1 1 1 1 1 1 1 1 1 1 1 1 1 1 1 1 1 1 1 1 1 1 1 1 1 1 1 1 1 1 1",
   "1 1 1 1 1 1 1 1 1 1 1 1 1 1 1 1 1 1 1 1 1 1 2 1 1 1 1 1 1 1 1 1 1 1 1 2 1 1 1 1 1 1 1 1 1 1",
   "1 1 1 1 1 1 1 1 1 1 1 1 1 1 1 1 1 1 1 1 1 1 1 1 1 1 1 1 1 1 1 1 1 1 1 1 1 1 1 1 1 1 1 1 1 1",
   "1 1 1 1 1 1 1 1 1 1 1 1 1 1 1 1 1 1 1 1 1 1 1 1 1 1 1 1 1 1 1 1 1 1 1 1 1 1 1 2 12 289 12 1",
   "1 5 1 k2 2e 1oz 1 6 17 2 3 8w 1 1 1 1 1 1 1 1 1 1 1 1 1 1 1 1 1 1 1 1 1 1 1 1 1 1 1 1 1 1 1",
   "1 1 1 1 1 1 1 1 1 1 1 1 1 1 1 1 1 1 1 1 1 1 1 1 1 1 1 1 1 1 1 1 1 1 1 1 1 1 1 1 1 1 1 1 1 1",
   "1 1 1 1 1 1 1 1 1 1 1 1 1 1 1 1 1 1 1 1 1 1 1 1 1 1 1 1 1 1 1 1 1 1 1 1 1 1 1 1 1 1 1 1 1 1",
   "1 1 1 1 1 1 1 1 1 1 1 1 1 1 1 1 1 1 1 1 1 1 1 1 1 1 9 1 1 1 1 1 1 1 1 1 1 1 1 1 1 1 1 1 1 1",
   "1 1 1 1 1 1 1 1 1 1 1 1 1 1 1 1 1 1 1 1 1 1 1 1 1 1 1 1 1 1 1 1 1 1 1 1 1 1 1 1 1 1 1 1 1 1",
   "1 1 1 1 1 1 1 1 1 1 1 1 1 1 1 1 1 1 1 1 1 1 1 1 1 1 1 1 1 1 1 1 9 8 8 6 a 8 8 8 8 6 b 1 1 1",
   "1 1 1 1 8 8 20 4 c 4 c 4 c 5 b 4 7a 1 4 1 3 3 2 3 2 1 3 5 6 1 1 1 1 1 1 4 2 4 a 2 5 1 q g j",
   "1 mq q 1f4 1c 1c 1 1 3 2 1 1 1 1 1 1 4 1 1 2 1 8 3 1 1 1 1 1 1 1 1 1 1 1 1 1 1 1 1 1 1 1 1",
   "1 1 1 1 1 1 1 1 1 1 1 1 1 1 1 1 1 1 1 1 1 1 1 1 1 1 1 1 1 1 1 1 1 1 1 1 1 1 1 1 1 1 1 1 1 1",
   "1 1 1 1 1 1 1 1 1 1 1 1 1 1 1 1 1 1 1 1 1 1 1 1 1 1 1 1 1 1 1 1 8 1 1 1 4 1 nyl 1 1 1 1 1 1",
   "1 1 1 1 1 1 1 1 1 1 1 1 1 1 1 1 1 1 1 1 1 1 1 1 1 1 1 1 1 1 1 1 1 1 1 1 1 1 1 j 1 1 1 1 1 1",
   "1 1 1 1 1 1 1 1 1 1 1 1 1 1 1 1 1 1 1 1 1 3r 1 1 1 1 1 1 1 1 1 1 1 1 1 3 1 1 1 1 1 1 1 1 1",
   "1 1 1 1 1 1 1 1 1 1 1 1 1 1 1 1 1 1 1 1 1 1 1 1 1 1 1 1 1 1 1 1 1 1 1 1 1 1 1 1 1 1 1 1 1 1",
   "1 1 1 1 1 1 a 1 1 1 1 2 1 1 1 1 1 1 1 1 4 1 1 1 2 1 1 1 3 1 1 1 1 1 1 1 1 1 1 1 1 1 1 1 1 1",
   "1 1 1 5 1 5 1 1 1 1 1 1 1 1 1 1 1 1 1 1 1 4 1 1 1 2 1 1 1 1 1 1 1 1 1 1 1 1 1 1 1 1 o 1 h7v",
   "q xx 14 3s 10 4c b 1 f 1 7 1 2 1d6 1f 4d m 27u w gw0 w 1s p k07 q q q q q q 1 1 2 2 1 2 2 2",
   "4 1 8 q q q 2 1 4 2 8 1 7 r 2 1 4 1 5 1 1 3 7 r q q q q q q q q q q q u p x p x p x p x p x",
   "1 3ed y 1la q 6 q 6 q"]

def whiteSpace : List String :=
  ["9 5 i 1 2s 1 q 1 4bj 1 1vj b t 2 5 1 1b 1 334 1"]

def cased : List String :=
  ["1t q 6 q 1b 1 a 1 4 1 5 n 1 v 1 5f 1 4 4 5s 2 z 7 2 u 5 2o 1 16 4 2 2 2 4 1 1 6 1 1 3 1 1 1",
   "k 1 2b 1 3v 8 4m 1 12 9 15 26v 12 1 1 5 1 2 17 1 4 io 2e 2 6 1oi b 5 17 2 3 1s 5c 1s 7q 2 6",
   "2 12 2 6 2 8 1 1 1 1 1 1 1 v 2 1h 1 7 1 1 3 3 1 7 3 4 2 6 4 d 5 3 1 7 38 1 d 1 g d 2t 1 4 1",
   "2 a 1 1 3 5 6 1 1 1 1 1 1 4 1 6 4 1 2 4 5 5 4 1 h w 3 2 mp 1g 1ee 6d 6 4 3 2 c 12 1 1 5 1",
   "nwy 1a i u 3o 2u 3 4 1 25 k 6 1 3 mt 17 1 e 6 28 fnk 7 c 5 sp q 6 q x1 28 2o 10 4 10 38 b 1",
   "f 1 7 1 2 1 b 1 f 1 7 1 2 cj 1 2 3 1 16 1 9 xx 1f d 1f 2l m a m 26y 1s gv4 1s w p 2 p jzg",
   "2d 1 1z 1 2 2 1 2 2 2 4 1 c 1 1 1 7 1 1t 1 4 2 8 1 7 1 s 1 4 1 5 1 1 3 7 1 9g 2 p 1 p 1 v 1",
   "p 1 v 1 p 1 v 1 p 1 v 1 p 1 8 1f8 a 1 k 6 6 79 1q 1oy 1w 1kc q 6 q 6 q"]

def math : List String :=
  ["17 1 g 3 v 1 t 1 1 1 19 1 4 1 11 1 v 1 k8 3 2 1 q 2 2 3 en 3 559 1 r 3 b 1 3 1 d 1 e 4 l 5",
   "b 5 1t d 4 1 3 2 4 5 i 1 4 1 2 a 1 1 2 6 6 1 3 2 2 2 1 3 1 6 3 e 1 1 1w o 1 6 1 2 4 2 4 w 1",
   "1 6 2 e 7g 8 4 k 2 2i 1 u r 1 1 o 1 b 7 cd 2 c a 4 6 4 2 2 2 3 5 e 1 1 1 2 6 b 8 5 2 1l 1 1",
   "1 t 4 9 3 9c 1s 74 e8 1c l 2 6 1524 1 mv 6 1 1 4i 1 g 3 t 1 1 1 t 1 1 1 3n 1 6 4 2ox 2 1274",
   "1 zz 2d 1 1z 1 2 2 1 2 2 2 4 1 c 1 1 1 7 1 1t 1 4 2 8 1 7 1 s 1 4 1 5 1 1 3 7 1 9g 2 84 2",
   "1e 4cg 4 1 r 1 2 1 1 2 1 1 a 1 4 1 1 1 1 6 1 4 1 1 1 1 1 1 3 1 2 1 1 2 1 1 1 1 1 1 1 1 1 1",
   "2 1 1 2 4 1 7 1 4 1 4 1 1 1 a 1 h 5 3 1 5 1 h 1g 2 1y6 9"]

def dash : List String :=
  ["19 1 124 1 1f 1 2td 1 sl 1 1l5 6 1p 1 13 1 f 1 au 1 2dg 1 2 1 v 2 4 1 s 1 ce 1 j 1 33 1",
   "14ls 2 11 1 a 1 4p 1 2u8 1 8u 1"]

def hexDigit : List String :=
  ["1c a 7 6 q 6 1eax a 7 6 q 6"]

def ideographic : List String :=
  ["9hi 2 p 9 e 3 qt 534 1s g74 hkw a6 2 2y n4a 1 d 5 9 5p2 15 w 2p 37 70d b0 f7o wyo w 3dq 2",
   "4ge 2 5rl f ha 1wi f2 15u 3t7 5 6ju"]

def idStart : List String :=
  ["1t q 6 q 1b 1 a 1 4 1 5 n 1 v 1 cq 4 c e 5 7 1 1 1 3l 5 1 2 2 4 1 1 6 1 1 3 1 1 1 k 1 2b 1",
   "3v 8 4m 1 12 2 1 6 15 1z r 4 4 19 17 z 2 1 2r 1 1 f 2 7 2 a 3 2 1 g 1 1 u t 2h b 1 o x 9 2",
   "4 1 5 m 4 1 9 1 3 1 n p 7 b 5 o 1 7 g 16 1m 1i 3 1 i 1 7 a f g 4 8 2 2 2 m 1 7 1 1 3 4 3 1",
   "g 1 d 2 1 3 e 2 a 1 8 6 4 2 2 m 1 7 1 2 1 2 1 2 v 4 1 1 j 3 g 9 1 3 1 m 1 7 1 2 1 5 3 1 i 1",
   "f 2 n 1 b 8 2 2 2 m 1 7 1 2 1 5 3 1 u 2 1 3 f 1 h 1 1 6 3 3 1 4 3 2 1 1 1 2 3 2 3 3 3 c m 1",
   "1g 8 1 3 1 n 1 g 3 1 q 3 1 2 2 2 u 1 4 8 1 3 1 n 1 a 1 5 3 1 u 3 1 2 f 2 h 9 1 3 1 15 2 1 g",
   "1 5 3 8 3 o 6 5 i 3 o 1 9 1 1 2 7 1m 1c 1 2 c 7 1m 2 1 1 1 5 1 o 1 1 1 a 1 2 9 1 2 5 1 1 l",
   "4 w 1 1r 8 1 10 r 5 37 17 k 1 g 6 4 4 3 1 3 2 7 3 4 d c 1 h 12 1 1 5 1 2 17 1 99 1 4 2 7 1",
   "1 1 4 2 15 1 4 2 x 1 4 2 7 1 1 1 4 2 f 1 1l 1 4 2 1v 11 g g 2e 2 6 3 h8 2 h 1 q 5 23 3 b 7",
   "i d j e i e d 1 3 f 1g z 1 4 1 1v 2h 7 15 1 1 5 1y a v 1d u 2 5 b 18 4 q 1i n 9 1h 2a 1 2l",
   "1b h 8 1i u d 2 a 18 q 10 15 3 a 10 2 b 5 17 2 3 15 4 1 6 1 2 3 1 5 5c 1s 7q 2 6 2 12 2 6 2",
   "8 1 1 1 1 1 1 1 v 2 1h 1 7 1 1 3 3 1 7 3 4 2 6 4 d 5 3 1 7 38 1 d 1 g d 2t 1 4 1 2 a 1 1 2",
   "6 6 1 1 1 1 1 1 g 2 4 5 5 4 1 h 15 22f 6d 6 4 3 2 c 12 1 1 5 1 2 1k 7 1 g n 9 7 1 7 1 7 1 7",
   "1 7 1 7 1 7 1 7 fa 3 p 9 7 5 2 5 4 2e 4 5 1 2i 1 4 5 17 1 2m h w 1c g e8 534 1s h3h 1v 1a 2",
   "7h 3 g a 2 k 1b g v 2 28 13 9 2 2v 2 2a k h 1 3 1 4 1 n t 1g e 1e 1q 6 3 1 1 2 b s a n p t",
   "7 1b s 1 g 5 1 a a 5 1 15 n 3 1 8 k n 3 1 3 1e 1 1 3 2 2 5 2 1 1 1 o 3 2 b 7 3 c 6 2 6 2 6",
   "9 7 1 7 1 17 1 e 6 37 t 8mc c n 4 1d 6is a6 2 2y 12 7 c 5 5 1 1 a 1 d 1 5 1 1 1 2 1 2 1 30",
   "x a3 i 1s 2 1i 14 c 38 5 1 3r 10 q 6 q b 2h 3 6 2 6 2 6 2 3 z c 1 q 1 j 1 2 1 f 2 e y 3f 1x",
   "1h 7f t 3 1d 1b w d u 5 12 a u 2 10 4 8 1 5 16 4e i 10 4 10 4 14 8 1g c b 1 f 1 7 1 2 1 b 1",
   "f 1 7 1 2 3 1g c 8n 9 m a 8 o 6 1 16 1 9 1x 6 2 1 1 18 1 2 3 1 2 n a n 9 v 1t j 1 2 a m a q",
   "6 q 12 1k 6 2 1s 1 f 4 1 3 1 t 16 t 3 t z 8 1 s r 1i a m a j d i 32 21 1j 1f d 1f d 10 12 s",
   "9 n 6y 16 6 2 g 6 1k t a 1 8 m 16 i 1a l r n c 1h 1l 2 2 1 d 19 w p q 10 t 1 2 1 8 z 3 1 c",
   "1c e 4 l 1 1 1 z i 1 p j 2 1r 7 1 1 1 4 1 f 1 a 7 1b 12 8 2 2 2 m 1 7 1 2 1 5 3 1 i 1 c 5 u",
   "a 1 1 2 1 1 12 1 1 p 1 1 1 18 1h i 4 k 3 u 1c k 2 1 1 54 1b 15 4 10 1c k 1 1n 17 d 1 1z r",
   "11 7 55 18 38 1s v 8 2 1 2 8 1 2 1 o f 1 1 1 2m 8 2 13 g 1 1 1 s 1 a 14 7 1 l 1 b 1a j 1 i",
   "21 5j x v 9 1 11 h 1 1d u 34 7 1 2 1 12 l 1 p 6 1 2 1 w e 1 n 18 78 j f 1 1 d 1 y 3g 1 27",
   "pm 2u 33 h 5g 218 2p f ts h 6 p 32z 5 g7 5a1 u 1cy ft 7 v h 27 h u i 1c g 4 v l 5 j c0 19",
   "5v 1s w p 2 p 18 23 5 1 1u d 1s 2 1 1 e 5 9 5p2 15 w 2p 37 6pp 4 1 7 1 2 1 83 f 1 t 3 2 1 e",
   "4 8 b0 1s4 2z 5 d 3 9 7 a 4me 2d 1 1z 1 2 2 1 2 2 2 4 1 c 1 1 1 7 1 1t 1 4 2 8 1 7 1 s 1 4",
   "1 5 1 1 3 7 1 9g 2 p 1 p 1 v 1 p 1 v 1 p 1 v 1 p 1 v 1 p 1 8 1f8 v 6 6 79 1q 42 19 a 7 g 1",
   "8x u i 18 dg s 6c u 2 1 5r v 1 3 1 2 1 7 2 5 9 2 68 7 1 4 1 2 1 f 1 5h 1n 1w 7 1 xg 4 1 r 1",
   "2 1 1 2 1 1 a 1 4 1 1 1 1 6 1 4 1 1 1 1 1 1 3 1 2 1 1 2 1 1 1 1 1 1 1 1 1 1 2 1 1 2 4 1 7 1",
   "4 1 4 1 1 1 a 1 h 5 3 1 5 1 h 3es wyo w 3dq 2 4ge 2 5rl f ha 1wi f2 15u 3t7 5 6ju"]

def idContinue : List String :=
  ["1c a 7 q 4 1 1 q 1b 1 a 1 1 1 2 1 5 n 1 v 1 cq 4 c e 5 7 1 1 1 h 39 1 2 2 4 1 1 6 5 1 1 1 k",
   "1 2b 1 3v 1 5 2 4m 1 12 2 1 6 15 8 19 1 1 1 2 1 2 1 1 8 r 4 4 t b 5 22 4 2u 1 8 2 a 1 j 2 1",
   "g 1n 2 2t e 1i 4 1 2 1 2 1a i s 4 b 5 o 1 7 7 23 1 3l 2 a 1 j 1 8 2 2 2 m 1 7 1 1 3 4 2 9 2",
   "2 2 4 8 1 4 2 1 5 2 c a 1 1 1 2 3 1 6 4 2 2 m 1 7 1 2 1 2 1 2 2 1 1 5 4 2 2 3 3 1 7 4 1 1 7",
   "g b 3 1 9 1 3 1 m 1 7 1 2 1 5 2 a 1 3 1 3 2 1 f 4 2 a 9 7 1 3 1 8 2 2 2 m 1 7 1 2 1 5 2 9 2",
   "2 2 3 7 3 4 2 1 5 2 a 1 1 g 2 1 6 3 3 1 4 3 2 1 1 1 2 3 2 3 3 3 c 4 5 3 3 1 4 2 1 6 1 e a g",
   "d 1 3 1 n 1 g 2 9 1 3 1 4 7 2 1 3 1 2 2 4 2 a g 4 1 8 1 3 1 n 1 a 1 5 2 9 1 3 1 4 7 2 5 3 1",
   "4 2 a 1 3 c d 1 3 1 1f 1 3 1 5 5 4 7 5 2 a a 6 1 3 1 i 3 o 1 9 1 1 2 7 3 1 4 6 1 1 1 8 6 a",
   "2 2 d 1m 5 f 1 a 13 2 1 1 1 5 1 o 1 1 1 n 2 5 1 1 1 7 1 a 2 4 w 1 n 2 6 a b 1 1 1 1 1 4 a 1",
   "10 4 k 1 i 1 10 9 1 1l 22 6 26 2 12 1 1 5 1 2 17 1 99 1 4 2 7 1 1 1 4 2 15 1 4 2 x 1 4 2 7",
   "1 1 1 4 2 f 1 1l 1 4 2 1v 2 3 9 9 e g g 2e 2 6 3 h8 2 h 1 q 5 23 3 b 7 m 9 m b k c d 1 3 1",
   "2 c 2c 3 1 4 2 2 a x 3 1 b 6 2h 7 17 5 1y a v 1 c 4 c a 14 2 5 b 18 4 q 6 b 11 s 4 1r 1 t 2",
   "b 6 a d 1 8 e 1 v 2 c k 25 3 a h 9 c 38 c 1k 8 a 3 1d 2 b 5 17 2 3 g 3 1 13 5 eu 2 6 2 12 2",
   "6 2 8 1 1 1 1 1 1 1 v 2 1h 1 7 1 1 3 3 1 7 3 4 2 6 4 d 5 3 1 7 f 2 1d 2 j 1 s 1 d 1 g d 1f",
   "d 4 1 3 c h 1 4 1 2 a 1 1 2 6 6 1 1 1 1 1 1 g 2 4 5 5 4 1 h 15 22f 6d 6 9 c 12 1 1 5 1 2 1k",
   "7 1 f o 9 7 1 7 1 7 1 7 1 7 1 7 1 7 1 7 1 w ed 3 p f 1 5 2 5 4 2e 2 7 1 2n 5 17 1 2m h w 1c",
   "g e8 534 1s h3h 1v 1a 2 7h 3 s k 1c 4 a 1 37 11 9 2 2v 2 2a k 1j 4 1 j 1g c 1y a a 6 o 3 1",
   "1 1d 2 10 c t 3 1t e b 6 v 1 1j 9 e 2 a 6 n 3 21 o 3 2 g 2 5 a 6 2 6 2 6 9 7 1 7 1 17 1 e 6",
   "3f 1 2 2 a 6 8mc c n 4 1d 6is a6 2 2y 12 7 c 5 5 c 1 d 1 5 1 1 1 2 1 2 1 30 x a3 i 1s 2 1i",
   "14 c 4 g g g 3 2 o 3 w 5 1 3r j a 7 q 4 1 1 q a 2i 3 6 2 6 2 6 2 3 z c 1 q 1 j 1 2 1 f 2 e",
   "y 3f 1x 1h 3s 1 3m t 3 1d f 1 v w d u 5 17 5 u 2 10 4 8 1 5 16 4e 2 a 6 10 4 10 4 14 8 1g c",
   "b 1 f 1 7 1 2 1 b 1 f 1 7 1 2 3 1g c 8n 9 m a 8 o 6 1 16 1 9 1x 6 2 1 1 18 1 2 3 1 2 n a n",
   "9 v 1t j 1 2 a m a q 6 q 12 1k 6 2 1s 4 1 2 5 8 1 3 1 t 2 3 4 1 w t 3 t z 8 1 u p 1i a m a",
   "j d i 32 21 1j 1f d 1f d 14 8 a 6 12 3 5 1 n 6y 16 1 2 3 2 g 6 1e z a 1 8 x v m 16 l r n 9",
   "1z v g 9 1o 7 1 d p 7 a 6 1h 1 a 4 4 8 10 2 1 9 1x 4 4 1 d 1 1 z i 1 11 6 4 1q 7 1 1 1 4 1",
   "f 1 a 7 1n 5 a 6 4 1 8 2 2 2 m 1 7 1 2 1 5 1 a 2 2 2 3 2 1 6 1 5 7 2 7 3 5 b a 1 1 2 1 1 12",
   "1 a 1 1 2 1 1 4 1 8 d 2 t 23 5 a 4 4 u 1y 1 1 8 a 4m 1i 2 9 n 6 y 1t 3 1 b a 12 1l 7 a 6 k",
   "s r 2 f 4 a 6 7 55 1n 2t 22 l 8 2 1 2 8 1 2 1 u 1 2 2 9 c a 1y 8 2 1a 2 8 1 2 r 1r 8 1 8 22",
   "3 1 i 21 2v 8 2g x f a 6 9 1 19 1 9 f a o u 2 m 1 e 21 7 1 2 1 18 3 1 1 2 1 9 8 a 6 6 1 2 1",
   "11 1 2 1 6 7 a 6 18 4 a 6u n 9 h 1 15 3 5 d b 2d 1 27 pm 2u 33 h 5g 218 2p f ts g m a 32z 5",
   "g7 5a1 1m 1c6 ft 7 v 1 a 6 27 1 a 6 u 2 5 b 1j 9 4 c a 9 l 5 j c0 19 3 a 5i 1s w p 2 p 18",
   "23 4 1l 7 h 1s 2 1 2 b 7 9 5p2 15 w 2p 37 6pp 4 1 7 1 2 1 83 f 1 t 3 2 1 e 4 8 b0 1s4 2z 5",
   "d 3 9 7 a 3 2 381 a ee 1a 2 n f2 5 3 6 8 8 2 7 u 4 44 3 cb 2d 1 1z 1 2 2 1 2 2 2 4 1 c 1 1",
   "1 7 1 1t 1 4 2 8 1 7 1 s 1 4 1 5 1 1 3 7 1 9g 2 p 1 p 1 v 1 p 1 v 1 p 1 v 1 p 1 v 1 p 1 8 2",
   "1e e8 1j 4 1e 8 1 e 1 m 5 1 f uo v 6 6 5x 7 1 h 2 7 1 2 1 5 5 1q x 1 34 19 3 e 2 a 4 1 8x v",
   "h 1m d2 16 5y 17 5h v 1 m 8 2 68 7 1 4 1 2 1 f 1 5h b 7 15 24 4 a x2 4 1 r 1 2 1 1 2 1 1 a",
   "1 4 1 1 1 1 6 1 4 1 1 1 1 1 1 3 1 2 1 1 2 1 1 1 1 1 1 1 1 1 1 2 1 1 2 4 1 7 1 4 1 4 1 1 1 a",
   "1 h 5 3 1 5 1 h 2lw a sm wyo w 3dq 2 4ge 2 5rl f ha 1wi f2 15u 3t7 5 6ju f62u 6o"]

def xidStart : List String :=
  ["1t q 6 q 1b 1 a 1 4 1 5 n 1 v 1 cq 4 c e 5 7 1 1 1 3l 5 1 2 3 3 1 1 6 1 1 3 1 1 1 k 1 2b 1",
   "3v 8 4m 1 12 2 1 6 15 1z r 4 4 19 17 z 2 1 2r 1 1 f 2 7 2 a 3 2 1 g 1 1 u t 2h b 1 o x 9 2",
   "4 1 5 m 4 1 9 1 3 1 n p 7 b 5 o 1 7 g 16 1m 1i 3 1 i 1 7 a f g 4 8 2 2 2 m 1 7 1 1 3 4 3 1",
   "g 1 d 2 1 3 e 2 a 1 8 6 4 2 2 m 1 7 1 2 1 2 1 2 v 4 1 1 j 3 g 9 1 3 1 m 1 7 1 2 1 5 3 1 i 1",
   "f 2 n 1 b 8 2 2 2 m 1 7 1 2 1 5 3 1 u 2 1 3 f 1 h 1 1 6 3 3 1 4 3 2 1 1 1 2 3 2 3 3 3 c m 1",
   "1g 8 1 3 1 n 1 g 3 1 q 3 1 2 2 2 u 1 4 8 1 3 1 n 1 a 1 5 3 1 u 3 1 2 f 2 h 9 1 3 1 15 2 1 g",
   "1 5 3 8 3 o 6 5 i 3 o 1 9 1 1 2 7 1m 1c 1 1 d 7 1m 2 1 1 1 5 1 o 1 1 1 a 1 1 a 1 2 5 1 1 l",
   "4 w 1 1r 8 1 10 r 5 37 17 k 1 g 6 4 4 3 1 3 2 7 3 4 d c 1 h 12 1 1 5 1 2 17 1 99 1 4 2 7 1",
   "1 1 4 2 15 1 4 2 x 1 4 2 7 1 1 1 4 2 f 1 1l 1 4 2 1v 11 g g 2e 2 6 3 h8 2 h 1 q 5 23 3 b 7",
   "i d j e i e d 1 3 f 1g z 1 4 1 1v 2h 7 15 1 1 5 1y a v 1d u 2 5 b 18 4 q 1i n 9 1h 2a 1 2l",
   "1b h 8 1i u d 2 a 18 q 10 15 3 a 10 2 b 5 17 2 3 15 4 1 6 1 2 3 1 5 5c 1s 7q 2 6 2 12 2 6 2",
   "8 1 1 1 1 1 1 1 v 2 1h 1 7 1 1 3 3 1 7 3 4 2 6 4 d 5 3 1 7 38 1 d 1 g d 2t 1 4 1 2 a 1 1 2",
   "6 6 1 1 1 1 1 1 g 2 4 5 5 4 1 h 15 22f 6d 6 4 3 2 c 12 1 1 5 1 2 1k 7 1 g n 9 7 1 7 1 7 1 7",
   "1 7 1 7 1 7 1 7 fa 3 p 9 7 5 2 5 4 2e 6 3 1 2i 1 4 5 17 1 2m h w 1c g e8 534 1s h3h 1v 1a 2",
   "7h 3 g a 2 k 1b g v 2 28 13 9 2 2v 2 2a k h 1 3 1 4 1 n t 1g e 1e 1q 6 3 1 1 2 b s a n p t",
   "7 1b s 1 g 5 1 a a 5 1 15 n 3 1 8 k n 3 1 3 1e 1 1 3 2 2 5 2 1 1 1 o 3 2 b 7 3 c 6 2 6 2 6",
   "9 7 1 7 1 17 1 e 6 37 t 8mc c n 4 1d 6is a6 2 2y 12 7 c 5 5 1 1 a 1 d 1 5 1 1 1 2 1 2 1 30",
   "x 3v 6 62 i 1s 2 1i 14 a 3b 1 1 1 3 1 1 1 1 1 1 1 1 3i 10 q 6 q b 1k 2 v 3 6 2 6 2 6 2 3 z",
   "c 1 q 1 j 1 2 1 f 2 e y 3f 1x 1h 7f t 3 1d 1b w d u 5 12 a u 2 10 4 8 1 5 16 4e i 10 4 10 4",
   "14 8 1g c b 1 f 1 7 1 2 1 b 1 f 1 7 1 2 3 1g c 8n 9 m a 8 o 6 1 16 1 9 1x 6 2 1 1 18 1 2 3",
   "1 2 n a n 9 v 1t j 1 2 a m a q 6 q 12 1k 6 2 1s 1 f 4 1 3 1 t 16 t 3 t z 8 1 s r 1i a m a j",
   "d i 32 21 1j 1f d 1f d 10 12 s 9 n 6y 16 6 2 g 6 1k t a 1 8 m 16 i 1a l r n c 1h 1l 2 2 1 d",
   "19 w p q 10 t 1 2 1 8 z 3 1 c 1c e 4 l 1 1 1 z i 1 p j 2 1r 7 1 1 1 4 1 f 1 a 7 1b 12 8 2 2",
   "2 m 1 7 1 2 1 5 3 1 i 1 c 5 u a 1 1 2 1 1 12 1 1 p 1 1 1 18 1h i 4 k 3 u 1c k 2 1 1 54 1b",
   "15 4 10 1c k 1 1n 17 d 1 1z r 11 7 55 18 38 1s v 8 2 1 2 8 1 2 1 o f 1 1 1 2m 8 2 13 g 1 1",
   "1 s 1 a 14 7 1 l 1 b 1a j 1 i 21 5j x v 9 1 11 h 1 1d u 34 7 1 2 1 12 l 1 p 6 1 2 1 w e 1 n",
   "18 78 j f 1 1 d 1 y 3g 1 27 pm 2u 33 h 5g 218 2p f ts h 6 p 32z 5 g7 5a1 u 1cy ft 7 v h 27",
   "h u i 1c g 4 v l 5 j c0 19 5v 1s w p 2 p 18 23 5 1 1u d 1s 2 1 1 e 5 9 5p2 15 w 2p 37 6pp 4",
   "1 7 1 2 1 83 f 1 t 3 2 1 e 4 8 b0 1s4 2z 5 d 3 9 7 a 4me 2d 1 1z 1 2 2 1 2 2 2 4 1 c 1 1 1",
   "7 1 1t 1 4 2 8 1 7 1 s 1 4 1 5 1 1 3 7 1 9g 2 p 1 p 1 v 1 p 1 v 1 p 1 v 1 p 1 v 1 p 1 8 1f8",
   "v 6 6 79 1q 42 19 a 7 g 1 8x u i 18 dg s 6c u 2 1 5r v 1 3 1 2 1 7 2 5 9 2 68 7 1 4 1 2 1 f",
   "1 5h 1n 1w 7 1 xg 4 1 r 1 2 1 1 2 1 1 a 1 4 1 1 1 1 6 1 4 1 1 1 1 1 1 3 1 2 1 1 2 1 1 1 1 1",
   "1 1 1 1 1 2 1 1 2 4 1 7 1 4 1 4 1 1 1 a 1 h 5 3 1 5 1 h 3es wyo w 3dq 2 4ge 2 5rl f ha 1wi",
   "f2 15u 3t7 5 6ju"]

def xidContinue : List String :=
  ["1c a 7 q 4 1 1 q 1b 1 a 1 1 1 2 1 5 n 1 v 1 cq 4 c e 5 7 1 1 1 h 39 1 2 3 3 1 1 6 5 1 1 1 k",
   "1 2b 1 3v 1 5 2 4m 1 12 2 1 6 15 8 19 1 1 1 2 1 2 1 1 8 r 4 4 t b 5 22 4 2u 1 8 2 a 1 j 2 1",
   "g 1n 2 2t e 1i 4 1 2 1 2 1a i s 4 b 5 o 1 7 7 23 1 3l 2 a 1 j 1 8 2 2 2 m 1 7 1 1 3 4 2 9 2",
   "2 2 4 8 1 4 2 1 5 2 c a 1 1 1 2 3 1 6 4 2 2 m 1 7 1 2 1 2 1 2 2 1 1 5 4 2 2 3 3 1 7 4 1 1 7",
   "g b 3 1 9 1 3 1 m 1 7 1 2 1 5 2 a 1 3 1 3 2 1 f 4 2 a 9 7 1 3 1 8 2 2 2 m 1 7 1 2 1 5 2 9 2",
   "2 2 3 7 3 4 2 1 5 2 a 1 1 g 2 1 6 3 3 1 4 3 2 1 1 1 2 3 2 3 3 3 c 4 5 3 3 1 4 2 1 6 1 e a g",
   "d 1 3 1 n 1 g 2 9 1 3 1 4 7 2 1 3 1 2 2 4 2 a g 4 1 8 1 3 1 n 1 a 1 5 2 9 1 3 1 4 7 2 5 3 1",
   "4 2 a 1 3 c d 1 3 1 1f 1 3 1 5 5 4 7 5 2 a a 6 1 3 1 i 3 o 1 9 1 1 2 7 3 1 4 6 1 1 1 8 6 a",
   "2 2 d 1m 5 f 1 a 13 2 1 1 1 5 1 o 1 1 1 n 2 5 1 1 1 7 1 a 2 4 w 1 n 2 6 a b 1 1 1 1 1 4 a 1",
   "10 4 k 1 i 1 10 9 1 1l 22 6 26 2 12 1 1 5 1 2 17 1 99 1 4 2 7 1 1 1 4 2 15 1 4 2 x 1 4 2 7",
   "1 1 1 4 2 f 1 1l 1 4 2 1v 2 3 9 9 e g g 2e 2 6 3 h8 2 h 1 q 5 23 3 b 7 m 9 m b k c d 1 3 1",
   "2 c 2c 3 1 4 2 2 a x 3 1 b 6 2h 7 17 5 1y a v 1 c 4 c a 14 2 5 b 18 4 q 6 b 11 s 4 1r 1 t 2",
   "b 6 a d 1 8 e 1 v 2 c k 25 3 a h 9 c 38 c 1k 8 a 3 1d 2 b 5 17 2 3 g 3 1 13 5 eu 2 6 2 12 2",
   "6 2 8 1 1 1 1 1 1 1 v 2 1h 1 7 1 1 3 3 1 7 3 4 2 6 4 d 5 3 1 7 f 2 1d 2 j 1 s 1 d 1 g d 1f",
   "d 4 1 3 c h 1 4 1 2 a 1 1 2 6 6 1 1 1 1 1 1 g 2 4 5 5 4 1 h 15 22f 6d 6 9 c 12 1 1 5 1 2 1k",
   "7 1 f o 9 7 1 7 1 7 1 7 1 7 1 7 1 7 1 7 1 w ed 3 p f 1 5 2 5 4 2e 2 2 2 3 1 2n 5 17 1 2m h",
   "w 1c g e8 534 1s h3h 1v 1a 2 7h 3 s k 1c 4 a 1 37 11 9 2 2v 2 2a k 1j 4 1 j 1g c 1y a a 6 o",
   "3 1 1 1d 2 10 c t 3 1t e b 6 v 1 1j 9 e 2 a 6 n 3 21 o 3 2 g 2 5 a 6 2 6 2 6 9 7 1 7 1 17 1",
   "e 6 3f 1 2 2 a 6 8mc c n 4 1d 6is a6 2 2y 12 7 c 5 5 c 1 d 1 5 1 1 1 2 1 2 1 30 x 3v 6 62 i",
   "1s 2 1i 14 a 6 g g g 3 2 o 3 x 1 1 1 3 1 1 1 1 1 1 1 1 3i j a 7 q 4 1 1 q a 2i 3 6 2 6 2 6",
   "2 3 z c 1 q 1 j 1 2 1 f 2 e y 3f 1x 1h 3s 1 3m t 3 1d f 1 v w d u 5 17 5 u 2 10 4 8 1 5 16",
   "4e 2 a 6 10 4 10 4 14 8 1g c b 1 f 1 7 1 2 1 b 1 f 1 7 1 2 3 1g c 8n 9 m a 8 o 6 1 16 1 9",
   "1x 6 2 1 1 18 1 2 3 1 2 n a n 9 v 1t j 1 2 a m a q 6 q 12 1k 6 2 1s 4 1 2 5 8 1 3 1 t 2 3 4",
   "1 w t 3 t z 8 1 u p 1i a m a j d i 32 21 1j 1f d 1f d 14 8 a 6 12 3 5 1 n 6y 16 1 2 3 2 g 6",
   "1e z a 1 8 x v m 16 l r n 9 1z v g 9 1o 7 1 d p 7 a 6 1h 1 a 4 4 8 10 2 1 9 1x 4 4 1 d 1 1",
   "z i 1 11 6 4 1q 7 1 1 1 4 1 f 1 a 7 1n 5 a 6 4 1 8 2 2 2 m 1 7 1 2 1 5 1 a 2 2 2 3 2 1 6 1",
   "5 7 2 7 3 5 b a 1 1 2 1 1 12 1 a 1 1 2 1 1 4 1 8 d 2 t 23 5 a 4 4 u 1y 1 1 8 a 4m 1i 2 9 n",
   "6 y 1t 3 1 b a 12 1l 7 a 6 k s r 2 f 4 a 6 7 55 1n 2t 22 l 8 2 1 2 8 1 2 1 u 1 2 2 9 c a 1y",
   "8 2 1a 2 8 1 2 r 1r 8 1 8 22 3 1 i 21 2v 8 2g x f a 6 9 1 19 1 9 f a o u 2 m 1 e 21 7 1 2 1",
   "18 3 1 1 2 1 9 8 a 6 6 1 2 1 11 1 2 1 6 7 a 6 18 4 a 6u n 9 h 1 15 3 5 d b 2d 1 27 pm 2u 33",
   "h 5g 218 2p f ts g m a 32z 5 g7 5a1 1m 1c6 ft 7 v 1 a 6 27 1 a 6 u 2 5 b 1j 9 4 c a 9 l 5 j",
   "c0 19 3 a 5i 1s w p 2 p 18 23 4 1l 7 h 1s 2 1 2 b 7 9 5p2 15 w 2p 37 6pp 4 1 7 1 2 1 83 f 1",
   "t 3 2 1 e 4 8 b0 1s4 2z 5 d 3 9 7 a 3 2 381 a ee 1a 2 n f2 5 3 6 8 8 2 7 u 4 44 3 cb 2d 1",
   "1z 1 2 2 1 2 2 2 4 1 c 1 1 1 7 1 1t 1 4 2 8 1 7 1 s 1 4 1 5 1 1 3 7 1 9g 2 p 1 p 1 v 1 p 1",
   "v 1 p 1 v 1 p 1 v 1 p 1 8 2 1e e8 1j 4 1e 8 1 e 1 m 5 1 f uo v 6 6 5x 7 1 h 2 7 1 2 1 5 5",
   "1q x 1 34 19 3 e 2 a 4 1 8x v h 1m d2 16 5y 17 5h v 1 m 8 2 68 7 1 4 1 2 1 f 1 5h b 7 15 24",
   "4 a x2 4 1 r 1 2 1 1 2 1 1 a 1 4 1 1 1 1 6 1 4 1 1 1 1 1 1 3 1 2 1 1 2 1 1 1 1 1 1 1 1 1 1",
   "2 1 1 2 4 1 7 1 4 1 4 1 1 1 a 1 h 5 3 1 5 1 h 2lw a sm wyo w 3dq 2 4ge 2 5rl f ha 1wi f2",
   "15u 3t7 5 6ju f62u 6o"]

def emoji : List String :=
  ["z 1 6 1 5 a 33 1 4 1 68d 1 c 1 60 1 m 1 2i 6 f 2 a7 2 c 1 4m 1 p b 4 3 5j 1 6f 2 a 1 9 1 1m",
   "4 1 5 9 1 2 1 2 2 2 1 4 1 2 1 1 2 2 1 3 1 3 2 8 3 5 1 1 1 5 c b 2 2 1 1 2 1 1 i 1 2 2 i 6 1",
   "1 1 2 3 2 5 1 2 2 4 2 b 2 5 2 2 1 5 2 1 1 1 2 k 2 5 6 1 4 2 1 4 1 2 1 2 6 1 1 2 1 1 1 1 1 6",
   "1 3 1 6 1 a 2 f 1 2 1 4 1 1 1 4 3 1 1 b 2 1c 3 9 1 e 1 e 1 ac 2 cv 3 j 2 1f 1 4 1 yi 1 c 1",
   "gp 1 1 1 2fze 1 5m 1 4g 2 c 2 e 1 2 a 23 q 1 2 n 1 k 1 2 9 l 2 4u y 2 34 2 2 1 3 2 2b 2 3 1",
   "7b 1 1r b 6 1 o 7 2 2 8 c 1 2 4 2 1 4 2 d 2 2 1 8 2 9 1 5 3 c 3 8 3 2 1 1 1 4 1 6 1 3 1 6",
   "2e 1c 1y 5 8 2 4 3 a 3 1 1 2 3 1 2 a 6b c 4 1 7v 1b 1 a 1 55 34 d 3 b 3 1l 1 1 4 g 2 c 4 a"]

def emojiPresentation : List String :=
  ["6xm 2 5p 4 3 1 2 1 eh 2 l 2 1e c 17 1 j 1 d 1 8 2 h 2 5 2 8 1 5 1 l 1 7 2 1 1 4 1 2 1 7 1 4",
   "2 s 1 z 1 1 1 4 3 1 1 1p 3 o 1 e 1 nv 2 1f 1 4 1 2hf2 1 5m 1 5a 1 2 a 23 q 1 1 o 1 k 1 2 5",
   "1 3 l 2 4u x c 9 1 1y 1 m c 17 4 5 c h 3 1 3 1z 1 1 1 57 2 1r d 4 1 o i 1 q 2 d 1 2e 2d 1c",
   "1y 6 1 3 3 2 4 3 4 b 2 7 9 6b c 4 1 7v 1b 1 a 1 55 34 d 3 b 3 1l 1 1 4 g 2 c 4 a"]

def extendedPictographic : List String :=
  ["4p 1 4 1 68d 1 c 1 60 1 m 1 2i 6 f 2 a7 2 c 1 4m 1 p b 4 3 5j 1 6f 2 a 1 9 1 1m 4 1 5 9 1 2",
   "1 2 2 2 1 4 1 2 1 1 2 2 1 3 1 3 2 8 3 5 1 1 1 5 c b 2 2 1 1 2 1 1 i 1 2 2 i 6 1 1 1 2 3 2 5",
   "1 2 2 4 2 b 2 5 2 2 1 5 2 1 1 1 2 k 2 5 6 1 4 2 1 4 1 2 1 2 6 1 1 2 1 1 1 1 1 6 1 3 1 6 1 a",
   "2 f 1 2 1 4 1 1 1 4 3 1 1 b 2 1c 3 9 1 e 1 e 1 ac 2 cv 3 j 2 1f 1 4 1 yi 1 c 1 gp 1 1 1",
   "2fze 1 13 4 2s c f 2 f 1 e 2 11 a 34 2 c 2 e 1 2 a j 1k r f a 1 k 1 2 9 1 4 9 n 6 58 2 34 2",
   "2 1 3 2 2b 2 3 1 4 5 72 1 1r b 6 1 o 7 2 2 8 c 1 2 4 2 1 4 2 d 2 2 1 8 2 9 1 5 3 c 3 8 3 2",
   "1 1 1 4 1 6 1 3 1 6 2e 1c 1y 5 8 2 h 3 1 1 6 2 d 62 12 c 4 1k 8 a 6 14 8 u 2 c 4 2 e 9 13 c",
   "1b 1 a 1 55 2g 8 e 42 74 se"]

/-- The tables by name, in lower case without separators. -/
def tables : List (List String × List String) :=
  [(["alphabetic", "alpha"], alphabetic),
   (["lowercase", "lower"], lowercase),
   (["uppercase", "upper"], uppercase),
   (["whitespace", "wspace", "space"], whiteSpace),
   (["cased"], cased),
   (["math"], math),
   (["dash"], dash),
   (["hexdigit", "hex"], hexDigit),
   (["ideographic", "ideo"], ideographic),
   (["idstart", "ids"], idStart),
   (["idcontinue", "idc"], idContinue),
   (["xidstart", "xids"], xidStart),
   (["xidcontinue", "xidc"], xidContinue),
   (["emoji"], emoji),
   (["emojipresentation", "epres"], emojiPresentation),
   (["extendedpictographic", "extpict"], extendedPictographic)]

def charSet (table : List String) : CharSet :=
  alternating false 0 (numbers table)

def charSet? (name : String) : Option CharSet :=
  (tables.find? fun (ns, _) => ns.contains name).map fun (_, table) => charSet table

end Harvest.Text.Property
