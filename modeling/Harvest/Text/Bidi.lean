import Harvest.Text.CharSet
/-!
Directions and joining behaviour of characters, as the rules for host names of mixed direction
need them. Each table lists runs of code points by length and class, in base 36.
-/

namespace Harvest.Text.Bidi

/-- Classes by place: L, R, AL, AN, EN, ES, CS, ET, ON, BN, NSM, B, S, WS, LRE, LRO, RLE, RLO, PDF, LRI, RLI, FSI, PDI. -/
def table : List String :=
  ["9 9 1 c 1 b 1 c 1 d 1 b e 9 3 b 1 c 1 d 2 8 3 7 5 8 1 5 1 6 1 5 2 6 a 4 1 6 6 8 q 0 6 8 q 0",
   "4 8 6 9 1 b q 9 1 6 1 8 4 7 4 8 1 0 2 8 1 9 2 8 2 7 2 4 1 8 1 0 3 8 1 4 1 0 5 8 n 0 1 8 v 0",
   "1 8 ch 0 2 8 7 0 e 8 2 0 e 8 5 0 9 8 1 0 h 8 34 a 4 0 2 8 8 0 1 8 5 0 2 8 1 0 1 8 32 0 1 8",
   "3w 0 7 a 74 0 1 8 2 0 2 8 1 7 1 1 19 a 1 1 1 a 1 1 2 a 1 1 2 a 1 1 1 a 1k 1 6 3 2 8 1 2 2 7",
   "1 2 1 6 1 2 2 8 b a 1c 2 l a a 3 1 7 2 3 3 2 1 a 2t 2 7 a 1 3 1 8 6 a 2 2 2 a 1 8 4 a 2 2 a",
   "4 n 2 1 a u 2 r a 2j 2 b a f 2 17 1 9 a 2 1 4 8 3 1 1 a o 1 4 a 1 1 9 a 1 1 3 a 1 1 5 a 17",
   "1 3 a 4 1 1c 2 2 3 6 2 8 a 16 2 o a 1 3 w a 1j 0 1 a 1 0 1 a 4 0 8 a 4 0 1 a 3 0 7 a a 0 2",
   "a t 0 1 a 1m 0 1 a 4 0 4 a 8 0 1 a k 0 2 a e 0 2 7 7 0 1 7 2 0 1 a 2 0 2 a 1l 0 1 a 4 0 2 a",
   "4 0 2 a 2 0 3 a 3 0 1 a u 0 2 a 3 0 1 a b 0 2 a 1l 0 1 a 4 0 5 a 1 0 2 a 4 0 1 a k 0 2 a d",
   "0 1 7 8 0 6 a 1 0 1 a 1m 0 1 a 2 0 1 a 1 0 4 a 8 0 1 a 7 0 2 a b 0 2 a u 0 1 a 1p 0 1 a c 0",
   "1 a 11 0 6 8 1 7 1 8 5 0 1 a 3 0 1 a 1j 0 1 a 1 0 3 a 5 0 3 a 1 0 4 a 7 0 2 a b 0 2 a k 0 7",
   "8 2 0 1 a 1m 0 1 a f 0 2 a k 0 2 a s 0 2 a 1l 0 2 a 4 0 4 a 8 0 1 a k 0 2 a t 0 1 a 20 0 1",
   "a 7 0 3 a 1 0 1 a 2i 0 1 a 2 0 7 a 4 0 1 7 7 0 8 a 2q 0 1 a 2 0 9 a b 0 6 a 22 0 2 a r 0 1",
   "a 1 0 1 a 1 0 1 a 4 8 1f 0 e a 1 0 5 a 1 0 2 a 5 0 b a 1 0 10 a 9 0 1 a 2u 0 4 a 1 0 6 a 1",
   "0 2 a 2 0 2 a p 0 2 a 4 0 3 a g 0 4 a d 0 1 a 2 0 2 a 6 0 1 a f 0 1 a jj 0 3 a 1c 0 a 8 2u",
   "0 1 8 hr 0 1 d q 0 2 8 39 0 3 a t 0 2 a u 0 2 a u 0 2 a 1s 0 2 a 1 0 7 a 8 0 1 a 2 0 b a 7",
   "0 1 7 1 0 1 a i 0 a 8 6 0 b 8 3 a 1 9 1 a 39 0 2 a y 0 1 a 3a 0 3 a 4 0 2 a 9 0 1 a 6 0 3 a",
   "4 0 1 8 3 0 2 8 48 0 y 8 n 0 2 a 2 0 1 a 1m 0 1 a 1 0 7 a 1 0 1 a 1 0 1 a 2 0 8 a 6 0 a a 2",
   "0 1 a 1c 0 v a 1d 0 4 a 1c 0 1 a 1 0 5 a 1 0 1 a 5 0 1 a 14 0 9 a c 0 2 a w 0 4 a 2 0 2 a 1",
   "0 3 a 1k 0 1 a 1 0 2 a 3 0 1 a 1 0 3 a 1m 0 8 a 2 0 2 a 48 0 3 a 1 0 d a 1 0 7 a 4 0 1 a 6",
   "0 1 a 3 0 2 a 5i 0 1s a cd 0 1 8 1 0 3 8 b 0 3 8 d 0 3 8 d 0 3 8 d 0 2 8 1 0 b d 3 9 1 0 1",
   "1 o 8 1 d 1 b 1 e 1 g 1 i 1 f 1 h 1 6 5 7 f 8 1 6 q 8 1 d 5 9 1 0 1 j 1 k 1 l 1 m 6 9 1 4 3",
   "0 6 4 2 5 3 8 1 0 a 4 2 5 3 8 h 0 x 7 f 0 x a f 0 2 8 1 0 4 8 1 0 2 8 a 0 1 8 1 0 3 8 5 0 6",
   "8 1 0 1 8 1 0 1 8 1 0 1 8 4 0 1 7 b 0 2 8 4 0 5 8 5 0 4 8 2 0 g 8 15 0 3 8 4 0 3m 8 1 5 1 7",
   "82 8 1x 0 q 8 1 0 41 8 p 0 b 8 l 0 14 8 k 4 26 0 ci 8 1 0 9f 8 74 0 hg 8 2 0 w 8 1 0 2x 8",
   "6d 0 6 8 4 0 3 a 7 0 7 8 3j 0 1 a 2o 0 w a 2m 8 y 0 q 8 1 0 2h 8 c 0 5y 8 q 0 c 8 4 0 1 d 4",
   "8 3 0 p 8 9 0 4 a 2 0 1 8 5 0 2 8 5 0 3 8 2h 0 2 a 2 8 3 0 1 8 2i 0 1 8 5g 0 10 8 1l 0 2 8",
   "1d 0 g 8 s 0 3 8 1e 0 f 8 c 0 4 8 4n 0 4 8 2r 0 2 8 v 0 1 8 534 0 1s 8 h3k 0 1j 8 92 0 3 8",
   "2n 0 4 a 1 8 a a 2 8 u 0 2 a 28 0 2 a e 0 y 8 2u 0 1 8 3d 0 1 a 3 0 1 a 4 0 1 a p 0 2 a 1 0",
   "4 8 1 a b 0 2 7 1m 0 4 8 24 0 2 a q 0 i a d 0 1 a 12 0 8 a p 0 b a 1a 0 3 a 1c 0 1 a 2 0 4",
   "a 2 0 2 a 13 0 1 a 1v 0 6 a 2 0 2 a 2 0 2 a c 0 1 a 8 0 1 a 1b 0 1 a 1f 0 1 a 1 0 3 a 2 0 2",
   "a 5 0 2 a 1 0 1 a 16 0 2 a 8 0 1 a 37 0 2 8 3d 0 1 a 2 0 1 a 4 0 1 a fn3 0 1 1 1 a a 1 1 5",
   "12 1 dq 2 i 8 3j 2 1 8 w 0 d 2 3 8 g a a 8 6 0 g a w 8 1 6 1 8 1 6 1 0 1 8 1 6 9 8 1 7 2 8",
   "2 5 3 8 1 0 1 8 2 7 1 8 4 0 3z 2 1 9 1 0 2 8 3 7 5 8 1 5 1 6 1 5 2 6 a 4 1 6 6 8 q 0 6 8 q",
   "0 b 8 3e 0 2 7 3 8 2 7 1 0 7 8 a 0 5 8 77 0 1 8 1q 0 25 8 3 0 d 8 3 0 1 8 2k 0 1 a 6a 0 1 a",
   "r 4 3e 0 5 a w5 0 7z 1 1 8 69 1 3 a 1 1 2 a 5 1 4 a 14 1 3 a 4 1 1 a 4l 1 2 a 2a 1 7 8 cg 1",
   "10 2 4 a 8 2 a 3 6 2 80 1 v 3 18 1 2 a j 1 1s 2 1c 1 m 2 b a v 2 i 1 4 a 3e 1 1 0 1 a 1i 0",
   "f a b 0 k 8 a 0 1 a 2 0 2 a a 0 3 a 1d 0 4 a 2 0 2 a 7 0 1 a 1p 0 3 a 10 0 5 a 1 0 8 a 1q 0",
   "1 a c 0 2 a 1g 0 9 a a 0 4 a 2 0 1 a 2n 0 3 a 2 0 1 a 1 0 2 a 6 0 1 a 4g 0 1 a 3 0 8 a l 0",
   "2 a 1l 0 2 a 3 0 1 a 11 0 7 a 3 0 5 a 5f 0 8 a 2 0 3 a 1 0 1 a n 0 1 a 2c 0 6 a 1 0 1 a 4 0",
   "2 a 1 0 2 a 6m 0 4 a 6 0 2 a 1 0 2 a r 0 2 a 2d 0 8 a 2 0 1 a 1 0 2 a v 0 d 8 1q 0 1 a 1 0",
   "1 a 2 0 6 a 1 0 1 a 2t 0 3 a 2 0 4 a 1 0 5 a 77 0 9 a 1 0 2 a 74 0 2 a 1 0 1 a 4 0 1 a 40 0",
   "4 a 2 0 2 a 4 0 1 a w 0 6 a 2 0 2 a 14 0 6 a 2 0 4 a 8 0 1 a 9 0 6 a 2 0 3 a 1a 0 d a 1 0 2",
   "a ba 0 7 a 1 0 6 a 2c 0 m a 2 0 7 a 1 0 2 a 1 0 2 a 3e 0 6 a 3 0 1 a 1 0 2 a 1 0 7 a 1 0 1",
   "a 20 0 2 a 3 0 1 a 1 0 1 a 9n 0 2 a 68 0 8 8 4 7 h 8 eta 0 5 a 1n 0 7 a t4 0 1 a 1r 0 4 a",
   "27 0 1 8 1 0 1 a f5k 0 2 a 1 0 4 9 3mk 0 1a a 2 0 n a f4 0 3 a 9 0 8 9 8 a 2 0 7 a u 0 4 a",
   "1n 0 2 8 l 0 1u 8 3 a 1 8 56 0 2f 8 p0 0 1 8 1l 0 1 8 1l 0 1 8 1l 0 1 8 1l 0 1 8 a 0 1e 4",
   "e8 0 1j a 4 0 1e a 8 0 1 a e 0 1 a m 0 5 a 1 0 f a 11s 0 7 a 1 0 h a 2 0 7 a 1 0 2 a 1 0 5",
   "a 79 0 7 a af 0 1 a 1p 0 4 a f 0 1 7 zk 0 5s 1 7 a 31 1 7 a md 1 28 2 1s 1 28 2 4w 1 6o 2 2",
   "8 e 2 74 1 18 8 4 0 2s 8 c 0 f 8 2 0 f 8 1 0 f 8 1 0 11 8 a 0 b 4 5 8 v 0 1 8 1m 0 6 8 1p 0",
   "1 8 4y 0 6 8 4a 0 rc 8 5 0 g 8 3 0 d 8 3 0 38 8 c 0 2h 8 7 0 c 8 4 0 1 8 f 0 c 8 4 0 1k 8 8",
   "0 a 8 6 0 14 8 8 0 u 8 2 0 2 8 26 0 9g 8 c 0 e 8 2 0 5 8 3 0 5 8 3 0 7 8 9 0 t 8 3 0 b 8 5",
   "0 6 8 a 0 a 8 6 0 8 8 8 0 7 8 9 0 43 8 1 0 1j 8 11 0 a 4 gvlz 0 1 9 u 0 2o 9 3k 0 6o a 47bk",
   "0"]

/-- Joining types by place: non-joining, transparent, left, right, dual, causing. -/
def joiningTable : List String :=
  ["4t 0 1 1 gi 0 34 1 7n 0 7 1 7b 0 19 1 1 0 1 1 1 0 2 1 1 0 2 1 1 0 1 1 20 0 b 1 1 0 1 1 3 0",
   "1 4 1 0 4 3 1 4 1 3 1 4 1 3 5 4 4 3 d 4 1 5 7 4 1 3 2 4 l 1 e 0 2 4 1 1 3 3 1 0 3 3 g 4 i 3",
   "12 4 1 3 2 4 9 3 1 4 1 3 1 4 1 3 2 4 2 3 1 0 1 3 7 1 2 0 6 1 2 0 2 1 1 0 4 1 2 3 a 0 3 4 2",
   "0 1 4 f 0 1 1 1 3 1 1 3 4 5 3 4 4 1 3 9 4 1 3 1 4 1 3 1 4 1 3 2 4 1 3 r 1 2 0 1 3 b 4 3 3 f",
   "4 2 3 4 4 1 3 1 4 2 3 3 4 2 3 6 4 12 0 b 1 p 0 x 4 9 1 6 0 1 5 2 0 1 1 o 0 4 1 1 0 9 1 1 0",
   "3 1 1 0 5 1 i 0 1 3 5 4 2 3 1 4 1 3 a 4 1 3 1 4 3 3 3 1 4 0 1 4 1 0 4 4 1 0 1 3 1 4 2 3 5 0",
   "j 3 3 5 1 4 2 0 5 4 1 3 9 0 8 1 a 4 3 3 1 0 1 3 2 4 2 3 6 4 1 3 f 4 1 0 o 1 1 0 w 1 1j 0 1",
   "1 1 0 1 1 4 0 8 1 4 0 1 1 3 0 7 1 a 0 2 1 t 0 1 1 1m 0 1 1 4 0 4 1 8 0 1 1 k 0 2 1 q 0 1 1",
   "2 0 2 1 1l 0 1 1 4 0 2 1 4 0 2 1 2 0 3 1 3 0 1 1 u 0 2 1 3 0 1 1 b 0 2 1 1l 0 1 1 4 0 5 1 1",
   "0 2 1 4 0 1 1 k 0 2 1 m 0 6 1 1 0 1 1 1m 0 1 1 2 0 1 1 1 0 4 1 8 0 1 1 7 0 2 1 b 0 2 1 u 0",
   "1 1 1p 0 1 1 c 0 1 1 1e 0 1 1 3 0 1 1 1j 0 1 1 1 0 3 1 5 0 3 1 1 0 4 1 7 0 2 1 b 0 2 1 t 0",
   "1 1 1m 0 1 1 2 0 1 1 6 0 1 1 5 0 2 1 k 0 2 1 s 0 2 1 1l 0 2 1 4 0 4 1 8 0 1 1 k 0 2 1 t 0 1",
   "1 20 0 1 1 7 0 3 1 1 0 1 1 2i 0 1 1 2 0 7 1 c 0 8 1 2q 0 1 1 2 0 9 1 b 0 7 1 21 0 2 1 r 0 1",
   "1 1 0 1 1 1 0 1 1 1j 0 e 1 1 0 5 1 1 0 2 1 5 0 b 1 1 0 10 1 9 0 1 1 2u 0 4 1 1 0 6 1 1 0 2",
   "1 2 0 2 1 p 0 2 1 4 0 3 1 g 0 4 1 d 0 1 1 2 0 2 1 6 0 1 1 f 0 1 1 jj 0 3 1 qa 0 3 1 t 0 2 1",
   "u 0 2 1 u 0 2 1 1s 0 2 1 1 0 7 1 8 0 1 1 2 0 b 1 9 0 1 1 15 0 1 4 2 0 1 5 3 1 1 0 1 1 g 0",
   "2h 4 c 0 2 1 y 4 1 1 1 4 39 0 3 1 4 0 2 1 9 0 1 1 6 0 3 1 63 0 2 1 2 0 1 1 1m 0 1 1 1 0 7 1",
   "1 0 1 1 1 0 1 1 2 0 8 1 6 0 a 1 2 0 1 1 1c 0 v 1 1d 0 4 1 1c 0 1 1 1 0 5 1 1 0 1 1 5 0 1 1",
   "14 0 9 1 c 0 2 1 w 0 4 1 2 0 2 1 1 0 3 1 1k 0 1 1 1 0 2 1 3 0 1 1 1 0 3 1 1m 0 8 1 2 0 2 1",
   "48 0 3 1 1 0 d 1 1 0 7 1 4 0 1 1 6 0 1 1 3 0 2 1 5i 0 1s 1 ej 0 1 1 1 0 1 5 2 1 q 0 5 1 1d",
   "0 5 1 5 0 6 1 2o 0 x 1 2da 0 3 1 3x 0 1 1 2o 0 w 1 fe 0 4 1 2z 0 2 1 n9w 0 4 1 1 0 a 1 w 0",
   "2 1 28 0 2 1 7k 0 1 1 3 0 1 1 4 0 1 1 p 0 2 1 5 0 1 1 j 0 1e 4 1 2 29 0 2 1 q 0 i 1 d 0 1 1",
   "12 0 8 1 p 0 b 1 1a 0 3 1 1c 0 1 1 2 0 4 1 2 0 2 1 13 0 1 1 1v 0 6 1 2 0 2 1 2 0 2 1 c 0 1",
   "1 8 0 1 1 1b 0 1 1 1f 0 1 1 1 0 3 1 2 0 2 1 5 0 2 1 1 0 1 1 16 0 2 1 8 0 1 1 6m 0 1 1 2 0 1",
   "1 4 0 1 1 fn4 0 1 1 kh 0 g 1 g 0 g 1 5r 0 1 1 6x 0 3 1 e9 0 1 1 6a 0 1 1 45 0 5 1 1ae 0 3 1",
   "1 0 2 1 5 0 4 1 14 0 3 1 4 0 1 1 3k 0 5 4 1 3 1 0 1 3 1 0 2 3 2 0 1 2 5 3 4 4 1 2 5 4 1 3 3",
   "4 1 3 2 0 1 3 2 1 4 0 4 4 1 3 40 0 1 4 1 3 1 4 3 3 3 4 1 3 2 4 1 3 1 4 2 3 1 4 1 3 n 0 4 3",
   "2 4 9d 0 1 2 x 4 1 3 1 4 4 1 ar 0 2 1 28 0 3 1 1c 0 3 4 1 3 h 4 1 0 b 1 3 4 1 3 r 0 4 4 2 3",
   "c 4 4 1 16 0 1 4 1 0 2 4 3 3 1 0 1 4 2 3 2 4 1 3 2 4 1 0 1 4 2 3 1 4 4 0 1 3 1 4 1 2 1h 0 1",
   "1 1i 0 f 1 15 0 1 1 2 0 2 1 a 0 3 1 1d 0 4 1 2 0 2 1 7 0 1 1 1p 0 3 1 10 0 5 1 1 0 8 1 1q 0",
   "1 1 c 0 2 1 1g 0 9 1 a 0 4 1 2 0 1 1 2n 0 3 1 2 0 1 1 1 0 2 1 6 0 1 1 2 0 1 1 4d 0 1 1 3 0",
   "8 1 l 0 2 1 1l 0 2 1 3 0 1 1 11 0 7 1 3 0 5 1 5f 0 8 1 2 0 3 1 1 0 1 1 n 0 1 1 2c 0 6 1 1 0",
   "1 1 4 0 2 1 1 0 2 1 6m 0 4 1 6 0 2 1 1 0 2 1 r 0 2 1 2d 0 8 1 2 0 1 1 1 0 2 1 2y 0 1 1 1 0",
   "1 1 2 0 6 1 1 0 1 1 2t 0 3 1 2 0 4 1 1 0 5 1 77 0 9 1 1 0 2 1 74 0 2 1 1 0 1 1 4 0 1 1 40 0",
   "4 1 2 0 2 1 4 0 1 1 w 0 a 1 14 0 6 1 2 0 4 1 8 0 1 1 9 0 6 1 2 0 3 1 1a 0 d 1 1 0 2 1 ba 0",
   "7 1 1 0 6 1 1 0 1 1 2a 0 m 1 2 0 7 1 1 0 2 1 1 0 2 1 3e 0 6 1 3 0 1 1 1 0 2 1 1 0 7 1 1 0 1",
   "1 20 0 2 1 3 0 1 1 1 0 1 1 9n 0 2 1 b 0 2 1 1g 0 5 1 5 0 1 1 1 0 1 1 44t 0 h 1 6 0 f 1 asa",
   "0 5 1 1n 0 7 1 t4 0 1 1 1r 0 4 1 29 0 1 1 f5k 0 2 1 1 0 4 1 3mk 0 1a 1 2 0 n 1 f4 0 3 1 9 0",
   "g 1 2 0 7 1 u 0 4 1 44 0 3 1 1iz 0 1j 1 4 0 1e 1 8 0 1 1 e 0 1 1 m 0 5 1 1 0 f 1 11s 0 7 1",
   "1 0 h 1 2 0 7 1 1 0 2 1 1 0 5 1 2s 0 1 1 4g 0 7 1 af 0 1 1 1p 0 4 1 e4 0 4 1 rk 0 7 1 15 0",
   "1w 4 8 1 gzat 0 1 1 u 0 2o 1 3k 0 6o 1 47bk 0"]

def runs : List (Nat × Nat) :=
  pairs (numbers table)

def joiningRuns : List (Nat × Nat) :=
  pairs (numbers joiningTable)

/-- The class of the run that holds a code point. -/
def classIn (n : Nat) : List (Nat × Nat) → Nat
  | [] => 0
  | (length, value) :: r => if n < length then value else classIn (n - length) r

def directionClass (c : Char) : Nat := classIn c.toNat runs

def joiningType (c : Char) : Nat := classIn c.toNat joiningRuns

end Harvest.Text.Bidi
