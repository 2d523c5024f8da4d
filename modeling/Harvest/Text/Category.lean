import Harvest.Text.CharSet
/-!
General categories of Unicode. The table lists runs of code points in order, each by its length
and the place of its category in `Category.names`, two numbers in base 36.
-/

namespace Harvest.Text.Category

/-- The two-letter names, in the order the table counts them. -/
def names : List String :=
  ["Lu", "Ll", "Lt", "Lm", "Lo", "Mn", "Mc", "Me", "Nd", "Nl", "No", "Pc", "Pd", "Ps",
   "Pe", "Pi", "Pf", "Po", "Sm", "Sc", "Sk", "So", "Zs", "Zl", "Zp", "Cc", "Cf", "Cs",
   "Co", "Cn"]

def table : List String :=
  ["w p 1 m 3 h 1 j 3 h 1 d 1 e 1 h 1 i 1 h 1 c 2 h a 8 2 h 3 i 2 h q 0 1 d 1 h 1 e 1 k 1 b 1 k",
   "q 1 1 d 1 i 1 e 1 i x p 1 m 1 h 4 j 1 l 1 h 1 k 1 l 1 4 1 f 1 i 1 q 1 l 1 k 1 l 1 i 2 a 1 k",
   "1 1 2 h 1 k 1 a 1 4 1 g 3 a 1 h n 0 1 i 7 0 o 1 1 i 8 1 1 0 1 1 1 0 1 1 1 0 1 1 1 0 1 1 1 0",
   "1 1 1 0 1 1 1 0 1 1 1 0 1 1 1 0 1 1 1 0 1 1 1 0 1 1 1 0 1 1 1 0 1 1 1 0 1 1 1 0 1 1 1 0 1 1",
   "1 0 1 1 1 0 1 1 1 0 1 1 1 0 1 1 1 0 1 1 1 0 1 1 1 0 1 1 1 0 1 1 1 0 1 1 1 0 1 1 1 0 1 1 1 0",
   "2 1 1 0 1 1 1 0 1 1 1 0 1 1 1 0 1 1 1 0 1 1 1 0 1 1 1 0 1 1 1 0 2 1 1 0 1 1 1 0 1 1 1 0 1 1",
   "1 0 1 1 1 0 1 1 1 0 1 1 1 0 1 1 1 0 1 1 1 0 1 1 1 0 1 1 1 0 1 1 1 0 1 1 1 0 1 1 1 0 1 1 1 0",
   "1 1 1 0 1 1 1 0 1 1 1 0 1 1 1 0 1 1 1 0 1 1 1 0 1 1 1 0 1 1 1 0 1 1 2 0 1 1 1 0 1 1 1 0 3 1",
   "2 0 1 1 1 0 1 1 2 0 1 1 3 0 2 1 4 0 1 1 2 0 1 1 3 0 3 1 2 0 1 1 2 0 1 1 1 0 1 1 1 0 1 1 2 0",
   "1 1 1 0 2 1 1 0 1 1 2 0 1 1 3 0 1 1 1 0 1 1 2 0 2 1 1 4 1 0 3 1 4 4 1 0 1 2 1 1 1 0 1 2 1 1",
   "1 0 1 2 1 1 1 0 1 1 1 0 1 1 1 0 1 1 1 0 1 1 1 0 1 1 1 0 1 1 1 0 1 1 1 0 2 1 1 0 1 1 1 0 1 1",
   "1 0 1 1 1 0 1 1 1 0 1 1 1 0 1 1 1 0 1 1 1 0 1 1 1 0 2 1 1 0 1 2 1 1 1 0 1 1 3 0 1 1 1 0 1 1",
   "1 0 1 1 1 0 1 1 1 0 1 1 1 0 1 1 1 0 1 1 1 0 1 1 1 0 1 1 1 0 1 1 1 0 1 1 1 0 1 1 1 0 1 1 1 0",
   "1 1 1 0 1 1 1 0 1 1 1 0 1 1 1 0 1 1 1 0 1 1 1 0 1 1 1 0 1 1 1 0 1 1 1 0 1 1 1 0 1 1 1 0 1 1",
   "1 0 1 1 1 0 1 1 1 0 1 1 1 0 1 1 1 0 7 1 2 0 1 1 2 0 2 1 1 0 1 1 4 0 1 1 1 0 1 1 1 0 1 1 1 0",
   "1 1 1 0 1x 1 2 4 q 1 i 3 4 k c 3 e k 5 3 7 k 1 3 1 k 1 3 h k 34 5 1 0 1 1 1 0 1 1 1 3 1 k 1",
   "0 1 1 2 t 1 3 3 1 1 h 1 0 4 t 2 k 1 0 1 h 3 0 1 t 1 0 1 t 2 0 1 1 h 0 1 t 9 0 z 1 1 0 2 1 3",
   "0 3 1 1 0 1 1 1 0 1 1 1 0 1 1 1 0 1 1 1 0 1 1 1 0 1 1 1 0 1 1 1 0 1 1 1 0 1 1 1 0 1 1 1 0 1",
   "1 1 0 5 1 1 0 1 1 1 i 1 0 1 1 2 0 2 1 1f 0 1c 1 1 0 1 1 1 0 1 1 1 0 1 1 1 0 1 1 1 0 1 1 1 0",
   "1 1 1 0 1 1 1 0 1 1 1 0 1 1 1 0 1 1 1 0 1 1 1 0 1 1 1 0 1 1 1 0 1 1 1 0 1 1 1 0 1 1 1 0 1 1",
   "1 l 5 5 2 7 1 0 1 1 1 0 1 1 1 0 1 1 1 0 1 1 1 0 1 1 1 0 1 1 1 0 1 1 1 0 1 1 1 0 1 1 1 0 1 1",
   "1 0 1 1 1 0 1 1 1 0 1 1 1 0 1 1 1 0 1 1 1 0 1 1 1 0 1 1 1 0 1 1 1 0 1 1 1 0 1 1 1 0 1 1 1 0",
   "1 1 1 0 1 1 1 0 1 1 1 0 1 1 1 0 1 1 1 0 1 1 2 0 1 1 1 0 1 1 1 0 1 1 1 0 1 1 1 0 1 1 1 0 1 1",
   "1 0 2 1 1 0 1 1 1 0 1 1 1 0 1 1 1 0 1 1 1 0 1 1 1 0 1 1 1 0 1 1 1 0 1 1 1 0 1 1 1 0 1 1 1 0",
   "1 1 1 0 1 1 1 0 1 1 1 0 1 1 1 0 1 1 1 0 1 1 1 0 1 1 1 0 1 1 1 0 1 1 1 0 1 1 1 0 1 1 1 0 1 1",
   "1 0 1 1 1 0 1 1 1 0 1 1 1 0 1 1 1 0 1 1 1 0 1 1 1 0 1 1 1 0 1 1 1 0 1 1 1 0 1 1 1 0 1 1 1 0",
   "1 1 1 0 1 1 1 0 1 1 1 0 1 1 1 0 1 1 1 0 1 1 1 0 1 1 1 0 1 1 1 0 1 1 1 0 1 1 1 0 1 1 1 0 1 1",
   "1 0 1 1 1 0 1 1 1 0 1 1 1 t 12 0 2 t 1 3 6 h 15 1 1 h 1 c 2 t 2 l 1 j 1 t 19 5 1 c 1 5 1 h",
   "2 5 1 h 2 5 1 h 1 5 8 t r 4 4 t 4 4 2 h b t 6 q 3 i 2 h 1 j 2 h 2 l b 5 1 h 1 q 3 h w 4 1 3",
   "a 4 l 5 a 8 4 h 2 4 1 5 2r 4 1 h 1 4 7 5 1 q 1 l 6 5 2 3 2 5 1 l 4 5 2 4 a 8 3 4 2 l 1 4 e",
   "h 1 t 1 q 1 4 1 5 u 4 r 5 2 t 2h 4 b 5 1 4 e t a 8 x 4 9 5 2 3 1 l 3 h 1 3 2 t 1 5 2 j m 4",
   "4 5 1 3 9 5 1 3 3 5 1 3 5 5 2 t f h 1 t p 4 3 5 2 t 1 h 1 t b 4 5 t o 4 1 k 7 4 2 q 5 t 9 5",
   "15 4 1 3 o 5 1 q w 5 1 6 1i 4 1 5 1 6 1 5 1 4 3 6 8 5 4 6 1 5 2 6 1 4 7 5 a 4 2 5 2 h a 8 1",
   "h 1 3 f 4 1 5 2 6 1 t 8 4 2 t 2 4 2 t m 4 1 t 7 4 1 t 1 4 3 t 4 4 2 t 1 5 1 4 3 6 4 5 2 t 2",
   "6 2 t 2 6 1 5 1 4 8 t 1 6 4 t 2 4 1 t 3 4 2 5 2 t a 8 2 4 2 j 6 a 1 l 1 j 1 4 1 h 1 5 2 t 2",
   "5 1 6 1 t 6 4 4 t 2 4 2 t m 4 1 t 7 4 1 t 2 4 1 t 2 4 1 t 2 4 2 t 1 5 1 t 3 6 2 5 4 t 2 5 2",
   "t 3 5 3 t 1 5 7 t 4 4 1 t 1 4 7 t a 8 2 5 3 4 1 5 1 h a t 2 5 1 6 1 t 9 4 1 t 3 4 1 t m 4 1",
   "t 7 4 1 t 2 4 1 t 5 4 2 t 1 5 1 4 3 6 5 5 1 t 2 5 1 6 1 t 2 6 1 5 2 t 1 4 f t 2 4 2 5 2 t a",
   "8 1 h 1 j 7 t 1 4 6 5 1 t 1 5 2 6 1 t 8 4 2 t 2 4 2 t m 4 1 t 7 4 1 t 2 4 1 t 5 4 2 t 1 5 1",
   "4 1 6 1 5 1 6 4 5 2 t 2 6 2 t 2 6 1 5 7 t 2 5 1 6 4 t 2 4 1 t 3 4 2 5 2 t a 8 1 l 1 4 6 a a",
   "t 1 5 1 4 1 t 6 4 3 t 3 4 1 t 4 4 3 t 2 4 1 t 1 4 1 t 2 4 3 t 2 4 3 t 3 4 3 t c 4 4 t 2 6 1",
   "5 2 6 3 t 3 6 1 t 3 6 1 5 2 t 1 4 6 t 1 6 e t a 8 3 a 6 l 1 j 1 l 5 t 1 5 3 6 1 5 8 4 1 t 3",
   "4 1 t n 4 1 t g 4 2 t 1 5 1 4 3 5 4 6 1 t 3 5 1 t 4 5 7 t 2 5 1 t 3 4 1 t 2 4 2 t 2 4 2 5 2",
   "t a 8 7 t 1 h 7 a 1 l 1 4 1 5 2 6 1 h 8 4 1 t 3 4 1 t n 4 1 t a 4 1 t 5 4 2 t 1 5 1 4 1 6 1",
   "5 5 6 1 t 1 5 2 6 1 t 2 6 2 5 7 t 2 6 5 t 3 4 1 t 2 4 2 5 2 t a 8 1 t 2 4 1 6 c t 2 5 2 6 9",
   "4 1 t 3 4 1 t 15 4 2 5 1 4 3 6 4 5 1 t 3 6 1 t 3 6 1 5 1 4 1 l 4 t 3 4 1 6 7 a 3 4 2 5 2 t",
   "a 8 9 a 1 l 6 4 1 t 1 5 2 6 1 t i 4 3 t o 4 1 t 9 4 1 t 1 4 2 t 7 4 3 t 1 5 4 t 3 6 3 5 1 t",
   "1 5 1 t 8 6 6 t a 8 2 t 2 6 1 h c t 1c 4 1 5 2 4 7 5 4 t 1 j 6 4 1 3 8 5 1 h a 8 2 h 11 t 2",
   "4 1 t 1 4 1 t 5 4 1 t o 4 1 t 1 4 1 t a 4 1 5 2 4 9 5 1 4 2 t 5 4 1 t 1 3 1 t 7 5 1 t a 8 2",
   "t 4 4 w t 1 4 3 l f h 1 l 1 h 3 l 2 5 6 l a 8 a a 1 l 1 5 1 l 1 5 1 l 1 5 1 d 1 e 1 d 1 e 2",
   "6 8 4 1 t 10 4 4 t e 5 1 6 5 5 1 h 2 5 5 4 b 5 1 t 10 5 1 t 8 l 1 5 6 l 1 t 2 l 5 h 4 l 2 h",
   "11 t 17 4 2 6 4 5 1 6 6 5 1 6 2 5 2 6 2 5 1 4 a 8 6 h 6 4 2 6 2 5 4 4 3 5 1 4 3 6 2 4 7 6 3",
   "4 4 5 d 4 1 5 2 6 2 5 6 6 1 5 1 4 1 6 a 8 3 6 1 5 2 l 12 0 1 t 1 0 5 t 1 0 2 t 17 1 1 h 1 3",
   "3 1 95 4 1 t 4 4 2 t 7 4 1 t 1 4 1 t 4 4 2 t 15 4 1 t 4 4 2 t x 4 1 t 4 4 2 t 7 4 1 t 1 4 1",
   "t 4 4 2 t f 4 1 t 1l 4 1 t 4 4 2 t 1v 4 2 t 3 5 9 h k a 3 t g 4 a l 6 t 2e 0 2 t 6 1 2 t 1",
   "c h8 4 1 l 1 h h 4 1 m q 4 1 d 1 e 3 t 23 4 3 h 3 9 8 4 7 t i 4 3 5 1 6 9 t j 4 2 5 1 6 2 h",
   "9 t i 4 2 5 c t d 4 1 t 3 4 1 t 2 5 c t 1g 4 2 5 1 6 7 5 8 6 1 5 2 6 b 5 3 h 1 3 3 h 1 j 1",
   "4 1 5 2 t a 8 6 t a a 6 t 6 h 1 c 4 h 3 5 1 q 1 5 a 8 6 t z 4 1 3 1h 4 7 t 5 4 2 5 y 4 1 5",
   "1 4 5 t 1y 4 a t v 4 1 t 3 5 4 6 2 5 3 6 4 t 2 6 1 5 6 6 3 5 4 t 1 l 3 t 2 h a 8 u 4 2 t 5",
   "4 b t 18 4 4 t q 4 6 t a 8 1 a 3 t y l n 4 2 5 2 6 1 5 2 t 2 h 1h 4 1 6 1 5 1 6 7 5 1 t 1 5",
   "1 6 1 5 2 6 8 5 6 6 a 5 2 t 1 5 a 8 6 t a 8 6 t 7 h 1 3 6 h 2 t e 5 1 7 v 5 2 t c 5 k t 4 5",
   "1 6 1b 4 1 5 1 6 5 5 1 6 1 5 5 6 1 5 2 6 8 4 1 t 2 h a 8 7 h a l 9 5 9 l 3 h 2 5 1 6 u 4 1",
   "6 4 5 2 6 2 5 1 6 3 5 2 4 a 8 18 4 1 5 1 6 2 5 3 6 1 5 1 6 3 5 2 6 8 t 4 h 10 4 8 6 8 5 2 6",
   "2 5 3 t 5 h a 8 3 t 3 4 a 8 u 4 6 3 2 h 9 1 1 0 1 1 5 t 17 0 2 t 3 0 8 h 8 t 3 5 1 h d 5 1",
   "6 7 5 4 4 1 5 6 4 1 5 2 4 1 6 2 5 1 4 5 t 18 1 1r 3 d 1 1 3 y 1 11 3 1s 5 1 0 1 1 1 0 1 1 1",
   "0 1 1 1 0 1 1 1 0 1 1 1 0 1 1 1 0 1 1 1 0 1 1 1 0 1 1 1 0 1 1 1 0 1 1 1 0 1 1 1 0 1 1 1 0 1",
   "1 1 0 1 1 1 0 1 1 1 0 1 1 1 0 1 1 1 0 1 1 1 0 1 1 1 0 1 1 1 0 1 1 1 0 1 1 1 0 1 1 1 0 1 1 1",
   "0 1 1 1 0 1 1 1 0 1 1 1 0 1 1 1 0 1 1 1 0 1 1 1 0 1 1 1 0 1 1 1 0 1 1 1 0 1 1 1 0 1 1 1 0 1",
   "1 1 0 1 1 1 0 1 1 1 0 1 1 1 0 1 1 1 0 1 1 1 0 1 1 1 0 1 1 1 0 1 1 1 0 1 1 1 0 1 1 1 0 1 1 1",
   "0 1 1 1 0 1 1 1 0 1 1 1 0 1 1 1 0 1 1 1 0 1 1 1 0 1 1 1 0 1 1 1 0 1 1 1 0 1 1 1 0 1 1 1 0 1",
   "1 1 0 1 1 1 0 1 1 1 0 1 1 1 0 1 1 1 0 1 1 1 0 1 1 1 0 1 1 1 0 1 1 1 0 1 1 1 0 1 1 1 0 1 1 1",
   "0 1 1 1 0 1 1 1 0 1 1 1 0 9 1 1 0 1 1 1 0 1 1 1 0 1 1 1 0 1 1 1 0 1 1 1 0 1 1 1 0 1 1 1 0 1",
   "1 1 0 1 1 1 0 1 1 1 0 1 1 1 0 1 1 1 0 1 1 1 0 1 1 1 0 1 1 1 0 1 1 1 0 1 1 1 0 1 1 1 0 1 1 1",
   "0 1 1 1 0 1 1 1 0 1 1 1 0 1 1 1 0 1 1 1 0 1 1 1 0 1 1 1 0 1 1 1 0 1 1 1 0 1 1 1 0 1 1 1 0 1",
   "1 1 0 1 1 1 0 1 1 1 0 1 1 1 0 1 1 1 0 1 1 1 0 1 1 1 0 1 1 1 0 1 1 1 0 1 1 1 0 1 1 1 0 1 1 1",
   "0 1 1 1 0 1 1 1 0 1 1 1 0 1 1 1 0 1 1 1 0 1 1 1 0 9 1 8 0 6 1 2 t 6 0 2 t 8 1 8 0 8 1 8 0 6",
   "1 2 t 6 0 2 t 8 1 1 t 1 0 1 t 1 0 1 t 1 0 1 t 1 0 8 1 8 0 e 1 2 t 8 1 8 2 8 1 8 2 8 1 8 2 5",
   "1 1 t 2 1 4 0 1 2 1 k 1 1 3 k 3 1 1 t 2 1 4 0 1 2 3 k 4 1 2 t 2 1 4 0 1 t 3 k 8 1 5 0 3 k 2",
   "t 3 1 1 t 2 1 4 0 1 2 2 k 1 t b m 5 q 6 c 2 h 1 f 1 g 1 d 2 f 1 g 1 d 1 f 8 h 1 n 1 o 5 q 1",
   "m 9 h 1 f 1 g 4 h 2 b 3 h 1 i 1 d 1 e b h 1 i 1 h 1 b a h 1 m 5 q 1 t a q 1 a 1 3 2 t 6 a 3",
   "i 1 d 1 e 1 3 a a 3 i 1 d 1 e 1 t d 3 3 t y j e t d 5 4 7 1 5 3 7 c 5 f t 2 l 1 0 4 l 1 0 2",
   "l 1 1 3 0 2 1 3 0 1 1 1 l 1 0 2 l 1 i 5 0 6 l 1 0 1 l 1 0 1 l 1 0 1 l 4 0 1 l 1 1 4 0 1 1 4",
   "4 1 1 2 l 2 1 2 0 5 i 1 0 4 1 1 l 1 i 2 l 1 1 1 l g a z 9 1 0 1 1 4 9 1 a 2 l 4 t 5 i 5 l 2",
   "i 4 l 1 i 2 l 1 i 2 l 1 i 7 l 1 i v l 2 i 2 l 1 i 1 l 1 i v l 7g i 8 l 1 d 1 e 1 d 1 e k l",
   "2 i 7 l 1 d 1 e 29 l 1 i u l p i 14 l 6 i 20 l m t b l l t 1o a 26 l m a 53 l 1 i 9 l 1 i",
   "1i l 8 i 33 l 1 i 6w l 1 d 1 e 1 d 1 e 1 d 1 e 1 d 1 e 1 d 1 e 1 d 1 e 1 d 1 e u a 18 l 5 i",
   "1 d 1 e v i 1 d 1 e 1 d 1 e 1 d 1 e 1 d 1 e 1 d 1 e g i 74 l 3n i 1 d 1 e 1 d 1 e 1 d 1 e 1",
   "d 1 e 1 d 1 e 1 d 1 e 1 d 1 e 1 d 1 e 1 d 1 e 1 d 1 e 1 d 1 e 1r i 1 d 1 e 1 d 1 e w i 1 d",
   "1 e 76 i 1c l l i 2 l 6 i 13 l 2 t 3u l 1c 0 1c 1 1 0 1 1 3 0 2 1 1 0 1 1 1 0 1 1 1 0 1 1 4",
   "0 1 1 1 0 2 1 1 0 6 1 2 3 3 0 1 1 1 0 1 1 1 0 1 1 1 0 1 1 1 0 1 1 1 0 1 1 1 0 1 1 1 0 1 1 1",
   "0 1 1 1 0 1 1 1 0 1 1 1 0 1 1 1 0 1 1 1 0 1 1 1 0 1 1 1 0 1 1 1 0 1 1 1 0 1 1 1 0 1 1 1 0 1",
   "1 1 0 1 1 1 0 1 1 1 0 1 1 1 0 1 1 1 0 1 1 1 0 1 1 1 0 1 1 1 0 1 1 1 0 1 1 1 0 1 1 1 0 1 1 1",
   "0 1 1 1 0 1 1 1 0 1 1 1 0 1 1 1 0 1 1 1 0 1 1 1 0 1 1 1 0 1 1 1 0 1 1 1 0 1 1 1 0 1 1 1 0 1",
   "1 1 0 1 1 1 0 1 1 1 0 1 1 1 0 1 1 1 0 1 1 1 0 1 1 1 0 2 1 6 l 1 0 1 1 1 0 1 1 3 5 1 0 1 1 5",
   "t 4 h 1 a 2 h 12 1 1 t 1 1 5 t 1 1 2 t 1k 4 7 t 1 3 1 h e t 1 5 n 4 9 t 7 4 1 t 7 4 1 t 7 4",
   "1 t 7 4 1 t 7 4 1 t 7 4 1 t 7 4 1 t 7 4 1 t w 5 2 h 1 f 1 g 1 f 1 g 3 h 1 f 1 g 1 h 1 f 1 g",
   "9 h 1 c 2 h 1 c 1 h 1 f 1 g 2 h 1 f 1 g 1 d 1 e 1 d 1 e 1 d 1 e 1 d 1 e 5 h 1 3 a h 2 c 4 h",
   "1 c 1 h 1 d d h 2 l 3 h 1 d 1 e 1 d 1 e 1 d 1 e 1 d 1 e 1 c y t q l 1 t 2h l c t 5y l q t g",
   "l 1 m 3 h 1 l 1 3 1 4 1 9 1 d 1 e 1 d 1 e 1 d 1 e 1 d 1 e 1 d 1 e 2 l 1 d 1 e 1 d 1 e 1 d 1",
   "e 1 d 1 e 1 c 1 d 2 e 1 l 9 9 4 5 2 6 1 c 5 3 2 l 3 9 1 3 1 4 1 h 2 l 1 t 2e 4 2 t 2 5 2 k",
   "2 3 1 4 1 c 2i 4 1 h 3 3 1 4 5 t 17 4 1 t 2m 4 1 t 2 l 4 a a l w 4 12 l 9 t 1 l g 4 v l 1 t",
   "a a u l 8 a 1 l f a w l a a 13 l f a 8w l 534 4 1s l g7p 4 1 3 vr 4 3 t 1j l 9 t 14 4 6 3 2",
   "h 7g 4 1 3 3 h g 4 a 8 2 4 k t 1 0 1 1 1 0 1 1 1 0 1 1 1 0 1 1 1 0 1 1 1 0 1 1 1 0 1 1 1 0",
   "1 1 1 0 1 1 1 0 1 1 1 0 1 1 1 0 1 1 1 0 1 1 1 0 1 1 1 0 1 1 1 0 1 1 1 0 1 1 1 0 1 1 1 0 1 1",
   "1 0 1 1 1 0 1 1 1 0 1 1 1 0 1 1 1 4 1 5 3 7 1 h a 5 1 h 1 3 1 0 1 1 1 0 1 1 1 0 1 1 1 0 1 1",
   "1 0 1 1 1 0 1 1 1 0 1 1 1 0 1 1 1 0 1 1 1 0 1 1 1 0 1 1 1 0 1 1 1 0 1 1 1 0 1 1 2 3 2 5 1y",
   "4 a 9 2 5 6 h 8 t n k 9 3 2 k 1 0 1 1 1 0 1 1 1 0 1 1 1 0 1 1 1 0 1 1 1 0 1 1 1 0 3 1 1 0 1",
   "1 1 0 1 1 1 0 1 1 1 0 1 1 1 0 1 1 1 0 1 1 1 0 1 1 1 0 1 1 1 0 1 1 1 0 1 1 1 0 1 1 1 0 1 1 1",
   "0 1 1 1 0 1 1 1 0 1 1 1 0 1 1 1 0 1 1 1 0 1 1 1 0 1 1 1 0 1 1 1 0 1 1 1 0 1 1 1 0 1 1 1 0 1",
   "1 1 0 1 1 1 0 1 1 1 0 1 1 1 0 1 1 1 0 1 1 1 0 1 1 1 0 1 1 1 3 8 1 1 0 1 1 1 0 1 1 2 0 1 1 1",
   "0 1 1 1 0 1 1 1 0 1 1 1 0 1 1 1 3 2 k 1 0 1 1 1 0 1 1 1 4 1 0 1 1 1 0 3 1 1 0 1 1 1 0 1 1 1",
   "0 1 1 1 0 1 1 1 0 1 1 1 0 1 1 1 0 1 1 1 0 1 1 1 0 1 1 1 0 1 1 5 0 1 1 5 0 1 1 1 0 1 1 1 0 1",
   "1 1 0 1 1 1 0 1 1 1 0 1 1 1 0 1 1 1 0 1 1 4 0 1 1 1 0 1 1 2 0 1 1 1 0 1 1 1 0 1 1 1 0 1 1 1",
   "0 1 1 1 0 1 1 1 0 1 1 1 0 1 1 1 0 k t 4 3 1 0 1 1 1 4 2 3 1 1 7 4 1 5 3 4 1 5 4 4 1 5 n 4 2",
   "6 2 5 1 6 4 l 1 5 3 t 6 a 2 l 1 j 1 l 6 t 1g 4 4 h 8 t 2 6 1e 4 g 6 2 5 8 t 2 h a 8 6 t i 5",
   "6 4 3 h 1 4 1 h 2 4 1 5 a 8 s 4 8 5 2 h n 4 b 5 2 6 b t 1 h t 4 3 t 3 5 1 6 1b 4 1 5 2 6 4",
   "5 2 6 2 5 3 6 d h 1 t 1 3 a 8 4 t 2 h 5 4 1 5 1 3 9 4 a 8 5 4 1 t 15 4 6 5 2 6 2 5 2 6 2 5",
   "9 t 3 4 1 5 8 4 1 5 1 6 2 t a 8 2 t 4 h g 4 1 3 6 4 3 l 1 4 1 6 1 5 1 6 1e 4 1 5 1 4 3 5 2",
   "4 2 5 5 4 2 5 1 4 1 5 1 4 o t 2 4 1 3 2 h b 4 1 6 2 5 2 6 2 h 1 4 2 3 1 6 1 5 a t 6 4 2 t 6",
   "4 2 t 6 4 9 t 7 4 1 t 7 4 1 t 17 1 1 k 4 3 9 1 1 3 2 k 4 t 28 1 z 4 2 6 1 5 2 6 1 5 2 6 1 h",
   "1 6 1 5 2 t a 8 6 t 8mc 4 c t n 4 4 t 1d 4 4 t 1kw r 4xs s a6 4 2 t 2y 4 12 t 7 1 c t 5 1 5",
   "t 1 4 1 5 a 4 1 i d 4 1 t 5 4 1 t 1 4 1 t 2 4 1 t 2 4 1 t 30 4 h k g l a3 4 1 e 1 d g l 1s",
   "4 2 l 1i 4 8 l w t c 4 1 j 3 l g 5 7 h 1 d 1 e 1 h 6 t g 5 1 h 2 c 2 b 1 d 1 e 1 d 1 e 1 d",
   "1 e 1 d 1 e 1 d 1 e 1 d 1 e 1 d 1 e 1 d 1 e 2 h 1 d 1 e 4 h 3 b 3 h 1 t 4 h 1 c 1 d 1 e 1 d",
   "1 e 1 d 1 e 3 h 1 i 1 c 3 i 1 t 1 h 1 j 2 h 4 t 5 4 1 t 3r 4 2 t 1 q 1 t 3 h 1 j 3 h 1 d 1",
   "e 1 h 1 i 1 h 1 c 2 h a 8 2 h 3 i 2 h q 0 1 d 1 h 1 e 1 k 1 b 1 k q 1 1 d 1 i 1 e 1 i 1 d 1",
   "e 1 h 1 d 1 e 2 h a 4 1 3 19 4 2 3 v 4 3 t 6 4 2 t 6 4 2 t 6 4 2 t 3 4 3 t 2 j 1 i 1 k 1 l",
   "2 j 1 t 1 l 4 i 2 l a t 3 q 2 l 2 t c 4 1 t q 4 1 t j 4 1 t 2 4 1 t f 4 2 t e 4 y t 3f 4 5",
   "t 3 h 4 t 19 a 3 t 9 l 1h 9 4 a h l 2 a 3 l 1 t d l 3 t 1 l 1b t 19 l 1 5 3m t t 4 3 t 1d 4",
   "f t 1 5 r a 4 t w 4 4 a 9 t k 4 1 9 8 4 1 9 5 t 12 4 5 5 5 t u 4 1 t 1 h 10 4 4 t 8 4 1 h 5",
   "9 16 t 14 0 14 1 26 4 2 t a 8 6 t 10 0 4 t 10 1 4 t 14 4 8 t 1g 4 b t 1 h b 0 1 t f 0 1 t 7",
   "0 1 t 2 0 1 t b 1 1 t f 1 1 t 7 1 1 t 2 1 3 t 1g 4 c t 8n 4 9 t m 4 a t 8 4 o t 6 3 1 t 16",
   "3 1 t 9 3 1x t 6 4 2 t 1 4 1 t 18 4 1 t 2 4 3 t 1 4 2 t n 4 1 t 1 h 8 a n 4 2 l 7 a v 4 8 t",
   "9 a 1c t j 4 1 t 2 4 5 t 5 a m 4 6 a 3 t 1 h q 4 5 t 1 h q 4 12 t 1k 4 4 t 2 a 2 4 g a 2 t",
   "1a a 1 4 3 5 1 t 2 5 5 t 4 5 4 4 1 t 3 4 1 t t 4 2 t 3 5 4 t 1 5 9 a 7 t 9 h 7 t t 4 2 a 1",
   "h t 4 3 a w t 8 4 1 l s 4 2 5 4 t 5 a 7 h 9 t 1i 4 3 t 7 h m 4 2 t 8 a j 4 5 t 8 a i 4 7 t",
   "4 h c t 7 a 28 t 21 4 1j t 1f 0 d t 1f 1 7 t 6 a 10 4 4 5 8 t a 8 6 t a 8 4 4 1 3 1 4 m 0 3",
   "t 5 5 1 c 1 3 m 1 8 t 2 i 5s t v a 1 t 16 4 1 t 2 5 1 c 2 t 2 4 g t 3 4 1 3 2 4 8 t 1 h 8 l",
   "x t 6 5 t 4 a a 1 4 8 t m 4 b 5 4 a 5 h m t i 4 4 5 4 h 12 t l 4 7 a k t n 4 9 t 1 6 1 5 1",
   "6 1h 4 f 5 7 h 4 t k a a 8 1 5 2 4 2 5 1 4 9 t 3 5 1 6 19 4 3 6 4 5 2 6 2 5 2 h 1 q 4 h 1 5",
   "a t 1 q 2 t p 4 7 t a 8 6 t 3 5 10 4 5 5 1 6 8 5 1 t a 8 4 h 1 4 2 6 1 4 8 t z 4 1 5 2 h 1",
   "4 9 t 2 5 1 6 1c 4 3 6 9 5 2 6 4 4 4 h 4 5 1 h 1 6 1 5 a 8 1 4 1 h 1 4 3 h 1 t k a b t i 4",
   "1 t p 4 3 6 3 5 2 6 1 5 1 6 2 5 6 h 1 5 2 4 1 5 1q t 7 4 1 t 1 4 1 t 4 4 1 t f 4 1 t a 4 1",
   "h 6 t 1b 4 1 5 3 6 8 5 5 t a 8 6 t 2 5 2 6 1 t 8 4 2 t 2 4 2 t m 4 1 t 7 4 1 t 2 4 1 t 5 4",
   "1 t 2 5 1 4 2 6 1 5 4 6 2 t 2 6 2 t 3 6 2 t 1 4 6 t 1 6 5 t 5 4 2 6 2 t 7 5 3 t 5 5 b t a 4",
   "1 t 1 4 2 t 1 4 1 t 12 4 1 t 1 4 3 6 6 5 1 t 1 6 2 t 1 6 1 t 4 6 1 t 2 6 1 5 1 6 1 5 1 4 1",
   "5 1 4 2 h 1 t 2 h 8 t 2 5 t t 1h 4 3 6 8 5 2 6 3 5 1 6 1 5 4 4 5 h a 8 2 h 1 t 1 h 1 5 3 4",
   "u t 1c 4 3 6 6 5 1 6 1 5 4 6 2 5 1 6 2 5 2 4 1 h 1 4 8 t a 8 4m t 1b 4 3 6 4 5 2 t 4 6 2 5",
   "1 6 2 5 n h 4 4 2 5 y t 1c 4 3 6 8 5 2 6 1 5 1 6 2 5 3 h 1 4 b t a 8 6 t d h j t 17 4 1 5 1",
   "6 1 5 2 6 6 5 1 6 1 5 1 4 1 h 6 t a 8 6 t k 8 s t r 4 2 t 1 5 1 6 1 5 2 6 4 5 1 6 5 5 4 t a",
   "8 2 a 3 h 1 l 7 4 55 t 18 4 3 6 9 5 1 6 2 5 1 h 2s t w 0 w 1 a 8 9 a c t 8 4 2 t 1 4 2 t 8",
   "4 1 t 2 4 1 t o 4 6 6 1 t 2 6 2 t 2 5 1 6 1 5 1 4 1 6 1 4 1 6 1 5 3 h 9 t a 8 1y t 8 4 2 t",
   "13 4 3 6 4 5 2 t 2 5 4 6 1 5 1 4 1 h 1 4 1 6 r t 1 4 a 5 14 4 6 5 1 6 1 4 4 5 8 h 1 5 8 t 1",
   "4 6 5 2 6 3 5 1a 4 d 5 1 6 2 5 3 h 1 4 5 h d t 21 4 7 t a h 2e t 1 5 1 6 3 5 1 6 1 5 1 6 2g",
   "t x 4 1 h e t a 8 6 t 9 4 1 t 11 4 1 6 7 5 1 t 6 5 1 6 1 5 1 4 5 h a t a 8 j a 3 t 2 h u 4",
   "2 t m 5 1 t 1 6 7 5 1 6 2 5 1 6 2 5 21 t 7 4 1 t 2 4 1 t 12 4 6 5 3 t 1 5 1 t 2 5 1 t 7 5 1",
   "4 1 5 8 t a 8 6 t 6 4 1 t 2 4 1 t w 4 5 6 1 t 2 5 1 t 2 6 1 5 1 6 1 5 1 4 7 t a 8 6 t 15 4",
   "1 3 2 4 4 t a 8 6u t j 4 2 5 2 6 2 h 7 t 2 5 1 4 1 6 d 4 1 t y 4 2 6 5 5 3 t 2 6 1 5 1 6 1",
   "5 d h a 8 1 5 2d t 1 4 f t l a 8 l 4 j h l d t 1 h pm 4 2u t 33 9 1 t 5 h b t 5g 4 218 t 2p",
   "4 2 h d t ts 4 g q 1 5 6 4 f 5 a t 32z 4 5 t g7 4 5a1 t u 4 c 5 3 6 3 5 a 8 1c6 t ft 4 7 t",
   "v 4 1 t a 8 4 t 2 h 27 4 1 t a 8 6 t u 4 2 t 5 5 1 h a t 1c 4 7 5 5 h 4 l 4 3 1 h 1 l a t a",
   "8 1 t 7 a 1 t l 4 5 t j 4 c0 t 3 3 14 4 2 3 3 h a 8 5i t w 0 w 1 n a 4 h 5 t p 0 2 t p 1 18",
   "t 23 4 4 t 1 5 1 4 1j 6 7 t 4 5 d 3 1s t 2 3 1 h 1 3 1 5 b t 2 6 2 3 3 9 9 t 5p2 4 15 t w 4",
   "2p t 37 4 6pp t 4 3 1 t 7 3 1 t 2 3 1 t 83 4 f t 1 4 t t 3 4 2 t 1 4 e t 4 4 8 t b0 4 1s4 t",
   "2z 4 5 t d 4 3 t 9 4 7 t a 4 2 t 1 l 2 5 1 h 4 q 318 t 6o l a 8 3 l 3 t c4 l 6 t n l f t g",
   "l 1 i f t 1a 5 2 t n 5 9 t 38 l 1o t 6u l a t 13 l 2 t 1o l 2 6 3 5 3 l 6 6 8 q 8 5 2 l 7 5",
   "u l 4 5 1p l l t 1u l 3 5 1 l 3e t k a c t k a c t 2f l 9 t p a 3r t q 0 q 1 q 0 7 1 1 t i",
   "1 q 0 q 1 1 0 1 t 2 0 2 t 1 0 2 t 2 0 2 t 4 0 1 t 8 0 4 1 1 t 1 1 1 t 7 1 1 t b 1 q 0 q 1 2",
   "0 1 t 4 0 2 t 8 0 1 t 7 0 1 t q 1 2 0 1 t 4 0 1 t 5 0 1 t 1 0 3 t 7 0 1 t q 1 q 0 q 1 q 0 q",
   "1 q 0 q 1 q 0 q 1 q 0 q 1 q 0 s 1 2 t p 0 1 i p 1 1 i 6 1 p 0 1 i p 1 1 i 6 1 p 0 1 i p 1 1",
   "i 6 1 p 0 1 i p 1 1 i 6 1 p 0 1 i p 1 1 i 6 1 1 0 1 1 2 t 1e 8 e8 l 1j 5 4 l 1e 5 8 l 1 5 e",
   "l 1 5 2 l 5 h f t 5 5 1 t f 5 uo t a 1 1 4 k 1 6 t 6 1 5x t 7 5 1 t h 5 2 t 7 5 1 t 2 5 1 t",
   "5 5 5 t 1q 3 x t 1 5 34 t 19 4 3 t 7 5 7 3 2 t a 8 4 t 1 4 1 l 8w t u 4 1 5 h t 18 4 4 5 a",
   "8 5 t 1 j cw t r 4 1 3 4 5 a 8 5y t u 4 2 5 1 4 a 8 4 t 1 h 5c t v 4 1 t 3 4 1 5 2 4 1 5 7",
   "4 2 5 5 4 1 5 8 t 1 4 1 3 68 t 7 4 1 t 4 4 1 t 2 4 1 t f 4 1 t 5h 4 2 t 9 a 7 5 15 t y 0 y",
   "1 7 5 1 3 4 t a 8 4 t 2 h lt t 1n a 1 l 3 a 1 j 4 a 24 t 19 a 1 l f a 5e t 4 4 1 t r 4 1 t",
   "2 4 1 t 1 4 2 t 1 4 1 t a 4 1 t 4 4 1 t 1 4 1 t 1 4 6 t 1 4 4 t 1 4 1 t 1 4 1 t 1 4 1 t 3 4",
   "1 t 2 4 1 t 1 4 2 t 1 4 1 t 1 4 1 t 1 4 1 t 1 4 1 t 1 4 1 t 2 4 1 t 1 4 2 t 4 4 1 t 7 4 1 t",
   "4 4 1 t 4 4 1 t 1 4 1 t a 4 1 t h 4 5 t 3 4 1 t 5 4 1 t h 4 1g t 2 i 7i t 18 l 4 t 2s l c t",
   "f l 2 t f l 1 t f l 1 t 11 l a t d a 4h l 1k t t l d t 18 l 4 t 9 l 7 t 2 l e t 6 l 4a t 6z",
   "l 5 k k9 l 3 t h l 3 t d l 3 t 62 l 6 t c l 4 t 1 l f t c l 4 t 1k l 8 t a l 6 t 14 l 8 t u",
   "l 2 t c l 4 t 2 l e t 9 i 13 t 9k l 8 t e l 2 t d l 3 t b l 3 t 1l l 1 t 1 l 4 t g l 2 t c",
   "l 4 t a l 7 t 43 l 1 t 2k l a 8 1 l sl t wyo 4 w t 3dq 4 2 t 4ge 4 2 t 5rl 4 f t ha 4 1wi t",
   "f2 4 15u t 3t7 4 5 t 6ju 4 f5vr t 1 q u t 2o q 3k t 6o 5 1e6o t 1eke s 2 t 1eke s 2 t"]

def runs : List (Nat × Nat) :=
  pairs (numbers table)

/-- The characters whose category has one of the given two-letter names. -/
def charSet (wanted : List String) : CharSet :=
  let places := (names.zipIdx.filter fun (n, _) => wanted.contains n).map (·.2)
  runSet (fun place => places.contains place) 0 runs

end Harvest.Text.Category
