import Harvest.Text.CharSet
/-!
Scripts of Unicode. The table lists runs of code points in order, each by its length and one more
than the place of its script in `Script.names`, with zero for code points of no script.
-/

namespace Harvest.Text.Script

/-- The scripts, each by its long name and its short names. -/
def names : List (List String) :=
  [["adlam", "adlm"], ["ahom"], ["anatolianhieroglyphs", "hluw"], ["arabic", "arab"],
   ["armenian", "armn"], ["avestan", "avst"], ["balinese", "bali"], ["bamum", "bamu"],
   ["bassavah", "bass"], ["batak", "batk"], ["bengali", "beng"], ["bhaiksuki", "bhks"],
   ["bopomofo", "bopo"], ["brahmi", "brah"], ["braille", "brai"], ["buginese", "bugi"],
   ["buhid", "buhd"], ["canadianaboriginal", "cans"], ["carian", "cari"],
   ["caucasianalbanian", "aghb"], ["chakma", "cakm"], ["cham"], ["cherokee", "cher"],
   ["chorasmian", "chrs"], ["common", "zyyy"], ["coptic", "copt", "qaac"], ["cuneiform", "xsux"],
   ["cypriot", "cprt"], ["cyprominoan", "cpmn"], ["cyrillic", "cyrl"], ["deseret", "dsrt"],
   ["devanagari", "deva"], ["divesakuru", "diak"], ["dogra", "dogr"], ["duployan", "dupl"],
   ["egyptianhieroglyphs", "egyp"], ["elbasan", "elba"], ["elymaic", "elym"], ["ethiopic", "ethi"],
   ["garay", "gara"], ["georgian", "geor"], ["glagolitic", "glag"], ["gothic", "goth"],
   ["grantha", "gran"], ["greek", "grek"], ["gujarati", "gujr"], ["gunjalagondi", "gong"],
   ["gurmukhi", "guru"], ["gurungkhema", "gukh"], ["han", "hani"], ["hangul", "hang"],
   ["hanifirohingya", "rohg"], ["hanunoo", "hano"], ["hatran", "hatr"], ["hebrew", "hebr"],
   ["hiragana", "hira"], ["imperialaramaic", "armi"], ["inherited", "zinh", "qaai"],
   ["inscriptionalpahlavi", "phli"], ["inscriptionalparthian", "prti"], ["javanese", "java"],
   ["kaithi", "kthi"], ["kannada", "knda"], ["katakana", "kana"], ["kawi"], ["kayahli", "kali"],
   ["kharoshthi", "khar"], ["khitansmallscript", "kits"], ["khmer", "khmr"], ["khojki", "khoj"],
   ["khudawadi", "sind"], ["kiratrai", "krai"], ["lao", "laoo"], ["latin", "latn"],
   ["lepcha", "lepc"], ["limbu", "limb"], ["lineara", "lina"], ["linearb", "linb"], ["lisu"],
   ["lycian", "lyci"], ["lydian", "lydi"], ["mahajani", "mahj"], ["makasar", "maka"],
   ["malayalam", "mlym"], ["mandaic", "mand"], ["manichaean", "mani"], ["marchen", "marc"],
   ["masaramgondi", "gonm"], ["medefaidrin", "medf"], ["meeteimayek", "mtei"],
   ["mendekikakui", "mend"], ["meroiticcursive", "merc"], ["meroitichieroglyphs", "mero"],
   ["miao", "plrd"], ["modi"], ["mongolian", "mong"], ["mro", "mroo"], ["multani", "mult"],
   ["myanmar", "mymr"], ["nabataean", "nbat"], ["nagmundari", "nagm"], ["nandinagari", "nand"],
   ["newtailue", "talu"], ["newa"], ["nko", "nkoo"], ["nushu", "nshu"],
   ["nyiakengpuachuehmong", "hmnp"], ["ogham", "ogam"], ["olchiki", "olck"], ["olonal", "onao"],
   ["oldhungarian", "hung"], ["olditalic", "ital"], ["oldnortharabian", "narb"],
   ["oldpermic", "perm"], ["oldpersian", "xpeo"], ["oldsogdian", "sogo"],
   ["oldsoutharabian", "sarb"], ["oldturkic", "orkh"], ["olduyghur", "ougr"], ["oriya", "orya"],
   ["osage", "osge"], ["osmanya", "osma"], ["pahawhhmong", "hmng"], ["palmyrene", "palm"],
   ["paucinhau", "pauc"], ["phagspa", "phag"], ["phoenician", "phnx"], ["psalterpahlavi", "phlp"],
   ["rejang", "rjng"], ["runic", "runr"], ["samaritan", "samr"], ["saurashtra", "saur"],
   ["sharada", "shrd"], ["shavian", "shaw"], ["siddham", "sidd"], ["signwriting", "sgnw"],
   ["sinhala", "sinh"], ["sogdian", "sogd"], ["sorasompeng", "sora"], ["soyombo", "soyo"],
   ["sundanese", "sund"], ["sunuwar", "sunu"], ["sylotinagri", "sylo"], ["syriac", "syrc"],
   ["tagalog", "tglg"], ["tagbanwa", "tagb"], ["taile", "tale"], ["taitham", "lana"],
   ["taiviet", "tavt"], ["takri", "takr"], ["tamil", "taml"], ["tangsa", "tnsa"],
   ["tangut", "tang"], ["telugu", "telu"], ["thaana", "thaa"], ["thai"], ["tibetan", "tibt"],
   ["tifinagh", "tfng"], ["tirhuta", "tirh"], ["todhri", "todr"], ["toto"],
   ["tulutigalari", "tutg"], ["ugaritic", "ugar"], ["vai", "vaii"], ["vithkuqi", "vith"],
   ["wancho", "wcho"], ["warangciti", "wara"], ["yezidi", "yezi"], ["yi", "yiii"],
   ["zanabazarsquare", "zanb"]]

def table : List String :=
  ["1t p q 22 6 p q 22 1b p 1 22 f p 1 22 5 p n 22 1 p v 22 1 p ch 22 13 p 5 22 5 p 2 d k p 34",
   "1m 4 19 1 p 3 19 2 0 4 19 1 p 1 19 4 0 1 19 1 p 1 19 1 p 3 19 1 0 1 19 1 0 k 19 1 0 1r 19 e",
   "q g 19 3p u 2 1m 4p u 1 0 12 5 2 0 1e 5 2 0 3 5 1 0 1j 1j 8 0 r 1j 4 0 6 1j b 0 5 4 1 p 6 4",
   "1 p e 4 1 p 3 4 1 p w 4 1 p a 4 b 1m q 4 1 1m 30 4 1 p y 4 e 40 1 0 1o 40 2 0 3 40 1c 4 1e",
   "4b e 0 1n 2x 2 0 3 2x 1a 3n 2 0 f 3n 1 0 s 2d 2 0 1 2d 1 0 b 40 5 0 y 4 5 0 23 4 1 p t 4 29",
   "w 4 1m f w 2 p q w 4 b 1 0 8 b 2 0 2 b 2 0 m b 1 0 7 b 1 0 1 b 3 0 4 b 2 0 9 b 2 0 2 b 2 0",
   "4 b 8 0 1 b 4 0 2 b 1 0 5 b 2 0 p b 2 0 3 1c 1 0 6 1c 4 0 2 1c 2 0 m 1c 1 0 7 1c 1 0 2 1c 1",
   "0 2 1c 1 0 2 1c 2 0 1 1c 1 0 5 1c 4 0 2 1c 2 0 3 1c 3 0 1 1c 7 0 4 1c 1 0 1 1c 7 0 h 1c a 0",
   "3 1a 1 0 9 1a 1 0 3 1a 1 0 m 1a 1 0 7 1a 1 0 2 1a 1 0 5 1a 2 0 a 1a 1 0 3 1a 1 0 3 1a 2 0 1",
   "1a f 0 4 1a 2 0 c 1a 7 0 7 1a 1 0 3 3c 1 0 8 3c 2 0 2 3c 2 0 m 3c 1 0 7 3c 1 0 2 3c 1 0 5",
   "3c 2 0 9 3c 2 0 2 3c 2 0 3 3c 7 0 3 3c 4 0 2 3c 1 0 5 3c 2 0 i 3c a 0 2 47 1 0 6 47 3 0 3",
   "47 1 0 4 47 3 0 2 47 1 0 1 47 1 0 2 47 3 0 2 47 3 0 3 47 3 0 c 47 4 0 5 47 3 0 3 47 1 0 4",
   "47 2 0 1 47 6 0 1 47 e 0 l 47 5 0 d 4a 1 0 3 4a 1 0 n 4a 1 0 g 4a 2 0 9 4a 1 0 3 4a 1 0 4",
   "4a 7 0 2 4a 1 0 3 4a 1 0 2 4a 2 0 4 4a 2 0 a 4a 7 0 9 4a d 1r 1 0 3 1r 1 0 n 1r 1 0 a 1r 1",
   "0 5 1r 2 0 9 1r 1 0 3 1r 1 0 4 1r 7 0 2 1r 5 0 3 1r 1 0 4 1r 2 0 a 1r 1 0 3 1r c 0 d 2c 1 0",
   "3 2c 1 0 1f 2c 1 0 3 2c 1 0 6 2c 4 0 g 2c 2 0 q 2c 1 0 3 3t 1 0 i 3t 3 0 o 3t 1 0 9 3t 1 0",
   "1 3t 2 0 7 3t 3 0 1 3t 4 0 6 3t 1 0 1 3t 1 0 8 3t 6 0 a 3t 2 0 3 3t c 0 1m 4c 4 0 1 p s 4c",
   "11 0 2 21 1 0 1 21 1 0 5 21 1 0 o 21 1 0 1 21 1 0 n 21 2 0 5 21 1 0 1 21 1 0 7 21 1 0 a 21",
   "2 0 4 21 w 0 20 4d 1 0 10 4d 4 0 13 4d 1 0 10 4d 1 0 f 4d 1 0 7 4d 4 p 2 4d 11 0 4g 2r 12",
   "15 1 0 1 15 5 0 1 15 2 0 17 15 1 p 4 15 74 1f 21 13 1 0 4 13 2 0 7 13 1 0 1 13 1 0 4 13 2 0",
   "15 13 1 0 4 13 2 0 x 13 1 0 4 13 2 0 7 13 1 0 1 13 1 0 4 13 2 0 f 13 1 0 1l 13 1 0 4 13 2 0",
   "1v 13 2 0 w 13 3 0 q 13 6 0 2e n 2 0 6 n 2 0 hs i t 30 3 0 23 3m 3 p b 3m 7 0 m 41 9 0 1 41",
   "l 1h 2 p 9 0 k h c 0 d 42 1 0 3 42 1 0 2 42 c 0 2m 1x 2 0 a 1x 6 0 a 1x 6 0 2 2o 2 p 1 2o 1",
   "p k 2o 6 0 2h 2o 7 0 17 2o 5 0 1y i a 0 v 24 1 0 c 24 4 0 c 24 4 0 1 24 3 0 c 24 u 43 2 0 5",
   "43 b 0 18 2v 4 0 q 2v 6 0 b 2v 3 0 2 2v w 1x s g 2 0 2 g 1r 44 1 0 t 44 2 0 b 44 6 0 a 44 6",
   "0 e 44 2 0 1a 1m 2 0 c 1m k 0 25 7 1 0 1e 7 1s 3x 1g a 8 0 4 a 1k 23 3 0 f 23 3 0 3 23 1c",
   "31 b u 5 0 17 15 2 0 3 15 8 3x 8 0 3 1m 1 p d 1m 1 p 7 1m 4 p 1 1m 6 p 1 1m 3 p 2 1m 1 p 5",
   "0 12 22 5 19 1 u 1d 22 5 19 4 22 5 19 d 22 1 u 1y 22 1 19 1s 1m 74 22 m 19 2 0 6 19 2 0 12",
   "19 2 0 6 19 2 0 8 19 1 0 1 19 1 0 1 19 1 0 1 19 1 0 v 19 2 0 1h 19 1 0 f 19 1 0 e 19 2 0 6",
   "19 1 0 j 19 2 0 3 19 1 0 9 19 1 0 c p 2 1m 2f p 1 0 b p 1 22 2 0 b p 1 22 f p 1 0 d 22 3 0",
   "y p e 0 x 1m f 0 12 p 1 19 3 p 2 22 6 p 1 22 r p 1 22 h p 15 22 3 p 4 0 ii p m 0 b p l 0 ps",
   "p 74 f hg p 2 0 3u p 2o 16 w 22 38 q 5 0 7 q 12 15 1 0 1 15 5 0 1 15 2 0 1k 4e 7 0 2 4e e 0",
   "1 4e n 13 9 0 7 13 1 0 7 13 1 0 7 13 1 0 7 13 1 0 7 13 1 0 7 13 1 0 7 13 1 0 7 13 1 0 w u",
   "2m p y 0 q 1e 1 0 2h 1e c 0 5y 1e q 0 l p 1 1e 1 p 1 1e p p 9 1e 4 1m 2 1f 8 p 4 1e 4 p 1 0",
   "2e 1k 2 0 2 1m 2 p 3 1k 1 p 2i 1s 2 p 3 1s 5 0 17 d 1 0 2m 1f 1 0 g p w d 12 p 9 0 1 p g 1s",
   "v 1f 1 0 1s p v 1f 29 p 1b 1s 1 p 2g 1s 4o p 534 1e 1s p g74 1e wd 4p 3 0 1j 4p 9 0 1c 27",
   "8c 4k k 0 2o u 2g 8 8 0 y p 2u 22 3 p 2a 22 k 0 f 22 19 3z 3 0 a p 6 0 1k 3i 8 0 1y 3o 8 0",
   "c 3o 6 0 w w 1a 1u 1 p 1 1u 10 3l b 0 1 3l t 1f 3 0 26 1p 1 0 1 p a 1p 4 0 2 1p v 2r 1 0 1j",
   "m 9 0 e m 2 0 a m 2 0 4 m w 2r 1v 45 o 0 5 45 n 2i a 0 6 13 2 0 6 13 2 0 6 13 9 0 7 13 1 0",
   "7 13 1 0 17 22 1 p 9 22 1 19 4 22 2 p 4 0 28 n 1a 2i 2 0 a 2i 6 0 8mc 1f c 0 n 1f 4 0 1d 1f",
   "6is 0 a6 1e 2 0 2y 1e 12 0 7 22 c 0 5 5 5 0 q 1j 1 0 5 1j 1 0 1 1j 1 0 2 1j 1 0 2 1j 1 0 a",
   "1j dq 4 2 p 40 4 w 0 g 4 g 1m a p 6 0 e 1m 2 u z p 1 0 j p 1 0 4 p 4 0 5 4 1 0 3r 4 2 0 1 p",
   "1 0 w p q 22 6 p q 22 b p a 1s 1 p 19 1s 2 p v 1f 3 0 6 1f 2 0 6 1f 2 0 6 1f 2 0 3 1f 3 0 7",
   "p 1 0 7 p a 0 5 p 2 0 c 26 1 0 q 26 1 0 j 26 1 0 2 26 1 0 f 26 2 0 e 26 y 0 3f 26 5 0 3 p 4",
   "0 19 p 3 0 9 p 27 19 1 0 d p 3 0 1 19 1b 0 19 p 1 1m 3m 0 t 28 3 0 1d j f 0 1 1m r p 4 0 10",
   "34 9 0 3 34 r 17 5 0 17 36 5 0 u 4j 1 0 1 4j 10 37 4 0 e 37 16 0 28 v 1c 3q u 3e 2 0 a 3e 6",
   "0 10 3d 4 0 10 3d 4 0 14 11 8 0 1g k b 0 1 k b 4l 1 0 f 4l 1 0 7 4l 1 0 2 4l 1 0 b 4l 1 0 f",
   "4l 1 0 7 4l 1 0 2 4l 3 0 1g 4g c 0 8n 25 9 0 m 25 a 0 8 25 o 0 6 22 1 0 16 22 1 0 9 22 1x 0",
   "6 s 2 0 1 s 1 0 18 s 1 0 2 s 3 0 1 s 2 0 1 s m 1l 1 0 9 1l w 3g v 2s 8 0 9 2s 1c 0 j 1i 1 0",
   "2 1i 5 0 5 1i s 3j 3 0 1 3j q 29 5 0 1 29 1s 0 w 2l o 2k 4 0 k 2k 2 0 1a 2k 4 1v 1 0 2 1v 5",
   "0 8 1v 1 0 3 1v 1 0 t 1v 2 0 3 1v 4 0 a 1v 7 0 9 1v 7 0 w 39 w 35 w 0 13 2e 4 0 c 2e 9 0 1i",
   "6 3 0 7 6 m 1o 2 0 8 1o j 1n 5 0 8 1n i 3k 7 0 4 3k c 0 7 3k 28 0 21 3a 1j 0 1f 33 d 0 1f",
   "33 7 0 6 33 14 1g 8 0 a 1g 6 0 12 14 3 0 t 14 8 0 2 14 5s 0 v 4 1 0 16 4o 1 0 3 4o 2 0 2 4o",
   "g 0 6 4 8 0 9 4 x 0 6 4 14 38 8 0 16 3u m 0 q 3b 12 0 s o k 0 n 12 9 0 26 e 4 0 10 e 9 0 1",
   "e 1v 1q a 0 1 1q 2 0 p 3v 7 0 a 3v 6 0 1h l 1 0 i l 8 0 13 2a 9 0 2o 3p 1 0 k 3t b 0 i 1y 1",
   "0 1b 1y 1q 0 7 2q 1 0 1 2q 1 0 4 2q 1 0 f 2q 1 0 b 2q 6 0 1n 1z 5 0 a 1z 6 0 4 18 1 0 8 18",
   "2 0 2 18 2 0 m 18 1 0 7 18 1 0 2 18 1 0 5 18 1 0 1 1m 9 18 2 0 2 18 2 0 3 18 2 0 1 18 6 0 1",
   "18 5 0 7 18 2 0 7 18 3 0 5 18 b 0 a 4i 1 0 1 4i 2 0 1 4i 1 0 12 4i 1 0 a 4i 1 0 1 4i 2 0 1",
   "4i 1 0 4 4i 1 0 a 4i 1 0 2 4i 8 0 2 4i t 0 2k 2w 1 0 5 2w u 0 20 4f 8 0 a 4f 4m 0 1i 3r 2 0",
   "12 3r y 0 1x 2n b 0 a 2n 6 0 d 2o j 0 1m 46 6 0 a 46 6 0 k 2r s 0 r 2 2 0 f 2 4 0 n 2 55 0",
   "1o y 2s 0 2b 4n c 0 1 4n 7 x 2 0 1 x 2 0 8 x 1 0 2 x 1 0 u x 1 0 2 x 2 0 c x 9 0 a x 1y 0 8",
   "2u 2 0 1a 2u 2 0 b 2u r 0 20 4q 8 0 2b 3w d 0 g i 1l 3h 7 0 a w 2e 0 8 3p 2g 0 y 3y e 0 a",
   "3y 6 0 9 c 1 0 19 c 1 0 e c a 0 t c 3 0 w 2f 2 0 m 2f 1 0 e 2f 21 0 7 2g 1 0 2 2g 1 0 18 2g",
   "3 0 1 2g 1 0 2 2g 1 0 9 2g 8 0 a 2g 6 0 6 1b 1 0 2 1b 1 0 11 1b 1 0 2 1b 1 0 6 1b 7 0 a 1b",
   "8m 0 p 2b 7 0 h 1t 1 0 15 1t 3 0 t 1t 2d 0 1 27 f 0 1e 47 d 0 1 47 pm r 2u 0 33 r 1 0 5 r b",
   "0 5g r 218 0 2r t d 0 uu 10 a 0 32z 10 5 0 g7 3 5a1 0 1m 1d 1c6 0 ft 8 7 0 v 2p 1 0 a 2p 4",
   "0 2 2p 27 48 1 0 a 48 6 0 u 9 2 0 6 9 a 0 1y 3f a 0 a 3f 1 0 7 3f 1 0 l 3f 5 0 j 3f c0 0 1m",
   "20 5i 0 2j 2h 2t 0 23 2m 4 0 1l 2m 7 0 h 2m 1s 0 1 49 1 2y 2 1e 1 1w b 0 7 1e 9 0 5c0 49 d2",
   "1w 15 0 1 1w v 49 2p 0 37 49 6pp 0 4 1s 1 0 7 1s 1 0 2 1s 1 0 1 1s 7z 1k 3 1s f 0 1 1k t 0",
   "3 1k 2 0 1 1s e 0 4 1s 8 0 b0 2y 1s4 0 2z z 5 0 d z 3 0 9 z 7 0 a z 2 0 4 z 4 p 318 0 71 p",
   "3 0 c4 p 6 0 n p f 0 h p f 0 1a 1m 2 0 n 1m 9 0 38 p 1o 0 6u p a 0 13 p 2 0 1q p 3 1m h p 8",
   "1m 2 p 7 1m u p 4 1m 1p p l 0 1y 19 3e 0 k p c 0 k p c 0 2f p 9 0 p p 3r 0 2d p 1 0 1z p 1",
   "0 2 p 2 0 1 p 2 0 2 p 2 0 4 p 1 0 c p 1 0 1 p 1 0 7 p 1 0 1t p 1 0 4 p 2 0 8 p 1 0 7 p 1 0",
   "s p 1 0 4 p 1 0 5 p 1 0 1 p 3 0 7 p 1 0 9g p 2 0 84 p 2 0 1e p i4 3s f 0 5 3s 1 0 f 3s uo 0",
   "v 22 6 0 6 22 5x 0 7 16 1 0 h 16 2 0 7 16 1 0 2 16 1 0 5 16 5 0 1q u x 0 1 u 34 0 19 2z 3 0",
   "e 2z 2 0 a 2z 4 0 2 2z 8w 0 v 4h h 0 1m 4m 5 0 1 4m cw 0 16 2t 5y 0 17 32 4 0 1 32 dc 0 7",
   "13 1 0 4 13 1 0 2 13 1 0 f 13 1 0 5h 2j 2 0 g 2j 15 0 24 1 4 0 a 1 4 0 2 1 lt 0 1w p 24 0",
   "1p p 5e 0 4 4 1 0 r 4 1 0 2 4 1 0 1 4 2 0 1 4 1 0 a 4 1 0 4 4 1 0 1 4 1 0 1 4 6 0 1 4 4 0 1",
   "4 1 0 1 4 1 0 1 4 1 0 3 4 1 0 2 4 1 0 1 4 2 0 1 4 1 0 1 4 1 0 1 4 1 0 1 4 1 0 1 4 1 0 2 4 1",
   "0 1 4 2 0 4 4 1 0 7 4 1 0 4 4 1 0 4 4 1 0 1 4 1 0 a 4 1 0 h 4 5 0 3 4 1 0 5 4 1 0 h 4 1g 0",
   "2 4 7i 0 18 p 4 0 2s p c 0 f p 2 0 f p 1 0 f p 1 0 11 p a 0 4u p 1k 0 q p 1 1k 2 p d 0 18 p",
   "4 0 9 p 7 0 2 p e 0 6 p 4a 0 rd p 3 0 h p 3 0 d p 3 0 62 p 6 0 c p 4 0 1 p f 0 c p 4 0 1k p",
   "8 0 a p 6 0 14 p 8 0 u p 2 0 c p 4 0 2 p e 0 9 p 13 0 9k p 8 0 e p 2 0 d p 3 0 b p 3 0 1l p",
   "1 0 1 p 4 0 g p 2 0 c p 4 0 a p 7 0 43 p 1 0 2v p sl 0 wyo 1e w 0 3dq 1e 2 0 4ge 1e 2 0 5rl",
   "1e f 0 ha 1e 1wi 0 f2 1e 15u 0 3t7 1e 5 0 6ju 1e f5vr 0 1 p u 0 2o p 3k 0 6o 1m 47bk 0"]

def runs : List (Nat × Nat) :=
  pairs (numbers table)

/-- The characters of the script that has the given name in lower case without separators. -/
def charSet? (name : String) : Option CharSet :=
  (names.findIdx? fun ns => ns.contains name).map fun place =>
    runSet (fun p => p == place + 1) 0 runs

end Harvest.Text.Script
