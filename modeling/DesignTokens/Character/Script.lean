import DesignTokens.Character.RangeTable

/-! # Scripts

The script of a character, and the scripts that also use it, as edition 16.0 of the standard has
them. Names are in their loose form: small letters and digits only.

## Main definitions

* `Character.Script` - a script with the names it goes by and the characters that have it
* `Character.Script.all` - all scripts; `Character.Script.ofName?` finds one by a loose name
* `Character.Script.inUse` - the characters that a script uses, its own or shared
-/

namespace DesignTokens.Character

/-- A script: the loose names it goes by, its characters and, where these differ, the characters
that texts in the script use. -/
structure Script where
  names : List String
  own : RangeTable
  shared : Option RangeTable
  deriving Repr

namespace Script

/-- The script `Adlam`. -/
def adlam : Script where
  names := ["adlam", "adlm"]
  own := .ofPacked
    "2olc 23 4 9 4 1"
  shared := some (.ofPacked
    "17j 0 w 0 55a 0 2r5 0 2fge 23 4 9 4 1")

/-- The script `Ahom`. -/
def ahom : Script where
  names := ["ahom"]
  own := .ofPacked
    "1j40 q 2 e 4 m"
  shared := none

/-- The script `Anatolian_Hieroglyphs`. -/
def anatolianHieroglyphs : Script where
  names := ["anatolianhieroglyphs", "hluw"]
  own := .ofPacked
    "1s00 g6"
  shared := none

/-- The script `Arabic`. -/
def arabic : Script where
  names := ["arab", "arabic"]
  own := .ofPacked
    "16o 4 1 5 1 d 1 2 1 v 1 9 b p 1 2z 1 x 28 1b 6o u 1 1 5 22 1 s 1bv4 36 g a2 2 27 2 1h 7 0 w
    f 34 4 1 3q 31f u 1v 2 1j 3 181s 3 1 q 1 1 1 0 2 0 1 9 1 3 1 0 1 0 6 0 4 0 1 0 1 0 1 2 1 1
    1 0 2 0 1 0 1 0 1 0 1 0 1 1 1 0 2 3 1 6 1 3 1 3 1 0 1 9 1 g 5 2 1 4 1 g 1g 1"
  shared := some (.ofPacked
    "16o 4 1 5y 1 x 28 1b 6o u 1 1 5 22 1 s 4lr 0 2r5 0 14i6 36 g cc 2 1h 7 0 w f 34 4 1 3q rn r
    290 u 1v 2 1j 3 181s 3 1 q 1 1 1 0 2 0 1 9 1 3 1 0 1 0 6 0 4 0 1 0 1 0 1 2 1 1 1 0 2 0 1 0
    1 0 1 0 1 0 1 1 1 0 2 3 1 6 1 3 1 3 1 0 1 9 1 g 5 2 1 4 1 g 1g 1")

/-- The script `Armenian`. -/
def armenian : Script where
  names := ["armenian", "armn"]
  own := .ofPacked
    "10x 11 2 1d 2 2 1chv 4"
  shared := some (.ofPacked
    "lk 0 fc 11 2 1d 2 2 1chv 4")

/-- The script `Avestan`. -/
def avestan : Script where
  names := ["avestan", "avst"]
  own := .ofPacked
    "1gqo 1h 3 6"
  shared := some (.ofPacked
    "53 0 8zc 1 17m6 1h 3 6")

/-- The script `Balinese`. -/
def balinese : Script where
  names := ["bali", "balinese"]
  own := .ofPacked
    "5c0 24 1 1d"
  shared := none

/-- The script `Bamum`. -/
def bamum : Script where
  names := ["bamu", "bamum"]
  own := .ofPacked
    "www 2f 124o fs"
  shared := none

/-- The script `Bassa_Vah`. -/
def bassaVah : Script where
  names := ["bass", "bassavah"]
  own := .ofPacked
    "1zo0 t 2 5"
  shared := none

/-- The script `Batak`. -/
def batak : Script where
  names := ["batak", "batk"]
  own := .ofPacked
    "5hc 1f 8 3"
  shared := none

/-- The script `Bengali`. -/
def bengali : Script where
  names := ["beng", "bengali"]
  own := .ofPacked
    "1vk 3 1 7 2 1 2 l 1 6 1 0 3 3 2 8 2 1 2 3 8 0 4 1 1 4 2 o"
  shared := some (.ofPacked
    "jg 0 1as 1 h 1 q 3 1 7 2 1 2 l 1 6 1 0 3 3 2 8 2 1 2 3 8 0 4 1 1 4 2 o 3pt 0 1 0 2 1 1 0 8
    0 8 0 2 0 4 0 2 2 rnd 0")

/-- The script `Bhaiksuki`. -/
def bhaiksuki : Script where
  names := ["bhaiksuki", "bhks"]
  own := .ofPacked
    "1k3k 8 1 18 1 d a s"
  shared := none

/-- The script `Bopomofo`. -/
def bopomofo : Script where
  names := ["bopo", "bopomofo"]
  own := .ofPacked
    "kq 1 93t 16 34 v"
  shared := some (.ofPacked
    "jr 0 1 2 d 0 g 1 8wl 2 4 9 1 c a 3 2 0 6 0 5f 0 9 16 34 v 14ed 1 7u 4")

/-- The script `Brahmi`. -/
def brahmi : Script where
  names := ["brah", "brahmi"]
  own := .ofPacked
    "1hq8 25 4 z 9 0"
  shared := none

/-- The script `Braille`. -/
def braille : Script where
  names := ["brai", "braille"]
  own := .ofPacked
    "7wg 73"
  shared := none

/-- The script `Buginese`. -/
def buginese : Script where
  names := ["bugi", "buginese"]
  own := .ofPacked
    "54w r 2 1"
  shared := some (.ofPacked
    "54w r 2 1 sdr 0")

/-- The script `Buhid`. -/
def buhid : Script where
  names := ["buhd", "buhid"]
  own := .ofPacked
    "4lc j"
  shared := some (.ofPacked
    "4l1 1 9 j")

/-- The script `Canadian_Aboriginal`. -/
def canadianAboriginal : Script where
  names := ["canadianaboriginal", "cans"]
  own := .ofPacked
    "3y8 hr fk 1x 1ewq f"
  shared := none

/-- The script `Carian`. -/
def carian : Script where
  names := ["cari", "carian"]
  own := .ofPacked
    "1f34 1c"
  shared := some (.ofPacked
    "53 0 68y 0 2 0 2qb 0 15ym 1c")

/-- The script `Caucasian_Albanian`. -/
def caucasianAlbanian : Script where
  names := ["aghb", "caucasianalbanian"]
  own := .ofPacked
    "1flc 1f b 0"
  shared := some (.ofPacked
    "lg 0 18 0 18 0 1exd 1f b 0")

/-- The script `Chakma`. -/
def chakma : Script where
  names := ["cakm", "chakma"]
  own := .ofPacked
    "1hxc 1g 1 h"
  shared := some (.ofPacked
    "1ye 9 18w 9 1epi 1g 1 h")

/-- The script `Cham`. -/
def cham : Script where
  names := ["cham"]
  own := .ofPacked
    "xkw 1i 9 d 2 9 2 3"
  shared := none

/-- The script `Cherokee`. -/
def cherokee : Script where
  names := ["cher", "cherokee"]
  own := .ofPacked
    "3vk 2d 2 5 twy 27"
  shared := some (.ofPacked
    "lc 2 1 0 6 1 m 1 b 1 38u 2d 2 5 twy 27")

/-- The script `Chorasmian`. -/
def chorasmian : Script where
  names := ["chorasmian", "chrs"]
  own := .ofPacked
    "1ho0 r"
  shared := none

/-- The script `Common`. -/
def common : Script where
  names := ["common", "zyyy"]
  own := .ofPacked
    "0 1s q 5 q 1a 1 e 1 4 n 0 v 0 ch 12 5 4 2 j 38 0 9 0 6 0 1 0 hp 0 6 0 e 0 3 0 w 0 4c 0 ec 0
    3l 1 yh 0 b9 3 82 0 167 2 1z 1 5n 1 1 0 y5 0 d 0 7 3 1 5 1 2 2 0 lh b 2 2e 1 a 3 a 1 e h w
    1r 11 1 2 2 5 1 q 1 g 15 2 4 ih m a l pr 74 hf 2 v 1 2w e8 2l b6 k 1 0 1 o f 7 4 3 2j 1 3 0
    2i 1 43 f w 11 9 0 1c 1r v 28 1b 0 2g 4n 534 1r hkw x 2u 2 4l 9 6s 0 4g 0 az 0 e 1 g5u 1 5s
    9 m y 1 i 1 3 43 0 1 v q 5 q a a 0 19 1 1s 6 1 6 a 4 76 2 4 18 3 8 28 c 1f 18 6c q 10o4 3
    318 6x 6 c3 4c 37 1o 6t a 12 2 1p 3 g 8 1 7 t 4 1o 5x j c j c 2e 9 o 3r 2c 1 1y 1 1 2 0 2 1
    2 3 1 b 1 0 1 6 1 1s 1 3 2 7 1 6 1 r 1 3 1 4 1 0 3 6 1 9f 2 83 2 1d 41d 1v 24 1o jm 17 4 2r
    c e 2 e 1 e 1 10 a 4t 1k p 1 1 d 17 4 8 7 1 e 5 4a rb 4 g 3 c 3 3a 4 2m 6 b 4 0 f b 4 1j 8
    9 6 13 8 t 2 b 4 1 1q 9f c d 2 c 3 9 5 1j 7 e 2 a 6 8 7 42 1 2t gvlz 0 u 2n"
  shared := some (.ofPacked
    "0 1s q 5 q 1a 1 b 1 1 1 4 n 0 v 0 ch 2 1 9 1 0 3 0 1 8 1 0 1 5 5 4 2 j 3i 0 6 0 1 0 hp 0 5z
    0 ec 0 124 0 b9 3 36v b 2 w 1 u 1 9 1 1 1 6 1 a 3 a 1 e h w 1r 11 1 2 2 5 1 q 1 g 15 2 4 ih
    m a l pr 74 hf 2 v 1 2w e8 m 1 n 2 9 1 3 1 0 1 p bm 0 3 0 d 0 d 0 l 0 ep n v 0 1d e c 3 4h
    9 5 2n v 0 534 1r hl4 p 2u 2 r4 0 e 1 gbo 9 m k 2 b 1 i 1 3 43 0 1 v q 5 q 5 3j 6 1 6 a 4
    b6 c 1f 18 13wj 6x 6 c3 4c 37 1o 6t a 12 2 1p 3 g 8 1 7 t 4 1o 5x j c j c 2e r 6 3r 2c 1 1y
    1 1 2 0 2 1 2 3 1 b 1 0 1 6 1 1s 1 3 2 7 1 6 1 r 1 3 1 4 1 0 3 6 1 9f 2 83 2 1d 41d 1v 24
    1o jm 17 4 2r c e 2 e 1 e 1 10 a 4t 1k p 1 1 d 17 4 8 n 5 4a rb 4 g 3 c 3 3a 4 2m 6 b 4 0 f
    b 4 1j 8 9 6 13 8 t 2 b 4 1 1q 9f c d 2 c 3 9 5 1j 7 e 2 a 6 8 7 42 1 2t gvlz 0 u 2n")

/-- The script `Coptic`. -/
def coptic : Script where
  names := ["copt", "coptic", "qaac"]
  own := .ofPacked
    "rm d 80g 37 5 6"
  shared := some (.ofPacked
    "53 0 g8 0 3 1 1 0 30 1 30 d 80g 37 5 6 7r 0 1614 r")

/-- The script `Cuneiform`. -/
def cuneiform : Script where
  names := ["cuneiform", "xsux"]
  own := .ofPacked
    "1kw0 pl 2u 32 1 4 b 5f"
  shared := none

/-- The script `Cypriot`. -/
def cypriot : Script where
  names := ["cprt", "cypriot"]
  own := .ofPacked
    "1g5c 5 2 0 1 17 1 1 3 0 2 0"
  shared := some (.ofPacked
    "1erk 2 4 18 3 8 1c0 5 2 0 1 17 1 1 3 0 2 0")

/-- The script `Cypro_Minoan`. -/
def cyproMinoan : Script where
  names := ["cpmn", "cyprominoan"]
  own := .ofPacked
    "1nyo 2q"
  shared := some (.ofPacked
    "1erk 1 972 2q")

/-- The script `Cyrillic`. -/
def cyrillic : Script where
  names := ["cyrillic", "cyrl"]
  own := .ofPacked
    "sg 3o 2 4o 4ls a 4g 0 24 0 38n v nr4 2n ham 1 18n4 1p x 0"
  shared := some (.ofPacked
    "jg 0 1v 2 1 0 1 0 1 0 2 0 5 0 6m 8f 4ls a 4g 0 24 0 3j 0 353 v 1v 0 np8 2n ham 1 18n4 1p x 0")

/-- The script `Deseret`. -/
def deseret : Script where
  names := ["deseret", "dsrt"]
  own := .ofPacked
    "1fcw 27"
  shared := none

/-- The script `Devanagari`. -/
def devanagari : Script where
  names := ["deva", "devanagari"]
  own := .ofPacked
    "1s0 28 4 e 2 p vhc v mio 9"
  shared := some (.ofPacked
    "jg 0 18j 2a 2 16 3tc 12 1 1 s6 0 qpr 9 4m v mio 9")

/-- The script `Dives_Akuru`. -/
def divesAkuru : Script where
  names := ["diak", "divesakuru"]
  own := .ofPacked
    "1ji8 6 2 0 2 7 1 1 1 t 1 1 2 b 9 9"
  shared := none

/-- The script `Dogra`. -/
def dogra : Script where
  names := ["dogr", "dogra"]
  own := .ofPacked
    "1jb4 1n"
  shared := some (.ofPacked
    "1us b vcw 9 m2u 1n")

/-- The script `Duployan`. -/
def duployan : Script where
  names := ["dupl", "duployan"]
  own := .ofPacked
    "2fpc 2y 5 c 3 8 7 9 2 3"
  shared := some (.ofPacked
    "53 0 gf 1 1 0 o 1 8if 0 26kj 2y 5 c 3 8 7 9 2 7")

/-- The script `Egyptian_Hieroglyphs`. -/
def egyptianHieroglyphs : Script where
  names := ["egyp", "egyptianhieroglyphs"]
  own := .ofPacked
    "1o1s ut a 32y"
  shared := none

/-- The script `Elbasan`. -/
def elbasan : Script where
  names := ["elba", "elbasan"]
  own := .ofPacked
    "1fk0 13"
  shared := some (.ofPacked
    "53 0 gd 0 1eyi 13")

/-- The script `Elymaic`. -/
def elymaic : Script where
  names := ["elym", "elymaic"]
  own := .ofPacked
    "1hpc m"
  shared := none

/-- The script `Ethiopic`. -/
def ethiopic : Script where
  names := ["ethi", "ethiopic"]
  own := .ofPacked
    "3k0 20 1 3 2 6 1 0 1 3 2 14 1 3 2 w 1 3 2 6 1 0 1 3 2 e 1 1k 1 3 2 1u 2 v 3 p 546 m 9 6 1 6
    1 6 1 6 1 6 1 6 1 6 1 6 opu 5 2 5 2 5 9 6 1 6 1qk1 6 1 3 1 1 1 e"
  shared := some (.ofPacked
    "lq 0 2y9 20 1 3 2 6 1 0 1 3 2 14 1 3 2 w 1 3 2 6 1 0 1 3 2 e 1 1k 1 3 2 1u 2 v 3 p 546 m 9
    6 1 6 1 6 1 6 1 6 1 6 1 6 1 6 opu 5 2 5 2 5 9 6 1 6 1qk1 6 1 3 1 1 1 e")

/-- The script `Garay`. -/
def garay : Script where
  names := ["gara", "garay"]
  own := .ofPacked
    "1h6o 11 3 s 8 1"
  shared := some (.ofPacked
    "170 0 e 0 3 0 1fz4 11 3 s 8 1")

/-- The script `Georgian`. -/
def georgian : Script where
  names := ["geor", "georgian"]
  own := .ofPacked
    "3a8 11 1 0 5 0 2 16 1 3 2a8 16 2 2 37k 11 1 0 5 0"
  shared := some (.ofPacked
    "53 0 y9 0 26u 11 1 0 5 0 2 1b 2a8 16 2 2 pm 0 2hx 11 1 0 5 0 77 0")

/-- The script `Glagolitic`. -/
def glagolitic : Script where
  names := ["glag", "glagolitic"]
  own := .ofPacked
    "8ow 2n 2e1s 6 1 g 2 6 1 1 1 4"
  shared := some (.ofPacked
    "53 0 gb 0 1 0 am 0 2 0 75 0 29d 0 31a 0 2at 2n df 0 nqj 0 1pxs 6 1 g 2 6 1 1 1 4")

/-- The script `Gothic`. -/
def gothic : Script where
  names := ["goth", "gothic"]
  own := .ofPacked
    "1f74 q"
  shared := some (.ofPacked
    "53 0 gc 1 2 0 14 0 1eke q")

/-- The script `Grantha`. -/
def grantha : Script where
  names := ["gran", "grantha"]
  own := .ofPacked
    "1ibk 3 1 7 2 1 2 l 1 6 1 1 1 4 2 8 2 1 2 2 2 0 6 0 5 6 2 6 3 4"
  shared := some (.ofPacked
    "1u9 1 h 1 hs d 3bw 0 1 1 u 2 3 1 s6 0 1btb 3 1 7 2 1 2 l 1 6 1 1 1 4 1 9 2 1 2 2 2 0 6 0 5
    6 2 6 3 4 2fv 1 1 0")

/-- The script `Greek`. -/
def greek : Script where
  names := ["greek", "grek"]
  own := .ofPacked
    "og 3 1 2 2 3 1 0 4 0 1 0 1 2 1 0 1 j 1 1q e f 4yu 4 1e 4 4 4 2c 0 8w l 2 5 2 11 2 5 2 7 1 0
    1 0 1 0 1 u 2 1g 1 e 1 d 2 5 1 i 2 2 1 8 87 0 rb2 0 gyi 26 h 0 155r 1x"
  shared := some (.ofPacked
    "53 0 g8 1 2 0 1 0 1 0 a 0 1a 0 2 0 16 7 2 3 1 0 4 0 1 0 1 2 1 0 1 j 1 1q e f 4yu 4 1e 4 4 4
    2c 2 8u l 2 5 2 11 2 5 2 7 1 0 1 0 1 0 1 u 2 1g 1 e 1 d 2 5 1 i 2 2 1 8 2m 0 5k 0 rb2 0 gyi
    26 h 0 155r 1x")

/-- The script `Gujarati`. -/
def gujarati : Script where
  names := ["gujarati", "gujr"]
  own := .ofPacked
    "22p 2 1 8 1 2 1 l 1 6 1 1 1 4 2 9 1 2 1 2 2 0 f 3 2 b 7 6"
  shared := some (.ofPacked
    "1u9 1 h 1 7v 2 1 8 1 2 1 l 1 6 1 1 1 4 2 9 1 2 1 2 2 0 f 3 2 b 7 6 v1s 9")

/-- The script `Gunjala_Gondi`. -/
def gunjalaGondi : Script where
  names := ["gong", "gunjalagondi"]
  own := .ofPacked
    "1kdc 5 1 1 1 10 1 1 1 5 7 9"
  shared := some (.ofPacked
    "53 0 1po 1 1iii 5 1 1 1 10 1 1 1 5 7 9")

/-- The script `Gurmukhi`. -/
def gurmukhi : Script where
  names := ["gurmukhi", "guru"]
  own := .ofPacked
    "1z5 2 1 5 4 1 2 l 1 6 1 1 1 1 1 1 2 0 1 4 4 1 2 2 3 0 7 3 1 0 7 g"
  shared := some (.ofPacked
    "1u9 1 h 1 4b 2 1 5 4 1 2 l 1 6 1 1 1 1 1 1 2 0 1 4 4 1 2 2 3 0 7 3 1 0 7 g v5l 9")

/-- The script `Gurung_Khema`. -/
def gurungKhema : Script where
  names := ["gukh", "gurungkhema"]
  own := .ofPacked
    "1xq8 1l"
  shared := some (.ofPacked
    "1ut 0 1vve 1l")

/-- The script `Han`. -/
def han : Script where
  names := ["han", "hani"]
  own := .ofPacked
    "96o p 1 2g c 5x 1b 0 1 0 p 8 e 3 qs 533 1s g73 hkw a5 2 2x n48 1 c 1 sge wyn w 37d 6 65 2
    4g1 e 5rk f h9 1wi f1 15u 3t6 5 38f"
  shared := some (.ofPacked
    "53 0 91k p 1 2g c 5x q f 1 2 1 c 1 c 1 c 2 0 6 8 57 0 44 f w 11 9 0 1c 13 1k 1c f b 1f 0 2g
    o a 4 2o u 1 533 1s g73 1ds 7 g6w a5 2 2x ob 1 7u 4 m7w 1 c 1 jn2 h 63i 1 2pa wyn w 37d 6
    65 2 4g1 e 5rk f h9 1wi f1 15u 3t6 5 38f")

/-- The script `Hangul`. -/
def hangul : Script where
  names := ["hang", "hangul"]
  own := .ofPacked
    "3cw 73 5ym 1 75 2l 35 u 1t u nhd s hv 8mb c m 4 1c 7tw u 3 5 2 5 2 5 2 2"
  shared := some (.ofPacked
    "3cw 73 5xd 2 4 9 1 c e 2 6 0 5f 0 1h 2l 35 u 1t u nhd s hv 8mb c m 4 1c 7k9 1 7u 4 1m u 3 5
    2 5 2 5 2 2")

/-- The script `Hanifi_Rohingya`. -/
def hanifiRohingya : Script where
  names := ["hanifirohingya", "rohg"]
  own := .ofPacked
    "1h4w 13 8 9"
  shared := some (.ofPacked
    "170 0 e 0 3 0 w 0 43 0 1fsb 13 8 9")

/-- The script `Hanunoo`. -/
def hanunoo : Script where
  names := ["hano", "hanunoo"]
  own := .ofPacked
    "4kg k"
  shared := some (.ofPacked
    "4kg m")

/-- The script `Hatran`. -/
def hatran : Script where
  names := ["hatr", "hatran"]
  own := .ofPacked
    "1gbk i 1 1 5 4"
  shared := none

/-- The script `Hebrew`. -/
def hebrew : Script where
  names := ["hebr", "hebrew"]
  own := .ofPacked
    "13l 1i 8 q 4 5 1cfc p 1 4 1 0 1 1 1 1 1 9"
  shared := some (.ofPacked
    "lj 1 i0 1i 8 q 4 5 1cfc p 1 4 1 0 1 1 1 1 1 9")

/-- The script `Hiragana`. -/
def hiragana : Script where
  names := ["hira", "hiragana"]
  own := .ofPacked
    "9j5 2d 6 2 23q9 7y i 0 t 2 crx 0"
  shared := some (.ofPacked
    "9hd 2 4 9 1 c g 5 1 0 4 1 3 2d 2 7 2i 1 14js 1 7u 4 a 0 19 1 yu9 7y i 0 t 2 crx 0")

/-- The script `Imperial_Aramaic`. -/
def imperialAramaic : Script where
  names := ["armi", "imperialaramaic"]
  own := .ofPacked
    "1g74 l 1 8"
  shared := none

/-- The script `Inherited`. -/
def inherited : Script where
  names := ["inherited", "qaai", "zinh"]
  own := .ofPacked
    "lc 33 7p 1 ck a q 0 kg 3 3ff u e9 2 1 c 1 6 4 0 6 0 3 1 5i 1r ek 1 5e w 309 3 2z 1 14kl f g
    d r3 0 6a 0 38a 0 1138 19 2 m f4 2 h 7 2 6 u 3 h45u 6n"
  shared := some (.ofPacked
    "lr 0 2 0 1 b 1 1 3 6 2 0 2 f 1 1 1 h 1 4 1 3 168 1 3ff u kz 1h 1 0 1 4 ek 1 5e v 17o0 f g d
    r3 0 14hu 19 2 m f4 2 h 7 2 6 u 3 h45u 6n")

/-- The script `Inscriptional_Pahlavi`. -/
def inscriptionalPahlavi : Script where
  names := ["inscriptionalpahlavi", "phli"]
  own := .ofPacked
    "1gtc i 5 7"
  shared := none

/-- The script `Inscriptional_Parthian`. -/
def inscriptionalParthian : Script where
  names := ["inscriptionalparthian", "prti"]
  own := .ofPacked
    "1gsg l 2 7"
  shared := none

/-- The script `Javanese`. -/
def javanese : Script where
  names := ["java", "javanese"]
  own := .ofPacked
    "xhc 25 2 9 4 1"
  shared := some (.ofPacked
    "xhc 25 1 a 4 1")

/-- The script `Kaithi`. -/
def kaithi : Script where
  names := ["kaithi", "kthi"]
  own := .ofPacked
    "1hts 1u a 0"
  shared := some (.ofPacked
    "1uu 9 79d 0 o3i 9 kli 1u a 0")

/-- The script `Kannada`. -/
def kannada : Script where
  names := ["kannada", "knda"]
  own := .ofPacked
    "2gw c 1 2 1 m 1 9 1 4 2 8 1 2 1 3 7 1 6 1 1 3 2 9 1 2"
  shared := some (.ofPacked
    "1u9 1 h 1 m2 c 1 2 1 m 1 9 1 4 2 8 1 2 1 3 7 1 6 1 1 3 2 9 1 2 34s 0 1 1 6 0 n 0 1 0 ri3 5")

/-- The script `Katakana`. -/
def katakana : Script where
  names := ["kana", "katakana"]
  own := .ofPacked
    "9lt 2h 2 2 6o f 5s 1a 1 2f 14b2 9 1 18 ytu 3 1 6 1 1 1 0 7z 2 1e 0 e 3"
  shared := some (.ofPacked
    "lh 0 t 0 8v1 2 4 9 1 c g 5 1 0 4 1 2j 3 3 2n 6o f 5s 1a 1 2f 1431 1 7u 1q yts 3 1 6 1 1 1 0
    7z 2 1e 0 e 3")

/-- The script `Kawi`. -/
def kawi : Script where
  names := ["kawi"]
  own := .ofPacked
    "1kow g 1 14 3 s"
  shared := none

/-- The script `Kayah_Li`. -/
def kayahLi : Script where
  names := ["kali", "kayahli"]
  own := .ofPacked
    "xds 19 1 0"
  shared := some (.ofPacked
    "xds 1b")

/-- The script `Kharoshthi`. -/
def kharoshthi : Script where
  names := ["khar", "kharoshthi"]
  own := .ofPacked
    "1gjk 3 1 1 5 7 1 2 1 s 2 2 4 9 7 8"
  shared := none

/-- The script `Khitan_Small_Script`. -/
def khitanSmallScript : Script where
  names := ["khitansmallscript", "kits"]
  own := .ofPacked
    "20o4 0 5cr d1 15 0"
  shared := none

/-- The script `Khmer`. -/
def khmer : Script where
  names := ["khmer", "khmr"]
  own := .ofPacked
    "4n4 2l 2 9 6 9 di v"
  shared := none

/-- The script `Khojki`. -/
def khojki : Script where
  names := ["khoj", "khojki"]
  own := .ofPacked
    "1i4g h 1 1a"
  shared := some (.ofPacked
    "25i 9 v28 9 kw6 h 1 1a")

/-- The script `Khudawadi`. -/
def khudawadi : Script where
  names := ["khudawadi", "sind"]
  own := .ofPacked
    "1i9c 1m 5 9"
  shared := some (.ofPacked
    "1us 1 vd6 9 l12 1m 5 9")

/-- The script `Kirat_Rai`. -/
def kiratRai : Script where
  names := ["kiratrai", "krai"]
  own := .ofPacked
    "205c 1l"
  shared := none

/-- The script `Lao`. -/
def lao : Script where
  names := ["lao", "laoo"]
  own := .ofPacked
    "2v5 1 1 0 1 4 1 n 1 0 1 m 2 4 1 0 1 6 1 9 2 3"
  shared := none

/-- The script `Latin`. -/
def latin : Script where
  names := ["latin", "latn"]
  own := .ofPacked
    "1t p 6 p 1b 0 f 0 5 m 1 u 1 cg 13 4 55n 11 6 1c 5 3 5 c 1 1x 1t 73 a9 0 d 0 g c 3x 1 6 0 r
    0 h 14 253 v o82 2t 3 1u 2 1 1 0 1 7 l d mo 16 1 8 1 3 fpy 6 t6 p 6 p 1lx 5 1 15 1 8 16it u
    6 5"
  shared := some (.ofPacked
    "1t p 6 p 1b 0 c 0 2 0 5 m 1 u 1 cg 3 0 a 0 1 2 1 0 9 0 1 0 6 4 r e 1 1 1 0 c 0 2 2 7 1 1 1
    12 0 5 0 4 c 7p 1 y2 1 1ig 0 2dg 11 6 1c 5 3 5 c 1 1x 1l 0 7 73 8f 0 1t 0 d 0 g c 2b 0 1l 1
    6 0 r 0 h 14 253 v bb 0 nvs 7 q 2t 3 1u 2 1 1 0 1 7 l d 8e 0 e9 16 1 8 1 3 fpy 6 t6 p 6 p
    1lx 5 1 15 1 8 16it u 6 5")

/-- The script `Lepcha`. -/
def lepcha : Script where
  names := ["lepc", "lepcha"]
  own := .ofPacked
    "5j4 1j 3 e 3 2"
  shared := none

/-- The script `Limbu`. -/
def limbu : Script where
  names := ["limb", "limbu"]
  own := .ofPacked
    "4xs u 1 b 4 b 4 0 3 b"
  shared := some (.ofPacked
    "1ut 0 32y u 1 b 4 b 4 0 3 b")

/-- The script `Linear_A`. -/
def linearA : Script where
  names := ["lina", "lineara"]
  own := .ofPacked
    "1fr4 8m 9 l a 7"
  shared := some (.ofPacked
    "1err 18 y4 8m 9 l a 7")

/-- The script `Linear_B`. -/
def linearB : Script where
  names := ["linb", "linearb"]
  own := .ofPacked
    "1ekg b 1 p 1 i 1 1 1 e 2 d y 3e"
  shared := some (.ofPacked
    "1ekg b 1 p 1 i 1 1 1 e 2 d y 3e 5 2 4 18 3 8")

/-- The script `Lisu`. -/
def lisu : Script where
  names := ["lisu"]
  own := .ofPacked
    "wk0 1b o8g 0"
  shared := some (.ofPacked
    "jg 0 g 0 8xo 1 n2c 1b o8g 0")

/-- The script `Lycian`. -/
def lycian : Script where
  names := ["lyci", "lycian"]
  own := .ofPacked
    "1f28 s"
  shared := some (.ofPacked
    "6e2 0 18o5 s")

/-- The script `Lydian`. -/
def lydian : Script where
  names := ["lydi", "lydian"]
  own := .ofPacked
    "1gdc p 5 0"
  shared := some (.ofPacked
    "53 0 8zd 0 178u p 5 0")

/-- The script `Mahajani`. -/
def mahajani : Script where
  names := ["mahajani", "mahj"]
  own := .ofPacked
    "1hzk 12"
  shared := some (.ofPacked
    "53 0 1po b vcw 9 kra 12")

/-- The script `Makasar`. -/
def makasar : Script where
  names := ["maka", "makasar"]
  own := .ofPacked
    "1ko0 o"
  shared := none

/-- The script `Malayalam`. -/
def malayalam : Script where
  names := ["malayalam", "mlym"]
  own := .ofPacked
    "2kg c 1 2 1 1e 1 2 1 5 4 f 2 p"
  shared := some (.ofPacked
    "1u9 1 h 1 pm c 1 2 1 1e 1 2 1 5 4 f 2 p 316 0 n 0 ri5 2")

/-- The script `Mandaic`. -/
def mandaic : Script where
  names := ["mand", "mandaic"]
  own := .ofPacked
    "1mo r 2 0"
  shared := some (.ofPacked
    "18g 0 e7 r 2 0")

/-- The script `Manichaean`. -/
def manichaean : Script where
  names := ["mani", "manichaean"]
  own := .ofPacked
    "1gow 12 4 b"
  shared := some (.ofPacked
    "18g 0 1fgf 12 4 b")

/-- The script `Marchen`. -/
def marchen : Script where
  names := ["marc", "marchen"]
  own := .ofPacked
    "1k6o v 2 l 1 d"
  shared := none

/-- The script `Masaram_Gondi`. -/
def masaramGondi : Script where
  names := ["gonm", "masaramgondi"]
  own := .ofPacked
    "1kao 6 1 1 1 17 3 0 1 1 1 8 8 9"
  shared := some (.ofPacked
    "1us 1 1ifu 6 1 1 1 17 3 0 1 1 1 8 8 9")

/-- The script `Medefaidrin`. -/
def medefaidrin : Script where
  names := ["medefaidrin", "medf"]
  own := .ofPacked
    "20cg 2i"
  shared := none

/-- The script `Meetei_Mayek`. -/
def meeteiMayek : Script where
  names := ["meeteimayek", "mtei"]
  own := .ofPacked
    "xr4 m 5l 19 2 9"
  shared := none

/-- The script `Mende_Kikakui`. -/
def mendeKikakui : Script where
  names := ["mend", "mendekikakui"]
  own := .ofPacked
    "2oe8 5g 2 f"
  shared := none

/-- The script `Meroitic_Cursive`. -/
def meroiticCursive : Script where
  names := ["merc", "meroiticcursive"]
  own := .ofPacked
    "1ggw n 4 j 2 19"
  shared := none

/-- The script `Meroitic_Hieroglyphs`. -/
def meroiticHieroglyphs : Script where
  names := ["mero", "meroitichieroglyphs"]
  own := .ofPacked
    "1gg0 v"
  shared := some (.ofPacked
    "6e5 0 1a1u v")

/-- The script `Miao`. -/
def miao : Script where
  names := ["miao", "plrd"]
  own := .ofPacked
    "20hs 22 4 1k 7 g"
  shared := none

/-- The script `Modi`. -/
def modi : Script where
  names := ["modi"]
  own := .ofPacked
    "1iww 1w b 9"
  shared := some (.ofPacked
    "x80 9 lom 1w b 9")

/-- The script `Mongolian`. -/
def mongolian : Script where
  names := ["mong", "mongolian"]
  own := .ofPacked
    "4qo 1 2 0 1 j 6 2g 7 16 1e45 c"
  shared := some (.ofPacked
    "4qo p 6 2g 7 16 1hg 0 34h 1 5 3 19hw c")

/-- The script `Mro`. -/
def mro : Script where
  names := ["mro", "mroo"]
  own := .ofPacked
    "1zk0 u 1 9 4 1"
  shared := none

/-- The script `Multani`. -/
def multani : Script where
  names := ["mult", "multani"]
  own := .ofPacked
    "1i80 6 1 0 1 3 1 e 1 a"
  shared := some (.ofPacked
    "21y 9 1g5s 6 1 0 1 3 1 e 1 a")

/-- The script `Myanmar`. -/
def myanmar : Script where
  names := ["myanmar", "mymr"]
  own := .ofPacked
    "35s 4f u9s u 2p v le8 j"
  shared := some (.ofPacked
    "35s 4f u4u 0 4x u 2p v le8 j")

/-- The script `Nabataean`. -/
def nabataean : Script where
  names := ["nabataean", "nbat"]
  own := .ofPacked
    "1g8w u 8 8"
  shared := none

/-- The script `Nag_Mundari`. -/
def nagMundari : Script where
  names := ["nagm", "nagmundari"]
  own := .ofPacked
    "2nrk 15"
  shared := none

/-- The script `Nandinagari`. -/
def nandinagari : Script where
  names := ["nand", "nandinagari"]
  own := .ofPacked
    "1jmo 7 2 19 2 a"
  shared := some (.ofPacked
    "1us 1 ow 9 35l 0 8 0 7 0 rhx 5 mei 7 2 19 2 a")

/-- The script `New_Tai_Lue`. -/
def newTaiLue : Script where
  names := ["newtailue", "talu"]
  own := .ofPacked
    "51c 17 4 p 6 a 3 1"
  shared := none

/-- The script `Newa`. -/
def newa : Script where
  names := ["newa"]
  own := .ofPacked
    "1iio 2j 1 4"
  shared := none

/-- The script `Nko`. -/
def nko : Script where
  names := ["nko", "nkoo"]
  own := .ofPacked
    "1j4 1m 2 2"
  shared := some (.ofPacked
    "170 0 e 0 3 0 bk 1m 2 2 1cfy 1")

/-- The script `Nushu`. -/
def nushu : Script where
  names := ["nshu", "nushu"]
  own := .ofPacked
    "20o1 0 cy6 az"
  shared := none

/-- The script `Nyiakeng_Puachue_Hmong`. -/
def nyiakengPuachueHmong : Script where
  names := ["hmnp", "nyiakengpuachuehmong"]
  own := .ofPacked
    "2n0g 18 3 d 2 9 4 1"
  shared := none

/-- The script `Ogham`. -/
def ogham : Script where
  names := ["ogam", "ogham"]
  own := .ofPacked
    "4g0 s"
  shared := none

/-- The script `Ol_Chiki`. -/
def olChiki : Script where
  names := ["olchiki", "olck"]
  own := .ofPacked
    "5lc 1b"
  shared := none

/-- The script `Ol_Onal`. -/
def olOnal : Script where
  names := ["olonal", "onao"]
  own := .ofPacked
    "2nyo 16 4 0"
  shared := some (.ofPacked
    "1us 1 2m3u 16 4 0")

/-- The script `Old_Hungarian`. -/
def oldHungarian : Script where
  names := ["hung", "oldhungarian"]
  own := .ofPacked
    "1h1c 1e d 1e 7 5"
  shared := some (.ofPacked
    "6e2 0 2 0 2qb 0 f 0 17we 1e d 1e 7 5")

/-- The script `Old_Italic`. -/
def oldItalic : Script where
  names := ["ital", "olditalic"]
  own := .ofPacked
    "1f5s z 9 2"
  shared := none

/-- The script `Old_North_Arabian`. -/
def oldNorthArabian : Script where
  names := ["narb", "oldnortharabian"]
  own := .ofPacked
    "1gn4 v"
  shared := none

/-- The script `Old_Permic`. -/
def oldPermic : Script where
  names := ["oldpermic", "perm"]
  own := .ofPacked
    "1f80 16"
  shared := some (.ofPacked
    "53 0 g8 0 5 2 a 0 a7 0 1ebw 16")

/-- The script `Old_Persian`. -/
def oldPersian : Script where
  names := ["oldpersian", "xpeo"]
  own := .ofPacked
    "1fa8 z 4 d"
  shared := none

/-- The script `Old_Sogdian`. -/
def oldSogdian : Script where
  names := ["oldsogdian", "sogo"]
  own := .ofPacked
    "1hj4 13"
  shared := none

/-- The script `Old_South_Arabian`. -/
def oldSouthArabian : Script where
  names := ["oldsoutharabian", "sarb"]
  own := .ofPacked
    "1gm8 v"
  shared := none

/-- The script `Old_Turkic`. -/
def oldTurkic : Script where
  names := ["oldturkic", "orkh"]
  own := .ofPacked
    "1gxs 20"
  shared := some (.ofPacked
    "6e2 0 2qd 0 17tb 20")

/-- The script `Old_Uyghur`. -/
def oldUyghur : Script where
  names := ["olduyghur", "ougr"]
  own := .ofPacked
    "1hm8 p"
  shared := some (.ofPacked
    "18g 0 1fht 0 vx p")

/-- The script `Oriya`. -/
def oriya : Script where
  names := ["oriya", "orya"]
  own := .ofPacked
    "269 2 1 7 2 1 2 l 1 6 1 1 1 4 2 8 2 1 2 2 7 2 4 1 1 4 2 h"
  shared := some (.ofPacked
    "1u9 1 h 1 bf 2 1 7 2 1 2 l 1 6 1 1 1 4 2 8 2 1 2 2 7 2 4 1 1 4 2 h 3fm 0 n 0")

/-- The script `Osage`. -/
def osage : Script where
  names := ["osage", "osge"]
  own := .ofPacked
    "1fhs z 4 z"
  shared := some (.ofPacked
    "ld 0 2 0 6 0 24 0 1etz z 4 z")

/-- The script `Osmanya`. -/
def osmanya : Script where
  names := ["osma", "osmanya"]
  own := .ofPacked
    "1fgg t 2 9"
  shared := none

/-- The script `Pahawh_Hmong`. -/
def pahawhHmong : Script where
  names := ["hmng", "pahawhhmong"]
  own := .ofPacked
    "1zpc 1x a 9 1 6 1 k 5 i"
  shared := none

/-- The script `Palmyrene`. -/
def palmyrene : Script where
  names := ["palm", "palmyrene"]
  own := .ofPacked
    "1g80 v"
  shared := none

/-- The script `Pau_Cin_Hau`. -/
def pauCinHau : Script where
  names := ["pauc", "paucinhau"]
  own := .ofPacked
    "1juo 1k"
  shared := none

/-- The script `Phags_Pa`. -/
def phagsPa : Script where
  names := ["phag", "phagspa"]
  own := .ofPacked
    "x8g 1j"
  shared := some (.ofPacked
    "4qq 1 1 0 1m1 0 34i 0 nr1 1j")

/-- The script `Phoenician`. -/
def phoenician : Script where
  names := ["phnx", "phoenician"]
  own := .ofPacked
    "1gcg r 3 0"
  shared := none

/-- The script `Psalter_Pahlavi`. -/
def psalterPahlavi : Script where
  names := ["phlp", "psalterpahlavi"]
  own := .ofPacked
    "1gu8 h 7 3 c 6"
  shared := some (.ofPacked
    "18g 0 1flr h 7 3 c 6")

/-- The script `Rejang`. -/
def rejang : Script where
  names := ["rejang", "rjng"]
  own := .ofPacked
    "xf4 z b 0"
  shared := none

/-- The script `Runic`. -/
def runic : Script where
  names := ["runic", "runr"]
  own := .ofPacked
    "4gw 22 3 a"
  shared := some (.ofPacked
    "4gw 2g")

/-- The script `Samaritan`. -/
def samaritan : Script where
  names := ["samaritan", "samr"]
  own := .ofPacked
    "1kw 19 2 e"
  shared := some (.ofPacked
    "1kw 19 2 e 7hu 0")

/-- The script `Saurashtra`. -/
def saurashtra : Script where
  names := ["saur", "saurashtra"]
  own := .ofPacked
    "xa8 1x 8 b"
  shared := none

/-- The script `Sharada`. -/
def sharada : Script where
  names := ["sharada", "shrd"]
  own := .ofPacked
    "1i0w 2n"
  shared := some (.ofPacked
    "1u9 0 3ut 0 1 0 2 1 2 0 rin 5 2 0 ksn 2n")

/-- The script `Shavian`. -/
def shavian : Script where
  names := ["shavian", "shaw"]
  own := .ofPacked
    "1ff4 1b"
  shared := some (.ofPacked
    "53 0 1fa0 1b")

/-- The script `Siddham`. -/
def siddham : Script where
  names := ["sidd", "siddham"]
  own := .ofPacked
    "1itc 1h 2 11"
  shared := none

/-- The script `SignWriting`. -/
def signwriting : Script where
  names := ["sgnw", "signwriting"]
  own := .ofPacked
    "2l8g i3 f 4 1 e"
  shared := none

/-- The script `Sinhala`. -/
def sinhala : Script where
  names := ["sinh", "sinhala"]
  own := .ofPacked
    "2o1 2 1 h 3 n 1 8 1 0 2 6 3 0 4 5 1 0 1 7 6 9 2 2 1fcc j"
  shared := some (.ofPacked
    "1us 1 t7 2 1 h 3 n 1 8 1 0 2 6 3 0 4 5 1 0 1 7 6 9 2 2 2yl 0 1cdq j")

/-- The script `Sogdian`. -/
def sogdian : Script where
  names := ["sogd", "sogdian"]
  own := .ofPacked
    "1hkg 15"
  shared := some (.ofPacked
    "18g 0 1gbz 15")

/-- The script `Sora_Sompeng`. -/
def soraSompeng : Script where
  names := ["sora", "sorasompeng"]
  own := .ofPacked
    "1hw0 o 7 9"
  shared := none

/-- The script `Soyombo`. -/
def soyombo : Script where
  names := ["soyo", "soyombo"]
  own := .ofPacked
    "1jrk 2a"
  shared := none

/-- The script `Sundanese`. -/
def sundanese : Script where
  names := ["sund", "sundanese"]
  own := .ofPacked
    "5fk 1r 74 7"
  shared := none

/-- The script `Sunuwar`. -/
def sunuwar : Script where
  names := ["sunu", "sunuwar"]
  own := .ofPacked
    "1k1s x e 9"
  shared := some (.ofPacked
    "lc 1 1 0 9 0 2 0 s 0 3 0 1jf2 x e 9")

/-- The script `Syloti_Nagri`. -/
def sylotiNagri : Script where
  names := ["sylo", "sylotinagri"]
  own := .ofPacked
    "x6o 18"
  shared := some (.ofPacked
    "1us 1 3k 9 v80 18")

/-- The script `Syriac`. -/
def syriac : Script where
  names := ["syrc", "syriac"]
  own := .ofPacked
    "1ds d 1 1n 2 2 7k a"
  shared := some (.ofPacked
    "lf 1 2 1 1 0 l 0 2 2 7 1 1 0 kb 0 e 1 2 0 w 0 a a q 0 3z d 1 1n 2 2 7k a 499 0 1 0")

/-- The script `Tagalog`. -/
def tagalog : Script where
  names := ["tagalog", "tglg"]
  own := .ofPacked
    "4jk l 9 0"
  shared := some (.ofPacked
    "4jk l 9 0 l 1")

/-- The script `Tagbanwa`. -/
def tagbanwa : Script where
  names := ["tagb", "tagbanwa"]
  own := .ofPacked
    "4m8 c 1 2 1 1"
  shared := some (.ofPacked
    "4l1 1 15 c 1 2 1 1")

/-- The script `Tai_Le`. -/
def taiLe : Script where
  names := ["taile", "tale"]
  own := .ofPacked
    "500 t 2 4"
  shared := some (.ofPacked
    "lc 1 5 1 3 0 2lv 9 1s6 t 2 4")

/-- The script `Tai_Tham`. -/
def taiTham : Script where
  names := ["lana", "taitham"]
  own := .ofPacked
    "55s 1q 1 s 2 a 6 9 6 d"
  shared := none

/-- The script `Tai_Viet`. -/
def taiViet : Script where
  names := ["taiviet", "tavt"]
  own := .ofPacked
    "xog 1u o 4"
  shared := none

/-- The script `Takri`. -/
def takri : Script where
  names := ["takr", "takri"]
  own := .ofPacked
    "1j0g 1l 6 9"
  shared := some (.ofPacked
    "1us 1 vd6 9 ls6 1l 6 9")

/-- The script `Tamil`. -/
def tamil : Script where
  names := ["tamil", "taml"]
  own := .ofPacked
    "29u 1 1 5 3 2 1 3 3 1 1 0 1 1 3 1 3 2 3 b 4 4 3 2 1 3 2 0 6 0 e k 1ih1 1d d 0"
  shared := some (.ofPacked
    "1u9 1 h 1 f0 1 1 5 3 2 1 3 3 1 1 0 1 1 3 1 3 2 3 b 4 4 3 2 1 3 2 0 6 0 e k 3bz 0 ro8 0 ky5
    0 1 0 1j 1 2gz 1d d 0")

/-- The script `Tangsa`. -/
def tangsa : Script where
  names := ["tangsa", "tnsa"]
  own := .ofPacked
    "1zlc 26 1 9"
  shared := none

/-- The script `Tangut`. -/
def tangut : Script where
  names := ["tang", "tangut"]
  own := .ofPacked
    "20o0 0 v 4qf 8 lb e8 8"
  shared := some (.ofPacked
    "9gw f dr 0 1qsw 0 v 4qf 8 lb e8 8")

/-- The script `Telugu`. -/
def telugu : Script where
  names := ["telu", "telugu"]
  own := .ofPacked
    "2dc c 1 2 1 m 1 f 2 8 1 2 1 3 7 1 1 2 2 0 2 3 2 9 7 8"
  shared := some (.ofPacked
    "1u9 1 h 1 ii c 1 2 1 m 1 f 2 8 1 2 1 3 7 1 1 2 2 0 2 3 2 9 7 8 38a 0 n 0")

/-- The script `Thaana`. -/
def thaana : Script where
  names := ["thaa", "thaana"]
  own := .ofPacked
    "1hc 1d"
  shared := some (.ofPacked
    "170 0 e 1 2 0 1s 9 7q 1d 1cn4 0 a 0")

/-- The script `Thai`. -/
def thai : Script where
  names := ["thai"]
  own := .ofPacked
    "2rl 1l 5 r"
  shared := some (.ofPacked
    "jg 0 q 0 17 0 19 0 24v 1l 5 r")

/-- The script `Tibetan`. -/
def tibetan : Script where
  names := ["tibetan", "tibt"]
  own := .ofPacked
    "2yo 1z 1 z 4 12 1 z 1 e 1 6 4 1"
  shared := some (.ofPacked
    "2yo 1z 1 z 4 12 1 z 1 e 1 6 4 1 6ct 3")

/-- The script `Tifinagh`. -/
def tifinagh : Script where
  names := ["tfng", "tifinagh"]
  own := .ofPacked
    "8xc 1j 7 1 e 0"
  shared := some (.ofPacked
    "le 0 1 0 2 0 1 0 8bq 1j 7 1 e 0")

/-- The script `Tirhuta`. -/
def tirhuta : Script where
  names := ["tirh", "tirhuta"]
  own := .ofPacked
    "1im8 1z 8 9"
  shared := some (.ofPacked
    "1u9 1 h 1 3v0 0 ri5 9 ldy 1z 8 9")

/-- The script `Todhri`. -/
def todhri : Script where
  names := ["todhri", "todr"]
  own := .ofPacked
    "1fpc 1f"
  shared := some (.ofPacked
    "ld 0 2 0 2 0 9 0 1 0 22 0 1f1d 1f")

/-- The script `Toto`. -/
def toto : Script where
  names := ["toto"]
  own := .ofPacked
    "2nbk u"
  shared := some (.ofPacked
    "jg 0 2ms3 u")

/-- The script `Tulu_Tigalari`. -/
def tuluTigalari : Script where
  names := ["tulutigalari", "tutg"]
  own := .ofPacked
    "1if4 9 1 0 2 0 1 11 1 9 1 0 2 0 1 3 1 9 1 1 8 1"
  shared := some (.ofPacked
    "2jq 9 35u 0 1 0 ri3 5 57 0 l1q 9 1 0 2 0 1 11 1 9 1 0 2 0 1 3 1 9 1 1 8 1")

/-- The script `Ugaritic`. -/
def ugaritic : Script where
  names := ["ugar", "ugaritic"]
  own := .ofPacked
    "1f9c t 1 0"
  shared := none

/-- The script `Vai`. -/
def vai : Script where
  names := ["vai", "vaii"]
  own := .ofPacked
    "wlc 8b"
  shared := none

/-- The script `Vithkuqi`. -/
def vithkuqi : Script where
  names := ["vith", "vithkuqi"]
  own := .ofPacked
    "1fn4 a 1 e 1 6 1 1 1 a 1 e 1 6 1 1"
  shared := none

/-- The script `Wancho`. -/
def wancho : Script where
  names := ["wancho", "wcho"]
  own := .ofPacked
    "2ncw 1l 5 0"
  shared := none

/-- The script `Warang_Citi`. -/
def warangCiti : Script where
  names := ["wara", "warangciti"]
  own := .ofPacked
    "1jfk 2a c 0"
  shared := none

/-- The script `Yezidi`. -/
def yezidi : Script where
  names := ["yezi", "yezidi"]
  own := .ofPacked
    "1hfk 15 1 2 2 1"
  shared := some (.ofPacked
    "170 0 e 0 3 0 1s 9 1g5y 15 1 2 2 1")

/-- The script `Yi`. -/
def yi : Script where
  names := ["yi", "yiii"]
  own := .ofPacked
    "vls wc 3 1i"
  shared := some (.ofPacked
    "9hd 1 5 9 2 7 67 0 lxg wc 3 1i hwa 4")

/-- The script `Zanabazar_Square`. -/
def zanabazarSquare : Script where
  names := ["zanabazarsquare", "zanb"]
  own := .ofPacked
    "1jpc 1z"
  shared := none

/-- All scripts. -/
def all : List Script :=
  [adlam, ahom, anatolianHieroglyphs, arabic, armenian, avestan, balinese, bamum, bassaVah,
   batak, bengali, bhaiksuki, bopomofo, brahmi, braille, buginese, buhid,
   canadianAboriginal, carian, caucasianAlbanian, chakma, cham, cherokee, chorasmian,
   common, coptic, cuneiform, cypriot, cyproMinoan, cyrillic, deseret, devanagari,
   divesAkuru, dogra, duployan, egyptianHieroglyphs, elbasan, elymaic, ethiopic, garay,
   georgian, glagolitic, gothic, grantha, greek, gujarati, gunjalaGondi, gurmukhi,
   gurungKhema, han, hangul, hanifiRohingya, hanunoo, hatran, hebrew, hiragana,
   imperialAramaic, inherited, inscriptionalPahlavi, inscriptionalParthian, javanese,
   kaithi, kannada, katakana, kawi, kayahLi, kharoshthi, khitanSmallScript, khmer, khojki,
   khudawadi, kiratRai, lao, latin, lepcha, limbu, linearA, linearB, lisu, lycian, lydian,
   mahajani, makasar, malayalam, mandaic, manichaean, marchen, masaramGondi, medefaidrin,
   meeteiMayek, mendeKikakui, meroiticCursive, meroiticHieroglyphs, miao, modi, mongolian,
   mro, multani, myanmar, nabataean, nagMundari, nandinagari, newTaiLue, newa, nko, nushu,
   nyiakengPuachueHmong, ogham, olChiki, olOnal, oldHungarian, oldItalic, oldNorthArabian,
   oldPermic, oldPersian, oldSogdian, oldSouthArabian, oldTurkic, oldUyghur, oriya, osage,
   osmanya, pahawhHmong, palmyrene, pauCinHau, phagsPa, phoenician, psalterPahlavi, rejang,
   runic, samaritan, saurashtra, sharada, shavian, siddham, signwriting, sinhala, sogdian,
   soraSompeng, soyombo, sundanese, sunuwar, sylotiNagri, syriac, tagalog, tagbanwa, taiLe,
   taiTham, taiViet, takri, tamil, tangsa, tangut, telugu, thaana, thai, tibetan, tifinagh,
   tirhuta, todhri, toto, tuluTigalari, ugaritic, vai, vithkuqi, wancho, warangCiti,
   yezidi, yi, zanabazarSquare]

/-- The script that goes by a loose name. -/
def ofName? (name : String) : Option Script :=
  all.find? fun script => script.names.contains name

/-- The characters that texts in the script use. -/
def inUse (script : Script) : RangeTable :=
  script.shared.getD script.own

end Script

end DesignTokens.Character
