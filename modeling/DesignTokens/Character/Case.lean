import DesignTokens.Character.Letter
import DesignTokens.Character.RangeTable.Algebra

/-! # Letter case

Lower case of characters and of texts, by edition 17.0 of the standard, and the characters that
differ from one another by case only, by edition 16.0.

A case table is stored packed as a text of numbers in base 36, four for each run: its first code
point, its number of code points, the distance from each to the next, and the image of the first.
The image of the others is as far from it as they are from the first.

## Main definitions

* `Character.lower` - the lower case of one character outside any text
* `Character.lowerText` - the lower case of a text, where a capital sigma that ends a word becomes
  the final form of the small letter
* `Character.anyCase` - a set of characters with all that differ from one of them by case only
-/

namespace DesignTokens.Character

/-- A run of code points with a common distance to their images. -/
structure CaseRun where
  first : Nat
  count : Nat
  stride : Nat
  image : Nat
  deriving Repr, DecidableEq

namespace CaseRun

/-- The runs a list of numbers stands for, four numbers for each. -/
def ofNumbers : List Nat → List CaseRun
  | first :: count :: stride :: image :: rest => ⟨first, count, stride, image⟩ :: ofNumbers rest
  | _ => []

/-- The image of a code point of the run. -/
def image? (run : CaseRun) (n : Nat) : Option Nat :=
  if run.first ≤ n ∧ (n - run.first) % run.stride = 0 ∧
      (n - run.first) / run.stride < run.count then
    some (run.image + (n - run.first))
  else
    none

end CaseRun

/-- The characters with another character as their lower case. -/
def lowerRuns : List CaseRun := CaseRun.ofNumbers <| RangeTable.numbers
  "1t q 1 2p 5c n 1 68 60 7 1 6w 74 o 2 75 8i 3 2 8j 8p 8 2 8q 96 n 2 97 ag 1 1 73 ah 3 2 ai ap
  1 1 gj aq 2 2 ar au 1 1 gk av 1 1 aw ax 2 1 gm az 1 1 b0 b2 1 1 d9 b3 1 1 gp b4 1 1 gr b5 1 1
  b6 b7 1 1 gw b8 1 1 gz ba 1 1 h5 bb 1 1 h4 bc 1 1 bd bg 1 1 hb bh 1 1 he bj 1 1 hh bk 3 2 bl
  bq 1 1 hs br 1 1 bs bt 1 1 hv bw 1 1 bx by 1 1 i0 bz 1 1 c0 c1 2 1 i2 c3 2 2 c4 c7 1 1 ia c8
  1 1 c9 cc 1 1 cd ck 1 1 cm cl 1 1 cm cn 1 1 cp co 1 1 cp cq 1 1 cs cr 9 2 cs da 9 2 db dt 1 1
  dv du 2 2 dv dy 1 1 b9 dz 1 1 cf e0 k 2 e1 f4 1 1 bi f6 9 2 f7 fu 1 1 8rp fv 1 1 fw fx 1 1 be
  fy 1 1 8rq g1 1 1 g2 g3 1 1 ao g4 1 1 i1 g5 1 1 i4 g6 5 2 g7 og 2 2 oh om 1 1 on ov 1 1 s3 p2
  1 1 q4 p4 3 1 q5 p8 1 1 r0 pa 2 1 r1 pd h 1 q9 pv 9 1 qr r3 1 1 rb rc c 2 rd s4 1 1 qg s7 1 1
  s8 s9 1 1 s2 sa 1 1 sb sd 3 1 or sg g 1 uo sw w 1 ts v4 h 2 v5 wa r 2 wb xs 1 1 y7 xt 7 2 xu
  y8 1c 2 y9 10x 12 1 129 3a8 12 1 8w0 3bb 1 1 8x3 3bh 1 1 8x9 3vk 28 1 xv4 3xs 6 1 3y0 5mx 1 1
  5my 5n4 17 1 3bk 5od 3 1 3ct 5xc 23 2 5xd 61q 1 1 67 61s 1c 2 61t 64o 8 1 64g 654 6 1 64w 65k
  8 1 65c 660 8 1 65s 66g 6 1 668 66x 4 2 66p 67c 8 1 674 688 8 1 680 68o 8 1 68g 694 8 1 68w
  69k 2 1 69c 69m 2 1 67k 69o 1 1 69f 6a0 4 1 67m 6a4 1 1 69v 6ag 2 1 6a8 6ai 2 1 67q 6aw 2 1
  6ao 6ay 2 1 67u 6b0 1 1 6at 6bc 2 1 67s 6be 2 1 67w 6bg 1 1 6b7 6jq 1 1 qx 6ju 1 1 2z 6jv 1 1
  6d 6k2 1 1 6ku 6lc g 1 6ls 6mb 1 1 6mc 792 q 1 79s 8ow 1c 1 8q8 8rk 1 1 8rl 8rm 1 1 h7 8rn 1
  1 5tp 8ro 1 1 hp 8rr 3 2 8rs 8rx 1 1 gh 8ry 1 1 hd 8rz 1 1 gg 8s0 1 1 gi 8s2 1 1 8s3 8s5 1 1
  8s6 8se 2 1 fz 8sg 1e 2 8sh 8vf 2 2 8vg 8vm 1 1 8vn wu8 n 2 wu9 ww0 e 2 ww1 x0i 7 2 x0j x0y v
  2 x0z x2x 2 2 x2y x31 1 1 5tl x32 5 2 x33 x3f 1 1 x3g x3h 1 1 h1 x3k 2 2 x3l x3q a 2 x3r x4a
  1 1 h2 x4b 1 1 gs x4c 1 1 gx x4d 1 1 h8 x4e 1 1 h6 x4g 1 1 im x4h 1 1 hz x4i 1 1 il x4j 1 1
  xub x4k 8 2 x4l x50 1 1 x3o x51 1 1 hu x52 1 1 5u6 x53 2 2 x54 x57 1 1 h0 x58 8 2 x59 x5o 1 1
  bf x6d 1 1 x6e 1ee9 q 1 1ef5 1fcw 14 1 1fe0 1fhs 10 1 1fiw 1fn4 b 1 1fo7 1fng f 1 1foj 1fnw 7
  1 1foz 1fo4 2 1 1fp7 1h1c 1f 1 1h34 1h74 m 1 1h80 1jfk w 1 1jgg 20cg w 1 20dc 20f4 p 1 20fv
  2olc y 1 2oma"

/-- The characters that another character stands for when case is left out of account. -/
def foldRuns : List CaseRun := CaseRun.ofNumbers <| RangeTable.numbers
  "1t q 1 2p 51 1 1 qk 5c n 1 68 60 7 1 6w 74 o 2 75 8i 3 2 8j 8p 8 2 8q 96 n 2 97 ag 1 1 73 ah
  3 2 ai an 1 1 37 ap 1 1 gj aq 2 2 ar au 1 1 gk av 1 1 aw ax 2 1 gm az 1 1 b0 b2 1 1 d9 b3 1 1
  gp b4 1 1 gr b5 1 1 b6 b7 1 1 gw b8 1 1 gz ba 1 1 h5 bb 1 1 h4 bc 1 1 bd bg 1 1 hb bh 1 1 he
  bj 1 1 hh bk 3 2 bl bq 1 1 hs br 1 1 bs bt 1 1 hv bw 1 1 bx by 1 1 i0 bz 1 1 c0 c1 2 1 i2 c3
  2 2 c4 c7 1 1 ia c8 1 1 c9 cc 1 1 cd ck 1 1 cm cl 1 1 cm cn 1 1 cp co 1 1 cp cq 1 1 cs cr 9 2
  cs da 9 2 db dt 1 1 dv du 2 2 dv dy 1 1 b9 dz 1 1 cf e0 k 2 e1 f4 1 1 bi f6 9 2 f7 fu 1 1 8rp
  fv 1 1 fw fx 1 1 be fy 1 1 8rq g1 1 1 g2 g3 1 1 ao g4 1 1 i1 g5 1 1 i4 g6 5 2 g7 n9 1 1 qh og
  2 2 oh om 1 1 on ov 1 1 s3 p2 1 1 q4 p4 3 1 q5 p8 1 1 r0 pa 2 1 r1 pd h 1 q9 pv 9 1 qr qq 1 1
  qr r3 1 1 rb r4 1 1 qa r5 1 1 qg r9 1 1 qu ra 1 1 qo rc c 2 rd s0 1 1 qi s1 1 1 qp s4 1 1 qg
  s5 1 1 qd s7 1 1 s8 s9 1 1 s2 sa 1 1 sb sd 3 1 or sg g 1 uo sw w 1 ts v4 h 2 v5 wa r 2 wb xs
  1 1 y7 xt 7 2 xu y8 1c 2 y9 10x 12 1 129 3a8 12 1 8w0 3bb 1 1 8x3 3bh 1 1 8x9 3y0 6 1 3xs 5mo
  1 1 tu 5mp 1 1 tw 5mq 1 1 u6 5mr 2 1 u9 5mt 1 1 ua 5mu 1 1 ui 5mv 1 1 v7 5mw 1 1 wuj 5mx 1 1
  5my 5n4 17 1 3bk 5od 3 1 3ct 5xc 23 2 5xd 61n 1 1 601 61q 1 1 67 61s 1c 2 61t 64o 8 1 64g 654
  6 1 64w 65k 8 1 65c 660 8 1 65s 66g 6 1 668 66x 4 2 66p 67c 8 1 674 688 8 1 680 68o 8 1 68g
  694 8 1 68w 69k 2 1 69c 69m 2 1 67k 69o 1 1 69f 69q 1 1 qh 6a0 4 1 67m 6a4 1 1 69v 6ab 1 1 pc
  6ag 2 1 6a8 6ai 2 1 67q 6ar 1 1 q8 6aw 2 1 6ao 6ay 2 1 67u 6b0 1 1 6at 6bc 2 1 67s 6be 2 1
  67w 6bg 1 1 6b7 6jq 1 1 qx 6ju 1 1 2z 6jv 1 1 6d 6k2 1 1 6ku 6lc g 1 6ls 6mb 1 1 6mc 792 q 1
  79s 8ow 1c 1 8q8 8rk 1 1 8rl 8rm 1 1 h7 8rn 1 1 5tp 8ro 1 1 hp 8rr 3 2 8rs 8rx 1 1 gh 8ry 1 1
  hd 8rz 1 1 gg 8s0 1 1 gi 8s2 1 1 8s3 8s5 1 1 8s6 8se 2 1 fz 8sg 1e 2 8sh 8vf 2 2 8vg 8vm 1 1
  8vn wu8 n 2 wu9 ww0 e 2 ww1 x0i 7 2 x0j x0y v 2 x0z x2x 2 2 x2y x31 1 1 5tl x32 5 2 x33 x3f 1
  1 x3g x3h 1 1 h1 x3k 2 2 x3l x3q a 2 x3r x4a 1 1 h2 x4b 1 1 gs x4c 1 1 gx x4d 1 1 h8 x4e 1 1
  h6 x4g 1 1 im x4h 1 1 hz x4i 1 1 il x4j 1 1 xub x4k 8 2 x4l x50 1 1 x3o x51 1 1 hu x52 1 1
  5u6 x53 2 2 x54 x57 1 1 h0 x58 1 1 x59 x5c 1 1 x5d x5i 3 2 x5j x5o 1 1 bf x6d 1 1 x6e xv4 28
  1 3vk 1dl1 1 1 1dl2 1ee9 q 1 1ef5 1fcw 14 1 1fe0 1fhs 10 1 1fiw 1fn4 b 1 1fo7 1fng f 1 1foj
  1fnw 7 1 1foz 1fo4 2 1 1fp7 1h1c 1f 1 1h34 1h74 m 1 1h80 1jfk w 1 1jgg 20cg w 1 20dc 2olc y 1
  2oma"

/-- The lower case of a character by itself: itself unless a table or, for a capital I with a dot,
the rule of two characters says otherwise. -/
def lower (c : Char) : List Char :=
  if c.toNat < 128 then [c.toLower]
  else if c.toNat = 0x130 then ['i', Char.ofNat 0x307]
  else
    match lowerRuns.findSome? (·.image? c.toNat) with
    | some n => [Char.ofNat n]
    | none => [c]

/-- Whether a letter with case stands in a text before anything but characters that case passes
over. -/
def meetsCased : List Char → Bool
  | [] => false
  | c :: rest =>
    if Letter.caseIgnorable.contains c then meetsCased rest
    else Letter.cased.contains c

/-- The lower case of a text whose part already read is `before`, last character first. A capital
sigma after a letter and before none becomes the final small sigma. -/
def lowerFrom (before : List Char) : List Char → List Char
  | [] => []
  | c :: rest =>
    let image :=
      if c.toNat = 0x3A3 then
        [if meetsCased before && !meetsCased rest then Char.ofNat 0x3C2 else Char.ofNat 0x3C3]
      else lower c
    image ++ lowerFrom (c :: before) rest

/-- The lower case of a text. -/
def lowerText (text : List Char) : List Char :=
  lowerFrom [] text

/-- The pairs of a code point and the one that stands for it. -/
def CaseRun.pairs (run : CaseRun) : List (Nat × Nat) :=
  (List.range run.count).map fun k => (run.first + k * run.stride, run.image + k * run.stride)

/-- The pairs of a code point and another that stands for it and all that differ by case only. -/
def foldPairs : List (Nat × Nat) :=
  foldRuns.flatMap CaseRun.pairs

/-- The code points of a table and all that differ from one of them by case only. -/
def anyCase (table : RangeTable) : RangeTable :=
  let touched := foldPairs.filter fun (n, stem) => table.has n || table.has stem
  let stems := RangeTable.ofRanges (touched.map fun (_, stem) => (stem, stem))
  let variants := foldPairs.filter fun (_, stem) => stems.has stem
  RangeTable.ofRanges
    (table.ranges ++ stems.ranges ++ variants.map fun (n, _) => (n, n))

end DesignTokens.Character
