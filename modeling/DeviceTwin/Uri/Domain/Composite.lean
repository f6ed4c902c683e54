import DeviceTwin.Uri.Domain.Mark

/-!
# Composites

Some characters can be written in parts: a letter and a mark, or the letters of a Hangul syllable.
`normal` brings a text to the form that has a composite wherever there is one, with the marks in
order.
-/
namespace DeviceTwin.Composite

/-- Composites, each with its two parts. -/
def pairText : String := "
  E0>61.300 E1>61.301 E2>61.302 E3>61.303 E4>61.308 E5>61.30A E7>63.327 E8>65.300 E9>65.301
  EA>65.302 EB>65.308 EC>69.300 ED>69.301 EE>69.302 EF>69.308 F1>6E.303 F2>6F.300 F3>6F.301
  F4>6F.302 F5>6F.303 F6>6F.308 F9>75.300 FA>75.301 FB>75.302 FC>75.308 FD>79.301 FF>79.308
  101>61.304 103>61.306 105>61.328 107>63.301 109>63.302 10B>63.307 10D>63.30C 10F>64.30C
  113>65.304 115>65.306 117>65.307 119>65.328 11B>65.30C 11D>67.302 11F>67.306 121>67.307
  123>67.327 125>68.302 129>69.303 12B>69.304 12D>69.306 12F>69.328 135>6A.302 137>6B.327
  13A>6C.301 13C>6C.327 13E>6C.30C 144>6E.301 146>6E.327 148>6E.30C 14D>6F.304 14F>6F.306
  151>6F.30B 155>72.301 157>72.327 159>72.30C 15B>73.301 15D>73.302 15F>73.327 161>73.30C
  163>74.327 165>74.30C 169>75.303 16B>75.304 16D>75.306 16F>75.30A 171>75.30B 173>75.328
  175>77.302 177>79.302 17A>7A.301 17C>7A.307 17E>7A.30C 1A1>6F.31B 1B0>75.31B 1CE>61.30C
  1D0>69.30C 1D2>6F.30C 1D4>75.30C 1D6>FC.304 1D8>FC.301 1DA>FC.30C 1DC>FC.300 1DF>E4.304
  1E1>227.304 1E3>E6.304 1E7>67.30C 1E9>6B.30C 1EB>6F.328 1ED>1EB.304 1EF>292.30C 1F0>6A.30C
  1F5>67.301 1F9>6E.300 1FB>E5.301 1FD>E6.301 1FF>F8.301 201>61.30F 203>61.311 205>65.30F
  207>65.311 209>69.30F 20B>69.311 20D>6F.30F 20F>6F.311 211>72.30F 213>72.311 215>75.30F
  217>75.311 219>73.326 21B>74.326 21F>68.30C 227>61.307 229>65.327 22B>F6.304 22D>F5.304
  22F>6F.307 231>22F.304 233>79.304 390>3CA.301 3AC>3B1.301 3AD>3B5.301 3AE>3B7.301 3AF>3B9.301
  3B0>3CB.301 3CA>3B9.308 3CB>3C5.308 3CC>3BF.301 3CD>3C5.301 3CE>3C9.301 439>438.306 450>435.300
  451>435.308 453>433.301 457>456.308 45C>43A.301 45D>438.300 45E>443.306 477>475.30F 4C2>436.306
  4D1>430.306 4D3>430.308 4D7>435.306 4DB>4D9.308 4DD>436.308 4DF>437.308 4E3>438.304 4E5>438.308
  4E7>43E.308 4EB>4E9.308 4ED>44D.308 4EF>443.304 4F1>443.308 4F3>443.30B 4F5>447.308 4F9>44B.308
  622>627.653 623>627.654 624>648.654 625>627.655 626>64A.654 6C0>6D5.654 6C2>6C1.654 6D3>6D2.654
  929>928.93C 931>930.93C 934>933.93C 9CB>9C7.9BE 9CC>9C7.9D7 B48>B47.B56 B4B>B47.B3E B4C>B47.B57
  B94>B92.BD7 BCA>BC6.BBE BCB>BC7.BBE BCC>BC6.BD7 C48>C46.C56 CC0>CBF.CD5 CC7>CC6.CD5 CC8>CC6.CD6
  CCA>CC6.CC2 CCB>CCA.CD5 D4A>D46.D3E D4B>D47.D3E D4C>D46.D57 DDA>DD9.DCA DDC>DD9.DCF DDD>DDC.DCA
  DDE>DD9.DDF 1026>1025.102E 1B06>1B05.1B35 1B08>1B07.1B35 1B0A>1B09.1B35 1B0C>1B0B.1B35
  1B0E>1B0D.1B35 1B12>1B11.1B35 1B3B>1B3A.1B35 1B3D>1B3C.1B35 1B40>1B3E.1B35 1B41>1B3F.1B35
  1B43>1B42.1B35 1E01>61.325 1E03>62.307 1E05>62.323 1E07>62.331 1E09>E7.301 1E0B>64.307
  1E0D>64.323 1E0F>64.331 1E11>64.327 1E13>64.32D 1E15>113.300 1E17>113.301 1E19>65.32D
  1E1B>65.330 1E1D>229.306 1E1F>66.307 1E21>67.304 1E23>68.307 1E25>68.323 1E27>68.308
  1E29>68.327 1E2B>68.32E 1E2D>69.330 1E2F>EF.301 1E31>6B.301 1E33>6B.323 1E35>6B.331 1E37>6C.323
  1E39>1E37.304 1E3B>6C.331 1E3D>6C.32D 1E3F>6D.301 1E41>6D.307 1E43>6D.323 1E45>6E.307
  1E47>6E.323 1E49>6E.331 1E4B>6E.32D 1E4D>F5.301 1E4F>F5.308 1E51>14D.300 1E53>14D.301
  1E55>70.301 1E57>70.307 1E59>72.307 1E5B>72.323 1E5D>1E5B.304 1E5F>72.331 1E61>73.307
  1E63>73.323 1E65>15B.307 1E67>161.307 1E69>1E63.307 1E6B>74.307 1E6D>74.323 1E6F>74.331
  1E71>74.32D 1E73>75.324 1E75>75.330 1E77>75.32D 1E79>169.301 1E7B>16B.308 1E7D>76.303
  1E7F>76.323 1E81>77.300 1E83>77.301 1E85>77.308 1E87>77.307 1E89>77.323 1E8B>78.307 1E8D>78.308
  1E8F>79.307 1E91>7A.302 1E93>7A.323 1E95>7A.331 1E96>68.331 1E97>74.308 1E98>77.30A 1E99>79.30A
  1EA1>61.323 1EA3>61.309 1EA5>E2.301 1EA7>E2.300 1EA9>E2.309 1EAB>E2.303 1EAD>1EA1.302
  1EAF>103.301 1EB1>103.300 1EB3>103.309 1EB5>103.303 1EB7>1EA1.306 1EB9>65.323 1EBB>65.309
  1EBD>65.303 1EBF>EA.301 1EC1>EA.300 1EC3>EA.309 1EC5>EA.303 1EC7>1EB9.302 1EC9>69.309
  1ECB>69.323 1ECD>6F.323 1ECF>6F.309 1ED1>F4.301 1ED3>F4.300 1ED5>F4.309 1ED7>F4.303
  1ED9>1ECD.302 1EDB>1A1.301 1EDD>1A1.300 1EDF>1A1.309 1EE1>1A1.303 1EE3>1A1.323 1EE5>75.323
  1EE7>75.309 1EE9>1B0.301 1EEB>1B0.300 1EED>1B0.309 1EEF>1B0.303 1EF1>1B0.323 1EF3>79.300
  1EF5>79.323 1EF7>79.309 1EF9>79.303 1F00>3B1.313 1F01>3B1.314 1F02>1F00.300 1F03>1F01.300
  1F04>1F00.301 1F05>1F01.301 1F06>1F00.342 1F07>1F01.342 1F10>3B5.313 1F11>3B5.314 1F12>1F10.300
  1F13>1F11.300 1F14>1F10.301 1F15>1F11.301 1F20>3B7.313 1F21>3B7.314 1F22>1F20.300 1F23>1F21.300
  1F24>1F20.301 1F25>1F21.301 1F26>1F20.342 1F27>1F21.342 1F30>3B9.313 1F31>3B9.314 1F32>1F30.300
  1F33>1F31.300 1F34>1F30.301 1F35>1F31.301 1F36>1F30.342 1F37>1F31.342 1F40>3BF.313 1F41>3BF.314
  1F42>1F40.300 1F43>1F41.300 1F44>1F40.301 1F45>1F41.301 1F50>3C5.313 1F51>3C5.314 1F52>1F50.300
  1F53>1F51.300 1F54>1F50.301 1F55>1F51.301 1F56>1F50.342 1F57>1F51.342 1F60>3C9.313 1F61>3C9.314
  1F62>1F60.300 1F63>1F61.300 1F64>1F60.301 1F65>1F61.301 1F66>1F60.342 1F67>1F61.342
  1F70>3B1.300 1F72>3B5.300 1F74>3B7.300 1F76>3B9.300 1F78>3BF.300 1F7A>3C5.300 1F7C>3C9.300
  1FB0>3B1.306 1FB1>3B1.304 1FB6>3B1.342 1FC6>3B7.342 1FD0>3B9.306 1FD1>3B9.304 1FD2>3CA.300
  1FD6>3B9.342 1FD7>3CA.342 1FE0>3C5.306 1FE1>3C5.304 1FE2>3CB.300 1FE4>3C1.313 1FE5>3C1.314
  1FE6>3C5.342 1FE7>3CB.342 1FF6>3C9.342 219A>2190.338 219B>2192.338 21AE>2194.338 21CD>21D0.338
  21CE>21D4.338 21CF>21D2.338 2204>2203.338 2209>2208.338 220C>220B.338 2224>2223.338
  2226>2225.338 2241>223C.338 2244>2243.338 2247>2245.338 2249>2248.338 2260>3D.338 2262>2261.338
  226D>224D.338 226E>3C.338 226F>3E.338 2270>2264.338 2271>2265.338 2274>2272.338 2275>2273.338
  2278>2276.338 2279>2277.338 2280>227A.338 2281>227B.338 2284>2282.338 2285>2283.338
  2288>2286.338 2289>2287.338 22AC>22A2.338 22AD>22A8.338 22AE>22A9.338 22AF>22AB.338
  22E0>227C.338 22E1>227D.338 22E2>2291.338 22E3>2292.338 22EA>22B2.338 22EB>22B3.338
  22EC>22B4.338 22ED>22B5.338 304C>304B.3099 304E>304D.3099 3050>304F.3099 3052>3051.3099
  3054>3053.3099 3056>3055.3099 3058>3057.3099 305A>3059.3099 305C>305B.3099 305E>305D.3099
  3060>305F.3099 3062>3061.3099 3065>3064.3099 3067>3066.3099 3069>3068.3099 3070>306F.3099
  3071>306F.309A 3073>3072.3099 3074>3072.309A 3076>3075.3099 3077>3075.309A 3079>3078.3099
  307A>3078.309A 307C>307B.3099 307D>307B.309A 3094>3046.3099 309E>309D.3099 30AC>30AB.3099
  30AE>30AD.3099 30B0>30AF.3099 30B2>30B1.3099 30B4>30B3.3099 30B6>30B5.3099 30B8>30B7.3099
  30BA>30B9.3099 30BC>30BB.3099 30BE>30BD.3099 30C0>30BF.3099 30C2>30C1.3099 30C5>30C4.3099
  30C7>30C6.3099 30C9>30C8.3099 30D0>30CF.3099 30D1>30CF.309A 30D3>30D2.3099 30D4>30D2.309A
  30D6>30D5.3099 30D7>30D5.309A 30D9>30D8.3099 30DA>30D8.309A 30DC>30DB.3099 30DD>30DB.309A
  30F4>30A6.3099 30F7>30EF.3099 30F8>30F0.3099 30F9>30F1.3099 30FA>30F2.3099 30FE>30FD.3099
  105C9>105D2.307 105E4>105DA.307 1109A>11099.110BA 1109C>1109B.110BA 110AB>110A5.110BA
  1112E>11131.11127 1112F>11132.11127 1134B>11347.1133E 1134C>11347.11357 11383>11382.113C9
  11385>11384.113BB 1138E>1138B.113C2 11391>11390.113C9 113C5>113C2.113C2 113C7>113C2.113B8
  113C8>113C2.113C9 114BB>114B9.114BA 114BC>114B9.114B0 114BE>114B9.114BD 115BA>115B8.115AF
  115BB>115B9.115AF 11938>11935.11930 16121>1611E.1611E 16122>1611E.16129 16123>1611E.1611F
  16124>16129.1611F 16125>1611E.16120 16126>16121.1611F 16127>16122.1611F 16128>16121.16120
  16D68>16D67.16D67 16D69>16D63.16D67 16D6A>16D69.16D67"

def pairs : List (Nat × List Char) :=
  (Table.words pairText).map fun word =>
    let (whole, parts) := Table.sides word
    (Table.code whole, Table.characters parts)

def partsTable : Table (List Char) := .ofList pairs

/-- One number for two code points. -/
def pairCode (a b : Nat) : Nat := a * 0x200000 + b

/-- The composite of each two parts. -/
def wholeTable : Table Nat :=
  .ofList (pairs.filterMap fun (whole, parts) =>
    match parts with
    | [a, b] => some (pairCode a.toNat b.toNat, whole)
    | _ => none)

/-! ## Hangul -/

/-- The parts of a Hangul syllable: two letters, or a syllable of two letters and a third one. -/
def syllableParts? (n : Nat) : Option (Nat × Nat) :=
  if 0xAC00 ≤ n ∧ n < 0xD7A4 then
    let i := n - 0xAC00
    if i % 28 = 0 then some (0x1100 + i / 588, 0x1161 + i % 588 / 28)
    else some (n - i % 28, 0x11A7 + i % 28)
  else none

def syllable? (a b : Nat) : Option Nat :=
  if 0x1100 ≤ a ∧ a < 0x1113 ∧ 0x1161 ≤ b ∧ b < 0x1176 then
    some (0xAC00 + ((a - 0x1100) * 21 + (b - 0x1161)) * 28)
  else if 0xAC00 ≤ a ∧ a < 0xD7A4 ∧ (a - 0xAC00) % 28 = 0 ∧ 0x11A7 < b ∧ b < 0x11C3 then
    some (a + (b - 0x11A7))
  else none

/-! ## The normal form -/

def parts? (c : Char) : Option (List Char) :=
  match syllableParts? c.toNat with
  | some (a, b) => some [Char.ofNat a, Char.ofNat b]
  | none => partsTable.get? c.toNat

def whole? (a b : Char) : Option Char :=
  match syllable? a.toNat b.toNat with
  | some n => some (Char.ofNat n)
  | none => (wholeTable.get? (pairCode a.toNat b.toNat)).map Char.ofNat

/-- The greatest number of times that a composite can be taken apart. -/
def maxDepth : Nat := 4

/-- A character in its last parts, taken apart at most `depth` times. -/
def takeApart : (depth : Nat) → Char → List Char
  | 0, c => [c]
  | depth + 1, c =>
    match parts? c with
    | some parts => parts.flatMap (takeApart depth)
    | none => [c]

/-- A text that is being put together. -/
structure Joined where
  /-- What is settled, the last character first. -/
  settled : List Char
  /-- The character that what follows may be joined to. -/
  base : Option Char
  /-- What stands behind it and could not be joined, the last character first. -/
  behind : List Char
  deriving DecidableEq, Repr

/-- All characters, the last one first. -/
def Joined.all (j : Joined) : List Char := j.behind ++ j.base.toList ++ j.settled

/-- Whether a character with class `k` reaches the base: nothing stands in between that has its class,
a higher one, or class zero. -/
def Joined.reaches (j : Joined) (k : Nat) : Bool :=
  match j.behind.head? with
  | none => true
  | some last => Mark.classOf last < k

def Joined.step (j : Joined) (c : Char) : Joined :=
  let k := Mark.classOf c
  let joined := j.base.bind fun base => if j.reaches k then whole? base c else none
  match joined with
  | some whole => { j with base := some whole }
  | none => if k = 0 then ⟨j.all, some c, []⟩ else { j with behind := c :: j.behind }

/-- Puts composites in the place of their parts. -/
def join (cs : List Char) : List Char := (cs.foldl Joined.step ⟨[], none, []⟩).all.reverse

def normal (cs : List Char) : List Char := join (Mark.inOrder (cs.flatMap (takeApart maxDepth)))

end DeviceTwin.Composite
