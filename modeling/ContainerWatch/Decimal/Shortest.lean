import ContainerWatch.Decimal.Digits

/-!
The shortest decimal that reads back as a given binary64 number, and its text. For 1, 2, … 17
digits the two neighbours of the value on that decimal grid are tested against the interval of
reals that round to the value; the first grid with a hit wins, and of two hits the nearer.
-/

namespace ContainerWatch.Decimal

/-- The value and the interval of a finite positive double, all three as quarter units over one
denominator. `closed` tells whether the ends round to the value too. -/
structure Rounding where
  low : Nat
  value : Nat
  high : Nat
  den : Nat
  closed : Bool

def fractionSize : Nat := 0x10000000000000

def signBit : Nat := 0x8000000000000000

def Rounding.ofBits (bits : Nat) : Rounding :=
  let e : Nat := bits / fractionSize % 2048
  let f : Nat := bits % fractionSize
  let m : Nat := if e = 0 then f else fractionSize + f
  let q : Int := (if e = 0 then 1 else (e : Int)) - 1075
  let up := Nat.pow 2 q.toNat
  let den := 4 * Nat.pow 2 (-q).toNat
  let gap := if f = 0 ∧ 1 < e then 1 else 2
  ⟨(4 * m - gap) * up, 4 * m * up, (4 * m + 2) * up, den, m % 2 == 0⟩

/-- Whether `d · 10ᵏ` lies in the interval; `num` and `den` scale to the power of ten. -/
def Rounding.holds (r : Rounding) (d scaleNum scaleDen : Nat) : Bool :=
  let x := d * scaleNum * r.den
  let low := r.low * scaleDen
  let high := r.high * scaleDen
  if r.closed then low ≤ x && x ≤ high else low < x && x < high

def leading (num den : Nat) : Int :=
  let guess : Int := ((Nat.log2 num : Int) - (Nat.log2 den : Int)) * 30103 / 100000
  let atMost (p : Int) : Bool := Nat.pow 10 p.toNat * den ≤ num * Nat.pow 10 (-p).toNat
  if atMost (guess + 1) then guess + 1 else if atMost guess then guess else guess - 1

def Rounding.hit? (r : Rounding) (top : Int) (n : Nat) : Option (Nat × Int) :=
  let k := top - (n : Int) + 1
  let scaleNum := Nat.pow 10 k.toNat
  let scaleDen := Nat.pow 10 (-k).toNat
  let d := r.value * scaleDen / (r.den * scaleNum)
  let below := r.holds d scaleNum scaleDen
  let above := r.holds (d + 1) scaleNum scaleDen
  if below && above then
    let x := 2 * r.value * scaleDen
    let mid := (2 * d + 1) * r.den * scaleNum
    if x < mid ∨ (x = mid ∧ d % 2 = 0) then some (d, k) else some (d + 1, k)
  else if below then some (d, k)
  else if above then some (d + 1, k)
  else none

def stripZeros : Nat → Nat → Int → Nat × Int
  | 0, d, k => (d, k)
  | fuel + 1, d, k => if d % 10 = 0 ∧ d ≠ 0 then stripZeros fuel (d / 10) (k + 1) else (d, k)

def shortest (bits : Nat) : Nat × Int :=
  let r := Rounding.ofBits bits
  let top := leading r.value r.den
  match (List.range 17).findSome? fun n => r.hit? top (n + 1) with
  | some (d, k) => stripZeros 20 d k
  | none => (0, 0)

structure RealFormat where
  least : Int
  most : Int

/-- Numbers from 1e-5 up to below 1e16 are written positionally, always with a fraction; others with
an exponent that carries its sign. -/
def plainReal : RealFormat := ⟨-5, 15⟩

def RealFormat.text (form : RealFormat) (d : Nat) (k : Int) : List Char :=
  let ds := digits d
  let point : Int := ds.length + k
  let e := point - 1
  if form.least ≤ e ∧ e ≤ form.most then
    if 0 ≤ k then ds ++ List.replicate k.toNat '0' ++ ['.', '0']
    else if 0 < point then ds.take point.toNat ++ '.' :: ds.drop point.toNat
    else '0' :: '.' :: List.replicate (-point).toNat '0' ++ ds
  else
    let frac := match ds.tail with
      | [] => []
      | more => '.' :: more
    ds.take 1 ++ frac ++ 'e' :: (if e < 0 then '-' else '+') :: digits e.natAbs

def realText (x : Float) : Option (List Char) :=
  let bits := x.toBits.toNat
  let mag := bits % signBit
  let sign := if bits < signBit then [] else ['-']
  if 2047 * fractionSize ≤ mag then none
  else if mag = 0 then some (sign ++ ['0', '.', '0'])
  else
    let (d, k) := shortest mag
    some (sign ++ plainReal.text d k)

end ContainerWatch.Decimal
