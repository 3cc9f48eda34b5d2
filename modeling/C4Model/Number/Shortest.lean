/-! The fewest decimal digits that read back as a given binary number, and of those the nearest. A
finite number is a significand times a power of two; the reals that round to it form an interval
around it, whose ends belong to it exactly if the significand is even. Everything is compared in
natural numbers. -/

namespace C4Model.Number

/-- The number `digits * 10 ^ exponent`. -/
structure Decimal where
  digits : Nat
  exponent : Int
  deriving DecidableEq

/-- The number `significand * 2 ^ exponent`. The flag tells that the number below lies only half as
far away as the number above. -/
structure Magnitude where
  significand : Nat
  exponent : Int
  narrowBelow : Bool

/-- The magnitude that the bits of a finite number stand for. -/
def Magnitude.ofBits (bits : UInt64) : Magnitude :=
  let biased := ((bits >>> 52) &&& 0x7FF).toNat
  let fraction := (bits &&& 0xFFFFFFFFFFFFF).toNat
  if biased = 0 then ⟨fraction, -1074, false⟩
  else ⟨Nat.pow 2 52 + fraction, (biased : Int) - 1075, fraction == 0 && biased > 1⟩

/-- Compares `a * 10 ^ i` with `b * 2 ^ j`. -/
def compareScaled (a : Nat) (i : Int) (b : Nat) (j : Int) : Ordering :=
  compare (a * Nat.pow 10 i.toNat * Nat.pow 2 (-j).toNat)
    (b * Nat.pow 2 j.toNat * Nat.pow 10 (-i).toNat)

/-- Whether the decimal lies among the reals that round to the magnitude. -/
def Magnitude.readsBack (x : Magnitude) (d : Decimal) : Bool :=
  let low := if x.narrowBelow then 4 * x.significand - 1 else 4 * x.significand - 2
  let high := 4 * x.significand + 2
  let endsBelong := x.significand % 2 == 0
  let aboveLow := compareScaled d.digits d.exponent low (x.exponent - 2)
  let belowHigh := compareScaled d.digits d.exponent high (x.exponent - 2)
  (aboveLow == .gt || endsBelong && aboveLow == .eq)
    && (belowHigh == .lt || endsBelong && belowHigh == .eq)

/-- The least `k` in a range of candidates with the magnitude below `10 ^ k`. -/
def Magnitude.scale (x : Magnitude) : Int :=
  let candidates := (List.range 640).map fun i : Nat => (i : Int) - 324
  (candidates.find? fun k => compareScaled 1 k x.significand x.exponent == .gt).getD 0

/-- The magnitude divided by `10 ^ grid`, rounded down. -/
def Magnitude.floorOn (x : Magnitude) (grid : Int) : Nat :=
  (x.significand * Nat.pow 2 x.exponent.toNat * Nat.pow 10 (-grid).toNat)
    / (Nat.pow 10 grid.toNat * Nat.pow 2 (-x.exponent).toNat)

/-- The better of the magnitude's two neighbours on the grid of multiples of `10 ^ grid`, if one of
them reads back. Of two the nearer is taken, and on a tie the even one. -/
def Magnitude.onGrid? (x : Magnitude) (grid : Int) : Option Decimal :=
  let below := x.floorOn grid
  match x.readsBack ⟨below, grid⟩, x.readsBack ⟨below + 1, grid⟩ with
  | true, true =>
      match compareScaled (2 * below + 1) grid (2 * x.significand) x.exponent with
      | .gt => some ⟨below, grid⟩
      | .lt => some ⟨below + 1, grid⟩
      | .eq => some ⟨below + below % 2, grid⟩
  | true, false => some ⟨below, grid⟩
  | false, true => some ⟨below + 1, grid⟩
  | false, false => none

/-- Moves the zeros at the end of the digits into the exponent. The first argument bounds how many. -/
def Decimal.stripZeros : Nat → Decimal → Decimal
  | 0, d => d
  | bound + 1, d =>
      if d.digits ≠ 0 && d.digits % 10 == 0 then
        stripZeros bound ⟨d.digits / 10, d.exponent + 1⟩
      else d

/-- The shortest decimal that reads back as the magnitude. Seventeen digits always suffice; were they
not to, the whole part would be given. -/
def Magnitude.shortest (x : Magnitude) : Decimal :=
  if x.significand = 0 then ⟨0, 0⟩
  else
    let k := x.scale
    let found := (List.range 17).findSome? fun n : Nat => x.onGrid? (k - 1 - n)
    (found.getD ⟨x.floorOn 0, 0⟩).stripZeros 18

end C4Model.Number
