import C4Model.Number.Shortest

/-! The text of a floating point number: the shortest digits that read back, written out between
`1e-04` and `1e+16` and with an exponent beyond, always with a point or an exponent. -/

namespace C4Model.Number

/-- Digits with a decimal point after the first `point` of them, which may lie outside the digits. -/
def positional (digits : List Char) (point : Int) : List Char :=
  if point ≤ 0 then '0' :: '.' :: List.replicate (-point).toNat '0' ++ digits
  else if digits.length ≤ point.toNat then
    digits ++ List.replicate (point.toNat - digits.length) '0' ++ ['.', '0']
  else digits.take point.toNat ++ '.' :: digits.drop point.toNat

/-- The first digit, the others after a point, and the exponent with its sign and two digits at
least. -/
def withExponent (digits : List Char) (exponent : Int) : List Char :=
  let mantissa :=
    match digits with
    | first :: second :: rest => first :: '.' :: second :: rest
    | _ => digits
  let size := Nat.toDigits 10 exponent.natAbs
  mantissa ++ 'e' :: (if exponent < 0 then '-' else '+')
    :: (List.replicate (2 - size.length) '0' ++ size)

def Decimal.layout (d : Decimal) : List Char :=
  let digits := Nat.toDigits 10 d.digits
  let point : Int := if d.digits = 0 then 1 else digits.length + d.exponent
  if -4 < point ∧ point ≤ 16 then positional digits point else withExponent digits (point - 1)

def floatText (x : Float) : String :=
  if x.isNaN then "nan"
  else
    let sign := if x.toBits >>> 63 == 1 then "-" else ""
    if x.isInf then sign ++ "inf"
    else sign ++ String.ofList (Magnitude.ofBits x.toBits).shortest.layout

/-- The floating point number nearest to a decimal. Decimals too large for the format give infinity,
and decimals too small give zero. -/
def Decimal.toFloat (d : Decimal) : Float :=
  let size : Int := (Nat.toDigits 10 d.digits).length + d.exponent
  if d.digits = 0 || size < -400 then 0
  else if 400 < size then 1 / 0
  else Float.ofScientific d.digits (d.exponent < 0) d.exponent.natAbs

end C4Model.Number
