/-!
Numbers with 53 significant bits, as a mantissa and a power of two, and the one that is nearest to a
decimal. All arithmetic is exact; a half goes to the even mantissa.
-/

namespace FlowTidy

/-- The number `digits * 10 ^ exponent`. -/
structure Decimal where
  digits : Nat
  exponent : Int
  deriving DecidableEq, Repr

/-- The number `mantissa * 2 ^ exponent`. In normal form the exponent is at least -1074 and the
mantissa is below `2 ^ 53`, and at least `2 ^ 52` unless the exponent is -1074. -/
structure Binary where
  mantissa : Nat
  exponent : Int
  deriving DecidableEq, Repr

/-- The power `base ^ e`, or 1 when the exponent is negative. -/
def powerUp (base : Nat) (e : Int) : Nat := Nat.pow base e.toNat

/-- The power `base ^ (-e)`, or 1 when the exponent is positive. -/
def powerDown (base : Nat) (e : Int) : Nat := Nat.pow base (-e).toNat

/-- The quotient rounded to the nearest natural number, a half to the even one. -/
def roundQuotient (num den : Nat) : Nat :=
  match compare (2 * (num % den)) den with
  | .lt => num / den
  | .gt => num / den + 1
  | .eq => if num / den % 2 = 0 then num / den else num / den + 1

/-- The exponent `e` with `2 ^ e ≤ num / den < 2 ^ (e + 1)`, for a positive quotient. -/
def binaryOrder (num den : Nat) : Int :=
  let e : Int := (num.log2 : Int) - den.log2
  if den * powerUp 2 e ≤ num * powerDown 2 e then e else e - 1

namespace Binary

def zero : Binary := ⟨0, -1074⟩

/-- The least mantissa of a normal form whose exponent is not the least one. -/
def leastMantissa : Nat := Nat.pow 2 52

/-- The nearest number to a positive quotient, or nothing when it would be too large. -/
def ofQuotient? (num den : Nat) : Option Binary :=
  let q := max (binaryOrder num den - 52) (-1074)
  let m := roundQuotient (num * powerDown 2 q) (den * powerUp 2 q)
  let x : Binary := if m = 2 * leastMantissa then ⟨leastMantissa, q + 1⟩ else ⟨m, q⟩
  if x.exponent ≤ 971 then some x else none

/-- The nearest number to a decimal, or nothing when it would be too large. Decimals that are far
out of range are told by the position of their first digit. -/
def ofDecimal? (d : Decimal) : Option Binary :=
  let order : Int := (Nat.toDigits 10 d.digits).length + d.exponent
  if d.digits = 0 ∨ order < -330 then some zero
  else if 310 < order then none
  else ofQuotient? (d.digits * powerUp 10 d.exponent) (powerDown 10 d.exponent)

end Binary

end FlowTidy
