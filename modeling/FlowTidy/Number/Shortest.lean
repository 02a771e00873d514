import FlowTidy.Number.Binary
import FlowTidy.Text.Basic

/-!
The decimal with the fewest digits among those that are nearest to a given binary number, and its
text. For one digit, two digits and so on the two multiples of that power of ten next to the number
are tried; the first that rounds back to the number is taken.
-/

namespace FlowTidy

/-- The numbers that round to a binary number, seen on the multiples of a power of ten. All parts
are scaled by one factor, so that they are natural numbers. -/
structure Grid where
  /-- The distance of two neighbours on the grid. -/
  step : Nat
  /-- The lower end of the numbers that round to the value. -/
  low : Nat
  value : Nat
  /-- The upper end of the numbers that round to the value. -/
  high : Nat
  /-- Whether the ends round to the value too. -/
  closed : Bool

namespace Grid

/-- Whether a multiple of the step rounds to the value. -/
def admits (g : Grid) (n : Nat) : Bool :=
  (g.low < n * g.step || g.closed && g.low == n * g.step) &&
    (n * g.step < g.high || g.closed && n * g.step == g.high)

/-- The multiple of the step nearest to the value, if one of its two neighbours rounds to it. Of two
that are equally near the even one is taken. -/
def nearest? (g : Grid) : Option Nat :=
  let below := g.value / g.step
  match g.admits below, g.admits (below + 1) with
  | true, true =>
    match compare (2 * g.value) ((2 * below + 1) * g.step) with
    | .lt => some below
    | .gt => some (below + 1)
    | .eq => some (if below % 2 = 0 then below else below + 1)
  | true, false => some below
  | false, true => some (below + 1)
  | false, false => none

end Grid

namespace Binary

/-- The numbers that round to `x`, on the multiples of `10 ^ e`. They reach halfway to the numbers
next to `x`, and the one below a power of two is half as far away as the one above. -/
def grid (x : Binary) (e : Int) : Grid :=
  let scale := powerUp 2 (x.exponent - 2) * powerDown 10 e
  let narrow := x.mantissa = leastMantissa ∧ -1074 < x.exponent
  { step := powerUp 10 e * powerDown 2 (x.exponent - 2)
    low := (4 * x.mantissa - if narrow then 1 else 2) * scale
    value := 4 * x.mantissa * scale
    high := (4 * x.mantissa + 2) * scale
    closed := x.mantissa % 2 = 0 }

/-- The least `k` with `x < 10 ^ k`, for positive `x`. -/
def decimalOrder (x : Binary) : Int :=
  let k : Int := ((x.mantissa.log2 : Int) + x.exponent) * 30103 / 100000 + 1
  if x.mantissa * powerUp 2 x.exponent * powerDown 10 k
      < powerUp 10 k * powerDown 2 x.exponent then k else k + 1

/-- All digits of a number. -/
def exact (x : Binary) : Decimal :=
  if 0 ≤ x.exponent then ⟨x.mantissa * powerUp 2 x.exponent, 0⟩
  else ⟨x.mantissa * powerDown 5 x.exponent, x.exponent⟩

end Binary

/-- The same decimal without zeros at the end of its digits. -/
def Decimal.strip (d : Decimal) : Decimal :=
  if d.digits ≠ 0 ∧ d.digits % 10 = 0 then strip ⟨d.digits / 10, d.exponent + 1⟩ else d
termination_by d.digits

/-- The shortest decimal that rounds to a positive number. -/
def Binary.shortest (x : Binary) : Decimal :=
  let found := (List.range 17).findSome? fun (i : Nat) =>
    let e := x.decimalOrder - 1 - i
    (x.grid e).nearest?.map (Decimal.mk · e)
  (found.getD x.exact).strip

/-! ## Text -/

/-- The text of a decimal. With the first digit between the fifth place after the point and the
sixteenth before it, it is written out, with at least one digit after the point; otherwise with an
exponent and its sign. -/
def Decimal.render (d : Decimal) : Text :=
  let digits := Text.ofNat d.digits
  let e : Int := digits.length - 1 + d.exponent
  if e < -5 ∨ 15 < e then
    let fraction := if digits.length = 1 then [] else '.' :: digits.drop 1
    digits.take 1 ++ fraction ++ ['e', if e < 0 then '-' else '+'] ++ Text.ofNat e.natAbs
  else if 0 ≤ d.exponent then
    digits ++ List.replicate d.exponent.toNat '0' ++ ['.', '0']
  else if 0 ≤ e then
    digits.take (e.toNat + 1) ++ '.' :: digits.drop (e.toNat + 1)
  else
    ['0', '.'] ++ List.replicate (-e - 1).toNat '0' ++ digits

/-- The text of a number: the shortest that reads back. -/
def Binary.render (x : Binary) : Text :=
  if x.mantissa = 0 then ['0', '.', '0'] else x.shortest.render

end FlowTidy
