import RowSelection.Decimal.Binary64

set_option autoImplicit false

namespace RowSelection.Decimal

structure Digits where
  digits : Nat
  exponent : Int
deriving DecidableEq

-- The reals that round to a number, in units of `2 ^ (exponent - 2)`. Below a power of two the
-- neighbour is half as far. The ends belong to it when the significand is even.
structure Rounding where
  lower : Nat
  value : Nat
  upper : Nat
  exponent : Int
  closed : Bool

def Binary64.rounding (x : Binary64) : Rounding where
  lower :=
    if x.significand = Binary64.leastNormal ∧ Binary64.leastExponent < x.exponent then
      4 * x.significand - 1
    else 4 * x.significand - 2
  value := 4 * x.significand
  upper := 4 * x.significand + 2
  exponent := x.exponent - 2
  closed := x.significand % 2 == 0

namespace Rounding

-- What one unit and one step of `10 ^ power` are worth in a measure that makes both whole.
def measures (r : Rounding) (power : Int) : Nat × Nat :=
  (Nat.pow 2 r.exponent.toNat * Nat.pow 10 (-power).toNat,
    Nat.pow 10 power.toNat * Nat.pow 2 (-r.exponent).toNat)

-- The multiple of `10 ^ power` to write: of those below and above the value that read back, the
-- nearer one, the even one of two equally near.
def multiple? (r : Rounding) (power : Int) : Option Nat :=
  let (unit, step) := r.measures power
  let value := r.value * unit
  let below := value / step
  let within := fun n : Nat =>
    if r.closed then decide (r.lower * unit ≤ n * step) && decide (n * step ≤ r.upper * unit)
    else decide (r.lower * unit < n * step) && decide (n * step < r.upper * unit)
  match within below, within (below + 1) with
  | true, true =>
      let gapBelow := value - below * step
      let gapAbove := (below + 1) * step - value
      if gapBelow < gapAbove then some below
      else if gapAbove < gapBelow then some (below + 1)
      else some (below + below % 2)
  | true, false => some below
  | false, true => some (below + 1)
  | false, false => none

-- No binary64 number needs a finer power of ten than this.
def finestPower : Int := -324

def search (r : Rounding) : Nat → Digits
  | 0 => ⟨(r.multiple? finestPower).getD 0, finestPower⟩
  | n + 1 =>
      let power := finestPower + (n + 1 : Nat)
      match r.multiple? power with
      | some digits => ⟨digits, power⟩
      | none => r.search n

end Rounding

def Binary64.shortest (x : Binary64) : Digits :=
  if x.isZero then ⟨0, 0⟩ else x.rounding.search 633

structure Layout where
  leastPositional : Int
  greatestPositional : Int

namespace Digits

def text (d : Digits) : List Char :=
  Nat.toDigits 10 d.digits

def leading (d : Digits) : Int :=
  d.exponent + (d.text.length : Int) - 1

def positional (d : Digits) : List Char :=
  if 0 ≤ d.exponent then
    d.text ++ List.replicate d.exponent.toNat '0' ++ ['.', '0']
  else if 0 ≤ d.leading then
    let whole := d.leading.toNat + 1
    d.text.take whole ++ ['.'] ++ d.text.drop whole
  else ['0', '.'] ++ List.replicate (d.leading.natAbs - 1) '0' ++ d.text

def scientific (d : Digits) : List Char :=
  let fraction := d.text.drop 1
  d.text.take 1 ++ (if fraction.isEmpty then [] else '.' :: fraction) ++
    ['e', if d.leading < 0 then '-' else '+'] ++ Nat.toDigits 10 d.leading.natAbs

def render (layout : Layout) (d : Digits) : List Char :=
  if layout.leastPositional ≤ d.leading ∧ d.leading ≤ layout.greatestPositional then d.positional
  else d.scientific

end Digits
end RowSelection.Decimal
