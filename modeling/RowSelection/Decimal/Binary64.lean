set_option autoImplicit false

namespace RowSelection.Decimal

-- A significand below `2 ^ 53` times a power of two that is at least `2 ^ (-1074)`. Each operation
-- rounds its exact result once, so no machine float takes part.
structure Binary64 where
  significand : Nat
  exponent : Int
deriving DecidableEq

namespace Binary64

def leastExponent : Int := -1074
def greatestExponent : Int := 971
def leastNormal : Nat := Nat.pow 2 52

def zero : Binary64 := ⟨0, leastExponent⟩

def isZero (x : Binary64) : Bool := x.significand == 0

def roundQuotient (num den : Nat) : Nat :=
  let whole := num / den
  let twice := 2 * (num % den)
  if twice < den then whole
  else if den < twice then whole + 1
  else whole + whole % 2

def scaled (num den : Nat) (shift : Int) : Nat × Nat :=
  (num * Nat.pow 2 shift.toNat, den * Nat.pow 2 (-shift).toNat)

-- The nearest number to `num / den * 2 ^ shift`, nothing when that is beyond the greatest one.
-- The exponent is the one that leaves 53 bits of quotient, as far as the least exponent allows.
def ofQuotient? (num den : Nat) (shift : Int) : Option Binary64 :=
  if num = 0 then some zero
  else
    let guess : Int := (Nat.log2 num : Int) - Nat.log2 den - 52
    let tried := scaled num den (-guess)
    let exact := if tried.1 < leastNormal * tried.2 then guess - 1 else guess
    let exponent := max (exact + shift) leastExponent
    let ratio := scaled num den (shift - exponent)
    let significand := roundQuotient ratio.1 ratio.2
    let result : Binary64 :=
      if significand = 2 * leastNormal then ⟨leastNormal, exponent + 1⟩ else ⟨significand, exponent⟩
    if greatestExponent < result.exponent then none else some result

def ofNat? (n : Nat) : Option Binary64 :=
  ofQuotient? n 1 0

def times? (a b : Binary64) : Option Binary64 :=
  ofQuotient? (a.significand * b.significand) 1 (a.exponent + b.exponent)

def over? (a b : Binary64) : Option Binary64 :=
  ofQuotient? a.significand b.significand (a.exponent - b.exponent)

def tenPower? (power : Nat) : Option Binary64 :=
  ofNat? (Nat.pow 10 power)

def greatestTenPower : Nat := 308

def overGreatest? (x : Binary64) : Nat → Option Binary64
  | 0 => some x
  | count + 1 =>
      if x.isZero then some x
      else do (← x.over? (← tenPower? greatestTenPower)).overGreatest? count

-- `x / 10 ^ power`, dividing by at most the greatest power of ten at a time.
def scaleDown? (x : Binary64) (power : Nat) : Option Binary64 := do
  let count := (power - 1) / greatestTenPower
  (← x.overGreatest? count).over? (← tenPower? (power - count * greatestTenPower))

-- The number read for `digits * 10 ^ exponent`: the rounded digits times or over a rounded power
-- of ten, hence one more rounding than the nearest number needs. Nothing when it is too great.
def ofDecimal? (digits : Nat) (exponent : Int) : Option Binary64 :=
  (ofNat? digits).bind fun x =>
    if exponent < 0 then x.scaleDown? exponent.natAbs
    else if exponent.toNat ≤ greatestTenPower then (tenPower? exponent.toNat).bind x.times?
    else if x.isZero then some x
    else none

end Binary64
end RowSelection.Decimal
