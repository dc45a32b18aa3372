import RowSelection.Declaration.Literal

set_option autoImplicit false

namespace RowSelection.Declaration

open Text Decimal

def greatestSignificand : Nat := Nat.pow 2 64 - 1
def greatestNegative : Nat := Nat.pow 2 63
def greatestPower : Nat := Nat.pow 2 31 - 1

def startsWithDigit : List Char → Bool
  | [] => false
  | c :: _ => (digit? c).isSome

def dropDigits (text : List Char) : List Char :=
  text.dropWhile fun c => (digit? c).isSome

structure TakenDigits where
  value : Nat
  count : Nat
  rest : List Char

def takeDigits (limit value : Nat) : List Char → TakenDigits
  | [] => ⟨value, 0, []⟩
  | c :: rest =>
      match digit? c with
      | none => ⟨value, 0, c :: rest⟩
      | some digit =>
          if limit < value * 10 + digit then ⟨value, 0, c :: rest⟩
          else
            let taken := takeDigits limit (value * 10 + digit) rest
            { taken with count := taken.count + 1 }

def finishFloat (negative : Bool) (significand : Nat) (power : Int) (rest : List Char) :
    Read Numeral :=
  match Binary64.ofDecimal? significand power with
  | some magnitude => .ok (.float negative magnitude, rest)
  | none => .error (.before .numberOutOfRange rest)

-- The rest of a number behind the letter of its exponent. A power with too many digits makes the
-- number zero, or out of range.
def readPower (negative : Bool) (significand : Nat) (power : Int) (text : List Char) :
    Read Numeral :=
  let (down, text) :=
    match text with
    | '+' :: rest => (false, rest)
    | '-' :: rest => (true, rest)
    | rest => (false, rest)
  if text.isEmpty then .error (.before .endInValue [])
  else if !startsWithDigit text then .error (.within .invalidNumber text)
  else
    let taken := takeDigits greatestPower 0 text
    if startsWithDigit taken.rest then
      if significand ≠ 0 ∧ down = false then .error (.within .numberOutOfRange taken.rest)
      else .ok (.float negative Binary64.zero, dropDigits taken.rest)
    else
      finishFloat negative significand (if down then power - taken.value else power + taken.value)
        taken.rest

def readExponent (negative : Bool) (significand : Nat) (power : Int) : List Char → Read Numeral
  | 'e' :: rest | 'E' :: rest => readPower negative significand power rest
  | rest => finishFloat negative significand power rest

def readFraction (negative : Bool) (significand : Nat) (power : Int) (text : List Char) :
    Read Numeral :=
  let taken := takeDigits greatestSignificand significand text
  if taken.count = 0 ∧ startsWithDigit taken.rest = false then
    if taken.rest.isEmpty then .error (.before .endInValue [])
    else .error (.within .invalidNumber taken.rest)
  else readExponent negative taken.value (power - taken.count) (dropDigits taken.rest)

-- A whole number as it is held: floats take the place of zero with a minus sign and of what is
-- too low for the signed width.
def finishWhole (negative : Bool) (value : Nat) (rest : List Char) : Read Numeral :=
  if negative = false then .ok (.integer value, rest)
  else if value = 0 ∨ greatestNegative < value then finishFloat true value 0 rest
  else .ok (.integer (-value), rest)

def readSuffix (negative : Bool) (significand skipped : Nat) : List Char → Read Numeral
  | '.' :: rest => readFraction negative significand skipped rest
  | 'e' :: rest | 'E' :: rest => readPower negative significand skipped rest
  | rest =>
      if skipped = 0 then finishWhole negative significand rest
      else finishFloat negative significand skipped rest

-- No number is ever wanted in a declaration, but one is read to its end before it is refused.
def readNumber (negative : Bool) : List Char → Read Numeral
  | [] => .error (.before .endInValue [])
  | '0' :: rest =>
      if startsWithDigit rest then .error (.within .invalidNumber rest)
      else readSuffix negative 0 0 rest
  | c :: rest =>
      if (digit? c).isSome then
        let taken := takeDigits greatestSignificand 0 (c :: rest)
        let skipped := taken.rest.length - (dropDigits taken.rest).length
        readSuffix negative taken.value skipped (dropDigits taken.rest)
      else .error (.within .invalidNumber (c :: rest))

end RowSelection.Declaration
