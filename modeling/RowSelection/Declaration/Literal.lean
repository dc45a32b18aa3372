import RowSelection.Declaration.Fault

set_option autoImplicit false

namespace RowSelection.Declaration

open Text

abbrev Read (α : Type) := Except Fault (α × List Char)

def digitIn? (base : Nat) (c : Char) : Option Nat :=
  let value :=
    if '0' ≤ c ∧ c ≤ '9' then some (c.toNat - '0'.toNat)
    else if 'a' ≤ c ∧ c ≤ 'f' then some (c.toNat - 'a'.toNat + 10)
    else if 'A' ≤ c ∧ c ≤ 'F' then some (c.toNat - 'A'.toNat + 10)
    else none
  value.filter fun digit => digit < base

def digit? : Char → Option Nat := digitIn? 10

def hexDigit? : Char → Option Nat := digitIn? 16

def fourHex? (a b c d : Char) : Option Nat := do
  return (((← hexDigit? a) * 16 + (← hexDigit? b)) * 16 + (← hexDigit? c)) * 16 + (← hexDigit? d)

-- Four hexadecimal digits. Four bytes are always taken, whatever they hold.
def readFourHex (text : List Char) : Read Nat :=
  if byteLength text < 4 then .error (.before .endInLiteral [])
  else
    let refused := Except.error ⟨.invalidEscape, byteLength text - 4⟩
    match text with
    | a :: b :: c :: d :: rest =>
        match fourHex? a b c d with
        | some unit => .ok (unit, rest)
        | none => refused
    | _ => refused

def isHighSurrogate (unit : Nat) : Bool :=
  decide (0xd800 ≤ unit) && decide (unit < 0xdc00)

def isLowSurrogate (unit : Nat) : Bool :=
  decide (0xdc00 ≤ unit) && decide (unit < 0xe000)

def joinSurrogates (high low : Nat) : Char :=
  Char.ofNat (0x10000 + (high - 0xd800) * 0x400 + (low - 0xdc00))

def readLowSurrogate (high : Nat) : List Char → Read Char
  | [] | ['\\'] => .error (.before .endInLiteral [])
  | '\\' :: 'u' :: rest =>
      match readFourHex rest with
      | .error fault => .error fault
      | .ok (low, rest) =>
          if isLowSurrogate low then .ok (joinSurrogates high low, rest)
          else .error (.before .loneSurrogate rest)
  | '\\' :: rest => .error (.within .unfinishedPair rest)
  | rest => .error (.within .unfinishedPair rest)

def readCodeUnits (text : List Char) : Read Char :=
  match readFourHex text with
  | .error fault => .error fault
  | .ok (unit, rest) =>
      if isLowSurrogate unit then .error (.before .loneSurrogate rest)
      else if isHighSurrogate unit then readLowSurrogate unit rest
      else .ok (Char.ofNat unit, rest)

def letterEscape? : Char → Option Char
  | '"' => some '"'
  | '\\' => some '\\'
  | '/' => some '/'
  | 'b' => some '\x08'
  | 'f' => some '\x0c'
  | 'n' => some '\n'
  | 'r' => some '\r'
  | 't' => some '\t'
  | _ => none

def readEscape : List Char → Read Char
  | [] => .error (.before .endInLiteral [])
  | 'u' :: rest => readCodeUnits rest
  | c :: rest =>
      match letterEscape? c with
      | some plain => .ok (plain, rest)
      | none => .error (.within .invalidEscape (c :: rest))

theorem read_four_hex_length {text rest : List Char} {unit : Nat}
    (read : readFourHex text = .ok (unit, rest)) : rest.length < text.length := by
  unfold readFourHex at read
  split at read
  · simp at read
  · split at read
    · split at read
      · simp only [Except.ok.injEq, Prod.mk.injEq] at read
        simp +arith [read.2]
      · simp at read
    · simp at read

theorem read_low_surrogate_length {high : Nat} {text rest : List Char} {c : Char}
    (read : readLowSurrogate high text = .ok (c, rest)) : rest.length < text.length := by
  unfold readLowSurrogate at read
  split at read <;> try simp at read
  split at read
  · simp at read
  · rename_i taken
    have step := read_four_hex_length taken
    split at read
    · simp only [Except.ok.injEq, Prod.mk.injEq] at read
      rw [← read.2]
      simp
      omega
    · simp at read

theorem read_code_units_length {text rest : List Char} {c : Char}
    (read : readCodeUnits text = .ok (c, rest)) : rest.length < text.length := by
  unfold readCodeUnits at read
  split at read
  · simp at read
  · rename_i taken
    have step := read_four_hex_length taken
    split at read
    · simp at read
    · split at read
      · have := read_low_surrogate_length read
        omega
      · simp only [Except.ok.injEq, Prod.mk.injEq] at read
        rw [← read.2]
        exact step

theorem read_escape_length {text rest : List Char} {c : Char}
    (read : readEscape text = .ok (c, rest)) : rest.length < text.length := by
  unfold readEscape at read
  split at read
  · simp at read
  · have := read_code_units_length read
    simp
    omega
  · split at read
    · simp only [Except.ok.injEq, Prod.mk.injEq] at read
      simp [read.2]
    · simp at read

def prepend (c : Char) : Read (List Char) → Read (List Char)
  | .ok (chars, rest) => .ok (c :: chars, rest)
  | .error fault => .error fault

def readLiteral (text : List Char) : Read (List Char) :=
  match text with
  | [] => .error (.before .endInLiteral [])
  | '"' :: rest => .ok ([], rest)
  | '\\' :: rest =>
      match _shorter : readEscape rest with
      | .error fault => .error fault
      | .ok (c, rest) => prepend c (readLiteral rest)
  | c :: rest =>
      if c.toNat < 0x20 then .error (.before .controlCharacter rest)
      else prepend c (readLiteral rest)
termination_by text.length
decreasing_by
  · have := read_escape_length _shorter
    simp
    omega
  · simp

theorem read_literal_length {text rest chars : List Char}
    (read : readLiteral text = .ok (chars, rest)) : rest.length < text.length := by
  fun_induction readLiteral text generalizing chars with
  | case1 => cases read
  | case2 rest => cases read; simp
  | case3 => cases read
  | case4 tail c shorter taken ih =>
      have step := read_escape_length taken
      cases deeper : readLiteral shorter with
      | error fault => simp [deeper, prepend] at read
      | ok result =>
          simp [deeper, prepend] at read
          have inner : readLiteral shorter = .ok (result.1, rest) := by rw [deeper, ← read.2]
          have := ih inner
          simp
          omega
  | case5 => cases read
  | case6 c tail _ _ _ ih =>
      cases deeper : readLiteral tail with
      | error fault => simp [deeper, prepend] at read
      | ok result =>
          simp [deeper, prepend] at read
          have inner : readLiteral tail = .ok (result.1, rest) := by rw [deeper, ← read.2]
          have := ih inner
          simp
          omega

end RowSelection.Declaration
