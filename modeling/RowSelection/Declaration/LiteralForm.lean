import RowSelection.Declaration.Codec
import RowSelection.Declaration.Grammar

set_option autoImplicit false

namespace RowSelection.Declaration

open Text

theorem eq_of_nat {c : Char} {number : Nat} (own : c.toNat = number) : c = Char.ofNat number := by
  rw [← own, Char.ofNat_toNat]

theorem to_nat_of_nat {number : Nat} (valid : number.isValidChar) : (Char.ofNat number).toNat = number := by
  rw [Char.ofNat, dif_pos valid]
  rfl

theorem HexDigit.lt {digit : Char} {value : Nat} (form : HexDigit digit value) : value < 16 := by
  rcases form with found | found
  · exact (List.getElem?_eq_some_iff.mp found).1
  · exact (List.getElem?_eq_some_iff.mp found).1

theorem hex_digit?_of_form {digit : Char} {value : Nat} (form : HexDigit digit value) : hexDigit? digit = some value := by
  have lower : ∀ entry ∈ "0123456789abcdef".toList.zipIdx, hexDigit? entry.1 = some entry.2 := by decide
  have upper : ∀ entry ∈ "0123456789ABCDEF".toList.zipIdx, hexDigit? entry.1 = some entry.2 := by decide
  rcases form with found | found
  · exact lower (digit, value) (List.mk_mem_zipIdx_iff_getElem?.mpr found)
  · exact upper (digit, value) (List.mk_mem_zipIdx_iff_getElem?.mpr found)

theorem form_of_hex_digit? {digit : Char} {value : Nat} (read : hexDigit? digit = some value) : HexDigit digit value := by
  have digits : ∀ place < 10, "0123456789abcdef".toList[place]? = some (Char.ofNat (place + 48)) := by decide
  have lower : ∀ place < 16, 10 ≤ place → "0123456789abcdef".toList[place]? = some (Char.ofNat (place + 87)) := by decide
  have upper : ∀ place < 16, 10 ≤ place → "0123456789ABCDEF".toList[place]? = some (Char.ofNat (place + 55)) := by decide
  unfold hexDigit? digitIn? at read
  obtain ⟨taken, small⟩ := Option.filter_eq_some_iff.mp read
  have below : value < 16 := of_decide_eq_true small
  split at taken
  · rename_i between
    have above : 48 ≤ digit.toNat := between.1
    have within : digit.toNat ≤ 57 := between.2
    have own : digit.toNat - 48 = value := Option.some.inj taken
    rw [eq_of_nat (show digit.toNat = value + 48 by omega)]
    exact .inl (digits value (by omega))
  · split at taken
    · rename_i between
      have above : 97 ≤ digit.toNat := between.1
      have own : digit.toNat - 97 + 10 = value := Option.some.inj taken
      rw [eq_of_nat (show digit.toNat = value + 87 by omega)]
      exact .inl (lower value below (by omega))
    · split at taken
      · rename_i between
        have above : 65 ≤ digit.toNat := between.1
        have own : digit.toNat - 65 + 10 = value := Option.some.inj taken
        rw [eq_of_nat (show digit.toNat = value + 55 by omega)]
        exact .inr (upper value below (by omega))
      · cases taken

theorem HexNumber.lt {digits : List Char} {number : Nat} (form : HexNumber digits number) : number < 0x10000 := by
  cases form with
  | four one two three last =>
      have first := one.lt
      have second := two.lt
      have third := three.lt
      have fourth := last.lt
      omega

theorem four_le_byte_length (a b c d : Char) (rest : List Char) :
    4 ≤ byteLength (a :: b :: c :: d :: rest) := by
  have sizeA := a.utf8Size_pos
  have sizeB := b.utf8Size_pos
  have sizeC := c.utf8Size_pos
  have sizeD := d.utf8Size_pos
  simp only [byte_length_cons]
  omega

theorem read_four_hex_of_form {digits : List Char} {number : Nat} (form : HexNumber digits number) (rest : List Char) :
    readFourHex (digits ++ rest) = .ok (number, rest) := by
  cases form with
  | @four a b c d _ _ _ _ one two three last =>
      have enough := four_le_byte_length a b c d rest
      simp only [readFourHex, List.cons_append, List.nil_append]
      rw [if_neg (by omega)]
      simp [fourHex?, hex_digit?_of_form one, hex_digit?_of_form two, hex_digit?_of_form three, hex_digit?_of_form last]

theorem form_of_read_four_hex {text rest : List Char} {number : Nat} (read : readFourHex text = .ok (number, rest)) :
    ∃ digits, text = digits ++ rest ∧ HexNumber digits number := by
  unfold readFourHex at read
  split at read
  · cases read
  · split at read
    · rename_i a b c d _ _
      split at read
      · rename_i taken
        cases read
        simp only [fourHex?, Option.bind_eq_bind, Option.bind_eq_some_iff, Option.pure_def, Option.some.injEq] at taken
        obtain ⟨first, one, second, two, third, three, fourth, last, rfl⟩ := taken
        exact ⟨[a, b, c, d], rfl, .four (form_of_hex_digit? one) (form_of_hex_digit? two) (form_of_hex_digit? three)
          (form_of_hex_digit? last)⟩
      · cases read
    · cases read

theorem is_low_surrogate_iff (number : Nat) : isLowSurrogate number = true ↔ 0xdc00 ≤ number ∧ number < 0xe000 := by
  simp [isLowSurrogate]

theorem is_high_surrogate_iff (number : Nat) : isHighSurrogate number = true ↔ 0xd800 ≤ number ∧ number < 0xdc00 := by
  simp [isHighSurrogate]

theorem not_surrogate (c : Char) : isLowSurrogate c.toNat = false ∧ isHighSurrogate c.toNat = false := by
  have valid : c.toNat < 0xd800 ∨ 0xdfff < c.toNat ∧ c.toNat < 0x110000 := c.valid
  simp only [Bool.eq_false_iff, Ne, is_low_surrogate_iff, is_high_surrogate_iff]
  omega

theorem to_nat_join_surrogates {high low : Nat} (pair : SurrogatePair high low) :
    (joinSurrogates high low).toNat = 0x10000 + (high - 0xd800) * 0x400 + (low - 0xdc00) := by
  obtain ⟨_, highBelow, _, lowBelow⟩ := pair
  exact to_nat_of_nat (.inr (by omega))

theorem read_low_surrogate_of_form {digits : List Char} {high low : Nat} (form : HexNumber digits low)
    (pair : SurrogatePair high low) (rest : List Char) :
    readLowSurrogate high ('\\' :: 'u' :: (digits ++ rest)) = .ok (joinSurrogates high low, rest) := by
  have isLow := (is_low_surrogate_iff low).mpr ⟨pair.low_ge, pair.low_lt⟩
  rw [readLowSurrogate, read_four_hex_of_form form]
  exact if_pos isLow

theorem form_of_read_low_surrogate {text rest : List Char} {high : Nat} {c : Char}
    (read : readLowSurrogate high text = .ok (c, rest)) :
    ∃ digits low, text = '\\' :: 'u' :: (digits ++ rest) ∧ HexNumber digits low ∧ isLowSurrogate low = true ∧
      c = joinSurrogates high low := by
  unfold readLowSurrogate at read
  split at read
  · cases read
  · cases read
  · split at read
    · cases read
    · rename_i taken
      obtain ⟨digits, rfl, form⟩ := form_of_read_four_hex taken
      split at read
      · rename_i isLow
        obtain ⟨joined, left⟩ := Prod.mk.inj (Except.ok.inj read)
        exact ⟨digits, _, left ▸ rfl, form, isLow, joined.symm⟩
      · cases read
  · cases read
  · cases read

theorem read_escape_letter {c letter : Char} (listed : (letter, c) ∈ letterEscapes) (rest : List Char) :
    readEscape (letter :: rest) = .ok (c, rest) := by
  simp only [letterEscapes, List.mem_cons, Prod.mk.injEq, List.not_mem_nil, or_false] at listed
  rcases listed with same | same | same | same | same | same | same | same
  all_goals
    obtain ⟨rfl, rfl⟩ := same
    rfl

theorem listed_of_letter_escape? {c letter : Char} (read : letterEscape? letter = some c) : (letter, c) ∈ letterEscapes := by
  unfold letterEscape? at read
  split at read <;> cases read
  all_goals decide

theorem read_code_units_of_number {digits : List Char} {c : Char} (form : HexNumber digits c.toNat) (rest : List Char) :
    readCodeUnits (digits ++ rest) = .ok (c, rest) := by
  obtain ⟨notLow, notHigh⟩ := not_surrogate c
  simp [readCodeUnits, read_four_hex_of_form form, notLow, notHigh, Char.ofNat_toNat]

theorem read_code_units_of_pair {digits others : List Char} {c : Char} {high low : Nat} (first : HexNumber digits high)
    (second : HexNumber others low) (pair : SurrogatePair high low)
    (joined : c.toNat = 0x10000 + (high - 0xd800) * 0x400 + (low - 0xdc00)) (rest : List Char) :
    readCodeUnits (digits ++ '\\' :: 'u' :: (others ++ rest)) = .ok (c, rest) := by
  have same : joinSurrogates high low = c := by
    rw [← Char.toNat_inj, to_nat_join_surrogates pair, joined]
  have isHigh := (is_high_surrogate_iff high).mpr ⟨pair.high_ge, pair.high_lt⟩
  have notLow : isLowSurrogate high = false := by
    have below := pair.high_lt
    rw [Bool.eq_false_iff, Ne, is_low_surrogate_iff]
    omega
  simp [readCodeUnits, read_four_hex_of_form first, notLow, isHigh, read_low_surrogate_of_form second pair, same]

theorem form_of_read_code_units {text rest : List Char} {c : Char} (read : readCodeUnits text = .ok (c, rest)) :
    ∃ form, text = form ++ rest ∧ CharForm c ('\\' :: 'u' :: form) := by
  unfold readCodeUnits at read
  split at read
  · cases read
  · rename_i number _ taken
    obtain ⟨digits, rfl, first⟩ := form_of_read_four_hex taken
    split at read
    · cases read
    · rename_i notLow
      split at read
      · rename_i isHigh
        obtain ⟨others, low, rfl, second, isLow, joined⟩ := form_of_read_low_surrogate read
        obtain ⟨highAbove, highBelow⟩ := (is_high_surrogate_iff number).mp isHigh
        obtain ⟨lowAbove, lowBelow⟩ := (is_low_surrogate_iff low).mp isLow
        have pair : SurrogatePair number low := ⟨highAbove, highBelow, lowAbove, lowBelow⟩
        refine ⟨digits ++ '\\' :: 'u' :: others, by simp, ?_⟩
        exact .pair first second pair (joined ▸ to_nat_join_surrogates pair)
      · rename_i notHigh
        cases read
        rw [is_low_surrogate_iff] at notLow
        rw [is_high_surrogate_iff] at notHigh
        have small := first.lt
        have own : (Char.ofNat number).toNat = number := to_nat_of_nat (by unfold Nat.isValidChar; omega)
        exact ⟨digits, rfl, .number (own.symm ▸ first)⟩

theorem form_of_read_escape {text rest : List Char} {c : Char} (read : readEscape text = .ok (c, rest)) :
    ∃ form, text = form ++ rest ∧ CharForm c ('\\' :: form) := by
  unfold readEscape at read
  split at read
  · cases read
  · obtain ⟨form, rfl, number⟩ := form_of_read_code_units read
    exact ⟨'u' :: form, rfl, number⟩
  · split at read
    · rename_i letter _ _ _ _ known
      cases read
      exact ⟨[letter], rfl, .letter (listed_of_letter_escape? known)⟩
    · cases read

theorem read_literal_plain {c : Char} (rest : List Char) (notQuote : c ≠ '"')
    (notBackslash : c ≠ '\\') (notControl : ¬ c.toNat < 0x20) :
    readLiteral (c :: rest) = prepend c (readLiteral rest) := by
  rw [readLiteral.eq_def]
  split
  · simp_all
  · simp_all
  · simp_all
  · rename_i heq
    cases heq
    exact if_neg notControl

theorem read_literal_escape {c : Char} {text rest : List Char}
    (escaped : readEscape text = .ok (c, rest)) :
    readLiteral ('\\' :: text) = prepend c (readLiteral rest) := by
  rw [readLiteral]
  split
  · simp_all
  · simp_all

theorem read_literal_char_form {c : Char} {form : List Char} (spelled : CharForm c form) (rest : List Char) :
    readLiteral (form ++ rest) = prepend c (readLiteral rest) := by
  cases spelled with
  | plain printable notQuote notBackslash => exact read_literal_plain rest notQuote notBackslash (Nat.not_lt.mpr printable)
  | letter listed => exact read_literal_escape (read_escape_letter listed rest)
  | number own => exact read_literal_escape (read_code_units_of_number own rest)
  | pair first second surrogates joined =>
      rw [List.cons_append, List.cons_append, List.append_assoc]
      exact read_literal_escape (read_code_units_of_pair first second surrogates joined rest)

theorem read_literal_text_form {name body : List Char} (inside : TextForm name body) (rest : List Char) :
    readLiteral (body ++ '"' :: rest) = .ok (name, rest) := by
  induction inside with
  | nil => simp [readLiteral]
  | cons first others ih =>
      rw [List.append_assoc, read_literal_char_form first, ih]
      rfl

theorem of_prepend {c : Char} {read : Read (List Char)} {name rest : List Char}
    (made : prepend c read = .ok (name, rest)) : ∃ later, read = .ok (later, rest) ∧ name = c :: later := by
  cases read with
  | error fault => cases made
  | ok result =>
      cases made
      exact ⟨_, rfl, rfl⟩

theorem text_form_of_read_literal {text rest name : List Char} (read : readLiteral text = .ok (name, rest)) :
    ∃ body, text = body ++ '"' :: rest ∧ TextForm name body := by
  fun_induction readLiteral text generalizing name with
  | case1 => cases read
  | case2 behind =>
      cases read
      exact ⟨[], rfl, .nil⟩
  | case3 => cases read
  | case4 tail c behind escaped ih =>
      obtain ⟨later, deeper, rfl⟩ := of_prepend read
      obtain ⟨body, rfl, others⟩ := ih deeper
      obtain ⟨form, rfl, first⟩ := form_of_read_escape escaped
      exact ⟨'\\' :: form ++ body, by simp, .cons first others⟩
  | case5 => cases read
  | case6 c tail notQuote notBackslash notControl ih =>
      obtain ⟨later, deeper, rfl⟩ := of_prepend read
      obtain ⟨body, rfl, others⟩ := ih deeper
      exact ⟨c :: body, rfl, .cons (.plain (Nat.not_lt.mp notControl) notQuote notBackslash) others⟩

theorem read_name_of_form {name form : List Char} (spelled : Token.Form (.literal name) form) (rest : List Char) :
    readName (form ++ rest) = .ok (name, rest) := by
  cases spelled with
  | literal inside =>
      rw [List.cons_append, List.append_assoc]
      exact read_literal_text_form inside rest

theorem form_of_read_name {text rest name : List Char} (read : readName text = .ok (name, rest)) :
    ∃ form, text = form ++ rest ∧ Token.Form (.literal name) form := by
  unfold readName at read
  split at read
  · obtain ⟨body, rfl, inside⟩ := text_form_of_read_literal read
    exact ⟨'"' :: (body ++ ['"']), by simp, .literal inside⟩
  · cases read

end RowSelection.Declaration
