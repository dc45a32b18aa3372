import RowSelection.Declaration.Codec
import RowSelection.Declaration.ListForm

set_option autoImplicit false

namespace RowSelection.Declaration

theorem hex_number_four_hex_digits {number : Nat} (small : number < 0x10000) : HexNumber (fourHexDigits number) number := by
  have digits : ∀ value < 16, "0123456789abcdef".toList[value]? = some (Nat.digitChar value) := by decide
  have digit : ∀ value, HexDigit (Nat.digitChar (value % 16)) (value % 16) :=
    fun value => .inl (digits (value % 16) (Nat.mod_lt value (by decide)))
  have whole : ((number / 4096 % 16 * 16 + number / 256 % 16) * 16 + number / 16 % 16) * 16 + number % 16 = number := by
    omega
  have form := HexNumber.four (digit (number / 4096)) (digit (number / 256)) (digit (number / 16)) (digit number)
  rw [whole] at form
  exact form

theorem char_form_write_char (c : Char) : CharForm c (writeChar c) := by
  unfold writeChar
  split
  all_goals try exact .letter (by decide)
  split
  · rename_i low
    exact .number (hex_number_four_hex_digits (Nat.lt_trans low (by decide)))
  · rename_i notQuote notBackslash _ _ _ _ _ printable
    exact .plain (Nat.not_lt.mp printable) notQuote notBackslash

theorem text_form_flat_map_write_char (name : List Char) : TextForm name (name.flatMap writeChar) := by
  induction name with
  | nil => exact .nil
  | cons c rest ih => exact .cons (char_form_write_char c) ih

theorem form_write_name (name : List Char) : Token.Form (.literal name) (writeName name) := by
  rw [writeName, List.append_assoc]
  exact .literal (text_form_flat_map_write_char name)

theorem blanks_nil : Blanks [] := nofun

theorem spaced_next {token : Token} {rest : List Token} {form later : List Char} (first : token.Form form)
    (others : Spaced rest later) : Spaced (token :: rest) (form ++ later) :=
  .cons blanks_nil first others

theorem spaced_write_members (names : List (List Char)) : Spaced (laterTokens names) (writeMembers names) := by
  induction names with
  | nil => exact spaced_next .closing .nil
  | cons name rest ih =>
      rw [writeMembers, List.append_assoc]
      exact spaced_next .comma (spaced_next (form_write_name name) ih)

theorem list_form_write_all (names : List (List Char)) : ListForm names (writeAll names) := by
  have spaced : Spaced (listTokens names) (writeAll names) := by
    cases names with
    | nil => exact spaced_next .opening (spaced_next .closing .nil)
    | cons name rest =>
        rw [listTokens, member_tokens_cons, writeAll, List.append_assoc]
        exact spaced_next .opening (spaced_next (form_write_name name) (spaced_write_members rest))
  rw [← List.append_nil (writeAll names)]
  exact .mk spaced blanks_nil

theorem denotes_write (names : List String) : Denotes (write names) names := by
  rw [Denotes, write, String.toList_ofList]
  exact list_form_write_all (names.map String.toList)

theorem read_write (names : List String) : read (write names) = .ok names :=
  (read_iff_denotes (write names) names).mpr (denotes_write names)

end RowSelection.Declaration
