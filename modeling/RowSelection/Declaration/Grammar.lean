set_option autoImplicit false

namespace RowSelection.Declaration

def Blanks (text : List Char) : Prop :=
  ∀ c ∈ text, c = ' ' ∨ c = '\t' ∨ c = '\r' ∨ c = '\n'

def HexDigit (digit : Char) (value : Nat) : Prop :=
  "0123456789abcdef".toList[value]? = some digit ∨ "0123456789ABCDEF".toList[value]? = some digit

inductive HexNumber : List Char → Nat → Prop
  | four {a b c d : Char} {first second third fourth : Nat} (one : HexDigit a first) (two : HexDigit b second)
      (three : HexDigit c third) (last : HexDigit d fourth) :
      HexNumber [a, b, c, d] (((first * 16 + second) * 16 + third) * 16 + fourth)

def letterEscapes : List (Char × Char) :=
  [('"', '"'), ('\\', '\\'), ('/', '/'), ('b', '\x08'), ('f', '\x0c'), ('n', '\n'), ('r', '\r'), ('t', '\t')]

structure SurrogatePair (high low : Nat) : Prop where
  high_ge : 0xd800 ≤ high
  high_lt : high < 0xdc00
  low_ge : 0xdc00 ≤ low
  low_lt : low < 0xe000

-- The forms say what a declaration looks like and nothing about how it is read. A character has several.
inductive CharForm : Char → List Char → Prop
  | plain {c : Char} (printable : 0x20 ≤ c.toNat) (notQuote : c ≠ '"') (notBackslash : c ≠ '\\') : CharForm c [c]
  | letter {c letter : Char} (listed : (letter, c) ∈ letterEscapes) : CharForm c ['\\', letter]
  -- No character has the number of a surrogate, so a surrogate never stands alone.
  | number {c : Char} {digits : List Char} (own : HexNumber digits c.toNat) : CharForm c ('\\' :: 'u' :: digits)
  | pair {c : Char} {digits others : List Char} {high low : Nat} (first : HexNumber digits high)
      (second : HexNumber others low) (surrogates : SurrogatePair high low)
      (joined : c.toNat = 0x10000 + (high - 0xd800) * 0x400 + (low - 0xdc00)) :
      CharForm c ('\\' :: 'u' :: (digits ++ '\\' :: 'u' :: others))

inductive TextForm : List Char → List Char → Prop
  | nil : TextForm [] []
  | cons {c : Char} {rest form later : List Char} (first : CharForm c form) (others : TextForm rest later) :
      TextForm (c :: rest) (form ++ later)

inductive Token where
  | opening
  | comma
  | closing
  | literal (name : List Char)

inductive Token.Form : Token → List Char → Prop
  | opening : Form .opening ['[']
  | comma : Form .comma [',']
  | closing : Form .closing [']']
  | literal {name body : List Char} (inside : TextForm name body) : Form (.literal name) ('"' :: (body ++ ['"']))

def memberTokens (names : List (List Char)) : List Token :=
  (names.map Token.literal).intersperse .comma ++ [.closing]

def listTokens (names : List (List Char)) : List Token := .opening :: memberTokens names

inductive Spaced : List Token → List Char → Prop
  | nil : Spaced [] []
  | cons {token : Token} {rest : List Token} {blanks form later : List Char} (before : Blanks blanks)
      (first : token.Form form) (others : Spaced rest later) : Spaced (token :: rest) (blanks ++ (form ++ later))

inductive ListForm (names : List (List Char)) : List Char → Prop
  | mk {list blanks : List Char} (spaced : Spaced (listTokens names) list) (behind : Blanks blanks) :
      ListForm names (list ++ blanks)

def Denotes (text : String) (names : List String) : Prop :=
  ListForm (names.map String.toList) text.toList

end RowSelection.Declaration
