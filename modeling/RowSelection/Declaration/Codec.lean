import RowSelection.Declaration.Number

set_option autoImplicit false

namespace RowSelection.Declaration

open Text

def isBlank (c : Char) : Bool :=
  c == ' ' || c == '\t' || c == '\r' || c == '\n'

def skipBlanks (text : List Char) : List Char :=
  text.dropWhile isBlank

def wordFault (found : Found) (wanted : Wanted) : List Char → List Char → Fault
  | [], rest => .before (.wrongType found wanted) rest
  | _ :: _, [] => .before .endInValue []
  | letter :: word, c :: rest =>
      if c = letter then wordFault found wanted word rest else .within .expectedWord (c :: rest)

def numberFault (wanted : Wanted) : Read Numeral → Fault
  | .ok (value, rest) => .before (.wrongType (.numeral value) wanted) rest
  | .error fault => fault

-- The fault of a text that does not start with what is wanted. A scalar is read to its end first;
-- a list or a map is refused at its bracket.
def wrongTypeFault (wanted : Wanted) : List Char → Fault
  | [] => .before .endInValue []
  | 'n' :: rest => wordFault .null wanted ['u', 'l', 'l'] rest
  | 't' :: rest => wordFault (.boolean true) wanted ['r', 'u', 'e'] rest
  | 'f' :: rest => wordFault (.boolean false) wanted ['a', 'l', 's', 'e'] rest
  | '-' :: rest => numberFault wanted (readNumber true rest)
  | '"' :: rest =>
      match readLiteral rest with
      | .ok (chars, rest) => .before (.wrongType (.literal (String.ofList chars)) wanted) rest
      | .error fault => fault
  | '[' :: rest => .before (.wrongType .sequence wanted) ('[' :: rest)
  | '\x7b' :: rest => .before (.wrongType .map wanted) ('\x7b' :: rest)
  | c :: rest =>
      if (digit? c).isSome then numberFault wanted (readNumber false (c :: rest))
      else .within .expectedValue (c :: rest)

def readName : List Char → Read (List Char)
  | '"' :: rest => readLiteral rest
  | text => .error (wrongTypeFault .name text)

theorem read_name_length {text rest chars : List Char}
    (read : readName text = .ok (chars, rest)) : rest.length < text.length := by
  unfold readName at read
  split at read
  · have := read_literal_length read
    simp
    omega
  · simp at read

theorem skip_blanks_length (text : List Char) : (skipBlanks text).length ≤ text.length :=
  (List.dropWhile_sublist isBlank).length_le

inductive Next where
  | done (rest : List Char)
  | member (start : List Char)

def firstNext (text : List Char) : Except Fault Next :=
  match skipBlanks text with
  | [] => .error (.before .endInList [])
  | ']' :: rest => .ok (.done rest)
  | start => .ok (.member start)

def laterNext (text : List Char) : Except Fault Next :=
  match skipBlanks text with
  | [] => .error (.before .endInList [])
  | ']' :: rest => .ok (.done rest)
  | ',' :: rest =>
      match skipBlanks rest with
      | [] => .error (.before .endInValue [])
      | ']' :: rest => .error (.within .trailingComma (']' :: rest))
      | start => .ok (.member start)
  | rest => .error (.within .expectedCommaOrEnd rest)

theorem later_next_length {text start : List Char}
    (member : laterNext text = .ok (.member start)) : start.length < text.length := by
  have blanks := skip_blanks_length text
  unfold laterNext at member
  split at member <;> try simp at member
  rename_i rest comma
  have again := skip_blanks_length rest
  rw [comma, List.length_cons] at blanks
  split at member <;> simp at member
  subst member
  omega

def prependName (name : List Char) : Read (List (List Char)) → Read (List (List Char))
  | .ok (names, rest) => .ok (name :: names, rest)
  | .error fault => .error fault

def readMembers (text : List Char) : Read (List (List Char)) :=
  match _next : laterNext text with
  | .error fault => .error fault
  | .ok (.done rest) => .ok ([], rest)
  | .ok (.member start) =>
      match _name : readName start with
      | .error fault => .error fault
      | .ok (name, rest) => prependName name (readMembers rest)
termination_by text.length
decreasing_by
  have next := later_next_length _next
  have name := read_name_length _name
  omega

def readList (text : List Char) : Read (List (List Char)) :=
  match firstNext text with
  | .error fault => .error fault
  | .ok (.done rest) => .ok ([], rest)
  | .ok (.member start) =>
      match readName start with
      | .error fault => .error fault
      | .ok (name, rest) => prependName name (readMembers rest)

def readAll (text : List Char) : Except Fault (List (List Char)) :=
  match skipBlanks text with
  | [] => .error (.before .endInValue [])
  | '[' :: rest =>
      match readList rest with
      | .error fault => .error fault
      | .ok (names, rest) =>
          match skipBlanks rest with
          | [] => .ok names
          | rest => .error (.within .trailingText rest)
  | start => .error (wrongTypeFault .sequence start)

def read (text : String) : Except Fault (List String) :=
  (readAll text.toList).map fun names => names.map String.ofList

def fourHexDigits (n : Nat) : List Char :=
  [n / 4096 % 16, n / 256 % 16, n / 16 % 16, n % 16].map Nat.digitChar

def writeChar (c : Char) : List Char :=
  match c with
  | '"' => ['\\', '"']
  | '\\' => ['\\', '\\']
  | '\x08' => ['\\', 'b']
  | '\x0c' => ['\\', 'f']
  | '\n' => ['\\', 'n']
  | '\r' => ['\\', 'r']
  | '\t' => ['\\', 't']
  | c => if c.toNat < 0x20 then ['\\', 'u'] ++ fourHexDigits c.toNat else [c]

def writeName (name : List Char) : List Char :=
  ['"'] ++ name.flatMap writeChar ++ ['"']

def writeMembers : List (List Char) → List Char
  | [] => [']']
  | name :: rest => [','] ++ writeName name ++ writeMembers rest

def writeAll : List (List Char) → List Char
  | [] => ['[', ']']
  | name :: rest => ['['] ++ writeName name ++ writeMembers rest

def write (names : List String) : String :=
  String.ofList (writeAll (names.map String.toList))

end RowSelection.Declaration
