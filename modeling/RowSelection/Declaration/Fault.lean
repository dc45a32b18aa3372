import RowSelection.Decimal.Shortest
import RowSelection.Text.Quoted

set_option autoImplicit false

namespace RowSelection.Declaration

open Text

def byteLength : List Char → Nat
  | [] => 0
  | c :: rest => c.utf8Size + byteLength rest

@[simp] theorem byte_length_nil : byteLength [] = 0 := rfl

@[simp] theorem byte_length_cons (c : Char) (rest : List Char) :
    byteLength (c :: rest) = c.utf8Size + byteLength rest := rfl

-- Lines count from one, columns in bytes from the last line feed.
structure Position where
  line : Nat
  column : Nat
deriving DecidableEq

namespace Position

def start : Position := ⟨1, 0⟩

def advance (place : Position) : List Char → Nat → Position
  | [], _ => place
  | c :: rest, offset =>
      if offset < c.utf8Size then { place with column := place.column + offset }
      else if c = '\n' then Position.advance ⟨place.line + 1, 0⟩ rest (offset - c.utf8Size)
      else Position.advance { place with column := place.column + c.utf8Size } rest
        (offset - c.utf8Size)

def render (place : Position) : String :=
  "line " ++ toString place.line ++ " column " ++ toString place.column

end Position

inductive Numeral where
  | integer (value : Int)
  | float (negative : Bool) (magnitude : Decimal.Binary64)
deriving DecidableEq

-- Floats are written in positions from `0.00001` up to sixteen whole digits.
def floatLayout : Decimal.Layout := ⟨-5, 15⟩

def Numeral.text : Numeral → String
  | .integer value => "integer `" ++ toString value ++ "`"
  | .float negative magnitude =>
      "floating point `" ++ (if negative then "-" else "") ++
        String.ofList (magnitude.shortest.render floatLayout) ++ "`"

inductive Found where
  | null
  | boolean (value : Bool)
  | numeral (value : Numeral)
  | literal (value : String)
  | sequence
  | map
deriving DecidableEq

def Found.text : Found → String
  | .null => "null"
  | .boolean value => "boolean `" ++ toString value ++ "`"
  | .numeral value => value.text
  | .literal value => "string " ++ quoted value
  | .sequence => "sequence"
  | .map => "map"

inductive Wanted where
  | sequence
  | name
deriving DecidableEq

def Wanted.text : Wanted → String
  | .sequence => "a sequence"
  | .name => "a string"

inductive Cause where
  | endInValue
  | endInList
  | endInLiteral
  | expectedValue
  | expectedWord
  | expectedCommaOrEnd
  | trailingComma
  | trailingText
  | invalidNumber
  | numberOutOfRange
  | invalidEscape
  | loneSurrogate
  | unfinishedPair
  | controlCharacter
  | wrongType (found : Found) (wanted : Wanted)
deriving DecidableEq

def Cause.text : Cause → String
  | .endInValue => "EOF while parsing a value"
  | .endInList => "EOF while parsing a list"
  | .endInLiteral => "EOF while parsing a string"
  | .expectedValue => "expected value"
  | .expectedWord => "expected ident"
  | .expectedCommaOrEnd => "expected `,` or `]`"
  | .trailingComma => "trailing comma"
  | .trailingText => "trailing characters"
  | .invalidNumber => "invalid number"
  | .numberOutOfRange => "number out of range"
  | .invalidEscape => "invalid escape"
  | .loneSurrogate => "lone leading surrogate in hex escape"
  | .unfinishedPair => "unexpected end of hex escape"
  | .controlCharacter => "control character (\\u0000-\\u001F) found while parsing a string"
  | .wrongType found wanted => "invalid type: " ++ found.text ++ ", expected " ++ wanted.text

-- A reader holds the rest of the text only, so a fault keeps the bytes after its place.
structure Fault where
  cause : Cause
  remaining : Nat
deriving DecidableEq

namespace Fault

def before (cause : Cause) (rest : List Char) : Fault :=
  ⟨cause, byteLength rest⟩

def within (cause : Cause) (rest : List Char) : Fault :=
  ⟨cause, byteLength rest - 1⟩

def position (fault : Fault) (text : List Char) : Position :=
  Position.start.advance text (byteLength text - fault.remaining)

def message (fault : Fault) (text : List Char) : String :=
  fault.cause.text ++ " at " ++ (fault.position text).render

end Fault
end RowSelection.Declaration
