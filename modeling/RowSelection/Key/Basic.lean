import RowSelection.Key.Row

set_option autoImplicit false

namespace RowSelection

inductive Key where
  | primitive (component : Component)
  | row (row : Row)
deriving DecidableEq

-- The absent value clears a bound and is never a member of a set.
abbrev Value := Option Key

namespace Key

def hostType : Key → HostType
  | .primitive component => component.keyType.hostType
  | .row _ => .row

def components : Key → List Component
  | .primitive component => [component]
  | .row held => held.components

-- A key of its own with the same contents. What can change later is made anew from its parts.
def copy : Key → Key
  | .primitive (.timestamp instant) => .primitive (.timestamp ⟨instant.millis⟩)
  | .primitive component => .primitive component
  | .row held => .row held.copy

@[simp] theorem copy_eq (key : Key) : key.copy = key := by
  cases key with
  | primitive component => cases component <;> rfl
  | row held => rw [copy, Row.copy_eq]

instance : Ord Key where
  compare
    | .primitive a, .primitive b => compare a b
    | .primitive _, .row _ => .lt
    | .row _, .primitive _ => .gt
    | .row a, .row b => List.compareLex compare a.components b.components

def sort (keys : List Key) : List Key :=
  keys.mergeSort fun a b => (compare a b).isLE

end Key

namespace Value

def hostType? (value : Value) : Option HostType :=
  value.map Key.hostType

def typeName (value : Value) : String :=
  (hostType? value).elim "null" HostType.path

def text? : Value → Option String
  | some (.primitive (.text value)) => some value
  | _ => none

def integer? : Value → Option Int32
  | some (.primitive (.integer value)) => some value
  | _ => none

def long? : Value → Option Int64
  | some (.primitive (.long value)) => some value
  | _ => none

def timestamp? : Value → Option Timestamp
  | some (.primitive (.timestamp value)) => some value
  | _ => none

def row? : Value → Option Row
  | some (.row row) => some row
  | _ => none

end Value
end RowSelection
