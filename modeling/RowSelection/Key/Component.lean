import RowSelection.Table.Equality

set_option autoImplicit false

namespace RowSelection

inductive KeyType where
  | text
  | integer
  | long
  | timestamp
deriving DecidableEq

namespace KeyType

-- Every key type, in registry order.
def all : List KeyType := [.text, .integer, .long, .timestamp]

def label : KeyType → String
  | .text => "STRING"
  | .integer => "INTEGER"
  | .long => "LONG"
  | .timestamp => "TIMESTAMP"

def name : KeyType → String
  | .text => "String"
  | .integer => "Integer"
  | .long => "Long"
  | .timestamp => "Timestamp"

def dataType : KeyType → DataType
  | .text => .utf8
  | .integer => .int32
  | .long => .int64
  | .timestamp => .timestamp .millisecond none

-- A timestamp column is a key column only in milliseconds and without a zone.
def ofDataType? : DataType → Option KeyType
  | .utf8 => some .text
  | .int32 => some .integer
  | .int64 => some .long
  | .timestamp .millisecond none => some .timestamp
  | _ => none

@[simp] theorem of_data_type?_data_type (type : KeyType) : ofDataType? type.dataType = some type := by
  cases type <;> rfl

theorem data_type_of_known {stored : DataType} {type : KeyType}
    (known : ofDataType? stored = some type) : type.dataType = stored := by
  unfold ofDataType? at known
  split at known <;> cases known <;> rfl

theorem data_type_injective {a b : KeyType} (same : a.dataType = b.dataType) : a = b := by
  have both := congrArg ofDataType? same
  simpa using both

-- The types of key columns hold no fields, so the same is equal here.
theorem data_type_beq_iff (type : KeyType) (stored : DataType) :
    (type.dataType == stored) = true ↔ type.dataType = stored := by
  constructor
  · intro same
    change type.dataType.same stored = true at same
    cases type <;> cases stored <;> first | rfl | cases same | simpa [dataType, DataType.same] using same
  · rintro rfl
    exact BEq.rfl

theorem data_types_beq_iff (types others : List KeyType) :
    (types.map dataType == others.map dataType) = true ↔ types = others := by
  induction types generalizing others with
  | nil => cases others <;> simp
  | cons type rest ih =>
      cases others with
      | nil => simp
      | cons other others =>
          rw [List.map_cons, List.map_cons, List.cons_beq_cons, Bool.and_eq_true, data_type_beq_iff, ih, List.cons.injEq]
          exact and_congr_left fun _ => ⟨data_type_injective, congrArg dataType⟩

end KeyType

structure HostType where
  path : String
deriving DecidableEq

def HostType.row : HostType := ⟨"keymatch::key::row::RowKey"⟩

def KeyType.hostType : KeyType → HostType
  | .text => ⟨"alloc::string::String"⟩
  | .integer => ⟨"i32"⟩
  | .long => ⟨"i64"⟩
  | .timestamp => ⟨"keymatch::key::timestamp::Timestamp"⟩

namespace HostType

def keyType? (host : HostType) : Option KeyType :=
  KeyType.all.find? fun type => type.hostType == host

@[simp] theorem key_type?_host_type (type : KeyType) : type.hostType.keyType? = some type := by
  cases type <;> decide

end HostType

theorem KeyType.host_type_injective {a b : KeyType} (same : a.hostType = b.hostType) : a = b := by
  have both := congrArg HostType.keyType? same
  simpa using both

theorem KeyType.host_type_ne_row (type : KeyType) : type.hostType ≠ HostType.row := by
  cases type <;> decide

structure Timestamp where
  millis : Int64
deriving DecidableEq

namespace Timestamp

def text (t : Timestamp) : String := toString t.millis.toInt ++ "ms"

instance : Ord Timestamp where
  compare a b := compare a.millis b.millis

end Timestamp

inductive Component where
  | text (value : String)
  | integer (value : Int32)
  | long (value : Int64)
  | timestamp (value : Timestamp)
deriving DecidableEq

namespace Component

def keyType : Component → KeyType
  | .text _ => .text
  | .integer _ => .integer
  | .long _ => .long
  | .timestamp _ => .timestamp

def rank : Component → Nat
  | .text _ => 0
  | .integer _ => 1
  | .long _ => 2
  | .timestamp _ => 3

instance : Ord Component where
  compare
    | .text a, .text b => compare a b
    | .integer a, .integer b => compare a b
    | .long a, .long b => compare a b
    | .timestamp a, .timestamp b => compare a b
    | a, b => compare a.rank b.rank

end Component
end RowSelection
