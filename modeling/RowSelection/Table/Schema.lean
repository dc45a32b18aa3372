import RowSelection.Text.Quoted

set_option autoImplicit false

namespace RowSelection

structure Metadata where
  entries : List (String × String)

namespace Metadata

def empty : Metadata := ⟨[]⟩

def get? (m : Metadata) (name : String) : Option String :=
  (m.entries.find? fun entry => entry.1 == name).map Prod.snd

def insert (m : Metadata) (name value : String) : Metadata :=
  ⟨(name, value) :: m.entries.filter fun entry => !(entry.1 == name)⟩

-- Entries have no order, so only what is found under the names counts.
def same (m other : Metadata) : Bool :=
  (m.entries ++ other.entries).all fun entry => m.get? entry.1 == other.get? entry.1

def text (m : Metadata) : String :=
  let entry := fun pair : String × String => Text.quoted pair.1 ++ ": " ++ Text.quoted pair.2
  "\x7b" ++ String.intercalate ", " (m.entries.map entry) ++ "\x7d"

theorem get?_insert (m : Metadata) (name value query : String) :
    (m.insert name value).get? query = if name = query then some value else m.get? query := by
  by_cases same : name = query
  · simp [get?, insert, same]
  · have kept : ∀ entries : List (String × String),
        (entries.filter fun entry => !(entry.1 == name)).find? (fun entry => entry.1 == query) =
          entries.find? fun entry => entry.1 == query := by
      intro entries
      rw [List.find?_filter]
      congr
      funext entry
      by_cases found : entry.1 = query
      · simp [found, Ne.symm same]
      · simp [found]
    simp [get?, insert, same, kept]

theorem get?_of_not_named {m : Metadata} {name : String} (absent : ∀ entry ∈ m.entries, entry.1 ≠ name) :
    m.get? name = none := by
  have missed : m.entries.find? (fun entry => entry.1 == name) = none := by
    simpa using absent
  rw [get?, missed]
  rfl

theorem same_iff (m other : Metadata) : m.same other = true ↔ ∀ name, m.get? name = other.get? name := by
  constructor
  · intro agree name
    simp only [same, List.all_eq_true, List.mem_append, beq_iff_eq] at agree
    by_cases named : ∃ entry ∈ m.entries ++ other.entries, entry.1 = name
    · obtain ⟨entry, member, rfl⟩ := named
      exact agree entry (List.mem_append.mp member)
    · have apart : ∀ entry ∈ m.entries ++ other.entries, entry.1 ≠ name := by
        intro entry member named'
        exact named ⟨entry, member, named'⟩
      rw [get?_of_not_named fun entry member => apart entry (List.mem_append_left _ member),
        get?_of_not_named fun entry member => apart entry (List.mem_append_right _ member)]
  · intro agree
    simp [same, agree]

theorem same_congr {m other : Metadata} (agree : m.same other = true) (third : Metadata) :
    m.same third = other.same third := by
  have found := (same_iff m other).mp agree
  rw [Bool.eq_iff_iff, same_iff, same_iff]
  simp only [found]

end Metadata

inductive TimeUnit where
  | second
  | millisecond
  | microsecond
  | nanosecond
deriving DecidableEq

inductive IntervalUnit where
  | yearMonth
  | dayTime
  | monthDayNano
deriving DecidableEq

inductive UnionMode where
  | dense
  | sparse
deriving DecidableEq

structure DictionaryTag where
  id : Int64
  ordered : Bool

def DictionaryTag.unset : DictionaryTag := ⟨0, false⟩

mutual

inductive DataType where
  | null
  | boolean
  | int8
  | int16
  | int32
  | int64
  | uint8
  | uint16
  | uint32
  | uint64
  | float16
  | float32
  | float64
  | date32
  | date64
  | utf8
  | largeUtf8
  | utf8View
  | binary
  | largeBinary
  | binaryView
  | timestamp (unit : TimeUnit) (zone : Option String)
  | time32 (unit : TimeUnit)
  | time64 (unit : TimeUnit)
  | duration (unit : TimeUnit)
  | interval (unit : IntervalUnit)
  | fixedSizeBinary (width : Int)
  | decimal128 (precision scale : Int)
  | decimal256 (precision scale : Int)
  | list (item : Field)
  | listView (item : Field)
  | largeList (item : Field)
  | largeListView (item : Field)
  | fixedSizeList (item : Field) (size : Int)
  | struct (members : List Field)
  | dictionary (index value : DataType)
  | map (entries : Field) (sorted : Bool)
  | runEndEncoded (ends values : Field)
  | union (members : List UnionMember) (mode : UnionMode)

inductive Field where
  | mk (name : String) (dataType : DataType) (nullable : Bool) (metadata : Metadata) (tag : DictionaryTag)

inductive UnionMember where
  | mk (id : Int8) (field : Field)

end

namespace Field

def new (name : String) (dataType : DataType) (nullable : Bool) : Field :=
  .mk name dataType nullable .empty .unset

def name : Field → String
  | .mk name _ _ _ _ => name

def dataType : Field → DataType
  | .mk _ dataType _ _ _ => dataType

def nullable : Field → Bool
  | .mk _ _ nullable _ _ => nullable

def metadata : Field → Metadata
  | .mk _ _ _ metadata _ => metadata

def tag : Field → DictionaryTag
  | .mk _ _ _ _ tag => tag

section
variable (name : String) (dataType : DataType) (nullable : Bool)

@[simp] theorem name_new : (new name dataType nullable).name = name := rfl

@[simp] theorem data_type_new : (new name dataType nullable).dataType = dataType := rfl

@[simp] theorem nullable_new : (new name dataType nullable).nullable = nullable := rfl

@[simp] theorem metadata_new : (new name dataType nullable).metadata = .empty := rfl

@[simp] theorem tag_new : (new name dataType nullable).tag = .unset := rfl

end

end Field

structure TableSchema where
  fields : List Field
  metadata : Metadata

namespace TableSchema

def keyEntry : String := "keymatch.keys"

def field? (table : TableSchema) (name : String) : Option Field :=
  table.fields.find? fun field => field.name == name

def keyDeclaration? (table : TableSchema) : Option String :=
  table.metadata.get? keyEntry

def withKeyDeclaration (table : TableSchema) (text : String) : TableSchema :=
  { table with metadata := table.metadata.insert keyEntry text }

theorem name_of_field? {table : TableSchema} {name : String} {field : Field} (found : table.field? name = some field) :
    field.name = name := by
  simpa using List.find?_some found

theorem key_declaration?_with_key_declaration (table : TableSchema) (text : String) :
    (table.withKeyDeclaration text).keyDeclaration? = some text := by
  simp [keyDeclaration?, withKeyDeclaration, Metadata.get?_insert]

end TableSchema
end RowSelection
