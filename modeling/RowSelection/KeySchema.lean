import RowSelection.Declaration.Codec
import RowSelection.Key.Component
import RowSelection.Table.Printer

set_option autoImplicit false

namespace RowSelection

inductive SchemaError where
  | noSuchField (name : String)
  | duplicateColumn (name : String)
  | unsupportedColumn (name : String) (dataType : DataType)
  | malformedDeclaration (text : String) (fault : Declaration.Fault)
  | arity (expected actual : Nat)
  | componentType (column : Nat) (expected actual : KeyType)
  | columnOutOfBounds (column width : Nat)
  | emptyRow
  | incompatible (expected actual : List KeyType)

def KeyType.storedAs (type : KeyType) : String :=
  type.dataType.text

def KeyType.listText (types : List KeyType) : String :=
  bracketed (types.map KeyType.storedAs)

def SchemaError.message : SchemaError → String
  | .noSuchField name => "no such field in schema: " ++ name
  | .duplicateColumn name => "duplicate key column: " ++ name
  | .unsupportedColumn name dataType =>
      "unsupported data type for key column " ++ name ++ ": " ++ dataType.text
  | .malformedDeclaration text fault =>
      "invalid key metadata " ++ Text.quoted text ++ ": " ++ fault.message text.toList
  | .arity expected actual =>
      "key arity mismatch: expected " ++ toString expected ++ " components, got " ++
        toString actual
  | .componentType column expected actual =>
      "unexpected component type for column " ++ toString column ++ ": expected " ++
        expected.storedAs ++ ", got " ++ actual.storedAs
  | .columnOutOfBounds column width =>
      "column index " ++ toString column ++ " out of bounds (num_columns=" ++ toString width ++ ")"
  | .emptyRow => "row key has no components"
  | .incompatible expected actual =>
      "incompatible key schemas: expected " ++ KeyType.listText expected ++ ", got " ++
        KeyType.listText actual

structure Column where
  name : String
  type : KeyType
deriving DecidableEq

namespace Column

def field (column : Column) : Field :=
  .new column.name column.type.dataType false

-- The key column that a field can serve as. Its nullability and metadata are dropped.
def ofField (field : Field) : Except SchemaError Column :=
  match KeyType.ofDataType? field.dataType with
  | some type => .ok ⟨field.name, type⟩
  | none => .error (.unsupportedColumn field.name field.dataType)

@[simp] theorem of_field_field (column : Column) : ofField column.field = .ok column := by
  simp [ofField, field]

end Column

structure KeySchema where
  columns : List Column
deriving DecidableEq

-- A key of several columns is composite; any other is single, the empty one included.
inductive KeyCategory where
  | single
  | composite
deriving DecidableEq

namespace KeySchema

def empty : KeySchema := ⟨[]⟩

def single (name : String) (type : KeyType) : KeySchema := ⟨[⟨name, type⟩]⟩

def ofColumns (columns : List (String × KeyType)) : KeySchema :=
  ⟨columns.map fun column => ⟨column.1, column.2⟩⟩

def ofFields : List Field → Except SchemaError KeySchema
  | [] => .ok empty
  | field :: rest =>
      match Column.ofField field with
      | .error error => .error error
      | .ok column =>
          match ofFields rest with
          | .error error => .error error
          | .ok schema => .ok ⟨column :: schema.columns⟩

def primitiveColumn : String := "key"

def ofKeyType (type : KeyType) : KeySchema :=
  single primitiveColumn type

def size (schema : KeySchema) : Nat := schema.columns.length

def isEmpty (schema : KeySchema) : Bool := schema.columns.isEmpty

def hasKey (schema : KeySchema) : Bool := !schema.isEmpty

def category (schema : KeySchema) : KeyCategory :=
  if 1 < schema.size then .composite else .single

def names (schema : KeySchema) : List String := schema.columns.map Column.name

def keyTypes (schema : KeySchema) : List KeyType := schema.columns.map Column.type

def fields (schema : KeySchema) : List Field := schema.columns.map Column.field

def dataTypes (schema : KeySchema) : List DataType := schema.fields.map Field.dataType

def tableSchema (schema : KeySchema) : TableSchema := ⟨schema.fields, .empty⟩

def checkCompatible (schema other : KeySchema) : Except SchemaError Unit :=
  if schema.keyTypes = other.keyTypes then .ok ()
  else .error (.incompatible schema.keyTypes other.keyTypes)

def isCompatible (schema other : KeySchema) : Bool :=
  (schema.checkCompatible other).isOk

theorem of_fields_fields (schema : KeySchema) : ofFields schema.fields = .ok schema := by
  obtain ⟨columns⟩ := schema
  induction columns with
  | nil => rfl
  | cons column rest ih =>
      have tail : ofFields (rest.map Column.field) = .ok ⟨rest⟩ := ih
      simp [fields, ofFields, tail]

theorem has_key_iff (schema : KeySchema) : schema.hasKey = true ↔ schema.keyTypes ≠ [] := by
  simp [keyTypes, hasKey, isEmpty]

theorem size_eq (schema : KeySchema) : schema.size = schema.keyTypes.length := by
  simp [size, keyTypes]

theorem length_names (schema : KeySchema) : schema.names.length = schema.size := by
  simp [names, size]

theorem data_types_eq (schema : KeySchema) : schema.dataTypes = schema.keyTypes.map KeyType.dataType := by
  simp only [dataTypes, fields, keyTypes, List.map_map]
  rfl

theorem columns_eq_zip_with (schema : KeySchema) :
    schema.columns = List.zipWith Column.mk schema.names schema.keyTypes := by
  simp [names, keyTypes]

theorem is_compatible_iff (schema other : KeySchema) :
    schema.isCompatible other = true ↔ schema.keyTypes = other.keyTypes := by
  unfold isCompatible checkCompatible
  split
  · simpa [Except.isOk, Except.toBool]
  · simpa [Except.isOk, Except.toBool]

end KeySchema

namespace TableSchema

-- The first fields with the given names; `seen` are the names before them.
def selectFields (table : TableSchema) (seen : List String) :
    List String → Except SchemaError (List Field)
  | [] => .ok []
  | name :: rest =>
      if name ∈ seen then .error (.duplicateColumn name)
      else
        match table.field? name with
        | none => .error (.noSuchField name)
        | some field => (table.selectFields (name :: seen) rest).map (field :: ·)

end TableSchema

namespace KeySchema

def ofNames (table : TableSchema) (names : List String) : Except SchemaError KeySchema :=
  (table.selectFields [] names).bind ofFields

def resolve (table : TableSchema) : Except SchemaError KeySchema :=
  match table.keyDeclaration? with
  | none => .ok empty
  | some text =>
      match Declaration.read text with
      | .error fault => .error (.malformedDeclaration text fault)
      | .ok names => ofNames table names

end KeySchema

-- A primary or composite key replaces what was chosen before; a part is added behind it.
inductive KeyChoice where
  | primary (name : String)
  | composite (names : List String)
  | part (name : String)

namespace KeyChoice

def apply (parts : List String) : KeyChoice → List String
  | .primary name => [name]
  | .composite names => names
  | .part name => parts ++ [name]

def parts (choices : List KeyChoice) : List String :=
  choices.foldl apply []

end KeyChoice

namespace TableSchema

def declareParts (table : TableSchema) (parts : List String) : TableSchema :=
  table.withKeyDeclaration (Declaration.write parts)

def declareKey (table : TableSchema) (choices : List KeyChoice) :
    Except SchemaError TableSchema :=
  let declared := table.declareParts (KeyChoice.parts choices)
  (KeySchema.resolve declared).map fun _ => declared

end TableSchema
end RowSelection
