import RowSelection.Declaration.RoundTrip
import RowSelection.KeySchema
import RowSelection.Proofs.Calls
import RowSelection.Proofs.FirstFault
import RowSelection.Proofs.StoredRow

set_option autoImplicit false

namespace RowSelection

-- Any table schema has this shape; nothing but the operations sees to it that it is a key's.
structure StoredSchema where
  table : TableSchema

namespace StoredSchema

inductive Failure where
  | refused (error : SchemaError)
  | incompatible (expected actual : List DataType)

def fields (schema : StoredSchema) : List Field := schema.table.fields

def size (schema : StoredSchema) : Nat := schema.fields.length

def category (schema : StoredSchema) : KeyCategory :=
  if 1 < schema.size then .composite else .single

def names (schema : StoredSchema) : List String := schema.fields.map Field.name

def columnTypes (schema : StoredSchema) : List DataType := schema.fields.map Field.dataType

-- A column of any other type would be passed over.
def keyTypes (schema : StoredSchema) : List KeyType :=
  schema.fields.filterMap fun field => KeyType.ofDataType? field.dataType

def checkCompatible (schema other : StoredSchema) : Except Failure Unit :=
  if schema.columnTypes != other.columnTypes then .error (.incompatible schema.columnTypes other.columnTypes)
  else .ok ()

def isCompatible (schema other : StoredSchema) : Bool :=
  (schema.checkCompatible other).isOk

def keyType (schema : StoredSchema) (binding : Binding) : Except PredicateError KeyType :=
  if schema.category ≠ .single then .error .compositeKey
  else
    match binding.keyType?.or schema.keyTypes.head? with
    | some type => .ok type
    | none => .error .untypedKey

def keepKeyFields (kept : List Field) : List Field → Except SchemaError (List Field)
  | [] => .ok kept
  | field :: rest =>
      match KeyType.ofDataType? field.dataType with
      | none => .error (.unsupportedColumn field.name field.dataType)
      | some _ => keepKeyFields (kept ++ [field.keyOnly]) rest

def ofKeyFields (fields : List Field) : Except SchemaError StoredSchema :=
  (keepKeyFields [] fields).map fun kept => ⟨⟨kept, .empty⟩⟩

def resolve (container : TableSchema) : Except SchemaError StoredSchema :=
  match container.keyDeclaration? with
  | none => ofKeyFields []
  | some text =>
      match Declaration.read text with
      | .error fault => .error (.malformedDeclaration text fault)
      | .ok names => (container.selectFields [] names).bind ofKeyFields

def ofColumns (columns : List (String × KeyType)) : Except SchemaError StoredSchema :=
  ofKeyFields (columns.map fun column => .new column.1 column.2.dataType false)

-- Its field is not checked, since the type is a key type.
def single (name : String) (type : KeyType) : StoredSchema :=
  ⟨⟨[.new name type.dataType false], .empty⟩⟩

def ofRow (row : StoredRow) : Except SchemaError StoredSchema :=
  if row.components.isEmpty then .error .emptyRow else ofKeyFields row.fields

def primitive (type : KeyType) : StoredSchema := single KeySchema.primitiveColumn type

inductive Obtained : StoredSchema → Prop
  | resolve {container : TableSchema} {schema : StoredSchema} (made : StoredSchema.resolve container = .ok schema) :
      Obtained schema
  | ofColumns {columns : List (String × KeyType)} {schema : StoredSchema}
      (made : StoredSchema.ofColumns columns = .ok schema) : Obtained schema
  | single (name : String) (type : KeyType) : Obtained (.single name type)
  | ofRow {row : StoredRow} {schema : StoredSchema} (made : StoredSchema.ofRow row = .ok schema) : Obtained schema
  | primitive (type : KeyType) : Obtained (.primitive type)

structure KeyOnly (schema : StoredSchema) : Prop where
  typed : ∀ field ∈ schema.fields, ∃ type : KeyType, field.dataType = type.dataType
  required : ∀ field ∈ schema.fields, field.nullable = false
  plain : ∀ field ∈ schema.fields, field.metadata = .empty
  untagged : ∀ field ∈ schema.fields, field.tag = .unset
  bare : schema.table.metadata = .empty

end StoredSchema

def KeySchema.stored (schema : KeySchema) : StoredSchema := ⟨schema.tableSchema⟩

def SchemaError.storedFailure : SchemaError → StoredSchema.Failure
  | .incompatible expected actual => .incompatible (expected.map KeyType.dataType) (actual.map KeyType.dataType)
  | error => .refused error

namespace StoredSchema

theorem keep_key_fields_eq (kept fields : List Field) :
    keepKeyFields kept fields = (KeySchema.ofFields fields).map fun schema => kept ++ schema.fields := by
  induction fields generalizing kept with
  | nil => exact congrArg Except.ok (List.append_nil kept).symm
  | cons field rest ih =>
      rw [keepKeyFields, KeySchema.ofFields, Column.ofField]
      cases known : KeyType.ofDataType? field.dataType with
      | none => rfl
      | some type =>
          simp only [ih, Field.key_only_eq known]
          cases KeySchema.ofFields rest with
          | error error => rfl
          | ok schema => simp [Except.map, KeySchema.fields]

theorem of_key_fields_eq (fields : List Field) :
    ofKeyFields fields = (KeySchema.ofFields fields).map KeySchema.stored := by
  rw [ofKeyFields, keep_key_fields_eq]
  cases KeySchema.ofFields fields <;> rfl

theorem resolve_eq (container : TableSchema) :
    resolve container = (KeySchema.resolve container).map KeySchema.stored := by
  rw [resolve, KeySchema.resolve]
  cases container.keyDeclaration? with
  | none => rfl
  | some text =>
      simp only
      cases Declaration.read text with
      | error fault => rfl
      | ok names =>
          simp only [KeySchema.ofNames]
          cases container.selectFields [] names with
          | error error => rfl
          | ok fields => exact of_key_fields_eq fields

theorem of_columns_eq (columns : List (String × KeyType)) :
    ofColumns columns = .ok (KeySchema.ofColumns columns).stored := by
  have fields : (columns.map fun column => Field.new column.1 column.2.dataType false) =
      (KeySchema.ofColumns columns).fields := by
    rw [KeySchema.fields, KeySchema.ofColumns, List.map_map]
    rfl
  rw [ofColumns, fields, of_key_fields_eq, KeySchema.of_fields_fields]
  rfl

theorem single_eq (name : String) (type : KeyType) : single name type = (KeySchema.single name type).stored := rfl

theorem primitive_eq (type : KeyType) : primitive type = (KeySchema.ofKeyType type).stored := rfl

theorem of_row_eq (row : StoredRow) : ofRow row = row.keySchema.map KeySchema.stored := by
  rw [ofRow, StoredRow.keySchema, of_key_fields_eq]
  by_cases empty : row.components.isEmpty = true
  · rw [if_pos empty, if_pos empty]
    rfl
  · rw [if_neg empty, if_neg empty]

theorem stored_of_made {made : Except SchemaError KeySchema} {schema : StoredSchema}
    (done : made.map KeySchema.stored = .ok schema) : ∃ key : KeySchema, schema = key.stored := by
  cases made with
  | error error => cases done
  | ok key => exact ⟨key, (Except.ok.inj done).symm⟩

theorem key_of_obtained {schema : StoredSchema} (obtained : schema.Obtained) : ∃ key : KeySchema, schema = key.stored := by
  cases obtained with
  | resolve made => exact stored_of_made ((resolve_eq _).symm.trans made)
  | @ofColumns columns _ made => exact ⟨_, Except.ok.inj (made.symm.trans (of_columns_eq columns))⟩
  | single name type => exact ⟨_, single_eq name type⟩
  | ofRow made => exact stored_of_made ((of_row_eq _).symm.trans made)
  | primitive type => exact ⟨_, primitive_eq type⟩

section
variable (key other : KeySchema)

theorem column_types_stored : key.stored.columnTypes = key.keyTypes.map KeyType.dataType :=
  key.data_types_eq

theorem key_types_stored : key.stored.keyTypes = key.keyTypes := by
  have types (column : Column) : KeyType.ofDataType? column.field.dataType = some column.type :=
    KeyType.of_data_type?_data_type column.type
  simp [keyTypes, fields, KeySchema.stored, KeySchema.tableSchema, KeySchema.fields, KeySchema.keyTypes,
    List.filterMap_map, types]

theorem names_stored : key.stored.names = key.names := by
  simp only [names, fields, KeySchema.stored, KeySchema.tableSchema, KeySchema.fields, KeySchema.names, List.map_map]
  rfl

theorem size_stored : key.stored.size = key.size := List.length_map _

theorem category_stored : key.stored.category = key.category := by
  rw [category, KeySchema.category, size_stored]

theorem key_only_stored : key.stored.KeyOnly where
  typed := List.forall_mem_map.mpr fun column _ => ⟨column.type, rfl⟩
  required := List.forall_mem_map.mpr fun _ _ => rfl
  plain := List.forall_mem_map.mpr fun _ _ => rfl
  untagged := List.forall_mem_map.mpr fun _ _ => rfl
  bare := rfl

theorem column_types_beq_stored :
    (key.stored.columnTypes == other.stored.columnTypes) = true ↔ key.keyTypes = other.keyTypes := by
  rw [column_types_stored, column_types_stored]
  exact KeyType.data_types_beq_iff _ _

theorem column_types_stored_iff : key.stored.columnTypes = other.stored.columnTypes ↔ key.keyTypes = other.keyTypes := by
  rw [column_types_stored, column_types_stored]
  exact List.map_inj_right fun _ _ => KeyType.data_type_injective

theorem check_compatible_stored :
    key.stored.checkCompatible other.stored = (key.checkCompatible other).mapError SchemaError.storedFailure := by
  have same := column_types_beq_stored key other
  rw [checkCompatible, KeySchema.checkCompatible]
  by_cases fits : key.keyTypes = other.keyTypes
  · rw [if_neg (by simp [bne, same.mpr fits]), if_pos fits]
    rfl
  · rw [if_pos (by simp [bne, mt same.mp fits]), if_neg fits, column_types_stored, column_types_stored]
    rfl

theorem check_compatible_stored_error_iff (failure : Failure) :
    key.stored.checkCompatible other.stored = .error failure ↔
      key.stored.columnTypes ≠ other.stored.columnTypes ∧
        failure = .incompatible key.stored.columnTypes other.stored.columnTypes := by
  have same := column_types_stored_iff key other
  rw [check_compatible_stored, KeySchema.checkCompatible]
  by_cases fits : key.keyTypes = other.keyTypes
  · rw [if_pos fits, same.mpr fits]
    constructor
    · intro refused
      cases refused
    · intro apart
      exact absurd rfl apart.1
  · rw [if_neg fits, column_types_stored, column_types_stored]
    constructor
    · intro refused
      cases refused
      exact ⟨mt (List.map_inj_right fun _ _ => KeyType.data_type_injective).mp fits, rfl⟩
    · rintro ⟨_, rfl⟩
      rfl

theorem stored_eq_iff : key.stored = other.stored ↔ key.keyTypes = other.keyTypes ∧ key.names = other.names := by
  constructor
  · intro same
    rw [← key_types_stored, ← names_stored, same, key_types_stored, names_stored]
    exact ⟨rfl, rfl⟩
  · intro same
    have columns : key.columns = other.columns := by
      rw [key.columns_eq_zip_with, other.columns_eq_zip_with, same.1, same.2]
    rw [KeySchema.stored, KeySchema.tableSchema, KeySchema.fields, columns]
    rfl

end

theorem is_compatible_iff (schema other : StoredSchema) :
    schema.isCompatible other = true ↔ (schema.columnTypes == other.columnTypes) = true := by
  rw [isCompatible, checkCompatible, bne]
  cases schema.columnTypes == other.columnTypes <;> simp [Except.isOk, Except.toBool]

theorem compatible_equivalence :
    Equivalence fun schema other : StoredSchema => schema.isCompatible other = true := by
  simp only [is_compatible_iff]
  exact InvImage.equivalence _ columnTypes DataType.list_equivalence

end StoredSchema

namespace Predicate

theorem key_type_stored (p : Predicate) : p.keyType = p.schema.stored.keyType p.binding := by
  rw [StoredSchema.keyType, StoredSchema.category_stored, StoredSchema.key_types_stored]
  rfl

theorem key_types_of_bound {p : Predicate} {type : KeyType} (bound : p.binding.keyType? = some type) :
    p.schema.keyTypes = [type] := by
  obtain ⟨binding, _, _⟩ := p
  cases binding with
  | tag own =>
      cases bound
      rfl
  | host own =>
      cases bound
      rfl
  | rows own => cases bound

theorem key_type_of_single {p : Predicate} {type : KeyType} (single : p.schema.keyTypes = [type]) :
    p.keyType = .ok type := by
  have width : p.schema.size = 1 := by rw [p.schema.size_eq, single, List.length_singleton]
  have category : p.schema.category = .single := by simp [KeySchema.category, width]
  rw [keyType, if_neg (not_not_intro category), single]
  cases bound : p.binding.keyType? with
  | none => rfl
  | some own =>
      have same : own = type := by simpa [single] using (key_types_of_bound bound).symm
      rw [same]
      rfl

-- A schema without columns would be single and have no type. No predicate has one.
theorem key_type_of_not_single {p : Predicate} (keyed : p.schema.hasKey = true) (width : p.schema.size ≠ 1) :
    p.keyType = .error .compositeKey := by
  have filled : p.schema.size ≠ 0 := by
    rw [p.schema.size_eq]
    exact mt List.length_eq_zero_iff.mp ((KeySchema.has_key_iff p.schema).mp keyed)
  have several : 1 < p.schema.size := by omega
  have category : p.schema.category ≠ .single := by simp [KeySchema.category, several]
  rw [keyType, if_pos category]

theorem key_type_of_one {p : Predicate} (width : p.schema.size = 1) :
    ∃ type, p.schema.keyTypes = [type] ∧ p.keyType = .ok type := by
  obtain ⟨type, single⟩ := List.length_eq_one_iff.mp (p.schema.size_eq.symm.trans width)
  exact ⟨type, single, key_type_of_single single⟩

theorem key_type_ok_iff {p : Predicate} (keyed : p.schema.hasKey = true) (type : KeyType) :
    p.keyType = .ok type ↔ p.schema.keyTypes = [type] := by
  constructor
  · intro known
    have width : p.schema.size = 1 := by
      by_contra several
      rw [key_type_of_not_single keyed several] at known
      cases known
    obtain ⟨own, single, answer⟩ := key_type_of_one width
    rw [single, Except.ok.inj (answer.symm.trans known)]
  · exact key_type_of_single

theorem key_type_by_stored {p : Predicate} (keyed : p.schema.hasKey = true) :
    (p.schema.stored.size = 1 → ∃ type, p.schema.stored.columnTypes = [type.dataType] ∧ p.keyType = .ok type) ∧
    (p.schema.stored.size ≠ 1 → p.keyType = .error .compositeKey) ∧
    (∀ type, p.keyType = .ok type → p.schema.stored.columnTypes = [type.dataType]) ∧
    (∀ type, p.binding.keyType? = some type → p.keyType = .ok type) ∧ p.keyType ≠ .error .untypedKey := by
  have column {type : KeyType} (single : p.schema.keyTypes = [type]) :
      p.schema.stored.columnTypes = [type.dataType] := by
    rw [StoredSchema.column_types_stored, single]
    rfl
  rw [StoredSchema.size_stored]
  refine ⟨?_, key_type_of_not_single keyed, ?_, ?_, ?_⟩
  · intro width
    obtain ⟨type, single, known⟩ := key_type_of_one width
    exact ⟨type, column single, known⟩
  · intro type known
    exact column ((key_type_ok_iff keyed type).mp known)
  · intro type bound
    exact key_type_of_single (key_types_of_bound bound)
  · intro untyped
    by_cases width : p.schema.size = 1
    · obtain ⟨type, _, known⟩ := key_type_of_one width
      rw [known] at untyped
      cases untyped
    · rw [key_type_of_not_single keyed width] at untyped
      cases untyped

end Predicate

end RowSelection
