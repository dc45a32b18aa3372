import RowSelection.KeySchema

set_option autoImplicit false

namespace RowSelection

structure Cell where
  name : String
  value : Component

structure Row where
  cells : List Cell

namespace Row

def ofParts (names : List String) (components : List Component) : Row :=
  ⟨List.zipWith Cell.mk names components⟩

def names (row : Row) : List String := row.cells.map Cell.name

def components (row : Row) : List Component := row.cells.map Cell.value

def size (row : Row) : Nat := row.cells.length

def isEmpty (row : Row) : Bool := row.cells.isEmpty

def get? (row : Row) (column : Nat) : Option Component :=
  row.cells[column]?.map Cell.value

def columns (row : Row) : List Column :=
  row.cells.map fun cell => ⟨cell.name, cell.value.keyType⟩

def fields (row : Row) : List Field :=
  row.columns.map Column.field

def keyTypes (row : Row) : List KeyType :=
  row.components.map Component.keyType

theorem of_parts_names_components (row : Row) : ofParts row.names row.components = row := by
  simp [ofParts, names, components]

theorem eq_iff_names_components (a b : Row) :
    a = b ↔ a.names = b.names ∧ a.components = b.components := by
  constructor
  · rintro rfl
    exact ⟨rfl, rfl⟩
  · rintro ⟨sameNames, sameComponents⟩
    rw [← of_parts_names_components a, ← of_parts_names_components b, sameNames, sameComponents]

instance : DecidableEq Row := fun a b =>
  decidable_of_iff _ (eq_iff_names_components a b).symm

def copy (row : Row) : Row := ofParts row.names row.components

def ofComponents (components : List Component) : Row :=
  ofParts (components.zipIdx.map fun entry => "c" ++ toString entry.2) components

-- Reports the first component whose type is not its column's; `column` counts from the left.
def checkComponents (column : Nat) : List KeyType → List Component → Except SchemaError Unit
  | type :: types, component :: components =>
      if component.keyType = type then checkComponents (column + 1) types components
      else .error (.componentType column type component.keyType)
  | _, _ => .ok ()

def ofSchema (schema : KeySchema) (components : List Component) : Except SchemaError Row :=
  if schema.size ≠ components.length then .error (.arity schema.size components.length)
  else
    match checkComponents 0 schema.keyTypes components with
    | .error error => .error error
    | .ok () => .ok (ofParts schema.names components)

def set (row : Row) (column : Nat) (component : Component) : Except SchemaError Row :=
  match row.cells[column]? with
  | none => .error (.columnOutOfBounds column row.size)
  | some cell =>
      if component.keyType = cell.value.keyType then
        .ok ⟨row.cells.set column { cell with value := component }⟩
      else .error (.componentType column cell.value.keyType component.keyType)

def keySchema (row : Row) : Except SchemaError KeySchema :=
  if row.isEmpty then .error .emptyRow else KeySchema.ofFields row.fields

def rebind (row : Row) (schema : KeySchema) : Except SchemaError Row :=
  match row.keySchema with
  | .error error => .error error
  | .ok own => (schema.checkCompatible own).map fun _ => ofParts schema.names row.components

theorem names_of_parts {names : List String} {components : List Component}
    (sameLength : names.length = components.length) : (ofParts names components).names = names := by
  induction names generalizing components with
  | nil => rfl
  | cons name rest ih =>
      cases components with
      | nil => simp at sameLength
      | cons component others =>
          have tail := ih (Nat.succ.inj sameLength)
          simpa [ofParts, Row.names] using tail

theorem components_of_parts {names : List String} {components : List Component}
    (sameLength : names.length = components.length) :
    (ofParts names components).components = components := by
  induction components generalizing names with
  | nil => cases names <;> rfl
  | cons component rest ih =>
      cases names with
      | nil => simp at sameLength
      | cons name others =>
          have tail := ih (Nat.succ.inj sameLength)
          simpa [ofParts, Row.components] using tail

theorem copy_eq (row : Row) : row.copy = row :=
  of_parts_names_components row

theorem check_components_eq_ok_iff (column : Nat) {types : List KeyType}
    {components : List Component} (sameLength : types.length = components.length) :
    checkComponents column types components = .ok () ↔
      components.map Component.keyType = types := by
  induction types generalizing column components with
  | nil =>
      cases components with
      | nil => simp [checkComponents]
      | cons _ _ => simp at sameLength
  | cons type rest ih =>
      cases components with
      | nil => simp at sameLength
      | cons component others =>
          have tail := ih (column + 1) (Nat.succ.inj sameLength)
          by_cases fits : component.keyType = type
          · simp [checkComponents, fits, tail]
          · simp [checkComponents, fits]

theorem key_schema_eq (row : Row) :
    row.keySchema = if row.isEmpty then .error .emptyRow else .ok ⟨row.columns⟩ := by
  simp only [keySchema, fields]
  rw [show row.columns.map Column.field = KeySchema.fields ⟨row.columns⟩ from rfl,
    KeySchema.of_fields_fields]

theorem key_types_columns (row : Row) : KeySchema.keyTypes ⟨row.columns⟩ = row.keyTypes := by
  simp [KeySchema.keyTypes, columns, keyTypes, components]

theorem columns_eq_zip_with (row : Row) : row.columns = List.zipWith Column.mk row.names row.keyTypes := by
  simp [columns, names, keyTypes, components]

theorem columns_of_fit {row : Row} {schema : KeySchema} (named : row.names = schema.names)
    (fits : row.keyTypes = schema.keyTypes) : row.columns = schema.columns := by
  rw [row.columns_eq_zip_with, schema.columns_eq_zip_with, named, fits]

theorem is_empty_iff_key_types (row : Row) : row.isEmpty = true ↔ row.keyTypes = [] := by
  simp [isEmpty, keyTypes, components]

theorem names_columns (row : Row) : KeySchema.names ⟨row.columns⟩ = row.names := by
  simp [KeySchema.names, columns, names]

theorem of_schema_columns (row : Row) : ofSchema ⟨row.columns⟩ row.components = .ok row := by
  have arity : KeySchema.size ⟨row.columns⟩ = row.components.length := by simp [KeySchema.size, columns, components]
  have sameLength : row.keyTypes.length = row.components.length := List.length_map _
  have checked : checkComponents 0 row.keyTypes row.components = .ok () :=
    (check_components_eq_ok_iff 0 sameLength).mpr rfl
  rw [ofSchema, if_neg (not_not_intro arity), key_types_columns, checked, names_columns]
  exact congrArg Except.ok row.of_parts_names_components

theorem length_components {row : Row} {schema : KeySchema} (fits : row.keyTypes = schema.keyTypes) :
    row.components.length = schema.size := by
  rw [schema.size_eq, ← fits, keyTypes, List.length_map]

theorem of_schema_ok_iff (schema : KeySchema) (components : List Component) (row : Row) :
    ofSchema schema components = .ok row ↔
      components.map Component.keyType = schema.keyTypes ∧ row = ofParts schema.names components := by
  by_cases arity : schema.size = components.length
  · have sameLength : schema.keyTypes.length = components.length := schema.size_eq ▸ arity
    have fits := check_components_eq_ok_iff 0 sameLength
    rw [ofSchema, if_neg (not_not_intro arity)]
    cases checked : checkComponents 0 schema.keyTypes components with
    | error error =>
        rw [checked] at fits
        simp [← fits]
    | ok done =>
        have same := fits.mp checked
        simp [same, eq_comm]
  · have unfit : components.map Component.keyType ≠ schema.keyTypes := by
      intro same
      rw [schema.size_eq, ← same, List.length_map] at arity
      exact arity rfl
    rw [ofSchema, if_pos arity]
    simp [unfit]

theorem rebind_eq (row : Row) (schema : KeySchema) :
    row.rebind schema =
      if row.isEmpty then .error .emptyRow
      else if schema.keyTypes = row.keyTypes then .ok (ofParts schema.names row.components)
      else .error (.incompatible schema.keyTypes row.keyTypes) := by
  rw [rebind, key_schema_eq]
  by_cases empty : row.isEmpty = true
  · rw [if_pos empty, if_pos empty]
  · rw [if_neg empty, if_neg empty]
    simp only [KeySchema.checkCompatible, key_types_columns]
    by_cases fits : schema.keyTypes = row.keyTypes
    · rw [if_pos fits, if_pos fits]
      rfl
    · rw [if_neg fits, if_neg fits]
      rfl

theorem eq_singleton_of_key_types {row : Row} {type : KeyType} (single : row.keyTypes = [type]) :
    ∃ cell, row = ⟨[cell]⟩ ∧ cell.value.keyType = type := by
  obtain ⟨cells⟩ := row
  simpa [keyTypes, components, List.map_eq_singleton_iff] using single

end Row
end RowSelection
