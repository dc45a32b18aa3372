import Mathlib.Data.List.Forall2
import RowSelection.Key.Row

set_option autoImplicit false

namespace RowSelection

-- Nothing but the operations keeps the fields and the components in step.
structure StoredRow where
  fields : List Field
  components : List Component

namespace StoredRow

inductive Failure where
  | refused (error : SchemaError)
  | mistyped (column : Nat) (expected actual : DataType)
  -- A write beside the components. The fields alone are asked whether there is such a column.
  | outOfRange (column : Nat)

def checkField (column : Nat) (field : Field) (component : Component) : Except Failure Unit :=
  if component.keyType.dataType == field.dataType then .ok ()
  else .error (.mistyped column field.dataType component.keyType.dataType)

def checkFields (column : Nat) : List Field → List Component → Except Failure Unit
  | field :: fields, component :: components =>
      match checkField column field component with
      | .error failure => .error failure
      | .ok () => checkFields (column + 1) fields components
  | _, _ => .ok ()

def ofSchema (schema : KeySchema) (components : List Component) : Except Failure StoredRow :=
  if schema.fields.length ≠ components.length then
    .error (.refused (.arity schema.fields.length components.length))
  else
    match checkFields 0 schema.fields components with
    | .error failure => .error failure
    | .ok () => .ok ⟨schema.fields, components⟩

def ofComponents (components : List Component) : StoredRow :=
  ⟨components.zipIdx.map fun entry => .new ("c" ++ toString entry.2) entry.1.keyType.dataType false, components⟩

def set (row : StoredRow) (column : Nat) (component : Component) : Except Failure StoredRow :=
  match row.fields[column]? with
  | none => .error (.refused (.columnOutOfBounds column row.fields.length))
  | some field =>
      match checkField column field component with
      | .error failure => .error failure
      | .ok () =>
          if column < row.components.length then .ok { row with components := row.components.set column component }
          else .error (.outOfRange column)

def copy (row : StoredRow) : StoredRow := ⟨row.fields, row.components⟩

def keySchema (row : StoredRow) : Except SchemaError KeySchema :=
  if row.components.isEmpty then .error .emptyRow else KeySchema.ofFields row.fields

def rebind (row : StoredRow) (schema : KeySchema) : Except SchemaError StoredRow :=
  match row.keySchema with
  | .error error => .error error
  | .ok own => (schema.checkCompatible own).map fun _ => ⟨schema.fields, row.components⟩

-- The rows that any sequence of operations makes. A refused operation makes none and changes none.
inductive Obtained : StoredRow → Prop
  | ofSchema {schema : KeySchema} {components : List Component} {row : StoredRow}
      (made : StoredRow.ofSchema schema components = .ok row) : Obtained row
  | ofComponents (components : List Component) : Obtained (.ofComponents components)
  | set {row later : StoredRow} {column : Nat} {component : Component} (before : Obtained row)
      (done : row.set column component = .ok later) : Obtained later
  | copy {row : StoredRow} (before : Obtained row) : Obtained row.copy
  | rebind {row later : StoredRow} {schema : KeySchema} (before : Obtained row)
      (done : row.rebind schema = .ok later) : Obtained later

end StoredRow

def Row.stored (row : Row) : StoredRow := ⟨row.fields, row.components⟩

def SchemaError.failure : SchemaError → StoredRow.Failure
  | .componentType column expected actual => .mistyped column expected.dataType actual.dataType
  | error => .refused error

def Row.answer : Except SchemaError Row → Except StoredRow.Failure StoredRow
  | .ok row => .ok row.stored
  | .error error => .error error.failure

structure Field.Describes (field : Field) (component : Component) : Prop where
  type : field.dataType = component.keyType.dataType
  required : field.nullable = false
  plain : field.metadata = .empty
  untagged : field.tag = .unset

namespace StoredRow

theorem check_field_eq (column : Nat) (own : Column) (component : Component) :
    checkField column own.field component =
      if component.keyType = own.type then .ok ()
      else .error (.mistyped column own.type.dataType component.keyType.dataType) := by
  have types : (component.keyType.dataType == own.field.dataType) = true ↔ component.keyType = own.type :=
    (KeyType.data_type_beq_iff _ _).trans ⟨KeyType.data_type_injective, congrArg KeyType.dataType⟩
  by_cases same : component.keyType = own.type
  · rw [checkField, if_pos (types.mpr same), if_pos same]
  · rw [checkField, if_neg (mt types.mp same), if_neg same]
    rfl

theorem check_fields_eq (column : Nat) (columns : List Column) (components : List Component) :
    checkFields column (columns.map Column.field) components =
      match Row.checkComponents column (columns.map Column.type) components with
      | .error error => .error error.failure
      | .ok () => .ok () := by
  induction columns generalizing column components with
  | nil => cases components <;> rfl
  | cons own rest ih =>
      cases components with
      | nil => rfl
      | cons component others =>
          rw [List.map_cons, List.map_cons, checkFields, check_field_eq, Row.checkComponents]
          by_cases same : component.keyType = own.type
          · rw [if_pos same, if_pos same]
            exact ih (column + 1) others
          · rw [if_neg same, if_neg same]
            rfl

theorem stored_of_parts {schema : KeySchema} {components : List Component}
    (fits : components.map Component.keyType = schema.keyTypes) :
    (Row.ofParts schema.names components).stored = ⟨schema.fields, components⟩ := by
  have sameLength : schema.names.length = components.length := by
    rw [schema.length_names, schema.size_eq, ← fits, List.length_map]
  have held := Row.components_of_parts sameLength
  have columns : (Row.ofParts schema.names components).columns = schema.columns := by
    apply Row.columns_of_fit (Row.names_of_parts sameLength)
    rw [Row.keyTypes, held, fits]
  rw [Row.stored, Row.fields, columns, held]
  rfl

theorem of_schema_eq (schema : KeySchema) (components : List Component) :
    ofSchema schema components = Row.answer (Row.ofSchema schema components) := by
  have width : schema.fields.length = schema.size := List.length_map _
  rw [ofSchema, Row.ofSchema, width]
  by_cases arity : schema.size = components.length
  · have sameLength : schema.keyTypes.length = components.length := schema.size_eq ▸ arity
    have checks : checkFields 0 schema.fields components = _ := check_fields_eq 0 schema.columns components
    rw [if_neg (not_not_intro arity), if_neg (not_not_intro arity), checks, ← KeySchema.keyTypes]
    cases checked : Row.checkComponents 0 schema.keyTypes components with
    | error error => rfl
    | ok done =>
        have fits := (Row.check_components_eq_ok_iff 0 sameLength).mp checked
        exact congrArg Except.ok (stored_of_parts fits).symm
  · rw [if_pos arity, if_pos arity]
    rfl

theorem of_components_eq (components : List Component) :
    ofComponents components = (Row.ofComponents components).stored := by
  let names := components.zipIdx.map fun entry => "c" ++ toString entry.2
  have sameLength : names.length = components.length := by simp [names]
  have held : (Row.ofComponents components).components = components := Row.components_of_parts sameLength
  have named : (Row.ofComponents components).names = names := Row.names_of_parts sameLength
  have types : (Row.ofComponents components).keyTypes = components.zipIdx.map fun entry => entry.1.keyType := by
    rw [Row.keyTypes, held]
    conv => lhs; rw [← List.zipIdx_map_fst 0 components, List.map_map]
    rfl
  have columns : (Row.ofComponents components).columns =
      components.zipIdx.map fun entry => ⟨"c" ++ toString entry.2, entry.1.keyType⟩ := by
    rw [Row.columns_eq_zip_with, named, types, List.zipWith_map, List.zipWith_self]
  rw [Row.stored, held, Row.fields, columns, List.map_map]
  rfl

theorem columns_set {row : Row} {column : Nat} {cell : Cell} (found : row.cells[column]? = some cell)
    {component : Component} (same : component.keyType = cell.value.keyType) :
    Row.columns ⟨row.cells.set column { cell with value := component }⟩ = row.columns := by
  have own : row.columns[column]? = some ⟨cell.name, component.keyType⟩ := by
    rw [Row.columns, List.getElem?_map, found, same]
    rfl
  obtain ⟨bound, held⟩ := List.getElem?_eq_some_iff.mp own
  calc
    Row.columns ⟨row.cells.set column { cell with value := component }⟩
      = row.columns.set column ⟨cell.name, component.keyType⟩ := List.map_set
    _ = row.columns := by rw [← held, List.set_getElem_self]

theorem stored_set {row : Row} {column : Nat} {cell : Cell} (found : row.cells[column]? = some cell)
    {component : Component} (same : component.keyType = cell.value.keyType) :
    Row.stored ⟨row.cells.set column { cell with value := component }⟩ =
      ⟨row.stored.fields, row.stored.components.set column component⟩ := by
  simp only [Row.stored, Row.fields, columns_set found same, Row.components, List.map_set]

theorem set_stored (row : Row) (column : Nat) (component : Component) :
    row.stored.set column component = Row.answer (row.set column component) := by
  have field : row.stored.fields[column]? =
      row.cells[column]?.map fun cell => Column.field ⟨cell.name, cell.value.keyType⟩ := by
    simp [Row.stored, Row.fields, Row.columns, Function.comp_def]
  have width : row.stored.fields.length = row.size := by simp [Row.stored, Row.fields, Row.columns, Row.size]
  have height : row.stored.components.length = row.cells.length := by simp [Row.stored, Row.components]
  rw [set, field, width, height, Row.set]
  cases found : row.cells[column]? with
  | none => rfl
  | some cell =>
      obtain ⟨inside, _⟩ := List.getElem?_eq_some_iff.mp found
      simp only [Option.map_some, check_field_eq]
      by_cases same : component.keyType = cell.value.keyType
      · rw [if_pos same, if_pos same]
        simp only [if_pos inside, Row.answer, stored_set found same]
      · rw [if_neg same, if_neg same]
        rfl

theorem copy_stored (row : Row) : row.stored.copy = row.copy.stored := by
  rw [Row.copy_eq]
  rfl

theorem key_schema_stored (row : Row) : row.stored.keySchema = row.keySchema := by
  have empty : row.components.isEmpty = row.isEmpty := by simp [Row.components, Row.isEmpty]
  rw [keySchema, Row.keySchema, Row.stored, empty]

theorem rebind_stored (row : Row) (schema : KeySchema) :
    row.stored.rebind schema = (row.rebind schema).map Row.stored := by
  rw [rebind, Row.rebind, key_schema_stored, Row.key_schema_eq]
  by_cases empty : row.isEmpty = true
  · rw [if_pos empty]
    rfl
  · rw [if_neg empty]
    simp only [KeySchema.checkCompatible, Row.key_types_columns]
    by_cases fits : schema.keyTypes = row.keyTypes
    · rw [if_pos fits]
      exact congrArg Except.ok (stored_of_parts fits.symm).symm
    · rw [if_neg fits]
      rfl

theorem row_of_answer {answered : Except SchemaError Row} {stored : StoredRow}
    (done : Row.answer answered = .ok stored) : ∃ row, answered = .ok row ∧ stored = row.stored := by
  cases answered with
  | error error => cases done
  | ok row => exact ⟨row, rfl, (Except.ok.inj done).symm⟩

theorem row_of_obtained {stored : StoredRow} (obtained : stored.Obtained) : ∃ row : Row, stored = row.stored := by
  induction obtained with
  | ofSchema made =>
      rw [of_schema_eq] at made
      obtain ⟨row, _, same⟩ := row_of_answer made
      exact ⟨row, same⟩
  | ofComponents components => exact ⟨_, of_components_eq components⟩
  | set before done ih =>
      obtain ⟨row, rfl⟩ := ih
      rw [set_stored] at done
      obtain ⟨later, _, same⟩ := row_of_answer done
      exact ⟨later, same⟩
  | copy before ih => exact ih
  | @rebind _ _ schema before done ih =>
      obtain ⟨row, rfl⟩ := ih
      rw [rebind_stored] at done
      cases rebound : row.rebind schema with
      | error error =>
          rw [rebound] at done
          cases done
      | ok later =>
          rw [rebound] at done
          exact ⟨later, (Except.ok.inj done).symm⟩

theorem describes_stored (row : Row) : List.Forall₂ Field.Describes row.stored.fields row.stored.components := by
  obtain ⟨cells⟩ := row
  induction cells with
  | nil => exact .nil
  | cons cell rest ih => exact .cons ⟨rfl, rfl, rfl, rfl⟩ ih

theorem set_eq {stored : StoredRow} (obtained : stored.Obtained) (column : Nat) (component : Component) :
    stored.set column component =
      match stored.components[column]? with
      | none => .error (.refused (.columnOutOfBounds column stored.components.length))
      | some held =>
          if component.keyType = held.keyType then .ok ⟨stored.fields, stored.components.set column component⟩
          else .error (.mistyped column held.keyType.dataType component.keyType.dataType) := by
  obtain ⟨row, rfl⟩ := row_of_obtained obtained
  have read : row.stored.components[column]? = row.cells[column]?.map Cell.value := List.getElem?_map
  have width : row.stored.components.length = row.size := List.length_map _
  rw [set_stored, Row.set, read, width]
  cases found : row.cells[column]? with
  | none => rfl
  | some cell =>
      simp only [Option.map_some]
      by_cases same : component.keyType = cell.value.keyType
      · rw [if_pos same, if_pos same, Row.answer, stored_set found same]
      · rw [if_neg same, if_neg same]
        rfl

def step (stored : StoredRow) (entry : Nat × Component) : StoredRow :=
  (stored.set entry.1 entry.2).toOption.getD stored

def after (stored : StoredRow) (sets : List (Nat × Component)) : StoredRow := sets.foldl step stored

def acceptedSets : StoredRow → List (Nat × Component) → List (Nat × Component)
  | _, [] => []
  | stored, entry :: rest =>
      match stored.set entry.1 entry.2 with
      | .ok later => entry :: later.acceptedSets rest
      | .error _ => stored.acceptedSets rest

def lastSet (column : Nat) (sets : List (Nat × Component)) : Option Component :=
  (sets.filter fun entry => entry.1 == column).getLast?.map Prod.snd

theorem last_set_cons (column : Nat) (entry : Nat × Component) (rest : List (Nat × Component)) :
    lastSet column (entry :: rest) = (lastSet column rest).or (if entry.1 = column then some entry.2 else none) := by
  by_cases here : entry.1 = column
  · rw [lastSet, List.filter_cons_of_pos (by simp [here]), List.getLast?_cons, if_pos here, lastSet]
    cases (rest.filter fun entry => entry.1 == column).getLast? <;> rfl
  · rw [lastSet, List.filter_cons_of_neg (by simp [here]), if_neg here, Option.or_none, lastSet]

theorem accepted_set {stored later : StoredRow} (obtained : stored.Obtained) {column : Nat} {component : Component}
    (done : stored.set column component = .ok later) :
    column < stored.components.length ∧ later = ⟨stored.fields, stored.components.set column component⟩ := by
  rw [set_eq obtained] at done
  cases held : stored.components[column]? with
  | none =>
      rw [held] at done
      cases done
  | some known =>
      obtain ⟨inside, _⟩ := List.getElem?_eq_some_iff.mp held
      simp only [held] at done
      by_cases same : component.keyType = known.keyType
      · rw [if_pos same] at done
        exact ⟨inside, (Except.ok.inj done).symm⟩
      · rw [if_neg same] at done
        cases done

theorem after_eq {stored : StoredRow} (obtained : stored.Obtained) (sets : List (Nat × Component)) :
    (stored.after sets).fields = stored.fields ∧
      (stored.after sets).components.length = stored.components.length ∧
      ∀ column : Nat, (stored.after sets).components[column]? =
        (lastSet column (stored.acceptedSets sets)).or stored.components[column]? := by
  induction sets generalizing stored with
  | nil => exact ⟨rfl, rfl, fun _ => rfl⟩
  | cons entry rest ih =>
      rw [after, List.foldl_cons, ← after]
      cases done : stored.set entry.1 entry.2 with
      | error failure =>
          have unchanged : stored.step entry = stored := by
            rw [step, done]
            rfl
          rw [unchanged, acceptedSets, done]
          exact ih obtained
      | ok later =>
          have changed : stored.step entry = later := by
            rw [step, done]
            rfl
          obtain ⟨fields, width, read⟩ := ih (.set obtained done)
          obtain ⟨inside, rfl⟩ := accepted_set obtained done
          rw [changed, acceptedSets, done]
          refine ⟨fields, width.trans (List.length_set ..), ?_⟩
          intro column
          rw [read, last_set_cons, Option.or_assoc, List.getElem?_set, if_pos inside]
          by_cases here : entry.1 = column
          · rw [if_pos here, if_pos here]
            rfl
          · rw [if_neg here, if_neg here, Option.none_or]

end StoredRow

end RowSelection
