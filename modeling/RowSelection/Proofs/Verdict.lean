import RowSelection.Predicate.Mutation

set_option autoImplicit false

namespace RowSelection

-- A row of one component stands for that component.
def Key.unwrapped : Key → Key
  | .row ⟨[cell]⟩ => .primitive cell.value
  | key => key

namespace Binding

def Admits : Binding → Key → Prop
  | .tag type, .primitive component => component.keyType = type
  | .tag type, .row row => row.keyTypes = [type]
  | .host type, .primitive component => component.keyType = type
  | .host _, .row _ => False
  | .rows _, .primitive _ => False
  | .rows schema, .row row => row.keyTypes = schema.keyTypes

instance decidableAdmits : (binding : Binding) → (key : Key) → Decidable (binding.Admits key)
  | .tag type, .primitive component => inferInstanceAs (Decidable (component.keyType = type))
  | .tag type, .row row => inferInstanceAs (Decidable (row.keyTypes = [type]))
  | .host type, .primitive component => inferInstanceAs (Decidable (component.keyType = type))
  | .host _, .row _ => inferInstanceAs (Decidable False)
  | .rows _, .primitive _ => inferInstanceAs (Decidable False)
  | .rows schema, .row row => inferInstanceAs (Decidable (row.keyTypes = schema.keyTypes))

def rowRefusal (expected : List KeyType) (row : Row) : PredicateError :=
  if row.isEmpty then .rowMismatch .emptyRow
  else .rowMismatch (.incompatible expected row.keyTypes)

def refusal : Binding → Key → PredicateError
  | .tag type, .primitive component => .typeMismatch type.hostType (some component.keyType.hostType)
  | .tag type, .row row => rowRefusal [type] row
  | .host type, key => .typeMismatch type.hostType (some key.hostType)
  | .rows _, .primitive component => .typeMismatch .row (some component.keyType.hostType)
  | .rows schema, .row row => rowRefusal schema.keyTypes row

def verdict (binding : Binding) (key : Key) : Except PredicateError Unit :=
  if binding.Admits key then .ok () else .error (binding.refusal key)

def boundForm : Binding → Key → Key
  | .tag _, key => key.unwrapped
  | _, key => key

-- The members of a set of rows take the schema's names, whatever names they came with.
def memberForm : Binding → Key → Key
  | .rows schema, .row row => .row (.ofParts schema.names row.components)
  | binding, key => binding.boundForm key

@[simp] theorem key_types_tag (type : KeyType) : (tag type).schema.keyTypes = [type] := rfl

@[simp] theorem schema_rows (schema : KeySchema) : (rows schema).schema = schema := rfl

theorem verdict_ok_iff {binding : Binding} {key : Key} : binding.verdict key = .ok () ↔ binding.Admits key := by
  by_cases admitted : binding.Admits key <;> simp [verdict, admitted]

theorem error_of_verdict {binding : Binding} {key : Key} {error : PredicateError}
    (refused : binding.verdict key = .error error) : error = binding.refusal key := by
  by_cases admitted : binding.Admits key
  · rw [verdict, if_pos admitted] at refused
    cases refused
  · rw [verdict, if_neg admitted] at refused
    cases refused
    rfl

theorem verdict_congr {first second : Binding} {key other : Key} (admits : first.Admits key ↔ second.Admits other)
    (refusal : first.refusal key = second.refusal other) : first.verdict key = second.verdict other := by
  by_cases admitted : first.Admits key
  · simp [verdict, admitted, admits.mp admitted]
  · simp [verdict, admitted, mt admits.mpr admitted, refusal]

theorem check_row_eq {binding : Binding} (keyed : binding.schema.hasKey = true) (row : Row) :
    checkRow binding row =
      if row.keyTypes = binding.schema.keyTypes then .ok ()
      else .error (rowRefusal binding.schema.keyTypes row) := by
  unfold checkRow rowRefusal
  rw [Row.key_schema_eq]
  by_cases fits : row.keyTypes = binding.schema.keyTypes
  · have filled : row.keyTypes ≠ [] := fits ▸ binding.schema.has_key_iff.mp keyed
    have notEmpty : ¬ row.isEmpty = true := mt row.is_empty_iff_key_types.mp filled
    simp [notEmpty, fits, KeySchema.checkCompatible, Row.key_types_columns]
  · by_cases empty : row.isEmpty
    · simp [empty, fits]
    · simp [empty, fits, Ne.symm fits, KeySchema.checkCompatible, Row.key_types_columns]

theorem check_carried_primitive (type : KeyType) (component : Component) :
    checkCarried type (some (.primitive component)) =
      if component.keyType = type then .ok (.primitive component)
      else .error (.typeMismatch type.hostType (some component.keyType.hostType)) := by
  by_cases same : component.keyType = type
  · simp [checkCarried, Key.hostType, same]
  · have different : component.keyType.hostType ≠ type.hostType := mt KeyType.host_type_injective same
    simp [checkCarried, Key.hostType, same, different]

theorem check_carried_row (type : KeyType) (row : Row) :
    checkCarried type (some (.row row)) = .error (.typeMismatch type.hostType (some .row)) := by
  simp [checkCarried, Key.hostType, (type.host_type_ne_row).symm]

theorem check_carried_unwrapped {type : KeyType} {row : Row} (single : row.keyTypes = [type]) :
    checkCarried type (row.components.head?.map .primitive) = .ok (Key.unwrapped (.row row)) := by
  obtain ⟨cell, rfl, carried⟩ := Row.eq_singleton_of_key_types single
  simp [Row.components, check_carried_primitive, carried, Key.unwrapped]

theorem accept_eq {binding : Binding} (keyed : binding.schema.hasKey = true) (key : Key) :
    binding.accept key = (binding.verdict key).map fun _ => binding.boundForm key := by
  cases binding with
  | tag type =>
      cases key with
      | primitive component =>
          by_cases same : component.keyType = type <;>
            simp [accept, verdict, Admits, refusal, boundForm, Key.unwrapped, check_carried_primitive, same, Except.map]
      | row row =>
          rw [accept, check_row_eq keyed, key_types_tag]
          by_cases single : row.keyTypes = [type]
          · simp [single, check_carried_unwrapped single, verdict, Admits, boundForm, Except.map]
          · simp [single, verdict, Admits, refusal, Except.map]
  | host type =>
      cases key with
      | primitive component =>
          by_cases same : component.keyType = type <;>
            simp [accept, verdict, Admits, refusal, boundForm, check_carried_primitive, same, Key.hostType, Except.map]
      | row row => simp [accept, verdict, Admits, refusal, check_carried_row, Key.hostType, Except.map]
  | rows schema =>
      cases key with
      | primitive component => simp [accept, verdict, Admits, refusal, Key.hostType, Except.map]
      | row row =>
          rw [accept, check_row_eq keyed, schema_rows]
          by_cases fits : row.keyTypes = schema.keyTypes <;>
            simp [fits, verdict, Admits, refusal, boundForm, Except.map]

theorem canonical_bound_form {binding : Binding} (keyed : binding.schema.hasKey = true) {key : Key}
    (admitted : binding.Admits key) :
    binding.canonical (binding.boundForm key) = .ok (binding.memberForm key) := by
  cases binding with
  | tag type => rfl
  | host type => rfl
  | rows schema =>
      cases key with
      | primitive component => exact False.elim admitted
      | row row =>
          have fits : row.keyTypes = schema.keyTypes := admitted
          have filled : row.keyTypes ≠ [] := fits ▸ schema.has_key_iff.mp keyed
          have notEmpty : ¬ row.isEmpty = true := mt row.is_empty_iff_key_types.mp filled
          simp [boundForm, canonical, memberForm, Row.rebind_eq, notEmpty, fits, Except.map]

end Binding
end RowSelection
