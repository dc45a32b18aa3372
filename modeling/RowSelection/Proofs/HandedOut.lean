import Mathlib.Data.List.Forall2
import RowSelection.Proofs.History
import RowSelection.Proofs.Replay
import RowSelection.Proofs.StoredRow

set_option autoImplicit false

namespace RowSelection

structure Row.Fits (row : Row) (schema : KeySchema) : Prop where
  filled : row.isEmpty = false
  described : List.Forall₂ Field.Describes row.fields row.components
  types : row.fields.map Field.dataType = schema.dataTypes
  compatible : ∃ own, row.keySchema = .ok own ∧ own.isCompatible schema = true

namespace Binding

def Fits : Binding → Key → Prop
  | .tag type, key => ∃ component, key = .primitive component ∧ component.keyType = type
  | .host type, key => ∃ component, key = .primitive component ∧ component.keyType = type
  | .rows schema, key => ∃ row, key = .row row ∧ row.Fits schema

def FitsByName : Binding → Key → Prop
  | .rows schema, key => ∃ row, key = .row row ∧ row.Fits schema ∧ row.keySchema = .ok schema
  | binding, key => binding.Fits key

end Binding

structure StoredRow.Fits (row : StoredRow) (schema : KeySchema) : Prop where
  filled : row.components ≠ []
  described : List.Forall₂ Field.Describes row.fields row.components
  types : row.fields.map Field.dataType = schema.dataTypes
  compatible : ∃ own, row.keySchema = .ok own ∧ own.isCompatible schema = true

namespace StoredKey

def Fits : StoredKey → Binding → Prop
  | key, .tag type => ∃ component, key = .primitive component ∧ component.keyType = type
  | key, .host type => ∃ component, key = .primitive component ∧ component.keyType = type
  | key, .rows schema => ∃ row, key = .row row ∧ row.Fits schema

def FitsByName : StoredKey → Binding → Prop
  | key, .rows schema => ∃ row, key = .row row ∧ row.Fits schema ∧ row.keySchema = .ok schema
  | key, binding => key.Fits binding

end StoredKey

def Bound.keys {κ : Type} : Bound κ → List κ
  | .unbounded => []
  | .included key => [key]

def Condition.keys {κ : Type} : Condition κ → List κ
  | .all => []
  | .range start finish => start.keys ++ finish.keys
  | .distinct keys => keys

theorem Condition.keys_map {κ μ : Type} (rename : κ → μ) (condition : Condition κ) :
    (condition.map rename).keys = condition.keys.map rename := by
  cases condition with
  | all => rfl
  | range start finish => cases start <;> cases finish <;> rfl
  | distinct keys => rfl

theorem Row.key_schema_of_fit {row : Row} {schema : KeySchema} (keyed : schema.hasKey = true)
    (fits : row.keyTypes = schema.keyTypes) : row.isEmpty = false ∧ row.keySchema = .ok ⟨row.columns⟩ := by
  have notEmpty : ¬ row.isEmpty = true := by
    rw [row.is_empty_iff_key_types, fits]
    exact schema.has_key_iff.mp keyed
  rw [key_schema_eq, if_neg notEmpty]
  exact ⟨Bool.not_eq_true _ ▸ notEmpty, rfl⟩

theorem Row.fits_of_key_types {row : Row} {schema : KeySchema} (keyed : schema.hasKey = true)
    (fits : row.keyTypes = schema.keyTypes) : row.Fits schema := by
  obtain ⟨filled, own⟩ := key_schema_of_fit keyed fits
  refine ⟨filled, StoredRow.describes_stored row, ?_, _, own, ?_⟩
  · change KeySchema.dataTypes ⟨row.columns⟩ = schema.dataTypes
    rw [KeySchema.data_types_eq, KeySchema.data_types_eq, row.key_types_columns, fits]
  · rw [KeySchema.is_compatible_iff, key_types_columns, fits]

namespace Binding

theorem is_member_of_is_bound {binding : Binding} {type : KeyType} (typed : binding.keyType? = some type) {key : Key}
    (bound : binding.IsBound key) : binding.IsMember key := by
  refine ⟨bound.1, ?_⟩
  cases binding with
  | tag own => cases key <;> exact bound.2
  | host own => cases key <;> exact bound.2
  | rows schema => cases typed

theorem fits_of_is_bound {binding : Binding} (keyed : binding.schema.hasKey = true) {key : Key}
    (bound : binding.IsBound key) : binding.Fits key := by
  cases binding with
  | tag type =>
      obtain ⟨component, rfl⟩ := primitive_of_is_member rfl (is_member_of_is_bound rfl bound)
      exact ⟨component, rfl, bound.1⟩
  | host type =>
      obtain ⟨component, rfl⟩ := primitive_of_is_member rfl (is_member_of_is_bound rfl bound)
      exact ⟨component, rfl, bound.1⟩
  | rows schema =>
      cases key with
      | primitive component => exact False.elim bound.1
      | row row => exact ⟨row, rfl, Row.fits_of_key_types keyed bound.1⟩

theorem fits_by_name_of_is_member {binding : Binding} (keyed : binding.schema.hasKey = true) {key : Key}
    (member : binding.IsMember key) : binding.FitsByName key := by
  cases binding with
  | tag type =>
      obtain ⟨component, rfl⟩ := primitive_of_is_member rfl member
      exact ⟨component, rfl, member.1⟩
  | host type =>
      obtain ⟨component, rfl⟩ := primitive_of_is_member rfl member
      exact ⟨component, rfl, member.1⟩
  | rows schema =>
      obtain ⟨row, rfl, named⟩ := row_of_is_member member
      have fits : row.keyTypes = schema.keyTypes := member.1
      obtain ⟨_, own⟩ := Row.key_schema_of_fit keyed fits
      rw [Row.columns_of_fit named fits] at own
      exact ⟨row, rfl, Row.fits_of_key_types keyed fits, own⟩

theorem fits_of_fits_by_name {binding : Binding} {key : Key} (fits : binding.FitsByName key) : binding.Fits key := by
  cases binding with
  | tag type => exact fits
  | host type => exact fits
  | rows schema =>
      obtain ⟨row, same, fits, _⟩ := fits
      exact ⟨row, same, fits⟩

end Binding

theorem Condition.mem_keys_of_bounds (start finish : Value) (key : Key) :
    key ∈ (ofBounds start finish).keys ↔ start = some key ∨ finish = some key := by
  cases start <;> cases finish <;> simp [ofBounds, Bound.ofValue, Bound.keys, keys, eq_comm]

theorem Row.Fits.stored {row : Row} {schema : KeySchema} (fits : row.Fits schema) : row.stored.Fits schema where
  filled := by
    intro none
    have empty : row.isEmpty = true := by simpa [Row.isEmpty, Row.stored, Row.components] using none
    exact absurd empty (by simp [fits.filled])
  described := fits.described
  types := fits.types
  compatible := by
    rw [StoredRow.key_schema_stored]
    exact fits.compatible

namespace StoredKey

theorem fits_stored {binding : Binding} {key : Key} (fits : binding.Fits key) : key.stored.Fits binding := by
  cases binding with
  | tag type =>
      obtain ⟨component, rfl, typed⟩ := fits
      exact ⟨component, rfl, typed⟩
  | host type =>
      obtain ⟨component, rfl, typed⟩ := fits
      exact ⟨component, rfl, typed⟩
  | rows schema =>
      obtain ⟨row, rfl, fits⟩ := fits
      exact ⟨row.stored, rfl, fits.stored⟩

theorem fits_by_name_stored {binding : Binding} {key : Key} (fits : binding.FitsByName key) :
    key.stored.FitsByName binding := by
  cases binding with
  | tag type =>
      obtain ⟨component, rfl, typed⟩ := fits
      exact ⟨component, rfl, typed⟩
  | host type =>
      obtain ⟨component, rfl, typed⟩ := fits
      exact ⟨component, rfl, typed⟩
  | rows schema =>
      obtain ⟨row, rfl, fits, own⟩ := fits
      exact ⟨row.stored, rfl, fits.stored, (StoredRow.key_schema_stored row).trans own⟩

end StoredKey

section
variable {p : Predicate} {eligible : Bool} (keyed : p.schema.hasKey = true)
  (held : p.selection.Held p.binding eligible)
include keyed held

theorem bounds_fit (key : Key) (bound : p.start = some key ∨ p.finish = some key) : p.binding.Fits key := by
  cases selected : p.selection with
  | range start finish =>
      obtain ⟨lowerRead, upperRead, _⟩ := Predicate.read_range selected
      rw [selected] at held
      rw [lowerRead, upperRead] at bound
      cases held with
      | range lower upper =>
          rcases bound with atStart | atFinish
          · exact Binding.fits_of_is_bound keyed (lower key atStart).2
          · exact Binding.fits_of_is_bound keyed (upper key atFinish).2
  | distinct keys =>
      obtain ⟨lowerRead, upperRead, _⟩ := Predicate.read_distinct selected
      rw [lowerRead, upperRead] at bound
      rcases bound with atStart | atFinish
      · cases atStart
      · cases atFinish

theorem members_fit {keys : KeySet} (selected : p.selection = .distinct keys) :
    ∀ key ∈ keys.toList, p.binding.FitsByName key := by
  intro key member
  rw [selected] at held
  cases held with
  | distinct filled members => exact Binding.fits_by_name_of_is_member keyed (members key member)

theorem shown_fit (view : DistinctKeys) (shown : p.distinctKeys? = some view) :
    ∀ key ∈ view.toList, p.binding.FitsByName key := by
  obtain ⟨keys, selected, rfl⟩ := Predicate.distinct_of_shown shown
  rw [Predicate.to_list_view]
  exact members_fit keyed held selected

theorem listed_fit (listed : List Key) (described : p.condition = .distinct listed) :
    ∀ key ∈ listed, p.binding.FitsByName key := by
  rcases condition_of_held held with ⟨start, finish, _, condition⟩ | ⟨keys, selected, condition⟩
  · have bounds := congrArg Condition.bounds? (condition.symm.trans described)
    rw [Condition.bounds?_of_bounds] at bounds
    cases bounds
  · cases condition.symm.trans described
    exact members_fit keyed held selected

theorem condition_fit : ∀ key ∈ p.condition.keys, p.binding.Fits key := by
  intro key member
  rcases condition_of_held held with ⟨start, finish, selected, condition⟩ | ⟨keys, selected, condition⟩
  · obtain ⟨lowerRead, upperRead, _⟩ := Predicate.read_range selected
    rw [condition, Condition.mem_keys_of_bounds, ← lowerRead, ← upperRead] at member
    exact bounds_fit keyed held key member
  · rw [condition] at member
    exact Binding.fits_of_fits_by_name (listed_fit keyed held keys.toList condition key member)

end

section
variable {s : StoredPredicate} {q : Predicate} (reads : s.ReadsAs q)
include reads

theorem stored_bounds_fit (bounds : ∀ key, q.start = some key ∨ q.finish = some key → q.binding.Fits key)
    (key : StoredKey) (read : s.start = some key ∨ s.finish = some key) : key.Fits q.binding := by
  rw [reads.start, reads.finish, Option.map_eq_some_iff, Option.map_eq_some_iff] at read
  rcases read with ⟨known, held, rfl⟩ | ⟨known, held, rfl⟩
  · exact StoredKey.fits_stored (bounds known (.inl held))
  · exact StoredKey.fits_stored (bounds known (.inr held))

theorem stored_members_fit
    (members : ∀ view, q.distinctKeys? = some view → ∀ key ∈ view.toList, q.binding.FitsByName key)
    {view : StoredKeys} (shown : s.distinctKeys? = some view) :
    (∀ key ∈ view.toList, key.FitsByName q.binding) ∧ ∀ key ∈ view.intoVec, key.FitsByName q.binding := by
  rw [reads.distinctKeys, Option.map_eq_some_iff] at shown
  obtain ⟨own, present, rfl⟩ := shown
  rw [StoredPredicate.into_vec_stored, StoredPredicate.to_list_stored, DistinctKeys.into_vec_eq]
  have fit : ∀ key ∈ own.toList.map Key.stored, key.FitsByName q.binding :=
    List.forall_mem_map.mpr fun key member => StoredKey.fits_by_name_stored (members own present key member)
  exact ⟨fit, fit⟩

theorem stored_listed_fit (listedFit : ∀ listed, q.condition = .distinct listed → ∀ key ∈ listed, q.binding.FitsByName key)
    {listed : List StoredKey} (described : s.condition = .distinct listed) :
    ∀ key ∈ listed, key.FitsByName q.binding := by
  rw [reads.condition] at described
  cases condition : q.condition with
  | all => rw [condition] at described; cases described
  | range start finish => rw [condition] at described; cases described
  | distinct keys =>
      rw [condition] at described
      cases described
      exact List.forall_mem_map.mpr fun key member =>
        StoredKey.fits_by_name_stored (listedFit keys condition key member)

theorem stored_condition_fit (fits : ∀ key ∈ q.condition.keys, q.binding.Fits key) :
    ∀ key ∈ s.condition.keys, key.Fits q.binding := by
  rw [reads.condition, Condition.keys_map]
  exact List.forall_mem_map.mpr fun key member => StoredKey.fits_stored (fits key member)

end

end RowSelection
