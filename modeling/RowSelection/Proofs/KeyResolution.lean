import Mathlib.Data.List.Forall2
import RowSelection.KeySchema

set_option autoImplicit false

namespace RowSelection

def TableSchema.HasKeyColumn (table : TableSchema) (name : String) (type : KeyType) : Prop :=
  ∃ field, table.field? name = some field ∧ KeyType.ofDataType? field.dataType = some type

theorem TableSchema.has_key_column_unique (table : TableSchema) : Relator.RightUnique table.HasKeyColumn := by
  rintro name type other ⟨field, found, stored⟩ ⟨again, alsoFound, alsoStored⟩
  cases found.symm.trans alsoFound
  exact Option.some.inj (stored.symm.trans alsoStored)

theorem TableSchema.exists_has_key_column_iff (table : TableSchema) (name : String) :
    (∃ type, table.HasKeyColumn name type) ↔
      ∃ field, table.field? name = some field ∧ ∃ type, KeyType.ofDataType? field.dataType = some type := by
  constructor
  · rintro ⟨type, field, found, stored⟩
    exact ⟨field, found, type, stored⟩
  · rintro ⟨field, found, type, stored⟩
    exact ⟨type, field, found, stored⟩

namespace KeySchema

theorem of_fields_cons_ok_iff (field : Field) (rest : List Field) (schema : KeySchema) :
    ofFields (field :: rest) = .ok schema ↔
      ∃ column later, Column.ofField field = .ok column ∧ ofFields rest = .ok later ∧
        schema = ⟨column :: later.columns⟩ := by
  rw [ofFields]
  cases Column.ofField field with
  | error error => simp
  | ok column => cases ofFields rest <;> simp [eq_comm]

theorem of_field_ok_iff (field : Field) (column : Column) :
    Column.ofField field = .ok column ↔
      KeyType.ofDataType? field.dataType = some column.type ∧ column.name = field.name := by
  obtain ⟨name, type⟩ := column
  rw [Column.ofField]
  cases KeyType.ofDataType? field.dataType with
  | none => simp
  | some known => simp [eq_comm, and_comm]

-- Names are looked up to the last before any type is looked at, but both have to pass.
theorem selected_cons_ok_iff {table : TableSchema} {seen rest : List String} {name : String} (schema : KeySchema) :
    (table.selectFields seen (name :: rest)).bind ofFields = .ok schema ↔
      name ∉ seen ∧ ∃ type later, table.HasKeyColumn name type ∧
        (table.selectFields (name :: seen) rest).bind ofFields = .ok later ∧ schema = ⟨⟨name, type⟩ :: later.columns⟩ := by
  rw [TableSchema.selectFields]
  by_cases known : name ∈ seen
  · simp [known, Except.bind]
  · rw [if_neg known]
    cases found : table.field? name with
    | none => simp [TableSchema.HasKeyColumn, found, Except.bind]
    | some field =>
        have named : field.name = name := TableSchema.name_of_field? found
        cases table.selectFields (name :: seen) rest with
        | error error => simp [Except.map, Except.bind]
        | ok fields =>
            simp only [Except.map, Except.bind, of_fields_cons_ok_iff, of_field_ok_iff, TableSchema.HasKeyColumn, found]
            constructor
            · rintro ⟨⟨_, type⟩, later, ⟨stored, rfl⟩, chosen, rfl⟩
              exact ⟨known, type, later, ⟨field, rfl, stored⟩, chosen, by rw [named]⟩
            · rintro ⟨_, type, later, ⟨_, same, stored⟩, chosen, rfl⟩
              cases same
              exact ⟨⟨name, type⟩, later, ⟨stored, named.symm⟩, chosen, rfl⟩

theorem selected_ok_iff (table : TableSchema) (seen names : List String) (schema : KeySchema) :
    (table.selectFields seen names).bind ofFields = .ok schema ↔
      names.Nodup ∧ (∀ name ∈ names, name ∉ seen) ∧
        ∃ types, List.Forall₂ table.HasKeyColumn names types ∧ schema = .ofColumns (names.zip types) := by
  induction names generalizing seen schema with
  | nil =>
      simp only [TableSchema.selectFields, Except.bind, ofFields, List.nodup_nil, List.not_mem_nil, false_implies,
        implies_true, true_and, List.forall₂_nil_left_iff, exists_eq_left, List.zip_nil_left]
      exact ⟨fun same => (Except.ok.inj same).symm, fun same => congrArg Except.ok same.symm⟩
  | cons name rest ih =>
      rw [selected_cons_ok_iff]
      constructor
      · rintro ⟨unseen, type, later, column, chosen, rfl⟩
        obtain ⟨apart, others, types, columns, rfl⟩ := (ih _ _).mp chosen
        have first : name ∉ rest := fun repeated => others name repeated List.mem_cons_self
        refine ⟨List.nodup_cons.mpr ⟨first, apart⟩, ?_, type :: types, .cons column columns, rfl⟩
        intro other member
        rcases List.mem_cons.mp member with rfl | inside
        · exact unseen
        · exact fun earlier => others other inside (List.mem_cons_of_mem name earlier)
      · rintro ⟨apart, unseen, types, columns, rfl⟩
        obtain ⟨first, restApart⟩ := List.nodup_cons.mp apart
        cases columns with
        | @cons _ type _ later column columns =>
            refine ⟨unseen name List.mem_cons_self, type, .ofColumns (rest.zip later), column, ?_, rfl⟩
            apply (ih _ _).mpr
            refine ⟨restApart, ?_, later, columns, rfl⟩
            intro other member earlier
            rcases List.mem_cons.mp earlier with rfl | before
            · exact first member
            · exact unseen other (List.mem_cons_of_mem name member) before

theorem of_names_ok_iff (table : TableSchema) (names : List String) (schema : KeySchema) :
    ofNames table names = .ok schema ↔
      names.Nodup ∧ ∃ types, List.Forall₂ table.HasKeyColumn names types ∧ schema = .ofColumns (names.zip types) := by
  rw [ofNames, selected_ok_iff]
  simp

theorem exists_types_iff (table : TableSchema) (names : List String) :
    (∃ types, List.Forall₂ table.HasKeyColumn names types) ↔
      ∀ name ∈ names, ∃ field, table.field? name = some field ∧ ∃ type, KeyType.ofDataType? field.dataType = some type := by
  induction names with
  | nil => simp
  | cons name rest ih =>
      rw [List.forall_mem_cons, ← ih, ← table.exists_has_key_column_iff]
      constructor
      · rintro ⟨_, columns⟩
        cases columns with
        | cons column later => exact ⟨⟨_, column⟩, _, later⟩
      · rintro ⟨⟨type, column⟩, types, columns⟩
        exact ⟨type :: types, .cons column columns⟩

end KeySchema
end RowSelection
