import Mathlib.Data.List.Forall2
import RowSelection.KeySchema

set_option autoImplicit false

namespace RowSelection

namespace Field

def keyOnly (field : Field) : Field := .new field.name field.dataType false

def nameAndType (field : Field) : String × DataType := (field.name, field.dataType)

theorem key_only_eq {field : Field} {type : KeyType} (known : KeyType.ofDataType? field.dataType = some type) :
    field.keyOnly = Column.field ⟨field.name, type⟩ := by
  rw [Column.field, KeyType.data_type_of_known known, keyOnly]

end Field

namespace TableSchema

def SelectsAt (table : TableSchema) (names : List String) (place : Nat) : Prop :=
  ∀ name, names[place]? = some name → name ∉ names.take place ∧ table.field? name ≠ none

-- The same behind names that have been seen already.
def SelectsBehind (table : TableSchema) (seen names : List String) (place : Nat) : Prop :=
  ∀ name, names[place]? = some name → name ∉ seen ∧ name ∉ names.take place ∧ table.field? name ≠ none

def Selects (table : TableSchema) (name : String) (field : Field) : Prop := table.field? name = some field

theorem selects_behind_nil (table : TableSchema) (names : List String) (place : Nat) :
    table.SelectsBehind [] names place ↔ table.SelectsAt names place := by
  simp [SelectsBehind, SelectsAt]

theorem selects_behind_cons (table : TableSchema) (seen rest : List String) (name : String) (place : Nat) :
    table.SelectsBehind seen (name :: rest) (place + 1) ↔ table.SelectsBehind (name :: seen) rest place := by
  simp only [SelectsBehind, List.getElem?_cons_succ, List.take_succ_cons, List.mem_cons, not_or]
  constructor
  · intro selects other found
    obtain ⟨unseen, ⟨different, fresh⟩, known⟩ := selects other found
    exact ⟨⟨different, unseen⟩, fresh, known⟩
  · intro selects other found
    obtain ⟨⟨different, unseen⟩, fresh, known⟩ := selects other found
    exact ⟨unseen, ⟨different, fresh⟩, known⟩

theorem select_fields_passed {table : TableSchema} {seen names : List String} {place : Nat}
    (inside : place ≤ names.length) (passed : ∀ earlier < place, table.SelectsBehind seen names earlier) :
    ∃ fields, List.Forall₂ table.Selects (names.take place) fields ∧
      table.selectFields seen names =
        (table.selectFields ((names.take place).reverse ++ seen) (names.drop place)).map (fields ++ ·) := by
  induction place generalizing seen names with
  | zero =>
      refine ⟨[], .nil, ?_⟩
      rw [List.take_zero, List.drop_zero, List.reverse_nil, List.nil_append]
      cases table.selectFields seen names <;> rfl
  | succ place ih =>
      cases names with
      | nil => cases inside
      | cons name rest =>
          obtain ⟨unseen, _, known⟩ := passed 0 (Nat.succ_pos place) name rfl
          obtain ⟨field, found⟩ := Option.ne_none_iff_exists'.mp known
          have later : ∀ earlier < place, table.SelectsBehind (name :: seen) rest earlier := by
            intro earlier before
            exact (table.selects_behind_cons seen rest name earlier).mp (passed (earlier + 1) (Nat.succ_lt_succ before))
          obtain ⟨fields, selected, answer⟩ := ih (Nat.le_of_succ_le_succ inside) later
          refine ⟨field :: fields, .cons found selected, ?_⟩
          rw [selectFields, if_neg unseen, found]
          simp only [answer, List.take_succ_cons, List.reverse_cons, List.drop_succ_cons, List.append_assoc,
            List.singleton_append]
          cases table.selectFields ((rest.take place).reverse ++ name :: seen) (rest.drop place) <;> rfl

theorem select_fields_at {table : TableSchema} {names : List String} {place : Nat} {name : String}
    (found : names[place]? = some name) (passed : ∀ earlier < place, table.SelectsAt names earlier) :
    ∃ fields, table.selectFields [] names =
      (table.selectFields (names.take place).reverse (name :: names.drop (place + 1))).map (fields ++ ·) := by
  obtain ⟨inside, held⟩ := List.getElem?_eq_some_iff.mp found
  have passedBehind : ∀ earlier < place, table.SelectsBehind [] names earlier :=
    fun earlier before => (table.selects_behind_nil names earlier).mpr (passed earlier before)
  obtain ⟨fields, _, answer⟩ := select_fields_passed (Nat.le_of_lt inside) passedBehind
  rw [List.append_nil, List.drop_eq_getElem_cons inside, held] at answer
  exact ⟨fields, answer⟩

theorem select_fields_repeated {table : TableSchema} {names : List String} {place : Nat} {name : String}
    (found : names[place]? = some name) (passed : ∀ earlier < place, table.SelectsAt names earlier)
    (repeated : name ∈ names.take place) : table.selectFields [] names = .error (.duplicateColumn name) := by
  obtain ⟨fields, answer⟩ := select_fields_at found passed
  rw [answer, selectFields, if_pos (List.mem_reverse.mpr repeated)]
  rfl

theorem select_fields_unknown {table : TableSchema} {names : List String} {place : Nat} {name : String}
    (found : names[place]? = some name) (passed : ∀ earlier < place, table.SelectsAt names earlier)
    (unknown : table.field? name = none) : table.selectFields [] names = .error (.noSuchField name) := by
  obtain ⟨fields, answer⟩ := select_fields_at found passed
  have fresh : name ∉ (names.take place).reverse := by
    intro member
    obtain ⟨earlier, before, held⟩ := List.mem_take_iff_getElem.mp (List.mem_reverse.mp member)
    obtain ⟨below, within⟩ := Nat.lt_min.mp before
    exact (passed earlier below name (List.getElem?_eq_some_iff.mpr ⟨within, held⟩)).2 unknown
  rw [answer, selectFields, if_neg fresh, unknown]
  rfl

theorem select_fields_all {table : TableSchema} {names : List String} (selects : ∀ place, table.SelectsAt names place) :
    ∃ fields, List.Forall₂ table.Selects names fields ∧ table.selectFields [] names = .ok fields := by
  have passed : ∀ earlier < names.length, table.SelectsBehind [] names earlier :=
    fun earlier _ => (table.selects_behind_nil names earlier).mpr (selects earlier)
  obtain ⟨fields, selected, answer⟩ := select_fields_passed (Nat.le_refl names.length) passed
  rw [List.take_length] at selected
  rw [List.drop_length] at answer
  refine ⟨fields, selected, answer.trans ?_⟩
  simp [selectFields, Except.map]

theorem map_name_and_type_cons (field : Field) (selected : Except SchemaError (List Field)) :
    (selected.map (field :: ·)).map (List.map Field.nameAndType) =
      (selected.map (List.map Field.nameAndType)).map (field.nameAndType :: ·) := by
  cases selected <;> rfl

theorem select_fields_congr {table other : TableSchema} {names : List String}
    (same : ∀ name ∈ names, (other.field? name).map Field.nameAndType = (table.field? name).map Field.nameAndType)
    (seen : List String) :
    (other.selectFields seen names).map (List.map Field.nameAndType) =
      (table.selectFields seen names).map (List.map Field.nameAndType) := by
  induction names generalizing seen with
  | nil => rfl
  | cons name rest ih =>
      have later := ih (fun name member => same name (List.mem_cons_of_mem _ member)) (name :: seen)
      have first := same name List.mem_cons_self
      rw [selectFields, selectFields]
      by_cases known : name ∈ seen
      · rw [if_pos known, if_pos known]
      · rw [if_neg known, if_neg known]
        cases found : table.field? name with
        | none =>
            rw [found, Option.map_none, Option.map_eq_none_iff] at first
            rw [first]
        | some field =>
            rw [found, Option.map_some, Option.map_eq_some_iff] at first
            obtain ⟨own, ownFound, shape⟩ := first
            rw [ownFound]
            simp only [map_name_and_type_cons, later, shape]

end TableSchema

namespace KeySchema

theorem of_fields_of_unsupported {fields : List Field} {place : Nat} {field : Field} (found : fields[place]? = some field)
    (unsupported : KeyType.ofDataType? field.dataType = none)
    (passed : ∀ earlier < place, ∀ other, fields[earlier]? = some other → KeyType.ofDataType? other.dataType ≠ none) :
    ofFields fields = .error (.unsupportedColumn field.name field.dataType) := by
  induction place generalizing fields with
  | zero =>
      obtain ⟨rest, rfl⟩ := List.head?_eq_some_iff.mp (List.head?_eq_getElem? ▸ found)
      rw [ofFields, Column.ofField, unsupported]
  | succ place ih =>
      cases fields with
      | nil => cases found
      | cons first rest =>
          obtain ⟨type, stored⟩ := Option.ne_none_iff_exists'.mp (passed 0 (Nat.succ_pos place) first rfl)
          have later := ih found fun earlier before => passed (earlier + 1) (Nat.succ_lt_succ before)
          rw [ofFields, Column.ofField, stored, later]

theorem of_fields_of_supported {fields : List Field}
    (supported : ∀ field ∈ fields, KeyType.ofDataType? field.dataType ≠ none) :
    ∃ schema, ofFields fields = .ok schema ∧ schema.fields = fields.map Field.keyOnly := by
  induction fields with
  | nil => exact ⟨empty, rfl, rfl⟩
  | cons field rest ih =>
      obtain ⟨first, others⟩ := List.forall_mem_cons.mp supported
      obtain ⟨type, stored⟩ := Option.ne_none_iff_exists'.mp first
      obtain ⟨later, made, kept⟩ := ih others
      refine ⟨⟨⟨field.name, type⟩ :: later.columns⟩, ?_, ?_⟩
      · rw [ofFields, Column.ofField, stored, made]
      · rw [List.map_cons, ← kept, Field.key_only_eq stored]
        rfl

theorem of_field_congr {field other : Field} (same : other.nameAndType = field.nameAndType) :
    Column.ofField other = Column.ofField field := by
  obtain ⟨name, type⟩ := Prod.mk.inj same
  rw [Column.ofField, Column.ofField, name, type]

theorem of_fields_congr {fields others : List Field}
    (same : others.map Field.nameAndType = fields.map Field.nameAndType) : ofFields others = ofFields fields := by
  induction fields generalizing others with
  | nil => rw [List.map_eq_nil_iff.mp same]
  | cons field rest ih =>
      obtain ⟨other, later, rfl, first, tail⟩ := List.map_eq_cons_iff.mp same
      rw [ofFields, ofFields, of_field_congr first, ih tail]

theorem of_names_congr {table other : TableSchema} {names : List String}
    (same : ∀ name ∈ names, (other.field? name).map Field.nameAndType = (table.field? name).map Field.nameAndType) :
    ofNames other names = ofNames table names := by
  have selected := TableSchema.select_fields_congr same []
  unfold ofNames
  generalize other.selectFields [] names = others at selected ⊢
  generalize table.selectFields [] names = fields at selected ⊢
  cases others with
  | error error =>
      cases fields with
      | error own =>
          cases selected
          rfl
      | ok fields => cases selected
  | ok others =>
      cases fields with
      | error own => cases selected
      | ok fields => exact of_fields_congr (Except.ok.inj selected)

theorem of_names_of_refused {table : TableSchema} {names : List String} {error : SchemaError}
    (refused : table.selectFields [] names = .error error) : ofNames table names = .error error := by
  rw [ofNames, refused]
  rfl

theorem of_names_of_selected {table : TableSchema} {names : List String} {fields : List Field}
    (selected : table.selectFields [] names = .ok fields) : ofNames table names = ofFields fields := by
  rw [ofNames, selected]
  rfl

theorem resolve_of_read {table : TableSchema} {text : String} {names : List String}
    (declared : table.keyDeclaration? = some text) (reads : Declaration.read text = .ok names) :
    resolve table = ofNames table names := by
  rw [resolve, declared]
  simp only [reads]

end KeySchema

end RowSelection
