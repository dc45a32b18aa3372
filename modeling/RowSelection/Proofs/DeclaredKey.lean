import RowSelection.Declaration.RoundTrip
import RowSelection.KeySchema
import RowSelection.Proofs.KeyResolution

set_option autoImplicit false

namespace RowSelection

namespace KeyChoice

def names : KeyChoice → List String
  | .primary name => [name]
  | .composite names => names
  | .part name => [name]

def replaces : KeyChoice → Bool
  | .primary _ => true
  | .composite _ => true
  | .part _ => false

-- The last choice that replaces, and the parts behind it. Without one that replaces, all of them count.
def lasting : List KeyChoice → List KeyChoice
  | [] => []
  | choice :: rest => if rest.any replaces then lasting rest else choice :: rest

def chosen (choices : List KeyChoice) : List String :=
  (lasting choices).flatMap names

theorem foldl_apply (earlier : List String) (choices : List KeyChoice) :
    choices.foldl apply earlier =
      if choices.any replaces then chosen choices else earlier ++ choices.flatMap names := by
  induction choices generalizing earlier with
  | nil => simp
  | cons choice rest ih =>
      rw [List.foldl_cons, ih]
      by_cases replaced : rest.any replaces = true
      · simp [chosen, lasting, replaced]
      · cases choice <;> simp [chosen, lasting, replaced, apply, names, replaces]

theorem parts_eq_chosen (choices : List KeyChoice) : parts choices = chosen choices := by
  rw [parts, foldl_apply]
  by_cases replaced : choices.any replaces = true
  · rw [if_pos replaced]
  · rw [if_neg replaced]
    cases choices with
    | nil => rfl
    | cons choice rest =>
        have kept : rest.any replaces = false := by simp_all
        simp [chosen, lasting, kept]

end KeyChoice

theorem resolve_declare_parts (table : TableSchema) (names : List String) :
    KeySchema.resolve (table.declareParts names) = KeySchema.ofNames (table.declareParts names) names := by
  rw [KeySchema.resolve, TableSchema.declareParts, TableSchema.key_declaration?_with_key_declaration]
  simp only [Declaration.read_write]

theorem has_key_column_declare_parts (table : TableSchema) (names : List String) :
    (table.declareParts names).HasKeyColumn = table.HasKeyColumn := rfl

theorem resolve_declared_ok_iff (table : TableSchema) (names : List String) (schema : KeySchema) :
    KeySchema.resolve (table.declareParts names) = .ok schema ↔
      names.Nodup ∧ ∃ types, List.Forall₂ table.HasKeyColumn names types ∧ schema = .ofColumns (names.zip types) := by
  rw [resolve_declare_parts, KeySchema.of_names_ok_iff, has_key_column_declare_parts]

theorem declare_key_ok_iff (table : TableSchema) (choices : List KeyChoice) (declared : TableSchema) :
    table.declareKey choices = .ok declared ↔
      declared = table.declareParts (KeyChoice.chosen choices) ∧ ∃ schema, KeySchema.resolve declared = .ok schema := by
  simp only [TableSchema.declareKey, KeyChoice.parts_eq_chosen]
  cases resolved : KeySchema.resolve (table.declareParts (KeyChoice.chosen choices)) with
  | error error =>
      constructor
      · intro none
        cases none
      · rintro ⟨rfl, schema, impossible⟩
        rw [resolved] at impossible
        cases impossible
  | ok schema =>
      constructor
      · intro done
        cases done
        exact ⟨rfl, schema, resolved⟩
      · rintro ⟨rfl, _⟩
        rfl

theorem declared_key_resolves (table : TableSchema) (choices : List KeyChoice) :
    let names := KeyChoice.chosen choices
    ((∃ declared, table.declareKey choices = .ok declared) ↔
      names.Nodup ∧ ∀ name ∈ names, ∃ field, table.field? name = some field ∧
        ∃ type, KeyType.ofDataType? field.dataType = some type) ∧
    ∀ declared, table.declareKey choices = .ok declared →
      declared.fields = table.fields ∧
      (∀ entry, declared.metadata.get? entry =
        if entry = TableSchema.keyEntry then some (Declaration.write names) else table.metadata.get? entry) ∧
      ∃ types, List.Forall₂ table.HasKeyColumn names types ∧
        KeySchema.resolve declared = .ok (.ofColumns (names.zip types)) := by
  intro names
  constructor
  · rw [← KeySchema.exists_types_iff]
    constructor
    · rintro ⟨declared, done⟩
      obtain ⟨rfl, schema, resolved⟩ := (declare_key_ok_iff table choices declared).mp done
      obtain ⟨apart, types, stored, _⟩ := (resolve_declared_ok_iff table names schema).mp resolved
      exact ⟨apart, types, stored⟩
    · rintro ⟨apart, types, stored⟩
      have resolved := (resolve_declared_ok_iff table names _).mpr ⟨apart, types, stored, rfl⟩
      exact ⟨_, (declare_key_ok_iff table choices _).mpr ⟨rfl, _, resolved⟩⟩
  · intro declared done
    obtain ⟨rfl, schema, resolved⟩ := (declare_key_ok_iff table choices declared).mp done
    obtain ⟨_, types, stored, rfl⟩ := (resolve_declared_ok_iff table names schema).mp resolved
    refine ⟨rfl, ?_, types, stored, resolved⟩
    intro entry
    rw [TableSchema.declareParts, TableSchema.withKeyDeclaration, Metadata.get?_insert]
    by_cases own : TableSchema.keyEntry = entry
    · rw [if_pos own, if_pos own.symm]
    · rw [if_neg own, if_neg (Ne.symm own)]

theorem quoted_names_declared :
    let table : TableSchema :=
      ⟨[.new "\n" .int64 true, .new "\n" .null true, .new "\"\\" .utf8 false],
        .insert .empty TableSchema.keyEntry "[oops"⟩
    let choices : List KeyChoice := [.part "other", .primary "\"\\", .part "\n"]
    ∃ declared, table.declareKey choices = .ok declared ∧ declared.fields = table.fields ∧
      KeySchema.resolve declared = .ok (.ofColumns [("\"\\", .text), ("\n", .long)]) := by
  intro table choices
  obtain ⟨succeeds, result⟩ := declared_key_resolves table choices
  have columns : List.Forall₂ table.HasKeyColumn ["\"\\", "\n"] [.text, .long] :=
    .cons ⟨_, rfl, rfl⟩ (.cons ⟨_, rfl, rfl⟩ .nil)
  have supported := (KeySchema.exists_types_iff table _).mp ⟨_, columns⟩
  obtain ⟨declared, done⟩ := succeeds.mpr ⟨by decide, supported⟩
  obtain ⟨fields, _, types, found, resolved⟩ := result declared done
  have only : types = [.text, .long] := List.right_unique_forall₂' table.has_key_column_unique found columns
  rw [only] at resolved
  exact ⟨declared, done, fields, resolved⟩

end RowSelection
