import RowSelection.Declaration.RoundTrip
import RowSelection.KeySchema
import RowSelection.Proofs.FirstFault

set_option autoImplicit false

namespace RowSelection

open Declaration

theorem TableSchema.select_fields_ne_malformed (table : TableSchema) (seen names : List String) (raw : String)
    (fault : Fault) : table.selectFields seen names ≠ .error (.malformedDeclaration raw fault) := by
  intro refused
  induction names generalizing seen with
  | nil => cases refused
  | cons name rest ih =>
      rw [selectFields] at refused
      by_cases known : name ∈ seen
      · rw [if_pos known] at refused
        cases refused
      · rw [if_neg known] at refused
        cases found : table.field? name with
        | none =>
            rw [found] at refused
            cases refused
        | some field =>
            rw [found] at refused
            apply ih (name :: seen)
            generalize table.selectFields (name :: seen) rest = later at refused ⊢
            cases later with
            | error error =>
                cases refused
                rfl
            | ok fields => cases refused

namespace KeySchema

theorem of_fields_ne_malformed (fields : List Field) (raw : String) (fault : Fault) :
    ofFields fields ≠ .error (.malformedDeclaration raw fault) := by
  intro refused
  induction fields with
  | nil => cases refused
  | cons field rest ih =>
      rw [ofFields, Column.ofField] at refused
      cases known : KeyType.ofDataType? field.dataType with
      | none =>
          rw [known] at refused
          cases refused
      | some type =>
          rw [known] at refused
          apply ih
          generalize ofFields rest = later at refused ⊢
          cases later with
          | error error =>
              cases refused
              rfl
          | ok schema => cases refused

theorem of_names_ne_malformed (table : TableSchema) (names : List String) (raw : String) (fault : Fault) :
    ofNames table names ≠ .error (.malformedDeclaration raw fault) := by
  cases selected : table.selectFields [] names with
  | error error =>
      rw [of_names_of_refused selected]
      intro refused
      apply table.select_fields_ne_malformed [] names raw fault
      rw [selected, Except.error.inj refused]
  | ok fields =>
      rw [of_names_of_selected selected]
      exact of_fields_ne_malformed fields raw fault

theorem resolve_of_form {table : TableSchema} {text : String} {names : List String}
    (declared : table.keyDeclaration? = some text) (form : Denotes text names) : resolve table = ofNames table names :=
  resolve_of_read declared ((read_iff_denotes text names).mpr form)

theorem resolve_of_fault {table : TableSchema} {text : String} {fault : Fault}
    (declared : table.keyDeclaration? = some text) (refused : Declaration.read text = .error fault) :
    resolve table = .error (.malformedDeclaration text fault) := by
  rw [resolve, declared]
  simp only [refused]

theorem resolve_malformed_iff {table : TableSchema} {text : String} (declared : table.keyDeclaration? = some text)
    (raw : String) (fault : Fault) :
    resolve table = .error (.malformedDeclaration raw fault) ↔ raw = text ∧ Declaration.read text = .error fault := by
  cases outcome : Declaration.read text with
  | error own =>
      rw [resolve_of_fault declared outcome]
      simp [eq_comm]
  | ok names =>
      rw [resolve_of_read declared outcome]
      simp [of_names_ne_malformed]

theorem of_names_of_same_fields {table other : TableSchema} (same : other.fields = table.fields) (names : List String) :
    ofNames other names = ofNames table names := by
  apply of_names_congr
  intro name _
  rw [TableSchema.field?, TableSchema.field?, same]

end KeySchema

theorem declaration_selects_by_its_form {table : TableSchema} {text : String}
    (declared : table.keyDeclaration? = some text) :
    ((∃ raw fault, KeySchema.resolve table = .error (.malformedDeclaration raw fault)) ↔ ¬ ∃ names, Denotes text names) ∧
    (∀ raw fault, KeySchema.resolve table = .error (.malformedDeclaration raw fault) →
      raw = text ∧ ∀ other : TableSchema, other.keyDeclaration? = some text →
        KeySchema.resolve other = .error (.malformedDeclaration text fault)) ∧
    ∀ names, Denotes text names →
      KeySchema.resolve table = KeySchema.ofNames table names ∧
      (∀ others, Denotes text others → others = names) ∧
      (∀ (other : TableSchema) (respelled : String), other.fields = table.fields → other.keyDeclaration? = some respelled →
        Denotes respelled names → KeySchema.resolve other = KeySchema.resolve table) ∧
      Denotes (Declaration.write names) names ∧
      KeySchema.resolve (table.declareParts names) = KeySchema.resolve table := by
  have respelling : ∀ names, Denotes text names → ∀ (other : TableSchema) (respelled : String),
      other.fields = table.fields → other.keyDeclaration? = some respelled → Denotes respelled names →
        KeySchema.resolve other = KeySchema.resolve table := by
    intro names form other respelled same alsoDeclared alsoForm
    rw [KeySchema.resolve_of_form declared form, KeySchema.resolve_of_form alsoDeclared alsoForm]
    exact KeySchema.of_names_of_same_fields same names
  refine ⟨?_, ?_, ?_⟩
  · rw [← read_error_iff]
    simp only [KeySchema.resolve_malformed_iff declared, exists_and_left, exists_eq_left]
  · intro raw fault malformed
    obtain ⟨same, refused⟩ := (KeySchema.resolve_malformed_iff declared raw fault).mp malformed
    exact ⟨same, fun other alsoDeclared => KeySchema.resolve_of_fault alsoDeclared refused⟩
  · intro names form
    have compact := denotes_write names
    have written : (table.declareParts names).keyDeclaration? = some (Declaration.write names) :=
      table.key_declaration?_with_key_declaration (Declaration.write names)
    exact ⟨KeySchema.resolve_of_form declared form, fun others => denotes_unique form, respelling names form, compact,
      respelling names form _ _ rfl written compact⟩

-- Blanks around every part, and characters by their numbers, by letters and as themselves. The halves of a
-- pair of surrogates in the wrong order are no form of anything.
theorem respelled_names_selected :
    let fields : List Field := [.new "𝄞/" .int64 true, .new "a\t" .utf8 false]
    let table : TableSchema := ⟨fields, ⟨[(TableSchema.keyEntry, " [\t\"\\uD834\\udd1e\\/\" ,\n\"\\u0061\\t\"]\r")]⟩⟩
    let swapped : TableSchema := ⟨fields, ⟨[(TableSchema.keyEntry, "[\"\\udd1e\\ud834/\",\"a\\t\"]")]⟩⟩
    Denotes " [\t\"\\uD834\\udd1e\\/\" ,\n\"\\u0061\\t\"]\r" ["𝄞/", "a\t"] ∧
      KeySchema.resolve table = .ok (.ofColumns [("𝄞/", .long), ("a\t", .text)]) ∧
      KeySchema.resolve (table.declareParts ["𝄞/", "a\t"]) = .ok (.ofColumns [("𝄞/", .long), ("a\t", .text)]) ∧
      ∃ raw fault, KeySchema.resolve swapped = .error (.malformedDeclaration raw fault) := by
  intro fields table swapped
  have form : Denotes " [\t\"\\uD834\\udd1e\\/\" ,\n\"\\u0061\\t\"]\r" ["𝄞/", "a\t"] := by
    rw [← read_iff_denotes]
    decide +kernel
  have refused : ¬ ∃ names, Denotes "[\"\\udd1e\\ud834/\",\"a\\t\"]" names := by
    rw [← read_error_iff]
    exact ⟨⟨.loneSurrogate, 15⟩, by decide +kernel⟩
  obtain ⟨_, _, selects⟩ := declaration_selects_by_its_form (show table.keyDeclaration? = some _ from rfl)
  obtain ⟨chosen, _, _, _, written⟩ := selects _ form
  have columns : KeySchema.ofNames table ["𝄞/", "a\t"] = .ok (.ofColumns [("𝄞/", .long), ("a\t", .text)]) := rfl
  have resolved := chosen.trans columns
  have malformed := (declaration_selects_by_its_form (show swapped.keyDeclaration? = some _ from rfl)).1
  exact ⟨form, resolved, written.trans resolved, malformed.mpr refused⟩

end RowSelection
