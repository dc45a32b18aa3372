import RowSelection.Proofs.Calls

set_option autoImplicit false

namespace RowSelection

structure FirstMismatch (types found : List KeyType) (column : Nat) (expected actual : KeyType) : Prop where
  expected_at : types[column]? = some expected
  actual_at : found[column]? = some actual
  different : actual ≠ expected
  before : ∀ earlier < column, found[earlier]? = types[earlier]?

theorem FirstMismatch.cons {types found : List KeyType} {column : Nat} {expected actual : KeyType}
    (later : FirstMismatch types found column expected actual) (type : KeyType) :
    FirstMismatch (type :: types) (type :: found) (column + 1) expected actual := by
  refine ⟨later.expected_at, later.actual_at, later.different, ?_⟩
  intro earlier below
  cases earlier with
  | zero => rfl
  | succ earlier => exact later.before earlier (Nat.lt_of_succ_lt_succ below)

namespace Row

theorem check_components_mismatch (start : Nat) {types : List KeyType} {components : List Component}
    (sameLength : types.length = components.length) (unfit : components.map Component.keyType ≠ types) :
    ∃ column expected actual, FirstMismatch types (components.map Component.keyType) column expected actual ∧
      checkComponents start types components = .error (.componentType (start + column) expected actual) := by
  induction types generalizing start components with
  | nil =>
      cases components with
      | nil => exact absurd rfl unfit
      | cons component rest => cases sameLength
  | cons type types ih =>
      cases components with
      | nil => cases sameLength
      | cons component rest =>
          rw [checkComponents]
          by_cases same : component.keyType = type
          · have restUnfit : rest.map Component.keyType ≠ types := by
              intro restSame
              exact unfit (by rw [List.map_cons, same, restSame])
            obtain ⟨column, expected, actual, mismatch, answer⟩ := ih (start + 1) (Nat.succ.inj sameLength) restUnfit
            refine ⟨column + 1, expected, actual, ?_, ?_⟩
            · rw [List.map_cons, same]
              exact mismatch.cons type
            · rw [if_pos same, answer, Nat.add_assoc, Nat.add_comm 1 column]
          · rw [if_neg same]
            refine ⟨0, type, component.keyType, ⟨rfl, rfl, same, ?_⟩, rfl⟩
            intro earlier below
            exact absurd below (Nat.not_lt_zero earlier)

theorem of_schema_arity {schema : KeySchema} {components : List Component} (arity : schema.size ≠ components.length) :
    ofSchema schema components = .error (.arity schema.size components.length) := by
  rw [ofSchema, if_pos arity]

theorem of_schema_mismatch {schema : KeySchema} {components : List Component} (arity : schema.size = components.length)
    (unfit : components.map Component.keyType ≠ schema.keyTypes) :
    ∃ column expected actual, FirstMismatch schema.keyTypes (components.map Component.keyType) column expected actual ∧
      ofSchema schema components = .error (.componentType column expected actual) := by
  have sameLength : schema.keyTypes.length = components.length := schema.size_eq ▸ arity
  obtain ⟨column, expected, actual, mismatch, answer⟩ := check_components_mismatch 0 sameLength unfit
  refine ⟨column, expected, actual, mismatch, ?_⟩
  rw [ofSchema, if_neg (not_not_intro arity), answer, Nat.zero_add]

theorem rebind_ok_iff {row : Row} (filled : row.components ≠ []) (schema : KeySchema) (fitted : Row) :
    row.rebind schema = .ok fitted ↔ ofSchema schema row.components = .ok fitted := by
  have notEmpty : ¬ row.isEmpty = true := by
    simpa [components, isEmpty] using filled
  rw [rebind_eq, if_neg notEmpty, of_schema_ok_iff, ← keyTypes]
  by_cases fits : schema.keyTypes = row.keyTypes
  · simp [fits, eq_comm]
  · simp [fits, Ne.symm fits]

end Row

namespace Predicate

theorem add_row_ok_iff {p : Predicate} {schema : KeySchema} (keyed : schema.hasKey = true)
    (bound : p.binding = .rows schema) (fresh : p.selection = .range none none) (row : Row) (q : Predicate) :
    p.apply (.add (some (.row row))) = .ok q ↔
      ∃ fitted, Row.ofSchema schema row.components = .ok fitted ∧
        q = { p with selection := .distinct (KeySet.empty.insert (.row fitted)) } := by
  have own : p.schema.hasKey = true := by rwa [Predicate.schema, bound]
  have free : p.selection.conflict? (.add (some (.row row))) = none := by
    rw [fresh]
    rfl
  have verdict : p.verdict (.add (some (.row row))) = .ok () ↔ row.keyTypes = schema.keyTypes := by
    rw [verdict, memberVerdict, bound, Binding.verdict_ok_iff]
    rfl
  have effect : p.selection.after p.binding (.add (some (.row row))) =
      .distinct (KeySet.empty.insert (.row (.ofParts schema.names row.components))) := by
    rw [fresh, bound]
    rfl
  rw [apply_ok_iff own, verdict, effect]
  simp only [free, Row.of_schema_ok_iff, true_and, and_assoc, exists_and_left, exists_eq_left, Row.keyTypes]

end Predicate

theorem fitting_agrees (schema : KeySchema) (components : List Component) :
    let found := components.map Component.keyType
    ((∃ fitted, Row.ofSchema schema components = .ok fitted) ↔ found = schema.keyTypes) ∧
    (schema.size ≠ components.length →
      Row.ofSchema schema components = .error (.arity schema.size components.length)) ∧
    (schema.size = components.length → found ≠ schema.keyTypes →
      ∃ column expected actual, FirstMismatch schema.keyTypes found column expected actual ∧
        Row.ofSchema schema components = .error (.componentType column expected actual)) ∧
    ∀ row : Row, row.components = components →
      (components ≠ [] →
        ∀ fitted, row.rebind schema = .ok fitted ↔ Row.ofSchema schema components = .ok fitted) ∧
      (schema.hasKey = true → ∀ options, ∃ p, Predicate.make (.keySchema schema) options = .ok p ∧
        ((∃ q, p.apply (.add (some (.row row))) = .ok q) ↔ ∃ fitted, Row.ofSchema schema components = .ok fitted) ∧
        ∀ q, p.apply (.add (some (.row row))) = .ok q →
          ∃ fitted keys, Row.ofSchema schema components = .ok fitted ∧ q.distinctKeys? = some keys ∧
            keys.toList = [.row fitted]) := by
  intro found
  refine ⟨?_, Row.of_schema_arity, Row.of_schema_mismatch, ?_⟩
  · simp [Row.of_schema_ok_iff, found]
  · rintro row rfl
    refine ⟨fun filled => Row.rebind_ok_iff filled schema, ?_⟩
    intro keyed options
    let p : Predicate := ⟨.rows schema, Binding.allowsRange (.rows schema) options, .range none none⟩
    have made : Predicate.make (.keySchema schema) options = .ok p := if_pos keyed
    have added : ∀ q, p.apply (.add (some (.row row))) = .ok q ↔ _ := p.add_row_ok_iff keyed rfl rfl row
    refine ⟨p, made, ?_, ?_⟩
    · constructor
      · rintro ⟨q, done⟩
        obtain ⟨fitted, answer, _⟩ := (added q).mp done
        exact ⟨fitted, answer⟩
      · rintro ⟨fitted, answer⟩
        exact ⟨_, (added _).mpr ⟨fitted, answer, rfl⟩⟩
    · intro q done
      obtain ⟨fitted, answer, rfl⟩ := (added q).mp done
      exact ⟨fitted, _, answer, rfl, by rw [Predicate.to_list_view]; rfl⟩

theorem order_fits :
    let schema : KeySchema := ⟨[⟨"region", .text⟩, ⟨"id", .long⟩]⟩
    let order := Row.ofComponents [.text "eu", .long 1]
    schema.size = [Component.text "eu", .integer 1].length ∧ schema.hasKey = true ∧
      (∃ fitted, order.rebind schema = .ok fitted ∧ Row.ofSchema schema [.text "eu", .long 1] = .ok fitted) ∧
      (∃ p, Predicate.make (.keySchema schema) .default = .ok p ∧ ∃ q, p.apply (.add (some (.row order))) = .ok q) ∧
      ∃ column expected actual, FirstMismatch schema.keyTypes [.text, .integer] column expected actual ∧
        Row.ofSchema schema [.text "eu", .integer 1] = .error (.componentType column expected actual) := by
  intro schema order
  obtain ⟨succeeds, _, _, rows⟩ := fitting_agrees schema [.text "eu", .long 1]
  obtain ⟨fitted, made⟩ := succeeds.mpr rfl
  obtain ⟨rebinds, adds⟩ := rows order rfl
  obtain ⟨p, fresh, accepts, _⟩ := adds rfl .default
  obtain ⟨_, _, mismatch, _⟩ := fitting_agrees schema [.text "eu", .integer 1]
  exact ⟨rfl, rfl, ⟨fitted, (rebinds nofun fitted).mpr made, made⟩, ⟨p, fresh, accepts.mpr ⟨fitted, made⟩⟩,
    mismatch rfl (by decide)⟩

end RowSelection
