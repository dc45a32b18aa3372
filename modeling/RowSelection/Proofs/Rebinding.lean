import RowSelection.Proofs.StoredRow

set_option autoImplicit false

namespace RowSelection

namespace StoredRow

def equal (row other : StoredRow) : Bool :=
  row.components == other.components && row.fields.length == other.fields.length &&
    (row.fields.zip other.fields).all fun pair => pair.1.name == pair.2.name

def componentTypes (row : StoredRow) : List KeyType := row.components.map Component.keyType

theorem names_agree_iff (fields others : List Field) :
    (fields.length == others.length && (fields.zip others).all fun pair => pair.1.name == pair.2.name) = true ↔
      fields.map Field.name = others.map Field.name := by
  induction fields generalizing others with
  | nil => cases others <;> simp
  | cons field rest ih =>
      cases others with
      | nil => simp
      | cons other later =>
          have tail := ih later
          rw [Bool.and_eq_true, beq_iff_eq] at tail
          simp [← tail, and_left_comm]

theorem equal_iff (row other : StoredRow) :
    row.equal other = true ↔
      row.components = other.components ∧ row.fields.map Field.name = other.fields.map Field.name := by
  rw [equal, Bool.and_assoc, Bool.and_eq_true, beq_iff_eq, names_agree_iff]

theorem equal_self (row : StoredRow) : row.equal row = true :=
  (equal_iff row row).mpr ⟨rfl, rfl⟩

theorem equal_stored (row other : Row) : row.stored.equal other.stored = true ↔ row = other := by
  have names (row : Row) : row.stored.fields.map Field.name = row.names := by
    simp only [Row.stored, Row.fields, Row.columns, Row.names, List.map_map]
    rfl
  rw [equal_iff, names, names, Row.eq_iff_names_components]
  exact and_comm

theorem key_schema_of_fields {schema : KeySchema} {components : List Component} (filled : components ≠ []) :
    keySchema ⟨schema.fields, components⟩ = .ok schema := by
  rw [keySchema, if_neg (mt List.isEmpty_iff.mp filled), KeySchema.of_fields_fields]

theorem Obtained.rebind_eq {stored : StoredRow} (obtained : stored.Obtained) (schema : KeySchema) :
    stored.rebind schema =
      if stored.components = [] then .error .emptyRow
      else if schema.keyTypes = stored.componentTypes then .ok ⟨schema.fields, stored.components⟩
      else .error (.incompatible schema.keyTypes stored.componentTypes) := by
  obtain ⟨row, rfl⟩ := row_of_obtained obtained
  have empty : row.isEmpty = true ↔ row.stored.components = [] := by
    simp [Row.isEmpty, Row.stored, Row.components]
  have types : row.keyTypes = row.stored.componentTypes := rfl
  rw [rebind_stored, Row.rebind_eq, types]
  by_cases none : row.stored.components = []
  · rw [if_pos (empty.mpr none), if_pos none]
    rfl
  · rw [if_neg (mt empty.mp none), if_neg none]
    by_cases fits : schema.keyTypes = row.stored.componentTypes
    · rw [if_pos fits, if_pos fits]
      exact congrArg Except.ok (stored_of_parts fits.symm)
    · rw [if_neg fits, if_neg fits]
      rfl

theorem Obtained.rebind_ok_iff {stored : StoredRow} (obtained : stored.Obtained) (schema : KeySchema)
    (bound : StoredRow) : stored.rebind schema = .ok bound ↔
      stored.components ≠ [] ∧ schema.keyTypes = stored.componentTypes ∧ bound = ⟨schema.fields, stored.components⟩ := by
  rw [obtained.rebind_eq]
  by_cases none : stored.components = []
  · simp [none]
  · by_cases fits : schema.keyTypes = stored.componentTypes
    · simp [none, fits, eq_comm]
    · simp [none, fits]

theorem Obtained.rebind_error_iff {stored : StoredRow} (obtained : stored.Obtained) (schema : KeySchema)
    (error : SchemaError) : stored.rebind schema = .error error ↔
      stored.components = [] ∧ error = .emptyRow ∨
      stored.components ≠ [] ∧ schema.keyTypes ≠ stored.componentTypes ∧
        error = .incompatible schema.keyTypes stored.componentTypes := by
  rw [obtained.rebind_eq]
  by_cases none : stored.components = []
  · simp [none, eq_comm]
  · by_cases fits : schema.keyTypes = stored.componentTypes
    · simp [none, fits]
    · simp [none, fits, eq_comm]

theorem Obtained.rebind_rebind {stored bound : StoredRow} (obtained : stored.Obtained) {schema : KeySchema}
    (done : stored.rebind schema = .ok bound) (later : KeySchema) : bound.rebind later = stored.rebind later := by
  have again : bound.Obtained := .rebind obtained done
  obtain ⟨_, _, rfl⟩ := (obtained.rebind_ok_iff schema bound).mp done
  rw [again.rebind_eq, obtained.rebind_eq]
  rfl

theorem Obtained.rebind_own {stored : StoredRow} (obtained : stored.Obtained) (filled : stored.components ≠ []) :
    ∃ own, stored.keySchema = .ok own ∧ stored.rebind own = .ok stored := by
  obtain ⟨row, rfl⟩ := row_of_obtained obtained
  refine ⟨⟨row.columns⟩, key_schema_of_fields filled, ?_⟩
  rw [obtained.rebind_ok_iff]
  exact ⟨filled, row.key_types_columns, rfl⟩

end StoredRow

theorem rebinding_is_canonical {a b : StoredRow} (first : a.Obtained) (second : b.Obtained) (s t : KeySchema) :
    (a.rebind s = .error .emptyRow ↔ a.components = []) ∧
    (a.components ≠ [] →
      (a.rebind s = .error (.incompatible s.keyTypes a.componentTypes) ↔ s.keyTypes ≠ a.componentTypes) ∧
      (s.keyTypes = a.componentTypes →
        ∃ bound, a.rebind s = .ok bound ∧ bound.components = a.components ∧ bound.fields = s.fields ∧
          bound.keySchema = .ok s) ∧
      ∃ own, a.keySchema = .ok own ∧ a.rebind own = .ok a) ∧
    (∀ bound other, a.rebind s = .ok bound → b.rebind s = .ok other →
      (bound.equal other = true ↔ a.components = b.components)) ∧
    (∀ bound, a.rebind s = .ok bound → bound.rebind t = a.rebind t) ∧
    (a.copy.equal a = true ∧ a.copy.rebind s = a.rebind s) ∧
    ∃ row other : Row, a = row.stored ∧ b = other.stored ∧ (a.equal b = true ↔ row = other) ∧
      a.rebind s = (row.rebind s).map Row.stored := by
  refine ⟨?_, ?_, ?_, ?_, ⟨a.equal_self, rfl⟩, ?_⟩
  · simp [first.rebind_error_iff]
  · intro filled
    refine ⟨?_, ?_, first.rebind_own filled⟩
    · simp [first.rebind_error_iff, filled]
    · intro fits
      exact ⟨⟨s.fields, a.components⟩, (first.rebind_ok_iff s _).mpr ⟨filled, fits, rfl⟩, rfl, rfl,
        StoredRow.key_schema_of_fields filled⟩
  · intro bound other done otherDone
    obtain ⟨_, _, rfl⟩ := (first.rebind_ok_iff s bound).mp done
    obtain ⟨_, _, rfl⟩ := (second.rebind_ok_iff s other).mp otherDone
    simp [StoredRow.equal_iff]
  · intro bound done
    exact first.rebind_rebind done t
  · obtain ⟨row, rfl⟩ := StoredRow.row_of_obtained first
    obtain ⟨other, rfl⟩ := StoredRow.row_of_obtained second
    exact ⟨row, other, rfl, rfl, StoredRow.equal_stored row other, StoredRow.rebind_stored row s⟩

theorem orders_rebound :
    let own : KeySchema := ⟨[⟨"region", .text⟩, ⟨"id", .long⟩]⟩
    let shared : KeySchema := ⟨[⟨"place", .text⟩, ⟨"number", .long⟩]⟩
    let narrow : KeySchema := .single "place" .text
    let order : StoredRow := ⟨own.fields, [.text "eu", .long 7]⟩
    let anonymous : StoredRow := .ofComponents [.text "eu", .long 7]
    order.Obtained ∧ anonymous.Obtained ∧ order.equal anonymous = false ∧
      ∃ bound other, order.rebind shared = .ok bound ∧ anonymous.rebind shared = .ok other ∧
        bound.equal other = true ∧ bound.keySchema = .ok shared ∧
        bound.rebind narrow = .error (.incompatible [.text] [.text, .long]) := by
  intro own shared narrow order anonymous
  have made : StoredRow.ofSchema own [.text "eu", .long 7] = .ok order := rfl
  have orderObtained : order.Obtained := .ofSchema made
  have anonymousObtained : anonymous.Obtained := .ofComponents _
  obtain ⟨_, filled, same, again, _⟩ := rebinding_is_canonical orderObtained anonymousObtained shared narrow
  obtain ⟨bound, done, _, _, described⟩ := (filled (List.cons_ne_nil _ _)).2.1 rfl
  obtain ⟨_, otherFilled, _⟩ := rebinding_is_canonical anonymousObtained orderObtained shared narrow
  obtain ⟨other, otherDone, _⟩ := (otherFilled (List.cons_ne_nil _ _)).2.1 rfl
  exact ⟨orderObtained, anonymousObtained, by decide, bound, other, done, otherDone,
    (same bound other done otherDone).mpr rfl, described, again bound done⟩

end RowSelection
