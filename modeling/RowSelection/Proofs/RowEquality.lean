import RowSelection.Proofs.StoredPredicate

set_option autoImplicit false

namespace RowSelection

theorem Field.Describes.eq_mk {field : Field} {component : Component} (described : field.Describes component) :
    field = .new field.name component.keyType.dataType false := by
  obtain ⟨name, dataType, nullable, metadata, tag⟩ := field
  obtain ⟨type, required, plain, untagged⟩ := described
  cases type
  cases required
  cases plain
  cases untagged
  rfl

namespace StoredRow

def get? (row : StoredRow) (column : Nat) : Option Component := row.components[column]?

theorem get?_stored (row : Row) (column : Nat) : row.stored.get? column = row.get? column :=
  List.getElem?_map

theorem fields_of_described {fields : List Field} {components : List Component}
    (described : List.Forall₂ Field.Describes fields components) :
    fields = List.zipWith (fun name component => .new name component.keyType.dataType false)
      (fields.map Field.name) components := by
  induction described with
  | nil => rfl
  | cons first rest ih => exact congrArg₂ List.cons first.eq_mk ih

theorem Obtained.fields_eq {row : StoredRow} (obtained : row.Obtained) :
    row.fields = List.zipWith (fun name component => .new name component.keyType.dataType false)
      (row.fields.map Field.name) row.components := by
  obtain ⟨known, rfl⟩ := row_of_obtained obtained
  exact fields_of_described (describes_stored known)

theorem Obtained.equal_iff_same {a b : StoredRow} (first : a.Obtained) (second : b.Obtained) :
    a.equal b = true ↔ a.fields = b.fields ∧ a.components = b.components := by
  rw [equal_iff]
  constructor
  · intro alike
    refine ⟨?_, alike.1⟩
    rw [first.fields_eq, second.fields_eq, alike.1, alike.2]
  · intro same
    exact ⟨same.2, congrArg (List.map Field.name) same.1⟩

theorem Obtained.eq_of_equal {a b : StoredRow} (first : a.Obtained) (second : b.Obtained) (alike : a.equal b = true) :
    a = b := by
  obtain ⟨fields, components⟩ := (first.equal_iff_same second).mp alike
  cases a
  cases b
  cases fields
  cases components
  rfl

theorem Obtained.set_of_equal {a b : StoredRow} (first : a.Obtained) (second : b.Obtained) (alike : a.equal b = true)
    (column : Nat) (component : Component) :
    (∀ failure, a.set column component = .error failure ↔ b.set column component = .error failure) ∧
    ∀ later, a.set column component = .ok later →
      ∃ other, b.set column component = .ok other ∧ later.equal other = true := by
  cases first.eq_of_equal second alike
  refine ⟨fun _ => Iff.rfl, ?_⟩
  intro later done
  exact ⟨later, done, later.equal_self⟩

end StoredRow

-- No operation makes the first row. It equals the second, and refuses the text that the second takes.
example :
    let forged : StoredRow := ⟨[.new "c0" .int64 false], [.text "us"]⟩
    let made : StoredRow := .ofComponents [.text "us"]
    forged.equal made = true ∧ forged.set 0 (.text "eu") = .error (.mistyped 0 .int64 .utf8) ∧
      made.set 0 (.text "eu") = .ok (.ofComponents [.text "eu"]) :=
  ⟨rfl, rfl, rfl⟩

end RowSelection
