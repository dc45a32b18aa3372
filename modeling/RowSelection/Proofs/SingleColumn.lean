import RowSelection.Declaration.RoundTrip
import RowSelection.KeySchema
import RowSelection.Proofs.Simulation

set_option autoImplicit false

namespace RowSelection

-- A component, and a row of one column that holds it under any name.
inductive Key.InCell : Key → Key → Prop
  | cell (name : String) (component : Component) : InCell (.primitive component) (.row ⟨[⟨name, component⟩]⟩)

def Key.inColumn (name : String) : Key → Key
  | .primitive component => .row ⟨[⟨name, component⟩]⟩
  | .row held => .row held

-- The answers to a component and to a row around it. They differ only in how a wrong type is reported.
inductive CellAnswer (type : KeyType) : Except PredicateError Unit → Except PredicateError Unit → Prop
  | accepted : CellAnswer type (.ok ()) (.ok ())
  | refused (error : PredicateError) : CellAnswer type (.error error) (.error error)
  | mistyped (component : Component) (different : component.keyType ≠ type) :
      CellAnswer type (.error (.typeMismatch type.hostType (some component.keyType.hostType)))
        (.error (.rowMismatch (.incompatible [type] [component.keyType])))

structure InColumnKeys (name : String) (plain rows : DistinctKeys) : Prop where
  primitive : ∀ key ∈ plain.toList, ∃ component, key = .primitive component
  contents : rows.toList.Perm (plain.toList.map (Key.inColumn name))

inductive Selection.InColumn (name : String) : Selection → Selection → Prop
  | range {start start' finish finish' : Value} (lower : Option.Rel Key.InCell start start')
      (upper : Option.Rel Key.InCell finish finish') : InColumn name (.range start finish) (.range start' finish')
  | distinct {plain rows : KeySet} (primitive : ∀ key ∈ plain.toList, ∃ component, key = .primitive component)
      (contents : rows.toList = plain.toList.map (Key.inColumn name)) : InColumn name (.distinct plain) (.distinct rows)

structure OverColumn (type : KeyType) (name : String) (p q : Predicate) : Prop where
  plain : p.binding = .tag type
  rows : q.binding = .rows (.single name type)
  eligible : p.rangeEligible = q.rangeEligible
  selection : p.selection.InColumn name q.selection

section
variable {type : KeyType} {name : String}

theorem CellAnswer.succeeds {plain rows : Except PredicateError Unit} (answer : CellAnswer type plain rows) :
    plain = .ok () ↔ rows = .ok () := by
  cases answer <;> simp

theorem OverColumn.keyed {p q : Predicate} (related : OverColumn type name p q) :
    p.schema.hasKey = true ∧ q.schema.hasKey = true := by
  rw [Predicate.schema, Predicate.schema, related.plain, related.rows]
  exact ⟨rfl, rfl⟩

theorem verdict_cell (column : String) (component : Component) :
    CellAnswer type ((Binding.tag type).verdict (.primitive component))
      ((Binding.rows (.single name type)).verdict (.row ⟨[⟨column, component⟩]⟩)) := by
  by_cases fits : component.keyType = type
  · have plain : (Binding.tag type).Admits (.primitive component) := fits
    have wrapped : (Binding.rows (.single name type)).Admits (.row ⟨[⟨column, component⟩]⟩) :=
      congrArg (fun held => [held]) fits
    rw [Binding.verdict_ok_iff.mpr plain, Binding.verdict_ok_iff.mpr wrapped]
    exact .accepted
  · have plain : ¬ (Binding.tag type).Admits (.primitive component) := fits
    have wrapped : ¬ (Binding.rows (.single name type)).Admits (.row ⟨[⟨column, component⟩]⟩) := by
      intro same
      exact fits (List.singleton_inj.mp same)
    rw [Binding.verdict, Binding.verdict, if_neg plain, if_neg wrapped]
    exact .mistyped component fits

theorem conflict_cell {first second : Selection} (selections : first.InColumn name second) {call other : Mutation}
    (calls : call.Rel Key.InCell other) : first.conflict? call = second.conflict? other := by
  cases selections with
  | range lower upper =>
      cases calls with
      | setStart argument => rfl
      | setFinish argument => rfl
      | add argument => cases lower <;> cases upper <;> simp [Selection.conflict?]
  | distinct primitive contents => cases calls <;> rfl

theorem bound_verdict_cell {p q : Predicate} (related : OverColumn type name p q) {first second : Value}
    (argument : Option.Rel Key.InCell first second) : CellAnswer type (p.boundVerdict first) (q.boundVerdict second) := by
  cases argument with
  | none => exact .accepted
  | some held =>
      cases held with
      | cell column component =>
          simp only [Predicate.boundVerdict, related.plain, related.rows, ← related.eligible]
          by_cases eligible : p.rangeEligible = true
          · rw [if_pos eligible, if_pos eligible]
            exact verdict_cell column component
          · rw [if_neg eligible, if_neg eligible]
            exact .refused .textRange

theorem member_verdict_cell {p q : Predicate} (related : OverColumn type name p q) {first second : Value}
    (argument : Option.Rel Key.InCell first second) :
    CellAnswer type (p.memberVerdict first) (q.memberVerdict second) := by
  cases argument with
  | none => exact .refused .missingValue
  | some held =>
      cases held with
      | cell column component =>
          simp only [Predicate.memberVerdict, related.plain, related.rows]
          exact verdict_cell column component

theorem outcome_cell {p q : Predicate} (related : OverColumn type name p q) {call other : Mutation}
    (calls : call.Rel Key.InCell other) : CellAnswer type (p.outcome call) (q.outcome other) := by
  obtain ⟨plainKeyed, rowsKeyed⟩ := related.keyed
  rw [Predicate.outcome_eq plainKeyed, Predicate.outcome_eq rowsKeyed, ← conflict_cell related.selection calls]
  cases p.selection.conflict? call with
  | some error => exact .refused error
  | none =>
      cases calls with
      | setStart argument => exact bound_verdict_cell related argument
      | setFinish argument => exact bound_verdict_cell related argument
      | add argument => exact member_verdict_cell related argument

theorem bound_form_cell {first second : Value} (argument : Option.Rel Key.InCell first second) :
    Option.Rel Key.InCell (first.map (Binding.tag type).boundForm)
      (second.map (Binding.rows (.single name type)).boundForm) := by
  cases argument with
  | none => exact .none
  | some held =>
      cases held with
      | cell column component => exact .some (.cell column component)

theorem eq_of_in_column {plain : KeySet} (primitive : ∀ key ∈ plain.toList, ∃ component, key = .primitive component)
    (component : Component) : ∀ known ∈ plain.toList,
      known.inColumn name = (Key.primitive component).inColumn name → known = .primitive component := by
  intro known member same
  obtain ⟨held, rfl⟩ := primitive known member
  simpa [Key.inColumn] using same

theorem insert_cell {plain rows : KeySet} (primitive : ∀ key ∈ plain.toList, ∃ component, key = .primitive component)
    (contents : rows.toList = plain.toList.map (Key.inColumn name)) (component : Component) :
    Selection.InColumn name (.distinct (plain.insert (.primitive component)))
      (.distinct (rows.insert ((Key.primitive component).inColumn name))) := by
  refine .distinct ?_ (KeySet.to_list_insert_map contents (eq_of_in_column primitive component))
  intro key member
  rcases (KeySet.mem_insert plain (.primitive component) key).mp member with known | rfl
  · exact primitive key known
  · exact ⟨component, rfl⟩

theorem after_cell {first second : Selection} (selections : first.InColumn name second) {call other : Mutation}
    (calls : call.Rel Key.InCell other) :
    Selection.InColumn name (first.after (.tag type) call) (second.after (.rows (.single name type)) other) := by
  cases calls with
  | setStart argument =>
      cases selections with
      | range lower upper => exact .range (bound_form_cell argument) upper
      | distinct primitive contents => exact .distinct primitive contents
  | setFinish argument =>
      cases selections with
      | range lower upper => exact .range lower (bound_form_cell argument)
      | distinct primitive contents => exact .distinct primitive contents
  | add argument =>
      cases argument with
      | none =>
          cases selections with
          | range lower upper => exact .range lower upper
          | distinct primitive contents => exact .distinct primitive contents
      | some held =>
          cases held with
          | cell column component =>
              cases selections with
              | range lower upper =>
                  exact insert_cell (fun _ none => absurd none List.not_mem_nil) rfl component
              | distinct primitive contents => exact insert_cell primitive contents component

theorem step_cell (p q : Predicate) (call other : Mutation) (related : OverColumn type name p q)
    (calls : call.Rel Key.InCell other) :
    CellAnswer type (p.outcome call) (q.outcome other) ∧ OverColumn type name (p.step call) (q.step other) := by
  have answer := outcome_cell related calls
  refine ⟨answer, ?_⟩
  apply Predicate.step_alongside related related.keyed.1 related.keyed.2 answer.succeeds
  intro accepted
  refine ⟨related.plain, related.rows, related.eligible, ?_⟩
  simp only [Predicate.afterCall, related.plain, related.rows]
  exact after_cell related.selection calls

theorem key_type_cell {p q : Predicate} (related : OverColumn type name p q) :
    p.keyType = .ok type ∧ q.keyType = .ok type := by
  simp only [Predicate.keyType, Predicate.schema, related.plain, related.rows]
  exact ⟨rfl, rfl⟩

theorem read_cell {p q : Predicate} (related : OverColumn type name p q) :
    Option.Rel Key.InCell p.start q.start ∧ Option.Rel Key.InCell p.finish q.finish ∧
      Option.Rel (InColumnKeys name) p.distinctKeys? q.distinctKeys? := by
  obtain ⟨_, _, _, selections⟩ := related
  obtain ⟨binding, eligible, held⟩ := p
  obtain ⟨otherBinding, otherEligible, otherHeld⟩ := q
  cases selections with
  | range lower upper =>
      rw [Predicate.start_range, Predicate.start_range, Predicate.finish_range, Predicate.finish_range]
      exact ⟨lower, upper, .none⟩
  | distinct primitive contents =>
      refine ⟨.none, .none, .some ⟨?_, ?_⟩⟩
      · rw [Predicate.to_list_view]
        exact primitive
      · rw [Predicate.to_list_view, Predicate.to_list_view, contents]

theorem allows_range_single (options : Predicate.Options) :
    (Binding.tag type).allowsRange options = (Binding.rows (.single name type)).allowsRange options := by
  cases type <;> rfl

end

theorem resolve_single {table : TableSchema} {text name : String} {field : Field}
    (declared : table.keyDeclaration? = some text) (reads : Declaration.read text = .ok [name])
    (first : table.field? name = some field) :
    KeySchema.resolve table =
      match KeyType.ofDataType? field.dataType with
      | none => .error (.unsupportedColumn name field.dataType)
      | some type => .ok (.single name type) := by
  have named : field.name = name := TableSchema.name_of_field? first
  simp only [KeySchema.resolve, declared, reads, KeySchema.ofNames, TableSchema.selectFields, List.not_mem_nil, if_false,
    first, Except.map, Except.bind, KeySchema.ofFields, Column.ofField, named]
  cases KeyType.ofDataType? field.dataType <;> rfl

theorem column_runs_as_its_type {dataType : DataType} {table : TableSchema} {text name : String} {field : Field}
    (declared : table.keyDeclaration? = some text) (reads : Declaration.read text = .ok [name])
    (first : table.field? name = some field) (stored : field.dataType = dataType) (options : Predicate.Options) :
    match KeyType.ofDataType? dataType with
    | none =>
        Predicate.make (.dataType dataType) options = .error (.unsupportedDataType dataType) ∧
        Predicate.make (.table table) options = .error (.unresolved (.unsupportedColumn name dataType))
    | some type =>
        ∃ p q, Predicate.make (.dataType dataType) options = .ok p ∧ Predicate.make (.table table) options = .ok q ∧
          ∀ calls others, List.Forall₂ (Mutation.Rel Key.InCell) calls others →
            List.Forall₂ (CellAnswer type) (p.outcomes calls) (q.outcomes others) ∧
            (p.run calls).keyType = .ok type ∧ (q.run others).keyType = .ok type ∧
            (p.run calls).rangeEligible = (q.run others).rangeEligible ∧
            Option.Rel Key.InCell (p.run calls).start (q.run others).start ∧
            Option.Rel Key.InCell (p.run calls).finish (q.run others).finish ∧
            Option.Rel (InColumnKeys name) (p.run calls).distinctKeys? (q.run others).distinctKeys? := by
  have resolved := resolve_single declared reads first
  rw [stored] at resolved
  cases known : KeyType.ofDataType? dataType with
  | none =>
      rw [known] at resolved
      simp [Predicate.make, Predicate.ofDataType, Predicate.ofTable, known, resolved]
  | some type =>
      rw [known] at resolved
      let p : Predicate := ⟨.tag type, (Binding.tag type).allowsRange options, .range none none⟩
      let q : Predicate :=
        ⟨.rows (.single name type), (Binding.rows (.single name type)).allowsRange options, .range none none⟩
      have plainMade : Predicate.make (.dataType dataType) options = .ok p := by
        simp only [Predicate.make, Predicate.ofDataType, known]
        rfl
      have rowsMade : Predicate.make (.table table) options = .ok q := by
        simp only [Predicate.make, Predicate.ofTable, resolved]
        rfl
      have fresh : OverColumn type name p q := ⟨rfl, rfl, allows_range_single options, .range .none .none⟩
      refine ⟨p, q, plainMade, rowsMade, ?_⟩
      intro calls others alike
      obtain ⟨answers, related⟩ := Predicate.run_alongside step_cell fresh alike
      exact ⟨answers, (key_type_cell related).1, (key_type_cell related).2, related.eligible, read_cell related⟩

theorem instants_in_a_column :
    let column : Field := .new "at" (.timestamp .millisecond none) true
    let table : TableSchema := TableSchema.declareParts ⟨[column], .empty⟩ ["at"]
    let instant : Component := .timestamp ⟨5⟩
    let calls : List Mutation :=
      [.setStart (some (.primitive (.long 5))), .add (some (.primitive instant)), .add (some (.primitive instant))]
    let others : List Mutation :=
      [.setStart (some (.row ⟨[⟨"a", .long 5⟩]⟩)), .add (some (.row ⟨[⟨"b", instant⟩]⟩)),
        .add (some (.row ⟨[⟨"at", instant⟩]⟩))]
    table.keyDeclaration? = some (Declaration.write ["at"]) ∧
      Declaration.read (Declaration.write ["at"]) = .ok ["at"] ∧ table.field? "at" = some column ∧
      List.Forall₂ (Mutation.Rel Key.InCell) calls others ∧
      ∃ p q, Predicate.make (.dataType column.dataType) .default = .ok p ∧
        Predicate.make (.table table) .default = .ok q ∧
        List.Forall₂ (CellAnswer .timestamp) (p.outcomes calls) (q.outcomes others) ∧
        Option.Rel (InColumnKeys "at") (p.run calls).distinctKeys? (q.run others).distinctKeys? := by
  intro column table instant calls others
  have declared : table.keyDeclaration? = some (Declaration.write ["at"]) :=
    TableSchema.key_declaration?_with_key_declaration _ _
  have reads : Declaration.read (Declaration.write ["at"]) = .ok ["at"] := Declaration.read_write _
  have first : table.field? "at" = some column := rfl
  have alike : List.Forall₂ (Mutation.Rel Key.InCell) calls others :=
    .cons (.setStart (.some (.cell _ _))) (.cons (.add (.some (.cell _ _))) (.cons (.add (.some (.cell _ _))) .nil))
  obtain ⟨p, q, plainMade, rowsMade, run⟩ := column_runs_as_its_type declared reads first rfl .default
  obtain ⟨answers, _, _, _, _, _, keys⟩ := run calls others alike
  exact ⟨declared, reads, first, alike, p, q, plainMade, rowsMade, answers, keys⟩

end RowSelection
