import Mathlib.Data.List.Nodup
import RowSelection.Proofs.Simulation

set_option autoImplicit false

namespace RowSelection

inductive Key.Renamed : Key → Key → Prop
  | same (key : Key) : Renamed key key
  | rows {first second : Row} (contents : first.components = second.components) : Renamed (.row first) (.row second)

def KeySchema.named (schema : KeySchema) (components : List Component) : Key :=
  .row (.ofParts schema.names components)

-- The same keys, each side under its own names: no two keys of a side have the same components, and
-- the components that one side has are those of the other.
structure SameKeys (s t : KeySchema) (first second : DistinctKeys) : Prop where
  size : first.size = second.size
  firstNamed : ∀ key ∈ first.toList, ∃ row, key = .row row ∧ row.names = s.names
  secondNamed : ∀ key ∈ second.toList, ∃ row, key = .row row ∧ row.names = t.names
  apart : (first.toList.map Key.components).Nodup
  contents : (first.toList.map Key.components).Perm (second.toList.map Key.components)

inductive Selection.Renamed (s t : KeySchema) : Selection → Selection → Prop
  | range {start start' finish finish' : Value} (lower : Option.Rel Key.Renamed start start')
      (upper : Option.Rel Key.Renamed finish finish') : Renamed s t (.range start finish) (.range start' finish')
  | distinct (contents : List (List Component)) (fits : ∀ components ∈ contents, components.length = s.size)
      {first second : KeySet} (left : first.toList = contents.map s.named)
      (right : second.toList = contents.map t.named) : Renamed s t (.distinct first) (.distinct second)

structure Renaming (s t : KeySchema) (p q : Predicate) : Prop where
  first : p.binding = .rows s
  second : q.binding = .rows t
  eligible : p.rangeEligible = q.rangeEligible
  selection : Selection.Renamed s t p.selection q.selection

section
variable {s t : KeySchema}

theorem size_of_types (types : s.keyTypes = t.keyTypes) : s.size = t.size := by
  rw [s.size_eq, t.size_eq, types]

theorem key_types_of_components {first second : Row} (contents : first.components = second.components) :
    first.keyTypes = second.keyTypes := by
  simp [Row.keyTypes, contents]

theorem is_empty_of_components {first second : Row} (contents : first.components = second.components) :
    first.isEmpty = second.isEmpty := by
  rw [Bool.eq_iff_iff, first.is_empty_iff_key_types, second.is_empty_iff_key_types, key_types_of_components contents]

theorem verdict_renamed (types : s.keyTypes = t.keyTypes) {first second : Key} (renamed : first.Renamed second) :
    (Binding.rows s).verdict first = (Binding.rows t).verdict second := by
  cases renamed with
  | same =>
      cases first with
      | primitive component => rfl
      | row row =>
          apply Binding.verdict_congr
          · rw [Binding.Admits, Binding.Admits, types]
          · rw [Binding.refusal, Binding.refusal, types]
  | rows contents =>
      apply Binding.verdict_congr
      · rw [Binding.Admits, Binding.Admits, types, key_types_of_components contents]
      · rw [Binding.refusal, Binding.refusal, Binding.rowRefusal, Binding.rowRefusal, types,
          key_types_of_components contents, is_empty_of_components contents]

theorem components_named {schema : KeySchema} {components : List Component} (fits : components.length = schema.size) :
    (schema.named components).components = components := by
  apply Row.components_of_parts
  rw [fits, schema.length_names]

theorem names_named {schema : KeySchema} {components : List Component} (fits : components.length = schema.size) :
    (Row.ofParts schema.names components).names = schema.names := by
  apply Row.names_of_parts
  rw [fits, schema.length_names]

theorem mem_map_named {schema : KeySchema} {contents : List (List Component)} {components : List Component}
    (fits : ∀ known ∈ contents, known.length = schema.size) (fit : components.length = schema.size) :
    schema.named components ∈ contents.map schema.named ↔ components ∈ contents := by
  constructor
  · intro member
    obtain ⟨known, knownMember, same⟩ := List.mem_map.mp member
    have sameComponents := congrArg Key.components same
    rw [components_named (fits known knownMember), components_named fit] at sameComponents
    exact sameComponents ▸ knownMember
  · exact List.mem_map_of_mem

theorem to_list_insert_named {schema : KeySchema} {keys : KeySet} {contents : List (List Component)}
    {components : List Component} (held : keys.toList = contents.map schema.named)
    (fits : ∀ known ∈ contents, known.length = schema.size) (fit : components.length = schema.size) :
    (keys.insert (schema.named components)).toList =
      (if components ∈ contents then contents else contents ++ [components]).map schema.named := by
  have known : schema.named components ∈ keys.toList ↔ components ∈ contents := by
    rw [held]
    exact mem_map_named fits fit
  by_cases present : components ∈ contents
  · rw [KeySet.insert_of_mem (known.mpr present), if_pos present, held]
  · rw [KeySet.to_list_insert_of_not_mem (mt known.mp present), if_neg present, held, List.map_append,
      List.map_singleton]

theorem conflict_renamed {first second : Selection} (selections : Selection.Renamed s t first second)
    {call other : Mutation} (calls : Mutation.Rel Key.Renamed call other) : first.conflict? call = second.conflict? other := by
  cases selections with
  | range lower upper =>
      cases calls with
      | setStart argument => rfl
      | setFinish argument => rfl
      | add argument => cases lower <;> cases upper <;> simp [Selection.conflict?]
  | distinct contents fits left right => cases calls <;> rfl

theorem bound_verdict_renamed (types : s.keyTypes = t.keyTypes) {p q : Predicate} (related : Renaming s t p q)
    {first second : Value} (argument : Option.Rel Key.Renamed first second) :
    p.boundVerdict first = q.boundVerdict second := by
  cases argument with
  | none => rfl
  | some renamed =>
      simp only [Predicate.boundVerdict, related.first, related.second, related.eligible,
        verdict_renamed types renamed]

theorem verdict_of_renaming (types : s.keyTypes = t.keyTypes) {p q : Predicate} (related : Renaming s t p q)
    {call other : Mutation} (calls : Mutation.Rel Key.Renamed call other) : p.verdict call = q.verdict other := by
  cases calls with
  | setStart argument => exact bound_verdict_renamed types related argument
  | setFinish argument => exact bound_verdict_renamed types related argument
  | add argument =>
      cases argument with
      | none => rfl
      | some renamed =>
          simp only [Predicate.verdict, Predicate.memberVerdict, related.first, related.second,
            verdict_renamed types renamed]

theorem member_form_renamed {first second : Key} (renamed : first.Renamed second)
    (admitted : (Binding.rows s).Admits first) :
    ∃ components, components.length = s.size ∧ (Binding.rows s).memberForm first = s.named components ∧
      (Binding.rows t).memberForm second = t.named components := by
  cases renamed with
  | same =>
      cases first with
      | primitive component => exact False.elim admitted
      | row row => exact ⟨row.components, Row.length_components admitted, rfl, rfl⟩
  | @rows first second contents =>
      refine ⟨first.components, Row.length_components admitted, rfl, ?_⟩
      rw [contents]
      rfl

theorem insert_renamed (sameSize : s.size = t.size) {contents : List (List Component)}
    (fits : ∀ known ∈ contents, known.length = s.size) {first second : KeySet}
    (left : first.toList = contents.map s.named) (right : second.toList = contents.map t.named)
    {components : List Component} (fit : components.length = s.size) :
    Selection.Renamed s t (.distinct (first.insert (s.named components)))
      (.distinct (second.insert (t.named components))) := by
  have inserted := to_list_insert_named left fits fit
  have insertedRight := to_list_insert_named right (fun known member => (fits known member).trans sameSize)
    (fit.trans sameSize)
  refine .distinct _ ?_ inserted insertedRight
  intro known member
  split at member
  · exact fits known member
  · rcases List.mem_append.mp member with earlier | last
    · exact fits known earlier
    · rw [List.mem_singleton.mp last]
      exact fit

theorem bound_form_rows (schema : KeySchema) : (Binding.rows schema).boundForm = id := rfl

theorem after_renamed (sameSize : s.size = t.size) {first second : Selection}
    (selections : Selection.Renamed s t first second) {call other : Mutation} (calls : Mutation.Rel Key.Renamed call other)
    (admitted : ∀ key, call.value = some key → (Binding.rows s).Admits key) :
    Selection.Renamed s t (first.after (.rows s) call) (second.after (.rows t) other) := by
  cases calls with
  | setStart argument =>
      cases selections with
      | range lower upper =>
          simp only [Selection.after, bound_form_rows, Option.map_id_fun, id]
          exact .range argument upper
      | distinct contents fits left right => exact .distinct contents fits left right
  | setFinish argument =>
      cases selections with
      | range lower upper =>
          simp only [Selection.after, bound_form_rows, Option.map_id_fun, id]
          exact .range lower argument
      | distinct contents fits left right => exact .distinct contents fits left right
  | add argument =>
      cases argument with
      | none =>
          cases selections with
          | range lower upper => exact .range lower upper
          | distinct contents fits left right => exact .distinct contents fits left right
      | some renamed =>
          obtain ⟨components, fit, leftForm, rightForm⟩ := member_form_renamed (t := t) renamed (admitted _ rfl)
          cases selections with
          | range lower upper =>
              simp only [Selection.after, leftForm, rightForm]
              exact insert_renamed sameSize (fun _ none => absurd none List.not_mem_nil) rfl rfl fit
          | distinct contents fits left right =>
              simp only [Selection.after, leftForm, rightForm]
              exact insert_renamed sameSize fits left right fit

theorem renaming_step (types : s.keyTypes = t.keyTypes) (keyed : s.hasKey = true) {p q : Predicate}
    (related : Renaming s t p q) {call other : Mutation} (calls : Mutation.Rel Key.Renamed call other) :
    p.outcome call = q.outcome other ∧ Renaming s t (p.step call) (q.step other) := by
  have other_keyed : t.hasKey = true := t.has_key_iff.mpr (types ▸ s.has_key_iff.mp keyed)
  have pKeyed : p.schema.hasKey = true := by rw [Predicate.schema, related.first]; exact keyed
  have qKeyed : q.schema.hasKey = true := by rw [Predicate.schema, related.second]; exact other_keyed
  have same : p.outcome call = q.outcome other := by
    rw [Predicate.outcome_eq pKeyed, Predicate.outcome_eq qKeyed, conflict_renamed related.selection calls,
      verdict_of_renaming types related calls]
  refine ⟨same, ?_⟩
  apply Predicate.step_alongside related pKeyed qKeyed
  · rw [same]
  · intro accepted
    refine ⟨related.first, related.second, related.eligible, ?_⟩
    have admitted : ∀ key, call.value = some key → (Binding.rows s).Admits key := by
      intro key argument
      rw [← related.first]
      exact Predicate.admitted_of_outcome pKeyed accepted argument
    simp only [Predicate.afterCall, related.first, related.second]
    exact after_renamed (size_of_types types) related.selection calls admitted

theorem renaming_run (types : s.keyTypes = t.keyTypes) (keyed : s.hasKey = true) {p q : Predicate}
    (related : Renaming s t p q) {calls others : List Mutation} (renamed : List.Forall₂ (Mutation.Rel Key.Renamed) calls others) :
    p.outcomes calls = q.outcomes others ∧ Renaming s t (p.run calls) (q.run others) := by
  have step : ∀ p q call other, Renaming s t p q → Mutation.Rel Key.Renamed call other →
      p.outcome call = q.outcome other ∧ Renaming s t (p.step call) (q.step other) :=
    fun _ _ _ _ related renamed => renaming_step types keyed related renamed
  obtain ⟨answers, reached⟩ := Predicate.run_alongside step related renamed
  rw [List.forall₂_eq_eq_eq] at answers
  exact ⟨answers, reached⟩

theorem key_type_renamed (types : s.keyTypes = t.keyTypes) {p q : Predicate} (related : Renaming s t p q) :
    p.keyType = q.keyType := by
  simp only [Predicate.keyType, Predicate.schema, related.first, related.second, Binding.schema_rows,
    KeySchema.category, size_of_types types, types]
  rfl

theorem components_of_named {schema : KeySchema} {contents : List (List Component)}
    (fits : ∀ known ∈ contents, known.length = schema.size) :
    (contents.map schema.named).map Key.components = contents := by
  calc
    (contents.map schema.named).map Key.components = contents.map id := by
      rw [List.map_map]
      exact List.map_congr_left fun known member => components_named (fits known member)
    _ = contents := List.map_id contents

theorem names_of_named {schema : KeySchema} {contents : List (List Component)}
    (fits : ∀ known ∈ contents, known.length = schema.size) :
    ∀ key ∈ contents.map schema.named, ∃ row, key = .row row ∧ row.names = schema.names := by
  intro key member
  obtain ⟨known, knownMember, rfl⟩ := List.mem_map.mp member
  exact ⟨_, rfl, names_named (fits known knownMember)⟩

theorem same_keys_of_named {contents : List (List Component)} (fits : ∀ known ∈ contents, known.length = s.size)
    (sameSize : s.size = t.size) {first second : DistinctKeys} (apart : first.toList.Nodup)
    (left : first.toList = contents.map s.named) (right : second.toList = contents.map t.named) :
    SameKeys s t first second := by
  have otherFits : ∀ known ∈ contents, known.length = t.size := fun known member =>
    (fits known member).trans sameSize
  have leftContents : first.toList.map Key.components = contents := by rw [left, components_of_named fits]
  have rightContents : second.toList.map Key.components = contents := by rw [right, components_of_named otherFits]
  refine ⟨?_, ?_, ?_, ?_, ?_⟩
  · rw [DistinctKeys.size_eq, DistinctKeys.size_eq, left, right, List.length_map, List.length_map]
  · rw [left]
    exact names_of_named fits
  · rw [right]
    exact names_of_named otherFits
  · rw [leftContents]
    rw [left] at apart
    exact List.Nodup.of_map _ apart
  · rw [leftContents, rightContents]

theorem renaming_read (sameSize : s.size = t.size) {p q : Predicate} (related : Renaming s t p q) :
    Option.Rel Key.Renamed p.start q.start ∧ Option.Rel Key.Renamed p.finish q.finish ∧
      Option.Rel (SameKeys s t) p.distinctKeys? q.distinctKeys? := by
  obtain ⟨_, _, _, selections⟩ := related
  obtain ⟨binding, eligible, held⟩ := p
  obtain ⟨otherBinding, otherEligible, otherHeld⟩ := q
  cases selections with
  | range lower upper =>
      rw [Predicate.start_range, Predicate.start_range, Predicate.finish_range, Predicate.finish_range]
      exact ⟨lower, upper, .none⟩
  | @distinct contents fits first second left right =>
      refine ⟨.none, .none, .some ?_⟩
      apply same_keys_of_named fits sameSize
      · rw [Predicate.to_list_view]
        exact first.nodup
      · rw [Predicate.to_list_view, left]
      · rw [Predicate.to_list_view, right]

end

theorem names_decide_nothing {s t : KeySchema} (keyed : s.hasKey = true) (compatible : s.isCompatible t = true)
    (options : Predicate.Options) :
    ∃ p q, Predicate.make (.keySchema s) options = .ok p ∧ Predicate.make (.keySchema t) options = .ok q ∧
      ∀ calls others, List.Forall₂ (Mutation.Rel Key.Renamed) calls others →
        p.outcomes calls = q.outcomes others ∧
        (p.run calls).keyType = (q.run others).keyType ∧
        (p.run calls).rangeEligible = (q.run others).rangeEligible ∧
        Option.Rel Key.Renamed (p.run calls).start (q.run others).start ∧
        Option.Rel Key.Renamed (p.run calls).finish (q.run others).finish ∧
        Option.Rel (SameKeys s t) (p.run calls).distinctKeys? (q.run others).distinctKeys? := by
  have types : s.keyTypes = t.keyTypes := (s.is_compatible_iff t).mp compatible
  have other_keyed : t.hasKey = true := t.has_key_iff.mpr (types ▸ s.has_key_iff.mp keyed)
  let p : Predicate := ⟨.rows s, (Binding.rows s).allowsRange options, .range none none⟩
  let q : Predicate := ⟨.rows t, (Binding.rows t).allowsRange options, .range none none⟩
  have eligible : p.rangeEligible = q.rangeEligible := by
    simp only [p, q, Binding.allowsRange, Binding.keyType?, Binding.schema_rows, types]
  have fresh : Renaming s t p q := ⟨rfl, rfl, eligible, .range .none .none⟩
  refine ⟨p, q, if_pos keyed, if_pos other_keyed, ?_⟩
  intro calls others renamed
  obtain ⟨same, related⟩ := renaming_run types keyed fresh renamed
  exact ⟨same, key_type_renamed types related, related.eligible, renaming_read (size_of_types types) related⟩

theorem orders_as_sales :
    let orders : KeySchema := ⟨[⟨"region", .text⟩, ⟨"id", .long⟩]⟩
    let sales : KeySchema := ⟨[⟨"zone", .text⟩, ⟨"number", .long⟩]⟩
    let row (names : List String) : Key := .row (.ofParts names [.text "eu", .long 1])
    let refused : Mutation := .setStart (some (.primitive (.long 1)))
    let calls := [refused, .add (some (row ["c0", "c1"])), .add (some (row ["region", "id"]))]
    let others := [refused, .add (some (row ["x", "y"])), .add (some (row ["id", "region"]))]
    orders.hasKey = true ∧ orders.isCompatible sales = true ∧ List.Forall₂ (Mutation.Rel Key.Renamed) calls others ∧
      ∃ p q, Predicate.make (.keySchema orders) .default = .ok p ∧ Predicate.make (.keySchema sales) .default = .ok q ∧
        p.outcomes calls = q.outcomes others ∧
        Option.Rel (SameKeys orders sales) (p.run calls).distinctKeys? (q.run others).distinctKeys? := by
  intro orders sales row refused calls others
  have keyed : orders.hasKey = true := rfl
  have compatible : orders.isCompatible sales = true := rfl
  have renamed : List.Forall₂ (Mutation.Rel Key.Renamed) calls others :=
    .cons (.setStart (.some (.same _))) (.cons (.add (.some (.rows rfl))) (.cons (.add (.some (.rows rfl))) .nil))
  obtain ⟨p, q, first, second, alike⟩ := names_decide_nothing keyed compatible .default
  obtain ⟨outcomes, _, _, _, _, keys⟩ := alike calls others renamed
  exact ⟨keyed, compatible, renamed, p, q, first, second, outcomes, keys⟩

end RowSelection
