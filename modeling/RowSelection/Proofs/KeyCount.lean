import Mathlib.Data.List.Dedup
import RowSelection.Proofs.HeldForms
import RowSelection.Proofs.History

set_option autoImplicit false

namespace RowSelection

theorem admitted_of_added {fresh p : Predicate} {calls : List Mutation} (keeps : Keeps fresh p calls) {key : Key}
    (added : key ∈ addedKeys calls) : fresh.binding.Admits key :=
  keeps.admitted _ ((mem_added_keys calls key).mp added) key rfl

theorem components_of_members {binding : Binding} {keys : KeySet} {added : List Key}
    (held : keys = KeySet.ofList (added.map binding.memberForm)) (admitted : ∀ key ∈ added, binding.Admits key) :
    (keys.toList.map Key.components).Perm (added.map Key.components).dedup := by
  have member : ∀ key, key ∈ keys.toList ↔ ∃ given ∈ added, binding.memberForm given = key := by
    intro key
    rw [held, KeySet.mem_of_list, List.mem_map]
  have isMember : ∀ key ∈ keys.toList, binding.IsMember key := by
    intro key known
    obtain ⟨given, givenAdded, rfl⟩ := (member key).mp known
    exact Binding.is_member_member_form (admitted given givenAdded)
  have apart : (keys.toList.map Key.components).Nodup := by
    apply List.Nodup.map_on ?_ keys.nodup
    intro first firstMember second secondMember same
    exact Binding.eq_of_components (isMember first firstMember) (isMember second secondMember) same
  rw [List.perm_ext_iff_of_nodup apart (List.nodup_dedup _)]
  intro components
  rw [List.mem_dedup, List.mem_map, List.mem_map]
  constructor
  · rintro ⟨key, known, rfl⟩
    obtain ⟨given, givenAdded, rfl⟩ := (member key).mp known
    exact ⟨given, givenAdded, (Binding.components_member_form (admitted given givenAdded)).symm⟩
  · rintro ⟨given, givenAdded, rfl⟩
    refine ⟨binding.memberForm given, (member _).mpr ⟨given, givenAdded, rfl⟩, ?_⟩
    exact Binding.components_member_form (admitted given givenAdded)

theorem unwrapped_members {binding : Binding} {type : KeyType} (typed : binding.keyType? = some type) {keys : KeySet}
    {added : List Key} (held : keys = KeySet.ofList (added.map binding.memberForm))
    (admitted : ∀ key ∈ added, binding.Admits key) : keys.toList.Perm (added.map Key.unwrapped).dedup := by
  have forms : added.map binding.memberForm = added.map Key.unwrapped :=
    List.map_congr_left fun key member => Binding.member_form_eq_unwrapped typed (admitted key member)
  rw [List.perm_ext_iff_of_nodup keys.nodup (List.nodup_dedup _)]
  intro key
  rw [held, KeySet.mem_of_list, forms, List.mem_dedup]

-- What the set of a run holds: members of the binding, one form for each of the keys that were added.
theorem set_of_run {origin : Origin} {options : Predicate.Options} {p : Predicate}
    (made : Predicate.make origin options = .ok p) {mutations : List Mutation} {keys : KeySet}
    (held : (p.run mutations).selection = .distinct keys) :
    keys.toList ≠ [] ∧ (∀ key ∈ keys.toList, p.binding.IsMember key) ∧
      keys = KeySet.ofList ((addedKeys (p.acceptedCalls mutations)).map p.binding.memberForm) := by
  have settled := (keeps_run made mutations).held
  rw [held] at settled
  cases settled with
  | distinct filled members =>
      refine ⟨filled, members, ?_⟩
      have selected := held.symm.trans (follows_run made mutations).selection
      by_cases none : addedKeys (p.acceptedCalls mutations) = []
      · rw [Selection.of_calls_range none] at selected
        cases selected
      · rw [Selection.of_calls_distinct none] at selected
        exact Selection.distinct.inj selected

theorem set_counts_contents {origin : Origin} {options : Predicate.Options} {p : Predicate}
    (made : Predicate.make origin options = .ok p) (mutations : List Mutation) {view : DistinctKeys}
    (shown : (p.run mutations).distinctKeys? = some view) :
    let q := p.run mutations
    let added := addedKeys (p.acceptedCalls mutations)
    view.toList ≠ [] ∧ view.toList.Nodup ∧ view.intoVec.Perm view.toList ∧ view.size = view.toList.length ∧
    view.isEmpty = false ∧
    (∀ value, view.contains value = true ↔ ∃ key ∈ view.toList, value = some key) ∧
    (∃ listed, q.condition = .distinct listed ∧ listed.Perm view.toList ∧ listed.Perm view.intoVec) ∧
    (∀ refused, q.acceptedCalls refused = [] → (q.run refused).distinctKeys? = some view) ∧
    (∀ schema, p.binding = .rows schema →
      view.size = (added.map Key.components).dedup.length ∧
      ∀ key ∈ view.toList, ∃ row, key = .row row ∧ row.names = schema.names) ∧
    (∀ type, p.binding.keyType? = some type → view.size = (added.map Key.unwrapped).dedup.length) ∧
    (p.stored.run (mutations.map Mutation.stored)).distinctKeys? = some view.stored ∧ view.stored.size = view.size ∧
    ∀ value : Value, view.stored.contains (value.map Key.stored) = view.contains value := by
  intro q added
  obtain ⟨keys, held, rfl⟩ := Predicate.distinct_of_shown shown
  obtain ⟨filled, members, contents⟩ := set_of_run made held
  have admitted : ∀ key ∈ added, p.binding.Admits key := fun key => admitted_of_added (keeps_run made mutations)
  have size : (q.view keys).size = keys.toList.length := by
    rw [DistinctKeys.size_eq, Predicate.to_list_view]
  rw [DistinctKeys.into_vec_eq, Predicate.to_list_view]
  refine ⟨filled, keys.nodup, .refl _, size, ?_, ?_, ?_, ?_, ?_, ?_, ?_, StoredPredicate.size_stored _,
    StoredPredicate.contains_stored _⟩
  · rw [← Bool.not_eq_true, DistinctKeys.is_empty_iff, Predicate.to_list_view]
    exact filled
  · intro value
    rw [DistinctKeys.contains_iff, Predicate.to_list_view]
  · obtain ⟨_, _, _, condition⟩ := Predicate.read_distinct held
    exact ⟨keys.toList, condition.trans (Condition.of_keys_of_ne_nil filled), .refl _, .refl _⟩
  · intro refused none
    rw [Predicate.run_of_no_accepted none]
    exact shown
  · intro schema bound
    constructor
    · rw [size, ← List.length_map, (components_of_members contents admitted).length_eq]
    · intro key member
      exact Binding.row_of_is_member (bound ▸ members key member)
  · intro type typed
    rw [size, (unwrapped_members typed contents admitted).length_eq]
  · rw [(StoredPredicate.run_reads p mutations).distinctKeys, shown]
    rfl

theorem orders_counted :
    Predicate.make (.keySchema Orders.key) .default = .ok Orders.predicate ∧
      ∃ view, (Orders.predicate.run Orders.calls).distinctKeys? = some view ∧ view.size = 1 ∧
        ∀ key ∈ view.toList, ∃ row, key = .row row ∧ row.names = ["region", "id"] := by
  have made : Predicate.make (.keySchema Orders.key) .default = .ok Orders.predicate := rfl
  have shown : (Orders.predicate.run Orders.calls).distinctKeys? =
      some ((Orders.predicate.run Orders.calls).view (KeySet.ofList [Orders.row ["region", "id"]])) := rfl
  have accepted : addedKeys (Orders.predicate.acceptedCalls Orders.calls) =
      [Orders.row ["c0", "c1"], Orders.row ["region", "id"]] := rfl
  obtain ⟨_, _, _, _, _, _, _, _, rows, _⟩ := set_counts_contents made Orders.calls shown
  obtain ⟨counted, named⟩ := rows Orders.key rfl
  rw [accepted] at counted
  exact ⟨made, _, shown, counted.trans (by decide), named⟩

end RowSelection
