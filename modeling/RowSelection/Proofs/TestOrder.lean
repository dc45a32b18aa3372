import RowSelection.Proofs.History

set_option autoImplicit false

namespace RowSelection

theorem any_is_add_iff {calls : List Mutation} (present : .add none ∉ calls) :
    calls.any Mutation.isAdd = true ↔ addedKeys calls ≠ [] := by
  constructor
  · intro some
    obtain ⟨call, member, adds⟩ := List.any_eq_true.mp some
    exact added_keys_of_is_add present member adds
  · intro added
    obtain ⟨key, member⟩ := List.exists_mem_of_ne_nil _ added
    exact List.any_eq_true.mpr ⟨_, (mem_added_keys calls key).mp member, rfl⟩

theorem conflict_of_follows {binding : Binding} {p : Predicate} {calls : List Mutation}
    (follows : Follows binding p calls) {call : Mutation} (bound : call.isAdd = false) :
    p.selection.conflict? call = if calls.any Mutation.isAdd then some .keysAlreadyAdded else none := by
  rw [follows.selection]
  by_cases added : addedKeys calls = []
  · have free : ¬ calls.any Mutation.isAdd = true := by simpa [any_is_add_iff follows.present] using added
    rw [if_neg free, Selection.of_calls_range added]
    cases call with
    | setStart value => rfl
    | setFinish value => rfl
    | add value => cases bound
  · have some : calls.any Mutation.isAdd = true := (any_is_add_iff follows.present).mpr added
    rw [if_pos some, Selection.of_calls_distinct added]
    cases call with
    | setStart value => rfl
    | setFinish value => rfl
    | add value => cases bound

theorem outcome_by_tests_in_order {origin : Origin} {options : Predicate.Options} {p : Predicate}
    (made : Predicate.make origin options = .ok p) (mutations : List Mutation) (value : Value) :
    let q := p.run mutations
    let keysAdded := (p.acceptedCalls mutations).any Mutation.isAdd
    (∀ bound, bound = Mutation.setStart value ∨ bound = .setFinish value →
      q.outcome bound =
        if keysAdded then .error .keysAlreadyAdded
        else
          match value with
          | none => .ok ()
          | some key => if p.rangeEligible then p.binding.verdict key else .error .textRange) ∧
    q.outcome (.add value) =
      if q.start ≠ none ∨ q.finish ≠ none then .error .boundAlreadySet
      else
        match value with
        | none => .error .missingValue
        | some key => p.binding.verdict key := by
  intro q keysAdded
  have follows : Follows p.binding q (p.acceptedCalls mutations) := follows_run made mutations
  have eligible : q.rangeEligible = p.rangeEligible :=
    Predicate.range_eligible_run (Predicate.fresh_of_make made).1 mutations
  constructor
  · intro bound side
    have tests : bound.isAdd = false ∧ q.verdict bound = p.boundVerdict value := by
      rcases side with rfl | rfl <;> exact ⟨rfl, bound_verdict_congr follows.bound eligible value⟩
    rw [Predicate.outcome_eq follows.keyed, conflict_of_follows follows tests.1, tests.2]
    by_cases added : keysAdded = true
    · rw [if_pos added, if_pos added]
    · rw [if_neg added, if_neg added]
      cases value <;> rfl
  · rw [Predicate.outcome_eq follows.keyed, Predicate.conflict_of_add]
    by_cases set : q.start ≠ none ∨ q.finish ≠ none
    · rw [if_pos set, if_pos set]
    · rw [if_neg set, if_neg set]
      cases value with
      | none => rfl
      | some key => rw [← follows.bound]; rfl

theorem strict_text_tests :
    let p : Predicate := ⟨.tag .text, false, .range none none⟩
    let calls := [.setStart (some (.primitive (.text "a"))), .setStart none, .add (some (.primitive (.text "a")))]
    Predicate.make (.keyType .text) ⟨true⟩ = .ok p ∧
      (p.run calls).outcome (.setStart none) = .error .keysAlreadyAdded ∧
      (p.run calls).outcome (.add none) = .error .missingValue := by
  intro p calls
  have made : Predicate.make (.keyType .text) ⟨true⟩ = .ok p := rfl
  obtain ⟨bound, added⟩ := outcome_by_tests_in_order made calls none
  exact ⟨made, (bound _ (.inl rfl)).trans rfl, added.trans rfl⟩

end RowSelection
