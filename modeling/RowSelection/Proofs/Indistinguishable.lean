import RowSelection.Predicate.Condition
import RowSelection.Proofs.Simulation

set_option autoImplicit false

namespace RowSelection

inductive Selection.SameContents : Selection → Selection → Prop
  | range (start finish : Value) : SameContents (.range start finish) (.range start finish)
  | distinct {first second : KeySet} (order : first.toList.Perm second.toList) :
      SameContents (.distinct first) (.distinct second)

theorem Selection.SameContents.refl (selection : Selection) : selection.SameContents selection := by
  cases selection with
  | range start finish => exact .range start finish
  | distinct keys => exact .distinct (.refl _)

inductive DistinctKeys.Same : DistinctKeys → DistinctKeys → Prop
  | shared {first second : KeySet} (order : first.toList.Perm second.toList) : Same (.shared first) (.shared second)
  | copied {first second : List Key} (order : first.Perm second) : Same (.copied first) (.copied second)

-- Equal, but for the order in which keys are listed.
inductive Condition.Same : Condition Key → Condition Key → Prop
  | all : Same .all .all
  | range (start finish : Bound Key) : Same (.range start finish) (.range start finish)
  | distinct {first second : List Key} (order : first.Perm second) : Same (.distinct first) (.distinct second)

theorem Condition.Same.refl (condition : Condition Key) : condition.Same condition := by
  cases condition with
  | all => exact .all
  | range start finish => exact .range start finish
  | distinct keys => exact .distinct (.refl keys)

namespace Predicate

structure Alike (p q : Predicate) : Prop where
  binding : p.binding = q.binding
  schema : p.schema = q.schema
  variant : p.variant = q.variant
  keyType : p.keyType = q.keyType
  eligible : p.rangeEligible = q.rangeEligible
  start : p.start = q.start
  finish : p.finish = q.finish
  keys : Option.Rel DistinctKeys.Same p.distinctKeys? q.distinctKeys?
  condition : p.condition.Same q.condition

def Indistinguishable (p q : Predicate) : Prop :=
  ∀ later, p.outcomes later = q.outcomes later ∧ (p.run later).Alike (q.run later)

structure Reordered (p q : Predicate) : Prop where
  keyed : p.schema.hasKey = true
  binding : p.binding = q.binding
  eligible : p.rangeEligible = q.rangeEligible
  selection : p.selection.SameContents q.selection

theorem Reordered.both_keyed {p q : Predicate} (reordered : p.Reordered q) :
    p.schema.hasKey = true ∧ q.schema.hasKey = true := by
  refine ⟨reordered.keyed, ?_⟩
  rw [schema, ← reordered.binding]
  exact reordered.keyed

theorem conflict_reordered {first second : Selection} (contents : first.SameContents second) (call : Mutation) :
    first.conflict? call = second.conflict? call := by
  cases contents with
  | range start finish => rfl
  | distinct order => cases call <;> rfl

theorem insert_reordered {first second : KeySet} (order : first.toList.Perm second.toList) (key : Key) :
    (first.insert key).toList.Perm (second.insert key).toList := by
  by_cases present : key ∈ first.toList
  · rw [KeySet.insert_of_mem present, KeySet.insert_of_mem (order.mem_iff.mp present)]
    exact order
  · rw [KeySet.to_list_insert_of_not_mem present, KeySet.to_list_insert_of_not_mem (mt order.mem_iff.mpr present)]
    exact order.append_right [key]

theorem after_reordered {first second : Selection} (contents : first.SameContents second) (binding : Binding)
    (call : Mutation) : (first.after binding call).SameContents (second.after binding call) := by
  cases contents with
  | range start finish =>
      cases call with
      | setStart value => exact .range _ _
      | setFinish value => exact .range _ _
      | add value =>
          cases value with
          | none => exact .range _ _
          | some key => exact .distinct (.refl _)
  | distinct order =>
      cases call with
      | setStart value => exact .distinct order
      | setFinish value => exact .distinct order
      | add value =>
          cases value with
          | none => exact .distinct order
          | some key => exact .distinct (insert_reordered order _)

theorem step_reordered (p q : Predicate) (call other : Mutation) (reordered : p.Reordered q) (same : call = other) :
    p.outcome call = q.outcome other ∧ (p.step call).Reordered (q.step other) := by
  subst same
  obtain ⟨firstKeyed, secondKeyed⟩ := reordered.both_keyed
  have answer : p.outcome call = q.outcome call := by
    rw [outcome_eq firstKeyed, outcome_eq secondKeyed, conflict_reordered reordered.selection,
      verdict_congr reordered.binding reordered.eligible]
  refine ⟨answer, ?_⟩
  apply step_alongside reordered firstKeyed secondKeyed
  · rw [answer]
  · intro accepted
    refine ⟨reordered.keyed, reordered.binding, reordered.eligible, ?_⟩
    simp only [afterCall, ← reordered.binding]
    exact after_reordered reordered.selection p.binding call

theorem view_reordered {p q : Predicate} (binding : p.binding = q.binding) {first second : KeySet}
    (order : first.toList.Perm second.toList) : (p.view first).Same (q.view second) := by
  have variant : p.variant = q.variant := congrArg Binding.variant binding
  rw [view, view, returned, returned, variant]
  by_cases immutable : q.variant.isImmutable = true
  · rw [if_pos immutable, if_pos immutable]
    exact .shared order
  · rw [if_neg immutable, if_neg immutable]
    exact .copied (order.map _)

theorem of_keys_reordered {first second : List Key} (order : first.Perm second) :
    (Condition.ofKeys first).Same (Condition.ofKeys second) := by
  by_cases empty : first = []
  · subst empty
    rw [List.nil_perm.mp order]
    exact .all
  · have filled : second ≠ [] := fun none => empty (List.perm_nil.mp (none ▸ order))
    rw [Condition.of_keys_of_ne_nil empty, Condition.of_keys_of_ne_nil filled]
    exact .distinct order

theorem alike_of_reordered {p q : Predicate} (reordered : p.Reordered q) : p.Alike q := by
  obtain ⟨_, sameBinding, sameEligible, contents⟩ := reordered
  obtain ⟨binding, eligible, held⟩ := p
  obtain ⟨otherBinding, otherEligible, otherHeld⟩ := q
  subst sameBinding sameEligible
  cases contents with
  | range start finish => exact ⟨rfl, rfl, rfl, rfl, rfl, rfl, rfl, .none, .refl _⟩
  | distinct order =>
      refine ⟨rfl, rfl, rfl, rfl, rfl, rfl, rfl, .some (view_reordered rfl order), of_keys_reordered ?_⟩
      rw [DistinctKeys.into_vec_eq, DistinctKeys.into_vec_eq, to_list_view, to_list_view]
      exact order

theorem indistinguishable_of_reordered {p q : Predicate} (reordered : p.Reordered q) : p.Indistinguishable q := by
  intro later
  have same : List.Forall₂ Eq later later := by rw [List.forall₂_eq_eq_eq]
  obtain ⟨answers, reached⟩ := run_alongside step_reordered reordered same
  rw [List.forall₂_eq_eq_eq] at answers
  exact ⟨answers, alike_of_reordered reached⟩

end Predicate
end RowSelection
