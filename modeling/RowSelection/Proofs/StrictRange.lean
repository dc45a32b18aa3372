import RowSelection.Proofs.Simulation
import RowSelection.Proofs.TestOrder

set_option autoImplicit false

namespace RowSelection

def Mutation.setsBound : Mutation → Bool
  | .setStart value => value.isSome
  | .setFinish value => value.isSome
  | .add _ => false

theorem Binding.allows_range_eq_false_iff (binding : Binding) (options : Predicate.Options) :
    binding.allowsRange options = false ↔ options.strictTextRange = true ∧ .text ∈ binding.schema.keyTypes := by
  have sole (type : KeyType) : KeyType.text ∈ [type] ↔ type = .text := by
    rw [List.mem_singleton, eq_comm]
  cases binding with
  | tag type =>
      rw [key_types_tag, sole]
      simp [allowsRange, keyType?]
  | host type =>
      rw [show (host type).schema.keyTypes = [type] from rfl, sole]
      simp [allowsRange, keyType?]
  | rows schema => simp [allowsRange, keyType?]

theorem is_add_of_sets_bound {call : Mutation} (sets : call.setsBound = true) : call.isAdd = false := by
  cases call with
  | setStart value => rfl
  | setFinish value => rfl
  | add value => cases sets

namespace Predicate

theorem verdict_of_sets_bound {p : Predicate} (ineligible : p.rangeEligible = false) {call : Mutation}
    (sets : call.setsBound = true) : p.verdict call = .error .textRange := by
  have refused : ∀ key, p.boundVerdict (some key) = .error .textRange := by
    intro key
    rw [boundVerdict, ineligible]
    rfl
  cases call with
  | setStart value =>
      cases value with
      | none => cases sets
      | some key => exact refused key
  | setFinish value =>
      cases value with
      | none => cases sets
      | some key => exact refused key
  | add value => cases sets

theorem condition_of_unset {p : Predicate} (start : p.start = none) (finish : p.finish = none) (lower upper : Bound Key) :
    p.condition ≠ .range lower upper := by
  cases held : p.selection with
  | range first last =>
      obtain ⟨firstRead, lastRead, _, condition⟩ := read_range held
      rw [condition, ← firstRead, ← lastRead, start, finish]
      exact nofun
  | distinct keys =>
      obtain ⟨_, _, _, condition⟩ := read_distinct held
      rw [condition]
      cases keys.toList <;> exact nofun

-- A predicate on which bounds cannot be set, and one that has not been asked to set any.
structure Unbounded (strict lenient : Predicate) : Prop where
  keyed : strict.schema.hasKey = true
  ineligible : strict.rangeEligible = false
  binding : strict.binding = lenient.binding
  selection : strict.selection = lenient.selection
  start : strict.start = none
  finish : strict.finish = none

section
variable {strict lenient : Predicate}

theorem Unbounded.other_keyed (related : Unbounded strict lenient) : lenient.schema.hasKey = true := by
  rw [schema, ← related.binding]
  exact related.keyed

theorem verdict_of_kept (binding : strict.binding = lenient.binding) {call : Mutation} (kept : call.setsBound = false) :
    strict.verdict call = lenient.verdict call := by
  cases call with
  | setStart value =>
      cases value with
      | none => rfl
      | some key => cases kept
  | setFinish value =>
      cases value with
      | none => rfl
      | some key => cases kept
  | add value => exact member_verdict_congr binding value

theorem unset_after {p : Predicate} (start : p.start = none) (finish : p.finish = none) {call : Mutation}
    (kept : call.setsBound = false) : (p.afterCall call).start = none ∧ (p.afterCall call).finish = none := by
  obtain ⟨binding, eligible, selection⟩ := p
  cases selection with
  | range first last =>
      rw [start_range] at start
      rw [finish_range] at finish
      cases start
      cases finish
      cases call with
      | setStart value =>
          cases value with
          | none => exact ⟨rfl, rfl⟩
          | some key => cases kept
      | setFinish value =>
          cases value with
          | none => exact ⟨rfl, rfl⟩
          | some key => cases kept
      | add value => cases value <;> exact ⟨rfl, rfl⟩
  | distinct keys =>
      cases call with
      | setStart value => exact ⟨rfl, rfl⟩
      | setFinish value => exact ⟨rfl, rfl⟩
      | add value => cases value <;> exact ⟨rfl, rfl⟩

theorem outcome_of_kept (related : Unbounded strict lenient) {call : Mutation} (kept : call.setsBound = false) :
    strict.outcome call = lenient.outcome call := by
  rw [outcome_eq related.keyed, outcome_eq related.other_keyed, related.selection, verdict_of_kept related.binding kept]

theorem unbounded_step (related : Unbounded strict lenient) {call : Mutation} (kept : call.setsBound = false) :
    Unbounded (strict.step call) (lenient.step call) := by
  have same := outcome_of_kept related kept
  apply step_alongside related related.keyed related.other_keyed
  · rw [same]
  · intro accepted
    obtain ⟨start, finish⟩ := unset_after related.start related.finish kept
    refine ⟨related.keyed, related.ineligible, related.binding, ?_, start, finish⟩
    simp only [afterCall, related.binding, related.selection]

theorem outcome_of_sets_bound (related : Unbounded strict lenient) {call : Mutation} (sets : call.setsBound = true) :
    strict.outcome call = .error ((strict.selection.conflict? call).getD .textRange) := by
  rw [outcome_eq related.keyed, verdict_of_sets_bound related.ineligible sets]
  cases strict.selection.conflict? call <;> rfl

-- What the strict predicate refuses, the other one is not asked.
theorem unbounded_run (related : Unbounded strict lenient) (calls : List Mutation) :
    Unbounded (strict.run calls) (lenient.run (calls.filter fun call => !call.setsBound)) := by
  induction calls generalizing strict lenient with
  | nil => exact related
  | cons call rest ih =>
      by_cases sets : call.setsBound = true
      · have refused : strict.outcome call ≠ .ok () := by
          rw [outcome_of_sets_bound related sets]
          exact nofun
        have unchanged : strict.step call = strict := step_of_refused related.keyed refused
        have rest := ih related
        rw [List.filter_cons_of_neg (by simp [sets])]
        change Unbounded ((strict.step call).run _) _
        rwa [unchanged]
      · have kept : call.setsBound = false := by simpa using sets
        rw [List.filter_cons_of_pos (by simp [kept])]
        exact ih (unbounded_step related kept)

theorem unbounded_read (related : Unbounded strict lenient) :
    strict.start = lenient.start ∧ strict.finish = lenient.finish ∧ strict.distinctKeys? = lenient.distinctKeys? ∧
      strict.condition = lenient.condition := by
  obtain ⟨_, _, sameBinding, sameSelection, _, _⟩ := related
  obtain ⟨binding, eligible, selection⟩ := strict
  obtain ⟨otherBinding, otherEligible, otherSelection⟩ := lenient
  subst sameBinding sameSelection
  exact ⟨rfl, rfl, rfl, rfl⟩

end

end Predicate

theorem strict_mode_takes_text_ranges {origin : Origin} {options : Predicate.Options} {p : Predicate}
    (made : Predicate.make origin options = .ok p) :
    (∀ calls, (p.run calls).rangeEligible = false ↔
      options.strictTextRange = true ∧ .text ∈ (p.run calls).schema.keyTypes) ∧
    ∃ strict lenient, Predicate.make origin ⟨true⟩ = .ok strict ∧ Predicate.make origin ⟨false⟩ = .ok lenient ∧
      strict.schema = p.schema ∧ lenient.schema = p.schema ∧
      (.text ∉ p.schema.keyTypes → ∀ calls,
        strict.outcomes calls = lenient.outcomes calls ∧ strict.run calls = lenient.run calls) ∧
      (.text ∈ p.schema.keyTypes → ∀ calls,
        let s := strict.run calls
        let l := lenient.run (calls.filter fun call => !call.setsBound)
        (∀ call, call.setsBound = true → s.outcome call =
          .error (if (strict.acceptedCalls calls).any Mutation.isAdd then .keysAlreadyAdded else .textRange)) ∧
        (∀ call, call.setsBound = false → s.outcome call = l.outcome call) ∧
        s.start = none ∧ s.finish = none ∧ (∀ lower upper, s.condition ≠ .range lower upper) ∧
        s.start = l.start ∧ s.finish = l.finish ∧ s.distinctKeys? = l.distinctKeys? ∧ s.condition = l.condition) := by
  obtain ⟨keyed, _, eligible, remade⟩ := Predicate.fresh_of_make made
  constructor
  · intro calls
    rw [Predicate.range_eligible_run keyed, Predicate.schema, Predicate.binding_run, eligible]
    exact p.binding.allows_range_eq_false_iff options
  · let strict : Predicate := ⟨p.binding, p.binding.allowsRange ⟨true⟩, .range none none⟩
    let lenient : Predicate := ⟨p.binding, p.binding.allowsRange ⟨false⟩, .range none none⟩
    have law := p.binding.allows_range_eq_false_iff ⟨true⟩
    refine ⟨strict, lenient, remade _, remade _, rfl, rfl, ?_, ?_⟩
    · intro noText calls
      have allowed : p.binding.allowsRange ⟨true⟩ = true := by
        rw [← Bool.not_eq_false, law]
        exact fun both => noText both.2
      have same : strict = lenient := by
        simp only [strict, lenient, allowed]
        rfl
      rw [same]
      exact ⟨rfl, rfl⟩
    · intro text calls s l
      have fresh : Predicate.Unbounded strict lenient := ⟨keyed, law.mpr ⟨rfl, text⟩, rfl, rfl, rfl, rfl⟩
      have related : Predicate.Unbounded s l := Predicate.unbounded_run fresh calls
      have follows : Follows strict.binding s (strict.acceptedCalls calls) := follows_run (remade ⟨true⟩) calls
      refine ⟨?_, fun call => Predicate.outcome_of_kept related, related.start, related.finish,
        Predicate.condition_of_unset related.start related.finish, Predicate.unbounded_read related⟩
      intro call sets
      rw [Predicate.outcome_of_sets_bound related sets, conflict_of_follows follows (is_add_of_sets_bound sets)]
      by_cases added : (strict.acceptedCalls calls).any Mutation.isAdd = true
      · rw [if_pos added, if_pos added]
        rfl
      · rw [if_neg added, if_neg added]
        rfl

theorem orders_without_ranges :
    let kept := Orders.calls.filter fun call => !call.setsBound
    Predicate.make (.keySchema Orders.key) .default = .ok Orders.predicate ∧ .text ∈ Orders.key.keyTypes ∧
      ∃ strict lenient, Predicate.make (.keySchema Orders.key) ⟨true⟩ = .ok strict ∧
        Predicate.make (.keySchema Orders.key) ⟨false⟩ = .ok lenient ∧
        (strict.run Orders.calls).outcome (.setStart (some (Orders.row ["a", "b"]))) = .error .keysAlreadyAdded ∧
        (strict.run Orders.calls).condition = (lenient.run kept).condition ∧
        (strict.run Orders.calls).outcome (.add none) = (lenient.run kept).outcome (.add none) := by
  intro kept
  have made : Predicate.make (.keySchema Orders.key) .default = .ok Orders.predicate := rfl
  have text : .text ∈ Orders.key.keyTypes := by decide
  obtain ⟨_, strict, lenient, strictMade, lenientMade, _, _, _, withText⟩ := strict_mode_takes_text_ranges made
  obtain ⟨refused, kept, _, _, _, _, _, _, condition⟩ := withText text Orders.calls
  have bound : strict = ⟨.rows Orders.key, false, .range none none⟩ := Except.ok.inj (strictMade.symm.trans rfl)
  have added : (strict.acceptedCalls Orders.calls).any Mutation.isAdd = true := by
    rw [bound]
    rfl
  have answer := refused (.setStart (some (Orders.row ["a", "b"]))) rfl
  rw [if_pos added] at answer
  exact ⟨made, text, strict, lenient, strictMade, lenientMade, answer, condition, kept (.add none) rfl⟩

end RowSelection
