import RowSelection.Predicate.Condition
import RowSelection.Proofs.Verdict

set_option autoImplicit false

namespace RowSelection

def Mutation.value : Mutation → Value
  | .setStart value => value
  | .setFinish value => value
  | .add value => value

namespace Selection

-- Keys stand in the way of bounds and bounds in the way of keys, whatever the argument is.
def conflict? : Selection → Mutation → Option PredicateError
  | .distinct _, .setStart _ => some .keysAlreadyAdded
  | .distinct _, .setFinish _ => some .keysAlreadyAdded
  | .distinct _, .add _ => none
  | .range _ _, .setStart _ => none
  | .range _ _, .setFinish _ => none
  | .range start finish, .add _ => if start = none ∧ finish = none then none else some .boundAlreadySet

def after (binding : Binding) : Selection → Mutation → Selection
  | .range _ finish, .setStart value => .range (value.map binding.boundForm) finish
  | .range start _, .setFinish value => .range start (value.map binding.boundForm)
  | .range _ _, .add (some key) => .distinct (KeySet.empty.insert (binding.memberForm key))
  | .distinct keys, .add (some key) => .distinct (keys.insert (binding.memberForm key))
  | selection, _ => selection

end Selection

theorem conflict_error {selection : Selection} {call : Mutation} {error : PredicateError}
    (conflict : selection.conflict? call = some error) : error = .keysAlreadyAdded ∨ error = .boundAlreadySet := by
  cases selection with
  | distinct keys => cases call <;> cases conflict <;> exact .inl rfl
  | range start finish =>
      cases call with
      | setStart value => cases conflict
      | setFinish value => cases conflict
      | add value => cases start <;> cases finish <;> cases conflict <;> exact .inr rfl

namespace Predicate

def boundVerdict (p : Predicate) : Value → Except PredicateError Unit
  | none => .ok ()
  | some key => if p.rangeEligible then p.binding.verdict key else .error .textRange

def memberVerdict (p : Predicate) : Value → Except PredicateError Unit
  | none => .error .missingValue
  | some key => p.binding.verdict key

def verdict (p : Predicate) : Mutation → Except PredicateError Unit
  | .setStart value => p.boundVerdict value
  | .setFinish value => p.boundVerdict value
  | .add value => p.memberVerdict value

theorem accept_bound_eq {p : Predicate} (keyed : p.schema.hasKey = true) (value : Value) :
    p.acceptBound value = (p.boundVerdict value).map fun _ => value.map p.binding.boundForm := by
  cases value with
  | none => rfl
  | some key =>
      by_cases eligible : p.rangeEligible
      · rw [acceptBound, boundVerdict, if_pos eligible, if_pos eligible, Binding.accept_eq keyed]
        cases p.binding.verdict key <;> rfl
      · rw [acceptBound, boundVerdict, if_neg eligible, if_neg eligible]
        rfl

theorem accept_member_some {p : Predicate} (keyed : p.schema.hasKey = true) (key : Key) :
    p.acceptMember (some key) = (p.binding.verdict key).map fun _ => p.binding.memberForm key := by
  rw [acceptMember, Binding.accept_eq keyed]
  by_cases admitted : p.binding.Admits key
  · rw [Binding.verdict_ok_iff.mpr admitted]
    change (p.binding.canonical (p.binding.boundForm key)).mapError PredicateError.rowMismatch = _
    rw [Binding.canonical_bound_form keyed admitted]
    rfl
  · rw [Binding.verdict, if_neg admitted]
    rfl

theorem conflict_of_bound (p : Predicate) {call : Mutation} {value : Value}
    (bound : call = .setStart value ∨ call = .setFinish value) :
    p.selection.conflict? call = if p.distinctKeys? ≠ none then some .keysAlreadyAdded else none := by
  cases held : p.selection with
  | range start finish =>
      obtain ⟨_, _, hidden, _⟩ := read_range held
      rw [hidden]
      rcases bound with rfl | rfl <;> rfl
  | distinct keys =>
      obtain ⟨_, _, shown, _⟩ := read_distinct held
      rw [shown]
      rcases bound with rfl | rfl <;> rfl

theorem conflict_of_add (p : Predicate) (value : Value) :
    p.selection.conflict? (.add value) =
      if p.start ≠ none ∨ p.finish ≠ none then some .boundAlreadySet else none := by
  cases held : p.selection with
  | range start finish =>
      obtain ⟨startRead, finishRead, _⟩ := read_range held
      rw [startRead, finishRead]
      cases start <;> cases finish <;> simp [Selection.conflict?]
  | distinct keys =>
      obtain ⟨startRead, finishRead, _⟩ := read_distinct held
      simp [startRead, finishRead, Selection.conflict?]

theorem apply_of_conflict {p : Predicate} {call : Mutation} {error : PredicateError}
    (conflict : p.selection.conflict? call = some error) : p.apply call = .error error := by
  obtain ⟨binding, eligible, selection⟩ := p
  cases selection with
  | distinct keys =>
      cases call <;> cases conflict <;> rfl
  | range start finish =>
      cases call with
      | setStart value => cases conflict
      | setFinish value => cases conflict
      | add value =>
          cases start <;> cases finish <;> cases conflict <;> rfl

theorem apply_of_free {p : Predicate} (keyed : p.schema.hasKey = true) {call : Mutation}
    (free : p.selection.conflict? call = none) :
    p.apply call = (p.verdict call).map fun _ => { p with selection := p.selection.after p.binding call } := by
  obtain ⟨binding, eligible, selection⟩ := p
  cases call with
  | setStart value =>
      cases selection with
      | distinct keys => cases free
      | range start finish =>
          simp only [apply, setStart, accept_bound_eq keyed, verdict, Selection.after]
          cases boundVerdict _ value <;> rfl
  | setFinish value =>
      cases selection with
      | distinct keys => cases free
      | range start finish =>
          simp only [apply, setFinish, accept_bound_eq keyed, verdict, Selection.after]
          cases boundVerdict _ value <;> rfl
  | add value =>
      cases value with
      | none =>
          cases selection with
          | distinct keys => rfl
          | range start finish =>
              cases start <;> cases finish <;> cases free
              rfl
      | some key =>
          cases selection with
          | distinct keys =>
              simp only [apply, add, openSet, accept_member_some keyed, verdict, memberVerdict, Selection.after]
              cases binding.verdict key <;> rfl
          | range start finish =>
              cases start <;> cases finish <;> cases free
              simp only [apply, add, openSet, accept_member_some keyed, verdict, memberVerdict, Selection.after]
              cases binding.verdict key <;> rfl

theorem apply_ok_iff {p : Predicate} (keyed : p.schema.hasKey = true) (call : Mutation) (q : Predicate) :
    p.apply call = .ok q ↔
      p.selection.conflict? call = none ∧ p.verdict call = .ok () ∧
        q = { p with selection := p.selection.after p.binding call } := by
  cases free : p.selection.conflict? call with
  | some error => simp [apply_of_conflict free]
  | none =>
      rw [apply_of_free keyed free]
      cases p.verdict call <;> simp [Except.map, eq_comm]

theorem verdict_of_refused {p : Predicate} (keyed : p.schema.hasKey = true) {call : Mutation} {error : PredicateError}
    (free : p.selection.conflict? call = none) (refused : p.apply call = .error error) : p.verdict call = .error error := by
  rw [apply_of_free keyed free] at refused
  cases verdict : p.verdict call with
  | ok done =>
      rw [verdict] at refused
      cases refused
  | error found =>
      rw [verdict] at refused
      cases refused
      rfl

def outcome (p : Predicate) (call : Mutation) : Except PredicateError Unit :=
  (p.apply call).map fun _ => ()

theorem outcome_eq {p : Predicate} (keyed : p.schema.hasKey = true) (call : Mutation) :
    p.outcome call =
      match p.selection.conflict? call with
      | some error => .error error
      | none => p.verdict call := by
  unfold outcome
  cases free : p.selection.conflict? call with
  | some error => rw [apply_of_conflict free]; rfl
  | none =>
      rw [apply_of_free keyed free]
      cases p.verdict call <;> rfl

theorem step_eq {p : Predicate} (keyed : p.schema.hasKey = true) (call : Mutation) :
    p.step call =
      match p.outcome call with
      | .ok () => { p with selection := p.selection.after p.binding call }
      | .error _ => p := by
  cases made : p.apply call with
  | error error => rw [step_of_error made, outcome, made]; rfl
  | ok q =>
      obtain ⟨_, _, rfl⟩ := (apply_ok_iff keyed call q).mp made
      rw [step_of_ok made, outcome, made]
      rfl

theorem bound_verdict_ok_iff (p : Predicate) (key : Key) :
    p.boundVerdict (some key) = .ok () ↔ p.rangeEligible = true ∧ p.binding.Admits key := by
  by_cases eligible : p.rangeEligible = true
  · rw [boundVerdict, if_pos eligible, Binding.verdict_ok_iff]
    exact (and_iff_right eligible).symm
  · rw [boundVerdict, if_neg eligible]
    simp [eligible]

theorem outcome_ok_iff {p : Predicate} (keyed : p.schema.hasKey = true) (call : Mutation) :
    p.outcome call = .ok () ↔ p.selection.conflict? call = none ∧ p.verdict call = .ok () := by
  rw [outcome_eq keyed]
  cases p.selection.conflict? call <;> simp

theorem admitted_of_outcome {p : Predicate} (keyed : p.schema.hasKey = true) {call : Mutation}
    (accepted : p.outcome call = .ok ()) {key : Key} (argument : call.value = some key) : p.binding.Admits key := by
  obtain ⟨_, verdict⟩ := (outcome_ok_iff keyed call).mp accepted
  cases call with
  | setStart value =>
      cases argument
      exact ((p.bound_verdict_ok_iff key).mp verdict).2
  | setFinish value =>
      cases argument
      exact ((p.bound_verdict_ok_iff key).mp verdict).2
  | add value =>
      cases argument
      exact Binding.verdict_ok_iff.mp verdict

theorem outcomes_cons (p : Predicate) (call : Mutation) (rest : List Mutation) :
    p.outcomes (call :: rest) = p.outcome call :: (p.step call).outcomes rest := rfl

theorem outcomes_append (p : Predicate) (first second : List Mutation) :
    p.outcomes (first ++ second) = p.outcomes first ++ (p.run first).outcomes second := by
  induction first generalizing p with
  | nil => rfl
  | cons call rest ih =>
      rw [List.cons_append, outcomes_cons, outcomes_cons, ih]
      rfl

theorem built_of_make {origin : Origin} {options : Options} {p : Predicate} (made : make origin options = .ok p) :
    ∃ binding, ∀ other, make origin other = ofBinding binding other := by
  cases origin with
  | keyType type => exact ⟨.tag type, fun _ => rfl⟩
  | keySchema schema => exact ⟨.rows schema, fun _ => rfl⟩
  | dataType dataType =>
      simp only [make, ofDataType] at made ⊢
      split at made
      · exact ⟨_, fun _ => rfl⟩
      · cases made
  | hostType host =>
      simp only [make, ofHostType] at made ⊢
      split at made
      · exact ⟨_, fun _ => rfl⟩
      · cases made
  | table table =>
      simp only [make, ofTable] at made ⊢
      split at made
      · exact ⟨_, fun _ => rfl⟩
      · cases made

theorem fresh_of_make {origin : Origin} {options : Options} {p : Predicate} (made : make origin options = .ok p) :
    p.schema.hasKey = true ∧ p.selection = .range none none ∧ p.rangeEligible = p.binding.allowsRange options ∧
      ∀ other, make origin other = .ok ⟨p.binding, p.binding.allowsRange other, .range none none⟩ := by
  obtain ⟨binding, built⟩ := built_of_make made
  by_cases keyed : binding.schema.hasKey = true
  · have remade : ∀ other, make origin other = .ok ⟨binding, binding.allowsRange other, .range none none⟩ := by
      intro other
      rw [built, ofBinding, if_pos keyed]
    cases made.symm.trans (remade options)
    exact ⟨keyed, rfl, rfl, remade⟩
  · rw [built, ofBinding, if_neg keyed] at made
    cases made

def acceptedCalls (p : Predicate) : List Mutation → List Mutation
  | [] => []
  | call :: rest =>
      match p.apply call with
      | .ok q => call :: q.acceptedCalls rest
      | .error _ => p.acceptedCalls rest

theorem run_of_no_accepted {p : Predicate} {calls : List Mutation} (none : p.acceptedCalls calls = []) : p.run calls = p := by
  induction calls with
  | nil => rfl
  | cons call rest ih =>
      change (p.step call).run rest = p
      cases outcome : p.apply call with
      | error error =>
          rw [Predicate.step_of_error outcome]
          rw [Predicate.acceptedCalls, outcome] at none
          exact ih none
      | ok q =>
          rw [Predicate.acceptedCalls, outcome] at none
          cases none

-- Refused calls leave the predicate as it was, so only the accepted ones have to be looked at.
theorem run_invariant {Keeps : Predicate → List Mutation → Prop}
    (accepted : ∀ p calls call q, Keeps p calls → p.apply call = .ok q → Keeps q (calls ++ [call]))
    {p : Predicate} {calls : List Mutation} (start : Keeps p calls) (mutations : List Mutation) :
    Keeps (p.run mutations) (calls ++ p.acceptedCalls mutations) := by
  induction mutations generalizing p calls with
  | nil => simpa [run, acceptedCalls] using start
  | cons call rest ih =>
      change Keeps ((p.step call).run rest) _
      cases outcome : p.apply call with
      | error error =>
          rw [step_of_error outcome, acceptedCalls, outcome]
          exact ih start
      | ok q =>
          rw [step_of_ok outcome, acceptedCalls, outcome]
          have next := ih (accepted p calls call q start outcome)
          simpa only [List.append_assoc, List.singleton_append] using next

theorem binding_run (p : Predicate) (mutations : List Mutation) : (p.run mutations).binding = p.binding := by
  induction mutations generalizing p with
  | nil => rfl
  | cons call rest ih => exact (ih (p.step call)).trans (p.binding_step call)

theorem range_eligible_step {p : Predicate} (keyed : p.schema.hasKey = true) (call : Mutation) :
    (p.step call).rangeEligible = p.rangeEligible := by
  cases outcome : p.apply call with
  | error error => rw [step_of_error outcome]
  | ok q =>
      obtain ⟨_, _, rfl⟩ := (apply_ok_iff keyed call q).mp outcome
      rw [step_of_ok outcome]

theorem keyed_step {p : Predicate} (keyed : p.schema.hasKey = true) (call : Mutation) :
    (p.step call).schema.hasKey = true := by
  rw [schema, binding_step]
  exact keyed

theorem range_eligible_run {p : Predicate} (keyed : p.schema.hasKey = true) (mutations : List Mutation) :
    (p.run mutations).rangeEligible = p.rangeEligible := by
  induction mutations generalizing p with
  | nil => rfl
  | cons call rest ih => exact (ih (keyed_step keyed call)).trans (range_eligible_step keyed call)

end Predicate

theorem bound_verdict_congr {p q : Predicate} (binding : q.binding = p.binding)
    (eligible : q.rangeEligible = p.rangeEligible) (value : Value) : q.boundVerdict value = p.boundVerdict value := by
  cases value with
  | none => rfl
  | some key => rw [Predicate.boundVerdict, Predicate.boundVerdict, binding, eligible]

theorem member_verdict_congr {p q : Predicate} (binding : q.binding = p.binding) (value : Value) :
    q.memberVerdict value = p.memberVerdict value := by
  cases value with
  | none => rfl
  | some key => exact congrArg (Binding.verdict · key) binding

theorem verdict_congr {p q : Predicate} (binding : q.binding = p.binding) (eligible : q.rangeEligible = p.rangeEligible)
    (call : Mutation) : q.verdict call = p.verdict call := by
  cases call with
  | setStart value => exact bound_verdict_congr binding eligible value
  | setFinish value => exact bound_verdict_congr binding eligible value
  | add value => exact member_verdict_congr binding value

end RowSelection
