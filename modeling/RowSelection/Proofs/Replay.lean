import RowSelection.Proofs.HeldForms
import RowSelection.Proofs.Indistinguishable

set_option autoImplicit false

namespace RowSelection

def Bound.value : Bound Key → Value
  | .unbounded => none
  | .included key => some key

@[simp] theorem Bound.value_of_value (value : Value) : (Bound.ofValue value).value = value := by
  cases value <;> rfl

def Condition.bounds? : Condition Key → Option (Value × Value)
  | .all => some (none, none)
  | .range start finish => some (start.value, finish.value)
  | .distinct _ => none

theorem Condition.bounds?_of_bounds (start finish : Value) : (ofBounds start finish).bounds? = some (start, finish) := by
  cases start <;> cases finish <;> rfl

theorem Condition.Same.bounds {first second : Condition Key} (same : first.Same second) : first.bounds? = second.bounds? := by
  cases same <;> rfl

def Selection.members : Selection → KeySet
  | .range _ _ => .empty
  | .distinct keys => keys

theorem after_add (binding : Binding) (selection : Selection) (key : Key) :
    selection.after binding (.add (some key)) = .distinct (selection.members.insert (binding.memberForm key)) := by
  cases selection <;> rfl

def additions (keys : List Key) : List Mutation :=
  keys.map fun key => .add (some key)

-- The calls that a condition lists: bounds in either order, and keys in any.
inductive Condition.Replay : Condition Key → List Mutation → Prop
  | all : Replay .all []
  | startFirst (start finish : Bound Key) :
      Replay (.range start finish) [.setStart start.value, .setFinish finish.value]
  | finishFirst (start finish : Bound Key) :
      Replay (.range start finish) [.setFinish finish.value, .setStart start.value]
  | distinct {keys listed : List Key} (order : listed.Perm keys) : Replay (.distinct keys) (additions listed)

namespace Predicate

def Reaches (p : Predicate) (calls : List Mutation) (q : Predicate) : Prop :=
  (∀ answer ∈ p.outcomes calls, answer = .ok ()) ∧ p.run calls = q

theorem reaches_nil (p : Predicate) : p.Reaches [] p :=
  ⟨fun _ none => absurd none List.not_mem_nil, rfl⟩

theorem reaches_trans {p q r : Predicate} {calls later : List Mutation} (first : p.Reaches calls q)
    (second : q.Reaches later r) : p.Reaches (calls ++ later) r := by
  obtain ⟨answers, rfl⟩ := first
  obtain ⟨laterAnswers, rfl⟩ := second
  refine ⟨?_, run_append p calls later⟩
  rw [outcomes_append]
  intro answer member
  rcases List.mem_append.mp member with early | late
  · exact answers answer early
  · exact laterAnswers answer late

theorem bound_verdict_again {p : Predicate} {value : Value}
    (held : ∀ key, value = some key → p.rangeEligible = true ∧ p.binding.IsBound key) :
    p.boundVerdict value = .ok () ∧ value.map p.binding.boundForm = value := by
  cases value with
  | none => exact ⟨rfl, rfl⟩
  | some key =>
      obtain ⟨eligible, admitted, kept⟩ := held key rfl
      exact ⟨(p.bound_verdict_ok_iff key).mpr ⟨eligible, admitted⟩, congrArg some kept⟩

def holding (p : Predicate) (selection : Selection) : Predicate := { p with selection := selection }

section
variable {p : Predicate} (keyed : p.schema.hasKey = true)
include keyed

theorem reaches_call {selection : Selection} {call : Mutation} (free : selection.conflict? call = none)
    (accepted : p.verdict call = .ok ()) :
    (p.holding selection).Reaches [call] (p.holding (selection.after p.binding call)) := by
  have stillKeyed : (p.holding selection).schema.hasKey = true := keyed
  have answer : (p.holding selection).outcome call = .ok () := by
    rw [outcome_eq stillKeyed, show (p.holding selection).selection.conflict? call = none from free]
    exact accepted
  refine ⟨?_, step_of_accepted stillKeyed answer⟩
  intro given member
  rw [outcomes_cons] at member
  exact (List.mem_singleton.mp member).trans answer

theorem set_start_again (start finish : Value) {value : Value}
    (held : ∀ key, value = some key → p.rangeEligible = true ∧ p.binding.IsBound key) :
    (p.holding (.range start finish)).Reaches [.setStart value] (p.holding (.range value finish)) := by
  obtain ⟨accepted, kept⟩ := bound_verdict_again held
  have call : (p.holding (.range start finish)).Reaches [.setStart value]
      (p.holding (.range (value.map p.binding.boundForm) finish)) := reaches_call keyed rfl accepted
  rwa [kept] at call

theorem set_finish_again (start finish : Value) {value : Value}
    (held : ∀ key, value = some key → p.rangeEligible = true ∧ p.binding.IsBound key) :
    (p.holding (.range start finish)).Reaches [.setFinish value] (p.holding (.range start value)) := by
  obtain ⟨accepted, kept⟩ := bound_verdict_again held
  have call : (p.holding (.range start finish)).Reaches [.setFinish value]
      (p.holding (.range start (value.map p.binding.boundForm))) := reaches_call keyed rfl accepted
  rwa [kept] at call

theorem add_again (selection : Selection) (free : ∀ value, selection.conflict? (.add value) = none) {key : Key}
    (member : p.binding.IsMember key) :
    (p.holding selection).Reaches [.add (some key)] (p.holding (.distinct (selection.members.insert key))) := by
  have call := reaches_call keyed (free (some key)) (Binding.verdict_ok_iff.mpr member.1)
  rwa [after_add, member.2] at call

theorem additions_again (keys : KeySet) {listed : List Key} (members : ∀ key ∈ listed, p.binding.IsMember key) :
    (p.holding (.distinct keys)).Reaches (additions listed) (p.holding (.distinct (listed.foldl KeySet.insert keys))) := by
  induction listed generalizing keys with
  | nil => exact reaches_nil _
  | cons key rest ih =>
      obtain ⟨member, others⟩ := List.forall_mem_cons.mp members
      have first := add_again keyed (.distinct keys) (fun _ => rfl) member
      exact reaches_trans first (ih (keys.insert key) others)

theorem set_again {listed : List Key} (filled : listed ≠ []) (members : ∀ key ∈ listed, p.binding.IsMember key) :
    (p.holding (.range none none)).Reaches (additions listed) (p.holding (.distinct (KeySet.ofList listed))) := by
  cases listed with
  | nil => exact absurd rfl filled
  | cons key rest =>
      obtain ⟨member, others⟩ := List.forall_mem_cons.mp members
      have first := add_again keyed (.range none none) (fun _ => rfl) member
      exact reaches_trans first (additions_again keyed _ others)

end

end Predicate

-- A condition shows all that is held: an empty set of keys, which it would leave out, is never held.
theorem condition_of_held {binding : Binding} {eligible : Bool} {p : Predicate}
    (held : p.selection.Held binding eligible) :
    (∃ start finish, p.selection = .range start finish ∧ p.condition = .ofBounds start finish) ∨
      ∃ keys, p.selection = .distinct keys ∧ p.condition = .distinct keys.toList := by
  cases selected : p.selection with
  | range start finish =>
      obtain ⟨_, _, _, condition⟩ := Predicate.read_range selected
      exact .inl ⟨start, finish, rfl, condition⟩
  | distinct keys =>
      obtain ⟨_, _, _, condition⟩ := Predicate.read_distinct selected
      rw [selected] at held
      cases held with
      | distinct filled members =>
          exact .inr ⟨keys, rfl, condition.trans (Condition.of_keys_of_ne_nil filled)⟩

theorem bounds_rebuilt {fresh : Predicate} (keyed : fresh.schema.hasKey = true) {start finish : Value}
    {replay : List Mutation} (held : (Selection.range start finish).Held fresh.binding fresh.rangeEligible)
    (described : (Condition.ofBounds start finish).Replay replay) :
    (fresh.holding (.range none none)).Reaches replay (fresh.holding (.range start finish)) := by
  cases held with
  | range lower upper =>
      rw [Condition.of_bounds_eq] at described
      by_cases unset : start = none ∧ finish = none
      · rw [if_pos unset] at described
        cases described
        rw [unset.1, unset.2]
        exact Predicate.reaches_nil _
      · rw [if_neg unset] at described
        cases described with
        | startFirst =>
            rw [Bound.value_of_value, Bound.value_of_value]
            exact Predicate.reaches_trans (Predicate.set_start_again keyed none none lower)
              (Predicate.set_finish_again keyed start none upper)
        | finishFirst =>
            rw [Bound.value_of_value, Bound.value_of_value]
            exact Predicate.reaches_trans (Predicate.set_finish_again keyed none none upper)
              (Predicate.set_start_again keyed none finish lower)

theorem keys_rebuilt {fresh : Predicate} (keyed : fresh.schema.hasKey = true) {keys : KeySet} {replay : List Mutation}
    (held : (Selection.distinct keys).Held fresh.binding fresh.rangeEligible)
    (described : (Condition.distinct keys.toList).Replay replay) :
    ∃ again, keys.toList.Perm again.toList ∧
      (fresh.holding (.range none none)).Reaches replay (fresh.holding (.distinct again)) := by
  cases held with
  | distinct filled members =>
      cases described with
      | @distinct _ listed order =>
          have listedFilled : listed ≠ [] := fun none => filled (List.nil_perm.mp (none ▸ order))
          have listedMembers : ∀ key ∈ listed, fresh.binding.IsMember key := fun key member =>
            members key (order.mem_iff.mp member)
          refine ⟨KeySet.ofList listed, ?_, Predicate.set_again keyed listedFilled listedMembers⟩
          rw [List.perm_ext_iff_of_nodup keys.nodup (KeySet.nodup _)]
          intro key
          rw [KeySet.mem_of_list, order.mem_iff]

theorem replay_rebuilds {fresh p : Predicate} {calls replay : List Mutation} (empty : fresh.selection = .range none none)
    (keeps : Keeps fresh p calls) (described : p.condition.Replay replay) :
    (∀ answer ∈ fresh.outcomes replay, answer = .ok ()) ∧ p.Reordered (fresh.run replay) := by
  have keyed : fresh.schema.hasKey = true := by
    rw [Predicate.schema, ← keeps.binding]
    exact keeps.keyed
  have held := keeps.held
  have start : fresh.holding (.range none none) = fresh := by
    rw [← empty]
    rfl
  have rebuilt : ∃ selection, p.selection.SameContents selection ∧
      (fresh.holding (.range none none)).Reaches replay (fresh.holding selection) := by
    rcases condition_of_held held with ⟨lower, upper, selected, condition⟩ | ⟨keys, selected, condition⟩
    · rw [condition] at described
      rw [selected] at held ⊢
      exact ⟨_, .range lower upper, bounds_rebuilt keyed held described⟩
    · rw [condition] at described
      rw [selected] at held ⊢
      obtain ⟨again, order, reached⟩ := keys_rebuilt keyed held described
      exact ⟨_, .distinct order, reached⟩
  rw [start] at rebuilt
  obtain ⟨selection, same, answers, reached⟩ := rebuilt
  exact ⟨answers, reached ▸ ⟨keeps.keyed, keeps.binding, keeps.eligible, same⟩⟩

theorem same_contents_of_condition {binding : Binding} {eligible : Bool} {p q : Predicate}
    (first : p.selection.Held binding eligible) (second : q.selection.Held binding eligible)
    (same : p.condition.Same q.condition) : p.selection.SameContents q.selection := by
  have bounds := same.bounds
  rcases condition_of_held first with ⟨start, finish, selected, condition⟩ | ⟨keys, selected, condition⟩
  · rcases condition_of_held second with ⟨lower, upper, otherSelected, otherCondition⟩ | ⟨others, _, otherCondition⟩
    · rw [condition, otherCondition, Condition.bounds?_of_bounds, Condition.bounds?_of_bounds] at bounds
      cases bounds
      rw [selected, otherSelected]
      exact .range start finish
    · rw [condition, otherCondition, Condition.bounds?_of_bounds] at bounds
      cases bounds
  · rcases condition_of_held second with ⟨lower, upper, _, otherCondition⟩ | ⟨others, otherSelected, otherCondition⟩
    · rw [condition, otherCondition, Condition.bounds?_of_bounds] at bounds
      cases bounds
    · rw [condition, otherCondition] at same
      rw [selected, otherSelected]
      cases same with
      | distinct order => exact .distinct order

theorem condition_replays {origin : Origin} {options : Predicate.Options} {fresh : Predicate}
    (made : Predicate.make origin options = .ok fresh) :
    (∀ mutations replay, (fresh.run mutations).condition.Replay replay →
      (∀ answer ∈ fresh.outcomes replay, answer = .ok ()) ∧
      (fresh.run mutations).condition.Same (fresh.run replay).condition ∧
      (fresh.run mutations).Indistinguishable (fresh.run replay)) ∧
    ∀ first second, (fresh.run first).condition.Same (fresh.run second).condition →
      (fresh.run first).Indistinguishable (fresh.run second) := by
  obtain ⟨_, empty, _⟩ := Predicate.fresh_of_make made
  constructor
  · intro mutations replay described
    obtain ⟨accepted, reordered⟩ := replay_rebuilds empty (keeps_run made mutations) described
    exact ⟨accepted, (Predicate.alike_of_reordered reordered).condition,
      Predicate.indistinguishable_of_reordered reordered⟩
  · intro first second same
    have keeps : Keeps fresh (fresh.run first) _ := keeps_run made first
    have others : Keeps fresh (fresh.run second) _ := keeps_run made second
    apply Predicate.indistinguishable_of_reordered
    exact ⟨keeps.keyed, keeps.binding.trans others.binding.symm, keeps.eligible.trans others.eligible.symm,
      same_contents_of_condition keeps.held others.held same⟩

theorem instant_replayed :
    let fresh : Predicate := ⟨.tag .timestamp, true, .range none none⟩
    let instant : Component := .timestamp ⟨5⟩
    let mutations : List Mutation := [.add none, .setStart (some (.row ⟨[⟨"at", instant⟩]⟩))]
    let replay : List Mutation := [.setFinish none, .setStart (some (.primitive instant))]
    Predicate.make (.keyType .timestamp) .default = .ok fresh ∧
      (fresh.run mutations).condition.Replay replay ∧
      (∀ answer ∈ fresh.outcomes replay, answer = .ok ()) ∧
      (fresh.run mutations).Indistinguishable (fresh.run replay) := by
  intro fresh instant mutations replay
  have made : Predicate.make (.keyType .timestamp) .default = .ok fresh := rfl
  have described : (fresh.run mutations).condition.Replay replay :=
    .finishFirst (.included (.primitive instant)) .unbounded
  obtain ⟨accepted, _, same⟩ := (condition_replays made).1 mutations replay described
  exact ⟨made, described, accepted, same⟩

end RowSelection
