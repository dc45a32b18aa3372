import RowSelection.Proofs.Simulation

set_option autoImplicit false

namespace RowSelection

-- A row of exactly one component of the type gives way to that component.
def Key.carried (type : KeyType) : Key → Key
  | .primitive component => .primitive component
  | .row held => if held.keyTypes = [type] then unwrapped (.row held) else .row held

def Mutation.carried (type : KeyType) : Mutation → Mutation
  | .setStart value => .setStart (value.map (Key.carried type))
  | .setFinish value => .setFinish (value.map (Key.carried type))
  | .add value => .add (value.map (Key.carried type))

-- The answers to one call, of which `value` is the argument on the host type's side.
structure SameAnswer (value : Value) (tag host : Except PredicateError Unit) : Prop where
  succeeds : tag = .ok () ↔ host = .ok ()
  mismatch : (∃ source, tag = .error (.rowMismatch source)) ↔
    (∃ row, value = some (.row row)) ∧ ∃ expected actual, host = .error (.typeMismatch expected actual)
  otherwise : (∀ source, tag ≠ .error (.rowMismatch source)) → tag = host

theorem same_of_eq {value : Value} {answer : Except PredicateError Unit}
    (noRow : ∀ source, answer ≠ .error (.rowMismatch source))
    (noType : ∀ row expected actual, value = some (.row row) → answer ≠ .error (.typeMismatch expected actual)) :
    SameAnswer value answer answer := by
  refine ⟨Iff.rfl, ?_, fun _ => rfl⟩
  constructor
  · rintro ⟨source, same⟩
    exact absurd same (noRow source)
  · rintro ⟨⟨row, argument⟩, expected, actual, same⟩
    exact absurd same (noType row expected actual argument)

theorem verdict_host_primitive (type : KeyType) (component : Component) :
    (Binding.host type).verdict (.primitive component) = (Binding.tag type).verdict (.primitive component) := by
  apply Binding.verdict_congr
  · exact Iff.rfl
  · rfl

theorem refused_row {type : KeyType} {row : Row} (refused : row.keyTypes ≠ [type]) :
    ∃ source, (Binding.tag type).verdict (.row row) = .error (.rowMismatch source) := by
  have notAdmitted : ¬ (Binding.tag type).Admits (.row row) := refused
  rw [Binding.verdict, if_neg notAdmitted, Binding.refusal, Binding.rowRefusal]
  by_cases empty : row.isEmpty = true
  · exact ⟨_, by rw [if_pos empty]⟩
  · exact ⟨_, by rw [if_neg empty]⟩

theorem primitive_verdict_carried (type : KeyType) (component : Component) :
    SameAnswer (some (.primitive component)) ((Binding.tag type).verdict (.primitive component))
      ((Binding.host type).verdict (.primitive component)) := by
  rw [verdict_host_primitive]
  apply same_of_eq
  · intro source
    by_cases same : component.keyType = type <;> simp [Binding.verdict, Binding.Admits, Binding.refusal, same]
  · intro row expected actual argument
    cases argument

theorem verdict_carried (type : KeyType) (key : Key) :
    SameAnswer (some (key.carried type)) ((Binding.tag type).verdict key)
      ((Binding.host type).verdict (key.carried type)) := by
  cases key with
  | primitive component => exact primitive_verdict_carried type component
  | row row =>
      by_cases single : row.keyTypes = [type]
      · obtain ⟨cell, rfl, held⟩ := Row.eq_singleton_of_key_types single
        have admitted : (Binding.tag type).verdict (.row ⟨[cell]⟩) = .ok () := Binding.verdict_ok_iff.mpr single
        have accepted : (Binding.host type).verdict (.primitive cell.value) = .ok () := Binding.verdict_ok_iff.mpr held
        simp only [Key.carried, single, if_true, Key.unwrapped, admitted, accepted]
        exact same_of_eq (by simp) (by simp)
      · obtain ⟨source, isRow⟩ := refused_row single
        have kept : Key.carried type (.row row) = .row row := if_neg single
        rw [kept, isRow]
        refine ⟨by simp [Binding.verdict, Binding.Admits], ?_, fun other => absurd rfl (other source)⟩
        exact ⟨fun _ => ⟨⟨row, rfl⟩, _, _, rfl⟩, fun _ => ⟨source, rfl⟩⟩

theorem bound_form_carried {type : KeyType} {key : Key} (admitted : (Binding.tag type).Admits key) :
    (Binding.tag type).boundForm key = key.carried type := by
  cases key with
  | primitive component => rfl
  | row row =>
      have single : row.keyTypes = [type] := admitted
      simp [Binding.boundForm, Key.carried, single]

structure Twins (type : KeyType) (tag host : Predicate) : Prop where
  tagged : tag.binding = .tag type
  hosted : host.binding = .host type
  eligible : tag.rangeEligible = host.rangeEligible
  selection : tag.selection = host.selection

theorem Twins.keyed {type : KeyType} {tag host : Predicate} (twins : Twins type tag host) :
    tag.schema.hasKey = true ∧ host.schema.hasKey = true := by
  rw [Predicate.schema, Predicate.schema, twins.tagged, twins.hosted]
  exact ⟨rfl, rfl⟩

theorem conflict_carried (selection : Selection) (type : KeyType) (call : Mutation) :
    selection.conflict? (call.carried type) = selection.conflict? call := by
  cases selection <;> cases call <;> rfl

theorem bound_verdict_carried {type : KeyType} {tag host : Predicate} (twins : Twins type tag host) (value : Value) :
    SameAnswer (value.map (Key.carried type)) (tag.boundVerdict value)
      (host.boundVerdict (value.map (Key.carried type))) := by
  cases value with
  | none => exact same_of_eq (by simp [Predicate.boundVerdict]) (by simp)
  | some key =>
      simp only [Option.map_some, Predicate.boundVerdict, twins.tagged, twins.hosted, ← twins.eligible]
      by_cases eligible : tag.rangeEligible = true
      · rw [if_pos eligible, if_pos eligible]
        exact verdict_carried type key
      · rw [if_neg eligible, if_neg eligible]
        exact same_of_eq (by simp) (by simp)

theorem member_verdict_carried {type : KeyType} {tag host : Predicate} (twins : Twins type tag host) (value : Value) :
    SameAnswer (value.map (Key.carried type)) (tag.memberVerdict value)
      (host.memberVerdict (value.map (Key.carried type))) := by
  cases value with
  | none => exact same_of_eq (by simp [Predicate.memberVerdict]) (by simp)
  | some key =>
      simp only [Option.map_some, Predicate.memberVerdict, twins.tagged, twins.hosted]
      exact verdict_carried type key

theorem same_answer {type : KeyType} {tag host : Predicate} (twins : Twins type tag host) (call : Mutation) :
    SameAnswer (call.carried type).value (tag.outcome call) (host.outcome (call.carried type)) := by
  obtain ⟨tagKeyed, hostKeyed⟩ := twins.keyed
  rw [Predicate.outcome_eq tagKeyed, Predicate.outcome_eq hostKeyed, ← twins.selection, conflict_carried]
  cases conflict : tag.selection.conflict? call with
  | some error =>
      rcases conflict_error conflict with rfl | rfl <;> exact same_of_eq (by simp) (by simp)
  | none =>
      cases call with
      | setStart value => exact bound_verdict_carried twins value
      | setFinish value => exact bound_verdict_carried twins value
      | add value => exact member_verdict_carried twins value

theorem member_form_tag (type : KeyType) (key : Key) :
    (Binding.tag type).memberForm key = (Binding.tag type).boundForm key := by
  cases key <;> rfl

theorem bound_form_host (type : KeyType) : (Binding.host type).boundForm = id := rfl

theorem member_form_host (type : KeyType) (key : Key) : (Binding.host type).memberForm key = key := by
  cases key <;> rfl

theorem after_carried {type : KeyType} {call : Mutation}
    (admitted : ∀ key, call.value = some key → (Binding.tag type).Admits key) (selection : Selection) :
    selection.after (.tag type) call = selection.after (.host type) (call.carried type) := by
  have bound : ∀ value, call.value = value →
      value.map (Binding.tag type).boundForm = value.map (Key.carried type) := by
    intro value argument
    cases value with
    | none => rfl
    | some key => simp [bound_form_carried (admitted key argument)]
  cases call with
  | setStart value =>
      have held := bound value rfl
      cases selection <;> simp [Selection.after, Mutation.carried, held, bound_form_host]
  | setFinish value =>
      have held := bound value rfl
      cases selection <;> simp [Selection.after, Mutation.carried, held, bound_form_host]
  | add value =>
      cases value with
      | none => cases selection <;> rfl
      | some key =>
          have held := bound_form_carried (admitted key rfl)
          cases selection <;> simp [Selection.after, Mutation.carried, member_form_tag, member_form_host, held]

theorem twins_step {type : KeyType} {tag host : Predicate} (twins : Twins type tag host) (call : Mutation) :
    Twins type (tag.step call) (host.step (call.carried type)) := by
  obtain ⟨tagKeyed, hostKeyed⟩ := twins.keyed
  have answer := same_answer twins call
  apply Predicate.step_alongside twins tagKeyed hostKeyed answer.succeeds
  intro accepted
  refine ⟨twins.tagged, twins.hosted, twins.eligible, ?_⟩
  have admitted : ∀ key, call.value = some key → (Binding.tag type).Admits key := by
    intro key argument
    rw [← twins.tagged]
    exact Predicate.admitted_of_outcome tagKeyed accepted argument
  simp only [Predicate.afterCall, twins.tagged, twins.hosted, ← twins.selection]
  exact after_carried admitted tag.selection

theorem twins_run {type : KeyType} {tag host : Predicate} (twins : Twins type tag host) (calls : List Mutation) :
    Twins type (tag.run calls) (host.run (calls.map (Mutation.carried type))) := by
  let Succeeds (answer other : Except PredicateError Unit) : Prop := answer = .ok () ↔ other = .ok ()
  have step : ∀ p q call other, Twins type p q → call.carried type = other →
      Succeeds (p.outcome call) (q.outcome other) ∧ Twins type (p.step call) (q.step other) := by
    rintro p q call _ twins rfl
    exact ⟨(same_answer twins call).succeeds, twins_step twins call⟩
  have paired : List.Forall₂ (fun call other => call.carried type = other) calls (calls.map (Mutation.carried type)) :=
    List.forall₂_map_right_iff.mpr (List.forall₂_same.mpr fun _ _ => rfl)
  exact (Predicate.run_alongside step twins paired).2

theorem twins_read {type : KeyType} {p q : Predicate} (twins : Twins type p q) :
    p.start = q.start ∧ p.finish = q.finish ∧ p.distinctKeys? = q.distinctKeys? ∧ p.condition = q.condition ∧
      p.keyType = q.keyType ∧ p.schema = q.schema ∧ p.variant = q.variant ∧ p.rangeEligible = q.rangeEligible := by
  obtain ⟨tagged, hosted, eligible, selection⟩ := twins
  obtain ⟨binding, allowed, held⟩ := p
  obtain ⟨otherBinding, otherAllowed, otherHeld⟩ := q
  subst tagged hosted eligible selection
  exact ⟨rfl, rfl, rfl, rfl, rfl, rfl, rfl, rfl⟩

theorem tag_and_host_run_alike (type : KeyType) (options : Predicate.Options) :
    ∃ tag host, Predicate.make (.keyType type) options = .ok tag ∧
      Predicate.make (.dataType type.dataType) options = .ok tag ∧
      Predicate.make (.hostType type.hostType) options = .ok host ∧
      ∀ calls : List Mutation,
        let p := tag.run calls
        let q := host.run (calls.map (Mutation.carried type))
        (∀ call, SameAnswer (call.carried type).value (p.outcome call) (q.outcome (call.carried type))) ∧
        p.start = q.start ∧ p.finish = q.finish ∧ p.distinctKeys? = q.distinctKeys? ∧ p.condition = q.condition ∧
        p.keyType = q.keyType ∧ p.schema = q.schema ∧ p.variant = q.variant ∧ p.rangeEligible = q.rangeEligible := by
  let tag : Predicate := ⟨.tag type, (Binding.tag type).allowsRange options, .range none none⟩
  let host : Predicate := ⟨.host type, (Binding.host type).allowsRange options, .range none none⟩
  have tagMade : Predicate.make (.keyType type) options = .ok tag := rfl
  have sameMade : Predicate.make (.dataType type.dataType) options = .ok tag := by
    simpa [Predicate.make, Predicate.ofDataType] using tagMade
  have hostMade : Predicate.make (.hostType type.hostType) options = .ok host := by
    simp only [Predicate.make, Predicate.ofHostType, HostType.key_type?_host_type]
    rfl
  have fresh : Twins type tag host := ⟨rfl, rfl, rfl, rfl⟩
  refine ⟨tag, host, tagMade, sameMade, hostMade, ?_⟩
  intro calls p q
  have twins : Twins type p q := twins_run fresh calls
  exact ⟨same_answer twins, twins_read twins⟩

end RowSelection
