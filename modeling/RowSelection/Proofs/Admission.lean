import RowSelection.Proofs.StoredPredicate

set_option autoImplicit false

namespace RowSelection

namespace Binding

theorem accept_ok_iff {binding : Binding} (keyed : binding.schema.hasKey = true) (key accepted : Key) :
    binding.accept key = .ok accepted ↔ binding.Admits key ∧ accepted = binding.boundForm key := by
  rw [accept_eq keyed, verdict]
  by_cases admitted : binding.Admits key
  · simp [admitted, Except.map, eq_comm]
  · simp [admitted, Except.map]

theorem copy_for_identity_of_accepted {binding : Binding} (keyed : binding.schema.hasKey = true) {key : StoredKey}
    (obtained : key.Obtained) {accepted : StoredKey} (passed : binding.acceptStored key = .ok accepted) :
    ∃ member, binding.variant.copyForIdentity binding.schema accepted = .ok member := by
  obtain ⟨known, rfl⟩ := StoredKey.key_of_obtained obtained
  rw [accept_stored_stored] at passed
  cases verdict : binding.accept known with
  | error error =>
      rw [verdict] at passed
      cases passed
  | ok form =>
      rw [verdict] at passed
      cases passed
      obtain ⟨admitted, rfl⟩ := (accept_ok_iff keyed known form).mp verdict
      rw [copy_for_identity_stored, canonical_bound_form keyed admitted]
      exact ⟨_, rfl⟩

theorem verdict_of_hold_bound (binding : Binding) (key : StoredKey) :
    ((binding.holdBound key).map fun _ => ()) = (binding.acceptStored key).map fun _ => () :=
  map_unit_map (binding.acceptStored key) (binding.variant.handOver StoredKey.copy)

theorem verdict_of_hold_member {binding : Binding} (keyed : binding.schema.hasKey = true) {key : StoredKey}
    (obtained : key.Obtained) :
    ((binding.holdMember key).map fun _ => ()) = (binding.acceptStored key).map fun _ => () := by
  rw [holdMember]
  cases passed : binding.acceptStored key with
  | error error => rfl
  | ok accepted =>
      obtain ⟨member, bound⟩ := copy_for_identity_of_accepted keyed obtained passed
      simp only [bound]
      rfl

theorem check_stored_row_error {binding : Binding} {row : StoredRow} {error : PredicateError}
    (refused : binding.checkStoredRow row = .error error) : ∃ source, error = .rowMismatch source := by
  unfold checkStoredRow at refused
  split at refused
  · cases refused
    exact ⟨_, rfl⟩
  · split at refused
    · cases refused
      exact ⟨_, rfl⟩
    · cases refused

theorem component_of_checked {type : KeyType} {row : StoredRow} (obtained : row.Obtained)
    (passed : (tag type).checkStoredRow row = .ok ()) :
    ∃ component, row.components = [component] ∧ component.keyType = type := by
  obtain ⟨known, rfl⟩ := StoredRow.row_of_obtained obtained
  have keyed : (tag type).schema.hasKey = true := rfl
  rw [check_stored_row_stored, check_row_eq keyed] at passed
  by_cases single : known.keyTypes = (tag type).schema.keyTypes
  · obtain ⟨cell, rfl, typed⟩ := Row.eq_singleton_of_key_types single
    exact ⟨cell.value, rfl, typed⟩
  · rw [if_neg single] at passed
    cases passed

theorem check_stored_carried_of_type {type : KeyType} {component : Component} (typed : component.keyType = type) :
    checkStoredCarried type (some (.primitive component)) = .ok (.primitive component) :=
  if_pos (congrArg KeyType.hostType typed)

theorem accept_stored_of_checked {type : KeyType} {row : StoredRow} (obtained : row.Obtained)
    (passed : (tag type).checkStoredRow row = .ok ()) :
    ∃ component, row.components = [component] ∧
      checkStoredCarried type (some (.primitive component)) = .ok (.primitive component) ∧
      (tag type).acceptStored (.row row) = .ok (.primitive component) := by
  obtain ⟨component, alone, typed⟩ := component_of_checked obtained passed
  have carried := check_stored_carried_of_type typed
  refine ⟨component, alone, carried, ?_⟩
  rw [acceptStored, passed, alone]
  exact carried

theorem accept_stored_row_error {type : KeyType} {row : StoredRow} (obtained : row.Obtained) {error : PredicateError}
    (refused : (tag type).acceptStored (.row row) = .error error) : ∃ source, error = .rowMismatch source := by
  cases passed : (tag type).checkStoredRow row with
  | error own =>
      rw [acceptStored, passed] at refused
      cases refused
      exact check_stored_row_error passed
  | ok done =>
      obtain ⟨component, _, _, accepted⟩ := accept_stored_of_checked obtained passed
      rw [accepted] at refused
      cases refused

end Binding

namespace StoredPredicate

theorem outcome_of_bound (p : StoredPredicate) (key : StoredKey) {call : StoredMutation}
    (side : call = .setStart (some key) ∨ call = .setFinish (some key)) :
    p.outcome call =
      if p.keys.isSome then .error .keysAlreadyAdded
      else if p.rangeEligible then (p.binding.acceptStored key).map fun _ => ()
      else .error .textRange := by
  have recorded : p.outcome call = (p.acceptBound (some key)).map fun _ => () := by
    rcases side with rfl | rfl
    · exact map_unit_map _ _
    · exact map_unit_map _ _
  rw [recorded, acceptBound]
  by_cases added : p.keys.isSome = true
  · rw [if_pos added, if_pos added]
    rfl
  · rw [if_neg added, if_neg added, checkBound]
    by_cases eligible : p.rangeEligible = true
    · rw [if_pos eligible, if_pos eligible, map_unit_map, Binding.verdict_of_hold_bound]
    · rw [if_neg eligible, if_neg eligible]
      rfl

theorem outcome_of_member {p : StoredPredicate} (keyed : p.binding.schema.hasKey = true) {key : StoredKey}
    (obtained : key.Obtained) :
    p.outcome (.add (some key)) =
      if p.lower.isSome || p.upper.isSome then .error .boundAlreadySet
      else (p.binding.acceptStored key).map fun _ => () := by
  have recorded : p.outcome (.add (some key)) = (p.acceptMember (some key)).map fun _ => () := map_unit_map _ _
  rw [recorded, acceptMember]
  by_cases set : (p.lower.isSome || p.upper.isSome) = true
  · rw [if_pos set, if_pos set]
    rfl
  · rw [if_neg set, if_neg set, checkMember, Binding.verdict_of_hold_member keyed obtained]

theorem outcome_of_row {p : StoredPredicate} {type : KeyType} (bound : p.binding = .tag type) {row : StoredRow}
    (obtained : row.Obtained) {call : StoredMutation} (argument : call.value = some (.row row)) {error : PredicateError}
    (refused : p.outcome call = .error error) :
    error = .keysAlreadyAdded ∨ error = .boundAlreadySet ∨ error = .textRange ∨ ∃ source, error = .rowMismatch source := by
  have keyed : p.binding.schema.hasKey = true := by
    rw [bound]
    rfl
  have ofVerdict (refused : ((p.binding.acceptStored (.row row)).map fun _ => ()) = .error error) :
      ∃ source, error = .rowMismatch source := by
    rw [bound] at refused
    cases verdict : (Binding.tag type).acceptStored (.row row) with
    | error own =>
        rw [verdict] at refused
        cases refused
        exact Binding.accept_stored_row_error obtained verdict
    | ok accepted =>
        rw [verdict] at refused
        cases refused
  have kind : (call = .setStart (some (.row row)) ∨ call = .setFinish (some (.row row))) ∨
      call = .add (some (.row row)) := by
    cases call with
    | setStart value => exact .inl (.inl (congrArg StoredMutation.setStart argument))
    | setFinish value => exact .inl (.inr (congrArg StoredMutation.setFinish argument))
    | add value => exact .inr (congrArg StoredMutation.add argument)
  rcases kind with side | rfl
  · rw [p.outcome_of_bound _ side] at refused
    split at refused
    · cases refused
      exact .inl rfl
    · split at refused
      · exact .inr (.inr (.inr (ofVerdict refused)))
      · cases refused
        exact .inr (.inr (.inl rfl))
  · have given : StoredKey.Obtained (.row row) := obtained
    rw [outcome_of_member keyed given] at refused
    split at refused
    · cases refused
      exact .inr (.inl rfl)
    · exact .inr (.inr (.inr (ofVerdict refused)))

end StoredPredicate

-- Before the calls `p` is stored as it was made, without a bound and without keys.
theorem admissions_share_one_verdict {origin : Origin} {options : Predicate.Options} {p : Predicate}
    (made : Predicate.make origin options = .ok p) {calls : List StoredMutation} (given : ∀ call ∈ calls, call.Given) :
    let q := p.stored.run calls
    (q.rangeEligible = true → q.start = none → q.finish = none → q.keys = none → ∀ key : StoredKey, key.Obtained →
      let verdict := (q.binding.acceptStored key).map fun _ => ()
      q.outcome (.setStart (some key)) = verdict ∧ q.outcome (.setFinish (some key)) = verdict ∧
        q.outcome (.add (some key)) = verdict) ∧
    (∀ key accepted, StoredKey.Obtained key → q.binding.acceptStored key = .ok accepted →
      ∃ member, q.binding.variant.copyForIdentity q.binding.schema accepted = .ok member) ∧
    (∀ type, q.binding = .tag type → ∀ row : StoredRow, row.Obtained →
      (q.binding.checkStoredRow row = .ok () → ∃ component, row.components = [component] ∧
        Binding.checkStoredCarried type (some (.primitive component)) = .ok (.primitive component) ∧
        q.binding.acceptStored (.row row) = .ok (.primitive component)) ∧
      ∀ call : StoredMutation, call.value = some (.row row) →
        ∀ expected actual, q.outcome call ≠ .error (.typeMismatch expected actual)) ∧
    ∃ known : List Mutation, calls = known.map Mutation.stored ∧ q = (p.run known).stored ∧
      (∀ key, q.binding.acceptStored key.stored = ((p.run known).binding.accept key).map Key.stored) ∧
      (∀ key, q.binding.variant.copyForIdentity q.binding.schema key.stored =
        ((p.run known).binding.canonical key).map Key.stored) ∧
      ∀ call, q.outcome call.stored = (p.run known).outcome call := by
  obtain ⟨known, rfl⟩ := StoredMutation.calls_of_given given
  intro q
  have reached : q = (p.run known).stored := StoredPredicate.run_stored p known
  have keyed : q.binding.schema.hasKey = true := by
    rw [reached, Predicate.binding_stored, Predicate.binding_run]
    exact (Predicate.fresh_of_make made).1
  refine ⟨?_, fun key accepted obtained => Binding.copy_for_identity_of_accepted keyed obtained, ?_,
    known, rfl, reached, ?_, ?_, ?_⟩
  · intro eligible noStart noFinish noKeys key obtained verdict
    have bound {call : StoredMutation} (side : call = .setStart (some key) ∨ call = .setFinish (some key)) :
        q.outcome call = verdict := by
      rw [q.outcome_of_bound key side, noKeys, eligible]
      rfl
    refine ⟨bound (.inl rfl), bound (.inr rfl), ?_⟩
    rw [StoredPredicate.outcome_of_member keyed obtained, Option.map_eq_none_iff.mp noStart,
      Option.map_eq_none_iff.mp noFinish]
    rfl
  · intro type tag row obtained
    refine ⟨?_, ?_⟩
    · rw [tag]
      exact Binding.accept_stored_of_checked obtained
    · intro call argument expected actual mismatched
      rcases StoredPredicate.outcome_of_row tag obtained argument mismatched with added | set | text | ⟨source, row⟩
      · cases added
      · cases set
      · cases text
      · cases row
  · intro key
    rw [reached, Predicate.binding_stored]
    exact Binding.accept_stored_stored _ key
  · intro key
    rw [reached, Predicate.binding_stored]
    exact Binding.copy_for_identity_stored _ key
  · intro call
    rw [reached]
    exact StoredPredicate.outcome_stored _ call

theorem lone_ids_admitted :
    let lone : StoredKey := .row (.ofComponents [.long 7])
    let pair : StoredKey := .row (.ofComponents [.long 7, .long 8])
    let p : Predicate := ⟨.tag .long, true, .range none none⟩
    let q := p.stored.run [.setStart (some lone), .setStart none]
    Predicate.make (.keyType .long) .default = .ok p ∧ lone.Obtained ∧ pair.Obtained ∧
      q.rangeEligible = true ∧ q.start = none ∧ q.finish = none ∧ q.keys = none ∧
      q.outcome (.setFinish (some lone)) = .ok () ∧ q.outcome (.add (some lone)) = .ok () ∧
      q.outcome (.setFinish (some pair)) = .error (.rowMismatch (.incompatible [.long] [.long, .long])) ∧
      q.outcome (.add (some pair)) = .error (.rowMismatch (.incompatible [.long] [.long, .long])) := by
  intro lone pair p q
  have made : Predicate.make (.keyType .long) .default = .ok p := rfl
  have loneObtained : lone.Obtained := StoredRow.Obtained.ofComponents _
  have pairObtained : pair.Obtained := StoredRow.Obtained.ofComponents _
  have given : ∀ call ∈ [StoredMutation.setStart (some lone), .setStart none], call.Given := by
    intro call member key argument
    rcases List.mem_pair.mp member with rfl | rfl
    · cases argument
      exact loneObtained
    · cases argument
  obtain ⟨admitted, _⟩ := admissions_share_one_verdict made given
  have shared := admitted rfl rfl rfl rfl
  obtain ⟨_, loneFinish, loneMember⟩ := shared lone loneObtained
  obtain ⟨_, pairFinish, pairMember⟩ := shared pair pairObtained
  exact ⟨made, loneObtained, pairObtained, rfl, rfl, rfl, rfl, loneFinish.trans rfl, loneMember.trans rfl,
    pairFinish.trans rfl, pairMember.trans rfl⟩

end RowSelection
