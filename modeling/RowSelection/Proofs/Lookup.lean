import RowSelection.Proofs.HeldForms
import RowSelection.Proofs.History

set_option autoImplicit false

namespace RowSelection

def Binding.HoldsAsGiven : Binding → Key → Prop
  | .rows schema, .row row => row.names = schema.names
  | _, .row _ => False
  | _, .primitive _ => True

namespace Predicate

def finds (p : Predicate) (value : Value) : Bool :=
  p.distinctKeys?.any fun keys => keys.contains value

theorem finds_of_range {p : Predicate} {start finish : Value} (held : p.selection = .range start finish)
    (value : Value) : p.finds value = false := by
  obtain ⟨_, _, hidden, _⟩ := read_range held
  rw [finds, hidden]
  rfl

theorem finds_of_distinct {p : Predicate} {keys : KeySet} (held : p.selection = .distinct keys) (value : Value) :
    p.finds value = true ↔ ∃ key ∈ keys.toList, value = some key := by
  obtain ⟨_, _, shown, _⟩ := read_distinct held
  rw [finds, shown, Option.any_some, DistinctKeys.contains_iff, to_list_view]

theorem apply_of_outcome {p : Predicate} {call : Mutation} (accepted : p.outcome call = .ok ()) :
    ∃ q, p.apply call = .ok q := by
  unfold outcome at accepted
  cases done : p.apply call with
  | error error =>
      rw [done] at accepted
      cases accepted
  | ok q => exact ⟨q, rfl⟩

theorem accepted_calls_append (p : Predicate) (first second : List Mutation) :
    p.acceptedCalls (first ++ second) = p.acceptedCalls first ++ (p.run first).acceptedCalls second := by
  induction first generalizing p with
  | nil => rfl
  | cons call rest ih =>
      have later : p.run (call :: rest) = (p.step call).run rest := rfl
      rw [List.cons_append, acceptedCalls, acceptedCalls, later]
      cases outcome : p.apply call with
      | error error =>
          rw [step_of_error outcome]
          exact ih p
      | ok q =>
          rw [step_of_ok outcome]
          exact congrArg (call :: ·) (ih q)

theorem accepted_in_run {p : Predicate} {before : List Mutation} {call : Mutation}
    (accepted : (p.run before).outcome call = .ok ()) (after : List Mutation) :
    call ∈ p.acceptedCalls (before ++ call :: after) := by
  obtain ⟨q, done⟩ := apply_of_outcome accepted
  rw [accepted_calls_append]
  apply List.mem_append_right
  rw [acceptedCalls, done]
  exact List.mem_cons_self

theorem key_of_added {p : Predicate} (keyed : p.schema.hasKey = true) {value : Value}
    (accepted : p.outcome (.add value) = .ok ()) : ∃ key, value = some key ∧ p.binding.Admits key := by
  cases value with
  | none =>
      have verdict := ((outcome_ok_iff keyed _).mp accepted).2
      cases verdict
  | some key => exact ⟨key, rfl, admitted_of_outcome keyed accepted rfl⟩

end Predicate

theorem finds_iff_added {origin : Origin} {options : Predicate.Options} {p : Predicate}
    (made : Predicate.make origin options = .ok p) (mutations : List Mutation) (value : Value) :
    (p.run mutations).finds value = true ↔
      ∃ key ∈ addedKeys (p.acceptedCalls mutations), value = some (p.binding.memberForm key) := by
  have held := (follows_run made mutations).selection
  by_cases none : addedKeys (p.acceptedCalls mutations) = []
  · rw [Predicate.finds_of_range (held.trans (Selection.of_calls_range none)), none]
    simp
  · rw [Predicate.finds_of_distinct (held.trans (Selection.of_calls_distinct none))]
    simp only [KeySet.mem_of_list, List.mem_map]
    constructor
    · rintro ⟨_, ⟨added, member, rfl⟩, asked⟩
      exact ⟨added, member, asked⟩
    · rintro ⟨added, member, asked⟩
      exact ⟨_, ⟨added, member, rfl⟩, asked⟩

namespace Binding

theorem member_form_eq_self_iff {binding : Binding} {key : Key} (admitted : binding.Admits key) :
    binding.memberForm key = key ↔ binding.HoldsAsGiven key := by
  constructor
  · intro kept
    have member : binding.IsMember key := ⟨admitted, kept⟩
    cases binding with
    | tag type =>
        obtain ⟨component, rfl⟩ := primitive_of_is_member rfl member
        trivial
    | host type =>
        obtain ⟨component, rfl⟩ := primitive_of_is_member rfl member
        trivial
    | rows schema =>
        obtain ⟨row, rfl, named⟩ := row_of_is_member member
        exact named
  · intro given
    have member := is_member_member_form admitted
    cases key with
    | primitive component => cases binding with
      | tag type => rfl
      | host type => rfl
      | rows schema => exact False.elim admitted
    | row row => cases binding with
      | tag type => exact False.elim given
      | host type => exact False.elim given
      | rows schema =>
          have named : row.names = schema.names := given
          rw [memberForm, ← named, Row.of_parts_names_components]

end Binding

theorem added_key_found_in_held_form {origin : Origin} {options : Predicate.Options} {p : Predicate}
    (made : Predicate.make origin options = .ok p) :
    (∀ before value after, (p.run before).outcome (.add value) = .ok () →
      let q := p.run (before ++ .add value :: after)
      ∃ key, value = some key ∧
        q.finds (some (p.binding.memberForm key)) = true ∧
        (p.binding.memberForm key).components = key.components ∧
        (q.finds (some key) = true ↔ p.binding.HoldsAsGiven key)) ∧
    ∀ mutations value,
      (∀ key, value = some key → ∀ added ∈ addedKeys (p.acceptedCalls mutations), added.components ≠ key.components) →
      (p.run mutations).finds value = false := by
  constructor
  · intro before value after accepted q
    have keyed : (p.run before).schema.hasKey = true := (keeps_run made before).keyed
    obtain ⟨key, rfl, admitted⟩ := Predicate.key_of_added keyed accepted
    rw [Predicate.binding_run] at admitted
    have added : key ∈ addedKeys (p.acceptedCalls (before ++ .add (some key) :: after)) :=
      (mem_added_keys _ key).mpr (Predicate.accepted_in_run accepted after)
    have found : q.finds (some (p.binding.memberForm key)) = true :=
      (finds_iff_added made _ _).mpr ⟨key, added, rfl⟩
    refine ⟨key, rfl, found, Binding.components_member_form admitted, ?_⟩
    rw [← Binding.member_form_eq_self_iff admitted]
    constructor
    · intro foundAsGiven
      obtain ⟨other, otherAdded, same⟩ := (finds_iff_added made _ _).mp foundAsGiven
      have otherAdmitted := (keeps_run made _).admitted _ ((mem_added_keys _ other).mp otherAdded) other rfl
      rw [Option.some.inj same]
      exact (Binding.is_member_member_form otherAdmitted).2
    · intro kept
      rw [kept] at found
      exact found
  · intro mutations value foreign
    rw [← Bool.not_eq_true, finds_iff_added made]
    rintro ⟨added, member, rfl⟩
    have admitted := (keeps_run made mutations).admitted _ ((mem_added_keys _ added).mp member) added rfl
    exact foreign _ rfl added member (Binding.components_member_form admitted).symm

theorem orders_looked_up :
    let anonymous := Orders.row ["c0", "c1"]
    let named := Orders.row ["region", "id"]
    let other := Key.row (.ofParts ["region", "id"] [.text "eu", .long 2])
    let calls : List Mutation := [.add (some anonymous), .add (some named), .setStart none]
    Predicate.make (.keySchema Orders.key) .default = .ok Orders.predicate ∧
      Orders.predicate.outcome (.add (some anonymous)) = .ok () ∧
      (Orders.predicate.run calls).finds (some anonymous) = false ∧
      (Orders.predicate.run calls).finds (some named) = true ∧
      (Orders.predicate.run calls).finds (some other) = false := by
  intro anonymous named other calls
  have made : Predicate.make (.keySchema Orders.key) .default = .ok Orders.predicate := rfl
  have first : Orders.predicate.outcome (.add (some anonymous)) = .ok () := rfl
  have added : addedKeys (Orders.predicate.acceptedCalls calls) = [anonymous, named] := rfl
  obtain ⟨found, foreign⟩ := added_key_found_in_held_form made
  obtain ⟨_, given, inForm, _, asGiven⟩ := found [] (some anonymous) [.add (some named), .setStart none] first
  cases given
  refine ⟨made, first, ?_, inForm, foreign calls (some other) ?_⟩
  · rw [← Bool.not_eq_true]
    exact mt asGiven.mp (show ["c0", "c1"] ≠ ["region", "id"] by decide)
  · intro key asked earlier member
    cases asked
    rw [added] at member
    revert earlier
    decide

-- A row that is unwrapped, and a row that takes other names, are added and not found as they were given.
theorem added_row_not_found_as_given :
    let single := Key.row (.ofParts ["c0"] [.long 7])
    let longs : Predicate := ⟨.tag .long, true, .range none none⟩
    let order := Orders.row ["c0", "c1"]
    Predicate.make (.keyType .long) .default = .ok longs ∧
      longs.outcome (.add (some single)) = .ok () ∧ (longs.run [.add (some single)]).finds (some single) = false ∧
    Predicate.make (.keySchema Orders.key) .default = .ok Orders.predicate ∧
      Orders.predicate.outcome (.add (some order)) = .ok () ∧
      (Orders.predicate.run [.add (some order)]).finds (some order) = false := by
  exact ⟨rfl, rfl, rfl, rfl, rfl, rfl⟩

end RowSelection
