import RowSelection.Proofs.Calls

set_option autoImplicit false

namespace RowSelection

namespace Binding

def IsBound (binding : Binding) (key : Key) : Prop := binding.Admits key ∧ binding.boundForm key = key

def IsMember (binding : Binding) (key : Key) : Prop := binding.Admits key ∧ binding.memberForm key = key

theorem is_bound_bound_form {binding : Binding} {key : Key} (admitted : binding.Admits key) :
    binding.IsBound (binding.boundForm key) := by
  cases binding with
  | tag type =>
      cases key with
      | primitive component => exact ⟨admitted, rfl⟩
      | row row =>
          obtain ⟨cell, rfl, held⟩ := Row.eq_singleton_of_key_types admitted
          exact ⟨held, rfl⟩
  | host type => exact ⟨admitted, rfl⟩
  | rows schema => exact ⟨admitted, rfl⟩

theorem components_of_fit {schema : KeySchema} {row : Row} (fits : row.keyTypes = schema.keyTypes) :
    (Row.ofParts schema.names row.components).components = row.components := by
  apply Row.components_of_parts
  rw [schema.length_names, Row.length_components fits]

theorem names_of_fit {schema : KeySchema} {row : Row} (fits : row.keyTypes = schema.keyTypes) :
    (Row.ofParts schema.names row.components).names = schema.names := by
  apply Row.names_of_parts
  rw [schema.length_names, Row.length_components fits]

theorem is_member_member_form {binding : Binding} {key : Key} (admitted : binding.Admits key) :
    binding.IsMember (binding.memberForm key) := by
  cases binding with
  | tag type =>
      cases key with
      | primitive component => exact ⟨admitted, rfl⟩
      | row row =>
          obtain ⟨cell, rfl, held⟩ := Row.eq_singleton_of_key_types admitted
          exact ⟨held, rfl⟩
  | host type =>
      cases key with
      | primitive component => exact ⟨admitted, rfl⟩
      | row row => exact False.elim admitted
  | rows schema =>
      cases key with
      | primitive component => exact False.elim admitted
      | row row =>
          have fits : row.keyTypes = schema.keyTypes := admitted
          have kept := components_of_fit fits
          refine ⟨?_, ?_⟩
          · rw [memberForm, Admits, Row.keyTypes, kept]
            exact fits
          · rw [memberForm, memberForm, kept]

theorem components_member_form {binding : Binding} {key : Key} (admitted : binding.Admits key) :
    (binding.memberForm key).components = key.components := by
  cases binding with
  | tag type =>
      cases key with
      | primitive component => rfl
      | row row =>
          obtain ⟨cell, rfl, _⟩ := Row.eq_singleton_of_key_types admitted
          rfl
  | host type => cases key <;> rfl
  | rows schema =>
      cases key with
      | primitive component => exact False.elim admitted
      | row row => exact components_of_fit admitted

theorem member_form_eq_unwrapped {binding : Binding} {type : KeyType} (typed : binding.keyType? = some type) {key : Key}
    (admitted : binding.Admits key) : binding.memberForm key = key.unwrapped := by
  cases binding with
  | tag type => cases key <;> rfl
  | host type =>
      cases key with
      | primitive component => rfl
      | row row => exact False.elim admitted
  | rows schema => cases typed

theorem primitive_of_is_member {binding : Binding} {type : KeyType} (typed : binding.keyType? = some type) {key : Key}
    (member : binding.IsMember key) : ∃ component, key = .primitive component := by
  obtain ⟨admitted, kept⟩ := member
  cases key with
  | primitive component => exact ⟨component, rfl⟩
  | row row =>
      rw [member_form_eq_unwrapped typed admitted] at kept
      cases binding with
      | tag type =>
          obtain ⟨cell, rfl, _⟩ := Row.eq_singleton_of_key_types admitted
          cases kept
      | host type => exact False.elim admitted
      | rows schema => cases typed

theorem row_of_is_member {schema : KeySchema} {key : Key} (member : (rows schema).IsMember key) :
    ∃ row, key = .row row ∧ row.names = schema.names := by
  obtain ⟨admitted, kept⟩ := member
  cases key with
  | primitive component => exact False.elim admitted
  | row row =>
      refine ⟨_, kept.symm, names_of_fit admitted⟩

theorem eq_of_components {binding : Binding} {first second : Key} (firstMember : binding.IsMember first)
    (secondMember : binding.IsMember second) (same : first.components = second.components) : first = second := by
  cases typed : binding.keyType? with
  | some type =>
      obtain ⟨component, rfl⟩ := primitive_of_is_member typed firstMember
      obtain ⟨other, rfl⟩ := primitive_of_is_member typed secondMember
      exact congrArg Key.primitive (List.singleton_inj.mp same)
  | none =>
      cases binding with
      | tag type => cases typed
      | host type => cases typed
      | rows schema =>
          obtain ⟨row, rfl, names⟩ := row_of_is_member firstMember
          obtain ⟨other, rfl, otherNames⟩ := row_of_is_member secondMember
          exact congrArg Key.row ((Row.eq_iff_names_components row other).mpr ⟨names.trans otherNames.symm, same⟩)

end Binding

-- Bounds are held only where bounds may be set, and a set that is held has a member.
inductive Selection.Held (binding : Binding) (eligible : Bool) : Selection → Prop
  | range {start finish : Value} (lower : ∀ key, start = some key → eligible = true ∧ binding.IsBound key)
      (upper : ∀ key, finish = some key → eligible = true ∧ binding.IsBound key) : Held binding eligible (.range start finish)
  | distinct {keys : KeySet} (some : keys.toList ≠ []) (members : ∀ key ∈ keys.toList, binding.IsMember key) :
      Held binding eligible (.distinct keys)

theorem held_bound {p : Predicate} {value : Value} (accepted : p.boundVerdict value = .ok ()) :
    ∀ key, value.map p.binding.boundForm = some key → p.rangeEligible = true ∧ p.binding.IsBound key := by
  intro key kept
  obtain ⟨given, rfl, rfl⟩ := Option.map_eq_some_iff.mp kept
  obtain ⟨eligible, admitted⟩ := (p.bound_verdict_ok_iff given).mp accepted
  exact ⟨eligible, Binding.is_bound_bound_form admitted⟩

theorem held_insert {binding : Binding} {eligible : Bool} {keys : KeySet}
    (members : ∀ key ∈ keys.toList, binding.IsMember key) {added : Key} (admitted : binding.Admits added) :
    Selection.Held binding eligible (.distinct (keys.insert (binding.memberForm added))) := by
  refine .distinct ?_ ?_
  · exact List.ne_nil_of_mem ((KeySet.mem_insert keys _ _).mpr (.inr rfl))
  · intro key member
    rcases (KeySet.mem_insert keys _ key).mp member with known | rfl
    · exact members key known
    · exact Binding.is_member_member_form admitted

theorem held_after {p : Predicate} {call : Mutation} (held : p.selection.Held p.binding p.rangeEligible)
    (free : p.selection.conflict? call = none) (accepted : p.verdict call = .ok ()) :
    (p.selection.after p.binding call).Held p.binding p.rangeEligible := by
  obtain ⟨binding, eligible, selection⟩ := p
  cases call with
  | setStart value =>
      cases held with
      | range lower upper => exact .range (held_bound accepted) upper
      | distinct some members => cases free
  | setFinish value =>
      cases held with
      | range lower upper => exact .range lower (held_bound accepted)
      | distinct some members => cases free
  | add value =>
      cases value with
      | none => cases accepted
      | some key =>
          have admitted : binding.Admits key := Binding.verdict_ok_iff.mp accepted
          cases held with
          | range lower upper => exact held_insert (fun _ none => absurd none List.not_mem_nil) admitted
          | distinct some members => exact held_insert members admitted

-- What is kept of a predicate that was made as `fresh` and has accepted the calls.
structure Keeps (fresh p : Predicate) (calls : List Mutation) : Prop where
  binding : p.binding = fresh.binding
  eligible : p.rangeEligible = fresh.rangeEligible
  keyed : p.schema.hasKey = true
  held : p.selection.Held fresh.binding fresh.rangeEligible
  admitted : ∀ call ∈ calls, ∀ key, call.value = some key → fresh.binding.Admits key

theorem keeps_concat {fresh : Predicate} (p : Predicate) (calls : List Mutation) (call : Mutation) (q : Predicate)
    (keeps : Keeps fresh p calls) (made : p.apply call = .ok q) : Keeps fresh q (calls ++ [call]) := by
  have accepted : p.outcome call = .ok () := by
    rw [Predicate.outcome, made]
    rfl
  obtain ⟨free, verdict, rfl⟩ := (Predicate.apply_ok_iff keeps.keyed call q).mp made
  have held : p.selection.Held p.binding p.rangeEligible := by
    rw [keeps.binding, keeps.eligible]
    exact keeps.held
  have next := held_after held free verdict
  rw [keeps.binding, keeps.eligible] at next
  refine ⟨keeps.binding, keeps.eligible, keeps.keyed, by rwa [keeps.binding], ?_⟩
  intro other member key argument
  rcases List.mem_append.mp member with earlier | last
  · exact keeps.admitted other earlier key argument
  · rw [List.mem_singleton.mp last] at argument
    rw [← keeps.binding]
    exact Predicate.admitted_of_outcome keeps.keyed accepted argument

theorem keeps_run {origin : Origin} {options : Predicate.Options} {fresh : Predicate}
    (made : Predicate.make origin options = .ok fresh) (mutations : List Mutation) :
    Keeps fresh (fresh.run mutations) (fresh.acceptedCalls mutations) := by
  obtain ⟨keyed, empty, _⟩ := Predicate.fresh_of_make made
  have unset : fresh.selection.Held fresh.binding fresh.rangeEligible := by
    rw [empty]
    exact .range (fun _ none => nomatch none) (fun _ none => nomatch none)
  have start : Keeps fresh fresh [] := ⟨rfl, rfl, keyed, unset, fun _ none => absurd none List.not_mem_nil⟩
  exact Predicate.run_invariant keeps_concat start mutations

end RowSelection
