import RowSelection.Proofs.StoredPredicate

set_option autoImplicit false

namespace RowSelection

namespace Mutation

def isAdd : Mutation → Bool
  | .add _ => true
  | _ => false

def added? : Mutation → Value
  | .add value => value
  | _ => none

def start? : Mutation → Option Value
  | .setStart value => some value
  | _ => none

def finish? : Mutation → Option Value
  | .setFinish value => some value
  | _ => none

end Mutation

def addedKeys (calls : List Mutation) : List Key := calls.filterMap Mutation.added?

def lastStart (calls : List Mutation) : Value := (calls.filterMap Mutation.start?).getLast?.join

def lastFinish (calls : List Mutation) : Value := (calls.filterMap Mutation.finish?).getLast?.join

def Selection.ofCalls (binding : Binding) (calls : List Mutation) : Selection :=
  if addedKeys calls = [] then
    .range ((lastStart calls).map binding.boundForm) ((lastFinish calls).map binding.boundForm)
  else .distinct (KeySet.ofList ((addedKeys calls).map binding.memberForm))

@[simp] theorem added_keys_set_start (calls : List Mutation) (value : Value) :
    addedKeys (calls ++ [.setStart value]) = addedKeys calls := by
  simp [addedKeys, Mutation.added?]

@[simp] theorem added_keys_set_finish (calls : List Mutation) (value : Value) :
    addedKeys (calls ++ [.setFinish value]) = addedKeys calls := by
  simp [addedKeys, Mutation.added?]

@[simp] theorem added_keys_add (calls : List Mutation) (key : Key) :
    addedKeys (calls ++ [.add (some key)]) = addedKeys calls ++ [key] := by
  simp [addedKeys, Mutation.added?]

@[simp] theorem last_start_set_start (calls : List Mutation) (value : Value) :
    lastStart (calls ++ [.setStart value]) = value := by
  simp [lastStart, Mutation.start?]

@[simp] theorem last_start_set_finish (calls : List Mutation) (value : Value) :
    lastStart (calls ++ [.setFinish value]) = lastStart calls := by
  simp [lastStart, Mutation.start?]

@[simp] theorem last_finish_set_finish (calls : List Mutation) (value : Value) :
    lastFinish (calls ++ [.setFinish value]) = value := by
  simp [lastFinish, Mutation.finish?]

@[simp] theorem last_finish_set_start (calls : List Mutation) (value : Value) :
    lastFinish (calls ++ [.setStart value]) = lastFinish calls := by
  simp [lastFinish, Mutation.finish?]

namespace Selection

theorem of_calls_range {binding : Binding} {calls : List Mutation} (none : addedKeys calls = []) :
    ofCalls binding calls =
      .range ((lastStart calls).map binding.boundForm) ((lastFinish calls).map binding.boundForm) :=
  if_pos none

theorem of_calls_distinct {binding : Binding} {calls : List Mutation} (added : addedKeys calls ≠ []) :
    ofCalls binding calls = .distinct (KeySet.ofList ((addedKeys calls).map binding.memberForm)) :=
  if_neg added

theorem of_calls_concat {binding : Binding} {calls : List Mutation} {call : Mutation}
    (free : (ofCalls binding calls).conflict? call = none) (present : call ≠ .add none) :
    ofCalls binding (calls ++ [call]) = (ofCalls binding calls).after binding call := by
  by_cases none : addedKeys calls = []
  · rw [of_calls_range none]
    cases call with
    | setStart value => simp [ofCalls, none, after]
    | setFinish value => simp [ofCalls, none, after]
    | add value =>
        cases value with
        | none => exact absurd rfl present
        | some key => simp [ofCalls, none, after, KeySet.ofList]
  · rw [of_calls_distinct none] at free ⊢
    cases call with
    | setStart value => cases free
    | setFinish value => cases free
    | add value =>
        cases value with
        | none => exact absurd rfl present
        | some key => simp [ofCalls, after, ← KeySet.of_list_concat]

end Selection

theorem added_keys_of_is_add {calls : List Mutation} (present : .add none ∉ calls) {call : Mutation}
    (member : call ∈ calls) (adds : call.isAdd) : addedKeys calls ≠ [] := by
  cases call with
  | setStart value => cases adds
  | setFinish value => cases adds
  | add value =>
      cases value with
      | none => exact absurd member present
      | some key =>
          have held : key ∈ addedKeys calls := List.mem_filterMap.mpr ⟨.add (some key), member, rfl⟩
          exact List.ne_nil_of_mem held

-- What ties a predicate to the calls that made it what it is. Their order is part of it: once a key
-- has been added, nothing but keys is accepted.
structure Follows (binding : Binding) (p : Predicate) (calls : List Mutation) : Prop where
  bound : p.binding = binding
  keyed : p.schema.hasKey = true
  selection : p.selection = .ofCalls binding calls
  present : .add none ∉ calls
  ordered : calls.Pairwise fun earlier later => earlier.isAdd → later.isAdd

theorem follows_concat {binding : Binding} (p : Predicate) (calls : List Mutation) (call : Mutation) (q : Predicate)
    (follows : Follows binding p calls) (outcome : p.apply call = .ok q) : Follows binding q (calls ++ [call]) := by
  obtain ⟨free, admitted, rfl⟩ := (Predicate.apply_ok_iff follows.keyed call q).mp outcome
  rw [follows.selection] at free
  have present : call ≠ .add none := by
    rintro rfl
    cases admitted
  refine ⟨follows.bound, follows.keyed, ?_, ?_, ?_⟩
  · rw [Selection.of_calls_concat free present, follows.selection, follows.bound]
  · simpa using ⟨follows.present, Ne.symm present⟩
  · rw [List.pairwise_append]
    refine ⟨follows.ordered, List.pairwise_singleton _ _, ?_⟩
    intro earlier member later last adds
    rw [List.mem_singleton] at last
    subst last
    have added := added_keys_of_is_add follows.present member adds
    rw [Selection.of_calls_distinct added] at free
    cases later with
    | setStart value => cases free
    | setFinish value => cases free
    | add value => rfl

theorem follows_run {origin : Origin} {options : Predicate.Options} {p : Predicate}
    (made : Predicate.make origin options = .ok p) (mutations : List Mutation) :
    Follows p.binding (p.run mutations) (p.acceptedCalls mutations) := by
  obtain ⟨keyed, empty, _⟩ := Predicate.fresh_of_make made
  have start : Follows p.binding p [] := ⟨rfl, keyed, empty, List.not_mem_nil, List.Pairwise.nil⟩
  exact Predicate.run_invariant follows_concat start mutations

theorem mem_added_keys (calls : List Mutation) (key : Key) : key ∈ addedKeys calls ↔ .add (some key) ∈ calls := by
  constructor
  · intro member
    obtain ⟨call, called, adds⟩ := List.mem_filterMap.mp member
    cases call with
    | setStart value => cases adds
    | setFinish value => cases adds
    | add value =>
        cases adds
        exact called
  · intro called
    exact List.mem_filterMap.mpr ⟨.add (some key), called, rfl⟩

theorem run_reads_accepted_calls {origin : Origin} {options : Predicate.Options} {p : Predicate}
    (made : Predicate.make origin options = .ok p) (mutations : List Mutation) :
    let q := p.run mutations
    let calls := p.acceptedCalls mutations
    ((∃ value, .add value ∈ calls) →
      q.start = none ∧ q.finish = none ∧
      ∃ view, q.distinctKeys? = some view ∧ view.toList.Nodup ∧
        (∀ key, key ∈ view.toList ↔ ∃ added, .add (some added) ∈ calls ∧ p.binding.memberForm added = key) ∧
        q.condition = .distinct view.toList) ∧
    ((∀ value, .add value ∉ calls) →
      q.distinctKeys? = none ∧
      q.start = (lastStart calls).map p.binding.boundForm ∧
      q.finish = (lastFinish calls).map p.binding.boundForm ∧
      q.condition =
        if q.start = none ∧ q.finish = none then .all else .range (.ofValue q.start) (.ofValue q.finish)) ∧
    (.add none ∉ calls ∧ calls.Pairwise fun earlier later => earlier.isAdd → later.isAdd) ∧
    (p.stored.run (mutations.map Mutation.stored)).ReadsAs q := by
  intro q calls
  have follows : Follows p.binding q calls := follows_run made mutations
  refine ⟨?_, ?_, ⟨follows.present, follows.ordered⟩, StoredPredicate.run_reads p mutations⟩
  · rintro ⟨value, called⟩
    have added : addedKeys calls ≠ [] := added_keys_of_is_add follows.present called rfl
    have held := follows.selection.trans (Selection.of_calls_distinct added)
    obtain ⟨start, finish, shown, condition⟩ := Predicate.read_distinct held
    refine ⟨start, finish, _, shown, ?_, ?_, ?_⟩
    · rw [Predicate.to_list_view]
      exact KeySet.nodup _
    · intro key
      simp [KeySet.mem_of_list, mem_added_keys]
    · rw [condition, Predicate.to_list_view, Condition.of_keys_of_ne_nil]
      obtain ⟨first, member⟩ := List.exists_mem_of_ne_nil _ added
      exact List.ne_nil_of_mem ((KeySet.mem_of_list _ _).mpr (List.mem_map_of_mem member))
  · intro notCalled
    have none : addedKeys calls = [] :=
      List.eq_nil_iff_forall_not_mem.mpr fun key member => notCalled _ ((mem_added_keys calls key).mp member)
    have held := follows.selection.trans (Selection.of_calls_range none)
    obtain ⟨start, finish, hidden, condition⟩ := Predicate.read_range held
    refine ⟨hidden, start, finish, ?_⟩
    rw [condition, Condition.of_bounds_eq, start, finish]

namespace Orders

def key : KeySchema := ⟨[⟨"region", .text⟩, ⟨"id", .long⟩]⟩

def row (names : List String) : Key := .row (.ofParts names [.text "eu", .long 1])

def predicate : Predicate := ⟨.rows key, true, .range none none⟩

def calls : List Mutation :=
  [.setStart (some (row ["a", "b"])), .add (some (row ["c0", "c1"])), .setStart none,
    .add (some (row ["c0", "c1"])), .add (some (row ["region", "id"])), .setFinish none]

end Orders

theorem orders_read :
    Predicate.make (.keySchema Orders.key) .default = .ok Orders.predicate ∧
      ∃ view, (Orders.predicate.run Orders.calls).distinctKeys? = some view ∧ view.toList.Nodup ∧
        (∀ key, key ∈ view.toList ↔
          ∃ added, .add (some added) ∈ Orders.predicate.acceptedCalls Orders.calls ∧
            Orders.predicate.binding.memberForm added = key) ∧
        (Orders.predicate.run Orders.calls).condition = .distinct view.toList ∧
        (Orders.predicate.stored.run (Orders.calls.map Mutation.stored)).condition =
          .distinct (view.toList.map Key.stored) := by
  have made : Predicate.make (.keySchema Orders.key) .default = .ok Orders.predicate := rfl
  have accepted : Orders.predicate.acceptedCalls Orders.calls =
      [.setStart (some (Orders.row ["a", "b"])), .setStart none,
        .add (some (Orders.row ["c0", "c1"])), .add (some (Orders.row ["region", "id"]))] := rfl
  have called : .add (some (Orders.row ["c0", "c1"])) ∈ Orders.predicate.acceptedCalls Orders.calls := by
    rw [accepted]
    simp
  obtain ⟨added, _, _, stored⟩ := run_reads_accepted_calls made Orders.calls
  obtain ⟨_, _, view, shown, apart, members, condition⟩ := added ⟨_, called⟩
  refine ⟨made, view, shown, apart, members, condition, ?_⟩
  rw [stored.condition, condition]
  rfl

end RowSelection
