import RowSelection.Proofs.History
import RowSelection.Proofs.Indistinguishable
import RowSelection.Proofs.Replay

set_option autoImplicit false

namespace RowSelection

-- Calls for the two bounds, those for each bound in the order of their arguments.
inductive Interleaved : List Value → List Value → List Mutation → Prop
  | nil : Interleaved [] [] []
  | start {value : Value} {starts finishes : List Value} {calls : List Mutation}
      (rest : Interleaved starts finishes calls) : Interleaved (value :: starts) finishes (.setStart value :: calls)
  | finish {value : Value} {starts finishes : List Value} {calls : List Mutation}
      (rest : Interleaved starts finishes calls) : Interleaved starts (value :: finishes) (.setFinish value :: calls)

theorem is_add_of_interleaved {starts finishes : List Value} {calls : List Mutation}
    (interleaved : Interleaved starts finishes calls) : ∀ call ∈ calls, call.isAdd = false := by
  induction interleaved with
  | nil => exact fun _ none => absurd none List.not_mem_nil
  | start rest ih => exact List.forall_mem_cons.mpr ⟨rfl, ih⟩
  | finish rest ih => exact List.forall_mem_cons.mpr ⟨rfl, ih⟩

theorem conflict_after (binding : Binding) {selection : Selection} {call other : Mutation}
    (free : selection.conflict? call = none) (kind : other.isAdd = call.isAdd) :
    (selection.after binding call).conflict? other = selection.conflict? other := by
  cases selection with
  | range start finish =>
      cases call with
      | setStart value =>
          cases other with
          | setStart value => rfl
          | setFinish value => rfl
          | add value => cases kind
      | setFinish value =>
          cases other with
          | setStart value => rfl
          | setFinish value => rfl
          | add value => cases kind
      | add value =>
          cases value with
          | none => rfl
          | some key =>
              cases other with
              | setStart value => cases kind
              | setFinish value => cases kind
              | add value => exact free.symm
  | distinct keys =>
      cases call with
      | setStart value => rfl
      | setFinish value => rfl
      | add value =>
          cases value with
          | none => rfl
          | some key => cases other <;> rfl

namespace Predicate

structure AnswersAs (p : Predicate) (adds : Bool) (q : Predicate) : Prop where
  keyed : q.schema.hasKey = true
  binding : q.binding = p.binding
  eligible : q.rangeEligible = p.rangeEligible
  conflict : ∀ call, call.isAdd = adds → q.selection.conflict? call = p.selection.conflict? call

theorem answer_of_kind {p q : Predicate} (keyed : p.schema.hasKey = true) {call : Mutation} (same : p.AnswersAs call.isAdd q) :
    q.outcome call = p.outcome call := by
  rw [outcome_eq same.keyed, outcome_eq keyed, same.conflict call rfl, verdict_congr same.binding same.eligible]

theorem answers_as_step {p q : Predicate} {call : Mutation} (same : p.AnswersAs call.isAdd q) :
    p.AnswersAs call.isAdd (q.step call) := by
  by_cases accepted : q.outcome call = .ok ()
  · rw [step_of_accepted same.keyed accepted]
    refine ⟨same.keyed, same.binding, same.eligible, ?_⟩
    intro other kind
    obtain ⟨free, _⟩ := (outcome_ok_iff same.keyed call).mp accepted
    exact (conflict_after q.binding free kind).trans (same.conflict other kind)
  · rw [step_of_refused same.keyed accepted]
    exact same

theorem outcomes_of_kind {p : Predicate} (keyed : p.schema.hasKey = true) {adds : Bool} {calls : List Mutation}
    (kind : ∀ call ∈ calls, call.isAdd = adds) :
    p.outcomes calls = calls.map p.outcome := by
  have run : ∀ q, p.AnswersAs adds q → q.outcomes calls = calls.map p.outcome := by
    induction calls with
    | nil => exact fun _ _ => rfl
    | cons call rest ih =>
        obtain ⟨rfl, later⟩ := List.forall_mem_cons.mp kind
        intro q same
        rw [outcomes_cons, List.map_cons, answer_of_kind keyed same, ih later _ (answers_as_step same)]
  exact run p ⟨keyed, rfl, rfl, fun _ _ => rfl⟩

theorem run_of_refused {p : Predicate} (keyed : p.schema.hasKey = true) {calls : List Mutation}
    (refused : ∀ call ∈ calls, p.outcome call ≠ .ok ()) : p.run calls = p := by
  induction calls with
  | nil => rfl
  | cons call rest ih =>
      obtain ⟨first, later⟩ := List.forall_mem_cons.mp refused
      change (p.step call).run rest = p
      rw [step_of_refused keyed first]
      exact ih later

end Predicate

def Binding.added (binding : Binding) : Value → List Key
  | none => []
  | some key => if binding.Admits key then [binding.memberForm key] else []

def Selection.join (selection : Selection) (key : Key) : Selection := .distinct (selection.members.insert key)

theorem foldl_join {keys : List Key} (filled : keys ≠ []) (selection : Selection) :
    keys.foldl Selection.join selection = .distinct (keys.foldl KeySet.insert selection.members) := by
  induction keys generalizing selection with
  | nil => exact absurd rfl filled
  | cons key rest ih =>
      by_cases last : rest = []
      · rw [last]
        rfl
      · exact ih last (selection.join key)

theorem same_contents_foldl_join (selection : Selection) {first second : List Key}
    (same : ∀ key, key ∈ first ↔ key ∈ second) :
    (first.foldl Selection.join selection).SameContents (second.foldl Selection.join selection) := by
  by_cases none : first = []
  · have alsoNone : second = [] := List.eq_nil_iff_forall_not_mem.mpr fun key member =>
      absurd ((same key).mpr member) (none ▸ List.not_mem_nil)
    rw [none, alsoNone]
    exact .refl selection
  · obtain ⟨key, member⟩ := List.exists_mem_of_ne_nil _ none
    have alsoSome : second ≠ [] := List.ne_nil_of_mem ((same key).mp member)
    rw [foldl_join none, foldl_join alsoSome]
    refine .distinct ((List.perm_ext_iff_of_nodup (KeySet.nodup _) (KeySet.nodup _)).mpr ?_)
    intro key
    rw [KeySet.mem_foldl_insert, KeySet.mem_foldl_insert, same]

namespace Predicate

theorem step_add {p : Predicate} (keyed : p.schema.hasKey = true) (free : ∀ value, p.selection.conflict? (.add value) = none)
    (value : Value) : p.step (.add value) = p.holding ((p.binding.added value).foldl Selection.join p.selection) := by
  have answer : p.outcome (.add value) = p.memberVerdict value := by
    rw [outcome_eq keyed, free value]
    rfl
  cases value with
  | none => exact step_of_refused keyed (by rw [answer]; exact nofun)
  | some key =>
      have accepted : p.outcome (.add (some key)) = .ok () ↔ p.binding.Admits key := by
        rw [answer]
        exact Binding.verdict_ok_iff
      by_cases admitted : p.binding.Admits key
      · rw [step_of_accepted keyed (accepted.mpr admitted), afterCall, after_add, Binding.added, if_pos admitted]
        rfl
      · rw [step_of_refused keyed (mt accepted.mp admitted), Binding.added, if_neg admitted]
        rfl

theorem free_foldl_join {selection : Selection} (free : ∀ value, selection.conflict? (.add value) = none)
    (keys : List Key) (value : Value) : (keys.foldl Selection.join selection).conflict? (.add value) = none := by
  by_cases none : keys = []
  · rw [none]
    exact free value
  · rw [foldl_join none]
    rfl

theorem run_adds {p : Predicate} (keyed : p.schema.hasKey = true) (free : ∀ value, p.selection.conflict? (.add value) = none)
    (values : List Value) :
    p.run (values.map .add) = p.holding ((values.flatMap p.binding.added).foldl Selection.join p.selection) := by
  induction values generalizing p with
  | nil => rfl
  | cons value rest ih =>
      let q := p.holding ((p.binding.added value).foldl Selection.join p.selection)
      have later : q.run (rest.map .add) = q.holding ((rest.flatMap p.binding.added).foldl Selection.join q.selection) :=
        ih keyed (free_foldl_join free _)
      change (p.step (.add value)).run (rest.map .add) = _
      rw [step_add keyed free, later, List.flatMap_cons, List.foldl_append]
      rfl

theorem conflict_add (selection : Selection) (value other : Value) :
    selection.conflict? (.add value) = selection.conflict? (.add other) := by
  cases selection <;> rfl

theorem adds_alike {p : Predicate} (keyed : p.schema.hasKey = true) {first second : List Value}
    (same : ∀ value, value ∈ first ↔ value ∈ second) : (p.run (first.map .add)).Alike (p.run (second.map .add)) := by
  apply alike_of_reordered
  cases conflict : p.selection.conflict? (.add none) with
  | none =>
      have free : ∀ value, p.selection.conflict? (.add value) = none := fun value =>
        (conflict_add p.selection value none).trans conflict
      have sameKeys : ∀ key, key ∈ first.flatMap p.binding.added ↔ key ∈ second.flatMap p.binding.added := by
        simp only [List.mem_flatMap, same, implies_true]
      rw [run_adds keyed free, run_adds keyed free]
      exact ⟨keyed, rfl, rfl, same_contents_foldl_join p.selection sameKeys⟩
  | some error =>
      have refused : ∀ values : List Value, p.run (values.map .add) = p := by
        intro values
        apply run_of_refused keyed
        intro call member
        obtain ⟨value, _, rfl⟩ := List.mem_map.mp member
        rw [outcome_eq keyed, conflict_add p.selection value none, conflict]
        exact nofun
      rw [refused, refused]
      exact ⟨keyed, rfl, rfl, .refl p.selection⟩

def acceptsBound (p : Predicate) (value : Value) : Bool := (p.boundVerdict value).isOk

-- What values leave of a bound if they are set in turn: the last that is accepted counts.
def leftBy (p : Predicate) (own : Value) (values : List Value) : Value :=
  ((values.filter p.acceptsBound).getLast?.map (Option.map p.binding.boundForm)).getD own

theorem left_by_cons (p : Predicate) (own value : Value) (rest : List Value) :
    p.leftBy own (value :: rest) =
      p.leftBy (if p.acceptsBound value then value.map p.binding.boundForm else own) rest := by
  by_cases accepted : p.acceptsBound value = true
  · rw [if_pos accepted, leftBy, List.filter_cons_of_pos accepted, List.getLast?_cons, leftBy]
    cases (rest.filter p.acceptsBound).getLast? <;> rfl
  · rw [if_neg accepted, leftBy, List.filter_cons_of_neg accepted, leftBy]

theorem accepts_bound_iff (p : Predicate) (value : Value) : p.acceptsBound value = true ↔ p.boundVerdict value = .ok () := by
  rw [acceptsBound]
  cases p.boundVerdict value <;> simp [Except.isOk, Except.toBool]

theorem outcome_bound {p : Predicate} (keyed : p.schema.hasKey = true) {start finish : Value}
    (held : p.selection = .range start finish) (value : Value) :
    p.outcome (.setStart value) = p.boundVerdict value ∧ p.outcome (.setFinish value) = p.boundVerdict value := by
  rw [outcome_eq keyed, outcome_eq keyed, held]
  exact ⟨rfl, rfl⟩

theorem step_of_bound {p : Predicate} (keyed : p.schema.hasKey = true) {call : Mutation} {value : Value}
    (answer : p.outcome call = p.boundVerdict value) :
    p.step call = if p.acceptsBound value then p.afterCall call else p := by
  by_cases accepted : p.acceptsBound value = true
  · rw [if_pos accepted]
    exact step_of_accepted keyed (answer.trans ((p.accepts_bound_iff value).mp accepted))
  · rw [if_neg accepted]
    apply step_of_refused keyed
    rw [answer]
    exact mt (p.accepts_bound_iff value).mpr accepted

theorem step_set_start {p : Predicate} (keyed : p.schema.hasKey = true) {start finish : Value}
    (held : p.selection = .range start finish) (value : Value) :
    p.step (.setStart value) =
      p.holding (.range (if p.acceptsBound value then value.map p.binding.boundForm else start) finish) := by
  rw [step_of_bound keyed (outcome_bound keyed held value).1, afterCall, held]
  cases p.acceptsBound value with
  | true => rfl
  | false => exact congrArg p.holding held

theorem step_set_finish {p : Predicate} (keyed : p.schema.hasKey = true) {start finish : Value}
    (held : p.selection = .range start finish) (value : Value) :
    p.step (.setFinish value) =
      p.holding (.range start (if p.acceptsBound value then value.map p.binding.boundForm else finish)) := by
  rw [step_of_bound keyed (outcome_bound keyed held value).2, afterCall, held]
  cases p.acceptsBound value with
  | true => rfl
  | false => exact congrArg p.holding held

theorem run_bounds {p : Predicate} (keyed : p.schema.hasKey = true) {starts finishes : List Value} {calls : List Mutation}
    (interleaved : Interleaved starts finishes calls) {start finish : Value} (held : p.selection = .range start finish) :
    p.run calls = p.holding (.range (p.leftBy start starts) (p.leftBy finish finishes)) := by
  induction interleaved generalizing p start finish with
  | nil =>
      change p = p.holding (.range start finish)
      rw [← held]
      rfl
  | @start value starts finishes calls rest ih =>
      have later := ih (p := p.step (.setStart value)) (keyed_step keyed _) (congrArg selection (step_set_start keyed held value))
      change (p.step (.setStart value)).run calls = _
      rw [later, step_set_start keyed held, left_by_cons]
      rfl
  | @finish value starts finishes calls rest ih =>
      have later := ih (p := p.step (.setFinish value)) (keyed_step keyed _) (congrArg selection (step_set_finish keyed held value))
      change (p.step (.setFinish value)).run calls = _
      rw [later, step_set_finish keyed held, left_by_cons]
      rfl

def lastAccepted? (p : Predicate) (call : Value → Mutation) (values : List Value) : Option Value :=
  (values.filter fun value => (p.outcome (call value)).isOk).getLast?

theorem left_by_eq {p : Predicate} {call : Value → Mutation}
    (answer : ∀ value, p.outcome (call value) = p.boundVerdict value) (own : Value) (values : List Value) :
    p.leftBy own values = (p.lastAccepted? call values).elim own fun value => value.map p.binding.boundForm := by
  have same : p.lastAccepted? call values = (values.filter p.acceptsBound).getLast? := by
    simp only [lastAccepted?, answer]
    rfl
  rw [same, leftBy]
  cases (values.filter p.acceptsBound).getLast? <;> rfl

theorem last_accepted?_of_refused {p : Predicate} {call : Value → Mutation} {error : PredicateError}
    (refused : ∀ value, p.outcome (call value) = .error error) (values : List Value) :
    p.lastAccepted? call values = none := by
  simp [lastAccepted?, refused, Except.isOk, Except.toBool]

section
variable {p : Predicate} (keyed : p.schema.hasKey = true)
include keyed

theorem refused_of_members {keys : KeySet} (held : p.selection = .distinct keys) {call : Mutation} (bound : call.isAdd = false) :
    p.outcome call = .error .keysAlreadyAdded := by
  rw [outcome_eq keyed, held]
  cases call with
  | setStart value => rfl
  | setFinish value => rfl
  | add value => cases bound

variable {starts finishes : List Value} {calls : List Mutation} (interleaved : Interleaved starts finishes calls)
include interleaved

theorem run_of_members {keys : KeySet} (held : p.selection = .distinct keys) : p.run calls = p := by
  apply run_of_refused keyed
  intro call member
  rw [refused_of_members keyed held (is_add_of_interleaved interleaved call member)]
  exact nofun

theorem run_interleaved {others : List Mutation} (alsoInterleaved : Interleaved starts finishes others) :
    p.run others = p.run calls := by
  cases held : p.selection with
  | range start finish => rw [run_bounds keyed interleaved held, run_bounds keyed alsoInterleaved held]
  | distinct keys => rw [run_of_members keyed interleaved held, run_of_members keyed alsoInterleaved held]

theorem start_left :
    (p.run calls).start = (p.lastAccepted? .setStart starts).elim p.start fun value => value.map p.binding.boundForm := by
  cases held : p.selection with
  | range start finish =>
      have answer : ∀ value, p.outcome (.setStart value) = p.boundVerdict value :=
        fun value => (outcome_bound keyed held value).1
      rw [run_bounds keyed interleaved held, (read_range held).1, ← left_by_eq answer]
      exact start_range _ _ _ _
  | distinct keys =>
      have refused : ∀ value, p.outcome (.setStart value) = .error .keysAlreadyAdded :=
        fun _ => refused_of_members keyed held rfl
      rw [run_of_members keyed interleaved held, last_accepted?_of_refused refused]
      rfl

theorem finish_left :
    (p.run calls).finish =
      (p.lastAccepted? .setFinish finishes).elim p.finish fun value => value.map p.binding.boundForm := by
  cases held : p.selection with
  | range start finish =>
      have answer : ∀ value, p.outcome (.setFinish value) = p.boundVerdict value :=
        fun value => (outcome_bound keyed held value).2
      rw [run_bounds keyed interleaved held, (read_range held).2.1, ← left_by_eq answer]
      exact finish_range _ _ _ _
  | distinct keys =>
      have refused : ∀ value, p.outcome (.setFinish value) = .error .keysAlreadyAdded :=
        fun _ => refused_of_members keyed held rfl
      rw [run_of_members keyed interleaved held, last_accepted?_of_refused refused]
      rfl

end

end Predicate

theorem independent_calls_commute {origin : Origin} {options : Predicate.Options} {fresh : Predicate}
    (made : Predicate.make origin options = .ok fresh) (mutations : List Mutation) :
    let p := fresh.run mutations
    (∀ first second : List Value, (∀ value, value ∈ first ↔ value ∈ second) →
      p.outcomes (first.map .add) = first.map (fun value => p.outcome (.add value)) ∧
      p.outcomes (second.map .add) = second.map (fun value => p.outcome (.add value)) ∧
      (p.run (first.map .add)).Alike (p.run (second.map .add))) ∧
    ∀ starts finishes calls, Interleaved starts finishes calls →
      p.outcomes calls = calls.map p.outcome ∧
      (∀ others, Interleaved starts finishes others → p.run others = p.run calls) ∧
      (p.run calls).start =
        (p.lastAccepted? .setStart starts).elim p.start (fun value => value.map p.binding.boundForm) ∧
      (p.run calls).finish =
        (p.lastAccepted? .setFinish finishes).elim p.finish (fun value => value.map p.binding.boundForm) := by
  intro p
  have keyed : p.schema.hasKey = true := (keeps_run made mutations).keyed
  constructor
  · intro first second same
    have answers : ∀ values : List Value, p.outcomes (values.map .add) = values.map (fun value => p.outcome (.add value)) := by
      intro values
      have kind : ∀ call ∈ values.map Mutation.add, call.isAdd = true := by
        intro call member
        obtain ⟨value, _, rfl⟩ := List.mem_map.mp member
        rfl
      rw [Predicate.outcomes_of_kind keyed kind, List.map_map]
      rfl
    exact ⟨answers first, answers second, Predicate.adds_alike keyed same⟩
  · intro starts finishes calls interleaved
    exact ⟨Predicate.outcomes_of_kind keyed (is_add_of_interleaved interleaved),
      fun _ => Predicate.run_interleaved keyed interleaved, Predicate.start_left keyed interleaved,
      Predicate.finish_left keyed interleaved⟩

theorem orders_commute :
    let row := some (Orders.row ["c0", "c1"])
    let other := some (Orders.row ["region", "id"])
    let misfit := some (Key.primitive (.long 1))
    let first := [row, misfit, other, row]
    let second := [misfit, other, misfit, row]
    let starts := [misfit, other, misfit]
    let finishes := [none, row, misfit]
    let calls : List Mutation :=
      [.setFinish none, .setStart misfit, .setFinish row, .setStart other, .setStart misfit, .setFinish misfit]
    Predicate.make (.keySchema Orders.key) .default = .ok Orders.predicate ∧
      (∀ value, value ∈ first ↔ value ∈ second) ∧
      (Orders.predicate.run (first.map .add)).Alike (Orders.predicate.run (second.map .add)) ∧
      Interleaved starts finishes calls ∧
      Orders.predicate.outcomes calls = calls.map Orders.predicate.outcome ∧
      (Orders.predicate.run calls).start = other ∧ (Orders.predicate.run calls).finish = row := by
  intro row other misfit first second starts finishes calls
  have made : Predicate.make (.keySchema Orders.key) .default = .ok Orders.predicate := rfl
  have same : ∀ value, value ∈ first ↔ value ∈ second := by
    intro value
    simp only [first, second, List.mem_cons, List.not_mem_nil]
    tauto
  have interleaved : Interleaved starts finishes calls :=
    .finish (.start (.finish (.start (.start (.finish .nil)))))
  obtain ⟨keys, bounds⟩ := independent_calls_commute made []
  obtain ⟨_, _, alike⟩ := keys first second same
  obtain ⟨answers, _, start, finish⟩ := bounds _ _ calls interleaved
  exact ⟨made, same, alike, interleaved, answers, start, finish⟩

end RowSelection
