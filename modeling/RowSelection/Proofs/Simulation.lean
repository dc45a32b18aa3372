import Mathlib.Data.List.Forall2
import RowSelection.Proofs.Calls

set_option autoImplicit false

namespace RowSelection

-- Calls of one kind whose arguments belong together; the absent value belongs to itself alone.
inductive Mutation.Rel (keys : Key → Key → Prop) : Mutation → Mutation → Prop
  | setStart {first second : Value} (argument : Option.Rel keys first second) :
      Rel keys (.setStart first) (.setStart second)
  | setFinish {first second : Value} (argument : Option.Rel keys first second) :
      Rel keys (.setFinish first) (.setFinish second)
  | add {first second : Value} (argument : Option.Rel keys first second) : Rel keys (.add first) (.add second)

namespace Predicate

def afterCall (p : Predicate) (call : Mutation) : Predicate :=
  { p with selection := p.selection.after p.binding call }

theorem step_of_accepted {p : Predicate} (keyed : p.schema.hasKey = true) {call : Mutation}
    (accepted : p.outcome call = .ok ()) : p.step call = p.afterCall call := by
  rw [step_eq keyed, accepted]
  rfl

theorem step_of_refused {p : Predicate} (keyed : p.schema.hasKey = true) {call : Mutation}
    (refused : p.outcome call ≠ .ok ()) : p.step call = p := by
  rw [step_eq keyed]
  cases answer : p.outcome call with
  | ok done => exact absurd answer refused
  | error error => rfl

theorem step_alongside {Related : Predicate → Predicate → Prop} {p q : Predicate} (related : Related p q)
    (firstKeyed : p.schema.hasKey = true) (secondKeyed : q.schema.hasKey = true) {call other : Mutation}
    (succeeds : p.outcome call = .ok () ↔ q.outcome other = .ok ())
    (changed : p.outcome call = .ok () → Related (p.afterCall call) (q.afterCall other)) :
    Related (p.step call) (q.step other) := by
  by_cases accepted : p.outcome call = .ok ()
  · rw [step_of_accepted firstKeyed accepted, step_of_accepted secondKeyed (succeeds.mp accepted)]
    exact changed accepted
  · rw [step_of_refused firstKeyed accepted, step_of_refused secondKeyed (mt succeeds.mpr accepted)]
    exact related

theorem run_alongside {Related : Predicate → Predicate → Prop} {Calls : Mutation → Mutation → Prop}
    {Answers : Except PredicateError Unit → Except PredicateError Unit → Prop}
    (step : ∀ p q call other, Related p q → Calls call other →
      Answers (p.outcome call) (q.outcome other) ∧ Related (p.step call) (q.step other))
    {p q : Predicate} (related : Related p q) {calls others : List Mutation} (alike : List.Forall₂ Calls calls others) :
    List.Forall₂ Answers (p.outcomes calls) (q.outcomes others) ∧ Related (p.run calls) (q.run others) := by
  induction alike generalizing p q with
  | nil => exact ⟨.nil, related⟩
  | cons head tail ih =>
      obtain ⟨answer, next⟩ := step _ _ _ _ related head
      obtain ⟨later, reached⟩ := ih next
      exact ⟨.cons answer later, reached⟩

end Predicate
end RowSelection
