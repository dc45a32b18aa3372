import RowSelection.Journal
import RowSelection.Proofs.Calls

set_option autoImplicit false

namespace RowSelection

-- The texts as they are read, written out apart from the names and messages that the journal composes them of.
namespace Wording

def column : KeyType → String
  | .text => "Utf8"
  | .integer => "Int32"
  | .long => "Int64"
  | .timestamp => "Timestamp(Millisecond, None)"

def columns (types : List KeyType) : String :=
  "[" ++ String.intercalate ", " (types.map column) ++ "]"

def component : KeyType → String
  | .text => "alloc::string::String"
  | .integer => "i32"
  | .long => "i64"
  | .timestamp => "keymatch::key::timestamp::Timestamp"

def key : Key → String
  | .primitive held => component held.keyType
  | .row _ => "keymatch::key::row::RowKey"

def binding : Binding → String
  | .tag .text => "Dynamic(String)"
  | .tag .integer => "Dynamic(Integer)"
  | .tag .long => "Dynamic(Long)"
  | .tag .timestamp => "Dynamic(Timestamp)"
  | .host .text => "Native \x7b native: alloc::string::String, key_type: String \x7d"
  | .host .integer => "Native \x7b native: i32, key_type: Integer \x7d"
  | .host .long => "Native \x7b native: i64, key_type: Long \x7d"
  | .host .timestamp => "Native \x7b native: keymatch::key::timestamp::Timestamp, key_type: Timestamp \x7d"
  | .rows _ => "GenericKey"

def variant : KeyVariant → String
  | .plain => "Plain"
  | .temporal => "Temporal"
  | .composite => "Composite"

def operation : Mutation → String
  | .setStart _ => "set_start"
  | .setFinish _ => "set_finish"
  | .add _ => "add"

def unfitRow (expected : List KeyType) (row : Row) : String :=
  if row.isEmpty then "row key schema unmatched: row key has no components"
  else "row key schema unmatched: incompatible key schemas: expected " ++ columns expected ++ ", got " ++
    columns row.keyTypes

def unfitType (expected : String) (given : Key) : String :=
  "row key type unmatched: expected " ++ expected ++ ", got " ++ key given

def unfit : Binding → Key → String
  | .tag type, .primitive held => unfitType (component type) (.primitive held)
  | .tag type, .row row => unfitRow [type] row
  | .host type, given => unfitType (component type) given
  | .rows _, .primitive held => unfitType "keymatch::key::row::RowKey" (.primitive held)
  | .rows schema, .row row => unfitRow schema.keyTypes row

-- Why a call is refused, told from what can be read of the predicate and from the argument. An absent bound is
-- refused for added keys alone, and so has no text of its own.
def refusedBound (p : Predicate) (value : Value) : String :=
  if p.distinctKeys? ≠ none then "condition conflict: distinct keys have already been specified"
  else if p.rangeEligible then value.elim "" (unfit p.binding)
  else "unsupported operation: range condition is not supported for text keys"

def refusedMember (p : Predicate) (value : Value) : String :=
  if p.start ≠ none ∨ p.finish ≠ none then "condition conflict: start or finish key has already been specified"
  else value.elim "missing value for distinct key" (unfit p.binding)

def refusal (p : Predicate) : Mutation → String
  | .setStart value | .setFinish value => refusedBound p value
  | .add value => refusedMember p value

theorem binding_eq (bound : Binding) : bound.text = binding bound := by
  cases bound with
  | tag type => cases type <;> rfl
  | host type => cases type <;> rfl
  | rows schema => rfl

theorem variant_eq (own : KeyVariant) : own.name = variant own := by
  cases own <;> rfl

theorem operation_eq (mutation : Mutation) : mutation.name = operation mutation := by
  cases mutation <;> rfl

theorem columns_eq (types : List KeyType) : KeyType.listText types = columns types := by
  have same : KeyType.storedAs = column := by
    funext type
    cases type <;> rfl
  rw [KeyType.listText, same]
  rfl

theorem component_eq (type : KeyType) : type.hostType.path = component type := by
  cases type <;> rfl

theorem key_eq (given : Key) : given.hostType.path = key given := by
  cases given with
  | primitive held => exact component_eq held.keyType
  | row row => rfl

theorem unfit_row_eq (expected : List KeyType) (row : Row) :
    (Binding.rowRefusal expected row).message = unfitRow expected row := by
  rw [Binding.rowRefusal, unfitRow]
  by_cases empty : row.isEmpty = true
  · rw [if_pos empty, if_pos empty]
    rfl
  · rw [if_neg empty, if_neg empty, ← columns_eq, ← columns_eq]
    rfl

theorem unfit_type_eq (expected : HostType) (given : Key) :
    (PredicateError.typeMismatch expected (some given.hostType)).message = unfitType expected.path given := by
  exact congrArg ("row key type unmatched: expected " ++ expected.path ++ ", got " ++ ·) (key_eq given)

theorem unfit_eq (bound : Binding) (given : Key) : (bound.refusal given).message = unfit bound given := by
  cases bound with
  | tag type =>
      cases given with
      | primitive held =>
          rw [unfit, ← component_eq]
          exact unfit_type_eq type.hostType (.primitive held)
      | row row => exact unfit_row_eq [type] row
  | host type =>
      rw [unfit, ← component_eq]
      exact unfit_type_eq type.hostType given
  | rows schema =>
      cases given with
      | primitive held => exact unfit_type_eq .row (.primitive held)
      | row row => exact unfit_row_eq schema.keyTypes row

theorem message_of_bound_verdict {p : Predicate} {value : Value} {error : PredicateError}
    (refused : p.boundVerdict value = .error error) :
    error.message =
      if p.rangeEligible then value.elim "" (unfit p.binding)
      else "unsupported operation: range condition is not supported for text keys" := by
  cases value with
  | none => cases refused
  | some given =>
      by_cases eligible : p.rangeEligible = true
      · rw [Predicate.boundVerdict, if_pos eligible] at refused
        rw [if_pos eligible, Binding.error_of_verdict refused]
        exact unfit_eq p.binding given
      · rw [Predicate.boundVerdict, if_neg eligible] at refused
        rw [if_neg eligible]
        cases refused
        rfl

theorem message_of_member_verdict {p : Predicate} {value : Value} {error : PredicateError}
    (refused : p.memberVerdict value = .error error) :
    error.message = value.elim "missing value for distinct key" (unfit p.binding) := by
  cases value with
  | none =>
      cases refused
      rfl
  | some given =>
      rw [Binding.error_of_verdict refused]
      exact unfit_eq p.binding given

theorem message_of_bound {p : Predicate} (keyed : p.schema.hasKey = true) {call : Mutation} {value : Value}
    (bound : call = .setStart value ∨ call = .setFinish value) {error : PredicateError}
    (refused : p.apply call = .error error) : error.message = refusedBound p value := by
  have conflict := Predicate.conflict_of_bound p bound
  by_cases shown : p.distinctKeys? ≠ none
  · rw [if_pos shown] at conflict
    cases (Predicate.apply_of_conflict conflict).symm.trans refused
    rw [refusedBound, if_pos shown]
    rfl
  · rw [if_neg shown] at conflict
    have verdict : p.boundVerdict value = .error error := by
      rcases bound with rfl | rfl <;> exact Predicate.verdict_of_refused keyed conflict refused
    rw [refusedBound, if_neg shown]
    exact message_of_bound_verdict verdict

theorem message_of_add {p : Predicate} (keyed : p.schema.hasKey = true) {value : Value} {error : PredicateError}
    (refused : p.apply (.add value) = .error error) : error.message = refusedMember p value := by
  have conflict := Predicate.conflict_of_add p value
  by_cases set : p.start ≠ none ∨ p.finish ≠ none
  · rw [if_pos set] at conflict
    cases (Predicate.apply_of_conflict conflict).symm.trans refused
    rw [refusedMember, if_pos set]
    rfl
  · rw [if_neg set] at conflict
    rw [refusedMember, if_neg set]
    exact message_of_member_verdict (Predicate.verdict_of_refused keyed conflict refused)

theorem refusal_eq {p : Predicate} (keyed : p.schema.hasKey = true) {mutation : Mutation} {error : PredicateError}
    (refused : p.apply mutation = .error error) : error.message = refusal p mutation := by
  cases mutation with
  | setStart value => exact message_of_bound keyed (.inl rfl) refused
  | setFinish value => exact message_of_bound keyed (.inr rfl) refused
  | add value => exact message_of_add keyed refused

end Wording
end RowSelection
