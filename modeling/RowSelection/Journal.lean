import RowSelection.KeySchema
import RowSelection.Predicate.Mutation

set_option autoImplicit false

namespace RowSelection

inductive LogLevel where
  | error
  | warn
  | info
  | debug
  | trace
deriving DecidableEq

namespace LogLevel

def rank : LogLevel → Nat
  | .error => 1
  | .warn => 2
  | .info => 3
  | .debug => 4
  | .trace => 5

def name : LogLevel → String
  | .error => "ERROR"
  | .warn => "WARN"
  | .info => "INFO"
  | .debug => "DEBUG"
  | .trace => "TRACE"

end LogLevel

def Mutation.name : Mutation → String
  | .setStart _ => "set_start"
  | .setFinish _ => "set_finish"
  | .add _ => "add"

structure LogLine where
  level : LogLevel
  target : String
  text : String
deriving DecidableEq

inductive LogEvent where
  | keyUndeclared (fields : Nat)
  | created (binding : Binding) (variant : KeyVariant) (columns : Nat) (rangeEligible : Bool)
  | rejected (mutation : String) (variant : KeyVariant) (error : PredicateError)

namespace LogEvent

def target : String := "keymatch"

def level : LogEvent → LogLevel
  | .keyUndeclared _ | .created .. => .debug
  | .rejected .. => .trace

def text : LogEvent → String
  | .keyUndeclared fields => "event=key_schema_undeclared fields=" ++ toString fields
  | .created binding variant columns rangeEligible =>
      "event=predicate_created component=key_predicate bound_type=" ++ binding.text ++
        " variant=" ++ variant.name ++ " key_columns=" ++ toString columns ++
        " range_eligible=" ++ toString rangeEligible
  | .rejected mutation variant error =>
      "event=predicate_mutation_rejected component=key_predicate op=" ++ mutation ++
        " variant=" ++ variant.name ++ " error=" ++ error.message

def line (event : LogEvent) : LogLine := ⟨event.level, target, event.text⟩

end LogEvent

-- The filter is the least important level that is kept; without one nothing is.
structure Journal where
  filter : Option LogLevel
  lines : List LogLine

abbrev Logged := StateM Journal

namespace Journal

def opened (filter : Option LogLevel) : Journal := ⟨filter, []⟩

def keeps (filter : Option LogLevel) (level : LogLevel) : Bool :=
  filter.any fun least => decide (level.rank ≤ least.rank)

def note (event : LogEvent) : Logged Unit := fun journal =>
  ((), if keeps journal.filter event.level then
    { journal with lines := journal.lines ++ [event.line] }
  else journal)

def extend (journal : Journal) (lines : List LogLine) : Journal :=
  { journal with lines := journal.lines ++ lines.filter fun line => keeps journal.filter line.level }

-- The operation has this one answer, and notes these lines in their order, whatever the journal is.
def Records {α : Type} (operation : Logged α) (answer : α) (lines : List LogLine) : Prop :=
  ∀ journal, operation journal = (answer, journal.extend lines)

theorem extend_nil (journal : Journal) : journal.extend [] = journal := by
  simp [extend]

theorem extend_append (journal : Journal) (first second : List LogLine) :
    (journal.extend first).extend second = journal.extend (first ++ second) := by
  simp [extend]

theorem records_note (event : LogEvent) : Records (note event) () [event.line] := by
  intro journal
  by_cases kept : keeps journal.filter event.level = true
  · simp [note, extend, LogEvent.line, kept]
  · simp [note, extend, LogEvent.line, kept]

theorem records_pure {α : Type} (answer : α) : Records (pure answer) answer [] := by
  intro journal
  rw [extend_nil]
  rfl

theorem records_bind {α β : Type} {operation : Logged α} {next : α → Logged β} {answer : α} {last : β}
    {lines later : List LogLine} (first : Records operation answer lines) (second : Records (next answer) last later) :
    Records (operation >>= next) last (lines ++ later) := by
  intro journal
  change next (operation journal).1 (operation journal).2 = _
  rw [first, second, extend_append]

theorem records_map {α β : Type} {operation : Logged α} {answer : α} {lines : List LogLine}
    (recorded : Records operation answer lines) (f : α → β) :
    Records (operation >>= fun result => pure (f result)) (f answer) lines := by
  rw [← List.append_nil lines]
  exact records_bind recorded (records_pure (f answer))

end Journal

open Journal

namespace KeySchema

def resolveLogged (table : TableSchema) : Logged (Except SchemaError KeySchema) := do
  if table.keyDeclaration?.isNone then note (.keyUndeclared table.fields.length)
  return resolve table

end KeySchema

namespace TableSchema

def declareKeyLogged (table : TableSchema) (choices : List KeyChoice) :
    Logged (Except SchemaError TableSchema) := do
  let declared := table.declareParts (KeyChoice.parts choices)
  let resolved ← KeySchema.resolveLogged declared
  return resolved.map fun _ => declared

end TableSchema

namespace Predicate

def ofBindingLogged (binding : Binding) (options : Options) :
    Logged (Except PredicateError Predicate) := do
  if binding.schema.hasKey then
    let rangeEligible := binding.allowsRange options
    note (.created binding binding.variant binding.schema.size rangeEligible)
    return .ok ⟨binding, rangeEligible, .range none none⟩
  else return .error .noKey

def makeLogged (origin : Origin) (options : Options) :
    Logged (Except PredicateError Predicate) :=
  match origin with
  | .keyType type => ofBindingLogged (.tag type) options
  | .dataType dataType =>
      match KeyType.ofDataType? dataType with
      | some type => ofBindingLogged (.tag type) options
      | none => return .error (.unsupportedDataType dataType)
  | .hostType host =>
      match host.keyType? with
      | some type => ofBindingLogged (.host type) options
      | none => return .error (.unsupportedHostType host)
  | .table table => do
      match ← KeySchema.resolveLogged table with
      | .ok schema => ofBindingLogged (.rows schema) options
      | .error source => return .error (.unresolved source)
  | .keySchema schema => ofBindingLogged (.rows schema) options

def applyLogged (p : Predicate) (mutation : Mutation) :
    Logged (Except PredicateError Predicate) := do
  let outcome := p.apply mutation
  if let .error error := outcome then
    note (.rejected mutation.name p.variant error)
  return outcome

end Predicate
end RowSelection
