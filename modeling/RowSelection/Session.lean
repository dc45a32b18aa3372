import RowSelection.Journal

set_option autoImplicit false

namespace RowSelection

inductive Request where
  | resolve (table : TableSchema)
  | declareKey (table : TableSchema) (choices : List KeyChoice)
  | make (origin : Origin) (options : Predicate.Options)
  | change (place : Nat) (mutation : Mutation)

inductive Answer where
  | resolved (result : Except SchemaError KeySchema)
  | declared (result : Except SchemaError TableSchema)
  | made (result : Except PredicateError Predicate)
  | changed (p : Predicate) (result : Except PredicateError Predicate)
  | noPredicate

structure Exchange where
  before : List Predicate
  request : Request
  answer : Answer
  after : List Predicate

namespace Request

def answer (predicates : List Predicate) : Request → Answer
  | .resolve table => .resolved (KeySchema.resolve table)
  | .declareKey table choices => .declared (table.declareKey choices)
  | .make origin options => .made (Predicate.make origin options)
  | .change place mutation =>
      match predicates[place]? with
      | none => .noPredicate
      | some p => .changed p (p.apply mutation)

def answerLogged (predicates : List Predicate) : Request → Logged Answer
  | .resolve table => do return .resolved (← KeySchema.resolveLogged table)
  | .declareKey table choices => do return .declared (← table.declareKeyLogged choices)
  | .make origin options => do return .made (← Predicate.makeLogged origin options)
  | .change place mutation =>
      match predicates[place]? with
      | none => return .noPredicate
      | some p => do return .changed p (← p.applyLogged mutation)

-- What succeeds is kept: a predicate that was made comes last, and a changed one takes its own place.
def keep (predicates : List Predicate) : Request → Answer → List Predicate
  | .make _ _, .made (.ok p) => predicates ++ [p]
  | .change place _, .changed _ (.ok p) => predicates.set place p
  | _, _ => predicates

def exchange (predicates : List Predicate) (request : Request) (answer : Answer) : Exchange :=
  ⟨predicates, request, answer, request.keep predicates answer⟩

end Request

namespace Session

def run (predicates : List Predicate) : List Request → List Exchange
  | [] => []
  | request :: rest =>
      let served := request.exchange predicates (request.answer predicates)
      served :: run served.after rest

def runLogged (predicates : List Predicate) : List Request → Logged (List Exchange)
  | [] => return []
  | request :: rest => do
      let served := request.exchange predicates (← request.answerLogged predicates)
      return served :: (← runLogged served.after rest)

end Session
end RowSelection
