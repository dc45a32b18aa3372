import RowSelection.Predicate.Basic

set_option autoImplicit false

namespace RowSelection

namespace Binding

def checkRow (binding : Binding) (row : Row) : Except PredicateError Unit :=
  match row.keySchema with
  | .error source => .error (.rowMismatch source)
  | .ok own =>
      match binding.schema.checkCompatible own with
      | .error source => .error (.rowMismatch source)
      | .ok () => .ok ()

def checkCarried (type : KeyType) : Value → Except PredicateError Key
  | none => .error (.typeMismatch type.hostType none)
  | some key =>
      if key.hostType = type.hostType then .ok key
      else .error (.typeMismatch type.hostType (some key.hostType))

-- The type verdict on a key, with the key in the form that the binding holds.
def accept : Binding → Key → Except PredicateError Key
  | .rows schema, .row row =>
      match checkRow (.rows schema) row with
      | .error error => .error error
      | .ok () => .ok (.row row)
  | .rows _, key => .error (.typeMismatch .row (some key.hostType))
  | .tag type, .row row =>
      match checkRow (.tag type) row with
      | .error error => .error error
      | .ok () => checkCarried type (row.components.head?.map Key.primitive)
  | .tag type, key => checkCarried type (some key)
  | .host type, key => checkCarried type (some key)

-- The form of an accepted key that is a member of a set: a row takes the schema's names, so that
-- rows of equal components are one member.
def canonical : Binding → Key → Except SchemaError Key
  | .rows schema, .row row => (row.rebind schema).map Key.row
  | _, key => .ok key

end Binding

inductive Mutation where
  | setStart (value : Value)
  | setFinish (value : Value)
  | add (value : Value)

namespace Predicate

def acceptBound (p : Predicate) : Value → Except PredicateError Value
  -- any bound may be unset, also where none may be set
  | none => .ok none
  | some key =>
      if p.rangeEligible then (p.binding.accept key).map some
      else .error .textRange

def acceptMember (p : Predicate) : Value → Except PredicateError Key
  | none => .error .missingValue
  | some key =>
      match p.binding.accept key with
      | .error error => .error error
      | .ok accepted => (p.binding.canonical accepted).mapError .rowMismatch

def setStart (p : Predicate) (value : Value) : Except PredicateError Predicate :=
  match p.selection with
  | .distinct _ => .error .keysAlreadyAdded
  | .range _ finish =>
      (p.acceptBound value).map fun start => { p with selection := .range start finish }

def setFinish (p : Predicate) (value : Value) : Except PredicateError Predicate :=
  match p.selection with
  | .distinct _ => .error .keysAlreadyAdded
  | .range start _ =>
      (p.acceptBound value).map fun finish => { p with selection := .range start finish }

def openSet (p : Predicate) : Except PredicateError KeySet :=
  match p.selection with
  | .distinct keys => .ok keys
  | .range none none => .ok .empty
  | .range _ _ => .error .boundAlreadySet

def add (p : Predicate) (value : Value) : Except PredicateError Predicate :=
  match p.openSet with
  | .error error => .error error
  | .ok keys =>
      (p.acceptMember value).map fun key => { p with selection := .distinct (keys.insert key) }

def apply (p : Predicate) : Mutation → Except PredicateError Predicate
  | .setStart value => p.setStart value
  | .setFinish value => p.setFinish value
  | .add value => p.add value

def step (p : Predicate) (mutation : Mutation) : Predicate :=
  (p.apply mutation).toOption.getD p

def run (p : Predicate) (mutations : List Mutation) : Predicate :=
  mutations.foldl step p

def outcomes (p : Predicate) : List Mutation → List (Except PredicateError Unit)
  | [] => []
  | mutation :: rest =>
      (p.apply mutation).map (fun _ => ()) :: (p.step mutation).outcomes rest

theorem step_of_ok {p q : Predicate} {mutation : Mutation} (done : p.apply mutation = .ok q) :
    p.step mutation = q := by
  simp [step, done, Except.toOption]

theorem step_of_error {p : Predicate} {mutation : Mutation} {error : PredicateError}
    (refused : p.apply mutation = .error error) : p.step mutation = p := by
  simp [step, refused, Except.toOption]

theorem run_append (p : Predicate) (first second : List Mutation) :
    p.run (first ++ second) = (p.run first).run second := by
  simp [run]

theorem binding_step (p : Predicate) (mutation : Mutation) :
    (p.step mutation).binding = p.binding := by
  cases outcome : p.apply mutation with
  | error error => rw [step_of_error outcome]
  | ok q =>
      rw [step_of_ok outcome]
      cases mutation with
      | setStart value =>
          simp only [apply, setStart] at outcome
          split at outcome
          · cases outcome
          · cases accepted : p.acceptBound value <;> rw [accepted] at outcome <;> cases outcome
            rfl
      | setFinish value =>
          simp only [apply, setFinish] at outcome
          split at outcome
          · cases outcome
          · cases accepted : p.acceptBound value <;> rw [accepted] at outcome <;> cases outcome
            rfl
      | add value =>
          simp only [apply, add] at outcome
          split at outcome
          · cases outcome
          · cases accepted : p.acceptMember value <;> rw [accepted] at outcome <;> cases outcome
            rfl

end Predicate
end RowSelection
