import RowSelection.Proofs.Calls
import RowSelection.Proofs.Rebinding

set_option autoImplicit false

namespace RowSelection

-- A stored key keeps the fields that its row came with. A call asks them for the types of the columns, and
-- keys are told apart by names and components only.
inductive StoredKey where
  | primitive (component : Component)
  | row (row : StoredRow)

namespace StoredKey

def hostType : StoredKey → HostType
  | .primitive component => component.keyType.hostType
  | .row _ => .row

def copy : StoredKey → StoredKey
  | .primitive (.timestamp instant) => .primitive (.timestamp ⟨instant.millis⟩)
  | .primitive component => .primitive component
  | .row held => .row held.copy

def equal : StoredKey → StoredKey → Bool
  | .primitive component, .primitive other => component == other
  | .row held, .row other => held.equal other
  | _, _ => false

-- What a caller can have in hand: any component, and any row that operations have made.
def Obtained : StoredKey → Prop
  | .primitive _ => True
  | .row held => held.Obtained

@[simp] theorem copy_eq (key : StoredKey) : key.copy = key := by
  cases key with
  | primitive component => cases component <;> rfl
  | row row => rfl

end StoredKey

namespace KeyVariant

def copyForIdentity (variant : KeyVariant) (schema : KeySchema) (key : StoredKey) : Except SchemaError StoredKey :=
  match variant, key with
  | .composite, .row row => (row.rebind schema).map .row
  | .plain, key => .ok key
  | _, key => .ok key.copy

end KeyVariant

namespace Binding

def checkStoredRow (binding : Binding) (row : StoredRow) : Except PredicateError Unit :=
  match row.keySchema with
  | .error source => .error (.rowMismatch source)
  | .ok own =>
      match binding.schema.checkCompatible own with
      | .error source => .error (.rowMismatch source)
      | .ok () => .ok ()

def checkStoredCarried (type : KeyType) : Option StoredKey → Except PredicateError StoredKey
  | none => .error (.typeMismatch type.hostType none)
  | some key =>
      if key.hostType = type.hostType then .ok key
      else .error (.typeMismatch type.hostType (some key.hostType))

def acceptStored : Binding → StoredKey → Except PredicateError StoredKey
  | .rows schema, .row row =>
      match checkStoredRow (.rows schema) row with
      | .error error => .error error
      | .ok () => .ok (.row row)
  | .rows _, key => .error (.typeMismatch .row (some key.hostType))
  | .tag type, .row row =>
      match checkStoredRow (.tag type) row with
      | .error error => .error error
      -- without a first component there would be no value to check
      | .ok () => checkStoredCarried type (row.components.head?.map .primitive)
  | .tag type, key => checkStoredCarried type (some key)
  | .host type, key => checkStoredCarried type (some key)

def holdBound (binding : Binding) (key : StoredKey) : Except PredicateError StoredKey :=
  (binding.acceptStored key).map (binding.variant.handOver StoredKey.copy)

def holdMember (binding : Binding) (key : StoredKey) : Except PredicateError StoredKey :=
  match binding.acceptStored key with
  | .error error => .error error
  | .ok accepted => (binding.variant.copyForIdentity binding.schema accepted).mapError .rowMismatch

end Binding

structure StoredPredicate where
  binding : Binding
  rangeEligible : Bool
  lower : Option StoredKey
  upper : Option StoredKey
  keys : Option (List StoredKey)

inductive StoredKeys where
  | shared (keys : List StoredKey)
  | copied (keys : List StoredKey)

namespace StoredKeys

def toList : StoredKeys → List StoredKey
  | .shared keys => keys
  | .copied keys => keys

def intoVec : StoredKeys → List StoredKey
  | .shared keys => keys.map StoredKey.copy
  | .copied keys => keys

def size (keys : StoredKeys) : Nat := keys.toList.length

def contains (keys : StoredKeys) : Option StoredKey → Bool
  | none => false
  | some key => keys.toList.any fun known => known.equal key

end StoredKeys

inductive StoredMutation where
  | setStart (value : Option StoredKey)
  | setFinish (value : Option StoredKey)
  | add (value : Option StoredKey)

namespace StoredMutation

def value : StoredMutation → Option StoredKey
  | .setStart value => value
  | .setFinish value => value
  | .add value => value

def Given (call : StoredMutation) : Prop := ∀ key, call.value = some key → key.Obtained

end StoredMutation

namespace StoredPredicate

def checkBound (p : StoredPredicate) : Option StoredKey → Except PredicateError (Option StoredKey)
  | none => .ok none
  | some key => if p.rangeEligible then (p.binding.holdBound key).map some else .error .textRange

def checkMember (p : StoredPredicate) : Option StoredKey → Except PredicateError StoredKey
  | none => .error .missingValue
  | some key => p.binding.holdMember key

def acceptBound (p : StoredPredicate) (value : Option StoredKey) : Except PredicateError (Option StoredKey) :=
  if p.keys.isSome then .error .keysAlreadyAdded else p.checkBound value

def acceptMember (p : StoredPredicate) (value : Option StoredKey) : Except PredicateError StoredKey :=
  if p.lower.isSome || p.upper.isSome then .error .boundAlreadySet else p.checkMember value

def insertKey (keys : List StoredKey) (key : StoredKey) : List StoredKey :=
  if keys.any fun known => known.equal key then keys else keys ++ [key]

def setStart (p : StoredPredicate) (value : Option StoredKey) : Except PredicateError StoredPredicate :=
  (p.acceptBound value).map fun start => { p with lower := start }

def setFinish (p : StoredPredicate) (value : Option StoredKey) : Except PredicateError StoredPredicate :=
  (p.acceptBound value).map fun finish => { p with upper := finish }

def add (p : StoredPredicate) (value : Option StoredKey) : Except PredicateError StoredPredicate :=
  (p.acceptMember value).map fun key => { p with keys := some (insertKey (p.keys.getD []) key) }

def apply (p : StoredPredicate) : StoredMutation → Except PredicateError StoredPredicate
  | .setStart value => p.setStart value
  | .setFinish value => p.setFinish value
  | .add value => p.add value

def outcome (p : StoredPredicate) (call : StoredMutation) : Except PredicateError Unit :=
  (p.apply call).map fun _ => ()

def step (p : StoredPredicate) (call : StoredMutation) : StoredPredicate :=
  (p.apply call).toOption.getD p

def run (p : StoredPredicate) (calls : List StoredMutation) : StoredPredicate :=
  calls.foldl step p

def returned (p : StoredPredicate) : StoredKey → StoredKey := p.binding.variant.handOver StoredKey.copy

def start (p : StoredPredicate) : Option StoredKey := p.lower.map p.returned

def finish (p : StoredPredicate) : Option StoredKey := p.upper.map p.returned

def view (p : StoredPredicate) (keys : List StoredKey) : StoredKeys :=
  if p.binding.variant.isImmutable then .shared keys else .copied (keys.map p.returned)

def distinctKeys? (p : StoredPredicate) : Option StoredKeys := p.keys.map p.view

def condition (p : StoredPredicate) : Condition StoredKey :=
  match p.distinctKeys? with
  | some keys => .ofKeys keys.intoVec
  | none => .ofBounds p.start p.finish

end StoredPredicate

def Key.stored : Key → StoredKey
  | .primitive component => .primitive component
  | .row held => .row held.stored

def Mutation.stored : Mutation → StoredMutation
  | .setStart value => .setStart (value.map Key.stored)
  | .setFinish value => .setFinish (value.map Key.stored)
  | .add value => .add (value.map Key.stored)

def DistinctKeys.stored : DistinctKeys → StoredKeys
  | .shared keys => .shared (keys.toList.map Key.stored)
  | .copied keys => .copied (keys.map Key.stored)

def Predicate.stored (p : Predicate) : StoredPredicate :=
  match p.selection with
  | .range start finish => ⟨p.binding, p.rangeEligible, start.map Key.stored, finish.map Key.stored, none⟩
  | .distinct keys => ⟨p.binding, p.rangeEligible, none, none, some (keys.toList.map Key.stored)⟩

-- All that can be asked of a stored predicate is answered as the predicate answers.
structure StoredPredicate.ReadsAs (s : StoredPredicate) (p : Predicate) : Prop where
  start : s.start = p.start.map Key.stored
  finish : s.finish = p.finish.map Key.stored
  distinctKeys : s.distinctKeys? = p.distinctKeys?.map DistinctKeys.stored
  condition : s.condition = p.condition.map Key.stored

@[simp] theorem Predicate.binding_stored (p : Predicate) : p.stored.binding = p.binding := by
  unfold Predicate.stored
  split <;> rfl

@[simp] theorem Predicate.range_eligible_stored (p : Predicate) : p.stored.rangeEligible = p.rangeEligible := by
  unfold Predicate.stored
  split <;> rfl

theorem map_unit_map {α β : Type} (answer : Except PredicateError α) (made : α → β) :
    ((answer.map made).map fun _ => ()) = answer.map fun _ => () := by
  cases answer <;> rfl

namespace StoredKey

theorem equal_stored (key other : Key) : key.stored.equal other.stored = true ↔ key = other := by
  cases key with
  | primitive component => cases other <;> simp [Key.stored, equal]
  | row row =>
      cases other with
      | primitive component => simp [Key.stored, equal]
      | row held => simp [Key.stored, equal, StoredRow.equal_stored]

theorem key_of_obtained {key : StoredKey} (obtained : key.Obtained) : ∃ known : Key, key = known.stored := by
  cases key with
  | primitive component => exact ⟨.primitive component, rfl⟩
  | row row =>
      obtain ⟨known, rfl⟩ := StoredRow.row_of_obtained obtained
      exact ⟨.row known, rfl⟩

end StoredKey

namespace StoredMutation

theorem call_of_given {call : StoredMutation} (given : call.Given) : ∃ known : Mutation, call = known.stored := by
  have argument : ∃ value : Value, call.value = value.map Key.stored := by
    cases present : call.value with
    | none => exact ⟨none, rfl⟩
    | some key =>
        obtain ⟨known, rfl⟩ := StoredKey.key_of_obtained (given key present)
        exact ⟨some known, rfl⟩
  obtain ⟨value, same⟩ := argument
  cases call with
  | setStart own => exact ⟨.setStart value, congrArg StoredMutation.setStart same⟩
  | setFinish own => exact ⟨.setFinish value, congrArg StoredMutation.setFinish same⟩
  | add own => exact ⟨.add value, congrArg StoredMutation.add same⟩

theorem calls_of_given {calls : List StoredMutation} (given : ∀ call ∈ calls, call.Given) :
    ∃ known : List Mutation, calls = known.map Mutation.stored := by
  induction calls with
  | nil => exact ⟨[], rfl⟩
  | cons call rest ih =>
      obtain ⟨first, rfl⟩ := call_of_given (given call (List.mem_cons_self ..))
      obtain ⟨later, rfl⟩ := ih fun other member => given other (List.mem_cons_of_mem _ member)
      exact ⟨first :: later, rfl⟩

end StoredMutation

namespace Binding

theorem check_stored_row_stored (binding : Binding) (row : Row) :
    binding.checkStoredRow row.stored = binding.checkRow row := by
  rw [checkStoredRow, StoredRow.key_schema_stored]
  rfl

theorem check_stored_carried_stored (type : KeyType) (value : Value) :
    checkStoredCarried type (value.map Key.stored) = (checkCarried type value).map Key.stored := by
  cases value with
  | none => rfl
  | some key =>
      have host : key.stored.hostType = key.hostType := by cases key <;> rfl
      rw [Option.map_some, checkStoredCarried, checkCarried, host]
      by_cases same : key.hostType = type.hostType
      · rw [if_pos same, if_pos same]
        rfl
      · rw [if_neg same, if_neg same]
        rfl

theorem accept_stored_stored (binding : Binding) (key : Key) :
    binding.acceptStored key.stored = (binding.accept key).map Key.stored := by
  cases binding with
  | rows schema =>
      cases key with
      | primitive component => rfl
      | row row =>
          rw [Key.stored, acceptStored, accept, check_stored_row_stored]
          cases checkRow (.rows schema) row <;> rfl
  | tag type =>
      cases key with
      | primitive component => exact check_stored_carried_stored type (some (.primitive component))
      | row row =>
          have first : row.stored.components.head?.map StoredKey.primitive =
              (row.components.head?.map Key.primitive).map Key.stored := by
            rw [Option.map_map]
            rfl
          rw [Key.stored, acceptStored, accept, check_stored_row_stored, first, check_stored_carried_stored]
          cases checkRow (.tag type) row <;> rfl
  | host type =>
      cases key with
      | primitive component => exact check_stored_carried_stored type (some (.primitive component))
      | row row => exact check_stored_carried_stored type (some (.row row))

theorem copy_for_identity_stored (binding : Binding) (key : Key) :
    binding.variant.copyForIdentity binding.schema key.stored = (binding.canonical key).map Key.stored := by
  have primitiveCopy (type : KeyType) (schema : KeySchema) (key : StoredKey) :
      (KeyVariant.ofKeyType type).copyForIdentity schema key = .ok key := by
    cases type <;> simp [KeyVariant.ofKeyType, KeyVariant.copyForIdentity]
  cases binding with
  | tag type => exact primitiveCopy type _ key.stored
  | host type => exact primitiveCopy type _ key.stored
  | rows schema =>
      cases key with
      | primitive component => exact congrArg Except.ok (StoredKey.copy_eq _)
      | row row =>
          change (row.stored.rebind schema).map StoredKey.row = ((row.rebind schema).map Key.row).map Key.stored
          rw [StoredRow.rebind_stored]
          cases row.rebind schema <;> rfl

theorem hold_bound_stored (binding : Binding) (key : Key) :
    binding.holdBound key.stored = (binding.accept key).map Key.stored := by
  rw [holdBound, accept_stored_stored, KeyVariant.hand_over_eq StoredKey.copy_eq]
  cases binding.accept key <;> rfl

end Binding

namespace StoredPredicate

theorem insert_key_stored (keys : KeySet) (key : Key) :
    insertKey (keys.toList.map Key.stored) key.stored = (keys.insert key).toList.map Key.stored := by
  have found : ((keys.toList.map Key.stored).any fun known => known.equal key.stored) = true ↔ key ∈ keys.toList := by
    simp [StoredKey.equal_stored]
  by_cases present : key ∈ keys.toList
  · rw [insertKey, if_pos (found.mpr present), KeySet.insert_of_mem present]
  · rw [insertKey, if_neg (mt found.mp present), KeySet.to_list_insert_of_not_mem present, List.map_append]
    rfl

theorem check_bound_stored (p : Predicate) (value : Value) :
    p.stored.checkBound (value.map Key.stored) = (p.acceptBound value).map (Option.map Key.stored) := by
  cases value with
  | none => rfl
  | some key =>
      rw [Option.map_some, checkBound, p.binding_stored, p.range_eligible_stored, Binding.hold_bound_stored,
        Predicate.acceptBound]
      by_cases eligible : p.rangeEligible = true
      · rw [if_pos eligible, if_pos eligible]
        cases p.binding.accept key <;> rfl
      · rw [if_neg eligible, if_neg eligible]
        rfl

theorem check_member_stored (p : Predicate) (value : Value) :
    p.stored.checkMember (value.map Key.stored) = (p.acceptMember value).map Key.stored := by
  cases value with
  | none => rfl
  | some key =>
      rw [Option.map_some, checkMember, p.binding_stored, Binding.holdMember, Binding.accept_stored_stored,
        Predicate.acceptMember]
      cases p.binding.accept key with
      | error error => rfl
      | ok accepted =>
          change (p.binding.variant.copyForIdentity p.binding.schema accepted.stored).mapError _ =
            ((p.binding.canonical accepted).mapError PredicateError.rowMismatch).map Key.stored
          rw [Binding.copy_for_identity_stored]
          cases p.binding.canonical accepted <;> rfl

theorem set_start_stored (p : Predicate) (value : Value) :
    p.stored.setStart (value.map Key.stored) = (p.setStart value).map Predicate.stored := by
  obtain ⟨binding, eligible, selection⟩ := p
  cases selection with
  | distinct keys => rfl
  | range start finish =>
      change (checkBound _ _).map _ = _
      rw [check_bound_stored, Predicate.setStart]
      cases Predicate.acceptBound _ value <;> rfl

theorem set_finish_stored (p : Predicate) (value : Value) :
    p.stored.setFinish (value.map Key.stored) = (p.setFinish value).map Predicate.stored := by
  obtain ⟨binding, eligible, selection⟩ := p
  cases selection with
  | distinct keys => rfl
  | range start finish =>
      change (checkBound _ _).map _ = _
      rw [check_bound_stored, Predicate.setFinish]
      cases Predicate.acceptBound _ value <;> rfl

theorem add_to_opened {p : Predicate} {keys : KeySet} (opened : p.openSet = .ok keys)
    (unset : p.stored.lower = none ∧ p.stored.upper = none) (held : p.stored.keys.getD [] = keys.toList.map Key.stored)
    (value : Value) : p.stored.add (value.map Key.stored) = (p.add value).map Predicate.stored := by
  have noBound : ¬ (p.stored.lower.isSome || p.stored.upper.isSome) = true := by simp [unset]
  rw [add, acceptMember, if_neg noBound, check_member_stored, held, Predicate.add, opened]
  cases p.acceptMember value with
  | error error => rfl
  | ok key =>
      have changed : Predicate.stored { p with selection := .distinct (keys.insert key) } =
          { p.stored with keys := some ((keys.insert key).toList.map Key.stored) } := by
        simp only [unset, Predicate.binding_stored, Predicate.range_eligible_stored]
        rfl
      rw [← insert_key_stored] at changed
      exact congrArg Except.ok changed.symm

theorem add_stored (p : Predicate) (value : Value) :
    p.stored.add (value.map Key.stored) = (p.add value).map Predicate.stored := by
  obtain ⟨binding, eligible, selection⟩ := p
  cases selection with
  | distinct keys => exact add_to_opened rfl ⟨rfl, rfl⟩ rfl value
  | range start finish =>
      cases start with
      | some lower => rfl
      | none =>
          cases finish with
          | some upper => rfl
          | none => exact add_to_opened rfl ⟨rfl, rfl⟩ rfl value

theorem apply_stored (p : Predicate) (call : Mutation) :
    p.stored.apply call.stored = (p.apply call).map Predicate.stored := by
  cases call with
  | setStart value => exact set_start_stored p value
  | setFinish value => exact set_finish_stored p value
  | add value => exact add_stored p value

theorem outcome_stored (p : Predicate) (call : Mutation) : p.stored.outcome call.stored = p.outcome call := by
  rw [outcome, apply_stored, map_unit_map]
  rfl

theorem step_stored (p : Predicate) (call : Mutation) : p.stored.step call.stored = (p.step call).stored := by
  rw [step, apply_stored, Predicate.step]
  cases p.apply call <;> rfl

theorem run_stored (p : Predicate) (calls : List Mutation) :
    p.stored.run (calls.map Mutation.stored) = (p.run calls).stored := by
  induction calls generalizing p with
  | nil => rfl
  | cons call rest ih =>
      change (p.stored.step call.stored).run (rest.map Mutation.stored) = _
      rw [step_stored]
      exact ih (p.step call)

theorem to_list_stored (view : DistinctKeys) : view.stored.toList = view.toList.map Key.stored := by
  cases view <;> rfl

theorem into_vec_stored (view : DistinctKeys) : view.stored.intoVec = view.intoVec.map Key.stored := by
  cases view with
  | shared keys =>
      simp only [DistinctKeys.stored, StoredKeys.intoVec, DistinctKeys.intoVec, funext StoredKey.copy_eq,
        funext Key.copy_eq, List.map_id']
  | copied keys => rfl

theorem size_stored (view : DistinctKeys) : view.stored.size = view.size := by
  rw [StoredKeys.size, to_list_stored, List.length_map, DistinctKeys.size_eq]

theorem contains_stored (view : DistinctKeys) (value : Value) :
    view.stored.contains (value.map Key.stored) = view.contains value := by
  cases value with
  | none => rfl
  | some key =>
      rw [Bool.eq_iff_iff, DistinctKeys.contains_iff, Option.map_some, StoredKeys.contains, to_list_stored]
      simp [StoredKey.equal_stored]

theorem view_stored (p : Predicate) (keys : KeySet) :
    p.stored.view (keys.toList.map Key.stored) = (p.view keys).stored := by
  have returns : p.stored.returned = id := KeyVariant.hand_over_eq StoredKey.copy_eq _
  rw [view, Predicate.view, p.binding_stored, returns, p.returned_eq]
  change (if p.variant.isImmutable then _ else _) = _
  cases p.variant.isImmutable with
  | true => rfl
  | false => simp [DistinctKeys.stored]

theorem reads_stored (p : Predicate) : p.stored.ReadsAs p := by
  have returns : p.stored.returned = id := KeyVariant.hand_over_eq StoredKey.copy_eq _
  cases held : p.selection with
  | range start finish =>
      obtain ⟨lower, upper, hidden, condition⟩ := Predicate.read_range held
      have raw : p.stored = ⟨p.binding, p.rangeEligible, start.map Key.stored, finish.map Key.stored, none⟩ := by
        rw [Predicate.stored, held]
      have shownStart : p.stored.start = start.map Key.stored := by
        rw [StoredPredicate.start, returns, raw, Option.map_id_fun, id]
      have shownFinish : p.stored.finish = finish.map Key.stored := by
        rw [StoredPredicate.finish, returns, raw, Option.map_id_fun, id]
      have noKeys : p.stored.distinctKeys? = none := by rw [distinctKeys?, raw]; rfl
      refine ⟨by rw [shownStart, lower], by rw [shownFinish, upper], by rw [noKeys, hidden]; rfl, ?_⟩
      rw [StoredPredicate.condition, noKeys, condition, Condition.map_of_bounds, ← shownStart, ← shownFinish]
  | distinct keys =>
      obtain ⟨lower, upper, shown, condition⟩ := Predicate.read_distinct held
      have raw : p.stored = ⟨p.binding, p.rangeEligible, none, none, some (keys.toList.map Key.stored)⟩ := by
        rw [Predicate.stored, held]
      have shownKeys : p.stored.distinctKeys? = some (p.view keys).stored := by
        rw [distinctKeys?, ← view_stored, raw]
        rfl
      refine ⟨by rw [StoredPredicate.start, raw, lower]; rfl, by rw [StoredPredicate.finish, raw, upper]; rfl,
        by rw [shownKeys, shown]; rfl, ?_⟩
      rw [StoredPredicate.condition, shownKeys, condition, Condition.map_of_keys]
      simp only [into_vec_stored, DistinctKeys.into_vec_eq, Predicate.to_list_view]

theorem run_reads (p : Predicate) (calls : List Mutation) :
    (p.stored.run (calls.map Mutation.stored)).ReadsAs (p.run calls) := by
  rw [run_stored]
  exact reads_stored (p.run calls)

end StoredPredicate
end RowSelection
