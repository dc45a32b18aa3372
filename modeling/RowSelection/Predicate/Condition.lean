import RowSelection.Predicate.Basic

set_option autoImplicit false

namespace RowSelection

inductive Bound (κ : Type) where
  | unbounded
  | included (key : κ)
deriving DecidableEq

inductive Condition (κ : Type) where
  | all
  | range (start finish : Bound κ)
  | distinct (keys : List κ)
deriving DecidableEq

section
variable {κ μ : Type}

def Bound.ofValue : Option κ → Bound κ
  | none => .unbounded
  | some key => .included key

def Bound.map (rename : κ → μ) : Bound κ → Bound μ
  | .unbounded => .unbounded
  | .included key => .included (rename key)

namespace Condition

def ofBounds : Option κ → Option κ → Condition κ
  | none, none => .all
  | start, finish => .range (.ofValue start) (.ofValue finish)

-- An empty list would match nothing, and stands for no condition instead.
def ofKeys : List κ → Condition κ
  | [] => .all
  | keys => .distinct keys

def map (rename : κ → μ) : Condition κ → Condition μ
  | .all => .all
  | .range start finish => .range (start.map rename) (finish.map rename)
  | .distinct keys => .distinct (keys.map rename)

theorem of_bounds_eq (start finish : Option κ) :
    ofBounds start finish =
      if start = none ∧ finish = none then .all else .range (.ofValue start) (.ofValue finish) := by
  cases start <;> cases finish <;> simp [ofBounds]

theorem of_keys_of_ne_nil {keys : List κ} (some : keys ≠ []) : ofKeys keys = .distinct keys := by
  cases keys with
  | nil => exact absurd rfl some
  | cons key rest => rfl

theorem map_of_bounds (rename : κ → μ) (start finish : Option κ) :
    (ofBounds start finish).map rename = ofBounds (start.map rename) (finish.map rename) := by
  cases start <;> cases finish <;> rfl

theorem map_of_keys (rename : κ → μ) (keys : List κ) : (ofKeys keys).map rename = ofKeys (keys.map rename) := by
  cases keys <;> rfl

end Condition
end

-- Keys that never change are shown in the set itself, all others as a list of copies.
inductive DistinctKeys where
  | shared (keys : KeySet)
  | copied (keys : List Key)

namespace DistinctKeys

def toList : DistinctKeys → List Key
  | .shared keys => keys.toList
  | .copied keys => keys

def intoVec : DistinctKeys → List Key
  | .shared keys => keys.toList.map Key.copy
  | .copied keys => keys

def size : DistinctKeys → Nat
  | .shared keys => keys.size
  | .copied keys => keys.length

def isEmpty (keys : DistinctKeys) : Bool := keys.size == 0

def contains (keys : DistinctKeys) : Value → Bool
  | none => false
  | some key =>
      match keys with
      | .shared keys => keys.contains key
      | .copied keys => decide (key ∈ keys)

@[simp] theorem into_vec_eq (keys : DistinctKeys) : keys.intoVec = keys.toList := by
  cases keys with
  | shared keys => simp [intoVec, toList, funext Key.copy_eq]
  | copied keys => rfl

theorem size_eq (keys : DistinctKeys) : keys.size = keys.toList.length := by
  cases keys <;> rfl

theorem is_empty_iff (keys : DistinctKeys) : keys.isEmpty = true ↔ keys.toList = [] := by
  rw [isEmpty, beq_iff_eq, size_eq, List.length_eq_zero_iff]

theorem contains_iff (keys : DistinctKeys) (value : Value) :
    keys.contains value = true ↔ ∃ key ∈ keys.toList, value = some key := by
  cases value with
  | none => simp [contains]
  | some key => cases keys <;> simp [contains, KeySet.contains, toList]

end DistinctKeys

namespace Predicate

def view (p : Predicate) (keys : KeySet) : DistinctKeys :=
  if p.variant.isImmutable then .shared keys else .copied (keys.toList.map p.returned)

def distinctKeys? (p : Predicate) : Option DistinctKeys :=
  p.keys?.map p.view

def condition (p : Predicate) : Condition Key :=
  match p.distinctKeys? with
  | some keys => .ofKeys keys.intoVec
  | none => .ofBounds p.start p.finish

@[simp] theorem to_list_view (p : Predicate) (keys : KeySet) : (p.view keys).toList = keys.toList := by
  unfold view
  split
  · rfl
  · rw [returned_eq]
    exact List.map_id _

theorem distinct_of_shown {p : Predicate} {shown : DistinctKeys} (present : p.distinctKeys? = some shown) :
    ∃ keys, p.selection = .distinct keys ∧ p.view keys = shown := by
  cases held : p.selection with
  | range start finish => simp [distinctKeys?, keys?, held] at present
  | distinct keys => exact ⟨keys, rfl, by simpa [distinctKeys?, keys?, held] using present⟩

theorem read_range {p : Predicate} {start finish : Value} (held : p.selection = .range start finish) :
    p.start = start ∧ p.finish = finish ∧ p.distinctKeys? = none ∧ p.condition = .ofBounds start finish := by
  simp [Predicate.start, Predicate.finish, distinctKeys?, keys?, condition, held]

theorem read_distinct {p : Predicate} {keys : KeySet} (held : p.selection = .distinct keys) :
    p.start = none ∧ p.finish = none ∧ p.distinctKeys? = some (p.view keys) ∧
      p.condition = .ofKeys keys.toList := by
  have shown : p.distinctKeys? = some (p.view keys) := by
    simp [distinctKeys?, keys?, held]
  refine ⟨?_, ?_, shown, ?_⟩
  · simp [Predicate.start, held]
  · simp [Predicate.finish, held]
  · simp [condition, shown]

end Predicate
end RowSelection
