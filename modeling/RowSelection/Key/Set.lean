import RowSelection.Key.Basic

set_option autoImplicit false

namespace RowSelection

-- Listed in the order of arrival, which is no part of what a set is.
structure KeySet where
  toList : List Key
  nodup : toList.Nodup

namespace KeySet

def empty : KeySet := ⟨[], .nil⟩

def contains (keys : KeySet) (key : Key) : Bool := decide (key ∈ keys.toList)

def insert (keys : KeySet) (key : Key) : KeySet :=
  if fresh : key ∈ keys.toList then keys
  else
    ⟨keys.toList ++ [key], by
      rw [List.nodup_append]
      exact ⟨keys.nodup, by simp, by
        intro a known b added same
        rw [List.mem_singleton] at added
        exact fresh (added ▸ same ▸ known)⟩⟩

def size (keys : KeySet) : Nat := keys.toList.length

def ofList (keys : List Key) : KeySet := keys.foldl insert empty

theorem insert_of_mem {keys : KeySet} {key : Key} (present : key ∈ keys.toList) :
    keys.insert key = keys := by
  simp [insert, present]

theorem to_list_insert_of_not_mem {keys : KeySet} {key : Key} (absent : key ∉ keys.toList) :
    (keys.insert key).toList = keys.toList ++ [key] := by
  simp [insert, absent]

theorem mem_insert (keys : KeySet) (added key : Key) :
    key ∈ (keys.insert added).toList ↔ key ∈ keys.toList ∨ key = added := by
  unfold insert
  split
  · rename_i present
    constructor
    · exact Or.inl
    · rintro (known | rfl)
      · exact known
      · exact present
  · simp

theorem to_list_insert_map {first second : KeySet} {rename : Key → Key} {key : Key}
    (held : second.toList = first.toList.map rename)
    (apart : ∀ known ∈ first.toList, rename known = rename key → known = key) :
    (second.insert (rename key)).toList = (first.insert key).toList.map rename := by
  by_cases present : key ∈ first.toList
  · have renamed : rename key ∈ second.toList := held ▸ List.mem_map_of_mem present
    rw [insert_of_mem present, insert_of_mem renamed, held]
  · have renamed : rename key ∉ second.toList := by
      rw [held, List.mem_map]
      rintro ⟨known, member, same⟩
      exact present (apart known member same ▸ member)
    rw [to_list_insert_of_not_mem present, to_list_insert_of_not_mem renamed, held, List.map_append, List.map_singleton]

theorem of_list_concat (keys : List Key) (key : Key) : ofList (keys ++ [key]) = (ofList keys).insert key := by
  simp [ofList]

theorem mem_foldl_insert (start : KeySet) (keys : List Key) (key : Key) :
    key ∈ (keys.foldl insert start).toList ↔ key ∈ start.toList ∨ key ∈ keys := by
  induction keys generalizing start with
  | nil => simp
  | cons added rest ih => rw [List.foldl_cons, ih, mem_insert, List.mem_cons, or_assoc]

theorem mem_of_list (keys : List Key) (key : Key) : key ∈ (ofList keys).toList ↔ key ∈ keys := by
  rw [ofList, mem_foldl_insert]
  simp [empty]

end KeySet
end RowSelection
