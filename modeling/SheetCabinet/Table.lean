/-!
# Finite tables

A table gives a value to finitely many keys, and to each at most one. It remembers the order in
which the keys came, newest first; nothing but the listing of its keys depends on that order.

Results:
* what a table holds after each operation is said by one equation (`get?_set`, `get?_erase`,
  `get?_keep`);
* a key is listed exactly if it has a value (`mem_keys_iff`).
-/

namespace SheetCabinet

/-- Values for finitely many distinct keys. -/
structure Table (κ ν : Type) where
  entries : List (κ × ν)
  distinct : (entries.map Prod.fst).Nodup

namespace Table

variable {κ ν : Type} [DecidableEq κ]

def empty : Table κ ν := ⟨[], List.nodup_nil⟩

/-- The value that the first pair with the key gives to it. -/
def find (key : κ) : List (κ × ν) → Option ν
  | [] => none
  | (other, value) :: rest => if other = key then some value else find key rest

def get? (table : Table κ ν) (key : κ) : Option ν := find key table.entries

def keys (table : Table κ ν) : List κ := table.entries.map Prod.fst

def keep (table : Table κ ν) (test : κ → Bool) : Table κ ν where
  entries := table.entries.filter fun entry => test entry.1
  distinct := table.distinct.sublist (List.filter_sublist.map Prod.fst)

def erase (table : Table κ ν) (key : κ) : Table κ ν := table.keep fun other => !decide (other = key)

/-- The table with a value for the key, in place of the one it may have had. -/
def set (table : Table κ ν) (key : κ) (value : ν) : Table κ ν where
  entries := (key, value) :: (table.erase key).entries
  distinct := by
    rw [List.map_cons, List.nodup_cons]
    exact ⟨by simp [erase, keep], (table.erase key).distinct⟩

/-! ## Values -/

@[simp] theorem get?_empty (key : κ) : (empty : Table κ ν).get? key = none := rfl

theorem find_filter (test : κ → Bool) (key : κ) (entries : List (κ × ν)) :
    find key (entries.filter fun entry => test entry.1) =
      if test key then find key entries else none := by
  induction entries with
  | nil => simp [find]
  | cons entry rest ih =>
    obtain ⟨other, value⟩ := entry
    by_cases same : other = key
    · subst same
      by_cases passes : test other <;> simp_all [find]
    · by_cases passes : test other <;> simp_all [find]

theorem get?_keep (table : Table κ ν) (test : κ → Bool) (key : κ) :
    (table.keep test).get? key = if test key then table.get? key else none :=
  find_filter test key table.entries

theorem get?_erase (table : Table κ ν) (key other : κ) :
    (table.erase key).get? other = if other = key then none else table.get? other := by
  by_cases same : other = key <;> simp [erase, get?_keep, same]

theorem get?_set (table : Table κ ν) (key other : κ) (value : ν) :
    (table.set key value).get? other = if other = key then some value else table.get? other := by
  by_cases same : other = key
  · simp [get?, set, find, same]
  · have rest := table.get?_erase key other
    rw [if_neg same] at rest ⊢
    rw [← rest]
    exact if_neg (Ne.symm same)

/-! ## Keys -/

theorem find_isSome_iff (key : κ) (entries : List (κ × ν)) :
    (find key entries).isSome ↔ key ∈ entries.map Prod.fst := by
  induction entries with
  | nil => simp [find]
  | cons entry rest ih =>
    obtain ⟨other, value⟩ := entry
    by_cases same : other = key
    · simp [find, same]
    · simp [find, same, ih, Ne.symm same]

theorem mem_keys_iff (table : Table κ ν) (key : κ) :
    key ∈ table.keys ↔ (table.get? key).isSome :=
  (find_isSome_iff key table.entries).symm

theorem find_of_mem {key : κ} {value : ν} {entries : List (κ × ν)}
    (distinct : (entries.map Prod.fst).Nodup) (member : (key, value) ∈ entries) :
    find key entries = some value := by
  induction entries with
  | nil => simp at member
  | cons entry rest ih =>
    obtain ⟨other, held⟩ := entry
    simp only [List.map_cons, List.nodup_cons] at distinct
    rcases List.mem_cons.1 member with equal | later
    · cases equal
      simp [find]
    · have different : other ≠ key := by
        rintro rfl
        exact distinct.1 (List.mem_map.2 ⟨_, later, rfl⟩)
      simp [find, different, ih distinct.2 later]

theorem mem_of_find {key : κ} {value : ν} {entries : List (κ × ν)}
    (found : find key entries = some value) : (key, value) ∈ entries := by
  induction entries with
  | nil => simp [find] at found
  | cons entry rest ih =>
    obtain ⟨other, held⟩ := entry
    by_cases same : other = key
    · simp only [find, same, if_true, Option.some.injEq] at found
      simp [same, found]
    · simp only [find, same, if_false] at found
      exact List.mem_cons_of_mem _ (ih found)

theorem mem_entries_iff (table : Table κ ν) (key : κ) (value : ν) :
    (key, value) ∈ table.entries ↔ table.get? key = some value :=
  ⟨find_of_mem table.distinct, mem_of_find⟩

end Table

end SheetCabinet
