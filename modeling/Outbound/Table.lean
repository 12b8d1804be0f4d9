/-!
# Tables

A finite map as a list of entries with their keys, in the order in which the keys came. Setting a
key that is there changes its entry in place.

## Main definitions

* `Table`: the entries of a finite map
* `Table.get?`, `Table.set`, `Table.erase`: reading, writing and removing one key
* `Table.keep`: the entries whose keys pass a test

## Main results

* `Table.get?_set`: a key reads as last set, and setting it touches no other key
* `Table.get?_erase`: an erased key reads as nothing, and erasing it touches no other key
-/

namespace Outbound

/-- **A finite map** from keys to values, in the order in which the keys came. -/
structure Table (κ α : Type) where
  /-- The entries, one for each key. -/
  entries : List (κ × α)
deriving Repr

namespace Table

variable {κ α : Type}

/-- The table without entries. -/
def empty : Table κ α := ⟨[]⟩

instance : Inhabited (Table κ α) := ⟨empty⟩

/-- The number of entries. -/
def size (t : Table κ α) : Nat := t.entries.length

def isEmpty (t : Table κ α) : Bool := t.entries.isEmpty

/-- The keys, in the order in which they came. -/
def keys (t : Table κ α) : List κ := t.entries.map Prod.fst

/-- The entries whose keys pass a test. -/
def keep (p : κ → Bool) (t : Table κ α) : Table κ α := ⟨t.entries.filter fun e => p e.1⟩

variable [DecidableEq κ]

/-- The value of a key in a list of entries. -/
def lookup (k : κ) : List (κ × α) → Option α
  | [] => none
  | (k', a) :: rest => if k' = k then some a else lookup k rest

/-- A list of entries after setting a key: in place when it is there, else at the end. -/
def store (k : κ) (a : α) : List (κ × α) → List (κ × α)
  | [] => [(k, a)]
  | (k', b) :: rest => if k' = k then (k, a) :: rest else (k', b) :: store k a rest

/-- The value of a key. -/
def get? (t : Table κ α) (k : κ) : Option α := lookup k t.entries

/-- The table after setting a key. -/
def set (t : Table κ α) (k : κ) (a : α) : Table κ α := ⟨store k a t.entries⟩

/-- The table without a key. -/
def erase (t : Table κ α) (k : κ) : Table κ α := t.keep fun k' => !decide (k' = k)

/-- Whether a key has a value. -/
def contains (t : Table κ α) (k : κ) : Bool := (t.get? k).isSome

/-- The table of a list of entries, a later entry replacing an earlier one of the same key. -/
def ofList (entries : List (κ × α)) : Table κ α :=
  entries.foldl (fun t e => t.set e.1 e.2) empty

@[simp] theorem get?_empty (k : κ) : (empty : Table κ α).get? k = none := rfl

theorem lookup_store (k k' : κ) (a : α) (entries : List (κ × α)) :
    lookup k' (store k a entries) = if k = k' then some a else lookup k' entries := by
  induction entries with
  | nil => simp [store, lookup]
  | cons e rest ih =>
    obtain ⟨k₀, b⟩ := e
    by_cases h : k₀ = k
    · subst h; by_cases h' : k₀ = k' <;> simp [store, lookup, h']
    · by_cases h' : k₀ = k'
      · subst h'
        have hk : ¬ k = k₀ := fun e => h e.symm
        simp [store, lookup, h, hk]
      · simp [store, lookup, h, h', ih]

/-- **A key reads as last set,** and setting it touches no other key. -/
theorem get?_set (t : Table κ α) (k k' : κ) (a : α) :
    (t.set k a).get? k' = if k = k' then some a else t.get? k' := lookup_store k k' a t.entries

theorem lookup_filter (p : κ → Bool) (k : κ) (entries : List (κ × α)) :
    lookup k (entries.filter fun e => p e.1) = if p k then lookup k entries else none := by
  induction entries with
  | nil => simp [lookup]
  | cons e rest ih =>
    obtain ⟨k₀, b⟩ := e
    by_cases h : k₀ = k
    · subst h; cases hp : p k₀ <;> simp [List.filter, lookup, hp, ih]
    · cases hp : p k₀ <;> cases hk : p k <;> simp [List.filter, lookup, hp, h, ih, hk]

theorem get?_keep (t : Table κ α) (p : κ → Bool) (k : κ) :
    (t.keep p).get? k = if p k then t.get? k else none := lookup_filter p k t.entries

/-- **An erased key reads as nothing,** and erasing it touches no other key. -/
theorem get?_erase (t : Table κ α) (k k' : κ) :
    (t.erase k).get? k' = if k' = k then none else t.get? k' := by
  rw [erase, get?_keep]
  by_cases h : k' = k <;> simp [h]

end Table

end Outbound
