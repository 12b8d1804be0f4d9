import Outbound.Table

/-!
# Writing to tables

## Main definitions

* `Table.total`: the sum of the numbers under the keys that pass a test

## Main results

* `Table.set_set`, `Table.set_of_get?`: a key set twice, and one set to what it has
* `Table.keys_set_of_contains`, `Table.keys_set_of_not_contains`: the keys after setting a key
* `Table.total_set`: the sum after setting a key
-/

namespace Outbound.Table

variable {κ α : Type} [DecidableEq κ]

theorem store_store (k : κ) (a b : α) (entries : List (κ × α)) :
    store k b (store k a entries) = store k b entries := by
  induction entries with
  | nil => simp [store]
  | cons e rest ih =>
    obtain ⟨k₀, c⟩ := e
    by_cases h : k₀ = k <;> simp [store, h, ih]

theorem set_set (t : Table κ α) (k : κ) (a b : α) : (t.set k a).set k b = t.set k b :=
  congrArg Table.mk (store_store k a b t.entries)

theorem store_of_lookup {k : κ} {a : α} {entries : List (κ × α)} (h : lookup k entries = some a) :
    store k a entries = entries := by
  induction entries with
  | nil => simp [lookup] at h
  | cons e rest ih =>
    obtain ⟨k₀, c⟩ := e
    by_cases hk : k₀ = k
    · simp_all [store, lookup]
    · simp only [lookup, if_neg hk] at h
      simp [store, hk, ih h]

/-- Setting a key to the value it has changes nothing. -/
theorem set_of_get? {t : Table κ α} {k : κ} {a : α} (h : t.get? k = some a) : t.set k a = t :=
  congrArg Table.mk (store_of_lookup h)

/-! ## Keys -/

@[simp] theorem length_keys {κ α : Type} (t : Table κ α) : t.keys.length = t.size :=
  List.length_map _

@[simp] theorem keys_keep {κ α : Type} (p : κ → Bool) (t : Table κ α) :
    (t.keep p).keys = t.keys.filter p := by
  simp only [keys, keep, List.filter_map]
  rfl

theorem isSome_lookup_iff {k : κ} {entries : List (κ × α)} :
    (lookup k entries).isSome ↔ k ∈ entries.map Prod.fst := by
  induction entries with
  | nil => simp [lookup]
  | cons e rest ih =>
    obtain ⟨k₀, a⟩ := e
    by_cases h : k₀ = k
    · simp [lookup, h]
    · simp [lookup, h, ih, Ne.symm h]

theorem contains_iff_mem_keys {t : Table κ α} {k : κ} : t.contains k ↔ k ∈ t.keys :=
  isSome_lookup_iff

theorem map_fst_store (k : κ) (a : α) (entries : List (κ × α)) :
    (store k a entries).map Prod.fst =
      if k ∈ entries.map Prod.fst then entries.map Prod.fst else entries.map Prod.fst ++ [k] := by
  induction entries with
  | nil => simp [store]
  | cons e rest ih =>
    obtain ⟨k₀, b⟩ := e
    by_cases h : k₀ = k
    · simp [store, h]
    · simp only [store, if_neg h, List.map_cons, ih, List.mem_cons, Ne.symm h, false_or]
      split <;> rfl

/-- Setting a key that is there leaves the keys as they are. -/
theorem keys_set_of_contains {t : Table κ α} {k : κ} (a : α) (h : t.contains k) :
    (t.set k a).keys = t.keys :=
  (map_fst_store k a t.entries).trans (if_pos (contains_iff_mem_keys.mp h))

/-- A new key comes after the others. -/
theorem keys_set_of_not_contains {t : Table κ α} {k : κ} (a : α) (h : ¬ t.contains k) :
    (t.set k a).keys = t.keys ++ [k] :=
  (map_fst_store k a t.entries).trans (if_neg fun mem => h (contains_iff_mem_keys.mpr mem))

/-! ## Sums -/

/-- The sum of the numbers of the entries whose keys pass a test. -/
def sumOf (q : κ → Bool) : List (κ × Nat) → Nat
  | [] => 0
  | (k, n) :: rest => (if q k then n else 0) + sumOf q rest

/-- **The sum of the numbers under the keys that pass a test.** -/
def total (q : κ → Bool) (t : Table κ Nat) : Nat := sumOf q t.entries

/-- What entries sum up to once one of them is replaced. It counts only where its key is among those
that are summed. -/
theorem sumOf_store (q : κ → Bool) (k : κ) (n : Nat) (entries : List (κ × Nat)) :
    sumOf q (store k n entries) + (if q k then (lookup k entries).getD 0 else 0) =
      sumOf q entries + (if q k then n else 0) := by
  induction entries with
  | nil => simp [store, sumOf, lookup]
  | cons e rest ih =>
    obtain ⟨k₀, c⟩ := e
    by_cases h : k₀ = k
    · subst h
      simp only [store, sumOf, lookup, if_pos]
      cases q k₀
      · simp
      · simp
        omega
    · simp only [store, sumOf, lookup, if_neg h]
      omega

/-- **The sum after setting a key:** what the key had goes, and what it gets comes. -/
theorem total_set (q : κ → Bool) (t : Table κ Nat) (k : κ) (n : Nat) :
    (t.set k n).total q + (if q k then (t.get? k).getD 0 else 0) =
      t.total q + (if q k then n else 0) := sumOf_store q k n t.entries

end Outbound.Table
