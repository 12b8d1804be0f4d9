import Mathlib.Data.Finset.Card
import Mathlib.Order.Interval.Finset.Nat
import Outbound.Proofs.Limiter.Denial
import Outbound.Proofs.Limiter.Tolerance

/-!
# Windows stay small without sweeps

A window drops old seconds in two ways, and the two do not drop the same. A new second drops those
before its own sixty, but only once there are too many; a sweep drops those before the last
sixty-one, however few there are. While readings do not go back neither drops a second that is still
in the window, and what is left is never more than a window and one second.

## Main definitions

* `Buckets.Retains`: what is left of the seconds in which attempts were made
* `Algorithm.seconds`, `Use.second?`: the seconds that are counted, and that in which an attempt is
  made

## Main results

* `Buckets.keys_openSecond`: what opening a second does to those that are counted
* `Buckets.Retains.openSecond`, `Buckets.Retains.sweep`: opening a second and sweeping
* `Algorithm.seconds_bounded`: what is left after attempts and sweeps
-/

namespace Outbound

namespace Buckets

variable {last second : Nat} {tried : List Nat} {b b' : Buckets}

/-- **What is left of the seconds in which attempts were made,** up to a last one. Those of the
window that ends with it are all there, and with the older ones there is at most one more than a
window has. -/
structure Retains (last : Nat) (tried : List Nat) (b : Buckets) : Prop where
  distinct : b.keys.Nodup
  used : ∀ u ∈ b.keys, u ∈ tried
  past : ∀ u ∈ tried, u ≤ last
  recent : ∀ u ∈ tried, last < u + windowSeconds → u ∈ b.keys
  bounded : b.size ≤ windowSeconds + 1

theorem retains_empty : Retains 0 [] .empty where
  distinct := List.nodup_nil
  used _ mem := mem
  past _ mem := nomatch mem
  recent _ mem := nomatch mem
  bounded := Nat.zero_le _

theorem keys_keepFrom (b : Buckets) (oldest : Nat) :
    (b.keepFrom oldest).keys = b.keys.filter fun u => decide (oldest ≤ u) := Table.keys_keep _ b

/-- **What opening a second does to those that are counted:** nothing if it is one of them, else it
comes last, and where there is no room for it, those before its window go. -/
theorem keys_openSecond (b : Buckets) (second : Nat) :
    (second ∈ b.keys ∧ (b.openSecond second).keys = b.keys) ∨
    (second ∉ b.keys ∧ b.size ≤ windowSeconds ∧
      (b.openSecond second).keys = b.keys ++ [second]) ∨
    (second ∉ b.keys ∧ (b.openSecond second).keys =
      (b.keys ++ [second]).filter fun u => decide (second - (windowSeconds - 1) ≤ u)) := by
  by_cases known : Table.contains b second = true
  · exact .inl ⟨Table.contains_iff_mem_keys.mp known, by rw [openSecond_of_contains known]⟩
  · have fresh : second ∉ b.keys := fun mem => known (Table.contains_iff_mem_keys.mpr mem)
    have added : Table.keys (b.set second 0) = b.keys ++ [second] :=
      Table.keys_set_of_not_contains 0 known
    have size : Table.size (b.set second 0) = b.size + 1 := by
      rw [← Table.length_keys, added, List.length_append, Table.length_keys]
      rfl
    unfold openSecond
    rw [if_neg known]
    dsimp only
    split
    · next large =>
      rw [keys_keepFrom, added]
      exact .inr (.inr ⟨fresh, rfl⟩)
    · next small =>
      rw [size] at small
      exact .inr (.inl ⟨fresh, by omega, added⟩)

section Opened

variable {u : Nat}

/-- Opening a second counts no other second that was not counted before. -/
theorem mem_keys_openSecond (h : u ∈ (b.openSecond second).keys) : u ∈ b.keys ∨ u = second := by
  rcases keys_openSecond b second with ⟨-, same⟩ | ⟨-, -, added⟩ | ⟨-, cut⟩
  · rw [same] at h
    exact .inl h
  · rw [added, List.mem_append, List.mem_singleton] at h
    exact h
  · rw [cut, List.mem_filter, List.mem_append, List.mem_singleton] at h
    exact h.1

/-- Opening a second keeps the others of its window. -/
theorem mem_keys_openSecond_of_recent (mem : u ∈ b.keys) (recent : second < u + windowSeconds) :
    u ∈ (b.openSecond second).keys := by
  rcases keys_openSecond b second with ⟨-, same⟩ | ⟨-, -, added⟩ | ⟨-, cut⟩
  · rw [same]
    exact mem
  · rw [added]
    exact List.mem_append_left [second] mem
  · rw [cut, List.mem_filter, decide_eq_true_eq]
    refine ⟨List.mem_append_left [second] mem, ?_⟩
    unfold windowSeconds at recent ⊢
    omega

theorem nodup_keys_openSecond (second : Nat) (distinct : b.keys.Nodup) :
    (b.openSecond second).keys.Nodup := by
  have separate (fresh : second ∉ b.keys) : (b.keys ++ [second]).Nodup := by
    refine distinct.append (List.nodup_singleton second) ?_
    rw [List.disjoint_singleton]
    exact fresh
  rcases keys_openSecond b second with ⟨-, same⟩ | ⟨fresh, -, added⟩ | ⟨fresh, cut⟩
  · rw [same]
    exact distinct
  · rw [added]
    exact separate fresh
  · rw [cut]
    exact (separate fresh).filter _

/-- Different seconds of one window are at most as many as it has. -/
theorem length_le_of_within {seconds : List Nat} (last : Nat) (distinct : seconds.Nodup)
    (within : ∀ u ∈ seconds, last - (windowSeconds - 1) ≤ u ∧ u ≤ last) :
    seconds.length ≤ windowSeconds := by
  have among : seconds.toFinset ⊆ Finset.Icc (last - (windowSeconds - 1)) last := by
    intro u mem
    exact Finset.mem_Icc.mpr (within u (List.mem_toFinset.mp mem))
  calc seconds.length = seconds.toFinset.card := (List.toFinset_card_of_nodup distinct).symm
    _ ≤ (Finset.Icc (last - (windowSeconds - 1)) last).card := Finset.card_le_card among
    _ ≤ windowSeconds := by
        rw [Nat.card_Icc]
        unfold windowSeconds
        omega

/-- Opening a second that none comes after leaves at most one more than a window has, for what is
left of a table that is cut lies in one window. -/
theorem size_openSecond_le (distinct : b.keys.Nodup) (bounded : b.size ≤ windowSeconds + 1)
    (past : ∀ u ∈ b.keys, u ≤ second) : (b.openSecond second).size ≤ windowSeconds + 1 := by
  have separate := nodup_keys_openSecond second distinct
  rw [← Table.length_keys] at bounded ⊢
  rcases keys_openSecond b second with ⟨-, same⟩ | ⟨-, room, added⟩ | ⟨-, cut⟩
  · rw [same]
    exact bounded
  · rw [added, List.length_append, Table.length_keys]
    exact Nat.succ_le_succ room
  · refine Nat.le_succ_of_le (length_le_of_within second separate ?_)
    intro u mem
    have before : u ≤ second := (mem_keys_openSecond mem).elim (past u) Nat.le_of_eq
    rw [cut, List.mem_filter, decide_eq_true_eq] at mem
    exact ⟨mem.2, before⟩

end Opened

namespace Retains

/-- Only the seconds matter, not what was admitted in them. -/
theorem congr (h : Retains last tried b) (same : b'.keys = b.keys) : Retains last tried b' where
  distinct := same ▸ h.distinct
  used := same ▸ h.used
  past := h.past
  recent := same ▸ h.recent
  bounded := by
    rw [← Table.length_keys, same, Table.length_keys]
    exact h.bounded

/-- **Opening a second** that does not come before the last one. -/
theorem openSecond (h : Retains last tried b) (ascends : last ≤ second) :
    Retains second (tried ++ [second]) (b.openSecond second) where
  distinct := nodup_keys_openSecond second h.distinct
  used := by
    intro u mem
    rw [List.mem_append, List.mem_singleton]
    exact (mem_keys_openSecond mem).imp_left (h.used u)
  past := by
    intro u mem
    rcases List.mem_append.mp mem with old | new
    · exact Nat.le_trans (h.past u old) ascends
    · exact Nat.le_of_eq (List.mem_singleton.mp new)
  recent := by
    intro u mem recent
    rcases List.mem_append.mp mem with old | new
    · exact mem_keys_openSecond_of_recent
        (h.recent u old (Nat.lt_of_le_of_lt ascends recent)) recent
    · rw [List.mem_singleton.mp new]
      exact Table.contains_iff_mem_keys.mp (contains_openSecond b second)
  bounded := by
    refine size_openSecond_le h.distinct h.bounded ?_
    intro u mem
    exact Nat.le_trans (h.past u (h.used u mem)) ascends

/-- **A sweep** in a second that does not come before the last one. It goes back one second further
than the window. -/
theorem sweep (h : Retains last tried b) (ascends : last ≤ second) :
    Retains second tried (b.sweep second) := by
  have left : (b.sweep second).keys =
      b.keys.filter fun u => decide (second - windowSeconds ≤ u) := keys_keepFrom b _
  refine ⟨?_, ?_, fun u mem => Nat.le_trans (h.past u mem) ascends, ?_, ?_⟩
  · rw [left]
    exact h.distinct.filter _
  · intro u mem
    rw [left] at mem
    exact h.used u (List.mem_filter.mp mem).1
  · intro u mem recent
    have known := h.recent u mem (Nat.lt_of_le_of_lt ascends recent)
    rw [left, List.mem_filter, decide_eq_true_eq]
    exact ⟨known, by omega⟩
  · have fewer := List.length_filter_le (fun u => decide (second - windowSeconds ≤ u)) b.keys
    rw [← left, Table.length_keys, Table.length_keys] at fewer
    exact Nat.le_trans fewer h.bounded

end Retains

end Buckets

/-! ## Attempts and sweeps -/

theorem FixedWindow.keys_tryAcquire (now : Nat) (w : FixedWindow) :
    (w.tryAcquire now).2.buckets.keys = (w.buckets.openSecond (secondOf now)).keys := by
  by_cases room : w.buckets.count (secondOf now) < w.limit
  · rw [tryAcquire_of_room room]
    exact Table.keys_set_of_contains _ (Buckets.contains_openSecond _ _)
  · rw [tryAcquire_of_full room]

/-- An attempt that is counted and taken back has opened its second all the same. -/
theorem SlidingWindow.keys_tryAcquire (now : Nat) (w : SlidingWindow) :
    (w.tryAcquire now).2.buckets.keys = (w.buckets.openSecond (secondOf now)).keys := by
  by_cases room : w.buckets.inWindow now < w.budget
  · rw [tryAcquire_of_room room]
    exact Table.keys_set_of_contains _ (Buckets.contains_openSecond _ _)
  · rw [tryAcquire_of_full room]

/-- The second in which an attempt is made; a sweep makes none. -/
def Use.second? : Use → Option Nat
  | attempt now => some (secondOf now)
  | sweep _ => none

namespace Algorithm

variable {last latest : Nat} {tried : List Nat} {a : Algorithm}

/-- **The seconds that are counted,** none by a bucket. -/
def seconds : Algorithm → List Nat
  | fixedWindow w => w.buckets.keys
  | slidingWindow w => w.buckets.keys
  | _ => []

theorem retained_eq (a : Algorithm) : a.retained = a.seconds.length := by
  cases a with
  | tokenBucket b => rfl
  | leakyBucket b => rfl
  | fixedWindow w => exact (Table.length_keys _).symm
  | slidingWindow w => exact (Table.length_keys _).symm

/-- **A window, and what is left in it** of the seconds in which attempts were made. -/
def Retains (last : Nat) (tried : List Nat) : Algorithm → Prop
  | fixedWindow w => w.buckets.Retains last tried
  | slidingWindow w => w.buckets.Retains last tried
  | _ => False

/-- What is left in a window is a table. -/
theorem Retains.exists_buckets (h : a.Retains last tried) :
    ∃ b : Buckets, b.Retains last tried ∧ a.seconds = b.keys := by
  cases a with
  | tokenBucket b => exact h.elim
  | leakyBucket b => exact h.elim
  | fixedWindow w => exact ⟨w.buckets, h, rfl⟩
  | slidingWindow w => exact ⟨w.buckets, h, rfl⟩

/-- **A use that does not come before the last second** leaves what is to be left. -/
theorem Retains.use (h : a.Retains last tried) {use : Use} (ascends : last ≤ secondOf use.reading) :
    (a.use use).Retains (secondOf use.reading) (tried ++ use.second?.toList) := by
  cases a with
  | tokenBucket b => exact h.elim
  | leakyBucket b => exact h.elim
  | fixedWindow w =>
    cases use with
    | attempt now =>
      exact (Buckets.Retains.openSecond h ascends).congr (FixedWindow.keys_tryAcquire now w)
    | sweep now =>
      rw [Use.second?, Option.toList_none, List.append_nil]
      exact Buckets.Retains.sweep h ascends
  | slidingWindow w =>
    cases use with
    | attempt now =>
      exact (Buckets.Retains.openSecond h ascends).congr (SlidingWindow.keys_tryAcquire now w)
    | sweep now =>
      rw [Use.second?, Option.toList_none, List.append_nil]
      exact Buckets.Retains.sweep h ascends

/-- **Uses whose readings do not go back** leave what is to be left, one after the other. -/
theorem Retains.afterUses (h : a.Retains (secondOf latest) tried) {uses : List Use}
    (ascending : (latest :: uses.map Use.reading).Pairwise (· ≤ ·)) :
    (a.afterUses uses).Retains (secondOf (reached latest (uses.map Use.reading)))
      (tried ++ uses.filterMap Use.second?) := by
  induction uses generalizing latest tried a with
  | nil =>
    rw [List.filterMap_nil, List.append_nil]
    exact h
  | cons use rest ih =>
    rw [List.map_cons, List.pairwise_cons] at ascending
    have ascends : latest ≤ use.reading := ascending.1 _ (by simp)
    have parts : (use :: rest).filterMap Use.second? =
        use.second?.toList ++ rest.filterMap Use.second? := by
      simp only [List.filterMap_eq_flatMap_toList, List.flatMap_cons]
    have later := ih (h.use (secondOf_mono ascends)) ascending.2
    rw [List.append_assoc, ← parts] at later
    rw [List.map_cons, reached, List.foldl_cons, Nat.max_eq_right ascends]
    exact later

theorem mem_tried {uses : List Use} {u : Nat} :
    u ∈ uses.filterMap Use.second? ↔ ∃ now, .attempt now ∈ uses ∧ secondOf now = u := by
  rw [List.mem_filterMap]
  constructor
  · rintro ⟨use, mem, own⟩
    cases use with
    | attempt now => exact ⟨now, mem, Option.some.inj own⟩
    | sweep now => cases own
  · rintro ⟨now, mem, rfl⟩
    exact ⟨.attempt now, mem, rfl⟩

/-- **What is left after attempts and sweeps** whose readings do not go back, at a fixed and at a
sliding window of any rate. At most sixty-one seconds are counted; each is one in which an attempt
was made, and none comes after the last reading. Of the sixty seconds that end with the last reading
none is missing in which an attempt was made. -/
theorem seconds_bounded (rate : Nat)
    (isNew : a = .fixedWindow (.ofRate rate) ∨ a = .slidingWindow (.ofRate rate)) (uses : List Use)
    (ascending : (uses.map Use.reading).Pairwise (· ≤ ·)) :
    (a.afterUses uses).retained ≤ 61 ∧
      (∀ u ∈ (a.afterUses uses).seconds, (∃ now, .attempt now ∈ uses ∧ secondOf now = u) ∧
        u ≤ secondOf (reached 0 (uses.map Use.reading))) ∧
      ∀ now, .attempt now ∈ uses →
        secondOf (reached 0 (uses.map Use.reading)) < secondOf now + windowSeconds →
        secondOf now ∈ (a.afterUses uses).seconds := by
  have begins : a.Retains (secondOf 0) [] := by
    rcases isNew with rfl | rfl
    · exact Buckets.retains_empty
    · exact Buckets.retains_empty
  have ascending' : (0 :: uses.map Use.reading).Pairwise (· ≤ ·) :=
    List.pairwise_cons.mpr ⟨fun _ _ => Nat.zero_le _, ascending⟩
  obtain ⟨b, left, same⟩ := (begins.afterUses ascending').exists_buckets
  rw [List.nil_append] at left
  rw [retained_eq, same]
  refine ⟨?_, ?_, ?_⟩
  · rw [Table.length_keys]
    exact left.bounded
  · intro u mem
    have among := left.used u mem
    exact ⟨mem_tried.mp among, left.past u among⟩
  · intro now mem recent
    exact left.recent (secondOf now) (mem_tried.mpr ⟨now, mem, rfl⟩) recent

/-- An attempt in each of sixty-one seconds, a sweep in the last of them, and an attempt in the next
second. -/
def pastAMinute : List Use :=
  ((List.range 61).map fun k => .attempt (k * nanosPerSecond)) ++
    [.sweep 60500000000, .attempt 61000000000]

/-- The sweep drops nothing, so sixty-one seconds are counted after it. The attempt in second 61 then
drops two of them, and second 2, the oldest of its window, is still there. -/
theorem seconds_bounded_past_minute :
    (pastAMinute.map Use.reading).Pairwise (· ≤ ·) ∧
      ((fixedWindow (.ofRate 5)).afterUses (pastAMinute.take 62)).retained = 61 ∧
      ((fixedWindow (.ofRate 5)).afterUses pastAMinute).retained ≤ 61 ∧
      1 ∉ ((fixedWindow (.ofRate 5)).afterUses pastAMinute).seconds ∧
      2 ∈ ((fixedWindow (.ofRate 5)).afterUses pastAMinute).seconds := by
  have ascending : (pastAMinute.map Use.reading).Pairwise (· ≤ ·) := by decide +kernel
  obtain ⟨few, -, present⟩ := seconds_bounded 5 (.inl rfl) pastAMinute ascending
  refine ⟨ascending, by decide +kernel, few, by decide +kernel, ?_⟩
  exact present 2000000000 (by decide +kernel) (by decide +kernel)

/-- Attempts whose readings go back leave more than a window and one second. -/
example : ((fixedWindow (.ofRate 5)).afterUses ((List.range 70).reverse.map fun k =>
    .attempt (k * nanosPerSecond))).retained = 70 := by
  decide +kernel

end Algorithm

end Outbound
