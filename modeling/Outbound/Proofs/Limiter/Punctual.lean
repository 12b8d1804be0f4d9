import Mathlib.Order.Bounds.Basic
import Outbound.Limiter.Basic
import Outbound.Proofs.Limiter.Tokens
import Outbound.Proofs.Limiter.Window

/-!
# Waits that are just long enough

A denied attempt says how long to wait. While no reading comes late, the wait is never too long: no
attempt before its end would have been granted. And it is long enough: a strategy denies at most so
many attempts in a row when each is made at the end of the wait before, one for a stock of tokens,
for spaced admissions and for calendar seconds, sixty for a window that has to pass.

## Main definitions

* `Punctual`: attempts at the ends of waits lead to a grant at the earliest reading
* `Algorithm.Reached`: a strategy as a clock that never goes back leaves it

## Main results

* `Punctual.isLeast`: the reading of the grant is the earliest one
* `Algorithm.Reached.punctual`: every strategy that has been reached is punctual
-/

namespace Outbound

/-! ## Attempts at the ends of waits -/

section Punctual

variable {σ τ : Type} {attempt : Nat → σ → Verdict × σ} {k now due : Nat} {s s' : σ} {d : Duration}

/-- **Attempts at the ends of waits lead to a grant at the earliest reading,** `due`, after at most
so many denials. -/
inductive Punctual (attempt : Nat → σ → Verdict × σ) : Nat → Nat → Nat → σ → Prop
  | granted {k now : Nat} {s : σ} (h : (attempt now s).1.isGranted = true) :
    Punctual attempt k now now s
  /-- No attempt is granted before the end of the wait, and the denied one changes no verdict after
  it. -/
  | waits {k now due : Nat} {s s' : σ} {d : Duration} (denied : attempt now s = (.denied d, s'))
    (early : ∀ t, now ≤ t → t < now + d.nanos → (attempt t s).1.isGranted = false)
    (same : ∀ t, now + d.nanos ≤ t → (attempt t s').1.isGranted = (attempt t s).1.isGranted)
    (rest : Punctual attempt k (now + d.nanos) due s') : Punctual attempt (k + 1) now due s

namespace Punctual

theorem le_due (h : Punctual attempt k now due s) : now ≤ due := by
  induction h with
  | granted _ => exact Nat.le_refl _
  | waits _ _ _ _ ih => exact Nat.le_trans (Nat.le_add_right _ _) ih

/-- **The reading of the grant is the earliest one** at which an attempt would be granted. No
reading within the wait is one, and those after it are those of the next attempt. -/
theorem isLeast (h : Punctual attempt k now due s) :
    IsLeast {t | now ≤ t ∧ (attempt t s).1.isGranted = true} due := by
  induction h with
  | granted h => exact ⟨⟨Nat.le_refl _, h⟩, fun t ht => ht.1⟩
  | @waits _ now _ _ _ d denied early same rest ih =>
    obtain ⟨⟨after, granted⟩, least⟩ := ih
    constructor
    · refine ⟨Nat.le_trans (Nat.le_add_right _ _) after, ?_⟩
      rw [← same _ after]
      exact granted
    · rintro t ⟨later, granted⟩
      rcases Nat.lt_or_ge t (now + d.nanos) with before | beyond
      · rw [early t later before] at granted
        cases granted
      · refine least ⟨beyond, ?_⟩
        rw [same t beyond]
        exact granted

/-- A strategy in another's clothes is as punctual. -/
theorem lift {other : Nat → τ → Verdict × τ} (wrap : σ → τ)
    (like : ∀ t s, other t (wrap s) = ((attempt t s).1, wrap (attempt t s).2))
    (h : Punctual attempt k now due s) : Punctual other k now due (wrap s) := by
  induction h with
  | granted h =>
    refine .granted ?_
    rw [like]
    exact h
  | waits denied early same rest ih =>
    refine .waits (by rw [like, denied]) ?_ ?_ ih
    · intro t later before
      rw [like]
      exact early t later before
    · intro t beyond
      rw [like, like]
      exact same t beyond

/-- One wait that ends with a grant. -/
theorem of_wait (denied : attempt now s = (.denied d, s'))
    (early : ∀ t, now ≤ t → t < now + d.nanos → (attempt t s).1.isGranted = false)
    (same : ∀ t, now + d.nanos ≤ t → (attempt t s').1.isGranted = (attempt t s).1.isGranted)
    (granted : (attempt (now + d.nanos) s).1.isGranted = true) :
    Punctual attempt 1 now (now + d.nanos) s := by
  refine .waits denied early same (.granted ?_)
  rw [same _ (Nat.le_refl _)]
  exact granted

end Punctual

end Punctual

/-! ## Spaced admissions -/

theorem LeakyBucket.isGranted_tryAcquire (now : Nat) (b : LeakyBucket) :
    (b.tryAcquire now).1.isGranted = decide (b.next ≤ now) := by
  unfold tryAcquire
  split
  · next before =>
    rw [decide_eq_false (Nat.not_le.mpr before)]
    rfl
  · next due =>
    rw [decide_eq_true (Nat.not_lt.mp due)]
    rfl

/-- **A leaky bucket is punctual:** it says when the next admission is due. -/
theorem LeakyBucket.punctual (now : Nat) (b : LeakyBucket) :
    ∃ due, Punctual LeakyBucket.tryAcquire 1 now due b := by
  rcases Nat.lt_or_ge now b.next with before | due
  · refine ⟨_, .of_wait (d := ⟨b.next - now⟩) (if_pos before) ?_ (fun _ _ => rfl) ?_⟩
    · intro t _ early
      rw [isGranted_tryAcquire, decide_eq_false_iff_not]
      dsimp only at early
      omega
    · rw [isGranted_tryAcquire, decide_eq_true_eq]
      dsimp only
      omega
  · refine ⟨_, .granted ?_⟩
    rw [isGranted_tryAcquire, decide_eq_true due]

/-! ## A stock of tokens -/

namespace TokenBucket

variable {b : TokenBucket} {now t : Nat}

/-- **When there is a token:** credit up to a reading makes one, or the stock was one. -/
theorem Sound.isGranted_iff (h : b.Sound) (room : unitsPerToken ≤ b.capacity)
    (later : b.creditedTo ≤ t) :
    (b.tryAcquire t).1.isGranted = true ↔
      unitsPerToken ≤ b.units + (t - b.creditedTo) * b.rate := by
  rw [isGranted_tryAcquire, decide_eq_true_eq, h.units_refill, Nat.max_eq_right later, le_min_iff]
  exact and_iff_right room

/-- The wait for a token is long enough, and no shorter wait is. -/
theorem untilToken_le_iff (positive : 0 < b.rate) (wait : Nat) :
    b.untilToken.nanos ≤ wait ↔ unitsPerToken ≤ b.units + wait * b.rate := by
  show (unitsPerToken - b.units + (max b.rate 1 - 1)) / max b.rate 1 ≤ wait ↔ _
  rw [Nat.max_eq_left positive, Nat.div_le_iff_le_mul_add_pred positive, Nat.mul_comm b.rate]
  omega

/-- **Credit in parts:** a refill changes no verdict from its reading on. -/
theorem Sound.isGranted_refill (h : b.Sound) (room : unitsPerToken ≤ b.capacity)
    (past : b.creditedTo ≤ now) (later : now ≤ t) :
    ((b.refill now).tryAcquire t).1.isGranted = (b.tryAcquire t).1.isGranted := by
  have credited : (b.refill now).creditedTo = now := by
    rw [creditedTo_refill, Nat.max_eq_right past]
  have parts : (t - b.creditedTo) * b.rate =
      (now - b.creditedTo) * b.rate + (t - now) * b.rate := by
    rw [← Nat.add_mul]
    congr 1
    omega
  rw [Bool.eq_iff_iff, h.isGranted_iff room (Nat.le_trans past later),
    (h.refill now).isGranted_iff (by rwa [capacity_refill]) (by rwa [credited]), credited,
    rate_refill, h.units_refill, Nat.max_eq_right past, parts]
  omega

/-- **A token bucket is punctual** while no reading comes late: a refill at any later reading makes
a token exactly from the end of the wait on. -/
theorem Sound.punctual (h : b.Sound) (room : unitsPerToken ≤ b.capacity) (positive : 0 < b.rate)
    (past : b.creditedTo ≤ now) : ∃ due, Punctual TokenBucket.tryAcquire 1 now due b := by
  rcases granted : (b.tryAcquire now).1.isGranted with _ | _
  · have short : ¬ unitsPerToken ≤ (b.refill now).units := by
      rwa [isGranted_tryAcquire, decide_eq_false_iff_not] at granted
    have credited : (b.refill now).creditedTo = now := by
      rw [creditedTo_refill, Nat.max_eq_right past]
    have due : ∀ t, now ≤ t → ((b.tryAcquire t).1.isGranted = true ↔
        now + (b.refill now).untilToken.nanos ≤ t) := by
      intro t later
      have wait := untilToken_le_iff (b := b.refill now) (by rwa [rate_refill]) (t - now)
      rw [← h.isGranted_refill room past later, (h.refill now).isGranted_iff
        (by rwa [capacity_refill]) (by rwa [credited]), credited, ← wait]
      omega
    refine ⟨_, .of_wait (tryAcquire_of_short short) ?_ ?_ ?_⟩
    · intro t later early
      rw [← Bool.not_eq_true, due t later]
      omega
    · intro t beyond
      exact h.isGranted_refill room past (Nat.le_trans (Nat.le_add_right _ _) beyond)
    · rw [due _ (Nat.le_add_right _ _)]
  · exact ⟨now, .granted granted⟩

end TokenBucket

/-! ## Calendar seconds -/

theorem secondOf_add_untilNextSecond (now : Nat) :
    secondOf (now + (untilNextSecond now).nanos) = secondOf now + 1 := by
  unfold secondOf untilNextSecond nanosPerSecond
  dsimp only
  omega

theorem secondOf_lt_of_untilNextSecond_le {now t : Nat}
    (beyond : now + (untilNextSecond now).nanos ≤ t) : secondOf now < secondOf t := by
  have next := secondOf_add_untilNextSecond now
  have mono : secondOf (now + (untilNextSecond now).nanos) ≤ secondOf t :=
    secondOf_mono beyond
  omega

theorem secondOf_of_lt_untilNextSecond {now t : Nat} (later : now ≤ t)
    (early : t < now + (untilNextSecond now).nanos) : secondOf t = secondOf now := by
  unfold secondOf untilNextSecond nanosPerSecond at *
  dsimp only at early
  omega

/-- **A fixed window is punctual** while nothing is counted in the future. -/
theorem FixedWindow.punctual {w : FixedWindow} {now : Nat} (positive : 0 < w.limit)
    (ahead : w.buckets.EmptyAfter (secondOf now)) :
    ∃ due, Punctual FixedWindow.tryAcquire 1 now due w := by
  rcases granted : (w.tryAcquire now).1.isGranted with _ | _
  · have full : ¬ w.buckets.count (secondOf now) < w.limit := by
      rwa [isGranted_tryAcquire, decide_eq_false_iff_not] at granted
    refine ⟨_, .of_wait (tryAcquire_of_full full) ?_ ?_ ?_⟩
    · intro t later early
      rw [isGranted_tryAcquire, secondOf_of_lt_untilNextSecond later early]
      exact decide_eq_false full
    · intro t beyond
      have after := secondOf_lt_of_untilNextSecond_le beyond
      rw [isGranted_tryAcquire, isGranted_tryAcquire, Buckets.count_openSecond (by omega)]
    · rw [isGranted_tryAcquire, secondOf_add_untilNextSecond, decide_eq_true_eq,
        ahead _ (Nat.lt_succ_self _)]
      exact positive
  · exact ⟨now, .granted granted⟩

namespace SlidingWindow

variable {w : SlidingWindow} {now : Nat}

theorem inWindow_of_secondOf_eq {b : Buckets} {t : Nat} (h : secondOf t = secondOf now) :
    b.inWindow t = b.inWindow now := by
  rw [Buckets.inWindow, Buckets.inWindow, h]

/-- A denied attempt changes no window that ends later. -/
theorem inWindow_openSecond {b : Buckets} {second t : Nat} (later : second ≤ secondOf t) :
    (b.openSecond second).inWindow t = b.inWindow t := by
  refine Buckets.inWindow_congr ?_
  intro u _ recent
  exact Buckets.count_openSecond (by omega)

/-- A window whose seconds are all empty has room. -/
theorem inWindow_eq_zero {b : Buckets} {last t : Nat} (ahead : b.EmptyAfter last)
    (passed : last + windowSeconds ≤ secondOf t) : b.inWindow t = 0 := by
  rw [Buckets.inWindow_eq]
  refine Finset.sum_eq_zero ?_
  intro u hu
  rw [Finset.mem_Icc] at hu
  refine ahead u ?_
  unfold windowSeconds at passed hu
  omega

/-- **A sliding window is punctual** up to the second in which all that it has counted has passed:
each wait brings it one second nearer. The induction is on the seconds that are left until the
window is empty for sure. -/
theorem punctual_of_left {last : Nat} (positive : 0 < w.budget)
    (ahead : w.buckets.EmptyAfter last) (left : Nat)
    (nearer : secondOf now + left = last + windowSeconds) :
    ∃ due, Punctual SlidingWindow.tryAcquire left now due w := by
  induction left generalizing now w with
  | zero =>
    refine ⟨now, .granted ?_⟩
    rw [isGranted_tryAcquire, inWindow_eq_zero ahead (by omega)]
    exact decide_eq_true positive
  | succ left ih =>
    rcases granted : (w.tryAcquire now).1.isGranted with _ | _
    · have full : ¬ w.buckets.inWindow now < w.budget := by
        rwa [isGranted_tryAcquire, decide_eq_false_iff_not] at granted
      have next := secondOf_add_untilNextSecond now
      have opened : Buckets.EmptyAfter last (w.buckets.openSecond (secondOf now)) :=
        ahead.openSecond _
      have nearest : secondOf (now + (untilNextSecond now).nanos) + left = last + windowSeconds := by
        omega
      obtain ⟨due, rest⟩ := ih (w := { w with buckets := w.buckets.openSecond (secondOf now) })
        positive opened nearest
      refine ⟨due, .waits (tryAcquire_of_full full) ?_ ?_ rest⟩
      · intro t later early
        rw [isGranted_tryAcquire,
          inWindow_of_secondOf_eq (secondOf_of_lt_untilNextSecond later early)]
        exact decide_eq_false full
      · intro t beyond
        have after := secondOf_lt_of_untilNextSecond_le beyond
        rw [isGranted_tryAcquire, isGranted_tryAcquire, inWindow_openSecond (by omega)]
    · exact ⟨now, .granted granted⟩

end SlidingWindow

/-! ## Every strategy -/

/-- The waits up to a grant, at most. -/
def Strategy.waits : Strategy → Nat
  | .slidingWindow => windowSeconds
  | _ => 1

namespace Algorithm

variable {c : LimiterConfig} {a : Algorithm} {now : Nat}

/-- **A strategy as a clock that never goes back leaves it:** built from a configuration, then
attempts and sweeps at readings that do not descend. -/
inductive Reached (c : LimiterConfig) : Algorithm → Nat → Prop
  | built (now : Nat) : Reached c (ofConfig c now) now
  | attempt {a : Algorithm} {now : Nat} (h : Reached c a now) : Reached c (a.tryAcquire now).2 now
  | sweep {a : Algorithm} {now : Nat} (h : Reached c a now) : Reached c (a.sweep now) now
  | later {a : Algorithm} {now t : Nat} (h : Reached c a now) (le : now ≤ t) : Reached c a t

/-- **A strategy that is not ahead of its time:** it is that of its configuration, and neither
credit nor admissions belong to the future. -/
inductive Timely (c : LimiterConfig) (now : Nat) : Algorithm → Prop
  | tokenBucket {b : TokenBucket} (strategy : c.strategy = .tokenBucket) (sound : b.Sound)
    (rate : b.rate = c.rate)
    (capacity : b.capacity = Word.saturate (c.burst * TokenBucket.unitsPerToken))
    (past : b.creditedTo ≤ now) : Timely c now (.tokenBucket b)
  | leakyBucket {b : LeakyBucket} (strategy : c.strategy = .leakyBucket) :
    Timely c now (.leakyBucket b)
  | fixedWindow {w : FixedWindow} (strategy : c.strategy = .fixedWindow) (limit : w.limit = c.rate)
    (ahead : w.buckets.EmptyAfter (secondOf now)) : Timely c now (.fixedWindow w)
  | slidingWindow {w : SlidingWindow} (strategy : c.strategy = .slidingWindow)
    (budget : w.budget = c.rate * windowSeconds)
    (ahead : w.buckets.EmptyAfter (secondOf now)) : Timely c now (.slidingWindow w)

namespace Timely

theorem built (c : LimiterConfig) (now : Nat) : Timely c now (ofConfig c now) := by
  rcases h : c.strategy with _ | _ | _ | _
  · rw [ofConfig, h]
    exact .tokenBucket h (TokenBucket.sound_full _ _ _) rfl rfl (Nat.le_refl _)
  · rw [ofConfig, h]
    exact .leakyBucket h
  · rw [ofConfig, h]
    exact .fixedWindow h rfl fun _ _ => rfl
  · rw [ofConfig, h]
    exact .slidingWindow h rfl fun _ _ => rfl

theorem attempt (h : Timely c now a) : Timely c now (a.tryAcquire now).2 := by
  cases h with
  | @tokenBucket b strategy sound rate capacity past =>
    refine .tokenBucket (b := (b.tryAcquire now).2) strategy (sound.tryAcquire now) ?_ ?_ ?_
    · rw [TokenBucket.rate_tryAcquire, rate]
    · rw [TokenBucket.capacity_tryAcquire, capacity]
    · rw [TokenBucket.creditedTo_tryAcquire, Nat.max_eq_right past]
  | leakyBucket strategy => exact .leakyBucket strategy
  | @fixedWindow w strategy limit ahead =>
    refine .fixedWindow (w := (w.tryAcquire now).2) strategy ?_
      (FixedWindow.emptyAfter_tryAcquire ahead (Nat.le_refl _))
    rw [FixedWindow.limit_tryAcquire, limit]
  | @slidingWindow w strategy budget ahead =>
    refine .slidingWindow (w := (w.tryAcquire now).2) strategy ?_
      (SlidingWindow.emptyAfter_tryAcquire ahead (Nat.le_refl _))
    rw [SlidingWindow.budget_tryAcquire, budget]

theorem sweep (h : Timely c now a) : Timely c now (a.sweep now) := by
  cases h with
  | tokenBucket strategy sound rate capacity past =>
    exact .tokenBucket strategy sound rate capacity past
  | leakyBucket strategy => exact .leakyBucket strategy
  | fixedWindow strategy limit ahead => exact .fixedWindow strategy limit (ahead.sweep _)
  | slidingWindow strategy budget ahead => exact .slidingWindow strategy budget (ahead.sweep _)

theorem later {t : Nat} (h : Timely c now a) (le : now ≤ t) : Timely c t a := by
  cases h with
  | tokenBucket strategy sound rate capacity past =>
    exact .tokenBucket strategy sound rate capacity (Nat.le_trans past le)
  | leakyBucket strategy => exact .leakyBucket strategy
  | fixedWindow strategy limit ahead =>
    exact .fixedWindow strategy limit (ahead.mono (secondOf_mono le))
  | slidingWindow strategy budget ahead =>
    exact .slidingWindow strategy budget (ahead.mono (secondOf_mono le))

/-- **A strategy that is not ahead of its time is punctual.** -/
theorem punctual (h : Timely c now a) (valid : c.problem? = none) :
    ∃ due, Punctual Algorithm.tryAcquire c.strategy.waits now due a := by
  have positive : 0 < c.rate := by
    rw [Nat.pos_iff_ne_zero]
    intro zero
    simp [LimiterConfig.problem?, zero] at valid
  cases h with
  | @tokenBucket b strategy sound rate capacity past =>
    have burst : c.burst ≠ 0 := by
      intro zero
      have rated : c.rate ≠ 0 := Nat.ne_of_gt positive
      simp [LimiterConfig.problem?, rated, strategy, zero] at valid
    have room : TokenBucket.unitsPerToken ≤ b.capacity := by
      rw [capacity]
      unfold Word.saturate Word.greatest TokenBucket.unitsPerToken nanosPerSecond
      omega
    obtain ⟨due, punctual⟩ := sound.punctual room (by rwa [rate]) past
    refine ⟨due, ?_⟩
    rw [strategy]
    exact punctual.lift Algorithm.tokenBucket fun _ _ => rfl
  | @leakyBucket b strategy =>
    obtain ⟨due, punctual⟩ := b.punctual now
    refine ⟨due, ?_⟩
    rw [strategy]
    exact punctual.lift Algorithm.leakyBucket fun _ _ => rfl
  | @fixedWindow w strategy limit ahead =>
    obtain ⟨due, punctual⟩ := w.punctual (by rwa [limit]) ahead
    refine ⟨due, ?_⟩
    rw [strategy]
    exact punctual.lift Algorithm.fixedWindow fun _ _ => rfl
  | @slidingWindow w strategy budget ahead =>
    have room : 0 < w.budget := by
      rw [budget]
      exact Nat.mul_pos positive (by decide)
    obtain ⟨due, punctual⟩ := w.punctual_of_left room ahead windowSeconds rfl
    refine ⟨due, ?_⟩
    rw [strategy]
    exact punctual.lift Algorithm.slidingWindow fun _ _ => rfl

end Timely

theorem Reached.timely (h : Reached c a now) : Timely c now a := by
  induction h with
  | built now => exact .built c now
  | attempt _ ih => exact ih.attempt
  | sweep _ ih => exact ih.sweep
  | later _ le ih => exact ih.later le

/-- **Every strategy that has been reached is punctual.** -/
theorem Reached.punctual (h : Reached c a now) (valid : c.problem? = none) :
    ∃ due, Punctual tryAcquire c.strategy.waits now due a := h.timely.punctual valid

end Algorithm

end Outbound
