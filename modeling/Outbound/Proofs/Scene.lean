import Outbound.Scene.Basic

/-!
# Waits and what they leave alone

A wait writes an entry of the journal, sets off alarms and moves the clock. Alarms cancel tokens
and do nothing else, and a token that is cancelled stays so.

## Main results

* `Scene.ring_eq`: which tokens are cancelled once a wait has been asked for
* `Scene.sleep_of_stopped`, `Scene.sleep_of_quiet`: a wait of a token that has been cancelled, and
  of one that neither is nor will be
-/

namespace Outbound.Scene

variable {s : Scene} {d : Duration} {token : Option Token}

theorem cancel_eq (t : Token) (s : Scene) :
    ∃ c, s.cancel t = { s with cancelled := c } ∧ ∀ u, u ∈ c ↔ u = t ∨ u ∈ s.cancelled := by
  by_cases h : s.isCancelled t
  · have mem : t ∈ s.cancelled := List.contains_iff_mem.mp h
    refine ⟨s.cancelled, if_pos h, ?_⟩
    intro u
    constructor
    · exact .inr
    · rintro (rfl | hu)
      · exact mem
      · exact hu
  · refine ⟨t :: s.cancelled, if_neg h, ?_⟩
    intro u
    exact List.mem_cons

/-- What alarms do, in the order in which they were set. -/
theorem foldl_alarms_eq (alarms : List (Nat × Token)) (s : Scene) :
    ∃ c, alarms.foldl
        (fun s a => if a.1 = s.clock.sleeps.length + 1 then s.cancel a.2 else s) s =
      { s with cancelled := c } ∧
      ∀ t, t ∈ c ↔ t ∈ s.cancelled ∨ (s.clock.sleeps.length + 1, t) ∈ alarms := by
  induction alarms generalizing s with
  | nil => exact ⟨s.cancelled, rfl, fun t => by simp⟩
  | cons a rest ih =>
    rw [List.foldl_cons]
    by_cases due : a.1 = s.clock.sleeps.length + 1
    · rw [if_pos due]
      obtain ⟨c, hc, memc⟩ := cancel_eq a.2 s
      rw [hc]
      obtain ⟨c', hc', memc'⟩ := ih { s with cancelled := c }
      refine ⟨c', hc', ?_⟩
      intro t
      have head : (s.clock.sleeps.length + 1, t) = a ↔ t = a.2 := by
        rw [← due, Prod.ext_iff]
        simp
      rw [memc', List.mem_cons, head]
      dsimp only
      rw [memc, or_assoc, or_left_comm]
    · rw [if_neg due]
      obtain ⟨c, hc, memc⟩ := ih s
      refine ⟨c, hc, ?_⟩
      intro t
      have head : (s.clock.sleeps.length + 1, t) ≠ a := by
        rintro rfl
        exact due rfl
      rw [memc, List.mem_cons]
      simp [head]

/-- **What alarms do:** those that are due cancel their tokens. -/
theorem ring_eq (s : Scene) :
    ∃ c, s.ring = { s with cancelled := c } ∧
      ∀ t, t ∈ c ↔ t ∈ s.cancelled ∨ (s.clock.sleeps.length + 1, t) ∈ s.alarms :=
  foldl_alarms_eq s.alarms s

/-- Asking for a wait changes the journal and the cancelled tokens. -/
theorem askSleep_eq (d : Duration) (s : Scene) :
    ∃ c, s.askSleep d = { s with journal := .sleep d :: s.journal, cancelled := c } ∧
      ∀ t, t ∈ c ↔ t ∈ s.cancelled ∨ (s.clock.sleeps.length + 1, t) ∈ s.alarms :=
  ring_eq (s.log (.sleep d))

theorem isStopped_iff : s.isStopped token = true ↔ ∃ t, token = some t ∧ t ∈ s.cancelled := by
  rcases token with _ | t
  · simp [isStopped]
  · simp [isStopped, isCancelled]

/-- A cancelled token stays cancelled. -/
theorem isStopped_askSleep (h : s.isStopped token) : (s.askSleep d).isStopped token := by
  obtain ⟨t, rfl, ht⟩ := isStopped_iff.mp h
  obtain ⟨c, hc, memc⟩ := askSleep_eq d s
  rw [hc]
  exact isStopped_iff.mpr ⟨t, rfl, (memc t).mpr (.inl ht)⟩

/-- **A wait of a cancelled token** is interrupted, and the clock stands still. -/
theorem sleep_of_stopped (h : s.isStopped token) :
    s.sleep d token = (.error .interrupted, s.askSleep d) := if_pos (isStopped_askSleep h)

theorem clock_askSleep (d : Duration) (s : Scene) : (s.askSleep d).clock = s.clock := by
  obtain ⟨c, hc, -⟩ := askSleep_eq d s
  rw [hc]

/-- **A token is out of play** when it neither has been cancelled nor has an alarm. -/
def Quiet (token : Option Token) (s : Scene) : Prop :=
  ∀ t, token = some t → t ∉ s.cancelled ∧ ∀ n, (n, t) ∉ s.alarms

theorem Quiet.not_stopped_askSleep (h : s.Quiet token) : ¬ (s.askSleep d).isStopped token := by
  intro stopped
  obtain ⟨t, rfl, ht⟩ := isStopped_iff.mp stopped
  obtain ⟨c, hc, memc⟩ := askSleep_eq d s
  rw [hc] at ht
  rcases (memc t).mp ht with past | due
  · exact (h t rfl).1 past
  · exact (h t rfl).2 _ due

/-- A token that is out of play stays so: a wait cancels no tokens but those whose alarm goes off
with it. -/
theorem Quiet.askSleep (h : s.Quiet token) (d : Duration) : (s.askSleep d).Quiet token := by
  intro t ht
  obtain ⟨past, due⟩ := h t ht
  obtain ⟨c, hc, memc⟩ := askSleep_eq d s
  rw [hc]
  exact ⟨fun h => ((memc t).mp h).elim past (due _), due⟩

/-- **A wait of a token that is out of play** is slept. -/
theorem sleep_of_quiet (h : s.Quiet token) :
    s.sleep d token =
      (.ok (), { s.askSleep d with clock := s.clock.record d }) := by
  rw [sleep]
  dsimp only
  rw [if_neg h.not_stopped_askSleep, clock_askSleep]

end Outbound.Scene
