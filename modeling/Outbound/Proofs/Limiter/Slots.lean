import Outbound.Limiter.Slots

/-!
# What slots keep

Every slot is free, taken, or handed over to a caller that has yet to pick it up. While somebody
waits there is no free slot, so a slot that is taken and given back at once leaves no trace.

## Main definitions

* `Slots.Sound`: what holds of slots at every moment

## Main results

* `Slots.Sound.tryTake`, `Slots.Sound.giveBack`, `Slots.Sound.enter`, `Slots.Sound.pickUp`,
  `Slots.Sound.leave`: every operation keeps the slots sound
* `Slots.Sound.giveBack_tryTake`: a slot taken and given back at once leaves no trace
-/

namespace Outbound.Slots

variable {s : Slots} {t : Ticket}

/-- **What holds of slots at every moment.** -/
structure Sound (s : Slots) : Prop where
  /-- Every slot is free, taken or handed over. -/
  balanced : s.free + s.inFlight + s.handed.length = s.cap
  /-- Callers wait only while no slot is free. -/
  served : s.queue ≠ [] → s.free = 0
  /-- Nobody has two places, in the queue or beside it. -/
  distinct : (s.queue ++ s.handed).Nodup
  /-- The tickets that are out are those before the next one. -/
  known : ∀ t ∈ s.queue ++ s.handed, t < s.nextTicket

theorem sound_ofCap (cap : Nat) : (ofCap cap).Sound :=
  ⟨by simp [ofCap], fun h => absurd rfl h, by simp [ofCap], by simp [ofCap]⟩

/-! ## What each operation does -/

theorem tryTake_of_free (h : s.free ≠ 0) :
    s.tryTake = (true, { s with free := s.free - 1, inFlight := s.inFlight + 1 }) := if_neg h

theorem tryTake_of_full (h : s.free = 0) : s.tryTake = (false, s) := if_pos h

theorem giveBack_of_taken (h : s.inFlight ≠ 0) :
    s.giveBack = (true, { s with inFlight := s.inFlight - 1 }.passOn) := if_neg h

theorem giveBack_of_none (h : s.inFlight = 0) : s.giveBack = (false, s) := if_pos h

theorem passOn_of_queue_nil (h : s.queue = []) :
    s.passOn = { s with free := s.free + 1 } := by
  simp only [passOn, h]

theorem passOn_of_queue_cons {rest : List Ticket} (h : s.queue = t :: rest) :
    s.passOn = { s with queue := rest, handed := s.handed ++ [t] } := by
  simp only [passOn, h]

theorem pickUp_of_mem (h : t ∈ s.handed) :
    s.pickUp t = (true, { s with handed := s.handed.erase t, inFlight := s.inFlight + 1 }) :=
  if_pos (List.contains_iff_mem.mpr h)

theorem pickUp_of_not_mem (h : t ∉ s.handed) : s.pickUp t = (false, s) :=
  if_neg fun h' => h (List.contains_iff_mem.mp h')

theorem leave_of_mem (h : t ∈ s.handed) :
    s.leave t = { s with handed := s.handed.erase t }.passOn :=
  if_pos (List.contains_iff_mem.mpr h)

theorem leave_of_not_mem (h : t ∉ s.handed) :
    s.leave t = { s with queue := s.queue.erase t } :=
  if_neg fun h' => h (List.contains_iff_mem.mp h')

@[simp] theorem cap_passOn (s : Slots) : s.passOn.cap = s.cap := by
  unfold passOn; split <;> rfl

@[simp] theorem inFlight_passOn (s : Slots) : s.passOn.inFlight = s.inFlight := by
  unfold passOn; split <;> rfl

@[simp] theorem nextTicket_passOn (s : Slots) : s.passOn.nextTicket = s.nextTicket := by
  unfold passOn; split <;> rfl

@[simp] theorem cap_tryTake (s : Slots) : s.tryTake.2.cap = s.cap := by
  unfold tryTake; split <;> rfl

@[simp] theorem cap_giveBack (s : Slots) : s.giveBack.2.cap = s.cap := by
  unfold giveBack; split
  · rfl
  · exact cap_passOn _

/-- What is given back is no longer taken. -/
theorem inFlight_giveBack (s : Slots) : s.giveBack.2.inFlight = s.inFlight - 1 := by
  by_cases h : s.inFlight = 0
  · rw [giveBack_of_none h, h]
  · rw [giveBack_of_taken h, inFlight_passOn]

/-! ## Soundness -/

/-- A slot that lies about, passed on: the only step at which a caller moves up. If somebody waits,
no slot is free and none becomes free, so the ticket changes its place only. -/
theorem sound_passOn (balanced : s.free + s.inFlight + s.handed.length + 1 = s.cap)
    (served : s.queue ≠ [] → s.free = 0) (distinct : (s.queue ++ s.handed).Nodup)
    (known : ∀ t ∈ s.queue ++ s.handed, t < s.nextTicket) : s.passOn.Sound := by
  rcases hq : s.queue with _ | ⟨t, rest⟩
  · rw [passOn_of_queue_nil hq]
    refine ⟨?_, ?_, distinct, known⟩
    · show s.free + 1 + s.inFlight + s.handed.length = s.cap
      omega
    · intro waits
      exact absurd hq waits
  · rw [passOn_of_queue_cons hq]
    have full : s.free = 0 := served (by simp [hq])
    rw [hq] at distinct known
    have moved : (rest ++ (s.handed ++ [t])).Perm (t :: rest ++ s.handed) := by
      rw [← List.append_assoc]
      exact List.perm_append_comm.trans (List.Perm.refl _)
    refine ⟨?_, fun _ => full, moved.nodup_iff.mpr distinct, ?_⟩
    · show s.free + s.inFlight + (s.handed ++ [t]).length = s.cap
      rw [List.length_append, List.length_singleton]
      omega
    · intro u hu
      exact known u (moved.mem_iff.mp hu)

namespace Sound

theorem tryTake (h : s.Sound) : s.tryTake.2.Sound := by
  by_cases free : s.free = 0
  · rwa [tryTake_of_full free]
  · rw [tryTake_of_free free]
    refine ⟨?_, ?_, h.distinct, h.known⟩
    · have := h.balanced
      show s.free - 1 + (s.inFlight + 1) + s.handed.length = s.cap
      omega
    · intro waits
      exact absurd (h.served waits) free

theorem giveBack (h : s.Sound) : s.giveBack.2.Sound := by
  by_cases none : s.inFlight = 0
  · rwa [giveBack_of_none none]
  · rw [giveBack_of_taken none]
    refine sound_passOn ?_ h.served h.distinct h.known
    have := h.balanced
    show s.free + (s.inFlight - 1) + s.handed.length + 1 = s.cap
    omega

/-- Somebody queues up when there is no free slot. The ticket is new, for all that are out are
smaller. -/
theorem enter (h : s.Sound) (full : s.free = 0) : s.enter.2.Sound := by
  have fresh : s.nextTicket ∉ s.queue ++ s.handed := fun hm => Nat.lt_irrefl _ (h.known _ hm)
  have moved : (s.queue ++ [s.nextTicket] ++ s.handed).Perm
      (s.nextTicket :: (s.queue ++ s.handed)) := by
    rw [List.append_assoc]
    exact List.perm_middle
  have distinct := List.nodup_cons.mpr ⟨fresh, h.distinct⟩
  refine ⟨h.balanced, fun _ => full, moved.nodup_iff.mpr distinct, ?_⟩
  intro u hu
  rcases List.mem_cons.mp (moved.mem_iff.mp hu) with rfl | hu
  · exact Nat.lt_succ_self _
  · exact Nat.lt_succ_of_lt (h.known u hu)

theorem pickUp (h : s.Sound) : (s.pickUp t).2.Sound := by
  by_cases hm : t ∈ s.handed
  · rw [pickUp_of_mem hm]
    have sub : (s.queue ++ s.handed.erase t).Sublist (s.queue ++ s.handed) :=
      List.Sublist.append_left List.erase_sublist _
    refine ⟨?_, h.served, h.distinct.sublist sub, ?_⟩
    · have := h.balanced
      have := List.length_pos_of_mem hm
      show s.free + (s.inFlight + 1) + (s.handed.erase t).length = s.cap
      rw [List.length_erase_of_mem hm]
      omega
    · intro u hu
      exact h.known u (sub.subset hu)
  · rwa [pickUp_of_not_mem hm]

/-- Somebody goes away. Whoever still waits waited before, so there was no free slot. -/
theorem leave (h : s.Sound) : (s.leave t).Sound := by
  by_cases hm : t ∈ s.handed
  · rw [leave_of_mem hm]
    have sub : (s.queue ++ s.handed.erase t).Sublist (s.queue ++ s.handed) :=
      List.Sublist.append_left List.erase_sublist _
    refine sound_passOn ?_ h.served (h.distinct.sublist sub) ?_
    · have := h.balanced
      have := List.length_pos_of_mem hm
      show s.free + s.inFlight + (s.handed.erase t).length + 1 = s.cap
      rw [List.length_erase_of_mem hm]
      omega
    · intro u hu
      exact h.known u (sub.subset hu)
  · rw [leave_of_not_mem hm]
    have sub : (s.queue.erase t ++ s.handed).Sublist (s.queue ++ s.handed) :=
      List.Sublist.append_right List.erase_sublist _
    refine ⟨h.balanced, ?_, h.distinct.sublist sub, ?_⟩
    · intro waits
      apply h.served
      intro empty
      apply waits
      show s.queue.erase t = []
      rw [empty]
      rfl
    · intro u hu
      exact h.known u (sub.subset hu)

/-- **A slot taken and given back at once leaves no trace.** A free slot means that nobody waits, so
it is free again. Without the queue being served first, the slot would go to the first caller that
waits. -/
theorem giveBack_tryTake (h : s.Sound) (taken : s.tryTake.1 = true) :
    s.tryTake.2.giveBack = (true, s) := by
  have free : s.free ≠ 0 := by
    intro full
    simp [tryTake_of_full full] at taken
  have empty : ({ s with free := s.free - 1 } : Slots).queue = [] :=
    Decidable.byContradiction fun waits => free (h.served waits)
  rw [tryTake_of_free free, giveBack_of_taken (Nat.succ_ne_zero _)]
  refine Prod.ext rfl ?_
  refine (passOn_of_queue_nil empty).trans (Slots.ext rfl ?_ rfl rfl rfl rfl)
  show s.free - 1 + 1 = s.free
  omega

end Sound

end Outbound.Slots
