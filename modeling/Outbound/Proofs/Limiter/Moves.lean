import Mathlib.Data.List.Basic
import Outbound.Proofs.Limiter.Slots

/-!
# Moves

Whatever a caller does to the slots is one of six moves. Two things that happen to slots can be
swapped: a caller that goes away before somebody else moves leaves the same slots as one that goes
away after that, as long as the other one can make its move either way.

## Main definitions

* `Slots.Move`, `Slots.Moves`: what a caller does to the slots
* `Slots.rename`: the slots with other names for the tickets

## Main results

* `Slots.Sound.moves`: every move keeps the slots sound
* `Slots.Moves.inFlight`, `Slots.Moves.out`: the slots that are taken, and the tickets that are out
* `Slots.Moves.leave_swap`: leaving the queue can be swapped with the move of somebody else
* `Slots.Moves.giveBack_swap`: giving back a slot can be swapped with any move
* `Slots.Moves.rename`: names of tickets do not matter
-/

namespace Outbound.Slots

variable {s s₁ s₂ : Slots} {t u : Ticket}

/-- **What a caller does to the slots.** -/
inductive Move
  /-- Nothing. -/
  | stay
  /-- It takes a free slot. -/
  | take
  /-- It gives back a slot. -/
  | back
  /-- It queues up. -/
  | enter
  /-- It picks up the slot that has been handed to it. -/
  | pick (ticket : Ticket)
  /-- It leaves the queue. -/
  | leave (ticket : Ticket)

/-- The move of a caller that never waits: one that is admitted has taken a slot. -/
def Move.ofGrant (granted : Bool) : Move := if granted then .take else .stay

/-- **A move leads from some slots to others.** -/
inductive Moves (s : Slots) : Move → Slots → Prop
  | stay : Moves s .stay s
  | take (free : s.free ≠ 0) : Moves s .take s.tryTake.2
  | back : Moves s .back s.giveBack.2
  | enter (full : s.free = 0) : Moves s .enter s.enter.2
  | pick {t : Ticket} (handed : t ∈ s.handed) : Moves s (.pick t) (s.pickUp t).2
  | leave (t : Ticket) : Moves s (.leave t) (s.leave t)

/-- **Every move keeps the slots sound.** -/
theorem Sound.moves {m : Move} (sound : s.Sound) (moves : s.Moves m s₁) : s₁.Sound := by
  cases moves with
  | stay => exact sound
  | take _ => exact sound.tryTake
  | back => exact sound.giveBack
  | enter full => exact sound.enter full
  | pick _ => exact sound.pickUp
  | leave _ => exact sound.leave

/-! ## Slots that are passed on -/

/-- The slots without a slot that has been handed over. -/
def unhand (t : Ticket) (s : Slots) : Slots := { s with handed := s.handed.erase t }

/-- The slots with so many that are taken. -/
def counting (n : Nat) (s : Slots) : Slots := { s with inFlight := n }

theorem leave_eq_passOn (h : t ∈ s.handed) : s.leave t = (s.unhand t).passOn := leave_of_mem h

theorem giveBack_eq_passOn (h : s.inFlight ≠ 0) :
    s.giveBack.2 = (s.counting (s.inFlight - 1)).passOn := by
  rw [giveBack_of_taken h]
  rfl

theorem pickUp_eq_unhand (h : t ∈ s.handed) :
    (s.pickUp t).2 = (s.unhand t).counting (s.inFlight + 1) := by
  rw [pickUp_of_mem h]
  rfl

/-- **A slot that is picked up and given back at once** goes to the next caller, as if the first one
had left the queue. -/
theorem giveBack_pickUp (h : t ∈ s.handed) : (s.pickUp t).2.giveBack.2 = s.leave t := by
  rw [pickUp_eq_unhand h, leave_eq_passOn h]
  exact giveBack_eq_passOn (Nat.succ_ne_zero _)

theorem handed_subset_passOn (s : Slots) : s.handed ⊆ s.passOn.handed := by
  rcases hq : s.queue with _ | ⟨q, rest⟩
  · rw [passOn_of_queue_nil hq]
    exact List.Subset.refl _
  · rw [passOn_of_queue_cons hq]
    exact List.subset_append_left _ _

theorem unhand_passOn (h : t ∈ s.handed) : s.passOn.unhand t = (s.unhand t).passOn := by
  rcases hq : s.queue with _ | ⟨q, rest⟩
  · have hq' : (s.unhand t).queue = [] := hq
    rw [passOn_of_queue_nil hq, passOn_of_queue_nil hq']
    rfl
  · have hq' : (s.unhand t).queue = q :: rest := hq
    rw [passOn_of_queue_cons hq, passOn_of_queue_cons hq']
    show ({ s with queue := rest, handed := (s.handed ++ [q]).erase t } : Slots) = _
    rw [List.erase_append_left _ h]
    rfl

theorem counting_passOn (n : Nat) (s : Slots) :
    s.passOn.counting n = (s.counting n).passOn := by
  obtain ⟨cap, free, inFlight, queue, handed, next⟩ := s
  cases queue <;> rfl

/-- A caller goes away before or after a slot is passed on. If the slot has reached the caller, it
goes on to the next one; otherwise it goes to the first of the queue, where the caller waits or has
no place at all. -/
theorem leave_passOn (s : Slots) (t : Ticket) : s.passOn.leave t = (s.leave t).passOn := by
  by_cases h : t ∈ s.handed
  · rw [leave_eq_passOn (handed_subset_passOn s h), unhand_passOn h, leave_eq_passOn h]
  · rw [leave_of_not_mem h]
    rcases hq : s.queue with _ | ⟨q, rest⟩
    · rw [passOn_of_queue_nil hq, passOn_of_queue_nil (s := { s with queue := [].erase t }) rfl]
      have alone : ({ s with free := s.free + 1 } : Slots).leave t =
          { s with free := s.free + 1, queue := s.queue.erase t } := leave_of_not_mem h
      rw [alone, hq]
    · rw [passOn_of_queue_cons hq]
      by_cases same : t = q
      · subst same
        have handed : t ∈ s.handed ++ [t] := List.mem_append_right _ List.mem_cons_self
        rw [List.erase_cons_head]
        refine (leave_of_mem handed).trans ?_
        show ({ s with queue := rest, handed := (s.handed ++ [t]).erase t } : Slots).passOn = _
        rw [List.erase_append_right _ h, List.erase_cons_head, List.append_nil]
      · have others : t ∉ s.handed ++ [q] := by
          intro hm
          rcases List.mem_append.mp hm with hm | hq
          · exact h hm
          · exact same (List.mem_singleton.mp hq)
        have later : (q :: rest).erase t = q :: rest.erase t := by
          refine List.erase_cons_tail ?_
          rw [beq_iff_eq]
          exact Ne.symm same
        rw [later]
        exact leave_of_not_mem others

theorem free_passOn_ne_zero (h : s.free ≠ 0) : s.passOn.free ≠ 0 := by
  unfold passOn
  split
  · exact Nat.succ_ne_zero _
  · exact h

@[simp] theorem inFlight_leave (s : Slots) (t : Ticket) : (s.leave t).inFlight = s.inFlight := by
  by_cases h : t ∈ s.handed
  · rw [leave_eq_passOn h, inFlight_passOn]
    rfl
  · rw [leave_of_not_mem h]

/-- A slot is taken before or after another one is passed on. -/
theorem tryTake_passOn (free : s.free ≠ 0) : s.passOn.tryTake.2 = s.tryTake.2.passOn := by
  rw [tryTake_of_free free, tryTake_of_free (free_passOn_ne_zero free)]
  obtain ⟨cap, free', inFlight, queue, handed, next⟩ := s
  cases queue with
  | nil =>
    have count : free' + 1 - 1 = free' - 1 + 1 := by
      have : free' ≠ 0 := free
      omega
    exact Slots.ext rfl count rfl rfl rfl rfl
  | cons q rest => rfl

/-- Somebody queues up before or after a slot is passed on, if it finds none either way. -/
theorem enter_passOn (full : s.passOn.free = 0) : s.passOn.enter.2 = s.enter.2.passOn := by
  rcases hq : s.queue with _ | ⟨q, rest⟩
  · rw [passOn_of_queue_nil hq] at full
    cases full
  · have hq' : s.enter.2.queue = q :: (rest ++ [s.nextTicket]) := by
      show s.queue ++ [s.nextTicket] = _
      rw [hq]
      rfl
    rw [passOn_of_queue_cons hq, passOn_of_queue_cons hq']
    rfl

@[simp] theorem nextTicket_tryTake (s : Slots) : s.tryTake.2.nextTicket = s.nextTicket := by
  unfold tryTake; split <;> rfl

@[simp] theorem nextTicket_giveBack (s : Slots) : s.giveBack.2.nextTicket = s.nextTicket := by
  unfold giveBack; split
  · rfl
  · exact nextTicket_passOn _

@[simp] theorem nextTicket_leave (s : Slots) (t : Ticket) :
    (s.leave t).nextTicket = s.nextTicket := by
  unfold leave; split
  · exact nextTicket_passOn _
  · rfl

@[simp] theorem nextTicket_pickUp (s : Slots) (t : Ticket) :
    (s.pickUp t).2.nextTicket = s.nextTicket := by
  unfold pickUp; split <;> rfl

/-! ## What a move changes -/

section Changes

variable {m : Move}

/-- The number of slots that are taken after a move, from the number before it. -/
def Move.inFlight : Move → Nat → Nat
  | .take, n => n + 1
  | .pick _, n => n + 1
  | .back, n => n - 1
  | _, n => n

theorem Moves.inFlight (moves : s.Moves m s₁) : s₁.inFlight = m.inFlight s.inFlight := by
  cases moves with
  | stay => rfl
  | take free => rw [tryTake_of_free free]; rfl
  | back => exact inFlight_giveBack s
  | enter _ => rfl
  | pick handed => rw [pickUp_eq_unhand handed]; rfl
  | leave t => exact inFlight_leave s t

/-- No move but that of giving back a slot lowers the number of those that are taken. -/
theorem Moves.inFlight_le (moves : s.Moves m s₁) (other : m ≠ .back) :
    s.inFlight ≤ s₁.inFlight := by
  rw [moves.inFlight]
  cases m with
  | back => exact absurd rfl other
  | take | pick => exact Nat.le_succ _
  | stay | enter | leave => exact Nat.le_refl _

theorem Moves.cap (moves : s.Moves m s₁) : s₁.cap = s.cap := by
  cases moves with
  | stay => rfl
  | take _ => exact cap_tryTake s
  | back => exact cap_giveBack s
  | enter _ => rfl
  | pick handed => rw [pickUp_eq_unhand handed]; rfl
  | leave t =>
    by_cases handed : t ∈ s.handed
    · rw [leave_eq_passOn handed, cap_passOn]
      rfl
    · rw [leave_of_not_mem handed]

/-- A slot that is passed on changes the place of a ticket and nothing else. -/
theorem mem_passOn : t ∈ s.passOn.queue ++ s.passOn.handed ↔ t ∈ s.queue ++ s.handed := by
  rcases hq : s.queue with _ | ⟨q, rest⟩
  · rw [passOn_of_queue_nil hq, hq]
  · rw [passOn_of_queue_cons hq]
    simp only [List.mem_append, List.mem_cons, List.not_mem_nil, or_false]
    tauto

/-- A ticket that is handed over leaves the tickets that are out. -/
theorem Sound.out_unhand {u : Ticket} (sound : s.Sound) (handed : u ∈ s.handed) :
    s.queue ++ s.handed.erase u = (s.queue ++ s.handed).erase u := by
  have unqueued : u ∉ s.queue := fun queued =>
    (List.nodup_append.mp sound.distinct).2.2 u queued u handed rfl
  rw [List.erase_append_right _ unqueued]

/-- **The tickets that are out after a move** were out before it, but for that of a caller that has
queued up. A caller that picks up its slot or leaves takes its ticket with it. -/
theorem Moves.out (moves : s.Moves m s₁) (sound : s.Sound) (out : t ∈ s₁.queue ++ s₁.handed) :
    (t ∈ s.queue ++ s.handed ∧ m ≠ .pick t ∧ m ≠ .leave t) ∨ m = .enter ∧ t = s.nextTicket := by
  have gone {u : Ticket} (left : t ∈ (s.queue ++ s.handed).erase u) :
      t ∈ s.queue ++ s.handed ∧ u ≠ t := by
    obtain ⟨other, before⟩ := (List.Nodup.mem_erase_iff sound.distinct).mp left
    exact ⟨before, Ne.symm other⟩
  cases moves with
  | stay => exact .inl ⟨out, nofun, nofun⟩
  | take free =>
    rw [tryTake_of_free free] at out
    exact .inl ⟨out, nofun, nofun⟩
  | back =>
    refine .inl ⟨?_, nofun, nofun⟩
    by_cases none : s.inFlight = 0
    · rwa [giveBack_of_none none] at out
    · rw [giveBack_eq_passOn none, mem_passOn] at out
      exact out
  | enter _ =>
    rcases List.mem_append.mp out with queued | handed
    · rcases List.mem_append.mp queued with queued | new
      · exact .inl ⟨List.mem_append_left _ queued, nofun, nofun⟩
      · exact .inr ⟨rfl, List.mem_singleton.mp new⟩
    · exact .inl ⟨List.mem_append_right _ handed, nofun, nofun⟩
  | @pick u handed =>
    rw [pickUp_eq_unhand handed] at out
    change t ∈ s.queue ++ s.handed.erase u at out
    rw [sound.out_unhand handed] at out
    obtain ⟨before, other⟩ := gone out
    exact .inl ⟨before, fun same => other (Move.pick.inj same), nofun⟩
  | leave u =>
    have left : t ∈ (s.queue ++ s.handed).erase u := by
      by_cases handed : u ∈ s.handed
      · rw [leave_eq_passOn handed, mem_passOn] at out
        change t ∈ s.queue ++ s.handed.erase u at out
        rwa [sound.out_unhand handed] at out
      · rw [leave_of_not_mem handed] at out
        change t ∈ s.queue.erase u ++ s.handed at out
        by_cases queued : u ∈ s.queue
        · rwa [List.erase_append_left _ queued]
        · rw [List.erase_append_right _ queued, List.erase_of_not_mem handed]
          rwa [List.erase_of_not_mem queued] at out
    obtain ⟨before, other⟩ := gone left
    exact .inl ⟨before, nofun, fun same => other (Move.leave.inj same)⟩

/-- Tickets that are out stay out. -/
theorem Moves.nextTicket_le (moves : s.Moves m s₁) : s.nextTicket ≤ s₁.nextTicket := by
  cases moves with
  | stay => exact Nat.le_refl _
  | take _ => exact Nat.le_of_eq (nextTicket_tryTake s).symm
  | back => exact Nat.le_of_eq (nextTicket_giveBack s).symm
  | enter _ => exact Nat.le_succ _
  | @pick t _ => exact Nat.le_of_eq (nextTicket_pickUp s t).symm
  | leave t => exact Nat.le_of_eq (nextTicket_leave s t).symm

/-- A move leads to one place only. -/
theorem Moves.unique (moves : s.Moves m s₁) (again : s.Moves m s₂) : s₁ = s₂ := by
  cases moves <;> cases again <;> rfl

end Changes

/-! ## Moves that are swapped -/

theorem leave_counting (n : Nat) (s : Slots) (t : Ticket) :
    (s.counting n).leave t = (s.leave t).counting n := by
  by_cases h : t ∈ s.handed
  · have h' : t ∈ (s.counting n).handed := h
    rw [leave_eq_passOn h, leave_eq_passOn h', counting_passOn]
    rfl
  · have h' : t ∉ (s.counting n).handed := h
    rw [leave_of_not_mem h, leave_of_not_mem h']
    rfl

theorem leave_unhand (handed : u ∈ s.handed) (other : t ≠ u) :
    (s.unhand u).leave t = (s.leave t).unhand u := by
  by_cases h : t ∈ s.handed
  · have h' : t ∈ (s.unhand u).handed := (List.mem_erase_of_ne other).mpr h
    have handed' : u ∈ (s.unhand t).handed := (List.mem_erase_of_ne other.symm).mpr handed
    rw [leave_eq_passOn h, leave_eq_passOn h', unhand_passOn handed']
    show ({ s with handed := (s.handed.erase u).erase t } : Slots).passOn =
      ({ s with handed := (s.handed.erase t).erase u } : Slots).passOn
    rw [List.erase_comm]
  · have h' : t ∉ (s.unhand u).handed := by
      intro hm
      exact h (List.mem_of_mem_erase hm)
    rw [leave_of_not_mem h, leave_of_not_mem h']
    rfl

/-- Two callers go away, one before or after the other. A caller with a slot passes it on, and that
can be swapped with whatever the other one does; two callers without one leave the queue in either
order. -/
theorem leave_leave (s : Slots) (t u : Ticket) : (s.leave t).leave u = (s.leave u).leave t := by
  by_cases same : t = u
  · rw [same]
  by_cases h : t ∈ s.handed
  · have h' : t ∈ (s.leave u).handed := by
      by_cases hu : u ∈ s.handed
      · rw [leave_eq_passOn hu]
        exact handed_subset_passOn _ ((List.mem_erase_of_ne same).mpr h)
      · rw [leave_of_not_mem hu]
        exact h
    rw [leave_eq_passOn h, leave_eq_passOn h', leave_passOn, leave_unhand h (Ne.symm same)]
  · by_cases hu : u ∈ s.handed
    · have hu' : u ∈ (s.leave t).handed := by
        rw [leave_of_not_mem h]
        exact hu
      rw [leave_eq_passOn hu, leave_eq_passOn hu', leave_passOn, leave_unhand hu same]
    · rw [leave_of_not_mem h, leave_of_not_mem hu]
      have h' : t ∉ ({ s with queue := s.queue.erase u } : Slots).handed := h
      have hu' : u ∉ ({ s with queue := s.queue.erase t } : Slots).handed := hu
      rw [leave_of_not_mem h', leave_of_not_mem hu']
      show ({ s with queue := (s.queue.erase t).erase u } : Slots) = _
      rw [List.erase_comm]

/-- A caller goes away before or after a slot is given back. -/
theorem leave_giveBack (s : Slots) (t : Ticket) : s.giveBack.2.leave t = (s.leave t).giveBack.2 := by
  by_cases none : s.inFlight = 0
  · have none' : (s.leave t).inFlight = 0 := (inFlight_leave s t).trans none
    rw [giveBack_of_none none, giveBack_of_none none']
  · have some' : (s.leave t).inFlight ≠ 0 := by
      rw [inFlight_leave]
      exact none
    rw [giveBack_eq_passOn none, giveBack_eq_passOn some', leave_passOn, leave_counting,
      inFlight_leave]

/-- **Leaving the queue can be swapped with the move of somebody else.** Whoever queues up finds no
free slot either way, so a slot that is passed on has gone to somebody who was there before. -/
theorem Moves.leave_swap {m : Move} (before : s.Moves m s₁) (after : (s.leave t).Moves m s₂)
    (other : m ≠ .pick t) (known : t < s.nextTicket) : s₁.leave t = s₂ := by
  cases before with
  | stay =>
    cases after with
    | stay => rfl
  | take free =>
    cases after with
    | take free' =>
      by_cases h : t ∈ s.handed
      · have h' : t ∈ s.tryTake.2.handed := by
          rw [tryTake_of_free free]
          exact h
        have free'' : (s.unhand t).free ≠ 0 := free
        rw [leave_eq_passOn h, leave_eq_passOn h', tryTake_passOn free'', tryTake_of_free free,
          tryTake_of_free free'']
        rfl
      · rw [leave_of_not_mem h] at free' ⊢
        rw [tryTake_of_free free, tryTake_of_free free']
        exact leave_of_not_mem h
  | back =>
    cases after with
    | back => exact leave_giveBack s t
  | enter full =>
    cases after with
    | enter full' =>
      by_cases h : t ∈ s.handed
      · have h' : t ∈ s.enter.2.handed := h
        rw [leave_eq_passOn h] at full' ⊢
        rw [leave_eq_passOn h', enter_passOn full']
        rfl
      · have h' : t ∉ s.enter.2.handed := h
        have later : t ≠ s.nextTicket := Nat.ne_of_lt known
        have last : (s.queue ++ [s.nextTicket]).erase t = s.queue.erase t ++ [s.nextTicket] := by
          by_cases hq : t ∈ s.queue
          · exact List.erase_append_left _ hq
          · rw [List.erase_append_right _ hq, List.erase_of_not_mem hq]
            refine congrArg (s.queue ++ ·) (List.erase_of_not_mem ?_)
            intro hm
            exact later (List.mem_singleton.mp hm)
        rw [leave_of_not_mem h, leave_of_not_mem h']
        show ({ s with queue := (s.queue ++ [s.nextTicket]).erase t,
                       nextTicket := s.nextTicket + 1 } : Slots) = _
        rw [last]
        rfl
  | @pick u handed =>
    cases after with
    | pick handed' =>
      have ne : t ≠ u := by
        rintro rfl
        exact other rfl
      rw [pickUp_eq_unhand handed, pickUp_eq_unhand handed', leave_counting, leave_unhand handed ne,
        inFlight_leave]
  | leave u =>
    cases after with
    | leave _ => exact leave_leave s u t

/-- **Giving back a slot can be swapped with any move.** -/
theorem Moves.giveBack_swap {m : Move} (before : s.Moves m s₁) (after : s.giveBack.2.Moves m s₂)
    (some : s.inFlight ≠ 0) : s₁.giveBack.2 = s₂ := by
  have less : s.inFlight - 1 + 1 = s.inFlight + 1 - 1 := by omega
  cases before with
  | stay =>
    cases after with
    | stay => rfl
  | take free =>
    cases after with
    | take _ =>
      have free' : (s.counting (s.inFlight - 1)).free ≠ 0 := free
      have some' : s.tryTake.2.inFlight ≠ 0 := by
        rw [tryTake_of_free free]
        exact Nat.succ_ne_zero _
      rw [giveBack_eq_passOn some, giveBack_eq_passOn some', tryTake_passOn free',
        tryTake_of_free free, tryTake_of_free free']
      show ({ s with free := s.free - 1, inFlight := s.inFlight + 1 - 1 } : Slots).passOn =
        ({ s with free := s.free - 1, inFlight := s.inFlight - 1 + 1 } : Slots).passOn
      rw [less]
  | back =>
    cases after with
    | back => rfl
  | enter full =>
    cases after with
    | enter full' =>
      have some' : s.enter.2.inFlight ≠ 0 := some
      rw [giveBack_eq_passOn some] at full' ⊢
      rw [giveBack_eq_passOn some', enter_passOn full']
      rfl
  | @pick u handed =>
    cases after with
    | pick handed' =>
      have some' : (s.pickUp u).2.inFlight ≠ 0 := by
        rw [pickUp_eq_unhand handed]
        exact Nat.succ_ne_zero _
      have handed'' : u ∈ (s.counting (s.inFlight - 1)).handed := handed
      rw [giveBack_eq_passOn some', pickUp_eq_unhand handed', pickUp_eq_unhand handed,
        giveBack_eq_passOn some, unhand_passOn handed'', counting_passOn, inFlight_passOn]
      show ((s.unhand u).counting (s.inFlight + 1 - 1)).passOn =
        ((s.unhand u).counting (s.inFlight - 1 + 1)).passOn
      rw [less]
  | leave u =>
    cases after with
    | leave _ => exact (leave_giveBack s u).symm

/-! ## Names of tickets -/

/-- **The slots with other names for the tickets.** -/
def rename (f : Ticket → Ticket) (s : Slots) : Slots :=
  { s with queue := s.queue.map f, handed := s.handed.map f, nextTicket := f s.nextTicket }

/-- The move with another name for its ticket. -/
def Move.rename (f : Ticket → Ticket) : Move → Move
  | .pick t => .pick (f t)
  | .leave t => .leave (f t)
  | m => m

theorem rename_id (s : Slots) : s.rename id = s := by
  rw [rename, List.map_id, List.map_id]
  rfl

section Rename

variable {f : Ticket → Ticket}

theorem passOn_rename (f : Ticket → Ticket) (s : Slots) :
    (s.rename f).passOn = s.passOn.rename f := by
  obtain ⟨cap, free, inFlight, queue, handed, next⟩ := s
  cases queue with
  | nil => rfl
  | cons q rest =>
    have last : handed.map f ++ [f q] = (handed ++ [q]).map f := by
      rw [List.map_append]
      rfl
    exact Slots.ext rfl rfl rfl rfl last rfl

theorem giveBack_rename (f : Ticket → Ticket) (s : Slots) :
    (s.rename f).giveBack.2 = s.giveBack.2.rename f := by
  by_cases none : s.inFlight = 0
  · have none' : (s.rename f).inFlight = 0 := none
    rw [giveBack_of_none none, giveBack_of_none none']
  · have some' : (s.rename f).inFlight ≠ 0 := none
    rw [giveBack_eq_passOn none, giveBack_eq_passOn some', ← passOn_rename]
    rfl

theorem unhand_rename (injective : Function.Injective f) (s : Slots) (t : Ticket) :
    (s.rename f).unhand (f t) = (s.unhand t).rename f := by
  show ({ s.rename f with handed := (s.handed.map f).erase (f t) } : Slots) = _
  rw [← List.map_erase injective]
  rfl

theorem leave_rename (injective : Function.Injective f) (s : Slots) (t : Ticket) :
    (s.rename f).leave (f t) = (s.leave t).rename f := by
  by_cases h : t ∈ s.handed
  · have h' : f t ∈ (s.rename f).handed := (List.mem_map_of_injective injective).mpr h
    rw [leave_eq_passOn h, leave_eq_passOn h', unhand_rename injective, passOn_rename]
  · have h' : f t ∉ (s.rename f).handed := by
      intro hm
      exact h ((List.mem_map_of_injective injective).mp hm)
    rw [leave_of_not_mem h, leave_of_not_mem h']
    show ({ s.rename f with queue := (s.queue.map f).erase (f t) } : Slots) = _
    rw [← List.map_erase injective]
    rfl

/-- **Names of tickets do not matter,** as long as they tell the tickets apart and the next ones
follow each other. -/
theorem Moves.rename {m : Move} (injective : Function.Injective f)
    (next : f (s.nextTicket + 1) = f s.nextTicket + 1) (moves : s.Moves m s₁) :
    (s.rename f).Moves (m.rename f) (s₁.rename f) := by
  cases moves with
  | stay => exact .stay
  | take free =>
    have free' : (s.rename f).free ≠ 0 := free
    have taken : (s.rename f).tryTake.2 = s.tryTake.2.rename f := by
      rw [tryTake_of_free free, tryTake_of_free free']
      rfl
    rw [← taken]
    exact .take free'
  | back =>
    rw [← giveBack_rename]
    exact .back
  | enter full =>
    have last : s.queue.map f ++ [f s.nextTicket] = (s.queue ++ [s.nextTicket]).map f := by
      rw [List.map_append]
      rfl
    have entered : (s.rename f).enter.2 = s.enter.2.rename f :=
      Slots.ext rfl rfl rfl last rfl next.symm
    rw [← entered]
    exact .enter full
  | @pick t handed =>
    have handed' : f t ∈ (s.rename f).handed := (List.mem_map_of_injective injective).mpr handed
    have picked : ((s.rename f).pickUp (f t)).2 = (s.pickUp t).2.rename f := by
      rw [pickUp_eq_unhand handed, pickUp_eq_unhand handed', unhand_rename injective]
      rfl
    rw [← picked]
    exact .pick handed'
  | leave t =>
    rw [← leave_rename injective]
    exact .leave _

end Rename

end Outbound.Slots
