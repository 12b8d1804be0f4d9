import Outbound.Proofs.Limiter.Crowd

/-!
# Callers that are given up

An asynchronous caller may be given up while it waits. One that waits for a slot leaves the queue,
and if a slot has been handed to it by then, the slot is passed on: slots are left as if it had
never called. One that waits for the rate has a slot, and nothing gives that slot back.

A run is compared with the same run without that caller, where everybody else is answered the same.
The slots of the two runs differ by what the caller would undo if it left, and the moves of the
others keep it so.

## Main definitions

* `Slots.Without`: two states of the slots that differ by one caller
* `Crowd.Bereft`: two crowds that differ by one caller
* `Crowd.others`: what happened to all but one caller
* `Crowd.Covered`: whoever waits for the rate has a slot

## Main results

* `Slots.Without.moves`: the moves of the others keep the difference
* `Crowd.Bereft.run`: a run and the run without a caller go on differing by that caller
* `Crowd.drop_restores_iff`: a caller that is given up is as if it had never called, unless it waits
  for the rate
-/

namespace Outbound

/-- Whether a caller waits for the rate. -/
def Acquiring.isAsleep : Acquiring → Bool
  | .sleeping _ => true
  | _ => false

namespace Slots

variable {s s' s₁ s₁' : Slots} {paid : Prop} {stage : Acquiring}

/-- **Two states of the slots that differ by one caller:** the second one has it undone. A slot that
a sleeping caller had may be gone before, if somebody gave back one that was not theirs. -/
inductive Without (paid : Prop) : Acquiring → Slots → Slots → Prop
  | fresh (s : Slots) : Without paid .fresh s s
  | queued {t : Ticket} {s : Slots} (known : t < s.nextTicket) :
    Without paid (.queued t) s (s.leave t)
  | sleeping (mark : Nat) {s : Slots} (taken : s.inFlight ≠ 0) :
    Without paid (.sleeping mark) s s.giveBack.2
  | robbed (mark : Nat) (s : Slots) (unpaid : ¬ paid) : Without paid (.sleeping mark) s s

/-- **The moves of the others keep the difference,** unless one gives back a slot that only the
caller has. A caller that has not been asked has done nothing that could be swapped. What one that
waits would undo is to leave the queue, and a slot that it has been handed goes on to the next one
in both runs. -/
theorem Without.moves {m : Move} (without : Without paid stage s s') (here : s.Moves m s₁)
    (there : s'.Moves m s₁') (other : ∀ t, stage = .queued t → m ≠ .pick t)
    (fair : paid → m = .back → s.inFlight ≠ 0 → s'.inFlight ≠ 0) : Without paid stage s₁ s₁' := by
  cases without with
  | fresh =>
    obtain rfl := here.unique there
    exact .fresh _
  | @queued t _ known =>
    obtain rfl := here.leave_swap there (other t rfl) known
    exact .queued (Nat.lt_of_lt_of_le known here.nextTicket_le)
  | sleeping mark taken =>
    obtain rfl := here.giveBack_swap there taken
    by_cases none : s₁.inFlight = 0
    · have back : m = .back := by
        by_contra other
        have := here.inFlight_le other
        omega
      subst back
      cases here with
      | back =>
        rw [giveBack_of_none none]
        refine .robbed mark _ ?_
        intro hp
        exact fair hp rfl taken none
    · exact .sleeping mark none
  | robbed mark _ unpaid =>
    obtain rfl := here.unique there
    exact .robbed mark _ unpaid

/-- **A caller that begins to wait for the rate,** or goes on with it, has a slot from then on. -/
theorem Without.sleeps (without : Without paid stage s s') (sound : s.Sound)
    (moves : s.Moves (stage.move .waitsForRate) s₁) (mark : Nat) :
    Without paid (.sleeping mark) s₁ s' := by
  cases without with
  | fresh =>
    cases moves with
    | take free =>
      have taken : s.tryTake.2.inFlight ≠ 0 := by
        rw [tryTake_of_free free]
        exact Nat.succ_ne_zero _
      have back := congrArg Prod.snd (sound.giveBack_tryTake (by rw [tryTake_of_free free]))
      have asleep : Without paid (.sleeping mark) s.tryTake.2 s.tryTake.2.giveBack.2 :=
        .sleeping mark taken
      rw [back] at asleep
      exact asleep
  | queued known =>
    cases moves with
    | pick handed =>
      rw [← giveBack_pickUp handed]
      refine .sleeping mark ?_
      rw [pickUp_eq_unhand handed]
      exact Nat.succ_ne_zero _
  | sleeping _ taken =>
    cases moves with
    | stay => exact .sleeping mark taken
  | robbed _ _ unpaid =>
    cases moves with
    | stay => exact .robbed mark _ unpaid

/-- The tickets that are out are as many with the caller as without. -/
theorem Without.nextTicket_eq (without : Without paid stage s s') :
    s.nextTicket = s'.nextTicket := by
  cases without with
  | fresh => rfl
  | @queued t _ _ => exact (nextTicket_leave s t).symm
  | sleeping => exact (nextTicket_giveBack s).symm
  | robbed => rfl

end Slots

/-! ## Tickets with a gap -/

/-- The tickets without one of them. -/
def skip : Option Nat → Nat → Nat
  | none, n => n
  | some t, n => if n < t then n else n + 1

theorem skip_injective (gap : Option Nat) : Function.Injective (skip gap) := by
  intro m n same
  cases gap with
  | none => exact same
  | some t =>
    simp only [skip] at same
    split at same <;> split at same <;> omega

theorem skip_succ {gap : Option Nat} {n : Nat} (out : ∀ t, gap = some t → t ≤ n) :
    skip gap (n + 1) = skip gap n + 1 := by
  cases gap with
  | none => rfl
  | some t =>
    have := out t rfl
    rw [skip, skip, if_neg (by omega), if_neg (by omega)]

theorem skip_ne (t n : Nat) : skip (some t) n ≠ t := by
  rw [skip]
  split <;> omega

theorem skip_of_lt {t n : Nat} (h : n < t) : skip (some t) n = n := if_pos h

theorem rename_skip_none (s : Slots) : s.rename (skip none) = s := Slots.rename_id s

/-- **Who queues up and leaves again** takes a ticket with it, and that is all. The tickets that are
out lie before the gap, so they keep their names. -/
theorem Slots.Sound.leave_enter {s : Slots} (sound : s.Sound) :
    s.enter.2.leave s.nextTicket = s.rename (skip (some s.nextTicket)) := by
  have fresh : s.nextTicket ∉ s.queue ++ s.handed := by
    intro hm
    exact Nat.lt_irrefl _ (sound.known _ hm)
  have unqueued : s.nextTicket ∉ s.queue := by
    intro hm
    exact fresh (List.mem_append_left _ hm)
  have unhanded : s.nextTicket ∉ s.enter.2.handed := by
    intro hm
    exact fresh (List.mem_append_right _ hm)
  have same : ∀ l : List Ticket, (∀ u ∈ l, u ∈ s.queue ++ s.handed) →
      l.map (skip (some s.nextTicket)) = l := by
    intro l out
    conv_rhs => rw [← List.map_id l]
    refine List.map_congr_left ?_
    intro u hu
    exact skip_of_lt (sound.known u (out u hu))
  have queue : (s.queue ++ [s.nextTicket]).erase s.nextTicket = s.queue := by
    rw [List.erase_append_right _ unqueued, List.erase_cons_head, List.append_nil]
  have next : skip (some s.nextTicket) s.nextTicket = s.nextTicket + 1 := if_neg (Nat.lt_irrefl _)
  rw [Slots.leave_of_not_mem unhanded, Slots.rename, next,
    same s.queue fun u => List.mem_append_left _, same s.handed fun u => List.mem_append_right _]
  exact Slots.ext rfl rfl rfl queue rfl rfl

namespace Acquiring

/-- **Two callers stand alike** when they wait for the same thing; their tickets go by other
names. -/
inductive Like (f : Ticket → Ticket) : Acquiring → Acquiring → Prop
  | fresh : Like f .fresh .fresh
  | queued (t : Ticket) : Like f (.queued (f t)) (.queued t)
  | sleeping (mark mark' : Nat) : Like f (.sleeping mark) (.sleeping mark')

variable {f : Ticket → Ticket} {stage stage' after after' : Acquiring} {r : Notice} {next : Ticket}

theorem Like.refl (stage : Acquiring) : Like (skip none) stage stage := by
  cases stage with
  | fresh => exact .fresh
  | queued t => exact .queued t
  | sleeping mark => exact .sleeping mark mark

/-- A gap that begins with the next ticket changes nothing. -/
theorem Like.skip {n : Ticket} (alike : Like (skip none) stage stage')
    (known : ∀ t, stage' = .queued t → t < n) : Like (Outbound.skip (some n)) stage stage' := by
  cases alike with
  | fresh => exact .fresh
  | queued t =>
    have same := Like.queued (f := Outbound.skip (some n)) t
    rw [skip_of_lt (known t rfl)] at same
    exact same
  | sleeping mark mark' => exact .sleeping mark mark'

theorem Like.move (alike : Like f stage stage') (r : Notice) :
    stage.move r = (stage'.move r).rename f := by
  cases alike with
  | fresh => rcases r with (_ | _ | _) | _ | _ | _ | _ <;> rfl
  | queued t => rcases r with (_ | _ | _) | _ | _ | _ | _ <;> rfl
  | sleeping mark mark' => rcases r with (_ | _ | _) | _ | _ | _ | _ <;> rfl

theorem Like.leaving (alike : Like f stage stage') :
    stage.leaving = (stage'.leaving).rename f := by
  cases alike <;> rfl

/-- Callers that stand alike and are answered the same stand alike again. -/
theorem Like.becomes (alike : Like f stage stage') (here : stage.Becomes (f next) r after)
    (there : stage'.Becomes next r after') : Like f after after' := by
  cases here with
  | through =>
    cases there
    exact .fresh
  | enters =>
    cases there with
    | enters => exact .queued next
    | stays => cases alike
  | stays =>
    cases there with
    | enters => cases alike
    | stays => exact alike
  | sleeps =>
    cases there
    exact .sleeping _ _

/-- Only a caller that waits for the rate gives back a slot when it is answered. -/
theorem isAsleep_of_move (h : stage.move r = .back) : stage.isAsleep = true := by
  cases stage with
  | fresh => rcases r with (_ | _ | _) | _ | _ | _ | _ <;> cases h
  | queued t => rcases r with (_ | _ | _) | _ | _ | _ | _ <;> cases h
  | sleeping mark => rfl

end Acquiring

/-! ## Events in both runs -/

namespace Event

variable {next : Ticket} {before before' after after' : Acquiring} {e : Event} {r : Notice}
  {f : Ticket → Ticket}

/-- Callers that stand alike do so after an event of theirs. -/
theorem Puts.like (here : e.Puts (f next) before after r) (there : e.Puts next before' after' r)
    (alike : Acquiring.Like f before before') : Acquiring.Like f after after' := by
  cases e with
  | poll name cancel => exact alike.becomes here there
  | drop | tryAcquire | acquire | release | sweep | shutdown | tick | scene =>
    obtain rfl : after = .fresh := here
    obtain rfl : after' = .fresh := there
    exact .fresh

/-- The event of a caller that stands alike makes the same move. -/
theorem move_like {c other : Crowd} (r : Notice)
    (alike : ∀ name, e.isOf name = true → (c.callers name).Like f (other.callers name)) :
    e.move c r = (e.move other r).rename f := by
  cases e with
  | poll name cancel => exact (alike name (beq_self_eq_true name)).move r
  | drop name => exact (alike name (beq_self_eq_true name)).leaving
  | tryAcquire => exact Acquiring.Like.fresh.move r
  | acquire cancel => exact Acquiring.Like.fresh.move r
  | release | sweep | shutdown | tick | scene => rfl

end Event

namespace Crowd

variable {k : Clockwork} {c c₁ other other₁ : Crowd} {e : Event} {r : Notice} {t : Trace}
  {s s' : Slots} {who : String} {gap : Option Nat} {paid : Prop}

/-- **Whoever waits for the rate has a slot,** for nobody gave it back in their stead. -/
def Covered (c : Crowd) : Prop := ∀ name, (c.callers name).isAsleep = true → 0 < c.inFlight

/-- What happened to all but one caller. -/
def others (who : String) (t : Trace) : Trace := t.filter fun x => !x.1.isOf who

/-- At every moment of a run. -/
def Throughout (k : Clockwork) (P : Crowd → Prop) (c : Crowd) (t : Trace) : Prop :=
  ∀ before after m, t = before ++ after → Run k c before m → P m

/-- **Two crowds that differ by one caller.** The tickets of the first one have a gap where the
caller queued up. -/
structure Bereft (paid : Prop) (who : String) (gap : Option Nat) (c other : Crowd) (s s' : Slots) :
    Prop where
  /-- The first crowd stands. -/
  here : c.Stands s
  /-- The second one does. -/
  there : other.Stands s'
  /-- Their slots differ by the caller. -/
  without : Slots.Without paid (c.callers who) s (s'.rename (skip gap))
  /-- All others stand alike. -/
  alike : ∀ name, name ≠ who → (c.callers name).Like (skip gap) (other.callers name)
  /-- There is no gap before the caller is asked. -/
  unnamed : c.callers who = .fresh → gap = none
  /-- The gap is the ticket of the caller. -/
  named : ∀ t, c.callers who = .queued t → gap = some t
  /-- The gap is among the tickets that are out. -/
  out : ∀ t, gap = some t → t ≤ s'.nextTicket

namespace Bereft

/-- Nobody else picks up the slot of the caller. -/
theorem rename_ne_pick (m : Slots.Move) (t : Ticket) : m.rename (skip (some t)) ≠ .pick t := by
  intro picks
  cases m with
  | pick u => exact skip_ne t u (Slots.Move.pick.inj picks)
  | stay | take | back | enter | leave => cases picks

/-- A slot that is given back in both runs is found in both, unless a sleeping caller has none. -/
theorem fair (bereft : Bereft paid who gap c other s s') (not : e.isOf who = false)
    (here : c.step k e = .ok (r, c₁)) (there : other.step k e = .ok (r, other₁))
    (covered : other.Covered) (back : e.move c r = .back) (taken : s.inFlight ≠ 0) :
    s'.inFlight ≠ 0 := by
  cases e with
  | poll name cancel =>
    have asleep : (c.callers name).isAsleep = true := Acquiring.isAsleep_of_move back
    have alike := bereft.alike name (ne_of_beq_false not)
    have asleep' : (other.callers name).isAsleep = true := by
      generalize c.callers name = x at alike asleep
      generalize other.callers name = y at alike
      cases alike with
      | sleeping => rfl
      | fresh | queued => cases asleep
    have some' := covered name asleep'
    rw [inFlight, Limiter.inFlight, bereft.there.slots] at some'
    exact Nat.ne_of_gt some'
  | drop name =>
    change (c.callers name).leaving = .back at back
    cases h : c.callers name with
    | fresh | queued | sleeping =>
      rw [h] at back
      cases back
  | release =>
    obtain ⟨rfl, -⟩ := Prod.mk.inj (Except.ok.inj here)
    obtain ⟨same, -⟩ := Prod.mk.inj (Except.ok.inj there)
    have found : (Gate.release other.gate).1 = (Gate.release c.gate).1 := Notice.gaveBack.inj same
    rw [Gate.release_of_some _ bereft.here.slots, Gate.release_of_some _ bereft.there.slots,
      Slots.giveBack_of_taken taken] at found
    intro none
    rw [Slots.giveBack_of_none none] at found
    cases found
  | tryAcquire | acquire =>
    have asleep : Acquiring.fresh.isAsleep = true := Acquiring.isAsleep_of_move back
    cases asleep
  | sweep | shutdown | tick | scene => cases back

/-- **An event of somebody else** keeps the difference. Who stands alike and is answered the same
makes the same move, up to the name of the ticket. The ticket of the caller is the gap, so nobody
else can have it. -/
theorem step_other (bereft : Bereft paid who gap c other s s') (not : e.isOf who = false)
    (here : c.step k e = .ok (r, c₁)) (there : other.step k e = .ok (r, other₁))
    (covered : paid → other.Covered) : ∃ s₁ s₁', Bereft paid who gap c₁ other₁ s₁ s₁' := by
  obtain ⟨s₁, stands, moves, puts⟩ := bereft.here.step here
  obtain ⟨s₁', stands', moves', puts'⟩ := bereft.there.step there
  have same : c₁.callers who = c.callers who := callers_step here not
  have next : s.nextTicket = skip gap s'.nextTicket := bereft.without.nextTicket_eq
  have mirrored : e.move c r = (e.move other r).rename (skip gap) :=
    Event.move_like r fun name own => bereft.alike name (by
      rintro rfl
      rw [not] at own
      cases own)
  refine ⟨s₁, s₁', stands, stands', ?_, ?_, ?_, ?_, ?_⟩
  · rw [same]
    have renamed := moves'.rename (skip_injective gap) (skip_succ bereft.out)
    rw [← mirrored] at renamed
    refine bereft.without.moves moves renamed ?_ ?_
    · intro t queued picks
      obtain rfl := bereft.named t queued
      rw [mirrored] at picks
      exact rename_ne_pick _ t picks
    · intro hp back taken
      exact bereft.fair not here there (covered hp) back taken
  · intro name ne
    cases own : e.isOf name
    · rw [callers_step here own, callers_step there own]
      exact bereft.alike name ne
    · exact Event.Puts.like (next ▸ puts name own) (puts' name own) (bereft.alike name ne)
  · rw [same]
    exact bereft.unnamed
  · rw [same]
    exact bereft.named
  · intro t known
    exact Nat.le_trans (bereft.out t known) moves'.nextTicket_le

/-- **An event of the caller,** which goes on waiting, keeps the difference: it goes on waiting for
the slot, queues up for it, or gets it and waits for the rate. -/
theorem step_own (bereft : Bereft paid who gap c other s s') (own : e.isOf who = true)
    (here : c.step k e = .ok (r, c₁)) (waits : r.isWaiting = true) :
    ∃ gap₁ s₁, Bereft paid who gap₁ c₁ other s₁ s' := by
  obtain ⟨s₁, stands, moves, puts⟩ := bereft.here.step here
  have put := puts who own
  have same : ∀ name, name ≠ who → c₁.callers name = c.callers name := by
    intro name ne
    apply callers_step here
    cases e with
    | poll caller cancel =>
      obtain rfl : caller = who := eq_of_beq own
      exact beq_false_of_ne (Ne.symm ne)
    | drop caller =>
      obtain rfl : caller = who := eq_of_beq own
      exact beq_false_of_ne (Ne.symm ne)
    | tryAcquire | acquire | release | sweep | shutdown | tick | scene => rfl
  cases e with
  | drop caller =>
    obtain ⟨rfl, -⟩ := Prod.mk.inj (Except.ok.inj here)
    cases waits
  | tryAcquire | acquire | release | sweep | shutdown | tick | scene => cases own
  | poll caller cancel =>
    obtain rfl : caller = who := eq_of_beq own
    change s.Moves ((c.callers caller).move r) s₁ at moves
    change (c.callers caller).Becomes s.nextTicket r (c₁.callers caller) at put
    have alike : ∀ name, name ≠ caller →
        (c₁.callers name).Like (skip gap) (other.callers name) := by
      intro name ne
      rw [same name ne]
      exact bereft.alike name ne
    have without := bereft.without
    have unnamed := bereft.unnamed
    have named := bereft.named
    generalize c.callers caller = before at moves put without unnamed named
    generalize hafter : c₁.callers caller = after at put
    cases put with
    | through => cases waits
    | enters =>
      obtain rfl := unnamed rfl
      rw [rename_skip_none] at without
      cases without with
      | fresh =>
        cases moves with
        | enter full =>
          refine ⟨some s.nextTicket, _, stands, bereft.there, ?_, ?_, ?_, ?_, ?_⟩
          · rw [hafter, ← bereft.there.sound.leave_enter]
            exact .queued (Nat.lt_succ_self _)
          · intro name ne
            exact (alike name ne).skip (bereft.there.known name)
          · rw [hafter]
            rintro ⟨⟩
          · rw [hafter]
            rintro t ⟨⟩
            rfl
          · rintro t ⟨⟩
            exact Nat.le_refl _
    | stays t =>
      cases moves with
      | stay => exact ⟨gap, s, stands, bereft.there, hafter ▸ without, alike, hafter ▸ unnamed,
          hafter ▸ named, bereft.out⟩
    | sleeps stage mark =>
      refine ⟨gap, s₁, stands, bereft.there, ?_, alike, ?_, ?_, bereft.out⟩
      · rw [hafter]
        exact without.sleeps bereft.here.sound moves mark
      · rw [hafter]
        rintro ⟨⟩
      · rw [hafter]
        rintro t ⟨⟩

/-- **A run, and the run without the caller,** go on differing by the caller while it waits. An
event of the caller is a step of one run only, and any other event a step of both. -/
theorem run (bereft : Bereft paid who gap c other s s') (ran : Run k c t c₁)
    (waits : ∀ x ∈ t, x.1.isOf who = true → x.2.isWaiting = true)
    (without : Run k other (others who t) other₁)
    (covered : paid → Throughout k Covered other (others who t)) :
    ∃ gap₁ s₁ s₁', Bereft paid who gap₁ c₁ other₁ s₁ s₁' := by
  induction ran generalizing other gap s s' with
  | nil =>
    cases without
    exact ⟨gap, s, s', bereft⟩
  | @cons c c₁ c₂ e r t first rest ih =>
    have later : ∀ x ∈ t, x.1.isOf who = true → x.2.isWaiting = true := by
      intro x hx
      exact waits x (List.mem_cons_of_mem _ hx)
    cases own : e.isOf who
    · have kept : others who ((e, r) :: t) = (e, r) :: others who t :=
        List.filter_cons_of_pos (by simp only [own, Bool.not_false])
      rw [kept] at without covered
      cases without with
      | cons first' rest' =>
        have now : paid → other.Covered := fun hp => covered hp [] _ _ rfl (.nil _)
        obtain ⟨s₁, s₁', bereft₁⟩ := bereft.step_other own first first' now
        refine ih bereft₁ later rest' ?_
        intro hp before after m split ran
        exact covered hp (_ :: before) after m (by rw [split]; rfl) (.cons first' ran)
    · have left : others who ((e, r) :: t) = others who t :=
        List.filter_cons_of_neg (by simp only [own, Bool.not_true]; exact Bool.false_ne_true)
      rw [left] at without covered
      obtain ⟨gap₁, s₁, bereft₁⟩ :=
        bereft.step_own own first (waits _ List.mem_cons_self own)
      exact ih bereft₁ later without covered

/-- A crowd is as it is without a caller that has not been asked. -/
theorem refl (stands : c.Stands s) (fresh : c.callers who = .fresh) :
    Bereft paid who none c c s s where
  here := stands
  there := stands
  without := by
    rw [fresh, rename_skip_none]
    exact .fresh s
  alike name _ := .refl _
  unnamed _ := rfl
  named t queued := nomatch fresh.symm.trans queued
  out _ h := nomatch h

theorem counts_of_slots {c : Crowd} {s : Slots} (slots : c.gate.limiter.slots = some s) :
    c.inFlight = s.inFlight ∧ c.available = some s.free := by
  rw [inFlight, available, Limiter.inFlight, Limiter.available, slots]
  exact ⟨rfl, rfl⟩

/-- **A caller that is given up while it waits for a slot** is as if it had never called. -/
theorem restored (bereft : Bereft paid who gap c other s s')
    (awake : (c.callers who).isAsleep = false) :
    (c.drop who).inFlight = other.inFlight ∧ (c.drop who).available = other.available := by
  obtain ⟨s₁, slots, moves⟩ := slots_drop bereft.here.slots who
  have undone : s₁ = s'.rename (skip gap) := by
    have without := bereft.without
    generalize c.callers who = stage at awake moves without
    generalize s'.rename (skip gap) = u at without
    cases without with
    | fresh =>
      cases moves with
      | stay => rfl
    | queued =>
      cases moves with
      | leave => rfl
    | sleeping | robbed => cases awake
  obtain ⟨here, free⟩ := counts_of_slots slots
  obtain ⟨there, free'⟩ := counts_of_slots bereft.there.slots
  rw [here, free, there, free', undone]
  exact ⟨rfl, rfl⟩

/-- **A caller that is given up while it waits for the rate** leaves a slot that nobody has. -/
theorem lost (bereft : Bereft paid who gap c other s s') (hp : paid)
    (asleep : (c.callers who).isAsleep = true) : (c.drop who).inFlight = other.inFlight + 1 := by
  obtain ⟨s₁, slots, moves⟩ := slots_drop bereft.here.slots who
  have left : s₁.inFlight = s'.inFlight + 1 := by
    have without := bereft.without
    have same : (s'.rename (skip gap)).inFlight = s'.inFlight := rfl
    generalize c.callers who = stage at asleep moves without
    generalize s'.rename (skip gap) = u at without same
    cases without with
    | fresh | queued => cases asleep
    | robbed _ _ unpaid => exact absurd hp unpaid
    | sleeping _ taken =>
      cases moves with
      | stay =>
        rw [Slots.inFlight_giveBack] at same
        omega
  obtain ⟨here, -⟩ := counts_of_slots slots
  obtain ⟨there, -⟩ := counts_of_slots bereft.there.slots
  rw [here, there, left]

end Bereft

/-- **A caller that is given up is as if it had never called, unless it waits for the rate.** From
any crowd that a limiter with a cap can get to, a caller asks for admission, waits, and is given up,
while anything happens beside it. If everybody else is answered as they would have been without that
caller, then the slots are what they would have been, for a caller that waits for a slot; a caller
that waits for the rate takes its slot with it for good. -/
theorem drop_restores_iff (k : Clockwork) {config : LimiterConfig} {now : Nat} {l : Limiter}
    (built : Limiter.build config now = .ok l) {cap : Nat}
    (capped : config.maxConcurrency = some cap) (scene : Scene) (telemetry : Telemetry)
    {before during : Trace} (reached : Run k (.ofGate ⟨l, scene, telemetry⟩) before c)
    (fresh : c.callers who = .fresh) (called : Run k c during c₁)
    (waits : ∀ x ∈ during, x.1.isOf who = true → x.2.isWaiting = true)
    (without : Run k c (others who during) other) :
    ((c₁.callers who).isAsleep = false →
      (c₁.drop who).inFlight = other.inFlight ∧ (c₁.drop who).available = other.available) ∧
    (Throughout k Covered c (others who during) →
      ((c₁.callers who).isAsleep = true → (c₁.drop who).inFlight = other.inFlight + 1) ∧
      ((c₁.drop who).inFlight = other.inFlight ∧ (c₁.drop who).available = other.available ↔
        (c₁.callers who).isAsleep = false)) := by
  have slots : l.slots = some (.ofCap cap) := by
    rw [Limiter.eq_ofConfig_of_build built, Limiter.slots_ofConfig, capped]
    rfl
  obtain ⟨s, stands⟩ := (Stands.ofGate (g := ⟨l, scene, telemetry⟩) slots).run reached
  have start : Bereft (Throughout k Covered c (others who during)) who none c c s s :=
    .refl stands fresh
  obtain ⟨gap, s₁, s₁', bereft⟩ := start.run called waits without fun covered => covered
  refine ⟨bereft.restored, ?_⟩
  intro covered
  refine ⟨bereft.lost covered, ?_, bereft.restored⟩
  intro same
  cases asleep : (c₁.callers who).isAsleep
  · rfl
  · have more := bereft.lost covered asleep
    omega

/-- A limiter with one slot that admits one caller a second and makes the others wait. -/
def oneASecond : LimiterConfig := ⟨.fixedWindow, 1, 1, true, some 1, .ofSeconds 30⟩

/-- That limiter before anybody has asked, on a clock that is moved from outside. -/
def idle : Crowd := .ofGate ⟨.ofConfig oneASecond 0, .start .new [], .empty⟩

/-- A caller of that limiter waits for the slot, is handed the slot, and is given up: the slot is
free again. -/
theorem drop_restores_iff_handed :
    ∃ c c₁ other, Run .standing idle [(.tryAcquire, .answered (.ok true))] c ∧
      c.callers "late" = .fresh ∧
      Run .standing c [(.poll "late" none, .waitsForSlot), (.release, .gaveBack true)] c₁ ∧
      Run .standing c [(.release, .gaveBack true)] other ∧
      (c₁.drop "late").inFlight = other.inFlight ∧
      (c₁.drop "late").available = other.available := by
  have built : Limiter.build oneASecond 0 = .ok (.ofConfig oneASecond 0) := rfl
  have capped : oneASecond.maxConcurrency = some 1 := rfl
  obtain ⟨c, c₁, other, reached, fresh, called, without, awake⟩ : ∃ c c₁ other,
      Run .standing idle [(.tryAcquire, .answered (.ok true))] c ∧ c.callers "late" = .fresh ∧
      Run .standing c [(.poll "late" none, .waitsForSlot), (.release, .gaveBack true)] c₁ ∧
      Run .standing c [(.release, .gaveBack true)] other ∧
      (c₁.callers "late").isAsleep = false :=
    ⟨_, _, _, .cons rfl (.nil _), rfl, .cons rfl (.cons rfl (.nil _)), .cons rfl (.nil _), rfl⟩
  have waits : ∀ x ∈ [(Event.poll "late" none, Notice.waitsForSlot), (.release, .gaveBack true)],
      x.1.isOf "late" = true → x.2.isWaiting = true := by
    rintro x (_ | ⟨_, _ | ⟨_, ⟨⟩⟩⟩) own
    · rfl
    · cases own
  have restored := drop_restores_iff .standing built capped (.start .new []) .empty reached fresh
    called waits without
  exact ⟨c, c₁, other, reached, fresh, called, without, restored.1 awake⟩

/-- **A slot is lost.** The caller of this second has gone, and its slot is free. The next caller
takes the slot, waits for the next second and is given up. Nobody has the slot then, and nobody will
get it. -/
theorem drop_asleep_loses_slot :
    ∃ c c₁, Run .standing idle
        [(.tryAcquire, .answered (.ok true)), (.release, .gaveBack true)] c ∧
      c.callers "late" = .fresh ∧ Run .standing c [(.poll "late" none, .waitsForRate)] c₁ ∧
      c.inFlight = 0 ∧ c.available = some 1 ∧
      (c₁.drop "late").inFlight = 1 ∧ (c₁.drop "late").available = some 0 :=
  ⟨_, _, .cons rfl (.cons rfl (.nil _)), rfl, .cons rfl (.nil _), rfl, rfl, rfl, rfl⟩

/-- A slot that is handed to a caller is out of reach for others until the caller is given up, so
they are not answered as they would have been. -/
example : ∃ c other,
    Run .standing idle [(.tryAcquire, .answered (.ok true)), (.poll "late" none, .waitsForSlot),
      (.release, .gaveBack true), (.scene (Scene.advance (.ofSeconds 1)), .nothing),
      (.tryAcquire, .answered (.ok false))] c ∧
    Run .standing idle [(.tryAcquire, .answered (.ok true)), (.release, .gaveBack true),
      (.scene (Scene.advance (.ofSeconds 1)), .nothing), (.tryAcquire, .answered (.ok true))] other ∧
    (c.drop "late").inFlight = 0 ∧ other.inFlight = 1 :=
  ⟨_, _, .cons rfl (.cons rfl (.cons rfl (.cons rfl (.cons rfl (.nil _))))),
    .cons rfl (.cons rfl (.cons rfl (.cons rfl (.nil _)))), rfl, rfl⟩

end Crowd

end Outbound
