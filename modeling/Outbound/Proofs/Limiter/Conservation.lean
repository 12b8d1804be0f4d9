import Mathlib
import Outbound.Proofs.Limiter.Decisions

/-!
# Slots are conserved

Callers of a limiter with a cap block their threads, are asked again and again until they are
through, or never wait; in between slots are given back, the clock moves on and tokens are
cancelled. Whatever the order, each slot is free, taken, or on its way to a caller that waits for
it. A slot is taken for whoever has been admitted and has not given it back, and for whoever waits
for the rate. So a caller that is not admitted takes nothing with it, whether it has been denied for
want of a slot or by the rate, or interrupted while it waited for either of them.

## Main definitions

* `Crowd.granted`, `Crowd.found`: the admissions of a run, and the slots found to be given back
* `Crowd.Orderly`: whoever waits for the rate keeps its slot
* `Crowd.InTurn`: operations come one after the other
* `Crowd.Accounts`: the slots that are taken are accounted for

## Main results

* `Acquiring.Becomes.inFlight`: what one answer does to the slots that are taken
* `Crowd.Keeps.stepOn`, `Crowd.Accounts.stepOn`: every event keeps the account
* `Crowd.slot_conservation`: the slots after a run
-/

namespace Outbound

/-- Whether an answer is that a slot has been found to be given back. -/
def Notice.isFound : Notice → Bool
  | .gaveBack found => found
  | _ => false

/-- Only a caller that is asked for the first time queues up. -/
theorem Acquiring.of_move_eq_enter {stage : Acquiring} {r : Notice} (enters : stage.move r = .enter) :
    stage = .fresh ∧ r = .waitsForSlot := by
  cases stage <;> rcases r with (_ | _ | _) | _ | _ | _ | _ <;> first | exact ⟨rfl, rfl⟩ | cases enters

/-- **What one answer does to the slots that are taken:** one more is taken by a caller that is
admitted and by one that begins to wait for the rate; a caller that has waited for the rate gives
its slot back unless it is admitted. -/
theorem Acquiring.Becomes.inFlight {s s' : Slots} {stage after : Acquiring} {r : Notice}
    {next : Ticket} (becomes : stage.Becomes next r after) (moves : s.Moves (stage.move r) s')
    (has : stage.isAsleep = true → s.inFlight ≠ 0) :
    s'.inFlight + stage.isAsleep.toNat =
      s.inFlight + (r.isDecision true).toNat + after.isAsleep.toNat := by
  rw [moves.inFlight]
  cases becomes with
  | enters => rfl
  | stays t => rfl
  | sleeps stage mark =>
    cases stage <;> rfl
  | through stage outcome =>
    cases stage with
    | fresh => rcases outcome with _ | (_ | _) <;> rfl
    | queued t => rcases outcome with _ | (_ | _) <;> rfl
    | sleeping mark =>
      have taken : s.inFlight - 1 + 1 = s.inFlight := Nat.succ_pred (has rfl)
      rcases outcome with _ | (_ | _)
      · exact taken
      · exact taken
      · rfl

namespace Crowd

variable {k : Clockwork} {c c' : Crowd} {e : Event} {r : Notice} {s : Slots} {t : Trace}
  {events : List Event} {won back : Nat}

/-- The admissions that have been granted in a run. -/
def granted (t : Trace) : Nat := (t.map Prod.snd).countP (Notice.isDecision true)

/-- The slots that have been found to be given back in a run. -/
def found (t : Trace) : Nat := (t.map Prod.snd).countP Notice.isFound

/-- Nobody is under way. -/
def IsIdle (c : Crowd) : Prop := ∀ who, c.callers who = .fresh

/-- **Whoever waits for the rate keeps its slot** along a run, before which so many admissions have
been granted and so many slots found to be given back: it is not given up, and nobody gives back a
slot in its stead. -/
def Orderly (k : Clockwork) (won back : Nat) : List Event → Crowd → Prop
  | [], _ => True
  | e :: rest, c =>
    (∀ who, e = .drop who → (c.callers who).isAsleep = false) ∧
    (e = .release → c.inFlight ≠ 0 → c.IsAwake ∨ back < won) ∧
    ∀ r c', c.stepOn k e = .ok (r, c') →
      Orderly k (won + (r.isDecision true).toNat) (back + r.isFound.toNat) rest c'

/-- Whether an operation begins with an event: somebody asks for the first time, or gives back a
slot. -/
def begins (c : Crowd) : Event → Prop
  | .poll who _ => c.callers who = .fresh
  | .tryAcquire | .acquire _ | .release => True
  | _ => False

/-- **One operation after the other:** none begins while a caller is under way, and nobody is given
up. Meanwhile the clock moves on, tokens are cancelled, and maintenance goes on. -/
def InTurn (k : Clockwork) : List Event → Crowd → Prop
  | [], _ => True
  | e :: rest, c =>
    (∀ who, e ≠ .drop who) ∧ (c.begins e → c.IsIdle) ∧
      ∀ r c', c.stepOn k e = .ok (r, c') → InTurn k rest c'

/-- Where operations come one after the other, nobody waits for the rate when a slot is given back. -/
theorem InTurn.orderly (inTurn : InTurn k events c) : Orderly k won back events c := by
  induction events generalizing c won back with
  | nil => trivial
  | cons e rest ih =>
    obtain ⟨kept, begins, further⟩ := inTurn
    refine ⟨fun who same => absurd same (kept who), ?_, fun r c' ran => ih (further r c' ran)⟩
    rintro rfl -
    refine .inl fun who => ?_
    rw [begins trivial who]
    rfl

/-! ## Who waits for a slot -/

/-- **What holds of a crowd at every moment,** whatever happens: there are as many slots as ever, and
whoever has a place in the queue or a slot on its way is there to be asked. -/
structure Keeps (cap : Nat) (c : Crowd) (s : Slots) : Prop extends c.Stands s where
  capped : s.cap = cap
  /-- The tickets that are out are those of callers. -/
  owned : ∀ t ∈ s.queue ++ s.handed, ∃ who, c.callers who = .queued t

/-- A caller that blocks its thread and finds no slot changes nothing. -/
theorem step_of_stepOn (ran : c.stepOn k e = .ok (r, c')) :
    c.step k e = .ok (r, c') ∨ (∃ cancel, e = .acquire cancel) ∧ r = .waitsForSlot ∧ c' = c := by
  cases e with
  | acquire cancel =>
    simp only [stepOn, step] at ran ⊢
    rcases asked : Gate.acquireOn k cancel c.gate with (_ | _ | _) | ⟨o, g⟩
    · rw [asked] at ran
      obtain ⟨rfl, rfl⟩ := Prod.mk.inj (Except.ok.inj ran)
      exact .inr ⟨⟨cancel, rfl⟩, rfl, rfl⟩
    · rw [asked] at ran
      cases ran
    · rw [asked] at ran
      cases ran
    · rw [asked] at ran
      exact .inl ran
  | poll | drop | tryAcquire | release | sweep | shutdown | tick | scene => exact .inl ran

namespace Keeps

variable {cap : Nat}

theorem step (keeps : Keeps cap c s) (ran : c.step k e = .ok (r, c')) :
    ∃ s', Keeps cap c' s' ∧ s.Moves (e.move c r) s' ∧
      ∀ who, e.isOf who = true → e.Puts s.nextTicket (c.callers who) (c'.callers who) r := by
  obtain ⟨s', stands, moves, puts⟩ := keeps.toStands.step ran
  refine ⟨s', ⟨stands, moves.cap.trans keeps.capped, ?_⟩, moves, puts⟩
  intro t out
  rcases moves.out keeps.sound out with ⟨before, unpicked, stayed⟩ | ⟨enters, rfl⟩
  · obtain ⟨who, queued⟩ := keeps.owned t before
    refine ⟨who, ?_⟩
    cases own : e.isOf who
    · exact (callers_step ran own).trans queued
    · have put := puts who own
      rw [queued] at put
      cases e with
      | poll name cancel =>
        obtain rfl : name = who := eq_of_beq own
        change (c.callers name).move r ≠ _ at unpicked stayed
        rw [queued] at unpicked stayed
        generalize c'.callers name = after at put
        cases put with
        | stays => rfl
        | sleeps => exact absurd rfl unpicked
        | through stage outcome =>
          rcases outcome with _ | (_ | _)
          · exact absurd rfl stayed
          · exact absurd rfl stayed
          · exact absurd rfl unpicked
      | drop name =>
        obtain rfl : name = who := eq_of_beq own
        change (c.callers name).leaving ≠ _ at stayed
        rw [queued] at stayed
        exact absurd rfl stayed
      | tryAcquire | acquire | release | sweep | shutdown | tick | scene => cases own
  · cases e with
    | poll name cancel =>
      obtain ⟨fresh, rfl⟩ := Acquiring.of_move_eq_enter enters
      have put := puts name (beq_self_eq_true name)
      rw [fresh] at put
      change Acquiring.fresh.Becomes s.nextTicket .waitsForSlot (c'.callers name) at put
      refine ⟨name, ?_⟩
      generalize c'.callers name = after at put
      cases put
      rfl
    | drop name =>
      change (c.callers name).leaving = .enter at enters
      generalize c.callers name = stage at enters
      cases stage <;> cases enters
    | tryAcquire =>
      change Acquiring.fresh.move r = .enter at enters
      obtain ⟨rfl, rfl⟩ := Prod.mk.inj (Except.ok.inj ran)
      cases (Acquiring.of_move_eq_enter enters).2
    | acquire cancel =>
      change Acquiring.fresh.move r = .enter at enters
      simp only [Crowd.step] at ran
      rcases asked : Gate.acquireOn k cancel c.gate with h | ⟨o, g⟩
      · rw [asked] at ran
        cases ran
      · rw [asked] at ran
        obtain ⟨rfl, rfl⟩ := Prod.mk.inj (Except.ok.inj ran)
        cases (Acquiring.of_move_eq_enter enters).2
    | release | sweep | shutdown | tick | scene => cases enters

theorem stepOn (keeps : Keeps cap c s) (ran : c.stepOn k e = .ok (r, c')) : ∃ s', Keeps cap c' s' := by
  rcases step_of_stepOn ran with ran | ⟨-, -, rfl⟩
  · obtain ⟨s', keeps', -⟩ := keeps.step ran
    exact ⟨s', keeps'⟩
  · exact ⟨s, keeps⟩

/-- **Every run keeps it so.** -/
theorem play (keeps : Keeps cap c s) (ran : Crowd.play k events c = .ok (t, c')) :
    ∃ s', Keeps cap c' s' := by
  induction events generalizing c s t with
  | nil =>
    obtain ⟨-, rfl⟩ := Prod.mk.inj (Except.ok.inj ran)
    exact ⟨s, keeps⟩
  | cons e rest ih =>
    obtain ⟨r, u, later, first, others, -⟩ := play_cons ran
    obtain ⟨s₁, keeps₁⟩ := keeps.stepOn first
    exact ih keeps₁ others

/-- Where nobody waits for a slot, none is on its way. -/
theorem handed_eq_nil (keeps : Keeps cap c s) (unqueued : ∀ who t, c.callers who ≠ .queued t) :
    s.handed = [] := by
  refine List.eq_nil_iff_forall_not_mem.mpr ?_
  intro t handed
  obtain ⟨who, queued⟩ := keeps.owned t (List.mem_append_right _ handed)
  exact unqueued who t queued

/-- **No more slots are taken than there are.** Where nobody waits for a slot, each of them is free or
taken. -/
theorem balanced (keeps : Keeps cap c s) :
    ∃ free, c.available = some free ∧ c.inFlight + free ≤ cap ∧
      ((∀ who t, c.callers who ≠ .queued t) → c.inFlight + free = cap) := by
  obtain ⟨inFlight, available⟩ := Bereft.counts_of_slots keeps.slots
  have balanced := keeps.sound.balanced
  have capped := keeps.capped
  refine ⟨s.free, available, by omega, ?_⟩
  intro unqueued
  rw [keeps.handed_eq_nil unqueued, List.length_nil] at balanced
  omega

end Keeps

/-! ## The account -/

/-- **The slots that are taken are accounted for:** one for each admission that has not been given
back, and one for each caller that waits for the rate. -/
structure Accounts (won back : Nat) (c : Crowd) (s : Slots) (sleepers : Finset String) : Prop
    extends c.Stands s where
  /-- The callers that wait for the rate. -/
  sleeps : ∀ who, who ∈ sleepers ↔ (c.callers who).isAsleep = true
  count : s.inFlight + back = won + sleepers.card
  /-- Nobody has given back a slot in the stead of another one. -/
  fair : back ≤ won

namespace Accounts

variable {sleepers : Finset String}

/-- Whoever waits for the rate has a slot. -/
theorem taken (accounts : c.Accounts won back s sleepers) {who : String}
    (asleep : (c.callers who).isAsleep = true) : s.inFlight ≠ 0 := by
  have some : 0 < sleepers.card := Finset.card_pos.mpr ⟨who, (accounts.sleeps who).mpr asleep⟩
  have count := accounts.count
  have fair := accounts.fair
  omega

/-- **The account once a caller stands elsewhere.** -/
theorem moved {who : String} {s' : Slots} (accounts : c.Accounts won back s sleepers)
    (granted : Bool) (stands : c'.Stands s')
    (others : ∀ name, name ≠ who → c'.callers name = c.callers name)
    (inFlight : s'.inFlight + (c.callers who).isAsleep.toNat =
      s.inFlight + granted.toNat + (c'.callers who).isAsleep.toNat) :
    ∃ sleepers', c'.Accounts (won + granted.toNat) back s' sleepers' := by
  have known := accounts.sleeps who
  have count := accounts.count
  have fair := Nat.le_add_right_of_le (k := granted.toNat) accounts.fair
  cases after : (c'.callers who).isAsleep with
  | true =>
    refine ⟨insert who sleepers, stands, ?_, ?_, fair⟩
    · intro name
      by_cases same : name = who
      · simp [same, after]
      · rw [Finset.mem_insert, others name same, ← accounts.sleeps name]
        simp [same]
    · cases before : (c.callers who).isAsleep with
      | true =>
        rw [Finset.insert_eq_of_mem (known.mpr before)]
        rw [before, after] at inFlight
        omega
      | false =>
        have new : who ∉ sleepers := by simp [known, before]
        rw [Finset.card_insert_of_notMem new]
        rw [before, after, Bool.toNat_true, Bool.toNat_false] at inFlight
        omega
  | false =>
    refine ⟨sleepers.erase who, stands, ?_, ?_, fair⟩
    · intro name
      by_cases same : name = who
      · simp [same, after]
      · rw [Finset.mem_erase, others name same, ← accounts.sleeps name]
        simp [same]
    · cases before : (c.callers who).isAsleep with
      | true =>
        have some := Finset.card_erase_add_one (known.mpr before)
        rw [before, after, Bool.toNat_true, Bool.toNat_false] at inFlight
        omega
      | false =>
        rw [Finset.erase_eq_of_notMem (by simp [known, before])]
        rw [before, after] at inFlight
        omega

/-- The account once nobody stands elsewhere. -/
theorem stayed {s' : Slots} (accounts : c.Accounts won back s sleepers) (granted found : Bool)
    (stands : c'.Stands s') (same : c'.callers = c.callers)
    (inFlight : s'.inFlight + found.toNat = s.inFlight + granted.toNat)
    (fair : found = true → back < won) :
    c'.Accounts (won + granted.toNat) (back + found.toNat) s' sleepers := by
  have count := accounts.count
  refine ⟨stands, fun who => same ▸ accounts.sleeps who, by omega, ?_⟩
  cases found with
  | true => exact Nat.le_add_right_of_le (fair rfl)
  | false => exact Nat.le_add_right_of_le accounts.fair

/-- The account once a caller has been answered at once. -/
theorem answered {s' : Slots} {outcome : Except Failure Bool}
    (accounts : c.Accounts won back s sleepers) (stands : c'.Stands s')
    (same : c'.callers = c.callers) (moves : s.Moves (Acquiring.fresh.move (.answered outcome)) s') :
    c'.Accounts (won + ((Notice.answered outcome).isDecision true).toNat) back s' sleepers := by
  have becomes : Acquiring.fresh.Becomes s.nextTicket (.answered outcome) .fresh :=
    .through .fresh outcome
  have inFlight := becomes.inFlight moves nofun
  exact accounts.stayed _ false stands same inFlight nofun

/-- A slot that is given back while nobody waits for the rate was admitted to somebody. -/
theorem back_lt (accounts : c.Accounts won back s sleepers) (taken : s.inFlight ≠ 0)
    (fair : c.IsAwake ∨ back < won) : back < won := by
  rcases fair with awake | less
  · have none : sleepers = ∅ := by
      refine Finset.eq_empty_of_forall_notMem ?_
      intro who mem
      exact Bool.false_ne_true ((awake who).symm.trans ((accounts.sleeps who).mp mem))
    have count := accounts.count
    rw [none, Finset.card_empty] at count
    omega
  · exact less

/-- **Every event keeps the account.** -/
theorem stepOn (accounts : c.Accounts won back s sleepers) (ran : c.stepOn k e = .ok (r, c'))
    (kept : ∀ who, e = .drop who → (c.callers who).isAsleep = false)
    (fair : e = .release → c.inFlight ≠ 0 → c.IsAwake ∨ back < won) :
    ∃ s' sleepers', c'.Accounts (won + (r.isDecision true).toNat) (back + r.isFound.toNat)
      s' sleepers' := by
  obtain stepped | ⟨⟨cancel, rfl⟩, rfl, rfl⟩ := step_of_stepOn ran
  · obtain ⟨s', stands, moves, puts⟩ := accounts.toStands.step stepped
    cases e with
    | poll who cancel =>
      have put := puts who (beq_self_eq_true who)
      have others : ∀ name, name ≠ who → c'.callers name = c.callers name := by
        intro name other
        exact callers_step stepped (beq_false_of_ne (Ne.symm other))
      have unfound : r.isFound = false := by
        change (c.callers who).Becomes s.nextTicket r (c'.callers who) at put
        generalize c.callers who = before at put
        generalize c'.callers who = after at put
        cases put <;> rfl
      obtain ⟨sleepers', after⟩ :=
        accounts.moved _ stands others (put.inFlight moves accounts.taken)
      rw [unfound]
      exact ⟨s', sleepers', after⟩
    | drop who =>
      obtain ⟨rfl, rfl⟩ := Prod.mk.inj (Except.ok.inj stepped)
      have others : ∀ name, name ≠ who → (c.drop who).callers name = c.callers name := by
        intro name other
        exact callers_step stepped (beq_false_of_ne (Ne.symm other))
      have same : s'.inFlight = s.inFlight := by
        change s.Moves (c.callers who).leaving s' at moves
        rw [moves.inFlight]
        cases c.callers who <;> rfl
      have fresh : (c.drop who).callers who = .fresh := Function.update_self _ _ _
      obtain ⟨sleepers', after⟩ := accounts.moved false stands others
        (by rw [same, fresh, kept who rfl]; rfl)
      exact ⟨s', sleepers', after⟩
    | tryAcquire =>
      obtain ⟨rfl, rfl⟩ := Prod.mk.inj (Except.ok.inj stepped)
      exact ⟨s', sleepers, accounts.answered stands rfl moves⟩
    | acquire cancel =>
      simp only [step] at stepped
      rcases asked : Gate.acquireOn k cancel c.gate with h | ⟨o, g⟩
      · rw [asked] at stepped
        cases stepped
      · rw [asked] at stepped
        obtain ⟨rfl, rfl⟩ := Prod.mk.inj (Except.ok.inj stepped)
        exact ⟨s', sleepers, accounts.answered stands rfl moves⟩
    | release =>
      obtain ⟨rfl, rfl⟩ := Prod.mk.inj (Except.ok.inj stepped)
      have inFlight : s'.inFlight = s.inFlight - 1 := moves.inFlight
      have shown : c.inFlight = s.inFlight := (Bereft.counts_of_slots accounts.slots).1
      have gave : (Gate.release c.gate).1 = s.giveBack.1 := by
        rw [Gate.release_of_some _ accounts.slots]
      refine ⟨s', sleepers, accounts.stayed false (Gate.release c.gate).1 stands rfl ?_ ?_⟩
      · rw [gave, inFlight]
        by_cases none : s.inFlight = 0
        · rw [Slots.giveBack_of_none none, none]
        · rw [Slots.giveBack_of_taken none]
          exact Nat.succ_pred none
      · intro given
        have taken : s.inFlight ≠ 0 := by
          intro none
          rw [gave, Slots.giveBack_of_none none] at given
          cases given
        exact accounts.back_lt taken (fair rfl (shown ▸ taken))
    | sweep | shutdown | tick | scene =>
      obtain ⟨rfl, rfl⟩ := Prod.mk.inj (Except.ok.inj stepped)
      refine ⟨s', sleepers, accounts.stayed false false stands rfl ?_
        fun found => absurd found Bool.false_ne_true⟩
      exact moves.inFlight
  · exact ⟨s, sleepers, accounts⟩

/-- **Every run keeps the account,** as long as whoever waits for the rate keeps its slot. -/
theorem play (accounts : c.Accounts won back s sleepers) (orderly : Orderly k won back events c)
    (ran : Crowd.play k events c = .ok (t, c')) :
    ∃ s' sleepers', c'.Accounts (won + granted t) (back + found t) s' sleepers' := by
  induction events generalizing c s sleepers t won back with
  | nil =>
    obtain ⟨rfl, rfl⟩ := Prod.mk.inj (Except.ok.inj ran)
    exact ⟨s, sleepers, accounts⟩
  | cons e rest ih =>
    obtain ⟨r, u, later, first, others, rfl⟩ := play_cons ran
    obtain ⟨kept, fair, further⟩ := orderly
    obtain ⟨s₁, sleepers₁, accounts₁⟩ := accounts.stepOn first kept fair
    obtain ⟨s₂, sleepers₂, accounts₂⟩ := ih accounts₁ (further r u first) others
    rw [Nat.add_assoc, Nat.add_assoc] at accounts₂
    have won : granted ((e, r) :: later) = (r.isDecision true).toNat + granted later := by
      rw [granted, List.map_cons, List.countP_cons, Nat.add_comm]
      cases r.isDecision true <;> rfl
    have back : found ((e, r) :: later) = r.isFound.toNat + found later := by
      rw [found, List.map_cons, List.countP_cons, Nat.add_comm]
      cases r.isFound <;> rfl
    rw [won, back]
    exact ⟨s₂, sleepers₂, accounts₂⟩

/-- Where nobody is under way, every slot that is taken may count as admitted. -/
theorem of_idle (stands : c.Stands s) (idle : c.IsIdle) : c.Accounts s.inFlight 0 s ∅ := by
  refine ⟨stands, ?_, rfl, Nat.zero_le _⟩
  intro who
  rw [idle who]
  exact ⟨nofun, nofun⟩

/-- Where nobody waits for the rate, the slots that are taken are those of the admissions. -/
theorem inFlight_of_idle (accounts : c.Accounts won back s sleepers) (idle : c.IsIdle) :
    s.inFlight + back = won := by
  have none : sleepers = ∅ := by
    refine Finset.eq_empty_of_forall_notMem ?_
    intro who mem
    have asleep := (accounts.sleeps who).mp mem
    rw [idle who] at asleep
    cases asleep
  have count := accounts.count
  rwa [none, Finset.card_empty] at count

end Accounts

/-- Whether every slot that is found to be given back was admitted to somebody, by what is answered
in a run. -/
def isPaid (won back : Nat) : List Notice → Bool
  | [] => true
  | r :: rest =>
    (!r.isFound || decide (back < won)) &&
      isPaid (won + (r.isDecision true).toNat) (back + r.isFound.toNat) rest

theorem isPaid_of_found_eq_zero {t : Trace} (unfound : found t = 0) :
    isPaid won back (t.map Prod.snd) = true := by
  induction t generalizing won back with
  | nil => rfl
  | cons entry rest ih =>
    rw [found, List.map_cons, List.countP_cons] at unfound
    obtain ⟨later, here⟩ := Nat.add_eq_zero_iff.mp unfound
    have lost : entry.2.isFound = false := by simpa using here
    rw [List.map_cons, isPaid, lost, ih later]
    rfl

/-- A limiter with a slot that is taken finds one to be given back. -/
theorem release_of_taken {g : Gate} (taken : g.limiter.inFlight ≠ 0) : (Gate.release g).1 = true := by
  rcases slots : g.limiter.slots with _ | s
  · rw [Limiter.inFlight, slots] at taken
    exact absurd rfl taken
  · rw [Limiter.inFlight, slots] at taken
    have taken' : s.inFlight ≠ 0 := taken
    rw [Gate.release_of_some _ slots, Slots.giveBack_of_taken taken']

/-- **Where nobody gives back more than has been admitted,** whoever waits for the rate keeps its
slot. -/
theorem orderly_of_isPaid (ran : play k events c = .ok (t, c')) (kept : ∀ who, .drop who ∉ events)
    (paid : isPaid won back (t.map Prod.snd) = true) : Orderly k won back events c := by
  induction events generalizing c t won back with
  | nil => trivial
  | cons e rest ih =>
    obtain ⟨r, u, later, first, others, rfl⟩ := play_cons ran
    rw [List.map_cons, isPaid, Bool.and_eq_true] at paid
    refine ⟨?_, ?_, ?_⟩
    · rintro who rfl
      exact absurd List.mem_cons_self (kept who)
    · rintro rfl taken
      obtain ⟨rfl, rfl⟩ := Prod.mk.inj (Except.ok.inj first)
      have given : Notice.isFound (.gaveBack (Gate.release c.gate).1) = true := release_of_taken taken
      have less := paid.1
      rw [given] at less
      exact .inr (of_decide_eq_true less)
    · intro r' u' again
      obtain ⟨rfl, rfl⟩ := Prod.mk.inj (Except.ok.inj (first.symm.trans again))
      exact ih others (fun who mem => kept who (List.mem_cons_of_mem _ mem)) paid.2

/-- **Slots are conserved.** Callers of a limiter with a cap come in any order, on any clock, and do
whatever callers do. No more slots are taken than there are, and each slot is free or taken, but for
those on their way to callers that wait for one. As long as whoever waits for the rate keeps its
slot, one slot is taken for each admission that has not been given back and one for each caller that
waits for the rate; so there is one for each such admission once all are through, if operations come
one after the other. Whatever callers do after that, if nobody is under way before and after, nobody
has been admitted and nothing has been given back, then the slots are as they were. -/
theorem slot_conservation (k : Clockwork) {config : LimiterConfig} {now : Nat} {l : Limiter}
    (built : Limiter.build config now = .ok l) {cap : Nat}
    (capped : config.maxConcurrency = some cap) (scene : Scene) (telemetry : Telemetry)
    (ran : play k events (.ofGate ⟨l, scene, telemetry⟩) = .ok (t, c)) :
    (∃ free, c.available = some free ∧ c.inFlight + free ≤ cap ∧
      ((∀ who ticket, c.callers who ≠ .queued ticket) → c.inFlight + free = cap)) ∧
    c.inFlight ≤ cap ∧
    (Orderly k 0 0 events (.ofGate ⟨l, scene, telemetry⟩) →
      ∃ sleepers : Finset String, (∀ who, who ∈ sleepers ↔ (c.callers who).isAsleep = true) ∧
        c.inFlight + found t = granted t + sleepers.card) ∧
    (InTurn k events (.ofGate ⟨l, scene, telemetry⟩) → c.IsIdle →
      c.inFlight + found t = granted t) ∧
    ∀ later t' c', c.IsIdle → play k later c = .ok (t', c') → c'.IsIdle →
      (∀ who, .drop who ∉ later) → granted t' = 0 → found t' = 0 →
      c'.inFlight = c.inFlight ∧ c'.available = c.available := by
  have slots : l.slots = some (.ofCap cap) := by
    rw [Limiter.eq_ofConfig_of_build built, Limiter.slots_ofConfig, capped]
    rfl
  have stands : (ofGate ⟨l, scene, telemetry⟩).Stands (.ofCap cap) := .ofGate slots
  have start : Keeps cap (ofGate ⟨l, scene, telemetry⟩) (.ofCap cap) := ⟨stands, rfl, nofun⟩
  obtain ⟨s, keeps⟩ := start.play ran
  obtain ⟨free, available, atMost, exactly⟩ := keeps.balanced
  have untouched : Accounts 0 0 (ofGate ⟨l, scene, telemetry⟩) (.ofCap cap) ∅ :=
    .of_idle stands fun _ => rfl
  refine ⟨⟨free, available, atMost, exactly⟩, by omega, ?_, ?_, ?_⟩
  · intro orderly
    obtain ⟨s', sleepers, accounts⟩ := untouched.play orderly ran
    refine ⟨sleepers, accounts.sleeps, ?_⟩
    have count := accounts.count
    rwa [(Bereft.counts_of_slots accounts.slots).1, ← Nat.zero_add (found t),
      ← Nat.zero_add (granted t)]
  · intro inTurn idle
    obtain ⟨s', sleepers, accounts⟩ := untouched.play inTurn.orderly ran
    have count := accounts.inFlight_of_idle idle
    rwa [(Bereft.counts_of_slots accounts.slots).1, ← Nat.zero_add (found t),
      ← Nat.zero_add (granted t)]
  · intro later t' c' idle ran' idle' kept ungranted unfound
    obtain ⟨s', sleepers, accounts⟩ := (Accounts.of_idle keeps.toStands idle).play
      (orderly_of_isPaid ran' kept (isPaid_of_found_eq_zero unfound)) ran'
    have inFlight : c'.inFlight = c.inFlight := by
      have count := accounts.inFlight_of_idle idle'
      rw [ungranted, unfound] at count
      rwa [(Bereft.counts_of_slots accounts.slots).1, (Bereft.counts_of_slots keeps.slots).1]
    have unqueued {d : Crowd} (idle : d.IsIdle) (who : String) (ticket : Ticket) :
        d.callers who ≠ .queued ticket := by
      rw [idle who]
      nofun
    obtain ⟨s₂, keeps'⟩ := keeps.play ran'
    obtain ⟨free', available', -, exactly'⟩ := keeps'.balanced
    refine ⟨inFlight, ?_⟩
    have before := exactly (unqueued idle)
    have after := exactly' (unqueued idle')
    rw [available, available']
    congr 1
    omega

/-- A clock that is moved from outside, on which a caller sees its cancelled token before the slot
that it has been handed. -/
def wary : Clockwork := { Clockwork.standing with tokenFirst := fun _ _ => true }

/-- Callers of a limiter with one slot and one admission a second. One is admitted at once. One queues
up and is interrupted; one waits for the rate and is interrupted; one waits for the rate until it is
admitted in the next second; and one is handed the slot of that one and is interrupted with it. -/
def waiting : List Event :=
  [.tryAcquire, .poll "queues" (some 0), .scene (Scene.cancel 0), .poll "queues" (some 0), .release,
    .release, .poll "sleeps" (some 1), .scene (Scene.cancel 1), .poll "sleeps" (some 1),
    .poll "wakes" none, .scene (Scene.advance (.ofSeconds 1)), .poll "wakes" none,
    .poll "handed" (some 2), .release, .scene (Scene.cancel 2), .poll "handed" (some 2)]

/-- What they are answered. -/
def answers : List Notice :=
  [.answered (.ok true), .waitsForSlot, .nothing, .answered (.error .interrupted), .gaveBack true,
    .gaveBack false, .waitsForRate, .nothing, .answered (.error .interrupted), .waitsForRate, .nothing,
    .answered (.ok true), .waitsForSlot, .gaveBack true, .nothing, .answered (.error .interrupted)]

/-- A caller that waits for the rate and is interrupted. -/
def interrupted : List Event :=
  [.poll "sleeps" (some 1), .scene (Scene.cancel 1), .poll "sleeps" (some 1)]

/-- That caller after one that is admitted, gives back its slot, and gives back another one besides. -/
def alone : List Event := [.tryAcquire, .release, .release] ++ interrupted

theorem inTurn_alone : InTurn wary alone idle := by
  refine ⟨nofun, fun _ _ => rfl, fun r c ran => ?_⟩
  cases ran
  refine ⟨nofun, fun _ _ => rfl, fun r c ran => ?_⟩
  cases ran
  refine ⟨nofun, fun _ _ => rfl, fun r c ran => ?_⟩
  cases ran
  refine ⟨nofun, fun _ _ => rfl, fun r c ran => ?_⟩
  cases ran
  refine ⟨nofun, False.elim, fun r c ran => ?_⟩
  cases ran
  refine ⟨nofun, ?_, fun _ _ _ => trivial⟩
  intro begins
  change Function.update (fun _ : String => Acquiring.fresh) "sleeps" _ "sleeps" = .fresh at begins
  rw [Function.update_self] at begins
  cases begins

/-- A caller that has been under way is through, and nobody else is under way. -/
theorem isIdle_of_update {who : String} {stage : Acquiring}
    (stands : c.callers = Function.update (Function.update (fun _ => .fresh) who stage) who .fresh) :
    c.IsIdle := by
  intro name
  rw [stands, Function.update_idem]
  by_cases same : name = who
  · simp [same]
  · simp [Function.update_of_ne same]

/-- Two of them are admitted and both give back their slot, so it is free once all are through. Of
those that come one after the other, one is admitted and gives back its slot. The one that is
interrupted while it waits for the rate leaves the slot as it was. -/
theorem slot_conservation_waiting :
    (∃ t c, ∃ sleepers : Finset String, play wary waiting idle = .ok (t, c) ∧
      t.map Prod.snd = answers ∧ granted t = 2 ∧ found t = 2 ∧ c.available = some 1 ∧
      c.inFlight + found t = granted t + sleepers.card) ∧
    (∃ t c, play wary alone idle = .ok (t, c) ∧ granted t = 1 ∧ found t = 1 ∧
      c.inFlight + found t = granted t) ∧
    ∃ t c t' c', play wary [.tryAcquire, .release] idle = .ok (t, c) ∧
      play wary interrupted c = .ok (t', c') ∧
      t'.map Prod.snd = [.waitsForRate, .nothing, .answered (.error .interrupted)] ∧
      c'.inFlight = c.inFlight ∧ c'.available = c.available := by
  have built : Limiter.build oneASecond 0 = .ok (.ofConfig oneASecond 0) := rfl
  have capped : oneASecond.maxConcurrency = some 1 := rfl
  refine ⟨?_, ?_, ?_⟩
  · obtain ⟨t, c, ran, answered, available⟩ : ∃ t c, play wary waiting idle = .ok (t, c) ∧
        t.map Prod.snd = answers ∧ c.available = some 1 := by
      have reaches : (play wary waiting idle).map
          (fun r => (r.1.map Prod.snd, r.2.available)) = .ok (answers, some 1) := by cbv
      rcases ran : play wary waiting idle with halt | ⟨t, c⟩
      · rw [ran] at reaches
        cases reaches
      · rw [ran] at reaches
        obtain ⟨answered, available⟩ := Prod.mk.inj (Except.ok.inj reaches)
        exact ⟨t, c, rfl, answered, available⟩
    have kept : ∀ who, .drop who ∉ waiting := by simp [waiting]
    have orderly : Orderly wary 0 0 waiting idle :=
      orderly_of_isPaid ran kept (by rw [answered]; rfl)
    obtain ⟨-, -, account, -, -⟩ :=
      slot_conservation wary built capped (.start .new []) .empty ran
    obtain ⟨sleepers, -, count⟩ := account orderly
    refine ⟨t, c, sleepers, ran, answered, ?_, ?_, available, count⟩
    · rw [granted, answered]
      rfl
    · rw [found, answered]
      rfl
  · obtain ⟨t, c, ran, granted, found, stands⟩ : ∃ t c, play wary alone idle = .ok (t, c) ∧
        granted t = 1 ∧ found t = 1 ∧ c.callers = Function.update
          (Function.update (fun _ => .fresh) "sleeps" (.sleeping 1700000001000000000)) "sleeps" .fresh :=
      ⟨_, _, rfl, rfl, rfl, rfl⟩
    obtain ⟨-, -, -, account, -⟩ := slot_conservation wary built capped (.start .new []) .empty ran
    exact ⟨t, c, ran, granted, found, account inTurn_alone (isIdle_of_update stands)⟩
  · obtain ⟨t, c, t', c', ran, idle, ran', answered, stands⟩ : ∃ t c t' c',
        play wary [.tryAcquire, .release] idle = .ok (t, c) ∧ c.IsIdle ∧
        play wary interrupted c = .ok (t', c') ∧
        t'.map Prod.snd = [.waitsForRate, .nothing, .answered (.error .interrupted)] ∧
        c'.callers = Function.update
          (Function.update (fun _ => .fresh) "sleeps" (.sleeping 1700000001000000000)) "sleeps" .fresh :=
      ⟨_, _, _, _, rfl, fun _ => rfl, rfl, rfl, rfl⟩
    obtain ⟨-, -, -, -, unchanged⟩ := slot_conservation wary built capped (.start .new []) .empty ran
    have kept : ∀ who, .drop who ∉ interrupted := by simp [interrupted]
    have ungranted : granted t' = 0 := by
      rw [granted, answered]
      rfl
    have unfound : found t' = 0 := by
      rw [found, answered]
      rfl
    exact ⟨t, c, t', c', ran, ran', answered,
      unchanged interrupted t' c' idle ran' (isIdle_of_update stands) kept ungranted unfound⟩

end Crowd

end Outbound
