import Outbound.Chain.Basic
import Outbound.Proofs.Chain.Covered
import Outbound.Proofs.Chain.Replay

/-!
# Cancellation stops repetitions

A token may be cancelled at any point of a call: before it, in a hook, in a send, in a wait, or by
somebody else between two questions to it. From then on, no wait that the call asks for is slept,
and at most one send starts: that of the attempt under way, for the next attempt would come after a
wait. This holds whatever the policies say about interrupted calls, and whatever hooks make of them.

What happens after that point is seen by an observer, who looks at the token whenever a send starts
and whenever a wait is asked for, and puts remarks into the journal.

## Main definitions

* `Lookout`: an observer of a token
* `Transport.watched`, `Clockwork.watched`: sends and waits under observation
* `Clockwork.Heeds`, `Transport.Attends`, `Layer.Attends`: clocks that interrupt waits of a
  cancelled token, transports and hooks that leave it cancelled
* `Lookout.Stops`: a computation that stops once the token has been cancelled
* `Lookout.account`: what may be sent and slept, on the account of a token

## Main results

* `Chain.cancellation_stops_replays`: blocking and asynchronous calls stop at their token
-/

namespace Outbound

/-! ## Observers -/

/-- **An observer of a token,** with the remarks that it puts into the journal. -/
structure Lookout where
  token : Token
  /-- On a send that starts once the token has been cancelled. -/
  sent : String
  /-- On a wait that is slept although the token had been cancelled when it was asked for. -/
  slept : String
  distinct : sent ≠ slept

/-- Whether an entry of the journal is a remark. -/
def Entry.isRemark (line : String) : Entry → Bool
  | .note line' => line' == line
  | _ => false

/-- **How often a remark has been made.** -/
def Scene.remarks (line : String) (s : Scene) : Nat := s.journal.countP (Entry.isRemark line)

/-- How often a remark has been made. -/
def World.remarks (line : String) (w : World) : Nat := w.scene.remarks line

namespace Lookout

variable (o : Lookout)

/-- Whether the token has been cancelled. -/
def late (s : Scene) : Bool := s.isCancelled o.token

/-- The scene in which a send starts under observation. -/
def noteSent (s : Scene) : Scene := if o.late s then s.log (.note o.sent) else s

/-- The scene after a wait under observation, by the one in which it was asked for. -/
def noteSlept (before : Scene) (slept : Bool) (after : Scene) : Scene :=
  if o.late before && slept then after.log (.note o.slept) else after

end Lookout

/-- Sends under observation. -/
def Transport.watched (o : Lookout) : Transport → Transport
  | .blocking send => .blocking fun r s => send r (o.noteSent s)
  | .deferred send => .deferred fun r s => send r (o.noteSent s)

/-- Whether a wait is over with a failure. -/
def Pause.isRefused : Pause → Bool
  | .over (.error _) => true
  | _ => false

/-- Waits under observation. -/
def Clockwork.watched (o : Lookout) (k : Clockwork) : Clockwork where
  sleep d token s :=
    ((k.sleep d token s).1,
      o.noteSlept s (k.sleep d token s).1.isOk (k.sleep d token s).2)
  pause d token s :=
    ((k.pause d token s).1,
      o.noteSlept s (!(k.pause d token s).1.isRefused) (k.pause d token s).2)
  resume := k.resume
  tokenFirst := k.tokenFirst

/-- **What leaves the observer alone:** a cancelled token stays so, and the remarks are as they
were. -/
structure Lookout.Leaves (o : Lookout) (s s' : Scene) : Prop where
  late : o.late s = true → o.late s' = true
  sent : s'.remarks o.sent = s.remarks o.sent
  slept : s'.remarks o.slept = s.remarks o.slept

/-- What happens between two questions to a call: anything, but that a cancelled token stays so. -/
def Lookout.Stays (o : Lookout) (w v : World) : Prop :=
  o.late w.scene = true → o.late v.scene = true

/-- **A clock heeds a token** when a wait of a token that has been cancelled is interrupted, and no
wait touches the observer. -/
structure Clockwork.Heeds (o : Lookout) (k : Clockwork) : Prop where
  sleep : ∀ d s, o.late s = true → (k.sleep d (some o.token) s).1 = .error .interrupted
  pause : ∀ d s, o.late s = true → (k.pause d (some o.token) s).1 = .over (.error .interrupted)
  leaves_sleep : ∀ d s, o.Leaves s (k.sleep d (some o.token) s).2
  leaves_pause : ∀ d s, o.Leaves s (k.pause d (some o.token) s).2
  leaves_resume : ∀ mark s, o.Leaves s (k.resume mark (some o.token) s).2

/-- **A transport leaves a token alone,** or cancels it. -/
inductive Transport.Attends (o : Lookout) : Transport → Prop
  | blocking {send : Request → Act Result} (h : ∀ r s, o.Leaves s (send r s).2) :
    Attends o (.blocking send)
  | deferred {send : Request → Act (Result × Nat)} (h : ∀ r s, o.Leaves s (send r s).2) :
    Attends o (.deferred send)

/-- **Hooks keep the token of the request,** and leave it alone or cancel it. -/
structure Passage.Attends (o : Lookout) (p : Passage) : Prop where
  token : ∀ r s r', (p.enter r s).1 = .ok r' → r'.cancel = r.cancel
  enter : ∀ r s, o.Leaves s (p.enter r s).2
  leave : ∀ id x s, o.Leaves s (p.leave id x s).2

/-- The layers that come with a chain, and passages whose hooks attend to a token. -/
def Layer.Attends (o : Lookout) : Layer → Prop
  | .passage p => p.Attends o
  | .repeating .. => False
  | _ => True

/-! ## Runs that cannot be told apart -/

/-- **Two transports agree until after the point** at which the token is cancelled: on sends that
start before it, and on sends after it while there are no more than so many remarks. -/
inductive Transport.AgreesUntil (o : Lookout) (most : Nat) : Transport → Transport → Prop
  | blocking {send send' : Request → Act Result}
    (h : ∀ r s, (o.late s = true → s.remarks o.sent ≤ most) → send r s = send' r s) :
    AgreesUntil o most (.blocking send) (.blocking send')
  | deferred {send send' : Request → Act (Result × Nat)}
    (h : ∀ r s, (o.late s = true → s.remarks o.sent ≤ most) → send r s = send' r s) :
    AgreesUntil o most (.deferred send) (.deferred send')

theorem Transport.AgreesUntil.mono {o : Lookout} {t t' : Transport} {most fewer : Nat}
    (h : t.AgreesUntil o most t') (le : fewer ≤ most) : t.AgreesUntil o fewer t' := by
  cases h with
  | blocking h => exact .blocking fun r s few => h r s fun l => Nat.le_trans (few l) le
  | deferred h => exact .deferred fun r s few => h r s fun l => Nat.le_trans (few l) le

/-- **Two clocks agree until after the point** at which the token is cancelled: on waits that are
asked for before it, and on those after it that are interrupted. Of a token and a slot they see the
same one first. -/
structure Clockwork.AgreesUntil (o : Lookout) (k k' : Clockwork) : Prop where
  sleep : ∀ d token s, (o.late s = true → (k.sleep d token s).1 = .error .interrupted) →
    k'.sleep d token s = k.sleep d token s
  pause : ∀ d token s, (o.late s = true → (k.pause d token s).1 = .over (.error .interrupted)) →
    k'.pause d token s = k.pause d token s
  resume : ∀ mark token s, k'.resume mark token s = k.resume mark token s
  tokenFirst : ∀ token s, k'.tokenFirst token s = k.tokenFirst token s

theorem Transport.AgreesUntil.refl {o : Lookout} (t : Transport) (most : Nat) :
    t.AgreesUntil o most t := by
  cases t with
  | blocking send => exact .blocking fun _ _ _ => rfl
  | deferred send => exact .deferred fun _ _ _ => rfl

theorem Clockwork.AgreesUntil.refl {o : Lookout} (k : Clockwork) : k.AgreesUntil o k :=
  ⟨fun _ _ _ _ => rfl, fun _ _ _ _ => rfl, fun _ _ _ => rfl, fun _ _ => rfl⟩

/-- **A computation stops at a token.** Where it ends, at most one send has started late, and no
wait that was asked for late has been slept. Whether or not it ends, it goes the same way over any
transport and clock that agree up to there: neither a second late send nor a late wait that is
slept is ever reached. -/
structure Lookout.Stops {α : Type} (o : Lookout) (k : Clockwork) (t : Transport)
    (m : Clockwork → Transport → Run α) : Prop where
  ends : ∀ w v a, m (k.watched o) (t.watched o) w = .ok (a, v) →
    v.remarks o.sent ≤ w.remarks o.sent + 1 ∧ v.remarks o.slept = w.remarks o.slept
  unseen : ∀ w k' t', k.AgreesUntil o k' → t.AgreesUntil o (w.remarks o.sent + 1) t' →
    m (k'.watched o) (t'.watched o) w = m (k.watched o) (t.watched o) w

/-! ## Scenes -/

namespace Scene

variable (s : Scene) (line : String)

theorem remarks_log_note (line' : String) :
    (s.log (.note line')).remarks line = s.remarks line + if line' = line then 1 else 0 := by
  show List.countP _ (_ :: _) = _
  rw [List.countP_cons]
  by_cases same : line' = line
  · rw [if_pos same, if_pos (by rw [same]; exact beq_self_eq_true line)]
    rfl
  · rw [if_neg same, if_neg (by rw [Entry.isRemark, beq_iff_eq]; exact same)]
    rfl

theorem remarks_log_send (r : Request) : (s.log (.send r)).remarks line = s.remarks line :=
  List.countP_cons_of_neg Bool.false_ne_true

end Scene

namespace Lookout

variable (o : Lookout) {s s' s'' : Scene}

theorem Leaves.refl (s : Scene) : o.Leaves s s := ⟨id, rfl, rfl⟩

variable {o}

theorem Leaves.trans (h : o.Leaves s s') (h' : o.Leaves s' s'') : o.Leaves s s'' :=
  ⟨fun l => h'.late (h.late l), h'.sent.trans h.sent, h'.slept.trans h.slept⟩

/-- More tokens may be cancelled. -/
theorem Leaves.of_cancelled {c : List Token} (more : ∀ u ∈ s.cancelled, u ∈ c) :
    o.Leaves s { s with cancelled := c } where
  late late := List.contains_iff_mem.mpr (more _ (List.contains_iff_mem.mp late))
  sent := rfl
  slept := rfl

theorem leaves_cancel (t : Token) (s : Scene) : o.Leaves s (s.cancel t) := by
  obtain ⟨c, cancelled, members⟩ := s.cancel_eq t
  rw [cancelled]
  exact .of_cancelled fun u member => (members u).mpr (.inr member)

theorem leaves_askSleep (d : Duration) (s : Scene) : o.Leaves s (s.askSleep d) := by
  obtain ⟨c, asked, members⟩ := s.askSleep_eq d
  rw [asked]
  have more : o.Leaves s { s with cancelled := c } :=
    .of_cancelled fun u member => (members u).mpr (.inl member)
  exact ⟨more.late, List.countP_cons_of_neg Bool.false_ne_true,
    List.countP_cons_of_neg Bool.false_ne_true⟩

/-- A wait that is not slept late leaves no remark. -/
theorem noteSlept_of_interrupted {after : Scene} {slept : Bool}
    (h : o.late s = true → slept = false) : o.noteSlept s slept after = after := by
  rw [noteSlept]
  cases late : o.late s
  · rfl
  · rw [h late]
    rfl

end Lookout

/-! ## The account of a token -/

namespace Lookout

variable (o : Lookout)

/-- The sends to come that are late: so many as are left once the token has been cancelled, and one
at least before that, for it may be cancelled at any time. -/
def toCome (w : World) (n : Nat) : Nat := if o.late w.scene then n else max n 1

/-- **What may happen on the account of a token:** the late sends so far and to come never grow. -/
structure Pays (w : World) (n : Nat) (v : World) (m : Nat) : Prop where
  late : o.Stays w v
  slept : v.remarks o.slept = w.remarks o.slept
  sent : v.remarks o.sent + o.toCome v m ≤ w.remarks o.sent + o.toCome w n

variable {o} {w v : World} {n m : Nat}

theorem toCome_le (w : World) (le : m ≤ n) : o.toCome w m ≤ o.toCome w n := by
  rw [toCome, toCome]
  split <;> omega

/-- The token may be cancelled meanwhile. -/
theorem Stays.toCome_le (h : o.Stays w v) (n : Nat) : o.toCome v n ≤ o.toCome w n := by
  rw [toCome, toCome]
  cases before : o.late w.scene
  · cases o.late v.scene
    · exact Nat.le_refl _
    · exact Nat.le_max_left n 1
  · exact Nat.le_of_eq (by rw [h before])

/-- What leaves the observer alone is free. -/
theorem Leaves.pays (h : o.Leaves w.scene v.scene) (n : Nat) : o.Pays w n v n :=
  ⟨h.late, h.slept, Nat.add_le_add (Nat.le_of_eq h.sent) (Stays.toCome_le h.late n)⟩

/-- **Before the token is cancelled,** there may always be one more late send. -/
theorem Leaves.refill (h : o.Leaves w.scene v.scene) (early : o.late w.scene = false) (n : Nat) :
    o.Pays w n v 1 := by
  refine ⟨h.late, h.slept, ?_⟩
  rw [World.remarks, h.sent, toCome, toCome, early]
  show _ ≤ w.remarks o.sent + max n 1
  have : w.remarks o.sent = w.scene.remarks o.sent := rfl
  split <;> omega

theorem leaves_of_calm (h : w.Calm v) : o.Leaves w.scene v.scene := by
  refine ⟨?_, ?_, ?_⟩
  · rw [Lookout.late, Lookout.late, Scene.isCancelled, Scene.isCancelled, h.cancelled]
    exact id
  · rw [Scene.remarks, Scene.remarks, h.journal]
  · rw [Scene.remarks, Scene.remarks, h.journal]

theorem Pays.trans {u : World} {l : Nat} (h : o.Pays w n u l) (h' : o.Pays u l v m) :
    o.Pays w n v m :=
  ⟨fun l => h'.late (h.late l), h'.slept.trans h.slept, Nat.le_trans h'.sent h.sent⟩

/-- What is to come may be less. -/
theorem Pays.waste {l : Nat} (h : o.Pays w n v m) (le : l ≤ m) : o.Pays w n v l :=
  ⟨h.late, h.slept, Nat.le_trans (Nat.add_le_add_left (toCome_le v le) _) h.sent⟩

/-- **The account of a token:** requests that carry it, and two transports that agree on the late
sends so far and to come. -/
def account (o : Lookout) (t t' : Transport) : Account where
  Fits r := r.cancel = some o.token
  Stands w n := t.AgreesUntil o (w.remarks o.sent + o.toCome w n) t'
  Pays := o.Pays
  fits _ same h := same.trans h
  trans := Pays.trans
  calm h le := ((leaves_of_calm h).pays _).waste le
  stands h paid := h.mono paid.sent

end Lookout

/-! ## Sends -/

section Sends

variable {α : Type} {o : Lookout} {t t' : Transport} {w : World}

/-- A send under observation takes the late send that was to come. If it is early it is free, for
there may always be a late one after it. -/
theorem Lookout.pays_send {send : Request → Act α} (attends : ∀ r s, o.Leaves s (send r s).2)
    (r : Request) :
    o.Pays w 1
      { w with scene := (send r (o.noteSent (w.scene.log (.send r)))).2 } 0 := by
  have left := attends r (o.noteSent (w.scene.log (.send r)))
  generalize (send r (o.noteSent (w.scene.log (.send r)))).2 = after at left
  have now : o.late (w.scene.log (.send r)) = o.late w.scene := rfl
  rw [noteSent, now] at left
  cases late : o.late w.scene
  · rw [late] at left
    have early : o.Leaves w.scene after :=
      ⟨left.late, left.sent.trans (Scene.remarks_log_send _ _ _),
        left.slept.trans (Scene.remarks_log_send _ _ _)⟩
    exact (early.refill late 1).waste (Nat.zero_le 1)
  · rw [late] at left
    have stays : o.late after = true := left.late late
    refine ⟨fun _ => stays, ?_, ?_⟩
    · refine left.slept.trans ((Scene.remarks_log_note _ _ _).trans ?_)
      rw [if_neg o.distinct, Scene.remarks_log_send]
      rfl
    · have sent : after.remarks o.sent = w.scene.remarks o.sent + 1 := by
        refine left.sent.trans ((Scene.remarks_log_note _ _ _).trans ?_)
        rw [if_pos rfl, Scene.remarks_log_send]
      show after.remarks o.sent + (if o.late after then 0 else max 0 1) ≤
        w.scene.remarks o.sent + (if o.late w.scene then 1 else max 1 1)
      rw [stays, late, sent]
      exact Nat.le_refl _

/-- **Sends under observation are covered** by one late send to come. Transports agree on a send
that is early, and on the late one that was to come. -/
theorem Lookout.covers_send {send send' : Request → Act α}
    (attends : ∀ r s, o.Leaves s (send r s).2)
    (agree : ∀ w n, (o.account t t').Stands w n → ∀ r s,
      (o.late s = true → s.remarks o.sent ≤ w.remarks o.sent + o.toCome w n) → send r s = send' r s)
    (r : Request) :
    (o.account t t').Covers 1 (sendStarts r >>= fun _ => Run.act fun s => send r (o.noteSent s))
      (sendStarts r >>= fun _ => Run.act fun s => send' r (o.noteSent s)) Same := by
  intro w stands
  have begun : o.late (w.scene.log (.send r)) = o.late w.scene := rfl
  have same : send r (o.noteSent (w.scene.log (.send r))) =
      send' r (o.noteSent (w.scene.log (.send r))) := by
    refine agree w 1 stands r _ ?_
    rw [noteSent, begun, toCome]
    cases late : o.late w.scene
    · intro now
      exact absurd (begun.symm.trans now) (by rw [late]; exact Bool.false_ne_true)
    · intro _
      refine Nat.le_of_eq ((Scene.remarks_log_note _ _ _).trans ?_)
      rw [if_pos rfl, Scene.remarks_log_send]
      rfl
  show Account.Settles _ w 1 Same
    (.ok ((send r (o.noteSent (w.scene.log (.send r)))).1,
      { w with scene := (send r (o.noteSent (w.scene.log (.send r)))).2 }))
    (.ok ((send' r (o.noteSent (w.scene.log (.send r)))).1,
      { w with scene := (send' r (o.noteSent (w.scene.log (.send r)))).2 }))
  rw [← same]
  exact .ok rfl (pays_send attends r)

theorem Lookout.covers_sends {most : Nat} (attends : t.Attends o)
    (alike : t.AgreesUntil o most t') : (o.account t t').Sends 1 (t.watched o) (t'.watched o) := by
  cases alike with
  | blocking =>
    cases attends with
    | blocking leaves =>
      refine .blocking fun r _ => covers_send leaves (fun w n stands => ?_) r
      cases stands with
      | blocking h => exact h
  | deferred =>
    cases attends with
    | deferred leaves =>
      refine .deferred fun r _ => covers_send leaves (fun w n stands => ?_) r
      cases stands with
      | deferred h => exact h

end Sends

/-! ## Waits -/

namespace Clockwork

variable {o : Lookout} {k k' : Clockwork}

/-- A late wait of the token is not slept, so the observer has nothing to remark. -/
theorem Heeds.watched_sleep (heeds : k.Heeds o) (d : Duration) :
    (k.watched o).sleep d (some o.token) = k.sleep d (some o.token) := by
  funext s
  refine Prod.ext rfl (Lookout.noteSlept_of_interrupted ?_)
  intro late
  rw [heeds.sleep d s late]
  rfl

theorem Heeds.watched_pause (heeds : k.Heeds o) (d : Duration) :
    (k.watched o).pause d (some o.token) = k.pause d (some o.token) := by
  funext s
  refine Prod.ext rfl (Lookout.noteSlept_of_interrupted ?_)
  intro late
  rw [heeds.pause d s late]
  rfl

/-- Waits of the token go as far as the observer may see. -/
theorem Heeds.abides (heeds : k.Heeds o) : (k.watched o).Abides o.Leaves (some o.token) where
  refl := Lookout.Leaves.refl o
  trans := Lookout.Leaves.trans
  sleep d s := by
    rw [heeds.watched_sleep]
    exact heeds.leaves_sleep d s
  pause d s := by
    rw [heeds.watched_pause]
    exact heeds.leaves_pause d s
  resume := heeds.leaves_resume

/-- **Clocks that agree** up to the point answer waits of the token alike at all times, for a late
wait is interrupted. -/
theorem Heeds.agree_sleep (heeds : k.Heeds o) (agree : k.AgreesUntil o k') (d : Duration) :
    (k'.watched o).sleep d (some o.token) = (k.watched o).sleep d (some o.token) := by
  have same : k'.sleep d (some o.token) = k.sleep d (some o.token) :=
    funext fun s => agree.sleep d _ s (heeds.sleep d s)
  funext s
  show (_, o.noteSlept _ _ _) = (_, o.noteSlept _ _ _)
  rw [same]

theorem Heeds.agree_pause (heeds : k.Heeds o) (agree : k.AgreesUntil o k') (d : Duration) :
    (k'.watched o).pause d (some o.token) = (k.watched o).pause d (some o.token) := by
  have same : k'.pause d (some o.token) = k.pause d (some o.token) :=
    funext fun s => agree.pause d _ s (heeds.pause d s)
  funext s
  show (_, o.noteSlept _ _ _) = (_, o.noteSlept _ _ _)
  rw [same]

/-- A clock that moves by every wait at once interrupts those of a cancelled token. -/
theorem heeds_immediate (o : Lookout) : Clockwork.immediate.Heeds o := by
  have refused : ∀ d s, o.late s = true → s.sleep d (some o.token) =
      (.error .interrupted, s.askSleep d) := fun d s late => Scene.sleep_of_stopped late
  have leaves : ∀ d s, o.Leaves s (s.sleep d (some o.token)).2 := by
    intro d s
    have asked : o.Leaves s (s.askSleep d) := Lookout.leaves_askSleep d s
    rw [Scene.sleep]
    split
    · exact asked
    · exact asked.trans ⟨id, rfl, rfl⟩
  refine ⟨?_, ?_, leaves, leaves, fun mark s => .refl o s⟩
  · intro d s late
    exact congrArg Prod.fst (refused d s late)
  · intro d s late
    exact congrArg Pause.over (congrArg Prod.fst (refused d s late))

theorem AgreesUntil.agree_resume (agree : k.AgreesUntil o k') (mark : Nat) (token : Option Token) :
    (k'.watched o).resume mark token = (k.watched o).resume mark token :=
  funext fun s => agree.resume mark token s

end Clockwork

namespace Lookout

variable {o : Lookout} {t t' : Transport} {k k' : Clockwork}

/-- **A wait that is slept was asked for early,** so there may be one more late send after it. -/
theorem covers_wait {α : Type} {m : Act α} {slept : α → Prop} (leaves : ∀ s, o.Leaves s (m s).2)
    (refused : ∀ s, o.late s = true → ¬ slept (m s).1) (n : Nat) :
    (o.account t t').Covers n (Run.act m) (Run.act m)
      fun x x' left => x = x' ∧ (slept x → 1 ≤ left) := by
  refine .act fun w _ => ?_
  have left : o.Leaves w.scene { w with scene := (m w.scene).2 }.scene := leaves w.scene
  cases late : o.late w.scene
  · exact ⟨1, ⟨rfl, fun _ => Nat.le_refl 1⟩, left.refill late n⟩
  · exact ⟨n, ⟨rfl, fun slept => absurd slept (refused _ late)⟩, left.pays n⟩

/-- Waits under observation pay for one late send. Whatever one of them answers that is seen again, it
was asked for early. -/
theorem covers_waits (heeds : k.Heeds o) (agree : k.AgreesUntil o k') :
    (o.account t t').Waits (k.watched o) (k'.watched o) 0 1 where
  sleep {r n} d fits _ := by
    rw [show r.cancel = some o.token from fits]
    have same : Run.sleepOn (k'.watched o) d (some o.token) =
        Run.sleepOn (k.watched o) d (some o.token) :=
      congrArg Run.act (heeds.agree_sleep agree d)
    rw [same]
    refine covers_wait (heeds.abides.sleep d) (fun s late => ?_) n
    rw [heeds.watched_sleep, heeds.sleep d s late]
    exact fun slept => nomatch slept
  pause {r n} d fits _ := by
    rw [show r.cancel = some o.token from fits]
    have same : Run.pause (k'.watched o) d (some o.token) =
        Run.pause (k.watched o) d (some o.token) :=
      congrArg Run.act (heeds.agree_pause agree d)
    rw [same]
    refine covers_wait (heeds.abides.pause d) (fun s late => ?_) n
    rw [heeds.watched_pause, heeds.pause d s late]
    exact fun slept => slept _ rfl
  resume {r} mark fits := by
    rw [show r.cancel = some o.token from fits]
    have same : Run.resume (k'.watched o) mark (some o.token) =
        Run.resume (k.watched o) mark (some o.token) :=
      congrArg Run.act (agree.agree_resume mark _)
    rw [same]
    refine .act fun w _ => ⟨1, ⟨rfl, fun _ => Nat.le_refl 1⟩, ?_⟩
    exact Leaves.pays (heeds.leaves_resume mark w.scene) 1

end Lookout

/-! ## Limiters -/

namespace Lookout

variable {o : Lookout} {t t' : Transport} {k k' : Clockwork}

/-- What happens at a limiter leaves the observer alone when it does so with the scene. -/
theorem covers_atGate {α : Type} {place n : Nat} {m : GateT α}
    (leaves : ∀ g g' a, m g = .ok (a, g') → o.Leaves g.scene g'.scene) :
    (o.account t t').Covers n (Run.atGate place m) (Run.atGate place m)
      fun a b left => a = b ∧ left = n :=
  .atGate fun _ _ _ ended => Leaves.pays (leaves _ _ _ ended) n

theorem pays_once {m : GateM Unit} {held held' : Nat} (place : Nat) (w : World)
    (turn : ∀ g, Gate.Turn o.Leaves held 0 held' g (m g).2) (n : Nat) :
    o.Pays w n (w.once m place) n :=
  Leaves.pays (turn (w.gate place)).scene n

/-- **Limiters are no way to a late send:** admission only waits. -/
theorem covers_admits (heeds : k.Heeds o) (agree : k.AgreesUntil o k') (place : Nat) :
    (o.account t t').Admits (k.watched o) (k'.watched o) place 1 1 where
  acquire {r} fits := by
    rw [show r.cancel = some o.token from fits]
    rw [Gate.acquireOn_congr (heeds.agree_sleep agree)]
    refine (covers_atGate fun g g' a ran => ?_).mono ?_
    · exact (Gate.turns_acquireOn heeds.abides ran).scene
    · rintro a _ _ ⟨rfl, rfl⟩
      exact ⟨rfl, fun _ => Nat.le_refl 1⟩
  tryAcquire := by
    refine (covers_atGate (m := Gate.now Gate.tryAcquire) fun g g' a ran => ?_).mono ?_
    · obtain ⟨rfl, rfl⟩ := Prod.mk.inj (Except.ok.inj ran)
      exact (Gate.turn_tryAcquire heeds.abides g).scene
    · rintro a _ _ ⟨rfl, rfl⟩
      exact ⟨rfl, Nat.le_of_eq (ite_self 1)⟩
  poll {r} stage fits := by
    rw [show r.cancel = some o.token from fits]
    rw [Gate.pollAcquire_congr (heeds.agree_pause agree) (agree.agree_resume · _)
      (funext (agree.tokenFirst _))]
    refine (covers_atGate fun g g' a ran => ?_).mono ?_
    · exact (Gate.turns_pollAcquire heeds.abides stage ran).scene
    · rintro a _ _ ⟨rfl, rfl⟩
      exact ⟨rfl, fun _ => Nat.le_refl 1, fun _ _ => Nat.le_refl 1⟩
  dropPermit w := pays_once place w (Gate.turn_dropPermit heeds.abides)
  dropAcquire stage w := pays_once place w (Gate.turn_dropAcquire heeds.abides stage)

/-! ## Chains -/

/-- **Each layer costs one late send to come,** as the rest of the chain does. -/
theorem costs_layer (heeds : k.Heeds o) (agree : k.AgreesUntil o k') {l : Layer}
    (attends : l.Attends o) :
    l.Costs (o.account t t') (k.watched o) (k'.watched o) 1 1 := by
  cases l with
  | requestId => exact .requestId 1
  | tracing => exact .tracing 1
  | deadline timeouts => exact .deadline timeouts 1
  | retry p => exact .retry_of_waits p (covers_waits heeds agree)
  | rateLimit place => exact .rateLimit (covers_admits heeds agree place)
  | passage p =>
    refine .passage ⟨?_, ?_, ?_⟩ 1
    · intro r s r' fits went
      exact (attends.token r s r' went).trans fits
    · intro r w n
      exact Leaves.pays (attends.enter r w.scene) n
    · intro id x w n
      exact Leaves.pays (attends.leave id x w.scene) n
  | repeating name order times => exact attends.elim

theorem prices_layers (heeds : k.Heeds o) (agree : k.AgreesUntil o k') {layers : List Layer}
    (attends : ∀ l ∈ layers, l.Attends o) :
    (o.account t t').Prices (k.watched o) (k'.watched o) 1 layers 1 := by
  induction layers with
  | nil => exact .nil
  | cons l rest ih =>
    refine .cons (costs_layer heeds agree (attends l List.mem_cons_self)) (ih ?_)
    exact fun l' member => attends l' (List.mem_cons_of_mem l member)

/-- One late send is to come, whether or not the token has been cancelled. -/
theorem toCome_one (w : World) : o.toCome w 1 = 1 := ite_self 1

/-- **A computation stops at a token** when it is covered by one late send to come, whatever
transport and clock it is run over besides its own. -/
theorem stops_of_covers {α : Type} {m : Clockwork → Transport → Run α}
    (h : ∀ k' t' most, k.AgreesUntil o k' → t.AgreesUntil o most t' →
      (o.account t t').Covers 1 (m (k.watched o) (t.watched o)) (m (k'.watched o) (t'.watched o))
        Same) : o.Stops k t m where
  ends w v a ran := by
    have stands : (o.account t t).Stands w 1 := .refl t _
    obtain ⟨left, -, paid⟩ := (h k t 0 (.refl k) (.refl t 0)).paid stands ran
    have sent := paid.sent
    rw [toCome_one] at sent
    exact ⟨Nat.le_trans (Nat.le_add_right _ _) sent, paid.slept⟩
  unseen w k' t' agree alike := by
    have stands : (o.account t t').Stands w 1 := by
      show t.AgreesUntil o (w.remarks o.sent + o.toCome w 1) t'
      rw [toCome_one]
      exact alike
    exact ((h k' t' _ agree alike).eq stands).symm

section Course

variable {e : Engine} {rel : e.State → e.State → Nat → Prop} {r : Request} {v : World}
  {p : Progress e.State} {steps : List (World × World)}

/-- **The late sends of a call in progress** are taken from the one that was to come. The late sends
to come are the potential: what a step sends late is taken from them, and nothing that happens in
between adds to them. -/
theorem late_le_one (covered : Engine.Covered (o.account t t) 1 e e rel)
    (carries : r.cancel = some o.token)
    (course : e.Course (fun _ => o.Stays) r w p v steps) :
    ownChange (World.remarks o.sent) steps ≤ 1 := by
  let potential : World → Nat → Int := fun w n => o.toCome w n
  have pays : ∀ w v n m, o.Pays w n v m →
      (v.remarks o.sent : Int) - w.remarks o.sent + potential v m ≤ potential w n := by
    intro w v n m paid
    have sent := paid.sent
    simp only [potential]
    omega
  have survives : ∀ (steps : List (World × World)) u w n, o.Stays u w →
      (o.account t t).Stands u n → (o.account t t).Stands w n ∧ potential w n ≤ potential u n :=
    fun _ _ _ _ stays _ => ⟨.refl t _, Int.ofNat_le.mpr (stays.toCome_le _)⟩
  obtain ⟨left, -, -, few⟩ := covered.course pays survives course carries (.refl t _)
  simp only [potential, toCome_one] at few
  omega

/-- **A call in progress sleeps no wait** that it asked for late. -/
theorem slept_le_zero (covered : Engine.Covered (o.account t t) 1 e e rel)
    (carries : r.cancel = some o.token)
    (course : e.Course (fun _ => o.Stays) r w p v steps) :
    ownChange (World.remarks o.slept) steps ≤ 0 := by
  have pays : ∀ w v n m, o.Pays w n v m →
      (v.remarks o.slept : Int) - w.remarks o.slept + 0 ≤ 0 := by
    intro w v n m paid
    rw [paid.slept]
    omega
  obtain ⟨left, -, -, few⟩ := covered.course pays
    (fun _ _ _ _ _ _ => ⟨.refl t _, Int.le_refl 0⟩) course carries (.refl t _)
  omega

end Course

end Lookout

namespace Chain

variable {o : Lookout} {layers : List Layer} {t : Transport} {k : Clockwork}

/-- **Cancellation stops repetitions.** Take any layers in any order, but those that run the rest of
the chain several times by themselves, with policies and limiters at will and with hooks that keep
the token of the request, over a clock that interrupts waits of a cancelled token. Once the token of
a request has been cancelled, be it before the call, in a hook, in a send or in a wait,

* a blocking call starts one more send at most, and no wait that it asks for is slept;
* so does an asynchronous call that is brought to its end, and neither gets further before it halts;
* so does an asynchronous call in progress, whatever happens between two questions to it, and even
  when the token is cancelled there. -/
theorem cancellation_stops_replays (attends : ∀ l ∈ layers, l.Attends o) (transport : t.Attends o)
    (heeds : k.Heeds o) {r : Request} (carries : r.cancel = some o.token) :
    (∀ caller, o.Stops k t fun k t => (build layers t).callOn k caller r) ∧
    o.Stops k t (fun k t => ((build layers t).engineOn k).run r) ∧
    ∀ w v p steps, ((build layers (t.watched o)).engineOn (k.watched o)).Course (fun _ => o.Stays)
      r w p v steps →
        ownChange (World.remarks o.sent) steps ≤ 1 ∧
        ownChange (World.remarks o.slept) steps ≤ 0 := by
  have each : ∀ l ∈ arrange layers, l.Attends o := fun l member =>
    attends l (List.mem_mergeSort.mp member)
  refine ⟨fun caller => ?_, ?_, ?_⟩
  · refine Lookout.stops_of_covers fun k' t' most agree alike => ?_
    exact covers_handlerOn (Lookout.covers_sends transport alike)
      (Lookout.prices_layers heeds agree each) caller r carries
  · refine Lookout.stops_of_covers fun k' t' most agree alike => ?_
    obtain ⟨rel, covered⟩ := covered_engineOf (Lookout.covers_sends transport alike)
      (Lookout.prices_layers heeds agree each)
    exact covered.run carries
  · intro w v p steps course
    obtain ⟨rel, covered⟩ := covered_engineOf (Lookout.covers_sends transport (.refl t 0))
      (Lookout.prices_layers heeds (.refl k) each)
    exact ⟨Lookout.late_le_one covered carries course,
      Lookout.slept_le_zero covered carries course⟩

/-- An observer of the first token. -/
def sentry : Lookout := ⟨0, "sent late", "slept late", by decide⟩

/-- A transport that is not available, and during whose sends the first token is cancelled. -/
def abandoned (r : Request) : Act Result := fun s => ((Layer.unavailable r s).1, s.cancel 0)

/-- A policy that takes any failure for one in passing, also that of an interrupted call. -/
def stubborn : RetryPolicy :=
  ⟨{ Layer.steadyPolicy.rules with failureTest := some fun _ => true }, Layer.steadyPolicy.sound⟩

/-- Layers that repeat calls whatever their failures, around a limiter. -/
def insistent : List Layer := [.retry stubborn, .retry stubborn, .rateLimit 0]

/-- A call with those layers that is cancelled during a send stops there. -/
theorem cancellation_stops_replays_abandoned :
    (∀ l ∈ insistent, l.Attends sentry) ∧ (Transport.blocking abandoned).Attends sentry ∧
    Clockwork.immediate.Heeds sentry ∧
    sentry.Stops .immediate (.blocking abandoned) (fun k t =>
      (build insistent t).callOn k .thread { Layer.fetch with cancel := some 0 }) ∧
    sentry.Stops .immediate (.blocking abandoned) (fun k t =>
      ((build insistent t).engineOn k).run { Layer.fetch with cancel := some 0 }) := by
  have attends : ∀ l ∈ insistent, l.Attends sentry := by
    intro l member
    simp only [insistent, List.mem_cons, List.not_mem_nil, or_false] at member
    rcases member with rfl | rfl | rfl
    all_goals exact trivial
  have transport : (Transport.blocking abandoned).Attends sentry :=
    .blocking fun _ s => Lookout.leaves_cancel 0 s
  have heeds := Clockwork.heeds_immediate sentry
  have stops := cancellation_stops_replays attends transport heeds
    (r := { Layer.fetch with cancel := some 0 }) rfl
  exact ⟨attends, transport, heeds, stops.1 .thread, stops.2.1⟩

end Chain

end Outbound
