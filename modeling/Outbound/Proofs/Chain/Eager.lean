import Outbound.Proofs.Chain.Onion
import Outbound.Proofs.Chain.Retry
import Outbound.Proofs.Chain.Turn
import Outbound.Proofs.Limiter.Recorded

/-!
# What happens when a call starts

An asynchronous call over a blocking transport is started long before anything is sent: its layers
look at the request one after the other, until one of them turns back, refuses it or has to wait.
That is all. Whatever was done for the way out, slots included, is undone when the call is given up
without having been asked.

## Main definitions

* `Layer.entry`: what a layer does with a request on the way in
* `Chain.wayIn`: the ways in of layers, one after the other
* `Scene.Rests`: nothing was sent and nobody waited
* `Engine.Returns`: calls that, once started, hold what giving them up gives back

## Main results

* `Layer.starts_engine`: a layer starts with its own way in, then starts the rest
* `Layer.returns_engine`: a layer around calls that give back gives back
* `Chain.start_eq_wayIn`, `Chain.start_eager`: starting a call
-/

namespace Outbound

/-! ## Ways in -/

/-- **What a layer does with a request on the way in,** with so many layers behind it: the request
that goes on, if it does. -/
def Layer.entry (remaining : Nat) : Layer → Request → Run (Option Request)
  | .requestId, r => do pure (some (← RequestId.assign r))
  | .tracing, r => do
    Tracing.begin r
    pure (some r)
  | .deadline timeouts, r =>
    match timeouts.apply r with
    | .error _ => pure none
    | .ok (_, r) => pure (some r)
  | .retry _, r => pure (some r)
  | .rateLimit place, r => do
    if ← Run.atGateOnce place Gate.tryAcquire then pure (some r)
    -- A caller that will wait is not refused, and nothing is recorded of it yet.
    else if ((← get).gate place).limiter.config.block then pure none
    else do
      let _ ← Admission.refuse place r
      pure none
  | .passage p, r => do
    match ← Run.act (p.enter r) with
    | .error _ => pure none
    | .ok r => pure (some r)
  | .repeating name _ _, _ => do
    Run.note (repeatingNote name remaining)
    pure none

/-- **The ways in of layers, one after the other,** up to the first that lets nothing go on; how
many let the request go on. -/
def Chain.wayIn : List Layer → Request → Run Nat
  | [], _ => pure 0
  | l :: rest, r => do
    match ← l.entry rest.length r with
    | none => pure 0
    | some r => do pure ((← wayIn rest r) + 1)

namespace RequestId

theorem assign_ok (r : Request) (w : World) : ∃ r' v, assign r w = .ok (r', v) := by
  unfold assign
  cases existing? r with
  | some id => exact ⟨_, _, rfl⟩
  | none => exact ⟨_, _, rfl⟩

end RequestId

namespace Layer

variable {k : Clockwork} {e : Engine} {l : Layer} {remaining : Nat} {r r' : Request} {w u v : World}

/-- **A layer starts with its own way in.** It is over when that lets nothing go on; otherwise the
rest of the chain starts with what goes on. -/
structure Starts (k : Clockwork) (remaining : Nat) (e : Engine) (l : Layer) (r : Request) (w : World)
    (o : Option Request) (u : World) : Prop where
  entry : l.entry remaining r w = .ok (o, u)
  stops : o = none → ∃ s, (l.engine k remaining e).start r w = .ok (s, u)
  goesOn : ∀ r' s v, o = some r' → e.start r' u = .ok (s, v) →
    ∃ s', (l.engine k remaining e).start r w = .ok (s', v)

theorem starts_requestId : ∃ o u, Starts k remaining e .requestId r w o u := by
  obtain ⟨r', u, assigned⟩ := RequestId.assign_ok r w
  refine ⟨some r', u, ?_, nofun, ?_⟩
  · show (RequestId.assign r >>= fun r => pure (some r)) w = _
    rw [bind_of_ok assigned]
    rfl
  · rintro _ s v ⟨⟩ started
    refine ⟨s, ?_⟩
    show (RequestId.assign r >>= fun r => e.start r) w = _
    rw [bind_of_ok assigned]
    exact started

theorem starts_tracing : ∃ o u, Starts k remaining e .tracing r w o u := by
  obtain ⟨u, begun⟩ : ∃ u, Tracing.begin r w = .ok ((), u) := ⟨_, rfl⟩
  refine ⟨some r, u, ?_, nofun, ?_⟩
  · show (Tracing.begin r >>= fun _ => pure (some r)) w = _
    rw [bind_of_ok begun]
    rfl
  · rintro _ s v ⟨⟩ started
    let kept : Traced := ⟨r.method, r.context, w.scene.wallMillis⟩
    refine ⟨.running kept s, ?_⟩
    show (Tracing.begin r >>= fun _ => e.start r >>= fun s => pure (Guarded.running kept s)) w = _
    rw [bind_of_ok begun, bind_of_ok started]
    rfl

theorem starts_deadline (timeouts : Timeouts) :
    ∃ o u, Starts k remaining e (.deadline timeouts) r w o u := by
  rcases applied : timeouts.apply r with f | ⟨limit, r'⟩
  · refine ⟨none, w, ?_, fun _ => ⟨.failed f, ?_⟩, nofun⟩
    · simp only [Layer.entry, applied]
      rfl
    · simp only [engine, deadlineEngine, applied]
      rfl
  · refine ⟨some r', w, ?_, nofun, ?_⟩
    · simp only [Layer.entry, applied]
      rfl
    · rintro _ s v ⟨⟩ started
      refine ⟨.running limit none s, ?_⟩
      simp only [engine, deadlineEngine, applied]
      exact bind_of_ok started _

theorem act_ok {α : Type} {m : Act α} {a : α} {s : Scene} (done : m w.scene = (a, s)) :
    Run.act m w = .ok (a, { w with scene := s }) := by
  simp only [Run.act, done]

theorem starts_passage (p : Passage) : ∃ o u, Starts k remaining e (.passage p) r w o u := by
  rcases done : p.enter r w.scene with ⟨x | r', s'⟩
  · refine ⟨none, { w with scene := s' }, ?_, fun _ => ⟨.settled x, ?_⟩, nofun⟩
    · show (Run.act (p.enter r) >>= fun x => _) w = _
      rw [bind_of_ok (act_ok done)]
      rfl
    · show (Run.act (p.enter r) >>= fun x => _) w = _
      rw [bind_of_ok (act_ok done)]
      rfl
  · refine ⟨some r', { w with scene := s' }, ?_, nofun, ?_⟩
    · show (Run.act (p.enter r) >>= fun x => _) w = _
      rw [bind_of_ok (act_ok done)]
      rfl
    · rintro _ s v ⟨⟩ started
      refine ⟨.running r'.context s, ?_⟩
      show (Run.act (p.enter r) >>= fun x => _) w = _
      rw [bind_of_ok (act_ok done)]
      exact bind_of_ok started _

/-- A limiter that admits a request at once lets it go on; any other request stops here. -/
theorem starts_rateLimit (place : Nat) : ∃ o u, Starts k remaining e (.rateLimit place) r w o u := by
  obtain ⟨b, u, tried⟩ : ∃ b u, Run.atGateOnce place Gate.tryAcquire w = .ok (b, u) :=
    ⟨_, _, rfl⟩
  have entered : Layer.entry remaining (.rateLimit place) r w =
      (if b then pure (some r)
        else if (u.gate place).limiter.config.block then pure none
        else Admission.refuse place r >>= fun _ => pure none : Run (Option Request)) u := by
    show (Run.atGateOnce place Gate.tryAcquire >>= fun b => _) w = _
    rw [bind_of_ok tried]
    cases b <;> rfl
  have started : ((Layer.rateLimit place).engine k remaining e).start r w =
      (if b then e.start r >>= fun s => pure (.admitted s)
        else if (u.gate place).limiter.config.block then pure (.waiting r .fresh)
        else Admission.refuse place r >>= fun f => pure (.refused f) :
        Run (Admitting e.State)) u := by
    show (Run.atGateOnce place Gate.tryAcquire >>= fun b => _) w = _
    rw [bind_of_ok tried]
    cases b <;> rfl
  rcases b with _ | _
  · rcases waits : (u.gate place).limiter.config.block with _ | _
    · obtain ⟨f, v, refused⟩ : ∃ f v, Admission.refuse place r u = .ok (f, v) := ⟨_, _, rfl⟩
      rw [waits] at entered started
      exact ⟨none, v, entered.trans (bind_of_ok refused _),
        fun _ => ⟨.refused f, started.trans (bind_of_ok refused _)⟩, nofun⟩
    · rw [waits] at entered started
      exact ⟨none, u, entered, fun _ => ⟨.waiting r .fresh, started⟩, nofun⟩
  · refine ⟨some r, _, entered, nofun, ?_⟩
    rintro _ s v ⟨⟩ rest
    exact ⟨_, started.trans (bind_of_ok rest _)⟩

theorem starts_engine (k : Clockwork) (remaining : Nat) (e : Engine) (l : Layer) (r : Request)
    (w : World) : ∃ o u, Starts k remaining e l r w o u := by
  cases l with
  | requestId => exact starts_requestId
  | tracing => exact starts_tracing
  | deadline timeouts => exact starts_deadline timeouts
  | retry p => exact ⟨some r, w, rfl, nofun, fun _ s v same started => by
      obtain rfl := Option.some.inj same
      exact ⟨_, bind_of_ok started _⟩⟩
  | rateLimit place => exact starts_rateLimit place
  | passage p => exact starts_passage p
  | repeating name order times => exact ⟨none, _, rfl, fun _ => ⟨_, rfl⟩, nofun⟩

end Layer

/-- **Starting a call goes through the ways in,** and leaves the world as they do. -/
theorem Chain.start_eq_wayIn (k : Clockwork) (send : Request → Act Result) (layers : List Layer)
    (r : Request) (w : World) :
    ∃ s v n, (engineOf k (.blocking send) layers).start r w = .ok (s, v) ∧
      wayIn layers r w = .ok (n, v) := by
  induction layers generalizing r w with
  | nil => exact ⟨.unsent r, w, 0, rfl, rfl⟩
  | cons l rest ih =>
    obtain ⟨o, u, starts⟩ :=
      l.starts_engine k rest.length (engineOf k (.blocking send) rest) r w
    cases o with
    | none =>
      obtain ⟨s, started⟩ := starts.stops rfl
      refine ⟨s, u, 0, started, ?_⟩
      show (l.entry rest.length r >>= fun o => _) w = _
      rw [bind_of_ok starts.entry]
      rfl
    | some r' =>
      obtain ⟨s, v, n, started, went⟩ := ih r' u
      obtain ⟨s', started'⟩ := starts.goesOn r' s v rfl started
      refine ⟨s', v, n + 1, started', ?_⟩
      show (l.entry rest.length r >>= fun o => _) w = _
      rw [bind_of_ok starts.entry]
      exact bind_of_ok went _

/-! ## At rest -/

/-- Whether an entry of the journal is a send or a wait. -/
def Entry.isDeed : Entry → Bool
  | .send _ => true
  | .sleep _ => true
  | .note _ => false

/-- **Nothing was sent and nobody waited:** no such entry of the journal, and the clock as it was. -/
structure Scene.Rests (s s' : Scene) : Prop where
  journal : s'.journal.filter Entry.isDeed = s.journal.filter Entry.isDeed
  clock : s'.clock = s.clock

theorem Scene.Rests.refl (s : Scene) : s.Rests s := ⟨rfl, rfl⟩

/-- Whether a series is one of limiters. -/
def Series.isOfLimiter : Series → Bool
  | .decisions _ _ => true
  | .inFlight _ => true
  | .windowBuckets _ => true
  | _ => false

/-- **Nothing was sent, nobody waited,** and only limiters counted anything. -/
structure World.Rests (w v : World) : Prop where
  scene : w.scene.Rests v.scene
  counts : ∀ s : Series, s.isOfLimiter = false →
    v.telemetry.metrics.value s = w.telemetry.metrics.value s

namespace World.Rests

theorem refl (w : World) : w.Rests w := ⟨.refl _, fun _ _ => rfl⟩

theorem trans {w u v : World} (h : w.Rests u) (h' : u.Rests v) : w.Rests v where
  scene := ⟨h'.scene.journal.trans h.scene.journal, h'.scene.clock.trans h.scene.clock⟩
  counts s other := (h'.counts s other).trans (h.counts s other)

end World.Rests

/-- A computation during which nothing is sent and nobody waits. -/
def Run.Rests {α : Type} (m : Run α) : Prop := ∀ ⦃w v : World⦄ ⦃a : α⦄, m w = .ok (a, v) → w.Rests v

namespace Run.Rests

variable {α β : Type} {m : Run α}

theorem pure (a : α) : Run.Rests (pure a) := by
  intro w v b ran
  cases ran
  exact .refl w

theorem bind {f : α → Run β} (h : m.Rests) (next : ∀ a, (f a).Rests) : (m >>= f).Rests := by
  intro w v b ran
  obtain ⟨a, u, first, second⟩ := ok_of_bind ran
  exact (h first).trans (next a second)

theorem act {m : Act α} (h : ∀ s : Scene, s.Rests (m s).2) : (Run.act m).Rests := by
  intro w v a ran
  obtain ⟨rfl, rfl⟩ := Prod.mk.inj (Except.ok.inj ran)
  exact ⟨h w.scene, fun _ _ => rfl⟩

theorem remember (id : ContextId) (key : String) (value : Json) :
    (Run.remember id key value).Rests := act fun _ => ⟨rfl, rfl⟩

theorem draw : Run.draw.Rests := by
  intro w v a ran
  cases ran
  exact ⟨.refl _, fun _ _ => rfl⟩

theorem get : (get : Run World).Rests := by
  intro w v a ran
  cases ran
  exact .refl w

/-- Records of the trace. -/
theorem observe (f : Telemetry → Telemetry) (h : ∀ t, (f t).metrics = t.metrics) :
    (Run.observe f).Rests := by
  intro w v a ran
  cases ran
  exact ⟨.refl _, fun s _ => congrArg (fun m => Metrics.value m s) (h w.telemetry)⟩

theorem event (level : Level) (message : String) (fields : List (String × String)) :
    (Run.event level message fields).Rests := observe _ fun _ => rfl

end Run.Rests

namespace Gate

variable (g : Gate)

@[simp] theorem scene_tryAcquire : (tryAcquire g).2.scene = g.scene := by
  rw [tryAcquire_eq]
  split
  · show (conclude _ _).2.scene = _
    rw [scene_conclude]
    exact scene_tryTakeSlot g
  · exact scene_record g false

variable {s : Series}

/-- Series that are not of limiters include no gauge of one. -/
theorem ne_inFlight (other : s.isOfLimiter = false) (strategy : Strategy) :
    s ≠ .inFlight strategy := by
  rintro rfl
  cases other

theorem value_record (other : s.isOfLimiter = false) (granted : Bool) :
    (record granted g).2.telemetry.metrics.value s = g.telemetry.metrics.value s := by
  rw [metrics_record, value_noteInFlight (ne_inFlight other)]
  refine (Metrics.value_count _ _ _).trans (if_neg ?_)
  rintro rfl
  cases other

theorem value_tryAcquire (other : s.isOfLimiter = false) :
    (tryAcquire g).2.telemetry.metrics.value s = g.telemetry.metrics.value s := by
  have slot : (tryTakeSlot g).2.telemetry = g.telemetry := telemetry_tryTakeSlot g
  rw [tryAcquire_eq]
  split
  · show (conclude (.ok (attempt (tryTakeSlot g).2).1.isGranted)
      (attempt (tryTakeSlot g).2).2).2.telemetry.metrics.value s = _
    have tried : (attempt (tryTakeSlot g).2).2.telemetry = g.telemetry := slot
    rcases (attempt (tryTakeSlot g).2).1.isGranted with _ | _
    · show (record false (release _).2).2.telemetry.metrics.value s = _
      rw [value_record _ other, value_release (ne_inFlight other), tried]
    · show (record true _).2.telemetry.metrics.value s = _
      rw [value_record _ other, tried]
  · exact value_record g other false

end Gate

namespace Layer

theorem rests_tryAcquire (place : Nat) : (Run.atGateOnce place Gate.tryAcquire).Rests := by
  intro w v b ran
  obtain ⟨rfl, rfl⟩ := Prod.mk.inj (Except.ok.inj ran)
  refine ⟨?_, fun s other => Gate.value_tryAcquire (w.gate place) other⟩
  have same : (w.once Gate.tryAcquire place).scene = w.scene := Gate.scene_tryAcquire (w.gate place)
  exact same ▸ .refl w.scene

/-- **A way in sends nothing and does not wait,** unless a hook of its own does. -/
theorem rests_entry {l : Layer} (hooks : ∀ p, l = .passage p → ∀ r (s : Scene), s.Rests (p.enter r s).2)
    (remaining : Nat) (r : Request) : (l.entry remaining r).Rests := by
  cases l with
  | requestId =>
    refine .bind ?_ fun _ => .pure _
    unfold RequestId.assign
    cases RequestId.existing? r with
    | some id => exact (Run.Rests.remember _ _ _).bind fun _ => .pure _
    | none =>
      refine Run.Rests.draw.bind fun high => Run.Rests.draw.bind fun low => ?_
      exact (Run.Rests.remember _ _ _).bind fun _ => .pure _
  | tracing =>
    refine .bind ?_ fun _ => .pure _
    refine Run.Rests.get.bind fun w => ?_
    refine (Run.Rests.observe (Telemetry.span _ _) fun _ => rfl).bind fun _ => ?_
    exact (Run.Rests.remember _ _ _).bind fun _ => .event _ _ _
  | deadline timeouts =>
    unfold entry
    dsimp only
    split
    · exact .pure _
    · exact .pure _
  | retry p => exact .pure _
  | rateLimit place =>
    refine (rests_tryAcquire place).bind fun b => ?_
    split
    · exact .pure _
    · refine Run.Rests.get.bind fun w => ?_
      split
      · exact .pure _
      · refine .bind ?_ fun _ => .pure _
        refine Run.Rests.get.bind fun w => ?_
        exact (Run.Rests.event _ _ _).bind fun _ => .pure _
  | passage p =>
    refine (Run.Rests.act (hooks p rfl r)).bind fun x => ?_
    split
    · exact .pure _
    · exact .pure _
  | repeating name order times =>
    exact (Run.Rests.act fun s => ⟨rfl, rfl⟩).bind fun _ => .pure _

end Layer

theorem Chain.rests_wayIn {layers : List Layer}
    (hooks : ∀ p, .passage p ∈ layers → ∀ r (s : Scene), s.Rests (p.enter r s).2) (r : Request) :
    (wayIn layers r).Rests := by
  induction layers generalizing r with
  | nil => exact .pure _
  | cons l rest ih =>
    have own := Layer.rests_entry (l := l)
      (fun p same => hooks p (same ▸ List.mem_cons_self)) rest.length r
    refine own.bind fun o => ?_
    cases o with
    | none => exact .pure _
    | some r' =>
      have others := ih (fun p mem => hooks p (List.mem_cons_of_mem l mem)) r'
      exact others.bind fun _ => .pure _

/-! ## Giving up a call that has started -/

variable {place : Nat}

/-- **Calls that, once started, hold what giving them up gives back,** whatever happened since. -/
def Engine.Returns (place : Nat) (e : Engine) : Prop :=
  ∀ ⦃r : Request⦄ ⦃w v : World⦄ ⦃s : e.State⦄, e.start r w = .ok (s, v) →
    ∃ held, w.Holds place 0 held v ∧ ∀ u : World, u.Holds place held 0 (e.drop s u)

/-- A call over a blocking transport holds nothing before it is asked. -/
theorem Engine.returns_blocking (send : Request → Act Result) :
    (ofTransport (.blocking send)).Returns place := by
  intro r w v s ran
  cases ran
  exact ⟨0, .refl 0 w, fun u => .refl 0 u⟩

namespace Layer

variable {e : Engine}

/-- A call at a limiter gives back what it holds when it is given up. It holds nothing while it
waits or once it is refused; otherwise the rest of the chain is given up first, while the slot is
still taken. -/
theorem returns_admissionEngine (k : Clockwork) (h : e.Returns place) (p : Nat) :
    (admissionEngine k p e).Returns place := by
  intro r w v s ran
  obtain ⟨b, u, tried, next⟩ := ok_of_bind ran
  have taken : w.Holds place 0 (if place = p then b.toNat else 0) u := holds_tryAcquire p tried
  rcases b with _ | _
  · rw [show (if place = p then false.toNat else 0) = 0 from ite_self 0] at taken
    change (if (u.gate p).limiter.config.block then pure (.waiting r .fresh)
      else Admission.refuse p r >>= fun f => pure (.refused f) : Run (Admitting e.State)) u = _
      at next
    split at next
    · cases next
      refine ⟨0, taken, fun u => ?_⟩
      have left := (World.turn_dropAcquire p .fresh u).holds place
      rwa [show (if place = p then Acquiring.held .fresh else 0) = 0 from ite_self 0] at left
    · obtain ⟨f, u', refused, ended⟩ := ok_of_bind next
      cases ended
      exact ⟨0, taken.trans (.of_calm (Admission.calms_refuse p r refused).1 0), fun u => .refl 0 u⟩
  · obtain ⟨s', v', started, ended⟩ := ok_of_bind next
    cases ended
    obtain ⟨held, begun, given⟩ := h started
    refine ⟨slotAt place p + held, taken.trans (begun.add (slotAt place p)), fun u => ?_⟩
    have rest := (given u).add (slotAt place p)
    have own := (World.turn_dropPermit p (e.drop s' u)).holds place
    rw [ite_self] at own
    exact rest.trans own

/-- **A layer around calls that give back gives back.** -/
theorem returns_engine (k : Clockwork) (remaining : Nat) (h : e.Returns place) (l : Layer) :
    (l.engine k remaining e).Returns place := by
  cases l with
  | requestId =>
    intro r w v s ran
    obtain ⟨r', u, assigned, started⟩ := ok_of_bind ran
    obtain ⟨held, begun, given⟩ := h started
    exact ⟨held, (World.Holds.of_calm (RequestId.calms_assign r assigned).1 0).trans begun, given⟩
  | tracing =>
    intro r w v s ran
    let kept : Traced := ⟨r.method, r.context, w.scene.wallMillis⟩
    change (Tracing.begin r >>= fun _ => e.start r >>= fun s => pure (Guarded.running kept s)) w = _
      at ran
    obtain ⟨_, u, begun', next⟩ := ok_of_bind ran
    obtain ⟨s', v', started, ended⟩ := ok_of_bind next
    cases ended
    obtain ⟨held, begun, given⟩ := h started
    exact ⟨held, (World.Holds.of_calm (Tracing.calms_begin r begun').1 0).trans begun, given⟩
  | deadline timeouts =>
    intro r w v s ran
    change (match timeouts.apply r with
      | .error f => pure (.failed f)
      | .ok (limit, r) => e.start r >>= fun s => pure (.running limit none s) :
        Run (Timed e.State)) w = _ at ran
    rcases applied : timeouts.apply r with f | ⟨limit, r'⟩
    · rw [applied] at ran
      cases ran
      exact ⟨0, .refl 0 w, fun u => .refl 0 u⟩
    · rw [applied] at ran
      obtain ⟨s', v', started, ended⟩ := ok_of_bind ran
      cases ended
      exact h started
  | retry p =>
    intro r w v s ran
    obtain ⟨s', v', started, ended⟩ := ok_of_bind ran
    cases ended
    obtain ⟨held, begun, given⟩ := h started
    refine ⟨held, begun, fun u => ?_⟩
    show u.Holds place held 0 (Engine.drop (retryEngine k p e)
      (if p.appliesTo r.method then .attempting r 0 s' else .once s') u)
    generalize p.appliesTo r.method = applies
    cases applies with
    | true => exact given u
    | false => exact given u
  | rateLimit p => exact returns_admissionEngine k h p
  | passage p =>
    intro r w v s ran
    obtain ⟨x, u, entered, next⟩ := ok_of_bind ran
    have unmoved : w.Holds place 0 0 u := Run.Holds.act (p.enter r) entered
    rcases x with result | r'
    · cases next
      exact ⟨0, unmoved, fun u => .refl 0 u⟩
    · obtain ⟨s', v', started, ended⟩ := ok_of_bind next
      cases ended
      obtain ⟨held, begun, given⟩ := h started
      exact ⟨held, unmoved.trans begun, given⟩
  | repeating name order times =>
    intro r w v s ran
    obtain ⟨_, u, noted, ended⟩ := ok_of_bind ran
    cases ended
    exact ⟨0, holds_note _ noted, fun u => .refl 0 u⟩

end Layer

theorem Chain.returns_engineOf (k : Clockwork) (send : Request → Act Result) (layers : List Layer) :
    (engineOf k (.blocking send) layers).Returns place := by
  induction layers with
  | nil => exact Engine.returns_blocking send
  | cons l rest ih => exact Layer.returns_engine k rest.length ih l

namespace Chain

/-- **What happens when an asynchronous call starts** over a blocking transport: the ways in of the
layers, in ascending order, up to the first that lets nothing go on, and nothing else. So, unless a
hook for requests does so itself, nothing is sent, nobody waits, and only limiters count anything.
Giving up the call without asking it leaves as many slots taken everywhere as there were. -/
theorem start_eager (k : Clockwork) (send : Request → Act Result) (layers : List Layer)
    (r : Request) (w : World) :
    (build layers (.blocking send)).layers.Perm layers ∧
    (build layers (.blocking send)).layers.Pairwise (fun a b => a.order ≤ b.order) ∧
    ∃ s v n, ((build layers (.blocking send)).engineOn k).start r w = .ok (s, v) ∧
      wayIn (build layers (.blocking send)).layers r w = .ok (n, v) ∧
      ((∀ p, .passage p ∈ layers → ∀ r (s : Scene), s.Rests (p.enter r s).2) → w.Rests v) ∧
      ∀ place, (((build layers (.blocking send)).engineOn k).drop s v).inFlight place =
        w.inFlight place := by
  have perm : (arrange layers).Perm layers := perm_arrangedBy Layer.order layers
  refine ⟨perm, pairwise_arrangedBy Layer.order layers, ?_⟩
  obtain ⟨s, v, n, started, went⟩ := start_eq_wayIn k send (arrange layers) r w
  refine ⟨s, v, n, started, went, fun hooks => ?_, fun place => ?_⟩
  · exact rests_wayIn (fun p mem => hooks p (perm.mem_iff.mp mem)) r went
  · have returns : (engineOf k (.blocking send) (arrange layers)).Returns place :=
      returns_engineOf k send (arrange layers)
    obtain ⟨held, begun, given⟩ := returns started
    have back := (begun.trans (given v)).inFlight (by rw [Nat.zero_mul]; exact Nat.zero_le _)
    rwa [Nat.zero_mul, Nat.add_zero, Nat.add_zero] at back

/-- A limiter of two callers, and one of a caller a second that has admitted one. -/
def halfOpen : World :=
  { (default : World) with
    scene := .start ⟨0, []⟩ []
    limiters := [.ofConfig ⟨.tokenBucket, 1, 1, false, some 2, .ofSeconds 30⟩ 0,
      { Limiter.ofConfig ⟨.fixedWindow, 1, 1, true, some 1, .ofSeconds 30⟩ 0 with
        algorithm := ((Algorithm.ofConfig ⟨.fixedWindow, 1, 1, true, some 1, .ofSeconds 30⟩ 0).tryAcquire
          0).2 }] }

/-- Two limiters and repetition between two hooks, listed from the inside out. -/
def guarded : List Layer :=
  [.passage (remarking "inner" 1000 false false).passage, .rateLimit 0, .rateLimit 1,
    .retry Layer.steadyPolicy, .passage (remarking "outer" 0 false false).passage]

/-- The outer hook runs, repetition starts its first attempt, the first limiter admits it and the
second one makes it wait; giving up the call gives the slot back. -/
theorem start_eager_waiting :
    (∀ p, .passage p ∈ guarded → ∀ r (s : Scene), s.Rests (p.enter r s).2) ∧
      ∃ s v n, ((build guarded (.blocking Layer.unavailable)).engineOn .standing).start
          Layer.fetch halfOpen = .ok (s, v) ∧
        n = 3 ∧ v.inFlight 0 = 1 ∧ v.scene.journal = [.note "outer request"] ∧
        halfOpen.Rests v ∧
        (((build guarded (.blocking Layer.unavailable)).engineOn .standing).drop s v).inFlight 0 =
          0 := by
  have hooks : ∀ p, .passage p ∈ guarded → ∀ r (s : Scene), s.Rests (p.enter r s).2 := by
    intro p member r s
    simp only [guarded, List.mem_cons, List.not_mem_nil, or_false, Layer.passage.injEq,
      reduceCtorEq, false_or] at member
    rcases member with rfl | rfl
    · exact ⟨rfl, rfl⟩
    · exact ⟨rfl, rfl⟩
  have arranged : (build guarded (.blocking Layer.unavailable)).layers =
      [.passage (remarking "outer" 0 false false).passage, .retry Layer.steadyPolicy, .rateLimit 0,
        .rateLimit 1, .passage (remarking "inner" 1000 false false).passage] := by
    simp [build, arrange, guarded, List.mergeSort, List.MergeSort.Internal.splitInTwo, Layer.order,
      Order.rateLimit, Order.retry, Interceptor.passage, remarking]
  obtain ⟨-, -, s, v, n, started, went, rests, given⟩ :=
    start_eager .standing Layer.unavailable guarded Layer.fetch halfOpen
  obtain ⟨v', walked, taken, noted⟩ : ∃ v', wayIn
      [.passage (remarking "outer" 0 false false).passage, .retry Layer.steadyPolicy, .rateLimit 0,
        .rateLimit 1, .passage (remarking "inner" 1000 false false).passage] Layer.fetch halfOpen =
        .ok (3, v') ∧ v'.inFlight 0 = 1 ∧ v'.scene.journal = [.note "outer request"] :=
    ⟨_, rfl, rfl, rfl⟩
  rw [arranged, walked] at went
  obtain ⟨rfl, rfl⟩ := Prod.mk.inj (Except.ok.inj went)
  exact ⟨hooks, s, v', 3, started, rfl, taken, noted, rests hooks, given 0⟩

end Chain

end Outbound
