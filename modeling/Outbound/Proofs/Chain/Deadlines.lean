import Mathlib.Data.List.Induction
import Outbound.Proofs.Chain.Retry
import Outbound.Proofs.Chain.Sent

/-!
# Deadlines behind one another

Each deadline of a chain rewrites the timeout of the requests that it gets, and the layers between two
of them may hand on a request several times, each time as it came to them. What reaches the transport
is all the same the least of the timeouts: that of the request, or the first default where it has
none, and all the greatest ones. When nothing is left of it, the deadline that takes the last of it
refuses whatever it gets.

## Main definitions

* `Chain.deadlines`: the deadlines among layers
* `Timeouts.timeLeft`: the timeout that requests have behind deadlines
* `Request.Behind`: requests that deadlines have let through
* `Passage.refusing`: hooks that refuse every request

## Main results

* `Timeouts.timeLeft_concat`: one deadline more
* `Chain.CoveredFor.append`: layers around the rest of a chain hand on requests with the time left
* `Chain.sendsOnly_of_behind`, `Chain.goesAs_of_spent`: what is sent, and how calls go without time
* `Chain.deadlines_compose`: what calls send, and how they go when no time is left
-/

namespace Outbound

/-! ## The time left behind deadlines -/

namespace Timeouts

/-- **The timeout that requests have behind deadlines,** the outermost first: the least of what they
came with, or else of the first default, and of all the greatest timeouts. -/
def timeLeft : List Timeouts → Option Duration → Option Duration
  | [], own => own
  | first :: more, own =>
    some (((first :: more).filterMap max?).foldl min (own.getD first.default))

variable {passed : List Timeouts} {own : Option Duration} {r : Request} {timeouts : Timeouts}

theorem effective_eq (timeouts : Timeouts) (r : Request) :
    timeouts.effective r =
      ([timeouts].filterMap max?).foldl min (r.timeout.getD timeouts.default) := by
  rw [effective, List.filterMap_cons]
  cases timeouts.max? with
  | none => rfl
  | some most => rfl

/-- **One deadline more** cuts the time that is left down to its greatest timeout. -/
theorem timeLeft_concat (carries : r.timeout = timeLeft passed own) (timeouts : Timeouts) :
    timeLeft (passed ++ [timeouts]) own = some (timeouts.effective r) := by
  rw [effective_eq, carries]
  cases passed with
  | nil => rfl
  | cons first more =>
    have parts : timeLeft (first :: more ++ [timeouts]) own =
        some (((first :: more ++ [timeouts]).filterMap max?).foldl min (own.getD first.default)) :=
      rfl
    rw [parts, List.filterMap_append, List.foldl_append]
    rfl

/-- **A deadline takes the last of the time,** if deadlines take it all. Those before it leave some,
so the induction takes off the innermost one as long as nothing was left before it. -/
theorem exists_spent (found : passed ≠ []) (spent : timeLeft passed own = some .zero) :
    ∃ before timeouts after, passed = before ++ timeouts :: after ∧
      (before ≠ [] → timeLeft before own ≠ some .zero) ∧
      timeLeft (before ++ [timeouts]) own = some .zero := by
  induction passed using List.reverseRecOn with
  | nil => exact absurd rfl found
  | append_singleton before timeouts ih =>
    by_cases earlier : before ≠ [] ∧ timeLeft before own = some .zero
    · obtain ⟨first, last, after, rfl, leaves, gone⟩ := ih earlier.1 earlier.2
      refine ⟨first, last, after ++ [timeouts], ?_, leaves, gone⟩
      rw [List.append_assoc, List.cons_append]
    · exact ⟨before, timeouts, [], rfl, fun begun gone => earlier ⟨begun, gone⟩, spent⟩

/-- A request goes on with its timeout while there is time. -/
theorem timeout_of_apply {timed : Duration × Request} (h : timeouts.apply r = .ok timed) :
    timed.2.timeout = some (timeouts.effective r) ∧ timeouts.effective r ≠ .zero := by
  unfold apply at h
  dsimp only at h
  split at h
  · cases h
  · next time =>
    cases h
    refine ⟨rfl, fun spent => time ?_⟩
    rw [spent]
    rfl

/-- A request for which no time is left is refused. -/
theorem apply_of_spent (h : timeouts.effective r = .zero) :
    timeouts.apply r = .error (.timeout .zero) := by
  rw [apply, h]
  rfl

end Timeouts

/-! ## Layers between deadlines -/

/-- The timeouts of a layer that is a deadline. -/
def Layer.timeouts? : Layer → Option Timeouts
  | .deadline timeouts => some timeouts
  | _ => none

theorem Layer.timeouts?_eq_some {l : Layer} {timeouts : Timeouts} :
    l.timeouts? = some timeouts ↔ l = .deadline timeouts := by
  constructor
  · intro found
    cases l with
    | deadline => exact congrArg deadline (Option.some.inj found)
    | _ => cases found
  · rintro rfl
    rfl

/-- **The deadlines among layers,** the outermost first. -/
def Chain.deadlines (layers : List Layer) : List Timeouts := layers.filterMap Layer.timeouts?

/-- Where deadlines are among layers. -/
theorem Chain.exists_layers {layers : List Layer} {timeouts : Timeouts} {before after : List Timeouts}
    (parts : deadlines layers = before ++ timeouts :: after) :
    ∃ outer inner, layers = outer ++ .deadline timeouts :: inner ∧ deadlines outer = before := by
  obtain ⟨outer, rest, rfl, first, others⟩ := List.filterMap_eq_append_iff.mp parts
  obtain ⟨between, l, inner, rfl, free, found, -⟩ := List.filterMap_eq_cons_iff.mp others
  obtain rfl := Layer.timeouts?_eq_some.mp found
  refine ⟨outer ++ between, inner, (List.append_assoc _ _ _).symm, ?_⟩
  rw [deadlines, List.filterMap_append, first, List.filterMap_eq_nil_iff.mpr free, List.append_nil]

/-- **Hooks that leave the timeout alone.** -/
def Passage.KeepsTimeout (p : Passage) : Prop :=
  ∀ r s r', (p.enter r s).1 = .ok r' → r'.timeout = r.timeout

/-- **Requests that deadlines have let through,** with what is left of the time. -/
structure Request.Behind (own : Option Duration) (passed : List Timeouts) (r : Request) : Prop where
  carries : r.timeout = Timeouts.timeLeft passed own
  time : passed ≠ [] → r.timeout ≠ some .zero

/-- **What a layer does to the time left:** a deadline takes of it, and no other layer does. -/
theorem Layer.forwards_behind {own : Option Duration} {passed : List Timeouts} {l : Layer}
    (kept : ∀ p, l = .passage p → p.KeepsTimeout) :
    l.Forwards (Request.Behind own passed) (Request.Behind own (passed ++ l.timeouts?.toList)) := by
  cases found : l.timeouts? with
  | some timeouts =>
    obtain rfl := timeouts?_eq_some.mp found
    intro r limit r' behind applied
    obtain ⟨carried, time⟩ := Timeouts.timeout_of_apply applied
    rw [← Timeouts.timeLeft_concat behind.carries timeouts] at carried
    refine ⟨carried, fun _ gone => time ?_⟩
    rw [carried, Timeouts.timeLeft_concat behind.carries timeouts] at gone
    exact Option.some.inj gone
  | none =>
    rw [Option.toList_none, List.append_nil]
    cases l with
    | requestId => exact fun r headers behind => ⟨behind.carries, behind.time⟩
    | deadline timeouts => cases found
    | passage p =>
      intro r s r' behind went
      have same := kept p rfl r s r' went
      exact ⟨same.trans behind.carries, fun begun => same ▸ behind.time begun⟩
    | _ => exact fun r behind => behind

/-- **Hooks that refuse every request** with a failure. -/
def Passage.refusing (f : Failure) : Passage where
  name := "refusing"
  order := Order.business
  enter _ := pure (.error (.error f))
  leave _ result := pure result

namespace Chain

variable {P F : Request → Prop} {k : Clockwork} {c : Chain} {t t' : Transport} {r : Request}
  {own : Option Duration}

namespace CoveredFor

/-- **Layers around the rest of the chains** hand on requests with what is left of the time. -/
theorem append (nothing : k.SendsNothing) {outer tail tail' : List Layer} {passed : List Timeouts}
    (handsOn : ∀ l ∈ outer, l.HandsOn) (kept : ∀ p, .passage p ∈ outer → p.KeepsTimeout)
    (same : tail'.length = tail.length)
    (rest : CoveredFor P (Request.Behind own (passed ++ deadlines outer)) k ⟨tail, t⟩ ⟨tail', t'⟩) :
    CoveredFor P (Request.Behind own passed) k ⟨outer ++ tail, t⟩ ⟨outer ++ tail', t'⟩ := by
  induction outer generalizing passed with
  | nil =>
    rw [show deadlines [] = [] from rfl, List.append_nil] at rest
    exact rest
  | cons l outer ih =>
    have parts : deadlines (l :: outer) = l.timeouts?.toList ++ deadlines outer := by
      simp only [deadlines, List.filterMap_eq_flatMap_toList, List.flatMap_cons]
    rw [parts, ← List.append_assoc] at rest
    have forwards : l.Forwards (Request.Behind own passed)
        (Request.Behind own (passed ++ l.timeouts?.toList)) := by
      refine Layer.forwards_behind ?_
      rintro p rfl
      exact kept p List.mem_cons_self
    have length : (outer ++ tail').length = (outer ++ tail).length := by
      rw [List.length_append, List.length_append, same]
    refine .cons nothing (handsOn l List.mem_cons_self) forwards length (ih ?_ ?_ rest)
    · exact fun l' member => handsOn l' (List.mem_cons_of_mem l member)
    · exact fun p member => kept p (List.mem_cons_of_mem l member)

/-- **A deadline that refuses all requests of a kind** goes as hooks that refuse, whatever comes
behind it. -/
theorem refusing {timeouts : Timeouts} {f : Failure} (layers : List Layer)
    (refuses : ∀ r, F r → timeouts.apply r = .error f) :
    CoveredFor P F k ⟨.deadline timeouts :: layers, t⟩
      ⟨.passage (.refusing f) :: layers, t'⟩ where
  blocking caller r fits := by
    have failed : Chain.callOn k ⟨.deadline timeouts :: layers, t⟩ caller r =
        (pure (.error f) : Run Result) := by
      simp only [callOn, handlerOn, Layer.handleOn, refuses r fits]
    rw [failed]
    exact .pure rfl (Nat.le_refl 0)
  engine := by
    refine ⟨fun s s' _ => s = .failed f ∧ s' = .settled (.error f), ?_, ?_, ?_⟩
    · intro r fits
      have failed : Engine.start (Chain.engineOn k ⟨.deadline timeouts :: layers, t⟩) r =
          (pure (.failed f) : Run _) := by
        simp only [engineOn, engineOf, Layer.engine, Layer.deadlineEngine, refuses r fits]
      rw [failed]
      exact .pure ⟨rfl, rfl⟩ (Nat.le_refl 0)
    · rintro _ _ n ⟨rfl, rfl⟩
      exact .pure (.ready _ 0) (Nat.zero_le n)
    · rintro _ _ n ⟨rfl, rfl⟩
      exact ⟨rfl, fun w _ => .of_calm (.refl w)⟩

end CoveredFor

/-- **Whatever is sent has been let through by all deadlines.** -/
theorem sendsOnly_of_behind (nothing : k.SendsNothing) (transport : c.transport.SendsNothing)
    (handsOn : ∀ l ∈ c.layers, l.HandsOn) (kept : ∀ p, .passage p ∈ c.layers → p.KeepsTimeout)
    (kind : ∀ q, Request.Behind r.timeout (deadlines c.layers) q → P q) : SendsOnly k c P r := by
  have begins : Request.Behind r.timeout [] r := ⟨rfl, fun begun => absurd rfl begun⟩
  refine sendsOnly_of_covered begins fun t agree => ?_
  have alone : CoveredFor P (Request.Behind r.timeout (deadlines c.layers)) k
      ⟨[], c.transport⟩ ⟨[], t⟩ := .nil transport agree kind
  have all : CoveredFor P (Request.Behind r.timeout []) k
      ⟨c.layers ++ [], c.transport⟩ ⟨c.layers ++ [], t⟩ := .append nothing handsOn kept rfl alone
  rwa [List.append_nil] at all

/-- **A deadline that takes the last of the time** goes as hooks that refuse every request, over any
transport. -/
theorem goesAs_of_spent (nothing : k.SendsNothing) {outer : List Layer} {timeouts : Timeouts}
    (handsOn : ∀ l ∈ outer, l.HandsOn) (kept : ∀ p, .passage p ∈ outer → p.KeepsTimeout)
    (gone : Timeouts.timeLeft (deadlines outer ++ [timeouts]) r.timeout = some .zero)
    (inner : List Layer) (t t' : Transport) :
    GoesAs k ⟨outer ++ .deadline timeouts :: inner, t⟩
      ⟨outer ++ .passage (.refusing (.timeout .zero)) :: inner, t'⟩ r := by
  have begins : Request.Behind r.timeout [] r := ⟨rfl, fun begun => absurd rfl begun⟩
  have refuses : ∀ q, Request.Behind r.timeout (deadlines outer) q →
      timeouts.apply q = .error (.timeout .zero) := by
    intro q passed
    refine Timeouts.apply_of_spent ?_
    rw [Timeouts.timeLeft_concat passed.carries] at gone
    exact Option.some.inj gone
  have refused : CoveredFor (fun _ => False) (Request.Behind r.timeout (deadlines outer)) k
      ⟨.deadline timeouts :: inner, t⟩
      ⟨.passage (.refusing (.timeout .zero)) :: inner, t'⟩ := .refusing inner refuses
  exact CoveredFor.goesAs (.append nothing handsOn kept rfl refused) begins

/-- **Deadlines compose.** In a chain with deadlines, among layers that leave the timeout alone and
send nothing of their own accord, the least of the timeouts decides: every send of a call has exactly
that timeout, whatever is repeated, in blocking and in asynchronous calls. If it is no time at all, a
call sends nothing. It then goes as if the deadline that takes the last of the time were hooks that
refuse every request that comes to them as timed out at once. -/
theorem deadlines_compose (nothing : k.SendsNothing) (transport : c.transport.SendsNothing)
    (handsOn : ∀ l ∈ c.layers, l.HandsOn) (kept : ∀ p, .passage p ∈ c.layers → p.KeepsTimeout)
    (found : deadlines c.layers ≠ []) (r : Request) :
    ∃ least, Timeouts.timeLeft (deadlines c.layers) r.timeout = some least ∧
      SendsOnly k c (fun q => q.timeout = some least) r ∧
      (least = .zero → SendsOnly k c (fun _ => False) r ∧
        ∃ outer timeouts inner, c.layers = outer ++ .deadline timeouts :: inner ∧
          (deadlines outer ≠ [] → Timeouts.timeLeft (deadlines outer) r.timeout ≠ some .zero) ∧
          Timeouts.timeLeft (deadlines outer ++ [timeouts]) r.timeout = some .zero ∧
          ∀ t, GoesAs k c ⟨outer ++ .passage (.refusing (.timeout .zero)) :: inner, t⟩ r) := by
  obtain ⟨least, left⟩ : ∃ least, Timeouts.timeLeft (deadlines c.layers) r.timeout = some least := by
    obtain ⟨first, more, parts⟩ := List.exists_cons_of_ne_nil found
    rw [parts]
    exact ⟨_, rfl⟩
  refine ⟨least, left, sendsOnly_of_behind nothing transport handsOn kept ?_, ?_⟩
  · exact fun q passed => passed.carries.trans left
  · rintro rfl
    refine ⟨sendsOnly_of_behind nothing transport handsOn kept ?_, ?_⟩
    · exact fun q passed => passed.time found (passed.carries.trans left)
    · obtain ⟨layers, t⟩ := c
      obtain ⟨before, timeouts, after, parts, leaves, gone⟩ := Timeouts.exists_spent found left
      obtain ⟨outer, inner, rfl, rfl⟩ := exists_layers parts
      refine ⟨outer, timeouts, inner, rfl, leaves, gone, goesAs_of_spent nothing ?_ ?_ gone inner t⟩
      · exact fun l member => handsOn l (List.mem_append_left _ member)
      · exact fun p member => kept p (List.mem_append_left _ member)

/-- Repeated calls between two deadlines, the inner one with a given greatest timeout. -/
def hurried (most : Duration) : Chain where
  layers := [.deadline ⟨.ofSeconds 5, some (.ofSeconds 3)⟩, .retry Layer.steadyPolicy,
    .passage (.idle "hooks"), .rateLimit 0, .deadline ⟨.ofSeconds 9, some most⟩]
  transport := .blocking Layer.unavailable

/-- With two seconds at most every send there has two seconds, also where waits stand. With no time
at all nothing is sent, and one of the deadlines refuses each attempt. -/
theorem deadlines_compose_hurried :
    SendsOnly .standing (hurried (.ofSeconds 2)) (fun q => q.timeout = some (.ofSeconds 2))
      Layer.fetch ∧
    SendsOnly .immediate (hurried .zero) (fun _ => False) Layer.fetch ∧
    ∃ outer timeouts inner, (hurried .zero).layers = outer ++ .deadline timeouts :: inner ∧
      Timeouts.timeLeft (deadlines outer ++ [timeouts]) none = some .zero ∧
      ∀ t, GoesAs .immediate (hurried .zero)
        ⟨outer ++ .passage (.refusing (.timeout .zero)) :: inner, t⟩ Layer.fetch := by
  have transport : (Transport.blocking Layer.unavailable).SendsNothing := .blocking fun _ _ => rfl
  have idle : (Passage.idle "hooks").KeepsTimeout := by
    intro r s r' went
    cases went
    rfl
  have handsOn : ∀ most, ∀ l ∈ (hurried most).layers, l.HandsOn := by
    intro most l member
    simp only [hurried, List.mem_cons, List.not_mem_nil, or_false] at member
    rcases member with rfl | rfl | rfl | rfl | rfl
    exacts [.deadline _, .retry _, .passage (fun _ _ => rfl) fun _ x _ => by cases x <;> rfl,
      .rateLimit 0, .deadline _]
  have kept : ∀ most, ∀ p, .passage p ∈ (hurried most).layers → p.KeepsTimeout := by
    intro most p member
    simp only [hurried, List.mem_cons, List.not_mem_nil, or_false, reduceCtorEq, false_or,
      Layer.passage.injEq] at member
    rw [member]
    exact idle
  obtain ⟨least, left, sends, -⟩ := deadlines_compose Clockwork.sendsNothing_standing transport
    (handsOn (.ofSeconds 2)) (kept _) (List.cons_ne_nil _ _) Layer.fetch
  obtain ⟨least', left', -, spent⟩ := deadlines_compose Clockwork.sendsNothing_immediate transport
    (handsOn .zero) (kept _) (List.cons_ne_nil _ _) Layer.fetch
  have two : least = .ofSeconds 2 := Option.some.inj (left.symm.trans rfl)
  have zero : least' = .zero := Option.some.inj (left'.symm.trans rfl)
  obtain ⟨silent, outer, timeouts, inner, parts, -, last, goes⟩ := spent zero
  rw [two] at sends
  exact ⟨sends, silent, outer, timeouts, inner, parts, last, goes⟩

/-- The four sends of a call there have the least of the timeouts. -/
example : ((hurried (.ofSeconds 2)).callOn .immediate .thread Layer.fetch default).toOption.map
    (fun p => p.2.scene.sent.map (·.timeout)) =
      some (List.replicate 4 (some (.ofSeconds 2))) := by
  decide +kernel

end Chain

end Outbound
