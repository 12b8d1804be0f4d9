import Outbound.Proofs.Chain.Arrangement
import Outbound.Proofs.Chain.Covered
import Outbound.Proofs.Chain.Pass
import Outbound.Proofs.Chain.Retry
import Outbound.Proofs.Chain.Traffic

/-!
# Every send is admitted

By their orders, limiters come after all layers that repeat calls, so each attempt passes them
again. A call that comes to a limiter has a grant of its own before the rest of the chain runs, and
what comes after a limiter runs the rest of the chain once at most. So there are never more sends
than grants, retries included, whatever transports, hooks, clocks and policies do.

Several limiters of one strategy count their grants together, and each send needs a grant of each of
them. Calls go through a chain in any order and at the same time, and are given up at any point.

## Main definitions

* `Layer.CallsOnce`: a layer that runs the rest of the chain at most once, or repeats calls
* `Chain.limitersOf`: how many limiters of a strategy there are
* `Admissions.account`: sends on the account of grants
* `Chain.Traffic`: what goes through a chain

## Main results

* `Chain.Traffic.granted`: sends are paid for by grants
* `Chain.sends_admitted`: no send without a grant, and what passes through limiters are
-/

namespace Outbound

/-! ## Layers -/

/-- **A layer that runs the rest of the chain at most once** for each time that it is called, or
repeats calls. Hooks may fail and rewrite as they like, but they send nothing themselves. -/
inductive Layer.CallsOnce : Layer → Prop
  | requestId : CallsOnce .requestId
  | tracing : CallsOnce .tracing
  | deadline (timeouts : Timeouts) : CallsOnce (.deadline timeouts)
  | retry (p : RetryPolicy) : CallsOnce (.retry p)
  | rateLimit (place : Nat) : CallsOnce (.rateLimit place)
  | passage {p : Passage} (enter : ∀ r s, (p.enter r s).2.sends = s.sends)
    (leave : ∀ id x s, (p.leave id x s).2.sends = s.sends) : CallsOnce (.passage p)
  | repeating (name : String) (order : Int) {times : Nat} (once : times ≤ 1) :
    CallsOnce (.repeating name order times)

/-- The strategies of the limiters, by their places. -/
def World.labels (w : World) (place : Nat) : Strategy := (w.gate place).limiter.strategy

/-- Whether a layer is a limiter of a strategy. -/
def Layer.limits (labels : Nat → Strategy) (s : Strategy) : Layer → Bool
  | .rateLimit place => decide (labels place = s)
  | _ => false

/-- **How many limiters of a strategy there are.** -/
def Chain.limitersOf (labels : Nat → Strategy) (s : Strategy) (layers : List Layer) : Nat :=
  layers.countP (Layer.limits labels s)

/-! ## Sends on the account of grants -/

namespace Admissions

variable {s : Strategy} {labels : Nat → Strategy} {each n m own rest place : Nat}
  {w u v : World} {k : Clockwork} {t : Transport}

/-- **Sends are paid for by grants:** so many for each send, and what is left has been granted and
not been used. -/
structure Pays (s : Strategy) (each : Nat) (w : World) (n : Nat) (v : World) (m : Nat) : Prop where
  labels : v.labels = w.labels
  sends : w.sends ≤ v.sends
  paid : v.sends * each + m + w.grants s ≤ w.sends * each + n + v.grants s

theorem Pays.refl (n : Nat) (w : World) : Pays s each w n w n := ⟨rfl, Nat.le_refl _, Nat.le_refl _⟩

theorem Pays.trans {l : Nat} (h : Pays s each w n u m) (h' : Pays s each u m v l) :
    Pays s each w n v l := by
  refine ⟨h'.labels.trans h.labels, Nat.le_trans h.sends h'.sends, ?_⟩
  have first := h.paid
  have second := h'.paid
  omega

/-- Grants may go unused. -/
theorem Pays.waste (h : Pays s each w n v m) {l : Nat} (le : l ≤ m) : Pays s each w n v l := by
  refine ⟨h.labels, h.sends, ?_⟩
  have paid := h.paid
  omega

/-- What is left to others stays so. -/
theorem Pays.add (h : Pays s each w n v m) (others : Nat) :
    Pays s each w (n + others) v (m + others) := by
  refine ⟨h.labels, h.sends, ?_⟩
  have paid := h.paid
  omega

theorem pays_of_calm (h : w.Calm v) (n : Nat) : Pays s each w n v n := by
  have sends := h.sends
  have grants : v.grants s = w.grants s := h.grants s
  refine ⟨funext fun place => ?_, Nat.le_of_eq sends.symm, ?_⟩
  · show (v.limiters.getD place default).strategy = (w.limiters.getD place default).strategy
    rw [h.limiters]
  · exact Nat.le_of_eq (by rw [sends, grants])

/-- What happens in the scene is free when it sends nothing. -/
theorem pays_of_scene {scene : Scene} (same : scene.sends = w.scene.sends) (n : Nat) :
    Pays s each w n { w with scene := scene } n := by
  have sends : ({ w with scene := scene } : World).sends = w.sends := same
  exact ⟨rfl, Nat.le_of_eq sends.symm, Nat.le_of_eq (by rw [sends]; rfl)⟩

/-- **A turn at a limiter** adds its grant, if it is one of the strategy. -/
theorem pays_of_turn {held granted held' : Nat} (turn : w.Turn place held granted held' v)
    (n : Nat) : Pays s each w n v (n + if w.labels place = s then granted else 0) := by
  refine ⟨funext fun p => ?_, Nat.le_of_eq turn.sends.symm, ?_⟩
  · exact congrArg LimiterConfig.strategy (turn.holds p).config
  · rw [turn.sends, turn.grants]
    show _ ≤ w.sends * each + n + (w.grants s + if w.labels place = s then granted else 0)
    omega

/-- **Sends on the account of grants:** any requests, in worlds whose limiters have the strategies
that are given. -/
def account (s : Strategy) (labels : Nat → Strategy) (each : Nat) : Account where
  Fits _ := True
  Stands w _ := w.labels = labels
  Pays := Pays s each
  fits _ _ _ := trivial
  trans := Pays.trans
  calm h le := (pays_of_calm h _).waste le
  stands stands paid := paid.labels.trans stands

/-- **Sends cost** what the account takes for each of them. -/
theorem covers_send {α : Type} {send : Request → Act α}
    (honest : ∀ r s, (send r s).2.sends = s.sends) (r : Request) :
    (account s labels each).Covers each (sendStarts r >>= fun _ => Run.act (send r))
      (sendStarts r >>= fun _ => Run.act (send r)) Same := by
  refine .once fun w v a _ ran => ⟨0, rfl, ?_⟩
  obtain ⟨-, rfl⟩ := Prod.mk.inj (Except.ok.inj ran)
  have sent : (w.scene.log (.send r)).sends = w.sends + 1 := List.countP_cons_of_pos rfl
  have sends := (honest r (w.scene.log (.send r))).trans sent
  refine ⟨rfl, ?_, ?_⟩
  · show w.sends ≤ (send r (w.scene.log (.send r))).2.sends
    omega
  · show (send r (w.scene.log (.send r))).2.sends * each + 0 + w.grants s ≤
      w.sends * each + each + w.grants s
    rw [sends, Nat.add_mul]
    omega

theorem covers_sends (honest : t.Honest) : (account s labels each).Sends each t t := by
  cases honest with
  | blocking honest => exact .blocking fun r _ => covers_send honest r
  | deferred honest => exact .deferred fun r _ => covers_send honest r

/-- Computations on the scene that send nothing are free. -/
theorem covers_act {α : Type} {m : Act α} (silent : ∀ s, (m s).2.sends = s.sends) (n : Nat)
    {P : α → Prop} :
    (account s labels each).Covers n (Run.act m) (Run.act m)
      fun a b left => a = b ∧ (P a → 0 ≤ left) :=
  .act fun w _ => ⟨n, ⟨rfl, fun _ => Nat.zero_le n⟩, pays_of_scene (silent w.scene) n⟩

/-- **Waits are free,** and nothing makes up for a repetition: behind the layers that repeat calls,
everything is paid for by grants. -/
theorem covers_waits (hushed : k.Hushed) : (account s labels each).Waits k k 0 0 where
  sleep d _ _ := covers_act ((hushed _).sleep d) _
  pause d _ _ := covers_act ((hushed _).pause d) _
  resume mark _ := covers_act ((hushed _).resume mark) 0

/-- **A limiter of the strategy** adds a grant to what the rest of the chain may cost. -/
theorem covers_admits (hushed : k.Hushed)
    (le : rest ≤ own + if labels place = s then 1 else 0) :
    (account s labels each).Admits k k place own rest where
  acquire _ := by
    refine .once fun w v o stands ran =>
      ⟨_, ⟨rfl, ?_⟩, pays_of_turn (Run.turn_acquireOn hushed ran) own⟩
    rintro rfl
    rw [show w.labels = labels from stands]
    exact le
  tryAcquire := by
    refine .once fun w v b stands ran =>
      ⟨_, ⟨rfl, ?_⟩, pays_of_turn (Run.turn_tryAcquire ran) own⟩
    rw [show w.labels = labels from stands]
    cases b
    · exact Nat.le_add_right own _
    · exact le
  poll stage _ := by
    refine .once fun w v a stands ran =>
      ⟨_, ⟨rfl, ?_, ?_⟩, pays_of_turn (Run.turn_pollAcquire hushed ran) own⟩
    · rintro rfl
      rw [show w.labels = labels from stands]
      exact le
    · rintro stage' rfl
      exact Nat.le_add_right own _
  dropPermit w n := (pays_of_turn (World.turn_dropPermit place w) n).waste (Nat.le_add_right n _)
  dropAcquire stage w n :=
    (pays_of_turn (World.turn_dropAcquire place stage w) n).waste (Nat.le_add_right n _)

/-- Hooks that send nothing are free. -/
theorem hooks {p : Passage} (enter : ∀ r s, (p.enter r s).2.sends = s.sends)
    (leave : ∀ id x s, (p.leave id x s).2.sends = s.sends) : (account s labels each).Hooks p where
  fits _ _ _ _ _ := trivial
  enter r w n := pays_of_scene (enter r w.scene) n
  leave id x w n := pays_of_scene (leave id x w.scene) n

/-- Whatever a layer is, it costs no more than the rest of the chain. One that repeats calls must not
cost anything. -/
theorem costs_layer (hushed : k.Hushed) {l : Layer} (once : l.CallsOnce)
    (free : ∀ p, l = .retry p → n = 0) :
    l.Costs (account s labels each) k k n n := by
  cases once with
  | requestId => exact .requestId n
  | tracing => exact .tracing n
  | deadline timeouts => exact .deadline timeouts n
  | retry p =>
    rw [free p rfl]
    exact .retry_of_waits p (covers_waits hushed)
  | rateLimit place =>
    refine .rateLimit (covers_admits hushed ?_)
    exact Nat.le_add_right n _
  | passage enter leave => exact .passage (hooks enter leave) n
  | repeating name order times =>
    refine .repeating name order times (fun line w n => pays_of_scene ?_ n) n
    exact List.countP_cons_of_neg Bool.false_ne_true

/-- **What layers in ascending order cost:** each send is paid for by the grants of the limiters,
all of which come after the layers that repeat calls. The induction goes from the transport
outwards, and each limiter of the strategy takes one off. -/
theorem prices_of_pairwise (hushed : k.Hushed) {layers : List Layer}
    (once : ∀ l ∈ layers, l.CallsOnce) (sorted : layers.Pairwise fun a b => a.order ≤ b.order)
    (few : Chain.limitersOf labels s layers ≤ each)
    (all : ∀ p, .retry p ∈ layers → Chain.limitersOf labels s layers = each) :
    (account s labels each).Prices k k each layers (each - Chain.limitersOf labels s layers) := by
  induction layers with
  | nil => exact .nil
  | cons l rest ih =>
    obtain ⟨first, later⟩ := List.pairwise_cons.mp sorted
    have inner : ∀ l' ∈ rest, l'.CallsOnce :=
      fun l' member => once l' (List.mem_cons_of_mem l member)
    by_cases limits : l.limits labels s = true
    · cases l with
      | rateLimit place =>
        have one : Chain.limitersOf labels s (.rateLimit place :: rest) =
            Chain.limitersOf labels s rest + 1 := List.countP_cons_of_pos limits
        rw [one] at few ⊢
        refine .cons (.rateLimit (covers_admits hushed ?_)) (ih inner later (by omega) ?_)
        · rw [if_pos (of_decide_eq_true limits)]
          omega
        · exact fun p member =>
            absurd (first _ member) (show ¬ Order.rateLimit ≤ Order.retry by decide)
      | _ => exact absurd limits Bool.false_ne_true
    · have same : Chain.limitersOf labels s (l :: rest) = Chain.limitersOf labels s rest :=
        List.countP_cons_of_neg limits
      rw [same] at few all ⊢
      refine .cons (costs_layer hushed (once l List.mem_cons_self) fun p here => ?_)
        (ih inner later few fun p member => all p (List.mem_cons_of_mem l member))
      rw [all p (here ▸ List.mem_cons_self), Nat.sub_self]

/-! ## Traffic -/

/-- **What is left to the calls in progress** together. -/
inductive Owed {σ : Type} (rel : σ → σ → Nat → Prop) : List σ → Nat → Prop
  | nil : Owed rel [] 0
  | cons {s : σ} {calls : List σ} {n m : Nat} (h : rel s s n) (rest : Owed rel calls m) :
    Owed rel (s :: calls) (n + m)

theorem Owed.perm {σ : Type} {rel : σ → σ → Nat → Prop} {calls calls' : List σ}
    (owed : Owed rel calls n) (same : calls.Perm calls') : Owed rel calls' n := by
  induction same generalizing n with
  | nil => exact owed
  | cons s _ ih =>
    cases owed with
    | cons h rest => exact .cons h (ih rest)
  | swap s s' calls =>
    cases owed with
    | cons h rest =>
      cases rest with
      | cons h' rest =>
        rw [Nat.add_left_comm]
        exact .cons h' (.cons h rest)
  | trans _ _ ih ih' => exact ih' (ih owed)

/-- What happens apart from a chain sends nothing, and grants may be given to others. -/
theorem pays_of_apart (h : w.Apart v) (n : Nat) : Pays s each w n v n := by
  refine ⟨funext fun place => congrArg LimiterConfig.strategy (h.config place),
    Nat.le_of_eq h.sends.symm, ?_⟩
  have more : w.grants s ≤ v.grants s := h.grants s
  rw [h.sends]
  omega

/-- **Sends of all that goes through a chain** are paid for by grants, and so is what is left to the
calls in progress. A call that is asked has what is left to it, and the others keep theirs. -/
theorem pays_of_traffic {c : Chain} {rel : (c.engineOn k).State → (c.engineOn k).State → Nat → Prop}
    (covered : Engine.Covered (account s labels each) 0 (c.engineOn k) (c.engineOn k) rel)
    (blocking : ∀ caller, Handler.Covered (account s labels each) 0 (c.callOn k caller)
      (c.callOn k caller))
    {calls : List (c.engineOn k).State} (traffic : c.Traffic k w calls v)
    (stands : w.labels = labels) : ∃ n, Owed rel calls n ∧ Pays s each w 0 v n := by
  induction traffic with
  | nil => exact ⟨0, .nil, .refl 0 w⟩
  | apart _ h ih =>
    obtain ⟨n, owed, paid⟩ := ih
    exact ⟨n, owed, paid.trans (pays_of_apart h n)⟩
  | @called calls u v caller r x _ ran ih =>
    obtain ⟨n, owed, paid⟩ := ih
    obtain ⟨left, -, own⟩ := (blocking caller r trivial).paid (paid.labels.trans stands) ran
    have added := Pays.add own n
    rw [Nat.zero_add] at added
    exact ⟨n, owed, (paid.trans added).waste (Nat.le_add_left n left)⟩
  | @started calls u v r state _ ran ih =>
    obtain ⟨n, owed, paid⟩ := ih
    obtain ⟨left, related, own⟩ := (covered.start r trivial).paid (paid.labels.trans stands) ran
    have added := Pays.add own n
    rw [Nat.zero_add] at added
    exact ⟨left + n, .cons related owed, paid.trans added⟩
  | asked _ ran ih =>
    obtain ⟨_, owed, paid⟩ := ih
    cases owed with
    | cons related rest =>
      obtain ⟨left, alike, own⟩ := (covered.poll related).paid (paid.labels.trans stands) ran
      cases alike with
      | pending related' => exact ⟨_, .cons related' rest, paid.trans (Pays.add own _)⟩
  | answered _ ran ih =>
    obtain ⟨_, owed, paid⟩ := ih
    cases owed with
    | cons related rest =>
      obtain ⟨left, -, own⟩ := (covered.poll related).paid (paid.labels.trans stands) ran
      exact ⟨_, rest, (paid.trans (Pays.add own _)).waste (Nat.le_add_left _ left)⟩
  | @dropped calls u state _ ih =>
    obtain ⟨_, owed, paid⟩ := ih
    cases owed with
    | @cons _ _ n m related rest =>
      have own : Pays s each u n ((c.engineOn k).drop state u) n := (covered.drop related).2 u n
      exact ⟨m, rest, (paid.trans (Pays.add own m)).waste (Nat.le_add_left m n)⟩
  | reordered _ same ih =>
    obtain ⟨n, owed, paid⟩ := ih
    exact ⟨n, owed.perm same, paid⟩

end Admissions

/-! ## Chains -/

namespace Chain

variable {layers : List Layer} {t : Transport} {k : Clockwork}

theorem limitersOf_arrange (labels : Nat → Strategy) (s : Strategy) (layers : List Layer) :
    limitersOf labels s (arrange layers) = limitersOf labels s layers :=
  (List.mergeSort_perm layers _).countP_eq (Layer.limits labels s)

/-- **Sends are paid for by grants:** whatever has gone through a chain, each send has had a grant
of each of its limiters of a strategy. -/
theorem Traffic.granted (once : ∀ l ∈ layers, l.CallsOnce) (honest : t.Honest) (hushed : k.Hushed)
    {w v : World} {calls : List ((build layers t).engineOn k).State}
    (traffic : (build layers t).Traffic k w calls v) (s : Strategy) :
    (v.sends - w.sends) * limitersOf w.labels s layers + w.grants s ≤ v.grants s := by
  have each : ∀ l ∈ arrange layers, l.CallsOnce :=
    fun l member => once l (List.mem_mergeSort.mp member)
  have same := limitersOf_arrange w.labels s layers
  have prices : (Admissions.account s w.labels (limitersOf w.labels s layers)).Prices k k
      (limitersOf w.labels s layers) (arrange layers)
      (limitersOf w.labels s layers - limitersOf w.labels s (arrange layers)) :=
    Admissions.prices_of_pairwise hushed each (pairwise_arrangedBy Layer.order layers)
      (Nat.le_of_eq same) fun _ _ => same
  rw [same, Nat.sub_self] at prices
  obtain ⟨rel, covered⟩ := covered_engineOf (Admissions.covers_sends honest) prices
  obtain ⟨n, -, paid⟩ := Admissions.pays_of_traffic covered
    (fun caller => covers_handlerOn (Admissions.covers_sends honest) prices caller) traffic rfl
  have more := Nat.mul_le_mul_right (limitersOf w.labels s layers) paid.sends
  have enough := paid.paid
  rw [Nat.sub_mul]
  omega

/-- **Every send is admitted.** Take any layers in any order that run the rest of the chain at most
once, besides those that repeat calls, with limiters of any configuration and with hooks at will;
any transport, and any clock. Then

* whatever has gone through the chain, blocking and asynchronous calls at the same time and given up
  at any point, there are no more sends than grants of a limiter, repetitions included: each send
  has had a grant of each of the limiters;
* a blocking call at a limiter is turned away whatever comes after it, or has a grant of its own and
  a slot when the rest of the chain runs, and has given the slot back when it returns;
* so does an asynchronous call at a limiter, whatever happens between two questions to it, as long
  as others leave its slot alone. If they leave the slots as they are, there is one more slot taken
  when the rest of the chain starts than before, and as many when the call returns. -/
theorem sends_admitted (once : ∀ l ∈ layers, l.CallsOnce) (honest : t.Honest) (hushed : k.Hushed) :
    (∀ w v calls s, (build layers t).Traffic k w calls v →
      (v.sends - w.sends) * limitersOf w.labels s layers + w.grants s ≤ v.grants s) ∧
    ∀ outer place inner, (build layers t).layers = outer ++ .rateLimit place :: inner →
      (∀ caller r w x v, handlerOn k caller t (.rateLimit place :: inner) r w = .ok (x, v) →
        Layer.BlockingPass k place (handlerOn k caller t inner) r w x v) ∧
      ∀ meanwhile : World → World → Prop, (∀ w, meanwhile w w) →
        ∀ r w v (p : Progress (Layer.Admitting (engineOf k t inner).State)) steps,
          (engineOf k t (.rateLimit place :: inner)).Course (World.SharesLimiter place meanwhile)
            r w p v steps →
          (∃ fine, Layer.Pass k place meanwhile (engineOf k t inner) r w p v fine ∧
            ∀ count, ownChange count fine = ownChange count steps) ∧
          ((∀ u w, meanwhile u w → w.inFlight place = u.inFlight place) →
            ∀ x, p = .ready x → v.inFlight place = w.inFlight place) := by
  refine ⟨fun w v calls s traffic => traffic.granted once honest hushed s, ?_⟩
  intro outer place inner found
  have innermost : ∀ l ∈ inner, l.Innermost := by
    have sorted : (arrange layers).Pairwise fun a b => a.order ≤ b.order :=
      pairwise_arrangedBy Layer.order layers
    rw [show arrange layers = _ from found, List.pairwise_append] at sorted
    have after := (List.pairwise_cons.mp sorted.2.1).1
    exact fun l member => Layer.innermost_of_le (after l member)
  refine ⟨fun caller r w x v ran => ?_, fun meanwhile still r w v p steps course => ?_⟩
  · exact Layer.blockingPass_of_ok hushed (holds_handlerOn hushed innermost caller t) ran
  · obtain ⟨held, holds⟩ := holds_engineOf place hushed innermost t
    obtain ⟨fine, pass, same, -⟩ := Layer.pass_of_course hushed holds still course
    refine ⟨⟨fine, pass, same⟩, ?_⟩
    rintro undisturbed x rfl
    have changed := course.change_eq (World.inFlight place) fun _ _ _ shares =>
      undisturbed _ _ shares.so
    have nothing := pass.change_of_ready
    rw [same] at nothing
    omega

/-- A limiter and a layer that repeats calls, which comes first for all that it is listed last. -/
def limited : List Layer := [.rateLimit 0, .retry Layer.steadyPolicy]

/-- Behind that limiter, there are no more sends than grants, though calls are repeated, also where
waits stand. -/
theorem sends_admitted_limited :
    (∀ l ∈ limited, l.CallsOnce) ∧ (Transport.blocking Layer.unavailable).Honest ∧
    Clockwork.immediate.Hushed ∧ Clockwork.standing.Hushed ∧
    (∀ w v calls, (build limited (.blocking Layer.unavailable)).Traffic .standing w calls v →
      v.sends - w.sends + w.grants (w.labels 0) ≤ v.grants (w.labels 0)) ∧
    ∀ caller r w x v,
      handlerOn .immediate caller (.blocking Layer.unavailable) [.rateLimit 0] r w = .ok (x, v) →
      Layer.BlockingPass .immediate 0 ((Transport.blocking Layer.unavailable).call caller)
        r w x v := by
  have once : ∀ l ∈ limited, l.CallsOnce := by
    intro l member
    simp only [limited, List.mem_cons, List.not_mem_nil, or_false] at member
    rcases member with rfl | rfl
    exacts [.rateLimit 0, .retry Layer.steadyPolicy]
  have honest : (Transport.blocking Layer.unavailable).Honest := .blocking fun _ _ => rfl
  have admitted := sends_admitted once honest Clockwork.hushed_immediate
  have arranged : (build limited (.blocking Layer.unavailable)).layers =
      [.retry Layer.steadyPolicy] ++ [.rateLimit 0] := by
    simp [build, arrange, limited, List.mergeSort, Layer.order, Order.rateLimit, Order.retry]
  refine ⟨once, honest, Clockwork.hushed_immediate, Clockwork.hushed_standing,
    fun w v calls traffic => ?_, (admitted.2 _ 0 [] arranged).1⟩
  have standing := sends_admitted once honest Clockwork.hushed_standing
  have paid := standing.1 w v calls (w.labels 0) traffic
  have one : limitersOf w.labels (w.labels 0) limited = 1 :=
    List.countP_cons_of_pos (decide_eq_true rfl)
  rwa [one, Nat.mul_one] at paid

end Chain

end Outbound
