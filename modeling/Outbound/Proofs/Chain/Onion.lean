import Outbound.Proofs.Chain.Arrangement
import Outbound.Proofs.Lockstep

/-!
# Interceptors around a transport

The layers of a chain are nested, each around the rest. For interceptors the nesting comes to three
stages one after the other: request hooks in the order of the chain up to the first that fails, the
send if none fails, and the other hooks of those that let the request through, the last one first.

## Main definitions

* `Interceptor.enter`, `Interceptor.leave`: the first and the last of these stages
* `Interceptor.onion`: a call through interceptors, stage after stage
* `Interceptor.Entered`: how far the first stage has got
* `Transport.sendThrough`: an asynchronous send brought to its end

## Main results

* `Chain.handler_interceptors`, `Engine.run_interceptors`: blocking and asynchronous calls are such
  calls
* `Chain.call_interceptors`: all of this for a chain that is built from interceptors
-/

namespace Outbound

namespace Run

theorem act_pure {α : Type} (a : α) : act (pure a) = pure a := rfl

theorem act_bind {α β : Type} (m : Act α) (k : α → Act β) :
    act (m >>= k) = act m >>= fun a => act (k a) := rfl

end Run

namespace Interceptor

/-- An interceptor as a layer. -/
def layer (i : Interceptor) : Layer := .passage i.passage

/-- **The way in:** request hooks one after the other, up to the first that fails. It ends with the
contexts of the requests that hooks let through, one for each of them, and with the last of these
requests or the failure. -/
def enter : List Interceptor → Request → Act (List ContextId × Except Failure Request)
  | [], r => pure ([], .ok r)
  | i :: rest, r => do
    match ← i.onRequest r with
    | .error f => pure ([], .error f)
    | .ok r => do
      let (ids, outcome) ← enter rest r
      pure (r.context :: ids, outcome)

/-- **The way out:** one hook of each interceptor that let the request through, the last one first.
It is the hook for responses if a response comes from inside, and the hook for failures if a failure
does. -/
def leave : List Interceptor → List ContextId → Result → Act Result
  | i :: rest, id :: ids, inner => do
    match ← leave rest ids inner with
    | .ok response => i.onResponse id response
    | .error failure => i.onFailure id failure
  | _, _, inner => pure inner

/-- **A call through interceptors,** stage after stage. -/
def onion (is : List Interceptor) (send : Handler) : Handler := fun r => do
  let (ids, outcome) ← Run.act (enter is r)
  let inner ← match outcome with
    | .ok r => send r
    | .error f => pure (.error f)
  Run.act (leave is ids inner)

/-- **How far the way in has got** from a scene: every interceptor let the request through, or the
first that did not failed at the end of it. -/
def Entered (is : List Interceptor) (r : Request) (s : Scene) : Prop :=
  match (enter is r s).1 with
  | (ids, .ok _) => ids.length = is.length
  | (ids, .error f) => ∃ i r' s', is[ids.length]? = some i ∧
      i.onRequest r' s' = (.error f, (enter is r s).2)

variable {i : Interceptor} {rest : List Interceptor}

theorem enter_cons_of_error {r : Request} {f : Failure} {s s' : Scene}
    (failed : i.onRequest r s = (.error f, s')) : enter (i :: rest) r s = (([], .error f), s') := by
  show ((i.onRequest r >>= fun x => _ : Act _) s) = _
  simp only [bind, StateT.bind, failed]
  rfl

theorem enter_cons_of_ok {r r' : Request} {s s' : Scene}
    (passed : i.onRequest r s = (.ok r', s')) :
    enter (i :: rest) r s =
      ((r'.context :: (enter rest r' s').1.1, (enter rest r' s').1.2), (enter rest r' s').2) := by
  show ((i.onRequest r >>= fun x => _ : Act _) s) = _
  simp only [bind, StateT.bind, passed]
  rfl

/-- **Every interceptor lets the request through, or one fails:** then it is the next one. Each hook
runs in the scene that those before it have left. -/
theorem entered (is : List Interceptor) (r : Request) (s : Scene) : Entered is r s := by
  induction is generalizing r s with
  | nil => exact rfl
  | cons i rest ih =>
    rcases ran : i.onRequest r s with ⟨f | r', s'⟩
    · rw [Entered, enter_cons_of_error ran]
      exact ⟨i, r, s, rfl, ran⟩
    · have inner := ih r' s'
      rw [Entered] at inner ⊢
      rw [enter_cons_of_ok ran]
      rcases ended : enter rest r' s' with ⟨⟨ids, f | r''⟩, s''⟩
      · rw [ended] at inner
        obtain ⟨j, r₁, s₁, next, failed⟩ := inner
        exact ⟨j, r₁, s₁, next, failed⟩
      · rw [ended] at inner
        exact congrArg (· + 1) inner

/-- On the way out an interceptor takes the result of those inside it, as its passage does. -/
theorem leave_cons (id : ContextId) (ids : List ContextId) (inner : Result) :
    leave (i :: rest) (id :: ids) inner = leave rest ids inner >>= i.onResult id := by
  rw [leave]
  rfl

/-- The first interceptor is the first on the way in and the last on the way out. -/
theorem onion_cons (i : Interceptor) (rest : List Interceptor) (send : Handler) (r : Request) :
    onion (i :: rest) send r = (do
      match ← Run.act (i.onRequest r) with
      | .error f => pure (.error f)
      | .ok r => do
        let result ← onion rest send r
        Run.act (i.onResult r.context result)) := by
  rw [onion, enter]
  simp only [Run.act_bind, bind_assoc]
  congr 1
  funext outcome
  cases outcome with
  | error f => rfl
  | ok r =>
    simp only [onion, Run.act_bind, Run.act_pure, bind_assoc, pure_bind, leave_cons]
    congr 1
    funext ended
    rcases ended with ⟨ids, f | r'⟩
    · rfl
    · simp only [bind_assoc]

/-- **The hooks of one interceptor** around a call through the others: the hook for requests first,
and after what comes from inside the hook for responses or the one for failures. -/
theorem onion_hooks (i : Interceptor) (rest : List Interceptor) (send : Handler) (r : Request) :
    onion (i :: rest) send r = (do
      match ← Run.act (i.onRequest r) with
      | .error failure => pure (.error failure)
      | .ok r => do
        match ← onion rest send r with
        | .ok response => Run.act (i.onResponse r.context response)
        | .error failure => Run.act (i.onFailure r.context failure)) := by
  have hook (id : ContextId) (result : Result) : Run.act (i.onResult id result) = (match result with
      | .ok response => Run.act (i.onResponse id response)
      | .error failure => Run.act (i.onFailure id failure)) := by
    cases result <;> rfl
  rw [onion_cons]
  simp only [hook]

/-- The way in through an interceptor as a passage. -/
theorem enter_passage (i : Interceptor) (r : Request) :
    i.passage.enter r = i.onRequest r >>= fun x =>
      pure (match x with
        | .ok r => .ok r
        | .error f => .error (.error f)) := by
  show (i.onRequest r >>= fun x => _ : Act _) = _
  congr 1
  funext x
  cases x <;> rfl

end Interceptor

/-! ## Calls that always end -/

/-- **A handler always ends with a result.** -/
def Handler.Ends (next : Handler) : Prop := ∀ r w, ∃ x v, next r w = .ok (x, v)

/-- A call through interceptors ends if the send in between does, for hooks always answer. -/
theorem Interceptor.ends_onion {send : Handler} (ends : send.Ends) (is : List Interceptor) :
    Handler.Ends (onion is send) := by
  intro r w
  rcases entered : enter is r w.scene with ⟨⟨ids, f | r'⟩, s⟩
  · have way : Run.act (enter is r) w = .ok ((ids, .error f), { w with scene := s }) := by
      simp only [Run.act, entered]
    rw [onion, bind_of_ok way]
    exact ⟨_, _, rfl⟩
  · have way : Run.act (enter is r) w = .ok ((ids, .ok r'), { w with scene := s }) := by
      simp only [Run.act, entered]
    obtain ⟨x, v, sent⟩ := ends r' { w with scene := s }
    rw [onion, bind_of_ok way]
    show ∃ y u, (send r' >>= fun inner => Run.act (leave is ids inner)) _ = .ok (y, u)
    rw [bind_of_ok sent]
    exact ⟨_, _, rfl⟩

namespace Transport

theorem ends_call (t : Transport) (caller : Caller) : Handler.Ends (t.call caller) := by
  intro r w
  cases t <;> exact ⟨_, _, rfl⟩

/-- **An asynchronous send brought to its end:** the timer moves until the result is there. -/
def sendThrough (t : Transport) (r : Request) : Run Result :=
  match t with
  | .blocking _ => t.call .thread r
  | .deferred send => do
    sendStarts r
    let (result, delay) ← Run.act (send r)
    modify fun w => { w with timer := w.timer + delay }
    pure result

theorem ends_sendThrough (t : Transport) : Handler.Ends t.sendThrough := by
  intro r w
  cases t <;> exact ⟨_, _, rfl⟩

end Transport

/-! ## Blocking calls -/

open Interceptor (onion layer)

/-- **A blocking call through interceptors** goes stage after stage. -/
theorem Chain.handler_interceptors (caller : Caller) (t : Transport) (is : List Interceptor) :
    handler caller t (is.map layer) = onion is (t.call caller) := by
  induction is with
  | nil =>
    funext r
    show t.call caller r = (t.call caller r >>= fun x => pure x)
    rw [bind_pure]
  | cons i rest ih =>
    funext r
    rw [Interceptor.onion_cons, ← ih]
    show (Run.act (i.passage.enter r) >>= _) = _
    rw [Interceptor.enter_passage, Run.act_bind, bind_assoc]
    congr 1
    funext x
    cases x <;> rfl

/-! ## Asynchronous calls -/

namespace Engine

variable {k : Clockwork} {e : Engine} {p : Passage}

theorem exists_patience_eq : ∃ n, patience = n + 2 := ⟨18446744073709551614, rfl⟩

/-- What follows a question. -/
def driveOn (e : Engine) (fuel : Nat) : Progress e.State → Run (Option Result)
  | .ready result => pure (some result)
  | .pending s none => do
    modify (e.drop s)
    pure none
  | .pending s (some wake) => do
    modify fun w => { w with timer := max w.timer wake }
    e.drive s fuel

theorem drive_succ (e : Engine) (s : e.State) (fuel : Nat) :
    e.drive s (fuel + 1) = e.poll s >>= e.driveOn fuel := by
  show (e.poll s >>= fun p => _) = _
  congr 1

theorem drive_of_ready {s : e.State} {w v : World} {x : Result} (fuel : Nat)
    (answer : e.poll s w = .ok (.ready x, v)) : e.drive s (fuel + 1) w = .ok (some x, v) := by
  rw [drive_succ, bind_of_ok answer]
  rfl

theorem drive_of_pending {s s' : e.State} {w v : World} {wake : Nat} (fuel : Nat)
    (answer : e.poll s w = .ok (.pending s' (some wake), v)) :
    e.drive s (fuel + 1) w = e.drive s' fuel { v with timer := max v.timer wake } := by
  rw [drive_succ, bind_of_ok answer]
  rfl

/-- The result of a send is there after its delay. The first question fixes the deadline, to which
the timer goes, and so the second one ends it. -/
theorem drive_sent (t : Transport) (result : Result) (delay n : Nat) :
    (ofTransport t).drive (.sent result delay) (n + 2) =
      (modify fun w : World => { w with timer := w.timer + delay }) >>= fun _ =>
        pure (some result) := by
  funext w
  rcases delay with _ | delay
  · rfl
  · have early : ¬ w.timer + (delay + 1) ≤ w.timer := by omega
    have first : (ofTransport t).poll (.sent result (delay + 1)) w =
        .ok (.pending (.timed result (w.timer + (delay + 1))) (some (w.timer + (delay + 1))), w) := by
      show (await result (w.timer + (delay + 1))) w = _
      show (if w.timer + (delay + 1) ≤ w.timer then _ else _ : Run _) w = _
      rw [if_neg early]
      rfl
    let v : World := { w with timer := max w.timer (w.timer + (delay + 1)) }
    have late : v.timer = w.timer + (delay + 1) := Nat.max_eq_right (Nat.le_add_right _ _)
    have second : (ofTransport t).poll (.timed result (w.timer + (delay + 1))) v =
        .ok (.ready result, v) := by
      show (if w.timer + (delay + 1) ≤ v.timer then _ else _ : Run _) v = _
      rw [if_pos (Nat.le_of_eq late.symm)]
      rfl
    refine (drive_of_pending (n + 1) first).trans ((drive_of_ready n second).trans ?_)
    show Except.ok (some result, v) = .ok (some result, { w with timer := w.timer + (delay + 1) })
    rw [← late]

/-- A call over a transport alone comes to its end in two questions at most. -/
theorem run_ofTransport (t : Transport) (r : Request) :
    (ofTransport t).run r = some <$> t.sendThrough r := by
  obtain ⟨n, enough⟩ := exists_patience_eq
  rw [run, enough]
  cases t with
  | blocking send => rfl
  | deferred send =>
    refine (bind_assoc (sendStarts r) _ _).trans ?_
    rw [Transport.sendThrough, map_bind]
    congr 1
    funext _
    refine (bind_assoc (Run.act (send r)) _ _).trans ?_
    rw [map_bind]
    congr 1
    funext outcome
    obtain ⟨result, delay⟩ := outcome
    exact drive_sent (.deferred send) result delay n

/-- Once the rest of the chain has its result, the result goes the way out. All other answers of the
rest are handed on as they are. -/
theorem drive_passageEngine (id : ContextId) (s : e.State) (fuel : Nat) :
    (Layer.passageEngine p e).drive (.running id s) fuel = e.drive s fuel >>= fun x =>
      match x with
      | some result => some <$> Run.act (p.leave id result)
      | none => pure none := by
  induction fuel generalizing s with
  | zero => rfl
  | succ fuel ih =>
    refine (drive_succ (Layer.passageEngine p e) (.running id s) fuel).trans ?_
    rw [drive_succ, bind_assoc]
    refine (bind_assoc (e.poll s) _ _).trans ?_
    congr 1
    funext answer
    rcases answer with result | ⟨s', _ | wake⟩
    · exact bind_assoc (Run.act (p.leave id result)) _ _
    · rfl
    · let wait : Run PUnit := modify fun w => { w with timer := max w.timer wake }
      show (wait >>= fun _ => (Layer.passageEngine p e).drive (.running id s') fuel) = _
      rw [ih]
      exact (bind_assoc wait _ _).symm

/-- **An asynchronous call through a passage** goes as a blocking one. -/
theorem run_passageEngine (p : Passage) (e : Engine) (r : Request) :
    (Layer.passageEngine p e).run r = Run.act (p.enter r) >>= fun x =>
      match x with
      | .error result => pure (some result)
      | .ok r => e.run r >>= fun x =>
        match x with
        | some result => some <$> Run.act (p.leave r.context result)
        | none => pure none := by
  obtain ⟨n, enough⟩ := exists_patience_eq
  refine (bind_assoc (Run.act (p.enter r)) _ _).trans ?_
  congr 1
  funext x
  cases x with
  | error result =>
    rw [enough]
    rfl
  | ok r =>
    refine (bind_assoc (e.start r) _ _).trans (Eq.trans ?_ (bind_assoc (e.start r) _ _).symm)
    congr 1
    funext s
    exact drive_passageEngine r.context s patience

/-- **An asynchronous call through interceptors** goes stage after stage: an interceptor is a
passage around the rest. -/
theorem run_interceptors (k : Clockwork) (t : Transport) (is : List Interceptor) (r : Request) :
    (Chain.engineOf k t (is.map layer)).run r = some <$> onion is t.sendThrough r := by
  induction is generalizing r with
  | nil =>
    show (ofTransport t).run r = some <$> (t.sendThrough r >>= fun x => pure x)
    rw [bind_pure, run_ofTransport]
  | cons i rest ih =>
    show (Layer.passageEngine i.passage (Chain.engineOf k t (rest.map layer))).run r = _
    rw [run_passageEngine, Interceptor.onion_cons, Interceptor.enter_passage, Run.act_bind]
    simp only [bind_assoc, map_bind, Run.act_pure, pure_bind]
    congr 1
    funext x
    cases x with
    | error f => rfl
    | ok r =>
      simp only [ih, bind_map_left, map_bind]
      rfl

end Engine

/-! ## Chains of interceptors -/

/-- Interceptors in the order of the chain that is built from them. -/
def Interceptor.arrange (is : List Interceptor) : List Interceptor := arrangedBy Interceptor.order is

namespace Chain

theorem arrange_interceptors (is : List Interceptor) :
    arrange (is.map layer) = (Interceptor.arrange is).map layer :=
  (arrange_eq _).trans (map_arrangedBy layer (fun _ => rfl) is)

variable {is : List Interceptor} {t : Transport}

/-- A chain that is built from interceptors. -/
def ofInterceptors (is : List Interceptor) (t : Transport) : Chain := build (is.map layer) t

theorem ofInterceptors_eq (is : List Interceptor) (t : Transport) :
    ofInterceptors is t = ⟨(Interceptor.arrange is).map layer, t⟩ := by
  rw [ofInterceptors, build, arrange_interceptors]

/-- **Interceptors form an onion.** They are arranged by ascending order, those of one order as they
came. Every call runs the request hooks in that arrangement up to the first that fails, sends once
if none fails and not at all otherwise, and then runs one hook of each interceptor that let the
request through, the last one first: the hook for responses where a response comes from inside, and
the hook for failures where a failure does. The call ends with what the outermost of these hooks
returns, or with the failure of the request hook if there is none, and it always ends. Where no
order occurs twice, it does not matter how the interceptors are listed. -/
theorem call_interceptors (is : List Interceptor) (t : Transport) :
    (ofInterceptors is t).layers = (Interceptor.arrange is).map layer ∧
    (Interceptor.arrange is).Perm is ∧
    (Interceptor.arrange is).Pairwise (fun i j => i.order ≤ j.order) ∧
    (∀ o : Int, (Interceptor.arrange is).filter (fun i => i.order = o) =
      is.filter fun i => i.order = o) ∧
    (∀ caller r, (ofInterceptors is t).call caller r =
      onion (Interceptor.arrange is) (t.call caller) r) ∧
    (∀ k r, ((ofInterceptors is t).engineOn k).run r =
      some <$> onion (Interceptor.arrange is) t.sendThrough r) ∧
    (∀ i rest send r, onion (i :: rest) send r = (do
      match ← Run.act (i.onRequest r) with
      | .error failure => pure (.error failure)
      | .ok r => do
        match ← onion rest send r with
        | .ok response => Run.act (i.onResponse r.context response)
        | .error failure => Run.act (i.onFailure r.context failure))) ∧
    (∀ r s, Interceptor.Entered (Interceptor.arrange is) r s) ∧
    (∀ caller r w, ∃ x v, (ofInterceptors is t).call caller r w = .ok (x, v)) ∧
    (∀ k r w, ∃ x v, ((ofInterceptors is t).engineOn k).run r w = .ok (some x, v)) ∧
    ∀ js : List Interceptor, js.Perm is → (is.map Interceptor.order).Nodup →
      ofInterceptors js t = ofInterceptors is t := by
  have blocking (caller r) : (ofInterceptors is t).call caller r =
      onion (Interceptor.arrange is) (t.call caller) r := by
    rw [ofInterceptors_eq, ← handler_interceptors]
    rfl
  have driven (k r) : ((ofInterceptors is t).engineOn k).run r =
      some <$> onion (Interceptor.arrange is) t.sendThrough r := by
    rw [ofInterceptors_eq, ← Engine.run_interceptors]
    rfl
  refine ⟨?_, perm_arrangedBy _ is, pairwise_arrangedBy _ is, filter_arrangedBy _ is, blocking, driven,
    Interceptor.onion_hooks, Interceptor.entered _, ?_, ?_, ?_⟩
  · rw [ofInterceptors_eq]
  · intro caller r w
    rw [blocking]
    exact Interceptor.ends_onion (t.ends_call caller) _ r w
  · intro k r w
    obtain ⟨x, v, ran⟩ := Interceptor.ends_onion t.ends_sendThrough (Interceptor.arrange is) r w
    refine ⟨x, v, ?_⟩
    rw [driven]
    show (onion _ _ r >>= fun x => pure (some x)) w = _
    rw [bind_of_ok ran]
    rfl
  · intro js perm distinct
    rw [ofInterceptors_eq, ofInterceptors_eq, Interceptor.arrange, Interceptor.arrange,
      arrangedBy_eq_of_perm perm.symm distinct]

/-- Hooks that leave a remark each. The request hook fails if asked to, and the hook for failures
makes up a response if asked to. -/
def remarking (name : String) (order : Int) (fails recovers : Bool) : Interceptor where
  name := name
  order := order
  onRequest r s :=
    (if fails then .error .interrupted else .ok r, s.log (.note (name ++ " request")))
  onResponse _ r s := (.ok r, s.log (.note (name ++ " response")))
  onFailure _ f s :=
    (if recovers then .ok (.ofStatus .ok) else .error f, s.log (.note (name ++ " failure")))

/-- Three interceptors in the order of their chain. The last one may refuse every request, and the
middle one may recover. -/
def three (refuses recovers : Bool) : List Interceptor :=
  [remarking "outer" (-5) false false, remarking "middle" 0 false recovers,
    remarking "inner" 7 refuses false]

/-- A transport that answers every request. -/
def answering : Transport := .blocking fun _ => pure (.ok (.ofStatus .ok))

/-- A transport that is interrupted at every request. -/
def interrupting : Transport := .blocking fun _ => pure (.error .interrupted)

/-- However the three are listed, the inner hook for the request is the last one that runs on the way
in if it refuses the request, nothing is sent, and the hooks for the failure run in reverse. If it
lets the request through and the send fails, the middle hook may recover, and then the outer hook is
the one for responses. -/
theorem call_interceptors_three :
    (three true false).reverse.Perm (three true false) ∧
    ((three true false).map Interceptor.order).Nodup ∧
    ofInterceptors (three true false).reverse answering =
      ofInterceptors (three true false) answering ∧
    (∃ v, (ofInterceptors (three true false).reverse answering).call .thread default default =
        .ok (.error .interrupted, v) ∧
      v.scene.journal = [.note "outer failure", .note "middle failure", .note "inner request",
        .note "middle request", .note "outer request"]) ∧
    ∃ v, (ofInterceptors (three false true) interrupting).call .thread default default =
        .ok (.ok (.ofStatus .ok), v) ∧
      v.scene.journal = [.note "outer response", .note "middle failure", .note "inner failure",
        .send default, .note "inner request", .note "middle request", .note "outer request"] := by
  have perm : (three true false).reverse.Perm (three true false) := List.reverse_perm _
  have distinct : ((three true false).map Interceptor.order).Nodup := by decide
  obtain ⟨-, -, -, -, calls, -, -, -, -, -, listed⟩ := call_interceptors (three true false) answering
  obtain ⟨-, -, -, -, recovered, -⟩ := call_interceptors (three false true) interrupting
  have same := listed (three true false).reverse perm distinct
  have inPlace (refuses recovers : Bool) :
      Interceptor.arrange (three refuses recovers) = three refuses recovers :=
    List.mergeSort_of_pairwise (by cases refuses <;> cases recovers <;> decide)
  refine ⟨perm, distinct, same, ?_, ?_⟩
  · rw [same, calls, inPlace]
    exact ⟨_, rfl, rfl⟩
  · rw [recovered, inPlace]
    exact ⟨_, rfl, rfl⟩

end Chain

end Outbound
