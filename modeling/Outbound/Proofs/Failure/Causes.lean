import Mathlib.Data.List.Destutter
import Mathlib.Logic.Function.Iterate
import Outbound.Failure.Basic
import Outbound.Retry.Policy

/-!
# What is recognised in a chain of causes

A failed send is judged by itself and by the causes below it, one after the other until there is
none. Only failed sends and system errors are recognised among them, and a policy decides by what
was recognised, however often and in whatever order. The failure of another call is passed over when
it is a cause: what lies below it is still found, but not what it is itself.

## Main definitions

* `Link.follow`, `Failure.first`: the way from cause to cause, and where it begins
* `Link.Shows`: what a link shows by itself
* `Failure.elapsed`, `Failure.kind?`: the categories of failures by themselves
* `Failure.causing`: a failed send that another failure has caused

## Main results

* `Link.getElem?_chain`: the links of a chain are those met by following causes
* `Link.kind?_eq_some_iff`: a link is recognised by what it shows
* `Failure.mem_kinds`: the categories found in a failure
* `RetryPolicy.classify_eq_retryable_iff`: what a policy makes of a failure
* `Failure.links_recognised`: what is recognised in a failure, and what policies make of it
* `Failure.kinds_kept_iff`: when a failed send shows everything that its cause shows
* `Failure.reset_hidden`: a cause that is hidden
-/

namespace Outbound

/-! ## Adjacent repeats -/

section Repeats

variable {α : Type} [DecidableEq α] {a : α}

theorem dedupAdjacent_eq_destutter (l : List α) : dedupAdjacent l = l.destutter (· ≠ ·) := by
  fun_induction dedupAdjacent l with
  | case1 => rfl
  | case2 a => rfl
  | case3 a rest ih =>
    rw [ih, List.destutter_cons', List.destutter_cons', List.destutter'_cons_neg _ (by simp)]
  | case4 a b rest distinct ih =>
    rw [ih, List.destutter_cons', List.destutter_cons', List.destutter'_cons_pos _ distinct]

/-- Repeats that are shown once are still shown. -/
@[simp] theorem mem_dedupAdjacent (l : List α) : a ∈ dedupAdjacent l ↔ a ∈ l := by
  fun_induction dedupAdjacent l with
  | case1 => rfl
  | case2 b => rfl
  | case3 b rest ih => simp [ih]
  | case4 b c rest distinct ih => simp [ih]

end Repeats

/-! ## Following causes -/

namespace Link

/-- One step along a chain of causes. -/
def follow (link : Option Link) : Option Link := link.bind source

/-- **A chain is a link and the chain of its cause.** -/
theorem chain_eq (l : Link) : l.chain = l :: (l.source.map chain).getD [] := by
  rw [chain]
  split
  · next last => rw [last]; rfl
  · next cause below => rw [below]; rfl

/-- **The links of a chain are those met by following causes,** in that order; where the chain has
ended there is none, however far they are followed. -/
theorem getElem?_chain (l : Link) (n : Nat) : l.chain[n]? = follow^[n] (some l) := by
  induction n generalizing l with
  | zero => rw [chain_eq]; rfl
  | succ n ih =>
    rw [chain_eq, List.getElem?_cons_succ, Function.iterate_succ_apply]
    show _ = follow^[n] l.source
    cases l.source with
    | none => exact (Function.iterate_fixed rfl n).symm
    | some cause => exact ih cause

/-- **What a link shows by itself:** a failed send its category, and an operating system error the
category of its kind, whether or not it wraps another error. The failure of another call shows
nothing, nor does an error of an unrelated type. -/
inductive Shows : Link → TransportKind → Prop
  | transport (kind : TransportKind) (message : String) (source : Option Link) :
    Shows (.transport kind message source) kind
  | system (kind : SystemKind) (text : String) : Shows (.system kind text) kind.transport
  | wrapping (kind : SystemKind) (inner : Link) : Shows (.wrapping kind inner) kind.transport

/-- **A link is recognised by what it shows.** -/
theorem kind?_eq_some_iff {l : Link} {kind : TransportKind} :
    l.kind? = some kind ↔ l.Shows kind := by
  constructor
  · intro recognised
    cases l with
    | transport _ message source => exact Option.some.inj recognised ▸ .transport _ message source
    | system own text => exact Option.some.inj recognised ▸ .system own text
    | wrapping own inner => exact Option.some.inj recognised ▸ .wrapping own inner
    | failure _ => cases recognised
    | plain _ _ => cases recognised
  · rintro (_ | _ | _) <;> rfl

end Link

namespace Failure

/-- The link from which the causes of a failure are followed: a failed send is one itself. -/
def first : Failure → Option Link
  | .transport kind message source => some (.transport kind message source)
  | f => f.source

/-- A passed deadline counts before all links. -/
def elapsed : Failure → List TransportKind
  | .timeout _ => [.timedOut]
  | _ => []

/-- **The category of a failure by itself.** -/
def kind? : Failure → Option TransportKind
  | .timeout _ => some .timedOut
  | f => f.transportKind?

theorem getElem?_links (f : Failure) (n : Nat) : f.links[n]? = Link.follow^[n] f.first := by
  cases f with
  | transport kind message source => exact Link.getElem?_chain _ n
  | _ => exact (Function.iterate_fixed rfl n).symm

theorem kinds_eq (f : Failure) :
    f.kinds = dedupAdjacent (f.elapsed ++ f.links.filterMap Link.kind?) := by
  cases f <;> rfl

/-- **The categories found in a failure:** its own and those of the causes below it. -/
theorem mem_kinds {f : Failure} {kind : TransportKind} :
    kind ∈ f.kinds ↔ f.kind? = some kind ∨ ∃ cause ∈ f.causes, cause.kind? = some kind := by
  rw [kinds_eq, mem_dedupAdjacent]
  cases f with
  | transport own message source =>
    show kind ∈ [] ++ List.filterMap Link.kind? (Link.transport own message source).chain ↔ _
    rw [List.nil_append, Link.chain_eq, List.mem_filterMap, List.exists_mem_cons_iff]
    rfl
  | timeout after => simp [elapsed, links, kind?, causes, source, eq_comm]
  | _ => simp [elapsed, links, kind?, transportKind?, causes, source]

end Failure

/-! ## Policies -/

namespace RetryPolicy

variable {p : RetryPolicy} {f : Failure}

/-- **What a policy looks for in a failure:** a category of its own among those that were seen, or a
test that accepts the failure. -/
def Accepts (p : RetryPolicy) (f : Failure) (seen : List TransportKind) : Prop :=
  (∃ kind ∈ seen, kind ∈ p.rules.kinds) ∨ ∃ test, p.rules.failureTest = some test ∧ test f = true

theorem accepts_congr {seen seen' : List TransportKind}
    (same : ∀ kind, kind ∈ seen ↔ kind ∈ seen') : p.Accepts f seen ↔ p.Accepts f seen' := by
  simp only [Accepts, same]

theorem isRetryableFailure_iff : p.isRetryableFailure f = true ↔ p.Accepts f f.kinds := by
  rw [isRetryableFailure, Bool.or_eq_true, List.any_eq_true, Option.any_eq_true]
  simp only [List.contains_iff_mem, Accepts]

theorem classify_eq_retryable_iff :
    p.classify (.error f) = .retryable (.failure f) ↔ p.Accepts f f.kinds := by
  rw [← isRetryableFailure_iff, classify]
  split <;> simp_all

theorem classify_eq_fatal_iff :
    p.classify (.error f) = .fatal (.failure f) ↔ ¬ p.Accepts f f.kinds := by
  rw [← isRetryableFailure_iff, classify]
  split <;> simp_all

theorem isRetryable_classify_iff :
    (p.classify (.error f)).isRetryable = true ↔ p.Accepts f f.kinds := by
  rw [← isRetryableFailure_iff, classify]
  split <;> simp_all [Outcome.isRetryable]

theorem problem?_standard : RetryRules.standard.problem? = none := by decide +kernel

/-- A policy without tests that looks for one category. -/
def lookingFor (kind : TransportKind) : RetryPolicy where
  rules := { RetryRules.standard with kinds := [kind] }
  sound := problem?_standard

theorem isRetryable_lookingFor {kind : TransportKind} :
    ((lookingFor kind).classify (.error f)).isRetryable = true ↔ kind ∈ f.kinds := by
  rw [isRetryable_classify_iff]
  simp [Accepts, lookingFor, RetryRules.standard]

end RetryPolicy

namespace Failure

/-- **What is recognised in a failure, and what policies make of it.** Following causes from the
failed send itself comes to an end. The categories found are those that the links met on the way
show by themselves, in order, after that of a passed deadline, each run of repeats shown once. And a
policy decides as if it had looked at all of them. -/
theorem links_recognised (f : Failure) :
    ∃ met : List Link, (∀ n, met[n]? = Link.follow^[n] f.first) ∧
      (∀ (link : Link) (kind : TransportKind), link.kind? = some kind ↔ link.Shows kind) ∧
      f.kinds = (f.elapsed ++ met.filterMap Link.kind?).destutter (· ≠ ·) ∧
      ∀ p : RetryPolicy,
        (p.classify (.error f) = .retryable (.failure f) ↔
          p.Accepts f (f.elapsed ++ met.filterMap Link.kind?)) ∧
        (p.classify (.error f) = .fatal (.failure f) ↔
          ¬ p.Accepts f (f.elapsed ++ met.filterMap Link.kind?)) := by
  have same : ∀ kind, kind ∈ f.kinds ↔ kind ∈ f.elapsed ++ f.links.filterMap Link.kind? := by
    intro kind
    rw [kinds_eq, mem_dedupAdjacent]
  refine ⟨f.links, f.getElem?_links, fun _ _ => Link.kind?_eq_some_iff, ?_, fun p => ⟨?_, ?_⟩⟩
  · rw [kinds_eq, dedupAdjacent_eq_destutter]
  · rw [RetryPolicy.classify_eq_retryable_iff, RetryPolicy.accepts_congr same]
  · rw [RetryPolicy.classify_eq_fatal_iff, RetryPolicy.accepts_congr same]

/-- A system error that wraps another error is met in its place: the wrapped one is not met, what
lies below that one is. -/
example : (Failure.transport .protocol "" (some (.wrapping .brokenPipe
    (.transport .dns "" (some (.plain "" (some (.system .unexpectedEof "")))))))).kinds =
      [.protocol, .connectionReset, .protocol] := by
  cbv

/-! ## Failures as causes -/

/-- **A failed send that the failure of another call has caused.** -/
def causing (f : Failure) (kind : TransportKind) (message : String) : Failure :=
  .transport kind message (some (.failure f))

/-- Whether the category of a failure by itself is still found when it is the cause of a failed
send: the send has it, or one of the causes below the failure. -/
def IsFoundBelow (f : Failure) (kind : TransportKind) : Prop :=
  ∀ own, f.kind? = some own → own = kind ∨ ∃ cause ∈ f.causes, cause.kind? = some own

/-- **The categories found in a failed send that another failure has caused:** its own, and those of
the causes below that failure. -/
theorem mem_kinds_causing {f : Failure} {kind seen : TransportKind} {message : String} :
    seen ∈ (f.causing kind message).kinds ↔
      seen = kind ∨ ∃ cause ∈ f.causes, cause.kind? = some seen := by
  have causes : (f.causing kind message).causes = .failure f :: f.causes :=
    Link.chain_eq (.failure f)
  rw [mem_kinds, causes, List.exists_mem_cons_iff]
  simp [causing, kind?, transportKind?, Link.kind?, eq_comm]

/-- A failed send shows what its cause shows if it shows what that is by itself. -/
theorem kinds_kept {f : Failure} {kind : TransportKind} {message : String} :
    (∀ seen ∈ f.kinds, seen ∈ (f.causing kind message).kinds) ↔ f.IsFoundBelow kind := by
  constructor
  · intro all own byItself
    exact mem_kinds_causing.mp (all own (mem_kinds.mpr (.inl byItself)))
  · intro below seen mem
    rcases mem_kinds.mp mem with byItself | cause
    · exact mem_kinds_causing.mpr (below seen byItself)
    · exact mem_kinds_causing.mpr (.inr cause)

/-- **When a failed send shows everything that its cause shows.** All that can be hidden is the
category of the causing failure by itself, which is not looked at in a cause. It is hidden unless
the send has it, too, or a cause further below; then, and only then, is there a policy without a
test that repeats the failure and not the send, namely one that looks for nothing but this
category. -/
theorem kinds_kept_iff (f : Failure) (kind : TransportKind) (message : String) :
    (∀ seen ∈ f.kinds, seen ∈ (f.causing kind message).kinds ∨ f.kind? = some seen) ∧
      ((∀ seen ∈ f.kinds, seen ∈ (f.causing kind message).kinds) ↔ f.IsFoundBelow kind) ∧
      ((∀ p : RetryPolicy, p.rules.failureTest = none →
          (p.classify (.error f)).isRetryable = true →
          (p.classify (.error (f.causing kind message))).isRetryable = true) ↔
        f.IsFoundBelow kind) := by
  refine ⟨?_, kinds_kept, ?_⟩
  · intro seen mem
    rcases mem_kinds.mp mem with byItself | cause
    · exact .inr byItself
    · exact .inl (mem_kinds_causing.mpr (.inr cause))
  · constructor
    · intro repeated own byItself
      have looked := repeated (.lookingFor own) rfl
        (RetryPolicy.isRetryable_lookingFor.mpr (mem_kinds.mpr (.inl byItself)))
      exact mem_kinds_causing.mp (RetryPolicy.isRetryable_lookingFor.mp looked)
    · intro below p untested
      simp only [RetryPolicy.isRetryable_classify_iff, RetryPolicy.Accepts, untested]
      rintro (⟨seen, mem, configured⟩ | ⟨test, absent, -⟩)
      · exact .inl ⟨seen, kinds_kept.mpr below seen mem, configured⟩
      · cases absent

/-- **A cause that is hidden:** a connection that was reset is not recognised when it is the cause
of a protocol failure, and neither is a deadline that has passed. -/
theorem reset_hidden :
    ¬ (∀ seen ∈ (Failure.transport .connectionReset "" none).kinds,
        seen ∈ ((Failure.transport .connectionReset "" none).causing .protocol "").kinds) ∧
      ¬ (∀ seen ∈ (Failure.timeout (.ofSeconds 1)).kinds,
        seen ∈ ((Failure.timeout (.ofSeconds 1)).causing .protocol "").kinds) := by
  rw [kinds_kept, kinds_kept]
  simp [IsFoundBelow, kind?, transportKind?, causes, source]

end Failure

end Outbound
