import Mathlib.Data.List.Induction
import Outbound.Proofs.Limiter.Contention

/-!
# Denials among callers at a token bucket

A caller that is denied has read the count of settled refills, the stock and both counts again, and
others may have made any steps in between. It is right about the moment at which it read the stock:
refills that were on their way then had to be settled before it compared the counts, so the count of
settled refills would have moved on.

The counts are words, so a caller can be deceived once they come round to where they were. That
takes as many refills as there are words, all of them while this caller is under way.

## Main definitions

* `TokenBucket.Contention.ComesRound`: so many refills while one caller is under way
* `TokenBucket.Contention.RanDry`: a moment at which a caller is rightly denied
* `TokenBucket.Contention.Recalls`: what a call knows of the past, at every stage

## Main results

* `TokenBucket.Contention.Recalls.act`, `TokenBucket.Contention.recalls_play`: it keeps its
  knowledge, and gains some with its own steps
* `TokenBucket.ranDry_of_denied`: denials are right in a course of no more moves than there are words
* `TokenBucket.attempts_interleaved`: stock, grants and denials of callers at one bucket
-/

namespace Outbound.TokenBucket

namespace Contention

variable {rate burst start i now seen settled n : Nat} {s s' s'' s₀ : Contention} {c : Call}
  {moves moves' first second third : List Move} {m : Move} {p q : Stage} {b : TokenBucket}

theorem play_concat (s : Contention) (moves : List Move) (m : Move) :
    s.play (moves ++ [m]) = (s.play moves).step m := by
  rw [play, List.foldl_append]
  rfl

/-! ## Nothing goes back -/

/-- **A later state:** the reading and the counts have not gone back. -/
structure Progress (s s' : Contention) : Prop where
  credited : s.bucket.creditedTo ≤ s'.bucket.creditedTo
  begun : s.begun ≤ s'.begun
  ended : s.ended ≤ s'.ended

theorem Progress.refl (s : Contention) : s.Progress s :=
  ⟨Nat.le_refl _, Nat.le_refl _, Nat.le_refl _⟩

theorem Progress.trans (h : s.Progress s') (h' : s'.Progress s'') : s.Progress s'' :=
  ⟨Nat.le_trans h.credited h'.credited, Nat.le_trans h.begun h'.begun,
    Nat.le_trans h.ended h'.ended⟩

namespace Sound

theorem progress_step (h : s.Sound rate burst start) (m : Move) : s.Progress (s.step m) := by
  obtain same | ⟨now, rfl⟩ | ⟨i, fails, c, rfl, here⟩ := s.step_cases m
  · rw [same]
    exact .refl s
  · exact ⟨Nat.le_refl _, Nat.le_refl _, Nat.le_refl _⟩
  · have own := h.stages c (List.mem_of_getElem? here)
    rw [step_act here]
    exact ⟨(acts_act _ _ _ _).creditedTo_le own, Nat.le_add_right _ _, Nat.le_add_right _ _⟩

theorem progress_play (h : s.Sound rate burst start) (moves : List Move) :
    s.Progress (s.play moves) := by
  induction moves generalizing s with
  | nil => exact .refl s
  | cons m rest ih => exact (h.progress_step m).trans (ih (h.step m))

/-- States of one course of moves are in the order of the moves. -/
theorem progress (h : s₀.Sound rate burst start) (before : first <+: second) :
    (s₀.play first).Progress (s₀.play second) := by
  obtain ⟨rest, rfl⟩ := before
  rw [show s₀.play (first ++ rest) = (s₀.play first).play rest from List.foldl_append]
  exact (h.play first).progress_play rest

theorem ended_le (h : s.Sound rate burst start) : s.ended ≤ s.begun :=
  Nat.le.intro h.begun_eq.symm

/-- Once as many refills have been settled as have begun, no credit is still to come. -/
theorem settled_all (h : s.Sound rate burst start) (all : s.begun ≤ s.ended) :
    ∀ c ∈ s.calls, c.stage.owes = false := by
  intro c mem
  obtain ⟨before, later, parts⟩ := List.append_of_mem mem
  have begun := h.begun_eq
  rw [parts, List.map_append, List.map_cons, List.sum_append, List.sum_cons] at begun
  exact Stage.owes_of_refilling (by omega)

end Sound

/-! ## What a call knows of the past -/

/-- **The counts come round:** while one call is under way, so many refills begin that a count of
settled ones is met again. -/
def ComesRound (s₀ : Contention) (moves : List Move) (i : Nat) : Prop :=
  ∃ first later, first <+: later ∧ later <+: moves ∧
    (s₀.play first).IsUnderWay i ∧ (s₀.play later).IsUnderWay i ∧
    (s₀.play first).ended + (Word.greatest + 1) ≤ (s₀.play later).begun

/-- **A moment at which a call is rightly denied:** all credit has come in, up to its reading at
least, and there is no token. -/
def RanDry (s₀ : Contention) (moves : List Move) (i now : Nat) : Prop :=
  ∃ before, before <+: moves ∧ (s₀.play before).IsUnderWay i ∧
    (∀ other ∈ (s₀.play before).calls, other.stage.owes = false) ∧
    now ≤ (s₀.play before).bucket.creditedTo ∧ (s₀.play before).bucket.units < unitsPerToken

/-- A call has read the count of settled refills at an earlier moment of its own. -/
structure Noted (s₀ : Contention) (moves : List Move) (i seen : Nat) (first : List Move) :
    Prop where
  earlier : first <+: moves
  underWay : (s₀.play first).IsUnderWay i
  seen_eq : seen = Word.wrap (s₀.play first).ended

/-- Since an earlier moment the reading has been credited, or a refill has been settled. -/
def CaughtUp (now : Nat) (s s' : Contention) : Prop :=
  now ≤ s'.bucket.creditedTo ∨ s.ended < s'.ended

/-- A call has read the count of settled refills, and then a stock that was too small. -/
structure FoundShort (s₀ : Contention) (moves : List Move) (i now seen : Nat)
    (first second : List Move) : Prop where
  noted : Noted s₀ second i seen first
  earlier : second <+: moves
  underWay : (s₀.play second).IsUnderWay i
  caughtUp : CaughtUp now (s₀.play first) (s₀.play second)
  short : (s₀.play second).bucket.units < unitsPerToken

/-- **What a call knows of the past** at its stage. When it looks again at the count of settled
refills, those that were on their way as it read the stock have been settled. -/
def Recalls (s₀ : Contention) (moves : List Move) (i now : Nat) : Stage → Prop
  | .opening | .done .granted => True
  | .looking seen | .starting seen _ | .moving seen _ | .loading seen _ | .crediting seen _ _
  | .settling seen => ∃ first, Noted s₀ moves i seen first
  | .counting seen | .taking seen _ =>
    ∃ first, Noted s₀ moves i seen first ∧ CaughtUp now (s₀.play first) (s₀.play moves)
  | .checking seen _ => ∃ first second, FoundShort s₀ moves i now seen first second
  | .comparing seen _ settled =>
    ∃ first second third, FoundShort s₀ third i now seen first second ∧
      Noted s₀ moves i settled third
  | .rechecking seen _ =>
    ComesRound s₀ moves i ∨ ∃ first second, FoundShort s₀ moves i now seen first second ∧
      (s₀.play second).begun ≤ (s₀.play moves).ended
  | .done (.denied _) => ComesRound s₀ moves i ∨ RanDry s₀ moves i now

theorem ComesRound.mono (h : ComesRound s₀ moves i) (longer : moves <+: moves') :
    ComesRound s₀ moves' i := by
  obtain ⟨first, later, between, earlier, rest⟩ := h
  exact ⟨first, later, between, earlier.trans longer, rest⟩

/-- A move starts one refill at most, or it is the arrival of a caller. -/
theorem begun_step_le (s : Contention) (m : Move) :
    (s.step m).begun + (s.step m).calls.length ≤ s.begun + s.calls.length + 1 := by
  obtain same | ⟨now, rfl⟩ | ⟨i, fails, c, rfl, here⟩ := s.step_cases m
  · rw [same]
    exact Nat.le_succ _
  · rw [step_arrive, List.length_append]
    exact Nat.le_refl _
  · have started := c.stage.starts_le
    rw [step_act here, List.length_set]
    show s.begun + c.stage.starts + _ ≤ _
    omega

theorem begun_play_le (s : Contention) (moves : List Move) :
    (s.play moves).begun + (s.play moves).calls.length ≤
      s.begun + s.calls.length + moves.length := by
  induction moves generalizing s with
  | nil => exact Nat.le_refl _
  | cons m rest ih =>
    have first := begun_step_le s m
    have others := ih (s.step m)
    rw [List.length_cons]
    show ((s.step m).play rest).begun + ((s.step m).play rest).calls.length ≤ _
    omega

/-- The counts come round only in a course of more moves than there are words: besides the refills
there is the arrival of the caller. -/
theorem ComesRound.length_lt (h : ComesRound s₀ moves i) (fresh : s₀.begun = 0)
    (nobody : s₀.calls = []) : Word.greatest + 1 < moves.length := by
  obtain ⟨first, later, -, earlier, -, ⟨c, here, -⟩, far⟩ := h
  have began := begun_play_le s₀ later
  have short := earlier.length_le
  have arrived := (List.getElem?_eq_some_iff.mp here).1
  rw [fresh, nobody, List.length_nil] at began
  omega

theorem RanDry.mono (h : RanDry s₀ moves i now) (longer : moves <+: moves') :
    RanDry s₀ moves' i now := by
  obtain ⟨before, earlier, rest⟩ := h
  exact ⟨before, earlier.trans longer, rest⟩

theorem Noted.mono (h : Noted s₀ moves i seen first) (longer : moves <+: moves') :
    Noted s₀ moves' i seen first :=
  { h with earlier := h.earlier.trans longer }

theorem FoundShort.mono (h : FoundShort s₀ moves i now seen first second)
    (longer : moves <+: moves') : FoundShort s₀ moves' i now seen first second :=
  { h with earlier := h.earlier.trans longer }

theorem CaughtUp.mono (h : CaughtUp now s s') (later : s'.Progress s'') : CaughtUp now s s'' :=
  h.imp (Nat.le_trans · later.credited) (Nat.lt_of_lt_of_le · later.ended)

/-- **What a call knows of the past stays true,** whatever the others do. -/
theorem Recalls.mono (h : Recalls s₀ moves i now p) (sound : s₀.Sound rate burst start)
    (longer : moves <+: moves') : Recalls s₀ moves' i now p := by
  have later := sound.progress longer
  cases p with
  | opening => trivial
  | looking | starting | moving | loading | crediting | settling =>
    obtain ⟨first, noted⟩ := h
    exact ⟨first, noted.mono longer⟩
  | counting | taking =>
    obtain ⟨first, noted, caughtUp⟩ := h
    exact ⟨first, noted.mono longer, caughtUp.mono later⟩
  | checking =>
    obtain ⟨first, second, short⟩ := h
    exact ⟨first, second, short.mono longer⟩
  | comparing =>
    obtain ⟨first, second, third, short, noted⟩ := h
    exact ⟨first, second, third, short, noted.mono longer⟩
  | rechecking =>
    rcases h with round | ⟨first, second, short, begun⟩
    · exact .inl (round.mono longer)
    · exact .inr ⟨first, second, short.mono longer, Nat.le_trans begun later.ended⟩
  | done v =>
    cases v with
    | granted => trivial
    | denied => exact h.imp (·.mono longer) (·.mono longer)

/-! ## What a call learns -/

/-- Two counts that are the same word are the same, or one of them has come round. -/
theorem eq_or_far_of_wrap {m n : Nat} (same : Word.wrap m = Word.wrap n) (le : m ≤ n) :
    m + (Word.greatest + 1) ≤ n ∨ m = n := by
  unfold Word.wrap Word.greatest at *
  omega

/-- A count that is read twice has not changed, unless it has come round. -/
theorem Noted.eq_or_comesRound (h : Noted s₀ moves i seen first)
    (here : (s₀.play moves).IsUnderWay i) (same : seen = Word.wrap n)
    (le : (s₀.play first).ended ≤ n) (most : n ≤ (s₀.play moves).begun) :
    ComesRound s₀ moves i ∨ (s₀.play first).ended = n := by
  refine (eq_or_far_of_wrap (h.seen_eq.symm.trans same) le).imp_left fun far => ?_
  exact ⟨first, moves, h.earlier, List.prefix_rfl, h.underWay, here, Nat.le_trans far most⟩

/-- **A call that read the stock while no refill was on its way,** and none had been settled since
it began to look, read all there was. -/
theorem FoundShort.ranDry (h : FoundShort s₀ moves i now seen first second)
    (sound : s₀.Sound rate burst start)
    (quiet : (s₀.play second).begun ≤ (s₀.play first).ended) : RanDry s₀ moves i now := by
  have between := (sound.progress h.noted.earlier).ended
  refine ⟨second, h.earlier, h.underWay, ?_, ?_, h.short⟩
  · exact (sound.play second).settled_all (Nat.le_trans quiet between)
  · rcases h.caughtUp with credited | settled
    · exact credited
    · have most := (sound.play second).ended_le
      omega

theorem recalls_weigh (sound : s₀.Sound rate burst start) (here : (s₀.play moves).IsUnderWay i)
    (longer : moves <+: moves') (noted : Noted s₀ moves i seen first)
    (caughtUp : CaughtUp now (s₀.play first) (s₀.play moves)) :
    Recalls s₀ moves' i now (.weigh seen (s₀.play moves).bucket.units) := by
  unfold Stage.weigh
  split
  · exact ⟨first, noted.mono longer, caughtUp.mono (sound.progress longer)⟩
  · next short =>
    exact ⟨first, moves, noted, longer, here, caughtUp, Nat.lt_of_not_le short⟩

/-- **A step of its own adds to what a call knows of the past.** A refill of its own that it settles
has been settled since it began to look. If the counts are the same, as many refills had been
settled as have begun; and if the first of them is what it was at first, none was on its way when
the stock was read. -/
theorem Recalls.act (h : Recalls s₀ moves i now p) (sound : s₀.Sound rate burst start)
    (here : (s₀.play moves).calls[i]? = some ⟨now, p⟩)
    (acts : Acts now (s₀.play moves).bucket p q b) (longer : moves <+: moves')
    (bucket : (s₀.play moves').bucket = b)
    (ended : (s₀.play moves').ended = (s₀.play moves).ended + p.settles) :
    Recalls s₀ moves' i now q := by
  have current := sound.play moves
  cases acts with
  | note => exact ⟨moves, longer, ⟨_, here, nofun⟩, current.settled_eq⟩
  | credited credited =>
    obtain ⟨first, noted⟩ := h
    exact ⟨first, noted.mono longer, .inl (bucket ▸ credited)⟩
  | behind | start | move | forestalled | load | credit | reload =>
    obtain ⟨first, noted⟩ := h
    exact ⟨first, noted.mono longer⟩
  | settle =>
    obtain ⟨first, noted⟩ := h
    have since := (sound.progress noted.earlier).ended
    refine ⟨first, noted.mono longer, .inr ?_⟩
    rw [ended]
    exact Nat.lt_succ_of_le since
  | count | recount =>
    obtain ⟨first, noted, caughtUp⟩ := h
    exact recalls_weigh sound ⟨_, here, nofun⟩ longer noted caughtUp
  | take => trivial
  | check =>
    obtain ⟨first, second, short⟩ := h
    exact ⟨first, second, moves, short, longer, ⟨_, here, nofun⟩, current.settled_eq⟩
  | calm =>
    obtain ⟨first, second, third, short, noted⟩ := h
    have between := sound.progress noted.earlier
    have upTo := Nat.le_trans (sound.play third).ended_le between.begun
    refine ((noted.eq_or_comesRound ⟨_, here, nofun⟩ current.started_eq upTo
      (Nat.le_refl _)).imp (·.mono longer) fun same => ?_)
    refine ⟨first, second, (short.mono noted.earlier).mono longer, ?_⟩
    have began := (sound.progress (short.earlier.trans noted.earlier)).begun
    have after := between.ended
    rw [ended]
    omega
  | refilling => trivial
  | deny =>
    rcases h with round | ⟨first, second, short, begun⟩
    · exact .inl (round.mono longer)
    · have noted := short.noted.mono short.earlier
      have upTo := (sound.progress noted.earlier).ended
      refine ((noted.eq_or_comesRound ⟨_, here, nofun⟩ current.settled_eq upTo
        current.ended_le).imp (·.mono longer) fun same => ?_)
      exact (short.ranDry sound (same ▸ begun)).mono longer
  | refilled => trivial
  | stay => exact h.mono sound longer

/-- **Every call recalls what it has been through.** The induction is by the last move, so that what
is recalled is about the moves before it; a caller that has just come recalls nothing. -/
theorem recalls_play (sound : s₀.Sound rate burst start) (nobody : s₀.calls = [])
    (moves : List Move) (here : (s₀.play moves).calls[i]? = some c) :
    Recalls s₀ moves i c.now c.stage := by
  induction moves using List.reverseRecOn generalizing i c with
  | nil =>
    rw [show (s₀.play []).calls = [] from nobody] at here
    cases here
  | append_singleton moves m ih =>
    have longer : moves <+: moves ++ [m] := List.prefix_append moves [m]
    rw [play_concat] at here
    obtain same | ⟨now, rfl⟩ | ⟨j, fails, d, rfl, there⟩ := (s₀.play moves).step_cases m
    · rw [same] at here
      exact (ih here).mono sound longer
    · rw [step_arrive, List.getElem?_append] at here
      split at here
      · exact (ih here).mono sound longer
      · obtain rfl := List.mem_singleton.mp (List.mem_of_getElem? here)
        trivial
    · have moved := step_act there fails
      by_cases own : j = i
      · subst own
        have short : j < (s₀.play moves).calls.length := (List.getElem?_eq_some_iff.mp there).1
        rw [moved, List.getElem?_set_self short] at here
        obtain rfl := Option.some.inj here
        rw [← play_concat] at moved
        exact (ih there).act sound there (acts_act d.now fails _ d.stage) longer
          (congrArg bucket moved) (congrArg Contention.ended moved)
      · rw [moved, List.getElem?_set_ne own] at here
        exact (ih here).mono sound longer

end Contention

open Contention

section Denials

variable {rate burst start i : Nat} {moves : List Move} {c : Call} {retryAfter : Duration}

/-- A denied call was rightly denied, or it was deceived by counts that have come round. -/
theorem comesRound_or_ranDry (here : ((idle rate burst start).play moves).calls[i]? = some c)
    (denied : c.stage = .done (.denied retryAfter)) :
    ComesRound (idle rate burst start) moves i ∨ RanDry (idle rate burst start) moves i c.now := by
  have recalls := recalls_play (sound_idle rate burst start) rfl moves here
  rwa [denied] at recalls

/-- **Denials are right** in every course of no more moves than there are words: at some moment of
the call all credit had come in, up to its reading at least, and there was no token. -/
theorem ranDry_of_denied (few : moves.length ≤ Word.greatest + 1)
    (here : ((idle rate burst start).play moves).calls[i]? = some c)
    (denied : c.stage = .done (.denied retryAfter)) :
    RanDry (idle rate burst start) moves i c.now := by
  refine (comesRound_or_ranDry here denied).resolve_left fun round => ?_
  exact Nat.not_lt_of_le few (round.length_lt rfl rfl)

end Denials

/-- **What callers at one bucket get,** whatever their readings and however their steps fall between
each other: the stock stays within the capacity; the grants are at most a full bucket and the whole
tokens gained up to the greatest reading; and a call that has been denied was rightly denied at some
moment while it was under way, unless the counts of refills came round in the meantime. -/
theorem attempts_interleaved (rate burst start : Nat) (moves : List Move) :
    ((idle rate burst start).play moves).bucket.units ≤ (full rate burst start).capacity ∧
      ((idle rate burst start).play moves).grants ≤
        burst + rate * (reached start (((idle rate burst start).play moves).calls.map (·.now)) -
          start) / nanosPerSecond ∧
      ∀ i c d, ((idle rate burst start).play moves).calls[i]? = some c →
        c.stage = .done (.denied d) →
        ComesRound (idle rate burst start) moves i ∨
          ∃ before, before <+: moves ∧ ((idle rate burst start).play before).IsUnderWay i ∧
            (∀ other ∈ ((idle rate burst start).play before).calls, other.stage.owes = false) ∧
            c.now ≤ ((idle rate burst start).play before).bucket.creditedTo ∧
            ((idle rate burst start).play before).bucket.units < unitsPerToken := by
  have sound := (sound_idle rate burst start).play moves
  refine ⟨sound.capacity_eq ▸ sound.units_le, sound.grants_le, ?_⟩
  intro i c d here denied
  exact comesRound_or_ranDry here denied

/-- One token, and one a second. The first caller takes it; the third one moves the reading and rests
before it adds the credit, so the second one finds a refill on its way and looks again. -/
def pausedRefill : List Move :=
  .arrive 0 :: List.replicate 4 (.act 0 false) ++ .arrive 500000000 :: .arrive 500000000 ::
    List.replicate 4 (.act 2 false) ++ List.replicate 5 (.act 1 false) ++
    List.replicate 3 (.act 2 false) ++ List.replicate 6 (.act 1 false)

/-- Half a token is there once the credit has come in, so the second caller is rightly denied. -/
theorem attempts_interleaved_paused :
    ((idle 1 1 0).play pausedRefill).calls[1]? =
        some ⟨500000000, .done (.denied ⟨500000000⟩)⟩ ∧
      ((idle 1 1 0).play pausedRefill).grants ≤ 1 ∧
      ∃ before, before <+: pausedRefill ∧ ((idle 1 1 0).play before).IsUnderWay 1 ∧
        (∀ other ∈ ((idle 1 1 0).play before).calls, other.stage.owes = false) ∧
        500000000 ≤ ((idle 1 1 0).play before).bucket.creditedTo ∧
        ((idle 1 1 0).play before).bucket.units < unitsPerToken := by
  have denied : ((idle 1 1 0).play pausedRefill).calls[1]? =
      some ⟨500000000, .done (.denied ⟨500000000⟩)⟩ := by decide +kernel
  obtain ⟨-, grants, moment⟩ := attempts_interleaved 1 1 0 pausedRefill
  refine ⟨denied, Nat.le_trans grants (by decide +kernel), ?_⟩
  rcases moment 1 _ _ denied rfl with round | dry
  · exact absurd (round.length_lt rfl rfl) (by decide)
  · exact dry

end Outbound.TokenBucket
