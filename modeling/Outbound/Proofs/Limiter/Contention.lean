import Mathlib.Algebra.GroupWithZero.Nat
import Outbound.Limiter.Contention
import Outbound.Proofs.Limiter.Tokens

/-!
# What callers take from a token bucket between them

A unit of stock is in the bucket, or it is owed by the caller that moved the reading, or it has gone
into a token. What all of them come to grows with the reading to which the bucket has been credited
and with nothing else, whichever caller makes the next step.

## Main definitions

* `TokenBucket.Acts`: what a step of an attempt can do
* `TokenBucket.Stage.charge`: the units that an attempt has in hand
* `TokenBucket.Contention.Sound`: what holds of a bucket and the calls at it, at every moment

## Main results

* `TokenBucket.Acts.pays`: no step makes units out of nothing
* `TokenBucket.Contention.Sound.play`: moves keep a bucket and its calls sound
* `TokenBucket.Contention.Sound.grants_le`: the grants of any callers
* `TokenBucket.solo_round`: the steps of a caller that is left alone are a round
* `TokenBucket.Contention.play_alone`: a caller that is left alone gets the answer of an attempt
-/

namespace Outbound.TokenBucket

variable {b b' : TokenBucket} {now : Nat} {p q : Stage}

/-- **What a step of an attempt can do.** -/
inductive Acts (now : Nat) (b : TokenBucket) : Stage → Stage → TokenBucket → Prop
  | note : Acts now b .opening (.looking b.settled) b
  | credited {seen} (h : now ≤ b.creditedTo) : Acts now b (.looking seen) (.counting seen) b
  | behind {seen} (h : b.creditedTo < now) :
    Acts now b (.looking seen) (.starting seen b.creditedTo) b
  | start {seen last} :
    Acts now b (.starting seen last) (.moving seen last)
      { b with started := Word.wrap (b.started + 1) }
  | move {seen} :
    Acts now b (.moving seen b.creditedTo)
      (.loading seen (Word.saturate ((now - b.creditedTo) * b.rate))) { b with creditedTo := now }
  | forestalled {seen last} : Acts now b (.moving seen last) (.settling seen) b
  | load {seen credit} : Acts now b (.loading seen credit) (.crediting seen credit b.units) b
  | credit {seen credit} :
    Acts now b (.crediting seen credit b.units) (.settling seen)
      { b with units := min (Word.saturate (b.units + credit)) b.capacity }
  | reload {seen credit current} :
    Acts now b (.crediting seen credit current) (.crediting seen credit b.units) b
  | settle {seen} :
    Acts now b (.settling seen) (.counting seen) { b with settled := Word.wrap (b.settled + 1) }
  | count {seen} : Acts now b (.counting seen) (.weigh seen b.units) b
  | take {seen} :
    Acts now b (.taking seen b.units) (.done .granted)
      { b with units := b.units - unitsPerToken }
  | recount {seen current} : Acts now b (.taking seen current) (.weigh seen b.units) b
  | check {seen units} : Acts now b (.checking seen units) (.comparing seen units b.settled) b
  | calm {seen units} :
    Acts now b (.comparing seen units b.started) (.rechecking seen units) b
  | refilling {seen units settled} : Acts now b (.comparing seen units settled) .opening b
  | deny {units} :
    Acts now b (.rechecking b.settled units) (.done (.denied { b with units }.untilToken)) b
  | refilled {seen units} : Acts now b (.rechecking seen units) .opening b
  | stay {v} : Acts now b (.done v) (.done v) b

theorem acts_act (now : Nat) (fails : Bool) (b : TokenBucket) (p : Stage) :
    Acts now b p (p.act now fails b).1 (p.act now fails b).2 := by
  cases p with
  | opening => exact .note
  | looking seen =>
    simp only [Stage.act]
    split
    · next h => exact .credited h
    · next h => exact .behind (Nat.lt_of_not_le h)
  | starting seen last => exact .start
  | moving seen last =>
    simp only [Stage.act]
    split
    · next same => exact same ▸ .move
    · exact .forestalled
  | loading seen credit => exact .load
  | crediting seen credit current =>
    simp only [Stage.act]
    split
    · next same => exact same.1 ▸ .credit
    · exact .reload
  | settling seen => exact .settle
  | counting seen => exact .count
  | taking seen current =>
    simp only [Stage.act]
    split
    · next same => exact same.1 ▸ .take
    · exact .recount
  | checking seen units => exact .check
  | comparing seen units settled =>
    simp only [Stage.act]
    split
    · next same => exact same ▸ .calm
    · exact .refilling
  | rechecking seen units =>
    simp only [Stage.act]
    split
    · next same => exact same ▸ .deny
    · exact .refilled
  | done v => exact .stay

/-! ## One step -/

namespace Stage

/-- What an attempt knows of its own numbers: it refills up to a later reading only, and takes a
token only from a stock that has one. -/
def IsSound (now : Nat) : Stage → Prop
  | .starting _ last | .moving _ last => last < now
  | .taking _ current => unitsPerToken ≤ current
  | _ => True

/-- The units that an attempt has in hand: credit that is still to come, or its token. -/
def charge : Stage → Nat
  | .loading _ credit | .crediting _ credit _ => credit
  | .done .granted => unitsPerToken
  | _ => 0

/-- The refills of an attempt that have started and have not been settled. -/
def refilling : Stage → Nat
  | .moving _ _ | .loading _ _ | .crediting _ _ _ | .settling _ => 1
  | _ => 0

theorem starts_le (p : Stage) : p.starts ≤ 1 := by
  cases p <;> first | exact Nat.le_refl 1 | exact Nat.zero_le 1

theorem isSound_weigh (now seen units : Nat) : (weigh seen units).IsSound now := by
  unfold weigh
  split
  · assumption
  · trivial

theorem charge_weigh (seen units : Nat) : (weigh seen units).charge = 0 := by
  unfold weigh
  split <;> rfl

theorem refilling_weigh (seen units : Nat) : (weigh seen units).refilling = 0 := by
  unfold weigh
  split <;> rfl

theorem owes_of_refilling (h : p.refilling = 0) : p.owes = false := by
  cases p <;> first | rfl | cases h

end Stage

namespace Acts

theorem isSound (h : Acts now b p q b') (sound : p.IsSound now) : q.IsSound now := by
  cases h with
  | behind ahead => exact ahead
  | start => exact sound
  | count => exact Stage.isSound_weigh _ _ _
  | recount => exact Stage.isSound_weigh _ _ _
  | _ => trivial

theorem rate (h : Acts now b p q b') : b'.rate = b.rate := by cases h <;> rfl

theorem capacity (h : Acts now b p q b') : b'.capacity = b.capacity := by cases h <;> rfl

theorem units_le (h : Acts now b p q b') (stock : b.units ≤ b.capacity) :
    b'.units ≤ b'.capacity := by
  cases h with
  | credit => exact Nat.min_le_right _ _
  | take => exact Nat.le_trans (Nat.sub_le _ _) stock
  | _ => exact stock

theorem creditedTo_le (h : Acts now b p q b') (sound : p.IsSound now) :
    b.creditedTo ≤ b'.creditedTo := by
  cases h with
  | move => exact Nat.le_of_lt sound
  | _ => exact Nat.le_refl _

theorem creditedTo_le_max (h : Acts now b p q b') : b'.creditedTo ≤ max b.creditedTo now := by
  cases h with
  | move => exact Nat.le_max_right _ _
  | _ => exact Nat.le_max_left _ _

/-- **No step makes units out of nothing:** what the bucket and the attempt have between them grows
by the credit for which the reading is moved, and otherwise not at all. What does not fit into a
word is lost. -/
theorem pays (h : Acts now b p q b') (sound : p.IsSound now) :
    b'.units + q.charge + b.rate * b.creditedTo ≤ b.units + p.charge + b.rate * b'.creditedTo := by
  cases h with
  | @move seen =>
    have most : Word.saturate ((now - b.creditedTo) * b.rate) ≤ (now - b.creditedTo) * b.rate :=
      Nat.min_le_left _ _
    have span : b.creditedTo + (now - b.creditedTo) = now := Nat.add_sub_of_le (Nat.le_of_lt sound)
    have credit : b.rate * now = b.rate * b.creditedTo + (now - b.creditedTo) * b.rate := by
      rw [Nat.mul_comm (now - b.creditedTo), ← Nat.mul_add, span]
    simp only [Stage.charge]
    omega
  | @credit seen credit =>
    have most : min (Word.saturate (b.units + credit)) b.capacity ≤ b.units + credit :=
      Nat.le_trans (Nat.min_le_left _ _) (Nat.min_le_left _ _)
    simp only [Stage.charge]
    omega
  | take =>
    have enough : unitsPerToken ≤ b.units := sound
    simp only [Stage.charge]
    omega
  | count =>
    rw [Stage.charge_weigh]
    exact Nat.le_refl _
  | recount =>
    rw [Stage.charge_weigh]
    exact Nat.le_refl _
  | _ => exact Nat.le_refl _

/-- A refill is on its way from the step that starts it to the one that settles it. -/
theorem refilling_add (h : Acts now b p q b') :
    q.refilling + p.settles = p.refilling + p.starts := by
  cases h with
  | count => exact Stage.refilling_weigh _ _
  | recount => exact Stage.refilling_weigh _ _
  | _ => rfl

/-- The count of refills that have begun goes on by one with the number that it stands for, as
counting on from a word that has wrapped is counting on from the number. -/
theorem started {n : Nat} (h : Acts now b p q b') (same : b.started = Word.wrap n) :
    b'.started = Word.wrap (n + p.starts) := by
  cases h with
  | start =>
    simp only [Stage.starts, same]
    exact Nat.mod_add_mod n _ 1
  | _ => exact same

theorem settled {n : Nat} (h : Acts now b p q b') (same : b.settled = Word.wrap n) :
    b'.settled = Word.wrap (n + p.settles) := by
  cases h with
  | settle =>
    simp only [Stage.settles, same]
    exact Nat.mod_add_mod n _ 1
  | _ => exact same

end Acts

/-! ## One caller among others -/

namespace Contention

variable {rate burst start i : Nat} {s : Contention} {c : Call}

theorem step_arrive (s : Contention) (now : Nat) :
    s.step (.arrive now) = { s with calls := s.calls ++ [⟨now, .opening⟩] } := rfl

/-- **The step of a caller that is there.** -/
theorem step_act (here : s.calls[i]? = some c) (fails : Bool) :
    s.step (.act i fails) =
      { bucket := (c.stage.act c.now fails s.bucket).2
        calls := s.calls.set i { c with stage := (c.stage.act c.now fails s.bucket).1 }
        begun := s.begun + c.stage.starts
        ended := s.ended + c.stage.settles } := by
  simp only [step, here]

/-- **What a move can be:** a caller comes, or one that is there makes a step, or nothing happens. -/
theorem step_cases (s : Contention) (m : Move) :
    s.step m = s ∨ (∃ now, m = .arrive now) ∨
      ∃ i fails c, m = .act i fails ∧ s.calls[i]? = some c := by
  cases m with
  | arrive now => exact .inr (.inl ⟨now, rfl⟩)
  | act i fails =>
    cases here : s.calls[i]? with
    | none =>
      refine .inl ?_
      simp only [step, here]
    | some c => exact .inr (.inr ⟨i, fails, c, rfl, here⟩)

/-- The other calls are left as they are. -/
theorem parts_of_set {calls : List Call} (here : calls[i]? = some c) (c' : Call) :
    ∃ before later, calls = before ++ c :: later ∧ calls.set i c' = before ++ c' :: later := by
  obtain ⟨short, rfl⟩ := List.getElem?_eq_some_iff.mp here
  obtain ⟨before, later, parts, -, put⟩ := @List.exists_of_set _ i c' calls short
  exact ⟨before, later, parts, put⟩

/-- What one call comes to is exchanged in a sum over all of them. -/
theorem sum_map_set {calls : List Call} (here : calls[i]? = some c) (c' : Call) (f : Call → Nat) :
    ((calls.set i c').map f).sum + f c = (calls.map f).sum + f c' := by
  obtain ⟨before, later, parts, put⟩ := parts_of_set here c'
  rw [put, parts]
  simp only [List.map_append, List.map_cons, List.sum_append, List.sum_cons]
  omega

/-- The readings of the calls stay what they are. -/
theorem map_now_set {calls : List Call} (here : calls[i]? = some c) (p : Stage) :
    (calls.set i { c with stage := p }).map (·.now) = calls.map (·.now) := by
  obtain ⟨before, later, parts, put⟩ := parts_of_set here { c with stage := p }
  rw [put, parts, List.map_append, List.map_append, List.map_cons, List.map_cons]

/-! ## What holds at every moment -/

/-- **A bucket and the calls at it are sound.** All stock, credit and granted tokens come from the
first stock and from the credit up to the reading, and the words count the refills. -/
structure Sound (rate burst start : Nat) (s : Contention) : Prop where
  rate_eq : s.bucket.rate = rate
  capacity_eq : s.bucket.capacity = (full rate burst start).capacity
  units_le : s.bucket.units ≤ s.bucket.capacity
  stages : ∀ c ∈ s.calls, c.stage.IsSound c.now
  account : s.bucket.units + (s.calls.map fun c => c.stage.charge).sum + rate * start ≤
    burst * unitsPerToken + rate * s.bucket.creditedTo
  creditedTo_le : s.bucket.creditedTo ≤ reached start (s.calls.map (·.now))
  begun_eq : s.begun = s.ended + (s.calls.map fun c => c.stage.refilling).sum
  started_eq : s.bucket.started = Word.wrap s.begun
  settled_eq : s.bucket.settled = Word.wrap s.ended

theorem sound_idle (rate burst start : Nat) : (idle rate burst start).Sound rate burst start where
  rate_eq := rfl
  capacity_eq := rfl
  units_le := Nat.le_refl _
  stages := nofun
  account := by
    have stock : (idle rate burst start).bucket.units ≤ burst * unitsPerToken :=
      Nat.min_le_left _ _
    rw [show (idle rate burst start).calls = [] from rfl, List.map_nil, List.sum_nil, Nat.add_zero]
    exact Nat.add_le_add_right stock _
  creditedTo_le := Nat.le_refl _
  begun_eq := rfl
  started_eq := (Word.wrap_of_le (Nat.zero_le _)).symm
  settled_eq := (Word.wrap_of_le (Nat.zero_le _)).symm

namespace Sound

theorem arrive (h : s.Sound rate burst start) (now : Nat) :
    (s.step (.arrive now)).Sound rate burst start where
  rate_eq := h.rate_eq
  capacity_eq := h.capacity_eq
  units_le := h.units_le
  stages := by
    intro c mem
    rcases List.mem_append.mp mem with old | new
    · exact h.stages c old
    · rw [List.mem_singleton.mp new]
      trivial
  account := by
    have account := h.account
    simpa [step_arrive, Stage.charge] using account
  creditedTo_le := by
    simp only [step_arrive, List.map_append, reached_append]
    exact Nat.le_trans h.creditedTo_le (le_reached _ _)
  begun_eq := by
    have begun := h.begun_eq
    simpa [step_arrive, Stage.refilling] using begun
  started_eq := h.started_eq
  settled_eq := h.settled_eq

/-- A step of one caller keeps the bucket sound; the others have in hand what they had. -/
theorem act (h : s.Sound rate burst start) (here : s.calls[i]? = some c) (fails : Bool) :
    (s.step (.act i fails)).Sound rate burst start := by
  have acts := acts_act c.now fails s.bucket c.stage
  have mem : c ∈ s.calls := List.mem_of_getElem? here
  have own := h.stages c mem
  rw [step_act here]
  generalize (c.stage.act c.now fails s.bucket).1 = q at acts ⊢
  generalize (c.stage.act c.now fails s.bucket).2 = b at acts ⊢
  exact {
    rate_eq := acts.rate.trans h.rate_eq
    capacity_eq := acts.capacity.trans h.capacity_eq
    units_le := acts.units_le h.units_le
    stages := by
      intro other mem
      rcases List.mem_or_eq_of_mem_set mem with old | rfl
      · exact h.stages other old
      · exact acts.isSound own
    account := by
      have pays := acts.pays own
      have account := h.account
      have sums := sum_map_set here { c with stage := q } fun c => c.stage.charge
      rw [h.rate_eq] at pays
      dsimp only at sums ⊢
      omega
    creditedTo_le := by
      rw [map_now_set here]
      have known : c.now ≤ reached start (s.calls.map (·.now)) :=
        le_reached_of_mem (List.mem_map_of_mem mem)
      exact Nat.le_trans acts.creditedTo_le_max (Nat.max_le.mpr ⟨h.creditedTo_le, known⟩)
    begun_eq := by
      have refilling := acts.refilling_add
      have begun := h.begun_eq
      have sums := sum_map_set here { c with stage := q } fun c => c.stage.refilling
      dsimp only at sums ⊢
      omega
    started_eq := acts.started h.started_eq
    settled_eq := acts.settled h.settled_eq }

/-- **A move keeps a bucket and its calls sound.** -/
theorem step (h : s.Sound rate burst start) (m : Move) : (s.step m).Sound rate burst start := by
  obtain same | ⟨now, rfl⟩ | ⟨i, fails, c, rfl, here⟩ := s.step_cases m
  · rwa [same]
  · exact h.arrive now
  · exact h.act here fails

/-- **Moves keep a bucket and its calls sound.** -/
theorem play (h : s.Sound rate burst start) (moves : List Move) :
    (s.play moves).Sound rate burst start := by
  induction moves generalizing s with
  | nil => exact h
  | cons m rest ih => exact ih (h.step m)

end Sound

/-- A granted attempt has its token in hand. -/
theorem grants_mul_le (calls : List Call) :
    (calls.countP fun c => c.stage = .done .granted) * unitsPerToken ≤
      (calls.map fun c => c.stage.charge).sum := by
  induction calls with
  | nil => exact Nat.le_refl _
  | cons c rest ih =>
    rw [List.countP_cons, List.map_cons, List.sum_cons, Nat.add_mul]
    by_cases granted : c.stage = .done .granted
    · have worth : c.stage.charge = unitsPerToken := congrArg Stage.charge granted
      rw [if_pos (decide_eq_true granted), Nat.one_mul, worth, Nat.add_comm]
      exact Nat.add_le_add_left ih _
    · rw [if_neg (by simpa using granted), Nat.zero_mul, Nat.add_zero]
      exact Nat.le_trans ih (Nat.le_add_left _ _)

/-- **The grants of any callers** are at most a full stock and what has been added since. Both are
counted in units, so that the division comes last. -/
theorem Sound.grants_le (h : s.Sound rate burst start) :
    s.grants ≤ burst + rate * (reached start (s.calls.map (·.now)) - start) / nanosPerSecond := by
  have held := grants_mul_le s.calls
  have account := h.account
  have latest := Nat.mul_le_mul_left rate h.creditedTo_le
  have positive : 0 < nanosPerSecond := by decide
  rw [Nat.add_comm burst, ← Nat.add_mul_div_right _ _ positive, Nat.le_div_iff_mul_le positive,
    Nat.mul_sub]
  unfold grants
  unfold unitsPerToken at held account
  omega

end Contention

/-! ## A caller that is left alone -/

/-- So many steps of a caller, with nobody else at the bucket. -/
def solo (now : Nat) : Nat → Stage → TokenBucket → Stage × TokenBucket
  | 0, p, b => (p, b)
  | n + 1, p, b => solo now n (p.act now false b).1 (p.act now false b).2

theorem solo_add (now m n : Nat) (p : Stage) (b : TokenBucket) :
    solo now (m + n) p b = solo now n (solo now m p b).1 (solo now m p b).2 := by
  induction m generalizing p b with
  | zero => rw [Nat.zero_add, solo]
  | succ m ih => rw [Nat.succ_add, solo, ih, solo]

/-- The steps up to the first look at the stock are the refill. -/
theorem solo_refill (now : Nat) (b : TokenBucket) :
    ∃ n ≤ 7, solo now n .opening b = (.counting b.settled, b.refill now) := by
  by_cases credited : now ≤ b.creditedTo
  · refine ⟨2, by decide, ?_⟩
    simp [solo, Stage.act, refill, credited]
  · refine ⟨7, by decide, ?_⟩
    simp [solo, Stage.act, refill, credited]

/-- The steps from there on decide, or lead to another round. -/
theorem solo_decide (now seen : Nat) (b : TokenBucket) :
    ∃ n ≤ 4, solo now n (.counting seen) b =
      if unitsPerToken ≤ b.units then
        (.done .granted, { b with units := b.units - unitsPerToken })
      else if b.isRefilling || b.settled != seen then (.opening, b)
      else (.done (.denied b.untilToken), b) := by
  by_cases enough : unitsPerToken ≤ b.units
  · refine ⟨2, by decide, ?_⟩
    simp [solo, Stage.act, Stage.weigh, enough]
  · by_cases idle : b.settled = b.started
    · refine ⟨4, by decide, ?_⟩
      by_cases same : b.settled = seen
      · simp [solo, Stage.act, Stage.weigh, enough, isRefilling, untilToken, ← idle, same]
      · simp [solo, Stage.act, Stage.weigh, enough, isRefilling, ← idle, same]
    · refine ⟨3, by decide, ?_⟩
      simp [solo, Stage.act, Stage.weigh, enough, isRefilling, idle]

/-- **The steps of a caller that is left alone are a round:** it is answered, or begins anew. -/
theorem solo_round (now : Nat) (b : TokenBucket) :
    ∃ n ≤ 11, solo now n .opening b =
      (((b.round now).1.map Stage.done).getD .opening, (b.round now).2) := by
  obtain ⟨m, few, refilled⟩ := solo_refill now b
  obtain ⟨n, few', decided⟩ := solo_decide now b.settled (b.refill now)
  refine ⟨m + n, by omega, ?_⟩
  rw [solo_add, refilled, decided, round]
  split
  · rfl
  · split <;> rfl

/-- **A caller that is left alone** gets the answer of an attempt, after so many rounds. -/
theorem solo_rounds {n : Nat} {answer : Verdict × TokenBucket} (h : Rounds now n b answer) :
    ∃ m ≤ 11 * n, solo now m .opening b = (.done answer.1, answer.2) := by
  induction h with
  | @decided b b' v decided =>
    obtain ⟨m, few, round⟩ := solo_round now b
    rw [decided] at round
    exact ⟨m, few, round⟩
  | @again n b b' answer undecided rest ih =>
    obtain ⟨m, few, round⟩ := solo_round now b
    obtain ⟨m', few', later⟩ := ih
    rw [undecided] at round
    refine ⟨m + m', by omega, ?_⟩
    rw [solo_add, round]
    exact later

namespace Contention

theorem play_solo {i : Nat} {s : Contention} {c : Call} (here : s.calls[i]? = some c) (n : Nat) :
    (s.play (List.replicate n (.act i false))).bucket = (solo c.now n c.stage s.bucket).2 ∧
      (s.play (List.replicate n (.act i false))).calls =
        s.calls.set i { c with stage := (solo c.now n c.stage s.bucket).1 } := by
  induction n generalizing s c with
  | zero =>
    obtain ⟨short, rfl⟩ := List.getElem?_eq_some_iff.mp here
    exact ⟨rfl, (List.set_getElem_self short).symm⟩
  | succ n ih =>
    have short : i < s.calls.length := (List.getElem?_eq_some_iff.mp here).1
    have moved := step_act here false
    have there : (s.step (.act i false)).calls[i]? =
        some { c with stage := (c.stage.act c.now false s.bucket).1 } := by
      rw [moved, List.getElem?_set_self short]
    obtain ⟨bucket, calls⟩ := ih there
    rw [List.replicate_succ]
    constructor
    · refine bucket.trans ?_
      rw [moved, solo]
    · refine calls.trans ?_
      rw [moved, List.set_set, solo]

/-- **A caller that comes to a quiet bucket and is left alone** gets the answer of one attempt, and
leaves of the bucket what that leaves. -/
theorem play_alone (s : Contention) (quiet : s.bucket.Sound) (now : Nat) :
    ∃ n ≤ 22,
      (s.play (.arrive now :: List.replicate n (.act s.calls.length false))).bucket =
        (s.bucket.tryAcquire now).2 ∧
      (s.play (.arrive now :: List.replicate n (.act s.calls.length false))).calls =
        s.calls ++ [⟨now, .done (s.bucket.tryAcquire now).1⟩] := by
  obtain ⟨rounds, few, answered⟩ := quiet.rounds_tryAcquire now
  obtain ⟨n, steps, alone⟩ := solo_rounds answered
  have here : (s.step (.arrive now)).calls[s.calls.length]? = some ⟨now, .opening⟩ := by
    rw [step_arrive, List.getElem?_concat_length]
  obtain ⟨bucket, calls⟩ := play_solo here n
  refine ⟨n, by omega, bucket.trans ?_, calls.trans ?_⟩
  · exact congrArg Prod.snd alone
  · rw [step_arrive, alone]
    simp only [List.set_append_right _ _ (Nat.le_refl _), Nat.sub_self, List.set_cons_zero]

end Contention

end Outbound.TokenBucket
