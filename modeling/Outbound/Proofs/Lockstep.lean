import Outbound.Limiter.Acquire

/-!
# Lockstep

Two computations go in lockstep when they halt for the same reason or end with related answers and
related states. A first computation that parks is excused, for what it waits for may be there for
the second one.

## Main definitions

* `Ends`: two ends that agree
* `Lockstep`: two computations that agree from related states

## Main results

* `Ends.bind`, `Lockstep.bind`: computations that agree, one after the other
-/

namespace Outbound

variable {σ α β α' β' : Type} {A : σ → σ → Prop} {R : α → β → Prop}

/-! ## Computations that end -/

/-- What follows a computation that has ended. -/
theorem bind_of_ok {m : StateT σ (Except Halt) α} {s t : σ} {a : α} (h : m s = .ok (a, t))
    (k : α → StateT σ (Except Halt) β) : (m >>= k) s = k a t := by
  show (m s >>= fun p => k p.1 p.2) = _
  rw [h]
  rfl

/-- What has ended has ended step by step. -/
theorem ok_of_bind {m : StateT σ (Except Halt) α} {k : α → StateT σ (Except Halt) β} {s t : σ}
    {b : β} (h : (m >>= k) s = .ok (b, t)) : ∃ a u, m s = .ok (a, u) ∧ k a u = .ok (b, t) := by
  change (m s >>= fun p => k p.1 p.2) = _ at h
  rcases hm : m s with halt | ⟨a, u⟩
  · rw [hm] at h
    cases h
  · rw [hm] at h
    exact ⟨a, u, rfl, h⟩

/-! ## Agreement -/

/-- **Two ends that agree:** the same halt, or related answers and related states. -/
inductive Ends (A : σ → σ → Prop) (R : α → β → Prop) :
    Except Halt (α × σ) → Except Halt (β × σ) → Prop
  | ok {a : α} {b : β} {s t : σ} (answers : R a b) (states : A s t) : Ends A R (.ok (a, s)) (.ok (b, t))
  | halt (h : Halt) : Ends A R (.error h) (.error h)

/-- **Two computations in lockstep:** from related states they end in agreement, unless the first
one parks. -/
def Lockstep (A : σ → σ → Prop) (m : StateT σ (Except Halt) α) (n : StateT σ (Except Halt) β)
    (R : α → β → Prop) : Prop :=
  ∀ s t, A s t → m s ≠ .error .parked → Ends A R (m s) (n t)

/-- What agrees with an answer is the same answer. -/
theorem Ends.of_ok {x : Except Halt (α × σ)} {a : α} {t : σ} (h : Ends A Eq x (.ok (a, t))) :
    ∃ s, x = .ok (a, s) ∧ A s t := by
  generalize hy : (Except.ok (a, t) : Except Halt (α × σ)) = y at h
  rcases h with ⟨rfl, states⟩ | e
  · cases hy
    exact ⟨_, rfl, states⟩
  · cases hy

/-- What agrees with a halt halts for the same reason. -/
theorem Ends.of_halt {x : Except Halt (α × σ)} {e : Halt}
    (h : Ends A R x (.error e)) : x = .error e := by
  generalize hy : (Except.error e : Except Halt (β × σ)) = y at h
  rcases h with _ | e'
  · cases hy
  · cases hy
    rfl

/-- What follows two ends that agree agrees, too. -/
theorem Ends.bind {B : σ → σ → Prop} {R' : α' → β' → Prop} {m : StateT σ (Except Halt) α}
    {n : StateT σ (Except Halt) β} {f : α → StateT σ (Except Halt) α'}
    {g : β → StateT σ (Except Halt) β'} {s t : σ} (h : Ends A R (m s) (n t))
    (next : ∀ a b s t, R a b → A s t → Ends B R' (f a s) (g b t)) :
    Ends B R' ((m >>= f) s) ((n >>= g) t) := by
  show Ends B R' (m s >>= fun p => f p.1 p.2) (n t >>= fun p => g p.1 p.2)
  revert h
  generalize m s = x
  generalize n t = y
  rintro (⟨answers, states⟩ | e)
  · exact next _ _ _ _ answers states
  · exact .halt e

/-- Agreement passes on from one end to the next. -/
theorem Ends.trans {x y : Except Halt (α × σ)} {z : Except Halt (β × σ)}
    (states : ∀ s t u, A s t → A t u → A s u) (h : Ends A Eq x y) (h' : Ends A R y z) :
    Ends A R x z := by
  rcases h with ⟨rfl, a⟩ | e
  · rcases h' with ⟨r, a'⟩ | _
    exact .ok r (states _ _ _ a a')
  · rcases h' with _ | _
    exact .halt e

/-- What is handed on may be packed before it is unpacked. -/
theorem bind_pure_bind {γ : Type} (n : StateT σ (Except Halt) γ) (f : γ → α)
    (l : α → StateT σ (Except Halt) β) :
    ((n >>= fun c => pure (f c)) >>= l) = n >>= fun c => l (f c) := by
  simp only [bind_assoc, pure_bind]

namespace Lockstep

variable {m : StateT σ (Except Halt) α} {n : StateT σ (Except Halt) β}

theorem pure {a : α} {b : β} (h : R a b) :
    Lockstep A (pure a : StateT σ (Except Halt) α) (pure b : StateT σ (Except Halt) β) R := by
  intro s t states _
  exact .ok h states

theorem halt (e : Halt) :
    Lockstep A (throw e : StateT σ (Except Halt) α) (throw e : StateT σ (Except Halt) β) R := by
  intro s t _ _
  exact .halt e

/-- **Computations in lockstep one after the other.** If the whole first computation does not park,
neither does its beginning. -/
theorem bind {R' : α' → β' → Prop} {f : α → StateT σ (Except Halt) α'}
    {g : β → StateT σ (Except Halt) β'} (h : Lockstep A m n R)
    (next : ∀ a b, R a b → Lockstep A (f a) (g b) R') : Lockstep A (m >>= f) (n >>= g) R' := by
  intro s t states parked
  have begun : m s ≠ .error .parked := by
    intro hm
    apply parked
    show (m s >>= fun p => f p.1 p.2) = _
    rw [hm]
    rfl
  show Ends A R' (m s >>= fun p => f p.1 p.2) (n t >>= fun p => g p.1 p.2)
  replace parked : (m s >>= fun p => f p.1 p.2) ≠ .error .parked := parked
  have agreed := h s t states begun
  revert parked agreed
  generalize m s = x
  generalize n t = y
  rintro parked (⟨answers, states⟩ | e)
  · exact next _ _ answers _ _ states parked
  · exact .halt e

/-- The second computation may begin in several steps. -/
theorem assoc {γ : Type} {n : StateT σ (Except Halt) γ} {k : γ → StateT σ (Except Halt) α'}
    {l : α' → StateT σ (Except Halt) β} (h : Lockstep A m (n >>= fun c => k c >>= l) R) :
    Lockstep A m ((n >>= k) >>= l) R := by
  rw [bind_assoc]
  exact h

/-- The second computation may pack what it hands on. -/
theorem unpack {γ : Type} {n : StateT σ (Except Halt) γ} {f : γ → α'}
    {l : α' → StateT σ (Except Halt) β} (h : Lockstep A m (n >>= fun c => l (f c)) R) :
    Lockstep A m ((n >>= fun c => Pure.pure (f c)) >>= l) R :=
  (bind_pure_bind n f l).symm ▸ h

/-- The second computation may wrap its answer. -/
theorem wrap {n : StateT σ (Except Halt) α} (h : Lockstep A m n Eq) (f : α → β) :
    Lockstep A m (n >>= fun a => Pure.pure (f a)) fun a b => b = f a := by
  rw [← bind_pure m]
  refine h.bind ?_
  rintro a _ rfl
  exact .pure rfl

end Lockstep

end Outbound
