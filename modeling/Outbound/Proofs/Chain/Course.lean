import Outbound.Chain.Basic

/-!
# Calls in progress

An asynchronous call is started and asked, and between two questions to it anything may happen:
other calls go on, time passes, tokens are cancelled. What a call does itself happens while it is
started and while it is asked. So a call in progress comes with its own steps, and what it has
changed is what these steps have changed.

## Main definitions

* `ownChange`: what steps have changed of something that is counted
* `Engine.Course`: how a call has gone on so far, with its own steps

## Main results

* `Engine.Course.change_eq`: undisturbed, all that has changed is a call's own
* `Engine.Course.related`: a call in progress keeps within what relates its own steps
-/

namespace Outbound

/-- **What steps have changed** of something that is counted, whatever happened between them. A step
is given by the worlds before and after it. -/
def ownChange (count : World → Nat) : List (World × World) → Int
  | [] => 0
  | (w, v) :: steps => count v - count w + ownChange count steps

variable (count : World → Nat) (steps steps' : List (World × World)) (w v : World)

@[simp] theorem ownChange_nil : ownChange count [] = 0 := rfl

@[simp] theorem ownChange_cons :
    ownChange count ((w, v) :: steps) = count v - count w + ownChange count steps := rfl

@[simp] theorem ownChange_append :
    ownChange count (steps ++ steps') = ownChange count steps + ownChange count steps' := by
  induction steps with
  | nil => exact (Int.zero_add _).symm
  | cons step steps ih =>
    rw [List.cons_append, ownChange_cons, ownChange_cons, ih, Int.add_assoc]

/-- **How a call has gone on so far:** it was started and asked again and again, and between two
questions the world went from one to another, as its own steps up to then allow. The steps are
given newest first. -/
inductive Engine.Course (e : Engine) (between : List (World × World) → World → World → Prop)
    (r : Request) (w₀ : World) : Progress e.State → World → List (World × World) → Prop
  | started {v : World} {s : e.State} (ran : e.start r w₀ = .ok (s, v)) (wake : Option Nat) :
    Course e between r w₀ (.pending s wake) v [(w₀, v)]
  | asked {u w v : World} {s : e.State} {wake : Option Nat} {p : Progress e.State}
    {steps : List (World × World)} (before : Course e between r w₀ (.pending s wake) u steps)
    (meanwhile : between steps u w) (ran : e.poll s w = .ok (p, v)) :
    Course e between r w₀ p v ((w, v) :: steps)

/-- **Undisturbed, all that has changed is a call's own.** -/
theorem Engine.Course.change_eq {e : Engine} {between : List (World × World) → World → World → Prop}
    {r : Request} {w₀ v : World} {p : Progress e.State} {steps : List (World × World)}
    (course : e.Course between r w₀ p v steps) (count : World → Nat)
    (undisturbed : ∀ steps u w, between steps u w → count w = count u) :
    (count v : Int) = count w₀ + ownChange count steps := by
  induction course with
  | started ran wake =>
    rw [ownChange_cons, ownChange_nil]
    omega
  | asked before meanwhile ran ih =>
    have same := undisturbed _ _ _ meanwhile
    rw [ownChange_cons]
    omega

/-- **A call in progress keeps within a relation** that its own steps keep within, and all that
happens between them. -/
theorem Engine.Course.related {e : Engine} {between : List (World × World) → World → World → Prop}
    {r : Request} {w₀ v : World} {p : Progress e.State} {steps : List (World × World)}
    (course : e.Course between r w₀ p v steps) {S : World → World → Prop}
    (trans : ∀ {u v w}, S u v → S v w → S u w) (own : ∀ a ∈ steps, S a.1 a.2)
    (undisturbed : ∀ steps u w, between steps u w → S u w) : S w₀ v := by
  induction course with
  | started ran wake => exact own _ List.mem_cons_self
  | asked before meanwhile ran ih =>
    have sofar := ih fun a member => own a (List.mem_cons_of_mem _ member)
    have before := trans sofar (undisturbed _ _ _ meanwhile)
    exact trans before (own _ List.mem_cons_self)

/-- A call's own steps are those of its engine. -/
theorem Engine.Course.own_related {e : Engine} {between : List (World × World) → World → World → Prop}
    {r : Request} {w₀ v : World} {p : Progress e.State} {steps : List (World × World)}
    (course : e.Course between r w₀ p v steps) {S : World → World → Prop}
    (start : ∀ w s v, e.start r w = .ok (s, v) → S w v)
    (poll : ∀ s w p v, e.poll s w = .ok (p, v) → S w v) : ∀ a ∈ steps, S a.1 a.2 := by
  induction course with
  | started ran wake =>
    rintro a (_ | ⟨_, ⟨⟩⟩)
    exact start _ _ _ ran
  | asked before meanwhile ran ih =>
    rintro a (_ | ⟨_, member⟩)
    · exact poll _ _ _ _ ran
    · exact ih a member

end Outbound
