import Outbound.Proofs.Chain.Covered
import Outbound.Proofs.Chain.Silence

/-!
# Calls on a budget of sends

A call that stays within a budget sends no more often than that, also when it never comes to its
end. A run that halts leaves no world in which its sends could be counted, so it is compared with a
run over another transport: as long as the two transports agree on the sends within the budget,
the two runs are one.

## Main definitions

* `Transport.AgreesUpTo`: two transports that agree on so many sends
* `SendsAtMost`: a computation over a transport that stays within a budget
* `Budget.account`: the account of the requests of a method
* `Spends`: two computations that spend a budget alike

## Main results

* `sendsAtMost_of_spends`: a computation that spends no more stays within the budget
-/

namespace Outbound

namespace Transport

/-- **Two transports agree on so many sends,** counted from the beginning of the journal. -/
inductive AgreesUpTo (most : Nat) : Transport → Transport → Prop
  | blocking {send send' : Request → Act Result}
    (h : ∀ r s, s.sends ≤ most → send r s = send' r s) :
    AgreesUpTo most (.blocking send) (.blocking send')
  | deferred {send send' : Request → Act (Result × Nat)}
    (h : ∀ r s, s.sends ≤ most → send r s = send' r s) :
    AgreesUpTo most (.deferred send) (.deferred send')

variable {t t' : Transport} {most fewer : Nat}

theorem AgreesUpTo.refl (most : Nat) (t : Transport) : t.AgreesUpTo most t := by
  cases t with
  | blocking send => exact .blocking fun _ _ _ => rfl
  | deferred send => exact .deferred fun _ _ _ => rfl

theorem AgreesUpTo.mono (h : t.AgreesUpTo most t') (le : fewer ≤ most) : t.AgreesUpTo fewer t' := by
  cases h with
  | blocking h => exact .blocking fun r s few => h r s (Nat.le_trans few le)
  | deferred h => exact .deferred fun r s few => h r s (Nat.le_trans few le)

end Transport

variable {α : Type} {t t' : Transport} {n : Nat}

/-- **A computation over a transport stays within a budget:** where it ends, it has sent at most so
often; and whether or not it ends, it goes the same way over any transport that agrees on so many
sends. -/
def SendsAtMost (n : Nat) (t : Transport) (m : Transport → Run α) : Prop :=
  (∀ w v a, m t w = .ok (a, v) → w.sends ≤ v.sends ∧ v.sends ≤ w.sends + n) ∧
    ∀ w t', t.AgreesUpTo (w.sends + n) t' → m t' w = m t w

namespace Budget

/-- **Sends come out of a budget:** none is ever taken back, and those so far and to come never
grow. -/
structure Pays (w : World) (n : Nat) (v : World) (m : Nat) : Prop where
  kept : w.sends ≤ v.sends
  few : v.sends + m ≤ w.sends + n

theorem pays_of_sends {w v : World} {m : Nat} (same : v.sends = w.sends) (le : m ≤ n) :
    Pays w n v m := by
  refine ⟨Nat.le_of_eq same.symm, ?_⟩
  rw [same]
  exact Nat.add_le_add_left le _

theorem Pays.add {w v : World} {m : Nat} (h : Pays w n v m) (d : Nat) :
    Pays w (n + d) v (m + d) := by
  refine ⟨h.kept, ?_⟩
  have few := h.few
  omega

/-- **The account of the requests of a method,** over two transports that agree on the budget. -/
def account (method : Method) (t t' : Transport) : Account where
  Fits r := r.method = method
  Stands w n := t.AgreesUpTo (w.sends + n) t'
  Pays := Pays
  fits same _ h := same.trans h
  trans h h' := ⟨Nat.le_trans h.kept h'.kept, Nat.le_trans h'.few h.few⟩
  calm h le := pays_of_sends h.sends le
  stands h paid := h.mono paid.few

end Budget

/-- **Two computations spend a budget alike,** whichever method it is about. -/
def Spends (t t' : Transport) (n : Nat) (m m' : Run α) : Prop :=
  ∃ method, (Budget.account method t t').Covers n m m' Same

/-- **A computation that spends no more stays within the budget.** -/
theorem sendsAtMost_of_spends {m : Transport → Run α} (h : ∀ t', Spends t t' n (m t) (m t')) :
    SendsAtMost n t m := by
  constructor
  · intro w v a ran
    obtain ⟨method, covered⟩ := h t
    obtain ⟨left, -, paid⟩ := covered.paid (.refl _ t) ran
    exact ⟨paid.kept, Nat.le_trans (Nat.le_add_right _ left) paid.few⟩
  · intro w t' agree
    obtain ⟨method, covered⟩ := h t'
    exact (covered.eq agree).symm

end Outbound
