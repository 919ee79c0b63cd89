import Mathlib.Logic.Relation
import Mathlib.Tactic

/-!
# Holds on an account

A hold takes an amount from an account before the price of a service is known. While it is open it
may be moved to another amount. It ends once: it is settled at the actual price, or it is released,
and the release may take a while to reach the account.

A ledger `Follows` a hold if it has the bookkeeping to undo an open hold, and shows the final charge
of an ended one.
-/

/-- The states of a hold. -/
inductive Hold where
  | held (amount : ℤ)
  | settled (actual : ℤ)
  | releasing (amount : ℤ)
  | released

namespace Hold

/-- The moves of a hold. -/
inductive Step : Hold → Hold → Prop
  | idle (hold : Hold) : Step hold hold
  | move (amount amount' : ℤ) : Step (held amount) (held amount')
  | settle (amount actual : ℤ) : Step (held amount) (settled actual)
  | release (amount : ℤ) : Step (held amount) (releasing amount)
  | finish (amount : ℤ) : Step (releasing amount) released

/-- A settled hold stays as it is. -/
lemma eq_of_settled {actual : ℤ} {hold : Hold}
    (h : Relation.ReflTransGen Step (settled actual) hold) : hold = settled actual := by
  induction h with
  | refl => rfl
  | tail _ hstep ih =>
    rw [ih] at hstep
    cases hstep
    rfl

/-- A released hold stays as it is. -/
lemma eq_of_released {hold : Hold} (h : Relation.ReflTransGen Step released hold) :
    hold = released := by
  induction h with
  | refl => rfl
  | tail _ hstep ih =>
    rw [ih] at hstep
    cases hstep
    rfl

section Follows

variable (Held Charged : ℤ → Prop)

/-- A ledger follows a hold: `Held amount` says that it can undo a hold of `amount`, and
`Charged amount` that it shows a charge of `amount`. -/
def Follows : Hold → Prop
  | held amount => Held amount
  | settled actual => Charged actual
  | releasing amount => Held amount
  | released => Charged 0

variable {Held Charged}

lemma Follows.imp {Held' Charged' : ℤ → Prop} {hold : Hold} (h : Follows Held Charged hold)
    (hheld : ∀ amount, Held amount → Held' amount)
    (hcharged : ∀ amount, Charged amount → Charged' amount) : Follows Held' Charged' hold := by
  cases hold with
  | held amount | releasing amount => exact hheld amount h
  | settled actual => exact hcharged actual h
  | released => exact hcharged 0 h

end Follows

end Hold
