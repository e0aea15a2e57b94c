import Mathlib.Tactic.Common

/-!
# A Ledger of Resources

What is acquired and what is released, and what is left.

A call that takes hold of several things one after the other, and gives some of
them back when it fails, is described by the entries it makes. The balance of a
resource over a log is how often it was acquired and not released. It adds up
over the calls of a run, so what a run leaves behind follows from what each of
its calls does.

## Main definitions

* `Entry`: Something is acquired or released.
* `balance`: How often a resource was acquired and not released.
* `Settled`: Everything that was acquired has been released.

## Theorems

* `balance_append`: Balances add up.
* `settled_nil`: Nothing acquired is nothing left.
-/

namespace Taoshan

namespace Ledger

variable {ρ : Type*} [DecidableEq ρ]

/-- A resource is acquired or released. -/
inductive Entry (ρ : Type*)
  | acquire (r : ρ)
  | release (r : ρ)
  deriving DecidableEq

/-- What an entry adds to the balance of a resource. -/
def Entry.amount (r : ρ) : Entry ρ → Int
  | .acquire s => if s = r then 1 else 0
  | .release s => if s = r then -1 else 0

/-- How often a resource was acquired and not released. -/
def balance (r : ρ) : List (Entry ρ) → Int
  | [] => 0
  | e :: log => e.amount r + balance r log

/-- Everything that was acquired has been released. -/
def Settled (log : List (Entry ρ)) : Prop := ∀ r, balance r log = 0

/-- Balances add up. -/
theorem balance_append (r : ρ) (xs ys : List (Entry ρ)) :
    balance r (xs ++ ys) = balance r xs + balance r ys := by
  induction xs with
  | nil => exact (Int.zero_add _).symm
  | cons e xs ih => rw [List.cons_append, balance, balance, ih, Int.add_assoc]

theorem settled_nil : Settled ([] : List (Entry ρ)) := fun _ => rfl

end Ledger

end Taoshan
