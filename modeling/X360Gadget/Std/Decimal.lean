import Mathlib.Data.List.Basic

/-!
# Decimals that may overflow

A bounded machine integer is read digit by digit and the sum is checked at every
digit. Since a sum never gets smaller, `read` gives the value of the digits exactly
when that value is within the bound.
-/

namespace X360Gadget.Std.Decimal

/-- Accumulate digits onto a sum that may not exceed the bound. -/
def read (bound : Nat) : Nat → List Char → Option Nat
  | sum, [] => some sum
  | sum, c :: rest =>
      if c.isDigit then
        if 10 * sum + (c.toNat - '0'.toNat) ≤ bound then
          read bound (10 * sum + (c.toNat - '0'.toNat)) rest
        else none
      else none

/-- Further digits only add. -/
theorem le_ofDigitChars (sum : Nat) (digits : List Char) :
    sum ≤ Nat.ofDigitChars 10 digits sum := by
  induction digits generalizing sum with
  | nil => exact Nat.le_of_eq Nat.ofDigitChars_nil.symm
  | cons c rest ih =>
      rw [Nat.ofDigitChars_cons]
      have later := ih (10 * sum + (c.toNat - '0'.toNat))
      omega

/-- What is read is the value of the digits, if all are digits and it is within the
bound. -/
theorem read_eq_some_iff {bound sum value : Nat} {digits : List Char} (within : sum ≤ bound) :
    read bound sum digits = some value ↔
      (∀ c ∈ digits, c.isDigit) ∧ Nat.ofDigitChars 10 digits sum = value ∧ value ≤ bound := by
  induction digits generalizing sum with
  | nil =>
      rw [read, Option.some.injEq, Nat.ofDigitChars_nil]
      constructor
      · rintro rfl
        exact ⟨nofun, rfl, within⟩
      · rintro ⟨-, same, -⟩
        exact same
  | cons c rest ih =>
      rw [read, Nat.ofDigitChars_cons, List.forall_mem_cons, and_assoc]
      by_cases digit : c.isDigit
      · rw [if_pos digit, and_iff_right digit]
        by_cases fits : 10 * sum + (c.toNat - '0'.toNat) ≤ bound
        · rw [if_pos fits, ih fits]
        · rw [if_neg fits]
          refine iff_of_false nofun ?_
          rintro ⟨-, rfl, within⟩
          exact fits (Nat.le_trans (le_ofDigitChars _ rest) within)
      · rw [if_neg digit]
        exact iff_of_false nofun fun both => digit both.1

end X360Gadget.Std.Decimal
