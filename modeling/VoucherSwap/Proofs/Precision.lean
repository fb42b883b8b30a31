import Mathlib.Algebra.Group.Nat.Defs
import VoucherSwap.Precision
import VoucherSwap.Proofs.Outcome

/-!
What conversion computes, in units. The factor is a power of ten, or nothing once that power is no
amount any more. Down is the quotient by it, refused when it is zero; up is the product, refused
when it is no amount.
-/

namespace VoucherSwap

namespace Amount

theorem ne_zero_iff {amount : Amount} : amount ≠ .zero ↔ 0 < amount.units := by
  constructor
  · intro different
    apply Nat.pos_of_ne_zero
    intro units
    exact different (ext_units units)
  · rintro positive rfl
    exact Nat.lt_irrefl 0 positive

theorem add?_eq_some {a b sum : Amount} : a.add? b = some sum ↔ sum.units = a.units + b.units := by
  rw [add?, ofNat_eq_some, eq_comm]

theorem sub?_eq_some {a b rest : Amount} :
    a.sub? b = some rest ↔ b.units ≤ a.units ∧ rest.units = a.units - b.units := by
  unfold sub?
  by_cases covered : b ≤ a
  · have units : b.units ≤ a.units := covered
    simp only [covered, ↓reduceIte, Option.some.injEq, units, true_and]
    constructor
    · rintro rfl
      rfl
    · exact fun same => (ext_units same).symm
  · have units : ¬ b.units ≤ a.units := covered
    simp [covered, units]

end Amount

namespace Precision

theorem shift?_eq (places : Nat) (amount : Amount) :
    shift? places amount = Amount.ofNat? (amount.units * 10 ^ places) := by
  induction places generalizing amount with
  | zero => rw [shift?, Nat.pow_zero, Nat.mul_one, Amount.ofNat_units]
  | succ places ih =>
      rw [shift?, Nat.pow_succ']
      cases next : Amount.ofNat? (amount.units * 10) with
      | none =>
          have tooLarge := Amount.ofNat_eq_none.mp next
          have grows := Nat.le_mul_of_pos_right (amount.units * 10)
            (Nat.pow_pos (n := places) (by decide : 0 < 10))
          rw [← Nat.mul_assoc, Option.bind_none, eq_comm, Amount.ofNat_eq_none]
          omega
      | some tenfold =>
          have units := Amount.ofNat_eq_some.mp next
          rw [Option.bind_some, ih, ← units, Nat.mul_assoc]

theorem factor?_eq (difference : UInt32) :
    factor? difference = Amount.ofNat? (10 ^ difference.toNat) := by
  rw [factor?, shift?_eq]
  exact congrArg Amount.ofNat? (Nat.one_mul _)

theorem power_lt_bound_iff {difference : UInt32} :
    10 ^ difference.toNat < Amount.bound ↔ difference ≤ maxDifference := by
  constructor
  · intro fits
    refine Nat.le_of_not_lt fun beyond => ?_
    have bound : Amount.bound ≤ 10 ^ (maxDifference.toNat + 1) := by decide
    have power := Nat.pow_le_pow_right (by decide : 0 < 10) (Nat.succ_le_of_lt beyond)
    exact absurd fits (Nat.not_lt.mpr (Nat.le_trans bound power))
  · intro small
    have places : difference.toNat ≤ maxDifference.toNat := small
    exact Nat.lt_of_le_of_lt (Nat.pow_le_pow_right (by decide) places) (by decide)

theorem factor?_of_le {difference : UInt32} (small : difference ≤ maxDifference) :
    ∃ factor, factor? difference = some factor ∧ factor.units = 10 ^ difference.toNat := by
  have fits := power_lt_bound_iff.mpr small
  exact ⟨⟨_, fits⟩, (factor?_eq difference).trans (Amount.ofNat_units ⟨_, fits⟩), rfl⟩

-- Without a factor the power exceeds every amount, so the quotient is zero as well.
theorem scaleDown_eq_ok {amount converted : Amount} {difference : UInt32} :
    scaleDown amount difference = .ok converted ↔
      converted.units = amount.units / 10 ^ difference.toNat ∧ 0 < converted.units := by
  unfold scaleDown
  rw [factor?_eq]
  cases factor : Amount.ofNat? (10 ^ difference.toNat) with
  | none =>
      have tooLarge := Amount.ofNat_eq_none.mp factor
      have dust : amount.units / 10 ^ difference.toNat = 0 :=
        Nat.div_eq_of_lt (Nat.lt_of_lt_of_le amount.fits tooLarge)
      simp only [dust, reduceCtorEq, false_iff]
      omega
  | some power =>
      have units := Amount.ofNat_eq_some.mp factor
      have quotient : (amount.div power).units = amount.units / 10 ^ difference.toNat := by
        rw [units]
        rfl
      by_cases dust : amount.div power = .zero
      · have none : amount.units / 10 ^ difference.toNat = 0 := by
          rw [← quotient, dust]
          rfl
        simp only [dust, ↓reduceIte, none, reduceCtorEq, false_iff]
        omega
      · simp only [dust, ↓reduceIte, Except.ok.injEq, ← quotient]
        constructor
        · rintro rfl
          exact ⟨rfl, Amount.ne_zero_iff.mp dust⟩
        · rintro ⟨same, -⟩
          exact (Amount.ext_units same).symm

-- A product of amounts that are not zero is not zero, so the check of the product always passes.
theorem scaleUp_eq {amount : Amount} (positive : amount ≠ .zero) (difference : UInt32) :
    scaleUp amount difference =
      match (factor? difference).bind amount.mul? with
      | none => .error (.conversionOverflow amount difference)
      | some scaled => .ok scaled := by
  unfold scaleUp
  rw [if_neg positive]
  cases found : (factor? difference).bind amount.mul? with
  | none => rfl
  | some scaled =>
      obtain ⟨factor, power, product⟩ := Option.bind_eq_some_iff.mp found
      rw [factor?_eq] at power
      have units := Amount.ofNat_eq_some.mp power
      have exact := Amount.ofNat_eq_some.mp product
      have some : scaled ≠ .zero := by
        rw [Amount.ne_zero_iff, ← exact, ← units]
        exact Nat.mul_pos (Amount.ne_zero_iff.mp positive) (Nat.pow_pos (by decide))
      exact if_neg some

theorem scaleUp_eq_ok {amount converted : Amount} {difference : UInt32} :
    scaleUp amount difference = .ok converted ↔
      0 < amount.units ∧ converted.units = amount.units * 10 ^ difference.toNat := by
  by_cases nothing : amount = .zero
  · subst nothing
    simp [scaleUp, Amount.zero]
  · have positive := Amount.ne_zero_iff.mp nothing
    rw [scaleUp_eq nothing]
    simp only [factor?_eq, positive, true_and]
    cases factor : Amount.ofNat? (10 ^ difference.toNat) with
    | none =>
        have tooLarge := Amount.ofNat_eq_none.mp factor
        have grows := Nat.le_mul_of_pos_left (10 ^ difference.toNat) positive
        have fits := converted.fits
        simp only [Option.bind_none, reduceCtorEq, false_iff]
        omega
    | some power =>
        have units := Amount.ofNat_eq_some.mp factor
        cases product : amount.mul? power with
        | none =>
            have tooLarge := Amount.ofNat_eq_none.mp product
            have fits := converted.fits
            simp only [Option.bind_some, product, reduceCtorEq, false_iff, units]
            omega
        | some scaled =>
            have exact := Amount.ofNat_eq_some.mp product
            simp only [Option.bind_some, product, Except.ok.injEq, units, exact]
            constructor
            · rintro rfl
              rfl
            · exact fun same => (Amount.ext_units same).symm

theorem scaleUp_eq_error {amount : Amount} {difference : UInt32} {error : Error}
    (refused : scaleUp amount difference = .error error) :
    error = .nonPositiveResult amount difference ∨
      error = .conversionOverflow amount difference := by
  by_cases nothing : amount = .zero
  · rw [scaleUp, if_pos nothing] at refused
    cases refused
    exact .inl rfl
  · rw [scaleUp_eq nothing] at refused
    split at refused
    · cases refused
      exact .inr rfl
    · contradiction

theorem scaleDown_of_scaleUp {amount converted : Amount} {difference : UInt32}
    (scaled : scaleUp amount difference = .ok converted) :
    scaleDown converted difference = .ok amount := by
  obtain ⟨positive, units⟩ := scaleUp_eq_ok.mp scaled
  rw [scaleDown_eq_ok, units, Nat.mul_div_cancel _ (Nat.pow_pos (by decide))]
  exact ⟨rfl, positive⟩

theorem scaleDown_mul_le {amount converted : Amount} {difference : UInt32}
    (scaled : scaleDown amount difference = .ok converted) :
    10 ^ difference.toNat * converted.units ≤ amount.units := by
  rw [(scaleDown_eq_ok.mp scaled).1]
  exact Nat.mul_div_le _ _

theorem difference_le_of_scaleDown {amount converted : Amount} {difference : UInt32}
    (scaled : scaleDown amount difference = .ok converted) :
    difference.toNat ≤ maxDifference.toNat := by
  obtain ⟨units, positive⟩ := scaleDown_eq_ok.mp scaled
  have covered : 10 ^ difference.toNat ≤ amount.units := (Nat.div_pos_iff.mp (units ▸ positive)).2
  exact power_lt_bound_iff.mp (Nat.lt_of_le_of_lt covered amount.fits)

end Precision

end VoucherSwap
