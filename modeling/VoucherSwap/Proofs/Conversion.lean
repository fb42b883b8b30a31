import Mathlib.Algebra.GroupWithZero.Nat
import VoucherSwap.Proofs.Precision

/-!
The two directions of conversion against each other. Up has an amount for each native amount that it
can hold, down takes an amount to the native one below it, and each says exactly when it has none.
Native amounts lie among the others like the multiples of the factor: going up and down again
arrives where it started, and going down and up again stops less than one factor below. So nothing
is gained on any way, nor by converting an amount in parts.
-/

namespace VoucherSwap

theorem Amount.bound_eq : bound = 2 ^ 256 := rfl

namespace Precision

variable {amount converted : Amount} {difference : UInt32} {error : Error}

theorem factor?_eq_some {factor : Amount} :
    factor? difference = some factor ↔ factor.units = 10 ^ difference.toNat := by
  rw [factor?_eq, Amount.ofNat_eq_some, eq_comm]

theorem factor?_isSome : (factor? difference).isSome ↔ 10 ^ difference.toNat < Amount.bound := by
  rw [factor?_eq, ← Nat.not_le, ← Amount.ofNat_eq_none, Option.isSome_iff_ne_none]

theorem scaleDown_fault (refused : scaleDown amount difference = .error error) :
    error = .nonPositiveResult amount difference := by
  unfold scaleDown at refused
  split at refused
  · exact (Except.error.inj refused).symm
  · dsimp only at refused
    split at refused
    · exact (Except.error.inj refused).symm
    · contradiction

theorem scaleDown_eq_error : scaleDown amount difference = .error error ↔
    amount.units / 10 ^ difference.toNat = 0 ∧ error = .nonPositiveResult amount difference := by
  constructor
  · intro refused
    refine ⟨Nat.eq_zero_of_not_pos fun positive => ?_, scaleDown_fault refused⟩
    have fits := Nat.lt_of_le_of_lt
      (Nat.div_le_self amount.units (10 ^ difference.toNat)) amount.fits
    have passed : scaleDown amount difference = .ok ⟨_, fits⟩ := scaleDown_eq_ok.mpr ⟨rfl, positive⟩
    rw [refused] at passed
    contradiction
  · rintro ⟨dust, rfl⟩
    cases scaled : scaleDown amount difference with
    | ok converted =>
        obtain ⟨units, positive⟩ := scaleDown_eq_ok.mp scaled
        omega
    | error error => rw [scaleDown_fault scaled]

theorem exists_scaleUp : (∃ converted, scaleUp amount difference = .ok converted) ↔
    1 ≤ amount.units ∧ amount.units * 10 ^ difference.toNat < Amount.bound := by
  constructor
  · rintro ⟨converted, scaled⟩
    obtain ⟨positive, units⟩ := scaleUp_eq_ok.mp scaled
    exact ⟨positive, units ▸ converted.fits⟩
  · rintro ⟨positive, fits⟩
    exact ⟨⟨_, fits⟩, scaleUp_eq_ok.mpr ⟨positive, rfl⟩⟩

theorem scaleUp_zero (nothing : amount.units = 0) :
    scaleUp amount difference = .error (.nonPositiveResult amount difference) := by
  have zero : amount = .zero := Amount.ext_units nothing
  rw [scaleUp, if_pos zero]

theorem scaleUp_overflow (positive : 1 ≤ amount.units)
    (large : Amount.bound ≤ amount.units * 10 ^ difference.toNat) :
    scaleUp amount difference = .error (.conversionOverflow amount difference) := by
  cases scaled : scaleUp amount difference with
  | ok converted =>
      obtain ⟨-, fits⟩ := exists_scaleUp.mp ⟨converted, scaled⟩
      omega
  | error error =>
      rcases scaleUp_eq_error scaled with rfl | rfl
      · have some : amount ≠ .zero := Amount.ne_zero_iff.mpr positive
        rw [scaleUp_eq some] at scaled
        split at scaled <;> cases scaled
      · rfl

theorem scaleUp_cases (amount : Amount) (difference : UInt32) :
    amount.units = 0 ∧ scaleUp amount difference = .error (.nonPositiveResult amount difference) ∨
    (1 ≤ amount.units ∧ Amount.bound ≤ amount.units * 10 ^ difference.toNat) ∧
      scaleUp amount difference = .error (.conversionOverflow amount difference) ∨
    (1 ≤ amount.units ∧ amount.units * 10 ^ difference.toNat < Amount.bound) ∧
      ∃ converted, scaleUp amount difference = .ok converted := by
  rcases Nat.eq_zero_or_pos amount.units with nothing | positive
  · exact .inl ⟨nothing, scaleUp_zero nothing⟩
  · rcases Nat.lt_or_ge (amount.units * 10 ^ difference.toNat) Amount.bound with fits | large
    · exact .inr (.inr ⟨⟨positive, fits⟩, exists_scaleUp.mpr ⟨positive, fits⟩⟩)
    · exact .inr (.inl ⟨⟨positive, large⟩, scaleUp_overflow positive large⟩)

theorem scaleUp_eq_nonPositive :
    scaleUp amount difference = .error (.nonPositiveResult amount difference) ↔
    amount.units = 0 := by
  constructor
  · intro refused
    rcases scaleUp_cases amount difference with
      ⟨nothing, -⟩ | ⟨-, overflow⟩ | ⟨-, converted, scaled⟩
    · exact nothing
    · rw [refused] at overflow
      cases overflow
    · rw [refused] at scaled
      contradiction
  · exact scaleUp_zero

theorem scaleUp_eq_overflow :
    scaleUp amount difference = .error (.conversionOverflow amount difference) ↔
    1 ≤ amount.units ∧ Amount.bound ≤ amount.units * 10 ^ difference.toNat := by
  constructor
  · intro refused
    rcases scaleUp_cases amount difference with ⟨-, nothing⟩ | ⟨large, -⟩ | ⟨-, converted, scaled⟩
    · rw [refused] at nothing
      cases nothing
    · exact large
    · rw [refused] at scaled
      contradiction
  · rintro ⟨positive, large⟩
    exact scaleUp_overflow positive large

-- What went down goes up again, to the largest multiple of the factor that is not above where it
-- started.
theorem scaleUp_of_scaleDown (scaled : scaleDown amount difference = .ok converted) :
    ∃ restored, scaleUp converted difference = .ok restored ∧ restored.units ≤ amount.units ∧
      amount.units < restored.units + 10 ^ difference.toNat := by
  obtain ⟨units, positive⟩ := scaleDown_eq_ok.mp scaled
  have below : converted.units * 10 ^ difference.toNat ≤ amount.units :=
    units ▸ Nat.div_mul_le_self _ _
  have above : amount.units < 10 ^ difference.toNat * (converted.units + 1) :=
    units ▸ Nat.lt_mul_div_succ _ (Nat.pow_pos (by decide))
  obtain ⟨restored, raised⟩ := exists_scaleUp.mpr ⟨positive, Nat.lt_of_le_of_lt below amount.fits⟩
  have product := (scaleUp_eq_ok.mp raised).2
  refine ⟨restored, raised, product ▸ below, ?_⟩
  rw [product]
  rw [Nat.mul_add_one, Nat.mul_comm] at above
  exact above

theorem scaleUp_le_iff {native foreign up down : Amount}
    (raised : scaleUp native difference = .ok up)
    (lowered : scaleDown foreign difference = .ok down) :
    up.units ≤ foreign.units ↔ native.units ≤ down.units := by
  rw [(scaleUp_eq_ok.mp raised).2, (scaleDown_eq_ok.mp lowered).1,
    Nat.le_div_iff_mul_le (Nat.pow_pos (by decide))]

def total (amounts : List Amount) : Nat := (amounts.map Amount.units).sum

/-- What comes of amounts that are converted one by one; those that are dust are left out. -/
def lowered (difference : UInt32) (amounts : List Amount) : List Amount :=
  amounts.filterMap fun amount => (scaleDown amount difference).toOption

theorem total_lowered_cons (amount : Amount) (rest : List Amount) :
    total (lowered difference (amount :: rest)) =
    amount.units / 10 ^ difference.toNat + total (lowered difference rest) := by
  unfold lowered total
  rw [List.filterMap_cons]
  cases scaled : scaleDown amount difference with
  | error error => simp [Except.toOption, (scaleDown_eq_error.mp scaled).1]
  | ok converted => simp [Except.toOption, (scaleDown_eq_ok.mp scaled).1]

-- By induction on the amounts: two quotients are together at most the quotient of the sum.
theorem total_lowered_le (amounts : List Amount) :
    total (lowered difference amounts) ≤ total amounts / 10 ^ difference.toNat := by
  induction amounts with
  | nil => exact Nat.zero_le _
  | cons amount rest ih =>
      calc total (lowered difference (amount :: rest))
          = amount.units / 10 ^ difference.toNat + total (lowered difference rest) :=
            total_lowered_cons amount rest
        _ ≤ amount.units / 10 ^ difference.toNat + total rest / 10 ^ difference.toNat :=
          Nat.add_le_add_left ih _
        _ ≤ (amount.units + total rest) / 10 ^ difference.toNat := Nat.div_add_div_le_add_div

/-- Conversion by one difference of decimal places, up and down, with every outcome and every way
there and back. -/
structure Adjoint (difference : UInt32) : Prop where
  factor : ∀ factor, factor? difference = some factor ↔ factor.units = 10 ^ difference.toNat
  defined : (factor? difference).isSome ↔ 10 ^ difference.toNat < 2 ^ 256
  largest : 10 ^ difference.toNat < 2 ^ 256 ↔ difference ≤ maxDifference
  down : ∀ amount converted, scaleDown amount difference = .ok converted ↔
    converted.units = amount.units / 10 ^ difference.toNat ∧ 1 ≤ converted.units
  dust : ∀ amount error, scaleDown amount difference = .error error ↔
    amount.units / 10 ^ difference.toNat = 0 ∧ error = .nonPositiveResult amount difference
  up : ∀ amount converted, scaleUp amount difference = .ok converted ↔
    1 ≤ amount.units ∧ converted.units = amount.units * 10 ^ difference.toNat
  fits : ∀ amount, (∃ converted, scaleUp amount difference = .ok converted) ↔
    1 ≤ amount.units ∧ amount.units * 10 ^ difference.toNat < 2 ^ 256
  nothing : ∀ amount, scaleUp amount difference = .error (.nonPositiveResult amount difference) ↔
    amount.units = 0
  overflow : ∀ amount, scaleUp amount difference = .error (.conversionOverflow amount difference) ↔
    1 ≤ amount.units ∧ 2 ^ 256 ≤ amount.units * 10 ^ difference.toNat
  upDown : ∀ amount converted,
    scaleUp amount difference = .ok converted → scaleDown converted difference = .ok amount
  downUp : ∀ amount converted, scaleDown amount difference = .ok converted →
    ∃ restored, scaleUp converted difference = .ok restored ∧ restored.units ≤ amount.units ∧
      amount.units < restored.units + 10 ^ difference.toNat
  order : ∀ native foreign up down,
    scaleUp native difference = .ok up → scaleDown foreign difference = .ok down →
    (up.units ≤ foreign.units ↔ native.units ≤ down.units)
  parts : ∀ amounts, total (lowered difference amounts) ≤ total amounts / 10 ^ difference.toNat

theorem conversion_adjoint (difference : UInt32) : Adjoint difference where
  factor _ := factor?_eq_some
  defined := Amount.bound_eq ▸ factor?_isSome
  largest := Amount.bound_eq ▸ power_lt_bound_iff
  down _ _ := scaleDown_eq_ok
  dust _ _ := scaleDown_eq_error
  up _ _ := scaleUp_eq_ok
  fits _ := Amount.bound_eq ▸ exists_scaleUp
  nothing _ := scaleUp_eq_nonPositive
  overflow _ := Amount.bound_eq ▸ scaleUp_eq_overflow
  upDown _ _ := scaleDown_of_scaleUp
  downUp _ _ := scaleUp_of_scaleDown
  order _ _ _ _ := scaleUp_le_iff
  parts := total_lowered_le

end Precision

end VoucherSwap
