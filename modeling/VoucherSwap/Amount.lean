import VoucherSwap.Text

/-!
Token amounts: natural numbers of 256 bits. Addition, subtraction and multiplication are checked, so
an amount never wraps around. An amount is written in decimal without leading zeros. It may be read
with leading zeros, and the empty text reads as zero.
-/

namespace VoucherSwap

/-- The 256th power of two, which no amount reaches. -/
def Amount.bound : Nat := Nat.pow 2 256

structure Amount where
  units : Nat
  fits : units < Amount.bound
  deriving DecidableEq

namespace Amount

def zero : Amount := ⟨0, by decide⟩

def one : Amount := ⟨1, by decide⟩

instance : Inhabited Amount := ⟨zero⟩

instance : LE Amount := ⟨fun a b => a.units ≤ b.units⟩

instance (a b : Amount) : Decidable (a ≤ b) := Nat.decLe a.units b.units

def ofNat? (units : Nat) : Option Amount :=
  if fits : units < bound then some ⟨units, fits⟩ else none

def add? (a b : Amount) : Option Amount := ofNat? (a.units + b.units)

def mul? (a b : Amount) : Option Amount := ofNat? (a.units * b.units)

def sub? (a b : Amount) : Option Amount :=
  if b ≤ a then some ⟨a.units - b.units, Nat.lt_of_le_of_lt (Nat.sub_le ..) a.fits⟩ else none

/-- Subtraction that stops at zero. -/
def monus (a b : Amount) : Amount :=
  ⟨a.units - b.units, Nat.lt_of_le_of_lt (Nat.sub_le ..) a.fits⟩

def div (a b : Amount) : Amount :=
  ⟨a.units / b.units, Nat.lt_of_le_of_lt (Nat.div_le_self ..) a.fits⟩

def text (a : Amount) : String := toString a.units

instance : ToString Amount := ⟨text⟩

def ofFin (units : Fin bound) : Amount := ⟨units.val, units.isLt⟩

def ofText (text : String) : Except Text.DigitFault Amount :=
  (Text.readDigits ⟨0, by decide⟩ text.toList).map ofFin

def faultMessage : Text.DigitFault → String
  | .notDigit => "a character is not in the range 0-9"
  | .tooLarge => "the number is too large for the type"

theorem ext_units {a b : Amount} (same : a.units = b.units) : a = b := by
  cases a; cases b; simp_all

theorem ofNat_units (a : Amount) : ofNat? a.units = some a := dif_pos a.fits

theorem ofNat_eq_some {n : Nat} {a : Amount} : ofNat? n = some a ↔ n = a.units := by
  constructor
  · intro found
    unfold ofNat? at found
    split at found
    · cases found; rfl
    · contradiction
  · rintro rfl; exact ofNat_units a

theorem ofNat_eq_none {n : Nat} : ofNat? n = none ↔ bound ≤ n := by
  unfold ofNat?; split <;> simp <;> omega

end Amount

end VoucherSwap
