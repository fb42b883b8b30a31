import VoucherSwap.Error

/-!
Conversion between the precision that a token has on the counterparty chain and its native
precision. The counterparty counts `10 ^ d` units where this chain counts one. Scaling down rounds
towards zero and refuses dust, an amount that would round to nothing. Scaling up is exact and
refuses what does not fit; that the product is not zero it checks once more, although no product is.
-/

namespace VoucherSwap.Precision

/-- The largest difference of decimal places whose factor is an amount. -/
def maxDifference : UInt32 := 77

/-- Multiplies by ten the given number of times, for as long as the product is an amount. -/
def shift? : Nat → Amount → Option Amount
  | 0, amount => some amount
  | places + 1, amount => (Amount.ofNat? (amount.units * 10)).bind (shift? places)

def factor? (difference : UInt32) : Option Amount := shift? difference.toNat .one

def scaleDown (amount : Amount) (difference : UInt32) : Except Error Amount :=
  match factor? difference with
  | none => .error (.nonPositiveResult amount difference)
  | some factor =>
    let scaled := amount.div factor
    if scaled = .zero then .error (.nonPositiveResult amount difference) else .ok scaled

def scaleUp (amount : Amount) (difference : UInt32) : Except Error Amount :=
  if amount = .zero then .error (.nonPositiveResult amount difference)
  else
    match (factor? difference).bind amount.mul? with
    | none => .error (.conversionOverflow amount difference)
    | some scaled =>
      if scaled = .zero then .error (.nonPositiveResult amount difference) else .ok scaled

end VoucherSwap.Precision
