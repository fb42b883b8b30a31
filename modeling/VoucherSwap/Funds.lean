import VoucherSwap.Denom
import VoucherSwap.Error

/-!
Coins, which are amounts of one denomination as a bank holds them, and running totals of what was
wrapped in and unwrapped out, in native precision. A refund takes its amount back out of the
outgoing total, which stops at zero.
-/

namespace VoucherSwap

structure Coin where
  denom : BaseDenom
  amount : Amount
  deriving DecidableEq

namespace Coin

/-- A blank denomination names no coin. -/
def make (denom : String) (amount : Amount) : Except Error Coin :=
  match BaseDenom.ofText denom with
  | .ok denom => .ok ⟨denom, amount⟩
  | .error cause => .error (.bank cause.message)

def describe (amount : Amount) (denom : String) : String := s!"{amount}{denom}"

def text (coin : Coin) : String := describe coin.amount coin.denom.text

instance : ToString Coin := ⟨text⟩

end Coin

structure Totals where
  transferredIn : Amount
  transferredOut : Amount
  deriving DecidableEq

namespace Totals

def zero : Totals := ⟨.zero, .zero⟩

def recordIn (totals : Totals) (amount : Amount) : Except Error Totals :=
  match totals.transferredIn.add? amount with
  | some sum => .ok { totals with transferredIn := sum }
  | none => .error .totalsOverflow

def recordOut (totals : Totals) (amount : Amount) : Except Error Totals :=
  match totals.transferredOut.add? amount with
  | some sum => .ok { totals with transferredOut := sum }
  | none => .error .totalsOverflow

def releaseOut (totals : Totals) (amount : Amount) : Totals :=
  { totals with transferredOut := totals.transferredOut.monus amount }

end Totals

end VoucherSwap
