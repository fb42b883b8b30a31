import VoucherSwap.Proofs.Moves
import VoucherSwap.Proofs.Refund

/-!
The exchange that is made for a payload, whichever way its packet went. Somebody has the vouchers,
and the reserve gives what they are worth. The vouchers go first, so an exchange that the reserve
cannot finish gets half the way. How far it got can be read off the balances of the holder.
-/

namespace VoucherSwap

namespace Swap

/-- What a payload is worth in the native token, rounded down. -/
def worth (settings : Settings) (payload : Payload) : Amount :=
  ⟨payload.amount.units / settings.factor,
    Nat.lt_of_le_of_lt (Nat.div_le_self ..) payload.amount.fits⟩

theorem voucher_visible (settings : Settings) : Text.isBlank settings.voucher = false :=
  Voucher.ofTrace_visible _

def voucher (settings : Settings) (payload : Payload) : Coin :=
  ⟨⟨settings.voucher, voucher_visible settings⟩, payload.amount⟩

def native (chain : Chain) (visible : Text.isBlank chain.nativeDenom = false)
    (payload : Payload) : Coin :=
  ⟨⟨chain.nativeDenom, visible⟩, worth chain.settings payload⟩

/-- The payload is worth something, the reserve has that, and the holder may pay for it. -/
structure Affordable (chain : Chain) (holder : Account) (payload : Payload) : Prop where
  difference : chain.settings.decimalDifference.toNat ≤ Precision.maxDifference.toNat
  positive : 1 ≤ (worth chain.settings payload).units
  covered : (worth chain.settings payload).units ≤ chain.bank.units Chain.reserve chain.nativeDenom
  free : holder ∉ chain.bank.frozen

/-- No balance that the exchange would add to outgrows an amount. -/
structure Roomy (chain : Chain) (holder : Account) (payload : Payload) : Prop where
  vouchers : chain.bank.units Chain.reserve chain.settings.voucher +
    payload.amount.units < Amount.bound
  native : Chain.reserve ∉ chain.bank.frozen →
    chain.bank.units holder chain.nativeDenom + (worth chain.settings payload).units < Amount.bound

def taken (chain : Chain) (holder : Account) (payload : Payload) : Move :=
  .lock holder chain.settings.voucher payload.amount.units

def given (chain : Chain) (holder : Account) (payload : Payload) : Move :=
  .pay holder chain.nativeDenom (worth chain.settings payload).units

inductive Progress where
  | none
  | half
  | full

def Progress.moves (chain : Chain) (holder : Account) (payload : Payload) : Progress → List Move
  | .none => []
  | .half => [taken chain holder payload]
  | .full => [taken chain holder payload, given chain holder payload]

def Progress.vouchers (payload : Payload) : Progress → Nat
  | .none => 0
  | .half | .full => payload.amount.units

def Progress.natives (settings : Settings) (payload : Payload) : Progress → Nat
  | .none | .half => 0
  | .full => (worth settings payload).units

variable {chain : Chain} {holder : Account} {payload : Payload}

theorem Affordable.exchangeable (affordable : Affordable chain holder payload)
    (held : payload.amount.units ≤ chain.bank.units holder chain.settings.voucher)
    (visible : Text.isBlank chain.nativeDenom = false)
    (foreign : chain.nativeDenom ≠ chain.settings.voucher) (roomy : Roomy chain holder payload) :
    chain.bank.Exchangeable holder (voucher chain.settings payload)
      (native chain visible payload) :=
  ⟨foreign, affordable.free, held, affordable.covered, roomy.vouchers,
    fun free => Nat.add_comm _ _ ▸ roomy.native free⟩

section

variable (other : holder ≠ Chain.reserve) (foreign : chain.nativeDenom ≠ chain.settings.voucher)
include other foreign

theorem Progress.shows {progress : Progress} {after : Bank}
    (moved : chain.bank.Transferred after (progress.moves chain holder payload)) :
    after.units holder chain.settings.voucher + progress.vouchers payload =
        chain.bank.units holder chain.settings.voucher ∧
      after.units holder chain.nativeDenom =
        chain.bank.units holder chain.nativeDenom + progress.natives chain.settings payload := by
  cases progress with
  | none => exact ⟨moved.units holder _, moved.units holder _⟩
  | half =>
      obtain ⟨locked, others⟩ := moved.locked other
      exact ⟨locked, others _ foreign⟩
  | full => exact moved.exchanged other foreign

-- The same balances do not show two exchanges, unless nothing was to be exchanged.
theorem Progress.unique {first second : Progress} {after : Bank}
    (positive : 0 < payload.amount.units)
    (valued : first ≠ .none → 0 < (worth chain.settings payload).units)
    (one : chain.bank.Transferred after (first.moves chain holder payload))
    (two : chain.bank.Transferred after (second.moves chain holder payload)) : second = first := by
  obtain ⟨vouchers, natives⟩ := Progress.shows other foreign one
  obtain ⟨otherVouchers, otherNatives⟩ := Progress.shows other foreign two
  have sameVouchers : second.vouchers payload = first.vouchers payload := by omega
  have sameNatives : second.natives chain.settings payload = first.natives chain.settings payload :=
    Nat.add_left_cancel (otherNatives.symm.trans natives)
  -- The vouchers tell none from the others, and the native tokens tell half from full.
  cases first <;> cases second <;> simp_all [Progress.vouchers, Progress.natives]

end

end Swap

end VoucherSwap
