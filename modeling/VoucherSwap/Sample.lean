import VoucherSwap.Payload
import VoucherSwap.Settings

/-!
A sample route: `channel-0` of this chain leads to `channel-5` of the counterparty, whose tokens
have twelve decimal places more. A packet on this route comes in from the counterparty.
-/

namespace VoucherSwap.Sample

def nativeDenom : String := "uzig"

def settings : Settings where
  nativePort := "transfer"
  nativeChannel := "channel-0"
  counterpartyPort := "transfer"
  counterpartyChannel := "channel-5"
  wrappedDenom := nativeDenom
  nativeClient := "07-tendermint-0"
  counterpartyClient := "07-tendermint-3"
  decimalDifference := 12
  enabled := true
  operator := "zig1operator"
  proposedOperator := ""
  pausers := .empty

def nativeEnd : Endpoint := ⟨⟨"transfer", by rfl⟩, ⟨"channel-0", by rfl⟩⟩

def counterpartyEnd : Endpoint := ⟨⟨"transfer", by rfl⟩, ⟨"channel-5", by rfl⟩⟩

def packet : Packet where
  sequence := 1
  source := counterpartyEnd
  destination := nativeEnd
  data := ⟨#[0]⟩
  timeoutHeight := 1000

/-- A payload with an empty memo. -/
def payload (denom amount sender receiver : String) : Except DecodingError Payload := do
  return {
    denom := ← Denom.ofText denom
    amount := ← Amount.decode amount
    sender
    receiver
    memo := "" }

end VoucherSwap.Sample
