import VoucherSwap.AddressSet
import VoucherSwap.Denom
import VoucherSwap.Precision

/-!
The settings of the swap: the route, that is the pair of channel ends and the light clients under
it, the token that is swapped on this route and its difference of precision, and who governs.
Identifiers are kept as plain text, since they may be filled in one at a time; settings whose route
or token is incomplete count as not configured.
-/

namespace VoucherSwap

structure Settings where
  nativePort : String
  nativeChannel : String
  counterpartyPort : String
  counterpartyChannel : String
  wrappedDenom : String
  nativeClient : String
  counterpartyClient : String
  decimalDifference : UInt32
  enabled : Bool
  operator : String
  proposedOperator : String
  pausers : AddressSet
  deriving DecidableEq

namespace Settings

def blank : Settings where
  nativePort := ""
  nativeChannel := ""
  counterpartyPort := ""
  counterpartyChannel := ""
  wrappedDenom := ""
  nativeClient := ""
  counterpartyClient := ""
  decimalDifference := 0
  enabled := false
  operator := ""
  proposedOperator := ""
  pausers := .empty

def configured (settings : Settings) : Bool :=
  settings.nativePort ≠ "" && settings.nativeChannel ≠ "" && settings.counterpartyPort ≠ "" &&
    settings.counterpartyChannel ≠ "" && settings.wrappedDenom ≠ ""

/-- The trace of the token as it leaves this chain over the native channel. -/
def outboundTrace (settings : Settings) : String :=
  Voucher.trace settings.nativePort settings.nativeChannel settings.wrappedDenom

def mayPause (settings : Settings) (address : String) : Bool :=
  settings.operator = address || address ∈ settings.pausers

def validate (settings : Settings) : Except Error Unit := do
  if !settings.configured then throw .notConfigured
  let _ : PortId ← Identifier.require settings.nativePort
  let _ : ChannelId ← Identifier.require settings.nativeChannel
  let _ : PortId ← Identifier.require settings.counterpartyPort
  let _ : ChannelId ← Identifier.require settings.counterpartyChannel
  if settings.nativeClient = "" ∨ settings.counterpartyClient = "" then throw .missingClients
  let _ : ClientId ← Identifier.require settings.nativeClient
  let _ : ClientId ← Identifier.require settings.counterpartyClient
  if Precision.maxDifference < settings.decimalDifference then
    throw (.invalidDecimalDifference settings.decimalDifference Precision.maxDifference)

end Settings

end VoucherSwap
