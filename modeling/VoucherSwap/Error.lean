import VoucherSwap.Channel
import VoucherSwap.Decoding

/-!
Why a packet is refused, a send fails, or a swap is left undone. Each cause has one wording.
-/

namespace VoucherSwap

/-- Failures of the transfer application that the wrapper passes on. -/
inductive TransferFault where
  | closedChannel
  | unreadablePacket
  | unreadableAcknowledgement
  | unreadableAccount
  deriving DecidableEq

def TransferFault.message : TransferFault → String
  | .closedChannel => "invalid channel state: cannot be closed"
  | .unreadablePacket => "failed to deserialize packet data"
  | .unreadableAcknowledgement => "failed to deserialize acknowledgement"
  | .unreadableAccount => "failed to parse account"

inductive Error where
  | channelNotFound (channel : Endpoint)
  | channelNotOpen (channel : Endpoint) (state : ChannelState)
  | missingCounterpartySettings
  | missingCounterpartyChannel (channel : Endpoint)
  | counterpartyMismatch (expected actual : String)
  | missingClients
  | noConnectionHops (channel : Endpoint)
  | connectionNotFound (connection : ConnectionId)
  | clientMismatch (expected actual : String)
  | counterpartyClientMismatch (expected actual : String)
  | notConfigured
  | disabled
  | invalidDecimalDifference (difference most : UInt32)
  | invalidIdentifier (cause : IdentifierError)
  | unreadablePacket
  | unwritablePacket
  | unreadableAcknowledgement
  | emptySender
  | emptyReceiver
  | unreadableAccount (address : String)
  | nonPositiveAmount
  | nonPositiveResult (amount : Amount) (difference : UInt32)
  | conversionOverflow (amount : Amount) (difference : UInt32)
  | insufficientFunds (holder required available : String)
  | missingCoin (coin : String)
  | totalsOverflow
  | bank (description : String)
  | host (description : String)
  | invalidDenom (denom description : String)
  | transfer (cause : TransferFault)
  deriving DecidableEq

namespace Error

def message : Error → String
  | .channelNotFound channel =>
    s!"channel not found for port_id `{channel.port}` and channel_id `{channel.channel}`"
  | .channelNotOpen channel state =>
    s!"channel `{channel}` is not open: current state is `{state}`"
  | .missingCounterpartySettings => "counterparty port and channel are not configured"
  | .missingCounterpartyChannel channel => s!"channel `{channel}` has no counterparty channel"
  | .counterpartyMismatch expected actual =>
    s!"counterparty mismatch: expected `{expected}`, got `{actual}`"
  | .missingClients => "native and counterparty client ids are not configured"
  | .noConnectionHops channel => s!"channel `{channel}` has no connection hops"
  | .connectionNotFound connection => s!"connection not found: `{connection}`"
  | .clientMismatch expected actual =>
    s!"native client id mismatch: expected `{expected}`, got `{actual}`"
  | .counterpartyClientMismatch expected actual =>
    s!"counterparty client id mismatch: expected `{expected}`, got `{actual}`"
  | .notConfigured => "token wrapper settings are not configured"
  | .disabled => "token wrapper is disabled"
  | .invalidDecimalDifference difference most =>
    s!"invalid decimal difference `{difference}`: must not exceed `{most}`"
  | .invalidIdentifier cause => s!"invalid identifier: `{cause.message}`"
  | .unreadablePacket => "failed to deserialize packet data"
  | .unwritablePacket => "failed to serialize packet data"
  | .unreadableAcknowledgement => "failed to deserialize acknowledgement"
  | .emptySender => "sender address is empty"
  | .emptyReceiver => "receiver address is empty"
  | .unreadableAccount address => s!"failed to parse `{address}` as an account"
  | .nonPositiveAmount => "amount must be positive"
  | .nonPositiveResult amount difference =>
    s!"converting `{amount}` with decimal difference `{difference}` yields a non-positive amount"
  | .conversionOverflow amount difference =>
    s!"converting `{amount}` with decimal difference `{difference}` overflows"
  | .insufficientFunds holder required available =>
    s!"insufficient funds: `{holder}` holds `{available}`, needs `{required}`"
  | .missingCoin coin => s!"sender does not hold the unescrowed coin `{coin}`"
  | .totalsOverflow => "transfer totals overflow"
  | .bank description => s!"bank operation failed: `{description}`"
  | .host description => s!"host failure: `{description}`"
  | .invalidDenom denom description => s!"invalid denomination `{denom}`: {description}"
  | .transfer cause => s!"token transfer error: `{cause.message}`"

def cause? : Error → Option String
  | .invalidIdentifier cause => some cause.message
  | .transfer cause => some cause.message
  | _ => none

end Error

/-- Reads an identifier where a malformed one is an error of the wrapper. -/
def Identifier.require {kind : IdentifierKind} (text : String) : Except Error (Identifier kind) :=
  (ofText text).mapError .invalidIdentifier

end VoucherSwap
