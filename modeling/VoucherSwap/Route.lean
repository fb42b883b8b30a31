import VoucherSwap.Host
import VoucherSwap.Payload

/-!
Checks before any coin moves. They look at the settings and at the host's channel and connection
ends: is the channel open, does it lead to the configured counterparty over the configured light
clients, is this the wrapped token, and does the packet use the configured route.
-/

namespace VoucherSwap.Route

variable {σ α : Type}

def channel (host : Host σ α) (state : σ) (endpoint : Endpoint) : Except Error ChannelEnd :=
  match host.channel? state endpoint with
  | some channel => .ok channel
  | none => .error (.channelNotFound endpoint)

def openChannel (host : Host σ α) (state : σ) (endpoint : Endpoint) : Except Error ChannelEnd := do
  let channel ← channel host state endpoint
  if channel.state ≠ .open then throw (.channelNotOpen endpoint channel.state)
  return channel

def checkCounterparty (host : Host σ α) (state : σ) (settings : Settings) (endpoint : Endpoint) :
    Except Error Unit := do
  if settings.counterpartyPort = "" ∨ settings.counterpartyChannel = "" then
    throw .missingCounterpartySettings
  let channel ← openChannel host state endpoint
  match channel.counterpartyChannel with
  | none => throw (.missingCounterpartyChannel endpoint)
  | some counterpartyChannel =>
    let counterparty : Endpoint := ⟨channel.counterpartyPort, counterpartyChannel⟩
    if counterparty.port.text ≠ settings.counterpartyPort ∨
        counterparty.channel.text ≠ settings.counterpartyChannel then
      throw (.counterpartyMismatch s!"{settings.counterpartyPort}/{settings.counterpartyChannel}"
        counterparty.text)

/-- Only the first connection under the channel counts. -/
def checkClients (host : Host σ α) (state : σ) (settings : Settings) (endpoint : Endpoint) :
    Except Error Unit := do
  if settings.nativeClient = "" ∨ settings.counterpartyClient = "" then throw .missingClients
  let channel ← channel host state endpoint
  match channel.hops with
  | [] => throw (.noConnectionHops endpoint)
  | hop :: _ =>
    match host.connection? state hop with
    | none => throw (.connectionNotFound hop)
    | some connection =>
      if connection.client.text ≠ settings.nativeClient then
        throw (.clientMismatch settings.nativeClient connection.client.text)
      if connection.counterpartyClient.text ≠ settings.counterpartyClient then
        throw (.counterpartyClientMismatch settings.counterpartyClient
          connection.counterpartyClient.text)

def isWrappedDenom (settings : Settings) (denom : String) : Bool :=
  settings.wrappedDenom ≠ "" && denom = settings.wrappedDenom

/-- The wrapped token as it leaves this chain, with the native channel as its only hop. -/
def isOutboundDenom (settings : Settings) (denom : Denom) : Bool :=
  settings.configured && denom.text = settings.outboundTrace

def isNativeEnd (settings : Settings) (endpoint : Endpoint) : Bool :=
  endpoint.port.text = settings.nativePort && endpoint.channel.text = settings.nativeChannel

def isCounterpartyEnd (settings : Settings) (endpoint : Endpoint) : Bool :=
  endpoint.port.text = settings.counterpartyPort &&
    endpoint.channel.text = settings.counterpartyChannel

def comesIn (settings : Settings) (packet : Packet) : Bool :=
  isCounterpartyEnd settings packet.source && isNativeEnd settings packet.destination

def goesOut (settings : Settings) (packet : Packet) : Bool :=
  isNativeEnd settings packet.source && isCounterpartyEnd settings packet.destination

/-- A send of this denomination from this end is the swap's business. -/
def isTargeted (settings : Settings) (denom : String) (source : Endpoint) : Bool :=
  isWrappedDenom settings denom && isNativeEnd settings source

def offRoute (packet : Packet) : Skip :=
  .aside s!"{packet.routeText} does not use the wrapped channel"

def payload (packet : Packet) : Except Error Payload :=
  match packet.payload? with
  | some payload => .ok payload
  | none => .error .unreadablePacket

def checkPositive (payload : Payload) : Except Error Unit :=
  if payload.amount = .zero then .error .nonPositiveAmount else .ok ()

def sender (host : Host σ α) (payload : Payload) : Except Error α :=
  if payload.sender = "" then .error .emptySender else host.account payload.sender

end VoucherSwap.Route
