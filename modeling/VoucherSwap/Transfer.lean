import VoucherSwap.Chain
import VoucherSwap.Route
import VoucherSwap.Stack

/-!
A transfer application on a chain in memory. Tokens of this chain are held in escrow while they are
abroad and released when they come back; tokens of other chains are minted as vouchers when they
arrive and burned when they leave. Receiving and refunding can be switched off.
-/

namespace VoucherSwap.Transfer

structure Switches where
  receivesFail : Bool
  refundsFail : Bool
  deriving DecidableEq

def event (payload : Payload) (success : Bool) : Event where
  kind := "fungible_token_packet"
  attributes := [
    ("module", "transfer"),
    ("sender", payload.sender),
    ("receiver", payload.receiver),
    ("denom", payload.denom.text),
    ("amount", payload.amount.text),
    ("success", if success then "true" else "false")]

def account (address : String) : Except Error Account := Chain.host.account address

def move (sender receiver : Account) (denom : String) (amount : Amount) : Attempt Chain Unit := do
  Chain.sendCoins sender receiver (← Coin.make denom amount)

def receive (switches : Switches) (packet : Packet) : Attempt Chain Payload := do
  if switches.receivesFail then throw (.host "transfer application refused the packet")
  let payload ← Route.payload packet
  let receiver ← account payload.receiver
  if payload.denom.arrivedOver packet.source then
    let denom := payload.denom.removeHop packet.source
    move (Chain.escrow packet.destination) receiver denom.ledgerName payload.amount
  else
    let denom := payload.denom.addHop packet.destination
    Chain.mint receiver denom.ledgerName payload.amount
  return payload

def refund (switches : Switches) (packet : Packet) : Attempt Chain Payload := do
  if switches.refundsFail then throw (.host "transfer application failed to refund")
  let payload ← Route.payload packet
  let sender ← account payload.sender
  if payload.denom.arrivedOver packet.source then
    Chain.mint sender payload.denom.ledgerName payload.amount
  else move (Chain.escrow packet.source) sender payload.denom.ledgerName payload.amount
  return payload

def settle (switches : Switches) (packet : Packet) : Effect Chain Settlement := do
  match ← (refund switches packet).run with
  | .ok payload => return ⟨⟨[event payload false], []⟩, .ok ()⟩
  | .error error => return ⟨.empty, .error error⟩

def successValue : String := "AQ=="

def application (switches : Switches) : Application Chain where
  receive := fun delivery => do
    match ← (receive switches delivery.packet).run with
    | .ok payload => return ⟨⟨[event payload true], []⟩, .ofStatus (.success successValue)⟩
    | .error error => return ⟨.empty, .ofStatus (.failure error.message)⟩
  acknowledge := fun (delivery, acknowledgement) =>
    match acknowledgement.status? with
    | none => return ⟨.empty, .error .unreadableAcknowledgement⟩
    | some (.success _) => return ⟨.empty, .ok ()⟩
    | some (.failure _) => settle switches delivery.packet
  timeout := fun delivery => settle switches delivery.packet

/-- Takes a sender's coin into escrow or burns it. -/
def take (packet : Packet) : Attempt Chain Unit := do
  let payload ← Route.payload packet
  let sender ← account payload.sender
  let coin ← Coin.make payload.denom.ledgerName payload.amount
  if payload.denom.arrivedOver packet.source then Chain.burnCoins sender coin
  else Chain.sendCoins sender (Chain.escrow packet.source) coin

/-- Starts a transfer: takes the sender's coin and sends the packet through a stack. Balances are
not restored if the send fails. -/
def start (stack : Stack Chain) (packet : Packet) : Effect Chain Dispatch := do
  match ← (take packet).run with
  | .error error => return .error error
  | .ok () => stack.send Chain.sendPacket packet

end VoucherSwap.Transfer
