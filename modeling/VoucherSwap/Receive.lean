import VoucherSwap.Reserve
import VoucherSwap.Route
import VoucherSwap.Stack

/-!
Receiving a transfer. The packet is checked first, and a packet that fails is answered with an error
acknowledgement. Then the application receives it. If it acknowledges success, the fresh voucher is
swapped for the native token, scaled down to native precision. From there on no failure changes the
acknowledgement; each is added to the answer as one event.
-/

namespace VoucherSwap.Receive

variable {σ α : Type}

/-- The checks that a packet must pass before the application sees it. -/
def screen (host : Host σ α) (state : σ) (packet : Packet) : Except Error Payload := do
  let _ ← Route.openChannel host state packet.destination
  let payload ← Route.payload packet
  if payload.sender = "" then throw .emptySender
  let _ ← host.account payload.receiver
  Route.checkPositive payload
  return payload

structure Wrapping (α : Type) where
  receiver : α
  voucher : Coin
  native : Coin

def assess (host : Host σ α) (state : σ) (packet : Packet) (payload : Payload) :
    Except Skip (Wrapping α) := do
  let settings ← (host.settings state).mapError Skip.ofError
  (Route.checkCounterparty host state settings packet.destination).mapError Skip.ofError
  (Route.checkClients host state settings packet.destination).mapError Skip.ofError
  if !settings.configured then throw (.aside Error.notConfigured.message)
  let denom := payload.denom.text
  if !Route.isWrappedDenom settings denom then
    throw (.aside s!"denom `{denom}` is not the wrapped denom `{settings.wrappedDenom}`")
  if payload.denom.arrivedOver packet.source then
    throw (.aside s!"denom `{denom}` is returning to its source over `{packet.source}`")
  if !settings.enabled then throw (.aside Error.disabled.message)
  if !Route.comesIn settings packet then throw (Route.offRoute packet)
  let receiver ← (host.account payload.receiver).mapError Skip.ofError
  let voucherDenom :=
    Voucher.denom packet.destination.port.text packet.destination.channel.text denom
  let converted ←
    (Precision.scaleDown payload.amount settings.decimalDifference).mapError Skip.ofError
  let voucher ← (Coin.make voucherDenom payload.amount).mapError Skip.ofError
  let native ← (Coin.make (host.nativeDenom state) converted).mapError Skip.ofError
  (Reserve.checkBalances host state receiver payload.receiver voucher native).mapError Skip.ofError
  return ⟨receiver, voucher, native⟩

/-- Why a swap is left half done: the voucher is in the reserve and the native coin cannot
follow. -/
def stranded (payload : Payload) (voucher : Coin) (error : Error) : Skip :=
  .failed (s!"{voucher} of {payload.receiver} stays locked in the reserve: " ++ error.message)

def settle (host : Host σ α) (packet : Packet) (payload : Payload) (wrapping : Wrapping α) :
    ExceptT Skip (Effect σ) Notice := do
  (Reserve.lock host wrapping.receiver wrapping.voucher).adapt Skip.ofError
  (Reserve.unlock host wrapping.receiver wrapping.native).adapt
    (stranded payload wrapping.voucher)
  (Reserve.recordIn host wrapping.native.amount).adapt Skip.ofError
  return .wrapped {
    sender := payload.sender
    receiver := payload.receiver
    amount := wrapping.native.amount
    denom := wrapping.native.denom.text
    source := packet.source
    destination := packet.destination }

/-- Swaps a received voucher, or says why not. -/
def wrap (host : Host σ α) (packet : Packet) (payload : Payload) : Effect σ Notice := do
  match assess host (← get) packet payload with
  | .error skip => return skip.notice
  | .ok wrapping =>
    match ← (settle host packet payload wrapping).run with
    | .error skip => return skip.notice
    | .ok notice => return notice

def refusal (error : Error) : Receipt where
  extras := ⟨[(Notice.failure error.message).event], []⟩
  acknowledgement := .ofStatus (.failure error.message)

def isSuccess (acknowledgement : Acknowledgement) : Bool :=
  match acknowledgement.status? with
  | some status => status.isSuccess
  | none => false

def hook (host : Host σ α) : Hook σ (Uniform Delivery Receipt) := fun delivery => do
  match screen host (← get) delivery.packet with
  | .error error => return .answer (refusal error)
  | .ok payload =>
    return .descend delivery fun receipt => do
      if isSuccess receipt.acknowledgement then
        let notice ← wrap host delivery.packet payload
        return { receipt with extras := receipt.extras.push notice.event }
      else return receipt

end VoucherSwap.Receive
