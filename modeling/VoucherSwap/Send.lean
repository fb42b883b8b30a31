import VoucherSwap.Reserve
import VoucherSwap.Route
import VoucherSwap.Stack

/-!
Sending a transfer. A packet that does not carry the wrapped token over the wrapped channel is
forwarded as it is. For one that does, the native coin that the application escrowed is taken out of
escrow and locked in the reserve, the matching voucher at counterparty precision is burned, and the
packet is changed to carry that voucher. Every failure aborts the send and is reported once.
-/

namespace VoucherSwap.Send

variable {σ α : Type}

/-- A send that is to be unwrapped. -/
structure Order (α : Type) where
  sender : α
  payload : Payload
  settings : Settings
  native : Coin

/-- The denomination to be looked up: the native token travels under the name of the wrapped one. -/
def routeDenom (settings : Settings) (native denom : String) : String :=
  if denom = native ∧ settings.wrappedDenom ≠ "" then settings.wrappedDenom else denom

/-- Decides whether a packet is to be unwrapped; nothing if it is only to be forwarded. -/
def plan (host : Host σ α) (state : σ) (packet : Packet) : Except Error (Option (Order α)) := do
  let _ ← Route.openChannel host state packet.source
  let payload ← Route.payload packet
  let settings ← host.settings state
  let native := host.nativeDenom state
  let targeted :=
    Route.isTargeted settings (routeDenom settings native payload.denom.text) packet.source
  if targeted ∧ !settings.enabled then throw .disabled
  if payload.denom.arrivedOver packet.source ∨ !settings.configured ∨ !targeted then return none
  Route.checkCounterparty host state settings packet.source
  Route.checkClients host state settings packet.source
  let sender ← Route.sender host payload
  if payload.receiver = "" then throw .emptyReceiver
  Route.checkPositive payload
  let native ← Coin.make native payload.amount
  return some ⟨sender, payload, settings, native⟩

def outboundDenom (trace : String) : Except Error Denom :=
  (Denom.ofText trace).mapError fun cause => .invalidDenom trace cause.message

/-- The voucher for an order and the payload that carries it. -/
def convert (host : Host σ α) (state : σ) (packet : Packet) (order : Order α) :
    Except Error (Coin × Payload) := do
  let trace := Voucher.trace packet.source.port.text packet.source.channel.text
    order.settings.wrappedDenom
  let converted ← Precision.scaleUp order.payload.amount order.settings.decimalDifference
  let voucher ← Coin.make (Voucher.ofTrace trace) converted
  Reserve.checkBalances host state order.sender order.payload.sender order.native voucher
  let denom ← outboundDenom trace
  return (voucher, { order.payload with denom, amount := converted })

/-- A send whose native coin is locked in the reserve. -/
structure Unwrapping (α : Type) where
  order : Order α
  voucher : Coin
  packet : Packet

/-- The packet that goes out in place of another. -/
def rewritten (packet : Packet) (payload : Payload) : Packet :=
  { packet with data := payload.bytes }

def collect (host : Host σ α) (packet : Packet) (order : Order α) :
    Attempt σ (Unwrapping α) := do
  host.sendCoins (host.escrow (← get) packet.source) order.sender order.native
  let state ← get
  if !host.holds state order.sender order.native then throw (.missingCoin order.native.text)
  let (voucher, payload) ← convert host state packet order
  Reserve.lock host order.sender order.native
  return ⟨order, voucher, rewritten packet payload⟩

def prepare (host : Host σ α) (packet : Packet) : Attempt σ (Option (Unwrapping α)) := do
  match ← plan host (← get) packet with
  | none => return none
  | some order => some <$> collect host packet order

def crossing (packet : Packet) (order : Order α) : Crossing where
  sender := order.payload.sender
  receiver := order.payload.receiver
  amount := order.native.amount
  denom := order.native.denom.text
  source := packet.source
  destination := packet.destination

def unwrapText (native name voucher : String) : String :=
  s!"token wrapper: unwrapped {native} from {name} into {voucher}"

def logLine (order : Order α) (voucher : Coin) : String :=
  unwrapText order.native.text order.payload.sender voucher.text

/-- Counts and reports an unwrap once the changed packet is on its way. -/
def conclude (host : Host σ α) (unwrapping : Unwrapping α) (dispatch : Dispatch) :
    Effect σ Dispatch :=
  ExceptT.run <| host.reporting do
    let sequence ← dispatch
    Reserve.recordOut host unwrapping.order.native.amount
    modify (host.log (logLine unwrapping.order unwrapping.voucher))
    host.report (.unwrapped (crossing unwrapping.packet unwrapping.order))
    return sequence

def hook (host : Host σ α) : Hook σ (Uniform Packet Dispatch) := fun packet => do
  match ← (host.reporting (prepare host packet)).run with
  | .error error => return .answer (.error error)
  | .ok none => return .descend packet pure
  | .ok (some unwrapping) =>
    let order := unwrapping.order
    match ← Reserve.burnOrUnlock host order.sender order.payload.sender order.native
        unwrapping.voucher with
    | .error error => return .answer (.error error)
    | .ok () => return .descend unwrapping.packet (conclude host unwrapping)

end VoucherSwap.Send
