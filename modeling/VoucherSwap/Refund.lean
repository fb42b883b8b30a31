import VoucherSwap.Reserve
import VoucherSwap.Route
import VoucherSwap.Stack

/-!
Refunds of sent packets. A timeout and an error acknowledgement are treated alike: the application
refunds the sender, and its verdict stands. If the packet was unwrapped on its way out, the voucher
that the sender got back is then swapped for the native token again. Whether it was is told from the
packet and the settings.
-/

namespace VoucherSwap.Refund

variable {σ α : Type}

/-- A swap to be taken back once the application has refunded the voucher. -/
structure Pending (α : Type) where
  sender : α
  payload : Payload
  decimalDifference : UInt32

def prepare (host : Host σ α) (state : σ) (packet : Packet) : Except Skip (Pending α) := do
  let _ ← (Route.openChannel host state packet.source).mapError Skip.ofError
  let payload ← (Route.payload packet).mapError Skip.ofError
  let sender ← (Route.sender host payload).mapError Skip.ofError
  (Route.checkPositive payload).mapError Skip.ofError
  let settings ← (host.settings state).mapError Skip.ofError
  if !settings.configured then throw (.aside Error.notConfigured.message)
  if !Route.isOutboundDenom settings payload.denom then
    throw (.aside s!"denom `{payload.denom}` was not unwrapped by the token wrapper")
  if !Route.goesOut settings packet then throw (Route.offRoute packet)
  if !settings.enabled then throw (.aside Error.disabled.message)
  return ⟨sender, payload, settings.decimalDifference⟩

def coins (host : Host σ α) (state : σ) (pending : Pending α) : Except Error (Coin × Coin) := do
  let converted ← Precision.scaleDown pending.payload.amount pending.decimalDifference
  let voucher ← Coin.make (Voucher.ofTrace pending.payload.denom.text) pending.payload.amount
  let native ← Coin.make (host.nativeDenom state) converted
  Reserve.checkBalances host state pending.sender pending.payload.sender voucher native
  return (voucher, native)

def repay (host : Host σ α) (reason : String) (pending : Pending α) : Attempt σ Notice := do
  let (voucher, native) ← coins host (← get) pending
  Reserve.lock host pending.sender voucher
  Reserve.unlock host pending.sender native
  Reserve.releaseOut host native.amount
  return .refunded {
    receiver := pending.payload.sender
    denom := native.denom.text
    amount := native.amount
    reason }

/-- Finishes a refund of the application; a swap that cannot be taken back is only reported. -/
def conclude (host : Host σ α) (reason : String) (pending : Pending α) (settlement : Settlement) :
    Effect σ Settlement := do
  match settlement.result with
  | .error _ => return settlement
  | .ok () =>
    let notice ← match ← (repay host reason pending).run with
      | .ok notice => pure notice
      | .error error => pure (.failure error.message)
    return { settlement with extras := settlement.extras.push notice.event }

/-- A refund for the given reason, as a visit of any request that leads to it. -/
def visit {Q : Type} (host : Host σ α) (reason : String) (packet : Packet) (request : Q) :
    Effect σ (Visit σ (Uniform Q Settlement) Settlement) := do
  match prepare host (← get) packet with
  | .ok pending => return .descend request (conclude host reason pending)
  | .error skip =>
    return .descend request fun settlement =>
      return { settlement with extras := settlement.extras.push skip.notice.event }

def timeoutReason : String := "timeout"

def acknowledgementReason : String := "acknowledgement error"

def timeoutHook (host : Host σ α) : Hook σ (Uniform Delivery Settlement) := fun delivery =>
  visit host timeoutReason delivery.packet delivery

/-- Successes and acknowledgements that hold no status are left to the layers below. -/
def acknowledgeHook (host : Host σ α) :
    Hook σ (Uniform (Delivery × Acknowledgement) Settlement) :=
  fun request =>
    match request.2.status? with
    | some (.failure _) => visit host acknowledgementReason request.1.packet request
    | _ => Hook.pass request

end VoucherSwap.Refund
