import VoucherSwap.Acknowledgement
import VoucherSwap.Event
import VoucherSwap.Funds
import VoucherSwap.Settings

/-!
What the swap asks of its host. A host is a record of capabilities over states `σ` and accounts `α`:
it reads and stores settings and totals, shows channel and connection ends, keeps a bank, and takes
events and log lines. Nothing is assumed of the answers. Reading leaves the state as it is. An
effect gives back a new state, or nothing if the host halts; an attempt may fail as well, and then
still gives back a state.
-/

namespace VoucherSwap

abbrev Effect (σ : Type) := StateT σ Option

abbrev Attempt (σ : Type) := ExceptT Error (Effect σ)

structure Host (σ α : Type) where
  settings : σ → Except Error Settings
  storeSettings : Settings → Attempt σ Unit
  totals : σ → Except Error Totals
  storeTotals : Totals → Attempt σ Unit
  /-- The base denomination of the chain's own token. -/
  nativeDenom : σ → String
  channel? : σ → Endpoint → Option ChannelEnd
  connection? : σ → ConnectionId → Option ConnectionEnd
  account? : String → Option α
  /-- The account that holds locked vouchers and the native tokens to be released. -/
  reserve : σ → α
  /-- The account that holds what the transfer application escrowed for a channel. -/
  escrow : σ → Endpoint → α
  balance : σ → α → String → Amount
  holds : σ → α → Coin → Bool := fun state account coin =>
    coin.amount ≤ balance state account coin.denom.text
  sendCoins : α → α → Coin → Attempt σ Unit
  burnCoins : α → Coin → Attempt σ Unit
  emit : Event → σ → σ
  log : String → σ → σ

namespace Host

variable {σ α : Type}

def report (host : Host σ α) (notice : Notice) : Effect σ Unit := modify (host.emit notice.event)

def reporting {β : Type} (host : Host σ α) (attempt : Attempt σ β) : Attempt σ β :=
  tryCatch attempt fun error => do
    host.report (.failure error.message)
    throw error

def account (host : Host σ α) (address : String) : Except Error α :=
  match host.account? address with
  | some account => .ok account
  | none => .error (.unreadableAccount address)

end Host

/-- Why a swap was left out while the outcome of the transfer stands: the packet is none of the
swap's, or the swap should have taken place and could not. -/
inductive Skip where
  | aside (message : String)
  | failed (message : String)
  deriving DecidableEq

namespace Skip

def ofError (error : Error) : Skip := .failed error.message

def notice : Skip → Notice
  | .aside message => .info message
  | .failed message => .failure message

end Skip

end VoucherSwap
