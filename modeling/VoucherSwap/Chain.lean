import VoucherSwap.Bank
import VoucherSwap.Channel
import VoucherSwap.Host

/-!
A chain in memory: a host with settings, totals, channel ends, connection ends and a bank, which
keeps every event, log line and packet handed to it. Sending packets can be switched off.
-/

namespace VoucherSwap

structure Chain where
  settings : Settings
  totals : Totals
  nativeDenom : String
  channels : Registry Endpoint ChannelEnd
  connections : Registry ConnectionId ConnectionEnd
  bank : Bank
  events : List Event
  logs : List String
  sent : List Packet
  sendsFail : Bool
  deriving DecidableEq

namespace Chain

def bare (settings : Settings) (nativeDenom : String) : Chain where
  settings
  totals := .zero
  nativeDenom
  channels := .empty
  connections := .empty
  bank := .empty
  events := []
  logs := []
  sent := []
  sendsFail := false

def firstConnection : ConnectionId := ⟨"connection-0", by rfl⟩

/-- Opens the native channel of the settings over a connection between their light clients. Nothing
is opened if the native end has no valid identifiers; there is no such chain if only the native end
has them. -/
def openRoute? (chain : Chain) : Option Chain :=
  let settings := chain.settings
  match Identifier.ofText settings.nativePort, Identifier.ofText settings.nativeChannel with
  | .ok port, .ok channel => do
    let counterpartyPort ← (Identifier.ofText settings.counterpartyPort).toOption
    let counterpartyChannel ← (Identifier.ofText settings.counterpartyChannel).toOption
    let client ← (Identifier.ofText settings.nativeClient).toOption
    let counterpartyClient ← (Identifier.ofText settings.counterpartyClient).toOption
    return { chain with
      channels := chain.channels.insert ⟨port, channel⟩
        ⟨.open, counterpartyPort, some counterpartyChannel, [firstConnection]⟩
      connections := chain.connections.insert firstConnection ⟨client, counterpartyClient⟩ }
  | _, _ => some chain

def reserve : Account := ⟨"tokenwrapperreserve"⟩

def escrow (endpoint : Endpoint) : Account := ⟨s!"escrow/{endpoint}"⟩

def sendCoins (sender receiver : Account) (coin : Coin) : Attempt Chain Unit := fun chain =>
  match chain.bank.send sender receiver coin with
  | none => none
  | some (.error error) => some (.error error, chain)
  | some (.ok bank) => some (.ok (), { chain with bank })

def burnCoins (account : Account) (coin : Coin) : Attempt Chain Unit := fun chain =>
  match chain.bank.burn account coin with
  | .error error => some (.error error, chain)
  | .ok bank => some (.ok (), { chain with bank })

def mint (account : Account) (denom : String) (amount : Amount) : Effect Chain Unit := fun chain =>
  match chain.bank.mint? account denom amount with
  | none => none
  | some bank => some ((), { chain with bank })

def rejection (packet : Packet) : Error := .host s!"channel `{packet.source}` rejected the packet"

def sendPacket (packet : Packet) : Effect Chain (Except Error UInt64) := fun chain =>
  if chain.sendsFail then some (.error (rejection packet), chain)
  else some (.ok packet.sequence, { chain with sent := chain.sent ++ [packet] })

def eventsOf (chain : Chain) (kind : String) : List Event := chain.events.filter (·.kind == kind)

def host : Host Chain Account where
  settings := fun chain => .ok chain.settings
  storeSettings := fun settings chain => some (.ok (), { chain with settings })
  totals := fun chain => .ok chain.totals
  storeTotals := fun totals chain => some (.ok (), { chain with totals })
  nativeDenom := nativeDenom
  channel? := fun chain => chain.channels.find?
  connection? := fun chain => chain.connections.find?
  account? := Account.ofAddress?
  reserve := fun _ => reserve
  escrow := fun _ => escrow
  balance := fun chain => chain.bank.balance
  sendCoins := sendCoins
  burnCoins := burnCoins
  emit := fun event chain => { chain with events := chain.events ++ [event] }
  log := fun line chain => { chain with logs := chain.logs ++ [line] }

end Chain

end VoucherSwap
