import VoucherSwap.Identifier

/-!
Channel ends and connection ends, as far as the swap of vouchers looks at them, and the packets that
travel from one channel end to another. A packet is well formed if its sequence number and its
timeout height are positive and its data is not empty.
-/

namespace VoucherSwap

inductive ChannelState where
  | uninitialized
  | init
  | tryOpen
  | «open»
  | closed
  deriving DecidableEq

namespace ChannelState

def text : ChannelState → String
  | .uninitialized => "UNINITIALIZED"
  | .init => "INIT"
  | .tryOpen => "TRYOPEN"
  | .open => "OPEN"
  | .closed => "CLOSED"

def all : List ChannelState := [.uninitialized, .init, .tryOpen, .open, .closed]

def ofText? (text : String) : Option ChannelState := all.find? fun state => state.text == text

instance : ToString ChannelState := ⟨text⟩

end ChannelState

structure ChannelEnd where
  state : ChannelState
  counterpartyPort : PortId
  counterpartyChannel : Option ChannelId
  hops : List ConnectionId
  deriving DecidableEq

/-- A channel end that a chain may store: its state is known. -/
def ChannelEnd.known? (channel : ChannelEnd) : Option ChannelEnd :=
  if channel.state = .uninitialized then none else some channel

structure ConnectionEnd where
  client : ClientId
  counterpartyClient : ClientId
  deriving DecidableEq

structure Packet where
  sequence : UInt64
  source : Endpoint
  destination : Endpoint
  data : ByteArray
  timeoutHeight : UInt64

namespace Packet

instance : DecidableEq Packet := fun a b =>
  decidable_of_decidable_of_iff
    (p := a.sequence = b.sequence ∧ a.source = b.source ∧ a.destination = b.destination ∧
      a.data.data = b.data.data ∧ a.timeoutHeight = b.timeoutHeight) (by
    cases a; cases b; simp [ByteArray.ext_iff])

def wellFormed? (packet : Packet) : Option Packet :=
  if packet.sequence = 0 ∨ packet.data.size = 0 ∨ packet.timeoutHeight = 0 then none
  else some packet

def routeText (packet : Packet) : String :=
  s!"packet from `{packet.source}` to `{packet.destination}`"

end Packet

end VoucherSwap
