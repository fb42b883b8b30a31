import VoucherSwap.Proofs.Departure
import VoucherSwap.Proofs.Return

/-!
Whether a refund recognises what was unwrapped. A send looks at the packet's own end and at the
channel that is open there, a refund at both ends that the packet names. They agree on everything
but the address: a packet that was unwrapped on its way out and names another end than the one its
channel leads to is overlooked when it comes back.
-/

namespace VoucherSwap

namespace Recognition

open Session Forwarded Return

variable {σ α : Type}

/-- A packet that carries the wrapped token as it leaves, and that somebody sent: all that a refund
asks of it before it comes to the addresses. -/
structure Outbound (host : Host σ α) (state : σ) (packet : Packet) (settings : Settings)
    (payload : Payload) (sender : α) : Prop where
  ready : ∃ channel, host.channel? state packet.source = some channel ∧ channel.state = .open
  readable : packet.payload? = some payload
  named : payload.sender ≠ ""
  sender : host.account? payload.sender = some sender
  positive : payload.amount ≠ .zero
  stored : host.settings state = .ok settings
  configured : settings.configured = true
  outbound : payload.denom.text = settings.outboundTrace

theorem Outbound.prepare_eq {host : Host σ α} {state : σ} {packet : Packet} {settings : Settings}
    {payload : Payload} {sender : α}
    (outbound : Outbound host state packet settings payload sender) :
    Refund.prepare host state packet =
      if Route.goesOut settings packet then
        if settings.enabled then .ok ⟨sender, payload, settings.decimalDifference⟩
        else .error (.aside Error.disabled.message)
      else .error (Route.offRoute packet) := by
  obtain ⟨channel, ready⟩ := outbound.ready
  have positive : Route.checkPositive payload = .ok () :=
    Route.checkPositive_eq_ok.mpr outbound.positive
  have denom := Route.isOutboundDenom_iff.mpr ⟨outbound.configured, outbound.outbound⟩
  unfold Refund.prepare
  rw [Route.openChannel_eq_ok.mpr ready, Check.mapError_ok, Check.ok_bind,
    Route.payload_eq_ok.mpr outbound.readable, Check.mapError_ok, Check.ok_bind,
    Route.sender_eq_ok.mpr ⟨outbound.named, outbound.sender⟩, Check.mapError_ok, Check.ok_bind,
    positive, Check.mapError_ok, Check.ok_bind, outbound.stored, Check.mapError_ok, Check.ok_bind]
  simp only [outbound.configured, denom, Bool.not_true, Bool.false_eq_true, ↓reduceIte]
  cases Route.goesOut settings packet <;> cases settings.enabled <;> rfl

/-- The packet names the end that its channel leads to. -/
def Addressed (chain : Chain) (packet : Packet) : Prop :=
  ∃ channel, chain.channels.find? packet.source = some channel ∧
    channel.counterpartyPort = packet.destination.port ∧
    channel.counterpartyChannel = some packet.destination.channel

section

variable {packet forwarded : Packet} {before after later : Chain} {order : Send.Order Account}
  {voucher : Coin} {carried : Payload}

-- The channel was found to lead to the counterparty of the settings, so that is what an address is
-- measured by.
theorem isCounterpartyEnd_iff_addressed
    (checked : Route.checkCounterparty Chain.host before before.settings packet.source = .ok ()) :
    Route.isCounterpartyEnd before.settings packet.destination = true ↔
      Addressed before packet := by
  obtain ⟨-, channel, ⟨found, -⟩, counterpartyChannel, leads, same⟩ :=
    Route.checkCounterparty_eq_ok.mp checked
  have found : before.channels.find? packet.source = some channel := found
  constructor
  · intro addressed
    have ends := Route.isCounterpartyEnd_unique same addressed
    exact ⟨channel, found, congrArg Endpoint.port ends,
      leads.trans (congrArg (some ·.channel) ends)⟩
  · rintro ⟨other, foundToo, port, channelToo⟩
    rw [found, Option.some.injEq] at foundToo
    subst foundToo
    rw [leads, Option.some.injEq] at channelToo
    rw [port, channelToo] at same
    exact same

/-- A later chain with the settings and the channel that the packet left with. -/
structure Kept (before later : Chain) (packet : Packet) : Prop where
  settings : later.settings = before.settings
  channel : later.channels.find? packet.source = before.channels.find? packet.source

theorem outbound_of_unwraps (unwraps : Send.Unwraps packet before order voucher carried after)
    (kept : Kept before later packet) :
    Outbound Chain.host later (Send.rewritten packet carried) before.settings carried
      ⟨carried.sender⟩ := by
  have unwrapped := Departure.unwrapped_of_unwraps unwraps
  have ordered := unwraps.ordered
  obtain ⟨same, -⟩ := Departure.ordered_settings ordered
  have sender : Chain.host.account? carried.sender = some ⟨carried.sender⟩ := by
    rw [unwrapped.sender, ← Chain.account_eq ordered.sender]
    exact ordered.sender
  obtain ⟨channel, found, ready⟩ := ordered.ready
  have worth : 0 < carried.amount.units := by
    rw [unwrapped.amount]
    exact Nat.mul_pos (Amount.ne_zero_iff.mp ordered.positive) (Nat.pow_pos (by decide))
  exact {
    ready := ⟨channel, kept.channel.trans found, ready⟩
    readable := unwrapped.readable
    named := Chain.account_named sender
    sender
    positive := Amount.ne_zero_iff.mpr worth
    stored := congrArg Except.ok kept.settings
    configured := same ▸ ordered.configured
    outbound := unwrapped.denom }

theorem goesOut_iff (unwraps : Send.Unwraps packet before order voucher carried after) :
    Route.goesOut before.settings (Send.rewritten packet carried) = true ↔
      Addressed before packet := by
  have ordered := unwraps.ordered
  obtain ⟨same, -⟩ := Departure.ordered_settings ordered
  obtain ⟨-, -, native⟩ := Send.isTargeted_iff.mp (same ▸ ordered.targeted)
  rw [← isCounterpartyEnd_iff_addressed (same ▸ ordered.counterparty), Route.goesOut,
    Send.rewritten_source, Send.rewritten_destination, native, Bool.true_and]

/-- What a refund makes of a packet that was unwrapped is a question of its address alone. If it is
overlooked, the application pays it back, and that is all. -/
structure Told (before later : Chain) (packet forwarded : Packet) (carried : Payload) : Prop where
  recognised : Addressed before packet →
  Refund.prepare Chain.host later forwarded = .ok (pending later carried)
  skipped : ¬ Addressed before packet →
    Refund.prepare Chain.host later forwarded = .error (Route.offRoute forwarded)
  overlooked : ¬ Addressed before packet → ∀ switches request reason alone middle,
    Refunding forwarded request reason →
    perform (bareStack switches) request later = some (.settled alone, middle) →
    perform (swapStack switches) request later =
      some (.settled (alone.noted (Route.offRoute forwarded).notice), middle)

theorem told_of_unwraps (unwraps : Send.Unwraps packet before order voucher carried after)
    (kept : Kept before later packet) :
    Told before later packet (Send.rewritten packet carried) carried := by
  have prepared := (outbound_of_unwraps unwraps kept).prepare_eq
  obtain ⟨same, -⟩ := Departure.ordered_settings unwraps.ordered
  have enabled : before.settings.enabled = true := same ▸ unwraps.ordered.enabled
  have skipped (astray : ¬ Addressed before packet) :
      Refund.prepare Chain.host later (Send.rewritten packet carried) =
        .error (Route.offRoute (Send.rewritten packet carried)) := by
    rw [prepared, if_neg (mt (goesOut_iff unwraps).mp astray)]
  refine ⟨?_, skipped, ?_⟩
  · intro addressed
    rw [prepared, if_pos ((goesOut_iff unwraps).mpr addressed), if_pos enabled, pending,
      kept.settings]
  · intro astray switches request reason alone middle refunding asked
    exact refunding.swapped_iff.mpr (.skipped (skipped astray) (refunding.alone_iff.mp asked))

-- The conditions of a send imply those of a refund one by one, but for the address. There a send
-- has looked at the channel, and a refund looks at the packet.
theorem unwrapped_recognised {switches : Transfer.Switches} {sequence : UInt64}
    (ran : (swapStack switches).send Chain.sendPacket packet before = some (.ok sequence, after))
    (reports : Departure.Reports before after) :
    ∃ forwarded carried, after.sent = before.sent ++ [forwarded] ∧
      forwarded.payload? = some carried ∧
      Route.isOutboundDenom before.settings carried.denom = true ∧
      (Route.goesOut before.settings forwarded = true ↔ Addressed before packet) ∧
      ∀ later, Kept before later packet → Told before later packet forwarded carried := by
  obtain ⟨-, order, voucher, carried, unwraps⟩ := Departure.unwraps_of_reports ran reports
  have unwrapped := Departure.unwrapped_of_unwraps unwraps
  obtain ⟨same, -⟩ := Departure.ordered_settings unwraps.ordered
  exact ⟨Send.rewritten packet carried, carried, congrArg Chain.sent unwrapped.rest,
    unwrapped.readable,
    Route.isOutboundDenom_iff.mpr ⟨same ▸ unwraps.ordered.configured, unwrapped.denom⟩,
    goesOut_iff unwraps, fun later kept => told_of_unwraps unwraps kept⟩

theorem reports_of_unwraps (unwraps : Send.Unwraps packet before order voucher carried after)
    (switches : Transfer.Switches) :
    (swapStack switches).send Chain.sendPacket packet before = some (.ok packet.sequence, after) ∧
      Departure.Reports before after ∧ Kept before after packet := by
  have rest := (Departure.unwrapped_of_unwraps unwraps).rest
  refine ⟨Send.atop_eq_ok.mpr ⟨rfl, .unwrapped unwraps⟩, ?_, ?_⟩
  · exact ⟨_, congrArg Chain.events rest, _, List.mem_singleton_self _, rfl⟩
  · rw [rest]
    exact ⟨rfl, rfl⟩

end

theorem departs_redirected {chain : Chain} {packet : Packet} {payload : Payload}
    (departs : Departure.Departs chain packet payload) (destination : Endpoint) :
    Departure.Departs chain { packet with destination } payload :=
  ⟨departs.ready, departs.readable, departs.wrapped, departs.token, departs.nativeEnd,
    departs.enabled, departs.configured, departs.departing, departs.counterparty, departs.clients,
    departs.sender, departs.receiver, departs.positive, departs.visible, departs.escrowed,
    departs.escrowFree, departs.senderFree, departs.fits, departs.reserved, departs.trace,
    departs.burning, departs.working, departs.counted⟩

def sampleChain : Chain := Abort.escrowChain .zero

theorem sampleChain_unwraps (destination : Endpoint) : ∃ order voucher carried after,
    Send.Unwraps { Abort.samplePacket with destination } sampleChain order voucher
      carried after := by
  have departs := departs_redirected Departure.escrowChain_departs destination
  apply departs.unwraps (Ne.symm (Voucher.ofTrace_ne (by decide) _))
  constructor <;> decide +kernel

theorem unwrapped_recognised_sampleChain :
    ∃ after forwarded pending,
      (swapStack ⟨false, false⟩).send Chain.sendPacket Abort.samplePacket sampleChain =
        some (.ok Abort.samplePacket.sequence, after) ∧
      Departure.Reports sampleChain after ∧ after.sent = sampleChain.sent ++ [forwarded] ∧
      Refund.prepare Chain.host after forwarded = .ok pending := by
  obtain ⟨order, voucher, carried, after, unwraps⟩ := sampleChain_unwraps Sample.counterpartyEnd
  have unwraps : Send.Unwraps Abort.samplePacket sampleChain order voucher carried after := unwraps
  have addressed := (goesOut_iff unwraps).mp rfl
  obtain ⟨ran, reports, kept⟩ := reports_of_unwraps unwraps ⟨false, false⟩
  obtain ⟨forwarded, carried, sent, -, -, -, told⟩ := unwrapped_recognised ran reports
  exact ⟨after, forwarded, _, ran, reports, sent, (told after kept).recognised addressed⟩

/-- A packet over the wrapped channel that names an end which this channel does not lead to. -/
def strayPacket : Packet :=
  { Abort.samplePacket with
    destination := { Sample.counterpartyEnd with channel := ⟨"channel-9", by rfl⟩ } }

/-- It is unwrapped, and a refund on the very chain that it left does not recognise it. -/
theorem refund_overlooks_unwrapped :
    ∃ after forwarded, (swapStack ⟨false, false⟩).send Chain.sendPacket strayPacket sampleChain =
        some (.ok strayPacket.sequence, after) ∧
      Departure.Reports sampleChain after ∧ Kept sampleChain after strayPacket ∧
      after.sent = sampleChain.sent ++ [forwarded] ∧
      Route.goesOut sampleChain.settings forwarded = false ∧
      ∀ pending, Refund.prepare Chain.host after forwarded ≠ .ok pending := by
  obtain ⟨order, voucher, carried, after, unwraps⟩ := sampleChain_unwraps strayPacket.destination
  have unwraps : Send.Unwraps strayPacket sampleChain order voucher carried after := unwraps
  obtain ⟨ran, reports, kept⟩ := reports_of_unwraps unwraps ⟨false, false⟩
  have off : Route.goesOut sampleChain.settings (Send.rewritten strayPacket carried) = false := rfl
  have astray : ¬ Addressed sampleChain strayPacket :=
    mt (goesOut_iff unwraps).mpr (Bool.eq_false_iff.mp off)
  refine ⟨after, _, ran, reports, kept,
    congrArg Chain.sent (Departure.unwrapped_of_unwraps unwraps).rest, off, ?_⟩
  intro pending
  rw [(told_of_unwraps unwraps kept).skipped astray]
  exact nofun

end Recognition

end VoucherSwap
