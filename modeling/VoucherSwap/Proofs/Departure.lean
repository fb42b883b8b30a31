import VoucherSwap.Proofs.Abort
import VoucherSwap.Proofs.Moves

/-!
Which sends are unwrapped, and what that does. The conditions are those of all the steps together,
read off the chain before the first of them, and what the steps do together is three changes of
balances and one count. The packet that goes out carries the voucher and is otherwise the packet
that was sent.
-/

namespace VoucherSwap

namespace Send

variable {packet : Packet} {before after : Chain} {order : Order Account} {voucher : Coin}
  {carried : Payload}

theorem isTargeted_iff {settings : Settings} {native denom : String} {source : Endpoint} :
    Route.isTargeted settings (routeDenom settings native denom) source = true ↔
      settings.wrappedDenom ≠ "" ∧ (denom = native ∨ denom = settings.wrappedDenom) ∧
        Route.isNativeEnd settings source = true := by
  simp only [Route.isTargeted, Route.isWrappedDenom, routeDenom, Bool.and_eq_true,
    decide_eq_true_eq, and_assoc]
  refine and_congr_right fun named => and_congr_left fun _ => ?_
  by_cases own : denom = native
  · simp [own, named]
  · simp [own]

theorem trace_eq {settings : Settings} {source : Endpoint}
    (native : Route.isNativeEnd settings source = true) :
    Voucher.trace source.port.text source.channel.text settings.wrappedDenom =
      settings.outboundTrace := by
  rw [Voucher.trace_hop, ← Route.outboundTrace_eq native]

end Send

namespace Departure

open Session

/-- What a chain and a packet need in order that the packet is unwrapped on its way out. -/
structure Departs (chain : Chain) (packet : Packet) (payload : Payload) : Prop where
  ready : ∃ channel, chain.channels.find? packet.source = some channel ∧ channel.state = .open
  readable : packet.payload? = some payload
  wrapped : chain.settings.wrappedDenom ≠ ""
  token : payload.denom.text = chain.nativeDenom ∨ payload.denom.text = chain.settings.wrappedDenom
  nativeEnd : Route.isNativeEnd chain.settings packet.source = true
  enabled : chain.settings.enabled = true
  configured : chain.settings.configured = true
  departing : payload.denom.arrivedOver packet.source = false
  counterparty : Route.checkCounterparty Chain.host chain chain.settings packet.source = .ok ()
  clients : Route.checkClients Chain.host chain chain.settings packet.source = .ok ()
  sender : Account.ofAddress? payload.sender = some ⟨payload.sender⟩
  receiver : payload.receiver ≠ ""
  positive : payload.amount ≠ .zero
  visible : Text.isBlank chain.nativeDenom = false
  escrowed : payload.amount.units ≤ chain.bank.units (Chain.escrow packet.source) chain.nativeDenom
  escrowFree : Chain.escrow packet.source ∉ chain.bank.frozen
  senderFree : (⟨payload.sender⟩ : Account) ∉ chain.bank.frozen
  fits : payload.amount.units * chain.settings.factor < Amount.bound
  reserved : payload.amount.units * chain.settings.factor ≤
    chain.bank.units Chain.reserve chain.settings.voucher
  trace : ∃ denom, Denom.ofText chain.settings.outboundTrace = .ok denom
  burning : chain.bank.burnsFail = false
  working : chain.sendsFail = false
  counted : chain.totals.transferredOut.units + payload.amount.units < Amount.bound

/-- The native coin outgrows no balance on its way from escrow over the sender to the reserve. -/
structure Roomy (chain : Chain) (payload : Payload) : Prop where
  sender : chain.bank.units ⟨payload.sender⟩ chain.nativeDenom + payload.amount.units < Amount.bound
  reserve : chain.bank.units Chain.reserve chain.nativeDenom + payload.amount.units < Amount.bound

/-- Among the events that are new there is one of an unwrap. -/
def Reports (before after : Chain) : Prop :=
  ∃ produced, after.events = before.events ++ produced ∧ ∃ event ∈ produced,
    event.kind = "token_unwrapped"

def report (chain : Chain) (packet : Packet) (payload : Payload) : Crossing :=
  ⟨payload.sender, payload.receiver, payload.amount, chain.nativeDenom, packet.source,
    packet.destination⟩

def line (chain : Chain) (payload carried : Payload) : String :=
  Send.unwrapText (Coin.describe payload.amount chain.nativeDenom) payload.sender
    (Coin.describe carried.amount chain.settings.voucher)

/-- A packet that was unwrapped: what it carries now, what has moved, and everything that is new on
the chain. -/
structure Unwrapped (before : Chain) (packet : Packet) (payload carried : Payload) (after : Chain) :
    Prop where
  denom : carried.denom.text = before.settings.outboundTrace
  amount : carried.amount.units = payload.amount.units * before.settings.factor
  sender : carried.sender = payload.sender
  receiver : carried.receiver = payload.receiver
  memo : carried.memo = payload.memo
  readable : (Send.rewritten packet carried).payload? = some carried
  moved : before.bank.Transferred after.bank
    [⟨Chain.escrow packet.source, some Chain.reserve, before.nativeDenom, payload.amount.units⟩,
      ⟨Chain.reserve, none, before.settings.voucher, carried.amount.units⟩]
  out : after.totals.transferredOut.units =
    before.totals.transferredOut.units + payload.amount.units
  into : after.totals.transferredIn = before.totals.transferredIn
  rest : after = { before with
    bank := after.bank
    totals := after.totals
    sent := before.sent ++ [Send.rewritten packet carried]
    events := before.events ++ [(Notice.unwrapped (report before packet payload)).event]
    logs := before.logs ++ [line before payload carried] }

section

variable {packet : Packet} {before after : Chain} {order : Send.Order Account} {voucher : Coin}
  {carried : Payload}

theorem ordered_settings (ordered : Send.Ordered Chain.host before packet order) :
    order.settings = before.settings ∧
    Voucher.trace packet.source.port.text packet.source.channel.text
      order.settings.wrappedDenom = before.settings.outboundTrace := by
  have same : order.settings = before.settings := (Except.ok.inj ordered.stored).symm
  obtain ⟨-, -, native⟩ := Send.isTargeted_iff.mp ordered.targeted
  refine ⟨same, ?_⟩
  rw [same] at native ⊢
  exact Send.trace_eq native

theorem converted_voucher {state : Chain} (ordered : Send.Ordered Chain.host before packet order)
    (converted : Send.Converted Chain.host state packet order voucher carried) :
    voucher.denom.text = before.settings.voucher ∧
      voucher.amount.units = order.payload.amount.units * before.settings.factor := by
  obtain ⟨same, trace⟩ := ordered_settings ordered
  constructor
  · rw [converted.voucherDenom, trace]
    rfl
  · rw [(Precision.scaleUp_eq_ok.mp converted.scaled).2, same]
    rfl

variable (foreign : before.nativeDenom ≠ before.settings.voucher)

include foreign in
theorem departs_of_unwraps (unwraps : Send.Unwraps packet before order voucher carried after) :
    Departs before packet order.payload := by
  obtain ⟨ordered, ⟨released, locked, burned, totals, collected, destroyed, counted, rfl⟩,
    working⟩ := unwraps
  obtain ⟨same, trace⟩ := ordered_settings ordered
  obtain ⟨wrapped, token, native⟩ := Send.isTargeted_iff.mp ordered.targeted
  obtain ⟨name, units⟩ := converted_voucher ordered collected.converted
  have freed := Bank.send_sent collected.freed
  have taken := Bank.send_sent collected.taken
  have nativeDenom : order.native.denom.text = before.nativeDenom := ordered.nativeDenom
  have escrowed := freed.covered
  rw [nativeDenom, ordered.nativeAmount] at escrowed
  have reserved : voucher.amount.units ≤ released.units Chain.reserve voucher.denom.text :=
    Chain.holds_iff.mp collected.converted.reserveHolds
  have others : released.units Chain.reserve before.settings.voucher = _ :=
    freed.posted.others _ _ (nativeDenom ▸ Ne.symm foreign)
  rw [name, units, others] at reserved
  have senderFree := taken.free
  rw [freed.posted.frozen, Chain.account_eq ordered.sender] at senderFree
  have burning := (Bank.burn_eq_ok.mp destroyed).1
  rw [taken.posted.burnsFail, freed.posted.burnsFail] at burning
  have total := (Totals.recordOut_eq_ok.mp counted).1
  rw [ordered.nativeAmount] at total
  rw [same] at wrapped token native
  exact {
    ready := ordered.ready
    readable := ordered.readable
    wrapped
    token
    nativeEnd := native
    enabled := same ▸ ordered.enabled
    configured := same ▸ ordered.configured
    departing := ordered.departing
    counterparty := same ▸ ordered.counterparty
    clients := same ▸ ordered.clients
    sender := Chain.account_eq ordered.sender ▸ ordered.sender
    receiver := ordered.receiver
    positive := ordered.positive
    visible := nativeDenom ▸ order.native.denom.visible
    escrowed
    escrowFree := freed.free
    senderFree
    fits := units ▸ voucher.amount.fits
    reserved
    trace := ⟨carried.denom, trace ▸ collected.converted.denom⟩
    burning
    working
    counted := total ▸ totals.transferredOut.fits }

theorem unwrapped_of_unwraps (unwraps : Send.Unwraps packet before order voucher carried after) :
    Unwrapped before packet order.payload carried after := by
  obtain ⟨ordered, ⟨released, locked, burned, totals, collected, destroyed, counted, rfl⟩,
    working⟩ := unwraps
  obtain ⟨same, trace⟩ := ordered_settings ordered
  have converted := collected.converted
  obtain ⟨name, units⟩ := converted_voucher ordered converted
  have known : Denom.ofText before.settings.outboundTrace = .ok carried.denom :=
    trace ▸ converted.denom
  have text := Denom.text_of_ofText known
  obtain ⟨out, into⟩ := Totals.recordOut_eq_ok.mp counted
  have nativeDenom : order.native.denom.text = before.nativeDenom := ordered.nativeDenom
  have moved :=
    ((Bank.transferred_send collected.freed).append (Bank.transferred_send collected.taken)).append
    (Bank.transferred_burn destroyed)
  have reported : Send.crossing packet order = report before packet order.payload := by
    rw [Send.crossing, ordered.nativeAmount, ordered.nativeDenom]
    rfl
  have logged : Send.logLine order voucher = line before order.payload carried := by
    rw [line, ← ordered.nativeAmount, ← nativeDenom, converted.amount, ← name]
    rfl
  exact {
    denom := text
    amount := converted.amount ▸ units
    sender := converted.sender
    receiver := converted.receiver
    memo := converted.memo
    readable := Send.payload?_rewritten packet (text.symm ▸ known)
    moved := by
      have through := Bank.Transferred.through moved
      rw [ordered.nativeDenom, ordered.nativeAmount, name, ← converted.amount] at through
      exact through
    out := ordered.nativeAmount ▸ out
    into
    rest := by rw [reported, logged] }

-- A free sender that was sent a coin out of escrow can pass it on to the reserve, also if it is the
-- reserve.
theorem passed_on {released : Bank} {escrow sender : Account} {coin : Coin}
    (freed : before.bank.send escrow sender coin = some (.ok released)) (other : sender ≠ escrow)
    (notReserve : Chain.reserve ≠ escrow) (free : sender ∉ before.bank.frozen)
    (room : before.bank.units Chain.reserve coin.denom.text + coin.amount.units < Amount.bound) :
    ∃ locked, released.send sender Chain.reserve coin = some (.ok locked) := by
  have posted := (Bank.send_sent freed).posted
  have paid := posted.entry sender
  rw [Bank.share_of_ne other, Bank.share_self] at paid
  have held : coin.amount.units ≤ released.units sender coin.denom.text := by omega
  rw [← posted.frozen] at free
  by_cases same : sender = Chain.reserve
  · subst same
    exact Bank.send_self_eq_ok free held
  · have kept := posted.entry Chain.reserve
    rw [Bank.share_of_ne notReserve, Bank.share_of_ne (Ne.symm same)] at kept
    apply Bank.send_eq_ok free held
    omega

include foreign in
-- The order and its coins are made from the payload; then each step of the send is shown to pass.
theorem Departs.unwraps {payload : Payload} (departs : Departs before packet payload)
    (roomy : Roomy before payload) :
    ∃ order voucher carried after, Send.Unwraps packet before order voucher carried after := by
  obtain ⟨denom, known⟩ := departs.trace
  let native : Coin := ⟨⟨before.nativeDenom, departs.visible⟩, payload.amount⟩
  let voucher : Coin := ⟨⟨before.settings.voucher, Voucher.ofTrace_visible _⟩, ⟨_, departs.fits⟩⟩
  let order : Send.Order Account := ⟨⟨payload.sender⟩, payload, before.settings, native⟩
  let carried : Payload := { payload with denom, amount := voucher.amount }
  have trace := Send.trace_eq departs.nativeEnd
  have sender : Chain.host.account? payload.sender = some ⟨payload.sender⟩ := departs.sender
  have ordered : Send.Ordered Chain.host before packet order := {
    ready := departs.ready
    readable := departs.readable
    stored := rfl
    enabled := departs.enabled
    configured := departs.configured
    departing := departs.departing
    targeted := Send.isTargeted_iff.mpr ⟨departs.wrapped, departs.token, departs.nativeEnd⟩
    counterparty := departs.counterparty
    clients := departs.clients
    named := Chain.account_named sender
    sender
    receiver := departs.receiver
    positive := departs.positive
    nativeDenom := rfl
    nativeAmount := rfl }
  obtain ⟨released, freed⟩ : ∃ released,
      before.bank.send (Chain.escrow packet.source) ⟨payload.sender⟩ native = some (.ok released) :=
    Bank.send_eq_ok departs.escrowFree departs.escrowed roomy.sender
  have posted := (Bank.send_sent freed).posted
  have other : (⟨payload.sender⟩ : Account) ≠ Chain.escrow packet.source :=
    Ne.symm (Chain.escrow_ne_account sender packet.source)
  have notReserve := Ne.symm (Chain.escrow_ne_reserve packet.source)
  obtain ⟨locked, taken⟩ := passed_on freed other notReserve departs.senderFree roomy.reserve
  have lock := (Bank.send_sent taken).posted
  have paid := posted.entry ⟨payload.sender⟩
  rw [Bank.share_of_ne other, Bank.share_self] at paid
  have reserved : voucher.amount.units ≤ released.units Chain.reserve voucher.denom.text := by
    rw [posted.others _ _ (Ne.symm foreign)]
    exact departs.reserved
  have converted :
      Send.Converted Chain.host { before with bank := released } packet order voucher carried := {
    scaled := Precision.scaleUp_eq_ok.mpr ⟨Amount.ne_zero_iff.mp departs.positive, rfl⟩
    voucherDenom := trace ▸ rfl
    senderHolds := Chain.holds_iff.mpr (Nat.le_of_add_left_le (Nat.le_of_eq paid.symm))
    reserveHolds := Chain.holds_iff.mpr reserved
    denom := trace ▸ known
    amount := rfl
    sender := rfl
    receiver := rfl
    memo := rfl }
  obtain ⟨burned, destroyed⟩ : ∃ burned, locked.burn Chain.reserve voucher = .ok burned := by
    apply Bank.burn_eq_ok_of_le
    · rw [lock.burnsFail, posted.burnsFail]
      exact departs.burning
    · rw [lock.others _ _ (Ne.symm foreign)]
      exact reserved
  have counted :
      before.totals.recordOut native.amount =
        .ok ⟨before.totals.transferredIn, ⟨_, departs.counted⟩⟩ :=
    Totals.recordOut_eq_ok.mpr ⟨rfl, rfl⟩
  exact ⟨order, voucher, carried, _, ordered,
    ⟨released, locked, burned, _, ⟨freed, converted, taken⟩, destroyed, counted, rfl⟩,
      departs.working⟩

end

theorem unwraps_of_reports {switches : Transfer.Switches} {packet : Packet} {before after : Chain}
    {sequence : UInt64}
    (ran : (swapStack switches).send Chain.sendPacket packet before = some (.ok sequence, after))
    (reports : Reports before after) :
    sequence = packet.sequence ∧ ∃ order voucher carried,
      Send.Unwraps packet before order voucher carried after := by
  obtain ⟨same, sends⟩ := Send.atop_eq_ok.mp ran
  refine ⟨same, ?_⟩
  cases sends with
  | unwrapped unwraps => exact ⟨_, _, _, unwraps⟩
  | forwarded left working =>
      obtain ⟨produced, grown, event, member, -⟩ := reports
      rw [List.append_cancel_left (grown.symm.trans (List.append_nil _).symm)] at member
      exact absurd member List.not_mem_nil

theorem reports_of_computed {run : Option (Dispatch × Chain)} {before : Chain} {dispatch : Dispatch}
    (silent : before.events = [])
    (computed :
      (run.map fun step =>
        decide (step.1 = dispatch ∧ step.2.events.map Event.kind = ["token_unwrapped"])) =
          some true) :
    ∃ after, run = some (dispatch, after) ∧ Reports before after := by
  obtain ⟨⟨answer, after⟩, ran, facts⟩ := Option.map_eq_some_iff.mp computed
  obtain ⟨same, kinds⟩ := of_decide_eq_true facts
  have same : answer = dispatch := same
  have kinds : after.events.map Event.kind = ["token_unwrapped"] := kinds
  obtain ⟨event, member, kind⟩ :=
    List.mem_map.mp (kinds ▸ List.mem_singleton_self "token_unwrapped")
  exact ⟨after, same ▸ ran, after.events, by rw [silent, List.nil_append], event, member, kind⟩

-- Both directions are about the same twenty conditions: none of them is missing, and none could be
-- left out.
theorem departure_exact {switches : Transfer.Switches} {packet : Packet} {before : Chain}
    (foreign : before.nativeDenom ≠ before.settings.voucher)
    (roomy : ∀ payload, Departs before packet payload → Roomy before payload) :
    ((∃ sequence after, (swapStack switches).send Chain.sendPacket packet before =
      some (.ok sequence, after) ∧
        Reports before after) ↔ ∃ payload, Departs before packet payload) ∧
      ∀ sequence after, (swapStack switches).send Chain.sendPacket packet before =
        some (.ok sequence, after) →
        Reports before after → sequence = packet.sequence ∧
          ∃ payload carried, packet.payload? = some payload ∧
            Unwrapped before packet payload carried after := by
  refine ⟨⟨?_, ?_⟩, ?_⟩
  · rintro ⟨sequence, after, ran, reports⟩
    obtain ⟨-, order, voucher, carried, unwraps⟩ := unwraps_of_reports ran reports
    exact ⟨order.payload, departs_of_unwraps foreign unwraps⟩
  · rintro ⟨payload, departs⟩
    obtain ⟨order, voucher, carried, after, unwraps⟩ :=
      departs.unwraps foreign (roomy payload departs)
    refine ⟨packet.sequence, after, Send.atop_eq_ok.mpr ⟨rfl, .unwrapped unwraps⟩, ?_⟩
    have rest := (unwrapped_of_unwraps unwraps).rest
    exact ⟨_, congrArg Chain.events rest, _, List.mem_singleton_self _, rfl⟩
  · intro sequence after ran reports
    obtain ⟨same, order, voucher, carried, unwraps⟩ := unwraps_of_reports ran reports
    exact ⟨same, order.payload, carried, unwraps.ordered.readable, unwrapped_of_unwraps unwraps⟩

set_option maxRecDepth 100000 in
theorem escrowChain_departs :
    Departs (Abort.escrowChain .zero) Abort.samplePacket (Sample.outgoing "zig1sender") where
  ready := ⟨_, rfl, rfl⟩
  readable := Send.payload?_rewritten _ rfl
  wrapped := by decide
  token := .inl rfl
  nativeEnd := by decide
  enabled := rfl
  configured := by decide
  departing := by decide
  counterparty := rfl
  clients := rfl
  sender := rfl
  receiver := by decide
  positive := by decide
  visible := by decide
  escrowed := by decide +kernel
  escrowFree := List.not_mem_nil
  senderFree := List.not_mem_nil
  fits := by decide
  reserved := by decide +kernel
  trace := ⟨_, rfl⟩
  burning := rfl
  working := rfl
  counted := by decide

theorem departure_exact_escrowChain :
    ∃ sequence after, (swapStack ⟨false, false⟩).send Chain.sendPacket Abort.samplePacket
      (Abort.escrowChain .zero) =
        some (.ok sequence, after) ∧
      Reports (Abort.escrowChain .zero) after ∧
      ∃ payload carried, Abort.samplePacket.payload? = some payload ∧
        Unwrapped (Abort.escrowChain .zero) Abort.samplePacket payload carried after := by
  have roomy (payload : Payload)
      (departs : Departs (Abort.escrowChain .zero) Abort.samplePacket payload) :
        Roomy (Abort.escrowChain .zero) payload := by
    have readable := departs.readable
    rw [escrowChain_departs.readable, Option.some.injEq] at readable
    subst readable
    constructor <;> decide +kernel
  obtain ⟨exact, effect⟩ :=
    @departure_exact ⟨false, false⟩ _ _ (Ne.symm (Voucher.ofTrace_ne (by decide) _)) roomy
  obtain ⟨sequence, after, ran, reports⟩ := exact.mpr ⟨_, escrowChain_departs⟩
  exact ⟨sequence, after, ran, reports, (effect sequence after ran reports).2⟩

end Departure

end VoucherSwap
