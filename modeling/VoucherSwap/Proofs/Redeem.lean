import VoucherSwap.Proofs.Undo

/-!
What was wrapped can be sent back at once. A wrap leaves the route open and configured, its receiver
free and in possession of the native coins, and the reserve with the vouchers for them; so every
check of a send over the native channel passes, if the escrow account and the counters have room.
Both balances of the native token are then as they were before the wrap. Of the vouchers, the
reserve keeps what the wrap had rounded off.
-/

namespace VoucherSwap

namespace Redeem

open Session

def Traceless (name : String) : Prop := ∀ denom, Denom.ofText name = .ok denom → denom.hops = []

-- The wrap.

/-- A wrap that took place and was reported, and the bank on its way. -/
structure Wrapped (delivered : Packet) (incoming : Payload) (crossing : Crossing)
    (wrapping : Receive.Wrapping Account) (before : Chain) (minted locked paid : Bank)
    (totals : Totals) : Prop where
  admits : Receive.Admits Chain.host before delivered incoming
  eligible : Receive.Eligible Chain.host
    { before with bank := minted } delivered incoming before.settings wrapping
  moved :
    Undo.Moved wrapping.receiver wrapping.voucher wrapping.native before.bank minted locked paid
  counted : before.totals.recordIn wrapping.native.amount = .ok totals
  receiver : crossing.receiver = incoming.receiver
  amount : crossing.amount = wrapping.native.amount

theorem wrapped_event {one other : Crossing}
    (same : (Notice.wrapped one).event = (Notice.wrapped other).event) :
    one.receiver = other.receiver ∧ one.amount = other.amount := by
  simp only [Notice.event, Crossing.attributes, Event.mk.injEq, List.cons.injEq, Prod.mk.injEq,
    true_and] at same
  exact ⟨same.2.1, Amount.text_injective same.2.2.1⟩

theorem wrapped_of_event {switches : Transfer.Switches} {delivery : Delivery} {before after : Chain}
    {receipt : Receipt} {incoming : Payload} {crossing : Crossing}
    (ran : (swapStack switches).receive delivery before = some (receipt, after))
    (readable : delivery.packet.payload? = some incoming)
    (reported : (Notice.wrapped crossing).event ∈ receipt.extras.events) :
    ∃ wrapping minted locked paid totals,
      Wrapped delivery.packet incoming crossing wrapping before minted locked paid totals ∧
        after = { before with bank := paid, totals } := by
  cases receive_arrives ran with
  | refused unswapped => exact absurd reported (unswapped crossing)
  | credited _ _ _ unswapped => exact absurd reported (unswapped crossing)
  | @attempted payload wrapping minted outcome _ admits eligible made settles told =>
      have same := admits.readable
      rw [readable, Option.some.injEq] at same
      subst same
      rcases List.mem_cons.mp reported with first | second
      · exact absurd first (application_ne_wrapped _ _ _)
      have event := List.mem_singleton.mp second
      cases outcome with
      | error skip => exact absurd event (skip_ne_wrapped skip crossing)
      | ok notice =>
          obtain rfl := told notice rfl
          obtain ⟨receiver, amount⟩ := wrapped_event event
          cases settles with
          | swapped _ taken given counted =>
              exact ⟨wrapping, minted, _, _, _,
                ⟨admits, eligible, ⟨made, taken, given⟩, counted, receiver, amount⟩, rfl⟩

-- The coins on their way back.

structure Returned (holder escrow : Account) (coin voucher : Coin)
    (start escrowed released locked burned : Bank) : Prop where
  kept : start.send holder escrow coin = some (.ok escrowed)
  freed : escrowed.send escrow holder coin = some (.ok released)
  taken : released.send holder Chain.reserve coin = some (.ok locked)
  destroyed : locked.burn Chain.reserve voucher = .ok burned

/-- A bank that lets the coins go back. -/
structure Returnable (holder escrow : Account) (coin voucher : Coin) (start : Bank) : Prop where
  holderFree : holder ∉ start.frozen
  escrowFree : escrow ∉ start.frozen
  burns : start.burnsFail = false
  owned : coin.amount.units ≤ start.units holder coin.denom.text
  escrowRoom : start.units escrow coin.denom.text + coin.amount.units < Amount.bound
  reserveRoom : start.units Chain.reserve coin.denom.text + coin.amount.units < Amount.bound
  backed : voucher.amount.units ≤ start.units Chain.reserve voucher.denom.text

theorem Returnable.returned {holder escrow : Account} {coin voucher : Coin} {start : Bank}
    (returnable : Returnable holder escrow coin voucher start)
    (foreign : coin.denom.text ≠ voucher.denom.text) (different : holder ≠ escrow) :
    ∃ escrowed released locked burned,
      Returned holder escrow coin voucher start escrowed released locked burned := by
  obtain ⟨escrowed, kept⟩ :=
    Bank.send_eq_ok returnable.holderFree returnable.owned returnable.escrowRoom
  obtain ⟨released, freed⟩ := Bank.send_back_eq_ok kept returnable.escrowFree different
  have keeping := (Bank.send_sent kept).posted
  have freeing := (Bank.send_sent freed).posted
  have same := (Bank.send_back_restores kept freed).units
  have taken : ∃ locked, released.send holder Chain.reserve coin = some (.ok locked) := by
    apply Bank.send_eq_ok
    · rw [freeing.frozen, keeping.frozen]
      exact returnable.holderFree
    · rw [same]
      exact returnable.owned
    · rw [same]
      exact returnable.reserveRoom
  obtain ⟨locked, taken⟩ := taken
  have burned : ∃ burned, locked.burn Chain.reserve voucher = .ok burned := by
    apply Bank.burn_eq_ok_of_le
    · rw [(Bank.send_sent taken).posted.burnsFail, freeing.burnsFail, keeping.burnsFail]
      exact returnable.burns
    · rw [Bank.send_others taken foreign, same]
      exact returnable.backed
  obtain ⟨burned, destroyed⟩ := burned
  exact ⟨escrowed, released, locked, burned, kept, freed, taken, destroyed⟩

theorem Returned.units {holder escrow : Account} {coin voucher : Coin}
    {start escrowed released locked burned : Bank}
    (returned : Returned holder escrow coin voucher start escrowed released locked burned)
    (foreign : coin.denom.text ≠ voucher.denom.text) (different : holder ≠ Chain.reserve) :
    burned.units holder coin.denom.text + coin.amount.units = start.units holder coin.denom.text ∧
      burned.units Chain.reserve coin.denom.text =
        start.units Chain.reserve coin.denom.text + coin.amount.units ∧
      burned.units Chain.reserve voucher.denom.text + voucher.amount.units =
        start.units Chain.reserve voucher.denom.text := by
  have same := (Bank.send_back_restores returned.kept returned.freed).units
  have taking := (Bank.send_sent returned.taken).posted
  have burning := Bank.debit_posted (Bank.burn_eq_ok.mp returned.destroyed).2
  refine ⟨?_, ?_, ?_⟩
  · have paid := taking.entry holder
    rw [Bank.share_self, Bank.share_of_ne different, same] at paid
    rw [burning.others _ _ foreign]
    exact paid
  · have received := taking.entry Chain.reserve
    rw [Bank.share_self, Bank.share_of_ne (Ne.symm different), same] at received
    rw [burning.others _ _ foreign]
    exact received
  · have spent := burning.entry Chain.reserve
    rw [Bank.share_self, Bank.send_others returned.taken foreign, same] at spent
    exact spent

-- The send.

/-- A packet that gives back what a wrap credited. -/
structure Redeems (before : Chain) (crossing : Crossing) (packet : Packet) (payload : Payload) :
    Prop where
  readable : packet.payload? = some payload
  source : Route.isNativeEnd before.settings packet.source = true
  denom : payload.denom.text = before.nativeDenom
  amount : payload.amount = crossing.amount
  sender : payload.sender = crossing.receiver
  receiver : payload.receiver ≠ ""

theorem Redeems.hops_nil {before : Chain} {crossing : Crossing} {packet : Packet}
    {payload : Payload} (redeems : Redeems before crossing packet payload)
    (traceless : Traceless before.nativeDenom) :
    payload.denom.hops = [] := by
  apply traceless
  rw [← redeems.denom]
  exact Payload.denom_of_ofBytes? redeems.readable

/-- A chain on which the escrow account and the counters have room for an amount, and nothing is
switched off. -/
structure Clear (chain : Chain) (source : Endpoint) (amount : Amount) : Prop where
  escrowFree : Chain.escrow source ∉ chain.bank.frozen
  burns : chain.bank.burnsFail = false
  sends : chain.sendsFail = false
  counts : chain.totals.transferredOut.units + amount.units < Amount.bound
  escrowRoom : chain.bank.units (Chain.escrow source) chain.nativeDenom +
    amount.units < Amount.bound

/-- What is forwarded, and what the wrap and the send back come to together. -/
structure Redeemed (before after final : Chain) (incoming payload : Payload) (packet : Packet) :
    Prop where
  forwarded : ∃ carried : Payload, final.sent = after.sent ++ [Send.rewritten packet carried] ∧
    carried.denom.text = before.settings.outboundTrace ∧
    carried.amount.units = incoming.amount.units - incoming.amount.units % before.settings.factor ∧
    carried.sender = payload.sender ∧ carried.receiver = payload.receiver ∧
    carried.memo = payload.memo
  reported : final.events =
    after.events ++ [(Notice.unwrapped ⟨payload.sender, payload.receiver, payload.amount,
    before.nativeDenom, packet.source, packet.destination⟩).event]
  receiver : final.bank.units ⟨incoming.receiver⟩ before.nativeDenom =
    before.bank.units ⟨incoming.receiver⟩ before.nativeDenom
  reserve : final.bank.units Chain.reserve before.nativeDenom =
    before.bank.units Chain.reserve before.nativeDenom
  vouchers : final.bank.units Chain.reserve before.settings.voucher =
    before.bank.units Chain.reserve before.settings.voucher +
      incoming.amount.units % before.settings.factor

def whole (amount : Amount) (factor : Nat) : Amount :=
  ⟨amount.units - amount.units % factor, Nat.lt_of_le_of_lt (Nat.sub_le ..) amount.fits⟩

def worth (settings : Settings) (incoming : Payload) (wrapping : Receive.Wrapping Account) : Coin :=
  ⟨wrapping.voucher.denom, whole incoming.amount settings.factor⟩

def carried (settings : Settings) (incoming payload : Payload) (traced : Denom) : Payload :=
  { payload with denom := traced, amount := whole incoming.amount settings.factor }

section

variable {delivered packet : Packet} {incoming payload : Payload} {crossing : Crossing}
  {wrapping : Receive.Wrapping Account} {before : Chain} {minted locked paid : Bank}
  {totals : Totals}
  (wrapped : Wrapped delivered incoming crossing wrapping before minted locked paid totals)
include wrapped

theorem Wrapped.nativeName : wrapping.native.denom.text = before.nativeDenom :=
  wrapped.eligible.nativeDenom

theorem Wrapped.voucherName : wrapping.voucher.denom.text = before.settings.voucher :=
  (received_voucher wrapped.eligible).1

theorem Wrapped.quotient : 0 < crossing.amount.units ∧
    crossing.amount.units * before.settings.factor +
      incoming.amount.units % before.settings.factor =
      incoming.amount.units := by
  obtain ⟨quotient, positive⟩ := Precision.scaleDown_eq_ok.mp wrapped.eligible.scaled
  rw [wrapped.amount]
  refine ⟨positive, ?_⟩
  rw [quotient, Nat.mul_comm]
  exact Nat.div_add_mod _ _

theorem Wrapped.whole_units :
    (whole incoming.amount before.settings.factor).units =
      crossing.amount.units * before.settings.factor := by
  have quotient := wrapped.quotient.2
  unfold whole
  dsimp only
  omega

theorem Wrapped.wrappedDenom : incoming.denom.text = before.settings.wrappedDenom ∧
    before.settings.wrappedDenom ≠ "" := by
  have denom := wrapped.eligible.wrapped
  simp only [Route.isWrappedDenom, Bool.and_eq_true, decide_eq_true_eq] at denom
  exact ⟨denom.2, denom.1⟩

section

variable (redeems : Redeems before crossing packet payload)
include redeems

theorem Wrapped.source : delivered.destination = packet.source := by
  have route := wrapped.eligible.route
  rw [Route.comesIn, Bool.and_eq_true] at route
  exact Route.isNativeEnd_unique route.2 redeems.source

theorem Wrapped.trace : ∃ traced, Denom.ofText before.settings.outboundTrace = .ok traced := by
  have known := Payload.denom_of_ofBytes? wrapped.admits.readable
  rw [wrapped.wrappedDenom.1] at known
  rw [Route.outboundTrace_eq redeems.source]
  exact Denom.ofText_hop known packet.source

theorem Wrapped.sender : Chain.host.account? payload.sender = some wrapping.receiver := by
  rw [redeems.sender, wrapped.receiver]
  exact wrapped.eligible.receiver

theorem Wrapped.payloadAmount : payload.amount = wrapping.native.amount :=
  redeems.amount.trans wrapped.amount

theorem Wrapped.converted {traced : Denom} {released : Bank} (counted : Totals)
    (known : Denom.ofText before.settings.outboundTrace = .ok traced)
    (owned : wrapping.native.amount.units ≤
      released.units wrapping.receiver wrapping.native.denom.text)
    (backed : (worth before.settings incoming wrapping).amount.units ≤
      released.units Chain.reserve wrapping.voucher.denom.text) :
    Send.Converted Chain.host { before with bank := released, totals := counted } packet
      ⟨wrapping.receiver, payload, before.settings, wrapping.native⟩
        (worth before.settings incoming wrapping)
      (carried before.settings incoming payload traced) := by
  have trace :
    Voucher.trace packet.source.port.text packet.source.channel.text before.settings.wrappedDenom =
      before.settings.outboundTrace := by
    rw [Voucher.trace_hop, ← Route.outboundTrace_eq redeems.source]
  exact {
    scaled := by
      apply Precision.scaleUp_eq_ok.mpr
      rw [redeems.amount]
      exact ⟨wrapped.quotient.1, wrapped.whole_units⟩
    voucherDenom := by
      rw [trace]
      exact wrapped.voucherName
    senderHolds := Chain.holds_iff.mpr owned
    reserveHolds := Chain.holds_iff.mpr backed
    denom := by
      rw [trace]
      exact known
    amount := rfl
    sender := rfl
    receiver := rfl
    memo := rfl }

variable (traceless : Traceless before.nativeDenom)
include traceless

theorem Wrapped.ordered (bank : Bank) (counted : Totals) :
    Send.Ordered Chain.host { before with bank, totals := counted } packet
      ⟨wrapping.receiver, payload, before.settings, wrapping.native⟩ where
  ready := by
    rw [← wrapped.source redeems]
    exact wrapped.admits.ready
  readable := redeems.readable
  stored := rfl
  enabled := wrapped.eligible.enabled
  configured := wrapped.eligible.configured
  departing := by simp [Denom.arrivedOver, redeems.hops_nil traceless]
  targeted := by
    have name : Send.routeDenom before.settings before.nativeDenom payload.denom.text =
        before.settings.wrappedDenom := if_pos ⟨redeems.denom, wrapped.wrappedDenom.2⟩
    show Route.isTargeted before.settings
      (Send.routeDenom before.settings before.nativeDenom payload.denom.text) packet.source = true
    simp [name, Route.isTargeted, Route.isWrappedDenom, wrapped.wrappedDenom.2, redeems.source]
  counterparty := by
    rw [← wrapped.source redeems]
    exact wrapped.eligible.counterparty
  clients := by
    rw [← wrapped.source redeems]
    exact wrapped.eligible.clients
  named := Chain.account_named (wrapped.sender redeems)
  sender := wrapped.sender redeems
  receiver := redeems.receiver
  positive := by
    rw [redeems.amount]
    exact Amount.ne_zero_iff.mpr wrapped.quotient.1
  nativeDenom := wrapped.nativeName
  nativeAmount := (wrapped.payloadAmount redeems).symm

theorem Wrapped.taken {start escrowed : Bank} (counted : Totals)
    (kept : start.send wrapping.receiver (Chain.escrow packet.source) wrapping.native =
      some (.ok escrowed)) :
    Transfer.take packet { before with bank := start, totals := counted } =
      some (.ok (), { before with bank := escrowed, totals := counted }) := by
  have hops := redeems.hops_nil traceless
  have departing : payload.denom.arrivedOver packet.source = false := by
    simp [Denom.arrivedOver, hops]
  apply Transfer.take_eq_ok.mpr
  refine ⟨payload, wrapping.receiver, wrapping.native, escrowed, redeems.readable,
    wrapped.sender redeems, ⟨?_, (wrapped.payloadAmount redeems).symm⟩, ?_, rfl⟩
  · rw [Denom.ledgerName_of_hops_nil hops, redeems.denom, wrapped.nativeName]
  · rw [departing]
    exact .escrowed kept

end

variable (foreign : before.nativeDenom ≠ before.settings.voucher)
include foreign

theorem Wrapped.coins : wrapping.native.denom.text ≠ wrapping.voucher.denom.text := by
  rw [wrapped.nativeName, wrapped.voucherName]
  exact foreign

variable (different : wrapping.receiver ≠ Chain.reserve)
include different

theorem Wrapped.units :
    paid.units wrapping.receiver wrapping.native.denom.text =
        before.bank.units wrapping.receiver wrapping.native.denom.text +
          wrapping.native.amount.units ∧
      paid.units Chain.reserve wrapping.native.denom.text + wrapping.native.amount.units =
        before.bank.units Chain.reserve wrapping.native.denom.text ∧
      paid.units Chain.reserve wrapping.voucher.denom.text =
        before.bank.units Chain.reserve wrapping.voucher.denom.text + incoming.amount.units := by
  obtain ⟨-, credited, -⟩ := wrapped.moved.units (wrapped.coins foreign) wrapping.receiver
  obtain ⟨locking, spent, -⟩ := wrapped.moved.units (wrapped.coins foreign) Chain.reserve
  rw [Bank.share_self, Bank.share_of_ne different] at credited
  rw [Bank.share_self, Bank.share_of_ne (Ne.symm different)] at spent
  rw [Bank.share_self, wrapped.eligible.voucherAmount] at locking
  exact ⟨credited, spent, locking⟩

theorem Wrapped.returnable {source : Endpoint}
    (clear : Clear { before with bank := paid, totals } source crossing.amount) :
    Returnable wrapping.receiver (Chain.escrow source) wrapping.native
      (worth before.settings incoming wrapping)
      paid := by
  obtain ⟨credited, spent, locking⟩ := wrapped.units foreign different
  have taken := Bank.send_sent wrapped.moved.taken
  have given := Bank.send_sent wrapped.moved.given
  exact {
    holderFree := by
      rw [given.posted.frozen, taken.posted.frozen]
      exact taken.free
    escrowFree := clear.escrowFree
    burns := clear.burns
    owned := by omega
    escrowRoom := by
      rw [wrapped.nativeName, ← wrapped.amount]
      exact clear.escrowRoom
    reserveRoom := by
      rw [spent]
      exact (before.bank.balance Chain.reserve wrapping.native.denom.text).fits
    backed := by
      show (whole incoming.amount before.settings.factor).units ≤
        paid.units Chain.reserve wrapping.voucher.denom.text
      unfold whole
      dsimp only
      omega }

theorem Wrapped.balances {escrow : Account} {escrowed released taken burned : Bank}
    (returned : Returned wrapping.receiver escrow wrapping.native
      (worth before.settings incoming wrapping) paid escrowed released taken burned) :
    burned.units wrapping.receiver before.nativeDenom =
      before.bank.units wrapping.receiver before.nativeDenom ∧
      burned.units Chain.reserve before.nativeDenom =
        before.bank.units Chain.reserve before.nativeDenom ∧
      burned.units Chain.reserve before.settings.voucher =
        before.bank.units Chain.reserve before.settings.voucher +
          incoming.amount.units % before.settings.factor := by
  obtain ⟨credited, spent, locking⟩ := wrapped.units foreign different
  obtain ⟨holder, reserve, vouchers⟩ := returned.units (wrapped.coins foreign) different
  change burned.units Chain.reserve wrapping.voucher.denom.text +
    (whole incoming.amount before.settings.factor).units =
      paid.units Chain.reserve wrapping.voucher.denom.text
      at vouchers
  have quotient := wrapped.quotient.2
  rw [wrapped.whole_units] at vouchers
  rw [← wrapped.nativeName, ← wrapped.voucherName]
  refine ⟨?_, ?_, ?_⟩ <;> omega

end

-- From the wrap to the chain after the send.
theorem wrapped_redeemable {receiving sending : Transfer.Switches} {delivery : Delivery}
    {before after : Chain} {receipt : Receipt} {incoming payload : Payload} {crossing : Crossing}
    {packet : Packet} (foreign : before.nativeDenom ≠ before.settings.voucher)
    (traceless : Traceless before.nativeDenom)
    (ran : (swapStack receiving).receive delivery before = some (receipt, after))
    (received : delivery.packet.payload? = some incoming)
    (reported : (Notice.wrapped crossing).event ∈ receipt.extras.events)
    (other : crossing.receiver ≠ Chain.reserve.address)
    (redeems : Redeems before crossing packet payload)
    (clear : Clear after packet.source crossing.amount) :
    ∃ final, Transfer.start (swapStack sending) packet after = some (.ok packet.sequence, final) ∧
      Redeemed before after final incoming payload packet := by
  obtain ⟨wrapping, minted, locked, paid, totals, wrapped, rfl⟩ :=
    wrapped_of_event ran received reported
  have account := wrapped.eligible.receiver
  have different : wrapping.receiver ≠ Chain.reserve :=
    Chain.account_ne_reserve account (wrapped.receiver ▸ other)
  have fromEscrow := Ne.symm (Chain.escrow_ne_account account packet.source)
  have coins := wrapped.coins foreign
  have returnable := wrapped.returnable foreign different clear
  obtain ⟨escrowed, released, taken, burned, returned⟩ := returnable.returned coins fromEscrow
  have counted : ∃ counted, totals.recordOut wrapping.native.amount = .ok counted :=
    ⟨⟨totals.transferredIn, ⟨_, wrapped.amount ▸ clear.counts⟩⟩,
      Totals.recordOut_eq_ok.mpr ⟨rfl, rfl⟩⟩
  obtain ⟨counted, recorded⟩ := counted
  obtain ⟨traced, known⟩ := wrapped.trace redeems
  have same := (Bank.send_back_restores returned.kept returned.freed).units
  have owned :
    wrapping.native.amount.units ≤ released.units wrapping.receiver wrapping.native.denom.text := by
    rw [same]
    exact returnable.owned
  have backed : (worth before.settings incoming wrapping).amount.units ≤
      released.units Chain.reserve wrapping.voucher.denom.text := by
    rw [same]
    exact returnable.backed
  have converted := wrapped.converted redeems totals known owned backed
  have sends : Send.Sends packet { before with bank := escrowed, totals } _ := .unwrapped
    ⟨wrapped.ordered redeems traceless escrowed totals,
      ⟨released, taken, burned, counted, ⟨returned.freed, converted, returned.taken⟩,
        returned.destroyed, recorded, rfl⟩, clear.sends⟩
  have taking := wrapped.taken redeems traceless totals returned.kept
  refine ⟨_, start_of_sends taking sends, ?_⟩
  obtain ⟨receiver, reserve, vouchers⟩ := wrapped.balances foreign different returned
  exact {
    forwarded := ⟨_, rfl, Denom.text_of_ofText known, rfl, rfl, rfl, rfl⟩
    reported := by
      rw [wrapped.payloadAmount redeems, ← wrapped.nativeName]
      rfl
    receiver := Chain.account_eq account ▸ receiver
    reserve
    vouchers }

def sampleCrossing : Crossing where
  sender := Sample.incoming.sender
  receiver := Sample.incoming.receiver
  amount := ⟨5, Sample.five_fits⟩
  denom := Sample.nativeDenom
  source := Sample.counterpartyEnd
  destination := Sample.nativeEnd

def samplePayload : Payload := Sample.outgoing Sample.incoming.receiver

def samplePacket : Packet := Sample.departing samplePayload

theorem samplePacket_redeems :
    Redeems Sample.fundedChain sampleCrossing samplePacket samplePayload where
  readable := Send.payload?_rewritten _ rfl
  source := by decide
  denom := rfl
  amount := rfl
  sender := rfl
  receiver := by decide

theorem sampleDenom_traceless : Traceless Sample.nativeDenom := by
  intro denom read
  have known :
      Denom.ofText Sample.nativeDenom =
        .ok ⟨[], Sample.nativeDenom, Sample.nativeDenom_visible⟩ := by rfl
  rw [known] at read
  cases read
  rfl

set_option maxRecDepth 100000 in
theorem fundedChain_wrap :
    ∃ receipt after, (swapStack ⟨false, false⟩).receive Sample.incomingDelivery Sample.fundedChain =
        some (receipt, after) ∧
      (Notice.wrapped sampleCrossing).event ∈ receipt.extras.events ∧
      Clear after samplePacket.source sampleCrossing.amount := by
  have computed :
    (((swapStack ⟨false, false⟩).receive Sample.incomingDelivery Sample.fundedChain).map fun step =>
      decide ((Notice.wrapped sampleCrossing).event ∈ step.1.extras.events ∧
        Chain.escrow samplePacket.source ∉ step.2.bank.frozen ∧ step.2.bank.burnsFail = false ∧
        step.2.sendsFail = false ∧ step.2.totals.transferredOut.units + 5 < Amount.bound ∧
        step.2.bank.units (Chain.escrow samplePacket.source) step.2.nativeDenom + 5 <
          Amount.bound)) = some true := by
    decide +kernel
  obtain ⟨⟨receipt, after⟩, received, facts⟩ := Option.map_eq_some_iff.mp computed
  obtain ⟨reported, escrowFree, burns, sends, counts, escrowRoom⟩ := of_decide_eq_true facts
  exact ⟨receipt, after, received, reported, escrowFree, burns, sends, counts, escrowRoom⟩

theorem wrapped_redeemable_fundedChain :
    ∃ receipt after final,
      (swapStack ⟨false, false⟩).receive Sample.incomingDelivery Sample.fundedChain =
        some (receipt, after) ∧
      (Notice.wrapped sampleCrossing).event ∈ receipt.extras.events ∧
      Transfer.start (swapStack ⟨false, false⟩) samplePacket after =
        some (.ok samplePacket.sequence, final) ∧
      Redeemed Sample.fundedChain after final Sample.incoming samplePayload samplePacket := by
  obtain ⟨receipt, after, received, reported, clear⟩ := fundedChain_wrap
  obtain ⟨final, started, redeemed⟩ :=
    wrapped_redeemable Sample.fundedChain_foreign sampleDenom_traceless received
    Sample.incomingDelivery_payload? reported (by decide) samplePacket_redeems clear
  exact ⟨receipt, after, final, received, reported, started, redeemed⟩

end Redeem

end VoucherSwap
