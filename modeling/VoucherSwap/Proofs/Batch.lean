import Mathlib
import VoucherSwap.Proofs.Supply
import VoucherSwap.Proofs.Undo

/-!
Packets that come in may be delivered in any order. Each of them moves as much as it carries,
whatever came before: its vouchers end in the reserve and the reserve pays for them. If the reserve
can pay for all of them and nothing outgrows an amount, every delivery succeeds in every order, and
what they come to together is a sum over the packets, in which the order does not show.
-/

namespace VoucherSwap

namespace Bank

variable {bank : Bank} {sender receiver : Account} {coin : Coin}

theorem mint?_eq_some_of_supply {account : Account} {denom : String} {amount : Amount}
    (fits : bank.supply denom + amount.units < Amount.bound) :
    ∃ after, bank.mint? account denom amount = some after := by
  apply mint?_eq_some_of_lt
  have part := units_le_supply bank account denom
  omega

theorem send_eq_ok_of_supply (free : sender ∉ bank.frozen)
    (covered : coin.amount.units ≤ bank.units sender coin.denom.text)
    (fits : bank.supply coin.denom.text < Amount.bound) :
    ∃ after, bank.send sender receiver coin = some (.ok after) := by
  obtain ⟨spent, debited⟩ := debit_eq_ok_of_le covered
  have left := (debit_issued debited).even
  obtain ⟨after, minted⟩ :
    ∃ after, spent.mint? receiver coin.denom.text coin.amount = some after := by
    apply mint?_eq_some_of_supply
    omega
  exact ⟨after, by simp [send, free, debited, minted]⟩

end Bank

namespace Transfer

def accepted (payload : Payload) : Receipt :=
  ⟨⟨[event payload true], []⟩, .ofStatus (.success successValue)⟩

theorem application_receive {switches : Switches} {delivery : Delivery} {payload : Payload}
    {before after : Chain}
    (done : receive switches delivery.packet before = some (.ok payload, after)) :
    (application switches).receive delivery before = some (accepted payload, after) := by
  have ran : (receive switches delivery.packet).run before = some (.ok payload, after) := done
  simp only [application]
  rw [Effect.bind_run, ran]
  rfl

end Transfer

namespace Receive

theorem wrap_swaps {packet : Packet} {payload : Payload} {wrapping : Wrapping Account}
    {before : Chain} {settings : Settings} {locked paid : Bank} {totals : Totals}
    (eligible : Eligible Chain.host before packet payload settings wrapping)
    (taken : before.bank.send wrapping.receiver Chain.reserve wrapping.voucher = some (.ok locked))
    (given : locked.send Chain.reserve wrapping.receiver wrapping.native = some (.ok paid))
    (counted : before.totals.recordIn wrapping.native.amount = .ok totals) :
    wrap Chain.host packet payload before =
      some (.wrapped (crossing packet payload wrapping), { before with bank := paid, totals }) := by
  have settled : settle Chain.host packet payload wrapping before =
      some
        (.ok (.wrapped (crossing packet payload wrapping)),
          { before with bank := paid, totals }) := by
    simp only [settle, Attempt.bind_eq_ok, Attempt.adapt_eq_ok, Attempt.pure_eq_ok, Chain.lock_run,
      Chain.unlock_run, Chain.sendCoins_eq_ok, Chain.recordIn_eq_ok]
    exact ⟨(), _, ⟨locked, taken, rfl⟩, (), _, ⟨paid, given, rfl⟩, (), _,
      ⟨totals, counted, rfl⟩, rfl, rfl⟩
  exact wrap_of_settle eligible settled

end Receive

namespace Batch

open Session

/-- A chain on which packets with the wrapped token can be swapped. -/
structure Ready (chain : Chain) : Prop where
  enabled : chain.settings.enabled = true
  configured : chain.settings.configured = true
  counterparty : ∀ endpoint, Route.isNativeEnd chain.settings endpoint = true →
    Route.checkCounterparty Chain.host chain chain.settings endpoint = .ok ()
  clients : ∀ endpoint, Route.isNativeEnd chain.settings endpoint = true →
    Route.checkClients Chain.host chain chain.settings endpoint = .ok ()
  arriving : ∀ denom endpoint, Denom.ofText chain.settings.wrappedDenom = .ok denom →
    Route.isCounterpartyEnd chain.settings endpoint = true → denom.arrivedOver endpoint = false
  visible : Text.isBlank chain.nativeDenom = false
  foreign : chain.nativeDenom ≠ chain.settings.voucher
  reserveFree : Chain.reserve ∉ chain.bank.frozen

/-- A packet that brings the wrapped token over the wrapped channel, and enough of it. -/
structure Carries (chain : Chain) (delivery : Delivery) (payload : Payload) : Prop where
  admits : Receive.Admits Chain.host chain delivery.packet payload
  wrapped : payload.denom.text = chain.settings.wrappedDenom
  route : Route.comesIn chain.settings delivery.packet = true
  scaled : ∃ native,
    Precision.scaleDown payload.amount chain.settings.decimalDifference = .ok native
  free : (⟨payload.receiver⟩ : Account) ∉ chain.bank.frozen

def vouchers (delivery : Delivery) : Nat := delivery.packet.payload?.elim 0 (·.amount.units)

def worth (settings : Settings) (delivery : Delivery) : Nat := vouchers delivery / settings.factor

def receiver (delivery : Delivery) : Account := ⟨delivery.packet.payload?.elim "" (·.receiver)⟩

/-- The reserve can pay for all of the deliveries, and everything stays an amount. -/
structure Funded (chain : Chain) (deliveries : List Delivery) : Prop where
  paid : (deliveries.map (worth chain.settings)).sum ≤
    chain.bank.units Chain.reserve chain.nativeDenom
  counted : chain.totals.transferredIn.units +
    (deliveries.map (worth chain.settings)).sum < Amount.bound
  vouchers : chain.bank.supply chain.settings.voucher + (deliveries.map vouchers).sum < Amount.bound
  native : chain.bank.supply chain.nativeDenom < Amount.bound

structure Deliverable (chain : Chain) (deliveries : List Delivery) : Prop where
  ready : Ready chain
  each : ∀ delivery ∈ deliveries, ∃ payload, Carries chain delivery payload
  funded : Funded chain deliveries

/-- A success that reports the swap of what was delivered. -/
structure Wraps (settings : Settings) (delivery : Delivery) (receipt : Receipt) : Prop where
  success : ∃ value, receipt.acknowledgement.status? = some (.success value)
  reported : ∃ crossing, (Notice.wrapped crossing).event ∈ receipt.extras.events ∧
    crossing.receiver = (receiver delivery).address ∧
    crossing.amount.units = worth settings delivery

/-- What a list of deliveries comes to: every packet moves what it carries. -/
structure Delivered (before : Chain) (deliveries : List Delivery) (bank : Bank) (totals : Totals) :
    Prop where
  frozen : bank.frozen = before.bank.frozen
  native : ∀ account,
    bank.units account before.nativeDenom +
        Bank.share Chain.reserve (deliveries.map (worth before.settings)).sum account =
      before.bank.units account before.nativeDenom +
        (deliveries.map fun delivery =>
          Bank.share (receiver delivery) (worth before.settings delivery) account).sum
  voucher : ∀ account, bank.units account before.settings.voucher =
    before.bank.units account before.settings.voucher +
      Bank.share Chain.reserve (deliveries.map vouchers).sum account
  others : ∀ account name, name ≠ before.nativeDenom → name ≠ before.settings.voucher →
    bank.units account name = before.bank.units account name
  nativeSupply : bank.supply before.nativeDenom = before.bank.supply before.nativeDenom
  voucherSupply : bank.supply before.settings.voucher =
    before.bank.supply before.settings.voucher + (deliveries.map vouchers).sum
  into : totals.transferredIn.units =
    before.totals.transferredIn.units + (deliveries.map (worth before.settings)).sum
  out : totals.transferredOut = before.totals.transferredOut

section

variable {chain : Chain} {delivery : Delivery} {payload : Payload}
  (carries : Carries chain delivery payload)
include carries

theorem Carries.vouchers : vouchers delivery = payload.amount.units := by
  rw [Batch.vouchers, carries.admits.readable]
  rfl

theorem Carries.receiver : receiver delivery = ⟨payload.receiver⟩ := by
  rw [Batch.receiver, carries.admits.readable]
  rfl

theorem Carries.worth {native : Amount}
    (scaled : Precision.scaleDown payload.amount chain.settings.decimalDifference = .ok native) :
    native.units = worth chain.settings delivery := by
  rw [Batch.worth, carries.vouchers]
  exact (Precision.scaleDown_eq_ok.mp scaled).1

theorem Carries.account : Chain.host.account? payload.receiver = some ⟨payload.receiver⟩ := by
  obtain ⟨account, found⟩ := carries.admits.receiver
  rw [← Chain.account_eq found]
  exact found

end

def wrapping (chain : Chain) (visible : Text.isBlank chain.nativeDenom = false) (payload : Payload)
    (native : Amount) :
    Receive.Wrapping Account where
  receiver := ⟨payload.receiver⟩
  voucher := ⟨⟨chain.settings.voucher, Voucher.ofTrace_visible _⟩, payload.amount⟩
  native := ⟨⟨chain.nativeDenom, visible⟩, native⟩

section

variable {holder : Account} {voucher native : Coin} {start minted locked paid : Bank}

theorem moved_exists (holderFree : holder ∉ start.frozen)
    (reserveFree : Chain.reserve ∉ start.frozen) (foreign : native.denom.text ≠ voucher.denom.text)
    (covered : native.amount.units ≤ start.units Chain.reserve native.denom.text)
    (room : start.supply voucher.denom.text + voucher.amount.units < Amount.bound)
    (fits : start.supply native.denom.text < Amount.bound) :
    ∃ minted locked paid, Undo.Moved holder voucher native start minted locked paid := by
  obtain ⟨minted, made⟩ : ∃ minted,
    start.mint? holder voucher.denom.text voucher.amount = some minted :=
    Bank.mint?_eq_some_of_supply room
  have issued := Bank.mint?_issued made
  have credit := Bank.mint?_posted made
  have holds := credit.entry holder
  rw [Bank.share_self] at holds
  obtain ⟨locked, taken⟩ :
    ∃ locked, minted.send holder Chain.reserve voucher = some (.ok locked) := by
    apply Bank.send_eq_ok_of_supply
    · rw [credit.frozen]
      exact holderFree
    · exact Nat.le_of_add_left_le (Nat.le_of_eq holds.symm)
    · have even := issued.even
      omega
  have posted := (Bank.send_sent taken).posted
  obtain ⟨paid, given⟩ : ∃ paid, locked.send Chain.reserve holder native = some (.ok paid) := by
    apply Bank.send_eq_ok_of_supply
    · rw [posted.frozen, credit.frozen]
      exact reserveFree
    · rw [posted.others _ _ foreign, credit.others _ _ foreign]
      exact covered
    · rw [Bank.send_supply taken, issued.others _ foreign]
      exact fits
  exact ⟨minted, locked, paid, made, taken, given⟩

theorem moved_supply (moved : Undo.Moved holder voucher native start minted locked paid) :
    Bank.Issued start paid voucher.denom.text 0 voucher.amount.units := by
  have issued := Bank.mint?_issued moved.made
  refine ⟨?_, fun name other => ?_⟩
  · rw [Bank.send_supply moved.given, Bank.send_supply moved.taken]
    exact issued.even
  · rw [Bank.send_supply moved.given, Bank.send_supply moved.taken]
    exact issued.others name other

theorem moved_frozen (moved : Undo.Moved holder voucher native start minted locked paid) :
    minted.frozen = start.frozen ∧ locked.frozen = start.frozen ∧ paid.frozen = start.frozen := by
  have made := (Bank.mint?_posted moved.made).frozen
  have taken := (Bank.send_sent moved.taken).posted.frozen.trans made
  exact ⟨made, taken, (Bank.send_sent moved.given).posted.frozen.trans taken⟩

end

theorem Ready.eligible {chain : Chain} {delivery : Delivery} {payload : Payload} {native : Amount}
    {minted : Bank} (ready : Ready chain) (carries : Carries chain delivery payload)
    (scaled : Precision.scaleDown payload.amount chain.settings.decimalDifference = .ok native)
    (made : chain.bank.mint? ⟨payload.receiver⟩ chain.settings.voucher payload.amount = some minted)
    (covered : native.units ≤ chain.bank.units Chain.reserve chain.nativeDenom) :
    Receive.Eligible Chain.host { chain with bank := minted } delivery.packet payload chain.settings
      (wrapping chain ready.visible payload native) := by
  have route := carries.route
  rw [Route.comesIn, Bool.and_eq_true] at route
  obtain ⟨port, channel⟩ := Route.isNativeEnd_iff.mp route.2
  have known := Payload.denom_of_ofBytes? carries.admits.readable
  rw [carries.wrapped] at known
  have named : chain.settings.wrappedDenom ≠ "" := by
    have configured := ready.configured
    simp only [Settings.configured, Bool.and_eq_true, decide_eq_true_eq] at configured
    exact configured.2
  have credit := Bank.mint?_posted made
  have holds := credit.entry ⟨payload.receiver⟩
  rw [Bank.share_self] at holds
  rw [← credit.others _ _ ready.foreign] at covered
  exact {
    stored := rfl
    counterparty := ready.counterparty _ route.2
    clients := ready.clients _ route.2
    configured := ready.configured
    wrapped := by simp [Route.isWrappedDenom, carries.wrapped, named]
    arriving := ready.arriving _ _ known route.1
    enabled := ready.enabled
    route := carries.route
    receiver := carries.account
    scaled
    voucherDenom := by
      rw [port, channel, carries.wrapped]
      rfl
    voucherAmount := rfl
    nativeDenom := rfl
    receiverHolds := Chain.holds_iff.mpr (Nat.le_of_add_left_le (Nat.le_of_eq holds.symm))
    reserveHolds := Chain.holds_iff.mpr covered }

theorem receive_swaps {switches : Transfer.Switches} {start : Chain} {delivery : Delivery}
    {payload : Payload} {wrapping : Receive.Wrapping Account} {minted locked paid : Bank}
    {totals : Totals} (working : switches.receivesFail = false)
    (carries : Carries start delivery payload)
    (moved :
      Undo.Moved wrapping.receiver wrapping.voucher wrapping.native start.bank minted locked paid)
    (eligible : Receive.Eligible Chain.host
      { start with bank := minted } delivery.packet payload start.settings wrapping)
    (counted : start.totals.recordIn wrapping.native.amount = .ok totals) :
    (swapStack switches).receive delivery start =
      some (⟨(Transfer.accepted payload).extras.push
          (Notice.wrapped (Receive.crossing delivery.packet payload wrapping)).event,
        (Transfer.accepted payload).acknowledgement⟩, { start with bank := paid, totals }) := by
  obtain ⟨named, credited⟩ := received_voucher eligible
  have received : Transfer.receive switches delivery.packet start =
      some (.ok payload, { start with bank := minted }) := by
    refine Transfer.receive_eq_ok.mpr ⟨working, carries.admits.readable, wrapping.receiver, minted,
      eligible.receiver, ?_, rfl⟩
    rw [credited, eligible.arriving, ← named, ← eligible.voucherAmount]
    exact .minted moved.made
  rw [swapStack_receive, Receive.atop_admits (Receive.screen_eq_ok.mpr carries.admits),
    Transfer.application_receive received]
  exact Receive.finish_of_wrap isSuccess_successValue
    (Receive.wrap_swaps eligible moved.taken moved.given counted)

theorem moved_delivered {start : Chain} {delivery : Delivery} {payload : Payload} {native : Amount}
    {minted locked paid : Bank} {totals : Totals} (ready : Ready start)
    (carries : Carries start delivery payload)
    (scaled : Precision.scaleDown payload.amount start.settings.decimalDifference = .ok native)
    (moved : Undo.Moved ⟨payload.receiver⟩ (wrapping start ready.visible payload native).voucher
      (wrapping start ready.visible payload native).native start.bank minted locked paid)
    (counted : start.totals.recordIn native = .ok totals) :
    Delivered start [delivery] paid totals := by
  have amount := carries.vouchers
  have value := carries.worth scaled
  have units := moved.units ready.foreign
  have issued := moved_supply moved
  obtain ⟨more, same⟩ := Totals.recordIn_eq_ok.mp counted
  have single (measure : Delivery → Nat) :
      ([delivery].map measure).sum = measure delivery := by simp
  constructor
  · exact (moved_frozen moved).2.2
  · intro account
    rw [single, single, carries.receiver, ← value]
    exact (units account).2.1
  · intro account
    rw [single, amount]
    exact (units account).1
  · intro account name notNative notVoucher
    exact (units account).2.2 name notVoucher notNative
  · exact issued.others _ ready.foreign
  · rw [single, amount]
    exact issued.even
  · rw [single, ← value]
    exact more
  · exact same

theorem receive_delivers {switches : Transfer.Switches} {start : Chain} {delivery : Delivery}
    {rest : List Delivery} (working : switches.receivesFail = false)
    (deliverable : Deliverable start (delivery :: rest)) :
    ∃ receipt bank totals,
      (swapStack switches).receive delivery start = some (receipt, { start with bank, totals }) ∧
        Wraps start.settings delivery receipt ∧ Delivered start [delivery] bank totals := by
  obtain ⟨ready, each, funded⟩ := deliverable
  obtain ⟨payload, carries⟩ := each delivery List.mem_cons_self
  obtain ⟨converted, scaled⟩ := carries.scaled
  have amount := carries.vouchers
  have value := carries.worth scaled
  have funds := funded.paid
  have sums := funded.counted
  have room := funded.vouchers
  rw [List.map_cons, List.sum_cons] at funds sums room
  have covered : converted.units ≤ start.bank.units Chain.reserve start.nativeDenom := by omega
  obtain ⟨minted, locked, paid, moved⟩ : ∃ minted locked paid,
      Undo.Moved ⟨payload.receiver⟩ (wrapping start ready.visible payload converted).voucher
        (wrapping start ready.visible payload converted).native start.bank minted locked paid := by
    apply moved_exists carries.free ready.reserveFree ready.foreign covered
    · show start.bank.supply start.settings.voucher + payload.amount.units < Amount.bound
      omega
    · exact funded.native
  have fits : start.totals.transferredIn.units + converted.units < Amount.bound := by omega
  have counted : start.totals.recordIn converted = .ok ⟨⟨_, fits⟩, start.totals.transferredOut⟩ :=
    Totals.recordIn_eq_ok.mpr ⟨rfl, rfl⟩
  have eligible := ready.eligible carries scaled moved.made covered
  refine ⟨_, paid, _, receive_swaps working carries moved eligible counted, ?_,
    moved_delivered ready carries scaled moved counted⟩
  refine ⟨Receive.isSuccess_iff.mp isSuccess_successValue,
    Receive.crossing delivery.packet payload (wrapping start ready.visible payload converted),
      ?_, ?_, value⟩
  · exact List.mem_cons_of_mem _ List.mem_cons_self
  · rw [carries.receiver]
    rfl

-- Several deliveries.

theorem Delivered.append {start : Chain} {first second : List Delivery} {bank later : Bank}
    {totals sums : Totals} (one : Delivered start first bank totals)
    (two : Delivered { start with bank, totals } second later sums) :
    Delivered start (first ++ second) later sums := by
  constructor
  · exact two.frozen.trans one.frozen
  · intro account
    have early := one.native account
    have late := two.native account
    simp only [List.map_append, List.sum_append, Bank.share_add]
    dsimp only at late
    omega
  · intro account
    have early := one.voucher account
    have late := two.voucher account
    simp only [List.map_append, List.sum_append, Bank.share_add]
    dsimp only at late
    omega
  · intro account name notNative notVoucher
    exact (two.others account name notNative notVoucher).trans
      (one.others account name notNative notVoucher)
  · exact two.nativeSupply.trans one.nativeSupply
  · have early := one.voucherSupply
    have late := two.voucherSupply
    simp only [List.map_append, List.sum_append]
    dsimp only at late
    omega
  · have early := one.into
    have late := two.into
    simp only [List.map_append, List.sum_append]
    dsimp only at late
    omega
  · exact two.out.trans one.out

theorem Delivered.perm {start : Chain} {first second : List Delivery} {bank : Bank}
    {totals : Totals} (delivered : Delivered start first bank totals)
    (permuted : first.Perm second) :
    Delivered start second bank totals := by
  have sums (measure : Delivery → Nat) : (first.map measure).sum = (second.map measure).sum :=
    (permuted.map measure).sum_nat
  obtain ⟨frozen, native, voucher, others, nativeSupply, voucherSupply, into, out⟩ := delivered
  simp only [sums] at native voucher voucherSupply into
  exact ⟨frozen, native, voucher, others, nativeSupply, voucherSupply, into, out⟩

theorem Delivered.unique {start : Chain} {deliveries : List Delivery} {bank other : Bank}
    {totals sums : Totals} (one : Delivered start deliveries bank totals)
    (two : Delivered start deliveries other sums) :
    other.balance = bank.balance ∧ sums = totals := by
  constructor
  · funext account name
    apply Amount.ext_units
    show other.units account name = bank.units account name
    by_cases native : name = start.nativeDenom
    · subst native
      have first := one.native account
      have second := two.native account
      omega
    by_cases voucher : name = start.settings.voucher
    · subst voucher
      rw [two.voucher, one.voucher]
    · rw [two.others account name native voucher, one.others account name native voucher]
  · have into : sums.transferredIn = totals.transferredIn := by
      apply Amount.ext_units
      rw [two.into, one.into]
    have out : sums.transferredOut = totals.transferredOut := two.out.trans one.out.symm
    cases sums
    cases totals
    simp only at into out
    rw [into, out]

theorem Delivered.deliverable {start : Chain} {delivery : Delivery} {rest : List Delivery}
    {bank : Bank} {totals : Totals} (delivered : Delivered start [delivery] bank totals)
    (deliverable : Deliverable start (delivery :: rest)) :
    Deliverable { start with bank, totals } rest := by
  obtain ⟨ready, each, funded⟩ := deliverable
  have frozen := delivered.frozen
  refine ⟨?_, ?_, ?_⟩
  · exact { ready with reserveFree := by simpa only [frozen] using ready.reserveFree }
  · intro other member
    obtain ⟨payload, carries⟩ := each other (List.mem_cons_of_mem _ member)
    have admits := carries.admits
    exact ⟨payload, {
      admits := ⟨admits.ready, admits.readable, admits.sender, admits.receiver, admits.positive⟩
      wrapped := carries.wrapped
      route := carries.route
      scaled := carries.scaled
      free := by simpa only [frozen] using carries.free }⟩
  · have native := delivered.native Chain.reserve
    have voucher := delivered.voucherSupply
    have supply := delivered.nativeSupply
    have into := delivered.into
    obtain ⟨paid, counted, vouchers, fits⟩ := funded
    simp only [List.map_cons, List.map_nil, List.sum_cons, List.sum_nil, Nat.add_zero,
      Bank.share_self] at *
    constructor <;> dsimp only <;> omega

theorem Deliverable.perm {start : Chain} {first second : List Delivery}
    (deliverable : Deliverable start first) (permuted : first.Perm second) :
    Deliverable start second := by
  have sums (measure : Delivery → Nat) : (first.map measure).sum = (second.map measure).sum :=
    (permuted.map measure).sum_nat
  obtain ⟨ready, each, paid, counted, vouchers, native⟩ := deliverable
  simp only [sums] at paid counted vouchers
  exact ⟨ready, fun delivery member =>
    each delivery (permuted.mem_iff.mpr member), paid, counted, vouchers, native⟩

theorem delivered_nil (start : Chain) : Delivered start [] start.bank start.totals where
  frozen := rfl
  native account := by simp [Bank.share]
  voucher account := by simp [Bank.share]
  others _ _ _ _ := rfl
  nativeSupply := rfl
  voucherSupply := rfl
  into := rfl
  out := rfl

-- By induction on the deliveries; the invariant is that the rest is deliverable still.
theorem deliveries_succeed {switches : Transfer.Switches} (working : switches.receivesFail = false)
    {start : Chain} {deliveries : List Delivery} (deliverable : Deliverable start deliveries) :
    ∃ receipts bank totals,
      deliveries.mapM (swapStack switches).receive start =
        some (receipts, { start with bank, totals }) ∧
        List.Forall₂ (Wraps start.settings) deliveries receipts ∧
        Delivered start deliveries bank totals := by
  induction deliveries generalizing start with
  | nil => exact ⟨[], start.bank, start.totals, rfl, .nil, delivered_nil start⟩
  | cons delivery rest ih =>
      obtain ⟨receipt, bank, totals, received, wraps, delivered⟩ :=
        receive_delivers working deliverable
      obtain ⟨receipts, later, sums, went, others, further⟩ :=
        ih (delivered.deliverable deliverable)
      refine ⟨receipt :: receipts, later, sums, ?_, .cons wraps others, delivered.append further⟩
      rw [List.mapM_cons, Effect.bind_run, received]
      exact Effect.bind_eq_some.mpr ⟨receipts, _, went, rfl⟩

-- The relayers choose the order, so every order of the packets is looked at; the ends of all of
-- them are one.
theorem receipts_commute {switches : Transfer.Switches} (working : switches.receivesFail = false)
    {start : Chain} {deliveries : List Delivery} (deliverable : Deliverable start deliveries) :
    ∃ balances totals, ∀ order, order.Perm deliveries → ∃ receipts bank,
      order.mapM (swapStack switches).receive start = some (receipts, { start with bank, totals }) ∧
        List.Forall₂ (Wraps start.settings) order receipts ∧
        bank.balance = balances ∧ Delivered start deliveries bank totals := by
  obtain ⟨-, first, totals, -, -, delivered⟩ := deliveries_succeed working deliverable
  refine ⟨first.balance, totals, ?_⟩
  intro order permuted
  obtain ⟨receipts, bank, sums, went, wraps, came⟩ :=
    deliveries_succeed working (deliverable.perm permuted.symm)
  have same := came.perm permuted
  obtain ⟨balances, rfl⟩ := delivered.unique same
  exact ⟨receipts, bank, went, wraps, balances, same⟩

def incomingFor (receiver : String) : Payload := { Sample.incoming with receiver }

def sampleDelivery (receiver : String) : Delivery :=
  ⟨{ Sample.packet with data := (incomingFor receiver).bytes }, ""⟩

def sampleDeliveries : List Delivery :=
  [sampleDelivery Sample.incoming.receiver, sampleDelivery Chain.reserve.address]

theorem ten_fits : 10 < Amount.bound := by decide

def sampleChain : Chain :=
  { Sample.openChain with
    bank := Bank.empty.setBalance Chain.reserve Sample.nativeDenom ⟨10, ten_fits⟩ }

theorem sampleChain_nativeEnd :
    Route.isNativeEnd sampleChain.settings Sample.nativeEnd = true := by
  decide

theorem sampleChain_ready : Ready sampleChain where
  enabled := rfl
  configured := by decide
  counterparty endpoint native := by
    rw [Route.isNativeEnd_unique native sampleChain_nativeEnd]
    rfl
  clients endpoint native := by
    rw [Route.isNativeEnd_unique native sampleChain_nativeEnd]
    rfl
  arriving denom endpoint read _ := by
    have known : Denom.ofText sampleChain.settings.wrappedDenom =
        .ok ⟨[], Sample.nativeDenom, Sample.nativeDenom_visible⟩ := by rfl
    rw [known] at read
    cases read
    rfl
  visible := Sample.nativeDenom_visible
  foreign := Ne.symm (Voucher.ofTrace_ne (by decide) _)
  reserveFree := List.not_mem_nil

theorem sampleDelivery_carries {receiver : String}
    (known : ∃ account, Chain.host.account? receiver = some account) :
    Carries sampleChain (sampleDelivery receiver) (incomingFor receiver) where
  admits := {
    ready := ⟨_, rfl, rfl⟩
    readable := by
      have read : Denom.ofText Sample.incoming.denom.text = .ok Sample.incoming.denom := by rfl
      have data : (sampleDelivery receiver).packet.data = (incomingFor receiver).bytes := by
        simp only [sampleDelivery]
      exact Packet.payload?_of_data data read
    sender := by
      show Sample.incoming.sender ≠ ""
      decide
    receiver := known
    positive := by
      show Sample.incoming.amount ≠ .zero
      decide }
  wrapped := rfl
  route := by
    have source : Route.isCounterpartyEnd Sample.settings Sample.counterpartyEnd = true := by decide
    exact (Bool.and_eq_true _ _).mpr ⟨source, sampleChain_nativeEnd⟩
  scaled := by
    refine ⟨⟨5, Sample.five_fits⟩, Precision.scaleDown_eq_ok.mpr ?_⟩
    show 5 = (5 * 10 ^ 12 + 3) / 10 ^ 12 ∧ 0 < 5
    decide
  free := List.not_mem_nil

theorem sampleDeliveries_carry : ∀ delivery ∈ sampleDeliveries,
    ∃ payload, Carries sampleChain delivery payload ∧ payload.amount = Sample.incoming.amount := by
  intro delivery member
  simp only [sampleDeliveries, List.mem_cons, List.not_mem_nil, or_false] at member
  obtain rfl | rfl := member
  · exact ⟨_, sampleDelivery_carries ⟨_, rfl⟩, rfl⟩
  · exact ⟨_, sampleDelivery_carries ⟨_, rfl⟩, rfl⟩

theorem sampleDeliveries_vouchers :
    sampleDeliveries.map vouchers = [5 * 10 ^ 12 + 3, 5 * 10 ^ 12 + 3] := by
  have each : ∀ delivery ∈ sampleDeliveries, vouchers delivery = 5 * 10 ^ 12 + 3 := by
    intro delivery member
    obtain ⟨payload, carries, amount⟩ := sampleDeliveries_carry delivery member
    rw [carries.vouchers, amount]
    rfl
  exact List.map_congr_left each

theorem sampleDeliveries_worth : sampleDeliveries.map (worth sampleChain.settings) = [5, 5] := by
  have same : sampleDeliveries.map (worth sampleChain.settings) =
      (sampleDeliveries.map vouchers).map (· / sampleChain.settings.factor) := by
    rw [List.map_map]
    rfl
  rw [same, sampleDeliveries_vouchers]
  decide

theorem sampleDeliveries_deliverable : Deliverable sampleChain sampleDeliveries where
  ready := sampleChain_ready
  each delivery member := by
    obtain ⟨payload, carries, -⟩ := sampleDeliveries_carry delivery member
    exact ⟨payload, carries⟩
  funded := by
    constructor
    · rw [sampleDeliveries_worth]
      show 10 ≤ sampleChain.bank.units Chain.reserve Sample.nativeDenom
      decide
    · rw [sampleDeliveries_worth]
      show 0 + 10 < Amount.bound
      decide
    · rw [sampleDeliveries_vouchers]
      show sampleChain.bank.supply _ + (10 ^ 13 + 6) < Amount.bound
      decide +kernel
    · decide

theorem receipts_commute_sampleDeliveries :
    ∃ receipts final,
      sampleDeliveries.reverse.mapM (swapStack ⟨false, false⟩).receive sampleChain =
        some (receipts, final) ∧
        List.Forall₂ (Wraps sampleChain.settings) sampleDeliveries.reverse receipts ∧
        final.bank.units Chain.reserve sampleChain.settings.voucher = 10 ^ 13 + 6 ∧
        final.totals.transferredIn.units = 10 := by
  obtain ⟨balances, totals, every⟩ :=
    @receipts_commute ⟨false, false⟩ rfl _ _ sampleDeliveries_deliverable
  obtain ⟨receipts, bank, went, wraps, -, delivered⟩ := every _ (List.reverse_perm sampleDeliveries)
  have before : sampleChain.bank.units Chain.reserve sampleChain.settings.voucher = 0 := by
    decide +kernel
  refine ⟨receipts, _, went, wraps, ?_, ?_⟩
  · show bank.units Chain.reserve sampleChain.settings.voucher = 10 ^ 13 + 6
    rw [delivered.voucher, before, sampleDeliveries_vouchers, Bank.share_self]
    rfl
  · show totals.transferredIn.units = 10
    rw [delivered.into, sampleDeliveries_worth]
    rfl

end Batch

end VoucherSwap
