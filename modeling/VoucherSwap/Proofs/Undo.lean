import VoucherSwap.Sample
import VoucherSwap.Proofs.Session

/-!
A refund undoes an unwrap. The two hooks run at different times and share nothing but the packet
that went out, so what the refund needs is read off the unwrap here, and is then used on any later
chain. The application must take the trace that it reads for one with a hop; if it does, it mints
the voucher again, and otherwise it looks for another token in escrow.
-/

namespace VoucherSwap

namespace Undo

/-- A later chain on which nothing stands in the way of a refund. -/
structure Unhindered (before later : Chain) (source : Endpoint) (sender : Account)
    (amount : Amount) :
    Prop where
  settings : later.settings = before.settings
  nativeDenom : later.nativeDenom = before.nativeDenom
  ready : ∃ channel, Chain.host.channel? later source = some channel ∧ channel.state = .open
  senderFree : sender ∉ later.bank.frozen
  reserveFree : Chain.reserve ∉ later.bank.frozen
  funded : amount.units ≤ later.bank.units Chain.reserve before.nativeDenom
  room : later.bank.units sender before.nativeDenom + amount.units < Amount.bound
  voucherRoom : ∀ account ∈ [sender, Chain.reserve],
    later.bank.units account before.settings.voucher + before.settings.factor *
      amount.units < Amount.bound

/-- Everything that a refund changes, and what it answers. -/
structure Undone (payload : Payload) (forwarded : Packet) (reason : String) (later : Chain)
    (settlement : Settlement) (final : Chain) : Prop where
  result : settlement.result = .ok ()
  extras : ∃ carried, forwarded.payload? = some carried ∧
    settlement.extras = ⟨[Transfer.event carried false,
    (Notice.refunded ⟨payload.sender, later.nativeDenom, payload.amount, reason⟩).event], []⟩
  sender : final.bank.units ⟨payload.sender⟩ later.nativeDenom =
    later.bank.units ⟨payload.sender⟩ later.nativeDenom + payload.amount.units
  reserve : final.bank.units Chain.reserve later.nativeDenom + payload.amount.units =
    later.bank.units Chain.reserve later.nativeDenom
  vouchers : final.bank.units Chain.reserve later.settings.voucher =
    later.bank.units Chain.reserve later.settings.voucher + later.settings.factor *
      payload.amount.units
  others : ∀ account name,
    (name = later.nativeDenom → account ≠ ⟨payload.sender⟩ ∧ account ≠ Chain.reserve) →
    (name = later.settings.voucher → account ≠ Chain.reserve) →
    final.bank.units account name = later.bank.units account name
  rest : final = { later with bank := final.bank, totals := later.totals.releaseOut payload.amount }

/-- What a packet that was unwrapped carries in place of its own payload. -/
structure Carries (before : Chain) (source : Endpoint) (payload carried : Payload)
    (voucher native : Coin) :
    Prop where
  configured : before.settings.configured = true
  enabled : before.settings.enabled = true
  nativeEnd : Route.isNativeEnd before.settings source = true
  named : payload.sender ≠ ""
  account : Chain.host.account? payload.sender = some ⟨payload.sender⟩
  denom : Denom.ofText before.settings.outboundTrace = .ok carried.denom
  scaled : Precision.scaleUp payload.amount before.settings.decimalDifference = .ok carried.amount
  sender : carried.sender = payload.sender
  voucherDenom : voucher.denom.text = before.settings.voucher
  voucherAmount : voucher.amount = carried.amount
  nativeDenom : native.denom.text = before.nativeDenom
  nativeAmount : native.amount = payload.amount

theorem carries_of_start {switches : Transfer.Switches} {packet forwarded : Packet}
    {before after : Chain} {sequence : UInt64} {payload : Payload} {crossing : Crossing}
    (started : Transfer.start (Session.swapStack switches) packet before =
      some (.ok sequence, after))
    (readable : packet.payload? = some payload)
    (reported : after.events = before.events ++ [(Notice.unwrapped crossing).event])
    (sent : after.sent = before.sent ++ [forwarded]) :
    ∃ carried voucher native, forwarded = Send.rewritten packet carried ∧
      Carries before packet.source payload carried voucher native := by
  obtain ⟨middle, taken, sends⟩ := Session.start_eq_ok started
  obtain ⟨_, _, _, bank, -, -, -, -, rfl⟩ := Transfer.take_eq_ok.mp taken
  cases sends with
  | forwarded left working => simp at reported
  | @unwrapped order voucher carried _ unwraps =>
      obtain ⟨ordered, ⟨released, locked, burned, totals, collected, -, -, rfl⟩, -⟩ := unwraps
      have other := ordered.readable
      rw [readable, Option.some.injEq] at other
      subst other
      have settings : order.settings = before.settings := (Except.ok.inj ordered.stored).symm
      have converted := collected.converted
      have targeted := ordered.targeted
      rw [Route.isTargeted, Bool.and_eq_true, settings] at targeted
      have trace : Voucher.trace packet.source.port.text packet.source.channel.text
          order.settings.wrappedDenom = before.settings.outboundTrace := by
        rw [Voucher.trace_hop, settings, ← Route.outboundTrace_eq targeted.2]
      have account : Chain.host.account? order.payload.sender = some ⟨order.payload.sender⟩ := by
        rw [ordered.sender, ← Chain.account_address ordered.sender]
      have last : forwarded = Send.rewritten packet carried := by simpa [eq_comm] using sent
      refine ⟨carried, voucher, order.native, last, ?_⟩
      exact {
        configured := settings ▸ ordered.configured
        enabled := settings ▸ ordered.enabled
        nativeEnd := targeted.2
        named := ordered.named
        account
        denom := trace ▸ converted.denom
        scaled := by rw [converted.amount, ← settings]; exact converted.scaled
        sender := converted.sender
        voucherDenom := by rw [converted.voucherDenom, trace]; rfl
        voucherAmount := converted.amount.symm
        nativeDenom := ordered.nativeDenom
        nativeAmount := ordered.nativeAmount }

variable {before later : Chain} {packet : Packet} {payload carried : Payload}
  {voucher native : Coin}

/-- What a mint and two transfers behind it do, the voucher to the reserve and the native coin to
the sender. -/
structure Moved (sender : Account) (voucher native : Coin) (start minted locked paid : Bank) :
    Prop where
  made : start.mint? sender voucher.denom.text voucher.amount = some minted
  taken : minted.send sender Chain.reserve voucher = some (.ok locked)
  given : locked.send Chain.reserve sender native = some (.ok paid)

theorem Moved.units {sender : Account} {start minted locked paid : Bank}
    (moved : Moved sender voucher native start minted locked paid)
    (foreign : native.denom.text ≠ voucher.denom.text) (account : Account) :
    paid.units account voucher.denom.text = start.units account voucher.denom.text +
        Bank.share Chain.reserve voucher.amount.units account ∧
      paid.units account native.denom.text + Bank.share Chain.reserve native.amount.units account =
        start.units account native.denom.text + Bank.share sender native.amount.units account ∧
      ∀ name, name ≠ voucher.denom.text → name ≠ native.denom.text →
        paid.units account name = start.units account name := by
  have made := Bank.mint?_posted moved.made
  have taken := (Bank.send_sent moved.taken).posted
  have given := (Bank.send_sent moved.given).posted
  refine ⟨?_, ?_, ?_⟩
  · rw [given.others account _ (Ne.symm foreign)]
    have minting := made.entry account
    have locking := taken.entry account
    simp only [Bank.nothing] at minting
    omega
  · rw [given.entry account, taken.others account _ foreign, made.others account _ foreign]
  · intro name notVoucher notNative
    rw [given.others account name notNative, taken.others account name notVoucher,
      made.others account name notVoucher]

theorem repays_vouchers {reason : String} {pending : Refund.Pending Account}
    {outcome : Except Error Notice} {middle final : Chain}
    (repays : Refund.Repays reason pending middle outcome final)
    (different : pending.sender ≠ Chain.reserve)
    (foreign : middle.nativeDenom ≠ Voucher.ofTrace pending.payload.denom.text) :
    final.bank.units pending.sender (Voucher.ofTrace pending.payload.denom.text) +
        final.bank.units Chain.reserve (Voucher.ofTrace pending.payload.denom.text) =
      middle.bank.units pending.sender (Voucher.ofTrace pending.payload.denom.text) +
        middle.bank.units Chain.reserve (Voucher.ofTrace pending.payload.denom.text) := by
  have locking {coin : Coin} {locked : Bank}
      (name : coin.denom.text = Voucher.ofTrace pending.payload.denom.text)
        (taken : middle.bank.send pending.sender Chain.reserve coin = some (.ok locked)) :
        locked.units pending.sender (Voucher.ofTrace pending.payload.denom.text) +
            locked.units Chain.reserve (Voucher.ofTrace pending.payload.denom.text) =
          middle.bank.units pending.sender (Voucher.ofTrace pending.payload.denom.text) +
            middle.bank.units Chain.reserve (Voucher.ofTrace pending.payload.denom.text) := by
    have posted := (Bank.send_sent taken).posted
    have paid := posted.entry pending.sender
    have received := posted.entry Chain.reserve
    rw [Bank.share_self, Bank.share_of_ne different, name] at paid
    rw [Bank.share_self, Bank.share_of_ne (Ne.symm different), name] at received
    omega
  cases repays with
  | unfunded refused => rfl
  | unlocked exchange refused => rfl
  | unpaid exchange taken refused => exact locking exchange.voucherDenom taken
  | @repaid _ native _ _ exchange taken given =>
      have posted := (Bank.send_sent given).posted
      have other : Voucher.ofTrace pending.payload.denom.text ≠ native.denom.text := by
        rw [exchange.nativeDenom]
        exact Ne.symm foreign
      have same := locking exchange.voucherDenom taken
      rw [← posted.others pending.sender _ other, ← posted.others Chain.reserve _ other] at same
      exact same

section

variable (carries : Carries before packet.source payload carried voucher native)
include carries

theorem Carries.readable : (Send.rewritten packet carried).payload? = some carried := by
  apply Send.payload?_rewritten
  rw [Denom.text_of_ofText carries.denom]
  exact carries.denom

theorem Carries.units :
    carried.amount.units = before.settings.factor * payload.amount.units ∧
    0 < carried.amount.units := by
  obtain ⟨positive, units⟩ := Precision.scaleUp_eq_ok.mp carries.scaled
  rw [units]
  exact ⟨Nat.mul_comm _ _, Nat.mul_pos positive (Nat.pow_pos (by decide))⟩

variable (unhindered : Unhindered before later packet.source ⟨payload.sender⟩ payload.amount)
include unhindered

-- The hop that the trace keeps is the one the packet left over, so the application mints.
theorem Carries.minted {switches : Transfer.Switches} (keeps : before.settings.KeepsHop)
    (working : switches.refundsFail = false) :
    ∃ bank, later.bank.mint? ⟨payload.sender⟩ voucher.denom.text voucher.amount = some bank ∧
      Transfer.refund switches (Send.rewritten packet carried) later =
        some (.ok carried, { later with bank }) := by
  have room := unhindered.voucherRoom ⟨payload.sender⟩ List.mem_cons_self
  rw [← carries.units.1, ← carries.voucherAmount, ← carries.voucherDenom] at room
  obtain ⟨bank, made⟩ := Bank.mint?_eq_some_of_lt room
  have trace := carries.denom
  rw [Route.outboundTrace_eq carries.nativeEnd] at trace
  have arrived := (Denom.arrivedOver_of_ofText trace).resolve_left (keeps _ carries.denom)
  have name : carried.denom.ledgerName = voucher.denom.text := by
    rw [Denom.ledgerName_of_arrivedOver arrived, Denom.text_of_ofText carries.denom,
      carries.voucherDenom]
    rfl
  refine ⟨bank, made, Transfer.refund_eq_ok.mpr
    ⟨working, carries.readable, ⟨payload.sender⟩, bank, ?_, ?_, rfl⟩⟩
  · rw [carries.sender]
    exact carries.account
  · rw [Send.rewritten_source, arrived, name, ← carries.voucherAmount]
    exact .minted made

theorem Carries.moved {minted : Bank} (coins : native.denom.text ≠ voucher.denom.text)
    (different : (⟨payload.sender⟩ : Account) ≠ Chain.reserve)
    (made : later.bank.mint? ⟨payload.sender⟩ voucher.denom.text voucher.amount = some minted) :
    ∃ locked paid, Moved ⟨payload.sender⟩ voucher native later.bank minted locked paid := by
  have posted := Bank.mint?_posted made
  have taken :
      ∃ locked, minted.send ⟨payload.sender⟩ Chain.reserve voucher = some (.ok locked) := by
    apply Bank.send_eq_ok
    · rw [posted.frozen]
      exact unhindered.senderFree
    · have entry := posted.entry ⟨payload.sender⟩
      rw [Bank.share_self] at entry
      simp only [Bank.nothing] at entry
      omega
    · have entry := posted.entry Chain.reserve
      have room := unhindered.voucherRoom Chain.reserve (by simp)
      rw [← carries.units.1, ← carries.voucherAmount, ← carries.voucherDenom] at room
      rw [Bank.share_of_ne (Ne.symm different)] at entry
      simp only [Bank.nothing] at entry
      omega
  obtain ⟨locked, taken⟩ := taken
  have locking := (Bank.send_sent taken).posted
  have given : ∃ paid, locked.send Chain.reserve ⟨payload.sender⟩ native = some (.ok paid) := by
    apply Bank.send_eq_ok
    · rw [locking.frozen, posted.frozen]
      exact unhindered.reserveFree
    · rw [locking.others _ _ coins, posted.others _ _ coins, carries.nativeAmount,
        carries.nativeDenom]
      exact unhindered.funded
    · rw [locking.others _ _ coins, posted.others _ _ coins, carries.nativeAmount,
        carries.nativeDenom]
      exact unhindered.room
  obtain ⟨paid, given⟩ := given
  exact ⟨locked, paid, made, taken, given⟩

theorem Carries.exchange {minted locked paid : Bank}
    (coins : native.denom.text ≠ voucher.denom.text)
    (moved : Moved ⟨payload.sender⟩ voucher native later.bank minted locked paid) :
    Refund.Exchange Chain.host { later with bank := minted }
      ⟨⟨payload.sender⟩, carried, before.settings.decimalDifference⟩ voucher native where
  scaled := by
    rw [carries.nativeAmount]
    exact Precision.scaleDown_of_scaleUp carries.scaled
  voucherDenom := by
    rw [carries.voucherDenom, Denom.text_of_ofText carries.denom]
    rfl
  voucherAmount := carries.voucherAmount
  nativeDenom := carries.nativeDenom.trans unhindered.nativeDenom.symm
  senderHolds := Chain.holds_iff.mpr (Bank.send_sent moved.taken).covered
  reserveHolds := by
    have covered := (Bank.send_sent moved.given).covered
    rw [(Bank.send_sent moved.taken).posted.others _ _ coins] at covered
    exact Chain.holds_iff.mpr covered

variable (destined : Route.isCounterpartyEnd before.settings packet.destination = true)
include destined

theorem Carries.due :
    Refund.Due Chain.host later (Send.rewritten packet carried) later.settings
      ⟨⟨payload.sender⟩, carried, before.settings.decimalDifference⟩ where
  ready := by
    rw [Send.rewritten_source]
    exact unhindered.ready
  readable := carries.readable
  named := carries.sender ▸ carries.named
  sender := carries.sender ▸ carries.account
  positive := Amount.ne_zero_iff.mpr carries.units.2
  stored := rfl
  configured := unhindered.settings ▸ carries.configured
  outbound := by rw [Denom.text_of_ofText carries.denom, unhindered.settings]
  route := by
    rw [Route.goesOut, Bool.and_eq_true, unhindered.settings, Send.rewritten_source,
      Send.rewritten_destination]
    exact ⟨carries.nativeEnd, destined⟩
  enabled := unhindered.settings ▸ carries.enabled
  difference := by rw [unhindered.settings]

variable (foreign : before.nativeDenom ≠ before.settings.voucher)
  (different : (⟨payload.sender⟩ : Account) ≠ Chain.reserve) {switches : Transfer.Switches}
include foreign different

-- With the hop kept, the refund goes through and undoes the unwrap.
theorem Carries.undone (keeps : before.settings.KeepsHop) (working : switches.refundsFail = false)
    (reason : String) :
    ∃ settlement final,
      Refund.Refunds Chain.host reason (Send.rewritten packet carried)
        (fun _ : Unit => Transfer.settle switches (Send.rewritten packet carried))
        () later settlement final ∧
        Undone payload (Send.rewritten packet carried) reason later settlement final := by
  have coins : native.denom.text ≠ voucher.denom.text := by
    rw [carries.nativeDenom, carries.voucherDenom]
    exact foreign
  obtain ⟨minted, made, refunded⟩ := carries.minted unhindered keeps working
  obtain ⟨locked, paid, moved⟩ := carries.moved unhindered coins different made
  have prepared := Refund.prepare_eq_ok.mpr ⟨_, carries.due unhindered destined⟩
  have asked := Transfer.settle_of_refund refunded
  have repays : Refund.Repays reason _ _ _ _ :=
    .repaid (carries.exchange unhindered coins moved) moved.taken moved.given
  refine ⟨_, _, .repaid prepared asked rfl (Refund.repay_eq_some.mpr repays), ?_⟩
  have units := moved.units coins
  rw [carries.nativeDenom, carries.nativeAmount, carries.voucherDenom, carries.voucherAmount,
    carries.units.1, ← unhindered.nativeDenom, ← unhindered.settings] at units
  exact {
    result := rfl
    extras := by
      refine ⟨carried, carries.readable, ?_⟩
      rw [carries.nativeDenom, carries.nativeAmount, carries.sender, unhindered.nativeDenom]
      rfl
    sender := by
      have paidOut := (units ⟨payload.sender⟩).2.1
      rw [Bank.share_self, Bank.share_of_ne different] at paidOut
      exact paidOut
    reserve := by
      have paidOut := (units Chain.reserve).2.1
      rw [Bank.share_self, Bank.share_of_ne (Ne.symm different)] at paidOut
      exact paidOut
    vouchers := by
      have locking := (units Chain.reserve).1
      rwa [Bank.share_self] at locking
    others := by
      intro account name notNative notVoucher
      by_cases isVoucher : name = later.settings.voucher
      · have locking := (units account).1
        rw [Bank.share_of_ne (notVoucher isVoucher), Nat.add_zero, ← isVoucher] at locking
        exact locking
      by_cases isNative : name = later.nativeDenom
      · have paidOut := (units account).2.1
        obtain ⟨notSender, notReserve⟩ := notNative isNative
        rw [Bank.share_of_ne notSender, Bank.share_of_ne notReserve, ← isNative] at paidOut
        exact paidOut
      · exact (units account).2.2 name isVoucher isNative
    rest := by rw [carries.nativeAmount] }

-- Without a hop nothing mints the voucher again, so there is none to put back into the reserve.
theorem Carries.keepsHop_of_undone {reason : String} {settlement : Settlement} {final : Chain}
    (refunds : Refund.Refunds Chain.host reason (Send.rewritten packet carried)
      (fun _ : Unit => Transfer.settle switches (Send.rewritten packet carried))
      () later settlement final)
    (undone : Undone payload (Send.rewritten packet carried) reason later settlement final) :
    before.settings.KeepsHop := by
  intro denom read trace
  rw [carries.denom, Except.ok.injEq] at read
  subst read
  have still : later.nativeDenom ≠ later.settings.voucher := by
    rw [unhindered.nativeDenom, unhindered.settings]
    exact foreign
  have due := carries.due unhindered destined
  have prepared := Refund.prepare_eq_ok.mpr ⟨_, due⟩
  have worth : 0 < later.settings.factor * payload.amount.units := by
    rw [unhindered.settings, ← carries.units.1]
    exact carries.units.2
  have more := undone.vouchers
  have kept := undone.others ⟨payload.sender⟩ later.settings.voucher
    (fun same => absurd same (Ne.symm still)) (fun _ => different)
  have stuck {outcome : Except Error Notice} {first : Settlement} {middle : Chain}
      (asked : Transfer.settle switches (Send.rewritten packet carried) later =
        some (first, middle))
      (verdict : first.result = .ok ())
      (repays : Refund.Repays reason
        ⟨⟨payload.sender⟩, carried, before.settings.decimalDifference⟩ middle
        outcome final) : False := by
    cases Transfer.settles asked with
    | refused error => contradiction
    | @refunded read _ paid =>
        obtain ⟨bank, rfl, units⟩ := due.refunded paid
        have senderKeeps := units ⟨payload.sender⟩
          (Ne.symm (Chain.escrow_ne_account carries.account _))
        have reserveKeeps := units Chain.reserve (Ne.symm (Chain.escrow_ne_reserve _))
        rw [if_pos trace] at senderKeeps reserveKeeps
        have name : Voucher.ofTrace carried.denom.text = later.settings.voucher := by
          rw [due.outbound]
          rfl
        have moved := repays_vouchers repays different (name ▸ still)
        dsimp only at moved
        rw [name] at moved
        omega
  cases refunds with
  | skipped left asked =>
      rw [prepared] at left
      contradiction
  | refused due asked verdict =>
      have wrong := undone.result
      rw [verdict] at wrong
      contradiction
  | failed due asked verdict stopped =>
      rw [prepared, Except.ok.injEq] at due
      subst due
      exact stuck asked verdict (Refund.repay_eq_some.mp stopped)
  | repaid due asked verdict done =>
      rw [prepared, Except.ok.injEq] at due
      subst due
      exact stuck asked verdict (Refund.repay_eq_some.mp done)

theorem Carries.undone_iff (working : switches.refundsFail = false) (reason : String) :
    (∃ settlement final,
      Refund.Refunds Chain.host reason (Send.rewritten packet carried)
        (fun _ : Unit => Transfer.settle switches (Send.rewritten packet carried))
        () later settlement final ∧
        Undone payload (Send.rewritten packet carried) reason later settlement final) ↔
      before.settings.KeepsHop := by
  constructor
  · rintro ⟨settlement, final, refunds, undone⟩
    exact carries.keepsHop_of_undone unhindered destined foreign different refunds undone
  · intro keeps
    exact carries.undone unhindered destined foreign different keeps working reason

end

open Session

-- From the send to any later chain. What it takes beyond a chain that does not stand in the way is
-- that the trace of the settings keeps its hop when it is read.
theorem refund_undoes_unwrap {sending refunding : Transfer.Switches} {packet forwarded : Packet}
    {before after later : Chain} {sequence : UInt64} {payload : Payload} {crossing : Crossing}
    (started : Transfer.start (swapStack sending) packet before = some (.ok sequence, after))
    (readable : packet.payload? = some payload)
    (reported : after.events = before.events ++ [(Notice.unwrapped crossing).event])
    (sent : after.sent = before.sent ++ [forwarded])
    (foreign : before.nativeDenom ≠ before.settings.voucher)
    (destined : Route.isCounterpartyEnd before.settings packet.destination = true)
    (other : payload.sender ≠ Chain.reserve.address)
    (unhindered : Unhindered before later packet.source ⟨payload.sender⟩ payload.amount)
    (working : refunding.refundsFail = false) :
    (∀ relayer,
      (∃ settlement final,
        (swapStack refunding).timeout ⟨forwarded, relayer⟩ later = some (settlement, final) ∧
          Undone payload forwarded Refund.timeoutReason later settlement final) ↔
            before.settings.KeepsHop) ∧
      ∀ relayer (acknowledgement : Acknowledgement) message,
        acknowledgement.status? = some (.failure message) →
          ((∃ settlement final,
            (swapStack refunding).acknowledge (⟨forwarded, relayer⟩, acknowledgement) later =
                some (settlement, final) ∧
              Undone payload forwarded Refund.acknowledgementReason later settlement final) ↔
            before.settings.KeepsHop) := by
  obtain ⟨carried, voucher, native, rfl, carries⟩ := carries_of_start started readable reported sent
  have different : (⟨payload.sender⟩ : Account) ≠ Chain.reserve := fun same =>
    other (congrArg Account.address same)
  have undoes := carries.undone_iff unhindered destined foreign different working
  constructor
  · intro relayer
    simp only [timeout_eq_some]
    exact undoes Refund.timeoutReason
  · intro relayer acknowledgement message failed
    simp only [acknowledge_eq_some failed]
    exact undoes Refund.acknowledgementReason

def samplePayload : Payload where
  denom := ⟨[], Sample.nativeDenom, Sample.nativeDenom_visible⟩
  amount := ⟨5, Sample.five_fits⟩
  sender := "zig1sender"
  receiver := "cosmos1receiver"
  memo := ""

def samplePacket : Packet :=
  Send.rewritten
    { Sample.packet with source := Sample.nativeEnd, destination := Sample.counterpartyEnd }
    samplePayload

theorem samplePacket_payload? : samplePacket.payload? = some samplePayload := by
  apply Send.payload?_rewritten
  rfl

def forwardedAs (denom : Denom) : Packet :=
  Send.rewritten samplePacket { samplePayload with denom, amount := ⟨5 * 10 ^ 12, by decide⟩ }

def sampleForwarded : Packet :=
  forwardedAs ⟨[Sample.nativeEnd], Sample.nativeDenom, Sample.nativeDenom_visible⟩

def hopForwarded : Packet := forwardedAs ⟨[], Sample.hopBase⟩

def sampleCrossing : Crossing where
  sender := samplePayload.sender
  receiver := samplePayload.receiver
  amount := samplePayload.amount
  denom := Sample.nativeDenom
  source := Sample.nativeEnd
  destination := Sample.counterpartyEnd

def stockedChain (settings : Settings) : Chain :=
  { Sample.openChain with
    settings
    bank := (Bank.empty.setBalance ⟨samplePayload.sender⟩ Sample.nativeDenom
      samplePayload.amount).setBalance Chain.reserve settings.voucher ⟨5 * 10 ^ 12, by decide⟩ }

def sampleChain : Chain := stockedChain Sample.settings

def hopChain : Chain := stockedChain Sample.hopSettings

def Starts (chain : Chain) (forwarded : Packet) (after : Chain) : Prop :=
  Transfer.start (swapStack ⟨false, false⟩) samplePacket chain =
      some (.ok samplePacket.sequence, after) ∧
    after.events = chain.events ++ [(Notice.unwrapped sampleCrossing).event] ∧
    after.sent = chain.sent ++ [forwarded] ∧
    Unhindered chain after samplePacket.source ⟨samplePayload.sender⟩ samplePayload.amount

theorem starts_of_computed {settings : Settings} {forwarded : Packet}
    (computed : ((Transfer.start (swapStack ⟨false, false⟩) samplePacket
      (stockedChain settings)).map fun step =>
        decide (step.1.toOption = some samplePacket.sequence ∧
          step.2.events = [(Notice.unwrapped sampleCrossing).event] ∧
          step.2.sent = [forwarded] ∧ step.2.settings = settings ∧
          step.2.nativeDenom = Sample.nativeDenom ∧
          step.2.channels = Sample.openChain.channels ∧ step.2.bank.frozen = [] ∧
          5 ≤ step.2.bank.units Chain.reserve Sample.nativeDenom ∧
          step.2.bank.units ⟨samplePayload.sender⟩ Sample.nativeDenom = 0 ∧
          ∀ account ∈ [⟨samplePayload.sender⟩, Chain.reserve],
            step.2.bank.units account settings.voucher = 0)) = some true)
    (small : settings.factor * 5 < Amount.bound) :
    ∃ after, Starts (stockedChain settings) forwarded after := by
  obtain ⟨⟨dispatch, after⟩, started, facts⟩ := Option.map_eq_some_iff.mp computed
  obtain ⟨passed, events, sent, same, nativeDenom, channels, frozen, funded, room, voucherRoom⟩ :=
    of_decide_eq_true facts
  cases dispatch with
  | error error => cases passed
  | ok sequence =>
      cases passed
      have nobody (account : Account) : account ∉ after.bank.frozen := by
        rw [show after.bank.frozen = [] from frozen]
        exact List.not_mem_nil
      refine ⟨after, started, events, sent, same, nativeDenom,
        ⟨_, congrArg (Registry.find? · _) channels, rfl⟩, nobody _, nobody _, funded, ?_, ?_⟩
      · show after.bank.units _ Sample.nativeDenom + _ < _
        rw [room]
        decide
      · intro account member
        show after.bank.units account settings.voucher + _ < _
        rw [voucherRoom account member, Nat.zero_add]
        exact small

set_option maxRecDepth 100000 in
theorem sampleChain_starts : ∃ after, Starts sampleChain sampleForwarded after :=
  starts_of_computed (by decide +kernel) (by decide)

set_option maxRecDepth 100000 in
theorem hopChain_starts : ∃ after, Starts hopChain hopForwarded after :=
  starts_of_computed (by decide +kernel) (by decide)

theorem refund_undoes_unwrap_sampleChain :
    ∃ after, Transfer.start (swapStack ⟨false, false⟩) samplePacket sampleChain =
        some (.ok samplePacket.sequence, after) ∧
      ∃ settlement final, (swapStack ⟨false, false⟩).timeout ⟨sampleForwarded, ""⟩ after =
          some (settlement, final) ∧
        Undone samplePayload sampleForwarded Refund.timeoutReason after settlement final := by
  obtain ⟨after, started, events, sent, unhindered⟩ := sampleChain_starts
  have foreign : sampleChain.nativeDenom ≠ sampleChain.settings.voucher :=
    Ne.symm (Voucher.ofTrace_ne (by decide) _)
  have working : Transfer.Switches.refundsFail ⟨false, false⟩ = false := rfl
  have undoes := refund_undoes_unwrap started samplePacket_payload? events sent foreign (by decide)
    (by decide) unhindered working
  exact ⟨after, started, (undoes.1 "").mpr Sample.settings_keepsHop⟩

/-- An unwrap whose timeout is not undone, on the very chain that it left. -/
theorem timeout_loses_unwrap :
    ∃ after, Transfer.start (swapStack ⟨false, false⟩) samplePacket hopChain =
        some (.ok samplePacket.sequence, after) ∧
      samplePacket.payload? = some samplePayload ∧ samplePayload.denom.hops = [] ∧
      samplePayload.denom.text = hopChain.nativeDenom ∧
      hopChain.nativeDenom ≠ hopChain.settings.voucher ∧
      after.events = hopChain.events ++ [(Notice.unwrapped sampleCrossing).event] ∧
      after.sent = hopChain.sent ++ [hopForwarded] ∧
      Unhindered hopChain after samplePacket.source ⟨samplePayload.sender⟩ samplePayload.amount ∧
      ¬ ∃ settlement final, (swapStack ⟨false, false⟩).timeout ⟨hopForwarded, ""⟩ after =
          some (settlement, final) ∧
        Undone samplePayload hopForwarded Refund.timeoutReason after settlement final := by
  obtain ⟨after, started, events, sent, unhindered⟩ := hopChain_starts
  have foreign : hopChain.nativeDenom ≠ hopChain.settings.voucher := Sample.hopSettings_foreign
  refine ⟨after, started, samplePacket_payload?, rfl, rfl, foreign, events, sent, unhindered, ?_⟩
  obtain ⟨carried, voucher, native, same, carries⟩ :=
    carries_of_start started samplePacket_payload? events sent
  have undoes := carries.undone_iff unhindered (by decide) foreign (by decide)
    (rfl : Transfer.Switches.refundsFail ⟨false, false⟩ = false) Refund.timeoutReason
  simp only [timeout_eq_some]
  rw [same, undoes]
  exact Sample.hopSettings_loses_hop

end Undo

end VoucherSwap
