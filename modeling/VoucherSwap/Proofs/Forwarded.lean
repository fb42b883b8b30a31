import VoucherSwap.Proofs.Session

/-!
Packets that went out as they were. Whether a packet was unwrapped is not kept anywhere; a refund
tells it from the packet, the settings and the balances. Here a refund of a packet that was
forwarded is compared with what the application alone would do. The two agree but in one case: a
user who owns vouchers sends them back over the wrapped channel, under the very denomination that an
unwrap would have written.
-/

namespace VoucherSwap

namespace Forwarded

open Session

/-- A request that has a packet refunded, and the reason that is reported. -/
inductive Refunding (packet : Packet) : Request → String → Prop where
  | timeout (relayer : String) : Refunding packet (.timeout ⟨packet, relayer⟩) Refund.timeoutReason
  | acknowledge (relayer : String) {acknowledgement : Acknowledgement} {message : String}
      (failed : acknowledgement.status? = some (.failure message)) :
      Refunding packet (.acknowledge ⟨packet, relayer⟩ acknowledgement) Refund.acknowledgementReason

/-- What the swap on top adds to what the application did alone: a notice at most. -/
structure LeftAlone (chain : Chain) (alone : Settlement) (restored : Chain)
    (settlement : Settlement) (final : Chain) : Prop where
  result : settlement.result = alone.result
  unrefunded : Unrefunded settlement
  totals : final.totals = chain.totals
  balances : ∀ account name, final.bank.units account name = restored.bank.units account name

/-- A packet that looks as if it had been unwrapped, on a chain that has the coins for the swap and
lets the sender move them. -/
structure Mistaken (chain : Chain) (packet : Packet) (payload : Payload) : Prop where
  configured : chain.settings.configured = true
  enabled : chain.settings.enabled = true
  outbound : payload.denom.text = chain.settings.outboundTrace
  route : Route.goesOut chain.settings packet = true
  visible : Text.isBlank chain.nativeDenom = false
  worth : chain.settings.factor ≤ payload.amount.units
  owned : payload.amount.units ≤ chain.bank.units ⟨payload.sender⟩ chain.settings.voucher
  funded : payload.amount.units / chain.settings.factor ≤
    chain.bank.units Chain.reserve chain.nativeDenom
  free : (⟨payload.sender⟩ : Account) ∉ chain.bank.frozen

theorem Mistaken.restored {chain other : Chain} {packet : Packet} {payload : Payload}
    (mistaken : Mistaken chain packet payload) (settings : other.settings = chain.settings)
    (nativeDenom : other.nativeDenom = chain.nativeDenom)
    (restores : Bank.Restores chain.bank other.bank) :
    Mistaken other packet payload := by
  obtain ⟨configured, enabled, outbound, route, visible, worth, owned, funded, free⟩ := mistaken
  constructor <;> simpa only [settings, nativeDenom, restores.frozen, restores.units]

section

variable {switches : Transfer.Switches} {packet : Packet} {request : Request} {reason : String}
  {chain middle final : Chain} {alone settlement : Settlement}

theorem settled_map {effect : Effect Chain Settlement} :
    (Answer.settled <$> effect) chain = some (.settled settlement, final) ↔
      effect chain = some (settlement, final) := by
  rw [Effect.map_eq_some]
  constructor
  · rintro ⟨value, ran, same⟩
    cases same
    exact ran
  · intro ran
    exact ⟨settlement, ran, rfl⟩

theorem Refunding.alone_iff (refunding : Refunding packet request reason) :
    perform (bareStack switches) request chain = some (.settled alone, middle) ↔
      Transfer.settle switches packet chain = some (alone, middle) := by
  cases refunding with
  | timeout relayer => exact settled_map
  | acknowledge relayer failed =>
      refine settled_map.trans ?_
      show (Transfer.application switches).acknowledge _ chain = _ ↔ _
      rw [Transfer.acknowledge_failure failed]

theorem Refunding.swapped_iff (refunding : Refunding packet request reason) :
    perform (swapStack switches) request chain = some (.settled settlement, final) ↔
      Refund.Refunds Chain.host reason packet
        (fun _ : Unit => Transfer.settle switches packet) () chain
        settlement final := by
  cases refunding with
  | timeout relayer => exact settled_map.trans timeout_eq_some
  | acknowledge relayer failed => exact settled_map.trans (acknowledge_eq_some failed)

variable {payload : Payload} {bank : Bank}

/-- A swap that a refund finds at hand once the application has paid back: it is due, the coins are
there, and the sender may move them. -/
structure AtHand (chain middle : Chain) (packet : Packet) (pending : Refund.Pending Account)
    (voucher native : Coin) : Prop where
  due : Refund.Due Chain.host chain packet chain.settings pending
  exchange : Refund.Exchange Chain.host middle pending voucher native
  free : pending.sender ∉ middle.bank.frozen

theorem Mistaken.atHand (mistaken : Mistaken { chain with bank } packet payload)
    (ready : ∃ channel, Chain.host.channel? chain packet.source = some channel ∧
      channel.state = .open)
    (readable : packet.payload? = some payload)
    (found : Chain.host.account? payload.sender = some ⟨payload.sender⟩) :
    ∃ pending voucher native, AtHand chain { chain with bank } packet pending voucher native := by
  have factor : 0 < chain.settings.factor := Nat.pow_pos (by decide)
  have worth : chain.settings.factor ≤ payload.amount.units := mistaken.worth
  have positive : 0 < payload.amount.units := by omega
  have fits : payload.amount.units < Amount.bound := payload.amount.fits
  refine ⟨⟨⟨payload.sender⟩, payload, chain.settings.decimalDifference⟩,
    ⟨⟨chain.settings.voucher, Voucher.ofTrace_visible _⟩, payload.amount⟩,
    ⟨⟨chain.nativeDenom, mistaken.visible⟩, payload.amount.div ⟨chain.settings.factor, by omega⟩⟩,
    ?_, ?_, mistaken.free⟩
  · exact {
      ready, readable
      named := Chain.account_named found
      sender := found
      positive := Amount.ne_zero_iff.mpr positive
      stored := rfl
      configured := mistaken.configured
      outbound := mistaken.outbound
      route := mistaken.route
      enabled := mistaken.enabled
      difference := rfl }
  · exact {
      scaled := Precision.scaleDown_eq_ok.mpr ⟨rfl, Nat.div_pos worth factor⟩
      voucherDenom := by
        rw [mistaken.outbound]
        rfl
      voucherAmount := rfl
      nativeDenom := rfl
      senderHolds := Chain.holds_iff.mpr mistaken.owned
      reserveHolds := Chain.holds_iff.mpr mistaken.funded }

theorem AtHand.mistaken {pending : Refund.Pending Account} {voucher native : Coin}
    (hand : AtHand chain { chain with bank } packet pending voucher native)
    (readable : packet.payload? = some payload)
    (found : Chain.host.account? payload.sender = some ⟨payload.sender⟩) :
    Mistaken { chain with bank } packet payload := by
  obtain ⟨due, exchange, free⟩ := hand
  have same := due.readable
  rw [readable, Option.some.injEq] at same
  subst same
  have sender := due.sender
  rw [found, Option.some.injEq] at sender
  obtain ⟨quotient, positive⟩ := Precision.scaleDown_eq_ok.mp exchange.scaled
  rw [due.difference] at quotient
  have value :
      native.amount.units = pending.payload.amount.units / chain.settings.factor := quotient
  have name : native.denom.text = chain.nativeDenom := exchange.nativeDenom
  have owned := Chain.holds_iff.mp exchange.senderHolds
  have funded := Chain.holds_iff.mp exchange.reserveHolds
  rw [exchange.voucherDenom, exchange.voucherAmount, due.outbound, ← sender] at owned
  rw [exchange.nativeDenom, value] at funded
  exact {
    configured := due.configured
    enabled := due.enabled
    outbound := due.outbound
    route := due.route
    visible := name ▸ native.denom.visible
    worth := by
      apply Nat.le_of_not_lt
      intro less
      rw [Nat.div_eq_of_lt less] at value
      omega
    owned
    funded
    free := sender ▸ free }

theorem repays_nothing {pending : Refund.Pending Account}
    (unavailable : ∀ voucher native, Refund.Exchange Chain.host chain pending voucher native →
      pending.sender ∈ chain.bank.frozen) (reason : String) :
    ∃ error, Refund.Repays reason pending chain (.error error) chain := by
  cases agreed : Refund.coins Chain.host chain pending with
  | error error => exact ⟨error, .unfunded agreed⟩
  | ok coins =>
      have exchange := Refund.coins_eq_ok.mp agreed
      exact ⟨_, .unlocked exchange (Bank.send_frozen (unavailable _ _ exchange) _ _)⟩

theorem repays_shows {pending : Refund.Pending Account} {voucher native : Coin}
    {outcome : Except Error Notice}
    (exchange : Refund.Exchange Chain.host chain pending voucher native)
    (free : pending.sender ∉ chain.bank.frozen) (positive : pending.payload.amount ≠ .zero)
    (repays : Refund.Repays reason pending chain outcome final) :
    (∃ repayment, outcome = .ok (.refunded repayment)) ∨
      ∃ account name, final.bank.units account name ≠ chain.bank.units account name := by
  cases repays with
  | unfunded refused =>
      rw [Refund.coins_eq_ok.mpr exchange] at refused
      contradiction
  | unlocked other refused =>
      have short := Bank.send_uncovered refused free
      have owned := Chain.holds_iff.mp other.senderHolds
      omega
  | @unpaid voucher native locked error other taken refused =>
      have paid := (Bank.send_sent taken).posted
      have entry := paid.entry pending.sender
      by_cases itself : pending.sender = Chain.reserve
      · -- The reserve pays itself, so it still has what it owes.
        rw [itself] at refused free
        have frozen : Chain.reserve ∉ locked.frozen := by
          rw [paid.frozen]
          exact free
        have short := Bank.send_uncovered refused frozen
        have funded := Chain.holds_iff.mp other.reserveHolds
        change native.amount.units ≤ chain.bank.units Chain.reserve native.denom.text at funded
        rw [itself] at paid
        rw [paid.even] at short
        omega
      · refine .inr ⟨pending.sender, voucher.denom.text, ?_⟩
        have some := Amount.ne_zero_iff.mp positive
        rw [Bank.share_self, Bank.share_of_ne itself, other.voucherAmount] at entry
        dsimp only
        omega
  | repaid other taken given => exact .inl ⟨_, rfl⟩

-- Whatever becomes of a swap at hand, the application is not left alone with the packet.
theorem AtHand.not_leftAlone {pending : Refund.Pending Account} {voucher native : Coin}
    (hand : AtHand chain middle packet pending voucher native)
    (asked : Transfer.settle switches packet chain = some (alone, middle))
    (verdict : alone.result = .ok ())
    (refunds : Refund.Refunds Chain.host reason packet
      (fun _ : Unit => Transfer.settle switches packet) () chain settlement final) :
    ¬ LeftAlone chain alone middle settlement final := by
  intro left
  have prepared := Refund.prepare_eq_ok.mpr ⟨_, hand.due⟩
  have shows {outcome : Except Error Notice}
      (repays : Refund.Repays reason pending middle outcome final) :
        ∃ repayment, outcome = .ok (.refunded repayment) := by
    rcases repays_shows hand.exchange hand.free hand.due.positive repays with
      reported | ⟨account, name, differs⟩
    · exact reported
    · exact absurd (left.balances account name) differs
  cases refunds with
  | skipped skipping again =>
      rw [prepared] at skipping
      contradiction
  | refused _ again failed =>
      rw [asked, Option.some.injEq, Prod.mk.injEq] at again
      rw [← again.1, verdict] at failed
      contradiction
  | failed pends again _ stopped =>
      rw [prepared, Except.ok.injEq] at pends
      rw [asked, Option.some.injEq, Prod.mk.injEq] at again
      rw [← pends, ← again.2] at stopped
      obtain ⟨repayment, wrong⟩ := shows (Refund.repay_eq_some.mp stopped)
      contradiction
  | repaid pends again _ done =>
      rw [prepared, Except.ok.injEq] at pends
      rw [asked, Option.some.injEq, Prod.mk.injEq] at again
      rw [← pends, ← again.2] at done
      obtain ⟨repayment, reported⟩ := shows (Refund.repay_eq_some.mp done)
      cases reported
      exact left.unrefunded repayment (List.mem_append_right _ List.mem_cons_self)

theorem leftAlone_of_not_atHand
    (asked : Transfer.settle switches packet chain = some (alone, middle))
    (nothing : alone.result = .ok () → ∀ pending voucher native,
      ¬ AtHand chain middle packet pending voucher native) (reason : String) :
    ∃ settlement final,
      Refund.Refunds Chain.host reason packet (fun _ : Unit => Transfer.settle switches packet)
        () chain settlement
        final ∧ LeftAlone chain alone middle settlement final := by
  have settles := Transfer.settles asked
  have totals : middle.totals = chain.totals := by rw [settles.bank]
  have silent := settles_unrefunded settles
  cases prepared : Refund.prepare Chain.host chain packet with
  | error skip =>
    exact ⟨_, _, .skipped prepared asked, rfl, unrefunded_push silent skip, totals, fun _ _ => rfl⟩
  | ok pending =>
      cases verdict : alone.result with
      | error error =>
        exact ⟨_, _, .refused prepared asked verdict, rfl, silent, totals, fun _ _ => rfl⟩
      | ok done =>
          obtain ⟨settings, due⟩ := Refund.prepare_eq_ok.mp prepared
          cases due.stored
          have unavailable :
              ∀ voucher native, Refund.Exchange Chain.host middle pending voucher native →
                pending.sender ∈ middle.bank.frozen := by
            intro voucher native exchange
            apply Classical.not_not.mp
            intro free
            exact nothing verdict pending voucher native ⟨due, exchange, free⟩
          obtain ⟨error, repays⟩ := repays_nothing unavailable reason
          exact ⟨_, _, .failed prepared asked verdict (Refund.repay_eq_some.mpr repays), rfl,
            unrefunded_push silent (.ofError error), totals, fun _ _ => rfl⟩

-- The application is asked first in every case; the two differ only behind its answer.
theorem left_alone_iff
    (ready : ∃ channel, Chain.host.channel? chain packet.source = some channel ∧
      channel.state = .open)
    (readable : packet.payload? = some payload)
    (found : Chain.host.account? payload.sender = some ⟨payload.sender⟩)
    (asked : Transfer.settle switches packet chain = some (alone, middle)) (reason : String) :
    (∃ settlement final,
      Refund.Refunds Chain.host reason packet (fun _ : Unit => Transfer.settle switches packet)
        () chain settlement
        final ∧ LeftAlone chain alone middle settlement final) ↔
      ¬ (alone.result = .ok () ∧ Mistaken middle packet payload) := by
  have same := (Transfer.settles asked).bank
  constructor
  · rintro ⟨settlement, final, refunds, left⟩ ⟨verdict, mistaken⟩
    rw [same] at mistaken
    obtain ⟨pending, voucher, native, hand⟩ := mistaken.atHand ready readable found
    rw [← same] at hand
    exact hand.not_leftAlone asked verdict refunds left
  · intro innocent
    apply leftAlone_of_not_atHand asked
    intro verdict pending voucher native hand
    refine innocent ⟨verdict, ?_⟩
    rw [same] at hand ⊢
    exact hand.mistaken readable found

end

/-- A packet that went out as it was, once its coin had been taken. -/
structure Forwards (packet : Packet) (before middle after : Chain) : Prop where
  taken : Transfer.take packet before = some (.ok (), middle)
  bank : after.bank = middle.bank
  ready : ∃ channel, Chain.host.channel? after packet.source = some channel ∧ channel.state = .open
  settings : after.settings = before.settings
  nativeDenom : after.nativeDenom = before.nativeDenom
  sent : after.sent = before.sent ++ [packet]

theorem forwards_of_start {sending : Transfer.Switches} {packet : Packet} {before after : Chain}
    {sequence : UInt64}
    (started : Transfer.start (swapStack sending) packet before = some (.ok sequence, after))
    (untouched : ∀ crossing, after.events ≠ before.events ++ [(Notice.unwrapped crossing).event]) :
    ∃ middle, Forwards packet before middle after := by
  obtain ⟨middle, taken, sends⟩ := start_eq_ok started
  obtain ⟨_, _, _, bank, -, -, -, -, rfl⟩ := Transfer.take_eq_ok.mp taken
  cases sends with
  | forwarded left working => exact ⟨_, taken, rfl, Send.plan_ready left, rfl, rfl, rfl⟩
  | unwrapped unwraps =>
      obtain ⟨-, ⟨_, _, _, _, -, -, -, rfl⟩, -⟩ := unwraps
      exact absurd rfl (untouched _)

theorem Forwards.compared {refunding : Transfer.Switches} {packet : Packet} {payload : Payload}
    {before middle after : Chain} {request : Request} {reason : String}
    (forwards : Forwards packet before middle after) (readable : packet.payload? = some payload)
    (refunds : Refunding packet request reason) :
    ∃ alone restored, perform (bareStack refunding) request after =
      some (.settled alone, restored) ∧
      (alone.result = .ok () ↔ Transfer.Repayable refunding packet payload before.bank) ∧
      (alone.result = .ok () → Bank.Restores before.bank restored.bank) ∧
      ((∃ settlement final, perform (swapStack refunding) request after =
        some (.settled settlement, final) ∧
          LeftAlone after alone restored settlement final) ↔
        ¬ (Transfer.Repayable refunding packet payload before.bank ∧
          Mistaken before packet payload)) := by
  obtain ⟨_, sender, _, _, read, found, -⟩ := Transfer.take_eq_ok.mp forwards.taken
  rw [readable, Option.some.injEq] at read
  subst read
  rw [Chain.account_eq found] at found
  have undone := @Transfer.refund_of_take refunding _ _ _ _ _ forwards.taken forwards.bank readable
  by_cases payable : Transfer.Repayable refunding packet payload before.bank
  · obtain ⟨restored, done, restores⟩ := undone.1 payable
    have asked := Transfer.settle_of_refund done
    refine ⟨_, _, refunds.alone_iff.mpr asked, iff_of_true rfl payable, fun _ => restores, ?_⟩
    simp only [refunds.swapped_iff]
    rw [left_alone_iff forwards.ready readable found asked reason]
    refine not_congr (and_congr (iff_of_true rfl payable) ⟨?_, ?_⟩)
    · exact fun mistaken => mistaken.restored forwards.settings.symm forwards.nativeDenom.symm
        restores.symm
    · exact fun mistaken => mistaken.restored forwards.settings forwards.nativeDenom restores
  · obtain ⟨error, refused⟩ := undone.2 payable
    have asked := Transfer.settle_of_error refused
    have failed : (.error error : Except Error Unit) ≠ .ok () := by simp
    refine ⟨_, _, refunds.alone_iff.mpr asked, iff_of_false failed payable, fun wrong =>
      absurd wrong failed, ?_⟩
    simp only [refunds.swapped_iff]
    rw [left_alone_iff forwards.ready readable found asked reason]
    exact iff_of_true (fun wrong => failed wrong.1) fun wrong => payable wrong.1

-- From the transfer to its refund. The condition is one on the chain before the transfer, which the
-- application restores if it refunds at all.
theorem forwarded_left_alone {sending refunding : Transfer.Switches} {packet : Packet}
    {before after : Chain} {sequence : UInt64} {payload : Payload}
    (started : Transfer.start (swapStack sending) packet before = some (.ok sequence, after))
    (readable : packet.payload? = some payload)
    (untouched : ∀ crossing, after.events ≠ before.events ++ [(Notice.unwrapped crossing).event]) :
    after.sent = before.sent ++ [packet] ∧
      ∀ request reason, Refunding packet request reason →
        ∃ alone restored, perform (bareStack refunding) request after =
          some (.settled alone, restored) ∧
          (alone.result = .ok () ↔ Transfer.Repayable refunding packet payload before.bank) ∧
          (alone.result = .ok () → Bank.Restores before.bank restored.bank) ∧
          ((∃ settlement final, perform (swapStack refunding) request after =
            some (.settled settlement, final) ∧
              LeftAlone after alone restored settlement final) ↔
            ¬ (Transfer.Repayable refunding packet payload before.bank ∧
              Mistaken before packet payload)) := by
  obtain ⟨middle, forwards⟩ := forwards_of_start started untouched
  refine ⟨forwards.sent, ?_⟩
  intro request reason refunds
  exact forwards.compared readable refunds

def samplePayload : Payload :=
  { Sample.outgoing "zig1sender" with
    denom := ⟨[Sample.nativeEnd], Sample.nativeDenom, Sample.nativeDenom_visible⟩
    amount := ⟨5 * 10 ^ 12, Sample.vouchers_fit⟩ }

def samplePacket : Packet := Sample.departing samplePayload

theorem samplePacket_payload? : samplePacket.payload? = some samplePayload := by
  apply Send.payload?_rewritten
  rfl

/-- The sender owns vouchers, the reserve some of the native token. -/
def ownerChain (funds : Amount) : Chain :=
  { Sample.openChain with
    totals := ⟨.zero, ⟨7, by decide⟩⟩
    bank :=
      (Bank.empty.setBalance ⟨samplePayload.sender⟩ Sample.settings.voucher
        samplePayload.amount).setBalance
      Chain.reserve Sample.nativeDenom funds }

set_option maxRecDepth 100000 in
theorem ownerChain_start {funds : Amount} (known : funds = .zero ∨ funds = ⟨5, Sample.five_fits⟩) :
    ∃ after, Transfer.start (swapStack ⟨false, false⟩) samplePacket (ownerChain funds) =
        some (.ok samplePacket.sequence, after) ∧
      after.events = (ownerChain funds).events := by
  have computed :
      ((Transfer.start (swapStack ⟨false, false⟩) samplePacket (ownerChain funds)).map fun step =>
        decide (step.1 = .ok samplePacket.sequence ∧ step.2.events = (ownerChain funds).events)) =
          some true := by
    rcases known with rfl | rfl <;> decide +kernel
  obtain ⟨⟨dispatch, after⟩, started, facts⟩ := Option.map_eq_some_iff.mp computed
  obtain ⟨passed, events⟩ := of_decide_eq_true facts
  have same : dispatch = .ok samplePacket.sequence := passed
  exact ⟨after, same ▸ started, events⟩

theorem untouched_of_events {before after : Chain} (events : after.events = before.events)
    (crossing : Crossing) :
    after.events ≠ before.events ++ [(Notice.unwrapped crossing).event] := by
  rw [events]
  simp

theorem samplePacket_repayable (bank : Bank) :
    Transfer.Repayable ⟨false, false⟩ samplePacket samplePayload bank :=
  ⟨rfl, .inl (by decide)⟩

theorem forwarded_left_alone_ownerChain :
    ∃ after alone restored settlement final,
      Transfer.start (swapStack ⟨false, false⟩) samplePacket (ownerChain .zero) =
        some (.ok samplePacket.sequence, after) ∧
      perform (bareStack ⟨false, false⟩) (.timeout ⟨samplePacket, ""⟩) after =
        some (.settled alone, restored) ∧
      Bank.Restores (ownerChain .zero).bank restored.bank ∧
      perform (swapStack ⟨false, false⟩) (.timeout ⟨samplePacket, ""⟩) after =
        some (.settled settlement, final) ∧
      LeftAlone after alone restored settlement final := by
  obtain ⟨after, started, events⟩ := ownerChain_start (.inl rfl)
  have left := @forwarded_left_alone ⟨false, false⟩
    ⟨false, false⟩ _ _ _ _ _ started samplePacket_payload?
    (untouched_of_events events)
  obtain ⟨alone, restored, asked, paid, restores, same⟩ := left.2 _ _ (.timeout "")
  have innocent : ¬ Mistaken (ownerChain .zero) samplePacket samplePayload := by
    intro mistaken
    exact absurd mistaken.funded (by decide +kernel)
  obtain ⟨settlement, final, performed, alike⟩ := same.mpr fun wrong => innocent wrong.2
  exact ⟨after, alone, restored, settlement, final, started, asked,
    restores (paid.mpr (samplePacket_repayable _)), performed, alike⟩

theorem samplePacket_mistaken :
    Mistaken (ownerChain ⟨5, Sample.five_fits⟩) samplePacket samplePayload where
  configured := by decide
  enabled := rfl
  outbound := by decide
  route := by decide
  visible := by decide
  worth := by decide
  owned := by decide +kernel
  funded := by decide +kernel
  free := by decide

/-- Vouchers that were sent as they were and come back swapped. -/
theorem timeout_swaps_forwarded :
    ∃ after alone restored,
      Transfer.start (swapStack ⟨false, false⟩) samplePacket (ownerChain ⟨5, Sample.five_fits⟩) =
        some (.ok samplePacket.sequence, after) ∧
      after.events = (ownerChain ⟨5, Sample.five_fits⟩).events ∧
      after.sent = (ownerChain ⟨5, Sample.five_fits⟩).sent ++ [samplePacket] ∧
      perform (bareStack ⟨false, false⟩) (.timeout ⟨samplePacket, ""⟩) after =
        some (.settled alone, restored) ∧
      ¬ ∃ settlement final,
        perform (swapStack ⟨false, false⟩) (.timeout ⟨samplePacket, ""⟩) after =
          some (.settled settlement, final) ∧
          LeftAlone after alone restored settlement final := by
  obtain ⟨after, started, events⟩ := ownerChain_start (.inr rfl)
  obtain ⟨middle, forwards⟩ := forwards_of_start started (untouched_of_events events)
  obtain ⟨alone, restored, asked, -, -, same⟩ :=
    @Forwards.compared ⟨false, false⟩ _ _ _ _ _ _ _ forwards samplePacket_payload? (.timeout "")
  refine ⟨after, alone, restored, started, events, forwards.sent, asked, ?_⟩
  rw [same]
  exact fun innocent => innocent ⟨samplePacket_repayable _, samplePacket_mistaken⟩

end Forwarded

end VoucherSwap
