import VoucherSwap.Proofs.Cover
import VoucherSwap.Proofs.Swap
import VoucherSwap.Proofs.Transparency
import VoucherSwap.Proofs.Undo

/-!
The endings of a packet that came back. If a swap is to be taken back and the application has
refunded the packet, both coins are moved and the total is lowered, or the voucher gets into the
reserve and nothing comes out of it, or the chain stays as the application left it. The sender has
to have the voucher for it, which it has from the application if the token has a trace, and
otherwise only if it had it before.
-/

namespace VoucherSwap

namespace Return

open Session Forwarded Swap

/-- A packet that was unwrapped on its way out, as far as the packet and the chain tell. -/
structure Owed (chain : Chain) (packet : Packet) (payload : Payload) : Prop where
  ready : ∃ channel, chain.channels.find? packet.source = some channel ∧ channel.state = .open
  readable : packet.payload? = some payload
  sender : Account.ofAddress? payload.sender = some ⟨payload.sender⟩
  positive : payload.amount ≠ .zero
  configured : chain.settings.configured = true
  enabled : chain.settings.enabled = true
  outbound : payload.denom.text = chain.settings.outboundTrace
  route : Route.goesOut chain.settings packet = true

def pending (chain : Chain) (payload : Payload) : Refund.Pending Account :=
  ⟨⟨payload.sender⟩, payload, chain.settings.decimalDifference⟩

/-- The exchange can be made, and the sender has the vouchers for it. -/
structure Payable (chain : Chain) (payload : Payload) :
    Prop extends Affordable chain ⟨payload.sender⟩ payload where
  held : payload.amount.units ≤ chain.bank.units ⟨payload.sender⟩ chain.settings.voucher

inductive Ending where
  | repaid
  | stranded
  | untouched
  deriving DecidableEq

/-- The condition of each ending, on the chain as the application left it. -/
def Ending.Due (chain : Chain) (payload : Payload) : Ending → Prop
  | .repaid => Payable chain payload ∧ Chain.reserve ∉ chain.bank.frozen
  | .stranded => Payable chain payload ∧ Chain.reserve ∈ chain.bank.frozen
  | .untouched => ¬ Payable chain payload

/-- What each ending makes of the chain, and the notice that tells it. -/
inductive Ending.Reached (reason : String) (chain : Chain) (payload : Payload) :
    Ending → Notice → Chain → Prop where
  | repaid {bank : Bank} {totals : Totals}
      (moved : chain.bank.Transferred bank
        [taken chain ⟨payload.sender⟩ payload, given chain ⟨payload.sender⟩ payload])
      (out : totals.transferredOut.units = chain.totals.transferredOut.units -
        min (worth chain.settings payload).units chain.totals.transferredOut.units)
      (into : totals.transferredIn = chain.totals.transferredIn) :
      Reached reason chain payload .repaid
        (.refunded ⟨payload.sender, chain.nativeDenom, worth chain.settings payload, reason⟩)
        { chain with bank, totals }
  | stranded {bank : Bank} (message : String)
      (moved : chain.bank.Transferred bank [taken chain ⟨payload.sender⟩ payload]) :
      Reached reason chain payload .stranded (.failure message) { chain with bank }
  | untouched (message : String) : Reached reason chain payload .untouched (.failure message) chain

section

variable {chain : Chain} {packet : Packet} {payload : Payload} {reason : String}

theorem owed_iff : Owed chain packet payload ↔
    Refund.Due Chain.host chain packet chain.settings (pending chain payload) := by
  constructor
  · intro owed
    have sender : Chain.host.account? payload.sender = some ⟨payload.sender⟩ := owed.sender
    exact ⟨owed.ready, owed.readable, Chain.account_named sender, sender, owed.positive, rfl,
      owed.configured, owed.outbound, owed.route, owed.enabled, rfl⟩
  · intro due
    exact ⟨due.ready, due.readable, due.sender, due.positive, due.configured, due.enabled,
      due.outbound, due.route⟩

theorem eq_pending {settings : Settings} {swap : Refund.Pending Account}
    (due : Refund.Due Chain.host chain packet settings swap) :
    swap = pending chain swap.payload ∧ settings = chain.settings := by
  obtain ⟨sender, payload, difference⟩ := swap
  have same : settings = chain.settings := (Except.ok.inj due.stored).symm
  have account := Chain.account_eq due.sender
  have places := due.difference
  subst same
  dsimp only at account places
  rw [account, places]
  exact ⟨rfl, rfl⟩

theorem existsUnique_due : ∃! ending : Ending, ending.Due chain payload := by
  by_cases payable : Payable chain payload
  · by_cases frozen : Chain.reserve ∈ chain.bank.frozen
    · refine ⟨.stranded, ⟨payable, frozen⟩, ?_⟩
      intro ending due
      cases ending with
      | stranded => rfl
      | repaid => exact absurd frozen due.2
      | untouched => exact absurd payable due
    · refine ⟨.repaid, ⟨payable, frozen⟩, ?_⟩
      intro ending due
      cases ending with
      | repaid => rfl
      | stranded => exact absurd due.2 frozen
      | untouched => exact absurd payable due
  · refine ⟨.untouched, payable, ?_⟩
    intro ending due
    cases ending with
    | untouched => rfl
    | repaid | stranded => exact absurd due.1 payable

section

variable (outbound : payload.denom.text = chain.settings.outboundTrace)
include outbound

theorem Payable.exchange (payable : Payable chain payload)
    (visible : Text.isBlank chain.nativeDenom = false) :
    Refund.Exchange Chain.host chain (pending chain payload) (voucher chain.settings payload)
      (native chain visible payload) where
  scaled := Precision.scaleDown_eq_ok.mpr ⟨rfl, payable.positive⟩
  voucherDenom := congrArg Voucher.ofTrace outbound.symm
  voucherAmount := rfl
  nativeDenom := rfl
  senderHolds := Chain.holds_iff.mpr payable.held
  reserveHolds := Chain.holds_iff.mpr payable.covered

theorem payable_of_exchange {voucher native : Coin}
    (exchange : Refund.Exchange Chain.host chain (pending chain payload) voucher native)
    (free : (⟨payload.sender⟩ : Account) ∉ chain.bank.frozen) : Payable chain payload := by
  obtain ⟨units, positive⟩ := Precision.scaleDown_eq_ok.mp exchange.scaled
  have covered := Chain.holds_iff.mp exchange.reserveHolds
  have held := Chain.holds_iff.mp exchange.senderHolds
  have name : voucher.denom.text = chain.settings.voucher :=
    exchange.voucherDenom.trans (congrArg Voucher.ofTrace outbound)
  rw [exchange.nativeDenom, units] at covered
  rw [name, exchange.voucherAmount] at held
  rw [units] at positive
  exact {
    difference := Precision.difference_le_of_scaleDown exchange.scaled
    positive
    covered
    free
    held }

theorem unpayable_repays (unpayable : ¬ Payable chain payload) :
    ∃ error, Refund.Repays reason (pending chain payload) chain (.error error) chain := by
  cases quoted : Refund.coins Chain.host chain (pending chain payload) with
  | error error => exact ⟨error, .unfunded quoted⟩
  | ok coins =>
      have exchange := Refund.coins_eq_ok.mp quoted
      have frozen : (⟨payload.sender⟩ : Account) ∈ chain.bank.frozen := by
        by_contra free
        exact unpayable (payable_of_exchange outbound exchange free)
      exact ⟨_, .unlocked exchange (Bank.send_frozen frozen Chain.reserve coins.1)⟩

theorem Ending.Due.reached {ending : Ending} (due : ending.Due chain payload)
    (visible : Text.isBlank chain.nativeDenom = false)
    (foreign : chain.nativeDenom ≠ chain.settings.voucher)
    (roomy : Payable chain payload → Roomy chain ⟨payload.sender⟩ payload) (reason : String) :
    ∃ outcome after, Refund.Repays reason (pending chain payload) chain outcome after ∧
      ending.Reached reason chain payload (Refund.told outcome) after := by
  have exchangeable (payable : Payable chain payload) :
      chain.bank.Exchangeable ⟨payload.sender⟩ (voucher chain.settings payload)
        (native chain visible payload) :=
    payable.toAffordable.exchangeable payable.held visible foreign (roomy payable)
  cases ending with
  | untouched =>
      obtain ⟨error, repays⟩ := unpayable_repays outbound due
      exact ⟨_, _, repays, .untouched _⟩
  | stranded =>
      obtain ⟨payable, frozen⟩ := due
      obtain ⟨locked, error, taken, refused, moved⟩ := (exchangeable payable).stranded frozen
      exact ⟨_, _, .unpaid (payable.exchange outbound visible) taken refused, .stranded _ moved⟩
  | repaid =>
      obtain ⟨payable, free⟩ := due
      obtain ⟨locked, paid, taken, given, moved⟩ := (exchangeable payable).exchanged free
      refine ⟨_, _, .repaid (payable.exchange outbound visible) taken given, .repaid moved ?_ rfl⟩
      show chain.totals.transferredOut.units - (worth chain.settings payload).units = _
      omega

end

def Ending.progress : Ending → Progress
  | .repaid => .full
  | .stranded => .half
  | .untouched => .none

theorem Ending.progress_inj {first second : Ending} (same : first.progress = second.progress) :
    first = second := by
  cases first <;> cases second <;> simp_all [Ending.progress]

theorem Ending.Reached.moved {ending : Ending} {notice : Notice} {after : Chain}
    (reached : ending.Reached reason chain payload notice after) :
    chain.bank.Transferred after.bank (ending.progress.moves chain ⟨payload.sender⟩ payload) := by
  cases reached with
  | repaid moved out into => exact moved
  | stranded message moved => exact moved
  | untouched message => exact .refl _

theorem Ending.Reached.unique {ending seen : Ending} {notice : Notice} {after : Chain}
    (due : ending.Due chain payload) (reached : ending.Reached reason chain payload notice after)
    (other : seen.Reached reason chain payload notice after) (positive : payload.amount ≠ .zero)
    (sender : (⟨payload.sender⟩ : Account) ≠ Chain.reserve)
    (foreign : chain.nativeDenom ≠ chain.settings.voucher) :
    seen = ending := by
  have valued (some : ending.progress ≠ .none) : 0 < (worth chain.settings payload).units := by
    cases ending with
    | repaid | stranded => exact due.1.positive
    | untouched => exact absurd rfl some
  exact Ending.progress_inj
    (Progress.unique sender foreign
      (Amount.ne_zero_iff.mp positive) valued reached.moved other.moved)

end

section

variable {switches : Transfer.Switches} {packet : Packet} {payload : Payload} {request : Request}
  {reason : String} {before middle : Chain} {alone : Settlement}

-- Whether the sender has the vouchers is a question of the trace, or else of what the sender had
-- before.
theorem held_iff (owed : Owed before packet payload)
    (asked : Transfer.settle switches packet before = some (alone, middle))
    (verdict : alone.result = .ok ()) :
    payload.amount.units ≤ middle.bank.units ⟨payload.sender⟩ middle.settings.voucher ↔
      payload.denom.hops ≠ [] ∨
      payload.amount.units ≤ before.bank.units ⟨payload.sender⟩ before.settings.voucher := by
  obtain ⟨bank, rfl⟩ : ∃ bank, middle = { before with bank } := ⟨_, (Transfer.settles asked).bank⟩
  exact (owed_iff.mp owed).holds_iff (Transfer.refund_of_settle asked verdict owed.readable)

theorem refunds_told {swap : Refund.Pending Account} {outcome : Except Error Notice} {after : Chain}
    (prepared : Refund.prepare Chain.host before packet = .ok swap)
    (asked : Transfer.settle switches packet before = some (alone, middle))
    (verdict : alone.result = .ok ()) (repays : Refund.Repays reason swap middle outcome after) :
    Refund.Refunds Chain.host reason packet
      (fun _ : Unit => Transfer.settle switches packet) () before
      (alone.noted (Refund.told outcome)) after := by
  have ran := Refund.repay_eq_some.mpr repays
  cases outcome with
  | error error => exact .failed prepared asked verdict ran
  | ok notice => exact .repaid prepared asked verdict ran

/-- What a request that has a packet refunded comes to, behind the application's answer. -/
structure Ends (switches : Transfer.Switches) (request : Request) (reason : String)
    (before middle : Chain) (alone : Settlement) (payload : Payload) : Prop where
  single : ∃! ending : Ending, ending.Due middle payload
  ends : ∃ notice after,
    perform (swapStack switches) request before = some (.settled (alone.noted notice), after) ∧
      ∀ ending : Ending, ending.Due middle payload ↔
        ending.Reached reason middle payload notice after
  held : payload.amount.units ≤ middle.bank.units ⟨payload.sender⟩ middle.settings.voucher ↔
    payload.denom.hops ≠ [] ∨
    payload.amount.units ≤ before.bank.units ⟨payload.sender⟩ before.settings.voucher
  traced : before.settings.KeepsHop → payload.denom.hops ≠ []

-- The application goes first and is the same with the swap and without. If it failed, or if there
-- is no swap to take back, nothing else moves.
theorem return_ends (refunding : Refunding packet request reason)
    (asked : perform (bareStack switches) request before = some (.settled alone, middle))
    (visible : Text.isBlank before.nativeDenom = false)
    (foreign : before.nativeDenom ≠ before.settings.voucher)
    (other : ∀ payload, Owed before packet payload → payload.sender ≠ Chain.reserve.address)
    (roomy : ∀ payload, Owed before packet payload → Payable middle payload →
      Roomy middle ⟨payload.sender⟩ payload) :
    ((∀ payload, ¬ Owed before packet payload) → ∃ skip : Skip,
        perform (swapStack switches) request before =
          some (.settled (alone.noted skip.notice), middle)) ∧
      ∀ payload, Owed before packet payload →
        (∀ error, alone.result = .error error →
          perform (swapStack switches) request before = some (.settled alone, middle)) ∧
        (alone.result = .ok () → Ends switches request reason before middle alone payload) := by
  have settled := refunding.alone_iff.mp asked
  constructor
  · intro unowed
    cases prepared : Refund.prepare Chain.host before packet with
    | error skip => exact ⟨skip, refunding.swapped_iff.mpr (.skipped prepared settled)⟩
    | ok swap =>
        obtain ⟨settings, due⟩ := Refund.prepare_eq_ok.mp prepared
        obtain ⟨same, rfl⟩ := eq_pending due
        exact absurd (owed_iff.mpr (same ▸ due)) (unowed swap.payload)
  · intro payload owed
    have prepared := Refund.prepare_eq_ok.mpr ⟨_, owed_iff.mp owed⟩
    refine ⟨fun error refused => refunding.swapped_iff.mpr (.refused prepared settled refused), ?_⟩
    intro verdict
    have held := held_iff owed settled verdict
    obtain ⟨bank, rfl⟩ : ∃ bank, middle = { before with bank } :=
      ⟨_, (Transfer.settles settled).bank⟩
    have outbound : payload.denom.text = { before with bank }.settings.outboundTrace :=
      owed.outbound
    obtain ⟨ending, due, unique⟩ := @existsUnique_due { before with bank } payload
    obtain ⟨outcome, after, repays, reached⟩ :=
      due.reached outbound visible foreign (roomy payload owed) reason
    have sender : (⟨payload.sender⟩ : Account) ≠ Chain.reserve :=
      fun same => other payload owed (congrArg Account.address same)
    exact {
      single := ⟨ending, due, unique⟩
      ends := by
        refine ⟨_, after, refunding.swapped_iff.mpr
          (refunds_told prepared settled verdict repays), ?_⟩
        intro seen
        constructor
        · intro dueToo
          rw [unique seen dueToo]
          exact reached
        · intro reachedToo
          rw [reached.unique due reachedToo owed.positive sender foreign]
          exact due
      held
      traced := Cover.due_traced (owed_iff.mp owed) }

end

/-- The application refunded a packet, and the exchange for it can be made as far as the reserve is
concerned. -/
structure Settled (before : Chain) (packet : Packet) (payload : Payload) (alone : Settlement)
    (middle : Chain) :
    Prop where
  settled : Transfer.settle ⟨false, false⟩ packet before = some (alone, middle)
  verdict : alone.result = .ok ()
  free : Chain.reserve ∉ middle.bank.frozen
  affordable : Affordable middle ⟨payload.sender⟩ payload
  roomy : Roomy middle ⟨payload.sender⟩ payload

def exchanges (before : Chain) (payload : Payload) (step : Settlement × Chain) : Bool :=
  decide (step.1.result = .ok () ∧ step.2.bank.frozen = [] ∧
    before.settings.decimalDifference.toNat ≤ Precision.maxDifference.toNat ∧
    1 ≤ (worth before.settings payload).units ∧
    (worth before.settings payload).units ≤ step.2.bank.units Chain.reserve before.nativeDenom ∧
    step.2.bank.units Chain.reserve before.settings.voucher + payload.amount.units < Amount.bound ∧
    step.2.bank.units ⟨payload.sender⟩ before.nativeDenom + (worth before.settings payload).units <
      Amount.bound)

theorem settled_of_computed {before : Chain} {packet : Packet} {payload : Payload}
    (computed : (Transfer.settle ⟨false, false⟩ packet before).map
      (exchanges before payload) = some true) :
    ∃ alone middle, Settled before packet payload alone middle := by
  obtain ⟨⟨alone, middle⟩, settled, facts⟩ := Option.map_eq_some_iff.mp computed
  obtain ⟨verdict, thawed, difference, positive, covered, vouchers, natives⟩ :=
    of_decide_eq_true facts
  obtain ⟨bank, rfl⟩ : ∃ bank, middle = { before with bank } := ⟨_, (Transfer.settles settled).bank⟩
  have nobody (account : Account) : account ∉ bank.frozen := by
    rw [show bank.frozen = [] from thawed]
    exact List.not_mem_nil
  exact ⟨alone, _, settled, verdict, nobody _, ⟨difference, positive, covered, nobody _⟩, vouchers,
    fun _ => natives⟩

def paidChain : Chain := ownerChain ⟨5, Sample.five_fits⟩

theorem samplePacket_owed : Owed paidChain samplePacket samplePayload where
  ready := ⟨_, rfl, rfl⟩
  readable := samplePacket_payload?
  sender := rfl
  positive := by decide
  configured := by decide
  enabled := rfl
  outbound := by decide
  route := by decide

set_option maxRecDepth 100000 in
theorem paidChain_settled :
    ∃ alone middle, Settled paidChain samplePacket samplePayload alone middle :=
  settled_of_computed (by decide +kernel)

theorem return_ends_paidChain :
    ∃ alone middle notice after,
      perform (bareStack ⟨false, false⟩) (.timeout ⟨samplePacket, ""⟩) paidChain =
        some (.settled alone, middle) ∧
      perform (swapStack ⟨false, false⟩) (.timeout ⟨samplePacket, ""⟩) paidChain =
        some (.settled (alone.noted notice), after) ∧
      Ending.repaid.Reached Refund.timeoutReason middle samplePayload notice after := by
  obtain ⟨alone, middle, settled, verdict, free, affordable, roomy⟩ := paidChain_settled
  have only (payload : Payload) (other : Owed paidChain samplePacket payload) :
      payload = samplePayload := by
    have readable := other.readable
    rw [samplePacket_payload?, Option.some.injEq] at readable
    exact readable.symm
  have refunding :
      Refunding samplePacket (.timeout ⟨samplePacket, ""⟩) Refund.timeoutReason := .timeout ""
  have asked := refunding.alone_iff.mpr settled
  have ends := ((return_ends refunding asked Sample.nativeDenom_visible Sample.fundedChain_foreign
    (fun payload other => only payload other ▸ by decide)
    (fun payload other _ => only payload other ▸ roomy)).2 samplePayload samplePacket_owed).2
      verdict
  obtain ⟨notice, after, performed, reached⟩ := ends.ends
  have held := ends.held.mpr (.inl (ends.traced Sample.settings_keepsHop))
  exact ⟨alone, middle, notice, after, asked, performed,
    (reached .repaid).mp ⟨⟨affordable, held⟩, free⟩⟩

/-- The tokens that the sample packet is going to name are in escrow, without a packet that brought
them there. -/
def depositChain : Chain :=
  { Undo.hopChain with
    bank := Undo.hopChain.bank.setBalance (Chain.escrow Sample.nativeEnd) Sample.hopBase.text
      ⟨5 * 10 ^ 12, Sample.vouchers_fit⟩ }

def depositPayload : Payload :=
  { Undo.samplePayload with
    denom := ⟨[], Sample.hopBase⟩
    amount := ⟨5 * 10 ^ 12, Sample.vouchers_fit⟩ }

theorem hopForwarded_owed {chain : Chain} (settings : chain.settings = Sample.hopSettings)
    (channels : chain.channels = Sample.hopChain.channels) :
    Owed chain Undo.hopForwarded depositPayload where
  ready := by
    rw [channels]
    exact ⟨_, rfl, rfl⟩
  readable := Send.payload?_rewritten _ rfl
  sender := rfl
  positive := by decide
  configured := by
    rw [settings]
    decide
  enabled := by
    rw [settings]
    rfl
  outbound := by
    rw [settings]
    decide
  route := by
    rw [settings]
    decide

set_option maxRecDepth 100000 in
theorem depositChain_start :
    ∃ after alone middle, Transfer.start (swapStack ⟨false, false⟩) Undo.samplePacket depositChain =
        some (.ok Undo.samplePacket.sequence, after) ∧
      after.sent = depositChain.sent ++ [Undo.hopForwarded] ∧ after.settings = Sample.hopSettings ∧
      after.nativeDenom = Sample.nativeDenom ∧ after.channels = Sample.hopChain.channels ∧
      after.bank.units ⟨depositPayload.sender⟩ Sample.hopSettings.voucher = 0 ∧
      Settled after Undo.hopForwarded depositPayload alone middle := by
  have computed :
      ((Transfer.start (swapStack ⟨false, false⟩) Undo.samplePacket depositChain).bind fun step =>
        (Transfer.settle ⟨false, false⟩ Undo.hopForwarded step.2).map fun inner =>
          decide (step.1 = .ok Undo.samplePacket.sequence ∧
            step.2.sent = depositChain.sent ++ [Undo.hopForwarded] ∧
            step.2.settings = Sample.hopSettings ∧ step.2.nativeDenom = Sample.nativeDenom ∧
            step.2.channels = Sample.hopChain.channels ∧
            step.2.bank.units ⟨depositPayload.sender⟩ Sample.hopSettings.voucher = 0) &&
          exchanges step.2 depositPayload inner) = some true := by
    decide +kernel
  obtain ⟨⟨dispatch, after⟩, started, rest⟩ := Option.bind_eq_some_iff.mp computed
  obtain ⟨inner, settled, tested⟩ := Option.map_eq_some_iff.mp rest
  obtain ⟨facts, exchanged⟩ := Bool.and_eq_true_iff.mp tested
  obtain ⟨passed, sent, settings, nativeDenom, channels, vouchers⟩ := of_decide_eq_true facts
  obtain ⟨alone, middle, done⟩ :=
    settled_of_computed (Option.map_eq_some_iff.mpr ⟨inner, settled, exchanged⟩)
  have same : dispatch = .ok Undo.samplePacket.sequence := passed
  exact ⟨after, alone, middle, same ▸ started, sent, settings, nativeDenom, channels,
    vouchers, done⟩

/-- An unwrap that comes back: nothing is missing but the vouchers, which the application does not
mint again. -/
theorem timeout_repays_nobody :
    ∃ after alone middle, Transfer.start (swapStack ⟨false, false⟩) Undo.samplePacket depositChain =
        some (.ok Undo.samplePacket.sequence, after) ∧
      after.sent = depositChain.sent ++ [Undo.hopForwarded] ∧
      Owed after Undo.hopForwarded depositPayload ∧ Text.isBlank after.nativeDenom = false ∧
      after.nativeDenom ≠ after.settings.voucher ∧ depositPayload.sender ≠ Chain.reserve.address ∧
      perform (bareStack ⟨false, false⟩) (.timeout ⟨Undo.hopForwarded, ""⟩) after =
        some (.settled alone, middle) ∧
      alone.result = .ok () ∧ Affordable middle ⟨depositPayload.sender⟩ depositPayload ∧
      Roomy middle ⟨depositPayload.sender⟩ depositPayload ∧ Chain.reserve ∉ middle.bank.frozen ∧
      ¬ ∃ notice final,
        perform (swapStack ⟨false, false⟩) (.timeout ⟨Undo.hopForwarded, ""⟩) after =
          some (.settled (alone.noted notice), final) ∧
        Ending.repaid.Reached Refund.timeoutReason middle depositPayload notice final := by
  obtain ⟨after, alone, middle, started, sent, settings, nativeDenom, channels, vouchers, done⟩ :=
    depositChain_start
  obtain ⟨settled, verdict, free, affordable, roomy⟩ := done
  have owed := hopForwarded_owed settings channels
  have foreign : after.nativeDenom ≠ after.settings.voucher := by
    rw [nativeDenom, settings]
    exact Sample.hopSettings_foreign
  have refunding :
      Refunding Undo.hopForwarded (.timeout ⟨Undo.hopForwarded, ""⟩) Refund.timeoutReason :=
    .timeout ""
  refine ⟨after, alone, middle, started, sent, owed, nativeDenom ▸ Sample.nativeDenom_visible,
    foreign, by decide, refunding.alone_iff.mpr settled, verdict, affordable, roomy, free, ?_⟩
  rintro ⟨notice, final, -, reached⟩
  have foreignToo : middle.nativeDenom ≠ middle.settings.voucher := by
    rw [(Transfer.settles settled).bank]
    exact foreign
  have paid := (Progress.shows (by decide) foreignToo reached.moved).1
  have held := (held_iff owed settled verdict).mp (Nat.le_of_add_left_le (Nat.le_of_eq paid))
  rcases held with traced | owned
  · exact traced rfl
  · rw [settings, vouchers] at owned
    exact absurd owned (by decide)

end Return

end VoucherSwap
