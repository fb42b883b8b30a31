import VoucherSwap.Proofs.Backing

/-!
The totals account for the native coins in the reserve. Every wrap takes as many coins out of the
reserve as it adds to the incoming total, every unwrap puts as many in as it adds to the outgoing
total, and a refund takes both back. What else moves coins passes the reserve by, as long as no
packet names it. Two things would upset the account: a wrap that was paid out and could not be
counted, and a refund of more than is counted as out.
-/

namespace VoucherSwap

namespace Accounting

open Session
open Backing (Kept Permitted)

def coins (chain : Chain) : Nat := chain.bank.units Chain.reserve chain.nativeDenom

/-- What the reserve would hold if nothing had been wrapped or unwrapped. -/
def endowment (chain : Chain) : Int :=
  coins chain + chain.totals.transferredIn.units - chain.totals.transferredOut.units

/-- No packet names the reserve, where it comes in as receiver and otherwise as sender. -/
def Apart : Request → Prop
  | .receive delivery => ∀ payload, delivery.packet.payload? = some payload →
      payload.receiver ≠ Chain.reserve.address
  | .acknowledge delivery _ | .timeout delivery =>
      ∀ payload, delivery.packet.payload? = some payload →
      payload.sender ≠ Chain.reserve.address
  | .send packet | .transfer packet => ∀ payload, packet.payload? = some payload →
      payload.sender ≠ Chain.reserve.address

/-- A wrap that is reported as one too many for the incoming total. -/
def Overflows (before : Chain) (request : Request) (answer : Answer) : Prop :=
  ∃ receipt payload amount, answer = .received receipt ∧ request.packet.payload? = some payload ∧
    Precision.scaleDown payload.amount before.settings.decimalDifference = .ok amount ∧
    Amount.bound ≤ before.totals.transferredIn.units + amount.units ∧
    (Notice.failure Error.totalsOverflow.message).event ∈ receipt.extras.events

/-- A reported refund of more than is counted as out. -/
def Overdraws (before : Chain) (answer : Answer) : Prop :=
  ∃ settlement repayment, answer = .settled settlement ∧
    (Notice.refunded repayment).event ∈ settlement.extras.events ∧
    before.totals.transferredOut.units < repayment.amount.units

theorem endowment_eq_iff {before after : Chain} :
    endowment after = endowment before ↔
      coins after + after.totals.transferredIn.units + before.totals.transferredOut.units =
        coins before + before.totals.transferredIn.units + after.totals.transferredOut.units := by
  unfold endowment
  omega

theorem endowment_same_totals {before after : Chain} (totals : after.totals = before.totals)
    (same : coins after = coins before) : endowment after = endowment before := by
  unfold endowment
  rw [totals, same]

theorem Apart.permitted {request : Request} (apart : Apart request) : Permitted request := by
  cases request with
  | transfer packet => exact apart
  | receive delivery | acknowledge delivery acknowledgement | timeout delivery | send packet =>
    trivial

-- Receiving.

-- The coins of a swap on the way: the voucher is none of them, and the native coin leaves the
-- reserve.
theorem swapped_even {packet : Packet} {payload : Payload} {wrapping : Receive.Wrapping Account}
    {before after : Chain} {outcome : Except Skip Notice}
    (foreign : before.nativeDenom ≠ before.settings.voucher)
    (eligible : Receive.Eligible Chain.host before packet payload before.settings wrapping)
    (different : wrapping.receiver ≠ Chain.reserve)
    (counted : ∀ error, before.totals.recordIn wrapping.native.amount = .error error →
      outcome ≠ .error (.ofError error))
    (settles : Receive.Settles packet payload wrapping before outcome after) :
    endowment after = endowment before := by
  obtain ⟨name, -⟩ := received_voucher eligible
  have vouchers : wrapping.voucher.denom.text ≠ before.nativeDenom := name ▸ Ne.symm foreign
  have paying {locked paid : Bank}
      (taken : before.bank.send wrapping.receiver Chain.reserve wrapping.voucher =
        some (.ok locked))
      (given : locked.send Chain.reserve wrapping.receiver wrapping.native = some (.ok paid)) :
      paid.units Chain.reserve before.nativeDenom + wrapping.native.amount.units =
        coins before := by
    have entry := (Bank.send_sent given).posted.entry Chain.reserve
    have native : wrapping.native.denom.text = before.nativeDenom := eligible.nativeDenom
    rwa [Bank.share_self, Bank.share_of_ne (Ne.symm different), native,
      Bank.send_others taken vouchers] at entry
  cases settles with
  | unlocked refused => rfl
  | unpaid message taken refused =>
    exact endowment_same_totals rfl (Bank.send_others taken vouchers _)
  | uncounted taken given overflow => exact absurd rfl (counted _ overflow)
  | swapped crossing taken given recorded =>
      have paid := paying taken given
      obtain ⟨sum, out⟩ := Totals.recordIn_eq_ok.mp recorded
      rw [endowment_eq_iff, sum, out]
      unfold coins at paid ⊢
      dsimp only
      omega

theorem receive_even {switches : Transfer.Switches} {delivery : Delivery} {before after : Chain}
    {receipt : Receipt} (foreign : before.nativeDenom ≠ before.settings.voucher)
    (apart : Apart (.receive delivery))
    (fits : ¬ Overflows before (.receive delivery) (.received receipt))
    (ran : (swapStack switches).receive delivery before = some (receipt, after)) :
    endowment after = endowment before := by
  cases receive_arrives ran with
  | refused unswapped => rfl
  | credited readable found pays unswapped =>
      have different := Chain.account_ne_reserve found (apart _ readable)
      exact endowment_same_totals rfl
        (pays.bystander (Ne.symm (Chain.escrow_ne_reserve delivery.packet.destination))
          (Ne.symm different) _)
  | @attempted payload wrapping minted outcome _ admits eligible made settles reported =>
      have different := Chain.account_ne_reserve eligible.receiver (apart _ admits.readable)
      have untouched := (Bank.mint?_posted made).same rfl (Bank.share_of_ne (Ne.symm different) _)
        before.nativeDenom
      have counted : ∀ error, before.totals.recordIn wrapping.native.amount = .error error →
          outcome ≠ .error (.ofError error) := by
        rintro error overflow rfl
        obtain ⟨large, rfl⟩ := Totals.recordIn_eq_error.mp overflow
        exact fits
          ⟨_, payload, wrapping.native.amount, rfl, admits.readable, eligible.scaled, large,
          List.mem_cons_of_mem _ List.mem_cons_self⟩
      have swapped : endowment after = endowment { before with bank := minted } :=
        swapped_even foreign eligible different counted settles
      exact swapped.trans (endowment_same_totals rfl untouched)

-- Refunds.

theorem settles_even {switches : Transfer.Switches} {packet : Packet} {before after : Chain}
    {settlement : Settlement}
    (apart : ∀ payload, packet.payload? = some payload → payload.sender ≠ Chain.reserve.address)
    (settles : Transfer.Settles switches packet before settlement after) :
    endowment after = endowment before := by
  cases settles with
  | refunded done =>
      obtain ⟨-, readable, sender, bank, found, pays, rfl⟩ := Transfer.refund_eq_ok.mp done
      have different := Chain.account_ne_reserve found (apart _ readable)
      exact endowment_same_totals rfl
        (pays.bystander (Ne.symm (Chain.escrow_ne_reserve packet.source)) (Ne.symm different) _)
  | refused error => rfl

theorem repaid_even {reason : String} {pending : Refund.Pending Account} {before after : Chain}
    {outcome : Except Error Notice}
    (foreign : before.nativeDenom ≠ Voucher.ofTrace pending.payload.denom.text)
    (different : pending.sender ≠ Chain.reserve)
    (covered : ∀ repayment, outcome = .ok (.refunded repayment) →
      repayment.amount.units ≤ before.totals.transferredOut.units)
    (repays : Refund.Repays reason pending before outcome after) :
    endowment after = endowment before := by
  cases repays with
  | unfunded refused => rfl
  | unlocked exchange refused => rfl
  | unpaid exchange taken refused =>
      exact endowment_same_totals rfl
        (Bank.send_others taken (exchange.voucherDenom ▸ Ne.symm foreign) _)
  | @repaid voucher native locked paid exchange taken given =>
      have enough : native.amount.units ≤ before.totals.transferredOut.units := covered _ rfl
      have name : native.denom.text = before.nativeDenom := exchange.nativeDenom
      have entry := (Bank.send_sent given).posted.entry Chain.reserve
      rw [Bank.share_self, Bank.share_of_ne (Ne.symm different), name,
        Bank.send_others taken (exchange.voucherDenom ▸ Ne.symm foreign)] at entry
      rw [endowment_eq_iff]
      unfold coins
      dsimp only [Totals.releaseOut, Amount.monus]
      omega

theorem refund_even {switches : Transfer.Switches} {reason : String} {packet : Packet}
    {before after : Chain} {settlement : Settlement}
    (foreign : before.nativeDenom ≠ before.settings.voucher)
    (apart : ∀ payload, packet.payload? = some payload → payload.sender ≠ Chain.reserve.address)
    (covered : ¬ Overdraws before (.settled settlement))
    (refunds : Refund.Refunds Chain.host reason packet
      (fun _ : Unit => Transfer.settle switches packet) () before settlement after) :
    endowment after = endowment before := by
  cases refunds_returns refunds with
  | left settles result unrefunded => exact settles_even apart settles
  | @attempted pending payload middle _ outcome due done repays =>
      have settled : endowment middle = endowment before := settles_even apart (.refunded done)
      obtain ⟨bank, rfl, -⟩ := due.refunded done
      have different := Chain.account_ne_reserve due.sender (apart _ due.readable)
      have outbound : before.nativeDenom ≠ Voucher.ofTrace pending.payload.denom.text := by
        rw [due.outbound]
        exact foreign
      have enough : ∀ repayment, outcome = .ok (.refunded repayment) →
          repayment.amount.units ≤ before.totals.transferredOut.units := by
        rintro repayment rfl
        apply Nat.le_of_not_lt
        intro more
        exact covered ⟨_, repayment, rfl, List.mem_cons_of_mem _ List.mem_cons_self, more⟩
      have repaid : endowment after = endowment { before with bank } :=
        repaid_even outbound different enough repays
      exact repaid.trans settled

-- Sends.

theorem unwraps_even {packet : Packet} {before after : Chain} {order : Send.Order Account}
    {coin : Coin} {payload : Payload} (foreign : before.nativeDenom ≠ before.settings.voucher)
    (apart : ∀ payload, packet.payload? = some payload → payload.sender ≠ Chain.reserve.address)
    (unwraps : Send.Unwraps packet before order coin payload after) :
    endowment after = endowment before := by
  obtain ⟨ordered, ⟨released, locked, burned, totals, collected, destroyed, counted, rfl⟩, -⟩ :=
    unwraps
  obtain ⟨-, name⟩ := Backing.order_voucher ordered collected.converted
  have different := Chain.account_ne_reserve ordered.sender (apart _ ordered.readable)
  have untouched := (Bank.send_sent collected.freed).posted.same
    (Bank.share_of_ne (Ne.symm (Chain.escrow_ne_reserve packet.source)) _)
    (Bank.share_of_ne (Ne.symm different) _) before.nativeDenom
  have locking := (Bank.send_sent collected.taken).posted.entry Chain.reserve
  have native : order.native.denom.text = before.nativeDenom := ordered.nativeDenom
  rw [Bank.share_self, Bank.share_of_ne (Ne.symm different), native, untouched] at locking
  have burning :=
    (Bank.debit_posted (Bank.burn_eq_ok.mp destroyed).2).others Chain.reserve before.nativeDenom
    (name ▸ foreign)
  obtain ⟨sum, into⟩ := Totals.recordOut_eq_ok.mp counted
  rw [endowment_eq_iff, sum, into]
  unfold coins
  dsimp only
  omega

theorem sends_even {packet : Packet} {before after : Chain}
    (foreign : before.nativeDenom ≠ before.settings.voucher)
    (apart : ∀ payload, packet.payload? = some payload → payload.sender ≠ Chain.reserve.address)
    (sends : Send.Sends packet before after) : endowment after = endowment before := by
  cases sends with
  | forwarded left working => rfl
  | unwrapped unwraps => exact unwraps_even foreign apart unwraps

-- Runs.

theorem commits_even {switches : Transfer.Switches} {request : Request} {before after : Chain}
    {answer : Answer} (foreign : before.nativeDenom ≠ before.settings.voucher)
    (apart : Apart request) (fits : ¬ Overflows before request answer)
    (covered : ¬ Overdraws before answer) (commits : Commits switches request before answer after) :
    endowment after = endowment before := by
  cases commits with
  | received ran => exact receive_even foreign apart fits ran
  | acknowledged failed refunds => exact refund_even foreign apart covered refunds
  | passed result other => rfl
  | expired refunds => exact refund_even foreign apart covered refunds
  | sent sends => exact sends_even foreign apart sends
  | transferred taken sends =>
      obtain ⟨payload, sender, coin, bank, readable, found, -, takes, rfl⟩ :=
        Transfer.take_eq_ok.mp taken
      have different := Chain.account_ne_reserve found (apart _ readable)
      have untouched := takes.bystander (Ne.symm different) (Ne.symm (Chain.escrow_ne_reserve _))
        before.nativeDenom
      have sent : endowment after = endowment { before with bank } := sends_even foreign apart sends
      exact sent.trans (endowment_same_totals rfl untouched)
  | undone error => rfl

-- By induction on the run; the invariant is the endowment, with settings and native token kept
-- beside it.
theorem run_even {switches : Transfer.Switches} {start final : Chain}
    {history : List (Request × Answer)} (foreign : start.nativeDenom ≠ start.settings.voucher)
    (apart : ∀ entry ∈ history, Apart entry.1)
    (fits : Throughout (commit (swapStack switches)) start history fun before request answer =>
      ¬ Overflows before request answer)
    (covered : Throughout (commit (swapStack switches)) start history fun before _ answer =>
      ¬ Overdraws before answer)
    (run : Run (commit (swapStack switches)) start history final) :
    Kept start final ∧ endowment final = endowment start := by
  induction run with
  | nil => exact ⟨Kept.refl start, rfl⟩
  | @snoc history middle final request answer earlier last ih =>
      have within : history <+: history ++ [(request, answer)] := List.prefix_append _ _
      have latest : (request, answer) ∈ history ++ [(request, answer)] :=
        List.mem_append_right _ List.mem_cons_self
      obtain ⟨kept, even⟩ := ih (fun entry member => apart entry (List.mem_append_left _ member))
        (fits.initial within) (covered.initial within)
      have still : middle.nativeDenom ≠ middle.settings.voucher := by
        rw [kept.nativeDenom, kept.settings]
        exact foreign
      have commits := commit_commits last
      have later := (Backing.commits_backed still (apart _ latest).permitted commits).1
      have step := commits_even still (apart _ latest) (fits.latest earlier)
        (covered.latest earlier) commits
      exact ⟨kept.trans later, step.trans even⟩

theorem totals_account_for_coins {switches : Transfer.Switches} {start : Chain}
    {history : List (Request × Answer)} (foreign : start.nativeDenom ≠ start.settings.voucher)
    (apart : ∀ entry ∈ history, Apart entry.1)
    (fits : Throughout (commit (swapStack switches)) start history fun before request answer =>
      ¬ Overflows before request answer)
    (covered : Throughout (commit (swapStack switches)) start history fun before _ answer =>
      ¬ Overdraws before answer) :
    ∀ earlier middle, earlier <+: history → Run (commit (swapStack switches)) start earlier middle →
      endowment middle = endowment start := by
  intro earlier middle within run
  exact (run_even foreign (fun entry member => apart entry (within.subset member))
    (fits.initial within)
    (covered.initial within) run).2

set_option maxRecDepth 100000 in
theorem fundedChain_receive :
    ∃ receipt after, (swapStack ⟨false, false⟩).receive Sample.incomingDelivery Sample.fundedChain =
        some (receipt, after) ∧ coins after = 0 ∧ after.totals.transferredIn.units = 5 := by
  have computed :
    (((swapStack ⟨false, false⟩).receive Sample.incomingDelivery Sample.fundedChain).map fun step =>
      decide (coins step.2 = 0 ∧ step.2.totals.transferredIn.units = 5)) = some true := by
    decide +kernel
  obtain ⟨⟨receipt, after⟩, received, facts⟩ := Option.map_eq_some_iff.mp computed
  exact ⟨receipt, after, received, of_decide_eq_true facts⟩

theorem totals_account_for_coins_fundedChain :
    ∃ receipt after, Run (commit (swapStack ⟨false, false⟩)) Sample.fundedChain
        [(.receive Sample.incomingDelivery, .received receipt)] after ∧
      coins after = 0 ∧ after.totals.transferredIn.units = 5 ∧
      endowment after = endowment Sample.fundedChain := by
  obtain ⟨receipt, after, received, spent, counted⟩ := fundedChain_receive
  have run : Run (commit (swapStack ⟨false, false⟩)) Sample.fundedChain
      [(.receive Sample.incomingDelivery, .received receipt)] after :=
        .snoc .nil (commit_receive received)
  refine ⟨receipt, after, run, spent, counted, ?_⟩
  refine totals_account_for_coins Sample.fundedChain_foreign ?_ ?_ ?_ _ _ (List.prefix_refl _) run
  · intro entry member
    rw [List.mem_singleton.mp member]
    intro payload readable
    rw [Sample.incomingDelivery_payload?, Option.some.injEq] at readable
    subst readable
    decide
  · apply throughout_singleton
    rintro ⟨_, payload, amount, -, readable, scaled, large, -⟩
    change Sample.incomingDelivery.packet.payload? = some payload at readable
    rw [Sample.incomingDelivery_payload?, Option.some.injEq] at readable
    subst readable
    have small : amount.units ≤ 5 * 10 ^ 12 + 3 := by
      rw [(Precision.scaleDown_eq_ok.mp scaled).1]
      exact Nat.div_le_self _ _
    have nothing : Amount.bound ≤ 0 + amount.units := large
    have enough : 5 * 10 ^ 12 + 3 < Amount.bound := by decide
    omega
  · apply throughout_singleton
    rintro ⟨settlement, repayment, wrong, -⟩
    cases wrong

end Accounting

end VoucherSwap
