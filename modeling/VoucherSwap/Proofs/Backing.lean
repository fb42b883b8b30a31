import VoucherSwap.Sample
import VoucherSwap.Proofs.Session

/-!
The vouchers in the reserve back what was wrapped in and not yet taken out. Counted in vouchers, the
reserve holds at least what the totals say, and no request makes this worse but one: a refund to the
reserve itself of a packet whose denomination has no trace, although its text is the outbound trace.
There the application releases another token than the voucher that is locked again, and the outgoing
total is lowered for nothing. It takes a wrapped denomination that consists of hops alone.
-/

namespace VoucherSwap

namespace Backing

open Session

def held (chain : Chain) : Nat := chain.bank.units Chain.reserve chain.settings.voucher

def backing (chain : Chain) : Int :=
  held chain + chain.settings.factor * chain.totals.transferredOut.units -
    chain.settings.factor * chain.totals.transferredIn.units

/-- What no request changes. -/
structure Kept (before after : Chain) : Prop where
  settings : after.settings = before.settings
  nativeDenom : after.nativeDenom = before.nativeDenom

theorem Kept.refl (chain : Chain) : Kept chain chain := ⟨rfl, rfl⟩

theorem Kept.trans {first second third : Chain} (one : Kept first second)
    (two : Kept second third) :
    Kept first third :=
  ⟨two.settings.trans one.settings, two.nativeDenom.trans one.nativeDenom⟩

theorem Kept.posted {before middle : Chain} (kept : Kept before middle) (bank : Bank)
    (totals : Totals) :
    Kept before { middle with bank, totals } :=
  ⟨kept.settings, kept.nativeDenom⟩

theorem Kept.held_posted {before middle : Chain} (kept : Kept before middle) (bank : Bank)
    (totals : Totals) :
    held { middle with bank, totals } = bank.units Chain.reserve before.settings.voucher := by
  unfold held
  rw [← kept.settings]

theorem backing_le_iff {before after : Chain} (kept : Kept before after) :
    backing before ≤ backing after ↔
      held before + before.settings.factor * before.totals.transferredOut.units +
          before.settings.factor * after.totals.transferredIn.units ≤
        held after + before.settings.factor * after.totals.transferredOut.units +
          before.settings.factor * before.totals.transferredIn.units := by
  unfold backing
  rw [kept.settings]
  omega

theorem backed_of_le {before after : Chain} (kept : Kept before after)
    (le : held before + before.settings.factor * before.totals.transferredOut.units +
        before.settings.factor * after.totals.transferredIn.units ≤
      held after + before.settings.factor * after.totals.transferredOut.units +
        before.settings.factor * before.totals.transferredIn.units) :
    Kept before after ∧ backing before ≤ backing after :=
  ⟨kept, (backing_le_iff kept).mpr le⟩

theorem backing_same_totals {before after : Chain} (kept : Kept before after)
    (totals : after.totals = before.totals) (more : held before ≤ held after) :
    backing before ≤ backing after := by
  rw [backing_le_iff kept, totals]
  omega

theorem locked_units {holder : Account} {coin : Coin} {before after : Bank}
    (taken : before.send holder Chain.reserve coin = some (.ok after)) :
    after.units Chain.reserve coin.denom.text + Bank.share holder coin.amount.units Chain.reserve =
      before.units Chain.reserve coin.denom.text + coin.amount.units := by
  have entry := (Bank.send_sent taken).posted.entry Chain.reserve
  rwa [Bank.share_self] at entry

theorem share_le (holder account : Account) (amount : Nat) :
    Bank.share holder amount account ≤ amount := by
  unfold Bank.share
  split <;> omega

theorem factor_mul_le {settings : Settings} {amount converted : Amount}
    (scaled : Precision.scaleDown amount settings.decimalDifference = .ok converted) :
    settings.factor * converted.units ≤ amount.units :=
  Precision.scaleDown_mul_le scaled

-- Receiving.

-- If the reserve itself receives, the voucher that it locks is the one the application has just
-- minted for it.
theorem swapped_backed {packet : Packet} {payload : Payload} {wrapping : Receive.Wrapping Account}
    {before middle after : Chain} {outcome : Except Skip Notice}
    (kept : Kept before middle) (totals : middle.totals = before.totals)
    (foreign : before.nativeDenom ≠ before.settings.voucher)
    (eligible : Receive.Eligible Chain.host middle packet payload middle.settings wrapping)
    (paid : before.bank.units Chain.reserve before.settings.voucher +
      Bank.share wrapping.receiver payload.amount.units Chain.reserve ≤
        middle.bank.units Chain.reserve before.settings.voucher)
    (settles : Receive.Settles packet payload wrapping middle outcome after) :
    Kept before after ∧ backing before ≤ backing after := by
  obtain ⟨name, -⟩ := received_voucher eligible
  rw [kept.settings] at name
  have native : wrapping.native.denom.text ≠ before.settings.voucher := by
    rw [eligible.nativeDenom]
    show middle.nativeDenom ≠ _
    rwa [kept.nativeDenom]
  have locking {locked : Bank}
      (taken : middle.bank.send wrapping.receiver Chain.reserve wrapping.voucher =
        some (.ok locked)) :
      held before + payload.amount.units ≤ locked.units Chain.reserve before.settings.voucher := by
    have units := locked_units taken
    rw [name, eligible.voucherAmount] at units
    unfold held
    omega
  cases settles with
  | unlocked refused =>
      refine ⟨kept, backing_same_totals kept totals ?_⟩
      unfold held
      rw [kept.settings]
      omega
  | @unpaid bank _ message taken refused =>
      have locked := locking taken
      have same := kept.posted bank middle.totals
      refine ⟨same, backing_same_totals same totals ?_⟩
      rw [kept.held_posted]
      omega
  | @uncounted _ bank _ taken given overflow =>
      have locked := locking taken
      have same := kept.posted bank middle.totals
      refine ⟨same, backing_same_totals same totals ?_⟩
      rw [kept.held_posted, Bank.send_others given native]
      omega
  | @swapped _ bank sums crossing taken given counted =>
      have locked := locking taken
      have value := factor_mul_le eligible.scaled
      rw [kept.settings] at value
      obtain ⟨sum, out⟩ := Totals.recordIn_eq_ok.mp counted
      rw [totals] at sum out
      apply backed_of_le (kept.posted bank sums)
      rw [kept.held_posted, Bank.send_others given native, sum, out, Nat.mul_add]
      omega

theorem receive_backed {switches : Transfer.Switches} {delivery : Delivery} {before after : Chain}
    {receipt : Receipt} (foreign : before.nativeDenom ≠ before.settings.voucher)
    (ran : (swapStack switches).receive delivery before = some (receipt, after)) :
    Kept before after ∧ backing before ≤ backing after := by
  have kept (bank : Bank) : Kept before { before with bank } := ⟨rfl, rfl⟩
  cases receive_arrives ran with
  | refused unswapped => exact ⟨Kept.refl _, Int.le_refl _⟩
  | @credited _ _ bank _ readable found pays unswapped =>
      have more := pays.others (Ne.symm (Chain.escrow_ne_reserve delivery.packet.destination))
        before.settings.voucher
      exact ⟨kept bank, backing_same_totals (kept bank) rfl more⟩
  | @attempted _ _ minted _ _ admits eligible made settles reported =>
      have entry := (Bank.mint?_posted made).entry Chain.reserve
      rw [(received_voucher eligible).1, eligible.voucherAmount] at entry
      exact swapped_backed (kept minted) rfl foreign eligible (Nat.le_of_eq entry.symm) settles

-- Refunds.

/-- A refund to the reserve of a token without a trace that was swapped all the same. -/
def Astray (packet : Packet) (settlement : Settlement) : Prop :=
  ∃ payload repayment, packet.payload? = some payload ∧ payload.sender = Chain.reserve.address ∧
    payload.denom.hops = [] ∧ (Notice.refunded repayment).event ∈ settlement.extras.events

theorem settles_backed {switches : Transfer.Switches} {packet : Packet} {before after : Chain}
    {settlement : Settlement} (settles : Transfer.Settles switches packet before settlement after) :
    Kept before after ∧ after.totals = before.totals ∧ held before ≤ held after := by
  cases settles with
  | refunded done =>
      obtain ⟨-, -, sender, bank, -, pays, rfl⟩ := Transfer.refund_eq_ok.mp done
      exact ⟨⟨rfl, rfl⟩, rfl, pays.others (Ne.symm (Chain.escrow_ne_reserve packet.source)) _⟩
  | refused error => exact ⟨Kept.refl _, rfl, Nat.le_refl _⟩

-- Whether the reserve gets the voucher back depends on the trace; whether locking it again adds to
-- the reserve depends on the sender. Only if both fail is the total lowered for nothing.
theorem repaid_backed {switches : Transfer.Switches} {reason : String} {packet : Packet}
    {before middle after : Chain} {payload : Payload} {pending : Refund.Pending Account}
    {notice : Notice} (foreign : before.nativeDenom ≠ before.settings.voucher)
    (due : Refund.Due Chain.host before packet before.settings pending)
    (done : Transfer.refund switches packet before = some (.ok payload, middle))
    (repays : Refund.Repays reason pending middle (.ok notice) after) :
    Kept before after ∧
      (backing after < backing before ↔
        (pending.payload.denom.hops = [] ∧ pending.sender = Chain.reserve) ∧
          before.totals.transferredOut ≠ .zero) := by
  obtain ⟨paid, rfl, units⟩ := due.refunded done
  have paidBack := units Chain.reserve (Ne.symm (Chain.escrow_ne_reserve packet.source))
  cases repays with
  | @repaid coin native locked bank exchange taken given =>
      have name : coin.denom.text = before.settings.voucher := by
        rw [exchange.voucherDenom, due.outbound]
        rfl
      have foreignCoin : native.denom.text ≠ before.settings.voucher := by
        rw [exchange.nativeDenom]
        exact foreign
      have scaled := exchange.scaled
      rw [due.difference] at scaled
      have value := factor_mul_le scaled
      have some : 0 < before.settings.factor * native.amount.units :=
        Nat.mul_pos (Nat.pow_pos (by decide)) (Precision.scaleDown_eq_ok.mp scaled).2
      have locking := locked_units taken
      rw [name, exchange.voucherAmount] at locking
      dsimp only at locking
      have same := (Kept.refl before).posted bank (before.totals.releaseOut native.amount)
      refine ⟨same, ?_⟩
      have worse := not_congr (backing_le_iff same)
      rw [Int.not_le] at worse
      rw [worse, Amount.ne_zero_iff]
      unfold held
      rw [same.settings]
      dsimp only [Totals.releaseOut, Amount.monus]
      rw [Bank.send_others given foreignCoin, Nat.mul_sub]
      by_cases trace : pending.payload.denom.hops = []
      · rw [if_pos trace] at paidBack
        by_cases itself : pending.sender = Chain.reserve
        · rw [itself, Bank.share_self] at locking
          have out : 0 < before.totals.transferredOut.units ↔
              0 < before.settings.factor * before.totals.transferredOut.units :=
            (Nat.mul_pos_iff_of_pos_left (Nat.pow_pos (by decide))).symm
          simp only [trace, itself, true_and, out]
          omega
        · rw [Bank.share_of_ne (Ne.symm itself)] at locking
          simp only [itself, and_false, false_and, iff_false]
          omega
      · rw [if_neg trace] at paidBack
        simp only [trace, false_and, iff_false]
        omega

-- A swap that could not be taken back may have locked its voucher, and nothing was counted.
theorem stopped_backed {switches : Transfer.Switches} {packet : Packet}
    {before middle after : Chain} {settlement : Settlement} {pending : Refund.Pending Account}
    {reason : String} {error : Error}
    (settles : Transfer.Settles switches packet before settlement middle)
    (due : Refund.Due Chain.host before packet before.settings pending)
    (repays : Refund.Repays reason pending middle (.error error) after) :
    Kept before after ∧ backing before ≤ backing after := by
  obtain ⟨kept, totals, more⟩ := settles_backed settles
  cases repays with
  | unfunded refused => exact ⟨kept, backing_same_totals kept totals more⟩
  | unlocked exchange refused => exact ⟨kept, backing_same_totals kept totals more⟩
  | @unpaid coin native bank _ exchange taken refused =>
      have same := kept.posted bank middle.totals
      refine ⟨same, backing_same_totals same totals ?_⟩
      have name : coin.denom.text = before.settings.voucher := by
        rw [exchange.voucherDenom, due.outbound]
        rfl
      have locking := locked_units taken
      have most := share_le pending.sender Chain.reserve coin.amount.units
      rw [name] at locking
      rw [kept.held_posted]
      unfold held at more ⊢
      rw [kept.settings] at more
      omega

-- A refund that took place went astray if the token has no trace and the reserve sent it.
theorem astray_iff {packet : Packet} {before middle after : Chain} {settlement : Settlement}
    {pending : Refund.Pending Account} {reason : String} {notice : Notice}
    (due : Refund.Due Chain.host before packet before.settings pending)
    (repays : Refund.Repays reason pending middle (.ok notice) after)
    (reported : notice.event ∈ settlement.extras.events) :
    Astray packet settlement ↔
      pending.payload.denom.hops = [] ∧ pending.sender = Chain.reserve := by
  have address := Chain.account_address due.sender
  constructor
  · rintro ⟨other, -, readable, itself, trace, -⟩
    rw [due.readable, Option.some.injEq] at readable
    subst readable
    exact ⟨trace, Account.ext_address (address.trans itself)⟩
  · rintro ⟨trace, itself⟩
    cases repays with
    | repaid exchange taken given =>
        rw [itself] at address
        exact ⟨_, _, due.readable, address.symm, trace, reported⟩

theorem refund_backed {switches : Transfer.Switches} {reason : String} {packet : Packet}
    {before after : Chain} {settlement : Settlement}
    (foreign : before.nativeDenom ≠ before.settings.voucher)
    (refunds : Refund.Refunds Chain.host reason packet
      (fun _ : Unit => Transfer.settle switches packet) () before settlement after) :
    Kept before after ∧
      (backing after < backing before ↔
        Astray packet settlement ∧ before.totals.transferredOut ≠ .zero) ∧
      (Astray packet settlement → ¬ before.settings.KeepsHop) := by
  have harmless (backed : Kept before after ∧ backing before ≤ backing after)
      (silent : Unrefunded settlement) :
      Kept before after ∧
        (backing after < backing before ↔
          Astray packet settlement ∧ before.totals.transferredOut ≠ .zero) ∧
        (Astray packet settlement → ¬ before.settings.KeepsHop) := by
    have calm : ¬ Astray packet settlement := by
      rintro ⟨-, repayment, -, -, -, member⟩
      exact silent repayment member
    exact ⟨backed.1, iff_of_false (Int.not_lt.mpr backed.2) fun stray => calm stray.1,
      fun stray => absurd stray calm⟩
  cases refunds_returns refunds with
  | left settles result unrefunded =>
      obtain ⟨kept, totals, more⟩ := settles_backed settles
      exact harmless ⟨kept, backing_same_totals kept totals more⟩ unrefunded
  | @attempted pending payload middle _ outcome due done repays =>
      have settles : Transfer.Settles switches packet before _ middle := .refunded done
      cases outcome with
      | error error =>
          exact harmless (stopped_backed settles due repays)
            (unrefunded_push (settles_unrefunded settles) (.ofError error))
      | ok notice =>
          obtain ⟨kept, worse⟩ := repaid_backed foreign due done repays
          rw [astray_iff due repays (List.mem_cons_of_mem _ List.mem_cons_self)]
          refine ⟨kept, worse, ?_⟩
          rintro ⟨trace, -⟩ keeps
          have known := Payload.denom_of_ofBytes? due.readable
          rw [due.outbound] at known
          exact keeps _ known trace

-- Sends.

theorem order_voucher {before state : Chain} {packet : Packet} {order : Send.Order Account}
    {coin : Coin} {payload : Payload} (ordered : Send.Ordered Chain.host before packet order)
    (converted : Send.Converted Chain.host state packet order coin payload) :
    order.settings = before.settings ∧ coin.denom.text = before.settings.voucher := by
  have settings : order.settings = before.settings := (Except.ok.inj ordered.stored).symm
  have targeted := ordered.targeted
  rw [Route.isTargeted, Bool.and_eq_true, settings] at targeted
  have name := converted.voucherDenom
  rw [Voucher.trace_hop, settings, ← Route.outboundTrace_eq targeted.2] at name
  exact ⟨settings, name⟩

theorem unwraps_backed {packet : Packet} {before after : Chain} {order : Send.Order Account}
    {coin : Coin} {payload : Payload} (foreign : before.nativeDenom ≠ before.settings.voucher)
    (unwraps : Send.Unwraps packet before order coin payload after) :
    Kept before after ∧ backing before ≤ backing after := by
  obtain ⟨ordered, ⟨released, locked, burned, totals, collected, destroyed, counted, result⟩, -⟩ :=
    unwraps
  obtain ⟨settings, name⟩ := order_voucher ordered collected.converted
  have native : order.native.denom.text ≠ before.settings.voucher := by
    rw [ordered.nativeDenom]
    exact foreign
  have units : coin.amount.units = before.settings.factor * order.native.amount.units := by
    rw [(Precision.scaleUp_eq_ok.mp collected.converted.scaled).2, ordered.nativeAmount, settings,
      Nat.mul_comm]
    rfl
  have spent := (Bank.debit_posted (Bank.burn_eq_ok.mp destroyed).2).entry Chain.reserve
  rw [Bank.share_self, name, Bank.send_others collected.taken native,
    Bank.send_others collected.freed native, units] at spent
  obtain ⟨sum, into⟩ := Totals.recordOut_eq_ok.mp counted
  have kept : Kept before after := by
    subst result
    exact ⟨rfl, rfl⟩
  apply backed_of_le kept
  subst result
  unfold held
  dsimp only
  rw [sum, into, Nat.mul_add]
  simp only [Bank.nothing] at spent
  omega

theorem sends_backed {packet : Packet} {before after : Chain}
    (foreign : before.nativeDenom ≠ before.settings.voucher)
    (sends : Send.Sends packet before after) :
    Kept before after ∧ backing before ≤ backing after := by
  cases sends with
  | forwarded left working => exact ⟨⟨rfl, rfl⟩, Int.le_refl _⟩
  | unwrapped unwraps => exact unwraps_backed foreign unwraps

theorem take_backed {packet : Packet} {before after : Chain}
    (taken : Transfer.take packet before = some (.ok (), after))
    (other : ∀ payload, packet.payload? = some payload → payload.sender ≠ Chain.reserve.address) :
    Kept before after ∧ backing before ≤ backing after := by
  obtain ⟨payload, sender, coin, bank, readable, found, -, takes, rfl⟩ :=
    Transfer.take_eq_ok.mp taken
  have different := Chain.account_ne_reserve found (other payload readable)
  exact ⟨⟨rfl, rfl⟩, backing_same_totals ⟨rfl, rfl⟩ rfl (takes.others (Ne.symm different) _)⟩

-- Runs.

/-- Nobody transfers on behalf of the reserve. -/
def Permitted : Request → Prop
  | .transfer packet =>
      ∀ payload, packet.payload? = some payload → payload.sender ≠ Chain.reserve.address
  | _ => True

/-- A request that was answered with a refund that went astray. -/
def Stray (request : Request) (answer : Answer) : Prop :=
  ∃ settlement, answer = .settled settlement ∧ Astray request.packet settlement

theorem stray_settled {request : Request} {settlement : Settlement} :
    Stray request (.settled settlement) ↔ Astray request.packet settlement := by
  constructor
  · rintro ⟨other, same, astray⟩
    cases same
    exact astray
  · intro astray
    exact ⟨settlement, rfl, astray⟩

theorem commits_backed {switches : Transfer.Switches} {request : Request} {before after : Chain}
    {answer : Answer} (foreign : before.nativeDenom ≠ before.settings.voucher)
    (permitted : Permitted request) (commits : Commits switches request before answer after) :
    Kept before after ∧
      (backing after < backing before ↔ Stray request answer ∧
        before.totals.transferredOut ≠ .zero) ∧
      (Stray request answer → ¬ before.settings.KeepsHop) := by
  have harmless {request : Request} {answer : Answer}
      (backed : Kept before after ∧ backing before ≤ backing after)
        (calm : ¬ Stray request answer) :
      Kept before after ∧
        (backing after < backing before ↔ Stray request answer ∧
          before.totals.transferredOut ≠ .zero) ∧
        (Stray request answer → ¬ before.settings.KeepsHop) :=
    ⟨backed.1, iff_of_false (Int.not_lt.mpr backed.2) fun stray => calm stray.1, fun stray =>
      absurd stray calm⟩
  cases commits with
  | received ran =>
      apply harmless (receive_backed foreign ran)
      rintro ⟨settlement, wrong, -⟩
      contradiction
  | acknowledged failed refunds =>
      rw [stray_settled]
      exact refund_backed foreign refunds
  | passed result other =>
      apply harmless ⟨Kept.refl _, Int.le_refl _⟩
      rw [stray_settled]
      rintro ⟨_, _, -, -, -, member⟩
      exact List.not_mem_nil member
  | expired refunds =>
      rw [stray_settled]
      exact refund_backed foreign refunds
  | sent sends =>
      apply harmless (sends_backed foreign sends)
      rintro ⟨settlement, wrong, -⟩
      contradiction
  | transferred taken sends =>
      obtain ⟨kept, more⟩ := take_backed taken permitted
      have still : _ ≠ Settings.voucher _ := foreign
      rw [← kept.nativeDenom, ← kept.settings] at still
      obtain ⟨later, further⟩ := sends_backed still sends
      apply harmless ⟨kept.trans later, Int.le_trans more further⟩
      rintro ⟨settlement, wrong, -⟩
      contradiction
  | undone error =>
      apply harmless ⟨Kept.refl _, Int.le_refl _⟩
      rintro ⟨settlement, wrong, -⟩
      contradiction

theorem commit_backed {switches : Transfer.Switches} {request : Request} {before after : Chain}
    {answer : Answer} (foreign : before.nativeDenom ≠ before.settings.voucher)
    (permitted : Permitted request)
    (committed : commit (swapStack switches) request before = some (answer, after)) :
    Kept before after ∧
      (backing after < backing before ↔ Stray request answer ∧
        before.totals.transferredOut ≠ .zero) ∧
      (Stray request answer → ¬ before.settings.KeepsHop) :=
  commits_backed foreign permitted (commit_commits committed)

-- By induction on the run, from its first request on; the invariant is that settings and native
-- token are kept.
theorem run_backed {switches : Transfer.Switches} {start final : Chain}
    {history : List (Request × Answer)} (foreign : start.nativeDenom ≠ start.settings.voucher)
    (permitted : ∀ entry ∈ history, Permitted entry.1)
    (run : Run (commit (swapStack switches)) start history final) :
    Kept start final ∧
      ((∀ entry ∈ history, ¬ Stray entry.1 entry.2) → backing start ≤ backing final) ∧
      (start.settings.KeepsHop → ∀ entry ∈ history, ¬ Stray entry.1 entry.2) := by
  induction run with
  | nil =>
    exact ⟨Kept.refl start, fun _ => Int.le_refl _, fun _ entry member =>
      absurd member List.not_mem_nil⟩
  | @snoc history middle final request answer earlier last ih =>
      have within : ∀ entry ∈ history, entry ∈ history ++ [(request, answer)] :=
        fun entry member => List.mem_append_left _ member
      have latest : (request, answer) ∈ history ++ [(request, answer)] :=
        List.mem_append_right _ List.mem_cons_self
      obtain ⟨kept, more, calm⟩ := ih fun entry member => permitted entry (within entry member)
      have still : middle.nativeDenom ≠ middle.settings.voucher := by
        rw [kept.nativeDenom, kept.settings]
        exact foreign
      obtain ⟨later, falls, traceless⟩ := commit_backed still (permitted _ latest) last
      refine ⟨kept.trans later, ?_, ?_⟩
      · intro straight
        have step : backing middle ≤ backing final :=
          Int.not_lt.mp fun less => straight _ latest (falls.mp less).1
        exact Int.le_trans (more fun entry member => straight entry (within entry member)) step
      · intro keeps entry member
        rcases List.mem_append.mp member with early | late
        · exact calm keeps entry early
        · rw [List.mem_singleton.mp late]
          rw [← kept.settings] at keeps
          exact fun stray => traceless stray keeps

-- Every run from every chain. A single request lowers the backing exactly if its refund goes astray
-- while something is counted as out, so a run without such a refund keeps it; with the hop kept
-- there is none.
theorem reserve_backing {switches : Transfer.Switches} {start final : Chain}
    {history : List (Request × Answer)} (foreign : start.nativeDenom ≠ start.settings.voucher)
    (permitted : ∀ entry ∈ history, Permitted entry.1)
    (run : Run (commit (swapStack switches)) start history final) :
    (∀ request answer after, Permitted request →
        commit (swapStack switches) request final = some (answer, after) →
        (backing after < backing final ↔ Stray request answer ∧
          final.totals.transferredOut ≠ .zero)) ∧
      ((∀ entry ∈ history, ¬ Stray entry.1 entry.2) →
        backing start ≤ backing final ∧
          (start.totals = .zero →
            start.settings.factor * final.totals.transferredIn.units ≤
              held final + start.settings.factor * final.totals.transferredOut.units)) ∧
      (start.settings.KeepsHop → ∀ entry ∈ history, ¬ Stray entry.1 entry.2) := by
  obtain ⟨kept, more, calm⟩ := run_backed foreign permitted run
  have still : final.nativeDenom ≠ final.settings.voucher := by
    rw [kept.nativeDenom, kept.settings]
    exact foreign
  refine ⟨?_, ?_, calm⟩
  · intro request answer after allowed committed
    exact (commit_backed still allowed committed).2.1
  · intro straight
    have backed := more straight
    refine ⟨backed, ?_⟩
    intro zero
    rw [backing_le_iff kept, zero] at backed
    simp only [Totals.zero, Amount.zero, Nat.mul_zero] at backed
    omega

def strayPayload : Payload where
  denom := ⟨[], Sample.hopBase⟩
  amount := ⟨10 ^ 12, by decide⟩
  sender := Chain.reserve.address
  receiver := "cosmos1receiver"
  memo := ""

def strayPacket : Packet where
  sequence := 1
  source := Sample.nativeEnd
  destination := Sample.counterpartyEnd
  data := strayPayload.bytes
  timeoutHeight := 1000

/-- One unit is counted as out; the reserve has it, and the vouchers for it. -/
def strayChain : Chain :=
  { Sample.hopChain with
    totals := ⟨.zero, .one⟩
    bank := ((Bank.empty.setBalance Chain.reserve Sample.nativeDenom .one).setBalance Chain.reserve
      Sample.hopSettings.voucher strayPayload.amount).setBalance (Chain.escrow Sample.nativeEnd)
      Sample.hopBase.text strayPayload.amount }

set_option maxRecDepth 100000 in
theorem strayChain_commit :
    ∃ answer after, commit (swapStack ⟨false, false⟩) (.timeout ⟨strayPacket, ""⟩) strayChain =
      some (answer, after) ∧ backing after < backing strayChain := by
  have computed :
      ((commit (swapStack ⟨false, false⟩) (.timeout ⟨strayPacket, ""⟩) strayChain).map fun step =>
        decide (backing step.2 < backing strayChain)) = some true := by
    decide +kernel
  obtain ⟨⟨answer, after⟩, committed, less⟩ := Option.map_eq_some_iff.mp computed
  exact ⟨answer, after, committed, of_decide_eq_true less⟩

theorem reserve_backing_strayChain :
    ∃ answer after, Run (commit (swapStack ⟨false, false⟩)) strayChain
      [(.timeout ⟨strayPacket, ""⟩, answer)] after ∧
      (∀ request answer final, Permitted request →
        commit (swapStack ⟨false, false⟩) request after = some (answer, final) →
        (backing final < backing after ↔ Stray request answer ∧
          after.totals.transferredOut ≠ .zero)) := by
  obtain ⟨answer, after, committed, -⟩ := strayChain_commit
  have run :
      Run (commit (swapStack ⟨false, false⟩)) strayChain
        [(.timeout ⟨strayPacket, ""⟩, answer)] after :=
    .snoc .nil committed
  have foreign : strayChain.nativeDenom ≠ strayChain.settings.voucher := Sample.hopSettings_foreign
  refine ⟨answer, after, run, (reserve_backing foreign ?_ run).1⟩
  intro entry member
  rw [List.mem_singleton.mp member]
  trivial

/-- The backing can fall, from a chain that has it and by a timeout that anyone may bring. -/
theorem timeout_lowers_backing :
    ∃ answer after, Permitted (.timeout ⟨strayPacket, ""⟩) ∧
      strayChain.nativeDenom ≠ strayChain.settings.voucher ∧
      commit (swapStack ⟨false, false⟩) (.timeout ⟨strayPacket, ""⟩) strayChain =
        some (answer, after) ∧
      ¬ backing strayChain ≤ backing after := by
  obtain ⟨answer, after, committed, less⟩ := strayChain_commit
  exact ⟨answer, after, trivial, Sample.hopSettings_foreign, committed, Int.not_le.mpr less⟩

end Backing

end VoucherSwap
