import VoucherSwap.Refund
import VoucherSwap.Sample
import VoucherSwap.Proofs.Transfer

/-!
What becomes of a refund. The application is asked in every case, and its verdict stands. A swap
that was due is then taken back step by step on a chain in memory, and it ends at the first step
that fails; the total is changed by the last step alone.
-/

namespace VoucherSwap

namespace Settings

def voucher (settings : Settings) : String := Voucher.ofTrace settings.outboundTrace

/-- Vouchers for one unit of the native token. -/
def factor (settings : Settings) : Nat := 10 ^ settings.decimalDifference.toNat

/-- Read as a denomination, the outbound trace has a hop. -/
def KeepsHop (settings : Settings) : Prop :=
  ∀ denom, Denom.ofText settings.outboundTrace = .ok denom → denom.hops ≠ []

-- The trace begins with a hop, which is read as one if there is a name behind it.
theorem keepsHop_iff {settings : Settings} {route : Endpoint}
    (native : Route.isNativeEnd settings route = true) :
    settings.KeepsHop ↔ ¬ Denom.OnlyHops settings.wrappedDenom := by
  unfold KeepsHop
  rw [Route.outboundTrace_eq native]
  constructor
  · intro keeps only
    obtain ⟨denom, read⟩ :=
      (Denom.exists_ofText_hop_iff route).mpr (Denom.exists_ofText_iff.mpr (.inl only))
    have arrived := (Denom.arrivedOver_of_ofText read).resolve_left (keeps denom read)
    exact (Denom.arrivedOver_iff_of_ofText read).mp arrived only
  · intro named denom read none
    have arrived := (Denom.arrivedOver_iff_of_ofText read).mpr named
    simp [Denom.arrivedOver, none] at arrived

end Settings

namespace Sample

def hopSettings : Settings := { settings with wrappedDenom := "transfer/channel-1" }

def hopBase : BaseDenom := ⟨"transfer/channel-0/transfer/channel-1", by decide +kernel⟩

theorem settings_keepsHop : settings.KeepsHop := by
  rw [Settings.keepsHop_iff (by decide : Route.isNativeEnd settings nativeEnd = true),
    Denom.onlyHops_iff]
  decide

theorem hopSettings_loses_hop : ¬ hopSettings.KeepsHop := by
  rw [Settings.keepsHop_iff (by decide : Route.isNativeEnd hopSettings nativeEnd = true),
    Denom.onlyHops_iff]
  decide

theorem hopSettings_foreign : nativeDenom ≠ hopSettings.voucher :=
  Ne.symm (Voucher.ofTrace_ne (by decide) _)

def hopChain : Chain := { openChain with settings := hopSettings }

end Sample

namespace Refund

variable {σ α : Type}

/-- A packet whose swap is to be taken back once the application has refunded it. -/
structure Due (host : Host σ α) (state : σ) (packet : Packet) (settings : Settings)
    (pending : Pending α) : Prop where
  ready : ∃ channel, host.channel? state packet.source = some channel ∧ channel.state = .open
  readable : packet.payload? = some pending.payload
  named : pending.payload.sender ≠ ""
  sender : host.account? pending.payload.sender = some pending.sender
  positive : pending.payload.amount ≠ .zero
  stored : host.settings state = .ok settings
  configured : settings.configured = true
  outbound : pending.payload.denom.text = settings.outboundTrace
  route : Route.goesOut settings packet = true
  enabled : settings.enabled = true
  difference : pending.decimalDifference = settings.decimalDifference

theorem prepare_eq_ok {host : Host σ α} {state : σ} {packet : Packet} {pending : Pending α} :
    prepare host state packet = .ok pending ↔ ∃ settings,
      Due host state packet settings pending := by
  simp only [prepare, Check.bind_eq_ok, Check.pure_eq_ok, Check.mapError_eq_ok, Check.guard_eq_ok,
    Route.openChannel_eq_ok, Route.payload_eq_ok, Route.sender_eq_ok, Route.checkPositive_eq_ok,
    Route.isOutboundDenom_iff, Bool.not_eq_true', Bool.not_eq_false]
  constructor
  · rintro ⟨channel, ready, payload, readable, sender, ⟨named, found⟩, -, positive,
      settings, stored, configured, ⟨-, outbound⟩, route, enabled, rfl⟩
    exact ⟨settings, ⟨channel, ready⟩, readable, named, found, positive, stored,
      configured, outbound, route, enabled, rfl⟩
  · rintro ⟨settings, due⟩
    obtain ⟨channel, ready⟩ := due.ready
    refine ⟨channel, ready, pending.payload, due.readable, pending.sender,
      ⟨due.named, due.sender⟩, (), due.positive, settings, due.stored, due.configured,
      ⟨due.configured, due.outbound⟩, due.route, due.enabled, ?_⟩
    rw [← due.difference]

/-- The coins that a refund exchanges: the sender has the one, the reserve the other. -/
structure Exchange (host : Host σ α) (state : σ) (pending : Pending α) (voucher native : Coin) :
    Prop where
  scaled : Precision.scaleDown pending.payload.amount pending.decimalDifference = .ok native.amount
  voucherDenom : voucher.denom.text = Voucher.ofTrace pending.payload.denom.text
  voucherAmount : voucher.amount = pending.payload.amount
  nativeDenom : native.denom.text = host.nativeDenom state
  senderHolds : host.holds state pending.sender voucher = true
  reserveHolds : host.holds state (host.reserve state) native = true

theorem coins_eq_ok {host : Host σ α} {state : σ} {pending : Pending α} {voucher native : Coin} :
    coins host state pending = .ok (voucher, native) ↔
      Exchange host state pending voucher native := by
  simp only [coins, Check.bind_eq_ok, Check.pure_eq_ok, Coin.make_eq_ok,
    Reserve.checkBalances_eq_ok]
  constructor
  · rintro ⟨converted, scaled, coin, ⟨voucherDenom, voucherAmount⟩, other, ⟨nativeDenom, rfl⟩, -,
      ⟨senderHolds, reserveHolds⟩, same⟩
    cases same
    exact ⟨scaled, voucherDenom, voucherAmount, nativeDenom, senderHolds, reserveHolds⟩
  · intro exchange
    exact ⟨native.amount, exchange.scaled, voucher, ⟨exchange.voucherDenom, exchange.voucherAmount⟩,
      native, ⟨exchange.nativeDenom, rfl⟩, (), ⟨exchange.senderHolds, exchange.reserveHolds⟩, rfl⟩

def told : Except Error Notice → Notice
  | .ok notice => notice
  | .error error => .failure error.message

/-- A refund with what is below it: the application is asked first, in every case. -/
inductive Refunds {Q : Type} (host : Host σ α) (reason : String) (packet : Packet)
    (below : Q → Effect σ Settlement) (request : Q) (before : σ) : Settlement → σ → Prop where
  | skipped {skip : Skip} {settlement : Settlement} {after : σ}
      (left : prepare host before packet = .error skip)
      (asked : below request before = some (settlement, after)) :
      Refunds host reason packet below request before
        { settlement with extras := settlement.extras.push skip.notice.event } after
  | refused {pending : Pending α} {settlement : Settlement} {error : Error} {after : σ}
      (due : prepare host before packet = .ok pending)
      (asked : below request before = some (settlement, after))
      (verdict : settlement.result = .error error) :
      Refunds host reason packet below request before settlement after
  | failed {pending : Pending α} {settlement : Settlement} {error : Error} {middle after : σ}
      (due : prepare host before packet = .ok pending)
      (asked : below request before = some (settlement, middle))
      (verdict : settlement.result = .ok ())
      (stopped : repay host reason pending middle = some (.error error, after)) :
      Refunds host reason packet below request before
        { settlement with
          extras := settlement.extras.push (Notice.failure error.message).event } after
  | repaid {pending : Pending α} {settlement : Settlement} {notice : Notice} {middle after : σ}
      (due : prepare host before packet = .ok pending)
      (asked : below request before = some (settlement, middle))
      (verdict : settlement.result = .ok ())
      (done : repay host reason pending middle = some (.ok notice, after)) :
      Refunds host reason packet below request before
        { settlement with extras := settlement.extras.push notice.event } after

theorem Refunds.congr {Q R : Type} {host : Host σ α} {reason : String} {packet : Packet}
    {below : Q → Effect σ Settlement} {other : R → Effect σ Settlement} {request : Q} {question : R}
    {before after : σ} {settlement : Settlement} (same : below request = other question)
    (refunds : Refunds host reason packet below request before settlement after) :
    Refunds host reason packet other question before settlement after := by
  cases refunds with
  | skipped left asked => exact .skipped left (same ▸ asked)
  | refused due asked verdict => exact .refused due (same ▸ asked) verdict
  | failed due asked verdict stopped => exact .failed due (same ▸ asked) verdict stopped
  | repaid due asked verdict done => exact .repaid due (same ▸ asked) verdict done

theorem conclude_eq_some {host : Host σ α} {reason : String} {pending : Pending α}
    {settlement answer : Settlement} {middle after : σ} :
    conclude host reason pending settlement middle = some (answer, after) ↔
      (∃ error, settlement.result = .error error ∧ answer = settlement ∧ after = middle) ∨
      settlement.result = .ok () ∧
        ((∃ error, repay host reason pending middle = some (.error error, after) ∧
            answer = { settlement with
              extras := settlement.extras.push (Notice.failure error.message).event }) ∨
          ∃ notice, repay host reason pending middle = some (.ok notice, after) ∧
            answer = { settlement with extras := settlement.extras.push notice.event }) := by
  unfold conclude
  cases verdict : settlement.result with
  | error error =>
      simp only [Effect.pure_eq_some, Except.error.injEq, exists_eq_left', reduceCtorEq, false_and,
        or_false]
      exact ⟨fun same => ⟨same.1.symm, same.2.symm⟩, fun same => ⟨same.1.symm, same.2.symm⟩⟩
  | ok done =>
      simp only [Effect.bind_eq_some, reduceCtorEq, false_and, exists_false, false_or, true_and]
      constructor
      · rintro ⟨outcome, state, ran, answered⟩
        cases outcome with
        | error error =>
            obtain ⟨rfl, rfl⟩ := Effect.pure_eq_some.mp answered
            exact .inl ⟨error, ran, rfl⟩
        | ok notice =>
            obtain ⟨rfl, rfl⟩ := Effect.pure_eq_some.mp answered
            exact .inr ⟨notice, ran, rfl⟩
      · rintro (⟨error, ran, rfl⟩ | ⟨notice, ran, rfl⟩)
        · exact ⟨_, after, ran, rfl⟩
        · exact ⟨_, after, ran, rfl⟩

theorem visit_due {Q : Type} {host : Host σ α} {packet : Packet} {before : σ} {pending : Pending α}
    (due : prepare host before packet = .ok pending) (reason : String) (request : Q) :
    visit host reason packet request before =
      some (.descend request (conclude host reason pending), before) := by
  unfold visit
  rw [Effect.get_bind, due]
  rfl

theorem visit_skipped {Q : Type} {host : Host σ α} {packet : Packet} {before : σ} {skip : Skip}
    (left : prepare host before packet = .error skip) (reason : String) (request : Q) :
    visit host reason packet request before =
      some (.descend request fun settlement =>
        return { settlement with extras := settlement.extras.push skip.notice.event }, before) := by
  unfold visit
  rw [Effect.get_bind, left]
  rfl

theorem visit_atop {Q : Type} {host : Host σ α} {reason : String} {packet : Packet}
    {below : Q → Effect σ Settlement} {request : Q} {hook : Hook σ (Uniform Q Settlement)}
    {before after : σ} {answer : Settlement}
    (visits : hook request = visit host reason packet request) :
    hook.atop below request before = some (answer, after) ↔
      Refunds host reason packet below request before answer after := by
  unfold Hook.atop
  rw [visits, Effect.bind_run]
  cases prepared : prepare host before packet with
  | error skip =>
      rw [visit_skipped prepared]
      simp only [Option.bind_some, Effect.bind_eq_some]
      constructor
      · rintro ⟨settlement, middle, asked, finished⟩
        obtain ⟨rfl, rfl⟩ := Effect.pure_eq_some.mp finished
        exact .skipped prepared asked
      · intro refunds
        cases refunds with
        | skipped left asked =>
            rw [prepared, Except.error.injEq] at left
            subst left
            exact ⟨_, _, asked, rfl⟩
        | refused due | failed due | repaid due =>
            rw [prepared] at due
            contradiction
  | ok pending =>
      rw [visit_due prepared]
      simp only [Option.bind_some, Effect.bind_eq_some, conclude_eq_some]
      constructor
      · rintro ⟨settlement, middle, asked, ⟨error, verdict, rfl, rfl⟩ | ⟨verdict, rest⟩⟩
        · exact .refused prepared asked verdict
        · rcases rest with ⟨error, stopped, rfl⟩ | ⟨notice, done, rfl⟩
          · exact .failed prepared asked verdict stopped
          · exact .repaid prepared asked verdict done
      · intro refunds
        cases refunds with
        | skipped left asked =>
            rw [prepared] at left
            contradiction
        | refused due asked verdict => exact ⟨_, _, asked, .inl ⟨_, verdict, rfl, rfl⟩⟩
        | failed due asked verdict stopped =>
            rw [prepared, Except.ok.injEq] at due
            subst due
            exact ⟨_, _, asked, .inr ⟨verdict, .inl ⟨_, stopped, rfl⟩⟩⟩
        | repaid due asked verdict done =>
            rw [prepared, Except.ok.injEq] at due
            subst due
            exact ⟨_, _, asked, .inr ⟨verdict, .inr ⟨_, done, rfl⟩⟩⟩

theorem acknowledgeHook_failure {host : Host σ α} {delivery : Delivery}
    {acknowledgement : Acknowledgement} {message : String}
    (failed : acknowledgement.status? = some (.failure message)) :
    acknowledgeHook host (delivery, acknowledgement) =
      visit host acknowledgementReason delivery.packet (delivery, acknowledgement) := by
  unfold acknowledgeHook
  rw [failed]

theorem acknowledgeHook_other {host : Host σ α} {delivery : Delivery}
    {acknowledgement : Acknowledgement}
    (other : ∀ message, acknowledgement.status? ≠ some (.failure message)) :
    acknowledgeHook host (delivery, acknowledgement) = Hook.pass (delivery, acknowledgement) := by
  unfold acknowledgeHook
  split
  · rename_i message failed
    exact absurd failed (other message)
  · rfl

-- Taking a swap back on a chain in memory.

-- The hop that a trace keeps is the one that the packet left over.
theorem Due.arrived {before : Chain} {packet : Packet} {settings : Settings}
    {pending : Pending Account} (due : Due Chain.host before packet settings pending) :
    pending.payload.denom.hops = [] ∨ pending.payload.denom.arrivedOver packet.source = true := by
  have route := due.route
  rw [Route.goesOut, Bool.and_eq_true] at route
  have known := Payload.denom_of_ofBytes? due.readable
  rw [due.outbound, Route.outboundTrace_eq route.1] at known
  exact Denom.arrivedOver_of_ofText known

-- What the application pays back is the voucher, if the token has a trace, and nothing of it
-- otherwise.
theorem Due.refunded {switches : Transfer.Switches} {packet : Packet} {before middle : Chain}
    {payload : Payload} {pending : Pending Account}
    (due : Due Chain.host before packet before.settings pending)
    (done : Transfer.refund switches packet before = some (.ok payload, middle)) :
    ∃ bank, middle = { before with bank } ∧ ∀ holder, holder ≠ Chain.escrow packet.source →
      bank.units holder before.settings.voucher = before.bank.units holder before.settings.voucher +
        if pending.payload.denom.hops = [] then 0
        else Bank.share pending.sender pending.payload.amount.units holder := by
  obtain ⟨-, readable, sender, bank, found, pays, rfl⟩ := Transfer.refund_eq_ok.mp done
  rw [due.readable, Option.some.injEq] at readable
  subst readable
  have same := due.sender
  rw [found, Option.some.injEq] at same
  subst same
  refine ⟨bank, rfl, ?_⟩
  intro holder different
  obtain ⟨paid, posted, free⟩ := pays.posted
  by_cases trace : pending.payload.denom.hops = []
  · rw [if_pos trace]
    apply posted.others
    rw [Denom.ledgerName_of_hops_nil trace, due.outbound]
    exact Voucher.ofTrace_ne_trace _ _ _ _
  · rw [if_neg trace]
    have arrived := due.arrived.resolve_left trace
    have name : pending.payload.denom.ledgerName = before.settings.voucher := by
      rw [Denom.ledgerName_of_arrivedOver arrived, due.outbound]
      rfl
    have entry := posted.entry holder
    rw [free holder different, name] at entry
    exact entry

-- So whether the sender has the vouchers now is a question of the trace, or else of what the sender
-- had before.
theorem Due.holds_iff {switches : Transfer.Switches} {packet : Packet} {before middle : Chain}
    {payload : Payload} {pending : Pending Account}
    (due : Due Chain.host before packet before.settings pending)
    (done : Transfer.refund switches packet before = some (.ok payload, middle)) :
    pending.payload.amount.units ≤ middle.bank.units pending.sender before.settings.voucher ↔
      pending.payload.denom.hops ≠ [] ∨
        pending.payload.amount.units ≤
          before.bank.units pending.sender before.settings.voucher := by
  obtain ⟨bank, rfl, units⟩ := due.refunded done
  have entry := units pending.sender (Ne.symm (Chain.escrow_ne_account due.sender packet.source))
  by_cases trace : pending.payload.denom.hops = []
  · rw [if_pos trace, Nat.add_zero] at entry
    rw [entry]
    exact ⟨.inr, fun held => held.resolve_left fun wrong => wrong trace⟩
  · rw [if_neg trace, Bank.share_self] at entry
    exact iff_of_true (Nat.le_of_add_left_le (Nat.le_of_eq entry.symm)) (.inl trace)

/-- How far the coins of a refund get. -/
inductive Repays (reason : String) (pending : Pending Account) (before : Chain) :
    Except Error Notice → Chain → Prop where
  | unfunded {error : Error} (refused : coins Chain.host before pending = .error error) :
      Repays reason pending before (.error error) before
  | unlocked {voucher native : Coin} {error : Error}
      (exchange : Exchange Chain.host before pending voucher native)
      (refused : before.bank.send pending.sender Chain.reserve voucher = some (.error error)) :
      Repays reason pending before (.error error) before
  | unpaid {voucher native : Coin} {locked : Bank} {error : Error}
      (exchange : Exchange Chain.host before pending voucher native)
      (taken : before.bank.send pending.sender Chain.reserve voucher = some (.ok locked))
      (refused : locked.send Chain.reserve pending.sender native = some (.error error)) :
      Repays reason pending before (.error error) { before with bank := locked }
  | repaid {voucher native : Coin} {locked paid : Bank}
      (exchange : Exchange Chain.host before pending voucher native)
      (taken : before.bank.send pending.sender Chain.reserve voucher = some (.ok locked))
      (given : locked.send Chain.reserve pending.sender native = some (.ok paid)) :
      Repays reason pending before
        (.ok (.refunded ⟨pending.payload.sender, native.denom.text, native.amount, reason⟩))
        { before with bank := paid, totals := before.totals.releaseOut native.amount }

theorem repay_eq_some {reason : String} {pending : Pending Account} {before after : Chain}
    {outcome : Except Error Notice} :
    repay Chain.host reason pending before = some (outcome, after) ↔
      Repays reason pending before outcome after := by
  have release (amount : Amount) (state final : Chain) (result : Unit) :
      Reserve.releaseOut Chain.host amount state = some (.ok result, final) ↔
        final = { state with totals := state.totals.releaseOut amount } := by
    rw [Chain.releaseOut_run]
    simp [eq_comm]
  cases outcome with
  | error error =>
      simp only [repay, Attempt.get_bind, Attempt.bind_eq_error, Attempt.check_eq_ok,
        Attempt.check_eq_error, Attempt.pure_eq_error, Chain.lock_run, Chain.unlock_run,
        Chain.sendCoins_eq_error, Chain.sendCoins_eq_ok, Chain.releaseOut_run]
      constructor
      · rintro (⟨refused, rfl⟩ | ⟨⟨voucher, native⟩, _, ⟨agreed, rfl⟩, rest⟩)
        · exact .unfunded refused
        have exchange := coins_eq_ok.mp agreed
        rcases rest with
          ⟨refused, rfl⟩ | ⟨-, -, ⟨locked, taken, rfl⟩, ⟨refused, rfl⟩ | ⟨_, _, _, rest⟩⟩
        · exact .unlocked exchange refused
        · exact .unpaid exchange taken refused
        · rcases rest with wrong | ⟨-, -, -, wrong⟩
          · cases wrong
          · contradiction
      · intro repays
        cases repays with
        | unfunded refused => exact .inl ⟨refused, rfl⟩
        | unlocked exchange refused =>
            exact .inr ⟨_, _, ⟨coins_eq_ok.mpr exchange, rfl⟩, .inl ⟨refused, rfl⟩⟩
        | unpaid exchange taken refused =>
            exact .inr ⟨_, _, ⟨coins_eq_ok.mpr exchange, rfl⟩,
              .inr ⟨(), _, ⟨_, taken, rfl⟩, .inl ⟨refused, rfl⟩⟩⟩
  | ok notice =>
      simp only [repay, Attempt.get_bind, Attempt.bind_eq_ok, Attempt.check_eq_ok,
        Attempt.pure_eq_ok, Chain.lock_run, Chain.unlock_run, Chain.sendCoins_eq_ok, release]
      constructor
      · rintro ⟨⟨voucher, native⟩, _, ⟨agreed, rfl⟩, -, -, ⟨locked, taken, rfl⟩, -, -,
          ⟨paid, given, rfl⟩, -, -, rfl, rfl, rfl⟩
        exact .repaid (coins_eq_ok.mp agreed) taken given
      · intro repays
        cases repays with
        | repaid exchange taken given =>
            exact ⟨_, _, ⟨coins_eq_ok.mpr exchange, rfl⟩, (), _, ⟨_, taken, rfl⟩, (), _,
              ⟨_, given, rfl⟩, (), _, rfl, rfl, rfl⟩

end Refund

end VoucherSwap
