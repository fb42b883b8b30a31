import VoucherSwap.Receive
import VoucherSwap.Proofs.Chain
import VoucherSwap.Proofs.Payload

/-!
Receiving never turns a success into a failure. A packet that is not admitted is answered at once,
and nothing below sees it. For an admitted one the answer from below stands: its acknowledgement and
its log stay, and whatever becomes of the swap is one event behind its events. Of the host nothing
is assumed. On a chain in memory the swap ends in one of four ways, which say how far the coins got.
-/

namespace VoucherSwap

namespace Receive

variable {σ α : Type}

/-- A packet that the application may see. -/
structure Admits (host : Host σ α) (state : σ) (packet : Packet) (payload : Payload) : Prop where
  ready : ∃ channel, host.channel? state packet.destination = some channel ∧ channel.state = .open
  readable : packet.payload? = some payload
  sender : payload.sender ≠ ""
  receiver : ∃ account, host.account? payload.receiver = some account
  positive : payload.amount ≠ .zero

theorem screen_eq_ok {host : Host σ α} {state : σ} {packet : Packet} {payload : Payload} :
    screen host state packet = .ok payload ↔ Admits host state packet payload := by
  simp only [screen, Check.bind_eq_ok, Check.pure_eq_ok, Check.guard_eq_ok, Host.account_eq_ok,
    Route.openChannel_eq_ok, Route.payload_eq_ok, Route.checkPositive_eq_ok]
  constructor
  · rintro ⟨channel, ready, read, readable, sender, account, receiver, -, positive, rfl⟩
    exact ⟨⟨channel, ready⟩, readable, sender, ⟨account, receiver⟩, positive⟩
  · rintro ⟨⟨channel, ready⟩, readable, sender, ⟨account, receiver⟩, positive⟩
    exact ⟨channel, ready, payload, readable, sender, account, receiver, (), positive, rfl⟩

/-- A received voucher that may be swapped, and what for. -/
structure Eligible (host : Host σ α) (state : σ) (packet : Packet) (payload : Payload)
    (settings : Settings) (wrapping : Wrapping α) : Prop where
  stored : host.settings state = .ok settings
  counterparty : Route.checkCounterparty host state settings packet.destination = .ok ()
  clients : Route.checkClients host state settings packet.destination = .ok ()
  configured : settings.configured = true
  wrapped : Route.isWrappedDenom settings payload.denom.text = true
  arriving : payload.denom.arrivedOver packet.source = false
  enabled : settings.enabled = true
  route : Route.comesIn settings packet = true
  receiver : host.account? payload.receiver = some wrapping.receiver
  scaled : Precision.scaleDown payload.amount settings.decimalDifference =
    .ok wrapping.native.amount
  voucherDenom : wrapping.voucher.denom.text =
    Voucher.denom packet.destination.port.text packet.destination.channel.text payload.denom.text
  voucherAmount : wrapping.voucher.amount = payload.amount
  nativeDenom : wrapping.native.denom.text = host.nativeDenom state
  receiverHolds : host.holds state wrapping.receiver wrapping.voucher = true
  reserveHolds : host.holds state (host.reserve state) wrapping.native = true

theorem assess_eq_ok {host : Host σ α} {state : σ} {packet : Packet} {payload : Payload}
    {wrapping : Wrapping α} :
    assess host state packet payload = .ok wrapping ↔
      ∃ settings, Eligible host state packet payload settings wrapping := by
  simp only [assess, Check.bind_eq_ok, Check.pure_eq_ok, Check.mapError_eq_ok, Check.guard_eq_ok,
    Coin.make_eq_ok, Host.account_eq_ok, Reserve.checkBalances_eq_ok, Bool.not_eq_true',
    Bool.not_eq_false, Bool.not_eq_true]
  constructor
  · rintro ⟨settings, read, ⟨⟩, counterparty, ⟨⟩, clients, configured, wrapped, arriving, enabled,
      route, account, receiver, converted, scaled, voucher, ⟨voucherDenom, voucherAmount⟩, native,
      ⟨nativeDenom, rfl⟩, -, ⟨receiverHolds, reserveHolds⟩, rfl⟩
    exact ⟨settings, read, counterparty, clients, configured, wrapped, arriving, enabled,
      route, receiver, scaled, voucherDenom, voucherAmount, nativeDenom, receiverHolds,
      reserveHolds⟩
  · rintro ⟨settings, eligible⟩
    exact ⟨settings, eligible.stored, (), eligible.counterparty, (), eligible.clients,
      eligible.configured, eligible.wrapped, eligible.arriving, eligible.enabled, eligible.route,
      wrapping.receiver, eligible.receiver, wrapping.native.amount, eligible.scaled,
      wrapping.voucher, ⟨eligible.voucherDenom, eligible.voucherAmount⟩, wrapping.native,
      ⟨eligible.nativeDenom, rfl⟩, (), ⟨eligible.receiverHolds, eligible.reserveHolds⟩, rfl⟩

/-- A notice that can follow a success: the swap was left out, failed or took place. -/
inductive Follows : Notice → Prop where
  | info (message : String) : Follows (.info message)
  | failure (message : String) : Follows (.failure message)
  | wrapped (crossing : Crossing) : Follows (.wrapped crossing)

theorem follows_skip (skip : Skip) : Follows skip.notice := by
  cases skip with
  | aside message => exact .info message
  | failed message => exact .failure message

def Halts (host : Host σ α) : Prop :=
  (∃ sender receiver coin state, host.sendCoins sender receiver coin state = none) ∨
    ∃ totals state, host.storeTotals totals state = none

def crossing (packet : Packet) (payload : Payload) (wrapping : Wrapping α) : Crossing where
  sender := payload.sender
  receiver := payload.receiver
  amount := wrapping.native.amount
  denom := wrapping.native.denom.text
  source := packet.source
  destination := packet.destination

def told : Except Skip Notice → Notice
  | .ok notice => notice
  | .error skip => skip.notice

theorem settle_notice {host : Host σ α} {packet : Packet} {payload : Payload}
    {wrapping : Wrapping α} {notice : Notice} {before after : σ}
    (settled : settle host packet payload wrapping before = some (.ok notice, after)) :
    notice = .wrapped (crossing packet payload wrapping) := by
  simp only [settle, Attempt.bind_eq_ok, Attempt.pure_eq_ok] at settled
  obtain ⟨-, -, -, -, -, -, -, -, -, rfl, -⟩ := settled
  rfl

theorem wrap_skips {host : Host σ α} {packet : Packet} {payload : Payload} {before : σ}
    {skip : Skip} (assessed : assess host before packet payload = .error skip) :
    wrap host packet payload before = some (skip.notice, before) := by
  unfold wrap
  rw [Effect.get_bind, assessed]
  rfl

theorem wrap_of_settle {host : Host σ α} {packet : Packet} {payload : Payload}
    {wrapping : Wrapping α} {before after : σ} {settings : Settings} {outcome : Except Skip Notice}
    (eligible : Eligible host before packet payload settings wrapping)
    (settled : settle host packet payload wrapping before = some (outcome, after)) :
    wrap host packet payload before = some (told outcome, after) := by
  unfold wrap
  rw [Effect.get_bind, assess_eq_ok.mpr ⟨settings, eligible⟩]
  refine Effect.bind_eq_some.mpr ⟨outcome, after, settled, ?_⟩
  cases outcome <;> rfl

theorem settle_eq_none {host : Host σ α} {packet : Packet} {payload : Payload}
    {wrapping : Wrapping α} {before : σ}
    (halted : settle host packet payload wrapping before = none) : Halts host := by
  simp only [settle, Attempt.bind_eq_none, Attempt.adapt_eq_none] at halted
  rcases halted with
    locking | ⟨-, locked, -, unlocking | ⟨-, unlocked, -, counting | ⟨-, counted, -, done⟩⟩⟩
  · exact .inl ⟨_, _, _, _, locking⟩
  · exact .inl ⟨_, _, _, _, unlocking⟩
  · simp only [Reserve.recordIn, Attempt.get_bind, Attempt.bind_eq_none] at counting
    rcases counting with reading | ⟨totals, read, -, adding | ⟨sum, added, -, storing⟩⟩
    · cases reading
    · cases adding
    · exact .inr ⟨_, _, storing⟩
  · cases done

theorem wrap_follows {host : Host σ α} {packet : Packet} {payload : Payload} {notice : Notice}
    {before after : σ} (wrapped : wrap host packet payload before = some (notice, after)) :
    Follows notice := by
  unfold wrap at wrapped
  rw [Effect.get_bind] at wrapped
  cases assessed : assess host before packet payload with
  | error skip =>
      simp only [assessed, Effect.pure_eq_some] at wrapped
      rw [← wrapped.1]
      exact follows_skip skip
  | ok wrapping =>
      simp only [assessed, Effect.bind_eq_some] at wrapped
      obtain ⟨outcome, middle, settled, concluded⟩ := wrapped
      cases outcome with
      | error skip =>
          obtain ⟨rfl, -⟩ := Effect.pure_eq_some.mp concluded
          exact follows_skip skip
      | ok result =>
          obtain ⟨rfl, -⟩ := Effect.pure_eq_some.mp concluded
          rw [settle_notice settled]
          exact .wrapped _

theorem wrap_eq_none {host : Host σ α} {packet : Packet} {payload : Payload} {before : σ}
    (halted : wrap host packet payload before = none) : Halts host := by
  unfold wrap at halted
  rw [Effect.get_bind] at halted
  cases assessed : assess host before packet payload with
  | error skip =>
      rw [assessed] at halted
      cases halted
  | ok wrapping =>
      simp only [assessed, Effect.bind_eq_none] at halted
      rcases halted with settling | ⟨outcome, middle, -, concluding⟩
      · exact settle_eq_none settling
      · cases outcome <;> cases concluding

/-- An answer that keeps what came from below and adds what became of the swap. -/
structure Extends (below answer : Receipt) : Prop where
  acknowledgement : answer.acknowledgement = below.acknowledgement
  log : answer.extras.log = below.extras.log
  events : ∃ notice, Follows notice ∧ answer.extras.events = below.extras.events ++ [notice.event]

def finish (host : Host σ α) (packet : Packet) (payload : Payload) (receipt : Receipt) :
    Effect σ Receipt := do
  if isSuccess receipt.acknowledgement then
    let notice ← wrap host packet payload
    return { receipt with extras := receipt.extras.push notice.event }
  else return receipt

theorem hook_refuses {host : Host σ α} {delivery : Delivery} {before : σ} {error : Error}
    (screened : screen host before delivery.packet = .error error) :
    hook host delivery before = some (.answer (refusal error), before) := by
  unfold hook
  rw [Effect.get_bind, screened]
  rfl

theorem hook_admits {host : Host σ α} {delivery : Delivery} {before : σ} {payload : Payload}
    (screened : screen host before delivery.packet = .ok payload) :
    hook host delivery before =
      some (.descend delivery (finish host delivery.packet payload), before) := by
  unfold hook
  rw [Effect.get_bind, screened]
  rfl

theorem atop_refuses {host : Host σ α} {delivery : Delivery} {before : σ} {error : Error}
    (screened : screen host before delivery.packet = .error error)
    (below : Delivery → Effect σ Receipt) :
    (hook host).atop below delivery before = some (refusal error, before) := by
  unfold Hook.atop
  rw [Effect.bind_run, hook_refuses screened]
  rfl

theorem atop_admits {host : Host σ α} {delivery : Delivery} {before : σ} {payload : Payload}
    (screened : screen host before delivery.packet = .ok payload)
    (below : Delivery → Effect σ Receipt) :
    (hook host).atop below delivery before =
      (below delivery before).bind fun step =>
        finish host delivery.packet payload step.1 step.2 := by
  unfold Hook.atop
  rw [Effect.bind_run, hook_admits screened]
  rfl

theorem finish_other {host : Host σ α} {packet : Packet} {payload : Payload} {receipt : Receipt}
    (other : isSuccess receipt.acknowledgement = false) (middle : σ) :
    finish host packet payload receipt middle = some (receipt, middle) := by
  unfold finish
  rw [other]
  rfl

theorem finish_of_wrap {host : Host σ α} {packet : Packet} {payload : Payload} {receipt : Receipt}
    {notice : Notice} {middle after : σ} (success : isSuccess receipt.acknowledgement = true)
    (wrapped : wrap host packet payload middle = some (notice, after)) :
    finish host packet payload receipt middle =
      some ({ receipt with extras := receipt.extras.push notice.event }, after) := by
  unfold finish
  rw [success, if_pos rfl]
  exact Effect.bind_eq_some.mpr ⟨_, _, wrapped, rfl⟩

theorem finish_success {host : Host σ α} {packet : Packet} {payload : Payload}
    {receipt answer : Receipt} {middle after : σ}
    (success : isSuccess receipt.acknowledgement = true)
    (finished : finish host packet payload receipt middle = some (answer, after)) :
    ∃ notice, wrap host packet payload middle = some (notice, after) ∧
      answer = { receipt with extras := receipt.extras.push notice.event } := by
  unfold finish at finished
  rw [success, if_pos rfl, Effect.bind_eq_some] at finished
  obtain ⟨notice, final, wrapped, concluded⟩ := finished
  obtain ⟨rfl, rfl⟩ := Effect.pure_eq_some.mp concluded
  exact ⟨notice, wrapped, rfl⟩

theorem finish_eq_none {host : Host σ α} {packet : Packet} {payload : Payload} {receipt : Receipt}
    {middle : σ} (halted : finish host packet payload receipt middle = none) : Halts host := by
  unfold finish at halted
  cases success : isSuccess receipt.acknowledgement with
  | false =>
      rw [success] at halted
      cases halted
  | true =>
      rw [success, if_pos rfl, Effect.bind_eq_none] at halted
      rcases halted with wrapping | ⟨notice, final, -, concluding⟩
      · exact wrap_eq_none wrapping
      · cases concluding

theorem isSuccess_iff {acknowledgement : Acknowledgement} :
    isSuccess acknowledgement = true ↔ ∃ value,
      acknowledgement.status? = some (.success value) := by
  unfold isSuccess
  cases acknowledgement.status? with
  | none => simp
  | some status => cases status <;> simp [Acknowledgement.Status.isSuccess]

theorem atop_eq_some {host : Host σ α} {below : Delivery → Effect σ Receipt} {delivery : Delivery}
    {answer : Receipt} {before after : σ}
    (ran : (hook host).atop below delivery before = some (answer, after)) :
    (∃ error, screen host before delivery.packet = .error error ∧ answer = refusal error ∧
      after = before) ∨
      ∃ payload receipt middle, screen host before delivery.packet = .ok payload ∧
        below delivery before = some (receipt, middle) ∧
        finish host delivery.packet payload receipt middle = some (answer, after) := by
  cases screened : screen host before delivery.packet with
  | error error =>
      rw [atop_refuses screened] at ran
      cases ran
      exact .inl ⟨error, rfl, rfl, rfl⟩
  | ok payload =>
      rw [atop_admits screened] at ran
      obtain ⟨⟨receipt, middle⟩, received, finished⟩ := Option.bind_eq_some_iff.mp ran
      exact .inr ⟨payload, receipt, middle, rfl, received, finished⟩

structure Refuses (answer : Receipt) (message : String) : Prop where
  acknowledgement : answer.acknowledgement = .ofStatus (.failure message)
  events : answer.extras.events = [(Notice.failure message).event]
  log : answer.extras.log = []

-- What is below enters in the second case alone, and there exactly once, on the state that was
-- handed in. What follows its answer depends on that answer and the state that came with it, on
-- nothing else.
theorem verdict_stands (host : Host σ α) (delivery : Delivery) (before : σ) :
    ((∀ payload, ¬ Admits host before delivery.packet payload) →
      ∃ answer message, Refuses answer message ∧
        hook host delivery before = some (.answer answer, before) ∧
        ∀ below, (hook host).atop below delivery before = some (answer, before)) ∧
    ∀ payload, Admits host before delivery.packet payload →
      ∃ follow : Receipt → Effect σ Receipt,
        hook host delivery before = some (.descend delivery follow, before) ∧
        (∀ below, (hook host).atop below delivery before =
          (below delivery before).bind fun step => follow step.1 step.2) ∧
        ∀ receipt middle,
          ((∀ value, receipt.acknowledgement.status? ≠ some (.success value)) →
            follow receipt middle = some (receipt, middle)) ∧
          ((∃ value, receipt.acknowledgement.status? = some (.success value)) →
            (∀ answer after, follow receipt middle = some (answer, after) →
              Extends receipt answer) ∧
              (follow receipt middle = none → Halts host)) := by
  constructor
  · intro refused
    cases screened : screen host before delivery.packet with
    | ok payload => exact absurd (screen_eq_ok.mp screened) (refused payload)
    | error error =>
      exact ⟨refusal error, error.message, ⟨rfl, rfl, rfl⟩, hook_refuses screened,
        atop_refuses screened⟩
  · intro payload admitted
    have screened := screen_eq_ok.mpr admitted
    refine ⟨finish host delivery.packet payload, hook_admits screened, atop_admits screened, ?_⟩
    intro receipt middle
    constructor
    · intro other
      apply finish_other
      apply Bool.eq_false_iff.mpr
      intro success
      obtain ⟨value, status⟩ := isSuccess_iff.mp success
      exact other value status
    · intro success
      constructor
      · intro answer after finished
        obtain ⟨notice, wrapped, rfl⟩ := finish_success (isSuccess_iff.mpr success) finished
        exact ⟨rfl, rfl, notice, wrap_follows wrapped, rfl⟩
      · exact finish_eq_none

def samplePayload : Payload where
  denom := ⟨[], Sample.nativeDenom, by decide⟩
  amount := ⟨5, by decide⟩
  sender := "cosmos1sender"
  receiver := "zig1receiver"
  memo := ""

def sampleDelivery : Delivery := ⟨{ Sample.packet with data := samplePayload.bytes }, ""⟩

theorem verdict_stands_sampleDelivery :
    Admits Chain.host Sample.openChain sampleDelivery.packet samplePayload ∧
      ∃ follow : Receipt → Effect Chain Receipt,
        hook Chain.host sampleDelivery Sample.openChain =
          some (.descend sampleDelivery follow, Sample.openChain) := by
  have known : Denom.ofText samplePayload.denom.text = .ok samplePayload.denom := by rfl
  have admitted : Admits Chain.host Sample.openChain sampleDelivery.packet samplePayload := {
    ready := ⟨_, rfl, rfl⟩
    readable := Packet.payload?_of_data rfl known
    sender := by decide
    receiver := ⟨_, rfl⟩
    positive := by decide }
  obtain ⟨follow, descends, -, -⟩ :=
    (verdict_stands Chain.host sampleDelivery Sample.openChain).2 _ admitted
  exact ⟨admitted, follow, descends⟩

-- The swap on a chain in memory.

/-- What moving the coins of a swap does to a chain: it ends at the first step that fails. -/
inductive Settles (packet : Packet) (payload : Payload) (wrapping : Wrapping Account)
    (before : Chain) :
    Except Skip Notice → Chain → Prop where
  | unlocked {error : Error}
      (refused : before.bank.send wrapping.receiver Chain.reserve wrapping.voucher =
        some (.error error)) :
      Settles packet payload wrapping before (.error (.ofError error)) before
  | unpaid {locked : Bank} {error : Error} (message : String)
      (taken : before.bank.send wrapping.receiver Chain.reserve wrapping.voucher =
        some (.ok locked))
      (refused : locked.send Chain.reserve wrapping.receiver wrapping.native =
        some (.error error)) :
      Settles packet payload wrapping before (.error (.failed message))
        { before with bank := locked }
  | uncounted {locked paid : Bank} {error : Error}
      (taken : before.bank.send wrapping.receiver Chain.reserve wrapping.voucher =
        some (.ok locked))
      (given : locked.send Chain.reserve wrapping.receiver wrapping.native = some (.ok paid))
      (overflow : before.totals.recordIn wrapping.native.amount = .error error) :
      Settles packet payload wrapping before (.error (.ofError error)) { before with bank := paid }
  | swapped {locked paid : Bank} {totals : Totals} (crossing : Crossing)
      (taken : before.bank.send wrapping.receiver Chain.reserve wrapping.voucher =
        some (.ok locked))
      (given : locked.send Chain.reserve wrapping.receiver wrapping.native = some (.ok paid))
      (counted : before.totals.recordIn wrapping.native.amount = .ok totals) :
      Settles packet payload wrapping before (.ok (.wrapped crossing))
        { before with bank := paid, totals }

theorem settle_settles {packet : Packet} {payload : Payload} {wrapping : Wrapping Account}
    {before after : Chain} {outcome : Except Skip Notice}
    (settled : settle Chain.host packet payload wrapping before = some (outcome, after)) :
    Settles packet payload wrapping before outcome after := by
  cases outcome with
  | error skip =>
      simp only [settle, Attempt.bind_eq_error, Attempt.adapt_eq_error, Attempt.adapt_eq_ok,
        Attempt.pure_eq_error, Chain.lock_run, Chain.unlock_run, Chain.sendCoins_eq_error,
        Chain.sendCoins_eq_ok, Chain.recordIn_eq_error] at settled
      rcases settled with ⟨error, ⟨refused, rfl⟩, rfl⟩ | ⟨-, -, ⟨locked, taken, rfl⟩, rest⟩
      · exact .unlocked refused
      rcases rest with ⟨error, ⟨refused, rfl⟩, rfl⟩ | ⟨-, -, ⟨paid, given, rfl⟩, rest⟩
      · exact .unpaid _ taken refused
      rcases rest with ⟨error, ⟨overflow, rfl⟩, rfl⟩ | ⟨-, -, -, impossible⟩
      · exact .uncounted taken given overflow
      · contradiction
  | ok notice =>
      simp only [settle, Attempt.bind_eq_ok, Attempt.adapt_eq_ok, Attempt.pure_eq_ok,
        Chain.lock_run, Chain.unlock_run, Chain.sendCoins_eq_ok, Chain.recordIn_eq_ok] at settled
      obtain ⟨-, -, ⟨locked, taken, rfl⟩, -, -, ⟨paid, given, rfl⟩, -, -,
        ⟨totals, counted, rfl⟩, rfl, rfl⟩ :=
        settled
      exact .swapped _ taken given counted

theorem wrap_settles {packet : Packet} {payload : Payload} {notice : Notice} {before after : Chain}
    (wrapped : wrap Chain.host packet payload before = some (notice, after)) :
    (∃ skip, assess Chain.host before packet payload = .error skip ∧ notice = skip.notice ∧
      after = before) ∨
      ∃ wrapping outcome, Eligible Chain.host before packet payload before.settings wrapping ∧
        Settles packet payload wrapping before outcome after ∧ notice = told outcome ∧
        ∀ done, outcome = .ok done → done = .wrapped (crossing packet payload wrapping) := by
  unfold wrap at wrapped
  rw [Effect.get_bind] at wrapped
  cases assessed : assess Chain.host before packet payload with
  | error skip =>
      rw [assessed] at wrapped
      obtain ⟨rfl, rfl⟩ := Effect.pure_eq_some.mp wrapped
      exact .inl ⟨skip, rfl, rfl, rfl⟩
  | ok wrapping =>
      simp only [assessed, Effect.bind_eq_some] at wrapped
      obtain ⟨outcome, middle, settled, concluded⟩ := wrapped
      obtain ⟨settings, eligible⟩ := assess_eq_ok.mp assessed
      cases eligible.stored
      have settles := settle_settles settled
      cases outcome with
      | error skip =>
          obtain ⟨rfl, rfl⟩ := Effect.pure_eq_some.mp concluded
          exact .inr ⟨wrapping, _, eligible, settles, rfl, fun done wrong => by contradiction⟩
      | ok done =>
          obtain ⟨rfl, rfl⟩ := Effect.pure_eq_some.mp concluded
          refine .inr ⟨wrapping, _, eligible, settles, rfl, ?_⟩
          intro other same
          cases same
          exact settle_notice settled

end Receive

end VoucherSwap
