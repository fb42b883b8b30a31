import VoucherSwap.Chain.Faults
import VoucherSwap.Proofs.Abort
import VoucherSwap.Proofs.Stack

/-!
The totals can be told from the events alone. Whoever reads the events of a run in the order in
which they came, those that answers hand back and those that sends emit, and adds up the amounts of
wraps, unwraps and refunds, arrives at the totals that are stored. This needs little of the host:
what it says about totals and events must be true, and moving coins must not touch them. Any of its
capabilities may fail at any time.
-/

namespace VoucherSwap

namespace Audit

open Session

structure Tally where
  into : Nat
  out : Nat
  deriving DecidableEq

def tally (chain : Chain) : Tally :=
  ⟨chain.totals.transferredIn.units, chain.totals.transferredOut.units⟩

/-- The amount that an event names under a key; nothing if it names none. -/
def amountOf (key : String) (event : Event) : Nat :=
  match event.attributes.lookup key with
  | none => 0
  | some text =>
    match Amount.ofText text with
    | .ok amount => amount.units
    | .error _ => 0

theorem amountOf_lookup {key : String} {event : Event} {amount : Amount}
    (named : event.attributes.lookup key = some amount.text) :
    amountOf key event = amount.units := by
  simp only [amountOf, named, Amount.ofText_text]

/-- What an event does to the totals, told from its kind and its text. -/
def count (tally : Tally) (event : Event) : Tally :=
  if event.kind = "token_wrapped" then { tally with into := tally.into + amountOf "amount" event }
  else if event.kind = "token_unwrapped"
    then { tally with out := tally.out + amountOf "amount" event }
  else if event.kind = "token_wrapper_refund"
    then { tally with out := tally.out - amountOf "refund_amount" event }
  else tally

def replay (tally : Tally) (events : List Event) : Tally := events.foldl count tally

def Silent (events : List Event) : Prop := ∀ tally, replay tally events = tally

theorem replay_append (tally : Tally) (first second : List Event) :
    replay tally (first ++ second) = replay (replay tally first) second :=
  List.foldl_append

theorem Silent.append {first second : List Event} (one : Silent first) (two : Silent second) :
    Silent (first ++ second) := by
  intro tally
  rw [replay_append, one, two]

theorem silent_nil : Silent [] := fun _ => rfl

theorem silent_skip (skip : Skip) : Silent [skip.notice.event] := by
  intro tally
  cases skip <;> rfl

theorem silent_failure (message : String) : Silent [(Notice.failure message).event] := fun _ => rfl

theorem silent_info (message : String) : Silent [(Notice.info message).event] := fun _ => rfl

theorem silent_transfer (payload : Payload) (success : Bool) :
    Silent [Transfer.event payload success] :=
  fun _ => rfl

theorem replay_wrapped (tally : Tally) (crossing : Crossing) :
    replay tally [(Notice.wrapped crossing).event] =
      { tally with into := tally.into + crossing.amount.units } := by
  have named : amountOf "amount" (Notice.wrapped crossing).event = crossing.amount.units :=
    amountOf_lookup rfl
  rw [← named]
  rfl

theorem replay_unwrapped (tally : Tally) (crossing : Crossing) :
    replay tally [(Notice.unwrapped crossing).event] =
      { tally with out := tally.out + crossing.amount.units } := by
  have named : amountOf "amount" (Notice.unwrapped crossing).event = crossing.amount.units :=
    amountOf_lookup rfl
  rw [← named]
  rfl

theorem replay_refunded (tally : Tally) (repayment : Repayment) :
    replay tally [(Notice.refunded repayment).event] =
      { tally with out := tally.out - repayment.amount.units } := by
  have named :
      amountOf "refund_amount" (Notice.refunded repayment).event = repayment.amount.units :=
    amountOf_lookup rfl
  rw [← named]
  rfl

-- Hosts.

structure Still (before after : Chain) : Prop where
  totals : after.totals = before.totals
  events : after.events = before.events

theorem composable_still : Composable Still where
  refl _ := ⟨rfl, rfl⟩
  trans one two := ⟨two.totals.trans one.totals, two.events.trans one.events⟩

/-- A host that is honest about totals and events, whatever else it does and however often it
fails. -/
structure Faithful (host : Host Chain Account) : Prop where
  totals : ∀ {chain totals}, host.totals chain = .ok totals → totals = chain.totals
  stored : ∀ {totals before result after},
    host.storeTotals totals before = some (.ok result, after) →
    after.totals = totals ∧ after.events = before.events
  unstored : ∀ {totals before error after},
    host.storeTotals totals before = some (.error error, after) →
    Still before after
  sendCoins : ∀ sender receiver coin, Respects Still (host.sendCoins sender receiver coin)
  burnCoins : ∀ account coin, Respects Still (host.burnCoins account coin)
  emit : ∀ event chain, (host.emit event chain).totals = chain.totals ∧
    (host.emit event chain).events = chain.events ++ [event]
  log : ∀ line chain, Still chain (host.log line chain)

theorem sendCoins_still (sender receiver : Account) (coin : Coin) :
    Respects Still (Chain.sendCoins sender receiver coin) := by
  intro before result after ran
  cases result with
  | error error =>
      obtain ⟨-, rfl⟩ := Chain.sendCoins_eq_error.mp ran
      exact composable_still.refl _
  | ok done =>
      obtain ⟨bank, -, rfl⟩ := Chain.sendCoins_eq_ok.mp ran
      exact ⟨rfl, rfl⟩

theorem burnCoins_still (account : Account) (coin : Coin) :
    Respects Still (Chain.burnCoins account coin) := by
  intro before result after ran
  cases result with
  | error error =>
      obtain ⟨-, rfl⟩ := Chain.burnCoins_eq_error.mp ran
      exact composable_still.refl _
  | ok done =>
      obtain ⟨bank, -, rfl⟩ := Chain.burnCoins_eq_ok.mp ran
      exact ⟨rfl, rfl⟩

theorem faultyHost_faithful (faults : Chain.Faults) : Faithful (Chain.faultyHost faults) where
  totals read := (Chain.faultyHost_totals_eq_ok.mp read).2
  stored := by
    intro totals before result after ran
    obtain ⟨-, rfl⟩ := Chain.faultyHost_storeTotals_eq_ok.mp ran
    exact ⟨rfl, rfl⟩
  unstored := by
    intro totals before error after ran
    obtain ⟨-, -, rfl⟩ := Chain.faultyHost_storeTotals_eq_error.mp ran
    exact composable_still.refl _
  sendCoins sender receiver coin := sendCoins_still _ _ _
  burnCoins account coin := burnCoins_still _ _
  emit event chain := ⟨rfl, rfl⟩
  log line chain := ⟨rfl, rfl⟩

theorem host_faithful : Faithful Chain.host := Chain.faultyHost_none ▸ faultyHost_faithful .none

-- What steps say about themselves.

/-- The totals have changed as the events say, those that were emitted and those that are handed
back. -/
def Accounted (told : List Event) (before after : Chain) : Prop :=
  ∃ emitted, after.events = before.events ++ emitted ∧
    tally after = replay (tally before) (emitted ++ told)

/-- No event says that the totals have changed, and they have not. -/
structure Quiet (before after : Chain) : Prop where
  totals : after.totals = before.totals
  events : ∃ emitted, after.events = before.events ++ emitted ∧ Silent emitted

theorem composable_quiet : Composable Quiet where
  refl chain := ⟨rfl, [], (List.append_nil _).symm, silent_nil⟩
  trans := by
    rintro first second third ⟨same, early, grown, silent⟩ ⟨also, late, further, quiet⟩
    refine ⟨also.trans same, early ++ late, ?_, silent.append quiet⟩
    rw [further, grown, List.append_assoc]

theorem Still.quiet {before after : Chain} (still : Still before after) : Quiet before after :=
  ⟨still.totals, [], by rw [still.events, List.append_nil], silent_nil⟩

theorem Still.tally {before after : Chain} (still : Still before after) :
    tally after = tally before := by
  unfold Audit.tally
  rw [still.totals]

theorem Quiet.tally {before after : Chain} (quiet : Quiet before after) :
    tally after = tally before := by
  unfold Audit.tally
  rw [quiet.totals]

theorem Quiet.accounted {told : List Event} {before after : Chain} (quiet : Quiet before after)
    (silent : Silent told) : Accounted told before after := by
  obtain ⟨emitted, grown, nothing⟩ := quiet.events
  refine ⟨emitted, grown, ?_⟩
  rw [quiet.tally, (nothing.append silent)]

theorem Quiet.then {told : List Event} {before middle after : Chain} (quiet : Quiet before middle)
    (accounted : Accounted told middle after) : Accounted told before after := by
  obtain ⟨early, grown, nothing⟩ := quiet.events
  obtain ⟨late, further, counted⟩ := accounted
  refine ⟨early ++ late, ?_, ?_⟩
  · rw [further, grown, List.append_assoc]
  · rw [counted, quiet.tally, List.append_assoc, replay_append _ early, nothing]

theorem accounted_of_tally {told : List Event} {before after : Chain}
    (same : after.events = before.events) (counted : tally after = replay (tally before) told) :
    Accounted told before after :=
  ⟨[], by rw [same, List.append_nil], counted⟩

theorem Accounted.append {silent told : List Event} {before after : Chain}
    (accounted : Accounted told before after) (nothing : Silent silent) :
    Accounted (silent ++ told) before after := by
  obtain ⟨emitted, grown, counted⟩ := accounted
  refine ⟨emitted, grown, ?_⟩
  rw [counted, replay_append, replay_append, replay_append, nothing]

section

variable {host : Host Chain Account} (faithful : Faithful host) {before after : Chain}
include faithful

theorem lock_still (holder : Account) (coin : Coin) :
    Respects Still (Reserve.lock host holder coin) :=
  fun before => faithful.sendCoins holder (host.reserve before) coin before

theorem unlock_still (holder : Account) (coin : Coin) :
    Respects Still (Reserve.unlock host holder coin) :=
  fun before => faithful.sendCoins (host.reserve before) holder coin before

-- The three ways of counting differ in the change alone.
theorem store_counts (change : Totals → Except Error Totals) {result : Unit}
    (ran : (do
      let totals ← host.totals (← get)
      host.storeTotals (← change totals) : Attempt Chain Unit) before = some (.ok result, after)) :
    ∃ totals, change before.totals = .ok totals ∧ after.totals = totals ∧
      after.events = before.events := by
  rw [Attempt.get_bind] at ran
  simp only [Attempt.bind_eq_ok, Attempt.check_eq_ok] at ran
  obtain ⟨totals, _, ⟨read, rfl⟩, changed, _, ⟨passed, rfl⟩, stored⟩ := ran
  rw [faithful.totals read] at passed
  exact ⟨changed, passed, faithful.stored stored⟩

theorem store_still (change : Totals → Except Error Totals) {error : Error}
    (ran : (do
        let totals ← host.totals (← get)
        host.storeTotals (← change totals) : Attempt Chain Unit) before =
      some (.error error, after)) :
    Still before after := by
  rw [Attempt.get_bind] at ran
  simp only [Attempt.bind_eq_error, Attempt.check_eq_ok, Attempt.check_eq_error] at ran
  rcases ran with ⟨-, rfl⟩ | ⟨totals, _, ⟨-, rfl⟩, ⟨-, rfl⟩ | ⟨changed, _, ⟨-, rfl⟩, unstored⟩⟩
  · exact composable_still.refl _
  · exact composable_still.refl _
  · exact faithful.unstored unstored

theorem recordIn_counts {amount : Amount} {result : Unit}
    (ran : Reserve.recordIn host amount before = some (.ok result, after)) :
    after.events = before.events ∧
      tally after = { tally before with into := (tally before).into + amount.units } := by
  obtain ⟨totals, added, same, events⟩ :=
    store_counts faithful (fun totals => totals.recordIn amount) ran
  obtain ⟨more, out⟩ := Totals.recordIn_eq_ok.mp added
  refine ⟨events, ?_⟩
  unfold tally
  rw [same, more, out]

theorem recordOut_counts {amount : Amount} {result : Unit}
    (ran : Reserve.recordOut host amount before = some (.ok result, after)) :
    after.events = before.events ∧
      tally after = { tally before with out := (tally before).out + amount.units } := by
  obtain ⟨totals, added, same, events⟩ :=
    store_counts faithful (fun totals => totals.recordOut amount) ran
  obtain ⟨more, into⟩ := Totals.recordOut_eq_ok.mp added
  refine ⟨events, ?_⟩
  unfold tally
  rw [same, more, into]

theorem releaseOut_counts {amount : Amount} {result : Unit}
    (ran : Reserve.releaseOut host amount before = some (.ok result, after)) :
    after.events = before.events ∧
      tally after = { tally before with out := (tally before).out - amount.units } := by
  obtain ⟨totals, released, same, events⟩ :=
    store_counts faithful (fun totals => .ok (totals.releaseOut amount)) ran
  cases released
  refine ⟨events, ?_⟩
  unfold tally
  rw [same]
  rfl

-- Receiving.

theorem settle_accounts {packet : Packet} {payload : Payload} {wrapping : Receive.Wrapping Account}
    {outcome : Except Skip Notice}
    (settled : Receive.settle host packet payload wrapping before = some (outcome, after)) :
    Accounted [(Receive.told outcome).event] before after := by
  cases outcome with
  | error skip =>
      simp only [Receive.settle, Attempt.bind_eq_error, Attempt.adapt_eq_error, Attempt.adapt_eq_ok,
        Attempt.pure_eq_error] at settled
      have still : Still before after := by
        rcases settled with ⟨_, unlocked, -⟩ | ⟨_, locked, taken, rest⟩
        · exact lock_still faithful _ _ _ _ _ unlocked
        have first := lock_still faithful _ _ _ _ _ taken
        rcases rest with ⟨_, unpaid, -⟩ | ⟨_, paid, given, rest⟩
        · exact composable_still.trans first (unlock_still faithful _ _ _ _ _ unpaid)
        have second := composable_still.trans first (unlock_still faithful _ _ _ _ _ given)
        rcases rest with ⟨_, uncounted, -⟩ | ⟨_, _, _, impossible⟩
        · exact composable_still.trans second
            (store_still faithful (fun totals => totals.recordIn wrapping.native.amount) uncounted)
        · contradiction
      exact still.quiet.accounted (silent_skip skip)
  | ok notice =>
      rw [Receive.settle_notice settled]
      simp only [Receive.settle, Attempt.bind_eq_ok, Attempt.adapt_eq_ok,
        Attempt.pure_eq_ok] at settled
      obtain ⟨_, locked, taken, _, paid, given, _, _, counted, -, rfl⟩ := settled
      have moved := composable_still.trans (lock_still faithful _ _ _ _ _ taken)
        (unlock_still faithful _ _ _ _ _ given)
      obtain ⟨events, more⟩ := recordIn_counts faithful counted
      apply moved.quiet.then
      exact accounted_of_tally events
        (more.trans (replay_wrapped (tally paid) (Receive.crossing packet payload wrapping)).symm)

theorem wrap_accounts {packet : Packet} {payload : Payload} {notice : Notice}
    (wrapped : Receive.wrap host packet payload before = some (notice, after)) :
    Accounted [notice.event] before after := by
  unfold Receive.wrap at wrapped
  rw [Effect.get_bind] at wrapped
  cases assessed : Receive.assess host before packet payload with
  | error skip =>
      rw [assessed] at wrapped
      obtain ⟨rfl, rfl⟩ := Effect.pure_eq_some.mp wrapped
      exact (composable_quiet.refl _).accounted (silent_skip skip)
  | ok wrapping =>
      simp only [assessed, Effect.bind_eq_some] at wrapped
      obtain ⟨outcome, middle, settled, concluded⟩ := wrapped
      have accounted := settle_accounts faithful settled
      cases outcome <;> obtain ⟨rfl, rfl⟩ := Effect.pure_eq_some.mp concluded <;> exact accounted

omit faithful in
theorem receives_quiet {switches : Transfer.Switches} {packet : Packet} {receipt : Receipt}
    (receives : Transfer.Receives switches packet before receipt after) :
    Quiet before after ∧ Silent receipt.extras.events := by
  cases receives with
  | accepted done =>
      obtain ⟨-, -, receiver, bank, -, -, rfl⟩ := Transfer.receive_eq_ok.mp done
      exact ⟨Still.quiet ⟨rfl, rfl⟩, silent_transfer _ _⟩
  | refused refuses => exact ⟨composable_quiet.refl _, silent_nil⟩

theorem receive_accounts {switches : Transfer.Switches} {delivery : Delivery} {answer : Receipt}
    (ran : (Receive.hook host).atop (Transfer.application switches).receive delivery before =
      some (answer, after)) :
    Accounted answer.extras.events before after := by
  rcases Receive.atop_eq_some ran with
    ⟨error, -, rfl, rfl⟩ | ⟨payload, receipt, middle, -, received, finished⟩
  · exact (composable_quiet.refl _).accounted (silent_failure error.message)
  obtain ⟨quiet, silent⟩ := receives_quiet (Transfer.receives received)
  cases success : Receive.isSuccess receipt.acknowledgement with
  | false =>
      rw [Receive.finish_other success] at finished
      cases finished
      exact quiet.accounted silent
  | true =>
      obtain ⟨notice, wrapped, rfl⟩ := Receive.finish_success success finished
      exact quiet.then ((wrap_accounts faithful wrapped).append silent)

-- Refunds.

theorem repay_accounts {reason : String} {pending : Refund.Pending Account}
    {outcome : Except Error Notice}
    (repaid : Refund.repay host reason pending before = some (outcome, after)) :
    Accounted [(Refund.told outcome).event] before after := by
  cases outcome with
  | error error =>
      simp only [Refund.repay, Attempt.get_bind, Attempt.bind_eq_error, Attempt.check_eq_ok,
        Attempt.check_eq_error, Attempt.pure_eq_error] at repaid
      have still : Still before after := by
        rcases repaid with ⟨-, rfl⟩ | ⟨⟨voucher, native⟩, _, ⟨-, rfl⟩, rest⟩
        · exact composable_still.refl _
        rcases rest with unlocked | ⟨_, locked, taken, rest⟩
        · exact lock_still faithful _ _ _ _ _ unlocked
        have first := lock_still faithful _ _ _ _ _ taken
        rcases rest with unpaid | ⟨_, paid, given, rest⟩
        · exact composable_still.trans first (unlock_still faithful _ _ _ _ _ unpaid)
        have second := composable_still.trans first (unlock_still faithful _ _ _ _ _ given)
        rcases rest with uncounted | ⟨_, _, _, impossible⟩
        · exact composable_still.trans second
            (store_still faithful (fun totals => .ok (totals.releaseOut native.amount)) uncounted)
        · contradiction
      exact still.quiet.accounted (silent_failure error.message)
  | ok notice =>
      simp only [Refund.repay, Attempt.get_bind, Attempt.bind_eq_ok, Attempt.check_eq_ok,
        Attempt.pure_eq_ok] at repaid
      obtain ⟨⟨voucher, native⟩, _, ⟨-, rfl⟩, _, locked, taken, _, paid, given, _, _, counted, rfl,
        rfl⟩ := repaid
      have moved := composable_still.trans (lock_still faithful _ _ _ _ _ taken)
        (unlock_still faithful _ _ _ _ _ given)
      obtain ⟨events, less⟩ := releaseOut_counts faithful counted
      apply moved.quiet.then
      exact accounted_of_tally events (less.trans (replay_refunded (tally paid)
        ⟨pending.payload.sender, native.denom.text, native.amount, reason⟩).symm)

omit faithful in
theorem settles_quiet {switches : Transfer.Switches} {packet : Packet} {settlement : Settlement}
    (settles : Transfer.Settles switches packet before settlement after) :
    Quiet before after ∧ Silent settlement.extras.events := by
  have same := settles.bank
  refine ⟨Still.quiet ⟨by rw [same], by rw [same]⟩, ?_⟩
  cases settles with
  | refunded done => exact silent_transfer _ _
  | refused error => exact silent_nil

theorem refunds_accounts {switches : Transfer.Switches} {reason : String} {packet : Packet}
    {answer : Settlement}
    (refunds : Refund.Refunds host reason packet (fun _ : Unit => Transfer.settle switches packet)
      () before answer after) :
    Accounted answer.extras.events before after := by
  cases refunds with
  | skipped left asked =>
      obtain ⟨quiet, silent⟩ := settles_quiet (Transfer.settles asked)
      exact quiet.accounted (silent.append (silent_skip _))
  | refused due asked verdict =>
      obtain ⟨quiet, silent⟩ := settles_quiet (Transfer.settles asked)
      exact quiet.accounted silent
  | failed due asked verdict stopped =>
      obtain ⟨quiet, silent⟩ := settles_quiet (Transfer.settles asked)
      exact quiet.then ((repay_accounts faithful stopped).append silent)
  | repaid due asked verdict done =>
      obtain ⟨quiet, silent⟩ := settles_quiet (Transfer.settles asked)
      exact quiet.then ((repay_accounts faithful done).append silent)

theorem timeout_accounts {switches : Transfer.Switches} {delivery : Delivery} {answer : Settlement}
    (ran : (Refund.timeoutHook host).atop (Transfer.application switches).timeout delivery before =
      some (answer, after)) : Accounted answer.extras.events before after :=
  refunds_accounts faithful (timeout_atop.mp ran)

theorem acknowledge_accounts {switches : Transfer.Switches} {delivery : Delivery}
    {acknowledgement : Acknowledgement} {answer : Settlement}
    (ran : (Refund.acknowledgeHook host).atop (Transfer.application switches).acknowledge
      (delivery, acknowledgement) before = some (answer, after)) :
    Accounted answer.extras.events before after := by
  by_cases failed : ∃ message, acknowledgement.status? = some (.failure message)
  · obtain ⟨message, failed⟩ := failed
    exact refunds_accounts faithful ((acknowledge_atop failed).mp ran)
  · obtain ⟨rfl, result, rfl⟩ := acknowledge_atop_other (not_exists.mp failed) ran
    exact (composable_quiet.refl _).accounted silent_nil

-- Sends.

theorem emit_quiet {event : Event} (silent : Silent [event]) (chain : Chain) :
    Quiet chain (host.emit event chain) := by
  obtain ⟨totals, events⟩ := faithful.emit event chain
  exact ⟨totals, [event], events, silent⟩

theorem report_quiet {notice : Notice} (silent : Silent [notice.event]) :
    Respects Quiet (host.report notice) := by
  intro before result after ran
  cases ran
  exact emit_quiet faithful silent before

theorem reporting_quiet {β : Type} {attempt : Attempt Chain β} (quiet : Respects Quiet attempt) :
    Respects Quiet (host.reporting attempt) := by
  intro before result after ran
  cases result with
  | ok value => exact quiet _ _ _ (Host.reporting_eq_ok.mp ran)
  | error error =>
      obtain ⟨middle, stopped, rfl⟩ := Host.reporting_eq_error.mp ran
      exact composable_quiet.trans (quiet _ _ _ stopped)
        (emit_quiet faithful (silent_failure error.message) middle)

theorem collect_quiet (packet : Packet) (order : Send.Order Account) :
    Respects Quiet (Send.collect host packet order) := by
  have moving (sender receiver : Account) (coin : Coin) :
      Respects Quiet (host.sendCoins sender receiver coin) :=
    (faithful.sendCoins sender receiver coin).mono Still.quiet
  unfold Send.collect
  apply composable_quiet.attempt composable_quiet.read
  intro chain
  apply composable_quiet.attempt (moving _ _ _)
  intro freed
  apply composable_quiet.attempt composable_quiet.read
  intro state
  split
  · exact composable_quiet.check (.error _)
  · apply composable_quiet.attempt (composable_quiet.check _)
    rintro ⟨voucher, payload⟩
    exact composable_quiet.attempt ((lock_still faithful _ _).mono Still.quiet) fun done =>
      composable_quiet.done _

theorem prepare_quiet (packet : Packet) : Respects Quiet (Send.prepare host packet) := by
  unfold Send.prepare
  apply composable_quiet.attempt composable_quiet.read
  intro chain
  apply composable_quiet.attempt (composable_quiet.check _)
  rintro (rfl | order)
  · exact composable_quiet.done _
  · simp only [map_eq_pure_bind]
    exact composable_quiet.attempt (collect_quiet faithful packet order) fun unwrapping =>
      composable_quiet.done _

theorem burnOrUnlock_quiet (sender : Account) (name : String) (native voucher : Coin) :
    Respects Quiet (Reserve.burnOrUnlock host sender name native voucher) := by
  have burning (account : Account) (coin : Coin) :
      Respects Quiet (host.burnCoins account coin).run :=
    (faithful.burnCoins account coin).mono Still.quiet
  have unlocking : Respects Quiet (Reserve.unlock host sender native).run :=
    (unlock_still faithful sender native).mono Still.quiet
  unfold Reserve.burnOrUnlock
  apply composable_quiet.bind composable_quiet.get
  intro chain
  apply composable_quiet.bind (burning _ _)
  rintro (burnError | done)
  · apply composable_quiet.bind (report_quiet faithful (silent_failure _))
    intro reported
    apply composable_quiet.bind unlocking
    rintro (unlockError | returned)
    · exact composable_quiet.bind (report_quiet faithful (silent_failure _)) fun _ =>
        composable_quiet.pure _
    · exact composable_quiet.bind (report_quiet faithful (silent_info _)) fun _ =>
        composable_quiet.pure _
  · exact composable_quiet.pure _

theorem unwrapped_accounts (line : String) (crossing : Crossing)
    (events : after.events = before.events)
    (counted : tally after =
      { tally before with out := (tally before).out + crossing.amount.units }) :
    Accounted [] before (host.emit (Notice.unwrapped crossing).event (host.log line after)) := by
  have logged := faithful.log line after
  obtain ⟨totals, emitted⟩ := faithful.emit (Notice.unwrapped crossing).event (host.log line after)
  refine ⟨[(Notice.unwrapped crossing).event], ?_, ?_⟩
  · rw [emitted, logged.events, events]
  · rw [List.append_nil, replay_unwrapped, ← counted, ← logged.tally]
    unfold tally
    rw [totals]

-- A send counts and reports in one go, so either both happen or neither.
theorem conclude_accounts {unwrapping : Send.Unwrapping Account} {dispatch result : Dispatch}
    (ran : Send.conclude host unwrapping dispatch before = some (result, after)) :
    Accounted [] before after := by
  unfold Send.conclude ExceptT.run at ran
  cases result with
  | error error =>
      obtain ⟨middle, stopped, rfl⟩ := Host.reporting_eq_error.mp ran
      simp only [Attempt.bind_eq_error, Attempt.check_eq_ok, Attempt.check_eq_error,
        Attempt.modify_bind, Attempt.effect_eq_error, Attempt.effect_eq_ok, Attempt.pure_eq_error,
        and_false, exists_false, or_false] at stopped
      have still : Still before middle := by
        rcases stopped with ⟨-, rfl⟩ | ⟨sequence, _, ⟨-, rfl⟩, uncounted⟩
        · exact composable_still.refl _
        · exact store_still faithful
            (fun totals => totals.recordOut unwrapping.order.native.amount) uncounted
      have quiet := composable_quiet.trans still.quiet
        (emit_quiet faithful (silent_failure error.message) middle)
      exact quiet.accounted silent_nil
  | ok sequence =>
      rw [Host.reporting_eq_ok] at ran
      simp only [Attempt.bind_eq_ok, Attempt.check_eq_ok, Attempt.modify_bind, Attempt.effect_eq_ok,
        Attempt.pure_eq_ok] at ran
      obtain ⟨first, _, ⟨-, rfl⟩, _, middle, counted, _, _, reported, rfl, rfl⟩ := ran
      cases reported
      obtain ⟨events, more⟩ := recordOut_counts faithful counted
      exact unwrapped_accounts faithful _
        (Send.crossing unwrapping.packet unwrapping.order) events more

-- On its way down a send changes no total; what follows the answer from below counts and reports.
theorem hook_accounts {packet : Packet} {visit : Visit Chain (Uniform Packet Dispatch) Dispatch}
    (entered : Send.hook host packet before = some (visit, after)) :
    Quiet before after ∧ ∀ carrier finish, visit = .descend carrier finish →
      ∀ dispatch {chain final : Chain} {result : Dispatch},
        finish dispatch chain = some (result, final) →
        Accounted [] chain final := by
  unfold Send.hook at entered
  obtain ⟨outcome, middle, prepared, chosen⟩ := Effect.bind_eq_some.mp entered
  have quiet := reporting_quiet faithful (prepare_quiet faithful packet) _ _ _ prepared
  match outcome with
  | .error error =>
      obtain ⟨rfl, rfl⟩ := Effect.pure_eq_some.mp chosen
      exact ⟨quiet, fun carrier finish other => by contradiction⟩
  | .ok none =>
      obtain ⟨rfl, rfl⟩ := Effect.pure_eq_some.mp chosen
      refine ⟨quiet, ?_⟩
      intro carrier finish same dispatch chain final result ran
      cases same
      cases ran
      exact (composable_quiet.refl _).accounted silent_nil
  | .ok (some unwrapping) =>
      obtain ⟨burning, state, ran, chosen⟩ := Effect.bind_eq_some.mp chosen
      have burned := composable_quiet.trans quiet (burnOrUnlock_quiet faithful _ _ _ _ _ _ _ ran)
      cases burning with
      | error error =>
          obtain ⟨rfl, rfl⟩ := Effect.pure_eq_some.mp chosen
          exact ⟨burned, fun carrier finish other => by contradiction⟩
      | ok done =>
          obtain ⟨rfl, rfl⟩ := Effect.pure_eq_some.mp chosen
          refine ⟨burned, ?_⟩
          intro carrier finish same dispatch chain final result ran
          cases same
          exact conclude_accounts faithful ran

omit faithful in
theorem sendPacket_quiet (packet : Packet) : Respects Quiet (Chain.sendPacket packet) := by
  intro before dispatch after ran
  cases dispatch with
  | ok sequence =>
      obtain ⟨-, -, rfl⟩ := Send.sendPacket_eq_ok.mp ran
      exact Still.quiet ⟨rfl, rfl⟩
  | error error =>
      obtain ⟨-, -, rfl⟩ := Send.sendPacket_eq_error.mp ran
      exact composable_quiet.refl _

theorem send_accounts {packet : Packet} {dispatch : Dispatch}
    (ran : (Send.hook host).atop Chain.sendPacket packet before = some (dispatch, after)) :
    Accounted [] before after := by
  obtain ⟨visit, middle, entered, went⟩ := Effect.bind_eq_some.mp ran
  obtain ⟨quiet, finishes⟩ := hook_accounts faithful entered
  cases visit with
  | answer result =>
      obtain ⟨-, rfl⟩ := Effect.pure_eq_some.mp went
      exact quiet.accounted silent_nil
  | descend carrier finish =>
      obtain ⟨answer, state, sent, finished⟩ := Effect.bind_eq_some.mp went
      have down := composable_quiet.trans quiet (sendPacket_quiet carrier _ _ _ sent)
      exact down.then (finishes carrier finish rfl answer finished)

omit faithful in
theorem take_quiet (packet : Packet) : Respects Quiet (Transfer.take packet) := by
  intro before result after ran
  cases result with
  | error error =>
      rw [Transfer.take_unchanged ran]
      exact composable_quiet.refl _
  | ok done =>
      obtain ⟨-, -, -, bank, -, -, -, -, rfl⟩ := Transfer.take_eq_ok.mp ran
      exact Still.quiet ⟨rfl, rfl⟩

-- Runs.

end

def hostStack (host : Host Chain Account) (switches : Transfer.Switches) : Stack Chain :=
  ⟨[Wrapper.layer host], Transfer.application switches⟩

def told : Answer → List Event
  | .received receipt => receipt.extras.events
  | .settled settlement => settlement.extras.events
  | .dispatched _ => []

/-- The events that a request led to: those that were emitted, and those that were handed back. -/
def produced (before after : Chain) (answer : Answer) : List Event :=
  after.events.drop before.events.length ++ told answer

/-- Performs requests one after the other and collects the events that they lead to. -/
def trail (stack : Stack Chain) : List Request → Effect Chain (List Event)
  | [] => return []
  | request :: rest => do
    let before ← get
    let answer ← perform stack request
    let events := produced before (← get) answer
    return events ++ (← trail stack rest)

theorem Accounted.produced {before after : Chain} {answer : Answer}
    (accounted : Accounted (told answer) before after) :
    tally after = replay (tally before) (produced before after answer) := by
  obtain ⟨emitted, grown, counted⟩ := accounted
  rw [counted, Audit.produced, grown, List.drop_left]

section

variable {host : Host Chain Account} (faithful : Faithful host) {switches : Transfer.Switches}
  {before after : Chain}
include faithful

theorem perform_accounts {request : Request} {answer : Answer}
    (performed : perform (hostStack host switches) request before = some (answer, after)) :
    Accounted (told answer) before after := by
  cases request with
  | receive delivery =>
      obtain ⟨receipt, received, rfl⟩ := Effect.map_eq_some.mp performed
      rw [hostStack, Wrapper.stack_receive] at received
      exact receive_accounts faithful received
  | acknowledge delivery acknowledgement =>
      obtain ⟨settlement, acknowledged, rfl⟩ := Effect.map_eq_some.mp performed
      rw [hostStack, Wrapper.stack_acknowledge] at acknowledged
      exact acknowledge_accounts faithful acknowledged
  | timeout delivery =>
      obtain ⟨settlement, expired, rfl⟩ := Effect.map_eq_some.mp performed
      rw [hostStack, Wrapper.stack_timeout] at expired
      exact timeout_accounts faithful expired
  | send packet =>
      obtain ⟨dispatch, sent, rfl⟩ := Effect.map_eq_some.mp performed
      exact send_accounts faithful sent
  | transfer packet =>
      obtain ⟨dispatch, started, rfl⟩ := Effect.map_eq_some.mp performed
      obtain ⟨outcome, middle, taking, went⟩ := Effect.bind_eq_some.mp started
      have taken := take_quiet packet _ _ _ taking
      cases outcome with
      | error error =>
          obtain ⟨-, rfl⟩ := Effect.pure_eq_some.mp went
          exact taken.accounted silent_nil
      | ok done => exact taken.then (send_accounts faithful went)

-- By induction on the requests; each of them accounts for its own change of the totals.
theorem trail_accounts {requests : List Request} {events : List Event}
    (ran : trail (hostStack host switches) requests before = some (events, after)) :
    tally after = replay (tally before) events := by
  induction requests generalizing before events with
  | nil =>
      obtain ⟨rfl, rfl⟩ := Effect.pure_eq_some.mp ran
      rfl
  | cons request rest ih =>
      rw [trail, Effect.get_bind, Effect.bind_eq_some] at ran
      obtain ⟨answer, middle, performed, ran⟩ := ran
      rw [Effect.get_bind, Effect.bind_eq_some] at ran
      obtain ⟨later, final, went, concluded⟩ := ran
      obtain ⟨rfl, rfl⟩ := Effect.pure_eq_some.mp concluded
      rw [ih went, (perform_accounts faithful performed).produced, ← replay_append]

end

-- Every list of requests is the beginning of a longer one, so this is about the totals after each
-- step of a run.
theorem totals_replay (switches : Transfer.Switches) :
    Faithful Chain.host ∧ (∀ faults, Faithful (Chain.faultyHost faults)) ∧
      ∀ host, Faithful host →
        (∀ requests start events final,
          trail (hostStack host switches) requests start = some (events, final) →
            tally final = replay (tally start) events) ∧
        ∀ request before answer after,
          perform (hostStack host switches) request before = some (answer, after) →
          tally after = replay (tally before) (produced before after answer) := by
  refine ⟨host_faithful, faultyHost_faithful, ?_⟩
  intro host faithful
  constructor
  · intro requests start events final ran
    exact trail_accounts faithful ran
  · intro request before answer after performed
    exact (perform_accounts faithful performed).produced

def sampleRequests : List Request :=
  [.receive Sample.incomingDelivery, .transfer (Sample.departing (Sample.outgoing "zig1receiver"))]

def sampleHost : Host Chain Account :=
  Chain.faultyHost { Chain.Faults.none with lossy := [⟨"zig1other"⟩] }

set_option maxRecDepth 100000 in
theorem sampleRequests_trail :
    ∃ events final, trail (hostStack sampleHost ⟨false, false⟩) sampleRequests Sample.fundedChain =
      some (events, final) ∧ tally final = ⟨5, 5⟩ := by
  have computed :
    ((trail (hostStack sampleHost ⟨false, false⟩) sampleRequests Sample.fundedChain).map fun step =>
      decide (tally step.2 = ⟨5, 5⟩)) = some true := by
    decide +kernel
  obtain ⟨⟨events, final⟩, ran, counted⟩ := Option.map_eq_some_iff.mp computed
  exact ⟨events, final, ran, of_decide_eq_true counted⟩

theorem totals_replay_sampleRequests :
    ∃ events final, trail (hostStack sampleHost ⟨false, false⟩) sampleRequests Sample.fundedChain =
        some (events, final) ∧
      replay (tally Sample.fundedChain) events = ⟨5, 5⟩ := by
  obtain ⟨events, final, ran, counted⟩ := sampleRequests_trail
  have replayed := ((totals_replay ⟨false, false⟩).2.2 _ (faultyHost_faithful _)).1 _ _ _ _ ran
  exact ⟨events, final, ran, replayed.symm.trans counted⟩

end Audit

end VoucherSwap
