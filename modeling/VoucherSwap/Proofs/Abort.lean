import VoucherSwap.Proofs.Session

/-!
Sends that fail. A send can fail at each of its steps, and every failure before the packet is handed
to the channel leaves the channel without it. The one step behind that is the counting: when the
outgoing total cannot take the amount, the sender gets an error although the packet is on its way.
-/

namespace VoucherSwap

/-- Errors about coins that are missing and about totals that are full. They come up only behind the
other checks. -/
def Error.isAccounting : Error → Bool
  | .insufficientFunds .. | .missingCoin _ | .totalsOverflow => true
  | _ => false

namespace Route
variable {σ α : Type} {host : Host σ α} {state : σ} {settings : Settings} {endpoint : Endpoint}
  {error : Error}

theorem checkCounterparty_fault
    (failed : checkCounterparty host state settings endpoint = .error error) :
    error.isAccounting = false := by
  simp only [checkCounterparty, Check.bind_eq_error, Check.guard_eq_error,
    openChannel_eq_error] at failed
  rcases failed with ⟨-, rfl⟩ | ⟨-, (⟨-, rfl⟩ | ⟨_, -, -, rfl⟩) | ⟨channel, -, mismatch⟩⟩
  · rfl
  · rfl
  · rfl
  split at mismatch
  · rw [← Check.throw_eq_error.mp mismatch]
    rfl
  split at mismatch
  · rw [← Check.throw_eq_error.mp mismatch]
    rfl
  · exact (Check.pure_eq_error.mp mismatch).elim

theorem checkClients_fault (failed : checkClients host state settings endpoint = .error error) :
    error.isAccounting = false := by
  simp only [checkClients, Check.bind_eq_error, Check.guard_eq_error, channel_eq_error] at failed
  rcases failed with ⟨-, rfl⟩ | ⟨-, ⟨-, rfl⟩ | ⟨channel, -, unconnected⟩⟩
  · rfl
  · rfl
  split at unconnected
  · rw [← Check.throw_eq_error.mp unconnected]
    rfl
  split at unconnected
  · rw [← Check.throw_eq_error.mp unconnected]
    rfl
  rcases Check.guard_eq_error.mp unconnected with ⟨-, rfl⟩ | ⟨-, mismatch⟩
  · rfl
  split at mismatch
  · rw [← Check.throw_eq_error.mp mismatch]
    rfl
  · exact (Check.pure_eq_error.mp mismatch).elim

end Route

namespace Send

variable {packet : Packet} {before after : Chain} {error : Error}

def reported (error : Error) (chain : Chain) : Chain :=
  { chain with events := chain.events ++ [(Notice.failure error.message).event] }

theorem rejection_rewritten (packet : Packet) (payload : Payload) :
    Chain.rejection (rewritten packet payload) = Chain.rejection packet := by
  unfold Chain.rejection
  rw [rewritten_source]

theorem sendPacket_eq_error :
    Chain.sendPacket packet before = some (.error error, after) ↔
      before.sendsFail = true ∧ error = Chain.rejection packet ∧ after = before := by
  unfold Chain.sendPacket
  cases before.sendsFail <;> simp [eq_comm]

/-- Why the native coin of an order did not get into the reserve, and the bank in which it is
stuck. -/
inductive Uncollected (packet : Packet) (order : Order Account) (before : Chain) :
    Error → Bank → Prop where
  | escrowed {error : Error}
      (refused : before.bank.send (Chain.escrow packet.source) order.sender order.native =
        some (.error error)) :
      Uncollected packet order before error before.bank
  | missing {released : Bank}
      (freed : before.bank.send (Chain.escrow packet.source) order.sender order.native =
        some (.ok released))
      (unowned : Chain.host.holds
        { before with bank := released } order.sender order.native = false) :
      Uncollected packet order before (.missingCoin order.native.text) released
  | unconverted {released : Bank} {error : Error}
      (freed : before.bank.send (Chain.escrow packet.source) order.sender order.native =
        some (.ok released))
      (refused : convert Chain.host { before with bank := released } packet order = .error error) :
      Uncollected packet order before error released
  | unlocked {released : Bank} {error : Error}
      (freed : before.bank.send (Chain.escrow packet.source) order.sender order.native =
        some (.ok released))
      (refused : released.send order.sender Chain.reserve order.native = some (.error error)) :
      Uncollected packet order before error released

theorem collect_uncollected {order : Order Account}
    (stopped : collect Chain.host packet order before = some (.error error, after)) :
    ∃ bank, Uncollected packet order before error bank ∧ after = { before with bank } := by
  have freeing (state final : Chain) (result : Except Error Unit) :
      Chain.host.sendCoins (Chain.host.escrow state packet.source) order.sender order.native state =
          some (result, final) ↔
        Chain.sendCoins (Chain.escrow packet.source) order.sender order.native state =
          some (result, final) :=
    Iff.rfl
  simp only [collect, Attempt.get_bind, Attempt.bind_eq_error, Attempt.check_eq_error,
    Attempt.check_eq_ok, Attempt.pure_eq_error, Attempt.guard_eq_error, freeing, Chain.lock_run,
    Chain.sendCoins_eq_error, Chain.sendCoins_eq_ok] at stopped
  rcases stopped with ⟨refused, rfl⟩ | ⟨-, -, ⟨released, freed, rfl⟩, rest⟩
  · exact ⟨_, .escrowed refused, rfl⟩
  rcases rest with ⟨unowned, rfl, rfl⟩ | ⟨-, ⟨refused, rfl⟩ | ⟨converted, -, ⟨-, rfl⟩, rest⟩⟩
  · exact ⟨_, .missing freed ((Bool.not_eq_true' _).mp unowned), rfl⟩
  · exact ⟨_, .unconverted freed refused, rfl⟩
  · rcases rest with ⟨refused, rfl⟩ | ⟨-, -, -, impossible⟩
    · exact ⟨_, .unlocked freed refused, rfl⟩
    · contradiction

/-- The native coin after a failed burn: handed back to its sender, or left in the reserve. -/
inductive HandsBack (name : String) (sender : Account) (native : Coin) (before : Chain) :
    Chain → Prop where
  | returned {bank : Bank} (sent : before.bank.send Chain.reserve sender native = some (.ok bank)) :
      HandsBack name sender native before { before with
        bank
        events := before.events ++ [(Reserve.unlockNotice name native (.ok ())).event] }
  | kept {error : Error}
      (refused : before.bank.send Chain.reserve sender native = some (.error error)) :
      HandsBack name sender native before { before with
        events := before.events ++ [(Reserve.unlockNotice name native (.error error)).event] }

theorem HandsBack.sent {name : String} {sender : Account} {native : Coin}
    (back : HandsBack name sender native before after) : after.sent = before.sent := by
  cases back <;> rfl

theorem burnOrUnlock_eq_error {sender : Account} {name : String} {native voucher : Coin} :
    Reserve.burnOrUnlock Chain.host sender name native voucher before = some (.error error, after) ↔
      before.bank.burn Chain.reserve voucher = .error error ∧
        HandsBack name sender native (reported error before) after := by
  unfold Reserve.burnOrUnlock
  rw [Effect.get_bind, Effect.bind_eq_some]
  constructor
  · rintro ⟨outcome, middle, ran, went⟩
    cases outcome with
    | ok done =>
        obtain ⟨wrong, -⟩ := Effect.pure_eq_some.mp went
        contradiction
    | error burnError =>
        obtain ⟨refused, rfl⟩ := Chain.burnCoins_eq_error.mp ran
        rw [Effect.bind_eq_some] at went
        obtain ⟨_, failing, report, rest⟩ := went
        cases report
        rw [Effect.bind_eq_some] at rest
        obtain ⟨unlocking, handed, unlocked, rest⟩ := rest
        cases unlocking with
        | ok done =>
            obtain ⟨bank, sent, rfl⟩ := Chain.sendCoins_eq_ok.mp unlocked
            obtain ⟨_, informing, report, rest⟩ := Effect.bind_eq_some.mp rest
            cases report
            cases rest
            exact ⟨refused, .returned sent⟩
        | error unlockError =>
            obtain ⟨unsent, rfl⟩ := Chain.sendCoins_eq_error.mp unlocked
            obtain ⟨_, failing, report, rest⟩ := Effect.bind_eq_some.mp rest
            cases report
            cases rest
            exact ⟨refused, .kept unsent⟩
  · rintro ⟨refused, back⟩
    have burning : (Chain.host.burnCoins (Chain.host.reserve before) voucher).run before =
        some (.error error, before) := Chain.burnCoins_eq_error.mpr ⟨refused, rfl⟩
    refine ⟨.error error, before, burning, ?_⟩
    rw [Effect.bind_eq_some]
    refine ⟨(), reported error before, rfl, ?_⟩
    rw [Effect.bind_eq_some]
    cases back with
    | returned sent => exact ⟨.ok (), _, Chain.sendCoins_eq_ok.mpr ⟨_, sent, rfl⟩, rfl⟩
    | kept unsent => exact ⟨.error _, _, Chain.sendCoins_eq_error.mpr ⟨unsent, rfl⟩, rfl⟩

theorem conclude_fails {unwrapping : Unwrapping Account} {dispatch : Dispatch}
    (stopped : conclude Chain.host unwrapping dispatch before = some (.error error, after)) :
    (dispatch = .error error ∨ ∃ sequence, dispatch = .ok sequence ∧
      before.totals.recordOut unwrapping.order.native.amount = .error error) ∧
        after = reported error before := by
  unfold conclude ExceptT.run at stopped
  obtain ⟨middle, ran, rfl⟩ := Host.reporting_eq_error.mp stopped
  simp only [Attempt.bind_eq_error, Attempt.check_eq_error, Attempt.check_eq_ok,
    Chain.recordOut_eq_error, Chain.recordOut_eq_ok, Attempt.modify_bind, Attempt.effect_eq_error,
    Attempt.effect_eq_ok, Attempt.pure_eq_error, and_false, exists_false, or_false] at ran
  rcases ran with ⟨failed, rfl⟩ | ⟨sequence, _, ⟨sent, rfl⟩, overflow, rfl⟩
  · exact ⟨.inl failed, rfl⟩
  · exact ⟨.inr ⟨sequence, sent, overflow⟩, rfl⟩

inductive Enters (packet : Packet) (before : Chain) :
    Visit Chain (Uniform Packet Dispatch) Dispatch → Chain → Prop where
  | refused {error : Error} (planned : plan Chain.host before packet = .error error) :
      Enters packet before (.answer (.error error)) (reported error before)
  | uncollected {order : Order Account} {error : Error} {bank : Bank}
      (ordered : Ordered Chain.host before packet order)
      (stopped : Uncollected packet order before error bank) :
      Enters packet before (.answer (.error error)) (reported error { before with bank })
  | unburned {order : Order Account} {voucher : Coin} {payload : Payload} {released locked : Bank}
      {error : Error}
      {after : Chain} (ordered : Ordered Chain.host before packet order)
      (collected : Collected packet order before voucher payload released locked)
      (refused : locked.burn Chain.reserve voucher = .error error)
      (back : HandsBack order.payload.sender order.sender order.native
        (reported error { before with bank := locked }) after) :
      Enters packet before (.answer (.error error)) after
  | forwarded (left : plan Chain.host before packet = .ok none) :
      Enters packet before (.descend packet pure) before
  | unwrapped {order : Order Account} {voucher : Coin} {payload : Payload}
      {released locked burned : Bank}
      (ordered : Ordered Chain.host before packet order)
      (collected : Collected packet order before voucher payload released locked)
      (destroyed : locked.burn Chain.reserve voucher = .ok burned) :
      Enters packet before
        (.descend (rewritten packet payload)
          (conclude Chain.host ⟨order, voucher, rewritten packet payload⟩))
        { before with bank := burned }

theorem prepare_enters
    (stopped : (Chain.host.reporting (prepare Chain.host packet)).run before =
      some (.error error, after)) :
    Enters packet before (.answer (.error error)) after := by
  unfold prepare ExceptT.run at stopped
  obtain ⟨middle, ran, rfl⟩ := Host.reporting_eq_error.mp stopped
  rw [Attempt.get_bind, Attempt.bind_eq_error] at ran
  rcases ran with planning | ⟨choice, state, planning, went⟩
  · obtain ⟨planned, rfl⟩ := Attempt.check_eq_error.mp planning
    exact .refused planned
  · obtain ⟨planned, rfl⟩ := Attempt.check_eq_ok.mp planning
    cases choice with
    | none => exact (Attempt.pure_eq_error.mp went).elim
    | some order =>
        simp only [map_eq_pure_bind, Attempt.bind_eq_error, Attempt.pure_eq_error, and_false,
          exists_false, or_false] at went
        obtain ⟨bank, uncollected, rfl⟩ := collect_uncollected went
        exact .uncollected (plan_eq_some.mp planned) uncollected

theorem hook_enters {visit : Visit Chain (Uniform Packet Dispatch) Dispatch}
    (entered : hook Chain.host packet before = some (visit, after)) :
    Enters packet before visit after := by
  unfold hook at entered
  obtain ⟨outcome, middle, prepared, chosen⟩ := Effect.bind_eq_some.mp entered
  match outcome with
  | .error error =>
      obtain ⟨rfl, rfl⟩ := Effect.pure_eq_some.mp chosen
      exact prepare_enters prepared
  | .ok none =>
      obtain ⟨rfl, rfl⟩ := Effect.pure_eq_some.mp chosen
      obtain ⟨planned, rfl⟩ := prepare_eq_none.mp prepared
      exact .forwarded planned
  | .ok (some unwrapping) =>
      obtain ⟨order, ordered, collecting⟩ := prepare_eq_some.mp prepared
      obtain ⟨voucher, payload, released, locked, collected, rfl, rfl⟩ :=
        collect_eq_ok.mp collecting
      obtain ⟨burning, _, ran, chosen⟩ := Effect.bind_eq_some.mp chosen
      cases burning with
      | error error =>
          obtain ⟨rfl, rfl⟩ := Effect.pure_eq_some.mp chosen
          obtain ⟨refused, back⟩ := burnOrUnlock_eq_error.mp ran
          exact .unburned ordered collected refused back
      | ok done =>
          obtain ⟨rfl, rfl⟩ := Effect.pure_eq_some.mp chosen
          obtain ⟨burned, destroyed, rfl⟩ := burnOrUnlock_eq_ok.mp ran
          exact .unwrapped ordered collected destroyed

/-- A send that fails: why, and the chain that it leaves. -/
inductive Fails (packet : Packet) (before : Chain) : Error → Chain → Prop where
  | refused {error : Error} (planned : plan Chain.host before packet = .error error) :
      Fails packet before error (reported error before)
  | uncollected {order : Order Account} {error : Error} {bank : Bank}
      (ordered : Ordered Chain.host before packet order)
      (stopped : Uncollected packet order before error bank) :
      Fails packet before error (reported error { before with bank })
  | unburned {order : Order Account} {voucher : Coin} {payload : Payload} {released locked : Bank}
      {error : Error}
      {after : Chain} (ordered : Ordered Chain.host before packet order)
      (collected : Collected packet order before voucher payload released locked)
      (refused : locked.burn Chain.reserve voucher = .error error)
      (back : HandsBack order.payload.sender order.sender order.native
        (reported error { before with bank := locked }) after) :
      Fails packet before error after
  | rejected (left : plan Chain.host before packet = .ok none) (broken : before.sendsFail = true) :
      Fails packet before (Chain.rejection packet) before
  | undelivered {order : Order Account} {voucher : Coin} {payload : Payload}
      {released locked burned : Bank}
      (ordered : Ordered Chain.host before packet order)
      (collected : Collected packet order before voucher payload released locked)
      (destroyed : locked.burn Chain.reserve voucher = .ok burned)
      (broken : before.sendsFail = true) :
      Fails packet before (Chain.rejection packet)
        (reported (Chain.rejection packet) { before with bank := burned })
  | uncounted {order : Order Account} {voucher : Coin} {payload : Payload}
      {released locked burned : Bank}
      {error : Error} (ordered : Ordered Chain.host before packet order)
      (collected : Collected packet order before voucher payload released locked)
      (destroyed : locked.burn Chain.reserve voucher = .ok burned)
      (working : before.sendsFail = false)
      (overflow : before.totals.recordOut order.native.amount = .error error) :
      Fails packet before error (reported error { before with
        bank := burned
        sent := before.sent ++ [rewritten packet payload] })

-- One case for each step that can fail, in the order of the steps.
theorem atop_fails
    (failed : (hook Chain.host).atop Chain.sendPacket packet before = some (.error error, after)) :
    Fails packet before error after := by
  obtain ⟨visit, middle, entered, went⟩ := Effect.bind_eq_some.mp failed
  cases hook_enters entered with
  | refused planned =>
      obtain ⟨same, rfl⟩ := Effect.pure_eq_some.mp went
      cases same
      exact .refused planned
  | uncollected ordered stopped =>
      obtain ⟨same, rfl⟩ := Effect.pure_eq_some.mp went
      cases same
      exact .uncollected ordered stopped
  | unburned ordered collected refused back =>
      obtain ⟨same, rfl⟩ := Effect.pure_eq_some.mp went
      cases same
      exact .unburned ordered collected refused back
  | forwarded planned =>
      obtain ⟨_, _, sent, answered⟩ := Effect.bind_eq_some.mp went
      obtain ⟨rfl, rfl⟩ := Effect.pure_eq_some.mp answered
      obtain ⟨broken, rfl, rfl⟩ := sendPacket_eq_error.mp sent
      exact .rejected planned broken
  | unwrapped ordered collected destroyed =>
      obtain ⟨dispatch, _, sent, concluded⟩ := Effect.bind_eq_some.mp went
      obtain ⟨rfl | ⟨sequence, rfl, overflow⟩, rfl⟩ := conclude_fails concluded
      · obtain ⟨broken, rfl, rfl⟩ := sendPacket_eq_error.mp sent
        rw [rejection_rewritten]
        exact .undelivered ordered collected destroyed broken
      · obtain ⟨working, -, rfl⟩ := sendPacket_eq_ok.mp sent
        exact .uncounted ordered collected destroyed working overflow

-- No check of a plan is about coins or totals.
theorem plan_fault {chain : Chain} (failed : plan Chain.host chain packet = .error error) :
    error.isAccounting = false := by
  simp only [plan, Check.bind_eq_error, Check.guard_eq_error, Check.leave_eq_error,
    Check.pure_eq_error, Route.openChannel_eq_error, Route.payload_eq_error,
    Route.checkPositive_eq_error, Route.sender_eq_error, Coin.make_eq_error, and_false,
    exists_false, or_false] at failed
  rcases failed with
    (⟨-, rfl⟩ | ⟨-, -, -, rfl⟩) | ⟨-, -, ⟨-, rfl⟩ | ⟨payload, -, unread | ⟨settings, -, rest⟩⟩⟩
  · rfl
  · rfl
  · rfl
  · cases unread
  rcases rest with ⟨-, rfl⟩ | ⟨-, -, counterparty | ⟨-, -, clients | ⟨-, -, rest⟩⟩⟩
  · rfl
  · exact Route.checkCounterparty_fault counterparty
  · exact Route.checkClients_fault clients
  rcases rest with
    (⟨-, rfl⟩ | ⟨-, -, rfl⟩) | ⟨-, -, ⟨-, rfl⟩ | ⟨-, ⟨-, rfl⟩ | ⟨-, -, -, rfl⟩⟩⟩ <;> rfl

theorem convert_fault {chain : Chain} {order : Order Account}
    (failed : convert Chain.host chain packet order = .error error) :
    error.isAccounting = false ∨
      Reserve.checkFunds Chain.host chain order.sender order.payload.sender order.native =
        .error error ∨
      ∃ coin, Reserve.checkFunds Chain.host chain Chain.reserve Reserve.holderName coin =
        .error error := by
  simp only [convert, outboundDenom, Reserve.checkBalances, Check.bind_eq_error,
    Check.pure_eq_error, Check.mapError_eq_error, Coin.make_eq_error, and_false, exists_false,
    or_false] at failed
  rcases failed with
    scaling | ⟨converted, -,
      ⟨-, rfl⟩ | ⟨voucher, -, (sender | ⟨-, -, reserve⟩) | ⟨-, -, _, -, rfl⟩⟩⟩
  · rcases Precision.scaleUp_eq_error scaling with rfl | rfl <;> exact .inl rfl
  · exact .inl rfl
  · exact .inr (.inl sender)
  · exact .inr (.inr ⟨voucher, reserve⟩)
  · exact .inl rfl

theorem bank_fault {bank : Bank} {sender receiver : Account} {coin : Coin}
    (refused : bank.send sender receiver coin = some (.error error)) :
    error.isAccounting = false := by
  rcases Bank.send_eq_error refused with rfl | rfl <;> rfl

theorem Uncollected.ne_overflow {order : Order Account} {bank : Bank}
    (uncollected : Uncollected packet order before error bank) : error ≠ .totalsOverflow := by
  cases uncollected with
  | escrowed refused | unlocked freed refused =>
      rintro rfl
      exact absurd (bank_fault refused) (by decide)
  | missing freed unowned => simp
  | unconverted freed refused =>
      rintro rfl
      rcases convert_fault refused with other | short | ⟨coin, short⟩
      · contradiction
      · exact absurd (Reserve.checkFunds_eq_error.mp short).2 nofun
      · exact absurd (Reserve.checkFunds_eq_error.mp short).2 nofun

-- A send that fails leaves the channel as it was, unless it is the totals that fail.
theorem Fails.sent (fails : Fails packet before error after) :
    error ≠ .totalsOverflow ∧ after.sent = before.sent ∨
      error = .totalsOverflow ∧ ∃ order carried, Ordered Chain.host before packet order ∧
        Amount.bound ≤ before.totals.transferredOut.units + order.native.amount.units ∧
        after.sent = before.sent ++ [rewritten packet carried] := by
  cases fails with
  | refused planned =>
      refine .inl ⟨?_, rfl⟩
      rintro rfl
      exact absurd (plan_fault planned) (by decide)
  | uncollected ordered stopped => exact .inl ⟨stopped.ne_overflow, rfl⟩
  | unburned ordered collected refused back =>
      obtain ⟨description, rfl⟩ := Bank.burn_eq_error refused
      exact .inl ⟨by simp, back.sent⟩
  | rejected left broken => exact .inl ⟨by simp [Chain.rejection], rfl⟩
  | undelivered ordered collected destroyed broken => exact .inl ⟨by simp [Chain.rejection], rfl⟩
  | uncounted ordered collected destroyed working overflow =>
      obtain ⟨large, rfl⟩ := Totals.recordOut_eq_error.mp overflow
      exact .inr ⟨rfl, _, _, ordered, large, rfl⟩

end Send

namespace Abort

open Session

/-- The answer of a send says whether the channel has the packet. -/
def Aborts (before : Chain) (dispatch : Dispatch) (after : Chain) : Prop :=
  ((∃ sequence, dispatch = .ok sequence) ↔ ∃ sent, after.sent = before.sent ++ [sent]) ∧
    ∀ error, dispatch = .error error → after.sent = before.sent

theorem sends_sent {packet : Packet} {before after : Chain}
    (sends : Send.Sends packet before after) :
    ∃ sent, after.sent = before.sent ++ [sent] := by
  cases sends with
  | forwarded left working => exact ⟨packet, rfl⟩
  | unwrapped unwraps =>
      obtain ⟨-, ⟨_, _, _, _, -, -, -, rfl⟩, -⟩ := unwraps
      exact ⟨_, rfl⟩

theorem not_aborts {before after : Chain} {error : Error} {sent : Packet}
    (grown : after.sent = before.sent ++ [sent]) : ¬ Aborts before (.error error) after := by
  rintro ⟨-, same⟩
  rw [same _ rfl] at grown
  simp at grown

-- Every send from every chain. The one failure that comes too late is that of the counting.
theorem failure_aborts_send {switches : Transfer.Switches} {packet : Packet} {before after : Chain}
    {dispatch : Dispatch}
    (ran : (swapStack switches).send Chain.sendPacket packet before = some (dispatch, after)) :
    (Aborts before dispatch after ↔ dispatch ≠ .error .totalsOverflow) ∧
      (dispatch = .error .totalsOverflow → ∃ payload carried, packet.payload? = some payload ∧
        Amount.bound ≤ before.totals.transferredOut.units + payload.amount.units ∧
        after.sent = before.sent ++ [Send.rewritten packet carried]) := by
  cases dispatch with
  | ok sequence =>
      obtain ⟨rfl, sends⟩ := Send.atop_eq_ok.mp ran
      have aborts : Aborts before (.ok packet.sequence) after :=
        ⟨iff_of_true ⟨_, rfl⟩ (sends_sent sends), fun error wrong => by contradiction⟩
      exact ⟨iff_of_true aborts (by simp), fun wrong => by contradiction⟩
  | error error =>
      rcases (Send.atop_fails ran).sent with
        ⟨other, same⟩ | ⟨rfl, order, carried, ordered, large, grown⟩
      · have aborts : Aborts before (.error error) after := by
          refine ⟨iff_of_false (by simp) ?_, fun _ _ => same⟩
          rintro ⟨sent, grown⟩
          rw [same] at grown
          simp at grown
        have different : (.error error : Dispatch) ≠ .error .totalsOverflow := by simpa using other
        exact ⟨iff_of_true aborts different, fun wrong => absurd wrong different⟩
      · refine ⟨iff_of_false (not_aborts grown) (by simp), fun _ =>
          ⟨order.payload, carried, ordered.readable, ?_, grown⟩⟩
        rw [← ordered.nativeAmount]
        exact large

def samplePacket : Packet := Sample.departing (Sample.outgoing "zig1sender")

/-- The native coin is in escrow, and the reserve has the vouchers for it. -/
def escrowChain (out : Amount) : Chain :=
  { Sample.openChain with
    totals := ⟨.zero, out⟩
    bank := (Bank.empty.setBalance (Chain.escrow Sample.nativeEnd) Sample.nativeDenom
        ⟨5, Sample.five_fits⟩).setBalance
      Chain.reserve Sample.settings.voucher ⟨5 * 10 ^ 12, Sample.vouchers_fit⟩ }

def most : Amount := ⟨Amount.bound - 1, by decide⟩

set_option maxRecDepth 100000 in
theorem escrowChain_send :
    (∃ after, (swapStack ⟨false, false⟩).send Chain.sendPacket samplePacket (escrowChain .zero) =
      some (.ok samplePacket.sequence, after)) ∧
    ∃ after, (swapStack ⟨false, false⟩).send Chain.sendPacket samplePacket (escrowChain most) =
      some (.error .totalsOverflow, after) := by
  have passes :
      (((swapStack ⟨false, false⟩).send Chain.sendPacket samplePacket (escrowChain .zero)).map
        fun step => decide (step.1 = .ok samplePacket.sequence)) = some true := by
    decide +kernel
  have fails :
      (((swapStack ⟨false, false⟩).send Chain.sendPacket samplePacket (escrowChain most)).map
        fun step => decide (step.1 = .error .totalsOverflow)) = some true := by
    decide +kernel
  obtain ⟨⟨first, sent⟩, passed, ok⟩ := Option.map_eq_some_iff.mp passes
  obtain ⟨⟨second, stopped⟩, failed, error⟩ := Option.map_eq_some_iff.mp fails
  have same : first = .ok samplePacket.sequence := of_decide_eq_true ok
  have other : second = .error .totalsOverflow := of_decide_eq_true error
  exact ⟨⟨sent, same ▸ passed⟩, stopped, other ▸ failed⟩

theorem failure_aborts_send_escrowChain :
    ∃ after, (swapStack ⟨false, false⟩).send Chain.sendPacket samplePacket (escrowChain .zero) =
        some (.ok samplePacket.sequence, after) ∧
      Aborts (escrowChain .zero) (.ok samplePacket.sequence) after := by
  obtain ⟨⟨after, sent⟩, -⟩ := escrowChain_send
  exact ⟨after, sent, (failure_aborts_send sent).1.mpr (by simp)⟩

/-- A send that fails and goes out all the same. -/
theorem overflow_sends_packet :
    ∃ after, (swapStack ⟨false, false⟩).send Chain.sendPacket samplePacket (escrowChain most) =
        some (.error .totalsOverflow, after) ∧
      ¬ Aborts (escrowChain most) (.error .totalsOverflow) after := by
  obtain ⟨-, after, failed⟩ := escrowChain_send
  refine ⟨after, failed, ?_⟩
  rcases (Send.atop_fails failed).sent with ⟨other, -⟩ | ⟨-, order, carried, -, -, grown⟩
  · exact absurd rfl other
  · exact not_aborts grown

end Abort

end VoucherSwap
