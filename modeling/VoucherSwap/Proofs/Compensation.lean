import VoucherSwap.Proofs.Escrow

/-!
A voucher that cannot be burned. By then the native coin has been taken from its sender into escrow,
released, and locked in the reserve, and it is handed back before the send gives up. Whether a
transfer gets as far as the burn is told by a chain on which burns work, since up to there both
chains do the same.
-/

namespace VoucherSwap

namespace Bank

def mended (bank : Bank) : Bank := { bank with burnsFail := false }

theorem mint?_mended (bank : Bank) (account : Account) (denom : String) (amount : Amount) :
    bank.mended.mint? account denom amount = (bank.mint? account denom amount).map mended := by
  have same : bank.mended.balance account denom = bank.balance account denom := rfl
  unfold mint?
  rw [same]
  cases (bank.balance account denom).add? amount <;> rfl

theorem debit_mended (bank : Bank) (account : Account) (coin : Coin) :
    bank.mended.debit account coin = (bank.debit account coin).map mended := by
  have same :
      bank.mended.balance account coin.denom.text = bank.balance account coin.denom.text := rfl
  unfold debit
  rw [same]
  dsimp only
  cases (bank.balance account coin.denom.text).sub? coin.amount <;> rfl

-- Sending a coin neither asks whether burns work nor changes it.
theorem send_mended (bank : Bank) (sender receiver : Account) (coin : Coin) :
    bank.mended.send sender receiver coin =
      (bank.send sender receiver coin).map (Except.map mended) := by
  have same : bank.mended.frozen = bank.frozen := rfl
  unfold send
  rw [same, debit_mended]
  by_cases frozen : sender ∈ bank.frozen
  · rw [if_pos frozen, if_pos frozen]
    rfl
  · rw [if_neg frozen, if_neg frozen]
    cases bank.debit sender coin with
    | error error => rfl
    | ok spent =>
        show (spent.mended.mint? receiver coin.denom.text coin.amount).map Except.ok = _
        rw [mint?_mended, Option.map_map, Option.map_map]
        rfl

theorem send_of_mended {before after : Bank} {sender receiver : Account} {coin : Coin}
    (sent : before.mended.send sender receiver coin = some (.ok after)) :
    ∃ spoiled, before.send sender receiver coin = some (.ok spoiled) ∧ after = spoiled.mended := by
  rw [send_mended, Option.map_eq_some_iff] at sent
  obtain ⟨outcome, ran, same⟩ := sent
  cases outcome with
  | error error => contradiction
  | ok spoiled =>
      cases same
      exact ⟨spoiled, ran, rfl⟩

end Bank

namespace Send

variable {packet : Packet} {before after : Chain} {order : Order Account} {voucher : Coin}
  {carried : Payload}

theorem atop_unburned {payload : Payload} {released locked : Bank} {error : Error}
    (ordered : Ordered Chain.host before packet order)
    (collected : Collected packet order before voucher payload released locked)
    (refused : locked.burn Chain.reserve voucher = .error error)
    (back : HandsBack order.payload.sender order.sender order.native
      (reported error { before with bank := locked }) after)
    (below : Packet → Effect Chain Dispatch) :
    (hook Chain.host).atop below packet before = some (.error error, after) := by
  have collecting := collect_eq_ok.mpr ⟨voucher, payload, released, locked, collected, rfl, rfl⟩
  have prepared := prepare_eq_some.mpr ⟨order, ordered, collecting⟩
  have unburned := burnOrUnlock_eq_error.mpr ⟨refused, back⟩
  have entered : hook Chain.host packet before = some (.answer (.error error), after) :=
    Effect.bind_eq_some.mpr ⟨_, _, prepared, Effect.bind_eq_some.mpr ⟨_, _, unburned, rfl⟩⟩
  exact Effect.bind_eq_some.mpr ⟨_, _, entered, rfl⟩

end Send

namespace Compensation

open Session

def mended (chain : Chain) (totals : Totals) (sendsFail : Bool) : Chain :=
  { chain with bank := chain.bank.mended, totals, sendsFail }

def returnedNotice (chain : Chain) (payload : Payload) : Notice :=
  .info (Reserve.returnedText (Coin.describe payload.amount chain.nativeDenom) payload.sender)

def keptNotice (chain : Chain) (payload : Payload) : Notice :=
  .failure (Reserve.keptText (Coin.describe payload.amount chain.nativeDenom) payload.sender
    (Bank.frozenError Chain.reserve).message)

/-- The chain after a transfer whose voucher could not be burned. Only the bank and two events are
new, and in the bank nothing has moved, unless the reserve is frozen and keeps the native coin of
the sender. -/
inductive Compensates (before : Chain) (payload : Payload) (error : Error) : Chain → Prop where
  | returned {bank : Bank} (free : Chain.reserve ∉ before.bank.frozen)
      (restores : before.bank.Restores bank) :
      Compensates before payload error { before with
        bank
        events := before.events ++
          [(Notice.failure error.message).event, (returnedNotice before payload).event] }
  | kept {bank : Bank} (frozen : Chain.reserve ∈ before.bank.frozen)
      (other : (⟨payload.sender⟩ : Account) ≠ Chain.reserve)
      (moved : before.bank.Transferred bank
        [.lock ⟨payload.sender⟩ before.nativeDenom payload.amount.units]) :
      Compensates before payload error { before with
        bank
        events := before.events ++
          [(Notice.failure error.message).event, (keptNotice before payload).event] }

/-- A transfer that gets as far as the burn. -/
structure Reaches (packet : Packet) (before : Chain) (order : Send.Order Account) (voucher : Coin)
    (carried : Payload) (escrowed released locked : Bank) : Prop where
  taken : Transfer.take packet before = some (.ok (), { before with bank := escrowed })
  paid : before.bank.Transferred escrowed
    [⟨⟨order.payload.sender⟩, some (Chain.escrow packet.source),
    order.payload.denom.ledgerName, order.payload.amount.units⟩]
  ordered : Send.Ordered Chain.host { before with bank := escrowed } packet order
  collected : Send.Collected packet order
    { before with bank := escrowed } voucher carried released locked

section

variable {switches : Transfer.Switches} {packet : Packet} {before other after : Chain}
  {order : Send.Order Account} {voucher : Coin} {carried : Payload}
  {escrowed released locked : Bank}

-- A plan and a conversion read neither the totals nor what can fail further on.
theorem plan_mended {totals : Totals} {sendsFail : Bool} (escrowed : Bank) :
    Send.plan Chain.host { mended before totals sendsFail with bank := escrowed.mended } packet =
      Send.plan Chain.host { before with bank := escrowed } packet := rfl

theorem convert_mended {totals : Totals} {sendsFail : Bool} (released : Bank) :
    Send.convert Chain.host { mended before totals sendsFail with bank := released.mended }
      packet order =
      Send.convert Chain.host { before with bank := released } packet order := rfl

theorem reaches_of_mended {totals : Totals} {sendsFail : Bool} {sequence : UInt64}
    (started : Transfer.start (swapStack switches) packet (mended before totals sendsFail) =
      some (.ok sequence, other))
    (reports : Departure.Reports (mended before totals sendsFail) other) :
    ∃ order voucher carried escrowed released locked,
      Reaches packet before order voucher carried escrowed released locked := by
  obtain ⟨middle, taking, sends⟩ := start_eq_ok started
  obtain ⟨payload, sender, coin, bank, readable, found, ⟨name, amount⟩, takes, rfl⟩ :=
    Transfer.take_eq_ok.mp taking
  have ran :
    (swapStack switches).send Chain.sendPacket packet { mended before totals sendsFail with bank } =
    some (.ok packet.sequence, other) := Send.atop_eq_ok.mpr ⟨rfl, sends⟩
  obtain ⟨-, order, voucher, carried, ordered, ⟨_, _, _, _, collected, -⟩, -⟩ :=
    Departure.unwraps_of_reports ran reports
  have same := ordered.readable
  rw [readable, Option.some.injEq] at same
  subst same
  have departing := ordered.departing
  rw [departing] at takes
  cases takes with
  | escrowed sent =>
      obtain ⟨escrowed, paid, rfl⟩ := Bank.send_of_mended sent
      obtain ⟨released, freed, rfl⟩ := Bank.send_of_mended collected.freed
      obtain ⟨locked, taken, rfl⟩ := Bank.send_of_mended collected.taken
      refine ⟨order, voucher, carried, escrowed, released, locked, ?_, ?_, ?_, freed, ?_, taken⟩
      · exact Transfer.take_eq_ok.mpr
          ⟨order.payload, sender, coin, escrowed, readable, found, ⟨name, amount⟩,
          departing ▸ .escrowed paid, rfl⟩
      · rw [← name, ← amount, ← Chain.account_eq found]
        exact Bank.transferred_send paid
      · exact Send.plan_eq_some.mp (plan_mended escrowed ▸ Send.plan_eq_some.mpr ordered)
      · exact Send.convert_eq_ok.mp
          (convert_mended released ▸ Send.convert_eq_ok.mpr collected.converted)

theorem Reaches.moved
    (reaches : Reaches packet before order voucher carried escrowed released locked)
    (same : order.payload.denom.ledgerName = before.nativeDenom) :
    before.bank.Transferred locked
      [.lock ⟨order.payload.sender⟩ before.nativeDenom order.payload.amount.units] := by
  have paid := reaches.paid
  have freed := Bank.transferred_send reaches.collected.freed
  have taken := Bank.transferred_send reaches.collected.taken
  have native : order.native.denom.text = before.nativeDenom := reaches.ordered.nativeDenom
  rw [same] at paid
  rw [Chain.account_eq reaches.ordered.sender, native, reaches.ordered.nativeAmount] at freed taken
  exact ((paid.append freed).append taken).through.idle

-- What becomes of the native coin then is decided by the reserve alone.
theorem Reaches.compensates
    (reaches : Reaches packet before order voucher carried escrowed released locked)
    (same : order.payload.denom.ledgerName = before.nativeDenom) (error : Error) :
    ∃ after, Send.HandsBack order.payload.sender order.sender order.native
        (Send.reported error { before with bank := locked }) after ∧
      Compensates before order.payload error after := by
  have moved := reaches.moved same
  have taken := reaches.collected.taken
  have sender := Chain.account_eq reaches.ordered.sender
  have native : order.native.denom.text = before.nativeDenom := reaches.ordered.nativeDenom
  have text : order.native.text = Coin.describe order.payload.amount before.nativeDenom := by
    rw [← native, ← reaches.ordered.nativeAmount]
    rfl
  have asBefore : released.frozen = before.bank.frozen :=
    (Bank.transferred_send taken).frozen.symm.trans moved.frozen
  by_cases frozen : Chain.reserve ∈ before.bank.frozen
  · have other : (⟨order.payload.sender⟩ : Account) ≠ Chain.reserve := by
      intro own
      have free := (Bank.send_sent taken).free
      rw [sender, own, asBefore] at free
      exact free frozen
    have stuck : Chain.reserve ∈ locked.frozen := moved.frozen ▸ frozen
    refine ⟨_, ?_, .kept frozen other moved⟩
    rw [List.append_cons, keptNotice, ← text]
    exact .kept (Bank.send_frozen stuck order.sender order.native)
  · obtain ⟨bank, back⟩ := Bank.send_returned taken (asBefore ▸ frozen)
    have returned := Bank.transferred_send back
    rw [sender, native, reaches.ordered.nativeAmount] at returned
    have nothing := (moved.append returned).through.idle
    refine ⟨_, ?_, .returned frozen ⟨nothing.frozen, nothing.units⟩⟩
    rw [List.append_cons, returnedNotice, ← text]
    exact .returned back

theorem Reaches.start_fails
    (reaches : Reaches packet before order voucher carried escrowed released locked)
    (broken : before.bank.burnsFail = true)
    (back : Send.HandsBack order.payload.sender order.sender order.native
      (Send.reported (Bank.burnError voucher) { before with bank := locked }) after) :
    Transfer.start (swapStack switches) packet before =
      some (.error (Bank.burnError voucher), after) := by
  have refused : locked.burn Chain.reserve voucher = .error (Bank.burnError voucher) := by
    have burnsFail : locked.burnsFail = true := by
      rw [(Bank.transferred_send reaches.collected.taken).burnsFail,
        (Bank.transferred_send reaches.collected.freed).burnsFail]
      exact reaches.paid.burnsFail.trans broken
    rw [Bank.burn, if_pos burnsFail]
  exact Effect.bind_eq_some.mpr ⟨.ok (), _, reaches.taken,
    Send.atop_unburned reaches.ordered reaches.collected refused back Chain.sendPacket⟩

-- What is asked of the mended chain is that the packet is unwrapped there. No totals and no channel
-- can prevent it, since the burn comes before both.
theorem failed_burn_compensated {payload : Payload} {totals : Totals} {sendsFail : Bool}
    {sequence : UInt64} (broken : before.bank.burnsFail = true)
    (readable : packet.payload? = some payload) (untraced : payload.denom.hops = [])
    (native : payload.denom.text = before.nativeDenom)
    (started : Transfer.start (swapStack switches) packet (mended before totals sendsFail) =
      some (.ok sequence, other))
    (reports : Departure.Reports (mended before totals sendsFail) other) :
    ∃ voucher : Coin, voucher.denom.text = before.settings.voucher ∧
      voucher.amount.units = payload.amount.units * before.settings.factor ∧
      ∃ after, Transfer.start (swapStack switches) packet before =
        some (.error (Bank.burnError voucher), after) ∧
        Compensates before payload (Bank.burnError voucher) after := by
  obtain ⟨order, voucher, carried, escrowed, released, locked, reaches⟩ :=
    reaches_of_mended started reports
  have same := reaches.ordered.readable
  rw [readable, Option.some.injEq] at same
  subst same
  obtain ⟨name, units⟩ := Departure.converted_voucher reaches.ordered reaches.collected.converted
  have ledger : order.payload.denom.ledgerName = before.nativeDenom := by
    rw [Denom.ledgerName_of_hops_nil untraced]
    exact native
  obtain ⟨after, back, compensates⟩ := reaches.compensates ledger (Bank.burnError voucher)
  exact ⟨voucher, name, units, after, reaches.start_fails broken back, compensates⟩

end

def brokenChain (frozen : List Account) : Chain :=
  { Undo.sampleChain with bank := { Undo.sampleChain.bank with frozen, burnsFail := true } }

set_option maxRecDepth 100000 in
theorem brokenChain_otherwise : ∀ frozen ∈ [[], [Chain.reserve]],
    ∃ other, Transfer.start (swapStack ⟨false, false⟩) Undo.samplePacket
      (mended (brokenChain frozen) .zero false) =
        some (.ok Undo.samplePacket.sequence, other) ∧
      Departure.Reports (mended (brokenChain frozen) .zero false) other := by
  have computed : ∀ frozen ∈ [[], [Chain.reserve]],
      ((Transfer.start (swapStack ⟨false, false⟩) Undo.samplePacket
        (mended (brokenChain frozen) .zero false)).map
        fun step => decide (step.1 = .ok Undo.samplePacket.sequence ∧
          step.2.events.map Event.kind = ["token_unwrapped"])) = some true := by
    decide +kernel
  exact fun frozen member => Departure.reports_of_computed rfl (computed frozen member)

theorem failed_burn_compensated_brokenChain :
    (∃ voucher after, Transfer.start (swapStack ⟨false, false⟩) Undo.samplePacket (brokenChain []) =
        some (.error (Bank.burnError voucher), after) ∧
      Compensates (brokenChain []) Undo.samplePayload (Bank.burnError voucher) after) ∧
    ∃ voucher after, Transfer.start (swapStack ⟨false, false⟩) Undo.samplePacket
      (brokenChain [Chain.reserve]) =
        some (.error (Bank.burnError voucher), after) ∧
      Compensates (brokenChain [Chain.reserve]) Undo.samplePayload
        (Bank.burnError voucher) after := by
  constructor
  · obtain ⟨other, started, reports⟩ := brokenChain_otherwise [] (by simp)
    obtain ⟨voucher, -, -, after, failed, compensates⟩ :=
      failed_burn_compensated rfl Undo.samplePacket_payload? rfl rfl started reports
    exact ⟨voucher, after, failed, compensates⟩
  · obtain ⟨other, started, reports⟩ := brokenChain_otherwise [Chain.reserve] (by simp)
    obtain ⟨voucher, -, -, after, failed, compensates⟩ :=
      failed_burn_compensated rfl Undo.samplePacket_payload? rfl rfl started reports
    exact ⟨voucher, after, failed, compensates⟩

end Compensation

end VoucherSwap
