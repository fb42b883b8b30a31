import VoucherSwap.Proofs.Holdings
import VoucherSwap.Proofs.Verdict

/-!
Who has the coins when the swap asks. Before it moves anything the swap checks that the user has the
one coin and the reserve the other. What the user should have is what the application has just paid
out, so only the reserve can be short: the voucher of the swap is the very token that the
application minted, and the coin that leaves escrow goes to its sender. The exception is a refund of
a token whose trace has been swallowed by its base denomination.
-/

namespace VoucherSwap

variable {σ α : Type}

/-- A host like this one on which everybody seems to have everything. What passes there passes here
as well, up to the question who has what. -/
def Host.trusting (host : Host σ α) : Host σ α := { host with holds := fun _ _ _ => true }

theorem Reserve.checkBalances_covered {host : Host σ α} {state : σ} {account : α} {name : String}
    {coin : Coin} (covered : checkFunds host state account name coin = .ok ()) (other : Coin) :
    checkBalances host state account name coin other =
      checkFunds host state (host.reserve state) holderName other := by
  rw [checkBalances, covered]
  rfl

theorem Receive.assess_trusting {host : Host σ α} {state : σ} {packet : Packet} {payload : Payload}
    {settings : Settings} {wrapping : Wrapping α}
    (eligible : Eligible host.trusting state packet payload settings wrapping) :
    assess host state packet payload =
      (Reserve.checkBalances host state wrapping.receiver payload.receiver wrapping.voucher
        wrapping.native).mapError
        Skip.ofError >>= fun _ => pure wrapping := by
  have stored : host.settings state = .ok settings := eligible.stored
  have counterparty : Route.checkCounterparty host state settings packet.destination = .ok () :=
    eligible.counterparty
  have clients : Route.checkClients host state settings packet.destination = .ok () :=
    eligible.clients
  have receiver : host.account payload.receiver = .ok wrapping.receiver :=
    Host.account_eq_ok.mpr eligible.receiver
  have voucher := Coin.make_eq_ok.mpr ⟨eligible.voucherDenom, eligible.voucherAmount⟩
  have native : Coin.make (host.nativeDenom state) wrapping.native.amount = .ok wrapping.native :=
    Coin.make_eq_ok.mpr ⟨eligible.nativeDenom, rfl⟩
  simp only [assess, stored, counterparty, clients, receiver, voucher, native, eligible.scaled,
    eligible.configured, eligible.wrapped, eligible.arriving, eligible.enabled, eligible.route,
    Check.ok_bind, Check.mapError_ok, Bool.not_true, Bool.false_eq_true, if_false]

theorem Refund.coins_trusting {host : Host σ α} {state : σ} {pending : Pending α}
    {voucher native : Coin} (exchange : Exchange host.trusting state pending voucher native) :
    coins host state pending =
      Reserve.checkBalances host state pending.sender pending.payload.sender voucher
        native >>= fun _ =>
        pure (voucher, native) := by
  have taken := Coin.make_eq_ok.mpr ⟨exchange.voucherDenom, exchange.voucherAmount⟩
  have paid : Coin.make (host.nativeDenom state) native.amount = .ok native :=
    Coin.make_eq_ok.mpr ⟨exchange.nativeDenom, rfl⟩
  simp only [coins, exchange.scaled, taken, paid, Check.ok_bind]

namespace Cover

open Session

variable {switches : Transfer.Switches} {before middle : Chain} {packet : Packet}
  {payload : Payload}

/-- The application minted the coin for the holder and did nothing else, and the holder passes the
check for it. -/
structure Credited (before middle : Chain) (holder : Account) (name : String) (coin : Coin) :
    Prop where
  minted : before.bank.mint? holder coin.denom.text coin.amount = some middle.bank
  rest : middle = { before with bank := middle.bank }
  covered : Reserve.checkFunds Chain.host middle holder name coin = .ok ()

theorem covered_iff {chain : Chain} {holder : Account} {name : String} {coin : Coin} :
    Reserve.checkFunds Chain.host chain holder name coin = .ok () ↔
      coin.amount.units ≤ chain.bank.units holder coin.denom.text :=
  Reserve.checkFunds_eq_ok.trans Chain.holds_iff

theorem credited_of_minted {bank : Bank} {holder : Account} {coin : Coin}
    (minted : before.bank.mint? holder coin.denom.text coin.amount = some bank) (name : String) :
    Credited before { before with bank } holder name coin where
  minted
  rest := rfl
  covered := by
    have entry := (Bank.mint?_posted minted).entry holder
    rw [Bank.share_self, Bank.nothing] at entry
    apply covered_iff.mpr
    dsimp only
    omega

/-- A packet that the application accepted and that is to be swapped, if only the coins are
there. -/
structure Received (switches : Transfer.Switches) (before middle : Chain) (delivery : Delivery)
    (payload : Payload) (wrapping : Receive.Wrapping Account) : Prop where
  admitted : Receive.Admits Chain.host before delivery.packet payload
  accepted : ∃ receipt, (Transfer.application switches).receive delivery before =
    some (receipt, middle) ∧
    Receive.isSuccess receipt.acknowledgement = true
  eligible :
    Receive.Eligible Chain.host.trusting middle delivery.packet payload middle.settings wrapping

theorem Received.credited {delivery : Delivery} {wrapping : Receive.Wrapping Account}
    (received : Received switches before middle delivery payload wrapping) :
    Credited before middle wrapping.receiver payload.receiver wrapping.voucher := by
  obtain ⟨receipt, ran, success⟩ := received.accepted
  have eligible := received.eligible
  cases Transfer.receives ran with
  | refused refuses =>
      rw [isSuccess_failure] at success
      contradiction
  | accepted done =>
      obtain ⟨-, readable, receiver, bank, found, pays, rfl⟩ := Transfer.receive_eq_ok.mp done
      rw [received.admitted.readable, Option.some.injEq] at readable
      subst readable
      have account : Chain.host.account? payload.receiver = some wrapping.receiver :=
        eligible.receiver
      rw [found, Option.some.injEq] at account
      subst account
      have token : Transfer.received delivery.packet payload = wrapping.voucher.denom.text := by
        rw [Transfer.received, eligible.arriving, eligible.voucherDenom, Denom.ledgerName_addHop]
        rfl
      rw [token, eligible.arriving, ← eligible.voucherAmount] at pays
      cases pays with
      | minted made => exact credited_of_minted made payload.receiver

/-- A packet that the application refunded and whose swap is to be taken back, if only the coins are
there. -/
structure Returned (switches : Transfer.Switches) (before middle : Chain) (packet : Packet)
    (pending : Refund.Pending Account) (voucher native : Coin) : Prop where
  due : Refund.Due Chain.host before packet before.settings pending
  refunded : ∃ settlement, Transfer.settle switches packet before = some (settlement, middle) ∧
    settlement.result = .ok ()
  exchange : Refund.Exchange Chain.host.trusting middle pending voucher native

section

variable {pending : Refund.Pending Account} {voucher native : Coin}

theorem Returned.done (returned : Returned switches before middle packet pending voucher native) :
    Transfer.refund switches packet before = some (.ok pending.payload, middle) := by
  obtain ⟨settlement, asked, verdict⟩ := returned.refunded
  exact Transfer.refund_of_settle asked verdict returned.due.readable

theorem due_traced (due : Refund.Due Chain.host before packet before.settings pending)
    (keeps : before.settings.KeepsHop) : pending.payload.denom.hops ≠ [] := by
  have known := Payload.denom_of_ofBytes? due.readable
  rw [due.outbound] at known
  exact keeps _ known

theorem Returned.credited (returned : Returned switches before middle packet pending voucher native)
    (traced : pending.payload.denom.hops ≠ []) :
    Credited before middle pending.sender pending.payload.sender voucher := by
  obtain ⟨-, -, sender, bank, found, pays, rfl⟩ := Transfer.refund_eq_ok.mp returned.done
  rw [returned.due.sender, Option.some.injEq] at found
  subst found
  have arrived := returned.due.arrived.resolve_left traced
  rw [arrived, Denom.ledgerName_of_arrivedOver arrived, ← returned.exchange.voucherDenom,
    ← returned.exchange.voucherAmount] at pays
  cases pays with
  | minted made => exact credited_of_minted made pending.payload.sender

-- A token without a trace is paid from escrow, under its own name, so the sender has the vouchers
-- it had before.
theorem Returned.covered_iff
    (returned : Returned switches before middle packet pending voucher native) :
    Reserve.checkFunds Chain.host middle pending.sender pending.payload.sender voucher = .ok () ↔
      pending.payload.denom.hops ≠ [] ∨
        voucher.amount.units ≤ before.bank.units pending.sender before.settings.voucher := by
  have name : voucher.denom.text = before.settings.voucher := by
    rw [returned.exchange.voucherDenom, returned.due.outbound]
    rfl
  rw [Cover.covered_iff, name, returned.exchange.voucherAmount]
  exact returned.due.holds_iff returned.done

end

theorem covered_of_sent {payer holder : Account} {coin : Coin} {bank : Bank}
    (other : holder ≠ payer) (sent : before.bank.send payer holder coin = some (.ok bank))
    (name : String) :
    Reserve.checkFunds Chain.host { before with bank } holder name coin = .ok () := by
  have entry := (Bank.send_sent sent).posted.entry holder
  rw [Bank.share_self, Bank.share_of_ne other] at entry
  apply covered_iff.mpr
  dsimp only
  omega

/-- An error that is not about a coin of the user. -/
structure Blameless (error : Error) : Prop where
  found : ∀ coin, error ≠ .missingCoin coin
  reserve : ∀ name required available, error = .insufficientFunds name required available →
    name = Reserve.holderName

section

variable {after : Chain} {error : Error}

theorem blameless_of_fault (other : error.isAccounting = false) : Blameless error := by
  constructor
  · rintro coin rfl
    contradiction
  · rintro name required available rfl
    contradiction

-- The coin of a send is asked for right after it was released, and again with the voucher of the
-- reserve.
theorem uncollected_blameless {order : Send.Order Account} {bank : Bank}
    (ordered : Send.Ordered Chain.host before packet order)
    (stopped : Send.Uncollected packet order before error bank) : Blameless error := by
  have other := Ne.symm (Chain.escrow_ne_account ordered.sender packet.source)
  cases stopped with
  | escrowed refused | unlocked freed refused => exact blameless_of_fault (Send.bank_fault refused)
  | missing freed unowned =>
      have covered := covered_of_sent other freed order.payload.sender
      rw [Reserve.checkFunds_eq_ok.mp covered] at unowned
      contradiction
  | unconverted freed refused =>
      have covered := covered_of_sent other freed order.payload.sender
      rcases Send.convert_fault refused with other | short | ⟨coin, short⟩
      · exact blameless_of_fault other
      · rw [covered] at short
        contradiction
      · obtain ⟨-, rfl⟩ := Reserve.checkFunds_eq_error.mp short
        constructor
        · intro other same
          contradiction
        · intro name required available same
          cases same
          rfl

theorem fails_blameless (fails : Send.Fails packet before error after) : Blameless error := by
  cases fails with
  | refused planned => exact blameless_of_fault (Send.plan_fault planned)
  | uncollected ordered stopped => exact uncollected_blameless ordered stopped
  | unburned ordered collected refused back =>
      obtain ⟨description, rfl⟩ := Bank.burn_eq_error refused
      exact blameless_of_fault rfl
  | rejected left broken | undelivered ordered collected destroyed broken =>
    exact blameless_of_fault rfl
  | uncounted ordered collected destroyed working overflow =>
      obtain ⟨-, rfl⟩ := Totals.recordOut_eq_error.mp overflow
      constructor
      · intro coin same
        contradiction
      · intro name required available same
        contradiction

theorem take_fault (refused : Transfer.take packet before = some (.error error, after)) :
    error.isAccounting = false := by
  simp only [Transfer.take, Attempt.bind_eq_error, Attempt.check_eq_ok, Attempt.check_eq_error,
    Route.payload_eq_error, Transfer.account, Host.account_eq_error, Coin.make_eq_error] at refused
  rcases refused with ⟨⟨-, rfl⟩, -⟩ | ⟨payload, _, -, ⟨⟨-, rfl⟩, -⟩ | ⟨sender, _, -, rest⟩⟩
  · rfl
  · rfl
  rcases rest with ⟨⟨-, rfl⟩, -⟩ | ⟨coin, _, -, went⟩
  · rfl
  split at went
  · obtain ⟨description, rfl⟩ := Bank.burn_eq_error (Chain.burnCoins_eq_error.mp went).1
    rfl
  · exact Send.bank_fault (Chain.sendCoins_eq_error.mp went).1

theorem perform_blameless {request : Request}
    (failed : perform (swapStack switches) request before =
      some (.dispatched (.error error), after)) :
    Blameless error := by
  cases request with
  | receive delivery | acknowledge delivery acknowledgement | timeout delivery =>
      obtain ⟨answer, -, same⟩ := Effect.map_eq_some.mp failed
      contradiction
  | send packet =>
      obtain ⟨dispatch, sent, same⟩ := Effect.map_eq_some.mp failed
      cases same
      exact fails_blameless (Send.atop_fails sent)
  | transfer packet =>
      obtain ⟨dispatch, started, same⟩ := Effect.map_eq_some.mp failed
      cases same
      obtain ⟨outcome, middle, taking, went⟩ := Effect.bind_eq_some.mp started
      cases outcome with
      | ok done => exact fails_blameless (Send.atop_fails went)
      | error cause =>
          obtain ⟨same, -⟩ := Effect.pure_eq_some.mp went
          cases same
          exact blameless_of_fault (take_fault taking)

end

def reserveCheck (chain : Chain) (coin : Coin) : Except Error Unit :=
  Reserve.checkFunds Chain.host chain Chain.reserve Reserve.holderName coin

-- Received packets, refunds, coins released from escrow, and failed sends. In a refund the trace
-- decides: a token that has one was minted as the voucher, and one that has none was paid from
-- escrow as it is.
theorem holder_covered (switches : Transfer.Switches) (before : Chain) :
    (∀ middle delivery payload wrapping, Received switches before middle delivery payload wrapping →
        Credited before middle wrapping.receiver payload.receiver wrapping.voucher ∧
          Receive.assess Chain.host middle delivery.packet payload =
            (reserveCheck middle wrapping.native).mapError Skip.ofError >>= fun _ =>
              pure wrapping) ∧
      (∀ middle packet pending voucher native,
        Returned switches before middle packet pending voucher native →
        (Reserve.checkFunds Chain.host middle pending.sender pending.payload.sender voucher =
          .ok () ↔
            pending.payload.denom.hops ≠ [] ∨
              voucher.amount.units ≤ before.bank.units pending.sender before.settings.voucher) ∧
          (before.settings.KeepsHop →
            Credited before middle pending.sender pending.payload.sender voucher ∧
              Refund.coins Chain.host middle pending =
                reserveCheck middle native >>= fun _ => pure (voucher, native))) ∧
      (∀ packet order released, Send.Ordered Chain.host before packet order →
        before.bank.send (Chain.escrow packet.source) order.sender order.native =
          some (.ok released) →
        Reserve.checkFunds Chain.host
          { before with bank := released } order.sender order.payload.sender order.native =
          .ok ()) ∧
      ∀ request error after,
        perform (swapStack switches) request before = some (.dispatched (.error error), after) →
          Blameless error := by
  refine ⟨?_, ?_, ?_, ?_⟩
  · intro middle delivery payload wrapping received
    have credited := received.credited
    refine ⟨credited, ?_⟩
    rw [Receive.assess_trusting received.eligible, Reserve.checkBalances_covered credited.covered]
    rfl
  · intro middle packet pending voucher native returned
    refine ⟨returned.covered_iff, ?_⟩
    intro keeps
    have credited := returned.credited (due_traced returned.due keeps)
    refine ⟨credited, ?_⟩
    rw [Refund.coins_trusting returned.exchange, Reserve.checkBalances_covered credited.covered]
    rfl
  · intro packet order released ordered freed
    exact covered_of_sent (Ne.symm (Chain.escrow_ne_account ordered.sender packet.source)) freed _
  · intro request error after failed
    exact perform_blameless failed

set_option maxRecDepth 100000 in
theorem fundedChain_received :
    ∃ middle wrapping,
      Received ⟨false, false⟩ Sample.fundedChain middle Sample.incomingDelivery Sample.incoming
        wrapping := by
  have computed :
    (((Transfer.application ⟨false, false⟩).receive Sample.incomingDelivery Sample.fundedChain).map
      fun step => Receive.isSuccess step.1.acknowledgement &&
        (Receive.assess Chain.host.trusting step.2 Sample.incomingDelivery.packet
          Sample.incoming).isOk) =
      some true := by
    decide +kernel
  obtain ⟨⟨receipt, middle⟩, ran, facts⟩ := Option.map_eq_some_iff.mp computed
  obtain ⟨success, passed⟩ := Bool.and_eq_true_iff.mp facts
  obtain ⟨wrapping, assessed⟩ := Check.isOk_iff.mp passed
  obtain ⟨settings, eligible⟩ := Receive.assess_eq_ok.mp assessed
  cases eligible.stored
  have admitted :
    Receive.Admits Chain.host Sample.fundedChain Sample.incomingDelivery.packet Sample.incoming := {
    ready := ⟨_, rfl, rfl⟩
    readable := Sample.incomingDelivery_payload?
    sender := by decide
    receiver := ⟨_, rfl⟩
    positive := by decide }
  exact ⟨middle, wrapping, admitted, ⟨receipt, ran, success⟩, eligible⟩

theorem returned_of_computed {pending : Refund.Pending Account}
    (due : Refund.Due Chain.host before packet before.settings pending)
    (computed :
      ((Transfer.settle switches packet before).map fun step =>
        decide (step.1.result = .ok ()) && (Refund.coins Chain.host.trusting step.2 pending).isOk) =
          some true) :
    ∃ middle voucher native, Returned switches before middle packet pending voucher native := by
  obtain ⟨⟨settlement, middle⟩, asked, facts⟩ := Option.map_eq_some_iff.mp computed
  obtain ⟨verdict, passed⟩ := Bool.and_eq_true_iff.mp facts
  obtain ⟨coins, quoted⟩ := Check.isOk_iff.mp passed
  exact ⟨middle, coins.1, coins.2, due, ⟨settlement, asked, of_decide_eq_true verdict⟩,
    Refund.coins_eq_ok.mp quoted⟩

set_option maxRecDepth 100000 in
theorem ownerChain_returned :
    ∃ middle voucher native,
      Returned ⟨false, false⟩ (Forwarded.ownerChain .zero) middle Forwarded.samplePacket
      Refund.samplePending voucher native :=
  returned_of_computed Refund.samplePending_due (by decide +kernel)

theorem holder_covered_samples :
    (∃ middle wrapping,
      Received ⟨false, false⟩ Sample.fundedChain middle Sample.incomingDelivery
        Sample.incoming wrapping ∧
        Credited Sample.fundedChain middle wrapping.receiver Sample.incoming.receiver
          wrapping.voucher) ∧
      ∃ middle voucher native,
        Returned ⟨false, false⟩ (Forwarded.ownerChain .zero) middle Forwarded.samplePacket
          Refund.samplePending voucher
            native ∧
          Refund.coins Chain.host middle Refund.samplePending =
            reserveCheck middle native >>= fun _ => pure (voucher, native) := by
  obtain ⟨first, wrapping, received⟩ := fundedChain_received
  obtain ⟨second, voucher, native, returned⟩ := ownerChain_returned
  have credited := ((holder_covered ⟨false, false⟩ Sample.fundedChain).1 _ _ _ _ received).1
  have left :=
    ((holder_covered ⟨false, false⟩ (Forwarded.ownerChain .zero)).2.1 _ _ _ _ _ returned).2
    Sample.settings_keepsHop
  exact ⟨⟨first, wrapping, received, credited⟩, second, voucher, native, returned, left.2⟩

/-- What the sender paid is in escrow, under the name in which it was sent, and the sender has no
vouchers. -/
def shortChain : Chain :=
  { Sample.hopChain with
    bank := (Bank.empty.setBalance Chain.reserve Sample.nativeDenom .one).setBalance
      (Chain.escrow Sample.nativeEnd)
      Sample.hopBase.text Holdings.seizingPayload.amount }

def shortPending : Refund.Pending Account where
  sender := ⟨Holdings.seizingPayload.sender⟩
  payload := Holdings.seizingPayload
  decimalDifference := Sample.hopSettings.decimalDifference

set_option maxRecDepth 100000 in
theorem shortPending_due :
    Refund.Due Chain.host shortChain Holdings.seizingPacket shortChain.settings shortPending where
  ready := ⟨_, rfl, rfl⟩
  readable := Packet.payload?_of_data rfl rfl
  named := by decide
  sender := rfl
  positive := by decide
  stored := rfl
  configured := by decide
  outbound := by decide
  route := by decide
  enabled := rfl
  difference := rfl

set_option maxRecDepth 100000 in
theorem shortChain_returned :
    ∃ middle voucher native,
      Returned ⟨false, false⟩ shortChain middle Holdings.seizingPacket shortPending
        voucher native :=
  returned_of_computed shortPending_due (by decide +kernel)

/-- A refund after which the sender does not have the vouchers that the swap asks for. -/
theorem refund_leaves_holder_short :
    ∃ middle voucher native,
      Returned ⟨false, false⟩ shortChain middle Holdings.seizingPacket shortPending voucher native ∧
        ¬ Reserve.checkFunds Chain.host middle shortPending.sender shortPending.payload.sender
          voucher = .ok () := by
  obtain ⟨middle, voucher, native, returned⟩ := shortChain_returned
  refine ⟨middle, voucher, native, returned, ?_⟩
  intro covered
  rcases returned.covered_iff.mp covered with traced | held
  · exact traced rfl
  · rw [returned.exchange.voucherAmount] at held
    exact absurd held (by decide +kernel)

end Cover

end VoucherSwap
