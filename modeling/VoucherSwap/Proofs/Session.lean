import VoucherSwap.Sample
import VoucherSwap.Wrapper
import VoucherSwap.Proofs.Receive
import VoucherSwap.Proofs.Refund
import VoucherSwap.Proofs.Send

/-!
Runs of a chain with the swap on top of the transfer application. A run is any sequence of requests
that all gave a result: packets that come in, acknowledgements and timeouts of any packet whatever,
and packets that go out with or without a transfer in front. A send that fails is rolled back. What
one request can do to the chain is said here once, for all five kinds.
-/

namespace VoucherSwap

namespace Session

inductive Request where
  | receive (delivery : Delivery)
  | acknowledge (delivery : Delivery) (acknowledgement : Acknowledgement)
  | timeout (delivery : Delivery)
  | send (packet : Packet)
  | transfer (packet : Packet)

inductive Answer where
  | received (receipt : Receipt)
  | settled (settlement : Settlement)
  | dispatched (dispatch : Dispatch)

def Request.packet : Request → Packet
  | .receive delivery | .acknowledge delivery _ | .timeout delivery => delivery.packet
  | .send packet | .transfer packet => packet

def Answer.isFailedSend : Answer → Bool
  | .dispatched (.error _) => true
  | _ => false

def perform (stack : Stack Chain) : Request → Effect Chain Answer
  | .receive delivery => Answer.received <$> stack.receive delivery
  | .acknowledge delivery acknowledgement =>
      Answer.settled <$> stack.acknowledge (delivery, acknowledgement)
  | .timeout delivery => Answer.settled <$> stack.timeout delivery
  | .send packet => Answer.dispatched <$> stack.send Chain.sendPacket packet
  | .transfer packet => Answer.dispatched <$> Transfer.start stack packet

/-- Performs a request; a send that fails leaves the chain as it was. -/
def commit (stack : Stack Chain) (request : Request) : Effect Chain Answer := fun before =>
  (perform stack request before).map fun step =>
    (step.1, if step.1.isFailedSend then before else step.2)

/-- Requests one after the other, each with its answer, the latest one last. -/
inductive Run (step : Request → Effect Chain Answer) (start : Chain) :
    List (Request × Answer) → Chain → Prop where
  | nil : Run step start [] start
  | snoc {history : List (Request × Answer)} {middle final : Chain} {request : Request}
      {answer : Answer}
      (earlier : Run step start history middle)
      (last : step request middle = some (answer, final)) :
      Run step start (history ++ [(request, answer)]) final

theorem Run.preserves {step : Request → Effect Chain Answer} {start final : Chain}
    {history : List (Request × Answer)} {Invariant : Chain → Prop}
    (run : Run step start history final) (initially : Invariant start)
    (preserved : ∀ request answer before after,
      (request, answer) ∈ history → Invariant before → step request before = some (answer, after) →
      Invariant after) :
    Invariant final := by
  induction run with
  | nil => exact initially
  | snoc earlier last ih =>
      apply preserved _ _ _ _ (List.mem_append_right _ List.mem_cons_self) ?_ last
      apply ih
      intro request answer before after member
      exact preserved request answer before after (List.mem_append_left _ member)

/-- What holds of each step of a run: of the chain before it, its request and its answer. -/
def Throughout (step : Request → Effect Chain Answer) (start : Chain)
    (history : List (Request × Answer)) (holds : Chain → Request → Answer → Prop) : Prop :=
  ∀ earlier request answer middle, earlier ++ [(request, answer)] <+: history →
    Run step start earlier middle → holds middle request answer

section

variable {step : Request → Effect Chain Answer} {start : Chain} {history : List (Request × Answer)}
  {holds : Chain → Request → Answer → Prop}

theorem Throughout.initial {first : List (Request × Answer)}
    (throughout : Throughout step start history holds) (within : first <+: history) :
    Throughout step start first holds := by
  intro earlier request answer middle shorter
  exact throughout earlier request answer middle (shorter.trans within)

theorem Throughout.latest {request : Request} {answer : Answer} {middle : Chain}
    (throughout : Throughout step start (history ++ [(request, answer)]) holds)
    (run : Run step start history middle) : holds middle request answer :=
  throughout history request answer middle (List.prefix_refl _) run

theorem throughout_singleton {request : Request} {answer : Answer}
    (first : holds start request answer) :
    Throughout step start [(request, answer)] holds := by
  intro earlier other reply middle within run
  have size := within.length_le
  rw [List.length_append, List.length_singleton, List.length_singleton] at size
  obtain rfl : earlier = [] := List.eq_nil_of_length_eq_zero (by omega)
  cases within.eq_of_length rfl
  generalize nothing : ([] : List (Request × Answer)) = done at run
  cases run with
  | nil => exact first
  | snoc _ _ => simp at nothing

end

/-- What a request does to a chain. -/
inductive Commits (switches : Transfer.Switches) : Request → Chain → Answer → Chain → Prop where
  | received {delivery : Delivery} {before after : Chain} {receipt : Receipt}
      (ran : (swapStack switches).receive delivery before = some (receipt, after)) :
      Commits switches (.receive delivery) before (.received receipt) after
  | acknowledged {delivery : Delivery} {acknowledgement : Acknowledgement} {before after : Chain}
      {settlement : Settlement} {message : String}
      (failed : acknowledgement.status? = some (.failure message))
      (refunds : Refund.Refunds Chain.host Refund.acknowledgementReason delivery.packet
        (fun _ : Unit => Transfer.settle switches delivery.packet) () before settlement after) :
      Commits switches (.acknowledge delivery acknowledgement) before (.settled settlement) after
  | passed {delivery : Delivery} {acknowledgement : Acknowledgement} {before : Chain}
      (result : Except Error Unit)
      (other : ∀ message, acknowledgement.status? ≠ some (.failure message)) :
      Commits switches (.acknowledge delivery acknowledgement) before
        (.settled ⟨.empty, result⟩) before
  | expired {delivery : Delivery} {before after : Chain} {settlement : Settlement}
      (refunds : Refund.Refunds Chain.host Refund.timeoutReason delivery.packet
        (fun _ : Unit => Transfer.settle switches delivery.packet) () before settlement after) :
      Commits switches (.timeout delivery) before (.settled settlement) after
  | sent {packet : Packet} {before after : Chain} (sends : Send.Sends packet before after) :
      Commits switches (.send packet) before (.dispatched (.ok packet.sequence)) after
  | transferred {packet : Packet} {before middle after : Chain}
      (taken : Transfer.take packet before = some (.ok (), middle))
      (sends : Send.Sends packet middle after) :
      Commits switches (.transfer packet) before (.dispatched (.ok packet.sequence)) after
  | undone {request : Request} {before : Chain} (error : Error) :
      Commits switches request before (.dispatched (.error error)) before

variable {switches : Transfer.Switches} {before after : Chain}

section

variable {host : Host Chain Account} {delivery : Delivery} {acknowledgement : Acknowledgement}
  {settlement : Settlement}

theorem timeout_atop :
    (Refund.timeoutHook host).atop (Transfer.application switches).timeout delivery before =
        some (settlement, after) ↔
      Refund.Refunds host Refund.timeoutReason delivery.packet
        (fun _ : Unit => Transfer.settle switches delivery.packet) () before settlement after := by
  have visits : Refund.timeoutHook host delivery =
      Refund.visit host Refund.timeoutReason delivery.packet delivery := rfl
  have settle : (Transfer.application switches).timeout delivery =
      (fun _ : Unit => Transfer.settle switches delivery.packet) () := rfl
  exact (Refund.visit_atop visits).trans
    ⟨Refund.Refunds.congr settle, Refund.Refunds.congr settle.symm⟩

theorem acknowledge_atop {message : String}
    (failed : acknowledgement.status? = some (.failure message)) :
    (Refund.acknowledgeHook host).atop (Transfer.application switches).acknowledge
        (delivery, acknowledgement) before =
        some (settlement, after) ↔
      Refund.Refunds host Refund.acknowledgementReason delivery.packet
        (fun _ : Unit => Transfer.settle switches delivery.packet) () before settlement after := by
  have settle : (Transfer.application switches).acknowledge (delivery, acknowledgement) =
      (fun _ : Unit => Transfer.settle switches delivery.packet) () :=
    Transfer.acknowledge_failure failed
  exact (Refund.visit_atop (Refund.acknowledgeHook_failure failed)).trans
    ⟨Refund.Refunds.congr settle, Refund.Refunds.congr settle.symm⟩

theorem acknowledge_atop_other
    (other : ∀ message, acknowledgement.status? ≠ some (.failure message))
    (ran : (Refund.acknowledgeHook host).atop (Transfer.application switches).acknowledge
      (delivery, acknowledgement) before = some (settlement, after)) :
    after = before ∧ ∃ result, settlement = ⟨.empty, result⟩ := by
  rw [Hook.pass_atop (Refund.acknowledgeHook_other other)] at ran
  exact Transfer.acknowledge_other other ran

theorem timeout_eq_some :
    (swapStack switches).timeout delivery before = some (settlement, after) ↔
      Refund.Refunds Chain.host Refund.timeoutReason delivery.packet
        (fun _ : Unit => Transfer.settle switches delivery.packet) () before settlement after := by
  rw [swapStack_timeout]
  exact timeout_atop

theorem acknowledge_eq_some {message : String}
    (failed : acknowledgement.status? = some (.failure message)) :
    (swapStack switches).acknowledge (delivery, acknowledgement) before = some (settlement, after) ↔
      Refund.Refunds Chain.host Refund.acknowledgementReason delivery.packet
        (fun _ : Unit => Transfer.settle switches delivery.packet) () before settlement after := by
  rw [swapStack_acknowledge]
  exact acknowledge_atop failed

theorem acknowledge_commits
    (ran : (swapStack switches).acknowledge (delivery, acknowledgement) before =
      some (settlement, after)) :
    Commits switches (.acknowledge delivery acknowledgement) before
      (.settled settlement) after := by
  by_cases failed : ∃ message, acknowledgement.status? = some (.failure message)
  · obtain ⟨message, failed⟩ := failed
    exact .acknowledged failed ((acknowledge_eq_some failed).mp ran)
  · have other : ∀ message, acknowledgement.status? ≠ some (.failure message) :=
      not_exists.mp failed
    rw [swapStack_acknowledge] at ran
    obtain ⟨rfl, result, rfl⟩ := acknowledge_atop_other other ran
    exact .passed result other

end

theorem start_eq_ok {packet : Packet} {sequence : UInt64}
    (started : Transfer.start (swapStack switches) packet before = some (.ok sequence, after)) :
    ∃ middle, Transfer.take packet before = some (.ok (), middle) ∧
      Send.Sends packet middle after := by
  obtain ⟨outcome, middle, taking, went⟩ := Effect.bind_eq_some.mp started
  cases outcome with
  | error error =>
      obtain ⟨wrong, -⟩ := Effect.pure_eq_some.mp went
      contradiction
  | ok done => exact ⟨middle, taking, (Send.atop_eq_ok.mp went).2⟩

theorem start_of_sends {packet : Packet} {middle : Chain}
    (taken : Transfer.take packet before = some (.ok (), middle))
    (sends : Send.Sends packet middle after) :
    Transfer.start (swapStack switches) packet before = some (.ok packet.sequence, after) :=
  Effect.bind_eq_some.mpr ⟨.ok (), middle, taken, Send.atop_eq_ok.mpr ⟨rfl, sends⟩⟩

theorem send_commits {packet : Packet} {dispatch : Dispatch} {request : Request} {middle : Chain}
    (ran : (swapStack switches).send Chain.sendPacket packet middle = some (dispatch, after))
    (commits : ∀ final, Send.Sends packet middle final →
      Commits switches request before (.dispatched (.ok packet.sequence)) final) :
    Commits switches request before (.dispatched dispatch)
      (if (Answer.dispatched dispatch).isFailedSend then before else after) := by
  cases dispatch with
  | error error => exact .undone error
  | ok sequence =>
      obtain ⟨rfl, sends⟩ := Send.atop_eq_ok.mp ran
      exact commits after sends

theorem commit_commits {request : Request} {answer : Answer}
    (ran : commit (swapStack switches) request before = some (answer, after)) :
    Commits switches request before answer after := by
  obtain ⟨⟨first, middle⟩, performed, same⟩ := Option.map_eq_some_iff.mp ran
  cases same
  cases request with
  | receive delivery =>
      obtain ⟨receipt, received, rfl⟩ := Effect.map_eq_some.mp performed
      exact .received received
  | acknowledge delivery acknowledgement =>
      obtain ⟨settlement, acknowledged, rfl⟩ := Effect.map_eq_some.mp performed
      exact acknowledge_commits acknowledged
  | timeout delivery =>
      obtain ⟨settlement, expired, rfl⟩ := Effect.map_eq_some.mp performed
      exact .expired (timeout_eq_some.mp expired)
  | send packet =>
      obtain ⟨dispatch, sent, rfl⟩ := Effect.map_eq_some.mp performed
      exact send_commits sent fun final sends => .sent sends
  | transfer packet =>
      obtain ⟨dispatch, started, rfl⟩ := Effect.map_eq_some.mp performed
      obtain ⟨outcome, chain, taking, went⟩ := Effect.bind_eq_some.mp started
      cases outcome with
      | error error =>
          obtain ⟨rfl, -⟩ := Effect.pure_eq_some.mp went
          exact .undone error
      | ok done => exact send_commits went fun final sends => .transferred taking sends

theorem commit_receive {delivery : Delivery} {receipt : Receipt}
    (ran : (swapStack switches).receive delivery before = some (receipt, after)) :
    commit (swapStack switches) (.receive delivery) before = some (.received receipt, after) := by
  have performed :
      perform (swapStack switches) (.receive delivery) before = some (.received receipt, after) :=
    Effect.map_eq_some.mpr ⟨receipt, ran, rfl⟩
  rw [commit, performed]
  rfl

-- Packets that come in.

def Unswapped (receipt : Receipt) : Prop :=
  ∀ crossing, (Notice.wrapped crossing).event ∉ receipt.extras.events

theorem skip_ne_wrapped (skip : Skip) (crossing : Crossing) :
    (Notice.wrapped crossing).event ≠ skip.notice.event := by
  intro same
  have kinds := congrArg Event.kind same
  cases skip with
  | aside message => exact absurd kinds (by decide : "token_wrapped" ≠ "token_wrapper_info")
  | failed message => exact absurd kinds (by decide : "token_wrapped" ≠ "token_wrapper_error")

theorem application_ne_wrapped (payload : Payload) (success : Bool) (crossing : Crossing) :
    (Notice.wrapped crossing).event ≠ Transfer.event payload success := by
  intro same
  exact absurd (congrArg Event.kind same) (by decide : "token_wrapped" ≠ "fungible_token_packet")

theorem isSuccess_failure (message : String) :
    Receive.isSuccess (.ofStatus (.failure message)) = false := by
  apply Bool.eq_false_iff.mpr
  intro success
  obtain ⟨value, read⟩ := Receive.isSuccess_iff.mp success
  obtain ⟨other, wrong⟩ := Acknowledgement.failure_of_status? read
  contradiction

theorem isSuccess_successValue :
    Receive.isSuccess (.ofStatus (.success Transfer.successValue)) = true := by
  decide +kernel

-- The voucher of a packet that may be swapped is the one that the settings name, and the token in
-- which the application pays the packet out.
theorem received_voucher {chain : Chain} {packet : Packet} {payload : Payload}
    {wrapping : Receive.Wrapping Account}
    (eligible : Receive.Eligible Chain.host chain packet payload chain.settings wrapping) :
    wrapping.voucher.denom.text = chain.settings.voucher ∧
      Transfer.received packet payload = chain.settings.voucher := by
  have route := eligible.route
  rw [Route.comesIn, Bool.and_eq_true] at route
  obtain ⟨port, channel⟩ := Route.isNativeEnd_iff.mp route.2
  have denom : payload.denom.text = chain.settings.wrappedDenom := by
    have wrapped := eligible.wrapped
    simp only [Route.isWrappedDenom, Bool.and_eq_true, decide_eq_true_eq] at wrapped
    exact wrapped.2
  have name : Voucher.denom packet.destination.port.text packet.destination.channel.text
      payload.denom.text = chain.settings.voucher := by
    rw [port, channel, denom]
    rfl
  constructor
  · rw [eligible.voucherDenom, name]
  · rw [Transfer.received, if_neg (Bool.eq_false_iff.mp eligible.arriving), Denom.ledgerName_addHop,
      name]

/-- What a packet that comes in does to a chain. If a swap is attempted, the application has just
minted the voucher for it. -/
inductive Arrives (packet : Packet) (before : Chain) : Receipt → Chain → Prop where
  | refused {receipt : Receipt} (unswapped : Unswapped receipt) :
      Arrives packet before receipt before
  | credited {payload : Payload} {receiver : Account} {bank : Bank} {receipt : Receipt}
      (readable : packet.payload? = some payload)
      (found : Chain.host.account? payload.receiver = some receiver)
      (pays : Transfer.Pays (Chain.escrow packet.destination) receiver
        (Transfer.received packet payload)
        payload.amount before.bank (!payload.denom.arrivedOver packet.source) bank)
      (unswapped : Unswapped receipt) : Arrives packet before receipt { before with bank }
  | attempted {payload : Payload} {wrapping : Receive.Wrapping Account} {minted : Bank}
      {outcome : Except Skip Notice} {after : Chain}
      (admits : Receive.Admits Chain.host before packet payload)
      (eligible : Receive.Eligible Chain.host
        { before with bank := minted } packet payload before.settings
        wrapping)
      (made :
        before.bank.mint? wrapping.receiver wrapping.voucher.denom.text wrapping.voucher.amount =
        some minted)
      (settles : Receive.Settles packet payload wrapping
        { before with bank := minted } outcome after)
      (reported : ∀ notice, outcome = .ok notice →
        notice = .wrapped (Receive.crossing packet payload wrapping)) :
      Arrives packet before
        ⟨⟨[Transfer.event payload true, (Receive.told outcome).event], []⟩,
          .ofStatus (.success Transfer.successValue)⟩ after

theorem receive_arrives {delivery : Delivery} {receipt : Receipt}
    (ran : (swapStack switches).receive delivery before = some (receipt, after)) :
    Arrives delivery.packet before receipt after := by
  rw [swapStack_receive] at ran
  rcases Receive.atop_eq_some ran with
    ⟨error, -, rfl, rfl⟩ | ⟨payload, answer, middle, screened, received, finished⟩
  · apply Arrives.refused
    intro crossing member
    exact skip_ne_wrapped (.ofError error) crossing (List.mem_singleton.mp member)
  cases Transfer.receives received with
  | refused refuses =>
      rw [Receive.finish_other (isSuccess_failure _)] at finished
      cases finished
      exact .refused fun crossing member => List.not_mem_nil member
  | @accepted read _ done =>
      obtain ⟨-, readable, receiver, bank, found, pays, rfl⟩ := Transfer.receive_eq_ok.mp done
      obtain ⟨notice, wrapped, rfl⟩ := Receive.finish_success isSuccess_successValue finished
      rcases Receive.wrap_settles wrapped with
        ⟨skip, -, rfl, rfl⟩ | ⟨wrapping, outcome, eligible, settles, rfl, reported⟩
      · apply Arrives.credited readable found pays
        intro crossing member
        rcases List.mem_append.mp member with early | late
        · exact application_ne_wrapped read true crossing (List.mem_singleton.mp early)
        · exact skip_ne_wrapped skip crossing (List.mem_singleton.mp late)
      · have admits := Receive.screen_eq_ok.mp screened
        have same := admits.readable
        rw [readable, Option.some.injEq] at same
        subst same
        have receivers := eligible.receiver
        rw [found, Option.some.injEq] at receivers
        subst receivers
        obtain ⟨name, paidIn⟩ := received_voucher eligible
        rw [eligible.arriving, paidIn] at pays
        cases pays with
        | minted made =>
            refine .attempted admits eligible ?_ settles reported
            rw [name, eligible.voucherAmount]
            exact made

-- Refunds.

def Unrefunded (settlement : Settlement) : Prop :=
  ∀ repayment, (Notice.refunded repayment).event ∉ settlement.extras.events

theorem skip_ne_refunded (skip : Skip) (repayment : Repayment) :
    (Notice.refunded repayment).event ≠ skip.notice.event := by
  intro same
  have kinds := congrArg Event.kind same
  cases skip with
  | aside message => exact absurd kinds (by decide : "token_wrapper_refund" ≠ "token_wrapper_info")
  | failed message =>
    exact absurd kinds (by decide : "token_wrapper_refund" ≠ "token_wrapper_error")

theorem application_ne_refunded (payload : Payload) (success : Bool) (repayment : Repayment) :
    (Notice.refunded repayment).event ≠ Transfer.event payload success := by
  intro same
  exact absurd (congrArg Event.kind same)
    (by decide : "token_wrapper_refund" ≠ "fungible_token_packet")

theorem settles_unrefunded {packet : Packet} {settlement : Settlement}
    (settles : Transfer.Settles switches packet before settlement after) :
    Unrefunded settlement := by
  intro repayment member
  cases settles with
  | refunded done => exact application_ne_refunded _ false repayment (List.mem_singleton.mp member)
  | refused error => exact List.not_mem_nil member

theorem unrefunded_push {settlement : Settlement} (unrefunded : Unrefunded settlement)
    (skip : Skip) :
    Unrefunded { settlement with extras := settlement.extras.push skip.notice.event } := by
  intro repayment member
  rcases List.mem_append.mp member with early | late
  · exact unrefunded repayment early
  · exact skip_ne_refunded skip repayment (List.mem_singleton.mp late)

/-- What a refund does to a chain: what the application does, and a swap that was due behind it. -/
inductive Returns (switches : Transfer.Switches) (reason : String) (packet : Packet)
    (before : Chain) :
    Settlement → Chain → Prop where
  | left {first settlement : Settlement} {after : Chain}
      (settles : Transfer.Settles switches packet before first after)
      (result : settlement.result = first.result) (unrefunded : Unrefunded settlement) :
      Returns switches reason packet before settlement after
  | attempted {pending : Refund.Pending Account} {payload : Payload} {middle after : Chain}
      {outcome : Except Error Notice}
      (due : Refund.Due Chain.host before packet before.settings pending)
      (done : Transfer.refund switches packet before = some (.ok payload, middle))
      (repays : Refund.Repays reason pending middle outcome after) :
      Returns switches reason packet before
        ⟨⟨[Transfer.event payload false, (Refund.told outcome).event], []⟩, .ok ()⟩ after

theorem refunds_returns {reason : String} {packet : Packet} {settlement : Settlement}
    (refunds : Refund.Refunds Chain.host reason packet
      (fun _ : Unit => Transfer.settle switches packet) () before settlement after) :
    Returns switches reason packet before settlement after := by
  have attempted {pending : Refund.Pending Account} {first : Settlement} {middle : Chain}
      {outcome : Except Error Notice}
        (prepared : Refund.prepare Chain.host before packet = .ok pending)
      (asked : Transfer.settle switches packet before = some (first, middle))
        (verdict : first.result = .ok ())
      (repaid : Refund.repay Chain.host reason pending middle = some (outcome, after)) :
      Returns switches reason packet before
        { first with extras := first.extras.push (Refund.told outcome).event } after := by
    obtain ⟨settings, due⟩ := Refund.prepare_eq_ok.mp prepared
    cases due.stored
    cases Transfer.settles asked with
    | refused error => contradiction
    | refunded done => exact .attempted due done (Refund.repay_eq_some.mp repaid)
  cases refunds with
  | skipped left asked =>
      have settles := Transfer.settles asked
      exact .left settles rfl (unrefunded_push (settles_unrefunded settles) _)
  | refused due asked verdict =>
      have settles := Transfer.settles asked
      exact .left settles rfl (settles_unrefunded settles)
  | failed due asked verdict stopped => exact attempted due asked verdict stopped
  | repaid due asked verdict done => exact attempted due asked verdict done

end Session

namespace Sample

theorem nativeDenom_visible : Text.isBlank nativeDenom = false := by decide

theorem five_fits : 5 < Amount.bound := by decide

theorem vouchers_fit : 5 * 10 ^ 12 < Amount.bound := by decide

def incoming : Payload where
  denom := ⟨[], nativeDenom, nativeDenom_visible⟩
  amount := ⟨5 * 10 ^ 12 + 3, by decide⟩
  sender := "cosmos1sender"
  receiver := "zig1receiver"
  memo := ""

def incomingDelivery : Delivery := ⟨{ packet with data := incoming.bytes }, ""⟩

theorem incomingDelivery_payload? : incomingDelivery.packet.payload? = some incoming :=
  Packet.payload?_of_data rfl rfl

def outgoing (sender : String) : Payload where
  denom := ⟨[], nativeDenom, nativeDenom_visible⟩
  amount := ⟨5, five_fits⟩
  sender
  receiver := "cosmos1receiver"
  memo := ""

def departing (payload : Payload) : Packet :=
  Send.rewritten { packet with source := nativeEnd, destination := counterpartyEnd } payload

def fundedChain : Chain :=
  { openChain with bank := Bank.empty.setBalance Chain.reserve nativeDenom ⟨5, five_fits⟩ }

theorem fundedChain_foreign : fundedChain.nativeDenom ≠ fundedChain.settings.voucher :=
  Ne.symm (Voucher.ofTrace_ne (by decide) _)

end Sample

end VoucherSwap
