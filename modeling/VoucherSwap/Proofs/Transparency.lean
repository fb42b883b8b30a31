import Mathlib.Data.List.Forall2
import VoucherSwap.Proofs.Abort
import VoucherSwap.Proofs.Verdict

/-!
Traffic that is none of the swap's: packets that come in for somebody else or cannot be swapped,
packets that come back without a swap to take back, and packets that are only forwarded. A run of
nothing else is the same with the swap on top of the application and without it: step by step the
chains are equal, and the answers are but for a notice.
-/

namespace VoucherSwap

def Receipt.noted (receipt : Receipt) (notice : Notice) : Receipt :=
  { receipt with extras := receipt.extras.push notice.event }

def Settlement.noted (settlement : Settlement) (notice : Notice) : Settlement :=
  { settlement with extras := settlement.extras.push notice.event }

namespace Send

/-- A send of the wrapped token over the wrapped channel. -/
def Targets (chain : Chain) (packet : Packet) (payload : Payload) : Prop :=
  Route.isTargeted chain.settings
    (routeDenom chain.settings chain.nativeDenom payload.denom.text) packet.source = true

/-- A packet that is only forwarded. -/
structure Passes (chain : Chain) (packet : Packet) (payload : Payload) : Prop where
  ready : ∃ channel, Chain.host.channel? chain packet.source = some channel ∧ channel.state = .open
  readable : packet.payload? = some payload
  aside : Targets chain packet payload → chain.settings.enabled = true ∧
    (payload.denom.arrivedOver packet.source = true ∨ chain.settings.configured = false)

theorem plan_eq_none {chain : Chain} {packet : Packet} :
    plan Chain.host chain packet = .ok none ↔ ∃ payload, Passes chain packet payload := by
  simp only [plan, Check.bind_eq_ok, Check.pure_eq_ok, Check.guard_eq_ok, Check.leave_eq_none,
    Route.openChannel_eq_ok, Route.payload_eq_ok, Bool.not_eq_true', Bool.not_eq_false, not_and,
    reduceCtorEq, and_false, exists_false, or_false]
  constructor
  · rintro ⟨channel, ready, payload, readable, settings, stored, enabled, left⟩
    cases stored
    refine ⟨payload, ⟨channel, ready⟩, readable, fun targets => ⟨enabled targets, ?_⟩⟩
    rcases left with arrived | unconfigured | untargeted
    · exact .inl arrived
    · exact .inr unconfigured
    · exact absurd targets (Bool.eq_false_iff.mp untargeted)
  · rintro ⟨payload, ⟨channel, ready⟩, readable, aside⟩
    refine ⟨channel, ready, payload, readable, chain.settings, rfl, fun targets =>
      (aside targets).1, ?_⟩
    by_cases targets : Targets chain packet payload
    · exact (aside targets).2.imp_right .inl
    · exact .inr (.inr (Bool.eq_false_iff.mpr targets))

theorem Passes.atop {chain : Chain} {packet : Packet} {payload : Payload}
    (passes : Passes chain packet payload) (below : Packet → Effect Chain Dispatch) :
    (hook Chain.host).atop below packet chain = below packet chain :=
  atop_forwards (plan_eq_none.mpr ⟨payload, passes⟩) below

end Send

namespace Receive

/-- What a received voucher needs besides coins in order to be swapped. -/
structure Swappable (chain : Chain) (packet : Packet) (payload : Payload) : Prop where
  counterparty : Route.checkCounterparty Chain.host chain chain.settings packet.destination = .ok ()
  clients : Route.checkClients Chain.host chain chain.settings packet.destination = .ok ()
  configured : chain.settings.configured = true
  wrapped : Route.isWrappedDenom chain.settings payload.denom.text = true
  arriving : payload.denom.arrivedOver packet.source = false
  enabled : chain.settings.enabled = true
  route : Route.comesIn chain.settings packet = true

theorem assess_unswappable {chain : Chain} {packet : Packet} {payload : Payload}
    (unswappable : ¬ Swappable chain packet payload) :
    ∃ skip, assess Chain.host chain packet payload = .error skip := by
  cases assessed : assess Chain.host chain packet payload with
  | error skip => exact ⟨skip, rfl⟩
  | ok wrapping =>
      obtain ⟨settings, eligible⟩ := assess_eq_ok.mp assessed
      cases eligible.stored
      exact absurd
        ⟨eligible.counterparty, eligible.clients, eligible.configured, eligible.wrapped,
        eligible.arriving, eligible.enabled, eligible.route⟩ unswappable

end Receive

namespace Transparency

open Session Forwarded

/-- A request that is none of the swap's on a chain like this one. -/
inductive Foreign (chain : Chain) : Request → Prop where
  | received {delivery : Delivery} {payload : Payload}
      (admitted : Receive.Admits Chain.host chain delivery.packet payload)
      (unswappable : ¬ Receive.Swappable chain delivery.packet payload) :
        Foreign chain (.receive delivery)
  | expired {delivery : Delivery}
      (undue : ∀ pending, ¬ Refund.Due Chain.host chain delivery.packet chain.settings pending) :
      Foreign chain (.timeout delivery)
  | rejected {delivery : Delivery} {acknowledgement : Acknowledgement} {message : String}
      (failed : acknowledgement.status? = some (.failure message))
      (undue : ∀ pending, ¬ Refund.Due Chain.host chain delivery.packet chain.settings pending) :
      Foreign chain (.acknowledge delivery acknowledgement)
  | acknowledged (delivery : Delivery) {acknowledgement : Acknowledgement}
      (other : ∀ message, acknowledgement.status? ≠ some (.failure message)) :
      Foreign chain (.acknowledge delivery acknowledgement)
  | sent {packet : Packet} {payload : Payload} (passes : Send.Passes chain packet payload) :
      Foreign chain (.send packet)
  | transferred {packet : Packet} {payload : Payload} (passes : Send.Passes chain packet payload) :
      Foreign chain (.transfer packet)

/-- Chains that differ in their coins and in what they sent. Nothing of that makes a request the
swap's. -/
def Alike (before after : Chain) : Prop := ∃ bank sent, after = { before with bank, sent }

theorem Alike.refl (chain : Chain) : Alike chain chain := ⟨chain.bank, chain.sent, rfl⟩

theorem Alike.trans {before middle after : Chain} (first : Alike before middle)
    (second : Alike middle after) :
    Alike before after := by
  obtain ⟨_, _, rfl⟩ := first
  obtain ⟨bank, sent, rfl⟩ := second
  exact ⟨bank, sent, rfl⟩

theorem Alike.symm {before after : Chain} (alike : Alike before after) : Alike after before := by
  obtain ⟨bank, sent, rfl⟩ := alike
  exact ⟨before.bank, before.sent, rfl⟩

theorem Alike.due {before after : Chain} (alike : Alike before after) {packet : Packet}
    {pending : Refund.Pending Account}
    (due : Refund.Due Chain.host before packet before.settings pending) :
    Refund.Due Chain.host after packet after.settings pending := by
  obtain ⟨bank, sent, rfl⟩ := alike
  obtain ⟨ready, readable, named, sender, positive, -, configured, outbound, route, enabled,
    difference⟩ := due
  exact ⟨ready, readable, named, sender, positive, rfl, configured, outbound, route,
    enabled, difference⟩

theorem Alike.passes {before after : Chain} (alike : Alike before after) {packet : Packet}
    {payload : Payload} (passes : Send.Passes before packet payload) :
    Send.Passes after packet payload := by
  obtain ⟨bank, sent, rfl⟩ := alike
  exact ⟨passes.ready, passes.readable, passes.aside⟩

theorem Alike.swappable {before after : Chain} (alike : Alike before after) {packet : Packet}
    {payload : Payload} (swappable : Receive.Swappable before packet payload) :
    Receive.Swappable after packet payload := by
  obtain ⟨bank, sent, rfl⟩ := alike
  obtain ⟨counterparty, clients, configured, wrapped, arriving, enabled, route⟩ := swappable
  exact ⟨counterparty, clients, configured, wrapped, arriving, enabled, route⟩

theorem Alike.admits {before after : Chain} (alike : Alike before after) {packet : Packet}
    {payload : Payload} (admits : Receive.Admits Chain.host before packet payload) :
    Receive.Admits Chain.host after packet payload := by
  obtain ⟨bank, sent, rfl⟩ := alike
  exact ⟨admits.ready, admits.readable, admits.sender, admits.receiver, admits.positive⟩

theorem Alike.foreign {before after : Chain} (alike : Alike before after) {request : Request}
    (foreign : Foreign before request) : Foreign after request := by
  cases foreign with
  | received admitted unswappable =>
      exact .received (alike.admits admitted) fun swappable =>
        unswappable (alike.symm.swappable swappable)
  | expired undue => exact .expired fun pending due => undue pending (alike.symm.due due)
  | rejected failed undue =>
    exact .rejected failed fun pending due => undue pending (alike.symm.due due)
  | acknowledged delivery other => exact .acknowledged delivery other
  | sent passes => exact .sent (alike.passes passes)
  | transferred passes => exact .transferred (alike.passes passes)

-- The application alone moves coins and sends packets.

variable {switches : Transfer.Switches}

theorem receives_alike {packet : Packet} {receipt : Receipt} {before after : Chain}
    (receives : Transfer.Receives switches packet before receipt after) : Alike before after := by
  cases receives with
  | accepted done =>
      obtain ⟨-, -, -, bank, -, -, rfl⟩ := Transfer.receive_eq_ok.mp done
      exact ⟨bank, _, rfl⟩
  | refused refuses => exact .refl _

theorem settles_alike {packet : Packet} {settlement : Settlement} {before after : Chain}
    (settles : Transfer.Settles switches packet before settlement after) : Alike before after :=
  ⟨after.bank, before.sent, settles.bank⟩

theorem sendPacket_alike {packet : Packet} {dispatch : Dispatch} {before after : Chain}
    (sent : Chain.sendPacket packet before = some (dispatch, after)) : Alike before after := by
  cases dispatch with
  | ok sequence =>
      obtain ⟨-, -, rfl⟩ := Send.sendPacket_eq_ok.mp sent
      exact ⟨before.bank, _, rfl⟩
  | error error =>
      obtain ⟨-, -, rfl⟩ := Send.sendPacket_eq_error.mp sent
      exact .refl _

theorem take_alike {packet : Packet} {outcome : Except Error Unit} {before after : Chain}
    (taking : Transfer.take packet before = some (outcome, after)) : Alike before after := by
  cases outcome with
  | ok done =>
      obtain ⟨-, -, -, bank, -, -, -, -, rfl⟩ := Transfer.take_eq_ok.mp taking
      exact ⟨bank, before.sent, rfl⟩
  | error error =>
      obtain rfl := Transfer.take_unchanged taking
      exact .refl after

theorem perform_alike {request : Request} {answer : Answer} {before after : Chain}
    (performed : perform (bareStack switches) request before = some (answer, after)) :
    Alike before after := by
  cases request with
  | receive delivery =>
      obtain ⟨receipt, received, -⟩ := Effect.map_eq_some.mp performed
      exact receives_alike (Transfer.receives received)
  | acknowledge delivery acknowledgement =>
      obtain ⟨settlement, acknowledged, -⟩ := Effect.map_eq_some.mp performed
      change (Transfer.application switches).acknowledge _ before = _ at acknowledged
      by_cases failed : ∃ message, acknowledgement.status? = some (.failure message)
      · obtain ⟨message, failed⟩ := failed
        rw [Transfer.acknowledge_failure failed] at acknowledged
        exact settles_alike (Transfer.settles acknowledged)
      · obtain ⟨rfl, -⟩ := Transfer.acknowledge_other (not_exists.mp failed) acknowledged
        exact .refl after
  | timeout delivery =>
      obtain ⟨settlement, expired, -⟩ := Effect.map_eq_some.mp performed
      exact settles_alike (Transfer.settles expired)
  | send packet =>
      obtain ⟨dispatch, sent, -⟩ := Effect.map_eq_some.mp performed
      exact sendPacket_alike sent
  | transfer packet =>
      obtain ⟨dispatch, started, -⟩ := Effect.map_eq_some.mp performed
      obtain ⟨outcome, middle, taking, went⟩ := Effect.bind_eq_some.mp started
      have taken := take_alike taking
      cases outcome with
      | error error =>
          obtain ⟨-, rfl⟩ := Effect.pure_eq_some.mp went
          exact taken
      | ok done => exact taken.trans (sendPacket_alike went)

-- The two runs, step by step.

structure Step where
  request : Request
  answer : Answer
  chain : Chain

def next (stack : Stack Chain) (request : Request) (before : Chain) : Option Step :=
  (perform stack request before).map fun step => ⟨request, step.1, step.2⟩

/-- What a stack does with requests one after the other. It ends where the chain halts. -/
def transcript (stack : Stack Chain) : List Request → Chain → List Step
  | [], _ => []
  | request :: rest, before =>
    match next stack request before with
    | none => []
    | some step => step :: transcript stack rest step.chain

/-- The answer of the application alone and the one with the swap on top: a notice at most is added,
and it says that nothing was swapped. -/
inductive Agrees : Request → Answer → Answer → Prop where
  | refused {delivery : Delivery} {receipt : Receipt}
      (failed : Receive.isSuccess receipt.acknowledgement = false) :
      Agrees (.receive delivery) (.received receipt) (.received receipt)
  | received {delivery : Delivery} {receipt : Receipt}
      (success : Receive.isSuccess receipt.acknowledgement = true)
      (skip : Skip) :
      Agrees (.receive delivery) (.received receipt) (.received (receipt.noted skip.notice))
  | expired {delivery : Delivery} (settlement : Settlement) (skip : Skip) :
      Agrees (.timeout delivery) (.settled settlement) (.settled (settlement.noted skip.notice))
  | rejected {delivery : Delivery} {acknowledgement : Acknowledgement} {message : String}
      (failed : acknowledgement.status? = some (.failure message)) (settlement : Settlement)
      (skip : Skip) :
      Agrees (.acknowledge delivery acknowledgement) (.settled settlement)
        (.settled (settlement.noted skip.notice))
  | acknowledged {delivery : Delivery} {acknowledgement : Acknowledgement}
      (other : ∀ message, acknowledgement.status? ≠ some (.failure message))
      (settlement : Settlement) :
      Agrees (.acknowledge delivery acknowledgement) (.settled settlement) (.settled settlement)
  | sent {packet : Packet} (dispatch : Dispatch) :
      Agrees (.send packet) (.dispatched dispatch) (.dispatched dispatch)
  | transferred {packet : Packet} (dispatch : Dispatch) :
      Agrees (.transfer packet) (.dispatched dispatch) (.dispatched dispatch)

structure Matches (alone swapped : Step) : Prop where
  request : swapped.request = alone.request
  answer : Agrees alone.request alone.answer swapped.answer
  chain : swapped.chain = alone.chain

variable {before : Chain} {request : Request}

theorem next_matches {β : Type} {answer : β → Answer} {alone swapped : Effect Chain β}
    (bare : perform (bareStack switches) request = answer <$> alone)
    (full : perform (swapStack switches) request = answer <$> swapped)
    (keeps :
      Option.Rel (fun one other => Agrees request (answer one.1) (answer other.1) ∧ other.2 = one.2)
        (alone before) (swapped before)) :
    Option.Rel Matches (next (bareStack switches) request before)
      (next (swapStack switches) request before) := by
  unfold next
  rw [bare, full, Effect.map_run, Effect.map_run]
  generalize alone before = one, swapped before = other at keeps ⊢
  cases keeps with
  | none => exact .none
  | some agrees => exact .some ⟨rfl, agrees.1, agrees.2⟩

-- Answers that differ by what is noted on them, whatever it is that came from below.
theorem next_noted {β : Type} {answer : β → Answer} {alone swapped : Effect Chain β} (note : β → β)
    (bare : perform (bareStack switches) request = answer <$> alone)
    (full : perform (swapStack switches) request = answer <$> swapped)
    (noted : swapped before = (alone before).map fun step => (note step.1, step.2))
    (agrees : ∀ result, Agrees request (answer result) (answer (note result))) :
    Option.Rel Matches (next (bareStack switches) request before)
      (next (swapStack switches) request before) := by
  apply next_matches bare full
  rw [noted]
  cases alone before with
  | none => exact .none
  | some step => exact .some ⟨agrees step.1, rfl⟩

theorem next_same {β : Type} {answer : β → Answer} {alone swapped : Effect Chain β}
    (bare : perform (bareStack switches) request = answer <$> alone)
    (full : perform (swapStack switches) request = answer <$> swapped)
    (same : swapped before = alone before)
    (agrees : ∀ result, Agrees request (answer result) (answer result)) :
    Option.Rel Matches (next (bareStack switches) request before)
      (next (swapStack switches) request before) := by
  apply next_noted id bare full ?_ agrees
  rw [same]
  exact Option.map_id_apply.symm

theorem finish_unswappable {packet : Packet} {payload : Payload} {receipt : Receipt}
    {middle : Chain} (success : Receive.isSuccess receipt.acknowledgement = true)
    (unswappable : ¬ Receive.Swappable middle packet payload) :
    ∃ skip : Skip, Receive.finish Chain.host packet payload receipt middle =
      some (receipt.noted skip.notice, middle) := by
  obtain ⟨skip, assessed⟩ := Receive.assess_unswappable unswappable
  exact ⟨skip, Receive.finish_of_wrap success (Receive.wrap_skips assessed)⟩

theorem visit_undue {Q : Type} {hook : Hook Chain (Uniform Q Settlement)} {question : Q}
    {reason : String} {packet : Packet}
    (visits : hook question = Refund.visit Chain.host reason packet question)
    (undue : ∀ pending, ¬ Refund.Due Chain.host before packet before.settings pending) :
    ∃ skip : Skip, ∀ below, hook.atop below question before =
      (below question before).map fun step =>
      (step.1.noted skip.notice, step.2) := by
  cases prepared : Refund.prepare Chain.host before packet with
  | ok pending =>
      obtain ⟨settings, due⟩ := Refund.prepare_eq_ok.mp prepared
      cases due.stored
      exact absurd due (undue pending)
  | error skip =>
      refine ⟨skip, fun below => ?_⟩
      rw [(Refund.asks_of_descends (visits ▸ Refund.visit_skipped prepared reason question)).once]
      cases below question before <;> rfl

theorem start_passes {packet : Packet} {payload : Payload}
    (passes : Send.Passes before packet payload) :
    Transfer.start (swapStack switches) packet before =
      Transfer.start (bareStack switches) packet before := by
  unfold Transfer.start
  rw [Effect.bind_run, Effect.bind_run]
  apply Option.bind_congr
  rintro ⟨outcome, middle⟩ taking
  cases outcome with
  | error error => rfl
  | ok done => exact ((take_alike taking).passes passes).atop Chain.sendPacket

theorem foreign_matches (foreign : Foreign before request) (switches : Transfer.Switches) :
    Option.Rel Matches (next (bareStack switches) request before)
      (next (swapStack switches) request before) := by
  cases foreign with
  | @received delivery payload admitted unswappable =>
      apply next_matches rfl rfl
      have admits := Receive.atop_admits (Receive.screen_eq_ok.mpr admitted)
        (Transfer.application switches).receive
      show Option.Rel _ ((Transfer.application switches).receive delivery before) _
      rw [swapStack_receive, admits]
      cases received : (Transfer.application switches).receive delivery before with
      | none => exact .none
      | some step =>
          have alike := receives_alike (Transfer.receives received)
          rw [Option.bind_some]
          cases success : Receive.isSuccess step.1.acknowledgement with
          | false =>
              rw [Receive.finish_other success]
              exact .some ⟨.refused success, rfl⟩
          | true =>
              obtain ⟨skip, finished⟩ := finish_unswappable success fun swappable =>
                unswappable (alike.symm.swappable swappable)
              rw [finished]
              exact .some ⟨.received success skip, rfl⟩
  | @expired delivery undue =>
      have visits : Refund.timeoutHook Chain.host delivery =
          Refund.visit Chain.host Refund.timeoutReason delivery.packet delivery := rfl
      obtain ⟨skip, noted⟩ := visit_undue visits undue
      refine next_noted (Settlement.noted · skip.notice) rfl rfl ?_ fun settlement =>
        .expired settlement skip
      rw [swapStack_timeout]
      exact noted _
  | @rejected delivery acknowledgement message failed undue =>
      obtain ⟨skip, noted⟩ := visit_undue (Refund.acknowledgeHook_failure failed) undue
      refine next_noted (Settlement.noted · skip.notice) rfl rfl ?_ fun settlement =>
        .rejected failed settlement skip
      rw [swapStack_acknowledge]
      exact noted _
  | @acknowledged delivery acknowledgement other =>
      have passes : Refund.acknowledgeHook Chain.host (delivery, acknowledgement) =
          Hook.pass (delivery, acknowledgement) := Refund.acknowledgeHook_other other
      refine next_same rfl rfl ?_ fun settlement => .acknowledged other settlement
      rw [swapStack_acknowledge, Hook.pass_atop passes]
      rfl
  | @sent packet payload passes =>
    exact next_same rfl rfl (passes.atop _) fun dispatch => .sent dispatch
  | @transferred packet payload passes =>
      exact next_same rfl rfl (start_passes passes) fun dispatch => .transferred dispatch

theorem next_alike {step : Step} (took : next (bareStack switches) request before = some step) :
    Alike before step.chain := by
  obtain ⟨⟨answer, after⟩, performed, rfl⟩ := Option.map_eq_some_iff.mp took
  exact perform_alike performed

-- By induction on the requests. A step alone leaves a chain like the one before it, so what comes
-- next is still none of the swap's.
theorem transcripts_match {start : Chain} {requests : List Request}
    (foreign : ∀ request ∈ requests, Foreign start request) (switches : Transfer.Switches) :
    List.Forall₂ Matches (transcript (bareStack switches) requests start)
        (transcript (swapStack switches) requests start) ∧
      ∀ step ∈ transcript (bareStack switches) requests start, ∀ request,
        Foreign step.chain request ↔ Foreign start request := by
  induction requests generalizing start with
  | nil => exact ⟨.nil, fun step member => absurd member List.not_mem_nil⟩
  | cons request rest ih =>
      have related := foreign_matches (foreign request List.mem_cons_self) switches
      unfold transcript
      cases alone : next (bareStack switches) request start with
      | none =>
          cases swapped : next (swapStack switches) request start with
          | none => exact ⟨.nil, fun step member => absurd member List.not_mem_nil⟩
          | some step =>
              rw [alone, swapped] at related
              cases related
      | some step =>
          cases swapped : next (swapStack switches) request start with
          | none =>
              rw [alone, swapped] at related
              cases related
          | some other =>
              rw [alone, swapped] at related
              cases related with
              | some same =>
                  have alike := next_alike alone
                  obtain ⟨agrees, unchanged⟩ := ih fun later member =>
                    alike.foreign (foreign later (List.mem_cons_of_mem _ member))
                  dsimp only
                  rw [same.chain]
                  refine ⟨.cons same agrees, ?_⟩
                  intro reached member question
                  have first : Foreign step.chain question ↔ Foreign start question :=
                    ⟨alike.symm.foreign, alike.foreign⟩
                  cases member with
                  | head => exact first
                  | tail _ later => exact (unchanged reached later question).trans first

def atoms : BaseDenom := ⟨"uatom", by decide⟩

def foreignPayload : Payload := { Sample.incoming with denom := ⟨[], atoms⟩ }

def foreignDelivery : Delivery := ⟨{ Sample.packet with data := foreignPayload.bytes }, ""⟩

def returnedPayload : Payload :=
  { foreignPayload with
    denom := ⟨[Sample.nativeEnd], atoms⟩
    sender := "zig1receiver"
    receiver := "cosmos1sender" }

def nativePacket : Packet := Sample.departing (Sample.outgoing "zig1sender")

def sampleRequests : List Request := [
  .receive foreignDelivery,
  .transfer (Sample.departing returnedPayload),
  .timeout ⟨nativePacket, ""⟩,
  .acknowledge ⟨nativePacket, ""⟩ Refund.sampleFailure,
  .acknowledge ⟨nativePacket, ""⟩ (.ofStatus (.success Transfer.successValue))]

theorem nativePacket_undue (pending : Refund.Pending Account) :
    ¬ Refund.Due Chain.host Sample.fundedChain nativePacket Sample.fundedChain.settings
      pending := by
  intro due
  have read : nativePacket.payload? = some (Sample.outgoing "zig1sender") :=
    Send.payload?_rewritten _ rfl
  have outbound := due.outbound
  rw [← Option.some.inj (read.symm.trans due.readable)] at outbound
  exact absurd outbound (by decide)

theorem sampleRequests_foreign :
    ∀ request ∈ sampleRequests, Foreign Sample.fundedChain request := by
  intro request member
  simp only [sampleRequests, List.mem_cons, List.not_mem_nil, or_false] at member
  rcases member with rfl | rfl | rfl | rfl | rfl
  · have admitted :
        Receive.Admits Chain.host Sample.fundedChain foreignDelivery.packet foreignPayload := {
      ready := ⟨_, rfl, rfl⟩
      readable := Packet.payload?_of_data rfl rfl
      sender := by decide
      receiver := ⟨_, rfl⟩
      positive := by decide }
    exact .received admitted fun swappable => absurd swappable.wrapped (by decide)
  · refine .transferred ⟨⟨_, rfl, rfl⟩, Send.payload?_rewritten _ rfl, ?_⟩
    intro targets
    unfold Send.Targets at targets
    exact absurd targets (by decide)
  · exact .expired nativePacket_undue
  · exact .rejected Refund.sampleFailure_status? nativePacket_undue
  · apply Foreign.acknowledged
    intro message failed
    obtain ⟨value, read⟩ := Receive.isSuccess_iff.mp isSuccess_successValue
    rw [read] at failed
    cases failed

theorem transcripts_match_sampleRequests :
    (transcript (swapStack ⟨false, false⟩) sampleRequests Sample.fundedChain).length = 5 ∧
      List.Forall₂ Matches (transcript (bareStack ⟨false, false⟩) sampleRequests Sample.fundedChain)
        (transcript (swapStack ⟨false, false⟩) sampleRequests Sample.fundedChain) := by
  obtain ⟨agrees, -⟩ := transcripts_match sampleRequests_foreign ⟨false, false⟩
  have length :
      (transcript (bareStack ⟨false, false⟩) sampleRequests Sample.fundedChain).length = 5 := by
    decide +kernel
  exact ⟨agrees.length_eq ▸ length, agrees⟩

end Transparency

end VoucherSwap
