import VoucherSwap.Proofs.Session

/-!
Rejections on their way back. A packet that is rejected is answered with the message of an error,
and the chain that sent it must read that message to refund its sender. Most messages are made of
fixed words, identifiers and digits. Two of them quote what the sender of the packet chose, the
receiver or the base denomination, and whether the answer can be read depends on that part alone.
-/

namespace VoucherSwap

namespace Text.Plain

theorem append {first second : String} (one : Plain first) (two : Plain second) :
    Plain (first ++ second) := by
  simp only [Plain, String.toList_append, List.mem_append, not_or]
  exact ⟨⟨one.1, two.1⟩, one.2, two.2⟩

theorem identifier {kind : IdentifierKind} (id : Identifier kind) : Plain id.text :=
  ⟨Identifier.notMem_text (by decide) id, Identifier.notMem_text (by decide) id⟩

theorem endpoint (endpoint : Endpoint) : Plain endpoint.text := by
  have slash : Plain "/" := by decide
  exact append (append (identifier endpoint.port) slash) (identifier endpoint.channel)

theorem amount (amount : Amount) : Plain amount.text := by
  have digits : amount.text.toList = Nat.toDigits 10 amount.units := Nat.toList_repr
  have foreign {c : Char} (other : c.isDigit = false) : c ∉ amount.text.toList := by
    intro member
    rw [digits] at member
    have digit := Nat.isDigit_of_mem_toDigits (by decide) (by decide) member
    rw [other] at digit
    contradiction
  exact ⟨foreign (by decide), foreign (by decide)⟩

theorem voucher (trace : String) : Plain (Voucher.ofTrace trace) := by
  unfold Voucher.ofTrace
  apply append (by decide)
  simp only [Plain, String.toList_ofList]
  exact ⟨Voucher.notMem_hexOfBytes (by decide) _, Voucher.notMem_hexOfBytes (by decide) _⟩

theorem channelState (state : ChannelState) : Plain state.text := by
  cases state <;> decide

end Text.Plain

namespace Rejection

open Session

/-- A character that does not stand for itself between quotation marks. -/
def Mark (c : Char) : Prop := c = '"' ∨ c = '\\'

theorem Mark.notMem {c : Char} (mark : Mark c) {text : String} (plain : Text.Plain text) :
    c ∉ text.toList := by
  rcases mark with rfl | rfl
  · exact plain.1
  · exact plain.2

theorem mem_between {c : Char} (mark : Mark c) {front text back : String}
    (before : Text.Plain front) (behind : Text.Plain back) :
    c ∈ (front ++ text ++ back).toList ↔ c ∈ text.toList := by
  simp only [String.toList_append, List.mem_append, mark.notMem before, mark.notMem behind,
    false_or, or_false]

/-- Text that the sender of a packet has chosen, or nothing. -/
inductive Chosen (packet : Packet) : String → Prop where
  | nothing : Chosen packet ""
  | receiver {payload : Payload} (readable : packet.payload? = some payload) :
      Chosen packet payload.receiver
  | base {payload : Payload} (readable : packet.payload? = some payload) :
      Chosen packet payload.denom.base.text

/-- An error whose message has all its marks from one chosen part. -/
def Quotes (packet : Packet) (error : Error) (part : String) : Prop :=
  Chosen packet part ∧ ∀ c, Mark c → (c ∈ error.message.toList ↔ c ∈ part.toList)

theorem quotes_nothing {packet : Packet} {error : Error} (plain : Text.Plain error.message) :
    Quotes packet error "" := by
  refine ⟨.nothing, ?_⟩
  intro c mark
  simp [mark.notMem plain]

theorem quotes_receiver {packet : Packet} {payload : Payload}
    (readable : packet.payload? = some payload) :
    Quotes packet (.unreadableAccount payload.receiver) payload.receiver := by
  refine ⟨.receiver readable, ?_⟩
  intro c mark
  exact mem_between mark (by decide) (by decide)

theorem plain_channelNotFound (endpoint : Endpoint) :
    Text.Plain (Error.channelNotFound endpoint).message := by
  unfold Error.message
  refine .append (.append (.append (.append ?_ ?_) ?_) ?_) ?_
  · decide
  · exact .identifier endpoint.port
  · decide
  · exact .identifier endpoint.channel
  · decide

theorem plain_channelNotOpen (endpoint : Endpoint) (state : ChannelState) :
    Text.Plain (Error.channelNotOpen endpoint state).message := by
  unfold Error.message
  refine .append (.append (.append (.append ?_ ?_) ?_) ?_) ?_
  · decide
  · exact .endpoint endpoint
  · decide
  · exact .channelState state
  · decide

theorem plain_escrow (endpoint : Endpoint) : Text.Plain (Chain.escrow endpoint).address := by
  have word : Text.Plain "escrow/" := by decide
  exact .append word (.endpoint endpoint)

-- A payment out of escrow that is refused names the coin twice, so its marks are those of the
-- denomination.
theorem payment_marks {bank : Bank} {endpoint : Endpoint} {receiver : Account} {coin : Coin}
    {error : Error}
    (refused : bank.send (Chain.escrow endpoint) receiver coin = some (.error error)) :
    Text.Plain error.message ∨
      ∀ c, Mark c → (c ∈ error.message.toList ↔ c ∈ coin.denom.text.toList) := by
  have escrow := plain_escrow endpoint
  rcases Bank.send_eq_error refused with rfl | rfl
  · left
    unfold Error.message
    exact .append (.append (by decide) (.append (.append (by decide) escrow) (by decide)))
      (by decide)
  · right
    intro c mark
    unfold Error.message
    refine (mem_between mark (by decide) (by decide)).trans ?_
    have holds : Text.Plain " holds " := by decide
    have needs : Text.Plain ", needs " := by decide
    have balance := mark.notMem
      (.append (.append escrow holds)
        (.amount (bank.balance (Chain.escrow endpoint) coin.denom.text)))
    have amount := mark.notMem (needs.append (.amount coin.amount))
    show c ∈ ((Chain.escrow endpoint).address ++ " holds " ++
      ((bank.balance (Chain.escrow endpoint) coin.denom.text).text ++ coin.denom.text) ++
      ", needs " ++ (coin.amount.text ++ coin.denom.text)).toList ↔ c ∈ coin.denom.text.toList
    simp only [String.toList_append, List.mem_append, not_or] at balance amount ⊢
    simp only [balance, amount, false_or, or_self, or_false]

/-- Why a packet is rejected: it fails a check of the swap, or the application does not accept
it. -/
inductive Rejects (before : Chain) (packet : Packet) : Error → Prop where
  | missing (unknown : Chain.host.channel? before packet.destination = none) :
      Rejects before packet (.channelNotFound packet.destination)
  | closed {channel : ChannelEnd}
      (known : Chain.host.channel? before packet.destination = some channel)
      (shut : channel.state ≠ .open) :
        Rejects before packet (.channelNotOpen packet.destination channel.state)
  | unreadable (unreadable : packet.payload? = none) : Rejects before packet .unreadablePacket
  | unsigned {payload : Payload} (readable : packet.payload? = some payload)
      (empty : payload.sender = "") :
      Rejects before packet .emptySender
  | stranger {payload : Payload} (readable : packet.payload? = some payload)
      (unknown : Chain.host.account? payload.receiver = none) :
      Rejects before packet (.unreadableAccount payload.receiver)
  | worthless {payload : Payload} (readable : packet.payload? = some payload)
      (nothing : payload.amount = .zero) : Rejects before packet .nonPositiveAmount
  | refused {error : Error} (refuses : Transfer.Refuses packet before error) :
      Rejects before packet error

theorem screen_rejects {before : Chain} {packet : Packet} {error : Error}
    (screened : Receive.screen Chain.host before packet = .error error) :
    Rejects before packet error := by
  simp only [Receive.screen, Check.bind_eq_error, Check.guard_eq_error, Check.pure_eq_error,
    Route.payload_eq_ok, Route.payload_eq_error, Route.openChannel_eq_error,
    Route.checkPositive_eq_error, Host.account_eq_error] at screened
  rcases screened with channel | ⟨-, -, ⟨unreadable, rfl⟩ | ⟨payload, readable, rest⟩⟩
  · rcases channel with ⟨unknown, rfl⟩ | ⟨channel, known, shut, rfl⟩
    · exact .missing unknown
    · exact .closed known shut
  · exact .unreadable unreadable
  rcases rest with ⟨empty, rfl⟩ | ⟨-, ⟨unknown, rfl⟩ | ⟨-, -, ⟨nothing, rfl⟩ | ⟨-, -, done⟩⟩⟩
  · exact .unsigned readable empty
  · exact .stranger readable unknown
  · exact .worthless readable nothing
  · contradiction

theorem ledgerName_removeHop (denom : Denom) (hop : Endpoint) :
    (denom.removeHop hop).ledgerName = denom.base.text ∨
    Text.Plain (denom.removeHop hop).ledgerName := by
  have base : (denom.removeHop hop).base = denom.base := by
    unfold Denom.removeHop
    split <;> rfl
  unfold Denom.ledgerName
  split
  · rw [base]
    exact .inl rfl
  · exact .inr (.voucher _)

theorem refuses_quotes {before : Chain} {packet : Packet} {error : Error}
    (refuses : Transfer.Refuses packet before error) : ∃ part, Quotes packet error part := by
  cases refuses with
  | switchedOff => exact ⟨_, quotes_nothing (by decide)⟩
  | unreadable => exact ⟨_, quotes_nothing (by decide)⟩
  | stranger readable => exact ⟨_, quotes_receiver readable⟩
  | unnamed => exact ⟨_, quotes_nothing (by decide)⟩
  | @unpaid payload _ _ _ readable _ named refused =>
      rcases payment_marks refused with plain | marks
      · exact ⟨_, quotes_nothing plain⟩
      rw [named] at marks
      rcases ledgerName_removeHop payload.denom packet.source with base | plain
      · rw [base] at marks
        exact ⟨_, .base readable, marks⟩
      · refine ⟨"", .nothing, ?_⟩
        intro c mark
        rw [marks c mark]
        simp [mark.notMem plain]

theorem rejects_quotes {before : Chain} {packet : Packet} {error : Error}
    (rejects : Rejects before packet error) :
    ∃ part, Quotes packet error part := by
  cases rejects with
  | missing unknown => exact ⟨_, quotes_nothing (plain_channelNotFound _)⟩
  | @closed channel known shut => exact ⟨_, quotes_nothing (plain_channelNotOpen _ channel.state)⟩
  | unreadable unreadable => exact ⟨_, quotes_nothing (by decide)⟩
  | unsigned readable empty => exact ⟨_, quotes_nothing (by decide)⟩
  | stranger readable unknown => exact ⟨_, quotes_receiver readable⟩
  | worthless readable nothing => exact ⟨_, quotes_nothing (by decide)⟩
  | refused refuses => exact refuses_quotes refuses

theorem Quotes.plain_iff {packet : Packet} {error : Error} {part : String}
    (quotes : Quotes packet error part) :
    Text.Plain error.message ↔ Text.Plain part :=
  and_congr (not_congr (quotes.2 _ (.inl rfl))) (not_congr (quotes.2 _ (.inr rfl)))

variable {switches : Transfer.Switches} {delivery : Delivery} {before after : Chain}
  {receipt : Receipt}

theorem receive_answers
    (ran : (swapStack switches).receive delivery before = some (receipt, after)) :
    receipt.acknowledgement = .ofStatus (.success Transfer.successValue) ∨
      ∃ error, Rejects before delivery.packet error ∧
        receipt.acknowledgement = .ofStatus (.failure error.message) := by
  rw [swapStack_receive] at ran
  rcases Receive.atop_eq_some ran with
    ⟨error, screened, rfl, rfl⟩ | ⟨payload, answer, middle, -, received, finished⟩
  · exact .inr ⟨error, screen_rejects screened, rfl⟩
  have kept : receipt.acknowledgement = answer.acknowledgement := by
    cases success : Receive.isSuccess answer.acknowledgement with
    | false =>
        rw [Receive.finish_other success] at finished
        cases finished
        rfl
    | true =>
        obtain ⟨notice, -, rfl⟩ := Receive.finish_success success finished
        rfl
  rw [kept]
  cases Transfer.receives received with
  | accepted done => exact .inl rfl
  | refused refuses => exact .inr ⟨_, .refused refuses, rfl⟩

theorem acknowledge_unreadable {acknowledgement : Acknowledgement}
    (unreadable : acknowledgement.status? = none) (sent : Delivery) (chain : Chain) :
    (swapStack switches).acknowledge (sent, acknowledgement) chain =
      some (⟨.empty, .error .unreadableAcknowledgement⟩, chain) := by
  have other : ∀ message, acknowledgement.status? ≠ some (.failure message) := by simp [unreadable]
  rw [swapStack_acknowledge, Hook.pass_atop (Refund.acknowledgeHook_other other),
    Transfer.acknowledge_run, unreadable]

-- Every answer to every packet. A rejection has one part at most that the packet's sender has
-- chosen, and that part decides whether the chain that sent the packet reads the message and
-- refunds, or reads nothing.
theorem rejection_reaches_sender {switches returning : Transfer.Switches} {delivery : Delivery}
    {before after : Chain} {receipt : Receipt}
    (ran : (swapStack switches).receive delivery before = some (receipt, after)) :
    receipt.acknowledgement = .ofStatus (.success Transfer.successValue) ∨
      ∃ error part, Rejects before delivery.packet error ∧ Chosen delivery.packet part ∧
        receipt.acknowledgement = .ofStatus (.failure error.message) ∧
        (receipt.acknowledgement.status? = some (.failure error.message) ↔ Text.Plain part) ∧
        (Text.Plain part → ∀ sent,
          Refund.acknowledgeHook Chain.host (sent, receipt.acknowledgement) =
          Refund.visit Chain.host Refund.acknowledgementReason sent.packet
            (sent, receipt.acknowledgement)) ∧
        ('"' ∈ part.toList → '\\' ∉ part.toList → ∀ sent chain,
          (swapStack returning).acknowledge (sent, receipt.acknowledgement) chain =
            some (⟨.empty, .error .unreadableAcknowledgement⟩, chain)) := by
  rcases receive_answers ran with success | ⟨error, rejects, failure⟩
  · exact .inl success
  obtain ⟨part, quotes⟩ := rejects_quotes rejects
  have reads :
      receipt.acknowledgement.status? = some (.failure error.message) ↔ Text.Plain part := by
    rw [failure, Acknowledgement.status?_failure_iff]
    exact quotes.plain_iff
  refine .inr ⟨error, part, rejects, quotes.1, failure, reads, ?_, ?_⟩
  · intro plain sent
    exact Refund.acknowledgeHook_failure (reads.mpr plain)
  · intro mark backslashes sent chain
    apply acknowledge_unreadable
    rw [failure]
    apply Acknowledgement.status?_eq_none
    · exact (quotes.2 _ (.inl rfl)).mpr mark
    · exact mt (quotes.2 _ (.inr rfl)).mp backslashes

def markedPayload : Payload where
  denom := ⟨[], Sample.nativeDenom, Sample.nativeDenom_visible⟩
  amount := ⟨5, Sample.five_fits⟩
  sender := "cosmos1sender"
  receiver := "zig1receiver\"x"
  memo := ""

def markedDelivery : Delivery := ⟨{ Sample.packet with data := markedPayload.bytes }, ""⟩

def markedReceipt : Receipt := Receive.refusal (.unreadableAccount markedPayload.receiver)

theorem markedDelivery_receive :
    (swapStack ⟨false, false⟩).receive markedDelivery Sample.openChain =
    some (markedReceipt, Sample.openChain) := by
  have known : Denom.ofText markedPayload.denom.text = .ok markedPayload.denom := by rfl
  have readable : markedDelivery.packet.payload? = some markedPayload :=
    Packet.payload?_of_data rfl known
  have screened : Receive.screen Chain.host Sample.openChain markedDelivery.packet =
      .error (.unreadableAccount markedPayload.receiver) := by
    simp only [Receive.screen, Check.bind_eq_error, Check.guard_eq_error, Route.payload_eq_ok,
      Route.openChannel_eq_ok, Host.account_eq_error]
    exact .inr ⟨_, ⟨rfl, rfl⟩, .inr ⟨_, readable, .inr ⟨by decide, .inl ⟨by decide, rfl⟩⟩⟩⟩
  rw [swapStack_receive]
  exact Receive.atop_refuses screened _

theorem rejection_reaches_sender_markedDelivery :
    (swapStack ⟨false, false⟩).receive markedDelivery Sample.openChain =
      some (markedReceipt, Sample.openChain) ∧
      (markedReceipt.acknowledgement = .ofStatus (.success Transfer.successValue) ∨
        ∃ error part, Rejects Sample.openChain markedDelivery.packet error ∧
          Chosen markedDelivery.packet part ∧
          markedReceipt.acknowledgement = .ofStatus (.failure error.message) ∧
          (markedReceipt.acknowledgement.status? = some (.failure error.message) ↔
            Text.Plain part)) := by
  refine ⟨markedDelivery_receive, ?_⟩
  rcases @rejection_reaches_sender _ ⟨false, false⟩ _ _ _ _ markedDelivery_receive with
    success | rejected
  · exact .inl success
  · obtain ⟨error, part, rejects, chosen, failure, reads, -, -⟩ := rejected
    exact .inr ⟨error, part, rejects, chosen, failure, reads⟩

/-- A rejection that the sender's chain cannot read: it ends in an error there, and nothing is
refunded. -/
theorem rejection_unreadable :
    (swapStack ⟨false, false⟩).receive markedDelivery Sample.openChain =
      some (markedReceipt, Sample.openChain) ∧
      markedReceipt.acknowledgement =
        .ofStatus (.failure (Error.unreadableAccount markedPayload.receiver).message) ∧
      markedReceipt.acknowledgement.status? = none ∧
      ∀ switches sent chain,
        (swapStack switches).acknowledge (sent, markedReceipt.acknowledgement) chain =
          some (⟨.empty, .error .unreadableAcknowledgement⟩, chain) := by
  have unreadable : markedReceipt.acknowledgement.status? = none :=
    Acknowledgement.status?_eq_none (by decide) (by decide)
  exact ⟨markedDelivery_receive, rfl, unreadable, fun switches => acknowledge_unreadable unreadable⟩

end Rejection

end VoucherSwap
