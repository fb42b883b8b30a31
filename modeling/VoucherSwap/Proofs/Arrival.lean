import VoucherSwap.Proofs.Batch
import VoucherSwap.Proofs.Cover
import VoucherSwap.Proofs.Swap
import VoucherSwap.Proofs.Transparency

/-!
The four endings of a packet that the application accepted. Both coins are moved and counted, or
they are moved and the total has no room for them, or the voucher gets into the reserve and nothing
comes out of it, or the chain stays as the application left it. Each ending has its own condition,
and one of the conditions holds.
-/

namespace VoucherSwap

namespace Receive

variable {packet : Packet} {payload : Payload} {wrapping : Wrapping Account} {before : Chain}
  {locked paid : Bank} {error : Error}

theorem settle_stranded
    (taken : before.bank.send wrapping.receiver Chain.reserve wrapping.voucher = some (.ok locked))
    (refused : locked.send Chain.reserve wrapping.receiver wrapping.native = some (.error error)) :
    settle Chain.host packet payload wrapping before =
      some (.error (stranded payload wrapping.voucher error), { before with bank := locked }) := by
  simp only [settle, Attempt.bind_eq_error, Attempt.adapt_eq_error, Attempt.adapt_eq_ok,
    Chain.lock_run, Chain.unlock_run, Chain.sendCoins_eq_error, Chain.sendCoins_eq_ok]
  exact .inr ⟨(), _, ⟨locked, taken, rfl⟩, .inl ⟨error, ⟨refused, rfl⟩, rfl⟩⟩

theorem settle_uncounted
    (taken : before.bank.send wrapping.receiver Chain.reserve wrapping.voucher = some (.ok locked))
    (given : locked.send Chain.reserve wrapping.receiver wrapping.native = some (.ok paid))
    (overflow : before.totals.recordIn wrapping.native.amount = .error error) :
    settle Chain.host packet payload wrapping before =
      some (.error (.ofError error), { before with bank := paid }) := by
  simp only [settle, Attempt.bind_eq_error, Attempt.adapt_eq_error, Attempt.adapt_eq_ok,
    Chain.lock_run, Chain.unlock_run, Chain.sendCoins_eq_error, Chain.sendCoins_eq_ok,
    Chain.recordIn_eq_error]
  exact .inr
    ⟨(), _, ⟨locked, taken, rfl⟩,
      .inr ⟨(), _, ⟨paid, given, rfl⟩, .inl ⟨error, ⟨overflow, rfl⟩, rfl⟩⟩⟩

theorem settle_unlocked
    (refused : before.bank.send wrapping.receiver Chain.reserve wrapping.voucher =
      some (.error error)) :
    settle Chain.host packet payload wrapping before = some (.error (.ofError error), before) := by
  simp only [settle, Attempt.bind_eq_error, Attempt.adapt_eq_error, Chain.lock_run,
    Chain.sendCoins_eq_error]
  exact .inl ⟨error, ⟨refused, trivial⟩, rfl⟩

end Receive

namespace Arrival

open Session Swap

/-- The swap gets to its first coin: the seven checks pass, and the packet can be paid. -/
structure Payable (chain : Chain) (packet : Packet) (payload : Payload) : Prop
    extends Affordable chain ⟨payload.receiver⟩ payload where
  swappable : Receive.Swappable chain packet payload

inductive Ending where
  | swapped
  | uncounted
  | stranded
  | untouched
  deriving DecidableEq

/-- The condition of each ending, on the chain as the application left it. -/
def Ending.Due (chain : Chain) (packet : Packet) (payload : Payload) : Ending → Prop
  | .swapped => Payable chain packet payload ∧ Chain.reserve ∉ chain.bank.frozen ∧
      chain.totals.transferredIn.units + (worth chain.settings payload).units < Amount.bound
  | .uncounted => Payable chain packet payload ∧ Chain.reserve ∉ chain.bank.frozen ∧
      Amount.bound ≤ chain.totals.transferredIn.units + (worth chain.settings payload).units
  | .stranded => Payable chain packet payload ∧ Chain.reserve ∈ chain.bank.frozen
  | .untouched => ¬ Payable chain packet payload

/-- What each ending makes of the chain, and the notice that tells it. -/
inductive Ending.Reached (chain : Chain) (packet : Packet) (payload : Payload) :
    Ending → Notice → Chain → Prop where
  | swapped {bank : Bank} {totals : Totals}
      (moved : chain.bank.Transferred bank
        [taken chain ⟨payload.receiver⟩ payload, given chain ⟨payload.receiver⟩ payload])
      (into : totals.transferredIn.units =
        chain.totals.transferredIn.units + (worth chain.settings payload).units)
      (out : totals.transferredOut = chain.totals.transferredOut) :
      Reached chain packet payload .swapped
        (.wrapped
          ⟨payload.sender, payload.receiver, worth chain.settings payload, chain.nativeDenom,
          packet.source, packet.destination⟩)
        { chain with bank, totals }
  | uncounted {bank : Bank} (message : String)
      (moved : chain.bank.Transferred bank
        [taken chain ⟨payload.receiver⟩ payload, given chain ⟨payload.receiver⟩ payload]) :
      Reached chain packet payload .uncounted (.failure message) { chain with bank }
  | stranded {bank : Bank} (message : String)
      (moved : chain.bank.Transferred bank [taken chain ⟨payload.receiver⟩ payload]) :
      Reached chain packet payload .stranded (.failure message) { chain with bank }
  | untouched (skip : Skip) : Reached chain packet payload .untouched skip.notice chain

section

variable {chain : Chain} {packet : Packet} {payload : Payload}

theorem existsUnique_due : ∃! ending : Ending, ending.Due chain packet payload := by
  by_cases payable : Payable chain packet payload
  · by_cases frozen : Chain.reserve ∈ chain.bank.frozen
    · refine ⟨.stranded, ⟨payable, frozen⟩, ?_⟩
      intro ending due
      cases ending with
      | stranded => rfl
      | swapped | uncounted => exact absurd frozen due.2.1
      | untouched => exact absurd payable due
    · by_cases fits : chain.totals.transferredIn.units +
        (worth chain.settings payload).units < Amount.bound
      · refine ⟨.swapped, ⟨payable, frozen, fits⟩, ?_⟩
        intro ending due
        cases ending with
        | swapped => rfl
        | uncounted => exact absurd fits (Nat.not_lt.mpr due.2.2)
        | stranded => exact absurd due.2 frozen
        | untouched => exact absurd payable due
      · refine ⟨.uncounted, ⟨payable, frozen, Nat.not_lt.mp fits⟩, ?_⟩
        intro ending due
        cases ending with
        | uncounted => rfl
        | swapped => exact absurd due.2.2 fits
        | stranded => exact absurd due.2 frozen
        | untouched => exact absurd payable due
  · refine ⟨.untouched, payable, ?_⟩
    intro ending due
    cases ending with
    | untouched => rfl
    | swapped | uncounted | stranded => exact absurd due.1 payable

-- A packet that is assessed well can be paid, unless its receiver is frozen.
theorem payable_of_assess {wrapping : Receive.Wrapping Account}
    (assessed : Receive.assess Chain.host chain packet payload = .ok wrapping)
    (free : (⟨payload.receiver⟩ : Account) ∉ chain.bank.frozen) : Payable chain packet payload := by
  obtain ⟨settings, eligible⟩ := Receive.assess_eq_ok.mp assessed
  cases eligible.stored
  obtain ⟨units, positive⟩ := Precision.scaleDown_eq_ok.mp eligible.scaled
  have covered := Chain.holds_iff.mp eligible.reserveHolds
  rw [eligible.nativeDenom, units] at covered
  rw [units] at positive
  exact {
    swappable :=
      ⟨eligible.counterparty, eligible.clients, eligible.configured, eligible.wrapped,
      eligible.arriving, eligible.enabled, eligible.route⟩
    difference := Precision.difference_le_of_scaleDown eligible.scaled
    positive
    covered
    free }

theorem Payable.eligible (payable : Payable chain packet payload)
    (account : Chain.host.account? payload.receiver = some ⟨payload.receiver⟩)
    (visible : Text.isBlank chain.nativeDenom = false) :
    Receive.Eligible Chain.host.trusting chain packet payload chain.settings
      (Batch.wrapping chain visible payload (worth chain.settings payload)) := by
  have swappable := payable.swappable
  have route := swappable.route
  rw [Route.comesIn, Bool.and_eq_true] at route
  obtain ⟨port, channel⟩ := Route.isNativeEnd_iff.mp route.2
  have wrapped := swappable.wrapped
  simp only [Route.isWrappedDenom, Bool.and_eq_true, decide_eq_true_eq] at wrapped
  exact {
    stored := rfl
    counterparty := swappable.counterparty
    clients := swappable.clients
    configured := swappable.configured
    wrapped := swappable.wrapped
    arriving := swappable.arriving
    enabled := swappable.enabled
    route := swappable.route
    receiver := account
    scaled := Precision.scaleDown_eq_ok.mpr ⟨rfl, payable.positive⟩
    voucherDenom := by
      rw [port, channel, wrapped.2]
      rfl
    voucherAmount := rfl
    nativeDenom := rfl
    receiverHolds := rfl
    reserveHolds := rfl }

-- The application has minted the voucher, so the swap goes as far as the frozen accounts let it.
theorem Payable.exchangeable {switches : Transfer.Switches} {before : Chain} {delivery : Delivery}
    {receipt : Receipt} (payable : Payable chain delivery.packet payload)
    (admits : Receive.Admits Chain.host before delivery.packet payload)
    (received : (Transfer.application switches).receive delivery before = some (receipt, chain))
    (accepted : Receive.isSuccess receipt.acknowledgement = true)
    (visible : Text.isBlank chain.nativeDenom = false)
    (foreign : chain.nativeDenom ≠ chain.settings.voucher)
    (roomy : Roomy chain ⟨payload.receiver⟩ payload) :
    Receive.Eligible Chain.host chain delivery.packet payload chain.settings
        (Batch.wrapping chain visible payload (worth chain.settings payload)) ∧
      chain.bank.Exchangeable ⟨payload.receiver⟩ (voucher chain.settings payload)
        (native chain visible payload) := by
  have account : Chain.host.account? payload.receiver = some ⟨payload.receiver⟩ := by
    obtain ⟨account, found⟩ := admits.receiver
    rw [← Chain.account_eq found]
    exact found
  have trusted := payable.eligible account visible
  have credited : Cover.Received switches before chain delivery payload _ :=
    ⟨admits, ⟨receipt, received, accepted⟩, trusted⟩
  have held := Cover.covered_iff.mp credited.credited.covered
  exact ⟨{ trusted with
      receiverHolds := Chain.holds_iff.mpr held
      reserveHolds := Chain.holds_iff.mpr payable.covered },
    payable.toAffordable.exchangeable held visible foreign roomy⟩

theorem unpayable_wrap (unpayable : ¬ Payable chain packet payload) :
    ∃ skip : Skip, Receive.wrap Chain.host packet payload chain = some (skip.notice, chain) := by
  cases assessed : Receive.assess Chain.host chain packet payload with
  | error skip => exact ⟨skip, Receive.wrap_skips assessed⟩
  | ok wrapping =>
      obtain ⟨settings, eligible⟩ := Receive.assess_eq_ok.mp assessed
      have frozen : wrapping.receiver ∈ chain.bank.frozen := by
        rw [Chain.account_eq eligible.receiver]
        by_contra free
        exact unpayable (payable_of_assess assessed free)
      have refused := Bank.send_frozen frozen Chain.reserve wrapping.voucher
      exact ⟨.ofError _, Receive.wrap_of_settle eligible (Receive.settle_unlocked refused)⟩

theorem Ending.Due.reached {switches : Transfer.Switches} {before : Chain} {delivery : Delivery}
    {receipt : Receipt} {ending : Ending} (due : ending.Due chain delivery.packet payload)
    (admits : Receive.Admits Chain.host before delivery.packet payload)
    (received : (Transfer.application switches).receive delivery before = some (receipt, chain))
    (accepted : Receive.isSuccess receipt.acknowledgement = true)
    (visible : Text.isBlank chain.nativeDenom = false)
    (foreign : chain.nativeDenom ≠ chain.settings.voucher)
    (roomy : Payable chain delivery.packet payload → Roomy chain ⟨payload.receiver⟩ payload) :
    ∃ notice after, Receive.wrap Chain.host delivery.packet payload chain = some (notice, after) ∧
      ending.Reached chain delivery.packet payload notice after := by
  cases ending with
  | untouched =>
      obtain ⟨skip, wrapped⟩ := unpayable_wrap due
      exact ⟨_, _, wrapped, .untouched skip⟩
  | stranded =>
      obtain ⟨payable, frozen⟩ := due
      obtain ⟨eligible, exchangeable⟩ :=
        payable.exchangeable admits received accepted visible foreign (roomy payable)
      obtain ⟨locked, error, taken, refused, moved⟩ := exchangeable.stranded frozen
      exact ⟨_, _, Receive.wrap_of_settle eligible (Receive.settle_stranded taken refused),
        .stranded _ moved⟩
  | uncounted =>
      obtain ⟨payable, free, full⟩ := due
      obtain ⟨eligible, exchangeable⟩ :=
        payable.exchangeable admits received accepted visible foreign (roomy payable)
      obtain ⟨locked, paid, taken, given, moved⟩ := exchangeable.exchanged free
      have overflow := Totals.recordIn_eq_error.mpr ⟨full, rfl⟩
      exact ⟨_, _, Receive.wrap_of_settle eligible (Receive.settle_uncounted taken given overflow),
        .uncounted _ moved⟩
  | swapped =>
      obtain ⟨payable, free, fits⟩ := due
      obtain ⟨eligible, exchangeable⟩ :=
        payable.exchangeable admits received accepted visible foreign (roomy payable)
      obtain ⟨locked, paid, taken, given, moved⟩ := exchangeable.exchanged free
      have counted : chain.totals.recordIn (worth chain.settings payload) =
          .ok ⟨⟨_, fits⟩, chain.totals.transferredOut⟩ := Totals.recordIn_eq_ok.mpr ⟨rfl, rfl⟩
      exact ⟨_, _, Receive.wrap_swaps eligible taken given counted, .swapped moved rfl rfl⟩

def Ending.progress : Ending → Progress
  | .swapped | .uncounted => .full
  | .stranded => .half
  | .untouched => .none

theorem Ending.ext_progress {first second : Ending} (same : first.progress = second.progress)
    (told : first = .swapped ↔ second = .swapped) : first = second := by
  cases first <;> cases second <;> simp_all [Ending.progress]

theorem notice_ne_wrapped {skip : Skip} {crossing : Crossing} :
    skip.notice ≠ .wrapped crossing := by
  cases skip <;> exact Notice.noConfusion

theorem Ending.Reached.shows {ending : Ending} {notice : Notice} {after : Chain}
    (reached : ending.Reached chain packet payload notice after) :
    chain.bank.Transferred after.bank (ending.progress.moves chain ⟨payload.receiver⟩ payload) ∧
      (ending = .swapped ↔ ∃ crossing, notice = .wrapped crossing) := by
  cases reached with
  | swapped moved into out => exact ⟨moved, iff_of_true rfl ⟨_, rfl⟩⟩
  | uncounted message moved | stranded message moved =>
      exact ⟨moved, iff_of_false Ending.noConfusion fun ⟨_, wrong⟩ => Notice.noConfusion wrong⟩
  | untouched skip =>
      exact ⟨.refl _, iff_of_false Ending.noConfusion fun ⟨_, wrong⟩ => notice_ne_wrapped wrong⟩

theorem Ending.Reached.unique {ending seen : Ending} {notice : Notice} {after : Chain}
    (due : ending.Due chain packet payload)
    (reached : ending.Reached chain packet payload notice after)
    (other : seen.Reached chain packet payload notice after) (positive : payload.amount ≠ .zero)
    (receiver : (⟨payload.receiver⟩ : Account) ≠ Chain.reserve)
    (foreign : chain.nativeDenom ≠ chain.settings.voucher) :
    seen = ending := by
  obtain ⟨moved, tells⟩ := reached.shows
  obtain ⟨otherMoved, otherTells⟩ := other.shows
  have valued (some : ending.progress ≠ .none) : 0 < (worth chain.settings payload).units := by
    cases ending with
    | swapped | uncounted | stranded => exact due.1.positive
    | untouched => exact absurd rfl some
  have same := Progress.unique receiver foreign
    (Amount.ne_zero_iff.mp positive) valued moved otherMoved
  exact Ending.ext_progress same (otherTells.trans tells.symm)

end

-- The application's answer is kept in all four endings. Which of them it is can be told beforehand
-- from the chain that the application left, and afterwards from what became of that chain.
theorem arrival_ends {switches : Transfer.Switches} {before middle : Chain} {delivery : Delivery}
    {payload : Payload} {receipt : Receipt}
    (admits : Receive.Admits Chain.host before delivery.packet payload)
    (received : (Transfer.application switches).receive delivery before = some (receipt, middle))
    (accepted : ∃ value, receipt.acknowledgement.status? = some (.success value))
    (visible : Text.isBlank middle.nativeDenom = false)
    (foreign : middle.nativeDenom ≠ middle.settings.voucher)
    (other : payload.receiver ≠ Chain.reserve.address)
    (roomy : Payable middle delivery.packet payload → Roomy middle ⟨payload.receiver⟩ payload) :
    (∃! ending : Ending, ending.Due middle delivery.packet payload) ∧
      ∃ notice after, (swapStack switches).receive delivery before =
        some (receipt.noted notice, after) ∧
        ∀ ending : Ending, ending.Due middle delivery.packet payload ↔
          ending.Reached middle delivery.packet payload notice after := by
  have success := Receive.isSuccess_iff.mpr accepted
  obtain ⟨ending, due, unique⟩ := @existsUnique_due middle delivery.packet payload
  obtain ⟨notice, after, wrapped, reached⟩ :=
    due.reached admits received success visible foreign roomy
  refine ⟨existsUnique_due, notice, after, ?_, ?_⟩
  · rw [swapStack_receive, Receive.atop_admits (Receive.screen_eq_ok.mpr admits), received]
    exact Receive.finish_of_wrap success wrapped
  · intro seen
    constructor
    · intro dueToo
      rw [unique seen dueToo]
      exact reached
    · intro reachedToo
      have receiver : (⟨payload.receiver⟩ : Account) ≠ Chain.reserve :=
        fun same => other (congrArg Account.address same)
      rw [reached.unique due reachedToo admits.positive receiver foreign]
      exact due

theorem incoming_received :
    Transfer.received Sample.incomingDelivery.packet Sample.incoming =
      Sample.fundedChain.settings.voucher := by
  rw [Transfer.received, if_neg (by decide), Denom.ledgerName_addHop]
  rfl

theorem incoming_admitted :
    Receive.Admits Chain.host Sample.fundedChain Sample.incomingDelivery.packet
      Sample.incoming where
  ready := ⟨_, rfl, rfl⟩
  readable := Sample.incomingDelivery_payload?
  sender := by decide
  receiver := ⟨_, rfl⟩
  positive := by decide

theorem incoming_swappable :
    Receive.Swappable Sample.fundedChain Sample.incomingDelivery.packet Sample.incoming where
  counterparty := rfl
  clients := rfl
  configured := by decide
  wrapped := by decide
  arriving := by decide
  enabled := rfl
  route := by decide

theorem incoming_worth : (worth Sample.fundedChain.settings Sample.incoming).units = 5 := by decide

theorem arrival_ends_fundedChain :
    ∃ minted notice after, Sample.fundedChain.bank.mint?
      ⟨"zig1receiver"⟩ Sample.fundedChain.settings.voucher
        Sample.incoming.amount = some minted ∧
      (swapStack ⟨false, false⟩).receive Sample.incomingDelivery Sample.fundedChain =
        some ((Transfer.accepted Sample.incoming).noted notice, after) ∧
      Ending.swapped.Reached { Sample.fundedChain with bank := minted }
        Sample.incomingDelivery.packet Sample.incoming
        notice after := by
  have room : Sample.fundedChain.bank.units ⟨"zig1receiver"⟩ Sample.fundedChain.settings.voucher +
      Sample.incoming.amount.units < Amount.bound := by decide +kernel
  obtain ⟨minted, made⟩ := Bank.mint?_eq_some_of_lt room
  have done : Transfer.receive ⟨false, false⟩ Sample.incomingDelivery.packet Sample.fundedChain =
      some (.ok Sample.incoming, { Sample.fundedChain with bank := minted }) :=
    Transfer.receive_eq_ok.mpr ⟨rfl, Sample.incomingDelivery_payload?, _, minted, rfl,
      .minted (incoming_received ▸ made), rfl⟩
  have posted := Bank.mint?_posted made
  have nobody :
      Bank.share ⟨"zig1receiver"⟩ Sample.incoming.amount.units Chain.reserve = 0 := by decide
  have vouchers := posted.same rfl nobody Sample.fundedChain.settings.voucher
  have natives := fun account => posted.others account _ Sample.fundedChain_foreign
  have reserved :
      Sample.fundedChain.bank.units Chain.reserve Sample.fundedChain.settings.voucher = 0 := by
    decide +kernel
  have reserveNative :
      Sample.fundedChain.bank.units Chain.reserve Sample.fundedChain.nativeDenom = 5 := by decide
  have receiverNative :
      Sample.fundedChain.bank.units ⟨"zig1receiver"⟩ Sample.fundedChain.nativeDenom = 0 := by decide
  have thawed : minted.frozen = [] := posted.frozen
  have alike : Transparency.Alike Sample.fundedChain { Sample.fundedChain with bank := minted } :=
    ⟨minted, _, rfl⟩
  have roomy :
      Roomy { Sample.fundedChain with bank := minted } ⟨"zig1receiver"⟩ Sample.incoming := {
    vouchers := by
      show minted.units Chain.reserve Sample.fundedChain.settings.voucher +
        Sample.incoming.amount.units < Amount.bound
      rw [vouchers, reserved]
      decide
    native := fun _ => by
      show minted.units ⟨"zig1receiver"⟩ Sample.fundedChain.nativeDenom +
        (worth Sample.fundedChain.settings Sample.incoming).units < Amount.bound
      rw [natives, receiverNative, incoming_worth]
      decide }
  have payable :
      Payable { Sample.fundedChain with bank := minted } Sample.incomingDelivery.packet
        Sample.incoming := {
    swappable := alike.swappable incoming_swappable
    difference :=
      (by decide : Sample.settings.decimalDifference.toNat ≤ Precision.maxDifference.toNat)
    positive := Nat.le_trans (by decide) (Nat.le_of_eq incoming_worth.symm)
    covered := Nat.le_of_eq (incoming_worth.trans ((natives _).trans reserveNative).symm)
    free := thawed ▸ List.not_mem_nil }
  have counted : Sample.fundedChain.totals.transferredIn.units +
      (worth Sample.fundedChain.settings Sample.incoming).units < Amount.bound := by decide
  obtain ⟨-, notice, after, ran, ends⟩ :=
    arrival_ends incoming_admitted (Transfer.application_receive done)
    (Receive.isSuccess_iff.mp isSuccess_successValue) Sample.nativeDenom_visible
      Sample.fundedChain_foreign (by decide)
    fun _ => roomy
  exact ⟨minted, notice, after, made, ran,
    (ends .swapped).mp ⟨payable, thawed ▸ List.not_mem_nil, counted⟩⟩

end Arrival

end VoucherSwap
