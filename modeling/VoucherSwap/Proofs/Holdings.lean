import VoucherSwap.Proofs.Abort
import VoucherSwap.Proofs.Backing

/-!
Whose balances a request can change. Coins move between the reserve, the escrow account of the
channel end at which the packet is handled, and the one account that the packet names: its receiver
when it comes in, its sender otherwise. An answer from the counterparty raises only the reserve and
that account, and it takes nothing that anybody else held before, with one exception: a refund of a
packet whose denomination has no trace, although its text is the outbound trace, takes vouchers from
the sender that no refund has paid out. It takes a wrapped denomination that consists of hops alone.
Accounts that no packet names keep what they have for as long as a run goes on.
-/

namespace VoucherSwap

namespace Bank

/-- What moves between two banks: only accounts of the one kind pay, only accounts of the other kind
gain. -/
structure Flows (pays gains : Account → Prop) (before after : Bank) : Prop where
  kept : ∀ account name, ¬ pays account → before.units account name ≤ after.units account name
  capped : ∀ account name, ¬ gains account → after.units account name ≤ before.units account name

variable {pays gains : Account → Prop} {first second third : Bank} {sender receiver : Account}
  {coin : Coin}

theorem Flows.refl (pays gains : Account → Prop) (bank : Bank) : Flows pays gains bank bank :=
  ⟨fun _ _ _ => Nat.le_refl _, fun _ _ _ => Nat.le_refl _⟩

theorem Flows.trans (one : Flows pays gains first second) (two : Flows pays gains second third) :
    Flows pays gains first third where
  kept account name free := Nat.le_trans (one.kept account name free) (two.kept account name free)
  capped account name free :=
    Nat.le_trans (two.capped account name free) (one.capped account name free)

theorem Flows.mono {others more : Account → Prop} (flows : Flows pays gains first second)
    (payers : ∀ account, pays account → others account)
    (gainers : ∀ account, gains account → more account) :
    Flows others more first second where
  kept account name free := flows.kept account name (mt (payers account) free)
  capped account name free := flows.capped account name (mt (gainers account) free)

theorem Flows.same (flows : Flows pays pays first second) {account : Account}
    (free : ¬ pays account) (name : String) :
    second.units account name = first.units account name :=
  Nat.le_antisymm (flows.capped account name free) (flows.kept account name free)

theorem Posted.flows {denom : String} {paid received : Account → Nat}
    (posted : Posted first second denom paid received)
    (unpaying : ∀ account, ¬ pays account → paid account = 0)
    (unpaid : ∀ account, ¬ gains account → received account = 0) :
    Flows pays gains first second where
  kept account name free := posted.le (unpaying account free) name
  capped account name free := posted.ge (unpaid account free) name

theorem share_of_not {kind : Account → Prop} {holder account : Account} (holds : kind holder)
    (free : ¬ kind account) (amount : Nat) : share holder amount account = 0 := by
  apply share_of_ne
  rintro rfl
  exact free holds

theorem send_flows (sent : first.send sender receiver coin = some (.ok second))
    (payer : pays sender) (gainer : gains receiver) : Flows pays gains first second :=
  (send_sent sent).posted.flows (fun _ free => share_of_not payer free _)
    (fun _ free => share_of_not gainer free _)

theorem debit_flows {account : Account} (debited : first.debit account coin = .ok second)
    (payer : pays account) :
    Flows pays gains first second :=
  (debit_posted debited).flows (fun _ free => share_of_not payer free _) (fun _ _ => rfl)

theorem mint?_flows {account : Account} {denom : String} {amount : Amount}
    (minted : first.mint? account denom amount = some second) (gainer : gains account) :
    Flows pays gains first second :=
  (mint?_posted minted).flows (fun _ _ => rfl) (fun _ free => share_of_not gainer free _)

theorem mint?_send_flows {denom : String} {amount : Amount}
    (minted : first.mint? sender denom amount = some second)
    (sent : second.send sender receiver coin = some (.ok third)) (named : coin.denom.text = denom)
    (valued : coin.amount = amount) (gainer : gains receiver) : Flows pays gains first third := by
  subst named
  subst valued
  have both := (mint?_posted minted).trans (send_sent sent).posted
  simp only [nothing, Nat.zero_add] at both
  constructor
  · intro account name _
    by_cases same : name = coin.denom.text
    · subst same
      have entry := both.entry account
      omega
    · exact Nat.le_of_eq (both.others account name same).symm
  · intro account name free
    by_cases same : name = coin.denom.text
    · subst same
      have entry := both.entry account
      rw [share_of_not gainer free] at entry
      omega
    · exact Nat.le_of_eq (both.others account name same)

end Bank

namespace Holdings

open Session

def Sender (packet : Packet) (account : Account) : Prop :=
  ∃ payload, packet.payload? = some payload ∧ account.address = payload.sender

def Receiver (packet : Packet) (account : Account) : Prop :=
  ∃ payload, packet.payload? = some payload ∧ account.address = payload.receiver

/-- The account that a request names on this chain. -/
def Party : Request → Account → Prop
  | .receive delivery => Receiver delivery.packet
  | .acknowledge delivery _ | .timeout delivery => Sender delivery.packet
  | .send packet | .transfer packet => Sender packet

def localEnd : Request → Endpoint
  | .receive delivery => delivery.packet.destination
  | .acknowledge delivery _ | .timeout delivery => delivery.packet.source
  | .send packet | .transfer packet => packet.source

/-- Accounts of the chain itself: the reserve, and what is held in escrow at a channel end. -/
def Internal (endpoint : Endpoint) (account : Account) : Prop :=
  account = Chain.reserve ∨ account = Chain.escrow endpoint

def Gains (party : Account → Prop) (account : Account) : Prop :=
  account = Chain.reserve ∨ party account

def Touches (endpoint : Endpoint) (party : Account → Prop) (account : Account) : Prop :=
  Internal endpoint account ∨ party account

theorem Internal.touches {endpoint : Endpoint} {party : Account → Prop} {account : Account}
    (internal : Internal endpoint account) : Touches endpoint party account :=
  .inl internal

theorem Gains.touches {endpoint : Endpoint} {party : Account → Prop} {account : Account}
    (gains : Gains party account) : Touches endpoint party account :=
  gains.imp_left .inl

theorem sender_of_account {packet : Packet} {payload : Payload} {account : Account}
    (readable : packet.payload? = some payload)
    (found : Chain.host.account? payload.sender = some account) :
    Sender packet account :=
  ⟨payload, readable, Chain.account_address found⟩

theorem pays_flows {pays gains : Account → Prop} {escrow account : Account} {denom : String}
    {amount : Amount} {before after : Bank} {fresh : Bool}
    (paid : Transfer.Pays escrow account denom amount before fresh after) (payer : pays escrow)
    (gainer : gains account) : Bank.Flows pays gains before after := by
  cases paid with
  | released named units sent => exact Bank.send_flows sent payer gainer
  | minted made => exact Bank.mint?_flows made gainer

-- Packets that come in.

theorem arrives_flows {packet : Packet} {before after : Chain} {receipt : Receipt}
    (arrives : Arrives packet before receipt after) :
    Bank.Flows (Internal packet.destination) (Gains (Receiver packet)) before.bank after.bank := by
  cases arrives with
  | refused unswapped => exact Bank.Flows.refl _ _ _
  | credited readable found pays unswapped =>
      exact pays_flows pays (.inr rfl) (.inr ⟨_, readable, Chain.account_address found⟩)
  | @attempted payload wrapping minted _ _ admits eligible made settles reported =>
      have party : Gains (Receiver packet) wrapping.receiver :=
        .inr ⟨payload, admits.readable, Chain.account_address eligible.receiver⟩
      -- What is locked is what has just been minted, so the receiver pays nothing for it.
      have locking {locked : Bank}
          (taken : minted.send wrapping.receiver Chain.reserve wrapping.voucher =
            some (.ok locked)) :
          Bank.Flows (Internal packet.destination) (Gains (Receiver packet)) before.bank locked :=
        Bank.mint?_send_flows made taken rfl rfl (.inl rfl)
      cases settles with
      | unlocked refused => exact Bank.mint?_flows made party
      | unpaid message taken refused => exact locking taken
      | uncounted taken given overflow =>
        exact (locking taken).trans (Bank.send_flows given (.inl rfl) party)
      | swapped crossing taken given counted =>
        exact (locking taken).trans (Bank.send_flows given (.inl rfl) party)

-- Refunds.

theorem settles_flows {switches : Transfer.Switches} {packet : Packet} {before after : Chain}
    {settlement : Settlement} (settles : Transfer.Settles switches packet before settlement after) :
    Bank.Flows (Internal packet.source) (Gains (Sender packet)) before.bank after.bank := by
  cases settles with
  | refunded done =>
      obtain ⟨-, readable, sender, bank, found, pays, rfl⟩ := Transfer.refund_eq_ok.mp done
      exact pays_flows pays (.inr rfl) (.inr (sender_of_account readable found))
  | refused error => exact Bank.Flows.refl _ _ _

theorem returns_flows {switches : Transfer.Switches} {reason : String} {packet : Packet}
    {before after : Chain} {settlement : Settlement}
    (returns : Returns switches reason packet before settlement after) :
    Bank.Flows (Touches packet.source (Sender packet)) (Gains (Sender packet))
      before.bank after.bank := by
  cases returns with
  | left settles result unrefunded =>
    exact (settles_flows settles).mono (fun _ => Internal.touches) (fun _ => id)
  | @attempted pending _ middle _ _ due done repays =>
      have refunded : Bank.Flows (Touches packet.source (Sender packet)) (Gains (Sender packet))
          before.bank middle.bank :=
        (settles_flows (.refunded done)).mono (fun _ => Internal.touches) (fun _ => id)
      have sender : Sender packet pending.sender := sender_of_account due.readable due.sender
      have locking {locked : Bank} {voucher : Coin}
          (taken : middle.bank.send pending.sender Chain.reserve voucher = some (.ok locked)) :
          Bank.Flows (Touches packet.source (Sender packet)) (Gains (Sender packet))
            before.bank locked :=
        refunded.trans (Bank.send_flows taken (.inr sender) (.inl rfl))
      cases repays with
      | unfunded refused => exact refunded
      | unlocked exchange refused => exact refunded
      | unpaid exchange taken refused => exact locking taken
      | repaid exchange taken given =>
          exact (locking taken).trans (Bank.send_flows given (.inl (.inl rfl)) (.inr sender))

/-- Vouchers that a refund took from the sender of a packet, although none had been paid out for
it. -/
structure Seized (packet : Packet) (before after : Chain) (account : Account) (name : String) :
    Prop where
  voucher : name = before.settings.voucher
  grown : before.bank.units Chain.reserve name < after.bank.units Chain.reserve name
  traceless : ∃ payload, packet.payload? = some payload ∧ account.address = payload.sender ∧
    payload.denom.hops = [] ∧ payload.denom.text = before.settings.outboundTrace

theorem Seized.not_keepsHop {packet : Packet} {before after : Chain} {account : Account}
    {name : String} (seized : Seized packet before after account name) :
    ¬ before.settings.KeepsHop := by
  obtain ⟨payload, readable, -, trace, outbound⟩ := seized.traceless
  intro keeps
  have known := Payload.denom_of_ofBytes? readable
  rw [outbound] at known
  exact keeps _ known trace

-- Without a swap behind it no refund seizes anything: a token without a trace is paid in another
-- than the voucher.
theorem settles_not_seized {switches : Transfer.Switches} {packet : Packet} {before after : Chain}
    {settlement : Settlement} {account : Account} {name : String}
    (settles : Transfer.Settles switches packet before settlement after) :
    ¬ Seized packet before after account name := by
  intro seized
  obtain ⟨payload, readable, -, trace, outbound⟩ := seized.traceless
  have grown := seized.grown
  cases settles with
  | refused error => exact absurd grown (Nat.lt_irrefl _)
  | refunded done =>
      obtain ⟨-, read, sender, bank, found, pays, rfl⟩ := Transfer.refund_eq_ok.mp done
      rw [readable, Option.some.injEq] at read
      subst read
      obtain ⟨paid, posted, -⟩ := pays.posted
      have other : name ≠ payload.denom.ledgerName := by
        rw [seized.voucher, Denom.ledgerName_of_hops_nil trace, outbound]
        exact Voucher.ofTrace_ne_trace _ _ _ _
      rw [posted.others Chain.reserve name other] at grown
      exact Nat.lt_irrefl _ grown

-- The vouchers after a refund has locked them again. The sender pays for them itself if the token
-- has no trace.
theorem locked_vouchers {switches : Transfer.Switches} {packet : Packet} {before middle : Chain}
    {payload : Payload} {pending : Refund.Pending Account} {voucher native : Coin} {locked : Bank}
    (due : Refund.Due Chain.host before packet before.settings pending)
    (done : Transfer.refund switches packet before = some (.ok payload, middle))
    (exchange : Refund.Exchange Chain.host middle pending voucher native)
    (taken : middle.bank.send pending.sender Chain.reserve voucher = some (.ok locked))
    {holder : Account} (notEscrow : holder ≠ Chain.escrow packet.source) :
    locked.units holder before.settings.voucher +
        (if pending.payload.denom.hops = []
          then Bank.share pending.sender pending.payload.amount.units holder else 0) =
      before.bank.units holder before.settings.voucher +
        Bank.share Chain.reserve pending.payload.amount.units holder ∧
    ∀ name, name ≠ before.settings.voucher →
      before.bank.units holder name ≤ locked.units holder name := by
  have named : voucher.denom.text = before.settings.voucher := by
    rw [exchange.voucherDenom, due.outbound]
    rfl
  have posted := (Bank.send_sent taken).posted
  rw [named, exchange.voucherAmount] at posted
  obtain ⟨bank, rfl, refunded⟩ := due.refunded done
  constructor
  · have paid := refunded holder notEscrow
    have entry := posted.entry holder
    dsimp only at entry
    split at paid <;> simp only [*, ↓reduceIte] <;> omega
  · intro name other
    rw [posted.others holder name other]
    obtain ⟨-, -, _, _, -, pays, same⟩ := Transfer.refund_eq_ok.mp done
    cases same
    exact pays.others notEscrow name

theorem locked_lowered_iff {switches : Transfer.Switches} {packet : Packet}
    {before middle after : Chain} {payload : Payload} {pending : Refund.Pending Account}
    {voucher native : Coin} {locked : Bank} {amount : Nat}
    (due : Refund.Due Chain.host before packet before.settings pending)
    (done : Transfer.refund switches packet before = some (.ok payload, middle))
    (exchange : Refund.Exchange Chain.host middle pending voucher native)
    (taken : middle.bank.send pending.sender Chain.reserve voucher = some (.ok locked))
    (paid : Bank.Posted locked after.bank native.denom.text (Bank.share Chain.reserve amount)
      (Bank.share pending.sender amount))
    {account : Account} {name : String} (notReserve : account ≠ Chain.reserve)
    (notEscrow : account ≠ Chain.escrow packet.source) :
    after.bank.units account name < before.bank.units account name ↔
      Seized packet before after account name := by
  obtain ⟨own, others⟩ := locked_vouchers due done exchange taken notEscrow
  obtain ⟨reserves, -⟩ :=
    locked_vouchers due done exchange taken (Ne.symm (Chain.escrow_ne_reserve packet.source))
  rw [Bank.share_of_ne notReserve] at own
  rw [Bank.share_self] at reserves
  have more := paid.le (Bank.share_of_ne notReserve amount) name
  -- If the native token were the voucher, both entries would be in one denomination.
  have settled : native.denom.text = before.settings.voucher →
      after.bank.units account before.settings.voucher =
          locked.units account before.settings.voucher + Bank.share pending.sender amount account ∧
        after.bank.units Chain.reserve before.settings.voucher + amount =
          locked.units Chain.reserve before.settings.voucher +
            Bank.share pending.sender amount Chain.reserve := by
    intro same
    have first := paid.entry account
    have second := paid.entry Chain.reserve
    rw [same, Bank.share_of_ne notReserve] at first
    rw [same, Bank.share_self] at second
    exact ⟨first, second⟩
  have apart : native.denom.text ≠ before.settings.voucher → ∀ holder,
      after.bank.units holder before.settings.voucher =
        locked.units holder before.settings.voucher :=
    fun different holder => paid.others holder _ (Ne.symm different)
  by_cases seizable : name = before.settings.voucher ∧ pending.payload.denom.hops = [] ∧
    account = pending.sender
  · obtain ⟨rfl, trace, rfl⟩ := seizable
    rw [if_pos trace, Bank.share_self] at own
    rw [if_pos trace, Bank.share_of_ne (Ne.symm notReserve)] at reserves
    rw [Bank.share_self, Bank.share_of_ne (Ne.symm notReserve)] at settled
    have even : after.bank.units pending.sender before.settings.voucher <
          before.bank.units pending.sender before.settings.voucher ↔
        before.bank.units Chain.reserve before.settings.voucher <
          after.bank.units Chain.reserve before.settings.voucher := by
      by_cases same : native.denom.text = before.settings.voucher
      · obtain ⟨first, second⟩ := settled same
        omega
      · have first := apart same pending.sender
        have second := apart same Chain.reserve
        omega
    exact ⟨fun less =>
      ⟨rfl, even.mp less, pending.payload, due.readable, Chain.account_address due.sender, trace,
      due.outbound⟩, fun seized => even.mpr seized.grown⟩
  · apply iff_of_false
    · intro less
      apply seizable
      have named : name = before.settings.voucher := by
        by_contra other
        have kept := others name other
        omega
      subst named
      by_cases trace : pending.payload.denom.hops = []
      · refine ⟨rfl, trace, ?_⟩
        by_contra other
        rw [if_pos trace, Bank.share_of_ne other] at own
        omega
      · rw [if_neg trace] at own
        omega
    · rintro ⟨named, -, other, readable, address, trace, -⟩
      rw [due.readable, Option.some.injEq] at readable
      subst readable
      exact seizable
        ⟨named, trace, Account.ext_address (address.trans (Chain.account_address due.sender).symm)⟩

theorem posted_nothing (bank : Bank) (denom : String) (payer payee : Account) :
    Bank.Posted bank bank denom (Bank.share payer 0) (Bank.share payee 0) :=
  ⟨rfl, rfl, fun account => by simp [Bank.share], fun _ _ _ => rfl⟩

theorem returns_lowered_iff {switches : Transfer.Switches} {reason : String} {packet : Packet}
    {before after : Chain} {settlement : Settlement}
    (returns : Returns switches reason packet before settlement after) {account : Account}
    {name : String} (notReserve : account ≠ Chain.reserve)
    (notEscrow : account ≠ Chain.escrow packet.source) :
    after.bank.units account name < before.bank.units account name ↔
      Seized packet before after account name := by
  have calm {first : Settlement} {middle : Chain}
      (settles : Transfer.Settles switches packet before first middle) :
        middle.bank.units account name < before.bank.units account name ↔
          Seized packet before middle account name := by
    have kept := (settles_flows settles).kept account name
      (by rintro (same | same) <;> contradiction)
    exact iff_of_false (Nat.not_lt.mpr kept) (settles_not_seized settles)
  cases returns with
  | left settles result unrefunded => exact calm settles
  | @attempted pending _ middle _ _ due done repays =>
      cases repays with
      | unfunded refused => exact calm (.refunded done)
      | unlocked exchange refused => exact calm (.refunded done)
      | unpaid exchange taken refused =>
          exact locked_lowered_iff due done exchange taken
            (posted_nothing _ _ _ _) notReserve notEscrow
      | repaid exchange taken given =>
          exact locked_lowered_iff due done exchange taken
            (Bank.send_sent given).posted notReserve notEscrow

-- Packets that go out.

def Departs (packet : Packet) (before after : Bank) : Prop :=
  Bank.Flows (Touches packet.source (Sender packet)) (Touches packet.source (Sender packet))
    before after

theorem takes_departs {packet : Packet} {sender : Account} {coin : Coin} {before after : Bank}
    {burns : Bool} (takes : Transfer.Takes packet sender coin before burns after)
    (party : Sender packet sender) :
    Departs packet before after := by
  cases takes with
  | escrowed sent => exact Bank.send_flows sent (.inr party) (.inl (.inr rfl))
  | burned destroyed => exact Bank.debit_flows (Bank.burn_eq_ok.mp destroyed).2 (.inr party)

theorem take_departs {packet : Packet} {before after : Chain} {result : Except Error Unit}
    (ran : Transfer.take packet before = some (result, after)) :
    Departs packet before.bank after.bank := by
  cases result with
  | error error =>
      rw [Transfer.take_unchanged ran]
      exact Bank.Flows.refl _ _ _
  | ok done =>
      obtain ⟨payload, sender, coin, bank, readable, found, -, takes, rfl⟩ :=
        Transfer.take_eq_ok.mp ran
      exact takes_departs takes (sender_of_account readable found)

section

variable {packet : Packet} {order : Send.Order Account} {before : Chain} {voucher : Coin}
  {payload : Payload} {released locked burned : Bank}
  (ordered : Send.Ordered Chain.host before packet order)
include ordered

theorem freed_departs
    (freed : before.bank.send (Chain.escrow packet.source) order.sender order.native =
      some (.ok released)) :
    Departs packet before.bank released :=
  Bank.send_flows freed (.inl (.inr rfl)) (.inr (sender_of_account ordered.readable ordered.sender))

theorem collected_departs
    (collected : Send.Collected packet order before voucher payload released locked) :
    Departs packet before.bank locked :=
  (freed_departs ordered collected.freed).trans
    (Bank.send_flows collected.taken (.inr (sender_of_account ordered.readable ordered.sender))
      (.inl (.inl rfl)))

theorem burned_departs
    (collected : Send.Collected packet order before voucher payload released locked)
    (destroyed : locked.burn Chain.reserve voucher = .ok burned) :
    Departs packet before.bank burned :=
  (collected_departs ordered collected).trans
    (Bank.debit_flows (Bank.burn_eq_ok.mp destroyed).2 (.inl (.inl rfl)))

end

theorem send_departs {packet : Packet} {before after : Chain} {dispatch : Dispatch}
    (ran : (Send.hook Chain.host).atop Chain.sendPacket packet before = some (dispatch, after)) :
    Departs packet before.bank after.bank := by
  cases dispatch with
  | ok sequence =>
      cases (Send.atop_eq_ok.mp ran).2 with
      | forwarded left working => exact Bank.Flows.refl _ _ _
      | unwrapped unwraps =>
          obtain ⟨ordered, ⟨released, locked, burned, totals, collected, destroyed, -, rfl⟩, -⟩ :=
            unwraps
          exact burned_departs ordered collected destroyed
  | error error =>
      cases Send.atop_fails ran with
      | refused planned => exact Bank.Flows.refl _ _ _
      | rejected left broken => exact Bank.Flows.refl _ _ _
      | uncollected ordered stopped =>
          cases stopped with
          | escrowed refused => exact Bank.Flows.refl _ _ _
          | missing freed | unconverted freed refused | unlocked freed refused =>
            exact freed_departs ordered freed
      | unburned ordered collected refused back =>
          cases back with
          | returned sent =>
              exact (collected_departs ordered collected).trans
                (Bank.send_flows sent (.inl (.inl rfl))
                (.inr (sender_of_account ordered.readable ordered.sender)))
          | kept unsent => exact collected_departs ordered collected
      | undelivered ordered collected destroyed broken =>
        exact burned_departs ordered collected destroyed
      | uncounted ordered collected destroyed working overflow =>
        exact burned_departs ordered collected destroyed

theorem start_departs {switches : Transfer.Switches} {packet : Packet} {before after : Chain}
    {dispatch : Dispatch}
    (ran : Transfer.start (swapStack switches) packet before = some (dispatch, after)) :
    Departs packet before.bank after.bank := by
  obtain ⟨outcome, middle, taking, went⟩ := Effect.bind_eq_some.mp ran
  have taken := take_departs taking
  cases outcome with
  | error error =>
      obtain ⟨-, rfl⟩ := Effect.pure_eq_some.mp went
      exact taken
  | ok done => exact taken.trans (send_departs went)

-- Runs.

structure Refunds (packet : Packet) (before after : Chain) : Prop where
  flows : Bank.Flows (Touches packet.source (Sender packet)) (Gains (Sender packet))
    before.bank after.bank
  lowered_iff : ∀ account name, ¬ Internal packet.source account →
    (after.bank.units account name < before.bank.units account name ↔
      Seized packet before after account name)
  keepsHop : before.settings.KeepsHop →
    Bank.Flows (Internal packet.source) (Gains (Sender packet)) before.bank after.bank

theorem returns_refunds {switches : Transfer.Switches} {reason : String} {packet : Packet}
    {before after : Chain} {settlement : Settlement}
    (returns : Returns switches reason packet before settlement after) :
    Refunds packet before after where
  flows := returns_flows returns
  lowered_iff account name free := returns_lowered_iff returns (not_or.mp free).1 (not_or.mp free).2
  keepsHop keeps := by
    refine ⟨fun account name free => Nat.not_lt.mp fun less => ?_, (returns_flows returns).capped⟩
    have seized := (returns_lowered_iff returns (not_or.mp free).1 (not_or.mp free).2).mp less
    exact seized.not_keepsHop keeps

theorem timeout_refunds {switches : Transfer.Switches} {delivery : Delivery} {before after : Chain}
    {settlement : Settlement}
    (ran : (swapStack switches).timeout delivery before = some (settlement, after)) :
    Refunds delivery.packet before after :=
  returns_refunds (refunds_returns (timeout_eq_some.mp ran))

theorem refunds_refl (packet : Packet) (chain : Chain) : Refunds packet chain chain where
  flows := Bank.Flows.refl _ _ _
  lowered_iff _ _ _ := iff_of_false (Nat.lt_irrefl _) fun seized => Nat.lt_irrefl _ seized.grown
  keepsHop _ := Bank.Flows.refl _ _ _

theorem acknowledge_refunds {switches : Transfer.Switches} {delivery : Delivery}
    {acknowledgement : Acknowledgement} {before after : Chain} {settlement : Settlement}
    (ran : (swapStack switches).acknowledge (delivery, acknowledgement) before =
      some (settlement, after)) :
    Refunds delivery.packet before after := by
  cases acknowledge_commits ran with
  | acknowledged failed refunds => exact returns_refunds (refunds_returns refunds)
  | passed result other => exact refunds_refl _ _

theorem perform_flows {switches : Transfer.Switches} {request : Request} {answer : Answer}
    {before after : Chain}
    (performed : perform (swapStack switches) request before = some (answer, after)) :
    Bank.Flows (Touches (localEnd request) (Party request))
      (Touches (localEnd request) (Party request)) before.bank
      after.bank := by
  cases request with
  | receive delivery =>
      obtain ⟨receipt, received, -⟩ := Effect.map_eq_some.mp performed
      exact (arrives_flows (receive_arrives received)).mono (fun _ => Internal.touches)
        (fun _ => Gains.touches)
  | acknowledge delivery acknowledgement =>
      obtain ⟨settlement, acknowledged, -⟩ := Effect.map_eq_some.mp performed
      exact (acknowledge_refunds acknowledged).flows.mono (fun _ => id) (fun _ => Gains.touches)
  | timeout delivery =>
      obtain ⟨settlement, expired, -⟩ := Effect.map_eq_some.mp performed
      exact (timeout_refunds expired).flows.mono (fun _ => id) (fun _ => Gains.touches)
  | send packet =>
      obtain ⟨dispatch, sent, -⟩ := Effect.map_eq_some.mp performed
      exact send_departs sent
  | transfer packet =>
      obtain ⟨dispatch, started, -⟩ := Effect.map_eq_some.mp performed
      exact start_departs started

/-- An account with a business of its own: not the reserve, not in escrow, and in no packet of the
run. -/
structure Bystander (history : List (Request × Answer)) (account : Account) : Prop where
  notReserve : account ≠ Chain.reserve
  notEscrow : ∀ endpoint, account ≠ Chain.escrow endpoint
  unnamed : ∀ entry ∈ history, ¬ Party entry.1 account

theorem Bystander.untouched {history : List (Request × Answer)} {account : Account}
    (bystander : Bystander history account) {request : Request} {answer : Answer}
    (member : (request, answer) ∈ history) :
    ¬ Touches (localEnd request) (Party request) account := by
  rintro ((same | same) | party)
  · exact bystander.notReserve same
  · exact bystander.notEscrow _ same
  · exact bystander.unnamed _ member party

-- By induction on the run; the invariant is the balance itself.
theorem run_bystander {switches : Transfer.Switches} {start final : Chain}
    {history : List (Request × Answer)}
    (run : Run (perform (swapStack switches)) start history final) {account : Account}
    (bystander : Bystander history account) (name : String) :
    final.bank.units account name = start.bank.units account name := by
  have preserved (request : Request) (answer : Answer) (before after : Chain)
      (member : (request, answer) ∈ history)
      (kept : before.bank.units account name = start.bank.units account name)
      (performed : perform (swapStack switches) request before = some (answer, after)) :
      after.bank.units account name = start.bank.units account name := by
    have free : ¬ Touches (localEnd request) (Party request) account := bystander.untouched member
    exact ((perform_flows performed).same free name).trans kept
  have initially : start.bank.units account name = start.bank.units account name := rfl
  exact run.preserves initially preserved

-- A packet that comes in costs nobody else anything, and a refund nobody exactly if it seizes no
-- vouchers. What a send that fails has moved is not moved back.
theorem holdings_flow (switches : Transfer.Switches) :
    (∀ delivery before receipt after,
      (swapStack switches).receive delivery before = some (receipt, after) →
        Bank.Flows (Internal delivery.packet.destination)
          (Gains (Receiver delivery.packet)) before.bank after.bank) ∧
      (∀ delivery before settlement after,
        (swapStack switches).timeout delivery before = some (settlement, after) →
        Refunds delivery.packet before after) ∧
      (∀ delivery acknowledgement before settlement after,
        (swapStack switches).acknowledge (delivery, acknowledgement) before =
          some (settlement, after) →
          Refunds delivery.packet before after) ∧
      (∀ packet before dispatch after,
        Transfer.start (swapStack switches) packet before = some (dispatch, after) →
        Bank.Flows (Touches packet.source (Sender packet)) (Touches packet.source (Sender packet))
          before.bank after.bank) ∧
      ∀ start history final, Run (perform (swapStack switches)) start history final → ∀ account,
        Bystander history account → ∀ name,
          final.bank.units account name = start.bank.units account name := by
  refine ⟨?_, ?_, ?_, ?_, ?_⟩
  · intro delivery before receipt after received
    exact arrives_flows (receive_arrives received)
  · intro delivery before settlement after expired
    exact timeout_refunds expired
  · intro delivery acknowledgement before settlement after acknowledged
    exact acknowledge_refunds acknowledged
  · intro packet before dispatch after started
    exact start_departs started
  · intro start history final run account bystander
    exact run_bystander run bystander

def bystander : Account := ⟨"zig1other"⟩

def sampleChain : Chain :=
  { Sample.fundedChain with
    bank := Sample.fundedChain.bank.setBalance bystander Sample.nativeDenom ⟨5, Sample.five_fits⟩ }

set_option maxRecDepth 100000 in
theorem sampleChain_receive :
    ∃ receipt after, (swapStack ⟨false, false⟩).receive Sample.incomingDelivery sampleChain =
      some (receipt, after) ∧
      after.bank.units ⟨"zig1receiver"⟩ Sample.nativeDenom = 5 := by
  have computed :
      (((swapStack ⟨false, false⟩).receive Sample.incomingDelivery sampleChain).map fun step =>
        decide (step.2.bank.units ⟨"zig1receiver"⟩ Sample.nativeDenom = 5)) = some true := by
    decide +kernel
  obtain ⟨⟨receipt, after⟩, received, paid⟩ := Option.map_eq_some_iff.mp computed
  exact ⟨receipt, after, received, of_decide_eq_true paid⟩

theorem bystander_found : Chain.host.account? "zig1other" = some bystander := rfl

theorem bystander_sample (answer : Answer) :
    Bystander [(.receive Sample.incomingDelivery, answer)] bystander where
  notReserve := by decide
  notEscrow endpoint := Ne.symm (Chain.escrow_ne_account bystander_found endpoint)
  unnamed := by
    intro entry member
    rw [List.mem_singleton.mp member]
    rintro ⟨payload, readable, address⟩
    rw [Sample.incomingDelivery_payload?, Option.some.injEq] at readable
    subst readable
    exact absurd address (by decide)

theorem holdings_flow_sampleChain :
    ∃ receipt after,
      Run (perform (swapStack ⟨false, false⟩)) sampleChain
        [(.receive Sample.incomingDelivery, .received receipt)] after ∧
      after.bank.units ⟨"zig1receiver"⟩ Sample.nativeDenom = 5 ∧
      Bank.Flows (Internal Sample.nativeEnd)
        (Gains (Receiver Sample.incomingDelivery.packet)) sampleChain.bank
        after.bank ∧
      after.bank.units bystander Sample.nativeDenom = 5 := by
  obtain ⟨receipt, after, received, paid⟩ := sampleChain_receive
  have performed :
      perform (swapStack ⟨false, false⟩) (.receive Sample.incomingDelivery) sampleChain =
        some (.received receipt, after) := Effect.map_eq_some.mpr ⟨receipt, received, rfl⟩
  have run : Run (perform (swapStack ⟨false, false⟩)) sampleChain
      [(.receive Sample.incomingDelivery, .received receipt)] after := .snoc .nil performed
  have flows := (holdings_flow ⟨false, false⟩).1 _ _ _ _ received
  have kept := (holdings_flow ⟨false, false⟩).2.2.2.2 _ _ _ run _
    (bystander_sample _) Sample.nativeDenom
  exact ⟨receipt, after, run, paid, flows, kept.trans (by decide)⟩

def seizingPayload : Payload := { Backing.strayPayload with sender := "zig1sender" }

def seizingPacket : Packet := { Backing.strayPacket with data := seizingPayload.bytes }

/-- The sender owns vouchers, and what its packet took is in escrow. -/
def seizingChain : Chain :=
  { Sample.hopChain with
    bank := ((Bank.empty.setBalance Chain.reserve Sample.nativeDenom .one).setBalance ⟨"zig1sender"⟩
      Sample.hopSettings.voucher seizingPayload.amount).setBalance (Chain.escrow Sample.nativeEnd)
      Sample.hopBase.text seizingPayload.amount }

set_option maxRecDepth 100000 in
/-- A refund can take what its sender held before. -/
theorem timeout_seizes_vouchers :
    ∃ settlement after,
      (swapStack ⟨false, false⟩).timeout ⟨seizingPacket, ""⟩ seizingChain =
        some (settlement, after) ∧
      ¬ Internal seizingPacket.source ⟨"zig1sender"⟩ ∧
      ¬ seizingChain.bank.units ⟨"zig1sender"⟩ Sample.hopSettings.voucher ≤
        after.bank.units ⟨"zig1sender"⟩ Sample.hopSettings.voucher := by
  have computed :
      (((swapStack ⟨false, false⟩).timeout ⟨seizingPacket, ""⟩ seizingChain).map fun step =>
        decide (¬ seizingChain.bank.units ⟨"zig1sender"⟩ Sample.hopSettings.voucher ≤
          step.2.bank.units ⟨"zig1sender"⟩ Sample.hopSettings.voucher)) = some true := by
    decide +kernel
  obtain ⟨⟨settlement, after⟩, expired, less⟩ := Option.map_eq_some_iff.mp computed
  have found : Chain.host.account? "zig1sender" = some ⟨"zig1sender"⟩ := rfl
  refine ⟨settlement, after, expired, ?_, of_decide_eq_true less⟩
  rintro (same | same)
  · exact absurd same (by decide)
  · exact Chain.escrow_ne_account found _ same.symm

end Holdings

end VoucherSwap
