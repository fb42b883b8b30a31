import VoucherSwap.Transfer
import VoucherSwap.Proofs.Acknowledgement
import VoucherSwap.Proofs.Chain

/-!
What the transfer application does to a chain. It pays an account out of escrow or with a fresh
voucher, or takes a coin into escrow or burns it; a request that it cannot meet leaves the chain as
it was. Tokens on their way back are told from others by their latest hop.
-/

namespace VoucherSwap

namespace Transfer

variable {switches : Switches} {packet : Packet} {payload : Payload} {before after : Chain}
  {error : Error}

theorem account_eq_ok {address : String} {found : Account} :
    account address = .ok found ↔ Chain.host.account? address = some found :=
  Host.account_eq_ok

theorem move_eq_ok {sender receiver : Account} {denom : String} {amount : Amount} {result : Unit} :
    move sender receiver denom amount before = some (.ok result, after) ↔
      ∃ coin bank, (coin.denom.text = denom ∧ coin.amount = amount) ∧
        before.bank.send sender receiver coin = some (.ok bank) ∧ after = { before with bank } := by
  simp only [move, Attempt.bind_eq_ok, Attempt.check_eq_ok, Coin.make_eq_ok, Chain.sendCoins_eq_ok]
  constructor
  · rintro ⟨coin, middle, ⟨named, rfl⟩, bank, sent, rfl⟩
    exact ⟨coin, bank, named, sent, rfl⟩
  · rintro ⟨coin, bank, named, sent, rfl⟩
    exact ⟨coin, before, ⟨named, rfl⟩, bank, sent, rfl⟩

theorem move_eq_error {sender receiver : Account} {denom : String} {amount : Amount} :
    move sender receiver denom amount before = some (.error error, after) ↔
      (Coin.make denom amount = .error error ∨
        ∃ coin, Coin.make denom amount = .ok coin ∧
          before.bank.send sender receiver coin = some (.error error)) ∧ after = before := by
  simp only [move, Attempt.bind_eq_error, Attempt.check_eq_error, Attempt.check_eq_ok,
    Chain.sendCoins_eq_error]
  constructor
  · rintro (⟨unnamed, rfl⟩ | ⟨coin, middle, ⟨named, rfl⟩, unsent, rfl⟩)
    · exact ⟨.inl unnamed, rfl⟩
    · exact ⟨.inr ⟨coin, named, unsent⟩, rfl⟩
  · rintro ⟨unnamed | ⟨coin, named, unsent⟩, rfl⟩
    · exact .inl ⟨unnamed, rfl⟩
    · exact .inr ⟨coin, after, ⟨named, rfl⟩, unsent, rfl⟩

/-- A payment of the application to an account: out of escrow, or with a voucher that did not exist
before. -/
inductive Pays (escrow account : Account) (denom : String) (amount : Amount) (before : Bank) :
    Bool → Bank → Prop where
  | released {coin : Coin} {after : Bank} (name : coin.denom.text = denom)
      (units : coin.amount = amount)
      (sent : before.send escrow account coin = some (.ok after)) :
      Pays escrow account denom amount before false after
  | minted {after : Bank} (made : before.mint? account denom amount = some after) :
      Pays escrow account denom amount before true after

theorem Pays.posted {escrow account : Account} {denom : String} {amount : Amount}
    {before after : Bank} {fresh : Bool}
    (pays : Pays escrow account denom amount before fresh after) :
    ∃ paid, Bank.Posted before after denom paid (Bank.share account amount.units) ∧
      ∀ holder, holder ≠ escrow → paid holder = 0 := by
  cases pays with
  | released named units sent =>
      subst named
      subst units
      exact ⟨_, (Bank.send_sent sent).posted, fun holder different => Bank.share_of_ne different _⟩
  | minted made => exact ⟨_, Bank.mint?_posted made, fun _ _ => rfl⟩

theorem Pays.others {escrow account holder : Account} {denom : String} {amount : Amount}
    {before after : Bank} {fresh : Bool}
    (pays : Pays escrow account denom amount before fresh after) (different : holder ≠ escrow)
    (name : String) :
    before.units holder name ≤ after.units holder name := by
  obtain ⟨paid, posted, free⟩ := pays.posted
  exact posted.le (free holder different) name

theorem Pays.bystander {escrow account holder : Account} {denom : String} {amount : Amount}
    {before after : Bank} {fresh : Bool}
    (pays : Pays escrow account denom amount before fresh after) (notEscrow : holder ≠ escrow)
    (notPaid : holder ≠ account) (name : String) :
    after.units holder name = before.units holder name := by
  obtain ⟨paid, posted, free⟩ := pays.posted
  exact posted.same (free holder notEscrow) (Bank.share_of_ne notPaid _) name

theorem release_eq_ok (escrow : Account) {account : Account} {denom : String} {amount : Amount}
    {result : Payload} :
    (do
      move escrow account denom amount
      return payload : Attempt Chain Payload) before = some (.ok result, after) ↔
      payload = result ∧ ∃ bank, Pays escrow account denom amount before.bank false bank ∧
        after = { before with bank } := by
  simp only [Attempt.bind_eq_ok, Attempt.pure_eq_ok, move_eq_ok]
  constructor
  · rintro ⟨-, -, ⟨coin, bank, ⟨name, units⟩, sent, rfl⟩, rfl, rfl⟩
    exact ⟨rfl, bank, .released name units sent, rfl⟩
  · rintro ⟨rfl, bank, pays, rfl⟩
    cases pays with
    | released name units sent => exact ⟨(), _, ⟨_, bank, ⟨name, units⟩, sent, rfl⟩, rfl, rfl⟩

theorem issue_eq_ok (escrow : Account) {account : Account} {denom : String} {amount : Amount}
    {result : Payload} :
    (do
      Chain.mint account denom amount
      return payload : Attempt Chain Payload) before = some (.ok result, after) ↔
      payload = result ∧ ∃ bank, Pays escrow account denom amount before.bank true bank ∧
        after = { before with bank } := by
  simp only [Attempt.bind_eq_ok, Attempt.pure_eq_ok, Attempt.effect_eq_ok, Chain.mint_eq_some]
  constructor
  · rintro ⟨-, -, ⟨bank, made, rfl⟩, rfl, rfl⟩
    exact ⟨rfl, bank, .minted made, rfl⟩
  · rintro ⟨rfl, bank, pays, rfl⟩
    cases pays with
    | minted made => exact ⟨(), _, ⟨bank, made, rfl⟩, rfl, rfl⟩

def received (packet : Packet) (payload : Payload) : String :=
  if payload.denom.arrivedOver packet.source then (payload.denom.removeHop packet.source).ledgerName
  else (payload.denom.addHop packet.destination).ledgerName

theorem receive_eq_ok :
    receive switches packet before = some (.ok payload, after) ↔
      switches.receivesFail = false ∧ packet.payload? = some payload ∧
        ∃ receiver bank, Chain.host.account? payload.receiver = some receiver ∧
          Pays (Chain.escrow packet.destination) receiver (received packet payload) payload.amount
            before.bank (!payload.denom.arrivedOver packet.source) bank ∧
            after = { before with bank } := by
  simp only [receive, Attempt.bind_eq_ok, Attempt.check_eq_ok, Attempt.guard_eq_ok,
    Route.payload_eq_ok, account_eq_ok, Bool.not_eq_true]
  constructor
  · rintro ⟨working, read, middle, ⟨readable, rfl⟩, receiver, middle, ⟨found, rfl⟩, went⟩
    cases arrived : read.denom.arrivedOver packet.source with
    | true =>
        rw [if_pos arrived, release_eq_ok (Chain.escrow packet.destination)] at went
        obtain ⟨rfl, bank, pays, rfl⟩ := went
        refine ⟨working, readable, receiver, bank, found, ?_, rfl⟩
        simpa [received, arrived] using pays
    | false =>
        rw [if_neg (Bool.eq_false_iff.mp arrived),
          issue_eq_ok (Chain.escrow packet.destination)] at went
        obtain ⟨rfl, bank, pays, rfl⟩ := went
        refine ⟨working, readable, receiver, bank, found, ?_, rfl⟩
        simpa [received, arrived] using pays
  · rintro ⟨working, readable, receiver, bank, found, pays, rfl⟩
    refine ⟨working, payload, before, ⟨readable, rfl⟩, receiver, before, ⟨found, rfl⟩, ?_⟩
    cases arrived : payload.denom.arrivedOver packet.source with
    | true =>
        rw [if_pos rfl, release_eq_ok (Chain.escrow packet.destination)]
        exact ⟨rfl, bank, by simpa [received, arrived] using pays, rfl⟩
    | false =>
        rw [if_neg Bool.false_ne_true, issue_eq_ok (Chain.escrow packet.destination)]
        exact ⟨rfl, bank, by simpa [received, arrived] using pays, rfl⟩

theorem refund_eq_ok :
    refund switches packet before = some (.ok payload, after) ↔
      switches.refundsFail = false ∧ packet.payload? = some payload ∧
        ∃ sender bank, Chain.host.account? payload.sender = some sender ∧
          Pays (Chain.escrow packet.source) sender payload.denom.ledgerName payload.amount
            before.bank (payload.denom.arrivedOver packet.source) bank ∧
            after = { before with bank } := by
  simp only [refund, Attempt.bind_eq_ok, Attempt.check_eq_ok, Attempt.guard_eq_ok,
    Route.payload_eq_ok, account_eq_ok, Bool.not_eq_true]
  constructor
  · rintro ⟨working, read, middle, ⟨readable, rfl⟩, sender, middle, ⟨found, rfl⟩, went⟩
    cases arrived : read.denom.arrivedOver packet.source with
    | true =>
        rw [if_pos arrived, issue_eq_ok (Chain.escrow packet.source)] at went
        obtain ⟨rfl, bank, pays, rfl⟩ := went
        refine ⟨working, readable, sender, bank, found, ?_, rfl⟩
        rw [arrived]
        exact pays
    | false =>
        rw [if_neg (Bool.eq_false_iff.mp arrived),
          release_eq_ok (Chain.escrow packet.source)] at went
        obtain ⟨rfl, bank, pays, rfl⟩ := went
        refine ⟨working, readable, sender, bank, found, ?_, rfl⟩
        rw [arrived]
        exact pays
  · rintro ⟨working, readable, sender, bank, found, pays, rfl⟩
    refine ⟨working, payload, before, ⟨readable, rfl⟩, sender, before, ⟨found, rfl⟩, ?_⟩
    cases arrived : payload.denom.arrivedOver packet.source with
    | true =>
        rw [arrived] at pays
        rw [if_pos rfl, issue_eq_ok (Chain.escrow packet.source)]
        exact ⟨rfl, bank, pays, rfl⟩
    | false =>
        rw [arrived] at pays
        rw [if_neg Bool.false_ne_true, release_eq_ok (Chain.escrow packet.source)]
        exact ⟨rfl, bank, pays, rfl⟩

theorem release_eq_error {escrow account : Account} {denom : String} {amount : Amount} :
    (do
      move escrow account denom amount
      return payload : Attempt Chain Payload) before = some (.error error, after) ↔
      move escrow account denom amount before = some (.error error, after) := by
  simp only [Attempt.bind_eq_error, Attempt.pure_eq_error, and_false, exists_false, or_false]

theorem issue_eq_error {account : Account} {denom : String} {amount : Amount} :
    (do
      Chain.mint account denom amount
      return payload : Attempt Chain Payload) before = some (.error error, after) ↔ False := by
  simp only [Attempt.bind_eq_error, Attempt.pure_eq_error, Attempt.effect_eq_error, and_false,
    exists_false, or_false]

/-- Why the application does not accept a packet. -/
inductive Refuses (packet : Packet) (before : Chain) : Error → Prop where
  | switchedOff : Refuses packet before (.host "transfer application refused the packet")
  | unreadable : Refuses packet before .unreadablePacket
  | stranger {payload : Payload} (readable : packet.payload? = some payload) :
      Refuses packet before (.unreadableAccount payload.receiver)
  | unnamed : Refuses packet before (.bank (DecodingError.missing "empty base denom").message)
  | unpaid {payload : Payload} {receiver : Account} {coin : Coin} {error : Error}
      (readable : packet.payload? = some payload)
      (arrived : payload.denom.arrivedOver packet.source = true)
      (named : coin.denom.text = (payload.denom.removeHop packet.source).ledgerName)
      (refused : before.bank.send (Chain.escrow packet.destination) receiver coin =
        some (.error error)) :
      Refuses packet before error

theorem receive_refuses (refused : receive switches packet before = some (.error error, after)) :
    Refuses packet before error ∧ after = before := by
  simp only [receive, Attempt.bind_eq_error, Attempt.check_eq_ok, Attempt.check_eq_error,
    Attempt.guard_eq_error, Route.payload_eq_ok, Route.payload_eq_error, account_eq_ok] at refused
  rcases refused with ⟨-, rfl, rfl⟩ | ⟨-, ⟨⟨-, rfl⟩, rfl⟩ | ⟨payload, _, ⟨readable, rfl⟩, rest⟩⟩
  · exact ⟨.switchedOff, rfl⟩
  · exact ⟨.unreadable, rfl⟩
  rcases rest with ⟨stranger, rfl⟩ | ⟨receiver, _, ⟨found, rfl⟩, went⟩
  · obtain ⟨-, rfl⟩ := Host.account_eq_error.mp stranger
    exact ⟨.stranger readable, rfl⟩
  cases arrived : payload.denom.arrivedOver packet.source with
  | true =>
      rw [if_pos arrived, release_eq_error, move_eq_error] at went
      obtain ⟨unnamed | ⟨coin, named, unsent⟩, rfl⟩ := went
      · obtain ⟨-, rfl⟩ := Coin.make_eq_error.mp unnamed
        exact ⟨.unnamed, rfl⟩
      · exact ⟨.unpaid readable arrived (Coin.make_eq_ok.mp named).1 unsent, rfl⟩
  | false =>
      rw [if_neg (Bool.eq_false_iff.mp arrived), issue_eq_error] at went
      contradiction

theorem refund_unchanged (refused : refund switches packet before = some (.error error, after)) :
    after = before := by
  simp only [refund, Attempt.bind_eq_error, Attempt.check_eq_ok, Attempt.check_eq_error,
    Attempt.guard_eq_error] at refused
  rcases refused with ⟨-, -, rfl⟩ | ⟨-, ⟨-, rfl⟩ | ⟨payload, _, ⟨-, rfl⟩, rest⟩⟩
  · rfl
  · rfl
  rcases rest with ⟨-, rfl⟩ | ⟨sender, _, ⟨-, rfl⟩, went⟩
  · rfl
  split at went
  · rw [issue_eq_error] at went
    contradiction
  · rw [release_eq_error, move_eq_error] at went
    exact went.2

/-- What a request to receive comes to. -/
inductive Receives (switches : Switches) (packet : Packet) (before : Chain) :
    Receipt → Chain → Prop where
  | accepted {payload : Payload} {after : Chain}
      (done : receive switches packet before = some (.ok payload, after)) :
      Receives switches packet before
        ⟨⟨[event payload true], []⟩, .ofStatus (.success successValue)⟩ after
  | refused {error : Error} (refuses : Refuses packet before error) :
      Receives switches packet before ⟨.empty, .ofStatus (.failure error.message)⟩ before

theorem receives {delivery : Delivery} {receipt : Receipt}
    (ran : (application switches).receive delivery before = some (receipt, after)) :
    Receives switches delivery.packet before receipt after := by
  simp only [application, Effect.bind_eq_some] at ran
  obtain ⟨outcome, middle, went, answered⟩ := ran
  cases outcome with
  | ok payload =>
      obtain ⟨rfl, rfl⟩ := Effect.pure_eq_some.mp answered
      exact .accepted went
  | error error =>
      obtain ⟨rfl, rfl⟩ := Effect.pure_eq_some.mp answered
      obtain ⟨refuses, rfl⟩ := receive_refuses went
      exact .refused refuses

/-- What a timeout or an error acknowledgement comes to. -/
inductive Settles (switches : Switches) (packet : Packet) (before : Chain) :
    Settlement → Chain → Prop where
  | refunded {payload : Payload} {after : Chain}
      (done : refund switches packet before = some (.ok payload, after)) :
      Settles switches packet before ⟨⟨[event payload false], []⟩, .ok ()⟩ after
  | refused (error : Error) : Settles switches packet before ⟨.empty, .error error⟩ before

theorem settles {settlement : Settlement}
    (ran : settle switches packet before = some (settlement, after)) :
    Settles switches packet before settlement after := by
  simp only [settle, Effect.bind_eq_some] at ran
  obtain ⟨outcome, middle, went, answered⟩ := ran
  cases outcome with
  | ok payload =>
      obtain ⟨rfl, rfl⟩ := Effect.pure_eq_some.mp answered
      exact .refunded went
  | error error =>
      obtain ⟨rfl, rfl⟩ := Effect.pure_eq_some.mp answered
      have same := refund_unchanged went
      subst same
      exact .refused error

theorem settle_of_refund (done : refund switches packet before = some (.ok payload, after)) :
    settle switches packet before = some (⟨⟨[event payload false], []⟩, .ok ()⟩, after) := by
  have ran : (refund switches packet).run before = some (.ok payload, after) := done
  unfold settle
  rw [Effect.bind_run, ran]
  rfl

theorem refund_of_settle {settlement : Settlement}
    (ran : settle switches packet before = some (settlement, after))
    (verdict : settlement.result = .ok ()) (readable : packet.payload? = some payload) :
    refund switches packet before = some (.ok payload, after) := by
  cases settles ran with
  | refused error => contradiction
  | refunded done =>
      have same := (refund_eq_ok.mp done).2.1
      rw [readable, Option.some.injEq] at same
      rw [same]
      exact done

theorem settle_of_error (refused : refund switches packet before = some (.error error, after)) :
    settle switches packet before = some (⟨.empty, .error error⟩, after) := by
  have ran : (refund switches packet).run before = some (.error error, after) := refused
  unfold settle
  rw [Effect.bind_run, ran]
  rfl

theorem Settles.bank {settlement : Settlement}
    (settles : Settles switches packet before settlement after) :
    after = { before with bank := after.bank } := by
  cases settles with
  | refunded done =>
      obtain ⟨-, -, -, bank, -, -, rfl⟩ := refund_eq_ok.mp done
      rfl
  | refused error => rfl

theorem acknowledge_run (delivery : Delivery) (acknowledgement : Acknowledgement) (before : Chain) :
    (application switches).acknowledge (delivery, acknowledgement) before =
      match acknowledgement.status? with
      | some (.failure _) => settle switches delivery.packet before
      | some (.success _) => some (⟨.empty, .ok ()⟩, before)
      | none => some (⟨.empty, .error .unreadableAcknowledgement⟩, before) := by
  simp only [application]
  cases acknowledgement.status? with
  | none => rfl
  | some status => cases status <;> rfl

theorem acknowledge_failure {delivery : Delivery} {acknowledgement : Acknowledgement}
    {message : String} (failed : acknowledgement.status? = some (.failure message)) :
    (application switches).acknowledge (delivery, acknowledgement) =
      settle switches delivery.packet := by
  funext before
  rw [acknowledge_run, failed]

theorem acknowledge_other {delivery : Delivery} {acknowledgement : Acknowledgement}
    {settlement : Settlement} (other : ∀ message, acknowledgement.status? ≠ some (.failure message))
    (ran : (application switches).acknowledge (delivery, acknowledgement) before =
      some (settlement, after)) :
    after = before ∧ ∃ result, settlement = ⟨.empty, result⟩ := by
  rw [acknowledge_run] at ran
  split at ran
  · rename_i message failed
    exact absurd failed (other message)
  · cases ran
    exact ⟨rfl, _, rfl⟩
  · cases ran
    exact ⟨rfl, _, rfl⟩

/-- The sender's coin of an outgoing packet has gone to escrow or has been burned. -/
inductive Takes (packet : Packet) (sender : Account) (coin : Coin) (before : Bank) :
    Bool → Bank → Prop where
  | escrowed {after : Bank}
      (sent : before.send sender (Chain.escrow packet.source) coin = some (.ok after)) :
      Takes packet sender coin before false after
  | burned {after : Bank} (destroyed : before.burn sender coin = .ok after) :
      Takes packet sender coin before true after

theorem take_eq_ok {result : Unit} :
    take packet before = some (.ok result, after) ↔
      ∃ payload sender coin bank, packet.payload? = some payload ∧
        Chain.host.account? payload.sender = some sender ∧
        (coin.denom.text = payload.denom.ledgerName ∧ coin.amount = payload.amount) ∧
        Takes packet sender coin before.bank (payload.denom.arrivedOver packet.source) bank ∧
          after = { before with bank } := by
  simp only [take, Attempt.bind_eq_ok, Attempt.check_eq_ok, Route.payload_eq_ok, account_eq_ok,
    Coin.make_eq_ok]
  constructor
  · rintro ⟨payload, _, ⟨readable, rfl⟩, sender, _, ⟨found, rfl⟩, coin, _, ⟨named, rfl⟩, went⟩
    cases arrived : payload.denom.arrivedOver packet.source with
    | true =>
        rw [if_pos arrived, Chain.burnCoins_eq_ok] at went
        obtain ⟨bank, destroyed, rfl⟩ := went
        exact ⟨payload, sender, coin, bank, readable, found, named,
          arrived ▸ .burned destroyed, rfl⟩
    | false =>
        rw [if_neg (Bool.eq_false_iff.mp arrived), Chain.sendCoins_eq_ok] at went
        obtain ⟨bank, sent, rfl⟩ := went
        exact ⟨payload, sender, coin, bank, readable, found, named, arrived ▸ .escrowed sent, rfl⟩
  · rintro ⟨payload, sender, coin, bank, readable, found, named, takes, rfl⟩
    refine ⟨payload, before, ⟨readable, rfl⟩, sender, before, ⟨found, rfl⟩, coin, before,
      ⟨named, rfl⟩, ?_⟩
    cases arrived : payload.denom.arrivedOver packet.source with
    | true =>
        rw [arrived] at takes
        cases takes with
        | burned destroyed =>
            rw [if_pos rfl, Chain.burnCoins_eq_ok]
            exact ⟨bank, destroyed, rfl⟩
    | false =>
        rw [arrived] at takes
        cases takes with
        | escrowed sent =>
            rw [if_neg Bool.false_ne_true, Chain.sendCoins_eq_ok]
            exact ⟨bank, sent, rfl⟩

theorem take_unchanged (refused : take packet before = some (.error error, after)) :
    after = before := by
  simp only [take, Attempt.bind_eq_error, Attempt.check_eq_ok, Attempt.check_eq_error] at refused
  rcases refused with ⟨-, rfl⟩ | ⟨payload, _, ⟨-, rfl⟩, ⟨-, rfl⟩ | ⟨sender, _, ⟨-, rfl⟩, rest⟩⟩
  · rfl
  · rfl
  rcases rest with ⟨-, rfl⟩ | ⟨coin, _, ⟨-, rfl⟩, went⟩
  · rfl
  split at went
  · exact (Chain.burnCoins_eq_error.mp went).2
  · exact (Chain.sendCoins_eq_error.mp went).2

theorem Takes.others {sender holder : Account} {coin : Coin} {before after : Bank} {burns : Bool}
    (takes : Takes packet sender coin before burns after) (different : holder ≠ sender)
    (name : String) :
    before.units holder name ≤ after.units holder name := by
  cases takes with
  | escrowed sent => exact (Bank.send_sent sent).posted.le (Bank.share_of_ne different _) name
  | burned destroyed =>
      have posted := Bank.debit_posted (Bank.burn_eq_ok.mp destroyed).2
      exact posted.le (Bank.share_of_ne different _) name

theorem Takes.frozen {sender : Account} {coin : Coin} {before after : Bank} {burns : Bool}
    (takes : Takes packet sender coin before burns after) : after.frozen = before.frozen := by
  cases takes with
  | escrowed sent => exact (Bank.send_sent sent).posted.frozen
  | burned destroyed => exact (Bank.debit_posted (Bank.burn_eq_ok.mp destroyed).2).frozen

theorem Takes.bystander {sender holder : Account} {coin : Coin} {before after : Bank} {burns : Bool}
    (takes : Takes packet sender coin before burns after) (notSender : holder ≠ sender)
    (notEscrow : holder ≠ Chain.escrow packet.source) (name : String) :
    after.units holder name = before.units holder name := by
  cases takes with
  | escrowed sent =>
      have posted := (Bank.send_sent sent).posted
      exact posted.same (Bank.share_of_ne notSender _) (Bank.share_of_ne notEscrow _) name
  | burned destroyed =>
      have posted := Bank.debit_posted (Bank.burn_eq_ok.mp destroyed).2
      exact posted.same (Bank.share_of_ne notSender _) rfl name

theorem Takes.paid_back {sender : Account} {coin : Coin} {before after : Bank} {burns : Bool}
    (takes : Takes packet sender coin before burns after)
    (different : sender ≠ Chain.escrow packet.source)
    (payable : burns = true ∨ Chain.escrow packet.source ∉ before.frozen) :
    ∃ restored,
      Pays (Chain.escrow packet.source) sender coin.denom.text coin.amount after burns restored ∧
      Bank.Restores before restored := by
  cases takes with
  | escrowed sent =>
      have free := payable.resolve_left Bool.false_ne_true
      obtain ⟨restored, back⟩ := Bank.send_back_eq_ok sent free different
      exact ⟨restored, .released rfl rfl back, Bank.send_back_restores sent back⟩
  | burned destroyed =>
      obtain ⟨restored, minted, restores⟩ := Bank.mint?_of_debit (Bank.burn_eq_ok.mp destroyed).2
      exact ⟨restored, .minted minted, restores⟩

/-- When the application can pay back what a packet took. -/
def Repayable (switches : Switches) (packet : Packet) (payload : Payload) (bank : Bank) : Prop :=
  switches.refundsFail = false ∧
    (payload.denom.arrivedOver packet.source = true ∨ Chain.escrow packet.source ∉ bank.frozen)

theorem refund_switched_off (broken : switches.refundsFail = true) :
    ∃ error, refund switches packet before = some (.error error, before) := by
  unfold refund
  exact ⟨_, Attempt.guard_eq_error.mpr (.inl ⟨broken, rfl, rfl⟩)⟩

theorem refund_escrow_frozen {sender : Account} {coin : Coin}
    (working : switches.refundsFail = false) (readable : packet.payload? = some payload)
    (found : Chain.host.account? payload.sender = some sender)
    (departed : payload.denom.arrivedOver packet.source = false)
    (named : coin.denom.text = payload.denom.ledgerName ∧ coin.amount = payload.amount)
    (frozen : Chain.escrow packet.source ∈ before.bank.frozen) :
    ∃ error, refund switches packet before = some (.error error, before) := by
  have refused := Bank.send_frozen frozen sender coin
  refine ⟨Bank.frozenError (Chain.escrow packet.source), ?_⟩
  simp only [refund, Attempt.guard_eq_error, Attempt.bind_eq_error, Attempt.check_eq_ok,
    Route.payload_eq_ok, account_eq_ok]
  refine .inr
    ⟨by simp [working], .inr
      ⟨payload, before, ⟨readable, rfl⟩, .inr ⟨sender, before, ⟨found, rfl⟩, ?_⟩⟩⟩
  rw [if_neg (Bool.eq_false_iff.mp departed), release_eq_error, move_eq_error]
  exact ⟨.inr ⟨coin, Coin.make_eq_ok.mpr named, refused⟩, rfl⟩

theorem refund_of_take {middle later : Chain} (taken : take packet before = some (.ok (), middle))
    (same : later.bank = middle.bank) (readable : packet.payload? = some payload) :
    (Repayable switches packet payload before.bank → ∃ restored,
      refund switches packet later = some (.ok payload, { later with bank := restored }) ∧
        Bank.Restores before.bank restored) ∧
    (¬ Repayable switches packet payload before.bank → ∃ error,
      refund switches packet later = some (.error error, later)) := by
  obtain ⟨other, sender, coin, bank, read, found, named, takes, rfl⟩ := take_eq_ok.mp taken
  rw [readable, Option.some.injEq] at read
  subst read
  have frozen : bank.frozen = before.bank.frozen := takes.frozen
  constructor
  · rintro ⟨working, payable⟩
    have different := Ne.symm (Chain.escrow_ne_account found packet.source)
    obtain ⟨restored, pays, restores⟩ := takes.paid_back different payable
    rw [named.1, named.2] at pays
    refine ⟨restored, refund_eq_ok.mpr
      ⟨working, readable, sender, restored, found, ?_, rfl⟩, restores⟩
    rw [same]
    exact pays
  · intro unpayable
    cases working : switches.refundsFail with
    | true => exact refund_switched_off working
    | false =>
        have unpaid := not_or.mp fun payable => unpayable ⟨working, payable⟩
        apply refund_escrow_frozen working readable found (Bool.eq_false_iff.mpr unpaid.1) named
        rw [same, frozen]
        exact not_not.mp unpaid.2

end Transfer

end VoucherSwap
