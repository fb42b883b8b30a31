import Mathlib.Algebra.GroupWithZero.Nat
import VoucherSwap.Proofs.Chain

/-!
What a few operations of a bank come to together, as a list of moves: each takes units of one token
from one account and gives them to another, or to nobody. Balances that are not named by a move are
what they were. A swap is two moves, and where it stops is read off the accounts that are frozen.
-/

namespace VoucherSwap

/-- Units of a token that an account pays. Those that nobody receives are burned. -/
structure Move where
  payer : Account
  payee : Option Account
  denom : String
  units : Nat

namespace Move

def paid (move : Move) (account : Account) (name : String) : Nat :=
  if name = move.denom then Bank.share move.payer move.units account else 0

def received (move : Move) (account : Account) (name : String) : Nat :=
  if name = move.denom then move.payee.elim 0 (Bank.share · move.units account) else 0

def lock (holder : Account) (denom : String) (units : Nat) : Move :=
  ⟨holder, some Chain.reserve, denom, units⟩

def pay (holder : Account) (denom : String) (units : Nat) : Move :=
  ⟨Chain.reserve, some holder, denom, units⟩

end Move

namespace Bank

/-- Two banks that differ by these moves and by nothing else. -/
structure Transferred (before after : Bank) (moves : List Move) : Prop where
  frozen : after.frozen = before.frozen
  burnsFail : after.burnsFail = before.burnsFail
  units : ∀ account name,
    after.units account name + (moves.map fun move => move.paid account name).sum =
      before.units account name + (moves.map fun move => move.received account name).sum

theorem Transferred.refl (bank : Bank) : Transferred bank bank [] := ⟨rfl, rfl, fun _ _ => rfl⟩

theorem Transferred.append {first second third : Bank} {moves others : List Move}
    (one : Transferred first second moves) (two : Transferred second third others) :
    Transferred first third (moves ++ others) where
  frozen := two.frozen.trans one.frozen
  burnsFail := two.burnsFail.trans one.burnsFail
  units := by
    intro account name
    have early := one.units account name
    have late := two.units account name
    simp only [List.map_append, List.sum_append_nat]
    omega

theorem Posted.transferred {before after : Bank} {denom : String} {payer : Account}
    {payee : Option Account} {units : Nat}
    (posted : Posted before after denom (share payer units) fun account =>
      payee.elim 0 (share · units account)) :
    Transferred before after [⟨payer, payee, denom, units⟩] where
  frozen := posted.frozen
  burnsFail := posted.burnsFail
  units := by
    intro account name
    by_cases same : name = denom
    · subst same
      simpa [Move.paid, Move.received] using posted.entry account
    · simpa [Move.paid, Move.received, same] using posted.others account name same

theorem transferred_send {before after : Bank} {sender receiver : Account} {coin : Coin}
    (sent : before.send sender receiver coin = some (.ok after)) :
    Transferred before after [⟨sender, some receiver, coin.denom.text, coin.amount.units⟩] :=
  (send_sent sent).posted.transferred

theorem transferred_burn {before after : Bank} {account : Account} {coin : Coin}
    (burned : before.burn account coin = .ok after) :
    Transferred before after [⟨account, none, coin.denom.text, coin.amount.units⟩] :=
  (debit_posted (burn_eq_ok.mp burned).2).transferred

theorem Transferred.through {before after : Bank} {payer middle : Account} {payee : Option Account}
    {denom : String} {units : Nat} {others : List Move}
    (moved : Transferred before after
      (⟨payer, some middle, denom, units⟩ :: ⟨middle, payee, denom, units⟩ :: others)) :
    Transferred before after (⟨payer, payee, denom, units⟩ :: others) where
  frozen := moved.frozen
  burnsFail := moved.burnsFail
  units := by
    intro account name
    have even := moved.units account name
    simp only [List.map_cons, List.sum_cons, Move.paid, Move.received, Option.elim_some] at even ⊢
    by_cases same : name = denom
    · simp only [same, if_true] at even ⊢
      omega
    · simpa only [same, if_false, Nat.zero_add] using even

theorem Transferred.idle {before after : Bank} {account : Account} {denom : String} {units : Nat}
    {others : List Move}
    (moved : Transferred before after (⟨account, some account, denom, units⟩ :: others)) :
    Transferred before after others where
  frozen := moved.frozen
  burnsFail := moved.burnsFail
  units := by
    intro holder name
    have even := moved.units holder name
    simp only [List.map_cons, List.sum_cons, Move.paid, Move.received, Option.elim_some] at even ⊢
    omega

theorem send_self_eq_ok {bank : Bank} {account : Account} {coin : Coin}
    (free : account ∉ bank.frozen)
    (covered : coin.amount.units ≤ bank.units account coin.denom.text) :
    ∃ after, bank.send account account coin = some (.ok after) := by
  obtain ⟨spent, debited⟩ := debit_eq_ok_of_le covered
  obtain ⟨after, minted, -⟩ := mint?_of_debit debited
  exact ⟨after, by simp [send, free, debited, minted]⟩

theorem send_returned {first second : Bank} {sender receiver : Account} {coin : Coin}
    (sent : first.send sender receiver coin = some (.ok second)) (free : receiver ∉ first.frozen) :
    ∃ third, second.send receiver sender coin = some (.ok third) := by
  by_cases same : sender = receiver
  · subst same
    have posted := (send_sent sent).posted
    have covered := (send_sent sent).covered
    rw [← posted.even] at covered
    rw [← posted.frozen] at free
    exact send_self_eq_ok free covered
  · exact send_back_eq_ok sent free same

section

variable {before after : Bank} {holder : Account} {voucher native : String} {taken given : Nat}
  (other : holder ≠ Chain.reserve) (foreign : native ≠ voucher)
include other

theorem Transferred.locked (moved : Transferred before after [.lock holder voucher taken]) :
    after.units holder voucher + taken = before.units holder voucher ∧
      ∀ name, name ≠ voucher → after.units holder name = before.units holder name := by
  constructor
  · simpa [Move.paid, Move.received, Move.lock, share_of_ne other] using moved.units holder voucher
  · intro name different
    simpa [Move.paid, Move.received, Move.lock, different] using moved.units holder name

include foreign

theorem Transferred.exchanged
    (moved : Transferred before after [.lock holder voucher taken, .pay holder native given]) :
    after.units holder voucher + taken = before.units holder voucher ∧
      after.units holder native = before.units holder native + given := by
  constructor
  · simpa [Move.paid, Move.received, Move.lock, Move.pay, share_of_ne other, Ne.symm foreign] using
      moved.units holder voucher
  · simpa [Move.paid, Move.received, Move.lock, Move.pay, share_of_ne other,
      foreign] using moved.units holder native

end

/-- The holder can pay a voucher into the reserve, which has the native coin for it. -/
structure Exchangeable (bank : Bank) (holder : Account) (voucher native : Coin) : Prop where
  foreign : native.denom.text ≠ voucher.denom.text
  free : holder ∉ bank.frozen
  holderHolds : voucher.amount.units ≤ bank.units holder voucher.denom.text
  reserveHolds : native.amount.units ≤ bank.units Chain.reserve native.denom.text
  room : bank.units Chain.reserve voucher.denom.text + voucher.amount.units < Amount.bound
  nativeRoom : Chain.reserve ∉ bank.frozen →
    native.amount.units + bank.units holder native.denom.text < Amount.bound

section

variable {bank : Bank} {holder : Account} {voucher native : Coin}
  (exchangeable : bank.Exchangeable holder voucher native)
include exchangeable

theorem Exchangeable.stranded (frozen : Chain.reserve ∈ bank.frozen) :
    ∃ locked error, bank.send holder Chain.reserve voucher = some (.ok locked) ∧
      locked.send Chain.reserve holder native = some (.error error) ∧
        Transferred bank locked [.lock holder voucher.denom.text voucher.amount.units] := by
  obtain ⟨locked, taken⟩ := send_eq_ok exchangeable.free exchangeable.holderHolds exchangeable.room
  have moved := transferred_send taken
  rw [← moved.frozen] at frozen
  exact ⟨locked, _, taken, send_frozen frozen holder native, moved⟩

theorem Exchangeable.exchanged (free : Chain.reserve ∉ bank.frozen) :
    ∃ locked paid, bank.send holder Chain.reserve voucher = some (.ok locked) ∧
      locked.send Chain.reserve holder native = some (.ok paid) ∧
        Transferred bank paid [.lock holder voucher.denom.text voucher.amount.units,
          .pay holder native.denom.text native.amount.units] := by
  obtain ⟨locked, taken⟩ := send_eq_ok exchangeable.free exchangeable.holderHolds exchangeable.room
  have moved := transferred_send taken
  have others := send_others taken (Ne.symm exchangeable.foreign)
  have reserveHolds := exchangeable.reserveHolds
  have room := exchangeable.nativeRoom free
  rw [← moved.frozen] at free
  rw [← others] at room reserveHolds
  obtain ⟨paid, given⟩ := send_eq_ok free reserveHolds (Nat.add_comm _ _ ▸ room)
  exact ⟨locked, paid, taken, given, moved.append (transferred_send given)⟩

end

end Bank

end VoucherSwap
