import VoucherSwap.Sample
import VoucherSwap.Proofs.Bank
import VoucherSwap.Proofs.Route

/-!
What the capabilities of a chain in memory do to it. Moving coins changes the bank alone and
counting changes the totals alone; whatever fails leaves the chain as it was.
-/

namespace VoucherSwap

namespace Account

theorem ofAddress?_eq_some {address : String} {account : Account}
    (found : ofAddress? address = some account) :
    account.address = address ∧ ∀ c ∈ address.toList, c.isAlphanum = true := by
  unfold ofAddress? at found
  split at found
  · rename_i valid
    cases found
    rw [Bool.and_eq_true, List.all_eq_true] at valid
    exact ⟨rfl, valid.2⟩
  · contradiction

theorem ext_address {first second : Account} (same : first.address = second.address) :
    first = second := by
  cases first
  cases second
  subst same
  rfl

end Account

namespace Totals

theorem recordIn_eq_ok {before after : Totals} {amount : Amount} :
    before.recordIn amount = .ok after ↔
      after.transferredIn.units = before.transferredIn.units + amount.units ∧
        after.transferredOut = before.transferredOut := by
  unfold recordIn
  cases sum : before.transferredIn.add? amount with
  | none =>
      simp only [reduceCtorEq, false_iff, not_and]
      intro even
      rw [Amount.add?_eq_some.mpr even] at sum
      contradiction
  | some total =>
      have even := Amount.add?_eq_some.mp sum
      simp only [Except.ok.injEq]
      constructor
      · rintro rfl
        exact ⟨even, rfl⟩
      · rintro ⟨units, kept⟩
        cases after
        dsimp only at units kept
        rw [Totals.mk.injEq]
        exact ⟨Amount.ext_units (by omega), kept.symm⟩

theorem recordIn_eq_error {totals : Totals} {amount : Amount} {error : Error} :
    totals.recordIn amount = .error error ↔
      Amount.bound ≤ totals.transferredIn.units + amount.units ∧ error = .totalsOverflow := by
  unfold recordIn
  cases sum : totals.transferredIn.add? amount with
  | none =>
      have tooLarge := Amount.ofNat_eq_none.mp sum
      simp [tooLarge, eq_comm]
  | some total =>
      have even := Amount.add?_eq_some.mp sum
      have fits := total.fits
      simp only [reduceCtorEq, false_iff, not_and]
      omega

theorem recordOut_eq_ok {before after : Totals} {amount : Amount} :
    before.recordOut amount = .ok after ↔
      after.transferredOut.units = before.transferredOut.units + amount.units ∧
        after.transferredIn = before.transferredIn := by
  unfold recordOut
  cases sum : before.transferredOut.add? amount with
  | none =>
      simp only [reduceCtorEq, false_iff, not_and]
      intro even
      rw [Amount.add?_eq_some.mpr even] at sum
      contradiction
  | some total =>
      have even := Amount.add?_eq_some.mp sum
      simp only [Except.ok.injEq]
      constructor
      · rintro rfl
        exact ⟨even, rfl⟩
      · rintro ⟨units, kept⟩
        cases after
        dsimp only at units kept
        rw [Totals.mk.injEq]
        exact ⟨kept.symm, Amount.ext_units (by omega)⟩

theorem recordOut_eq_error {totals : Totals} {amount : Amount} {error : Error} :
    totals.recordOut amount = .error error ↔
      Amount.bound ≤ totals.transferredOut.units + amount.units ∧ error = .totalsOverflow := by
  unfold recordOut
  cases sum : totals.transferredOut.add? amount with
  | none =>
      have tooLarge := Amount.ofNat_eq_none.mp sum
      simp [tooLarge, eq_comm]
  | some total =>
      have even := Amount.add?_eq_some.mp sum
      have fits := total.fits
      simp only [reduceCtorEq, false_iff, not_and]
      omega

end Totals

namespace Chain

variable {before after : Chain} {error : Error}

-- The reserve has an address as packets have it; escrow accounts have a slash in theirs.
theorem escrow_ne_account {address : String} {account : Account}
    (found : host.account? address = some account) (endpoint : Endpoint) :
    escrow endpoint ≠ account := by
  rintro rfl
  obtain ⟨name, letters⟩ := Account.ofAddress?_eq_some found
  have slash : '/' ∈ address.toList := by
    rw [← name]
    simp [escrow, toString]
  exact absurd (letters '/' slash) (by decide)

theorem escrow_ne_reserve (endpoint : Endpoint) : escrow endpoint ≠ reserve := by
  have found : host.account? reserve.address = some reserve := by decide
  exact escrow_ne_account found endpoint

theorem account_address {address : String} {account : Account}
    (found : host.account? address = some account) : account.address = address :=
  (Account.ofAddress?_eq_some found).1

theorem account_eq {address : String} {account : Account}
    (found : host.account? address = some account) :
    account = ⟨address⟩ :=
  Account.ext_address (account_address found)

theorem account_named {address : String} {account : Account}
    (found : host.account? address = some account) :
    address ≠ "" := by
  rintro rfl
  exact absurd found (by simp [host, Account.ofAddress?])

theorem account_ne_reserve {address : String} {account : Account}
    (found : host.account? address = some account) (other : address ≠ reserve.address) :
    account ≠ reserve := by
  rintro rfl
  exact other (account_address found).symm

theorem sendCoins_eq_error {sender receiver : Account} {coin : Coin} :
    sendCoins sender receiver coin before = some (.error error, after) ↔
      before.bank.send sender receiver coin = some (.error error) ∧ after = before := by
  unfold sendCoins
  cases before.bank.send sender receiver coin with
  | none => simp
  | some result => cases result <;> simp [eq_comm]

theorem sendCoins_eq_ok {sender receiver : Account} {coin : Coin} {result : Unit} :
    sendCoins sender receiver coin before = some (.ok result, after) ↔
      ∃ bank, before.bank.send sender receiver coin = some (.ok bank) ∧
        after = { before with bank } := by
  unfold sendCoins
  cases before.bank.send sender receiver coin with
  | none => simp
  | some result => cases result <;> simp [eq_comm]

theorem burnCoins_eq_error {account : Account} {coin : Coin} :
    burnCoins account coin before = some (.error error, after) ↔
      before.bank.burn account coin = .error error ∧ after = before := by
  unfold burnCoins
  cases before.bank.burn account coin <;> simp [eq_comm]

theorem burnCoins_eq_ok {account : Account} {coin : Coin} {result : Unit} :
    burnCoins account coin before = some (.ok result, after) ↔
      ∃ bank, before.bank.burn account coin = .ok bank ∧ after = { before with bank } := by
  unfold burnCoins
  cases before.bank.burn account coin <;> simp [eq_comm]

theorem mint_eq_some {account : Account} {denom : String} {amount : Amount} {result : Unit} :
    mint account denom amount before = some (result, after) ↔
      ∃ bank, before.bank.mint? account denom amount = some bank ∧
        after = { before with bank } := by
  unfold mint
  cases before.bank.mint? account denom amount <;> simp [eq_comm]

theorem holds_iff {chain : Chain} {account : Account} {coin : Coin} :
    host.holds chain account coin = true ↔
      coin.amount.units ≤ chain.bank.units account coin.denom.text := by
  show decide (coin.amount ≤ chain.bank.balance account coin.denom.text) = true ↔ _
  rw [decide_eq_true_iff]
  rfl

theorem lock_run (holder : Account) (coin : Coin) (before : Chain) :
    Reserve.lock host holder coin before = sendCoins holder reserve coin before := rfl

theorem unlock_run (holder : Account) (coin : Coin) (before : Chain) :
    Reserve.unlock host holder coin before = sendCoins reserve holder coin before := rfl

-- Both totals are counted in the same way, so these two are about any change of them.
theorem count_eq_error (change : Totals → Except Error Totals) :
    (do
      let totals ← host.totals (← get)
      host.storeTotals (← change totals) : Attempt Chain Unit) before = some (.error error, after) ↔
      change before.totals = .error error ∧ after = before := by
  rw [Attempt.get_bind]
  simp only [Attempt.bind_eq_error, Attempt.check_eq_error, Attempt.check_eq_ok]
  constructor
  · rintro (⟨unread, -⟩ | ⟨totals, middle, ⟨read, rfl⟩,
      ⟨failed, rfl⟩ | ⟨changed, middle, -, stored⟩⟩)
    · cases unread
    · cases read
      exact ⟨failed, rfl⟩
    · cases stored
  · rintro ⟨failed, rfl⟩
    exact .inr ⟨_, _, ⟨rfl, rfl⟩, .inl ⟨failed, rfl⟩⟩

theorem count_eq_ok (change : Totals → Except Error Totals) {result : Unit} :
    (do
      let totals ← host.totals (← get)
      host.storeTotals (← change totals) : Attempt Chain Unit) before = some (.ok result, after) ↔
      ∃ totals, change before.totals = .ok totals ∧ after = { before with totals } := by
  rw [Attempt.get_bind]
  simp only [Attempt.bind_eq_ok, Attempt.check_eq_ok]
  constructor
  · rintro ⟨totals, middle, ⟨read, rfl⟩, changed, last, ⟨passed, rfl⟩, stored⟩
    cases read
    cases stored
    exact ⟨changed, passed, rfl⟩
  · rintro ⟨totals, passed, rfl⟩
    exact ⟨_, _, ⟨rfl, rfl⟩, totals, _, ⟨passed, rfl⟩, rfl⟩

theorem recordIn_eq_error {amount : Amount} :
    Reserve.recordIn host amount before = some (.error error, after) ↔
      before.totals.recordIn amount = .error error ∧ after = before :=
  count_eq_error (fun totals => totals.recordIn amount)

theorem recordIn_eq_ok {amount : Amount} {result : Unit} :
    Reserve.recordIn host amount before = some (.ok result, after) ↔
      ∃ totals, before.totals.recordIn amount = .ok totals ∧ after = { before with totals } :=
  count_eq_ok (fun totals => totals.recordIn amount)

theorem recordOut_eq_error {amount : Amount} :
    Reserve.recordOut host amount before = some (.error error, after) ↔
      before.totals.recordOut amount = .error error ∧ after = before :=
  count_eq_error (fun totals => totals.recordOut amount)

theorem recordOut_eq_ok {amount : Amount} {result : Unit} :
    Reserve.recordOut host amount before = some (.ok result, after) ↔
      ∃ totals, before.totals.recordOut amount = .ok totals ∧ after = { before with totals } :=
  count_eq_ok (fun totals => totals.recordOut amount)

theorem releaseOut_run (amount : Amount) (before : Chain) :
    Reserve.releaseOut host amount before =
      some (.ok (), { before with totals := before.totals.releaseOut amount }) := rfl

end Chain

def Sample.openChain : Chain :=
  { Chain.bare settings nativeDenom with
    channels := Registry.empty.insert nativeEnd
      ⟨.open, counterpartyEnd.port, some counterpartyEnd.channel, [Chain.firstConnection]⟩
    connections := Registry.empty.insert Chain.firstConnection
      ⟨⟨"07-tendermint-0", by rfl⟩, ⟨"07-tendermint-3", by rfl⟩⟩ }

end VoucherSwap
