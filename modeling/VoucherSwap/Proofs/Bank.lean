import VoucherSwap.Chain
import VoucherSwap.Proofs.Precision

/-!
What the operations of a bank do to its balances. Each of them posts one entry: in one denomination,
one account pays and another receives, and minting and burning lack one of the two sides. An account
that pays itself ends where it began, so what is paid and what is received are kept apart.
-/

namespace VoucherSwap

namespace Bank

/-- An amount for one account and nothing for the others. -/
def share (holder : Account) (amount : Nat) (account : Account) : Nat :=
  if account = holder then amount else 0

def nothing (_ : Account) : Nat := 0

def units (bank : Bank) (account : Account) (denom : String) : Nat :=
  (bank.balance account denom).units

/-- Two banks differ by one entry. -/
structure Posted (before after : Bank) (denom : String) (paid received : Account → Nat) : Prop where
  frozen : after.frozen = before.frozen
  burnsFail : after.burnsFail = before.burnsFail
  entry : ∀ account, after.units account denom + paid account =
    before.units account denom + received account
  others : ∀ account name, name ≠ denom → after.units account name = before.units account name

@[simp] theorem share_self (holder : Account) (amount : Nat) :
    share holder amount holder = amount := by
  simp [share]

theorem share_of_ne {holder account : Account} (different : account ≠ holder) (amount : Nat) :
    share holder amount account = 0 := by
  simp [share, different]

theorem share_add (holder account : Account) (first second : Nat) :
    share holder (first + second) account =
      share holder first account + share holder second account := by
  unfold share
  split <;> rfl

theorem balance_setBalance (bank : Bank) (holder account : Account) (denom name : String)
    (amount : Amount) :
    (bank.setBalance holder denom amount).balance account name =
      if account = holder ∧ name = denom then amount else bank.balance account name := by
  by_cases same : account = holder ∧ name = denom
  · obtain ⟨rfl, rfl⟩ := same
    simp [balance, setBalance]
  · have different : (account, name) ≠ (holder, denom) := by
      intro equal
      exact same (Prod.mk.inj equal)
    simp only [same, ↓reduceIte]
    unfold balance setBalance
    rw [Registry.find?_insert_of_ne _ different]

theorem posted_setBalance {bank : Bank} {holder : Account} {denom : String} {amount : Amount}
    {paid received : Nat} (even : amount.units + paid = bank.units holder denom + received) :
    Posted bank (bank.setBalance holder denom amount) denom (share holder paid)
      (share holder received) where
  frozen := rfl
  burnsFail := rfl
  entry := by
    intro account
    simp only [units, balance_setBalance, and_true]
    by_cases same : account = holder
    · subst same
      simpa [units] using even
    · simp [share, same]
  others := by
    intro account name different
    simp [units, balance_setBalance, different]

theorem Posted.trans {first second third : Bank} {denom : String}
    {paid received paid' received' : Account → Nat} (one : Posted first second denom paid received)
    (two : Posted second third denom paid' received') :
    Posted first third denom (fun account => paid account + paid' account)
      (fun account => received account + received' account) where
  frozen := two.frozen.trans one.frozen
  burnsFail := two.burnsFail.trans one.burnsFail
  entry := by
    intro account
    have before := one.entry account
    have after := two.entry account
    omega
  others := by
    intro account name different
    exact (two.others account name different).trans (one.others account name different)

theorem Posted.le {before after : Bank} {denom : String} {paid received : Account → Nat}
    (posted : Posted before after denom paid received) {account : Account} (free : paid account = 0)
    (name : String) : before.units account name ≤ after.units account name := by
  by_cases same : name = denom
  · subst same
    have entry := posted.entry account
    omega
  · exact Nat.le_of_eq (posted.others account name same).symm

theorem Posted.ge {before after : Bank} {denom : String} {paid received : Account → Nat}
    (posted : Posted before after denom paid received) {account : Account}
    (unpaid : received account = 0) (name : String) :
    after.units account name ≤ before.units account name := by
  by_cases same : name = denom
  · subst same
    have entry := posted.entry account
    omega
  · exact Nat.le_of_eq (posted.others account name same)

theorem Posted.same {before after : Bank} {denom : String} {paid received : Account → Nat}
    (posted : Posted before after denom paid received) {account : Account}
    (unpaying : paid account = 0) (unpaid : received account = 0) (name : String) :
    after.units account name = before.units account name :=
  Nat.le_antisymm (posted.ge unpaid name) (posted.le unpaying name)

theorem Posted.even {before after : Bank} {denom : String} {paid : Account → Nat}
    (posted : Posted before after denom paid paid) (account : Account) (name : String) :
    after.units account name = before.units account name := by
  by_cases same : name = denom
  · subst same
    have entry := posted.entry account
    omega
  · exact posted.others account name same

theorem mint?_posted {before after : Bank} {account : Account} {denom : String} {amount : Amount}
    (minted : before.mint? account denom amount = some after) :
    Posted before after denom nothing (share account amount.units) := by
  unfold mint? at minted
  cases sum : (before.balance account denom).add? amount with
  | none => simp [sum] at minted
  | some total =>
      simp only [sum, Option.bind_eq_bind, Option.bind_some, Option.pure_def,
        Option.some.injEq] at minted
      subst minted
      have even : total.units + 0 = before.units account denom + amount.units :=
        Amount.add?_eq_some.mp sum
      have posted := posted_setBalance even
      have nobody : share account 0 = nothing := by
        funext other
        simp [share, nothing]
      rwa [nobody] at posted

theorem mint?_eq_some_of_lt {bank : Bank} {account : Account} {denom : String} {amount : Amount}
    (room : bank.units account denom + amount.units < Amount.bound) :
    ∃ after, bank.mint? account denom amount = some after := by
  have sum : (bank.balance account denom).add? amount = some ⟨_, room⟩ := by
    rw [Amount.add?_eq_some]
    rfl
  exact ⟨_, by simp only [mint?, sum]; rfl⟩

theorem debit_eq_ok {before after : Bank} {account : Account} {coin : Coin} :
    before.debit account coin = .ok after ↔
      coin.amount.units ≤ before.units account coin.denom.text ∧
        ∃ rest : Amount, rest.units + coin.amount.units = before.units account coin.denom.text ∧
          after = before.setBalance account coin.denom.text rest := by
  unfold debit units
  cases covered : (before.balance account coin.denom.text).sub? coin.amount with
  | none =>
      have short : ¬ coin.amount.units ≤ (before.balance account coin.denom.text).units := by
        intro enough
        have found : (before.balance account coin.denom.text).sub? coin.amount =
            some ((before.balance account coin.denom.text).monus coin.amount) :=
          Amount.sub?_eq_some.mpr ⟨enough, rfl⟩
        rw [covered] at found
        contradiction
      simp [covered, short]
  | some rest =>
      obtain ⟨enough, left⟩ := Amount.sub?_eq_some.mp covered
      simp only [covered, Except.ok.injEq, enough, true_and]
      constructor
      · rintro rfl
        exact ⟨rest, by omega, rfl⟩
      · rintro ⟨other, even, rfl⟩
        have same : rest = other := Amount.ext_units (by omega)
        rw [same]

theorem debit_eq_ok_of_le {bank : Bank} {account : Account} {coin : Coin}
    (covered : coin.amount.units ≤ bank.units account coin.denom.text) :
    ∃ after, bank.debit account coin = .ok after := by
  have even : ((bank.balance account coin.denom.text).monus coin.amount).units + coin.amount.units =
      bank.units account coin.denom.text := Nat.sub_add_cancel covered
  exact ⟨_, debit_eq_ok.mpr ⟨covered, _, even, rfl⟩⟩

theorem debit_posted {before after : Bank} {account : Account} {coin : Coin}
    (debited : before.debit account coin = .ok after) :
    Posted before after coin.denom.text (share account coin.amount.units) nothing := by
  obtain ⟨-, rest, even, rfl⟩ := debit_eq_ok.mp debited
  have spent : rest.units + coin.amount.units = before.units account coin.denom.text + 0 := even
  have posted := posted_setBalance spent
  have nobody : share account 0 = nothing := by
    funext other
    simp [share, nothing]
  rwa [nobody] at posted

/-- A coin that was sent: who paid had it and was free to send. -/
structure Sent (before after : Bank) (sender receiver : Account) (coin : Coin) : Prop where
  free : sender ∉ before.frozen
  covered : coin.amount.units ≤ before.units sender coin.denom.text
  posted : Posted before after coin.denom.text (share sender coin.amount.units)
    (share receiver coin.amount.units)

theorem send_sent {before after : Bank} {sender receiver : Account} {coin : Coin}
    (sent : before.send sender receiver coin = some (.ok after)) :
    Sent before after sender receiver coin := by
  unfold send at sent
  by_cases frozen : sender ∈ before.frozen
  · simp [frozen] at sent
  · simp only [frozen, ↓reduceIte] at sent
    cases debited : before.debit sender coin with
    | error cause => simp [debited] at sent
    | ok middle =>
        simp only [debited, Option.map_eq_some_iff, Except.ok.injEq, exists_eq_right] at sent
        have both := (debit_posted debited).trans (mint?_posted sent)
        simp only [nothing, Nat.add_zero, Nat.zero_add] at both
        exact ⟨frozen, (debit_eq_ok.mp debited).1, both⟩

theorem send_others {sender receiver : Account} {coin : Coin} {before after : Bank} {name : String}
    (sent : before.send sender receiver coin = some (.ok after)) (other : coin.denom.text ≠ name)
    (account : Account) : after.units account name = before.units account name :=
  (send_sent sent).posted.others account name (Ne.symm other)

theorem send_eq_ok {bank : Bank} {sender receiver : Account} {coin : Coin}
    (free : sender ∉ bank.frozen) (covered : coin.amount.units ≤ bank.units sender coin.denom.text)
    (room : bank.units receiver coin.denom.text + coin.amount.units < Amount.bound) :
    ∃ after, bank.send sender receiver coin = some (.ok after) := by
  obtain ⟨debitedBank, debited⟩ := debit_eq_ok_of_le covered
  have entry := (debit_posted debited).entry receiver
  have smaller : debitedBank.units receiver coin.denom.text + coin.amount.units < Amount.bound := by
    simp only [nothing] at entry
    omega
  obtain ⟨after, minted⟩ := mint?_eq_some_of_lt smaller
  exact ⟨after, by simp [send, free, debited, minted]⟩

/-- Two banks with the same balances, in which the same accounts are frozen. -/
structure Restores (before after : Bank) : Prop where
  frozen : after.frozen = before.frozen
  units : ∀ account name, after.units account name = before.units account name

theorem Restores.symm {before after : Bank} (restores : Restores before after) :
    Restores after before :=
  ⟨restores.frozen.symm, fun account name => (restores.units account name).symm⟩

theorem send_frozen {bank : Bank} {sender : Account} (frozen : sender ∈ bank.frozen)
    (receiver : Account) (coin : Coin) :
    bank.send sender receiver coin = some (.error (frozenError sender)) := by
  rw [send, if_pos frozen]

theorem mint?_of_debit {before after : Bank} {account : Account} {coin : Coin}
    (debited : before.debit account coin = .ok after) :
    ∃ restored, after.mint? account coin.denom.text coin.amount = some restored ∧
      Restores before restored := by
  have spent := debit_posted debited
  have left := spent.entry account
  have fits : before.units account coin.denom.text < Amount.bound :=
    (before.balance account coin.denom.text).fits
  have room : after.units account coin.denom.text + coin.amount.units < Amount.bound := by
    simp only [share_self, nothing] at left
    omega
  obtain ⟨restored, minted⟩ := mint?_eq_some_of_lt room
  have both := spent.trans (mint?_posted minted)
  simp only [nothing, Nat.add_zero, Nat.zero_add] at both
  exact ⟨restored, minted, both.frozen, both.even⟩

theorem send_back_eq_ok {first second : Bank} {sender receiver : Account} {coin : Coin}
    (sent : first.send sender receiver coin = some (.ok second)) (free : receiver ∉ first.frozen)
    (different : sender ≠ receiver) :
    ∃ third, second.send receiver sender coin = some (.ok third) := by
  have posted := (send_sent sent).posted
  have received := posted.entry receiver
  have paid := posted.entry sender
  rw [share_self, share_of_ne (Ne.symm different)] at received
  rw [share_self, share_of_ne different] at paid
  have fits : first.units sender coin.denom.text < Amount.bound :=
    (first.balance sender coin.denom.text).fits
  apply send_eq_ok
  · rw [posted.frozen]
    exact free
  · omega
  · omega

theorem send_back_restores {first second third : Bank} {sender receiver : Account} {coin : Coin}
    (sent : first.send sender receiver coin = some (.ok second))
    (back : second.send receiver sender coin = some (.ok third)) : Restores first third := by
  have both := (send_sent sent).posted.trans (send_sent back).posted
  refine ⟨both.frozen, ?_⟩
  intro account name
  by_cases same : name = coin.denom.text
  · subst same
    have entry := both.entry account
    omega
  · exact both.others account name same

theorem send_eq_error {bank : Bank} {sender receiver : Account} {coin : Coin} {error : Error}
    (refused : bank.send sender receiver coin = some (.error error)) :
    error = frozenError sender ∨
      error = shortError sender (bank.balance sender coin.denom.text) coin := by
  unfold send at refused
  split at refused
  · cases refused
    exact .inl rfl
  · right
    cases debited : bank.debit sender coin with
    | ok middle => simp [debited] at refused
    | error cause =>
        simp only [debited, Option.some.injEq, Except.error.injEq] at refused
        subst refused
        unfold debit at debited
        cases covered : (bank.balance sender coin.denom.text).sub? coin.amount with
        | some rest => simp [covered] at debited
        | none =>
            simp only [covered, Except.error.injEq] at debited
            exact debited.symm

theorem send_uncovered {bank : Bank} {sender receiver : Account} {coin : Coin} {error : Error}
    (refused : bank.send sender receiver coin = some (.error error)) (free : sender ∉ bank.frozen) :
    bank.units sender coin.denom.text < coin.amount.units := by
  rw [send, if_neg free] at refused
  by_cases covered : coin.amount.units ≤ bank.units sender coin.denom.text
  · obtain ⟨after, debited⟩ := debit_eq_ok_of_le covered
    rw [debited] at refused
    simp at refused
  · exact Nat.lt_of_not_le covered

theorem burn_eq_ok {before after : Bank} {account : Account} {coin : Coin} :
    before.burn account coin = .ok after ↔
      before.burnsFail = false ∧ before.debit account coin = .ok after := by
  unfold burn
  cases before.burnsFail <;> simp

theorem burn_eq_error {bank : Bank} {account : Account} {coin : Coin} {error : Error}
    (refused : bank.burn account coin = .error error) :
    ∃ description, error = .bank description := by
  unfold burn at refused
  split at refused
  · cases refused
    exact ⟨_, rfl⟩
  · unfold debit at refused
    dsimp only at refused
    split at refused
    · contradiction
    · cases refused
      exact ⟨_, rfl⟩

theorem burn_eq_ok_of_le {bank : Bank} {account : Account} {coin : Coin}
    (burns : bank.burnsFail = false)
    (covered : coin.amount.units ≤ bank.units account coin.denom.text) :
    ∃ after, bank.burn account coin = .ok after := by
  obtain ⟨after, debited⟩ := debit_eq_ok_of_le covered
  exact ⟨after, burn_eq_ok.mpr ⟨burns, debited⟩⟩

end Bank

end VoucherSwap
