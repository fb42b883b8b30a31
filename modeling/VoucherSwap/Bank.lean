import VoucherSwap.Funds
import VoucherSwap.Registry

/-!
A bank in memory: balances by account and denomination, and the accounts that are frozen, which
cannot send coins. Burning can be switched off. A balance that would not fit an amount is no error
of the bank: the operation then has no result at all.
-/

namespace VoucherSwap

structure Account where
  address : String
  deriving DecidableEq

namespace Account

instance : ToString Account := ⟨address⟩

/-- Addresses in packets are ASCII letters and digits, at least one. -/
def ofAddress? (address : String) : Option Account :=
  if address ≠ "" && address.toList.all Char.isAlphanum then some ⟨address⟩ else none

end Account

structure Bank where
  balances : Registry (Account × String) Amount
  frozen : List Account
  burnsFail : Bool
  deriving DecidableEq

namespace Bank

def empty : Bank := ⟨.empty, [], false⟩

def balance (bank : Bank) (account : Account) (denom : String) : Amount :=
  (bank.balances.find? (account, denom)).getD .zero

def setBalance (bank : Bank) (account : Account) (denom : String) (amount : Amount) : Bank :=
  { bank with balances := bank.balances.insert (account, denom) amount }

def frozenError (account : Account) : Error := .bank s!"account {account} is frozen"

def shortError (account : Account) (balance : Amount) (coin : Coin) : Error :=
  .bank s!"{account} holds {Coin.describe balance coin.denom.text}, needs {coin}"

def burnError (coin : Coin) : Error := .bank s!"burning {coin} is disabled"

/-- Creates coins out of nothing. -/
def mint? (bank : Bank) (account : Account) (denom : String) (amount : Amount) : Option Bank := do
  return bank.setBalance account denom (← (bank.balance account denom).add? amount)

def debit (bank : Bank) (account : Account) (coin : Coin) : Except Error Bank :=
  let balance := bank.balance account coin.denom.text
  match balance.sub? coin.amount with
  | some remaining => .ok (bank.setBalance account coin.denom.text remaining)
  | none => .error (shortError account balance coin)

def send (bank : Bank) (sender receiver : Account) (coin : Coin) : Option (Except Error Bank) :=
  if sender ∈ bank.frozen then some (.error (frozenError sender))
  else
    match bank.debit sender coin with
    | .error error => some (.error error)
    | .ok bank => (bank.mint? receiver coin.denom.text coin.amount).map .ok

def burn (bank : Bank) (account : Account) (coin : Coin) : Except Error Bank :=
  if bank.burnsFail then .error (burnError coin) else bank.debit account coin

def freeze (bank : Bank) (account : Account) : Bank :=
  if account ∈ bank.frozen then bank else { bank with frozen := bank.frozen ++ [account] }

def thaw (bank : Bank) (account : Account) : Bank :=
  { bank with frozen := bank.frozen.filter (· ≠ account) }

/-- The balances that are not zero, in order of account and denomination. -/
def listing (bank : Bank) : List (Account × String × Amount) :=
  let held := bank.balances.entries.filterMap fun ((account, denom), amount) =>
    if amount = .zero then none else some (account, denom, amount)
  held.mergeSort fun (account, denom, _) (account', denom', _) =>
    account.address < account'.address ∨
      account.address = account'.address ∧ ¬ denom' < denom

end Bank

end VoucherSwap
