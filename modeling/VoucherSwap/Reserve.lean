import VoucherSwap.Host

/-!
Coins that move between users and the reserve, and the running totals beside them.
-/

namespace VoucherSwap.Reserve

variable {σ α : Type}

def shortage (holder : String) (coin : Coin) (available : Amount) : Error :=
  .insufficientFunds holder coin.text (Coin.describe available coin.denom.text)

/-- The holder's account must own the coin; the error names the holder. -/
def checkFunds (host : Host σ α) (state : σ) (account : α) (holder : String) (coin : Coin) :
    Except Error Unit :=
  if host.holds state account coin then .ok ()
  else .error (shortage holder coin (host.balance state account coin.denom.text))

def holderName : String := "reserve"

/-- Before anything moves, the holder must own one coin and the reserve the other. -/
def checkBalances (host : Host σ α) (state : σ) (account : α) (holder : String)
    (holderCoin reserveCoin : Coin) : Except Error Unit := do
  checkFunds host state account holder holderCoin
  checkFunds host state (host.reserve state) holderName reserveCoin

def lock (host : Host σ α) (holder : α) (coin : Coin) : Attempt σ Unit := do
  host.sendCoins holder (host.reserve (← get)) coin

def unlock (host : Host σ α) (holder : α) (coin : Coin) : Attempt σ Unit := do
  host.sendCoins (host.reserve (← get)) holder coin

/-- What became of the native coin after a burn that failed, for the two texts by their parts. -/
def returnedText (native name : String) : String :=
  s!"returned {native} to {name} after failed voucher burn"

def keptText (native name cause : String) : String :=
  s!"failed to return {native} to {name} after failed voucher burn: {cause}"

def unlockNotice (name : String) (native : Coin) : Except Error Unit → Notice
  | .ok () => .info (returnedText native.text name)
  | .error error => .failure (keptText native.text name error.message)

/-- Burns a voucher of the reserve. If that fails, the native coin that the sender had locked is
handed back as far as possible. Both the failure and what became of the coin are reported here, so
the error that is given back has been reported. -/
def burnOrUnlock (host : Host σ α) (sender : α) (name : String) (native voucher : Coin) :
    Effect σ (Except Error Unit) := do
  match ← (host.burnCoins (host.reserve (← get)) voucher).run with
  | .ok () => return .ok ()
  | .error burnError =>
    host.report (.failure burnError.message)
    host.report (unlockNotice name native (← (unlock host sender native).run))
    return .error burnError

def recordIn (host : Host σ α) (amount : Amount) : Attempt σ Unit := do
  let totals ← host.totals (← get)
  host.storeTotals (← totals.recordIn amount)

def recordOut (host : Host σ α) (amount : Amount) : Attempt σ Unit := do
  let totals ← host.totals (← get)
  host.storeTotals (← totals.recordOut amount)

def releaseOut (host : Host σ α) (amount : Amount) : Attempt σ Unit := do
  let totals ← host.totals (← get)
  host.storeTotals (totals.releaseOut amount)

end VoucherSwap.Reserve
