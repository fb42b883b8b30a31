import VoucherSwap.Chain

/-!
Faults of a chain: settings or totals that cannot be read, totals that cannot be stored, and
accounts whose incoming coins go astray. Whatever fails leaves the chain as it was, and what is read
or stored in spite of them is right.
-/

namespace VoucherSwap.Chain

structure Faults where
  settingsUnreadable : Bool
  totalsUnreadable : Bool
  totalsReadOnly : Bool
  lossy : List Account
  deriving DecidableEq

def Faults.none : Faults := ⟨false, false, false, []⟩

/-- The account that coins go to when they go astray. -/
def blackhole : Account := ⟨"blackhole"⟩

def faultyHost (faults : Faults) : Host Chain Account :=
  { host with
    settings := fun chain =>
      if faults.settingsUnreadable then .error (.host "settings unavailable")
      else host.settings chain
    totals := fun chain =>
      if faults.totalsUnreadable then .error (.host "totals unavailable") else host.totals chain
    storeTotals := fun totals =>
      if faults.totalsReadOnly then throw (.host "totals are read-only")
      else host.storeTotals totals
    sendCoins := fun sender receiver =>
      sendCoins sender (if receiver ∈ faults.lossy then blackhole else receiver) }

theorem faultyHost_none : faultyHost .none = host := rfl

variable {faults : Faults} {totals : Totals} {before after : Chain} {error : Error}

theorem faultyHost_totals_eq_ok :
    (faultyHost faults).totals before = .ok totals ↔
      faults.totalsUnreadable = false ∧ totals = before.totals := by
  cases unreadable : faults.totalsUnreadable <;>
    simp [faultyHost, host, unreadable, eq_comm (a := totals)]

theorem faultyHost_storeTotals :
    (faultyHost faults).storeTotals totals before =
      if faults.totalsReadOnly then some (.error (.host "totals are read-only"), before)
      else some (.ok (), { before with totals }) := by
  cases fixed : faults.totalsReadOnly <;> simp only [faultyHost, fixed] <;> rfl

theorem faultyHost_storeTotals_eq_ok {result : Unit} :
    (faultyHost faults).storeTotals totals before = some (.ok result, after) ↔
      faults.totalsReadOnly = false ∧ after = { before with totals } := by
  rw [faultyHost_storeTotals]
  cases faults.totalsReadOnly <;> simp [eq_comm]

theorem faultyHost_storeTotals_eq_error :
    (faultyHost faults).storeTotals totals before = some (.error error, after) ↔
      faults.totalsReadOnly = true ∧ error = .host "totals are read-only" ∧ after = before := by
  rw [faultyHost_storeTotals]
  cases faults.totalsReadOnly <;> simp [eq_comm]

end VoucherSwap.Chain
