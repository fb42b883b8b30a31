import VoucherSwap.Funds
import VoucherSwap.Json.Reader
import VoucherSwap.Json.Writer

/-!
Totals as stored: a JSON object of two amounts, which are written as strings.
-/

namespace VoucherSwap.Totals

open Json (Reader)

/-- The fields in the order in which they are written. -/
def fields (totals : Totals) : List (String × List Char) := [
  ("transferred_in", Json.quote totals.transferredIn.text),
  ("transferred_out", Json.quote totals.transferredOut.text)]

def json (totals : Totals) : String := String.ofList (Json.object totals.fields)

structure Draft where
  transferredIn : Option Amount
  transferredOut : Option Amount

namespace Draft

def empty : Draft := ⟨none, none⟩

def readAmount : Reader Amount := do
  match Amount.ofText (← Json.string) with
  | .ok amount => return amount
  | .error fault => throw (.custom (Amount.faultMessage fault))

def entry (key : String) (draft : Draft) : Reader Draft := do
  match key with
  | "transferred_in" =>
    return { draft with transferredIn := ← Json.field key draft.transferredIn readAmount }
  | "transferred_out" =>
    return { draft with transferredOut := ← Json.field key draft.transferredOut readAmount }
  | _ =>
    Json.colon
    Json.skip (Json.maxDepth - 1)
    return draft

def complete (draft : Draft) : Except Json.Error Totals := do
  return {
    transferredIn := ← Json.required "transferred_in" draft.transferredIn
    transferredOut := ← Json.required "transferred_out" draft.transferredOut }

end Draft

def reader : Reader Totals := do
  (← Json.record Draft.entry .empty).complete

def ofJson (text : String) : Except Json.Error Totals := Json.readText reader text

end VoucherSwap.Totals
