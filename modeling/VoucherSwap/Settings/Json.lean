import VoucherSwap.Json.Reader
import VoucherSwap.Json.Writer
import VoucherSwap.Settings

/-!
Settings as stored: a JSON object of twelve fields. They are written in a fixed order, the pausers
as a sorted list. They are read in any order, each exactly once; other fields are skipped.
-/

namespace VoucherSwap.Settings

open Json (Reader)

/-- The fields in the order in which they are written. -/
def fields (settings : Settings) : List (String × List Char) := [
  ("native_port", Json.quote settings.nativePort),
  ("native_channel", Json.quote settings.nativeChannel),
  ("counterparty_port", Json.quote settings.counterpartyPort),
  ("counterparty_channel", Json.quote settings.counterpartyChannel),
  ("wrapped_denom", Json.quote settings.wrappedDenom),
  ("native_client_id", Json.quote settings.nativeClient),
  ("counterparty_client_id", Json.quote settings.counterpartyClient),
  ("decimal_difference", Json.number settings.decimalDifference.toNat),
  ("enabled", Json.boolean settings.enabled),
  ("operator_address", Json.quote settings.operator),
  ("proposed_operator_address", Json.quote settings.proposedOperator),
  ("pauser_addresses", Json.list (settings.pausers.toList.map Json.quote))]

def json (settings : Settings) : String := String.ofList (Json.object settings.fields)

structure Draft where
  nativePort : Option String
  nativeChannel : Option String
  counterpartyPort : Option String
  counterpartyChannel : Option String
  wrappedDenom : Option String
  nativeClient : Option String
  counterpartyClient : Option String
  decimalDifference : Option UInt32
  enabled : Option Bool
  operator : Option String
  proposedOperator : Option String
  pausers : Option AddressSet

namespace Draft

def empty : Draft := ⟨none, none, none, none, none, none, none, none, none, none, none, none⟩

def readPausers : Reader AddressSet := do
  return .ofList (← Json.listOf Json.string)

def entry (key : String) (draft : Draft) : Reader Draft := do
  match key with
  | "native_port" =>
    return { draft with nativePort := ← Json.field key draft.nativePort Json.string }
  | "native_channel" =>
    return { draft with nativeChannel := ← Json.field key draft.nativeChannel Json.string }
  | "counterparty_port" =>
    return { draft with counterpartyPort := ← Json.field key draft.counterpartyPort Json.string }
  | "counterparty_channel" =>
    return { draft with
      counterpartyChannel := ← Json.field key draft.counterpartyChannel Json.string }
  | "wrapped_denom" =>
    return { draft with wrappedDenom := ← Json.field key draft.wrappedDenom Json.string }
  | "native_client_id" =>
    return { draft with nativeClient := ← Json.field key draft.nativeClient Json.string }
  | "counterparty_client_id" =>
    return { draft with
      counterpartyClient := ← Json.field key draft.counterpartyClient Json.string }
  | "decimal_difference" =>
    return { draft with
      decimalDifference := ← Json.field key draft.decimalDifference Json.word32 }
  | "enabled" => return { draft with enabled := ← Json.field key draft.enabled Json.bool }
  | "operator_address" =>
    return { draft with operator := ← Json.field key draft.operator Json.string }
  | "proposed_operator_address" =>
    return { draft with proposedOperator := ← Json.field key draft.proposedOperator Json.string }
  | "pauser_addresses" =>
    return { draft with pausers := ← Json.field key draft.pausers readPausers }
  | _ =>
    Json.colon
    Json.skip (Json.maxDepth - 1)
    return draft

def complete (draft : Draft) : Except Json.Error Settings := do
  return {
    nativePort := ← Json.required "native_port" draft.nativePort
    nativeChannel := ← Json.required "native_channel" draft.nativeChannel
    counterpartyPort := ← Json.required "counterparty_port" draft.counterpartyPort
    counterpartyChannel := ← Json.required "counterparty_channel" draft.counterpartyChannel
    wrappedDenom := ← Json.required "wrapped_denom" draft.wrappedDenom
    nativeClient := ← Json.required "native_client_id" draft.nativeClient
    counterpartyClient := ← Json.required "counterparty_client_id" draft.counterpartyClient
    decimalDifference := ← Json.required "decimal_difference" draft.decimalDifference
    enabled := ← Json.required "enabled" draft.enabled
    operator := ← Json.required "operator_address" draft.operator
    proposedOperator := ← Json.required "proposed_operator_address" draft.proposedOperator
    pausers := ← Json.required "pauser_addresses" draft.pausers }

end Draft

def reader : Reader Settings := do
  (← Json.record Draft.entry .empty).complete

def ofJson (text : String) : Except Json.Error Settings := Json.readText reader text

end VoucherSwap.Settings
