import VoucherSwap.Denom
import VoucherSwap.Json.Reader
import VoucherSwap.Json.Writer
import VoucherSwap.Channel

/-!
What a transfer packet carries: a token, its sender and receiver, and a memo. On the wire it is a
JSON object of five strings. Written, it has all five in a fixed order. Read, it may lack fields,
which are then empty, but must not have a field twice or one of another name.
-/

namespace VoucherSwap

structure Payload where
  denom : Denom
  amount : Amount
  sender : String
  receiver : String
  memo : String
  deriving DecidableEq

namespace Payload

open Json (Reader)

/-- The five fields in the order in which they are written, each value in the same way. -/
def members (write : String → List Char) (denom amount sender receiver memo : String) :
    List (String × List Char) := [
  ("denom", write denom),
  ("amount", write amount),
  ("sender", write sender),
  ("receiver", write receiver),
  ("memo", write memo)]

def fields (payload : Payload) : List (String × List Char) :=
  members Json.quote payload.denom.text payload.amount.text payload.sender payload.receiver
    payload.memo

def text (payload : Payload) : String := String.ofList (Json.object payload.fields)

def bytes (payload : Payload) : ByteArray := payload.text.toUTF8

/-- The wire form with an empty memo in which the values stand as they are, without escapes. -/
def pasted (denom amount sender receiver : String) : String :=
  "\x7b\"denom\":\"" ++ denom ++ "\",\"amount\":\"" ++ amount ++ "\",\"sender\":\"" ++ sender ++
    "\",\"receiver\":\"" ++ receiver ++ "\",\"memo\":\"\"\x7d"

structure Draft where
  denom : Option String
  amount : Option String
  sender : Option String
  receiver : Option String
  memo : Option String

namespace Draft

def empty : Draft := ⟨none, none, none, none, none⟩

def entry (key : String) (draft : Draft) : Reader Draft := do
  match key with
  | "denom" => return { draft with denom := ← Json.field key draft.denom Json.string }
  | "amount" => return { draft with amount := ← Json.field key draft.amount Json.string }
  | "sender" => return { draft with sender := ← Json.field key draft.sender Json.string }
  | "receiver" => return { draft with receiver := ← Json.field key draft.receiver Json.string }
  | "memo" => return { draft with memo := ← Json.field key draft.memo Json.string }
  | _ => throw (.custom s!"unknown field `{key}`")

def complete (draft : Draft) : Except DecodingError Payload := do
  return {
    denom := ← Denom.ofText (draft.denom.getD "")
    amount := ← Amount.decode (draft.amount.getD "")
    sender := draft.sender.getD ""
    receiver := draft.receiver.getD ""
    memo := draft.memo.getD "" }

end Draft

def ofBytes? (bytes : ByteArray) : Option Payload := do
  let text ← String.fromUTF8? bytes
  let draft ← (Json.readText (Json.record Draft.entry .empty) text).toOption
  draft.complete.toOption

end Payload

def Packet.payload? (packet : Packet) : Option Payload := Payload.ofBytes? packet.data

end VoucherSwap
