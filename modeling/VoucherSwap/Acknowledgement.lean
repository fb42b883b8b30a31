import VoucherSwap.Json.Reader

/-!
Acknowledgements are byte strings that are not empty. The usual ones hold a status as JSON: an
object with one entry, either a result or an error. The value is pasted into that text as it is,
without escapes.
-/

namespace VoucherSwap

structure Acknowledgement where
  bytes : ByteArray
  nonempty : bytes.size ≠ 0

namespace Acknowledgement

instance : DecidableEq Acknowledgement := fun a b =>
  decidable_of_decidable_of_iff (p := a.bytes.data = b.bytes.data) (by
    cases a; cases b; simp [ByteArray.ext_iff])

def ofBytes? (bytes : ByteArray) : Option Acknowledgement :=
  if nonempty : bytes.size ≠ 0 then some ⟨bytes, nonempty⟩ else none

inductive Status where
  | success (value : String)
  | failure (value : String)
  deriving DecidableEq

namespace Status

def text : Status → String
  | .success value => "\x7b\"result\":\"" ++ value ++ "\"\x7d"
  | .failure value => "\x7b\"error\":\"" ++ value ++ "\"\x7d"

theorem text_nonempty (status : Status) : status.text.toUTF8.size ≠ 0 := by
  have closing : "\"\x7d".toByteArray.size ≠ 0 := by decide
  cases status <;>
    simp only [text, String.toUTF8_eq_toByteArray, String.toByteArray_append, ByteArray.size_append]
      <;> omega

def isSuccess : Status → Bool
  | .success _ => true
  | .failure _ => false

end Status

def ofStatus (status : Status) : Acknowledgement := ⟨status.text.toUTF8, status.text_nonempty⟩

/-- Reads the one entry of a status and the brace behind it. -/
def statusReader : Json.Reader Status := do
  if (← Json.peek .endInValue) ≠ '\x7b' then throw .wrongType
  Json.advance
  let key ← Json.string
  Json.colon
  let status ← match key with
    | "result" => Status.success <$> Json.string
    | "error" => Status.failure <$> Json.string
    | _ => throw (.custom s!"unknown variant `{key}`")
  if (← Json.peek .endInObject) ≠ '\x7d' then throw .expectedCommaOrBrace
  Json.advance
  return status

def status? (ack : Acknowledgement) : Option Status := do
  let text ← String.fromUTF8? ack.bytes
  (Json.readText statusReader text).toOption

end Acknowledgement

end VoucherSwap
