import VoucherSwap.Sample
import VoucherSwap.Proofs.Acknowledgement
import VoucherSwap.Proofs.Route

/-!
Payloads as packets carry them. There are two ways to put one on the wire, with its values quoted
and with its values pasted in as they stand, and one way to read it. Quoted values come back
whatever characters they have, so a payload is lost only through its denomination, of which no more
than the text travels. Pasted values come back if none of them has a quotation mark or a backslash.
A control character does no harm then: it is taken as it stands wherever nothing is escaped.
-/

namespace VoucherSwap

namespace Json

/-- A text between quotation marks, without escapes. -/
def bare (text : String) : List Char := '"' :: text.toList ++ ['"']

theorem reads_bare {text : String} (plain : Text.Plain text) : Reads string (bare text) text := by
  intro rest _
  have shape : bare text ++ rest = '"' :: (text.toList ++ '"' :: rest) := by simp [bare]
  rw [shape, string_run, Quoted.split?_plain plain.1 plain.2]
  simp only [Quoted.resolve_plain plain.2, Except.map, String.ofList_toList]

end Json

namespace Payload

theorem pasted_eq (denom amount sender receiver : String) : pasted denom amount sender receiver =
    String.ofList (Json.object (members Json.bare denom amount sender receiver "")) := by
  have keys : Json.quote "denom" = "\"denom\"".toList ∧ Json.quote "amount" = "\"amount\"".toList ∧
      Json.quote "sender" = "\"sender\"".toList ∧ Json.quote "receiver" = "\"receiver\"".toList ∧
      Json.quote "memo" = "\"memo\"".toList := by decide
  apply String.toList_injective
  -- The equation of a text joined from many parts takes long to derive, so the definition is opened
  -- without it.
  delta pasted
  simp [members, Json.object, Json.commas, Json.bare, keys, List.intercalate_cons_cons]

theorem ofBytes?_pasted {denom amount sender receiver : String}
    (plain : ∀ text ∈ [denom, amount, sender, receiver], Text.Plain text) :
    ofBytes? (pasted denom amount sender receiver).toUTF8 =
      (Draft.mk (some denom) (some amount) (some sender) (some receiver)
        (some "")).complete.toOption := by
  have reads :
      ∀ text ∈ [denom, amount, sender, receiver] ++ [""],
        Json.Reads Json.string (Json.bare text) text := by
    intro text member
    rcases List.mem_append.mp member with value | memo
    · exact Json.reads_bare (plain text value)
    · cases List.mem_singleton.mp memo
      exact Json.reads_bare (by decide)
  rw [pasted_eq]
  exact ofBytes?_object (steps_members reads)

end Payload

namespace Wire

/-- What the data of a packet is read as, by the way in which it was put there. -/
structure Legible (packet : Packet) : Prop where
  written : ∀ payload : Payload,
    Route.payload { packet with data := payload.bytes } = .ok payload ↔ payload.denom.Readable
  pasted : ∀ denom amount sender receiver,
    (∀ text ∈ [denom, amount, sender, receiver], Text.Plain text) →
    ∀ payload, Route.payload
      { packet with data := (Payload.pasted denom amount sender receiver).toUTF8 } = .ok payload ↔
      ∃ token units, Denom.ofText denom = .ok token ∧ Amount.decode amount = .ok units ∧
        payload = ⟨token, units, sender, receiver, ""⟩

theorem payload_survives_wire (packet : Packet) : Legible packet where
  written payload := by
    rw [Route.payload_eq_ok, Denom.readable_iff]
    constructor
    · exact Payload.denom_of_ofBytes?
    · exact Packet.payload?_of_data (by dsimp only)
  pasted denom amount sender receiver plain payload := by
    rw [Route.payload_eq_ok, Packet.payload?, Payload.ofBytes?_pasted plain, Check.toOption_eq_some,
      Payload.complete_eq_ok]
    rfl

def markedPayload : Payload where
  denom := ⟨[Sample.nativeEnd, Sample.counterpartyEnd], ⟨"gamm/pool/1", by rfl⟩⟩
  amount :=
    ⟨115792089237316195423570985008687907853269984665640564039457584007913129639935, by decide⟩
  sender := "zig1\"sender\\"
  receiver := "cosmos1\x07é\n"
  memo := "\x7b\"memo\":\"\\u0000\"\x7d"

theorem payload_survives_wire_markedPayload :
    markedPayload.denom.Readable ∧
      Route.payload { Sample.packet with data := markedPayload.bytes } = .ok markedPayload ∧
      (∀ text ∈ ["transfer/channel-5/uzig", "007", "cosmos1\tsender", "zig1réceiver"],
        Text.Plain text) ∧
      Route.payload { Sample.packet with
          data := (Payload.pasted "transfer/channel-5/uzig" "007" "cosmos1\tsender"
            "zig1réceiver").toUTF8 } =
        .ok ⟨⟨[Sample.counterpartyEnd], ⟨"uzig", by rfl⟩⟩, ⟨7, by decide⟩, "cosmos1\tsender",
          "zig1réceiver", ""⟩ := by
  have readable : markedPayload.denom.Readable :=
    ⟨"transfer/channel-0/transfer/channel-5/gamm/pool/1", by rfl⟩
  have plain :
      ∀ text ∈ ["transfer/channel-5/uzig", "007", "cosmos1\tsender", "zig1réceiver"],
        Text.Plain text := by
    decide
  have legible := payload_survives_wire Sample.packet
  refine ⟨readable, (legible.written markedPayload).mpr readable, plain, ?_⟩
  exact (legible.pasted _ _ _ _ plain _).mpr ⟨_, _, by rfl, by rfl, rfl⟩

end Wire

end VoucherSwap
