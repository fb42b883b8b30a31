import VoucherSwap.Payload
import VoucherSwap.Proofs.Json

/-!
A payload survives the wire. Amounts are read back from their decimal digits, and the five fields of
a payload in the order in which they are written, whatever characters its addresses and its memo
have. Its denomination must be one that can be read, since only the text of it travels.
-/

namespace VoucherSwap

namespace Text

-- The number read so far only grows, so if the last one is below the bound, each of them is.
theorem readDigits_eq_ok {bound : Nat} (number : Fin bound) {digits : List Char}
    (valid : ∀ c ∈ digits, c.isDigit = true)
    (fits : Nat.ofDigitChars 10 digits number.val < bound) :
    readDigits number digits = .ok ⟨Nat.ofDigitChars 10 digits number.val, fits⟩ := by
  induction digits generalizing number with
  | nil => rfl
  | cons c rest ih =>
      have digit : digit? c = some (c.toNat - '0'.toNat) := by
        simp [digit?, valid c List.mem_cons_self]
      have next : number.val * 10 + (c.toNat - '0'.toNat) < bound := by
        rw [Nat.ofDigitChars_cons, Nat.ofDigitChars_eq_ofDigitChars_zero] at fits
        have grows := Nat.le_mul_of_pos_left (10 * number.val + (c.toNat - '0'.toNat))
          (Nat.pow_pos (n := rest.length) (by decide : 0 < 10))
        omega
      have same : Nat.ofDigitChars 10 (c :: rest) number.val =
          Nat.ofDigitChars 10 rest (number.val * 10 + (c.toNat - '0'.toNat)) := by
        rw [Nat.ofDigitChars_cons, Nat.mul_comm]
      have further := ih ⟨_, next⟩ (fun other member => valid other (List.mem_cons_of_mem _ member))
        (same ▸ fits)
      simp only [readDigits, digit, next, ↓reduceDIte, further, same]

theorem readDigits_toDigits {bound number : Nat} (start : 0 < bound) (fits : number < bound) :
    readDigits ⟨0, start⟩ (Nat.toDigits 10 number) = .ok ⟨number, fits⟩ := by
  have valid : ∀ c ∈ Nat.toDigits 10 number, c.isDigit = true := fun c member =>
    Nat.isDigit_of_mem_toDigits (by decide) (by decide) member
  have value : Nat.ofDigitChars 10 (Nat.toDigits 10 number) 0 = number :=
    Nat.ofDigitChars_ten_toDigits
  rw [readDigits_eq_ok ⟨0, start⟩ valid (value.symm ▸ fits)]
  simp only [value]

end Text

namespace Amount

theorem ofText_text (amount : Amount) : ofText amount.text = .ok amount := by
  have digits : amount.text.toList = Nat.toDigits 10 amount.units := Nat.toList_repr
  unfold ofText
  rw [digits, Text.readDigits_toDigits _ amount.fits]
  rfl

theorem decode_text (amount : Amount) : decode amount.text = .ok amount := by
  unfold decode
  rw [ofText_text]

theorem text_injective {a b : Amount} (same : a.text = b.text) : a = b := by
  have read := decode_text a
  rw [same, decode_text, Except.ok.injEq] at read
  exact read.symm

end Amount

namespace Payload

open Json (Reads Steps)

theorem steps_members {write : String → List Char} {denom amount sender receiver memo : String}
    (reads : ∀ text ∈ [denom, amount, sender, receiver, memo],
      Reads Json.string (write text) text) :
    Steps Draft.entry .empty (members write denom amount sender receiver memo)
      ⟨some denom, some amount, some sender, some receiver, some memo⟩ := by
  have text (name : String) {value : String}
      (member : value ∈ [denom, amount, sender, receiver, memo]) :=
    (reads value member).field name
  refine .cons (text "denom" (by simp)).part ?_
  refine .cons (text "amount" (by simp)).part ?_
  refine .cons (text "sender" (by simp)).part ?_
  refine .cons (text "receiver" (by simp)).part ?_
  refine .cons (text "memo" (by simp)).part ?_
  exact .nil _

def draft (payload : Payload) : Draft :=
  ⟨some payload.denom.text, some payload.amount.text, some payload.sender, some payload.receiver,
    some payload.memo⟩

theorem steps_fields (payload : Payload) : Steps Draft.entry .empty payload.fields payload.draft :=
  steps_members fun text _ => Json.reads_quote text

theorem complete_eq_ok {draft : Draft} {payload : Payload} : draft.complete = .ok payload ↔
    ∃ denom amount, Denom.ofText (draft.denom.getD "") = .ok denom ∧
      Amount.decode (draft.amount.getD "") = .ok amount ∧
      payload =
        ⟨denom, amount, draft.sender.getD "", draft.receiver.getD "", draft.memo.getD ""⟩ := by
  simp only [Draft.complete, Check.bind_eq_ok, Check.pure_eq_ok, eq_comm (a := payload)]
  constructor
  · rintro ⟨denom, denomRead, amount, amountRead, same⟩
    exact ⟨denom, amount, denomRead, amountRead, same⟩
  · rintro ⟨denom, amount, denomRead, amountRead, same⟩
    exact ⟨denom, denomRead, amount, amountRead, same⟩

theorem fromUTF8?_toUTF8 (text : String) : String.fromUTF8? text.toUTF8 = some text :=
  dif_pos text.isValidUTF8

theorem ofBytes?_object {first : String × List Char} {fields : List (String × List Char)}
    {draft : Draft} (steps : Steps Draft.entry .empty (first :: fields) draft) :
    ofBytes? (String.ofList (Json.object (first :: fields))).toUTF8 = draft.complete.toOption := by
  simp only [ofBytes?, fromUTF8?_toUTF8, Option.bind_eq_bind, Option.bind_some,
    Json.readText_record steps, Except.toOption]

theorem ofBytes?_bytes {payload : Payload}
    (known : Denom.ofText payload.denom.text = .ok payload.denom) :
    ofBytes? payload.bytes = some payload := by
  have complete : payload.draft.complete = .ok payload :=
    complete_eq_ok.mpr ⟨_, _, known, Amount.decode_text payload.amount, rfl⟩
  exact (ofBytes?_object (steps_fields payload)).trans (Check.toOption_eq_some.mpr complete)

end Payload

theorem Packet.payload?_of_data {packet : Packet} {payload : Payload}
    (data : packet.data = payload.bytes)
    (known : Denom.ofText payload.denom.text = .ok payload.denom) :
    packet.payload? = some payload := by
  rw [Packet.payload?, data, Payload.ofBytes?_bytes known]

end VoucherSwap
