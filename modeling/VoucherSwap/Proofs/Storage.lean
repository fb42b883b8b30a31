import VoucherSwap.Settings.Json
import VoucherSwap.Totals.Json
import VoucherSwap.Proofs.Payload

/-!
Settings and totals survive being stored. Each kind of value is read back from what is written for
it, whatever characters the texts in it have: numbers by their digits, since something else follows
the last of them, and sets of addresses by their list, since putting an increasing list into a set
leaves it as it is. So whatever a text is read as, from then on it is stored in one form.
-/

namespace VoucherSwap

namespace AddressSet

theorem insertSorted_last {address : String} {addresses : List String}
    (last : ∀ other ∈ addresses, other < address) :
    insertSorted address addresses = addresses ++ [address] := by
  induction addresses with
  | nil => rfl
  | cons first rest ih =>
      have before := last first List.mem_cons_self
      have behind : ¬ address < first := String.lt_asymm before
      have different : address ≠ first := by
        rintro rfl
        exact behind before
      rw [insertSorted, if_neg behind, if_neg different,
        ih fun other member => last other (List.mem_cons_of_mem _ member)]
      rfl

-- By induction on the addresses to come: each of them is behind all that are in the set.
theorem foldl_insert {addresses : AddressSet} {rest : List String}
    (increasing : (addresses.toList ++ rest).Pairwise (· < ·)) :
    (rest.foldl insert addresses).toList = addresses.toList ++ rest := by
  induction rest generalizing addresses with
  | nil => exact (List.append_nil _).symm
  | cons address others ih =>
      have last : ∀ other ∈ addresses.toList, other < address := fun other member =>
        (List.pairwise_append.mp increasing).2.2 other member address List.mem_cons_self
      have inserted : (addresses.insert address).toList = addresses.toList ++ [address] :=
        insertSorted_last last
      rw [List.foldl_cons, ih, inserted, List.append_assoc]
      · rfl
      · rw [inserted, List.append_assoc]
        exact increasing

theorem ofList_toList (addresses : AddressSet) : ofList addresses.toList = addresses := by
  have same : (ofList addresses.toList).toList = addresses.toList :=
    @foldl_insert empty _ addresses.sorted
  cases addresses
  rw [AddressSet.mk.injEq] at *
  exact same

end AddressSet

namespace Json

theorem not_isDigit_of_endsValue {c : Char} (closes : endsValue c = true) : c.isDigit = false := by
  simp only [endsValue, Bool.or_eq_true, decide_eq_true_eq] at closes
  rcases closes with (rfl | rfl) | rfl <;> rfl

theorem toDigits_first {number : Nat} (positive : 0 < number) :
    ∃ c others, Nat.toDigits 10 number = c :: others ∧ c ≠ '0' := by
  induction number using Nat.strongRecOn with
  | ind number ih =>
      rw [Nat.toDigits_eq_if (by decide)]
      by_cases small : number < 10
      · have leading : ∀ digit : Fin 10, 0 < digit.val → digit.val.digitChar ≠ '0' := by decide
        rw [if_pos small]
        exact ⟨_, [], rfl, leading ⟨number, small⟩ positive⟩
      · obtain ⟨c, others, digits, leading⟩ := ih (number / 10) (by omega) (by omega)
        rw [if_neg small, digits]
        exact ⟨c, _, rfl, leading⟩

theorem word32_run {c : Char} {others rest : List Char} {number : Fin UInt32.size}
    (digits : ∀ digit ∈ c :: others, digit.isDigit = true) (leading : c ≠ '0') (ends : Ends rest)
    (read : Text.readDigits (⟨0, by decide⟩ : Fin UInt32.size) (c :: others) = .ok number) :
    word32 (c :: others ++ rest) = .ok (.ofFin number, rest) := by
  have digit : c.isDigit = true := digits c List.mem_cons_self
  have visible : isBlank c = false := by
    apply Bool.eq_false_iff.mpr
    intro blank
    simp only [isBlank, Bool.or_eq_true, decide_eq_true_eq] at blank
    rcases blank with ((rfl | rfl) | rfl) | rfl <;> contradiction
  have unsigned : c ≠ '-' := by
    rintro rfl
    contradiction
  obtain ⟨close, behind, rfl, closes⟩ := ends
  have last := not_isDigit_of_endsValue closes
  have taken : (c :: others ++ close :: behind).takeWhile Char.isDigit = c :: others := by
    rw [List.takeWhile_append_of_pos digits, List.takeWhile_cons_of_neg (by simp [last]),
      List.append_nil]
  have left : (c :: others ++ close :: behind).dropWhile Char.isDigit = close :: behind := by
    rw [List.dropWhile_append_of_pos digits, List.dropWhile_cons_of_neg (by simp [last])]
  unfold word32
  rw [List.cons_append, Reader.bind_of_ok (peek_cons visible _ _), ← List.cons_append]
  simp only [unsigned, leading, digit, Bool.not_true, Bool.false_eq_true, ↓reduceIte]
  rw [Reader.get_bind, taken, read, left]
  rfl

theorem reads_number (value : UInt32) : Reads word32 (number value.toNat) value := by
  intro rest ends
  unfold number
  by_cases zero : value.toNat = 0
  · obtain rfl : value = 0 := UInt32.toNat_inj.mp zero
    rfl
  · obtain ⟨c, others, digits, leading⟩ := toDigits_first (Nat.pos_of_ne_zero zero)
    have fits : value.toNat < UInt32.size := value.toNat_lt
    have read := Text.readDigits_toDigits (by decide) fits
    have valid : ∀ digit ∈ Nat.toDigits 10 value.toNat, digit.isDigit = true := fun digit member =>
      Nat.isDigit_of_mem_toDigits (by decide) (by decide) member
    rw [digits] at read valid ⊢
    exact word32_run valid leading ends read

theorem reads_boolean (value : Bool) : Reads bool (boolean value) value := by
  intro rest _
  cases value <;> rfl

theorem elements_first (fuel : Nat) (read : List String) (value : String) (rest : List Char) :
    elements string (fuel + 1) true read (quote value ++ rest) =
      elements string fuel false (value :: read) rest := by
  have quoted := string_quote value rest
  obtain ⟨text, shape⟩ : ∃ text, quote value ++ rest = '"' :: text := ⟨_, rfl⟩
  rw [shape] at quoted ⊢
  rw [elements, Reader.bind_of_ok (peek_cons (by decide) _ _)]
  exact Reader.bind_of_ok quoted

theorem elements_next (fuel : Nat) (free : Bool) (read : List String) (value : String)
    (rest : List Char) :
    elements string (fuel + 1) free read (',' :: quote value ++ rest) =
      elements string fuel free (value :: read) rest := by
  have quoted := string_quote value rest
  obtain ⟨text, shape⟩ : ∃ text, quote value ++ rest = '"' :: text := ⟨_, rfl⟩
  rw [List.cons_append]
  rw [shape] at quoted ⊢
  rw [elements, Reader.bind_of_ok (peek_cons (by decide) _ _)]
  refine (Reader.bind_of_ok (advance_cons _ _)).trans ?_
  refine (Reader.bind_of_ok (peek_cons (by decide) _ _)).trans ?_
  exact Reader.bind_of_ok quoted

-- Fuel for each element and for the closing bracket.
theorem elements_tail (values : List String) (free : Bool) (read : List String) (rest : List Char)
    {fuel : Nat} (enough : values.length < fuel) :
    elements string fuel free read
      ((values.flatMap fun value => ',' :: quote value) ++ ']' :: rest) =
      .ok (read.reverse ++ values, rest) := by
  induction values generalizing read fuel with
  | nil =>
      obtain ⟨fuel, rfl⟩ := Nat.exists_eq_add_one_of_ne_zero (Nat.ne_of_gt enough)
      rw [List.flatMap_nil, List.nil_append, List.append_nil, elements]
      rw [Reader.bind_of_ok (peek_cons (by decide) _ _)]
      rfl
  | cons value others ih =>
      rw [List.length_cons] at enough
      obtain ⟨fuel, rfl⟩ : ∃ less, fuel = less + 1 := ⟨fuel - 1, by omega⟩
      rw [List.flatMap_cons, List.append_assoc, elements_next, ih _ (by omega)]
      simp

theorem reads_list (values : List String) :
    Reads (listOf string) (list (values.map quote)) values := by
  intro rest _
  unfold listOf list
  rw [List.cons_append, List.cons_append, Reader.bind_of_ok (peek_cons (by decide) _ _)]
  simp only [ne_eq, not_true_eq_false, ↓reduceIte]
  rw [Reader.bind_of_ok (advance_cons _ _), Reader.get_bind]
  cases values with
  | nil => rfl
  | cons first others =>
      rw [commas_cons, List.append_assoc, List.append_assoc, elements_first]
      apply elements_tail
      have commas := length_le_flatMap quote others
      simp only [List.length_append, List.length_cons]
      omega

end Json

namespace Settings

open Json (Reads Steps)

def draft (settings : Settings) : Draft :=
  ⟨some settings.nativePort, some settings.nativeChannel, some settings.counterpartyPort,
    some settings.counterpartyChannel, some settings.wrappedDenom, some settings.nativeClient,
    some settings.counterpartyClient, some settings.decimalDifference, some settings.enabled,
    some settings.operator, some settings.proposedOperator, some settings.pausers⟩

theorem reads_pausers (pausers : AddressSet) :
    Reads Draft.readPausers (Json.list (pausers.toList.map Json.quote)) pausers := by
  intro rest ends
  have made := AddressSet.ofList_toList pausers
  refine (Json.Reader.bind_of_ok (Json.reads_list pausers.toList rest ends)).trans ?_
  rw [made]
  rfl

theorem steps_settings (settings : Settings) :
    Steps Draft.entry .empty settings.fields settings.draft := by
  have text (name value : String) := (Json.reads_quote value).field name
  have difference := (Json.reads_number settings.decimalDifference).field "decimal_difference"
  have enabled := (Json.reads_boolean settings.enabled).field "enabled"
  have pausers := (reads_pausers settings.pausers).field "pauser_addresses"
  refine .cons (text "native_port" _).part ?_
  refine .cons (text "native_channel" _).part ?_
  refine .cons (text "counterparty_port" _).part ?_
  refine .cons (text "counterparty_channel" _).part ?_
  refine .cons (text "wrapped_denom" _).part ?_
  refine .cons (text "native_client_id" _).part ?_
  refine .cons (text "counterparty_client_id" _).part ?_
  refine .cons difference.part ?_
  refine .cons enabled.part ?_
  refine .cons (text "operator_address" _).part ?_
  refine .cons (text "proposed_operator_address" _).part ?_
  refine .cons pausers.part ?_
  exact .nil _

theorem ofJson_json (settings : Settings) : ofJson settings.json = .ok settings :=
  Json.readText_object (steps_settings settings) rfl

end Settings

namespace Totals

open Json (Reads Steps)

def draft (totals : Totals) : Draft := ⟨some totals.transferredIn, some totals.transferredOut⟩

theorem reads_amount (amount : Amount) :
    Reads Draft.readAmount (Json.quote amount.text) amount := by
  intro rest ends
  refine (Json.Reader.bind_of_ok (Json.reads_quote amount.text rest ends)).trans ?_
  rw [Amount.ofText_text]
  rfl

theorem steps_totals (totals : Totals) : Steps Draft.entry .empty totals.fields totals.draft := by
  have into := (reads_amount totals.transferredIn).field "transferred_in"
  have out := (reads_amount totals.transferredOut).field "transferred_out"
  refine .cons into.part ?_
  refine .cons out.part ?_
  exact .nil _

theorem ofJson_json (totals : Totals) : ofJson totals.json = .ok totals :=
  Json.readText_object (steps_totals totals) rfl

end Totals

namespace Storage

/-- A way to store values as text. Every value is read back from its own text, and whatever text a
value was read from, that text of its own is stored from then on. -/
structure Stores {γ : Type} (write : γ → String) (read : String → Except Json.Error γ) : Prop where
  back : ∀ value, read (write value) = .ok value
  settled : ∀ text value, read text = .ok value →
    read (write value) = .ok value ∧ (read (write value)).map write = .ok (write value)

theorem stores_of_back {γ : Type} {write : γ → String} {read : String → Except Json.Error γ}
    (back : ∀ value, read (write value) = .ok value) : Stores write read where
  back := back
  settled text value known := by
    rw [back value]
    exact ⟨rfl, rfl⟩

theorem stored_state_survives :
    Stores Settings.json Settings.ofJson ∧ Stores Totals.json Totals.ofJson :=
  ⟨stores_of_back Settings.ofJson_json, stores_of_back Totals.ofJson_json⟩

-- Blanks, another order of the fields and other ways to write the amounts are gone once a text has
-- been stored again.
example :
    (Totals.ofJson "\x7b \"transferred_out\": \"07\",\n\"transferred_in\": \"\" \x7d").toOption.map
        Totals.json =
      some "\x7b\"transferred_in\":\"0\",\"transferred_out\":\"7\"\x7d" := by
  decide +kernel

end Storage

end VoucherSwap
