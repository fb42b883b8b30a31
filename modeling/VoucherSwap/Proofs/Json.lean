import VoucherSwap.Json.Reader
import VoucherSwap.Json.Writer
import VoucherSwap.Proofs.Denom
import VoucherSwap.Proofs.Outcome

/-!
The reader undoes the writer. A quoted text is cut off at its closing mark, since no mark inside it
is left without its backslash, and its escapes resolve to the characters they stand for. An object
is read entry by entry, and what each entry does is a step between the records before and after it.
-/

namespace VoucherSwap.Json

namespace Quoted

theorem hexDigit_ne {c : Char} (foreign : c ∉ "0123456789ABCDEF".toList) (value : Nat) :
    Text.hexDigit value ≠ c := by
  rintro rfl
  exact foreign (Voucher.hexDigit_mem value)

theorem split?_escape (c : Char) (rest : List Char) :
    split? false (escape c ++ rest) =
      (split? false rest).map fun parts => (escape c ++ parts.1, parts.2) := by
  have mark (value : Nat) : Text.hexDigit value ≠ '"' := hexDigit_ne (by decide) value
  have backslash (value : Nat) : Text.hexDigit value ≠ '\\' := hexDigit_ne (by decide) value
  unfold escape
  split
  case h_8 notMark notBackslash _ _ _ _ _ =>
    have noMark : c ≠ '"' := notMark
    have noBackslash : c ≠ '\\' := notBackslash
    split
    · simp [split?, mark, backslash, Function.comp_def]
    · simp [split?, noMark, noBackslash]
  all_goals simp [split?, Function.comp_def]

theorem split?_escaped (text rest : List Char) :
    split? false (text.flatMap escape ++ '"' :: rest) = some (text.flatMap escape, rest) := by
  induction text with
  | nil => simp [split?]
  | cons c others ih =>
      rw [List.flatMap_cons, List.append_assoc, split?_escape, ih]
      rfl

theorem hexValue?_hexDigit (value : Fin 16) :
    Text.hexValue? (Text.hexDigit value) = some value.val := by
  revert value
  decide

theorem codeUnit_control {code : Nat} (small : code < 0x20) :
    codeUnit ['0', '0', Text.hexDigit (code / 16), Text.hexDigit (code % 16)] = .ok code := by
  have zero : Text.hexValue? '0' = some 0 := by decide
  have high := hexValue?_hexDigit ⟨code / 16, by omega⟩
  have low := hexValue?_hexDigit ⟨code % 16, by omega⟩
  dsimp only at high low
  have sum : code / 16 * 16 + code % 16 = code := by omega
  simp [codeUnit, zero, high, low, sum, bind, Except.bind, pure, Except.pure]

theorem unescape_escape (c : Char) (rest : List Char) :
    unescape none (escape c ++ rest) = (unescape none rest).map (c :: ·) := by
  unfold escape
  split
  case h_8 _ notBackslash _ _ _ _ _ =>
    have noBackslash : c ≠ '\\' := notBackslash
    split
    · rename_i small
      have unit := codeUnit_control small
      have low : isHighSurrogate c.toNat = false := by simp [isHighSurrogate]; omega
      have high : isLowSurrogate c.toNat = false := by simp [isLowSurrogate]; omega
      simp only [List.cons_append, List.nil_append, unescape, unit, low, high, Char.ofNat_toNat]
      rfl
    · rename_i large
      have visible : isControl c = false := by simpa [isControl] using large
      rw [List.cons_append, List.nil_append]
      rw [unescape]
      · simp [noBackslash, visible, bind, Except.bind, pure, Except.pure, Except.map]
      all_goals simp_all
  all_goals
    simp only [List.cons_append, List.nil_append]
    rfl

theorem unescape_escaped (text : List Char) : unescape none (text.flatMap escape) = .ok text := by
  induction text with
  | nil => rfl
  | cons c others ih =>
      rw [List.flatMap_cons, unescape_escape, ih]
      rfl

theorem escape_of_backslash_notMem {c : Char} (plain : '\\' ∉ escape c) : escape c = [c] := by
  unfold escape at plain ⊢
  split
  case h_8 =>
    split
    · rename_i small
      simp [small] at plain
    · rfl
  all_goals simp at plain

theorem escaped_of_backslash_notMem {text : List Char} (plain : '\\' ∉ text.flatMap escape) :
    text.flatMap escape = text := by
  induction text with
  | nil => rfl
  | cons c others ih =>
      rw [List.flatMap_cons, List.mem_append, not_or] at plain
      rw [List.flatMap_cons, escape_of_backslash_notMem plain.1, ih plain.2]
      rfl

theorem resolve_escaped (text : List Char) : resolve (text.flatMap escape) = .ok text := by
  unfold resolve
  by_cases escapes : (text.flatMap escape).contains '\\' = true
  · rw [if_pos escapes, unescape_escaped]
  · rw [if_neg escapes]
    rw [List.contains_iff_mem] at escapes
    rw [escaped_of_backslash_notMem escapes]

end Quoted

variable {α β : Type}

namespace Reader

theorem bind_of_ok {reader : Reader α} {next : α → Reader β} {text rest : List Char} {value : α}
    (read : reader text = .ok (value, rest)) : (reader >>= next) text = next value rest := by
  show Except.bind _ _ = _
  rw [read]
  rfl

theorem bind_of_error {reader : Reader α} {next : α → Reader β} {text : List Char} {cause : Error}
    (failed : reader text = .error cause) : (reader >>= next) text = .error cause := by
  show Except.bind _ _ = _
  rw [failed]
  rfl

theorem bind_eq_ok {reader : Reader α} {next : α → Reader β} {text rest : List Char} {result : β} :
    (reader >>= next) text = .ok (result, rest) ↔
      ∃ value middle, reader text = .ok (value, middle) ∧
        next value middle = .ok (result, rest) := by
  show Except.bind (reader text) (fun step => next step.1 step.2) = .ok (result, rest) ↔ _
  cases reader text with
  | error cause => simp [Except.bind]
  | ok step =>
      simp only [Except.bind, Except.ok.injEq]
      constructor
      · intro went
        exact ⟨step.1, step.2, rfl, went⟩
      · rintro ⟨value, middle, rfl, went⟩
        exact went

theorem map_eq_ok {reader : Reader α} {change : α → β} {text rest : List Char} {result : β} :
    (change <$> reader) text = .ok (result, rest) ↔
      ∃ value, reader text = .ok (value, rest) ∧ result = change value := by
  show Except.bind (reader text) (fun step => .ok (change step.1, step.2)) = .ok (result, rest) ↔ _
  cases reader text with
  | error cause => simp [Except.bind]
  | ok step =>
      obtain ⟨value, middle⟩ := step
      simp only [Except.bind, Except.ok.injEq, Prod.mk.injEq]
      constructor
      · rintro ⟨rfl, rfl⟩
        exact ⟨value, ⟨rfl, rfl⟩, rfl⟩
      · rintro ⟨value, ⟨rfl, rfl⟩, rfl⟩
        exact ⟨rfl, rfl⟩

theorem get_bind (next : List Char → Reader β) (text : List Char) :
    ((get : Reader (List Char)) >>= next) text = next text text := rfl

end Reader

theorem peek_run (atEnd : Error) (text : List Char) :
    peek atEnd text =
      match text.dropWhile isBlank with
      | [] => .error atEnd
      | c :: rest => .ok (c, c :: rest) := by
  unfold peek
  rw [Reader.get_bind]
  cases text.dropWhile isBlank <;> rfl

theorem peek_cons {c : Char} (visible : isBlank c = false) (atEnd : Error) (rest : List Char) :
    peek atEnd (c :: rest) = .ok (c, c :: rest) := by
  have text : (c :: rest).dropWhile isBlank = c :: rest := by simp [visible]
  rw [peek_run, text]

theorem advance_cons (c : Char) (rest : List Char) : advance (c :: rest) = .ok ((), rest) := rfl

theorem colon_cons (rest : List Char) : colon (':' :: rest) = .ok ((), rest) := rfl

theorem string_run (text : List Char) :
    string ('"' :: text) =
      match Quoted.split? false text with
      | none => .error .endInString
      | some (body, rest) =>
          (Quoted.resolve body).map fun chars => (String.ofList chars, rest) := by
  unfold string
  rw [Reader.bind_of_ok (peek_cons (by decide) _ _)]
  simp only [ne_eq, not_true_eq_false, ↓reduceIte]
  rw [Reader.bind_of_ok (advance_cons _ _), Reader.get_bind]
  cases Quoted.split? false text with
  | none => rfl
  | some parts =>
      obtain ⟨body, rest⟩ := parts
      show Except.bind (Except.bind (Quoted.resolve body) _) _ = (Quoted.resolve body).map _
      cases Quoted.resolve body <;> rfl

theorem string_eq_ok {text rest : List Char} {value : String} :
    string ('"' :: text) = .ok (value, rest) ↔
      ∃ body chars, Quoted.split? false text = some (body, rest) ∧ Quoted.resolve body = .ok chars ∧
        value = String.ofList chars := by
  rw [string_run]
  cases Quoted.split? false text with
  | none => simp
  | some parts =>
      obtain ⟨body, behind⟩ := parts
      simp only [Option.some.injEq, Prod.mk.injEq]
      cases resolved : Quoted.resolve body with
      | error cause =>
          simp only [Except.map, reduceCtorEq, false_iff]
          rintro ⟨other, chars, ⟨rfl, -⟩, read, -⟩
          rw [resolved] at read
          contradiction
      | ok chars =>
          simp only [Except.map, Except.ok.injEq, Prod.mk.injEq]
          constructor
          · rintro ⟨rfl, rfl⟩
            exact ⟨body, chars, ⟨rfl, rfl⟩, resolved, rfl⟩
          · rintro ⟨other, others, ⟨rfl, rfl⟩, read, rfl⟩
            rw [resolved, Except.ok.injEq] at read
            exact ⟨by rw [read], rfl⟩

theorem string_quote (text : String) (rest : List Char) :
    string (quote text ++ rest) = .ok (text, rest) := by
  have shape :
      quote text ++ rest = '"' :: (text.toList.flatMap escape ++ '"' :: rest) := by simp [quote]
  rw [shape, string_run, Quoted.split?_escaped]
  simp only [Quoted.resolve_escaped, Except.map, String.ofList_toList]

/-- Behind a value within a list or an object stands a comma or a closing bracket. -/
def Ends (rest : List Char) : Prop := ∃ c others, rest = c :: others ∧ endsValue c = true

/-- A reader takes what was written for a value off a text in which the value ends there. -/
def Reads (reader : Reader β) (written : List Char) (value : β) : Prop :=
  ∀ rest, Ends rest → reader (written ++ rest) = .ok (value, rest)

theorem reads_quote (text : String) : Reads string (quote text) text :=
  fun rest _ => string_quote text rest

theorem ends_tail {γ : Type} (write : γ → List Char) (values : List γ) {close : Char}
    (closes : endsValue close = true) (rest : List Char) :
    Ends ((values.flatMap fun value => ',' :: write value) ++ close :: rest) := by
  cases values with
  | nil => exact ⟨close, rest, rfl, closes⟩
  | cons value others => exact ⟨',', _, rfl, rfl⟩

theorem commas_cons {γ : Type} (write : γ → List Char) (first : γ) (others : List γ) :
    commas ((first :: others).map write) = write first ++ others.flatMap fun other =>
      ',' :: write other := by
  induction others generalizing first with
  | nil => simp [commas]
  | cons second others ih =>
      have tail := ih second
      simp only [commas, List.map_cons] at tail ⊢
      rw [List.intercalate_cons_cons, tail, List.flatMap_cons]
      simp

theorem length_le_flatMap {γ : Type} (write : γ → List Char) (values : List γ) :
    values.length ≤ (values.flatMap fun value => ',' :: write value).length := by
  induction values with
  | nil => exact Nat.le_refl _
  | cons value others ih =>
      rw [List.flatMap_cons, List.length_append, List.length_cons, List.length_cons]
      omega

def member (field : String × List Char) : List Char := quote field.1 ++ ':' :: field.2

/-- Entries, one after the other, take a record from one value to another. -/
inductive Steps (entry : String → α → Reader α) : α → List (String × List Char) → α → Prop where
  | nil (record : α) : Steps entry record [] record
  | cons {before middle after : α} {field : String × List Char} {fields : List (String × List Char)}
      (first : Reads (entry field.1 before) (':' :: field.2) middle)
      (others : Steps entry middle fields after) : Steps entry before (field :: fields) after

theorem member_append (field : String × List Char) (rest : List Char) :
    member field ++ rest = quote field.1 ++ (':' :: field.2 ++ rest) := by
  simp [member]

theorem entries_first {entry : String → α → Reader α} {before middle : α}
    {field : String × List Char} (first : Reads (entry field.1 before) (':' :: field.2) middle)
    (fuel : Nat) {rest : List Char} (ends : Ends rest) :
    entries entry (fuel + 1) true before (member field ++ rest) =
      entries entry fuel false middle rest := by
  have key := string_quote field.1 (':' :: field.2 ++ rest)
  rw [member_append]
  obtain ⟨text, quoted⟩ : ∃ text,
    quote field.1 ++ (':' :: field.2 ++ rest) = '"' :: text := ⟨_, rfl⟩
  rw [quoted] at key ⊢
  rw [entries, Reader.bind_of_ok (peek_cons (by decide) _ _)]
  simp only [Bool.not_true, Bool.false_eq_true, ↓reduceIte]
  -- The character is a quotation mark, so the match is decided and the key comes next.
  have mark := peek_cons (by decide : isBlank '"' = false) .endInValue text
  refine (Reader.bind_of_ok mark).trans ?_
  exact (Reader.bind_of_ok key).trans (Reader.bind_of_ok (first rest ends))

theorem entries_next {entry : String → α → Reader α} {before middle : α}
    {field : String × List Char} (first : Reads (entry field.1 before) (':' :: field.2) middle)
    (fuel : Nat) {rest : List Char} (ends : Ends rest) :
    entries entry (fuel + 1) false before (',' :: member field ++ rest) =
      entries entry fuel false middle rest := by
  rw [← entries_first first fuel ends]
  rw [List.cons_append, member_append]
  obtain ⟨text, quoted⟩ : ∃ text,
    quote field.1 ++ (':' :: field.2 ++ rest) = '"' :: text := ⟨_, rfl⟩
  rw [quoted]
  rw [entries, Reader.bind_of_ok (peek_cons (by decide) _ _)]
  rw [entries, Reader.bind_of_ok (peek_cons (by decide) _ _)]
  rfl

-- Fuel for each field and for the closing brace.
theorem entries_tail {entry : String → α → Reader α} {before after : α}
    {fields : List (String × List Char)} (steps : Steps entry before fields after)
    (rest : List Char) {fuel : Nat} (enough : fields.length < fuel) :
    entries entry fuel false before
      ((fields.flatMap fun field => ',' :: member field) ++ '\x7d' :: rest) =
      .ok (after, rest) := by
  induction steps generalizing fuel with
  | nil record =>
      obtain ⟨fuel, rfl⟩ := Nat.exists_eq_add_one_of_ne_zero (Nat.ne_of_gt enough)
      rw [List.flatMap_nil, List.nil_append, entries]
      rw [Reader.bind_of_ok (peek_cons (by decide) _ _)]
      rfl
  | @cons before middle after field fields first others ih =>
      rw [List.length_cons] at enough
      obtain ⟨fuel, rfl⟩ : ∃ less, fuel = less + 1 := ⟨fuel - 1, by omega⟩
      rw [List.flatMap_cons, List.append_assoc,
        entries_next first fuel (ends_tail member fields rfl rest)]
      exact ih (by omega)

theorem record_object {entry : String → α → Reader α} {start after : α} {first : String × List Char}
    {fields : List (String × List Char)} (steps : Steps entry start (first :: fields) after)
    (rest : List Char) :
    record entry start (object (first :: fields) ++ rest) = .ok (after, rest) := by
  have text : object (first :: fields) ++ rest =
      '\x7b' :: (member first ++
        ((fields.flatMap fun field => ',' :: member field) ++ '\x7d' :: rest)) := by
    have written := commas_cons member first fields
    simp only [object]
    rw [show (fun field : String × List Char => quote field.1 ++ ':' :: field.2) = member from rfl,
      written]
    simp
  rw [text, record, Reader.bind_of_ok (peek_cons (by decide) _ _)]
  simp only [ne_eq, not_true_eq_false, ↓reduceIte]
  rw [Reader.bind_of_ok (advance_cons _ _), Reader.get_bind]
  cases steps with
  | @cons _ middle _ _ _ begin others =>
      rw [entries_first begin _ (ends_tail member fields rfl rest)]
      apply entries_tail others
      have commas := length_le_flatMap member fields
      simp only [List.length_append, List.length_cons]
      omega

theorem field_of_none {value : Reader β} {text rest : List Char} {read : β}
    (reads : value text = .ok (read, rest)) (name : String) :
    field name none value (':' :: text) = .ok (some read, rest) := by
  unfold field
  simp only [Option.isSome_none, Bool.false_eq_true, ↓reduceIte]
  exact (Reader.bind_of_ok (colon_cons text)).trans (Reader.bind_of_ok reads)

theorem Reads.field {value : Reader β} {written : List Char} {read : β}
    (reads : Reads value written read) (name : String) :
    Reads (field name none value) (':' :: written) (some read) :=
  fun rest ends => field_of_none (reads rest ends) name

theorem Reads.part {reader : Reader β} {written : List Char} {read : β} {part : β → α}
    (reads : Reads reader written read) :
    Reads (reader >>= fun read => pure (part read)) written (part read) :=
  fun rest ends => Reader.bind_of_ok (reads rest ends)

theorem readText_eq_ok {value : Reader α} {text : String} {read : α} :
    readText value text = .ok read ↔
      ∃ rest, value text.toList = .ok (read, rest) ∧ rest.dropWhile isBlank = [] := by
  unfold readText
  show Except.bind (value text.toList) _ = _ ↔ _
  cases value text.toList with
  | error cause => simp [Except.bind]
  | ok step =>
      obtain ⟨result, rest⟩ := step
      cases blank : (rest.dropWhile isBlank).isEmpty with
      | true =>
          have ended := List.isEmpty_iff.mp blank
          simp only [Except.bind, blank, ↓reduceIte, Check.pure_eq_ok, Except.ok.injEq,
            Prod.mk.injEq]
          constructor
          · rintro rfl
            exact ⟨rest, ⟨rfl, rfl⟩, ended⟩
          · rintro ⟨other, ⟨rfl, rfl⟩, -⟩
            rfl
      | false =>
          simp only [Except.bind, blank, Bool.false_eq_true, ↓reduceIte, Except.ok.injEq,
            Prod.mk.injEq]
          constructor
          · intro wrong
            cases wrong
          · rintro ⟨other, ⟨-, rfl⟩, ended⟩
            rw [ended] at blank
            contradiction

theorem readText_object {entry : String → α → Reader α} {start after : α}
    {first : String × List Char} {fields : List (String × List Char)} {finish : α → Reader β}
    {value : β} (steps : Steps entry start (first :: fields) after)
    (finished : finish after [] = .ok (value, [])) :
    readText (record entry start >>= finish) (String.ofList (object (first :: fields))) =
      .ok value := by
  have built := record_object steps []
  rw [List.append_nil] at built
  apply readText_eq_ok.mpr
  rw [String.toList_ofList]
  exact ⟨[], (Reader.bind_of_ok built).trans finished, rfl⟩

theorem readText_record {entry : String → α → Reader α} {start after : α}
    {first : String × List Char} {fields : List (String × List Char)}
    (steps : Steps entry start (first :: fields) after) :
    readText (record entry start) (String.ofList (object (first :: fields))) = .ok after := by
  rw [← bind_pure (record entry start)]
  exact readText_object steps rfl

end VoucherSwap.Json
