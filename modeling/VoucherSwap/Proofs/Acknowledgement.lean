import Mathlib.Data.List.TakeWhile
import VoucherSwap.Acknowledgement
import VoucherSwap.Proofs.Payload

/-!
Error acknowledgements and what they read as. The message of an error is pasted between two
quotation marks without escapes. It is read back as it was if and only if it has no quotation mark
and no backslash: a mark ends the string early, and a backslash takes a character with it.
-/

namespace VoucherSwap

namespace Text

/-- Text that stands for itself between quotation marks. -/
def Plain (text : String) : Prop := '"' ∉ text.toList ∧ '\\' ∉ text.toList

instance (text : String) : Decidable (Plain text) := inferInstanceAs (Decidable (_ ∧ _))

end Text

namespace Json.Quoted

theorem split?_parts {escaped : Bool} {text body rest : List Char}
    (cut : split? escaped text = some (body, rest)) : text = body ++ '"' :: rest := by
  induction text generalizing escaped body with
  | nil => simp [split?] at cut
  | cons c others ih =>
      simp only [split?] at cut
      split at cut
      · rename_i mark
        simp only [Option.some.injEq, Prod.mk.injEq] at cut
        obtain ⟨rfl, rfl⟩ := cut
        rw [mark.1]
        rfl
      · obtain ⟨⟨inner, behind⟩, further, same⟩ := Option.map_eq_some_iff.mp cut
        cases same
        rw [ih further]
        rfl

theorem split?_plain {body : List Char} (marks : '"' ∉ body) (backslashes : '\\' ∉ body)
    (rest : List Char) : split? false (body ++ '"' :: rest) = some (body, rest) := by
  induction body with
  | nil => simp [split?]
  | cons c others ih =>
      rw [List.mem_cons, not_or] at marks backslashes
      have further := ih marks.2 backslashes.2
      simp [split?, Ne.symm marks.1, Ne.symm backslashes.1, further]

theorem resolve_plain {body : List Char} (backslashes : '\\' ∉ body) : resolve body = .ok body := by
  have free : ¬ body.contains '\\' = true := by
    rw [List.contains_iff_mem]
    exact backslashes
  rw [resolve, if_neg free]

-- Without a backslash no character is escaped, so the first mark ends the string.
theorem mark_notMem {text body rest : List Char} (cut : split? false text = some (body, rest))
    (backslashes : '\\' ∉ body) : '"' ∉ body := by
  induction text generalizing body with
  | nil => simp [split?] at cut
  | cons c others ih =>
      simp only [split?] at cut
      split at cut
      · simp only [Option.some.injEq, Prod.mk.injEq] at cut
        obtain ⟨rfl, -⟩ := cut
        exact List.not_mem_nil
      · rename_i mark
        obtain ⟨⟨inner, behind⟩, further, same⟩ := Option.map_eq_some_iff.mp cut
        cases same
        rw [List.mem_cons, not_or] at backslashes ⊢
        have unescaped : (c = '\\' && !false) = false := by simp [Ne.symm backslashes.1]
        rw [unescaped] at further
        have noMark : '"' ≠ c := by
          rintro rfl
          exact mark ⟨rfl, rfl⟩
        exact ⟨noMark, ih further backslashes.2⟩

theorem unescape_length {high : Option Nat} {body chars : List Char}
    (resolved : unescape high body = .ok chars) :
    chars.length ≤ body.length ∧ ('\\' ∈ body → chars.length < body.length) := by
  fun_induction unescape high body generalizing chars with
  | case2 high =>
      cases resolved
      exact ⟨Nat.le_refl _, fun member => absurd member List.not_mem_nil⟩
  | case5 high a b c d rest unit read surrogate free ih =>
      have shorter := (ih resolved).1
      simp only [List.length_cons]
      omega
  | case7 | case8 | case11 =>
      rename_i ih
      simp only [Check.bind_eq_ok, Check.pure_eq_ok] at resolved
      obtain ⟨others, read, rfl⟩ := resolved
      have shorter := (ih read).1
      simp only [List.length_cons]
      omega
  | case9 high digits short =>
      simp only [Check.bind_eq_ok, reduceCtorEq, and_false, exists_false] at resolved
  | case15 high c rest _ _ _ plain _ _ ih =>
      simp only [Check.bind_eq_ok, Check.pure_eq_ok] at resolved
      obtain ⟨others, read, rfl⟩ := resolved
      have shorter := ih read
      have later : '\\' ∈ c :: rest → '\\' ∈ rest := by
        intro member
        exact List.mem_of_ne_of_mem (Ne.symm plain) member
      simp only [List.length_cons]
      exact ⟨Nat.succ_le_succ shorter.1, fun member => Nat.succ_lt_succ (shorter.2 (later member))⟩
  | case1 | case3 | case4 | case6 | case10 | case12 | case13 | case14 => contradiction

end Json.Quoted

namespace Acknowledgement

open Json (Reader)

def closing (status : Status) : Reader Status := do
  if (← Json.peek .endInObject) ≠ '\x7d' then throw .expectedCommaOrBrace
  Json.advance
  return status

theorem statusReader_failure (text : List Char) :
    statusReader ('\x7b' :: (Json.quote "error" ++ ':' :: text)) =
      ((Status.failure <$> Json.string) >>= closing) text := by
  unfold statusReader
  rw [Json.Reader.bind_of_ok (Json.peek_cons (by decide) _ _)]
  simp only [ne_eq, not_true_eq_false, ↓reduceIte]
  rw [Json.Reader.bind_of_ok (Json.advance_cons _ _),
    Json.Reader.bind_of_ok (Json.string_quote _ _), Json.Reader.bind_of_ok (Json.colon_cons _)]
  rfl

theorem closing_eq_ok {status read : Status} {text rest : List Char} :
    closing status text = .ok (read, rest) ↔
      read = status ∧ text.dropWhile Json.isBlank = '\x7d' :: rest := by
  unfold closing
  have peeked := Json.peek_run .endInObject text
  cases behind : text.dropWhile Json.isBlank with
  | nil =>
      rw [behind] at peeked
      rw [Json.Reader.bind_of_error peeked]
      simp
  | cons c others =>
      rw [behind] at peeked
      rw [Json.Reader.bind_of_ok peeked]
      by_cases brace : c = '\x7d'
      · subst brace
        show Except.ok (status, others) = .ok (read, rest) ↔ _
        simp [eq_comm]
      · simp only [ne_eq, brace, not_false_eq_true, ↓reduceIte]
        show Except.error Json.Error.expectedCommaOrBrace = .ok (read, rest) ↔ _
        simp [brace]

theorem failure_text (message : String) :
    (Status.failure message).text.toList =
      '\x7b' :: (Json.quote "error" ++ ':' :: '"' :: (message.toList ++ ['"', '\x7d'])) := by
  have key : Json.quote "error" = ['"', 'e', 'r', 'r', 'o', 'r', '"'] := by decide
  simp [Status.text, key]

theorem status?_eq_some {status read : Status} :
    (ofStatus status).status? = some read ↔ Json.readText statusReader status.text = .ok read := by
  have bytes : (ofStatus status).bytes = status.text.toUTF8 := rfl
  simp only [status?, bytes, Payload.fromUTF8?_toUTF8, Option.bind_eq_bind, Option.bind_some]
  cases Json.readText statusReader status.text <;> simp [Except.toOption]

-- How an error acknowledgement is read: the message is cut off and resolved, and only a brace may
-- follow.
theorem status?_failure {message : String} {status : Status} :
    (ofStatus (.failure message)).status? = some status ↔
      ∃ body rest chars behind,
        Json.Quoted.split? false (message.toList ++ ['"', '\x7d']) = some (body, rest) ∧
        Json.Quoted.resolve body = .ok chars ∧ rest.dropWhile Json.isBlank = '\x7d' :: behind ∧
        behind.dropWhile Json.isBlank = [] ∧ status = .failure (String.ofList chars) := by
  rw [status?_eq_some, Json.readText_eq_ok, failure_text, statusReader_failure]
  simp only [Json.Reader.bind_eq_ok, Json.Reader.map_eq_ok, Json.string_eq_ok, closing_eq_ok]
  constructor
  · rintro ⟨behind, ⟨-, rest, ⟨-, ⟨body, chars, cut, resolved, rfl⟩, rfl⟩, rfl, brace⟩, ended⟩
    exact ⟨body, rest, chars, behind, cut, resolved, brace, ended, rfl⟩
  · rintro ⟨body, rest, chars, behind, cut, resolved, brace, ended, rfl⟩
    exact ⟨behind, ⟨_, rest, ⟨_, ⟨body, chars, cut, resolved, rfl⟩, rfl⟩, rfl, brace⟩, ended⟩

theorem failure_of_status? {message : String} {status : Status}
    (read : (ofStatus (.failure message)).status? = some status) :
    ∃ other, status = .failure other := by
  obtain ⟨-, -, chars, -, -, -, -, -, rfl⟩ := status?_failure.mp read
  exact ⟨_, rfl⟩

theorem cut_of_plain {message : String} (plain : Text.Plain message) :
    Json.Quoted.split? false (message.toList ++ ['"', '\x7d']) = some (message.toList, ['\x7d']) :=
  Json.Quoted.split?_plain plain.1 plain.2 ['\x7d']

-- The brace that closes the object is the last character, and a quotation mark comes right before
-- it. So if the string ends before its own closing mark, that mark is left over behind the brace,
-- or in front of it.
theorem cut_is_message {message body rest : List Char} {behind : List Char}
    (cut : Json.Quoted.split? false (message ++ ['"', '\x7d']) = some (body, rest))
    (brace : rest.dropWhile Json.isBlank = '\x7d' :: behind)
    (ended : behind.dropWhile Json.isBlank = []) : body = message := by
  have parts := Json.Quoted.split?_parts cut
  have blanks : ∀ c ∈ rest.takeWhile Json.isBlank, Json.isBlank c = true := fun c member =>
    List.mem_takeWhile_imp member
  have blanksBehind : ∀ c ∈ behind, Json.isBlank c = true := List.dropWhile_eq_nil_iff.mp ended
  rw [← List.takeWhile_append_dropWhile (p := Json.isBlank) (l := rest), brace] at parts
  rcases List.eq_nil_or_concat behind with rfl | ⟨others, last, rfl⟩
  · rcases List.eq_nil_or_concat (rest.takeWhile Json.isBlank) with none | ⟨others, last, some⟩
    · rw [none] at parts
      exact (List.append_inj_left' parts rfl).symm
    · rw [some] at parts blanks
      have ends : message ++ ['"'] ++ ['\x7d'] = body ++ '"' :: others ++ [last] ++ ['\x7d'] := by
        simpa using parts
      have mark := List.append_inj_right' (List.append_inj_left' ends rfl) rfl
      cases mark
      exact absurd (blanks '"' (by simp)) (by decide)
  · have ends : message ++ ['"'] ++ ['\x7d'] =
        body ++ '"' :: (rest.takeWhile Json.isBlank ++ '\x7d' :: others) ++ [last] := by
      simpa using parts
    have mark := List.append_inj_right' ends rfl
    cases mark
    exact absurd (blanksBehind '\x7d' (by simp)) (by decide)

/-- A message is read back as it was if and only if it stands for itself between quotation marks. -/
theorem status?_failure_iff {message : String} :
    (ofStatus (.failure message)).status? = some (.failure message) ↔ Text.Plain message := by
  constructor
  · intro read
    obtain ⟨body, rest, chars, behind, cut, resolved, brace, ended, same⟩ := status?_failure.mp read
    have whole := cut_is_message cut brace ended
    subst whole
    rw [Status.failure.injEq] at same
    have backslashes : '\\' ∉ message.toList := by
      intro member
      have contained : message.toList.contains '\\' = true := List.contains_iff_mem.mpr member
      rw [Json.Quoted.resolve, if_pos contained] at resolved
      have shorter := (Json.Quoted.unescape_length resolved).2 member
      rw [same, String.toList_ofList] at shorter
      exact Nat.lt_irrefl _ shorter
    exact ⟨Json.Quoted.mark_notMem cut backslashes, backslashes⟩
  · intro plain
    have resolved := Json.Quoted.resolve_plain plain.2
    refine status?_failure.mpr ⟨_, _, _, [], cut_of_plain plain, resolved, by decide, rfl, ?_⟩
    rw [String.ofList_toList]

theorem status?_eq_none {message : String} (mark : '"' ∈ message.toList)
    (backslashes : '\\' ∉ message.toList) :
    (ofStatus (.failure message)).status? = none := by
  apply Option.eq_none_iff_forall_ne_some.mpr
  intro status read
  obtain ⟨body, rest, chars, behind, cut, -, brace, ended, -⟩ := status?_failure.mp read
  have whole := cut_is_message cut brace ended
  subst whole
  exact Json.Quoted.mark_notMem cut backslashes mark

end Acknowledgement

end VoucherSwap
