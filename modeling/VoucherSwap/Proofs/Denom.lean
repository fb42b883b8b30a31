import VoucherSwap.Denom

/-!
Denominations and their texts. A text that reads as a denomination is the text of that denomination,
and a hop at its front is its latest hop, unless there is nothing behind the hops. A voucher's name
has a single slash, so it is never the text of a trace.
-/

namespace VoucherSwap

namespace Identifier

variable {kind : IdentifierKind}

theorem all_identifierChar (id : Identifier kind) : id.text.toList.all isIdentifierChar = true := by
  have valid := id.valid
  unfold check at valid
  cases chars : id.text.toList.all isIdentifierChar with
  | true => rfl
  | false => simp [chars] at valid

theorem notMem_text {c : Char} (foreign : isIdentifierChar c = false) (id : Identifier kind) :
    c ∉ id.text.toList := by
  intro member
  have valid := List.all_eq_true.mp id.all_identifierChar c member
  rw [foreign] at valid
  contradiction

theorem slash_notMem (id : Identifier kind) : '/' ∉ id.text.toList := notMem_text (by decide) id

theorem text_ne_empty (id : Identifier kind) : id.text ≠ "" := by
  intro empty
  have valid := id.valid
  rw [empty] at valid
  cases kind <;> cases valid

theorem ofText_eq_ok {text : String} {id : Identifier kind} :
    ofText text = .ok id ↔ id.text = text := by
  constructor
  · exact text_of_ofText
  · rintro rfl
    exact ofText_text id
end Identifier

namespace Denom

def hopSegments (hop : Endpoint) : List (List Char) :=
  [hop.port.text.toList, hop.channel.text.toList]

theorem splitHops_hop (hop : Endpoint) (rest : List (List Char)) :
    splitHops (hop.port.text.toList :: hop.channel.text.toList :: rest) =
      (hop :: (splitHops rest).1, (splitHops rest).2) := by
  simp only [splitHops, String.ofList_toList, Identifier.ofText_text]

theorem splitHops_parts (parts : List (List Char)) :
    (splitHops parts).1.flatMap hopSegments ++ (splitHops parts).2 = parts := by
  fun_induction splitHops parts with
  | case1 port channel rest portId channelId portRead channelRead hops others split ih =>
      have portText := Identifier.text_of_ofText portRead
      have channelText := Identifier.text_of_ofText channelRead
      rw [split] at ih
      simp only [List.flatMap_cons, List.append_assoc, ih]
      simp [hopSegments, portText, channelText]
  | case2 => rfl
  | case3 => rfl

theorem splitHops_hops (hops : List Endpoint) :
    splitHops (hops.flatMap hopSegments) = (hops, []) := by
  induction hops with
  | nil => rfl
  | cons hop hops ih =>
      rw [List.flatMap_cons, hopSegments, List.cons_append, List.cons_append, List.nil_append,
        splitHops_hop, ih]

theorem slash_notMem_hopSegments {hops : List Endpoint} {part : List Char}
    (member : part ∈ hops.flatMap hopSegments) :
    '/' ∉ part := by
  obtain ⟨hop, -, side⟩ := List.mem_flatMap.mp member
  simp only [hopSegments, List.mem_cons, List.not_mem_nil, or_false] at side
  rcases side with rfl | rfl
  · exact hop.port.slash_notMem
  · exact hop.channel.slash_notMem

theorem text_cons (hop : Endpoint) (hops : List Endpoint) (base : BaseDenom) :
    text ⟨hop :: hops, base⟩ = hop.text ++ "/" ++ text ⟨hops, base⟩ := by
  simp [text, toString]

theorem toList_hopText (hop : Endpoint) :
    hop.text.toList = hop.port.text.toList ++ '/' :: hop.channel.text.toList := by
  simp [Endpoint.text, toString]

theorem intercalate_hop (hop : Endpoint) {others : List (List Char)} (some : others ≠ []) :
    ['/'].intercalate (hopSegments hop ++ others) =
      hop.text.toList ++ '/' :: ['/'].intercalate others := by
  rw [hopSegments, List.cons_append, List.cons_append, List.nil_append, List.intercalate_cons_cons,
    List.intercalate_cons_of_ne_nil some, toList_hopText]
  simp

theorem toList_text {hops : List Endpoint} {base : BaseDenom} {others : List (List Char)}
    (some : others ≠ []) (behind : base.text.toList = ['/'].intercalate others) :
    (text ⟨hops, base⟩).toList = ['/'].intercalate (hops.flatMap hopSegments ++ others) := by
  induction hops with
  | nil => simpa [text] using behind
  | cons hop hops ih =>
      have more : hops.flatMap hopSegments ++ others ≠ [] := by simp [some]
      rw [text_cons, String.toList_append, String.toList_append, ih, List.flatMap_cons,
        List.append_assoc (hopSegments hop), intercalate_hop hop more]
      simp

-- If nothing is left behind the hops, the whole text is the base, and its own segments are the
-- hops.
theorem ofText_eq_ok {text : String} {denom : Denom} (read : ofText text = .ok denom) :
    ((splitHops (text.toList.splitOn '/')).2 = [] ∧ denom.hops = [] ∧ denom.base.text = text) ∨
      ((splitHops (text.toList.splitOn '/')).2 ≠ [] ∧
        denom.hops = (splitHops (text.toList.splitOn '/')).1 ∧
        denom.base.text.toList = ['/'].intercalate (splitHops (text.toList.splitOn '/')).2) := by
  unfold ofText at read
  cases parts : splitHops (text.toList.splitOn '/') with
  | mk hops others =>
      cases others with
      | nil =>
          cases base : BaseDenom.ofText text with
          | error cause => simp [parts, base, bind, Except.bind] at read
          | ok value =>
              simp only [parts, base, bind, Except.bind, pure, Except.pure, Except.ok.injEq] at read
              subst read
              exact .inl ⟨rfl, rfl, BaseDenom.text_of_ofText base⟩
      | cons first more =>
          cases base : BaseDenom.ofText (String.ofList (['/'].intercalate (first :: more))) with
          | error cause => simp [parts, base, bind, Except.bind] at read
          | ok value =>
              simp only [parts, base, bind, Except.bind, pure, Except.pure, Except.ok.injEq] at read
              subst read
              refine .inr ⟨by simp, rfl, ?_⟩
              rw [BaseDenom.text_of_ofText base, String.toList_ofList]

theorem text_of_ofText {text : String} {denom : Denom} (read : ofText text = .ok denom) :
    denom.text = text := by
  obtain ⟨hops, base⟩ := denom
  rcases ofText_eq_ok read with ⟨-, none, whole⟩ | ⟨some, front, behind⟩
  · dsimp only at none whole
    subst none
    exact whole
  · dsimp only at front behind
    subst front
    apply String.toList_injective
    rw [toList_text some behind, splitHops_parts, List.intercalate_splitOn]

/-- Some text reads as this denomination. -/
def Readable (denom : Denom) : Prop := ∃ text, ofText text = .ok denom

-- A denomination that was read prints as the text it was read from, so no other text need be tried.
theorem readable_iff {denom : Denom} : denom.Readable ↔ ofText denom.text = .ok denom := by
  constructor
  · rintro ⟨text, read⟩
    rw [text_of_ofText read]
    exact read
  · intro read
    exact ⟨denom.text, read⟩

theorem splitOn_hop (hop : Endpoint) (rest : String) :
    (hop.text ++ "/" ++ rest).toList.splitOn '/' =
      hop.port.text.toList :: hop.channel.text.toList :: rest.toList.splitOn '/' := by
  have shape : (hop.text ++ "/" ++ rest).toList =
      hop.port.text.toList ++ '/' :: (hop.channel.text.toList ++ '/' :: rest.toList) := by
    simp [toList_hopText]
  rw [shape, List.splitOn_append_cons_self_of_not_mem hop.port.slash_notMem,
    List.splitOn_append_cons_self_of_not_mem hop.channel.slash_notMem]

theorem arrivedOver_of_ofText {hop : Endpoint} {rest : String} {denom : Denom}
    (read : ofText (hop.text ++ "/" ++ rest) = .ok denom) :
    denom.hops = [] ∨ denom.arrivedOver hop = true := by
  rcases ofText_eq_ok read with ⟨-, none, -⟩ | ⟨-, front, -⟩
  · exact .inl none
  · rw [splitOn_hop, splitHops_hop] at front
    exact .inr (by simp [arrivedOver, front])

/-- Ports and channels in turn, with nothing behind them. -/
def OnlyHops (text : String) : Prop :=
  ∃ hops : List Endpoint, hops ≠ [] ∧ text = "/".intercalate (hops.map Endpoint.text)

theorem toList_hops (hops : List Endpoint) :
    ("/".intercalate (hops.map Endpoint.text)).toList =
    ['/'].intercalate (hops.flatMap hopSegments) := by
  induction hops with
  | nil => rfl
  | cons hop hops ih =>
      cases hops with
      | nil => simp [toList_hopText, hopSegments, List.intercalate_cons_cons]
      | cons next more =>
          have some : (next :: more).flatMap hopSegments ≠ [] := by simp [hopSegments]
          have split : (hop :: next :: more).flatMap hopSegments =
              hopSegments hop ++ (next :: more).flatMap hopSegments := List.flatMap_cons
          rw [split, intercalate_hop hop some, ← ih]
          simp [String.intercalate_cons_cons]

theorem onlyHops_iff {text : String} :
    OnlyHops text ↔ (splitHops (text.toList.splitOn '/')).2 = [] := by
  constructor
  · rintro ⟨hops, some, rfl⟩
    have parts : hops.flatMap hopSegments ≠ [] := by
      cases hops with
      | nil => contradiction
      | cons hop rest => simp [hopSegments]
    rw [toList_hops, List.splitOn_intercalate _ (fun part => slash_notMem_hopSegments) parts,
      splitHops_hops]
  · intro taken
    have parts := splitHops_parts (text.toList.splitOn '/')
    rw [taken, List.append_nil] at parts
    refine ⟨(splitHops (text.toList.splitOn '/')).1, ?_, ?_⟩
    · intro none
      rw [none, List.flatMap_nil] at parts
      exact List.splitOn_ne_nil _ _ parts.symm
    · apply String.toList_injective
      rw [toList_hops, parts, List.intercalate_splitOn]

theorem visible_of_slash {text : String} (slash : '/' ∈ text.toList) :
    Text.isBlank text = false := by
  apply Bool.eq_false_iff.mpr
  intro blank
  exact absurd (List.all_eq_true.mp blank '/' slash) (by decide)

theorem OnlyHops.visible {text : String} (only : OnlyHops text) : Text.isBlank text = false := by
  obtain ⟨hops, some, rfl⟩ := only
  apply visible_of_slash
  rw [toList_hops]
  cases hops with
  | nil => contradiction
  | cons hop rest =>
      rw [List.flatMap_cons, hopSegments, List.cons_append, List.cons_append, List.nil_append,
        List.intercalate_cons_cons]
      simp

/-- What is behind the hops of a text. -/
def behind (text : String) : String :=
  String.ofList (['/'].intercalate (splitHops (text.toList.splitOn '/')).2)

-- A text reads as a denomination unless what is behind its hops is blank; hops alone do.
theorem exists_ofText_iff {text : String} :
    (∃ denom, ofText text = .ok denom) ↔ OnlyHops text ∨ Text.isBlank (behind text) = false := by
  rw [onlyHops_iff]
  unfold ofText behind
  cases parts : splitHops (text.toList.splitOn '/') with
  | mk hops others =>
      cases others with
      | nil =>
          have visible := (onlyHops_iff.mpr (congrArg Prod.snd parts)).visible
          have base : BaseDenom.ofText text = .ok ⟨text, visible⟩ :=
            BaseDenom.ofText_text ⟨text, visible⟩
          simp [base, bind, Except.bind, pure, Except.pure]
      | cons first more =>
          cases blank : Text.isBlank (String.ofList (['/'].intercalate (first :: more))) with
          | true => simp [BaseDenom.ofText, blank, bind, Except.bind]
          | false => simp [BaseDenom.ofText, blank, bind, Except.bind, pure, Except.pure]

theorem onlyHops_hop_iff {rest : String} (hop : Endpoint) :
    OnlyHops (hop.text ++ "/" ++ rest) ↔ OnlyHops rest := by
  rw [onlyHops_iff, onlyHops_iff, splitOn_hop, splitHops_hop]

theorem exists_ofText_hop_iff {rest : String} (hop : Endpoint) :
    (∃ traced, ofText (hop.text ++ "/" ++ rest) = .ok traced) ↔ ∃ denom,
      ofText rest = .ok denom := by
  rw [exists_ofText_iff, exists_ofText_iff, onlyHops_hop_iff, behind, behind, splitOn_hop,
    splitHops_hop]

theorem arrivedOver_iff_of_ofText {hop : Endpoint} {rest : String} {denom : Denom}
    (read : ofText (hop.text ++ "/" ++ rest) = .ok denom) :
    denom.arrivedOver hop = true ↔ ¬ OnlyHops rest := by
  rw [← onlyHops_hop_iff hop, onlyHops_iff]
  rcases ofText_eq_ok read with ⟨nothing, none, -⟩ | ⟨something, front, -⟩
  · simp only [nothing, not_true_eq_false, iff_false]
    simp [arrivedOver, none]
  · rw [splitOn_hop, splitHops_hop] at front
    simp only [something, not_false_eq_true, iff_true]
    simp [arrivedOver, front]

theorem ofText_hop {rest : String} {denom : Denom} (read : ofText rest = .ok denom)
    (hop : Endpoint) :
    ∃ traced, ofText (hop.text ++ "/" ++ rest) = .ok traced :=
  (exists_ofText_hop_iff hop).mpr ⟨denom, read⟩

end Denom

namespace Voucher

theorem trace_hop (hop : Endpoint) (denom : String) :
    trace hop.port.text hop.channel.text denom = hop.text ++ "/" ++ denom := by
  simp [trace, hopText, Endpoint.text, toString]

theorem toList_ofTrace (trace : String) : (ofTrace trace).toList =
    'i' :: 'b' :: 'c' :: '/' :: Text.hexOfBytes (Digest.sha256 trace.toUTF8.toList) := by
  simp [ofTrace]

theorem hexDigit_mem (value : Nat) : Text.hexDigit value ∈ "0123456789ABCDEF".toList := by
  unfold Text.hexDigit
  rw [List.getD_eq_getElem?_getD]
  cases found : "0123456789ABCDEF".toList[value]? with
  | none => decide
  | some digit => exact List.mem_of_getElem? found

theorem notMem_hexOfBytes {c : Char} (foreign : c ∉ "0123456789ABCDEF".toList)
    (bytes : List UInt8) :
    c ∉ Text.hexOfBytes bytes := by
  intro member
  obtain ⟨byte, -, digit⟩ := List.mem_flatMap.mp member
  simp only [List.mem_cons, List.not_mem_nil, or_false] at digit
  rcases digit with high | low
  · exact foreign (high ▸ hexDigit_mem _)
  · exact foreign (low ▸ hexDigit_mem _)

theorem ofTrace_visible (trace : String) : Text.isBlank (ofTrace trace) = false :=
  Denom.visible_of_slash (by simp [toList_ofTrace])

theorem ofTrace_ne {name : String} (other : name.toList.head? ≠ some 'i') (trace : String) :
    ofTrace trace ≠ name := by
  rintro rfl
  rw [toList_ofTrace] at other
  exact other rfl

-- One slash in the name of a voucher, at least two in a trace.
theorem ofTrace_ne_trace (voucher port channel denom : String) :
    ofTrace voucher ≠ trace port channel denom := by
  intro same
  have slashes :
      (ofTrace voucher).toList.count '/' = (trace port channel denom).toList.count '/' := by
    rw [same]
  have name : (ofTrace voucher).toList.count '/' = 1 := by
    have digits := List.count_eq_zero.mpr
      (notMem_hexOfBytes (c := '/') (by decide) (Digest.sha256 voucher.toUTF8.toList))
    simp only [toList_ofTrace, List.count_cons, digits]
    decide
  have hop : 2 ≤ (trace port channel denom).toList.count '/' := by
    simp only [trace, hopText, toString, String.toList_append, List.count_append]
    have slash : "/".toList.count '/' = 1 := by decide
    omega
  omega

end Voucher

namespace Denom

theorem ledgerName_addHop (denom : Denom) (hop : Endpoint) :
    (denom.addHop hop).ledgerName = Voucher.denom hop.port.text hop.channel.text denom.text := by
  simp only [ledgerName, addHop, List.isEmpty_cons, Bool.false_eq_true, ↓reduceIte, Voucher.denom,
    Voucher.trace_hop, text_cons]

theorem ledgerName_of_arrivedOver {denom : Denom} {hop : Endpoint}
    (arrived : denom.arrivedOver hop = true) :
    denom.ledgerName = Voucher.ofTrace denom.text := by
  cases hops : denom.hops with
  | nil => simp [arrivedOver, hops] at arrived
  | cons first rest => simp [ledgerName, hops]

theorem ledgerName_of_hops_nil {denom : Denom} (none : denom.hops = []) :
    denom.ledgerName = denom.text := by
  simp [ledgerName, text, none]

end Denom

end VoucherSwap
