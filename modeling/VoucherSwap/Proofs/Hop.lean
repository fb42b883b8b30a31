import VoucherSwap.Proofs.Refund

/-!
A hop in front of a denomination. Put in front of the parts, it stands in front of the text with a
slash behind it, the token is held as the voucher of that text, and the hop can be told and taken
off again. The text leads back to the same parts, with one exception: where all the text behind is
made of hops, reading finds nothing that they could belong to, and the whole is a base denomination
without a trace. No port and no channel has a slash in it, so a trace tells its latest hop from what
is behind, and two of them come to the same voucher only if they are the same or their digests
collide.
-/

namespace VoucherSwap

namespace Denom

theorem ext_text {a b : Denom} (hops : a.hops = b.hops) (base : a.base.text = b.base.text) :
    a = b := by
  obtain ⟨hops, base, visible⟩ := a
  obtain ⟨others, other, otherVisible⟩ := b
  dsimp only at hops base
  subst hops base
  rfl

theorem arrivedOver_addHop (denom : Denom) (hop : Endpoint) :
    (denom.addHop hop).arrivedOver hop = true := by
  simp [arrivedOver, addHop]

theorem removeHop_addHop (denom : Denom) (hop : Endpoint) :
    (denom.addHop hop).removeHop hop = denom := by
  rw [removeHop, if_pos (arrivedOver_addHop denom hop)]
  rfl

theorem text_addHop (denom : Denom) (hop : Endpoint) :
    (denom.addHop hop).text = Voucher.trace hop.port.text hop.channel.text denom.text := by
  rw [Voucher.trace_hop]
  exact text_cons hop denom.hops denom.base

theorem ofText_of_onlyHops {text : String} (only : OnlyHops text) :
    ofText text = .ok ⟨[], ⟨text, only.visible⟩⟩ := by
  obtain ⟨denom, read⟩ := exists_ofText_iff.mpr (.inl only)
  rcases ofText_eq_ok read with ⟨-, none, whole⟩ | ⟨some, -, -⟩
  · have same : denom = ⟨[], ⟨text, only.visible⟩⟩ := ext_text none whole
    rw [read, same]
  · exact absurd (onlyHops_iff.mp only) some

theorem ofText_eq_ok_iff {text : String} {denom : Denom} (named : ¬ OnlyHops text) :
    ofText text = .ok denom ↔ denom.hops = (splitHops (text.toList.splitOn '/')).1 ∧
      denom.base.text = behind text := by
  have some := mt onlyHops_iff.mpr named
  constructor
  · intro read
    rcases ofText_eq_ok read with ⟨nothing, -, -⟩ | ⟨-, front, base⟩
    · exact absurd nothing some
    · rw [behind, ← base, String.ofList_toList]
      exact ⟨front, rfl⟩
  · rintro ⟨front, base⟩
    obtain ⟨read, known⟩ := exists_ofText_iff.mpr (.inr (base ▸ denom.base.visible))
    rcases ofText_eq_ok known with ⟨nothing, -, -⟩ | ⟨-, readFront, readBase⟩
    · exact absurd nothing some
    · have same : read = denom := by
        apply ext_text
        · rw [readFront, front]
        · rw [base, behind, ← readBase, String.ofList_toList]
      rw [known, same]

theorem ofText_hop_eq_ok {rest : String} {denom : Denom} {hop : Endpoint}
    (named : ¬ OnlyHops rest) :
    ofText (hop.text ++ "/" ++ rest) = .ok (denom.addHop hop) ↔ ofText rest = .ok denom := by
  have fronted : ¬ OnlyHops (hop.text ++ "/" ++ rest) := mt (onlyHops_hop_iff hop).mp named
  rw [ofText_eq_ok_iff fronted, ofText_eq_ok_iff named, behind, splitOn_hop, splitHops_hop, behind]
  simp [addHop]

theorem ofText_addHop_iff {denom : Denom} {hop : Endpoint} :
    ofText (denom.addHop hop).text = .ok (denom.addHop hop) ↔ denom.Readable ∧
      ¬ OnlyHops denom.text := by
  rw [text_addHop, Voucher.trace_hop, readable_iff]
  by_cases only : OnlyHops denom.text
  · simp [ofText_of_onlyHops ((onlyHops_hop_iff hop).mpr only), only, addHop]
  · simp [ofText_hop_eq_ok only, only]

end Denom

namespace Text

theorem hexDigit_inj {a b : Nat} (aFits : a < 16) (bFits : b < 16)
    (same : hexDigit a = hexDigit b) :
    a = b := by
  have aRead := Json.Quoted.hexValue?_hexDigit ⟨a, aFits⟩
  have bRead := Json.Quoted.hexValue?_hexDigit ⟨b, bFits⟩
  dsimp only at aRead bRead
  rw [same, bRead, Option.some.injEq] at aRead
  exact aRead.symm

theorem hexOfBytes_cons (byte : UInt8) (rest : List UInt8) : hexOfBytes (byte :: rest) =
    hexDigit (byte.toNat / 16) :: hexDigit (byte.toNat % 16) :: hexOfBytes rest := rfl

theorem hexOfBytes_inj {bytes others : List UInt8} (same : hexOfBytes bytes = hexOfBytes others) :
    bytes = others := by
  induction bytes generalizing others with
  | nil =>
      cases others with
      | nil => rfl
      | cons other behind => cases same
  | cons byte rest ih =>
      cases others with
      | nil => cases same
      | cons other behind =>
          rw [hexOfBytes_cons, hexOfBytes_cons, List.cons.injEq, List.cons.injEq] at same
          obtain ⟨first, second, later⟩ := same
          have byteFits := byte.toNat_lt
          have otherFits := other.toNat_lt
          have high := hexDigit_inj (by omega) (by omega) first
          have low := hexDigit_inj (Nat.mod_lt _ (by decide)) (Nat.mod_lt _ (by decide)) second
          have units : byte.toNat = other.toNat := by omega
          rw [UInt8.toNat_inj.mp units, ih later]

-- The bytes of an array are put in front of what was read of it, one by one, and turned round in
-- the end.
theorem toList_loop (array : ByteArray) (index : Nat) (read : List UInt8) :
    ByteArray.toList.loop array index read = read.reverse ++ array.data.toList.drop index := by
  have size : array.size = array.data.toList.length := rfl
  fun_induction ByteArray.toList.loop array index read with
  | case1 index read inside ih =>
      rw [size] at inside
      have next : array.get! index = array.data.toList[index] :=
        getElem!_pos array.data index inside
      rw [ih, List.drop_eq_getElem_cons inside, next]
      simp
  | case2 index read outside =>
      rw [size, Nat.not_lt] at outside
      rw [List.drop_eq_nil_of_le outside, List.append_nil]

theorem toUTF8_inj {text other : String} :
    text.toUTF8.toList = other.toUTF8.toList ↔ text = other := by
  have bytes (array : ByteArray) : array.toList = array.data.toList := toList_loop array 0 []
  rw [bytes, bytes, Array.toList_inj, ← ByteArray.ext_iff]
  exact String.toByteArray_inj

end Text

namespace Digest

/-- Two different messages have the same digest. -/
def Collide (message other : List UInt8) : Prop := message ≠ other ∧ sha256 message = sha256 other

end Digest

namespace Voucher

theorem ofTrace_eq_iff {trace other : String} : ofTrace trace = ofTrace other ↔
    trace = other ∨ Digest.Collide trace.toUTF8.toList other.toUTF8.toList := by
  constructor
  · intro same
    have names := congrArg String.toList same
    simp only [toList_ofTrace, List.cons.injEq, true_and] at names
    by_cases equal : trace = other
    · exact .inl equal
    · exact .inr ⟨mt Text.toUTF8_inj.mp equal, Text.hexOfBytes_inj names⟩
  · rintro (rfl | ⟨-, digests⟩)
    · rfl
    · rw [ofTrace, digests, ofTrace]

theorem trace_inj {hop other : Endpoint} {denom name : String} :
    trace hop.port.text hop.channel.text denom = trace other.port.text other.channel.text name ↔
      hop = other ∧ denom = name := by
  constructor
  · intro same
    have parts := congrArg (fun text => text.toList.splitOn '/') same
    simp only [trace_hop, Denom.splitOn_hop, List.cons.injEq] at parts
    obtain ⟨port, channel, rest⟩ := parts
    have joined := congrArg ['/'].intercalate rest
    rw [List.intercalate_splitOn, List.intercalate_splitOn] at joined
    exact ⟨Endpoint.ext_text (String.toList_injective port) (String.toList_injective channel),
      String.toList_injective joined⟩
  · rintro ⟨rfl, rfl⟩
    rfl

end Voucher

namespace Hop

/-- A hop in front of a denomination, in its parts and in its text. -/
structure Fronts (hop : Endpoint) (denom : Denom) : Prop where
  text : (denom.addHop hop).text = Voucher.trace hop.port.text hop.channel.text denom.text
  ledger : (denom.addHop hop).ledgerName = Voucher.denom hop.port.text hop.channel.text denom.text
  arrived : (denom.addHop hop).arrivedOver hop = true
  removed : (denom.addHop hop).removeHop hop = denom ∧
    ((denom.addHop hop).removeHop hop).ledgerName = denom.ledgerName
  read : Denom.ofText (Voucher.trace hop.port.text hop.channel.text denom.text) =
    .ok (denom.addHop hop) ↔
    denom.Readable ∧ ¬ Denom.OnlyHops denom.text
  unread : Denom.OnlyHops denom.text → ∃ base : BaseDenom,
    base.text = Voucher.trace hop.port.text hop.channel.text denom.text ∧
      Denom.ofText (Voucher.trace hop.port.text hop.channel.text denom.text) = .ok ⟨[], base⟩

theorem fronts (hop : Endpoint) (denom : Denom) : Fronts hop denom where
  text := Denom.text_addHop denom hop
  ledger := Denom.ledgerName_addHop denom hop
  arrived := Denom.arrivedOver_addHop denom hop
  removed := by
    rw [Denom.removeHop_addHop]
    exact ⟨rfl, rfl⟩
  read := by
    rw [← Denom.text_addHop]
    exact Denom.ofText_addHop_iff
  unread only := by
    rw [Voucher.trace_hop]
    exact ⟨_, rfl, Denom.ofText_of_onlyHops ((Denom.onlyHops_hop_iff hop).mpr only)⟩

/-- Two tokens behind one hop each, by their traces and by their vouchers. -/
structure ToldApart (hop other : Endpoint) (denom name : String) : Prop where
  trace : Voucher.trace hop.port.text hop.channel.text denom =
    Voucher.trace other.port.text other.channel.text name ↔
    hop = other ∧ denom = name
  voucher : Voucher.denom hop.port.text hop.channel.text denom =
    Voucher.denom other.port.text other.channel.text name ↔
    hop = other ∧ denom = name ∨
      Digest.Collide (Voucher.trace hop.port.text hop.channel.text denom).toUTF8.toList
        (Voucher.trace other.port.text other.channel.text name).toUTF8.toList

theorem toldApart (hop other : Endpoint) (denom name : String) :
    ToldApart hop other denom name where
  trace := Voucher.trace_inj
  voucher := by
    rw [Voucher.denom, Voucher.denom, Voucher.ofTrace_eq_iff, Voucher.trace_inj]

theorem traces_unambiguous :
    (∀ hop denom, Fronts hop denom) ∧ ∀ hop other denom name, ToldApart hop other denom name :=
  ⟨fronts, toldApart⟩

def returning : Denom := ⟨[Sample.counterpartyEnd], ⟨Sample.nativeDenom, by rfl⟩⟩

theorem traces_unambiguous_returning :
    returning.Readable ∧ ¬ Denom.OnlyHops returning.text ∧
      Denom.ofText "transfer/channel-0/transfer/channel-5/uzig" =
        .ok (returning.addHop Sample.nativeEnd) := by
  have readable : returning.Readable := ⟨"transfer/channel-5/uzig", by rfl⟩
  have named : ¬ Denom.OnlyHops returning.text := by
    rw [Denom.onlyHops_iff]
    decide
  exact ⟨readable, named, (traces_unambiguous.1 Sample.nativeEnd returning).read.mpr
    ⟨readable, named⟩⟩

/-- Read alone, the text of a hop is a base denomination. It stays one when the text has another hop
in front of it. -/
theorem trace_misread :
    ∃ denom, Denom.ofText "transfer/channel-1" = .ok denom ∧
      Denom.ofText (Voucher.trace "transfer" "channel-0" denom.text) = .ok ⟨[], Sample.hopBase⟩ ∧
      ⟨[], Sample.hopBase⟩ ≠ denom.addHop Sample.nativeEnd :=
  ⟨⟨[], ⟨"transfer/channel-1", by rfl⟩⟩, by rfl, by rfl, by decide⟩

end Hop

end VoucherSwap
