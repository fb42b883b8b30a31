import VoucherSwap.Decoding
import VoucherSwap.Digest.Sha256
import VoucherSwap.Text

/-!
Denominations of tokens. A token that reached its chain over channels carries a trace: one hop for
each channel it passed, the latest hop first. As text the hops stand in front of the base
denomination, all parts joined by slashes. Reading takes hops off the front for as long as two parts
form a port and a channel; if nothing is left behind the last hop, the whole text is a base
denomination without a trace. A voucher stands on this chain for a token that arrived over a
channel. Its denomination is `ibc/` and the digest of the token's trace in upper-case hexadecimal
digits.
-/

namespace VoucherSwap

structure BaseDenom where
  text : String
  visible : Text.isBlank text = false
  deriving DecidableEq

namespace BaseDenom

def ofText (text : String) : Except DecodingError BaseDenom :=
  if blank : Text.isBlank text then .error (.missing "empty base denom")
  else .ok ⟨text, Bool.eq_false_iff.mpr blank⟩

instance : ToString BaseDenom := ⟨text⟩

theorem ofText_text (base : BaseDenom) : ofText base.text = .ok base := by
  simp [ofText, base.visible]

theorem text_of_ofText {text : String} {base : BaseDenom} (read : ofText text = .ok base) :
    base.text = text := by
  unfold ofText at read
  split at read
  · contradiction
  · cases read; rfl

end BaseDenom

structure Denom where
  hops : List Endpoint
  base : BaseDenom
  deriving DecidableEq

namespace Denom

/-- Hops taken off the front, and the parts behind them. -/
def splitHops : List (List Char) → List Endpoint × List (List Char)
  | port :: channel :: rest =>
    match Identifier.ofText (String.ofList port), Identifier.ofText (String.ofList channel) with
    | .ok port, .ok channel =>
      let (hops, others) := splitHops rest
      (⟨port, channel⟩ :: hops, others)
    | _, _ => ([], port :: channel :: rest)
  | others => ([], others)

def ofText (text : String) : Except DecodingError Denom :=
  match splitHops (text.toList.splitOn '/') with
  | (_, []) => return ⟨[], ← BaseDenom.ofText text⟩
  | (hops, others) =>
    return ⟨hops, ← BaseDenom.ofText (String.ofList (['/'].intercalate others))⟩

def trace (denom : Denom) : String := "/".intercalate (denom.hops.map Endpoint.text)

def text (denom : Denom) : String :=
  denom.hops.foldr (fun hop rest => s!"{hop}/{rest}") denom.base.text

instance : ToString Denom := ⟨text⟩

/-- The token's latest hop was this one, so over this channel it is on its way back. -/
def arrivedOver (denom : Denom) (hop : Endpoint) : Bool := denom.hops.head? == some hop

def addHop (denom : Denom) (hop : Endpoint) : Denom := { denom with hops := hop :: denom.hops }

def removeHop (denom : Denom) (hop : Endpoint) : Denom :=
  if denom.arrivedOver hop then { denom with hops := denom.hops.tail } else denom

end Denom

namespace Voucher

def hopText (port channel : String) : String := s!"{port}/{channel}/"

def trace (port channel denom : String) : String := hopText port channel ++ denom

def ofTrace (trace : String) : String :=
  "ibc/" ++ String.ofList (Text.hexOfBytes (Digest.sha256 trace.toUTF8.toList))

/-- The voucher of a denomination that arrived over a channel. -/
def denom (port channel denom : String) : String := ofTrace (trace port channel denom)

end Voucher

namespace Denom

/-- The denomination under which a bank holds a token: a token without a trace under its own name,
any other as the voucher of its whole trace. -/
def ledgerName (denom : Denom) : String :=
  if denom.hops.isEmpty then denom.base.text else Voucher.ofTrace denom.text

end Denom

end VoucherSwap
