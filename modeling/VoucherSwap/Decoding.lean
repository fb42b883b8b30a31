import VoucherSwap.Amount
import VoucherSwap.Identifier

/-!
What can be wrong with a value that arrives as text: it is malformed, it is missing, or an
identifier in it is invalid.
-/

namespace VoucherSwap

inductive DecodingError where
  | malformed (description : String)
  | missing (description : String)
  | identifier (cause : IdentifierError)
  deriving DecidableEq

def DecodingError.message : DecodingError → String
  | .malformed description => s!"invalid raw data: `{description}`"
  | .missing description => s!"missing raw data: `{description}`"
  | .identifier cause => s!"identifier error: {cause.message}"

namespace Amount

def decode (text : String) : Except DecodingError Amount :=
  match ofText text with
  | .ok amount => .ok amount
  | .error fault =>
    .error (.malformed s!"amount could not be parsed as a U256: {faultMessage fault}")

end Amount

namespace Identifier

def decode {kind : IdentifierKind} (text : String) : Except DecodingError (Identifier kind) :=
  (ofText text).mapError .identifier

end Identifier

end VoucherSwap
