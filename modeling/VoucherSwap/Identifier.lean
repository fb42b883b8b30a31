import VoucherSwap.Text
import VoucherSwap.Text.Alphanumeric

/-!
Identifiers of ports, channels, connections and light clients. An identifier is made of letters,
digits and `. _ + - # [ ] < >`, and its size in bytes lies within bounds that depend on its kind.
Channels and connections are numbered: the name of the kind, a hyphen, and a number of 64 bits
without leading zeros. A plus sign may stand in front of that number and stays part of the
identifier.
-/

namespace VoucherSwap

inductive IndexFault where
  | empty
  | digits (fault : Text.DigitFault)
  deriving DecidableEq

def IndexFault.message : IndexFault → String
  | .empty => "cannot parse integer from empty string"
  | .digits .notDigit => "invalid digit found in string"
  | .digits .tooLarge => "number too large to fit in target type"

inductive IdentifierError where
  | invalidLength (id : String) (least most : Nat)
  | invalidCharacter (id : String)
  | invalidPrefix (id : String)
  | unreadableIndex (id : String) (fault : IndexFault)
  deriving DecidableEq

def IdentifierError.message : IdentifierError → String
  | .invalidLength id least most =>
    s!"id `{id}` has invalid length; must be between [`{least}`,`{most}`)"
  | .invalidCharacter id =>
    s!"id `{id}` can only contain alphanumeric characters or `.`, `_`, `+`, `-`, `#`, " ++
      "- `[`, `]`, `<`, `>`"
  | .invalidPrefix id => s!"invalid prefix `{id}`"
  | .unreadableIndex id fault => s!"failed to parse: `named index `{id}`: {fault.message}`"

inductive IdentifierKind where
  | port
  | channel
  | connection
  | client
  deriving DecidableEq

namespace IdentifierKind

/-- Least and greatest size in bytes, both inclusive. -/
def bounds : IdentifierKind → Nat × Nat
  | .port => (2, 128)
  | .channel => (8, 64)
  | .connection => (10, 64)
  | .client => (9, 64)

def stem? : IdentifierKind → Option String
  | .channel => some "channel"
  | .connection => some "connection"
  | .port | .client => none

end IdentifierKind

namespace Identifier

def isIdentifierChar (c : Char) : Bool :=
  Text.isAlphanumeric c || "._+-#[]<>".toList.contains c

def readNumber (digits : List Char) : Except IndexFault (Fin UInt64.size) :=
  (Text.readDigits ⟨0, by decide⟩ digits).mapError .digits

/-- A plus sign needs a number behind it. -/
def readIndex : List Char → Except IndexFault (Fin UInt64.size)
  | [] => .error .empty
  | ['+'] => .error (.digits .notDigit)
  | '+' :: number => readNumber number
  | number => readNumber number

/-- The rest of a text behind its first part, if it starts with that part. -/
def behind? : List Char → List Char → Option (List Char)
  | [], text => some text
  | _ :: _, [] => none
  | c :: first, d :: text => if c = d then behind? first text else none

def checkNumbered (id stem : String) : Except IdentifierError Unit :=
  match behind? (stem.toList ++ ['-']) id.toList with
  | none => .error (.invalidPrefix id)
  | some ('0' :: _ :: _) => .error (.invalidPrefix id)
  | some number =>
    match readIndex number with
    | .error fault => .error (.unreadableIndex id fault)
    | .ok _ => .ok ()

/-- The first rule that an identifier breaks: its characters, its size, its number. -/
def check (kind : IdentifierKind) (id : String) : Except IdentifierError Unit :=
  if !id.toList.all isIdentifierChar then .error (.invalidCharacter id)
  else if id.utf8ByteSize < kind.bounds.1 || kind.bounds.2 < id.utf8ByteSize then
    .error (.invalidLength id kind.bounds.1 kind.bounds.2)
  else
    match kind.stem? with
    | none => .ok ()
    | some stem => checkNumbered id stem

end Identifier

structure Identifier (kind : IdentifierKind) where
  text : String
  valid : Identifier.check kind text = .ok ()
  deriving DecidableEq

namespace Identifier

variable {kind : IdentifierKind}

def ofText (text : String) : Except IdentifierError (Identifier kind) :=
  match checked : check kind text with
  | .ok () => .ok ⟨text, checked⟩
  | .error cause => .error cause

instance : ToString (Identifier kind) := ⟨text⟩

theorem ofText_text (id : Identifier kind) : ofText id.text = .ok id := by
  unfold ofText
  split
  · rfl
  · rename_i cause failed
    rw [id.valid] at failed
    contradiction

theorem text_of_ofText {text : String} {id : Identifier kind} (read : ofText text = .ok id) :
    id.text = text := by
  unfold ofText at read
  split at read
  · cases read; rfl
  · contradiction

end Identifier

abbrev PortId := Identifier .port

abbrev ChannelId := Identifier .channel

abbrev ConnectionId := Identifier .connection

abbrev ClientId := Identifier .client

/-- One end of a channel: a port and a channel bound to it. -/
structure Endpoint where
  port : PortId
  channel : ChannelId
  deriving DecidableEq

namespace Endpoint

def text (endpoint : Endpoint) : String := s!"{endpoint.port}/{endpoint.channel}"

instance : ToString Endpoint := ⟨text⟩

end Endpoint

end VoucherSwap
