import VoucherSwap.Json.Error
import VoucherSwap.Text

/-!
A reader for JSON text in which the target says what is expected. It takes characters off the front
of a text and gives back the rest. Blanks may stand in front of every part. Values nobody asked for
are skipped, with their strings, lists and objects checked and anything else passed over up to the
next comma or closing bracket. Lists and objects together may nest to a depth of `maxDepth`.
-/

namespace VoucherSwap.Json

/-- How deep lists and objects may nest, the outermost one counted. -/
def maxDepth : Nat := 127

abbrev Reader := StateT (List Char) (Except Error)

def isBlank (c : Char) : Bool := c = ' ' || c = '\n' || c = '\t' || c = '\r'

def peek (atEnd : Error) : Reader Char := do
  let text := (← get).dropWhile isBlank
  set text
  match text with
  | [] => throw atEnd
  | c :: _ => return c

def advance : Reader Unit := modify (·.drop 1)

def colon : Reader Unit := do
  if (← peek .endInObject) = ':' then advance else throw .expectedColon

namespace Quoted

/-- Splits the characters of a string, escapes and all, from what follows its closing quotation
mark. -/
def split? (escaped : Bool) : List Char → Option (List Char × List Char)
  | [] => none
  | c :: rest =>
    if c = '"' ∧ !escaped then some ([], rest)
    else (split? (c = '\\' && !escaped) rest).map fun (body, rest) => (c :: body, rest)

def isControl (c : Char) : Bool := c.toNat < 0x20

def refusal (c : Char) : Error := if isControl c then .controlCharacter else .invalidEscape

/-- The number that hexadecimal digits stand for; the first character that is no digit is
refused. -/
def codeUnit (digits : List Char) : Except Error Nat :=
  digits.foldlM (fun number c =>
    match Text.hexValue? c with
    | some digit => .ok (number * 16 + digit)
    | none => .error (refusal c)) 0

def isHighSurrogate (unit : Nat) : Bool := 0xD800 ≤ unit && unit < 0xDC00

def isLowSurrogate (unit : Nat) : Bool := 0xDC00 ≤ unit && unit < 0xE000

def pair (high low : Nat) : Char :=
  Char.ofNat (0x10000 + (high - 0xD800) * 0x400 + (low - 0xDC00))

def short? : Char → Option Char
  | '"' => some '"'
  | '\\' => some '\\'
  | '/' => some '/'
  | 'b' => some '\x08'
  | 'f' => some '\x0c'
  | 'n' => some '\n'
  | 'r' => some '\r'
  | 't' => some '\t'
  | _ => none

/-- Resolves escapes; the first character that cannot stand where it does decides the error. A high
surrogate is kept until its low one arrives, and only escapes may stand between. -/
def unescape (high : Option Nat) : List Char → Except Error (List Char)
  | [] => if high.isSome then .error .loneSurrogate else .ok []
  | '\\' :: 'u' :: a :: b :: c :: d :: rest =>
    match codeUnit [a, b, c, d] with
    | .error fault => .error fault
    | .ok unit =>
      if isHighSurrogate unit then
        if high.isSome then .error .expectedLowSurrogate else unescape (some unit) rest
      else if isLowSurrogate unit then
        match high with
        | none => .error .expectedHighSurrogate
        | some first => return pair first unit :: (← unescape none rest)
      else return Char.ofNat unit :: (← unescape high rest)
  | '\\' :: 'u' :: digits => codeUnit digits >>= fun _ => .error .invalidEscape
  | '\\' :: c :: rest =>
    match short? c with
    | none => .error (refusal c)
    | some meant => return meant :: (← unescape high rest)
  | c :: rest =>
    if c = '\\' then .error .invalidEscape
    else if isControl c then .error .controlCharacter
    else if high.isSome then .error .loneSurrogate
    else return c :: (← unescape none rest)

/-- A string without a backslash is taken as it stands, control characters included. -/
def resolve (body : List Char) : Except Error (List Char) :=
  if body.contains '\\' then unescape none body else .ok body

end Quoted

def string : Reader String := do
  if (← peek .endInValue) ≠ '"' then throw .wrongType
  advance
  match Quoted.split? false (← get) with
  | none => throw .endInString
  | some (body, rest) =>
    set rest
    return String.ofList (← Quoted.resolve body)

/-- A number of 32 bits. A leading zero is a number of its own. -/
def word32 : Reader UInt32 := do
  let c ← peek .endInValue
  if c = '-' then throw .invalidNumber
  if c = '0' then
    advance
    return 0
  if !c.isDigit then throw .wrongType
  let text ← get
  match Text.readDigits (⟨0, by decide⟩ : Fin UInt32.size) (text.takeWhile Char.isDigit) with
  | .error _ => throw .invalidNumber
  | .ok number =>
    set (text.dropWhile Char.isDigit)
    return .ofFin number

def exactly : List Char → Reader Unit
  | [] => return ()
  | c :: rest => do
    match ← get with
    | [] => throw .expectedWord
    | d :: text =>
      if c = d then
        set text
        exactly rest
      else throw .expectedWord

def bool : Reader Bool := do
  match ← peek .endInValue with
  | 't' =>
    exactly ['t', 'r', 'u', 'e']
    return true
  | 'f' =>
    exactly ['f', 'a', 'l', 's', 'e']
    return false
  | _ => throw .wrongType

variable {α β : Type}

/-- Reads entries up to the closing brace. Each key goes to `entry`, which reads on from the
colon. -/
def entries (entry : String → α → Reader α) : Nat → Bool → α → Reader α
  | 0, _, _ => throw .endInObject
  | fuel + 1, isFirst, read => do
    match ← peek .endInObject with
    | '\x7d' =>
      advance
      return read
    | c =>
      if !isFirst then
        if c ≠ ',' then throw .expectedCommaOrBrace
        advance
      match ← peek .endInValue with
      | '"' => entries entry fuel false (← entry (← string) read)
      | '\x7d' => throw .trailingComma
      | _ => throw .keyNotString

/-- Reads an object into a record, from `start` by way of `entry`. -/
def record (entry : String → α → Reader α) (start : α) : Reader α := do
  if (← peek .endInValue) ≠ '\x7b' then throw .wrongType
  advance
  entries entry ((← get).length + 1) true start

/-- Reads elements up to the closing bracket, the latest one first in `read`. While `free` holds, an
element may stand without a comma in front of it. -/
def elements (element : Reader β) : Nat → Bool → List β → Reader (List β)
  | 0, _, _ => throw .endInList
  | fuel + 1, free, read => do
    match ← peek .endInList with
    | ']' =>
      advance
      return read.reverse
    | ',' =>
      advance
      if (← peek .endInValue) = ']' then throw .trailingComma
      elements element fuel free ((← element) :: read)
    | _ =>
      if !free then throw .expectedCommaOrBracket
      elements element fuel false ((← element) :: read)

def listOf (element : Reader β) : Reader (List β) := do
  if (← peek .endInValue) ≠ '[' then throw .wrongType
  advance
  elements element ((← get).length + 1) true []

def endsValue (c : Char) : Bool := c = ',' || c = '\x7d' || c = ']'

/-- Skips a value whose lists and objects hold what `inner` skips, if they may open at all. -/
def skipWith (inner : Option (Reader Unit)) : Reader Unit := do
  match ← peek .endInValue with
  | '"' => discard string
  | '[' =>
    match inner with
    | none => throw .tooDeep
    | some inner => discard (listOf inner)
  | '\x7b' =>
    match inner with
    | none => throw .tooDeep
    | some inner => record (fun _ _ => do colon; inner) ()
  | c =>
    if endsValue c then throw .expectedValue
    let rest := (← get).dropWhile (!endsValue ·)
    if rest.isEmpty then throw .endInString
    set rest

/-- Skips a value in which lists and objects may nest to the given depth. -/
def skip : Nat → Reader Unit
  | 0 => skipWith none
  | depth + 1 => skipWith (some (skip depth))

def field (name : String) (earlier : Option β) (value : Reader β) : Reader (Option β) := do
  if earlier.isSome then throw (.custom s!"duplicate field `{name}`")
  colon
  return some (← value)

def required (name : String) (value : Option β) : Except Error β :=
  match value with
  | some value => .ok value
  | none => .error (.custom s!"missing field `{name}`")

def readText (value : Reader α) (text : String) : Except Error α := do
  let (read, rest) ← value.run text.toList
  if (rest.dropWhile isBlank).isEmpty then return read else throw .trailingCharacters

end VoucherSwap.Json
