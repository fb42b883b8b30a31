import VoucherSwap.Text

/-!
JSON text without spaces. A quotation mark, a backslash and the control characters below space are
escaped; every other character stands for itself. Texts are lists of characters until they are
complete.
-/

namespace VoucherSwap.Json

def escape (c : Char) : List Char :=
  match c with
  | '"' => ['\\', '"']
  | '\\' => ['\\', '\\']
  | '\n' => ['\\', 'n']
  | '\r' => ['\\', 'r']
  | '\t' => ['\\', 't']
  | '\x08' => ['\\', 'b']
  | '\x0c' => ['\\', 'f']
  | c =>
    if c.toNat < 0x20 then
      ['\\', 'u', '0', '0', Text.hexDigit (c.toNat / 16), Text.hexDigit (c.toNat % 16)]
    else [c]

def quote (text : String) : List Char :=
  '"' :: text.toList.flatMap escape ++ ['"']

def commas : List (List Char) → List Char := [','].intercalate

def list (values : List (List Char)) : List Char :=
  '[' :: commas values ++ [']']

def object (fields : List (String × List Char)) : List Char :=
  '\x7b' :: commas (fields.map fun field => quote field.1 ++ ':' :: field.2) ++ ['\x7d']

def boolean (value : Bool) : List Char :=
  if value then ['t', 'r', 'u', 'e'] else ['f', 'a', 'l', 's', 'e']

def number (value : Nat) : List Char := Nat.toDigits 10 value

end VoucherSwap.Json
