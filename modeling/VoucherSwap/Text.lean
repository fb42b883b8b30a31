/-!
Digits and blanks. Decimal numbers are read one digit at a time from the left and kept below a
bound; the first digit at fault decides what is reported. Leading zeros are allowed, and no digits
at all read as the number so far. Hexadecimal digits are written in upper case and read in either
case. Blank text holds nothing but characters with the Unicode property White_Space.
-/

namespace VoucherSwap.Text

inductive DigitFault where
  | notDigit
  | tooLarge
  deriving DecidableEq

def digit? (c : Char) : Option Nat :=
  if c.isDigit then some (c.toNat - '0'.toNat) else none

/-- Reads the digits that follow a number read before. -/
def readDigits {bound : Nat} (number : Fin bound) : List Char → Except DigitFault (Fin bound)
  | [] => .ok number
  | c :: rest =>
    match digit? c with
    | none => .error .notDigit
    | some digit =>
      if fits : number.val * 10 + digit < bound then readDigits ⟨_, fits⟩ rest
      else .error .tooLarge

def hexDigit (value : Nat) : Char := "0123456789ABCDEF".toList.getD value '0'

def hexValue? (c : Char) : Option Nat :=
  if c.isDigit then some (c.toNat - '0'.toNat)
  else if 'a' ≤ c ∧ c ≤ 'f' then some (c.toNat - 'a'.toNat + 10)
  else if 'A' ≤ c ∧ c ≤ 'F' then some (c.toNat - 'A'.toNat + 10)
  else none

def hexOfBytes (bytes : List UInt8) : List Char :=
  bytes.flatMap fun byte => [hexDigit (byte.toNat / 16), hexDigit (byte.toNat % 16)]

/-- The twenty-five blank characters as closed ranges. The zero-width space is not one of them. -/
def blankRanges : List (Nat × Nat) :=
  [(0x09, 0x0D), (0x20, 0x20), (0x85, 0x85), (0xA0, 0xA0), (0x1680, 0x1680), (0x2000, 0x200A),
    (0x2028, 0x2029), (0x202F, 0x202F), (0x205F, 0x205F), (0x3000, 0x3000)]

def isBlankChar (c : Char) : Bool :=
  blankRanges.any fun range => range.1 ≤ c.toNat && c.toNat ≤ range.2

/-- Empty text is blank. -/
def isBlank (text : String) : Bool :=
  text.toList.all isBlankChar

end VoucherSwap.Text
