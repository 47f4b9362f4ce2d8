/-
Numbers as digits in a base up to sixteen. Documents hold them as fields, and texts hold them in
the escapes of characters.
-/

namespace RestrictedAccess.Document.Digits

/-- The value of a digit. Letters count in either case. -/
def value? (base : Nat) (c : Char) : Option Nat :=
  let value :=
    if '0' ≤ c && c ≤ '9' then c.toNat - 48
    else if 'a' ≤ c && c ≤ 'f' then c.toNat - 87
    else if 'A' ≤ c && c ≤ 'F' then c.toNat - 55
    else 16
  if value < base then some value else none

/-- A number in a base. At least one digit is needed. -/
def read? (base : Nat) (digits : List Char) : Option Nat :=
  if digits = [] then none
  else
    digits.foldlM (fun total c => (value? base c).map (fun digit => base * total + digit)) 0

def readChar? (digits : List Char) : Option Char := do
  let code ← read? 16 digits
  if code.isValidChar then some (Char.ofNat code) else none

inductive LetterCase
  | lower
  | upper
  deriving DecidableEq

def hexDigit (letters : LetterCase) (value : Nat) : Char :=
  if value < 10 then Char.ofNat (48 + value)
  else Char.ofNat ((if letters = .lower then 87 else 55) + value)

def hexDigits (letters : LetterCase) : Nat → Nat → List Char
  | 0, _ => []
  | width + 1, value =>
      hexDigits letters width (value / 16) ++ [hexDigit letters (value % 16)]

end RestrictedAccess.Document.Digits
