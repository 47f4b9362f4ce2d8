/-
Numbers with a fraction or an exponent. Documents hold them where no field takes one, but even
then a number has to be one that double precision can hold.
-/

import RestrictedAccess.Document.Digits

namespace RestrictedAccess.Document

/-- The number `digits * 10 ^ exponent`, or its negative. -/
structure Decimal where
  isNegative : Bool
  digits : Nat
  exponent : Int
  deriving DecidableEq

namespace Decimal

/-- Split a sign off a number. A number without one is not negative. -/
def splitSign : List Char → Bool × List Char
  | '+' :: rest => (false, rest)
  | '-' :: rest => (true, rest)
  | rest => (false, rest)

def readExponent? : List Char → Option Int
  | [] => some 0
  | mark :: rest =>
      if mark = 'e' ∨ mark = 'E' then
        let (isNegative, digits) := splitSign rest
        (Digits.read? 10 digits).map (fun value => if isNegative then -(value : Int) else value)
      else none

/-- Read a number with at least one digit, before or after the point. -/
def read? (chars : List Char) : Option Decimal := do
  let (isNegative, unsigned) := splitSign chars
  let whole := unsigned.takeWhile Char.isDigit
  let (fraction, rest) := match unsigned.dropWhile Char.isDigit with
    | '.' :: rest => (rest.takeWhile Char.isDigit, rest.dropWhile Char.isDigit)
    | rest => ([], rest)
  let digits ← Digits.read? 10 (whole ++ fraction)
  let exponent ← readExponent? rest
  return ⟨isNegative, digits, exponent - fraction.length⟩

def overflow : Nat := Nat.pow 2 1024 - Nat.pow 2 970

def overflowDigits : Nat := 309

/-- Whether double precision can hold the number. The sizes alone decide when they are far from
the overflow, so that no power of ten is taken that is much larger than the number itself. -/
def isFinite (number : Decimal) : Bool :=
  let size := (Nat.toDigits 10 number.digits).length
  number.digits = 0 || number.exponent + size < overflowDigits
    || (number.exponent + size ≤ overflowDigits
      && number.digits * Nat.pow 10 number.exponent.toNat
        < overflow * Nat.pow 10 (-number.exponent).toNat)

end Decimal

end RestrictedAccess.Document
