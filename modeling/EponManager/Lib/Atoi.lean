import EponManager.Lib.CString
import Mathlib.Algebra.Group.Nat.Defs
import Mathlib.Algebra.Ring.Int.Defs

/-!
# `atoi`

`strtol` in base ten skips white space, reads an optional sign and then digits, and clamps to the
range of a 64-bit `long`; `atoi` narrows that to 32 bits. `strtoull` is the same for an unsigned
number of 64 bits.
-/

namespace EponManager.Lib

/-- `isspace` in the C locale -/
def isSpace (c : Char) : Bool := c = ' ' || ('\t' ≤ c && c ≤ '\r')

/-- The number that the leading digits of a text spell, after `acc`. -/
def digitsFrom : Nat → List Char → Nat
  | acc, []      => acc
  | acc, c :: cs => if c.isDigit then digitsFrom (10 * acc + (c.toNat - '0'.toNat)) cs else acc

/-- `strtol(s, NULL, 10)` -/
def strtol (s : List Char) : Int :=
  let value : Int :=
    match s.dropWhile isSpace with
    | '-' :: cs => - (digitsFrom 0 cs : Int)
    | '+' :: cs => digitsFrom 0 cs
    | cs        => digitsFrom 0 cs
  max (-2 ^ 63) (min (2 ^ 63 - 1) value)

/-- `(uint32_t)atoi(s)` -/
def atoiU32 (s : String) : UInt32 := UInt32.ofNat (strtol s.toList % 2 ^ 32).toNat

example : atoiU32 " +0900 s" = 900 := by decide

/-- `atoi(s)` -/
def atoi (s : List Char) : Int32 := Int32.ofInt (strtol s)

/-- `strtoull(s, NULL, 10)`: a number too large is clamped, and a sign negates modulo `2 ^ 64`. -/
def strtoull (s : List Char) : UInt64 :=
  match s.dropWhile isSpace with
  | '-' :: cs =>
      if digitsFrom 0 cs < 2 ^ 64 then 0 - UInt64.ofNat (digitsFrom 0 cs)
      else UInt64.ofNat (2 ^ 64 - 1)
  | '+' :: cs => UInt64.ofNat (min (2 ^ 64 - 1) (digitsFrom 0 cs))
  | cs        => UInt64.ofNat (min (2 ^ 64 - 1) (digitsFrom 0 cs))

end EponManager.Lib
