/-!
# Blank characters

The characters with the Unicode property White_Space.
-/

namespace Forecast.Blank

/-- Blank characters outside the two runs that `isBlank` tests by their ends. -/
def single : List Nat := [0x20, 0x85, 0xA0, 0x1680, 0x2028, 0x2029, 0x202F, 0x205F, 0x3000]

/-- Whether a character is white space. -/
def isBlank (char : Char) : Bool :=
  decide (0x9 ≤ char.toNat ∧ char.toNat ≤ 0xD)
    || decide (0x2000 ≤ char.toNat ∧ char.toNat ≤ 0x200A)
    || single.contains char.toNat

/-- The text from its first character that is not blank. -/
def skip (chars : List Char) : List Char := chars.dropWhile isBlank

/-- The text between its first and its last character that is not blank. -/
def trim (chars : List Char) : List Char := (skip (skip chars).reverse).reverse

end Forecast.Blank
