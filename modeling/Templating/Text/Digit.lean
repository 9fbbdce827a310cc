/-!
# Digits in a base

Digits beyond nine are letters of either case. A run of digits stands for a number when all of them
are digits of its base.
-/

namespace Templating.Text

/-- The value of a digit. -/
def digitIn? (base : Nat) (c : Char) : Option Nat :=
  let code := c.toNat
  let value? :=
    if c.isDigit then some (code - 0x30)
    else if 0x61 ≤ code && code ≤ 0x7a then some (code - 0x61 + 10)
    else if 0x41 ≤ code && code ≤ 0x5a then some (code - 0x41 + 10)
    else none
  value?.filter (· < base)

/-- The number that a run of digits stands for. -/
def readBase? (base : Nat) (digits : List Char) : Option Nat :=
  if digits.isEmpty then none
  else digits.foldl (fun sum c => do return (← sum) * base + (← digitIn? base c)) (some 0)

/-- The character with a code; halves of a pair have none. -/
def charOf? (code : Nat) : Option Char :=
  if code.isValidChar then some (Char.ofNat code) else none

end Templating.Text
