/-! Whole numbers in decimal: an optional sign and ASCII digits, within 64 bits. -/

namespace SimResults.Number

inductive IntegerFault
  | empty
  | invalidDigit
  | tooLarge
  | tooSmall
deriving DecidableEq, Repr

def IntegerFault.message : IntegerFault → String
  | .empty => "cannot parse integer from empty string"
  | .invalidDigit => "invalid digit found in string"
  | .tooLarge => "number too large to fit in target type"
  | .tooSmall => "number too small to fit in target type"

/-- The value of an ASCII digit. -/
def digit? (char : Char) : Option Nat :=
  if '0' ≤ char ∧ char ≤ '9' then some (char.toNat - '0'.toNat) else none

/-- Reads digits onto `value`. The first fault from the left counts, so a number is beyond
`limit` even when a character after the excess is no digit. -/
def readDigits (limit : Nat) (beyond : IntegerFault) (value : Nat) : List Char → Except IntegerFault Nat
  | [] => .ok value
  | char :: rest =>
    match digit? char with
    | none => .error .invalidDigit
    | some digit =>
      let next := value * 10 + digit
      if next ≤ limit then readDigits limit beyond next rest else .error beyond

/-- The greatest whole number of 64 bits; the least is one further from zero. -/
def greatest : Nat := 0x7fffffffffffffff

def readInteger : List Char → Except IntegerFault Int64
  | [] => .error .empty
  | ['+'] | ['-'] => .error .invalidDigit
  | '+' :: digits => (readDigits greatest .tooLarge 0 digits).map fun value => Int64.ofInt value
  | '-' :: digits => (readDigits (greatest + 1) .tooSmall 0 digits).map fun value => Int64.ofInt (-value)
  | digits => (readDigits greatest .tooLarge 0 digits).map fun value => Int64.ofInt value

end SimResults.Number
