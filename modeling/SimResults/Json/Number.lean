import SimResults.Json.Fault
import SimResults.Number.Decimal

/-! Numbers in JSON text. No setting is a number, so a number is either passed over or found
where something else belongs; in the second case it is still read, and its own faults come
first. -/

namespace SimResults.Json

open Number

/-- The largest significand that is kept exactly. -/
def significandLimit : Nat := 0xffffffffffffffff

/-- Extends a significand by digits as long as it stays within the limit; the digits after the
first excess are only counted. -/
def extend (value : Nat) : List Nat → Nat × Nat
  | [] => (value, 0)
  | digit :: rest =>
    if value * 10 + digit ≤ significandLimit then extend (value * 10 + digit) rest
    else (value, rest.length + 1)

/-- Whether a significand times a power of ten is finite, each factor rounded by itself. -/
def inRange (significand : Nat) (power : Int) : Bool :=
  significand == 0 || power < 0 ||
    (power ≤ 308 && !(significand.toFloat * Float.ofScientific 1 false power.toNat).isInf)

/-- A number where another value belongs, after its sign: the fault to report. -/
def numberFault (chars : List Char) : Fault :=
  match takeDigits chars with
  | ([], []) => .truncated
  | ([], _ :: _) | (0 :: _ :: _, _) => .malformed
  | (whole, after) =>
    let (significand, excess) := extend 0 whole
    match after with
    | '.' :: after =>
      match takeDigits after with
      | ([], []) => .truncated
      | ([], _ :: _) => .malformed
      | (fraction, after) =>
        let (significand, unused) := extend significand fraction
        exponentFault significand (excess - (fraction.length - unused : Nat)) after
    | after => exponentFault significand excess after
where
  exponentFault (significand : Nat) (power : Int) (chars : List Char) : Fault :=
    match chars with
    | [] => rangeFault significand power
    | char :: after =>
      if char != 'e' && char != 'E' then rangeFault significand power
      else
        let (negative, unsigned) := match after with
          | '-' :: unsigned => (true, unsigned)
          | '+' :: unsigned => (false, unsigned)
          | unsigned => (false, unsigned)
        match takeDigits unsigned with
        | ([], []) => .truncated
        | ([], _ :: _) => .malformed
        | (digits, _) =>
          let exponent : Int := if negative then -(ofDigits digits : Int) else ofDigits digits
          rangeFault significand (power + exponent)
  rangeFault (significand : Nat) (power : Int) : Fault :=
    if inRange significand power then .mismatched else .malformed

/-- Passes over the digits and the power of ten after `e`. -/
def skipExponent (chars : List Char) : Option (List Char) :=
  let unsigned := match chars with
    | '+' :: rest | '-' :: rest => rest
    | rest => rest
  match takeDigits unsigned with
  | ([], _) => none
  | (_, after) => some after

/-- Passes over a number after its sign. -/
def skipNumber (chars : List Char) : Except Fault (List Char) :=
  let skipped := match takeDigits chars with
    | ([], _) | (0 :: _ :: _, _) => none
    | (_, '.' :: after) =>
      match takeDigits after with
      | ([], _) => none
      | (_, 'e' :: rest) | (_, 'E' :: rest) => skipExponent rest
      | (_, rest) => some rest
    | (_, 'e' :: rest) | (_, 'E' :: rest) => skipExponent rest
    | (_, rest) => some rest
  match skipped with
  | some rest => .ok rest
  | none => .error .malformed

end SimResults.Json
