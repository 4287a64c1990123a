import SimResults.Number.Integer

/-! Real numbers in decimal: an optional sign, then a word for infinity or for no number, or
digits with an optional point and an optional power of ten. The value is the nearest float, and
a number beyond the floats is infinite. -/

namespace SimResults.Number

inductive FloatFault
  | empty
  | invalidLiteral
deriving DecidableEq, Repr

def FloatFault.message : FloatFault → String
  | .empty => "cannot parse float from empty string"
  | .invalidLiteral => "invalid float literal"

/-- The one float that is not a number; numeric columns hold it where no value is known. -/
def notANumber : Float := Float.ofBits 0x7ff8000000000000

def infinity : Float := Float.ofBits 0x7ff0000000000000

/-- The leading digits and what follows them. -/
def takeDigits : List Char → List Nat × List Char
  | [] => ([], [])
  | char :: rest =>
    match digit? char with
    | none => ([], char :: rest)
    | some digit => let (digits, after) := takeDigits rest; (digit :: digits, after)

def ofDigits (digits : List Nat) : Nat := digits.foldl (fun value digit => value * 10 + digit) 0

/-- The float nearest to `digits`, read as a whole number, times a power of ten. Far outside
the range of floats the answer is known without computing the power. -/
def scaled (digits : List Nat) (power : Int) : Float :=
  let significant := digits.dropWhile (· == 0)
  let magnitude : Int := significant.length + power
  if significant.isEmpty || magnitude < -400 then 0
  else if 400 < magnitude then infinity
  else Float.ofScientific (ofDigits significant) (power < 0) power.natAbs

/-- The power of ten after the digits: nothing, or `e` or `E`, a sign and at least one digit. -/
def readPower : List Char → Option Int
  | [] => some 0
  | char :: rest =>
    if char != 'e' && char != 'E' then none
    else
      let (negative, unsigned) := match rest with
        | '-' :: unsigned => (true, unsigned)
        | '+' :: unsigned => (false, unsigned)
        | unsigned => (false, unsigned)
      match takeDigits unsigned with
      | ([], _) | (_, _ :: _) => none
      | (digits, []) => some (if negative then -(ofDigits digits : Int) else ofDigits digits)

/-- Digits with an optional point, a digit on at least one side of it, and a power of ten. -/
def readUnsigned (chars : List Char) : Option Float :=
  let (whole, afterWhole) := takeDigits chars
  let (fraction, rest) := match afterWhole with
    | '.' :: after => takeDigits after
    | after => ([], after)
  if whole.isEmpty && fraction.isEmpty then none
  else (readPower rest).map fun power => scaled (whole ++ fraction) (power - fraction.length)

/-- The words `inf`, `infinity` and `nan` in any case. -/
def readWord (chars : List Char) : Option Float :=
  let word := chars.map Char.toLower
  if word == "inf".toList || word == "infinity".toList then some infinity
  else if word == "nan".toList then some notANumber
  else none

def readFloat (chars : List Char) : Except FloatFault Float :=
  let magnitude (unsigned : List Char) : Except FloatFault Float :=
    match readUnsigned unsigned <|> readWord unsigned with
    | some value => .ok value
    | none => .error .invalidLiteral
  match chars with
  | [] => .error .empty
  | '+' :: unsigned => magnitude unsigned
  | '-' :: unsigned => (magnitude unsigned).map fun value => -value
  | unsigned => magnitude unsigned

end SimResults.Number
