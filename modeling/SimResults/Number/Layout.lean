import SimResults.Number.Shortest

/-! How the shortest digits of a float are laid out as text. -/

namespace SimResults.Number

/-- Choices of a layout: whether a whole number shows a zero after the point, and for which
positions of the point a power of ten is written instead of zeros. -/
structure Layout where
  wholeSuffix : String
  usesPower : Int → Bool

/-- Keys and arguments: no power of ten, however long the number, and no point after a whole. -/
def Layout.plain : Layout := ⟨"", fun _ => false⟩

/-- Members of a list: always a point or a power; powers from `10 ^ 16` on and below `10 ^ -4`. -/
def Layout.member : Layout := ⟨".0", fun point => 16 < point || point < -3⟩

def digitText (digits : List Nat) : String := String.ofList (digits.map Nat.digitChar)

def zeros (count : Nat) : String := String.ofList (List.replicate count '0')

def Layout.positional (layout : Layout) (decimal : Decimal) : String :=
  let length : Int := decimal.digits.length
  if decimal.point ≤ 0 then "0." ++ zeros (-decimal.point).toNat ++ digitText decimal.digits
  else if length ≤ decimal.point then
    digitText decimal.digits ++ zeros (decimal.point - length).toNat ++ layout.wholeSuffix
  else
    digitText (decimal.digits.take decimal.point.toNat) ++ "." ++
      digitText (decimal.digits.drop decimal.point.toNat)

def scientific (decimal : Decimal) : String :=
  let first := digitText (decimal.digits.take 1)
  let others := decimal.digits.drop 1
  let mantissa := if others.isEmpty then first else first ++ "." ++ digitText others
  mantissa ++ "e" ++ toString (decimal.point - 1)

/-- The bit that is set in negative floats. -/
def signBit : Nat := 0x8000000000000000

def Layout.magnitude (layout : Layout) (bits : Nat) : String :=
  if bits % signBit == 0 then "0" ++ layout.wholeSuffix
  else
    let decimal := (Binary.ofBits bits).shortest
    if layout.usesPower decimal.point then scientific decimal else layout.positional decimal

def Layout.write (layout : Layout) (value : Float) : String :=
  if value.isNaN then "NaN"
  else
    let bits := value.toBits.toNat
    let sign := if signBit ≤ bits then "-" else ""
    sign ++ (if value.isInf then "inf" else layout.magnitude bits)

end SimResults.Number
