/-! Text as bytes. Decoding is strict, and where it fails two further views are needed: how
many leading bytes are sound, which messages report, and a reading of the whole with one
replacement character for every maximal unsound piece. -/

namespace SimResults.Text

abbrev Bytes := List UInt8

def encode (text : String) : Bytes := text.toUTF8.data.toList

/-- The text with exactly these bytes, if they are well formed. -/
def decode? (bytes : Bytes) : Option String := String.fromUTF8? ⟨bytes.toArray⟩

/-- A character begun but not finished: its code so far, how many bytes it still needs, the
bounds on the next of them, and how many it has. -/
structure Partial where
  code : Nat
  needed : Nat
  low : UInt8
  high : UInt8
  taken : Nat

/-- What a first byte announces: a whole character, the start of a longer one, or nothing. -/
inductive Lead
  | whole (char : Char)
  | opens (start : Partial)
  | unsound

/-- Over-long forms, surrogates and codes past the last character are excluded by narrower
bounds on the second byte. -/
def lead (byte : UInt8) : Lead :=
  let code := byte.toNat
  if byte < 0x80 then .whole (Char.ofNat code)
  else if byte < 0xc2 then .unsound
  else if byte < 0xe0 then .opens ⟨code - 0xc0, 1, 0x80, 0xbf, 1⟩
  else if byte == 0xe0 then .opens ⟨code - 0xe0, 2, 0xa0, 0xbf, 1⟩
  else if byte == 0xed then .opens ⟨code - 0xe0, 2, 0x80, 0x9f, 1⟩
  else if byte < 0xf0 then .opens ⟨code - 0xe0, 2, 0x80, 0xbf, 1⟩
  else if byte == 0xf0 then .opens ⟨code - 0xf0, 3, 0x90, 0xbf, 1⟩
  else if byte < 0xf4 then .opens ⟨code - 0xf0, 3, 0x80, 0xbf, 1⟩
  else if byte == 0xf4 then .opens ⟨code - 0xf0, 3, 0x80, 0x8f, 1⟩
  else .unsound

/-- A stretch of bytes: one character with its length, or a maximal unsound piece. -/
inductive Piece
  | char (value : Char) (length : Nat)
  | unsound

/-- Cuts bytes into pieces; a byte that cannot continue a character starts the next piece. -/
def piecesFrom : Option Partial → Bytes → List Piece
  | none, [] => []
  | some _, [] => [.unsound]
  | none, byte :: rest =>
    match lead byte with
    | .whole char => .char char 1 :: piecesFrom none rest
    | .opens start => piecesFrom (some start) rest
    | .unsound => .unsound :: piecesFrom none rest
  | some begun, byte :: rest =>
    if begun.low ≤ byte && byte ≤ begun.high then
      let code := begun.code * 64 + (byte.toNat - 0x80)
      if begun.needed ≤ 1 then .char (Char.ofNat code) (begun.taken + 1) :: piecesFrom none rest
      else piecesFrom (some ⟨code, begun.needed - 1, 0x80, 0xbf, begun.taken + 1⟩) rest
    else
      match lead byte with
      | .whole char => .unsound :: .char char 1 :: piecesFrom none rest
      | .opens start => .unsound :: piecesFrom (some start) rest
      | .unsound => .unsound :: .unsound :: piecesFrom none rest

def pieces (bytes : Bytes) : List Piece := piecesFrom none bytes

/-- The length of the longest well-formed prefix. -/
def soundPrefix (bytes : Bytes) : Nat := go (pieces bytes)
where
  go : List Piece → Nat
    | .char _ length :: rest => length + go rest
    | _ => 0

/-- Reads any bytes, each unsound piece as U+FFFD. -/
def decodeLossy (bytes : Bytes) : String :=
  String.ofList <| (pieces bytes).map fun
    | .char value _ => value
    | .unsound => '\ufffd'

end SimResults.Text
