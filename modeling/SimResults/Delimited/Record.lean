import SimResults.Text.Utf8

/-! Delimited records as bytes. A record is a line of fields; a field that starts with a double
quote runs to the matching quote, whatever it holds, and two quotes inside it are one. One pass
over the bytes cuts them into records and notes where the reading of each began. -/

namespace SimResults.Delimited

open Text

/-- How much of a stream was read: whole records, line feeds and bytes. -/
structure Position where
  record : Nat
  line : Nat
  byte : Nat
deriving DecidableEq, Repr

def Position.start : Position := ⟨0, 1, 0⟩

/-- A record's fields as bytes, and the position at which its reading began. -/
structure RawRecord where
  position : Position
  fields : List Bytes
deriving DecidableEq, Repr

def quote : UInt8 := 0x22

/-- A record ends at a carriage return or a line feed. -/
def isLineEnd (byte : UInt8) : Bool := byte == 0xd || byte == 0xa

/-- Where in a record the next byte stands. -/
inductive Place
  /-- Before a record; line ends here are empty lines, or the second half of a line end. -/
  | recordStart
  | fieldStart
  | plain
  | quoted
  /-- After a quote inside a quoted field: it ends the quotation unless a second one follows. -/
  | quoteSeen
deriving DecidableEq, Repr

/-- The state of one pass. The open field, the closed fields of the open record and the closed
records are kept in reverse. -/
structure Cutter where
  place : Place
  field : Bytes
  fields : List Bytes
  began : Position
  reached : Position
  records : List RawRecord
deriving DecidableEq, Repr

namespace Cutter

/-- Before the first record, with `consumed` bytes already passed over. -/
def initial (consumed : Nat) : Cutter :=
  { place := .recordStart, field := [], fields := [], began := .start
    reached := { Position.start with byte := consumed }, records := [] }

def keep (cutter : Cutter) (byte : UInt8) (place : Place) : Cutter :=
  { cutter with place, field := byte :: cutter.field }

def closeField (cutter : Cutter) : Cutter :=
  { cutter with place := .fieldStart, field := [], fields := cutter.field.reverse :: cutter.fields }

/-- The reading of the next record begins where this one ends. -/
def closeRecord (cutter : Cutter) : Cutter :=
  let fields := (cutter.field.reverse :: cutter.fields).reverse
  let reached := { cutter.reached with record := cutter.reached.record + 1 }
  { place := .recordStart, field := [], fields := [], began := reached, reached
    records := ⟨cutter.began, fields⟩ :: cutter.records }

def advance (cutter : Cutter) (byte : UInt8) : Cutter :=
  let reached := cutter.reached
  let line := if byte == 0xa then reached.line + 1 else reached.line
  { cutter with reached := { reached with line, byte := reached.byte + 1 } }

/-- A byte outside a quotation: it ends the field, ends the record or belongs to the field. -/
def outside (delimiter : UInt8) (cutter : Cutter) (byte : UInt8) : Cutter :=
  if byte == delimiter then cutter.closeField
  else if isLineEnd byte then cutter.closeRecord
  else cutter.keep byte .plain

def step (delimiter : UInt8) (cutter : Cutter) (byte : UInt8) : Cutter :=
  let cutter := cutter.advance byte
  match cutter.place with
  | .recordStart =>
    if isLineEnd byte then cutter
    else if byte == quote then { cutter with place := .quoted }
    else cutter.outside delimiter byte
  | .fieldStart =>
    if byte == quote then { cutter with place := .quoted } else cutter.outside delimiter byte
  | .plain => cutter.outside delimiter byte
  | .quoted => if byte == quote then { cutter with place := .quoteSeen } else cutter.keep byte .quoted
  | .quoteSeen => if byte == quote then cutter.keep byte .quoted else cutter.outside delimiter byte

/-- The end of the stream closes a record that no line end closed. -/
def finish (cutter : Cutter) : Cutter :=
  match cutter.place with
  | .recordStart => cutter
  | _ => cutter.closeRecord

end Cutter

def byteOrderMark : Bytes := [0xef, 0xbb, 0xbf]

/-- Runs over a stream from its first byte; a byte order mark is passed over. -/
def run (delimiter : UInt8) (bytes : Bytes) : Cutter :=
  if byteOrderMark.isPrefixOf bytes then
    (bytes.drop 3).foldl (Cutter.step delimiter) (.initial 3)
  else bytes.foldl (Cutter.step delimiter) (.initial 0)

/-- The records that a line end closed. -/
def closedRecords (delimiter : UInt8) (bytes : Bytes) : List RawRecord :=
  (run delimiter bytes).records.reverse

/-- All records of a stream that ends with its last byte. -/
def records (delimiter : UInt8) (bytes : Bytes) : List RawRecord :=
  (run delimiter bytes).finish.records.reverse

end SimResults.Delimited
