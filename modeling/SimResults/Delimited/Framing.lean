import SimResults.Delimited.Record
import SimResults.File
import SimResults.Text.Blank

/-! Records as text. A stream yields text records up to its end or up to the first record that
is unsound; what the reader of the stream does with the records before it is its own affair. -/

namespace SimResults.Delimited

open Text

/-- Why a stream yields no further record. -/
inductive FramingFault
  | unequalLengths (position : Position) (expected found : Nat)
  | invalidUtf8 (position : Position) (field sound : Nat)
  | unreadable (fault : FileFault)
deriving DecidableEq, Repr

def FramingFault.message : FramingFault → String
  | .unequalLengths position expected found =>
    s!"CSV error: record {position.record} (line: {position.line}, byte: {position.byte}): " ++
      s!"found record with {found} fields, but the previous record has {expected} fields"
  | .invalidUtf8 position field sound =>
    s!"CSV parse error: record {position.record} (line {position.line}, field: {field}, byte: {position.byte}): " ++
      s!"invalid utf-8: invalid UTF-8 in field {field} near byte index {sound}"
  | .unreadable fault => fault.message

/-- The conventions of a stream. -/
structure Dialect where
  delimiter : UInt8 := 0x2c
  /-- Whether the first record only names the columns. -/
  hasHeader : Bool := true
  /-- Whether records may differ in their number of fields. -/
  flexible : Bool := false
  /-- Whether white space around names and fields is removed. -/
  trims : Bool := false
deriving DecidableEq, Repr

/-- Bytes that end by themselves, or after which reading fails. -/
structure Stream where
  bytes : Bytes
  breaks? : Option FileFault := none

/-- Text records in order, and the fault that follows the last of them. -/
structure Framed where
  records : List (List String)
  fault? : Option FramingFault
deriving DecidableEq, Repr

def decodeFields (position : Position) (index : Nat) : List Bytes → Except FramingFault (List String)
  | [] => .ok []
  | field :: rest =>
    match decode? field with
    | none => .error (.invalidUtf8 position index (soundPrefix field))
    | some text => (decodeFields position (index + 1) rest).map (text :: ·)

namespace Dialect

/-- The number of fields is checked before the text. -/
def checkLength (dialect : Dialect) (expected : Nat) (raw : RawRecord) : Except FramingFault Unit :=
  if dialect.flexible || raw.fields.length == expected then .ok ()
  else .error (.unequalLengths raw.position expected raw.fields.length)

/-- Column names are decoded as they stand and trimmed after. -/
def header (dialect : Dialect) (raw : RawRecord) : Except FramingFault (List String) :=
  (decodeFields raw.position 0 raw.fields).map fun names =>
    if dialect.trims then names.map trim else names

/-- Fields lose ASCII blanks before they are decoded, and all white space after. -/
def fields (dialect : Dialect) (raw : RawRecord) : Except FramingFault (List String) :=
  if dialect.trims then
    (decodeFields raw.position 0 (raw.fields.map trimmedBytes)).map (·.map trim)
  else decodeFields raw.position 0 raw.fields

/-- Decodes records until one is unsound; `ending` is the fault behind the last. -/
def frame (dialect : Dialect) (expected : Nat) (ending : Option FramingFault) : List RawRecord → Framed
  | [] => ⟨[], ending⟩
  | raw :: rest =>
    match dialect.checkLength expected raw, dialect.fields raw with
    | .error fault, _ | _, .error fault => ⟨[], some fault⟩
    | .ok (), .ok texts =>
      let framed := dialect.frame expected ending rest
      { framed with records := texts :: framed.records }

end Dialect

/-- The raw records that a stream delivers and the fault behind them. A stream that breaks
never delivers a record that no line end closed. -/
def Stream.rawRecords (stream : Stream) (delimiter : UInt8) : List RawRecord × Option FramingFault :=
  match stream.breaks? with
  | none => (records delimiter stream.bytes, none)
  | some fault => (closedRecords delimiter stream.bytes, some (.unreadable fault))

/-- All records of a stream without column names. -/
def Stream.frame (stream : Stream) (dialect : Dialect) : Framed :=
  let (raw, ending) := stream.rawRecords dialect.delimiter
  dialect.frame (raw.head?.elim 0 fun first => first.fields.length) ending raw

/-- The column names and the records of a stream. An empty stream names no column; without a
header of its own the first record gives the names and is a record too. -/
def Stream.frameWithHeader (stream : Stream) (dialect : Dialect) : Except FramingFault (List String × Framed) :=
  match stream.rawRecords dialect.delimiter with
  | ([], none) => .ok ([], ⟨[], none⟩)
  | ([], some fault) => .error fault
  | (first :: rest, ending) => do
    let names ← dialect.header first
    let data := if dialect.hasHeader then rest else first :: rest
    return (names, dialect.frame first.fields.length ending data)

end SimResults.Delimited
