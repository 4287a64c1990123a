import SimResults.Delimited.Framing
import SimResults.Proofs.EncodedText

/-! Records as they are written, and that cutting the bytes of written records gives their fields
back. A cell is written plain where that cannot be misread, or in quotes, whatever it holds. -/

namespace SimResults.Proofs.WrittenRecords
open Text Delimited EncodedText

section Writing

variable {delimiter : Char}

/-- A text that can be written as it stands. -/
structure Plain (delimiter : Char) (text : String) : Prop where
  unbroken : ∀ char ∈ text.toList, char ≠ delimiter ∧ char ≠ '\r' ∧ char ≠ '\n'
  unquoted : text.toList.head? ≠ some '"'

instance (delimiter : Char) (text : String) : Decidable (Plain delimiter text) :=
  decidable_of_iff (text.toList.all (fun char => char ≠ delimiter ∧ char ≠ '\r' ∧ char ≠ '\n') = true ∧
      text.toList.head? ≠ some '"') <| by
    rw [List.all_eq_true]
    constructor
    · intro ⟨unbroken, unquoted⟩
      exact ⟨fun char member => by simpa using unbroken char member, unquoted⟩
    · intro ⟨unbroken, unquoted⟩
      exact ⟨fun char member => by simpa using unbroken char member, unquoted⟩

inductive WrittenCell (delimiter : Char)
  | plain (text : String) (plain : Plain delimiter text)
  | quoted (text : String)

namespace WrittenCell

def text : WrittenCell delimiter → String
  | .plain text _ | .quoted text => text

/-- Inside quotes every quote is written twice. -/
def doubled (chars : List Char) : List Char :=
  chars.flatMap fun char => if char = '"' then ['"', '"'] else [char]

def chars : WrittenCell delimiter → List Char
  | .plain text _ => text.toList
  | .quoted text => '"' :: doubled text.toList ++ ['"']

end WrittenCell

def joined (cells : List (WrittenCell delimiter)) : List Char :=
  [delimiter].intercalate (cells.map WrittenCell.chars)

/-- A line that is not empty, as empty lines are no records. -/
structure WrittenLine (delimiter : Char) where
  cells : List (WrittenCell delimiter)
  filled : joined cells ≠ []
  /-- Whether a carriage return stands before the line feed. -/
  returns : Bool

namespace WrittenLine

def texts (line : WrittenLine delimiter) : List String := line.cells.map WrittenCell.text

def encoded (line : WrittenLine delimiter) : List Bytes := line.texts.map encode

def ending (line : WrittenLine delimiter) : List Char := if line.returns then ['\r', '\n'] else ['\n']

def chars (line : WrittenLine delimiter) : List Char := joined line.cells ++ line.ending

end WrittenLine

def writtenChars (lines : List (WrittenLine delimiter)) : List Char := lines.flatMap WrittenLine.chars

/-- The same without the end of the last line. -/
def unendedChars (lines : List (WrittenLine delimiter)) : List Char :=
  writtenChars lines.dropLast ++ lines.getLast?.elim [] fun last => joined last.cells

theorem unendedChars_concat (lines : List (WrittenLine delimiter)) (last : WrittenLine delimiter) :
    unendedChars (lines ++ [last]) = writtenChars lines ++ joined last.cells := by
  simp [unendedChars]

end Writing

section Steps

variable {delimiter byte : UInt8} {cutter : Cutter} {place : Place} {field bytes : Bytes}
  {fields : List Bytes} {closed : List (List Bytes)}

/-- Where a cutter stands and what it has, in reading order and without positions. -/
structure Stands (cutter : Cutter) (place : Place) (field : Bytes) (fields : List Bytes)
    (closed : List (List Bytes)) : Prop where
  place : cutter.place = place
  field : cutter.field.reverse = field
  fields : cutter.fields.reverse = fields
  closed : cutter.records.reverse.map (·.fields) = closed

/-- A byte that belongs to its field wherever it stands outside of quotes. -/
structure Ordinary (delimiter byte : UInt8) : Prop where
  field : (byte == delimiter) = false
  line : isLineEnd byte = false

namespace Stands

private theorem delimit (stands : Stands cutter place field fields closed) (unquoted : place ≠ .quoted)
    (line : isLineEnd delimiter = false) (quoting : (delimiter == quote) = false) :
    Stands (Cutter.step delimiter cutter delimiter) .fieldStart [] (fields ++ [field]) closed := by
  obtain ⟨rfl, rfl, rfl, rfl⟩ := stands
  cases here : cutter.place with
  | quoted => exact absurd here unquoted
  | _ =>
    constructor <;>
      simp [Cutter.step, Cutter.advance, here, Cutter.outside, Cutter.closeField, line, quoting]

private theorem endLine (stands : Stands cutter place field fields closed) (unquoted : place ≠ .quoted)
    (begun : place ≠ .recordStart) (line : isLineEnd byte = true) (quoting : (byte == quote) = false)
    (other : (byte == delimiter) = false) :
    Stands (Cutter.step delimiter cutter byte) .recordStart [] [] (closed ++ [fields ++ [field]]) := by
  obtain ⟨rfl, rfl, rfl, rfl⟩ := stands
  cases here : cutter.place with
  | quoted => exact absurd here unquoted
  | recordStart => exact absurd here begun
  | _ =>
    constructor <;>
      simp [Cutter.step, Cutter.advance, here, Cutter.outside, Cutter.closeRecord, line, quoting, other]

private theorem skipLine (stands : Stands cutter .recordStart field fields closed) (line : isLineEnd byte = true) :
    Stands (Cutter.step delimiter cutter byte) .recordStart field fields closed := by
  obtain ⟨here, rfl, rfl, rfl⟩ := stands
  constructor <;> simp [Cutter.step, Cutter.advance, here, line]

private theorem keepPlain (stands : Stands cutter .plain field fields closed) (ordinary : Ordinary delimiter byte) :
    Stands (Cutter.step delimiter cutter byte) .plain (field ++ [byte]) fields closed := by
  obtain ⟨here, rfl, rfl, rfl⟩ := stands
  constructor <;>
    simp [Cutter.step, Cutter.advance, here, Cutter.outside, Cutter.keep, ordinary.field, ordinary.line]

private theorem start (stands : Stands cutter place field fields closed)
    (starts : place = .recordStart ∨ place = .fieldStart) (ordinary : Ordinary delimiter byte)
    (quoting : (byte == quote) = false) :
    Stands (Cutter.step delimiter cutter byte) .plain (field ++ [byte]) fields closed := by
  obtain ⟨rfl, rfl, rfl, rfl⟩ := stands
  rcases starts with here | here <;> constructor <;>
    simp [Cutter.step, Cutter.advance, here, Cutter.outside, Cutter.keep, ordinary.field, ordinary.line, quoting]

private theorem openQuote (stands : Stands cutter place field fields closed)
    (starts : place = .recordStart ∨ place = .fieldStart) :
    Stands (Cutter.step delimiter cutter quote) .quoted field fields closed := by
  obtain ⟨rfl, rfl, rfl, rfl⟩ := stands
  rcases starts with here | here <;> constructor <;>
    simp [Cutter.step, Cutter.advance, here, isLineEnd, quote]

private theorem keepQuoted (stands : Stands cutter .quoted field fields closed) (quoting : (byte == quote) = false) :
    Stands (Cutter.step delimiter cutter byte) .quoted (field ++ [byte]) fields closed := by
  obtain ⟨here, rfl, rfl, rfl⟩ := stands
  constructor <;> simp [Cutter.step, Cutter.advance, here, Cutter.keep, quoting]

private theorem seeQuote (stands : Stands cutter .quoted field fields closed) :
    Stands (Cutter.step delimiter cutter quote) .quoteSeen field fields closed := by
  obtain ⟨here, rfl, rfl, rfl⟩ := stands
  constructor <;> simp [Cutter.step, Cutter.advance, here]

private theorem keepQuote (stands : Stands cutter .quoteSeen field fields closed) :
    Stands (Cutter.step delimiter cutter quote) .quoted (field ++ [quote]) fields closed := by
  obtain ⟨here, rfl, rfl, rfl⟩ := stands
  constructor <;> simp [Cutter.step, Cutter.advance, here, Cutter.keep]

private theorem finish (stands : Stands cutter place field fields closed) (begun : place ≠ .recordStart) :
    cutter.finish.records.reverse.map (·.fields) = closed ++ [fields ++ [field]] := by
  obtain ⟨rfl, rfl, rfl, rfl⟩ := stands
  rw [Cutter.finish]
  split
  next here => exact absurd here begun
  next => simp [Cutter.closeRecord]

end Stands

end Steps

section Runs

variable {delimiter : Char} {cutter : Cutter} {place : Place} {field bytes : Bytes}
  {fields : List Bytes} {closed : List (List Bytes)}

def cut (delimiter : Char) (cutter : Cutter) (bytes : Bytes) : Cutter :=
  bytes.foldl (Cutter.step (byteOf delimiter)) cutter

private theorem cut_append (cutter : Cutter) (bytes more : Bytes) :
    cut delimiter cutter (bytes ++ more) = cut delimiter (cut delimiter cutter bytes) more :=
  List.foldl_append

/-- What may delimit: an ASCII character that is no quote and no part of a line end. -/
structure Delimits (delimiter : Char) : Prop where
  ascii : delimiter.toNat < 0x80
  quoting : (byteOf delimiter == quote) = false
  line : isLineEnd (byteOf delimiter) = false

private theorem cut_kept {Kept : UInt8 → Prop}
    (step : ∀ cutter field byte, Kept byte → Stands cutter place field fields closed →
      Stands (Cutter.step (byteOf delimiter) cutter byte) place (field ++ [byte]) fields closed)
    (each : ∀ byte ∈ bytes, Kept byte) (stands : Stands cutter place field fields closed) :
    Stands (cut delimiter cutter bytes) place (field ++ bytes) fields closed := by
  induction bytes generalizing cutter field with
  | nil => simpa [cut] using stands
  | cons byte bytes ih =>
    obtain ⟨first, rest⟩ := List.forall_mem_cons.mp each
    simpa [cut] using ih rest (step cutter field byte first stands)

private theorem cut_doubled (chars : List Char) (stands : Stands cutter .quoted field fields closed) :
    Stands (cut delimiter cutter (bytesOf (WrittenCell.doubled chars))) .quoted (field ++ bytesOf chars)
      fields closed := by
  induction chars generalizing cutter field with
  | nil => simpa [cut, bytesOf, WrittenCell.doubled] using stands
  | cons char chars ih =>
    have split : WrittenCell.doubled (char :: chars) =
        (if char = '"' then ['"', '"'] else [char]) ++ WrittenCell.doubled chars := List.flatMap_cons
    rw [split, bytesOf_append, cut_append, bytesOf_cons, ← List.append_assoc]
    apply ih
    by_cases quoting : char = '"'
    · -- The first of two quotes ends the quotation, and the second takes it up again.
      subst quoting
      exact stands.seeQuote.keepQuote
    · have single : bytesOf [char] = String.utf8EncodeChar char := by simp [bytesOf]
      rw [if_neg quoting, single]
      refine cut_kept (fun _ _ _ quoting stands => stands.keepQuoted quoting) ?_ stands
      intro byte member
      apply beq_false_of_ne
      rintro rfl
      have inside : byteOf '"' ∈ bytesOf [char] := single ▸ member
      exact quoting (List.mem_singleton.mp (mem_of_encoded (by decide) inside)).symm

private theorem plain_ordinary (delimits : Delimits delimiter) {text : String} (plain : Plain delimiter text) :
    ∀ byte ∈ bytesOf text.toList, Ordinary (byteOf delimiter) byte := by
  have absent : ∀ char, char.toNat < 0x80 → char = delimiter ∨ char = '\r' ∨ char = '\n' →
      byteOf char ∉ bytesOf text.toList := by
    intro char ascii special member
    obtain ⟨notDelimiter, notReturn, notFeed⟩ := plain.unbroken char (mem_of_encoded ascii member)
    rcases special with same | same | same
    · exact notDelimiter same
    · exact notReturn same
    · exact notFeed same
  intro byte member
  constructor
  · apply beq_false_of_ne
    rintro rfl
    exact absent delimiter delimits.ascii (.inl rfl) member
  · rw [isLineEnd, Bool.or_eq_false_iff]
    constructor <;> (apply beq_false_of_ne; rintro rfl)
    · exact absent '\r' (by decide) (.inr (.inl rfl)) member
    · exact absent '\n' (by decide) (.inr (.inr rfl)) member

/-- After a cell its text is the open field. Only an empty plain cell leaves a record unbegun. -/
private theorem cut_cell (delimits : Delimits delimiter) (cell : WrittenCell delimiter)
    (stands : Stands cutter place [] fields closed) (starts : place = .recordStart ∨ place = .fieldStart) :
    ∃ after, Stands (cut delimiter cutter (bytesOf cell.chars)) after (encode cell.text) fields closed ∧
      after ≠ .quoted ∧ (after = .recordStart → place = .recordStart ∧ cell.chars = []) := by
  cases cell with
  | quoted text =>
    have opened : Stands (cut delimiter cutter (bytesOf ['"'])) .quoted [] fields closed :=
      stands.openQuote starts
    refine ⟨.quoteSeen, ?_, nofun, nofun⟩
    have split : bytesOf (WrittenCell.quoted text : WrittenCell delimiter).chars =
        bytesOf ['"'] ++ bytesOf (WrittenCell.doubled text.toList) ++ bytesOf ['"'] := by
      rw [← bytesOf_append, ← bytesOf_append]
      rfl
    rw [split, cut_append, cut_append, encode_eq]
    exact (cut_doubled text.toList opened).seeQuote
  | plain text plain =>
    have ordinary := plain_ordinary delimits plain
    rw [WrittenCell.chars, WrittenCell.text, encode_eq]
    cases bytes : bytesOf text.toList with
    | nil =>
      refine ⟨place, by simpa [cut] using stands, ?_, ?_⟩
      · rcases starts with rfl | rfl <;> exact nofun
      · intro same
        exact ⟨same, bytesOf_eq_nil.mp bytes⟩
    | cons byte rest =>
      rw [bytes] at ordinary
      obtain ⟨first, others⟩ := List.forall_mem_cons.mp ordinary
      have quoting : (byte == quote) = false := by
        apply beq_false_of_ne
        rintro rfl
        exact plain.unquoted (head_of_encoded (by decide) (by rw [bytes]; rfl))
      have begun := stands.start starts first quoting
      exact ⟨.plain, cut_kept (fun _ _ _ ordinary stands => stands.keepPlain ordinary) others begun, nofun, nofun⟩

private theorem joined_cons (first next : WrittenCell delimiter) (rest : List (WrittenCell delimiter)) :
    joined (first :: next :: rest) = first.chars ++ [delimiter] ++ joined (next :: rest) :=
  List.intercalate_cons_cons

private theorem cut_cells (delimits : Delimits delimiter) (first : WrittenCell delimiter)
    (rest : List (WrittenCell delimiter)) (stands : Stands cutter place [] fields closed)
    (starts : place = .recordStart ∨ place = .fieldStart) :
    ∃ after field before,
      Stands (cut delimiter cutter (bytesOf (joined (first :: rest)))) after field before closed ∧
      before ++ [field] = fields ++ (first :: rest).map (fun cell => encode cell.text) ∧
      after ≠ .quoted ∧ (after = .recordStart → place = .recordStart ∧ joined (first :: rest) = []) := by
  induction rest generalizing first cutter place fields with
  | nil =>
    have single : joined [first] = first.chars := List.intercalate_singleton
    obtain ⟨after, reached, unquoted, begun⟩ := cut_cell delimits first stands starts
    rw [single]
    exact ⟨after, _, fields, reached, rfl, unquoted, begun⟩
  | cons next rest ih =>
    obtain ⟨_, reached, unquoted, _⟩ := cut_cell delimits first stands starts
    have single : bytesOf [delimiter] = [byteOf delimiter] := by
      simp [bytesOf, utf8EncodeChar_ascii delimits.ascii]
    have delimited := reached.delimit unquoted delimits.line delimits.quoting
    obtain ⟨after, field, before, there, same, outside, unbegun⟩ := ih next delimited (.inr rfl)
    rw [joined_cons, bytesOf_append, bytesOf_append, cut_append, cut_append, single]
    refine ⟨after, field, before, there, ?_, outside, fun start => absurd (unbegun start).1 (by decide)⟩
    rw [same, List.append_assoc]
    rfl

/-- At the end of a line its last cell is open, as the line is not empty. -/
private theorem cut_open (delimits : Delimits delimiter) (line : WrittenLine delimiter)
    (stands : Stands cutter .recordStart [] [] closed) :
    ∃ after field before,
      Stands (cut delimiter cutter (bytesOf (joined line.cells))) after field before closed ∧
      before ++ [field] = line.encoded ∧ after ≠ .quoted ∧ after ≠ .recordStart := by
  obtain ⟨first, rest, cells⟩ : ∃ first rest, line.cells = first :: rest := by
    apply List.exists_cons_of_ne_nil
    intro none
    exact line.filled (by rw [none]; rfl)
  obtain ⟨after, field, before, reached, same, unquoted, begun⟩ := cut_cells delimits first rest stands (.inl rfl)
  rw [← cells] at reached same begun
  refine ⟨after, field, before, reached, ?_, unquoted, fun start => line.filled (begun start).2⟩
  rw [same, WrittenLine.encoded, WrittenLine.texts, List.map_map]
  rfl

private theorem cut_line (delimits : Delimits delimiter) (line : WrittenLine delimiter)
    (stands : Stands cutter .recordStart [] [] closed) :
    Stands (cut delimiter cutter (bytesOf line.chars)) .recordStart [] [] (closed ++ [line.encoded]) := by
  obtain ⟨after, field, before, reached, same, unquoted, begun⟩ := cut_open delimits line stands
  have other : ∀ byte, isLineEnd byte = true → (byte == byteOf delimiter) = false := by
    intro byte ends
    apply beq_false_of_ne
    rintro rfl
    rw [delimits.line] at ends
    cases ends
  rw [WrittenLine.chars, bytesOf_append, cut_append, WrittenLine.ending, ← same]
  cases line.returns with
  | true => exact (reached.endLine unquoted begun rfl rfl (other (byteOf '\r') rfl)).skipLine rfl
  | false => exact reached.endLine unquoted begun rfl rfl (other (byteOf '\n') rfl)

private theorem cut_lines (delimits : Delimits delimiter) (lines : List (WrittenLine delimiter))
    (stands : Stands cutter .recordStart [] [] closed) :
    Stands (cut delimiter cutter (bytesOf (writtenChars lines))) .recordStart [] []
      (closed ++ lines.map WrittenLine.encoded) := by
  induction lines generalizing cutter closed with
  | nil => simpa [cut, bytesOf, writtenChars] using stands
  | cons line lines ih =>
    rw [writtenChars, List.flatMap_cons, bytesOf_append, cut_append, List.map_cons, List.append_cons]
    exact ih (cut_line delimits line stands)

end Runs

section Streams

variable {delimiter : Char}

/-- Reading to the end of a stream closes its last line. -/
theorem records_written (delimits : Delimits delimiter) (lines : List (WrittenLine delimiter))
    (unmarked : byteOrderMark.isPrefixOf (bytesOf (unendedChars lines)) = false) :
    (records (byteOf delimiter) (bytesOf (unendedChars lines))).map (·.fields) =
      lines.map WrittenLine.encoded := by
  have initial : Stands (Cutter.initial 0) .recordStart [] [] [] := ⟨rfl, rfl, rfl, rfl⟩
  rw [records, run, unmarked, if_neg Bool.false_ne_true]
  rcases List.eq_nil_or_concat lines with rfl | ⟨front, last, rfl⟩
  · rfl
  · rw [List.concat_eq_append, unendedChars_concat, bytesOf_append]
    have reached := cut_lines delimits front initial
    obtain ⟨after, field, before, there, same, _, begun⟩ := cut_open delimits last reached
    rw [← cut_append] at there
    have finished := there.finish begun
    rw [same] at finished
    rw [List.map_append, List.map_singleton]
    exact finished

variable {dialect : Dialect}

private theorem decodeFields_encoded (position : Position) (index : Nat) (texts : List String) :
    decodeFields position index (texts.map encode) = .ok texts := by
  induction texts generalizing index with
  | nil => rfl
  | cons text texts ih =>
    rw [List.map_cons, decodeFields, decode?_encode, ih]
    rfl

private theorem frame_encoded (flexible : dialect.flexible = true) (untrimmed : dialect.trims = false)
    (expected : Nat)
    {raw : List RawRecord} {texts : List (List String)}
    (encoded : raw.map (·.fields) = texts.map (·.map encode)) :
    dialect.frame expected none raw = ⟨texts, none⟩ := by
  induction raw generalizing texts with
  | nil =>
    cases texts with
    | nil => rfl
    | cons text texts => cases encoded
  | cons first raw ih =>
    cases texts with
    | nil => cases encoded
    | cons text texts =>
      obtain ⟨fields, rest⟩ := List.cons.inj encoded
      change first.fields = text.map encode at fields
      have decoded : dialect.fields first = .ok text := by
        rw [Dialect.fields, untrimmed, if_neg Bool.false_ne_true, fields, decodeFields_encoded]
      have checked : dialect.checkLength expected first = .ok () := by
        rw [Dialect.checkLength, flexible]
        rfl
      rw [Dialect.frame, checked, decoded, ih rest]

/-- Framing gives back the texts that were written. -/
theorem frame_written (delimits : Delimits delimiter) (lines : List (WrittenLine delimiter))
    (unmarked : byteOrderMark.isPrefixOf (bytesOf (unendedChars lines)) = false)
    (same : dialect.delimiter = byteOf delimiter) (flexible : dialect.flexible = true)
    (untrimmed : dialect.trims = false) :
    Stream.frame ⟨bytesOf (unendedChars lines), none⟩ dialect = ⟨lines.map WrittenLine.texts, none⟩ := by
  rw [Stream.frame, Stream.rawRecords]
  apply frame_encoded flexible untrimmed
  rw [same, records_written delimits lines unmarked, List.map_map]
  rfl

end Streams

end SimResults.Proofs.WrittenRecords
