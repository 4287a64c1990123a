import SimResults.Metadata
import SimResults.Proofs.Outcomes
import SimResults.Proofs.WrittenRecords

/-! Metadata as it is written and read. Reading undoes writing, whichever cells are quoted and
however lines end, and blanks around the stream do not matter. -/

namespace SimResults.Proofs.MetadataStreams
open Text Delimited Outcomes EncodedText WrittenRecords

section Streams

variable {lines : List (WrittenLine '\t')} {before after : Bytes}

private theorem tab_delimits : Delimits '\t' := by constructor <;> decide

def streamOf (lines : List (WrittenLine '\t')) : String := String.ofList (writtenChars lines)

/-- Nothing at the ends of a stream can be taken for what surrounds it. -/
structure Bare (lines : List (WrittenLine '\t')) : Prop where
  unmarked : ¬ byteOrderMark <+: encode (streamOf lines)
  start : (encode (streamOf lines)).head?.any isBlankByte = false
  /-- Before the last line end. -/
  ending : (bytesOf (unendedChars lines)).getLast?.any isBlankByte = false

private theorem ending_blank (line : WrittenLine '\t') : (bytesOf line.ending).all isBlankByte = true := by
  rw [WrittenLine.ending]
  cases line.returns <;> decide

private theorem stream_unended (lines : List (WrittenLine '\t')) :
    ∃ blanks, encode (streamOf lines) = bytesOf (unendedChars lines) ++ blanks ∧
      blanks.all isBlankByte = true := by
  rw [streamOf, encode_ofList]
  rcases List.eq_nil_or_concat lines with rfl | ⟨front, last, rfl⟩
  · exact ⟨[], rfl, rfl⟩
  · refine ⟨bytesOf last.ending, ?_, ending_blank last⟩
    rw [List.concat_eq_append, unendedChars_concat, ← bytesOf_append]
    simp [writtenChars, WrittenLine.chars]

private theorem trimmed_written (bare : Bare lines) (blanksBefore : before.all isBlankByte = true)
    (blanksAfter : after.all isBlankByte = true) :
    trimmedBytes (before ++ encode (streamOf lines) ++ after) = bytesOf (unendedChars lines) := by
  obtain ⟨blanks, same, each⟩ := stream_unended lines
  have start := bare.start
  rw [same] at start ⊢
  rw [trimmedBytes, ← List.append_assoc, List.append_assoc _ blanks]
  apply strip_between blanksBefore
  · rw [List.all_append, each, blanksAfter]
    rfl
  · rw [List.head?_append] at start
    cases first : (bytesOf (unendedChars lines)).head? with
    | none => rfl
    | some byte => rwa [first] at start
  · exact bare.ending

private theorem frame_metadata (bare : Bare lines) (blanksBefore : before.all isBlankByte = true)
    (blanksAfter : after.all isBlankByte = true) :
    Stream.frame ⟨trimmedBytes (before ++ encode (streamOf lines) ++ after), none⟩ Metadata.dialect =
      ⟨lines.map WrittenLine.texts, none⟩ := by
  rw [trimmed_written bare blanksBefore blanksAfter]
  apply frame_written tab_delimits lines _ rfl rfl rfl
  rw [Bool.eq_false_iff]
  intro marked
  obtain ⟨blanks, same, _⟩ := stream_unended lines
  exact bare.unmarked (same ▸ (List.isPrefixOf_iff_prefix.mp marked).trans (List.prefix_append _ _))

end Streams

section Rows

variable {layout : Metadata.Layout}

/-- The text of a record at a position, unless it is empty or beyond the end. -/
def filled? (texts : List String) (position : Nat) : Option String :=
  texts[position]?.filter fun text => !text.isEmpty

def rowOf (layout : Metadata.Layout) (texts : List String) : Row :=
  (List.range layout.columns.length).map fun position => (filled? texts position).elim .null .text

def listedEntry (texts : List String) : Metadata.Entry := ⟨texts.headD "", filled? texts 1, filled? texts 2⟩

private theorem ofText_getD (texts : List String) (position : Nat) :
    Cell.ofText (texts.getD position "") = (filled? texts position).elim .null .text := by
  rw [filled?, List.getD_eq_getElem?_getD, Cell.ofText]
  cases texts[position]? with
  | none => rfl
  | some text => by_cases empty : text.isEmpty <;> simp [Option.filter, empty]

private theorem readRecord_eq_ok {number : Nat} {record : List String} {row : Row} :
    Metadata.readRecord layout.columns number record = .ok row ↔
      record.length ≤ layout.columns.length ∧ row = rowOf layout record := by
  rw [Metadata.readRecord, ← Nat.not_lt]
  split
  next wide => exact iff_of_false nofun fun fits => fits.1 wide
  next fits =>
    rw [Except.ok.injEq, eq_comm, and_iff_right fits, rowOf]
    simp only [ofText_getD]

private theorem readRecords_eq_traverse (columns : List String) (number : Nat) (records : List (List String)) :
    Metadata.readRecords columns number records =
      traverseFrom (Metadata.readRecord columns) number records := by
  induction records generalizing number with
  | nil => rfl
  | cons record rest ih => rw [Metadata.readRecords, traverseFrom, ih]

private theorem readRecords_eq_ok {records : List (List String)} {rows : List Row} :
    Metadata.readRecords layout.columns 1 records = .ok rows ↔
      (∀ record ∈ records, record.length ≤ layout.columns.length) ∧ rows = records.map (rowOf layout) := by
  rw [readRecords_eq_traverse]
  apply traverseFrom_eq_map
  intro number record row
  exact readRecord_eq_ok

/-- The first record that is too long for its columns is reported. -/
theorem readRecords_surplus {records : List (List String)} {index : Nat} {record : List String}
    (found : records[index]? = some record) (wide : layout.columns.length < record.length)
    (fit : ∀ earlier < index, ∀ other, records[earlier]? = some other → other.length ≤ layout.columns.length) :
    Metadata.readRecords layout.columns 1 records =
      .error (.parse (index + 1) (layout.columns.getLastD "") ("\t".intercalate record)
        (.surplusCells layout.columns.length record.length)) := by
  rw [readRecords_eq_traverse, traverseFrom_eq_error]
  refine ⟨index, record, found, ?_, ?_⟩
  · rw [Metadata.readRecord, if_pos wide, Nat.add_comm]
  · intro earlier before other there
    exact ⟨_, readRecord_eq_ok.mpr ⟨fit earlier before other there, rfl⟩⟩

end Rows

section Entries

variable {layout : Metadata.Layout} (number : Nat) {texts : List String}

private theorem text?_rowOf {name : String} {position : Nat}
    (found : positionIn? layout.fields name = some position) :
    RowView.text? ⟨layout.fields, rowOf layout texts, number⟩ name = filled? texts position := by
  obtain ⟨inside, _⟩ := List.findIdx?_eq_some_iff_getElem.mp found
  have inside : position < layout.columns.length := by simpa [Metadata.Layout.fields] using inside
  rw [RowView.text?, RowView.cell?, found, Option.map_some, Option.bind_some, Row.cell, rowOf,
    List.getD_eq_getElem?_getD, List.getElem?_map, List.getElem?_range inside, Option.map_some, Option.getD_some]
  cases filled? texts position <;> rfl

/-- Neither names nor values are in a list of runs, nor in records that fit its one column. -/
private theorem text?_entry (fits : texts.length ≤ layout.columns.length) :
    RowView.text? ⟨layout.fields, rowOf layout texts, number⟩ Column.name = filled? texts 1 ∧
      RowView.text? ⟨layout.fields, rowOf layout texts, number⟩ Column.value = filled? texts 2 := by
  cases layout with
  | nameValue => exact ⟨text?_rowOf number rfl, text?_rowOf number rfl⟩
  | runs =>
    have beyond : ∀ position, 1 ≤ position → filled? texts position = none := by
      intro position least
      have outside : texts.length ≤ position := Nat.le_trans fits least
      rw [filled?, List.getElem?_eq_none outside]
      rfl
    exact ⟨(beyond 1 (by decide)).symm, (beyond 2 (by decide)).symm⟩

private theorem filled?_first {run : String} :
    filled? texts 0 = some run ↔ texts.headD "" ≠ "" ∧ run = texts.headD "" := by
  cases texts with
  | nil => simp [filled?]
  | cons text rest =>
    rw [filled?, List.getElem?_cons_zero, List.headD_cons, Option.filter_some]
    by_cases empty : text = ""
    · simp [empty]
    · simpa [empty] using eq_comm

private theorem requireText_eq_ok {view : RowView} {name text : String} :
    view.requireText name = .ok text ↔ view.text? name = some text := by
  rw [RowView.requireText]
  cases view.text? name <;> simp

private theorem entriesFrom_eq_ok {records : List (List String)} {entries : List Metadata.Entry}
    (fit : ∀ record ∈ records, record.length ≤ layout.columns.length) :
    Metadata.entriesFrom layout.fields number (records.map (rowOf layout)) = .ok entries ↔
      (∀ record ∈ records, record.headD "" ≠ "") ∧ entries = records.map listedEntry := by
  have runs : positionIn? layout.fields Column.runID = some 0 := by cases layout <;> rfl
  induction records generalizing number entries with
  | nil =>
    rw [List.map_nil, Metadata.entriesFrom, Except.ok.injEq]
    exact ⟨fun same => ⟨nofun, same.symm⟩, fun given => given.2.symm⟩
  | cons record records ih =>
    rw [List.forall_mem_cons] at fit
    obtain ⟨name, value⟩ := text?_entry number fit.1
    simp only [List.map_cons, Metadata.entriesFrom, bind_eq_ok, pure_eq_ok, requireText_eq_ok, text?_rowOf number runs,
      filled?_first, ih (number + 1) fit.2, name, value, List.forall_mem_cons]
    constructor
    · rintro ⟨run, ⟨given, rfl⟩, others, ⟨each, rfl⟩, rfl⟩
      exact ⟨⟨given, each⟩, rfl⟩
    · rintro ⟨⟨given, each⟩, rfl⟩
      exact ⟨_, ⟨given, rfl⟩, _, ⟨each, rfl⟩, rfl⟩

end Entries

def tableOf (layout : Metadata.Layout) (lines : List (WrittenLine '\t')) : Table where
  fields := layout.columns.map fun name => ⟨name, .text⟩
  rows := lines.map fun line => rowOf layout line.texts

/-- Lines of metadata that fit their columns are read as they were written, and entries are made of
them if every line names its run; the first line that does not fit is reported instead. Blanks around
the stream change nothing. -/
theorem metadata_written (layout : Metadata.Layout) (lines : List (WrittenLine '\t')) (before after : Bytes)
    (bare : Bare lines) (blanksBefore : before.all isBlankByte = true)
    (blanksAfter : after.all isBlankByte = true) :
    ((∀ line ∈ lines, line.cells.length ≤ layout.columns.length) →
      Metadata.read layout (before ++ encode (streamOf lines) ++ after) = .ok (tableOf layout lines) ∧
      ((∃ entries, Metadata.entries (tableOf layout lines) = .ok entries) ↔
        ∀ line ∈ lines, line.texts.headD "" ≠ "") ∧
      ∀ entries, Metadata.entries (tableOf layout lines) = .ok entries →
        entries = lines.map fun line => listedEntry line.texts) ∧
    ∀ index line, lines[index]? = some line → layout.columns.length < line.cells.length →
      (∀ earlier < index, ∀ other, lines[earlier]? = some other →
        other.cells.length ≤ layout.columns.length) →
      Metadata.read layout (before ++ encode (streamOf lines) ++ after) =
        .error (.parse (index + 1) (layout.columns.getLastD "") ("\t".intercalate line.texts)
          (.surplusCells layout.columns.length line.cells.length)) := by
  have read : Metadata.read layout (before ++ encode (streamOf lines) ++ after) = (do
      let rows ← Metadata.readRecords layout.columns 1 (lines.map WrittenLine.texts)
      return ⟨layout.fields, rows⟩) := by
    rw [Metadata.read, frame_metadata bare blanksBefore blanksAfter]
  have length : ∀ line : WrittenLine '\t', line.texts.length = line.cells.length :=
    fun line => List.length_map _
  refine ⟨?_, ?_⟩
  · intro narrow
    have fit : ∀ record ∈ lines.map WrittenLine.texts, record.length ≤ layout.columns.length := by
      intro record member
      obtain ⟨line, inside, rfl⟩ := List.mem_map.mp member
      exact length line ▸ narrow line inside
    have table : tableOf layout lines = ⟨layout.fields, (lines.map WrittenLine.texts).map (rowOf layout)⟩ := by
      rw [List.map_map]
      rfl
    have entries : ∀ entries, Metadata.entries (tableOf layout lines) = .ok entries ↔
        (∀ line ∈ lines, line.texts.headD "" ≠ "") ∧ entries = lines.map fun line => listedEntry line.texts := by
      intro entries
      have contained : (tableOf layout lines).contains Column.runID = true := by cases layout <;> rfl
      rw [Metadata.entries, if_pos contained, table, entriesFrom_eq_ok 1 fit, List.map_map, List.forall_mem_map]
      rfl
    refine ⟨?_, ?_, fun found given => ((entries found).mp given).2⟩
    · rw [read, readRecords_eq_ok.mpr ⟨fit, rfl⟩, table]
      rfl
    · simp only [entries, exists_and_left, exists_eq, and_true]
  · intro index line found wide fit
    have there : (lines.map WrittenLine.texts)[index]? = some line.texts := by
      rw [List.getElem?_map, found]
      rfl
    rw [read, readRecords_surplus there (by rwa [length]), length]
    · rfl
    · intro earlier before other known
      rw [List.getElem?_map, Option.map_eq_some_iff] at known
      obtain ⟨line, present, rfl⟩ := known
      rw [length]
      exact fit earlier before line present

/-- A tab and a line end inside quotes, a quote, an empty cell and a short line. -/
def sampleLines : List (WrittenLine '\t') :=
  [⟨[.quoted "r\t0", .plain "" (by decide +kernel), .quoted "\"a\"\n"], by decide +kernel, true⟩,
    ⟨[.plain "r1" (by decide +kernel), .plain "x" (by decide +kernel)], by decide +kernel, false⟩]

def sampleTable : Table where
  fields := [⟨"runID", .text⟩, ⟨"name", .text⟩, ⟨"value", .text⟩]
  rows := [[.text "r\t0", .null, .text "\"a\"\n"], [.text "r1", .text "x", .null]]

def sampleStream : String := "\"r\t0\"\t\t\"\"\"a\"\"\n\"\r\nr1\tx\n"

/-- With blanks around it the stream is read into the table, and into no list of runs. -/
theorem metadata_written_sample :
    Bare sampleLines ∧ streamOf sampleLines = sampleStream ∧
      Metadata.read .nameValue ([0x20, 0xa] ++ encode sampleStream ++ [0xd]) = .ok sampleTable ∧
      Metadata.entries sampleTable =
        .ok [⟨"r\t0", none, some "\"a\"\n"⟩, ⟨"r1", some "x", none⟩] ∧
      Metadata.read .runs ([] ++ encode sampleStream ++ []) =
        .error (.parse 1 "runID" "r\t0\t\t\"a\"\n" (.surplusCells 1 3)) := by
  have bare : Bare sampleLines := ⟨by decide +kernel, by decide +kernel, by decide +kernel⟩
  have stream : streamOf sampleLines = sampleStream := by decide +kernel
  have table : tableOf .nameValue sampleLines = sampleTable := by decide +kernel
  obtain ⟨read, succeeds, same⟩ :=
    (metadata_written .nameValue sampleLines [0x20, 0xa] [0xd] bare rfl rfl).1 (by decide)
  have surplus := (metadata_written .runs sampleLines [] [] bare rfl rfl).2 0 _ rfl (by decide) nofun
  rw [table] at read succeeds same
  rw [stream] at read surplus
  obtain ⟨entries, given⟩ := succeeds.mpr (by decide)
  refine ⟨bare, stream, read, ?_, surplus⟩
  rw [given, same entries given]
  exact congrArg Except.ok (by decide +kernel)

end SimResults.Proofs.MetadataStreams
