import Mathlib.Data.List.TakeWhile
import SimResults.Proofs.Outcomes

/-! Array cells word by word. What is blank only keeps words apart, so a text that is put together at a blank
has the numbers of its parts, or the fault of the first part that has one. -/

namespace SimResults.Proofs.ArrayWords
open Text Number Outcomes

def AllBlank (chars : List Char) : Prop := ∀ char ∈ chars, isBlank char = true

/-- A word and what stands around it: as many characters in a row without a blank as there are. -/
structure WordAt (chars before word after : List Char) : Prop where
  whole : chars = before ++ word ++ after
  filled : word ≠ []
  solid : ∀ char ∈ word, isBlank char = false
  opens : ∀ char, before.getLast? = some char → isBlank char = true
  closes : ∀ char, after.head? = some char → isBlank char = true

section Words

variable {chars left right gap before word after : List Char}

/-- A blank ends a word; the word that is under way decides nothing about what follows. -/
private theorem wordsFrom_append {blank : Char} (known : isBlank blank = true) (started left right : List Char) :
    wordsFrom started (left ++ blank :: right) = wordsFrom started left ++ words right := by
  induction left generalizing started with
  | nil =>
    rw [List.nil_append, wordsFrom, wordsFrom, if_pos known, words]
    split <;> rfl
  | cons char left ih =>
    rw [List.cons_append, wordsFrom, wordsFrom, ih, ih]
    split
    · split <;> rfl
    · rfl

private theorem words_append {blank : Char} (known : isBlank blank = true) (left right : List Char) :
    words (left ++ blank :: right) = words left ++ words right := wordsFrom_append known [] left right

private theorem words_blanks (blanks : AllBlank gap) (right : List Char) : words (gap ++ right) = words right := by
  induction gap with
  | nil => rfl
  | cons blank gap ih =>
    obtain ⟨known, rest⟩ := List.forall_mem_cons.mp blanks
    have first := words_append known [] (gap ++ right)
    exact first.trans (ih rest)

private theorem words_all_blank (blanks : AllBlank chars) : words chars = [] := by
  have none := words_blanks blanks []
  rwa [List.append_nil] at none

private theorem words_gap (blanks : AllBlank gap) (nonempty : gap ≠ []) (left right : List Char) :
    words (left ++ gap ++ right) = words left ++ words right := by
  obtain ⟨blank, rest, rfl⟩ := List.exists_cons_of_ne_nil nonempty
  obtain ⟨known, others⟩ := List.forall_mem_cons.mp blanks
  rw [List.append_assoc, List.cons_append, words_append known, words_blanks others]

private theorem words_around {opening closing : List Char} (opens : AllBlank opening) (closes : AllBlank closing)
    (chars : List Char) : words (opening ++ chars ++ closing) = words chars := by
  rw [List.append_assoc, words_blanks opens]
  by_cases empty : closing = []
  · rw [empty, List.append_nil]
  · have apart := words_gap closes empty chars []
    rw [List.append_nil] at apart
    exact apart.trans (List.append_nil _)

/-- Words are not cut at the end of a text that is empty or ends in a blank. -/
private theorem words_opened (opens : ∀ char, before.getLast? = some char → isBlank char = true)
    (right : List Char) :
    words (before ++ right) = words before ++ words right := by
  rcases List.eq_nil_or_concat before with rfl | ⟨front, last, rfl⟩
  · rfl
  · have known : isBlank last = true := opens last (by simp)
    have alone := words_append known front []
    rw [List.concat_eq_append, List.append_assoc, List.singleton_append, words_append known, alone]
    exact congrArg (· ++ words right) (List.append_nil _).symm

private theorem words_closed (closes : ∀ char, after.head? = some char → isBlank char = true) (left : List Char) :
    words (left ++ after) = words left ++ words after := by
  cases after with
  | nil => rw [List.append_nil]; exact (List.append_nil _).symm
  | cons blank rest =>
    have known : isBlank blank = true := closes blank rfl
    have alone : words (blank :: rest) = words rest := words_append known [] rest
    rw [words_append known, alone]

private theorem wordsFrom_solid (solid : ∀ char ∈ word, isBlank char = false) (started right : List Char) :
    wordsFrom started (word ++ right) = wordsFrom (word.reverse ++ started) right := by
  induction word generalizing started with
  | nil => rfl
  | cons char word ih =>
    obtain ⟨known, rest⟩ := List.forall_mem_cons.mp solid
    rw [List.cons_append, wordsFrom, known, if_neg Bool.false_ne_true, ih rest, List.reverse_cons,
      List.append_assoc, List.singleton_append]

private theorem words_solid (filled : word ≠ []) (solid : ∀ char ∈ word, isBlank char = false) : words word =
    [word] := by
  have alone := wordsFrom_solid solid [] []
  rw [List.append_nil, List.append_nil] at alone
  rw [words, alone, wordsFrom, List.isEmpty_reverse, if_neg (by simpa using filled), List.reverse_reverse]

private theorem WordAt.words (found : WordAt chars before word after) :
    Text.words chars = Text.words before ++ word :: Text.words after := by
  rw [found.whole, List.append_assoc, words_opened found.opens, words_closed found.closes,
    words_solid found.filled found.solid]
  rfl

/-- A text has no word, or a first one. -/
private theorem first_word (chars : List Char) :
    AllBlank chars ∨ ∃ before word after, WordAt chars before word after ∧ AllBlank before := by
  induction chars with
  | nil => exact .inl (by simp [AllBlank])
  | cons char rest ih =>
    cases known : isBlank char with
    | true =>
      rcases ih with blanks | ⟨before, word, after, found, blanks⟩
      · exact .inl (List.forall_mem_cons.mpr ⟨known, blanks⟩)
      · have opened : AllBlank (char :: before) := List.forall_mem_cons.mpr ⟨known, blanks⟩
        refine .inr ⟨char :: before, word, after, ⟨?_, found.filled, found.solid, ?_, found.closes⟩, opened⟩
        · rw [found.whole, List.cons_append, List.cons_append]
        · exact fun last final => opened last (List.mem_of_getLast? final)
    | false =>
      let solid (char : Char) : Bool := !isBlank char
      refine .inr ⟨[], (char :: rest).takeWhile solid, (char :: rest).dropWhile solid, ⟨?_, ?_, ?_, nofun, ?_⟩, nofun⟩
      · exact List.takeWhile_append_dropWhile.symm
      · simp [solid, known]
      · intro other member
        simpa [solid] using List.all_eq_true.mp List.all_takeWhile other member
      · intro next final
        have stopped := List.head?_dropWhile_not solid (char :: rest)
        rw [final] at stopped
        simpa [solid] using stopped

section Inside

variable {rest first : List Char} (found : WordAt chars gap first rest) (inner : WordAt rest before word after)
include found inner

private theorem WordAt.apart : before ≠ [] := by
  intro empty
  obtain ⟨char, others, rfl⟩ := List.exists_cons_of_ne_nil inner.filled
  have blank := found.closes char (by rw [inner.whole, empty]; rfl)
  have solid := inner.solid char List.mem_cons_self
  cases blank.symm.trans solid

private theorem WordAt.leading : WordAt (gap ++ first ++ before) gap first before := by
  refine ⟨rfl, found.filled, found.solid, found.opens, ?_⟩
  intro char head
  apply found.closes
  rw [inner.whole, List.append_assoc, List.head?_append, head]
  rfl

private theorem WordAt.behind : WordAt chars (gap ++ first ++ before) word after := by
  refine ⟨?_, inner.filled, inner.solid, ?_, inner.closes⟩
  · rw [found.whole, inner.whole]
    simp only [List.append_assoc]
  · intro char final
    obtain ⟨last, ends⟩ := Option.isSome_iff_exists.mp (List.getLast?_isSome.mpr (found.apart inner))
    rw [List.getLast?_append, ends] at final
    exact inner.opens char (ends.trans final)

end Inside

/-- Every word stands somewhere, and those before it are the words of the text before it. -/
private theorem wordAt_of_words {front back : List (List Char)} (split : words chars = front ++ word :: back) :
    ∃ before after, WordAt chars before word after ∧ words before = front := by
  induction front generalizing chars with
  | nil =>
    rcases first_word chars with blanks | ⟨gap, first, rest, found, blanks⟩
    · rw [words_all_blank blanks] at split
      cases split
    · rw [found.words, words_all_blank blanks] at split
      cases split
      exact ⟨gap, rest, found, words_all_blank blanks⟩
  | cons earlier front ih =>
    rcases first_word chars with blanks | ⟨gap, first, rest, found, blanks⟩
    · rw [words_all_blank blanks] at split
      cases split
    · rw [found.words, words_all_blank blanks, List.nil_append, List.cons_append, List.cons.injEq] at split
      obtain ⟨rfl, others⟩ := split
      obtain ⟨before, after, inner, same⟩ := ih others
      refine ⟨gap ++ first ++ before, after, found.behind inner, ?_⟩
      rw [(found.leading inner).words, words_all_blank blanks, same, List.nil_append]

private theorem mem_words : word ∈ words chars ↔ ∃ before after, WordAt chars before word after := by
  constructor
  · intro member
    obtain ⟨front, back, split⟩ := List.append_of_mem member
    obtain ⟨before, after, found, _⟩ := wordAt_of_words split
    exact ⟨before, after, found⟩
  · rintro ⟨before, after, found⟩
    rw [found.words]
    exact List.mem_append_right _ List.mem_cons_self

end Words

section Elements

open Cell

variable {fault : CellFault}

private theorem readElements_append (front back : List (List Char)) :
    readElements (front ++ back) = readElements front >>= fun values => (readElements back).map (values ++ ·) := by
  induction front with
  | nil =>
    change readElements back = (readElements back).map id
    cases readElements back <;> rfl
  | cons word front ih =>
    rw [List.cons_append, readElements, readElements]
    cases readFloat word with
    | error reason => rfl
    | ok value =>
      simp only [ih]
      cases readElements front with
      | error fault => rfl
      | ok values => cases readElements back <;> rfl

/-- Reading stops at the first word that is no number. -/
theorem readElements_eq_error {items : List (List Char)} :
    readElements items = .error fault ↔ ∃ front word back reason, items = front ++ word :: back ∧
      (∀ other ∈ front, ∃ value, readFloat other = .ok value) ∧ readFloat word = .error reason ∧
      fault = .element (String.ofList word) reason := by
  induction items with
  | nil => simp [readElements]
  | cons first items ih =>
    rw [readElements]
    cases known : readFloat first with
    | error reason =>
      constructor
      · intro failed
        cases failed
        exact ⟨[], first, items, reason, rfl, by simp, known, rfl⟩
      · rintro ⟨front, word, back, other, split, before, failed, rfl⟩
        cases front with
        | nil =>
          cases split
          cases known.symm.trans failed
          rfl
        | cons earlier front =>
          cases split
          obtain ⟨value, read⟩ := before _ List.mem_cons_self
          cases known.symm.trans read
    | ok value =>
      simp only [map_eq_error, ih]
      constructor
      · rintro ⟨front, word, back, reason, rfl, before, failed, rfl⟩
        exact ⟨first :: front, word, back, reason, rfl, List.forall_mem_cons.mpr ⟨⟨value, known⟩, before⟩, failed, rfl⟩
      · rintro ⟨front, word, back, reason, split, before, failed, rfl⟩
        cases front with
        | nil =>
          cases split
          cases known.symm.trans failed
        | cons earlier front =>
          cases split
          exact ⟨front, word, back, reason, rfl, (List.forall_mem_cons.mp before).2, failed, rfl⟩

end Elements

section Cells

open Cell

variable {raw left right gap : String} {fault : CellFault}

private theorem readArray_filled (filled : raw ≠ "") :
    readArray raw = (readElements (words raw.toList)).map .array := by
  rw [readArray, if_neg (mt String.isEmpty_iff.mp filled)]

private theorem readArray_eq_ok {cell : Cell} (filled : raw ≠ "") :
    readArray raw = .ok cell ↔ ∃ values, readElements (words raw.toList) = .ok values ∧ cell = .array values := by
  rw [readArray_filled filled, map_eq_ok]
  simp only [eq_comm]

private theorem readArray_eq_error :
    readArray raw = .error fault ↔ ∃ before word after reason, WordAt raw.toList before word after ∧
      (∀ front other rest, WordAt before front other rest → ∃ value, readFloat other = .ok value) ∧
      readFloat word = .error reason ∧ fault = .element (String.ofList word) reason := by
  by_cases empty : raw = ""
  · subst empty
    refine iff_of_false nofun ?_
    rintro ⟨before, word, after, reason, found, _⟩
    have none := found.whole
    rw [String.toList_empty, eq_comm, List.append_eq_nil_iff, List.append_eq_nil_iff] at none
    exact found.filled none.1.2
  · rw [readArray_filled empty, map_eq_error, readElements_eq_error]
    constructor
    · rintro ⟨front, word, back, reason, split, read, failed, rfl⟩
      obtain ⟨before, after, found, same⟩ := wordAt_of_words split
      refine ⟨before, word, after, reason, found, ?_, failed, rfl⟩
      intro opening other rest inner
      exact read other (same ▸ mem_words.mpr ⟨opening, rest, inner⟩)
    · rintro ⟨before, word, after, reason, found, read, failed, rfl⟩
      refine ⟨words before, word, words after, reason, found.words, ?_, failed, rfl⟩
      intro other member
      obtain ⟨opening, rest, inner⟩ := mem_words.mp member
      exact read opening other rest inner

private theorem readArray_append (blanks : AllBlank gap.toList) (apart : gap ≠ "") (filled : left ≠ "") :
    readArray (left ++ gap ++ right) =
      (readElements (words left.toList) >>= fun values =>
        (readElements (words right.toList)).map (values ++ ·)).map .array := by
  have whole : left ++ gap ++ right ≠ "" := by
    rw [ne_eq, ← String.toList_eq_nil_iff, String.toList_append, String.toList_append]
    simp [filled]
  rw [readArray_filled whole, String.toList_append, String.toList_append,
    words_gap blanks (mt String.toList_eq_nil_iff.mp apart), readElements_append]

private theorem readArray_blank (filled : raw ≠ "") (blanks : AllBlank raw.toList) : readArray raw = .ok
    (.array []) := by
  rw [readArray_filled filled, words_all_blank blanks]
  rfl

private theorem readArray_null : readArray raw = .ok .null ↔ raw = "" := by
  constructor
  · intro absent
    by_contra filled
    obtain ⟨_, _, impossible⟩ := (readArray_eq_ok filled).mp absent
    cases impossible
  · rintro rfl
    rfl

private theorem readArray_around {opening closing : String} (filled : raw ≠ "") (opens : AllBlank opening.toList)
    (closes : AllBlank closing.toList) : readArray (opening ++ raw ++ closing) = readArray raw := by
  have whole : opening ++ raw ++ closing ≠ "" := by
    rw [ne_eq, ← String.toList_eq_nil_iff, String.toList_append, String.toList_append]
    simp [filled]
  rw [readArray_filled whole, readArray_filled filled, String.toList_append, String.toList_append,
    words_around opens closes]

end Cells

open Cell in
/-- Two texts with a blank between them have the numbers of both, or the fault of the first that has one. A
fault names the first word that is no number. Blanks around a text change nothing, and blanks alone are an
array without numbers; only a text without characters is absent. -/
theorem readArray_words :
    (∀ left gap right : String, left ≠ "" → right ≠ "" → gap ≠ "" → AllBlank gap.toList →
      ((∃ cell, readArray (left ++ gap ++ right) = .ok cell) ↔
        (∃ cell, readArray left = .ok cell) ∧ ∃ cell, readArray right = .ok cell) ∧
      (∀ cell more, readArray left = .ok cell → readArray right = .ok more →
        ∃ values others, cell = .array values ∧ more = .array others ∧
          readArray (left ++ gap ++ right) = .ok (.array (values ++ others))) ∧
      ∀ fault, readArray (left ++ gap ++ right) = .error fault ↔
        readArray left = .error fault ∨ (∃ cell, readArray left = .ok cell) ∧ readArray right = .error fault) ∧
    (∀ raw fault, readArray raw = .error fault ↔ ∃ before word after reason, WordAt raw.toList before word after ∧
      (∀ front other rest, WordAt before front other rest → ∃ value, readFloat other = .ok value) ∧
      readFloat word = .error reason ∧ fault = .element (String.ofList word) reason ∧
      fault.message = "invalid array element '" ++ String.ofList word ++ "': " ++ reason.message) ∧
    (∀ opening raw closing : String, raw ≠ "" → AllBlank opening.toList → AllBlank closing.toList →
      readArray (opening ++ raw ++ closing) = readArray raw) ∧
    (∀ raw, raw ≠ "" → AllBlank raw.toList → readArray raw = .ok (.array [])) ∧
    ∀ raw, readArray raw = .ok .null ↔ raw = "" := by
  refine ⟨?_, ?_, fun _ _ _ => readArray_around, fun _ => readArray_blank, fun _ => readArray_null⟩
  · intro left gap right filled also apart blanks
    rw [readArray_append blanks apart filled, readArray_filled filled, readArray_filled also]
    cases readElements (words left.toList) with
    | error fault => simp [bind, Except.bind, Except.map]
    | ok values =>
      cases readElements (words right.toList) with
      | error fault => simp [bind, Except.bind, Except.map]
      | ok others => simp [bind, Except.bind, Except.map]
  · intro raw fault
    rw [readArray_eq_error]
    constructor
    · rintro ⟨before, word, after, reason, found, read, failed, rfl⟩
      exact ⟨before, word, after, reason, found, read, failed, rfl, rfl⟩
    · rintro ⟨before, word, after, reason, found, read, failed, same, _⟩
      exact ⟨before, word, after, reason, found, read, failed, same⟩

/-- A tab and a wide space, of which neither is the plain one. -/
def wideGap : String := "\t\u2003"

open Cell in
theorem readArray_words_wide :
    (("1.5 -2" : String) ≠ "" ∧ ("3 two x" : String) ≠ "" ∧ wideGap ≠ "" ∧ AllBlank wideGap.toList) ∧
    readArray ("1.5 -2" ++ wideGap ++ "7") = .ok (.array [1.5, -2, 7]) ∧
    readArray ("1.5 -2" ++ wideGap ++ "3 two x") = .error (.element "two" .invalidLiteral) ∧
    readArray (wideGap ++ "1.5 -2" ++ wideGap) = .ok (.array [1.5, -2]) ∧
    readArray wideGap = .ok (.array []) := by
  have blanks : AllBlank wideGap.toList := List.all_eq_true.mp (by decide +kernel)
  have filled : ("1.5 -2" : String) ≠ "" := by decide
  have also : ("3 two x" : String) ≠ "" := by decide
  have apart : wideGap ≠ "" := by decide
  have read : readArray "1.5 -2" = .ok (.array [1.5, -2]) := by decide +kernel
  obtain ⟨joined, _, around, blank, _⟩ := readArray_words
  obtain ⟨_, both, _⟩ := joined "1.5 -2" wideGap "7" filled (by decide) apart blanks
  obtain ⟨_, _, fails⟩ := joined "1.5 -2" wideGap "3 two x" filled also apart blanks
  refine ⟨⟨filled, also, apart, blanks⟩, ?_, ?_, ?_, blank wideGap apart blanks⟩
  · obtain ⟨values, others, same, likewise, together⟩ := both _ (.array [7]) read (by decide +kernel)
    cases same
    cases likewise
    exact together
  · exact (fails _).mpr (.inr ⟨⟨_, read⟩, by decide +kernel⟩)
  · exact (around wideGap "1.5 -2" wideGap filled blanks blanks).trans read

end SimResults.Proofs.ArrayWords
