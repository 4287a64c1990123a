import Mathlib.Data.List.TakeWhile
import SimResults.Json.Skip

/-! JSON text, and how it is read. Strings may be spelled in several ways, which all read the same.
Values of any shape are passed over to their end, whatever follows it. -/

namespace SimResults.Proofs.JsonText
open Json

section Blanks

def blanks : List Char := [' ', '\n', '\t', '\r']

def Blank (gap : List Char) : Prop := ∀ char ∈ gap, char ∈ blanks

variable {gap chars : List Char}

theorem blank_nil : Blank [] := by simp [Blank]

theorem skipBlank_append (blank : Blank gap) (chars : List Char) : skipBlank (gap ++ chars) = skipBlank chars := by
  refine List.dropWhile_append_of_pos ?_
  intro char inside
  simpa [blanks, or_assoc] using blank char inside

theorem skipBlank_solid {char : Char} (solid : char ∉ blanks) : skipBlank (char :: chars) = char :: chars := by
  refine List.dropWhile_cons_of_neg ?_
  simpa [blanks, and_assoc] using solid

theorem skipBlank_gap {char : Char} (blank : Blank gap) (solid : char ∉ blanks) :
    skipBlank (gap ++ char :: chars) = char :: chars := by
  rw [skipBlank_append blank, skipBlank_solid solid]

private theorem skipBlank_split (chars : List Char) : ∃ gap, Blank gap ∧ chars = gap ++ skipBlank chars := by
  refine ⟨_, ?_, (List.takeWhile_append_dropWhile).symm⟩
  intro char inside
  simpa [blanks, or_assoc] using List.mem_takeWhile_imp inside

end Blanks

section Strings

/-- Four hexadecimal digits, and the code that they stand for. -/
inductive Coded : List Char → Nat → Prop
  | digits {a b c d : Char} {w x y z : Nat} (first : hexDigit? a = some w) (second : hexDigit? b = some x)
      (third : hexDigit? c = some y) (fourth : hexDigit? d = some z) :
      Coded [a, b, c, d] (((w * 16 + x) * 16 + y) * 16 + z)

/-- How one character may be spelled between quotes. -/
inductive Spells : Char → List Char → Prop
  | plain {char : Char} (unquoted : char ≠ '"') (unescaped : char ≠ '\\') (printed : ¬ char.toNat < 0x20) :
      Spells char [char]
  | short {letter char : Char} (known : simpleEscape? letter = some char) : Spells char ['\\', letter]
  | code {digits : List Char} {value : Nat} (coded : Coded digits value)
      (whole : ¬ (0xd800 ≤ value ∧ value ≤ 0xdfff)) : Spells (Char.ofNat value) ('\\' :: 'u' :: digits)
  /-- Beyond the codes of four digits, the halves of a pair stand together. -/
  | pair {first second : List Char} {high low : Nat} (upper : Coded first high) (lower : Coded second low)
      (isHigh : 0xd800 ≤ high ∧ high ≤ 0xdbff) (isLow : 0xdc00 ≤ low ∧ low ≤ 0xdfff) :
      Spells (Char.ofNat (0x10000 + (high - 0xd800) * 0x400 + (low - 0xdc00)))
        ('\\' :: 'u' :: first ++ '\\' :: 'u' :: second)

/-- What stands behind an opening quote, up to the closing one. -/
inductive Spelled : List Char → List Char → Prop
  | close : Spelled [] ['"']
  | char {char : Char} {piece text chars : List Char} (spells : Spells char piece) (rest : Spelled text chars) :
      Spelled (char :: text) (piece ++ chars)

/-- A string in quotes, and the text that it stands for. -/
inductive Quoted : String → List Char → Prop
  | quotes {text : String} {inside : List Char} (spelled : Spelled text.toList inside) :
      Quoted text ('"' :: inside)

/-- A string that is passed over. Each code is fine by itself there. -/
inductive Passed : List Char → Prop
  | close : Passed ['"']
  | plain {char : Char} {chars : List Char} (unquoted : char ≠ '"') (unescaped : char ≠ '\\')
      (printed : ¬ char.toNat < 0x20) (rest : Passed chars) : Passed (char :: chars)
  | short {letter char : Char} {chars : List Char} (known : simpleEscape? letter = some char)
      (rest : Passed chars) : Passed ('\\' :: letter :: chars)
  | code {digits chars : List Char} {value : Nat} (coded : Coded digits value) (rest : Passed chars) :
      Passed ('\\' :: 'u' :: digits ++ chars)

variable {char : Char} {piece text chars digits : List Char} {value : Nat}

private theorem spell_code {high : Option Nat} {meant : Char} (coded : Coded digits value)
    (closed : closeCode high value = .ok (.inl meant)) (rest : List Char) :
    spell (.code high 4 0) (digits ++ rest) = prepend meant (spell .plain rest) := by
  obtain ⟨first, second, third, fourth⟩ := coded
  simp [spell, first, second, third, fourth, closed]

private theorem spell_half {half : Nat} (coded : Coded digits value)
    (closed : closeCode none value = .ok (.inr half))
    (rest : List Char) : spell (.code none 4 0) (digits ++ rest) = spell (.highSurrogate half) rest := by
  obtain ⟨first, second, third, fourth⟩ := coded
  simp [spell, first, second, third, fourth, closed]

private theorem spell_spells (spells : Spells char piece) (rest : List Char) :
    spell .plain (piece ++ rest) = prepend char (spell .plain rest) := by
  cases spells with
  | plain unquoted unescaped printed => simp [spell, unquoted, unescaped, printed]
  | short known => simp [spell, known]
  | @code digits value coded whole =>
    have closed : closeCode none value = .ok (.inl (Char.ofNat value)) := by
      rw [closeCode, if_neg (by omega), if_neg (by omega)]
    simp [spell, simpleEscape?, spell_code coded closed]
  | @pair first second high low upper lower isHigh isLow =>
    have half : closeCode none high = .ok (.inr high) := by
      rw [closeCode, if_neg (by omega), if_pos isHigh]
    have closed : closeCode (some high) low =
        .ok (.inl (Char.ofNat (0x10000 + (high - 0xd800) * 0x400 + (low - 0xdc00)))) := by
      rw [closeCode, if_pos isLow]
    simp [spell, simpleEscape?, spell_half upper half, spell_code lower closed]

private theorem spell_spelled (spelled : Spelled text chars) (rest : List Char) :
    spell .plain (chars ++ rest) = .ok (text, rest) := by
  induction spelled with
  | close => simp [spell]
  | char spells _ ih => rw [List.append_assoc, spell_spells spells, ih]; rfl

theorem readString_spelled {text : String} (spelled : Spelled text.toList chars) (rest : List Char) :
    readString (chars ++ rest) = .ok (text, rest) := by
  rw [readString, spell_spelled spelled]
  simp [Except.map]

private theorem skipString_code (coded : Coded digits value) (rest : List Char) :
    skipString (.code none 4 0) (digits ++ rest) = skipString .plain rest := by
  obtain ⟨first, second, third, fourth⟩ := coded
  simp [skipString, first, second, third, fourth]

private theorem skipString_passed (passed : Passed chars) (rest : List Char) :
    skipString .plain (chars ++ rest) = .ok rest := by
  induction passed with
  | close => simp [skipString]
  | plain unquoted unescaped printed _ ih => simpa [skipString, unquoted, unescaped, printed] using ih
  | @short letter char _ known _ ih =>
    have plain : letter ≠ 'u' := by
      rintro rfl
      cases known
    simpa [skipString, plain, known] using ih
  | code coded _ ih => simpa [skipString, skipString_code coded] using ih

end Strings

section Numbers

open Number

def AllDigits (digits : List Char) : Prop := ∀ char ∈ digits, (digit? char).isSome

/-- The digits before the point. A zero stands alone. -/
inductive Whole : List Char → Prop
  | zero : Whole ['0']
  | digits {first : Char} {rest : List Char} {leading : Nat} (positive : digit? first = some (leading + 1))
      (all : AllDigits rest) : Whole (first :: rest)

inductive Fraction : List Char → Prop
  | absent : Fraction []
  | digits {digits : List Char} (some : digits ≠ []) (all : AllDigits digits) : Fraction ('.' :: digits)

inductive Power : List Char → Prop
  | absent : Power []
  | digits {mark : Char} {sign digits : List Char} (marked : mark ∈ ['e', 'E'])
      (signed : sign ∈ [[], ['+'], ['-']]) (some : digits ≠ []) (all : AllDigits digits) :
      Power (mark :: sign ++ digits)

/-- A number without its sign. -/
inductive Numeral : List Char → Prop
  | parts {whole fraction power : List Char} (isWhole : Whole whole) (isFraction : Fraction fraction)
      (isPower : Power power) : Numeral (whole ++ fraction ++ power)

/-- What stands here does not go on with a number before it. -/
def Ends (rest : List Char) : Prop :=
  ∀ char ∈ rest.head?, digit? char = none ∧ char ∉ ['.', 'e', 'E']

variable {digits whole fraction power chars rest : List Char}

private theorem takeDigits_append (all : AllDigits digits) (stops : ∀ char ∈ rest.head?, digit? char = none) :
    takeDigits (digits ++ rest) = (digits.filterMap digit?, rest) := by
  induction digits with
  | nil =>
    cases rest with
    | nil => rfl
    | cons char rest => simp [takeDigits, stops char rfl]
  | cons char digits ih =>
    obtain ⟨first, others⟩ := List.forall_mem_cons.mp all
    obtain ⟨value, known⟩ := Option.isSome_iff_exists.mp first
    simp [takeDigits, known, ih others]

private theorem filterMap_ne_nil (some : digits ≠ []) (all : AllDigits digits) : digits.filterMap digit? ≠ [] := by
  obtain ⟨first, rest, rfl⟩ := List.exists_cons_of_ne_nil some
  obtain ⟨value, known⟩ := Option.isSome_iff_exists.mp (all first (List.mem_cons_self ..))
  simp [known]

private theorem skipExponent_digits {sign : List Char} (signed : sign ∈ [[], ['+'], ['-']]) (some : digits ≠ [])
    (all : AllDigits digits) (ends : Ends rest) : skipExponent (sign ++ digits ++ rest) = .some rest := by
  have taken := takeDigits_append all fun char first => (ends char first).1
  have values := filterMap_ne_nil some all
  obtain ⟨first, others, rfl⟩ := List.exists_cons_of_ne_nil some
  rw [List.cons_append] at taken
  have unsigned : first ≠ '+' ∧ first ≠ '-' := by
    constructor <;> rintro rfl <;> exact absurd (all _ (List.mem_cons_self ..)) (by decide)
  simp only [List.mem_cons, List.not_mem_nil, or_false] at signed
  obtain rfl | rfl | rfl := signed
  · simp [skipExponent, unsigned, taken]
  · simp [skipExponent, taken]
  · simp [skipExponent, taken]

private theorem whole_digits (isWhole : Whole whole) : AllDigits whole ∧
    (whole.filterMap digit? = [0] ∨ ∃ leading more, whole.filterMap digit? = (leading + 1) :: more) := by
  cases isWhole with
  | zero => exact ⟨by simp [AllDigits, digit?], .inl (by decide)⟩
  | @digits first rest leading positive all =>
    refine ⟨List.forall_mem_cons.mpr ⟨by rw [positive]; rfl, all⟩, .inr ⟨leading, rest.filterMap digit?, ?_⟩⟩
    simp [positive]

def skipPower : List Char → Option (List Char)
  | 'e' :: rest | 'E' :: rest => skipExponent rest
  | rest => .some rest

private theorem skipPower_power (isPower : Power power) (ends : Ends rest) : skipPower
    (power ++ rest) = .some rest := by
  cases isPower with
  | absent =>
    rw [List.nil_append, skipPower.eq_def]
    split
    next => exact absurd (ends 'e' rfl).2 (by decide)
    next => exact absurd (ends 'E' rfl).2 (by decide)
    next => rfl
  | @digits mark sign digits marked signed some all =>
    have exponent := skipExponent_digits signed some all ends
    simp only [List.mem_cons, List.not_mem_nil, or_false] at marked
    obtain rfl | rfl := marked
    · exact exponent
    · exact exponent

private theorem power_stops (isPower : Power power) (ends : Ends rest) :
    ∀ char ∈ (power ++ rest).head?, digit? char = none ∧ char ≠ '.' := by
  cases isPower with
  | absent =>
    intro char first
    obtain ⟨stops, other⟩ := ends char first
    exact ⟨stops, fun point => other (by simp [point])⟩
  | @digits mark sign digits marked signed some all =>
    simp only [List.mem_cons, List.not_mem_nil, or_false] at marked
    intro char first
    obtain rfl : mark = char := Option.some.inj first
    obtain rfl | rfl := marked
    · exact ⟨by decide, by decide⟩
    · exact ⟨by decide, by decide⟩

/-- Without a point, only a power of ten may follow. -/
private theorem skipNumber_whole (isWhole : Whole whole)
    (stops : ∀ char ∈ rest.head?, digit? char = none ∧ char ≠ '.') :
    skipNumber (whole ++ rest) = (skipPower rest).elim (.error .malformed) .ok := by
  obtain ⟨all, leading⟩ := whole_digits isWhole
  have pointless : ∀ after, rest = '.' :: after → False := by
    rintro after rfl
    exact (stops '.' rfl).2 rfl
  rw [skipNumber, takeDigits_append all fun char first => (stops char first).1]
  obtain single | ⟨_, _, more⟩ := leading
  · fun_cases skipPower rest <;> simp [single] <;> cases skipExponent _ <;> rfl
  · fun_cases skipPower rest <;> simp [more] <;> cases skipExponent _ <;> rfl

/-- With a point, digits have to follow it. -/
private theorem skipNumber_fraction (isWhole : Whole whole) (some : digits ≠ []) (all : AllDigits digits)
    (stops : ∀ char ∈ rest.head?, digit? char = none ∧ char ≠ '.') :
    skipNumber (whole ++ '.' :: (digits ++ rest)) = (skipPower rest).elim (.error .malformed) .ok := by
  obtain ⟨first, leading⟩ := whole_digits isWhole
  have values := filterMap_ne_nil some all
  have point : ∀ char ∈ ('.' :: (digits ++ rest)).head?, digit? char = none := by
    intro char same
    obtain rfl : '.' = char := Option.some.inj same
    rfl
  rw [skipNumber, takeDigits_append first point]
  have taken := takeDigits_append all fun char first => (stops char first).1
  obtain single | ⟨_, _, more⟩ := leading
  · fun_cases skipPower rest <;> simp [single, taken] <;> cases skipExponent _ <;> rfl
  · fun_cases skipPower rest <;> simp [more, taken] <;> cases skipExponent _ <;> rfl

private theorem skipNumber_numeral (numeral : Numeral chars) (ends : Ends rest) : skipNumber
    (chars ++ rest) = .ok rest := by
  obtain ⟨isWhole, isFraction, isPower⟩ := numeral
  have stops := power_stops isPower ends
  cases isFraction with
  | absent =>
    rw [List.append_nil, List.append_assoc, skipNumber_whole isWhole stops, skipPower_power isPower ends]
    rfl
  | digits some all =>
    rw [List.append_assoc, List.append_assoc, List.cons_append, skipNumber_fraction isWhole some all stops,
      skipPower_power isPower ends]
    rfl

end Numbers

section Values

open Number

def opening : Bracket → Char
  | .list => '['
  | .object => '\x7b'

inductive Scalar : List Char → Prop
  | null : Scalar ['n', 'u', 'l', 'l']
  | true : Scalar ['t', 'r', 'u', 'e']
  | false : Scalar ['f', 'a', 'l', 's', 'e']
  | number {chars : List Char} (numeral : Numeral chars) : Scalar chars
  | negative {chars : List Char} (numeral : Numeral chars) : Scalar ('-' :: chars)
  | text {chars : List Char} (passed : Passed chars) : Scalar ('"' :: chars)

/-- What stands before a value between brackets: in an object, its name. -/
inductive Label : Bracket → List Char → Prop
  | position {gap : List Char} (blank : Blank gap) : Label .list gap
  | name {before name after gap : List Char} (first : Blank before) (passed : Passed name) (second : Blank after)
      (third : Blank gap) : Label .object (before ++ '"' :: name ++ after ++ ':' :: gap)

inductive Part
  | value
  /-- What stands behind an opening bracket, up to the closing one. -/
  | inside (bracket : Bracket)

inductive Written : Part → List Char → Prop
  | scalar {chars : List Char} (scalar : Scalar chars) : Written .value chars
  | empty {bracket : Bracket} {gap : List Char} (blank : Blank gap) :
      Written .value (opening bracket :: gap ++ [bracket.closing])
  | filled {bracket : Bracket} {chars : List Char} (inside : Written (.inside bracket) chars) :
      Written .value (opening bracket :: chars)
  | last {bracket : Bracket} {label chars gap : List Char} (labelled : Label bracket label)
      (value : Written .value chars) (blank : Blank gap) :
      Written (.inside bracket) (label ++ chars ++ gap ++ [bracket.closing])
  | more {bracket : Bracket} {label chars gap rest : List Char} (labelled : Label bracket label)
      (value : Written .value chars) (blank : Blank gap) (inside : Written (.inside bracket) rest) :
      Written (.inside bracket) (label ++ chars ++ gap ++ ',' :: rest)

/-- What is expected where a label may stand. -/
def labelStage : Bracket → Stage
  | .list => .value
  | .object => .name

/-- Reading passes over these characters, in two steps for each of them at most. -/
def Skips (stage : Stage) (inner : List Bracket) (chars rest : List Char) (next : Stage) (outer : List Bracket) :
    Prop :=
  ∃ steps ≤ 2 * chars.length, ∀ fuel,
    skipFrom (fuel + steps) stage inner (chars ++ rest) = skipFrom fuel next outer rest

variable {stage middle next : Stage} {inner between outer : List Bracket} {bracket : Bracket}
  {chars before behind rest gap : List Char}

private theorem Skips.trans (first : Skips stage inner before (behind ++ rest) middle between)
    (second : Skips middle between behind rest next outer) : Skips stage inner (before ++ behind) rest next outer := by
  obtain ⟨steps, few, goes⟩ := first
  obtain ⟨more, fewMore, goesOn⟩ := second
  refine ⟨more + steps, by rw [List.length_append]; omega, ?_⟩
  intro fuel
  rw [List.append_assoc, ← Nat.add_assoc, goes, goesOn]

private theorem skipFrom_gap (blank : Blank gap) (open_ : stage = .afterValue → inner ≠ []) (fuel : Nat) :
    skipFrom fuel stage inner (gap ++ rest) = skipFrom fuel stage inner rest := by
  have same := skipBlank_append blank rest
  cases fuel with
  | zero => rfl
  | succ fuel =>
    cases stage with
    | afterValue =>
      obtain ⟨bracket, outer, rfl⟩ := List.exists_cons_of_ne_nil (open_ rfl)
      simp only [skipFrom, same]
    | value => simp only [skipFrom, same]
    | opened => simp only [skipFrom, same]
    | name => simp only [skipFrom, same]

private theorem skips_gap (blank : Blank gap) : Skips stage (bracket :: outer) gap rest stage (bracket :: outer) :=
  ⟨0, Nat.zero_le _, fun fuel => skipFrom_gap blank (fun _ => List.cons_ne_nil bracket outer) fuel⟩

/-- Characters that no value begins with, and the brackets. -/
def structural : List Char := blanks ++ ['[', ']', '\x7b', '\x7d']

private theorem digit_apart {char : Char} (digit : (digit? char).isSome) {others : List Char}
    (none : others.all (digit? · |>.isNone) = true) : char ∉ others := by
  intro inside
  have other := List.all_eq_true.mp none char inside
  rw [← Option.not_isSome, digit] at other
  cases other

private theorem numeral_start (numeral : Numeral chars) :
    ∃ first behind, chars = first :: behind ∧ (digit? first).isSome := by
  obtain ⟨isWhole, _, _⟩ := numeral
  obtain ⟨all, _⟩ := whole_digits isWhole
  cases isWhole with
  | zero => exact ⟨_, _, rfl, by decide⟩
  | digits _ _ => exact ⟨_, _, rfl, all _ (List.mem_cons_self ..)⟩

private theorem scalar_start (scalar : Scalar chars) : ∃ first behind, chars = first ::
    behind ∧ first ∉ structural ∧
    ∀ rest, Ends rest → skipScalar first (behind ++ rest) = .ok rest := by
  cases scalar with
  | null => exact ⟨_, _, rfl, by decide, fun _ _ => rfl⟩
  | true => exact ⟨_, _, rfl, by decide, fun _ _ => rfl⟩
  | false => exact ⟨_, _, rfl, by decide, fun _ _ => rfl⟩
  | number numeral =>
    obtain ⟨first, behind, rfl, digit⟩ := numeral_start numeral
    refine ⟨_, _, rfl, digit_apart digit rfl, ?_⟩
    intro rest ends
    have others : first ∉ ['n', 't', 'f', '-', '"'] := digit_apart digit rfl
    simp only [List.mem_cons, List.not_mem_nil, or_false, not_or] at others
    have passes := skipNumber_numeral numeral ends
    rw [List.cons_append] at passes
    rw [skipScalar.eq_def]
    simp [others, digit, passes]
  | negative numeral => exact ⟨_, _, rfl, by decide, fun _ ends => skipNumber_numeral numeral ends⟩
  | text passed => exact ⟨_, _, rfl, by decide, fun _ _ => skipString_passed passed _⟩

private theorem skips_scalar (scalar : Scalar chars) (ends : Ends rest) :
    Skips .value inner chars rest .afterValue inner := by
  obtain ⟨first, behind, rfl, other, passes⟩ := scalar_start scalar
  simp only [structural, List.mem_append, not_or] at other
  obtain ⟨solid, unbracketed⟩ := other
  simp only [List.mem_cons, List.not_mem_nil, or_false, not_or] at unbracketed
  refine ⟨1, by rw [List.length_cons]; omega, ?_⟩
  intro fuel
  simp [skipFrom, skipBlank_solid solid, unbracketed, passes rest ends]

private theorem closing_solid (bracket : Bracket) : bracket.closing ∉ blanks := by
  cases bracket <;> decide

private theorem skips_close : Skips .afterValue (bracket :: outer) [bracket.closing] rest .afterValue outer := by
  refine ⟨1, by simp, ?_⟩
  intro fuel
  simp [skipFrom, skipBlank_solid (closing_solid bracket)]

private theorem skips_comma : Skips .afterValue (bracket :: outer) [','] rest (labelStage bracket)
    (bracket :: outer) := by
  refine ⟨1, by simp, ?_⟩
  intro fuel
  have solid : skipBlank (',' :: rest) = ',' :: rest := skipBlank_solid (by decide)
  cases bracket <;> simp [skipFrom, solid, Bracket.closing, labelStage]

private theorem skipName_passed {name after : List Char} (passed : Passed name) (blank : Blank after) :
    skipName (name ++ (after ++ ':' :: rest)) = .ok rest := by
  rw [skipName, skipString_passed passed]
  simp [skipBlank_gap blank (show ':' ∉ blanks by decide), bind, Except.bind, pure, Except.pure]

private theorem skips_name {name after : List Char} (passed : Passed name) (blank : Blank after) :
    Skips .name inner ('"' :: name ++ after ++ [':']) rest .value inner := by
  refine ⟨1, by simp only [List.length_append, List.length_cons]; omega, ?_⟩
  intro fuel
  have solid : skipBlank ('"' :: (name ++ (after ++ ':' :: rest))) = '"' :: (name ++ (after ++ ':' :: rest)) :=
    skipBlank_solid (by decide)
  simp [skipFrom, solid, skipName_passed passed blank]

private theorem skips_label {label : List Char} (labelled : Label bracket label) :
    Skips (labelStage bracket) (bracket :: outer) label rest .value (bracket :: outer) := by
  cases labelled with
  | position blank => exact skips_gap blank
  | @name before name after gap first passed second third =>
    have behind : Skips .value (.object :: outer) gap rest .value (.object :: outer) := skips_gap third
    have named := (skips_gap first).trans ((skips_name passed second).trans behind)
    simpa only [labelStage, List.append_assoc, List.cons_append, List.nil_append] using named

private theorem value_start (value : Written .value chars) : ∃ first behind, chars = first :: behind ∧
    first ∉ blanks ∧ first ∉ [']', '\x7d'] := by
  cases value with
  | scalar scalar =>
    obtain ⟨first, behind, rfl, other, _⟩ := scalar_start scalar
    simp only [structural, List.mem_append, not_or] at other
    obtain ⟨solid, unbracketed⟩ := other
    have enclosing : [']', '\x7d'] ⊆ ['[', ']', '\x7b', '\x7d'] := by decide
    exact ⟨first, behind, rfl, solid, fun closes => unbracketed (enclosing closes)⟩
  | @empty bracket gap blank => exact ⟨_, _, rfl, by cases bracket <;> decide, by cases bracket <;> decide⟩
  | @filled bracket chars inside => exact ⟨_, _, rfl, by cases bracket <;> decide, by cases bracket <;> decide⟩

private theorem label_start {label : List Char} (labelled : Label bracket label) (value : Written .value chars)
    (rest : List Char) : ∃ first behind, skipBlank (label ++ chars ++ rest) = first :: behind ∧
      first ≠ bracket.closing := by
  cases labelled with
  | position blank =>
    obtain ⟨first, behind, rfl, solid, unclosed⟩ := value_start value
    refine ⟨first, behind ++ rest, ?_, by simp_all [Bracket.closing]⟩
    rw [List.append_assoc, List.cons_append, skipBlank_gap blank solid]
  | name first passed second third =>
    have quote : '"' ∉ blanks := by decide
    simp only [List.append_assoc, List.cons_append, skipBlank_gap first quote]
    exact ⟨'"', _, rfl, by decide⟩

/-- Nothing that is written between brackets begins with the closing one. -/
private theorem inside_start (inside : Written (.inside bracket) chars) (rest : List Char) :
    ∃ first behind, skipBlank (chars ++ rest) = first :: behind ∧ first ≠ bracket.closing := by
  cases inside with
  | last labelled value blank => simpa using label_start labelled value _
  | more labelled value blank inside => simpa using label_start labelled value _

/-- One step for the bracket, and one to see that it is not closed at once. -/
private theorem skips_open (bracket : Bracket) {first : Char} {behind : List Char}
    (start : skipBlank rest = first :: behind) (goes : first ≠ bracket.closing) :
    Skips .value inner [opening bracket] rest (labelStage bracket) (bracket :: inner) := by
  refine ⟨2, by simp, ?_⟩
  intro fuel
  have solid : skipBlank (opening bracket :: rest) = opening bracket :: rest :=
    skipBlank_solid (by cases bracket <;> decide)
  obtain ⟨gap, blank, split⟩ := skipBlank_split rest
  have ahead : skipFrom fuel (labelStage bracket) (bracket :: inner) rest =
      skipFrom fuel (labelStage bracket) (bracket :: inner) (first :: behind) := by
    rw [split, skipFrom_gap blank (fun _ => List.cons_ne_nil bracket inner), start]
  rw [ahead]
  cases bracket with
  | list =>
    rw [opening] at solid
    simp [skipFrom, opening, labelStage, solid, start, goes]
  | object =>
    rw [opening] at solid
    simp [skipFrom, opening, labelStage, solid, start, goes]

/-- Behind a number there is white space, or what separates values. -/
theorem ends_gap (blank : Blank gap) {char : Char} (separates : char ∈ [',', ']', '\x7d']) (rest : List Char) :
    Ends (gap ++ char :: rest) := by
  have none : (blanks ++ [',', ']', '\x7d']).all
      (fun char => (digit? char).isNone && !(['.', 'e', 'E'].contains char)) = true := rfl
  have stops : ∀ char ∈ blanks ++ [',', ']', '\x7d'], digit? char = .none ∧ char ∉ ['.', 'e', 'E'] := by
    intro char inside
    simpa only [Bool.and_eq_true, Option.isNone_iff_eq_none, Bool.not_eq_true', List.contains_eq_mem,
      decide_eq_false_iff_not] using List.all_eq_true.mp none char inside
  intro first same
  cases gap with
  | nil =>
    obtain rfl : char = first := Option.some.inj same
    exact stops char (List.mem_append_right _ separates)
  | cons white gap =>
    obtain rfl : white = first := Option.some.inj same
    exact stops white (List.mem_append_left _ (blank white (List.mem_cons_self ..)))

/-- Reading passes over a value, and over what stands between brackets together with the closing one. -/
def Passes : Part → List Char → Prop
  | .value, chars => ∀ inner rest, Ends rest → Skips .value inner chars rest .afterValue inner
  | .inside bracket, chars => ∀ outer rest,
      Skips (labelStage bracket) (bracket :: outer) chars rest .afterValue outer

private theorem skips_empty (bracket : Bracket) (blank : Blank gap) :
    Skips .value inner (opening bracket :: gap ++ [bracket.closing]) rest .afterValue inner := by
  refine ⟨2, by simp only [List.length_append, List.length_cons]; omega, ?_⟩
  intro fuel
  have solid : skipBlank (opening bracket :: (gap ++ bracket.closing :: rest)) =
      opening bracket :: (gap ++ bracket.closing :: rest) := skipBlank_solid (by cases bracket <;> decide)
  have closes : skipBlank (gap ++ bracket.closing :: rest) = bracket.closing :: rest :=
    skipBlank_gap blank (closing_solid bracket)
  cases bracket with
  | list =>
    rw [opening] at solid
    simp [skipFrom, opening, solid, closes]
  | object =>
    rw [opening] at solid
    simp [skipFrom, opening, solid, closes]

private theorem passes_written {part : Part} (written : Written part chars) : Passes part chars := by
  induction written with
  | scalar scalar => exact fun _ _ ends => skips_scalar scalar ends
  | @empty bracket gap blank => exact fun _ _ _ => skips_empty bracket blank
  | @filled bracket chars inside ih =>
    intro inner rest _
    obtain ⟨first, behind, start, goes⟩ := inside_start inside rest
    exact (skips_open bracket start goes).trans (ih inner rest)
  | @last bracket label chars gap labelled value blank ih =>
    intro outer rest
    have ends : Ends (gap ++ bracket.closing :: rest) := ends_gap blank (by cases bracket <;> decide) rest
    have tail : Skips .afterValue (bracket :: outer) (gap ++ [bracket.closing]) rest .afterValue outer :=
      (skips_gap blank).trans skips_close
    have passed := (ih (bracket :: outer) (gap ++ [bracket.closing] ++ rest) (by simpa using ends)).trans tail
    simpa using (skips_label labelled).trans passed
  | @more bracket label chars gap behind labelled value blank inside ih ihInside =>
    intro outer rest
    have ends : Ends (gap ++ ',' :: (behind ++ rest)) := ends_gap blank (by decide) _
    have tail : Skips .afterValue (bracket :: outer) (gap ++ ([','] ++ behind)) rest .afterValue outer :=
      (skips_gap blank).trans (skips_comma.trans (ihInside outer rest))
    have passed := (ih (bracket :: outer) (gap ++ ([','] ++ behind) ++ rest) (by simpa using ends)).trans tail
    simpa using (skips_label labelled).trans passed

theorem skipValue_written (written : Written .value chars) (blank : Blank gap) (ends : Ends rest) :
    skipValue (gap ++ (chars ++ rest)) = .ok rest := by
  obtain ⟨steps, few, goes⟩ := passes_written written [] rest ends
  have enough : ∃ fuel, 2 * (gap ++ (chars ++ rest)).length + 2 = fuel + 1 + steps := by
    refine ⟨2 * (gap ++ (chars ++ rest)).length + 1 - steps, ?_⟩
    simp only [List.length_append]
    omega
  obtain ⟨fuel, same⟩ := enough
  rw [skipValue, same, skipFrom_gap blank (fun impossible => by cases impossible), goes]
  rfl

end Values

end SimResults.Proofs.JsonText
