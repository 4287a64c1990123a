import Mathlib.Algebra.Group.Int.Defs
import SimResults.Proofs.ArrayWords

/-! Integer cells. A text is read as the whole number that it spells if 64 bits hold that number, however many
digits it has. Any other text but the empty one is refused, and what is written from a number is read as it. -/

namespace SimResults.Proofs.IntegerCells
open Text Number Outcomes ArrayWords

def AsciiDigits (chars : List Char) : Prop := ∀ char ∈ chars, char.isDigit = true

/-- At least one ASCII digit, and the number that the digits stand for in base ten. -/
structure Digits (chars : List Char) (number : Nat) : Prop where
  filled : chars ≠ []
  ascii : AsciiDigits chars
  value : Nat.ofDigitChars 10 chars 0 = number

/-- A whole number as it may be written: digits, with a sign before them or none. -/
inductive Denotes : List Char → Int → Prop
  | bare {digits : List Char} {number : Nat} (run : Digits digits number) : Denotes digits number
  | plus {digits : List Char} {number : Nat} (run : Digits digits number) : Denotes ('+' :: digits) number
  | minus {digits : List Char} {number : Nat} (run : Digits digits number) : Denotes ('-' :: digits) (-number)

/-- A text that is a number but for the white space around it. -/
def DenotedIn (text : String) (number : Int) : Prop :=
  ∃ before numeral after, text.toList = before ++ numeral ++ after ∧ AllBlank before ∧ AllBlank after ∧
    Denotes numeral number

def Fits (number : Int) : Prop := -2 ^ 63 ≤ number ∧ number ≤ 2 ^ 63 - 1

instance (number : Int) : Decidable (Fits number) := inferInstanceAs (Decidable (_ ∧ _))

section DigitRuns

variable {limit value number : Nat} {beyond : IntegerFault} {digits : List Char}

private theorem digit?_eq (char : Char) : digit? char = if char.isDigit then some
    (char.toNat - '0'.toNat) else none := by
  simp [digit?, Char.isDigit, Char.le_def]

/-- Digits make a number no smaller, so one that is beyond a limit stays there. -/
private theorem le_ofDigitChars (digits : List Char) (value : Nat) : value ≤ Nat.ofDigitChars 10 digits value := by
  rw [Nat.ofDigitChars_eq_ofDigitChars_zero]
  exact Nat.le_add_right_of_le (Nat.le_mul_of_pos_left value (Nat.pow_pos (by decide)))

private theorem readDigits_eq (ascii : AsciiDigits digits) (start : value ≤ limit) :
    readDigits limit beyond value digits =
      if Nat.ofDigitChars 10 digits value ≤ limit then .ok (Nat.ofDigitChars 10 digits value) else .error beyond := by
  induction digits generalizing value with
  | nil => rw [readDigits, Nat.ofDigitChars_nil, if_pos start]
  | cons char digits ih =>
    obtain ⟨digit, others⟩ := List.forall_mem_cons.mp ascii
    rw [readDigits, digit?_eq, if_pos digit, Nat.ofDigitChars_cons, Nat.mul_comm 10 value]
    by_cases inside : value * 10 + (char.toNat - '0'.toNat) ≤ limit
    · simp only [if_pos inside, ih others inside]
    · -- Reading stops here, and the digits that follow could not bring the number back.
      have outside := Nat.lt_of_not_le inside |>.trans_le (le_ofDigitChars digits _)
      simp only [if_neg inside, if_neg (Nat.not_le_of_lt outside)]

/-- A number is read to its last character, whatever limit it stays within. -/
private theorem readDigits_ascii (read : readDigits limit beyond value digits = .ok number) :
    AsciiDigits digits := by
  induction digits generalizing value with
  | nil => exact nofun
  | cons char digits ih =>
    rw [readDigits, digit?_eq] at read
    by_cases digit : char.isDigit
    · simp only [if_pos digit] at read
      split at read
      next => exact List.forall_mem_cons.mpr ⟨digit, ih read⟩
      next => cases read
    · simp only [if_neg digit] at read
      cases read

end DigitRuns

section Numbers

variable {digits chars : List Char} {number : Int} {limit : Nat} {beyond : IntegerFault} {written : Nat → Int}

/-- Both signs at once: `limit` is the greatest number whose value under the sign fits. -/
private theorem readDigits_run {magnitude : Nat} (run : Digits digits magnitude)
    (limits : ∀ number, number ≤ limit ↔ Fits (written number)) :
    (readDigits limit beyond 0 digits).map (fun value => Int64.ofInt (written value)) =
      if Fits (written magnitude) then .ok (Int64.ofInt (written magnitude)) else .error beyond := by
  rw [readDigits_eq run.ascii (Nat.zero_le limit), run.value]
  by_cases fits : Fits (written magnitude)
  · rw [if_pos fits, if_pos ((limits magnitude).mpr fits)]
    rfl
  · rw [if_neg fits, if_neg (mt (limits magnitude).mp fits)]
    rfl

private theorem fits_toInt (value : Int64) :
    Fits value.toInt := ⟨value.le_toInt, Int.le_sub_one_of_lt value.toInt_lt⟩

private theorem fits_above (number : Nat) : number ≤ greatest ↔ Fits number := by
  simp only [Fits, greatest]
  omega

/-- There is one more number below zero than above. -/
private theorem fits_below (number : Nat) : number ≤ greatest + 1 ↔ Fits (-number) := by
  simp only [Fits, greatest]
  omega

/-- What stands behind a sign, or at the start without one, is read up to the limit of the sign. -/
private theorem readInteger_plus (filled : digits ≠ []) : readInteger ('+' :: digits) =
    (readDigits greatest .tooLarge 0 digits).map fun magnitude : Nat => Int64.ofInt magnitude := by
  rw [readInteger]
  · cases readDigits greatest .tooLarge 0 digits <;> rfl
  · exact filled

private theorem readInteger_minus (filled : digits ≠ []) : readInteger ('-' :: digits) =
    (readDigits (greatest + 1) .tooSmall 0 digits).map fun magnitude : Nat => Int64.ofInt (-magnitude) := by
  rw [readInteger]
  · cases readDigits (greatest + 1) .tooSmall 0 digits <;> rfl
  · exact filled

private theorem readInteger_bare {first : Char} {rest : List Char} (positive : first ≠ '+')
    (negative : first ≠ '-') :
    readInteger (first :: rest) =
      (readDigits greatest .tooLarge 0 (first :: rest)).map fun magnitude : Nat => Int64.ofInt magnitude := by
  rw [readInteger]
  · cases readDigits greatest .tooLarge 0 (first :: rest) <;> rfl
  all_goals simp [positive, negative]

private theorem isDigit_ne {char sign : Char} (digit : char.isDigit = true) (other : sign.isDigit = false) :
    char ≠ sign := by
  rintro rfl
  cases digit.symm.trans other

/-- A spelled number is either held exactly or refused for its size; nothing wraps. -/
theorem readInteger_denoted (denoted : Denotes chars number) :
    readInteger chars =
      if Fits number then .ok (Int64.ofInt number) else .error (if number < 0 then .tooSmall else .tooLarge) := by
  cases denoted with
  | @bare digits magnitude run =>
    have positive : ¬ (magnitude : Int) < 0 := by omega
    obtain ⟨first, rest, rfl⟩ := List.exists_cons_of_ne_nil run.filled
    have digit := run.ascii first List.mem_cons_self
    rw [readInteger_bare (isDigit_ne digit rfl) (isDigit_ne digit rfl), readDigits_run run fits_above,
      if_neg positive]
  | @plus digits magnitude run =>
    have positive : ¬ (magnitude : Int) < 0 := by omega
    rw [readInteger_plus run.filled, readDigits_run run fits_above, if_neg positive]
  | @minus digits magnitude run =>
    rw [readInteger_minus run.filled, readDigits_run run fits_below]
    by_cases fits : Fits (-magnitude)
    · rw [if_pos fits, if_pos fits]
    · have negative : -(magnitude : Int) < 0 := by
        by_contra above
        exact fits (by simp only [Fits]; omega)
      rw [if_neg fits, if_neg fits, if_pos negative]

private theorem digits_of_read {value : Int64} {held : Nat → Int64} (filled : digits ≠ [])
    (read : (readDigits limit beyond 0 digits).map held = .ok value) : ∃ magnitude, Digits digits magnitude := by
  obtain ⟨magnitude, inside, _⟩ := map_eq_ok.mp read
  exact ⟨_, filled, readDigits_ascii inside, rfl⟩

private theorem denotes_of_read {value : Int64} (read : readInteger chars = .ok value) :
    ∃ number, Denotes chars number := by
  obtain _ | ⟨first, digits⟩ := chars
  · cases read
  by_cases signed : first = '+' ∨ first = '-'
  · by_cases filled : digits = []
    · obtain rfl | rfl := signed <;> subst filled <;> cases read
    obtain rfl | rfl := signed
    · rw [readInteger_plus filled] at read
      obtain ⟨_, run⟩ := digits_of_read filled read
      exact ⟨_, .plus run⟩
    · rw [readInteger_minus filled] at read
      obtain ⟨_, run⟩ := digits_of_read filled read
      exact ⟨_, .minus run⟩
  · obtain ⟨positive, negative⟩ := not_or.mp signed
    rw [readInteger_bare positive negative] at read
    obtain ⟨_, run⟩ := digits_of_read (List.cons_ne_nil first digits) read
    exact ⟨_, .bare run⟩

private theorem readInteger_eq_ok {value : Int64} : readInteger chars = .ok value ↔ Denotes chars value.toInt := by
  constructor
  · intro read
    obtain ⟨number, denoted⟩ := denotes_of_read read
    rw [readInteger_denoted denoted] at read
    split at read
    next fits =>
      cases read
      rwa [Int64.toInt_ofInt_of_le fits.1 (Int.lt_of_le_sub_one fits.2)]
    next => cases read
  · intro denoted
    rw [readInteger_denoted denoted, Int64.ofInt_toInt, if_pos (fits_toInt value)]

private theorem digits_repr (number : Nat) : Digits number.repr.toList number := by
  rw [Nat.toList_repr]
  refine ⟨Nat.toDigits_ne_nil, fun char => Nat.isDigit_of_mem_toDigits (by decide) (by decide), ?_⟩
  exact Nat.ofDigitChars_ten_toDigits

private theorem denotes_toString (number : Int) : Denotes (toString number).toList number := by
  rw [Int.toString_eq_repr, Int.repr_eq_if]
  split
  next positive =>
    have denoted := Denotes.bare (digits_repr number.toNat)
    rwa [Int.toNat_of_nonneg positive] at denoted
  next negative =>
    have denoted := Denotes.minus (digits_repr (-number).toNat)
    rw [Int.toNat_of_nonneg (by omega), Int.neg_neg] at denoted
    rwa [String.toList_append]

end Numbers

section Blanks

variable {before after numeral : List Char} {raw : String} {number : Int}

private theorem Denotes.filled (denoted : Denotes numeral number) : numeral ≠ [] := by
  cases denoted with
  | bare run => exact run.filled
  | plus _ => exact List.cons_ne_nil _ _
  | minus _ => exact List.cons_ne_nil _ _

private theorem isBlank_digit {char : Char} (digit : char.isDigit = true) : isBlank char = false := by
  simp only [Char.isDigit, Bool.and_eq_true, decide_eq_true_eq, ge_iff_le, UInt32.le_iff_toNat_le] at digit
  obtain ⟨least, most⟩ := digit
  change 48 ≤ char.toNat at least
  change char.toNat ≤ 57 at most
  simp [isBlank]
  omega

private theorem Denotes.solid (denoted : Denotes numeral number) : ∀ char ∈ numeral, isBlank char = false := by
  cases denoted with
  | bare run => exact fun char member => isBlank_digit (run.ascii char member)
  | plus run => exact List.forall_mem_cons.mpr ⟨rfl, fun char member => isBlank_digit (run.ascii char member)⟩
  | minus run => exact List.forall_mem_cons.mpr ⟨rfl, fun char member => isBlank_digit (run.ascii char member)⟩

private theorem trimmed_denoted (opens : AllBlank before) (closes : AllBlank after)
    (denoted : Denotes numeral number) :
    trimmed (before ++ numeral ++ after) = numeral := by
  have solid {char? : Option Char} (inside : ∀ char ∈ char?, char ∈ numeral) : char?.any isBlank = false := by
    cases char? with
    | none => rfl
    | some char => exact denoted.solid char (inside char rfl)
  apply strip_between (List.all_eq_true.mpr opens) (List.all_eq_true.mpr closes)
  · exact solid fun char first => List.mem_of_head? first
  · exact solid fun char last => List.mem_of_getLast? last

private theorem denotedIn_iff : DenotedIn raw number ↔ Denotes (trimmed raw.toList) number := by
  constructor
  · rintro ⟨before, numeral, after, whole, opens, closes, denoted⟩
    rwa [whole, trimmed_denoted opens closes denoted]
  · intro denoted
    obtain ⟨before, after, whole, opens, closes⟩ := strip_split isBlank raw.toList
    exact ⟨before, _, after, whole, List.all_eq_true.mp opens, List.all_eq_true.mp closes, denoted⟩

end Blanks

section Cells

variable {raw : String} {number : Int} {value : Int64}

private theorem DenotedIn.filled (denoted : DenotedIn raw number) : raw ≠ "" := by
  rintro rfl
  exact (denotedIn_iff.mp denoted).filled rfl

private theorem readInteger_filled (filled : raw ≠ "") :
    Cell.readInteger raw = ((readInteger (trimmed raw.toList)).mapError .integer).map .integer := by
  rw [Cell.readInteger, if_neg (mt String.isEmpty_iff.mp filled)]
  cases readInteger (trimmed raw.toList) <;> rfl

private theorem readInteger_denotedIn (denoted : DenotedIn raw number) :
    Cell.readInteger raw =
      if Fits number then .ok (.integer (Int64.ofInt number))
      else .error (.integer (if number < 0 then .tooSmall else .tooLarge)) := by
  rw [readInteger_filled denoted.filled, readInteger_denoted (denotedIn_iff.mp denoted)]
  by_cases fits : Fits number
  · rw [if_pos fits, if_pos fits]
    rfl
  · rw [if_neg fits, if_neg fits]
    rfl

private theorem readInteger_blank (filled : raw ≠ "") (blanks : AllBlank raw.toList) :
    Cell.readInteger raw = .error (.integer .empty) := by
  have nothing : trimmed (raw.toList ++ [] ++ []) = [] := strip_between (List.all_eq_true.mpr blanks) rfl rfl rfl
  rw [List.append_nil, List.append_nil] at nothing
  rw [readInteger_filled filled, nothing]
  rfl

private theorem readInteger_integer : Cell.readInteger raw = .ok (.integer value) ↔ DenotedIn raw value.toInt := by
  constructor
  · intro read
    have filled : raw ≠ "" := by
      rintro rfl
      cases read
    rw [readInteger_filled filled, map_eq_ok] at read
    obtain ⟨_, inside, same⟩ := read
    cases same
    exact denotedIn_iff.mpr (readInteger_eq_ok.mp (mapError_eq_ok.mp inside))
  · intro denoted
    rw [readInteger_denotedIn denoted, if_pos (fits_toInt value), Int64.ofInt_toInt]

private theorem readInteger_missing : Cell.readInteger raw = .ok (.number notANumber) ↔ raw = "" := by
  constructor
  · intro read
    by_contra filled
    rw [readInteger_filled filled, map_eq_ok] at read
    obtain ⟨_, _, impossible⟩ := read
    cases impossible
  · rintro rfl
    rfl

private theorem readInteger_refuses :
    (∃ fault, Cell.readInteger raw = .error fault) ↔ raw ≠ "" ∧ ¬ ∃ number, DenotedIn raw number ∧ Fits number := by
  constructor
  · rintro ⟨fault, refused⟩
    constructor
    · rintro rfl
      cases refused
    · rintro ⟨number, denoted, fits⟩
      rw [readInteger_denotedIn denoted, if_pos fits] at refused
      cases refused
  · rintro ⟨filled, undenoted⟩
    apply error_of_not_ok
    rintro ⟨cell, read⟩
    rw [readInteger_filled filled, map_eq_ok] at read
    obtain ⟨value, inside, _⟩ := read
    have denoted := denotedIn_iff.mpr (readInteger_eq_ok.mp (mapError_eq_ok.mp inside))
    exact undenoted ⟨value.toInt, denoted, fits_toInt value⟩

private theorem denotedIn_key {opening closing : String} (opens : AllBlank opening.toList)
    (closes : AllBlank closing.toList) :
    DenotedIn (opening ++ toString number ++ closing) number :=
  ⟨_, _, _, by rw [String.toList_append, String.toList_append], opens, closes, denotes_toString number⟩

end Cells

/-- Only the empty text is missing. A text gives a whole number exactly if it spells that number, blanks aside, and
64 bits hold it. Every other text is refused: a number beyond 64 bits for its size, and blanks alone as no number at
all. The text by which a number is grouped is read as that number again. -/
theorem readInteger_exact :
    (∀ raw, Cell.readInteger raw = .ok (.number notANumber) ↔ raw = "") ∧
    (∀ raw number, (∃ value : Int64, value.toInt = number ∧ Cell.readInteger raw = .ok (.integer value)) ↔
      DenotedIn raw number ∧ Fits number) ∧
    (∀ raw, (∃ fault, Cell.readInteger raw = .error fault) ↔
      raw ≠ "" ∧ ¬ ∃ number, DenotedIn raw number ∧ Fits number) ∧
    (∀ raw number, DenotedIn raw number → ¬ Fits number →
      Cell.readInteger raw = .error (.integer (if number < 0 then .tooSmall else .tooLarge))) ∧
    (∀ raw, raw ≠ "" → AllBlank raw.toList → Cell.readInteger raw = .error (.integer .empty)) ∧
    ∀ (value : Int64) (opening closing : String), AllBlank opening.toList → AllBlank closing.toList →
      ∃ text, (Cell.integer value).key? = some text ∧
        Cell.readInteger (opening ++ text ++ closing) = .ok (.integer value) := by
  refine ⟨fun _ => readInteger_missing, ?_, fun _ => readInteger_refuses, ?_, fun _ => readInteger_blank, ?_⟩
  · intro raw number
    constructor
    · rintro ⟨value, rfl, read⟩
      exact ⟨readInteger_integer.mp read, fits_toInt value⟩
    · rintro ⟨denoted, fits⟩
      have held := Int64.toInt_ofInt_of_le fits.1 (Int.lt_of_le_sub_one fits.2)
      refine ⟨Int64.ofInt number, held, ?_⟩
      rw [readInteger_denotedIn denoted, if_pos fits]
  · intro raw number denoted outside
    rw [readInteger_denotedIn denoted, if_neg outside]
  · intro value opening closing opens closes
    exact ⟨_, rfl, readInteger_integer.mpr (denotedIn_key opens closes)⟩

/-- The least number of 64 bits, with a digit more than it needs. -/
def leastPadded : String := wideGap ++ "-09223372036854775808" ++ wideGap

def onePastGreatest : String := "+9223372036854775808"

theorem readInteger_exact_limits :
    (DenotedIn leastPadded (-2 ^ 63) ∧ Fits (-2 ^ 63)) ∧ (DenotedIn onePastGreatest (2 ^ 63) ∧ ¬ Fits (2 ^ 63)) ∧
    (wideGap ≠ "" ∧ AllBlank wideGap.toList) ∧
    Cell.readInteger leastPadded = .ok (.integer Int64.minValue) ∧
    Cell.readInteger onePastGreatest = .error (.integer .tooLarge) ∧
    Cell.readInteger wideGap = .error (.integer .empty) ∧
    Cell.readInteger (wideGap ++ "-9223372036854775808" ++ wideGap) = .ok (.integer Int64.minValue) := by
  have blanks : AllBlank wideGap.toList := List.all_eq_true.mp (by decide +kernel)
  have apart : wideGap ≠ "" := by decide
  have least : DenotedIn leastPadded (-2 ^ 63) := by
    refine ⟨_, "-09223372036854775808".toList, _, rfl, blanks, blanks, ?_⟩
    exact .minus ⟨by decide, List.all_eq_true.mp (by decide +kernel), by decide +kernel⟩
  have past : DenotedIn onePastGreatest (2 ^ 63) := by
    refine ⟨[], onePastGreatest.toList, [], rfl, nofun, nofun, ?_⟩
    exact .plus ⟨by decide, List.all_eq_true.mp (by decide +kernel), by decide +kernel⟩
  have inside : Fits (-2 ^ 63) := by decide
  have outside : ¬ Fits (2 ^ 63) := by decide
  obtain ⟨_, reads, _, refuses, blank, again⟩ := readInteger_exact
  refine ⟨⟨least, inside⟩, ⟨past, outside⟩, ⟨apart, blanks⟩, ?_, refuses _ _ past outside, blank _ apart blanks, ?_⟩
  · obtain ⟨value, same, read⟩ := (reads leastPadded (-2 ^ 63)).mpr ⟨least, inside⟩
    have minimum : value = Int64.minValue := Int64.toInt_inj.mp same
    rwa [minimum] at read
  · obtain ⟨text, key, read⟩ := again Int64.minValue wideGap wideGap blanks blanks
    have written : (Cell.integer Int64.minValue).key? = some "-9223372036854775808" := by decide +kernel
    cases key.symm.trans written
    exact read

end SimResults.Proofs.IntegerCells
