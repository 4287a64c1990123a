/-! White space in cells. A cell is trimmed before a number is read from it, and an array cell
is cut into words, with the white space of Unicode; a whole stream is trimmed as bytes, with
the five ASCII blanks only. -/

namespace SimResults.Text

/-- The characters with the Unicode property White_Space. -/
def isBlank (char : Char) : Bool :=
  let code := char.toNat
  (0x9 ≤ code && code ≤ 0xd) || code == 0x20 || code == 0x85 || code == 0xa0 || code == 0x1680 ||
    (0x2000 ≤ code && code ≤ 0x200a) || code == 0x2028 || code == 0x2029 || code == 0x202f ||
    code == 0x205f || code == 0x3000

/-- Removes what `drop` accepts at both ends. -/
def strip {α : Type} (drop : α → Bool) (items : List α) : List α :=
  ((items.dropWhile drop).reverse.dropWhile drop).reverse

section Strip

variable {α : Type} {drop : α → Bool} {before middle after : List α}

private theorem dropWhile_kept (first : middle.head?.any drop = false) : middle.dropWhile drop = middle := by
  cases middle with
  | nil => rfl
  | cons item rest => exact List.dropWhile_cons_of_neg (by simpa using first)

theorem strip_between (front : before.all drop = true) (back : after.all drop = true)
    (first : middle.head?.any drop = false) (last : middle.getLast?.any drop = false) :
    strip drop (before ++ middle ++ after) = middle := by
  rw [List.all_eq_true] at front back
  rw [strip, List.append_assoc, List.dropWhile_append_of_pos front]
  by_cases empty : middle = []
  · have gone : after.dropWhile drop = [] := by
      rw [← List.append_nil after, List.dropWhile_append_of_pos back, List.dropWhile_nil]
    rw [empty, List.nil_append, gone]
    rfl
  · have kept : (middle ++ after).dropWhile drop = middle ++ after := by
      apply dropWhile_kept
      rwa [List.head?_append, Option.or_of_isSome (by simpa using empty)]
    rw [kept, List.reverse_append, List.dropWhile_append_of_pos (by simpa using back),
      dropWhile_kept (by rwa [List.head?_reverse]), List.reverse_reverse]

/-- Only what is to be dropped is lost, and only at the ends. -/
theorem strip_split (drop : α → Bool) (items : List α) :
    ∃ before after, items = before ++ strip drop items ++ after ∧
      before.all drop = true ∧ after.all drop = true := by
  have back (rest : List α) :
      (rest.reverse.dropWhile drop).reverse ++ (rest.reverse.takeWhile drop).reverse = rest := by
    rw [← List.reverse_append, List.takeWhile_append_dropWhile, List.reverse_reverse]
  refine ⟨items.takeWhile drop, ((items.dropWhile drop).reverse.takeWhile drop).reverse, ?_, List.all_takeWhile, ?_⟩
  · rw [strip, List.append_assoc, back, List.takeWhile_append_dropWhile]
  · rw [List.all_reverse]
    exact List.all_takeWhile

end Strip

def trimmed (chars : List Char) : List Char := strip isBlank chars

def trim (text : String) : String := String.ofList (trimmed text.toList)

/-- The words of a text whose first word starts with `word`, given in reverse. -/
def wordsFrom (word : List Char) : List Char → List (List Char)
  | [] => if word.isEmpty then [] else [word.reverse]
  | char :: rest =>
    if isBlank char then
      if word.isEmpty then wordsFrom [] rest else word.reverse :: wordsFrom [] rest
    else wordsFrom (char :: word) rest

/-- The maximal runs of characters that are not blank, in order. -/
def words (chars : List Char) : List (List Char) := wordsFrom [] chars

/-- Space, tab, line feed, form feed and carriage return. -/
def isBlankByte (byte : UInt8) : Bool :=
  byte == 0x20 || byte == 0x9 || byte == 0xa || byte == 0xc || byte == 0xd

def trimmedBytes (bytes : List UInt8) : List UInt8 := strip isBlankByte bytes

end SimResults.Text
