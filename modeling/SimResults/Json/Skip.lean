import SimResults.Json.Number
import SimResults.Json.Quoted

/-! Values that nobody asked for. They are checked as text and passed over, however deep they
are nested. -/

namespace SimResults.Json

inductive Bracket
  | list
  | object
deriving DecidableEq, Repr

def Bracket.closing : Bracket → Char
  | .list => ']'
  | .object => '\x7d'

/-- What comes next inside the open brackets. -/
inductive Stage
  | value
  /-- After an opening bracket. -/
  | opened
  | name
  | afterValue
deriving DecidableEq, Repr

/-- A value that is not bracketed, given its first character. -/
def skipScalar (char : Char) (rest : List Char) : Except Fault (List Char) :=
  match char with
  | 'n' => readWord ['u', 'l', 'l'] rest
  | 't' => readWord ['r', 'u', 'e'] rest
  | 'f' => readWord ['a', 'l', 's', 'e'] rest
  | '-' => skipNumber rest
  | '"' => skipString .plain rest
  | _ => if (Number.digit? char).isSome then skipNumber (char :: rest) else .error .malformed

/-- The name of a member and the colon after it. -/
def skipName (chars : List Char) : Except Fault (List Char) := do
  match skipBlank (← skipString .plain chars) with
  | [] => throw .truncated
  | ':' :: rest => return rest
  | _ => throw .malformed

/-- Passes over what is left of a value inside the brackets `open_`, the innermost first. Each
character costs two steps at most. -/
def skipFrom : (fuel : Nat) → Stage → (open_ : List Bracket) → List Char → Except Fault (List Char)
  | 0, _, _, _ => .error .truncated
  | _, .afterValue, [], chars => .ok chars
  | fuel + 1, stage, open_, chars =>
    match stage, open_, skipBlank chars with
    | _, _, [] => .error .truncated
    | .value, _, '[' :: rest => skipFrom fuel .opened (.list :: open_) rest
    | .value, _, '\x7b' :: rest => skipFrom fuel .opened (.object :: open_) rest
    | .value, _, char :: rest =>
      match skipScalar char rest with
      | .ok rest => skipFrom fuel .afterValue open_ rest
      | .error fault => .error fault
    | .opened, bracket :: outer, char :: rest =>
      if char == bracket.closing then skipFrom fuel .afterValue outer rest
      else skipFrom fuel (if bracket == .list then .value else .name) open_ (char :: rest)
    | .name, _, char :: rest =>
      if char == '"' then
        match skipName rest with
        | .ok rest => skipFrom fuel .value open_ rest
        | .error fault => .error fault
      else .error .malformed
    | .afterValue, bracket :: outer, char :: rest =>
      if char == bracket.closing then skipFrom fuel .afterValue outer rest
      else if char == ',' then skipFrom fuel (if bracket == .list then .value else .name) open_ rest
      else .error .malformed
    | _, [], _ => .error .malformed

def skipValue (chars : List Char) : Except Fault (List Char) :=
  skipFrom (2 * chars.length + 2) .value [] chars

end SimResults.Json
