/-! Patterns for file names: `?` stands for one character, `*` for any text, brackets for one
character of a set or outside it, and `**` for directories at any depth. There is no escape
character; a bracket makes its neighbour literal. -/

namespace SimResults.Pattern

/-- Characters between brackets: single ones, and ranges written with a hyphen. -/
inductive Member
  | one (char : Char)
  | range (low high : Char)
deriving DecidableEq, Repr

def Member.accepts (char : Char) : Member → Bool
  | .one expected => char == expected
  | .range low high => low ≤ char && char ≤ high

inductive Token
  | literal (char : Char)
  | anyChar
  | anyText
  | anyDepth
  | within (members : List Member)
  | outside (members : List Member)
deriving DecidableEq, Repr

inductive WildcardCause
  | tooManyStars
  | depthNotAlone
  | unclosedSet
deriving DecidableEq, Repr

/-- Why a text is no pattern, and at which character. -/
structure WildcardFault where
  position : Nat
  cause : WildcardCause
deriving DecidableEq, Repr

def WildcardFault.message (fault : WildcardFault) : String :=
  let cause := match fault.cause with
    | .tooManyStars => "wildcards are either regular `*` or recursive `**`"
    | .depthNotAlone => "recursive wildcards must form a single path component"
    | .unclosedSet => "invalid range pattern"
  s!"Pattern syntax error near position {fault.position}: {cause}"

/-- A hyphen between two characters makes a range; any other hyphen is a character. -/
def members : List Char → List Member
  | low :: '-' :: high :: rest => .range low high :: members rest
  | char :: rest => .one char :: members rest
  | [] => []

/-- A set after its opening bracket, and what follows it. The first character belongs to the
set even if it is a closing bracket. -/
def closedSet? : List Char → Option (List Char × List Char)
  | [] => none
  | first :: rest =>
    match rest.dropWhile (· != ']') with
    | [] => none
    | _ :: after => some (first :: rest.takeWhile (· != ']'), after)

def set? : List Char → Option (Token × List Char)
  | '!' :: rest => (closedSet? rest).map fun (chars, after) => (.outside (members chars), after)
  | rest => (closedSet? rest).map fun (chars, after) => (.within (members chars), after)

/-- Reads tokens from `position` on, after the character `before`, with no more steps than
`fuel`. Two stars must fill a path component, and take the separator after them along. -/
def tokensFrom : (fuel position : Nat) → (before : Option Char) → List Char → Except WildcardFault (List Token)
  | 0, _, _, _ | _ + 1, _, _, [] => .ok []
  | fuel + 1, position, before, char :: rest =>
    match char with
    | '?' => (tokensFrom fuel (position + 1) (some '?') rest).map (.anyChar :: ·)
    | '*' =>
      let more := rest.takeWhile (· == '*')
      let after := rest.drop more.length
      let next := position + 1 + more.length
      match more.length with
      | 0 => (tokensFrom fuel next (some '*') after).map (.anyText :: ·)
      | 1 =>
        if before != none && before != some '/' then .error ⟨position - 1, .depthNotAlone⟩
        else
          match after with
          | [] => .ok [.anyDepth]
          | '/' :: below => (tokensFrom fuel (next + 1) (some '/') below).map (.anyDepth :: ·)
          | _ => .error ⟨next, .depthNotAlone⟩
      | _ => .error ⟨position + 2, .tooManyStars⟩
    | '[' =>
      match set? rest with
      | none => .error ⟨position, .unclosedSet⟩
      | some (token, after) =>
        (tokensFrom fuel (position + 1 + (rest.length - after.length)) (some ']') after).map (token :: ·)
    | char => (tokensFrom fuel (position + 1) (some char) rest).map (.literal char :: ·)

def tokens (text : String) : Except WildcardFault (List Token) :=
  tokensFrom text.toList.length 0 none text.toList

/-- Whether a token accepts one character. -/
def Token.accepts (char : Char) : Token → Bool
  | .literal expected => char == expected
  | .anyChar => true
  | .within members => members.any (Member.accepts char)
  | .outside members => !members.any (Member.accepts char)
  | .anyText | .anyDepth => false

/-- Whether tokens match a whole name. -/
def accepts : List Token → List Char → Bool
  | [], name => name.isEmpty
  | .anyText :: rest, name | .anyDepth :: rest, name => go rest name
  | token :: rest, char :: name => token.accepts char && accepts rest name
  | _ :: _, [] => false
where
  go (rest : List Token) : List Char → Bool
    | [] => accepts rest []
    | char :: name => accepts rest (char :: name) || go rest name

end SimResults.Pattern
