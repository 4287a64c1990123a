import SimResults.File
import SimResults.Pattern.Wildcard

/-! Whether a pattern finds anything in a file tree. A pattern is matched one path component at
a time: components without wildcards are looked up, others are compared with the names in a
directory. -/

namespace SimResults.Pattern

/-- A path component of a pattern. -/
inductive Component
  /-- Any directory below, at any depth. -/
  | anyDepth
  | name (tokens : List Token)
deriving DecidableEq, Repr

/-- The name that a component without wildcards spells. -/
def literal? : List Token → Option (List Char)
  | [] => some []
  | .literal char :: rest => (literal? rest).map (char :: ·)
  | _ :: _ => none

def Component.ofText (text : String) : Except WildcardFault Component :=
  (tokens text).map fun found => if found == [.anyDepth] then .anyDepth else .name found

def Component.accepts (component : Component) (name : String) : Bool :=
  match component with
  | .anyDepth => true
  | .name tokens => Pattern.accepts tokens name.toList

/-- A pattern cut into components, and what its text says besides. -/
structure Wildcard where
  components : List Component
  fromRoot : Bool
  /-- A separator at the end admits directories only. -/
  onlyDirectories : Bool
deriving DecidableEq, Repr

/-- A separator at the end begins no further component. -/
def dropLastEmpty : List String → List String
  | [] => []
  | [part] => if part == "" then [] else [part]
  | part :: rest => part :: dropLastEmpty rest

/-- The whole text must be a pattern before its components are read. The empty text and the
bare root have one empty component. -/
def Wildcard.ofText (text : String) : Except WildcardFault Wildcard := do
  let _ ← tokens text
  let fromRoot := text.startsWith "/"
  let parts := if fromRoot then (pathParts text).drop 1 else pathParts text
  let parts := if parts == [""] then [""] else dropLastEmpty parts
  return { components := ← parts.mapM Component.ofText, fromRoot, onlyDirectories := text.endsWith "/" }

/-- A place reached by a search. `bare` marks the starting directory while the path to it is
still a single dot. -/
structure Reached where
  place : Location
  bare : Bool
deriving DecidableEq, Repr

/-- A component without wildcards. `.` and `..` lead from any directory. An empty one stays in
a directory, but it cannot be looked up from the bare starting directory. -/
def follow? (tree : FileTree) (from_ : Reached) (name : String) : Option Reached :=
  if from_.bare && name == "" then none
  else
    match tree.step from_.place name with
    | .error _ => none
    | .ok place => some { place, bare := from_.bare && name == "." }

/-- The dots that a component with wildcards finds if it starts with a dot itself. -/
def dotsFor (tokens : List Token) : List String :=
  if tokens.head? == some (.literal '.') then
    [".", ".."].filter fun dots => accepts tokens dots.toList
  else []

/-- Whether the components lead anywhere from a place. -/
def finds (tree : FileTree) (onlyDirectories : Bool) : List Component → Reached → Bool
  | [], reached => !onlyDirectories || tree.isDirectory reached.place
  | .name tokens :: rest, reached =>
    match literal? tokens with
    | some name =>
      (follow? tree reached (String.ofList name)).any (finds tree onlyDirectories rest)
    | none =>
      tree.isDirectory reached.place &&
        (((tree.children reached.place).any fun child =>
            accepts tokens child.toList &&
              finds tree onlyDirectories rest ⟨reached.place ++ [child], false⟩) ||
          (dotsFor tokens).any fun dots =>
            (follow? tree reached dots).any (finds tree onlyDirectories rest))
  | .anyDepth :: rest, reached =>
    tree.isDirectory reached.place && below rest (tree.descendants reached.place)
where
  /-- Directories at any depth end a pattern; otherwise the next component is compared with
  the name of every place below. -/
  below : List Component → List Location → Bool
    | [], places => places.any tree.isDirectory
    | .anyDepth :: rest, places => below rest places
    | .name tokens :: rest, places => places.any fun place =>
      accepts tokens (place.getLastD "").toList && finds tree onlyDirectories rest ⟨place, false⟩

def Wildcard.matchesAny (wildcard : Wildcard) (tree : FileTree) : Bool :=
  let start : Reached := if wildcard.fromRoot then ⟨[], false⟩ else ⟨tree.home, true⟩
  finds tree wildcard.onlyDirectories wildcard.components start

end SimResults.Pattern
