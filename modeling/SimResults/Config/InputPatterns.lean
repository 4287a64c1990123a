import SimResults.FirstSeen
import SimResults.Pattern.Search

/-! The ordered, duplicate-free list of patterns that say which files queries read. -/

namespace SimResults

structure InputPatterns where
  toList : List String := []
deriving DecidableEq, Repr, Inhabited

namespace InputPatterns

/-- A pattern already present keeps its position. -/
def insert (patterns : InputPatterns) (pattern : String) : InputPatterns :=
  ⟨appendNew patterns.toList pattern⟩

def add (patterns : InputPatterns) (more : List String) : InputPatterns := more.foldl insert patterns

def ofList (patterns : List String) : InputPatterns := add {} patterns

inductive MatchFault
  | invalid (pattern : String) (fault : Pattern.WildcardFault)
  | unmatched (pattern : String)
deriving DecidableEq, Repr

def MatchFault.message : MatchFault → String
  | .invalid pattern fault => s!"invalid input pattern '{pattern}': {fault.message}"
  | .unmatched pattern => s!"input pattern '{pattern}' matched no files"

/-- One pattern must be well formed and find something. -/
def checkPattern (files : FileTree) (pattern : String) : Except MatchFault Unit :=
  match Pattern.Wildcard.ofText pattern with
  | .error fault => .error (.invalid pattern fault)
  | .ok wildcard => if wildcard.matchesAny files then .ok () else .error (.unmatched pattern)

/-- Every pattern must find something; the first that does not is reported. -/
def checkAllMatch (patterns : InputPatterns) (files : FileTree) : Except MatchFault Unit :=
  patterns.toList.forM (checkPattern files)

end InputPatterns

end SimResults
