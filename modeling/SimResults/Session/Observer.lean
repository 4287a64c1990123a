import SimResults.Failure

/-! Observers of queries. An observer is told what happened and answers with what it has to say
about it; nothing that it says comes back to the query. -/

namespace SimResults

/-- The query that something happened to. -/
structure Context where
  query : String
  filter : Option String
deriving DecidableEq, Repr

structure Shape where
  rows : Nat
  columns : Nat
deriving DecidableEq, Repr

inductive Event
  | success (shape : Shape)
  | failure (severity : Severity) (failure : Failure)
  | alert (severity : Severity) (failure : Failure)
  /-- A metadata query found nothing, which is no failure. -/
  | emptyResult (hint : String)
deriving DecidableEq, Repr

def emptyResultHint : String :=
  "scavetool returned an empty result; consider adding a project name to directory mapping, " ++
    "for example: -p /aloha=../aloha"

/-- How something reacts to events. An alert is one more failure unless it is handled apart. -/
structure Observer (ρ : Type) where
  onSuccess : Context → Shape → List ρ := fun _ _ => []
  onFailure : Context → Severity → Failure → List ρ := fun _ _ _ => []
  onAlert : Context → Severity → Failure → List ρ := onFailure
  onEmptyResult : Context → String → List ρ := fun _ _ => []

namespace Observer

variable {ρ : Type}

def notify (observer : Observer ρ) (context : Context) : Event → List ρ
  | .success shape => observer.onSuccess context shape
  | .failure severity failure => observer.onFailure context severity failure
  | .alert severity failure => observer.onAlert context severity failure
  | .emptyResult hint => observer.onEmptyResult context hint

/-- Ignores all events. -/
def silent : Observer ρ := {}

/-- Tells several observers, one after the other. -/
def composite (observers : List (Observer ρ)) : Observer ρ where
  onSuccess context shape := observers.flatMap (·.onSuccess context shape)
  onFailure context severity failure := observers.flatMap (·.onFailure context severity failure)
  onAlert context severity failure := observers.flatMap (·.onAlert context severity failure)
  onEmptyResult context hint := observers.flatMap (·.onEmptyResult context hint)

/-- A composite as diagnosis shows it. -/
def describeComposite (observers : List (Observer ρ)) : String :=
  "CompositeObserver \x7b observers_len: " ++ toString observers.length ++ " \x7d"

end Observer

/-- An event as one of several observers saw it. -/
structure Sighting where
  observer : Nat
  context : Context
  event : Event
deriving DecidableEq, Repr

namespace Observer

/-- Notes failures, and alerts as further failures. -/
def forwarding (number : Nat) : Observer Sighting where
  onFailure context severity failure := [⟨number, context, .failure severity failure⟩]

/-- Notes all events. -/
def recording (number : Nat) : Observer Sighting where
  onSuccess context shape := [⟨number, context, .success shape⟩]
  onFailure context severity failure := [⟨number, context, .failure severity failure⟩]
  onAlert context severity failure := [⟨number, context, .alert severity failure⟩]
  onEmptyResult context hint := [⟨number, context, .emptyResult hint⟩]

end Observer

end SimResults
