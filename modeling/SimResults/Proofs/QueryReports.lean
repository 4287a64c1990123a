import SimResults.Proofs.QueryPlans

/-! What observers are told of a query. The notices are the same for all who watch, in the same order,
and nobody who watches has an influence on the query. -/

namespace SimResults.Proofs.QueryReports
open SessionRuns QueryPlans

variable {σ ρ : Type}

def marked (mine : Bool) (observer : Observer ρ) : Observer (Bool × ρ) where
  onSuccess context shape := (observer.onSuccess context shape).map (mine, ·)
  onFailure context severity failure := (observer.onFailure context severity failure).map (mine, ·)
  onAlert context severity failure := (observer.onAlert context severity failure).map (mine, ·)
  onEmptyResult context hint := (observer.onEmptyResult context hint).map (mine, ·)

def between (earlier later : List (Observer ρ)) (observer : Observer ρ) : Observer (Bool × ρ) :=
  .composite (earlier.map (marked false) ++ marked true observer :: later.map (marked false))

def own (reports : List (Bool × ρ)) : List ρ := (reports.filter (·.1)).map (·.2)

variable {setup : Setup σ} {query : Query} {state : σ} {made : List Request}
  {answer : Except Failure Table}

end SimResults.Proofs.QueryReports
