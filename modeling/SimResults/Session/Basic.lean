import SimResults.Config.Basic
import SimResults.Session.Observer
import SimResults.Tool.Arguments
import SimResults.Tool.Basic

/-! Sessions: a configuration, a tool to run and an observer to tell. What a session does is
written into a journal. -/

namespace SimResults

structure Session (σ ρ : Type) where
  config : Config := {}
  /-- The files that input patterns are checked against. -/
  files : FileTree := {}
  tool : Tool σ
  observer : Option (Observer ρ) := none
  /-- The severity from which on failures are alerts too. -/
  alertThreshold : Severity := .critical

/-- The state of the tool, and what happened so far, earliest first. -/
structure Journal (σ ρ : Type) where
  tool : σ
  /-- The arguments of every run of the tool. -/
  runs : List (List String) := []
  /-- What the observer had to say. -/
  reports : List ρ := []

/-- A piece of work that may fail and leaves its trace in the journal either way. -/
abbrev Work (σ ρ : Type) := ExceptT Failure (StateM (Journal σ ρ))

variable {σ ρ : Type}

/-- One run of a tool. -/
def runTool (tool : Tool σ) (arguments : List String) : Work σ ρ Text.Bytes := do
  let journal ← get
  let (answer, state) := (tool arguments).run journal.tool
  set { journal with tool := state, runs := journal.runs ++ [arguments] }
  let output ← answer
  output.intoStdout

namespace Session

def setInputs (session : Session σ ρ) (patterns : List String) : Session σ ρ :=
  { session with config.inputs := .ofList patterns }

def addInputs (session : Session σ ρ) (patterns : List String) : Session σ ρ :=
  { session with config.inputs := session.config.inputs.add patterns }

def addInput (session : Session σ ρ) (pattern : String) : Session σ ρ :=
  { session with config.inputs := session.config.inputs.insert pattern }

/-- The session as diagnosis shows it. -/
def describe (session : Session σ ρ) : String :=
  "ResultSession \x7b config: " ++ session.config.describe ++
    s!", observer_set: {session.observer.isSome}" ++
    s!", alert_at_or_above: {session.alertThreshold.describe}" ++ " \x7d"

def report (session : Session σ ρ) (context : Context) (event : Event) :
    StateM (Journal σ ρ) Unit :=
  modify fun journal =>
    { journal with
      reports := journal.reports ++ session.observer.elim [] (·.notify context event) }

/-- Does the work of a query and reports how it went. A failure that is severe enough is
reported a second time, as an alert. -/
def observe (session : Session σ ρ) (context : Context) (work : Work σ ρ Table) : Work σ ρ Table :=
  ExceptT.mk do
    let result ← work.run
    match result with
    | .ok table => session.report context (.success ⟨table.rows.length, table.fields.length⟩)
    | .error failure =>
      session.report context (.failure failure.severity failure)
      if failure.severity.reaches session.alertThreshold then
        session.report context (.alert failure.severity failure)
    return result

/-- What is checked before the tool runs: the filter, and if so configured that every input
pattern finds a file. -/
def check (session : Session σ ρ) (filter : Option String) : Except Failure Unit := do
  checkFilter filter
  if session.config.requireMatchingInputs then
    (session.config.inputs.checkAllMatch session.files).mapError fun fault =>
      .invalidArgument (.inputs fault)

end Session

end SimResults
