import SimResults.Proofs.Outcomes
import SimResults.Session.Query
import SimResults.Tool.Scripted

/-! Work in a session, step by step. Every piece of work takes a journal to an outcome and a
journal; work that goes through has gone through in all its steps. -/

namespace SimResults.Proofs.SessionRuns
open Outcomes

variable {σ ρ α β : Type}

/-- What a piece of work comes to from a journal, and the journal that it leaves. -/
def outcome (work : Work σ ρ α) (before : Journal σ ρ) : Except Failure α × Journal σ ρ :=
  (work.run.run before).run

/-- The work goes through from one journal to another. -/
def Gives (work : Work σ ρ α) (before : Journal σ ρ) (value : α) (after : Journal σ ρ) : Prop :=
  outcome work before = (.ok value, after)

variable {before after : Journal σ ρ} {value : α}

theorem gives_of_outcome {work : Work σ ρ α} (came : (outcome work before).1 = .ok value) :
    Gives work before value (outcome work before).2 := by
  rw [Gives, ← came]

theorem outcome_bind (first : Work σ ρ α) (next : α → Work σ ρ β) (before : Journal σ ρ) :
    outcome (first >>= next) before =
      match outcome first before with
      | (.ok value, middle) => outcome (next value) middle
      | (.error failure, middle) => (.error failure, middle) := by
  simp only [outcome, ExceptT.run_bind, StateT.run_bind, Id.run_bind]
  rcases (first.run.run before).run with ⟨_ | value, middle⟩ <;> rfl

theorem gives_bind {first : Work σ ρ α} {next : α → Work σ ρ β} {result : β} :
    Gives (first >>= next) before result after ↔
      ∃ value middle, Gives first before value middle ∧ Gives (next value) middle result after := by
  rw [Gives, outcome_bind]
  cases came : outcome first before with
  | mk answer middle =>
    cases answer with
    | error failure => simp [Gives, came]
    | ok value =>
      simp only [Gives, came, Prod.mk.injEq, Except.ok.injEq]
      constructor
      · exact fun rest => ⟨value, middle, ⟨rfl, rfl⟩, rest⟩
      · intro given
        obtain ⟨_, _, ⟨rfl, rfl⟩, rest⟩ := given
        exact rest

theorem gives_pure {result : α} :
    Gives (pure value : Work σ ρ α) before result after ↔ value = result ∧ before = after := by
  simp [Gives, outcome]

theorem outcome_lift (step : Except Failure α) (before : Journal σ ρ) :
    outcome (liftM step : Work σ ρ α) before = (step, before) := by
  cases step <;> rfl

theorem gives_lift {step : Except Failure α} :
    Gives (liftM step : Work σ ρ α) before value after ↔ step = .ok value ∧ before = after := by
  rw [Gives, outcome_lift, Prod.mk.injEq]

def noted (session : Session σ ρ) (context : Context) (event : Event) (journal : Journal σ ρ) :
    Journal σ ρ :=
  { journal with
    reports := journal.reports ++ session.observer.elim [] (·.notify context event) }

private theorem gives_report {session : Session σ ρ} {context : Context} {event : Event} {value : Unit} :
    Gives (liftM (session.report context event) : Work σ ρ Unit) before value after ↔
      after = noted session context event before := by
  constructor
  · intro given
    cases given
    rfl
  · rintro rfl
    rfl

/-- Work under observation comes to the same answer; how it went is reported behind its own reports. -/
theorem outcome_observe (session : Session σ ρ) (context : Context) (work : Work σ ρ Table)
    (before : Journal σ ρ) :
    outcome (session.observe context work) before =
      match outcome work before with
      | (.ok table, middle) =>
        (.ok table, noted session context (.success ⟨table.rows.length, table.fields.length⟩) middle)
      | (.error failure, middle) =>
        let failed := noted session context (.failure failure.severity failure) middle
        (.error failure,
          if failure.severity.reaches session.alertThreshold then
            noted session context (.alert failure.severity failure) failed
          else failed) := by
  simp only [outcome, Session.observe, ExceptT.run_mk, StateT.run_bind, Id.run_bind]
  rcases (work.run.run before).run with ⟨failure | table, middle⟩
  · by_cases alert : failure.severity.reaches session.alertThreshold
    · simp [alert, Session.report, noted]
    · simp [alert, Session.report, noted]
  · rfl

theorem gives_observe {session : Session σ ρ} {context : Context} {work : Work σ ρ Table}
    {table : Table} :
    Gives (session.observe context work) before table after ↔
      ∃ middle, Gives work before table middle ∧
        after = noted session context (.success ⟨table.rows.length, table.fields.length⟩) middle := by
  rw [Gives, outcome_observe]
  cases came : outcome work before with
  | mk answer middle =>
    cases answer with
    | error failure => simp [Gives, came]
    | ok found =>
      simp only [Gives, came, Prod.mk.injEq, Except.ok.injEq]
      constructor
      · intro given
        obtain ⟨rfl, rfl⟩ := given
        exact ⟨middle, ⟨rfl, rfl⟩, rfl⟩
      · intro given
        obtain ⟨_, ⟨rfl, rfl⟩, rfl⟩ := given
        exact ⟨rfl, rfl⟩

/-- A run of the tool that starts in one state, ends with exit code 0 and leaves another state. -/
def Answers (tool : Tool σ) (arguments : List String) (state : σ) (stdout : Text.Bytes)
    (next : σ) : Prop :=
  ∃ output, ((tool arguments).run state).run = (.ok output, next) ∧ output.exitCode = some 0 ∧
    output.stdout = stdout

theorem intoStdout_eq_ok {output : Output} {stdout : Text.Bytes} :
    output.intoStdout = .ok stdout ↔ output.exitCode = some 0 ∧ output.stdout = stdout := by
  rw [Output.intoStdout]
  by_cases successful : output.exitCode = some 0
  · simp [successful]
  · simp [successful]

theorem outcome_runTool (tool : Tool σ) (arguments : List String) (before : Journal σ ρ) :
    outcome (runTool tool arguments) before =
      (((tool arguments).run before.tool).run.1 >>= Output.intoStdout,
        { before with
          tool := ((tool arguments).run before.tool).run.2, runs := before.runs ++ [arguments] }) := by
  have step : outcome (runTool tool arguments) before =
      outcome (do
        let output ← (liftM ((tool arguments).run before.tool).run.1 : Work σ ρ Output)
        liftM output.intoStdout)
        { before with
          tool := ((tool arguments).run before.tool).run.2, runs := before.runs ++ [arguments] } := rfl
  rw [step]
  rcases ((tool arguments).run before.tool).run with ⟨failure | output, next⟩
  · rfl
  · cases output.intoStdout <;> rfl

private theorem gives_runTool {tool : Tool σ} {arguments : List String} {stdout : Text.Bytes} :
    Gives (runTool tool arguments) before stdout after ↔
      ∃ next, Answers tool arguments before.tool stdout next ∧
        after = { before with tool := next, runs := before.runs ++ [arguments] } := by
  rw [Gives, outcome_runTool]
  simp only [Answers, ← intoStdout_eq_ok]
  rcases ((tool arguments).run before.tool).run with ⟨failure | output, next⟩
  · simp [bind, Except.bind]
  · simp only [Prod.mk.injEq, Except.ok.injEq]
    change (output.intoStdout = _ ∧ _) ↔ _
    constructor
    · intro given
      obtain ⟨successful, rfl⟩ := given
      exact ⟨next, ⟨output, ⟨rfl, rfl⟩, successful⟩, rfl⟩
    · intro given
      obtain ⟨_, ⟨_, ⟨rfl, rfl⟩, successful⟩, rfl⟩ := given
      exact ⟨successful, rfl⟩

section Queries

variable {session : Session σ ρ}

/-- The arguments with which a session runs its tool. -/
structure Accepts (session : Session σ ρ) (filter : Option String) : Prop where
  filter : filter ≠ some ""
  inputs : session.config.requireMatchingInputs = true →
    session.config.inputs.checkAllMatch session.files = .ok ()

theorem check_eq_ok {filter : Option String} :
    session.check filter = .ok () ↔ Accepts session filter := by
  rw [Session.check, bind_eq_ok, checkFilter]
  constructor
  · intro given
    obtain ⟨_, filtered, inputs⟩ := given
    refine ⟨?_, ?_⟩
    · rintro rfl
      cases filtered
    · intro required
      rw [if_pos required, mapError_eq_ok] at inputs
      exact inputs
  · intro given
    obtain ⟨filtered, inputs⟩ := given
    refine ⟨(), by simp [filtered], ?_⟩
    split
    next required => exact mapError_eq_ok.mpr (inputs required)
    next => rfl

/-- Inputs that suffice for one query suffice for the metadata of all runs. -/
theorem Accepts.auxiliary {filter : Option String} (accepted : Accepts session filter) :
    Accepts session (some "*") := ⟨by decide, accepted.inputs⟩

def exportArguments (session : Session σ ρ) (kind : Option Kind) (filter : Option String)
    (extras : ExportExtras) : List String :=
  Arguments.ofExport session.config.inputs.toList session.config.allowNonmatching
    (kind.bind Kind.exportLetter?) filter extras

def queryArguments (session : Session σ ρ) (query : MetadataQuery) (filter : String) : List String :=
  Arguments.ofQuery session.config.inputs.toList session.config.allowNonmatching filter query

def Exports (session : Session σ ρ) (kind : Option Kind) (filter : Option String)
    (extras : ExportExtras) (state : σ) (table : Table) (next : σ) : Prop :=
  ∃ stdout, Answers session.tool (exportArguments session kind filter extras) state stdout next ∧
    Export.read stdout = .ok table

def Lists (session : Session σ ρ) (query : MetadataQuery) (filter : String) (state : σ)
    (table : Table) (next : σ) : Prop :=
  ∃ stdout, Answers session.tool (queryArguments session query filter) state stdout next ∧
    Metadata.read query.layout stdout = .ok table

theorem gives_exportTable {kind : Option Kind} {filter : Option String} {extras : ExportExtras}
    {table : Table} :
    Gives (session.exportTable kind filter extras) before table after ↔
      Accepts session filter ∧ ∃ next,
        Exports session kind filter extras before.tool table next ∧
        after = { before with
          tool := next, runs := before.runs ++ [exportArguments session kind filter extras] } := by
  rw [Session.exportTable, gives_bind, ← check_eq_ok]
  simp only [gives_bind, gives_lift, gives_runTool]
  constructor
  · intro given
    obtain ⟨_, _, ⟨checked, rfl⟩, stdout, _, ⟨next, answered, rfl⟩, read, rfl⟩ := given
    exact ⟨checked, next, ⟨stdout, answered, read⟩, rfl⟩
  · intro given
    obtain ⟨checked, next, ⟨stdout, answered, read⟩, rfl⟩ := given
    exact ⟨(), before, ⟨checked, rfl⟩, stdout, _, ⟨next, answered, rfl⟩, read, rfl⟩

/-- The journal after a run for metadata, where only an empty table is worth a report. -/
def listed (session : Session σ ρ) (name : String) (query : MetadataQuery) (filter : String)
    (table : Table) (next : σ) (before : Journal σ ρ) : Journal σ ρ :=
  let ran := { before with tool := next, runs := before.runs ++ [queryArguments session query filter] }
  if table.isEmpty then noted session ⟨name, some filter⟩ (.emptyResult emptyResultHint) ran else ran

theorem gives_metadataTable {name : String} {query : MetadataQuery} {filter : String}
    {table : Table} :
    Gives (session.metadataTable name query filter) before table after ↔
      Accepts session (some filter) ∧ ∃ next,
        Lists session query filter before.tool table next ∧
        after = listed session name query filter table next before := by
  rw [Session.metadataTable, gives_bind, ← check_eq_ok]
  simp only [gives_bind, gives_lift, gives_runTool]
  constructor
  · intro given
    obtain ⟨_, _, ⟨checked, rfl⟩, stdout, _, ⟨next, answered, rfl⟩, found, _, ⟨read, rfl⟩, rest⟩ := given
    refine ⟨checked, next, ?_⟩
    split at rest
    next empty =>
      obtain ⟨_, _, reported, finished⟩ := gives_bind.mp rest
      rw [gives_report] at reported
      obtain ⟨rfl, rfl⟩ := gives_pure.mp finished
      exact ⟨⟨stdout, answered, read⟩, by rw [reported, listed, if_pos empty]; rfl⟩
    next filled =>
      obtain ⟨rfl, rfl⟩ := gives_pure.mp rest
      exact ⟨⟨stdout, answered, read⟩, by rw [listed, if_neg filled]; rfl⟩
  · intro given
    obtain ⟨checked, next, ⟨stdout, answered, read⟩, rfl⟩ := given
    refine ⟨(), before, ⟨checked, rfl⟩, stdout, _, ⟨next, answered, rfl⟩, table, _, ⟨read, rfl⟩, ?_⟩
    split
    next empty =>
      rw [gives_bind]
      exact ⟨(), _, gives_report.mpr rfl, gives_pure.mpr ⟨rfl, by rw [listed, if_pos empty]; rfl⟩⟩
    next filled => exact gives_pure.mpr ⟨rfl, by rw [listed, if_neg filled]; rfl⟩

theorem listed_tool (name : String) (query : MetadataQuery) (filter : String) (table : Table)
    (next : σ) (before : Journal σ ρ) : (listed session name query filter table next before).tool = next := by
  rw [listed]
  split <;> rfl

end Queries

/-- The start of a session whose tool has one answer for all exports and one for all queries. -/
def scripted (exportText metadataText : String) : Journal (List Rule) Unit where
  tool := [⟨["x"], .ok { stdout := Text.encode exportText }, false⟩,
    ⟨["q"], .ok { stdout := Text.encode metadataText }, false⟩]

def scriptedSession : Session (List Rule) Unit := { tool := Tool.scripted }

end SimResults.Proofs.SessionRuns
