import SimResults.Proofs.CommandLines
import SimResults.Proofs.QueryAcceptance

/-! The runs of the tool that a query makes. Every query has a plan, which depends on nothing that
the tool answers. Its runs follow the plan in order, up to the first that fails. -/

namespace SimResults.Proofs.QueryPlans
open Outcomes TableColumns ParsedExports SessionRuns MetadataMerging ResultTables QueryAcceptance CommandLines

variable {σ ρ α β : Type}

section Requests

structure Notice where
  context : Context
  event : Event

/-- One run of the tool: how it is asked, how its output is read, and under which context it is
reported that the output lists nothing. -/
structure Request where
  arguments : List String
  read : Text.Bytes → Except Failure Table
  context? : Option Context := none

/-- What comes of a request in some state of the tool, and the state that it leaves. -/
def Request.answer (tool : Tool σ) (request : Request) (state : σ) : Except Failure Table × σ :=
  let ran := ((tool request.arguments).run state).run
  (ran.1 >>= Output.intoStdout >>= request.read, ran.2)

def Request.notices (request : Request) : Except Failure Table → List Notice
  | .ok table =>
    if table.isEmpty then request.context?.toList.map (⟨·, .emptyResult emptyResultHint⟩) else []
  | .error _ => []

/-- A run that could not be made, that did not end with exit code 0, or whose output cannot be read. -/
inductive Fails (tool : Tool σ) (request : Request) (state : σ) : Prop
  | unmade {failure : Failure} (broken : ((tool request.arguments).run state).run.1 = .error failure)
  | unsuccessful {output : Output} (made : ((tool request.arguments).run state).run.1 = .ok output)
      (nonzero : output.exitCode ≠ some 0)
  | unreadable {output : Output} (made : ((tool request.arguments).run state).run.1 = .ok output)
      (successful : output.exitCode = some 0) {failure : Failure}
      (unread : request.read output.stdout = .error failure)

private theorem fails_iff {tool : Tool σ} {request : Request} {state : σ} :
    Fails tool request state ↔ ∃ failure, (request.answer tool state).1 = .error failure := by
  rw [Request.answer]
  constructor
  · intro fails
    cases fails with
    | @unmade failure broken => exact ⟨failure, by rw [broken]; rfl⟩
    | @unsuccessful output made nonzero =>
      have refused : output.intoStdout = .error _ := if_neg (by simpa using nonzero)
      exact ⟨_, bind_eq_error.mpr (.inl (bind_eq_error.mpr (.inr ⟨output, made, refused⟩)))⟩
    | @unreadable output made successful failure unread =>
      have delivered := bind_eq_ok.mpr ⟨output, made, intoStdout_eq_ok.mpr ⟨successful, rfl⟩⟩
      exact ⟨failure, bind_eq_error.mpr (.inr ⟨_, delivered, unread⟩)⟩
  · intro ⟨failure, failed⟩
    rcases bind_eq_error.mp failed with undelivered | ⟨stdout, delivered, unread⟩
    · rcases bind_eq_error.mp undelivered with broken | ⟨output, made, refused⟩
      · exact .unmade broken
      · refine .unsuccessful made ?_
        intro successful
        cases refused.symm.trans (intoStdout_eq_ok.mpr ⟨successful, rfl⟩)
    · obtain ⟨output, made, rest⟩ := bind_eq_ok.mp delivered
      obtain ⟨successful, rfl⟩ := intoStdout_eq_ok.mp rest
      exact .unreadable made successful unread

private theorem answer_eq_ok {tool : Tool σ} {request : Request} {state : σ} {table : Table}
    (answered : (request.answer tool state).1 = .ok table) : ∃ stdout, request.read stdout = .ok table := by
  obtain ⟨stdout, _, read⟩ := bind_eq_ok.mp answered
  exact ⟨stdout, read⟩

private theorem not_fails {tool : Tool σ} {request : Request} {state : σ} {table : Table}
    (answered : (request.answer tool state).1 = .ok table) : ¬ Fails tool request state := by
  intro fails
  obtain ⟨failure, failed⟩ := fails_iff.mp fails
  cases answered.symm.trans failed

def stateAfter (tool : Tool σ) (requests : List Request) (state : σ) : σ :=
  requests.foldl (fun state request => (request.answer tool state).2) state

/-- The requests that are made of a plan: all, unless one fails, behind which none is made. -/
def attempted (tool : Tool σ) : List Request → σ → List Request
  | [], _ => []
  | request :: rest, state =>
    match request.answer tool state with
    | (.ok _, next) => request :: attempted tool rest next
    | (.error _, _) => [request]

section Attempts

variable {tool : Tool σ} {request : Request} {requests : List Request} {state : σ}

private theorem attempted_of_ok {table : Table} (answered : (request.answer tool state).1 = .ok table) :
    attempted tool (request :: requests) state =
      request :: attempted tool requests (request.answer tool state).2 := by
  rw [attempted]
  split
  next came => rw [came]
  next came => rw [came] at answered; cases answered

private theorem attempted_of_error {failure : Failure} (failed : (request.answer tool state).1 = .error failure) :
    attempted tool (request :: requests) state = [request] := by
  rw [attempted]
  split
  next came => rw [came] at failed; cases failed
  next => rfl

private theorem attempted_leads (tool : Tool σ) (requests : List Request) (state : σ) :
    attempted tool requests state <+: requests := by
  induction requests generalizing state with
  | nil => exact List.prefix_refl []
  | cons request rest ih =>
    cases answered : (request.answer tool state).1 with
    | ok table =>
      rw [attempted_of_ok answered, List.prefix_cons_inj]
      exact ih _
    | error failure =>
      rw [attempted_of_error answered, List.prefix_cons_inj]
      exact List.nil_prefix

/-- A plan that is not carried out to its end was given up at a run that failed. -/
private theorem attempted_short (short : attempted tool requests state ≠ requests) :
    ∃ earlier request, attempted tool requests state = earlier ++ [request] ∧
      Fails tool request (stateAfter tool earlier state) := by
  induction requests generalizing state with
  | nil => exact absurd rfl short
  | cons request rest ih =>
    cases answered : (request.answer tool state).1 with
    | ok table =>
      rw [attempted_of_ok answered] at short ⊢
      obtain ⟨earlier, last, same, fails⟩ := ih fun whole => short (by rw [whole])
      exact ⟨request :: earlier, last, by rw [same]; rfl, fails⟩
    | error failure =>
      rw [attempted_of_error answered]
      exact ⟨[], request, rfl, fails_iff.mpr ⟨failure, answered⟩⟩

private theorem attempted_stops {earlier later : List Request}
    (split : attempted tool requests state = earlier ++ request :: later)
    (fails : Fails tool request (stateAfter tool earlier state)) : later = [] := by
  induction requests generalizing state earlier with
  | nil => simp [attempted] at split
  | cons first rest ih =>
    cases answered : (first.answer tool state).1 with
    | ok table =>
      rw [attempted_of_ok answered] at split
      cases earlier with
      | nil =>
        obtain ⟨rfl, _⟩ := List.cons_eq_cons.mp split
        exact absurd fails (not_fails answered)
      | cons _ earlier =>
        obtain ⟨rfl, behind⟩ := List.cons_eq_cons.mp (split.trans (List.cons_append ..))
        exact ih behind fails
    | error failure =>
      rw [attempted_of_error answered] at split
      cases earlier with
      | nil => exact (List.cons_eq_cons.mp split).2.symm
      | cons _ earlier => simp at split

/-- Every run goes through, one after the other. -/
def Answered (tool : Tool σ) : List Request → σ → Prop
  | [], _ => True
  | request :: rest, state =>
    ¬ Fails tool request state ∧ Answered tool rest (request.answer tool state).2

private theorem answered_split {earlier later : List Request} :
    Answered tool (earlier ++ request :: later) state → ¬ Fails tool request (stateAfter tool earlier state) := by
  induction earlier generalizing state with
  | nil => exact fun answered => answered.1
  | cons first earlier ih => exact fun answered => ih answered.2

private theorem attempted_answered (answered : Answered tool requests state) :
    attempted tool requests state = requests := by
  by_contra short
  obtain ⟨earlier, last, gaveUp, fails⟩ := attempted_short short
  obtain ⟨later, whole⟩ := attempted_leads tool requests state
  rw [gaveUp, List.append_assoc] at whole
  exact answered_split (whole ▸ answered) fails

private theorem attempted_fails {answer : Except Failure α} {earlier later : List Request}
    (completes : (∃ value, answer = .ok value) → Answered tool requests state)
    (split : attempted tool requests state = earlier ++ request :: later)
    (fails : Fails tool request (stateAfter tool earlier state)) : ∃ failure, answer = .error failure := by
  apply error_of_not_ok
  intro went
  have answered := completes went
  have whole : requests = earlier ++ request :: later := (attempted_answered answered).symm.trans split
  exact answered_split (whole ▸ answered) fails

end Attempts

end Requests

section Journals

def hears (observer : Observer ρ) (notice : Notice) : List ρ := observer.notify notice.context notice.event

/-- Tells the observer, if there is one. -/
def told (session : Session σ ρ) (notices : List Notice) (journal : Journal σ ρ) : Journal σ ρ :=
  { journal with
    reports := journal.reports ++ notices.flatMap fun notice => session.observer.elim [] (hears · notice) }

def journalAfter (session : Session σ ρ) (journal : Journal σ ρ) (request : Request) : Journal σ ρ :=
  let answered := request.answer session.tool journal.tool
  told session (request.notices answered.1)
    { journal with tool := answered.2, runs := journal.runs ++ [request.arguments] }

def noticesOf (tool : Tool σ) : List Request → σ → List Notice
  | [], _ => []
  | request :: rest, state =>
    request.notices (request.answer tool state).1 ++ noticesOf tool rest (request.answer tool state).2

variable {session : Session σ ρ} {requests : List Request}

private theorem told_nil (journal : Journal σ ρ) : told session [] journal = journal := by
  simp [told]

private theorem noted_eq (context : Context) (event : Event) (journal : Journal σ ρ) :
    noted session context event journal = told session [⟨context, event⟩] journal := by
  simp [noted, told, hears]

private theorem told_told (first second : List Notice) (journal : Journal σ ρ) :
    told session second (told session first journal) = told session (first ++ second) journal := by
  simp [told]

private theorem foldl_journalAfter (requests : List Request) (journal : Journal σ ρ) :
    requests.foldl (journalAfter session) journal =
      told session (noticesOf session.tool requests journal.tool)
        { journal with
          tool := stateAfter session.tool requests journal.tool
          runs := journal.runs ++ requests.map (·.arguments) } := by
  induction requests generalizing journal with
  | nil => simp [noticesOf, told_nil, stateAfter]
  | cons request rest ih =>
    rw [List.foldl_cons, ih]
    simp [journalAfter, told, noticesOf, stateAfter]

def exporting (line : List String) : Request where
  arguments := line
  read := Export.read

def listing (config : Config) (name : String) (query : MetadataQuery) (filter : String) : Request where
  arguments := metadataLine config query filter
  read := Metadata.read query.layout
  context? := some ⟨name, some filter⟩

def auxiliary (config : Config) (query : MetadataQuery) : Request := listing config "auxiliary" query "*"

private theorem outcome_exportTable {kind : Option Kind} {filter : Option String} {extras : ExportExtras}
    {line : List String} (accepted : Accepts session filter)
    (written : Arguments.ofExport session.config.inputs.toList session.config.allowNonmatching
      (kind.bind Kind.exportLetter?) filter extras = line) (before : Journal σ ρ) :
    outcome (session.exportTable kind filter extras) before =
      (((exporting line).answer session.tool before.tool).1, journalAfter session before (exporting line)) := by
  subst written
  rw [Session.exportTable, outcome_bind, outcome_lift, check_eq_ok.mpr accepted]
  simp only [outcome_bind, outcome_runTool, outcome_lift, journalAfter, Request.answer, exporting]
  cases ((session.tool _).run before.tool).run.1 >>= Output.intoStdout with
  | error failure => simp [bind, Except.bind, Request.notices, told_nil]
  | ok stdout =>
    simp only [bind, Except.bind]
    cases Export.read stdout <;> simp [Request.notices, told_nil]

private theorem outcome_metadataTable {name : String} {query : MetadataQuery} {filter : String}
    (accepted : Accepts session (some filter)) (before : Journal σ ρ) :
    outcome (session.metadataTable name query filter) before =
      (((listing session.config name query filter).answer session.tool before.tool).1,
        journalAfter session before (listing session.config name query filter)) := by
  rw [Session.metadataTable, outcome_bind, outcome_lift, check_eq_ok.mpr accepted]
  simp only [outcome_bind, outcome_runTool, outcome_lift, journalAfter, Request.answer, listing, ofQuery_metadata]
  cases ((session.tool _).run before.tool).run.1 >>= Output.intoStdout with
  | error failure => simp [bind, Except.bind, Request.notices, told_nil]
  | ok stdout =>
    simp only [bind, Except.bind]
    cases Metadata.read query.layout stdout with
    | error failure => simp [Request.notices, told_nil]
    | ok table =>
      by_cases empty : table.isEmpty = true
      · simp only [Request.notices, empty, if_true, Option.toList_some, List.map_cons, List.map_nil, ← noted_eq]
        rfl
      · simp only [Request.notices, empty, if_false, told_nil, Bool.false_eq_true]
        rfl

end Journals

section Setups

/-- What a session works with, whoever watches it. -/
structure Setup (σ : Type) where
  config : Config
  files : FileTree
  tool : Tool σ

def Setup.session (setup : Setup σ) (observer : Option (Observer ρ)) (threshold : Severity) :
    Session σ ρ :=
  ⟨setup.config, setup.files, setup.tool, observer, threshold⟩

/-- The filter is empty, or an input pattern finds nothing although it has to. -/
def Setup.Refuses (setup : Setup σ) (filter : Option String) : Prop :=
  filter = some "" ∨ setup.config.requireMatchingInputs = true ∧
    setup.config.inputs.checkAllMatch setup.files ≠ .ok ()

/-- Whoever watches, the work makes these requests and comes to this answer. -/
def Comes (setup : Setup σ) (state : σ) (work : (ρ : Type) → Session σ ρ → Work σ ρ α)
    (made : List Request) (answer : Except Failure α) : Prop :=
  ∀ (ρ : Type) (observer : Option (Observer ρ)) (threshold : Severity) (before : Journal σ ρ),
    before.tool = state →
      outcome (work ρ (setup.session observer threshold)) before =
        (answer, made.foldl (journalAfter (setup.session observer threshold)) before)

variable {setup : Setup σ} {filter : Option String} {state : σ}

private theorem Comes.lift {step answer : Except Failure α} (came : step = answer) :
    Comes setup state (fun _ _ => liftM step) [] answer := by
  intro ρ observer threshold before _
  rw [outcome_lift, came]
  rfl

section Steps

variable {first : (ρ : Type) → Session σ ρ → Work σ ρ α}
  {next : α → (ρ : Type) → Session σ ρ → Work σ ρ β} {made more : List Request}

private theorem Comes.bind {value : α} {answer : Except Failure β} (goes : Comes setup state first made (.ok value))
    (rest : Comes setup (stateAfter setup.tool made state) (next value) more answer) :
    Comes setup state (fun ρ session => first ρ session >>= fun value => next value ρ session)
      (made ++ more) answer := by
  intro ρ observer threshold before start
  rw [outcome_bind, goes ρ observer threshold before start, List.foldl_append]
  apply rest
  rw [foldl_journalAfter, ← start]
  rfl

private theorem Comes.fail {failure : Failure} (fails : Comes setup state first made (.error failure)) :
    Comes setup state (fun ρ session => first ρ session >>= fun value => next value ρ session)
      made (.error failure) := by
  intro ρ observer threshold before start
  rw [outcome_bind, fails ρ observer threshold before start]

private theorem Comes.map {answer : Except Failure α} (goes : Comes setup state first made answer) (f : α → β) :
    Comes setup state (fun ρ session => first ρ session >>= fun value => pure (f value)) made
      (answer.map f) := by
  intro ρ observer threshold before start
  rw [outcome_bind, goes ρ observer threshold before start]
  cases answer <;> rfl

private theorem Comes.finish {value : α} (goes : Comes setup state first made (.ok value))
    (step : α → Except Failure β) :
    Comes setup state (fun ρ session => first ρ session >>= fun value => liftM (step value))
      made (step value) := by
  intro ρ observer threshold before start
  rw [outcome_bind, goes ρ observer threshold before start]
  exact outcome_lift _ _

/-- The work makes the planned requests up to the first that fails, and all of them if it goes through. -/
def Follows (setup : Setup σ) (state : σ) (work : (ρ : Type) → Session σ ρ → Work σ ρ α)
    (planned : List Request) : Prop :=
  ∃ answer, Comes setup state work (attempted setup.tool planned state) answer ∧
    ((∃ value, answer = .ok value) → Answered setup.tool planned state)

private theorem Comes.follows {answer : Except Failure α} (comes : Comes setup state first [] answer) :
    Follows setup state first [] :=
  ⟨answer, comes, fun _ => trivial⟩

private theorem Follows.ask {asking : (ρ : Type) → Session σ ρ → Work σ ρ Table}
    {next : Table → (ρ : Type) → Session σ ρ → Work σ ρ β} {request : Request} {planned : List Request}
    (asks : ∀ {answer}, (request.answer setup.tool state).1 = answer →
      Comes setup state asking [request] answer)
    (rest : ∀ table, (request.answer setup.tool state).1 = .ok table →
      Follows setup (request.answer setup.tool state).2 (next table) planned) :
    Follows setup state (fun ρ session => asking ρ session >>= fun table => next table ρ session)
      (request :: planned) := by
  cases came : (request.answer setup.tool state).1 with
  | error failure =>
    refine ⟨.error failure, ?_, nofun⟩
    rw [attempted_of_error came]
    exact (asks came).fail
  | ok table =>
    obtain ⟨answer, comes, completes⟩ := rest table came
    refine ⟨answer, ?_, fun completed => ⟨not_fails came, completes completed⟩⟩
    rw [attempted_of_ok came]
    exact (asks came).bind comes

private theorem Follows.finish {planned : List Request} (goes : Follows setup state first planned)
    (step : α → Except Failure β) :
    Follows setup state (fun ρ session => first ρ session >>= fun value => liftM (step value)) planned := by
  obtain ⟨answer, comes, completes⟩ := goes
  cases answer with
  | error failure => exact ⟨.error failure, comes.fail, nofun⟩
  | ok value => exact ⟨step value, comes.finish step, fun _ => completes ⟨value, rfl⟩⟩

end Steps

private theorem accepts_iff {observer : Option (Observer ρ)} {threshold : Severity} :
    Accepts (setup.session observer threshold) filter ↔ ¬ setup.Refuses filter := by
  rw [Setup.Refuses, not_or, not_and, not_not]
  exact ⟨fun accepted => ⟨accepted.filter, accepted.inputs⟩, fun ⟨named, inputs⟩ => ⟨named, inputs⟩⟩

private theorem check_refused (state : σ) (refused : setup.Refuses filter) :
    ∃ failure, Comes setup state (fun _ session => liftM (session.check filter)) [] (.error failure) := by
  have fails : ¬ ∃ value, (setup.session (none : Option (Observer Empty)) .critical).check filter = .ok value := by
    intro ⟨(), passed⟩
    exact accepts_iff.mp (check_eq_ok.mp passed) refused
  obtain ⟨failure, same⟩ := error_of_not_ok fails
  refine ⟨failure, ?_⟩
  intro ρ observer threshold before _
  exact (outcome_lift _ before).trans (congrArg (·, before) same)

private theorem export_comes {kind : Option Kind} {extras : ExportExtras} {line : List String}
    (admitted : ¬ setup.Refuses filter)
    (written : Arguments.ofExport setup.config.inputs.toList setup.config.allowNonmatching
      (kind.bind Kind.exportLetter?) filter extras = line) {answer : Except Failure Table}
    (came : ((exporting line).answer setup.tool state).1 = answer) :
    Comes setup state (fun _ session => session.exportTable kind filter extras) [exporting line] answer := by
  intro ρ observer threshold before start
  rw [outcome_exportTable (accepts_iff.mpr admitted) written, start, ← came]
  rfl

private theorem listing_comes {name : String} {query : MetadataQuery} {filter : String}
    (admitted : ¬ setup.Refuses (some filter)) {answer : Except Failure Table}
    (came : ((listing setup.config name query filter).answer setup.tool state).1 = answer) :
    Comes setup state (fun _ session => session.metadataTable name query filter)
      [listing setup.config name query filter] answer := by
  intro ρ observer threshold before start
  rw [outcome_metadataTable (accepts_iff.mpr admitted), start, ← came]
  rfl

private theorem auxiliary_admitted (admitted : ¬ setup.Refuses filter) : ¬ setup.Refuses (some "*") := by
  rintro (named | inputs)
  · simp at named
  · exact admitted (.inr inputs)

/-- Metadata is merged by one run after the other; nothing but a run that fails can end this early. -/
theorem merge_follows (state : σ) {queries : List MetadataQuery} {table : Table}
    {columns : List (Field × List Cell)} {height : Nat} (shape : Columnar table columns height)
    (keyed : Column.runID ∈ namesOf columns)
    (layouts : ∀ query ∈ queries, query.layout = .nameValue) (admitted : ¬ setup.Refuses filter) :
    Follows setup state (fun _ session => session.mergeMetadata queries table)
      (queries.map (auxiliary setup.config)) := by
  induction queries generalizing table columns state with
  | nil => exact ⟨.ok table, fun _ _ _ _ _ => rfl, fun _ => trivial⟩
  | cons query queries ih =>
    rw [List.forall_mem_cons] at layouts
    refine Follows.ask (listing_comes (auxiliary_admitted admitted)) ?_
    intro metadata came
    obtain ⟨stdout, read⟩ := answer_eq_ok came
    obtain ⟨joined, wider, went, joinedShape, grown⟩ := read_extends shape keyed layouts.1 read
    obtain ⟨answer, comes, completes⟩ := ih _ joinedShape (grown.mem_names keyed) layouts.2
    exact ⟨answer, (Comes.lift went).bind comes, completes⟩

private theorem attach_fails {raw : Table} {inclusion : Inclusion} (rectangular : raw.Rectangular) (kind : Kind)
    (apart : ¬ AttributesAttach raw inclusion) :
    ∃ failure, Comes setup state (fun _ session => session.attach raw kind inclusion) []
      (.error failure) := by
  rw [← attach_iff rectangular kind] at apart
  obtain ⟨failure, attached⟩ := error_of_not_ok apart
  have steps : Comes setup state (fun _ session => do
      let extended ← liftM (withAttributes raw kind inclusion)
      session.mergeMetadata inclusion.queries extended) [] (.error failure) := (Comes.lift attached).fail
  exact ⟨failure, by simpa only [attach_steps] using steps⟩

private theorem attach_follows {raw : Table} {inclusion : Inclusion} (rectangular : raw.Rectangular) (kind : Kind)
    (attaches : AttributesAttach raw inclusion) (admitted : ¬ setup.Refuses filter) :
    Follows setup state (fun _ session => session.attach raw kind inclusion)
      ((wanted inclusion).map (auxiliary setup.config)) := by
  obtain ⟨extended, attached⟩ := (attach_iff rectangular kind).mpr attaches
  obtain ⟨_, shape, _, keyed⟩ := withAttributes_extends rectangular attached
  obtain ⟨answer, merging, completes⟩ := merge_follows state shape (keyed Column.runID (by decide))
    (fun _ => queries_layout) admitted
  have steps : Comes setup state (fun _ session => do
      let extended ← liftM (withAttributes raw kind inclusion)
      session.mergeMetadata inclusion.queries extended)
      (attempted setup.tool (inclusion.queries.map (auxiliary setup.config)) state) answer :=
    (Comes.lift attached).bind merging
  rw [← queries_eq]
  exact ⟨answer, by simpa only [attach_steps] using steps, completes⟩

end Setups

section Queries

inductive Query
  | results (filter : Option String) (options : ResultsOptions)
  | ofKind (kind : ResultKind) (filter : Option String) (options : QueryOptions)
  | metadata (query : MetadataQuery) (filter : String) (inclusion : Inclusion)

namespace Query

def work (session : Session σ ρ) : Query → Work σ ρ Table
  | .results filter options => session.results filter options
  | .ofKind kind filter options => session.resultsOfKind kind filter options
  | .metadata query filter inclusion => session.metadata query filter inclusion

def context : Query → Context
  | .results filter _ => ⟨"results", filter⟩
  | .ofKind kind filter _ => ⟨kind.queryName, filter⟩
  | .metadata query filter _ => ⟨query.name, some filter⟩

end Query

/-- The runs of a query that goes through. -/
def Query.plan (config : Config) : Query → List Request
  | .results filter options => [exporting (resultsLine config filter options.extras)]
  | .ofKind kind filter options =>
    exporting (kindLine config filter options.extras kind) :: (wanted options.inclusion).map (auxiliary config)
  | .metadata query filter inclusion =>
    listing config query.name query filter :: (wanted inclusion).map (auxiliary config)

/-- The export has attributes that are to be attached, but does not say to what. -/
def Unattached (setup : Setup σ) (state : σ) : Query → Prop
  | .ofKind kind filter options =>
    ∃ raw, ((exporting (kindLine setup.config filter options.extras kind)).answer setup.tool state).1 =
        .ok raw ∧ ¬ AttributesAttach raw options.inclusion
  | _ => False

/-- How far a query follows its plan, and with which outcome. -/
inductive Pursues (setup : Setup σ) (query : Query) (state : σ) :
    List Request → Except Failure Table → Prop
  | refused (refused : setup.Refuses query.context.filter) (failure : Failure) :
      Pursues setup query state [] (.error failure)
  | followed (admitted : ¬ setup.Refuses query.context.filter) {answer : Except Failure Table}
      (completes : (∃ table, answer = .ok table) → Answered setup.tool (query.plan setup.config) state) :
      Pursues setup query state (attempted setup.tool (query.plan setup.config) state) answer
  | unattached (admitted : ¬ setup.Refuses query.context.filter) (apart : Unattached setup state query)
      (failure : Failure) :
      Pursues setup query state ((query.plan setup.config).take 1) (.error failure)

def severities : List Severity := [.info, .warning, .error, .critical]

def atOrAbove (threshold severity : Severity) : Bool :=
  (severities.dropWhile (· != threshold)).contains severity

private theorem reaches_eq (severity threshold : Severity) :
    severity.reaches threshold = atOrAbove threshold severity := by
  cases severity <;> cases threshold <;> rfl

/-- What is told about an outcome. A failure that is severe enough is told twice. -/
def closing (threshold : Severity) (context : Context) : Except Failure Table → List Notice
  | .ok table => [⟨context, .success ⟨table.rows.length, table.fields.length⟩⟩]
  | .error failure =>
    ⟨context, .failure failure.severity failure⟩ ::
      if atOrAbove threshold failure.severity then [⟨context, .alert failure.severity failure⟩] else []

variable {setup : Setup σ} {state : σ}

private theorem outcome_observed {context : Context} {work : (ρ : Type) → Session σ ρ → Work σ ρ Table}
    {made : List Request} {answer : Except Failure Table} (comes : Comes setup state work made answer)
    {observer : Option (Observer ρ)} {threshold : Severity} {before : Journal σ ρ} (start : before.tool = state) :
    outcome ((setup.session observer threshold).observe context (work ρ (setup.session observer threshold)))
        before =
      (answer, told (setup.session observer threshold) (closing threshold context answer)
        (made.foldl (journalAfter (setup.session observer threshold)) before)) := by
  rw [outcome_observe, comes ρ observer threshold before start]
  cases answer with
  | ok table => simp only [closing, noted_eq]
  | error failure =>
    by_cases severe : atOrAbove threshold failure.severity
    · simp [closing, noted_eq, told_told, reaches_eq, severe, Setup.session]
    · simp [closing, noted_eq, reaches_eq, severe, Setup.session]

/-- The work of a query apart from its observation. -/
def inner (query : Query) (ρ : Type) (session : Session σ ρ) : Work σ ρ Table :=
  match query with
  | .results filter options => do
    let raw ← session.exportTable none filter options.extras
    let rows ← (liftM (rowsOfKinds raw options.rowKinds) : Work σ ρ Table)
    return if options.omitUnused then rows.prune else rows
  | .ofKind kind filter options => do
    let raw ← session.exportTable kind.kind filter (options.extras.restricted kind)
    let merged ← session.attach raw kind.kind options.inclusion
    liftM (finished kind options.omitUnused merged)
  | .metadata query filter inclusion => do
    let table ← session.metadataTable query.name query filter
    session.mergeMetadata inclusion.queries table

private theorem work_eq (query : Query) (session : Session σ ρ) :
    query.work session = session.observe query.context (inner query ρ session) := by
  cases query with
  | results filter options => exact results_steps session filter options
  | ofKind kind filter options => exact resultsOfKind_steps session kind filter options
  | metadata query filter inclusion => rfl

def Proceeds (setup : Setup σ) (query : Query) (state : σ) : Prop :=
  ∃ made answer, Pursues setup query state made answer ∧ Comes setup state (inner query) made answer

private theorem refused_proceeds {query : Query} (state : σ) (refused : setup.Refuses query.context.filter) :
    Proceeds setup query state := by
  obtain ⟨failure, fails⟩ := check_refused state refused
  refine ⟨[], .error failure, .refused refused failure, ?_⟩
  cases query with
  | results => exact fails.fail.fail
  | ofKind => exact fails.fail.fail
  | metadata => exact fails.fail.fail

private theorem Follows.proceeds {query : Query} (admitted : ¬ setup.Refuses query.context.filter)
    (follows : Follows setup state (inner query) (query.plan setup.config)) : Proceeds setup query state := by
  obtain ⟨answer, comes, completes⟩ := follows
  exact ⟨_, answer, .followed admitted completes, comes⟩

private theorem results_proceeds {filter : Option String} (state : σ) (options : ResultsOptions)
    (admitted : ¬ setup.Refuses filter) : Proceeds setup (.results filter options) state := by
  apply Follows.proceeds admitted
  refine Follows.ask (export_comes admitted (ofExport_results ..)) ?_
  intro raw _
  exact ((Comes.lift rfl).map _).follows

private theorem ofKind_proceeds {filter : Option String} (state : σ) (kind : ResultKind) (options : QueryOptions)
    (admitted : ¬ setup.Refuses filter) : Proceeds setup (.ofKind kind filter options) state := by
  have exported {answer : Except Failure Table} :
      _ → Comes setup state (fun _ session => session.exportTable kind.kind filter (options.extras.restricted kind))
        [exporting (kindLine setup.config filter options.extras kind)] answer :=
    export_comes admitted (ofExport_kind ..)
  by_cases apart : Unattached setup state (.ofKind kind filter options)
  · have ⟨raw, came, unattached⟩ := apart
    obtain ⟨stdout, read⟩ := answer_eq_ok came
    obtain ⟨failure, fails⟩ := attach_fails (read_parsed read).rectangular kind.kind unattached
    exact ⟨_, .error failure, .unattached admitted apart failure, (exported came).bind fails.fail⟩
  · apply Follows.proceeds admitted
    refine Follows.ask exported ?_
    intro raw came
    obtain ⟨stdout, read⟩ := answer_eq_ok came
    have attaches : AttributesAttach raw options.inclusion := by
      by_contra unattached
      exact apart ⟨raw, came, unattached⟩
    exact (attach_follows (read_parsed read).rectangular kind.kind attaches admitted).finish _

private theorem metadata_proceeds {filter : String} (state : σ) (query : MetadataQuery) (inclusion : Inclusion)
    (admitted : ¬ setup.Refuses (some filter)) : Proceeds setup (.metadata query filter inclusion) state := by
  apply Follows.proceeds admitted
  refine Follows.ask (listing_comes admitted) ?_
  intro main came
  obtain ⟨stdout, read⟩ := answer_eq_ok came
  obtain ⟨shape, keyed⟩ := read_keyed read
  rw [← queries_eq]
  exact merge_follows _ shape keyed (fun _ => queries_layout) admitted

/-- A query works through its plan unless it is refused, or attributes cannot be attached. -/
theorem query_proceeds (setup : Setup σ) (query : Query) (state : σ) : Proceeds setup query state := by
  by_cases refused : setup.Refuses query.context.filter
  · exact refused_proceeds state refused
  · cases query with
    | results filter options => exact results_proceeds state options refused
    | ofKind kind filter options => exact ofKind_proceeds state kind options refused
    | metadata query filter inclusion => exact metadata_proceeds state query inclusion refused

theorem Pursues.leads {query : Query} {made : List Request} {answer : Except Failure Table}
    (pursues : Pursues setup query state made answer) : made <+: query.plan setup.config := by
  cases pursues with
  | refused => exact ⟨_, rfl⟩
  | followed => exact attempted_leads ..
  | unattached => exact ⟨_, List.take_append_drop 1 _⟩

/-- Whoever watches, the query comes to this answer and leaves in the journal the runs that it made,
the notices of these runs, and behind them those of the outcome. -/
def Concludes (setup : Setup σ) (query : Query) (state : σ) (made : List Request)
    (answer : Except Failure Table) : Prop :=
  ∀ (ρ : Type) (observer : Option (Observer ρ)) (threshold : Severity) (before : Journal σ ρ),
    before.tool = state →
      outcome (query.work (setup.session observer threshold)) before =
        (answer, told (setup.session observer threshold)
          (noticesOf setup.tool made state ++ closing threshold query.context answer)
          { before with
            tool := stateAfter setup.tool made state
            runs := before.runs ++ made.map (·.arguments) })

theorem query_concludes (setup : Setup σ) (query : Query) (state : σ) :
    ∃ made answer, Pursues setup query state made answer ∧ Concludes setup query state made answer := by
  obtain ⟨made, answer, pursues, comes⟩ := query_proceeds setup query state
  refine ⟨made, answer, pursues, ?_⟩
  intro ρ observer threshold before start
  rw [work_eq, outcome_observed comes start, foldl_journalAfter, told_told, start]
  rfl

def setupOf (session : Session σ ρ) : Setup σ := ⟨session.config, session.files, session.tool⟩

/-- The runs of a query are the first of its plan, and all of them if it goes through. None is made if
the query is refused, and none behind a run that failed. Apart from that, only attributes that
cannot be attached end the runs early. -/
theorem runs_follow_plan (session : Session σ ρ) (query : Query) (before : Journal σ ρ) :
    let result := outcome (query.work session) before
    let plan := query.plan session.config
    ∃ made : List Request,
      result.2.runs = before.runs ++ made.map (·.arguments) ∧
      result.2.tool = stateAfter session.tool made before.tool ∧
      made <+: plan ∧
      ((∃ table, result.1 = .ok table) → made = plan) ∧
      ((setupOf session).Refuses query.context.filter → made = []) ∧
      (∀ earlier request later, made = earlier ++ request :: later →
        Fails session.tool request (stateAfter session.tool earlier before.tool) →
          later = [] ∧ ∃ failure, result.1 = .error failure) ∧
      (made ≠ plan →
        (setupOf session).Refuses query.context.filter ∨
        (∃ earlier request, made = earlier ++ [request] ∧
          Fails session.tool request (stateAfter session.tool earlier before.tool)) ∨
        made = plan.take 1 ∧ Unattached (setupOf session) before.tool query) := by
  intro result plan
  obtain ⟨made, answer, pursues, comes⟩ := query_concludes (setupOf session) query before.tool
  have came : result = _ := comes ρ session.observer session.alertThreshold before rfl
  refine ⟨made, by rw [came]; rfl, by rw [came]; rfl, pursues.leads, ?_⟩
  have same : result.1 = answer := by rw [came]
  rw [same]
  cases pursues with
  | refused refused failure =>
    exact ⟨nofun, fun _ => rfl, fun _ _ _ split => by simp at split, fun _ => .inl refused⟩
  | followed admitted completes =>
    refine ⟨fun went => attempted_answered (completes went), fun refused => absurd refused admitted, ?_,
      fun short => .inr (.inl (attempted_short short))⟩
    intro earlier request later split fails
    obtain rfl := attempted_stops split fails
    exact ⟨rfl, attempted_fails completes split fails⟩
  | unattached admitted apart failure =>
    refine ⟨nofun, fun refused => absurd refused admitted, ?_,
      fun _ => .inr (.inr ⟨rfl, apart⟩)⟩
    intro earlier request later split fails
    have only := congrArg List.length split
    rw [List.length_take, List.length_append, List.length_cons] at only
    exact ⟨List.eq_nil_of_length_eq_zero (by omega), failure, rfl⟩

def recorded : Journal (List Rule) Unit :=
  scripted ("run,type,module,name,attrname,attrvalue,vectime,vecvalue\n" ++
    "r0,vector,m,v,,,2 3,4 5\nr0,attr,m,v,unit,ms,,\n") "r0\tN\t3\n"

def recordedVectors : Table where
  fields := [⟨Column.runID, .text⟩, ⟨Column.module, .text⟩, ⟨Column.name, .text⟩, ⟨Column.vectime, .array⟩,
    ⟨Column.vecvalue, .array⟩, ⟨"unit", .text⟩, ⟨"N_itervar", .text⟩]
  rows := [[.text "r0", .text "m", .text "v", .array [2, 3], .array [4, 5], .text "ms", .text "3"]]

def windowed : QueryOptions where
  inclusion := sampleInclusion
  extras := { fieldsAsScalars := true, startTime := some 1.5, endTime := some 10 }

/-- Of the same extras, the export of vectors is given the time window, and that of scalars the fields. -/
theorem runs_follow_plan_window :
    let vectors := outcome ((Query.ofKind .vector none windowed).work scriptedSession) recorded
    let scalars := outcome ((Query.ofKind .scalar none windowed).work scriptedSession) sample
    (∃ table, vectors.1 = .ok table) ∧ vectors.2.runs =
      [["x", "--allow-nonmatching", "-T", "v", "-F", "CSV-R", "-o", "-", "--start-time", "1.5", "--end-time", "10"],
        ["q", "--allow-nonmatching", "-f", "*", "-i", "-g", "--tabs"]] ∧
    (∃ table, scalars.1 = .ok table) ∧ scalars.2.runs =
      [["x", "--allow-nonmatching", "-T", "s", "-F", "CSV-R", "-o", "-", "--add-fields-as-scalars"],
        ["q", "--allow-nonmatching", "-f", "*", "-i", "-g", "--tabs"]] := by
  intro vectors scalars
  have someVectors : ∃ table, vectors.1 = .ok table := ⟨recordedVectors, by decide +kernel⟩
  have someScalars : ∃ table, scalars.1 = .ok table := ⟨sampleScalars, by decide +kernel⟩
  obtain ⟨made, vectorRuns, _, _, wholeVectors, _⟩ :=
    runs_follow_plan scriptedSession (.ofKind .vector none windowed) recorded
  obtain ⟨others, scalarRuns, _, _, wholeScalars, _⟩ :=
    runs_follow_plan scriptedSession (.ofKind .scalar none windowed) sample
  refine ⟨someVectors, ?_, someScalars, ?_⟩
  · rw [vectorRuns, wholeVectors someVectors]
    decide +kernel
  · rw [scalarRuns, wholeScalars someScalars]
    decide +kernel

end Queries

end SimResults.Proofs.QueryPlans
