import SimResults.Proofs.ConfigText
import SimResults.Proofs.QueryPlans

/-! The input patterns of a session, through whatever is done to it. They are what they were last
replaced by and all that was added since, each at its first occurrence, and every run that a query
makes reads them in this order. -/

namespace SimResults.Proofs.InputLists
open Outcomes FirstSeen Json Config ConfigText SessionRuns CommandLines QueryPlans

section Loading

def Distinct (config : Config) : Prop := config.inputs.toList.Nodup

variable {config next : Config} {setting : Setting} {chars rest : List Char}

private theorem distinct_ofList (config : Config) (patterns : List String) :
    Distinct { config with inputs := .ofList patterns } := by
  rw [Distinct, ofList_toList]
  exact nodup_eraseDups patterns

private theorem readSetting_distinct (distinct : Distinct config)
    (read : readSetting setting config chars = .ok (next, rest)) : Distinct next := by
  cases setting with
  | inputs =>
    obtain ⟨⟨texts, rest⟩, _, same⟩ := map_eq_ok.mp read
    cases same
    exact distinct_ofList config texts
  | _ =>
    obtain ⟨⟨_, _⟩, _, same⟩ := map_eq_ok.mp read
    cases same
    exact distinct

private theorem readArray_distinct {settings : List Setting} {first : Bool} (distinct : Distinct config)
    (read : readArray first config settings chars = .ok (next, rest)) : Distinct next := by
  induction settings generalizing config chars first with
  | nil =>
    obtain ⟨_, _, same⟩ := bind_eq_ok.mp read
    cases same
    exact distinct
  | cons setting settings ih =>
    obtain ⟨element, _, read⟩ := bind_eq_ok.mp read
    cases element with
    | closing chars =>
      obtain ⟨_, _, same⟩ := bind_eq_ok.mp read
      cases same
      exact distinct
    | element chars =>
      obtain ⟨⟨given, chars⟩, value, read⟩ := bind_eq_ok.mp read
      exact ih (readSetting_distinct distinct value) read

private theorem readMembers_distinct {fuel : Nat} {first : Bool} {seen : List Setting} (distinct : Distinct config)
    (read : readMembers fuel first seen config chars = .ok (next, rest)) : Distinct next := by
  induction fuel generalizing config chars first seen with
  | zero => cases read
  | succ fuel ih =>
    obtain ⟨⟨goes, behind⟩, _, read⟩ := bind_eq_ok.mp read
    cases goes with
    | false =>
      cases read
      exact distinct
    | true =>
      obtain ⟨⟨name, behind⟩, _, read⟩ := bind_eq_ok.mp read
      dsimp only at read
      split at read
      next =>
        obtain ⟨_, _, read⟩ := bind_eq_ok.mp read
        obtain ⟨_, _, read⟩ := bind_eq_ok.mp read
        exact ih distinct read
      next setting _ =>
        split at read
        next => cases read
        next =>
          obtain ⟨_, _, read⟩ := bind_eq_ok.mp read
          obtain ⟨⟨given, behind⟩, value, read⟩ := bind_eq_ok.mp read
          exact ih (readSetting_distinct distinct value) read

private theorem ofChars_distinct (read : ofChars chars = .ok (config, rest)) : Distinct config := by
  have fresh : Distinct {} := List.nodup_nil
  rw [ofChars] at read
  split at read
  next => exact readArray_distinct fresh read
  next => exact readMembers_distinct fresh read
  next => cases read

/-- Whatever a text says, no pattern is read from it twice. -/
theorem ofText_distinct {text : String} (read : Config.ofText text = .ok config) : Distinct config := by
  obtain ⟨⟨found, rest⟩, came, read⟩ := bind_eq_ok.mp read
  dsimp only at read
  split at read
  next =>
    cases read
    exact ofChars_distinct came
  next => cases read

/-- How a configuration comes about, and the patterns that it was given to start with. -/
inductive Starts : Config → List String → Prop
  | built (config : Config) (patterns : List String) :
      Starts { config with inputs := .ofList patterns } patterns
  /-- From a text that lists these patterns. -/
  | listed {text : String} {givens : List Given} {config : Config} {patterns : List String}
      (configures : Configures givens text) (given : .inputs patterns ∈ givens)
      (read : Config.ofText text = .ok config) : Starts config patterns
  /-- From any text at all. -/
  | loaded {text : String} {config : Config} (read : Config.ofText text = .ok config) :
      Starts config config.inputs.toList

private theorem starts_toList {patterns : List String} (starts : Starts config patterns) :
    config.inputs.toList = patterns.eraseDups := by
  cases starts with
  | built => exact ofList_toList patterns
  | loaded read => exact (eraseDups_of_nodup (ofText_distinct read)).symm
  | @listed text givens _ _ configures given read =>
    obtain rfl : givens.foldl Given.apply {} = config :=
      Except.ok.inj ((ofText_configures configures).symm.trans read)
    obtain ⟨_, _, _, once⟩ := configures
    exact Given.inputs.inj (valueOf_given once given)

end Loading

section Steps

variable {σ ρ : Type}

/-- What can be done with a session. -/
inductive Step
  | setInputs (patterns : List String)
  | addInputs (patterns : List String)
  | addInput (pattern : String)
  | ask (query : Query)

namespace Step

def Replaces : Step → Prop
  | .setInputs _ => True
  | _ => False

def added : Step → List String
  | .addInputs patterns => patterns
  | .addInput pattern => [pattern]
  | _ => []

/-- The session and its journal after a step. -/
def perform (now : Session σ ρ × Journal σ ρ) : Step → Session σ ρ × Journal σ ρ
  | .setInputs patterns => (now.1.setInputs patterns, now.2)
  | .addInputs patterns => (now.1.addInputs patterns, now.2)
  | .addInput pattern => (now.1.addInput pattern, now.2)
  | .ask query => (now.1, (outcome (query.work now.1) now.2).2)

end Step

def performed (start : Session σ ρ × Journal σ ρ) (steps : List Step) : Session σ ρ × Journal σ ρ :=
  steps.foldl Step.perform start

def patternsOf (now : Session σ ρ × Journal σ ρ) : List String := now.1.config.inputs.toList

variable {now : Session σ ρ × Journal σ ρ} {step : Step} {steps : List Step}

private theorem perform_patterns (distinct : (patternsOf now).Nodup) (keeps : ¬ step.Replaces) :
    patternsOf (step.perform now) = (patternsOf now ++ step.added).eraseDups := by
  cases step with
  | setInputs => exact absurd trivial keeps
  | addInputs patterns => exact add_toList distinct patterns
  | addInput pattern => exact insert_toList distinct pattern
  | ask query => exact ((congrArg List.eraseDups (List.append_nil _)).trans (eraseDups_of_nodup distinct)).symm

private theorem perform_distinct (distinct : (patternsOf now).Nodup) (step : Step) :
    (patternsOf (step.perform now)).Nodup := by
  by_cases replaces : step.Replaces
  · cases step with
    | setInputs patterns => exact distinct_ofList now.1.config patterns
    | _ => exact absurd replaces id
  · rw [perform_patterns distinct replaces]
    exact nodup_eraseDups _

private theorem performed_distinct (distinct : (patternsOf now).Nodup) (steps : List Step) :
    (patternsOf (performed now steps)).Nodup := by
  induction steps generalizing now with
  | nil => exact distinct
  | cons step steps ih => exact ih (perform_distinct distinct step)

private theorem performed_patterns (distinct : (patternsOf now).Nodup) (keeps : ∀ step ∈ steps, ¬ step.Replaces) :
    patternsOf (performed now steps) = (patternsOf now ++ steps.flatMap Step.added).eraseDups := by
  induction steps generalizing now with
  | nil => rw [List.flatMap_nil, List.append_nil, eraseDups_of_nodup distinct]; rfl
  | cons step steps ih =>
    obtain ⟨first, others⟩ := List.forall_mem_cons.mp keeps
    calc
      _ = (patternsOf (step.perform now) ++ steps.flatMap Step.added).eraseDups :=
        ih (perform_distinct distinct step) others
      _ = ((patternsOf now ++ step.added).eraseDups ++ steps.flatMap Step.added).eraseDups := by
        rw [perform_patterns distinct first]
      _ = (patternsOf now ++ (step :: steps).flatMap Step.added).eraseDups := by
        rw [eraseDups_twice, List.append_assoc, List.flatMap_cons]

private theorem performed_leads (distinct : (patternsOf now).Nodup) (keeps : ∀ step ∈ steps, ¬ step.Replaces) :
    patternsOf now <+: patternsOf (performed now steps) := by
  rw [performed_patterns distinct keeps, List.eraseDups_append, eraseDups_of_nodup distinct]
  exact ⟨_, rfl⟩

/-- Nothing but the input patterns of a session changes. -/
theorem performed_session (start : Session σ ρ × Journal σ ρ) (steps : List Step) :
    (performed start steps).1 = { start.1 with config.inputs := ⟨patternsOf (performed start steps)⟩ } := by
  induction steps generalizing start with
  | nil => rfl
  | cons step steps ih =>
    have first : (step.perform start).1 = { start.1 with config.inputs := (step.perform start).1.config.inputs } := by
      cases step <;> rfl
    have whole := ih (step.perform start)
    rw [first] at whole
    exact whole

/-- A command that reads these patterns, in order and without a gap, before any other option. -/
def Reads (allowNonmatching : Bool) (patterns arguments : List String) : Prop :=
  ∃ command option rest, command ∈ ["x", "q"] ∧ option ∈ ["-T", "-f", "-F"] ∧
    arguments = command :: (if allowNonmatching then ["--allow-nonmatching"] else []) ++ patterns ++ option :: rest

private theorem resultsLine_reads (config : Config) (filter : Option String) (extras : ExportExtras) :
    Reads config.allowNonmatching config.inputs.toList (resultsLine config filter extras) := by
  cases filter with
  | none =>
    exact ⟨"x", "-F", _, by decide, by decide, by simp [resultsLine, exportLine, inputWords, filterWords]; rfl⟩
  | some filter =>
    exact ⟨"x", "-f", _, by decide, by decide, by simp [resultsLine, exportLine, inputWords, filterWords]; rfl⟩

private theorem kindLine_reads (config : Config) (filter : Option String) (extras : ExportExtras)
    (kind : ResultKind) :
    Reads config.allowNonmatching config.inputs.toList (kindLine config filter extras kind) := by
  have typed : ∀ letter extra, Reads config.allowNonmatching config.inputs.toList
      (exportLine config ["-T", letter] filter extra) := fun _ _ =>
    ⟨"x", "-T", _, by decide, by decide, by simp [exportLine, inputWords]; rfl⟩
  cases kind <;> exact typed ..

private theorem metadataLine_reads (config : Config) (query : MetadataQuery) (filter : String) :
    Reads config.allowNonmatching config.inputs.toList (metadataLine config query filter) :=
  ⟨"q", "-f", _, by decide, by decide, rfl⟩

private theorem plan_reads (config : Config) (query : Query) :
    ∀ request ∈ query.plan config, Reads config.allowNonmatching config.inputs.toList request.arguments := by
  have merged : ∀ queries : List MetadataQuery, ∀ request ∈ queries.map (auxiliary config),
      Reads config.allowNonmatching config.inputs.toList request.arguments := by
    intro queries request inside
    obtain ⟨query, _, rfl⟩ := List.mem_map.mp inside
    exact metadataLine_reads config query "*"
  cases query with
  | results filter options => exact List.forall_mem_singleton.mpr (resultsLine_reads ..)
  | ofKind kind filter options => exact List.forall_mem_cons.mpr ⟨kindLine_reads .., merged _⟩
  | metadata query filter inclusion => exact List.forall_mem_cons.mpr ⟨metadataLine_reads .., merged _⟩

private theorem ask_reads (now : Session σ ρ × Journal σ ρ) (query : Query) :
    ∃ made, ((Step.ask query).perform now).2.runs = now.2.runs ++ made ∧
      ∀ arguments ∈ made, Reads now.1.config.allowNonmatching (patternsOf now) arguments := by
  obtain ⟨made, _, pursues, concludes⟩ := query_concludes (setupOf now.1) query now.2.tool
  have came := concludes ρ now.1.observer now.1.alertThreshold now.2 rfl
  refine ⟨made.map (·.arguments), congrArg (·.2.runs) came, ?_⟩
  intro arguments inside
  obtain ⟨request, member, rfl⟩ := List.mem_map.mp inside
  exact plan_reads now.1.config query request (pursues.leads.mem member)

/-- The patterns are those of the last replacement, or else of the start, and all that were added
since, each at its first occurrence. What is there keeps its place while nothing is replaced, and
the runs of a query read the patterns of that time. -/
theorem inputs_after_steps {start : Session σ ρ × Journal σ ρ} {patterns : List String}
    (starts : Starts start.1.config patterns) (steps : List Step) :
    let now := performed start steps
    (∀ earlier last later, steps = earlier ++ .setInputs last :: later → (∀ step ∈ later, ¬ step.Replaces) →
      patternsOf now = (last ++ later.flatMap Step.added).eraseDups) ∧
    ((∀ step ∈ steps, ¬ step.Replaces) →
      patternsOf now = (patterns ++ steps.flatMap Step.added).eraseDups) ∧
    (patternsOf now).Nodup ∧
    (∀ more, (∀ step ∈ more, ¬ step.Replaces) → patternsOf now <+: patternsOf (performed now more)) ∧
    ∀ query, ∃ made, ((Step.ask query).perform now).2.runs = now.2.runs ++ made ∧
      ∀ arguments ∈ made, Reads start.1.config.allowNonmatching (patternsOf now) arguments := by
  intro now
  have listed : patternsOf start = patterns.eraseDups := starts_toList starts
  have distinct : (patternsOf start).Nodup := listed ▸ nodup_eraseDups patterns
  have distinctNow := performed_distinct distinct steps
  refine ⟨?_, ?_, distinctNow, fun more keeps => performed_leads distinctNow keeps, ?_⟩
  · rintro earlier last later rfl keeps
    have replaced : performed start (earlier ++ .setInputs last :: later) =
        performed ((Step.setInputs last).perform (performed start earlier)) later := List.foldl_append ..
    have fresh : patternsOf ((Step.setInputs last).perform (performed start earlier)) = last.eraseDups :=
      ofList_toList last
    show patternsOf (performed start _) = _
    rw [replaced, performed_patterns (fresh ▸ nodup_eraseDups last) keeps, fresh, eraseDups_twice]
  · intro keeps
    rw [performed_patterns distinct keeps, listed, eraseDups_twice]
  · intro query
    have allowed : now.1.config.allowNonmatching = start.1.config.allowNonmatching := by
      rw [performed_session]
    rw [← allowed]
    exact ask_reads now query

/-- A session of a configuration that was loaded from a text. -/
def loadedStart : Session (List Rule) Unit × Journal (List Rule) Unit :=
  ({ config := [Given.inputs ["r/*", "r/*"]].foldl Given.apply {}, tool := Tool.scripted }, ⟨[], [], []⟩)

def sampleSteps : List Step := [.addInputs ["s", "r/*"], .ask (.results none {}), .addInput "t"]

theorem inputs_after_steps_loaded :
    patternsOf (performed loadedStart sampleSteps) = ["r/*", "s", "t"] ∧
    patternsOf (performed loadedStart (sampleSteps ++ [.setInputs ["u", "u"], .addInput "r/*"])) = ["u", "r/*"] := by
  have starts : Starts loadedStart.1.config ["r/*", "r/*"] :=
    .listed configures_spelled (List.mem_singleton_self _) (ofText_configures configures_spelled)
  obtain ⟨_, added, _⟩ := inputs_after_steps starts sampleSteps
  obtain ⟨replaced, _⟩ := inputs_after_steps starts (sampleSteps ++ [.setInputs ["u", "u"], .addInput "r/*"])
  constructor
  · exact (added (by simp [sampleSteps, Step.Replaces])).trans (by decide)
  · exact (replaced sampleSteps ["u", "u"] [.addInput "r/*"] rfl (by simp [Step.Replaces])).trans (by decide)

end Steps

end SimResults.Proofs.InputLists
