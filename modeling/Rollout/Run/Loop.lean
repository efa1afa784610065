import Rollout.Run.Report
import Rollout.Order.Sort

/-!
# Runs

The configs of a run are deployed one after another, and every environment has books of
its own.  A run ends early if it is cancelled, or at the first failure if it is not to
continue after errors.
-/

namespace Rollout

/-- The choices of a run. -/
structure Options where
  /-- Whether the configs are only validated. -/
  dryRun : Bool := false
  /-- Whether the run continues after errors. -/
  continueOnError : Bool := true
deriving DecidableEq, Repr

/-- The clients of a run by their environments, all with one state. -/
abbrev Clients (σ : Type) := String → Option (Client σ)

namespace Clients

variable {σ : Type}

/-- One client for all environments. -/
def single (client : Client σ) : Clients σ :=
  fun _ => some client

/-- A client at work in one environment of several, each with a state of its own. -/
def within (client : Client σ) (environment : String) : Client (Table String σ) where
  upsert request states :=
    match states.find? environment with
    | none => (.error "", states)
    | some state =>
      let (result, state) := client.upsert request state
      (result, states.insert environment state)

/-- A client for each of a list of environments, each with a state of its own. -/
def separate (client : Client σ) (served : List String) : Clients (Table String σ) :=
  fun environment => if environment ∈ served then some (within client environment) else none

end Clients

/-- Everything that a run depends on besides its configs. -/
structure Setup (σ : Type) where
  /-- The conditions of each deployment. -/
  conditions : Conditions
  /-- The choices of the run. -/
  options : Options
  clients : Clients σ
  /-- Whether the run is found cancelled once so many configs have been processed. -/
  cancelled : Nat → Bool

/-- The noun for what a run does. -/
def Options.noun (options : Options) : String :=
  if options.dryRun then "Validation" else "Deployment"

namespace Options

/-- The line at the beginning of an environment. -/
def enteringLine (options : Options) (environment : String) : LogLine :=
  if options.dryRun then
    ⟨.info, s!"Validating configurations for environment `{environment}`..."⟩
  else ⟨.info, s!"Deploying configurations to environment `{environment}`..."⟩

/-- The line at the end of an environment. -/
def finishedLine (options : Options) (e : EnvironmentReport) : LogLine :=
  ⟨.info, s!"{options.noun} of environment `{e.environment}` finished: "
    ++ s!"{e.count .deployed} deployed, {e.count .skipped} skipped, {e.count .failed} failed"⟩

/-- The line for a failure that stops the run. -/
def stoppedLine (options : Options) (c : Config) : LogLine :=
  ⟨.error, s!"{options.noun} of {c.coordinate.toText} failed, "
    ++ "stopping (continue_on_error is off)"⟩

end Options

/-- The mark of a state in a log. -/
def State.mark : State → String
  | .deployed => "✓"
  | .skipped => "⊘"
  | .failed => "✗"
  | .pending => "?"

/-- The line for an outcome. -/
def Config.outcomeLine (c : Config) (o : Outcome) : LogLine :=
  ⟨.info, s!"{o.state.mark} {c.coordinate.toText} [{c.target.label}] → {o.state.word}"⟩

/-- The line for a config in front of which a run was cancelled. -/
def Config.cancelledLine (c : Config) : LogLine :=
  ⟨.warning, s!"Deployment cancelled before {c.coordinate.toText}"⟩

/-- The outcome of a config in an environment that no client serves. -/
def Config.unserved (c : Config) (environment : String) : Outcome :=
  { c.pending environment with
    state := .failed
    errors := [{ kind := .unspecified
                 message := "no remote client configured for this environment"
                 coordinate := some c.coordinate
                 environment := nonempty? environment }] }

/-- How far a run has come. -/
structure Progress (σ : Type) where
  /-- The report so far. -/
  report : Report
  session : Session σ
  /-- The environment of the last config. -/
  current : Option String
  /-- The number of configs that have been processed. -/
  processed : Nat

namespace Progress

variable {σ : Type}

/-- The progress in front of the first config. -/
def start (report : Report) (session : Session σ) : Progress σ :=
  ⟨report, session, none, 0⟩

/-- The progress with lines logged. -/
def tell (p : Progress σ) (log : Log) : Progress σ :=
  { p with session := p.session.tell log }

/-- The progress in an environment, whose beginning is logged when it changes. -/
def enter (p : Progress σ) (options : Options) (environment : String) : Progress σ :=
  { p.tell (if p.current = some environment then [] else [options.enteringLine environment]) with
    report := p.report.enter environment
    current := some environment }

/-- The progress with a config processed. -/
def add (p : Progress σ) (environment : String) (c : Config) (o : Outcome) (books : Books)
    (session : Session σ) : Progress σ :=
  { p with
    report := p.report.set environment ((p.report.environment environment).add o books)
    session := session.tell [c.outcomeLine o]
    processed := p.processed + 1 }

/-- The progress in front of a config at which the run is cancelled. -/
def cancel (p : Progress σ) (c : Config) : Progress σ :=
  { p.tell [c.cancelledLine] with report := { p.report with cancelled := true } }

/-- The progress after a config at which the run is stopped. -/
def abort (p : Progress σ) (options : Options) (c : Config) : Progress σ :=
  { p.tell [options.stoppedLine c] with report := { p.report with aborted := true } }

end Progress

namespace Setup

variable {σ : Type}

/-- Deploys a config to an environment, if a client serves it or none is needed. -/
def deploy (setup : Setup σ) (environment : String) (c : Config) (b : Books) (s : Session σ) :
    Deployed σ :=
  if setup.options.dryRun then c.deploy setup.conditions .validate environment b s
  else match setup.clients environment with
    | none => ⟨.ok (c.unserved environment), b, s⟩
    | some client => c.deploy setup.conditions (.push client) environment b s

/-- Processes configs one after another, up to the end of the list or of the run. -/
def process (setup : Setup σ) : List (String × Config) → Progress σ → Except Fault (Progress σ)
  | [], p => .ok p
  | (environment, c) :: rest, p =>
    if setup.cancelled p.processed then .ok (p.cancel c)
    else
      let p := p.enter setup.options environment
      let d := setup.deploy environment c (p.report.environment environment).books p.session
      match d.result with
      | .error fault => .error fault
      | .ok o =>
        let p := p.add environment c o d.books d.session
        if o.state = .failed && !setup.options.continueOnError then .ok (p.abort setup.options c)
        else setup.process rest p

/-- The session after a run: the stubs are written out unless the configs were only
validated. -/
def writeStubs (setup : Setup σ) (s : Session σ) : Except Fault (Session σ) :=
  match s.recorder with
  | none => .ok s
  | some r =>
    if setup.options.dryRun then .ok s
    else
      let w := r.writeAll s.disk
      match w.result with
      | .error _ => .error .nulInPath
      | .ok _ => .ok { s with disk := w.disk, log := s.log ++ w.log }

/-- The end of a run: the environments are summed up and the stubs written out. -/
def finish (setup : Setup σ) (p : Progress σ) : Except Fault (Report × Session σ) :=
  let lines := p.report.environments.values.map setup.options.finishedLine
  match setup.writeStubs (p.session.tell lines) with
  | .error fault => .error fault
  | .ok s => .ok (p.report, s)

/-- A run over configs with their environments, continuing a report. -/
def runItems (setup : Setup σ) (items : List (String × Config)) (report : Report)
    (s : Session σ) : Except Fault (Report × Session σ) :=
  match setup.process items (.start report s) with
  | .error fault => .error fault
  | .ok p => setup.finish p

/-- A run over configs that are in order, each in its own environment. -/
def run (setup : Setup σ) (configs : List Config) (s : Session σ) :
    Except Fault (Report × Session σ) :=
  setup.runItems (configs.map (fun c => (c.environment, c))) (.fresh setup.options.dryRun) s

/-- The errors of a run over configs that are in order. -/
def runErrors (setup : Setup σ) (configs : List Config) (s : Session σ) :
    Except Fault (List DeployError × Session σ) :=
  (setup.run configs s).map (fun (report, s) => (report.errors, s))

/-- The lines that announce the environments of a run. -/
def environmentLines (environments : List String) : Log :=
  ⟨.info, s!"Environments to deploy to ({environments.length}):"⟩
    :: environments.map (fun name => ⟨.info, "  - " ++ (nonempty? name).getD "<default>"⟩)

/-- The configs of several environments in a row, one environment after another. -/
def itemsOf (configs : Table String (List Config)) : List (String × Config) :=
  configs.entries.flatMap (fun (environment, cs) => cs.map (fun c => (environment, c)))

/-- A run over the configs of several environments, each list in order, continuing a
report. -/
def runEnvironmentsFrom (setup : Setup σ) (configs : Table String (List Config))
    (report : Report) (s : Session σ) : Except Fault (Report × Session σ) :=
  setup.runItems (itemsOf configs) report (s.tell (environmentLines configs.keys))

/-- A run over the configs of several environments, each list in order. -/
def runEnvironments (setup : Setup σ) (configs : Table String (List Config)) (s : Session σ) :
    Except Fault (Report × Session σ) :=
  setup.runEnvironmentsFrom configs (.fresh setup.options.dryRun) s

/-- The report in which the loops that rule an order out have been entered. -/
def cycleReport (report : Report) (errors : List DeployError) : Report :=
  errors.foldl (fun r e =>
    let name := e.environment.getD ""
    r.set name ((r.environment name).addErrors [e])) report

/-- The lines for configs that have been sorted: the loops, and the number of configs. -/
def sortingLines (setup : Setup σ) (configs : List Config) (errors : List DeployError) : Log :=
  Sorted.log errors ++ [⟨.info, s!"{setup.options.noun} of {configs.length} configurations"⟩]

/-- A run over configs in any order.  An environment whose configs depend on each other in
a loop is not deployed to. -/
def runAll (setup : Setup σ) (configs : List Config) (s : Session σ) :
    Except Fault (Report × Session σ) :=
  let sorted := SortedEnvironments.ofConfigs configs
  let report := cycleReport (.fresh setup.options.dryRun) sorted.errors
  setup.runEnvironmentsFrom sorted.configs report
    (s.tell (setup.sortingLines configs sorted.errors))

end Setup

end Rollout
