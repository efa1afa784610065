import Rollout.Deploy.Session

/-!
# Reports

Everything that happened in a run, environment by environment.
-/

namespace Rollout

/-- What happened in one environment. -/
structure EnvironmentReport where
  /-- The environment, or nothing. -/
  environment : String
  /-- The outcomes of its configs, in the order in which they were processed. -/
  outcomes : List Outcome
  /-- The errors of the environment: those of its order, then those of its outcomes. -/
  errors : List DeployError
  /-- The books that were kept. -/
  books : Books

namespace EnvironmentReport

/-- The report of an environment in which nothing has happened. -/
def empty (environment : String) : EnvironmentReport :=
  ⟨environment, [], [], .empty⟩

/-- The number of outcomes in a state. -/
def count (r : EnvironmentReport) (state : State) : Nat :=
  r.outcomes.countP (fun o => o.state = state)

/-- How the environment fared. -/
def status (r : EnvironmentReport) : String :=
  if r.errors.isEmpty then "ok"
  else if 0 < r.count .deployed then "partial"
  else "failed"

/-- The report with errors of the environment added. -/
def addErrors (r : EnvironmentReport) (errors : List DeployError) : EnvironmentReport :=
  { r with errors := r.errors ++ errors }

/-- The report with an outcome and the books after it. -/
def add (r : EnvironmentReport) (o : Outcome) (books : Books) : EnvironmentReport :=
  { r with outcomes := r.outcomes ++ [o], errors := r.errors ++ o.errors, books }

end EnvironmentReport

/-- What happened in a run. -/
structure Report where
  /-- Whether the configs were only validated. -/
  dryRun : Bool
  /-- The reports of the environments, in the order in which they were entered. -/
  environments : Table String EnvironmentReport
  /-- Whether the run was cancelled. -/
  cancelled : Bool
  /-- Whether the run was stopped by a failure. -/
  aborted : Bool

namespace Report

/-- The report of a run that has not begun. -/
def fresh (dryRun : Bool) : Report :=
  ⟨dryRun, .empty, false, false⟩

/-- The report of an environment. -/
def environment (r : Report) (name : String) : EnvironmentReport :=
  (r.environments.find? name).getD (.empty name)

/-- The report with the report of an environment replaced. -/
def set (r : Report) (name : String) (e : EnvironmentReport) : Report :=
  { r with environments := r.environments.insert name e }

/-- The report in which an environment has been entered. -/
def enter (r : Report) (name : String) : Report :=
  r.set name (r.environment name)

/-- The errors of all environments. -/
def errors (r : Report) : List DeployError :=
  r.environments.values.flatMap EnvironmentReport.errors

/-- Whether nothing was wrong and nothing was left undone. -/
def allOk (r : Report) : Bool :=
  r.errors.isEmpty && !r.cancelled

/-- How the run fared. -/
def status (r : Report) : String :=
  if r.allOk then "ok"
  else if r.environments.values.any (fun e => 0 < e.count .deployed) then "partial"
  else "failed"

end Report

end Rollout
