import Rollout.Config

/-!
# Resolution

All parameters of a config are checked and resolved, each on its own, so that
everything that is wrong is known at once.  A reference must lead to another config
that has been deployed and is not skipped, and a parameter with a reference that does
not is not resolved.
-/

namespace Rollout

namespace Site

/-- A reference leads to the config that holds it. -/
def ownReference (site : Site) (r : Reference) : DeployError :=
  site.referenceError .own r
    (s!"parameter references its own config (property `{r.property}`); "
      ++ "parameters may not depend on other parameters of the same config")

/-- A reference leads to a config that left nothing behind before. -/
def notDeployedBefore (site : Site) (r : Reference) : DeployError :=
  site.referenceError .undeployed r
    (s!"referenced config `{r.target.toText}` was not deployed before this config "
      ++ "(it failed, does not exist, or is not part of this environment)")

/-- What is wrong with a reference among the entities of an environment. -/
def check (site : Site) (registry : Registry) (r : Reference) : Option DeployError :=
  if r.target = site.coordinate then some (site.ownReference r)
  else match registry.find? r.target with
    | none => some (site.notDeployedBefore r)
    | some entity => if entity.skip then some (site.skipped r) else none

/-- What is wrong with the references of a parameter, in their order. -/
def checkReferences (site : Site) (registry : Registry) (p : Parameter) : List DeployError :=
  p.references.filterMap (site.check registry)

/-- The error that a failure to resolve a parameter amounts to. -/
def ofFailure (site : Site) : ResolveFailure → DeployError
  | .deploy e => { e.locate site.coordinate with parameter := e.parameter.or (some site.parameter) }
  | .badValue message => site.error .parameter s!"failed to resolve parameter: {message}"
  | .badType message => site.error .parameter s!"failed to resolve parameter: {message}"
  | .unwritable reason => site.error .parameter s!"failed to resolve parameter: {reason.message}"

/-- The value of a parameter whose references are all right, or what is wrong. -/
def settle (site : Site) (vars : Variables) (registry : Registry) (p : Parameter) :
    Except (List DeployError) Value :=
  match site.checkReferences registry p with
  | [] => (p.resolve vars registry site).mapError (fun failure => [site.ofFailure failure])
  | errors => .error errors

/-- Whether more than so many lists and maps inside one another are entered to settle a
parameter. -/
def exceeds (site : Site) (levels : Nat) (vars : Variables) (registry : Registry)
    (p : Parameter) : Bool :=
  (site.checkReferences registry p).isEmpty && p.exceeds levels vars registry site

end Site

namespace Config

/-- A parameter of a config, by name. -/
def site (c : Config) (parameter : String) : Site :=
  ⟨c.coordinate, parameter, c.environment⟩

/-- The missing scope of a settings config. -/
def scopeErrors (c : Config) : List DeployError :=
  if c.target.isSettings && !c.parameters.contains scopeParameter then
    [(c.site scopeParameter).error .noScope s!"settings config has no `{scopeParameter}` parameter"]
  else []

/-- The value of a parameter of a config, or what is wrong with it. -/
def settle (c : Config) (vars : Variables) (registry : Registry) (name : String)
    (p : Parameter) : Except (List DeployError) Value :=
  (c.site name).settle vars registry p

/-- The values of the parameters that have one, in the order of declaration. -/
def values (c : Config) (vars : Variables) (registry : Registry) : Properties :=
  c.parameters.filterMap (fun name p => (c.settle vars registry name p).toOption)

/-- What is wrong with one parameter. -/
def errorsOf (c : Config) (vars : Variables) (registry : Registry) (name : String)
    (p : Parameter) : List DeployError :=
  match c.settle vars registry name p with
  | .ok _ => []
  | .error errors => errors

/-- What is wrong with the parameters, in the order of declaration, after a missing
scope. -/
def parameterErrors (c : Config) (vars : Variables) (registry : Registry) :
    List DeployError :=
  c.scopeErrors
    ++ c.parameters.entries.flatMap (fun (name, p) => c.errorsOf vars registry name p)

/-- Whether more than so many lists and maps inside one another are entered to settle the
parameters. -/
def parametersExceed (c : Config) (levels : Nat) (vars : Variables) (registry : Registry) : Bool :=
  c.parameters.entries.any (fun (name, p) => (c.site name).exceeds levels vars registry p)

/-- Whether a text leaves a config out. -/
def isSkipWord (s : String) : Bool :=
  (Text.trimChars s.toList).map Char.toLower == ['t', 'r', 'u', 'e']

/-- Whether a value leaves a config out: a text if it reads `true`, any other value if it
counts as true. -/
def isSkipValue (v : Value) : Bool :=
  match v.text? with
  | some s => isSkipWord s
  | none => v.isTruthy

/-- Whether a config is left out, or what is wrong with its skip parameter. -/
def isSkipped (c : Config) (vars : Variables) (registry : Registry) :
    Except (List DeployError) Bool :=
  match c.skip with
  | .fixed b => .ok b
  | .parameter p => (c.settle vars registry skipParameter p).map isSkipValue

/-- Whether more than so many lists and maps inside one another are entered to settle the skip
parameter. -/
def skipExceeds (c : Config) (levels : Nat) (vars : Variables) (registry : Registry) : Bool :=
  match c.skip with
  | .fixed _ => false
  | .parameter p => (c.site skipParameter).exceeds levels vars registry p

/-- The name of a config among the values of its parameters. -/
def name (c : Config) (values : Properties) : Except DeployError String :=
  match values.find? nameParameter with
  | none =>
    .error ((c.site nameParameter).error .noName
      s!"config has no resolved `{nameParameter}` parameter")
  | some v =>
    match v.text? with
    | some s => .ok s
    | none =>
      .error ((c.site nameParameter).error .nameType
        s!"`{nameParameter}` must be a string, got {v.typeName}")

end Config

end Rollout
