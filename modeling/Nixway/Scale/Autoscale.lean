/-
# Scale.Autoscale -- ScaleApp and the evaluation of autoscaling rules

`internal/deploy/service.go` from `ScaleApp` to `autoscaleTarget`, with the
counts as 32-bit integers and the clock in nanoseconds.  Each SQL statement, each
reading of the clock and each call of `ScaleApp` is one atomic step, so that
passes of the 30 s loop and of the HTTP endpoint interleave between them.

`TriggerDeploy` is an argument: what is said here holds whatever it does, as long
as it leaves the clock and the autoscaler's calls alone.

A pass records each call of `ScaleApp` when it makes it, and once more when the
call returns without error; both records are made together with the first and the
last statement of the call.
-/
import Nixway.Store.Queries
import Nixway.Theory.Rely

namespace Nixway.Scale

open Nixway.Theory Nixway.Store
open Nixway.Theory.Prog (query exec atomic)

set_option autoImplicit false

/-! ## Rules -/

def metricValue (name : String) (metrics : AverageMetrics) : Option Double :=
  if name = "cpu_percent" then some metrics.cpuPercent
  else if name = "memory_percent" then some metrics.memoryPercent
  else none

def comparisonMatches (value : Double) (comparison : Comparison) (threshold : Double) : Bool :=
  match comparison with
  | .gt => threshold.lt value
  | .gte => threshold.le value
  | .lt => value.lt threshold
  | .lte => value.le threshold

/-- The count a rule asks for; the addition wraps. -/
def autoscaleTarget (current : Int32) (rule : AutoscalingRule) : Int32 :=
  let target :=
    match rule.actionType with
    | .scaleTo => rule.actionValue
    | .scaleBy => current + rule.actionValue
  let target := if target < rule.minReplicas then rule.minReplicas else target
  if rule.maxReplicas < target then rule.maxReplicas else target

/-- `time.Duration(seconds) * time.Second`. -/
def duration (seconds : Int32) : Int := seconds.toInt * 1000000000

/-- The cooldown of a move from one count to another. -/
def cooldown (rule : AutoscalingRule) (current target : Int32) : Int :=
  if target < current then duration rule.cooldownDownSeconds else duration rule.cooldownUpSeconds

/-- The rule was triggered less than the cooldown ago. -/
def coolingDown (rule : AutoscalingRule) (current target : Int32) (now : Nat) : Bool :=
  match rule.lastTriggeredAt with
  | some triggered => (now : Int) - triggered < cooldown rule current target
  | none => false

/-! ## ScaleApp -/

structure ScaleRequest where
  replicas : Int32
  placementStrategy : String
  placementConstraints : Constraints
  pinnedServerIDs : List UUID
  actorType : String := ""
  eventType : String := ""
  metricName : Option String := none
  metricValue : Option Double := none
  ruleName : Option String := none

/-- The production environment of a project, else its first one. -/
def productionEnvironment (envs : List Environment) : Except String UUID :=
  match envs with
  | [] => .error "no environments found"
  | first :: _ => .ok (((envs.find? Environment.isProduction).map Environment.id).getD first.id)

section Scaling

variable (triggerDeploy : UUID → UUID → UUID → Prog World (Except String Deployment))

/-- The event of a scaling, and what runs with its INSERT. -/
def recordScaling (record : World → World) (current : App) (req : ScaleRequest)
    (strategy : PlacementStrategy) (envID : UUID) (deployment : Option Deployment)
    (message : String) : Prog World (Except String ScalingEvent) := do
  let event : ScalingEvent :=
    { appID := current.id
      environmentID := envID
      deploymentID := deployment.map Deployment.id
      actorType := if req.actorType = "" then "user" else req.actorType
      eventType := if req.eventType = "" then "manual_scale" else req.eventType
      fromReplicas := current.replicas
      toReplicas := req.replicas
      placementStrategy := strategy.text
      metricName := req.metricName
      metricValue := req.metricValue
      ruleName := req.ruleName
      message := message }
  let some event ← atomic fun w =>
      match w.createScalingEvent event with
      | (w, some event) => (record w, some event)
      | (w, none) => (w, none)
    | return .error "create scaling event"
  return .ok event

/-- The deploy that applies the new count, when there is a build to deploy. -/
def deployScaled (record : World → World) (current : App) (req : ScaleRequest)
    (strategy : PlacementStrategy) (envID : UUID) : Prog World (Except String ScalingEvent) := do
  match ← query fun w => w.getLastHealthyDeployment current.id envID with
  | some lastHealthy =>
    match ← triggerDeploy current.id envID lastHealthy.buildID with
    | .error err => return .error err
    | .ok next =>
      recordScaling record current req strategy envID (some next)
        ("Scaling from " ++ toString current.replicas ++ " to " ++ toString req.replicas ++
          " replicas")
  | none =>
    recordScaling record current req strategy envID none
      "Scaling settings saved; deploy a build to apply them"

/-- `ScaleApp` once it has read the app; `record` is run with the last statement. -/
def scaleApp (record : World → World) (current : App) (req : ScaleRequest) :
    Prog World (Except String ScalingEvent) := do
  if req.replicas ≤ 0 then
    return .error "replicas must be greater than zero"
  let text := if req.placementStrategy = "" then current.placementStrategy.text
    else req.placementStrategy
  match PlacementStrategy.ofText text with
  | none => return .error ("unknown placement strategy \"" ++ text ++ "\"")
  | some strategy =>
    let some updated ← atomic fun w => w.updateAppScaling current.id req.replicas strategy
        req.placementConstraints req.pinnedServerIDs
      | return .error "update app scaling"
    let envs ← query fun w => w.listEnvironmentsByProject updated.projectID
    match productionEnvironment envs with
    | .error err => return .error err
    | .ok envID => deployScaled triggerDeploy record current req strategy envID

/-! ## EvaluateAutoscaling -/

structure AutoscaleEvaluation where
  ruleID : UUID
  ruleName : String
  metricName : String
  metricValue : Double
  triggered : Bool := false
  event : Option ScalingEvent := none
  message : String := ""

/-- The call of `ScaleApp` for one rule: `GetApp` together with the record of the call. -/
def callScaleApp (app : App) (rule : AutoscalingRule) (value : Double) (target : Int32) :
    Prog World (Except String ScalingEvent) := do
  let (current, call) ← atomic fun w =>
    let call : ScaleCall :=
      { rule := rule, current := app.replicas, requested := target, calledAt := w.now }
    ({ w with scaleCalls := w.scaleCalls ++ [call] }, (w.getApp app.id, call))
  match current with
  | none => return .error "get app"
  | some current =>
    scaleApp triggerDeploy (fun w => { w with scaled := w.scaled ++ [(call, w.now)] }) current
      { replicas := target
        placementStrategy := app.placementStrategy.text
        placementConstraints := app.placementConstraints
        pinnedServerIDs := app.pinnedServerIDs
        actorType := "autoscaler"
        eventType := "autoscale"
        metricName := some rule.metricName
        metricValue := some value
        ruleName := some rule.name }

/-- One turn of the loop; the app carries the count from rule to rule. -/
def evaluateRule (metrics : AverageMetrics) (app : App) (rule : AutoscalingRule) :
    Prog World (App × AutoscaleEvaluation) := do
  let value := metricValue rule.metricName metrics
  let result : AutoscaleEvaluation :=
    { ruleID := rule.id, ruleName := rule.name, metricName := rule.metricName,
      metricValue := value.getD (.finite 0) }
  match value with
  | none => return (app, { result with message := "waiting for fresh agent metrics" })
  | some value =>
    if metrics.sampleCount = 0 then
      return (app, { result with message := "waiting for fresh agent metrics" })
    if !comparisonMatches value rule.comparison rule.threshold then
      return (app, { result with message := "condition not met" })
    let target := autoscaleTarget app.replicas rule
    if target = app.replicas then
      return (app, { result with message := "already at scaling bound" })
    let now ← query World.now
    if coolingDown rule app.replicas target now then
      return (app, { result with message := "cooldown active" })
    match ← callScaleApp triggerDeploy app rule value target with
    | .error err => return (app, { result with message := err })
    | .ok event =>
      exec fun w => w.markAutoscalingRuleTriggered rule.id
      return ({ app with replicas := target },
        { result with
          triggered := true
          event := some event
          message := "scaled from " ++ toString app.replicas ++ " to " ++ toString target })

def evaluateRules (metrics : AverageMetrics) :
    App → List AutoscalingRule → Prog World (List AutoscaleEvaluation)
  | _, [] => return []
  | app, rule :: rest => do
    let (app, result) ← evaluateRule triggerDeploy metrics app rule
    let results ← evaluateRules metrics app rest
    return result :: results

def evaluateAutoscaling (appID : UUID) : Prog World (Except String (List AutoscaleEvaluation)) := do
  let some app ← query fun w => w.getApp appID
    | return .error "get app"
  let rules ← query fun w => w.listEnabledAutoscalingRulesByApp appID
  let metrics ← query fun w => w.averageMetrics appID
  let results ← evaluateRules triggerDeploy metrics app rules
  return .ok results

end Scaling

end Nixway.Scale
