/-
# Scale.Duration -- how long the condition of a rule has held

A rule has a `duration_seconds`, for how long its condition is to hold before the app is
scaled.  `CreateAutoscalingRule` of `internal/api/handler/deploy.go` stores it, and
`EvaluateAutoscaling` never reads it: one pass with the condition met makes the call.

A history is the sequence of the worlds in which passes begin; anything may happen between
them.  `Waits` says of a history that the rule waits its duration out.  A rule does so in
every history exactly if its duration is negative or it never makes a call (`waits_iff`).
-/
import Nixway.Scale.Calls

namespace Nixway.Scale

open Nixway.Theory Nixway.Store
open Nixway.Theory.Prog (query exec atomic)

set_option autoImplicit false

/-! ## The calls of a pass -/

section Passes

variable (triggerDeploy : UUID → UUID → UUID → Prog World (Except String Deployment))

/-- The calls a pass makes that begins in this world. -/
def callsOf (appID : UUID) (w : World) : List ScaleCall :=
  ((evaluateAutoscaling triggerDeploy appID).out w).scaleCalls.drop w.scaleCalls.length

/-- What a pass has seen when it makes a call. -/
structure Triggers (metrics : AverageMetrics) (call : ScaleCall) : Prop where
  sampled : metrics.sampleCount ≠ 0
  met : ∃ value, metricValue call.rule.metricName metrics = some value ∧
    comparisonMatches value call.rule.comparison call.rule.threshold = true
  changes : autoscaleTarget call.current call.rule ≠ call.current

end Passes

section Quiet

variable {triggerDeploy : UUID → UUID → UUID → Prog World (Except String Deployment)}
variable (quiet : ∀ appID envID buildID, (triggerDeploy appID envID buildID).Every Quiet)

/-- The effect makes no call. -/
def KeepsCalls (effect : World → World) : Prop := ∀ w, (effect w).scaleCalls = w.scaleCalls

theorem recordScaling_keeps {record : World → World} (records : KeepsCalls record) (current : App)
    (req : ScaleRequest) (strategy : PlacementStrategy) (envID : UUID)
    (deployment : Option Deployment) (message : String) :
    (recordScaling record current req strategy envID deployment message).Every KeepsCalls := by
  refine Prog.Every.bind ((Prog.every_atomic _).mpr fun w => ?_) fun event => ?_
  · simp only [World.createScalingEvent]
    split
    · next stored =>
      split at stored
      · cases stored
        exact records _
      · cases stored
    · next failed =>
      split at failed
      · cases failed
      · cases failed
        rfl
  · cases event with
    | none => trivial
    | some event => trivial

include quiet

theorem scaleApp_keeps {record : World → World} (records : KeepsCalls record) (current : App)
    (req : ScaleRequest) : (scaleApp triggerDeploy record current req).Every KeepsCalls := by
  unfold scaleApp
  split
  · trivial
  dsimp only
  split
  · trivial
  refine Prog.Every.bind ((Prog.every_atomic _).mpr fun w => rfl) fun updated => ?_
  cases updated with
  | none => trivial
  | some updated =>
    refine Prog.Every.bind_query (fun w => rfl) fun w => ?_
    split
    · trivial
    · refine Prog.Every.bind_query (fun w => rfl) fun w => ?_
      split
      · refine Prog.Every.bind ((quiet _ _ _).mono fun effect quiet w => (quiet w).2.1) fun next => ?_
        cases next with
        | error err => trivial
        | ok next => exact recordScaling_keeps records ..
      · exact recordScaling_keeps records ..

theorem calls_callScaleApp (app : App) (rule : AutoscalingRule) (value : Double) (target : Int32)
    (w : World) :
    ((callScaleApp triggerDeploy app rule value target).run w).1.scaleCalls =
      w.scaleCalls ++ [⟨rule, app.replicas, target, w.now⟩] := by
  unfold callScaleApp
  rw [Prog.run_atomic_bind]
  dsimp only
  split
  · rfl
  · refine Prog.Every.run_unchanged World.scaleCalls (scaleApp_keeps quiet ?_ _ _) _
    exact fun _ => rfl

/-- A turn makes the call if its condition is met by fresh samples, the count changes and the rule
is not cooling down. -/
theorem calls_triggered {metrics : AverageMetrics} {app : App} {rule : AutoscalingRule}
    {value : Double} {w : World} (known : metricValue rule.metricName metrics = some value)
    (sampled : metrics.sampleCount ≠ 0)
    (met : comparisonMatches value rule.comparison rule.threshold = true)
    (changes : autoscaleTarget app.replicas rule ≠ app.replicas)
    (rested : coolingDown rule app.replicas (autoscaleTarget app.replicas rule) w.now = false) :
    ((evaluateRule triggerDeploy metrics app rule).run w).1.scaleCalls =
      w.scaleCalls ++ [⟨rule, app.replicas, autoscaleTarget app.replicas rule, w.now⟩] := by
  rw [← calls_callScaleApp quiet app rule value (autoscaleTarget app.replicas rule) w]
  unfold evaluateRule
  simp only [known, sampled, met, changes, if_false, Bool.not_true, Bool.false_eq_true]
  rw [Prog.run_query_bind]
  simp only [rested, Bool.false_eq_true, if_false]
  rw [Prog.run_bind]
  split
  · rfl
  · rfl

/-- The calls of one turn: none, or one for the rule, with its condition met. -/
theorem calls_evaluateRule (metrics : AverageMetrics) (app : App) (rule : AutoscalingRule)
    (w : World) :
    ∃ new, ((evaluateRule triggerDeploy metrics app rule).run w).1.scaleCalls =
      w.scaleCalls ++ new ∧ ∀ call ∈ new, call.rule = rule ∧ Triggers metrics call := by
  have none_made : ∃ new, w.scaleCalls = w.scaleCalls ++ new ∧
      ∀ call ∈ new, call.rule = rule ∧ Triggers metrics call :=
    ⟨[], (List.append_nil _).symm, fun _ mem => nomatch mem⟩
  cases known : metricValue rule.metricName metrics with
  | none =>
    simp only [evaluateRule, known]
    exact none_made
  | some value =>
    by_cases sampled : metrics.sampleCount = 0
    · simp only [evaluateRule, known, sampled, if_true]
      exact none_made
    cases met : comparisonMatches value rule.comparison rule.threshold with
    | false =>
      simp only [evaluateRule, known, sampled, met, if_false, Bool.not_false, if_true]
      exact none_made
    | true =>
      by_cases changes : autoscaleTarget app.replicas rule = app.replicas
      · simp only [evaluateRule, known, sampled, met, changes, if_false, Bool.not_true,
          Bool.false_eq_true, if_true]
        exact none_made
      cases rested : coolingDown rule app.replicas (autoscaleTarget app.replicas rule) w.now with
      | true =>
        simp only [evaluateRule, known, sampled, met, changes, rested, if_false,
          Bool.not_true, Bool.false_eq_true, Prog.run_query_bind, if_true]
        exact none_made
      | false =>
        refine ⟨_, calls_triggered quiet known sampled met changes rested, fun call mem => ?_⟩
        obtain rfl := List.mem_singleton.mp mem
        exact ⟨rfl, sampled, ⟨value, known, met⟩, changes⟩

theorem calls_evaluateRules (metrics : AverageMetrics) (app : App) (rules : List AutoscalingRule)
    (w : World) :
    ∃ new, ((evaluateRules triggerDeploy metrics app rules).run w).1.scaleCalls =
      w.scaleCalls ++ new ∧ ∀ call ∈ new, call.rule ∈ rules ∧ Triggers metrics call := by
  induction rules generalizing app w with
  | nil => exact ⟨[], (List.append_nil _).symm, fun _ mem => nomatch mem⟩
  | cons rule rest ih =>
    unfold evaluateRules
    rw [Prog.run_bind, Prog.run_bind]
    obtain ⟨first, made, here⟩ := calls_evaluateRule quiet metrics app rule w
    obtain ⟨later, made', there⟩ := ih ((evaluateRule triggerDeploy metrics app rule).run w).2.1
      ((evaluateRule triggerDeploy metrics app rule).run w).1
    refine ⟨first ++ later, ?_, fun call mem => ?_⟩
    · rw [← List.append_assoc, ← made, ← made']
      rfl
    · rcases List.mem_append.mp mem with mem | mem
      · obtain ⟨rfl, triggers⟩ := here call mem
        exact ⟨List.mem_cons_self, triggers⟩
      · exact ⟨List.mem_cons_of_mem rule (there call mem).1, (there call mem).2⟩

/-- **What a pass has seen of the rules it makes calls for.** -/
theorem mem_callsOf {appID : UUID} {w : World} {call : ScaleCall}
    (mem : call ∈ callsOf triggerDeploy appID w) :
    call.rule ∈ w.listEnabledAutoscalingRulesByApp appID ∧
      Triggers (w.averageMetrics appID) call := by
  unfold callsOf Prog.out evaluateAutoscaling at mem
  rw [Prog.run_query_bind] at mem
  split at mem
  · next app _ =>
    rw [Prog.run_query_bind, Prog.run_query_bind, Prog.run_bind] at mem
    obtain ⟨new, made, known⟩ := calls_evaluateRules quiet (w.averageMetrics appID) app
      (w.listEnabledAutoscalingRulesByApp appID) w
    refine known call ?_
    have calls : call ∈ ((evaluateRules triggerDeploy (w.averageMetrics appID) app
        (w.listEnabledAutoscalingRulesByApp appID)).run w).1.scaleCalls.drop
          w.scaleCalls.length := mem
    rwa [made, List.drop_left] at calls
  · have calls : call ∈ w.scaleCalls.drop w.scaleCalls.length := mem
    rw [List.drop_length] at calls
    cases calls

end Quiet

/-! ## Waiting -/

def SameRule (a b : AutoscalingRule) : Prop := { a with lastTriggeredAt := b.lastTriggeredAt } = b

/-- The condition of the rule is met in a pass that begins in this world. -/
def held (rule : AutoscalingRule) (w : World) : Bool :=
  match metricValue rule.metricName (w.averageMetrics rule.appID) with
  | some value => comparisonMatches value rule.comparison rule.threshold
  | none => false

def sampled (rule : AutoscalingRule) (w : World) : Bool :=
  (w.averageMetrics rule.appID).sampleCount ≠ 0

/-- **The rule waits its duration out**: at every call the condition was met in all the passes
with fresh samples of that time, and at every moment of it there had been a pass. -/
def Waits (triggerDeploy : UUID → UUID → UUID → Prog World (Except String Deployment))
    (rule : AutoscalingRule) (history : List World) : Prop :=
  ∀ earlier w, earlier ++ [w] <+: history →
    ∀ call ∈ callsOf triggerDeploy rule.appID w, SameRule call.rule rule →
      (∀ v ∈ earlier ++ [w], sampled rule v = true →
        call.calledAt - duration rule.durationSeconds ≤ (v.now : Int) → v.now ≤ call.calledAt →
        held rule v = true) ∧
      ∀ time : Int, call.calledAt - duration rule.durationSeconds ≤ time →
        time ≤ call.calledAt → ∃ v ∈ earlier ++ [w], (v.now : Int) ≤ time

/-- The rule never makes a call: it is off, has no metric of its name, a condition nothing meets,
or leaves every count as it is. -/
def Inert (rule : AutoscalingRule) : Prop :=
  rule.enabled = false ∨ (∀ metrics, metricValue rule.metricName metrics = none) ∨
    (∀ value, comparisonMatches value rule.comparison rule.threshold = false) ∨
    ∀ current, autoscaleTarget current rule = current

/-! ## Which rules wait -/

theorem duration_neg_iff {seconds : Int32} : duration seconds < 0 ↔ seconds < 0 := by
  have zero : (0 : Int32).toInt = 0 := by decide
  rw [Int32.lt_iff_toInt_lt, zero, duration]
  omega

/-- A negative duration is over before it begins. -/
theorem waits_of_negative
    (triggerDeploy : UUID → UUID → UUID → Prog World (Except String Deployment))
    {rule : AutoscalingRule} (negative : rule.durationSeconds < 0) (history : List World) :
    Waits triggerDeploy rule history := by
  have short := duration_neg_iff.mpr negative
  intro earlier w _ call _ _
  constructor
  · intro v _ _ late early
    omega
  · intro time late early
    omega

/-- A rule that makes no call has nothing to wait for. -/
theorem waits_of_inert
    {triggerDeploy : UUID → UUID → UUID → Prog World (Except String Deployment)}
    (quiet : ∀ appID envID buildID, (triggerDeploy appID envID buildID).Every Quiet)
    {rule : AutoscalingRule} (inert : Inert rule) (history : List World) :
    Waits triggerDeploy rule history := by
  intro earlier w _ call made same
  exfalso
  obtain ⟨listed, sampled, ⟨value, known, met⟩, changes⟩ := mem_callsOf quiet made
  rcases inert with off | unknown | never | still
  · have enabled : call.rule.enabled = true := by
      have kept := (List.mem_insertionSort _).mp listed
      have both := (List.mem_filter.mp kept).2
      rw [Bool.and_eq_true] at both
      exact both.2
    have on : rule.enabled = true := by rw [← same]; exact enabled
    rw [off] at on
    cases on
  · have name : call.rule.metricName = rule.metricName := by rw [← same]
    rw [name, unknown] at known
    cases known
  · have comparison : call.rule.comparison = rule.comparison := by rw [← same]
    have threshold : call.rule.threshold = rule.threshold := by rw [← same]
    rw [comparison, threshold, never] at met
    cases met
  · have target : autoscaleTarget call.current call.rule = autoscaleTarget call.current rule := by
      rw [← same]
      rfl
    exact changes (target.trans (still call.current))

/-- The app of a rule, alone in the world, with a count and an average of both metrics. -/
def spike (rule : AutoscalingRule) (replicas : Int32) (average : Double) : World where
  apps := ⟨[{ id := rule.appID, projectID := 0, name := "", slug := "", replicas := replicas }],
    List.nodup_singleton _⟩
  rules := ⟨[{ rule with lastTriggeredAt := none }], List.nodup_singleton _⟩
  averageMetrics _ := ⟨average, average, 1⟩

theorem metricValue_spike {name : String} (known : ¬ ∀ metrics, metricValue name metrics = none)
    (average : Double) : metricValue name ⟨average, average, 1⟩ = some average := by
  unfold metricValue at *
  split
  · rfl
  · split
    · rfl
    · next other different => exact absurd (fun _ => by simp [other, different]) known

theorem comparisonMatches_nan (comparison : Comparison) (threshold : Double) :
    comparisonMatches .nan comparison threshold = false := by
  cases comparison with
  | gt => cases threshold <;> rfl
  | gte => cases threshold <;> rfl
  | lt => rfl
  | lte => cases threshold <;> rfl

theorem spike_calls
    {triggerDeploy : UUID → UUID → UUID → Prog World (Except String Deployment)}
    (quiet : ∀ appID envID buildID, (triggerDeploy appID envID buildID).Every Quiet)
    {rule : AutoscalingRule} {replicas : Int32} {average : Double} (enabled : rule.enabled = true)
    (known : metricValue rule.metricName ⟨average, average, 1⟩ = some average)
    (met : comparisonMatches average rule.comparison rule.threshold = true)
    (changes : autoscaleTarget replicas rule ≠ replicas) :
    (⟨{ rule with lastTriggeredAt := none }, replicas, autoscaleTarget replicas rule, 0⟩ : ScaleCall) ∈
      callsOf triggerDeploy rule.appID (spike rule replicas average) := by
  have found : (spike rule replicas average).getApp rule.appID =
      some { id := rule.appID, projectID := 0, name := "", slug := "", replicas := replicas } := by
    simp [World.getApp, Table.find?, spike]
  have listed : (spike rule replicas average).listEnabledAutoscalingRulesByApp rule.appID =
      [{ rule with lastTriggeredAt := none }] := by
    simp [World.listEnabledAutoscalingRulesByApp, spike, enabled]
  have made : ((evaluateRule triggerDeploy ⟨average, average, 1⟩
      { id := rule.appID, projectID := 0, name := "", slug := "", replicas := replicas }
      { rule with lastTriggeredAt := none }).run (spike rule replicas average)).1.scaleCalls = _ :=
    calls_triggered quiet known (show (1 : Int32) ≠ 0 by decide) met changes rfl
  unfold callsOf Prog.out evaluateAutoscaling
  rw [Prog.run_query_bind]
  simp only [found]
  rw [Prog.run_query_bind, Prog.run_query_bind, listed, Prog.run_bind]
  show _ ∈ (((evaluateRules triggerDeploy ⟨average, average, 1⟩ _ [_]).run
    (spike rule replicas average)).1).scaleCalls
  unfold evaluateRules
  rw [Prog.run_bind, Prog.run_bind]
  show _ ∈ ((evaluateRule triggerDeploy ⟨average, average, 1⟩ _ _).run
    (spike rule replicas average)).1.scaleCalls
  rw [made]
  exact List.mem_cons_self

/-- **A rule waits its duration out in every history exactly if its duration is negative or it
never makes a call.** -/
theorem waits_iff {triggerDeploy : UUID → UUID → UUID → Prog World (Except String Deployment)}
    (quiet : ∀ appID envID buildID, (triggerDeploy appID envID buildID).Every Quiet)
    (rule : AutoscalingRule) :
    (∀ history : List World, (history.Pairwise fun v w => v.now ≤ w.now) →
      Waits triggerDeploy rule history) ↔ rule.durationSeconds < 0 ∨ Inert rule := by
  constructor
  · intro waits
    by_contra busy
    obtain ⟨long, active⟩ := not_or.mp busy
    simp only [Inert, not_or, Bool.not_eq_false] at active
    obtain ⟨enabled, known, meets, moves⟩ := active
    obtain ⟨value, met⟩ := not_forall.mp meets
    obtain ⟨replicas, changes⟩ := not_forall.mp moves
    rw [Bool.not_eq_false] at met
    -- two passes at one moment, the condition met in the second only
    have ordered : [spike rule replicas .nan, spike rule replicas value].Pairwise
        fun v w => v.now ≤ w.now := by
      simp [spike]
    have made := spike_calls quiet enabled (metricValue_spike known value) met changes
    obtain ⟨all, -⟩ := waits _ ordered [spike rule replicas .nan] (spike rule replicas value)
      (List.prefix_refl _) _ made rfl
    have first := all (spike rule replicas .nan) List.mem_cons_self rfl
      (by
        have nonneg : ¬ duration rule.durationSeconds < 0 := fun negative =>
          long (duration_neg_iff.mp negative)
        show (0 : Int) - duration rule.durationSeconds ≤ 0
        omega)
      (Nat.le_refl 0)
    have missed : held rule (spike rule replicas .nan) = false := by
      simp only [held, spike, metricValue_spike known, comparisonMatches_nan]
    rw [missed] at first
    cases first
  · rintro (negative | inert) history -
    · exact waits_of_negative triggerDeploy negative history
    · exact waits_of_inert quiet inert history

def steadyRule : AutoscalingRule := { id := 4, appID := 1, threshold := .finite 50 }

def idleApp : World :=
  { busyApp 1 0 with averageMetrics := fun _ => { cpuPercent := .finite 10, sampleCount := 1 } }

/-- Half a minute after a pass at 10 % the first one at 90 % scales the app. -/
theorem spike_scales_at_once :
    ((callsOf noBuild 1 (busyApp 1 30000000000)).map fun call =>
        (call.rule.id, call.rule.durationSeconds, call.requested, call.calledAt)) =
        [(4, 120, 3, 30000000000)] ∧
      held steadyRule idleApp = false ∧
      ¬ Waits noBuild steadyRule [idleApp, busyApp 1 30000000000] := by
  refine ⟨by decide +kernel, by decide +kernel, fun waits => ?_⟩
  obtain ⟨all, -⟩ := waits [idleApp] (busyApp 1 30000000000) (List.prefix_refl _)
    ⟨steadyRule, 2, 3, 30000000000⟩ (by decide +kernel) rfl
  have met := all idleApp List.mem_cons_self (by decide +kernel) (by decide) (by decide)
  revert met
  decide +kernel

/-- A rule with a negative duration has nothing to wait for. -/
theorem negative_duration_waits :
    Waits noBuild { steadyRule with durationSeconds := -1 } [idleApp, busyApp 1 30000000000] :=
  (waits_iff (fun _ _ _ => Prog.every_done _) { steadyRule with durationSeconds := -1 }).mpr
    (.inl (by decide)) _ (by decide)

end Nixway.Scale
