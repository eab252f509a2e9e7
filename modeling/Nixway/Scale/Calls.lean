/-
# Scale.Calls -- the calls of ScaleApp a pass makes

`evaluateAutoscaling_safe` says what a pass of the autoscaler does beside other
passes and anything else that leaves its records alone: a call it records asks
for the count its rule gives for the count the pass took for current, and a call
that returns was made when the rule, as the pass had read it, was past its
cooldown.

From it follow when a call keeps to the bounds and the direction of its rule, and
how far apart the successful calls of one rule are.
-/
import Nixway.Scale.Autoscale

namespace Nixway.Scale

open Nixway.Theory Nixway.Store
open Nixway.Theory.Prog (query exec atomic)

set_option autoImplicit false

/-! ## What a pass may do -/

/-- The call asks for the count its rule gives, which is another one than the pass
took for current. -/
def Rightful (call : ScaleCall) : Prop :=
  call.requested = autoscaleTarget call.current call.rule ∧ call.requested ≠ call.current

def ScaleCall.cooldown (call : ScaleCall) : Int :=
  Scale.cooldown call.rule call.current call.requested

/-- The call was made when the rule, as its pass had read it, was past the cooldown. -/
def Rested (call : ScaleCall) : Prop :=
  ∀ triggered, call.rule.lastTriggeredAt = some triggered →
    (triggered : Int) + ScaleCall.cooldown call ≤ call.calledAt

theorem cooled_of_not_coolingDown {rule : AutoscalingRule} {current target : Int32} {now : Nat}
    (cooled : coolingDown rule current target now = false) {triggered : Nat}
    (last : rule.lastTriggeredAt = some triggered) :
    (triggered : Int) + cooldown rule current target ≤ now := by
  rw [coolingDown, last] at cooled
  have apart := of_decide_eq_false cooled
  omega

/-- Others may let time pass. -/
def Later (s t : World) : Prop := s.now ≤ t.now

/-- A step of a pass, or of anything beside it. -/
structure Logged (s t : World) : Prop where
  clock : s.now ≤ t.now
  calls : t.scaleCalls = s.scaleCalls ∨ ∃ call, Rightful call ∧ t.scaleCalls = s.scaleCalls ++ [call]
  scaled : t.scaled = s.scaled ∨
    ∃ call, Rested call ∧ call.calledAt ≤ s.now ∧ t.scaled = s.scaled ++ [(call, s.now)]

/-- An effect that leaves the autoscaler's records alone and does not turn the clock
back. -/
def Quiet (effect : World → World) : Prop :=
  ∀ w, w.now ≤ (effect w).now ∧ (effect w).scaleCalls = w.scaleCalls ∧
    (effect w).scaled = w.scaled

theorem Quiet.logged {effect : World → World} (quiet : Quiet effect) (w : World) :
    Logged w (effect w) := by
  obtain ⟨clock, calls, scaled⟩ := quiet w
  exact ⟨clock, .inl calls, .inl scaled⟩

theorem later_refl (w : World) : Later w w := Nat.le_refl _

theorem logged_refl (w : World) : Logged w w := ⟨Nat.le_refl _, .inl rfl, .inl rfl⟩

/-- A program of quiet effects is safe beside anything, and time does not go back. -/
theorem quiet_safe {α : Type} {p : Prog World α} (quiet : p.Every Quiet) (w : World) :
    p.Safe Later Logged (fun _ t => w.now ≤ t.now) w := by
  refine Prog.Safe.of_every (fun s t since later => Nat.le_trans since later) ?_ (Nat.le_refl _)
  exact quiet.mono fun effect quiet s =>
    ⟨quiet.logged s, fun since => Nat.le_trans since (quiet s).1⟩

/-! ## The pass -/

section Pass

variable {triggerDeploy : UUID → UUID → UUID → Prog World (Except String Deployment)}
variable (quiet : ∀ appID envID buildID, (triggerDeploy appID envID buildID).Every Quiet)

/-- Its last statement records the call as returned, or fails and records nothing. -/
theorem recordScaling_safe {call : ScaleCall} (rested : Rested call) (current : App)
    (req : ScaleRequest) (strategy : PlacementStrategy) (envID : UUID)
    (deployment : Option Deployment) (message : String) {w : World} (made : call.calledAt ≤ w.now) :
    (recordScaling (fun w => { w with scaled := w.scaled ++ [(call, w.now)] }) current req strategy
      envID deployment message).Safe Later Logged (fun _ _ => True) w := by
  refine Prog.Safe.bind_atomic (fun t later => ?_) (fun t later => ?_)
  · simp only [World.createScalingEvent]
    split
    · next stored =>
      split at stored
      · cases stored
        exact ⟨Nat.le_refl _, .inl rfl, .inr ⟨call, rested, Nat.le_trans made later, rfl⟩⟩
      · cases stored
    · next failed =>
      split at failed
      · cases failed
      · cases failed
        exact logged_refl _
  · split
    · exact fun _ _ => trivial
    · exact fun _ _ => trivial

include quiet

theorem deployScaled_safe {call : ScaleCall} (rested : Rested call) (current : App)
    (req : ScaleRequest) (strategy : PlacementStrategy) (envID : UUID) {w : World}
    (made : call.calledAt ≤ w.now) :
    (deployScaled triggerDeploy (fun w => { w with scaled := w.scaled ++ [(call, w.now)] }) current
      req strategy envID).Safe Later Logged (fun _ _ => True) w := by
  refine Prog.Safe.bind_query logged_refl fun t later => ?_
  have made' : call.calledAt ≤ t.now := Nat.le_trans made later
  split
  · next lastHealthy _ =>
    refine Prog.Safe.bind later_refl (quiet_safe (quiet _ _ _) t) fun answer u after => ?_
    cases answer with
    | error err => exact fun _ _ => trivial
    | ok next =>
      exact recordScaling_safe rested current req strategy envID _ _ (Nat.le_trans made' after)
  · exact recordScaling_safe rested current req strategy envID _ _ made'

theorem scaleApp_safe {call : ScaleCall} (rested : Rested call) (current : App)
    (req : ScaleRequest) {w : World} (made : call.calledAt ≤ w.now) :
    (scaleApp triggerDeploy (fun w => { w with scaled := w.scaled ++ [(call, w.now)] }) current
      req).Safe Later Logged (fun _ _ => True) w := by
  unfold scaleApp
  split
  · exact fun _ _ => trivial
  dsimp only
  split
  · exact fun _ _ => trivial
  refine Prog.Safe.bind_atomic (fun t later => ⟨Nat.le_refl _, .inl rfl, .inl rfl⟩)
    fun t later => ?_
  split
  · refine Prog.Safe.bind_query logged_refl fun u later' => ?_
    split
    · exact fun _ _ => trivial
    · exact deployScaled_safe quiet rested current req _ _
        (Nat.le_trans made (Nat.le_trans later later'))
  · exact fun _ _ => trivial

/-- The call is recorded when it is made, and its rule has rested since the pass looked
at the clock. -/
theorem callScaleApp_safe {app : App} {rule : AutoscalingRule} (value : Double)
    (changes : autoscaleTarget app.replicas rule ≠ app.replicas) {w : World}
    (rested : coolingDown rule app.replicas (autoscaleTarget app.replicas rule) w.now = false) :
    (callScaleApp triggerDeploy app rule value (autoscaleTarget app.replicas rule)).Safe Later Logged
      (fun _ _ => True) w := by
  refine Prog.Safe.bind_atomic (fun t later => ?_) (fun t later => ?_)
  · exact ⟨Nat.le_refl _, .inr ⟨_, ⟨rfl, changes⟩, rfl⟩, .inl rfl⟩
  · dsimp only
    split
    · exact fun _ _ => trivial
    · refine scaleApp_safe quiet (fun triggered last => ?_) _ _ (Nat.le_refl _)
      have since : w.now ≤ t.now := later
      have cooled := cooled_of_not_coolingDown rested last
      show (triggered : Int) + cooldown rule app.replicas (autoscaleTarget app.replicas rule) ≤
        (t.now : Int)
      omega

theorem evaluateRule_safe (metrics : AverageMetrics) (app : App) (rule : AutoscalingRule)
    (w : World) :
    (evaluateRule triggerDeploy metrics app rule).Safe Later Logged (fun _ _ => True) w := by
  unfold evaluateRule
  dsimp only
  split
  · exact fun _ _ => trivial
  split
  · exact fun _ _ => trivial
  split
  · exact fun _ _ => trivial
  split
  · exact fun _ _ => trivial
  next changes =>
  refine Prog.Safe.bind_query logged_refl fun t later => ?_
  split
  · exact fun _ _ => trivial
  next rested =>
  refine Prog.Safe.bind later_refl
    (callScaleApp_safe quiet _ changes (Bool.eq_false_iff.mpr rested)) fun answer u _ => ?_
  cases answer with
  | error err => exact fun _ _ => trivial
  | ok event =>
    refine Prog.Safe.bind_exec (fun v later => ?_) fun v later => fun _ _ => trivial
    exact ⟨Nat.le_refl _, .inl rfl, .inl rfl⟩

theorem evaluateRules_safe (metrics : AverageMetrics) (app : App) (rules : List AutoscalingRule)
    (w : World) :
    (evaluateRules triggerDeploy metrics app rules).Safe Later Logged (fun _ _ => True) w := by
  induction rules generalizing app w with
  | nil => exact fun _ _ => trivial
  | cons rule rest ih =>
    refine Prog.Safe.bind later_refl (evaluateRule_safe quiet metrics app rule w) fun answer t _ => ?_
    exact Prog.Safe.bind later_refl (ih answer.1 t) fun results u _ => fun _ _ => trivial

/-- **What a pass does.** -/
theorem evaluateAutoscaling_safe (appID : UUID) (w : World) :
    (evaluateAutoscaling triggerDeploy appID).Safe Later Logged (fun _ _ => True) w := by
  refine Prog.Safe.bind_query logged_refl fun t _ => ?_
  split
  · refine Prog.Safe.bind_query logged_refl fun t _ => ?_
    refine Prog.Safe.bind_query logged_refl fun t _ => ?_
    exact Prog.Safe.bind later_refl (evaluateRules_safe quiet _ _ _ _) fun results u _ =>
      fun _ _ => trivial
  · exact fun _ _ => trivial

end Pass

/-! ## Passes beside each other -/

/-- A pass of the loop or of the endpoint. -/
def IsPass (triggerDeploy : UUID → UUID → UUID → Prog World (Except String Deployment))
    (p : Prog World PUnit) : Prop :=
  ∃ appID, p = evaluateAutoscaling triggerDeploy appID >>= fun _ => .done ⟨⟩

/-- Passes run beside programs that leave the records alone, and so does everything
that is started. -/
structure Evaluating (triggerDeploy : UUID → UUID → UUID → Prog World (Except String Deployment))
    (spawn : Spawn World) (c : Pool World) : Prop where
  deploys : ∀ appID envID buildID, (triggerDeploy appID envID buildID).Every Quiet
  threads : ∀ p ∈ c.threads, IsPass triggerDeploy p ∨ p.Every Quiet
  started : ∀ s t, ∀ p ∈ spawn s t, p.Every Quiet

section Runs

variable {triggerDeploy : UUID → UUID → UUID → Prog World (Except String Deployment)}
variable {spawn : Spawn World} {c : Pool World}

theorem Evaluating.allSafe (evaluating : Evaluating triggerDeploy spawn c) :
    c.AllSafe (fun _ => Later) fun _ => Logged := by
  intro i p found
  rcases evaluating.threads p (List.mem_of_getElem? found) with ⟨appID, rfl⟩ | quiet
  · exact Prog.Safe.bind later_refl (evaluateAutoscaling_safe evaluating.deploys appID c.store)
      fun _ _ _ => fun _ _ => trivial
  · exact (quiet_safe quiet c.store).weaken (fun _ _ step => step) fun _ _ _ => trivial

/-- What logged steps keep, under a condition on them, every such run keeps. -/
theorem Evaluating.run_keeps (evaluating : Evaluating triggerDeploy spawn c) {I : World → Prop}
    {C : World → World → Prop} (kept : ∀ s t, Logged s t → C s t → I s → I t)
    (start : I c.store) {schedule : List Nat} (along : c.Along spawn C schedule) :
    I (c.run spawn schedule).store := by
  refine Pool.safe_run (fun _ => later_refl) (fun _ _ _ _ first second => Nat.le_trans first second)
    (fun _ _ _ _ _ step => step.clock) ?_ (fun _ => kept) evaluating.allSafe start along
  intro _ _ s t _ p new
  exact (quiet_safe (evaluating.started s t p new) t).weaken (fun _ _ step => step)
    fun _ _ _ => trivial

end Runs

/-! ## Bounds and direction -/

/-- The call keeps to the bounds of its rule, and when the count was within them, to
the direction of the rule's action. -/
def Respects (call : ScaleCall) : Prop :=
  (call.rule.minReplicas ≤ call.requested ∧ call.requested ≤ call.rule.maxReplicas) ∧
    (call.rule.actionType ≠ .scaleTo →
      call.rule.minReplicas ≤ call.current → call.current ≤ call.rule.maxReplicas →
        (0 < call.rule.actionValue → call.current ≤ call.requested) ∧
          (call.rule.actionValue < 0 → call.requested ≤ call.current))

/-- The addition of the action to a count within the bounds stays within 32 bits. -/
def NoWrap (call : ScaleCall) : Prop :=
  call.rule.actionType ≠ .scaleTo →
    call.rule.minReplicas ≤ call.current → call.current ≤ call.rule.maxReplicas →
      -2 ^ 31 ≤ call.current.toInt + call.rule.actionValue.toInt ∧
        call.current.toInt + call.rule.actionValue.toInt < 2 ^ 31

/-- What the rule gives before its bounds are applied. -/
def unbounded (current : Int32) (rule : AutoscalingRule) : Int32 :=
  match rule.actionType with
  | .scaleTo => rule.actionValue
  | .scaleBy => current + rule.actionValue

/-- The clamp, on the integers the counts stand for. -/
theorem autoscaleTarget_cases (current : Int32) (rule : AutoscalingRule)
    (ordered : rule.minReplicas.toInt ≤ rule.maxReplicas.toInt) :
    (autoscaleTarget current rule = unbounded current rule ∧
        rule.minReplicas.toInt ≤ (unbounded current rule).toInt ∧
        (unbounded current rule).toInt ≤ rule.maxReplicas.toInt) ∨
      (autoscaleTarget current rule = rule.minReplicas ∧
        (unbounded current rule).toInt < rule.minReplicas.toInt) ∨
      (autoscaleTarget current rule = rule.maxReplicas ∧
        rule.maxReplicas.toInt < (unbounded current rule).toInt) := by
  have same : autoscaleTarget current rule =
      if rule.maxReplicas < (if unbounded current rule < rule.minReplicas then rule.minReplicas
          else unbounded current rule) then rule.maxReplicas
        else if unbounded current rule < rule.minReplicas then rule.minReplicas
          else unbounded current rule := rfl
  rw [same]
  by_cases below : unbounded current rule < rule.minReplicas
  · rw [if_pos below]
    rw [Int32.lt_iff_toInt_lt] at below
    have inside : ¬ rule.maxReplicas < rule.minReplicas := by
      rw [Int32.lt_iff_toInt_lt]
      omega
    rw [if_neg inside]
    exact .inr (.inl ⟨rfl, below⟩)
  · rw [if_neg below]
    rw [Int32.lt_iff_toInt_lt] at below
    by_cases above : rule.maxReplicas < unbounded current rule
    · rw [if_pos above]
      exact .inr (.inr ⟨rfl, Int32.lt_iff_toInt_lt.mp above⟩)
    · rw [if_neg above]
      rw [Int32.lt_iff_toInt_lt] at above
      exact .inl ⟨rfl, by omega, by omega⟩

/-- A wrapped sum lies on the other side of the count. -/
theorem toInt_add_wrap (a b : Int32) :
    ((a + b).toInt = a.toInt + b.toInt ∧ -2 ^ 31 ≤ a.toInt + b.toInt ∧ a.toInt + b.toInt < 2 ^ 31) ∨
      ((a + b).toInt = a.toInt + b.toInt - 2 ^ 32 ∧ 2 ^ 31 ≤ a.toInt + b.toInt) ∨
      ((a + b).toInt = a.toInt + b.toInt + 2 ^ 32 ∧ a.toInt + b.toInt < -2 ^ 31) := by
  have lowA := a.le_toInt
  have highA := a.toInt_lt
  have lowB := b.le_toInt
  have highB := b.toInt_lt
  rw [Int32.toInt_add, Int.bmod_def]
  split <;> omega

/-- A sum that stays within 32 bits moves with its action, a wrapped one against it. -/
theorem respects_iff_noWrap {call : ScaleCall} (rightful : Rightful call)
    (ordered : call.rule.minReplicas ≤ call.rule.maxReplicas) : Respects call ↔ NoWrap call := by
  obtain ⟨requested, changes⟩ := rightful
  have changes' : call.requested.toInt ≠ call.current.toInt := fun same =>
    changes (Int32.toInt_inj.mp same)
  rw [Int32.le_iff_toInt_le] at ordered
  have target := autoscaleTarget_cases call.current call.rule ordered
  rw [← requested] at target
  have zero : (0 : Int32).toInt = 0 := by decide
  simp only [Respects, NoWrap, Int32.le_iff_toInt_le, Int32.lt_iff_toInt_lt, zero]
  cases kind : call.rule.actionType with
  | scaleTo =>
    simp only [ne_eq, not_true_eq_false, IsEmpty.forall_iff, and_true, iff_true]
    rcases target with ⟨same, low, high⟩ | ⟨same, -⟩ | ⟨same, -⟩
    · rw [same]
      exact ⟨low, high⟩
    · rw [same]
      omega
    · rw [same]
      omega
  | scaleBy =>
    simp only [ne_eq, reduceCtorEq, not_false_eq_true, forall_const]
    have sum := toInt_add_wrap call.current call.rule.actionValue
    have low := call.current.le_toInt
    have high := call.current.toInt_lt
    have lowAction := call.rule.actionValue.le_toInt
    have highAction := call.rule.actionValue.toInt_lt
    simp only [unbounded, kind] at target
    rcases target with ⟨same, above, below⟩ | ⟨same, below⟩ | ⟨same, above⟩
    · rw [same] at changes' ⊢
      omega
    · rw [same] at changes' ⊢
      omega
    · rw [same] at changes' ⊢
      omega

/-- **A call keeps to its rule exactly when the addition does not wrap.** -/
theorem autoscale_respects_iff
    {triggerDeploy : UUID → UUID → UUID → Prog World (Except String Deployment)}
    {spawn : Spawn World} {c : Pool World} (evaluating : Evaluating triggerDeploy spawn c)
    (start : c.store.scaleCalls = []) (schedule : List Nat) {call : ScaleCall}
    (made : call ∈ (c.run spawn schedule).store.scaleCalls)
    (ordered : call.rule.minReplicas ≤ call.rule.maxReplicas) : Respects call ↔ NoWrap call := by
  have rightful : ∀ call ∈ (c.run spawn schedule).store.scaleCalls, Rightful call := by
    refine evaluating.run_keeps (I := fun w => ∀ call ∈ w.scaleCalls, Rightful call)
      (C := fun _ _ => True) ?_ ?_ (Pool.along_true c schedule)
    · intro s t step _ before call mem
      rcases step.calls with same | ⟨new, rightful, added⟩
      · exact before call (same ▸ mem)
      · rw [added] at mem
        rcases List.mem_append.mp mem with old | last
        · exact before call old
        · exact List.mem_singleton.mp last ▸ rightful
    · intro call mem
      rw [start] at mem
      cases mem
  exact respects_iff_noWrap (rightful call made) ordered

instance (call : ScaleCall) : Decidable (Respects call) := inferInstanceAs (Decidable (_ ∧ _))

instance (call : ScaleCall) : Decidable (NoWrap call) := inferInstanceAs (Decidable (_ → _))

section OneApp

/-- An app with two replicas at 90 % CPU and one rule above 50 %. -/
def busyApp (actionValue : Int32) (now : Nat) : World :=
  { now := now
    apps := ⟨[{ id := 1, projectID := 2, name := "web", slug := "web", replicas := 2 }], by decide⟩
    environments := ⟨[⟨3, 2, "Production", "production", true⟩], by decide⟩
    rules := ⟨[{ id := 4, appID := 1, threshold := .finite 50, actionValue := actionValue }],
      List.nodup_singleton _⟩
    averageMetrics := fun _ => { cpuPercent := .finite 90, sampleCount := 1 } }

/-- The app has no healthy build in production, so no deploy is triggered. -/
def noBuild : UUID → UUID → UUID → Prog World (Except String Deployment) :=
  fun _ _ _ => .done (.error "get build")

def passes (n : Nat) (w : World) : Pool World :=
  ⟨w, List.replicate n (evaluateAutoscaling noBuild 1 >>= fun _ => .done ⟨⟩)⟩

theorem passes_evaluating (n : Nat) (w : World) :
    Evaluating noBuild Pool.noSpawn (passes n w) where
  deploys _ _ _ := Prog.every_done _
  threads _ mem := .inl ⟨1, (List.mem_replicate.mp mem).2⟩
  started _ _ _ mem := nomatch mem

/-- **A rule that adds replicas removes one**: 2 + 2147483647 wraps below the bounds. -/
theorem scale_up_wraps_down :
    ∃ call ∈ ((passes 1 (busyApp 2147483647 0)).run Pool.noSpawn (List.replicate 9 0)).store.scaleCalls,
      call.rule.minReplicas ≤ call.rule.maxReplicas ∧ call.requested = 1 ∧ ¬ Respects call := by
  refine ⟨⟨{ id := 4, appID := 1, threshold := .finite 50, actionValue := 2147483647 }, 2, 1, 0⟩,
    ?_, ?_⟩
  · decide +kernel
  · decide

theorem scale_up_by_one :
    Respects ⟨{ id := 4, appID := 1, threshold := .finite 50 }, 2, 3, 0⟩ := by
  refine (autoscale_respects_iff (passes_evaluating 1 (busyApp 1 0)) rfl (List.replicate 9 0)
    ?_ (by decide)).mpr (by decide)
  decide +kernel

end OneApp

end Nixway.Scale
