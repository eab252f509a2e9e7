/-
# Observability.Alerts -- the evaluation of alert rules

`EvaluateAlerts`, `evaluateRule` and `nextAlertState` of `internal/observability/service.go`,
with each SQL statement and each reading of the clock as one atomic step.  The requests to
the channels of one notification are one step.

The state of a rule is stored beside the time it last changed.  `alert_state_iff` says what
that pair remembers of the evaluations: a rule fires exactly when the run of breached
evaluations that ends with the last one began at least the duration ago.  The invariant is
`Remembers`: while the rule is pending, the stored time is the one the run began at.
-/
import Nixway.Store.Schema
import Nixway.Theory.Prog
import Mathlib.Data.List.Induction
import Mathlib.Data.List.Sort

namespace Nixway.Observability

open Nixway.Theory Nixway.Store
open Nixway.Theory.Prog (query exec atomic forEach ignore)

set_option autoImplicit false

/-! ## Rows -/

/-- `alert_rules.last_state`. -/
inductive AlertState where
  | ok | pending | firing | resolved
deriving DecidableEq

/-- `alert_rules.scope_type`. -/
inductive ScopeType where
  | server | container | project | cluster | app
deriving DecidableEq

structure AlertRule where
  id : UUID
  teamID : UUID := 0
  scopeType : ScopeType := .server
  scopeID : UUID := 0
  name : String := ""
  metricName : String := ""
  comparison : Comparison := .gt
  threshold : Double
  durationSeconds : Int32 := 300
  enabled : Bool := true
  notificationChannels : List UUID := []
  lastState : AlertState := .ok
  lastValue : Option Double := none
  lastEvaluatedAt : Option Int := none
  stateChangedAt : Option Int := none
  createdAt : Int := 0
deriving DecidableEq

instance : Keyed AlertRule UUID := ⟨AlertRule.id⟩

/-- `notification_channels`, with the columns the selection reads. -/
structure NotificationChannel where
  id : UUID
  teamID : UUID := 0

instance : Keyed NotificationChannel UUID := ⟨NotificationChannel.id⟩

/-- The sample `GetLatestMetricSample` answers. -/
structure Sample where
  value : Double
  sampledAt : Int

structure AlertEvent where
  ruleID : UUID
  teamID : UUID
  scopeType : ScopeType
  scopeID : UUID
  state : AlertState
  metricValue : Double
  threshold : Double
  notifiedAt : Option Int

/-- What is posted to the channels of a rule. -/
structure Notification where
  ruleID : UUID
  state : AlertState
  value : Double
  threshold : Double
  channels : List UUID

/-- The store of the evaluator, with the notifications it has sent. -/
structure Board where
  now : Int := 0
  rules : Table AlertRule := .empty
  channels : Table NotificationChannel := .empty
  /-- What `GetLatestMetricSample` answers now. -/
  latest : ScopeType → UUID → String → Option Sample := fun _ _ _ => none
  /-- What `IsAlertSilenced` answers for a rule now. -/
  silenced : UUID → Bool := fun _ => false
  notifications : List Notification := []
  events : List AlertEvent := []

namespace Board

abbrev getAlertRule (b : Board) (id : UUID) : Option AlertRule := b.rules.find? id

def listEnabledAlertRules (b : Board) : List AlertRule :=
  (b.rules.rows.filter AlertRule.enabled).insertionSort fun a b => a.createdAt ≤ b.createdAt

def latestFor (b : Board) (rule : AlertRule) : Option Sample :=
  b.latest rule.scopeType rule.scopeID rule.metricName

/-- The row `UpdateAlertRuleState` leaves. -/
def stateRow (now : Int) (state : AlertState) (value : Double) (rule : AlertRule) : AlertRule :=
  { rule with
    lastState := state
    lastValue := some value
    lastEvaluatedAt := some now
    stateChangedAt := if rule.lastState ≠ state then some now else rule.stateChangedAt }

theorem key_stateRow (now : Int) (state : AlertState) (value : Double) (rule : AlertRule) :
    Keyed.key (stateRow now state value rule) = Keyed.key rule := rfl

/-- `UpdateAlertRuleState`; a missing row is an error. -/
def updateAlertRuleState (b : Board) (id : UUID) (state : AlertState) (value : Double) :
    Board × Option AlertRule :=
  let rules := b.rules.update id (stateRow b.now state value) (key_stateRow b.now state value)
  ({ b with rules := rules }, rules.find? id)

def listNotificationChannelsByIDs (b : Board) (teamID : UUID) (ids : List UUID) :
    List NotificationChannel :=
  b.channels.rows.filter fun channel => channel.teamID = teamID ∧ channel.id ∈ ids

end Board

/-! ## evaluateRule -/

/-- Five minutes stand for a duration that is not positive. -/
def effectiveDuration (rule : AlertRule) : Int :=
  let duration := rule.durationSeconds.toInt * 1000000000
  if duration ≤ 0 then 5 * 60 * 1000000000 else duration

def compare (value threshold : Double) : Comparison → Bool
  | .gt => threshold.lt value
  | .gte => threshold.le value
  | .lt => value.lt threshold
  | .lte => value.le threshold

def nextAlertState (current : AlertState) (changedAt : Option Int) (breached : Bool)
    (duration now : Int) : AlertState :=
  match breached, current with
  | true, .pending =>
    match changedAt with
    | some changedAt => if duration ≤ now - changedAt then .firing else .pending
    | none => .pending
  | true, .firing => .firing
  | true, _ => .pending
  | false, .pending => .resolved
  | false, .firing => .resolved
  | false, _ => .ok

def notify (rule : AlertRule) (value : Double) : Prog Board Unit := do
  if rule.notificationChannels = [] then
    return ()
  let channels ← query fun b =>
    b.listNotificationChannelsByIDs rule.teamID rule.notificationChannels
  exec fun b =>
    { b with notifications := b.notifications ++
        [{ ruleID := rule.id, state := rule.lastState, value := value,
           threshold := rule.threshold, channels := channels.map NotificationChannel.id }] }

def createAlertEvent (rule : AlertRule) (state : AlertState) (value : Double)
    (notifiedAt : Option Int) : Prog Board Unit :=
  exec fun b =>
    { b with events := b.events ++
        [{ ruleID := rule.id, teamID := rule.teamID, scopeType := rule.scopeType,
           scopeID := rule.scopeID, state := state, metricValue := value,
           threshold := rule.threshold, notifiedAt := notifiedAt }] }

/-- After the state is written: a change is told, unless it is silenced, and recorded. -/
def announce (rule updated : AlertRule) (next : AlertState) (value : Double) : Prog Board Unit := do
  if next = .firing ∨ next = .resolved then
    let silenced ← query fun b => b.silenced rule.id
    if silenced then
      createAlertEvent rule next value none
    else
      notify updated value
      let now ← query Board.now
      createAlertEvent rule next value (some now)
  else
    createAlertEvent rule next value none

def evaluateRule (rule : AlertRule) : Prog Board Unit := do
  let some latest ← query fun b => b.latestFor rule
    | return ()
  let now ← query Board.now
  if latest.sampledAt < now - 2 * effectiveDuration rule then
    return ()
  let now ← query Board.now
  let next := nextAlertState rule.lastState rule.stateChangedAt
    (compare latest.value rule.threshold rule.comparison) (effectiveDuration rule) now
  let some updated ← atomic fun b => b.updateAlertRuleState rule.id next latest.value
    | return ()
  if next = rule.lastState ∨ next = .ok then
    return ()
  announce rule updated next latest.value

def evaluateAlerts : Prog Board Unit := do
  let rules ← query Board.listEnabledAlertRules
  forEach rules evaluateRule

/-! ## What an evaluation does to its rule -/

theorem announce_every {P : (Board → Board) → Prop} (rule updated : AlertRule) (next : AlertState)
    (value : Double) (untouched : ∀ effect : Board → Board,
      (∀ b, (effect b).rules = b.rules) → P effect) : (announce rule updated next value).Every P := by
  have event : ∀ notifiedAt, (createAlertEvent rule next value notifiedAt).Every P :=
    fun notifiedAt => (Prog.every_exec _).mpr (untouched _ fun b => rfl)
  have reads : P id := untouched id fun b => rfl
  unfold announce
  split
  · refine Prog.Every.bind ((Prog.every_query _).mpr reads) fun silenced => ?_
    cases silenced with
    | true => exact event none
    | false =>
      refine Prog.Every.bind ?_ fun _ =>
        Prog.Every.bind ((Prog.every_query _).mpr reads) fun now => event (some now)
      unfold notify
      split
      · trivial
      · refine Prog.Every.bind ((Prog.every_query _).mpr reads) fun channels => ?_
        exact (Prog.every_exec _).mpr (untouched _ fun b => rfl)
  · exact event none

/-- The sample of the rule is there and recent enough. -/
def Fresh (rule : AlertRule) (b : Board) : Prop :=
  (b.latestFor rule).any fun sample => ¬ sample.sampledAt < b.now - 2 * effectiveDuration rule

/-- The sample of the rule breaches its threshold. -/
def breached (rule : AlertRule) (b : Board) : Bool :=
  (b.latestFor rule).any fun sample => compare sample.value rule.threshold rule.comparison

/-- The state an evaluation gives the rule. -/
def verdict (rule : AlertRule) (b : Board) : AlertState :=
  nextAlertState rule.lastState rule.stateChangedAt (breached rule b) (effectiveDuration rule) b.now

/-- **What one evaluation does.**  On a fresh sample the row gets the next state, and the time
if that is another one. -/
theorem evaluateRule_row {b : Board} {rule : AlertRule} (found : b.getAlertRule rule.id = some rule)
    (fresh : Fresh rule b) :
    ∃ value, ((evaluateRule rule).out b).getAlertRule rule.id =
      some (Board.stateRow b.now (verdict rule b) value rule) := by
  unfold Fresh at fresh
  unfold verdict breached
  cases sample : b.latestFor rule with
  | none => rw [sample] at fresh; cases fresh
  | some latest =>
    rw [sample] at fresh
    simp only [Option.any_some, decide_eq_true_eq] at fresh ⊢
    refine ⟨latest.value, ?_⟩
    simp only [evaluateRule, Prog.out, Prog.run_query_bind, sample, if_neg fresh,
      Prog.run_atomic_bind]
    generalize nextAlertState rule.lastState rule.stateChangedAt
      (compare latest.value rule.threshold rule.comparison) (effectiveDuration rule) b.now = next
    have written : (b.updateAlertRuleState rule.id next latest.value).1.getAlertRule rule.id =
        some (Board.stateRow b.now next latest.value rule) := by
      show (b.rules.update rule.id (Board.stateRow b.now next latest.value)
        (Board.key_stateRow b.now next latest.value)).find? rule.id = _
      rw [Table.find?_update_self, show b.rules.find? rule.id = some rule from found]
      rfl
    have answer : (b.updateAlertRuleState rule.id next latest.value).2 =
        some (Board.stateRow b.now next latest.value rule) := written
    rw [answer]
    dsimp only
    split
    · exact written
    · rw [← written]
      exact Prog.Every.run_unchanged (fun b : Board => b.getAlertRule rule.id)
        (announce_every rule _ next latest.value fun effect same b => by
          rw [Board.getAlertRule, same b]) _

/-! ## Evaluations one after another -/

/-- What an evaluation finds beside the rules: the clock and the samples. -/
structure Evaluation where
  time : Int
  latest : ScopeType → UUID → String → Option Sample

def Evaluation.board (e : Evaluation) (b : Board) : Board :=
  { b with now := e.time, latest := e.latest }

def evaluate (id : UUID) : Prog Board Unit := do
  let some rule ← query fun b => b.getAlertRule id
    | return ()
  evaluateRule rule

def evaluateAll (id : UUID) (b : Board) (evaluations : List Evaluation) : Board :=
  evaluations.foldl (fun b e => (evaluate id).out (e.board b)) b

theorem evaluateAll_concat (id : UUID) (b : Board) (earlier : List Evaluation) (last : Evaluation) :
    evaluateAll id b (earlier ++ [last]) =
      (evaluate id).out (last.board (evaluateAll id b earlier)) := by
  rw [evaluateAll, List.foldl_append]
  rfl

/-- Two rows with the same settings. -/
structure SameSettings (rule row : AlertRule) : Prop where
  id : row.id = rule.id
  scopeType : row.scopeType = rule.scopeType
  scopeID : row.scopeID = rule.scopeID
  metricName : row.metricName = rule.metricName
  comparison : row.comparison = rule.comparison
  threshold : row.threshold = rule.threshold
  durationSeconds : row.durationSeconds = rule.durationSeconds

section Histories

variable (rule : AlertRule)

/-- The flag of an evaluation: the sample it finds breaches the threshold. -/
def Evaluation.breached (e : Evaluation) : Bool := Observability.breached rule (e.board {})

def Evaluation.Fresh (e : Evaluation) : Prop := Observability.Fresh rule (e.board {})

instance (e : Evaluation) : Decidable (e.Fresh rule) := inferInstanceAs (Decidable (_ = true))

/-- The run of breached evaluations that ends with the last one, newest first. -/
def breachRun (evaluations : List Evaluation) : List Evaluation :=
  evaluations.reverse.takeWhile (Evaluation.breached rule)

/-- When that run began; none if the last evaluation is not breached. -/
def breachStart (evaluations : List Evaluation) : Option Int :=
  (breachRun rule evaluations).getLast?.map Evaluation.time

variable {rule}

theorem breachStart_concat (earlier : List Evaluation) (last : Evaluation) :
    breachStart rule (earlier ++ [last]) =
      if last.breached rule then some ((breachStart rule earlier).getD last.time) else none := by
  unfold breachStart breachRun
  rw [List.reverse_concat, List.takeWhile_cons]
  split
  · cases started : (List.takeWhile (Evaluation.breached rule) earlier.reverse).getLast? with
    | none =>
      rw [List.getLast?_eq_none_iff.mp started]
      rfl
    | some first => rw [List.getLast?_cons, started]; rfl
  · rfl

theorem effectiveDuration_pos (rule : AlertRule) : 0 < effectiveDuration rule := by
  unfold effectiveDuration
  dsimp only
  split <;> omega

/-- **The invariant.**  What a row remembers of the evaluations so far: whether a run of
breached ones is under way, and while it is pending, when that began. -/
structure Remembers (rule : AlertRule) (evaluations : List Evaluation) (row : AlertRule) : Prop where
  settings : SameSettings rule row
  quiet : breachStart rule evaluations = none → row.lastState = .ok ∨ row.lastState = .resolved
  breach : ∀ start, breachStart rule evaluations = some start →
    ∃ last, evaluations.getLast? = some last ∧ start ≤ last.time ∧
      (row.lastState = .pending ∧ row.stateChangedAt = some start ∧
          last.time - start < effectiveDuration rule ∨
        row.lastState = .firing ∧ effectiveDuration rule ≤ last.time - start)

theorem SameSettings.verdict {row : AlertRule} (same : SameSettings rule row) (e : Evaluation)
    (b : Board) :
    verdict row (e.board b) = nextAlertState row.lastState row.stateChangedAt (e.breached rule)
      (effectiveDuration rule) e.time := by
  unfold Observability.verdict Evaluation.breached Observability.breached Board.latestFor
    effectiveDuration
  rw [same.scopeType, same.scopeID, same.metricName, same.comparison, same.threshold,
    same.durationSeconds]
  rfl

theorem SameSettings.fresh {row : AlertRule} (same : SameSettings rule row) {e : Evaluation}
    (fresh : e.Fresh rule) (b : Board) : Fresh row (e.board b) := by
  unfold Evaluation.Fresh Observability.Fresh Board.latestFor effectiveDuration at *
  rw [same.scopeType, same.scopeID, same.metricName, same.durationSeconds]
  exact fresh

/-- One evaluation keeps it, at a time that is not earlier. -/
theorem Remembers.concat {earlier : List Evaluation} {row : AlertRule}
    (remembers : Remembers rule earlier row) {last : Evaluation}
    (later : ∀ e ∈ earlier, e.time ≤ last.time) (value : Double) (b : Board) :
    Remembers rule (earlier ++ [last])
      (Board.stateRow last.time (verdict row (last.board b)) value row) := by
  rw [remembers.settings.verdict]
  have positive := effectiveDuration_pos rule
  refine ⟨?_, ?_, ?_⟩
  · obtain ⟨id, scopeType, scopeID, metricName, comparison, threshold, duration⟩ :=
      remembers.settings
    exact ⟨id, scopeType, scopeID, metricName, comparison, threshold, duration⟩
  · intro ended
    rw [breachStart_concat] at ended
    cases flag : last.breached rule with
    | true => rw [flag] at ended; cases ended
    | false =>
      show nextAlertState row.lastState row.stateChangedAt false _ _ = .ok ∨
        nextAlertState row.lastState row.stateChangedAt false _ _ = .resolved
      cases row.lastState with
      | ok => exact .inl rfl
      | pending => exact .inr rfl
      | firing => exact .inr rfl
      | resolved => exact .inl rfl
  · intro start begun
    rw [breachStart_concat] at begun
    cases flag : last.breached rule with
    | false => rw [flag] at begun; cases begun
    | true =>
      rw [flag] at begun
      cases begun
      refine ⟨last, List.getLast?_concat, ?_⟩
      cases since : breachStart rule earlier with
      | none =>
        -- the run begins with this evaluation
        refine ⟨Int.le_refl _, .inl ?_⟩
        unfold Board.stateRow
        rcases remembers.quiet since with state | state
        · rw [state]
          exact ⟨rfl, rfl, by simpa using positive⟩
        · rw [state]
          exact ⟨rfl, rfl, by simpa using positive⟩
      | some start =>
        obtain ⟨before, ended, order, held⟩ := remembers.breach start since
        have advanced : before.time ≤ last.time := later before (List.mem_of_getLast? ended)
        refine ⟨Int.le_trans order advanced, ?_⟩
        unfold Board.stateRow
        rcases held with ⟨state, changed, short⟩ | ⟨state, long⟩
        · rw [state, changed]
          by_cases due : effectiveDuration rule ≤ last.time - start
          · refine .inr ⟨?_, due⟩
            simp only [nextAlertState, if_pos due]
          · refine .inl ⟨?_, ?_, Int.not_le.mp due⟩
            · simp only [nextAlertState, if_neg due]
            · simp only [nextAlertState, if_neg due]
              rfl
        · rw [state]
          refine .inr ⟨rfl, ?_⟩
          show effectiveDuration rule ≤ last.time - start
          omega

theorem evaluateAll_step {b : Board} {earlier : List Evaluation} {row : AlertRule}
    (stored : (evaluateAll rule.id b earlier).getAlertRule rule.id = some row)
    (same : SameSettings rule row) {last : Evaluation} (fresh : last.Fresh rule) :
    ∃ value, (evaluateAll rule.id b (earlier ++ [last])).getAlertRule rule.id =
      some (Board.stateRow last.time (verdict row (last.board (evaluateAll rule.id b earlier)))
        value row) := by
  have there : (last.board (evaluateAll rule.id b earlier)).getAlertRule row.id = some row := by
    rw [same.id]
    exact stored
  obtain ⟨value, after⟩ := evaluateRule_row there (same.fresh fresh _)
  rw [same.id] at there after
  refine ⟨value, ?_⟩
  rw [evaluateAll_concat]
  simp only [evaluate, Prog.out, Prog.run_query_bind]
  rw [there]
  exact after

/-- Along evaluations at nondecreasing times, on fresh samples, the row remembers them. -/
theorem remembers_evaluateAll {b : Board} (found : b.getAlertRule rule.id = some rule)
    (start : rule.lastState = .ok) {evaluations : List Evaluation}
    (times : evaluations.Pairwise fun e e' => e.time ≤ e'.time)
    (fresh : ∀ e ∈ evaluations, e.Fresh rule) :
    ∃ row, (evaluateAll rule.id b evaluations).getAlertRule rule.id = some row ∧
      Remembers rule evaluations row := by
  induction evaluations using List.reverseRecOn with
  | nil =>
    refine ⟨rule, found, ⟨rfl, rfl, rfl, rfl, rfl, rfl, rfl⟩, fun _ => .inl start, ?_⟩
    intro start begun
    cases begun
  | append_singleton earlier last ih =>
    obtain ⟨before, -, later⟩ := List.pairwise_append.mp times
    obtain ⟨row, stored, remembers⟩ := ih before fun e mem =>
      fresh e (List.mem_append_left _ mem)
    have recent := fresh last (List.mem_append_right _ List.mem_cons_self)
    obtain ⟨value, after⟩ := evaluateAll_step stored remembers.settings recent
    exact ⟨_, after, remembers.concat (fun e mem => later e mem last List.mem_cons_self) value _⟩

/-- What the row says about the run of breached evaluations. -/
theorem Remembers.firing_iff {earlier : List Evaluation} {last : Evaluation} {row : AlertRule}
    (remembers : Remembers rule (earlier ++ [last]) row) :
    row.lastState = .firing ↔ ∃ began, breachStart rule (earlier ++ [last]) = some began ∧
      effectiveDuration rule ≤ last.time - began := by
  constructor
  · intro firing
    cases since : breachStart rule (earlier ++ [last]) with
    | none =>
      rcases remembers.quiet since with state | state
      · rw [state] at firing; cases firing
      · rw [state] at firing; cases firing
    | some began =>
      obtain ⟨newest, ended, -, ⟨state, -⟩ | ⟨-, long⟩⟩ := remembers.breach began since
      · rw [state] at firing; cases firing
      · rw [List.getLast?_concat] at ended
        cases ended
        exact ⟨began, rfl, long⟩
  · rintro ⟨began, since, long⟩
    obtain ⟨newest, ended, -, ⟨-, -, short⟩ | ⟨state, -⟩⟩ := remembers.breach began since
    · rw [List.getLast?_concat] at ended
      cases ended
      omega
    · exact state

theorem Remembers.pending_iff {earlier : List Evaluation} {last : Evaluation} {row : AlertRule}
    (remembers : Remembers rule (earlier ++ [last]) row) :
    row.lastState = .pending ↔ ∃ began, breachStart rule (earlier ++ [last]) = some began ∧
      last.time - began < effectiveDuration rule := by
  constructor
  · intro pending
    cases since : breachStart rule (earlier ++ [last]) with
    | none =>
      rcases remembers.quiet since with state | state
      · rw [state] at pending; cases pending
      · rw [state] at pending; cases pending
    | some began =>
      obtain ⟨newest, ended, -, ⟨-, -, short⟩ | ⟨state, -⟩⟩ := remembers.breach began since
      · rw [List.getLast?_concat] at ended
        cases ended
        exact ⟨began, rfl, short⟩
      · rw [state] at pending; cases pending
  · rintro ⟨began, since, short⟩
    obtain ⟨newest, ended, -, ⟨state, -⟩ | ⟨-, long⟩⟩ := remembers.breach began since
    · exact state
    · rw [List.getLast?_concat] at ended
      cases ended
      omega

end Histories

section Clear

variable (current : AlertState) (changedAt : Option Int) (breached : Bool) (duration now : Int)

/-- What was pending or firing is resolved when the breach is over. -/
theorem nextAlertState_resolved_iff :
    nextAlertState current changedAt breached duration now = .resolved ↔
      breached = false ∧ (current = .pending ∨ current = .firing) := by
  cases breached with
  | false => cases current <;> simp [nextAlertState]
  | true =>
    cases current with
    | pending =>
      cases changedAt with
      | none => simp [nextAlertState]
      | some changed => simp only [nextAlertState]; split <;> simp
    | ok => simp [nextAlertState]
    | firing => simp [nextAlertState]
    | resolved => simp [nextAlertState]

theorem nextAlertState_ok_iff :
    nextAlertState current changedAt breached duration now = .ok ↔
      breached = false ∧ current ≠ .pending ∧ current ≠ .firing := by
  cases breached with
  | false => cases current <;> simp [nextAlertState]
  | true =>
    cases current with
    | pending =>
      cases changedAt with
      | none => simp [nextAlertState]
      | some changed => simp only [nextAlertState]; split <;> simp
    | ok => simp [nextAlertState]
    | firing => simp [nextAlertState]
    | resolved => simp [nextAlertState]

end Clear

/-- **When an alert fires.**  For a rule that starts in 'ok', along evaluations at
nondecreasing times with fresh samples: the state after the last one. -/
theorem alert_state_iff {b : Board} {rule : AlertRule} (found : b.getAlertRule rule.id = some rule)
    (start : rule.lastState = .ok) {earlier : List Evaluation} {last : Evaluation}
    (times : (earlier ++ [last]).Pairwise fun e e' => e.time ≤ e'.time)
    (fresh : ∀ e ∈ earlier ++ [last], e.Fresh rule) :
    ∃ previous row, (evaluateAll rule.id b earlier).getAlertRule rule.id = some previous ∧
      (evaluateAll rule.id b (earlier ++ [last])).getAlertRule rule.id = some row ∧
      (row.lastState = .firing ↔ ∃ began, breachStart rule (earlier ++ [last]) = some began ∧
        effectiveDuration rule ≤ last.time - began) ∧
      (row.lastState = .pending ↔ ∃ began, breachStart rule (earlier ++ [last]) = some began ∧
        last.time - began < effectiveDuration rule) ∧
      (row.lastState = .resolved ↔ last.breached rule = false ∧
        (previous.lastState = .pending ∨ previous.lastState = .firing)) ∧
      (row.lastState = .ok ↔ last.breached rule = false ∧
        previous.lastState ≠ .pending ∧ previous.lastState ≠ .firing) := by
  obtain ⟨before, -, later⟩ := List.pairwise_append.mp times
  obtain ⟨previous, stored, remembers⟩ := remembers_evaluateAll found start before fun e mem =>
    fresh e (List.mem_append_left _ mem)
  have recent := fresh last (List.mem_append_right _ List.mem_cons_self)
  obtain ⟨value, after⟩ := evaluateAll_step stored remembers.settings recent
  have remembered := remembers.concat (fun e mem => later e mem last List.mem_cons_self) value
    (evaluateAll rule.id b earlier)
  refine ⟨previous, _, stored, after, remembered.firing_iff, remembered.pending_iff, ?_, ?_⟩
  · show verdict previous _ = .resolved ↔ _
    rw [remembers.settings.verdict]
    exact nextAlertState_resolved_iff _ _ _ _ _
  · show verdict previous _ = .ok ↔ _
    rw [remembers.settings.verdict]
    exact nextAlertState_ok_iff _ _ _ _ _

/-! ## A rule that fires -/

/-- A rule with a duration of ten seconds, over ninety percent. -/
def hotServer : AlertRule := { id := 1, threshold := .finite 90, durationSeconds := 10 }

/-- An evaluation at a second that finds a fresh sample. -/
def reading (second : Int) (value : Rat) : Evaluation :=
  { time := second * 1000000000
    latest := fun _ _ _ => some ⟨.finite value, second * 1000000000⟩ }

/-- Breached at 30 s and at 40 s, after a clear evaluation at 0 s: the alert fires. -/
theorem hotServer_fires :
    ((evaluateAll 1 { rules := ⟨[hotServer], by decide⟩ }
        [reading 0 50, reading 30 95, reading 40 95]).getAlertRule 1).map AlertRule.lastState =
      some .firing := by
  obtain ⟨previous, row, -, after, firing, -⟩ := @alert_state_iff
    { rules := ⟨[hotServer], by decide⟩ } hotServer rfl rfl
    [reading 0 50, reading 30 95] (reading 40 95) (by decide) (by decide)
  exact (congrArg (Option.map AlertRule.lastState) after).trans
    (congrArg some (firing.mpr ⟨30 * 1000000000, by decide, by decide⟩))

end Nixway.Observability
