/-
# Observability.Notifications -- what the channels of a rule are told

Passes of `EvaluateAlerts` overlap: the loop of `StartAlertEvaluator` and the requests to
`alerts/evaluate` run the same program, and samples arrive beside them.  A pass decides on the
row it read at its start, writes the new state whatever the row holds by then, and tells the
channels some statements later.

The channels should hear 'firing' and 'resolved' in turn.  `told_alternate` gives the runs in
which they do.  The state of the rule and the number of notifications sent are out of step
exactly while one pass is between its write and its notification; that is the invariant
`Paired`.  `short_breach_told` is an ordinary run in which they do not: a breach that is over
before it fires is told as resolved.
-/
import Nixway.Observability.Alerts
import Nixway.Theory.Pool

namespace Nixway.Observability

open Nixway.Theory Nixway.Store
open Nixway.Theory.Prog (query exec atomic forEach)

set_option autoImplicit false

/-! ## A pass, step by step -/

/-- The state a pass gives the rule, from the row it read and what it found since. -/
def nextOf (rule : AlertRule) (latest : Sample) (now : Int) : AlertState :=
  nextAlertState rule.lastState rule.stateChangedAt
    (compare latest.value rule.threshold rule.comparison) (effectiveDuration rule) now

/-- Where a pass stands; `rest` are the rules it has still to look at. -/
inductive Point where
  | list
  | sample (rule : AlertRule) (rest : List AlertRule)
  | recent (rule : AlertRule) (rest : List AlertRule) (latest : Sample)
  | clock (rule : AlertRule) (rest : List AlertRule) (latest : Sample)
  | write (rule : AlertRule) (rest : List AlertRule) (latest : Sample) (now : Int)
  | silence (rule updated : AlertRule) (rest : List AlertRule) (next : AlertState) (value : Double)
  | channels (rule updated : AlertRule) (rest : List AlertRule) (next : AlertState) (value : Double)
  | send (rule updated : AlertRule) (rest : List AlertRule) (next : AlertState) (value : Double)
      (targets : List NotificationChannel)
  | stamp (rule : AlertRule) (rest : List AlertRule) (next : AlertState) (value : Double)
  | event (rule : AlertRule) (rest : List AlertRule) (next : AlertState) (value : Double)
      (notifiedAt : Option Int)
  | halt

namespace Point

/-- The loop over the rules. -/
def enter : List AlertRule → Point
  | [] => .halt
  | rule :: rest => .sample rule rest

/-- After the write: what is not a change, or is 'ok', ends the evaluation of the rule. -/
def written (rule : AlertRule) (rest : List AlertRule) (next : AlertState) (value : Double) :
    Option AlertRule → Point
  | none => enter rest
  | some updated =>
    if next = rule.lastState ∨ next = .ok then enter rest
    else if next = .firing ∨ next = .resolved then .silence rule updated rest next value
    else .event rule rest next value none

/-- After the question about silences. -/
def heard (rule updated : AlertRule) (rest : List AlertRule) (next : AlertState) (value : Double)
    (silenced : Bool) : Point :=
  if silenced then .event rule rest next value none
  else if updated.notificationChannels = [] then .stamp rule rest next value
  else .channels rule updated rest next value

def act : Point → Option ((Board → Board) × (Board → Point))
  | .list => some (id, fun b => enter b.listEnabledAlertRules)
  | .sample rule rest => some (id, fun b =>
    match b.latestFor rule with
    | none => enter rest
    | some latest => .recent rule rest latest)
  | .recent rule rest latest => some (id, fun b =>
    if latest.sampledAt < b.now - 2 * effectiveDuration rule then enter rest
    else .clock rule rest latest)
  | .clock rule rest latest => some (id, fun b => .write rule rest latest b.now)
  | .write rule rest latest now => some (
      fun b => (b.updateAlertRuleState rule.id (nextOf rule latest now) latest.value).1,
      fun b => written rule rest (nextOf rule latest now) latest.value
        (b.updateAlertRuleState rule.id (nextOf rule latest now) latest.value).2)
  | .silence rule updated rest next value => some (id, fun b =>
    heard rule updated rest next value (b.silenced rule.id))
  | .channels rule updated rest next value => some (id, fun b =>
    .send rule updated rest next value
      (b.listNotificationChannelsByIDs updated.teamID updated.notificationChannels))
  | .send rule updated rest next value targets => some (
      fun b => { b with notifications := b.notifications ++
        [{ ruleID := updated.id, state := updated.lastState, value := value,
           threshold := updated.threshold, channels := targets.map NotificationChannel.id }] },
      fun _ => .stamp rule rest next value)
  | .stamp rule rest next value => some (id, fun b => .event rule rest next value (some b.now))
  | .event rule rest next value notifiedAt => some (
      fun b => { b with events := b.events ++
        [{ ruleID := rule.id, teamID := rule.teamID, scopeType := rule.scopeType,
           scopeID := rule.scopeID, state := next, metricValue := value,
           threshold := rule.threshold, notifiedAt := notifiedAt }] },
      fun _ => enter rest)
  | .halt => none

/-- What is left of the pass behind the evaluation of a rule. -/
def andRest (rest : List AlertRule) (p : Prog Board Unit) : Prog Board Unit :=
  p >>= fun _ => forEach rest evaluateRule

def code : Point → Prog Board Unit
  | .list => evaluateAlerts
  | .sample rule rest => andRest rest (evaluateRule rule)
  | .recent rule rest latest => andRest rest do
      let now ← query Board.now
      if latest.sampledAt < now - 2 * effectiveDuration rule then
        return ()
      let now ← query Board.now
      let next := nextOf rule latest now
      let some updated ← atomic fun b => b.updateAlertRuleState rule.id next latest.value
        | return ()
      if next = rule.lastState ∨ next = .ok then
        return ()
      announce rule updated next latest.value
  | .clock rule rest latest => andRest rest do
      let now ← query Board.now
      let next := nextOf rule latest now
      let some updated ← atomic fun b => b.updateAlertRuleState rule.id next latest.value
        | return ()
      if next = rule.lastState ∨ next = .ok then
        return ()
      announce rule updated next latest.value
  | .write rule rest latest now => andRest rest do
      let next := nextOf rule latest now
      let some updated ← atomic fun b => b.updateAlertRuleState rule.id next latest.value
        | return ()
      if next = rule.lastState ∨ next = .ok then
        return ()
      announce rule updated next latest.value
  | .silence rule updated rest next value => andRest rest do
      let silenced ← query fun b => b.silenced rule.id
      if silenced then
        createAlertEvent rule next value none
      else
        notify updated value
        let now ← query Board.now
        createAlertEvent rule next value (some now)
  | .channels rule updated rest next value => andRest rest do
      let channels ← query fun b =>
        b.listNotificationChannelsByIDs updated.teamID updated.notificationChannels
      exec fun b =>
        { b with notifications := b.notifications ++
            [{ ruleID := updated.id, state := updated.lastState, value := value,
               threshold := updated.threshold, channels := channels.map NotificationChannel.id }] }
      let now ← query Board.now
      createAlertEvent rule next value (some now)
  | .send rule updated rest next value targets => andRest rest do
      exec fun b =>
        { b with notifications := b.notifications ++
            [{ ruleID := updated.id, state := updated.lastState, value := value,
               threshold := updated.threshold, channels := targets.map NotificationChannel.id }] }
      let now ← query Board.now
      createAlertEvent rule next value (some now)
  | .stamp rule rest next value => andRest rest do
      let now ← query Board.now
      createAlertEvent rule next value (some now)
  | .event rule rest next value notifiedAt =>
    andRest rest (createAlertEvent rule next value notifiedAt)
  | .halt => .done ()

theorem code_enter (rules : List AlertRule) : (enter rules).code = forEach rules evaluateRule := by
  cases rules with
  | nil => rfl
  | cons rule rest => rfl

theorem code_written (rule : AlertRule) (rest : List AlertRule) (next : AlertState) (value : Double)
    (answer : Option AlertRule) :
    (written rule rest next value answer).code = andRest rest (match answer with
      | none => .done ()
      | some updated =>
        if next = rule.lastState ∨ next = .ok then .done ()
        else announce rule updated next value) := by
  cases answer with
  | none => exact code_enter rest
  | some updated =>
    unfold written
    by_cases ends : next = rule.lastState ∨ next = .ok
    · simp only [if_pos ends]
      exact code_enter rest
    · simp only [if_neg ends]
      unfold announce
      by_cases tells : next = .firing ∨ next = .resolved
      · simp only [if_pos tells]
        rfl
      · simp only [if_neg tells]
        rfl

/-- **The graph is `EvaluateAlerts`.** -/
theorem presents : (⟨act⟩ : Flow Board Point).Presents code where
  halted k here := by
    cases k with
    | halt => rfl
    | _ => cases here
  moves k effect next here := by
    cases k with
    | halt => cases here
    | list =>
      cases here
      exact Prog.step_congr fun b => (code_enter _).symm
    | sample rule rest =>
      cases here
      refine Prog.step_congr fun b => ?_
      dsimp only [Prog.bind]
      cases b.latestFor rule with
      | none => exact (code_enter rest).symm
      | some latest => rfl
    | recent rule rest latest =>
      cases here
      refine Prog.step_congr fun b => ?_
      dsimp only [Prog.bind]
      by_cases old : latest.sampledAt < b.now - 2 * effectiveDuration rule
      · simp only [if_pos old]
        exact (code_enter rest).symm
      · simp only [if_neg old]
        rfl
    | clock rule rest latest => cases here; rfl
    | write rule rest latest now =>
      cases here
      refine Prog.step_congr fun b => ?_
      rw [code_written]
      dsimp only [Prog.bind]
      cases (b.updateAlertRuleState rule.id (nextOf rule latest now) latest.value).2 with
      | none => rfl
      | some updated => rfl
    | silence rule updated rest next value =>
      cases here
      refine Prog.step_congr fun b => ?_
      dsimp only [heard, Prog.bind]
      cases b.silenced rule.id with
      | true => rfl
      | false =>
        unfold notify
        by_cases nobody : updated.notificationChannels = []
        · simp only [if_pos nobody]
          rfl
        · simp only [if_neg nobody]
          rfl
    | channels rule updated rest next value => cases here; rfl
    | send rule updated rest next value targets => cases here; rfl
    | stamp rule rest next value => cases here; rfl
    | event rule rest next value notifiedAt =>
      cases here
      exact Prog.step_congr fun b => (code_enter rest).symm

/-- The row of the change that is written and not yet told. -/
def untold : Point → Option AlertRule
  | .silence _ updated .. => some updated
  | .channels _ updated .. => some updated
  | .send _ updated .. => some updated
  | _ => none

def rows : Point → List AlertRule
  | .sample rule rest => rule :: rest
  | .recent rule rest _ => rule :: rest
  | .clock rule rest _ => rule :: rest
  | .write rule rest .. => rule :: rest
  | .silence rule updated rest .. => rule :: updated :: rest
  | .channels rule updated rest .. => rule :: updated :: rest
  | .send rule updated rest .. => rule :: updated :: rest
  | .stamp rule rest .. => rule :: rest
  | .event rule rest .. => rule :: rest
  | .list => []
  | .halt => []

end Point

/-- A thread of the evaluator: a pass, or a program beside the passes. -/
abbrev Thread := Point ⊕ Prog Board Unit

def evaluator : Flow Board Thread := Flow.beside ⟨Point.act⟩

/-- The change of a rule that a thread has written and not yet told. -/
def untoldOf (id : UUID) : Thread → Option AlertRule
  | .inl k => k.untold.filter fun updated => updated.id = id
  | .inr _ => none

/-- What the channels of a rule have been told, the oldest first. -/
def told (id : UUID) (b : Board) : List AlertState :=
  (b.notifications.filter fun n => n.ruleID = id ∧ n.channels ≠ []).map Notification.state

/-- 'firing', 'resolved', 'firing' and so on. -/
def Alternates (states : List AlertState) : Prop :=
  ∀ (i : Nat) (state : AlertState), states[i]? = some state →
    state = if i % 2 = 0 then .firing else .resolved

/-- The stored state of the rule is 'firing'. -/
def Fires (id : UUID) (b : Board) : Prop :=
  (b.getAlertRule id).map AlertRule.lastState = some .firing

instance (id : UUID) (b : Board) : Decidable (Fires id b) := inferInstanceAs (Decidable (_ = _))

/-! ## Steps that tell nothing -/

/-- A step that leaves the rule and what it is told alone. -/
structure Quiet (id : UUID) (effect : Board → Board) : Prop where
  row : ∀ b, (effect b).getAlertRule id = b.getAlertRule id
  channels : ∀ b, (effect b).channels = b.channels
  silenced : ∀ b, (effect b).silenced id = b.silenced id
  told : ∀ b, told id (effect b) = told id b

theorem Quiet.refl (id : UUID) : Quiet id fun b => b :=
  ⟨fun _ => rfl, fun _ => rfl, fun _ => rfl, fun _ => rfl⟩

theorem quiet_event (id : UUID) (event : AlertEvent) :
    Quiet id fun b => { b with events := b.events ++ [event] } :=
  ⟨fun _ => rfl, fun _ => rfl, fun _ => rfl, fun _ => rfl⟩

theorem quiet_write {id other : UUID} (ne : id ≠ other) (state : AlertState) (value : Double) :
    Quiet id fun b => (b.updateAlertRuleState other state value).1 := by
  refine ⟨fun b => ?_, fun _ => rfl, fun _ => rfl, fun _ => rfl⟩
  exact @Table.find?_update_ne _ _ _ _ _ _ (Board.key_stateRow b.now state value) _ _ ne

theorem told_append (id : UUID) (b : Board) (n : Notification) :
    told id { b with notifications := b.notifications ++ [n] } =
      told id b ++ if n.ruleID = id ∧ n.channels ≠ [] then [n.state] else [] := by
  unfold told
  rw [List.filter_append, List.map_append]
  by_cases sent : n.ruleID = id ∧ n.channels ≠ []
  · simp [sent]
  · simp [sent]

theorem quiet_send {id : UUID} {n : Notification} (other : n.ruleID ≠ id) :
    Quiet id fun b => { b with notifications := b.notifications ++ [n] } := by
  refine ⟨fun _ => rfl, fun _ => rfl, fun _ => rfl, fun b => ?_⟩
  rw [told_append]
  simp [other]

/-! ## The invariant -/

section Pairs

variable (rule : AlertRule)

/-- The rows of the rule go to the same channels. -/
def Routed (row : AlertRule) : Prop :=
  row.id = rule.id →
    row.teamID = rule.teamID ∧ row.notificationChannels = rule.notificationChannels

/-- What a pass knows of the rule. -/
structure Point.Valid (k : Point) : Prop where
  routed : ∀ row ∈ k.rows, Routed rule row
  change : ∀ updated, k.untold = some updated →
    updated.lastState = .firing ∨ updated.lastState = .resolved
  silence : ∀ row updated rest next value, k = .silence row updated rest next value →
    updated.id = row.id
  send : ∀ row updated rest next value targets, k = .send row updated rest next value targets →
    updated.id = rule.id → targets ≠ []

/-- Passes know the rule, and what runs beside them leaves it alone. -/
def Thread.Valid : Thread → Prop
  | .inl k => k.Valid rule
  | .inr p => p.Every (Quiet rule.id)

/-- **The invariant.**  The rule fires while an odd number of notifications has been sent,
unless one pass has a change still to tell. -/
structure Paired (c : Board × List Thread) : Prop where
  row : ∃ row, c.1.getAlertRule rule.id = some row ∧ Routed rule row
  reached : c.1.listNotificationChannelsByIDs rule.teamID rule.notificationChannels ≠ []
  heard : c.1.silenced rule.id = false
  valid : ∀ k ∈ c.2, Thread.Valid rule k
  alternates : Alternates (told rule.id c.1)
  one : c.2.countP (fun k => (untoldOf rule.id k).isSome) =
    if (Fires rule.id c.1 ↔ (told rule.id c.1).length % 2 = 1) then 0 else 1
  current : ∀ k ∈ c.2, ∀ updated, untoldOf rule.id k = some updated →
    (updated.lastState = .firing ↔ Fires rule.id c.1)

variable {rule}

theorem Alternates.concat {states : List AlertState} (alternates : Alternates states)
    {state : AlertState} (next : state = if states.length % 2 = 0 then .firing else .resolved) :
    Alternates (states ++ [state]) := by
  intro i found here
  rw [List.getElem?_append] at here
  split at here
  · exact alternates i found here
  · obtain ⟨bound, same⟩ := List.getElem?_eq_some_iff.mp here
    have last : i = states.length := by simp at bound; omega
    subst last
    simpa [← same] using next

theorem Paired.quiet {c : Board × List Thread} (paired : Paired rule c) {i : Nat} {k k' : Thread}
    (here : c.2[i]? = some k) {effect : Board → Board} (quiet : Quiet rule.id effect)
    (valid : Thread.Valid rule k') (same : untoldOf rule.id k' = untoldOf rule.id k) :
    Paired rule (effect c.1, c.2.set i k') := by
  have fires : Fires rule.id (effect c.1) ↔ Fires rule.id c.1 := by
    unfold Fires
    rw [quiet.row]
  refine ⟨?_, ?_, ?_, ?_, ?_, ?_, ?_⟩
  · simpa only [quiet.row] using paired.row
  · simpa only [Board.listNotificationChannelsByIDs, quiet.channels] using paired.reached
  · simpa only [quiet.silenced] using paired.heard
  · intro other member
    rcases List.mem_or_eq_of_mem_set member with old | rfl
    · exact paired.valid other old
    · exact valid
  · simpa only [quiet.told] using paired.alternates
  · have count := countP_set (fun k => (untoldOf rule.id k).isSome) here k'
    rw [same] at count
    dsimp only
    rw [quiet.told, if_congr (iff_congr fires Iff.rfl) rfl rfl, ← paired.one]
    omega
  · intro other member updated untold
    dsimp only at untold ⊢
    rw [fires]
    rcases List.mem_or_eq_of_mem_set member with old | rfl
    · exact paired.current other old updated untold
    · exact paired.current k (List.mem_of_getElem? here) updated (same ▸ untold)

theorem Point.Valid.of_rows {k : Point} (routed : ∀ row ∈ k.rows, Routed rule row)
    (calm : k.untold = none) : k.Valid rule := by
  refine ⟨routed, fun updated change => ?_, ?_, ?_⟩
  · rw [calm] at change; cases change
  · rintro row updated rest next value rfl; cases calm
  · rintro row updated rest next value targets rfl; cases calm

theorem Point.enter_untold (rest : List AlertRule) : (Point.enter rest).untold = none := by
  cases rest <;> rfl

theorem Point.enter_rows (rest : List AlertRule) : (Point.enter rest).rows = rest := by
  cases rest <;> rfl

theorem Point.Valid.enter {rest : List AlertRule} (routed : ∀ row ∈ rest, Routed rule row) :
    (Point.enter rest).Valid rule := by
  refine .of_rows ?_ (Point.enter_untold rest)
  rw [Point.enter_rows]
  exact routed

theorem Paired.listed {c : Board × List Thread} (paired : Paired rule c) :
    ∀ row ∈ c.1.listEnabledAlertRules, Routed rule row := by
  intro row member same
  have stored : row ∈ c.1.rules := by
    rw [Board.listEnabledAlertRules, List.mem_insertionSort] at member
    exact (List.mem_filter.mp member).1
  obtain ⟨found, there, routed⟩ := paired.row
  have key : c.1.rules.find? row.id = some row := Table.find?_self stored
  rw [same] at key
  cases there.symm.trans key
  exact routed same

/-! ## The write -/

/-- What the pass found breaches the threshold of the row it read. -/
def breaches (row : AlertRule) (latest : Sample) : Bool :=
  compare latest.value row.threshold row.comparison

/-- The write is a change that is told. -/
def Tells (row : AlertRule) (latest : Sample) (now : Int) : Prop :=
  nextOf row latest now ≠ row.lastState ∧
    (nextOf row latest now = .firing ∨ nextOf row latest now = .resolved)

instance (row : AlertRule) (latest : Sample) (now : Int) : Decidable (Tells row latest now) :=
  inferInstanceAs (Decidable (_ ∧ _))

/-- The pass takes the rule for one that has told 'firing': it read 'firing', or it read
'pending' and is about to resolve that. -/
def TakenFiring (row : AlertRule) (latest : Sample) : Prop :=
  row.lastState = .firing ∨ row.lastState = .pending ∧ breaches row latest = false

instance (row : AlertRule) (latest : Sample) : Decidable (TakenFiring row latest) :=
  inferInstanceAs (Decidable (_ ∨ _))

/-- A write is told exactly if it takes the rule from firing to not firing or back. -/
theorem tells_iff (row : AlertRule) (latest : Sample) (now : Int) :
    Tells row latest now ↔ (nextOf row latest now = .firing ↔ ¬ TakenFiring row latest) := by
  unfold Tells TakenFiring nextOf breaches
  cases compare latest.value row.threshold row.comparison with
  | false => cases row.lastState <;> simp [nextAlertState]
  | true =>
    cases row.lastState with
    | pending =>
      cases row.stateChangedAt with
      | none => simp [nextAlertState]
      | some changed =>
        by_cases due : effectiveDuration row ≤ now - changed
        · simp [nextAlertState, due]
        · simp [nextAlertState, due]
    | ok => simp [nextAlertState]
    | firing => simp [nextAlertState]
    | resolved => simp [nextAlertState]

theorem not_tells_iff (row : AlertRule) (latest : Sample) (now : Int) :
    ¬ Tells row latest now ↔ (nextOf row latest now = .firing ↔ TakenFiring row latest) := by
  rw [tells_iff, not_iff, not_iff_comm, not_not]
  exact iff_comm

/-- The row `UpdateAlertRuleState` answers, and leaves. -/
theorem updateAlertRuleState_found {b : Board} {id : UUID} {stored : AlertRule}
    (there : b.getAlertRule id = some stored) (state : AlertState) (value : Double) :
    (b.updateAlertRuleState id state value).2 = some (Board.stateRow b.now state value stored) := by
  show (b.rules.update id _ (Board.key_stateRow _ _ _)).find? id = _
  rw [Table.find?_update_self, show b.rules.find? id = some stored from there]
  rfl

theorem Point.written_untold (row updated : AlertRule) (rest : List AlertRule) (latest : Sample)
    (now : Int) :
    (Point.written row rest (nextOf row latest now) latest.value (some updated)).untold =
      if Tells row latest now then some updated else none := by
  unfold Point.written
  by_cases ends : nextOf row latest now = row.lastState ∨ nextOf row latest now = .ok
  · have silent : ¬ Tells row latest now := by
      rintro ⟨changed, tells⟩
      rcases ends with unchanged | ok
      · exact changed unchanged
      · rw [ok] at tells
        simp at tells
    simp only [if_pos ends]
    rw [if_neg silent, Point.enter_untold]
  · simp only [if_neg ends]
    have changed : nextOf row latest now ≠ row.lastState := fun unchanged => ends (.inl unchanged)
    by_cases tells : nextOf row latest now = .firing ∨ nextOf row latest now = .resolved
    · have tell : Tells row latest now := ⟨changed, tells⟩
      simp only [if_pos tells]
      rw [if_pos tell]
      rfl
    · have silent : ¬ Tells row latest now := fun tell => tells tell.2
      simp only [if_neg tells]
      rw [if_neg silent]
      rfl

theorem untoldOf_of_ne {id : UUID} {k : Point}
    (others : ∀ updated, k.untold = some updated → updated.id ≠ id) :
    untoldOf id (.inl k) = none := by
  rw [untoldOf, Option.filter_eq_none_iff]
  intro updated change
  simpa using others updated change

theorem Point.Valid.written {row updated : AlertRule} {rest : List AlertRule} (latest : Sample)
    (now : Int) (routed : ∀ other ∈ row :: rest, Routed rule other) (same : updated.id = row.id)
    (state : updated.lastState = nextOf row latest now) (sent : Routed rule updated) :
    (Point.written row rest (nextOf row latest now) latest.value (some updated)).Valid rule := by
  have behind : ∀ other ∈ rest, Routed rule other :=
    fun other member => routed other (List.mem_cons_of_mem _ member)
  unfold Point.written
  by_cases ends : nextOf row latest now = row.lastState ∨ nextOf row latest now = .ok
  · simp only [if_pos ends]
    exact .enter behind
  · simp only [if_neg ends]
    by_cases tells : nextOf row latest now = .firing ∨ nextOf row latest now = .resolved
    · simp only [if_pos tells]
      refine ⟨?_, ?_, ?_, ?_⟩
      · intro other member
        rcases List.mem_cons.mp member with rfl | member
        · exact routed other List.mem_cons_self
        · rcases List.mem_cons.mp member with rfl | member
          · exact sent
          · exact behind other member
      · rintro changed ⟨⟩
        rw [state]
        exact tells
      · rintro _ _ _ _ _ ⟨⟩
        exact same
      · rintro _ _ _ _ _ _ ⟨⟩
    · simp only [if_neg tells]
      exact .of_rows routed rfl

theorem Paired.in_step {c : Board × List Thread} (paired : Paired rule c)
    (told' : ∀ k ∈ c.2, untoldOf rule.id k = none) :
    Fires rule.id c.1 ↔ (told rule.id c.1).length % 2 = 1 := by
  have nobody : c.2.countP (fun k => (untoldOf rule.id k).isSome) = 0 := by
    rw [List.countP_eq_zero]
    intro k member
    simp [told' k member]
  by_contra apart
  have one := paired.one
  rw [nobody, if_neg apart] at one
  cases one

theorem Paired.write {c : Board × List Thread} (paired : Paired rule c) {i : Nat} {row : AlertRule}
    {rest : List AlertRule} {latest : Sample} {now : Int}
    (here : c.2[i]? = some (.inl (.write row rest latest now))) (same : row.id = rule.id)
    (found : Fires rule.id c.1 ↔ TakenFiring row latest)
    (told' : Tells row latest now → ∀ k ∈ c.2, untoldOf rule.id k = none) :
    Paired rule ((c.1.updateAlertRuleState row.id (nextOf row latest now) latest.value).1,
      c.2.set i (.inl (Point.written row rest (nextOf row latest now) latest.value
        (c.1.updateAlertRuleState row.id (nextOf row latest now) latest.value).2))) := by
  obtain ⟨stored, there, routed⟩ := paired.row
  have storedID : stored.id = rule.id := Table.key_of_find? there
  set updated := Board.stateRow c.1.now (nextOf row latest now) latest.value stored with updatedDef
  have answer : (c.1.updateAlertRuleState row.id (nextOf row latest now) latest.value).2 =
      some updated := by
    rw [same]
    exact updateAlertRuleState_found there _ _
  have after : (c.1.updateAlertRuleState row.id (nextOf row latest now) latest.value).1.getAlertRule
      rule.id = some updated := by
    rw [← same]
    exact answer
  have held : Point.Valid rule (.write row rest latest now) :=
    paired.valid _ (List.mem_of_getElem? here)
  have sent : Routed rule updated := fun _ => routed storedID
  have untold : untoldOf rule.id (.inl (Point.written row rest (nextOf row latest now) latest.value
      (some updated))) = if Tells row latest now then some updated else none := by
    rw [untoldOf, Point.written_untold]
    split
    · exact Option.filter_some_pos (decide_eq_true storedID)
    · rfl
  have fires : Fires rule.id (c.1.updateAlertRuleState row.id (nextOf row latest now)
      latest.value).1 ↔ nextOf row latest now = .firing := by
    unfold Fires
    rw [after]
    simp [updatedDef, Board.stateRow]
  rw [answer]
  refine ⟨⟨updated, after, sent⟩, paired.reached, paired.heard, ?_, paired.alternates, ?_, ?_⟩
  · intro k member
    rcases List.mem_or_eq_of_mem_set member with old | rfl
    · exact paired.valid k old
    · exact Point.Valid.written latest now held.routed (storedID.trans same.symm) rfl sent
  · have count := countP_set (fun k => (untoldOf rule.id k).isSome) here
      (.inl (Point.written row rest (nextOf row latest now) latest.value (some updated)))
    have before : untoldOf rule.id (.inl (.write row rest latest now)) = none := rfl
    rw [untold, before] at count
    have one := paired.one
    show List.countP _ (c.2.set i _) =
      if (Fires rule.id _ ↔ (told rule.id c.1).length % 2 = 1) then 0 else 1
    by_cases tells : Tells row latest now
    · -- nobody else has anything to tell, and the rule turns
      have step := paired.in_step (told' tells)
      have turned := (tells_iff row latest now).mp tells
      have apart : ¬ (Fires rule.id (c.1.updateAlertRuleState row.id (nextOf row latest now)
          latest.value).1 ↔ (told rule.id c.1).length % 2 = 1) := by
        rw [fires, ← step, found, turned]
        exact not_iff_self
      rw [if_pos step] at one
      rw [if_neg apart]
      simp only [if_pos tells, Option.isSome_some, Option.isSome_none, Bool.toNat_true,
        Bool.toNat_false] at count
      omega
    · have stays := (not_tells_iff row latest now).mp tells
      rw [if_congr (iff_congr (fires.trans (stays.trans found.symm)) Iff.rfl) rfl rfl, ← one]
      simp only [if_neg tells, Option.isSome_none, Bool.toNat_false] at count
      omega
  · intro k member change told''
    show change.lastState = .firing ↔ Fires rule.id _
    rw [fires]
    rcases List.mem_or_eq_of_mem_set member with old | rfl
    · by_cases tells : Tells row latest now
      · rw [told' tells k old] at told''
        cases told''
      · rw [(not_tells_iff row latest now).mp tells, ← found]
        exact paired.current k old change told''
    · rw [untold] at told''
      split at told''
      · cases told''
        rfl
      · cases told''

/-! ## The notification -/

theorem Paired.send {c : Board × List Thread} (paired : Paired rule c) {i : Nat}
    {row updated : AlertRule} {rest : List AlertRule} {next : AlertState} {value : Double}
    {targets : List NotificationChannel}
    (here : c.2[i]? = some (.inl (.send row updated rest next value targets)))
    (same : updated.id = rule.id) :
    Paired rule
      ({ c.1 with notifications := c.1.notifications ++
          [{ ruleID := updated.id, state := updated.lastState, value := value,
             threshold := updated.threshold, channels := targets.map NotificationChannel.id }] },
        c.2.set i (.inl (.stamp row rest next value))) := by
  have member := List.mem_of_getElem? here
  have held : Point.Valid rule (.send row updated rest next value targets) :=
    paired.valid _ member
  have untold : untoldOf rule.id (.inl (.send row updated rest next value targets)) =
      some updated := by simp [untoldOf, Point.untold, same]
  have current := paired.current _ member updated untold
  have reached : targets.map NotificationChannel.id ≠ [] := by
    simpa using held.send _ _ _ _ _ _ rfl same
  set b : Board := { c.1 with notifications := c.1.notifications ++
    [{ ruleID := updated.id, state := updated.lastState, value := value,
       threshold := updated.threshold, channels := targets.map NotificationChannel.id }] }
  have longer : told rule.id b = told rule.id c.1 ++ [updated.lastState] := by
    rw [told_append, if_pos ⟨same, reached⟩]
  -- the thread is the one that has something to tell
  have apart : ¬ (Fires rule.id c.1 ↔ (told rule.id c.1).length % 2 = 1) := by
    intro agree
    have one := paired.one
    rw [if_pos agree, List.countP_eq_zero] at one
    have none := one _ member
    rw [untold] at none
    exact none rfl
  have count := countP_set (fun k => (untoldOf rule.id k).isSome) here
    (.inl (.stamp row rest next value))
  have after : untoldOf rule.id (.inl (.stamp row rest next value)) = none := rfl
  rw [untold, after, Option.isSome_some, Option.isSome_none, Bool.toNat_true, Bool.toNat_false,
    paired.one, if_neg apart] at count
  have turn : updated.lastState =
      if (told rule.id c.1).length % 2 = 0 then .firing else .resolved := by
    rcases held.change updated rfl with firing | resolved
    · rw [firing, if_pos]
      have fires := current.mp firing
      by_contra odd
      exact apart (iff_of_true fires (by omega))
    · rw [resolved, if_neg]
      have still : ¬ Fires rule.id c.1 := by
        rw [← current, resolved]
        simp
      intro even
      exact apart (iff_of_false still (by omega))
  refine ⟨paired.row, paired.reached, paired.heard, ?_, ?_, ?_, ?_⟩
  · intro k inside
    rcases List.mem_or_eq_of_mem_set inside with old | rfl
    · exact paired.valid k old
    · refine Point.Valid.of_rows (fun other mem => held.routed other ?_) rfl
      rcases List.mem_cons.mp mem with rfl | mem
      · exact List.mem_cons_self
      · exact List.mem_cons_of_mem _ (List.mem_cons_of_mem _ mem)
  · dsimp only
    rw [longer]
    exact paired.alternates.concat turn
  · have agree : Fires rule.id b ↔ (told rule.id b).length % 2 = 1 := by
      show Fires rule.id c.1 ↔ _
      rw [longer, List.length_append, List.length_singleton]
      by_cases fires : Fires rule.id c.1
      · have even : ¬ (told rule.id c.1).length % 2 = 1 := fun odd => apart (iff_of_true fires odd)
        exact iff_of_true fires (by omega)
      · have odd : (told rule.id c.1).length % 2 = 1 := by
          by_contra even
          exact apart (iff_of_false fires even)
        exact iff_of_false fires (by omega)
    dsimp only
    rw [if_pos agree]
    omega
  · intro k inside change told'
    -- nobody is left with anything to tell
    have nobody : (c.2.set i (.inl (.stamp row rest next value))).countP
        (fun k => (untoldOf rule.id k).isSome) = 0 := by omega
    have none := List.countP_eq_zero.mp nobody k inside
    rw [told'] at none
    exact absurd rfl none

/-! ## Runs -/

/-- The row, sample and time of a pass that is about to write. -/
def Thread.writes : Thread → Option (AlertRule × Sample × Int)
  | .inl (.write row _ latest now) => some (row, latest, now)
  | _ => none

/-- A pass writes the rule when the stored row fires exactly if the pass takes it for one that
has told so; and a change it is to tell, when every earlier change has been told. -/
def Orderly (id : UUID) (c : Board × List Thread) (i : Nat) : Prop :=
  ∀ w ∈ c.2[i]?.bind Thread.writes, w.1.id = id →
    (Fires id c.1 ↔ TakenFiring w.1 w.2.1) ∧
      (Tells w.1 w.2.1 w.2.2 → ∀ k ∈ c.2, untoldOf id k = none)

instance (id : UUID) (c : Board × List Thread) (i : Nat) : Decidable (Orderly id c i) :=
  inferInstanceAs (Decidable (∀ _ ∈ _, _))

theorem Paired.enter {c : Board × List Thread} (paired : Paired rule c) {i : Nat} {k : Point}
    (here : c.2[i]? = some (.inl k)) {effect : Board → Board} (quiet : Quiet rule.id effect)
    {row : AlertRule} {rest : List AlertRule} (rows : k.rows = row :: rest)
    (calm : untoldOf rule.id (.inl k) = none) :
    Paired rule (effect c.1, c.2.set i (.inl (Point.enter rest))) := by
  have held : Point.Valid rule k := paired.valid _ (List.mem_of_getElem? here)
  refine paired.quiet here quiet (Point.Valid.enter fun other member => held.routed other ?_) ?_
  · rw [rows]
    exact List.mem_cons_of_mem row member
  · rw [calm, untoldOf, Point.enter_untold]
    rfl

theorem Paired.write_other {c : Board × List Thread} (paired : Paired rule c) {i : Nat}
    {row : AlertRule} {rest : List AlertRule} {latest : Sample} {now : Int}
    (here : c.2[i]? = some (.inl (.write row rest latest now))) (other : row.id ≠ rule.id) :
    Paired rule ((c.1.updateAlertRuleState row.id (nextOf row latest now) latest.value).1,
      c.2.set i (.inl (Point.written row rest (nextOf row latest now) latest.value
        (c.1.updateAlertRuleState row.id (nextOf row latest now) latest.value).2))) := by
  have held : Point.Valid rule (.write row rest latest now) :=
    paired.valid _ (List.mem_of_getElem? here)
  have quiet := quiet_write (Ne.symm other) (nextOf row latest now) latest.value
  cases found : c.1.getAlertRule row.id with
  | none =>
    have answer : (c.1.updateAlertRuleState row.id (nextOf row latest now) latest.value).2 =
        none := by
      show (c.1.rules.update row.id _ (Board.key_stateRow _ _ _)).find? row.id = _
      rw [Table.find?_update_self, show c.1.rules.find? row.id = none from found]
      rfl
    rw [answer]
    exact paired.enter here quiet rfl rfl
  | some stored =>
    have storedID : stored.id = row.id := Table.key_of_find? found
    rw [updateAlertRuleState_found found]
    refine paired.quiet here quiet (Point.Valid.written latest now held.routed storedID rfl
      fun same => absurd (storedID.symm.trans same) other) ?_
    refine (untoldOf_of_ne fun updated change => ?_).trans rfl
    rw [Point.written_untold] at change
    split at change
    · cases change
      exact fun same => other (storedID.symm.trans same)
    · cases change

theorem Paired.silence {c : Board × List Thread} (paired : Paired rule c) {i : Nat}
    {row updated : AlertRule} {rest : List AlertRule} {next : AlertState} {value : Double}
    (here : c.2[i]? = some (.inl (.silence row updated rest next value))) :
    Paired rule (c.1, c.2.set i (.inl (Point.heard row updated rest next value
      (c.1.silenced row.id)))) := by
  have held : Point.Valid rule (.silence row updated rest next value) :=
    paired.valid _ (List.mem_of_getElem? here)
  have behind : ∀ other ∈ row :: rest, Routed rule other := by
    intro other member
    refine held.routed other ?_
    rcases List.mem_cons.mp member with rfl | member
    · exact List.mem_cons_self
    · exact List.mem_cons_of_mem _ (List.mem_cons_of_mem _ member)
  have goesOn : Point.Valid rule (.channels row updated rest next value) := by
    refine ⟨held.routed, held.change, ?_, ?_⟩
    · rintro _ _ _ _ _ ⟨⟩
    · rintro _ _ _ _ _ _ ⟨⟩
  unfold Point.heard
  by_cases same : updated.id = rule.id
  · have rowID := held.silence _ _ _ _ _ rfl
    have sent := held.routed updated (List.mem_cons_of_mem _ List.mem_cons_self) same
    have nonempty : updated.notificationChannels ≠ [] := by
      intro nobody
      refine paired.reached ?_
      rw [← sent.2, nobody]
      simp [Board.listNotificationChannelsByIDs]
    rw [← rowID, same, paired.heard]
    simp only [Bool.false_eq_true, if_false, if_neg nonempty]
    exact paired.quiet here (.refl _) goesOn rfl
  · have calm : untoldOf rule.id (.inl (.silence row updated rest next value)) = none :=
      untoldOf_of_ne fun changed change => by cases change; exact same
    split
    · exact paired.quiet here (.refl _) (Point.Valid.of_rows behind rfl) calm.symm
    · split
      · exact paired.quiet here (.refl _) (Point.Valid.of_rows behind rfl) calm.symm
      · exact paired.quiet here (.refl _) goesOn rfl

theorem Paired.channels {c : Board × List Thread} (paired : Paired rule c) {i : Nat}
    {row updated : AlertRule} {rest : List AlertRule} {next : AlertState} {value : Double}
    (here : c.2[i]? = some (.inl (.channels row updated rest next value))) :
    Paired rule (c.1, c.2.set i (.inl (.send row updated rest next value
      (c.1.listNotificationChannelsByIDs updated.teamID updated.notificationChannels)))) := by
  have held : Point.Valid rule (.channels row updated rest next value) :=
    paired.valid _ (List.mem_of_getElem? here)
  have goesOn : Point.Valid rule (.send row updated rest next value
      (c.1.listNotificationChannelsByIDs updated.teamID updated.notificationChannels)) := by
    refine ⟨held.routed, held.change, ?_, ?_⟩
    · rintro _ _ _ _ _ ⟨⟩
    · rintro _ _ _ _ _ _ ⟨⟩ same
      have sent := held.routed updated (List.mem_cons_of_mem _ List.mem_cons_self) same
      rw [sent.1, sent.2]
      exact paired.reached
  exact paired.quiet here (.refl _) goesOn rfl

theorem Paired.send_other {c : Board × List Thread} (paired : Paired rule c) {i : Nat}
    {row updated : AlertRule} {rest : List AlertRule} {next : AlertState} {value : Double}
    {targets : List NotificationChannel}
    (here : c.2[i]? = some (.inl (.send row updated rest next value targets)))
    (other : updated.id ≠ rule.id) :
    Paired rule
      ({ c.1 with notifications := c.1.notifications ++
          [{ ruleID := updated.id, state := updated.lastState, value := value,
             threshold := updated.threshold, channels := targets.map NotificationChannel.id }] },
        c.2.set i (.inl (.stamp row rest next value))) := by
  have held : Point.Valid rule (.send row updated rest next value targets) :=
    paired.valid _ (List.mem_of_getElem? here)
  have calm : untoldOf rule.id (.inl (.send row updated rest next value targets)) = none :=
    untoldOf_of_ne fun changed change => by cases change; exact other
  refine paired.quiet here (quiet_send other) (Point.Valid.of_rows (fun r member => ?_) rfl)
    calm.symm
  refine held.routed r ?_
  rcases List.mem_cons.mp member with rfl | member
  · exact List.mem_cons_self
  · exact List.mem_cons_of_mem _ (List.mem_cons_of_mem _ member)

theorem Paired.step {c : Board × List Thread} (paired : Paired rule c) {i : Nat} {k : Point}
    (here : c.2[i]? = some (.inl k)) {effect : Board → Board} {next : Board → Point}
    (edge : k.act = some (effect, next)) (orderly : Orderly rule.id c i) :
    Paired rule (effect c.1, c.2.set i (.inl (next c.1))) := by
  have held : Point.Valid rule k := paired.valid _ (List.mem_of_getElem? here)
  cases k with
  | halt => cases edge
  | list =>
    cases edge
    refine paired.quiet here (.refl _) (Point.Valid.enter paired.listed) ?_
    rw [untoldOf, Point.enter_untold]
    rfl
  | sample row rest =>
    cases edge
    dsimp only
    cases c.1.latestFor row with
    | none => exact paired.enter here (.refl _) rfl rfl
    | some latest =>
      exact paired.quiet here (.refl _) (Point.Valid.of_rows held.routed rfl) rfl
  | recent row rest latest =>
    cases edge
    dsimp only
    split
    · exact paired.enter here (.refl _) rfl rfl
    · exact paired.quiet here (.refl _) (Point.Valid.of_rows held.routed rfl) rfl
  | clock row rest latest =>
    cases edge
    exact paired.quiet here (.refl _) (Point.Valid.of_rows held.routed rfl) rfl
  | write row rest latest now =>
    cases edge
    by_cases same : row.id = rule.id
    · obtain ⟨found, told'⟩ := orderly (row, latest, now) (by rw [here]; rfl) same
      exact paired.write here same found told'
    · exact paired.write_other here same
  | silence row updated rest next value =>
    cases edge
    exact paired.silence here
  | channels row updated rest next value =>
    cases edge
    exact paired.channels here
  | send row updated rest next value targets =>
    cases edge
    by_cases same : updated.id = rule.id
    · exact paired.send here same
    · exact paired.send_other here same
  | stamp row rest next value =>
    cases edge
    exact paired.quiet here (.refl _) (Point.Valid.of_rows held.routed rfl) rfl
  | event row rest next value notifiedAt =>
    cases edge
    exact paired.enter here (quiet_event _ _) rfl rfl

theorem Paired.advance {c : Board × List Thread} {i : Nat} (orderly : Orderly rule.id c i)
    (paired : Paired rule c) : Paired rule (evaluator.advance (fun _ _ => []) c i) := by
  obtain same | ⟨k, effect, next, here, edge, moved⟩ := evaluator.advance_cases (fun _ _ => []) c i
  · rw [same]
    exact paired
  · rw [moved, List.append_nil]
    cases k with
    | inl k =>
      obtain ⟨next', edge', same⟩ := Flow.beside_inl edge
      rw [same]
      exact paired.step here edge' orderly
    | inr p =>
      obtain ⟨next', rfl, same⟩ := Flow.beside_inr edge
      have quiet : (Prog.step effect next').Every (Quiet rule.id) :=
        paired.valid _ (List.mem_of_getElem? here)
      rw [same]
      exact paired.quiet here quiet.1 (quiet.2 c.1) rfl

/-- The threads at the start: passes, and programs beside them. -/
def evaluatorThreads (passes : Nat) (others : List (Prog Board Unit)) : List Thread :=
  List.replicate passes (.inl .list) ++ others.map .inr

/-- **Notifications come in pairs.**  For a rule that is not silenced, has channels and does not
fire at the start, in every interleaving of passes with programs that leave the rule alone whose
writes are orderly, the channels are told 'firing' and 'resolved' in turn. -/
theorem told_alternate {rule : AlertRule} {b : Board}
    (stored : b.getAlertRule rule.id = some rule) (start : rule.lastState ≠ .firing)
    (reached : b.listNotificationChannelsByIDs rule.teamID rule.notificationChannels ≠ [])
    (heard : b.silenced rule.id = false) (none : told rule.id b = []) {passes : Nat}
    {others : List (Prog Board Unit)} (quiet : ∀ p ∈ others, p.Every (Quiet rule.id))
    {schedule : List Nat}
    (orderly : evaluator.Along (fun _ _ => []) (Orderly rule.id)
      (b, evaluatorThreads passes others) schedule) :
    Alternates (told rule.id ((Pool.mk b (List.replicate passes evaluateAlerts ++ others)).run
      Pool.noSpawn schedule).store) := by
  have coded := Flow.run_coded_noSpawn (Flow.beside_presents Point.presents)
    (b, evaluatorThreads passes others) schedule
  have threads : (evaluatorThreads passes others).map (Sum.elim Point.code id) =
      List.replicate passes evaluateAlerts ++ others := by
    simp [evaluatorThreads, Point.code]
  rw [Flow.pool, threads] at coded
  rw [coded]
  have calm : ∀ k ∈ evaluatorThreads passes others, untoldOf rule.id k = .none := by
    intro k member
    rcases List.mem_append.mp member with pass | other
    · rw [List.eq_of_mem_replicate pass]
      rfl
    · obtain ⟨p, -, rfl⟩ := List.mem_map.mp other
      rfl
  have paired : Paired rule (b, evaluatorThreads passes others) := by
    refine ⟨⟨rule, stored, fun _ => ⟨rfl, rfl⟩⟩, reached, heard, ?_, ?_, ?_, ?_⟩
    · intro k member
      rcases List.mem_append.mp member with pass | other
      · rw [List.eq_of_mem_replicate pass]
        exact Point.Valid.of_rows (fun row held => by cases held) rfl
      · obtain ⟨p, inside, rfl⟩ := List.mem_map.mp other
        exact quiet p inside
    · rw [none]
      intro i state here
      cases here
    · have agree : Fires rule.id b ↔ (told rule.id b).length % 2 = 1 := by
        unfold Fires
        rw [stored, none]
        simpa using start
      rw [if_pos agree, List.countP_eq_zero]
      intro k member
      rw [calm k member]
      simp
    · intro k member updated change
      rw [calm k member] at change
      cases change
  exact (Flow.Along.invariant (fun c i meets => Paired.advance meets) orderly paired).alternates

end Pairs

/-! ## A breach that fires, and one that does not -/

def loudServer : AlertRule := { hotServer with notificationChannels := [7] }

/-- A board with that rule and a fresh sample over the threshold. -/
def loudBoard : Board :=
  { rules := ⟨[loudServer], by decide⟩
    channels := ⟨[{ id := 7 }], by decide⟩
    latest := (reading 0 95).latest }

def arrives (second : Int) (value : Rat) : Prog Board Unit :=
  exec fun b => (reading second value).board b

theorem arrives_quiet (second : Int) (value : Rat) : (arrives second value).Every (Quiet 1) :=
  ⟨⟨fun _ => rfl, fun _ => rfl, fun _ => rfl, fun _ => rfl⟩, fun _ => trivial⟩

/-- Three passes one after the other, ten seconds apart: the breach lasts and is then over. -/
theorem loudServer_told :
    told 1 ((Pool.mk loudBoard (List.replicate 3 evaluateAlerts ++
        [arrives 10 95, arrives 20 50])).run Pool.noSpawn
      (List.replicate 6 0 ++ [3] ++ List.replicate 10 1 ++ [4] ++ List.replicate 10 2)).store =
        [.firing, .resolved] ∧
      Alternates (told 1 ((Pool.mk loudBoard (List.replicate 3 evaluateAlerts ++
        [arrives 10 95, arrives 20 50])).run Pool.noSpawn
      (List.replicate 6 0 ++ [3] ++ List.replicate 10 1 ++ [4] ++ List.replicate 10 2)).store) := by
  refine ⟨by decide +kernel, ?_⟩
  refine @told_alternate loudServer loudBoard (by decide +kernel) (by decide) (by decide +kernel)
    rfl rfl 3 [arrives 10 95, arrives 20 50] ?_ _ (by decide +kernel)
  intro p member
  simp only [List.mem_cons, List.not_mem_nil, or_false] at member
  rcases member with rfl | rfl
  · exact arrives_quiet _ _
  · exact arrives_quiet _ _

/-- **A short breach.**  Two passes one after the other, the breach over between them: the
channels are told 'resolved' about a rule that never fired. -/
theorem short_breach_told :
    told 1 ((Pool.mk loudBoard (List.replicate 2 evaluateAlerts ++ [arrives 5 50])).run
        Pool.noSpawn (List.replicate 6 0 ++ [2] ++ List.replicate 10 1)).store = [.resolved] ∧
      ¬ Alternates (told 1 ((Pool.mk loudBoard (List.replicate 2 evaluateAlerts ++
        [arrives 5 50])).run Pool.noSpawn
          (List.replicate 6 0 ++ [2] ++ List.replicate 10 1)).store) := by
  have sent : told 1 ((Pool.mk loudBoard (List.replicate 2 evaluateAlerts ++ [arrives 5 50])).run
      Pool.noSpawn (List.replicate 6 0 ++ [2] ++ List.replicate 10 1)).store = [.resolved] := by
    decide +kernel
  refine ⟨sent, ?_⟩
  rw [sent]
  intro alternates
  have first := alternates 0 .resolved rfl
  simp at first

end Nixway.Observability
