/-
# Deploy.Outcome -- the outcome of a deployment whose targets all report

The handlers of the targets' reports run beside each other, and a success is
handled in several statements: the increment, the read that compares the counter
with the desired replicas, the completion and the start of the promotion.  For
every interleaving of them the deployment ends 'healthy' exactly when every
target succeeded.

`Move` says once what a step of a handler does to the deployment row, and `Tally`
is the invariant: the counter is the number of successes counted so far, a
handler completes the deployment only when all are counted, and once all are
counted some handler is on its way to complete it or has done so.
-/
import Nixway.Deploy.Reports
import Nixway.Deploy.Dispatch

namespace Nixway.Deploy

open Nixway.Theory Nixway.Store
open Nixway.Theory.Prog (query exec atomic forEach)

set_option autoImplicit false

/-! ## What a handler does to the deployment row -/

/-- How far a handler is with the deployment row. -/
inductive Stage where
  | reporting | increment | check | complete | promote | fail | halt
deriving DecidableEq

/-- The stage of a control point. -/
def Control.stage : Control → Stage
  | .receive [] => .halt
  | .receive (_ :: _) => .reporting
  | .record _ _ _ => .reporting
  | .increment _ _ => .increment
  | .check _ _ => .check
  | .complete _ _ => .complete
  | .promote _ _ => .promote
  | .fail _ _ _ => .fail

/-- The messages a target still sends: unfinished phases, then one finished report
with this outcome; with the outcome `none` the report never comes. -/
inductive Pending (deployID : UUID) : Option Bool → List DeployOutput → Prop where
  | silent : Pending deployID none []
  | last {out : DeployOutput} (about : out.deployID = some deployID)
      (target : out.targetID.isSome) (finished : out.finished = true) :
      Pending deployID (some out.success) [out]
  | phase {outcome : Option Bool} {out : DeployOutput} {rest : List DeployOutput}
      (about : out.deployID = some deployID) (target : out.targetID.isSome)
      (unfinished : out.finished = false) (more : Pending deployID outcome rest) :
      Pending deployID outcome (out :: rest)

/-- The control points of a handler of such messages. -/
def Fits (deployID : UUID) (outcome : Option Bool) : Control → Prop
  | .receive outs => outs = [] ∨ Pending deployID outcome outs
  | .record out _ rest => Pending deployID outcome (out :: rest)
  | .increment id rest => id = deployID ∧ outcome = some true ∧ rest = []
  | .check id rest => id = deployID ∧ outcome = some true ∧ rest = []
  | .complete id rest => id = deployID ∧ outcome = some true ∧ rest = []
  | .promote id rest => id = deployID ∧ outcome = some true ∧ rest = []
  | .fail id _ rest => id = deployID ∧ outcome = some false ∧ rest = []

/-- Nothing the outcome depends on differs between the stores. -/
structure SameRow (deployID : UUID) (w w' : World) : Prop where
  deployment : w'.getDeployment deployID = w.getDeployment deployID
  started : w'.started = w.started
  pending : w'.pendingDeploy = w.pendingDeploy

theorem SameRow.refl (deployID : UUID) (w : World) : SameRow deployID w w := ⟨rfl, rfl, rfl⟩

/-- One step of a handler, seen from the deployment row. -/
inductive Move (deployID : UUID) (outcome : Option Bool) (w w' : World) : Stage → Stage → Prop where
  | listen (same : SameRow deployID w w') : Move deployID outcome w w' .reporting .reporting
  | claimed (pending : deployID ∈ w.pendingDeploy) (same : SameRow deployID w w') :
      Move deployID outcome w w' .reporting .halt
  | silent (never : outcome = none) (same : SameRow deployID w w') :
      Move deployID outcome w w' .reporting .halt
  | succeed (ok : outcome = some true) (same : SameRow deployID w w') :
      Move deployID outcome w w' .reporting .increment
  | abort (bad : outcome = some false) (same : SameRow deployID w w') :
      Move deployID outcome w w' .reporting .fail
  | count (ok : outcome = some true) (now : w' = w.incrementReplicasReady deployID) :
      Move deployID outcome w w' .increment .check
  | enough (ok : outcome = some true) (same : SameRow deployID w w')
      (ready : ∃ d, w.getDeployment deployID = some d ∧ d.replicasDesired ≤ d.replicasReady) :
      Move deployID outcome w w' .check .complete
  | wait (ok : outcome = some true) (same : SameRow deployID w w')
      (short : ∀ d, w.getDeployment deployID = some d → d.replicasReady < d.replicasDesired) :
      Move deployID outcome w w' .check .halt
  | finish (ok : outcome = some true) (now : w' = w.completeDeployment deployID .healthy none) :
      Move deployID outcome w w' .complete .promote
  | start (ok : outcome = some true)
      (now : w' = { w with started := w.started ++ [.ensureTrafficForDeployment deployID] }) :
      Move deployID outcome w w' .promote .halt
  | abandon (bad : outcome = some false) (error : String)
      (now : w' = w.completeDeployment deployID .failed (some error)) :
      Move deployID outcome w w' .fail .halt

theorem sameRow_updateTarget (deployID : UUID) (w : World) (arg : World.TargetStatusParams) :
    SameRow deployID w (w.updateDeploymentTargetStatus arg) := by
  unfold World.updateDeploymentTargetStatus
  split
  · exact .refl deployID w
  · exact ⟨rfl, rfl, rfl⟩

theorem Pending.stage_receive {deployID : UUID} {outcome : Option Bool} {outs : List DeployOutput}
    (pending : Pending deployID outcome outs) :
    (Control.receive outs).stage = .halt ∧ outcome = none ∨
      (Control.receive outs).stage = .reporting := by
  cases pending with
  | silent => exact .inl ⟨rfl, rfl⟩
  | last about target finished => exact .inr rfl
  | phase about target unfinished more => exact .inr rfl

/-- The first message is handed to the database service, else recorded. -/
theorem moves_receive {deployID : UUID} {outcome : Option Bool} {out : DeployOutput}
    {rest : List DeployOutput} (pending : Pending deployID outcome (out :: rest)) (w : World) :
    Fits deployID outcome (Control.afterReceive out rest w) ∧
      Move deployID outcome w w .reporting (Control.afterReceive out rest w).stage := by
  have ofMessage : out.deployID = some deployID ∧ out.targetID.isSome := by
    cases pending with
    | last about target finished => exact ⟨about, target⟩
    | phase about target unfinished more => exact ⟨about, target⟩
  obtain ⟨targetID, target⟩ := Option.isSome_iff_exists.mp ofMessage.2
  unfold Control.afterReceive
  by_cases claimed : databaseClaims out w = true
  · rw [if_pos claimed]
    have inPending : deployID ∈ w.pendingDeploy := by
      simpa [databaseClaims, ofMessage.1] using claimed
    cases pending with
    | last about target finished =>
      exact ⟨.inl rfl, .claimed inPending (.refl _ _)⟩
    | phase about target unfinished more =>
      refine ⟨.inr more, ?_⟩
      obtain ⟨halt, -⟩ | reporting := more.stage_receive
      · rw [halt]; exact .claimed inPending (.refl _ _)
      · rw [reporting]; exact .listen (.refl _ _)
  · rw [if_neg claimed, target]
    exact ⟨pending, .listen (.refl _ _)⟩

/-- After the target row is written a finished report goes on to the deployment. -/
theorem moves_record {deployID : UUID} {outcome : Option Bool} {out : DeployOutput}
    {rest : List DeployOutput} (pending : Pending deployID outcome (out :: rest)) {w w' : World}
    (same : SameRow deployID w w') :
    Fits deployID outcome (Control.afterRecord out rest) ∧
      Move deployID outcome w w' .reporting (Control.afterRecord out rest).stage := by
  cases pending with
  | last about target finished =>
    cases success : out.success with
    | true =>
      have next : Control.afterRecord out [] = .increment deployID [] := by
        simp [Control.afterRecord, finished, about, success]
      rw [next]
      exact ⟨⟨rfl, rfl, rfl⟩, .succeed rfl same⟩
    | false =>
      have next : Control.afterRecord out [] = .fail deployID out.error [] := by
        simp [Control.afterRecord, finished, about, success]
      rw [next]
      exact ⟨⟨rfl, rfl, rfl⟩, .abort rfl same⟩
  | phase about target unfinished more =>
    have next : Control.afterRecord out rest = .receive rest := by
      simp [Control.afterRecord, unfinished]
    rw [next]
    refine ⟨.inr more, ?_⟩
    obtain ⟨halt, never⟩ | reporting := more.stage_receive
    · rw [halt]; exact .silent never same
    · rw [reporting]; exact .listen same

/-- **What a handler's step does.**  Every step of a handler of pending messages is
one of the moves. -/
theorem Control.moves {deployID : UUID} {outcome : Option Bool} {k : Control}
    {effect : World → World} {next : World → Control} (fits : Fits deployID outcome k)
    (edge : k.act = some (effect, next)) (w : World) :
    Fits deployID outcome (next w) ∧
      Move deployID outcome w (effect w) k.stage (next w).stage := by
  cases k with
  | receive outs =>
    cases outs with
    | nil => cases edge
    | cons out rest =>
      cases edge
      exact moves_receive (fits.resolve_left (List.cons_ne_nil _ _)) w
  | record out targetID rest =>
    cases edge
    exact moves_record fits (sameRow_updateTarget deployID w _)
  | increment id rest =>
    cases edge
    obtain ⟨rfl, ok, rfl⟩ := fits
    exact ⟨⟨rfl, ok, rfl⟩, .count ok rfl⟩
  | check id rest =>
    cases edge
    obtain ⟨rfl, ok, rfl⟩ := fits
    simp only [Control.afterCheck]
    cases found : w.getDeployment id with
    | none =>
      refine ⟨.inl rfl, .wait ok (.refl _ _) fun d row => ?_⟩
      rw [found] at row
      cases row
    | some d =>
      by_cases ready : d.replicasDesired ≤ d.replicasReady
      · simp only [ready, if_true]
        exact ⟨⟨rfl, ok, rfl⟩, .enough ok (.refl _ _) ⟨d, found, ready⟩⟩
      · simp only [ready, if_false]
        refine ⟨.inl rfl, .wait ok (.refl _ _) fun d' row => ?_⟩
        rw [found] at row
        cases row
        omega
  | complete id rest =>
    cases edge
    obtain ⟨rfl, ok, rfl⟩ := fits
    exact ⟨⟨rfl, ok, rfl⟩, .finish ok rfl⟩
  | promote id rest =>
    cases edge
    obtain ⟨rfl, ok, rfl⟩ := fits
    exact ⟨.inl rfl, .start ok rfl⟩
  | fail id error rest =>
    cases edge
    obtain ⟨rfl, bad, rfl⟩ := fits
    exact ⟨.inl rfl, .abandon bad error rfl⟩

/-! ## The tally -/

theorem find_increment {w : World} {deployID : UUID} {d : Deployment}
    (found : w.getDeployment deployID = some d) :
    (w.incrementReplicasReady deployID).getDeployment deployID =
      some { d with replicasReady := d.replicasReady + 1 } := by
  rw [World.getDeployment, World.incrementReplicasReady, Table.find?_update_self]
  exact congrArg _ found

theorem find_complete {w : World} {deployID : UUID} {d : Deployment}
    (found : w.getDeployment deployID = some d) (status : DeploymentStatus)
    (error : Option String) :
    (w.completeDeployment deployID status error).getDeployment deployID =
      some { d with status := status, completedAt := some w.now, error := error } := by
  rw [World.getDeployment, World.completeDeployment, Table.find?_update_self]
  exact congrArg _ found

/-- The increment of this stage has been performed. -/
def Stage.pastIncrement : Stage → Bool
  | .check | .complete | .promote | .halt => true
  | .reporting | .increment | .fail => false

/-- The handler of a success that has been counted. -/
def counted (t : Bool × Control) : Bool := t.1 && t.2.stage.pastIncrement

/-- Every target succeeded and was counted. -/
def AllCounted (ts : List (Bool × Control)) : Prop := ∀ t ∈ ts, counted t = true

/-- The invariant of the handlers of one deployment, with its row `d`. -/
structure Tally (deployID : UUID) (w : World) (d : Deployment) (ts : List (Bool × Control)) :
    Prop where
  found : w.getDeployment deployID = some d
  unclaimed : deployID ∉ w.pendingDeploy
  fits : ∀ t ∈ ts, Fits deployID (some t.1) t.2
  desired : d.replicasDesired = ts.length
  ready : d.replicasReady = ts.countP counted
  closing : ∀ t ∈ ts, t.2.stage = .complete ∨ t.2.stage = .promote → AllCounted ts
  promoted : .ensureTrafficForDeployment deployID ∈ w.started → AllCounted ts
  failed : ∀ t ∈ ts, t.1 = false → t.2.stage = .halt → d.status = .failed
  healthy : AllCounted ts →
    (∃ t ∈ ts, t.2.stage = .check ∨ t.2.stage = .complete) ∨
      d.status = .healthy ∧
        (.ensureTrafficForDeployment deployID ∈ w.started ∨ ∃ t ∈ ts, t.2.stage = .promote)

section Tally

variable {deployID : UUID} {w : World} {d : Deployment} {ts : List (Bool × Control)} {i : Nat}
  {ok : Bool} {k k' : Control}

theorem Tally.allCounted_of_ready (tally : Tally deployID w d ts)
    (ready : d.replicasDesired ≤ d.replicasReady) : AllCounted ts := by
  have bound := List.countP_le_length (p := counted) (l := ts)
  have all : ts.countP counted = ts.length := by
    have := tally.desired
    have := tally.ready
    omega
  exact List.countP_eq_length.mp all

theorem Tally.ready_of_allCounted (tally : Tally deployID w d ts) (all : AllCounted ts) :
    d.replicasDesired ≤ d.replicasReady := by
  rw [tally.desired, tally.ready, List.countP_eq_length.mpr all]

/-- A member of the list after a move is an old one or the handler that moved. -/
theorem forall_set {P : Bool × Control → Prop} (old : ∀ t ∈ ts, P t) (new : P (ok, k')) :
    ∀ t ∈ ts.set i (ok, k'), P t := by
  intro t member
  rcases List.mem_or_eq_of_mem_set member with stays | rfl
  · exact old t stays
  · exact new

theorem past_of_enters (k : Control) {st : Stage} (enters : k'.stage = st)
    (past : st.pastIncrement = true) :
    k.stage.pastIncrement = true → k'.stage.pastIncrement = true := by
  rw [enters]
  exact fun _ => past

theorem allCounted_set (here : ts[i]? = some (ok, k)) (all : AllCounted ts)
    (kept : k.stage.pastIncrement = true → k'.stage.pastIncrement = true) :
    AllCounted (ts.set i (ok, k')) := by
  refine forall_set all ?_
  have before := all _ (List.mem_of_getElem? here)
  simp only [counted, Bool.and_eq_true] at before ⊢
  exact ⟨before.1, kept before.2⟩

theorem allCounted_of_set (here : ts[i]? = some (ok, k))
    (all : AllCounted (ts.set i (ok, k'))) (was : k.stage.pastIncrement = true) :
    AllCounted ts := by
  have moved := all _ (mem_set_new here (ok, k'))
  intro t member
  rcases mem_set_or_eq here member (ok, k') with rfl | stays
  · simp only [counted, Bool.and_eq_true] at moved ⊢
    exact ⟨moved.1, was⟩
  · exact all t stays

theorem not_allCounted_set (here : ts[i]? = some (ok, k))
    (uncounted : counted (ok, k') = false) : ¬ AllCounted (ts.set i (ok, k')) := by
  intro all
  have moved := all _ (mem_set_new here (ok, k'))
  rw [uncounted] at moved
  cases moved

theorem Tally.ready_set (tally : Tally deployID w d ts) (here : ts[i]? = some (ok, k))
    (same : counted (ok, k') = counted (ok, k)) :
    d.replicasReady = (ts.set i (ok, k')).countP counted := by
  have count := countP_set counted here (ok, k')
  rw [same] at count
  rw [tally.ready]
  omega

theorem Tally.closing_set (tally : Tally deployID w d ts) (here : ts[i]? = some (ok, k))
    (kept : k.stage.pastIncrement = true → k'.stage.pastIncrement = true)
    (new : k'.stage = .complete ∨ k'.stage = .promote → AllCounted ts) :
    ∀ t ∈ ts.set i (ok, k'), t.2.stage = .complete ∨ t.2.stage = .promote →
      AllCounted (ts.set i (ok, k')) := by
  intro t member closing
  apply allCounted_set here _ kept
  rcases List.mem_or_eq_of_mem_set member with stays | rfl
  · exact tally.closing t stays closing
  · exact new closing

/-- A handler that listens, or has just read its finished report. -/
theorem Tally.reporting (tally : Tally deployID w d ts) (here : ts[i]? = some (ok, k))
    (fits : Fits deployID (some ok) k') {w' : World} (same : SameRow deployID w w')
    (leaves : k.stage = .reporting)
    (enters : k'.stage = .reporting ∨ k'.stage = .increment ∨ k'.stage = .fail) :
    Tally deployID w' d (ts.set i (ok, k')) := by
  have before : counted (ok, k) = false := by simp [counted, leaves, Stage.pastIncrement]
  have after : counted (ok, k') = false := by
    rcases enters with h | h | h <;> simp [counted, h, Stage.pastIncrement]
  have kept : k.stage.pastIncrement = true → k'.stage.pastIncrement = true := by
    rw [leaves]; exact fun impossible => nomatch impossible
  refine
    { found := by rw [same.deployment]; exact tally.found
      unclaimed := by rw [same.pending]; exact tally.unclaimed
      fits := forall_set tally.fits fits
      desired := by rw [List.length_set]; exact tally.desired
      ready := tally.ready_set here (after.trans before.symm)
      closing := tally.closing_set here kept ?_
      promoted := ?_
      failed := forall_set tally.failed ?_
      healthy := fun all => absurd all (not_allCounted_set here after) }
  · rcases enters with h | h | h <;> simp [h]
  · intro started
    rw [same.started] at started
    exact allCounted_set here (tally.promoted started) kept
  · rcases enters with h | h | h <;> simp [h]

theorem Tally.count (tally : Tally deployID w d ts) (here : ts[i]? = some (true, k))
    (fits : Fits deployID (some true) k') (leaves : k.stage = .increment)
    (enters : k'.stage = .check) :
    Tally deployID (w.incrementReplicasReady deployID)
      { d with replicasReady := d.replicasReady + 1 } (ts.set i (true, k')) := by
  have kept := past_of_enters k enters rfl
  have tallied := countP_set counted here (true, k')
  simp only [counted, leaves, enters, Stage.pastIncrement, Bool.and_false, Bool.and_true,
    Bool.toNat_false, Bool.toNat_true] at tallied
  refine
    { found := find_increment tally.found
      unclaimed := tally.unclaimed
      fits := forall_set tally.fits fits
      desired := by rw [List.length_set]; exact tally.desired
      ready := ?_
      closing := tally.closing_set here kept (by simp [enters])
      promoted := fun started => allCounted_set here (tally.promoted started) kept
      failed := forall_set tally.failed (by simp)
      healthy := fun _ => .inl ⟨_, mem_set_new here (true, k'), .inl enters⟩ }
  have before := tally.ready
  have same : ts.countP (fun t => t.1 && t.2.stage.pastIncrement) = ts.countP counted := rfl
  have same' : (ts.set i (true, k')).countP (fun t => t.1 && t.2.stage.pastIncrement) =
      (ts.set i (true, k')).countP counted := rfl
  simp only
  omega

theorem Tally.enough (tally : Tally deployID w d ts) (here : ts[i]? = some (true, k))
    (fits : Fits deployID (some true) k') {w' : World} (same : SameRow deployID w w')
    (ready : d.replicasDesired ≤ d.replicasReady) (leaves : k.stage = .check)
    (enters : k'.stage = .complete) : Tally deployID w' d (ts.set i (true, k')) := by
  have kept := past_of_enters k enters rfl
  refine
    { found := by rw [same.deployment]; exact tally.found
      unclaimed := by rw [same.pending]; exact tally.unclaimed
      fits := forall_set tally.fits fits
      desired := by rw [List.length_set]; exact tally.desired
      ready := tally.ready_set here (by simp [counted, leaves, enters, Stage.pastIncrement])
      closing := tally.closing_set here kept fun _ => tally.allCounted_of_ready ready
      promoted := ?_
      failed := forall_set tally.failed (by simp)
      healthy := fun _ => .inl ⟨_, mem_set_new here (true, k'), .inr enters⟩ }
  intro started
  rw [same.started] at started
  exact allCounted_set here (tally.promoted started) kept

theorem Tally.wait (tally : Tally deployID w d ts) (here : ts[i]? = some (true, k))
    (fits : Fits deployID (some true) k') {w' : World} (same : SameRow deployID w w')
    (short : d.replicasReady < d.replicasDesired) (leaves : k.stage = .check)
    (enters : k'.stage = .halt) : Tally deployID w' d (ts.set i (true, k')) := by
  have kept := past_of_enters k enters rfl
  refine
    { found := by rw [same.deployment]; exact tally.found
      unclaimed := by rw [same.pending]; exact tally.unclaimed
      fits := forall_set tally.fits fits
      desired := by rw [List.length_set]; exact tally.desired
      ready := tally.ready_set here (by simp [counted, leaves, enters, Stage.pastIncrement])
      closing := tally.closing_set here kept (by simp [enters])
      promoted := ?_
      failed := forall_set tally.failed (by simp)
      healthy := fun all => ?_ }
  · intro started
    rw [same.started] at started
    exact allCounted_set here (tally.promoted started) kept
  · have allBefore := allCounted_of_set here all (by rw [leaves]; rfl)
    have := tally.ready_of_allCounted allBefore
    omega

/-- The completion: all are counted, so no failure was and none will be. -/
theorem Tally.finish (tally : Tally deployID w d ts) (here : ts[i]? = some (true, k))
    (fits : Fits deployID (some true) k') (leaves : k.stage = .complete)
    (enters : k'.stage = .promote) :
    Tally deployID (w.completeDeployment deployID .healthy none)
      { d with status := .healthy, completedAt := some w.now, error := none }
      (ts.set i (true, k')) := by
  have kept := past_of_enters k enters rfl
  have all : AllCounted ts := tally.closing _ (List.mem_of_getElem? here) (.inl leaves)
  refine
    { found := find_complete tally.found .healthy none
      unclaimed := tally.unclaimed
      fits := forall_set tally.fits fits
      desired := by rw [List.length_set]; exact tally.desired
      ready := tally.ready_set here (by simp [counted, leaves, enters, Stage.pastIncrement])
      closing := tally.closing_set here kept fun _ => all
      promoted := fun started => allCounted_set here (tally.promoted started) kept
      failed := forall_set ?_ (by simp)
      healthy := fun _ => .inr ⟨rfl, .inr ⟨_, mem_set_new here (true, k'), enters⟩⟩ }
  intro t member bad halt
  have := all t member
  simp [counted, bad] at this

theorem Tally.start (tally : Tally deployID w d ts) (here : ts[i]? = some (true, k))
    (fits : Fits deployID (some true) k') (leaves : k.stage = .promote) (enters : k'.stage = .halt) :
    Tally deployID { w with started := w.started ++ [Goroutine.ensureTrafficForDeployment deployID] } d
      (ts.set i (true, k')) := by
  have kept := past_of_enters k enters rfl
  have all : AllCounted ts := tally.closing _ (List.mem_of_getElem? here) (.inr leaves)
  have startedNow : Goroutine.ensureTrafficForDeployment deployID ∈
      w.started ++ [.ensureTrafficForDeployment deployID] := by simp
  refine
    { found := tally.found
      unclaimed := tally.unclaimed
      fits := forall_set tally.fits fits
      desired := by rw [List.length_set]; exact tally.desired
      ready := tally.ready_set here (by simp [counted, leaves, enters, Stage.pastIncrement])
      closing := tally.closing_set here kept fun _ => all
      promoted := fun _ => allCounted_set here all kept
      failed := forall_set tally.failed (by simp)
      healthy := fun _ => ?_ }
  rcases tally.healthy all with ⟨t, member, busy⟩ | ⟨status, -⟩
  · rcases mem_set_or_eq here member (true, k') with rfl | stays
    · simp [leaves] at busy
    · exact .inl ⟨t, stays, busy⟩
  · exact .inr ⟨status, .inl startedNow⟩

theorem Tally.abandon (tally : Tally deployID w d ts) (here : ts[i]? = some (false, k))
    (fits : Fits deployID (some false) k') (error : String) (enters : k'.stage = .halt) :
    Tally deployID (w.completeDeployment deployID .failed (some error))
      { d with status := .failed, completedAt := some w.now, error := some error }
      (ts.set i (false, k')) := by
  have notAll : ¬ AllCounted ts := by
    intro all
    have := all _ (List.mem_of_getElem? here)
    simp [counted] at this
  have kept := past_of_enters k enters rfl
  refine
    { found := find_complete tally.found .failed (some error)
      unclaimed := tally.unclaimed
      fits := forall_set tally.fits fits
      desired := by rw [List.length_set]; exact tally.desired
      ready := tally.ready_set here (by simp [counted])
      closing := tally.closing_set here kept (by simp [enters])
      promoted := fun started => absurd (tally.promoted started) notAll
      failed := fun _ _ _ _ => rfl
      healthy := fun all => absurd all (not_allCounted_set here (by simp [counted])) }

/-- **One step keeps the tally.** -/
theorem Tally.step (tally : Tally deployID w d ts) (here : ts[i]? = some (ok, k))
    (fits : Fits deployID (some ok) k') {w' : World}
    (move : Move deployID (some ok) w w' k.stage k'.stage) :
    ∃ d', Tally deployID w' d' (ts.set i (ok, k')) := by
  generalize leaves : k.stage = s at move
  generalize enters : k'.stage = s' at move
  cases move with
  | listen same => exact ⟨d, tally.reporting here fits same leaves (.inl enters)⟩
  | claimed pending same => exact absurd pending tally.unclaimed
  | silent never same => cases never
  | succeed ok same => exact ⟨d, tally.reporting here fits same leaves (.inr (.inl enters))⟩
  | abort bad same => exact ⟨d, tally.reporting here fits same leaves (.inr (.inr enters))⟩
  | count ok now =>
    cases ok
    subst now
    exact ⟨_, tally.count here fits leaves enters⟩
  | enough ok same ready =>
    cases ok
    obtain ⟨d', found, ready⟩ := ready
    obtain rfl : d = d' := Option.some.inj (tally.found.symm.trans found)
    exact ⟨d, tally.enough here fits same ready leaves enters⟩
  | wait ok same short =>
    cases ok
    exact ⟨d, tally.wait here fits same (short d tally.found) leaves enters⟩
  | finish ok now =>
    cases ok
    subst now
    exact ⟨_, tally.finish here fits leaves enters⟩
  | start ok now =>
    cases ok
    subst now
    exact ⟨d, tally.start here fits leaves enters⟩
  | abandon bad error now =>
    cases bad
    subst now
    exact ⟨_, tally.abandon here fits error enters⟩

end Tally

/-! ## Every target reports -/

/-- What one target sends: any number of unfinished phases, then one finished
report. -/
structure TargetReports (deployID : UUID) where
  phases : List DeployOutput
  last : DeployOutput
  about : ∀ out ∈ phases ++ [last], out.deployID = some deployID ∧ out.targetID.isSome
  unfinished : ∀ out ∈ phases, out.finished = false
  finished : last.finished = true

namespace TargetReports

variable {deployID : UUID}

def messages (r : TargetReports deployID) : List DeployOutput := r.phases ++ [r.last]

def succeeded (r : TargetReports deployID) : Bool := r.last.success

theorem pending (r : TargetReports deployID) :
    Pending deployID (some r.succeeded) r.messages := by
  obtain ⟨phases, last, about, unfinished, finished⟩ := r
  simp only [messages, succeeded]
  induction phases with
  | nil =>
    obtain ⟨ofDeploy, ofTarget⟩ := about last (by simp)
    exact .last ofDeploy ofTarget finished
  | cons out phases ih =>
    obtain ⟨ofDeploy, ofTarget⟩ := about out (by simp)
    refine .phase ofDeploy ofTarget (unfinished out (by simp)) (ih ?_ ?_)
    · exact fun o member => about o (List.mem_cons_of_mem out member)
    · exact fun o member => unfinished o (List.mem_cons_of_mem out member)

end TargetReports

/-- The handlers of all the targets' reports, running beside each other. -/
def reportPool {deployID : UUID} (w : World) (reports : List (TargetReports deployID)) :
    Pool World :=
  ⟨w, reports.map fun r => handleReports r.messages⟩

/-- A deployment whose `TriggerDeploy` has returned: nothing is counted yet, its
replicas are its targets, and no promotion was started. -/
structure Launched (w : World) (deployID : UUID) (targets : Nat) : Prop where
  row : ∃ d, w.getDeployment deployID = some d ∧ d.replicasDesired = targets ∧ d.replicasReady = 0
  unclaimed : deployID ∉ w.pendingDeploy
  unpromoted : .ensureTrafficForDeployment deployID ∉ w.started

section Launched

variable {w : World} {deployID : UUID} {targets : Nat}

/-- An update of a deployment row that keeps the two counters. -/
theorem Launched.updateRow (launched : Launched w deployID targets) (id : UUID)
    (f : Deployment → Deployment) (keeps : ∀ r : Deployment, Keyed.key (f r) = Keyed.key r)
    (counters : ∀ r, (f r).replicasDesired = r.replicasDesired ∧
      (f r).replicasReady = r.replicasReady) :
    Launched { w with deployments := w.deployments.update id f keeps } deployID targets := by
  obtain ⟨d, found, desired, ready⟩ := launched.row
  refine ⟨?_, launched.unclaimed, launched.unpromoted⟩
  by_cases here : deployID = id
  · subst here
    refine ⟨f d, ?_, by rw [(counters d).1, desired], by rw [(counters d).2, ready]⟩
    rw [World.getDeployment, Table.find?_update_self]
    exact congrArg _ found
  · refine ⟨d, ?_, desired, ready⟩
    rw [World.getDeployment, Table.find?_update_ne here]
    exact found

/-- The loop of `TriggerDeploy` and its closing write keep the counters. -/
theorem launchTargets_keeps (launch : Launch) (deployment : Deployment)
    (scheduled : List (UUID × ScheduledTarget)) :
    (launchTargets launch deployment scheduled).Every fun effect =>
      ∀ w, Launched w deployID targets → Launched (effect w) deployID targets := by
  induction scheduled with
  | nil =>
    refine Prog.Every.bind ?_ fun _ => trivial
    rw [Prog.every_exec]
    exact fun w launched => launched.updateRow _ _ _ fun _ => ⟨rfl, rfl⟩
  | cons head rest ih =>
    refine Prog.Every.bind ?_ fun created => ?_
    · rw [Prog.every_atomic]
      intro w launched
      simp only [World.createDeploymentTarget]
      split
      · exact launched
      · split
        · exact ⟨launched.row, launched.unclaimed, launched.unpromoted⟩
        · exact launched
    · cases created with
      | none => trivial
      | some target =>
        refine Prog.Every.bind ?_ fun _ => ih
        rw [go, Prog.every_exec]
        intro w launched
        refine ⟨launched.row, launched.unclaimed, ?_⟩
        simpa using launched.unpromoted

/-- **`TriggerDeploy` leaves a launched deployment.** -/
theorem launched_of_launchDeploy (launch : Launch) (w : World) {d : Deployment}
    (returned : (launchDeploy launch).result w = .ok d)
    (unclaimed : launch.deploymentID ∉ w.pendingDeploy)
    (unpromoted : .ensureTrafficForDeployment launch.deploymentID ∉ w.started) :
    Launched ((launchDeploy launch).out w) launch.deploymentID launch.targets.length := by
  simp only [Prog.result, Prog.out, launchDeploy, Prog.run_atomic_bind] at returned ⊢
  cases created : createLaunched launch w with
  | mk w' deployment =>
    rw [created] at returned
    cases deployment with
    | none => cases returned
    | some deployment =>
      refine (launchTargets_keeps launch deployment launch.targets).run_preserves ?_
      simp only [createLaunched, World.createDeployment] at created
      split at created
      · rename_i inserted
        split at inserted
        · rename_i rows fits
          cases inserted
          cases created
          have found := (Table.find?_insert? fits launch.deploymentID).trans (if_pos rfl)
          exact ⟨⟨_, found, rfl, rfl⟩, unclaimed, unpromoted⟩
        · cases inserted
      · cases created

end Launched

/-- How the deployment ends: its status, its counter, and whether it is promoted. -/
structure Outcome (w : World) (deployID : UUID) (reports : List (TargetReports deployID)) :
    Prop where
  healthy : (∀ r ∈ reports, r.succeeded = true) →
    ∃ d, w.getDeployment deployID = some d ∧ d.status = .healthy
  failed : (∃ r ∈ reports, r.succeeded = false) →
    ∃ d, w.getDeployment deployID = some d ∧ d.status = .failed
  ready : ∃ d, w.getDeployment deployID = some d ∧
    d.replicasReady = reports.countP TargetReports.succeeded
  promoted : .ensureTrafficForDeployment deployID ∈ w.started ↔ ∀ r ∈ reports, r.succeeded = true

section Reports

variable {deployID : UUID}

/-- The handlers at their start, each with the outcome its messages will bring. -/
def handlers (reports : List (TargetReports deployID)) : List (Bool × Control) :=
  reports.map fun r => (r.succeeded, .receive r.messages)

theorem stage_messages (r : TargetReports deployID) :
    (Control.receive r.messages).stage = .reporting := by
  obtain ⟨-, never⟩ | reporting := r.pending.stage_receive
  · cases never
  · exact reporting

theorem uncounted_handlers {reports : List (TargetReports deployID)} {t : Bool × Control}
    (member : t ∈ handlers reports) : counted t = false := by
  obtain ⟨r, -, rfl⟩ := List.mem_map.mp member
  simp [counted, stage_messages, Stage.pastIncrement]

theorem tally_start {w : World} {reports : List (TargetReports deployID)}
    (some_ : reports ≠ []) (launched : Launched w deployID reports.length) :
    ∃ d, Tally deployID w d (handlers reports) := by
  obtain ⟨d, found, desired, ready⟩ := launched.row
  have stages : ∀ t ∈ handlers reports, t.2.stage = .reporting := by
    intro t member
    obtain ⟨r, -, rfl⟩ := List.mem_map.mp member
    exact stage_messages r
  have notAll : ¬ AllCounted (handlers reports) := by
    obtain ⟨r, rest, rfl⟩ := List.exists_cons_of_ne_nil some_
    intro all
    have first : (r.succeeded, Control.receive r.messages) ∈ handlers (r :: rest) := by
      simp [handlers]
    have := all _ first
    rw [uncounted_handlers first] at this
    cases this
  refine ⟨d,
    { found := found
      unclaimed := launched.unclaimed
      fits := ?_
      desired := by simpa [handlers] using desired
      ready := ?_
      closing := ?_
      promoted := fun started => absurd started launched.unpromoted
      failed := ?_
      healthy := fun all => absurd all notAll }⟩
  · intro t member
    obtain ⟨r, -, rfl⟩ := List.mem_map.mp member
    exact .inr r.pending
  · have none_ : (handlers reports).countP counted = 0 := by
      rw [List.countP_eq_zero]
      intro t member
      simp [uncounted_handlers member]
    rw [ready, none_]
    rfl
  · intro t member closing
    simp [stages t member] at closing
  · intro t member _ halt
    simp [stages t member] at halt

theorem tally_run {w : World} {ts : List (Bool × Control)} (start : ∃ d, Tally deployID w d ts)
    (schedule : List Nat) :
    let c := (reportFlow.tagged Bool).run (fun _ _ => []) (w, ts) schedule
    (∃ d, Tally deployID c.1 d c.2) ∧ c.2.map Prod.fst = ts.map Prod.fst := by
  refine Flow.run_invariant
    (I := fun c => (∃ d, Tally deployID c.1 d c.2) ∧ c.2.map Prod.fst = ts.map Prod.fst)
    ?_ ⟨start, rfl⟩ schedule
  rintro ⟨w, us⟩ i ⟨⟨d, tally⟩, outcomes⟩
  obtain same | ⟨⟨ok, k⟩, effect, next, here, edge, moved⟩ :=
    Flow.advance_cases (reportFlow.tagged Bool) (fun _ _ => []) (w, us) i
  · rw [same]
    exact ⟨⟨d, tally⟩, outcomes⟩
  · obtain ⟨next', edge', marked⟩ := Flow.tagged_act edge
    rw [moved, marked w, List.append_nil]
    obtain ⟨fits, move⟩ := Control.moves (tally.fits _ (List.mem_of_getElem? here)) edge' w
    refine ⟨tally.step here fits move, ?_⟩
    have position : (us.map Prod.fst)[i]? = some ok := by
      rw [List.getElem?_map, here]
      rfl
    obtain ⟨bound, value⟩ := List.getElem?_eq_some_iff.mp position
    simp only [List.map_set]
    rw [← value, List.set_getElem_self]
    exact outcomes

theorem stage_halted {k : Control} (halted : k.act = none) : k.stage = .halt := by
  cases k with
  | receive outs =>
    cases outs with
    | nil => rfl
    | cons out rest => cases halted
  | _ => cases halted

/-- **The outcome does not depend on the order.**  Once `TriggerDeploy` has
returned and every target sends its one finished report, every schedule of the
handlers can be run to its end, and at every end the deployment is healthy when
all targets succeeded and failed when one did not, the counter is the number of
successes, and the promotion was started exactly when all succeeded. -/
theorem outcome_of_every_order {w : World} {reports : List (TargetReports deployID)}
    (some_ : reports ≠ []) (launched : Launched w deployID reports.length)
    (schedule : List Nat) :
    (∃ more, ((reportPool w reports).run Pool.noSpawn (schedule ++ more)).Finished) ∧
      (((reportPool w reports).run Pool.noSpawn schedule).Finished →
        Outcome ((reportPool w reports).run Pool.noSpawn schedule).store deployID reports) := by
  constructor
  · obtain ⟨more, finished⟩ := Pool.exists_finishing
      ((reportPool w reports).run Pool.noSpawn schedule)
    exact ⟨more, by rw [Pool.run_append]; exact finished⟩
  have presents : (reportFlow.tagged Bool).Presents fun t => Control.code t.2 :=
    Flow.tagged_presents reportFlow_presents
  have coded : reportPool w reports = Flow.pool (fun t => Control.code t.2) (w, handlers reports) := by
    simp only [reportPool, Flow.pool, handlers, List.map_map]
    rfl
  rw [coded, Flow.run_coded_noSpawn presents]
  intro finished
  rw [Flow.finished_coded presents] at finished
  obtain ⟨⟨d, tally⟩, outcomes⟩ := tally_run (tally_start some_ launched) schedule
  generalize (reportFlow.tagged Bool).run (fun _ _ => []) (w, handlers reports) schedule = c
    at finished tally outcomes
  obtain ⟨w', ts⟩ := c
  have halt : ∀ t ∈ ts, t.2.stage = .halt := fun t member =>
    stage_halted (Option.map_eq_none_iff.mp (finished t member))
  have asReported : ts.map Prod.fst = reports.map TargetReports.succeeded := by
    rw [outcomes, handlers, List.map_map]
    rfl
  have countedIs : ∀ t ∈ ts, counted t = t.1 := by
    intro t member
    simp [counted, halt t member, Stage.pastIncrement]
  have allIff : AllCounted ts ↔ ∀ r ∈ reports, r.succeeded = true := by
    have : AllCounted ts ↔ ∀ ok ∈ ts.map Prod.fst, ok = true := by
      simp only [AllCounted, List.forall_mem_map]
      exact forall₂_congr fun t member => by rw [countedIs t member]
    rw [this, asReported, List.forall_mem_map]
  refine
    { healthy := fun all => ⟨d, tally.found, ?_⟩
      failed := ?_
      ready := ⟨d, tally.found, ?_⟩
      promoted := ⟨fun started => allIff.mp (tally.promoted started), fun all => ?_⟩ }
  · rcases tally.healthy (allIff.mpr all) with ⟨t, member, busy⟩ | ⟨status, -⟩
    · simp [halt t member] at busy
    · exact status
  · rintro ⟨r, member, bad⟩
    have : false ∈ ts.map Prod.fst := by
      rw [asReported, ← bad]
      exact List.mem_map_of_mem member
    obtain ⟨t, inside, outcome⟩ := List.mem_map.mp this
    exact ⟨d, tally.found, tally.failed t inside outcome (halt t inside)⟩
  · have : ts.countP counted = (ts.map Prod.fst).countP id := by
      rw [List.countP_map]
      apply List.countP_congr
      intro t member
      simp [countedIs t member]
    rw [tally.ready, this, asReported, List.countP_map]
    rfl
  · rcases tally.healthy (allIff.mpr all) with ⟨t, member, busy⟩ | ⟨-, started | ⟨t, member, busy⟩⟩
    · simp [halt t member] at busy
    · exact started
    · simp [halt t member] at busy

end Reports

section TwoTargets

/-- One app with a build and two servers of its cluster. -/
def twoServers : World :=
  { teams := .single ⟨11, "acme"⟩
    projects := .single shopOfTeam
    apps := .single webApp
    builds := .single builtWeb
    servers := ⟨[{ id := 71, teamID := 11 }, { id := 72, teamID := 11 }], by decide⟩ }

def twoTargets : Launch :=
  { deploymentID := 1
    environmentID := 40
    build := builtWeb
    app := webApp
    project := shopOfTeam
    targets := [(81, ⟨{ serverID := 71 }, ""⟩), (82, ⟨{ serverID := 72 }, ""⟩)] }

/-- The first target succeeds after two phases, the second fails at once. -/
def mixedReports : List (TargetReports 1) :=
  [{ phases := [⟨some 1, some 81, "starting", "", false, false, ""⟩,
        ⟨some 1, some 81, "health_checking", "c1", false, false, ""⟩]
     last := ⟨some 1, some 81, "healthy", "c1", true, true, ""⟩
     about := by decide
     unfinished := by decide
     finished := rfl },
   { phases := []
     last := ⟨some 1, some 82, "failed", "", true, false, "docker run failed"⟩
     about := by decide
     unfinished := by decide
     finished := rfl }]

theorem twoTargets_launched : Launched ((launchDeploy twoTargets).out twoServers) 1 2 :=
  launched_of_launchDeploy twoTargets twoServers
    (d := { id := 1, appID := 20, environmentID := 40, buildID := 30, replicasDesired := 2 })
    (by decide) (by decide) (by decide)

/-- The failure is handled between the increment and the read of the success. -/
theorem outcome_of_mixed_reports :
    Outcome ((reportPool ((launchDeploy twoTargets).out twoServers) mixedReports).run
      Pool.noSpawn [0, 0, 0, 0, 0, 0, 0, 1, 1, 1, 0]).store 1 mixedReports :=
  (outcome_of_every_order (by decide) twoTargets_launched
    [0, 0, 0, 0, 0, 0, 0, 1, 1, 1, 0]).2 (by decide)

end TwoTargets

end Nixway.Deploy
