/-
# Apps.ContainerTerminal -- a shell in a replica of an app

`Connect` of `internal/api/handler/container_terminal.go`.  The handler lists the healthy
containers of the app and takes the one the request names; the agent is the one of that
container's server.  The name of the container, however, is made of the newest deployment of
the app, whatever its status and environment, and the session is recorded under the nil
team when the user comes with a session and not with a token.

`terminal_iff` says when the shell is opened in the replica that was chosen.
-/
import Nixway.Access.Tokens
import Nixway.Deploy.Traffic

namespace Nixway.Apps

open Nixway.Theory Nixway.Theory.Text Nixway.Store Nixway.Access Nixway.Deploy
open Nixway.Theory.Prog (query exec atomic forEach)

set_option autoImplicit false

/-! ## Rows and messages -/

inductive SessionType where
  | ssh | containerExec

/-- `terminal_sessions`. -/
structure TerminalSession where
  id : UUID
  teamID : UUID
  userID : UUID
  appID : Option UUID
  serverID : UUID
  containerName : Option String
  replicaIndex : Option Nat
  sessionType : SessionType
  clientIP : Option String
  endedAt : Option Nat := none

instance : Keyed TerminalSession UUID := ⟨TerminalSession.id⟩

structure ContainerExecCommand where
  sessionID : String
  containerName : String
  command : String := "/bin/sh"
  cols : Int := 120
  rows : Int := 40

structure ContainerExecInput where
  sessionID : String
  data : String := ""
  cols : Int := 0
  rows : Int := 0
  close : Bool := false

inductive ExecMessage where
  | containerExec (cmd : ContainerExecCommand)
  | containerExecInput (input : ContainerExecInput)

/-- What the browser sends: bytes that are no JSON, or a message with a type. -/
inductive WsMessage where
  | raw (data : String)
  | input (data : String)
  | resize (cols rows : Int)
  | other

/-- The rows `Connect` works on, and what it hands to the agents. -/
structure Desk where
  world : World := {}
  users : List UUID := []
  terminalSessions : Table TerminalSession := .empty
  sent : List (String × ExecMessage) := []

/-! ## Statements -/

/-- A row of `ListActiveContainersByApp`. -/
structure ActiveContainer where
  targetID : UUID
  containerID : Option String
  serverID : UUID
  agentID : Option String
deriving DecidableEq

namespace Desk

/-- The join behind `ListActiveContainersByApp`: the row of one target. -/
def activeContainer (s : Desk) (appID : UUID) (t : DeploymentTarget) : Option ActiveContainer :=
  match s.world.deployments.find? t.deploymentID, s.world.servers.find? t.serverID with
  | some d, some server =>
    if d.appID = appID ∧ d.status = .healthy ∧ t.status = .healthy then
      some ⟨t.id, t.containerID, t.serverID, server.agentID⟩
    else none
  | _, _ => none

def listActiveContainersByApp (s : Desk) (appID : UUID) : List ActiveContainer :=
  s.world.targets.rows.filterMap (s.activeContainer appID)

/-- `ListDeploymentsByApp`: of any status and environment, newest first. -/
def listDeploymentsByApp (s : Desk) (appID : UUID) (limit offset : Nat) : List Deployment :=
  (((s.world.deployments.rows.filter fun d =>
    d.appID = appID && (s.world.builds.find? d.buildID).isSome).insertionSort
      fun a b => b.createdAt ≤ a.createdAt).drop offset).take limit

/-- `INSERT INTO terminal_sessions`: team, user, app and server must exist. -/
def createTerminalSession (s : Desk) (row : TerminalSession) : Desk × Bool :=
  if (s.world.teams.find? row.teamID).isSome ∧ row.userID ∈ s.users ∧
      row.appID.all (fun id => (s.world.apps.find? id).isSome) ∧
      (s.world.servers.find? row.serverID).isSome then
    match s.terminalSessions.insert? row with
    | some rows => ({ s with terminalSessions := rows }, true)
    | none => (s, false)
  else (s, false)

def endTerminalSession (s : Desk) (id : UUID) : Desk :=
  { s with terminalSessions := s.terminalSessions.update id fun row =>
      { row with endedAt := some s.world.now } }

/-- `SendToAgent`. -/
def sendToAgent (agentID : String) (msg : ExecMessage) (s : Desk) : Desk × Except String Unit :=
  match s.world.agents.find? agentID with
  | none => (s, .error ("agent " ++ agentID ++ " not connected"))
  | some state =>
    match state.stream with
    | .missing => (s, .error ("agent " ++ agentID ++ " has no active stream"))
    | .broken error => (s, .error error)
    | .live => ({ s with sent := s.sent ++ [(agentID, msg)] }, .ok ())

end Desk

/-! ## Connect -/

/-- A request, with the ids that are drawn for it and what the browser does with it. -/
structure ConnectRequest where
  http : Request
  appID : UUID
  /-- The query value `replica`. -/
  replica : String := ""
  clientIP : Option String := none
  id : UUID
  sessionID : UUID
  upgrades : Bool := true
  messages : List WsMessage := []

inductive Reply where
  | error (status : Nat) (text : String)
  | upgradeFailed
  | closed (text : String)
deriving DecidableEq

/-- The replica a request names, the first one if it names none that is there. -/
def replicaIndex (replica : String) (count : Nat) : Nat :=
  match atoi replica.toList with
  | some v => if 0 ≤ v ∧ v < count then v.toNat else 0
  | none => 0

/-- What is passed on to the agent. -/
def relay (sessionID : String) : WsMessage → Option ContainerExecInput
  | .raw data => some { sessionID := sessionID, data := data }
  | .input data => some { sessionID := sessionID, data := data }
  | .resize cols rows =>
    if 0 < cols ∧ 0 < rows then some { sessionID := sessionID, cols := cols, rows := rows } else none
  | .other => none

namespace ConnectRequest

/-- The websocket is read to its end, and the session closed. -/
def serve (req : ConnectRequest) (agentID : String) : Prog Desk Unit := do
  forEach req.messages fun msg =>
    match relay req.sessionID.text msg with
    | none => .done ⟨⟩
    | some input => do
      let _ ← atomic (Desk.sendToAgent agentID (.containerExecInput input))
  let _ ← atomic (Desk.sendToAgent agentID
    (.containerExecInput { sessionID := req.sessionID.text, close := true }))

/-- After the upgrade: the command goes to the agent, and the session ends in any case. -/
def start (req : ConnectRequest) (agentID containerName : String) : Prog Desk Reply := do
  match ← atomic (Desk.sendToAgent agentID
      (.containerExec { sessionID := req.sessionID.text, containerName := containerName })) with
  | .error err =>
    exec fun s => s.endTerminalSession req.id
    return .closed ("Failed to start exec session: " ++ err)
  | .ok () =>
    req.serve agentID
    exec fun s => s.endTerminalSession req.id
    return .closed ""

/-- The session is recorded; a session user has no team. -/
def record (req : ConnectRequest) (auth : AuthContext) (target : ActiveContainer) (index : Nat)
    (containerName : String) : TerminalSession where
  id := req.id
  teamID := auth.teamID.getD UUID.nil
  userID := auth.userID
  appID := some req.appID
  serverID := target.serverID
  containerName := some containerName
  replicaIndex := some index
  sessionType := .containerExec
  clientIP := req.clientIP

def enter (req : ConnectRequest) (auth : AuthContext) (target : ActiveContainer) (index : Nat)
    (agentID containerName : String) : Prog Desk Reply := do
  match ← atomic fun s => s.createTerminalSession (req.record auth target index containerName) with
  | false => return .error 500 "failed to create session"
  | true =>
    if !req.upgrades then
      return .upgradeFailed
    req.start agentID containerName

/-- The name of the container is made of the newest deployment. -/
def name (req : ConnectRequest) (auth : AuthContext) (target : ActiveContainer) (index : Nat)
    (agentID : String) : Prog Desk Reply := do
  match ← query fun s => s.world.apps.find? req.appID with
  | none => return .error 404 "app not found"
  | some app =>
    match ← query fun s => s.listDeploymentsByApp req.appID 1 0 with
    | [] => return .error 404 "no deployments found"
    | newest :: _ => req.enter auth target index agentID (containerName app.slug newest.id)

/-- **`Connect`**. -/
def connect (p : Platform) (req : ConnectRequest) : Prog Desk Reply :=
  match authenticate p req.http with
  | none => .done (.error 401 "authentication required")
  | some auth => do
    let containers ← query fun s => s.listActiveContainersByApp req.appID
    let index := replicaIndex req.replica containers.length
    match containers[index]? with
    | none => return .error 404 "no running containers found"
    | some target =>
      match target.agentID with
      | none => return .error 503 "agent not available for this replica"
      | some agentID => req.name auth target index agentID

end ConnectRequest

/-! ## What is handed to the agents -/

/-- The shells that were asked for: the agent and the name of the container. -/
def Desk.shells (s : Desk) : List (String × String) :=
  s.sent.filterMap fun (agentID, msg) =>
    match msg with
    | .containerExec cmd => some (agentID, cmd.containerName)
    | .containerExecInput _ => none

/-- The agent takes commands. -/
def Desk.live (s : Desk) (agentID : String) : Bool :=
  match s.world.agents.find? agentID with
  | some state => decide (state.stream = .live)
  | none => false

/-- A message reaches an agent that takes commands, and no other. -/
theorem Desk.sendToAgent_cases (s : Desk) (agentID : String) (msg : ExecMessage) :
    (s.live agentID = true ∧
        s.sendToAgent agentID msg = ({ s with sent := s.sent ++ [(agentID, msg)] }, .ok ())) ∨
      (s.live agentID = false ∧ ∃ err, s.sendToAgent agentID msg = (s, .error err)) := by
  unfold Desk.sendToAgent Desk.live
  cases s.world.agents.find? agentID with
  | none => exact .inr ⟨rfl, _, rfl⟩
  | some state =>
    cases stream : state.stream with
    | missing => exact .inr ⟨by simp [stream], _, by simp only [stream]; rfl⟩
    | broken error => exact .inr ⟨by simp [stream], _, by simp only [stream]; rfl⟩
    | live => exact .inl ⟨by simp [stream], by simp only [stream]⟩

theorem shells_input (s : Desk) (agentID : String) (input : ContainerExecInput) :
    (s.sendToAgent agentID (.containerExecInput input)).1.shells = s.shells := by
  obtain ⟨-, sent⟩ | ⟨-, err, failed⟩ := s.sendToAgent_cases agentID (.containerExecInput input)
  · rw [sent]
    simp [Desk.shells]
  · rw [failed]

theorem shells_serve (req : ConnectRequest) (agentID : String) (s : Desk) :
    ((req.serve agentID).run s).1.shells = s.shells := by
  refine Prog.Every.run_unchanged Desk.shells ?_ s
  refine Prog.Every.bind (Prog.Every.forEach _ fun msg _ => ?_) fun _ => ?_
  · cases relay req.sessionID.text msg with
    | none => trivial
    | some input =>
      refine Prog.Every.bind ((Prog.every_atomic _).mpr fun s => ?_) fun _ => trivial
      exact shells_input s agentID input
  · refine Prog.Every.bind ((Prog.every_atomic _).mpr fun s => ?_) fun _ => trivial
    exact shells_input s agentID _

theorem shells_start (req : ConnectRequest) (agentID containerName : String) (s : Desk) :
    ((req.start agentID containerName).run s).1.shells =
      s.shells ++ if s.live agentID then [(agentID, containerName)] else [] := by
  unfold ConnectRequest.start
  rw [Prog.run_atomic_bind]
  obtain ⟨live, sent⟩ | ⟨dead, err, failed⟩ := s.sendToAgent_cases agentID
    (.containerExec { sessionID := req.sessionID.text, containerName := containerName })
  · simp only [sent, live, if_true]
    rw [Prog.run_bind]
    show ((req.serve agentID).run _).1.shells = _
    rw [shells_serve]
    simp [Desk.shells]
  · simp only [failed, dead, Bool.false_eq_true, if_false, List.append_nil]
    rfl

theorem createTerminalSession_world (s : Desk) (row : TerminalSession) :
    (s.createTerminalSession row).1.world = s.world ∧ (s.createTerminalSession row).1.sent = s.sent := by
  unfold Desk.createTerminalSession
  split
  · split
    · exact ⟨rfl, rfl⟩
    · exact ⟨rfl, rfl⟩
  · exact ⟨rfl, rfl⟩

theorem shells_enter (req : ConnectRequest) (auth : AuthContext) (target : ActiveContainer)
    (index : Nat) (agentID name : String) (s : Desk) :
    ((req.enter auth target index agentID name).run s).1.shells =
      s.shells ++ if (s.createTerminalSession (req.record auth target index name)).2 ∧
        req.upgrades ∧ s.live agentID then [(agentID, name)] else [] := by
  unfold ConnectRequest.enter
  rw [Prog.run_atomic_bind]
  obtain ⟨world, sent⟩ := createTerminalSession_world s (req.record auth target index name)
  have shells : (s.createTerminalSession (req.record auth target index name)).1.shells = s.shells := by
    simp only [Desk.shells, sent]
  have live : (s.createTerminalSession (req.record auth target index name)).1.live agentID =
      s.live agentID := by
    simp only [Desk.live, world]
  cases recorded : (s.createTerminalSession (req.record auth target index name)).2 with
  | false => simpa using shells
  | true =>
    cases upgrades : req.upgrades with
    | false => simpa using shells
    | true =>
      simp only [Bool.not_true, Bool.false_eq_true, if_false, true_and]
      rw [shells_start, shells, live]

/-- The shell a request asks for, as the rows stand. -/
def ConnectRequest.shell (req : ConnectRequest) (auth : AuthContext) (s : Desk) :
    Option (String × String) := do
  let containers := s.listActiveContainersByApp req.appID
  let index := replicaIndex req.replica containers.length
  let target ← containers[index]?
  let agentID ← target.agentID
  let app ← s.world.apps.find? req.appID
  let newest ← (s.listDeploymentsByApp req.appID 1 0).head?
  let name := containerName app.slug newest.id
  if (s.createTerminalSession (req.record auth target index name)).2 ∧ req.upgrades ∧
      s.live agentID then
    some (agentID, name)
  else none

/-- **A request asks for this shell and for no other.** -/
theorem shells_connect {p : Platform} {req : ConnectRequest} {auth : AuthContext}
    (known : authenticate p req.http = some auth) (s : Desk) :
    ((req.connect p).run s).1.shells = s.shells ++ (req.shell auth s).toList := by
  unfold ConnectRequest.connect ConnectRequest.shell
  simp only [known, Prog.run_query_bind]
  cases (s.listActiveContainersByApp req.appID)[replicaIndex req.replica
      (s.listActiveContainersByApp req.appID).length]? with
  | none => simp
  | some target =>
    simp only [Option.bind_eq_bind, Option.bind_some]
    cases agent : target.agentID with
    | none => simp
    | some agentID =>
      simp only [ConnectRequest.name, Prog.run_query_bind, Option.bind_some]
      cases s.world.apps.find? req.appID with
      | none => simp
      | some app =>
        simp only [Prog.run_query_bind, Option.bind_some]
        cases s.listDeploymentsByApp req.appID 1 0 with
        | nil => simp
        | cons newest rest =>
          simp only [List.head?_cons, Option.bind_some]
          rw [shells_enter]
          split
          · rfl
          · rfl

/-! ## The replica that was chosen -/

/-- A user who comes without a token has no team. -/
theorem session_user_no_team {p : Platform} {r : Request} {auth : AuthContext}
    (session : hasPrefix r.authorization "Bearer " = false) (known : authenticate p r = some auth) :
    auth.teamID = none := by
  have plain : ∀ token : String, (if token = "" then none
      else (p.sessions token).map fun userID => ({ userID := userID } : AuthContext)) = some auth →
      auth.teamID = none := by
    intro token found
    split at found
    · cases found
    · obtain ⟨userID, -, rfl⟩ := Option.map_eq_some_iff.mp found
      rfl
  unfold authenticate at known
  simp only [session, Bool.false_eq_true, if_false] at known
  exact plain _ known

theorem containerName_inj {slug : String} {a b : UUID} :
    containerName slug a = containerName slug b ↔ a.short = b.short := by
  simp [containerName, String.ext_iff]

theorem server_of_active {s : Desk} {appID : UUID} {row : ActiveContainer}
    (mem : row ∈ s.listActiveContainersByApp appID) :
    (s.world.servers.find? row.serverID).isSome := by
  obtain ⟨t, -, made⟩ := List.mem_filterMap.mp mem
  unfold Desk.activeContainer at made
  split at made
  · next d server _ found =>
    split at made
    · cases made
      simp [found]
    · cases made
  · cases made

theorem createTerminalSession_iff {s : Desk} {row : TerminalSession} :
    (s.createTerminalSession row).2 = true ↔
      (s.world.teams.find? row.teamID).isSome ∧ row.userID ∈ s.users ∧
        row.appID.all (fun id => (s.world.apps.find? id).isSome) ∧
        (s.world.servers.find? row.serverID).isSome ∧ s.terminalSessions.find? row.id = none := by
  unfold Desk.createTerminalSession
  constructor
  · intro made
    split at made
    · next refs =>
      obtain ⟨team, user, app, server⟩ := refs
      cases inserted : s.terminalSessions.insert? row with
      | none =>
        simp only [inserted] at made
        cases made
      | some rows =>
        have free := (Table.insert?_eq_some_iff.mp inserted).1
        exact ⟨team, user, app, server, Table.find?_eq_none_iff.mpr free⟩
    · cases made
  · rintro ⟨team, user, app, server, free⟩
    rw [if_pos ⟨team, user, app, server⟩]
    cases inserted : s.terminalSessions.insert? row with
    | none => exact absurd free (Table.insert?_eq_none_iff.mp inserted)
    | some rows => rfl

/-- What a shell in the chosen replica takes: a team with the nil id, the user and the app, a free
id for the session, a browser that upgrades, an agent that takes commands, and that the
newest deployment of the app has the short id of the replica's own. -/
structure Fits (req : ConnectRequest) (auth : AuthContext) (s : Desk) (target : ActiveContainer) :
    Prop where
  team : (s.world.teams.find? UUID.nil).isSome
  user : auth.userID ∈ s.users
  app : (s.world.apps.find? req.appID).isSome
  free : s.terminalSessions.find? req.id = none
  upgrades : req.upgrades = true
  agent : ∃ agentID, target.agentID = some agentID ∧ s.live agentID = true
  newest : ∃ newest t, (s.listDeploymentsByApp req.appID 1 0).head? = some newest ∧
    s.world.targets.find? target.targetID = some t ∧ newest.id.short = t.deploymentID.short

/-- The request asks for a shell at the agent of the row, in the container of its target, and
for no other. -/
def OpensChosen (p : Platform) (req : ConnectRequest) (s : Desk) (target : ActiveContainer) : Prop :=
  ∃ agentID app t, target.agentID = some agentID ∧ s.world.apps.find? req.appID = some app ∧
    s.world.targets.find? target.targetID = some t ∧
    ((req.connect p).run s).1.shells =
      s.shells ++ [(agentID, containerName app.slug t.deploymentID)]

/-- **A terminal opens the chosen replica exactly where the newest deployment is its own and the
session can be recorded.** -/
theorem terminal_iff (p : Platform) (req : ConnectRequest) (s : Desk) {auth : AuthContext}
    {target : ActiveContainer} (session : hasPrefix req.http.authorization "Bearer " = false)
    (known : authenticate p req.http = some auth)
    (chosen : (s.listActiveContainersByApp req.appID)[replicaIndex req.replica
      (s.listActiveContainersByApp req.appID).length]? = some target) :
    OpensChosen p req s target ↔ Fits req auth s target := by
  have noTeam := session_user_no_team session known
  have server := server_of_active (List.mem_of_getElem? chosen)
  unfold OpensChosen
  simp only [shells_connect known, List.append_cancel_left_eq]
  constructor
  · rintro ⟨agentID, app, t, agent, found, place, shell⟩
    simp only [ConnectRequest.shell, chosen, agent, found, Option.bind_eq_bind, Option.bind_some]
      at shell
    cases newest : (s.listDeploymentsByApp req.appID 1 0).head? with
    | none => simp [newest] at shell
    | some d =>
      simp only [newest, Option.bind_some] at shell
      split at shell
      · next ok =>
        obtain ⟨recorded, upgrades, live⟩ := ok
        obtain ⟨team, user, apps, -, free⟩ := createTerminalSession_iff.mp recorded
        simp only [ConnectRequest.record, noTeam, Option.getD_none] at team user free
        have names : containerName app.slug d.id = containerName app.slug t.deploymentID := by
          simpa using shell
        exact ⟨team, user, by rw [found]; rfl, free, upgrades, ⟨agentID, agent, live⟩,
          ⟨d, t, newest, place, containerName_inj.mp names⟩⟩
      · cases shell
  · rintro ⟨team, user, app, free, upgrades, ⟨agentID, agent, live⟩, d, t, newest, place, same⟩
    obtain ⟨app, found⟩ := Option.isSome_iff_exists.mp app
    refine ⟨agentID, app, t, agent, found, place, ?_⟩
    have recorded : (s.createTerminalSession (req.record auth target
        (replicaIndex req.replica (s.listActiveContainersByApp req.appID).length)
        (containerName app.slug d.id))).2 = true := by
      refine createTerminalSession_iff.mpr ⟨?_, user, ?_, server, free⟩
      · simpa [ConnectRequest.record, noTeam] using team
      · simp [ConnectRequest.record, found]
    simp only [ConnectRequest.shell, chosen, agent, found, newest, recorded, upgrades, live,
      Option.bind_eq_bind, Option.bind_some, and_self, if_true, Option.toList_some]
    rw [containerName_inj.mpr same]

/-! ## A shell in another container -/

def servingID : UUID := 0xaaaaaaaa000040008000000000000001

def pendingID : UUID := 0xbbbbbbbb000040008000000000000002

def servingDeployment : Deployment :=
  { id := servingID, appID := 1, environmentID := 4, buildID := 6, status := .healthy }

def pendingDeployment : Deployment :=
  { id := pendingID, appID := 1, environmentID := 4, buildID := 6, createdAt := 1 }

/-- An app with one replica that is served. -/
def servedDesk (teams : Table Team) : Desk :=
  { world := {
      teams := teams
      apps := ⟨[{ id := 1, projectID := 5, name := "Web", slug := "web" }], by decide⟩
      builds := ⟨[{ id := 6, appID := 1 }], by decide⟩
      servers := .single { id := 3, teamID := 2, agentID := some "agent-a" }
      deployments := ⟨[servingDeployment], by decide⟩
      targets := ⟨[{ id := 20, deploymentID := servingID, serverID := 3, status := .healthy }],
        by decide⟩
      agents := .single { agentID := "agent-a" } }
    users := [7] }

/-- A newer deployment waits for its build. -/
def pendingDesk (teams : Table Team) : Desk :=
  { servedDesk teams with world := { (servedDesk teams).world with
      deployments := ⟨[pendingDeployment, servingDeployment], by decide⟩ } }

def oneTeam : Table Team := ⟨[{ id := 2, slug := "shop" }], by decide⟩

/-- A team under the nil id, which no id that is drawn at random has. -/
def nilTeam : Table Team :=
  ⟨[{ id := UUID.nil, slug := "nil" }, { id := 2, slug := "shop" }], by decide⟩

def shopPlatform : Platform where
  memberships := [⟨2, 7, .owner⟩]
  apiTokens := []
  sessions token := if token = "cookie" then some 7 else none
  hashToken token := token
  now := 0

def firstReplica : ConnectRequest where
  http := { sessionCookie := some "cookie" }
  appID := 1
  replica := "0"
  id := 30
  sessionID := 31

/-- A session user gets no shell, as the session cannot be recorded; and if it could be, the shell
would be in the container of the deployment that is pending, not in the one that serves. -/
theorem newest_deployment_entered :
    ((pendingDesk oneTeam).listActiveContainersByApp 1).map ActiveContainer.targetID = [20] ∧
      ((firstReplica.connect shopPlatform).run (pendingDesk oneTeam)).2 =
        .error 500 "failed to create session" ∧
      ((firstReplica.connect shopPlatform).run (pendingDesk oneTeam)).1.shells = [] ∧
      ((firstReplica.connect shopPlatform).run (pendingDesk nilTeam)).1.shells =
        [("agent-a", "nixway-web-bbbbbbbb")] ∧
      containerName "web" servingID = "nixway-web-aaaaaaaa" ∧
      ∀ target ∈ (pendingDesk oneTeam).listActiveContainersByApp 1,
        ¬ OpensChosen shopPlatform firstReplica (pendingDesk oneTeam) target := by
  have none : ((firstReplica.connect shopPlatform).run (pendingDesk oneTeam)).1.shells = [] := by
    decide +kernel
  refine ⟨by decide +kernel, by decide +kernel, none, by decide +kernel, by decide +kernel, ?_⟩
  rintro target - ⟨agentID, app, t, -, -, -, opened⟩
  rw [none] at opened
  cases opened

theorem only_deployment_entered :
    OpensChosen shopPlatform firstReplica (servedDesk nilTeam) ⟨20, none, 3, some "agent-a"⟩ := by
  have known : authenticate shopPlatform firstReplica.http = some { userID := 7 } := by
    decide +kernel
  refine (terminal_iff shopPlatform firstReplica (servedDesk nilTeam) (by decide +kernel) known
    (by decide +kernel)).mpr ?_
  refine ⟨by decide, by decide, by decide, by decide, rfl, ⟨"agent-a", rfl, by decide +kernel⟩, ?_⟩
  exact ⟨_, _, rfl, rfl, rfl⟩

end Nixway.Apps
