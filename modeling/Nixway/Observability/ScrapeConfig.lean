/-
# Observability.ScrapeConfig -- the one file of scrape jobs

`BuildTeamScrapeConfig`, `SyncTeamScrapeConfig` and `SyncClusterScrapeConfig` of
`internal/observability/service.go`, with the cluster requests that cause the calls.  The file
of vmagent is shared by all teams; a call writes it anew from the clusters of one team.

`scrape_config_covers_iff` gives the runs in which the file covers every team after each call:
those in which each call finds no other team with clusters and a synchronisation behind it.
The file is kept as the list of its jobs; `text_of_filed` says what the text has of each.
-/
import Nixway.Store.Schema
import Nixway.Theory.Table
import Mathlib.Data.List.Sort

namespace Nixway.Observability

open Nixway.Theory Nixway.Store

set_option autoImplicit false

/-! ## Rows and jobs -/

/-- `clusters`, with the columns the calls read. -/
structure ClusterRow where
  id : UUID
  teamID : UUID
  createdAt : Int := 0
deriving DecidableEq

instance : Keyed ClusterRow UUID := ⟨ClusterRow.id⟩

/-- `servers`, likewise. -/
structure ServerRow where
  id : UUID
  teamID : UUID
  name : String

instance : Keyed ServerRow UUID := ⟨ServerRow.id⟩

/-- `cluster_members`; a server is in one cluster at most. -/
structure MemberRow where
  clusterID : UUID
  serverID : UUID
  wireguardIp : String

instance : Keyed MemberRow UUID := ⟨MemberRow.serverID⟩

structure Target where
  wireguardIp : String
  serverID : UUID
  serverName : String
deriving DecidableEq

structure ScrapeJob where
  clusterID : UUID
  targets : List Target
deriving DecidableEq

def escapeYAMLLabel (value : String) : String :=
  (value.replace "\\" "\\\\").replace "\"" "\\\""

def Target.text (clusterID : UUID) (t : Target) : String :=
  "      - targets: [\"" ++ t.wireguardIp ++ ":9100\"]\n" ++
  "        labels:\n" ++
  "          cluster_id: \"" ++ clusterID.text ++ "\"\n" ++
  "          server_id: \"" ++ t.serverID.text ++ "\"\n" ++
  "          server_name: \"" ++ escapeYAMLLabel t.serverName ++ "\"\n"

/-- What `writeClusterScrapeJob` appends. -/
def ScrapeJob.text (job : ScrapeJob) : String :=
  "  - job_name: nixway-agents-" ++ job.clusterID.text ++
  "\n    metrics_path: /metrics\n    static_configs:\n" ++
  if job.targets = [] then "      []\n"
  else String.join (job.targets.map (Target.text job.clusterID))

def scrapeConfigHeader : String :=
  "global:\n  scrape_interval: 15s\n  scrape_timeout: 10s\n\nscrape_configs:\n"

def configText (jobs : List ScrapeJob) : String :=
  scrapeConfigHeader ++ if jobs = [] then "  []\n" else String.join (jobs.map ScrapeJob.text)

/-! ## The calls -/

structure Fleet where
  servers : Table ServerRow := .empty
  clusters : Table ClusterRow := .empty
  members : Table MemberRow := .empty
  /-- The jobs of the file vmagent reads. -/
  file : List ScrapeJob := []
  /-- The team was synchronised, and had a cluster the last time. -/
  synced : UUID → Bool := fun _ => false
  /-- The ids clusters have been given. -/
  ids : List UUID := []

namespace Fleet

def listClustersByTeam (f : Fleet) (teamID : UUID) : List ClusterRow :=
  (f.clusters.rows.filter fun cluster => cluster.teamID = teamID).insertionSort
    fun a b => b.createdAt ≤ a.createdAt

/-- `GetClusterMembersForMesh`: the members of the cluster joined with their servers. -/
def getClusterMembersForMesh (f : Fleet) (clusterID : UUID) : List Target :=
  (f.members.rows.filter fun member => member.clusterID = clusterID).filterMap fun member =>
    (f.servers.find? member.serverID).map fun server => ⟨member.wireguardIp, server.id, server.name⟩

def scrapeJob (f : Fleet) (clusterID : UUID) : ScrapeJob :=
  ⟨clusterID, f.getClusterMembersForMesh clusterID⟩

def buildTeamScrapeConfig (f : Fleet) (teamID : UUID) : List ScrapeJob :=
  (f.listClustersByTeam teamID).map fun cluster => f.scrapeJob cluster.id

/-- The file is written as a whole; the text is what is answered. -/
def syncTeamScrapeConfig (f : Fleet) (teamID : UUID) : Fleet × String :=
  let jobs := f.buildTeamScrapeConfig teamID
  ({ f with
      file := jobs
      synced := fun team => if team = teamID then decide (jobs ≠ []) else f.synced team },
    configText jobs)

/-- A cluster that is not there is an error. -/
def syncClusterScrapeConfig (f : Fleet) (clusterID : UUID) : Fleet × Option String :=
  match f.clusters.find? clusterID with
  | none => (f, none)
  | some cluster =>
    let (f, config) := f.syncTeamScrapeConfig cluster.teamID
    (f, some config)

/-! ## The requests -/

/-- `CreateCluster`; a row is given an id that no cluster had before. -/
def createCluster (f : Fleet) (row : ClusterRow) : Fleet :=
  if row.id ∈ f.ids then f
  else
    match f.clusters.insert? row with
    | none => f
    | some clusters => { f with clusters := clusters, ids := row.id :: f.ids }

/-- `DeleteCluster`, with the members, who go with it. -/
def deleteCluster (f : Fleet) (id teamID : UUID) : Fleet :=
  if (f.clusters.find? id).any fun cluster => cluster.teamID = teamID then
    { f with
      clusters := f.clusters.deleteWhere fun cluster => cluster.id = id
      members := f.members.deleteWhere fun member => member.clusterID = id }
  else f

/-- `AddMember`: cluster and server are of the team, and the server is in no cluster yet.  The
address is what the allocator answers. -/
def addMember (f : Fleet) (teamID clusterID serverID : UUID) (wireguardIp : Option String) :
    Fleet :=
  let cluster? := (f.clusters.find? clusterID).filter fun cluster => cluster.teamID = teamID
  let server? := (f.servers.find? serverID).filter fun server => server.teamID = teamID
  match cluster?, server?, wireguardIp with
  | some _, some _, some ip =>
    match f.members.insert? ⟨clusterID, serverID, ip⟩ with
    | none => f
    | some members => { f with members := members }
  | _, _, _ => f

def removeMember (f : Fleet) (clusterID serverID : UUID) : Fleet :=
  { f with members := f.members.deleteWhere fun member =>
      member.clusterID = clusterID ∧ member.serverID = serverID }

end Fleet

/-- What happens in a run: requests, and the calls, which the requests start in the background
and which the endpoint makes. -/
inductive FleetEvent where
  | createCluster (row : ClusterRow)
  | deleteCluster (id teamID : UUID)
  | addMember (teamID clusterID serverID : UUID) (wireguardIp : Option String)
  | removeMember (clusterID serverID : UUID)
  | syncTeam (teamID : UUID)
  | syncCluster (clusterID : UUID)

namespace Fleet

def perform (f : Fleet) : FleetEvent → Fleet
  | .createCluster row => f.createCluster row
  | .deleteCluster id teamID => f.deleteCluster id teamID
  | .addMember teamID clusterID serverID ip => f.addMember teamID clusterID serverID ip
  | .removeMember clusterID serverID => f.removeMember clusterID serverID
  | .syncTeam teamID => (f.syncTeamScrapeConfig teamID).1
  | .syncCluster clusterID => (f.syncClusterScrapeConfig clusterID).1

def written (f : Fleet) : FleetEvent → Option UUID
  | .syncTeam teamID => some teamID
  | .syncCluster clusterID => (f.clusters.find? clusterID).map ClusterRow.teamID
  | _ => none

/-- Something holds of every call of a run: of the fleet before it and the team it is for. -/
def EachCall (Q : Fleet → UUID → Prop) : Fleet → List FleetEvent → Prop
  | _, [] => True
  | f, e :: events => (∀ teamID ∈ f.written e, Q f teamID) ∧ EachCall Q (f.perform e) events

instance eachCallDecidable (Q : Fleet → UUID → Prop) [∀ f teamID, Decidable (Q f teamID)] :
    ∀ (f : Fleet) (events : List FleetEvent), Decidable (EachCall Q f events)
  | _, [] => isTrue trivial
  | f, e :: events =>
    have := eachCallDecidable Q (f.perform e) events
    have : Decidable (∀ teamID ∈ f.written e, Q f teamID) :=
      match f.written e with
      | none => isTrue fun _ none => nomatch none
      | some teamID => decidable_of_iff (Q f teamID) (by simp)
    inferInstanceAs (Decidable (_ ∧ _))

/-- The file covers the teams: every cluster of a team that was last synchronised with a cluster
has a job, with its members for targets. -/
def Covers (f : Fleet) : Prop :=
  ∀ cluster ∈ f.clusters.rows, f.synced cluster.teamID →
    (∃ job ∈ f.file, job.clusterID = cluster.id) ∧
      ∀ job ∈ f.file, job.clusterID = cluster.id →
        job.targets = f.getClusterMembersForMesh cluster.id

/-- A call for the team covers the teams and takes no job from another team's cluster. -/
def CoversAfter (f : Fleet) (teamID : UUID) : Prop :=
  Covers (f.syncTeamScrapeConfig teamID).1 ∧
    ∀ cluster ∈ f.clusters.rows, cluster.teamID ≠ teamID →
      ∀ job ∈ f.file, job.clusterID = cluster.id → job ∈ (f.syncTeamScrapeConfig teamID).1.file

/-- No other team that was last synchronised with a cluster has one. -/
def Alone (f : Fleet) (teamID : UUID) : Prop :=
  ∀ cluster ∈ f.clusters.rows, cluster.teamID ≠ teamID → f.synced cluster.teamID = false

instance (f : Fleet) (teamID : UUID) : Decidable (Alone f teamID) :=
  inferInstanceAs (Decidable (∀ _ ∈ _, _))

/-- **The invariant.**  A job in the file is of a cluster whose team was synchronised. -/
structure Consistent (f : Fleet) : Prop where
  known : ∀ cluster ∈ f.clusters.rows, cluster.id ∈ f.ids
  filed : ∀ job ∈ f.file, job.clusterID ∈ f.ids
  owned : ∀ cluster ∈ f.clusters.rows, ∀ job ∈ f.file, job.clusterID = cluster.id →
    f.synced cluster.teamID

/-! ## What a call does -/

variable {f : Fleet}

theorem mem_listClustersByTeam {teamID : UUID} {cluster : ClusterRow} :
    cluster ∈ f.listClustersByTeam teamID ↔
      cluster ∈ f.clusters.rows ∧ cluster.teamID = teamID := by
  simp [listClustersByTeam]

theorem mem_buildTeamScrapeConfig {teamID : UUID} {job : ScrapeJob} :
    job ∈ f.buildTeamScrapeConfig teamID ↔
      ∃ cluster ∈ f.clusters.rows, cluster.teamID = teamID ∧ f.scrapeJob cluster.id = job := by
  simp only [buildTeamScrapeConfig, List.mem_map, mem_listClustersByTeam, and_assoc]

theorem eq_of_cluster_id {a b : ClusterRow} (left : a ∈ f.clusters.rows)
    (right : b ∈ f.clusters.rows) (same : a.id = b.id) : a = b :=
  Table.eq_of_key_eq left right same

/-- **The text of a call** has the block of every job of the file, and a block has the entry of
every target. -/
theorem text_of_filed {teamID : UUID} {job : ScrapeJob}
    (filed : job ∈ (f.syncTeamScrapeConfig teamID).1.file) :
    job.text.toList <:+: (f.syncTeamScrapeConfig teamID).2.toList ∧
      ∀ t ∈ job.targets, (t.text job.clusterID).toList <:+: job.text.toList := by
  have joined : ∀ {xs : List String} {head x : String}, x ∈ xs →
      x.toList <:+: (head ++ String.join xs).toList := by
    intro xs head x member
    rw [String.toList_append, String.toList_join, List.flatMap_def]
    exact (List.infix_of_mem_flatten (List.mem_map_of_mem member)).trans
      (List.suffix_append ..).isInfix
  have filed : job ∈ f.buildTeamScrapeConfig teamID := filed
  constructor
  · show _ <:+: (configText (f.buildTeamScrapeConfig teamID)).toList
    rw [configText, if_neg (List.ne_nil_of_mem filed)]
    exact joined (List.mem_map_of_mem filed)
  · intro t member
    obtain ⟨head, text⟩ : ∃ head, job.text =
        head ++ String.join (job.targets.map (Target.text job.clusterID)) :=
      ⟨_, congrArg _ (if_neg (List.ne_nil_of_mem member))⟩
    rw [text]
    exact joined (List.mem_map_of_mem member)

/-- **What a call covers.**  The file behind it holds the clusters of the team and no other. -/
theorem covers_sync_iff {teamID : UUID} :
    Covers (f.syncTeamScrapeConfig teamID).1 ↔ f.Alone teamID := by
  constructor
  · intro covers cluster member other
    by_contra synced
    rw [Bool.not_eq_false] at synced
    have still : (f.syncTeamScrapeConfig teamID).1.synced cluster.teamID := by
      simpa [syncTeamScrapeConfig, other] using synced
    obtain ⟨⟨job, filed, same⟩, -⟩ := covers cluster member still
    obtain ⟨mine, inside, team, rfl⟩ := mem_buildTeamScrapeConfig.mp filed
    cases eq_of_cluster_id inside member same
    exact other team
  · intro alone cluster member synced
    have team : cluster.teamID = teamID := by
      by_contra other
      have before := alone cluster member other
      simp [syncTeamScrapeConfig, other, before] at synced
    refine ⟨⟨f.scrapeJob cluster.id, mem_buildTeamScrapeConfig.mpr ⟨cluster, member, team, rfl⟩,
      rfl⟩, ?_⟩
    intro job filed same
    obtain ⟨mine, inside, -, rfl⟩ := mem_buildTeamScrapeConfig.mp filed
    have sameID : mine.id = cluster.id := same
    show f.getClusterMembersForMesh mine.id = f.getClusterMembersForMesh cluster.id
    rw [sameID]

theorem Consistent.coversAfter_iff (consistent : Consistent f) {teamID : UUID} :
    CoversAfter f teamID ↔ f.Alone teamID := by
  rw [CoversAfter, covers_sync_iff]
  constructor
  · exact And.left
  · intro alone
    refine ⟨alone, fun cluster member other job filed same => ?_⟩
    -- a job of another team's cluster would mean that team was synchronised
    have synced := consistent.owned cluster member job filed same
    rw [alone cluster member other] at synced
    cases synced

theorem Consistent.sync (consistent : Consistent f) (teamID : UUID) :
    Consistent (f.syncTeamScrapeConfig teamID).1 := by
  refine ⟨consistent.known, ?_, ?_⟩
  · intro job filed
    obtain ⟨mine, inside, -, rfl⟩ := mem_buildTeamScrapeConfig.mp filed
    exact consistent.known mine inside
  · intro cluster member job filed same
    obtain ⟨mine, inside, team, rfl⟩ := mem_buildTeamScrapeConfig.mp filed
    cases eq_of_cluster_id inside member same
    have some : f.buildTeamScrapeConfig teamID ≠ [] := List.ne_nil_of_mem filed
    simp [syncTeamScrapeConfig, team, some]

theorem Consistent.create (consistent : Consistent f) (row : ClusterRow) :
    Consistent (f.createCluster row) := by
  unfold createCluster
  split
  · exact consistent
  · next fresh =>
    cases inserted : f.clusters.insert? row with
    | none => exact consistent
    | some clusters =>
      have rows : ∀ cluster ∈ clusters.rows, cluster = row ∨ cluster ∈ f.clusters.rows :=
        fun cluster member => (Table.mem_insert? inserted).mp member
      refine ⟨?_, ?_, ?_⟩
      · intro cluster member
        rcases rows cluster member with rfl | old
        · exact List.mem_cons_self
        · exact List.mem_cons_of_mem _ (consistent.known cluster old)
      · exact fun job filed => List.mem_cons_of_mem _ (consistent.filed job filed)
      · intro cluster member job filed same
        rcases rows cluster member with rfl | old
        · -- the id is new, so no job has it
          exact absurd (same ▸ consistent.filed job filed) fresh
        · exact consistent.owned cluster old job filed same

/-- What leaves the file and the synchronisations alone and adds no cluster. -/
theorem Consistent.of_clusters (consistent : Consistent f) {g : Fleet}
    (clusters : ∀ cluster ∈ g.clusters.rows, cluster ∈ f.clusters.rows) (file : g.file = f.file)
    (synced : g.synced = f.synced) (ids : g.ids = f.ids) : Consistent g := by
  refine ⟨?_, ?_, ?_⟩
  · rw [ids]
    exact fun cluster member => consistent.known cluster (clusters cluster member)
  · rw [file, ids]
    exact consistent.filed
  · rw [file, synced]
    exact fun cluster member => consistent.owned cluster (clusters cluster member)

/-- **Every event keeps the invariant.** -/
theorem Consistent.perform (consistent : Consistent f) (e : FleetEvent) :
    Consistent (f.perform e) := by
  cases e with
  | createCluster row => exact consistent.create row
  | deleteCluster id teamID =>
    show Consistent (f.deleteCluster id teamID)
    unfold deleteCluster
    split
    · refine consistent.of_clusters (fun cluster member => ?_) rfl rfl rfl
      exact (Table.mem_deleteWhere.mp member).1
    · exact consistent
  | addMember teamID clusterID serverID ip =>
    show Consistent (f.addMember teamID clusterID serverID ip)
    unfold addMember
    dsimp only
    split
    · split
      · exact consistent
      · exact consistent.of_clusters (fun _ member => member) rfl rfl rfl
    · exact consistent
  | removeMember clusterID serverID =>
    exact consistent.of_clusters (fun _ member => member) rfl rfl rfl
  | syncTeam teamID => exact consistent.sync teamID
  | syncCluster clusterID =>
    show Consistent (f.syncClusterScrapeConfig clusterID).1
    unfold syncClusterScrapeConfig
    split
    · exact consistent
    · exact consistent.sync _

/-- **When the file covers every team.**  In every run: after each call the file has a job for
every cluster of every team that was last synchronised with one, and the call takes no other
team's job away, exactly if each call finds the team alone. -/
theorem scrape_config_covers_iff (start : Consistent f) (events : List FleetEvent) :
    EachCall CoversAfter f events ↔ EachCall Alone f events := by
  induction events generalizing f with
  | nil => exact Iff.rfl
  | cons e events ih =>
    refine and_congr ?_ (ih (start.perform e))
    exact forall₂_congr fun teamID _ => start.coversAfter_iff

/-! ## One team, and two -/

theorem consistent_empty : Consistent {} :=
  ⟨fun _ member => (nomatch member), fun _ member => (nomatch member),
    fun _ member => (nomatch member)⟩

/-- One team creates two clusters and deletes one, and its calls follow. -/
def oneTeam : List FleetEvent :=
  [.createCluster { id := 11, teamID := 1 }, .syncTeam 1,
    .createCluster { id := 12, teamID := 1 }, .syncTeam 1,
    .deleteCluster 11 1, .syncTeam 1]

theorem oneTeam_covered : EachCall CoversAfter {} oneTeam :=
  (scrape_config_covers_iff consistent_empty oneTeam).mpr (by decide +kernel)

/-- Two teams create a cluster each, and their calls follow. -/
def twoTeams : List FleetEvent :=
  [.createCluster { id := 11, teamID := 1 }, .syncTeam 1,
    .createCluster { id := 22, teamID := 2 }, .syncTeam 2]

/-- **The second team's call takes the first team's job away.** -/
theorem twoTeams_not_covered : ¬ EachCall CoversAfter {} twoTeams := by
  rintro ⟨-, -, -, covered, -⟩
  obtain ⟨-, kept⟩ := covered 2 rfl
  have lost := kept { id := 11, teamID := 1 } (by decide +kernel) (by decide) ⟨11, []⟩
    (by decide +kernel) rfl
  revert lost
  decide +kernel

end Fleet

end Nixway.Observability
