/-
# Github.Lifecycle -- installations and the events about them

The events 'created', 'deleted', 'suspend' and 'unsuspend' of installations, handled one
after another.  The fold of the events says which installations there are and which of
them are suspended.  The handler stores the payload's `target_type`, which GitHub sets to
the kind of account, in a column whose CHECK wants 'all' or 'selected'; so no row is ever
created, the error is only logged, and the table follows the events exactly when every
installation created is deleted again (`installations_follow_iff`).
-/
import Nixway.Github.Pushes

namespace Nixway.Github

open Nixway.Store (UUID)
open Nixway.Theory

set_option autoImplicit false

/-! ## Events -/

inductive Lifecycle where
  | created | deleted | suspend | unsuspend
deriving DecidableEq

def Lifecycle.text : Lifecycle → String
  | .created => "created"
  | .deleted => "deleted"
  | .suspend => "suspend"
  | .unsuspend => "unsuspend"

/-- A signed delivery about an installation, with the values GitHub sends; `id` is drawn for
a row. -/
structure LifecycleDelivery (setup : Setup) (app : GithubApp) where
  r : Delivery
  body : Bytes
  action : Lifecycle
  installation : InstallationPayload
  id : UUID
  signed : verify setup r app = .ok body
  event : r.eventType = "installation"
  decoded : setup.event body = ⟨some action.text, some installation⟩
  account : installation.accountType = "Organization" ∨ installation.accountType = "User"
  target : installation.targetType = "Organization" ∨ installation.targetType = "User"

section Fold

variable {setup : Setup} {app : GithubApp}

/-- What an event says about an installation: absent, or present and whether suspended. -/
def follow (k : Int) (status : Option Bool) (e : LifecycleDelivery setup app) : Option Bool :=
  if e.installation.id = k then
    match e.action with
    | .created => some false
    | .deleted => none
    | .suspend => status.map fun _ => true
    | .unsuspend => status.map fun _ => false
  else status

def followed (k : Int) (events : List (LifecycleDelivery setup app)) : Option Bool :=
  events.foldl (follow k) none

/-- Every installation created is deleted later. -/
def Withdrawn (events : List (LifecycleDelivery setup app)) : Prop :=
  ∀ before (e : LifecycleDelivery setup app) after, events = before ++ e :: after →
    e.action = .created → ∃ later ∈ after,
      later.action = .deleted ∧ later.installation.id = e.installation.id

def deliverAll (s : GithubStore) (events : List (LifecycleDelivery setup app)) : GithubStore :=
  events.foldl (fun s e => (handleGitHubWithApp setup {} e.id e.r app).out s) s

/-- What the table says about an installation. -/
def GithubStore.status (s : GithubStore) (githubAppID : UUID) (k : Int) : Option Bool :=
  (s.getGitHubInstallation githubAppID k).map Installation.suspended

theorem Withdrawn.tail {e : LifecycleDelivery setup app} {events : List (LifecycleDelivery setup app)}
    (withdrawn : Withdrawn (e :: events)) : Withdrawn events :=
  fun before e' after split => withdrawn (e :: before) e' after (by rw [split]; rfl)

/-- An installation that is absent, or still to be deleted, is absent in the end. -/
theorem foldl_follow_none {k : Int} {events : List (LifecycleDelivery setup app)}
    {status : Option Bool} (withdrawn : Withdrawn events)
    (absent : status = none ∨ ∃ e ∈ events, e.action = .deleted ∧ e.installation.id = k) :
    events.foldl (follow k) status = none := by
  induction events generalizing status with
  | nil =>
    rcases absent with rfl | ⟨e, mem, -⟩
    · rfl
    · cases mem
  | cons e events ih =>
    refine ih withdrawn.tail ?_
    unfold follow
    by_cases here : e.installation.id = k
    · rw [if_pos here]
      cases said : e.action with
      | created =>
        obtain ⟨later, mem, deleted, same⟩ := withdrawn [] e events rfl said
        exact .inr ⟨later, mem, deleted, same.trans here⟩
      | deleted => exact .inl rfl
      | suspend =>
        rcases absent with rfl | ⟨later, mem, deleted, same⟩
        · exact .inl rfl
        · rcases List.mem_cons.mp mem with rfl | rest
          · rw [said] at deleted
            cases deleted
          · exact .inr ⟨later, rest, deleted, same⟩
      | unsuspend =>
        rcases absent with rfl | ⟨later, mem, deleted, same⟩
        · exact .inl rfl
        · rcases List.mem_cons.mp mem with rfl | rest
          · rw [said] at deleted
            cases deleted
          · exact .inr ⟨later, rest, deleted, same⟩
    · rw [if_neg here]
      rcases absent with rfl | ⟨later, mem, deleted, same⟩
      · exact .inl rfl
      · rcases List.mem_cons.mp mem with rfl | rest
        · exact absurd same here
        · exact .inr ⟨later, rest, deleted, same⟩

theorem foldl_follow_some {k : Int} {events : List (LifecycleDelivery setup app)} {status : Option Bool}
    (there : status ≠ none)
    (kept : ∀ e ∈ events, e.action = .deleted → e.installation.id ≠ k) :
    events.foldl (follow k) status ≠ none := by
  induction events generalizing status with
  | nil => exact there
  | cons e events ih =>
    refine ih ?_ fun e' mem => kept e' (List.mem_cons_of_mem e mem)
    unfold follow
    split
    · next here =>
      cases said : e.action with
      | created => exact Option.some_ne_none _
      | deleted => exact absurd here (kept e List.mem_cons_self said)
      | suspend => simpa using there
      | unsuspend => simpa using there
    · exact there

/-- **The fold is empty exactly when every installation created is deleted again.** -/
theorem followed_none_iff (events : List (LifecycleDelivery setup app)) :
    (∀ k, followed k events = none) ↔ Withdrawn events := by
  constructor
  · intro gone before e after split created
    by_contra kept
    refine absurd (gone e.installation.id) ?_
    rw [split, followed, List.foldl_append, List.foldl_cons]
    apply foldl_follow_some
    · rw [follow, if_pos rfl, created]
      exact Option.some_ne_none _
    · exact fun later mem deleted same => kept ⟨later, mem, deleted, same⟩
  · exact fun withdrawn k => foldl_follow_none withdrawn (.inl rfl)

end Fold

/-! ## The table -/

section Table

variable {setup : Setup} {app : GithubApp} {s : GithubStore}

theorem TargetType.ofText_account {text : String} (account : text = "Organization" ∨ text = "User") :
    TargetType.ofText (if text = "" then "Organization" else text) = none := by
  rcases account with rfl | rfl <;> rfl

/-- GitHub's target type fails the CHECK. -/
theorem createGitHubInstallation_refused {id githubAppID : UUID} {installationID : Int}
    {accountLogin accountType targetType : String} (refused : TargetType.ofText targetType = none) :
    s.createGitHubInstallation id githubAppID installationID accountLogin accountType targetType =
      none := by
  unfold GithubStore.createGitHubInstallation
  rw [refused]
  cases AccountType.ofText accountType <;> rfl

/-- A row that is not there is not suspended. -/
theorem updateGitHubInstallationSuspended_status {githubAppID : UUID} {k : Int}
    (vacant : s.status githubAppID k = none) (k' : Int) (suspended : Bool) :
    (s.updateGitHubInstallationSuspended githubAppID k' suspended).status githubAppID k = none := by
  unfold GithubStore.status GithubStore.getGitHubInstallation at vacant ⊢
  unfold GithubStore.updateGitHubInstallationSuspended
  rw [Option.map_eq_none_iff] at vacant ⊢
  rw [Table.find?_update, vacant]
  split
  · rfl
  · rfl

/-- An installation row for the GitHub App only goes or changes its state. -/
theorem handleInstallation_status (e : LifecycleDelivery setup app)
    (vacant : ∀ k, s.status app.id k = none) (k : Int) :
    ((handleInstallation setup {} e.id e.r e.body app).out s).status app.id k = none := by
  have absent : ∀ k, s.installations.find? (app.id, k) = none :=
    fun k => Option.map_eq_none_iff.mp (vacant k)
  unfold handleInstallation
  rw [if_pos e.event, e.decoded]
  dsimp only
  cases e.action with
  | created =>
    rw [if_pos (by decide)]
    refine attempt_out (P := fun t => t.status app.id k = none) (vacant k) fun t created => ?_
    rw [createGitHubInstallation_refused (TargetType.ofText_account e.target)] at created
    cases created
  | deleted =>
    rw [if_neg (by decide), if_pos (by decide)]
    refine attempt_out (P := fun t => t.status app.id k = none) (vacant k) fun t deleted => ?_
    unfold GithubStore.deleteGitHubInstallation at deleted
    split at deleted
    · cases deleted
    · cases deleted
      show Option.map _ ((s.installations.deleteWhere _).rows.find? _) = _
      rw [Table.deleteKey_of_none (absent e.installation.id)]
      exact congrArg (Option.map _) (absent k)
  | suspend =>
    rw [if_neg (by decide), if_neg (by decide), if_pos (by decide)]
    refine attempt_out (P := fun t => t.status app.id k = none) (vacant k) fun t updated => ?_
    cases updated
    exact updateGitHubInstallationSuspended_status (vacant k) e.installation.id _
  | unsuspend =>
    rw [if_neg (by decide), if_neg (by decide), if_neg (by decide), if_pos (by decide)]
    refine attempt_out (P := fun t => t.status app.id k = none) (vacant k) fun t updated => ?_
    cases updated
    exact updateGitHubInstallationSuspended_status (vacant k) e.installation.id _

/-- **A delivery creates no row.** -/
theorem handler_status (e : LifecycleDelivery setup app) (vacant : ∀ k, s.status app.id k = none)
    (k : Int) :
    ((handleGitHubWithApp setup {} e.id e.r app).out s).status app.id k = none := by
  have noPush : handlePush setup {} e.r e.body = .done () := by
    unfold handlePush
    rw [if_neg (by rw [e.event]; rintro ⟨isPush, -⟩; exact absurd isPush (by decide))]
    rfl
  unfold handleGitHubWithApp
  rw [e.signed]
  dsimp only
  rw [Prog.out, Prog.run_bind, alreadyProcessed_run]
  cases s.knows {} e.r with
  | true => exact vacant k
  | false =>
    rw [if_neg Bool.false_ne_true, Prog.run_bind, (storeEvent_run setup {} e.r e.body app s).2.2]
    obtain ⟨stores, -, events, -, out⟩ | ⟨refused, out⟩ :=
      storeEvent_out setup {} e.r e.body app s
    · rw [stores, if_pos rfl, noPush]
      rw [Prog.out] at out
      rw [out, Prog.run_bind]
      exact handleInstallation_status e (s := { s with webhookEvents := events }) vacant k
    · rw [Prog.out] at out
      rw [refused, if_neg Bool.false_ne_true, out]
      exact vacant k

theorem deliverAll_status (events : List (LifecycleDelivery setup app))
    (vacant : ∀ k, s.status app.id k = none) (k : Int) :
    (deliverAll s events).status app.id k = none := by
  induction events generalizing s with
  | nil => exact vacant k
  | cons e events ih => exact ih (handler_status e vacant)

/-- **When the table follows the events.**  For every sequence of signed events about
installations of a GitHub App with the values GitHub sends, handled one after another from a
store without installations of the App: the table says of every installation what the fold
of the events says, exactly when every installation created is deleted by a later event. -/
theorem installations_follow_iff (s : GithubStore) (events : List (LifecycleDelivery setup app))
    (vacant : ∀ k, s.status app.id k = none) :
    (∀ k, (deliverAll s events).status app.id k = followed k events) ↔ Withdrawn events := by
  rw [← followed_none_iff]
  refine forall_congr' fun k => ?_
  rw [deliverAll_status events vacant k]
  exact eq_comm

end Table

theorem verify_of_signature {setup : Setup} {r : Delivery} {app : GithubApp} {body secret : Bytes}
    (read : r.body = some body) (given : r.signature ≠ "")
    (decrypts : setup.decrypt app.webhookSecret app.teamID = some secret)
    (signs : r.signature = setup.signature secret body) : verify setup r app = .ok body := by
  unfold verify
  rw [read]
  dsimp only
  rw [if_neg given, decrypts]
  dsimp only
  rw [if_pos signs]

def lifecycleBody (action : String) : Bytes :=
  ("\x7b\"action\":\"" ++ action ++ "\",\"installation\":\x7b\"id\":99,\"account\":\x7b\"login\":\"acme\"," ++
    "\"type\":\"Organization\"\x7d,\"target_type\":\"Organization\"\x7d\x7d").toList.map
      fun c => UInt8.ofNat c.toNat

/-- The setup as it acts on the bodies 'created' and 'deleted', signed with `s3cret`. -/
def lifecycleSetup : Setup :=
  { pushSetup with
    hmac := fun _ body =>
      if body = lifecycleBody "created" then
        [158, 33, 218, 39, 183, 90, 58, 234, 168, 155, 58, 27, 206, 47, 53, 254,
        245, 157, 193, 206, 189, 179, 25, 68, 137, 212, 142, 4, 97, 59, 148, 140]
      else
        [25, 18, 16, 251, 35, 43, 174, 48, 84, 184, 20, 46, 27, 45, 71, 238,
        175, 55, 110, 140, 165, 189, 237, 147, 158, 166, 158, 83, 107, 73, 60, 253]
    event := fun body =>
      ⟨some (if body = lifecycleBody "created" then "created" else "deleted"),
        some ⟨99, "acme", "Organization", "Organization"⟩⟩ }

theorem lifecycleBody_apart : lifecycleBody "deleted" ≠ lifecycleBody "created" := by
  unfold lifecycleBody
  simp only [String.toList_append]
  repeat rw [String.toList_ofList]
  decide

theorem signature_created (secret : Bytes) :
    lifecycleSetup.signature secret (lifecycleBody "created") =
      "sha256=9e21da27b75a3aeaa89b3a1bce2f35fef59dc1cebdb3194489d48e04613b948c" := by
  unfold Setup.signature lifecycleSetup
  dsimp only
  rw [if_pos rfl]
  decide

theorem signature_deleted (secret : Bytes) :
    lifecycleSetup.signature secret (lifecycleBody "deleted") =
      "sha256=191210fb232bae3054b8142e1b2d47eeaf376e8ca5bded939ea69e536b493cfd" := by
  unfold Setup.signature lifecycleSetup
  dsimp only
  rw [if_neg lifecycleBody_apart]
  decide

def created99 : LifecycleDelivery lifecycleSetup teamApp where
  r := ⟨some (lifecycleBody "created"),
    "sha256=9e21da27b75a3aeaa89b3a1bce2f35fef59dc1cebdb3194489d48e04613b948c", "i-1", "installation"⟩
  body := lifecycleBody "created"
  action := .created
  installation := ⟨99, "acme", "Organization", "Organization"⟩
  id := 50
  signed := verify_of_signature rfl (by decide) rfl (signature_created _).symm
  event := rfl
  decoded := by
    unfold lifecycleSetup
    dsimp only
    rw [if_pos rfl]
    rfl
  account := .inl rfl
  target := .inl rfl

def deleted99 : LifecycleDelivery lifecycleSetup teamApp where
  r := ⟨some (lifecycleBody "deleted"),
    "sha256=191210fb232bae3054b8142e1b2d47eeaf376e8ca5bded939ea69e536b493cfd", "i-2", "installation"⟩
  body := lifecycleBody "deleted"
  action := .deleted
  installation := ⟨99, "acme", "Organization", "Organization"⟩
  id := 51
  signed := verify_of_signature rfl (by decide) rfl (signature_deleted _).symm
  event := rfl
  decoded := by
    unfold lifecycleSetup
    dsimp only
    rw [if_neg lifecycleBody_apart]
    rfl
  account := .inl rfl
  target := .inl rfl

theorem withdrawn_followed :
    (deliverAll (linkedTo 1) [created99, deleted99]).status teamApp.id 99 =
      followed 99 [created99, deleted99] := by
  refine (installations_follow_iff (linkedTo 1) [created99, deleted99] fun k => rfl).mpr ?_ 99
  intro before e after split created
  match before, split with
  | [], split =>
    cases split
    exact ⟨deleted99, List.mem_cons_self, rfl, rfl⟩
  | [_], split =>
    cases split
    cases created
  | _ :: _ :: _, split => simp at split

/-- The installation is created, and the table has no row for it. -/
theorem created_not_stored :
    (linkedTo 1).githubApps.find? teamApp.id = some teamApp ∧
      (∀ k, (linkedTo 1).status teamApp.id k = none) ∧
      followed 99 [created99] = some false ∧
      (deliverAll (linkedTo 1) [created99]).status teamApp.id 99 = none :=
  ⟨by decide, fun _ => rfl, by decide, by decide +kernel⟩

end Nixway.Github
