/-
# Secrets.Reveal -- a secret is shown once for each version

`Reveal` and `Update` of `internal/secret/service.go`, each SQL statement one atomic step.
`Reveal` reads the row, refuses one that is marked, and marks it by a statement that names the
secret alone: neither the version it read nor the mark it found is in the condition.  `Update`
stores the next version and takes the mark away.

What the requests are answered is written down, with the row it is of.  `revealed_once_iff` gives
the runs in which no version is returned twice and no version is marked for another one.  Two
requests that cross break it in either way (`requests_cross`).
-/
import Nixway.Store.Schema
import Nixway.Theory.Pool

namespace Nixway.Secrets

open Nixway.Theory Nixway.Store
open Nixway.Theory.Prog (query exec atomic ignore)

set_option autoImplicit false

/-! ## Rows and statements -/

structure Secret where
  id : UUID
  teamID : UUID
  environment : String := "production"
  key : String
  encryptedValue : List UInt8
  version : Nat := 1
  revealedAt : Option Int := none
deriving DecidableEq

instance : Keyed Secret UUID := ⟨Secret.id⟩

structure SecretAccessLog where
  secretID : UUID
  teamID : UUID
  actorID : Option UUID
  actorType : String
  action : String
  ipAddress : String

structure SecretStore where
  now : Int := 0
  secrets : Table Secret := .empty
  accessLog : List SecretAccessLog := []
  /-- The secrets and versions that `SetSecretRevealedAt` has been run for. -/
  marked : List (UUID × Nat) := []
  /-- The secrets, versions and plaintexts that `Reveal` has returned. -/
  returned : List (UUID × Nat × String) := []

namespace SecretStore

/-- The secrets and versions whose plaintext has been returned. -/
def answers (s : SecretStore) : List (UUID × Nat) :=
  s.returned.map fun answer => (answer.1, answer.2.1)

def getSecretByID (s : SecretStore) (id teamID : UUID) : Option Secret :=
  (s.secrets.find? id).filter fun secret => secret.teamID = teamID

/-- `UpdateSecretValue`; no row is an error. -/
def updateSecretValue (s : SecretStore) (id teamID : UUID) (value : List UInt8) :
    SecretStore × Option Secret :=
  let secrets := s.secrets.updateWhere (fun secret => secret.id = id ∧ secret.teamID = teamID)
    fun secret =>
      { secret with encryptedValue := value, version := secret.version + 1, revealedAt := none }
  ({ s with secrets := secrets }, (secrets.find? id).filter fun secret => secret.teamID = teamID)

/-- `SetSecretRevealedAt`, for a request that read the version. -/
def setSecretRevealedAt (s : SecretStore) (id : UUID) (version : Nat) : SecretStore :=
  { s with
    secrets := s.secrets.update id fun secret => { secret with revealedAt := some s.now }
    marked := s.marked ++ [(id, version)] }

end SecretStore

/-! ## The requests -/

/-- The context the key of a team is derived with. -/
def encryptionContext (teamID : UUID) : String := "secret:" ++ teamID.text

inductive RevealError where
  | getSecret | alreadyRevealed | decryptSecret | markSecretRevealed

/-- The plaintext that is returned, and the version of the row it was read from. -/
structure Revealed where
  version : Nat
  plaintext : String

structure RevealRequest where
  secretID : UUID
  teamID : UUID
  actorID : Option UUID := none
  actorType : String := "user"
  ipAddr : String := ""
  getFails : Bool := false
  markFails : Bool := false
  logFails : Bool := false

structure UpdateRequest where
  secretID : UUID
  teamID : UUID
  /-- What `crypto.Encrypt` answers for the new value. -/
  ciphertext : Option (List UInt8)
  updateFails : Bool := false

inductive UpdateError where
  | encryptSecret | updateSecret

section Requests

variable (decrypt : List UInt8 → String → Option String)

def createSecretAccessLog (r : RevealRequest) (s : SecretStore) : SecretStore :=
  if r.logFails then s
  else { s with accessLog := s.accessLog ++
    [{ secretID := r.secretID, teamID := r.teamID, actorID := r.actorID, actorType := r.actorType,
       action := "read", ipAddress := r.ipAddr }] }

def reveal (r : RevealRequest) : Prog SecretStore (Except RevealError Revealed) := do
  let some secret ← query fun s => if r.getFails then none else s.getSecretByID r.secretID r.teamID
    | return .error .getSecret
  if secret.revealedAt.isSome then
    return .error .alreadyRevealed
  let some plaintext := decrypt secret.encryptedValue (encryptionContext r.teamID)
    | return .error .decryptSecret
  if r.markFails then
    return .error .markSecretRevealed
  exec fun s => s.setSecretRevealedAt r.secretID secret.version
  exec (createSecretAccessLog r)
  return .ok { version := secret.version, plaintext }

def giveAnswer (r : RevealRequest) (revealed : Revealed) (s : SecretStore) : SecretStore :=
  { s with returned := s.returned ++ [(r.secretID, revealed.version, revealed.plaintext)] }

/-- The answer reaches the caller. -/
def answer (r : RevealRequest) : Except RevealError Revealed → Prog SecretStore Unit
  | .error _ => return
  | .ok revealed => exec (giveAnswer r revealed)

def update (u : UpdateRequest) : Prog SecretStore (Except UpdateError Secret) := do
  let some ciphertext := u.ciphertext
    | return .error .encryptSecret
  if u.updateFails then
    return .error .updateSecret
  let some secret ← atomic fun s => s.updateSecretValue u.secretID u.teamID ciphertext
    | return .error .updateSecret
  return .ok secret

/-! ## The requests, step by step -/

inductive Request where
  | reveal (r : RevealRequest)
  | update (u : UpdateRequest)

inductive Point where
  | get (r : RevealRequest)
  | mark (r : RevealRequest) (secret : Secret) (plaintext : String)
  | log (r : RevealRequest) (revealed : Revealed)
  | answer (r : RevealRequest) (revealed : Revealed)
  | write (u : UpdateRequest) (ciphertext : List UInt8)
  | halt

def Request.code : Request → Prog SecretStore Unit
  | .reveal r => Secrets.reveal decrypt r >>= Secrets.answer r
  | .update u => ignore (Secrets.update u)

def Request.start : Request → Point
  | .reveal r => .get r
  | .update u =>
    match u.ciphertext with
    | none => .halt
    | some ciphertext => if u.updateFails then .halt else .write u ciphertext

namespace Point

def read (r : RevealRequest) : Option Secret → Point
  | none => .halt
  | some secret =>
    if secret.revealedAt.isSome then .halt
    else
      match decrypt secret.encryptedValue (encryptionContext r.teamID) with
      | none => .halt
      | some plaintext => if r.markFails then .halt else .mark r secret plaintext

def act : Point → Option ((SecretStore → SecretStore) × (SecretStore → Point))
  | .get r => some (id, fun s =>
    read decrypt r (if r.getFails then none else s.getSecretByID r.secretID r.teamID))
  | .mark r secret plaintext => some (
      fun s => s.setSecretRevealedAt r.secretID secret.version,
      fun _ => .log r { version := secret.version, plaintext })
  | .log r revealed => some (createSecretAccessLog r, fun _ => .answer r revealed)
  | .answer r revealed => some (giveAnswer r revealed, fun _ => .halt)
  | .write u ciphertext => some (
      fun s => (s.updateSecretValue u.secretID u.teamID ciphertext).1, fun _ => .halt)
  | .halt => none

def code : Point → Prog SecretStore Unit
  | .get r => (Request.reveal r).code decrypt
  | .mark r secret plaintext => do
    exec fun s => s.setSecretRevealedAt r.secretID secret.version
    exec (createSecretAccessLog r)
    Secrets.answer r (.ok { version := secret.version, plaintext })
  | .log r revealed => do
    exec (createSecretAccessLog r)
    Secrets.answer r (.ok revealed)
  | .answer r revealed => Secrets.answer r (.ok revealed)
  | .write u ciphertext => .step
      (fun s => (s.updateSecretValue u.secretID u.teamID ciphertext).1) fun _ => .done ()
  | .halt => .done ()

theorem code_start (request : Request) : (request.start).code decrypt = request.code decrypt := by
  cases request with
  | reveal r => rfl
  | update u =>
    dsimp only [Request.start, Request.code, Secrets.update]
    cases u.ciphertext with
    | none => rfl
    | some ciphertext =>
      cases failed : u.updateFails with
      | true => rfl
      | false =>
        refine Prog.step_congr fun s => ?_
        dsimp only [Prog.bind]
        cases (s.updateSecretValue u.secretID u.teamID ciphertext).2 with
        | none => rfl
        | some secret => rfl

/-- **The graph is the requests.** -/
theorem presents : (⟨act decrypt⟩ : Flow SecretStore Point).Presents (code decrypt) where
  halted k here := by
    cases k with
    | halt => rfl
    | _ => cases here
  moves k effect next here := by
    cases k with
    | halt => cases here
    | mark r secret plaintext => cases here; rfl
    | log r revealed => cases here; rfl
    | answer r revealed => cases here; rfl
    | write u ciphertext => cases here; rfl
    | get r =>
      cases here
      refine Prog.step_congr fun s => ?_
      dsimp only [Prog.bind]
      cases (if r.getFails then none else s.getSecretByID r.secretID r.teamID) with
      | none => rfl
      | some secret =>
        dsimp only [read]
        cases marked : secret.revealedAt.isSome with
        | true => rfl
        | false =>
          cases decrypt secret.encryptedValue (encryptionContext r.teamID) with
          | none => rfl
          | some plaintext =>
            cases failed : r.markFails with
            | true => rfl
            | false => rfl

end Point

end Requests

/-! ## Once for each version -/

/-- The versions of one secret. -/
def versionsOf (id : UUID) (all : List (UUID × Nat)) : List Nat :=
  (all.filter fun version => version.1 = id).map Prod.snd

/-- No version of the secret has been returned twice; it is marked only for the version it has; and
when no request is under way, a version that has not been returned is not marked. -/
structure Once (id : UUID) (p : Pool SecretStore) : Prop where
  distinct : (versionsOf id p.store.answers).Nodup
  own : ∀ secret, p.store.secrets.find? id = some secret → secret.revealedAt.isSome →
    secret.version ∈ versionsOf id p.store.marked
  open_ : p.Finished → ∀ secret, p.store.secrets.find? id = some secret →
    secret.version ∉ versionsOf id p.store.answers → secret.revealedAt = none

/-- No version is marked twice, and the mark is that of the stored version. -/
structure Marked (id : UUID) (s : SecretStore) : Prop where
  distinct : (versionsOf id s.marked).Nodup
  own : ∀ secret, s.secrets.find? id = some secret → secret.revealedAt.isSome →
    secret.version ∈ versionsOf id s.marked

/-- **The invariant.**  The mark of the stored version says whether it has been marked for. -/
structure Recorded (id : UUID) (s : SecretStore) : Prop where
  distinct : (versionsOf id s.marked).Nodup
  marked : ∀ secret, s.secrets.find? id = some secret →
    (secret.revealedAt.isSome ↔ secret.version ∈ versionsOf id s.marked)
  past : ∀ secret, s.secrets.find? id = some secret →
    ∀ v ∈ versionsOf id s.marked, v ≤ secret.version

/-- The secret and version whose plaintext a `Reveal` that has marked it is about to return. -/
def Point.owes : Point → Option (UUID × Nat)
  | .log r revealed => some (r.secretID, revealed.version)
  | .answer r revealed => some (r.secretID, revealed.version)
  | _ => none

/-- **What is marked is returned**, or about to be. -/
def Owed (c : SecretStore × List Point) : Prop :=
  (c.1.answers ++ c.2.filterMap Point.owes).Perm c.1.marked

/-- A `Reveal` of the secret holds a version that was stored. -/
def Point.Past (id : UUID) (s : SecretStore) : Point → Prop
  | .mark r held _ => r.secretID = id →
      ∀ secret, s.secrets.find? id = some secret → held.version ≤ secret.version
  | _ => True

/-- The secret and version a `Reveal` is about to mark. -/
def Point.marks : Point → Option (UUID × Nat)
  | .mark r held _ => some (r.secretID, held.version)
  | _ => none

/-- A `Reveal` marks the secret when no other `Reveal` of the version it read has marked it
before, and the row still holds that version or is marked already. -/
def Fresh (id : UUID) (c : SecretStore × List Point) (i : Nat) : Prop :=
  ∀ mark ∈ c.2[i]?.bind Point.marks, mark.1 = id →
    mark.2 ∉ versionsOf id c.1.marked ∧
      ∀ secret ∈ c.1.secrets.find? id, secret.version = mark.2 ∨ secret.revealedAt.isSome

instance (id : UUID) (c : SecretStore × List Point) (i : Nat) : Decidable (Fresh id c i) :=
  inferInstanceAs (Decidable (∀ _ ∈ _, _))

theorem Recorded.toMarked {id : UUID} {s : SecretStore} (recorded : Recorded id s) : Marked id s :=
  ⟨recorded.distinct, fun secret found => (recorded.marked secret found).mp⟩

section Statements

variable {s : SecretStore} {id : UUID}

/-- The row behind `UpdateSecretValue`: as it was, or the next version without a mark. -/
theorem find?_updateSecretValue (other teamID : UUID) (value : List UInt8) {secret : Secret}
    (after : (s.updateSecretValue other teamID value).1.secrets.find? id = some secret) :
    s.secrets.find? id = some secret ∨
      ∃ before, s.secrets.find? id = some before ∧ secret.version = before.version + 1 ∧
        secret.revealedAt = none := by
  have rows : (s.updateSecretValue other teamID value).1.secrets.find? id =
      (s.secrets.find? id).map fun row => if (decide (row.id = other ∧ row.teamID = teamID)) then
        { row with encryptedValue := value, version := row.version + 1, revealedAt := none }
      else row := by
    dsimp only [SecretStore.updateSecretValue]
    rw [Table.find?_updateWhere]
  rw [rows] at after
  obtain ⟨before, found, same⟩ := Option.map_eq_some_iff.mp after
  split at same
  · subst same
    exact .inr ⟨before, found, rfl, rfl⟩
  · subst same
    exact .inl found

theorem Recorded.update (recorded : Recorded id s) (other teamID : UUID) (value : List UInt8) :
    Recorded id (s.updateSecretValue other teamID value).1 := by
  refine ⟨recorded.distinct, fun secret after => ?_, fun secret after v shown => ?_⟩
  · obtain same | ⟨before, found, next, clear⟩ :=
      find?_updateSecretValue other teamID value after
    · exact recorded.marked secret same
    · -- the next version is new
      rw [clear, next]
      refine iff_of_false (by simp) fun shown => ?_
      have older := recorded.past before found _ shown
      omega
  · obtain same | ⟨before, found, next, -⟩ := find?_updateSecretValue other teamID value after
    · exact recorded.past secret same v shown
    · have older := recorded.past before found v shown
      omega

theorem marked_set (other : UUID) (version : Nat) :
    versionsOf id (s.setSecretRevealedAt other version).marked =
      versionsOf id s.marked ++ if other = id then [version] else [] := by
  unfold versionsOf SecretStore.setSecretRevealedAt
  rw [List.filter_append, List.map_append]
  by_cases same : other = id
  · simp [same]
  · simp [same]

theorem find?_set (version : Nat) :
    (s.setSecretRevealedAt id version).secrets.find? id =
      (s.secrets.find? id).map fun secret => { secret with revealedAt := some s.now } := by
  dsimp only [SecretStore.setSecretRevealedAt]
  rw [Table.find?_update_self]

theorem find?_set_ne {other : UUID} (ne : id ≠ other) (version : Nat) :
    (s.setSecretRevealedAt other version).secrets.find? id = s.secrets.find? id := by
  dsimp only [SecretStore.setSecretRevealedAt]
  rw [Table.find?_update_ne ne]

theorem Recorded.set_ne (recorded : Recorded id s) {other : UUID} (ne : other ≠ id)
    (version : Nat) : Recorded id (s.setSecretRevealedAt other version) := by
  have shown := @marked_set s id other version
  rw [if_neg ne, List.append_nil] at shown
  refine ⟨?_, ?_, ?_⟩
  · rw [shown]
    exact recorded.distinct
  · rw [shown, find?_set_ne (Ne.symm ne)]
    exact recorded.marked
  · rw [shown, find?_set_ne (Ne.symm ne)]
    exact recorded.past

theorem Recorded.set (recorded : Recorded id s) {version : Nat} (unshown : version ∉ versionsOf id s.marked)
    (row : ∀ secret, s.secrets.find? id = some secret →
      secret.version = version ∨ secret.revealedAt.isSome)
    (past : ∀ secret, s.secrets.find? id = some secret → version ≤ secret.version) :
    Recorded id (s.setSecretRevealedAt id version) := by
  have shown := @marked_set s id id version
  rw [if_pos rfl] at shown
  refine ⟨?_, ?_, ?_⟩
  · rw [shown]
    refine List.Nodup.append recorded.distinct (List.nodup_singleton _) ?_
    simpa using unshown
  · intro secret after
    rw [find?_set] at after
    obtain ⟨before, found, rfl⟩ := Option.map_eq_some_iff.mp after
    rw [shown]
    refine iff_of_true rfl ?_
    rcases row before found with same | marked
    · simp [same]
    · exact List.mem_append_left _ ((recorded.marked before found).mp marked)
  · intro secret after v mem
    rw [find?_set] at after
    obtain ⟨before, found, rfl⟩ := Option.map_eq_some_iff.mp after
    rw [shown] at mem
    rcases List.mem_append.mp mem with old | new
    · exact recorded.past before found v old
    · rw [List.mem_singleton.mp new]
      exact past before found

theorem Recorded.of_marked_set (recorded : Recorded id s) {version : Nat}
    (after : Marked id (s.setSecretRevealedAt id version)) :
    version ∉ versionsOf id s.marked ∧ ∀ secret, s.secrets.find? id = some secret →
      secret.version = version ∨ secret.revealedAt.isSome := by
  have shown := @marked_set s id id version
  rw [if_pos rfl] at shown
  constructor
  · have distinct := after.distinct
    rw [shown] at distinct
    have apart := (List.nodup_append.mp distinct).2.2
    exact fun old => apart version old version (List.mem_singleton_self _) rfl
  · intro secret found
    by_contra neither
    rw [not_or] at neither
    have stored : (s.setSecretRevealedAt id version).secrets.find? id =
        some { secret with revealedAt := some s.now } := by
      rw [find?_set, found]
      rfl
    have own := after.own _ stored rfl
    rw [shown, List.mem_append, List.mem_singleton] at own
    rcases own with old | new
    · exact neither.2 ((recorded.marked secret found).mpr old)
    · exact neither.1 new

end Statements

/-! ## Runs -/

section Runs

variable (decrypt : List UInt8 → String → Option String) (id : UUID)

/-- The secret is recorded, and the requests hold versions that were stored. -/
def Tracked (c : SecretStore × List Point) : Prop :=
  Recorded id c.1 ∧ ∀ k ∈ c.2, k.Past id c.1

variable {decrypt id}

theorem Point.Past.mono {s s' : SecretStore}
    (grows : ∀ secret, s'.secrets.find? id = some secret →
      ∃ before, s.secrets.find? id = some before ∧ before.version ≤ secret.version)
    {k : Point} (past : k.Past id s) : k.Past id s' := by
  cases k with
  | mark r held plaintext =>
    intro same secret after
    obtain ⟨before, found, order⟩ := grows secret after
    exact Nat.le_trans (past same before found) order
  | _ => trivial

theorem Point.past_read {s : SecretStore} {r : RevealRequest} {answer : Option Secret}
    (stored : ∀ secret, answer = some secret → s.secrets.find? r.secretID = some secret) :
    (Point.read decrypt r answer).Past id s := by
  cases answer with
  | none => trivial
  | some held =>
    dsimp only [Point.read]
    split
    · trivial
    · cases decrypt held.encryptedValue (encryptionContext r.teamID) with
      | none => trivial
      | some plaintext =>
        dsimp only
        split
        · trivial
        · rintro rfl secret found
          rw [stored held rfl] at found
          cases found
          exact Nat.le_refl _

theorem Point.past_log (s : SecretStore) (r : RevealRequest) (revealed : Revealed) :
    (Point.log r revealed).Past id s := trivial

theorem Point.past_answer (s : SecretStore) (r : RevealRequest) (revealed : Revealed) :
    (Point.answer r revealed).Past id s := trivial

theorem Point.past_halt (s : SecretStore) : Point.halt.Past id s := trivial

/-- A step whose statement lets versions grow, and the thread behind it. -/
theorem Tracked.past {c : SecretStore × List Point} (tracked : Tracked id c) {s' : SecretStore}
    {k' : Point} (past : k'.Past id s')
    (grows : ∀ secret, s'.secrets.find? id = some secret →
      ∃ before, c.1.secrets.find? id = some before ∧ before.version ≤ secret.version) (i : Nat) :
    ∀ k ∈ c.2.set i k', k.Past id s' := by
  intro k member
  rcases List.mem_or_eq_of_mem_set member with old | rfl
  · exact (tracked.2 k old).mono grows
  · exact past

theorem secrets_log (r : RevealRequest) (s : SecretStore) :
    (createSecretAccessLog r s).secrets = s.secrets := by
  unfold createSecretAccessLog
  split <;> rfl

theorem marked_log (r : RevealRequest) (s : SecretStore) :
    (createSecretAccessLog r s).marked = s.marked := by
  unfold createSecretAccessLog
  split <;> rfl

theorem returned_log (r : RevealRequest) (s : SecretStore) :
    (createSecretAccessLog r s).returned = s.returned := by
  unfold createSecretAccessLog
  split <;> rfl

/-- A step that leaves the secrets and what they are marked for. -/
theorem Tracked.beside {c : SecretStore × List Point} (tracked : Tracked id c) {s' : SecretStore}
    (secrets : s'.secrets = c.1.secrets) (marked : s'.marked = c.1.marked) {k' : Point}
    (past : k'.Past id s') (i : Nat) : Tracked id (s', c.2.set i k') := by
  obtain ⟨distinct, same, order⟩ := tracked.1
  refine ⟨⟨?_, ?_, ?_⟩, tracked.past past (fun secret found => ?_) i⟩
  · rwa [marked]
  · rwa [marked, secrets]
  · rwa [marked, secrets]
  · exact ⟨secret, by rw [← secrets]; exact found, Nat.le_refl _⟩

/-- **A step keeps what is recorded if it meets the condition.** -/
theorem Tracked.step {c : SecretStore × List Point} (tracked : Tracked id c) {i : Nat} {k : Point}
    (here : c.2[i]? = some k) {effect : SecretStore → SecretStore} {next : SecretStore → Point}
    (edge : k.act decrypt = some (effect, next)) (fresh : Fresh id c i) :
    Tracked id (effect c.1, c.2.set i (next c.1)) := by
  have same : ∀ secret, c.1.secrets.find? id = some secret →
      ∃ before, c.1.secrets.find? id = some before ∧ before.version ≤ secret.version :=
    fun secret found => ⟨secret, found, Nat.le_refl _⟩
  cases k with
  | halt => cases edge
  | get r =>
    cases edge
    refine ⟨tracked.1, tracked.past (Point.past_read fun secret found => ?_) same i⟩
    cases failed : r.getFails with
    | true => simp [failed] at found
    | false =>
      simp only [failed, Bool.false_eq_true, if_false] at found
      exact (Option.filter_eq_some_iff.mp found).1
  | mark r held plaintext =>
    cases edge
    by_cases target : r.secretID = id
    · obtain ⟨unshown, row⟩ := fresh (r.secretID, held.version) (by rw [here]; rfl) target
      dsimp only at unshown row
      have past := tracked.2 _ (List.mem_of_getElem? here) target
      dsimp only
      rw [target]
      refine ⟨tracked.1.set unshown row past, ?_⟩
      refine tracked.past (Point.past_log _ r _) (fun secret after => ?_) i
      rw [find?_set] at after
      obtain ⟨before, found, rfl⟩ := Option.map_eq_some_iff.mp after
      exact ⟨before, found, Nat.le_refl _⟩
    · refine ⟨tracked.1.set_ne target held.version, ?_⟩
      refine tracked.past (Point.past_log _ r _) (fun secret after => ?_) i
      rw [find?_set_ne (Ne.symm target)] at after
      exact same secret after
  | log r revealed =>
    cases edge
    exact tracked.beside (secrets_log r c.1) (marked_log r c.1) (Point.past_answer _ r revealed) i
  | answer r revealed =>
    cases edge
    have secrets : (giveAnswer r revealed c.1).secrets = c.1.secrets := rfl
    have marked : (giveAnswer r revealed c.1).marked = c.1.marked := rfl
    exact tracked.beside secrets marked (Point.past_halt _) i
  | write u ciphertext =>
    cases edge
    refine ⟨tracked.1.update _ _ _, ?_⟩
    refine tracked.past (Point.past_halt _) (fun secret after => ?_) i
    rcases find?_updateSecretValue _ _ _ after with found | ⟨before, found, next, -⟩
    · exact same secret found
    · exact ⟨before, found, by omega⟩

/-- **A pick needs the condition.** -/
theorem Tracked.needs {c : SecretStore × List Point} (tracked : Tracked id c) {i : Nat}
    (after : Marked id (Flow.advance ⟨Point.act decrypt⟩ (fun _ _ => []) c i).1) : Fresh id c i := by
  rintro ⟨secretID, version⟩ member target
  dsimp only at target ⊢
  subst target
  obtain ⟨k, here, marks⟩ := Option.bind_eq_some_iff.mp member
  cases k with
  | mark r held plaintext =>
    cases marks
    have moved : (⟨Point.act decrypt⟩ : Flow SecretStore Point).advance (fun _ _ => []) c i =
        (c.1.setSecretRevealedAt r.secretID held.version,
          c.2.set i (.log r { version := held.version, plaintext }) ++ []) := by
      simp only [Flow.advance, here, Point.act]
    rw [moved] at after
    exact tracked.1.of_marked_set after
  | _ => cases marks

/-! ### What is returned -/

theorem owes_read (r : RevealRequest) (found : Option Secret) :
    (Point.read decrypt r found).owes = none := by
  cases found with
  | none => rfl
  | some secret =>
    dsimp only [Point.read]
    split
    · rfl
    · cases decrypt secret.encryptedValue (encryptionContext r.teamID) with
      | none => rfl
      | some plaintext =>
        dsimp only
        split <;> rfl

/-- A step owes what it marks and no longer owes what it returns. -/
theorem owed_step {c : SecretStore × List Point} {k : Point} {effect : SecretStore → SecretStore}
    {next : SecretStore → Point} (edge : k.act decrypt = some (effect, next)) :
    (effect c.1).answers ++ (next c.1).owes.toList =
        c.1.answers ++ k.owes.toList ++ k.marks.toList ∧
      (effect c.1).marked = c.1.marked ++ k.marks.toList := by
  cases k with
  | halt => cases edge
  | get r =>
    cases edge
    rw [owes_read]
    simp [Point.owes, Point.marks]
  | mark r secret plaintext =>
    cases edge
    simp [Point.owes, Point.marks, SecretStore.setSecretRevealedAt, SecretStore.answers]
  | log r revealed =>
    cases edge
    simp [Point.owes, Point.marks, SecretStore.answers, returned_log, marked_log]
  | answer r revealed =>
    cases edge
    simp [Point.owes, Point.marks, SecretStore.answers, giveAnswer]
  | write u ciphertext =>
    cases edge
    simp [Point.owes, Point.marks, SecretStore.updateSecretValue, SecretStore.answers]

/-- **Every step returns what it owes.** -/
theorem Owed.advance {c : SecretStore × List Point} (owed : Owed c) (i : Nat) :
    Owed (Flow.advance ⟨Point.act decrypt⟩ (fun _ _ => []) c i) := by
  obtain same | ⟨k, effect, next, here, edge, moved⟩ :=
    Flow.advance_cases (⟨Point.act decrypt⟩ : Flow SecretStore Point) (fun _ _ => []) c i
  · rw [same]
    exact owed
  · rw [moved, List.append_nil]
    obtain ⟨answers, marked⟩ := owed_step edge
    have before := filterMap_perm Point.owes here
    have after := filterMap_set_perm Point.owes here (next c.1)
    have grows : ((effect c.1).answers ++ (c.2.set i (next c.1)).filterMap Point.owes).Perm
        (c.1.answers ++ c.2.filterMap Point.owes ++ k.marks.toList) := by
      refine (after.append_left _).trans ?_
      rw [← List.append_assoc]
      rw [answers]
      refine List.Perm.trans ?_ ((before.append_left _).append_right _).symm
      rw [List.append_assoc, List.append_assoc, List.append_assoc, List.append_assoc]
      exact (List.perm_append_comm.append_left _).append_left _
    unfold Owed
    dsimp only
    rw [marked]
    exact grows.trans (owed.append_right _)

theorem marked_grows (c : SecretStore × List Point) (schedule : List Nat) :
    c.1.marked <+: ((⟨Point.act decrypt⟩ : Flow SecretStore Point).run (fun _ _ => [])
      c schedule).1.marked := by
  refine Flow.run_invariant (I := fun d : SecretStore × List Point => c.1.marked <+: d.1.marked) ?_
    List.prefix_rfl schedule
  intro d i grown
  obtain same | ⟨k, effect, next, here, edge, moved⟩ :=
    Flow.advance_cases (⟨Point.act decrypt⟩ : Flow SecretStore Point) (fun _ _ => []) d i
  · rwa [same]
  · rw [moved]
    dsimp only
    rw [(owed_step edge).2]
    exact grown.trans (List.prefix_append _ _)

theorem versionsOf_perm {all all' : List (UUID × Nat)} (perm : all.Perm all') :
    (versionsOf id all).Perm (versionsOf id all') :=
  (perm.filter _).map _

theorem owes_halted {k : Point} (halted : k.act decrypt = none) : k.owes = none := by
  cases k with
  | halt => rfl
  | _ => cases halted

/-- When the requests are through, what is marked has been returned. -/
theorem Owed.settled {c : SecretStore × List Point} (owed : Owed c)
    (finished : ∀ k ∈ c.2, k.act decrypt = none) : c.1.answers.Perm c.1.marked := by
  have none : c.2.filterMap Point.owes = [] :=
    List.filterMap_eq_nil_iff.mpr fun k member => owes_halted (finished k member)
  have owed := owed
  rwa [Owed, none, List.append_nil] at owed

theorem Tracked.once {c : SecretStore × List Point} (tracked : Tracked id c) (owed : Owed c) :
    Once id (Flow.pool (Point.code decrypt) c) := by
  have distinct : (versionsOf id (c.1.answers ++ c.2.filterMap Point.owes)).Nodup :=
    (versionsOf_perm owed).nodup_iff.mpr tracked.1.distinct
  refine ⟨?_, tracked.1.toMarked.own, fun finished secret found unreturned => ?_⟩
  · rw [versionsOf, List.filter_append, List.map_append] at distinct
    exact distinct.of_append_left
  · have through := (Flow.finished_coded (Point.presents decrypt) c).mp finished
    have unmarked : secret.version ∉ versionsOf id c.1.marked := fun marked =>
      unreturned ((versionsOf_perm (owed.settled through)).mem_iff.mpr marked)
    rw [← tracked.1.marked secret found] at unmarked
    simpa using unmarked

theorem Tracked.advance {c : SecretStore × List Point} (tracked : Tracked id c) {i : Nat}
    (fresh : Fresh id c i) : Tracked id (Flow.advance ⟨Point.act decrypt⟩ (fun _ _ => []) c i) := by
  obtain same | ⟨k, effect, next, here, edge, moved⟩ :=
    Flow.advance_cases (⟨Point.act decrypt⟩ : Flow SecretStore Point) (fun _ _ => []) c i
  · rwa [same]
  · rw [moved, List.append_nil]
    exact tracked.step here edge fresh

/-- A request that starts has read no version and owes no answer. -/
theorem start_idle {s : SecretStore} (request : Request) :
    request.start.Past id s ∧ request.start.owes = none := by
  cases request with
  | reveal r => exact ⟨trivial, rfl⟩
  | update u =>
    dsimp only [Request.start]
    split
    · exact ⟨trivial, rfl⟩
    · split <;> exact ⟨trivial, rfl⟩

/-- **A version is returned once.**  In every interleaving of `Reveal` and `Update` requests, from a
state whose mark records what was returned: if every mark is fresh, then throughout the run no
version of the secret is returned twice and none is marked for another one; and a run to the end of
the requests in which this holds throughout has only fresh marks. -/
theorem revealed_once_iff {s : SecretStore} (start : Recorded id s)
    (settled : s.answers.Perm s.marked) (requests : List Request) (schedule : List Nat) :
    ((⟨Point.act decrypt⟩ : Flow SecretStore Point).Along (fun _ _ => []) (Fresh id)
        (s, requests.map Request.start) schedule →
      ∀ earlier, earlier <+: schedule →
        Once id ((Pool.mk s (requests.map (Request.code decrypt))).run Pool.noSpawn earlier)) ∧
    (((Pool.mk s (requests.map (Request.code decrypt))).run Pool.noSpawn schedule).Finished →
      (∀ earlier, earlier <+: schedule →
        Once id ((Pool.mk s (requests.map (Request.code decrypt))).run Pool.noSpawn earlier)) →
      (⟨Point.act decrypt⟩ : Flow SecretStore Point).Along (fun _ _ => []) (Fresh id)
        (s, requests.map Request.start) schedule) := by
  have coded : ∀ earlier : List Nat,
      (Pool.mk s (requests.map (Request.code decrypt))).run Pool.noSpawn earlier =
        Flow.pool (Point.code decrypt)
          ((⟨Point.act decrypt⟩ : Flow SecretStore Point).run (fun _ _ => [])
            (s, requests.map Request.start) earlier) := by
    intro earlier
    have same := Flow.run_coded_noSpawn (Point.presents decrypt) (s, requests.map Request.start)
      earlier
    rwa [Flow.pool, List.map_map, show Point.code decrypt ∘ Request.start = Request.code decrypt from
      funext (Point.code_start decrypt)] at same
  have tracked : Tracked id (s, requests.map Request.start) := by
    refine ⟨start, fun k member => ?_⟩
    obtain ⟨request, -, rfl⟩ := List.mem_map.mp member
    exact (start_idle request).1
  have owed : Owed (s, requests.map Request.start) := by
    have none : (requests.map Request.start).filterMap Point.owes = [] := by
      refine List.filterMap_eq_nil_iff.mpr fun k member => ?_
      obtain ⟨request, -, rfl⟩ := List.mem_map.mp member
      exact (@start_idle id s request).2
    rw [Owed, none, List.append_nil]
    exact settled
  have owedAt : ∀ earlier, Owed ((⟨Point.act decrypt⟩ : Flow SecretStore Point).run (fun _ _ => [])
      (s, requests.map Request.start) earlier) := fun earlier =>
    Flow.run_invariant (I := Owed) (fun _ i owed => owed.advance i) owed earlier
  constructor
  · rintro along earlier ⟨later, rfl⟩
    rw [coded]
    exact ((Flow.along_append.mp along).1.invariant
      (fun _ _ fresh held => held.advance fresh) tracked).once (owedAt earlier)
  · intro finished once
    have markedIff := Flow.along_iff_property (I := Tracked id) (P := fun c => Marked id c.1)
      (fun c i held fresh => @Tracked.advance decrypt id c held i fresh)
      (fun c i held after => held.needs after)
      (fun c held => held.1.toMarked) tracked schedule
    refine markedIff.mp fun earlier front => ⟨?_, ?_⟩
    · -- a version marked twice would be returned twice in the end
      have final := once schedule List.prefix_rfl
      rw [coded] at final finished
      have through := (Flow.finished_coded (Point.presents decrypt) _).mp finished
      have distinct := (versionsOf_perm ((owedAt schedule).settled through)).nodup_iff.mp
        final.distinct
      obtain ⟨later, rfl⟩ := front
      rw [Flow.run_append] at distinct
      have grown := @marked_grows decrypt
        ((⟨Point.act decrypt⟩ : Flow SecretStore Point).run (fun _ _ => [])
          (s, requests.map Request.start) earlier) later
      exact distinct.sublist ((grown.sublist.filter _).map _)
    · have own := (once earlier front).own
      rwa [coded] at own

end Runs

/-! ## Requests that cross -/

def apiKey : Secret := { id := 1, teamID := 2, key := "API_KEY", encryptedValue := [7] }

def oneSecret : SecretStore := { secrets := .single apiKey }

theorem oneSecret_recorded : Recorded 1 oneSecret := by
  refine ⟨List.nodup_nil, ?_, ?_⟩
  · rintro secret ⟨⟩
    simp [apiKey, versionsOf, oneSecret]
  · rintro secret - v ⟨⟩

/-- A decryption that opens what is stored. -/
def opens (value : List UInt8) (_ : String) : Option String := some (toString value)

def askReveal : Request := .reveal { secretID := 1, teamID := 2 }

def askUpdate : Request := .update { secretID := 1, teamID := 2, ciphertext := some [8] }

/-- A reveal, an update, a reveal that is answered before the last one reads, which is refused. -/
def inTurns : List Nat := [0, 0, 0, 1, 0, 2, 2, 2, 2, 3]

theorem reveals_in_turn :
    ((Pool.mk oneSecret ([askReveal, askUpdate, askReveal, askReveal].map (Request.code opens))).run
        Pool.noSpawn inTurns).store.returned = [(1, 1, "[7]"), (1, 2, "[8]")] ∧
      ∀ earlier, earlier <+: inTurns →
        Once 1 ((Pool.mk oneSecret ([askReveal, askUpdate, askReveal, askReveal].map
          (Request.code opens))).run Pool.noSpawn earlier) := by
  refine ⟨by decide +kernel, ?_⟩
  exact (revealed_once_iff oneSecret_recorded (List.Perm.refl _)
    [askReveal, askUpdate, askReveal, askReveal] inTurns).1 (by decide +kernel)

/-- **Requests that cross.**  Two reveals read the row before either marks it, and both return the
version; a reveal reads the first version and marks the second one, which nobody has seen. -/
theorem requests_cross :
    ¬ Once 1 ((Pool.mk oneSecret ([askReveal, askReveal].map (Request.code opens))).run
        Pool.noSpawn [0, 1, 0, 1, 0, 1, 0, 1]) ∧
      ¬ Once 1 ((Pool.mk oneSecret ([askReveal, askUpdate].map (Request.code opens))).run
        Pool.noSpawn [0, 1, 0, 0, 0]) := by
  constructor
  · have twice : ((Pool.mk oneSecret ([askReveal, askReveal].map (Request.code opens))).run
        Pool.noSpawn [0, 1, 0, 1, 0, 1, 0, 1]).store.answers = [(1, 1), (1, 1)] := by
      decide +kernel
    intro once
    have distinct := once.distinct
    rw [twice] at distinct
    simp [versionsOf] at distinct
  · have stored : ((Pool.mk oneSecret ([askReveal, askUpdate].map (Request.code opens))).run
        Pool.noSpawn [0, 1, 0, 0, 0]).store.secrets.find? 1 =
          some { apiKey with encryptedValue := [8], version := 2, revealedAt := some 0 } := by
      decide +kernel
    have shown : ((Pool.mk oneSecret ([askReveal, askUpdate].map (Request.code opens))).run
        Pool.noSpawn [0, 1, 0, 0, 0]).store.answers = [(1, 1)] := by decide +kernel
    intro once
    have clear := once.open_ (by decide +kernel) _ stored (by rw [shown]; simp [versionsOf])
    cases clear

end Nixway.Secrets
