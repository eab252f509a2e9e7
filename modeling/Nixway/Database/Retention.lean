/-
# Database.Retention -- what a retention pass may delete

`runRetentionForDatabase` deletes the backups that started before `retentionCutoff`, and `Provision`
stores the days that are asked for.  The days become nanoseconds in 64 bits and an `int` becomes
an `int32`; both wrap.  `keeps_promise_iff` says which requests are kept: those whose low 32 bits
are at least one day and at most 106751 days, the last count that fits into a `time.Duration`.
-/
import Nixway.Database.Backups

namespace Nixway.Database

open Nixway.Theory Nixway.Store

set_option autoImplicit false

/-! ## The stored days -/

/-- `Provision`: seven days unless more than none are asked for, and `int32(req.RetentionDays)`. -/
def storedRetention (requested : Int64) : Int32 :=
  (if requested ≤ 0 then 7 else requested).toInt32

/-! ## What a pass deletes -/

def passTime (s : Vault) (weather : Weather) : Nat := s.now + weather.lag .getDatabase

def afterPass (s : Vault) (databaseID : UUID) (weather : Weather) : Vault :=
  ((Upkeep.retention databaseID weather).run.run s).1

/-- A pass deletes only backups of its database that started at least the days before now. -/
def KeepsRecent (days : Int32) : Prop :=
  ∀ (s : Vault) (databaseID : UUID) (weather : Weather) (d : DatabaseRow),
    s.databases.find? databaseID = some d → d.backupRetentionDays = some days →
      ∀ b ∈ s.backups, b ∉ (afterPass s databaseID weather).backups →
        b.databaseID = databaseID ∧
          (b.startedAt : Int) + days.toInt * day ≤ passTime s weather

/-- The request is stored as a positive count, and its passes keep what is younger. -/
structure KeepsPromise (requested : Int64) : Prop where
  positive : 0 < storedRetention requested
  recent : KeepsRecent (storedRetention requested)

/-- The rows a pass leaves: all of them, or those that did not start before the cutoff. -/
theorem afterPass_backups {s : Vault} {databaseID : UUID} {d : DatabaseRow}
    (here : s.databases.find? databaseID = some d) (weather : Weather) :
    (afterPass s databaseID weather).backups = s.backups ∨
      (afterPass s databaseID weather).backups =
        (s.deleteBackupsOlderThan databaseID
          (retentionCutoff d (passTime s weather))).backups := by
  unfold afterPass Upkeep.run Weather.stmt
  rw [Prog.run_atomic_bind]
  unfold Weather.carry
  dsimp only
  by_cases unread : weather.fails .getDatabase = true
  · rw [if_pos unread]
    exact .inl rfl
  · rw [if_neg unread, here]
    unfold Upkeep.sweepAged
    rw [Prog.run_query_bind]
    unfold Upkeep.sweepOld Weather.exec Weather.stmt
    rw [Prog.run_atomic_bind]
    unfold Weather.carry
    dsimp only
    by_cases unlisted : weather.fails .listOld = true
    · rw [if_pos unlisted]
      exact .inl rfl
    · rw [if_neg unlisted]
      dsimp only
      rw [Prog.run_atomic_bind]
      dsimp only
      by_cases undeleted : weather.fails .deleteOld = true
      · rw [if_pos undeleted]
        exact .inl rfl
      · rw [if_neg undeleted]
        exact .inr rfl

/-- What a pass deletes started before its cutoff. -/
theorem deleted_before_cutoff {s : Vault} {databaseID : UUID} {d : DatabaseRow}
    (here : s.databases.find? databaseID = some d) (weather : Weather) {b : Backup}
    (inside : b ∈ s.backups) (deleted : b ∉ (afterPass s databaseID weather).backups) :
    b.databaseID = databaseID ∧ (b.startedAt : Int) < retentionCutoff d (passTime s weather) := by
  rcases afterPass_backups here weather with same | swept
  · exact absurd (same ▸ inside) deleted
  · rw [swept] at deleted
    by_contra kept
    refine deleted (Table.mem_deleteWhere.mpr ⟨inside, ?_⟩)
    simpa using kept

/-! ## The lag -/

/-- The lag is the days, up to a multiple of `2 ^ 64` nanoseconds. -/
theorem retentionLag_toInt (days : Int32) :
    (retentionLag days).toInt = (-(days.toInt * day)).bmod (2 ^ 64) := by
  have hours : (24 : Int64).toInt = 24 := by decide
  have hour : (3600000000000 : Int64).toInt = 3600000000000 := by decide
  rw [retentionLag, Int64.toInt_mul, Int64.toInt_mul, Int64.toInt_neg, Int32.toInt_toInt64, hours,
    hour, Int.bmod_mul_bmod, Int.mul_assoc, Int.bmod_mul_bmod]
  refine congrArg (Int.bmod · (2 ^ 64)) ?_
  rw [day]
  omega

/-- The longest retention that a `time.Duration` holds: 106751 days. -/
def maxDays : Int := 106751

theorem retentionLag_of_le {days : Int32} (positive : 0 < days) (fits : days.toInt ≤ maxDays) :
    (retentionLag days).toInt = -(days.toInt * day) := by
  have nonneg : 0 < days.toInt := Int32.lt_iff_toInt_lt.mp positive
  rw [retentionLag_toInt, Int.bmod_def]
  simp only [maxDays, day] at *
  omega

/-- A wrap makes the lag shorter, by at least `2 ^ 64` nanoseconds. -/
theorem retentionLag_of_lt {days : Int32} (long : maxDays < days.toInt) :
    -(days.toInt * day) + 2 ^ 64 ≤ (retentionLag days).toInt := by
  have bound := days.toInt_lt
  rw [retentionLag_toInt, Int.bmod_def]
  simp only [maxDays, day] at *
  omega

theorem retentionDays_eq {d : DatabaseRow} {days : Int32} (positive : 0 < days)
    (stored : d.backupRetentionDays = some days) : retentionDays d = days := by
  rw [retentionDays, stored]
  exact if_pos positive

/-! ## When a retention is kept -/

def agedDatabase (days : Int32) : DatabaseRow :=
  { id := 1, teamID := 2, serverID := 3, templateSlug := "postgres", name := "shop",
    containerName := "nw-db-shop", backupRetentionDays := some days }

def youngBackup : Backup :=
  { id := 4, databaseID := 1, type := .manual, backupTool := "pg_dump", startedAt := 1 }

/-- The database with that backup, the days after the start of the clock. -/
def agedVault (days : Int32) : Vault where
  now := (days.toInt * day).toNat
  databases := ⟨[agedDatabase days], List.nodup_singleton _⟩
  backups := ⟨[youngBackup], List.nodup_singleton _⟩

theorem agedVault_now {days : Int32} (positive : 0 < days) :
    ((agedVault days).now : Int) = days.toInt * day := by
  have nonneg : 0 < days.toInt := Int32.lt_iff_toInt_lt.mp positive
  refine Int.toNat_of_nonneg ?_
  rw [day]
  omega

/-- A wrapped cutoff lies behind the backup. -/
theorem young_deleted {days : Int32} (positive : 0 < days) (long : maxDays < days.toInt) :
    youngBackup ∉ (afterPass (agedVault days) 1 {}).backups := by
  intro kept
  have rows : (afterPass (agedVault days) 1 {}).backups =
      ((agedVault days).deleteBackupsOlderThan 1
        (retentionCutoff (agedDatabase days) (agedVault days).now)).backups := rfl
  rw [rows, retentionCutoff, retentionDays_eq positive rfl, agedVault_now positive] at kept
  have young : ¬ (youngBackup.startedAt : Int) < days.toInt * day + (retentionLag days).toInt :=
    of_decide_eq_false (Table.mem_deleteWhere.mp kept).2
  simp only [youngBackup] at young
  have lag := retentionLag_of_lt long
  omega

/-- **The days that a pass keeps.** -/
theorem keepsRecent_iff {days : Int32} (positive : 0 < days) :
    KeepsRecent days ↔ days.toInt ≤ maxDays := by
  constructor
  · intro keeps
    by_contra long
    have deleted := young_deleted positive (Int.not_le.mp long)
    have old := (keeps (agedVault days) 1 {} (agedDatabase days) rfl rfl youngBackup
      List.mem_cons_self deleted).2
    have now : (passTime (agedVault days) {} : Int) = days.toInt * day := agedVault_now positive
    rw [now] at old
    simp only [youngBackup] at old
    omega
  · intro fits s databaseID weather d here stored b inside deleted
    obtain ⟨own, old⟩ := deleted_before_cutoff here weather inside deleted
    refine ⟨own, ?_⟩
    rw [retentionCutoff, retentionDays_eq positive stored, retentionLag_of_le positive fits] at old
    omega

theorem storedRetention_toInt {requested : Int64} (positive : 0 < requested) :
    (storedRetention requested).toInt = requested.toInt.bmod (2 ^ 32) := by
  have asked : ¬ requested ≤ 0 := by simpa using positive
  rw [storedRetention, if_neg asked, Int64.toInt_toInt32]

/-- **Which requests are kept**: those with one to 106751 days in their low 32 bits. -/
theorem keeps_promise_iff (requested : Int64) (positive : 0 < requested) :
    KeepsPromise requested ↔
      1 ≤ requested.toInt % 2 ^ 32 ∧ requested.toInt % 2 ^ 32 ≤ maxDays := by
  have stored := storedRetention_toInt positive
  rw [Int.bmod_def] at stored
  constructor
  · rintro ⟨kept, recent⟩
    have days := (keepsRecent_iff kept).mp recent
    have above : 0 < (storedRetention requested).toInt := Int32.lt_iff_toInt_lt.mp kept
    rw [stored] at days above
    simp only [maxDays] at *
    omega
  · rintro ⟨some, fits⟩
    have kept : 0 < storedRetention requested := by
      rw [Int32.lt_iff_toInt_lt, stored]
      simp only [maxDays, Int32.toInt_zero] at *
      omega
    refine ⟨kept, (keepsRecent_iff kept).mpr ?_⟩
    rw [stored]
    simp only [maxDays] at *
    omega

/-- A year is kept. -/
theorem year_kept : KeepsPromise 365 := (keeps_promise_iff 365 (by decide)).mpr (by decide)

/-- Three hundred years are stored, and a pass deletes a backup that is a nanosecond too young; a
request of `2 ^ 31` days is stored as less than none. -/
theorem long_retention_wraps :
    (storedRetention 110000 = 110000 ∧
        youngBackup ∉ (afterPass (agedVault 110000) 1 {}).backups ∧ ¬ KeepsPromise 110000) ∧
      (storedRetention 2147483648).toInt = -2147483648 ∧ ¬ KeepsPromise 2147483648 := by
  have deleted : youngBackup ∉ (afterPass (agedVault 110000) 1 {}).backups :=
    young_deleted (by decide) (by decide)
  refine ⟨⟨by decide, deleted, fun kept => ?_⟩, by decide, fun kept => ?_⟩
  · exact absurd ((keepsRecent_iff kept.positive).mp kept.recent) (by decide)
  · exact absurd kept.positive (by decide)

end Nixway.Database
