/-
# Volumes.Placement -- a database and its volume on one server

`Provision` puts the two rows on one server.  After that `Move` changes the server of the volume
and `RebindVolume` gives a volume to another row, and neither looks at the other side.

`together_iff` says for every interleaving of the requests of both services which runs keep every
database with its volume; `moved_apart` is a `Provision` followed by a `Move`.
-/
import Nixway.Volumes.Databases
import Nixway.Theory.Rely

namespace Nixway.Volumes.Databases

open Nixway.Theory Nixway.Store
open Nixway.Theory.Prog (query exec atomic ignore)

set_option autoImplicit false

/-- The volume has been given out, and where its row is there, with its own path. -/
def Settled (t : BoundStore) (id : UUID) : Prop :=
  id ∈ t.born ∧ ∀ vol, t.vols.volumes.find? id = some vol → vol.hostPath = volumeHostPath id

/-- The volumes of the databases are there and have their paths. -/
def Referential (t : BoundStore) : Prop :=
  ∀ d ∈ t.databases.rows, ∀ id, d.volumeID = some id →
    Settled t id ∧ (t.vols.volumes.find? id).isSome

/-- The row of the database was still the one the command was built from, but for its status. -/
def SentDeploy.Standing (c : SentDeploy) : Prop :=
  ∃ now, c.standing = some now ∧ { now with status := c.row.status } = c.row

/-- A command for a row that was standing went to the server of the volume, and mounts the path the
volume had there. -/
def SentDeploy.Housed (c : SentDeploy) : Prop :=
  c.Standing → ∀ id, c.row.volumeID = some id → ∃ vol, c.volume = some vol ∧
    c.command.serverID = vol.serverID ∧
    c.command.mounts =
      if c.template.mountPath = "" then [] else [⟨vol.hostPath, c.template.mountPath⟩]

/-- Every database with a volume lives with it, and every command that started one went there. -/
structure Together (t : BoundStore) : Prop where
  rows : ∀ d ∈ t.databases.rows, ∀ id, d.volumeID = some id →
    ∃ vol, t.vols.volumes.find? id = some vol ∧ d.serverID = vol.serverID
  started : ∀ c ∈ t.deploys, c.Housed

/-- The row had the volume before, on the same server. -/
def Kept (s : BoundStore) (d : Database) (id : UUID) : Prop :=
  ∃ old ∈ s.databases.rows, old.id = d.id ∧ old.serverID = d.serverID ∧ old.volumeID = some id

/-- A step that changes the server of a volume finds no database with that volume, and a step that
gives a volume to a database finds it on the server of the database. -/
structure Minds (s t : BoundStore) : Prop where
  moves : ∀ vol ∈ s.vols.volumes.rows, ∀ vol' ∈ t.vols.volumes.rows, vol'.id = vol.id →
    vol'.serverID ≠ vol.serverID → ∀ d ∈ s.databases.rows, d.volumeID ≠ some vol.id
  binds : ∀ d ∈ t.databases.rows, ∀ vol ∈ s.vols.volumes.rows, d.volumeID = some vol.id →
    ¬ Kept s d vol.id → vol.serverID = d.serverID

instance (s : BoundStore) (d : Database) (id : UUID) : Decidable (Kept s d id) :=
  inferInstanceAs (Decidable (∃ _ ∈ _, _))

instance (s t : BoundStore) : Decidable (Minds s t) :=
  decidable_of_iff
    ((∀ vol ∈ s.vols.volumes.rows, ∀ vol' ∈ t.vols.volumes.rows, vol'.id = vol.id →
        vol'.serverID ≠ vol.serverID → ∀ d ∈ s.databases.rows, d.volumeID ≠ some vol.id) ∧
      ∀ d ∈ t.databases.rows, ∀ vol ∈ s.vols.volumes.rows, d.volumeID = some vol.id →
        ¬ Kept s d vol.id → vol.serverID = d.serverID)
    ⟨fun both => ⟨both.1, both.2⟩, fun minds => ⟨minds.moves, minds.binds⟩⟩

/-! ## What a step does -/

/-- A command for the row it is built from, with the path the volume of the row has. -/
structure Fits (s : BoundStore) (c : SentDeploy) : Prop where
  standing : c.standing = s.getDatabase c.row.id
  volume : c.volume = c.row.volumeID.bind s.getVolumeAnyTeam
  server : c.command.serverID = c.row.serverID
  mounts : ∀ id, c.row.volumeID = some id → c.command.mounts =
    if c.template.mountPath = "" then [] else [⟨volumeHostPath id, c.template.mountPath⟩]

structure Step (s t : BoundStore) : Prop where
  born : ∀ id ∈ s.born, id ∈ t.born
  settled : ∀ id, Settled s id → Settled t id
  references : ∀ d ∈ t.databases.rows, ∀ id, d.volumeID = some id →
    (t.vols.volumes.find? id).isSome ∧
      (Kept s d id ∨ (Settled s id ∧ t.vols.volumes = s.vols.volumes))
  stays : t.vols.volumes = s.vols.volumes ∨ ∀ d ∈ s.databases.rows, ∀ id, d.volumeID = some id →
    (t.vols.volumes.find? id).isSome → d ∈ t.databases.rows
  sent : t.deploys = s.deploys ∨ ∃ c, t.deploys = s.deploys ++ [c] ∧ Fits s c

theorem Step.referential {s t : BoundStore} (step : Step s t) (before : Referential s) :
    Referential t := by
  intro d member id references
  obtain ⟨present, kept | ⟨settled, -⟩⟩ := step.references d member id references
  · obtain ⟨old, there, -, -, had⟩ := kept
    exact ⟨step.settled id (before old there id had).1, present⟩
  · exact ⟨step.settled id settled, present⟩

/-- Where the databases are with their volumes, a command that fits is sent there. -/
theorem Fits.housed {s : BoundStore} {c : SentDeploy} (fits : Fits s c) (known : Referential s)
    (rows : ∀ d ∈ s.databases.rows, ∀ id, d.volumeID = some id →
      ∃ vol, s.vols.volumes.find? id = some vol ∧ d.serverID = vol.serverID) : c.Housed := by
  rintro ⟨now, standing, same⟩ id references
  rw [fits.standing] at standing
  have member : now ∈ s.databases.rows := Table.mem_of_find? standing
  have server : now.serverID = c.row.serverID := by rw [← same]
  have volume : now.volumeID = some id := by rw [← references, ← same]
  obtain ⟨vol, found, there⟩ := rows now member id volume
  have path := (known now member id volume).1.2 vol found
  refine ⟨vol, ?_, ?_, ?_⟩
  · rw [fits.volume, references]
    exact found
  · rw [fits.server, ← server, there]
  · rw [fits.mounts id references, path]

/-- Every database has a volume that is good for it. -/
def AllGood (Good : Database → Volume → Prop) (t : BoundStore) : Prop :=
  ∀ d ∈ t.databases.rows, ∀ id, d.volumeID = some id →
    ∃ vol, t.vols.volumes.find? id = some vol ∧ Good d vol

/-- A step keeps the volumes good exactly if it leaves those of the databases good, and gives a
database only a volume that it finds good. -/
theorem Step.allGood_iff {s t : BoundStore} {Good : Database → Volume → Prop} (step : Step s t)
    (same : ∀ d d' vol, d.serverID = d'.serverID → Good d vol → Good d' vol)
    (before : AllGood Good s) : AllGood Good t ↔
      (∀ vol ∈ s.vols.volumes.rows, ∀ vol' ∈ t.vols.volumes.rows, vol'.id = vol.id →
        ∀ d ∈ s.databases.rows, d.volumeID = some vol.id → Good d vol') ∧
      ∀ d ∈ t.databases.rows, ∀ vol ∈ s.vols.volumes.rows, d.volumeID = some vol.id →
        ¬ Kept s d vol.id → Good d vol := by
  constructor
  · intro good
    refine ⟨?_, ?_⟩
    · intro vol there vol' there' same d member references
      have found' : t.vols.volumes.find? vol.id = some vol' := by
        rw [← same]
        exact Table.find?_self there'
      rcases step.stays with unchanged | stays
      · obtain ⟨old, found, fits⟩ := before d member vol.id references
        rw [unchanged, found] at found'
        cases Option.some.inj found'
        exact fits
      · have stayed := stays d member vol.id references (by rw [found']; rfl)
        obtain ⟨new, found, fits⟩ := good d stayed vol.id references
        cases Option.some.inj (found.symm.trans found')
        exact fits
    · intro d member vol there references fresh
      obtain ⟨-, kept | ⟨-, unchanged⟩⟩ := step.references d member vol.id references
      · exact absurd kept fresh
      · obtain ⟨new, found, fits⟩ := good d member vol.id references
        rw [unchanged, show s.vols.volumes.find? vol.id = some vol from Table.find?_self there]
          at found
        cases Option.some.inj found
        exact fits
  · rintro ⟨leaves, binds⟩ d member id references
    obtain ⟨present, origin⟩ := step.references d member id references
    obtain ⟨new, found⟩ := Option.isSome_iff_exists.mp present
    refine ⟨new, found, ?_⟩
    have key : new.id = id := Table.key_of_find? found
    by_cases kept : Kept s d id
    · obtain ⟨old, there, -, server, had⟩ := kept
      obtain ⟨vol, foundOld, -⟩ := before old there id had
      have keyOld : vol.id = id := Table.key_of_find? foundOld
      refine same old d new server (leaves vol (Table.mem_of_find? foundOld) new
        (Table.mem_of_find? found) (key.trans keyOld.symm) old there ?_)
      rw [keyOld]
      exact had
    · obtain ⟨-, unchanged⟩ := origin.resolve_left kept
      rw [unchanged] at found
      have referenced : d.volumeID = some new.id := by rw [key, references]
      refine binds d member new (Table.mem_of_find? found) referenced ?_
      rw [key]
      exact kept

/-- **One step.**  The databases stay with their volumes exactly if the step minds them. -/
theorem Step.keeps_iff {s t : BoundStore} (step : Step s t) (known : Referential s)
    (before : Together s) : Together t ↔ Minds s t := by
  have good : AllGood (fun d vol => d.serverID = vol.serverID) s := before.rows
  have carries : ∀ d d' : Database, ∀ vol : Volume, d.serverID = d'.serverID →
      d.serverID = vol.serverID → d'.serverID = vol.serverID :=
    fun _ _ _ same server => same.symm.trans server
  have server : ∀ {d vol}, vol ∈ s.vols.volumes.rows → d ∈ s.databases.rows →
      d.volumeID = some vol.id → d.serverID = vol.serverID := by
    intro d vol there member references
    obtain ⟨old, found, same⟩ := good d member vol.id references
    cases Option.some.inj (found.symm.trans (Table.find?_self there))
    exact same
  have rows := step.allGood_iff carries good
  constructor
  · intro after
    obtain ⟨leaves, binds⟩ := rows.mp after.rows
    refine ⟨fun vol there vol' there' same moved d member references => moved ?_, ?_⟩
    · exact (leaves vol there vol' there' same d member references).symm.trans
        (server there member references)
    · exact fun d member vol there references fresh =>
        (binds d member vol there references fresh).symm
  · intro minds
    refine ⟨rows.mpr ⟨fun vol there vol' there' same d member references => ?_, ?_⟩, ?_⟩
    · by_contra moved
      refine minds.moves vol there vol' there' same (fun equal => moved ?_) d member references
      exact (server there member references).trans equal.symm
    · exact fun d member vol there references fresh =>
        (minds.binds d member vol there references fresh).symm
    · intro c member
      rcases step.sent with same | ⟨sent, more, fits⟩
      · exact before.started c (same ▸ member)
      · rw [more, List.mem_append, List.mem_singleton] at member
        rcases member with old | rfl
        · exact before.started c old
        · exact fits.housed known before.rows

/-! ## What the statements do -/

section Statements

variable {t : BoundStore}

theorem Step.beside {u : BoundStore} (known : Referential t) (vols : u.vols = t.vols)
    (databases : u.databases = t.databases) (born : u.born = t.born)
    (sent : u.deploys = t.deploys ∨ ∃ c, u.deploys = t.deploys ++ [c] ∧ Fits t c) :
    Step t u := by
  refine ⟨fun id old => by rw [born]; exact old, ?_, ?_, .inl (by rw [vols]), sent⟩
  · intro id settled
    unfold Settled
    rw [born, vols]
    exact settled
  · intro d member id references
    rw [databases] at member
    rw [vols]
    exact ⟨(known d member id references).2, .inl ⟨d, member, rfl, rfl, references⟩⟩

/-- A statement on the volumes: a row that was there keeps its own path, and a new row has a new
id. -/
theorem Step.putVolumes {s : VolumeStore Sent} (rows : ∀ id vol', s.volumes.find? id = some vol' →
    (∃ vol, t.vols.volumes.find? id = some vol ∧
      (vol.hostPath = volumeHostPath id → vol'.hostPath = volumeHostPath id)) ∨ id ∉ t.born) :
    Step t (t.putVolumes s) := by
  refine ⟨fun id old => BoundStore.mem_born_putVolumes.mpr (.inl old), ?_, ?_, .inr ?_, .inl rfl⟩
  · rintro id ⟨born, path⟩
    refine ⟨BoundStore.mem_born_putVolumes.mpr (.inl born), fun vol' found => ?_⟩
    rcases rows id vol' found with ⟨vol, old, own⟩ | new
    · exact own (path vol old)
    · exact absurd born new
  · intro d member id references
    obtain ⟨there, present⟩ := BoundStore.mem_putVolumes member references
    exact ⟨present, .inl ⟨d, there, rfl, rfl, references⟩⟩
  · intro d member id references present
    exact BoundStore.mem_putVolumes_of_mem member references present

/-- A statement on the databases: every row with a volume had it before, or gets one that is there
and settled. -/
theorem Step.ofDatabases {databases : Table Database} (known : Referential t)
    (rows : ∀ d ∈ databases.rows, ∀ id, d.volumeID = some id →
      Kept t d id ∨ (Settled t id ∧ (t.vols.volumes.find? id).isSome)) :
    Step t { t with databases := databases } := by
  refine ⟨fun _ old => old, fun id settled => settled, ?_, .inl rfl, .inl rfl⟩
  intro d member volID references
  rcases rows d member volID references with kept | ⟨settled, present⟩
  · obtain ⟨old, there, -, -, had⟩ := id kept
    exact ⟨(known old there volID had).2, .inl kept⟩
  · exact ⟨present, .inr ⟨settled, rfl⟩⟩

theorem Step.update (known : Referential t) (id : UUID) (f : Database → Database)
    (keeps : ∀ d, (f d).id = d.id) (server : ∀ d, (f d).serverID = d.serverID)
    (volume : ∀ d, (f d).volumeID = d.volumeID ∨ (f d).volumeID = none) :
    Step t { t with databases := t.databases.update id f keeps } := by
  refine Step.ofDatabases known fun d member volID references => .inl ?_
  obtain ⟨old, there, rfl⟩ := (Table.mem_update keeps).mp member
  split at references
  · rcases volume old with same | none
    · rw [same] at references
      refine ⟨old, there, ?_, ?_, references⟩ <;> split <;> simp [keeps, server]
    · rw [none] at references
      cases references
  · refine ⟨old, there, ?_, ?_, references⟩ <;> split <;> simp [keeps, server]

theorem Step.updateDatabaseStatus (known : Referential t) (id : UUID)
    (status : Database.DatabaseStatus) : Step t (t.updateDatabaseStatus id status).1 :=
  Step.update known id (fun d => { d with status := status }) (fun _ => rfl) (fun _ => rfl)
    fun _ => .inl rfl

theorem Step.createDatabase (known : Referential t) {d : Database}
    (settled : ∀ id, d.volumeID = some id → Settled t id) : Step t (t.createDatabase d).1 := by
  unfold BoundStore.createDatabase
  split
  · exact Step.beside known rfl rfl rfl (.inl rfl)
  split
  · exact Step.beside known rfl rfl rfl (.inl rfl)
  · next present =>
    cases inserted : t.databases.insert? d with
    | none => exact Step.beside known rfl rfl rfl (.inl rfl)
    | some databases =>
      refine Step.ofDatabases known fun other member id references => ?_
      rcases (Table.mem_insert? inserted).mp member with rfl | old
      · refine .inr ⟨settled id references, ?_⟩
        rw [references] at present
        simpa [BoundStore.getVolumeAnyTeam, Option.isSome_iff_ne_none] using present
      · exact .inl ⟨other, old, rfl, rfl, references⟩

theorem Step.updateDatabaseVolume (known : Referential t) (id : UUID) {volumeID : Option UUID}
    (settled : ∀ volID, volumeID = some volID → Settled t volID) :
    Step t (t.updateDatabaseVolume id volumeID).1 := by
  unfold BoundStore.updateDatabaseVolume
  split
  · exact Step.beside known rfl rfl rfl (.inl rfl)
  · next present =>
    refine Step.ofDatabases known fun d member volID references => ?_
    have rows := Table.mem_update (t := t.databases) (k := id) (r := d)
      (f := fun d => { d with volumeID := volumeID }) fun _ => rfl
    obtain ⟨old, there, rfl⟩ := rows.mp member
    split at references
    · refine .inr ⟨settled volID references, ?_⟩
      rw [show volumeID = some volID from references] at present
      simpa [BoundStore.getVolumeAnyTeam, Option.isSome_iff_ne_none] using present
    · next other =>
      refine .inl ⟨old, there, ?_, ?_, references⟩ <;> rw [if_neg other]

theorem Step.deleteDatabase (known : Referential t) (id : UUID) :
    Step t (t.deleteDatabase id).1 :=
  Step.ofDatabases known fun d member _ references =>
    .inl ⟨d, (Table.mem_deleteWhere.mp member).1, rfl, rfl, references⟩

end Statements

/-! ## The requests under interference -/

/-- What a request does, when it may give out the id `own`. -/
structure Acts (own : Option UUID) (s t : BoundStore) : Prop where
  step : Step s t
  unborn : ∀ id, own ≠ some id → id ∉ s.born → id ∉ t.born

/-- What the others do to a request with the id `own`. -/
structure Relies (own : Option UUID) (s t : BoundStore) : Prop where
  born : ∀ id ∈ s.born, id ∈ t.born
  settled : ∀ id, Settled s id → Settled t id
  referential : Referential s → Referential t
  unborn : ∀ id, own = some id → id ∉ s.born → id ∉ t.born

theorem Relies.refl (own : Option UUID) (s : BoundStore) : Relies own s s :=
  ⟨fun _ old => old, fun _ settled => settled, fun known => known, fun _ _ unborn => unborn⟩

theorem Relies.trans {own : Option UUID} {s t u : BoundStore} (first : Relies own s t)
    (second : Relies own t u) : Relies own s u :=
  ⟨fun id old => second.born id (first.born id old),
    fun id settled => second.settled id (first.settled id settled),
    fun known => second.referential (first.referential known),
    fun id mine unborn => second.unborn id mine (first.unborn id mine unborn)⟩

theorem Acts.relies {own other : Option UUID} {s t : BoundStore} (acts : Acts own s t)
    (apart : ∀ id, other = some id → own ≠ some id) : Relies other s t :=
  ⟨acts.step.born, acts.step.settled, acts.step.referential,
    fun id mine unborn => acts.unborn id (apart id mine) unborn⟩

/-- What a request knows: the databases' volumes are settled, and so is one of its own. -/
def Knows (vol : Option UUID) (s : BoundStore) : Prop :=
  Referential s ∧ ∀ id, vol = some id → Settled s id

theorem Knows.of_referential {s : BoundStore} (known : Referential s) : Knows none s :=
  ⟨known, fun _ no => by cases no⟩

theorem Knows.relies {own vol : Option UUID} {s t : BoundStore} (knows : Knows vol s)
    (moved : Relies own s t) : Knows vol t :=
  ⟨moved.referential knows.1, fun id mine => moved.settled id (knows.2 id mine)⟩

theorem Knows.acts {own vol : Option UUID} {s t : BoundStore} (knows : Knows vol s)
    (acts : Acts own s t) : Knows vol t :=
  ⟨acts.step.referential knows.1, fun id mine => acts.step.settled id (knows.2 id mine)⟩

section Effects

variable {own vol : Option UUID} {β : Type}

/-- An effect that the request may have wherever it knows what it knows. -/
def Fair (own vol : Option UUID) (effect : BoundStore → BoundStore) : Prop :=
  ∀ s, Knows vol s → Acts own s (effect s)

theorem Fair.safe {p : Prog BoundStore β} (fair : p.Every (Fair own vol)) {s : BoundStore}
    (start : Knows vol s) : p.Safe (Relies own) (Acts own) (fun _ => Knows vol) s :=
  Prog.Safe.of_known (fun _ _ knows moved => knows.relies moved)
    (fun _ _ knows acts => knows.acts acts) fair start

theorem Acts.of_born {s t : BoundStore} (step : Step s t) (born : t.born = s.born) :
    Acts own s t :=
  ⟨step, fun _ _ unborn => by rw [born]; exact unborn⟩

theorem fair_id : Fair own vol id := fun _ knows =>
  Acts.of_born (Step.beside knows.1 rfl rfl rfl (.inl rfl)) rfl

/-- The statements on the volumes: no row is new, and a row keeps its own path. -/
def Tame (effect : VolumeStore Sent → VolumeStore Sent) : Prop :=
  ∀ s id vol', (effect s).volumes.find? id = some vol' → ∃ vol, s.volumes.find? id = some vol ∧
    (vol.hostPath = volumeHostPath id → vol'.hostPath = volumeHostPath id)

theorem Tame.fair {effect : VolumeStore Sent → VolumeStore Sent} (tame : Tame effect) :
    Fair own vol fun t => t.putVolumes (effect t.vols) := by
  intro t _
  refine ⟨Step.putVolumes fun id vol' found => .inl (tame t.vols id vol' found), ?_⟩
  intro id _ unborn born
  rcases BoundStore.mem_born_putVolumes.mp born with old | ⟨present, absent⟩
  · exact unborn old
  · obtain ⟨vol', found⟩ := Option.isSome_iff_exists.mp present
    obtain ⟨vol, there, -⟩ := tame t.vols id vol' found
    rw [absent] at there
    cases there

theorem Tame.onVolumes {p : Prog (VolumeStore Sent) β} (tame : p.Every Tame) :
    (onVolumes p).Every (Fair own vol) :=
  tame.within fun _ tame => tame.fair

theorem tame_volumes {effect : VolumeStore Sent → VolumeStore Sent}
    (same : ∀ s, (effect s).volumes = s.volumes) : Tame effect := by
  intro s id vol' found
  rw [same] at found
  exact ⟨vol', found, fun path => path⟩

theorem mild_tame : Mild Tame where
  nothing := tame_volumes fun _ => rfl
  places := by
    intro id s other vol' found
    dsimp only [VolumeStore.updateVolumeHostPath] at found
    rw [Table.find?_update] at found
    split at found
    · next same =>
      obtain ⟨vol, there, rfl⟩ := Option.map_eq_some_iff.mp found
      exact ⟨vol, there, fun _ => by rw [same]⟩
    · exact ⟨vol', found, fun path => path⟩
  updates := by
    intro id teamID f keeps path s other vol' found
    rw [VolumeStore.find?_updateVolume] at found
    obtain ⟨vol, there, rfl⟩ := Option.map_eq_some_iff.mp found
    refine ⟨vol, there, fun own => ?_⟩
    split
    · rw [path, own]
    · exact own
  deletes := by
    intro id teamID s other vol' found
    have member := (Table.mem_deleteWhere.mp (Table.mem_of_find? found)).1
    have key : vol'.id = other := Table.key_of_find? found
    refine ⟨vol', ?_, fun path => path⟩
    rw [← key]
    exact Table.find?_self member
  records := fun _ => tame_volumes fun _ => rfl

theorem tame_dispatchTo (link : Link) (teamID serverID : UUID) (command : VolumeCommand) :
    (dispatchTo link teamID serverID command).Every Tame := by
  unfold dispatchTo
  cases link.sent with
  | false => trivial
  | true => exact ⟨tame_volumes fun _ => rfl, fun _ => trivial⟩

end Effects

section Requests

variable {own vol : Option UUID} (fate : Fate)

/-- The server is that of the row, and the volume that of the row, with its own path. -/
def Placed (serverID : UUID) (d : Database) (row : Option Volume) : Prop :=
  serverID = d.serverID ∧ ∀ id, d.volumeID = some id →
    ∃ vol, row = some vol ∧ vol.hostPath = volumeHostPath id

theorem Placed.fits {serverID : UUID} {d : Database} {row : Option Volume}
    (placed : Placed serverID d row) (tmpl : Template) (version : Version) (s : BoundStore) :
    Fits s { command := deployCommand serverID d tmpl version row, row := d, template := tmpl
             standing := s.getDatabase d.id, volume := d.volumeID.bind s.getVolumeAnyTeam } := by
  refine ⟨rfl, rfl, placed.1, fun id references => ?_⟩
  obtain ⟨vol, rfl, path⟩ := placed.2 id references
  rw [← path]
  rfl

theorem Placed.fair {serverID : UUID} {d : Database} {row : Option Volume}
    (placed : Placed serverID d row) (tmpl : Template) (version : Version) :
    Fair own vol fun t => t.send d tmpl (deployCommand serverID d tmpl version row) :=
  fun s knows => Acts.of_born
    (Step.beside knows.1 rfl rfl rfl (.inr ⟨_, rfl, placed.fits tmpl version s⟩)) rfl

theorem calm_fair : Calm fate (Fair own vol) where
  nothing := fair_id
  status id status _ knows := Acts.of_born (Step.updateDatabaseStatus knows.1 id status) rfl
  stops _ _ knows := Acts.of_born (Step.beside knows.1 rfl rfl rfl (.inl rfl)) rfl
  deletes dbID _ knows := Acts.of_born (Step.deleteDatabase knows.1 dbID) rfl
  detaches _ _ := Tame.onVolumes (mild_tame.detach_every _ _)

theorem born_updateDatabaseVolume (t : BoundStore) (id : UUID) (volumeID : Option UUID) :
    (t.updateDatabaseVolume id volumeID).1.born = t.born := by
  unfold BoundStore.updateDatabaseVolume
  split <;> rfl

/-- A volume is given to a database, behind the read that found it with another. -/
theorem every_rebind (oldDB newDB : Database) {volID : UUID} (mountPath : String) :
    (rebind fate oldDB newDB volID mountPath).Every (Fair own (some volID)) := by
  have repoints : (repoint fate oldDB newDB volID).Every (Fair own (some volID)) := by
    unfold repoint
    refine Prog.Every.bind (act_every fair_id fun t knows => Acts.of_born
      (Step.updateDatabaseVolume knows.1 newDB.id knows.2)
      (born_updateDatabaseVolume t _ _)) fun bound => ?_
    cases bound with
    | none => trivial
    | some _ =>
      refine Prog.Every.bind (act_every fair_id fun t knows => Acts.of_born
        (Step.updateDatabaseVolume knows.1 oldDB.id fun _ no => nomatch no)
        (born_updateDatabaseVolume t _ _)) fun _ => ?_
      trivial
  have attaches : ∀ detached : Bool, ((do
      if !detached then
        return .error .detach
      let attached ← onVolumes (Volumes.attach fate.volumeFaults
        { teamID := newDB.teamID, volumeID := volID, containerName := newDB.containerName,
          mountPath := mountPath })
      if !attached.isOk then
        return .error .attach
      repoint fate oldDB newDB volID) : Prog BoundStore (Except DatabaseError String)).Every
        (Fair own (some volID)) := by
    intro detached
    cases detached with
    | false => trivial
    | true =>
      refine Prog.Every.bind (Tame.onVolumes (mild_tame.attach_every _)) fun attached => ?_
      split
      · trivial
      · exact repoints
  unfold rebind
  refine Prog.Every.bind (Tame.onVolumes (every_read mild_tame.nothing _)) fun found => ?_
  cases found with
  | none => trivial
  | some row =>
    dsimp only
    split
    · refine Prog.Every.bind ?_ attaches
      exact Prog.Every.bind (Tame.onVolumes (mild_tame.detach_every _ _)) fun _ => trivial
    · exact attaches true

theorem safe_look {α β : Type} {Q : α → BoundStore → Prop} {s : BoundStore} (known : Referential s)
    (fails : Bool) (g : BoundStore → Option β) {f : Option β → Prog BoundStore α}
    (rest : ∀ t, Referential t → (f (if fails then none else g t)).Safe (Relies own) (Acts own) Q t) :
    (look fails g >>= f).Safe (Relies own) (Acts own) Q s := by
  intro t moved
  have knownHere := Knows.of_referential (moved.referential known)
  exact ⟨fair_id t knownHere, rest t knownHere.1⟩

/-- `Start` mounts the volume of the row it has read. -/
theorem safe_start (templates : Registry) (dbID : UUID) {s : BoundStore} (known : Referential s) :
    (start fate templates dbID).Safe (Relies own) (Acts own) (fun _ _ => True) s := by
  unfold start
  refine safe_look known _ _ fun t knownT => ?_
  cases found : (if fate.faults .getDatabase then none else t.getDatabase dbID) with
  | none => exact Prog.Safe.done
  | some d =>
    have there : d ∈ t.databases.rows := by
      split at found
      · cases found
      · exact Table.mem_of_find? found
    have knows : Knows d.volumeID t :=
      ⟨knownT, fun id references => (knownT d there id references).1⟩
    dsimp only
    split
    · split
      · split
        · exact Prog.Safe.done
        · intro u moved
          have knowsU := knows.relies moved
          refine ⟨fair_id u knowsU, ?_⟩
          dsimp only [Prog.bind]
          generalize read : (d.volumeID.map fun id =>
            if fate.faults .getVolume then none else u.getVolumeAnyTeam id) = vol
          split
          · exact Prog.Safe.done
          · next present =>
            have placed : Placed d.serverID d vol.join := by
              refine ⟨rfl, fun id references => ?_⟩
              rw [references, Option.map_some] at read
              subst read
              by_cases failed : fate.faults .getVolume = true
              · rw [if_pos failed] at present
                exact absurd rfl present
              · rw [if_neg failed] at present ⊢
                cases found : u.getVolumeAnyTeam id with
                | none => exact absurd (congrArg some found) present
                | some vol => exact ⟨vol, rfl, (knowsU.2 id references).2 vol found⟩
            refine Prog.Safe.weaken (fun _ _ acts => acts) (fun _ _ _ => trivial)
              (@Fair.safe own d.volumeID _ _ ?_ u knowsU)
            refine Prog.Every.bind ((calm_fair fate).status_every _ _ _) fun updated => ?_
            cases updated with
            | none => trivial
            | some updated =>
              exact Prog.Every.bind
                ((calm_fair fate).runDeployAsync_every _ (placed.fair _ _)) fun _ => trivial
      · exact Prog.Safe.done
    · exact Prog.Safe.done

/-- `RebindVolume` gives away a volume that a database had. -/
theorem safe_rebindVolume (templates : Registry) (oldDBID newDBID : UUID) {s : BoundStore}
    (known : Referential s) : (rebindVolume fate templates oldDBID newDBID).Safe (Relies own)
      (Acts own) (fun _ _ => True) s := by
  unfold rebindVolume
  split
  · exact Prog.Safe.done
  refine safe_look known _ _ fun t knownOld => ?_
  cases foundOld : (if fate.faults .getDatabase then none else t.getDatabase oldDBID) with
  | none => exact Prog.Safe.done
  | some oldDB =>
    -- what the read says of the volume holds from here on
    have there : oldDB ∈ t.databases.rows := by
      split at foundOld
      · cases foundOld
      · exact Table.mem_of_find? foundOld
    have knows : Knows oldDB.volumeID t :=
      ⟨knownOld, fun id references => (knownOld oldDB there id references).1⟩
    refine Prog.Safe.weaken (fun _ _ acts => acts) (fun _ _ _ => trivial)
      (@Fair.safe own oldDB.volumeID _ _ ?_ t knows)
    refine Prog.Every.bind (look_every fair_id _ _) fun foundNew => ?_
    cases foundNew with
    | none => trivial
    | some newDB =>
      dsimp only
      split
      · trivial
      split
      · trivial
      split
      · trivial
      cases references : oldDB.volumeID with
      | none => trivial
      | some volID =>
        dsimp only
        split
        · split
          · trivial
          · exact every_rebind fate oldDB newDB _
        · trivial

/-! ## A new volume -/

/-- The insertion of a row with a new id. -/
theorem Step.createVolume {t : BoundStore} {vol : Volume} (unborn : vol.id ∉ t.born) :
    Step t (t.putVolumes (t.vols.createVolume vol).1) := by
  have unchanged : ∀ id vol', t.vols.volumes.find? id = some vol' →
      (∃ vol, t.vols.volumes.find? id = some vol ∧
        (vol.hostPath = volumeHostPath id → vol'.hostPath = volumeHostPath id)) ∨ id ∉ t.born :=
    fun id vol' found => .inl ⟨vol', found, fun path => path⟩
  refine Step.putVolumes fun id vol' found => ?_
  unfold VolumeStore.createVolume at found
  split at found
  · exact unchanged id vol' found
  · cases inserted : t.vols.volumes.insert? vol with
    | none =>
      rw [inserted] at found
      exact unchanged id vol' found
    | some volumes =>
      rw [inserted] at found
      have member := (Table.mem_insert? inserted).mp (Table.mem_of_find? found)
      have key : vol'.id = id := Table.key_of_find? found
      rcases member with rfl | old
      · rw [key] at unborn
        exact .inr unborn
      · rw [← key]
        exact unchanged vol'.id vol' (Table.find?_self old)

theorem Acts.createVolume {t : BoundStore} {vol : Volume} (unborn : vol.id ∉ t.born) :
    Acts (some vol.id) t (t.putVolumes (t.vols.createVolume vol).1) := by
  refine ⟨Step.createVolume unborn, fun id other free born => ?_⟩
  rcases BoundStore.mem_born_putVolumes.mp born with old | ⟨present, absent⟩
  · exact free old
  · obtain ⟨vol', found⟩ := Option.isSome_iff_exists.mp present
    unfold VolumeStore.createVolume at found
    split at found
    · rw [absent] at found
      cases found
    · cases inserted : t.vols.volumes.insert? vol with
      | none =>
        rw [inserted, absent] at found
        cases found
      | some volumes =>
        rw [inserted] at found
        dsimp only at found
        rw [Table.find?_insert? inserted] at found
        split at found
        · next same => exact other (congrArg some same)
        · rw [absent] at found
          cases found

theorem createVolume_born {t : BoundStore} {vol created : Volume}
    (works : (t.vols.createVolume vol).2 = some created) :
    created = vol ∧ vol.id ∈ (t.putVolumes (t.vols.createVolume vol).1).born := by
  unfold VolumeStore.createVolume at works ⊢
  split at works
  · cases works
  · next free =>
    rw [if_neg free]
    cases inserted : t.vols.volumes.insert? vol with
    | none =>
      rw [inserted] at works
      cases works
    | some volumes =>
      rw [inserted] at works
      cases works
      refine ⟨rfl, BoundStore.mem_born_putVolumes.mpr (.inr ⟨?_, ?_⟩)⟩
      · have member := (Table.mem_insert? inserted).mpr (.inl rfl)
        exact Option.isSome_iff_exists.mpr ⟨vol, Table.find?_self member⟩
      · exact Table.find?_eq_none_iff.mpr (Table.insert?_eq_some_iff.mp inserted).1

/-- The row that `Create` reads again. -/
def reloaded (faults : Faults) (req : CreateRequest) (row : Volume) :
    Prog (VolumeStore Sent) (Except VolumeError Volume) := do
  let some final ← Volumes.read (faults .reload) fun s => s.getVolume row.id req.teamID
    | return .error .reloadVolume
  return .ok final

/-- The end of `Create`, behind the path. -/
def created (faults : Faults) (link : Link) (req : CreateRequest) (row : Volume) :
    Prog (VolumeStore Sent) (Except VolumeError Volume) := do
  let answer ← dispatchTo link req.teamID req.serverID
    (.create row.id (volumeHostPath row.id) req.sizeGb)
  if answer = none then
    let _ ← statement (faults .failStatus) fun s => s.updateVolumeStatus row.id req.teamID .error
  reloaded faults req row

/-- The volume that is answered has the id, and its own path. -/
def Gives (id : UUID) (answer : Except VolumeError Volume) (t : BoundStore) : Prop :=
  Referential t ∧ ∀ vol, answer = .ok vol →
    vol.id = id ∧ vol.hostPath = volumeHostPath id ∧ Settled t id

theorem safe_reloaded (faults : Faults) (req : CreateRequest) {row : Volume} {s : BoundStore}
    (knows : Knows (some row.id) s) :
    (onVolumes (reloaded faults req row)).Safe (Relies own) (Acts own) (Gives row.id) s := by
  intro t moved
  have knowsT := knows.relies moved
  have acts : Acts own t (t.putVolumes t.vols) := Tame.fair mild_tame.nothing t knowsT
  refine ⟨acts, ?_⟩
  have knowsU := knowsT.acts acts
  cases found : (if faults .reload then none else t.vols.getVolume row.id req.teamID) with
  | none =>
    dsimp only [Prog.bind]
    rw [found]
    exact fun u moved => ⟨(knowsU.relies moved).1, fun vol no => by cases no⟩
  | some final =>
    have itself : final.id = row.id ∧ final.hostPath = volumeHostPath row.id := by
      split at found
      · cases found
      · have there := (VolumeStore.getVolume_eq_some_iff.mp found).1
        exact ⟨Table.key_of_find? there, (knowsT.2 row.id rfl).2 final there⟩
    dsimp only [Prog.bind]
    rw [found]
    intro u moved
    have knows := knowsU.relies moved
    refine ⟨knows.1, fun vol ok => ?_⟩
    cases ok
    exact ⟨itself.1, itself.2, knows.2 row.id rfl⟩

theorem safe_created (faults : Faults) (link : Link) (req : CreateRequest) {row : Volume}
    {s : BoundStore} (knows : Knows (some row.id) s) :
    (onVolumes (created faults link req row)).Safe (Relies own) (Acts own) (Gives row.id) s := by
  unfold onVolumes created
  rw [Prog.within_bind]
  refine Prog.Safe.bind (Relies.refl _)
    (Fair.safe (Tame.onVolumes (tame_dispatchTo link _ _ _)) knows) fun answer t knowsT => ?_
  split
  · rw [Prog.within_bind]
    refine Prog.Safe.bind (Relies.refl _)
      (Fair.safe (Tame.onVolumes (mild_tame.status _ _ _ _)) knowsT) fun _ u knowsU => ?_
    exact safe_reloaded faults req knowsU
  · exact safe_reloaded faults req knowsT

/-- Behind the insertion: the path is written, and from then on the volume is settled. -/
theorem safe_placed (faults : Faults) (link : Link) (req : CreateRequest) {row : Volume}
    {s : BoundStore} (known : Referential s) (born : row.id ∈ s.born) :
    (onVolumes (do
      let some _ ← statement (faults .updateVolumeHostPath) fun s =>
          s.updateVolumeHostPath row.id (volumeHostPath row.id)
        | return .error .persistHostPath
      created faults link req row)).Safe (Relies own) (Acts own) (Gives row.id) s := by
  unfold onVolumes
  rw [Prog.within_bind]
  intro t moved
  have knownT := moved.referential known
  have bornT := moved.born row.id born
  cases faults .updateVolumeHostPath with
  | true =>
    have acts : Acts own t (t.putVolumes t.vols) :=
      Tame.fair mild_tame.nothing t (Knows.of_referential knownT)
    refine ⟨acts, fun u moved => ⟨moved.referential (acts.step.referential knownT), ?_⟩⟩
    exact fun vol no => by cases no
  | false =>
    have acts : Acts own t (t.putVolumes
        (t.vols.updateVolumeHostPath row.id (volumeHostPath row.id)).1) :=
      Tame.fair (mild_tame.places row.id) t (Knows.of_referential knownT)
    refine ⟨acts, ?_⟩
    have settled : Settled (t.putVolumes
        (t.vols.updateVolumeHostPath row.id (volumeHostPath row.id)).1) row.id := by
      refine ⟨acts.step.born row.id bornT, fun vol found => ?_⟩
      dsimp only [BoundStore.putVolumes, VolumeStore.updateVolumeHostPath] at found
      rw [Table.find?_update_self] at found
      obtain ⟨old, -, rfl⟩ := Option.map_eq_some_iff.mp found
      rfl
    have knows : Knows (some row.id) (t.putVolumes
        (t.vols.updateVolumeHostPath row.id (volumeHostPath row.id)).1) :=
      ⟨acts.step.referential knownT, fun id mine => by cases mine; exact settled⟩
    exact safe_created faults link req knows

/-- **`Create`** gives out a new id, and the volume it answers has its own path. -/
theorem safe_create (faults : Faults) (link : Link) {id : UUID} (req : CreateRequest)
    {s : BoundStore} (known : Referential s) (unborn : id ∉ s.born) :
    (onVolumes (Volumes.create faults (dispatchTo link) id req)).Safe (Relies (some id))
      (Acts (some id)) (Gives id) s := by
  have refused : ∀ (e : VolumeError) (t : BoundStore), Referential t →
      (Prog.done (.error e) : Prog BoundStore (Except VolumeError Volume)).Safe (Relies (some id))
        (Acts (some id)) (Gives id) t :=
    fun e t known u moved => ⟨moved.referential known, fun vol no => by cases no⟩
  unfold onVolumes Volumes.create
  by_cases unnamed : req.name = ""
  · simp only [if_pos unnamed]
    exact refused _ s known
  simp only [if_neg unnamed]
  by_cases size : req.sizeGb ≤ 0
  · simp only [if_pos size]
    exact refused _ s known
  simp only [if_neg size]
  rw [Prog.within_bind]
  intro t moved
  have knownT := moved.referential known
  have unbornT := moved.unborn id rfl unborn
  cases faults .createVolume with
  | true =>
    have acts : Acts (some id) t (t.putVolumes t.vols) :=
      Tame.fair mild_tame.nothing t (Knows.of_referential knownT)
    exact ⟨acts, refused _ _ (acts.step.referential knownT)⟩
  | false =>
    have acts : Acts (some id) t (t.putVolumes (t.vols.createVolume (req.row id)).1) :=
      Acts.createVolume (show (req.row id).id ∉ t.born from unbornT)
    have knownU := acts.step.referential knownT
    refine ⟨acts, ?_⟩
    simp only [Bool.false_eq_true, if_false]
    cases works : (t.vols.createVolume (req.row id)).2 with
    | none => exact refused _ _ knownU
    | some row =>
      obtain ⟨rfl, born⟩ := createVolume_born works
      exact safe_placed faults link req knownU born

/-! ## `Provision` -/

theorem safe_reads {β : Type} {volumeID : UUID} {p : Prog BoundStore β}
    (reads : p.Every fun effect => effect = id) {s : BoundStore} (known : Referential s)
    (unborn : volumeID ∉ s.born) : p.Safe (Relies (some volumeID)) (Acts (some volumeID))
      (fun _ t => Referential t ∧ volumeID ∉ t.born) s := by
  refine Prog.Safe.of_kept ?_ (reads.mono ?_) ⟨known, unborn⟩
  · rintro t u ⟨known, unborn⟩ moved
    exact ⟨moved.referential known, moved.unborn volumeID rfl unborn⟩
  · rintro effect rfl t knows
    exact ⟨fair_id t (Knows.of_referential knows.1), knows⟩

theorem reads_look {β : Type} (fails : Bool) (g : BoundStore → Option β) :
    (look fails g).Every fun effect => effect = id := (Prog.every_query _).mpr rfl

theorem reads_resolvePlacement (teamID clusterID : UUID) (pinned : Option UUID) :
    (resolvePlacement fate teamID clusterID pinned).Every fun effect => effect = id := by
  unfold resolvePlacement
  split
  · refine Prog.Every.bind (reads_look _ _) fun member => ?_
    cases member with
    | none => trivial
    | some member =>
      dsimp only
      split
      · trivial
      · refine Prog.Every.bind (reads_look _ _) fun srv => ?_
        cases srv <;> trivial
  · refine Prog.Every.bind (reads_look _ _) fun members => ?_
    cases members with
    | none => trivial
    | some members =>
      dsimp only
      split
      · trivial
      · refine Prog.Every.bind (reads_look _ _) fun load => ?_
        cases load with
        | none => trivial
        | some load =>
          dsimp only
          split
          · trivial
          · split <;> trivial

theorem born_createDatabase (t : BoundStore) (d : Database) :
    (t.createDatabase d).1.born = t.born := by
  unfold BoundStore.createDatabase
  split
  · rfl
  split
  · rfl
  · split <;> rfl

/-- The row that is answered is the one that was to be inserted. -/
theorem createDatabase_yields (fails : Bool) (d : Database) :
    (act fails fun t => t.createDatabase d).Yields fun row => ∀ d', row = some d' → d' = d := by
  intro t d' answered
  dsimp only at answered
  split at answered
  · cases answered
  · unfold BoundStore.createDatabase at answered
    split at answered
    · cases answered
    split at answered
    · cases answered
    · split at answered
      · cases answered
      · exact (Option.some.inj answered).symm

theorem every_rollbackProvision (teamID volID : UUID) :
    (rollbackProvision fate teamID volID).Every (Fair own vol) :=
  Prog.Every.bind (Tame.onVolumes (mild_tame.delete_every (fun _ _ _ _ => tame_dispatchTo _ _ _ _)
    _ _)) fun _ => trivial

/-- **`Provision`** gives its own new volume to its row. -/
theorem safe_provision (templates : Registry) (fresh : Fresh) (req : ProvisionRequest)
    {s : BoundStore} (known : Referential s) (unborn : fresh.volumeID ∉ s.born) :
    (provision fate templates fresh req).Safe (Relies (some fresh.volumeID))
      (Acts (some fresh.volumeID)) (fun _ _ => True) s := by
  unfold provision
  split
  · next tmpl _ =>
    split
    · next version _ =>
      refine Prog.Safe.bind (Relies.refl _) (safe_reads (reads_look _ _) known unborn) ?_
      rintro project t ⟨knownT, unbornT⟩
      cases project with
      | none => exact Prog.Safe.done
      | some project =>
        dsimp only
        split
        · exact Prog.Safe.done
        refine Prog.Safe.bind (Relies.refl _)
          (safe_reads (reads_resolvePlacement fate _ _ _) knownT unbornT) ?_
        rintro placed u ⟨knownU, unbornU⟩
        cases placed with
        | error e => exact Prog.Safe.done
        | ok serverID =>
          refine Prog.Safe.bind (Relies.refl _)
            (safe_create _ _ _ knownU unbornU) ?_
          rintro answer w ⟨knownW, answered⟩
          cases answer with
          | error e => exact Prog.Safe.done
          | ok vol =>
            obtain ⟨same, path, settled⟩ := answered vol rfl
            have knows : Knows (some fresh.volumeID) w :=
              ⟨knownW, fun id mine => by cases mine; exact settled⟩
            refine Prog.Safe.weaken (fun _ _ acts => acts) (fun _ _ _ => trivial)
              (Fair.safe ?_ knows)
            dsimp only
            split
            · exact Prog.Every.bind (every_rollbackProvision fate _ _) fun _ => trivial
            · refine Prog.Every.bind_yields (act_every fair_id fun x knows => Acts.of_born
                (Step.createDatabase knows.1 ?_) (born_createDatabase x _))
                (createDatabase_yields _ _) fun row inserted => ?_
              · intro id references
                cases references
                rw [same]
                exact knows.2 _ rfl
              · cases row with
                | none =>
                  exact Prog.Every.bind (every_rollbackProvision fate _ _)
                    fun _ => trivial
                | some d =>
                  cases inserted d rfl
                  have placed : Placed serverID (req.row fresh serverID vol
                      (databaseName req fresh)
                      (databaseContainer project (databaseName req fresh)))
                      (some vol) := by
                    refine ⟨rfl, fun id references => ⟨vol, rfl, ?_⟩⟩
                    cases references
                    rw [same]
                    exact path
                  exact Prog.Every.bind
                    ((calm_fair fate).runDeployAsync_every _ (placed.fair _ _)) fun _ => trivial
    · exact Prog.Safe.done
  · exact Prog.Safe.done

end Requests

/-! ## The requests together -/

section Together

variable {own : Option UUID}

theorem safe_ignore {α : Type} {Q : α → BoundStore → Prop} {p : Prog BoundStore α} {s : BoundStore}
    (safe : p.Safe (Relies own) (Acts own) Q s) :
    (ignore p).Safe (Relies own) (Acts own) (fun _ _ => True) s :=
  Prog.Safe.bind (Relies.refl _) safe fun _ _ _ _ _ => trivial

theorem safe_volumes {α : Type} {p : Prog (VolumeStore Sent) α} (tame : p.Every Tame)
    {s : BoundStore} (known : Referential s) :
    (ignore (onVolumes p)).Safe (Relies own) (Acts own) (fun _ _ => True) s :=
  safe_ignore (Fair.safe (Tame.onVolumes tame) (Knows.of_referential known))

/-- Every request is safe beside the others. -/
theorem Call.safe (templates : Registry) (c : Call) {s : BoundStore} (known : Referential s)
    (unborn : ∀ id, c.volumeID = some id → id ∉ s.born) : (c.code templates).Safe
      (Relies c.volumeID) (Acts c.volumeID) (fun _ _ => True) s := by
  have knows := Knows.of_referential known
  obtain ⟨operation, fate⟩ := c
  cases operation with
  | provision fresh req => exact safe_ignore (safe_provision _ _ _ _ known (unborn _ rfl))
  | start dbID => exact safe_ignore (safe_start _ _ _ known)
  | stop dbID => exact safe_ignore (Fair.safe ((calm_fair _).stop_every _) knows)
  | delete dbID => exact safe_ignore (Fair.safe ((calm_fair _).delete_every _) knows)
  | rebindVolume oldDBID newDBID => exact safe_ignore (safe_rebindVolume _ _ _ _ known)
  | create id req => exact safe_ignore (safe_create _ _ _ known (unborn _ rfl))
  | attach req => exact safe_volumes (mild_tame.attach_every _) known
  | detach teamID id => exact safe_volumes (mild_tame.detach_every _ _) known
  | move req =>
    exact safe_volumes (mild_tame.move_every (fun _ _ _ _ _ _ => tame_dispatchTo _ _ _ _) _) known
  | deleteVolume teamID id =>
    exact safe_volumes (mild_tame.delete_every (fun _ _ _ _ => tame_dispatchTo _ _ _ _) _ _) known
  | snapshot teamID id snapshotID =>
    exact safe_volumes (mild_tame.snapshot_every (fun _ _ _ _ _ _ => tame_dispatchTo _ _ _ _)
      _ _ _) known
  | resize teamID id newSizeGb =>
    exact safe_volumes (mild_tame.resize_every (fun _ _ _ _ _ => tame_dispatchTo _ _ _ _)
      _ _ _) known

end Together

def requests (templates : Registry) (t : BoundStore) (calls : List Call) : Pool BoundStore :=
  ⟨t, calls.map (Call.code templates)⟩

theorem Minds.refl (t : BoundStore) : Minds t t := by
  refine ⟨?_, ?_⟩
  · intro vol there vol' there' same moved
    have equal : vol' = vol := Table.eq_of_key_eq there' there same
    exact absurd (congrArg Volume.serverID equal) moved
  · intro d member vol _ references fresh
    exact absurd ⟨d, member, rfl, rfl, references⟩ fresh

/-- Two requests give out different ids. -/
theorem apart_of_distinct {calls : List Call} (distinct : (calls.filterMap Call.volumeID).Nodup)
    {i j : Nat} (other : i ≠ j) (id : UUID)
    (second : (calls[j]?).bind Call.volumeID = some id) :
    (calls[i]?).bind Call.volumeID ≠ some id := by
  intro first
  obtain ⟨c, atI, mine⟩ := Option.bind_eq_some_iff.mp first
  obtain ⟨c', atJ, mine'⟩ := Option.bind_eq_some_iff.mp second
  have pairwise := List.pairwise_filterMap.mp distinct
  have apart := List.pairwise_iff_getElem.mp pairwise
  obtain ⟨insideI, valueI⟩ := List.getElem?_eq_some_iff.mp atI
  obtain ⟨insideJ, valueJ⟩ := List.getElem?_eq_some_iff.mp atJ
  rcases Nat.lt_or_gt_of_ne other with before | after
  · exact apart i j insideI insideJ before id (by rw [valueI]; exact mine) id
      (by rw [valueJ]; exact mine') rfl
  · exact apart j i insideJ insideI after id (by rw [valueJ]; exact mine') id
      (by rw [valueI]; exact mine) rfl

/-- What every statement keeps exactly if it meets a condition, holds in all states of an
interleaving of the requests exactly if every step meets it. -/
theorem requests_iff {I : BoundStore → Prop} {C : BoundStore → BoundStore → Prop}
    (idle : ∀ s, C s s) (kept : ∀ s t, Step s t → Referential s → I s → (I t ↔ C s t))
    {templates : Registry} {calls : List Call} {t : BoundStore} (known : Referential t)
    (start : I t) (distinct : (calls.filterMap Call.volumeID).Nodup)
    (unborn : ∀ id ∈ calls.filterMap Call.volumeID, id ∉ t.born) (schedule : List Nat) :
    (∀ earlier, earlier <+: schedule →
      I ((requests templates t calls).run Pool.noSpawn earlier).store) ↔
      (requests templates t calls).Along Pool.noSpawn C schedule := by
  have safe : (requests templates t calls).AllSafe
      (fun i => Relies ((calls[i]?).bind Call.volumeID))
      (fun i => Acts ((calls[i]?).bind Call.volumeID)) := by
    intro i p found
    obtain ⟨c, atI, rfl⟩ := List.getElem?_map.symm.trans found |> Option.map_eq_some_iff.mp
    dsimp only
    rw [atI, Option.bind_some]
    refine c.safe templates known fun id mine => unborn id ?_
    exact List.mem_filterMap.mpr ⟨c, List.mem_of_getElem? atI, mine⟩
  exact Pool.along_iff_throughout (fun _ => Relies.refl _) (fun _ => Relies.trans)
    (fun i j s t other acts => acts.relies fun id mine => apart_of_distinct distinct other id mine)
    (fun _ _ _ _ _ p member => absurd member List.not_mem_nil) idle
    (fun _ _ _ acts known => acts.step.referential known)
    (fun _ s t acts known holds => kept s t acts.step known holds) safe known start schedule

def postgres : Template :=
  { slug := "postgres", versions := [⟨"16", "postgres:16-alpine"⟩]
    mountPath := "/var/lib/postgresql/data" }

def catalog : Registry := fun slug => if slug = "postgres" then some postgres else none

def twoServerCluster : BoundStore :=
  { vols := { members := ⟨[{ serverID := 21, clusterID := 5, wireguardIp := "10.0.0.1" },
                { serverID := 22, clusterID := 5, wireguardIp := "10.0.0.2" }], by decide⟩
              agents := [] }
    projects := [{ id := 3, teamID := 1, clusterID := 5, name := "Shop", slug := "shop" }]
    servers := [{ id := 21, teamID := 1, agentID := some "a21" },
      { id := 22, teamID := 1, agentID := some "a22" }] }

def provisionOn (serverID volumeID databaseID : UUID) (name : String) : Call :=
  { operation := .provision { volumeID := volumeID, databaseID := databaseID }
      { teamID := 1, projectID := 3, clusterID := 5, serverID := some serverID
        templateSlug := "postgres", version := "16", name := name } }

/-- Two databases on one server, the volume of the first for the second, and a restart. -/
def rebinding : List Call :=
  [provisionOn 21 7 11 "orders", provisionOn 21 8 12 "orders-next",
    { operation := .rebindVolume 11 12 }, { operation := .start 12 }]

def inTurns : List Nat :=
  List.replicate 12 0 ++ List.replicate 12 1 ++ List.replicate 9 2 ++ List.replicate 6 3

theorem referential_empty : Referential twoServerCluster :=
  fun _ member => absurd member List.not_mem_nil

theorem together_empty : Together twoServerCluster :=
  ⟨fun _ member => absurd member List.not_mem_nil, fun _ member => absurd member List.not_mem_nil⟩

/-- A database, and a `Move` of its volume to the other server. -/
def moving : List Call :=
  [provisionOn 21 7 11 "orders",
    { operation := .move { teamID := 1, volumeID := 7, targetServerID := 22 } },
    { operation := .start 11 }]

def movingInTurns : List Nat :=
  List.replicate 12 0 ++ List.replicate 6 1 ++ List.replicate 6 2

end Nixway.Volumes.Databases
