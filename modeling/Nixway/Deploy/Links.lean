/-
# Deploy.Links -- databases linked to one app

`LinkDatabase` and `UnlinkDatabase` of `internal/database/link.go` beside the rows they depend on,
and `BuildEnvForApp` over the links they leave.  A link stores the prefix of its six variables;
the prefix is trimmed and else taken as it is, and `database_links` has a database once for an
app, but a prefix as often as it is asked for.

A prefix that another one extends does no harm: a suffix begins with its only underscore, so a key
says where its prefix ends (`key_inj`).  `links_provided_iff` is exact: every link has its six
variables just if every link can be resolved and no two share their prefix.
-/
import Nixway.Deploy.Precedence

namespace Nixway.Deploy.Links

open Nixway.Theory Nixway.Store

set_option autoImplicit false

/-! ## Rows and requests -/

/-- A row of `apps`, as far as a link reads it. -/
structure LinkApp where
  id : UUID
  projectID : UUID

structure LinkStore where
  env : EnvStore
  apps : List LinkApp := []
  /-- `databases.project_id`, by the id of the row. -/
  projectID : UUID → UUID := fun _ => 0

inductive LinkError where
  | getDatabase | getApp | otherProject | createLink | getLink

namespace LinkStore

variable (s : LinkStore)

def getApp (id : UUID) : Option LinkApp := s.apps.find? fun app => app.id = id

/-- `CreateDatabaseLink`; a database is linked to an app once. -/
def createDatabaseLink (link : DatabaseLink) : LinkStore × Option DatabaseLink :=
  if s.env.links.rows.any fun other =>
      other.databaseID = link.databaseID ∧ other.appID = link.appID then
    (s, none)
  else
    match s.env.links.insert? link with
    | none => (s, none)
    | some links => ({ s with env := { s.env with links := links } }, some link)

/-- `LinkDatabase`; the redeploy it asks for may fail and is only logged. -/
def linkDatabase (id databaseID appID : UUID) (envPrefix : String) (now : Nat) :
    LinkStore × Except LinkError DatabaseLink :=
  let given := trimSpace envPrefix
  let stored := if given = "" then "DATABASE" else given
  match s.env.databases.find? databaseID with
  | none => (s, .error .getDatabase)
  | some d =>
    match s.getApp appID with
    | none => (s, .error .getApp)
    | some app =>
      if app.projectID ≠ s.projectID d.id then (s, .error .otherProject)
      else
        match s.createDatabaseLink
          { id := id, databaseID := databaseID, appID := appID, envPrefix := stored
            createdAt := now } with
        | (s, none) => (s, .error .createLink)
        | (s, some link) => (s, .ok link)

/-- `UnlinkDatabase`. -/
def unlinkDatabase (linkID : UUID) : LinkStore × Except LinkError Unit :=
  match s.env.links.find? linkID with
  | none => (s, .error .getLink)
  | some _ =>
    ({ s with env := { s.env with links := s.env.links.deleteWhere fun link => link.id = linkID } },
      .ok ())

/-- `CreateDatabase`; a name is once in a project. -/
def createDatabase (d : LinkedDatabase) (project : UUID) : LinkStore :=
  if s.env.databases.rows.any fun other =>
      s.projectID other.id = project ∧ other.name = d.name then s
  else
    match s.env.databases.insert? d with
    | none => s
    | some databases =>
      { s with
        env := { s.env with databases := databases }
        projectID := fun id => if id = d.id then project else s.projectID id }

/-- `DeleteDatabase`; its links go with it. -/
def deleteDatabase (id : UUID) : LinkStore :=
  { s with env := { s.env with
      databases := s.env.databases.deleteWhere fun d => d.id = id
      links := s.env.links.deleteWhere fun link => link.databaseID = id } }

/-- `UpdateDatabaseDNSRecord`. -/
def updateDatabaseDNSRecord (id : UUID) (dnsRecord : Option String) : LinkStore :=
  { s with env := { s.env with
      databases := s.env.databases.update id fun d => { d with dnsRecord := dnsRecord } } }

end LinkStore

/-- What happens to the links and to the databases they name. -/
inductive Event where
  | link (id databaseID appID : UUID) (envPrefix : String) (now : Nat)
  | unlink (linkID : UUID)
  | createDatabase (d : LinkedDatabase) (project : UUID)
  | deleteDatabase (id : UUID)
  | setDNSRecord (id : UUID) (dnsRecord : Option String)

def step (s : LinkStore) : Event → LinkStore
  | .link id databaseID appID envPrefix now =>
    (s.linkDatabase id databaseID appID envPrefix now).1
  | .unlink linkID => (s.unlinkDatabase linkID).1
  | .createDatabase d project => s.createDatabase d project
  | .deleteDatabase id => s.deleteDatabase id
  | .setDNSRecord id dnsRecord => s.updateDatabaseDNSRecord id dnsRecord

/-! ## What every history keeps -/

/-- A database is linked to an app once, in its own project, where its name is its own. -/
structure Linked (s : LinkStore) : Prop where
  once : ∀ link ∈ s.env.links, ∀ other ∈ s.env.links, link.databaseID = other.databaseID →
    link.appID = other.appID → link = other
  there : ∀ link ∈ s.env.links, s.env.databases.find? link.databaseID ≠ none
  project : ∀ link ∈ s.env.links, ∃ app, s.getApp link.appID = some app ∧
    app.projectID = s.projectID link.databaseID
  names : ∀ d ∈ s.env.databases, ∀ other ∈ s.env.databases,
    s.projectID d.id = s.projectID other.id → d.name = other.name → d = other

section Steps

variable {s : LinkStore}

theorem Linked.createDatabaseLink (linked : Linked s) {link : DatabaseLink} {app : LinkApp}
    (there : s.env.databases.find? link.databaseID ≠ none)
    (found : s.getApp link.appID = some app)
    (project : app.projectID = s.projectID link.databaseID) :
    Linked (s.createDatabaseLink link).1 := by
  unfold LinkStore.createDatabaseLink
  split
  · exact linked
  · next unlinked =>
    cases inserted : s.env.links.insert? link with
    | none => exact linked
    | some links =>
      have mem : ∀ l, l ∈ links ↔ l = link ∨ l ∈ s.env.links :=
        fun l => Table.mem_insert? inserted
      have new : ∀ other ∈ s.env.links, other.databaseID = link.databaseID →
          other.appID ≠ link.appID := by
        intro other member database app
        exact unlinked (List.any_eq_true.mpr ⟨other, member, decide_eq_true ⟨database, app⟩⟩)
      refine ⟨fun l member other member' database app => ?_, fun l member => ?_,
        fun l member => ?_, linked.names⟩
      · rcases (mem l).mp member with rfl | old <;> rcases (mem other).mp member' with rfl | old'
        · rfl
        · exact absurd app.symm (new other old' database.symm)
        · exact absurd app (new l old database)
        · exact linked.once l old other old' database app
      · rcases (mem l).mp member with rfl | old
        · exact there
        · exact linked.there l old
      · rcases (mem l).mp member with rfl | old
        · exact ⟨app, found, project⟩
        · exact linked.project l old

theorem Linked.createDatabase (linked : Linked s) (d : LinkedDatabase) (project : UUID) :
    Linked (s.createDatabase d project) := by
  unfold LinkStore.createDatabase
  split
  · exact linked
  · next unused =>
    cases inserted : s.env.databases.insert? d with
    | none => exact linked
    | some databases =>
      have mem : ∀ e, e ∈ databases ↔ e = d ∨ e ∈ s.env.databases :=
        fun e => Table.mem_insert? inserted
      have fresh : ∀ e ∈ s.env.databases, e.id ≠ d.id :=
        (Table.insert?_eq_some_iff.mp inserted).1
      have new : ∀ e ∈ s.env.databases, s.projectID e.id = project → e.name ≠ d.name := by
        intro e member same name
        exact unused (List.any_eq_true.mpr ⟨e, member, decide_eq_true ⟨same, name⟩⟩)
      have old : ∀ link ∈ s.env.links, link.databaseID ≠ d.id := by
        intro link member same
        obtain ⟨e, found⟩ := Option.ne_none_iff_exists'.mp (linked.there link member)
        exact fresh e (Table.mem_of_find? found) ((Table.key_of_find? found).trans same)
      refine ⟨linked.once, fun link member => ?_, fun link member => ?_,
        fun e member other member' same name => ?_⟩
      · show databases.find? link.databaseID ≠ none
        rw [Table.find?_insert? inserted]
        split
        · exact Option.some_ne_none d
        · exact linked.there link member
      · obtain ⟨app, found, projects⟩ := linked.project link member
        refine ⟨app, found, projects.trans ?_⟩
        exact (if_neg (old link member)).symm
      · dsimp only at same
        rcases (mem e).mp member with rfl | there <;>
          rcases (mem other).mp member' with rfl | there'
        · rfl
        · rw [if_pos rfl, if_neg (fresh other there')] at same
          exact absurd name.symm (new other there' same.symm)
        · rw [if_pos rfl, if_neg (fresh e there)] at same
          exact absurd name (new e there same)
        · rw [if_neg (fresh e there), if_neg (fresh other there')] at same
          exact linked.names e there other there' same name

/-- **One event.** -/
theorem Linked.step (linked : Linked s) (e : Event) : Linked (step s e) := by
  cases e with
  | link id databaseID appID envPrefix now =>
    show Linked (s.linkDatabase id databaseID appID envPrefix now).1
    unfold LinkStore.linkDatabase
    dsimp only
    cases foundDB : s.env.databases.find? databaseID with
    | none => exact linked
    | some d =>
      cases foundApp : s.getApp appID with
      | none => exact linked
      | some app =>
        dsimp only
        by_cases project : app.projectID = s.projectID d.id
        · have key : d.id = databaseID := Table.key_of_find? foundDB
          rw [if_neg (not_not_intro project)]
          have made := @Linked.createDatabaseLink s linked
            { id := id, databaseID := databaseID, appID := appID, createdAt := now
              envPrefix := if trimSpace envPrefix = "" then "DATABASE"
                else trimSpace envPrefix } app
            (by rw [foundDB]; exact Option.some_ne_none d) foundApp
            (project.trans (congrArg s.projectID key))
          split
          · next refused => rw [refused] at made; exact made
          · next accepted => rw [accepted] at made; exact made
        · rw [if_pos project]
          exact linked
  | unlink linkID =>
    show Linked (s.unlinkDatabase linkID).1
    unfold LinkStore.unlinkDatabase
    split
    · exact linked
    · have kept : ∀ link, link ∈ s.env.links.deleteWhere (fun link => link.id = linkID) →
          link ∈ s.env.links := fun link member => (Table.mem_deleteWhere.mp member).1
      exact ⟨fun link member other member' => linked.once link (kept link member) other
          (kept other member'), fun link member => linked.there link (kept link member),
        fun link member => linked.project link (kept link member), linked.names⟩
  | createDatabase d project => exact linked.createDatabase d project
  | deleteDatabase id =>
    have kept : ∀ link ∈ (s.deleteDatabase id).env.links,
        link ∈ s.env.links ∧ link.databaseID ≠ id := by
      intro link member
      obtain ⟨there, other⟩ := Table.mem_deleteWhere.mp member
      exact ⟨there, of_decide_eq_false other⟩
    refine ⟨fun link member other member' => ?_, fun link member => ?_, fun link member => ?_,
      fun d member other member' => ?_⟩
    · exact linked.once link (kept link member).1 other (kept other member').1
    · obtain ⟨there, other⟩ := kept link member
      obtain ⟨d, found⟩ := Option.ne_none_iff_exists'.mp (linked.there link there)
      show Table.find? (Table.deleteWhere _ _) _ ≠ none
      have key : d.id = link.databaseID := Table.key_of_find? found
      rw [Table.find?_deleteWhere_eq, found, Option.filter_some, if_pos]
      · exact Option.some_ne_none d
      · simp [key, other]
    · exact linked.project link (kept link member).1
    · exact linked.names d (Table.mem_deleteWhere.mp member).1 other
        (Table.mem_deleteWhere.mp member').1
  | setDNSRecord id dnsRecord =>
    have rows : ∀ d ∈ (s.updateDatabaseDNSRecord id dnsRecord).env.databases,
        ∃ old ∈ s.env.databases, d.id = old.id ∧ d.name = old.name := by
      intro d member
      obtain ⟨old, there, rfl⟩ := List.mem_map.mp member
      refine ⟨old, there, ?_⟩
      split <;> exact ⟨rfl, rfl⟩
    refine ⟨linked.once, fun link member => ?_, linked.project,
      fun d member other member' same name => ?_⟩
    · have present := linked.there link member
      rw [ne_eq, ← Option.isNone_iff_eq_none, ← Option.not_isSome, Bool.not_eq_true',
        Bool.not_eq_false] at present ⊢
      exact (@Table.isSome_find?_update LinkedDatabase UUID _ _ s.env.databases
        (fun d => { d with dnsRecord := dnsRecord }) (fun _ => rfl) id link.databaseID).trans
          present
    · obtain ⟨old, there, id₁, name₁⟩ := rows d member
      obtain ⟨old', there', id₂, name₂⟩ := rows other member'
      rw [id₁, id₂] at same
      rw [name₁, name₂] at name
      have equal := linked.names old there old' there' same name
      refine Table.eq_of_key_eq member member' ?_
      exact id₁.trans ((congrArg LinkedDatabase.id equal).trans id₂.symm)

theorem Linked.run (linked : Linked s) (history : List Event) :
    Linked (history.foldl Links.step s) := by
  induction history generalizing s with
  | nil => exact linked
  | cons e history ih => exact ih (linked.step e)

end Steps

/-! ## The keys of a link -/

/-- `{PREFIX}_URL/_HOST/_PORT/_USER/_PASSWORD/_NAME`. -/
def suffixes : List String := ["_URL", "_HOST", "_PORT", "_USER", "_PASSWORD", "_NAME"]

theorem key_inj {start start' suffix suffix' : String} (mem : suffix ∈ suffixes)
    (mem' : suffix' ∈ suffixes) (same : start ++ suffix = start' ++ suffix') :
    start = start' ∧ suffix = suffix' := by
  have shape : ∀ text ∈ suffixes, ∃ rest, text.toList = '_' :: rest ∧ '_' ∉ rest := by
    intro text member
    rcases List.mem_cons.mp member with rfl | member
    · exact ⟨"URL".toList, rfl, by decide⟩
    rcases List.mem_cons.mp member with rfl | member
    · exact ⟨"HOST".toList, rfl, by decide⟩
    rcases List.mem_cons.mp member with rfl | member
    · exact ⟨"PORT".toList, rfl, by decide⟩
    rcases List.mem_cons.mp member with rfl | member
    · exact ⟨"USER".toList, rfl, by decide⟩
    rcases List.mem_cons.mp member with rfl | member
    · exact ⟨"PASSWORD".toList, rfl, by decide⟩
    · rw [List.mem_singleton.mp member]
      exact ⟨"NAME".toList, rfl, by decide⟩
  obtain ⟨rest, text, clear⟩ := shape suffix mem
  obtain ⟨rest', text', clear'⟩ := shape suffix' mem'
  have lists : start.toList ++ '_' :: rest = start'.toList ++ '_' :: rest' := by
    rw [← text, ← text', ← String.toList_append, ← String.toList_append, same]
  -- the longer of the two starts would have its last underscore inside a suffix
  have equal : start.toList = start'.toList := by
    rcases List.append_eq_append_iff.mp lists with ⟨more, left, right⟩ | ⟨more, left, right⟩
    · cases more with
      | nil => rw [left, List.append_nil]
      | cons c more =>
        obtain ⟨-, tails⟩ := List.cons.inj right
        exact absurd (tails ▸ List.mem_append_right more List.mem_cons_self) clear
    · cases more with
      | nil => rw [left, List.append_nil]
      | cons c more =>
        obtain ⟨-, tails⟩ := List.cons.inj right
        exact absurd (tails ▸ List.mem_append_right more List.mem_cons_self) clear'
  have starts := String.toList_inj.mp equal
  subst starts
  exact ⟨rfl, String.append_right_inj start |>.mp same⟩

theorem keys_linkVars (fmt password : String) (d : LinkedDatabase) (link : DatabaseLink) :
    (linkVars fmt password d link).map Prod.fst = suffixes.map (linkPrefix link ++ ·) := rfl

/-- The keys of a link that is resolved or skipped. -/
theorem key_of_linkEnv {s : EnvStore} {link : DatabaseLink} {key : String}
    (there : (EnvMap.get key (s.linkEnv link)).isSome) :
    ∃ suffix ∈ suffixes, key = linkPrefix link ++ suffix := by
  have member : key ∈ (s.linkEnv link).map Prod.fst := by
    by_contra absent
    rw [EnvMap.get_of_not_mem absent] at there
    cases there
  have keys : (s.linkEnv link).map Prod.fst ⊆ suffixes.map (linkPrefix link ++ ·) := by
    unfold EnvStore.linkEnv
    split
    · exact List.nil_subset _
    · split
      · exact List.nil_subset _
      · split
        · exact List.nil_subset _
        · exact List.Subset.refl _
  obtain ⟨suffix, mem, same⟩ := List.mem_map.mp (keys member)
  exact ⟨suffix, mem, same.symm⟩

/-! ## The variables of the app -/

/-- What the variables of a link are made from. -/
structure Resolved (s : EnvStore) (link : DatabaseLink) (d : LinkedDatabase)
    (fmt password : String) : Prop where
  database : s.databases.find? link.databaseID = some d
  template : s.connStringFmt d.templateSlug = some fmt
  secret : ∃ resolved, s.bulkResolve d.teamID ("database:" ++ d.name) ["APP_PASSWORD"] [] =
    .ok resolved ∧ (EnvMap.get "APP_PASSWORD" resolved).getD "" = password

/-- The six variables of the link are in the map, with the values of its own database. -/
def Provides (s : EnvStore) (appID : UUID) (link : DatabaseLink) : Prop :=
  ∃ d fmt password, Resolved s link d fmt password ∧
    ∀ entry ∈ linkVars fmt password d link,
      EnvMap.get entry.1 (s.buildEnvForApp appID) = some entry.2

section Variables

variable {s : EnvStore} {appID : UUID} {link other : DatabaseLink} {d : LinkedDatabase}
  {fmt password : String}

theorem Resolved.linkEnv (resolved : Resolved s link d fmt password) :
    s.linkEnv link = linkVars fmt password d link := by
  obtain ⟨m, answered, secret⟩ := resolved.secret
  unfold EnvStore.linkEnv
  rw [resolved.database]
  dsimp only
  rw [resolved.template]
  dsimp only
  rw [answered, ← secret]

theorem get_of_mem {env : EnvMap} (single : EnvMap.Single env) {entry : String × String}
    (member : entry ∈ env) : EnvMap.get entry.1 env = some entry.2 := by
  induction env with
  | nil => cases member
  | cons first rest ih =>
    obtain ⟨new, single⟩ := List.nodup_cons.mp single
    rw [EnvMap.get_cons]
    rcases List.mem_cons.mp member with rfl | later
    · rw [if_pos rfl]
    · rw [if_neg fun same => new (List.mem_map.mpr ⟨entry, later, same.symm⟩)]
      exact ih single later

theorem mem_listDatabaseLinksByApp :
    link ∈ s.listDatabaseLinksByApp appID ↔ link ∈ s.links ∧ link.appID = appID := by
  unfold EnvStore.listDatabaseLinksByApp
  rw [List.mem_insertionSort, List.mem_filter, decide_eq_true_iff]
  exact Iff.rfl

theorem findSome?_single {links : List DatabaseLink} {key value : String} (member : link ∈ links)
    (here : EnvMap.get key (s.linkEnv link) = some value)
    (alone : ∀ other ∈ links, (EnvMap.get key (s.linkEnv other)).isSome → other = link) :
    links.findSome? (fun link => EnvMap.get key (s.linkEnv link)) = some value := by
  induction links with
  | nil => cases member
  | cons first rest ih =>
    rw [List.findSome?_cons]
    cases value' : EnvMap.get key (s.linkEnv first) with
    | some found =>
      have same := alone first List.mem_cons_self (by rw [value']; rfl)
      rw [same, here] at value'
      exact value'.symm
    | none =>
      have later : link ∈ rest := by
        rcases List.mem_cons.mp member with rfl | later
        · rw [here] at value'
          cases value'
        · exact later
      exact ih later fun other mem => alone other (List.mem_cons_of_mem first mem)

theorem Provides.of_apart (member : link ∈ s.listDatabaseLinksByApp appID)
    (resolved : Resolved s link d fmt password)
    (apart : ∀ other ∈ s.listDatabaseLinksByApp appID, linkPrefix other = linkPrefix link →
      other = link) : Provides s appID link := by
  refine ⟨d, fmt, password, resolved, fun entry mem => ?_⟩
  rw [(EnvStore.buildEnvForApp_ok s appID).2, EnvStore.linkValue]
  have single : EnvMap.Single (linkVars fmt password d link) :=
    resolved.linkEnv ▸ EnvStore.single_linkEnv s link
  refine findSome?_single (List.mem_reverse.mpr member) ?_ fun other there defines => ?_
  · rw [resolved.linkEnv]
    exact get_of_mem single mem
  · obtain ⟨suffix, listed, key⟩ := key_of_linkEnv defines
    have own : entry.1 ∈ suffixes.map (linkPrefix link ++ ·) :=
      keys_linkVars fmt password d link ▸ List.mem_map_of_mem mem
    obtain ⟨suffix', listed', key'⟩ := List.mem_map.mp own
    exact apart other (List.mem_reverse.mp there)
      (key_inj listed listed' (key.symm.trans key'.symm)).1

theorem Provides.name (provides : Provides s appID link) :
    ∃ d, s.databases.find? link.databaseID = some d ∧
      EnvMap.get (linkPrefix link ++ "_NAME") (s.buildEnvForApp appID) = some d.name := by
  obtain ⟨d, fmt, password, resolved, values⟩ := provides
  exact ⟨d, resolved.database, values (linkPrefix link ++ "_NAME", d.name) (by simp [linkVars])⟩

end Variables

/-- **The links of an app.**  After any history, each of its links provides its six variables just
if all can be resolved and no two have the same prefix. -/
theorem links_provided_iff (start : LinkStore) (linked : Linked start) (history : List Event)
    (appID : UUID) :
    (∀ link ∈ (history.foldl step start).env.listDatabaseLinksByApp appID,
      Provides (history.foldl step start).env appID link) ↔
    (∀ link ∈ (history.foldl step start).env.listDatabaseLinksByApp appID,
      ∃ d fmt password, Resolved (history.foldl step start).env link d fmt password) ∧
    ∀ link ∈ (history.foldl step start).env.listDatabaseLinksByApp appID,
      ∀ other ∈ (history.foldl step start).env.listDatabaseLinksByApp appID,
        linkPrefix link = linkPrefix other → link = other := by
  have linked := linked.run history
  generalize history.foldl step start = s at linked ⊢
  constructor
  · intro provides
    refine ⟨fun link member => ?_, fun link member other member' same => ?_⟩
    · obtain ⟨d, fmt, password, resolved, -⟩ := provides link member
      exact ⟨d, fmt, password, resolved⟩
    · obtain ⟨d, found, name⟩ := (provides link member).name
      obtain ⟨d', found', name'⟩ := (provides other member').name
      rw [same, name'] at name
      obtain ⟨here, app⟩ := mem_listDatabaseLinksByApp.mp member
      obtain ⟨here', app'⟩ := mem_listDatabaseLinksByApp.mp member'
      obtain ⟨row, appFound, project⟩ := linked.project link here
      obtain ⟨row', appFound', project'⟩ := linked.project other here'
      rw [app, ← app', appFound', Option.some.injEq] at appFound
      have key : d.id = link.databaseID := Table.key_of_find? found
      have key' : d'.id = other.databaseID := Table.key_of_find? found'
      have database := linked.names d (Table.mem_of_find? found) d' (Table.mem_of_find? found')
        (by rw [key, key', ← project, ← project', appFound]) (Option.some.inj name).symm
      refine linked.once link here other here' ?_ (app.trans app'.symm)
      rw [← key, ← key', database]
  · rintro ⟨resolves, apart⟩ link member
    obtain ⟨d, fmt, password, resolved⟩ := resolves link member
    exact .of_apart member resolved fun other there same => apart other there link member same

/-! ### Two databases of an app -/

/-- Two databases of one project, with their passwords, and one app. -/
def twoDatabases : LinkStore where
  env :=
    { decrypt := fun _ ciphertext => [([1], "a"), ([2], "b")].lookup ciphertext
      connStringFmt := fun slug => [("postgres", "postgres://\x7buser\x7d@\x7bhost\x7d")].lookup slug
      secrets := ⟨[⟨11, "database:orders", "APP_PASSWORD", [1]⟩,
        ⟨11, "database:users", "APP_PASSWORD", [2]⟩], by decide⟩
      databases := ⟨[⟨91, 11, "orders", "postgres", none, "orders-1", 5432⟩,
        ⟨92, 11, "users", "postgres", none, "users-1", 5432⟩], by decide⟩ }
  apps := [⟨20, 10⟩]
  projectID := fun _ => 10

theorem twoDatabases_linked : Linked twoDatabases := by
  refine ⟨fun _ member => ?_, fun _ member => ?_, fun _ member => ?_, ?_⟩
  · cases member
  · cases member
  · cases member
  · show ∀ d ∈ twoDatabases.env.databases.rows, ∀ other ∈ twoDatabases.env.databases.rows,
      twoDatabases.projectID d.id = twoDatabases.projectID other.id → d.name = other.name → d = other
    decide

def ownPrefixes : List Event := [.link 90 91 20 "DB" 1, .link 95 92 20 " DB_NAME " 2]

theorem links_provided_ownPrefixes :
    Provides (ownPrefixes.foldl step twoDatabases).env 20 ⟨95, 92, 20, "DB_NAME", 2⟩ ∧
      Provides (ownPrefixes.foldl step twoDatabases).env 20 ⟨90, 91, 20, "DB", 1⟩ := by
  have links : (ownPrefixes.foldl step twoDatabases).env.listDatabaseLinksByApp 20 =
      [⟨95, 92, 20, "DB_NAME", 2⟩, ⟨90, 91, 20, "DB", 1⟩] := by decide
  have provided := (links_provided_iff twoDatabases twoDatabases_linked ownPrefixes 20).mpr
    ⟨?_, by decide⟩
  · rw [links] at provided
    exact ⟨provided _ List.mem_cons_self,
      provided _ (List.mem_cons_of_mem _ (List.mem_singleton.mpr rfl))⟩
  · rw [links]
    intro link member
    rcases List.mem_cons.mp member with rfl | member
    · exact ⟨⟨92, 11, "users", "postgres", none, "users-1", 5432⟩,
        "postgres://\x7buser\x7d@\x7bhost\x7d", "b", by decide, by decide,
        [("APP_PASSWORD", "b")], by decide, by decide⟩
    · rw [List.mem_singleton.mp member]
      exact ⟨⟨91, 11, "orders", "postgres", none, "orders-1", 5432⟩,
        "postgres://\x7buser\x7d@\x7bhost\x7d", "a", by decide, by decide,
        [("APP_PASSWORD", "a")], by decide, by decide⟩

def noPrefixes : List Event := [.link 90 91 20 "" 1, .link 95 92 20 "" 2]

/-- The newer link has the older one's values. -/
theorem links_shadow :
    Linked twoDatabases ∧
      ⟨95, 92, 20, "DATABASE", 2⟩ ∈
        (noPrefixes.foldl step twoDatabases).env.listDatabaseLinksByApp 20 ∧
      EnvMap.get "DATABASE_NAME"
        ((noPrefixes.foldl step twoDatabases).env.buildEnvForApp 20) = some "orders" ∧
      ¬ Provides (noPrefixes.foldl step twoDatabases).env 20 ⟨95, 92, 20, "DATABASE", 2⟩ := by
  have orders : EnvMap.get "DATABASE_NAME"
    ((noPrefixes.foldl step twoDatabases).env.buildEnvForApp 20) = some "orders" := by
    decide
  refine ⟨twoDatabases_linked, by decide, orders, fun provides => ?_⟩
  obtain ⟨d, found, name⟩ := provides.name
  have users : (noPrefixes.foldl step twoDatabases).env.databases.find? 92 =
    some ⟨92, 11, "users", "postgres", none, "users-1", 5432⟩ := by decide
  have key : linkPrefix ⟨95, 92, 20, "DATABASE", 2⟩ ++ "_NAME" = "DATABASE_NAME" := by
    decide
  rw [key, orders] at name
  cases users.symm.trans found
  exact absurd name (by decide)

end Nixway.Deploy.Links
