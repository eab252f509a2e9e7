/-
# Apps.DomainNames -- whether a platform domain belongs to one app

`GenerateDomain` joins the slugs of an app, its project and its team by dashes, and puts them
before the base domain.  Each slug may hold dashes itself, and each of the first two may have 63
characters; `dispatchDeploy` upserts the record of the name it joins, and `Delete` deletes it.

`identifies_iff` is the exact condition on the slugs: read part by part, those of two apps differ,
and those of no app have more than 61 characters.  Two apps of one team whose slugs are the same
parts with another boundary have one name, and one record.
-/
import Nixway.Apps.Delete
import Nixway.Store.Slug

namespace Nixway.Apps

open Nixway.Theory Nixway.Theory.Text Nixway.Store
open Nixway.Deploy (DnsConfig platformDomain)
open Nixway.Dns (Zone DnsRecord ensureRecord deleteRecord)

set_option autoImplicit false

/-! ## The slugs -/

/-- `generateSlug` of `internal/project`. -/
def generateProjectSlug (name : String) : String :=
  let slug := String.ofList ((trimSpace name).toList.map toLowerRune)
  let slug := replaceUnless slugChar '-' slug
  let slug := collapse '-' slug
  let slug := trim '-' slug
  let slug := if slug = "" then "project" else slug
  if 63 < slug.toList.length then takeChars 63 slug else slug

/-- The class `[a-z0-9]`. -/
def alphanumeric (c : Char) : Bool := ('a' ≤ c && c ≤ 'z') || ('0' ≤ c && c ≤ '9')

/-- `slugify`, the slug of a team: a run of other characters becomes one dash, and nothing is cut
off at a length. -/
def slugify (name : String) : String :=
  let s := String.ofList ((trimSpace name).toList.map toLowerRune)
  let s := collapse '-' (replaceUnless alphanumeric '-' s)
  let s := trim '-' s
  if s = "" then "team" else s

/-- A text of slug characters. -/
def Sluggish (s : String) : Prop := ∀ c ∈ s.toList, slugChar c

theorem Sluggish.of_collapse {keep : Char → Bool} (only : ∀ c, keep c = true → slugChar c = true)
    (s : String) : Sluggish (collapse '-' (replaceUnless keep '-' s)) := by
  intro c mem
  rw [collapse, String.toList_ofList] at mem
  rcases mem_replaceUnless (mem_collapseChars mem) with kept | rfl
  · exact only c kept
  · decide

theorem Sluggish.trim {s : String} (sluggish : Sluggish s) : Sluggish (trim '-' s) :=
  fun c mem => sluggish c (mem_trim mem)

theorem Sluggish.orElse {s word : String} (sluggish : Sluggish s)
    (plain : word.toList.all slugChar = true) : Sluggish (if s = "" then word else s) := by
  split
  · exact List.all_eq_true.mp plain
  · exact sluggish

theorem Sluggish.cut {s : String} (sluggish : Sluggish s) (n : Nat) :
    Sluggish (if n < s.toList.length then takeChars n s else s) := by
  split
  · intro c mem
    rw [takeChars, String.toList_ofList] at mem
    exact sluggish c (List.mem_of_mem_take mem)
  · exact sluggish

theorem sluggish_generateSlug (name : String) : Sluggish (generateSlug name) :=
  (generateSlug_shaped name).chars

theorem sluggish_generateProjectSlug (name : String) : Sluggish (generateProjectSlug name) := by
  unfold generateProjectSlug
  dsimp only
  refine Sluggish.cut (Sluggish.orElse (Sluggish.trim ?_) ?_) 63
  · exact Sluggish.of_collapse (fun _ kept => kept) _
  · decide

theorem sluggish_slugify (name : String) : Sluggish (slugify name) := by
  unfold slugify
  dsimp only
  refine Sluggish.orElse (Sluggish.trim (Sluggish.of_collapse (fun c kept => ?_) _)) ?_
  · unfold alphanumeric at kept
    unfold slugChar
    rw [kept, Bool.true_or]
  · decide

/-! ## The name of an app -/

/-- What the name of an app is made of. -/
structure Slugs where
  app : String
  project : String
  team : String
deriving DecidableEq

namespace Slugs

/-- The slugs, taken apart at their dashes. -/
def parts (x : Slugs) : List (List Char) :=
  x.app.toList.splitOn '-' ++ x.project.toList.splitOn '-' ++ x.team.toList.splitOn '-'

def size (x : Slugs) : Nat :=
  x.app.toList.length + x.project.toList.length + x.team.toList.length

/-- The label before the base domain. -/
def label (x : Slugs) : String := x.app ++ "-" ++ x.project ++ "-" ++ x.team

def domain (x : Slugs) (baseDomain : String) : String :=
  generateDomain x.app x.project x.team baseDomain

theorem domain_eq (x : Slugs) (baseDomain : String) :
    x.domain baseDomain = x.label ++ "." ++ baseDomain := rfl

theorem toList_label (x : Slugs) :
    x.label.toList = x.app.toList ++ '-' :: (x.project.toList ++ '-' :: x.team.toList) := by
  simp [label]

theorem parts_eq (x : Slugs) : x.parts = x.label.toList.splitOn '-' := by
  rw [toList_label, List.splitOn_append_cons_of_beq _ _ rfl,
    List.splitOn_append_cons_of_beq _ _ rfl, parts, List.append_assoc]

/-- **One name, one sequence of parts.** -/
theorem domain_eq_iff {x y : Slugs} {baseDomain : String} :
    x.domain baseDomain = y.domain baseDomain ↔ x.parts = y.parts := by
  rw [domain_eq, domain_eq, append_eq_append_iff rfl, append_eq_append_iff rfl, parts_eq, parts_eq]
  constructor
  · rintro ⟨⟨same, -⟩, -⟩
    rw [same]
  · intro same
    have joined := congrArg (List.intercalate ['-']) same
    rw [List.intercalate_splitOn, List.intercalate_splitOn] at joined
    exact ⟨⟨String.toList_inj.mp joined, rfl⟩, rfl⟩

theorem size_label (x : Slugs) : x.label.toList.length = x.size + 2 := by
  rw [toList_label, size]
  simp only [List.length_append, List.length_cons]
  omega

end Slugs

/-- The text of a name before its first dot. -/
def firstLabel (name : String) : String := String.ofList (name.toList.takeWhile (· ≠ '.'))

theorem firstLabel_domain {x : Slugs} (app : Sluggish x.app) (project : Sluggish x.project)
    (team : Sluggish x.team) (baseDomain : String) :
    firstLabel (x.domain baseDomain) = x.label := by
  have undotted : ∀ c ∈ x.label.toList, (decide (c ≠ '.')) = true := by
    intro c mem
    have plain : slugChar c := by
      rw [Slugs.toList_label] at mem
      rcases List.mem_append.mp mem with mem | mem
      · exact app c mem
      · rcases List.mem_cons.mp mem with rfl | mem
        · decide
        · rcases List.mem_append.mp mem with mem | mem
          · exact project c mem
          · rcases List.mem_cons.mp mem with rfl | mem
            · decide
            · exact team c mem
    refine decide_eq_true fun dot => ?_
    subst dot
    revert plain
    decide
  apply String.toList_inj.mp
  rw [firstLabel, String.toList_ofList, Slugs.domain_eq, String.toList_append, String.toList_append,
    List.append_assoc, List.takeWhile_append_of_pos undotted]
  show _ ++ List.takeWhile _ ('.' :: baseDomain.toList) = _
  rw [List.takeWhile_cons_of_neg (by decide), List.append_nil]

/-! ## The names of the platform -/

/-- The slugs of an app with its project and its team. -/
def slugsOf (w : World) (appID : UUID) : Option Slugs := do
  let app ← w.getApp appID
  let project ← w.getProject app.projectID
  let team ← w.getTeamByID project.teamID
  some ⟨app.slug, project.slug, team.slug⟩

/-- The slugs of the rows are those their functions give. -/
structure Produced (w : World) : Prop where
  app : ∀ app ∈ w.apps, ∃ name, app.slug = generateSlug name
  project : ∀ project ∈ w.projects, ∃ name, project.slug = generateProjectSlug name
  team : ∀ team ∈ w.teams, ∃ name, team.slug = slugify name

variable {dns : DnsConfig} {w : World}

theorem domainOf_eq (enabled : dns.enabled = true) (base : dns.baseDomain ≠ "") (appID : UUID) :
    domainOf dns w appID = (slugsOf w appID).map fun x => x.domain dns.baseDomain := by
  unfold domainOf slugsOf
  rw [if_pos ⟨enabled, base⟩]
  simp only [Option.bind_eq_bind, Option.map_bind, Function.comp_def, Option.map_some]
  rfl

theorem firstLabel_slugsOf (produced : Produced w) {appID : UUID} {x : Slugs}
    (here : slugsOf w appID = some x) (baseDomain : String) :
    firstLabel (x.domain baseDomain) = x.label := by
  unfold slugsOf at here
  simp only [Option.bind_eq_bind, Option.bind_eq_some_iff, Option.some.injEq] at here
  obtain ⟨app, foundApp, project, foundProject, team, foundTeam, rfl⟩ := here
  obtain ⟨appName, appSlug⟩ := produced.app app (Table.mem_of_find? foundApp)
  obtain ⟨projectName, projectSlug⟩ := produced.project project (Table.mem_of_find? foundProject)
  obtain ⟨teamName, teamSlug⟩ := produced.team team (Table.mem_of_find? foundTeam)
  refine firstLabel_domain ?_ ?_ ?_ baseDomain
  · show Sluggish app.slug
    rw [appSlug]
    exact sluggish_generateSlug appName
  · show Sluggish project.slug
    rw [projectSlug]
    exact sluggish_generateProjectSlug projectName
  · show Sluggish team.slug
    rw [teamSlug]
    exact sluggish_slugify teamName

/-- Every app has a name of its own, whose first label is a label, and a record of its own: the
deletion and the deploys of another app leave the records of its name alone. -/
structure Identifies (dns : DnsConfig) (w : World) : Prop where
  distinct : ∀ a b x y, a ≠ b → slugsOf w a = some x → slugsOf w b = some y →
    x.domain dns.baseDomain ≠ y.domain dns.baseDomain
  label : ∀ a x, slugsOf w a = some x → (firstLabel (x.domain dns.baseDomain)).toList.length ≤ 63
  deletes : ∀ a b y, a ≠ b → slugsOf w b = some y → ∀ (answers : Bool) (zone : Zone),
    (delete dns answers a).result (w, zone) = .ok () →
    ((delete dns answers a).out (w, zone)).2.named (y.domain dns.baseDomain) =
      zone.named (y.domain dns.baseDomain)
  upserts : ∀ a b x y, a ≠ b → slugsOf w a = some x → slugsOf w b = some y →
    ∀ (publicIP : String) (proxied : Bool) (zone : Zone),
      ((ensureRecord (platformDomain dns x.app x.project x.team publicIP) publicIP proxied).out
        zone).named (y.domain dns.baseDomain) = zone.named (y.domain dns.baseDomain)

/-- The slugs of two apps differ part by part, and those of one app are not too long. -/
structure Separated (w : World) : Prop where
  parts : ∀ a b x y, a ≠ b → slugsOf w a = some x → slugsOf w b = some y → x.parts ≠ y.parts
  size : ∀ a x, slugsOf w a = some x → x.size ≤ 61

/-- **When platform domains identify apps.** -/
theorem identifies_iff (enabled : dns.enabled = true) (base : dns.baseDomain ≠ "")
    (produced : Produced w) : Identifies dns w ↔ Separated w := by
  have long : ∀ a x, slugsOf w a = some x →
      ((firstLabel (x.domain dns.baseDomain)).toList.length ≤ 63 ↔ x.size ≤ 61) := by
    intro a x here
    rw [firstLabel_slugsOf produced here, Slugs.size_label]
    omega
  constructor
  · intro identifies
    refine ⟨fun a b x y other here there same => ?_, fun a x here => ?_⟩
    · exact identifies.distinct a b x y other here there (Slugs.domain_eq_iff.mpr same)
    · exact (long a x here).mp (identifies.label a x here)
  · intro separated
    have distinct : ∀ a b x y, a ≠ b → slugsOf w a = some x → slugsOf w b = some y →
        x.domain dns.baseDomain ≠ y.domain dns.baseDomain := fun a b x y other here there same =>
      separated.parts a b x y other here there (Slugs.domain_eq_iff.mp same)
    refine ⟨distinct, fun a x here => (long a x here).mpr (separated.size a x here), ?_, ?_⟩
    · intro a b y other there answers zone ok
      obtain ⟨-, -, records⟩ := delete_run ok
      rw [records, if_neg]
      rintro ⟨-, same⟩
      rw [domainOf_eq enabled base, Option.map_eq_some_iff] at same
      obtain ⟨x, here, same⟩ := same
      exact distinct a b x y other here there same
    · intro a b x y other here there publicIP proxied zone
      refine Zone.named_ensureRecord_ne zone publicIP proxied fun same => ?_
      rw [platformDomain, if_pos ⟨enabled, base⟩] at same
      exact distinct a b x y other here there same.symm

/-! ### One name for two apps -/

def twoApps (first second : String) (firstProject secondProject : String) : World :=
  { teams := .single ⟨11, "acme"⟩
    projects := ⟨[⟨10, 11, 12, firstProject, firstProject⟩, ⟨13, 11, 12, secondProject,
      secondProject⟩], by simp [Keyed.key]⟩
    apps := ⟨[{ id := 20, projectID := 10, name := first, slug := first },
      { id := 21, projectID := 13, name := second, slug := second }], by simp [Keyed.key]⟩ }

theorem produced_twoApps {first second firstProject secondProject : String}
    (apps : generateSlug first = first ∧ generateSlug second = second)
    (projects : generateProjectSlug firstProject = firstProject ∧
      generateProjectSlug secondProject = secondProject) :
    Produced (twoApps first second firstProject secondProject) := by
  have team : "acme" = slugify "acme" := by decide
  refine ⟨fun app mem => ?_, fun project mem => ?_, fun row mem => ?_⟩
  · rcases List.mem_cons.mp mem with rfl | mem
    · exact ⟨first, apps.1.symm⟩
    · cases List.mem_singleton.mp mem
      exact ⟨second, apps.2.symm⟩
  · rcases List.mem_cons.mp mem with rfl | mem
    · exact ⟨firstProject, projects.1.symm⟩
    · cases List.mem_singleton.mp mem
      exact ⟨secondProject, projects.2.symm⟩
  · cases List.mem_singleton.mp mem
    exact ⟨"acme", team⟩

theorem slugsOf_twoApps {first second firstProject secondProject : String} {a : UUID} {x : Slugs}
    (here : slugsOf (twoApps first second firstProject secondProject) a = some x) :
    a = 20 ∨ a = 21 := by
  unfold slugsOf at here
  simp only [Option.bind_eq_bind, Option.bind_eq_some_iff] at here
  obtain ⟨app, found, -⟩ := here
  have key : app.id = a := Table.key_of_find? found
  rcases List.mem_cons.mp (Table.mem_of_find? found) with rfl | mem
  · exact .inl key.symm
  · cases List.mem_singleton.mp mem
    exact .inr key.symm

theorem web_and_api_identified :
    cloudflare.enabled = true ∧ cloudflare.baseDomain ≠ "" ∧
      Produced (twoApps "web" "api" "shop" "shop-eu") ∧
      Identifies cloudflare (twoApps "web" "api" "shop" "shop-eu") := by
  have produced : Produced (twoApps "web" "api" "shop" "shop-eu") :=
    produced_twoApps (by decide) (by decide)
  have base : cloudflare.baseDomain ≠ "" := by decide
  have web : slugsOf (twoApps "web" "api" "shop" "shop-eu") 20 = some ⟨"web", "shop", "acme"⟩ := by
    decide
  have api : slugsOf (twoApps "web" "api" "shop" "shop-eu") 21 =
      some ⟨"api", "shop-eu", "acme"⟩ := by decide
  refine ⟨rfl, base, produced, (identifies_iff rfl base produced).mpr
    ⟨fun a b x y other here there => ?_, fun a x here => ?_⟩⟩
  · rcases slugsOf_twoApps here with rfl | rfl
    · rcases slugsOf_twoApps there with rfl | rfl
      · exact absurd rfl other
      · cases web.symm.trans here
        cases api.symm.trans there
        decide
    · rcases slugsOf_twoApps there with rfl | rfl
      · cases api.symm.trans here
        cases web.symm.trans there
        decide
      · exact absurd rfl other
  · rcases slugsOf_twoApps here with rfl | rfl
    · cases web.symm.trans here
      decide
    · cases api.symm.trans here
      decide

/-- The app 'shop-web' of the project 'eu' and the app 'shop' of the project 'web-eu': one name,
and the deletion of the first takes the record of the second. -/
theorem deleted_app_takes_record :
    let w := twoApps "shop-web" "shop" "eu" "web-eu"
    let zone : Zone := { records := ⟨[⟨0, "shop-web-eu-acme.apps.test", "10.0.0.2", false⟩],
                                      by decide⟩, nextID := 1 }
    Produced w ∧ (slugsOf w 20).map (fun x => x.domain cloudflare.baseDomain) =
        (slugsOf w 21).map (fun x => x.domain cloudflare.baseDomain) ∧
      ((delete cloudflare true 20).out (w, zone)).2.records.rows = [] ∧
      ¬ Identifies cloudflare w := by
  refine ⟨produced_twoApps (by decide) (by decide), by decide,
    by decide, fun identifies => ?_⟩
  refine identifies.distinct 20 21 ⟨"shop-web", "eu", "acme"⟩ ⟨"shop", "web-eu", "acme"⟩ (by decide)
    (by decide) (by decide) ?_
  decide

end Nixway.Apps
