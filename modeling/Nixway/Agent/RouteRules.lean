/-
# Agent.RouteRules -- the files of the commands the control plane sends

The texts of `Agent.RouteText` for the commands of `Agent.Overlap`: those of `dispatchDeploy` and of
`SyncTrafficRoute`, for an app whose slug was generated.  The domains in them are the platform
domain, the route's, those of the row, and the custom domain, which is any text but the empty one
that `SetDomain` or `Update` was given.

`routing_rules_iff` says when the file of a command reads as intended; `path_prefix_listed` follows
a custom domain that adds a matcher of its own from `SetDomain` into the file.
-/
import Nixway.Agent.Overlap
import Nixway.Agent.RouteText
import Nixway.Deploy.AppDomain

namespace Nixway.Agent.RouteText

open Nixway.Theory Nixway.Theory.Text Nixway.Store Nixway.Deploy
open Nixway.Theory.Yaml (isClean IsName IsText isText_dash)

set_option autoImplicit false

/-- The text of the file a message makes the agent write, its container coming up. -/
def writtenText : ControlMessage → Option (String × String)
  | .deployCommand cmd =>
    if edgeMode cmd then none
    else some (writeTraefikConfig cmd.traefik cmd.port cmd.containerName)
  | .trafficRoute cmd => (writeWeightedTraefikConfig cmd).toOption
  | .stopContainer _ => none
  | .execCommand _ => none

/-- The URLs of a command's groups are of addresses and ports: clean texts. -/
def Addressed (r : Routing) : Prop :=
  ∀ member ∈ r.members, ∀ url ∈ member.urls, ∀ c ∈ url.toList, isClean c

theorem clean_containerName {slug : String} (shaped : SlugShaped slug) (id : UUID) :
    ∀ c ∈ (containerName slug id).toList, isClean c := by
  have fixed : ∀ c ∈ "nixway-".toList, isClean c := List.all_eq_true.mp (by decide)
  have word := isWord_slug shaped
  intro c mem
  unfold containerName at mem
  simp only [String.toList_append, List.mem_append] at mem
  rcases mem with ((start | own) | dash) | short
  · exact fixed c start
  · exact clean_of_isWord (word.chars c own)
  · exact fixed c (by simp at dash ⊢; exact .inr (.inr (.inr (.inr (.inr (.inr dash))))))
  · exact clean_of_isWord (isWord_of_safeChar (short_chars id short).1)

/-- The name of a service is text, whatever the slug. -/
theorem serves_text {app : App} {route : TrafficRoute} {members : List Member} {name : String}
    (serves : (Routing.sync app route members).Serves name) : IsText name := by
  obtain rfl | ⟨member, -, rfl⟩ := serves
  · have text : IsText (app.slug ++ "-" ++ "weighted") :=
      isText_dash ⟨'w', by simp, by decide⟩
    rwa [String.append_assoc] at text
  · have text : IsText (app.slug ++ "-" ++
        (cleanName member.backend.label ++ "-" ++ member.backend.deploymentID.short)) :=
      isText_dash ⟨'-', by simp, by decide⟩
    rw [Member.service]
    simpa only [String.append_assoc] using text

/-- **Routing rules say only the app's hosts** exactly when its domains are plain, its slug is text
and its services have names of their own. -/
theorem routing_rules_iff {r : Routing} (built : r.Built) (addressed : Addressed r)
    {document : String × DynamicConfig} (documented : written r.message = some document) :
    ∃ file, writtenText r.message = some file ∧
      (readFile file.2 = some (spelled document.2) ↔
        r.AsksPlain ∧ IsText r.base ∧ document.2.serviceNames.Nodup) := by
  obtain ⟨name, slug⟩ := built.slug
  have shaped : SlugShaped r.app.slug := slug ▸ generateSlug_shaped name
  have foot := footprint built documented
  have listed : (∀ d ∈ r.domains, Plain d) ↔ r.AsksPlain :=
    forall_congr' fun d => imp_congr_left mem_domains
  cases r with
  | dispatch dns app project teamSlug publicIP deployment target build labels env =>
    simp only [Routing.message, written] at documented
    split at documented
    · cases documented
    · next local' =>
      cases documented
      refine ⟨_, if_neg local', ?_⟩
      have reads := @traefikConfig_iff (deployCommand deployment target build app
        (platformDomain dns app.slug project.slug teamSlug publicIP) labels env).traefik
        (isWord_slug shaped) foot.domains (containerName app.slug deployment.id)
        (clean_containerName shaped deployment.id) app.port
      exact reads.trans (and_congr listed (and_iff_left (List.nodup_singleton _)).symm)
  | sync app route members =>
    have documented := toOption_eq_some.mp documented
    obtain ⟨slug, groups, hosts, -⟩ := writeWeighted_eq_ok.mp documented
    have text := text_weighted slug groups hosts
    refine ⟨_, by rw [Routing.message, writtenText, text]; rfl, ?_⟩
    have clean : ∀ group ∈ members.map (Member.group app.slug), ∀ url ∈ group.urls,
        ∀ c ∈ url.toList, isClean c := by
      intro group mem
      obtain ⟨member, listed, rfl⟩ := List.mem_map.mp mem
      exact addressed member listed
    have texts : ∀ name ∈ document.2.serviceNames, IsText name := fun name mem =>
      serves_text ((foot.services name).mp mem)
    have asked : (∀ d ∈ trafficDomains app route, d ≠ "" → Plain d) ↔
        (Routing.sync app route members).AsksPlain := by
      rw [← listed]
      simp [Routing.domains]
    have base : safeName app.slug = trimRight '-' app.slug := safeName_slug shaped
    rw [weightedConfig_iff clean text documented texts]
    dsimp only [Routing.base]
    rw [base]
    exact and_congr_left' asked

/-! ### A custom domain with a matcher of its own -/

def shop : World :=
  { apps := ⟨[{ id := 20, projectID := 10, name := "web", slug := "web", port := 3000 }], by decide⟩ }

def shopApp (domain : String) : App :=
  { id := 20, projectID := 10, name := "web", slug := "web", port := 3000,
    customDomain := some domain }

def shopDeploy (domain : String) : Routing :=
  .dispatch {} (shopApp domain) { id := 10, teamID := 1, clusterID := 12, name := "store", slug := "store" } "acme"
    "192.0.2.7" { id := 1, appID := 20, environmentID := 40, buildID := 30 }
    { id := 81, deploymentID := 1, serverID := 71 } { id := 30, appID := 20 } [] []

def everyPath : String := "a`) || PathPrefix(`/"

/-- `SetDomain` stores the text, and the rules of the file take every request. -/
theorem path_prefix_listed :
    (AppHandler.setDomain 20 everyPath).result shop = .ok (shopApp everyPath) ∧
      ∃ file document, writtenText (shopDeploy everyPath).message = some file ∧
        written (shopDeploy everyPath).message = some document ∧
        readFile file.2 ≠ some (spelled document.2) ∧
        (readFile file.2).map (fun spec => spec.routers.map fun router => router.2.rule) =
          some (List.replicate 2
            [.host "web-store-acme.192.0.2.7.nip.io", .host "a", ⟨"PathPrefix", "/"⟩]) := by
  have isName : IsName "web" :=
    ⟨isWord_slug ((by decide : generateSlug "web" = "web") ▸ generateSlug_shaped "web"), by decide⟩
  have target : ∀ c ∈ (containerName "web" 1).toList, isClean c := List.all_eq_true.mp (by decide)
  have clean : ∀ c ∈ (hostRule ["web-store-acme.192.0.2.7.nip.io", everyPath]).toList, isClean c :=
    List.all_eq_true.mp (by decide)
  have ruled : rule (hostRule ["web-store-acme.192.0.2.7.nip.io", everyPath]) = some
      [.host "web-store-acme.192.0.2.7.nip.io", .host "a", ⟨"PathPrefix", "/"⟩] := by decide
  have read := @readFile_replica
    { appSlug := "web", domains := ["web-store-acme.192.0.2.7.nip.io", everyPath], port := 3000 }
    isName _ target 3000 clean _ ruled
  refine ⟨by decide, _, _, rfl, rfl, fun same => ?_, (congrArg (Option.map _) read).trans rfl⟩
  exact absurd (read.symm.trans same) (by decide)

/-- The sync of its route to one backend, the domain verified. -/
def shopSync (domain : String) : Routing :=
  .sync { shopApp domain with domainVerified := true }
    { id := 50, appID := 20, environmentID := 40, domain := "web-store-acme.192.0.2.7.nip.io" }
    [⟨{ id := 60, routeID := 50, deploymentID := 1, label := "stable", weight := 100 },
      ["http://10.0.0.1:30000"]⟩]

/-- With a plain domain the file reads as intended. -/
theorem plain_domain_listed :
    ∃ file, writtenText (shopSync "www.example.com").message = some file ∧
      (readFile file.2).map (fun spec => spec.routers.map fun router => router.2.rule) =
          some (List.replicate 2
            [.host "web-store-acme.192.0.2.7.nip.io", .host "www.example.com"]) := by
  have built : (shopSync "www.example.com").Built := by
    refine ⟨⟨"web", by decide⟩, fun member mem => ?_⟩
    rw [List.mem_singleton.mp mem]
    decide
  have addressed : Addressed (shopSync "www.example.com") := by
    intro member mem
    rw [List.mem_singleton.mp mem]
    intro url named
    rw [List.mem_singleton.mp named]
    exact List.all_eq_true.mp (by decide)
  have plain : (shopSync "www.example.com").AsksPlain := by
    rintro d ⟨-, rfl | ⟨-, same⟩ | none⟩
    · decide
    · cases same
      decide
    · cases none
  obtain ⟨file, text, reads⟩ := routing_rules_iff built addressed
    (show written (shopSync "www.example.com").message = some _ from rfl)
  refine ⟨file, text, ?_⟩
  rw [reads.mpr ⟨plain, by decide, by decide⟩]
  rfl

end Nixway.Agent.RouteText
