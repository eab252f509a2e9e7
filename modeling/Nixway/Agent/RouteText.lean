/-
# Agent.RouteText -- the text of a dynamic file, and what it reads as

`writeTraefikConfig` of `apps/agent/deploy.go` and `writeWeightedTraefikConfig` of
`apps/agent/traffic_route.go` as they write the file, line by line, and the reader of such a file:
YAML, with each rule read as in `Agent.HostRule`.

A file reads as the document of `Agent.Traefik` exactly when every domain listed is plain, the name
of its router is text (`2048` is a number and `null` is none), and in the weighted file no two
services have one name.  For "only when" the first router of the file is enough (`first_rule_exact`):
nothing behind it can make up for it.
-/
import Nixway.Agent.HostRule
import Nixway.Agent.Traefik
import Nixway.Store.Slug
import Nixway.Theory.Yaml

namespace Nixway.Agent.RouteText

open Nixway.Store
open Nixway.Theory.Yaml

set_option autoImplicit false

/-! ## Writing -/

def lines (ls : List String) : String := String.join (ls.map (· ++ "\n"))

theorem toList_lines (ls : List String) :
    (lines ls).toList = (ls.map String.toList).flatMap (· ++ ['\n']) := by
  rw [lines, String.toList_join]
  simp [List.flatMap_map]

def routerLines (name rule service : String) : List String :=
  ["http:",
   "  routers:",
   "    " ++ name ++ ":",
   "      rule: \"" ++ rule ++ "\"",
   "      entryPoints:",
   "        - web",
   "      service: " ++ service,
   "    " ++ name ++ "-tls:",
   "      rule: \"" ++ rule ++ "\"",
   "      entryPoints:",
   "        - websecure",
   "      tls: \x7b\x7d",
   "      service: " ++ service,
   "  services:"]

def balancerLines (name : String) (urls : List String) : List String :=
  ["    " ++ name ++ ":",
   "      loadBalancer:",
   "        servers:"] ++ urls.map fun url => "          - url: \"" ++ url ++ "\""

/-- The file of one replica. -/
def writeTraefikConfig (cfg : TraefikConfig) (port : Int) (containerName : String) :
    String × String :=
  let hostRule := hostRule cfg.domains
  let target := if containerName ≠ "" then containerName else "localhost"
  (configFile cfg.appSlug, lines (routerLines cfg.appSlug hostRule cfg.appSlug ++
    balancerLines cfg.appSlug ["http://" ++ target ++ ":" ++ toString port]))

def shareLines (group : TrafficBackendGroup) : List String :=
  ["          - name: " ++ safeName group.name,
   "            weight: " ++ toString group.weight]

/-- The weighted service, over the services of the groups. -/
def weightedLines (name : String) (groups : List TrafficBackendGroup) : List String :=
  ["    " ++ name ++ ":",
   "      weighted:",
   "        services:"] ++ groups.flatMap shareLines

/-- The file of a routing command. -/
def writeWeightedTraefikConfig (cmd : TrafficRouteCommand) : Except String (String × String) :=
  if cmd.appSlug = "" then .error "app slug is required"
  else if cmd.domains = [] then .error "at least one domain is required"
  else if cmd.groups = [] then .error "at least one backend group is required"
  else
    let hosts := cmd.domains.filter (· ≠ "")
    if hosts = [] then .error "at least one non-empty domain is required"
    else
      let weightedService := safeName (cmd.appSlug ++ "-weighted")
      let groups := liveGroups cmd.groups
      .ok (configFile cmd.appSlug, lines (
        routerLines (safeName cmd.appSlug) (hostRule hosts) weightedService ++
          (weightedLines weightedService groups ++
            groups.flatMap fun group => balancerLines (safeName group.name) group.urls)))

/-! ## Reading -/

structure RouterSpec where
  rule : List Matcher
  entryPoints : List String
  tls : Bool
  service : Scalar
deriving DecidableEq

inductive ServiceSpec where
  | loadBalancer (urls : List String)
  | weighted (services : List (Scalar × Scalar))
deriving DecidableEq

structure FileSpec where
  routers : List (Scalar × RouterSpec)
  services : List (Scalar × ServiceSpec)
deriving DecidableEq

def scalarOf : Node → Option Scalar
  | .scalar value => some value
  | _ => none

def textOf : Node → Option String
  | .scalar (.text text) => some text
  | _ => none

/-- The elements of a sequence; nothing is an empty one. -/
def elements : Node → Option (List Node)
  | .seq items => some items
  | .scalar .null => some []
  | _ => none

def entries : Node → Option (List (Scalar × Node))
  | .map entries => some entries
  | _ => none

/-- Each entry of a mapping. -/
def eachEntry {α : Type} (f : Node → Option α) (node : Node) : Option (List (Scalar × α)) :=
  (entries node).bind fun all => all.mapM fun entry => (f entry.2).map (entry.1, ·)

def isEmptyMap : Node → Bool
  | .map [] => true
  | _ => false

def routerOf (node : Node) : Option RouterSpec := do
  let fields ← entries node
  if fields.all fun field =>
      field.1 ∈ ["rule", "entryPoints", "tls", "service"].map Scalar.text then
    let text ← (fields.lookup (.text "rule")).bind textOf
    let matchers ← rule text
    let entryPoints ← (fields.lookup (.text "entryPoints")).bind elements
    let entryPoints ← entryPoints.mapM textOf
    let service ← (fields.lookup (.text "service")).bind scalarOf
    return {
      rule := matchers
      entryPoints := entryPoints
      tls := (fields.lookup (.text "tls")).any isEmptyMap
      service := service }
  else none

def only (name : String) : Node → Option Node
  | .map [(key, node)] => if key = .text name then some node else none
  | _ => none

def urlOf (node : Node) : Option String := (only "url" node).bind textOf

def shareOf : Node → Option (Scalar × Scalar)
  | .map [(.text "name", .scalar name), (.text "weight", .scalar weight)] => some (name, weight)
  | _ => none

def serviceOf (node : Node) : Option ServiceSpec :=
  match only "loadBalancer" node with
  | some servers => do
    let servers ← (only "servers" servers).bind elements
    return .loadBalancer (← servers.mapM urlOf)
  | none => do
    let services ← ((only "weighted" node).bind (only "services")).bind elements
    return .weighted (← services.mapM shareOf)

def routingOf (node : Node) : Option FileSpec :=
  match only "http" node with
  | some (.map [(.text "routers", routers), (.text "services", services)]) => do
    let routers ← eachEntry routerOf routers
    let services ← eachEntry serviceOf services
    return { routers := routers, services := services }
  | _ => none

def readFile (text : String) : Option FileSpec := (read text).bind routingOf

/-! ## What the document of a file says -/

def entryPointText : EntryPoint → String
  | .web => "web"
  | .websecure => "websecure"

def routerSpec (router : Router) : Scalar × RouterSpec :=
  (.text router.name, {
    rule := router.domains.map Matcher.host
    entryPoints := [entryPointText router.entryPoint]
    tls := router.tls
    service := .text router.service })

def serviceSpec : Service → Scalar × ServiceSpec
  | .loadBalancer name urls => (.text name, .loadBalancer urls)
  | .weighted name services =>
    (.text name, .weighted (services.map fun s => (.text s.1, .int s.2)))

/-- The document of `Agent.Traefik`, with each rule the disjunction of its hosts. -/
def spelled (cfg : DynamicConfig) : FileSpec :=
  { routers := cfg.routers.map routerSpec, services := cfg.services.map serviceSpec }

/-! ## The first rule of a file -/

theorem readLine_rule (text : List Char) :
    readLine ("      rule: ".toList ++ '"' :: text) =
      (readValue ('"' :: text)).map fun read =>
        ([⟨6, .key "rule", some read.1⟩], read.2) := by
  show Option.map _ (Option.map _ (readValue ('"' :: text))) = _
  rw [Option.map_map]
  rfl

theorem readValue_scanned {text : List Char} {read : Node × List Char}
    (found : readValue ('"' :: text) = some read) :
    ∃ value left, scan (.line []) text = some (value, left) ∧
      read.1 = .scalar (String.ofList value) := by
  rw [readValue] at found
  split at found
  · next value rest scanned =>
    cases found
    exact ⟨value, _, scanned, rfl⟩
  · cases found

theorem toList_file (name rule service : String) (back : List String) :
    ∃ tail, (lines (routerLines name rule service ++ back)).toList =
      "http:".toList ++ '\n' :: ("  routers:".toList ++ '\n' :: (List.replicate 4 ' ' ++
        (name.toList ++ [':']) ++ '\n' ::
          ("      rule: ".toList ++ '"' :: (rule.toList ++ '"' :: tail)))) := by
  obtain ⟨more, shape⟩ : ∃ more, routerLines name rule service ++ back =
      "http:" :: "  routers:" :: ("    " ++ name ++ ":") :: ("      rule: \"" ++ rule ++ "\"") ::
        more := ⟨_, rfl⟩
  refine ⟨'\n' :: (more.map String.toList).flatMap (· ++ ['\n']), ?_⟩
  rw [toList_lines, shape]
  simp

/-- The first rule of a file that is read. -/
theorem read_begins {name rule service : String} (word : IsWord name) {back : List String}
    {doc : Node} (read : Theory.Yaml.read (lines (routerLines name rule service ++ back)) = some doc) :
    ∃ value tail left http routers router, scan (.line []) (rule.toList ++ '"' :: tail) =
        some (value, left) ∧ Begins "http" doc http ∧
      Begins "routers" http routers ∧ Begins (core name.toList) routers router ∧
      Begins "rule" router (.scalar (String.ofList value)) := by
  obtain ⟨tail, text⟩ := toList_file name rule service back
  unfold Theory.Yaml.read at read
  rw [text] at read
  obtain ⟨all, readAll, built⟩ := Option.bind_eq_some_iff.mp read
  obtain ⟨items, put, made⟩ := Option.bind_eq_some_iff.mp built
  -- its first four lines
  obtain ⟨_, behind1, read1, rfl⟩ := readLines_behind
    (show Reads "http:".toList [⟨0, .key "http", none⟩] from fun _ => rfl) readAll
  obtain ⟨_, behind2, read2, rfl⟩ := readLines_behind
    (show Reads "  routers:".toList [⟨2, .key "routers", none⟩] from fun _ => rfl) read1
  obtain ⟨_, behind3, read3, rfl⟩ := readLines_behind (word.reads_key 4).reads read2
  obtain ⟨found, _, more, line, -, rfl⟩ := readLines_first (by simp) read3
  rw [readLine_rule] at line
  obtain ⟨read, valued, rfl⟩ := Option.map_eq_some_iff.mp line
  obtain ⟨value, left, scanned, same⟩ := readValue_scanned valued
  -- each in front of what the lines behind it make up
  obtain ⟨items1, put1, attached1⟩ := Option.bind_eq_some_iff.mp put
  obtain ⟨items2, put2, attached2⟩ := Option.bind_eq_some_iff.mp put1
  obtain ⟨items3, put3, attached3⟩ := Option.bind_eq_some_iff.mp put2
  obtain ⟨items4, -, attached4⟩ := Option.bind_eq_some_iff.mp put3
  obtain ⟨_, rfl⟩ := attach_value rfl attached4
  obtain ⟨router, _, rfl, begins3⟩ := attach_begins rfl rfl (show 4 < 6 by decide) attached3
  obtain ⟨routers, _, rfl, begins2⟩ := attach_begins rfl rfl (show 2 < 4 by decide) attached2
  obtain ⟨http, _, rfl, begins1⟩ := attach_begins rfl rfl (show 0 < 2 by decide) attached1
  refine ⟨value, tail, left, http, routers, router, scanned, nodeOf_begins rfl made, begins1,
    begins2, ?_⟩
  rw [← same]
  exact begins3

theorem routerOf_rule {text : String} {fields : List (Scalar × Node)} {spec : RouterSpec}
    (made : routerOf (.map (("rule", .scalar text) :: fields)) = some spec) :
    rule text = some spec.rule := by
  unfold routerOf entries at made
  rw [Option.bind_eq_bind, Option.bind_some] at made
  split at made
  · simp only [List.lookup_cons, beq_self_eq_true, Option.bind_some, textOf, Option.bind_eq_bind,
      Option.bind_eq_some_iff, Option.pure_def] at made
    obtain ⟨matchers, ruled, _, -, _, -, _, -, same⟩ := made
    cases same
    exact ruled
  · cases made

theorem routingOf_begins {doc http routers router : Node} {name : Scalar} {text : String}
    {routing : FileSpec} (begins : Begins "http" doc http)
    (begins1 : Begins "routers" http routers) (begins2 : Begins name routers router)
    (begins3 : Begins "rule" router (.scalar text)) (routed : routingOf doc = some routing) :
    ∃ spec, routing.routers.head? = some (name, spec) ∧ rule text = some spec.rule := by
  obtain ⟨fields, rfl⟩ := begins3
  obtain ⟨others, rfl⟩ := begins2
  obtain ⟨parts, rfl⟩ := begins1
  obtain ⟨docs, rfl⟩ := begins
  unfold routingOf at routed
  split at routed
  · next routersNode services single =>
    cases docs with
    | cons other docs => cases single
    | nil =>
      simp only [only, if_true, Option.some.injEq, Node.map.injEq, List.cons.injEq,
        Prod.mk.injEq, true_and] at single
      obtain ⟨rfl, rfl⟩ := single
      simp only [Option.bind_eq_bind, Option.bind_eq_some_iff, Option.pure_def] at routed
      obtain ⟨specs, each, served, -, same⟩ := routed
      cases same
      obtain ⟨all, same, each⟩ := Option.bind_eq_some_iff.mp each
      cases same
      rw [List.mapM_cons] at each
      simp only [Option.pure_def, Option.bind_eq_bind, Option.bind_eq_some_iff] at each
      obtain ⟨_, first, rest, -, same⟩ := each
      obtain ⟨spec, made, rfl⟩ := Option.map_eq_some_iff.mp first
      cases same
      exact ⟨spec, rfl, routerOf_rule made⟩
  · cases routed

/-- **A file whose first router has its name and some hosts** has a name that is text, and plain
hosts. -/
theorem first_rule_exact {name service : String} (word : IsWord name) {domains : List String}
    {back : List String} {routing : FileSpec} {spec : RouterSpec}
    (read : readFile (lines (routerLines name (hostRule domains) service ++ back)) = some routing)
    (first : routing.routers.head? = some (.text name, spec))
    (hosts : spec.rule = domains.map Matcher.host) : (∀ d ∈ domains, Plain d) ∧ IsText name := by
  obtain ⟨doc, readDoc, routed⟩ := Option.bind_eq_some_iff.mp read
  obtain ⟨value, tail, left, http, routers, router, scanned, begins, begins1, begins2, begins3⟩ :=
    read_begins word readDoc
  obtain ⟨spec', first', ruled⟩ := routingOf_begins begins begins1 begins2 begins3 routed
  obtain ⟨text, rfl⟩ := Prod.mk.inj (Option.some.inj (first.symm.trans first'))
  rw [hosts, rule, String.toList_ofList] at ruled
  exact ⟨rules_exact scanned ruled, text.symm⟩

/-! ## Reading a file of clean texts -/

def routerNode (rule entryPoint service : String) (tls : Bool) : Node :=
  .map ([(.text "rule", .scalar rule), (.text "entryPoints", .seq [.scalar entryPoint])] ++
    (if tls then [(.text "tls", .map [])] else []) ++ [(.text "service", .scalar service)])

def routerRead (name rule entryPoint service : String) (tls : Bool) : List Line :=
  [⟨4, .key name, none⟩, ⟨6, .key "rule", some (.scalar rule)⟩, ⟨6, .key "entryPoints", none⟩,
    ⟨8, .dash, none⟩, ⟨10, .item, some (.scalar entryPoint)⟩] ++
    (if tls then [⟨6, .key "tls", some (.map [])⟩] else []) ++
    [⟨6, .key "service", some (.scalar service)⟩]

theorem itemsOf_routerRead (name rule entryPoint service : String) (tls : Bool) :
    itemsOf (routerRead name rule entryPoint service tls) =
      some [entryItem 4 (name, routerNode rule entryPoint service tls)] := by
  cases tls
  · rfl
  · rfl

theorem routerRead_indent {name rule entryPoint service : String} {tls : Bool} {line : Line}
    (mem : line ∈ routerRead name rule entryPoint service tls) : 4 ≤ line.indent := by
  have all : ((routerRead name rule entryPoint service tls).all fun line => 4 ≤ line.indent) = true := by
    cases tls
    · rfl
    · rfl
  exact of_decide_eq_true (List.all_eq_true.mp all line mem)

/-- The lines of the routers' part of a file, one list for each line of text. -/
def routersRead (name rule service : String) : List (List Line) :=
  [[⟨0, .key "http", none⟩], [⟨2, .key "routers", none⟩], [⟨4, .key name, none⟩],
    [⟨6, .key "rule", some (.scalar rule)⟩], [⟨6, .key "entryPoints", none⟩],
    [⟨8, .dash, none⟩, ⟨10, .item, some (.scalar "web")⟩],
    [⟨6, .key "service", some (.scalar service)⟩], [⟨4, .key (name ++ "-tls"), none⟩],
    [⟨6, .key "rule", some (.scalar rule)⟩], [⟨6, .key "entryPoints", none⟩],
    [⟨8, .dash, none⟩, ⟨10, .item, some (.scalar "websecure")⟩],
    [⟨6, .key "tls", some (.map [])⟩], [⟨6, .key "service", some (.scalar service)⟩],
    [⟨2, .key "services", none⟩]]

theorem isName_tls {name : String} (word : IsWord name) : IsName (name ++ "-tls") := by
  obtain ⟨⟨c, cs, split, first⟩, chars⟩ := word
  have text : IsText (name ++ "-" ++ "tls") :=
    isText_dash ⟨'t', by simp, by decide⟩
  rw [String.append_assoc] at text
  refine ⟨⟨⟨c, cs ++ "-tls".toList, by rw [String.toList_append, split]; rfl, first⟩, ?_⟩, text⟩
  intro d mem
  rw [String.toList_append] at mem
  rcases List.mem_append.mp mem with own | tail
  · exact chars d own
  · have all : ∀ d ∈ "-tls".toList, isWord d := List.all_eq_true.mp (by decide)
    exact all d tail

theorem reads_name {name : String} (isName : IsName name) :
    Reads ("    " ++ name ++ ":").toList [⟨4, .key name, none⟩] := by
  have reads := (isName.reads_key 4).reads
  rw [String.toList_append, String.toList_append, List.append_assoc]
  exact reads

theorem reads_rule {rule : String} (clean : ∀ c ∈ rule.toList, isClean c) :
    Reads ("      rule: \"" ++ rule ++ "\"").toList [⟨6, .key "rule", some (.scalar rule)⟩] := by
  have key : IsName "rule" := ⟨⟨⟨'r', _, rfl, rfl⟩, List.all_eq_true.mp (by decide)⟩, by decide⟩
  have reads := (key.reads_value 6 (readValue_quoted clean)).reads
  have same : ("      rule: \"" ++ rule ++ "\"").toList = List.replicate 6 ' ' ++
      ("rule".toList ++ ':' :: ' ' :: '"' :: (rule.toList ++ ['"'])) := by simp [List.replicate]
  rw [same]
  exact reads

theorem reads_service {service : String} (isName : IsName service) :
    Reads ("      service: " ++ service).toList [⟨6, .key "service", some (.scalar service)⟩] := by
  have key : IsName "service" := ⟨⟨⟨'s', _, rfl, rfl⟩, List.all_eq_true.mp (by decide)⟩, by decide⟩
  have reads := (key.reads_value 6 isName.value).reads
  rw [String.toList_append]
  exact reads

theorem reads_routers {name rule service : String} (isName : IsName name)
    (nameService : IsName service) (clean : ∀ c ∈ rule.toList, isClean c) :
    List.Forall₂ Reads ((routerLines name rule service).map String.toList)
      (routersRead name rule service) := by
  have tls : Reads ("    " ++ name ++ "-tls:").toList [⟨4, .key (name ++ "-tls"), none⟩] := by
    have same : ("    " ++ name ++ "-tls:").toList = ("    " ++ (name ++ "-tls") ++ ":").toList := by
      simp
    rw [same]
    exact reads_name (isName_tls isName.toIsWord)
  exact .cons (fun _ => rfl) <| .cons (fun _ => rfl) <| .cons (reads_name isName) <|
    .cons (reads_rule clean) <| .cons (fun _ => rfl) <| .cons (fun _ => rfl) <|
    .cons (reads_service nameService) <| .cons tls <| .cons (reads_rule clean) <|
    .cons (fun _ => rfl) <| .cons (fun _ => rfl) <| .cons (fun _ => rfl) <|
    .cons (reads_service nameService) <| .cons (fun _ => rfl) .nil

/-- **A file of clean texts** is read as its two routers and its services. -/
theorem read_file {name rule service : String} (isName : IsName name)
    (nameService : IsName service) (clean : ∀ c ∈ rule.toList, isClean c) {back : List String}
    {out : List (List Line)} (reads : List.Forall₂ Reads (back.map String.toList) out)
    {services : List (Scalar × Node)}
    (put : itemsOf out.flatten = some (services.map (entryItem 4))) (some : services ≠ [])
    (once : (services.map Prod.fst).Nodup) :
    Theory.Yaml.read (lines (routerLines name rule service ++ back)) =
      .some (.map [(.text "http", .map [(.text "routers", .map [
          (.text name, routerNode rule "web" service false),
          (.text (name ++ "-tls"), routerNode rule "websecure" service true)]),
        (.text "services", .map services)])]) := by
  have written : (lines (routerLines name rule service ++ back)).toList =
      ((routerLines name rule service).map String.toList ++ back.map String.toList).flatMap
        (· ++ ['\n']) := by
    rw [toList_lines, List.map_append]
  rw [read_lines (List.rel_append (reads_routers isName nameService clean) reads) written,
    List.flatten_append]
  have split : (routersRead name rule service).flatten ++ out.flatten =
      ⟨0, .key "http", none⟩ :: ⟨2, .key "routers", none⟩ ::
        ((routerRead name rule "web" service false ++
          routerRead (name ++ "-tls") rule "websecure" service true) ++
            (⟨2, .key "services", none⟩ :: out.flatten)) := rfl
  -- the services, the routers in front of them, and the two parts
  have putServices : itemsOf (⟨2, .key "services", none⟩ :: out.flatten) =
      .some [entryItem 2 ("services", .map services)] := by
    rw [itemsOf, put, Option.bind_some]
    exact attach_entries (by decide) "services" some once
  have putRouters : itemsOf (routerRead name rule "web" service false ++
      routerRead (name ++ "-tls") rule "websecure" service true) =
        .some [entryItem 4 (name, routerNode rule "web" service false),
          entryItem 4 (name ++ "-tls", routerNode rule "websecure" service true)] := by
    refine itemsOf_append (itemsOf_routerRead ..) (itemsOf_routerRead ..) ?_
    rintro line mem item ⟨⟩
    exact routerRead_indent mem
  have behind : itemsOf ((routerRead name rule "web" service false ++
      routerRead (name ++ "-tls") rule "websecure" service true) ++
        (⟨2, .key "services", none⟩ :: out.flatten)) =
      .some ([entryItem 4 (name, routerNode rule "web" service false),
        entryItem 4 (name ++ "-tls", routerNode rule "websecure" service true)] ++
          [entryItem 2 ("services", .map services)]) := by
    refine itemsOf_append putRouters putServices ?_
    rintro line mem item ⟨⟩
    have deep : 4 ≤ line.indent := (List.mem_append.mp mem).elim routerRead_indent routerRead_indent
    exact Nat.le_trans (show 2 ≤ 4 by decide) deep
  have apart : name ≠ name ++ "-tls" := by
    intro same
    have lengths := congrArg (fun text => text.toList.length) same
    simp at lengths
  have routers : attach ⟨2, .key "routers", none⟩
      [entryItem 4 (name, routerNode rule "web" service false),
        entryItem 4 (name ++ "-tls", routerNode rule "websecure" service true)] =
      .some [entryItem 2 ("routers", .map [(name, routerNode rule "web" service false),
        (name ++ "-tls", routerNode rule "websecure" service true)])] :=
    attach_entries (by decide) "routers" (List.cons_ne_nil (.text name, _) [(.text (name ++ "-tls"), _)])
      (by simp [apart])
  have both : itemsOf (⟨2, .key "routers", none⟩ ::
      ((routerRead name rule "web" service false ++
        routerRead (name ++ "-tls") rule "websecure" service true) ++
          (⟨2, .key "services", none⟩ :: out.flatten))) =
        .some [entryItem 2 ("routers", .map [(name, routerNode rule "web" service false),
          (name ++ "-tls", routerNode rule "websecure" service true)]),
            entryItem 2 ("services", .map services)] := by
    rw [itemsOf, behind, Option.bind_some, attach_append, routers]
    · rfl
    · rintro item ⟨⟩
      exact Nat.le_refl 2
  have whole : attach ⟨0, .key "http", none⟩
      [entryItem 2 ("routers", .map [(name, routerNode rule "web" service false),
        (name ++ "-tls", routerNode rule "websecure" service true)]),
          entryItem 2 ("services", .map services)] =
      .some [entryItem 0 ("http", .map [("routers", .map [
        (name, routerNode rule "web" service false),
          (name ++ "-tls", routerNode rule "websecure" service true)]),
            ("services", .map services)])] :=
    attach_entries (by decide) "http" (List.cons_ne_nil (.text "routers", _) [(.text "services", _)])
      (by simp)
  rw [split, itemsOf, both, Option.bind_some, whole]
  rfl

/-! ### Services -/

/-- The servers of a load balancer, one element each. -/
def urlNode (url : String) : Node := .map [(.text "url", .scalar url)]

def balancerNode (urls : List String) : Node :=
  .map [("loadBalancer", .map [("servers", seqOf (urls.map urlNode))])]

def balancerRead (name : String) (urls : List String) : List (List Line) :=
  [[⟨4, .key name, none⟩], [⟨6, .key "loadBalancer", none⟩], [⟨8, .key "servers", none⟩]] ++
    urls.map fun url : String => [⟨10, .dash, none⟩, ⟨12, .key "url", some (.scalar url)⟩]

theorem reads_url {url : String} (clean : ∀ c ∈ url.toList, isClean c) :
    Reads ("          - url: \"" ++ url ++ "\"").toList
      [⟨10, .dash, none⟩, ⟨12, .key "url", some (.scalar url)⟩] := by
  have key : IsName "url" := ⟨⟨⟨'u', _, rfl, rfl⟩, List.all_eq_true.mp (by decide)⟩, by decide⟩
  have reads := ReadsEntry.reads_dash (n := 10) (key.reads_value 12 (readValue_quoted clean))
  have same : ("          - url: \"" ++ url ++ "\"").toList = List.replicate 10 ' ' ++
      ('-' :: ' ' :: ("url".toList ++ ':' :: ' ' :: '"' :: (url.toList ++ ['"']))) := by
    simp [List.replicate]
  rw [same]
  exact reads

theorem reads_balancer {name : String} (isName : IsName name) {urls : List String}
    (clean : ∀ url ∈ urls, ∀ c ∈ url.toList, isClean c) :
    List.Forall₂ Reads ((balancerLines name urls).map String.toList) (balancerRead name urls) := by
  unfold balancerLines balancerRead
  rw [List.map_append, List.map_map]
  refine List.rel_append (.cons (reads_name isName) <| .cons (fun _ => rfl) <|
    .cons (fun _ => rfl) .nil) ?_
  rw [List.forall₂_map_left_iff, List.forall₂_map_right_iff]
  exact List.forall₂_same.mpr fun url mem => reads_url (clean url mem)

theorem itemsOf_balancer (name : String) (urls : List String) :
    itemsOf (balancerRead name urls).flatten = some [entryItem 4 (name, balancerNode urls)] := by
  have elements : itemsOf (urls.flatMap fun url : String =>
      [⟨10, .dash, none⟩, ⟨12, .key "url", some (.scalar url)⟩]) =
        some ((urls.map urlNode).map (elementItem 10)) := by
    rw [List.map_map]
    refine itemsOf_blocks (fun url _ => rfl) ?_ fun _ _ => rfl
    intro url _ line mem
    rcases List.mem_pair.mp mem with rfl | rfl
    · exact Nat.le_refl 10
    · exact Nat.le_add_right 10 2
  have split : (balancerRead name urls).flatten =
      ⟨4, .key name, none⟩ :: ⟨6, .key "loadBalancer", none⟩ :: ⟨8, .key "servers", none⟩ ::
        urls.flatMap fun url : String => [⟨10, .dash, none⟩, ⟨12, .key "url", some (.scalar url)⟩] := by
    unfold balancerRead
    rw [List.flatten_append, ← List.flatMap_def]
    rfl
  have servers : itemsOf (⟨8, .key "servers", none⟩ :: urls.flatMap fun url : String =>
      [⟨10, .dash, none⟩, ⟨12, .key "url", some (.scalar url)⟩]) =
        some [entryItem 8 ("servers", seqOf (urls.map urlNode))] := by
    rw [itemsOf, elements, Option.bind_some]
    exact attach_elements (by decide) "servers" _
  rw [split, itemsOf, itemsOf, servers]
  rfl

theorem balancerRead_indent {name : String} {urls : List String} {line : Line}
    (mem : line ∈ (balancerRead name urls).flatten) : 4 ≤ line.indent := by
  obtain ⟨read, listed, inside⟩ := List.mem_flatten.mp mem
  rcases List.mem_append.mp listed with fixed | url
  · simp only [List.mem_cons, List.not_mem_nil, or_false] at fixed
    rcases fixed with rfl | rfl | rfl
    · cases List.mem_singleton.mp inside
      exact Nat.le_refl 4
    · cases List.mem_singleton.mp inside
      exact Nat.le_add_right 4 2
    · cases List.mem_singleton.mp inside
      exact Nat.le_add_right 4 4
  · obtain ⟨url, -, rfl⟩ := List.mem_map.mp url
    rcases List.mem_pair.mp inside with rfl | rfl
    · exact Nat.le_add_right 4 6
    · exact Nat.le_add_right 4 8

/-- The share of a group, an element of the weighted service. -/
def shareNode (group : TrafficBackendGroup) : Node :=
  .map [("name", .scalar (safeName group.name)), ("weight", .scalar (.int group.weight))]

def weightedNode (groups : List TrafficBackendGroup) : Node :=
  .map [("weighted", .map [("services", seqOf (groups.map shareNode))])]

def shareRead (group : TrafficBackendGroup) : List (List Line) :=
  [[⟨10, .dash, none⟩, ⟨12, .key "name", some (.scalar (safeName group.name))⟩],
    [⟨12, .key "weight", some (.scalar (.int group.weight))⟩]]

def weightedRead (name : String) (groups : List TrafficBackendGroup) : List (List Line) :=
  [[⟨4, .key name, none⟩], [⟨6, .key "weighted", none⟩], [⟨8, .key "services", none⟩]] ++
    groups.flatMap shareRead

theorem reads_share {group : TrafficBackendGroup} (isName : IsName (safeName group.name))
    (number : IsWord (toString group.weight)) (positive : 0 < group.weight) :
    List.Forall₂ Reads ((shareLines group).map String.toList) (shareRead group) := by
  have keyName : IsName "name" := ⟨⟨⟨'n', _, rfl, rfl⟩, List.all_eq_true.mp (by decide)⟩, by decide⟩
  have keyWeight : IsName "weight" :=
    ⟨⟨⟨'w', _, rfl, rfl⟩, List.all_eq_true.mp (by decide)⟩, by decide⟩
  have name : Reads ("          - name: " ++ safeName group.name).toList
      [⟨10, .dash, none⟩, ⟨12, .key "name", some (.scalar (safeName group.name))⟩] := by
    have reads := ReadsEntry.reads_dash (n := 10) (keyName.reads_value 12 isName.value)
    rw [String.toList_append]
    exact reads
  have weight : Reads ("            weight: " ++ toString group.weight).toList
      [⟨12, .key "weight", some (.scalar (.int group.weight))⟩] := by
    have reads := (keyWeight.reads_value 12 number.value).reads
    rw [core_toString positive] at reads
    rw [String.toList_append]
    exact reads
  exact .cons name (.cons weight .nil)

theorem itemsOf_weighted (name : String) (groups : List TrafficBackendGroup) :
    itemsOf (weightedRead name groups).flatten = some [entryItem 4 (name, weightedNode groups)] := by
  have shares : itemsOf (groups.flatMap fun group => (shareRead group).flatten) =
      some ((groups.map shareNode).map (elementItem 10)) := by
    rw [List.map_map]
    refine itemsOf_blocks (fun group _ => rfl) ?_ fun _ _ => rfl
    intro group _ line mem
    have all : ((shareRead group).flatten.all fun line => 10 ≤ line.indent) = true := rfl
    exact of_decide_eq_true (List.all_eq_true.mp all line mem)
  have split : (weightedRead name groups).flatten =
      ⟨4, .key name, none⟩ :: ⟨6, .key "weighted", none⟩ :: ⟨8, .key "services", none⟩ ::
        groups.flatMap fun group => (shareRead group).flatten := by
    have inner : (groups.flatMap shareRead).flatten =
        groups.flatMap fun group => (shareRead group).flatten := by
      rw [← List.flatMap_id', List.flatMap_assoc]
      simp only [List.flatMap_id']
    unfold weightedRead
    rw [List.flatten_append, inner]
    rfl
  have services : itemsOf (⟨8, .key "services", none⟩ ::
      groups.flatMap fun group => (shareRead group).flatten) =
        some [entryItem 8 ("services", seqOf (groups.map shareNode))] := by
    rw [itemsOf, shares, Option.bind_some]
    exact attach_elements (by decide) "services" _
  rw [split, itemsOf, itemsOf, services]
  rfl

theorem weightedRead_indent {name : String} {groups : List TrafficBackendGroup} {line : Line}
    (mem : line ∈ (weightedRead name groups).flatten) : 4 ≤ line.indent := by
  obtain ⟨read, listed, inside⟩ := List.mem_flatten.mp mem
  rcases List.mem_append.mp listed with fixed | share
  · simp only [List.mem_cons, List.not_mem_nil, or_false] at fixed
    rcases fixed with rfl | rfl | rfl
    · cases List.mem_singleton.mp inside
      exact Nat.le_refl 4
    · cases List.mem_singleton.mp inside
      exact Nat.le_add_right 4 2
    · cases List.mem_singleton.mp inside
      exact Nat.le_add_right 4 4
  · obtain ⟨group, -, own⟩ := List.mem_flatMap.mp share
    rcases List.mem_pair.mp own with rfl | rfl
    · rcases List.mem_pair.mp inside with rfl | rfl
      · exact Nat.le_add_right 4 6
      · exact Nat.le_add_right 4 8
    · cases List.mem_singleton.mp inside
      exact Nat.le_add_right 4 8

/-! ### What the nodes say -/

theorem mapM_map_some {α β γ : Type} (f : β → Option γ) (g : α → β) (h : α → γ)
    (all : ∀ x, f (g x) = some (h x)) (xs : List α) : (xs.map g).mapM f = some (xs.map h) := by
  induction xs with
  | nil => rfl
  | cons x xs ih =>
    rw [List.map_cons, List.mapM_cons, all, ih]
    rfl

theorem elements_seqOf (nodes : List Node) : elements (seqOf nodes) = some nodes := by
  cases nodes with
  | nil => rfl
  | cons node rest => rfl

theorem serviceOf_balancer (urls : List String) :
    serviceOf (balancerNode urls) = some (.loadBalancer urls) := by
  have here : only "loadBalancer" (balancerNode urls) =
      some (.map [("servers", seqOf (urls.map urlNode))]) := rfl
  have servers : only "servers" (.map [("servers", seqOf (urls.map urlNode))]) =
      some (seqOf (urls.map urlNode)) := rfl
  have texts : (urls.map urlNode).mapM urlOf = some (urls.map id) :=
    mapM_map_some urlOf urlNode id (fun url => rfl) urls
  rw [serviceOf, here]
  dsimp only
  rw [servers, Option.bind_some, elements_seqOf, Option.bind_eq_bind, Option.bind_some, texts,
    List.map_id]
  rfl

theorem serviceOf_weighted (groups : List TrafficBackendGroup) :
    serviceOf (weightedNode groups) = some (.weighted (groups.map fun group =>
      (.text (safeName group.name), .int group.weight))) := by
  have other : only "loadBalancer" (weightedNode groups) = none := rfl
  have here : (only "weighted" (weightedNode groups)).bind (only "services") =
      some (seqOf (groups.map shareNode)) := rfl
  have shares : (groups.map shareNode).mapM shareOf = some (groups.map fun group =>
      (.text (safeName group.name), .int group.weight)) :=
    mapM_map_some shareOf shareNode _ (fun group => rfl) groups
  rw [serviceOf, other]
  dsimp only
  rw [here, Option.bind_some, elements_seqOf, Option.bind_eq_bind, Option.bind_some, shares]
  rfl

theorem routerOf_routerNode (text entryPoint service : String) (tls : Bool) :
    routerOf (routerNode text entryPoint service tls) =
      (rule text).map fun matchers => ⟨matchers, [entryPoint], tls, service⟩ := by
  cases tls with
  | false =>
    show ((rule text).bind fun matchers => some _) = _
    cases rule text <;> rfl
  | true =>
    show ((rule text).bind fun matchers => some _) = _
    cases rule text <;> rfl

/-- **A file of clean texts is read** as its routers with the rule's matchers, and its services. -/
theorem readFile_clean {name rule service : String} (isName : IsName name)
    (nameService : IsName service) (clean : ∀ c ∈ rule.toList, isClean c) {back : List String}
    {out : List (List Line)} (reads : List.Forall₂ Reads (back.map String.toList) out)
    {services : List (Scalar × Node)} (put : itemsOf out.flatten = some (services.map (entryItem 4)))
    (some : services ≠ []) (once : (services.map Prod.fst).Nodup) {specs : List (Scalar × ServiceSpec)}
    (served : eachEntry serviceOf (.map services) = .some specs) {matchers : List Matcher}
    (ruled : RouteText.rule rule = .some matchers) :
    readFile (lines (routerLines name rule service ++ back)) = .some
      { routers := [(name, ⟨matchers, ["web"], false, service⟩),
          (name ++ "-tls", ⟨matchers, ["websecure"], true, service⟩)]
        services := specs } := by
  have routed : eachEntry routerOf (.map [(.text name, routerNode rule "web" service false),
      (.text (name ++ "-tls"), routerNode rule "websecure" service true)]) = .some
        [(.text name, ⟨matchers, ["web"], false, service⟩),
          (.text (name ++ "-tls"), ⟨matchers, ["websecure"], true, service⟩)] := by
    unfold eachEntry entries
    rw [Option.bind_some, List.mapM_cons, List.mapM_cons]
    dsimp only
    rw [routerOf_routerNode, routerOf_routerNode, ruled]
    rfl
  rw [readFile, read_file isName nameService clean reads put some once, Option.bind_some]
  show ((eachEntry routerOf _).bind fun routers => (eachEntry serviceOf _).bind fun services => _) = _
  rw [routed, Option.bind_some, served]
  rfl

theorem mapM_keys {α : Type} {f : Node → Option α} {all : List (Scalar × Node)}
    {read : List (Scalar × α)}
    (each : (all.mapM fun entry => (f entry.2).map (entry.1, ·)) = some read) :
    read.map Prod.fst = all.map Prod.fst := by
  induction all generalizing read with
  | nil =>
    cases each
    rfl
  | cons entry all ih =>
    simp only [List.mapM_cons, Option.pure_def, Option.bind_eq_bind,
      Option.bind_eq_some_iff] at each
    obtain ⟨_, first, rest, there, same⟩ := each
    obtain ⟨value, -, rfl⟩ := Option.map_eq_some_iff.mp first
    cases same
    rw [List.map_cons, List.map_cons, ih there]

theorem only_some {name : String} {node inner : Node} (found : only name node = some inner) :
    node = .map [(name, inner)] := by
  unfold only at found
  split at found
  · next key value =>
    split at found
    · next same =>
      cases found
      rw [same]
    · cases found
  · cases found

theorem services_once {text : String} {routing : FileSpec} (found : readFile text = some routing) :
    (routing.services.map Prod.fst).Nodup := by
  obtain ⟨doc, read, routed⟩ := Option.bind_eq_some_iff.mp found
  have keyed := read_keyed read
  unfold routingOf at routed
  split at routed
  · next routers services single =>
    rw [only_some single] at keyed
    cases keyed with
    | map _ inner =>
      cases inner _ List.mem_cons_self with
      | map _ parts =>
        have own : Keyed services := parts ("services", services) (by simp)
        simp only [Option.bind_eq_bind, Option.bind_eq_some_iff, Option.pure_def] at routed
        obtain ⟨_, -, specs, each, same⟩ := routed
        cases same
        obtain ⟨all, shape, each⟩ := Option.bind_eq_some_iff.mp each
        cases own with
        | map once _ =>
          cases shape
          rw [mapM_keys each]
          exact once
        | _ => cases shape
  · cases routed

/-! ## The words of a file -/

theorem isUpper_eq (c : Char) : c.isUpper = decide (c.val ≥ 'A'.val ∧ c.val ≤ 'Z'.val) := rfl

theorem isLower_eq (c : Char) : c.isLower = (c.val ≥ 'a'.val && c.val ≤ 'z'.val) := rfl

theorem isAlpha_eq (c : Char) : c.isAlpha = (c.isUpper || c.isLower) := rfl

theorem isWord_of_alphanum {c : Char} (alnum : c.isAlphanum) : isWord c := by
  simp [isWord, alnum]

theorem alphanum_of_safeChar {c : Char} (safe : safeChar c) : c.isAlphanum ∨ c = '-' := by
  simp only [safeChar, Bool.or_eq_true, Bool.and_eq_true, decide_eq_true_eq] at safe
  simp only [Char.isAlphanum, isAlpha_eq, isUpper_eq, isLower_eq, Char.isDigit,
    Bool.or_eq_true, Bool.and_eq_true, decide_eq_true_eq]
  grind -ring -linarith [Char.le_def]

theorem isWord_of_safeChar {c : Char} (safe : safeChar c) : isWord c := by
  rcases alphanum_of_safeChar safe with alnum | rfl
  · exact isWord_of_alphanum alnum
  · rfl

theorem isWord_of_safe {w : String} (chars : ∀ c ∈ w.toList, safeChar c)
    (starts : ∃ c cs, w.toList = c :: cs ∧ c ≠ '-') : IsWord w := by
  obtain ⟨c, cs, split, noDash⟩ := starts
  refine ⟨⟨c, cs, split, ?_⟩, fun d mem => isWord_of_safeChar (chars d mem)⟩
  exact (alphanum_of_safeChar (chars c (split ▸ List.mem_cons_self))).resolve_right noDash

theorem isWord_slug {slug : String} (shaped : SlugShaped slug) : IsWord slug := by
  refine isWord_of_safe (fun c mem => ?_) shaped.starts
  have slugged := shaped.chars c mem
  simp only [slugChar, safeChar, Bool.or_eq_true] at slugged ⊢
  grind -ring -linarith

theorem isWord_safeName (value : String) : IsWord (safeName value) := by
  unfold safeName
  dsimp only
  split
  · exact ⟨⟨'b', _, rfl, rfl⟩, List.all_eq_true.mp (by decide)⟩
  · next some =>
    refine isWord_of_safe (fun c mem => ?_) ?_
    · rcases Theory.Text.mem_replaceUnless (Theory.Text.mem_trim mem) with kept | rfl
      · exact kept
      · rfl
    · cases split : (Theory.Text.trim '-' (cleanName value)).toList with
      | nil => exact absurd (String.toList_inj.mp split) some
      | cons c cs => exact ⟨c, cs, rfl, Theory.Text.trim_head split⟩

theorem isWord_positive {n : Int} (positive : 0 < n) : IsWord (toString n) := by
  obtain ⟨m, rfl⟩ := Int.eq_ofNat_of_zero_le positive.le
  have text : toString (m : Int) = toString m := rfl
  rw [text]
  have alnum : ∀ c ∈ (toString m).toList, c.isAlphanum := fun c mem => by
    simp [Char.isAlphanum, Theory.Text.isDigit_toString mem]
  refine ⟨?_, fun c mem => isWord_of_alphanum (alnum c mem)⟩
  cases split : (toString m).toList with
  | nil => exact absurd ((Nat.toList_repr (n := m)).symm.trans split) Nat.toDigits_ne_nil
  | cons c cs => exact ⟨c, cs, rfl, alnum c (split ▸ List.mem_cons_self)⟩

theorem clean_of_isWord {c : Char} (word : isWord c) : isClean c := by
  have ordinary : isOrdinary c := by
    simp only [isWord, Bool.or_eq_true, decide_eq_true_eq] at word
    rcases word with (((alnum | rfl) | rfl) | rfl) | rfl
    · simp only [Char.isAlphanum, isAlpha_eq, isUpper_eq, isLower_eq, Char.isDigit,
        Bool.or_eq_true, Bool.and_eq_true, decide_eq_true_eq] at alnum
      have above : ' ' < c ∧ c ≠ '"' ∧ c ≠ '\\' := by
        refine ⟨?_, ?_, ?_⟩
        · rw [Char.lt_def]
          grind -ring -linarith
        · rintro rfl
          revert alnum
          decide
        · rintro rfl
          revert alnum
          decide
      simp [isOrdinary, above]
    · rfl
    · rfl
    · rfl
    · rfl
  simp [isClean, ordinary]

theorem clean_toString (n : Int) : ∀ c ∈ (toString n).toList, isClean c := by
  intro c mem
  rcases Theory.Text.isDigit_toString_int mem with rfl | digit
  · rfl
  · exact clean_of_isWord (isWord_of_alphanum (by simp [Char.isAlphanum, digit]))

/-! ## The two files -/

def replicaURL (containerName : String) (port : Int) : String :=
  "http://" ++ (if containerName ≠ "" then containerName else "localhost") ++ ":" ++ toString port

theorem text_traefikConfig (cfg : TraefikConfig) (port : Int) (containerName : String) :
    (writeTraefikConfig cfg port containerName).2 =
      lines (routerLines cfg.appSlug (hostRule cfg.domains) cfg.appSlug ++
        balancerLines cfg.appSlug [replicaURL containerName port]) := rfl

theorem spelled_traefikConfig (cfg : TraefikConfig) (port : Int) (containerName : String) :
    spelled (Agent.writeTraefikConfig cfg port containerName).2 =
      { routers :=
          [(.text cfg.appSlug, ⟨cfg.domains.map Matcher.host, ["web"], false, cfg.appSlug⟩),
            (.text (cfg.appSlug ++ "-tls"),
              ⟨cfg.domains.map Matcher.host, ["websecure"], true, cfg.appSlug⟩)]
        services := [(cfg.appSlug, .loadBalancer [replicaURL containerName port])] } := rfl

theorem clean_replicaURL {containerName : String} (target : ∀ c ∈ containerName.toList, isClean c)
    (port : Int) : ∀ c ∈ (replicaURL containerName port).toList, isClean c := by
  have fixed : ∀ c ∈ "http://localhost:".toList, isClean c := List.all_eq_true.mp (by decide)
  have digits := clean_toString port
  intro c mem
  unfold replicaURL at mem
  simp only [String.toList_append, List.mem_append] at mem
  rcases mem with ((scheme | host) | colon) | number
  · exact fixed c (by simp at scheme ⊢; grind -ring -linarith)
  · split at host
    · exact target c host
    · exact fixed c (by simp at host ⊢; grind -ring -linarith)
  · exact fixed c (by simp at colon ⊢; grind -ring -linarith)
  · exact digits c number

/-- The file of a replica, when its rule is clean text. -/
theorem readFile_replica {cfg : TraefikConfig} (isName : IsName cfg.appSlug) {containerName : String}
    (target : ∀ c ∈ containerName.toList, isClean c) (port : Int)
    (clean : ∀ c ∈ (hostRule cfg.domains).toList, isClean c) {matchers : List Matcher}
    (ruled : rule (hostRule cfg.domains) = .some matchers) :
    readFile (writeTraefikConfig cfg port containerName).2 = .some
      { routers := [(cfg.appSlug, ⟨matchers, ["web"], false, cfg.appSlug⟩),
          (cfg.appSlug ++ "-tls", ⟨matchers, ["websecure"], true, cfg.appSlug⟩)]
        services := [(cfg.appSlug, .loadBalancer [replicaURL containerName port])] } := by
  have plain : ∀ url ∈ [replicaURL containerName port], ∀ c ∈ url.toList, isClean c :=
    List.forall_mem_singleton.mpr (clean_replicaURL target port)
  have served : eachEntry serviceOf (.map [(.text cfg.appSlug,
      balancerNode [replicaURL containerName port])]) =
        .some [(.text cfg.appSlug, .loadBalancer [replicaURL containerName port])] := by
    unfold eachEntry entries
    rw [Option.bind_some, List.mapM_cons]
    dsimp only
    rw [serviceOf_balancer]
    rfl
  rw [text_traefikConfig]
  exact readFile_clean isName isName clean (reads_balancer isName plain)
    (itemsOf_balancer _ _) (List.cons_ne_nil (.text cfg.appSlug, balancerNode _) []) (by simp)
    served ruled

/-- **The file of a replica says what it is to say exactly when its domains are plain** and its slug
is text. -/
theorem traefikConfig_iff {cfg : TraefikConfig} (word : IsWord cfg.appSlug) (some : cfg.domains ≠ [])
    {containerName : String} (target : ∀ c ∈ containerName.toList, isClean c) (port : Int) :
    readFile (writeTraefikConfig cfg port containerName).2 =
        .some (spelled (Agent.writeTraefikConfig cfg port containerName).2) ↔
      (∀ d ∈ cfg.domains, Plain d) ∧ IsText cfg.appSlug := by
  rw [spelled_traefikConfig]
  constructor
  · intro read
    rw [text_traefikConfig] at read
    exact first_rule_exact word read rfl rfl
  · rintro ⟨plain, text⟩
    exact readFile_replica ⟨word, text⟩ target port (clean_rule plain) (rules_read some plain)

def weightedEntries (name : String) (groups : List TrafficBackendGroup) : List (Scalar × Node) :=
  (name, weightedNode groups) ::
    groups.map fun group => (.text (safeName group.name), balancerNode group.urls)

theorem itemsOf_weightedEntries (name : String) (groups : List TrafficBackendGroup) :
    itemsOf ((weightedRead name groups ++ groups.flatMap fun group =>
        balancerRead (safeName group.name) group.urls).flatten) =
      some ((weightedEntries name groups).map (entryItem 4)) := by
  have balancers : itemsOf (groups.flatMap fun group =>
      (balancerRead (safeName group.name) group.urls).flatten) =
        some (groups.map fun group => entryItem 4 (safeName group.name, balancerNode group.urls)) :=
    itemsOf_blocks (fun group _ => itemsOf_balancer _ _)
      (fun group _ line mem => balancerRead_indent mem) fun _ _ => rfl
  have split : (groups.flatMap fun group => balancerRead (safeName group.name) group.urls).flatten =
      groups.flatMap fun group => (balancerRead (safeName group.name) group.urls).flatten := by
    rw [← List.flatMap_id', List.flatMap_assoc]
    simp only [List.flatMap_id']
  rw [List.flatten_append, split, itemsOf_append (itemsOf_weighted name groups) balancers]
  · simp [weightedEntries, Function.comp_def]
  · intro line mem item first
    obtain ⟨group, -, rfl⟩ := List.mem_map.mp (List.mem_of_head? first)
    exact weightedRead_indent mem

theorem serviceOf_weightedEntries (name : String) (groups : List TrafficBackendGroup) :
    eachEntry serviceOf (.map (weightedEntries name groups)) =
      some ((weightedServices name groups).map serviceSpec) := by
  have balancers : (groups.map fun group =>
      (Scalar.text (safeName group.name), balancerNode group.urls)).mapM
        (fun entry => (serviceOf entry.2).map (entry.1, ·)) =
          some (groups.map fun group =>
            (.text (safeName group.name), .loadBalancer group.urls)) := by
    refine mapM_map_some _ _ _ (fun group => ?_) groups
    dsimp only
    rw [serviceOf_balancer]
    rfl
  show ((weightedEntries name groups).mapM fun entry => (serviceOf entry.2).map (entry.1, ·)) = _
  rw [weightedEntries, List.mapM_cons, balancers]
  dsimp only
  rw [serviceOf_weighted]
  simp [weightedServices, serviceSpec]

/-- With a slug, a group and a domain the file is written. -/
theorem text_weighted {cmd : TrafficRouteCommand} (slug : cmd.appSlug ≠ "") (groups : cmd.groups ≠ [])
    (hosts : cmd.domains.filter (· ≠ "") ≠ []) :
    writeWeightedTraefikConfig cmd = .ok (configFile cmd.appSlug, lines (
      routerLines (safeName cmd.appSlug) (hostRule (cmd.domains.filter (· ≠ "")))
        (safeName (cmd.appSlug ++ "-weighted")) ++
      (weightedLines (safeName (cmd.appSlug ++ "-weighted")) (liveGroups cmd.groups) ++
        (liveGroups cmd.groups).flatMap fun group =>
          balancerLines (safeName group.name) group.urls))) := by
  have domains : cmd.domains ≠ [] := fun none => hosts (by rw [none]; rfl)
  unfold writeWeightedTraefikConfig
  rw [if_neg slug, if_neg domains, if_neg groups]
  exact if_neg hosts

theorem reads_flatMap {α : Type} {written : α → List String} {read : α → List (List Line)}
    {xs : List α} (reads : ∀ x ∈ xs, List.Forall₂ Reads ((written x).map String.toList) (read x)) :
    List.Forall₂ Reads ((xs.flatMap written).map String.toList) (xs.flatMap read) := by
  induction xs with
  | nil => exact .nil
  | cons x xs ih =>
    obtain ⟨first, later⟩ := List.forall_mem_cons.mp reads
    rw [List.flatMap_cons, List.flatMap_cons, List.map_append]
    exact List.rel_append first (ih later)

theorem reads_weighted {name : String} (isName : IsName name) {groups : List TrafficBackendGroup}
    (names : ∀ group ∈ groups, IsName (safeName group.name))
    (weights : ∀ group ∈ groups, 0 < group.weight)
    (urls : ∀ group ∈ groups, ∀ url ∈ group.urls, ∀ c ∈ url.toList, isClean c) :
    List.Forall₂ Reads ((weightedLines name groups ++ groups.flatMap fun group =>
        balancerLines (safeName group.name) group.urls).map String.toList)
      (weightedRead name groups ++ groups.flatMap fun group =>
        balancerRead (safeName group.name) group.urls) := by
  have header : List.Forall₂ Reads ((weightedLines name groups).map String.toList)
      (weightedRead name groups) := by
    unfold weightedLines weightedRead
    rw [List.map_append]
    refine List.rel_append (.cons (reads_name isName) <| .cons (fun _ => rfl) <|
      .cons (fun _ => rfl) .nil) (reads_flatMap fun group mem => ?_)
    exact reads_share (names group mem) (isWord_positive (weights group mem)) (weights group mem)
  rw [List.map_append]
  refine List.rel_append header (reads_flatMap fun group mem => ?_)
  exact reads_balancer (names group mem) (urls group mem)

theorem spelled_pair (name service : String) (hosts : List String) (services : List Service) :
    spelled ⟨routerPair name service hosts, services⟩ =
      { routers :=
          [(.text name, ⟨hosts.map Matcher.host, ["web"], false, service⟩),
            (.text (name ++ "-tls"), ⟨hosts.map Matcher.host, ["websecure"], true, service⟩)]
        services := services.map serviceSpec } := rfl

theorem serviceSpec_name (service : Service) :
    (serviceSpec service).1 = .text service.name := by
  cases service <;> rfl

theorem texts_once {names : List String} : (names.map Scalar.text).Nodup ↔ names.Nodup :=
  List.nodup_map_iff fun _ _ same => Scalar.text.inj same

theorem weightedEntries_names (name : String) (groups : List TrafficBackendGroup) :
    (weightedEntries name groups).map Prod.fst =
      ((weightedServices name groups).map Service.name).map Scalar.text := by
  simp [weightedEntries, weightedServices, Service.name, Function.comp_def]

/-- **The file of a routing command says what it is to say exactly when its domains are plain**, the
name of its router is text and no two of its services have one name. -/
theorem weightedConfig_iff {cmd : TrafficRouteCommand}
    (urls : ∀ group ∈ cmd.groups, ∀ url ∈ group.urls, ∀ c ∈ url.toList, isClean c)
    {file : String × String} (written : writeWeightedTraefikConfig cmd = .ok file)
    {document : String × DynamicConfig}
    (documented : Agent.writeWeightedTraefikConfig cmd = .ok document)
    (texts : ∀ name ∈ document.2.serviceNames, IsText name) :
    readFile file.2 = some (spelled document.2) ↔
      (∀ d ∈ cmd.domains, d ≠ "" → Plain d) ∧ IsText (safeName cmd.appSlug) ∧
        document.2.serviceNames.Nodup := by
  obtain ⟨slug, groups, hosts, rfl⟩ := writeWeighted_eq_ok.mp documented
  rw [text_weighted slug groups hosts] at written
  cases written
  have word := isWord_safeName cmd.appSlug
  have listed : (∀ d ∈ cmd.domains, d ≠ "" → Plain d) ↔
      ∀ d ∈ cmd.domains.filter (· ≠ ""), Plain d := by
    simp only [List.mem_filter, decide_eq_true_eq, and_imp]
  rw [listed, spelled_pair]
  dsimp only
  constructor
  · intro read
    obtain ⟨plain, text⟩ := first_rule_exact word read rfl rfl
    refine ⟨plain, text, ?_⟩
    have once := services_once read
    have names : Prod.fst ∘ serviceSpec = Scalar.text ∘ Service.name := funext serviceSpec_name
    rw [List.map_map, names, ← List.map_map] at once
    exact texts_once.mp once
  · rintro ⟨plain, text, once⟩
    simp only [DynamicConfig.serviceNames, weightedServices, List.map_cons, List.map_map,
      List.forall_mem_cons, List.forall_mem_map, Function.comp_apply, Service.name] at texts
    obtain ⟨textService, textGroups⟩ := texts
    have live : ∀ group ∈ liveGroups cmd.groups, group ∈ cmd.groups ∧ 0 < group.weight := by
      intro group mem
      obtain ⟨inside, alive⟩ := List.mem_filter.mp mem
      exact ⟨inside, (of_decide_eq_true alive).1⟩
    have nameService : IsName (safeName (cmd.appSlug ++ "-weighted")) :=
      ⟨isWord_safeName _, textService⟩
    have named : ∀ group ∈ liveGroups cmd.groups, IsName (safeName group.name) := fun group mem =>
      ⟨isWord_safeName _, textGroups group mem⟩
    refine readFile_clean ⟨word, text⟩ nameService (clean_rule plain)
      (reads_weighted nameService named (fun group mem => (live group mem).2)
        fun group mem => urls group (live group mem).1)
      (itemsOf_weightedEntries _ _) (List.cons_ne_nil _ _) ?_ (serviceOf_weightedEntries _ _)
      (rules_read hosts plain)
    rw [weightedEntries_names]
    exact texts_once.mpr once

end Nixway.Agent.RouteText
