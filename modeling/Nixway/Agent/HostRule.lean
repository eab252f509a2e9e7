/-
# Agent.HostRule -- the rule of an app's domains

The agent writes the domains of an app into a rule between backquotes, and the rule into the file
between double quotes, both as they are.  A rule is read back as a disjunction of matchers with one
backquoted argument each.

What is scanned and read as the hosts of some domains was written for plain ones (`rules_exact`),
and the rule of plain domains is read as their hosts (`rules_read`).
-/
import Nixway.Theory.Quoted

namespace Nixway.Agent.RouteText

open Nixway.Theory.Yaml

set_option autoImplicit false

/-! ## Rules -/

/-- What encloses an argument. -/
def backquote : Char := Char.ofNat 0x60

/-- A matcher of a rule, with its argument. -/
structure Matcher where
  name : String
  value : String
deriving DecidableEq

/-- Where the reader of a rule stands: in a name, behind its parenthesis, in an argument, behind
that, behind a matcher, and between the two bars of an "or". -/
inductive Reading where
  | name (text : List Char)
  | opened (name : List Char)
  | value (name text : List Char)
  | closing
  | after
  | bar

def isRuleSpace (c : Char) : Bool := isBlank c || isBreak c

/-- A rule that is a disjunction of matchers with one argument; other rules are not read. -/
def readRule : Reading → List Char → Option (List Matcher)
  | .after, [] => some []
  | _, [] => none
  | .name text, c :: rest =>
    if c.isAlphanum then readRule (.name (text ++ [c])) rest
    else if c = '(' ∧ text ≠ [] then readRule (.opened text) rest
    else if isRuleSpace c ∧ text = [] then readRule (.name []) rest
    else none
  | .opened name, c :: rest =>
    if c = backquote then readRule (.value name []) rest
    else if isRuleSpace c then readRule (.opened name) rest
    else none
  | .value name text, c :: rest =>
    if c = backquote then
      (readRule .closing rest).map (⟨String.ofList name, String.ofList text⟩ :: ·)
    else readRule (.value name (text ++ [c])) rest
  | .closing, c :: rest =>
    if c = ')' then readRule .after rest
    else if isRuleSpace c then readRule .closing rest
    else none
  | .after, c :: rest =>
    if c = '|' then readRule .bar rest
    else if isRuleSpace c then readRule .after rest
    else none
  | .bar, c :: rest => if c = '|' then readRule (.name []) rest else none

def rule (text : String) : Option (List Matcher) := readRule (.name []) text.toList

/-- ``Host(`d`)``. -/
def Matcher.host (domain : String) : Matcher := ⟨"Host", domain⟩

theorem readRule_value {name text rest : List Char} {matchers : List Matcher}
    (read : readRule (.value name text) rest = some matchers) :
    ∃ more left others, rest = more ++ backquote :: left ∧ backquote ∉ more ∧
      matchers = ⟨String.ofList name, String.ofList (text ++ more)⟩ :: others ∧
      readRule .closing left = some others := by
  induction rest generalizing text with
  | nil => cases read
  | cons c rest ih =>
    rw [readRule] at read
    split at read
    · next same =>
      obtain ⟨others, there, rfl⟩ := Option.map_eq_some_iff.mp read
      exact ⟨[], rest, others, by rw [same]; rfl, List.not_mem_nil, by rw [List.append_nil],
        there⟩
    · next other =>
      obtain ⟨more, left, others, split, free, same, there⟩ := ih read
      refine ⟨c :: more, left, others, by rw [split]; rfl, ?_, ?_, there⟩
      · rw [List.mem_cons, not_or]
        exact ⟨Ne.symm other, free⟩
      · rw [same, List.append_assoc]
        rfl

theorem readRule_argument {more : List Char} (free : backquote ∉ more) (name text left : List Char) :
    readRule (.value name text) (more ++ backquote :: left) =
      (readRule .closing left).map (⟨String.ofList name, String.ofList (text ++ more)⟩ :: ·) := by
  induction more generalizing text with
  | nil =>
    rw [List.nil_append, readRule, if_pos rfl, List.append_nil]
  | cons c more ih =>
    rw [List.mem_cons, not_or] at free
    obtain ⟨other, free⟩ := free
    rw [List.cons_append, readRule, if_neg (Ne.symm other), ih free, List.append_assoc]
    rfl

/-! ## The rule of some domains -/

/-- `Host(`, in front of an argument. -/
def hostOpen : List Char := ['H', 'o', 's', 't', '(']

/-- The matchers behind the first. -/
def moreHosts (domains : List String) : List Char :=
  domains.flatMap fun d =>
    [' ', '|', '|', ' '] ++ hostOpen ++ backquote :: (d.toList ++ [backquote, ')'])

/-- `strings.Join(rules, " || ")`. -/
def hostRule (domains : List String) : String :=
  " || ".intercalate (domains.map fun domain => "Host(`" ++ domain ++ "`)")

theorem hostRule_cons_cons (d e : String) (domains : List String) :
    (hostRule (d :: e :: domains)).toList =
      (hostRule [d]).toList ++ " || ".toList ++ (hostRule (e :: domains)).toList := by
  unfold hostRule
  rw [String.toList_intercalate, String.toList_intercalate, String.toList_intercalate]
  simp only [List.map_cons, List.map_nil]
  rw [List.intercalate_cons_cons]
  simp

theorem hostRule_cons (d : String) (domains : List String) :
    (hostRule (d :: domains)).toList =
      hostOpen ++ backquote :: (d.toList ++ backquote :: ')' :: moreHosts domains) := by
  induction domains generalizing d with
  | nil =>
    unfold hostRule moreHosts
    simp [hostOpen, backquote]
  | cons e domains ih =>
    have first : (hostRule [d]).toList =
        hostOpen ++ backquote :: (d.toList ++ [backquote, ')']) := by
      unfold hostRule
      simp [hostOpen, backquote]
    rw [hostRule_cons_cons, first, ih]
    simp [moreHosts]

/-! ## Plain domains -/

/-- Nothing in the domain ends the argument it is written into, or means anything but itself in the
scalar around it: no backquote, no double quote, no backslash, no break and no control character
but the tab. -/
def Plain (domain : String) : Prop :=
  backquote ∉ domain.toList ∧ ∀ c ∈ domain.toList, isClean c

instance (domain : String) : Decidable (Plain domain) :=
  @instDecidableAnd _ _ _ (List.decidableBAll _ _)

theorem backquote_marks : Marker backquote where
  ordinary := by decide
  escape := rfl
  digit := by decide

theorem moreHosts_cons (d : String) (domains : List String) :
    moreHosts (d :: domains) =
      [' ', '|', '|', ' '] ++ hostOpen ++ backquote :: (d.toList ++
        backquote :: ')' :: moreHosts domains) := by
  simp [moreHosts]

theorem scan_between_hosts (rest : List Char) :
    scan (.line []) (')' :: [' ', '|', '|', ' '] ++ hostOpen ++ backquote :: rest) =
      (scan (.line []) rest).map fun read =>
        (')' :: [' ', '|', '|', ' '] ++ hostOpen ++ backquote :: read.1, read.2) := by
  have clean : ∀ c ∈ ')' :: [' ', '|', '|', ' '] ++ hostOpen, isClean c :=
    List.all_eq_true.mp (by decide)
  rw [scan_clean clean backquote_marks.ordinary]
  rfl

/-- What is scanned and read as an argument is a plain one. -/
theorem argument_exact {d : String} {name rest value left : List Char} {matchers : List Matcher}
    (scanned : scan (.line []) (d.toList ++ backquote :: rest) = some (value, left))
    (read : readRule (.value name []) value = some (⟨String.ofList name, d⟩ :: matchers)) :
    Plain d ∧ ∃ after, scan (.line []) rest = some (after, left) ∧
      readRule .closing after = some matchers := by
  obtain ⟨more, after, others, rfl, free, same, there⟩ := readRule_value read
  obtain ⟨first, rfl⟩ := List.cons.inj same
  obtain ⟨-, rfl⟩ := Matcher.mk.inj first
  rw [List.nil_append, String.toList_ofList] at scanned
  obtain ⟨clean, behind⟩ := scan_exact backquote_marks free List.not_mem_nil
    (show scan (.line []) (more ++ backquote :: rest) = some ([] ++ more ++ backquote :: after, left)
      from scanned)
  rw [List.nil_append, Plain, String.toList_ofList]
  exact ⟨⟨free, clean⟩, after, behind, there⟩

/-- **The hosts behind an argument**: what is scanned and read as these hosts has plain ones. -/
theorem more_exact {domains : List String} {tail value left : List Char}
    (scanned : scan (.line []) (')' :: moreHosts domains ++ '"' :: tail) = some (value, left))
    (read : readRule .closing value = some (domains.map Matcher.host)) :
    ∀ d ∈ domains, Plain d := by
  induction domains generalizing value with
  | nil => exact nofun
  | cons d domains ih =>
    rw [moreHosts_cons] at scanned
    have split : ')' :: ([' ', '|', '|', ' '] ++ hostOpen ++ backquote :: (d.toList ++
          backquote :: ')' :: moreHosts domains)) ++ '"' :: tail =
        ')' :: [' ', '|', '|', ' '] ++ hostOpen ++ backquote :: (d.toList ++
          backquote :: (')' :: moreHosts domains ++ '"' :: tail)) := by simp
    rw [split, scan_between_hosts] at scanned
    obtain ⟨after, scannedAfter, same⟩ := Option.map_eq_some_iff.mp scanned
    obtain ⟨rfl, rfl⟩ := Prod.mk.inj same
    obtain ⟨plain, behind, scannedBehind, readBehind⟩ := argument_exact scannedAfter
      (show readRule (.value ['H', 'o', 's', 't'] []) after.1 =
        some (Matcher.host d :: domains.map Matcher.host) from read)
    exact List.forall_mem_cons.mpr ⟨plain, ih scannedBehind readBehind⟩

/-- **What is scanned and read as the rule of some domains has plain ones.** -/
theorem rules_exact {domains : List String} {tail value left : List Char}
    (scanned : scan (.line []) ((hostRule domains).toList ++ '"' :: tail) = some (value, left))
    (read : readRule (.name []) value = some (domains.map Matcher.host)) :
    ∀ d ∈ domains, Plain d := by
  cases domains with
  | nil => exact nofun
  | cons d domains =>
    have split : hostOpen ++ backquote :: (d.toList ++ backquote :: ')' :: moreHosts domains) ++
          '"' :: tail =
        hostOpen ++ backquote :: (d.toList ++
          backquote :: (')' :: moreHosts domains ++ '"' :: tail)) := by simp
    have clean : ∀ c ∈ hostOpen, isClean c :=
      List.all_eq_true.mp (by decide)
    rw [hostRule_cons, split, scan_clean clean backquote_marks.ordinary] at scanned
    obtain ⟨after, scannedAfter, same⟩ := Option.map_eq_some_iff.mp scanned
    obtain ⟨rfl, rfl⟩ := Prod.mk.inj same
    obtain ⟨plain, behind, scannedBehind, readBehind⟩ := argument_exact scannedAfter
      (show readRule (.value ['H', 'o', 's', 't'] []) after.1 =
        some (Matcher.host d :: domains.map Matcher.host) from read)
    exact List.forall_mem_cons.mpr ⟨plain, more_exact scannedBehind readBehind⟩

/-- **The rule of plain domains is read as their hosts.** -/
theorem rules_read {domains : List String} (some : domains ≠ []) (plain : ∀ d ∈ domains, Plain d) :
    rule (hostRule domains) = .some (domains.map Matcher.host) := by
  have more : ∀ domains : List String, (∀ d ∈ domains, Plain d) →
      readRule .closing (')' :: moreHosts domains) = .some (domains.map Matcher.host) := by
    intro domains plain
    induction domains with
    | nil => rfl
    | cons d domains ih =>
      obtain ⟨first, later⟩ := List.forall_mem_cons.mp plain
      rw [moreHosts_cons]
      show readRule (.value ['H', 'o', 's', 't'] [])
        (d.toList ++ backquote :: ')' :: moreHosts domains) = _
      rw [readRule_argument first.1, ih later, List.nil_append, String.ofList_toList]
      rfl
  cases domains with
  | nil => exact absurd rfl some
  | cons d domains =>
    obtain ⟨first, later⟩ := List.forall_mem_cons.mp plain
    rw [rule, hostRule_cons]
    show readRule (.value ['H', 'o', 's', 't'] [])
      (d.toList ++ backquote :: ')' :: moreHosts domains) = _
    rw [readRule_argument first.1, more domains later, List.nil_append, String.ofList_toList]
    rfl

theorem clean_rule {domains : List String} (plain : ∀ d ∈ domains, Plain d) :
    ∀ c ∈ (hostRule domains).toList, isClean c := by
  have fixed : ∀ c ∈ [' ', '|', '|', ' '] ++ hostOpen ++ [backquote, ')'], isClean c :=
    List.all_eq_true.mp (by decide)
  have more : ∀ domains : List String, (∀ d ∈ domains, Plain d) →
      ∀ c ∈ moreHosts domains, isClean c := by
    intro domains plain c mem
    obtain ⟨d, listed, inside⟩ := List.mem_flatMap.mp mem
    have own := (plain d listed).2 c
    have other := fixed c
    simp only [List.mem_append, List.mem_cons] at inside other
    grind -ring -linarith
  cases domains with
  | nil => exact nofun
  | cons d domains =>
    obtain ⟨first, later⟩ := List.forall_mem_cons.mp plain
    intro c mem
    rw [hostRule_cons] at mem
    have own := first.2 c
    have other := fixed c
    have behind := more domains later c
    simp only [List.mem_append, List.mem_cons] at mem other
    grind -ring -linarith

/-! ## Host values -/

/-- What takes the Host values out of the text between the quotes of a rule.  Of a clean text that is
a disjunction of hosts it takes these; nothing is known of the others. -/
structure RuleReader where
  hosts : String → List String
  spelled : ∀ {text : String} {values : List String}, (∀ c ∈ text.toList, isClean c) →
    rule text = some (values.map Matcher.host) → ∀ host, host ∈ hosts text ↔ host ∈ values

/-- The reader that takes the arguments of every `Host`. -/
def hostMatchers : RuleReader where
  hosts text := (((rule text).getD []).filter (·.name = "Host")).map Matcher.value
  spelled := by
    intro text values _ read host
    have all : ∀ m ∈ values.map Matcher.host, decide (m.name = "Host") = true := by
      simp [Matcher.host]
    rw [read, Option.getD_some, List.filter_eq_self.mpr all, List.map_map]
    exact iff_of_eq (congrArg (host ∈ ·) (List.map_id values))

/-- The values of plain domains are the domains. -/
theorem RuleReader.hosts_plain (reader : RuleReader) {domains : List String}
    (plain : ∀ d ∈ domains, Plain d) (some : domains ≠ []) {host : String} :
    host ∈ reader.hosts (hostRule domains) ↔ host ∈ domains :=
  reader.spelled (clean_rule plain) (rules_read some plain) host

example (reader : RuleReader) :
    "shop.example" ∈ reader.hosts (hostRule ["web.example", "a`) || Host(`shop.example"]) :=
  (@reader.spelled _ ["web.example", "a", "shop.example"] (List.all_eq_true.mp (by decide))
    (by decide) _).mpr (by decide)

end Nixway.Agent.RouteText
