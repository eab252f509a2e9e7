/-
# Dns.Cloudflare -- one record per platform domain

`EnsureRecord` and `DeleteRecord` of `internal/dns/cloudflare.go` over the A records of a
zone, one atomic step per request of the API, which admits several records of one name.
EnsureRecord finds a record and then creates one or overwrites the one found; the deploys
of an app run it once per replica, beside each other.

Nothing deletes while the calls run, so the number of records of a name only grows, by
one with every POST.  With at most one record at the start, exactly one is left when all
calls are through exactly when every POST runs while there is none (`one_record_iff`).
-/
import Nixway.Theory.Pool
import Nixway.Theory.Table

namespace Nixway.Dns

open Nixway.Theory
open Nixway.Theory.Prog (query exec)

set_option autoImplicit false

/-! ## The zone -/

structure DnsRecord where
  id : Nat
  name : String
  content : String
  proxied : Bool

instance : Keyed DnsRecord Nat := ⟨DnsRecord.id⟩

def DnsRecord.overwrite (name content : String) (proxied : Bool) (r : DnsRecord) : DnsRecord :=
  ⟨r.id, name, content, proxied⟩

/-- The A records of the zone; `nextID` has not been given to any of them. -/
structure Zone where
  records : Table DnsRecord := .empty
  nextID : Nat := 0
  below : ∀ r ∈ records, r.id < nextID := by decide

namespace Zone

/-- The records of a name, in the order the API lists them. -/
def named (z : Zone) (name : String) : List DnsRecord :=
  z.records.rows.filter fun r => r.name = name

def findRecord (z : Zone) (name : String) : Option DnsRecord := (z.named name).head?

def post (z : Zone) (name content : String) (proxied : Bool) : Zone where
  records :=
    { rows := ⟨z.nextID, name, content, proxied⟩ :: z.records.rows
      unique := by
        rw [List.map_cons, List.nodup_cons]
        refine ⟨fun taken => ?_, z.records.unique⟩
        obtain ⟨r, mem, same⟩ := List.mem_map.mp taken
        exact absurd (z.below r mem) (by rw [show r.id = z.nextID from same]; exact Nat.lt_irrefl _) }
  nextID := z.nextID + 1
  below := by
    intro r mem
    rcases List.mem_cons.mp mem with rfl | old
    · exact Nat.lt_succ_self _
    · exact Nat.lt_succ_of_lt (z.below r old)

/-- An id that is not there is an error of the API and changes nothing. -/
def put (z : Zone) (id : Nat) (name content : String) (proxied : Bool) : Zone where
  records := z.records.update id (DnsRecord.overwrite name content proxied)
  nextID := z.nextID
  below := by
    intro r mem
    obtain ⟨old, stored, rfl⟩ :=
      (Table.mem_update (f := DnsRecord.overwrite name content proxied) fun _ => rfl).mp mem
    split
    · exact z.below old stored
    · exact z.below old stored

def delete (z : Zone) (id : Nat) : Zone where
  records := z.records.deleteWhere fun r => Keyed.key r = id
  nextID := z.nextID
  below := fun r mem => z.below r (Table.mem_deleteWhere.mp mem).1

end Zone

/-! ## The calls -/

def ensureRecord (name ip : String) (proxied : Bool) : Prog Zone Unit := do
  match ← query fun z => z.findRecord name with
  | none => exec fun z => z.post name ip proxied
  | some existing =>
    if existing.content = ip ∧ existing.proxied = proxied then return
    else exec fun z => z.put existing.id name ip proxied

def deleteRecord (name : String) : Prog Zone Unit := do
  match ← query fun z => z.findRecord name with
  | none => return
  | some existing => exec fun z => z.delete existing.id

structure Ensure where
  name : String
  ip : String
  proxied : Bool

inductive Stage where
  | find
  | post
  | put (id : Nat)
  | halt
deriving DecidableEq

namespace Stage

def code (e : Ensure) : Stage → Prog Zone Unit
  | .find => ensureRecord e.name e.ip e.proxied
  | .post => exec fun z => z.post e.name e.ip e.proxied
  | .put id => exec fun z => z.put id e.name e.ip e.proxied
  | .halt => return

def afterFind (e : Ensure) (z : Zone) : Stage :=
  match z.findRecord e.name with
  | none => .post
  | some existing =>
    if existing.content = e.ip ∧ existing.proxied = e.proxied then .halt else .put existing.id

def act (e : Ensure) : Stage → Option ((Zone → Zone) × (Zone → Stage))
  | .find => some (id, afterFind e)
  | .post => some (fun z => z.post e.name e.ip e.proxied, fun _ => .halt)
  | .put id => some (fun z => z.put id e.name e.ip e.proxied, fun _ => .halt)
  | .halt => none

theorem presents (e : Ensure) : (⟨Stage.act e⟩ : Flow Zone Stage).Presents (Stage.code e) where
  halted k here := by
    cases k with
    | halt => rfl
    | _ => cases here
  moves k effect next here := by
    cases k with
    | halt => cases here
    | post => cases here; rfl
    | put id => cases here; rfl
    | find =>
      cases here
      refine Prog.step_congr fun z => ?_
      unfold afterFind
      beta_reduce
      cases z.findRecord e.name with
      | none => rfl
      | some existing =>
        show (if existing.content = e.ip ∧ existing.proxied = e.proxied then _ else _) =
          code e (if existing.content = e.ip ∧ existing.proxied = e.proxied then _ else _)
        split
        · rfl
        · rfl

end Stage

def dnsFlow : Flow Zone (Ensure × Stage) := Flow.indexed fun e => ⟨Stage.act e⟩

def dnsStart (z : Zone) (calls : List Ensure) : Zone × List (Ensure × Stage) :=
  (z, calls.map fun e => (e, .find))

def dnsRun (z : Zone) (calls : List Ensure) (schedule : List Nat) : Zone × List (Ensure × Stage) :=
  dnsFlow.run (fun _ _ => []) (dnsStart z calls) schedule

/-- **The stages run the calls.** -/
theorem dnsRun_eq (z : Zone) (calls : List Ensure) (schedule : List Nat) :
    (⟨z, calls.map fun e => ensureRecord e.name e.ip e.proxied⟩ : Pool Zone).run Pool.noSpawn
        schedule = Flow.pool (fun k => k.2.code k.1) (dnsRun z calls schedule) := by
  have coded := Flow.run_coded_noSpawn (Flow.indexed_presents Stage.presents)
    (dnsStart z calls) schedule
  rw [Flow.pool, dnsStart, List.map_map] at coded
  exact coded

/-! ## What the requests do to the records of a name -/

namespace Zone

variable {z : Zone} {name : String}

theorem mem_named {r : DnsRecord} : r ∈ z.named name ↔ r ∈ z.records ∧ r.name = name := by
  simp [named, Table.mem_def]

theorem named_post (n content : String) (proxied : Bool) :
    (z.post n content proxied).named name =
      (if n = name then [⟨z.nextID, n, content, proxied⟩] else []) ++ z.named name := by
  unfold named post
  by_cases same : n = name
  · simp [same]
  · simp [same]

theorem length_named_put {id : Nat} {n content : String} {proxied : Bool}
    (held : ∃ r ∈ z.records, r.id = id ∧ r.name = n) :
    ((z.put id n content proxied).named name).length = (z.named name).length := by
  obtain ⟨r, stored, rfl, rfl⟩ := held
  have found : z.records.find? r.id = some r := Table.find?_self stored
  have counted := Table.countP_update (f := DnsRecord.overwrite r.name content proxied)
    (fun _ => rfl) found (fun r => r.name = name)
  unfold named put
  rw [← List.countP_eq_length_filter, ← List.countP_eq_length_filter]
  exact Nat.add_right_cancel counted

theorem mem_put {id : Nat} {n content : String} {proxied : Bool} {r : DnsRecord} :
    r ∈ (z.put id n content proxied).records ↔
      ∃ old ∈ z.records, (if old.id = id then old.overwrite n content proxied else old) = r :=
  Table.mem_update (f := DnsRecord.overwrite n content proxied) fun _ => rfl

theorem named_delete (id : Nat) :
    (z.delete id).named name = (z.named name).filter fun r => !decide (r.id = id) := by
  unfold named delete Table.deleteWhere
  rw [List.filter_filter, List.filter_filter]
  congr 1
  funext r
  exact Bool.and_comm _ _

theorem findRecord_some {r : DnsRecord} (found : z.findRecord name = some r) :
    r ∈ z.records ∧ r.name = name :=
  mem_named.mp (List.mem_of_head? found)

theorem named_deleteRecord (z : Zone) (name : String) :
    ((deleteRecord name).out z).named name = (z.named name).tail := by
  show ((match z.findRecord name with
    | none => return
    | some existing => exec fun z => z.delete existing.id : Prog Zone Unit).out z).named name = _
  unfold findRecord
  cases listed : z.named name with
  | nil => exact listed
  | cons r rest =>
    show (z.delete r.id).named name = _
    have distinct : ((z.named name).map DnsRecord.id).Nodup :=
      z.records.unique.sublist (List.filter_sublist.map DnsRecord.id)
    rw [listed, List.map_cons, List.nodup_cons] at distinct
    rw [named_delete, listed, List.filter_cons_of_neg (by simp), List.tail_cons,
      List.filter_eq_self]
    intro other mem
    have apart : other.id ≠ r.id := fun same => distinct.1 (same ▸ List.mem_map_of_mem mem)
    simpa using apart

theorem named_deleteRecord_ne (z : Zone) {name other : String} (apart : other ≠ name) :
    ((deleteRecord name).out z).named other = z.named other := by
  show ((match z.findRecord name with
    | none => return
    | some existing => exec fun z => z.delete existing.id : Prog Zone Unit).out z).named other = _
  cases found : z.findRecord name with
  | none => rfl
  | some existing =>
    show (z.delete existing.id).named other = _
    obtain ⟨stored, called⟩ := findRecord_some found
    rw [named_delete, List.filter_eq_self]
    intro r listed
    obtain ⟨mem, named⟩ := mem_named.mp listed
    have distinct : r.id ≠ existing.id := by
      intro same
      have self : r = existing := Table.eq_of_key_eq mem stored same
      exact apart (named.symm.trans ((congrArg DnsRecord.name self).trans called))
    simpa using distinct

theorem named_put_ne {existing : DnsRecord} (stored : existing ∈ z.records) {other content : String}
    {proxied : Bool} (apart : other ≠ existing.name) :
    (z.put existing.id existing.name content proxied).named other = z.named other := by
  have rows : ∀ rs : List DnsRecord, (∀ r ∈ rs, r ∈ z.records) →
      (rs.map fun r => if Keyed.key r = existing.id then
        r.overwrite existing.name content proxied else r).filter (fun r => r.name = other) =
          rs.filter fun r => r.name = other := by
    intro rs members
    induction rs with
    | nil => rfl
    | cons r rest ih =>
      have tail := ih fun r' mem => members r' (List.mem_cons_of_mem r mem)
      rw [List.map_cons]
      by_cases hit : Keyed.key r = existing.id
      · have self : r = existing :=
          Table.eq_of_key_eq (members r List.mem_cons_self) stored hit
        have renamed : ¬ decide ((r.overwrite existing.name content proxied).name = other) =
            true := fun same => apart (of_decide_eq_true same).symm
        have unlisted : ¬ decide (r.name = other) = true := fun same =>
          apart ((of_decide_eq_true same).symm.trans (congrArg DnsRecord.name self))
        rw [if_pos hit, List.filter_cons, List.filter_cons, if_neg renamed, if_neg unlisted, tail]
      · rw [if_neg hit, List.filter_cons, List.filter_cons, tail]
  have whole := rows z.records.rows fun r mem => mem
  simpa [named, put, Table.update, Table.updateWhere] using whole

theorem named_ensureRecord_ne (z : Zone) {name other : String} (ip : String) (proxied : Bool)
    (apart : other ≠ name) : ((ensureRecord name ip proxied).out z).named other = z.named other := by
  unfold Prog.out ensureRecord
  rw [Prog.run_query_bind]
  cases found : z.findRecord name with
  | none =>
    show (z.post name ip proxied).named other = _
    rw [named_post, if_neg (Ne.symm apart), List.nil_append]
  | some existing =>
    obtain ⟨stored, rfl⟩ := findRecord_some found
    dsimp only
    split
    · rfl
    · exact named_put_ne stored apart

end Zone

/-! ## Runs -/

section Runs

variable {name : String} {c : Zone × List (Ensure × Stage)} {i : Nat}

/-- A POST for the name runs only while there is no record of it. -/
def SolePost (name : String) (c : Zone × List (Ensure × Stage)) (i : Nat) : Prop :=
  ∀ thread ∈ c.2[i]?, thread.2 = .post → thread.1.name = name → c.1.named name = []

/-- A record about to be overwritten is there, under the name of the call. -/
def Anchored (c : Zone × List (Ensure × Stage)) : Prop :=
  ∀ e id, (e, Stage.put id) ∈ c.2 → ∃ r ∈ c.1.records, r.id = id ∧ r.name = e.name

/-- What a pick does: nothing, a search, or one request that writes. -/
theorem dnsFlow_step (c : Zone × List (Ensure × Stage)) (i : Nat) :
    (dnsFlow.advance (fun _ _ => []) c i = c ∧ ∀ thread ∈ c.2[i]?, thread.2 = .halt) ∨
    ∃ e stage, c.2[i]? = some (e, stage) ∧
      ((stage = .find ∧ dnsFlow.advance (fun _ _ => []) c i =
          (c.1, c.2.set i (e, Stage.afterFind e c.1))) ∨
        (stage = .post ∧ dnsFlow.advance (fun _ _ => []) c i =
          (c.1.post e.name e.ip e.proxied, c.2.set i (e, .halt))) ∨
        ∃ id, stage = .put id ∧ dnsFlow.advance (fun _ _ => []) c i =
          (c.1.put id e.name e.ip e.proxied, c.2.set i (e, .halt))) := by
  unfold Flow.advance
  cases here : c.2[i]? with
  | none => exact .inl ⟨rfl, by simp⟩
  | some thread =>
    obtain ⟨e, stage⟩ := thread
    cases stage with
    | halt => exact .inl ⟨rfl, by simp⟩
    | find =>
      exact .inr ⟨e, .find, rfl, .inl ⟨rfl, congrArg (Prod.mk _) (List.append_nil _)⟩⟩
    | post =>
      exact .inr ⟨e, .post, rfl, .inr (.inl ⟨rfl, congrArg (Prod.mk _) (List.append_nil _)⟩)⟩
    | put id =>
      exact .inr ⟨e, .put id, rfl,
        .inr (.inr ⟨id, rfl, congrArg (Prod.mk _) (List.append_nil _)⟩)⟩

/-- The records stay, under their names. -/
def Grows (z z' : Zone) : Prop :=
  ∀ r ∈ z.records, ∃ r' ∈ z'.records, r'.id = r.id ∧ r'.name = r.name

theorem Anchored.grow {z' : Zone} {threads : List (Ensure × Stage)} (anchored : Anchored c)
    (grows : Grows c.1 z')
    (old : ∀ e id, (e, Stage.put id) ∈ threads →
      (e, Stage.put id) ∈ c.2 ∨ ∃ r ∈ c.1.records, r.id = id ∧ r.name = e.name) :
    Anchored (z', threads) := by
  intro e id mem
  have held : ∃ r ∈ c.1.records, r.id = id ∧ r.name = e.name := by
    rcases old e id mem with before | held
    · exact anchored e id before
    · exact held
  obtain ⟨r, stored, rfl, named⟩ := held
  obtain ⟨r', stored', same, kept⟩ := grows r stored
  exact ⟨r', stored', same, kept.trans named⟩

theorem grows_post (z : Zone) (n content : String) (proxied : Bool) :
    Grows z (z.post n content proxied) :=
  fun r stored => ⟨r, List.mem_cons_of_mem _ stored, rfl, rfl⟩

theorem grows_put {z : Zone} {id : Nat} {n content : String} {proxied : Bool}
    (held : ∃ r ∈ z.records, r.id = id ∧ r.name = n) : Grows z (z.put id n content proxied) := by
  intro r stored
  refine ⟨_, Zone.mem_put.mpr ⟨r, stored, rfl⟩, ?_⟩
  obtain ⟨target, there, rfl, rfl⟩ := held
  split
  · next same =>
    have self : r = target := Table.eq_of_key_eq stored there same
    rw [self]
    exact ⟨rfl, rfl⟩
  · exact ⟨rfl, rfl⟩

theorem Anchored.step (anchored : Anchored c) (i : Nat) :
    Anchored (dnsFlow.advance (fun _ _ => []) c i) := by
  obtain ⟨same, -⟩ | ⟨e, stage, here, ⟨rfl, moved⟩ | ⟨rfl, moved⟩ | ⟨id, rfl, moved⟩⟩ :=
    dnsFlow_step c i
  · rw [same]
    exact anchored
  · rw [moved]
    refine anchored.grow (fun r stored => ⟨r, stored, rfl, rfl⟩) fun e' id mem => ?_
    rcases List.mem_or_eq_of_mem_set mem with old | new
    · exact .inl old
    · -- the search found the record it will overwrite
      obtain ⟨rfl, target⟩ := Prod.mk.inj new
      refine .inr ?_
      unfold Stage.afterFind at target
      cases found : c.1.findRecord e'.name with
      | none =>
        rw [found] at target
        cases target
      | some r =>
        rw [found] at target
        dsimp only at target
        split at target
        · cases target
        · cases target
          obtain ⟨stored, named⟩ := Zone.findRecord_some found
          exact ⟨r, stored, rfl, named⟩
  · rw [moved]
    refine anchored.grow (grows_post _ _ _ _) fun e' id mem => ?_
    rcases List.mem_or_eq_of_mem_set mem with old | new
    · exact .inl old
    · cases new
  · rw [moved]
    refine anchored.grow (grows_put (anchored e id (List.mem_of_getElem? here))) fun e' id' mem => ?_
    rcases List.mem_or_eq_of_mem_set mem with old | new
    · exact .inl old
    · cases new

/-- The thread is about to POST the name. -/
def posting (name : String) (thread : Ensure × Stage) : Bool :=
  thread.2 = .post && thread.1.name = name

/-- **A step adds one record of a name exactly when it POSTs the name.** -/
theorem length_named_step (name : String) (anchored : Anchored c) (i : Nat) :
    ((dnsFlow.advance (fun _ _ => []) c i).1.named name).length =
      (c.1.named name).length + ((c.2[i]?).any (posting name)).toNat := by
  obtain ⟨same, halt⟩ | ⟨e, stage, here, ⟨rfl, moved⟩ | ⟨rfl, moved⟩ | ⟨id, rfl, moved⟩⟩ :=
    dnsFlow_step c i
  · rw [same]
    cases here : c.2[i]? with
    | none => rfl
    | some thread => simp [posting, halt thread here]
  · rw [moved, here]
    rfl
  · rw [moved, here]
    show ((c.1.post _ _ _).named name).length = _
    rw [Zone.named_post, List.length_append]
    by_cases same : e.name = name
    · simp [posting, same, Nat.add_comm]
    · simp [posting, same]
  · rw [moved, here]
    exact Zone.length_named_put (anchored e id (List.mem_of_getElem? here))

/-! ## What the calls leave -/

/-- A record of the name carries an address that a call asked for. -/
def Served (calls : List Ensure) (name : String) (z : Zone) : Prop :=
  ∃ r ∈ z.records, r.name = name ∧ ∃ e ∈ calls, e.name = name ∧ r.content = e.ip

/-- The threads are the calls, each at its stage, and a call for the name that is over has
left a record of it. -/
structure Settled (calls : List Ensure) (name : String) (c : Zone × List (Ensure × Stage)) :
    Prop where
  marks : c.2.map Prod.fst = calls
  served : ∀ e, (e, Stage.halt) ∈ c.2 → e.name = name → Served calls name c.1

theorem served_put {calls : List Ensure} {z : Zone} {e : Ensure} {id : Nat}
    (served : Served calls name z) (mem : e ∈ calls)
    (held : ∃ r ∈ z.records, r.id = id ∧ r.name = e.name) :
    Served calls name (z.put id e.name e.ip e.proxied) := by
  obtain ⟨r, stored, named, asked⟩ := served
  obtain ⟨target, there, rfl, own⟩ := held
  by_cases same : r.id = target.id
  · -- the record itself is overwritten, with the address of this call
    have self : r = target := Table.eq_of_key_eq stored there same
    subst self
    refine ⟨r.overwrite e.name e.ip e.proxied, Zone.mem_put.mpr ⟨r, stored, if_pos rfl⟩, ?_⟩
    exact ⟨own ▸ named, e, mem, own ▸ named, rfl⟩
  · exact ⟨r, Zone.mem_put.mpr ⟨r, stored, if_neg same⟩, named, asked⟩

theorem served_overwritten {calls : List Ensure} {z : Zone} {e : Ensure} {id : Nat}
    (mem : e ∈ calls) (held : ∃ r ∈ z.records, r.id = id ∧ r.name = e.name) :
    Served calls e.name (z.put id e.name e.ip e.proxied) := by
  obtain ⟨target, there, rfl, -⟩ := held
  exact ⟨target.overwrite e.name e.ip e.proxied,
    Zone.mem_put.mpr ⟨target, there, if_pos rfl⟩, rfl, e, mem, rfl, rfl⟩

theorem served_post {calls : List Ensure} {z : Zone} {n content : String} {proxied : Bool}
    (served : Served calls name z) : Served calls name (z.post n content proxied) := by
  obtain ⟨r, stored, asked⟩ := served
  exact ⟨r, List.mem_cons_of_mem _ stored, asked⟩

theorem map_fst_set {e : Ensure} {stage : Stage} (here : c.2[i]? = some (e, stage))
    (next : Stage) : (c.2.set i (e, next)).map Prod.fst = c.2.map Prod.fst := by
  obtain ⟨bound, value⟩ := List.getElem?_eq_some_iff.mp here
  rw [List.map_set]
  refine List.ext_getElem? fun j => ?_
  by_cases same : i = j
  · subst same
    rw [List.getElem?_set_self (by simpa using bound), List.getElem?_map, here]
    rfl
  · rw [List.getElem?_set_ne same]

theorem Settled.step {calls : List Ensure} (settled : Settled calls name c)
    (anchored : Anchored c) (i : Nat) :
    Settled calls name (dnsFlow.advance (fun _ _ => []) c i) := by
  obtain ⟨same, -⟩ | ⟨e, stage, here, ⟨rfl, moved⟩ | ⟨rfl, moved⟩ | ⟨id, rfl, moved⟩⟩ :=
    dnsFlow_step c i
  · rw [same]
    exact settled
  all_goals
    have mem : e ∈ calls :=
      settled.marks ▸ List.mem_map_of_mem (f := Prod.fst) (List.mem_of_getElem? here)
    rw [moved]
    refine ⟨(map_fst_set here _).trans settled.marks, fun e' halt own => ?_⟩
  · -- a search ends the call only if the record found is what it asks for
    rcases List.mem_or_eq_of_mem_set halt with old | new
    · exact settled.served e' old own
    · obtain ⟨rfl, ended⟩ := Prod.mk.inj new
      unfold Stage.afterFind at ended
      cases found : c.1.findRecord e'.name with
      | none =>
        rw [found] at ended
        cases ended
      | some r =>
        rw [found] at ended
        dsimp only at ended
        split at ended
        · next correct =>
          obtain ⟨stored, named⟩ := Zone.findRecord_some found
          exact ⟨r, stored, named.trans own, e', mem, own, correct.1⟩
        · cases ended
  · rcases List.mem_or_eq_of_mem_set halt with old | new
    · exact served_post (settled.served e' old own)
    · obtain ⟨rfl, -⟩ := Prod.mk.inj new
      exact ⟨_, List.mem_cons_self, own, e', mem, own, rfl⟩
  · have held := anchored e id (List.mem_of_getElem? here)
    rcases List.mem_or_eq_of_mem_set halt with old | new
    · exact served_put (settled.served e' old own) mem held
    · obtain ⟨rfl, -⟩ := Prod.mk.inj new
      subst own
      exact served_overwritten mem held

theorem anchored_start (z : Zone) (calls : List Ensure) : Anchored (dnsStart z calls) := by
  intro e id mem
  obtain ⟨call, -, same⟩ := List.mem_map.mp mem
  cases same

theorem settled_start (name : String) (z : Zone) (calls : List Ensure) :
    Settled calls name (dnsStart z calls) where
  marks := by simp [dnsStart, Function.comp_def]
  served := by
    intro e mem
    obtain ⟨call, -, same⟩ := List.mem_map.mp mem
    cases same

theorem anchored_run (z : Zone) (calls : List Ensure) (schedule : List Nat) :
    Anchored (dnsRun z calls schedule) :=
  Flow.run_invariant (I := Anchored) (fun _ i held => held.step i) (anchored_start z calls) schedule

theorem settled_run (name : String) (z : Zone) (calls : List Ensure) (schedule : List Nat) :
    Settled calls name (dnsRun z calls schedule) :=
  (Flow.run_invariant (I := fun c => Anchored c ∧ Settled calls name c)
    (fun _ i held => ⟨held.1.step i, held.2.step held.1 i⟩)
    ⟨anchored_start z calls, settled_start name z calls⟩ schedule).2

/-- The records of a name never get fewer. -/
theorem length_named_le_run (anchored : Anchored c) (schedule : List Nat) :
    (c.1.named name).length ≤ ((dnsFlow.run (fun _ _ => []) c schedule).1.named name).length := by
  refine (Flow.run_invariant (I := fun d => Anchored d ∧
    (c.1.named name).length ≤ (d.1.named name).length) (fun d i held => ?_)
    ⟨anchored, Nat.le_refl _⟩ schedule).2
  refine ⟨held.1.step i, ?_⟩
  rw [length_named_step name held.1]
  exact Nat.le_trans held.2 (Nat.le_add_right _ _)

/-- A step keeps at most one record of the name exactly when it POSTs over none. -/
theorem lone_step_iff (anchored : Anchored c) (lone : (c.1.named name).length ≤ 1) (i : Nat) :
    ((dnsFlow.advance (fun _ _ => []) c i).1.named name).length ≤ 1 ↔ SolePost name c i := by
  rw [length_named_step name anchored]
  unfold SolePost
  cases here : c.2[i]? with
  | none => simpa using lone
  | some thread =>
    cases post : posting name thread with
    | false =>
      refine ⟨fun _ other same first second => ?_, fun _ => by simpa [post] using lone⟩
      cases same
      simp [posting, first, second] at post
    | true =>
      have own : thread.2 = .post ∧ thread.1.name = name := by simpa [posting] using post
      rw [Option.any_some, post, ← List.length_eq_zero_iff]
      refine ⟨fun few _ _ _ _ => by simpa using few, fun none => ?_⟩
      simp [none thread rfl own.1 own.2]

/-- **At most one record is left exactly when there was at most one and every POST ran
while there was none.** -/
theorem lone_run_iff (name : String) (z : Zone) (calls : List Ensure) (schedule : List Nat) :
    ((dnsRun z calls schedule).1.named name).length ≤ 1 ↔
      (z.named name).length ≤ 1 ∧
        dnsFlow.Along (fun _ _ => []) (SolePost name) (dnsStart z calls) schedule := by
  have kept : ∀ c i, Anchored c ∧ (c.1.named name).length ≤ 1 →
      ((Anchored (dnsFlow.advance (fun _ _ => []) c i) ∧
          ((dnsFlow.advance (fun _ _ => []) c i).1.named name).length ≤ 1) ↔ SolePost name c i) :=
    fun c i held => ⟨fun after => (lone_step_iff held.1 held.2 i).mp after.2,
      fun sole => ⟨held.1.step i, (lone_step_iff held.1 held.2 i).mpr sole⟩⟩
  have throughout := fun lone : (z.named name).length ≤ 1 =>
    Flow.along_iff_throughout (I := fun c => Anchored c ∧ (c.1.named name).length ≤ 1) kept
      (c := dnsStart z calls) ⟨anchored_start z calls, lone⟩ schedule
  constructor
  · intro few
    have lone := Nat.le_trans (length_named_le_run (anchored_start z calls) schedule) few
    refine ⟨lone, (throughout lone).mp ?_⟩
    rintro earlier ⟨later, rfl⟩
    have anchored := anchored_run z calls earlier
    refine ⟨anchored, Nat.le_trans (length_named_le_run anchored later) ?_⟩
    have joined : dnsFlow.run (fun _ _ => []) (dnsRun z calls earlier) later =
        dnsRun z calls (earlier ++ later) := (Flow.run_append _ _ _).symm
    rw [joined]
    exact few
  · rintro ⟨lone, along⟩
    exact ((throughout lone).mpr along schedule List.prefix_rfl).2

/-! ## Calls in turn -/

/-- A call for the name searches only while no other call is about to POST it. -/
def InTurn (name : String) (c : Zone × List (Ensure × Stage)) (i : Nat) : Prop :=
  ∀ thread ∈ c.2[i]?, thread.2 = .find → thread.1.name = name →
    ∀ other ∈ c.2, other.2 = .post → other.1.name ≠ name

instance (name : String) (c : Zone × List (Ensure × Stage)) (i : Nat) :
    Decidable (InTurn name c i) :=
  inferInstanceAs (Decidable (∀ _ ∈ c.2[i]?, _))

/-- At most one call is about to POST the name, and then there is no record of it. -/
structure Fresh (name : String) (c : Zone × List (Ensure × Stage)) : Prop where
  alone : c.2.countP (posting name) ≤ 1
  absent : 0 < c.2.countP (posting name) → c.1.named name = []

theorem Fresh.sole (fresh : Fresh name c) (i : Nat) : SolePost name c i := by
  rintro thread here post own
  refine fresh.absent (List.countP_pos_iff.mpr ⟨thread, List.mem_of_getElem? here, ?_⟩)
  simp [posting, post, own]

theorem Fresh.keep {d : Zone × List (Ensure × Stage)} (fresh : Fresh name c)
    (count : d.2.countP (posting name) = c.2.countP (posting name))
    (length : (d.1.named name).length = (c.1.named name).length) : Fresh name d where
  alone := count ▸ fresh.alone
  absent := by
    intro about
    rw [← List.length_eq_zero_iff, length, fresh.absent (count ▸ about)]
    rfl

theorem Fresh.step (fresh : Fresh name c) (anchored : Anchored c) (turn : InTurn name c i) :
    Fresh name (dnsFlow.advance (fun _ _ => []) c i) := by
  have length := length_named_step name anchored i
  obtain ⟨same, -⟩ | ⟨e, stage, here, step⟩ := dnsFlow_step c i
  · rw [same]
    exact fresh
  rw [here, Option.any_some] at length
  have count := fun new => countP_set (posting name) here (e, new)
  rcases step with ⟨rfl, moved⟩ | ⟨rfl, moved⟩ | ⟨id, rfl, moved⟩
  · rw [moved]
    have searched := count (Stage.afterFind e c.1)
    cases next : posting name (e, Stage.afterFind e c.1) with
    | false =>
      rw [next] at searched
      exact fresh.keep searched rfl
    | true =>
      -- the search found nothing, and nobody else is about to POST
      obtain ⟨post, own⟩ : Stage.afterFind e c.1 = .post ∧ e.name = name := by
        simpa [posting] using next
      have none : c.2.countP (posting name) = 0 := by
        refine List.countP_eq_zero.mpr fun other mem about => ?_
        have theirs : other.2 = .post ∧ other.1.name = name := by simpa [posting] using about
        exact turn (e, .find) here rfl own other mem theirs.1 theirs.2
      rw [next, none] at searched
      refine ⟨Nat.le_of_eq searched, fun _ => ?_⟩
      cases found : c.1.findRecord e.name with
      | none =>
        rw [Zone.findRecord, own, List.head?_eq_none_iff] at found
        exact found
      | some r =>
        rw [Stage.afterFind, found] at post
        dsimp only at post
        split at post
        · cases post
        · cases post
  · have posted := count .halt
    cases own : posting name (e, .post) with
    | false =>
      rw [own] at posted length
      rw [moved] at length ⊢
      exact fresh.keep posted length
    | true =>
      rw [own] at posted
      have less : (c.2.set i (e, .halt)).countP (posting name) + 1 = c.2.countP (posting name) :=
        posted
      have alone := fresh.alone
      rw [moved]
      refine ⟨by show List.countP _ (c.2.set i (e, .halt)) ≤ 1; omega, fun about => ?_⟩
      have about : 0 < (c.2.set i (e, .halt)).countP (posting name) := about
      omega
  · rw [moved] at length ⊢
    exact fresh.keep (count .halt) length

theorem sole_of_inTurn (name : String) (z : Zone) (calls : List Ensure) (schedule : List Nat)
    (turns : dnsFlow.Along (fun _ _ => []) (InTurn name) (dnsStart z calls) schedule) :
    dnsFlow.Along (fun _ _ => []) (SolePost name) (dnsStart z calls) schedule := by
  refine Flow.Along.of_invariant (I := fun c => Anchored c ∧ Fresh name c)
    (fun c i turn held => ⟨held.2.sole i, held.1.step i, held.2.step held.1 turn⟩) turns
    ⟨anchored_start z calls, ?_⟩
  have idle : (dnsStart z calls).2.countP (posting name) = 0 := by
    refine List.countP_eq_zero.mpr fun thread mem => ?_
    obtain ⟨call, -, rfl⟩ := List.mem_map.mp mem
    simp [posting]
  exact ⟨idle ▸ Nat.zero_le 1, fun some => absurd (idle ▸ some) (Nat.lt_irrefl 0)⟩

end Runs

/-! ## One record -/

def ensurePool (z : Zone) (calls : List Ensure) : Pool Zone :=
  ⟨z, calls.map fun e => ensureRecord e.name e.ip e.proxied⟩

/-- One record of the name, with an address asked for, which `DeleteRecord` takes away. -/
def OneRecord (calls : List Ensure) (name : String) (z : Zone) : Prop :=
  (∃ r, z.named name = [r] ∧ ∃ e ∈ calls, e.name = name ∧ r.content = e.ip) ∧
    ((deleteRecord name).out z).named name = []

/-- **When one record per platform domain is left.**  For every zone, every list of calls with
one for the name and every interleaving that ends them all: one record of the name is left,
with an address asked for, and deleted by `DeleteRecord`, exactly when there was at most one
and every POST of the name ran while there was none.  Calls that search only while no other
is about to POST do that. -/
theorem one_record_iff (z : Zone) (calls : List Ensure) (name : String) (schedule : List Nat)
    (asked : ∃ e ∈ calls, e.name = name)
    (quiet : ((ensurePool z calls).run Pool.noSpawn schedule).Finished) :
    (OneRecord calls name ((ensurePool z calls).run Pool.noSpawn schedule).store ↔
        (z.named name).length ≤ 1 ∧
          dnsFlow.Along (fun _ _ => []) (SolePost name) (dnsStart z calls) schedule) ∧
      (dnsFlow.Along (fun _ _ => []) (InTurn name) (dnsStart z calls) schedule →
        dnsFlow.Along (fun _ _ => []) (SolePost name) (dnsStart z calls) schedule) := by
  refine ⟨?_, sole_of_inTurn name z calls schedule⟩
  have coded := dnsRun_eq z calls schedule
  rw [ensurePool, coded] at quiet ⊢
  have settled := settled_run name z calls schedule
  have halt : ∀ k ∈ (dnsRun z calls schedule).2, k.2 = .halt := by
    intro k mem
    have halted := (Flow.finished_coded (Flow.indexed_presents Stage.presents) _).mp quiet k mem
    obtain ⟨e, stage⟩ := k
    cases stage with
    | halt => rfl
    | _ => cases halted
  rw [← lone_run_iff]
  constructor
  · rintro ⟨⟨r, left, -⟩, -⟩
    exact Nat.le_of_eq (congrArg List.length left)
  · intro few
    obtain ⟨e, mem, own⟩ := asked
    obtain ⟨⟨e', stage⟩, thread, rfl⟩ := List.mem_map.mp (settled.marks ▸ mem)
    obtain rfl : stage = .halt := halt _ thread
    obtain ⟨r, stored, named, wanted⟩ := settled.served e' thread own
    have listed : r ∈ (dnsRun z calls schedule).1.named name := Zone.mem_named.mpr ⟨stored, named⟩
    obtain ⟨only, left⟩ := List.length_eq_one_iff.mp
      (Nat.le_antisymm few (List.length_pos_of_mem listed))
    rw [left, List.mem_singleton] at listed
    subst listed
    refine ⟨⟨r, left, wanted⟩, ?_⟩
    rw [Zone.named_deleteRecord]
    show ((dnsRun z calls schedule).1.named name).tail = []
    rw [left]
    rfl

def replicas : List Ensure :=
  [⟨"web-shop-acme.apps.test", "10.0.0.1", false⟩, ⟨"web-shop-acme.apps.test", "10.0.0.2", false⟩]

theorem replicas_in_turn :
    OneRecord replicas "web-shop-acme.apps.test"
      ((ensurePool {} replicas).run Pool.noSpawn [0, 0, 1, 1]).store := by
  obtain ⟨left, sole⟩ := one_record_iff {} replicas "web-shop-acme.apps.test" [0, 0, 1, 1]
    ⟨_, List.mem_cons_self, rfl⟩ (by decide +kernel)
  exact left.mpr ⟨by decide +kernel, sole (by decide +kernel)⟩

/-- Both replicas find no record before either POSTs. -/
theorem two_records_of_one_name :
    ((ensurePool {} replicas).run Pool.noSpawn [0, 1, 0, 1]).Finished ∧
      (((ensurePool {} replicas).run Pool.noSpawn [0, 1, 0, 1]).store.named
        "web-shop-acme.apps.test").length = 2 ∧
      ¬ OneRecord replicas "web-shop-acme.apps.test"
          ((ensurePool {} replicas).run Pool.noSpawn [0, 1, 0, 1]).store := by
  refine ⟨by decide +kernel, by decide +kernel, fun once => ?_⟩
  obtain ⟨-, gone⟩ := once
  exact absurd gone (by decide +kernel)

end Nixway.Dns
