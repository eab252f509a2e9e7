/-
# Cluster.Networks -- the networks of the clusters

`NewCIDRAllocator` and `AllocateClusterCIDR` of `internal/cluster/cidr.go`.  The loop counts up the
second byte of the pool string's own address and gives up where that byte comes back to zero, without
a carry into the first one; the candidate is the address as it stands, with a mask of 16 bits.

`Suits` is what a pool has to be like for this to be a partition into networks of 16 bits.
-/
import Nixway.Cluster.Addresses

namespace Nixway.Cluster

open Nixway.Theory
open Nixway.Theory.Octets (Octet value)
open Nixway.Theory.FirstFree (Walk Path)
open Nixway.Theory.Text (isDigit digitsValue)
open Nixway.Cluster.Mesh (addrString addrString_inj)

set_option autoImplicit false

/-! ## Pool strings -/

/-- A number of an address: digits without a leading zero, up to 255. -/
def parseOctet (digits : List Char) : Option Octet :=
  if digits ≠ [] ∧ digits.all isDigit ∧ (digits.head? = some '0' → digits = ['0']) ∧
      digitsValue digits ≤ 255 then
    some (BitVec.ofNat 8 (digitsValue digits))
  else none

/-- `netip.ParseAddr` of an IPv4 address. -/
def parseAddr (text : List Char) : Option IP :=
  match (text.splitOnP (· == '.')).map parseOctet with
  | [some a, some b, some c, some d] => some (ofOctets [a, b, c, d])
  | _ => none

/-- `dtoi`, up to the length of an IPv4 mask. -/
def parseMask (digits : List Char) : Option Nat :=
  if digits ≠ [] ∧ digits.all isDigit ∧ digitsValue digits ≤ 32 then some (digitsValue digits)
  else none

/-- `CIDRMask(ones, 32)`. -/
def cidrMask (ones : Nat) : IP := BitVec.allOnes 32 <<< (32 - ones)

/-- `net.ParseCIDR` of an IPv4 network: the address, and the network it is in. -/
def parseCIDR (text : List Char) : Option (IP × Cidr) :=
  match text.dropWhile (· ≠ '/') with
  | [] => none
  | _ :: mask =>
    match parseAddr (text.takeWhile (· ≠ '/')), parseMask mask with
    | some ip, some ones => some (ip, ⟨ip &&& cidrMask ones, ones⟩)
    | _, _ => none

/-! ## The allocator -/

structure CIDRAllocator where
  pool : Cidr
  startIP : IP
deriving DecidableEq

/-- A panic is `none`. -/
def newCIDRAllocator (poolCIDR : List Char) : Option CIDRAllocator :=
  (parseCIDR poolCIDR).map fun (ip, pool) => ⟨pool, ip⟩

/-- `IPNet.String`, which prints the address as it stands. -/
def cidrString (net : Cidr) : String := addrString net.ip ++ "/" ++ toString net.ones

/-- `ip[1]++`, and where the loop is left. -/
def nextBlock (ip : IP) : Option IP :=
  let second := ip.extractLsb' 16 8 + 1
  if second = 0 then none else some (ofOctets ((octets ip).set 1 second))

/-- A network of 16 bits at an address. -/
def candidate (ip : IP) : Cidr := ⟨ip, 16⟩

/-- The loop; the second byte can be counted up 255 times. -/
def nextFreeBlock (pool : Cidr) (usedCIDRs : List String) : Nat → IP → Option Cidr
  | 0, _ => none
  | rounds + 1, ip =>
    if pool.contains ip then
      if cidrString (candidate ip) ∈ usedCIDRs then
        match nextBlock ip with
        | none => none
        | some ip => nextFreeBlock pool usedCIDRs rounds ip
      else some (candidate ip)
    else none

def allocateClusterCIDR (a : CIDRAllocator) (usedCIDRs : List String) : Option Cidr :=
  nextFreeBlock a.pool usedCIDRs 256 a.startIP

/-! ## What is asked -/

/-- The addresses of a network. -/
def Cidr.Within (net pool : Cidr) : Prop := ∀ ip, net.contains ip = true → pool.contains ip = true

def Cidr.Overlaps (net other : Cidr) : Prop :=
  ∃ ip, net.contains ip = true ∧ other.contains ip = true

/-- The networks that clusters have, after creations and deletions in any order. -/
inductive History (a : CIDRAllocator) : List Cidr → Prop where
  | start : History a []
  | create {used : List Cidr} {net : Cidr} (before : History a used)
      (allocated : allocateClusterCIDR a (used.map cidrString) = some net) : History a (net :: used)
  | delete {used fewer : List Cidr} (before : History a used) (some : List.Sublist fewer used) :
      History a fewer

/-- A network is found, in the pool and beside the others; or all of the pool are in use from the
pool string's own address on. -/
def Partitions (a : CIDRAllocator) (used : List Cidr) : Prop :=
  match allocateClusterCIDR a (used.map cidrString) with
  | some net => Slash16 net ∧ net.Within a.pool ∧ ∀ other ∈ used, ¬ net.Overlaps other
  | none => ∀ net, Slash16 net → net.Within a.pool → a.startIP.toNat ≤ net.ip.toNat →
      ∃ other ∈ used, net.Overlaps other

/-- The addresses that the loop looks at, if it has to: they differ from the start in the second
byte, which is not lower. -/
def Candidate (a : CIDRAllocator) (ip : IP) : Prop :=
  a.pool.contains ip = true ∧ ip.toNat / 2 ^ 24 = a.startIP.toNat / 2 ^ 24 ∧
    ip.toNat % 2 ^ 16 = a.startIP.toNat % 2 ^ 16 ∧ a.startIP.toNat ≤ ip.toNat

/-- All of them are in use. -/
def Exhausted (a : CIDRAllocator) (used : List Cidr) : Prop :=
  ∀ ip, Candidate a ip → candidate ip ∈ used

/-- While there is a candidate: the start is the address of a network of 16 bits, and these go into
the pool.  When there is none: the pool has no address with a higher first byte. -/
def Suits (a : CIDRAllocator) (used : List Cidr) : Prop :=
  (¬ Exhausted a used → a.startIP.toNat % 2 ^ 16 = 0 ∧ a.pool.ones ≤ 16) ∧
    (Exhausted a used → ∀ ip, a.pool.contains ip = true → ip.toNat / 2 ^ 24 ≤ a.startIP.toNat / 2 ^ 24)

/-! ## Networks as ranges -/

theorem contains_iff_div (net : Cidr) (ip : IP) : net.contains ip = true ↔
    ip.toNat / 2 ^ (32 - net.ones) = net.ip.toNat / 2 ^ (32 - net.ones) := by
  rw [Cidr.contains, beq_iff_eq, ← BitVec.toNat_inj, BitVec.toNat_ushiftRight,
    BitVec.toNat_ushiftRight, Nat.shiftRight_eq_div_pow, Nat.shiftRight_eq_div_pow]

theorem masked_shift (ip : IP) (ones : Nat) :
    (ip &&& cidrMask ones) >>> (32 - ones) = ip >>> (32 - ones) := by
  refine BitVec.eq_of_getLsbD_eq fun i inside => ?_
  rw [BitVec.getLsbD_ushiftRight, BitVec.getLsbD_ushiftRight, BitVec.getLsbD_and, cidrMask,
    BitVec.getLsbD_shiftLeft, BitVec.getLsbD_allOnes, Nat.add_sub_cancel_left]
  by_cases low : 32 - ones + i < 32
  · simp [low, inside]
  · rw [BitVec.getLsbD_of_ge ip _ (Nat.le_of_not_lt low), Bool.false_and]

section

variable {a : CIDRAllocator}

/-- The pool is the network of the pool string's own address. -/
structure Opened (a : CIDRAllocator) : Prop where
  ones : a.pool.ones ≤ 32
  pool : a.pool.ip >>> (32 - a.pool.ones) = a.startIP >>> (32 - a.pool.ones)

theorem opened_of_new {poolCIDR : List Char} (created : newCIDRAllocator poolCIDR = some a) : Opened a := by
  obtain ⟨⟨ip, pool⟩, parsed, rfl⟩ := Option.map_eq_some_iff.mp created
  unfold parseCIDR at parsed
  split at parsed
  · cases parsed
  · next slash mask cut =>
    cases address : parseAddr (poolCIDR.takeWhile (· ≠ '/')) with
    | none => rw [address] at parsed; cases parsed
    | some ip' =>
      cases length : parseMask mask with
      | none => rw [address, length] at parsed; cases parsed
      | some ones =>
        rw [address, length] at parsed
        obtain ⟨rfl, rfl⟩ := Prod.mk.inj (Option.some.inj parsed)
        have small : ones ≤ 32 := by
          unfold parseMask at length
          obtain ⟨ok, same⟩ := Option.ite_none_right_eq_some.mp length
          exact Option.some.inj same ▸ ok.2.2
        exact ⟨small, masked_shift _ _⟩

namespace Opened

theorem contains_iff (opened : Opened a) {ip : IP} : a.pool.contains ip = true ↔
    ip.toNat / 2 ^ (32 - a.pool.ones) = a.startIP.toNat / 2 ^ (32 - a.pool.ones) := by
  have same := congrArg BitVec.toNat opened.pool
  rw [BitVec.toNat_ushiftRight, BitVec.toNat_ushiftRight, Nat.shiftRight_eq_div_pow,
    Nat.shiftRight_eq_div_pow] at same
  rw [contains_iff_div, same]

theorem between (opened : Opened a) {ip ip' : IP} (inside : a.pool.contains ip' = true)
    (low : a.startIP.toNat ≤ ip.toNat) (high : ip.toNat ≤ ip'.toNat) : a.pool.contains ip = true := by
  rw [opened.contains_iff] at inside ⊢
  have lower := @Nat.div_le_div_right _ _ (2 ^ (32 - a.pool.ones)) low
  have upper := @Nat.div_le_div_right _ _ (2 ^ (32 - a.pool.ones)) high
  omega

end Opened

/-! ## The loop -/

/-- The address with another second byte. -/
def withSecond (ip : IP) (k : Nat) : IP :=
  BitVec.ofNat 32 (ip.toNat / 2 ^ 24 * 2 ^ 24 + k * 2 ^ 16 + ip.toNat % 2 ^ 16)

theorem toNat_withSecond (ip : IP) {k : Nat} (byte : k < 256) :
    (withSecond ip k).toNat = ip.toNat / 2 ^ 24 * 2 ^ 24 + k * 2 ^ 16 + ip.toNat % 2 ^ 16 := by
  have bound := ip.isLt
  rw [withSecond, BitVec.toNat_ofNat]
  omega

theorem nextBlock_eq (ip : IP) : nextBlock ip =
    if ip.toNat / 2 ^ 16 % 256 = 255 then none
    else some (withSecond ip (ip.toNat / 2 ^ 16 % 256 + 1)) := by
  have bound := ip.isLt
  have second : (ip.extractLsb' 16 8 + 1).toNat = (ip.toNat / 2 ^ 16 % 256 + 1) % 256 := by
    rw [BitVec.toNat_add, BitVec.extractLsb'_toNat, Nat.shiftRight_eq_div_pow]
    rfl
  unfold nextBlock
  dsimp only
  by_cases last : ip.toNat / 2 ^ 16 % 256 = 255
  · have zero : ip.extractLsb' 16 8 + 1 = 0 := BitVec.eq_of_toNat_eq (by rw [second, last]; rfl)
    rw [if_pos zero, if_pos last]
  · have more : ¬ ip.extractLsb' 16 8 + 1 = 0 := by
      intro zero
      rw [zero] at second
      have none : (0 : Octet).toNat = 0 := rfl
      omega
    rw [if_neg more, if_neg last]
    have bytes : value ((octets ip).set 1 (ip.extractLsb' 16 8 + 1)) =
        ip.toNat / 2 ^ 24 * 2 ^ 24 + (ip.toNat / 2 ^ 16 % 256 + 1) * 2 ^ 16 + ip.toNat % 2 ^ 16 := by
      simp only [value, octets, List.set_cons_succ, List.set_cons_zero, List.reverse_cons,
        List.reverse_nil, List.nil_append, List.cons_append, List.map_cons, List.map_nil,
        Nat.ofDigits_cons, Nat.ofDigits_nil, BitVec.extractLsb'_toNat, Nat.shiftRight_eq_div_pow,
        second]
      omega
    rw [ofOctets, bytes, withSecond]

theorem Opened.path (opened : Opened a) {m k : Nat} (rest : k + m = 255)
    (from_start : a.startIP.toNat / 2 ^ 16 % 256 ≤ k) :
    ∃ places, Path (fun ip => a.pool.contains ip = true) nextBlock (withSecond a.startIP k) places ∧
      places.length ≤ m + 1 ∧
      ∀ ip, ip ∈ places ↔ a.pool.contains ip = true ∧ ∃ j, k ≤ j ∧ j < 256 ∧ ip = withSecond a.startIP j := by
  have bound := a.startIP.isLt
  induction m generalizing k with
  | zero =>
    obtain rfl : k = 255 := rest
    by_cases inside : a.pool.contains (withSecond a.startIP 255) = true
    · refine ⟨[withSecond a.startIP 255], .last inside ?_, Nat.le_refl _, fun ip => ?_⟩
      · rw [nextBlock_eq, if_pos (by rw [toNat_withSecond _ (by decide)]; omega)]
      · rw [List.mem_singleton]
        constructor
        · rintro rfl
          exact ⟨inside, 255, Nat.le_refl _, by decide, rfl⟩
        · rintro ⟨-, j, low, high, rfl⟩
          obtain rfl : j = 255 := by omega
          rfl
    · refine ⟨[], .left inside, Nat.zero_le _, fun ip => ⟨nofun, ?_⟩⟩
      rintro ⟨here, j, low, high, rfl⟩
      obtain rfl : j = 255 := by omega
      exact absurd here inside
  | succ m ih =>
    have number := toNat_withSecond a.startIP (show k < 256 by omega)
    by_cases inside : a.pool.contains (withSecond a.startIP k) = true
    · obtain ⟨places, path, short, member⟩ := @ih (k + 1) (by omega) (by omega)
      refine ⟨withSecond a.startIP k :: places, .more inside ?_ path, Nat.succ_le_succ short, fun ip => ?_⟩
      · have more : ¬ (withSecond a.startIP k).toNat / 2 ^ 16 % 256 = 255 := by omega
        have second : (withSecond a.startIP k).toNat / 2 ^ 16 % 256 = k := by omega
        have first : (withSecond a.startIP k).toNat / 2 ^ 24 = a.startIP.toNat / 2 ^ 24 := by omega
        have rest : (withSecond a.startIP k).toNat % 2 ^ 16 = a.startIP.toNat % 2 ^ 16 := by omega
        rw [nextBlock_eq, if_neg more, second]
        unfold withSecond
        unfold withSecond at first rest
        rw [first, rest]
      · rw [List.mem_cons, member]
        constructor
        · rintro (rfl | ⟨here, j, low, high, rfl⟩)
          · exact ⟨inside, k, Nat.le_refl _, by omega, rfl⟩
          · exact ⟨here, j, by omega, high, rfl⟩
        · rintro ⟨here, j, low, high, rfl⟩
          obtain rfl | above := Nat.eq_or_lt_of_le low
          · exact .inl rfl
          · exact .inr ⟨here, j, above, high, rfl⟩
    · refine ⟨[], .left inside, Nat.zero_le _, fun ip => ⟨nofun, ?_⟩⟩
      rintro ⟨here, j, low, high, rfl⟩
      have later := toNat_withSecond a.startIP high
      exact absurd (opened.between here (by omega) (by omega)) inside

theorem Opened.candidates (opened : Opened a) :
    ∃ places, Path (fun ip => a.pool.contains ip = true) nextBlock a.startIP places ∧
      places.length ≤ 256 ∧ ∀ ip, ip ∈ places ↔ Candidate a ip := by
  have bound := a.startIP.isLt
  have start : withSecond a.startIP (a.startIP.toNat / 2 ^ 16 % 256) = a.startIP := by
    refine BitVec.eq_of_toNat_eq ?_
    rw [toNat_withSecond _ (by omega)]
    omega
  obtain ⟨places, path, short, member⟩ :=
    @Opened.path a opened (255 - a.startIP.toNat / 2 ^ 16 % 256) (a.startIP.toNat / 2 ^ 16 % 256)
      (by omega) (Nat.le_refl _)
  rw [start] at path
  refine ⟨places, path, by omega, fun ip => (member ip).trans ⟨?_, ?_⟩⟩
  · rintro ⟨inside, j, low, high, rfl⟩
    have number := toNat_withSecond a.startIP high
    exact ⟨inside, by omega, by omega, by omega⟩
  · rintro ⟨inside, first, low, above⟩
    have wide := ip.isLt
    refine ⟨inside, ip.toNat / 2 ^ 16 % 256, by omega, by omega, BitVec.eq_of_toNat_eq ?_⟩
    rw [toNat_withSecond _ (by omega)]
    omega

/-- As many rounds as there are places are enough. -/
theorem nextFreeBlock_path {pool : Cidr} {used : List String} {ip : IP} {places : List IP}
    (path : Path (fun ip => pool.contains ip = true) nextBlock ip places) {rounds : Nat}
    (enough : places.length ≤ rounds) :
    nextFreeBlock pool used rounds ip =
      (places.find? fun ip => ¬ cidrString (candidate ip) ∈ used).map candidate := by
  induction path generalizing rounds with
  | left out =>
    cases rounds with
    | zero => rfl
    | succ rounds =>
      rw [nextFreeBlock, if_neg out]
      rfl
  | @last ip here last =>
    obtain ⟨rounds, rfl⟩ := Nat.exists_eq_succ_of_ne_zero (Nat.ne_zero_of_lt enough)
    rw [nextFreeBlock, if_pos here, last]
    by_cases taken : cidrString (candidate ip) ∈ used
    · rw [if_pos taken, List.find?_cons_of_neg (by simpa using taken)]
      rfl
    · rw [if_neg taken, List.find?_cons_of_pos (by simpa using taken)]
      rfl
  | @more ip next places here go rest ih =>
    obtain ⟨rounds, rfl⟩ := Nat.exists_eq_succ_of_ne_zero (Nat.ne_zero_of_lt enough)
    rw [nextFreeBlock, if_pos here, go]
    by_cases taken : cidrString (candidate ip) ∈ used
    · rw [if_pos taken, List.find?_cons_of_neg (by simpa using taken)]
      exact ih (Nat.le_of_succ_le_succ enough)
    · rw [if_neg taken, List.find?_cons_of_pos (by simpa using taken)]
      rfl

theorem cidrString_candidate {ip ip' : IP} :
    cidrString (candidate ip) = cidrString (candidate ip') ↔ ip = ip' := by
  constructor
  · intro same
    have texts := congrArg String.toList same
    simp only [cidrString, candidate, String.toList_append] at texts
    exact addrString_inj.mp (String.toList_inj.mp
      (List.append_cancel_right (List.append_cancel_right texts)))
  · rintro rfl
    rfl

/-! ## Histories -/

/-- The answer is a candidate whose text is not in use, and there is one unless all are. -/
theorem Opened.allocates (opened : Opened a) (used : List String) :
    (∃ answer, Walk (fun ip => a.pool.contains ip = true) nextBlock
        (fun ip => cidrString (candidate ip) ∈ used) a.startIP answer ∧
      allocateClusterCIDR a used = answer.map candidate) ∧
    (∀ net, allocateClusterCIDR a used = some net →
      ∃ ip, net = candidate ip ∧ Candidate a ip ∧ cidrString (candidate ip) ∉ used) ∧
    (allocateClusterCIDR a used = none ↔ ∀ ip, Candidate a ip → cidrString (candidate ip) ∈ used) := by
  obtain ⟨places, path, short, member⟩ := opened.candidates
  have answer : allocateClusterCIDR a used = _ := nextFreeBlock_path path short
  refine ⟨⟨_, path.walk _, answer⟩, fun net found => ?_, ?_⟩
  · rw [answer] at found
    obtain ⟨ip, first, rfl⟩ := Option.map_eq_some_iff.mp found
    have free := List.find?_some first
    exact ⟨ip, rfl, (member ip).mp (List.mem_of_find?_eq_some first), of_decide_eq_true free⟩
  · rw [answer, Option.map_eq_none_iff, List.find?_eq_none]
    constructor
    · intro all ip mine
      by_contra free
      exact all ip ((member ip).mpr mine) (decide_eq_true free)
    · intro all ip here free
      exact of_decide_eq_true free (all ip ((member ip).mp here))

theorem Opened.history (opened : Opened a) {used : List Cidr} (history : History a used) :
    ∀ net ∈ used, ∃ ip, net = candidate ip ∧ Candidate a ip := by
  induction history with
  | start => exact nofun
  | @create used net before allocated ih =>
    obtain ⟨ip, rfl, mine, -⟩ := (opened.allocates _).2.1 net allocated
    exact List.forall_mem_cons.mpr ⟨⟨ip, rfl, mine⟩, ih⟩
  | delete before some ih => exact fun net member => ih net (some.subset member)

theorem Opened.mem_texts (opened : Opened a) {used : List Cidr} (history : History a used) (ip : IP) :
    cidrString (candidate ip) ∈ used.map cidrString ↔ candidate ip ∈ used := by
  rw [List.mem_map]
  constructor
  · rintro ⟨net, member, same⟩
    obtain ⟨ip', rfl, -⟩ := opened.history history net member
    exact cidrString_candidate.mp same ▸ member
  · exact fun member => ⟨_, member, rfl⟩

/-! ## Blocks of 16 bits -/

theorem contains_candidate {ip ip' : IP} :
    (candidate ip).contains ip' = true ↔ ip'.toNat / 2 ^ 16 = ip.toNat / 2 ^ 16 :=
  contains_iff_div (candidate ip) ip'

/-- The first byte and the low ones of a block of the pool make it a candidate's. -/
theorem Candidate.div_inj {ip ip' : IP} (first : Candidate a ip) (second : Candidate a ip')
    (same : ip.toNat / 2 ^ 16 = ip'.toNat / 2 ^ 16) : ip = ip' := by
  obtain ⟨-, -, low, -⟩ := first
  obtain ⟨-, -, low', -⟩ := second
  exact BitVec.eq_of_toNat_eq (by omega)

/-- A block goes into the pool if the pool's mask is not longer. -/
theorem Opened.within_iff (opened : Opened a) {ip : IP} (inside : a.pool.contains ip = true) :
    (candidate ip).Within a.pool ↔ a.pool.ones ≤ 16 := by
  have bound := ip.isLt
  have ones := opened.ones
  have here := opened.contains_iff.mp inside
  constructor
  · intro within
    by_contra long
    -- the first and the last address of the block are in different halves
    have first : (BitVec.ofNat 32 (ip.toNat / 2 ^ 16 * 2 ^ 16) : IP).toNat = ip.toNat / 2 ^ 16 * 2 ^ 16 := by
      rw [BitVec.toNat_ofNat]
      omega
    have last : (BitVec.ofNat 32 (ip.toNat / 2 ^ 16 * 2 ^ 16 + 65535) : IP).toNat =
        ip.toNat / 2 ^ 16 * 2 ^ 16 + 65535 := by
      rw [BitVec.toNat_ofNat]
      omega
    have inFirst := opened.contains_iff.mp (within _ (contains_candidate.mpr (by rw [first]; omega)))
    have inLast := opened.contains_iff.mp (within _ (contains_candidate.mpr (by rw [last]; omega)))
    rw [first] at inFirst
    rw [last] at inLast
    have short : 2 ^ (32 - a.pool.ones) ≤ 2 ^ 15 := Nat.pow_le_pow_right (by decide) (by omega)
    have positive : 0 < 2 ^ (32 - a.pool.ones) := Nat.two_pow_pos _
    have step : (ip.toNat / 2 ^ 16 * 2 ^ 16 + 2 ^ (32 - a.pool.ones)) / 2 ^ (32 - a.pool.ones) =
        ip.toNat / 2 ^ 16 * 2 ^ 16 / 2 ^ (32 - a.pool.ones) + 1 := Nat.add_div_right _ positive
    have order := @Nat.div_le_div_right (ip.toNat / 2 ^ 16 * 2 ^ 16 + 2 ^ (32 - a.pool.ones))
      (ip.toNat / 2 ^ 16 * 2 ^ 16 + 65535) (2 ^ (32 - a.pool.ones)) (by omega)
    omega
  · intro wide ip' member
    rw [contains_candidate] at member
    have split : 2 ^ (32 - a.pool.ones) = 2 ^ 16 * 2 ^ (16 - a.pool.ones) := by
      rw [← Nat.pow_add]
      congr 1
      omega
    rw [opened.contains_iff, ← here, split, ← Nat.div_div_eq_div_mul, ← Nat.div_div_eq_div_mul, member]

/-- A candidate that is not in use is what it should be, in a pool of blocks. -/
theorem Opened.candidate_iff (opened : Opened a) {used : List Cidr} (history : History a used) {ip : IP}
    (mine : Candidate a ip) (free : candidate ip ∉ used) :
    (Slash16 (candidate ip) ∧ (candidate ip).Within a.pool ∧
        ∀ other ∈ used, ¬ (candidate ip).Overlaps other) ↔
      a.startIP.toNat % 2 ^ 16 = 0 ∧ a.pool.ones ≤ 16 := by
  have low := mine.2.2.1
  rw [opened.within_iff mine.1]
  constructor
  · rintro ⟨net, wide, -⟩
    exact ⟨low.symm.trans net.network, wide⟩
  · rintro ⟨aligned, wide⟩
    refine ⟨⟨rfl, low.trans aligned⟩, wide, ?_⟩
    rintro other member ⟨shared, inside, inside'⟩
    obtain ⟨ip', rfl, theirs⟩ := opened.history history other member
    rw [contains_candidate] at inside inside'
    exact free (mine.div_inj theirs (inside.symm.trans inside') ▸ member)

/-- A pool with a higher first byte has a block that starts with it. -/
theorem Opened.higher (opened : Opened a) {ip : IP} (inside : a.pool.contains ip = true)
    (high : a.startIP.toNat / 2 ^ 24 < ip.toNat / 2 ^ 24) :
    ∃ net, Slash16 net ∧ net.Within a.pool ∧ a.startIP.toNat ≤ net.ip.toNat ∧
      net.ip.toNat / 2 ^ 24 = ip.toNat / 2 ^ 24 := by
  have bound := ip.isLt
  have here := opened.contains_iff.mp inside
  have wide : a.pool.ones ≤ 8 := by
    by_contra long
    have split : 2 ^ 24 = 2 ^ (32 - a.pool.ones) * 2 ^ (a.pool.ones - 8) := by
      rw [← Nat.pow_add]
      congr 1
      have ones := opened.ones
      omega
    rw [split, ← Nat.div_div_eq_div_mul, ← Nat.div_div_eq_div_mul, here] at high
    exact Nat.lt_irrefl _ high
  have number : (BitVec.ofNat 32 (ip.toNat / 2 ^ 24 * 2 ^ 24) : IP).toNat = ip.toNat / 2 ^ 24 * 2 ^ 24 := by
    rw [BitVec.toNat_ofNat]
    omega
  have start : a.pool.contains (BitVec.ofNat 32 (ip.toNat / 2 ^ 24 * 2 ^ 24)) = true :=
    opened.between inside (by omega) (by omega)
  refine ⟨candidate (BitVec.ofNat 32 (ip.toNat / 2 ^ 24 * 2 ^ 24)), ⟨rfl, ?_⟩,
    (opened.within_iff start).mpr (by omega), ?_, ?_⟩
  · show (BitVec.ofNat 32 _ : IP).toNat % 65536 = 0
    rw [number]
    omega
  · show _ ≤ (BitVec.ofNat 32 _ : IP).toNat
    rw [number]
    omega
  · show (BitVec.ofNat 32 _ : IP).toNat / 2 ^ 24 = _
    rw [number]
    omega

/-- When no candidate is left, no block of the pool is, unless there is a higher first byte. -/
theorem Opened.exhausted_iff (opened : Opened a) {used : List Cidr} (history : History a used)
    (all : Exhausted a used) :
    (∀ net, Slash16 net → net.Within a.pool → a.startIP.toNat ≤ net.ip.toNat →
        ∃ other ∈ used, net.Overlaps other) ↔
      ∀ ip, a.pool.contains ip = true → ip.toNat / 2 ^ 24 ≤ a.startIP.toNat / 2 ^ 24 := by
  constructor
  · intro taken ip inside
    by_contra high
    obtain ⟨net, slash16, within, above, first⟩ := opened.higher inside (Nat.lt_of_not_le high)
    obtain ⟨other, member, shared, mine, theirs⟩ := taken net slash16 within above
    obtain ⟨ip', rfl, -, start, -⟩ := opened.history history other member
    rw [slash16.contains_iff] at mine
    rw [contains_candidate] at theirs
    omega
  · intro last net slash16 within above
    have aligned := slash16.network
    have bound := net.ip.isLt
    have self : net.contains net.ip = true := slash16.contains_iff.mpr rfl
    have first := last net.ip (within net.ip self)
    -- the block has an address that ends as the start does
    have number : (BitVec.ofNat 32 (net.ip.toNat + a.startIP.toNat % 2 ^ 16) : IP).toNat =
        net.ip.toNat + a.startIP.toNat % 2 ^ 16 := by
      rw [BitVec.toNat_ofNat]
      omega
    have inNet : net.contains (BitVec.ofNat 32 (net.ip.toNat + a.startIP.toNat % 2 ^ 16)) = true := by
      rw [slash16.contains_iff, number]
      omega
    have mine : Candidate a (BitVec.ofNat 32 (net.ip.toNat + a.startIP.toNat % 2 ^ 16)) := by
      refine ⟨within _ inNet, ?_, ?_, ?_⟩
      · rw [number]
        omega
      · rw [number]
        omega
      · rw [number]
        omega
    exact ⟨_, all _ mine, _, inNet, contains_candidate.mpr rfl⟩

end

/-- **The networks partition the pool, where it suits the loop.**  For every pool string and every
history of clusters the loop ends; what it answers is a network of 16 bits of the pool beside the
others, or the pool is full, exactly as `Suits` says. -/
theorem partitions_iff {poolCIDR : List Char} {a : CIDRAllocator}
    (created : newCIDRAllocator poolCIDR = some a) {used : List Cidr} (history : History a used) :
    (∃ answer, Walk (fun ip => a.pool.contains ip = true) nextBlock
        (fun ip => cidrString (candidate ip) ∈ used.map cidrString) a.startIP answer ∧
      allocateClusterCIDR a (used.map cidrString) = answer.map candidate) ∧
    (Partitions a used ↔ Suits a used) := by
  have opened := opened_of_new created
  obtain ⟨ends, found, full⟩ := opened.allocates (used.map cidrString)
  simp only [opened.mem_texts history] at full
  refine ⟨ends, ?_⟩
  unfold Partitions Suits
  cases answer : allocateClusterCIDR a (used.map cidrString) with
  | none =>
    have all : Exhausted a used := full.mp answer
    have iff := opened.exhausted_iff history all
    exact iff.trans ⟨fun last => ⟨fun left => absurd all left, fun _ => last⟩, fun suits => suits.2 all⟩
  | some net =>
    obtain ⟨ip, rfl, mine, free⟩ := found net answer
    rw [opened.mem_texts history] at free
    have left : ¬ Exhausted a used := fun all => free (all ip mine)
    have iff := opened.candidate_iff history mine free
    exact iff.trans ⟨fun good => ⟨fun _ => good, fun all => absurd all left⟩, fun suits => suits.1 left⟩

/-- The default pool. -/
theorem default_pool :
    let a : CIDRAllocator := ⟨⟨0x0a400000, 10⟩, 0x0a640000⟩
    newCIDRAllocator "10.100.0.0/10".toList = some a ∧ Partitions a [candidate 0x0a640000] := by
  intro a
  have created : newCIDRAllocator "10.100.0.0/10".toList = some a := by decide
  have history : History a [candidate 0x0a640000] := .create .start (by decide)
  refine ⟨created, (partitions_iff created history).2.mpr ⟨fun _ => by decide, fun all => ?_⟩⟩
  have second : Candidate a 0x0a650000 :=
    ⟨by decide, by decide, by decide, by decide⟩
  exact absurd (all _ second) (by decide)

/-- A pool of two first bytes is given up behind the last block of the first one. -/
theorem second_byte_wraps :
    let a : CIDRAllocator := ⟨⟨0x0a000000, 7⟩, 0x0aff0000⟩
    newCIDRAllocator "10.255.0.0/7".toList = some a ∧ History a [candidate 0x0aff0000] ∧
      allocateClusterCIDR a ["10.255.0.0/16"] = none ∧ ¬ Partitions a [candidate 0x0aff0000] := by
  intro a
  have text : [candidate 0x0aff0000].map cidrString = ["10.255.0.0/16"] := by decide
  have failed : allocateClusterCIDR a ["10.255.0.0/16"] = none := by decide
  refine ⟨by decide, .create .start (by decide), failed, fun full => ?_⟩
  unfold Partitions at full
  rw [text, failed] at full
  have next : Slash16 ⟨0x0b000000, 16⟩ := ⟨rfl, by decide⟩
  have within : Cidr.Within ⟨0x0b000000, 16⟩ a.pool := by
    intro ip inside
    rw [next.contains_iff] at inside
    have block : (0x0b000000 : IP).toNat / 65536 = 0x0b00 := by decide
    have pool : (0x0a000000 : IP).toNat / 2 ^ 25 = 5 := by decide
    rw [block] at inside
    rw [contains_iff_div]
    show ip.toNat / 2 ^ 25 = (0x0a000000 : IP).toNat / 2 ^ 25
    rw [pool]
    omega
  obtain ⟨other, member, ip, inside, inside'⟩ := full _ next within (by decide)
  obtain rfl := List.mem_singleton.mp member
  have different : (0x0b000000 : IP).toNat / 65536 ≠ (0x0aff0000 : IP).toNat / 2 ^ 16 := by decide
  exact different ((next.contains_iff.mp inside).symm.trans (contains_candidate.mp inside'))

end Nixway.Cluster
