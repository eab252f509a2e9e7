/-
# Theory.Octets -- counting in bytes

Numbers as lists of bytes, the first byte being the highest, and the loop that adds one: it goes from
the last byte to the first and stops at a byte that does not become zero.
-/
import Mathlib.Algebra.Order.Ring.Int
import Mathlib.Data.Nat.Digits.Defs
import Mathlib.Tactic.Ring

namespace Nixway.Theory.Octets

set_option autoImplicit false

abbrev Octet := BitVec 8

def value (bytes : List Octet) : Nat := Nat.ofDigits 256 (bytes.reverse.map BitVec.toNat)

def carry : List Octet → List Octet
  | [] => []
  | b :: bytes => if b + 1 ≠ 0 then (b + 1) :: bytes else 0 :: carry bytes

def increment (bytes : List Octet) : List Octet := (carry bytes.reverse).reverse

theorem ofDigits_carry (bytes : List Octet) :
    Nat.ofDigits 256 ((carry bytes).map BitVec.toNat) =
      (Nat.ofDigits 256 (bytes.map BitVec.toNat) + 1) % 256 ^ bytes.length := by
  induction bytes with
  | nil => rfl
  | cons b bytes ih =>
    have bound := b.isLt
    have small : Nat.ofDigits 256 (bytes.map BitVec.toNat) < 256 ^ bytes.length := by
      have digits : ∀ d ∈ bytes.map BitVec.toNat, d < 256 := by
        intro d member
        obtain ⟨b, -, rfl⟩ := List.mem_map.mp member
        exact b.isLt
      have short := Nat.ofDigits_lt_base_pow_length (by decide) digits
      rwa [List.length_map] at short
    have power : 256 ^ (b :: bytes).length = 256 * 256 ^ bytes.length := Nat.pow_succ'
    unfold carry
    rw [List.map_cons, Nat.ofDigits_cons, power]
    by_cases more : b + 1 ≠ 0
    · have next : (b + 1).toNat = b.toNat + 1 := by
        rw [BitVec.toNat_add]
        refine Nat.mod_eq_of_lt (Nat.lt_of_le_of_ne bound fun full => more ?_)
        exact BitVec.eq_of_toNat_eq (by rw [BitVec.toNat_add, full]; rfl)
      rw [if_pos more, List.map_cons, Nat.ofDigits_cons, next, Nat.mod_eq_of_lt (by omega)]
      omega
    · have full : b.toNat = 255 := by
        have zero := congrArg BitVec.toNat (not_not.mp more)
        rw [BitVec.toNat_add] at zero
        simp only [BitVec.ofNat_eq_ofNat, BitVec.toNat_ofNat] at zero
        omega
      rw [if_neg more, List.map_cons, Nat.ofDigits_cons, ih, full, ← Nat.mul_mod_mul_left]
      have zero : (0 : Octet).toNat = 0 := rfl
      rw [zero, Nat.zero_add]
      congr 1
      omega

/-- **The loop counts one up, and comes back to zero after the last number.** -/
theorem value_increment (bytes : List Octet) :
    value (increment bytes) = (value bytes + 1) % 256 ^ bytes.length := by
  unfold value increment
  rw [List.reverse_reverse, ofDigits_carry, List.length_reverse]

end Nixway.Theory.Octets
