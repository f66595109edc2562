import Mathlib.Algebra.GroupWithZero.Nat
import Mathlib.Algebra.Order.Group.Unbundled.Int

/-!
# Integer computations that watch their range

A computation in fixed-width arithmetic yields a value and says whether every step was
exact: no result left the range of its type and no divisor was zero. Values wrap, as on
hardware.

Signed results are integers; the width of a step is that of the type in which it is
evaluated or to which its result is converted. `Ensures` is the triple of this language:
the computation is exact and its value satisfies the postcondition.
-/

universe u

/-- A value and whether all the steps that led to it were exact. -/
structure Calc (α : Type u) where
  value : α
  exact : Bool
deriving DecidableEq

namespace Calc

variable {α β : Type u} (w : Nat)

instance : Monad Calc where
  pure a := ⟨a, true⟩
  bind x f := ⟨(f x.value).value, x.exact && (f x.value).exact⟩

/-- The integers a signed type of width `w` represents. -/
def Fits (z : Int) : Prop := -2 ^ (w - 1) ≤ z ∧ z < 2 ^ (w - 1)
  deriving Decidable

/-- A step with a signed result of width `w`. -/
def signed (z : Int) : Calc Int := ⟨Int.bmod z (2 ^ w), decide (Fits w z)⟩

/-- A step with an unsigned result of width `w`. -/
def unsigned (z : Int) : Calc Int := ⟨z % 2 ^ w, decide (0 ≤ z ∧ z < 2 ^ w)⟩

/-- Signed division, which truncates towards zero. -/
def div (a b : Int) : Calc Int :=
  ⟨Int.bmod (a.tdiv b) (2 ^ w), decide (b ≠ 0 ∧ Fits w (a.tdiv b))⟩

/-- The computation is exact and ends with a value that satisfies `Q`. -/
def Ensures (x : Calc α) (Q : α → Prop) : Prop := x.exact = true ∧ Q x.value

section Range

variable {w : Nat} {z a b : Int}

lemma two_pow_eq (w : Nat) [NeZero w] : ((2 ^ w : Nat) : Int) = 2 * 2 ^ (w - 1) := by
  rw [← Nat.sub_add_cancel (Nat.pos_of_neZero w), Nat.pow_succ, Nat.mul_comm, Nat.add_sub_cancel]
  push_cast
  rfl

lemma bmod_of_fits [NeZero w] (h : Fits w z) : Int.bmod z (2 ^ w) = z := by
  obtain ⟨hlow, hhigh⟩ := h
  apply Int.bmod_eq_of_le
  · rw [two_pow_eq w]
    omega
  · rw [two_pow_eq w]
    omega

/-- Dividing by a positive number stays between the dividend and zero. -/
lemma tdiv_between (hb : 0 < b) : min a 0 ≤ a.tdiv b ∧ a.tdiv b ≤ max a 0 := by
  have hb0 : 0 ≤ b := Int.le_of_lt hb
  obtain ha | ha := Int.le_total 0 a
  · rw [Int.tdiv_eq_ediv_of_nonneg ha]
    have hle : a / b ≤ a := Int.ediv_le_self b ha
    have hnonneg : 0 ≤ a / b := Int.ediv_nonneg ha hb0
    omega
  · obtain ⟨m, rfl⟩ : ∃ m, a = -m := ⟨-a, (Int.neg_neg a).symm⟩
    have hm : 0 ≤ m := by omega
    rw [Int.neg_tdiv, Int.tdiv_eq_ediv_of_nonneg hm]
    have hle : m / b ≤ m := Int.ediv_le_self b hm
    have hnonneg : 0 ≤ m / b := Int.ediv_nonneg hm hb0
    omega

lemma Fits.tdiv (h : Fits w a) (hb : 0 < b) : Fits w (a.tdiv b) := by
  obtain ⟨hlow, hhigh⟩ := h
  obtain ⟨hmin, hmax⟩ := tdiv_between (a := a) hb
  have hpow : (0 : Int) < 2 ^ (w - 1) := Int.pow_pos (by decide)
  exact ⟨by omega, by omega⟩

/-- A converted total lies in the range of the type. -/
lemma fits_bmod (w : Nat) [NeZero w] (z : Int) : Fits w (Int.bmod z (2 ^ w)) := by
  have hpos : 0 < 2 ^ w := Nat.two_pow_pos w
  have hlow := Int.le_bmod (x := z) hpos
  have hhigh := Int.bmod_lt (x := z) hpos
  rw [two_pow_eq w] at hlow hhigh
  exact ⟨by omega, by omega⟩

end Range

namespace Ensures

variable {x : Calc α} {f : α → Calc β} {P Q : α → Prop} {R : β → Prop} {w : Nat} {z a b : Int}

lemma pure {v : α} (h : Q v) : Ensures (Pure.pure v) Q := ⟨rfl, h⟩

lemma mono (hx : Ensures x P) (imp : ∀ v, P v → Q v) : Ensures x Q := ⟨hx.1, imp _ hx.2⟩

lemma bind (hx : Ensures x P) (hf : ∀ v, P v → Ensures (f v) R) : Ensures (x >>= f) R := by
  obtain ⟨hexact, hvalue⟩ := hx
  obtain ⟨hexact', hvalue'⟩ := hf x.value hvalue
  refine ⟨?_, hvalue'⟩
  change (x.exact && (f x.value).exact) = true
  rw [hexact, hexact', Bool.and_self]

lemma signed [NeZero w] {Q : Int → Prop} (hfits : Fits w z) (h : Q z) : Ensures (Calc.signed w z) Q := by
  refine ⟨decide_eq_true hfits, ?_⟩
  change Q (Int.bmod z (2 ^ w))
  rwa [bmod_of_fits hfits]

lemma unsigned {Q : Int → Prop} (h0 : 0 ≤ z) (hlt : z < 2 ^ w) (h : Q z) : Ensures (Calc.unsigned w z) Q := by
  refine ⟨decide_eq_true ⟨h0, hlt⟩, ?_⟩
  change Q (z % 2 ^ w)
  rwa [Int.emod_eq_of_lt h0 hlt]

lemma div [NeZero w] {Q : Int → Prop} (hfits : Fits w a) (hb : 0 < b) (h : Q (a.tdiv b)) :
    Ensures (Calc.div w a b) Q := by
  have hquot : Fits w (a.tdiv b) := hfits.tdiv hb
  refine ⟨decide_eq_true ⟨Int.ne_of_gt hb, hquot⟩, ?_⟩
  change Q (Int.bmod (a.tdiv b) (2 ^ w))
  rwa [bmod_of_fits hquot]

end Ensures

end Calc
