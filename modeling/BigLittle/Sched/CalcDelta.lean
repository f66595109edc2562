import Mathlib.Algebra.Order.Field.Rat
import Mathlib.Tactic.Linarith
import Mathlib.Tactic.Ring
import BigLittle.Lib.Calc

/-!
# Scaling a time by two weights

`calc_delta_mine` divides by a weight through its cached reciprocal. Small products are multiplied by it as they are;
larger ones lose 16 bits first, so that the multiplication stays within 64 bits. Both ways round to the nearest, and
they meet where the code changes from one to the other.
-/

namespace BigLittle.Sched

open Calc (Ensures unsigned)

structure LoadWeight where
  weight : Nat
  invWeight : Nat

/-- `lw->inv_weight` after it has been looked at; `WMULT_CONST` is 2 ^ 32. -/
def LoadWeight.inverse (lw : LoadWeight) : Nat :=
  if lw.invWeight = 0 then
    if 2 ^ 32 ≤ lw.weight then 1 else if lw.weight = 0 then 2 ^ 32 else 2 ^ 32 / lw.weight
  else lw.invWeight

def srr (x : Int) (y : Nat) : Calc Int := do
  let sum ← unsigned 64 (x + 2 ^ (y - 1))
  return sum / 2 ^ y

/-- The product with the weight, where loads are not scaled. -/
def weighted (deltaExec weight : Nat) : Calc Int :=
  if 1 < weight then unsigned 64 (deltaExec * weight) else pure deltaExec

/-- The product with the reciprocal, shifted back. -/
def shiftedProduct (x inv : Int) (y : Nat) : Calc Int := do
  let product ← unsigned 64 (x * inv)
  srr product y

/-- The two ways to divide by the weight. -/
def divided (tmp inv : Int) : Calc Int :=
  if 2 ^ 32 < tmp then do
    let high ← srr tmp 16
    shiftedProduct high inv 16
  else shiftedProduct tmp inv 32

/-- `calc_delta_mine` on a 64-bit build. -/
def calcDeltaMine (deltaExec weight : Nat) (lw : LoadWeight) : Calc Int := do
  let tmp ← weighted deltaExec weight
  let tmp ← divided tmp lw.inverse
  return min tmp (2 ^ 63 - 1)

/-- What the two ways compute. -/
def scaled (tmp inv : Int) : Int :=
  if 2 ^ 32 < tmp then ((tmp + 2 ^ 15) / 2 ^ 16 * inv + 2 ^ 15) / 2 ^ 16 else (tmp * inv + 2 ^ 31) / 2 ^ 32

section Steps

variable {x inv tmp : Int}

lemma srr_ensures {y : Nat} {Q : Int → Prop} (hx : 0 ≤ x) (hlt : x + 2 ^ (y - 1) < 2 ^ 64)
    (h : Q ((x + 2 ^ (y - 1)) / 2 ^ y)) : Ensures (srr x y) Q := by
  have hpow : (0 : Int) ≤ 2 ^ (y - 1) := Int.pow_nonneg (by decide)
  refine Ensures.bind (P := (· = x + 2 ^ (y - 1))) (.unsigned (by omega) hlt rfl) ?_
  rintro _ rfl
  exact .pure h

lemma shiftedProduct_ensures {y : Nat} {Q : Int → Prop} (hx : 0 ≤ x) (hx' : x ≤ 2 ^ 32) (hinv : 0 ≤ inv)
    (hinv' : inv ≤ 2 ^ 31) (hy : y ≤ 32) (h : Q ((x * inv + 2 ^ (y - 1)) / 2 ^ y)) :
    Ensures (shiftedProduct x inv y) Q := by
  have hlow : 0 ≤ x * inv := mul_nonneg hx hinv
  have hhigh : x * inv ≤ 2 ^ 32 * 2 ^ 31 := mul_le_mul hx' hinv' hinv (by decide)
  have hpow : (2 : Int) ^ (y - 1) ≤ 2 ^ 31 := pow_le_pow_right₀ (by decide) (by omega)
  refine Ensures.bind (P := (· = x * inv)) (.unsigned hlow (by omega) rfl) ?_
  rintro _ rfl
  exact srr_ensures hlow (by omega) h

lemma divided_ensures (htmp : 0 ≤ tmp) (htmp' : tmp ≤ 2 ^ 48) (hinv : 0 ≤ inv) (hinv' : inv ≤ 2 ^ 31) :
    Ensures (divided tmp inv) (· = scaled tmp inv) := by
  rw [divided, scaled]
  split
  · refine Ensures.bind (P := (· = (tmp + 2 ^ 15) / 2 ^ 16)) (srr_ensures htmp (by omega) rfl) ?_
    rintro _ rfl
    exact shiftedProduct_ensures (by omega) (by omega) hinv hinv' (by decide) rfl
  next hsmall => exact shiftedProduct_ensures htmp (Int.not_lt.mp hsmall) hinv hinv' le_rfl rfl

lemma weighted_ensures {deltaExec weight : Nat} (hweight : 1 ≤ weight) (hdelta : deltaExec * weight ≤ 2 ^ 48) :
    Ensures (weighted deltaExec weight) (· = (deltaExec * weight : Nat)) := by
  rw [weighted, Nat.cast_mul]
  split
  · exact .unsigned (by positivity) (by norm_cast; omega) rfl
  · obtain rfl : weight = 1 := by omega
    exact .pure (by rw [Nat.cast_one, mul_one])

lemma inverse_eq {lw : LoadWeight} (hlow : 2 ≤ lw.weight) (hhigh : lw.weight < 2 ^ 32)
    (hinv : lw.invWeight = 0 ∨ lw.invWeight = 2 ^ 32 / lw.weight) : lw.inverse = 2 ^ 32 / lw.weight := by
  have hpos : 2 ^ 32 / lw.weight ≠ 0 := (Nat.div_pos hhigh.le (by omega)).ne'
  rw [LoadWeight.inverse]
  obtain hinv | hinv := hinv
  · rw [if_pos hinv, if_neg (by omega), if_neg (by omega)]
  · rw [hinv, if_neg hpos]

section Scaled

variable {tmp' : Int}

lemma scaled_mono (hinv : 0 ≤ inv) (hle : tmp ≤ tmp') : scaled tmp inv ≤ scaled tmp' inv := by
  rw [scaled, scaled]
  split
  next hlarge =>
    rw [if_pos (hlarge.trans_le hle)]
    have hhigh : (tmp + 2 ^ 15) / 2 ^ 16 ≤ (tmp' + 2 ^ 15) / 2 ^ 16 := by omega
    have := mul_le_mul_of_nonneg_right hhigh hinv
    omega
  next hsmall =>
    split
    next hlarge =>
      -- at the change both ways yield the reciprocal
      have hlow := mul_le_mul_of_nonneg_right (Int.not_lt.mp hsmall) hinv
      have hhigh : 2 ^ 16 * inv ≤ (tmp' + 2 ^ 15) / 2 ^ 16 * inv :=
        mul_le_mul_of_nonneg_right (by omega) hinv
      omega
    · have := mul_le_mul_of_nonneg_right hle hinv
      omega

end Scaled

/-- Nothing overflows, and the limit is not reached. -/
lemma calcDeltaMine_ensures {deltaExec weight : Nat} {lw : LoadWeight} (hweight : 1 ≤ weight)
    (hinv : lw.inverse ≤ 2 ^ 31) (hdelta : deltaExec * weight ≤ 2 ^ 48) :
    Ensures (calcDeltaMine deltaExec weight lw) (· = scaled (deltaExec * weight : Nat) lw.inverse) := by
  have hinv' : (lw.inverse : Int) ≤ 2 ^ 31 := by exact_mod_cast hinv
  have htmp : ((deltaExec * weight : Nat) : Int) ≤ 2 ^ 48 := by exact_mod_cast hdelta
  refine (weighted_ensures hweight hdelta).bind ?_
  rintro _ rfl
  refine (divided_ensures (by omega) htmp (by omega) hinv').bind ?_
  rintro _ rfl
  refine .pure (min_eq_left ((scaled_mono (by omega) htmp).trans ?_))
  rw [scaled, if_pos (by decide)]
  omega

/-- Rounding to the nearest multiple. -/
lemma round_bounds (x : Int) : (x + 2 ^ 15) / 2 ^ 16 * 2 ^ 16 ≤ x + 2 ^ 15 ∧
    x ≤ (x + 2 ^ 15) / 2 ^ 16 * 2 ^ 16 + 2 ^ 15 := by
  omega

/-- How far the result is from the exact quotient, cleared of denominators. -/
lemma scaled_close {tmp w : Int} (htmp : 0 ≤ tmp) (hw : 0 < w) :
    tmp * 2 ^ 32 ≤ w * (scaled tmp (2 ^ 32 / w) * 2 ^ 32 + tmp + 2 ^ 32) + tmp * 2 ^ 15 ∧
    w * (scaled tmp (2 ^ 32 / w) * 2 ^ 32) ≤ tmp * 2 ^ 32 + w * (tmp + 2 ^ 32) + tmp * 2 ^ 15 := by
  have hinv : 0 ≤ 2 ^ 32 / w := Int.ediv_nonneg (by decide) hw.le
  have hlow : 2 ^ 32 / w * w ≤ 2 ^ 32 := Int.ediv_mul_le _ hw.ne'
  have hhigh : 2 ^ 32 < (2 ^ 32 / w + 1) * w := Int.lt_ediv_add_one_mul_self _ hw
  generalize 2 ^ 32 / w = inv at hinv hlow hhigh
  have hnonneg : 0 ≤ tmp * w := mul_nonneg htmp hw.le
  rw [scaled]
  split
  next hlarge =>
    obtain ⟨hfloor, hceil⟩ := round_bounds tmp
    generalize (tmp + 2 ^ 15) / 2 ^ 16 = high at hfloor hceil
    obtain ⟨hfloor', hceil'⟩ := round_bounds (high * inv)
    generalize (high * inv + 2 ^ 15) / 2 ^ 16 = r at hfloor' hceil'
    have hproduct : (high * 2 ^ 16) * (inv * w) ≤ (tmp + 2 ^ 15) * 2 ^ 32 :=
      mul_le_mul hfloor hlow (mul_nonneg hinv hw.le) (by omega)
    have hproduct' : (tmp - 2 ^ 15) * (2 ^ 32 - w) ≤ (tmp - 2 ^ 15) * (inv * w) :=
      mul_le_mul_of_nonneg_left (by linarith) (by omega)
    have hhigh' : (tmp - 2 ^ 15) * (inv * w) ≤ (high * 2 ^ 16) * (inv * w) :=
      mul_le_mul_of_nonneg_right (by linarith) (mul_nonneg hinv hw.le)
    have hupper := mul_le_mul_of_nonneg_left hfloor' hw.le
    have hlower := mul_le_mul_of_nonneg_left hceil' hw.le
    constructor
    · linarith
    · linarith
  · have hfloor : (tmp * inv + 2 ^ 31) / 2 ^ 32 * 2 ^ 32 ≤ tmp * inv + 2 ^ 31 := by omega
    have hceil : tmp * inv ≤ (tmp * inv + 2 ^ 31) / 2 ^ 32 * 2 ^ 32 + 2 ^ 31 := by omega
    generalize (tmp * inv + 2 ^ 31) / 2 ^ 32 = r at hfloor hceil
    have hproduct := mul_le_mul_of_nonneg_left hlow htmp
    have hproduct' := mul_le_mul_of_nonneg_left hhigh.le htmp
    have hupper := mul_le_mul_of_nonneg_left hfloor hw.le
    have hlower := mul_le_mul_of_nonneg_left hceil hw.le
    constructor
    · linarith
    · linarith

end Steps

/-- The result against the exact quotient of the product by the weight. -/
theorem calcDeltaMine_accurate {deltaExec weight : Nat} {lw : LoadWeight} (hweight : 1 ≤ weight)
    (hlow : 2 ≤ lw.weight) (hhigh : lw.weight < 2 ^ 32)
    (hinv : lw.invWeight = 0 ∨ lw.invWeight = 2 ^ 32 / lw.weight) (hdelta : deltaExec * weight ≤ 2 ^ 48) :
    (calcDeltaMine deltaExec weight lw).exact = true ∧ (∀ delta ≤ deltaExec,
        (calcDeltaMine delta weight lw).value ≤ (calcDeltaMine deltaExec weight lw).value) ∧
      |((calcDeltaMine deltaExec weight lw).value : ℚ) - deltaExec * weight / lw.weight| ≤
        deltaExec * weight / lw.weight * (lw.weight / 2 ^ 32 + 1 / 2 ^ 17) + 1 := by
  have hinverse := inverse_eq hlow hhigh hinv
  have hsmall : lw.inverse ≤ 2 ^ 31 := by
    rw [hinverse]
    exact Nat.div_le_of_le_mul (by omega)
  obtain ⟨hexact, hvalue⟩ := calcDeltaMine_ensures hweight hsmall hdelta
  refine ⟨hexact, fun delta hle => ?_, ?_⟩
  · have hmul := Nat.mul_le_mul_right weight hle
    rw [hvalue, (calcDeltaMine_ensures hweight hsmall (hmul.trans hdelta)).2]
    exact scaled_mono (by omega) (by exact_mod_cast hmul)
  · have hw : (0 : Int) < lw.weight := by omega
    have htmp : (0 : Int) ≤ (deltaExec * weight : Nat) := by omega
    obtain ⟨hlower, hupper⟩ := scaled_close htmp hw
    have hcast : (lw.inverse : Int) = 2 ^ 32 / lw.weight := by
      rw [hinverse, Int.natCast_ediv]
      rfl
    rw [hvalue, hcast]
    generalize scaled (deltaExec * weight : Nat) _ = r at hlower hupper
    have hwq : (0 : ℚ) < lw.weight := by exact_mod_cast hw
    obtain ⟨x, hx⟩ : ∃ x : ℚ, x = deltaExec * weight / lw.weight := ⟨_, rfl⟩
    have hproduct : (deltaExec : ℚ) * weight = lw.weight * x := by rw [hx, mul_div_cancel₀ _ hwq.ne']
    have hlowerq : (deltaExec : ℚ) * weight * 2 ^ 32 ≤
        lw.weight * (r * 2 ^ 32 + deltaExec * weight + 2 ^ 32) + deltaExec * weight * 2 ^ 15 := by
      exact_mod_cast hlower
    have hupperq : (lw.weight : ℚ) * (r * 2 ^ 32) ≤ deltaExec * weight * 2 ^ 32 +
        lw.weight * (deltaExec * weight + 2 ^ 32) + deltaExec * weight * 2 ^ 15 := by
      exact_mod_cast hupper
    rw [hproduct] at hlowerq hupperq
    rw [← hx, abs_le]
    have hleft : x * 2 ^ 32 ≤ r * 2 ^ 32 + lw.weight * x + 2 ^ 32 + x * 2 ^ 15 :=
      le_of_mul_le_mul_left (by linarith) hwq
    have hright : (r : ℚ) * 2 ^ 32 ≤ x * 2 ^ 32 + lw.weight * x + 2 ^ 32 + x * 2 ^ 15 :=
      le_of_mul_le_mul_left (by linarith) hwq
    constructor
    · linarith
    · linarith

/-- A millisecond of a task of nice 1 among tasks of nice 0. -/
theorem calcDeltaMine_accurate_nice : (calcDeltaMine 1000000 1024 ⟨820, 0⟩).exact = true :=
  (calcDeltaMine_accurate (by decide) (by decide) (by decide) (.inl rfl) (by decide)).1

end BigLittle.Sched
