import Mathlib.Tactic.Linarith
import BigLittle.Sched.Avg

/-!
# Rounding and range of the decayed series

Facts about `decay_load` and `__compute_runnable_contrib` alone: decay is
monotone and never increases its operand, and the periods added by one update
cannot outgrow what the same update decays away. The last family of bounds is
where the table and the special case for 345 or more periods meet; each is a
finite computation below 345 periods and a shift argument above. At the end, what
decaying in two parts loses against decaying at once.
-/

namespace BigLittle.Sched

open Nat (div_mul_le_self lt_div_mul_add mul_le_mul_left mul_le_mul_right zero_le)

lemma runnableAvgYNInv_lt (n : Nat) : runnableAvgYNInv.getD (n % loadAvgPeriod) 0 < 2 ^ 32 :=
  (by decide : ∀ i < 32, runnableAvgYNInv.getD i 0 < 2 ^ 32) _ (Nat.mod_lt n (by decide : 0 < loadAvgPeriod))

/-- Whole half-lives are plain shifts; the table only lowers what is left. -/
lemma decayLoad_le_shift (val n : Nat) : decayLoad val n ≤ val >>> (n / loadAvgPeriod) := by
  unfold decayLoad
  split
  next h => simp [h]
  · split
    · exact zero_le _
    · rw [Nat.shiftRight_eq_div_pow _ 32]
      apply Nat.div_le_of_le_mul
      calc
        Word.mul 64 (val >>> (n / loadAvgPeriod)) _
            ≤ val >>> (n / loadAvgPeriod) * runnableAvgYNInv.getD (n % loadAvgPeriod) 0 :=
          Word.mul_le _ _ _
        _ ≤ val >>> (n / loadAvgPeriod) * 2 ^ 32 :=
          mul_le_mul_left _ (Nat.le_of_lt (runnableAvgYNInv_lt n))
        _ = 2 ^ 32 * val >>> (n / loadAvgPeriod) := Nat.mul_comm _ _

lemma decayLoad_le (val n : Nat) : decayLoad val n ≤ val :=
  Nat.le_trans (decayLoad_le_shift val n) (Nat.shiftRight_le _ _)

/-- On 32-bit sums the 64-bit product of `decay_load` never wraps. -/
lemma decayLoad_eq {val n : Nat} (hval : val < 2 ^ 32) (hn : n ≠ 0) (hle : n ≤ loadAvgPeriod * 63) :
    decayLoad val n = val / 2 ^ (n / loadAvgPeriod) * runnableAvgYNInv.getD (n % loadAvgPeriod) 0 / 2 ^ 32 := by
  have hshift : val >>> (n / loadAvgPeriod) < 2 ^ 32 :=
    Nat.lt_of_le_of_lt (Nat.shiftRight_le _ _) hval
  have hprod : val >>> (n / loadAvgPeriod) * runnableAvgYNInv.getD (n % loadAvgPeriod) 0 < 2 ^ 64 := by
    have h64 : 2 ^ 64 = 2 ^ 32 * 2 ^ 32 := rfl
    rw [h64]
    exact Nat.mul_lt_mul'' hshift (runnableAvgYNInv_lt n)
  rw [decayLoad, if_neg hn, if_neg (by omega), Word.mul_of_lt hprod,
    Nat.shiftRight_eq_div_pow _ 32, Nat.shiftRight_eq_div_pow]

lemma decayLoad_eq_zero {val n : Nat} (hn : loadAvgPeriod * 63 < n) : decayLoad val n = 0 := by
  rw [decayLoad, if_neg (by omega), if_pos hn]

lemma decayLoad_mono {a b : Nat} (h : a ≤ b) (hb : b < 2 ^ 32) (n : Nat) : decayLoad a n ≤ decayLoad b n := by
  by_cases hn : n = 0
  · simpa [decayLoad, hn] using h
  · by_cases hle : n ≤ loadAvgPeriod * 63
    · rw [decayLoad_eq (Nat.lt_of_le_of_lt h hb) hn hle, decayLoad_eq hb hn hle]
      exact Nat.div_le_div_right (mul_le_mul_right _ (Nat.div_le_div_right h))
    · rw [decayLoad_eq_zero (Nat.not_le.mp hle)]
      exact zero_le _

/-- Rounding lets a decayed total exceed the decayed part by at most the rest
and one unit for each of the two truncations. -/
lemma decayLoad_add_le {a b : Nat} (hab : a + b < 2 ^ 32) (n : Nat) : decayLoad (a + b) n ≤ decayLoad a n + b + 2 := by
  by_cases hn : n = 0
  · simp [decayLoad, hn]
  · by_cases hle : n ≤ loadAvgPeriod * 63
    · rw [decayLoad_eq hab hn hle, decayLoad_eq (by omega) hn hle]
      have hy := runnableAvgYNInv_lt n
      generalize runnableAvgYNInv.getD (n % loadAvgPeriod) 0 = y at hy
      generalize 2 ^ (n / loadAvgPeriod) = d
      have hsplit : (a + b) / d ≤ a / d + (b + 1) := by
        rcases Nat.eq_zero_or_pos d with rfl | hd
        · simp
        · rw [Nat.add_div hd]
          have hb : b / d ≤ b := Nat.div_le_self b d
          split <;> omega
      calc
        (a + b) / d * y / 2 ^ 32 ≤ (a / d * y + (b + 1) * 2 ^ 32) / 2 ^ 32 := by
          apply Nat.div_le_div_right
          calc
            (a + b) / d * y ≤ (a / d + (b + 1)) * y := mul_le_mul_right _ hsplit
            _ = a / d * y + (b + 1) * y := Nat.add_mul _ _ _
            _ ≤ a / d * y + (b + 1) * 2 ^ 32 :=
              Nat.add_le_add_left (mul_le_mul_left _ (Nat.le_of_lt hy)) _
        _ = a / d * y / 2 ^ 32 + (b + 1) := Nat.add_mul_div_right _ _ (by decide)
        _ ≤ a / d * y / 2 ^ 32 + b + 2 := by omega
    · rw [decayLoad_eq_zero (Nat.not_le.mp hle)]
      exact zero_le _

lemma computeRunnableContrib_of_ge {n : Nat} (hn : loadAvgMaxN ≤ n) : computeRunnableContrib n = loadAvgMax := by
  have hperiod : ¬ n ≤ loadAvgPeriod := by
    have : loadAvgPeriod < loadAvgMaxN := by decide
    omega
  rw [computeRunnableContrib, if_neg hperiod, if_pos hn]

/-- Past 345 periods a decayed sum has been halved ten times. -/
lemma decayLoad_le_of_long (val : Nat) {k : Nat} (hk : loadAvgMaxN ≤ k) : decayLoad val (k + 1) ≤ val / 1024 := by
  refine Nat.le_trans (decayLoad_le_shift val (k + 1)) ?_
  have hten : 10 ≤ (k + 1) / loadAvgPeriod := by
    unfold loadAvgMaxN at hk
    unfold loadAvgPeriod
    omega
  have hpow : 1024 ≤ 2 ^ ((k + 1) / loadAvgPeriod) :=
    Nat.pow_le_pow_right (by decide : 0 < 2) hten
  rw [Nat.shiftRight_eq_div_pow]
  exact Nat.div_le_div_left hpow (by decide)

/-- A sum that has reached at most the 48th boundary is, after one roll-over,
at least one full period below it again. -/
lemma decay_contrib_le {val : Nat} (hval : val ≤ 49152) (k : Nat) :
    decayLoad val (k + 1) + computeRunnableContrib k ≤ 48128 := by
  by_cases hk : k < loadAvgMaxN
  · refine Nat.le_trans (Nat.add_le_add_right (decayLoad_mono hval (by decide) _) _) ?_
    exact (by decide +kernel : ∀ k < loadAvgMaxN, decayLoad 49152 (k + 1) + computeRunnableContrib k ≤ 48128) k hk
  · have hlong := decayLoad_le_of_long val (Nat.not_lt.mp hk)
    rw [computeRunnableContrib_of_ge (Nat.not_lt.mp hk)]
    unfold loadAvgMax
    omega

/-- A sum of any 32-bit size loses at least two periods at a roll-over, once it
is above 101024; below that it stays below it. -/
lemma decay_contrib_le_max {val bound : Nat} (hval : val ≤ bound) (hlow : 101024 ≤ bound)
    (hbound : bound < 2 ^ 32) (k : Nat) : decayLoad val (k + 1) + computeRunnableContrib k + 2048 ≤ bound := by
  have hbase : decayLoad 101024 (k + 1) + computeRunnableContrib k ≤ 98859 := by
    by_cases hk : k < loadAvgMaxN
    · exact (by decide +kernel : ∀ k < loadAvgMaxN, decayLoad 101024 (k + 1) + computeRunnableContrib k ≤ 98859) k hk
    · have hlong := decayLoad_le_of_long 101024 (Nat.not_lt.mp hk)
      rw [computeRunnableContrib_of_ge (Nat.not_lt.mp hk)]
      unfold loadAvgMax
      omega
  have hsplit : 101024 + (bound - 101024) = bound := by omega
  have hadd := decayLoad_add_le (a := 101024) (b := bound - 101024) (by omega) (k + 1)
  rw [hsplit] at hadd
  have hmono := decayLoad_mono hval hbound (k + 1)
  omega

lemma decayLoad_succ_le {val : Nat} (hval : val < 2 ^ 32) (n : Nat) : decayLoad val (n + 1) ≤ decayLoad val n := by
  by_cases hn : n = 0
  · simpa [hn, decayLoad] using decayLoad_le val 1
  by_cases hle : n + 1 ≤ loadAvgPeriod * 63
  · rw [decayLoad_eq hval (Nat.succ_ne_zero n) hle, decayLoad_eq hval hn (Nat.le_of_succ_le hle)]
    apply Nat.div_le_div_right
    unfold loadAvgPeriod
    have htable : ∀ i < 31, runnableAvgYNInv.getD (i + 1) 0 ≤ runnableAvgYNInv.getD i 0 := by decide
    by_cases hlast : n % 32 = 31
    · -- the table starts again with half of the value
      have hdiv : (n + 1) / 32 = n / 32 + 1 := by omega
      have hmod : (n + 1) % 32 = 0 := by omega
      have hstart : runnableAvgYNInv.getD 0 0 ≤ 2 * runnableAvgYNInv.getD 31 0 := by decide
      rw [hdiv, hmod, hlast, Nat.pow_succ, ← Nat.div_div_eq_div_mul]
      generalize val / 2 ^ (n / 32) = v
      calc v / 2 * runnableAvgYNInv.getD 0 0 ≤ v / 2 * (2 * runnableAvgYNInv.getD 31 0) := mul_le_mul_left _ hstart
        _ = v / 2 * 2 * runnableAvgYNInv.getD 31 0 := (Nat.mul_assoc _ _ _).symm
        _ ≤ v * runnableAvgYNInv.getD 31 0 := mul_le_mul_right _ (div_mul_le_self v 2)
    · have hdiv : (n + 1) / 32 = n / 32 := by omega
      have hmod : (n + 1) % 32 = n % 32 + 1 := by omega
      rw [hdiv, hmod]
      exact mul_le_mul_left _ (htable _ (by omega))
  · rw [decayLoad_eq_zero (Nat.not_le.mp hle)]
    exact zero_le _

lemma decayLoad_antitone {val n n' : Nat} (hval : val < 2 ^ 32) (h : n ≤ n') : decayLoad val n' ≤ decayLoad val n := by
  induction h with
  | refl => exact Nat.le_refl _
  | step _ ih => exact Nat.le_trans (decayLoad_succ_le hval _) ih

/-- Factors of the table multiply to the factor of the sum of the periods, but for the last bits. -/
lemma runnableAvgYNInv_mul : ∀ i < 32, ∀ j < 32, 2 ^ 32 * runnableAvgYNInv.getD ((i + j) % 32) 0 ≤
    2 ^ ((i + j) / 32) * (runnableAvgYNInv.getD i 0 * runnableAvgYNInv.getD j 0 + 3 * 2 ^ 32) ∧
    2 ^ ((i + j) / 32) * (runnableAvgYNInv.getD i 0 * runnableAvgYNInv.getD j 0) ≤
    2 ^ 32 * (runnableAvgYNInv.getD ((i + j) % 32) 0 + 1) := by
  decide +kernel

/-- Two truncated scalings against one, when the factors agree up to rounding. -/
lemma scale_twice {N A B C x y z v : Nat} (hB : 0 < B) (hC : 0 < C) (hv : v < N) (hy : y < N) (hz : z < N)
    (hlow : N * z ≤ C * (x * y + 3 * N)) (hhigh : C * (x * y) ≤ N * (z + 1)) :
    v / A * x / N / B * y / N ≤ v / (A * (B * C)) * z / N + 5 ∧ v / (A * (B * C)) * z / N ≤
    v / A * x / N / B * y / N + 5 := by
  have hN : 0 < N := Nat.zero_lt_of_lt hv
  rw [← Nat.div_div_eq_div_mul, ← Nat.div_div_eq_div_mul]
  have hu : v / A < N := (Nat.div_le_self v A).trans_lt hv
  generalize v / A = u at hu
  -- what each division leaves over
  have hp := div_mul_le_self (u * x) N
  have hp' := lt_div_mul_add (a := u * x) hN
  generalize u * x / N = p at hp hp'
  have hr := div_mul_le_self p B
  have hr' := lt_div_mul_add (a := p) hB
  generalize p / B = r at hr hr'
  have hq := div_mul_le_self u B
  have hq' := lt_div_mul_add (a := u) hB
  have hqN : u / B < N := (Nat.div_le_self u B).trans_lt hu
  generalize u / B = q at hq hq' hqN
  have hs := div_mul_le_self q C
  have hs' := lt_div_mul_add (a := q) hC
  have hsN : q / C < N := (Nat.div_le_self q C).trans_lt hqN
  generalize q / C = s at hs hs' hsN
  have hd := div_mul_le_self (r * y) N
  have hd' := lt_div_mul_add (a := r * y) hN
  generalize r * y / N = d at hd hd'
  have hw := div_mul_le_self (s * z) N
  have hw' := lt_div_mul_add (a := s * z) hN
  generalize s * z / N = w at hw hw'
  constructor
  · have hrx : r * N ≤ (q + 1) * x := by
      apply Nat.le_of_mul_le_mul_left _ hB
      linarith [mul_le_mul_right N hr, mul_le_mul_right x hq'.le]
    have hdx : d * N * N ≤ (q + 1) * (x * y) := by
      linarith [mul_le_mul_right N hd, mul_le_mul_right y hrx]
    have hdz : d * N ≤ (s + 1) * (z + 1) := by
      apply Nat.le_of_mul_le_mul_left _ (Nat.mul_pos hC hN)
      linarith [mul_le_mul_left C hdx, mul_le_mul_left (q + 1) hhigh,
        mul_le_mul_right (N * (z + 1)) (Nat.succ_le_of_lt hs')]
    have hlt : d * N < (w + 5) * N := by linarith
    exact (Nat.lt_of_mul_lt_mul_right hlt).le
  · have hqx : q * x ≤ (r + 1) * N := by
      apply Nat.le_of_mul_le_mul_left _ hB
      linarith [mul_le_mul_right x hq, mul_le_mul_right N (Nat.succ_le_of_lt hr')]
    have hwz : w * N ≤ (r + 1) * y + 3 * q := by
      apply Nat.le_of_mul_le_mul_left _ (Nat.mul_pos hC hN)
      linarith [mul_le_mul_right (C * N) hw, mul_le_mul_right (z * N) hs, mul_le_mul_left q hlow,
        mul_le_mul_left C (mul_le_mul_right y hqx)]
    have hlt : w * N < (d + 5) * N := by linarith
    exact (Nat.lt_of_mul_lt_mul_right hlt).le

/-- The decay of 32-bit sums never raises a sum, keeps their order, only lowers them further as periods
go by, ends at 0, and decaying in two parts is decaying at once up to 5. -/
theorem decayLoad_laws {val : Nat} (hval : val < 2 ^ 32) : (∀ n, decayLoad val n ≤ val) ∧
    (∀ n val', val' ≤ val → decayLoad val' n ≤ decayLoad val n) ∧
    (∀ n n', n ≤ n' → decayLoad val n' ≤ decayLoad val n) ∧ (∀ n, 2016 < n → decayLoad val n = 0) ∧ ∀ n m,
    decayLoad (decayLoad val m) n ≤ decayLoad val (n + m) + 5 ∧ decayLoad val (n + m) ≤
    decayLoad (decayLoad val m) n + 5 := by
  refine ⟨decayLoad_le val, fun n val' h => decayLoad_mono h hval n, fun n n' => decayLoad_antitone hval,
    fun n => decayLoad_eq_zero, fun n m => ?_⟩
  by_cases hm : m = 0
  · simp [hm, decayLoad]
  by_cases hn : n = 0
  · simp [hn, decayLoad]
  by_cases hle : n + m ≤ loadAvgPeriod * 63
  · have hdecayed := (decayLoad_le val m).trans_lt hval
    rw [decayLoad_eq hdecayed hn (Nat.le_of_add_right_le hle), decayLoad_eq hval hm (Nat.le_of_add_left_le hle),
      decayLoad_eq hval (by omega) hle]
    unfold loadAvgPeriod
    have hpow : 2 ^ ((n + m) / 32) = 2 ^ (m / 32) * (2 ^ (n / 32) * 2 ^ ((m % 32 + n % 32) / 32)) := by
      rw [← Nat.pow_add, ← Nat.pow_add]
      congr 1
      omega
    have hmod : (n + m) % 32 = (m % 32 + n % 32) % 32 := by omega
    obtain ⟨hlow, hhigh⟩ := runnableAvgYNInv_mul (m % 32) (by omega) (n % 32) (by omega)
    rw [hpow, hmod]
    exact scale_twice (Nat.two_pow_pos _) (Nat.two_pow_pos _) hval (runnableAvgYNInv_lt n) (runnableAvgYNInv_lt _)
      hlow hhigh
  · -- so many periods shift everything out
    have hshift := decayLoad_le_shift val m
    have htwice := decayLoad_le_shift (decayLoad val m) n
    unfold loadAvgPeriod at *
    rw [Nat.shiftRight_eq_div_pow] at hshift htwice
    have hout : val / 2 ^ (m / 32) / 2 ^ (n / 32) = 0 := by
      rw [Nat.div_div_eq_div_mul, ← Nat.pow_add]
      apply Nat.div_eq_of_lt
      exact hval.trans_le (Nat.pow_le_pow_right (by decide) (by omega))
    have hzero := htwice.trans (Nat.div_le_div_right hshift)
    rw [decayLoad_eq_zero (Nat.not_le.mp hle)]
    omega

/-- The largest 32-bit sum over 40 periods and over 24 and 16 of them. -/
theorem decayLoad_laws_largest : decayLoad (decayLoad (2 ^ 32 - 1) 24) 16 ≤ decayLoad (2 ^ 32 - 1) 40 + 5 ∧
    decayLoad (2 ^ 32 - 1) 40 ≤ decayLoad (decayLoad (2 ^ 32 - 1) 24) 16 + 5 :=
  (decayLoad_laws (by decide)).2.2.2.2 16 24

/-- `n` periods, each of them decayed by itself. -/
def decayedPeriods : Nat → Nat
  | 0 => 0
  | n + 1 => decayedPeriods n + decayLoad 1024 (n + 1)

/-- The tables never count less than that, and little more until the loop is cut off: there the period that has not
been decayed comes in as well. -/
theorem computeRunnableContrib_near (n : Nat) : decayedPeriods n ≤ computeRunnableContrib n ∧
    computeRunnableContrib n ≤ decayedPeriods n + if n < loadAvgMaxN then 160 else 1024 + 164 := by
  by_cases hn : n < loadAvgMaxN
  · rw [if_pos hn]
    exact (by decide +kernel : ∀ n < loadAvgMaxN, decayedPeriods n ≤ computeRunnableContrib n ∧
      computeRunnableContrib n ≤ decayedPeriods n + 160) n hn
  · have hle := Nat.not_lt.mp hn
    have hend : decayedPeriods n = 46554 := by
      induction n, hle using Nat.le_induction with
      | base => decide +kernel
      | succ n hle ih =>
        have hzero : decayLoad 1024 (n + 1) ≤ 0 := decayLoad_antitone (by decide) (Nat.le_succ_of_le hle)
        rw [decayedPeriods, ih (Nat.not_lt.mpr hle), Nat.le_zero.mp hzero]
    rw [if_neg hn, computeRunnableContrib_of_ge hle, hend]
    decide

end BigLittle.Sched
