import Mathlib.Logic.Function.Iterate
import BigLittle.Lib.Run
import BigLittle.Lib.Word

/-!
# The load history of a CPU

`__update_cpu_load` keeps five averages of the load of a CPU. At a tick, the one with index `i` gives
the load a weight of `1 / 2^i`, and rounds up while it rises. For ticks that an idle CPU missed,
`decay_load_missed` scales an average down with a table of factors. Loads are words of `w` bits.
-/

namespace BigLittle.Core

open Word

def degradeShift : Nat := 7

def degradeZeroTicks : List Nat := [0, 8, 32, 64, 128]

def degradeFactor : List (List Nat) :=
  [[0, 0, 0, 0, 0, 0, 0, 0], [64, 32, 8, 0, 0, 0, 0, 0], [96, 72, 40, 12, 1, 0, 0, 0],
   [112, 98, 75, 43, 15, 1, 0, 0], [120, 112, 98, 76, 45, 16, 2, 0]]

/-- The loop of `decay_load_missed` from column `j` on; `none` if it reads outside the row. -/
def degradeLoop (w : Nat) (row : List Nat) (load missed j : Nat) : Option Nat :=
  if missed = 0 then some load
  else if missed % 2 = 1 then
    row[j]?.bind fun factor =>
      degradeLoop w row (mul w load factor >>> degradeShift) (missed / 2) (j + 1)
  else degradeLoop w row load (missed / 2) (j + 1)
termination_by missed

/-- `decay_load_missed`; `none` if it reads outside a table. -/
def decayLoadMissed (w load missed idx : Nat) : Option Nat :=
  if missed = 0 then some load
  else do
    let zeroTicks ← degradeZeroTicks[idx]?
    if zeroTicks ≤ missed then some 0
    else if idx = 1 then some (load >>> missed)
    else
      let row ← degradeFactor[idx]?
      degradeLoop w row load missed 0

/-- The body of the loop of `__update_cpu_load`, after the missed ticks. -/
def nextLoad (w i thisLoad old : Nat) : Nat :=
  let scale := 2 ^ i
  let new := if old < thisLoad then add w thisLoad (scale - 1) else thisLoad
  add w (mul w old (scale - 1)) new >>> i

/-- `__update_cpu_load` -/
def updateCpuLoad (w thisLoad pending : Nat) (cpuLoad : Fin 5 → Nat) : Fin 5 → Nat := fun i =>
  if i = 0 then thisLoad
  else nextLoad w i thisLoad ((decayLoadMissed w (cpuLoad i) (sub w pending 1) i).getD 0)

/-- The sequence moves towards the limit, never past it, and gets there. -/
def Approaches (x : Nat → Nat) (limit : Nat) : Prop :=
  (∀ k, (x k ≤ limit → x k ≤ x (k + 1) ∧ x (k + 1) ≤ limit) ∧
    (limit ≤ x k → limit ≤ x (k + 1) ∧ x (k + 1) ≤ x k)) ∧ ∃ k, x k = limit

/-- The weighted load is a word, and so is the sum of the first tick from above; if it is not, it is
not cut below the weighted load. -/
def Weighable (w i load old : Nat) : Prop :=
  load * 2 ^ i < 2 ^ w ∧ (load ≤ old → load * 2 ^ i ≤ (old * (2 ^ i - 1) + load) % 2 ^ w)

section Decay

variable {w load missed j : Nat} {row : List Nat}

/-- A bit is left for each column that is. -/
lemma half_lt_two_pow (hne : missed ≠ 0) (h : missed < 2 ^ (8 - j)) : j < 8 ∧ missed / 2 < 2 ^ (8 - (j + 1)) := by
  have hj : j < 8 := by
    by_contra hj
    rw [Nat.sub_eq_zero_of_le (Nat.not_lt.mp hj)] at h
    omega
  obtain ⟨left, hleft⟩ : ∃ left, 8 - j = left + 1 := ⟨7 - j, by omega⟩
  have hnext : 8 - (j + 1) = left := by omega
  rw [hleft, Nat.pow_succ] at h
  rw [hnext]
  omega

lemma degradeLoop_le (hlength : row.length = 8) (hrow : ∀ factor ∈ row, factor ≤ 128)
    (hmissed : missed < 2 ^ (8 - j)) : ∃ result ≤ load, degradeLoop w row load missed j = some result := by
  fun_induction degradeLoop w row load missed j with
  | case1 load j => exact ⟨load, Nat.le_refl _, rfl⟩
  | case2 load missed j hne hodd ih =>
    obtain ⟨hj, hhalf⟩ := half_lt_two_pow hne hmissed
    have hfactor := hrow _ (List.getElem_mem (hlength ▸ hj))
    rw [List.getElem?_eq_getElem (hlength ▸ hj)]
    obtain ⟨result, hle, hresult⟩ := ih row[j] hhalf
    refine ⟨result, hle.trans ?_, hresult⟩
    rw [Nat.shiftRight_eq_div_pow]
    apply Nat.div_le_of_le_mul
    calc mul w load row[j] ≤ load * row[j] := mul_le _ _ _
      _ ≤ load * 128 := Nat.mul_le_mul_left _ hfactor
      _ = 2 ^ degradeShift * load := Nat.mul_comm _ _
  | case3 load missed j hne heven ih => exact ih (half_lt_two_pow hne hmissed).2

lemma tables_complete : ∀ idx : Fin 5, degradeZeroTicks[idx.1]? = some (degradeZeroTicks.getD idx 0) ∧
    degradeZeroTicks.getD idx 0 ≤ 256 ∧ degradeFactor[idx.1]? = some (degradeFactor.getD idx []) ∧
    (degradeFactor.getD idx []).length = 8 ∧ ∀ factor ∈ degradeFactor.getD idx [], factor ≤ 128 := by
  decide

lemma decayLoadMissed_le (w load missed : Nat) (idx : Fin 5) :
    ∃ result ≤ load, decayLoadMissed w load missed idx = some result := by
  obtain ⟨hzero, hle, hrow, hlength, hfactors⟩ := tables_complete idx
  rw [decayLoadMissed, hzero, hrow]
  split
  · exact ⟨load, Nat.le_refl _, rfl⟩
  · dsimp only [Option.bind_eq_bind, Option.bind_some]
    split
    · exact ⟨0, Nat.zero_le _, rfl⟩
    split
    · exact ⟨_, Nat.shiftRight_le _ _, rfl⟩
    · exact degradeLoop_le hlength hfactors (by omega)

end Decay

section Ticks

variable {w i load old : Nat}

lemma nextLoad_eq (w i load old : Nat) : nextLoad w i load old =
    (old * (2 ^ i - 1) + if old < load then load + (2 ^ i - 1) else load) % 2 ^ w / 2 ^ i := by
  dsimp only [nextLoad]
  rw [Nat.shiftRight_eq_div_pow]
  split
  · simp [add, mul, wrap]
  · simp [add, mul, wrap]

lemma mul_pred_add (i x : Nat) : x * (2 ^ i - 1) + x = x * 2 ^ i := by
  rw [← Nat.mul_succ, Nat.succ_eq_add_one, Nat.sub_add_cancel (Nat.two_pow_pos i)]

/-- From above, a tick goes down, and not past the load exactly if the sum is not cut below it. -/
lemma nextLoad_of_le (hle : load ≤ old) : nextLoad w i load old ≤ old ∧ (load < old → nextLoad w i load old < old) ∧
    (load ≤ nextLoad w i load old ↔ load * 2 ^ i ≤ (old * (2 ^ i - 1) + load) % 2 ^ w) := by
  have hsum := mul_pred_add i old
  have hcut := Nat.mod_le (old * (2 ^ i - 1) + load) (2 ^ w)
  rw [nextLoad_eq, if_neg (Nat.not_lt.mpr hle)]
  refine ⟨?_, fun hlt => ?_, Nat.le_div_iff_mul_le (Nat.two_pow_pos i)⟩
  · apply Nat.div_le_of_le_mul
    rw [Nat.mul_comm (2 ^ i)]
    omega
  · apply Nat.div_lt_of_lt_mul
    rw [Nat.mul_comm (2 ^ i)]
    omega

/-- From below, a tick goes up and not past the load. -/
lemma nextLoad_of_lt (hword : load * 2 ^ i < 2 ^ w) (hlt : old < load) :
    old < nextLoad w i load old ∧ nextLoad w i load old ≤ load := by
  have hload := mul_pred_add i load
  have hold := mul_pred_add i (old + 1)
  have hmul : (old + 1) * (2 ^ i - 1) ≤ load * (2 ^ i - 1) := Nat.mul_le_mul_right _ hlt
  rw [Nat.succ_mul old (2 ^ i - 1)] at hold hmul
  rw [nextLoad_eq, if_pos hlt, Nat.mod_eq_of_lt (by omega)]
  constructor
  · apply (Nat.le_div_iff_mul_le (Nat.two_pow_pos i)).mpr
    show (old + 1) * 2 ^ i ≤ _
    omega
  · apply Nat.div_le_of_le_mul
    rw [Nat.mul_comm (2 ^ i)]
    omega

/-- At the load, a tick stays there exactly if the weighted load is a word. -/
lemma nextLoad_self : nextLoad w i load load = load ↔ load * 2 ^ i < 2 ^ w := by
  have hscale := Nat.two_pow_pos i
  rw [nextLoad_eq, if_neg (Nat.lt_irrefl load), mul_pred_add]
  constructor
  · intro h
    have hle := (Nat.le_div_iff_mul_le hscale).mp h.ge
    exact hle.trans_lt (Nat.mod_lt _ (Nat.two_pow_pos w))
  · intro h
    rw [Nat.mod_eq_of_lt h, Nat.mul_div_cancel _ hscale]

lemma Weighable.step (h : Weighable w i load old) :
    (old ≤ load → old ≤ nextLoad w i load old ∧ nextLoad w i load old ≤ load) ∧
    (load ≤ old → load ≤ nextLoad w i load old ∧ nextLoad w i load old ≤ old) := by
  constructor
  · intro hle
    rcases Nat.lt_or_eq_of_le hle with hlt | rfl
    · exact ⟨(nextLoad_of_lt h.1 hlt).1.le, (nextLoad_of_lt h.1 hlt).2⟩
    · rw [nextLoad_self.mpr h.1]
      exact ⟨Nat.le_refl _, Nat.le_refl _⟩
  · intro hle
    exact ⟨(nextLoad_of_le hle).2.2.mpr (h.2 hle), (nextLoad_of_le hle).1⟩

lemma Weighable.next (h : Weighable w i load old) : Weighable w i load (nextLoad w i load old) := by
  refine ⟨h.1, fun hle => ?_⟩
  have hword : nextLoad w i load old * 2 ^ i < 2 ^ w := by
    rw [nextLoad_eq]
    exact (Nat.div_mul_le_self _ _).trans_lt (Nat.mod_lt _ (Nat.two_pow_pos w))
  have hsum := mul_pred_add i (nextLoad w i load old)
  have hload := mul_pred_add i load
  have hmul := Nat.mul_le_mul_right (2 ^ i - 1) hle
  rw [Nat.mod_eq_of_lt (by omega)]
  omega

/-- The distance to the load falls until it is reached. -/
lemma Weighable.reaches (h : Weighable w i load old) : ∃ k, (nextLoad w i load)^[k] old = load := by
  induction hd : (old - load) + (load - old) using Nat.strong_induction_on generalizing old with
  | _ d ih =>
    by_cases heq : old = load
    · exact ⟨0, heq⟩
    · have hlt : (nextLoad w i load old - load) + (load - nextLoad w i load old) < d := by
        rcases Nat.lt_or_gt_of_ne heq with hlt | hgt
        · have := nextLoad_of_lt h.1 hlt
          omega
        · have := (nextLoad_of_le (w := w) (i := i) hgt.le).2.1 hgt
          have := h.step.2 hgt.le
          omega
      obtain ⟨k, hk⟩ := ih _ hlt h.next rfl
      exact ⟨k + 1, hk⟩

lemma approaches_nextLoad_iff : Approaches (fun k => (nextLoad w i load)^[k] old) load ↔ Weighable w i load old := by
  constructor
  · rintro ⟨hstep, k, hk⟩
    refine ⟨?_, fun hle => (nextLoad_of_le hle).2.2.mp ((hstep 0).2 hle).1⟩
    have hstays := hstep k
    simp only [Function.iterate_succ_apply', hk] at hstays
    rw [← nextLoad_self]
    exact Nat.le_antisymm (hstays.1 (Nat.le_refl _)).2 (hstays.2 (Nat.le_refl _)).1
  · intro h
    have hrun : ∀ k, Weighable w i load ((nextLoad w i load)^[k] old) := by
      intro k
      induction k with
      | zero => exact h
      | succ k ih =>
        rw [Function.iterate_succ_apply']
        exact ih.next
    refine ⟨fun k => ?_, h.reaches⟩
    simp only [Function.iterate_succ_apply']
    exact (hrun k).step

/-- A tick works on each index alone, and at index 0 takes the load. -/
lemma iterate_updateCpuLoad (hload : load < 2 ^ w) (k : Nat) (cpuLoad : Fin 5 → Nat) (i : Fin 5) :
    (updateCpuLoad w load 1)^[k] cpuLoad i = (nextLoad w i load)^[k] (cpuLoad i) := by
  have hnone : sub w 1 1 = 0 := by
    cases w with
    | zero => rfl
    | succ w => exact sub_of_le (Nat.le_refl 1) (Nat.one_lt_two_pow (Nat.succ_ne_zero w))
  have htick : ∀ cpuLoad : Fin 5 → Nat, updateCpuLoad w load 1 cpuLoad i = nextLoad w i load (cpuLoad i) := by
    intro cpuLoad
    rw [updateCpuLoad, hnone]
    split
    next hi => simp [hi, nextLoad_eq, Nat.mod_eq_of_lt hload]
    next => rfl
  induction k with
  | zero => rfl
  | succ k ih => rw [Function.iterate_succ_apply', Function.iterate_succ_apply', htick, ih]

end Ticks

/-- With a constant load and one update per tick, the average with index `i` approaches the load
exactly if no sum is cut. Missed ticks never make `decay_load_missed` read outside its tables, nor
return more than it was given. -/
theorem cpuLoad_approaches_iff (w : Nat) (load : Fin (2 ^ w)) (cpuLoad : Fin 5 → Nat) :
    (∀ i, Approaches (fun k => (updateCpuLoad w load 1)^[k] cpuLoad i) load ↔ Weighable w i load (cpuLoad i)) ∧
    ∀ (old missed : Nat) (idx : Fin 5), ∃ result ≤ old, decayLoadMissed w old missed idx = some result := by
  refine ⟨fun i => ?_, fun old missed => decayLoadMissed_le w old missed⟩
  simp only [iterate_updateCpuLoad load.2]
  exact approaches_nextLoad_iff

/-- 3025 tasks with the largest weight on a CPU with 32-bit longs: the slowest average is at their load
and leaves it. -/
theorem cpuLoad_leaves_load :
    ¬Approaches (fun k => (updateCpuLoad 32 (3025 * 88761) 1)^[k] (fun _ => 3025 * 88761) 4) (3025 * 88761) := by
  rintro ⟨hstep, -⟩
  exact absurd ((hstep 0).2 (Nat.le_refl _)).1 (by decide)

end BigLittle.Core
