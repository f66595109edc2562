import Mathlib.Data.Int.ModEq
import Mathlib.Tactic.Linarith
import Mathlib.Tactic.Ring
import BigLittle.Sched.Avg

/-!
# Time that goes backwards

`__update_entity_runnable_avg` recognises a time before the last update by the sign of the difference
and then only notes the new time. The difference is unsigned, and `hmp_variable_scale_convert` has
multiplied it by the time scale before the sign is looked at. Modulo the word, the product of `2 ^ 64 - k`
is that of `-k` only for multiplying; dividing it by `2 ^ 16` afterwards moves the sign bit.
-/

namespace BigLittle.Sched

open Word (add isNegative mul ofInt sub wrap)

/-- The values of an `int`. -/
def IsInt (m : Int) : Prop := -2 ^ 31 ≤ m ∧ m < 2 ^ 31

/-- The low half of the difference is multiplied modulo `2 ^ 64`, and for a negative multiplier this shows
above the bits that are shifted out. -/
def lowBorrow (m : Int) (delta : Nat) : Int := if m < 0 ∧ delta % 2 ^ 32 ≠ 0 then 2 ^ 64 else 0

/-- The sign survives a step of `k` back: bit 79 of the product is set. -/
def SignSurvives (m : Int) (k : Nat) : Prop :=
  2 ^ 79 ≤ ((2 ^ 64 - k : Nat) * m + lowBorrow m (2 ^ 64 - k)) % 2 ^ 80
  deriving Decidable

section Convert

variable {m : Int}

lemma cast_mul_ofInt (a : Nat) (m : Int) : ((mul 64 a (ofInt 64 m) : Nat) : Int) = a * m % 2 ^ 64 := by
  have hm : ((ofInt 64 m : Nat) : Int) = m % 2 ^ 64 :=
    Int.toNat_of_nonneg (Int.emod_nonneg m (by decide))
  rw [mul, wrap, Int.natCast_mod, Int.natCast_mul, hm]
  exact (Int.mod_modEq m _).mul_left a

lemma lowProduct_eq (hm : IsInt m) (delta : Nat) :
    ((delta % 2 ^ 32 : Nat) : Int) * m % 2 ^ 64 = (delta % 2 ^ 32 : Nat) * m + lowBorrow m delta := by
  obtain ⟨hlow, hhigh⟩ := hm
  have ha : delta % 2 ^ 32 < 2 ^ 32 := Nat.mod_lt _ (by decide)
  rw [lowBorrow]
  generalize delta % 2 ^ 32 = a at ha
  by_cases hneg : m < 0
  · by_cases hzero : a = 0
    · simp [hzero]
    · have hprod : (a : Int) * m < 0 := Int.mul_neg_of_pos_of_neg (by omega) hneg
      have hbound : -2 ^ 63 ≤ (a : Int) * m := by nlinarith
      rw [if_pos ⟨hneg, hzero⟩]
      omega
  · have hprod : 0 ≤ (a : Int) * m := Int.mul_nonneg (by omega) (by omega)
    have hbound : (a : Int) * m < 2 ^ 63 := by nlinarith
    rw [if_neg fun h => hneg h.1]
    omega

/-- Apart from the borrow, the conversion divides the product with the difference. -/
lemma hmpVariableScaleConvert_eq {env : LoadEnv} (hscale : env.variableScale = true) (hm : IsInt env.multiplier)
    (delta : Nat) : (hmpVariableScaleConvert env delta : Int) =
    (delta * env.multiplier + lowBorrow env.multiplier delta) / 2 ^ 16 % 2 ^ 64 := by
  have hlow := cast_mul_ofInt (delta % 2 ^ 32) env.multiplier
  have hhigh := cast_mul_ofInt (delta / 2 ^ 32) env.multiplier
  rw [lowProduct_eq hm delta] at hlow
  have hsplit : (delta : Int) * env.multiplier =
      (delta / 2 ^ 32 : Nat) * env.multiplier * 2 ^ 32 + (delta % 2 ^ 32 : Nat) * env.multiplier := by
    have hdelta : (delta : Int) = (delta / 2 ^ 32 : Nat) * 2 ^ 32 + (delta % 2 ^ 32 : Nat) := by omega
    calc (delta : Int) * env.multiplier
      _ = ((delta / 2 ^ 32 : Nat) * 2 ^ 32 + (delta % 2 ^ 32 : Nat)) * env.multiplier := by rw [← hdelta]
      _ = _ := by ring
  rw [hmpVariableScaleConvert, hscale, if_pos rfl]
  dsimp only
  rw [hsplit, add, wrap, wrap, Nat.shiftRight_eq_div_pow, Nat.shiftRight_eq_div_pow, Nat.shiftLeft_eq]
  omega

end Convert

section Update

variable {env : LoadEnv} {sa : SchedAvg} {now : Nat}

/-- A difference that is not taken for negative is accounted for, or leaves the old time. -/
lemma update_ne_stamp (hne : now ≠ sa.lastRunnableUpdate)
    (hsign : isNegative 64 (hmpVariableScaleConvert env (sub 64 now sa.lastRunnableUpdate)) = false)
    (runnable running : Bool) (cpu : Int) :
    updateEntityRunnableAvg env now sa runnable running cpu ≠ (sa.stamp now, false) := by
  rw [updateEntityRunnableAvg]
  dsimp only
  rw [hsign, if_neg Bool.false_ne_true]
  generalize hmpVariableScaleConvert env (sub 64 now sa.lastRunnableUpdate) >>> 10 = delta
  split
  · intro h
    exact hne (congrArg (fun r => r.1.lastRunnableUpdate) h).symm
  · next hdelta =>
    rw [SchedAvg.elapse]
    split
    · intro h
      exact nomatch congrArg Prod.snd h
    · next hcrosses =>
      intro h
      have hperiod : add 32 sa.runnableAvgPeriod delta = sa.runnableAvgPeriod :=
        congrArg (fun r => r.1.runnableAvgPeriod) h
      have hrest : ¬ 1024 ≤ delta + sa.runnableAvgPeriod % 1024 := mt decide_eq_true hcrosses
      rw [add, wrap] at hperiod
      omega

/-- For every entity, every multiplier and every time before the last update by less than `2 ^ 63` ns: the
update only notes the new time exactly if the sign survives the multiplication. -/
theorem backwards_only_stamps_iff (hscale : env.variableScale = true) (hm : IsInt env.multiplier)
    (hword : sa.lastRunnableUpdate < 2 ^ 64) (hback : now < sa.lastRunnableUpdate)
    (hnear : sa.lastRunnableUpdate - now < 2 ^ 63) (runnable running : Bool) (cpu : Int) :
    updateEntityRunnableAvg env now sa runnable running cpu = (sa.stamp now, false) ↔
    SignSurvives env.multiplier (sa.lastRunnableUpdate - now) := by
  have hdelta : sub 64 now sa.lastRunnableUpdate = 2 ^ 64 - (sa.lastRunnableUpdate - now) := by
    rw [sub, Word.wrap_of_lt hword, wrap]
    omega
  have hconvert := hmpVariableScaleConvert_eq hscale hm (sub 64 now sa.lastRunnableUpdate)
  have hsign : isNegative 64 (hmpVariableScaleConvert env (sub 64 now sa.lastRunnableUpdate)) = true ↔
      SignSurvives env.multiplier (sa.lastRunnableUpdate - now) := by
    rw [SignSurvives, ← hdelta, isNegative, decide_eq_true_iff]
    omega
  rw [← hsign]
  constructor
  · intro h
    by_contra hnot
    exact update_ne_stamp hback.ne (Bool.eq_false_iff.mpr hnot) runnable running cpu h
  · intro h
    rw [updateEntityRunnableAvg]
    dsimp only
    rw [if_pos h]

/-- With the default time scale a step back by one microsecond is recognised. -/
theorem backwards_only_stamps_default :
    updateEntityRunnableAvg {} 0 { lastRunnableUpdate := 1024, runnableAvgSum := 100, runnableAvgPeriod := 200 }
      true true 0 =
      ({ lastRunnableUpdate := 0, runnableAvgSum := 100, runnableAvgPeriod := 200 }, false) :=
  (backwards_only_stamps_iff rfl ⟨by decide, by decide⟩ (by decide) (by decide) (by decide) true true 0).mpr (by decide)

/-- With half the speed, `load_avg_period_ms` of 64, the same step is taken for 292 years: the load of a
sleeping entity is gone. -/
theorem backwards_forgets_load : updateEntityRunnableAvg { multiplier := 32768 } 0
      { lastRunnableUpdate := 1024, runnableAvgSum := 100, runnableAvgPeriod := 200 } false false 0 =
      ({ lastRunnableUpdate := 0, runnableAvgSum := 0, runnableAvgPeriod := 47941 }, true) := by
  decide +kernel

end Update

end BigLittle.Sched
