import BigLittle.Hmp.Migration

/-!
# Packing small tasks on a buddy

A small task is packed on the buddy of its CPU unless the buddy is busy: "a CPU with a high load or a
small load with a lot of running tasks". `is_buddy_busy` shifts the usage sum left by the number of running
tasks, in 32 bits. A shift by 32 or more is undefined, which is `none`; a shorter one can shift out
the usage altogether.
-/

namespace BigLittle.Packing

open Sched Cfs Hmp

/-- With `CONFIG_HMP_PACK_SMALL_TASK` a CPU has a buddy by `sd_pack_buddy`, where -1 is `none`; with
`CONFIG_MTK_SCHED_CMP_PACK_SMALL_TASK` the buddy is what is passed. -/
inductive Build (n : Nat) where
  | hmp (sdPackBuddy : Fin n → Option (Fin n))
  | cmp

namespace Build

variable {n : Nat} (build : Build n)

/-- The buddy by which `check_pack_buddy` goes; a number that is not that of a CPU is `none`. -/
def buddy (cpu : Option (Fin n)) : Option (Fin n) :=
  match build with
  | .hmp sdPackBuddy => cpu.bind sdPackBuddy
  | .cmp => cpu

def isHmp : Bool :=
  match build with
  | .hmp _ => true
  | .cmp => false

end Build

section Checks

variable {T G : Type*} {n : Nat} (s : State T G n)

def isBuddyBusy (cpu : Option (Fin n)) : Option Bool :=
  match cpu with
  | none => some false
  | some cpu =>
    let rq := s.rq cpu
    if rq.nrRunning < 32 then
      some (decide (rq.avg.runnableAvgPeriod < Word.wrap 32 (rq.avg.usageAvgSum <<< rq.nrRunning)))
    else none

def isLightTask (p : T) : Bool :=
  let avg := (s.se (.task p)).avg
  decide (Word.wrap 32 (avg.usageAvgSum <<< 2) < avg.runnableAvgPeriod)

def checkPackBuddy (build : Build n) (cpu : Option (Fin n)) (p : T) : Option Bool :=
  let avg := (s.se (.task p)).avg
  match build.buddy cpu with
  | none => some false
  | some buddy =>
    -- the task waits on the CPU that is its own buddy
    if build.isHmp ∧ cpu = some buddy ∧
        Word.wrap 32 (avg.usageAvgSum <<< 3) < Word.mul 32 avg.runnableAvgSum 5 then some false
    else if buddy ∉ s.cpusAllowed p then some false
    else if !isLightTask s p then some false
    else (isBuddyBusy s (some buddy)).map (!·)

/-- The sums of a CPU are at most `LOAD_AVG_MAX`. -/
structure SumsBounded (cpu : Fin n) : Prop where
  usage : (s.rq cpu).avg.usageAvgSum ≤ loadAvgMax
  period : (s.rq cpu).avg.runnableAvgPeriod ≤ loadAvgMax

/-- The usage times `2 ^ nr_running` exceeds the period. -/
def Busy (cpu : Fin n) : Prop :=
  (s.rq cpu).avg.runnableAvgPeriod < (s.rq cpu).avg.usageAvgSum * 2 ^ (s.rq cpu).nrRunning
  deriving Decidable

/-- The shift is defined and does not shift out a usage that is there. -/
def UsageKept (cpu : Fin n) : Prop :=
  (s.rq cpu).nrRunning < 32 ∧ ((s.rq cpu).avg.usageAvgSum = 0 ∨
    ¬ 2 ^ 32 ∣ (s.rq cpu).avg.usageAvgSum * 2 ^ (s.rq cpu).nrRunning)
  deriving Decidable

/-- At least the usage and at least the tasks, over the same period. -/
structure Loads (s s' : State T G n) (cpu : Fin n) : Prop where
  usage : (s.rq cpu).avg.usageAvgSum ≤ (s'.rq cpu).avg.usageAvgSum
  period : (s'.rq cpu).avg.runnableAvgPeriod = (s.rq cpu).avg.runnableAvgPeriod
  nrRunning : (s.rq cpu).nrRunning ≤ (s'.rq cpu).nrRunning

end Checks

/-- In 32 bits a period below `2 ^ 16` is exceeded as it should be exactly if the usage is not shifted out:
where the product wraps, the shift is by 17 or more, and what is left is a multiple of `2 ^ 17`. -/
lemma lt_wrap_iff {usage period k : Nat} (husage : usage < 2 ^ 16) (hperiod : period < 2 ^ 16) :
    (period < usage * 2 ^ k % 2 ^ 32 ↔ period < usage * 2 ^ k) ↔ usage = 0 ∨ ¬ 2 ^ 32 ∣ usage * 2 ^ k := by
  by_cases hfits : usage * 2 ^ k < 2 ^ 32
  · rw [Nat.mod_eq_of_lt hfits]
    refine iff_of_true Iff.rfl (or_iff_not_imp_right.mpr fun hdvd => ?_)
    have hzero := Nat.eq_zero_of_dvd_of_lt (not_not.mp hdvd) hfits
    exact (Nat.mul_eq_zero.mp hzero).resolve_right (Nat.two_pow_pos k).ne'
  · have hk : 17 ≤ k := by
      by_contra hk
      have hpow : 2 ^ k ≤ 2 ^ 16 := Nat.pow_le_pow_right (by decide) (by omega)
      exact hfits ((Nat.mul_le_mul_left usage hpow).trans_lt (by omega))
    have hpositive : usage ≠ 0 := by
      rintro rfl
      omega
    have hrest : 2 ^ 17 ∣ usage * 2 ^ k % 2 ^ 32 :=
      (Nat.dvd_mod_iff (pow_dvd_pow 2 (by decide))).mpr (Dvd.dvd.mul_left (pow_dvd_pow 2 hk) usage)
    rw [Nat.dvd_iff_mod_eq_zero, or_iff_right hpositive]
    generalize usage * 2 ^ k % 2 ^ 32 = rest at hrest ⊢
    omega

section Results

variable {T G : Type*} {n : Nat} {s : State T G n} {cpu : Fin n}

lemma isBuddyBusy_iff (hs : SumsBounded s cpu) :
    isBuddyBusy s (some cpu) = some (decide (Busy s cpu)) ↔ UsageKept s cpu := by
  have husage : (s.rq cpu).avg.usageAvgSum < 2 ^ 16 := hs.usage.trans_lt (by decide)
  have hperiod : (s.rq cpu).avg.runnableAvgPeriod < 2 ^ 16 := hs.period.trans_lt (by decide)
  rw [isBuddyBusy, UsageKept]
  by_cases hshift : (s.rq cpu).nrRunning < 32
  · rw [if_pos hshift, and_iff_right hshift, ← lt_wrap_iff husage hperiod, Option.some_inj, decide_eq_decide,
      Word.wrap, Nat.shiftLeft_eq, Busy]
  · rw [if_neg hshift]
    exact iff_of_false (Option.some_ne_none _).symm fun h => hshift h.1

lemma Busy.mono {s' : State T G n} (h : Busy s cpu) (hloads : Loads s s' cpu) : Busy s' cpu := by
  rw [Busy, hloads.period]
  exact h.trans_le (Nat.mul_le_mul hloads.usage (Nat.pow_le_pow_right (by decide) hloads.nrRunning))

/-- A busy buddy is refused, whatever the task. -/
lemma checkPackBuddy_of_busy {build : Build n} {cpu : Option (Fin n)} {buddy : Fin n}
    (hbuddy : build.buddy cpu = some buddy) (hbusy : isBuddyBusy s (some buddy) = some true) (p : T) :
    checkPackBuddy s build cpu p = some false := by
  rw [checkPackBuddy, hbuddy]
  dsimp only
  rw [hbusy]
  split_ifs <;> rfl

/-- A buddy counts as busy exactly if it is, if and only if the usage is not shifted out. While it is not, a
busy buddy stays busy under more usage or more tasks, and every task is refused. -/
theorem isBuddyBusy_exact_iff (hs : SumsBounded s cpu) :
    (isBuddyBusy s (some cpu) = some (decide (Busy s cpu)) ↔ UsageKept s cpu) ∧
      (UsageKept s cpu → isBuddyBusy s (some cpu) = some true →
        ∀ s' : State T G n, SumsBounded s' cpu → UsageKept s' cpu → Loads s s' cpu →
          isBuddyBusy s' (some cpu) = some true ∧
            ∀ (build : Build n) (origin : Option (Fin n)) (p : T), build.buddy origin = some cpu →
              checkPackBuddy s' build origin p = some false) := by
  refine ⟨isBuddyBusy_iff hs, fun hkept hbusy s' hs' hkept' hloads => ?_⟩
  have hs : Busy s cpu := of_decide_eq_true (Option.some.inj (((isBuddyBusy_iff hs).mpr hkept).symm.trans hbusy))
  have hbusy' : isBuddyBusy s' (some cpu) = some true := by
    rw [(isBuddyBusy_iff hs').mpr hkept', decide_eq_true (hs.mono hloads)]
  exact ⟨hbusy', fun build origin p hbuddy => checkPackBuddy_of_busy hbuddy hbusy' p⟩

end Results

/-- The state of two CPUs of which CPU 1 has the given usage and number of running tasks, with a light task. -/
def buddyState (usage nrRunning : Nat) : State Unit Unit 2 :=
  { taskQueue := fun _ => ⟨none, 0⟩
    se := fun _ => { avg := { usageAvgSum := 100, runnableAvgSum := 100, runnableAvgPeriod := 47742 } }
    rq := fun _ => { nrRunning := nrRunning, avg := { usageAvgSum := usage, runnableAvgPeriod := 47742 } }
    online := ⟨.univ, by decide⟩ }

/-- From four to ten tasks. -/
theorem isBuddyBusy_exact_ten_tasks : isBuddyBusy (buddyState 5000 4) (some 1) =
    some (decide (Busy (buddyState 5000 4) 1)) ∧ isBuddyBusy (buddyState 5000 10) (some 1) = some true ∧
    checkPackBuddy (buddyState 5000 10) (.hmp fun _ => some 1) (some 0) () = some false := by
  have hbounded : SumsBounded (buddyState 5000 4) 1 := ⟨by decide, by decide⟩
  have hexact := isBuddyBusy_exact_iff hbounded
  have hlater := hexact.2 (by decide) (by decide) (buddyState 5000 10) ⟨by decide, by decide⟩ (by decide)
    ⟨by decide, by decide, by decide⟩
  exact ⟨hexact.1.mpr (by decide), hlater.1, hlater.2 (.hmp fun _ => some 1) (some 0) () rfl⟩

/-- A buddy that is in use two thirds of the time: busy with 16 tasks, but not with 17, and then the light task is
packed on it. With 32 tasks the shift is undefined. -/
theorem isBuddyBusy_shifted_out : isBuddyBusy (buddyState 32768 16) (some 1) = some true ∧
    (Busy (buddyState 32768 17) 1 ∧ isBuddyBusy (buddyState 32768 17) (some 1) = some false) ∧
    checkPackBuddy (buddyState 32768 16) (.hmp fun _ => some 1) (some 0) () = some false ∧
    checkPackBuddy (buddyState 32768 17) (.hmp fun _ => some 1) (some 0) () = some true ∧
    isBuddyBusy (buddyState 32768 32) (some 1) = none := by
  decide

end BigLittle.Packing
