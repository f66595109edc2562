import BigLittle.Hmp.Cooldown
import BigLittle.Hmp.Threshold

/-!
# The two checks on one snapshot

The up and the down check read the same statistics. Here they are taken together:
on one snapshot they never send a task back to where it came from, and the load
tests they end with follow the dynamic thresholds, not the tunables.
-/

namespace BigLittle.Hmp

open Sched Cfs State

def UpLoadTest (B : ClbStats) (load : Nat) : Prop := Word.ofInt 64 B.threshold < load
  deriving Decidable

def DownLoadTest (L : ClbStats) (load : Nat) : Prop := load ≤ Word.ofInt 64 L.threshold
  deriving Decidable

section LoadTests

variable {B L : ClbStats} {load : Nat}

lemma upLoadTest_iff (h : 0 ≤ B.threshold) (hfits : Calc.Fits 32 B.threshold) :
    UpLoadTest B load ↔ B.threshold < load := by
  have hrange := hfits.2
  rw [UpLoadTest, Word.ofInt, Int.emod_eq_of_lt h (by omega)]
  omega

lemma downLoadTest_iff (h : 0 ≤ L.threshold) (hfits : Calc.Fits 32 L.threshold) :
    DownLoadTest L load ↔ (load : Int) ≤ L.threshold := by
  have hrange := hfits.2
  rw [DownLoadTest, Word.ofInt, Int.emod_eq_of_lt h (by omega)]
  omega

/-- No load passes both tests if the thresholds are in order. -/
lemma downLoadTest_not_of_upLoadTest (hnonneg : 0 ≤ L.threshold) (horder : L.threshold ≤ B.threshold)
    (hfits : Calc.Fits 32 B.threshold) (hup : UpLoadTest B load) : ¬ DownLoadTest L load := by
  have hlfits : Calc.Fits 32 L.threshold := ⟨by omega, by have := hfits.2; omega⟩
  rw [downLoadTest_iff hnonneg hlfits]
  rw [upLoadTest_iff (hnonneg.trans horder) hfits] at hup
  omega

/-- A big CPU without load has spare cycles; `HMP_RATIO` multiplies in `int`. -/
lemma fastCpuHasSpareCycles_zero (hpos : 1 ≤ B.cpuCapacity)
    (hfits : Calc.Fits 32 (B.cpuCapacity * 17)) : fastCpuHasSpareCycles B 0 = true := by
  have hrange := hfits.2
  rw [fastCpuHasSpareCycles, hmpRatio, Int.tdiv_eq_ediv_of_nonneg (by omega),
    Int.shiftRight_eq_div_pow, Word.ofInt, Int.emod_eq_of_lt (by omega) (by omega)]
  apply decide_eq_true
  omega

/-- A CPU that has room for more has room for less. -/
lemma fastCpuHasSpareCycles_of_le {load' : Nat} (hle : load' ≤ load)
    (h : fastCpuHasSpareCycles B load = true) : fastCpuHasSpareCycles B load' = true := by
  rw [fastCpuHasSpareCycles, decide_eq_true_eq] at h ⊢
  omega

end LoadTests

section Checks

variable {T G : Type*} {n : Nat} (cfg : Config G n) {s : State T G n} {p : T}

/-- A low-priority task that may go down is refused on its way up. -/
lemma lowPrioTaskUpRejected_of_downAllowed {B L : ClbStats}
    (h : s.lowPrioTaskDownAllowed cfg p B L = true) : s.lowPrioTaskUpRejected cfg p B L = true := by
  simp only [lowPrioTaskDownAllowed, Bool.and_eq_true, decide_eq_true_eq] at h
  obtain ⟨⟨⟨⟨hlow, -⟩, hbusy⟩, -⟩, hload⟩ := h
  simp only [lowPrioTaskUpRejected, Bool.and_eq_true, decide_eq_true_eq]
  exact ⟨⟨hlow, .inl hbusy⟩, hload⟩

variable [DecidableEq G]

/-- On one snapshot the global balance does not let a task up from `l` to `b` and
down from `b` to `l`. A load that passes both load tests needs a negative little
threshold, and then the two capacity tests exclude each other unless the sum of
the two loads leaves the word. -/
theorem no_ping_pong {l b : Fin n} {env : ClbEnv n} (hflags : env.flags = hmpGb)
    (horder : env.lstats.threshold ≤ env.bstats.threshold) (hthreshold : Calc.Fits 32 env.bstats.threshold)
    (hpos : 1 ≤ env.bstats.cpuCapacity) (hcapacity : Calc.Fits 32 (env.bstats.cpuCapacity * 17))
    (hidle : s.rqLength b = 0 → s.cfsLoad b = 0) (hload : 0 ≤ env.lstats.threshold ∨ s.seLoad p + s.cfsLoad b < 2 ^ 64)
    (hup : (s.hmpUpMigration cfg l b p env).2.mcheck.result = true) :
    (s.hmpDownMigration cfg b l p env).2.mcheck.result = false := by
  obtain ⟨-, -, -, -, -, hrejected, hroom⟩ := (upCheck_result_iff cfg s ⟨.up, l, b, p, env⟩).mp hup
  rw [← Bool.not_eq_true]
  intro hdown
  obtain ⟨-, -, -, -, -, hway⟩ := (downCheck_result_iff cfg s ⟨.down, b, l, p, env⟩).mp hdown
  dsimp only at hrejected hroom hway
  obtain ⟨-, hselect, -⟩ | hallowed | ⟨hfull, -, hdownTest⟩ := hway
  · -- only a wake-up takes the branch for an idle little CPU
    rw [hflags] at hselect
    exact absurd hselect (by decide)
  · rw [lowPrioTaskUpRejected_of_downAllowed cfg hallowed] at hrejected
    cases hrejected
  · rw [fastCpuOversubscribed, hflags, if_pos (by decide), Bool.not_eq_true'] at hfull
    obtain hempty | ⟨hafford, hupTest⟩ := hroom
    · rw [hidle hempty, fastCpuHasSpareCycles_zero hpos hcapacity] at hfull
      cases hfull
    obtain hnonneg | hsum := hload
    · exact downLoadTest_not_of_upLoadTest hnonneg horder hthreshold hupTest hdownTest
    · rw [taskFastCpuAfford, Bool.and_eq_true, Word.add_of_lt hsum] at hafford
      have hspare := fastCpuHasSpareCycles_of_le (Nat.le_add_left _ _) hafford.2
      rw [hfull] at hspare
      cases hspare

/-- A heavy task is let up to the idle big CPU and not sent back. -/
theorem no_ping_pong_idle_big :
    let s : State Bool Unit 2 :=
      { idlePair with
        se := fun _ => { avg := { loadAvgRatio := 900 } }, rq := fun _ => { clockTask := 10000000000 } }
    let env : ClbEnv 2 :=
      { bstats := { ncpu := 1, cpuCapacity := 1023, acap := 1023, threshold := 772 }
        lstats := { ncpu := 1, ntask := 1, cpuCapacity := 1023, acap := 123, threshold := 259 }
        bcpus := {1}, lcpus := {0}, flags := hmpGb }
    (s.hmpUpMigration {} 0 1 true env).2.mcheck.result = true ∧
      (s.hmpDownMigration {} 1 0 true env).2.mcheck.result = false :=
  ⟨by decide +kernel, no_ping_pong _ rfl (by decide) (by decide) (by decide) (by decide)
    (fun _ => rfl) (.inl (by decide)) (by decide +kernel)⟩

end Checks

section Tunables

variable {T G : Type*} {n : Nat} {pf : Platform n} {s : State T G n}

/-- What the tunables ask of the thresholds and of the load tests that use these. -/
structure Honours (limits : LoadLimits) (env : ClusterEnv n) : Prop where
  down_le : limits.down ≤ env.lstats.threshold
  ordered : env.lstats.threshold ≤ env.bstats.threshold
  le_up : env.bstats.threshold ≤ limits.up
  goesUp : ∀ load : Nat, limits.up < load → UpLoadTest env.bstats.toClbStats load
  goesDown : ∀ load : Nat, load < limits.down → DownLoadTest env.lstats.toClbStats load

/-- Thresholds in the range of loads honour tunables at its ends, or beyond. -/
lemma Honours.of_range {limits : LoadLimits} {env : ClusterEnv n} (hlimits : limits.down = 0 ∧ 1023 ≤ limits.up)
    (hnonneg : 0 ≤ env.lstats.threshold) (horder : env.lstats.threshold ≤ env.bstats.threshold)
    (hle : env.bstats.threshold ≤ 1023) : Honours limits env where
  down_le := by omega
  ordered := horder
  le_up := by omega
  goesUp load hload := (upLoadTest_iff (hnonneg.trans horder) ⟨by omega, by omega⟩).mpr (by omega)
  goesDown load hload := by omega

/-- All CPUs are online and have a task and a load of 1536. -/
def State.loaded (T G : Type*) (cpu : Fin n) : State T G n where
  taskQueue := fun _ => ⟨none, cpu⟩
  prio := fun _ => 120
  se := fun _ => {}
  cfs := fun _ => { hNrRunning := 1, avg := { loadAvgRatio := 1536 } }
  rq := fun _ => {}
  tg := fun _ => {}
  online := ⟨Finset.univ, ⟨cpu, Finset.mem_univ cpu⟩⟩
  cpusAllowed := fun _ => Finset.univ

lemma State.validTarget_loaded {cluster : CpuMask n} {cpu c : Fin n} (hcpu : cpu ∈ cluster)
    (hpower : 96 ≤ pf.cpuPower cpu ∧ pf.cpuPower cpu ≤ 1536) :
    (loaded T G c).ValidTarget pf cluster cpu where
  mem := hcpu
  online := Finset.mem_univ cpu
  ratio_lt := by
    change (1536 : Int) < 2 ^ 24
    decide
  product_lt := by
    change (1 * 1536 : Int) < 2 ^ 24
    decide
  power_ge := hpower.1
  power_le := hpower.2

/-- On every platform the thresholds of all states honour the tunables exactly if these are at the ends of the range
of loads or beyond, as a target without spare capacity gives the thresholds 1023 and 0. -/
theorem tunables_honoured_iff (T G : Type*) (limits : LoadLimits) {env : ClusterEnv n} {b l : Fin n}
    (hb : b ∈ env.bcpus) (hl : l ∈ env.lcpus) (hbtarget : env.btarget = some b) (hltarget : env.ltarget = some l)
    (hpower : ∀ cpu, 96 ≤ pf.cpuPower cpu ∧ pf.cpuPower cpu ≤ 1536) :
    (∀ s : State T G n, s.ValidTarget pf env.bcpus b → s.ValidTarget pf env.lcpus l →
      (s.schedUpdateClbstats pf env).Ensures (Honours limits)) ↔ limits.down = 0 ∧ 1023 ≤ limits.up := by
  constructor
  · intro h
    have hbig : (loaded T G b).ValidTarget pf env.bcpus b := validTarget_loaded hb (hpower b)
    have hlittle : (loaded T G b).ValidTarget pf env.lcpus l := validTarget_loaded hl (hpower l)
    have hhonours := (h _ hbig hlittle).2
    obtain ⟨-, ⟨sp, -, -, hbfull, hlfull, hbThreshold, hlThreshold⟩, -⟩ :=
      schedUpdateClbstats_ensures hbig hlittle hbtarget hltarget
    have hup := hhonours.le_up
    have hdown := hhonours.down_le
    rw [hbThreshold, Spare.bShare, hbfull (le_refl (1536 : Int)), Int.zero_mul, Int.mul_zero, Int.zero_ediv] at hup
    rw [hlThreshold, Spare.lShare, hlfull (le_refl (1536 : Int)), Int.zero_mul, Int.mul_zero, Int.zero_ediv] at hdown
    omega
  · intro hlimits s hbig hlittle
    refine (schedUpdateClbstats_ensures hbig hlittle hbtarget hltarget).mono ?_
    rintro env' ⟨⟨sp, -, hsp, -, -, hbThreshold, hlThreshold⟩, -⟩
    have hshares := hsp.shares_le
    have hbshare := hsp.bShare_nonneg
    have hlshare := hsp.lShare_nonneg
    exact .of_range hlimits (by omega) (by omega) (by omega)

/-- The defaults of the dynamic threshold are honoured by an idle system with two CPUs of power 1024. -/
theorem tunables_honoured_idle :
    let pf : Platform 2 := { cpuPower := fun _ => 1024 }
    (idlePair.schedUpdateClbstats pf pairEnv).Ensures (Honours { up := 1023, down := 0 }) :=
  (tunables_honoured_iff Bool Unit _ (b := 1) (l := 0) (by decide) (by decide) rfl rfl (by decide)).mpr
    (by decide) idlePair (by decide) (by decide)

/-- On the same system the thresholds are 772 and 259. With the tunables set to 700 and 512, a load of 750 is kept from
going up and one of 300 from going down. -/
theorem load_tests_ignore_tunables :
    let limits : LoadLimits := { up := 700, down := 512 }
    let pf : Platform 2 := { cpuPower := fun _ => 1024 }
    let env' := (idlePair.schedUpdateClbstats pf pairEnv).value
    limits.down ≤ limits.up ∧ env'.bstats.threshold = 772 ∧ env'.lstats.threshold = 259 ∧
      ¬ (limits.down ≤ env'.lstats.threshold ∧
        env'.lstats.threshold ≤ env'.bstats.threshold ∧ env'.bstats.threshold ≤ limits.up) ∧
      (limits.up < 750 ∧ ¬ UpLoadTest env'.bstats.toClbStats 750) ∧
      300 < limits.down ∧ ¬ DownLoadTest env'.lstats.toClbStats 300 := by
  decide +kernel

end Tunables

end BigLittle.Hmp
