import BigLittle.Cpufreq.SetRate
import BigLittle.Lib.Run

/-!
# Target requests

`bL_cpufreq_set_target` announces a change, lets `bL_cpufreq_set_rate` program the clocks and announces that the change
is over. With switching on, the frequencies are those of the merged table, and a clock is set to the largest request
of the CPUs of its cluster, so that what is programmed has been requested there.
-/

namespace BigLittle.Cpufreq.SetTarget

open List
open Function (update update_of_ne update_self)

/-- What a call finds. The frequencies are in kHz, the rates of the clocks in Hz. -/
structure Config (n : Nat) where
  switching : Bool
  online : List (Fin n)
  table : Cluster → List Nat
  clkGetRate : Cluster → Nat

/-- The frequency that `cpufreq_frequency_table_target` finds for the policy of a CPU, and what `clk_set_rate` returns
for the cluster that is chosen. -/
structure Request (n : Nat) where
  cpu : Fin n
  freq : Nat
  ret : Int

inductive Notification
  | preChange (old new : Nat)
  | postChange (old new : Nat)

def Notification.isPost : Notification → Bool
  | .preChange _ _ => false
  | .postChange _ _ => true

structure State (n : Nat) where
  lastReq : Fin n → Nat
  phys : Fin n → Cluster
  cur : Fin n → Nat
  /-- the frequency in the last `CPUFREQ_POSTCHANGE` -/
  posted : Fin n → Nat

/-- What a call leaves, what it asks of `clk_set_rate`, what it sends and what it returns. -/
structure Result (n : Nat) where
  state : State n
  programmed : List (Cluster × Nat) := []
  sent : List Notification := []
  ret : Int := 0

variable {n : Nat}

namespace Config

variable (cfg : Config n)

def clkBigMin : Nat := getTableMin (cfg.table .a15)

def clkLittleMax : Nat := virtFreq .a7 (getTableMax (cfg.table .a7))

/-- The table of `merge_cluster_tables`. -/
def merged : List Nat := (cfg.table .a7).map (virtFreq .a7) ++ (cfg.table .a15).map (virtFreq .a15)

/-- The choice of the cluster in `bL_cpufreq_set_target`. -/
def newCluster (actual : Cluster) (freq : Nat) : Cluster :=
  if cfg.switching then
    if actual = .a15 ∧ freq < cfg.clkBigMin then .a7
    else if actual = .a7 ∧ cfg.clkLittleMax < freq then .a15 else actual
  else actual

variable (s : State n)

def findClusterMaxfreq (c : Cluster) : Nat :=
  cfg.online.foldl (fun max j => if c = s.phys j ∧ max < s.lastReq j then s.lastReq j else max) 0

def getRate (k : Fin n) : Nat := if cfg.switching then s.lastReq k else cfg.clkGetRate (s.phys k) / 1000

/-- The writes at the beginning of `bL_cpufreq_set_rate`. -/
def record (k : Fin n) (new : Cluster) (rate : Nat) : State n :=
  if cfg.switching then { s with lastReq := update s.lastReq k rate, phys := update s.phys k new } else s

/-- `bL_cpufreq_set_rate`; that `clk_set_rate` fails for the old cluster is only logged. -/
def setRate (k : Fin n) (old new : Cluster) (rate : Nat) (ret : Int) : Result n :=
  let t := cfg.record s k new rate
  let first := (new, if cfg.switching then requested new (cfg.findClusterMaxfreq t new) else rate * 1000 % 2 ^ 32)
  if ret ≠ 0 then { state := cfg.record t k old (s.lastReq k), programmed := [first], ret := ret }
  else
    let left := cfg.findClusterMaxfreq t old
    if old ≠ new ∧ actualFreq old left ≠ 0 then { state := t, programmed := [first, (old, requested old left)] }
    else { state := t, programmed := [first] }

def setTarget (r : Request n) : Result n :=
  let old := cfg.getRate s r.cpu
  if old = r.freq then { state := s }
  else
    let actual := s.phys r.cpu
    let out := cfg.setRate s r.cpu actual (cfg.newCluster actual r.freq) r.freq r.ret
    if out.ret ≠ 0 then { out with sent := [.preChange old r.freq] }
    else
      { out with
        state := { out.state with
          cur := update out.state.cur r.cpu r.freq
          posted := update out.state.posted r.cpu r.freq }
        sent := [.preChange old r.freq, .postChange old r.freq] }

/-! ### The notifications -/

/-- The frequencies kept for a CPU agree. -/
def Agrees (k : Fin n) : Prop := s.cur k = s.posted k ∧ (cfg.switching = true → s.lastReq k = s.posted k)

/-- After each `CPUFREQ_PRECHANGE` one `CPUFREQ_POSTCHANGE` is sent, and the frequencies agree in the end. -/
def Orderly (r : Request n) : Prop :=
  (∀ before old new after, (cfg.setTarget s r).sent = before ++ .preChange old new :: after →
    after.countP Notification.isPost = 1) ∧ cfg.Agrees (cfg.setTarget s r).state r.cpu

variable {cfg s}

lemma setRate_ret {k : Fin n} {old new : Cluster} {rate : Nat} {ret : Int} :
    (cfg.setRate s k old new rate ret).ret = ret := by
  rw [setRate]
  dsimp only
  split
  · rfl
  next hret =>
    rw [not_not.mp hret]
    split <;> rfl

lemma setRate_state {k : Fin n} {old new : Cluster} {rate : Nat} :
    (cfg.setRate s k old new rate 0).state = cfg.record s k new rate := by
  rw [setRate]
  dsimp only
  rw [if_neg (not_not.mpr rfl)]
  split <;> rfl

/-- A request that changes nothing finds the frequencies in agreement or not; any other is orderly if the clock of the
cluster it is for can be set. -/
theorem setTarget_orderly_iff (cfg : Config n) (s : State n) (r : Request n) :
    cfg.Orderly s r ↔ if cfg.getRate s r.cpu = r.freq then cfg.Agrees s r.cpu else r.ret = 0 := by
  rw [Orderly, setTarget]
  split
  · refine and_iff_right fun before old new after hsent => ?_
    cases before <;> cases hsent
  next =>
    dsimp only
    rw [setRate_ret]
    split
    next hret => exact iff_of_false (fun h => Nat.zero_ne_one (h.1 [] _ _ [] rfl)) hret
    next hret =>
      rw [not_not] at hret
      refine iff_of_true ⟨fun before old new after hsent => ?_, ?_, fun hswitching => ?_⟩ hret
      · cases before with
        | nil =>
          injection hsent with _ hafter
          rw [← hafter]
          rfl
        | cons first before =>
          injection hsent with _ hafter
          cases before with
          | nil => cases hafter
          | cons second before =>
            injection hafter with _ hafter
            cases before <;> cases hafter
      · dsimp only
        rw [update_self, update_self]
      · dsimp only
        rw [hret, setRate_state, record, if_pos hswitching, update_self]
        exact update_self ..

/-- The clock cannot be set to another frequency. -/
def refused : Request 1 := ⟨0, 600000, -22⟩

theorem setTarget_unanswered : ¬Config.Orderly ⟨true, [0], fun _ => [500000, 600000], fun _ => 500000000⟩
      ⟨fun _ => 500000, fun _ => .a15, fun _ => 500000, fun _ => 500000⟩ refused :=
  fun h => Nat.zero_ne_one (h.1 [] _ _ [] rfl)

/-! ### The rates -/

variable (cfg)

/-- A rate of one of the frequencies in the cluster's own table. -/
def Listed (c : Cluster) (rate : Nat) : Prop := ∃ f ∈ cfg.table c, rate = 1000 * f

/-- Each frequency of the merged table is in the table of the clusters that are chosen for it, and rates are `u32`s. -/
structure Served : Prop where
  switching : cfg.switching = true
  big : ∀ f ∈ cfg.merged, cfg.clkBigMin ≤ f ∨ cfg.clkLittleMax < f → f ∈ cfg.table .a15
  little : ∀ f ∈ cfg.merged, f < cfg.clkBigMin ∨ f ≤ cfg.clkLittleMax → actualFreq .a7 f ∈ cfg.table .a7
  fits : ∀ c, ∀ f ∈ cfg.table c, 1000 * f < 2 ^ 32

/-- The last request of each CPU is in the table of its cluster, if there has been one. -/
def Known (s : State n) : Prop :=
  ∀ k ∈ cfg.online, s.lastReq k = 0 ∨ actualFreq (s.phys k) (s.lastReq k) ∈ cfg.table (s.phys k)

variable {cfg} {k : Fin n} {c : Cluster} {f : Nat}

lemma Served.newCluster (h : cfg.Served) (hf : f ∈ cfg.merged) (actual : Cluster) :
    actualFreq (cfg.newCluster actual f) f ∈ cfg.table (cfg.newCluster actual f) := by
  rw [Config.newCluster, if_pos h.switching]
  split
  next hbig => exact h.little f hf (.inl hbig.2)
  next hbig =>
    split
    next hlittle => exact h.big f hf (.inr hlittle.2)
    next hlittle =>
      cases actual with
      | a15 => exact h.big f hf (.inl (Nat.le_of_not_lt fun hlt => hbig ⟨rfl, hlt⟩))
      | a7 => exact h.little f hf (.inr (Nat.le_of_not_lt fun hlt => hlittle ⟨rfl, hlt⟩))

lemma Served.listed (h : cfg.Served) (hf : actualFreq c f ∈ cfg.table c) : cfg.Listed c (requested c f) := by
  refine ⟨_, hf, ?_⟩
  rw [requested, Nat.mul_comm, Nat.mod_eq_of_lt (h.fits c _ hf)]

lemma le_findClusterMaxfreq (hk : k ∈ cfg.online) : s.lastReq k ≤ cfg.findClusterMaxfreq s (s.phys k) := by
  have hall : ∀ (l : List (Fin n)) (m : Nat), let most := l.foldl (fun max j =>
      if s.phys k = s.phys j ∧ max < s.lastReq j then s.lastReq j else max) m
      m ≤ most ∧ (k ∈ l → s.lastReq k ≤ most) := by
    intro l
    induction l with
    | nil => exact fun m => ⟨le_rfl, (absurd · not_mem_nil)⟩
    | cons j l ih =>
      intro m
      obtain ⟨hle, hmem⟩ := ih (if s.phys k = s.phys j ∧ m < s.lastReq j then s.lastReq j else m)
      refine ⟨le_trans ?_ hle, fun h => ?_⟩
      · split <;> omega
      · obtain rfl | h := mem_cons.mp h
        · refine le_trans ?_ hle
          split
          next => exact le_rfl
          next hnot => exact Nat.le_of_not_lt fun hlt => hnot ⟨rfl, hlt⟩
        · exact hmem h
  exact (hall cfg.online 0).2 hk

/-- The largest request of a cluster is one of its CPUs'. -/
lemma Known.findClusterMaxfreq (h : cfg.Known s) (c : Cluster) :
    cfg.findClusterMaxfreq s c = 0 ∨ actualFreq c (cfg.findClusterMaxfreq s c) ∈ cfg.table c := by
  refine foldlRecOn (motive := fun m => m = 0 ∨ actualFreq c m ∈ cfg.table c) cfg.online _ (.inl rfl)
    fun m hm j hj => ?_
  split
  next hmax =>
    rw [hmax.1]
    exact h j hj
  next => exact hm

lemma Known.record (h : cfg.Known s) (hf : f = 0 ∨ actualFreq c f ∈ cfg.table c) (k : Fin n) :
    cfg.Known (cfg.record s k c f) := by
  rw [Config.record]
  split
  · intro j hj
    dsimp only
    by_cases hjk : j = k
    · rwa [hjk, update_self, update_self]
    · rw [update_of_ne hjk, update_of_ne hjk]
      exact h j hj
  · exact h

lemma Known.setRate (h : cfg.Known s) (hserved : cfg.Served) (hk : k ∈ cfg.online)
    (hnew : actualFreq c f ∈ cfg.table c) (ret : Int) : cfg.Known (cfg.setRate s k (s.phys k) c f ret).state ∧
    ∀ p ∈ (cfg.setRate s k (s.phys k) c f ret).programmed, cfg.Listed p.1 p.2 := by
  have hrecord := h.record (.inr hnew) k
  have hfirst : cfg.Listed c (requested c (cfg.findClusterMaxfreq (cfg.record s k c f) c)) := by
    refine hserved.listed ((hrecord.findClusterMaxfreq c).elim (fun hzero => ?_) id)
    have hle := le_findClusterMaxfreq (s := cfg.record s k c f) hk
    have hlast : (cfg.record s k c f).lastReq k = f := by simp [Config.record, hserved.switching]
    have hphys : (cfg.record s k c f).phys k = c := by simp [Config.record, hserved.switching]
    rw [hphys, hlast, hzero] at hle
    rwa [hzero, ← Nat.le_zero.mp hle]
  rw [Config.setRate]
  dsimp only
  rw [if_pos hserved.switching]
  split
  · exact ⟨hrecord.record (h k hk) k, forall_mem_singleton.mpr hfirst⟩
  split
  next hleft =>
    refine ⟨hrecord, forall_mem_cons.mpr ⟨hfirst, forall_mem_singleton.mpr (hserved.listed ?_)⟩⟩
    refine (hrecord.findClusterMaxfreq _).resolve_left fun hzero => hleft.2 ?_
    rw [hzero]
    cases s.phys k <;> rfl
  next => exact ⟨hrecord, forall_mem_singleton.mpr hfirst⟩

lemma Known.setTarget (h : cfg.Known s) (hserved : cfg.Served) {r : Request n} (hcpu : r.cpu ∈ cfg.online)
    (hfreq : r.freq ∈ cfg.merged) :
    cfg.Known (cfg.setTarget s r).state ∧ ∀ p ∈ (cfg.setTarget s r).programmed, cfg.Listed p.1 p.2 := by
  have hset := h.setRate hserved hcpu (hserved.newCluster hfreq (s.phys r.cpu)) r.ret
  rw [Config.setTarget]
  split
  · exact ⟨h, forall_mem_nil _⟩
  · dsimp only
    split
    · exact hset
    · exact hset

/-- In every sequence of requests for frequencies of the merged table the clocks are asked for rates of their own
tables, if the merged table and the requests before fit the tables. -/
theorem rates_listed (cfg : Config n) (hserved : cfg.Served) (s : State n) (hknown : cfg.Known s)
    (rs : List (Request n)) (hrs : ∀ r ∈ rs, r.cpu ∈ cfg.online ∧ r.freq ∈ cfg.merged) :
    Run.Each (fun s r => (cfg.setTarget s r).state)
      (fun s r => ∀ p ∈ (cfg.setTarget s r).programmed, cfg.Listed p.1 p.2) s rs := by
  have heach := Run.each_of_mem (f := fun s r => (cfg.setTarget s r).state) (s := s) hrs
  have hinv := Run.always_of_each (P := cfg.Known) (fun s r h hr => (h.setTarget hserved hr.1 hr.2).1) hknown heach
  exact hinv.each_of_each heach fun s r h hr => (h.setTarget hserved hr.1 hr.2).2

/-- A little cluster that is as fast as the big one is slow. -/
def apart : Config 1 := ⟨true, [0], fun | .a15 => [500000, 800000] | .a7 => [700000, 1000000], fun _ => 0⟩

lemma apart_served : apart.Served := by
  refine ⟨rfl, by decide, by decide, ?_⟩
  rintro (_ | _) <;> decide

theorem rates_listed_apart : Run.Each (fun s r => (apart.setTarget s r).state)
      (fun s r => ∀ p ∈ (apart.setTarget s r).programmed, apart.Listed p.1 p.2)
      ⟨fun _ => 800000, fun _ => .a15, fun _ => 800000, fun _ => 800000⟩ [⟨0, 350000, 0⟩, ⟨0, 500000, 0⟩] :=
  rates_listed apart apart_served _ (fun _ _ => .inr (.tail _ (.head _))) _ (by decide)

/-- A little cluster that is faster. -/
def overlapping : Config 1 := ⟨true, [0], fun | .a15 => [500000, 800000] | .a7 => [1000000, 1400000], fun _ => 0⟩

/-- The CPU stays on the big cluster for a frequency of the little one. -/
theorem rate_unlisted :
    let s : State 1 := ⟨fun _ => 800000, fun _ => .a15, fun _ => 800000, fun _ => 800000⟩
    700000 ∈ overlapping.merged ∧ overlapping.Known s ∧
      (overlapping.setTarget s ⟨0, 700000, 0⟩).programmed = [(.a15, 700000000)] ∧
      ¬overlapping.Listed .a15 700000000 := by
  refine ⟨by decide, fun _ _ => .inr (.tail _ (.head _)), by decide, ?_⟩
  rw [Listed]
  decide

end Config

end BigLittle.Cpufreq.SetTarget
