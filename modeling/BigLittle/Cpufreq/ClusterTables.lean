import Mathlib.Algebra.Group.Nat.Defs
import Mathlib.Logic.Function.Basic
import BigLittle.Lib.Run

/-!
# Clocks and frequency tables of the clusters

`get_cluster_clk_and_freq_table` counts the policies that use a cluster and sets it up for the
first one. With switching on all policies use one virtual cluster, whose table is a merge of the
tables of both clusters. The helper that sets up a cluster asks `cpu_to_cluster` which one, and
with switching on the answer is the virtual one, whatever the CPU: so the merge works on tables
that somebody else has set up.
-/

namespace BigLittle.Cpufreq

open Function (update update_eq_self update_idem update_of_ne update_self)

inductive Cluster
  | a15
  | a7
deriving DecidableEq

/-- An index of `cluster_usage` and `freq_table`. The merged one is `MAX_CLUSTERS`. -/
inductive Slot
  | cluster (k : Cluster)
  | merged
deriving DecidableEq

/-- An entry of `clk`: not set, a clock, one that has been put, or `ERR_PTR`. -/
inductive Clk
  | null
  | held
  | released
  | err (code : Int)
deriving DecidableEq

/-- An entry of `freq_table`; the frequencies before `CPUFREQ_TABLE_END`. -/
inductive Table
  | null
  | live (freqs : List Nat)
  | freed
deriving DecidableEq

structure State where
  switching : Bool
  usage : Slot → Int := fun _ => 0
  clk : Cluster → Clk := fun _ => .null
  table : Slot → Table := fun _ => .null
  clkBigMin : Nat := 0
  clkLittleMax : Nat := 0

/-- Which CPUs have a device, and `topology_physical_package_id`. -/
structure Board where
  device : Nat → Bool
  package : Nat → Cluster

/-- What `init_opp_table`, `opp_init_cpufreq_table` and `clk_get_sys` answer; zero is success. -/
structure ClusterAnswers where
  initOpp : Int := 0
  initTable : Int := 0
  freqs : List Nat := []
  clk : Int := 0

/-- The answers for the device of each CPU, and whether there is memory for the merged table. -/
structure Answers where
  cluster : Nat → ClusterAnswers := fun _ => {}
  alloc : Bool := true

/-- A function returns, or a bad pointer is used. -/
inductive Outcome
  | returned (ret : Int)
  | oops
deriving DecidableEq

def enomem : Int := -12

def enodev : Int := -19

def virtFreq : Cluster → Nat → Nat
  | .a15, freq => freq
  | .a7, freq => freq >>> 1

variable (freqs : List Nat) (board : Board) (s : State)

def getTableMin : Nat :=
  freqs.foldl (fun least freq => if freq < least then freq else least) (2 ^ 32 - 1)

def getTableMax : Nat :=
  freqs.foldl (fun most freq => if freq > most then freq else most) 0

namespace State

variable (board : Board) (s : State) (cpu : Nat)

def cpuToCluster : Slot :=
  if s.switching then .merged else .cluster (board.package cpu)

def addUsage (slot : Slot) (d : Int) : State :=
  { s with usage := update s.usage slot (s.usage slot + d) }

def setTable (slot : Slot) (table : Table) : State :=
  { s with table := update s.table slot table }

def setClk (k : Cluster) (clk : Clk) : State :=
  { s with clk := update s.clk k clk }

/-- `_get_cluster_clk_and_freq_table` -/
def getCluster (answers : ClusterAnswers) : Outcome × State :=
  let slot := s.cpuToCluster board cpu
  let s := s.addUsage slot 1
  if s.usage slot ≠ 1 then (.returned 0, s)
  else if answers.initOpp ≠ 0 then (.returned answers.initOpp, s.addUsage slot (-1))
  else if answers.initTable ≠ 0 then (.returned answers.initTable, s.addUsage slot (-1))
  else
    let s := s.setTable slot (.live answers.freqs)
    match slot with
    | .merged => (.oops, s)
    | .cluster k =>
      if answers.clk = 0 then (.returned 0, s.setClk k .held)
      else (.returned answers.clk, ((s.setClk k (.err answers.clk)).setTable slot .null).addUsage slot (-1))

/-- `_put_cluster_clk_and_freq_table` -/
def putCluster : Outcome × State :=
  let slot := s.cpuToCluster board cpu
  let s := s.addUsage slot (-1)
  if s.usage slot ≠ 0 then (.returned 0, s)
  else
    match slot with
    | .merged => (.oops, s)
    | .cluster k =>
      (.returned 0, (s.setClk k (if s.clk k = .held then .released else s.clk k)).setTable slot .null)

def mergeClusterTables (alloc : Bool) : Outcome × State :=
  match s.table (.cluster .a15), s.table (.cluster .a7) with
  | .live big, .live little =>
    if alloc then
      (.returned 0, s.setTable .merged (.live (little.map (virtFreq .a7) ++ big.map (virtFreq .a15))))
    else (.returned enomem, s)
  | _, _ => (.oops, s)

/-- The `put_clusters` part of `get_cluster_clk_and_freq_table` -/
def putClusters (ret : Int) : Nat → State → Outcome × State
  | 0, s => (.returned ret, s.addUsage .merged (-1))
  | i + 1, s =>
    if board.device i then
      match s.putCluster board i with
      | (.oops, s) => (.oops, s)
      | (.returned _, s) => putClusters ret i s
    else (.returned enodev, s)

/-- `clk_big_min` and `clk_little_max` -/
def setLimits : State :=
  match s.table (.cluster .a15), s.table (.cluster .a7) with
  | .live big, .live little =>
    { s with clkBigMin := getTableMin big, clkLittleMax := virtFreq .a7 (getTableMax little) }
  | _, _ => s

/-- The loop of `get_cluster_clk_and_freq_table` from its `i`th round on, with `left` rounds left. -/
def getClusters (answers : Answers) (i : Nat) : Nat → State → Outcome × State
  | 0, s =>
    match s.mergeClusterTables answers.alloc with
    | (.oops, s) => (.oops, s)
    | (.returned ret, s) => if ret ≠ 0 then putClusters board ret i s else (.returned 0, s.setLimits)
  | left + 1, s =>
    if board.device i then
      match s.getCluster board i (answers.cluster i) with
      | (.oops, s) => (.oops, s)
      | (.returned ret, s) => if ret ≠ 0 then putClusters board ret i s else getClusters answers (i + 1) left s
    else (.returned enodev, s)

/-- `get_cluster_clk_and_freq_table` -/
def get (answers : Answers) : Outcome × State :=
  match s.cpuToCluster board cpu with
  | .cluster _ => s.getCluster board cpu (answers.cluster cpu)
  | .merged =>
    let s := s.addUsage .merged 1
    if s.usage .merged ≠ 1 then (.returned 0, s) else getClusters board answers 0 2 s

/-- `kfree` of the merged table, whose pointer stays. -/
def freeMerged : Outcome × State :=
  match s.table .merged with
  | .null => (.returned 0, s)
  | .live _ => (.returned 0, s.setTable .merged .freed)
  | .freed => (.oops, s)

def putAll (i : Nat) : Nat → State → Outcome × State
  | 0, s => s.freeMerged
  | left + 1, s =>
    if board.device i then
      match s.putCluster board i with
      | (.oops, s) => (.oops, s)
      | (.returned _, s) => putAll (i + 1) left s
    else (.returned 0, s)

/-- `put_cluster_clk_and_freq_table` -/
def put : Outcome × State :=
  match s.cpuToCluster board cpu with
  | .cluster _ => s.putCluster board cpu
  | .merged =>
    let s := s.addUsage .merged (-1)
    if s.usage .merged ≠ 0 then (.returned 0, s) else putAll board 0 2 s

end State

inductive Op
  | get (cpu : Nat) (answers : Answers)
  | put (cpu : Nat)
  | setSwitching (on : Bool)

def step : Op → State
  | .get cpu answers => (s.get board cpu answers).2
  | .put cpu => (s.put board cpu).2
  | .setSwitching on => { s with switching := on }

/-! ### What a call leaves -/

/-- The clock and the table of a cluster are there. -/
def State.Populated (k : Cluster) : Prop :=
  s.clk k = .held ∧ ∃ freqs, s.table (.cluster k) = .live freqs

/-- The clusters whose data a policy for the slot needs. -/
def Slot.Involves : Slot → Cluster → Prop
  | .cluster k, k' => k' = k
  | .merged, _ => True

/-- Success: all is there that the policy needs. Failure: nothing has changed. -/
def Correct (slot : Slot) : Outcome × State → Prop
  | (.oops, _) => False
  | (.returned ret, t) =>
    if ret = 0 then
      (∀ k, slot.Involves k → t.Populated k) ∧ (slot = .merged → ∃ freqs, t.table .merged = .live freqs)
    else t.usage = s.usage ∧ t.clk = s.clk ∧ t.table = s.table

/-- The calls of a run that are to be correct. -/
def Spec : Op → Prop
  | .get cpu answers => Correct s (s.cpuToCluster board cpu) (s.get board cpu answers)
  | .put _ | .setSwitching _ => True

/-- With switching off `clk_get_sys` finds the clock of the cluster. With switching on both clusters
are in use already, and for the first policy the devices are there. A put undoes a get. -/
def Regular : Op → Prop
  | .get cpu answers =>
    (s.switching = false → s.usage (.cluster (board.package cpu)) = 0 → (answers.cluster cpu).initOpp = 0 →
      (answers.cluster cpu).initTable = 0 → (answers.cluster cpu).clk = 0) ∧
    (s.switching = true → 0 < s.usage (.cluster .a15) ∧ 0 < s.usage (.cluster .a7) ∧
      (s.usage .merged = 0 → board.device 0 = true ∧ board.device 1 = true))
  | .put cpu =>
    (s.switching = false → 0 < s.usage (.cluster (board.package cpu))) ∧ (s.switching = true → 1 < s.usage .merged)
  | .setSwitching _ => True

instance decidableRegular (board : Board) (s : State) (op) : Decidable (Regular board s op) := by
  cases op <;> dsimp only [Regular] <;> infer_instance

/-! ### What every step keeps -/

/-- What is in use is populated. -/
structure Inv (s : State) : Prop where
  nonneg : ∀ slot, 0 ≤ s.usage slot
  cluster : ∀ k, 0 < s.usage (.cluster k) → s.Populated k
  merged : 0 < s.usage .merged → ∃ freqs, s.table .merged = .live freqs

namespace State

variable {board : Board} {s : State}

@[simp] lemma addUsage_usage_self (slot : Slot) (d : Int) : (s.addUsage slot d).usage slot = s.usage slot + d :=
  update_self _ _ _

lemma addUsage_usage_of_ne {slot slot' : Slot} (h : slot' ≠ slot) (d : Int) :
    (s.addUsage slot d).usage slot' = s.usage slot' :=
  update_of_ne h _ _

@[simp] lemma setTable_table_self (slot : Slot) (table : Table) : (s.setTable slot table).table slot = table :=
  update_self _ _ _

lemma addUsage_addUsage (slot : Slot) (d e : Int) : (s.addUsage slot d).addUsage slot e = s.addUsage slot (d + e) := by
  simp only [addUsage, update_self, update_idem, Int.add_assoc]

lemma addUsage_zero (slot : Slot) : s.addUsage slot 0 = s := by
  simp only [addUsage, Int.add_zero, update_eq_self]

lemma cpuToCluster_of_switching (h : s.switching = true) (cpu : Nat) : s.cpuToCluster board cpu = .merged :=
  if_pos h

lemma cpuToCluster_of_not_switching (board : Board) (h : s.switching = false) (cpu : Nat) :
    s.cpuToCluster board cpu = .cluster (board.package cpu) :=
  if_neg (Bool.eq_false_iff.mp h)

/-- With switching on the helper only counts. -/
lemma getCluster_of_switching (h : s.switching = true) (hused : 0 < s.usage .merged) (cpu : Nat)
    (answers : ClusterAnswers) : s.getCluster board cpu answers = (.returned 0, s.addUsage .merged 1) := by
  rw [getCluster, cpuToCluster_of_switching h]
  dsimp only
  rw [if_pos]
  rw [addUsage_usage_self]
  omega

lemma putCluster_of_switching (h : s.switching = true) (hused : 1 < s.usage .merged) (cpu : Nat) :
    s.putCluster board cpu = (.returned 0, s.addUsage .merged (-1)) := by
  rw [putCluster, cpuToCluster_of_switching h]
  dsimp only
  rw [if_pos]
  rw [addUsage_usage_self]
  omega

/-- All that was counted is counted off. -/
lemma putClusters_of_switching (h : s.switching = true) (ret : Int) {i : Nat} (hused : (i : Int) < s.usage .merged)
    (hdevice : ∀ j < i, board.device j = true) :
    putClusters board ret i s = (.returned ret, s.addUsage .merged (-(i + 1 : Int))) := by
  induction i generalizing s with
  | zero => rfl
  | succ i ih =>
    rw [putClusters, if_pos (hdevice i (Nat.lt_succ_self i)), putCluster_of_switching h (by omega)]
    dsimp only
    rw [ih (s := s.addUsage .merged (-1)) h (by rw [addUsage_usage_self]; omega)
      fun j hj => hdevice j (Nat.lt_succ_of_lt hj), addUsage_addUsage]
    congr 2
    omega

/-- The rounds of the loop only count. -/
lemma getClusters_of_switching (h : s.switching = true) (answers : Answers) {i left : Nat}
    (hused : 0 < s.usage .merged) (hdevice : ∀ j < i + left, board.device j = true) :
    getClusters board answers i left s = getClusters board answers (i + left) 0 (s.addUsage .merged left) := by
  induction left generalizing s i with
  | zero =>
    rw [Int.natCast_zero, addUsage_zero]
    rfl
  | succ left ih =>
    have hround : getClusters board answers i (left + 1) s =
        getClusters board answers (i + 1) left (s.addUsage .merged 1) := by
      rw [getClusters, if_pos (hdevice i (by omega)), getCluster_of_switching h hused]
      rfl
    rw [hround, ih (s := s.addUsage .merged 1) h (by rw [addUsage_usage_self]; omega) fun j hj => hdevice j (by omega),
      addUsage_addUsage, Nat.add_right_comm, Nat.add_assoc, Int.natCast_succ, Int.add_comm]

lemma setLimits_eq : ∃ least most, s.setLimits = { s with clkBigMin := least, clkLittleMax := most } := by
  rw [setLimits]
  split
  · exact ⟨_, _, rfl⟩
  · exact ⟨_, _, rfl⟩

lemma mergeClusterTables_of_live {big little : List Nat} (hbig : s.table (.cluster .a15) = .live big)
    (hlittle : s.table (.cluster .a7) = .live little) (alloc : Bool) :
    s.mergeClusterTables alloc =
      if alloc then
        (.returned 0, s.setTable .merged (.live (little.map (virtFreq .a7) ++ big.map (virtFreq .a15))))
      else (.returned enomem, s) := by
  rw [mergeClusterTables, hbig, hlittle]

/-- The first policy with switching on, when both clusters have their tables. -/
lemma get_merged (h : s.switching = true) (cpu : Nat) (hused : s.usage .merged = 0)
    (hdevice : board.device 0 = true ∧ board.device 1 = true) {big little : List Nat}
    (hbig : s.table (.cluster .a15) = .live big) (hlittle : s.table (.cluster .a7) = .live little) (answers : Answers) :
    s.get board cpu answers =
      if answers.alloc then
        (.returned 0, ((s.addUsage .merged 3).setTable .merged
          (.live (little.map (virtFreq .a7) ++ big.map (virtFreq .a15)))).setLimits)
      else (.returned enomem, s) := by
  have hdevices : ∀ j < 0 + 2, board.device j = true := by
    rintro (_ | _ | j) hj
    · exact hdevice.1
    · exact hdevice.2
    · omega
  rw [get, cpuToCluster_of_switching h]
  dsimp only
  rw [if_neg (by rw [addUsage_usage_self, hused]; decide),
    getClusters_of_switching (s := s.addUsage .merged 1) h answers (by rw [addUsage_usage_self, hused]; decide)
      hdevices, addUsage_addUsage, getClusters, mergeClusterTables_of_live (s := s.addUsage .merged _) hbig hlittle]
  cases answers.alloc with
  | true => rfl
  | false =>
    rw [if_neg Bool.false_ne_true, if_neg Bool.false_ne_true]
    dsimp only
    rw [if_pos (by decide), putClusters_of_switching (s := s.addUsage .merged _) h enomem
      (by rw [addUsage_usage_self, hused]; decide) fun j hj => hdevices j (by omega), addUsage_addUsage]
    change (Outcome.returned enomem, s.addUsage .merged 0) = _
    rw [addUsage_zero]

end State

namespace Inv

variable {board : Board} {s : State}

lemma nonneg_addUsage (h : Inv s) {slot : Slot} {d : Int} (hnonneg : 0 ≤ s.usage slot + d) (slot' : Slot) :
    0 ≤ (s.addUsage slot d).usage slot' := by
  by_cases heq : slot' = slot
  · subst heq
    rwa [State.addUsage_usage_self]
  · rw [State.addUsage_usage_of_ne heq]
    exact h.nonneg slot'

/-- Only a count changes, and not from unused to used. -/
lemma addUsage (h : Inv s) {slot : Slot} {d : Int} (hnonneg : 0 ≤ s.usage slot + d)
    (hused : 0 < s.usage slot + d → 0 < s.usage slot) : Inv (s.addUsage slot d) := by
  have hcount : ∀ slot', 0 < (s.addUsage slot d).usage slot' → 0 < s.usage slot' := by
    intro slot' hpos
    by_cases heq : slot' = slot
    · subst heq
      rw [State.addUsage_usage_self] at hpos
      exact hused hpos
    · rwa [State.addUsage_usage_of_ne heq] at hpos
  exact ⟨h.nonneg_addUsage hnonneg, fun k hk => h.cluster k (hcount _ hk), fun hk => h.merged (hcount _ hk)⟩

/-- Only what belongs to one cluster changes. -/
lemma of_cluster (h : Inv s) {s' : State} {k : Cluster} (hnonneg : ∀ slot, 0 ≤ s'.usage slot)
    (hself : 0 < s'.usage (.cluster k) → s'.Populated k)
    (husage : ∀ slot, slot ≠ .cluster k → s'.usage slot = s.usage slot)
    (htable : ∀ slot, slot ≠ .cluster k → s'.table slot = s.table slot)
    (hclk : ∀ k', k' ≠ k → s'.clk k' = s.clk k') : Inv s' := by
  refine ⟨hnonneg, fun k' hk' => ?_, fun hk => ?_⟩
  · by_cases heq : k' = k
    · rw [heq] at hk' ⊢
      exact hself hk'
    · have hslot : Slot.cluster k' ≠ .cluster k := fun h' => heq (Slot.cluster.inj h')
      rw [husage _ hslot] at hk'
      obtain ⟨hheld, table, hlive⟩ := h.cluster k' hk'
      exact ⟨(hclk k' heq).trans hheld, table, (htable _ hslot).trans hlive⟩
  · have hne : Slot.merged ≠ .cluster k := nofun
    rw [husage _ hne] at hk
    obtain ⟨table, hlive⟩ := h.merged hk
    exact ⟨table, (htable _ hne).trans hlive⟩

/-- The first policy of a cluster with switching off. -/
lemma setUp (h : Inv s) {k : Cluster} (freqs : List Nat) (hunused : s.usage (.cluster k) = 0) :
    Inv (((s.addUsage (.cluster k) 1).setTable (.cluster k) (.live freqs)).setClk k .held) :=
  h.of_cluster (h.nonneg_addUsage (by omega)) (fun _ => ⟨update_self _ _ _, freqs, update_self _ _ _⟩)
    (fun _ hne => State.addUsage_usage_of_ne hne _) (fun _ hne => update_of_ne hne _ _)
    fun _ hne => update_of_ne hne _ _

/-- The last policy of a cluster with switching off is gone. -/
lemma tearDown (h : Inv s) {k : Cluster} (clk : Clk) (hlast : s.usage (.cluster k) + -1 = 0) :
    Inv (((s.addUsage (.cluster k) (-1)).setClk k clk).setTable (.cluster k) .null) := by
  refine h.of_cluster (h.nonneg_addUsage (by omega)) (fun hused => ?_)
    (fun _ hne => State.addUsage_usage_of_ne hne _) (fun _ hne => update_of_ne hne _ _)
    fun _ hne => update_of_ne hne _ _
  change 0 < (s.addUsage (.cluster k) (-1)).usage (.cluster k) at hused
  rw [State.addUsage_usage_self, hlast] at hused
  exact absurd hused (by decide)

/-- The counts, clocks and tables are as before. -/
lemma correct_of_same {slot : Slot} {ret : Int} (hret : ret ≠ 0) : Correct s slot (.returned ret, s) := by
  rw [Correct, if_neg hret]
  exact ⟨rfl, rfl, rfl⟩

lemma getCluster (h : Inv s) {cpu : Nat} {k : Cluster} (hslot : s.cpuToCluster board cpu = .cluster k)
    {answers : ClusterAnswers}
    (hclk : s.usage (.cluster k) = 0 → answers.initOpp = 0 → answers.initTable = 0 → answers.clk = 0) :
    Correct s (.cluster k) (s.getCluster board cpu answers) ∧ Inv (s.getCluster board cpu answers).2 := by
  have hback : (s.addUsage (.cluster k) 1).addUsage (.cluster k) (-1) = s := by
    rw [State.addUsage_addUsage]
    exact State.addUsage_zero _
  rw [State.getCluster, hslot]
  dsimp only
  rw [State.addUsage_usage_self]
  have hnonneg := h.nonneg (.cluster k)
  split
  next hused =>
    have hpos : 0 < s.usage (.cluster k) := by omega
    refine ⟨⟨?_, nofun⟩, h.addUsage (by omega) fun _ => hpos⟩
    rintro k' rfl
    exact h.cluster k' hpos
  next hunused =>
    have hzero : s.usage (.cluster k) = 0 := by omega
    split
    next hopp =>
      rw [hback]
      exact ⟨correct_of_same hopp, h⟩
    next hopp =>
      split
      next htable =>
        rw [hback]
        exact ⟨correct_of_same htable, h⟩
      next htable =>
        rw [if_pos (hclk hzero (not_not.mp hopp) (not_not.mp htable))]
        refine ⟨⟨?_, nofun⟩, h.setUp _ hzero⟩
        rintro k' rfl
        exact ⟨update_self _ _ _, _, update_self _ _ _⟩

/-- The merged table is there, and the clusters are as they were. -/
lemma merge (h : Inv s) (hpopulated : ∀ k, s.Populated k) (hunused : s.usage .merged = 0) (freqs : List Nat) :
    (∀ k, ((s.addUsage .merged 3).setTable .merged (.live freqs)).Populated k) ∧
    (∃ freqs', ((s.addUsage .merged 3).setTable .merged (.live freqs)).table .merged = .live freqs') ∧
    Inv ((s.addUsage .merged 3).setTable .merged (.live freqs)) := by
  have hall : ∀ k, ((s.addUsage .merged 3).setTable .merged (.live freqs)).Populated k := by
    intro k
    obtain ⟨hclk, table, htable⟩ := hpopulated k
    have hne : Slot.cluster k ≠ .merged := nofun
    exact ⟨hclk, table, (update_of_ne hne (.live freqs) s.table).trans htable⟩
  have hmerged := State.setTable_table_self (s := s.addUsage .merged 3) .merged (.live freqs)
  exact ⟨hall, ⟨freqs, hmerged⟩, h.nonneg_addUsage (by omega), fun k _ => hall k, fun _ => ⟨freqs, hmerged⟩⟩

/-- With switching on, the clusters are in use. -/
lemma getMerged (h : Inv s) (hswitching : s.switching = true) (cpu : Nat) (hbig : 0 < s.usage (.cluster .a15))
    (hlittle : 0 < s.usage (.cluster .a7))
    (hdevice : s.usage .merged = 0 → board.device 0 = true ∧ board.device 1 = true) (answers : Answers) :
    Correct s .merged (s.get board cpu answers) ∧ Inv (s.get board cpu answers).2 := by
  have hpopulated : ∀ k, s.Populated k := by
    rintro (_ | _)
    · exact h.cluster .a15 hbig
    · exact h.cluster .a7 hlittle
  by_cases hused : s.usage .merged = 0
  · obtain ⟨-, big, hbig⟩ := hpopulated .a15
    obtain ⟨-, little, hlittle⟩ := hpopulated .a7
    rw [State.get_merged hswitching cpu hused (hdevice hused) hbig hlittle]
    split
    next =>
      obtain ⟨hall, hmerged, hinv⟩ := h.merge hpopulated hused (little.map (virtFreq .a7) ++ big.map (virtFreq .a15))
      obtain ⟨least, most, hlimits⟩ := State.setLimits_eq (s := (s.addUsage .merged 3).setTable .merged
        (.live (little.map (virtFreq .a7) ++ big.map (virtFreq .a15))))
      rw [hlimits]
      exact ⟨⟨fun k _ => hall k, fun _ => hmerged⟩, hinv.nonneg, hinv.cluster, hinv.merged⟩
    next => exact ⟨correct_of_same (by decide), h⟩
  · have hpos : 0 < s.usage .merged := by
      have := h.nonneg .merged
      omega
    rw [State.get, State.cpuToCluster_of_switching hswitching]
    dsimp only
    rw [if_pos (by rw [State.addUsage_usage_self]; omega)]
    exact ⟨⟨fun k _ => hpopulated k, fun _ => h.merged hpos⟩, h.addUsage (by omega) fun _ => hpos⟩

lemma putCluster (h : Inv s) {cpu : Nat} {k : Cluster} (hslot : s.cpuToCluster board cpu = .cluster k)
    (hused : 0 < s.usage (.cluster k)) : Inv (s.putCluster board cpu).2 := by
  rw [State.putCluster, hslot]
  dsimp only
  rw [State.addUsage_usage_self]
  split
  next => exact h.addUsage (by omega) fun _ => hused
  next hlast => exact h.tearDown _ (not_not.mp hlast)

lemma step (h : Inv s) {op : Op} (hregular : Regular board s op) : Spec board s op ∧ Inv (Cpufreq.step board s op) := by
  cases op with
  | get cpu answers =>
    obtain ⟨hoff, hon⟩ := hregular
    change Correct s _ (s.get board cpu answers) ∧ Inv (s.get board cpu answers).2
    cases hswitching : s.switching with
    | false =>
      have hslot := State.cpuToCluster_of_not_switching board hswitching cpu
      rw [State.get, hslot]
      exact h.getCluster hslot (hoff hswitching)
    | true =>
      obtain ⟨hbig, hlittle, hdevice⟩ := hon hswitching
      rw [State.cpuToCluster_of_switching hswitching]
      exact h.getMerged hswitching cpu hbig hlittle hdevice answers
  | put cpu =>
    obtain ⟨hoff, hon⟩ := hregular
    refine ⟨trivial, ?_⟩
    change Inv (s.put board cpu).2
    rw [State.put]
    cases hswitching : s.switching with
    | false =>
      have hslot := State.cpuToCluster_of_not_switching board hswitching cpu
      rw [hslot]
      exact h.putCluster hslot (hoff hswitching)
    | true =>
      have hused := hon hswitching
      rw [State.cpuToCluster_of_switching hswitching]
      dsimp only
      rw [if_pos (by rw [State.addUsage_usage_self]; omega)]
      exact h.addUsage (by omega) (by omega)
  | setSwitching on => exact ⟨trivial, h.nonneg, h.cluster, h.merged⟩

end Inv

/-- Nothing has been set up. -/
def init (switching : Bool) : State := { switching := switching }

lemma inv_init (switching : Bool) : Inv (init switching) :=
  ⟨fun _ => Int.le_refl 0, fun _ hpos => absurd hpos (Int.lt_irrefl 0), fun hpos => absurd hpos (Int.lt_irrefl 0)⟩

/-- In every run whose steps are regular, every call that succeeds leaves all that it is about
populated and every call that fails leaves all as it was. -/
theorem get_correct {board : Board} {switching : Bool} {ops : List Op}
    (h : Run.Each (step board) (Regular board) (init switching) ops) :
    Run.Each (step board) (Spec board) (init switching) ops := by
  have hrun := Run.always_of_each (P := Inv) (fun _ _ hs hop => (hs.step hop).2) (inv_init switching) h
  exact hrun.each_of_each h fun _ _ hs hop => (hs.step hop).1

/-- The first CPU is big, the others are little. -/
def oneBig : Board where
  device _ := true
  package cpu := if cpu = 0 then .a15 else .a7

def freqsOf : Answers := { cluster := fun _ => { freqs := freqs } }

/-- Both clusters are set up with switching off. -/
def bothUp : List Op := [.get 0 (freqsOf [1000000, 1200000]), .get 1 (freqsOf [350000, 800000])]

theorem get_correct_both_modes :
    let ops := bothUp ++ [.setSwitching true, .get 0 { alloc := false }, .get 0 {}, .get 1 {}, .put 1,
      .setSwitching false, .put 1, .get 1 (freqsOf [350000])]
    (ops.foldl (step oneBig) (init false)).table .merged = .live [175000, 400000, 1000000, 1200000] ∧
      Run.Each (step oneBig) (Spec oneBig) (init false) ops :=
  ⟨by decide +kernel, get_correct (by decide +kernel)⟩

/-- With switching on from the start the merge reads tables that are not there. After the data of a
cluster have been put, a call with switching on succeeds all the same. And a clock that is not
found leaves an error in its place. -/
theorem get_not_correct : ((init true).get oneBig 0 {}).1 = .oops ∧
      (let s := (bothUp ++ [Op.setSwitching true, .get 0 {}, .setSwitching false, .put 0, .setSwitching true]).foldl
          (step oneBig) (init false)
      (s.get oneBig 0 {}).1 = .returned 0 ∧ (s.get oneBig 0 {}).2.table (.cluster .a15) = .null ∧
        (s.get oneBig 0 {}).2.clk .a15 = .released) ∧
      (let answers : Answers := { cluster := fun _ => { clk := -2 } }
      ((init false).get oneBig 0 answers).1 = .returned (-2) ∧
        ((init false).get oneBig 0 answers).2.clk .a15 ≠ (init false).clk .a15) := by
  decide +kernel

end BigLittle.Cpufreq
