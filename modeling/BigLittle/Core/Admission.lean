import Mathlib.Algebra.Order.BigOperators.Group.List
import Mathlib.Algebra.Order.Field.Basic
import Mathlib.Algebra.Order.Ring.Rat
import Mathlib.Tactic.FieldSimp
import Mathlib.Tactic.Linarith
import Mathlib.Tactic.NormNum
import BigLittle.Cfs.State
import BigLittle.Lib.Run
import BigLittle.Lib.Walk

/-!
# Admission of bandwidth limits

A group may be limited to a quota of CPU time per period (CFS) and is given a runtime
per period (RT). A write to one of the four files is accepted only if the whole tree
stays schedulable: no group has a larger share than its nearest limited ancestor, and
the RT shares of the children of a group sum up to no more than its own. Shares are the
fixed-point numbers of `to_ratio`, with 20 fractional bits in a 64-bit word.

The shift in `to_ratio` is not checked for overflow. For amounts that fit, the
comparisons hold for the exact ratios up to rounding; an amount that does not fit is
taken for a small one.
-/

namespace BigLittle.Core

open Cfs List
open Word (add mul ofInt toSigned wrap)

inductive LimitError where
  | einval
  | ebusy
deriving DecidableEq

/-- `RUNTIME_INF`. As an `s64` it is -1. -/
def runtimeInf : Nat := 2 ^ 64 - 1

def nsecPerUsec : Nat := 1000

/-- The task groups with the lists `walk_tg_tree` follows. -/
structure GroupTree (G : Type*) extends Hierarchy G where
  children : Option G → List G
  mem_children : ∀ tg g, g ∈ children tg ↔ parent g = tg
  height : Nat
  depth_lt : ∀ g, depth g < height
  /-- The addresses of the groups are distinct, so a list of them is shorter than
  the address space by far. -/
  length_children : ∀ tg, (children tg).length < 2 ^ 44

/-- `quota`, `period` and `hierarchal_quota` of `struct cfs_bandwidth`. -/
structure CfsLimit where
  quota : Nat := runtimeInf
  period : Nat := 100000000
  hierarchalQuota : Int := 0

/-- `struct rt_bandwidth`. -/
structure RtLimit where
  runtime : Nat := 0
  period : Nat := 1000000000

structure Limits (G : Type*) where
  cfs : Option G → CfsLimit
  rt : Option G → RtLimit
  /-- `global_rt_period` and `global_rt_runtime` -/
  rtGlobal : RtLimit

/-- Which group is to get which limit; `rt_schedulable` is also called for none. -/
structure Request (G : Type*) where
  tg : Option (Option G)
  period : Nat
  amount : Nat

def toRatio (period runtime : Nat) : Nat :=
  if runtime = runtimeInf then 2 ^ 20 else wrap 64 (runtime * 2 ^ 20) / period

/-- `tg_get_cfs_quota`, as the `u64` its caller stores it in. -/
def tgGetCfsQuota (l : CfsLimit) : Nat :=
  if l.quota = runtimeInf then runtimeInf else l.quota / nsecPerUsec

def tgGetCfsPeriod (l : CfsLimit) : Nat := l.period / nsecPerUsec

def RtLimit.ratio (l : RtLimit) : Nat := toRatio l.period l.runtime

variable {G : Type*}

/-- A write to `cpu.cfs_quota_us`, `cpu.cfs_period_us`, `cpu.rt_runtime_us`,
`cpu.rt_period_us` or the two sysctls. -/
inductive LimitWrite (G : Type*) where
  | cfsQuota (tg : Option G) (us : Int)
  | cfsPeriod (tg : Option G) (us : Nat)
  | rtRuntime (tg : Option G) (us : Int) (hasRtTasks : Option G → Bool)
  | rtPeriod (tg : Option G) (us : Nat) (hasRtTasks : Option G → Bool)
  | rtGlobal (periodUs : Nat) (runtimeUs : Int) (hasRtTasks : Option G → Bool)

namespace Limits

variable [DecidableEq G] (tree : GroupTree G) (s : Limits G) (tg : Option G) (d : Request G)

def walkOrder : List (Option G) :=
  Walk.preorder (fun tg => (tree.children tg).map some) (tree.height + 1) none

def modifyCfs (f : CfsLimit → CfsLimit) : Limits G :=
  { s with cfs := Function.update s.cfs tg (f (s.cfs tg)) }

def modifyRt (f : RtLimit → RtLimit) : Limits G :=
  { s with rt := Function.update s.rt tg (f (s.rt tg)) }

def normalizeCfsQuota (tg : Option G) : Nat :=
  let period := if d.tg = some tg then d.period else tgGetCfsPeriod (s.cfs tg)
  let quota := if d.tg = some tg then d.amount else tgGetCfsQuota (s.cfs tg)
  if quota = runtimeInf then runtimeInf else toRatio period quota

def tgCfsSchedulableDown (s : Limits G) (tg : Option G) : Limits G × Option LimitError :=
  match tg with
  | none => (s.modifyCfs none fun l => { l with hierarchalQuota := -1 }, none)
  | some g =>
    let quota := toSigned 64 (s.normalizeCfsQuota d tg)
    let parentQuota := (s.cfs (tree.parent g)).hierarchalQuota
    if quota = -1 then
      (s.modifyCfs tg fun l => { l with hierarchalQuota := parentQuota }, none)
    else if parentQuota ≠ -1 ∧ parentQuota < quota then (s, some .einval)
    else (s.modifyCfs tg fun l => { l with hierarchalQuota := quota }, none)

/-- The data of the walk in `__cfs_schedulable`, in microseconds. -/
def cfsRequest (period quota : Nat) : Request G :=
  if quota = runtimeInf then ⟨some tg, period, quota⟩
  else ⟨some tg, period / nsecPerUsec, quota / nsecPerUsec⟩

/-- `__cfs_schedulable`. -/
def cfsSchedulable (period quota : Nat) : Limits G × Option LimitError :=
  Walk.visitAll (tgCfsSchedulableDown tree (cfsRequest tg period quota)) (walkOrder tree) s

def minCfsQuotaPeriod : Nat := 1000000

def maxCfsQuotaPeriod : Nat := 1000000000

/-- `tg_set_cfs_bandwidth`, without what it does to the queues of the group. -/
def tgSetCfsBandwidth (period quota : Nat) : Limits G × Option LimitError :=
  if tg = none then (s, some .einval)
  else if quota < minCfsQuotaPeriod ∨ period < minCfsQuotaPeriod then (s, some .einval)
  else if maxCfsQuotaPeriod < period then (s, some .einval)
  else
    match s.cfsSchedulable tree tg period quota with
    | (s, some e) => (s, some e)
    | (s, none) =>
      (s.modifyCfs tg fun l => { l with quota := quota, period := period }, none)

def tgSetCfsQuota (cfsQuotaUs : Int) : Limits G × Option LimitError :=
  let quota :=
    if cfsQuotaUs < 0 then runtimeInf else ofInt 64 (cfsQuotaUs * nsecPerUsec)
  s.tgSetCfsBandwidth tree tg (s.cfs tg).period quota

def tgSetCfsPeriod (cfsPeriodUs : Nat) : Limits G × Option LimitError :=
  s.tgSetCfsBandwidth tree tg (mul 64 cfsPeriodUs nsecPerUsec) (s.cfs tg).quota

/-- The limit of `tg` that `tg_rt_schedulable` takes for granted. -/
def rtLimit (tg : Option G) : RtLimit :=
  if d.tg = some tg then ⟨d.amount, d.period⟩ else s.rt tg

/-- `tg_rt_schedulable`; `tg_has_rt_tasks` is an argument. -/
def tgRtSchedulable (hasRtTasks : Option G → Bool) (s : Limits G) (tg : Option G) : Limits G × Option LimitError :=
  let l := s.rtLimit d tg
  let total := l.ratio
  let sum := ((tree.children tg).map fun c => (s.rtLimit d (some c)).ratio).foldl (add 64) 0
  if l.period < l.runtime ∧ l.runtime ≠ runtimeInf then (s, some .einval)
  else if s.rtGlobal.runtime ≠ runtimeInf ∧ l.runtime = 0 ∧ hasRtTasks tg then (s, some .ebusy)
  else if s.rtGlobal.ratio < total then (s, some .einval)
  else if total < sum then (s, some .einval)
  else (s, none)

/-- `__rt_schedulable`. -/
def rtSchedulable (hasRtTasks : Option G → Bool) : Option LimitError :=
  (Walk.visitAll (tgRtSchedulable tree d hasRtTasks) (walkOrder tree) s).2

/-- `tg_set_rt_bandwidth`, without the copies in the queues of the group. -/
def tgSetRtBandwidth (rtPeriod rtRuntime : Nat) (hasRtTasks : Option G → Bool) : Limits G × Option LimitError :=
  match s.rtSchedulable tree ⟨some tg, rtPeriod, rtRuntime⟩ hasRtTasks with
  | some e => (s, some e)
  | none => (s.modifyRt tg fun _ => ⟨rtRuntime, rtPeriod⟩, none)

def schedGroupSetRtRuntime (rtRuntimeUs : Int) (hasRtTasks : Option G → Bool) : Limits G × Option LimitError :=
  let rtRuntime :=
    if rtRuntimeUs < 0 then runtimeInf else ofInt 64 (rtRuntimeUs * nsecPerUsec)
  s.tgSetRtBandwidth tree tg (s.rt tg).period rtRuntime hasRtTasks

def schedGroupSetRtPeriod (rtPeriodUs : Nat) (hasRtTasks : Option G → Bool) : Limits G × Option LimitError :=
  let rtPeriod := mul 64 rtPeriodUs nsecPerUsec
  if rtPeriod = 0 then (s, some .einval)
  else s.tgSetRtBandwidth tree tg rtPeriod (s.rt tg).runtime hasRtTasks

/-- `sched_rt_handler` with `sched_rt_global_constraints`: the two sysctls as they
would be after the write. -/
def schedRtHandler (periodUs : Nat) (runtimeUs : Int) (hasRtTasks : Option G → Bool) : Limits G × Option LimitError :=
  let next : RtLimit :=
    ⟨if runtimeUs < 0 then runtimeInf else runtimeUs.toNat * nsecPerUsec, periodUs * nsecPerUsec⟩
  if periodUs = 0 then (s, some .einval)
  else if next.period < next.runtime ∧ next.runtime ≠ runtimeInf then (s, some .einval)
  else
    let t := { s with rtGlobal := next }
    match t.rtSchedulable tree ⟨none, 0, 0⟩ hasRtTasks with
    | some e => (s, some e)
    | none => (t, none)

/-- The limits before anything is written. -/
def boot : Limits G where
  cfs := fun _ => {}
  rt
    | none => { runtime := 950000000 }
    | some _ => {}
  rtGlobal := { runtime := 950000000 }

/-- The limits after a write, and the error if it is not accepted. -/
def write : LimitWrite G → Limits G × Option LimitError
  | .cfsQuota tg us => s.tgSetCfsQuota tree tg us
  | .cfsPeriod tg us => s.tgSetCfsPeriod tree tg us
  | .rtRuntime tg us hasRtTasks => s.schedGroupSetRtRuntime tree tg us hasRtTasks
  | .rtPeriod tg us hasRtTasks => s.schedGroupSetRtPeriod tree tg us hasRtTasks
  | .rtGlobal periodUs runtimeUs hasRtTasks =>
    s.schedRtHandler tree periodUs runtimeUs hasRtTasks

def afterWrite (w : LimitWrite G) : Limits G := (s.write tree w).1

end Limits

/-- The amounts that do not overflow: `to_ratio` shifts microseconds for CFS and
nanoseconds for RT by 20 bits. -/
def LimitWrite.Fits : LimitWrite G → Prop
  | .cfsQuota _ us => us < 2 ^ 44
  | .cfsPeriod _ us => us * nsecPerUsec < 2 ^ 64
  | .rtRuntime _ us _ => us * nsecPerUsec < 2 ^ 44
  | .rtPeriod _ _ _ => True
  | .rtGlobal _ _ _ => True

def CfsLimit.share (l : CfsLimit) : ℚ := l.quota / l.period

/-- The RT share of a group; a group without limit has the whole CPU. -/
def RtLimit.share (l : RtLimit) : ℚ := if l.runtime = runtimeInf then 1 else l.runtime / l.period

namespace Limits

variable (tree : GroupTree G) (s : Limits G)

/-- The nearest limited group above `g`. -/
def limitedAbove (g : G) : Option G :=
  (tree.path (tree.parent g)).find? fun a => (s.cfs (some a)).quota ≠ runtimeInf

/-- No group has a larger share than its nearest limited ancestor, up to the
rounding of one ratio. -/
def CfsWithin : Prop :=
  ∀ g, (s.cfs (some g)).quota ≠ runtimeInf → ∀ a ∈ s.limitedAbove tree g,
    (s.cfs (some g)).share < (s.cfs (some a)).share + 1 / 2 ^ 20

/-- The shares of the children of a group sum up to no more than its own, up to
the rounding of one ratio per child. -/
def RtWithin : Prop :=
  ∀ tg, ((tree.children tg).map fun c => (s.rt (some c)).share).sum ≤
    (s.rt tg).share + (tree.children tg).length / 2 ^ 20

end Limits

section Ratio

/-- `to_ratio` is the exact ratio in units of 2⁻²⁰, rounded down. -/
lemma toRatio_rounds_down {period runtime : Nat} (hperiod : 0 < period) (hruntime : runtime < 2 ^ 44) :
    (toRatio period runtime : ℚ) ≤ (runtime / period : ℚ) * 2 ^ 20 ∧
    (runtime / period : ℚ) * 2 ^ 20 < toRatio period runtime + 1 := by
  have hperiod' : (0 : ℚ) < period := Nat.cast_pos.mpr hperiod
  have heq : toRatio period runtime = runtime * 2 ^ 20 / period := by
    rw [toRatio, if_neg (by rw [runtimeInf]; omega), Word.wrap_of_lt (by omega)]
  have hlow : runtime * 2 ^ 20 / period * period ≤ runtime * 2 ^ 20 := Nat.div_mul_le_self _ _
  have hhigh : runtime * 2 ^ 20 < (runtime * 2 ^ 20 / period + 1) * period := by
    rw [Nat.mul_comm _ period]
    exact Nat.lt_mul_div_succ _ hperiod
  rw [heq, div_mul_eq_mul_div]
  constructor
  · rw [le_div_iff₀ hperiod']
    exact_mod_cast hlow
  · rw [div_lt_iff₀ hperiod']
    exact_mod_cast hhigh

/-- Amounts for which the shift in `to_ratio` does not overflow. -/
def RtLimit.Sound (l : RtLimit) : Prop :=
  0 < l.period ∧ (l.runtime = runtimeInf ∨ l.runtime < 2 ^ 44)

lemma RtLimit.Sound.share_bounds {l : RtLimit} (h : l.Sound) :
    (l.ratio : ℚ) ≤ l.share * 2 ^ 20 ∧ l.share * 2 ^ 20 ≤ l.ratio + 1 := by
  rw [RtLimit.share, RtLimit.ratio]
  split
  next hinf =>
    rw [toRatio, if_pos hinf]
    norm_num
  next hfin =>
    obtain ⟨hlow, hhigh⟩ := toRatio_rounds_down h.1 (h.2.resolve_left hfin)
    exact ⟨hlow, hhigh.le⟩

/-- The shares of a list of limits, against their ratios. -/
lemma sum_share_le {ι : Type*} {l : ι → RtLimit} (hsound : ∀ i, (l i).Sound) (is : List ι) :
    (is.map fun i => (l i).share).sum * 2 ^ 20 ≤ ((is.map fun i => (l i).ratio).sum : Nat) + is.length := by
  induction is with
  | nil => simp
  | cons i is ih =>
    have hi := (hsound i).share_bounds.2
    simp only [map_cons, sum_cons, length_cons, Nat.cast_add, Nat.cast_one]
    linarith

/-- A CFS limit as the files write it: whole microseconds, in range. -/
def CfsLimit.Sound (l : CfsLimit) : Prop :=
  (∃ period, l.period = period * nsecPerUsec ∧ 1000 ≤ period) ∧
    (l.quota = runtimeInf ∨ ∃ quota, l.quota = quota * nsecPerUsec ∧ quota < 2 ^ 44)

/-- The ratio `tg_cfs_schedulable_down` computes for a limit, -1 for none. -/
def CfsLimit.normalized (l : CfsLimit) : Int :=
  if l.quota = runtimeInf then -1 else toRatio (tgGetCfsPeriod l) (tgGetCfsQuota l)

lemma CfsLimit.Sound.share_lt {l l' : CfsLimit} (h : l.Sound) (h' : l'.Sound) (hlimit : l.quota ≠ runtimeInf)
    (hlimit' : l'.quota ≠ runtimeInf) (hle : l.normalized ≤ l'.normalized) : l.share < l'.share + 1 / 2 ^ 20 := by
  obtain ⟨⟨period, hperiod, hmin⟩, hquota⟩ := h
  obtain ⟨⟨period', hperiod', hmin'⟩, hquota'⟩ := h'
  have hpos : 0 < period := by omega
  have hpos' : 0 < period' := by omega
  obtain ⟨quota, hquota, hlt⟩ := hquota.resolve_left hlimit
  obtain ⟨quota', hquota', hlt'⟩ := hquota'.resolve_left hlimit'
  have hshare : ∀ {q p : Nat}, 0 < p →
      ((q * nsecPerUsec : Nat) / (p * nsecPerUsec : Nat) : ℚ) = q / p := by
    intro q p hp
    rw [Nat.cast_mul, Nat.cast_mul, mul_div_mul_right _ _ (by norm_num [nsecPerUsec])]
  have hnormalized : (toRatio period quota : ℚ) ≤ toRatio period' quota' := by
    rw [normalized, if_neg hlimit, normalized, if_neg hlimit', tgGetCfsQuota, if_neg hlimit,
      tgGetCfsQuota, if_neg hlimit', tgGetCfsPeriod, tgGetCfsPeriod, hperiod, hperiod', hquota,
      hquota', Nat.mul_div_cancel _ (by decide), Nat.mul_div_cancel _ (by decide),
      Nat.mul_div_cancel _ (by decide), Nat.mul_div_cancel _ (by decide)] at hle
    exact_mod_cast hle
  rw [share, share, hperiod, hquota, hperiod', hquota', hshare hpos, hshare hpos']
  have hhigh := (toRatio_rounds_down hpos hlt).2
  have hlow := (toRatio_rounds_down hpos' hlt').1
  linarith

lemma CfsLimit.normalized_eq_neg_one (l : CfsLimit) : l.normalized = -1 ↔ l.quota = runtimeInf := by
  rw [normalized]
  split
  next h => simp [h]
  next h =>
    simp only [h, iff_false]
    omega

/-- The ratio of a sound limit is not read as a negative number. -/
lemma CfsLimit.Sound.toSigned_ratio {l : CfsLimit} (h : l.Sound) :
    toSigned 64 (toRatio (tgGetCfsPeriod l) (tgGetCfsQuota l)) = toRatio (tgGetCfsPeriod l) (tgGetCfsQuota l) := by
  obtain ⟨⟨period, hperiod, hmin⟩, -⟩ := h
  rw [toSigned, if_pos]
  rw [tgGetCfsPeriod, hperiod, Nat.mul_div_cancel _ (by decide), toRatio]
  split
  · decide
  · have hlt : wrap 64 (tgGetCfsQuota l * 2 ^ 20) < 2 ^ 64 := Word.wrap_lt _ _
    exact (Nat.div_le_div_left hmin (by decide)).trans_lt (Nat.div_lt_of_lt_mul (by omega))

end Ratio

namespace Limits

variable {tree : GroupTree G} {s t : Limits G}

/-- What the limits of the groups say; the walks only change `hierarchal_quota`. -/
def amounts (s : Limits G) : (Option G → Nat × Nat) × (Option G → RtLimit) :=
  (fun tg => ((s.cfs tg).quota, (s.cfs tg).period), s.rt)

/-- `v` is a group and `p` its parent. -/
def IsParent (tree : GroupTree G) (p v : Option G) : Prop := ∃ g ∈ v, tree.parent g = p

lemma mem_walkOrder (tree : GroupTree G) (tg : Option G) : tg ∈ walkOrder tree := by
  -- the level of a group is above that of its parent, the root is at level 0
  let level : Option G → Nat := fun tg => tg.elim 0 fun g => tree.depth g + 1
  apply Walk.mem_preorder level
  · intro v hv
    obtain ⟨g, rfl⟩ := Option.ne_none_iff_exists'.mp hv
    refine ⟨tree.parent g, mem_map_of_mem ((tree.mem_children _ _).mpr rfl), ?_⟩
    cases hp : tree.parent g with
    | none => exact Nat.succ_pos _
    | some p => exact Nat.succ_lt_succ (tree.depth_parent hp)
  · cases tg with
    | none => exact Nat.succ_pos _
    | some g => exact Nat.succ_lt_succ (tree.depth_lt g)

lemma parentsFirst_walkOrder (tree : GroupTree G) :
    Walk.ParentsFirst (IsParent tree) (fun _ => False) (walkOrder tree) := by
  apply Walk.parentsFirst_preorder
  · intro v c hc p hp
    obtain ⟨g, hg, rfl⟩ := mem_map.mp hc
    obtain ⟨_, ⟨⟩, rfl⟩ := hp
    exact ((tree.mem_children v g).mp hg)
  · rintro p ⟨g, ⟨⟩, -⟩

/-- The nearest ratio from `tg` upwards, -1 if there is none. -/
def limitFrom (tree : GroupTree G) (ratio : G → Int) (tg : Option G) : Int :=
  ((tree.path tg).find? fun a => ratio a ≠ -1).elim (-1) ratio

lemma limitFrom_some (tree : GroupTree G) (ratio : G → Int) (g : G) :
    limitFrom tree ratio (some g) = if ratio g = -1 then limitFrom tree ratio (tree.parent g) else ratio g := by
  rw [limitFrom, tree.path_some, find?_cons]
  by_cases h : ratio g = -1
  · rw [if_pos h, h]
    rfl
  · rw [if_neg h, decide_eq_true h]
    rfl

/-- Every group with a ratio stays below the nearest one above it. -/
def Ordered (tree : GroupTree G) (ratio : G → Int) : Prop :=
  ∀ g, ratio g = -1 ∨ limitFrom tree ratio (tree.parent g) = -1 ∨ ratio g ≤ limitFrom tree ratio (tree.parent g)

/-- The ratio of each group under the limits that are in force. -/
def ratioOf (s : Limits G) (g : G) : Int := (s.cfs (some g)).normalized

lemma ratioOf_congr (h : t.amounts = s.amounts) : t.ratioOf = s.ratioOf := by
  funext g
  have hg := congrFun (congrArg Prod.fst h) (some g)
  simp only [amounts, Prod.mk.injEq] at hg
  rw [ratioOf, ratioOf, CfsLimit.normalized, CfsLimit.normalized, tgGetCfsPeriod, tgGetCfsPeriod,
    tgGetCfsQuota, tgGetCfsQuota, hg.1, hg.2]

/-- Everything the tree of groups owes to the checks made so far. -/
structure Admitted (tree : GroupTree G) (s : Limits G) : Prop where
  cfsSound : ∀ tg, (s.cfs tg).Sound
  rtSound : ∀ tg, (s.rt tg).Sound
  cfsOrdered : Ordered tree s.ratioOf
  rtOrdered : ∀ tg, ((tree.children tg).map fun c => (s.rt (some c)).ratio).sum ≤ (s.rt tg).ratio

lemma Admitted.congr (hs : Admitted tree s) (h : t.amounts = s.amounts) : Admitted tree t := by
  have hrt : t.rt = s.rt := congrArg Prod.snd h
  refine ⟨fun tg => ?_, fun tg => ?_, ?_, fun tg => ?_⟩
  · have htg := congrFun (congrArg Prod.fst h) tg
    simp only [amounts, Prod.mk.injEq] at htg
    rw [CfsLimit.Sound, htg.1, htg.2]
    exact hs.cfsSound tg
  · rw [hrt]
    exact hs.rtSound tg
  · rw [ratioOf_congr h]
    exact hs.cfsOrdered
  · rw [hrt]
    exact hs.rtOrdered tg

lemma boot_admitted (tree : GroupTree G) : Admitted tree boot where
  cfsSound _ := ⟨⟨100000, rfl, by decide⟩, .inl rfl⟩
  rtSound
    | none => ⟨show 0 < 1000000000 by decide, .inr (show 950000000 < 2 ^ 44 by decide)⟩
    | some _ => ⟨show 0 < 1000000000 by decide, .inr (show 0 < 2 ^ 44 by decide)⟩
  cfsOrdered _ := .inl rfl
  rtOrdered tg := by
    have hzero : ∀ c : G, (boot.rt (some c)).ratio = 0 := fun _ =>
      show toRatio 1000000000 0 = 0 by decide
    simp only [hzero, map_const', sum_replicate, smul_zero, Nat.zero_le]

lemma Admitted.cfsWithin (hs : Admitted tree s) : CfsWithin tree s := by
  intro g hlimited a ha
  have hlimit : limitFrom tree s.ratioOf (tree.parent g) = s.ratioOf a := by
    have hfind : ((tree.path (tree.parent g)).find? fun a => s.ratioOf a ≠ -1) = some a := by
      rw [← ha, limitedAbove]
      simp only [ratioOf, CfsLimit.normalized_eq_neg_one, ne_eq]
    rw [limitFrom, hfind]
    rfl
  have hfound : (s.cfs (some a)).quota ≠ runtimeInf := by
    simpa using find?_some ha
  have hordered := hs.cfsOrdered g
  rw [hlimit, ratioOf, ratioOf, CfsLimit.normalized_eq_neg_one, CfsLimit.normalized_eq_neg_one] at hordered
  exact (hs.cfsSound _).share_lt (hs.cfsSound _) hlimited hfound ((hordered.resolve_left hlimited).resolve_left hfound)

lemma Admitted.rtWithin (hs : Admitted tree s) : RtWithin tree s := by
  intro tg
  have hsum := sum_share_le (fun c => hs.rtSound (some c)) (tree.children tg)
  have hown := (hs.rtSound tg).share_bounds.1
  have hordered : ((((tree.children tg).map fun c => (s.rt (some c)).ratio).sum : Nat) : ℚ) ≤
      (s.rt tg).ratio := Nat.cast_le.mpr (hs.rtOrdered tg)
  linarith

variable [DecidableEq G]

section Walk

/-- The ratio the walk for the request `d` computes for a group. -/
def requestedRatio (d : Request G) (s : Limits G) (g : G) : Int :=
  toSigned 64 (s.normalizeCfsQuota d (some g))

lemma requestedRatio_congr (d : Request G) (h : t.amounts = s.amounts) : requestedRatio d t = requestedRatio d s := by
  funext g
  have hg := congrFun (congrArg Prod.fst h) (some g)
  simp only [amounts, Prod.mk.injEq] at hg
  rw [requestedRatio, requestedRatio, normalizeCfsQuota, normalizeCfsQuota, tgGetCfsPeriod,
    tgGetCfsPeriod, tgGetCfsQuota, tgGetCfsQuota, hg.1, hg.2]

lemma modifyCfs_cfs_self (s : Limits G) (tg : Option G) (f : CfsLimit → CfsLimit) :
    (s.modifyCfs tg f).cfs tg = f (s.cfs tg) := Function.update_self _ _ _

lemma modifyCfs_cfs_of_ne (s : Limits G) {tg tg' : Option G} (f : CfsLimit → CfsLimit)
    (h : tg' ≠ tg) : (s.modifyCfs tg f).cfs tg' = s.cfs tg' := Function.update_of_ne h _ _

lemma modifyCfs_hierarchal_amounts (s : Limits G) (tg : Option G) (quota : Int) :
    (s.modifyCfs tg fun l => { l with hierarchalQuota := quota }).amounts = s.amounts := by
  refine Prod.ext (funext fun tg' => ?_) rfl
  by_cases h : tg' = tg
  · subst h
    dsimp only [amounts]
    rw [modifyCfs_cfs_self]
  · dsimp only [amounts]
    rw [modifyCfs_cfs_of_ne s _ h]

lemma tgCfsSchedulableDown_amounts (tree : GroupTree G) (d : Request G)
    (s : Limits G) (tg : Option G) : (tgCfsSchedulableDown tree d s tg).1.amounts = s.amounts := by
  cases tg with
  | none => exact modifyCfs_hierarchal_amounts s none _
  | some g =>
    dsimp only [tgCfsSchedulableDown]
    split
    · exact modifyCfs_hierarchal_amounts s (some g) _
    · split
      · rfl
      · exact modifyCfs_hierarchal_amounts s (some g) _

/-- The walk has dealt with `tg`: its `hierarchal_quota` is the nearest ratio from
it upwards, and its own ratio is in order. -/
def Visited (tree : GroupTree G) (ratio : G → Int) (s : Limits G) (tg : Option G) : Prop :=
  (s.cfs tg).hierarchalQuota = limitFrom tree ratio tg ∧
    ∀ g ∈ tg, ratio g = -1 ∨ limitFrom tree ratio (tree.parent g) = -1 ∨ ratio g ≤ limitFrom tree ratio (tree.parent g)

/-- Writing the right `hierarchal_quota` at one node spoils none. -/
lemma Visited.modify {ratio : G → Int} {tg : Option G} {quota : Int}
    (hquota : quota = limitFrom tree ratio tg) {u : Option G} (hu : Visited tree ratio s u) :
    Visited tree ratio (s.modifyCfs tg fun l => { l with hierarchalQuota := quota }) u := by
  refine ⟨?_, hu.2⟩
  by_cases h : u = tg
  · rw [h, modifyCfs_cfs_self, hquota]
  · rw [modifyCfs_cfs_of_ne s _ h, hu.1]

/-- An accepted visit deals with its node. -/
lemma visited_of_accepted {d : Request G} {tg : Option G}
    (hparent : ∀ p, IsParent tree p tg → Visited tree (requestedRatio d s) s p)
    (h : tgCfsSchedulableDown tree d s tg = (t, none)) : Visited tree (requestedRatio d s) t tg ∧ ∀ u,
    Visited tree (requestedRatio d s) s u → Visited tree (requestedRatio d s) t u := by
  cases tg with
  | none =>
    cases h
    exact ⟨⟨by rw [modifyCfs_cfs_self]; rfl, fun _ hg => by cases hg⟩, fun u hu => hu.modify rfl⟩
  | some g =>
    have hlimit := (hparent _ ⟨g, rfl, rfl⟩).1
    have hself := limitFrom_some tree (requestedRatio d s) g
    dsimp only [tgCfsSchedulableDown] at h
    split at h
    next hnone =>
      -- no quota of its own: the limit of the parent is inherited
      cases h
      rw [hlimit]
      have hself := hself.trans (if_pos hnone)
      refine ⟨⟨?_, ?_⟩, fun u hu => hu.modify hself.symm⟩
      · rw [modifyCfs_cfs_self, hself]
      · rintro g' ⟨⟩
        exact .inl hnone
    next hsome =>
      split at h
      next => cases h
      next hle =>
        cases h
        have hself := hself.trans (if_neg hsome)
        refine ⟨⟨?_, ?_⟩, fun u hu => hu.modify hself.symm⟩
        · rw [modifyCfs_cfs_self, hself]
          rfl
        · rintro g' ⟨⟩
          rw [hlimit, not_and_or, not_not, not_lt] at hle
          exact .inr hle

/-- An accepted walk has found the ratios of the request in order. -/
lemma ordered_of_cfsSchedulable {d : Request G}
    (h : Walk.visitAll (tgCfsSchedulableDown tree d) (walkOrder tree) s = (t, none)) :
    Ordered tree (requestedRatio d s) := by
  have hvisited := Walk.settled_of_visitAll (fun r => r.amounts = s.amounts) (Visited tree (requestedRatio d s))
    (fun r v r' hinv hp hv => by
      have hratio := requestedRatio_congr d hinv
      rw [← hratio] at hp ⊢
      have hkeep := tgCfsSchedulableDown_amounts tree d r v
      rw [hv] at hkeep
      exact ⟨hkeep.trans hinv, visited_of_accepted hp hv⟩)
    (parentsFirst_walkOrder tree) rfl nofun h
  intro g
  exact (hvisited (some g) (.inr (mem_walkOrder tree _))).2 g rfl

end Walk

section Accepted

/-- The limits once the write of `quota` and `period` to `tg` is done. -/
def withCfs (s : Limits G) (tg : Option G) (period quota : Nat) : Limits G :=
  s.modifyCfs tg fun l => { l with quota := quota, period := period }

lemma normalizeCfsQuota_request (s : Limits G) (tg : Option G) (period quota : Nat)
    (tg' : Option G) : s.normalizeCfsQuota (cfsRequest tg period quota) tg' =
      if tgGetCfsQuota ((s.withCfs tg period quota).cfs tg') = runtimeInf then runtimeInf
      else toRatio (tgGetCfsPeriod ((s.withCfs tg period quota).cfs tg'))
        (tgGetCfsQuota ((s.withCfs tg period quota).cfs tg')) := by
  have htg : (cfsRequest tg period quota).tg = some tg := by
    rw [cfsRequest]
    split <;> rfl
  by_cases h : tg' = tg
  · subst h
    rw [withCfs, modifyCfs_cfs_self, normalizeCfsQuota, htg, if_pos rfl, if_pos rfl]
    by_cases hquota : quota = runtimeInf
    · simp [cfsRequest, tgGetCfsQuota, hquota]
    · simp [cfsRequest, tgGetCfsQuota, tgGetCfsPeriod, hquota]
  · rw [withCfs, modifyCfs_cfs_of_ne s _ h, normalizeCfsQuota, htg, if_neg (fun heq => h (Option.some.inj heq).symm),
      if_neg (fun heq => h (Option.some.inj heq).symm)]

lemma toSigned_normalized {l : CfsLimit} (h : l.Sound) :
    toSigned 64 (if tgGetCfsQuota l = runtimeInf then runtimeInf else toRatio (tgGetCfsPeriod l) (tgGetCfsQuota l)) =
    l.normalized := by
  rw [CfsLimit.normalized]
  by_cases hquota : l.quota = runtimeInf
  · rw [if_pos hquota, tgGetCfsQuota, if_pos hquota, if_pos rfl]
    decide
  · obtain ⟨quota, heq, hlt⟩ := h.2.resolve_left hquota
    have hfinite : tgGetCfsQuota l ≠ runtimeInf := by
      rw [tgGetCfsQuota, if_neg hquota, heq, Nat.mul_div_cancel _ (by decide), runtimeInf]
      omega
    rw [if_neg hquota, if_neg hfinite, h.toSigned_ratio]

/-- The ratios a walk computes are those in force once the write is done. -/
lemma requestedRatio_eq {tg : Option G} {period quota : Nat}
    (hsound : ∀ tg', ((s.withCfs tg period quota).cfs tg').Sound) :
    requestedRatio (cfsRequest tg period quota) s = (s.withCfs tg period quota).ratioOf := by
  funext g
  rw [requestedRatio, normalizeCfsQuota_request, toSigned_normalized (hsound _), ratioOf]

lemma withCfs_sound (tg : Option G) (hs : ∀ tg', (s.cfs tg').Sound) {period quota : Nat}
    (h : (CfsLimit.mk quota period 0).Sound) (tg' : Option G) : ((s.withCfs tg period quota).cfs tg').Sound := by
  by_cases htg : tg' = tg
  · rwa [htg, withCfs, modifyCfs_cfs_self]
  · rw [withCfs, modifyCfs_cfs_of_ne s _ htg]
    exact hs tg'

lemma withCfs_amounts (h : t.amounts = s.amounts) (tg : Option G) (period quota : Nat) :
    (t.withCfs tg period quota).amounts = (s.withCfs tg period quota).amounts := by
  have hrt : t.rt = s.rt := congrArg Prod.snd h
  refine Prod.ext (funext fun tg' => ?_) hrt
  by_cases htg : tg' = tg
  · dsimp only [amounts]
    rw [htg, withCfs, withCfs, modifyCfs_cfs_self, modifyCfs_cfs_self]
  · dsimp only [amounts]
    rw [withCfs, withCfs, modifyCfs_cfs_of_ne t _ htg, modifyCfs_cfs_of_ne s _ htg]
    exact congrFun (congrArg Prod.fst h) tg'

/-- A sound CFS limit is taken over only if the tree stays in order. -/
lemma tgSetCfsBandwidth_admitted (hs : Admitted tree s) {tg : Option G} {period quota : Nat}
    (hsound : minCfsQuotaPeriod ≤ period → (CfsLimit.mk quota period 0).Sound) :
    Admitted tree (s.tgSetCfsBandwidth tree tg period quota).1 := by
  rw [tgSetCfsBandwidth]
  split
  · exact hs
  split
  · exact hs
  next hmin =>
    split
    · exact hs
    have hsound' := withCfs_sound tg hs.cfsSound (hsound (by omega))
    have hkeep : (s.cfsSchedulable tree tg period quota).1.amounts = s.amounts :=
      Walk.visitAll_keeps amounts (tgCfsSchedulableDown_amounts tree _) _ s
    split
    next t e heq =>
      rw [heq] at hkeep
      exact hs.congr hkeep
    next t heq =>
      have hordered := ordered_of_cfsSchedulable heq
      rw [requestedRatio_eq hsound'] at hordered
      rw [heq] at hkeep
      -- the write itself leaves the RT limits alone
      have hadmitted : Admitted tree (s.withCfs tg period quota) :=
        ⟨hsound', hs.rtSound, hordered, hs.rtOrdered⟩
      exact hadmitted.congr (withCfs_amounts hkeep tg period quota)

end Accepted

section Rt

lemma tgRtSchedulable_state (tree : GroupTree G) (d : Request G) (hasRtTasks : Option G → Bool) (s : Limits G)
    (tg : Option G) : (tgRtSchedulable tree d hasRtTasks s tg).1 = s := by
  dsimp only [tgRtSchedulable]
  repeat' split
  all_goals rfl

lemma foldl_add_of_lt {l : List Nat} {a : Nat} (h : a + l.sum < 2 ^ 64) : l.foldl (add 64) a = a + l.sum := by
  induction l generalizing a with
  | nil => simp
  | cons b l ih =>
    rw [sum_cons, ← Nat.add_assoc] at h
    rw [foldl_cons, sum_cons, ← Nat.add_assoc, Word.add_of_lt (by omega), ih h]

/-- No more runtime than the period gives a ratio of at most one. -/
lemma ratio_le_of_le {l : RtLimit} (h : l.runtime ≤ l.period ∨ l.runtime = runtimeInf) : l.ratio ≤ 2 ^ 20 := by
  rw [RtLimit.ratio, toRatio]
  split
  · exact le_rfl
  next hfinite =>
    have hle := h.resolve_right hfinite
    calc wrap 64 (l.runtime * 2 ^ 20) / l.period
        ≤ l.runtime * 2 ^ 20 / l.period := Nat.div_le_div_right (Word.wrap_le _ _)
      _ ≤ l.period * 2 ^ 20 / l.period := Nat.div_le_div_right (Nat.mul_le_mul_right _ hle)
      _ ≤ 2 ^ 20 := Nat.div_le_of_le_mul le_rfl

/-- An accepted walk has found the RT shares in order. -/
lemma ordered_of_rtSchedulable {d : Request G} {hasRtTasks : Option G → Bool}
    (h : s.rtSchedulable tree d hasRtTasks = none) (tg : Option G) :
    ((tree.children tg).map fun c => (s.rtLimit d (some c)).ratio).sum ≤ (s.rtLimit d tg).ratio := by
  -- the two checks that matter, at every node
  let Passed : Option G → Prop := fun tg =>
    ((s.rtLimit d tg).runtime ≤ (s.rtLimit d tg).period ∨ (s.rtLimit d tg).runtime = runtimeInf) ∧
      ((tree.children tg).map fun c => (s.rtLimit d (some c)).ratio).foldl (add 64) 0 ≤ (s.rtLimit d tg).ratio
  have hpassed : ∀ tg, Passed tg := by
    intro tg
    refine Walk.settled_of_visitAll (fun r => r = s) (fun _ tg => Passed tg) ?_
      (parentsFirst_walkOrder tree) rfl nofun (Prod.ext rfl h) tg (.inr (mem_walkOrder tree tg))
    rintro r v r' rfl - hv
    have hstate := tgRtSchedulable_state tree d hasRtTasks r v
    rw [hv] at hstate
    refine ⟨hstate, ?_, fun u hu => hu⟩
    simp only [tgRtSchedulable] at hv
    split at hv
    · cases hv
    split at hv
    · cases hv
    split at hv
    · cases hv
    split at hv
    · cases hv
    next hlimit _ _ hsum => exact ⟨by omega, by omega⟩
  have hle : ((tree.children tg).map fun c => (s.rtLimit d (some c)).ratio).sum ≤
      (tree.children tg).length * 2 ^ 20 := by
    have hchild : ∀ r ∈ (tree.children tg).map fun c => (s.rtLimit d (some c)).ratio, r ≤ 2 ^ 20 := by
      intro r hr
      obtain ⟨c, -, rfl⟩ := mem_map.mp hr
      exact ratio_le_of_le (hpassed (some c)).1
    have hsum := sum_le_card_nsmul _ _ hchild
    rwa [length_map, smul_eq_mul] at hsum
  have hlength := tree.length_children tg
  have hfold := (hpassed tg).2
  rwa [foldl_add_of_lt (by omega), Nat.zero_add] at hfold

lemma modifyRt_rt (s : Limits G) (tg : Option G) (period runtime : Nat) :
    (s.modifyRt tg fun _ => ⟨runtime, period⟩).rt = s.rtLimit ⟨some tg, period, runtime⟩ := by
  funext tg'
  by_cases h : tg' = tg
  · rw [h, rtLimit, if_pos rfl]
    exact Function.update_self _ _ _
  · rw [rtLimit, if_neg (fun heq => h (Option.some.inj heq).symm)]
    exact Function.update_of_ne h _ _

lemma tgSetRtBandwidth_admitted (hs : Admitted tree s) {tg : Option G} {period runtime : Nat}
    {hasRtTasks : Option G → Bool} (hsound : (RtLimit.mk runtime period).Sound) :
    Admitted tree (s.tgSetRtBandwidth tree tg period runtime hasRtTasks).1 := by
  rw [tgSetRtBandwidth]
  split
  · exact hs
  next heq =>
    have hrt := modifyRt_rt s tg period runtime
    refine ⟨hs.cfsSound, fun tg' => ?_, hs.cfsOrdered, fun tg' => ?_⟩
    · rw [hrt, rtLimit]
      split
      · exact hsound
      · exact hs.rtSound tg'
    · rw [hrt]
      exact ordered_of_rtSchedulable heq tg'

end Rt

lemma schedRtHandler_amounts (s : Limits G) (periodUs : Nat) (runtimeUs : Int) (hasRtTasks : Option G → Bool) :
    (s.schedRtHandler tree periodUs runtimeUs hasRtTasks).1.amounts = s.amounts := by
  dsimp only [schedRtHandler]
  repeat' split
  all_goals rfl

lemma write_admitted (hs : Admitted tree s) {w : LimitWrite G} (hw : w.Fits) : Admitted tree (s.afterWrite tree w) := by
  cases w with
  | cfsQuota tg us =>
    refine tgSetCfsBandwidth_admitted hs fun _ => ⟨(hs.cfsSound tg).1, ?_⟩
    dsimp only [LimitWrite.Fits] at hw
    dsimp only
    split
    · exact .inl rfl
    next hnonneg =>
      refine .inr ⟨us.toNat, ?_, by omega⟩
      rw [ofInt, Int.emod_eq_of_lt] <;> simp only [nsecPerUsec] <;> omega
  | cfsPeriod tg us =>
    rw [LimitWrite.Fits] at hw
    refine tgSetCfsBandwidth_admitted hs fun hmin => ⟨⟨us, ?_, ?_⟩, (hs.cfsSound tg).2⟩
    · exact Word.mul_of_lt hw
    · rw [Word.mul_of_lt hw, minCfsQuotaPeriod, nsecPerUsec] at hmin
      omega
  | rtRuntime tg us hasRtTasks =>
    refine tgSetRtBandwidth_admitted hs ⟨(hs.rtSound tg).1, ?_⟩
    dsimp only [LimitWrite.Fits] at hw
    dsimp only
    split
    · exact .inl rfl
    next hnonneg =>
      right
      rw [ofInt, Int.emod_eq_of_lt] <;> simp only [nsecPerUsec] at hw ⊢ <;> omega
  | rtPeriod tg us hasRtTasks =>
    rw [afterWrite, write, schedGroupSetRtPeriod]
    split
    · exact hs
    next hpos => exact tgSetRtBandwidth_admitted hs ⟨Nat.pos_of_ne_zero hpos, (hs.rtSound tg).2⟩
  | rtGlobal periodUs runtimeUs hasRtTasks => exact hs.congr (schedRtHandler_amounts ..)

end Limits

/-- As long as every amount written fits, the limits in force keep both orders. -/
theorem limits_respect_hierarchy [DecidableEq G] (tree : GroupTree G) (writes : List (LimitWrite G))
    (hfits : ∀ w ∈ writes, w.Fits) :
    Run.Always (Limits.afterWrite tree) (fun s => s.CfsWithin tree ∧ s.RtWithin tree) Limits.boot writes := by
  have hadmitted := Run.always_of_each (P := Limits.Admitted tree)
    (fun s w hs hw => Limits.write_admitted hs hw) (Limits.boot_admitted tree)
    (Run.each_of_mem hfits)
  exact hadmitted.mono fun s hs => ⟨hs.cfsWithin, hs.rtWithin⟩

/-- Two groups, `true` below `false`. -/
def nestedPair : GroupTree Bool where
  toHierarchy := nestedGroups.toHierarchy
  children
    | none => [false]
    | some g => if g then [] else [true]
  mem_children := by decide
  height := 2
  depth_lt := by decide
  length_children := by decide

/-- A group limited to a tenth of a CPU takes a child with 2⁴⁴ microseconds in
every tenth of a second: the shift leaves no bit of them. Likewise a child gets
half of every RT period of 2⁴² microseconds below a group without any runtime. -/
theorem limits_exceed_hierarchy :
    let s := [LimitWrite.cfsQuota (some false) 10000,
      .cfsQuota (some true) (2 ^ 44)].foldl (Limits.afterWrite nestedPair) Limits.boot
    let t := [LimitWrite.rtPeriod (some true) (2 ^ 42) fun _ => false,
      .rtRuntime (some true) (2 ^ 41) fun _ => false].foldl (Limits.afterWrite nestedPair) Limits.boot
    ¬ s.CfsWithin nestedPair ∧ ¬ t.RtWithin nestedPair := by
  intro s t
  have hchild : (s.cfs (some true)).quota = 2 ^ 44 * 1000 ∧ (s.cfs (some true)).period = 100000000 := by decide +kernel
  have hparent : (s.cfs (some false)).quota = 10000000 ∧ (s.cfs (some false)).period = 100000000 := by decide +kernel
  have habove : s.limitedAbove nestedPair true = some false := by decide +kernel
  have hrt : (t.rt (some true)).runtime = 2 ^ 41 * 1000 ∧ (t.rt (some true)).period = 2 ^ 42 * 1000 ∧
      (t.rt (some false)).runtime = 0 := by decide +kernel
  constructor
  · intro hwithin
    have hlt := hwithin true (by rw [hchild.1]; decide) false habove
    rw [CfsLimit.share, CfsLimit.share, hchild.1, hchild.2, hparent.1, hparent.2] at hlt
    norm_num at hlt
  · intro hwithin
    have hle := hwithin (some false)
    simp only [nestedPair, Bool.false_eq_true, if_false, map_cons, map_nil,
      sum_cons, sum_nil, RtLimit.share, hrt] at hle
    norm_num [runtimeInf] at hle

/-- Nested limits of a half and a fifth, and RT runtime for the outer group. -/
theorem limits_respect_hierarchy_nested : Run.Always (Limits.afterWrite nestedPair)
      (fun s => s.CfsWithin nestedPair ∧ s.RtWithin nestedPair) Limits.boot
      [.cfsQuota (some false) 50000, .cfsQuota (some true) 20000,
       .cfsPeriod (some true) 100000, .rtRuntime (some false) 100000 fun _ => false] :=
  limits_respect_hierarchy nestedPair _ (by simp [LimitWrite.Fits, nsecPerUsec])

end BigLittle.Core
