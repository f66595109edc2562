import Mathlib.Order.Bounds.Basic
import BigLittle.Topology.Capacity

/-!
# The power scale of each CPU

With `CONFIG_SCHED_HMP_ENHANCEMENT` the capacity of a CPU is scaled by the greatest
one. Without it, `parse_dt_cpu_power` chooses a `middle_capacity` between the least
and the greatest, and that is what the capacity is divided by.
-/

namespace BigLittle.Topology

open List

/-- What `parse_dt_cpu_power` records for a node; `none` if the node is skipped. -/
def CpuNode.power? (node : CpuNode) : Option CpuCapacity := do
  let core ← node.core
  let rate ← node.clockFrequency
  some { capacity := (rate.toNat >>> 20) * core.efficiency }

namespace Capacities

variable (s : Capacities)

/-- The body of the loop of `parse_dt_cpu_power`. -/
def visit (node : Option CpuNode) : Capacities :=
  match node.bind CpuNode.power? with
  | none => { s with cpu := s.cpu + 1 }
  | some e => s.record e

def middleCapacity : Nat :=
  if 4 * s.maxCapacity < 3 * (s.maxCapacity + s.minCapacity) then
    (s.minCapacity + s.maxCapacity) >>> 11
  else ((s.maxCapacity / 3) >>> 9) + 1

/-- `update_cpu_power` without the option. -/
def updateByMiddle {n : Nat} (power : Fin n → Nat) (cpu : Fin n) : Fin n → Nat :=
  if (s.table cpu).capacity = 0 then power
  else Function.update power cpu ((s.table cpu).capacity / s.middleCapacity)

/-- No sum or product leaves `unsigned long`. -/
def Exact : Prop :=
  (∀ idx, (s.table idx).capacity <<< 10 < 2 ^ 64) ∧
    4 * s.maxCapacity < 2 ^ 64 ∧ 3 * (s.maxCapacity + s.minCapacity) < 2 ^ 64

end Capacities

/-- `parse_dt_cpu_power`; the nodes are those `of_get_cpu_node` finds. -/
def parseDtCpuPower (nodes : List (Option CpuNode)) : Capacities := nodes.foldl Capacities.visit {}

/-- The range that the comment at `table_efficiency` gives for `cpu_scale`. -/
def InRange (scale : Nat) : Prop := 0 < scale ∧ scale < 3 * 1024 / 2
  deriving Decidable

lemma inRange_default : InRange 1024 := by decide

/-- A CPU that the tree describes in full, with a clock of at least 1 MHz. -/
structure Described where
  core : Core
  rate : UInt32
  reg : UInt32
  mhz : 1000000 ≤ rate

namespace Described

variable (d : Described)

def node : CpuNode := { core := some d.core, clockFrequency := some d.rate, reg := some d.reg }

def capacity : Nat := (d.rate.toNat >>> 20) * d.core.efficiency

/-- What `parse_dt_topology` records. -/
def entry : CpuCapacity := { hwid := d.reg.toNat, capacity := d.capacity }

lemma capacity_bounds : (d.capacity = 0 ∨ 2048 ≤ d.capacity) ∧ d.capacity < 2 ^ 24 := by
  have hrate : d.rate.toNat >>> 20 < 2 ^ 12 := by
    have := d.rate.toNat_lt
    rw [Nat.shiftRight_eq_div_pow]
    omega
  rw [capacity]
  cases d.core <;> simp only [Core.efficiency] <;> omega

end Described

def capacities (cpus : List Described) : Set Nat := {c | ∃ d ∈ cpus, d.capacity = c}

/-- The table holds the capacities of the CPUs, with the least and the greatest one. -/
structure Parsed (s : Capacities) (cpus : List Described) : Prop where
  table : ∀ idx, (s.table idx).capacity = (cpus.map Described.capacity)[idx]?.getD 0
  least : IsGLB (capacities cpus) s.minCapacity
  greatest : IsLUB (capacities cpus) s.maxCapacity

/-- For the least capacity `l` and the greatest `g`, `middle_capacity` puts a CPU of
capacity `c` in range. -/
def MiddleFits (l g c : Nat) : Prop :=
  if g < 3 * l then c < 1536 * ((l + g) / 2048) else g < 1536 * c

namespace Parsed

variable {s : Capacities} {cpus : List Described} {d : Described}

lemma of_record (hd : d ∈ cpus) (f : Described → CpuCapacity) (hf : ∀ d, (f d).capacity = d.capacity) :
    Parsed ((cpus.map f).foldl Capacities.record {}) cpus := by
  constructor
  · intro idx
    have h := foldl_record_table (l := cpus.map f) (s := {}) idx
    rw [Nat.zero_add] at h
    rw [h, getElem?_map, getElem?_map]
    cases cpus[idx]? with
    | none => rfl
    | some d => exact hf d
  · refine isGLB_iff_le_iff.mpr fun k => ?_
    have hbound : k ≤ d.capacity → k ≤ 2 ^ 64 - 1 := by
      have := d.capacity_bounds
      omega
    simp only [le_foldl_record_min, forall_mem_map, hf, capacities, mem_lowerBounds,
      Set.mem_ofPred_eq, forall_exists_index, and_imp, forall_apply_eq_imp_iff₂]
    exact and_iff_right_of_imp fun h => hbound (h d hd)
  · refine isLUB_iff_le_iff.mpr fun k => ?_
    simp [foldl_record_max_le, hf, capacities, mem_upperBounds]

lemma parseDtCpuPower (hd : d ∈ cpus) : Parsed (parseDtCpuPower (cpus.map fun d => some d.node)) cpus := by
  have h := of_record hd (fun d => { capacity := d.capacity }) fun _ => rfl
  rw [foldl_map] at h
  rwa [Topology.parseDtCpuPower, foldl_map]

lemma recorded_eq : recorded cpus.length (cpus.map Described.node) = cpus.map Described.entry := by
  have hall : CpuNode.capacity? ∘ Described.node = some ∘ Described.entry := rfl
  rw [recorded, filterMap_map, hall, filterMap_eq_map, take_of_length_le (by simp)]

lemma parseDtTopology (hd : d ∈ cpus) : Parsed (parseDtTopology cpus.length (cpus.map Described.node)) cpus := by
  have h := of_record hd Described.entry fun _ => rfl
  rw [← recorded_eq, ← parseNodes_recorded] at h
  obtain ⟨hmin, hmax⟩ := parseDtTopology_extremes cpus.length (cpus.map Described.node)
  refine ⟨?_, hmin ▸ h.least, hmax ▸ h.greatest⟩
  intro idx
  rw [← h.table, parseDtTopology_capacity, parseNodes_table]

variable (h : Parsed s cpus) (hd : d ∈ cpus)

include h hd

lemma min_le : s.minCapacity ≤ d.capacity := h.least.1 ⟨d, hd, rfl⟩

lemma le_max : d.capacity ≤ s.maxCapacity := h.greatest.1 ⟨d, hd, rfl⟩

lemma exact : s.Exact := by
  have hmin := h.min_le hd
  have hmax : s.maxCapacity ≤ 2 ^ 24 := h.greatest.2 fun c ⟨d, _, hc⟩ => hc ▸ d.capacity_bounds.2.le
  have hd := d.capacity_bounds
  refine ⟨?_, by omega, by omega⟩
  intro idx
  rw [h.table, getElem?_map, Nat.shiftLeft_eq]
  cases cpus[idx]? with
  | none => decide
  | some d =>
    have := d.capacity_bounds
    simp only [Option.map_some, Option.getD_some]
    omega

lemma middleCapacity_pos : 0 < s.middleCapacity := by
  have hmin := h.min_le hd
  have hmax := h.le_max hd
  have hd := d.capacity_bounds
  rw [Capacities.middleCapacity, Nat.shiftRight_eq_div_pow]
  split <;> omega

lemma inRange_middle_iff : InRange (d.capacity / s.middleCapacity) ↔
    MiddleFits s.minCapacity s.maxCapacity d.capacity := by
  have hpos := h.middleCapacity_pos hd
  have hmin := h.min_le hd
  have hmax := h.le_max hd
  rw [InRange, Nat.div_pos_iff, Nat.div_lt_iff_lt_mul hpos, and_iff_right hpos, MiddleFits]
  clear hpos
  rw [Capacities.middleCapacity, Nat.shiftRight_eq_div_pow, Nat.shiftRight_eq_div_pow]
  split <;> split <;> omega

end Parsed

/-- No step overflows or divides by zero, and the scale of a CPU is in range, with the option,
exactly if no capacity is over 1024 times the one found for its hardware id; without it, exactly if
the CPU has no capacity or `middle_capacity` fits it. -/
theorem cpuScale_inRange_iff (cpus : List Described) (cpu : Fin cpus.length) (hwid : Nat) :
    (let s := parseDtTopology cpus.length (cpus.map Described.node)
     s.Exact ∧ (∀ _e ∈ s.ownEntry cpus.length hwid, s.maxCapacity ≠ 0) ∧
         InRange (updateCpuPower s cpus.length (fun _ => 1024) cpu hwid cpu) ↔
       ∀ e ∈ cpus.find? (fun d => d.reg.toNat = hwid &&& 0xFFFF), ∀ d ∈ cpus, d.capacity ≤ 1024 * e.capacity) ∧
    (let s := parseDtCpuPower (cpus.map fun d => some d.node)
     s.Exact ∧ s.middleCapacity ≠ 0 ∧ InRange (s.updateByMiddle (fun _ => 1024) cpu cpu) ↔
       cpus[cpu].capacity = 0 ∨ ∀ l g, IsGLB (capacities cpus) l → IsLUB (capacities cpus) g →
         MiddleFits l g cpus[cpu].capacity) := by
  have hcpu : cpus[cpu] ∈ cpus := getElem_mem _
  constructor
  · intro s
    have h : Parsed s cpus := .parseDtTopology hcpu
    obtain ⟨hmin, hmax⟩ := parseDtTopology_extremes cpus.length (cpus.map Described.node)
    rw [and_iff_right (h.exact hcpu), updateCpuPower]
    by_cases huniform : s.minCapacity = s.maxCapacity
    · rw [ownEntry_of_uniform _ _ _ (hmin.symm.trans (huniform.trans hmax))]
      refine iff_of_true ⟨by rintro _ ⟨⟩, inRange_default⟩ ?_
      intro e he d hd
      have := h.min_le (mem_of_find?_eq_some he)
      have := h.le_max hd
      omega
    · rw [ownEntry_of_mixed _ _ _ (hmin ▸ hmax ▸ huniform), Parsed.recorded_eq, find?_map]
      have hkey : (fun e : CpuCapacity => decide (e.hwid = hwid &&& 0xFFFF)) ∘ Described.entry =
          fun d => decide (d.reg.toNat = hwid &&& 0xFFFF) := rfl
      rw [hkey]
      cases hfound : cpus.find? fun d => d.reg.toNat = hwid &&& 0xFFFF with
      | none => exact iff_of_true ⟨by rintro _ ⟨⟩, inRange_default⟩ (by rintro _ ⟨⟩)
      | some e =>
        have hmin := h.min_le (mem_of_find?_eq_some hfound)
        have hmax := h.le_max (mem_of_find?_eq_some hfound)
        have hpos : 0 < s.maxCapacity := by omega
        have hle : s.maxCapacity ≤ 1024 * e.capacity ↔ ∀ d ∈ cpus, d.capacity ≤ 1024 * e.capacity := by
          simp [isLUB_le_iff h.greatest, capacities, mem_upperBounds]
        simp only [Option.map_some, Option.mem_def, Option.some.injEq, forall_eq',
          Function.update_self, ← hle, Described.entry]
        rw [and_iff_right hpos.ne', InRange, Nat.div_pos_iff, Nat.div_lt_iff_lt_mul hpos, Nat.shiftLeft_eq]
        omega
  · intro s
    have h : Parsed s cpus := .parseDtCpuPower hcpu
    have hcap : (s.table cpu).capacity = cpus[cpu].capacity := by
      rw [h.table]
      simp
    rw [and_iff_right (h.exact hcpu), and_iff_right (h.middleCapacity_pos hcpu).ne', Capacities.updateByMiddle, hcap]
    split
    next hzero => exact iff_of_true inRange_default (.inl hzero)
    next hzero =>
      rw [Function.update_self, h.inRange_middle_iff hcpu, or_iff_right hzero]
      constructor
      · intro hfits l g hl hg
        rwa [hl.unique h.least, hg.unique h.greatest]
      · intro hfits
        exact hfits _ _ h.least h.greatest

/-- Without the option, a little core at 1.05 GHz and a big one at 1.66 GHz: the scale
of the big one is `3 * SCHED_POWER_SCALE / 2`. With it, a little core at 1 MHz next to
a big one has scale 0. -/
theorem cpuScale_out_of_range : (let cpus : List Described :=
        [⟨.cortexA53, 1048576000, 0, by decide⟩, ⟨.cortexA57, 1655701504, 0x100, by decide⟩]
     let s := parseDtCpuPower (cpus.map fun d => some d.node)
     ¬ InRange (s.updateByMiddle (fun _ : Fin 2 => 1024) 1 1)) ∧
    (let cpus : List Described :=
        [⟨.cortexA53, 1000000, 0, by decide⟩, ⟨.cortexA57, 2000000000, 0x100, by decide⟩]
     let s := parseDtTopology 2 (cpus.map Described.node)
     ¬ InRange (updateCpuPower s 2 (fun _ : Fin 2 => 1024) 0 0 0)) := by
  decide +kernel

end BigLittle.Topology
