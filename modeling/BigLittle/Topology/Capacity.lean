import Mathlib.Data.List.TakeDrop
import BigLittle.Hmp.Migration

/-!
# Capacities from the device tree

`parse_dt_topology` walks the `cpu` nodes of the device tree and records a
capacity and a hardware id for each one it accepts, in the order of the tree.
`update_cpu_power` looks a CPU up by its hardware id; `arch_get_fast_and_slow_cpus`
takes the entry at the CPU's logical number. The two keys are compared on the list
of recorded entries.
-/

namespace BigLittle.Topology

open Hmp List
open Function (update update_of_ne update_self)

inductive Core where
  | cortexA57
  | cortexA53
deriving DecidableEq

def Core.efficiency : Core → Nat
  | .cortexA57 => 3891
  | .cortexA53 => 2048

/-- A device-tree node of type `cpu`: the core it is compatible with, if any, and
its properties, `none` if absent or not four bytes long. -/
structure CpuNode where
  core : Option Core
  clockFrequency : Option UInt32
  reg : Option UInt32

structure CpuCapacity where
  hwid : Nat := 0
  capacity : Nat := 0
deriving DecidableEq

/-- `(unsigned long)(-1)` -/
def noHwid : Nat := 2 ^ 64 - 1

/-- What is recorded for a node; `none` if the node is skipped. -/
def CpuNode.capacity? (node : CpuNode) : Option CpuCapacity := do
  let core ← node.core
  let rate ← node.clockFrequency
  let reg ← node.reg
  some { hwid := reg.toNat, capacity := (rate.toNat >>> 20) * core.efficiency }

/-- `__cpu_capacity`, `min_capacity`, `max_capacity`, and the index of the next entry. -/
structure Capacities where
  table : Nat → CpuCapacity := fun _ => {}
  minCapacity : Nat := 2 ^ 64 - 1
  maxCapacity : Nat := 0
  cpu : Nat := 0

namespace Capacities

variable (s : Capacities)

/-- The body of the loop for an accepted node. -/
def record (e : CpuCapacity) : Capacities where
  table := update s.table s.cpu e
  minCapacity := if e.capacity < s.minCapacity then e.capacity else s.minCapacity
  maxCapacity := if s.maxCapacity < e.capacity then e.capacity else s.maxCapacity
  cpu := s.cpu + 1

/-- The entry at index `cpu` is above the least capacity. -/
def HasFast (cpu : Nat) : Prop := s.minCapacity < (s.table cpu).capacity
  deriving Decidable

/-- End a search of the table at entry `idx`. -/
def markEnd (idx : Nat) : Capacities :=
  { s with table := update s.table idx { s.table idx with hwid := noHwid } }

/-- The loop of `update_cpu_power` over the table from `idx` on. -/
def searchFrom (hwid : Nat) : Nat → Nat → Option CpuCapacity
  | 0, _ => none
  | left + 1, idx =>
    if (s.table idx).hwid = hwid then some (s.table idx)
    else if (s.table idx).hwid = noHwid then none
    else searchFrom hwid left (idx + 1)

/-- The entry `update_cpu_power` finds for a hardware id. -/
def ownEntry (numPossible hwid : Nat) : Option CpuCapacity :=
  s.searchFrom (hwid &&& 0xFFFF) numPossible 0

/-- The capacity `update_cpu_power` uses for a hardware id is above the least. -/
def OwnFast (numPossible hwid : Nat) : Prop :=
  ∃ e ∈ s.ownEntry numPossible hwid, s.minCapacity < e.capacity
  deriving Decidable

end Capacities

/-- The loop of `parse_dt_topology`. -/
def parseNodes (numPossible : Nat) : List CpuNode → Capacities → Capacities
  | [], s => s
  | node :: rest, s =>
    if numPossible ≤ s.cpu then s
    else match node.capacity? with
      | none => parseNodes numPossible rest s
      | some e => parseNodes numPossible rest (s.record e)

def parseDtTopology (numPossible : Nat) (nodes : List CpuNode) : Capacities :=
  let s := parseNodes numPossible nodes {}
  let s := if s.cpu < numPossible then s.markEnd s.cpu else s
  if s.minCapacity = s.maxCapacity then s.markEnd 0 else s

/-- `update_cpu_power` on the table of CPU powers. -/
def updateCpuPower {n : Nat} (s : Capacities) (numPossible : Nat) (power : Fin n → Nat)
    (cpu : Fin n) (hwid : Nat) : Fin n → Nat :=
  match s.ownEntry numPossible hwid with
  | none => power
  | some e => update power cpu ((e.capacity <<< 10) / s.maxCapacity)

/-- `arch_get_fast_and_slow_cpus`; `configMasks` is what the configuration options
give, if they are set. -/
def archGetFastAndSlowCpus {n : Nat} (configMasks : Option (CpuMask n × CpuMask n))
    (possible : CpuMask n) (s : Capacities) : CpuMask n × CpuMask n :=
  match configMasks with
  | some masks => masks
  | none =>
    let fast := possible.filter fun cpu : Fin n => s.HasFast cpu
    let slow := possible.filter fun cpu : Fin n => ¬ s.HasFast cpu
    if fast.Nonempty ∧ slow.Nonempty then (fast, slow)
    -- although the comment there calls all cores fast
    else (∅, Finset.univ)

/-- The entries `parse_dt_topology` records, in the order of the tree. -/
def recorded (numPossible : Nat) (nodes : List CpuNode) : List CpuCapacity :=
  (nodes.filterMap CpuNode.capacity?).take numPossible

variable (entries : List CpuCapacity)

/-- The entry is above the least capacity of the list. -/
def AboveLeast (e : Option CpuCapacity) : Prop :=
  ∃ found ∈ e, ∃ least ∈ entries, least.capacity < found.capacity

/-- The entry recorded at position `cpu` is above the least. -/
def AboveAt (cpu : Nat) : Prop := AboveLeast entries entries[cpu]?

/-- The first entry recorded for the hardware id is above the least. -/
def AboveFor (hwid : Nat) : Prop :=
  AboveLeast entries (entries.find? fun e => e.hwid = hwid &&& 0xFFFF)

section Recorded

variable {numPossible : Nat} {nodes : List CpuNode} {l : List CpuCapacity} {s : Capacities}

/-- The loop records the accepted nodes until the table is full. -/
lemma parseNodes_eq (numPossible : Nat) (nodes : List CpuNode) (s : Capacities) : parseNodes numPossible nodes s =
    ((nodes.filterMap CpuNode.capacity?).take (numPossible - s.cpu)).foldl Capacities.record s := by
  induction nodes generalizing s with
  | nil => rw [parseNodes, filterMap_nil, take_nil, foldl_nil]
  | cons node rest ih =>
    rw [parseNodes]
    split
    next hfull =>
      rw [Nat.sub_eq_zero_of_le hfull, take_zero, foldl_nil]
    next hroom =>
      split
      next hnone => rw [ih, filterMap_cons_none hnone]
      next e hsome =>
        obtain ⟨left, hleft⟩ : ∃ left, numPossible - s.cpu = left + 1 :=
          Nat.exists_eq_succ_of_ne_zero (by omega)
        rw [ih, filterMap_cons_some hsome, hleft, take_succ_cons, foldl_cons]
        congr 2
        change numPossible - (s.cpu + 1) = left
        omega

lemma foldl_record_cpu (l : List CpuCapacity) (s : Capacities) :
    (l.foldl Capacities.record s).cpu = s.cpu + l.length := by
  induction l generalizing s with
  | nil => rfl
  | cons e rest ih =>
    rw [foldl_cons, ih, length_cons]
    change s.cpu + 1 + rest.length = _
    omega

lemma foldl_record_table_of_lt {idx : Nat} (h : idx < s.cpu) :
    (l.foldl Capacities.record s).table idx = s.table idx := by
  induction l generalizing s with
  | nil => rfl
  | cons e rest ih =>
    rw [foldl_cons, ih (Nat.lt_succ_of_lt h)]
    exact update_of_ne (Nat.ne_of_lt h) _ _

/-- Entries are stored in the order in which they are recorded. -/
lemma foldl_record_table (idx : Nat) : (l.foldl Capacities.record s).table (s.cpu + idx) =
    l[idx]?.getD (s.table (s.cpu + idx)) := by
  induction l generalizing s idx with
  | nil => rfl
  | cons e rest ih =>
    rw [foldl_cons]
    cases idx with
    | zero =>
      rw [foldl_record_table_of_lt (Nat.lt_succ_self _), getElem?_cons_zero]
      exact update_self ..
    | succ idx =>
      have hidx : s.cpu + (idx + 1) = (s.record e).cpu + idx := Nat.add_right_comm s.cpu idx 1
      rw [hidx, ih, getElem?_cons_succ]
      congr 1
      apply update_of_ne
      change s.cpu + 1 + idx ≠ s.cpu
      omega

/-- The least capacity is the greatest lower bound of what was recorded. -/
lemma le_foldl_record_min {k : Nat} :
    k ≤ (l.foldl Capacities.record s).minCapacity ↔ k ≤ s.minCapacity ∧ ∀ e ∈ l, k ≤ e.capacity := by
  induction l generalizing s with
  | nil => simp
  | cons e rest ih =>
    have hmin : k ≤ (s.record e).minCapacity ↔ k ≤ s.minCapacity ∧ k ≤ e.capacity := by
      rw [Capacities.record]
      dsimp only
      split <;> omega
    rw [foldl_cons, ih, hmin, forall_mem_cons, and_assoc]

lemma foldl_record_max_le {k : Nat} :
    (l.foldl Capacities.record s).maxCapacity ≤ k ↔ s.maxCapacity ≤ k ∧ ∀ e ∈ l, e.capacity ≤ k := by
  induction l generalizing s with
  | nil => simp
  | cons e rest ih =>
    have hmax : (s.record e).maxCapacity ≤ k ↔ s.maxCapacity ≤ k ∧ e.capacity ≤ k := by
      rw [Capacities.record]
      dsimp only
      split <;> omega
    rw [foldl_cons, ih, hmax, forall_mem_cons, and_assoc]

end Recorded

section Lookup

/-- A search finds the first entry with the hardware id, if the entries end at the
end of the table or at a mark. -/
lemma searchFrom_eq {s : Capacities} {hwid idx left : Nat} {l : List CpuCapacity} (hkey : hwid ≠ noHwid)
    (hl : ∀ e ∈ l, e.hwid ≠ noHwid) (htable : ∀ i (h : i < l.length), s.table (idx + i) = l[i])
    (hleft : l.length ≤ left) (hend : left = l.length ∨ (s.table (idx + l.length)).hwid = noHwid) :
    s.searchFrom hwid left idx = l.find? fun e => e.hwid = hwid := by
  induction l generalizing idx left with
  | nil =>
    cases left with
    | zero => rfl
    | succ left =>
      have hmark : (s.table idx).hwid = noHwid := hend.resolve_left (Nat.succ_ne_zero _)
      rw [Capacities.searchFrom, if_neg (hmark ▸ hkey.symm), if_pos hmark, find?_nil]
  | cons e rest ih =>
    rw [length_cons] at hleft hend
    obtain ⟨left, rfl⟩ := Nat.exists_eq_add_of_le' (Nat.one_le_of_lt hleft)
    have hhead : s.table idx = e := htable 0 (Nat.zero_lt_succ _)
    have hmark : e.hwid ≠ noHwid := hl e mem_cons_self
    rw [Capacities.searchFrom, hhead]
    by_cases hfound : e.hwid = hwid
    · rw [if_pos hfound, find?_cons_of_pos (by simpa using hfound)]
    · rw [if_neg hfound, if_neg hmark, find?_cons_of_neg (by simpa using hfound)]
      have hnext : ∀ i, idx + 1 + i = idx + (i + 1) := fun i => by omega
      apply ih
      · intro e' hmem
        exact hl e' (mem_cons_of_mem _ hmem)
      · intro i hi
        rw [hnext]
        exact htable (i + 1) (Nat.succ_lt_succ hi)
      · omega
      · rw [hnext]
        exact hend.imp_left Nat.succ.inj

variable {numPossible : Nat} {nodes : List CpuNode}

/-- Hardware ids are 32-bit words; rates above 4 GHz do not exist for the tree. -/
lemma recorded_bounds {e : CpuCapacity} (h : e ∈ recorded numPossible nodes) :
    e.hwid ≠ noHwid ∧ e.capacity < 2 ^ 64 - 1 := by
  obtain ⟨node, -, hnode⟩ := mem_filterMap.mp (mem_of_mem_take h)
  simp only [CpuNode.capacity?, Option.bind_eq_bind, Option.bind_eq_some_iff] at hnode
  obtain ⟨core, -, rate, -, reg, -, hentry⟩ := hnode
  obtain rfl := Option.some.inj hentry
  have hreg := reg.toNat_lt
  have hrate : rate.toNat >>> 20 < 2 ^ 12 := by
    have := rate.toNat_lt
    rw [Nat.shiftRight_eq_div_pow]
    omega
  have hcore : core.efficiency ≤ 3891 := by cases core <;> decide
  refine ⟨?_, ?_⟩
  · change reg.toNat ≠ 2 ^ 64 - 1
    omega
  · have := Nat.mul_le_mul (Nat.le_of_lt hrate) hcore
    dsimp only
    omega

variable (numPossible nodes)

/-- The table before a mark is set. -/
lemma parseNodes_recorded : parseNodes numPossible nodes {} = (recorded numPossible nodes).foldl Capacities.record {} :=
  parseNodes_eq numPossible nodes {}

lemma parseNodes_cpu : (parseNodes numPossible nodes {}).cpu = (recorded numPossible nodes).length := by
  rw [parseNodes_recorded, foldl_record_cpu]
  exact Nat.zero_add _

lemma parseNodes_table (idx : Nat) :
    (parseNodes numPossible nodes {}).table idx = (recorded numPossible nodes)[idx]?.getD {} := by
  rw [parseNodes_recorded]
  have h := foldl_record_table (l := recorded numPossible nodes) (s := {}) idx
  simpa only [Nat.zero_add] using h

/-- Marks change hardware ids only. -/
lemma markEnd_capacity (s : Capacities) (mark idx : Nat) :
    ((s.markEnd mark).table idx).capacity = (s.table idx).capacity := by
  dsimp only [Capacities.markEnd]
  exact Cfs.State.update_keeps CpuCapacity.capacity (by rfl) idx

lemma markEnd_hwid (s : Capacities) (mark : Nat) : ((s.markEnd mark).table mark).hwid = noHwid := by
  dsimp only [Capacities.markEnd]
  rw [update_self]

lemma parseDtTopology_capacity (idx : Nat) : ((parseDtTopology numPossible nodes).table idx).capacity =
    ((recorded numPossible nodes)[idx]?.getD {}).capacity := by
  rw [← parseNodes_table, parseDtTopology]
  split <;> split <;> simp only [markEnd_capacity]

lemma parseDtTopology_extremes : (parseDtTopology numPossible nodes).minCapacity =
    (parseNodes numPossible nodes {}).minCapacity ∧ (parseDtTopology numPossible nodes).maxCapacity =
    (parseNodes numPossible nodes {}).maxCapacity := by
  rw [parseDtTopology]
  split <;> split <;> exact ⟨rfl, rfl⟩

/-- An entry is above `min_capacity` exactly if some recorded entry is below it. -/
lemma minCapacity_lt_iff {e : CpuCapacity} (h : e ∈ recorded numPossible nodes) :
    (parseDtTopology numPossible nodes).minCapacity < e.capacity ↔
    ∃ least ∈ recorded numPossible nodes, least.capacity < e.capacity := by
  have hbound := Nat.le_of_lt (recorded_bounds h).2
  rw [← Nat.not_le, (parseDtTopology_extremes ..).1, parseNodes_recorded, le_foldl_record_min, and_iff_right hbound]
  simp

/-- The entry at the CPU's number is fast exactly if it is above the least. -/
lemma hasFast_iff (idx : Nat) :
    (parseDtTopology numPossible nodes).HasFast idx ↔ AboveAt (recorded numPossible nodes) idx := by
  rw [Capacities.HasFast, parseDtTopology_capacity, AboveAt]
  cases hentry : (recorded numPossible nodes)[idx]? with
  | none => simp [AboveLeast]
  | some e =>
    rw [Option.getD_some, minCapacity_lt_iff numPossible nodes (mem_of_getElem? hentry)]
    simp [AboveLeast]

lemma key_ne_noHwid (hwid : Nat) : hwid &&& 0xFFFF ≠ noHwid := by
  have hle : hwid &&& 0xFFFF ≤ 0xFFFF := Nat.and_le_right
  have hmark : noHwid = 2 ^ 64 - 1 := rfl
  omega

/-- If all capacities are equal, no CPU is looked up. -/
lemma ownEntry_of_uniform (hwid : Nat)
    (h : (parseNodes numPossible nodes {}).minCapacity = (parseNodes numPossible nodes {}).maxCapacity) :
    (parseDtTopology numPossible nodes).ownEntry numPossible hwid = none := by
  have hmark : ((parseDtTopology numPossible nodes).table 0).hwid = noHwid := by
    rw [parseDtTopology]
    split
    · rw [if_pos (by exact h), markEnd_hwid]
    · rw [markEnd_hwid]
  rw [Capacities.ownEntry]
  cases numPossible with
  | zero => rfl
  | succ left =>
    rw [Capacities.searchFrom, hmark, if_neg (key_ne_noHwid hwid).symm, if_pos rfl]

/-- Otherwise the first entry recorded for the hardware id is found. -/
lemma ownEntry_of_mixed (hwid : Nat)
    (h : (parseNodes numPossible nodes {}).minCapacity ≠ (parseNodes numPossible nodes {}).maxCapacity) :
    (parseDtTopology numPossible nodes).ownEntry numPossible hwid =
    (recorded numPossible nodes).find? fun e => e.hwid = hwid &&& 0xFFFF := by
  have hcpu := parseNodes_cpu numPossible nodes
  have hlength : (recorded numPossible nodes).length ≤ numPossible := length_take_le _ _
  have hentries : ∀ idx (h : idx < (recorded numPossible nodes).length),
      (parseNodes numPossible nodes {}).table idx = (recorded numPossible nodes)[idx] := by
    intro idx hidx
    rw [parseNodes_table, getElem?_eq_getElem hidx, Option.getD_some]
  have hids : ∀ e ∈ recorded numPossible nodes, e.hwid ≠ noHwid :=
    fun e hmem => (recorded_bounds hmem).1
  rw [Capacities.ownEntry, parseDtTopology]
  split
  · rw [if_neg (by exact h)]
    apply searchFrom_eq (key_ne_noHwid hwid) hids _ hlength
    · right
      rw [Nat.zero_add, ← hcpu, markEnd_hwid]
    · intro idx hidx
      rw [Nat.zero_add, ← hentries idx hidx]
      exact update_of_ne (hcpu ▸ Nat.ne_of_lt hidx) _ _
  next hfull =>
    apply searchFrom_eq (key_ne_noHwid hwid) hids _ hlength
    · left
      omega
    · intro idx hidx
      rw [Nat.zero_add, ← hentries idx hidx]

/-- What `update_cpu_power` finds is fast exactly if the first recorded entry with
the hardware id is above the least. -/
lemma ownFast_iff (hwid : Nat) : (parseDtTopology numPossible nodes).OwnFast numPossible hwid ↔
    AboveFor (recorded numPossible nodes) hwid := by
  rw [Capacities.OwnFast, AboveFor]
  by_cases huniform : (parseNodes numPossible nodes {}).minCapacity =
      (parseNodes numPossible nodes {}).maxCapacity
  · rw [ownEntry_of_uniform numPossible nodes hwid huniform]
    rw [parseNodes_recorded] at huniform
    obtain ⟨-, hmin⟩ := (le_foldl_record_min (s := {})).mp (Nat.le_refl _)
    obtain ⟨-, hmax⟩ := (foldl_record_max_le (s := {})).mp (Nat.le_refl _)
    constructor
    · rintro ⟨e, hnone, -⟩
      cases hnone
    · rintro ⟨found, hfound, least, hleast, hlt⟩
      have hfound' := hmax found (mem_of_find?_eq_some hfound)
      have hleast' := hmin least hleast
      omega
  · rw [ownEntry_of_mixed numPossible nodes hwid huniform]
    constructor
    · rintro ⟨found, hfound, hlt⟩
      have hmem := mem_of_find?_eq_some hfound
      exact ⟨found, hfound, (minCapacity_lt_iff numPossible nodes hmem).mp hlt⟩
    · rintro ⟨found, hfound, habove⟩
      have hmem := mem_of_find?_eq_some hfound
      exact ⟨found, hfound, (minCapacity_lt_iff numPossible nodes hmem).mpr habove⟩

end Lookup

end BigLittle.Topology
