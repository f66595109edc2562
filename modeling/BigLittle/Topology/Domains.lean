import BigLittle.Topology.Capacity

/-!
# HMP domains

At boot `arch_get_hmp_domains` makes a list of domains from the fast and the slow
mask, the fastest at its head, and `hmp_cpu_mask_setup` walks the list: it fills
empty masks from the domains and notes the domain of each CPU. A domain is known
by its position in the list.
-/

namespace BigLittle.Topology

open Hmp
open Finset (mem_filter mem_univ univ)

structure CpuSets (n : Nat) where
  possible : CpuMask n
  online : OnlineMask n
  online_subset : online.cpus ⊆ possible

structure HmpDomain (n : Nat) where
  cpus : CpuMask n
  possibleCpus : CpuMask n
deriving DecidableEq

def hmpDomain {n : Nat} (sets : CpuSets n) (mask : CpuMask n) : HmpDomain n where
  cpus := sets.online.cpus ∩ mask
  possibleCpus := mask

/-- `arch_get_hmp_domains`; the domain of the fast mask is added even if that mask
is empty. -/
def archGetHmpDomains {n : Nat} (sets : CpuSets n) (masks : CpuMask n × CpuMask n) : List (HmpDomain n) :=
  hmpDomain sets masks.1 :: if masks.2.Nonempty then [hmpDomain sets masks.2] else []

/-- `hmp_fast_cpu_mask`, `hmp_slow_cpu_mask`, `hmp_domains` and, as a position in the
list, `hmp_cpu_domain`. -/
structure HmpTopology (n : Nat) where
  fastMask : CpuMask n
  slowMask : CpuMask n
  domains : List (HmpDomain n) := []
  cpuDomain : Fin n → Option Nat := fun _ => none

namespace HmpTopology

variable {n : Nat}

/-- The first empty mask becomes that of the domain. -/
def fillMask (t : HmpTopology n) (d : HmpDomain n) : HmpTopology n :=
  if t.fastMask = ∅ then { t with fastMask := d.possibleCpus }
  else if t.slowMask = ∅ then { t with slowMask := d.possibleCpus }
  else t

/-- The body of the loop of `hmp_cpu_mask_setup` for the domain at position `dc`. -/
def enter (t : HmpTopology n) (dc : Nat) (d : HmpDomain n) : HmpTopology n :=
  let t := t.fillMask d
  { t with cpuDomain := fun cpu => if cpu ∈ d.possibleCpus then some dc else t.cpuDomain cpu }

/-- The loop of `hmp_cpu_mask_setup` from the domain at position `dc` on. -/
def visit : List (HmpDomain n) → Nat → HmpTopology n → HmpTopology n
  | [], _, t => t
  | d :: rest, dc, t => visit rest (dc + 1) (t.enter dc d)

end HmpTopology

/-- `hmp_cpu_mask_setup`; the list is never empty. -/
def hmpCpuMaskSetup {n : Nat} (configMasks : Option (CpuMask n × CpuMask n)) (sets : CpuSets n)
    (s : Capacities) : HmpTopology n :=
  let masks := archGetFastAndSlowCpus configMasks sets.possible s
  let domains := archGetHmpDomains sets masks
  HmpTopology.visit domains 0
    { fastMask := masks.1, slowMask := masks.2, domains := domains }

/-- The masks and the domains divide the possible CPUs, faster domains first. -/
structure HmpTopology.Divides {n : Nat} (t : HmpTopology n) (possible : CpuMask n)
    (s : Capacities) : Prop where
  disjoint : Disjoint t.fastMask t.slowMask
  cover : possible ⊆ t.fastMask ∪ t.slowMask
  one_domain : ∀ cpu ∈ possible, t.domains.countP (fun d => cpu ∈ d.possibleCpus) = 1
  ordered : t.domains.Pairwise fun d d' =>
    ∀ cpu ∈ d.possibleCpus, ∀ cpu' ∈ d'.possibleCpus,
      (s.table cpu'.val).capacity < (s.table cpu.val).capacity

section Setup

variable {n : Nat} (sets : CpuSets n) (s : Capacities) (possible : CpuMask n)

/-- Both a CPU above and a CPU at or below the least capacity are possible. -/
def MixedCapacities : Prop :=
  (∃ cpu ∈ possible, s.HasFast cpu) ∧ ∃ cpu ∈ possible, ¬ s.HasFast cpu

def fastCpus : CpuMask n := possible.filter fun cpu : Fin n => s.HasFast cpu

def slowCpus : CpuMask n := possible.filter fun cpu : Fin n => ¬ s.HasFast cpu

lemma mixedCapacities_iff (possible : CpuMask n) :
    MixedCapacities s possible ↔ (fastCpus s possible).Nonempty ∧ (slowCpus s possible).Nonempty := by
  rw [MixedCapacities, fastCpus, slowCpus, Finset.filter_nonempty_iff, Finset.filter_nonempty_iff]

/-- With both kinds of CPUs the masks stay as the capacities give them. -/
lemma setup_of_mixed (h : MixedCapacities s sets.possible) :
    let t := hmpCpuMaskSetup none sets s
    t.fastMask = fastCpus s sets.possible ∧ t.slowMask = slowCpus s sets.possible ∧
      t.domains = [hmpDomain sets (fastCpus s sets.possible), hmpDomain sets (slowCpus s sets.possible)] := by
  obtain ⟨hfast, hslow⟩ := (mixedCapacities_iff s sets.possible).mp h
  have hmasks : archGetFastAndSlowCpus none sets.possible s =
      (fastCpus s sets.possible, slowCpus s sets.possible) := if_pos ⟨hfast, hslow⟩
  have hdomains : archGetHmpDomains sets (fastCpus s sets.possible, slowCpus s sets.possible) =
      [hmpDomain sets (fastCpus s sets.possible), hmpDomain sets (slowCpus s sets.possible)] := by
    rw [archGetHmpDomains, if_pos hslow]
  rw [hmpCpuMaskSetup, hmasks, hdomains]
  simp only [HmpTopology.visit, HmpTopology.enter, HmpTopology.fillMask, if_neg hfast.ne_empty, if_neg hslow.ne_empty,
    and_self]

/-- Otherwise both masks end up as all CPUs. -/
lemma setup_of_not_mixed (h : ¬ MixedCapacities s sets.possible) :
    let t := hmpCpuMaskSetup none sets s
    t.fastMask = univ ∧ t.slowMask = univ := by
  rw [mixedCapacities_iff] at h
  have hmasks : archGetFastAndSlowCpus none sets.possible s = (∅, univ) := if_neg h
  have hne : (univ : CpuMask n).Nonempty := sets.online.nonempty.mono (Finset.subset_univ _)
  have hdomains : archGetHmpDomains sets (∅, univ) = [hmpDomain sets ∅, hmpDomain sets univ] := by
    rw [archGetHmpDomains, if_pos hne]
  rw [hmpCpuMaskSetup, hmasks, hdomains]
  simp [HmpTopology.visit, HmpTopology.enter, HmpTopology.fillMask, hmpDomain]

/-- The masks and the domains divide the CPUs exactly if both kinds of CPUs are there. If not, the
fallback leaves every CPU in both masks. -/
theorem masks_divide_iff : (hmpCpuMaskSetup none sets s).Divides sets.possible s ↔ MixedCapacities s sets.possible := by
  constructor
  · intro hdivides
    by_contra hnot
    obtain ⟨hfast, hslow⟩ := setup_of_not_mixed sets s hnot
    obtain ⟨cpu, -⟩ := sets.online.nonempty
    have hdisjoint := hdivides.disjoint
    rw [hfast, hslow] at hdisjoint
    exact Finset.disjoint_left.mp hdisjoint (mem_univ cpu) (mem_univ cpu)
  · intro hmixed
    obtain ⟨hfast, hslow, hdomains⟩ := setup_of_mixed sets s hmixed
    have hdisjoint : Disjoint (fastCpus s sets.possible) (slowCpus s sets.possible) :=
      Finset.disjoint_filter_filter_not _ _ _
    have hunion : fastCpus s sets.possible ∪ slowCpus s sets.possible = sets.possible :=
      Finset.filter_union_filter_not_eq _ _
    refine ⟨hfast ▸ hslow ▸ hdisjoint, ?_, ?_, ?_⟩
    · rw [hfast, hslow, hunion]
    · intro cpu hcpu
      rw [hdomains]
      by_cases hkind : s.HasFast cpu
      · simp [hmpDomain, fastCpus, slowCpus, hcpu, hkind]
      · simp [hmpDomain, fastCpus, slowCpus, hcpu, hkind]
    · rw [hdomains, List.pairwise_pair]
      intro cpu hcpu cpu' hcpu'
      obtain ⟨-, hfaster⟩ := mem_filter.mp hcpu
      obtain ⟨-, hslower⟩ := mem_filter.mp hcpu'
      exact (Nat.le_of_not_lt hslower).trans_lt hfaster

/-- Two equal cores: each of them ends up in the fast and in the slow mask. -/
theorem masks_overlap_of_equal_cores :
    let sets : CpuSets 2 := ⟨univ, ⟨univ, by decide⟩, by decide⟩
    let nodes : List CpuNode :=
      [{ core := some .cortexA53, clockFrequency := some 1500000000, reg := some 0 },
       { core := some .cortexA53, clockFrequency := some 1500000000, reg := some 1 }]
    let t := hmpCpuMaskSetup none sets (parseDtTopology 2 nodes)
    t.fastMask = {0, 1} ∧ t.slowMask = {0, 1} ∧ ¬ Disjoint t.fastMask t.slowMask := by
  decide +kernel

/-- With CPUs of one kind only, the fast mask is the fallback. -/
lemma mem_fastMask_iff {cpu : Fin n} (hcpu : cpu ∈ sets.possible) :
    cpu ∈ (hmpCpuMaskSetup none sets s).fastMask ↔ (MixedCapacities s sets.possible → s.HasFast cpu) := by
  by_cases hmixed : MixedCapacities s sets.possible
  · rw [(setup_of_mixed sets s hmixed).1, fastCpus, mem_filter, and_iff_right hcpu, forall_prop_of_true hmixed]
  · rw [(setup_of_not_mixed sets s hmixed).1]
    exact iff_of_true (mem_univ cpu) fun h => absurd h hmixed

/-- Both kinds of nodes are recorded at the possible numbers. -/
def MixedNodes (entries : List CpuCapacity) : Prop :=
  (∃ cpu ∈ possible, AboveAt entries cpu) ∧ ∃ cpu ∈ possible, ¬ AboveAt entries cpu

/-- The CPUs in the fast mask are those whose own capacity is above the least exactly if, for each possible CPU, the
node of its hardware id is above the least when the node at its number is or the nodes at the possible numbers are of
one kind. -/
theorem classification_agrees_iff (nodes : List CpuNode) (hwid : Fin n → Nat) :
    let s := parseDtTopology sets.possible.card nodes
    let entries := recorded sets.possible.card nodes
    (∀ cpu ∈ sets.possible, cpu ∈ (hmpCpuMaskSetup none sets s).fastMask ↔
        s.OwnFast sets.possible.card (hwid cpu)) ↔
      ∀ cpu ∈ sets.possible, AboveFor entries (hwid cpu) ↔
        (MixedNodes sets.possible entries → AboveAt entries cpu) := by
  intro s entries
  have hmixed : MixedCapacities s sets.possible ↔ MixedNodes sets.possible entries := by
    simp only [MixedCapacities, MixedNodes, s, entries, hasFast_iff]
  apply forall₂_congr
  intro cpu hcpu
  rw [mem_fastMask_iff sets s hcpu, hmixed, ownFast_iff, hasFast_iff]
  exact iff_comm

/-- The boot CPU is a little core, but the tree lists a big core first: logical CPU
0 is put in the fast mask and CPU 1, the big core, in the slow one. -/
theorem classification_by_position :
    let nodes : List CpuNode :=
      [{ core := some .cortexA57, clockFrequency := some 2000000000, reg := some 0x100 },
       { core := some .cortexA53, clockFrequency := some 1500000000, reg := some 0 }]
    let hwid : Fin 2 → Nat := fun cpu => if cpu = 0 then 0 else 0x100
    let sets : CpuSets 2 := ⟨univ, ⟨univ, by decide⟩, by decide⟩
    let s := parseDtTopology 2 nodes
    let t := hmpCpuMaskSetup none sets s
    (0 ∈ t.fastMask ∧ ¬ s.OwnFast 2 (hwid 0)) ∧ 1 ∉ t.fastMask ∧ s.OwnFast 2 (hwid 1) := by
  decide +kernel

end Setup

end BigLittle.Topology
