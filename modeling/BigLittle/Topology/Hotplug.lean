import BigLittle.Topology.Navigation

/-!
# CPU hotplug and the domains

`hmp_online_cpu` and `hmp_offline_cpu` put a CPU into the set of online CPUs of its domain and take
it out. The list of domains and the domain noted for each CPU stay as `hmp_cpu_mask_setup` left
them, so that at any time a CPU found in a domain is noted to be there, and a step along the list
leads to faster or to slower CPUs.
-/

namespace BigLittle.Topology

open Sched Cfs Hmp
open HmpTopology (visit)

structure Hotplug (n : Nat) where
  cpu : Fin n
  online : Bool
deriving DecidableEq

namespace HmpTopology

variable {n : Nat}

/-- Set or clear the CPU in the domain that `hmp_get_hmp_domain_for_cpu` finds. -/
def plug (op : Hotplug n) : List (HmpDomain n) → List (HmpDomain n)
  | [] => []
  | d :: rest =>
    if op.cpu ∈ d.possibleCpus then
      { d with cpus := if op.online then insert op.cpu d.cpus else d.cpus.erase op.cpu } :: rest
    else d :: plug op rest

/-- `hmp_online_cpu` and `hmp_offline_cpu` -/
def hotplug (t : HmpTopology n) (op : Hotplug n) : HmpTopology n :=
  { t with domains := plug op t.domains }

/-- Each CPU of a domain is noted to be there, and is one of its possible CPUs. -/
structure Placed (t : HmpTopology n) : Prop where
  domain : ∀ {i : Nat} {d : HmpDomain n}, t.domains[i]? = some d →
    ∀ cpu ∈ d.possibleCpus, t.cpuDomain cpu = some i
  cpus : ∀ {i : Nat} {d : HmpDomain n}, t.domains[i]? = some d → d.cpus ⊆ d.possibleCpus

/-- The domain of one CPU comes before that of the other. -/
def Faster (t : HmpTopology n) (cpu other : Fin n) : Prop :=
  ∃ i j, t.cpuDomain cpu = some i ∧ t.cpuDomain other = some j ∧ i < j

end HmpTopology

section Boot

variable {n : Nat} {t : HmpTopology n} {l : List (HmpDomain n)} {d : HmpDomain n} {cpu : Fin n} {dc i : Nat}

lemma visit_cpuDomain_of_notMem (h : ∀ d ∈ l, cpu ∉ d.possibleCpus) :
    (visit l dc t).cpuDomain cpu = t.cpuDomain cpu := by
  induction l generalizing dc t with
  | nil => rfl
  | cons d rest ih =>
    obtain ⟨hd, hrest⟩ := List.forall_mem_cons.mp h
    rw [visit, ih hrest, enter_cpuDomain, if_neg hd]

/-- If no CPU is possible in two domains, each one is noted for the domain that it is possible in. -/
lemma visit_cpuDomain_of_mem (hdisjoint : l.Pairwise fun d d' => Disjoint d.possibleCpus d'.possibleCpus)
    (hget : l[i]? = some d) (hcpu : cpu ∈ d.possibleCpus) : (visit l dc t).cpuDomain cpu = some (dc + i) := by
  induction l generalizing dc t i with
  | nil => cases hget
  | cons d' rest ih =>
    obtain ⟨hhead, hrest⟩ := List.pairwise_cons.mp hdisjoint
    rw [visit]
    cases i with
    | zero =>
      obtain rfl : d' = d := Option.some.inj hget
      have hnot : ∀ other ∈ rest, cpu ∉ other.possibleCpus :=
        fun other hother => Finset.disjoint_left.mp (hhead other hother) hcpu
      rw [visit_cpuDomain_of_notMem hnot, enter_cpuDomain, if_pos hcpu]
      rfl
    | succ i =>
      rw [ih hrest hget, Nat.succ_add_eq_add_succ]

lemma archGetHmpDomains_disjoint (sets : CpuSets n) {masks : CpuMask n × CpuMask n} (h : Disjoint masks.1 masks.2) :
    (archGetHmpDomains sets masks).Pairwise fun d d' => Disjoint d.possibleCpus d'.possibleCpus := by
  rw [archGetHmpDomains]
  split
  · exact List.pairwise_pair.mpr h
  · exact List.pairwise_singleton _ _

/-- The masks that are read off the capacities do not overlap. -/
lemma archGetFastAndSlowCpus_disjoint (possible : CpuMask n) (s : Capacities) :
    Disjoint (archGetFastAndSlowCpus none possible s).1 (archGetFastAndSlowCpus none possible s).2 := by
  dsimp only [archGetFastAndSlowCpus]
  split
  · exact Finset.disjoint_filter_filter_not _ _ _
  · exact Finset.disjoint_empty_left _

lemma placed_boot (sets : CpuSets n) (s : Capacities) : (hmpCpuMaskSetup none sets s).Placed := by
  have hdisjoint := archGetHmpDomains_disjoint sets (archGetFastAndSlowCpus_disjoint sets.possible s)
  rw [hmpCpuMaskSetup]
  constructor
  · intro i d hget cpu hcpu
    rw [visit_domains] at hget
    rw [visit_cpuDomain_of_mem hdisjoint hget hcpu, Nat.zero_add]
  · intro i d hget
    rw [visit_domains] at hget
    exact archGetHmpDomains_cpus (List.mem_of_getElem? hget)

end Boot

section Run

variable {n : Nat} {t : HmpTopology n} {cpu other : Fin n}

/-- Hotplug keeps the possible CPUs of the domains, and puts no other CPU into them. -/
lemma plug_getElem? {op : Hotplug n} {l : List (HmpDomain n)} {i : Nat} {d : HmpDomain n}
    (h : (HmpTopology.plug op l)[i]? = some d) : ∃ d', l[i]? = some d' ∧ d.possibleCpus = d'.possibleCpus ∧
    (d'.cpus ⊆ d'.possibleCpus → d.cpus ⊆ d.possibleCpus) := by
  induction l generalizing i with
  | nil => cases h
  | cons d' rest ih =>
    rw [HmpTopology.plug] at h
    split at h
    next hcpu =>
      cases i with
      | zero =>
        obtain rfl := Option.some.inj h
        refine ⟨d', rfl, rfl, fun hsubset => ?_⟩
        dsimp only
        split
        · exact Finset.insert_subset hcpu hsubset
        · exact (Finset.erase_subset _ _).trans hsubset
      | succ i => exact ⟨d, h, rfl, id⟩
    · cases i with
      | zero => exact ⟨d, h, rfl, id⟩
      | succ i => exact ih h

lemma HmpTopology.Placed.hotplug (h : t.Placed) (op : Hotplug n) : (t.hotplug op).Placed := by
  constructor
  · intro i d hget cpu hcpu
    obtain ⟨d', hget', hpossible, -⟩ := plug_getElem? hget
    exact h.domain hget' cpu (hpossible ▸ hcpu)
  · intro i d hget
    obtain ⟨d', hget', -, hsubset⟩ := plug_getElem? hget
    exact hsubset (h.cpus hget')

/-- Whatever CPUs come and go after boot. -/
lemma placed_run (sets : CpuSets n) (s : Capacities) (ops : List (Hotplug n)) :
    (ops.foldl HmpTopology.hotplug (hmpCpuMaskSetup none sets s)).Placed :=
  Run.foldl_of_step (f := HmpTopology.hotplug) (P := HmpTopology.Placed) (fun _ op h => h.hotplug op)
    (placed_boot sets s)

/-- A step up the list leads to a faster CPU. -/
lemma HmpTopology.Placed.faster (h : t.Placed) (hcpu : cpu ∈ t.neighbourCpus .up other) : t.Faster cpu other := by
  cases hd : t.neighbour .up other with
  | none =>
    rw [neighbourCpus, hd] at hcpu
    cases hcpu
  | some d =>
    rw [neighbourCpus, hd] at hcpu
    obtain ⟨pos, hpos, hstep⟩ := Option.bind_eq_some_iff.mp hd
    split at hstep
    · cases hstep
    next hne =>
      refine ⟨pos - 1, pos, h.domain hstep cpu (h.cpus hstep hcpu), hpos, ?_⟩
      omega

lemma HmpTopology.Faster.ne (h : t.Faster cpu other) : cpu ≠ other := by
  obtain ⟨i, j, hi, hj, hlt⟩ := h
  rintro rfl
  have := Option.some.inj (hi.symm.trans hj)
  omega

end Run

end BigLittle.Topology
