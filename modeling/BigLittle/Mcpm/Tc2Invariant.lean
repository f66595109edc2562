import BigLittle.Mcpm.ClusterInvariant
import BigLittle.Mcpm.Tc2

/-!
# Use counts and the last man of TC2

The use count of a CPU is one for an open request to be up and one more until a CPU on its way
down has taken its own off. So a CPU that has yet to take the lock keeps the count of its
cluster from being zero, and a last man that holds the lock only waits for CPUs that have given
it back.
-/

namespace BigLittle

open Function (update update_eq_self update_of_ne update_self)

namespace Mcpm

variable {n : Nat} {s : State n} {i j : Fin n}

lemma State.next_pc_of_ne (hj : j ≠ i) : (s.next i).pc j = s.pc j := by
  have hgoto : ∀ (t : State n) (pc : Pc), (t.goto i pc).pc j = t.pc j := fun t pc => update_of_ne hj _ _
  rw [State.next]
  cases s.pc i with
  | trylock =>
    dsimp only
    rw [State.stepTrylock]
    split <;> first | rfl | exact hgoto _ _
  | teardownWait | setupWait =>
    dsimp only
    split <;> first | rfl | exact hgoto _ _
  | scan k =>
    dsimp only
    rw [State.stepScan]
    split
    · split
      · exact hgoto _ _
      · split <;> first | rfl | exact hgoto _ _
    · exact hgoto _ _
  | up | goingDown | critical | left => rfl
  | _ => exact hgoto _ _

/-- The CPU is in `__mcpm_outbound_enter_critical`. -/
def Pc.isEntering : Pc → Bool
  | .enter | .readInbound | .scan _ | .abort => true
  | _ => false

lemma State.goto_pc (t : State n) (i : Fin n) (pc : Pc) : (t.goto i pc).pc i = pc := update_self _ _ _

/-- How far the last man is from the end of `__mcpm_outbound_enter_critical`. -/
def rank (n : Nat) : Pc → Nat
  | .enter => n + 3
  | .readInbound => n + 2
  | .scan k => n + 1 - k
  | _ => 0

/-- The critical section is entered or the CPU is turned away. Before that the last man gets
on, unless it waits for a CPU that is going down. -/
lemma State.next_of_isEntering (h : (s.pc i).isEntering = true) : ((s.next i).pc i).isEntering = true ∧
        ((∀ k (hk : k < n), s.pc i = .scan k → k ≠ i → s.cpu ⟨k, hk⟩ ≠ .goingDown) →
          rank n ((s.next i).pc i) < rank n (s.pc i)) ∨
      (s.next i).pc i = .critical ∨ (s.next i).pc i = .goingDown := by
  rw [State.next]
  cases hpc : s.pc i with
  | enter =>
    rw [State.goto_pc]
    exact .inl ⟨rfl, fun _ => Nat.lt_succ_self _⟩
  | readInbound =>
    dsimp only
    rw [State.goto_pc]
    split
    · exact .inl ⟨rfl, fun _ => Nat.succ_pos _⟩
    · exact .inl ⟨rfl, fun _ => Nat.lt_succ_self _⟩
  | scan k =>
    dsimp only
    rw [State.stepScan]
    split
    next hk =>
      have hpos : n + 1 - (k + 1) < n + 1 - k := by omega
      refine .inl ?_
      split
      next =>
        rw [State.goto_pc]
        exact ⟨rfl, fun _ => hpos⟩
      next hself =>
        split
        next hcpu =>
          rw [hpc]
          exact ⟨rfl, fun hgoing => absurd hcpu (hgoing k hk rfl hself)⟩
        next =>
          rw [State.goto_pc]
          exact ⟨rfl, fun _ => hpos⟩
        next =>
          rw [State.goto_pc]
          exact ⟨rfl, fun _ => Nat.lt_of_le_of_lt (Nat.zero_le _) hpos⟩
    next => exact .inr (.inl (State.goto_pc ..))
  | abort => exact .inr (.inr (State.goto_pc ..))
  | _ =>
    rw [hpc] at h
    cases h

/-- A CPU in `mcpm_entry_point` stays there until it is up. -/
lemma State.next_of_isInbound (h : (s.pc i).isInbound = true) :
    ((s.next i).pc i).isInbound = true ∨ (s.next i).pc i = .up := by
  have hstay : (s.pc i).isInbound = true ∨ s.pc i = .up := .inl h
  rw [State.next]
  cases hpc : s.pc i with dsimp only
  | off | setup | powerUpSetup | clusterUp | setupLeave | unlock => exact .inl (by rw [State.goto_pc]; rfl)
  | trylock =>
    rw [State.stepTrylock]
    split
    · exact .inl (by rw [State.goto_pc]; rfl)
    · exact .inl (by rw [State.goto_pc]; rfl)
    · exact hstay
  | readCluster =>
    refine .inl ?_
    rw [State.goto_pc]
    split <;> rfl
  | teardownWait =>
    split
    · exact hstay
    · exact .inl (by rw [State.goto_pc]; rfl)
    · exact .inl (by rw [State.goto_pc]; rfl)
  | setupWait =>
    split
    · exact .inl (by rw [State.goto_pc]; rfl)
    · exact hstay
  | setupComplete => exact .inr (State.goto_pc ..)
  | _ =>
    rw [hpc] at h
    cases h

end Mcpm

namespace Tc2

/-- The CPU has yet to take its own request off the count. -/
def Pc.isDue : Pc → Bool
  | .lockWait _ => true
  | _ => false

def Pc.hasLock : Pc → Bool
  | .locked | .entering | .entered | .aborted => true
  | _ => false

/-- Where the CPU is in the cluster protocol. -/
def Pc.Fits : Pc → Mcpm.Pc → Prop
  | .run, p | .poweredUp, p => p = .up
  | .lockWait _, p | .locked, p | .aborted, p => p = .goingDown
  | .entering, p => p.isEntering = true
  | .entered, p | .teardown, p => p = .critical
  | .flush, p => p = .goingDown ∨ p = .left
  | .entry, p => p.isInbound = true

def requests (latest : Request) (pc : Pc) : Int := (if latest = .up then 1 else 0) + if pc.isDue then 1 else 0

structure Inv (cfg : Config) (s : State) : Prop where
  mcpm : ∀ k, Mcpm.Inv (s.cluster k)
  absent : ∀ k, (s.cluster k).pc 3 = .off
  noBug : s.bug = false
  count : ∀ c, s.useCount c = requests (s.latest c) (s.pc c)
  asked : ∀ c, s.pc c = .run → s.latest c = .up
  fits : ∀ c, (s.pc c).Fits (s.mcpmPc c)
  present : ∀ c, s.pc c ≠ .entry → c.2 < cfg.nbCpus c.1
  lock : ∀ c, (s.pc c).hasLock = true ↔ s.lock = some c
  armed : ∀ k, s.armed k = true → s.Unused k
  entering : ∀ c, s.pc c = .entering → s.armed c.1 = true

variable {cfg : Config} {s s' : State} {c : Cpu} {pc : Pc}

/-- One CPU moves; what it does in its cluster leaves the places of the others. -/
structure Move (cfg : Config) (s : State) (c : Cpu) (pc : Pc) (s' : State) : Prop where
  goes : s'.pc = update s.pc c pc := by rfl
  clusters : ∀ k, k ≠ c.1 → s'.cluster k = s.cluster k := by exact fun _ _ => rfl
  mcpm : Mcpm.Inv (s'.cluster c.1)
  others : ∀ j, j ≠ c.2.castSucc → (s'.cluster c.1).pc j = (s.cluster c.1).pc j := by exact fun _ _ => rfl
  noBug : s'.bug = false
  count : s'.useCount c = requests (s'.latest c) pc
  counts : ∀ d, d ≠ c → s'.useCount d = s.useCount d := by exact fun _ _ => rfl
  latest : ∀ d, d ≠ c → s'.latest d = s.latest d := by exact fun _ _ => rfl
  asked : pc = .run → s'.latest c = .up := by exact nofun
  fits : pc.Fits (s'.mcpmPc c)
  present : pc ≠ .entry → c.2 < cfg.nbCpus c.1
  lock : pc.hasLock = true ↔ s'.lock = some c
  locks : ∀ d, d ≠ c → (s'.lock = some d ↔ s.lock = some d) := by exact fun _ _ => Iff.rfl
  armed : ∀ k, s'.armed k = true → s'.Unused k
  entering : pc = .entering → s'.armed c.1 = true := by exact nofun
  enterings : ∀ d, d ≠ c → s.pc d = .entering → s'.armed d.1 = true

lemma mcpmPc_of_ne (hclusters : ∀ k, k ≠ c.1 → s'.cluster k = s.cluster k)
    (hothers : ∀ j, j ≠ c.2.castSucc → (s'.cluster c.1).pc j = (s.cluster c.1).pc j) {d : Cpu} (hd : d ≠ c) :
    s'.mcpmPc d = s.mcpmPc d := by
  rw [State.mcpmPc, State.mcpmPc]
  by_cases hk : d.1 = c.1
  · rw [hk]
    refine hothers _ fun heq => hd ?_
    exact Prod.ext hk (Fin.castSucc_injective 3 heq)
  · rw [hclusters _ hk]

section

variable (h : Inv cfg s)
include h

lemma Inv.fits_of (hpc : s.pc c = pc) : pc.Fits (s.mcpmPc c) := hpc ▸ h.fits c

lemma Inv.of_move (c : Cpu) (pc : Pc) (m : Move cfg s c pc s') : Inv cfg s' := by
  have hall : ∀ P : Cpu → Pc → Prop, P c pc → (∀ d, d ≠ c → P d (s.pc d)) → ∀ d, P d (s'.pc d) := by
    intro P hc hd
    rw [m.goes]
    exact (Function.forall_update_iff s.pc P).mpr ⟨hc, hd⟩
  constructor
  case mcpm =>
    intro k
    by_cases hk : k = c.1
    · rw [hk]
      exact m.mcpm
    · rw [m.clusters k hk]
      exact h.mcpm k
  case absent =>
    intro k
    by_cases hk : k = c.1
    · rw [hk, m.others 3 (Ne.symm (Fin.castSucc_lt_last c.2).ne)]
      exact h.absent c.1
    · rw [m.clusters k hk]
      exact h.absent k
  case noBug => exact m.noBug
  case count =>
    refine hall (fun d p => s'.useCount d = requests (s'.latest d) p) m.count fun d hd => ?_
    rw [m.counts d hd, m.latest d hd]
    exact h.count d
  case asked =>
    refine hall (fun d p => p = .run → s'.latest d = .up) m.asked fun d hd hrun => ?_
    rw [m.latest d hd]
    exact h.asked d hrun
  case fits =>
    refine hall (fun d p => p.Fits (s'.mcpmPc d)) m.fits fun d hd => ?_
    rw [mcpmPc_of_ne m.clusters m.others hd]
    exact h.fits d
  case present => exact hall (fun d p => p ≠ .entry → d.2 < cfg.nbCpus d.1) m.present fun d _ => h.present d
  case lock =>
    exact hall (fun d p => p.hasLock = true ↔ s'.lock = some d) m.lock fun d hd => (h.lock d).trans (m.locks d hd).symm
  case armed => exact m.armed
  case entering => exact hall (fun d p => p = .entering → s'.armed d.1 = true) m.entering m.enterings

/-- Nobody is entering the critical section while the lock is free. -/
lemma Inv.not_hasLock (hfree : s.lock = none) (d : Cpu) : (s.pc d).hasLock = false := by
  refine Bool.eq_false_iff.mpr fun hlock => ?_
  have hsome := (h.lock d).mp hlock
  exact nomatch hfree.symm.trans hsome

lemma Inv.not_entering (hfree : s.lock = none) (d : Cpu) : s.pc d ≠ .entering := by
  intro hentering
  have hlock := h.not_hasLock hfree d
  rw [hentering] at hlock
  exact nomatch hlock

lemma Inv.eq_of_hasLock (hc : (s.pc c).hasLock = true) {d : Cpu} (hd : (s.pc d).hasLock = true) : d = c :=
  Option.some.inj (((h.lock d).mp hd).symm.trans ((h.lock c).mp hc))

/-! ### The last man -/

/-- A CPU of a cluster is one of the three or does not exist. -/
lemma Inv.cpu_cases (k : Fin 2) (j : Fin 4) : (s.cluster k).pc j = .off ∨ ∃ i : Fin 3, i.castSucc = j := by
  induction j using Fin.lastCases with
  | last => exact .inl (h.absent k)
  | cast i => exact .inr ⟨i, rfl⟩

/-- While the lock is free, nobody of a cluster with a CPU on its way down is the last man. -/
lemma Inv.not_isLastMan (hfree : s.lock = none) (hinside : (s.mcpmPc c).isInside = true) (j : Fin 4) :
    ((s.cluster c.1).pc j).isLastMan = false := by
  refine Bool.eq_false_iff.mpr fun hlast => ?_
  rcases h.cpu_cases c.1 j with hoff | ⟨i, rfl⟩
  · rw [hoff] at hlast
    exact nomatch hlast
  · have hlock := h.not_hasLock hfree (c.1, i)
    change (s.mcpmPc (c.1, i)).isLastMan = true at hlast
    cases hpc : s.pc (c.1, i) with
    | locked | entering | entered | aborted =>
      rw [hpc] at hlock
      exact nomatch hlock
    | teardown =>
      have hfits := h.fits_of hpc
      -- the others are outside while a cluster is torn down
      have hne : c.2.castSucc ≠ i.castSucc := by
        intro heq
        have hi : c = (c.1, i) := Prod.ext rfl (Fin.castSucc_injective 3 heq)
        rw [hi, hfits] at hinside
        exact nomatch hinside
      have hout := (h.mcpm c.1).scanned i.castSucc c.2.castSucc hne
        (by rw [show (s.cluster c.1).pc i.castSucc = .critical from hfits]; trivial)
      change (s.mcpmPc c).isOutside = true at hout
      cases hp : s.mcpmPc c with
      | off | trylock | readCluster | setup | teardownWait | setupWait =>
        rw [hp] at hinside
        exact nomatch hinside
      | _ =>
        rw [hp] at hout
        exact nomatch hout
    | flush =>
      rcases h.fits_of hpc with hfits | hfits <;> rw [hfits] at hlast <;> exact nomatch hlast
    | entry =>
      have hfits : (s.mcpmPc (c.1, i)).isInbound = true := h.fits_of hpc
      cases hp : s.mcpmPc (c.1, i) with
      | enter | readInbound | scan | abort | critical =>
        rw [hp] at hfits
        exact nomatch hfits
      | _ =>
        rw [hp] at hlast
        exact nomatch hlast
    | run | lockWait | poweredUp =>
      rw [show s.mcpmPc (c.1, i) = _ from h.fits_of hpc] at hlast
      exact nomatch hlast

/-- So the cluster is up when a CPU on its way down has the lock. -/
lemma Inv.cluster_up (hfree : s.lock = none) (hinside : (s.mcpmPc c).isInside = true) :
    (s.cluster c.1).cluster = .up := by
  cases hcluster : (s.cluster c.1).cluster with
  | up => rfl
  | down => exact absurd hcluster ((h.mcpm c.1).inside c.2.castSucc hinside)
  | goingDown =>
    obtain ⟨j, hj⟩ := (h.mcpm c.1).torn hcluster
    have hlast := Mcpm.Pc.isLastMan_of_isTearing hj
    rw [h.not_isLastMan hfree hinside j] at hlast
    exact nomatch hlast

end

/-! ### Steps -/

lemma State.act_cluster (op : Mcpm.Op 4) : (s.act c op).cluster c.1 = Mcpm.step (s.cluster c.1) op :=
  update_self _ _ _

lemma State.act_cluster_of_ne (op : Mcpm.Op 4) {k : Fin 2} (hk : k ≠ c.1) : (s.act c op).cluster k = s.cluster k :=
  update_of_ne hk _ _

lemma unused_of_ne (hcounts : ∀ d, d ≠ c → s'.useCount d = s.useCount d) {k : Fin 2} (hk : k ≠ c.1)
    (h : s.Unused k) : s'.Unused k := by
  intro i
  rw [hcounts (k, i) fun heq => hk (congrArg Prod.fst heq)]
  exact h i

section

variable (h : Inv cfg s)
include h

/-- A cluster that may be used again is disarmed first. -/
lemma Inv.disarm_unused (k : Fin 2) :
    ∃ armed, (if s.Unused k then s.disarm k else s) = { s with armed := armed } ∧ armed k = false ∧
      ∀ k', k' ≠ k → armed k' = s.armed k' := by
  by_cases hunused : s.Unused k
  · rw [if_pos hunused]
    exact ⟨_, rfl, update_self _ _ _, fun k' hk' => update_of_ne hk' _ _⟩
  · rw [if_neg hunused]
    exact ⟨s.armed, rfl, Bool.eq_false_iff.mpr fun harmed => hunused (h.armed k harmed), fun _ _ => rfl⟩

/-- What is armed is not what has been disarmed, and its counts are as before. -/
lemma Inv.armed_of_disarmed (harmed : s'.armed c.1 = false) (hothers : ∀ k, k ≠ c.1 → s'.armed k = s.armed k)
    (hcounts : ∀ d, d ≠ c → s'.useCount d = s.useCount d) (k : Fin 2) (hk : s'.armed k = true) : s'.Unused k := by
  by_cases hkc : k = c.1
  · rw [hkc, harmed] at hk
    exact nomatch hk
  · rw [hothers k hkc] at hk
    exact unused_of_ne hcounts hkc (h.armed k hk)

lemma Inv.powerUp (hdown : s.latest c = .down) (hfree : s.lock = none) : Inv cfg (s.powerUp cfg c) := by
  rw [State.powerUp]
  split
  · exact h
  next hpresent =>
    dsimp only
    obtain ⟨armed, heq, harmed, hothers⟩ := h.disarm_unused c.1
    rw [heq]
    have hcount := h.count c
    rw [hdown, requests, if_neg nofun] at hcount
    refine h.of_move c _
      { goes := (update_eq_self c s.pc).symm, mcpm := h.mcpm c.1, noBug := ?_, count := ?_
        counts := fun d hd => update_of_ne hd _ _, latest := fun d hd => update_of_ne hd _ _
        asked := fun _ => update_self _ _ _, fits := h.fits c, present := fun _ => Nat.lt_of_not_le hpresent
        lock := h.lock c, armed := h.armed_of_disarmed harmed hothers fun d hd => update_of_ne hd _ _
        entering := ?_, enterings := ?_ }
    · change (s.bug || _) = false
      rw [h.noBug]
      change (decide (s.useCount c + 1 ≠ 1) && decide (s.useCount c + 1 ≠ 2)) = false
      rw [hcount]
      cases (s.pc c).isDue <;> decide
    · have hcount' : s.useCount c + 1 = requests .up (s.pc c) := by
        rw [hcount, requests, if_pos rfl]
        omega
      have hlatest : update s.latest c .up c = .up := update_self _ _ _
      rw [← hlatest] at hcount'
      exact (update_self _ _ _).trans hcount'
    · exact fun hentering => absurd hentering (h.not_entering hfree c)
    · exact fun d _ hentering => absurd hentering (h.not_entering hfree d)

lemma Inv.down (hrun : s.pc c = .run) (residency : Nat) : Inv cfg (s.down c residency) := by
  have hup : s.mcpmPc c = .up := h.fits_of hrun
  have hcount := h.count c
  rw [hrun, h.asked c hrun] at hcount
  have hcluster := s.act_cluster (c := c) (.cpuGoingDown c.2.castSucc)
  refine h.of_move c _
    { clusters := fun k hk => s.act_cluster_of_ne _ hk, mcpm := ?_, others := ?_, noBug := h.noBug, count := ?_
      latest := fun d hd => update_of_ne hd _ _, fits := ?_
      present := fun _ => h.present c (by rw [hrun]; exact nofun), lock := ?_, armed := h.armed
      enterings := fun d _ => h.entering d }
  · change Mcpm.Inv ((s.act c _).cluster c.1)
    rw [hcluster]
    exact (h.mcpm c.1).step (by decide) hup
  · intro j hj
    change ((s.act c _).cluster c.1).pc j = _
    rw [hcluster]
    exact update_of_ne hj _ _
  · rwa [show (s.down c residency).latest c = .down from update_self _ _ _]
  · change ((s.act c _).cluster c.1).pc c.2.castSucc = .goingDown
    rw [hcluster]
    exact update_self _ _ _
  · have hlock := h.lock c
    rwa [hrun] at hlock

/-- A cluster with a CPU that has yet to take the lock is not armed. -/
lemma Inv.not_armed (hdue : (s.pc c).isDue = true) : s.armed c.1 = false := by
  refine Bool.eq_false_iff.mpr fun harmed => ?_
  have hcount := h.count c
  rw [h.armed c.1 harmed c.2, requests, if_pos hdue] at hcount
  split at hcount <;> exact nomatch hcount

/-- The CPU takes its own request off the count. -/
lemma Inv.count_release {residency : Nat} (hpc : s.pc c = .lockWait residency) :
    s.useCount c - 1 = requests (s.latest c) .locked := by
  rw [h.count c, hpc]
  cases s.latest c <;> rfl

end

lemma locks_of_free (hfree : s.lock = none) (d : Cpu) (hd : d ≠ c) : some c = some d ↔ s.lock = some d := by
  rw [hfree]
  exact iff_of_false (fun heq => hd (Option.some.inj heq).symm) nofun

section

variable (h : Inv cfg s) {residency : Nat} (hpc : s.pc c = .lockWait residency) (hfree : s.lock = none)
include h hpc hfree

/-- The CPU has the lock and is not the last man. -/
lemma Inv.locked : Inv cfg ((State.setCount { s with lock := some c } c (s.useCount c - 1)).goto c .locked) := by
  have hcounts : ∀ d, d ≠ c → update s.useCount c (s.useCount c - 1) d = s.useCount d :=
    fun d hd => update_of_ne hd _ _
  have hdisarmed : s.armed c.1 = false := h.not_armed (by rw [hpc]; rfl)
  have hfits := h.fits_of hpc
  exact h.of_move c _
    { mcpm := h.mcpm c.1, noBug := h.noBug, count := (update_self _ _ _).trans (h.count_release hpc)
      counts := hcounts, fits := hfits, present := fun _ => h.present c (by rw [hpc]; exact nofun)
      lock := iff_of_true rfl rfl, locks := locks_of_free hfree
      armed := h.armed_of_disarmed hdisarmed (fun _ _ => rfl) hcounts, enterings := fun d _ => h.entering d }

/-- The last man arms the power-down of its cluster. -/
lemma Inv.lastMan (hs' : s' = { s with
      lock := some c
      useCount := update s.useCount c (s.useCount c - 1)
      armed := update s.armed c.1 true })
    (hunused : s'.Unused c.1) : Inv cfg ((s'.act c (.enterCritical c.2.castSucc)).goto c .entering) := by
  have hgoing : s.mcpmPc c = .goingDown := h.fits_of hpc
  have hinside : (s.mcpmPc c).isInside = true := by
    rw [hgoing]
    rfl
  have hcounts : ∀ d, d ≠ c → s'.useCount d = s.useCount d := by
    intro d hd
    rw [hs']
    exact update_of_ne hd _ _
  have hclusters : s'.cluster = s.cluster := by rw [hs']
  have hcluster := s'.act_cluster (c := c) (.enterCritical c.2.castSucc)
  rw [hclusters] at hcluster
  refine h.of_move c .entering
    { goes := ?_, clusters := fun k hk => (State.act_cluster_of_ne _ hk).trans (by rw [hclusters]), mcpm := ?_
      others := ?_, noBug := ?_, count := ?_, counts := hcounts, latest := fun _ _ => by rw [hs']; rfl, fits := ?_
      present := fun _ => h.present c (by rw [hpc]; exact nofun), lock := iff_of_true rfl (by rw [hs']; rfl)
      locks := fun d hd => by rw [hs']; exact locks_of_free hfree d hd, armed := ?_
      entering := fun _ => by rw [hs']; exact update_self _ _ _
      enterings := fun d _ hentering => absurd hentering (h.not_entering hfree d) }
  · rw [hs']
    rfl
  · change Mcpm.Inv ((s'.act c _).cluster c.1)
    rw [hcluster]
    exact (h.mcpm c.1).step (by decide) ⟨hgoing, h.not_isLastMan hfree hinside⟩
  · intro j hj
    change ((s'.act c _).cluster c.1).pc j = _
    rw [hcluster]
    exact update_of_ne hj _ _
  · rw [hs']
    exact h.noBug
  · rw [hs']
    exact (update_self _ _ _).trans (h.count_release hpc)
  · change (((s'.act c _).cluster c.1).pc c.2.castSucc).isEntering = true
    rw [hcluster]
    change (update (s.cluster c.1).pc c.2.castSucc Mcpm.Pc.enter c.2.castSucc).isEntering = true
    rw [update_self]
    rfl
  · intro k hk
    change s'.armed k = true at hk
    by_cases hkc : k = c.1
    · rwa [hkc]
    · rw [hs'] at hk
      exact unused_of_ne hcounts hkc (h.armed k ((update_of_ne hkc _ _).symm.trans hk))

lemma Inv.release : Inv cfg (s.release c residency) := by
  have hinside : (s.mcpmPc c).isInside = true := by
    rw [show s.mcpmPc c = .goingDown from h.fits_of hpc]
    rfl
  have hbug : State.bugOn { s with lock := some c } (decide ((s.cluster c.1).cluster ≠ .up)) =
      { s with lock := some c } := by
    rw [h.cluster_up hfree hinside, State.bugOn, h.noBug]
    rfl
  have hcount := h.count_release hpc
  rw [State.release, hbug]
  dsimp only
  split
  next =>
    split
    next hlast => exact h.lastMan hpc hfree rfl hlast.1
    next => exact h.locked hpc hfree
  next hzero =>
    split
    next => exact h.locked hpc hfree
    next hone =>
      -- the count was one or two
      exfalso
      rw [hcount] at hzero hone
      cases hlatest : s.latest c with
      | up =>
        rw [hlatest] at hone
        exact hone rfl
      | down =>
        rw [hlatest] at hzero
        exact hzero rfl

end

/-- The CPU moves in its cluster only. -/
lemma Inv.act (h : Inv cfg s) {op : Mcpm.Op 4} (hop : op.Allowed (s.cluster c.1))
    (hothers : ∀ j, j ≠ c.2.castSucc → (Mcpm.step (s.cluster c.1) op).pc j = (s.cluster c.1).pc j)
    (hdue : pc.isDue = (s.pc c).isDue) (hrun : pc ≠ .run)
    (hfits : pc.Fits ((Mcpm.step (s.cluster c.1) op).pc c.2.castSucc)) (hpresent : c.2 < cfg.nbCpus c.1)
    (hlock : pc.hasLock = (s.pc c).hasLock) (hentering : pc = .entering → s.pc c = .entering) :
    Inv cfg ((s.act c op).goto c pc) := by
  have hcluster := s.act_cluster (c := c) op
  refine h.of_move c _
    { clusters := fun k hk => s.act_cluster_of_ne _ hk, mcpm := ?_, others := ?_, noBug := h.noBug, count := ?_
      asked := fun hpc => absurd hpc hrun, fits := ?_, present := fun _ => hpresent, lock := ?_, armed := h.armed
      entering := fun hpc => h.entering c (hentering hpc), enterings := fun d _ => h.entering d }
  · change Mcpm.Inv ((s.act c op).cluster c.1)
    rw [hcluster]
    exact (h.mcpm c.1).step (by decide) hop
  · intro j hj
    change ((s.act c op).cluster c.1).pc j = _
    rw [hcluster]
    exact hothers j hj
  · have hcount := h.count c
    rwa [requests, ← hdue] at hcount
  · change pc.Fits (((s.act c op).cluster c.1).pc c.2.castSucc)
    rwa [hcluster]
  · rw [hlock]
    exact h.lock c

lemma State.act_next_mcpmPc (s : State) (c : Cpu) : (s.act c (.next c.2.castSucc)).mcpmPc c =
    ((s.cluster c.1).next c.2.castSucc).pc c.2.castSucc := by
  rw [State.mcpmPc, State.act_cluster]
  rfl

/-- The CPU takes its next step in the protocol. -/
lemma Inv.actNext (h : Inv cfg s) (hdue : pc.isDue = (s.pc c).isDue) (hrun : pc ≠ .run)
    (hfits : pc.Fits (((s.cluster c.1).next c.2.castSucc).pc c.2.castSucc)) (hpresent : c.2 < cfg.nbCpus c.1)
    (hlock : pc.hasLock = (s.pc c).hasLock) (hentering : pc = .entering → s.pc c = .entering) :
    Inv cfg ((s.act c (.next c.2.castSucc)).goto c pc) :=
  h.act trivial (fun _ hj => (s.cluster c.1).next_pc_of_ne hj) hdue hrun hfits hpresent hlock hentering

lemma State.goto_self (hpc : s.pc c = pc) : s.goto c pc = s := by
  rw [State.goto, ← hpc, update_eq_self]

section

variable (h : Inv cfg s)
include h

lemma Inv.enter (hpc : s.pc c = .entering) : Inv cfg (s.enter c) := by
  have hpresent : c.2 < cfg.nbCpus c.1 := h.present c (by rw [hpc]; exact nofun)
  have hnext := (s.cluster c.1).next_of_isEntering (h.fits_of hpc)
  rw [State.enter, State.act_next_mcpmPc]
  split
  next hcritical =>
    exact h.actNext (by rw [hpc]; rfl) nofun hcritical hpresent (by rw [hpc]; rfl) nofun
  next hgoing =>
    exact h.actNext (by rw [hpc]; rfl) nofun hgoing hpresent (by rw [hpc]; rfl) nofun
  next hcritical hgoing =>
    have hentering := (hnext.resolve_right (not_or.mpr ⟨hcritical, hgoing⟩)).1
    have hstay : Inv cfg ((s.act c (.next c.2.castSucc)).goto c .entering) :=
      h.actNext (by rw [hpc]) nofun hentering hpresent (by rw [hpc]) fun _ => hpc
    rwa [State.goto_self (s := s.act c (.next c.2.castSucc)) hpc] at hstay

lemma Inv.unlock (hlock : (s.pc c).hasLock = true) {armed : Fin 2 → Bool} (hdue : pc.isDue = false) (hrun : pc ≠ .run)
    (hfits : pc.Fits (s.mcpmPc c)) (hnot : pc.hasLock = false) (harmed : ∀ k, armed k = true → s.armed k = true)
    (hentering : pc ≠ .entering) : Inv cfg (State.goto { s with lock := none, armed := armed } c pc) := by
  have hheld := (h.lock c).mp hlock
  have hnotDue : (s.pc c).isDue = false := by
    cases hpc : s.pc c with
    | lockWait =>
      rw [hpc] at hlock
      exact nomatch hlock
    | _ => rfl
  refine h.of_move c pc
    { mcpm := h.mcpm c.1, noBug := h.noBug, count := ?_, asked := fun hpc => absurd hpc hrun, fits := hfits
      present := fun _ => h.present c fun hpc => ?_, lock := ?_, locks := fun d hd => ?_
      armed := fun k hk => h.armed k (harmed k hk), entering := fun hpc => absurd hpc hentering
      enterings := fun d hd hpc => ?_ }
  · have hcount := h.count c
    rwa [requests, hnotDue, ← hdue] at hcount
  · rw [hpc] at hlock
    exact nomatch hlock
  · rw [hnot]
    exact iff_of_false nofun nofun
  · rw [hheld]
    exact iff_of_false nofun fun heq => hd (Option.some.inj heq).symm
  · exact absurd (h.eq_of_hasLock hlock (by rw [hpc]; rfl)) hd

lemma Inv.poweredUp (hpc : s.pc c = .poweredUp) (hfree : s.lock = none) : Inv cfg (s.poweredUp c) := by
  have hup : s.mcpmPc c = .up := h.fits_of hpc
  have hpresent : c.2 < cfg.nbCpus c.1 := h.present c (by rw [hpc]; exact nofun)
  have hcount := h.count c
  rw [hpc] at hcount
  obtain ⟨armed, heq, harmed, hothers⟩ := h.disarm_unused c.1
  have hlock : Pc.run.hasLock = true ↔ s.lock = some c := by
    rw [hfree]
    exact iff_of_false nofun nofun
  have henterings : ∀ d, d ≠ c → s.pc d = .entering → armed d.1 = true :=
    fun d _ hentering => absurd hentering (h.not_entering hfree d)
  rw [State.poweredUp, heq]
  dsimp only
  cases hlatest : s.latest c with
  | up =>
    rw [hlatest] at hcount
    rw [if_neg (by rw [hcount]; decide)]
    refine h.of_move c .run
      { mcpm := h.mcpm c.1, noBug := h.noBug, count := ?_, asked := fun _ => hlatest, fits := hup
        present := fun _ => hpresent, lock := hlock
        armed := h.armed_of_disarmed harmed hothers fun _ _ => rfl, enterings := henterings }
    change s.useCount c = requests (s.latest c) .run
    rwa [hlatest]
  | down =>
    have hzero : s.useCount c = 0 := by
      rw [hcount, hlatest]
      rfl
    rw [if_pos hzero]
    have hlatest' : update s.latest c .up c = .up := update_self _ _ _
    refine h.of_move c .run
      { mcpm := h.mcpm c.1, noBug := h.noBug, count := ?_, counts := fun d hd => update_of_ne hd _ _
        latest := fun d hd => update_of_ne hd _ _, asked := fun _ => hlatest', fits := hup
        present := fun _ => hpresent, lock := hlock
        armed := h.armed_of_disarmed harmed hothers fun d hd => update_of_ne hd _ _
        enterings := henterings }
    refine (update_self _ _ _).trans ?_
    change 1 = requests (update s.latest c .up c) .run
    rw [hlatest']
    rfl

lemma Inv.enterKernel (hpc : s.pc c = .entry) (hpresent : c.2 < cfg.nbCpus c.1) : Inv cfg (s.enterKernel c) := by
  have hnext := (s.cluster c.1).next_of_isInbound (h.fits_of hpc)
  rw [State.enterKernel, State.act_next_mcpmPc]
  split
  next hup => exact h.actNext (by rw [hpc]; rfl) nofun hup hpresent (by rw [hpc]; rfl) nofun
  next hup =>
    have hstay : Inv cfg ((s.act c (.next c.2.castSucc)).goto c .entry) :=
      h.actNext (by rw [hpc]) nofun (hnext.resolve_right hup) hpresent (by rw [hpc]) nofun
    rwa [State.goto_self (s := s.act c (.next c.2.castSucc)) hpc] at hstay

lemma Inv.next (hpresent : c.2 < cfg.nbCpus c.1) : Inv cfg (s.next c) := by
  rw [State.next]
  cases hpc : s.pc c with
  | run => exact h
  | lockWait residency =>
    dsimp only
    split
    next hfree => exact h.release hpc hfree
    next => exact h
  | locked => exact h.unlock (by rw [hpc]; rfl) rfl nofun (.inl (h.fits_of hpc)) rfl (fun _ hk => hk) nofun
  | entering => exact h.enter hpc
  | entered =>
    have hfits := h.fits_of hpc
    exact h.unlock (by rw [hpc]; rfl) rfl nofun hfits rfl (fun _ hk => hk) nofun
  | aborted =>
    refine h.unlock (by rw [hpc]; rfl) rfl nofun (.inl (h.fits_of hpc)) rfl (fun k hk => ?_) nofun
    by_cases hkc : k = c.1
    · rw [hkc] at hk
      exact nomatch (update_self _ _ _).symm.trans hk
    · exact (update_of_ne hkc _ _).symm.trans hk
  | teardown =>
    exact h.act ⟨h.fits_of hpc, nofun⟩ (fun j hj => update_of_ne hj _ _) (by rw [hpc]; rfl) nofun
      (.inr (update_self _ _ _)) hpresent (by rw [hpc]; rfl) nofun
  | flush =>
    refine h.act (h.fits_of hpc) (fun j hj => update_of_ne hj _ _) (by rw [hpc]; rfl) nofun ?_ hpresent
      (by rw [hpc]; rfl) nofun
    change (update (s.cluster c.1).pc c.2.castSucc Mcpm.Pc.off c.2.castSucc).isInbound = true
    rw [update_self]
    rfl
  | entry => exact h.enterKernel hpc hpresent
  | poweredUp =>
    dsimp only
    split
    next hfree => exact h.poweredUp hpc hfree
    next => exact h

lemma Inv.step {op : Op} (hop : op.Allowed cfg s) : Inv cfg (step cfg s op) := by
  cases op with
  | next c => exact h.next hop
  | powerUp c => exact h.powerUp hop.1 hop.2
  | down c residency => exact h.down hop residency

/-! ### The last man does not wait for the lock's sake -/

/-- The last man waits for a CPU that has given the lock back. -/
lemma Inv.flush_of_goingDown (hc : s.pc c = .entering) {k : Nat} (hk : k < 4) (hne : k ≠ c.2)
    (hgoing : (s.cluster c.1).cpu ⟨k, hk⟩ = .goingDown) :
    ∃ i : Fin 3, i.castSucc = ⟨k, hk⟩ ∧ s.pc (c.1, i) = .flush := by
  rw [(h.mcpm c.1).cpu] at hgoing
  rcases h.cpu_cases c.1 ⟨k, hk⟩ with hoff | ⟨i, hi⟩
  · rw [hoff] at hgoing
    exact nomatch hgoing
  · rw [← hi] at hgoing
    change (s.mcpmPc (c.1, i)).cpuState = .goingDown at hgoing
    refine ⟨i, hi, ?_⟩
    have hdc : (c.1, i) ≠ c := by
      intro heq
      have hi2 : i = c.2 := congrArg Prod.snd heq
      exact hne ((congrArg Fin.val hi).symm.trans (congrArg Fin.val hi2))
    have hlock : (s.pc (c.1, i)).hasLock = false :=
      Bool.eq_false_iff.mpr fun hd => hdc (h.eq_of_hasLock (by rw [hc]; rfl) hd)
    have hcount := h.count (c.1, i)
    rw [h.armed c.1 (h.entering c hc) i] at hcount
    cases hpc : s.pc (c.1, i) with
    | flush => rfl
    | lockWait residency =>
      rw [hpc] at hcount
      cases hlatest : s.latest (c.1, i) <;> rw [hlatest] at hcount <;> exact nomatch hcount
    | locked | entering | entered | aborted =>
      rw [hpc] at hlock
      exact nomatch hlock
    | teardown =>
      -- there is one last man in a cluster
      have hfits := h.fits_of hpc
      have hentering := h.fits_of hc
      have hlast : (s.mcpmPc c).isLastMan = true := by
        cases hp : s.mcpmPc c with
        | enter | readInbound | scan | abort => rfl
        | _ =>
          rw [hp] at hentering
          exact nomatch hentering
      have heq := (h.mcpm c.1).lastMan i.castSucc c.2.castSucc
        (by rw [show (s.cluster c.1).pc i.castSucc = .critical from hfits]; rfl) hlast
      have hcpu : (c.1, i) = c := Prod.ext rfl (Fin.castSucc_injective 3 heq)
      exact absurd hcpu hdc
    | entry =>
      have hfits : (s.mcpmPc (c.1, i)).isInbound = true := h.fits_of hpc
      cases hp : s.mcpmPc (c.1, i) with
      | goingDown | enter | readInbound | scan | abort | critical | left =>
        rw [hp] at hfits
        exact nomatch hfits
      | _ =>
        rw [hp] at hgoing
        exact nomatch hgoing
    | run | poweredUp =>
      rw [show s.mcpmPc (c.1, i) = .up from h.fits_of hpc] at hgoing
      exact nomatch hgoing

end

/-- A CPU that has given the lock back is down after its next step. -/
lemma next_cpu_of_flush {d : Cpu} (hd : s.pc d = .flush) : ((s.next d).cluster d.1).cpu d.2.castSucc = .down := by
  rw [State.next, hd]
  change ((s.act d (.cpuDown d.2.castSucc)).cluster d.1).cpu d.2.castSucc = .down
  rw [State.act_cluster]
  exact update_self _ _ _

lemma next_mcpmPc_of_flush {d : Cpu} (hd : s.pc d = .flush) (hdc : c ≠ d) :
    (s.next d).mcpmPc c = s.mcpmPc c ∧ (s.next d).pc c = s.pc c := by
  rw [State.next, hd]
  refine ⟨mcpmPc_of_ne (fun k hk => s.act_cluster_of_ne _ hk) (fun j hj => ?_) hdc, update_of_ne hdc _ _⟩
  rw [State.act_cluster]
  exact update_of_ne hj _ _

/-- The last man is in `__mcpm_outbound_enter_critical` no more or has got on. -/
def Advances (c : Cpu) (s s' : State) : Prop :=
  s'.pc c = .entering → Mcpm.rank 4 (s'.mcpmPc c) < Mcpm.rank 4 (s.mcpmPc c)

lemma Inv.advances (h : Inv cfg s) (hc : s.pc c = .entering)
    (hgoing : ∀ k (hk : k < 4), s.mcpmPc c = .scan k → k ≠ c.2 → (s.cluster c.1).cpu ⟨k, hk⟩ ≠ .goingDown) :
    Advances c s (s.next c) := by
  have hnext := (s.cluster c.1).next_of_isEntering (h.fits_of hc)
  rw [State.next, hc]
  dsimp only
  rw [State.enter, State.act_next_mcpmPc]
  split
  next => exact fun hentering => nomatch (update_self _ _ _).symm.trans hentering
  next => exact fun hentering => nomatch (update_self _ _ _).symm.trans hentering
  next hcritical hleft =>
    intro _
    rw [State.act_next_mcpmPc]
    exact (hnext.resolve_right (not_or.mpr ⟨hcritical, hleft⟩)).2 hgoing

/-- The steps are those of CPUs of the cluster, and each may be taken. -/
def Among (cfg : Config) (k : Fin 2) (s : State) (ops : List Op) : Prop :=
  (∀ op ∈ ops, ∃ i, op = .next (k, i)) ∧ Run.Each (step cfg) (fun s op => op.Allowed cfg s) s ops

lemma Inv.exists_advances (h : Inv cfg s) (hc : s.pc c = .entering) :
    ∃ ops, Among cfg c.1 s ops ∧ Advances c s (ops.foldl (Tc2.step cfg) s) := by
  have hpresent : c.2 < cfg.nbCpus c.1 := h.present c (by rw [hc]; exact nofun)
  by_cases hwait : ∃ k, ∃ hk : k < 4, s.mcpmPc c = .scan k ∧ k ≠ c.2 ∧ (s.cluster c.1).cpu ⟨k, hk⟩ = .goingDown
  · -- the CPU it waits for goes down first
    obtain ⟨k, hk, hscan, hne, hgoing⟩ := hwait
    obtain ⟨i, hi, hflush⟩ := h.flush_of_goingDown hc hk hne hgoing
    have hpresent' : (c.1, i).2 < cfg.nbCpus (c.1, i).1 := h.present (c.1, i) (by rw [hflush]; exact nofun)
    have hdc : c ≠ (c.1, i) := by
      intro heq
      have hi2 : c.2 = i := congrArg Prod.snd heq
      exact hne ((congrArg Fin.val hi).symm.trans (congrArg Fin.val hi2.symm))
    obtain ⟨hmcpm, hpc⟩ := next_mcpmPc_of_flush hflush hdc
    have hdown := next_cpu_of_flush hflush
    refine ⟨[.next (c.1, i), .next c], ⟨?_, hpresent', hpresent, trivial⟩, ?_⟩
    · rintro op (_ | ⟨_, _ | ⟨_, ⟨⟩⟩⟩)
      · exact ⟨i, rfl⟩
      · exact ⟨c.2, rfl⟩
    · have hadvances : Advances c (s.next (c.1, i)) ((s.next (c.1, i)).next c) := by
        refine (h.next hpresent').advances (hpc.trans hc) fun k' hk' hscan' hne' hgoing' => ?_
        have hkk : k' = k := by
          rw [hmcpm, hscan] at hscan'
          injection hscan' with heq
          exact heq.symm
        subst hkk
        rw [← hi] at hgoing'
        exact nomatch hdown.symm.trans hgoing'
      intro hentering
      have hlt := hadvances hentering
      rwa [hmcpm] at hlt
  · refine ⟨[.next c], ⟨?_, hpresent, trivial⟩, h.advances hc fun k hk hscan hne hgoing => ?_⟩
    · rintro op (_ | ⟨_, ⟨⟩⟩)
      exact ⟨c.2, rfl⟩
    · exact hwait ⟨k, hk, hscan, hne, hgoing⟩

lemma Inv.run (h : Inv cfg s) {ops : List Op}
    (hallowed : Run.Each (Tc2.step cfg) (fun s op => op.Allowed cfg s) s ops) :
    Run.Always (Tc2.step cfg) (Inv cfg) s ops :=
  Run.always_of_each (fun _ _ ht hop => ht.step hop) h hallowed

/-- Steps of CPUs of its cluster let the last man leave. -/
lemma Inv.leaves (h : Inv cfg s) (hc : s.pc c = .entering) :
    ∃ ops, Among cfg c.1 s ops ∧ (ops.foldl (Tc2.step cfg) s).pc c ≠ .entering := by
  generalize hrank : Mcpm.rank 4 (s.mcpmPc c) = m
  induction m using Nat.strong_induction_on generalizing s with
  | _ m ih =>
    obtain ⟨ops, hamong, hadvances⟩ := h.exists_advances hc
    by_cases hentering : (ops.foldl (Tc2.step cfg) s).pc c = .entering
    · obtain ⟨more, hamong', hleft⟩ := ih _ (hrank ▸ hadvances hentering) (h.run hamong.2).last hentering rfl
      refine ⟨ops ++ more, ⟨fun op hop => ?_, Run.each_append.mpr ⟨hamong.2, hamong'.2⟩⟩, ?_⟩
      · exact (List.mem_append.mp hop).elim (hamong.1 op) (hamong'.1 op)
      · rwa [List.foldl_append]
    · exact ⟨ops, hamong, hentering⟩

/-! ### Runs -/

structure Safe (cfg : Config) (s : State) : Prop where
  counts : ∀ c, s.useCount c = 0 ∨ s.useCount c = 1 ∨ s.useCount c = 2
  noBug : s.bug = false
  armed : ∀ k, s.armed k = true → s.Unused k
  /-- the CPU that the last man waits for does not wait in turn: it is down after its next step -/
  waits : ∀ c k (hk : k < 4), s.pc c = .entering → s.mcpmPc c = .scan k → k ≠ c.2 →
    (s.cluster c.1).cpu ⟨k, hk⟩ = .goingDown →
    ∃ i : Fin 3, i.castSucc = ⟨k, hk⟩ ∧ ((s.next (c.1, i)).cluster c.1).cpu ⟨k, hk⟩ = .down
  leaves : ∀ c, s.pc c = .entering → ∃ ops, Among cfg c.1 s ops ∧ (ops.foldl (step cfg) s).pc c ≠ .entering

lemma Inv.safe (h : Inv cfg s) : Safe cfg s where
  counts c := by
    rw [h.count c, requests]
    cases s.latest c <;> cases (s.pc c).isDue <;> decide
  noBug := h.noBug
  armed := h.armed
  waits c k hk hc _ hne hgoing := by
    obtain ⟨i, hi, hflush⟩ := h.flush_of_goingDown hc hk hne hgoing
    exact ⟨i, hi, hi ▸ next_cpu_of_flush hflush⟩
  leaves _ hc := h.leaves hc

lemma inv_boot (hboot : c.2 < cfg.nbCpus c.1) : Inv cfg (boot c) := by
  have hpc : ∀ d, (boot c).pc d = if d = c then .run else .entry := fun _ => rfl
  have hmcpm : ∀ d, (boot c).mcpmPc d = if d = c then .up else .off := by
    intro d
    rw [State.mcpmPc, boot]
    dsimp only
    by_cases hk : d.1 = c.1
    · rw [if_pos hk]
      change (if decide (d.2.castSucc = c.2.castSucc) = true then Mcpm.Pc.up else .off) = _
      by_cases hd : d = c
      · rw [if_pos hd, if_pos (by rw [hd]; exact decide_eq_true rfl)]
      · rw [if_neg hd, if_neg fun h => hd (Prod.ext hk (Fin.castSucc_injective 3 (of_decide_eq_true h)))]
    · rw [if_neg hk, if_neg fun hd => hk (congrArg Prod.fst hd)]
      rfl
  constructor
  case mcpm =>
    intro k
    rw [boot]
    dsimp only
    split
    · exact Mcpm.inv_booted _
    · exact Mcpm.inv_dark
  case absent =>
    intro k
    rw [boot]
    dsimp only
    split
    · exact if_neg fun h => (Fin.castSucc_lt_last c.2).ne (of_decide_eq_true h).symm
    · rfl
  case noBug => rfl
  case count =>
    intro d
    rw [hpc, boot]
    dsimp only
    split <;> rfl
  case asked =>
    intro d hd
    rw [hpc] at hd
    split at hd
    next heq => exact if_pos heq
    next => exact nomatch hd
  case fits =>
    intro d
    rw [hpc, hmcpm]
    split <;> rfl
  case present =>
    intro d hd
    rw [hpc] at hd
    split at hd
    next heq => exact heq ▸ hboot
    next => exact absurd rfl hd
  case lock =>
    intro d
    rw [hpc]
    refine iff_of_false ?_ nofun
    split <;> exact nofun
  case armed => exact fun _ => nofun
  case entering =>
    intro d hd
    rw [hpc] at hd
    split at hd <;> exact nomatch hd

/-- In every interleaving of power-ups, power-downs and wake-ups. -/
theorem power_managed (hboot : c.2 < cfg.nbCpus c.1) {ops : List Op}
    (hallowed : Run.Each (step cfg) (fun s op => op.Allowed cfg s) (boot c) ops) :
    Run.Always (step cfg) (Safe cfg) (boot c) ops :=
  ((inv_boot hboot).run hallowed).mono fun _ ht => ht.safe

/-- Two CPUs of the first cluster, three of the second. -/
def coreTile : Config := ⟨fun k => if k = 0 then 2 else 3⟩

/-- The second CPU is brought up and goes down again, and the first one is the last man before the
second has said that it is down. -/
def lastManWaits : List Op :=
  [.powerUp (0, 1)] ++ List.replicate 11 (.next (0, 1)) ++
    [.down (0, 1) 0, .next (0, 1), .next (0, 1), .down (0, 0) 0] ++
    List.replicate 4 (.next (0, 0))

theorem power_managed_last_man_waits : (lastManWaits.foldl (step coreTile) (boot (0, 0))).pc (0, 0) = .entering ∧
    (lastManWaits.foldl (step coreTile) (boot (0, 0))).mcpmPc (0, 0) = .scan 1 ∧
    Safe coreTile (lastManWaits.foldl (step coreTile) (boot (0, 0))) :=
  ⟨by decide +kernel, by decide +kernel, (power_managed (by decide) (by decide +kernel)).last⟩

end Tc2

end BigLittle
