import BigLittle.Mcpm.Cluster

/-!
# Teardown and setup of a cluster exclude each other

A CPU writes that it comes up before it looks at the cluster, and the last man writes that
the cluster goes down before it looks at the CPUs. So a CPU that was down when the last man
looked finds the cluster going down, and stays outside until somebody says that the cluster
is up: the last man itself, or a first man after the end of the teardown.
-/

namespace BigLittle.Mcpm

open State

/-- The CPU has not found the cluster up. -/
def Pc.isOutside : Pc → Bool
  | .off | .trylock | .readCluster | .setup | .teardownWait | .setupWait => true
  | _ => false

/-- The first man has found the cluster down. -/
def Pc.isSettingUp : Pc → Bool
  | .powerUpSetup | .clusterUp => true
  | _ => false

/-- The CPU has found the cluster up and nobody can have torn it down since. -/
def Pc.isInside : Pc → Bool
  | .setupLeave | .unlock | .setupComplete | .up | .goingDown | .enter | .readInbound | .scan _ | .abort => true
  | _ => false

/-- The last man has written that the cluster goes down. -/
def Pc.isTearing : Pc → Bool
  | .readInbound | .scan _ | .abort | .critical => true
  | _ => false

/-- The first man has written that it comes up. -/
def Pc.isComingUp : Pc → Bool
  | .teardownWait | .powerUpSetup | .clusterUp | .setupLeave => true
  | _ => false

def Pc.hasLock : Pc → Bool
  | .readCluster | .setup | .teardownWait | .powerUpSetup | .clusterUp | .setupLeave | .unlock => true
  | _ => false

variable {n : Nat}

/-- The last man has seen the CPU down. -/
def Pc.HasScanned (pc : Pc) (j : Fin n) : Prop :=
  match pc with
  | .scan k => j.val < k
  | .critical => True
  | _ => False

lemma Pc.isTearing_of_hasScanned {pc : Pc} {j : Fin n} (h : pc.HasScanned j) : pc.isTearing = true := by
  cases pc with
  | scan | critical => rfl
  | _ => exact h.elim

lemma Pc.isLastMan_of_isTearing {pc : Pc} (h : pc.isTearing = true) : pc.isLastMan = true := by
  cases pc with
  | readInbound | scan | abort | critical => rfl
  | _ => exact nomatch h

structure Inv (s : State n) : Prop where
  cpu : ∀ i, s.cpu i = (s.pc i).cpuState
  lock : Vlock.Safe s.lock
  held : ∀ i, s.lock.pc i = .holding ↔ (s.pc i).hasLock = true
  lastMan : ∀ i j, (s.pc i).isLastMan = true → (s.pc j).isLastMan = true → i = j
  tearing : ∀ i, (s.pc i).isTearing = true → s.cluster = .goingDown
  torn : s.cluster = .goingDown → ∃ i, (s.pc i).isTearing = true
  scanned : ∀ i j, j ≠ i → (s.pc i).HasScanned j → (s.pc j).isOutside = true
  settingUp : ∀ i, (s.pc i).isSettingUp = true → s.cluster = .down
  inside : ∀ i, (s.pc i).isInside = true → s.cluster ≠ .down
  comingUp : ∀ i, (s.pc i).isComingUp = true → s.inbound = .comingUp

variable {s s' : State n} {i : Fin n} {pc : Pc}

structure Move (s : State n) (i : Fin n) (pc : Pc) (s' : State n) : Prop where
  goes : s'.pc = Function.update s.pc i pc := by rfl
  cpu : s'.cpu = Function.update s.cpu i pc.cpuState
  lock : Vlock.Safe s'.lock
  held : s'.lock.pc i = .holding ↔ pc.hasLock = true
  heldOther : ∀ j, j ≠ i → (s'.lock.pc j = .holding ↔ s.lock.pc j = .holding)
  lastMan : pc.isLastMan = true → ∀ j, j ≠ i → (s.pc j).isLastMan = false
  tearing : pc.isTearing = true → s'.cluster = .goingDown
  tearingOther : ∀ j, j ≠ i → (s.pc j).isTearing = true → s'.cluster = .goingDown
  torn : s'.cluster = .goingDown → pc.isTearing = true ∨ ∃ j, j ≠ i ∧ (s.pc j).isTearing = true
  scanned : ∀ j, j ≠ i → pc.HasScanned j → (s.pc j).isOutside = true
  scannedOther : ∀ j, j ≠ i → (s.pc j).HasScanned i → pc.isOutside = true
  settingUp : pc.isSettingUp = true → s'.cluster = .down
  settingUpOther : ∀ j, j ≠ i → (s.pc j).isSettingUp = true → s'.cluster = .down
  inside : pc.isInside = true → s'.cluster ≠ .down
  insideOther : ∀ j, j ≠ i → (s.pc j).isInside = true → s'.cluster ≠ .down
  comingUp : pc.isComingUp = true → s'.inbound = .comingUp
  comingUpOther : ∀ j, j ≠ i → (s.pc j).isComingUp = true → s'.inbound = .comingUp

lemma Inv.of_move (h : Inv s) (m : Move s i pc s') : Inv s' := by
  have hself : s'.pc i = pc := by rw [m.goes, Function.update_self]
  have hother : ∀ j, j ≠ i → s'.pc j = s.pc j := fun j hj => by rw [m.goes, Function.update_of_ne hj]
  -- what holds of the CPU at its new place and of the others at theirs holds of all
  have hall : ∀ P : Fin n → Pc → Prop, P i pc → (∀ j, j ≠ i → P j (s.pc j)) → ∀ j, P j (s'.pc j) := by
    intro P hi hj
    rw [m.goes]
    exact (Function.forall_update_iff s.pc P).mpr ⟨hi, hj⟩
  constructor
  case cpu =>
    rw [m.cpu]
    refine (Function.forall_update_iff s.cpu fun j state => state = (s'.pc j).cpuState).mpr ⟨?_, fun j hj => ?_⟩
    · rw [hself]
    · rw [hother j hj]
      exact h.cpu j
  case lock => exact m.lock
  case held =>
    exact hall (fun j p => s'.lock.pc j = .holding ↔ p.hasLock = true) m.held fun j hj =>
      (m.heldOther j hj).trans (h.held j)
  case lastMan =>
    intro j k hj hk
    by_contra hne
    by_cases hji : j = i
    · rw [hji, hself] at hj
      rw [hji] at hne
      rw [hother k (Ne.symm hne), m.lastMan hj k (Ne.symm hne)] at hk
      exact nomatch hk
    · rw [hother j hji] at hj
      by_cases hki : k = i
      · rw [hki, hself] at hk
        rw [m.lastMan hk j hji] at hj
        exact nomatch hj
      · rw [hother k hki] at hk
        exact hne (h.lastMan j k hj hk)
  case tearing => exact hall (fun _ p => p.isTearing = true → s'.cluster = .goingDown) m.tearing m.tearingOther
  case torn =>
    intro hcluster
    rcases m.torn hcluster with hpc | ⟨j, hj, hpc⟩
    · exact ⟨i, by rw [hself]; exact hpc⟩
    · exact ⟨j, by rw [hother j hj]; exact hpc⟩
  case scanned =>
    intro j k hkj hscanned
    by_cases hji : j = i
    · rw [hji] at hkj hscanned
      rw [hself] at hscanned
      rw [hother k hkj]
      exact m.scanned k hkj hscanned
    · rw [hother j hji] at hscanned
      by_cases hki : k = i
      · rw [hki] at hscanned ⊢
        rw [hself]
        exact m.scannedOther j hji hscanned
      · rw [hother k hki]
        exact h.scanned j k hkj hscanned
  case settingUp => exact hall (fun _ p => p.isSettingUp = true → s'.cluster = .down) m.settingUp m.settingUpOther
  case inside => exact hall (fun _ p => p.isInside = true → s'.cluster ≠ .down) m.inside m.insideOther
  case comingUp => exact hall (fun _ p => p.isComingUp = true → s'.inbound = .comingUp) m.comingUp m.comingUpOther

/-! ### Steps that leave the cluster alone -/

/-- What a CPU that goes from `old` to `pc` has to see to while the cluster keeps its state. -/
structure Passes (s : State n) (i : Fin n) (old pc : Pc) : Prop where
  last : pc.isLastMan = true → old.isLastMan = true ∨ ∀ j, (s.pc j).isLastMan = false := by exact nofun
  tear : pc.isTearing = old.isTearing := by exact rfl
  scanned : ∀ j, j ≠ i → pc.HasScanned j → (s.pc j).isOutside = true := by exact nofun
  outside : old.isOutside = true → s.cluster ≠ .goingDown ∨ pc.isOutside = true := by exact nofun
  setting : pc.isSettingUp = true → s.cluster = .down := by exact nofun
  inside : pc.isInside = true → s.cluster ≠ .down := by exact nofun

section

variable (h : Inv s) {old : Pc} (hpc : s.pc i = old)
include h hpc

/-- The last man is this CPU or another one. -/
lemma Inv.torn_or (htear : pc.isTearing = old.isTearing) (hcluster : s.cluster = .goingDown) :
    pc.isTearing = true ∨ ∃ j, j ≠ i ∧ (s.pc j).isTearing = true := by
  obtain ⟨j, hj⟩ := h.torn hcluster
  by_cases hji : j = i
  · rw [hji, hpc, ← htear] at hj
    exact .inl hj
  · exact .inr ⟨j, hji, hj⟩

/-- The cluster keeps its state. -/
lemma Inv.keep {lock : Vlock.State n} {cpu : Fin n → CpuState} {inbound : Inbound}
    (hcpu : cpu = Function.update s.cpu i pc.cpuState) (hsafe : Vlock.Safe lock)
    (hheld : lock.pc i = .holding ↔ pc.hasLock = true)
    (hheldOther : ∀ j, j ≠ i → (lock.pc j = .holding ↔ s.lock.pc j = .holding)) (hpass : Passes s i old pc)
    (hcoming : pc.isComingUp = true → inbound = .comingUp)
    (hcomingOther : ∀ j, j ≠ i → (s.pc j).isComingUp = true → inbound = .comingUp) :
    Inv (goto { s with lock := lock, cpu := cpu, inbound := inbound } i pc) := by
  refine h.of_move (i := i) ⟨rfl, hcpu, hsafe, hheld, hheldOther, ?lastMan, ?tearing, fun j _ => h.tearing j,
    h.torn_or hpc hpass.tear, hpass.scanned, ?scannedOther, hpass.setting, fun j _ => h.settingUp j, hpass.inside,
    fun j _ => h.inside j, hcoming, hcomingOther⟩
  case lastMan =>
    intro hpc' j hj
    rcases hpass.last hpc' with hold | hnone
    · exact Bool.eq_false_iff.mpr fun hj' => hj (h.lastMan j i hj' (by rw [hpc]; exact hold))
    · exact hnone j
  case tearing =>
    intro hpc'
    exact h.tearing i (by rw [hpc, ← hpass.tear]; exact hpc')
  case scannedOther =>
    intro j hj hscanned'
    have hout := h.scanned j i (Ne.symm hj) hscanned'
    rw [hpc] at hout
    exact (hpass.outside hout).resolve_left fun hne => hne (h.tearing j (Pc.isTearing_of_hasScanned hscanned'))

lemma Inv.held_same (hlock : pc.hasLock = old.hasLock) : s.lock.pc i = .holding ↔ pc.hasLock = true := by
  rw [h.held i, hpc, hlock]

/-- The lock and the inbound side are left alone as well. -/
lemma Inv.goto {cpu : Fin n → CpuState} (hcpu : cpu = Function.update s.cpu i pc.cpuState)
    (hpass : Passes s i old pc) (hcoming : pc.isComingUp = true → old.isComingUp = true := by exact nofun)
    (hlock : pc.hasLock = old.hasLock := by exact rfl) : Inv (goto { s with cpu := cpu } i pc) :=
  h.keep hpc hcpu h.lock (h.held_same hpc hlock) (fun _ _ => Iff.rfl) hpass
    (fun hpc' => h.comingUp i (by rw [hpc]; exact hcoming hpc')) fun j _ => h.comingUp j

lemma Inv.cpu_same (hstate : pc.cpuState = old.cpuState) : s.cpu = Function.update s.cpu i pc.cpuState := by
  rw [hstate, ← hpc, ← h.cpu i, Function.update_eq_self]

/-- A step that does not write the state of its CPU. -/
lemma Inv.pass (hpass : Passes s i old pc) (hcoming : pc.isComingUp = true → old.isComingUp = true := by exact nofun)
    (hlock : pc.hasLock = old.hasLock := by exact rfl) (hstate : pc.cpuState = old.cpuState := by exact rfl) :
    Inv (State.goto s i pc) :=
  h.goto hpc (h.cpu_same hpc hstate) hpass hcoming hlock

end

lemma State.goto_self (hpc : s.pc i = pc) : s.goto i pc = s := by
  rw [goto, ← hpc, Function.update_eq_self]

lemma Inv.stepTrylock (h : Inv s) (hn : n ≤ 256) (hpc : s.pc i = .trylock) : Inv (s.stepTrylock i) := by
  have hsafe := h.lock.step hn i
  have hheld : ∀ j, j ≠ i → ((s.lock.step i).pc j = .holding ↔ s.lock.pc j = .holding) := by
    intro j hj
    rw [Vlock.State.step_pc_of_ne s.lock hj]
  rw [State.stepTrylock]
  cases hlock : (s.lock.step i).pc i with
  | holding =>
    exact h.keep hpc (h.cpu_same hpc rfl) hsafe (iff_of_true hlock rfl) hheld { outside := fun _ => .inr rfl } nofun
      fun j _ => h.comingUp j
  | idle =>
    exact h.keep hpc (h.cpu_same hpc rfl) hsafe (iff_of_false (by rw [hlock]; exact nofun) nofun) hheld
      { outside := fun _ => .inr rfl } nofun fun j _ => h.comingUp j
  | _ =>
    have hstay := h.keep hpc (h.cpu_same hpc rfl) hsafe
      (iff_of_false (by rw [hlock]; exact nofun) (b := Pc.trylock.hasLock = true) nofun) hheld
      { outside := fun _ => .inr rfl } nofun fun j _ => h.comingUp j
    rwa [State.goto_self (s := { s with lock := s.lock.step i }) hpc] at hstay

/-- A CPU that has been seen down is off. -/
lemma Inv.off_of_down (h : Inv s) (hdown : s.cpu i = .down) : s.pc i = .off := by
  rw [h.cpu i] at hdown
  cases hpc : s.pc i with
  | off => rfl
  | _ =>
    rw [hpc] at hdown
    exact nomatch hdown

lemma Inv.stepScan (h : Inv s) {k : Nat} (hpc : s.pc i = .scan k) : Inv (s.stepScan i k) := by
  have hseen : ∀ j : Fin n, j ≠ i → j.val < k → (s.pc j).isOutside = true := by
    intro j hj hlt
    exact h.scanned i j hj (by rw [hpc]; exact hlt)
  have hinside : s.cluster ≠ .down := h.inside i (by rw [hpc]; rfl)
  rw [State.stepScan]
  split
  next hk =>
    split
    next hself =>
      refine h.pass hpc { last := fun _ => .inl rfl, scanned := fun j hj hlt => ?_, inside := fun _ => hinside }
      refine hseen j hj (Nat.lt_of_le_of_ne (Nat.le_of_lt_succ hlt) fun heq => ?_)
      exact hj (Fin.ext (heq.trans hself))
    next =>
      split
      next => exact h
      next hdown =>
        refine h.pass hpc { last := fun _ => .inl rfl, scanned := fun j hj hlt => ?_, inside := fun _ => hinside }
        rcases Nat.lt_succ_iff_lt_or_eq.mp hlt with hlt | heq
        · exact hseen j hj hlt
        · obtain rfl : j = ⟨k, hk⟩ := Fin.ext heq
          rw [h.off_of_down hdown]
          rfl
      next => exact h.pass hpc { last := fun _ => .inl rfl, inside := fun _ => hinside }
  next hk =>
    refine h.pass hpc { last := fun _ => .inl rfl, scanned := fun j hj _ => ?_ }
    exact hseen j hj (Nat.lt_of_lt_of_le j.isLt (Nat.le_of_not_lt hk))

/-! ### Steps that change the states of the cluster -/

/-- The first man is the one that has the lock. -/
lemma Inv.firstMan (h : Inv s) {j : Fin n} (hi : (s.pc i).hasLock = true) (hj : (s.pc j).hasLock = true) : i = j :=
  h.lock.exclusive ((h.held i).mpr hi) ((h.held j).mpr hj)

lemma Pc.hasLock_of_isComingUp (h : pc.isComingUp = true) : pc.hasLock = true := by
  cases pc with
  | teardownWait | powerUpSetup | clusterUp | setupLeave => rfl
  | _ => exact nomatch h

lemma Pc.hasLock_of_isSettingUp (h : pc.isSettingUp = true) : pc.hasLock = true := by
  cases pc with
  | powerUpSetup | clusterUp => rfl
  | _ => exact nomatch h

section

variable (h : Inv s)
include h

/-- The cluster changes its state while nobody else tears it down. -/
lemma Inv.setCluster {old : Pc} (hpc : s.pc i = old) {cluster : ClusterState} (hstate : pc.cpuState = old.cpuState)
    (hlock : pc.hasLock = old.hasLock) (hnot : ∀ j, j ≠ i → (s.pc j).isTearing = false)
    (hlast : pc.isLastMan = true → old.isLastMan = true) (htear : pc.isTearing = true ↔ cluster = .goingDown)
    (hscanned : ∀ j : Fin n, ¬pc.HasScanned j) (hsetting : pc.isSettingUp = false)
    (hsettingOther : ∀ j, j ≠ i → (s.pc j).isSettingUp = true → cluster = .down)
    (hinside : pc.isInside = true → cluster ≠ .down)
    (hinsideOther : ∀ j, j ≠ i → (s.pc j).isInside = true → cluster ≠ .down)
    (hcoming : pc.isComingUp = true → old.isComingUp = true) : Inv (State.goto { s with cluster := cluster } i pc) := by
  refine h.of_move (i := i) ⟨rfl, h.cpu_same hpc hstate, h.lock, h.held_same hpc hlock, fun _ _ => Iff.rfl, ?lastMan,
    htear.mp, ?tearingOther, fun hc => .inl (htear.mpr hc), fun j _ hj => absurd hj (hscanned j), ?scannedOther,
    ?settingUp, hsettingOther, hinside, hinsideOther, ?comingUp, fun j _ => h.comingUp j⟩
  case lastMan =>
    intro hpc' j hj
    exact Bool.eq_false_iff.mpr fun hj' => hj (h.lastMan j i hj' (by rw [hpc]; exact hlast hpc'))
  case tearingOther => exact fun j hj hj' => absurd hj' (Bool.eq_false_iff.mp (hnot j hj))
  case scannedOther =>
    exact fun j hj hj' => absurd (Pc.isTearing_of_hasScanned hj') (Bool.eq_false_iff.mp (hnot j hj))
  case settingUp => exact fun hpc' => absurd hpc' (Bool.eq_false_iff.mp hsetting)
  case comingUp => exact fun hpc' => h.comingUp i (by rw [hpc]; exact hcoming hpc')

/-- Nobody tears down a cluster that is up or down. -/
lemma Inv.not_tearing (hcluster : s.cluster ≠ .goingDown) (j : Fin n) : (s.pc j).isTearing = false :=
  Bool.eq_false_iff.mpr fun hj => hcluster (h.tearing j hj)

/-- The last man finds the cluster up. -/
lemma Inv.up_of_enter (hpc : s.pc i = .enter) : s.cluster = .up := by
  cases hcluster : s.cluster with
  | up => rfl
  | down => exact absurd hcluster (h.inside i (by rw [hpc]; rfl))
  | goingDown =>
    obtain ⟨j, hj⟩ := h.torn hcluster
    obtain rfl := h.lastMan j i (Pc.isLastMan_of_isTearing hj) (by rw [hpc]; rfl)
    rw [hpc] at hj
    exact nomatch hj

/-- The last man writes that the cluster goes down. -/
lemma Inv.enter (hpc : s.pc i = .enter) : Inv (State.goto { s with cluster := .goingDown } i .readInbound) := by
  have hup := h.up_of_enter hpc
  refine h.setCluster hpc rfl rfl (fun j _ => h.not_tearing (by rw [hup]; exact nofun) j) (fun _ => rfl)
    (iff_of_true rfl rfl) (fun _ => id) rfl (fun j _ hj => ?_) (fun _ => nofun) (fun _ _ _ => nofun) nofun
  exact nomatch hup.symm.trans (h.settingUp j hj)

/-- There is one CPU that tears the cluster down. -/
lemma Inv.tears_alone (hi : (s.pc i).isTearing = true) (j : Fin n) (hj : j ≠ i) : (s.pc j).isTearing = false :=
  Bool.eq_false_iff.mpr fun hj' => hj (h.lastMan j i (Pc.isLastMan_of_isTearing hj') (Pc.isLastMan_of_isTearing hi))

lemma Inv.leave_up (hlock : (s.pc i).hasLock = false) (hcpu : (s.pc i).cpuState = .goingDown)
    (htear : (s.pc i).isTearing = true) : Inv (s.leaveCritical i .up) := by
  refine h.setCluster rfl hcpu.symm hlock.symm (h.tears_alone htear) nofun (iff_of_false nofun nofun) (fun _ => id) rfl
    (fun j _ hj => ?_) (fun _ => nofun) (fun _ _ _ => nofun) nofun
  exact nomatch (h.tearing i htear).symm.trans (h.settingUp j hj)

/-- The cluster has been torn down while every other CPU was outside. -/
lemma Inv.leave_down (hpc : s.pc i = .critical) : Inv (s.leaveCritical i .down) := by
  refine h.setCluster hpc rfl rfl (h.tears_alone (by rw [hpc]; rfl)) nofun (iff_of_false nofun nofun) (fun _ => id) rfl
    (fun _ _ _ => rfl) nofun (fun j hj hinside => ?_) nofun
  have hout := h.scanned i j hj (by rw [hpc]; trivial)
  cases hpcj : s.pc j with
  | off | trylock | readCluster | setup | teardownWait | setupWait =>
    rw [hpcj] at hinside
    exact nomatch hinside
  | _ =>
    rw [hpcj] at hout
    exact nomatch hout

/-- The first man has set the cluster up. -/
lemma Inv.clusterUp (hpc : s.pc i = .clusterUp) : Inv (State.goto { s with cluster := .up } i .setupLeave) := by
  have hdown := h.settingUp i (by rw [hpc]; rfl)
  refine h.setCluster hpc rfl rfl (fun j _ => h.not_tearing (by rw [hdown]; exact nofun) j) nofun
    (iff_of_false nofun nofun) (fun _ => id) rfl (fun j hj hj' => ?_) (fun _ => nofun) (fun _ _ _ => nofun) fun _ => rfl
  exact absurd (h.firstMan (Pc.hasLock_of_isSettingUp hj') (by rw [hpc]; rfl)) hj

/-- The inbound side is written by the first man. -/
lemma Inv.not_comingUp (hi : (s.pc i).hasLock = true) {P : Prop} (j : Fin n) (hj : j ≠ i)
    (hj' : (s.pc j).isComingUp = true) : P :=
  absurd (h.firstMan (Pc.hasLock_of_isComingUp hj') hi) hj

/-! ### Runs -/

lemma Inv.next (hn : n ≤ 256) (i : Fin n) : Inv (s.next i) := by
  rw [State.next]
  cases hpc : s.pc i with dsimp only
  | off => exact h.goto hpc rfl { outside := fun _ => .inr rfl }
  | trylock => exact h.stepTrylock hn hpc
  | readCluster =>
    split
    next hup =>
      exact h.pass hpc
        { outside := fun _ => .inl (by rw [hup]; exact nofun), inside := fun _ => by rw [hup]; exact nofun }
    next => exact h.pass hpc { outside := fun _ => .inr rfl }
  | setup =>
    exact h.keep hpc (h.cpu_same hpc rfl) h.lock (h.held_same hpc rfl) (fun _ _ => Iff.rfl)
      { outside := fun _ => .inr rfl } (fun _ => rfl) (h.not_comingUp (by rw [hpc]; rfl))
  | teardownWait =>
    split
    next => exact h
    next hup =>
      exact h.pass hpc
        { outside := fun _ => .inl (by rw [hup]; exact nofun), inside := fun _ => by rw [hup]; exact nofun }
          fun _ => rfl
    next hdown =>
      exact h.pass hpc { outside := fun _ => .inl (by rw [hdown]; exact nofun), setting := fun _ => hdown } fun _ => rfl
  | powerUpSetup =>
    exact h.pass hpc { setting := fun _ => h.settingUp i (by rw [hpc]; rfl) } fun _ => rfl
  | clusterUp => exact h.clusterUp hpc
  | setupLeave =>
    exact h.keep hpc (h.cpu_same hpc rfl) h.lock (h.held_same hpc rfl) (fun _ _ => Iff.rfl)
      { inside := fun _ => h.inside i (by rw [hpc]; rfl) } nofun (h.not_comingUp (by rw [hpc]; rfl))
  | unlock =>
    have hholding : s.lock.pc i = .holding := (h.held i).mpr (by rw [hpc]; rfl)
    have hidle := Vlock.State.step_pc_of_holding s.lock hholding
    exact h.keep hpc (h.cpu_same hpc rfl) (h.lock.step hn i) (iff_of_false (by rw [hidle]; exact nofun) nofun)
      (fun j hj => by rw [Vlock.State.step_pc_of_ne s.lock hj]) { inside := fun _ => h.inside i (by rw [hpc]; rfl) }
      nofun fun j _ => h.comingUp j
  | setupWait =>
    split
    next hup =>
      exact h.pass hpc
        { outside := fun _ => .inl (by rw [hup]; exact nofun), inside := fun _ => by rw [hup]; exact nofun }
    next => exact h
  | setupComplete => exact h.goto hpc rfl { inside := fun _ => h.inside i (by rw [hpc]; rfl) }
  | enter => exact h.enter hpc
  | readInbound =>
    have hinside := h.inside i (by rw [hpc]; rfl)
    split
    next => exact h.pass hpc { last := fun _ => .inl rfl, inside := fun _ => hinside }
    next =>
      refine h.pass hpc { last := fun _ => .inl rfl, scanned := fun _ _ hlt => ?_, inside := fun _ => hinside }
      exact absurd hlt (Nat.not_lt_zero _)
  | scan k => exact h.stepScan hpc
  | abort => exact h.leave_up (by rw [hpc]; rfl) (by rw [hpc]; rfl) (by rw [hpc]; rfl)
  | up | goingDown | critical | left => exact h

/-- What one step of any CPU keeps. -/
lemma Inv.step (hn : n ≤ 256) {op : Op n} (hop : op.Allowed s) : Inv (step s op) := by
  cases op with
  | next i => exact h.next hn i
  | cpuGoingDown i => exact h.goto hop rfl { inside := fun _ => h.inside i (by rw [hop]; rfl) }
  | enterCritical i =>
    obtain ⟨hpc, hnone⟩ := hop
    exact h.pass hpc { last := fun _ => .inr hnone, inside := fun _ => h.inside i (by rw [hpc]; rfl) }
  | leaveCritical i state =>
    obtain ⟨hpc, hstate⟩ := hop
    cases state with
    | up => exact h.leave_up (by rw [hpc]; rfl) (by rw [hpc]; rfl) (by rw [hpc]; rfl)
    | down => exact h.leave_down hpc
    | goingDown => exact absurd rfl hstate
  | cpuDown i =>
    rcases hop with hpc | hpc
    · exact h.goto hpc rfl { outside := fun _ => .inr rfl }
    · exact h.goto hpc rfl { outside := fun _ => .inr rfl }

end

/-- Where a CPU is before anybody moves. -/
lemma inv_of_start (hcpu : ∀ i, s.cpu i = (s.pc i).cpuState) (hlock : s.lock = {}) (hcluster : s.cluster ≠ .goingDown)
    (hpc : ∀ i, s.pc i = .off ∨ s.pc i = .up ∧ s.cluster = .up) : Inv s := by
  have hclass : ∀ {P : Pc → Bool}, P .off = false → P .up = false → ∀ i, P (s.pc i) = false := by
    intro P hoff hup i
    rcases hpc i with h | ⟨h, -⟩
    · rw [h, hoff]
    · rw [h, hup]
  have hnot : ∀ {P : Pc → Bool} {Q : Prop}, P .off = false → P .up = false → ∀ i, P (s.pc i) = true → Q :=
    fun hoff hup i hi => nomatch (hclass hoff hup i).symm.trans hi
  constructor
  case cpu => exact hcpu
  case lock =>
    rw [hlock]
    exact Vlock.safe_init
  case held =>
    intro i
    rw [hlock]
    exact iff_of_false nofun (hnot rfl rfl i)
  case lastMan => exact fun i _ hi => hnot rfl rfl i hi
  case tearing => exact hnot rfl rfl
  case torn => exact fun hgoing => absurd hgoing hcluster
  case scanned => exact fun i _ _ hi => hnot rfl rfl i (Pc.isTearing_of_hasScanned hi)
  case settingUp => exact hnot rfl rfl
  case inside =>
    intro i hi
    rcases hpc i with h | ⟨-, hup⟩
    · rw [h] at hi
      exact nomatch hi
    · rw [hup]
      exact nofun
  case comingUp => exact hnot rfl rfl

lemma inv_dark : Inv (dark : State n) := inv_of_start (fun _ => rfl) rfl nofun fun _ => .inl rfl

lemma inv_booted (online : Fin n → Bool) : Inv (booted online) := by
  refine inv_of_start (fun i => ?_) rfl nofun fun i => ?_
  · rw [booted]
    dsimp only
    cases online i <;> rfl
  · rw [booted]
    dsimp only
    cases online i with
    | true => exact .inr ⟨rfl, rfl⟩
    | false => exact .inl rfl

lemma Inv.safe (h : Inv s) : Safe s := by
  -- everybody but the last man is outside
  have hout : ∀ i j, s.pc i = .critical → s.pc j = .critical ∨ (s.pc j).isOutside = true := by
    intro i j hi
    by_cases hji : j = i
    · exact .inl (hji ▸ hi)
    · exact .inr (h.scanned i j hji (by rw [hi]; trivial))
  refine ⟨fun i j hi hup => ?_, fun i j hi hsetup => ?_⟩
  · rw [h.cpu j] at hup
    rcases hout i j hi with hj | hj
    · rw [hj] at hup
      exact nomatch hup
    · cases hpc : s.pc j with
      | up =>
        rw [hpc] at hj
        exact nomatch hj
      | _ =>
        rw [hpc] at hup
        exact nomatch hup
  · have hj := hout i j hi
    rw [hsetup] at hj
    exact hj.elim nofun nofun

/-! ### The transitions that are taken -/

lemma regular_of {op : Op n} {side : Side} {states states' : ClusterState × Inbound} (hside : op.side s = side)
    (hstates : s.states = states) (hstates' : (step s op).states = states')
    (h : states' = states ∨ documented side states states' = true ∨ added side states states' = true) :
    Regular s op := by
  rw [Regular, Documented, hside, hstates, hstates']
  exact or_assoc.mpr h

lemma State.next_states (s : State n) (i : Fin n) : (s.next i).states = match s.pc i with
      | .setup => (s.cluster, .comingUp)
      | .clusterUp | .abort => (.up, s.inbound)
      | .setupLeave => (s.cluster, .notComingUp)
      | .enter => (.goingDown, s.inbound)
      | _ => s.states := by
  rw [next]
  cases s.pc i with dsimp only
  | trylock =>
    rw [stepTrylock]
    split <;> rfl
  | teardownWait | setupWait => split <;> rfl
  | scan k =>
    rw [stepScan]
    split
    · split
      · rfl
      · split <;> rfl
    · rfl
  | _ => rfl

lemma Inv.regular_next (h : Inv s) (i : Fin n) : Regular s (.next i) := by
  have hside : (Op.next i).side s = if (s.pc i).isInbound then .inbound else .outbound := rfl
  have hstates' := s.next_states i
  cases hpc : s.pc i with (rw [hpc] at hside hstates'; refine regular_of hside rfl hstates' ?_)
  | setup =>
    rw [states]
    cases s.cluster <;> cases s.inbound <;> decide
  | clusterUp =>
    rw [states, h.settingUp i (by rw [hpc]; rfl), h.comingUp i (by rw [hpc]; rfl)]
    decide
  | setupLeave =>
    have hinside := h.inside i (by rw [hpc]; rfl)
    rw [states, h.comingUp i (by rw [hpc]; rfl)]
    cases hcluster : s.cluster with
    | down => exact absurd hcluster hinside
    | up | goingDown => decide
  | enter =>
    rw [states, h.up_of_enter hpc]
    cases s.inbound <;> decide
  | abort =>
    rw [states, h.tearing i (by rw [hpc]; rfl)]
    cases s.inbound <;> decide
  | _ => exact .inl rfl

lemma Inv.regular (h : Inv s) {op : Op n} (hop : op.Allowed s) : Regular s op := by
  cases op with
  | next i => exact h.regular_next i
  | cpuGoingDown i | enterCritical i | cpuDown i => exact .inl (.inl rfl)
  | leaveCritical i state =>
    obtain ⟨hpc, hstate⟩ := hop
    have hstates : s.states = (.goingDown, s.inbound) := by
      rw [states, h.tearing i (by rw [hpc]; rfl)]
    refine regular_of (rfl : _ = Side.outbound) hstates (rfl : _ = (state, s.inbound)) ?_
    cases state with
    | goingDown => exact absurd rfl hstate
    | up | down => cases s.inbound <;> decide

/-- The state of a cluster after `mcpm_sync_init`. -/
def Start (s : State n) : Prop := s = dark ∨ ∃ online, s = booted online

lemma inv_of_isStart (h : Start s) : Inv s := by
  rcases h with rfl | ⟨online, rfl⟩
  · exact inv_dark
  · exact inv_booted online

/-- In every interleaving no CPU is up and nobody sets the cluster up while it is torn down,
and the states of the cluster change only along the documented transitions and those of an
aborted teardown. The numbers of CPUs have eight bits. -/
theorem teardown_exclusive (hn : n ≤ 256) (hstart : Start s) {ops : List (Op n)}
    (hallowed : Run.Each step (fun s op => op.Allowed s) s ops) :
    Run.Always step Safe s ops ∧ Run.Each step Regular s ops := by
  have hinv : Run.Always step Inv s ops :=
    Run.always_of_each (fun _ _ ht hop => ht.step hn hop) (inv_of_isStart hstart) hallowed
  exact ⟨hinv.mono fun _ ht => ht.safe, hinv.each_of_each hallowed fun _ _ ht hop => ht.regular hop⟩

/-- The second CPU goes down, the first one is the last man, and the second wakes up during the
teardown and becomes the first man. -/
def overtaken : List (Op 2) :=
  [.cpuGoingDown 1, .cpuGoingDown 0, .enterCritical 0, .next 0, .next 0, .next 0, .next 0, .cpuDown 1, .next 0,
    .next 0, .next 1] ++ List.replicate 8 (.next 1) ++ [.leaveCritical 0 .down] ++ List.replicate 8 (.next 1)

theorem teardown_exclusive_overtaken : Run.Always step Safe (booted fun _ => true) overtaken ∧
    (overtaken.foldl step (booted fun _ => true)).cpu 1 = .up :=
  ⟨(teardown_exclusive (by decide) (.inr ⟨_, rfl⟩) (by decide +kernel)).1, by decide +kernel⟩

/-- The second CPU wakes up just before the last man looks at it. -/
def aborted : List (Op 2) :=
  [.next 1, .cpuGoingDown 0, .enterCritical 0, .next 0, .next 0, .next 0, .next 0, .next 0]

theorem aborted_undocumented : Run.Each step (fun s op => op.Allowed s) (booted (· = 0)) aborted ∧
    ¬Run.Each step Documented (booted (· = 0)) aborted := by
  decide +kernel

end BigLittle.Mcpm
