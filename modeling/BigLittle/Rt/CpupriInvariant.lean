import BigLittle.Rt.Cpupri

/-!
# The search misses no CPU that only rises

While a CPU changes its class its place is known from where the call is: the masks it is
in, the classes it is counted in, and the one it has got to. A CPU is at every time in the
mask and in the count of the class it has got to. As long as that class only goes up, the
search, which goes up as well, cannot pass it.
-/

namespace BigLittle.Cpupri

open List Finset
open Cpupri.Scan (next)
open Function (update update_of_ne update_self)
open State (step)

variable {n : Nat}

/-- The class of a CPU and the call in progress. -/
structure Progress where
  cpuToPri : Option Nat
  setting : Option Setting

namespace Progress

/-- The classes whose masks the CPU is in. -/
def masks (p : Progress) : List (Option Nat) :=
  match p.setting with
  | none => [p.cpuToPri]
  | some c =>
    match c.pc with
    | .setMask => [c.oldpri]
    | .incCount | .decCount | .clearMask => [c.oldpri, c.newpri]
    | .store => [c.newpri]

/-- The classes that count the CPU. -/
def counted (p : Progress) : List (Option Nat) :=
  match p.setting with
  | none => [p.cpuToPri]
  | some c =>
    match c.pc with
    | .setMask | .incCount => [c.oldpri]
    | .decCount => [c.oldpri, c.newpri]
    | .clearMask | .store => [c.newpri]

/-- The class the CPU has got to. -/
def reached (p : Progress) : Option Nat :=
  match p.setting with
  | none => p.cpuToPri
  | some c =>
    match c.pc with
    | .setMask | .incCount => c.oldpri
    | .decCount | .clearMask | .store => c.newpri

lemma reached_mem_masks (p : Progress) : p.reached ∈ p.masks := by
  obtain ⟨cpuToPri, setting⟩ := p
  cases setting with
  | none => simp [reached, masks]
  | some c =>
    obtain ⟨oldpri, newpri, pc⟩ := c
    cases pc <;> simp [reached, masks]

lemma reached_mem_counted (p : Progress) : p.reached ∈ p.counted := by
  obtain ⟨cpuToPri, setting⟩ := p
  cases setting with
  | none => simp [reached, counted]
  | some c =>
    obtain ⟨oldpri, newpri, pc⟩ := c
    cases pc <;> simp [reached, counted]

/-- A call is for a change, and skips the part that has no class. -/
structure Sound (p : Progress) (lastPrio : Int) : Prop where
  settled : p.setting = none → p.cpuToPri = convertPrio lastPrio
  oldpri : ∀ c, p.setting = some c → c.oldpri = p.cpuToPri
  newpri : ∀ c, p.setting = some c → c.newpri = convertPrio lastPrio
  change : ∀ c, p.setting = some c → c.oldpri ≠ c.newpri
  enters : ∀ c, p.setting = some c → c.pc = .setMask ∨ c.pc = .incCount → c.newpri ≠ none
  leaves : ∀ c, p.setting = some c → c.pc = .decCount ∨ c.pc = .clearMask → c.oldpri ≠ none

variable {cpuToPri oldpri newpri : Option Nat} {pc : SetPc} {lastPrio : Int}

lemma Sound.of_settled (h : cpuToPri = convertPrio lastPrio) : Sound ⟨cpuToPri, none⟩ lastPrio where
  settled _ := h
  oldpri _ hc := nomatch hc
  newpri _ hc := nomatch hc
  change _ hc := nomatch hc
  enters _ hc := nomatch hc
  leaves _ hc := nomatch hc

lemma Sound.of_setting (hold : oldpri = cpuToPri) (hnew : newpri = convertPrio lastPrio)
    (hchange : oldpri ≠ newpri) (henters : pc = .setMask ∨ pc = .incCount → newpri ≠ none)
    (hleaves : pc = .decCount ∨ pc = .clearMask → oldpri ≠ none) :
    Sound ⟨cpuToPri, some ⟨oldpri, newpri, pc⟩⟩ lastPrio where
  settled hc := nomatch hc
  oldpri _ hc := Option.some.inj hc ▸ hold
  newpri _ hc := Option.some.inj hc ▸ hnew
  change _ hc := Option.some.inj hc ▸ hchange
  enters _ hc := Option.some.inj hc ▸ henters
  leaves _ hc := Option.some.inj hc ▸ hleaves

/-- The call goes on to another access. -/
lemma Sound.goOn {pc' : SetPc} (h : Sound ⟨cpuToPri, some ⟨oldpri, newpri, pc⟩⟩ lastPrio)
    (henters : pc' = .setMask ∨ pc' = .incCount → newpri ≠ none)
    (hleaves : pc' = .decCount ∨ pc' = .clearMask → oldpri ≠ none) :
    Sound ⟨cpuToPri, some ⟨oldpri, newpri, pc'⟩⟩ lastPrio :=
  .of_setting (h.oldpri _ rfl) (h.newpri _ rfl) (h.change _ rfl) henters hleaves

end Progress

namespace State

variable {s s' : State n}

def progress (s : State n) (cpu : Fin n) : Progress := ⟨s.cpuToPri cpu, s.setting cpu⟩

structure Inv (s : State n) : Prop where
  mask : ∀ k cpu, s.mask k cpu = true ↔ some k ∈ (s.progress cpu).masks
  count : ∀ k, s.count k = ∑ cpu, ((s.progress cpu).counted.count (some k) : Int)
  sound : ∀ cpu, (s.progress cpu).Sound (s.lastPrio cpu)

/-- A step for one CPU leaves the others alone. -/
structure Others (cpu : Fin n) (s s' : State n) : Prop where
  progress : ∀ c, c ≠ cpu → s'.progress c = s.progress c
  lastPrio : ∀ c, c ≠ cpu → s'.lastPrio c = s.lastPrio c
  mask : ∀ k c, c ≠ cpu → s'.mask k c = s.mask k c

lemma Inv.of_cpu (h : s.Inv) {cpu : Fin n} (hother : Others cpu s s')
    (hmask : ∀ k, s'.mask k cpu = true ↔ some k ∈ (s'.progress cpu).masks)
    (hcount : ∀ k, s'.count k = s.count k + (((s'.progress cpu).counted.count (some k) : Int) -
      (s.progress cpu).counted.count (some k)))
    (hsound : (s'.progress cpu).Sound (s'.lastPrio cpu)) : s'.Inv := by
  refine ⟨fun k c => ?_, fun k => ?_, fun c => ?_⟩
  · by_cases hc : c = cpu
    · rw [hc]
      exact hmask k
    · rw [hother.mask k c hc, hother.progress c hc]
      exact h.mask k c
  · have hrest : ∑ c ∈ univ.erase cpu, ((s'.progress c).counted.count (some k) : Int) =
        ∑ c ∈ univ.erase cpu, ((s.progress c).counted.count (some k) : Int) :=
      sum_congr rfl fun c hc => by rw [hother.progress c (ne_of_mem_erase hc)]
    rw [hcount k, h.count k, ← add_sum_erase univ _ (mem_univ cpu),
      ← add_sum_erase univ (fun c => ((s'.progress c).counted.count (some k) : Int))
        (mem_univ cpu), hrest]
    omega
  · by_cases hc : c = cpu
    · rwa [hc]
    · rw [hother.progress c hc, hother.lastPrio c hc]
      exact h.sound c

/-- What the CPU has got to is in the mask and in the count. -/
lemma Inv.mask_reached (h : s.Inv) {cpu : Fin n} {k : Nat} (hk : (s.progress cpu).reached = some k) :
    s.mask k cpu = true := by
  rw [h.mask, ← hk]
  exact (s.progress cpu).reached_mem_masks

lemma Inv.count_reached (h : s.Inv) {cpu : Fin n} {k : Nat} (hk : (s.progress cpu).reached = some k) :
    s.count k ≠ 0 := by
  have hmem : 0 < (s.progress cpu).counted.count (some k) := by
    rw [count_pos_iff, ← hk]
    exact (s.progress cpu).reached_mem_counted
  have hle : ((s.progress cpu).counted.count (some k) : Int) ≤ ∑ c, ((s.progress c).counted.count (some k) : Int) :=
    single_le_sum (f := fun c => ((s.progress c).counted.count (some k) : Int))
      (fun _ _ => Int.natCast_nonneg _) (mem_univ cpu)
  rw [h.count]
  omega

section Fields

variable (s) (cpu c : Fin n) (k : Nat) (x : Option Setting) (b : Bool) (d : Int) (j : Option Nat)

@[simp] lemma setSetting_progress_self : (s.setSetting cpu x).progress cpu = ⟨s.cpuToPri cpu, x⟩ := by
  simp [progress, setSetting]

lemma setSetting_progress_of_ne (h : c ≠ cpu) : (s.setSetting cpu x).progress c = s.progress c := by
  simp [progress, setSetting, h]

@[simp] lemma setMask_progress : (s.setMask j cpu b).progress = s.progress := by
  cases j <;> rfl

@[simp] lemma setMask_cpuToPri : (s.setMask j cpu b).cpuToPri = s.cpuToPri := by
  cases j <;> rfl

@[simp] lemma setMask_count : (s.setMask j cpu b).count = s.count := by
  cases j <;> rfl

@[simp] lemma setMask_lastPrio : (s.setMask j cpu b).lastPrio = s.lastPrio := by
  cases j <;> rfl

lemma setMask_others : Others cpu s (s.setMask j cpu b) := by
  refine ⟨fun _ _ => by rw [setMask_progress], fun _ _ => by rw [setMask_lastPrio], fun k c h => ?_⟩
  cases j with
  | none => rfl
  | some j =>
    by_cases hk : k = j
    · simp [setMask, hk, h]
    · simp [setMask, hk]

lemma setMask_mask_self : (s.setMask j cpu b).mask k cpu = if j = some k then b else s.mask k cpu := by
  cases j with
  | none => rfl
  | some j =>
    by_cases hk : k = j
    · simp [setMask, hk]
    · simp [setMask, hk, Ne.symm hk]

@[simp] lemma addCount_cpuToPri : (s.addCount j d).cpuToPri = s.cpuToPri := by
  cases j <;> rfl

@[simp] lemma addCount_mask : (s.addCount j d).mask = s.mask := by
  cases j <;> rfl

@[simp] lemma addCount_lastPrio : (s.addCount j d).lastPrio = s.lastPrio := by
  cases j <;> rfl

lemma addCount_others : Others cpu s (s.addCount j d) := by
  cases j <;> exact ⟨fun _ _ => rfl, fun _ _ => rfl, fun _ _ _ => rfl⟩

lemma addCount_count : (s.addCount j d).count k = s.count k + if j = some k then d else 0 := by
  cases j with
  | none => simp [addCount]
  | some j =>
    by_cases hk : k = j
    · simp [addCount, hk]
    · simp [addCount, hk, Ne.symm hk]

end Fields

/-- The last part of an access records where the call has got to. -/
lemma Inv.setSetting (h : s.Inv) {cpu : Fin n} {x : Option Setting} {p : Progress}
    (hprogress : s.progress cpu = p) (hother : Others cpu s s')
    (hmask : ∀ k, s'.mask k cpu = true ↔ some k ∈ (⟨s'.cpuToPri cpu, x⟩ : Progress).masks)
    (hcount : ∀ k, s'.count k = s.count k + (((⟨s'.cpuToPri cpu, x⟩ : Progress).counted.count (some k) : Int) -
      p.counted.count (some k)))
    (hsound : (⟨s'.cpuToPri cpu, x⟩ : Progress).Sound (s'.lastPrio cpu)) : (s'.setSetting cpu x).Inv := by
  refine h.of_cpu ⟨fun c hc => ?_, hother.lastPrio, hother.mask⟩ ?_ ?_ ?_
  · rw [setSetting_progress_of_ne s' cpu c x hc]
    exact hother.progress c hc
  · rwa [setSetting_progress_self]
  · rwa [setSetting_progress_self, hprogress]
  · rwa [setSetting_progress_self]

lemma Inv.startSet (h : s.Inv) {cpu : Fin n} (hidle : s.setting cpu = none) (prio : Int) :
    (s.startSet cpu prio).Inv := by
  have hprogress : s.progress cpu = ⟨s.cpuToPri cpu, none⟩ := by rw [progress, hidle]
  have hmask : ∀ k, s.mask k cpu = true ↔ some k = s.cpuToPri cpu := by
    intro k
    simp [h.mask, hprogress, Progress.masks]
  have hother : Others cpu s { s with lastPrio := update s.lastPrio cpu prio } :=
    ⟨fun _ _ => rfl, fun c hc => update_of_ne hc _ _, fun _ _ _ => rfl⟩
  rw [State.startSet]
  split
  next hsame =>
    refine h.of_cpu hother (h.mask · cpu) (fun k => ?_) ?_
    · exact (Int.add_zero _).symm.trans (congrArg _ (Int.sub_self _).symm)
    · change (s.progress cpu).Sound (update s.lastPrio cpu prio cpu)
      rw [hprogress, update_self]
      exact .of_settled hsame.symm
  next hchange =>
    refine h.setSetting hprogress hother (fun k => ?_) (fun k => ?_) ?_
    · rw [hmask]
      cases hnew : convertPrio prio with
      | none | some j => simp [Progress.masks]
    · cases hnew : convertPrio prio with
      | none => simp [Progress.counted, count_cons]
      | some j => simp [Progress.counted]
    · have hlast : update s.lastPrio cpu prio cpu = prio := update_self _ _ _
      refine .of_setting rfl (congrArg convertPrio hlast).symm (Ne.symm hchange) ?_ ?_
      · cases hnew : convertPrio prio with
        | none => simp
        | some j => simp
      · cases hnew : convertPrio prio with
        | none =>
          rw [hnew] at hchange
          exact fun _ => Ne.symm hchange
        | some j => simp

section Set

variable {cpu : Fin n} {oldpri newpri : Option Nat}

lemma progress_of_setting {c : Setting} (hc : s.setting cpu = some c) : s.progress cpu = ⟨s.cpuToPri cpu, some c⟩ := by
  rw [progress, hc]

lemma Inv.set_setMask (h : s.Inv) (hc : s.setting cpu = some ⟨oldpri, newpri, .setMask⟩) :
    ((s.setMask newpri cpu true).setSetting cpu (some ⟨oldpri, newpri, .incCount⟩)).Inv := by
  have hprogress := progress_of_setting hc
  have hsound := hprogress ▸ h.sound cpu
  refine h.setSetting hprogress (setMask_others ..) (fun k => ?_) (fun k => ?_) ?_
  · rw [setMask_mask_self]
    split
    next hk => simp [Progress.masks, hk]
    next hk => simp [Progress.masks, h.mask, hprogress, Ne.symm hk]
  · simp [Progress.counted]
  · rw [setMask_cpuToPri, setMask_lastPrio]
    exact hsound.goOn (fun _ => hsound.enters _ rfl (.inl rfl)) (by simp)

lemma Inv.set_incCount (h : s.Inv) (hc : s.setting cpu = some ⟨oldpri, newpri, .incCount⟩) :
    ((s.addCount newpri 1).setSetting cpu
      (some ⟨oldpri, newpri, if oldpri ≠ none then .decCount else .store⟩)).Inv := by
  have hprogress := progress_of_setting hc
  have hsound := hprogress ▸ h.sound cpu
  refine h.setSetting hprogress (addCount_others ..) (fun k => ?_) (fun k => ?_) ?_
  · rw [addCount_mask, h.mask, hprogress]
    cases oldpri <;> simp [Progress.masks]
  · rw [addCount_count]
    cases oldpri with
    | none | some j => simp [Progress.counted, count_cons]
  · rw [addCount_cpuToPri, addCount_lastPrio]
    cases oldpri with
    | none | some j => exact hsound.goOn (by simp) (by simp)

lemma Inv.set_decCount (h : s.Inv) (hc : s.setting cpu = some ⟨oldpri, newpri, .decCount⟩) :
    ((s.addCount oldpri (-1)).setSetting cpu (some ⟨oldpri, newpri, .clearMask⟩)).Inv := by
  have hprogress := progress_of_setting hc
  have hsound := hprogress ▸ h.sound cpu
  refine h.setSetting hprogress (addCount_others ..) (fun k => ?_) (fun k => ?_) ?_
  · rw [addCount_mask, h.mask, hprogress]
    simp [Progress.masks]
  · rw [addCount_count]
    simp only [Progress.counted, count_cons, count_nil, beq_iff_eq]
    split
    · push_cast
      omega
    · push_cast
      omega
  · rw [addCount_cpuToPri, addCount_lastPrio]
    exact hsound.goOn (by simp) fun _ => hsound.leaves _ rfl (.inl rfl)

lemma Inv.set_clearMask (h : s.Inv) (hc : s.setting cpu = some ⟨oldpri, newpri, .clearMask⟩) :
    ((s.setMask oldpri cpu false).setSetting cpu (some ⟨oldpri, newpri, .store⟩)).Inv := by
  have hprogress := progress_of_setting hc
  have hsound := hprogress ▸ h.sound cpu
  refine h.setSetting hprogress (setMask_others ..) (fun k => ?_) (fun k => ?_) ?_
  · rw [setMask_mask_self]
    split
    next hk =>
      have hne : newpri ≠ some k := fun hnew => hsound.change _ rfl (hk.trans hnew.symm)
      simp [Progress.masks, Ne.symm hne]
    next hk => simp [Progress.masks, h.mask, hprogress, Ne.symm hk]
  · simp [Progress.counted]
  · rw [setMask_cpuToPri, setMask_lastPrio]
    exact hsound.goOn (by simp) (by simp)

lemma Inv.set_store (h : s.Inv) (hc : s.setting cpu = some ⟨oldpri, newpri, .store⟩) :
    (State.setSetting { s with cpuToPri := update s.cpuToPri cpu newpri } cpu none).Inv := by
  have hprogress := progress_of_setting hc
  have hsound := hprogress ▸ h.sound cpu
  refine h.setSetting hprogress ⟨fun c hne => ?_, fun _ _ => rfl, fun _ _ _ => rfl⟩ (fun k => ?_) (fun k => ?_) ?_
  · simp [progress, hne]
  · simp [Progress.masks, h.mask, hprogress]
  · simp [Progress.counted]
  · have hstored : update s.cpuToPri cpu newpri cpu = newpri := update_self _ _ _
    exact .of_settled (hstored.trans (hsound.newpri _ rfl))

end Set

lemma Inv.set (h : s.Inv) (cpu : Fin n) : (s.set cpu).Inv := by
  rw [State.set]
  cases hc : s.setting cpu with
  | none => exact h
  | some c =>
    obtain ⟨oldpri, newpri, pc⟩ := c
    cases pc with
    | setMask => exact h.set_setMask hc
    | incCount => exact h.set_incCount hc
    | decCount => exact h.set_decCount hc
    | clearMask => exact h.set_clearMask hc
    | store => exact h.set_store hc

lemma Inv.setScan (h : s.Inv) (scan : Scan n) : Inv { s with scan := scan } := ⟨h.mask, h.count, h.sound⟩

lemma Inv.step {q : Query n} {op : Op n} (h : s.Inv) (hop : op.Allowed s) : (s.step q op).Inv := by
  cases op with
  | startSet cpu prio => exact h.startSet (Option.isNone_iff_eq_none.mp hop.1) prio
  | set cpu => exact h.set cpu
  | startFind | find => exact h.setScan _

/-- Between updates a CPU is in the mask of the class it was last set to and in no other,
and the counts are the sizes of the masks. -/
def Consistent (s : State n) : Prop :=
  (∀ cpu, s.setting cpu = none) → (∀ k cpu, s.mask k cpu = true ↔ convertPrio (s.lastPrio cpu) = some k) ∧
      ∀ k, s.count k = #{cpu | s.mask k cpu = true}

lemma Inv.consistent (h : s.Inv) : s.Consistent := by
  intro hidle
  have hprogress : ∀ cpu, s.progress cpu = ⟨convertPrio (s.lastPrio cpu), none⟩ := by
    intro cpu
    have hsettled := (h.sound cpu).settled (hidle cpu)
    rw [progress, hidle cpu]
    exact congrArg (Progress.mk · none) hsettled
  have hmask : ∀ k cpu, s.mask k cpu = true ↔ convertPrio (s.lastPrio cpu) = some k := by
    intro k cpu
    simp [h.mask, hprogress, Progress.masks, eq_comm]
  refine ⟨hmask, fun k => ?_⟩
  rw [h.count, card_filter]
  push_cast
  refine sum_congr rfl fun cpu _ => ?_
  simp [hmask, hprogress, Progress.counted, count_cons]

end State

/-! ### The search -/

namespace Scan

variable {q : Query n} {count : Nat → Int} {mask : Nat → Fin n → Bool} {scan : Scan n} {cpu : Fin n} {k : Nat}

/-- The mask that is filled in has allowed CPUs only, and at least one when the search
succeeds. -/
def Filled (q : Query n) : Scan n → Prop
  | .copy _ _ lowest => q.lowestMask = true ∧ ∀ cpu ∈ lowest, q.cpusAllowed cpu = true
  | .done true lowest => q.lowestMask = true → lowest ≠ [] ∧ ∀ cpu ∈ lowest, q.cpusAllowed cpu = true
  | _ => True

lemma Filled.next (h : scan.Filled q) : (scan.next q count mask).Filled q := by
  cases scan with
  | idle => trivial
  | head idx =>
    rw [next]
    split
    · split <;> trivial
    · trivial
  | anyAnd idx left =>
    cases left with
    | nil => trivial
    | cons cpu left =>
      rw [next]
      split
      · split
        next hmask => exact ⟨hmask, fun _ hmem => nomatch hmem⟩
        next hmask => exact fun h => absurd h hmask
      · trivial
  | copy idx left lowest =>
    cases left with
    | nil =>
      rw [next]
      split
      · trivial
      next hsome => exact fun _ => ⟨hsome, h.2⟩
    | cons cpu left =>
      refine ⟨h.1, ?_⟩
      split
      next hfound =>
        rw [Bool.and_eq_true] at hfound
        exact forall_mem_cons.mpr ⟨hfound.1, h.2⟩
      · exact h.2
  | done found lowest => exact h

/-- The search has not passed a CPU of class `k`. -/
def Ahead (cpu : Fin n) (k : Nat) : Scan n → Prop
  | .idle => True
  | .head idx => idx ≤ k
  | .anyAnd idx left => idx ≤ k ∧ (idx = k → cpu ∈ left)
  | .copy idx left lowest => idx ≤ k ∧ (idx = k → cpu ∈ left ∨ cpu ∈ lowest)
  | .done found _ => found = true

/-- The CPU may rise meanwhile. -/
lemma Ahead.mono (h : scan.Ahead cpu k) {k' : Nat} (hle : k ≤ k') : scan.Ahead cpu k' := by
  cases scan with
  | idle => trivial
  | head idx => exact Nat.le_trans h hle
  | anyAnd idx left | copy idx left lowest =>
    exact ⟨Nat.le_trans h.1 hle, fun heq => h.2 (Nat.le_antisymm h.1 (heq ▸ hle))⟩
  | done found lowest => exact h

/-- What is read at the class of the CPU shows the CPU, so the search ends there or the
CPU is further up. -/
lemma Ahead.next (h : scan.Ahead cpu k) (hallowed : q.cpusAllowed cpu = true) (hbelow : k < q.taskPri)
    (hcount : count k ≠ 0) (hmask : mask k cpu = true) : (scan.next q count mask).Ahead cpu k := by
  cases scan with
  | idle => trivial
  | head idx =>
    have h : idx ≤ k := h
    rw [next]
    split
    next hlt =>
      split
      next hzero =>
        refine Nat.lt_of_le_of_ne h ?_
        rintro rfl
        exact hcount hzero
      next => exact ⟨h, fun _ => mem_finRange cpu⟩
    next hge => exact absurd (Nat.lt_of_le_of_lt h hbelow) hge
  | anyAnd idx left =>
    cases left with
    | nil => exact Nat.lt_of_le_of_ne h.1 fun heq => nomatch h.2 heq
    | cons c left =>
      rw [next]
      split
      next hfound =>
        split
        · exact ⟨h.1, fun _ => .inl (mem_finRange cpu)⟩
        · rfl
      next hnot =>
        refine ⟨h.1, fun heq => ?_⟩
        rcases mem_cons.mp (h.2 heq) with rfl | hmem
        · rw [heq, hallowed, hmask] at hnot
          exact absurd rfl hnot
        · exact hmem
  | copy idx left lowest =>
    cases left with
    | nil =>
      rw [next]
      split
      next hnone =>
        refine Nat.lt_of_le_of_ne h.1 fun heq => ?_
        rw [hnone] at h
        exact (h.2 heq).elim (fun hmem => nomatch hmem) fun hmem => nomatch hmem
      next => rfl
    | cons c left =>
      refine ⟨h.1, fun heq => ?_⟩
      rcases h.2 heq with hmem | hmem
      · rcases mem_cons.mp hmem with rfl | hmem
        · right
          rw [heq, hallowed, hmask]
          exact mem_cons_self
        · exact .inl hmem
      · right
        split
        · exact mem_cons_of_mem c hmem
        · exact hmem
  | done found lowest => exact h

/-- A bound on the accesses that are left. -/
def fuel (q : Query n) : Scan n → Nat
  | .idle => 0
  | .head idx => (q.taskPri - idx) * (2 * n + 3) + 1
  | .anyAnd idx left => (q.taskPri - (idx + 1)) * (2 * n + 3) + n + 3 + left.length
  | .copy idx left _ => (q.taskPri - (idx + 1)) * (2 * n + 3) + 2 + left.length
  | .done _ _ => 0

lemma fuel_next (count : Nat → Int) (mask : Nat → Fin n → Bool) (scan : Scan n) :
    (scan.next q count mask).fuel q ≤ scan.fuel q - 1 := by
  cases scan with
  | idle | done found lowest => exact Nat.le_refl 0
  | head idx =>
    rw [next]
    split
    next hlt =>
      have hsucc : (q.taskPri - idx) * (2 * n + 3) = (q.taskPri - (idx + 1)) * (2 * n + 3) + (2 * n + 3) := by
        rw [← Nat.succ_mul]
        congr 1
        omega
      split
      · simp only [fuel, hsucc]
        omega
      · simp only [fuel, hsucc, length_finRange]
        omega
    next => exact Nat.zero_le _
  | anyAnd idx left =>
    cases left with
    | nil =>
      simp only [next, fuel, length_nil]
      omega
    | cons c left =>
      rw [next]
      split
      · split
        · simp only [fuel, length_finRange, length_cons]
          omega
        · exact Nat.zero_le _
      · simp only [fuel, length_cons]
        omega
  | copy idx left lowest =>
    cases left with
    | nil =>
      rw [next]
      split
      · simp only [fuel, length_nil]
        omega
      · exact Nat.zero_le _
    | cons c left =>
      simp only [next, fuel, length_cons]
      omega

/-- A search in progress with no access left has returned. -/
lemma eq_done_of_fuel (hstarted : scan ≠ .idle) (hzero : scan.fuel q = 0) :
    ∃ found lowest, scan = .done found lowest := by
  cases scan with
  | idle => exact absurd rfl hstarted
  | head idx => exact absurd hzero (Nat.succ_ne_zero _)
  | anyAnd idx left | copy idx left lowest =>
    simp only [fuel] at hzero
    omega
  | done found lowest => exact ⟨found, lowest, rfl⟩

lemma next_ne_idle (hstarted : scan ≠ .idle) : scan.next q count mask ≠ .idle := by
  cases scan with
  | idle => exact absurd rfl hstarted
  | head idx =>
    rw [next]
    split
    · split <;> exact nofun
    · exact nofun
  | anyAnd idx left =>
    cases left with
    | nil => exact nofun
    | cons c left =>
      rw [next]
      split
      · split <;> exact nofun
      · exact nofun
  | copy idx left lowest =>
    cases left with
    | nil =>
      rw [next]
      split <;> exact nofun
    | cons c left => exact nofun
  | done found lowest => exact hstarted

end Scan

/-- The most accesses a search makes. -/
def Query.accesses (q : Query n) : Nat := q.taskPri * (2 * n + 3) + 1

namespace State

variable {q : Query n} {s : State n} {op : Op n} {cpu : Fin n}

lemma startSet_scan (s : State n) (cpu : Fin n) (prio : Int) : (s.startSet cpu prio).scan = s.scan := by
  rw [startSet]
  split <;> rfl

lemma set_scan (s : State n) (cpu : Fin n) : (s.set cpu).scan = s.scan := by
  rw [set]
  cases s.setting cpu with
  | none => rfl
  | some c =>
    obtain ⟨oldpri, newpri, pc⟩ := c
    cases pc with
    | setMask | incCount => cases newpri <;> rfl
    | decCount | clearMask => cases oldpri <;> rfl
    | store => rfl

lemma filled_step (h : s.scan.Filled q) : (s.step q op).scan.Filled q := by
  cases op with
  | startSet cpu prio => exact (startSet_scan s cpu prio).symm ▸ h
  | set cpu => exact (set_scan s cpu).symm ▸ h
  | startFind => trivial
  | find => exact h.next

/-- Only the search itself moves a search that has begun. -/
lemma step_scan (hop : op.Allowed s) (hstarted : s.scan ≠ .idle) :
    (s.step q op).scan = if op = .find then s.scan.next q s.count s.mask else s.scan := by
  cases op with
  | startSet cpu prio => exact startSet_scan s cpu prio
  | set cpu => exact set_scan s cpu
  | startFind => exact absurd hop hstarted
  | find => rfl

lemma step_scan_ne_idle (hop : op.Allowed s) (hstarted : s.scan ≠ .idle) : (s.step q op).scan ≠ .idle := by
  rw [step_scan hop hstarted]
  split
  · exact Scan.next_ne_idle hstarted
  · exact hstarted

/-- The CPU is at a class below the task's. -/
def Below (q : Query n) (cpu : Fin n) (s : State n) : Prop := ∃ k ∈ (s.progress cpu).reached, k < q.taskPri

/-- The step moves the CPU up if it moves it at all. -/
def Rises (q : Query n) (cpu : Fin n) (s : State n) (op : Op n) : Prop :=
  ∀ k ∈ (s.progress cpu).reached, ∀ k' ∈ ((s.step q op).progress cpu).reached, k ≤ k'

/-- The search is in progress or over, and has not passed the CPU. -/
structure Searching (cpu : Fin n) (s : State n) : Prop where
  inv : s.Inv
  started : s.scan ≠ .idle
  ahead : ∀ k ∈ (s.progress cpu).reached, s.scan.Ahead cpu k

lemma Searching.step (h : s.Searching cpu) (hallowed : q.cpusAllowed cpu = true) (hop : op.Allowed s)
    (hbelow : s.Below q cpu) (hrises : s.Rises q cpu op) : (s.step q op).Searching cpu := by
  refine ⟨h.inv.step hop, step_scan_ne_idle hop h.started, fun k' hk' => ?_⟩
  obtain ⟨k, hk, hlt⟩ := hbelow
  refine Scan.Ahead.mono ?_ (hrises k hk k' hk')
  rw [step_scan hop h.started]
  split
  · exact (h.ahead k hk).next hallowed hlt (h.inv.count_reached hk) (h.inv.mask_reached hk)
  · exact h.ahead k hk

/-- Every access of the search uses up one of those it has left. -/
lemma fuel_run {ops : List (Op n)} (hstarted : s.scan ≠ .idle)
    (hrun : Run.Each (step q) (fun s op => op.Allowed s) s ops) :
    (ops.foldl (step q) s).scan.fuel q ≤ s.scan.fuel q - ops.count .find ∧ (ops.foldl (step q) s).scan ≠ .idle := by
  induction ops generalizing s with
  | nil => exact ⟨Nat.le_refl _, hstarted⟩
  | cons op rest ih =>
    obtain ⟨hle, hne⟩ := ih (step_scan_ne_idle hrun.1 hstarted) hrun.2
    refine ⟨Nat.le_trans hle ?_, hne⟩
    rw [step_scan hrun.1 hstarted, count_cons]
    split
    next hfind =>
      have hnext := Scan.fuel_next (q := q) s.count s.mask s.scan
      simp only [hfind, beq_self_eq_true, ite_true]
      omega
    next hother =>
      simp only [beq_iff_eq, hother, ite_false]
      exact Nat.le_refl _

/-- Every CPU is always accounted for in the class it was last set to. A search fills its
mask with allowed CPUs, with one at least when it succeeds; if an allowed CPU stays below
the task's class and moves only up, the search succeeds, within a fixed number of
accesses. -/
theorem consistent_and_found (q : Query n) (ops : List (Op n))
    (hrun : Run.Each (step q) (fun s op => op.Allowed s) {} ops) :
    Run.Always (step q) (fun s => s.Consistent ∧ s.scan.Filled q) {} ops ∧ ∀ before during,
    ops = before ++ .startFind :: during → ∀ cpu, q.cpusAllowed cpu = true →
    Run.Always (step q) (Below q cpu) ((before.foldl (step q) {}).step q .startFind) during →
    Run.Each (step q) (Rises q cpu) ((before.foldl (step q) {}).step q .startFind) during →
    (∀ found lowest, (ops.foldl (step q) {}).scan = .done found lowest → found = true) ∧
    (q.accesses ≤ during.count .find → ∃ lowest, (ops.foldl (step q) {}).scan = .done true lowest) := by
  have hinit : State.Inv ({} : State n) := by
    refine ⟨fun k cpu => ?_, fun k => ?_, fun cpu => .of_settled rfl⟩
    · simp [progress, Progress.masks]
    · simp [progress, Progress.counted]
  have hinv : ∀ (s : State n) (ops : List (Op n)), s.Inv →
      Run.Each (step q) (fun s op => op.Allowed s) s ops → Run.Always (step q) Inv s ops :=
    fun s ops hs hrun => Run.always_of_each (fun _ _ ht hop => ht.step hop) hs hrun
  have hfilled : Run.Always (step q) (fun s => s.scan.Filled q) ({} : State n) ops :=
    Run.always_of_step (fun _ _ ht => filled_step ht) trivial
  refine ⟨((hinv _ _ hinit hrun).mono fun _ ht => ht.consistent).and hfilled, ?_⟩
  rintro before during rfl cpu hallowed hbelow hrises
  obtain ⟨hbefore, hstart, hduring⟩ := Run.each_append.mp hrun
  rw [foldl_append, foldl_cons]
  generalize hs : before.foldl (step q) ({} : State n) = s at *
  have hstarted : (s.step q .startFind).scan ≠ .idle := nofun
  have hsearching : Run.Always (step q) (Searching cpu) (s.step q .startFind) during := by
    have hs : s.Inv := hs ▸ (hinv _ _ hinit hbefore).last
    refine Run.always_of_each (C := fun t op => op.Allowed t ∧ t.Below q cpu ∧ t.Rises q cpu op)
      (fun t op ht hop => ht.step hallowed hop.1 hop.2.1 hop.2.2)
      ⟨hs.step hstart, hstarted, fun k _ => Nat.zero_le k⟩ ?_
    exact hbelow.each_of_each (hduring.and hrises) fun _ _ hb hop => ⟨hop.1, hb, hop.2⟩
  have hfound : ∀ found lowest, (during.foldl (step q) (s.step q .startFind)).scan = .done found lowest →
      found = true := by
    intro found lowest hdone
    obtain ⟨k, hk, -⟩ := hbelow.last
    have hahead := hsearching.last.ahead k hk
    rwa [hdone] at hahead
  refine ⟨hfound, fun henough => ?_⟩
  obtain ⟨hfuel, hne⟩ := fuel_run hstarted hduring
  have hzero : (s.step q .startFind).scan.fuel q = q.accesses := rfl
  obtain ⟨found, lowest, hdone⟩ := Scan.eq_done_of_fuel (q := q) hne (by omega)
  exact ⟨lowest, hfound found lowest hdone ▸ hdone⟩

section Raised

def raisedQuery : Query 2 := ⟨fun cpu => cpu = 0, 97, true⟩

/-- The first CPU is set to idle. -/
def raisedBefore : List (Op 2) := [.startSet 0 140, .set 0, .set 0, .set 0]

/-- After the search has read the count of its class the CPU goes up by two. -/
def raisedDuring : List (Op 2) :=
  [.find, .startSet 0 99, .set 0, .set 0, .set 0, .set 0, .set 0] ++ replicate 28 .find

lemma raised_allowed : Run.Each (step raisedQuery) (fun s op => op.Allowed s) {}
    (raisedBefore ++ .startFind :: raisedDuring) := by
  decide +kernel

theorem consistent_and_found_raised : ∃ lowest,
    ((raisedBefore ++ .startFind :: raisedDuring).foldl (step raisedQuery) {}).scan = .done true lowest :=
  ((consistent_and_found raisedQuery _ raised_allowed).2 raisedBefore raisedDuring rfl 0 rfl
    (by unfold Below; decide +kernel) (by unfold Rises; decide +kernel)).2 (by decide +kernel)

end Raised

end State

end BigLittle.Cpupri
