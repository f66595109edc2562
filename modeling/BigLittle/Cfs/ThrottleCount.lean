import BigLittle.Cfs.Weights
import BigLittle.Lib.Count

/-!
# Throttled subtrees and their clocks

`throttle_count` of a queue should be the number of throttled queues among itself and
those above it, and its clock should stand while that is not 0. Throttling and
unthrottling walk the subtree of a group; everything else leaves the flags, the counts
and the clocks alone, except that it may throttle more queues.

A group can be created at any time, with zeroed queues. The tree here holds all groups
that ever exist; the walks also pass over those that do not exist yet, whose creation
clears what they did.
-/

namespace BigLittle.Cfs

variable {T G C : Type*} {s t : State T G C} {cfg : Config G C}

/-- A group and those above it, the root included. -/
def Hierarchy.lineage (h : Hierarchy G) (tg : Option G) : List (Option G) :=
  (h.path tg).map some ++ [none]

namespace Hierarchy

variable (h : Hierarchy G) (tg : Option G)

lemma path_nodup : (h.path tg).Nodup := by
  induction tg using h.upInduction with
  | root => exact List.nodup_nil
  | group g ih =>
    rw [path_some, List.nodup_cons]
    refine ⟨fun hmem => h.not_mem_ancestors_self (h.parent g) ?_, ih⟩
    exact List.mem_map_of_mem hmem

lemma lineage_nodup : (h.lineage tg).Nodup := by
  refine List.nodup_append.mpr ⟨(h.path_nodup tg).map (Option.some_injective _), List.nodup_singleton _, ?_⟩
  rintro a ha b hb rfl
  obtain ⟨g, -, rfl⟩ := List.mem_map.mp ha
  cases List.mem_singleton.mp hb

lemma some_mem_lineage {g : G} {tg : Option G} : some g ∈ h.lineage tg ↔ g ∈ h.path tg := by
  simp [lineage]

lemma lineage_some (g : G) : h.lineage (some g) = some g :: h.lineage (h.parent g) := by
  rw [lineage, path_some, List.map_cons, List.cons_append, lineage]

lemma none_mem_lineage : none ∈ h.lineage tg := by
  simp [lineage]

end Hierarchy

lemma gates_of_bare (h : t.bare = s.bare) : t.gates = s.gates :=
  (congrArg State.gates h : t.bare.gates = s.bare.gates)

namespace Gates

variable (cfg) (g : Gates G C) (r : QueueId G C)

/-- How many of the queue and those above it are throttled. -/
def closed : Nat := (cfg.lineage r.tg).countP fun a => (g.gate ⟨a, r.cpu⟩).throttled

/-- `cfs_rq_clock_task` -/
def reported : Nat :=
  if (g.gate r).throttleCount ≠ 0 then (g.gate r).throttledClockTask
  else Word.sub 64 (g.clockTask r.cpu) (g.gate r).throttledClockTaskTime

/-- The counts of the groups that exist are right. -/
def Counts (live : Option G → Prop) : Prop :=
  ∀ r, live r.tg → (g.gate r).throttleCount = g.closed cfg r

/-- Besides, no clock is ahead of that of its CPU. -/
structure Right (live : Option G → Prop) : Prop where
  count : g.Counts cfg live
  clock : ∀ cpu, g.clockTask cpu < 2 ^ 64
  frozen : ∀ r, live r.tg → (g.gate r).throttleCount ≠ 0 →
    (g.gate r).throttledClockTask ≤ g.clockTask r.cpu
  lost : ∀ r, live r.tg → (g.gate r).throttledClockTaskTime ≤ g.clockTask r.cpu

/-- A change that keeps the gates right, in which no clock of an existing group goes
back. -/
def Advances (live : Option G → Prop) (g g' : Gates G C) : Prop :=
  g.Right cfg live → g'.Right cfg live ∧ ∀ r, live r.tg → g.reported r ≤ g'.reported r

variable {cfg g r} {live : Option G → Prop} {g' g'' : Gates G C}

lemma Advances.refl : Advances cfg live g g := fun hg => ⟨hg, fun _ _ => Nat.le_refl _⟩

lemma Advances.trans (h : Advances cfg live g g') (h' : Advances cfg live g' g'') : Advances cfg live g g'' := by
  intro hg
  obtain ⟨hg', hclock⟩ := h hg
  obtain ⟨hg'', hclock'⟩ := h' hg'
  exact ⟨hg'', fun r hr => (hclock r hr).trans (hclock' r hr)⟩

lemma reported_eq (hg : g.Right cfg live) (hr : live r.tg) : g.reported r = if g.closed cfg r =
    0 then g.clockTask r.cpu - (g.gate r).throttledClockTaskTime else (g.gate r).throttledClockTask := by
  rw [reported, hg.count r hr]
  by_cases hclosed : g.closed cfg r = 0
  · rw [hclosed, if_neg (by simp), if_pos rfl, Word.sub_of_le (hg.lost r hr) (hg.clock r.cpu)]
  · rw [if_pos (by exact_mod_cast hclosed), if_neg hclosed]

end Gates

/-- The fair class, and which groups exist so far. -/
structure GroupTree (T G C : Type*) where
  state : State T G C
  created : G → Bool

namespace GroupTree

variable (cfg) (x : GroupTree T G C)

/-- The root exists. -/
def Exists (tg : Option G) : Prop := ∀ g ∈ tg, x.created g = true

instance (tg : Option G) : Decidable (x.Exists tg) :=
  match tg with
  | none => isTrue nofun
  | some g => decidable_of_iff (x.created g = true) (by simp [Exists])

/-- `throttle_count` is the number of throttled queues among the queue and those above,
for the groups that exist. -/
def CountsRight : Prop :=
  ∀ q : QueueId G C, x.Exists q.tg → (x.state.cfs q).throttleCount =
        ((cfg.lineage q.tg).countP fun a => (x.state.cfs ⟨a, q.cpu⟩).throttled : Nat) ∧
      0 ≤ (x.state.cfs q).throttleCount

/-- The gates of the existing groups are right, and the parent of an existing group
exists. -/
structure Inv : Prop where
  right : x.state.gates.Right cfg x.Exists
  parent : ∀ g, x.created g = true → x.Exists (cfg.parent g)

variable {cfg x}

lemma Inv.exists_of_mem (hx : x.Inv cfg) {tg : Option G} (htg : x.Exists tg) :
    ∀ a ∈ cfg.lineage tg, x.Exists a := by
  induction tg using cfg.upInduction with
  | root =>
    intro a ha
    rwa [List.mem_singleton.mp ha]
  | group g ih =>
    intro a ha
    rw [Hierarchy.lineage_some, List.mem_cons] at ha
    obtain rfl | ha := ha
    · exact htg
    · exact ih (hx.parent g (htg g rfl)) a ha

lemma Inv.countsRight (hx : x.Inv cfg) : x.CountsRight cfg := by
  intro q hq
  have hcount := hx.right.count q hq
  exact ⟨hcount, (Int.natCast_nonneg _).trans_eq hcount.symm⟩

/-- The machine at boot, with the root group only. -/
def boot (start : Start T G C) : GroupTree T G C where
  state := .boot start
  created := fun _ => false

lemma boot_inv (start : Start T G C) : (boot start).Inv cfg := by
  refine ⟨⟨fun q _ => ?_, fun _ => Nat.two_pow_pos 64, fun _ _ _ => Nat.le_refl _,
    fun _ _ => Nat.le_refl _⟩, fun _ => nofun⟩
  have hclosed : (boot start).state.gates.closed cfg q = 0 :=
    List.countP_eq_zero.mpr fun _ _ => Bool.false_ne_true
  rw [hclosed]
  rfl

end GroupTree

variable [DecidableEq G] [DecidableEq C]

lemma below_iff {q r : QueueId G C} :
    State.below cfg q r = true ↔ r.cpu = q.cpu ∧ q.tg ∈ cfg.lineage r.tg := by
  obtain ⟨tg, cpu⟩ := q
  rw [State.below, Bool.and_eq_true, decide_eq_true_iff]
  refine and_congr_right fun _ => ?_
  cases tg with
  | none => exact iff_of_true rfl (cfg.none_mem_lineage _)
  | some g => exact decide_eq_true_iff.trans cfg.some_mem_lineage.symm

namespace Gates

variable (cfg) (g : Gates G C) (q : QueueId G C)

/-- The walk over the queues below `q`, and the flag. -/
def throttle : Gates G C where
  gate r :=
    let c := g.gate r
    { throttled := if r = q then true else c.throttled
      throttleCount := if State.below cfg q r then c.throttleCount + 1 else c.throttleCount
      throttledClockTask :=
        if State.below cfg q r = true ∧ c.throttleCount = 0 then g.clockTask r.cpu
        else c.throttledClockTask
      throttledClockTaskTime := c.throttledClockTaskTime }
  clockTask := g.clockTask

def unthrottle : Gates G C where
  gate r :=
    let c := g.gate r
    { throttled := if r = q then false else c.throttled
      throttleCount := if State.below cfg q r then c.throttleCount - 1 else c.throttleCount
      throttledClockTask := c.throttledClockTask
      throttledClockTaskTime :=
        if State.below cfg q r = true ∧ c.throttleCount - 1 = 0 then
          Word.add 64 c.throttledClockTaskTime (Word.sub 64 (g.clockTask r.cpu) c.throttledClockTask)
        else c.throttledClockTaskTime }
  clockTask := g.clockTask

def setThrottled (throttled : Bool) : Gates G C :=
  { g with gate := fun r =>
      { g.gate r with throttled := if r = q then throttled else (g.gate r).throttled } }

def setClock (cpu : C) (clockTask : Nat) : Gates G C :=
  { g with clockTask := Function.update g.clockTask cpu clockTask }

variable {cfg g q} {live : Option G → Prop} {g' : Gates G C}

/-- One more queue is throttled. -/
lemma closed_of_one_more (hq : (g.gate q).throttled = false) (hq' : (g'.gate q).throttled = true)
    (hne : ∀ r, r ≠ q → (g'.gate r).throttled = (g.gate r).throttled) (r : QueueId G C) :
    g'.closed cfg r = g.closed cfg r + if State.below cfg q r then 1 else 0 := by
  by_cases hbelow : State.below cfg q r = true
  · obtain ⟨hcpu, hmem⟩ := below_iff.mp hbelow
    have hself : (⟨q.tg, r.cpu⟩ : QueueId G C) = q := by rw [hcpu]
    rw [if_pos hbelow]
    refine Count.countP_of_one_more (cfg.lineage_nodup r.tg) hmem ?_ ?_ fun a ha => ?_
    · rw [hself, hq]
    · rw [hself, hq']
    · exact hne ⟨a, r.cpu⟩ fun heq => ha (congrArg QueueId.tg heq)
  · rw [if_neg hbelow, Nat.add_zero]
    refine List.countP_congr fun a ha => ?_
    have hother : (⟨a, r.cpu⟩ : QueueId G C) ≠ q := by
      rintro rfl
      exact hbelow (below_iff.mpr ⟨rfl, ha⟩)
    rw [hne _ hother]

lemma closed_throttle (cfg : Config G C) (hq : (g.gate q).throttled = false) (r : QueueId G C) :
    (g.throttle cfg q).closed cfg r = g.closed cfg r + if State.below cfg q r then 1 else 0 :=
  closed_of_one_more hq (if_pos rfl) (fun _ hr => if_neg hr) r

lemma closed_unthrottle (cfg : Config G C) (hq : (g.gate q).throttled = true) (r : QueueId G C) :
    g.closed cfg r = (g.unthrottle cfg q).closed cfg r + if State.below cfg q r then 1 else 0 :=
  closed_of_one_more (if_pos rfl) hq (fun _ hr => (if_neg hr).symm) r

lemma Counts.throttle (hg : g.Counts cfg live) (hq : (g.gate q).throttled = false) :
    (g.throttle cfg q).Counts cfg live := by
  intro r hr
  have hcount := hg r hr
  rw [closed_throttle cfg hq]
  dsimp only [Gates.throttle]
  split <;> simp [hcount]

lemma Counts.unthrottle (hg : g.Counts cfg live) (hq : (g.gate q).throttled = true) :
    (g.unthrottle cfg q).Counts cfg live := by
  intro r hr
  have hcount := hg r hr
  rw [closed_unthrottle cfg hq] at hcount
  dsimp only [Gates.unthrottle] at hcount ⊢
  split <;> simp_all

/-- `throttle_cfs_rq` for a queue that is not throttled. -/
lemma advances_throttle (hq : (g.gate q).throttled = false) : Advances cfg live g (g.throttle cfg q) := by
  intro hg
  have hclosed := closed_throttle cfg hq
  have hright : (g.throttle cfg q).Right cfg live := by
    refine ⟨hg.count.throttle hq, hg.clock, fun r hr hne => ?_, fun r hr => hg.lost r hr⟩
    · have hfrozen := hg.frozen r hr
      dsimp only [throttle] at hne ⊢
      split
      · exact Nat.le_refl _
      next hnot =>
        refine hfrozen fun hzero => ?_
        by_cases hbelow : State.below cfg q r = true
        · exact hnot ⟨hbelow, hzero⟩
        · rw [if_neg hbelow] at hne
          exact hne hzero
  refine ⟨hright, fun r hr => ?_⟩
  have hcount := hg.count r hr
  rw [reported_eq hg hr, reported_eq hright hr, hclosed]
  dsimp only [throttle]
  by_cases hbelow : State.below cfg q r = true
  · by_cases hzero : g.closed cfg r = 0
    · simp [hbelow, hzero, hcount]
    · simp [hbelow, hzero, hcount]
  · simp [hbelow]

/-- `unthrottle_cfs_rq` up to its loop. A clock that starts again goes on from where it
stopped only if it had not lost time before. -/
lemma advances_unthrottle (hq : (g.gate q).throttled = true)
    (hfresh : ∀ r, live r.tg → State.below cfg q r = true → (g.gate r).throttleCount = 1 →
      (g.gate r).throttledClockTaskTime = 0) : Advances cfg live g (g.unthrottle cfg q) := by
  intro hg
  have hclosed := closed_unthrottle cfg hq
  have hcount : (g.unthrottle cfg q).Counts cfg live := hg.count.unthrottle hq
  -- a clock that starts again has lost the time it stood
  have hstarts : ∀ r, live r.tg → State.below cfg q r = true → (g.unthrottle cfg q).closed cfg r = 0 →
      ((g.unthrottle cfg q).gate r).throttledClockTaskTime = g.clockTask r.cpu - (g.gate r).throttledClockTask ∧
      (g.gate r).throttledClockTask ≤ g.clockTask r.cpu := by
    intro r hr hbelow hzero
    have hone : (g.gate r).throttleCount = 1 := by
      rw [hg.count r hr, hclosed, hzero, if_pos hbelow]
      rfl
    have hle := hg.frozen r hr (by rw [hone]; decide)
    have hclock := hg.clock r.cpu
    refine ⟨?_, hle⟩
    dsimp only [unthrottle]
    rw [if_pos ⟨hbelow, by rw [hone]; rfl⟩, hfresh r hr hbelow hone, Word.sub_of_le hle hclock,
      Word.add_of_lt (by omega), Nat.zero_add]
  have hothers : ∀ r, live r.tg → ¬ (State.below cfg q r = true ∧ (g.unthrottle cfg q).closed cfg r = 0) →
      ((g.unthrottle cfg q).gate r).throttledClockTaskTime = (g.gate r).throttledClockTaskTime := by
    intro r hr hnot
    refine if_neg fun hzero => hnot ⟨hzero.1, ?_⟩
    have hafter := hcount r hr
    dsimp only [unthrottle] at hafter
    rw [if_pos hzero.1, hzero.2] at hafter
    exact_mod_cast hafter.symm
  have hright : (g.unthrottle cfg q).Right cfg live := by
    refine ⟨hcount, hg.clock, fun r hr hne => ?_, fun r hr => ?_⟩
    · refine hg.frozen r hr fun hzero => hne ?_
      have hbefore := hg.count r hr
      rw [hzero, hclosed] at hbefore
      rw [hcount r hr]
      omega
    · by_cases hzero : State.below cfg q r = true ∧ (g.unthrottle cfg q).closed cfg r = 0
      · rw [(hstarts r hr hzero.1 hzero.2).1]
        exact Nat.sub_le _ _
      · rw [hothers r hr hzero]
        exact hg.lost r hr
  refine ⟨hright, fun r hr => ?_⟩
  have hclock : (g.unthrottle cfg q).clockTask r.cpu = g.clockTask r.cpu := rfl
  have hstood : ((g.unthrottle cfg q).gate r).throttledClockTask = (g.gate r).throttledClockTask := rfl
  rw [reported_eq hg hr, reported_eq hright hr, hclosed, hclock, hstood]
  by_cases hbelow : State.below cfg q r = true
  · rw [if_neg (by simp [hbelow])]
    split
    next hzero =>
      obtain ⟨htime, hle⟩ := hstarts r hr hbelow hzero
      rw [htime]
      omega
    next => exact Nat.le_refl _
  · rw [hothers r hr fun h => hbelow h.1]
    simp [hbelow]

/-- More queues are throttled, one after the other. -/
def Throttles (cfg : Config G C) : Gates G C → Gates G C → Prop :=
  Relation.ReflTransGen fun g g' => ∃ q, (g.gate q).throttled = false ∧ g' = g.throttle cfg q

lemma Throttles.counts (h : Throttles cfg g g') (hg : g.Counts cfg live) : g'.Counts cfg live := by
  induction h with
  | refl => exact hg
  | tail _ hstep ih =>
    obtain ⟨q, hq, rfl⟩ := hstep
    exact ih.throttle hq

lemma Throttles.advances (h : Throttles cfg g g') : Advances cfg live g g' := by
  induction h with
  | refl => exact .refl
  | tail _ hstep ih =>
    obtain ⟨q, hq, rfl⟩ := hstep
    exact ih.trans (advances_throttle hq)

omit [DecidableEq G] in
/-- `update_rq_clock` with a clock that does not go back. -/
lemma advances_setClock {cpu : C} {clockTask : Nat} (hle : g.clockTask cpu ≤ clockTask)
    (hlt : clockTask < 2 ^ 64) : Advances cfg live g (g.setClock cpu clockTask) := by
  intro hg
  have hclock : ∀ cpu', g.clockTask cpu' ≤ (g.setClock cpu clockTask).clockTask cpu' := by
    intro cpu'
    by_cases hcpu : cpu' = cpu
    · simpa [setClock, hcpu] using hle
    · simp [setClock, hcpu]
  have hright : (g.setClock cpu clockTask).Right cfg live := by
    refine ⟨hg.count, fun cpu' => ?_, fun r hr hne => (hg.frozen r hr hne).trans (hclock r.cpu),
      fun r hr => (hg.lost r hr).trans (hclock r.cpu)⟩
    by_cases hcpu : cpu' = cpu
    · simpa [setClock, hcpu] using hlt
    · simpa [setClock, hcpu] using hg.clock cpu'
  refine ⟨hright, fun r hr => ?_⟩
  have hclosed : (g.setClock cpu clockTask).closed cfg r = g.closed cfg r := rfl
  rw [reported_eq hg hr, reported_eq hright hr, hclosed]
  split
  · exact Nat.sub_le_sub_right (hclock r.cpu) _
  · exact Nat.le_refl _

end Gates

open Gates

omit [DecidableEq G] in
lemma updateRqClock_gates (cpu : C) (clockTask : Nat) :
    (s.updateRqClock cpu clockTask).gates = s.gates.setClock cpu clockTask :=
  congrArg (Gates.mk s.gates.gate) (Function.comp_update Rq.clockTask s.rq cpu _)

lemma Gates.Throttles.of_eq (h : t.gates = s.gates) : Throttles cfg s.gates t.gates :=
  h ▸ .refl

section Operations

variable (cfg) (s) (q : QueueId G C)

lemma setThrottled_gates (throttled : Bool) : (s.modifyCfs q fun c => { c with throttled := throttled }).gates =
      s.gates.setThrottled q throttled := by
  have hgate : ∀ r, ((s.modifyCfs q fun c => { c with throttled := throttled }).cfs r).gate =
      ((s.gates.setThrottled q throttled).gate r) := by
    intro r
    by_cases hr : r = q
    · rw [hr, State.modifyCfs_cfs_self]
      simp [CfsRq.gate, Gates.setThrottled, State.gates]
    · rw [State.modifyCfs_cfs_of_ne _ hr]
      simp [CfsRq.gate, Gates.setThrottled, State.gates, hr]
  rw [State.gates, funext hgate]
  rfl

lemma throttleDown_gates : (s.walkTgTreeFrom cfg q State.tgThrottleDown).gates.setThrottled q true =
    s.gates.throttle cfg q := by
  have hgate : ∀ r, ((s.walkTgTreeFrom cfg q State.tgThrottleDown).gates.setThrottled q true).gate r =
      (s.gates.throttle cfg q).gate r := by
    intro r
    by_cases hbelow : State.below cfg q r = true
    · have hcpu := (below_iff.mp hbelow).1
      simp [Gates.setThrottled, Gates.throttle, State.gates, CfsRq.gate, State.walkTgTreeFrom,
        State.tgThrottleDown, hbelow, hcpu]
    · simp [Gates.setThrottled, Gates.throttle, State.gates, CfsRq.gate, State.walkTgTreeFrom, hbelow]
  exact congrArg (Gates.mk · s.gates.clockTask) (funext hgate)

lemma unthrottleUp_gates : ((s.modifyCfs q fun c => { c with throttled := false }).walkTgTreeFrom cfg q
      State.tgUnthrottleUp).gates = s.gates.unthrottle cfg q := by
  have hgate : ∀ r, (((s.modifyCfs q fun c => { c with throttled := false }).walkTgTreeFrom cfg q
      State.tgUnthrottleUp).gates.gate r) = (s.gates.unthrottle cfg q).gate r := by
    intro r
    have hflag : (s.modifyCfs q fun c => { c with throttled := false }).cfs r =
        { s.cfs r with throttled := if r = q then false else (s.cfs r).throttled } := by
      by_cases hr : r = q
      · rw [hr, State.modifyCfs_cfs_self, if_pos rfl]
      · rw [State.modifyCfs_cfs_of_ne _ hr, if_neg hr]
    by_cases hbelow : State.below cfg q r = true
    · have hcpu := (below_iff.mp hbelow).1
      simp [Gates.unthrottle, State.gates, CfsRq.gate, State.walkTgTreeFrom, State.tgUnthrottleUp, hflag, hbelow, hcpu]
    · simp [Gates.unthrottle, State.gates, CfsRq.gate, State.walkTgTreeFrom, hflag, hbelow]
  exact congrArg (Gates.mk · s.gates.clockTask) (funext hgate)

variable [DecidableEq T]

lemma enqueued_gates (e : Entity T G C) (wakeup : Bool) : (s.enqueued cfg e wakeup).gates = s.gates := by
  refine (updateCfsShares_still cfg _ _).gates.trans ((accountEntity_still cfg _ e _).gates.trans ?_)
  exact gates_of_bare (enqueueEntityLoadAvg_bare cfg s e wakeup)

lemma dequeueEntity_gates (e : Entity T G C) (sleep : Bool) : (s.dequeueEntity cfg e sleep).gates = s.gates := by
  refine (updateCfsShares_still cfg _ _).gates.trans ((accountEntity_still cfg _ e _).gates.trans ?_)
  have hload := gates_of_bare (dequeueEntityLoadAvg_bare cfg s e sleep)
  exact hload

/-- Of `throttle_cfs_rq` the gates see the walk and the flag. -/
lemma throttleCfsRq_gates (q : QueueId G C) : (s.throttleCfsRq cfg q).gates = s.gates.throttle cfg q := by
  have hflag : ∀ t : State T G C, t.gates = (s.walkTgTreeFrom cfg q State.tgThrottleDown).gates →
      (t.modifyCfs q fun c => { c with throttled := true }).gates = s.gates.throttle cfg q := by
    intro t ht
    rw [setThrottled_gates, ht, throttleDown_gates]
  refine throttleCfsRq_keeps (R := fun t => t.gates = s.gates.throttle cfg q)
    (fun _ _ _ => (modifyCfs_still _ _ rfl rfl).gates.trans) ?_
    (fun _ _ _ => (modifyRq_still _ _ rfl rfl).gates.trans) hflag rfl
  exact fun g _ t _ => (dequeueEntity_gates t cfg (.group g q.cpu) true).trans

end Operations

/-- `alloc_fair_sched_group`: zeroed queues and entities, `init_cfs_rq`,
`init_tg_cfs_entry`. -/
def State.allocFairSchedGroup (s : State T G C) (g : G) : State T G C :=
  { s with
    cfs := fun q => if q.tg = some g then { decayCounter := 1 } else s.cfs q
    se := fun e =>
      match e with
      | .group g' cpu => if g' = g then {} else s.se (.group g' cpu)
      | .task t => s.se (.task t)
    tg := Function.update s.tg (some g) {} }

omit [DecidableEq C] in
/-- The gates of a group that has been created are open; the others are as before. -/
lemma allocFairSchedGroup_gate (s : State T G C) (g : G) (q : QueueId G C) :
    (s.allocFairSchedGroup g).gates.gate q = if q.tg = some g then ⟨false, 0, 0, 0⟩ else s.gates.gate q := by
  dsimp only [State.gates, State.allocFairSchedGroup]
  split <;> rfl

variable [DecidableEq T]

/-- Nothing is queued, so nothing is throttled. -/
lemma gates_walks (g : Gates G C) : Walks cfg (fun _ => False) (fun _ => False) fun s : State T G C => s.gates = g :=
  .of_still (fun h => h.gates.trans) (fun _ _ he => he.elim) (fun _ _ _ he => he.elim) fun _ _ hq => hq.elim

lemma throttles_walks (g : Gates G C) : Walks cfg (fun _ => True) (fun _ => True)
    fun s : State T G C => Throttles cfg g s.gates := by
  refine .of_still (fun h hs => hs.trans (Throttles.of_eq h.gates)) (fun _ _ _ _ => trivial) ?_ ?_
  · exact fun s e wakeup _ _ hs => hs.trans (Throttles.of_eq (enqueued_gates s cfg e wakeup))
  · exact fun s q _ hq hs => hs.tail ⟨q, hq, throttleCfsRq_gates s cfg q⟩

lemma dequeueTaskFair_gates (task : T) (sleep : Bool) : (s.dequeueTaskFair cfg task sleep).gates = s.gates := by
  have h : Walks cfg _ _ fun t : State T G C => t.gates = s.gates := gates_walks _
  exact h.dequeueTaskFair (h.dequeueLoop (fun e _ s sleep => (dequeueEntity_gates s cfg e sleep).trans) sleep rfl)

lemma setNextEntity_gates (e : Entity T G C) : (s.setNextEntity cfg e).gates = s.gates :=
  (gates_walks s.gates).setNextEntity e rfl

inductive TreeOp (T G C : Type*) where
  | classOp (op : ClassOp T G C)
  /-- the part of `tg_set_cfs_bandwidth` for one queue, up to the unthrottling -/
  | setRuntimeEnabled (q : QueueId G C) (enabled : Bool)
  | createGroup (g : G)

namespace GroupTree

variable (cfg) (x : GroupTree T G C)

def step : TreeOp T G C → GroupTree T G C
  | .classOp op => { x with state := x.state.classStep cfg op }
  | .setRuntimeEnabled q enabled =>
    { x with state := x.state.modifyCfs q fun c => { c with runtimeEnabled := enabled } }
  | .createGroup g =>
    { state := x.state.allocFairSchedGroup g, created := Function.update x.created g true }

/-- No clock of an existing group goes back. -/
def ClocksAdvance (op : TreeOp T G C) : Prop :=
  ∀ q : QueueId G C, x.Exists q.tg → x.state.cfsRqClockTask q ≤ (x.step cfg op).state.cfsRqClockTask q

end GroupTree

namespace TreeOp

variable (cfg) (x : GroupTree T G C)

/-- What the callers guarantee, and that the clocks of the CPUs do not go back. -/
def Allowed : TreeOp T G C → Prop
  | .classOp (.throttle q) => (x.state.cfs q).throttled = false
  | .classOp (.unthrottle q _) => (x.state.cfs q).throttled = true
  | .classOp (.clock cpu clockTask) =>
    (x.state.rq cpu).clockTask ≤ clockTask ∧ clockTask < 2 ^ 64
  | .classOp (.migrate t _ (some clockTask)) =>
    (x.state.rq (x.state.taskQueue t).cpu).clockTask ≤ clockTask ∧ clockTask < 2 ^ 64
  | .createGroup g => x.created g = false ∧ x.Exists (cfg.parent g)
  | _ => True

/-- No group is created below a throttled queue, and a clock that starts again has not
stood before. -/
def Timely : TreeOp T G C → Prop
  | .classOp (.unthrottle q _) =>
    ∀ tg, x.Exists tg → q.tg ∈ cfg.lineage tg → (x.state.cfs ⟨tg, q.cpu⟩).throttleCount = 1 →
      (x.state.cfs ⟨tg, q.cpu⟩).throttledClockTaskTime = 0
  | .createGroup g => ∀ cpu, ∀ a ∈ cfg.lineage (cfg.parent g), (x.state.cfs ⟨a, cpu⟩).throttled = false
  | _ => True

instance (op : TreeOp T G C) : Decidable (op.Allowed cfg x) := by
  unfold TreeOp.Allowed
  split <;> infer_instance

instance [Fintype G] [Fintype C] (op : TreeOp T G C) : Decidable (op.Timely cfg x) := by
  unfold TreeOp.Timely
  split <;> infer_instance

end TreeOp

variable {x : GroupTree T G C}

lemma migrateTask_gates (s : State T G C) (task : T) (cpu : C) (nohz : Option Nat) :
    (s.migrateTask task cpu nohz).gates = s.gates ∨ ∃ clockTask, nohz = some clockTask ∧
    (s.migrateTask task cpu nohz).gates = s.gates.setClock (s.taskQueue task).cpu clockTask := by
  rw [State.migrateTask]
  split
  · exact .inl rfl
  · obtain hbare | ⟨clockTask, hnohz, hbare⟩ := migrateTaskRqFair_bare s task nohz
    · have hgates := gates_of_bare hbare
      exact .inl hgates
    · have hgates := (gates_of_bare hbare).trans (updateRqClock_gates ..)
      exact .inr ⟨clockTask, hnohz, hgates⟩

/-- What an operation of the class does to the gates before it throttles. -/
inductive ClassOp.Opens (cfg : Config G C) (s : State T G C) :
    ClassOp T G C → Gates G C → Prop
  | same (op : ClassOp T G C) : Opens cfg s op s.gates
  | clock (cpu : C) (clockTask : Nat) :
      Opens cfg s (.clock cpu clockTask) (s.gates.setClock cpu clockTask)
  | migrate (task : T) (cpu : C) (clockTask : Nat) :
      Opens cfg s (.migrate task cpu (some clockTask))
        (s.gates.setClock (s.taskQueue task).cpu clockTask)
  | throttle (q : QueueId G C) : Opens cfg s (.throttle q) (s.gates.throttle cfg q)
  | unthrottle (q : QueueId G C) (spent : QueueId G C → Bool) :
      Opens cfg s (.unthrottle q spent) (s.gates.unthrottle cfg q)

lemma classStep_throttles (cfg : Config G C) (s : State T G C) (op : ClassOp T G C) :
    ∃ g, op.Opens cfg s g ∧ Throttles cfg g (s.classStep cfg op).gates := by
  have h : Walks cfg _ _ fun t : State T G C => Throttles cfg s.gates t.gates := throttles_walks _
  cases op with
  | enqueue task wakeup spent =>
    exact ⟨_, .same _, h.enqueueTaskFair spent (h.enqueueLoop spent (fun _ _ => trivial) wakeup .refl)⟩
  | dequeue task sleep => exact ⟨_, .same _, .of_eq (dequeueTaskFair_gates task sleep)⟩
  | tick task => exact ⟨_, .same _, h.taskTickFair task .refl⟩
  | pickNext task => exact ⟨_, .same _, h.pickNextTaskFair task .refl⟩
  | putPrev task spent => exact ⟨_, .same _, h.putPrevTaskFair spent (fun _ _ _ _ => trivial) .refl⟩
  | migrate task cpu nohz =>
    obtain heq | ⟨clockTask, rfl, heq⟩ := migrateTask_gates s task cpu nohz
    · exact ⟨_, .same _, .of_eq heq⟩
    · refine ⟨_, .migrate task cpu clockTask, ?_⟩
      rw [← heq]
      exact .refl
  | clock cpu clockTask =>
    refine ⟨_, .clock cpu clockTask, ?_⟩
    rw [← updateRqClock_gates]
    exact .refl
  | idle cpu entering => exact ⟨_, .same _, h.updateRqRunnableAvg s cpu entering .refl⟩
  | throttle q =>
    refine ⟨_, .throttle q, ?_⟩
    rw [← throttleCfsRq_gates]
    exact .refl
  | unthrottle q spent =>
    -- Once the queue is open, its entity may be queued where throttling is due.
    refine ⟨_, .unthrottle q spent, (throttles_walks _).unthrottleCfsRq q spent (fun _ _ => trivial) ?_⟩
    rw [unthrottleUp_gates]
    exact .refl

lemma classStep_advances {op : ClassOp T G C} (hallowed : (TreeOp.classOp op).Allowed cfg x)
    (htimely : (TreeOp.classOp op).Timely cfg x) :
    Advances cfg x.Exists x.state.gates (x.state.classStep cfg op).gates := by
  obtain ⟨g, hopens, hthrottles⟩ := classStep_throttles cfg x.state op
  refine Advances.trans ?_ hthrottles.advances
  cases hopens with
  | same => exact .refl
  | clock cpu clockTask | migrate task cpu clockTask =>
    exact advances_setClock hallowed.1 hallowed.2
  | throttle q => exact advances_throttle hallowed
  | unthrottle q spent =>
    refine advances_unthrottle hallowed fun r hr hbelow => ?_
    obtain ⟨hcpu, hmem⟩ := below_iff.mp hbelow
    have hself : r = ⟨r.tg, q.cpu⟩ := by rw [← hcpu]
    rw [hself]
    exact htimely r.tg hr hmem

lemma GroupTree.Inv.createGroup (hx : x.Inv cfg) {g : G}
    (hallowed : (TreeOp.createGroup g : TreeOp T G C).Allowed cfg x)
    (htimely : (TreeOp.createGroup g : TreeOp T G C).Timely cfg x) :
    (x.step cfg (.createGroup g)).Inv cfg ∧ x.ClocksAdvance cfg (.createGroup g) := by
  obtain ⟨hnew, hparent⟩ := hallowed
  -- nothing that exists has to do with the new group
  have hold : ∀ tg, x.Exists tg → tg ≠ some g := by
    rintro tg htg rfl
    exact Bool.false_ne_true (hnew.symm.trans (htg g rfl))
  have hgate : ∀ q : QueueId G C, x.Exists q.tg →
      (x.state.allocFairSchedGroup g).gates.gate q = x.state.gates.gate q := fun q hq => by
    rw [allocFairSchedGroup_gate, if_neg (hold q.tg hq)]
  have hexists : ∀ tg, (x.step cfg (.createGroup g)).Exists tg → tg = some g ∨ x.Exists tg := by
    intro tg htg
    by_cases heq : tg = some g
    · exact .inl heq
    · refine .inr fun g' hg' => ?_
      have hne : g' ≠ g := by
        rintro rfl
        exact heq hg'
      exact (Function.update_of_ne hne _ _).symm.trans (htg g' hg')
  have hclosed : ∀ q : QueueId G C, x.Exists q.tg →
      (x.state.allocFairSchedGroup g).gates.closed cfg q = x.state.gates.closed cfg q := by
    intro q hq
    refine List.countP_congr fun a ha => ?_
    rw [hgate ⟨a, q.cpu⟩ (hx.exists_of_mem hq a ha)]
  have hempty : ∀ cpu, (x.state.allocFairSchedGroup g).gates.closed cfg ⟨some g, cpu⟩ = 0 := by
    intro cpu
    refine List.countP_eq_zero.mpr fun a ha => ?_
    rw [Hierarchy.lineage_some, List.mem_cons] at ha
    obtain rfl | ha := ha
    · rw [allocFairSchedGroup_gate, if_pos rfl]
      exact Bool.false_ne_true
    · rw [hgate ⟨a, cpu⟩ (hx.exists_of_mem hparent a ha)]
      exact Bool.not_eq_true _ ▸ htimely cpu a ha
  have hmono : ∀ tg, x.Exists tg → (x.step cfg (.createGroup g)).Exists tg := by
    intro tg htg g' hg'
    refine (Function.update_of_ne ?_ _ _).trans (htg g' hg')
    rintro rfl
    exact hold tg htg hg'
  refine ⟨⟨⟨fun q hq => ?_, hx.right.clock, fun q hq => ?_, fun q hq => ?_⟩, fun g' hg' => ?_⟩, fun q hq => ?_⟩
  · obtain ⟨tg, cpu⟩ := q
    obtain rfl | hq := hexists tg hq
    · rw [GroupTree.step, hempty, allocFairSchedGroup_gate, if_pos rfl]
      rfl
    · rw [GroupTree.step, hclosed _ hq, hgate _ hq]
      exact hx.right.count _ hq
  · rw [GroupTree.step]
    obtain hnew | hq := hexists q.tg hq
    · rw [allocFairSchedGroup_gate, if_pos hnew]
      exact fun hne => absurd rfl hne
    · rw [hgate _ hq]
      exact hx.right.frozen _ hq
  · rw [GroupTree.step]
    obtain hnew | hq := hexists q.tg hq
    · rw [allocFairSchedGroup_gate, if_pos hnew]
      exact Nat.zero_le _
    · rw [hgate _ hq]
      exact hx.right.lost _ hq
  · by_cases heq : g' = g
    · rw [heq]
      exact hmono _ hparent
    · exact hmono _ (hx.parent g' ((Function.update_of_ne heq _ _).symm.trans hg'))
  · have hreported : (x.state.allocFairSchedGroup g).gates.reported q = x.state.gates.reported q := by
      rw [reported, hgate q hq]
      rfl
    exact hreported.ge

lemma GroupTree.Inv.step (hx : x.Inv cfg) {op : TreeOp T G C} (hallowed : op.Allowed cfg x)
    (htimely : op.Timely cfg x) : (x.step cfg op).Inv cfg ∧ x.ClocksAdvance cfg op := by
  cases op with
  | classOp op =>
    obtain ⟨hright, hclocks⟩ := classStep_advances hallowed htimely hx.right
    exact ⟨⟨hright, hx.parent⟩, hclocks⟩
  | setRuntimeEnabled q enabled =>
    have hgates : (x.state.modifyCfs q fun c => { c with runtimeEnabled := enabled }).gates =
        x.state.gates := (modifyCfs_still x.state q rfl rfl).gates
    have hadvances : Advances cfg x.Exists x.state.gates _ := (Throttles.of_eq hgates).advances
    obtain ⟨hright, hclocks⟩ := hadvances hx.right
    exact ⟨⟨hright, hx.parent⟩, hclocks⟩
  | createGroup g => exact hx.createGroup hallowed htimely

variable (start : Start T G C)

/-- In every run in which no group is created below a throttled queue and no clock is stopped twice,
the counts are right and no clock goes back. -/
theorem throttle_counts_right (cfg : Config G C) (ops : List (TreeOp T G C))
    (hops : Run.Each (GroupTree.step cfg) (fun x op => op.Allowed cfg x ∧ op.Timely cfg x)
      (GroupTree.boot start) ops) :
    Run.Always (GroupTree.step cfg) (GroupTree.CountsRight cfg) (GroupTree.boot start) ops ∧
      Run.Each (GroupTree.step cfg) (GroupTree.ClocksAdvance cfg) (GroupTree.boot start) ops := by
  have hinv := Run.always_of_each (P := GroupTree.Inv cfg) (fun x op hx hop => (hx.step hop.1 hop.2).1)
    (GroupTree.boot_inv start) hops
  exact ⟨hinv.mono fun x hx => hx.countsRight, hinv.each_of_each hops fun x op hx hop => (hx.step hop.1 hop.2).2⟩

/-- Two nested groups, the root group only at first. -/
def nestedTree : GroupTree Unit Bool Unit := .boot { taskQueue := fun _ => ⟨none, ()⟩ }

/-- The outer group is throttled, then the inner one; they are unthrottled in the same
order. -/
theorem throttle_counts_right_nested :
    let ops : List (TreeOp Unit Bool Unit) :=
      [.createGroup false, .createGroup true, .classOp (.clock () 10),
        .classOp (.throttle ⟨some false, ()⟩), .classOp (.clock () 20),
        .classOp (.throttle ⟨some true, ()⟩),
        .classOp (.unthrottle ⟨some false, ()⟩ fun _ => false), .classOp (.clock () 30),
        .classOp (.unthrottle ⟨some true, ()⟩ fun _ => false)]
    Run.Always (GroupTree.step nestedGroups) (GroupTree.CountsRight nestedGroups) nestedTree ops ∧
      Run.Each (GroupTree.step nestedGroups) (GroupTree.ClocksAdvance nestedGroups) nestedTree ops :=
  throttle_counts_right _ nestedGroups _ (by decide +kernel)

/-- The inner group is created while the outer one is throttled. -/
def lateGroup : List (TreeOp Unit Bool Unit) :=
  [.createGroup false, .classOp (.throttle ⟨some false, ()⟩), .createGroup true,
    .classOp (.unthrottle ⟨some false, ()⟩ fun _ => false)]

/-- The outer group is throttled a second time. -/
def throttledAgain : List (TreeOp Unit Bool Unit) :=
  [.createGroup false, .classOp (.clock () 10), .classOp (.throttle ⟨some false, ()⟩),
    .classOp (.clock () 20), .classOp (.unthrottle ⟨some false, ()⟩ fun _ => false),
    .classOp (.clock () 30), .classOp (.throttle ⟨some false, ()⟩)]

/-- A group created below a throttled one is taken for open, and after the unthrottling
its count is negative. A group that is unthrottled a second time reports an earlier time
than before. -/
theorem throttle_counts_wrong :
    (Run.Each (GroupTree.step nestedGroups) (fun x op => op.Allowed nestedGroups x) nestedTree lateGroup ∧
      ((lateGroup.foldl (GroupTree.step nestedGroups) nestedTree).state.cfs ⟨some true, ()⟩).throttleCount = -1 ∧
      ¬ Run.Always (GroupTree.step nestedGroups) (GroupTree.CountsRight nestedGroups) nestedTree lateGroup) ∧
    (Run.Each (GroupTree.step nestedGroups) (fun x op => op.Allowed nestedGroups x) nestedTree
        (throttledAgain ++ [.classOp (.unthrottle ⟨some false, ()⟩ fun _ => false)]) ∧
      ¬ Run.Each (GroupTree.step nestedGroups) (GroupTree.ClocksAdvance nestedGroups) nestedTree
        (throttledAgain ++ [.classOp (.unthrottle ⟨some false, ()⟩ fun _ => false)])) := by
  refine ⟨⟨by decide +kernel, by decide +kernel, fun halways => ?_⟩, by decide +kernel, fun heach => ?_⟩
  · -- the count of the new group right after its creation
    have hcount := (halways.2.2.2.1 ⟨some true, ()⟩ (by decide +kernel)).1
    revert hcount
    decide +kernel
  · obtain ⟨-, hlast, -⟩ := Run.each_append.mp heach
    have hclock := hlast ⟨some false, ()⟩ (by decide +kernel)
    revert hclock
    decide +kernel

end BigLittle.Cfs
