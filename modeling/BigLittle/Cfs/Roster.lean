import BigLittle.Cfs.Keeps

/-!
# Which entities are queued

The abstract side of queueing: which entities are queued, with what priority, and
the records of the queues, in which the HMP counters live. It changes only when an
entity is enqueued or dequeued; everything else the fair class does leaves it as
it is. Each operation of the class is a list of such events, and for each one the
list is described.
-/

namespace BigLittle.Cfs

open Sched State List

variable {T G C : Type*} {cfg : Config G C} {s t u : State T G C}

inductive QueueEvent (T G C : Type*) where
  | enqueue (e : Entity T G C)
  | dequeue (e : Entity T G C)
deriving DecidableEq

namespace QueueEvent

def entity : QueueEvent T G C → Entity T G C
  | .enqueue e => e
  | .dequeue e => e

def isEnqueue : QueueEvent T G C → Bool
  | .enqueue _ => true
  | .dequeue _ => false

end QueueEvent

def countEnqueue (low : Bool) (sa : SchedAvg) : SchedAvg :=
  { sa with
    nrPending := 0
    pendingLoad := 0
    nrNormalPrio := if low then sa.nrNormalPrio else Word.add 32 sa.nrNormalPrio 1 }

def countDequeue (low : Bool) (sa : SchedAvg) : SchedAvg :=
  { sa with
    nrDequeuingLowPrio := 0
    nrNormalPrio := if low then sa.nrNormalPrio else Word.sub 32 sa.nrNormalPrio 1 }

namespace Roster

def cpuOf (r : Roster T G C) : Entity T G C → C
  | .task t => (r.taskQueue t).cpu
  | .group _ cpu => cpu

def low (cfg : Config G C) (r : Roster T G C) (e : Entity T G C) : Bool :=
  decide (cfg.hmpUpPrio ≤ Word.ofInt 32 (r.prio e))

variable [DecidableEq G] [DecidableEq C]

/-- Change the record that holds the counters of a CPU. -/
def modifyRecord (r : Roster T G C) (cpu : C) (f : SchedAvg → SchedAvg) : Roster T G C :=
  { r with record := Function.update r.record ⟨none, cpu⟩ (f (r.record ⟨none, cpu⟩)) }

/-- The record of each CPU after the change of one. -/
lemma modifyRecord_record (r : Roster T G C) (cpu cpu' : C) (f : SchedAvg → SchedAvg) :
    (r.modifyRecord cpu f).record ⟨none, cpu'⟩ = if cpu =
    cpu' then f (r.record ⟨none, cpu⟩) else r.record ⟨none, cpu'⟩ := by
  dsimp only [modifyRecord]
  split
  next h => rw [h, Function.update_self]
  next h =>
    rw [Function.update_of_ne]
    intro heq
    exact h (congrArg QueueId.cpu heq).symm

/-- What the change keeps there, it keeps everywhere. -/
lemma modifyRecord_keeps {α : Type*} (r : Roster T G C) (cpu : C)
    (f : SchedAvg → SchedAvg) (g : SchedAvg → α) (h : ∀ sa, g (f sa) = g sa) (q : QueueId G C) :
    g ((r.modifyRecord cpu f).record q) = g (r.record q) := update_keeps g (h _) q

variable [DecidableEq T]

def setOnRq (r : Roster T G C) (e : Entity T G C) (on : Bool) : Roster T G C :=
  { r with onRq := Function.update r.onRq e on }

def relocate (r : Roster T G C) (task : T) (cpu : C) : Roster T G C :=
  { r with taskQueue := Function.update r.taskQueue task ⟨(r.taskQueue task).tg, cpu⟩ }

/-- What an event does. -/
def apply (cfg : Config G C) (r : Roster T G C) : QueueEvent T G C → Roster T G C
  | .enqueue e => (r.modifyRecord (r.cpuOf e) (countEnqueue (r.low cfg e))).setOnRq e true
  | .dequeue e => (r.modifyRecord (r.cpuOf e) (countDequeue (r.low cfg e))).setOnRq e false

end Roster

lemma cfsRqOf_cpu (cfg : Config G C) (s : State T G C)
    (e : Entity T G C) : (s.cfsRqOf cfg e).cpu = s.roster.cpuOf e := by
  cases e <;> rfl

lemma lowPriority_eq (e : Entity T G C) (h : t.roster = s.roster) : t.lowPriority cfg e = s.roster.low cfg e := by
  rw [← h]
  rfl

/-- Events of entities of the groups on the CPU. -/
def InGroups (groups : List G) (cpu : C) (events : List (QueueEvent T G C)) : Prop :=
  ∀ ev ∈ events, ∃ g ∈ groups, ev.entity = .group g cpu

/-- Dequeues of entities of the groups on the CPU. -/
def Drops (groups : List G) (cpu : C) (events : List (QueueEvent T G C)) : Prop :=
  ∀ ev ∈ events, ∃ g ∈ groups, ev = .dequeue (.group g cpu)

section Lists

variable {groups groups' : List G} {cpu : C} {g : G} {events events' : List (QueueEvent T G C)}

lemma Drops.inGroups (h : Drops groups cpu events) : InGroups groups cpu events := by
  intro ev hev
  obtain ⟨g, hg, rfl⟩ := h ev hev
  exact ⟨g, hg, rfl⟩

lemma Drops.not_isEnqueue (h : Drops groups cpu events) : ∀ ev ∈ events, ev.isEnqueue = false := by
  intro ev hev
  obtain ⟨g, -, rfl⟩ := h ev hev
  rfl

lemma Drops.mono (h : Drops groups cpu events) (hsub : groups ⊆ groups') : Drops groups' cpu events := by
  intro ev hev
  obtain ⟨g, hg, rfl⟩ := h ev hev
  exact ⟨g, hsub hg, rfl⟩

lemma Drops.nil : Drops groups cpu ([] : List (QueueEvent T G C)) := nofun

lemma InGroups.cons (hg : g ∈ groups) (h : InGroups groups cpu events) :
    InGroups groups cpu (.enqueue (.group g cpu) :: events) := by
  rintro ev (_ | ⟨_, hev⟩)
  · exact ⟨g, hg, rfl⟩
  · exact h ev hev

end Lists

variable [DecidableEq G] [DecidableEq C]

lemma walkTgTreeFrom_roster (cfg : Config G C) (s : State T G C) (q : QueueId G C)
    {visit : CfsRq T G C → Nat → CfsRq T G C} (h : ∀ c clock, (visit c clock).avg = c.avg) :
    (s.walkTgTreeFrom cfg q visit).roster = s.roster := by
  have hrecord : ∀ r, ((s.walkTgTreeFrom cfg q visit).cfs r).avg = (s.cfs r).avg := by
    intro r
    dsimp only [walkTgTreeFrom]
    split
    · exact h _ _
    · rfl
  simp only [roster, hrecord]
  rfl

lemma modifyCpuAvg_roster (s : State T G C) (cpu : C) (f : SchedAvg → SchedAvg) :
    (s.modifyCpuAvg cpu f).roster = s.roster.modifyRecord cpu f := by
  have hrecord : (fun q => ((s.modifyCpuAvg cpu f).cfs q).avg) =
      Function.update (fun q => (s.cfs q).avg) ⟨none, cpu⟩ (f (s.cfs ⟨none, cpu⟩).avg) :=
    Function.comp_update (fun c : CfsRq T G C => c.avg) s.cfs _ _
  simp only [roster, Roster.modifyRecord, hrecord]
  rfl

variable [DecidableEq T]

/-- The state `t` comes about from `s` by the events alone. -/
def Performs (cfg : Config G C) (s : State T G C) (events : List (QueueEvent T G C)) (t : State T G C) : Prop :=
  t.roster = events.foldl (Roster.apply cfg) s.roster

/-- `t` comes about by the first events and then by events of a kind. -/
def Reaches (cfg : Config G C) (kind : QueueEvent T G C → Prop)
    (s : State T G C) (first : List (QueueEvent T G C)) (t : State T G C) : Prop :=
  ∃ rest, Performs cfg s (first ++ rest) t ∧ ∀ ev ∈ rest, kind ev

section Events

variable {events events' : List (QueueEvent T G C)}

lemma Performs.append (h : Performs cfg s events t) (h' : Performs cfg t events' u) :
    Performs cfg s (events ++ events') u := by
  rwa [Performs, foldl_append, ← h]

/-- What leaves the roster alone can follow. -/
lemma Performs.quiet (h : Performs cfg s events t) (hquiet : u.roster = t.roster) :
    Performs cfg s events u := hquiet.trans h

lemma performs_nil (h : t.roster = s.roster) : Performs cfg s [] t := h

section Reaches

variable {kind kind' : QueueEvent T G C → Prop}

lemma Reaches.refl : Reaches cfg kind s [] s := ⟨[], rfl, nofun⟩

lemma Reaches.quiet (h : Reaches cfg kind s events t) (hquiet : u.roster = t.roster) : Reaches cfg kind s events u := by
  obtain ⟨rest, hrest, hkind⟩ := h
  exact ⟨rest, hquiet.trans hrest, hkind⟩

lemma Reaches.append (h : Reaches cfg kind s events t) (h' : Performs cfg t events' u)
    (hkind' : ∀ ev ∈ events', kind ev) : Reaches cfg kind s events u := by
  obtain ⟨rest, hrest, hkind⟩ := h
  have hall := hrest.append h'
  rw [append_assoc] at hall
  exact ⟨_, hall, fun ev hev => (mem_append.mp hev).elim (hkind ev) (hkind' ev)⟩

end Reaches

lemma foldl_apply_taskQueue (r : Roster T G C) : (events.foldl (Roster.apply cfg) r).taskQueue = r.taskQueue := by
  induction events generalizing r with
  | nil => rfl
  | cons ev rest ih =>
    rw [foldl_cons, ih]
    cases ev <;> rfl

lemma Performs.taskQueue (h : Performs cfg s events t) : t.taskQueue = s.taskQueue :=
  (congrArg Roster.taskQueue h).trans (foldl_apply_taskQueue s.roster)

lemma setOnRq_roster (s : State T G C) (e : Entity T G C) (on : Bool) :
    (s.modifySe e fun se => { se with onRq := on }).roster = s.roster.setOnRq e on := by
  have honRq : (fun e' => ((s.modifySe e fun se => { se with onRq := on }).se e').onRq) =
      Function.update (fun e' => (s.se e').onRq) e on :=
    Function.comp_update (fun se : SchedEntity => se.onRq) s.se _ _
  simp only [roster, Roster.setOnRq, honRq]
  rfl

variable (cfg s) (e : Entity T G C) (sleep : Bool) (wakeup : Bool) (spent : QueueId G C → Bool) (cpu : C)
variable (groups : List G)

lemma dequeueEntityLoadAvg_roster : (s.dequeueEntityLoadAvg cfg e sleep).roster =
    s.roster.modifyRecord (s.roster.cpuOf e) (countDequeue (s.roster.low cfg e)) := by
  dsimp only [dequeueEntityLoadAvg]
  set t := ((s.updateEntityLoadAvg cfg e true).updateCfsRqBlockedLoad (s.cfsRqOf cfg e) (!sleep)).subEntityLoad cfg e
  have hquiet : t.roster = s.roster := (subEntityLoad_quiet ..).roster
  rw [lowPriority_eq e hquiet, cfsRqOf_cpu]
  have hcount := modifyCpuAvg_roster t (s.roster.cpuOf e) (countDequeue (s.roster.low cfg e))
  rw [hquiet] at hcount
  split
  · rwa [(modifyAvg_quiet ..).roster, (modifyCfs_calm _ _ (by rfl)).roster]
  · exact hcount

lemma dequeueEntity_performs : Performs cfg s [.dequeue e] (s.dequeueEntity cfg e sleep) := by
  dsimp only [Performs, dequeueEntity, foldl_cons, foldl_nil]
  rw [(updateCfsShares_still ..).roster, (accountEntity_still ..).roster, setOnRq_roster,
    dequeueEntityLoadAvg_roster, Roster.apply]

lemma enqueueEntityLoadAvg_roster : (s.enqueueEntityLoadAvg cfg e wakeup).roster =
    s.roster.modifyRecord (s.roster.cpuOf e) (countEnqueue (s.roster.low cfg e)) := by
  dsimp only [enqueueEntityLoadAvg]
  set t := (s.prepareEnqueue cfg e wakeup).addEntityLoad cfg e
  have hquiet : t.roster = s.roster := (addEntityLoad_quiet ..).roster
  rw [(updateCfsRqBlockedLoad_quiet ..).roster, lowPriority_eq e hquiet, cfsRqOf_cpu, ← hquiet]
  exact modifyCpuAvg_roster t _ _

/-- A throttled queue takes group entities off, from its own upwards. -/
lemma throttleCfsRq_performs (q : QueueId G C) : ∃ events, Performs cfg s events (s.throttleCfsRq cfg q) ∧
    Drops (cfg.path q.tg) q.cpu events := by
  have hdequeue : ∀ g ∈ cfg.path q.tg, ∀ t : State T G C, (t.se (.group g q.cpu)).onRq = true →
      Reaches cfg (fun ev => ∃ g ∈ cfg.path q.tg, ev = .dequeue (.group g q.cpu)) s [] t →
      Reaches cfg (fun ev => ∃ g ∈ cfg.path q.tg, ev = .dequeue (.group g q.cpu)) s []
        (t.dequeueEntity cfg (.group g q.cpu) true) := by
    intro g hg t _ ht
    refine ht.append (dequeueEntity_performs cfg t _ true) fun ev hev => ?_
    exact ⟨g, hg, mem_singleton.mp hev⟩
  exact throttleCfsRq_keeps (R := Reaches cfg _ s []) (fun _ _ _ ht => ht.quiet (modifyCfs_calm _ _ rfl).roster)
    hdequeue (fun _ _ _ ht => ht.quiet rfl) (fun _ ht => ht.quiet (modifyCfs_calm _ _ rfl).roster)
    (Reaches.refl.quiet (walkTgTreeFrom_roster cfg s q fun _ _ => rfl))

lemma enqueued_performs : Performs cfg s [.enqueue e] (s.enqueued cfg e wakeup) := by
  dsimp only [Performs, enqueued, foldl_cons, foldl_nil]
  rw [setOnRq_roster, (updateCfsShares_still ..).roster, (accountEntity_still ..).roster,
    enqueueEntityLoadAvg_roster, Roster.apply]

/-- Of what leaves the roster alone. -/
lemma performs_walks (events : List (QueueEvent T G C)) :
    Walks cfg (fun _ => False) (fun _ => False) (Performs cfg s events) :=
  .of_still (fun h hs => hs.quiet h.roster) (fun _ _ he => he.elim) (fun _ _ _ he => he.elim) fun _ _ hq => hq.elim

lemma setNextEntity_roster : (s.setNextEntity cfg e).roster = s.roster :=
  (performs_walks cfg s []).setNextEntity e rfl

lemma entityTick_roster : (s.entityTick cfg e).roster = s.roster :=
  (performs_walks cfg s []).entityTick e rfl

/-- When only entities of a kind are queued, the events are of that kind and of what their
queues drop. -/
lemma reaches_walks (first : List (QueueEvent T G C)) {E : Entity T G C → Prop} {Q : QueueId G C → Prop}
    {kind : QueueEvent T G C → Prop} (hqueue : ∀ (s : State T G C) e, E e → Q (s.cfsRqOf cfg e))
    (hput : ∀ e, E e → kind (.enqueue e)) (hdrop : ∀ q, Q q → ∀ g ∈ cfg.path q.tg, kind (.dequeue (.group g q.cpu))) :
    Walks cfg E Q (Reaches cfg kind s first) := by
  refine .of_still (fun h hs => hs.quiet h.roster) (fun s e he _ => hqueue s e he) ?_ ?_
  · intro t e wakeup he _ ht
    refine ht.append (enqueued_performs cfg t e wakeup) fun ev hev => ?_
    rw [mem_singleton.mp hev]
    exact hput e he
  · intro t q hq _ ht
    obtain ⟨events, hevents, hdrops⟩ := throttleCfsRq_performs cfg t q
    refine ht.append hevents fun ev hev => ?_
    obtain ⟨g, hg, rfl⟩ := hdrops ev hev
    exact hdrop q hq g hg

/-- The walks over the groups above a queue. -/
lemma inGroups_walks (first : List (QueueEvent T G C)) (tg : Option G) (cpu : C) :
    Walks cfg (fun e => ∃ g ∈ cfg.path tg, e = .group g cpu) (fun q => cfg.path q.tg ⊆ cfg.path tg ∧ q.cpu = cpu)
      (Reaches cfg (fun ev => ∃ g ∈ cfg.path tg, ev.entity = .group g cpu) s first) := by
  apply reaches_walks
  · rintro s _ ⟨g, hg, rfl⟩
    exact ⟨cfg.path_parent_subset tg g hg, rfl⟩
  · exact fun _ he => he
  · rintro q ⟨hpath, rfl⟩ g hg
    exact ⟨g, hpath hg, rfl⟩

lemma drops_walks (first : List (QueueEvent T G C)) (tg : Option G) (cpu : C) :
    Walks cfg (fun _ => False) (fun q => cfg.path q.tg ⊆ cfg.path tg ∧ q.cpu = cpu)
      (Reaches cfg (fun ev => ∃ g ∈ cfg.path tg, ev = .dequeue (.group g cpu)) s first) := by
  apply reaches_walks
  · exact fun _ _ he => he.elim
  · exact fun _ he => he.elim
  · rintro q ⟨hpath, rfl⟩ g hg
    exact ⟨g, hpath hg, rfl⟩

/-- An enqueued entity may find its queue out of runtime and throttle it. -/
lemma enqueueEntity_performs : ∃ events, Performs cfg s (.enqueue e :: events) (s.enqueueEntity cfg e wakeup spent) ∧
    Drops (cfg.path (s.cfsRqOf cfg e).tg) (s.cfsRqOf cfg e).cpu events := by
  have hfirst := enqueued_performs cfg s e wakeup
  rw [enqueueEntity_eq]
  split
  · dsimp only [checkEnqueueThrottle]
    split
    · obtain ⟨events, hevents, hdrops⟩ := throttleCfsRq_performs cfg (s.enqueued cfg e wakeup) (s.cfsRqOf cfg e)
      exact ⟨events, hfirst.append hevents, hdrops⟩
    · exact ⟨[], hfirst, .nil⟩
  · exact ⟨[], hfirst, .nil⟩

/-- Unthrottling puts group entities back as long as they are off; nothing is put
back if the first one is queued. -/
lemma unthrottleLoop_performs (tg : Option G) (taskDelta : Nat) (s : State T G C) :
    ∃ events, Performs cfg s events (unthrottleLoop cfg cpu taskDelta spent (cfg.path tg) s true).1 ∧
    InGroups (cfg.path tg) cpu events ∧
    ((∃ ev ∈ events, ev.isEnqueue = true) ↔ ∃ g ∈ tg, (s.se (.group g cpu)).onRq = false) := by
  cases tg with
  | none => exact ⟨[], performs_nil rfl, nofun, by simp⟩
  | some g =>
    rw [Hierarchy.path_some, unthrottleLoop, Bool.true_and]
    cases hon : (s.se (.group g cpu)).onRq with
    | true =>
      have h := performs_walks cfg s []
      have hcount := h.unthrottleEntity (.group g cpu) taskDelta spent false (absurd · Bool.false_ne_true)
        (absurd · Bool.false_ne_true) rfl
      refine ⟨[], ?_, nofun, by simp [hon]⟩
      split
      · exact hcount
      · exact h.unthrottleLoop cpu taskDelta spent false (fun _ _ => (absurd · Bool.false_ne_true)) hcount
    | false =>
      have h := inGroups_walks cfg s [.enqueue (.group g cpu)] (some g) cpu
      rw [Hierarchy.path_some] at h
      have hrest := subset_cons_self g (cfg.path (cfg.parent g))
      obtain ⟨first, hfirst, hdrops⟩ := enqueueEntity_performs cfg s (.group g cpu) true spent
      have hround := h.addHNrRunning _ (s.cfsRqOf cfg (.group g cpu)) taskDelta
        ⟨first, hfirst, (hdrops.mono hrest).inGroups⟩
      have hput : (∃ a ∈ some g, (s.se (.group a cpu)).onRq = false) := ⟨g, rfl, hon⟩
      split
      · obtain ⟨events, hevents, hin⟩ := hround
        exact ⟨_, hevents, InGroups.cons mem_cons_self hin, iff_of_true ⟨_, mem_cons_self, rfl⟩ hput⟩
      · obtain ⟨events, hevents, hin⟩ :=
          h.unthrottleLoop cpu taskDelta spent true (fun a ha _ => ⟨a, hrest ha, rfl⟩) hround
        exact ⟨_, hevents, InGroups.cons mem_cons_self hin, iff_of_true ⟨_, mem_cons_self, rfl⟩ hput⟩

/-- Whether `unthrottle_cfs_rq` puts an entity back. -/
def State.Requeues (s : State T G C) (q : QueueId G C) : Prop :=
  (s.cfs q).loadWeight ≠ 0 ∧ ∃ g ∈ q.tg, (s.se (.group g q.cpu)).onRq = false
  deriving Decidable

lemma unthrottleCfsRq_performs (q : QueueId G C) (spent : QueueId G C → Bool) :
    ∃ events, Performs cfg s events (s.unthrottleCfsRq cfg q spent) ∧ InGroups (cfg.path q.tg) q.cpu events ∧
    ((∃ ev ∈ events, ev.isEnqueue = true) ↔ s.Requeues q) := by
  set t := (s.modifyCfs q fun c => { c with throttled := false }).walkTgTreeFrom cfg q
    tgUnthrottleUp with ht
  have hwalk : ∀ s : State T G C, (s.walkTgTreeFrom cfg q tgUnthrottleUp).roster = s.roster :=
    fun s => walkTgTreeFrom_roster cfg s q fun _ _ => rfl
  have hquiet : t.roster = s.roster := by
    rw [ht, hwalk, (modifyCfs_calm _ _ (by rfl)).roster]
  have hweight : (t.cfs q).loadWeight = (s.cfs q).loadWeight := by
    rw [ht]
    dsimp only [walkTgTreeFrom]
    split
    · rw [modifyCfs_cfs_self]
      rfl
    · rw [modifyCfs_cfs_self]
  have honRq : ∀ e, (t.se e).onRq = (s.se e).onRq := congrFun (congrArg Roster.onRq hquiet)
  obtain ⟨events, hevents, hgroups, hput⟩ := unthrottleLoop_performs cfg spent q.cpu q.tg (t.cfs q).hNrRunning t
  simp only [honRq] at hput
  have hloop := (performs_nil hquiet).append hevents
  dsimp only [unthrottleCfsRq]
  rw [← ht, hweight]
  by_cases hzero : (s.cfs q).loadWeight = 0
  · rw [if_pos hzero]
    refine ⟨[], performs_nil hquiet, nofun, ?_⟩
    exact iff_of_false (by simp) fun h => h.1 hzero
  · rw [if_neg hzero]
    refine ⟨events, ?_, hgroups, hput.trans (and_iff_right hzero).symm⟩
    split
    · exact hloop.quiet rfl
    · exact hloop

/-- A task that is queued stays so; one that is not is enqueued, followed by
events of its groups. -/
lemma enqueueTaskFair_performs (task : T) (wakeup : Bool) (spent : QueueId G C → Bool) :
    ∃ events, Performs cfg s events (s.enqueueTaskFair cfg task wakeup spent) ∧
    if (s.se (.task task)).onRq then events = [] else ∃ rest, events = .enqueue (.task task) :: rest ∧
    InGroups (cfg.path (s.taskQueue task).tg) (s.taskQueue task).cpu rest := by
  cases hon : (s.se (.task task)).onRq with
  | true =>
    refine ⟨[], (performs_walks cfg s []).enqueueTaskFair spent ?_, rfl⟩
    rw [entities, enqueueLoop, if_pos hon]
    rfl
  | false =>
    have h := inGroups_walks cfg s [.enqueue (.task task)] (s.taskQueue task).tg (s.taskQueue task).cpu
    obtain ⟨first, hfirst, hdrops⟩ := enqueueEntity_performs cfg s (.task task) wakeup spent
    have hloop : Reaches cfg (fun ev => ∃ g ∈ cfg.path (s.taskQueue task).tg,
        ev.entity = .group g (s.taskQueue task).cpu) s [.enqueue (.task task)]
        (enqueueLoop cfg spent (s.entities cfg task) s wakeup).1 := by
      rw [entities, enqueueLoop, if_neg (Bool.eq_false_iff.mp hon)]
      dsimp only
      split
      · exact ⟨first, hfirst, hdrops.inGroups⟩
      · refine h.enqueueLoop spent ?_ true (h.addHNrRunning _ _ 1 ⟨first, hfirst, hdrops.inGroups⟩)
        intro e he
        obtain ⟨g, hg, rfl⟩ := mem_map.mp he
        exact ⟨g, hg, rfl⟩
    obtain ⟨rest, hrest, hin⟩ := h.enqueueTaskFair spent hloop
    exact ⟨_, hrest, rest, rfl, hin⟩

/-- A task is dequeued, followed by dequeues of its groups. -/
lemma dequeueTaskFair_performs (task : T) (sleep : Bool) : ∃ rest,
    Performs cfg s (.dequeue (.task task) :: rest) (s.dequeueTaskFair cfg task sleep) ∧
    Drops (cfg.path (s.taskQueue task).tg) (s.taskQueue task).cpu rest := by
  have h := drops_walks cfg s [.dequeue (.task task)] (s.taskQueue task).tg (s.taskQueue task).cpu
  have hfirst := dequeueEntity_performs cfg s (.task task) sleep
  apply h.dequeueTaskFair
  rw [entities, dequeueLoop]
  split
  · exact ⟨[], hfirst, nofun⟩
  · have hcounted := h.subHNrRunning _ (s.cfsRqOf cfg (.task task)) 1 ⟨[], hfirst, nofun⟩
    dsimp only
    split
    · exact hcounted
    · refine h.dequeueLoop ?_ true hcounted
      intro e he t sleep ht
      obtain ⟨g, hg, rfl⟩ := mem_map.mp he
      refine ht.append (dequeueEntity_performs cfg t _ sleep) fun ev hev => ?_
      exact ⟨g, hg, mem_singleton.mp hev⟩

lemma putPrevEntity_performs : ∃ events, Performs cfg s events (s.putPrevEntity cfg e spent) ∧
    Drops (cfg.path (s.cfsRqOf cfg e).tg) (s.cfsRqOf cfg e).cpu events :=
  (drops_walks cfg s [] _ _).putPrevEntity e spent ⟨List.Subset.refl _, rfl⟩ .refl

lemma Performs.cfsRqOf (h : Performs cfg s events t) : t.cfsRqOf cfg = s.cfsRqOf cfg := cfsRqOf_congr h.taskQueue cfg

lemma putPrevTaskFair_performs (task : T) (spent : QueueId G C → Bool) :
    ∃ events, Performs cfg s events (s.putPrevTaskFair cfg task spent) ∧
    Drops (cfg.path (s.taskQueue task).tg) (s.taskQueue task).cpu events := by
  refine (drops_walks cfg s [] _ _).putPrevTaskFair spent ?_ .refl
  rintro e he t ⟨rest, hrest, -⟩
  rw [hrest.cfsRqOf]
  obtain _ | ⟨_, he⟩ := he
  · exact ⟨List.Subset.refl _, rfl⟩
  · obtain ⟨g, hg, rfl⟩ := mem_map.mp he
    exact ⟨cfg.path_parent_subset _ g hg, rfl⟩

lemma migrateTask_roster (task : T) (cpu : C) (nohz : Option Nat) :
    (s.migrateTask task cpu nohz).roster = s.roster.relocate task cpu := by
  have hquiet : (if (s.taskQueue task).cpu = cpu then s else s.migrateTaskRqFair task nohz).roster = s.roster := by
    split
    · rfl
    · rw [(migrateTaskRqFair_calm ..).roster]
  rw [← hquiet]
  rfl

end Events

namespace ClassOp

variable (cfg : Config G C) (s : State T G C)

/-- The events that an operation of the class may amount to. -/
def Shape (events : List (QueueEvent T G C)) : ClassOp T G C → Prop
  | .enqueue t _ _ =>
    if (s.se (.task t)).onRq then events = []
    else ∃ rest, events = .enqueue (.task t) :: rest ∧ InGroups (cfg.path (s.taskQueue t).tg) (s.taskQueue t).cpu rest
  | .dequeue t _ =>
    ∃ rest, events = .dequeue (.task t) :: rest ∧ Drops (cfg.path (s.taskQueue t).tg) (s.taskQueue t).cpu rest
  | .putPrev t _ => Drops (cfg.path (s.taskQueue t).tg) (s.taskQueue t).cpu events
  | .throttle q => Drops (cfg.path q.tg) q.cpu events
  | .unthrottle q _ =>
    InGroups (cfg.path q.tg) q.cpu events ∧ ((∃ ev ∈ events, ev.isEnqueue = true) ↔ s.Requeues q)
  | .tick _ | .pickNext _ | .migrate _ _ _ | .clock _ _ | .idle _ _ => events = []

/-- Only a migration changes the roster other than by events. -/
def relocated (r : Roster T G C) : ClassOp T G C → Roster T G C
  | .migrate t cpu _ => r.relocate t cpu
  | _ => r

end ClassOp

/-- Every operation of the class is a migration or a list of events. -/
lemma classStep_performs (cfg : Config G C) (s : State T G C)
    (op : ClassOp T G C) : ∃ events, (s.classStep cfg op).roster =
    events.foldl (Roster.apply cfg) (op.relocated s.roster) ∧ op.Shape cfg s events := by
  cases op with
  | enqueue t wakeup spent => exact enqueueTaskFair_performs cfg s t wakeup spent
  | dequeue t sleep =>
    obtain ⟨rest, hperforms, hdrops⟩ := dequeueTaskFair_performs cfg s t sleep
    exact ⟨_, hperforms, rest, rfl, hdrops⟩
  | tick t => exact ⟨[], (performs_walks cfg s []).taskTickFair t rfl, rfl⟩
  | pickNext t => exact ⟨[], (performs_walks cfg s []).pickNextTaskFair t rfl, rfl⟩
  | putPrev t spent => exact putPrevTaskFair_performs cfg s t spent
  | migrate t cpu nohz => exact ⟨[], migrateTask_roster s t cpu nohz, rfl⟩
  | clock cpu clockTask => exact ⟨[], rfl, rfl⟩
  | idle cpu entering => exact ⟨[], (updateRqRunnableAvg_quiet cfg s cpu entering).roster, rfl⟩
  | throttle q => exact throttleCfsRq_performs cfg s q
  | unthrottle q spent => exact unthrottleCfsRq_performs cfg s q spent

end BigLittle.Cfs
