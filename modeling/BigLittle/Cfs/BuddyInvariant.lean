import BigLittle.Cfs.Buddies
import BigLittle.Cfs.HNrRunning
import BigLittle.Cfs.ThrottleCount

/-!
# Buddies are queued

A pointer is safe if what it names is queued on that queue. Dequeueing clears the
pointers to the entity first, so only setting them can go wrong: it names an entity and
everything above it, and above a throttled queue the entities are off.

The pointers to a woken task are set only if no queue above it is throttled, which
`throttle_count` tells; a task that is preempted then shares a queue with something
above the woken one. Those of the current task are set without a look, when it goes to
sleep or yields. It gets below a throttled queue when it enters the class while it runs.
-/

namespace BigLittle.Cfs

open List
open BuddyState (preempt state)
open Function (update update_of_ne update_self)

variable {T G C : Type*} {cfg : Config G C} {s : State T G C} {b b' : BuddyState T G C}

/-- The same entities are queued, on the same queues. -/
def State.SameQueued (s t : State T G C) : Prop :=
  t.roll.onRq = s.roll.onRq ∧ t.roll.taskQueue = s.roll.taskQueue

namespace State.SameQueued

variable {t u : State T G C}

lemma refl (s : State T G C) : s.SameQueued s := ⟨rfl, rfl⟩

lemma trans (h : s.SameQueued t) (h' : t.SameQueued u) : s.SameQueued u :=
  ⟨h'.1.trans h.1, h'.2.trans h.2⟩

lemma of_roll (h : t.roll = s.roll) : s.SameQueued t :=
  ⟨congrArg Roll.onRq h, congrArg Roll.taskQueue h⟩

end State.SameQueued

variable {e : Entity T G C} {q : QueueId G C} {t : T} {cpu : C} {p : Pointer T G C} {r : Roll T G C} {h : Hierarchy G}

/-- What the pointer names is queued where it is named. -/
def Pointer.Safe (h : Hierarchy G) (r : Roll T G C) (p : Pointer T G C) : Prop :=
  ∀ q e, p q = some e → r.onRq e = true ∧ r.queueOf h e = q

namespace Pointer

lemma Safe.congr {r' : Roll T G C} (hp : p.Safe h r) (hon : r'.onRq = r.onRq)
    (hqueue : r'.taskQueue = r.taskQueue) : p.Safe h r' := by
  intro q e he
  have heq : r'.queueOf h e = r.queueOf h e := by
    cases e with
    | task t => exact congrFun hqueue t
    | group g cpu => rfl
  rw [hon, heq]
  exact hp q e he

variable [DecidableEq T] in
lemma Safe.setTaskQueue (hp : p.Safe h r) (hoff : r.onRq (.task t) = false)
    (q' : QueueId G C) : p.Safe h (r.setTaskQueue t q') :=
  fun q e he => (Roll.setTaskQueue_mem hoff q' q e).mpr (hp q e he)

end Pointer

namespace BuddyState

@[simp] lemma onState_state (b : BuddyState T G C) (f : State T G C → State T G C) :
    (b.onState f).state = f b.state := rfl

structure Safe (cfg : Config G C) (b : BuddyState T G C) : Prop where
  next : b.next.Safe cfg.toHierarchy b.state.roll
  last : b.last.Safe cfg.toHierarchy b.state.roll
  skip : b.skip.Safe cfg.toHierarchy b.state.roll

lemma Safe.onState (hb : b.Safe cfg) {f : State T G C → State T G C}
    (hf : ∀ p : Pointer T G C, p.Safe cfg.toHierarchy b.state.roll → p.Safe cfg.toHierarchy (f b.state).roll) :
    (b.onState f).Safe cfg :=
  ⟨hf _ hb.next, hf _ hb.last, hf _ hb.skip⟩

/-- What queues and dequeues nothing. -/
lemma Safe.quiet (hb : b.Safe cfg) {f : State T G C → State T G C} (hsame : b.state.SameQueued (f b.state)) :
    (b.onState f).Safe cfg :=
  hb.onState fun _ hp => hp.congr hsame.1 hsame.2

/-- `b'` does to the class what is asked, and its pointers are safe if those of `b` are. -/
structure Follows (cfg : Config G C) (b b' : BuddyState T G C) (s : State T G C) : Prop where
  state : b'.state = s
  safe : b.Safe cfg → b'.Safe cfg

lemma Follows.ite {c : Prop} [Decidable c] {x y : BuddyState T G C} {s t : State T G C} (h : b.Follows cfg x s)
    (h' : b.Follows cfg y t) : b.Follows cfg (if c then x else y) (if c then s else t) := by
  split
  · exact h
  · exact h'

/-- When `pick_next_entity` is called: the queue has entities but none that runs, so all
of them are in its timeline. -/
structure Pickable (cfg : Config G C) (b : BuddyState T G C) (q : QueueId G C)
    (timeline : Timeline (Entity T G C)) : Prop where
  occupied : ∃ e, (b.state.se e).onRq = true ∧ b.state.cfsRqOf cfg e = q
  holds : timeline.Holds b.vruntime fun e => (b.state.se e).onRq = true ∧ b.state.cfsRqOf cfg e = q

/-- Each pointer of a queue is null or names an entity queued there. -/
def BuddiesQueued (cfg : Config G C) (b : BuddyState T G C) : Prop :=
  ∀ q e, b.next q = some e ∨ b.last q = some e ∨ b.skip q = some e →
    (b.state.se e).onRq = true ∧ b.state.cfsRqOf cfg e = q

/-- A queued entity that is the leftmost or not a granularity behind it. -/
def Eligible (cfg : Config G C) (env : BuddyEnv) (b : BuddyState T G C)
    (q : QueueId G C) (left se : Entity T G C) : Prop :=
  ((b.state.se se).onRq = true ∧ b.state.cfsRqOf cfg se = q) ∧ (se = left ∨ b.wakeupPreemptEntity env se left < 1)

lemma Safe.buddiesQueued (hb : b.Safe cfg) : b.BuddiesQueued cfg := by
  have hqueued : ∀ {p : Pointer T G C}, p.Safe cfg.toHierarchy b.state.roll →
      ∀ q e, p q = some e → (b.state.se e).onRq = true ∧ b.state.cfsRqOf cfg e = q := by
    intro p hp q e he
    obtain ⟨hon, hqueue⟩ := hp q e he
    exact ⟨hon, (queueOf_roll b.state cfg e).symm.trans hqueue⟩
  rintro q e (he | he | he)
  · exact hqueued hb.next q e he
  · exact hqueued hb.last q e he
  · exact hqueued hb.skip q e he

lemma Eligible.prefer {env : BuddyEnv} {candidate : Option (Entity T G C)}
    {left se : Entity T G C} (hse : b.Eligible cfg env q left se)
    (hcandidate : ∀ e, candidate = some e → (b.state.se e).onRq = true ∧ b.state.cfsRqOf cfg e = q) :
    b.Eligible cfg env q left (b.prefer env left candidate se) := by
  rw [BuddyState.prefer.eq_def]
  split
  next e =>
    split
    next hrank => exact ⟨hcandidate e rfl, .inr hrank⟩
    next => exact hse
  next => exact hse

end BuddyState

/-- Neither the queue nor one above it is throttled. -/
def State.Open (cfg : Config G C) (s : State T G C) (q : QueueId G C) : Prop :=
  ∀ a ∈ cfg.lineage q.tg, (s.cfs ⟨a, q.cpu⟩).throttled = false
  deriving Decidable

lemma State.Open.parent {g : G} (h : s.Open cfg ⟨some g, cpu⟩) : s.Open cfg ⟨cfg.parent g, cpu⟩ := by
  intro a ha
  refine h a ?_
  rw [Hierarchy.lineage_some]
  exact mem_cons_of_mem _ ha

lemma State.Open.self (h : s.Open cfg q) : (s.cfs q).throttled = false := by
  obtain ⟨tg, cpu⟩ := q
  refine h tg ?_
  cases tg with
  | none => exact cfg.none_mem_lineage none
  | some g =>
    rw [Hierarchy.lineage_some]
    exact mem_cons_self

/-- All queues that a walk from the task visits are open. -/
lemma State.Open.of_mem (h : s.Open cfg (s.taskQueue t)) (he : e ∈ s.entities cfg t) :
    s.Open cfg (s.cfsRqOf cfg e) := by
  obtain rfl | he := mem_cons.mp he
  · exact h
  · obtain ⟨g, hg, rfl⟩ := mem_map.mp he
    intro a ha
    refine h a ?_
    cases a with
    | none => exact cfg.none_mem_lineage _
    | some p =>
      rw [Hierarchy.some_mem_lineage] at ha ⊢
      exact cfg.path_parent_subset _ g hg ha

lemma forEach_group (s : State T G C) (g : G) (cpu : C) : s.forEach cfg (.group g cpu) = chain cfg cpu (some g) := by
  rw [chain_some]
  rfl

/-- A walk that starts further up visits no other entities. -/
lemma forEach_subset (he : e ∈ s.entities cfg t) : s.forEach cfg e ⊆ s.entities cfg t := by
  obtain rfl | he := mem_cons.mp he
  · exact List.Subset.refl _
  · obtain ⟨g, hg, rfl⟩ := mem_map.mp he
    rw [forEach_group]
    refine List.Subset.trans (map_subset _ ?_) (subset_cons_self _ _)
    rw [cfg.path_some]
    exact cons_subset.mpr ⟨hg, cfg.path_parent_subset _ g hg⟩

lemma not_mem_chain_self (g : G) : (.group g cpu : Entity T G C) ∉ chain cfg cpu (cfg.parent g) := by
  have hnodup := cfg.path_nodup (some g)
  rw [cfg.path_some, nodup_cons] at hnodup
  intro hmem
  obtain ⟨g', hg', heq⟩ := mem_map.mp hmem
  cases heq
  exact hnodup.1 hg'

variable [DecidableEq G] [DecidableEq C]

namespace Pointer

lemma setLoop_eq_or (cfg : Config G C) (s : State T G C) (l : List (Entity T G C)) (p : Pointer T G C)
    (q : QueueId G C) : setLoop cfg s l p q = p q ∨ ∃ e ∈ l, s.cfsRqOf cfg e = q ∧ setLoop cfg s l p q = some e := by
  induction l generalizing p with
  | nil => exact .inl rfl
  | cons e rest ih =>
    rw [setLoop]
    obtain heq | ⟨e', he', hqueue, heq⟩ := ih (update p (s.cfsRqOf cfg e) (some e))
    · by_cases hq : q = s.cfsRqOf cfg e
      · refine .inr ⟨e, mem_cons_self, hq.symm, heq.trans ?_⟩
        rw [hq, update_self]
      · exact .inl (heq.trans (update_of_ne hq _ _))
    · exact .inr ⟨e', mem_cons_of_mem e he', hqueue, heq⟩

lemma Safe.set (hp : p.Safe cfg.toHierarchy s.roll) (hon : ∀ e' ∈ s.forEach cfg e, (s.se e').onRq = true) :
    (p.set cfg s e).Safe cfg.toHierarchy s.roll := by
  intro q e' he'
  obtain hsame | ⟨e'', hmem, hqueue, heq⟩ := setLoop_eq_or cfg s (s.forEach cfg e) p q
  · exact hp q e' (hsame.symm.trans he')
  · cases heq.symm.trans he'
    exact ⟨hon e' hmem, (queueOf_roll s cfg e').trans hqueue⟩

end Pointer

namespace BuddyState

section

variable (b e)

@[simp] lemma setNextBuddy_state : (b.setNextBuddy cfg e).state = b.state := by
  rw [setNextBuddy]
  split <;> rfl

@[simp] lemma setLastBuddy_state : (b.setLastBuddy cfg e).state = b.state := by
  rw [setLastBuddy]
  split <;> rfl

end

lemma climb_mem {l l' : List (Entity T G C)} {e e' : Entity T G C}
    (h : b.climb cfg l l' = some (e, e')) : e ∈ l ∧ e' ∈ l' ∧ b.state.cfsRqOf cfg e = b.state.cfsRqOf cfg e' := by
  fun_induction climb cfg b l l' with
  | case1 x rest x' rest' heq =>
    cases h
    exact ⟨mem_cons_self, mem_cons_self, heq⟩
  | case2 x rest x' rest' hne ih =>
    obtain ⟨he, he', heq⟩ := ih h
    exact ⟨mem_cons_of_mem x he, mem_cons_of_mem x' he', heq⟩
  | case3 => cases h

lemma findMatchingSe_mem {curr p : T} {se pse : Entity T G C}
    (h : b.findMatchingSe cfg curr p = some (se, pse)) : se ∈ b.state.entities cfg curr ∧
    pse ∈ b.state.entities cfg p ∧ b.state.cfsRqOf cfg se = b.state.cfsRqOf cfg pse := by
  obtain ⟨hse, hpse, heq⟩ := climb_mem h
  exact ⟨mem_of_mem_drop hse, mem_of_mem_drop hpse, heq⟩

namespace Safe

variable (hb : b.Safe cfg)
include hb

lemma setNextBuddy (hon : ∀ e' ∈ b.state.forEach cfg e, (b.state.se e').onRq = true) :
    (b.setNextBuddy cfg e).Safe cfg := by
  rw [BuddyState.setNextBuddy]
  split
  · exact hb
  · exact { hb with next := hb.next.set hon }

lemma setLastBuddy
    (hon : b.isIdleTask e = false → ∀ e' ∈ b.state.forEach cfg e, (b.state.se e').onRq = true) :
    (b.setLastBuddy cfg e).Safe cfg := by
  rw [BuddyState.setLastBuddy]
  split
  · exact hb
  next hidle => exact { hb with last := hb.last.set (hon (Bool.eq_false_of_not_eq_true hidle)) }

lemma setSkipBuddy (hon : ∀ e' ∈ b.state.forEach cfg e, (b.state.se e').onRq = true) :
    (b.setSkipBuddy cfg e).Safe cfg :=
  { hb with skip := hb.skip.set hon }

lemma updateRqRunnableAvg (cpu : C) (runnable : Bool) :
    (b.onState fun s => s.updateRqRunnableAvg cfg cpu runnable).Safe cfg :=
  hb.quiet (.of_roll (roll_of_bare (updateRqRunnableAvg_quiet ..).bare))

end Safe

end BuddyState

section Settled

variable [Fintype T] [Fintype G] [Fintype C] {place : Place G C}

/-- From an occupied open queue on, all entities above are queued. -/
lemma Counted.chain_on (hs : Counted cfg s [] place 0) (tg : Option G)
    (hopen : s.Open cfg ⟨tg, cpu⟩) (hq : s.roll.Occupied cfg.toHierarchy ⟨tg, cpu⟩) :
    ∀ e ∈ (chain cfg cpu tg : List (Entity T G C)), (s.se e).onRq = true := by
  induction tg using cfg.upInduction with
  | root => exact nofun
  | group g ih =>
    have hon : s.roll.onRq (.group g cpu) = true :=
      (hs.settled g cpu not_mem_nil).mpr ⟨hq, hopen.self⟩
    rw [chain_some]
    intro e he
    obtain rfl | he := mem_cons.mp he
    · exact hon
    · exact ih hopen.parent ⟨_, hon, rfl⟩ e he

lemma Counted.entities_on (hs : Counted cfg s [] place 0) (hopen : s.Open cfg (s.taskQueue t))
    (hon : (s.se (.task t)).onRq = true) : ∀ e ∈ s.entities cfg t, (s.se e).onRq = true := by
  intro e he
  obtain rfl | he := mem_cons.mp he
  · exact hon
  · exact hs.chain_on (s.taskQueue t).tg hopen ⟨.task t, hon, rfl⟩ e he

/-- What `throttled_hierarchy` finds open is open. -/
lemma Counted.open_of_throttledHierarchy (hs : Counted cfg s [] place 0)
    (hcounts : s.gates.Counts cfg fun _ => True) (hq : s.throttledHierarchy cfg q = false) : s.Open cfg q := by
  intro a ha
  rw [← Bool.not_eq_true]
  intro hthrottled
  have hcount : (s.cfs q).throttleCount = 0 := by
    rw [State.throttledHierarchy, hs.limited ⟨a, q.cpu⟩ hthrottled] at hq
    simpa using hq
  have hclosed : s.gates.closed cfg q = 0 := by
    exact_mod_cast (hcounts q trivial).symm.trans hcount
  exact countP_eq_zero.mp hclosed a ha hthrottled

/-- The class's state is right, so the guards of the setters are. -/
structure BuddyState.Inv (cfg : Config G C) (b : BuddyState T G C) : Prop where
  counted : ∀ place, Counted cfg b.state [] place 0
  counts : b.state.gates.Counts cfg fun _ => True
  safe : b.Safe cfg

namespace BuddyState.Inv

variable (hb : b.Inv cfg)
include hb

lemma entities_on (hopen : b.state.Open cfg (b.state.taskQueue t))
    (hon : (b.state.se (.task t)).onRq = true) : ∀ e ∈ b.state.entities cfg t, (b.state.se e).onRq = true :=
  (hb.counted (.queue (b.state.taskQueue t))).entities_on hopen hon

lemma open_of_throttledHierarchy (hq : b.state.throttledHierarchy cfg q = false) : b.state.Open cfg q :=
  (hb.counted (.queue q)).open_of_throttledHierarchy hb.counts hq

/-- Same state, other pointers. -/
lemma of_state (hstate : b'.state = b.state) (hsafe : b'.Safe cfg) : b'.Inv cfg :=
  ⟨hstate ▸ hb.counted, hstate ▸ hb.counts, hsafe⟩

lemma setNextBuddy (hon : ∀ e' ∈ b.state.forEach cfg e, (b.state.se e').onRq = true) :
    (b.setNextBuddy cfg e).Inv cfg :=
  hb.of_state (setNextBuddy_state b e) (hb.safe.setNextBuddy hon)

/-- The task that is found on the queue of an open walk has all above it queued. A task
with the idle policy is not made the last buddy. -/
lemma preempt (env : BuddyEnv) {se : Entity T G C} (scale idle : Bool)
    (hopen : ∀ t, se = .task t → b.isIdleTask se = false → b.state.Open cfg (b.state.taskQueue t)) :
    (b.preempt cfg env se scale idle).Inv cfg := by
  rw [preempt.eq_def]
  split
  · exact hb
  next hself =>
    have hon : (b.state.se se).onRq = true := by
      rw [not_or] at hself
      simpa using hself.1
    cases se with
    | group g cpu => exact hb
    | task t =>
      dsimp only
      split
      · exact hb.of_state (setLastBuddy_state b _)
          (hb.safe.setLastBuddy fun hidle => hb.entities_on (hopen t rfl hidle) hon)
      · exact hb

/-- Both entities that `find_matching_se` finds are on one queue, which is open because
it is above the woken task. -/
lemma preempt_found (env : BuddyEnv) {curr p : T} {se pse : Entity T G C}
    (hopen : b.state.Open cfg (b.state.taskQueue p)) (hp : (b.state.se (.task p)).onRq = true)
    (hfound : b.findMatchingSe cfg curr p = some (se, pse)) (marked scale idle : Bool) :
    ((if marked then b else b.setNextBuddy cfg pse).preempt cfg env se scale idle).Inv cfg := by
  obtain ⟨-, hpse, hqueue⟩ := findMatchingSe_mem hfound
  have hqueued : ∀ e ∈ b.state.forEach cfg pse, (b.state.se e).onRq = true :=
    fun e he => hb.entities_on hopen hp e (forEach_subset hpse he)
  have hse : ∀ t, se = .task t → b.state.Open cfg (b.state.taskQueue t) := by
    rintro t rfl
    have hself : b.state.taskQueue t = b.state.cfsRqOf cfg pse := hqueue
    rw [hself]
    exact hopen.of_mem hpse
  cases marked with
  | true => exact hb.preempt env scale idle fun t ht _ => hse t ht
  | false =>
    refine (hb.setNextBuddy hqueued).preempt env scale idle fun t ht _ => ?_
    rw [setNextBuddy_state]
    exact hse t ht

end BuddyState.Inv

/-- A machine as it starts, without buddies. -/
def BuddyState.boot (boot : Boot T G C) (policy : T → Policy) (vruntime : Entity T G C → Nat) : BuddyState T G C where
  state := boot.state
  next _ := none
  last _ := none
  skip _ := none
  policy := policy
  vruntime := vruntime

lemma BuddyState.boot_inv (cfg : Config G C) (start : Boot T G C) (policy : T → Policy)
    (vruntime : Entity T G C → Nat) : (boot start policy vruntime).Inv cfg where
  counted := start.counted cfg
  counts r _ := by
    have hclosed : (boot start policy vruntime).state.gates.closed cfg r = 0 :=
      countP_eq_zero.mpr fun _ _ => Bool.false_ne_true
    rw [hclosed]
    rfl
  safe := ⟨fun _ _ => nofun, fun _ _ => nofun, fun _ _ => nofun⟩

end Settled

variable [DecidableEq T]

namespace Pointer

lemma clearLoop_eq_or (cfg : Config G C) (s : State T G C) (l : List (Entity T G C)) (p : Pointer T G C)
    (q : QueueId G C) : clearLoop cfg s l p q = p q ∨ clearLoop cfg s l p q = none := by
  induction l generalizing p with
  | nil => exact .inl rfl
  | cons e rest ih =>
    rw [clearLoop]
    split
    · by_cases hq : q = s.cfsRqOf cfg e
      · obtain heq | heq := ih (update p (s.cfsRqOf cfg e) none)
        · exact .inr (heq.trans (by rw [hq, update_self]))
        · exact .inr heq
      · have hsame : update p (s.cfsRqOf cfg e) none q = p q := update_of_ne hq _ _
        rw [← hsame]
        exact ih _
    · exact .inl rfl

lemma clear_eq_or (cfg : Config G C) (s : State T G C) (p : Pointer T G C)
    (e : Entity T G C) (q : QueueId G C) : clear cfg s p e q = p q ∨ clear cfg s p e q = none := by
  rw [clear]
  split
  · exact clearLoop_eq_or cfg s _ _ _
  · exact .inl rfl

/-- The entity itself is no longer named. -/
lemma clear_self (p : Pointer T G C) (e : Entity T G C) : clear cfg s p e (s.cfsRqOf cfg e) ≠ some e := by
  rw [clear]
  split
  next heq =>
    rw [State.forEach, clearLoop, if_pos heq]
    obtain hsame | hnone := clearLoop_eq_or cfg s (chain cfg (s.cfsRqOf cfg e).cpu (s.cfsRqOf cfg e).tg)
      (update p (s.cfsRqOf cfg e) none) (s.cfsRqOf cfg e)
    · rw [hsame, update_self]
      exact nofun
    · rw [hnone]
      exact nofun
  next hne => exact hne

lemma Safe.clear (hp : p.Safe h r) (e : Entity T G C) : (p.clear cfg s e).Safe h r := by
  intro q e' he'
  obtain hsame | hnone := clear_eq_or cfg s p e q
  · exact hp q e' (hsame.symm.trans he')
  · cases hnone.symm.trans he'

/-- Queueing an entity is safe. -/
lemma Safe.setOnRq_true (hp : p.Safe h r) (e : Entity T G C) : p.Safe h (r.setOnRq e true) := by
  intro q e' he'
  obtain ⟨hon, hqueue⟩ := hp q e' he'
  refine ⟨?_, (Roll.queueOf_setOnRq true e').trans hqueue⟩
  by_cases heq : e' = e
  · rw [heq, Roll.onRq_setOnRq_self]
  · rwa [Roll.onRq_setOnRq_of_ne heq]

/-- Dequeueing one is safe if it is not named. -/
lemma Safe.setOnRq_false (hp : p.Safe h r) (hnot : p (r.queueOf h e) ≠ some e) : p.Safe h (r.setOnRq e false) := by
  intro q e' he'
  obtain ⟨hon, hqueue⟩ := hp q e' he'
  have hne : e' ≠ e := by
    rintro rfl
    exact hnot (hqueue ▸ he')
  refine ⟨?_, (Roll.queueOf_setOnRq false e').trans hqueue⟩
  rwa [Roll.onRq_setOnRq_of_ne hne]

end Pointer

namespace BuddyState

section Projection

variable (b e)

@[simp] lemma dequeueEntity_state (sleep : Bool) : (b.dequeueEntity cfg e sleep).state =
    b.state.dequeueEntity cfg e sleep := rfl

lemma dequeueLoop_state (taskSleep : Bool) (entities : List (Entity T G C)) (b : BuddyState T G C)
    (sleep : Bool) : State.dequeueLoop cfg entities b.state sleep =
    ((dequeueLoop cfg taskSleep entities b sleep).1.state, (dequeueLoop cfg taskSleep entities b sleep).2) := by
  induction entities generalizing b sleep with
  | nil => rfl
  | cons e rest ih =>
    rw [dequeueLoop, State.dequeueLoop, ← dequeueEntity_state]
    dsimp only
    split
    · rfl
    · rw [onState_state]
      split
      · split
        · rw [setNextBuddy_state]
          rfl
        · rfl
      · exact ih ((b.dequeueEntity cfg e sleep).onState fun s => s.subHNrRunning _ 1) true

lemma dequeueTaskFair_state (t : T) (sleep : Bool) :
    (b.dequeueTaskFair cfg t sleep).state = b.state.dequeueTaskFair cfg t sleep := by
  rw [dequeueTaskFair, State.dequeueTaskFair, dequeueLoop_state sleep]
  rfl

end Projection

namespace Safe

variable (hb : b.Safe cfg)
include hb

lemma clearBuddies (e : Entity T G C) : (b.clearBuddies cfg e).Safe cfg :=
  ⟨hb.next.clear e, hb.last.clear e, hb.skip.clear e⟩

lemma enqueued (e : Entity T G C) (wakeup : Bool) : (b.onState fun s => s.enqueued cfg e wakeup).Safe cfg := by
  refine hb.onState fun p hp => ?_
  rw [enqueued_roll]
  exact hp.setOnRq_true e

lemma dequeueEntity (e : Entity T G C) (sleep : Bool) : (b.dequeueEntity cfg e sleep).Safe cfg := by
  have hcleared : ∀ p : Pointer T G C, p.Safe cfg.toHierarchy b.state.roll →
      (p.clear cfg b.state e).Safe cfg.toHierarchy (b.state.dequeueEntity cfg e sleep).roll := by
    intro p hp
    rw [dequeueEntity_roll]
    refine (hp.clear e).setOnRq_false ?_
    rw [queueOf_roll]
    exact p.clear_self e
  exact ⟨hcleared _ hb.next, hcleared _ hb.last, hcleared _ hb.skip⟩

end Safe

section Follows

variable (cfg b e q cpu) (taskDelta : Nat) (spent : QueueId G C → Bool) (wakeup : Bool)

lemma throttleLoop_follows (groups : List G) (dequeue : Bool) :
    State.throttleLoop cfg cpu taskDelta groups b.state dequeue =
    ((throttleLoop cfg cpu taskDelta groups b dequeue).1.state, (throttleLoop cfg cpu taskDelta groups b dequeue).2) ∧
    (b.Safe cfg → (throttleLoop cfg cpu taskDelta groups b dequeue).1.Safe cfg) := by
  induction groups generalizing b dequeue with
  | nil => exact ⟨rfl, id⟩
  | cons g rest ih =>
    rw [throttleLoop, State.throttleLoop]
    split
    · cases dequeue with
      | true =>
        obtain ⟨hstate, hsafe⟩ :=
          ih ((b.dequeueEntity cfg (.group g cpu) true).onState fun s => s.subHNrRunning _ taskDelta) _
        exact ⟨hstate, fun hb => hsafe ((hb.dequeueEntity _ true).quiet ⟨rfl, rfl⟩)⟩
      | false =>
        obtain ⟨hstate, hsafe⟩ := ih (b.onState fun s => s.subHNrRunning _ taskDelta) _
        exact ⟨hstate, fun hb => hsafe (hb.quiet ⟨rfl, rfl⟩)⟩
    · exact ⟨rfl, id⟩

lemma throttleCfsRq_follows : b.Follows cfg (b.throttleCfsRq cfg q) (b.state.throttleCfsRq cfg q) := by
  obtain ⟨hstate, hsafe⟩ := throttleLoop_follows cfg
    (b.onState fun s => s.walkTgTreeFrom cfg q State.tgThrottleDown) q.cpu
    ((b.state.walkTgTreeFrom cfg q State.tgThrottleDown).cfs q).hNrRunning (cfg.path q.tg) true
  constructor
  · rw [throttleCfsRq, State.throttleCfsRq]
    dsimp only [onState] at hstate ⊢
    rw [hstate]
    split <;> rfl
  · intro hb
    have hloop := hsafe (hb.quiet ⟨rfl, rfl⟩)
    rw [throttleCfsRq]
    refine Safe.quiet ?_ ⟨rfl, rfl⟩
    split
    · exact hloop.quiet ⟨rfl, rfl⟩
    · exact hloop

lemma checkCfsRqRuntime_follows :
    b.Follows cfg (b.checkCfsRqRuntime cfg q spent) (b.state.checkCfsRqRuntime cfg q spent) :=
  .ite (throttleCfsRq_follows cfg b q) ⟨rfl, id⟩

lemma enqueueEntity_follows :
    b.Follows cfg (b.enqueueEntity cfg e wakeup spent) (b.state.enqueueEntity cfg e wakeup spent) := by
  have henqueued : b.Follows cfg (b.onState fun s => s.enqueued cfg e wakeup) (b.state.enqueued cfg e wakeup) :=
    ⟨rfl, fun hb => hb.enqueued e wakeup⟩
  obtain ⟨hstate, hsafe⟩ := throttleCfsRq_follows cfg (b.onState fun s => s.enqueued cfg e wakeup)
    (b.state.cfsRqOf cfg e)
  rw [enqueueEntity_eq]
  exact .ite (.ite ⟨hstate, fun hb => hsafe (henqueued.safe hb)⟩ henqueued) henqueued

lemma unthrottleEntity_follows (enqueue : Bool) : b.Follows cfg (b.unthrottleEntity cfg e taskDelta enqueue spent)
      (b.state.unthrottleEntity cfg e taskDelta enqueue spent) := by
  rw [unthrottleEntity, State.unthrottleEntity]
  split
  · obtain ⟨hstate, hsafe⟩ := enqueueEntity_follows cfg b e spent true
    rw [← hstate]
    exact ⟨rfl, fun hb => (hsafe hb).quiet ⟨rfl, rfl⟩⟩
  · exact ⟨rfl, fun hb => hb.quiet ⟨rfl, rfl⟩⟩

lemma unthrottleLoop_follows (groups : List G) (enqueue : Bool) :
    State.unthrottleLoop cfg cpu taskDelta spent groups b.state enqueue =
        ((unthrottleLoop cfg cpu taskDelta spent groups b enqueue).1.state,
          (unthrottleLoop cfg cpu taskDelta spent groups b enqueue).2) ∧
      (b.Safe cfg → (unthrottleLoop cfg cpu taskDelta spent groups b enqueue).1.Safe cfg) := by
  induction groups generalizing b enqueue with
  | nil => exact ⟨rfl, id⟩
  | cons g rest ih =>
    obtain ⟨hround, hsafe⟩ := unthrottleEntity_follows cfg b (.group g cpu) taskDelta spent
      (enqueue && !(b.state.se (.group g cpu)).onRq)
    rw [unthrottleLoop, State.unthrottleLoop, ← hround]
    split
    · exact ⟨rfl, hsafe⟩
    · obtain ⟨hstate, hrest⟩ := ih (b.unthrottleEntity cfg (.group g cpu) taskDelta _ spent) _
      exact ⟨hstate, fun hb => hrest (hsafe hb)⟩

lemma unthrottleCfsRq_follows :
    b.Follows cfg (b.unthrottleCfsRq cfg q spent) (b.state.unthrottleCfsRq cfg q spent) := by
  let opened := b.onState fun s =>
    (s.modifyCfs q fun c => { c with throttled := false }).walkTgTreeFrom cfg q State.tgUnthrottleUp
  have hopened : b.Safe cfg → opened.Safe cfg := fun hb => hb.quiet ⟨rfl, rfl⟩
  obtain ⟨hstate, hsafe⟩ := unthrottleLoop_follows cfg opened q.cpu (opened.state.cfs q).hNrRunning spent
    (cfg.path q.tg) true
  constructor
  · rw [unthrottleCfsRq, State.unthrottleCfsRq, apply_ite state]
    refine if_congr Iff.rfl rfl ?_
    dsimp only [onState, opened] at hstate ⊢
    rw [hstate]
    split <;> rfl
  · intro hb
    have hloop := hsafe (hopened hb)
    rw [BuddyState.unthrottleCfsRq]
    dsimp only
    split
    · exact hopened hb
    · split
      · exact hloop.quiet ⟨rfl, rfl⟩
      · exact hloop

lemma enqueueLoop_follows (entities : List (Entity T G C)) : State.enqueueLoop cfg spent entities b.state wakeup =
    ((enqueueLoop cfg spent entities b wakeup).1.state, (enqueueLoop cfg spent entities b wakeup).2) ∧
    (b.Safe cfg → (enqueueLoop cfg spent entities b wakeup).1.Safe cfg) := by
  induction entities generalizing b wakeup with
  | nil => exact ⟨rfl, id⟩
  | cons e rest ih =>
    obtain ⟨hround, hsafe⟩ := enqueueEntity_follows cfg b e spent wakeup
    rw [enqueueLoop, State.enqueueLoop]
    dsimp only
    rw [← hround]
    split
    · exact ⟨rfl, id⟩
    · split
      · exact ⟨rfl, hsafe⟩
      · obtain ⟨hstate, hrest⟩ := ih (BuddyState.onState (b.enqueueEntity cfg e wakeup spent) fun s =>
          s.addHNrRunning _ 1) true
        exact ⟨hstate, fun hb => hrest ((hsafe hb).quiet ⟨rfl, rfl⟩)⟩

end Follows

end BuddyState

namespace BuddyState.Safe

/-- One round of the loop. The next buddy it may set is the owner of the queue, and by
assumption everything from there on is queued. -/
lemma dequeueLoop_cons {taskSleep : Bool} {tg : Option G} (sleep : Bool)
    (hb : b.Safe cfg) (hnot : e ∉ chain cfg cpu tg)
    (hon : taskSleep = true → ∀ e' ∈ chain cfg cpu tg, (b.state.se e').onRq = true)
    (ih : ∀ b' : BuddyState T G C, b'.Safe cfg →
      (taskSleep = true → ∀ e' ∈ chain cfg cpu tg, (b'.state.se e').onRq = true) →
      (dequeueLoop cfg taskSleep (chain cfg cpu tg) b' true).1.Safe cfg) :
    (dequeueLoop cfg taskSleep (e :: chain cfg cpu tg) b sleep).1.Safe cfg := by
  have hleft := hb.dequeueEntity e sleep
  have htold : ((b.dequeueEntity cfg e sleep).onState fun s =>
      s.subHNrRunning (b.state.cfsRqOf cfg e) 1).Safe cfg := hleft.quiet ⟨rfl, rfl⟩
  have hon' : taskSleep = true → ∀ e' ∈ chain cfg cpu tg, ((b.state.dequeueEntity cfg e sleep).se e').onRq = true := by
    intro hsleep e' he'
    have hne : e' ≠ e := fun heq => hnot (heq ▸ he')
    have hroll := congrArg (fun r : Roll T G C => r.onRq e') (dequeueEntity_roll b.state cfg e sleep)
    exact hroll.trans ((Roll.onRq_setOnRq_of_ne hne false).trans (hon hsleep e' he'))
  rw [BuddyState.dequeueLoop]
  dsimp only
  split
  · exact hleft
  · split
    · cases taskSleep with
      | false => exact htold
      | true =>
        cases tg with
        | none => exact htold
        | some g =>
          have hset := htold.setNextBuddy (e := .group g cpu) (by
            rw [forEach_group]
            exact hon' rfl)
          rwa [chain_some]
    · exact ih _ htold hon'

lemma dequeueLoop_chain (taskSleep : Bool) (tg : Option G) (sleep : Bool) (hb : b.Safe cfg)
    (hon : taskSleep = true → ∀ e' ∈ chain cfg cpu tg, (b.state.se e').onRq = true) :
    (dequeueLoop cfg taskSleep (chain cfg cpu tg) b sleep).1.Safe cfg := by
  induction tg using cfg.upInduction generalizing b sleep with
  | root => exact hb
  | group g ih =>
    rw [chain_some] at hon ⊢
    refine hb.dequeueLoop_cons sleep (not_mem_chain_self g)
      (fun hsleep e' he' => hon hsleep e' (mem_cons_of_mem _ he')) fun b' hb' hon' => ih true hb' hon'

end BuddyState.Safe

lemma State.SameQueued.refreshLoop (cfg : Config G C) {count : State T G C → QueueId G C → State T G C}
    (hcount : ∀ (s : State T G C) q, s.SameQueued (count s q)) (entities : List (Entity T G C)) (s : State T G C) :
    s.SameQueued (State.refreshLoop cfg count entities s).1 := by
  induction entities generalizing s with
  | nil => exact ⟨rfl, rfl⟩
  | cons e rest ih =>
    rw [State.refreshLoop]
    split
    · exact hcount s _
    · refine (hcount s (s.cfsRqOf cfg e)).trans (.trans (.of_roll ?_) (ih _))
      rw [roll_of_bare (updateEntityLoadAvg_quiet ..).bare, updateCfsShares_roll]

namespace BuddyState

lemma enqueueTaskFair_follows (b : BuddyState T G C) (t : T) (wakeup : Bool) (spent : QueueId G C → Bool) :
    b.Follows cfg (b.enqueueTaskFair cfg t wakeup spent) (b.state.enqueueTaskFair cfg t wakeup spent) := by
  obtain ⟨hstate, hsafe⟩ := enqueueLoop_follows cfg b spent wakeup (b.state.entities cfg t)
  constructor
  · rw [enqueueTaskFair, State.enqueueTaskFair, hstate]
    rfl
  · intro hb
    have hloop := hsafe hb
    rw [BuddyState.enqueueTaskFair]
    generalize BuddyState.enqueueLoop cfg spent (b.state.entities cfg t) b wakeup = loop at hloop ⊢
    have hrefresh := State.SameQueued.refreshLoop cfg
      (fun (s : State T G C) q => (⟨rfl, rfl⟩ : s.SameQueued (s.addHNrRunning q 1)))
      loop.2 loop.1.state
    refine hloop.quiet (hrefresh.trans ?_)
    dsimp only
    split
    · exact (State.SameQueued.of_roll (roll_of_bare (updateRqRunnableAvg_quiet ..).bare)).trans ⟨rfl, rfl⟩
    · exact .refl _

lemma putPrevEntity_follows (b : BuddyState T G C) (e : Entity T G C) (spent : QueueId G C → Bool) :
    b.Follows cfg (b.putPrevEntity cfg e spent) (b.state.putPrevEntity cfg e spent) := by
  obtain ⟨hstate, hsafe⟩ := checkCfsRqRuntime_follows cfg b (b.state.cfsRqOf cfg e) spent
  rw [putPrevEntity, State.putPrevEntity, ← hstate]
  refine ⟨rfl, fun hb => (hsafe hb).quiet (.of_roll ?_)⟩
  rw [modifyCfs_roll _ _ (by rfl) (by rfl)]
  split
  · exact roll_of_bare (updateEntityLoadAvg_quiet ..).bare
  · rfl

end BuddyState

namespace BuddyState.Safe

variable (hb : b.Safe cfg)
include hb

/-- A task that goes to sleep must have everything above it queued. -/
lemma dequeueTaskFair (t : T) (sleep : Bool)
    (hon : sleep = true → ∀ e ∈ b.state.entities cfg t, (b.state.se e).onRq = true) :
    (b.dequeueTaskFair cfg t sleep).Safe cfg := by
  have hnot : (.task t : Entity T G C) ∉ chain cfg (b.state.taskQueue t).cpu (b.state.taskQueue t).tg := by simp [chain]
  have hloop : (dequeueLoop cfg sleep (b.state.entities cfg t) b sleep).1.Safe cfg :=
    hb.dequeueLoop_cons sleep hnot (fun hsleep e he => hon hsleep e (mem_cons_of_mem _ he))
      fun b' hb' hon' => hb'.dequeueLoop_chain sleep _ true hon'
  rw [BuddyState.dequeueTaskFair]
  generalize dequeueLoop cfg sleep (b.state.entities cfg t) b sleep = loop at hloop ⊢
  have hrefresh := State.SameQueued.refreshLoop cfg
    (fun (s : State T G C) q => (⟨rfl, rfl⟩ : s.SameQueued (s.subHNrRunning q 1)))
    loop.2 loop.1.state
  refine hloop.quiet (hrefresh.trans ?_)
  dsimp only
  split
  · refine State.SameQueued.trans ?_ (.of_roll (roll_of_bare (updateRqRunnableAvg_quiet ..).bare))
    exact ⟨rfl, rfl⟩
  · exact .refl _

lemma setNextEntity (e : Entity T G C) : (b.onState fun s => s.setNextEntity cfg e).Safe cfg := by
  refine hb.quiet (.of_roll ?_)
  rw [State.setNextEntity, modifyCfs_roll _ _ (by rfl) (by rfl)]
  split
  · exact roll_of_bare (updateEntityLoadAvg_quiet ..).bare
  · rfl

lemma migrateTask (hoff : (b.state.se (.task t)).onRq = false)
    (cpu : C) (nohz : Option Nat) : (b.onState fun s => s.migrateTask t cpu nohz).Safe cfg := by
  refine hb.onState fun p hp => ?_
  rw [migrateTask_roll]
  exact hp.setTaskQueue hoff _

lemma entityTick (e : Entity T G C) (ranLong : Bool) : (b.entityTick cfg e ranLong).Safe cfg := by
  have hticked : (b.onState fun s => s.entityTick cfg e).Safe cfg := by
    refine hb.quiet (.of_roll ?_)
    rw [State.entityTick, updateCfsShares_roll, roll_of_bare (updateCfsRqBlockedLoad_quiet ..).bare,
      roll_of_bare (updateEntityLoadAvg_quiet ..).bare]
  rw [BuddyState.entityTick]
  split
  · exact hticked.clearBuddies e
  · exact hticked

lemma yieldTaskFair {curr : T} {alone : Bool}
    (hon : alone = false → ∀ e ∈ b.state.entities cfg curr, (b.state.se e).onRq = true) :
    (b.yieldTaskFair cfg curr alone).Safe cfg := by
  rw [BuddyState.yieldTaskFair]
  split
  · exact hb
  next halone => exact (hb.clearBuddies _).setSkipBuddy (hon (Bool.eq_false_of_not_eq_true halone))

end BuddyState.Safe

namespace BuddyState

/-- Such an entity is always picked. -/
def PicksQueued (cfg : Config G C) (env : BuddyEnv) (b : BuddyState T G C) : Prop :=
  ∀ q timeline, b.Pickable cfg q timeline → ∃ left se, timeline.rbLeftmost = some left ∧
    b.pickNextEntity env q timeline = some se ∧ b.Eligible cfg env q left se

/-- The element after the leftmost is in the timeline. -/
lemma mem_of_next {left second : Entity T G C} {tree : RbTree.Tree (Entity T G C)}
    (h : (RbTree.find left [] tree).bind RbTree.Focus.next = some second) : second ∈ tree.toList := by
  obtain ⟨node, hfind, hnext⟩ := Option.bind_eq_some_iff.mp h
  obtain ⟨-, hplug⟩ := RbTree.find_spec hfind
  have hlist : tree.toList = RbTree.before node.trail ++ node.tree.toList ++ RbTree.after node.trail := by
    rw [← RbTree.toList_plug, hplug]
    rfl
  rw [RbTree.Focus.next_eq] at hnext
  rw [hlist, RbTree.Focus.tree, RbTree.Tree.toList]
  obtain hmem | hmem := mem_append.mp (mem_of_mem_head? hnext)
  · simp [hmem]
  · simp [hmem]

lemma BuddiesQueued.picksQueued (hb : b.BuddiesQueued cfg) (env : BuddyEnv) : b.PicksQueued cfg env := by
  intro q timeline hpick
  obtain ⟨left, hleft⟩ : ∃ left, timeline.rbLeftmost = some left := by
    obtain ⟨e, he⟩ := hpick.occupied
    rw [hpick.holds.leftmost]
    cases hlist : timeline.tasksTimeline.toList with
    | nil => exact absurd ((hpick.holds.mem e).mpr he) (hlist ▸ not_mem_nil)
    | cons left rest => exact ⟨left, rfl⟩
  have hmem : left ∈ timeline.tasksTimeline.toList := by
    rw [hpick.holds.leftmost] at hleft
    exact mem_of_mem_head? hleft
  have hself : b.Eligible cfg env q left left := ⟨(hpick.holds.mem left).mp hmem, .inl rfl⟩
  rw [pickNextEntity, hleft]
  refine ⟨left, _, rfl, rfl, .prefer (.prefer ?_ fun e he => ?_) fun e he => ?_⟩
  · split
    · exact hself.prefer fun e he => (hpick.holds.mem e).mp (mem_of_next he)
    · exact hself
  · exact hb q e (.inr (.inl he))
  · exact hb q e (.inl he)

end BuddyState

namespace BuddyOp

variable (cfg b)

/-- What the callers guarantee. Besides what the class's operations need, a task is queued
when it is about to preempt, and the task that yields is. -/
def Allowed : BuddyOp T G C → Prop
  | .enqueue t _ _ => (b.state.se (.task t)).onRq = false
  | .dequeue t _ => (b.state.se (.task t)).onRq = true
  | .migrate t _ _ => (b.state.se (.task t)).onRq = false
  | .throttle q =>
    cfg.bandwidthUsed = true ∧ (b.state.cfs q).runtimeEnabled = true ∧ (b.state.cfs q).throttled = false
  | .unthrottle q _ => (b.state.cfs q).throttled = true
  | .checkPreemptWakeup _ p _ _ _ => (b.state.se (.task p)).onRq = true
  | .yieldTask curr _ => (b.state.se (.task curr)).onRq = true
  | .yieldToTask curr _ _ => (b.state.se (.task curr)).onRq = true
  | _ => True

/-- A task that goes to sleep or yields is not below a throttled queue. -/
def Unthrottled : BuddyOp T G C → Prop
  | .dequeue t sleep => sleep = true → b.state.Open cfg (b.state.taskQueue t)
  | .yieldTask curr alone => alone = false → b.state.Open cfg (b.state.taskQueue curr)
  | .yieldToTask curr _ alone => alone = false → b.state.Open cfg (b.state.taskQueue curr)
  | _ => True

instance (op : BuddyOp T G C) : Decidable (op.Allowed cfg b) := by
  cases op <;> dsimp only [BuddyOp.Allowed] <;> infer_instance

instance (op : BuddyOp T G C) : Decidable (op.Unthrottled cfg b) := by
  cases op <;> dsimp only [BuddyOp.Unthrottled] <;> infer_instance

end BuddyOp

lemma BuddyState.entityTick_state (b : BuddyState T G C) (e : Entity T G C) (ranLong : Bool) :
    (b.entityTick cfg e ranLong).state = b.state.entityTick cfg e := by
  rw [BuddyState.entityTick]
  split <;> rfl

lemma Gates.Counts.classStep {live : Option G → Prop} (hs : s.gates.Counts cfg live)
    {op : ClassOp T G C} (hop : op.Allowed cfg s) : (s.classStep cfg op).gates.Counts cfg live := by
  obtain ⟨g, hopens, hthrottles⟩ := classStep_throttles cfg s op
  refine hthrottles.counts ?_
  cases hopens with
  | same | clock cpu clockTask | migrate task cpu clockTask => exact hs
  | throttle q => exact hs.throttle hop.2.2
  | unthrottle q spent => exact hs.unthrottle hop

variable [Fintype T] [Fintype G] [Fintype C]

namespace BuddyState

lemma Inv.classStep (hb : b.Inv cfg) (hfew : Few T G C) (op : ClassOp T G C) (hop : op.Allowed cfg b.state)
    (hstate : b'.state = b.state.classStep cfg op) (hsafe : b'.Safe cfg) : b'.Inv cfg where
  counted place := hstate ▸ (hb.counted place).classStep hfew hop
  counts := hstate ▸ hb.counts.classStep hop
  safe := hsafe

lemma Inv.setNextEntity (hb : b.Inv cfg) (e : Entity T G C) : (b.onState fun s => s.setNextEntity cfg e).Inv cfg where
  counted place := (hb.counted place).setNextEntity e
  counts := by
    rw [onState_state, setNextEntity_gates]
    exact hb.counts
  safe := hb.safe.setNextEntity e

lemma Inv.yieldTaskFair (hb : b.Inv cfg) {curr : T} {alone : Bool} (hon : (b.state.se (.task curr)).onRq = true)
    (hopen : alone = false → b.state.Open cfg (b.state.taskQueue curr)) : (b.yieldTaskFair cfg curr alone).Inv cfg := by
  refine hb.of_state ?_ (hb.safe.yieldTaskFair fun halone => hb.entities_on (hopen halone) hon)
  rw [BuddyState.yieldTaskFair]
  split <;> rfl

lemma Inv.checkPreemptWakeup (hb : b.Inv cfg) (env : BuddyEnv) {curr p : T} (hp : (b.state.se (.task p)).onRq = true)
    (fork needResched idle : Bool) : (b.checkPreemptWakeup cfg env curr p fork needResched idle).Inv cfg := by
  rw [BuddyState.checkPreemptWakeup]
  split
  · exact hb
  split
  · exact hb
  next hthrottled =>
    have hopen := hb.open_of_throttledHierarchy (Bool.eq_false_of_not_eq_true hthrottled)
    dsimp only
    generalize decide (env.schedNrLatency ≤ (b.state.cfs (b.state.taskQueue curr)).nrRunning) = scale
    generalize hmarked : (if (env.nextBuddy && scale && !fork) = true then
      b.setNextBuddy cfg (.task p) else b) = b'
    have hstate : b'.state = b.state := by
      rw [← hmarked]
      split
      · exact setNextBuddy_state b _
      · rfl
    have hb' : b'.Inv cfg := by
      rw [← hmarked]
      split
      · exact hb.setNextBuddy (hb.entities_on hopen hp)
      · exact hb
    rw [← hstate] at hopen hp
    split
    · exact hb'
    split
    next hidle =>
      refine hb'.preempt env scale idle fun t ht hnot => ?_
      cases ht
      simp [isIdleTask, hidle.1] at hnot
    split
    · exact hb'
    split
    · exact hb'
    next se pse hfound =>
      split
      · exact hb'.preempt_found env hopen hp hfound _ scale idle
      · exact hb'

/-- Every operation keeps the pointers safe. -/
lemma Inv.step (hb : b.Inv cfg) (env : BuddyEnv) (hfew : Few T G C) {op : BuddyOp T G C}
    (hallowed : op.Allowed cfg b) (hopen : op.Unthrottled cfg b) : (b.step cfg env op).Inv cfg := by
  cases op with
  | enqueue t wakeup spent =>
    obtain ⟨hstate, hsafe⟩ := enqueueTaskFair_follows b t wakeup spent
    exact hb.classStep hfew (.enqueue t wakeup spent) hallowed hstate (hsafe hb.safe)
  | dequeue t sleep =>
    exact hb.classStep hfew (.dequeue t sleep) hallowed (dequeueTaskFair_state b t sleep)
      (hb.safe.dequeueTaskFair t sleep fun hsleep => hb.entities_on (hopen hsleep) hallowed)
  | throttle q =>
    obtain ⟨hstate, hsafe⟩ := throttleCfsRq_follows cfg b q
    exact hb.classStep hfew (.throttle q) hallowed hstate (hsafe hb.safe)
  | unthrottle q spent =>
    obtain ⟨hstate, hsafe⟩ := unthrottleCfsRq_follows cfg b q spent
    exact hb.classStep hfew (.unthrottle q spent) hallowed hstate (hsafe hb.safe)
  | tick t ranLong =>
    have hfold : ((b.state.entities cfg t).foldl (fun b e => b.entityTick cfg e (ranLong e)) b).Safe cfg :=
      Run.foldl_of_step (P := fun b : BuddyState T G C => b.Safe cfg)
        (fun _ e hb => hb.entityTick e (ranLong e)) hb.safe
    refine hb.classStep hfew (.tick t) trivial ?_ (hfold.updateRqRunnableAvg _ true)
    exact congrArg (fun s : State T G C => s.updateRqRunnableAvg cfg _ true)
      (foldl_hom state fun b e => (entityTick_state b e (ranLong e)).symm).symm
  | putPrev t spent =>
    refine hb.classStep hfew (.putPrev t spent) trivial ?_ ?_
    · exact (foldl_hom state fun b e => (putPrevEntity_follows b e spent).state.symm).symm
    · exact Run.foldl_of_step (P := fun b : BuddyState T G C => b.Safe cfg)
        (fun b e hb => (putPrevEntity_follows b e spent).safe hb) hb.safe
  | pickNextEntity q timeline =>
    dsimp only [BuddyState.step, pickAndSet]
    split
    next se _ =>
      have hcleared : (b.clearBuddies cfg se).Inv cfg := hb.of_state rfl (hb.safe.clearBuddies se)
      exact hcleared.setNextEntity se
    next => exact hb
  | setCurrTask t =>
    exact Run.foldl_of_step (P := fun b : BuddyState T G C => b.Inv cfg) (fun _ e hb => hb.setNextEntity e) hb
  | checkPreemptWakeup curr p fork needResched idle =>
    exact hb.checkPreemptWakeup env hallowed fork needResched idle
  | yieldTask curr alone => exact hb.yieldTaskFair hallowed hopen
  | yieldToTask curr p alone =>
    dsimp only [BuddyState.step, yieldToTaskFair]
    split
    · exact hb
    next hp =>
      rw [not_or, Bool.not_eq_false, Bool.not_eq_true] at hp
      have hmarked := hb.setNextBuddy (e := .task p) (hb.entities_on (hb.open_of_throttledHierarchy hp.2) hp.1)
      refine hmarked.yieldTaskFair ?_ ?_
      all_goals rw [setNextBuddy_state]
      · exact hallowed
      · exact hopen
  | migrate t cpu nohz =>
    exact hb.classStep hfew (.migrate t cpu nohz) hallowed rfl (hb.safe.migrateTask hallowed cpu nohz)
  | clock cpu clockTask =>
    refine hb.classStep hfew (.clock cpu clockTask) trivial rfl ?_
    exact Safe.quiet hb.safe (f := fun s => s.updateRqClock cpu clockTask) ⟨rfl, rfl⟩
  | idle cpu entering =>
    exact hb.classStep hfew (.idle cpu entering) trivial rfl (hb.safe.updateRqRunnableAvg cpu entering)
  | setPolicy t policy | setVruntime e vruntime =>
    exact hb.of_state rfl ⟨hb.safe.next, hb.safe.last, hb.safe.skip⟩

/-- In every hierarchy and every run in which no task goes to sleep or yields while a
queue above it is throttled, the buddies are queued where they are named, and what
`pick_next_entity` returns is queued and at most a granularity behind the leftmost. -/
theorem buddies_queued (cfg : Config G C) (env : BuddyEnv) (start : Boot T G C)
    (policy : T → Policy) (vruntime : Entity T G C → Nat) (ops : List (BuddyOp T G C))
    (hops : Run.Each (BuddyState.step cfg env) (fun b op => op.Allowed cfg b ∧ op.Unthrottled cfg b)
      (boot start policy vruntime) ops) :
    Run.Always (BuddyState.step cfg env) (fun b => b.BuddiesQueued cfg ∧ b.PicksQueued cfg env)
      (boot start policy vruntime) ops := by
  have hinv := Run.always_of_each (P := Inv cfg)
    (fun b op hb hop => hb.step env start.few hop.1 hop.2) (boot_inv cfg start policy vruntime) hops
  refine hinv.mono fun b hb => ?_
  have hqueued := hb.safe.buddiesQueued
  exact ⟨hqueued, hqueued.picksQueued env⟩

/-- Two tasks in the inner of two groups, and one in the root group. -/
def threeTasks : Boot (Fin 3) Bool Unit where
  taskQueue t := ⟨if t = 2 then none else some true, ()⟩
  runtimeEnabled := nestedBoot.runtimeEnabled
  weight := by decide
  shares := nestedBoot.shares
  root := nestedBoot.root
  few := by
    rw [Few]
    decide

def defaultEnv : BuddyEnv where
  nextBuddy := false
  lastBuddy := true
  wakeupPreemption := true
  schedNrLatency := 8
  wakeupGranularity := 1000000
  calcDeltaFair delta _ := delta

def threeTasksState : BuddyState (Fin 3) Bool Unit := boot threeTasks (fun _ => .normal) fun _ => 0

/-- A task of the inner group yields and goes to sleep; the other makes its groups the
next buddies. -/
theorem buddies_queued_three_tasks : Run.Always (BuddyState.step nestedGroups defaultEnv)
      (fun b => b.BuddiesQueued nestedGroups ∧ b.PicksQueued nestedGroups defaultEnv) threeTasksState
      [.enqueue 1 false fun _ => false, .enqueue 0 true fun _ => false, .yieldTask 0 false, .dequeue 0 true] :=
  buddies_queued nestedGroups defaultEnv threeTasks _ _ _ (by decide +kernel)

/-- A throttled group stays off. -/
lemma dequeueTaskFair_off (hb : b.Inv cfg) (hfew : Few T G C) (hon : (b.state.se (.task t)).onRq = true)
    {g : G} (hthrottled : (b.state.cfs ⟨some g, cpu⟩).throttled = true) (sleep : Bool) :
    ((b.dequeueTaskFair cfg t sleep).state.se (.group g cpu)).onRq = false := by
  rw [dequeueTaskFair_state]
  have hcounted := (hb.counted (.cpu cpu)).dequeueTaskFair hfew hon sleep
  have hgates : (b.state.dequeueTaskFair cfg t sleep).gates = b.state.gates := dequeueTaskFair_gates t sleep
  have hgate := congrArg (fun x : Gates G C => (x.gate ⟨some g, cpu⟩).throttled) hgates
  exact hcounted.carried_of_throttled (q := ⟨some g, cpu⟩) (hgate.trans hthrottled)

/-- The outer group is throttled with a task in the inner group. Then the running task
joins the class in the inner group. -/
def runsThrottled : List (BuddyOp (Fin 3) Bool Unit) :=
  [.throttle ⟨some false, ()⟩, .enqueue 1 false fun _ => false, .setCurrTask 0, .enqueue 0 false fun _ => false]

def throttledState : BuddyState (Fin 3) Bool Unit :=
  runsThrottled.foldl (BuddyState.step nestedGroups defaultEnv) threeTasksState

/-- Then it goes to sleep. -/
def sleepsThrottled : List (BuddyOp (Fin 3) Bool Unit) := runsThrottled ++ [.dequeue 0 true]

lemma throttledState_inv : throttledState.Inv nestedGroups :=
  (Run.always_of_each (P := Inv nestedGroups)
    (C := fun b op => op.Allowed nestedGroups b ∧ op.Unthrottled nestedGroups b)
    (fun _ _ hb hop => hb.step defaultEnv threeTasks.few hop.1 hop.2)
    (boot_inv nestedGroups threeTasks _ _) (by decide +kernel)).last

lemma throttledState_on : (throttledState.state.se (.task 0)).onRq = true := by decide +kernel

lemma sleepsThrottled_foldl : sleepsThrottled.foldl (BuddyState.step nestedGroups defaultEnv) threeTasksState =
    throttledState.dequeueTaskFair nestedGroups 0 true := by
  rw [sleepsThrottled, foldl_append, ← throttledState, foldl_cons, foldl_nil, BuddyState.step]

/-- The root's next buddy is then the outer group, which is off. -/
theorem buddies_not_queued : Run.Each (BuddyState.step nestedGroups defaultEnv) (fun b op => op.Allowed nestedGroups b)
        threeTasksState sleepsThrottled ∧
      (sleepsThrottled.foldl (BuddyState.step nestedGroups defaultEnv) threeTasksState).next ⟨none, ()⟩ =
        some (.group false ()) ∧
      ((sleepsThrottled.foldl (BuddyState.step nestedGroups defaultEnv) threeTasksState).state.se
        (.group false ())).onRq = false := by
  refine ⟨by decide +kernel, by decide +kernel, ?_⟩
  rw [sleepsThrottled_foldl]
  exact dequeueTaskFair_off throttledState_inv threeTasks.few throttledState_on (by decide +kernel) true

end BuddyState

end BigLittle.Cfs
