import BigLittle.Cfs.Counted

/-!
# The walks that count tasks

The loops of `enqueue_task_fair`, `dequeue_task_fair`, `throttle_cfs_rq` and
`unthrottle_cfs_rq`, from the bottom of the tree to the top. The enqueue loops stop at a
throttled queue, after which a second loop goes on counting up to and including it; the
throttle loop stops at the first entity that is off. In all of them the place that lacks
the news is the one the loop turns to next, and a loop that stops early stops where
nothing above counts the queue.
-/

namespace BigLittle.Cfs

open List
open State (dequeueLoop enqueueLoop)

variable {T G C : Type*} {cfg : Config G C} {s t u : State T G C}
variable {except : List (Entity T G C)} {place : Place G C} {delta : ZMod (2 ^ 32)}
variable {e : Entity T G C} {q : QueueId G C} {cpu : C}

lemma chain_some (g : G) : (chain cfg cpu (some g) : List (Entity T G C)) =
    .group g cpu :: chain cfg cpu (cfg.parent g) := by
  rw [chain, cfg.path_some, map_cons, chain]

/-- No group of the list is the one below. -/
def Above (cfg : Config G C) (g₀ : G) (tg : Option G) : Prop :=
  ∀ g, tg = some g → cfg.depth g < cfg.depth g₀

lemma Above.parent {g₀ g : G} (hg : cfg.depth g ≤ cfg.depth g₀) :
    Above cfg g₀ (cfg.parent g) := fun _ hp => (cfg.depth_parent hp).trans_le hg

lemma Above.not_owner {g₀ : G} {tg : Option G} (h : Above cfg g₀ tg) (g : G) (cpu' : C)
    (hq : (⟨tg, cpu⟩ : QueueId G C) = ⟨some g, cpu'⟩) : (Entity.group g cpu' : Entity T G C) ∉ [.group g₀ cpu] := by
  rw [mem_singleton]
  rintro heq
  cases heq
  exact absurd (h g₀ (congrArg QueueId.tg hq)) (Nat.lt_irrefl _)

variable [DecidableEq G] [DecidableEq C] [Fintype T] [Fintype G] [Fintype C]

/-- The rest of a walk that has still to count `delta` tasks too many: either the
entities from the owner of a carried queue on, or an entity whose queue is throttled
and so the last to be told. -/
def Waiting (cfg : Config G C) (cpu : C) (s : State T G C)
    (rest : List (Entity T G C)) (delta : ZMod (2 ^ 32)) : Prop :=
  (∃ tg, rest = chain cfg cpu tg ∧ s.roll.carried ⟨tg, cpu⟩ = true ∧ Counted cfg s [] (cfg.above ⟨tg, cpu⟩) delta) ∨
  (∃ e l, rest = e :: l ∧ s.roll.throttled (s.cfsRqOf cfg e) = true ∧ Counted cfg s [] (.queue (s.cfsRqOf cfg e)) delta)

section Enqueue

/-- A queue has been told of `delta` tasks more. Its owner is queued, and the place
above is next; or the owner is off, counts for just these tasks and has to be queued. -/
def Rising (cfg : Config G C) (s : State T G C) (q : QueueId G C) (delta : ZMod (2 ^ 32)) : Prop :=
  (s.roll.carried q = true ∧ Counted cfg s [] (cfg.above q) (-delta)) ∨
  (s.roll.carried q = false ∧ Counted cfg s (Roll.owner q) (cfg.above q) 0 ∧
    s.roll.Occupied cfg.toHierarchy q ∧ s.roll.throttled q = false ∧ s.roll.hNrRunning q = delta)

/-- A throttled queue need not pass the news on. -/
lemma Joined.stop (ht : Joined cfg t e q delta) (hthrottled : t.roll.throttled q = true) :
    Counted cfg t [] (.queue q) (-delta) :=
  { ht.counted with settled := ht.settled (.inr hthrottled) }

/-- The owner of a queue that is not carried is ready to be queued. -/
lemma Rising.owner {g : G} (hs : Rising cfg s ⟨some g, cpu⟩ delta) (hoff : (s.se (.group g cpu)).onRq = false) :
    Counted cfg s [.group g cpu] (cfg.above ⟨some g, cpu⟩) 0 ∧ s.roll.Ready cfg.toHierarchy (.group g cpu) ∧
    s.roll.tasks (.group g cpu) = delta := by
  obtain ⟨hcarried, -⟩ | ⟨-, hcounted, hoccupied, hopen, hcount⟩ := hs
  · exact absurd (hoff.symm.trans hcarried) Bool.false_ne_true
  · refine ⟨hcounted, ?_, hcount⟩
    rintro g' cpu' heq
    cases heq
    exact ⟨hoccupied, hopen⟩

/-- An owner that is queued is no longer needed. -/
lemma Rising.carried (hs : Rising cfg s q delta) (hq : s.roll.carried q = true) :
    Counted cfg s [] (cfg.above q) (-delta) := by
  obtain ⟨-, hcounted⟩ | ⟨hoff, -⟩ := hs
  · exact hcounted
  · exact absurd (hoff.symm.trans hq) Bool.false_ne_true

variable [DecidableEq T]

lemma Joined.rise (ht : Joined cfg t e q delta) (hopen : t.roll.throttled q = false)
    (hu : Sane cfg u) (hroll : u.roll = t.roll.count q delta) : Rising cfg u q delta := by
  have hcarried : u.roll.carried q = t.roll.carried q := by
    rw [hroll]
    rfl
  have hcounted := ht.counted.count hu (by rwa [neg_neg])
  have hqueue : t.roll.queueOf cfg.toHierarchy e = q := (queueOf_roll t cfg e).trans ht.queueOf
  cases hq : t.roll.carried q with
  | true =>
    rw [hq, if_pos rfl] at hcounted
    refine .inl ⟨hcarried.trans hq, { hcounted with settled := ?_ }⟩
    rw [hroll]
    exact ht.settled (.inl hq)
  | false =>
    rw [hq, if_neg Bool.false_ne_true] at hcounted
    refine .inr ⟨hcarried.trans hq, hcounted, ?_, ?_, ?_⟩
    · rw [hroll]
      exact ⟨e, ht.onRq, hqueue⟩
    · rwa [hroll]
    · -- the queue was empty, so it counts what the new entity counts for
      have hgap : u.roll.gap cfg.toHierarchy (.queue q) = 0 := by
        rw [hcounted.gap, Pi.single_zero]
        rfl
      have hqueued : (t.roll.count q delta).queued cfg.toHierarchy q = (t.roll.count q delta).tasks e := by
        refine Roll.queued_of_only ht.onRq ((Roll.queueOf_count q delta e).trans hqueue) ?_
        intro e' he' hqueue'
        rw [Roll.queueOf_count, queueOf_roll] at hqueue'
        exact ht.only hq hopen e' he' hqueue'
      rw [Roll.hNrRunning_of_gap hgap, hroll, hqueued, ← hqueue, Roll.tasks_count_queueOf, ht.tasks]

/-- One round of the first loop of `enqueue_task_fair`, for an entity that is off. -/
lemma enqueueLoop_cons (hfew : Few T G C) (spent : QueueId G C → Bool)
    (hs : Counted cfg s [e] place 0) (hoff : (s.se e).onRq = false)
    (hready : s.roll.Ready cfg.toHierarchy e) (hone : s.roll.tasks e = (1 : Nat)) (wakeup : Bool)
    (rest : List (Entity T G C))
    (hrest : ∀ u : State T G C, Rising cfg u (s.cfsRqOf cfg e) (1 : Nat) →
      Waiting cfg cpu (enqueueLoop cfg spent rest u true).1 (enqueueLoop cfg spent rest u true).2 (-(1 : Nat))) :
    Waiting cfg cpu (enqueueLoop cfg spent (e :: rest) s wakeup).1
      (enqueueLoop cfg spent (e :: rest) s wakeup).2 (-(1 : Nat)) := by
  have hjoined := hs.enqueueEntity hfew hoff hready wakeup spent
  rw [hone] at hjoined
  have hthrottled := hjoined.counted.cfsRqThrottled (s.cfsRqOf cfg e)
  rw [enqueueLoop, if_neg (by simp [hoff])]
  dsimp only
  rw [hthrottled]
  split
  next hstop =>
    refine .inr ⟨e, rest, rfl, ?_, ?_⟩
    · rwa [hjoined.queueOf]
    · rw [hjoined.queueOf]
      exact hjoined.stop hstop
  next hopen =>
    refine hrest _ (hjoined.rise (Bool.not_eq_true _ ▸ hopen) ?_ (addHNrRunning_roll _ _ 1))
    exact (sane_keeps cfg).walks.addHNrRunning _ _ _ hjoined.counted.sane

lemma enqueueLoop_chain (hfew : Few T G C) (spent : QueueId G C → Bool)
    (tg : Option G) : ∀ s : State T G C, Rising cfg s ⟨tg, cpu⟩ (1 : Nat) →
      Waiting cfg cpu (enqueueLoop cfg spent (chain cfg cpu tg) s true).1
        (enqueueLoop cfg spent (chain cfg cpu tg) s true).2 (-(1 : Nat)) := by
  induction tg using cfg.upInduction with
  | root => exact fun s hs => .inl ⟨none, rfl, rfl, hs.carried rfl⟩
  | group g ih =>
    intro s hs
    by_cases hon : (s.se (.group g cpu)).onRq = true
    · refine .inl ⟨some g, ?_, ?_, ?_⟩
      · rw [chain_some, enqueueLoop, if_pos hon]
      · rwa [chain_some, enqueueLoop, if_pos hon]
      · rw [chain_some, enqueueLoop, if_pos hon]
        exact hs.carried hon
    · rw [Bool.not_eq_true] at hon
      obtain ⟨hcounted, hready, hone⟩ := hs.owner hon
      rw [chain_some]
      exact enqueueLoop_cons hfew spent hcounted hon hready hone true _ ih

end Enqueue

section Dequeue

/-- A queue that has an entity is carried unless it is throttled. -/
lemma Counted.carried_eq (hs : Counted cfg s except place delta)
    (howner : ∀ g cpu, q = ⟨some g, cpu⟩ → Entity.group g cpu ∉ except)
    (hoccupied : s.roll.Occupied cfg.toHierarchy q) : s.roll.carried q = !s.roll.throttled q := by
  obtain ⟨tg, cpu⟩ := q
  cases tg with
  | none =>
    rw [hs.root cpu]
    rfl
  | some g =>
    have hsettled := hs.settled g cpu (howner g cpu rfl)
    rw [Roll.SettledAt] at hsettled
    rw [Bool.eq_iff_iff, Bool.not_eq_true']
    exact hsettled.trans (and_iff_right hoccupied)

/-- An entity has left `q`, or one there counts for less, and `q` has not been told
yet. The owner of the queue is right but for the queue being empty. -/
structure Left (cfg : Config G C) (t : State T G C) (q : QueueId G C)
    (except : List (Entity T G C)) (delta : ZMod (2 ^ 32)) : Prop where
  counted : Counted cfg t (Roll.owner q ++ except) (.queue q) delta
  carried : t.roll.carried q = !t.roll.throttled q

/-- The same after the queue has been told. -/
structure Told (cfg : Config G C) (t : State T G C) (q : QueueId G C)
    (except : List (Entity T G C)) (delta : ZMod (2 ^ 32)) : Prop where
  counted : Counted cfg t (Roll.owner q ++ except) (cfg.above q) (if t.roll.carried q then delta else 0)
  carried : t.roll.carried q = !t.roll.throttled q

/-- The owner is right if the queue is throttled or has entities. -/
lemma Counted.drop_owner (hs : Counted cfg s (Roll.owner q ++ except) place delta)
    (hcarried : s.roll.carried q = !s.roll.throttled q)
    (hq : s.roll.throttled q = true ∨ s.roll.Occupied cfg.toHierarchy q) : Counted cfg s except place delta := by
  refine { hs with settled := ?_ }
  obtain ⟨tg, cpu⟩ := q
  cases tg with
  | none => exact hs.settled
  | some g =>
    refine hs.settled.drop ?_
    have honRq : s.roll.onRq (.group g cpu) = !s.roll.throttled ⟨some g, cpu⟩ := hcarried
    rw [Roll.SettledAt, honRq]
    cases hflag : s.roll.throttled ⟨some g, cpu⟩ with
    | true => simp
    | false =>
      rw [hflag] at hq
      exact iff_of_true rfl ⟨hq.resolve_left Bool.false_ne_true, rfl⟩

/-- What changes below an entity that stays queued. -/
lemma Counted.left (hs : Counted cfg s except (.queue q) delta)
    (howner : ∀ g cpu, q = ⟨some g, cpu⟩ → Entity.group g cpu ∉ except)
    (hoccupied : s.roll.Occupied cfg.toHierarchy q) : Left cfg s q except delta :=
  ⟨hs.mono (subset_append_right _ _), hs.carried_eq howner hoccupied⟩

/-- A queue that is empty after it has been told counts nothing. -/
lemma Told.hNrRunning (ht : Told cfg t q except delta)
    (hempty : ¬ t.roll.Occupied cfg.toHierarchy q) : t.roll.hNrRunning q = 0 := by
  have hgap : t.roll.gap cfg.toHierarchy (.queue q) = 0 := by
    rw [ht.counted.gap]
    exact Pi.single_eq_of_ne (Ne.symm (Roll.above_ne q)) _
  rw [Roll.hNrRunning_of_gap hgap, Roll.queued_of_not_occupied hempty]

lemma Left.stop (ht : Left cfg t q except delta) (hq : t.roll.throttled q = true) :
    Counted cfg t except (.queue q) delta := ht.counted.drop_owner ht.carried (.inl hq)

lemma Told.more (ht : Told cfg t q except delta) (hq : t.roll.throttled q = true ∨ t.roll.Occupied cfg.toHierarchy q) :
    Counted cfg t except (cfg.above q) (if t.roll.carried q then delta else 0) :=
  ht.counted.drop_owner ht.carried hq

variable [DecidableEq T]

lemma Left.told (ht : Left cfg t q except delta) (hu : Sane cfg u)
    (hroll : u.roll = t.roll.count q (-delta)) : Told cfg u q except delta := by
  have hcarried : u.roll.carried q = t.roll.carried q := by
    rw [hroll]
    rfl
  refine ⟨?_, ?_⟩
  · rw [hcarried]
    exact ht.counted.count hu hroll
  · rw [hcarried, ht.carried, hroll]
    rfl

lemma Counted.dequeueEntity (hs : Counted cfg s (e :: except) (.queue (s.cfsRqOf cfg e)) delta)
    (hon : (s.se e).onRq = true) (howner : ∀ g cpu, s.cfsRqOf cfg e = ⟨some g, cpu⟩ → Entity.group g cpu ∉ except)
    (hempty : ∀ g cpu, e = .group g cpu → e ∈ except ∨ ¬ s.roll.Occupied cfg.toHierarchy ⟨some g, cpu⟩)
    (sleep : Bool) : Left cfg (s.dequeueEntity cfg e sleep) (s.cfsRqOf cfg e) except (delta + s.roll.tasks e) := by
  have hroll := dequeueEntity_roll s cfg e sleep
  have hqueue := queueOf_roll s cfg e
  have hbefore := hs.carried_eq (q := s.cfsRqOf cfg e) (fun g cpu hq => ?_) ⟨e, hon, hqueue⟩
  swap
  · -- the owner of the queue is not the entity itself
    refine not_mem_cons_of_ne_of_not_mem ?_ (howner g cpu hq)
    rintro rfl
    exact Roll.queueOf_group_ne g cpu (hqueue.trans hq)
  refine ⟨⟨(sane_keeps cfg).dequeueEntity s e sleep hon hs.sane, ?_, ?_, ?_, ?_⟩, ?_⟩
  all_goals rw [hroll]
  · have hset : (s.roll.setOnRq e false).Settled cfg.toHierarchy (e :: (Roll.owner (s.cfsRqOf cfg e) ++ except)) := by
      refine (hs.settled.setOnRq e false).mono ?_
      rw [hqueue]
      intro e' he'
      simp only [cons_append, mem_cons, mem_append] at he' ⊢
      tauto
    cases e with
    | task task => exact hset.drop_task
    | group g cpu =>
      cases hempty g cpu rfl with
      | inl hmem =>
        refine hset.mono (cons_subset.mpr ⟨?_, List.Subset.refl _⟩)
        exact mem_append_right _ hmem
      | inr hnot =>
        refine hset.drop ?_
        rw [Roll.SettledAt, Roll.onRq_setOnRq_self, Roll.occupied_setOnRq_of_ne false (Roll.queueOf_group_ne g cpu)]
        exact iff_of_false Bool.false_ne_true fun h => hnot h.1
  · rw [Roll.gap_setOnRq_false hon, hs.gap, hqueue, ← Pi.single_add]
  · exact hs.root
  · exact hs.limited
  · rwa [← hqueue, Roll.carried_setOnRq, hqueue]

/-- One round of the first loop of `dequeue_task_fair`. -/
lemma dequeueLoop_cons (hfew : Few T G C)
    (hs : Counted cfg s [e] (.queue (s.cfsRqOf cfg e)) delta) (hon : (s.se e).onRq = true)
    (hempty : ∀ g cpu, e = .group g cpu → ¬ s.roll.Occupied cfg.toHierarchy ⟨some g, cpu⟩)
    (hone : delta + s.roll.tasks e = (1 : Nat)) (hcpu : (s.cfsRqOf cfg e).cpu = cpu) (sleep : Bool)
    (hrest : ∀ u : State T G C, Told cfg u (s.cfsRqOf cfg e) [] (1 : Nat) → u.roll.carried (s.cfsRqOf cfg e) = true →
      ¬ u.roll.Occupied cfg.toHierarchy (s.cfsRqOf cfg e) →
      Waiting cfg cpu (dequeueLoop cfg (chain cfg cpu (s.cfsRqOf cfg e).tg) u true).1
        (dequeueLoop cfg (chain cfg cpu (s.cfsRqOf cfg e).tg) u true).2 (1 : Nat)) :
    Waiting cfg cpu (dequeueLoop cfg (e :: chain cfg cpu (s.cfsRqOf cfg e).tg) s sleep).1
      (dequeueLoop cfg (e :: chain cfg cpu (s.cfsRqOf cfg e).tg) s sleep).2 (1 : Nat) := by
  have hleft := hs.dequeueEntity hon (fun _ _ _ => not_mem_nil) (fun g cpu he => .inr (hempty g cpu he)) sleep
  rw [hone] at hleft
  have hqueue : (s.dequeueEntity cfg e sleep).cfsRqOf cfg e = s.cfsRqOf cfg e := by
    rw [← queueOf_roll, ← queueOf_roll, dequeueEntity_roll, Roll.queueOf_setOnRq]
  rw [dequeueLoop]
  dsimp only
  rw [hleft.counted.cfsRqThrottled]
  split
  next hstop =>
    refine .inr ⟨e, _, rfl, ?_, ?_⟩
    · rwa [hqueue]
    · rw [hqueue]
      exact hleft.stop hstop
  next hopen =>
    have htold := hleft.told ((sane_keeps cfg).walks.subHNrRunning _ _ 1 hleft.counted.sane) (subHNrRunning_roll _ _ 1)
    have hcarried : ((s.dequeueEntity cfg e sleep).subHNrRunning (s.cfsRqOf cfg e) 1).roll.carried
        (s.cfsRqOf cfg e) = true := by
      rw [htold.carried, subHNrRunning_roll]
      exact congrArg (! ·) (Bool.not_eq_true _ ▸ hopen)
    have hweight := htold.counted.sane.loadWeight_eq_zero_iff hfew (s.cfsRqOf cfg e)
    split
    next hmore =>
      refine .inl ⟨(s.cfsRqOf cfg e).tg, rfl, ?_, ?_⟩
      · rwa [← hcpu]
      · have hcounted := htold.more (.inr (not_not.mp fun hnot => hmore (hweight.mpr hnot)))
        rw [hcarried, if_pos rfl] at hcounted
        rwa [← hcpu]
    next hzero => exact hrest _ htold hcarried (hweight.mp (not_not.mp hzero))

lemma dequeueLoop_chain (hfew : Few T G C) (tg : Option G) : ∀ s : State T G C, Told cfg s ⟨tg, cpu⟩ [] (1 : Nat) →
      s.roll.carried ⟨tg, cpu⟩ = true → ¬ s.roll.Occupied cfg.toHierarchy ⟨tg, cpu⟩ →
      Waiting cfg cpu (dequeueLoop cfg (chain cfg cpu tg) s true).1
        (dequeueLoop cfg (chain cfg cpu tg) s true).2 (1 : Nat) := by
  induction tg using cfg.upInduction with
  | root => exact fun s hs hcarried _ => .inl ⟨none, rfl, rfl, hs.counted⟩
  | group g ih =>
    intro s hs hcarried hempty
    have hcounted := hs.counted
    rw [hcarried, if_pos rfl] at hcounted
    rw [chain_some]
    refine dequeueLoop_cons hfew hcounted hcarried ?_ ?_ rfl true ih
    · rintro g' cpu' heq
      cases heq
      exact hempty
    · exact (congrArg _ (hs.hNrRunning hempty)).trans (add_zero _)

end Dequeue

variable [DecidableEq T]

section Refresh

/-- The second loop of `enqueue_task_fair` and `dequeue_task_fair`, from the owner of
a carried queue on. -/
lemma refreshLoop_chain {count : State T G C → QueueId G C → State T G C}
    (hsane : ∀ s q, Sane cfg s → Sane cfg (count s q))
    (hcount : ∀ s q, (count s q).roll = s.roll.count q (-delta)) (tg : Option G) :
    ∀ s : State T G C, s.roll.carried ⟨tg, cpu⟩ = true → Counted cfg s [] (cfg.above ⟨tg, cpu⟩) delta →
      Counted cfg (State.refreshLoop cfg count (chain cfg cpu tg) s).1 [] (.cpu cpu)
        (if (State.refreshLoop cfg count (chain cfg cpu tg) s).2 then delta else 0) := by
  induction tg using cfg.upInduction with
  | root => exact fun s _ hs => hs
  | group g ih =>
    intro s hcarried hs
    have hoccupied : s.roll.Occupied cfg.toHierarchy ⟨cfg.parent g, cpu⟩ :=
      ⟨.group g cpu, hcarried, rfl⟩
    have htold := (hs.left (fun _ _ _ => not_mem_nil) hoccupied).told
      (hsane s ⟨cfg.parent g, cpu⟩ hs.sane) (hcount s ⟨cfg.parent g, cpu⟩)
    have hoccupied' : (count s ⟨cfg.parent g, cpu⟩).roll.Occupied cfg.toHierarchy ⟨cfg.parent g, cpu⟩ := by
      rw [hcount]
      exact ⟨.group g cpu, hcarried, rfl⟩
    have hcounted := htold.more (.inr hoccupied')
    have hqueue : s.cfsRqOf cfg (.group g cpu) = ⟨cfg.parent g, cpu⟩ := rfl
    rw [chain_some, State.refreshLoop, hqueue, hcounted.cfsRqThrottled]
    cases hthrottled : (count s ⟨cfg.parent g, cpu⟩).roll.throttled ⟨cfg.parent g, cpu⟩ with
    | true =>
      rw [htold.carried, hthrottled] at hcounted
      exact hcounted.anywhere _
    | false =>
      rw [htold.carried, hthrottled] at hcounted
      have hroll : (((count s ⟨cfg.parent g, cpu⟩).updateCfsShares cfg
          ⟨cfg.parent g, cpu⟩).updateEntityLoadAvg cfg (.group g cpu) true).roll =
          (count s ⟨cfg.parent g, cpu⟩).roll := by
        rw [roll_of_bare (updateEntityLoadAvg_quiet ..).bare, updateCfsShares_roll]
      refine ih _ ?_ (hcounted.quiet ?_ hroll)
      · rw [hroll, htold.carried, hthrottled]
        rfl
      · exact (sane_keeps cfg).updateEntityLoadAvg _ _ ((sane_keeps cfg).updateCfsShares _ _ hcounted.sane)

lemma Waiting.refreshLoop {rest : List (Entity T G C)} (hs : Waiting cfg cpu s rest delta)
    (count : State T G C → QueueId G C → State T G C)
    (hsane : ∀ s q, Sane cfg s → Sane cfg (count s q))
    (hcount : ∀ s q, (count s q).roll = s.roll.count q (-delta)) :
    Counted cfg (State.refreshLoop cfg count rest s).1 [] (.cpu cpu)
      (if (State.refreshLoop cfg count rest s).2 then delta else 0) := by
  obtain ⟨tg, rfl, hcarried, hcounted⟩ | ⟨e, l, rfl, hthrottled, hcounted⟩ := hs
  · exact refreshLoop_chain hsane hcount tg s hcarried hcounted
  · have hnext := hcounted.count (hsane s _ hcounted.sane) (hcount s (s.cfsRqOf cfg e))
    rw [hcounted.carried_of_throttled hthrottled, if_neg Bool.false_ne_true] at hnext
    have hflag : (count s (s.cfsRqOf cfg e)).roll.throttled (s.cfsRqOf cfg e) = true := by
      rwa [hcount]
    rw [State.refreshLoop, hnext.cfsRqThrottled, hflag, if_pos rfl]
    exact hnext.anywhere _

end Refresh

section TaskOps

lemma Counted.updateRqRunnableAvg (hs : Counted cfg s except place delta) (cpu : C)
    (runnable : Bool) : Counted cfg (s.updateRqRunnableAvg cfg cpu runnable) except place delta :=
  hs.quiet ((sane_keeps cfg).updateRqRunnableAvg s cpu runnable hs.sane)
    (roll_of_bare (updateRqRunnableAvg_quiet cfg s cpu runnable).bare)

/-- The CPU is told of new tasks. -/
lemma Counted.addNrRunning {n : Nat} (hs : Counted cfg s except (.cpu cpu) (-n)) :
    Counted cfg (s.modifyRq cpu fun r => { r with nrRunning := Word.add 32 r.nrRunning n }) except
      (.cpu cpu) 0 := by
  refine hs.countCpu ((sane_keeps cfg).walks.addNrRunning _ cpu n hs.sane) ?_
  rw [neg_neg, addNrRunning_roll]

/-- The CPU is told that tasks have gone. -/
lemma Counted.subNrRunning {n : Nat} (hs : Counted cfg s except (.cpu cpu) n) :
    Counted cfg (s.modifyRq cpu fun r => { r with nrRunning := Word.sub 32 r.nrRunning n }) except
      (.cpu cpu) 0 :=
  hs.countCpu ((sane_keeps cfg).walks.subNrRunning _ cpu n hs.sane) (subNrRunning_roll s cpu n)

lemma Counted.enqueueTaskFair (hs : Counted cfg s [] place 0) (hfew : Few T G C) {task : T}
    (hoff : (s.se (.task task)).onRq = false) (wakeup : Bool) (spent : QueueId G C → Bool) :
    Counted cfg (s.enqueueTaskFair cfg task wakeup spent) [] place 0 := by
  have hwaiting : Waiting cfg (s.taskQueue task).cpu (enqueueLoop cfg spent (s.entities cfg task) s wakeup).1
      (enqueueLoop cfg spent (s.entities cfg task) s wakeup).2 (-(1 : Nat)) :=
    enqueueLoop_cons hfew spent (hs.mono (nil_subset [.task task])) hoff
    (fun _ _ => nofun) (Nat.cast_one.symm : s.roll.tasks (.task task) = _) wakeup
    (chain cfg (s.taskQueue task).cpu (s.taskQueue task).tg)
    (enqueueLoop_chain hfew spent (s.taskQueue task).tg)
  have hcounted := hwaiting.refreshLoop (fun s q => s.addHNrRunning q 1)
    (fun _ _ => (sane_keeps cfg).walks.addHNrRunning _ _ _) fun s q => by rw [neg_neg, addHNrRunning_roll]
  rw [State.enqueueTaskFair]
  dsimp only
  split
  next htop =>
    rw [if_pos htop] at hcounted
    exact (hcounted.updateRqRunnableAvg _ _).addNrRunning.anywhere _
  next htop =>
    rw [if_neg htop] at hcounted
    exact hcounted.anywhere _

lemma Counted.dequeueTaskFair (hs : Counted cfg s [] place 0) (hfew : Few T G C)
    {task : T} (hon : (s.se (.task task)).onRq = true) (sleep : Bool) :
    Counted cfg (s.dequeueTaskFair cfg task sleep) [] place 0 := by
  have hwaiting : Waiting cfg (s.taskQueue task).cpu (dequeueLoop cfg (s.entities cfg task) s sleep).1
      (dequeueLoop cfg (s.entities cfg task) s sleep).2 (1 : Nat) := dequeueLoop_cons hfew
    ((hs.mono (nil_subset [.task task])).anywhere (.queue (s.taskQueue task))) hon
    (fun _ _ => nofun) ((zero_add _).trans Nat.cast_one.symm) rfl sleep
    (dequeueLoop_chain hfew (s.taskQueue task).tg)
  have hcounted := hwaiting.refreshLoop (fun s q => s.subHNrRunning q 1)
    (fun _ _ => (sane_keeps cfg).walks.subHNrRunning _ _ _) fun s q => subHNrRunning_roll s q 1
  rw [State.dequeueTaskFair]
  dsimp only
  split
  next htop =>
    rw [if_pos htop] at hcounted
    exact (hcounted.subNrRunning.updateRqRunnableAvg _ _).anywhere _
  next htop =>
    rw [if_neg htop] at hcounted
    exact hcounted.anywhere _

end TaskOps

section Throttle

/-- What a round of the loop in `throttle_cfs_rq` hands on: the flag says that the
queue is empty, if its owner is still queued. -/
def Ebbing (cfg : Config G C) (s : State T G C) (q : QueueId G C)
    (except : List (Entity T G C)) (delta : ZMod (2 ^ 32)) (dequeue : Bool) : Prop :=
  Told cfg s q except delta ∧ (s.roll.carried q = true → (dequeue = true ↔ ¬ s.roll.Occupied cfg.toHierarchy q))

/-- A round that takes the entity off. -/
lemma ebbing_of_dequeued (hfew : Few T G C) {n : Nat} (hleft : Left cfg t q except n) :
    Ebbing cfg (t.subHNrRunning q n) q except n (true && decide (((t.subHNrRunning q n).cfs q).loadWeight = 0)) := by
  have htold := hleft.told ((sane_keeps cfg).walks.subHNrRunning _ _ n hleft.counted.sane) (subHNrRunning_roll _ _ n)
  refine ⟨htold, fun _ => ?_⟩
  rw [Bool.true_and, decide_eq_true_iff]
  exact htold.counted.sane.loadWeight_eq_zero_iff hfew q

/-- A round that leaves the entity. -/
lemma ebbing_of_counted {n : Nat} (hleft : Left cfg t q except n) (hoccupied : t.roll.Occupied cfg.toHierarchy q)
    (empty : Bool) : Ebbing cfg (t.subHNrRunning q n) q except n (false && empty) := by
  have htold := hleft.told ((sane_keeps cfg).walks.subHNrRunning _ _ n hleft.counted.sane) (subHNrRunning_roll _ _ n)
  refine ⟨htold, fun _ => iff_of_false Bool.false_ne_true fun hempty => hempty ?_⟩
  rw [subHNrRunning_roll]
  obtain ⟨e, he, hqueue⟩ := hoccupied
  exact ⟨e, he, (Roll.queueOf_count _ _ e).trans hqueue⟩

lemma throttleLoop_chain (hfew : Few T G C) (g₀ : G) (n : Nat) (tg : Option G) :
    ∀ (s : State T G C) (dequeue : Bool), Above cfg g₀ tg → Ebbing cfg s ⟨tg, cpu⟩ [.group g₀ cpu] n dequeue →
      Counted cfg (State.throttleLoop cfg cpu n (cfg.path tg) s dequeue).1 [.group g₀ cpu] (.cpu cpu)
        (if (State.throttleLoop cfg cpu n (cfg.path tg) s dequeue).2 then (n : ZMod (2 ^ 32)) else 0) := by
  induction tg using cfg.upInduction with
  | root => exact fun s _ _ hs => hs.1.counted
  | group g ih =>
    intro s dequeue habove hs
    obtain ⟨htold, hflag⟩ := hs
    have hparent : Above cfg g₀ (cfg.parent g) := Above.parent (habove g rfl).le
    rw [cfg.path_some, State.throttleLoop]
    split
    next hon =>
      have hcarried : s.roll.carried ⟨some g, cpu⟩ = true := hon
      have hcounted := htold.counted
      rw [hcarried, if_pos rfl] at hcounted
      refine ih _ _ hparent ?_
      cases dequeue with
      | true =>
        have hempty := (hflag hcarried).mp rfl
        have hleft := hcounted.dequeueEntity hon hparent.not_owner (fun g' cpu' he => by
          cases he
          exact .inr hempty) true
        have hzero : s.roll.tasks (.group g cpu) = 0 := htold.hNrRunning hempty
        rw [hzero, add_zero] at hleft
        exact ebbing_of_dequeued hfew hleft
      | false =>
        have hoccupied := not_not.mp fun hempty => Bool.false_ne_true ((hflag hcarried).mpr hempty)
        have hmore := htold.more (.inr hoccupied)
        rw [hcarried, if_pos rfl] at hmore
        have hqueue : s.roll.Occupied cfg.toHierarchy ⟨cfg.parent g, cpu⟩ :=
          ⟨.group g cpu, hon, rfl⟩
        exact ebbing_of_counted (hmore.left hparent.not_owner hqueue) hqueue _
    next hoff =>
      -- an entity that is off ends the loop: nothing above counts the queue
      have hcarried : s.roll.carried ⟨some g, cpu⟩ = false := Bool.not_eq_true _ ▸ hoff
      have hthrottled : s.roll.throttled ⟨some g, cpu⟩ = true := by
        have hnot := htold.carried
        rwa [hcarried, eq_comm, Bool.not_eq_false'] at hnot
      have hmore := htold.more (.inl hthrottled)
      rw [hcarried] at hmore
      exact hmore.anywhere _

omit [Fintype T] [Fintype G] [Fintype C] in
/-- The loop queues nothing. -/
lemma throttleLoop_off (n : Nat) (groups : List G) :
    ∀ (s : State T G C) (dequeue : Bool), s.roll.onRq e = false →
    (State.throttleLoop cfg cpu n groups s dequeue).1.roll.onRq e = false := by
  induction groups with
  | nil => exact fun s _ hs => hs
  | cons g rest ih =>
    intro s dequeue hs
    rw [State.throttleLoop]
    split
    · refine ih _ _ ?_
      rw [State.throttleEntity, subHNrRunning_roll]
      cases dequeue with
      | true =>
        rw [if_pos rfl, dequeueEntity_roll]
        by_cases heq : e = .group g cpu
        · rw [heq]
          exact Roll.onRq_setOnRq_self false
        · exact (Roll.onRq_setOnRq_of_ne heq false).trans hs
      | false => exact hs
    · exact hs

/-- The loop as a whole, for a queue whose entity is queued. -/
lemma Counted.throttleLoop (hs : Counted cfg s [] place 0) (hfew : Few T G C) {g : G}
    {n : Nat} (hon : (s.se (.group g cpu)).onRq = true)
    (hn : s.roll.tasks (.group g cpu) = n) :
    Counted cfg (State.throttleLoop cfg cpu n (cfg.path (some g)) s true).1 [.group g cpu] (.cpu cpu)
        (if (State.throttleLoop cfg cpu n (cfg.path (some g)) s true).2 then (n : ZMod (2 ^ 32)) else 0) ∧
      (State.throttleLoop cfg cpu n (cfg.path (some g)) s true).1.roll.onRq (.group g cpu) = false := by
  have habove : Above cfg g (cfg.parent g) := Above.parent (Nat.le_refl _)
  have hstart : Counted cfg s [.group g cpu, .group g cpu] (.queue ⟨cfg.parent g, cpu⟩) 0 :=
    (hs.mono (nil_subset _)).anywhere _
  have hleft := hstart.dequeueEntity hon habove.not_owner (fun _ _ _ => .inl (mem_singleton_self _)) true
  rw [hn, zero_add] at hleft
  rw [cfg.path_some, State.throttleLoop, if_pos hon]
  refine ⟨throttleLoop_chain hfew g n _ _ _ habove (ebbing_of_dequeued hfew hleft), ?_⟩
  refine throttleLoop_off n _ _ _ ?_
  rw [State.throttleEntity, subHNrRunning_roll, if_pos rfl, dequeueEntity_roll]
  exact Roll.onRq_setOnRq_self false

lemma Counted.throttleCfsRq (hs : Counted cfg s [] place 0) (hfew : Few T G C) (g : G) (cpu : C)
    (hused : cfg.bandwidthUsed = true) : Counted cfg (s.throttleCfsRq cfg ⟨some g, cpu⟩) [] place 0 := by
  by_cases hon : (s.se (.group g cpu)).onRq = true
  · obtain ⟨hcounted, hoff⟩ := (hs.throttleDown ⟨some g, cpu⟩).throttleLoop hfew hon rfl
    dsimp only [State.throttleCfsRq]
    split
    next htop =>
      rw [if_pos htop] at hcounted
      exact (hcounted.subNrRunning.setThrottled hoff hused).anywhere _
    next htop =>
      rw [if_neg htop] at hcounted
      exact (hcounted.setThrottled hoff hused).anywhere _
  · exact (hs.mono (nil_subset _)).throttle_of_off (Bool.not_eq_true _ ▸ hon) hused

end Throttle

section Unthrottle

variable {g : G} {n : Nat}

/-- One round of the loop in `unthrottle_cfs_rq`. A throttled queue ends the loop; else
the owner of the queue is the next to rise, and it is queued if the flag is down. -/
lemma Rising.unthrottleEntity (hs : Rising cfg s ⟨some g, cpu⟩ n) (hfew : Few T G C)
    {enqueue : Bool} (hflag : s.roll.carried ⟨some g, cpu⟩ = false → enqueue = true)
    (spent : QueueId G C → Bool)
    (hu : u = s.unthrottleEntity cfg (.group g cpu) n (enqueue && !(s.se (.group g cpu)).onRq) spent) :
    (u.roll.throttled ⟨cfg.parent g, cpu⟩ = true → Counted cfg u [] (cfg.above ⟨cfg.parent g, cpu⟩) 0) ∧
    (u.roll.throttled ⟨cfg.parent g, cpu⟩ = false → Rising cfg u ⟨cfg.parent g, cpu⟩ n ∧
      (u.roll.carried ⟨cfg.parent g, cpu⟩ = false → (enqueue && !(s.se (.group g cpu)).onRq) = true)) := by
  have hqueue : s.cfsRqOf cfg (.group g cpu) = ⟨cfg.parent g, cpu⟩ := rfl
  rw [State.unthrottleEntity, hqueue] at hu
  cases hon : (s.se (.group g cpu)).onRq with
  | true =>
    rw [hon, Bool.not_true, Bool.and_false, if_neg Bool.false_ne_true] at hu
    have hroll : u.roll = s.roll.count ⟨cfg.parent g, cpu⟩ n := hu ▸ addHNrRunning_roll s _ n
    have hcounted := hs.carried hon
    have htold : Told cfg u ⟨cfg.parent g, cpu⟩ [] (-n) := by
      refine (hcounted.left (fun _ _ _ => not_mem_nil) ⟨.group g cpu, hon, rfl⟩).told ?_ ?_
      · rw [hu]
        exact (sane_keeps cfg).walks.addHNrRunning _ _ n hcounted.sane
      · rw [hroll, neg_neg]
    have hmore := htold.more (.inr (by
      rw [hroll]
      exact ⟨.group g cpu, hon, rfl⟩))
    refine ⟨fun hthrottled => ?_, fun hopen => ⟨?_, fun hoff => ?_⟩⟩
    · rwa [htold.carried, hthrottled] at hmore
    · have hcarried := htold.carried
      rw [hopen] at hcarried
      rw [hcarried] at hmore
      exact .inl ⟨hcarried, hmore⟩
    · rw [htold.carried, hopen] at hoff
      cases hoff
  | false =>
    rw [hon, hflag hon, Bool.not_false, Bool.and_true, if_pos rfl] at hu
    obtain ⟨hcounted, hready, hcount⟩ := hs.owner hon
    have hjoined := hcounted.enqueueEntity hfew hon hready true spent
    rw [hcount, hqueue] at hjoined
    have hroll := addHNrRunning_roll (s.enqueueEntity cfg (.group g cpu) true spent) ⟨cfg.parent g, cpu⟩ n
    have hsane := (sane_keeps cfg).walks.addHNrRunning _ ⟨cfg.parent g, cpu⟩ n hjoined.counted.sane
    rw [← hu] at hroll hsane
    have hsame : (s.enqueueEntity cfg (.group g cpu) true spent).roll.throttled
        ⟨cfg.parent g, cpu⟩ = u.roll.throttled ⟨cfg.parent g, cpu⟩ := by
      rw [hroll]
      rfl
    refine ⟨fun hthrottled => ?_, fun hopen => ⟨?_, fun _ => ?_⟩⟩
    · have hstop := hjoined.stop (hsame.trans hthrottled)
      have hnext := hstop.count hsane (by rwa [neg_neg])
      rwa [hstop.carried_of_throttled (hsame.trans hthrottled)] at hnext
    · exact hjoined.rise (hsame.trans hopen) hsane hroll
    · rw [hflag hon]
      rfl

lemma unthrottleLoop_chain (hfew : Few T G C) (n : Nat) (spent : QueueId G C → Bool) (tg : Option G) :
    ∀ (s : State T G C) (enqueue : Bool), Rising cfg s ⟨tg, cpu⟩ n →
      (s.roll.carried ⟨tg, cpu⟩ = false → enqueue = true) →
      Counted cfg (State.unthrottleLoop cfg cpu n spent (cfg.path tg) s enqueue).1 [] (.cpu cpu)
        (if (State.unthrottleLoop cfg cpu n spent (cfg.path tg) s enqueue).2 then
          -(n : ZMod (2 ^ 32)) else 0) := by
  induction tg using cfg.upInduction with
  | root => exact fun s _ hs _ => hs.carried rfl
  | group g ih =>
    intro s enqueue hs hflag
    obtain ⟨u, hu⟩ : ∃ u, u = s.unthrottleEntity cfg (.group g cpu) n
      (enqueue && !(s.se (.group g cpu)).onRq) spent := ⟨_, rfl⟩
    obtain ⟨hstop, hopen⟩ := hs.unthrottleEntity hfew hflag spent hu
    have hqueue : s.cfsRqOf cfg (.group g cpu) = ⟨cfg.parent g, cpu⟩ := rfl
    rw [cfg.path_some, State.unthrottleLoop, hqueue, ← hu]
    cases hthrottled : u.roll.throttled ⟨cfg.parent g, cpu⟩ with
    | true =>
      have hcounted := hstop hthrottled
      rw [hcounted.cfsRqThrottled, hthrottled]
      exact hcounted.anywhere _
    | false =>
      obtain ⟨hrising, hnext⟩ := hopen hthrottled
      have hgo : u.cfsRqThrottled cfg ⟨cfg.parent g, cpu⟩ = false := by
        rw [State.cfsRqThrottled, Bool.and_eq_false_iff]
        exact .inr hthrottled
      rw [hgo]
      exact ih u _ hrising hnext

/-- The flag is reset and the walk up the tree is made; the entity of the group is
still off. -/
lemma Counted.clearThrottled (hs : Counted cfg s [] place 0) (hq : s.roll.throttled ⟨some g, cpu⟩ = true)
    (ht : t = (s.modifyCfs ⟨some g, cpu⟩ fun c => { c with throttled := false }).walkTgTreeFrom cfg
      ⟨some g, cpu⟩ State.tgUnthrottleUp) :
    Counted cfg t [.group g cpu] place 0 ∧ t.roll.onRq (.group g cpu) = false ∧
      t.roll.throttled ⟨some g, cpu⟩ = false := by
  have hoff : s.roll.onRq (.group g cpu) = false := hs.carried_of_throttled hq
  have hroll : t.roll = s.roll.setThrottled ⟨some g, cpu⟩ false := by
    rw [ht, walkTgTreeFrom_roll _ cfg _ fun _ _ => ⟨by rfl, by rfl⟩, setThrottled_roll]
  refine ⟨⟨?_, ?_, ?_, fun cpu' => ?_, fun q hthrottled => ?_⟩, ?_, ?_⟩
  · rw [ht]
    exact (sane_keeps cfg).walkTgTreeFrom _ _ _ (fun _ => ⟨fun _ => rfl, fun _ => id⟩)
      ((sane_keeps cfg).setThrottled _ false hs.sane)
  all_goals rw [hroll] at *
  · exact (hs.settled.setThrottled ⟨some g, cpu⟩ false).mono (by simp [Roll.owner])
  · exact hs.gap
  · have hne : (⟨none, cpu'⟩ : QueueId G C) ≠ ⟨some g, cpu⟩ := by simp
    rw [Roll.setThrottled_of_ne hne]
    exact hs.root cpu'
  · exact hs.limited _ hq
  · exact hoff
  · exact Roll.setThrottled_self false

lemma Counted.unthrottleCfsRq (hs : Counted cfg s [] place 0) (hfew : Few T G C) (hq : s.roll.throttled q = true)
    (spent : QueueId G C → Bool) : Counted cfg (s.unthrottleCfsRq cfg q spent) [] place 0 := by
  obtain ⟨tg, cpu⟩ := q
  cases tg with
  | none => exact absurd (hq.symm.trans (hs.root cpu)) nofun
  | some g =>
    obtain ⟨t, ht⟩ : ∃ t, t = (s.modifyCfs ⟨some g, cpu⟩ fun c =>
      { c with throttled := false }).walkTgTreeFrom cfg ⟨some g, cpu⟩ State.tgUnthrottleUp := ⟨_, rfl⟩
    obtain ⟨hcounted, hoff, hopen⟩ := hs.clearThrottled hq ht
    have hweight := hcounted.sane.loadWeight_eq_zero_iff hfew ⟨some g, cpu⟩
    dsimp only [State.unthrottleCfsRq]
    rw [← ht]
    split
    next hzero =>
      refine { hcounted with settled := hcounted.settled.drop ?_ }
      rw [Roll.SettledAt, hoff]
      exact iff_of_false Bool.false_ne_true fun h => hweight.mp hzero h.1
    next hmore =>
      have hoccupied := not_not.mp fun hempty => hmore (hweight.mpr hempty)
      have hloop := unthrottleLoop_chain hfew (t.cfs ⟨some g, cpu⟩).hNrRunning spent (some g) t
        true (.inr ⟨hoff, hcounted.anywhere _, hoccupied, hopen, rfl⟩) fun _ => rfl
      split
      next htop =>
        rw [if_pos htop] at hloop
        exact hloop.addNrRunning.anywhere _
      next htop =>
        rw [if_neg htop] at hloop
        exact hloop.anywhere _

end Unthrottle

end BigLittle.Cfs
