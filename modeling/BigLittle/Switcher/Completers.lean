import BigLittle.Switcher.Requests

/-!
# Completers are called once

In a run whose steps are regular each completer is called once unless it has been detached, within
eight steps of the thread. A request is accepted too early only while the thread is at work on
another one.
-/

namespace BigLittle.SwitchRequest

open List State
open List (replicate)

variable {prog : Program} {s t : State} {c k r : Nat} {m m' : Mark} {op : Op} {ops : List Op}

/-! ### Marks stay -/

lemma State.mem_mark_iff : m' ∈ (s.mark k m).history r ↔ m' ∈ s.history r ∨ r = k ∧ m' = m := by
  change m' ∈ Function.update s.history k (s.history k ++ [m]) r ↔ _
  by_cases hk : r = k
  · subst hk
    rw [Function.update_self, mem_append, mem_singleton, and_iff_right rfl]
  · rw [Function.update_of_ne hk, or_iff_left fun hand => hk hand.1]

lemma State.mem_mark (h : m' ∈ s.history r) : m' ∈ (s.mark k m).history r :=
  mem_mark_iff.mpr (.inl h)

lemma State.mem_markAll {kind : Nat → Bool} (h : m' ∈ s.history r) :
    m' ∈ (s.markAll kind m).history r := by
  rw [markAll]
  dsimp only
  split
  · exact mem_append_left _ h
  · exact h

lemma mem_step (h : m ∈ s.history r) (op : Op) : m ∈ (step prog s op).history r := by
  cases op with
  | request k =>
    change m ∈ (s.stepRequest prog k).history r
    rw [stepRequest, store]
    split
    · split <;> exact h
    · split <;> exact h
    · split
      · exact h
      · exact mem_mark h
    · exact h
  | detach d =>
    change m ∈ (s.stepDetach prog d).history r
    rw [stepDetach]
    split
    · split
      · exact mem_markAll h
      · exact h
    · split
      · exact mem_markAll h
      · exact h
    · split <;> exact mem_markAll h
    · exact h
  | thread =>
    change m ∈ s.stepThread.history r
    rw [stepThread]
    split
    · exact h
    · split <;> exact h
    · split <;> exact h
    · exact h
    · exact h
    · exact h
    · exact mem_mark h
    · exact mem_mark h
    · split <;> exact h
  | interrupt =>
    change m ∈ s.stepInterrupt.history r
    rw [stepInterrupt]
    split <;> exact h
  | manage answers =>
    change m ∈ (s.stepManage answers).history r
    rw [stepManage]
    split
    · exact h
    · split <;> exact h
    · exact h
    · split
      · exact h
      · exact mem_markAll h
    · exact h
    · split
      · exact h
      · split
        · exact mem_markAll h
        · exact h
    · split
      · exact h
      · exact mem_markAll h
    · split <;> exact h
    · split
      · exact h
      · exact mem_markAll h

/-! ### How far a completer is from its call -/

/-- Steps of the thread until it has called what it has yet to take. -/
def Thread.far : Thread → Nat
  | .gone => 0
  | .taking => 3
  | .waiting => 4
  | .created | .checking => 5
  | .inside _ => 6
  | .calling _ _ => 7
  | .switching _ _ => 8

/-- Steps of the thread until it has called what it has taken. -/
def Thread.near : Thread → Nat
  | .switching _ _ => 2
  | .calling _ _ => 1
  | _ => 0

/-- The completer of a request is called within this many steps of the thread. -/
inductive Within (s : State) (c r : Nat) : Nat → Prop
  | pending {k : Nat} (h : s.pending = some (c, r)) (hk : s.thread.far ≤ k) : Within s c r k
  | held {k : Nat} (h : s.thread.held = some (c, r)) (hk : s.thread.near ≤ k) : Within s c r k

lemma State.Owes.within (h : s.Owes c r) : Within s c r 8 := by
  rcases h with hpending | hheld
  · refine .pending hpending ?_
    cases s.thread <;> exact Nat.le_of_ble_eq_true rfl
  · refine .held hheld ?_
    cases s.thread <;> exact Nat.le_of_ble_eq_true rfl

section

variable (h : Within s c r k)
include h

/-- The thread stays where it is, and has no other completer to take. -/
lemma Within.keep (hthread : t.thread = s.thread)
    (hpending : s.pending = some (c, r) → t.pending = some (c, r)) : Within t c r k := by
  cases h with
  | pending h hk => exact .pending (hpending h) (by rw [hthread]; exact hk)
  | held h hk => exact .held (by rw [hthread]; exact h) (by rw [hthread]; exact hk)

/-- A step of the thread brings it closer, or the completer has been called. -/
lemma Within.stepThread (hs : Running s) :
    .invoked ∈ s.stepThread.history r ∨ ∃ k', k' < k ∧ Within s.stepThread c r k' := by
  cases h with
  | pending h hk =>
    obtain ⟨c', hcompleter, heq⟩ := Option.map_eq_some_iff.mp h
    obtain ⟨-, hwanted, hne, hstop⟩ := hs.stored (by rw [hcompleter]; exact nofun)
    have hgo : s.thread ≠ .waiting → s.thread ≠ .taking → s.shouldStop = false := fun hwaiting htaking =>
      hstop.resolve_right fun hor => hor.elim hwaiting htaking
    refine .inr ⟨k - 1, ?_, ?_⟩
    · have hpos : 0 < s.thread.far := by
        cases hthread : s.thread <;> first | exact absurd hthread hne | exact Nat.le_of_ble_eq_true rfl
      omega
    · rw [State.stepThread]
      cases hthread : s.thread with
      | gone => exact absurd hthread hne
      | created | checking =>
        rw [hthread] at hk hgo
        dsimp only
        rw [hgo Thread.noConfusion Thread.noConfusion]
        exact .pending h (Nat.le_sub_one_of_lt hk)
      | waiting =>
        rw [hthread] at hk
        dsimp only
        rw [if_pos (.inl hwanted)]
        exact .pending h (Nat.le_sub_one_of_lt hk)
      | taking =>
        rw [hthread] at hk
        refine .held ?_ (k := k - 1) ?_
        · dsimp only [State.take]
          rw [if_pos hwanted, hcompleter, ← heq]
          rfl
        · dsimp only [State.take]
          rw [if_pos hwanted]
          exact Nat.le_sub_one_of_lt hk
      | switching completer cookie =>
        rw [hthread] at hk
        have hk' : 7 ≤ k - 1 := Nat.le_sub_one_of_lt hk
        cases completer with
        | none => exact .pending h (Nat.le_trans (show 5 ≤ 7 by decide) hk')
        | some completer => exact .pending h hk'
      | calling completer cookie | inside cookie =>
        rw [hthread] at hk
        exact .pending h (Nat.le_sub_one_of_lt hk)
  | held h hk =>
    rw [State.stepThread]
    cases hthread : s.thread with
    | switching completer cookie =>
      rw [hthread] at h hk
      cases completer with
      | none => cases h
      | some completer => exact .inr ⟨1, hk, .held h (Nat.le_refl 1)⟩
    | calling completer cookie =>
      rw [hthread] at h
      obtain rfl := congrArg Prod.snd (Option.some.inj h)
      refine .inl ?_
      change Mark.invoked ∈ Function.update s.history cookie (s.history cookie ++ [.invoked]) cookie
      rw [Function.update_self]
      exact mem_append_right _ (mem_singleton_self _)
    | _ =>
      rw [hthread] at h
      cases h

lemma Within.owes : s.Owes c r := by
  cases h with
  | pending h _ => exact .inl h
  | held h _ => exact .inr h

/-- The thread stays where it is, and what it has to take is taken away at most. -/
lemma Within.of_owes (hs : Ledger prog s) (hthread : t.thread = s.thread)
    (hpending : ∀ p, t.pending = some p → s.pending = some p) (howes : t.Owes c r) : Within t c r k := by
  rw [State.Owes, hthread] at howes
  cases h with
  | pending h hk =>
    rcases howes with ht | ht
    · exact .pending ht (by rw [hthread]; exact hk)
    · exact absurd rfl (hs.apart _ _ h ht)
  | held h hk =>
    rcases howes with ht | ht
    · exact absurd rfl (hs.apart _ _ (hpending _ ht) h)
    · exact .held (by rw [hthread]; exact ht) (by rw [hthread]; exact hk)

lemma State.stepRequest_keeps (j : Nat) : Within (s.stepRequest prog j) c r k := by
  rw [stepRequest]
  split
  · split <;> exact h.keep rfl id
  · split <;> exact h.keep rfl id
  · rw [store]
    split
    · exact h.keep rfl id
    next hnone =>
      refine h.keep rfl fun hpending => ?_
      rw [pending, Option.not_isSome_iff_eq_none.mp hnone] at hpending
      cases hpending
  · exact h

end

lemma State.stepDetach_keeps (prog : Program) (s : State) (d : Nat) : (s.stepDetach prog d).thread = s.thread ∧
    ∀ p, (s.stepDetach prog d).pending = some p → s.pending = some p := by
  rw [stepDetach]
  split
  · split <;> exact ⟨rfl, fun _ => id⟩
  · split <;> exact ⟨rfl, fun _ => id⟩
  · split
    · exact ⟨rfl, fun _ hpending => by cases hpending⟩
    · exact ⟨rfl, fun _ => id⟩
  · exact ⟨rfl, fun _ => id⟩

lemma State.stepManage_keeps (hs : Running s) (answers : Answers) :
    (s.stepManage answers).pending = s.pending ∧ ((s.stepManage answers).thread = s.thread ∨ s.thread = .gone) := by
  rw [stepManage]
  cases hmanager : s.manager with dsimp only
  | off | created | cleared => exact ⟨rfl, .inl rfl⟩
  | preparing | restoring => 
    split
    · exact ⟨rfl, .inr (hs.rest (by rw [hmanager]; rfl))⟩
    · exact ⟨rfl, .inl rfl⟩
  | stopping =>
    split
    · exact ⟨rfl, .inl rfl⟩
    · split <;> exact ⟨rfl, .inl rfl⟩
  | on | recreated | restopping => split <;> exact ⟨rfl, .inl rfl⟩

/-- Each step of the thread counts; the others do not set it back. -/
lemma Within.step (h : Within s c r k) (hs : Inv prog s) (hregular : Regular prog s op) :
    .detached ∈ (step prog s op).history r ∨ .invoked ∈ (step prog s op).history r ∨ ∃ k',
    k' + [op].count .thread ≤ k ∧ Within (SwitchRequest.step prog s op) c r k' := by
  obtain ⟨hcompleter, hopen⟩ := hs.owed c r h.owes
  cases op with
  | request j => exact .inr (.inr ⟨k, Nat.le_refl k, stepRequest_keeps h j⟩)
  | detach d =>
    obtain ⟨hthread, hpending⟩ := stepDetach_keeps prog s d
    have hmem : .accepted ∈ (SwitchRequest.step prog s (.detach d)).history r := mem_step hopen.accepted _
    rcases (hs.step hregular).served c r hcompleter hmem with hdetached | hinvoked | howes
    · exact .inl hdetached
    · exact .inr (.inl hinvoked)
    · exact .inr (.inr ⟨k, Nat.le_refl k, h.of_owes hs.toLedger hthread hpending howes⟩)
  | thread =>
    rcases h.stepThread hs.toRunning with hinvoked | ⟨k', hk', hwithin⟩
    · exact .inr (.inl hinvoked)
    · exact .inr (.inr ⟨k', hk', hwithin⟩)
  | interrupt =>
    refine .inr (.inr ⟨k, Nat.le_refl k, ?_⟩)
    change Within s.stepInterrupt c r k
    rw [stepInterrupt]
    split
    next hwaiting =>
      cases h with
      | pending h hk =>
        rw [hwaiting] at hk
        exact .pending h (Nat.le_trans (show 3 ≤ 4 by decide) hk)
      | held h hk =>
        rw [hwaiting] at h
        cases h
    next => exact h
  | manage answers =>
    obtain ⟨hpending, hthread⟩ := stepManage_keeps hs.toRunning answers
    refine .inr (.inr ⟨k, Nat.le_refl k, h.keep (hthread.resolve_right fun hgone => ?_) fun heq => hpending.trans heq⟩)
    exact hs.toRunning.not_owes_of_gone hgone c r h.owes

lemma mem_run (h : m ∈ s.history r) : m ∈ (ops.foldl (step prog) s).history r :=
  Run.foldl_of_step (P := fun t : State => m ∈ t.history r) (fun _ op ht => mem_step ht op) h

lemma Within.run (h : Within s c r k) (hs : Inv prog s)
    (hregular : Run.Each (SwitchRequest.step prog) (Regular prog) s ops) :
    .detached ∈ (ops.foldl (SwitchRequest.step prog) s).history r ∨
    .invoked ∈ (ops.foldl (SwitchRequest.step prog) s).history r ∨ ∃ k', k' + ops.count .thread ≤ k ∧
    Within (ops.foldl (SwitchRequest.step prog) s) c r k' := by
  induction ops generalizing s k with
  | nil => exact .inr (.inr ⟨k, Nat.le_refl k, h⟩)
  | cons op rest ih =>
    obtain ⟨hop, hrest⟩ := hregular
    rw [foldl_cons]
    rcases h.step hs hop with hdetached | hinvoked | ⟨k', hk', hwithin⟩
    · exact .inl (mem_run hdetached)
    · exact .inr (.inl (mem_run hinvoked))
    · refine (ih hwithin (hs.step hop) hrest).imp id fun h' => h'.imp id ?_
      rintro ⟨k'', hk'', hwithin''⟩
      refine ⟨k'', ?_, hwithin''⟩
      rw [← singleton_append, count_append]
      omega

/-- The completer of an open request is some steps away from its call. -/
lemma Within.pos (h : Within s c r k) (hs : Running s) : 0 < k := by
  cases h with
  | pending h hk =>
    obtain ⟨c', hcompleter, -⟩ := Option.map_eq_some_iff.mp h
    obtain ⟨-, -, hne, -⟩ := hs.stored (by rw [hcompleter]; exact nofun)
    cases hthread : s.thread <;> rw [hthread] at hk hne <;>
      first | exact absurd rfl hne | exact Nat.lt_of_lt_of_le (Nat.le_of_ble_eq_true rfl) hk
  | held h hk =>
    cases hthread : s.thread <;> rw [hthread] at hk h <;>
      first | exact Nat.lt_of_lt_of_le (Nat.le_of_ble_eq_true rfl) hk | exact nomatch h

/-! ### Every run -/

structure Answered (prog : Program) (s : State) : Prop where
  tidy : ∀ r, Tidy (s.history r)
  served : ∀ c r, prog.completer r = some c → .accepted ∈ s.history r → .detached ∉ s.history r →
    (s.history r).count .invoked = 1 ∨ s.Owes c r
  finished : s.manager = .off → ∀ c r, prog.completer r = some c → .accepted ∈ s.history r →
    .detached ∉ s.history r → (s.history r).count .invoked = 1

lemma Inv.answered (h : Inv prog s) : Answered prog s := by
  have hserved : ∀ c r, prog.completer r = some c → .accepted ∈ s.history r → .detached ∉ s.history r →
      (s.history r).count .invoked = 1 ∨ s.Owes c r := by
    intro c r hc haccepted hdetached
    rcases h.served c r hc haccepted with hmem | hinvoked | howes
    · exact absurd hmem hdetached
    · exact .inl ((h.tidy r).count_eq hinvoked)
    · exact .inr howes
  refine ⟨h.tidy, hserved, fun hoff c r hc haccepted hdetached => ?_⟩
  refine (hserved c r hc haccepted hdetached).resolve_right fun howes => ?_
  exact h.toRunning.not_owes_of_gone (h.rest (by rw [hoff]; rfl)) c r howes

/-- In every run whose steps are regular a completer is called at most once, and not after a detach
call for it has returned or the switcher has been disabled; if it is not detached, it is called
exactly once by the time the switcher is disabled, and within eight steps of the thread. -/
theorem completers_called {ops : List Op} (h : Run.Each (step prog) (Regular prog) init ops) :
    Run.Always (step prog) (Answered prog) init ops ∧ ∀ first second, ops = first ++ second →
    8 ≤ second.count .thread → ∀ c r, prog.completer r = some c →
    .accepted ∈ (first.foldl (step prog) init).history r → .detached ∉ (ops.foldl (step prog) init).history r →
    ((ops.foldl (step prog) init).history r).count .invoked = 1 := by
  have hrun : ∀ {ops}, Run.Each (step prog) (Regular prog) init ops → Run.Always (step prog) (Inv prog) init ops :=
    fun h => Run.always_of_each (fun _ _ hs hop => hs.step hop) (inv_init prog) h
  refine ⟨(hrun h).mono fun _ hs => hs.answered, ?_⟩
  rintro first second rfl hcount c r hc haccepted hdetached
  obtain ⟨hfirst, hsecond⟩ := Run.each_append.mp h
  have hs := (hrun hfirst).last
  have hlast := (hrun h).last
  rw [foldl_append] at hdetached hlast ⊢
  rcases hs.served c r hc haccepted with hmem | hinvoked | howes
  · exact absurd (mem_run hmem) hdetached
  · exact (hlast.tidy r).count_eq (mem_run hinvoked)
  · rcases howes.within.run hs hsecond with hmem | hinvoked | ⟨k, hk, hwithin⟩
    · exact absurd hmem hdetached
    · exact (hlast.tidy r).count_eq hinvoked
    · have hpos := hwithin.pos hlast.toRunning
      omega

/-- Requests with completers of their own, all for the second cluster, and detach calls for them. -/
def toSecond : Program where
  completer r := some r
  cluster _ := 1
  detached d := d

def enable : List Op := replicate 3 (.manage {})

def requests (r : Nat) : List Op := replicate 3 (.request r)

def detaches (d : Nat) : List Op := replicate 3 (.detach d)

/-- One completer is called and another one detached before the thread has taken it; then the
switcher is disabled and enabled again. -/
def properRun : List Op :=
  enable ++ requests 0 ++ replicate 8 .thread ++ requests 1 ++ detaches 1 ++
    replicate 2 (.manage {}) ++ replicate 4 .thread ++ replicate 4 (.manage {}) ++ replicate 4 .thread

theorem completers_called_proper_run :
    ((properRun.foldl (step toSecond) init).history 1 = [.accepted, .detached, .disabled]) ∧
    ((properRun.foldl (step toSecond) init).history 0).count .invoked = 1 := by
  have hregular : Run.Each (step toSecond) (Regular toSecond) init properRun := by decide +kernel
  refine ⟨by decide +kernel, (completers_called hregular).2 (properRun.take 6) (properRun.drop 6)
    (take_append_drop 6 properRun).symm (by decide +kernel) 0 0 rfl (by decide +kernel) (by decide +kernel)⟩

/-- The thread has taken the completer when the detach call comes, and calls it after the call has
returned. -/
def lateDetach : List Op :=
  enable ++ requests 0 ++ replicate 3 .thread ++ detaches 0 ++ replicate 2 .thread

/-- The switcher is disabled after the call has found the thread and before it takes the lock. -/
def lateRequest : List Op :=
  enable ++ replicate 2 (.request 0) ++ [.thread] ++ replicate 2 (.manage {}) ++ replicate 4 .thread ++
    [.manage {}, .request 0]

/-- A request comes while the thread is at work on another one, and the thread is told to stop. -/
def lateStop : List Op :=
  enable ++ requests 0 ++ replicate 3 .thread ++ requests 1 ++ replicate 2 (.manage {}) ++
    replicate 4 .thread ++ [.manage {}]

/-- A completer that is called after it has been detached, and completers that are never called, though
the calls have returned zero. -/
theorem completers_not_called : (lateDetach.foldl (step toSecond) init).history 0 = [.accepted, .detached, .invoked] ∧
      (let s := lateRequest.foldl (step toSecond) init
      s.manager = .off ∧ s.request 0 = .returned 0 ∧ s.history 0 = [.accepted]) ∧
      (let s := lateStop.foldl (step toSecond) init
      s.manager = .off ∧ s.request 1 = .returned 0 ∧ s.history 1 = [.accepted, .disabled]) := by
  decide +kernel

/-! ### One request at a time -/

/-- The thread is between the lock and the return of the completer. -/
def Thread.atWork : Thread → Bool
  | .switching (some _) _ | .calling _ _ | .inside _ => true
  | _ => false

/-- The completer of an accepted request has not returned. -/
def Outstanding (prog : Program) (s : State) (r : Nat) : Prop :=
  prog.completer r ≠ none ∧ .accepted ∈ s.history r ∧ .returned ∉ s.history r

/-- A request is accepted only if no other one is outstanding. -/
def Exclusive (prog : Program) (s : State) (op : Op) : Prop :=
  ∀ r, op = .request r → s.request r = .ready → s.completer = none → ∀ k, ¬Outstanding prog s k

/-- A step of a request or of the thread; a request with a completer is for a cluster, and none comes
while the thread is at work on one. -/
def Undisturbed (prog : Program) (s : State) : Op → Prop
  | .request r => s.request r = .ready → s.completer = none →
      s.thread.atWork = false ∧ (prog.completer r ≠ none → (prog.cluster r).toInt ≠ -1)
  | .thread | .interrupt => True
  | .detach _ | .manage _ => False

instance decidableUndisturbed (prog : Program) (s : State) (op) : Decidable (Undisturbed prog s op) := by
  induction op using Op.casesOn <;> dsimp only [Undisturbed] <;> infer_instance

/-- Nobody but the requests and the thread has done anything. -/
structure Alone (prog : Program) (s : State) : Prop extends Inv prog s where
  task : s.task = .thread
  detached : ∀ r, .detached ∉ s.history r
  returned : ∀ r, .invoked ∈ s.history r → .returned ∈ s.history r ∨ s.thread = .inside r

lemma Undisturbed.regular (h : Undisturbed prog s op) (htask : s.task = .thread) : Regular prog s op := by
  cases op with
  | request r => exact fun hready hnone hcompleter => ⟨htask, (h hready hnone).2 hcompleter⟩
  | thread | interrupt => trivial
  | detach _ | manage _ => exact h.elim

/-- The thread gets on with something else than a completer. -/
lemma Alone.of_not_inside (h : Alone prog s) (ht : Inv prog t) (htask : t.task = s.task)
    (hhistory : t.history = s.history) (hinside : ∀ r, s.thread = .inside r → t.thread = .inside r) : Alone prog t where
  toInv := ht
  task := htask.trans h.task
  detached r := by
    rw [hhistory]
    exact h.detached r
  returned r := by
    rw [hhistory]
    exact fun hr => (h.returned r hr).imp id (hinside r)

lemma State.stepRequest_marks (k : Nat) : (s.stepRequest prog k).task = s.task ∧
    (s.stepRequest prog k).thread = s.thread ∧ ∀ m ∈ (s.stepRequest prog k).history r, m ∈ s.history r ∨
    m = .accepted := by
  rw [stepRequest, store]
  split
  · split <;> exact ⟨rfl, rfl, fun _ => .inl⟩
  · split <;> exact ⟨rfl, rfl, fun _ => .inl⟩
  · split
    · exact ⟨rfl, rfl, fun _ => .inl⟩
    · exact ⟨rfl, rfl, fun _ hm => (mem_mark_iff.mp hm).imp id And.right⟩
  · exact ⟨rfl, rfl, fun _ => .inl⟩

lemma Alone.stepRequest (h : Alone prog s) (ht : Inv prog (s.stepRequest prog k)) :
    Alone prog (s.stepRequest prog k) := by
  obtain ⟨htask, hthread, -⟩ := stepRequest_marks (r := k) k
  have hmarks : ∀ {r m}, m ≠ .accepted → m ∈ (s.stepRequest prog k).history r → m ∈ s.history r :=
    fun hne hm => ((stepRequest_marks k).2.2 _ hm).resolve_right hne
  refine ⟨ht, htask.trans h.task, fun r hr => h.detached r (hmarks nofun hr), fun r hr => ?_⟩
  rw [hthread]
  exact (h.returned r (hmarks nofun hr)).imp (mem_step · (.request k)) id

lemma Alone.stepThread (h : Alone prog s) (ht : Inv prog s.stepThread) : Alone prog s.stepThread := by
  rw [State.stepThread] at ht ⊢
  cases hthread : s.thread with
  | calling completer cookie =>
    rw [hthread] at ht
    refine ⟨ht, h.task, fun k hk => ?_, fun k hk => ?_⟩
    · rcases State.mem_mark_iff.mp hk with hmem | ⟨-, heq⟩
      · exact h.detached k hmem
      · cases heq
    · rcases State.mem_mark_iff.mp hk with hmem | ⟨rfl, -⟩
      · refine .inl (State.mem_mark ((h.returned k hmem).resolve_right fun heq => ?_))
        cases hthread.symm.trans heq
      · exact .inr rfl
  | inside cookie =>
    rw [hthread] at ht
    refine ⟨ht, h.task, fun k hk => ?_, fun k hk => .inl ?_⟩
    · rcases State.mem_mark_iff.mp hk with hmem | ⟨-, heq⟩
      · exact h.detached k hmem
      · cases heq
    · rcases State.mem_mark_iff.mp hk with hmem | ⟨-, heq⟩
      · rcases h.returned k hmem with hreturned | heq
        · exact State.mem_mark hreturned
        · exact State.mem_mark_iff.mpr (.inr ⟨Thread.inside.inj (heq.symm.trans hthread), rfl⟩)
      · cases heq
  | gone => exact h
  | created | waiting | checking =>
    rw [hthread] at ht
    dsimp only at ht ⊢
    split at ht
    next hif =>
      rw [if_pos hif]
      exact h.of_not_inside ht rfl rfl fun _ heq => by cases hthread.symm.trans heq
    next hif =>
      rw [if_neg hif]
      exact h.of_not_inside ht rfl rfl fun _ heq => by cases hthread.symm.trans heq
  | taking =>
    rw [hthread] at ht
    exact h.of_not_inside ht rfl rfl fun _ heq => by cases hthread.symm.trans heq
  | switching completer cookie =>
    rw [hthread] at ht
    cases completer <;> exact h.of_not_inside ht rfl rfl fun _ heq => by cases hthread.symm.trans heq

lemma Alone.step (h : Alone prog s) (hop : Undisturbed prog s op) : Alone prog (step prog s op) := by
  have ht := h.toInv.step (hop.regular h.task)
  cases op with
  | request r => exact h.stepRequest ht
  | thread => exact h.stepThread ht
  | interrupt =>
    refine h.of_not_inside ht ?_ ?_ ?_ <;> dsimp only [SwitchRequest.step, stepInterrupt] <;> split
    · rfl
    · rfl
    · rfl
    · rfl
    next hwaiting => exact fun _ heq => nomatch hwaiting.symm.trans heq
    next => exact fun _ => id
  | detach _ | manage _ => exact hop.elim

/-- With nothing to take and the thread not at work on a request, none is outstanding. -/
lemma Alone.not_outstanding (h : Alone prog s) (hnone : s.completer = none) (hwork : s.thread.atWork = false)
    (k : Nat) : ¬Outstanding prog s k := by
  rintro ⟨hcompleter, haccepted, hreturned⟩
  obtain ⟨c, hc⟩ := Option.ne_none_iff_exists'.mp hcompleter
  rcases h.served c k hc haccepted with hdetached | hinvoked | hpending | hheld
  · exact h.detached k hdetached
  · rcases h.returned k hinvoked with hmem | hinside
    · exact hreturned hmem
    · rw [hinside] at hwork
      cases hwork
  · rw [pending, hnone] at hpending
    cases hpending
  · rw [Thread.held.eq_def] at hheld
    split at hheld
    next heq =>
      rw [heq] at hwork
      cases hwork
    next heq =>
      rw [heq] at hwork
      cases hwork
    next => cases hheld

/-- As long as no request comes while the thread is at work on one, none is accepted before the
completer of the one before has returned. -/
theorem requests_exclusive {ops : List Op} (h : Run.Each (step prog) (Undisturbed prog) enabled ops) :
    Run.Each (step prog) (Exclusive prog) enabled ops := by
  have hstart : Alone prog enabled := ⟨inv_enabled prog, rfl, nofun, nofun⟩
  have hrun := Run.always_of_each (P := Alone prog) (fun _ _ hs hop => hs.step hop) hstart h
  refine hrun.each_of_each h fun s op hs hop r hr hready hnone k => ?_
  subst hr
  exact hs.not_outstanding hnone (hop hready hnone).1 k

/-- A request that comes while the thread waits, and one after its completer has returned. -/
def inTurn : List Op :=
  requests 0 ++ replicate 6 .thread ++ requests 1 ++ replicate 6 .thread

theorem requests_exclusive_in_turn : (inTurn.foldl (step toSecond) enabled).history 1 =
    [.accepted, .invoked, .returned] ∧ Run.Each (step toSecond) (Exclusive toSecond) enabled inTurn :=
  ⟨by decide +kernel, requests_exclusive (by decide +kernel)⟩

/-- The thread has taken the first request and is in `bL_switch_to` when the second one is
accepted. -/
theorem accepted_in_switch :
    let s := (requests 0 ++ replicate 3 Op.thread ++ replicate 2 (Op.request 1)).foldl (step toSecond) enabled
    s.thread = .switching (some 0) 0 ∧ (step toSecond s (.request 1)).request 1 = .returned 0 ∧
      ¬Exclusive toSecond s (.request 1) := by
  refine ⟨by decide +kernel, by decide +kernel, fun hexclusive => ?_⟩
  exact hexclusive 1 rfl (by decide +kernel) (by decide +kernel) 0 ⟨nofun, by decide +kernel, by decide +kernel⟩

end BigLittle.SwitchRequest
