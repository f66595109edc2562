import BigLittle.Stop.Invariant

/-!
# Every work is completed once

A work that a stopper takes is completed after it has run, one that is turned away without
running, and neither is touched again. The thread of a stopper gets to every work of its
list.

A stopper that is parked with works in its list completes them and leaves them there, and
its thread runs them when it is unparked.
-/

namespace BigLittle.Stop

open List
open State (complete decTodo mark park record setCaller setDone)

variable {C W R : Type} {q : Plan C W R} {s s' : State C W R}
variable {w : W} {n : Nat} {cpu : C} {ops : List (Op C W R)} {left : List W} {op : Op C W R}

/-! ### A work that is taken is completed -/

section Fields

variable [DecidableEq R] (s) (r : R) (d : Done) (agent : Option C)

@[simp] lemma State.setDone_fields : (s.setDone r d).stopper = s.stopper ∧ (s.setDone r d).thread = s.thread ∧
    (s.setDone r d).caller = s.caller ∧ (s.setDone r d).log = s.log := by
  rw [setDone]
  split <;> exact ⟨rfl, rfl, rfl, rfl⟩

@[simp] lemma State.decTodo_fields : (s.decTodo r agent).stopper = s.stopper ∧ (s.decTodo r agent).thread = s.thread ∧
    (s.decTodo r agent).caller = s.caller ∧ (s.decTodo r agent).log = s.log := by
  rw [decTodo]
  split <;> simp [mark]

@[simp] lemma State.complete_fields : (s.complete r).stopper = s.stopper ∧ (s.complete r).thread = s.thread ∧
    (s.complete r).caller = s.caller ∧ (s.complete r).log = s.log := by
  simp [complete, mark]

end Fields

/-- How many steps a thread makes before it looks at the list again, at most. -/
def ThreadPc.toRepeat : ThreadPc W R → Nat
  | .call _ => 5
  | .storeRet _ _ => 4
  | .storeExecuted _ => 3
  | .decTodo _ _ | .parked => 2
  | .complete _ | .outside => 1
  | .repeat | .park _ | .parkComplete _ _ | .oops => 0

attribute [local simp] State.setThread State.setStopper record setCaller mark park State.unpark State.call State.step
  ThreadPc.toRepeat

lemma ThreadPc.toRepeat_le (pc : ThreadPc W R) : pc.toRepeat ≤ 5 := by
  cases pc <;> simp [toRepeat]

def Op.isThread [DecidableEq C] (cpu : C) : Op C W R → Bool
  | .thread c _ => decide (c = cpu)
  | _ => false

variable [DecidableEq C] in
lemma Op.eq_thread (h : op.isThread cpu = true) : ∃ ret, op = .thread cpu ret := by
  cases op with
  | thread c ret => exact ⟨ret, by rw [of_decide_eq_true h]⟩
  | call | caller | submit | park | unpark => exact nomatch h

/-- The log of a work that is under way says where the work is. -/
lemma Located.place (hw : Located q s w) : (s.log w = [.queued] → w ∈ (s.stopper (q.cpu w)).works) ∧
    (s.log w = [.queued, .taken] → (s.thread (q.cpu w)).calls = some w) ∧
    (s.log w = [.queued, .taken, .ran] → (s.thread (q.cpu w)).called = some w) := by
  cases hw with
  | new h | rejected _ _ h _ _ => simp [h]
  | listed h hplace | taken h hplace | ran h hplace => simp [h, hplace]
  | completed h =>
    obtain h | h := h
    · simp [h, accepted]
    · simp [h, turnedAway]

lemma ThreadPc.eq_call {pc : ThreadPc W R} (h : pc.calls = some w) : pc = .call w := by
  cases pc with
  | call v => rw [Option.some.inj h]
  | parked | outside | «repeat» | storeRet | storeExecuted | decTodo | complete | park | parkComplete | oops =>
    exact nomatch h

lemma Inv.of_calls (h : Inv q s) (hw : (s.thread cpu).calls = some w) :
    q.cpu w = cpu ∧ s.log w = [.queued, .taken] := h.thread (ThreadPc.eq_call hw)

lemma Inv.of_called (h : Inv q s) (hw : (s.thread cpu).called = some w) :
    q.cpu w = cpu ∧ s.log w = [.queued, .taken, .ran] := by
  cases hpc : s.thread cpu with rw [hpc] at hw
  | storeRet v ret | decTodo v r => exact Option.some.inj hw ▸ (h.thread hpc).1
  | storeExecuted v => exact Option.some.inj hw ▸ h.thread hpc
  | parked | outside | «repeat» | call | complete | park | parkComplete | oops => exact nomatch hw

/-- A work is taken, run and completed, or turned away and completed without running, and nothing
else. The count of a record is found to be zero once, then the record is completed and its caller
returns, and then it is not used; its count has been found to be zero when all its works are
completed. -/
def Once (q : Plan C W R) (s : State C W R) : Prop :=
  (∀ w, s.log w <+: accepted ∨ s.log w <+: turnedAway) ∧ ∀ r, (∃ agent, s.marks r <+: settled agent) ∧
      (s.marks r ≠ [] ↔ q.works r ≠ [] ∧ ∀ w ∈ q.works r, isOpen (s.log w) = false)

lemma Inv.once (h : Inv q s) : Once q s := by
  refine ⟨fun w => ?_, fun r => ⟨(h.request r).shape, ?_⟩⟩
  · cases h.work w with
    | new hlog | listed hlog | taken hlog | ran hlog =>
      rw [hlog]
      exact .inl ⟨_, rfl⟩
    | rejected r left hlog =>
      rw [hlog]
      exact .inr ⟨_, rfl⟩
    | completed hlog =>
      rcases hlog with hlog | hlog
      · exact .inl (hlog ▸ prefix_rfl)
      · exact .inr (hlog ▸ prefix_rfl)
  · have hr := h.request r
    rw [ne_eq, hr.zero]
    cases hidle : (s.caller r).isIdle with
    | true =>
      -- a request that has not begun has no completed work
      have hnew := h.caller (CallerPc.eq_idle hidle)
      refine iff_of_false (fun hnot => hnot (.inl rfl)) fun ⟨hworks, hclosed⟩ => ?_
      obtain ⟨w, hw⟩ := exists_mem_of_ne_nil _ hworks
      have hopen := hclosed w hw
      rw [hnew w ((q.mem_works r w).mp hw)] at hopen
      exact nomatch hopen
    | false =>
      have htodo : (s.done r).nrTodo = 0 ↔ ∀ w ∈ q.works r, isOpen (s.log w) = false := by
        rw [hr.todo hidle, Int.natCast_eq_zero, countP_eq_zero]
        exact forall₂_congr fun w _ => iff_of_eq (Bool.not_eq_true _)
      rw [← htodo]
      simp [not_or]

variable [DecidableEq W]

/-- The stopper has taken the work, and completes it within `n` steps of its thread. -/
inductive Within (q : Plan C W R) (s : State C W R) (w : W) (n : Nat) : Prop where
  | listed (h : s.log w = [.queued])
      (hn : (s.thread (q.cpu w)).toRepeat + 6 * (s.stopper (q.cpu w)).works.idxOf w + 5 ≤ n)
  | taken (h : s.log w = [.queued, .taken]) (hn : 4 ≤ n)
  | ran (h : s.log w = [.queued, .taken, .ran]) (hn : (s.thread (q.cpu w)).toRepeat ≤ n + 1)
  | accepted (h : s.log w = accepted)

/-- What others do leaves the work, the thread and the place in the list alone. -/
lemma Within.frame (h : Within q s w n) (hlocated : Located q s w) (more : List W)
    (hlog : s'.log w = s.log w) (hthread : s'.thread (q.cpu w) = s.thread (q.cpu w))
    (hworks : (s'.stopper (q.cpu w)).works = (s.stopper (q.cpu w)).works ++ more) : Within q s' w n := by
  cases h with
  | listed h hn =>
    refine .listed (hlog.trans h) ?_
    rwa [hthread, hworks, idxOf_append_of_mem (hlocated.place.1 h)]
  | taken h hn => exact .taken (hlog.trans h) hn
  | ran h hn => exact .ran (hlog.trans h) (by rw [hthread]; exact hn)
  | accepted h => exact .accepted (hlog.trans h)

lemma Within.mono {n n' : Nat} (h : Within q s w n) (hle : n ≤ n') : Within q s w n' := by
  cases h with
  | listed h hn => exact .listed h (Nat.le_trans hn hle)
  | taken h hn => exact .taken h (Nat.le_trans hn hle)
  | ran h hn => exact .ran h (Nat.le_trans hn (Nat.succ_le_succ hle))
  | accepted h => exact .accepted h

lemma Within.log (h : Within q s w n) : s.log w ≠ [] ∧ s.log w ≠ [.rejected] := by
  cases h with
  | listed h | taken h | ran h | accepted h =>
    rw [h]
    exact ⟨nofun, nofun⟩

variable [DecidableEq C] [DecidableEq R]

/-- A step of a thread is nothing to a work that is not in its hand and not its next. -/
lemma Inv.threadStep_log (h : Inv q s) (ret : Int) (hcalls : (s.thread cpu).calls ≠ some w)
    (hcalled : (s.thread cpu).called ≠ some w) (hnext : s.thread cpu = .repeat → (s.stopper cpu).works.head? ≠ some w) :
    (s.threadStep q cpu ret).log w = s.log w := by
  have hinv := (h.cpu cpu).thread
  rw [State.threadStep]
  cases hpc : s.thread cpu with
  | parked | outside =>
    dsimp only
    split <;> rfl
  | «repeat» =>
    dsimp only
    split
    · rfl
    next v rest hworks =>
      have hv : ¬w = v := by
        rintro rfl
        exact hnext hpc (by rw [hworks]; rfl)
      simp [hv]
  | call v =>
    have hv : ¬w = v := fun heq => hcalls (by rw [hpc, heq]; rfl)
    simp [hv]
  | storeRet v ret =>
    dsimp only
    split
    · rfl
    · split <;> simp
  | storeExecuted v =>
    have hv : ¬w = v := fun heq => hcalled (by rw [hpc, heq]; rfl)
    dsimp only
    split <;> simp [hv]
  | decTodo v r =>
    have hv : ¬w = v := fun heq => hcalled (by rw [hpc, heq]; rfl)
    simp [hv]
  | complete r => simp
  | park left =>
    rw [hpc] at hinv
    obtain ⟨rfl, -⟩ := hinv
    rfl
  | parkComplete r left | oops => exact (h.thread hpc).elim

/-- In particular to the works of other CPUs and to completed ones. -/
lemma Inv.threadStep_log_of (h : Inv q s) (ret : Int)
    (hw : q.cpu w ≠ cpu ∨ isOpen (s.log w) = false) : (s.threadStep q cpu ret).log w = s.log w := by
  have hnot : ∀ {log}, q.cpu w = cpu ∧ s.log w = log → isOpen log = true → False := by
    rintro log ⟨hcpu, rfl⟩ hopen
    rcases hw with hw | hw
    · exact hw hcpu
    · exact Bool.false_ne_true (hw.symm.trans hopen)
  refine h.threadStep_log ret (fun hc => hnot (h.of_calls hc) rfl) (fun hc => hnot (h.of_called hc) rfl) fun _ hc => ?_
  exact hnot ((h.cpu cpu).listed w (mem_of_head? hc)) rfl

/-- Nor is it anything to other CPUs or to a caller. -/
lemma threadStep_other (s : State C W R) (cpu c : C) (ret : Int) :
    (c ≠ cpu → (s.threadStep q cpu ret).thread c = s.thread c ∧ (s.threadStep q cpu ret).stopper c = s.stopper c) ∧
    (s.threadStep q cpu ret).caller = s.caller := by
  rw [State.threadStep]
  cases hpc : s.thread cpu with
  | parked | outside =>
    dsimp only
    split <;> simp +contextual
  | «repeat» =>
    dsimp only
    split <;> simp +contextual
  | call v | decTodo v r => simp +contextual
  | storeRet v ret =>
    dsimp only
    split
    · simp +contextual
    · split <;> simp +contextual
  | storeExecuted v =>
    dsimp only
    split <;> simp +contextual
  | complete r | parkComplete r left => simp +contextual
  | park left =>
    cases left with
    | nil => simp +contextual
    | cons v left =>
      dsimp only
      split <;> simp +contextual
  | oops => exact ⟨fun _ => ⟨rfl, rfl⟩, rfl⟩

/-- A work that the stopper has taken is nothing to callers. -/
lemma Inv.callerStep_other (h : Inv q s) (r : R) (hnew : s.log w ≠ []) (hrejected : s.log w ≠ [.rejected]) :
    (s.callerStep q r).log w = s.log w ∧ (s.callerStep q r).thread (q.cpu w) = s.thread (q.cpu w) ∧ ∃ more,
    ((s.callerStep q r).stopper (q.cpu w)).works = (s.stopper (q.cpu w)).works ++ more := by
  have hinv := (h.request r).caller
  rw [State.callerStep]
  cases hpc : s.caller r with
  | idle | returned => exact ⟨rfl, rfl, [], (append_nil _).symm⟩
  | queue left =>
    rw [hpc] at hinv
    cases left with
    | nil =>
      dsimp only
      split
      · exact ⟨rfl, rfl, [], (append_nil _).symm⟩
      · simp
    | cons v left =>
      have hv : ¬w = v := fun heq => hnew (heq ▸ (hinv.2 v mem_cons_self).2)
      dsimp only
      split
      · refine ⟨by simp [hv], rfl, ?_⟩
        by_cases hc : q.cpu w = q.cpu v
        · exact ⟨[v], by simp [hc]⟩
        · exact ⟨[], by simp [hc]⟩
      · refine ⟨by simp [hv], rfl, [], ?_⟩
        by_cases hc : q.cpu w = q.cpu v
        · simp [hc]
        · simp [hc]
  | decTodo v left =>
    rw [hpc] at hinv
    have hv : ¬w = v := fun heq => hrejected (heq ▸ hinv.2.2.2)
    dsimp only
    split
    · simp [hv]
    · refine ⟨by simp [hv], by simp, [], ?_⟩
      by_cases hc : q.cpu w = q.cpu v
      · simp [hc]
      · simp [hc]
  | complete v left =>
    refine ⟨by simp, by simp, [], ?_⟩
    by_cases hc : q.cpu w = q.cpu v
    · simp [hc]
    · simp [hc]

lemma Within.other (h : Within q s w n) (hinv : Inv q s) (hop : op.Allowed q s) (hdrained : op.Drained q s)
    (hne : ∀ ret, op ≠ .thread (q.cpu w) ret) : Within q (s.step q op) w n := by
  have hlocated := hinv.work w
  obtain ⟨hnew, hrejected⟩ := h.log
  cases op with
  | call r =>
    refine h.frame hlocated [] ?_ ?_ ?_ <;> simp
  | caller r =>
    obtain ⟨hlog, hthread, more, hworks⟩ := hinv.callerStep_other r hnew hrejected
    exact h.frame hlocated more hlog hthread hworks
  | submit v =>
    have hv : ¬w = v := fun heq => hnew (heq ▸ hop.2.1)
    rw [State.step, State.submit]
    split
    · by_cases hc : q.cpu w = q.cpu v
      · refine h.frame hlocated [v] ?_ rfl ?_
        · simp [hv]
        · simp [hc]
      · refine h.frame hlocated [] ?_ rfl ?_
        · simp [hv]
        · simp [hc]
    · refine h.frame hlocated [] ?_ rfl ?_
      · simp [hv]
      · simp
  | thread cpu ret =>
    have hcpu : q.cpu w ≠ cpu := fun heq => hne ret (by rw [heq])
    obtain ⟨hthread, hstopper⟩ := (threadStep_other (q := q) s cpu (q.cpu w) ret).1 hcpu
    refine h.frame hlocated [] (hinv.threadStep_log_of ret (.inl hcpu)) hthread ?_
    rw [State.step, hstopper, append_nil]
  | park cpu =>
    by_cases hc : q.cpu w = cpu
    · -- the list is empty, and the thread has no work in hand
      have hpc := ThreadPc.eq_outside hop.1
      have hworks : (s.stopper cpu).works = [] := hdrained
      cases hlocated with
      | new hnil => exact absurd hnil hnew
      | listed _ hmem =>
        rw [hc, hworks] at hmem
        cases hmem
      | taken _ hthread | ran _ hthread =>
        rw [hc, hpc] at hthread
        cases hthread
      | rejected _ _ hlog _ _ => exact absurd hlog hrejected
      | completed hlog =>
        refine .accepted (hlog.resolve_right fun haway => ?_)
        cases h with
        | listed h | taken h | ran h | accepted h => cases h.symm.trans haway
    · refine h.frame hlocated [] rfl ?_ ?_
      · simp [hc]
      · simp [hc]
  | unpark cpu =>
    refine h.frame hlocated [] rfl rfl ?_
    by_cases hc : q.cpu w = cpu
    · simp [hc]
    · simp [hc]

/-- A step of a thread takes it nearer to its next look at the list, unless it is there. -/
lemma Inv.toRepeat_threadStep (h : Inv q s) (ret : Int) (hworks : (s.stopper cpu).works ≠ [])
    (hpc : s.thread cpu ≠ .repeat) : ((s.threadStep q cpu ret).thread cpu).toRepeat + 1 ≤ (s.thread cpu).toRepeat ∧
    (s.threadStep q cpu ret).stopper cpu = s.stopper cpu := by
  have hcpu := h.cpu cpu
  have hinv := hcpu.thread
  rw [State.threadStep]
  cases hthread : s.thread cpu with
  | parked =>
    have henabled : (s.stopper cpu).enabled = true := by
      by_contra hdisabled
      exact hworks (hcpu.enabled (Bool.eq_false_iff.mpr hdisabled))
    simp [henabled]
  | outside => simp [hworks]
  | «repeat» => exact absurd hthread hpc
  | call v => simp
  | storeRet v ret =>
    rw [hthread] at hinv
    dsimp only
    split
    · simp
    next hne =>
      split
      next hnone => exact absurd (hinv.2 hnone) hne
      next => simp
  | storeExecuted v | decTodo v r =>
    dsimp only
    split <;> simp
  | complete r => simp
  | park left =>
    rw [hthread] at hinv
    exact absurd hinv.2.1 hworks
  | parkComplete r left | oops => exact (h.thread hthread).elim

lemma Within.own (h : Within q s w (n + 1)) (hinv : Inv q s) (ret : Int) :
    Within q (s.threadStep q (q.cpu w) ret) w n := by
  have hlocated := hinv.work w
  cases h with
  | listed hlog hn =>
    have hmem := hlocated.place.1 hlog
    by_cases hpc : s.thread (q.cpu w) = .repeat
    · cases hworks : (s.stopper (q.cpu w)).works with
      | nil =>
        rw [hworks] at hmem
        cases hmem
      | cons v rest =>
        rw [hpc, hworks] at hn
        rw [State.threadStep, hpc]
        simp only [hworks]
        by_cases hv : w = v
        · refine .taken ?_ ?_
          · simp [← hv, hlog]
          · simp only [ThreadPc.toRepeat] at hn
            omega
        · refine .listed ?_ ?_
          · simp [hv, hlog]
          · rw [idxOf_cons_ne _ (Ne.symm hv)] at hn
            simp only [State.setThread, record, State.setStopper, Function.update_self, ThreadPc.toRepeat] at hn ⊢
            omega
    · obtain ⟨hle, hstopper⟩ := hinv.toRepeat_threadStep ret (ne_nil_of_mem hmem) hpc
      refine .listed ?_ ?_
      · refine (hinv.threadStep_log ret (fun hc => ?_) (fun hc => ?_) fun hr => absurd hr hpc).trans hlog
        · cases hlog.symm.trans (hinv.of_calls hc).2
        · cases hlog.symm.trans (hinv.of_called hc).2
      · rw [hstopper]
        omega
  | taken hlog hn =>
    rw [State.threadStep, ThreadPc.eq_call (hlocated.place.2.1 hlog)]
    refine .ran ?_ ?_
    · simp [hlog]
    · simp only [State.setThread, record, Function.update_self, ThreadPc.toRepeat]
      exact hn
  | ran hlog hn =>
    have hcalled := hlocated.place.2.2 hlog
    rw [State.threadStep]
    cases hpc : s.thread (q.cpu w) with
    | storeRet v ret =>
      rw [hpc] at hcalled hn
      obtain rfl : v = w := Option.some.inj hcalled
      simp only [ThreadPc.toRepeat] at hn
      dsimp only
      split
      · refine .ran hlog ?_
        simp only [State.setThread, Function.update_self, ThreadPc.toRepeat]
        omega
      next hne =>
        split
        next hnone => exact absurd ((hinv.thread hpc).2 hnone) hne
        next =>
          refine .ran ?_ ?_
          · simp [hlog]
          · simp only [State.setThread, Function.update_self, ThreadPc.toRepeat]
            omega
    | storeExecuted v =>
      rw [hpc] at hcalled hn
      obtain rfl : v = w := Option.some.inj hcalled
      simp only [ThreadPc.toRepeat] at hn
      dsimp only
      split
      · refine .accepted ?_
        simp [hlog, Stop.accepted]
      · refine .ran ?_ ?_
        · simp [hlog]
        · simp only [State.setThread, Function.update_self, ThreadPc.toRepeat]
          omega
    | decTodo v r =>
      rw [hpc] at hcalled
      obtain rfl : v = w := Option.some.inj hcalled
      refine .accepted ?_
      simp [hlog, Stop.accepted]
    | parked | outside | «repeat» | call | complete | park | parkComplete | oops =>
      rw [hpc] at hcalled
      cases hcalled
  | accepted hlog => exact .accepted ((hinv.threadStep_log_of ret (.inr (hlog ▸ rfl))).trans hlog)

/-- The thread that makes enough steps completes the work. -/
lemma Within.run (h : Within q s w n) (hinv : Inv q s)
    (hrun : Run.Each (State.step q) (fun s op => op.Allowed q s ∧ op.Drained q s) s ops)
    (hn : n ≤ ops.countP (Op.isThread (q.cpu w))) : (ops.foldl (State.step q) s).log w = Stop.accepted := by
  induction ops generalizing s n with
  | nil =>
    obtain rfl : n = 0 := Nat.le_zero.mp hn
    cases h with
    | listed _ hn | taken _ hn => exact absurd hn (by omega)
    | ran hlog hn =>
      have hcalled := (hinv.work w).place.2.2 hlog
      cases hpc : s.thread (q.cpu w) with
      | storeRet | storeExecuted | decTodo =>
        rw [hpc] at hn
        simp only [ThreadPc.toRepeat] at hn
        omega
      | parked | outside | «repeat» | call | complete | park | parkComplete | oops =>
        rw [hpc] at hcalled
        exact nomatch hcalled
    | accepted hlog => exact hlog
  | cons op rest ih =>
    obtain ⟨⟨hop, hdrained⟩, hrest⟩ := hrun
    have hnext := hinv.step hop hdrained
    rw [countP_cons] at hn
    by_cases hthread : op.isThread (q.cpu w) = true
    · obtain ⟨ret, rfl⟩ := Op.eq_thread hthread
      rw [if_pos hthread] at hn
      exact ih (n := n - 1) ((h.mono (by omega)).own hinv ret) hnext hrest (by omega)
    · rw [if_neg hthread] at hn
      refine ih (h.other hinv hop hdrained ?_) hnext hrest hn
      rintro ret rfl
      exact hthread (decide_eq_true rfl)

/-- A work that is completed stays as it is. -/
lemma Inv.step_closed (h : Inv q s) (hop : op.Allowed q s)
    (hclosed : isOpen (s.log w) = false) : (s.step q op).log w = s.log w := by
  have hnew : s.log w ≠ [] := by
    intro hnil
    rw [hnil] at hclosed
    exact nomatch hclosed
  have hrejected : s.log w ≠ [.rejected] := by
    intro hlog
    rw [hlog] at hclosed
    exact nomatch hclosed
  cases op with
  | call r => simp
  | caller r => exact (h.callerStep_other r hnew hrejected).1
  | submit v =>
    have hv : ¬w = v := fun heq => hnew (heq ▸ hop.2.1)
    rw [State.step, State.submit]
    split <;> simp [hv]
  | thread cpu ret => exact h.threadStep_log_of ret (.inr hclosed)
  | park cpu => rfl
  | unpark cpu => rfl

lemma Inv.run_closed (h : Inv q s) (hrun : Run.Each (State.step q) (fun s op => op.Allowed q s ∧ op.Drained q s) s ops)
    (hclosed : isOpen (s.log w) = false) : (ops.foldl (State.step q) s).log w = s.log w := by
  induction ops generalizing s with
  | nil => rfl
  | cons op rest ih =>
    have hlog := h.step_closed hrun.1.1 hclosed
    exact (ih (h.step hrun.1.1 hrun.1.2) hrun.2 (by rw [hlog]; exact hclosed)).trans hlog

lemma callerStep_caller (s : State C W R) {r r' : R} (hr : r' ≠ r) : (s.callerStep q r).caller r' = s.caller r' := by
  rw [State.callerStep]
  cases hpc : s.caller r with
  | idle | returned => rfl
  | queue left =>
    cases left with
    | nil =>
      dsimp only
      split <;> simp [hr]
    | cons v left =>
      dsimp only
      split <;> simp [hr]
  | decTodo v left =>
    dsimp only
    split <;> simp [hr]
  | complete v left => simp [hr]

/-- A work that is turned away waits for its caller. -/
lemma State.step_rejected {r : R} (hop : op.Allowed q s) (hcaller : s.caller r = .decTodo w left)
    (hne : op ≠ .caller r) : (s.step q op).caller r = .decTodo w left := by
  cases op with
  | call r' =>
    have hr : ¬r = r' := by
      rintro rfl
      exact nomatch hcaller.symm.trans (CallerPc.eq_idle hop)
    simp [hr, hcaller]
  | caller r' =>
    have hr : r ≠ r' := fun heq => hne (by rw [heq])
    exact (callerStep_caller s hr).trans hcaller
  | submit v =>
    rw [State.step, State.submit]
    split <;> exact hcaller
  | thread cpu ret =>
    rwa [State.step, (threadStep_other s cpu cpu ret).2]
  | park cpu | unpark cpu => exact hcaller

/-- The caller's next step completes it. -/
lemma Inv.callerStep_rejected (h : Inv q s) {r : R}
    (hcaller : s.caller r = .decTodo w left) : (s.callerStep q r).log w = turnedAway := by
  obtain ⟨-, -, -, hlog⟩ := h.caller hcaller
  rw [State.callerStep, hcaller]
  dsimp only
  split <;> simp [hlog, turnedAway]

lemma Inv.run_rejected (h : Inv q s) {r : R}
    (hrun : Run.Each (State.step q) (fun s op => op.Allowed q s ∧ op.Drained q s) s ops)
    (hcaller : s.caller r = .decTodo w left) (hmem : .caller r ∈ ops) :
    (ops.foldl (State.step q) s).log w = turnedAway := by
  induction ops generalizing s with
  | nil => exact nomatch hmem
  | cons op rest ih =>
    have hnext := h.step hrun.1.1 hrun.1.2
    rcases mem_cons.mp hmem with rfl | hmem
    · have hlog : (s.step q (.caller r)).log w = turnedAway := h.callerStep_rejected hcaller
      exact (hnext.run_closed hrun.2 (by rw [hlog]; rfl)).trans hlog
    · by_cases hop : op = .caller r
      · subst hop
        have hlog : (s.step q (.caller r)).log w = turnedAway := h.callerStep_rejected hcaller
        exact (hnext.run_closed hrun.2 (by rw [hlog]; rfl)).trans hlog
      · exact ih hnext hrun.2 (State.step_rejected hrun.1.1 hcaller hop) hmem

/-- In every run in which stoppers are parked with empty lists: a work is completed at
most once, and a record is used for the last time when it is completed; a work that is
taken is completed when the thread has made enough steps, one that is turned away when its
caller has made one. -/
theorem completed_once (q : Plan C W R) (ops : List (Op C W R))
    (hrun : Run.Each (State.step q) (fun s op => op.Allowed q s ∧ op.Drained q s) {} ops) :
    Run.Always (State.step q) (Once q) {} ops ∧ ∀ before after, ops = before ++ after → ∀ w,
        (.queued ∈ (before.foldl (State.step q) {}).log w →
          6 * ((before.foldl (State.step q) {}).stopper (q.cpu w)).works.length + 4 ≤
            after.countP (Op.isThread (q.cpu w)) → (ops.foldl (State.step q) {}).log w = accepted) ∧
        (.rejected ∈ (before.foldl (State.step q) {}).log w →
          (∀ r, q.done w = some r → .caller r ∈ after) →
          (ops.foldl (State.step q) {}).log w = turnedAway) := by
  have hinv : ∀ ops, Run.Each (State.step q) (fun s op => op.Allowed q s ∧ op.Drained q s) {} ops →
      Run.Always (State.step q) (Inv q) {} ops :=
    fun ops hrun => Run.always_of_each (fun _ _ ht hop => ht.step hop.1 hop.2) (inv_init q) hrun
  refine ⟨(hinv ops hrun).mono fun _ ht => ht.once, ?_⟩
  rintro before after rfl w
  obtain ⟨hbefore, hafter⟩ := Run.each_append.mp hrun
  have hs := (hinv before hbefore).last
  rw [foldl_append]
  generalize before.foldl (State.step q) {} = s at *
  constructor
  · intro hqueued henough
    refine Within.run ?_ hs hafter henough
    cases hs.work w with
    | new hlog =>
      rw [hlog] at hqueued
      exact nomatch hqueued
    | listed hlog hmem =>
      refine .listed hlog ?_
      have hidx := idxOf_lt_length_of_mem hmem
      have hpc : (s.thread (q.cpu w)).toRepeat ≤ 5 := (s.thread (q.cpu w)).toRepeat_le
      omega
    | taken hlog => exact .taken hlog (by omega)
    | ran hlog hthread =>
      have hpc : (s.thread (q.cpu w)).toRepeat ≤ 5 := (s.thread (q.cpu w)).toRepeat_le
      exact .ran hlog (by omega)
    | rejected r left hlog =>
      rw [hlog] at hqueued
      exact absurd hqueued (by decide)
    | completed hlog =>
      refine .accepted (hlog.resolve_right fun haway => ?_)
      rw [haway] at hqueued
      exact absurd hqueued (by decide)
  · intro hrejected hcaller
    cases hs.work w with
    | new hlog | listed hlog | taken hlog | ran hlog =>
      rw [hlog] at hrejected
      exact absurd hrejected (by decide)
    | rejected r left hlog hdone hpc => exact hs.run_rejected hafter hpc (hcaller r hdone)
    | completed hlog =>
      have haway : s.log w = turnedAway := by
        refine hlog.resolve_left fun haccepted => ?_
        rw [haccepted] at hrejected
        exact absurd hrejected (by decide)
      exact (hs.run_closed hafter (by rw [haway]; rfl)).trans haway

section Runs

/-- One work for each of two CPUs, in one request. -/
def twoWorks : Plan (Fin 2) (Fin 2) Unit where
  cpu := id
  done _ := some ()
  works _ := [0, 1]
  nodup _ := by decide
  mem_works := fun () => by decide

/-- CPU 1 is down, so its work is turned away. -/
def oneTurnedAway : List (Op (Fin 2) (Fin 2) Unit) :=
  [.unpark 0, .call (), .caller (), .caller (), .caller ()] ++ replicate 10 (.thread 0 0) ++ [.caller ()]

lemma oneTurnedAway_allowed : Run.Each (State.step twoWorks)
    (fun s op => op.Allowed twoWorks s ∧ op.Drained twoWorks s) {} oneTurnedAway := by
  decide +kernel

theorem completed_once_two_works : (oneTurnedAway.foldl (State.step twoWorks) {}).log 0 = accepted ∧
    (oneTurnedAway.foldl (State.step twoWorks) {}).log 1 = turnedAway := by
  have honce := (completed_once twoWorks oneTurnedAway oneTurnedAway_allowed).2
  constructor
  · exact (honce (oneTurnedAway.take 3) (oneTurnedAway.drop 3) rfl 0).1 (by decide +kernel) (by decide +kernel)
  · exact (honce (oneTurnedAway.take 4) (oneTurnedAway.drop 4) rfl 1).2 (by decide +kernel) fun () _ => .head _

/-- One work, with its request, for one CPU. -/
def oneWork : Plan Unit Unit Unit where
  cpu := id
  done _ := some ()
  works _ := [()]
  nodup _ := by decide
  mem_works := fun () () => by decide

/-- The work is queued when the thread is about to park, and is completed by the parking;
its caller returns. Then the CPU comes up again. -/
def parkedQueued : List (Op Unit Unit Unit) :=
  [.unpark (), .thread () 0, .call (), .caller (), .park (), .thread () 0, .thread () 0, .thread () 0, .caller (),
    .unpark ()] ++ replicate 7 (.thread () 0)

theorem parkedQueued_twice : Run.Each (State.step oneWork) (fun s op => op.Allowed oneWork s) {} parkedQueued ∧
    (parkedQueued.foldl (State.step oneWork) {}).log () = [.queued, .signalled false, .taken, .ran, .signalled true] ∧
    (parkedQueued.foldl (State.step oneWork) {}).marks () = [.zero (some ()), .completed, .returned, .late, .late] ∧
    ((parkedQueued.foldl (State.step oneWork) {}).done ()).nrTodo = -1 ∧
    ¬Run.Always (State.step oneWork) (Once oneWork) {} parkedQueued := by
  have hlog : (parkedQueued.foldl (State.step oneWork) {}).log () =
      [.queued, .signalled false, .taken, .ran, .signalled true] := by decide +kernel
  refine ⟨by decide +kernel, hlog, by decide +kernel, by decide +kernel, fun honce => ?_⟩
  have hprefix := honce.last.1 ()
  rw [hlog] at hprefix
  exact absurd hprefix (by decide)

end Runs

end BigLittle.Stop
