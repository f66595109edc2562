import BigLittle.Lib.Count
import BigLittle.Stop.Stopper

/-!
# Where every work and every record is

The log of a work tells where it is: in the list of its stopper, with the thread, with a
caller that was turned away, or completed. The marks of a record tell how far its
completion is. As long as a stopper is parked with an empty list, every step moves one
work or one record on by one place.
-/

namespace BigLittle.Stop

open List State
open Function (update update_eq_self update_eq_self_iff update_of_ne update_self)

variable {C W R : Type}

/-- The life of a work that the stopper takes. -/
def accepted : List Event := [.queued, .taken, .ran, .signalled true]

/-- The life of a work that the stopper does not take. -/
def turnedAway : List Event := [.rejected, .signalled false]

/-- The life of a record. -/
def settled (agent : Option C) : List (Mark C) := [.zero agent, .completed, .returned]

/-- The work is not completed yet. -/
def isOpen (log : List Event) : Bool := log.all fun
  | .signalled _ => false
  | _ => true

/-- The work that is to be called. -/
def ThreadPc.calls : ThreadPc W R → Option W
  | .call w => some w
  | _ => none

/-- The work that has been called and is not completed yet. -/
def ThreadPc.called : ThreadPc W R → Option W
  | .storeRet w _ | .storeExecuted w | .decTodo w _ => some w
  | _ => none

lemma CallerPc.eq_idle {pc : CallerPc W} (h : pc.isIdle = true) : pc = .idle := by
  cases pc with
  | idle => rfl
  | queue left | decTodo w left | complete w left | returned => exact nomatch h

lemma ThreadPc.eq_parked {pc : ThreadPc W R} (h : pc.isParked = true) : pc = .parked := by
  cases pc <;> first | rfl | exact nomatch h

lemma ThreadPc.eq_outside {pc : ThreadPc W R} (h : pc.isOutside = true) : pc = .outside := by
  cases pc <;> first | rfl | exact nomatch h

variable (q : Plan C W R)

/-- What holds of a thread, by where it is. -/
def ThreadInv (s : State C W R) (cpu : C) : ThreadPc W R → Prop
  | .parked | .outside | .repeat => True
  | .call w => q.cpu w = cpu ∧ s.log w = [.queued, .taken]
  | .storeRet w ret => (q.cpu w = cpu ∧ s.log w = [.queued, .taken, .ran]) ∧ (q.done w = none → ret = 0)
  | .storeExecuted w => q.cpu w = cpu ∧ s.log w = [.queued, .taken, .ran]
  | .decTodo w r => (q.cpu w = cpu ∧ s.log w = [.queued, .taken, .ran]) ∧ q.done w = some r
  | .complete r => s.marks r = [.zero (some cpu)]
  | .park left => left = [] ∧ (s.stopper cpu).works = [] ∧ (s.stopper cpu).lock = some .thread
  | .parkComplete _ _ | .oops => False

structure CpuInv (s : State C W R) (cpu : C) : Prop where
  nodup : (s.stopper cpu).works.Nodup
  listed : ∀ w ∈ (s.stopper cpu).works, q.cpu w = cpu ∧ s.log w = [.queued]
  enabled : (s.stopper cpu).enabled = false → (s.stopper cpu).works = []
  thread : ThreadInv q s cpu (s.thread cpu)

/-- The works a caller has yet to queue. -/
def Unqueued (s : State C W R) (r : R) (left : List W) : Prop :=
  left.Nodup ∧ ∀ w ∈ left, q.done w = some r ∧ s.log w = []

/-- What holds of a caller, by where it is. -/
def CallerInv (s : State C W R) (r : R) : CallerPc W → Prop
  | .idle => ∀ w, q.done w = some r → s.log w = []
  | .queue left => Unqueued q s r left
  | .decTodo w left =>
    Unqueued q s r left ∧ (s.stopper (q.cpu w)).lock = some (.caller r) ∧ q.done w = some r ∧ s.log w = [.rejected]
  | .complete w left =>
    Unqueued q s r left ∧ (s.stopper (q.cpu w)).lock = some (.caller r) ∧ s.marks r = [.zero none]
  | .returned => ∃ agent, s.marks r = settled agent

structure RequestInv (s : State C W R) (r : R) : Prop where
  caller : CallerInv q s r (s.caller r)
  todo : (s.caller r).isIdle = false → (s.done r).nrTodo = (q.works r).countP fun w => isOpen (s.log w)
  zero : s.marks r = [] ↔ (s.caller r).isIdle = true ∨ q.works r = [] ∨ (s.done r).nrTodo ≠ 0
  shape : ∃ agent, s.marks r <+: settled agent
  completion : (s.done r).completion = if (s.marks r).length = 2 then 1 else 0

/-- Where a work is, by its log. -/
inductive Located (s : State C W R) (w : W) : Prop where
  | new (h : s.log w = [])
  | listed (h : s.log w = [.queued]) (hmem : w ∈ (s.stopper (q.cpu w)).works)
  | taken (h : s.log w = [.queued, .taken]) (hthread : (s.thread (q.cpu w)).calls = some w)
  | ran (h : s.log w = [.queued, .taken, .ran]) (hthread : (s.thread (q.cpu w)).called = some w)
  | rejected (r : R) (left : List W) (h : s.log w = [.rejected]) (hdone : q.done w = some r)
      (hcaller : s.caller r = .decTodo w left)
  | completed (h : s.log w = accepted ∨ s.log w = turnedAway)

structure Inv (s : State C W R) : Prop where
  cpu : ∀ cpu, CpuInv q s cpu
  request : ∀ r, RequestInv q s r
  work : ∀ w, Located q s w

variable {q} {s s' : State C W R}

/-! ### What a step leaves alone -/

section

variable {cpu : C} (hlog : ∀ w log, q.cpu w = cpu → s.log w = .queued :: log → s'.log w = .queued :: log)
  (hmarks : ∀ r, s.marks r = [.zero (some cpu)] → s'.marks r = s.marks r)
include hlog hmarks

lemma ThreadInv.frame {pc : ThreadPc W R} (h : ThreadInv q s cpu pc)
    (hlock : (s.stopper cpu).lock = some .thread →
      (s'.stopper cpu).works = (s.stopper cpu).works ∧ (s'.stopper cpu).lock = some .thread) :
    ThreadInv q s' cpu pc := by
  cases pc with
  | parked | outside | «repeat» => trivial
  | call w | storeExecuted w => exact ⟨h.1, hlog w _ h.1 h.2⟩
  | storeRet w ret | decTodo w r => exact ⟨⟨h.1.1, hlog w _ h.1.1 h.1.2⟩, h.2⟩
  | complete r => exact (hmarks r h).trans h
  | park left =>
    obtain ⟨hleft, hworks, hl⟩ := h
    exact ⟨hleft, (hlock hl).1.trans hworks, (hlock hl).2⟩
  | parkComplete r left => exact h
  | oops => exact h

lemma CpuInv.frame (h : CpuInv q s cpu) (hworks : (s'.stopper cpu).works = (s.stopper cpu).works)
    (henabled : (s'.stopper cpu).enabled = (s.stopper cpu).enabled)
    (hlock : (s.stopper cpu).lock = some .thread → (s'.stopper cpu).lock = some .thread)
    (hthread : s'.thread cpu = s.thread cpu) : CpuInv q s' cpu := by
  refine ⟨?_, fun w hmem => ?_, ?_, ?_⟩
  · rw [hworks]
    exact h.nodup
  · rw [hworks] at hmem
    obtain ⟨hcpu, hqueued⟩ := h.listed w hmem
    exact ⟨hcpu, hlog w [] hcpu hqueued⟩
  · rw [hworks, henabled]
    exact h.enabled
  · rw [hthread]
    exact h.thread.frame hlog hmarks fun hl => ⟨hworks, hlock hl⟩

end

lemma Unqueued.frame {r : R} {left : List W} (h : Unqueued q s r left)
    (hlog : ∀ w, q.done w = some r → s.log w = [] → s'.log w = []) : Unqueued q s' r left :=
  ⟨h.1, fun w hw => ⟨(h.2 w hw).1, hlog w (h.2 w hw).1 (h.2 w hw).2⟩⟩

section

variable {r : R} (h : RequestInv q s r)
  (hlog : ∀ w, q.done w = some r → s.log w = [] ∨ s.log w = [.rejected] → s'.log w = s.log w)
  (hlock : ∀ c, (s.stopper c).lock = some (.caller r) → (s'.stopper c).lock = some (.caller r))
include hlog hlock

lemma CallerInv.frame {pc : CallerPc W} (h : CallerInv q s r pc)
    (hmarks : s.marks r = [.zero none] ∨ (∃ agent, s.marks r = settled agent) → s'.marks r = s.marks r) :
    CallerInv q s' r pc := by
  have hnew : ∀ w, q.done w = some r → s.log w = [] → s'.log w = [] :=
    fun w hw hnil => (hlog w hw (.inl hnil)).trans hnil
  cases pc with
  | idle => exact fun w hw => hnew w hw (h w hw)
  | queue left => exact Unqueued.frame h hnew
  | decTodo w left =>
    obtain ⟨hleft, hheld, hw, hrejected⟩ := h
    exact ⟨hleft.frame hnew, hlock _ hheld, hw, (hlog w hw (.inr hrejected)).trans hrejected⟩
  | complete w left =>
    obtain ⟨hleft, hheld, hzero⟩ := h
    exact ⟨hleft.frame hnew, hlock _ hheld, (hmarks (.inl hzero)).trans hzero⟩
  | returned =>
    obtain ⟨agent, hreturned⟩ := h
    exact ⟨agent, (hmarks (.inr ⟨agent, hreturned⟩)).trans hreturned⟩

variable (htodo : (s'.done r).nrTodo = (s.done r).nrTodo)
  (hcompletion : (s'.done r).completion = (s.done r).completion) (hmarks : s'.marks r = s.marks r)
  (hopen : ∀ w, q.done w = some r → isOpen (s'.log w) = isOpen (s.log w))
include h htodo hcompletion hmarks hopen

omit hlog hlock in
/-- The caller goes on and the counts stay. -/
lemma RequestInv.keep (hidle : (s'.caller r).isIdle = (s.caller r).isIdle)
    (hcaller : CallerInv q s' r (s'.caller r)) : RequestInv q s' r := by
  refine ⟨hcaller, ?_, ?_, ?_, ?_⟩
  · rw [hidle, htodo]
    intro hi
    rw [h.todo hi]
    congr 1
    refine countP_congr fun w hw => ?_
    rw [hopen w ((q.mem_works r w).mp hw)]
  · rw [hidle, htodo, hmarks]
    exact h.zero
  · rw [hmarks]
    exact h.shape
  · rw [hcompletion, hmarks]
    exact h.completion

lemma RequestInv.frame (hcaller : s'.caller r = s.caller r) : RequestInv q s' r := by
  refine h.keep htodo hcompletion hmarks hopen (by rw [hcaller]) ?_
  rw [hcaller]
  exact h.caller.frame hlog hlock fun _ => hmarks

end

lemma Located.frame {w : W} (h : Located q s w) (hlog : s'.log w = s.log w)
    (hmem : w ∈ (s.stopper (q.cpu w)).works → w ∈ (s'.stopper (q.cpu w)).works)
    (hcalls : (s.thread (q.cpu w)).calls = some w → (s'.thread (q.cpu w)).calls = some w)
    (hcalled : (s.thread (q.cpu w)).called = some w → (s'.thread (q.cpu w)).called = some w)
    (hcaller : ∀ r left, s.caller r = .decTodo w left → s'.caller r = .decTodo w left) : Located q s' w := by
  cases h with
  | new h => exact .new (hlog.trans h)
  | listed h hw => exact .listed (hlog.trans h) (hmem hw)
  | taken h hthread => exact .taken (hlog.trans h) (hcalls hthread)
  | ran h hthread => exact .ran (hlog.trans h) (hcalled hthread)
  | rejected r left h hdone hc => exact .rejected r left (hlog.trans h) hdone (hcaller r left hc)
  | completed h =>
    refine .completed ?_
    rwa [hlog]

/-- A step concerns some CPUs, works and requests and leaves the others alone. -/
structure Change (q : Plan C W R) (P : C → Prop) (Q : W → Prop) (S : R → Prop)
    (s s' : State C W R) : Prop where
  stopper : ∀ c, ¬P c → s'.stopper c = s.stopper c := by
    first | exact fun _ _ => rfl | exact fun _ h => update_of_ne h _ _
  thread : ∀ c, ¬P c → s'.thread c = s.thread c := by
    first | exact fun _ _ => rfl | exact fun _ h => update_of_ne h _ _
  log : ∀ w, ¬Q w → s'.log w = s.log w := by
    first | exact fun _ _ => rfl | exact fun _ h => update_of_ne h _ _
  done : ∀ r, ¬S r → s'.done r = s.done r := by
    first | exact fun _ _ => rfl | exact fun _ h => update_of_ne h _ _
  caller : ∀ r, ¬S r → s'.caller r = s.caller r := by
    first | exact fun _ _ => rfl | exact fun _ h => update_of_ne h _ _
  marks : ∀ r, ¬S r → s'.marks r = s.marks r := by
    first | exact fun _ _ => rfl | exact fun _ h => update_of_ne h _ _
  /-- a work moves at its own CPU -/
  cpu : ∀ w, Q w → P (q.cpu w) := by first | exact fun _ h => h ▸ rfl | exact nofun
  /-- and is neither new nor completed for a request that is left alone -/
  request : ∀ w r, Q w → q.done w = some r → ¬S r →
    s.log w ≠ [] ∧ s.log w ≠ [.rejected] ∧ isOpen (s'.log w) = isOpen (s.log w) := by exact nofun
  zero : ∀ r c, S r → ¬P c → s.marks r = [.zero (some c)] → s'.marks r = s.marks r := by exact nofun
  lock : ∀ r c, ¬S r → P c → (s.stopper c).lock = some (.caller r) →
    (s'.stopper c).lock = some (.caller r) := by exact fun _ _ _ _ h => h
  works : ∀ w, ¬Q w → P (q.cpu w) → w ∈ (s.stopper (q.cpu w)).works →
    w ∈ (s'.stopper (q.cpu w)).works := by exact fun _ _ _ h => h
  calls : ∀ w, ¬Q w → P (q.cpu w) → (s.thread (q.cpu w)).calls = some w →
    (s'.thread (q.cpu w)).calls = some w := by exact fun _ _ _ h => h
  called : ∀ w, ¬Q w → P (q.cpu w) → (s.thread (q.cpu w)).called = some w →
    (s'.thread (q.cpu w)).called = some w := by exact fun _ _ _ h => h
  rejects : ∀ r w left, S r → ¬Q w → s.caller r = .decTodo w left →
    s'.caller r = .decTodo w left := by exact nofun

lemma Inv.of_change {P : C → Prop} {Q : W → Prop} {S : R → Prop} (h : Inv q s)
    (hc : Change q P Q S s s') (hcpu : ∀ c, P c → CpuInv q s' c) (hrequest : ∀ r, S r → RequestInv q s' r)
    (hwork : ∀ w, Q w → Located q s' w) : Inv q s' := by
  classical
  refine ⟨fun c => ?_, fun r => ?_, fun w => ?_⟩
  · by_cases hC : P c
    · exact hcpu c hC
    · have hs := hc.stopper c hC
      refine (h.cpu c).frame (fun w _ hw => ?_) (fun r hr => ?_) (by rw [hs]) (by rw [hs]) (by rw [hs]; exact id)
        (hc.thread c hC)
      · rw [hc.log w fun hW => hC (hw ▸ hc.cpu w hW)]
        exact id
      · by_cases hR : S r
        · exact hc.zero r c hR hC hr
        · exact hc.marks r hR
  · by_cases hR : S r
    · exact hrequest r hR
    · refine (h.request r).frame (fun w hw hlog => ?_) (fun c hlock => ?_) (by rw [hc.done r hR])
        (by rw [hc.done r hR]) (hc.marks r hR) (fun w hw => ?_) (hc.caller r hR)
      · by_cases hW : Q w
        · obtain ⟨hnew, hrejected, -⟩ := hc.request w r hW hw hR
          exact absurd hlog (not_or.mpr ⟨hnew, hrejected⟩)
        · exact hc.log w hW
      · by_cases hC : P c
        · exact hc.lock r c hR hC hlock
        · rwa [hc.stopper c hC]
      · by_cases hW : Q w
        · exact (hc.request w r hW hw hR).2.2
        · rw [hc.log w hW]
  · by_cases hW : Q w
    · exact hwork w hW
    · refine (h.work w).frame (hc.log w hW) ?_ ?_ ?_ (fun r left hcaller => ?_)
      · by_cases hC : P (q.cpu w)
        · exact hc.works w hW hC
        · rw [hc.stopper _ hC]
          exact id
      · by_cases hC : P (q.cpu w)
        · exact hc.calls w hW hC
        · rw [hc.thread _ hC]
          exact id
      · by_cases hC : P (q.cpu w)
        · exact hc.called w hW hC
        · rw [hc.thread _ hC]
          exact id
      · by_cases hR : S r
        · exact hc.rejects r w left hR hW hcaller
        · rwa [hc.caller r hR]

lemma inv_init (q : Plan C W R) : Inv q {} where
  cpu _ := ⟨nodup_nil, nofun, fun _ => rfl, trivial⟩
  request _ := ⟨fun _ _ => rfl, nofun, iff_of_true rfl (.inl rfl), ⟨none, nil_prefix⟩, rfl⟩
  work _ := .new rfl

/-! ### The record -/

/-- While a work of a request is open, the record is counted in and its caller waits. -/
lemma Inv.open_request (h : Inv q s) {w : W} {r : R} {e : Event} {log : List Event}
    (hw : q.done w = some r) (hlog : s.log w = e :: log) (hopen : isOpen (e :: log) = true) :
    s.marks r = [] ∧ (s.caller r).isIdle = false ∧ s.caller r ≠ .returned ∧ (s.done r).nrTodo ≠ 0 := by
  have hr := h.request r
  have hidle : (s.caller r).isIdle = false := by
    cases hpc : s.caller r with
    | idle =>
      have hcaller := hr.caller
      rw [hpc] at hcaller
      exact nomatch hlog.symm.trans (hcaller w hw)
    | queue left | decTodo v left | complete v left | returned => rfl
  have hpos : 0 < (q.works r).countP fun v => isOpen (s.log v) :=
    countP_pos_iff.mpr ⟨w, (q.mem_works r w).mpr hw, hlog ▸ hopen⟩
  have htodo : (s.done r).nrTodo ≠ 0 := by
    rw [hr.todo hidle]
    omega
  have hmarks : s.marks r = [] := hr.zero.mpr (.inr (.inr htodo))
  refine ⟨hmarks, hidle, fun hreturned => ?_, htodo⟩
  have hcaller := hr.caller
  rw [hreturned] at hcaller
  obtain ⟨agent, hsettled⟩ := hcaller
  exact nomatch hmarks.symm.trans hsettled

/-- A work of the request is completed. -/
lemma Inv.request_decTodo (h : Inv q s) {w : W} {r : R} {agent : Option C} {e : Event}
    {log : List Event} (hw : q.done w = some r) (hlog : s.log w = e :: log) (hopen : isOpen (e :: log) = true)
    (hdone : s'.done r = { s.done r with nrTodo := (s.done r).nrTodo - 1 })
    (hmarks : s'.marks r = s.marks r ++ if (s.done r).nrTodo - 1 = 0 then [.zero agent] else [])
    (hother : ∀ v, v ≠ w → s'.log v = s.log v) (hclosed : isOpen (s'.log w) = false)
    (hidle : (s'.caller r).isIdle = false) (hcaller : CallerInv q s' r (s'.caller r)) : RequestInv q s' r := by
  obtain ⟨hnone, hidle', -, htodo⟩ := h.open_request hw hlog hopen
  have hr := h.request r
  have hmem : w ∈ q.works r := (q.mem_works r w).mpr hw
  have hcount : (q.works r).countP (fun v => isOpen (s.log v)) = (q.works r).countP (fun v => isOpen (s'.log v)) + 1 :=
    Count.countP_of_one_more (q.nodup r) hmem hclosed (hlog ▸ hopen) fun v hv => by rw [hother v hv]
  have hcompletion : (s.done r).completion = 0 := by
    rw [hr.completion, hnone]
    rfl
  have hzero : (s'.done r).nrTodo = (s.done r).nrTodo - 1 := by rw [hdone]
  rw [hnone, nil_append] at hmarks
  refine ⟨hcaller, fun _ => ?_, ?_, ⟨agent, ?_⟩, ?_⟩
  · rw [hzero, hr.todo hidle', hcount]
    omega
  · rw [hmarks, hidle, hzero]
    split
    next hn => simp [hn, ne_nil_of_mem hmem]
    next hn => simp [hn]
  · rw [hmarks]
    split
    · exact ⟨_, rfl⟩
    · exact nil_prefix
  · rw [hdone, hmarks]
    split <;> exact hcompletion

/-- The record of the request is completed. -/
lemma RequestInv.complete {r : R} {agent : Option C} (h : RequestInv q s r)
    (hmarks : s.marks r = [.zero agent])
    (hdone : s'.done r = { s.done r with completion := (s.done r).completion + 1 })
    (hmarks' : s'.marks r = s.marks r ++ [.completed]) (hlog : s'.log = s.log)
    (hidle : (s'.caller r).isIdle = (s.caller r).isIdle) (hcaller : CallerInv q s' r (s'.caller r)) :
    RequestInv q s' r := by
  have hopen : ¬((s.caller r).isIdle = true ∨ q.works r = [] ∨ (s.done r).nrTodo ≠ 0) := by
    rw [← h.zero, hmarks]
    exact nofun
  refine ⟨hcaller, fun hi => ?_, ?_, ⟨agent, ?_⟩, ?_⟩
  · rw [hdone, hlog]
    exact h.todo (hidle ▸ hi)
  · rw [hmarks', hidle, hdone]
    exact iff_of_false (by simp) hopen
  · rw [hmarks', hmarks]
    exact ⟨_, rfl⟩
  · rw [hdone, hmarks', h.completion, hmarks]
    rfl

section

variable [DecidableEq R]

lemma State.setDone_eq {r : R} (hr : s.caller r ≠ .returned) (d : Done) :
    s.setDone r d = { s with done := update s.done r d } := by
  rw [setDone]
  split
  next hreturned => exact absurd hreturned hr
  next => rfl

lemma State.decTodo_eq {r : R} (hr : s.caller r ≠ .returned) (agent : Option C) :
    s.decTodo r agent =
      { s with
        done := update s.done r { s.done r with nrTodo := (s.done r).nrTodo - 1 }
        marks := update s.marks r (s.marks r ++ if (s.done r).nrTodo - 1 = 0 then [.zero agent] else []) } := by
  rw [decTodo]
  split
  next hzero => simp [setDone_eq hr, mark, hzero]
  next => simp [setDone_eq hr]

lemma State.complete_eq {r : R} (hr : s.caller r ≠ .returned) :
    s.complete r =
      { s with
        done := update s.done r { s.done r with completion := (s.done r).completion + 1 }
        marks := update s.marks r (s.marks r ++ [.completed]) } := by
  rw [complete, setDone_eq hr, mark]

end

/-! ### The thread -/

section Thread

variable {cpu : C} {w : W} {r : R} (h : Inv q s)
include h

lemma Inv.thread {pc : ThreadPc W R} (hpc : s.thread cpu = pc) :
    ThreadInv q s cpu pc := hpc ▸ (h.cpu cpu).thread

variable [DecidableEq C]

/-- The thread gets on with a stopper that keeps its list. -/
lemma Inv.setStopper {x : Stopper W R} {pc : ThreadPc W R}
    (hworks : x.works = (s.stopper cpu).works) (henabled : x.enabled = false → (s.stopper cpu).works = [])
    (hlock : ∀ r, (s.stopper cpu).lock = some (.caller r) → x.lock = some (.caller r))
    (hcalls : pc.calls = (s.thread cpu).calls) (hcalled : pc.called = (s.thread cpu).called)
    (hinv : ThreadInv q ((s.setStopper cpu x).setThread cpu pc) cpu pc) :
    Inv q ((s.setStopper cpu x).setThread cpu pc) := by
  set s' := (s.setStopper cpu x).setThread cpu pc
  have hstopper : s'.stopper cpu = x := update_self _ _ _
  have hthread : s'.thread cpu = pc := update_self _ _ _
  refine h.of_change (P := (· = cpu)) (Q := fun _ => False) (S := fun _ => False)
    { lock := ?_, works := ?_, calls := ?_, called := ?_ } ?_ nofun nofun
  · rintro r c - rfl hheld
    rw [hstopper]
    exact hlock r hheld
  · rintro v - rfl hmem
    rwa [hstopper, hworks]
  · rintro v - rfl hv
    rwa [hthread, hcalls]
  · rintro v - rfl hv
    rwa [hthread, hcalled]
  · rintro c rfl
    have hc := h.cpu c
    refine ⟨?_, ?_, ?_, ?_⟩
    · rw [hstopper, hworks]
      exact hc.nodup
    · rw [hstopper, hworks]
      exact hc.listed
    · rwa [hstopper, hworks]
    · rwa [hthread]

lemma Inv.setThread {pc : ThreadPc W R} (hinv : ThreadInv q s cpu pc) (hcalls : pc.calls = (s.thread cpu).calls)
    (hcalled : pc.called = (s.thread cpu).called) : Inv q (s.setThread cpu pc) := by
  have hself : s.setStopper cpu (s.stopper cpu) = s := by rw [State.setStopper, update_eq_self]
  have hset := h.setStopper (x := s.stopper cpu) rfl (h.cpu cpu).enabled (fun _ hheld => hheld) hcalls hcalled
  rw [hself] at hset
  exact hset (hinv.frame (fun _ _ _ hl => hl) (fun _ _ => rfl) fun hl => ⟨rfl, hl⟩)

/-- The thread goes on with the work it has. -/
lemma Inv.advance {old pc : ThreadPc W R} {log : List Event} (hpc : s.thread cpu = old) (hcpu : q.cpu w = cpu)
    (htaken : s.log w = .queued :: .taken :: log)
    (hheld : old.calls = some w ∧ old.called = none ∨ old.calls = none ∧ old.called = some w)
    (hstopper : s'.stopper = s.stopper) (hthread : s'.thread = update s.thread cpu pc) (hcaller : s'.caller = s.caller)
    (hlog : ∀ v, ¬v = w → s'.log v = s.log v) (hdone : ∀ r, ¬q.done w = some r → s'.done r = s.done r)
    (hmarks : ∀ r, ¬q.done w = some r → s'.marks r = s.marks r)
    (hzero : ∀ r c, q.done w = some r → ¬c = cpu → s.marks r = [.zero (some c)] → s'.marks r = s.marks r)
    (hrequest : ∀ r, q.done w = some r → RequestInv q s' r) (hinv : ThreadInv q s' cpu pc) (hwork : Located q s' w) :
    Inv q s' := by
  have hself : s'.thread cpu = pc := by rw [hthread, update_self]
  refine h.of_change (P := (· = cpu)) (Q := (· = w)) (S := fun r => q.done w = some r)
    { stopper := fun c _ => by rw [hstopper]
      thread := fun c hc => by rw [hthread, update_of_ne hc]
      log := hlog, done := hdone, marks := hmarks, zero := hzero
      caller := fun r _ => by rw [hcaller]
      cpu := fun v hv => hv ▸ hcpu
      request := ?_, lock := ?_, works := ?_, calls := ?_, called := ?_, rejects := ?_ } ?_ hrequest ?_
  · rintro v r rfl hr hnot
    exact absurd hr hnot
  · intro r c _ _ hlock
    rwa [hstopper]
  · intro v _ _ hmem
    rwa [hstopper]
  · rintro v hv rfl hcalls
    rw [hpc] at hcalls
    rcases hheld with ⟨heq, -⟩ | ⟨heq, -⟩
    · exact absurd (Option.some.inj (hcalls.symm.trans heq)) hv
    · exact nomatch heq.symm.trans hcalls
  · rintro v hv rfl hcalled
    rw [hpc] at hcalled
    rcases hheld with ⟨-, heq⟩ | ⟨-, heq⟩
    · exact nomatch heq.symm.trans hcalled
    · exact absurd (Option.some.inj (hcalled.symm.trans heq)) hv
  · intro r v left _ _ hrejects
    rwa [hcaller]
  · rintro c rfl
    have hc := h.cpu c
    refine ⟨?_, fun v hv => ?_, ?_, ?_⟩
    · rw [hstopper]
      exact hc.nodup
    · rw [hstopper] at hv
      obtain ⟨hv, hlisted⟩ := hc.listed v hv
      have hne : v ≠ w := fun heq => nomatch (heq ▸ htaken).symm.trans hlisted
      rw [hlog v hne]
      exact ⟨hv, hlisted⟩
    · rw [hstopper]
      exact hc.enabled
    · rwa [hself]
  · rintro v rfl
    exact hwork

/-- The thread of a stopper with an empty list begins to park. -/
lemma Inv.park (hpc : s.thread cpu = .outside) (hlock : (s.stopper cpu).lock = none)
    (hworks : (s.stopper cpu).works = []) : Inv q (s.park cpu) := by
  refine h.setStopper rfl (fun _ => hworks) (fun r hheld => ?_) (by rw [hpc]; rfl) (by rw [hpc]; rfl) ⟨hworks, ?_⟩
  · exact nomatch hlock.symm.trans hheld
  · have hstopper : (s.park cpu).stopper cpu = { s.stopper cpu with lock := some .thread } := update_self _ _ _
    change ((s.park cpu).stopper cpu).works = [] ∧ ((s.park cpu).stopper cpu).lock = some .thread
    rw [hstopper]
    exact ⟨hworks, rfl⟩

lemma Inv.parked {left : List W} (hpc : s.thread cpu = .park left) :
    Inv q ((s.setStopper cpu { s.stopper cpu with enabled := false, lock := none }).setThread cpu .parked) := by
  obtain ⟨-, hworks, hlock⟩ := h.thread hpc
  refine h.setStopper rfl (fun _ => hworks) (fun r hheld => ?_) (by rw [hpc]; rfl) (by rw [hpc]; rfl) trivial
  exact nomatch hlock.symm.trans hheld

lemma Inv.unpark (hpc : s.thread cpu = .parked) : Inv q (s.unpark cpu) := by
  have hself : s.unpark cpu = (s.setStopper cpu { s.stopper cpu with enabled := true }).setThread cpu .parked := by
    rw [State.unpark, State.setThread, update_eq_self_iff.mpr hpc.symm]
  rw [hself]
  exact h.setStopper rfl nofun (fun _ hheld => hheld) (by rw [hpc]) (by rw [hpc]) trivial

variable [DecidableEq W]

/-- The thread takes the first work of the list. -/
lemma Inv.take {rest : List W} (hpc : s.thread cpu = .repeat) (hworks : (s.stopper cpu).works = w :: rest) :
    Inv q (((s.setStopper cpu { s.stopper cpu with works := rest }).record w .taken).setThread cpu (.call w)) := by
  have hc := h.cpu cpu
  obtain ⟨hcpu, hlog⟩ := hc.listed w (hworks ▸ mem_cons_self)
  have hnodup : w ∉ rest ∧ rest.Nodup := nodup_cons.mp (hworks ▸ hc.nodup)
  set s' := ((s.setStopper cpu { s.stopper cpu with works := rest }).record w .taken).setThread cpu (.call w)
  have hstopper : s'.stopper cpu = { s.stopper cpu with works := rest } := update_self _ _ _
  have hthread : s'.thread cpu = .call w := update_self _ _ _
  have htaken : s'.log w = [.queued, .taken] := (update_self _ _ _).trans (congrArg (· ++ [Event.taken]) hlog)
  have hother : ∀ v, ¬v = w → s'.log v = s.log v := fun v hv => update_of_ne hv _ _
  refine h.of_change (P := (· = cpu)) (Q := (· = w)) (S := fun _ => False)
    { log := hother
      cpu := fun v hv => hv ▸ hcpu
      request := ?_, lock := ?_, works := ?_, calls := ?_, called := ?_ } ?_ nofun ?_
  · rintro v r rfl - -
    rw [hlog, htaken]
    exact ⟨nofun, nofun, rfl⟩
  · rintro r c - rfl hlock
    rwa [hstopper]
  · rintro v hv rfl hmem
    rw [hstopper]
    rw [hworks] at hmem
    exact (mem_cons.mp hmem).resolve_left hv
  · rintro v - rfl hv
    rw [hpc] at hv
    exact nomatch hv
  · rintro v - rfl hv
    rw [hpc] at hv
    exact nomatch hv
  · rintro c rfl
    refine ⟨?_, fun v hv => ?_, fun hdisabled => ?_, ?_⟩
    · rw [hstopper]
      exact hnodup.2
    · rw [hstopper] at hv
      have hne : v ≠ w := fun heq => hnodup.1 (heq ▸ hv)
      rw [hother v hne]
      exact hc.listed v (hworks ▸ mem_cons_of_mem w hv)
    · rw [hstopper] at hdisabled
      exact absurd (hc.enabled hdisabled) (hworks ▸ cons_ne_nil w rest)
    · rw [hthread]
      exact ⟨hcpu, htaken⟩
  · rintro v rfl
    refine .taken htaken ?_
    rw [hcpu, hthread]
    rfl

lemma Inv.call (hpc : s.thread cpu = .call w) {ret : Int} (hret : q.done w = none → ret = 0) :
    Inv q ((s.record w .ran).setThread cpu (.storeRet w ret)) := by
  obtain ⟨hcpu, hlog⟩ := h.thread hpc
  set s' := (s.record w .ran).setThread cpu (.storeRet w ret)
  have hran : s'.log w = [.queued, .taken, .ran] :=
    (update_self _ _ _).trans (congrArg (· ++ [Event.ran]) hlog)
  have hother : ∀ v, ¬v = w → s'.log v = s.log v := fun v hv => update_of_ne hv _ _
  have hthread : s'.thread cpu = .storeRet w ret := update_self _ _ _
  refine h.advance hpc hcpu hlog (.inl ⟨rfl, rfl⟩) rfl rfl rfl hother (fun _ _ => rfl) (fun _ _ => rfl)
    (fun _ _ _ _ _ => rfl) (fun r hr => ?_) ⟨⟨hcpu, hran⟩, hret⟩ (.ran hran ?_)
  · refine (h.request r).frame (fun v _ hv => hother v ?_) (fun _ hlock => hlock) rfl rfl rfl (fun v _ => ?_) rfl
    · rintro rfl
      rw [hlog] at hv
      exact hv.elim nofun nofun
    · by_cases hvw : v = w
      · rw [hvw, hran, hlog]
        rfl
      · rw [hother v hvw]
  · rw [hcpu, hthread]
    rfl

/-- A work without a record is over when it has been called. -/
lemma Inv.finish (hpc : s.thread cpu = .storeExecuted w) (hnone : q.done w = none) :
    Inv q ((s.record w (.signalled true)).setThread cpu .repeat) := by
  obtain ⟨hcpu, hlog⟩ := h.thread hpc
  refine h.advance hpc hcpu hlog (.inr ⟨rfl, rfl⟩) rfl rfl rfl (fun v hv => update_of_ne hv _ _) (fun _ _ => rfl)
    (fun _ _ => rfl) (fun _ _ _ _ _ => rfl) (fun r hr => ?_) trivial (.completed (.inl ?_))
  · exact nomatch hnone.symm.trans hr
  · exact (update_self _ _ _).trans (congrArg (· ++ [Event.signalled true]) hlog)

variable [DecidableEq R]

omit [DecidableEq W] in
/-- The thread writes to the record, and not to its counts. -/
lemma Inv.store {old pc : ThreadPc W R} {d : Done} (hpc : s.thread cpu = old)
    (hold : old.calls = none ∧ old.called = some w) (hr : q.done w = some r)
    (hheld : q.cpu w = cpu ∧ s.log w = [.queued, .taken, .ran])
    (hd : d.nrTodo = (s.done r).nrTodo ∧ d.completion = (s.done r).completion) (hcalled : pc.called = some w)
    (hinv : ThreadInv q s cpu pc) : Inv q ((s.setDone r d).setThread cpu pc) := by
  obtain ⟨hcpu, hlog⟩ := hheld
  rw [setDone_eq (h.open_request hr hlog rfl).2.2.1]
  have hself : ∀ v, ¬q.done w = some v → update s.done r d v = s.done v :=
    fun v hv => update_of_ne (fun heq : v = r => hv (heq ▸ hr)) _ _
  have hthread : update s.thread cpu pc cpu = pc := update_self _ _ _
  refine h.advance hpc hcpu hlog (.inr hold) rfl rfl rfl (fun _ _ => rfl) hself (fun _ _ => rfl)
    (fun _ _ _ _ _ => rfl) (fun v hv => ?_) (hinv.frame (fun _ _ _ hl => hl) (fun _ _ => rfl) fun hl => ⟨rfl, hl⟩)
    (.ran hlog ?_)
  · obtain rfl : r = v := Option.some.inj (hr.symm.trans hv)
    have hupdate : update s.done r d r = d := update_self _ _ _
    exact (h.request r).frame (fun _ _ _ => rfl) (fun _ hlock => hlock) ((congrArg Done.nrTodo hupdate).trans hd.1)
      ((congrArg Done.completion hupdate).trans hd.2) rfl (fun _ _ => rfl) rfl
  · rw [hcpu]
    exact (congrArg ThreadPc.called hthread).trans hcalled

/-- A work of a request is completed by the thread. -/
lemma Inv.decTodo (hpc : s.thread cpu = .decTodo w r) :
    Inv q (((s.decTodo r (some cpu)).record w (.signalled true)).setThread cpu
      (if (((s.decTodo r (some cpu)).record w (.signalled true)).done r).nrTodo = 0 then .complete r
        else .repeat)) := by
  obtain ⟨⟨hcpu, hlog⟩, hr⟩ := h.thread hpc
  obtain ⟨hnone, hidle, hreturned, -⟩ := h.open_request hr hlog rfl
  rw [decTodo_eq hreturned]
  set s' := (record _ w (.signalled true)).setThread cpu _
  have hother : ∀ v, ¬v = w → s'.log v = s.log v := fun v hv => update_of_ne hv _ _
  have haccepted : s'.log w = accepted :=
    (update_self _ _ _).trans (congrArg (· ++ [Event.signalled true]) hlog)
  have hmarks : s'.marks r = s.marks r ++ if (s.done r).nrTodo - 1 = 0 then [.zero (some cpu)] else [] :=
    update_self _ _ _
  have hne : ∀ v, ¬q.done w = some v → v ≠ r := fun v hv heq => hv (heq ▸ hr)
  refine h.advance hpc hcpu hlog (.inr ⟨rfl, rfl⟩) rfl rfl rfl hother (fun v hv => update_of_ne (hne v hv) _ _)
    (fun v hv => update_of_ne (hne v hv) _ _) (fun v c hv _ hzero => ?_) (fun v hv => ?_) ?_
    (.completed (.inl haccepted))
  · obtain rfl : r = v := Option.some.inj (hr.symm.trans hv)
    exact nomatch hnone.symm.trans hzero
  · obtain rfl : r = v := Option.some.inj (hr.symm.trans hv)
    refine h.request_decTodo hr hlog rfl (update_self _ _ _) hmarks hother (haccepted ▸ rfl) hidle ?_
    refine (h.request r).caller.frame (fun u _ hu => hother u ?_) (fun _ hlock => hlock) fun hm => ?_
    · rintro rfl
      rw [hlog] at hu
      exact hu.elim nofun nofun
    · rw [hnone] at hm
      rcases hm with hm | ⟨agent, hm⟩
      · exact nomatch hm
      · exact nomatch hm
  · simp only [record, update_self]
    split
    next hzero =>
      rwa [hnone, if_pos hzero] at hmarks
    next => trivial

omit [DecidableEq W] in
/-- The record of a request is completed by the thread. -/
lemma Inv.complete (hpc : s.thread cpu = .complete r) : Inv q ((s.complete r).setThread cpu .repeat) := by
  have hzero : s.marks r = [.zero (some cpu)] := h.thread hpc
  have hr := h.request r
  have hcaller : ¬(s.marks r = [.zero none] ∨ ∃ agent, s.marks r = settled agent) := by
    rw [hzero]
    rintro (hm | ⟨agent, hm⟩)
    · exact nomatch hm
    · exact nomatch hm
  have hreturned : s.caller r ≠ .returned := by
    intro hpc
    have hinv := hr.caller
    rw [hpc] at hinv
    exact hcaller (.inr hinv)
  rw [complete_eq hreturned]
  have hother : ∀ v, ¬v = r → update s.marks r (s.marks r ++ [.completed]) v = s.marks v :=
    fun v hv => update_of_ne hv _ _
  refine h.of_change (P := (· = cpu)) (Q := fun _ => False) (S := (· = r))
    { marks := hother
      zero := ?_, calls := ?_, called := ?_, rejects := fun _ _ _ _ _ h => h } ?_ ?_ nofun
  · rintro v c rfl hc hv
    rw [hzero] at hv
    injection hv with hv
    injection hv with hv
    exact absurd (Option.some.inj hv).symm hc
  · rintro v - rfl hv
    rw [hpc] at hv
    exact nomatch hv
  · rintro v - rfl hv
    rw [hpc] at hv
    exact nomatch hv
  · rintro c rfl
    have hc := h.cpu c
    refine ⟨hc.nodup, hc.listed, hc.enabled, ?_⟩
    have hthread : update s.thread c .repeat c = .repeat := update_self _ _ _
    change ThreadInv q _ c (update s.thread c .repeat c)
    rw [hthread]
    trivial
  · rintro v rfl
    refine hr.complete hzero (update_self _ _ _) (update_self _ _ _) rfl rfl ?_
    refine hr.caller.frame ?_ ?_ fun hm => absurd hm hcaller
    · exact fun _ _ _ => rfl
    · exact fun _ hlock => hlock

lemma Inv.threadStep {ret : Int} (hret : ∀ w, s.thread cpu = .call w → q.done w = none → ret = 0) :
    Inv q (s.threadStep q cpu ret) := by
  rw [State.threadStep]
  cases hpc : s.thread cpu with
  | parked =>
    dsimp only
    split
    · exact h.setThread trivial (by rw [hpc]; rfl) (by rw [hpc]; rfl)
    · exact h
  | outside =>
    dsimp only
    split
    · exact h
    · exact h.setThread trivial (by rw [hpc]; rfl) (by rw [hpc]; rfl)
  | «repeat» =>
    dsimp only
    split
    · exact h.setThread trivial (by rw [hpc]; rfl) (by rw [hpc]; rfl)
    next hworks => exact h.take hpc hworks
  | call w => exact h.call hpc (hret w hpc)
  | storeRet w ret =>
    obtain ⟨hheld, hnone⟩ := h.thread hpc
    dsimp only
    split
    · exact h.setThread hheld (by rw [hpc]; rfl) (by rw [hpc]; rfl)
    next hne =>
      split
      next hdone => exact absurd (hnone hdone) hne
      next r hr => exact h.store hpc ⟨rfl, rfl⟩ hr hheld ⟨rfl, rfl⟩ rfl hheld
  | storeExecuted w =>
    have hheld := h.thread hpc
    dsimp only
    split
    next hdone => exact h.finish hpc hdone
    next r hr => exact h.store hpc ⟨rfl, rfl⟩ hr hheld ⟨rfl, rfl⟩ rfl ⟨hheld, hr⟩
  | decTodo w r => exact h.decTodo hpc
  | complete r => exact h.complete hpc
  | park left =>
    obtain ⟨rfl, -⟩ := h.thread hpc
    exact h.parked hpc
  | parkComplete r left | oops => exact (h.thread hpc).elim

end Thread

/-! ### The caller -/

section Caller

variable {w : W} {r : R} {left : List W} (h : Inv q s)
include h

lemma Inv.caller {pc : CallerPc W} (hpc : s.caller r = pc) : CallerInv q s r pc :=
  hpc ▸ (h.request r).caller

/-- A new work is put at the end of the list of an enabled stopper. -/
lemma Inv.append_cpu (hnew : s.log w = []) (hlock : (s.stopper (q.cpu w)).lock = none)
    (henabled : (s.stopper (q.cpu w)).enabled = true)
    (hstopper : s'.stopper (q.cpu w) =
      { s.stopper (q.cpu w) with works := (s.stopper (q.cpu w)).works ++ [w] })
    (hthread : s'.thread = s.thread) (hqueued : s'.log w = [.queued])
    (hother : ∀ v, ¬v = w → s'.log v = s.log v) (hmarks : s'.marks = s.marks) : CpuInv q s' (q.cpu w) := by
  have hc := h.cpu (q.cpu w)
  have hfresh : ∀ v {e log}, s.log v = e :: log → ¬v = w := by
    rintro v e log hv rfl
    exact nomatch hnew.symm.trans hv
  refine ⟨?_, fun v hv => ?_, ?_, ?_⟩
  · rw [hstopper]
    refine nodup_append.mpr ⟨hc.nodup, nodup_singleton w, ?_⟩
    rintro v hv u hu rfl
    have hlisted := (hc.listed v hv).2
    rw [mem_singleton.mp hu, hnew] at hlisted
    exact nomatch hlisted
  · rw [hstopper] at hv
    rcases mem_append.mp hv with hv | hv
    · obtain ⟨hcpu, hlisted⟩ := hc.listed v hv
      exact ⟨hcpu, (hother v (hfresh v hlisted)).trans hlisted⟩
    · rw [mem_singleton.mp hv]
      exact ⟨rfl, hqueued⟩
  · rw [hstopper]
    exact fun hdisabled => nomatch henabled.symm.trans hdisabled
  · rw [hthread]
    refine hc.thread.frame (fun v log _ hv => ?_) (fun v _ => by rw [hmarks]) fun hl => nomatch hlock.symm.trans hl
    exact (hother v (hfresh v hv)).trans hv

/-- What a caller does with a work that is turned away leaves the stopper alone but for
its lock. -/
lemma Inv.relock_cpu (hlog : s.log w = [] ∨ s.log w = [.rejected])
    (hlock : (s.stopper (q.cpu w)).lock ≠ some .thread) {x : Option (Holder R)}
    (hstopper : s'.stopper (q.cpu w) = { s.stopper (q.cpu w) with lock := x }) (hthread : s'.thread = s.thread)
    (hother : ∀ v, ¬v = w → s'.log v = s.log v)
    (hmarks : ∀ v, s.marks v = [.zero (some (q.cpu w))] → s'.marks v = s.marks v) : CpuInv q s' (q.cpu w) := by
  refine (h.cpu (q.cpu w)).frame (fun v log _ hv => (hother v ?_).trans hv) hmarks (by rw [hstopper])
    (by rw [hstopper]) (fun hl => absurd hl hlock) (by rw [hthread])
  rintro rfl
  rw [hv] at hlog
  exact hlog.elim nofun nofun

variable [DecidableEq R]

/-- The caller is woken and returns. -/
lemma Inv.wait (hpc : s.caller r = .queue []) (hcompletion : (s.done r).completion ≠ 0) :
    Inv q (((s.setDone r { s.done r with completion := (s.done r).completion - 1 }).mark r .returned).setCaller r
      .returned) := by
  have hr := h.request r
  have hlength : (s.marks r).length = 2 := by
    by_contra hne
    exact hcompletion (hr.completion.trans (if_neg hne))
  obtain ⟨agent, hmarks⟩ : ∃ agent, s.marks r = [.zero agent, .completed] := by
    obtain ⟨agent, hprefix⟩ := hr.shape
    refine ⟨agent, ?_⟩
    rw [prefix_iff_eq_take.mp hprefix, hlength]
    rfl
  have hopen : ¬((s.caller r).isIdle = true ∨ q.works r = [] ∨ (s.done r).nrTodo ≠ 0) := by
    rw [← hr.zero, hmarks]
    exact nofun
  rw [setDone_eq (by rw [hpc]; exact nofun)]
  set s' := (mark { s with done := update s.done r { s.done r with
      completion := (s.done r).completion - 1 } } r .returned).setCaller r .returned
  have hdone : s'.done r = { s.done r with completion := (s.done r).completion - 1 } := update_self _ _ _
  have hmarks' : s'.marks r = settled agent := (update_self _ _ _).trans (congrArg (· ++ [Mark.returned]) hmarks)
  have hcaller : s'.caller r = .returned := update_self _ _ _
  refine h.of_change (P := fun _ => False) (Q := fun _ => False) (S := (· = r))
    { zero := ?_, rejects := ?_ } nofun ?_ nofun
  · rintro v c rfl - hzero
    exact nomatch hmarks.symm.trans hzero
  · rintro v u l rfl - hrejects
    exact nomatch hpc.symm.trans hrejects
  · rintro v rfl
    refine ⟨?_, fun _ => ?_, ?_, ⟨agent, ?_⟩, ?_⟩
    · rw [hcaller]
      exact ⟨agent, hmarks'⟩
    · rw [hdone]
      exact hr.todo (by rw [hpc]; rfl)
    · rw [hmarks', hcaller, hdone]
      rw [hpc] at hopen
      exact iff_of_false nofun hopen
    · exact hmarks' ▸ prefix_rfl
    · rw [hdone, hmarks', hr.completion, hmarks]
      rfl

lemma Inv.call_request (hpc : s.caller r = .idle) : Inv q (s.call q r) := by
  have hr := h.request r
  have hnew : ∀ w, q.done w = some r → s.log w = [] := h.caller hpc
  have hmarks : s.marks r = [] := hr.zero.mpr (.inl (hpc ▸ rfl))
  rw [State.call, State.setDone_eq (by rw [hpc]; exact nofun)]
  have hcaller : update s.caller r (.queue (q.works r)) r = .queue (q.works r) := update_self _ _ _
  have hdone : update s.done r { nrTodo := (q.works r).length } r = { nrTodo := (q.works r).length } :=
    update_self _ _ _
  refine h.of_change (P := fun _ => False) (Q := fun _ => False) (S := (· = r))
    { zero := fun _ _ _ _ _ => rfl, rejects := ?_ } nofun ?_ nofun
  · rintro v w left rfl - hrejects
    exact nomatch hpc.symm.trans hrejects
  · rintro v rfl
    have hopen : (q.works v).countP (fun w => isOpen (s.log w)) = (q.works v).length := by
      refine countP_eq_length.mpr fun w hw => ?_
      rw [hnew w ((q.mem_works v w).mp hw)]
      rfl
    refine ⟨?_, fun _ => ?_, ?_, ⟨none, ?_⟩, ?_⟩
    · change CallerInv q _ v (update s.caller v (.queue (q.works v)) v)
      rw [hcaller]
      refine ⟨q.nodup v, fun w hw => ?_⟩
      have hw := (q.mem_works v w).mp hw
      exact ⟨hw, hnew w hw⟩
    · refine (congrArg Done.nrTodo hdone).trans ?_
      exact congrArg Nat.cast hopen.symm
    · refine iff_of_true hmarks (.inr ?_)
      rw [or_iff_not_imp_left]
      intro hne hzero
      exact hne (length_eq_zero_iff.mp (Int.ofNat.inj ((congrArg Done.nrTodo hdone).symm.trans hzero)))
    · change s.marks v <+: _
      rw [hmarks]
      exact nil_prefix
    · refine (congrArg Done.completion hdone).trans ?_
      change 0 = if (s.marks v).length = 2 then 1 else 0
      rw [hmarks]
      rfl

variable [DecidableEq W]

/-- The caller completes the work that was turned away. -/
lemma Inv.signal (hpc : s.caller r = .decTodo w left) {x : Option (Holder R)}
    {pc : CallerPc W} (hstopper : s'.stopper (q.cpu w) = { s.stopper (q.cpu w) with lock := x })
    (hstoppers : ∀ c, ¬c = q.cpu w → s'.stopper c = s.stopper c) (hthread : s'.thread = s.thread)
    (hlog : s'.log = update s.log w (s.log w ++ [.signalled false]))
    (hdone : s'.done = update s.done r { s.done r with nrTodo := (s.done r).nrTodo - 1 })
    (hmarks : s'.marks = update s.marks r (s.marks r ++ if (s.done r).nrTodo - 1 = 0 then [.zero none] else []))
    (hcaller : s'.caller = update s.caller r pc) (hidle : pc.isIdle = false)
    (hinv : s.marks r = [] → CallerInv q s' r pc) : Inv q s' := by
  obtain ⟨hleft, hlock, hw, hrejected⟩ := h.caller hpc
  obtain ⟨hnone, -, -, -⟩ := h.open_request hw hrejected rfl
  have hother : ∀ v, ¬v = w → s'.log v = s.log v := fun v hv => by rw [hlog, update_of_ne hv]
  have hself : s'.log w = turnedAway := by
    rw [hlog, update_self, hrejected]
    rfl
  have hpc' : s'.caller r = pc := by rw [hcaller, update_self]
  refine h.of_change (P := (· = q.cpu w)) (Q := (· = w)) (S := (· = r))
    { stopper := hstoppers
      thread := fun c _ => by rw [hthread]
      log := hother
      done := fun v hv => by rw [hdone, update_of_ne hv]
      caller := fun v hv => by rw [hcaller, update_of_ne hv]
      marks := fun v hv => by rw [hmarks, update_of_ne hv]
      request := ?_, zero := ?_, lock := ?_, works := ?_
      calls := fun v _ _ hv => by rw [hthread]; exact hv
      called := fun v _ _ hv => by rw [hthread]; exact hv
      rejects := ?_ } ?_ ?_ ?_
  · rintro v u rfl hv hu
    exact absurd (Option.some.inj (hv.symm.trans hw)) hu
  · rintro v c rfl - hzero
    exact nomatch hnone.symm.trans hzero
  · rintro v c hv rfl hheld
    exact absurd (Holder.caller.inj (Option.some.inj (hheld.symm.trans hlock))) hv
  · intro v _ hcpu hmem
    rw [hcpu] at hmem ⊢
    rwa [hstopper]
  · rintro v u l rfl hu hrejects
    rw [hpc] at hrejects
    injection hrejects with hrejects
    exact absurd hrejects.symm hu
  · rintro c rfl
    refine h.relock_cpu (.inr hrejected) (by rw [hlock]; exact nofun) hstopper hthread hother fun v hv => ?_
    rw [hmarks, update_of_ne]
    rintro rfl
    exact nomatch hnone.symm.trans hv
  · rintro v rfl
    refine h.request_decTodo hw hrejected rfl (by rw [hdone, update_self])
      (by rw [hmarks, update_self]) hother (hself ▸ rfl) (hpc' ▸ hidle) ?_
    rw [hpc']
    exact hinv hnone
  · rintro v rfl
    exact .completed (.inr hself)

variable [DecidableEq C]

/-- The stopper answers for a work of a request, whose other works are as before. -/
lemma Inv.answer (hpc : s.caller r = .queue (w :: left))
    (hlock : (s.stopper (q.cpu w)).lock = none) {x : Stopper W R} {e : Event} {pc : CallerPc W}
    (hworks : ∀ v ∈ (s.stopper (q.cpu w)).works, v ∈ x.works) (hopen : isOpen [e] = true) (hidle : pc.isIdle = false)
    (hcpu : ∀ s' : State C W R, s'.stopper (q.cpu w) = x → s'.thread = s.thread → s'.marks = s.marks →
      s.log w = [] → s'.log w = [e] → (∀ v, ¬v = w → s'.log v = s.log v) → CpuInv q s' (q.cpu w))
    (hcaller : ∀ s' : State C W R, s'.stopper (q.cpu w) = x → q.done w = some r → s'.log w = [e] →
      Unqueued q s' r left → CallerInv q s' r pc)
    (hwork : ∀ s' : State C W R, s'.stopper (q.cpu w) = x → q.done w = some r → s'.log w = [e] →
      s'.caller r = pc → Located q s' w) :
    Inv q (((s.setStopper (q.cpu w) x).record w e).setCaller r pc) := by
  obtain ⟨hnodup, hleft⟩ := h.caller hpc
  obtain ⟨hw, hnew⟩ := hleft w mem_cons_self
  set s' := ((s.setStopper (q.cpu w) x).record w e).setCaller r pc
  have hstopper : s'.stopper (q.cpu w) = x := update_self _ _ _
  have hlog : s'.log w = [e] := (update_self _ _ _).trans (congrArg (· ++ [e]) hnew)
  have hother : ∀ v, ¬v = w → s'.log v = s.log v := fun v hv => update_of_ne hv _ _
  have hgoes : s'.caller r = pc := update_self _ _ _
  refine h.of_change (P := (· = q.cpu w)) (Q := (· = w)) (S := (· = r))
    { log := hother
      request := ?_, zero := fun _ _ _ _ _ => rfl, lock := ?_, works := ?_, rejects := ?_ } ?_ ?_ ?_
  · rintro v u rfl hv hu
    exact absurd (Option.some.inj (hv.symm.trans hw)) hu
  · rintro v c - rfl hheld
    exact nomatch hlock.symm.trans hheld
  · intro v _ hcpu hmem
    rw [hcpu] at hmem ⊢
    rw [hstopper]
    exact hworks v hmem
  · rintro v u l rfl - hrejects
    exact nomatch hpc.symm.trans hrejects
  · rintro c rfl
    exact hcpu s' hstopper rfl rfl hnew hlog hother
  · rintro v rfl
    refine (h.request v).keep rfl rfl rfl (fun u _ => ?_) (by rw [hgoes, hpc, hidle]; rfl) ?_
    · by_cases hu : u = w
      · rw [hu, hlog, hnew, hopen]
        rfl
      · rw [hother u hu]
    · rw [hgoes]
      refine hcaller s' hstopper hw hlog ⟨(nodup_cons.mp hnodup).2, fun u hu => ?_⟩
      have hne : ¬u = w := fun heq => (nodup_cons.mp hnodup).1 (heq ▸ hu)
      rw [hother u hne]
      exact hleft u (mem_cons_of_mem w hu)
  · rintro v rfl
    exact hwork s' hstopper hw hlog hgoes

/-- The stopper takes a work of a request. -/
lemma Inv.queue (hpc : s.caller r = .queue (w :: left))
    (hlock : (s.stopper (q.cpu w)).lock = none) (henabled : (s.stopper (q.cpu w)).enabled = true) :
    Inv q (((s.setStopper (q.cpu w) { s.stopper (q.cpu w) with
      works := (s.stopper (q.cpu w)).works ++ [w] }).record w .queued).setCaller r (.queue left)) := by
  refine h.answer hpc hlock (fun v hv => mem_append_left _ hv) rfl rfl
    (fun s' hstopper hthread hmarks hnew hqueued hother =>
      h.append_cpu hnew hlock henabled hstopper hthread hqueued hother hmarks)
    (fun s' _ _ _ hleft => hleft) fun s' hstopper _ hqueued _ => ?_
  refine .listed hqueued ?_
  rw [hstopper]
  exact mem_append_right _ mem_cons_self

/-- The stopper is disabled and turns a work of a request away. -/
lemma Inv.reject (hpc : s.caller r = .queue (w :: left)) (hlock : (s.stopper (q.cpu w)).lock = none) :
    Inv q (((s.setStopper (q.cpu w) { s.stopper (q.cpu w) with lock := some (.caller r) }).record w
      .rejected).setCaller r (.decTodo w left)) := by
  refine h.answer hpc hlock (fun v hv => hv) rfl rfl (fun s' hstopper hthread hmarks hnew _ hother => ?_)
    (fun s' hstopper hw hrejected hleft => ⟨hleft, by rw [hstopper], hw, hrejected⟩)
    fun s' _ hw hrejected hcaller => .rejected r left hrejected hw hcaller
  exact h.relock_cpu (.inl hnew) (by rw [hlock]; exact nofun) hstopper hthread hother fun _ _ => by rw [hmarks]

lemma Inv.caller_decTodo (hpc : s.caller r = .decTodo w left) : Inv q (s.callerStep q r) := by
  obtain ⟨hleft, hlock, hw, hrejected⟩ := h.caller hpc
  obtain ⟨-, -, hreturned, -⟩ := h.open_request hw hrejected rfl
  have hunqueued : ∀ {s' : State C W R},
      s'.log = update s.log w (s.log w ++ [.signalled false]) → Unqueued q s' r left := by
    intro s' hlog
    refine hleft.frame fun v _ hv => ?_
    rw [hlog, update_of_ne]
    · exact hv
    · rintro rfl
      exact nomatch hrejected.symm.trans hv
  rw [callerStep, hpc]
  simp only [decTodo_eq hreturned, record, update_self]
  split
  next hzero =>
    refine h.signal hpc rfl (fun _ _ => rfl) rfl rfl rfl (by rw [if_pos hzero]; rfl) rfl rfl fun hnone => ?_
    refine ⟨hunqueued rfl, hlock, ?_⟩
    refine (update_self _ _ _).trans ?_
    rw [hnone]
    rfl
  next hzero =>
    exact h.signal hpc (update_self _ _ _) (fun c hc => update_of_ne hc _ _) rfl rfl rfl
      (by rw [if_neg hzero]; rfl) rfl rfl fun _ => hunqueued rfl

lemma Inv.caller_complete (hpc : s.caller r = .complete w left) : Inv q (s.callerStep q r) := by
  obtain ⟨hleft, hlock, hzero⟩ := h.caller hpc
  rw [callerStep, hpc]
  simp only [complete_eq (show s.caller r ≠ .returned by rw [hpc]; exact nofun)]
  set s' : State C W R := setCaller _ r (.queue left) with hs'
  have hstopper : s'.stopper (q.cpu w) = { s.stopper (q.cpu w) with lock := none } := update_self _ _ _
  have hcaller : s'.caller r = .queue left := update_self _ _ _
  have hmarks : ∀ v, ¬v = r → s'.marks v = s.marks v := fun v hv => update_of_ne hv _ _
  refine h.of_change (P := (· = q.cpu w)) (Q := fun _ => False) (S := (· = r))
    { marks := hmarks
      zero := ?_, lock := ?_, works := ?_, rejects := ?_ } ?_ ?_ nofun
  · rintro v c rfl - hv
    exact nomatch hzero.symm.trans hv
  · rintro v c hv rfl hheld
    exact absurd (Holder.caller.inj (Option.some.inj (hheld.symm.trans hlock))) hv
  · intro v _ hcpu hmem
    rw [hcpu] at hmem ⊢
    rwa [hstopper]
  · rintro v u l rfl - hrejects
    exact nomatch hpc.symm.trans hrejects
  · rintro c rfl
    refine (h.cpu (q.cpu w)).frame (s := s) (fun _ _ _ hv => hv) (fun v hv => hmarks v ?_) (by rw [hstopper])
      (by rw [hstopper]) ?_ rfl
    · rintro rfl
      exact nomatch hzero.symm.trans hv
    · rw [hlock]
      exact nofun
  · rintro v rfl
    refine (h.request v).complete hzero (update_self _ _ _) (update_self _ _ _) rfl ?_ ?_
    · rw [hpc, hcaller]
      rfl
    · rw [hcaller]
      exact hleft.frame fun _ _ hv => hv

lemma Inv.callerStep (hlock : ∀ w ∈ (s.caller r).next, (s.stopper (q.cpu w)).lock = none) :
    Inv q (s.callerStep q r) := by
  cases hpc : s.caller r with
  | idle | returned =>
    rwa [State.callerStep, hpc]
  | queue left =>
    cases left with
    | nil =>
      rw [State.callerStep, hpc]
      dsimp only
      split
      · exact h
      next hcompletion => exact h.wait hpc hcompletion
    | cons w left =>
      have hfree := hlock w (by rw [hpc]; rfl)
      rw [State.callerStep, hpc]
      dsimp only
      split
      next henabled => exact h.queue hpc hfree henabled
      next => exact h.reject hpc hfree
  | decTodo w left => exact h.caller_decTodo hpc
  | complete w left => exact h.caller_complete hpc

omit [DecidableEq R] in
/-- Nobody waits for the work. -/
lemma Inv.submit (hnone : q.done w = none) (hnew : s.log w = [])
    (hlock : (s.stopper (q.cpu w)).lock = none) : Inv q (s.submit q w) := by
  rw [State.submit]
  split
  next henabled =>
    set s' := (s.setStopper (q.cpu w) { s.stopper (q.cpu w) with
        works := (s.stopper (q.cpu w)).works ++ [w] }).record w .queued
    have hstopper : s'.stopper (q.cpu w) =
        { s.stopper (q.cpu w) with works := (s.stopper (q.cpu w)).works ++ [w] } := update_self _ _ _
    have hqueued : s'.log w = [.queued] := (update_self _ _ _).trans (congrArg (· ++ [Event.queued]) hnew)
    have hother : ∀ v, ¬v = w → s'.log v = s.log v := fun v hv => update_of_ne hv _ _
    refine h.of_change (P := (· = q.cpu w)) (Q := (· = w)) (S := fun _ => False)
      { log := hother
        request := ?_, lock := ?_, works := ?_ } ?_ nofun ?_
    · rintro v u rfl hv -
      exact nomatch hnone.symm.trans hv
    · rintro v c - rfl hheld
      exact nomatch hlock.symm.trans hheld
    · intro v _ hcpu hmem
      rw [hcpu] at hmem ⊢
      rw [hstopper]
      exact mem_append_left _ hmem
    · rintro c rfl
      exact h.append_cpu hnew hlock henabled hstopper rfl hqueued hother rfl
    · rintro v rfl
      refine .listed hqueued ?_
      rw [hstopper]
      exact mem_append_right _ mem_cons_self
  next =>
    have hturned : ((s.record w .rejected).record w (.signalled false)).log w = turnedAway := by
      simp [State.record, hnew, turnedAway]
    have hother : ∀ v, ¬v = w → ((s.record w .rejected).record w (.signalled false)).log v = s.log v := by
      intro v hv
      simp [State.record, hv]
    refine h.of_change (P := (· = q.cpu w)) (Q := (· = w)) (S := fun _ => False)
      { log := hother, cpu := fun v hv => hv ▸ rfl, request := ?_ } ?_ nofun ?_
    · rintro v u rfl hv -
      exact nomatch hnone.symm.trans hv
    · rintro c rfl
      exact h.relock_cpu (.inl hnew) (by rw [hlock]; exact nofun) (x := (s.stopper (q.cpu w)).lock) rfl rfl hother
        fun _ _ => rfl
    · rintro v rfl
      exact .completed (.inr hturned)

end Caller

/-! ### Runs -/

variable [DecidableEq C] [DecidableEq W] [DecidableEq R]

variable (q) in
/-- A stopper is parked with an empty list, and a work that nobody waits for returns 0. -/
def Op.Drained (s : State C W R) : Op C W R → Prop
  | .thread cpu ret => ∀ w ∈ (s.thread cpu).calls, q.done w = none → ret = 0
  | .park cpu => (s.stopper cpu).works = []
  | .call _ | .caller _ | .submit _ | .unpark _ => True

instance Op.decidableDrained (s : State C W R) (op : Op C W R) : Decidable (op.Drained q s) := by
  induction op using Op.casesOn <;> dsimp only [Op.Drained] <;> infer_instance

lemma Inv.step (h : Inv q s) {op : Op C W R} (hop : op.Allowed q s) (hdrained : op.Drained q s) :
    Inv q (s.step q op) := by
  cases op with
  | call r => exact h.call_request (CallerPc.eq_idle hop)
  | caller r => exact h.callerStep hop
  | submit w => exact h.submit hop.1 hop.2.1 hop.2.2
  | thread cpu ret => exact h.threadStep fun w hpc => hdrained w (by rw [hpc]; rfl)
  | park cpu => exact h.park (ThreadPc.eq_outside hop.1) hop.2 hdrained
  | unpark cpu => exact h.unpark (ThreadPc.eq_parked hop.1)

end BigLittle.Stop
