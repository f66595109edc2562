import Mathlib.Algebra.BigOperators.Fin
import BigLittle.Hmp.TaskRef

/-!
# Balance of the references

The usage count of a task differs from its start by what the requests on it have
taken and not dropped. Every step keeps this account, whichever requester,
stopper or load balancer takes it; so a request is balanced or not by itself, and
the two ways in which it can end decide.
-/

namespace BigLittle.Hmp

open Finset

variable {T : Type*} {n : Nat}

section Accounting

variable [DecidableEq T] (s : RefState T n)

/-- What a request adds to the usage count of `t`. -/
def Request.net (t : T) (r : Request T) : Int :=
  if r.task = t then (r.taken : Int) - r.dropped else 0

lemma Request.net_drop (r : Request T) (t : T) :
    { r with dropped := r.dropped + 1 }.net t = r.net t + if r.task = t then -1 else 0 := by
  simp only [Request.net]
  split
  · push_cast
    omega
  · rfl

/-- The forced migration a run queue is working on. -/
def Work.request : Work T → Option (Request T)
  | .launched (.forced r) | .queued (.forced r) | .rejected (.forced r) => some r
  | _ => none

def Work.net (t : T) (w : Work T) : Int := (w.request.map (Request.net t)).getD 0

@[simp] lemma Work.net_empty (t : T) : (Work.empty : Work T).net t = 0 := rfl

/-- What all requests together add to the usage count of `t`. -/
def RefState.accounted (t : T) : Int :=
  ∑ cpu, (s.rq cpu).work.net t + (s.moving.map fun m => m.2.net t).sum + (s.ended.map (Request.net t)).sum

/-- No forced migration of `t` is under way. -/
def RefState.Quiet (t : T) : Prop :=
  (∀ cpu r, (s.rq cpu).work.request = some r → r.task ≠ t) ∧ ∀ m ∈ s.moving, m.2.task ≠ t

/-- Each request that is over took one reference and dropped one, and a task
without a request has the usage count it started with. -/
def RefState.Balanced (usage : T → Int) (s : RefState T n) : Prop :=
  (∀ r ∈ s.ended, r.taken = 1 ∧ r.dropped = 1) ∧ ∀ t, s.Quiet t → s.usage t = usage t

def Build.taken : Build → Nat
  | .enhancement => 0
  | .plain => 1

/-- A request that has not dropped anything yet. -/
def Request.Fresh (b : Build) (r : Request T) : Prop := r.taken = b.taken ∧ r.dropped = 0

lemma Request.Fresh.net {b : Build} {r : Request T} (h : r.Fresh b) (t : T) :
    r.net t = if r.task = t then (r.taken : Int) else 0 := by
  rw [Request.net, h.2, Nat.cast_zero, sub_zero]

/-- A run queue without `active_balance` has no work, and one that works on a
forced migration has its task in `migrate_task`. -/
def RqState.Sound (b : Build) (q : RqState T) : Prop :=
  (q.activeBalance = false → q.work = .empty) ∧ ∀ r, q.work.request = some r → q.migrateTask = some r.task ∧ r.Fresh b

structure RefState.Inv (b : Build) (usage : T → Int) (s : RefState T n) : Prop where
  rq : ∀ cpu, (s.rq cpu).Sound b
  moving : ∀ m ∈ s.moving, m.1 = m.2.task ∧ m.2.Fresh b
  usage : ∀ t, s.usage t = usage t + s.accounted t

lemma addUsage_usage (task t : T) (d : Int) : (s.addUsage task d).usage t = s.usage t + if task = t then d else 0 := by
  show Function.update s.usage task _ t = _
  rw [Function.update_apply]
  by_cases h : t = task
  · subst h
    rw [if_pos rfl, if_pos rfl]
  · rw [if_neg h, if_neg (Ne.symm h), add_zero]

lemma accounted_setRq (cpu : Fin n) (q : RqState T) (t : T) :
    (s.setRq cpu q).accounted t = s.accounted t - (s.rq cpu).work.net t + q.work.net t := by
  have hsum : ∑ c, ((s.setRq cpu q).rq c).work.net t =
      ∑ c, (s.rq c).work.net t - (s.rq cpu).work.net t + q.work.net t := by
    rw [← add_sum_erase _ _ (mem_univ cpu),
      ← add_sum_erase _ (fun c => (s.rq c).work.net t) (mem_univ cpu)]
    have hrest : ∀ c ∈ univ.erase cpu, ((s.setRq cpu q).rq c).work.net t = (s.rq c).work.net t := by
      intro c hc
      show (Function.update s.rq cpu q c).work.net t = _
      rw [Function.update_of_ne (ne_of_mem_erase hc)]
    rw [sum_congr rfl hrest]
    show (Function.update s.rq cpu q cpu).work.net t + _ = _
    rw [Function.update_self]
    omega
  show ∑ c, ((s.setRq cpu q).rq c).work.net t + (s.moving.map fun m => m.2.net t).sum +
    (s.ended.map (Request.net t)).sum = _
  rw [hsum, RefState.accounted]
  omega

lemma accounted_pushMoving (m : T × Request T) (t : T) : (s.pushMoving m).accounted t = s.accounted t + m.2.net t := by
  simp only [RefState.accounted, RefState.pushMoving, List.map_cons, List.sum_cons]
  omega

lemma accounted_endRequest (r : Request T) (t : T) : (s.endRequest r).accounted t = s.accounted t + r.net t := by
  simp only [RefState.accounted, RefState.endRequest, List.map_cons, List.sum_cons]
  omega

lemma accounted_eraseIdx {i : Nat} {m : T × Request T} (hget : s.moving[i]? = some m) (t : T) :
    { s with moving := s.moving.eraseIdx i }.accounted t = s.accounted t - m.2.net t := by
  obtain ⟨hlt, hm⟩ := List.getElem?_eq_some_iff.mp hget
  have hperm := (List.getElem_cons_eraseIdx_perm hlt).map fun m => m.2.net t
  have hsum := hperm.sum_eq
  rw [List.map_cons, List.sum_cons, hm] at hsum
  simp only [RefState.accounted]
  omega

@[simp] lemma accounted_addUsage (task t : T) (d : Int) : (s.addUsage task d).accounted t = s.accounted t := rfl

lemma accounted_release (cpu : Fin n) (t : T) :
    (s.release cpu).accounted t = s.accounted t - (s.rq cpu).work.net t := by
  rw [RefState.release, accounted_setRq, Work.net_empty, add_zero]

omit [DecidableEq T] in
lemma sound_setRq {b : Build} {cpu : Fin n} {q : RqState T} (h : ∀ c, (s.rq c).Sound b)
    (hq : q.Sound b) (c : Fin n) : ((s.setRq cpu q).rq c).Sound b := by
  show (Function.update s.rq cpu q c).Sound b
  rw [Function.update_apply]
  split
  · exact hq
  · exact h c

lemma RqState.Sound.work_net {b : Build} {q : RqState T} (h : q.Sound b)
    (hidle : q.activeBalance = false) (t : T) : q.work.net t = 0 := by
  rw [h.1 hidle, Work.net_empty]

end Accounting

namespace RefState.Inv

variable [DecidableEq T] {b : Build} {usage : T → Int} {s : RefState T n} {cpu : Fin n}

lemma start (usage : T → Int) : (RefState.init usage : RefState T n).Inv b usage := by
  refine ⟨fun _ => ⟨fun _ => rfl, nofun⟩, nofun, fun t => ?_⟩
  simp [RefState.init, RefState.accounted]

/-- Replacing the record of a run queue by one for the same request. -/
lemma setRq {q : RqState T} (h : s.Inv b usage) (hq : q.Sound b)
    (same : q.work.request = (s.rq cpu).work.request) : (s.setRq cpu q).Inv b usage := by
  refine ⟨sound_setRq s h.rq hq, h.moving, fun t => ?_⟩
  have hnet : q.work.net t = (s.rq cpu).work.net t := by rw [Work.net, same, Work.net]
  have husage := h.usage t
  rw [accounted_setRq, hnet]
  show s.usage t = _
  omega

lemma launch {r : Request T} (h : s.Inv b usage) (idle : (s.rq cpu).activeBalance = false)
    (hr : r.Fresh b) : (s.launch cpu r).Inv b usage := by
  refine ⟨sound_setRq _ h.rq ⟨nofun, ?_⟩, h.moving, fun t => ?_⟩
  · rintro _ ⟨⟩
    exact ⟨rfl, hr⟩
  · have hcount : (s.launch cpu r).usage t = s.usage t + if r.task = t then (r.taken : Int) else 0 :=
      addUsage_usage s r.task t r.taken
    have hnet : (Work.launched (.forced r)).net t = if r.task = t then (r.taken : Int) else 0 :=
      hr.net t
    have hidle : (s.rq cpu).work.net t = 0 := (h.rq cpu).work_net idle t
    have haccounted : (s.launch cpu r).accounted t =
        s.accounted t - (s.rq cpu).work.net t + (Work.launched (.forced r)).net t :=
      accounted_setRq (s.addUsage r.task r.taken) cpu _ t
    rw [hcount, haccounted, h.usage t, hidle, hnet]
    omega

lemma moveDirectly {r : Request T} (h : s.Inv b usage) (idle : (s.rq cpu).activeBalance = false)
    (hr : r.Fresh b) : (s.moveDirectly cpu r).Inv b usage := by
  have hwork := (h.rq cpu).1 idle
  refine ⟨sound_setRq _ h.rq ⟨fun _ => hwork, ?_⟩, ?_, fun t => ?_⟩
  · intro r' hr'
    rw [hwork] at hr'
    exact absurd hr' nofun
  · exact List.forall_mem_cons.mpr ⟨⟨rfl, hr⟩, h.moving⟩
  · have hcount : (s.moveDirectly cpu r).usage t =
        s.usage t + if r.task = t then (r.taken : Int) else 0 := addUsage_usage s r.task t r.taken
    have hrq : ((s.addUsage r.task r.taken).setRq cpu
        { s.rq cpu with migrateTask := some r.task }).accounted t =
          s.accounted t - (s.rq cpu).work.net t + (s.rq cpu).work.net t :=
      accounted_setRq (s.addUsage r.task r.taken) cpu _ t
    rw [hcount, RefState.moveDirectly, accounted_pushMoving, hrq, hr.net, h.usage t]
    omega

/-- The requester takes back what the stopper refused. -/
lemma close {job : Job T} (h : s.Inv b usage) (rejected : (s.rq cpu).work = .rejected job) :
    ((s.release cpu).close job).Inv b usage := by
  have hsound : ({ s.rq cpu with activeBalance := false, work := .empty } : RqState T).Sound b :=
    ⟨fun _ => rfl, nofun⟩
  cases job with
  | forced r =>
    refine ⟨sound_setRq s h.rq hsound, h.moving, fun t => ?_⟩
    have husage : s.usage t = usage t + s.accounted t := h.usage t
    have hnet : (s.rq cpu).work.net t = r.net t := by rw [rejected]; rfl
    rw [RefState.close, accounted_endRequest, accounted_release, hnet]
    show s.usage t = _
    omega
  | balance =>
    apply h.setRq hsound
    rw [rejected]
    rfl

lemma callback (h : s.Inv b usage) : (s.callback cpu).Inv b usage := by
  have hsound : ({ s.rq cpu with activeBalance := false, work := .empty } : RqState T).Sound b :=
    ⟨fun _ => rfl, nofun⟩
  rw [RefState.callback]
  split
  next r p hwork htask =>
    have hrequest : (s.rq cpu).work.request = some r := by rw [hwork]; rfl
    obtain ⟨hstored, hr⟩ := (h.rq cpu).2 r hrequest
    refine ⟨sound_setRq s h.rq hsound, ?_, fun t => ?_⟩
    · have htask' : p = r.task := Option.some.inj (htask.symm.trans hstored)
      exact List.forall_mem_cons.mpr ⟨⟨htask', hr⟩, h.moving⟩
    · have husage : s.usage t = usage t + s.accounted t := h.usage t
      have hnet : (s.rq cpu).work.net t = r.net t := by rw [hwork]; rfl
      rw [accounted_pushMoving, accounted_release, hnet]
      show s.usage t = usage t + (s.accounted t - r.net t + r.net t)
      omega
  next hwork =>
    apply h.setRq hsound
    rw [hwork]
    rfl
  · exact h

lemma put (h : s.Inv b usage) (i : Nat) : (s.put i).Inv b usage := by
  rw [RefState.put]
  split
  next p r hget =>
    obtain ⟨hp, hr⟩ := h.moving (p, r) (List.mem_of_getElem? hget)
    refine ⟨h.rq, fun m hm => h.moving m (List.mem_of_mem_eraseIdx hm), fun t => ?_⟩
    have hcount := addUsage_usage { s with moving := s.moving.eraseIdx i } p t (-1)
    have hnet := Request.net_drop r t
    have husage : s.usage t = usage t + s.accounted t := h.usage t
    rw [if_pos hp, accounted_endRequest, accounted_addUsage, accounted_eraseIdx s hget, hnet]
    rw [show p = r.task from hp] at hcount ⊢
    exact hcount.trans (by dsimp only; omega)
  · exact h

lemma startPlain {d : PlainDecision T n} (h : s.Inv .plain usage)
    (idle : d ≠ .nothing → (s.rq cpu).activeBalance = false) : (s.startPlain cpu d).Inv .plain usage := by
  cases d with
  | nothing => exact h
  | wake target => exact h
  | direct task => exact h.moveDirectly (idle nofun) ⟨rfl, rfl⟩
  | stop task => exact h.launch (idle nofun) ⟨rfl, rfl⟩

end RefState.Inv

section Runs

variable {b : Build} {delayUp : Bool} {usage : T → Int} {s : RefState T n}

lemma PlainProbe.idle_of_decision {activeBalance : Bool} {p : PlainProbe T n}
    (h : p.decision delayUp activeBalance ≠ .nothing) : activeBalance = false := by
  grind [PlainProbe.decision]

lemma PullProbe.idle_of_decision {activeBalance : Bool} {p : PullProbe T n}
    (h : p.decision activeBalance ≠ .nothing) : activeBalance = false := by
  grind [PullProbe.decision]

variable [DecidableEq T]

lemma refStep_inv (h : s.Inv b usage) (op : RefOp T n) : (s.step b delayUp op).Inv b usage := by
  cases op with
  | visit r p =>
    cases b with
    | enhancement =>
      show (s.visit delayUp r p).Inv _ usage
      rw [RefState.visit]
      split
      next task target hdecision =>
        exact h.launch (Probe.activeBalance_of_launch hdecision) ⟨rfl, rfl⟩
      · exact h
    | plain => exact h
  | force p =>
    cases b with
    | enhancement => exact h
    | plain => exact h.startPlain PlainProbe.idle_of_decision
  | pull p =>
    cases b with
    | enhancement => exact h
    | plain => exact h.startPlain PullProbe.idle_of_decision
  | balance cpu =>
    rw [RefState.step]
    split
    · exact h
    next hidle =>
      have hwork := (h.rq cpu).1 (Bool.eq_false_of_not_eq_true hidle)
      refine h.setRq ⟨nofun, nofun⟩ ?_
      rw [hwork]
      rfl
  | dispatch cpu accepted =>
    rw [RefState.step]
    split
    next job hwork =>
      have hsame : (if accepted then Work.queued job else .rejected job).request = (s.rq cpu).work.request := by
        rw [hwork]
        cases accepted <;> cases job <;> rfl
      refine h.setRq ⟨fun hidle => ?_, fun r hr => ?_⟩ hsame
      · exact absurd (hwork.symm.trans ((h.rq cpu).1 hidle)) nofun
      · exact (h.rq cpu).2 r (hsame.symm.trans hr)
    · exact h
  | abandon cpu =>
    rw [RefState.step]
    split
    next job hwork => exact h.close hwork
    · exact h
  | callback cpu => exact h.callback
  | put i => exact h.put i

/-- Giving up after a refused dispatch; in the enhanced build also the
`put_task_struct` of a callback. -/
def RefOp.Faulty (b : Build) (s : RefState T n) : RefOp T n → Prop
  | .abandon cpu => ∃ r, (s.rq cpu).work = .rejected (.forced r)
  | .put i => b = .enhancement ∧ i < s.moving.length
  | _ => False

/-- The request that a step ends, if any. -/
def RefOp.ends (s : RefState T n) : RefOp T n → Option (Request T)
  | .abandon cpu => match (s.rq cpu).work with
      | .rejected (.forced r) => some r
      | _ => none
  | .put i => s.moving[i]?.map fun m =>
    if m.1 = m.2.task then { m.2 with dropped := m.2.dropped + 1 } else m.2
  | _ => none

lemma refStep_ended (op : RefOp T n) : (s.step b delayUp op).ended = (op.ends s).toList ++ s.ended := by
  cases op with
  | visit r p =>
    cases b with
    | enhancement =>
      show (s.visit delayUp r p).ended = _
      rw [RefState.visit]
      split <;> rfl
    | plain => rfl
  | force p =>
    cases b with
    | enhancement => rfl
    | plain => cases hd : p.decision delayUp (s.rq p.cpu).activeBalance <;>
        simp only [RefState.step, hd] <;> rfl
  | pull p =>
    cases b with
    | enhancement => rfl
    | plain => cases hd : p.decision (s.rq p.cpu).activeBalance <;>
        simp only [RefState.step, hd] <;> rfl
  | balance cpu | dispatch cpu accepted =>
    rw [RefState.step]
    split <;> rfl
  | abandon cpu =>
    cases hwork : (s.rq cpu).work with
    | rejected job => cases job <;> simp only [RefState.step, RefOp.ends, hwork] <;> rfl
    | _ =>
      simp only [RefState.step, RefOp.ends, hwork]
      rfl
  | callback cpu =>
    show (s.callback cpu).ended = _
    rw [RefState.callback]
    split <;> rfl
  | put i =>
    show (s.put i).ended = _
    cases hget : s.moving[i]? <;> simp only [RefState.put, RefOp.ends, hget] <;> rfl

/-- Requests that are still under way account for the whole change of a count. -/
lemma RefState.Inv.balanced_iff (h : s.Inv b usage) :
    s.Balanced usage ↔ ∀ r ∈ s.ended, r.taken = 1 ∧ r.dropped = 1 := by
  refine ⟨fun hs => hs.1, fun hended => ⟨hended, fun t hquiet => ?_⟩⟩
  have hrq : ∑ cpu, (s.rq cpu).work.net t = 0 := by
    apply sum_eq_zero
    intro cpu _
    rw [Work.net]
    cases hrequest : (s.rq cpu).work.request with
    | none => rfl
    | some r => exact if_neg (hquiet.1 cpu r hrequest)
  have hmoving : (s.moving.map fun m => m.2.net t).sum = 0 := by
    apply List.sum_eq_zero
    intro z hz
    obtain ⟨m, hm, rfl⟩ := List.mem_map.mp hz
    exact if_neg (hquiet.2 m hm)
  have hdone : (s.ended.map (Request.net t)).sum = 0 := by
    apply List.sum_eq_zero
    intro z hz
    obtain ⟨r, hr, rfl⟩ := List.mem_map.mp hz
    obtain ⟨htaken, hdropped⟩ := hended r hr
    rw [Request.net, htaken, hdropped, sub_self, ite_self]
  rw [h.usage t, RefState.accounted, hrq, hmoving, hdone]
  omega

lemma RefState.Inv.faulty_iff (h : s.Inv b usage) (op : RefOp T n) :
    (∀ r, op.ends s = some r → r.taken = 1 ∧ r.dropped = 1) ↔ ¬ op.Faulty b s := by
  cases op with
  | abandon cpu =>
    rw [RefOp.Faulty, RefOp.ends]
    constructor
    · rintro hends ⟨r, hwork⟩
      rw [hwork] at hends
      have hfresh := ((h.rq cpu).2 r (by rw [hwork]; rfl)).2
      have hdropped := (hends r rfl).2
      rw [hfresh.2] at hdropped
      exact absurd hdropped (by decide)
    · intro hsound r hr
      split at hr
      next r' hwork => exact absurd ⟨r', hwork⟩ hsound
      · exact absurd hr nofun
  | put i =>
    rw [RefOp.Faulty, RefOp.ends]
    cases hget : s.moving[i]? with
    | none =>
      have hlen : ¬ i < s.moving.length := Nat.not_lt.mpr (List.getElem?_eq_none_iff.mp hget)
      simp [hlen]
    | some m =>
      have hlen : i < s.moving.length := (List.getElem?_eq_some_iff.mp hget).1
      obtain ⟨hp, htaken, hdropped⟩ := h.moving m (List.mem_of_getElem? hget)
      rw [Option.map_some, if_pos hp]
      cases b with
      | enhancement => simp [hlen, htaken, Build.taken]
      | plain => simp [htaken, hdropped, Build.taken]
  | _ => simp [RefOp.Faulty, RefOp.ends]

lemma refStep_balanced_iff (h : s.Inv b usage) (hs : s.Balanced usage) (op : RefOp T n) :
    (s.step b delayUp op).Balanced usage ↔ ¬ op.Faulty b s := by
  rw [(refStep_inv h op).balanced_iff, refStep_ended, ← h.faulty_iff op, List.forall_mem_append]
  simp only [Option.mem_toList]
  exact and_iff_left hs.1

/-- In every run every finished request is balanced, and the usage counts are
restored, exactly if no step abandons a forced migration and, in the enhanced
build, none ends one at all. -/
theorem forced_migration_refs_iff (b : Build) (delayUp : Bool) (usage : T → Int) (ops : List (RefOp T n)) :
    Run.Always (RefState.step b delayUp) (RefState.Balanced usage) (.init usage) ops ↔
    Run.Each (RefState.step b delayUp) (fun s op => ¬ op.Faulty b s) (.init usage) ops := by
  have hstart : (RefState.init usage : RefState T n).Inv b usage := .start usage
  have hinv : Run.Always (RefState.step b delayUp) (RefState.Inv b usage) (.init usage) ops :=
    Run.always_of_step (fun _ op h => refStep_inv h op) hstart
  have hboth : Run.Always (RefState.step b delayUp) (fun s => s.Balanced usage ∧ s.Inv b usage) (.init usage) ops ↔
      Run.Each (RefState.step b delayUp) (fun s op => ¬ op.Faulty b s) (.init usage) ops := by
    apply Run.always_iff_each
    · rintro s op ⟨hs, h⟩
      rw [refStep_balanced_iff h hs, and_iff_left (refStep_inv h op)]
    · exact ⟨hstart.balanced_iff.mpr nofun, hstart⟩
  rw [← hboth]
  constructor
  · intro hbalanced
    exact hbalanced.and hinv
  · intro hall
    exact hall.mono fun s hs => hs.1

/-- In the enhanced build a forced migration that runs to its end leaves the usage
count one too low; in the plain build one that the stopper refuses leaves it one
too high. -/
theorem forced_migration_refs_off :
    let enhanced : List (RefOp Unit 2) :=
      [.visit .idlePull { cpu := 0, curr := some (), target := some 1 }, .dispatch 0 true,
        .callback 0, .put 0]
    let plain : List (RefOp Unit 2) :=
      [.force { cpu := 1, heaviest := some (), lightest := (), offload := some 0,
                running := fun _ => true }, .dispatch 1 false, .abandon 1]
    let s := enhanced.foldl (RefState.step .enhancement true) (.init fun _ => 2)
    let s' := plain.foldl (RefState.step .plain true) (.init fun _ => 2)
    (s.usage () = 1 ∧ s.ended = [{ task := (), taken := 0, dropped := 1 }]) ∧
      s'.usage () = 3 ∧ s'.ended = [{ task := (), taken := 1, dropped := 0 }] := by
  decide

end Runs

end BigLittle.Hmp
