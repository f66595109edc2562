import Mathlib.Logic.Function.Basic
import BigLittle.Lib.Run

/-!
# The CPU stoppers

Every CPU has a stopper: a list of works and a thread that runs them. A request queues its
works one by one and waits until all of them are completed; the record they are counted in
lives on the stack of the caller. Works without a record have nobody waiting.

A step is one access to shared memory, or one critical section of a stopper's lock that
makes no other access. A work here is one submission; a buffer is used again, as another
work, only when no list has it. What happens to a work and to a record is logged where the
code does it.
-/

namespace BigLittle.Stop

open Function (update)

/-- The works of a system: where each is to run, and the record it is counted in. -/
structure Plan (C W R : Type) where
  cpu : W → C
  done : W → Option R
  /-- the works of a request, in the order in which they are queued -/
  works : R → List W
  nodup : ∀ r, (works r).Nodup
  mem_works : ∀ r w, w ∈ works r ↔ done w = some r

structure Done where
  nrTodo : Int := 0
  executed : Bool := false
  ret : Int := 0
  completion : Nat := 0

inductive Holder (R : Type) where
  | thread
  | caller (r : R)
deriving DecidableEq

structure Stopper (W R : Type) where
  lock : Option (Holder R) := none
  enabled : Bool := false
  works : List W := []

inductive ThreadPc (W R : Type) where
  | parked
  /-- in the loop of `smpboot_thread_fn` -/
  | outside
  | repeat
  | call (w : W)
  | storeRet (w : W) (ret : Int)
  | storeExecuted (w : W)
  | decTodo (w : W) (r : R)
  | complete (r : R)
  /-- in `cpu_stop_park` with the lock, at the works that are left -/
  | park (left : List W)
  | parkComplete (r : R) (left : List W)
  /-- stopped by a null pointer -/
  | oops

/-- Where the caller of a request is; `queue []` waits. -/
inductive CallerPc (W : Type) where
  | idle
  | queue (left : List W)
  /-- `w` is turned away; the lock of its stopper is held here and in `complete` -/
  | decTodo (w : W) (left : List W)
  | complete (w : W) (left : List W)
  | returned

inductive Event where
  | queued
  | rejected
  | taken
  | ran
  | signalled (executed : Bool)
deriving DecidableEq

/-- What happens to a record: its count is found to be zero, by the thread of a CPU or by
the caller; it is completed; its caller returns; it is used afterwards. -/
inductive Mark (C : Type) where
  | zero (agent : Option C)
  | completed
  | returned
  | late
deriving DecidableEq

structure State (C W R : Type) where
  stopper : C → Stopper W R := fun _ => {}
  thread : C → ThreadPc W R := fun _ => .parked
  done : R → Done := fun _ => {}
  caller : R → CallerPc W := fun _ => .idle
  log : W → List Event := fun _ => []
  marks : R → List (Mark C) := fun _ => []

variable {C W R : Type} [DecidableEq C] [DecidableEq W] [DecidableEq R]

namespace State

variable (s : State C W R)

def setStopper (cpu : C) (x : Stopper W R) : State C W R :=
  { s with stopper := update s.stopper cpu x }

def setThread (cpu : C) (pc : ThreadPc W R) : State C W R :=
  { s with thread := update s.thread cpu pc }

def setCaller (r : R) (pc : CallerPc W) : State C W R :=
  { s with caller := update s.caller r pc }

def record (w : W) (e : Event) : State C W R :=
  { s with log := update s.log w (s.log w ++ [e]) }

def mark (r : R) (m : Mark C) : State C W R :=
  { s with marks := update s.marks r (s.marks r ++ [m]) }

/-- An access to the record of a request. -/
def setDone (r : R) (d : Done) : State C W R :=
  let s := { s with done := update s.done r d }
  match s.caller r with
  | .returned => s.mark r .late
  | _ => s

/-- `atomic_dec_and_test` on `nr_todo`; the caller of the function looks whether it is
zero. -/
def decTodo (r : R) (agent : Option C) : State C W R :=
  let n := (s.done r).nrTodo - 1
  let s := s.setDone r { s.done r with nrTodo := n }
  if n = 0 then s.mark r (.zero agent) else s

def complete (r : R) : State C W R :=
  (s.setDone r { s.done r with completion := (s.done r).completion + 1 }).mark r .completed

variable (q : Plan C W R)

/-- `cpu_stop_init_done`, before the works are queued. -/
def call (r : R) : State C W R :=
  (s.setDone r { nrTodo := (q.works r).length }).setCaller r (.queue (q.works r))

/-- The next access of a caller: `cpu_stop_queue_work` for each work, then
`wait_for_completion`. -/
def callerStep (r : R) : State C W R :=
  match s.caller r with
  | .idle => s
  | .queue (w :: left) =>
    let x := s.stopper (q.cpu w)
    if x.enabled then
      ((s.setStopper (q.cpu w) { x with works := x.works ++ [w] }).record w .queued).setCaller r (.queue left)
    else ((s.setStopper (q.cpu w) { x with lock := some (.caller r) }).record w .rejected).setCaller r (.decTodo w left)
  | .decTodo w left =>
    let s := (s.decTodo r none).record w (.signalled false)
    if (s.done r).nrTodo = 0 then s.setCaller r (.complete w left)
    else (s.setStopper (q.cpu w) { s.stopper (q.cpu w) with lock := none }).setCaller r (.queue left)
  | .complete w left =>
    let s := s.complete r
    (s.setStopper (q.cpu w) { s.stopper (q.cpu w) with lock := none }).setCaller r (.queue left)
  | .queue [] =>
    if (s.done r).completion = 0 then s
    else
      ((s.setDone r { s.done r with completion := (s.done r).completion - 1 }).mark r .returned).setCaller r
        .returned
  | .returned => s

/-- `stop_one_cpu_nowait` and `stop_one_cpu_dispatch`: there is no record to count in. -/
def submit (w : W) : State C W R :=
  let x := s.stopper (q.cpu w)
  if x.enabled then (s.setStopper (q.cpu w) { x with works := x.works ++ [w] }).record w .queued
  else (s.record w .rejected).record w (.signalled false)

/-- The next access of a stopper's thread; `ret` is what a work returns that is called. -/
def threadStep (cpu : C) (ret : Int) : State C W R :=
  let x := s.stopper cpu
  match s.thread cpu with
  | .parked => if x.enabled then s.setThread cpu .outside else s
  | .outside => if x.works.isEmpty then s else s.setThread cpu .repeat
  | .repeat =>
    match x.works with
    | [] => s.setThread cpu .outside
    | w :: rest => ((s.setStopper cpu { x with works := rest }).record w .taken).setThread cpu (.call w)
  | .call w => (s.record w .ran).setThread cpu (.storeRet w ret)
  | .storeRet w ret =>
    if ret = 0 then s.setThread cpu (.storeExecuted w)
    else
      match q.done w with
      | none => s.setThread cpu .oops
      | some r => (s.setDone r { s.done r with ret := ret }).setThread cpu (.storeExecuted w)
  | .storeExecuted w =>
    match q.done w with
    | none => (s.record w (.signalled true)).setThread cpu .repeat
    | some r => (s.setDone r { s.done r with executed := true }).setThread cpu (.decTodo w r)
  | .decTodo w r =>
    let s := (s.decTodo r (some cpu)).record w (.signalled true)
    s.setThread cpu (if (s.done r).nrTodo = 0 then .complete r else .repeat)
  | .complete r => (s.complete r).setThread cpu .repeat
  | .park [] => (s.setStopper cpu { x with enabled := false, lock := none }).setThread cpu .parked
  | .park (w :: left) =>
    match q.done w with
    | none => (s.record w (.signalled false)).setThread cpu (.park left)
    | some r =>
      let s := (s.decTodo r (some cpu)).record w (.signalled false)
      s.setThread cpu (if (s.done r).nrTodo = 0 then .parkComplete r left else .park left)
  | .parkComplete r left => (s.complete r).setThread cpu (.park left)
  | .oops => s

/-- `cpu_stop_park` takes the lock. The works stay in the list. -/
def park (cpu : C) : State C W R :=
  let x := s.stopper cpu
  (s.setStopper cpu { x with lock := some .thread }).setThread cpu (.park x.works)

def unpark (cpu : C) : State C W R :=
  s.setStopper cpu { s.stopper cpu with enabled := true }

end State

inductive Op (C W R : Type) where
  | call (r : R)
  | caller (r : R)
  | submit (w : W)
  | thread (cpu : C) (ret : Int)
  | park (cpu : C)
  | unpark (cpu : C)

def State.step (q : Plan C W R) (s : State C W R) : Op C W R → State C W R
  | .call r => s.call q r
  | .caller r => s.callerStep q r
  | .submit w => s.submit q w
  | .thread cpu ret => s.threadStep q cpu ret
  | .park cpu => s.park cpu
  | .unpark cpu => s.unpark cpu

def CallerPc.isIdle : CallerPc W → Bool
  | .idle => true
  | _ => false

/-- The work that is queued next. -/
def CallerPc.next : CallerPc W → Option W
  | .queue (w :: _) => some w
  | _ => none

def ThreadPc.isParked : ThreadPc W R → Bool
  | .parked => true
  | _ => false

def ThreadPc.isOutside : ThreadPc W R → Bool
  | .outside => true
  | _ => false

/-- The next access is under the lock. -/
def ThreadPc.locks : ThreadPc W R → Bool
  | .outside | .repeat => true
  | _ => false

/-- Who takes a lock finds it free. A work without a record is submitted once, a thread
parks between two rounds, and is unparked when it is parked. -/
def Op.Allowed (q : Plan C W R) (s : State C W R) : Op C W R → Prop
  | .call r => (s.caller r).isIdle = true
  | .caller r => ∀ w ∈ (s.caller r).next, (s.stopper (q.cpu w)).lock = none
  | .submit w => q.done w = none ∧ s.log w = [] ∧ (s.stopper (q.cpu w)).lock = none
  | .thread cpu _ => (s.thread cpu).locks = true → (s.stopper cpu).lock = none
  | .park cpu => (s.thread cpu).isOutside = true ∧ (s.stopper cpu).lock = none
  | .unpark cpu => (s.thread cpu).isParked = true ∧ (s.stopper cpu).lock = none

instance Op.decidableAllowed (q : Plan C W R) (s : State C W R) (op : Op C W R) : Decidable (op.Allowed q s) := by
  cases op <;> dsimp only [Op.Allowed] <;> infer_instance

end BigLittle.Stop
