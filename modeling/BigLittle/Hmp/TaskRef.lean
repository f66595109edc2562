import BigLittle.Hmp.Force

/-!
# References of forced migrations

A forced migration stores its task in `migrate_task` of the run queue and hands the
queue to the CPU stopper, whose callback moves the task later and then drops a reference
on it. The plain build takes this reference when it starts; the enhanced build does not.
A task that is not running is moved at once, in the plain build only. If the stopper
refuses the work, the requester resets `active_balance` and forgets the request.

The steps are the sections under one run-queue lock. Each request carries the number of
references taken and dropped for it.
-/

namespace BigLittle.Hmp

inductive Build where
  | enhancement
  | plain
deriving DecidableEq

structure Request (T : Type*) where
  task : T
  taken : Nat
  dropped : Nat := 0
deriving DecidableEq

/-- What `active_balance_work` is for: a forced migration or `load_balance`. -/
inductive Job (T : Type*) where
  | forced (r : Request T)
  | balance
deriving DecidableEq

inductive Work (T : Type*) where
  | empty
  | launched (job : Job T)
  | queued (job : Job T)
  | rejected (job : Job T)
deriving DecidableEq

structure RqState (T : Type*) where
  activeBalance : Bool := false
  migrateTask : Option T := none
  work : Work T := .empty
deriving DecidableEq

structure RefState (T : Type*) (n : Nat) where
  usage : T → Int
  rq : Fin n → RqState T
  /-- requests with only their `put_task_struct` to come, and its argument -/
  moving : List (T × Request T) := []
  ended : List (Request T) := []

structure PlainProbe (T : Type*) (n : Nat) where
  cpu : Fin n
  /-- `cfs.curr` is set -/
  curr : Bool := true
  heaviest : Option T
  /-- `hmp_up_migration` with the CPU it finds -/
  up : Option (Fin n) := none
  lightest : T
  /-- `hmp_offload_down`, none for `NR_CPUS` -/
  offload : Option (Fin n) := none
  running : T → Bool

/-- The candidate of `hmp_idle_pull` in the plain build. -/
structure PullProbe (T : Type*) (n : Nat) where
  cpu : Fin n
  task : T
  /-- `task_rq(p) == target` -/
  onQueue : Bool := true
  running : Bool

inductive PlainDecision (T : Type*) (n : Nat) where
  | nothing
  | wake (target : Fin n)
  | direct (task : T)
  | stop (task : T)
deriving DecidableEq

variable {T : Type*} {n : Nat}

/-- A running task is left to the stopper. -/
def PlainDecision.start (task : T) (running : Bool) : PlainDecision T n :=
  if running then .stop task else .direct task

def PlainProbe.decision (delayUp activeBalance : Bool) (p : PlainProbe T n) : PlainDecision T n :=
  if !p.curr || activeBalance then .nothing
  else match p.heaviest with
    | none => .nothing
    | some heavy => match p.up with
      | some target => if delayUp then .wake target else .start heavy (p.running heavy)
      | none => match p.offload with
        | some _ => .start p.lightest (p.running p.lightest)
        | none => .nothing

def PullProbe.decision (activeBalance : Bool) (p : PullProbe T n) : PlainDecision T n :=
  if !activeBalance && p.onQueue then .start p.task p.running else .nothing

inductive RefOp (T : Type*) (n : Nat) where
  /-- one round of a requester in the enhanced build -/
  | visit (r : Requester) (p : Probe T n)
  /-- one round of `hmp_force_up_migration` in the plain build -/
  | force (p : PlainProbe T n)
  /-- the second half of `hmp_idle_pull` in the plain build -/
  | pull (p : PullProbe T n)
  /-- active balancing by `load_balance` -/
  | balance (cpu : Fin n)
  | dispatch (cpu : Fin n) (accepted : Bool)
  | abandon (cpu : Fin n)
  /-- `__do_active_load_balance_cpu_stop` up to its unlock -/
  | callback (cpu : Fin n)
  /-- the `put_task_struct` after it, or at the end of `hmp_migrate_runnable_task` -/
  | put (i : Nat)

namespace RefState

variable (s : RefState T n)

def setRq (cpu : Fin n) (q : RqState T) : RefState T n :=
  { s with rq := Function.update s.rq cpu q }

/-- Reset `active_balance`; the work is over. -/
def release (cpu : Fin n) : RefState T n :=
  s.setRq cpu { s.rq cpu with activeBalance := false, work := .empty }

def pushMoving (m : T × Request T) : RefState T n := { s with moving := m :: s.moving }

def endRequest (r : Request T) : RefState T n := { s with ended := r :: s.ended }

def close : Job T → RefState T n
  | .forced r => s.endRequest r
  | .balance => s

variable [DecidableEq T]

def addUsage (task : T) (d : Int) : RefState T n :=
  { s with usage := Function.update s.usage task (s.usage task + d) }

/-- Set `active_balance` and `migrate_task`, with the references the build takes. -/
def launch (cpu : Fin n) (r : Request T) : RefState T n :=
  (s.addUsage r.task r.taken).setRq cpu
    { activeBalance := true, migrateTask := some r.task, work := .launched (.forced r) }

/-- `hmp_migrate_runnable_task` up to its `put_task_struct`. -/
def moveDirectly (cpu : Fin n) (r : Request T) : RefState T n :=
  ((s.addUsage r.task r.taken).setRq cpu
    { s.rq cpu with migrateTask := some r.task }).pushMoving (r.task, r)

def startPlain (cpu : Fin n) : PlainDecision T n → RefState T n
  | .stop task => s.launch cpu { task := task, taken := 1 }
  | .direct task => s.moveDirectly cpu { task := task, taken := 1 }
  | _ => s

/-- The callback has read `migrate_task` as `p`, and drops a reference on it. -/
def put (i : Nat) : RefState T n :=
  match s.moving[i]? with
  | some (p, r) =>
    ({ s with moving := s.moving.eraseIdx i }.addUsage p (-1)).endRequest
      (if p = r.task then { r with dropped := r.dropped + 1 } else r)
  | none => s

def callback (cpu : Fin n) : RefState T n :=
  match (s.rq cpu).work, (s.rq cpu).migrateTask with
  | .queued (.forced r), some p => (s.release cpu).pushMoving (p, r)
  | .queued .balance, _ => s.release cpu
  | _, _ => s

/-- A round of the enhanced build takes no reference. -/
def visit (delayUp : Bool) (r : Requester) (p : Probe T n) : RefState T n :=
  match { p with activeBalance := (s.rq p.cpu).activeBalance }.decision delayUp r with
  | .launch task _ => s.launch p.cpu { task := task, taken := 0 }
  | _ => s

def step (b : Build) (delayUp : Bool) (s : RefState T n) : RefOp T n → RefState T n
  | .visit r p =>
    match b with
    | .enhancement => s.visit delayUp r p
    | .plain => s
  | .force p =>
    match b with
    | .plain => s.startPlain p.cpu (p.decision delayUp (s.rq p.cpu).activeBalance)
    | .enhancement => s
  | .pull p =>
    match b with
    | .plain => s.startPlain p.cpu (p.decision (s.rq p.cpu).activeBalance)
    | .enhancement => s
  | .balance cpu =>
    if (s.rq cpu).activeBalance then s
    else s.setRq cpu { s.rq cpu with activeBalance := true, work := .launched .balance }
  | .dispatch cpu accepted =>
    match (s.rq cpu).work with
    | .launched job =>
      s.setRq cpu { s.rq cpu with work := if accepted then .queued job else .rejected job }
    | _ => s
  | .abandon cpu =>
    match (s.rq cpu).work with
    | .rejected job => (s.release cpu).close job
    | _ => s
  | .callback cpu => s.callback cpu
  | .put i => s.put i

/-- Nothing is queued anywhere. -/
def init (usage : T → Int) : RefState T n := { usage := usage, rq := fun _ => {} }

end RefState

end BigLittle.Hmp
