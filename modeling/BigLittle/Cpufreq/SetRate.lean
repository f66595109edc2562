import Mathlib.Data.Finset.Lattice.Fold
import Mathlib.Data.Fintype.Basic
import Mathlib.Order.Lattice.Nat
import BigLittle.Cpufreq.ClusterTables

/-!
# Setting the rate of a CPU with switching on

`bL_cpufreq_set_rate` records the request of a CPU and the cluster it is for, and sets the clock of
that cluster to the largest request of its CPUs; if the CPU comes from the other cluster, it does
the same there. Each cluster has a mutex for its clock. The requests and the clusters of the CPUs
are plain per-CPU variables: a call writes those of its own CPU, with the mutex of the new cluster,
and reads those of all CPUs, one variable at a time.
-/

namespace BigLittle.Cpufreq

open Function (update)

/-- `ACTUAL_FREQ`, an `u32` -/
def actualFreq : Cluster → Nat → Nat
  | .a15, freq => freq
  | .a7, freq => (freq <<< 1) % 2 ^ 32

/-- `ACTUAL_FREQ(cluster, freq) * 1000`, an `u32` -/
def requested (c : Cluster) (freq : Nat) : Nat := (actualFreq c freq * 1000) % 2 ^ 32

def hertz : Cluster → Nat → Nat
  | .a15, freq => 1000 * freq
  | .a7, freq => 2000 * freq

namespace SetRate

structure Call where
  old : Cluster
  new : Cluster
  rate : Nat
deriving DecidableEq

/-- `find_cluster_maxfreq` at the CPU `next`, whose request may have been read. -/
structure Scan where
  next : Nat := 0
  max : Nat := 0
  freq : Option Nat := none
deriving DecidableEq

/-- Where a CPU is in `bL_cpufreq_set_rate`; each place has what the call needs from there on. -/
inductive Pc
  | idle
  | lockNew (call : Call)
  | storeFreq (call : Call)
  | storeCluster (call : Call) (prev : Nat)
  | scanNew (call : Call) (prev : Nat) (scan : Scan)
  | setNew (call : Call) (prev max : Nat)
  | restoreFreq (call : Call) (prev : Nat)
  | restoreCluster (call : Call) (prev : Nat)
  | unlockFailed (call : Call)
  | unlockNew (call : Call)
  | lockOld (call : Call)
  | scanOld (call : Call) (scan : Scan)
  | setOld (call : Call) (max : Nat)
  | unlockOld (call : Call)
deriving DecidableEq

structure State (n : Nat) where
  lastReq : Fin n → Nat
  phys : Fin n → Cluster
  rate : Cluster → Nat
  lock : Cluster → Option (Fin n) := fun _ => none
  pc : Fin n → Pc := fun _ => .idle

variable {n : Nat} (s : State n)

namespace State

variable (s : State n) (c : Cluster) (k : Fin n)

def goto (pc : Pc) : State n := { s with pc := update s.pc k pc }

def acquire : State n := { s with lock := update s.lock c (some k) }

def release : State n := { s with lock := update s.lock c none }

/-- A read of `find_cluster_maxfreq`, or its end. -/
def scanStep (scan : Scan) : Scan ⊕ Nat :=
  if h : scan.next < n then
    match scan.freq with
    | none => .inl { scan with freq := some (s.lastReq ⟨scan.next, h⟩) }
    | some freq =>
      .inl ⟨scan.next + 1, if c = s.phys ⟨scan.next, h⟩ ∧ scan.max < freq then freq else scan.max, none⟩
  else .inr scan.max

/-- A successful `clk_set_rate` gives what it is asked for or more. -/
def setRate (max extra : Nat) : State n :=
  { s with rate := update s.rate c (requested c max + extra) }

/-- `bL_cpufreq_set_rate`. If a clock is set next, `outcome` says whether that succeeds. -/
def next (outcome : Option Nat) : State n :=
  match s.pc k with
  | .idle => s
  | .lockNew call => if s.lock call.new = none then (s.acquire call.new k).goto k (.storeFreq call) else s
  | .storeFreq call =>
    State.goto { s with lastReq := update s.lastReq k call.rate } k (.storeCluster call (s.lastReq k))
  | .storeCluster call prev =>
    State.goto { s with phys := update s.phys k call.new } k (.scanNew call prev {})
  | .scanNew call prev scan =>
    match s.scanStep call.new scan with
    | .inl scan => s.goto k (.scanNew call prev scan)
    | .inr max => s.goto k (.setNew call prev max)
  | .setNew call prev max =>
    match outcome with
    | none => s.goto k (.restoreFreq call prev)
    | some extra => (s.setRate call.new max extra).goto k (.unlockNew call)
  | .restoreFreq call prev =>
    State.goto { s with lastReq := update s.lastReq k prev } k (.restoreCluster call prev)
  | .restoreCluster call _ =>
    State.goto { s with phys := update s.phys k call.old } k (.unlockFailed call)
  | .unlockFailed call => (s.release call.new).goto k .idle
  | .unlockNew call => (s.release call.new).goto k (if call.old ≠ call.new then .lockOld call else .idle)
  | .lockOld call => if s.lock call.old = none then (s.acquire call.old k).goto k (.scanOld call {}) else s
  | .scanOld call scan =>
    match s.scanStep call.old scan with
    | .inl scan => s.goto k (.scanOld call scan)
    | .inr max => s.goto k (.setOld call max)
  | .setOld call max =>
    if actualFreq call.old max ≠ 0 then
      match outcome with
      | none => s.goto k (.unlockOld call)
      | some extra => (s.setRate call.old max extra).goto k (.unlockOld call)
    else s.goto k (.unlockOld call)
  | .unlockOld call => (s.release call.old).goto k .idle

end State

/-- A CPU whose last call is over makes one, from the cluster it is on; or a call gets on. -/
inductive Op (n : Nat)
  | call (k : Fin n) (new : Cluster) (rate : Nat)
  | next (k : Fin n) (outcome : Option Nat)
deriving DecidableEq

def step : Op n → State n
  | .call k new rate => if s.pc k = .idle then s.goto k (.lockNew ⟨s.phys k, new, rate⟩) else s
  | .next k outcome => s.next k outcome

/-- The clock of each cluster is fast enough for the largest request of its CPUs. -/
def State.Covered : Prop :=
  ∀ c, hertz c ((Finset.univ.filter fun k => s.phys k = c).sup s.lastReq) ≤ s.rate c

def State.Quiet : Prop := ∀ k, s.pc k = .idle

/-- The rate in Hz is an `u32` on both clusters. -/
def Fits (freq : Nat) : Prop := 2000 * freq < 2 ^ 32
  deriving Decidable

/-- A CPU goes back to its old cluster only while nobody has the mutex of that cluster and its clock is
still fast enough. -/
def Pc.Returns : Pc → Prop
  | .restoreCluster call prev => call.old ≠ call.new → s.lock call.old = none ∧ hertz call.old prev ≤ s.rate call.old
  | _ => True

instance decidableReturns (s : State n) (pc : Pc) : Decidable (pc.Returns s) := by
  cases pc <;> first | exact isTrue trivial | exact inferInstanceAs (Decidable (_ → _ ∧ _))

def Regular : Op n → Prop
  | .call _ _ rate => Fits rate
  | .next k _ => (s.pc k).Returns s

instance decidableRegular (s : State n) : ∀ op, Decidable (Regular s op)
  | .call _ _ rate => inferInstanceAs (Decidable (Fits rate))
  | .next k _ => inferInstanceAs (Decidable ((s.pc k).Returns s))

end SetRate

end BigLittle.Cpufreq
