import Mathlib.Algebra.BigOperators.Fin
import Mathlib.Algebra.Order.BigOperators.Group.Finset
import Mathlib.Data.List.FinRange
import BigLittle.Lib.Run

/-!
# The priorities of all CPUs, and a search without a lock

Every CPU is in one class, by the highest priority it runs. A class has a mask of its CPUs
and their number. A CPU that changes its class enters the new one before it leaves the old
one, and in each class the mask is written before the count on entry and after it on exit.
A search goes through the classes upwards, and reads the count and then the mask of each,
while CPUs change their classes.

A step is one access to shared memory. Masks are read CPU by CPU, which includes reads of
a word at a time. `none` is the class of a CPU that takes no part.
-/

namespace BigLittle.Cpupri

open Function (update)
open scoped Finset

def convertPrio (prio : Int) : Option Nat :=
  if prio = -1 then none
  else if prio = 140 then some 0
  else if 100 ≤ prio then some 1
  else some (100 - prio + 1).toNat

inductive SetPc where
  | setMask
  | incCount
  | decCount
  | clearMask
  | store
deriving DecidableEq

structure Setting where
  oldpri : Option Nat
  newpri : Option Nat
  pc : SetPc

/-- What `cpupri_find` is called with: the task's `cpus_allowed` and `prio`, and whether
there is a mask to fill in. -/
structure Query (n : Nat) where
  cpusAllowed : Fin n → Bool
  prio : Int
  lowestMask : Bool

/-- Where the call of `cpupri_find` is: at the head of the loop, in `cpumask_any_and` or
in `cpumask_and` with the CPUs left to read, or done with its result. -/
inductive Scan (n : Nat) where
  | idle
  | head (idx : Nat)
  | anyAnd (idx : Nat) (left : List (Fin n))
  | copy (idx : Nat) (left lowest : List (Fin n))
  | done (found : Bool) (lowest : List (Fin n))
deriving DecidableEq

structure State (n : Nat) where
  count : Nat → Int := fun _ => 0
  mask : Nat → Fin n → Bool := fun _ _ => false
  cpuToPri : Fin n → Option Nat := fun _ => none
  setting : Fin n → Option Setting := fun _ => none
  scan : Scan n := .idle
  /-- what `cpupri_set` was last called with; nothing reads it -/
  lastPrio : Fin n → Int := fun _ => -1

variable {n : Nat} (q : Query n)

/-- The class below which the search goes. -/
def Query.taskPri : Nat := (convertPrio q.prio).getD 0

/-- The next access of `cpupri_find`. -/
def Scan.next (count : Nat → Int) (mask : Nat → Fin n → Bool) : Scan n → Scan n
  | .idle => .idle
  | .head idx =>
    if idx < q.taskPri then
      if count idx = 0 then .head (idx + 1) else .anyAnd idx (List.finRange n)
    else .done false []
  | .anyAnd idx [] => .head (idx + 1)
  | .anyAnd idx (cpu :: left) =>
    if q.cpusAllowed cpu && mask idx cpu then
      if q.lowestMask then .copy idx (List.finRange n) [] else .done true []
    else .anyAnd idx left
  | .copy idx [] lowest => if lowest = [] then .head (idx + 1) else .done true lowest
  | .copy idx (cpu :: left) lowest =>
    .copy idx left (if q.cpusAllowed cpu && mask idx cpu then cpu :: lowest else lowest)
  | .done found lowest => .done found lowest

namespace State

variable (s : State n) (cpu : Fin n)

def setMask (k : Option Nat) (cpu : Fin n) (b : Bool) : State n :=
  match k with
  | none => s
  | some k => { s with mask := update s.mask k (update (s.mask k) cpu b) }

def addCount (k : Option Nat) (d : Int) : State n :=
  match k with
  | none => s
  | some k => { s with count := update s.count k (s.count k + d) }

def setSetting (c : Option Setting) : State n :=
  { s with setting := update s.setting cpu c }

/-- `cpupri_set` up to its first access to a class. -/
def startSet (prio : Int) : State n :=
  let newpri := convertPrio prio
  let oldpri := s.cpuToPri cpu
  let s := { s with lastPrio := update s.lastPrio cpu prio }
  if newpri = oldpri then s
  else s.setSetting cpu (some ⟨oldpri, newpri, if newpri ≠ none then .setMask else .decCount⟩)

/-- The next access of `cpupri_set`. -/
def set : State n :=
  match s.setting cpu with
  | none => s
  | some c =>
    match c.pc with
    | .setMask => (s.setMask c.newpri cpu true).setSetting cpu (some { c with pc := .incCount })
    | .incCount =>
      (s.addCount c.newpri 1).setSetting cpu (some { c with pc := if c.oldpri ≠ none then .decCount else .store })
    | .decCount => (s.addCount c.oldpri (-1)).setSetting cpu (some { c with pc := .clearMask })
    | .clearMask => (s.setMask c.oldpri cpu false).setSetting cpu (some { c with pc := .store })
    | .store => { s with cpuToPri := update s.cpuToPri cpu c.newpri }.setSetting cpu none

end State

inductive Op (n : Nat) where
  | startSet (cpu : Fin n) (prio : Int)
  | set (cpu : Fin n)
  | startFind
  | find
deriving DecidableEq

def State.step (s : State n) : Op n → State n
  | .startSet cpu prio => s.startSet cpu prio
  | .set cpu => s.set cpu
  | .startFind => { s with scan := .head 0 }
  | .find => { s with scan := s.scan.next q s.count s.mask }

/-- Calls for one CPU are made under the lock of its run queue, with a priority; there is
one search. -/
def Op.Allowed (s : State n) : Op n → Prop
  | .startSet cpu prio => (s.setting cpu).isNone = true ∧ -1 ≤ prio ∧ prio ≤ 140
  | .startFind => s.scan = .idle
  | .set _ => True
  | .find => True

instance Op.decidableAllowed (s : State n) (op : Op n) : Decidable (op.Allowed s) := by
  cases op <;> dsimp only [Op.Allowed] <;> infer_instance

end BigLittle.Cpupri
