import Mathlib.Logic.Function.Basic
import BigLittle.Lib.Run

/-!
# Lock discipline of a trace

A thread's trace takes and gives back locks between its other actions. The state
is the set of locks the thread holds. A trace is `Restoring` if it never takes a
lock it holds, never gives back one it does not hold, and ends holding what it
held at the start; so each acquisition has its one release. Sections may overlap
without one being inside the other.

Sequences, loops and critical sections of restoring traces are restoring.
-/

namespace Lock

open List

inductive Event (L A : Type*) where
  | acquire (l : L)
  | release (l : L)
  | act (a : A)
deriving DecidableEq

variable {L A : Type*} [DecidableEq L]

def step (held : L → Bool) : Event L A → L → Bool
  | .acquire l => Function.update held l true
  | .release l => Function.update held l false
  | .act _ => held

/-- A spin lock is only taken while free and only given back while held. -/
def Legal (held : L → Bool) : Event L A → Prop
  | .acquire l => held l = false
  | .release l => held l = true
  | .act _ => True

instance (held : L → Bool) : ∀ e : Event L A, Decidable (Legal held e)
  | .acquire _ => inferInstanceAs (Decidable (_ = _))
  | .release _ => inferInstanceAs (Decidable (_ = _))
  | .act _ => isTrue trivial

structure Restoring (held : L → Bool) (trace : List (Event L A)) : Prop where
  legal : Run.Each step Legal held trace
  restored : trace.foldl step held = held

/-- The lock `l` is held before the trace and after each of its events. -/
def Throughout (l : L) (held : L → Bool) (trace : List (Event L A)) : Prop :=
  Run.Always step (fun held => held l = true) held trace

variable {held : L → Bool} {l : L} {first second trace : List (Event L A)}

namespace Restoring

lemma nil : Restoring held ([] : List (Event L A)) := ⟨trivial, rfl⟩

lemma act (a : A) : Restoring held ([.act a] : List (Event L A)) := ⟨⟨trivial, trivial⟩, rfl⟩

lemma append (h₁ : Restoring held first) (h₂ : Restoring held second) : Restoring held (first ++ second) := by
  constructor
  · rw [Run.each_append, h₁.restored]
    exact ⟨h₁.legal, h₂.legal⟩
  · rw [foldl_append, h₁.restored, h₂.restored]

lemma cons_act (a : A) (h : Restoring held trace) : Restoring held (.act a :: trace) :=
  (act a).append h

lemma flatMap {α : Type*} {f : α → List (Event L A)} {xs : List α}
    (h : ∀ x ∈ xs, Restoring held (f x)) : Restoring held (xs.flatMap f) := by
  induction xs with
  | nil => exact nil
  | cons x rest ih =>
    rw [flatMap_cons]
    exact (h x mem_cons_self).append (ih fun y hy => h y (mem_cons_of_mem x hy))

/-- A critical section around a restoring body. -/
lemma critical (free : held l = false) (body : Restoring (Function.update held l true) trace) :
    Restoring held (.acquire l :: (trace ++ [.release l])) := by
  constructor
  · refine ⟨free, Run.each_append.mpr ⟨body.legal, ?_, trivial⟩⟩
    rw [step, body.restored]
    exact Function.update_self l true held
  · rw [foldl_cons, foldl_append, step, body.restored]
    exact (Function.update_idem ..).trans (Function.update_eq_self_iff.mpr free.symm)

end Restoring

/-- A lock that the trace does not give back stays held. -/
lemma throughout_of_notMem (start : held l = true) (keeps : .release l ∉ trace) : Throughout l held trace := by
  induction trace generalizing held with
  | nil => exact start
  | cons e rest ih =>
    refine ⟨start, ih ?_ fun h => keeps (mem_cons_of_mem e h)⟩
    cases e with
    | acquire l' =>
      rw [step, Function.update_apply]
      split
      · rfl
      · exact start
    | release l' =>
      have hne : l ≠ l' := fun h => keeps (h ▸ mem_cons_self)
      exact (Function.update_of_ne hne false held).trans start
    | act a => exact start

end Lock
