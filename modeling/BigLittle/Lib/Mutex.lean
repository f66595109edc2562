import Mathlib.Logic.Function.Basic

/-!
# Mutexes and their holders

Each thread holds at most one of the mutexes. The owner that a mutex records and the mutex that a
thread holds by its place in the code agree; taking, giving back and doing something else keep it
so, and two threads do not hold one mutex.
-/

namespace Mutex

open Function (update update_of_ne update_self)

variable {L ι : Type*}

/-- The owners of the mutexes and the mutexes of the threads are two views of one relation. -/
def Agree (owner : L → Option ι) (holds : ι → Option L) : Prop := ∀ l i, owner l = some i ↔ holds i = some l

variable {owner : L → Option ι} {holds : ι → Option L} {l : L} {i j : ι}

lemma Agree.unique (h : Agree owner holds) (hi : holds i = some l) (hj : holds j = some l) : i = j :=
  Option.some.inj (((h l i).mpr hi).symm.trans ((h l j).mpr hj))

variable [DecidableEq L] [DecidableEq ι]

lemma Agree.acquire (h : Agree owner holds) (hfree : owner l = none) (hnone : holds i = none) :
    Agree (update owner l (some i)) (update holds i (some l)) := by
  intro l' j
  by_cases hl : l' = l
  · subst hl
    rw [update_self]
    by_cases hj : j = i
    · subst hj
      rw [update_self]
      exact iff_of_true rfl rfl
    · rw [update_of_ne hj, ← h l' j, hfree]
      exact iff_of_false (fun heq => hj (Option.some.inj heq).symm) nofun
  · rw [update_of_ne hl]
    by_cases hj : j = i
    · subst hj
      rw [update_self, h l' j, hnone]
      exact iff_of_false nofun fun heq => hl (Option.some.inj heq).symm
    · rw [update_of_ne hj]
      exact h l' j

lemma Agree.release (h : Agree owner holds) (hheld : holds i = some l) :
    Agree (update owner l none) (update holds i none) := by
  intro l' j
  by_cases hj : j = i
  · subst hj
    rw [update_self]
    refine iff_of_false (fun heq => ?_) nofun
    by_cases hl : l' = l
    · subst hl
      rw [update_self] at heq
      exact nomatch heq
    · rw [update_of_ne hl, h l' j, hheld] at heq
      exact hl (Option.some.inj heq).symm
  · rw [update_of_ne hj]
    by_cases hl : l' = l
    · subst hl
      rw [update_self]
      exact iff_of_false nofun fun heq => hj (h.unique heq hheld)
    · rw [update_of_ne hl]
      exact h l' j

end Mutex
