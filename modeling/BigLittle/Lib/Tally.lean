import Mathlib.Algebra.BigOperators.Group.Finset.Piecewise
import Mathlib.Algebra.BigOperators.Group.Finset.Basic
import Mathlib.Data.Fintype.Basic
import Mathlib.Tactic.Abel

/-!
# Running totals

A ledger has members, each at home in one account, present or absent, and with
a value; and for each account a total that is adjusted as members come, go and
change their value. It is balanced when every total is the sum of the values of
the members present in that account.

`Adjusts` says that one member changed and the totals followed. It is the only
fact about an operation that is needed: it keeps a ledger balanced, it composes,
and it follows when an account takes the difference of what a member counts for.
-/

open Finset

namespace Tally

@[ext] structure Ledger (ι κ M : Type*) where
  home : ι → κ
  present : ι → Bool
  value : ι → M
  total : κ → M

namespace Ledger

variable {ι κ M : Type*} [DecidableEq κ] [AddCommGroup M]

/-- What member `i` counts for. -/
def counted (l : Ledger ι κ M) (i : ι) : M := if l.present i = true then l.value i else 0

/-- What member `i` contributes to the account `k`. -/
def share (l : Ledger ι κ M) (i : ι) (k : κ) : M := if l.home i = k then l.counted i else 0

def Balanced [Fintype ι] (l : Ledger ι κ M) : Prop :=
  ∀ k, l.total k = ∑ i with l.present i = true ∧ l.home i = k, l.value i

/-- Only member `i` changed, and every total changed by the change of its share. -/
structure Adjusts (i : ι) (l l' : Ledger ι κ M) : Prop where
  home : ∀ j, j ≠ i → l'.home j = l.home j
  present : ∀ j, j ≠ i → l'.present j = l.present j
  value : ∀ j, j ≠ i → l'.value j = l.value j
  total : ∀ k, l'.total k - l'.share i k = l.total k - l.share i k

lemma share_eq (l : Ledger ι κ M) (i : ι) (k : κ) :
    l.share i k = if l.present i = true ∧ l.home i = k then l.value i else 0 := by
  by_cases hpresent : l.present i = true
  · simp [share, counted, hpresent]
  · simp [share, counted, hpresent]

lemma balanced_iff [Fintype ι] (l : Ledger ι κ M) : l.Balanced ↔ ∀ k, l.total k = ∑ i, l.share i k := by
  simp only [Balanced, share_eq, Finset.sum_filter]

namespace Adjusts

variable {i : ι} {l l' l'' : Ledger ι κ M}

lemma trans (h : Adjusts i l l') (h' : Adjusts i l' l'') : Adjusts i l l'' := by
  refine ⟨?_, ?_, ?_, ?_⟩
  · intro j hj
    rw [h'.home j hj, h.home j hj]
  · intro j hj
    rw [h'.present j hj, h.present j hj]
  · intro j hj
    rw [h'.value j hj, h.value j hj]
  · intro k
    rw [h'.total k, h.total k]

lemma share_of_ne (h : Adjusts i l l') {j : ι} (hj : j ≠ i) (k : κ) : l'.share j k = l.share j k := by
  rw [share, share, counted, counted, h.home j hj, h.present j hj, h.value j hj]

lemma balanced [Fintype ι] [DecidableEq ι] (h : Adjusts i l l') (hl : l.Balanced) : l'.Balanced := by
  rw [balanced_iff] at hl ⊢
  intro k
  have hrest : ∑ j ∈ univ.erase i, l'.share j k = ∑ j ∈ univ.erase i, l.share j k :=
    Finset.sum_congr rfl fun j hj => h.share_of_ne (Finset.ne_of_mem_erase hj) k
  have hold := Finset.add_sum_erase univ (fun j => l.share j k) (mem_univ i)
  have hnew := Finset.add_sum_erase univ (fun j => l'.share j k) (mem_univ i)
  rw [← hnew, hrest, ← sub_eq_iff_eq_add', h.total k, hl k, ← hold]
  abel

end Adjusts

section Rules

variable {i : ι} {l l' : Ledger ι κ M} (home : ∀ j, j ≠ i → l'.home j = l.home j)
variable (present : ∀ j, j ≠ i → l'.present j = l.present j) (value : ∀ j, j ≠ i → l'.value j = l.value j)

include home present value

/-- An absent member may move or change its value, as long as it stays absent. -/
lemma adjusts_of_absent (habsent : l.present i = false) (habsent' : l'.present i = false)
    (htotal : ∀ k, l'.total k = l.total k) : Adjusts i l l' := by
  refine ⟨home, present, value, fun k => ?_⟩
  rw [share, share, counted, counted, habsent, habsent', htotal k]
  simp

/-- A member comes, goes or changes its value, and the total of its account
takes the difference. -/
lemma adjusts_of_difference (hhome : l'.home i = l.home i) (htotal : ∀ k, l'.total k =
      l.total k + if l.home i = k then l'.counted i - l.counted i else 0) : Adjusts i l l' := by
  refine ⟨home, present, value, fun k => ?_⟩
  rw [share, share, hhome, htotal k]
  split
  · abel
  · abel

end Rules

end Ledger

end Tally
