import Mathlib.Algebra.BigOperators.Group.List.Basic
import Mathlib.Algebra.GroupWithZero.Nat
import Mathlib.Data.List.Nodup

/-!
# Paying claims in order

An amount is paid out to claimants in the order of a list: each gets what it
needs or, if there is less, all that is left.

The rules say what a claimant gets in terms of what those before it got, and that
nothing is created or lost.
-/

namespace Waterfall

open List

variable {ι : Type*}

/-- What is left of the amount when all have been paid. -/
def left (need : ι → Nat) : List ι → Nat → Nat
  | [], amount => amount
  | i :: rest, amount => left need rest (amount - min (need i) amount)

variable {need : ι → Nat} {i j : ι} {l before after : List ι} {amount : Nat}

lemma left_le (need : ι → Nat) (l : List ι) (amount : Nat) : left need l amount ≤ amount := by
  induction l generalizing amount with
  | nil => exact Nat.le_refl amount
  | cons i rest ih => exact Nat.le_trans (ih _) (Nat.sub_le _ _)

lemma left_zero (need : ι → Nat) (l : List ι) : left need l 0 = 0 :=
  Nat.le_zero.mp (left_le need l 0)

lemma left_congr {need' : ι → Nat} (h : ∀ i ∈ l, need i = need' i) : left need l amount = left need' l amount := by
  induction l generalizing amount with
  | nil => rfl
  | cons i rest ih =>
    rw [forall_mem_cons] at h
    rw [left, left, h.1, ih h.2]

variable [DecidableEq ι]

/-- What each claimant gets. -/
def paid (need : ι → Nat) : List ι → Nat → ι → Nat
  | [], _, _ => 0
  | i :: rest, amount, j =>
    if j = i then min (need i) amount else paid need rest (amount - min (need i) amount) j

@[simp] lemma paid_cons_self (need : ι → Nat) (i : ι) (rest : List ι) (amount : Nat) :
    paid need (i :: rest) amount i = min (need i) amount := if_pos rfl

lemma paid_cons_of_ne (h : j ≠ i) (rest : List ι) :
    paid need (i :: rest) amount j = paid need rest (amount - min (need i) amount) j := if_neg h

lemma paid_of_not_mem (h : i ∉ l) : paid need l amount i = 0 := by
  induction l generalizing amount with
  | nil => rfl
  | cons j rest ih =>
    rw [mem_cons, not_or] at h
    rw [paid_cons_of_ne h.1, ih h.2]

/-- With nothing to pay out nobody is paid. -/
lemma paid_zero (need : ι → Nat) (l : List ι) (i : ι) : paid need l 0 i = 0 := by
  induction l with
  | nil => rfl
  | cons j rest ih =>
    by_cases h : i = j
    · rw [h, paid_cons_self, Nat.min_zero]
    · rw [paid_cons_of_ne h, Nat.zero_sub, ih]

/-- Only the needs of those on the list matter. -/
lemma paid_congr {need' : ι → Nat} (h : ∀ i ∈ l, need i = need' i) : paid need l amount = paid need' l amount := by
  induction l generalizing amount with
  | nil => rfl
  | cons i rest ih =>
    rw [forall_mem_cons] at h
    funext j
    rw [paid, paid, h.1, ih h.2]

lemma map_paid_cons (h : i ∉ l) : l.map (paid need (i :: after) amount) =
    l.map (paid need after (amount - min (need i) amount)) := by
  apply map_congr_left
  intro j hj
  have hne : j ≠ i := by
    rintro rfl
    exact h hj
  exact paid_cons_of_ne hne after

/-- Nothing is created or lost. -/
lemma sum_paid_add_left (need : ι → Nat) (amount : Nat) (hl : l.Nodup) :
    (l.map (paid need l amount)).sum + left need l amount = amount := by
  induction l generalizing amount with
  | nil => exact Nat.zero_add _
  | cons i rest ih =>
    rw [nodup_cons] at hl
    have hrest := ih (amount - min (need i) amount) hl.2
    rw [map_cons, sum_cons, paid_cons_self, map_paid_cons hl.1, left]
    omega

/-- A claimant gets the smaller of its need and what those before it left. -/
lemma paid_append (need : ι → Nat) (amount : Nat) (hl : (before ++ i :: after).Nodup) :
    paid need (before ++ i :: after) amount i =
    min (need i) (amount - (before.map (paid need (before ++ i :: after) amount)).sum) := by
  induction before generalizing amount with
  | nil => simp
  | cons j rest ih =>
    rw [cons_append, nodup_cons] at hl
    have hne : i ≠ j := by
      rintro rfl
      exact hl.1 (by simp)
    have hj : j ∉ rest := fun hmem => hl.1 (mem_append_left _ hmem)
    rw [cons_append, paid_cons_of_ne hne, ih _ hl.2, map_cons, sum_cons,
      paid_cons_self, map_paid_cons hj, Nat.sub_sub]

end Waterfall
