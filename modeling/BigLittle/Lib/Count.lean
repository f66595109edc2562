import Mathlib.Data.Fintype.Card
import Mathlib.Data.List.Nodup

/-!
# Counts that change at one element

What is counted is a list without duplicates or a finite type. A step that changes the
predicate at one element only changes the count by one, or not at all.
-/

namespace Count

open scoped Finset

/-- A list without duplicates counts one more when a predicate comes to hold of one
more of its elements. -/
lemma countP_of_one_more {α : Type*} {l : List α} (hl : l.Nodup) {f f' : α → Bool} {x : α} (hmem : x ∈ l)
    (hx : f x = false) (hx' : f' x = true) (hne : ∀ a, a ≠ x → f' a = f a) : l.countP f' = l.countP f + 1 := by
  induction l with
  | nil => cases hmem
  | cons a rest ih =>
    obtain ⟨hnot, hrest⟩ := List.nodup_cons.mp hl
    rw [List.countP_cons, List.countP_cons]
    obtain rfl | hmem := List.mem_cons.mp hmem
    · have hsame : rest.countP f' = rest.countP f :=
        List.countP_congr fun b hb => by rw [hne b fun h => hnot (h ▸ hb)]
      rw [hsame, hx, hx']
      rfl
    · rw [ih hrest hmem, hne a fun h => hnot (h ▸ hmem)]
      exact Nat.add_right_comm _ _ _

/-- A finite type counts one less when a predicate ceases to hold of one element. -/
lemma card_of_one_less {α : Type*} [Fintype α] [DecidableEq α] {P P' : α → Prop} [DecidablePred P] [DecidablePred P']
    {x : α} (hx : P x) (hx' : ¬P' x) (hne : ∀ a, a ≠ x → (P' a ↔ P a)) : #{a | P a} = #{a | P' a} + 1 := by
  have herase : ({a | P' a} : Finset α) = ({a | P a} : Finset α).erase x := by
    ext a
    by_cases ha : a = x
    · simp [ha, hx']
    · simp [ha, hne a ha]
  rw [herase, Finset.card_erase_add_one]
  simpa using hx

end Count
