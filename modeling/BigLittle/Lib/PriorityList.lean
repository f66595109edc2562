import Mathlib.Data.List.Nodup

/-!
# Lists in priority order

Elements are kept in the order of a number, the smallest first; among equal ones the
older comes first. A list with a bound for its numbers has a first number, which is
the bound when the list is empty.
-/

namespace PriorityList

open List

variable {α : Type*} (prio : α → Nat)

/-- Insert behind all elements whose number is not larger. -/
def insert (a : α) : List α → List α
  | [] => [a]
  | b :: rest => if prio a < prio b then a :: b :: rest else b :: insert a rest

def Sorted (l : List α) : Prop := l.Pairwise fun a b => prio a ≤ prio b

def first (bound : Nat) : List α → Nat
  | [] => bound
  | a :: _ => prio a

variable {prio} {prio' : α → Nat} {a : α} {l : List α} {bound : Nat}

lemma insert_perm (prio : α → Nat) (a : α) (l : List α) : (insert prio a l).Perm (a :: l) := by
  induction l with
  | nil => exact List.Perm.refl _
  | cons b rest ih =>
    rw [insert]
    split
    · exact List.Perm.refl _
    · exact (ih.cons b).trans (List.Perm.swap a b rest)

@[simp] lemma mem_insert {b : α} : b ∈ insert prio a l ↔ b = a ∨ b ∈ l := by
  rw [(insert_perm prio a l).mem_iff, mem_cons]

lemma nodup_insert (h : l.Nodup) (ha : a ∉ l) : (insert prio a l).Nodup := by
  rw [(insert_perm prio a l).nodup_iff]
  exact nodup_cons.mpr ⟨ha, h⟩

lemma Sorted.insert (h : Sorted prio l) : Sorted prio (insert prio a l) := by
  induction l with
  | nil => exact pairwise_singleton _ _
  | cons b rest ih =>
    obtain ⟨hb, hrest⟩ := pairwise_cons.mp h
    rw [PriorityList.insert]
    split
    next hlt =>
      refine pairwise_cons.mpr ⟨fun c hc => ?_, h⟩
      rcases mem_cons.mp hc with rfl | hmem
      · exact Nat.le_of_lt hlt
      · exact Nat.le_trans (Nat.le_of_lt hlt) (hb c hmem)
    next hge =>
      refine pairwise_cons.mpr ⟨fun c hc => ?_, ih hrest⟩
      rcases mem_insert.mp hc with rfl | hmem
      · exact Nat.not_lt.mp hge
      · exact hb c hmem

lemma Sorted.erase [DecidableEq α] (h : Sorted prio l) (a : α) : Sorted prio (l.erase a) :=
  h.sublist erase_sublist

/-- The first number after an insertion is the smaller of the two. -/
lemma first_insert (ha : prio a < bound) : first prio bound (insert prio a l) = if prio a <
    first prio bound l then prio a else first prio bound l := by
  cases l with
  | nil => exact (if_pos ha).symm
  | cons b rest =>
    change first prio bound (if prio a < prio b then a :: b :: rest else b :: insert prio a rest) =
      if prio a < prio b then prio a else prio b
    split <;> rfl

/-- So it is when an element is taken out and inserted again. -/
lemma first_insert_erase [DecidableEq α] (h : Sorted prio l) (ha : prio a < bound) :
    first prio bound (insert prio a (l.erase a)) = if prio a <
    first prio bound l then prio a else first prio bound l := by
  rw [first_insert ha]
  cases l with
  | nil => rfl
  | cons b rest =>
    by_cases hb : b = a
    · subst hb
      rw [erase_cons_head]
      have hfirst : prio b ≤ first prio bound rest := by
        cases rest with
        | nil => exact Nat.le_of_lt ha
        | cons c _ => exact (pairwise_cons.mp h).1 c mem_cons_self
      have hself : (if prio b < first prio bound (b :: rest) then prio b else
          first prio bound (b :: rest)) = prio b := if_neg (Nat.lt_irrefl _)
      rw [hself]
      split
      · rfl
      · omega
    · rw [erase_cons_tail (by simpa using hb)]
      rfl

/-- Numbers of elements that are not on the list do not matter. -/
lemma Sorted.congr (h : Sorted prio l) (heq : ∀ b ∈ l, prio' b = prio b) : Sorted prio' l := by
  refine List.Pairwise.imp_of_mem ?_ h
  intro b c hb hc hle
  rwa [heq b hb, heq c hc]

lemma first_congr (heq : ∀ b ∈ l, prio' b = prio b) : first prio' bound l = first prio bound l := by
  cases l with
  | nil => rfl
  | cons b rest => exact heq b mem_cons_self

end PriorityList
