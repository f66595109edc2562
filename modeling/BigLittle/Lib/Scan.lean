import Mathlib.Data.List.MinMax
import Mathlib.Data.List.Sort
import Mathlib.Data.Prod.Lex

/-!
# Scanning for the least weight

A scan keeps the best element seen so far with its weight. A lighter element replaces it; of two
elements of the same weight the earlier one stays, unless the later one is the preferred element.
The scan starts from a seed, which need not be among the elements scanned: what it finds is the
`argmin` over the seed and the elements, with the weight ordered before the preference.
-/

namespace Scan

open List

variable {α β : Type*} [DecidableEq α] [LinearOrder β] (w : α → β) (preferred : Option α)

/-- One step of the scan. -/
def pick (best : α × β) (a : α) : α × β :=
  if w a < best.2 then (a, w a)
  else if w a = best.2 ∧ preferred = some a then (a, best.2)
  else best

/-- What the scan of `l` finds from `seed`. -/
def least (seed : α) (l : List α) : α :=
  (l.foldl (pick w preferred) (seed, w seed)).1

/-- The order of the scan: the weight first, and the preferred element before others. -/
def key (a : α) : β ×ₗ Bool := toLex (w a, decide (preferred ≠ some a))

/-- An element of `l` of least weight: the preferred one if it has that weight, and the first one
otherwise. -/
structure Finds (w : α → β) (preferred : Option α) (l : List α) (m : α) : Prop where
  mem : m ∈ l
  le : ∀ a ∈ l, w m ≤ w a
  tie : ∀ a ∈ l, preferred = some a → w a ≤ w m → m = a
  first : preferred ≠ some m → ∀ a ∈ l, w a ≤ w m → l.idxOf m ≤ l.idxOf a

variable {w : α → β} {preferred : Option α} {l : List α} {a b m seed : α}

lemma key_lt_iff : key w preferred a < key w preferred b ↔ w a < w b ∨ w a = w b ∧ preferred = some a ∧
    preferred ≠ some b := by
  rw [key, key, Prod.Lex.toLex_lt_toLex, Bool.lt_iff]
  simp

/-- A step compares the keys; the weight stays that of the best element. -/
lemma pick_eq : pick w preferred (b, w b) a = if key w preferred a < key w preferred b then (a, w a) else (b, w b) := by
  rw [pick]
  split_ifs with hlight hkey htie hkey hkey
  · rfl
  · exact absurd (key_lt_iff.mpr (.inl hlight)) hkey
  · rw [htie.1]
  · -- both are preferred, so they are one element
    have hb : preferred = some b := by
      by_contra hne
      exact hkey (key_lt_iff.mpr (.inr ⟨htie.1, htie.2, hne⟩))
    rw [Option.some.inj (htie.2.symm.trans hb)]
  · obtain hlt | ⟨heq, hpreferred, -⟩ := key_lt_iff.mp hkey
    · exact absurd hlt hlight
    · exact absurd ⟨heq, hpreferred⟩ htie
  · rfl

lemma least_mem_argmin (seed : α) (l : List α) : least w preferred seed l ∈ (seed :: l).argmin (key w preferred) := by
  induction l generalizing seed with
  | nil => exact rfl
  | cons a rest ih =>
    have hstep : least w preferred seed (a :: rest) =
        least w preferred (if key w preferred a < key w preferred seed then a else seed) rest := by
      rw [least, foldl_cons, pick_eq]
      split_ifs <;> rfl
    have hargmin : (seed :: a :: rest).argmin (key w preferred) =
        ((if key w preferred a < key w preferred seed then a else seed) :: rest).argmin (key w preferred) := by
      simp only [argmin, foldl_cons, argAux]
      split_ifs <;> rfl
    rw [hstep, hargmin]
    exact ih _

lemma finds_of_mem_argmin (h : m ∈ l.argmin (key w preferred)) : Finds w preferred l m := by
  obtain ⟨hmem, hle, hfirst⟩ := mem_argmin_iff.mp h
  have hweight : ∀ a ∈ l, w m ≤ w a := by
    intro a ha
    by_contra hlt
    exact not_lt_of_ge (hle a ha) (key_lt_iff.mpr (.inl (lt_of_not_ge hlt)))
  have hpreferred : ∀ a ∈ l, preferred = some a → w a ≤ w m → m = a := by
    intro a ha hpref hlight
    by_contra hne
    apply not_lt_of_ge (hle a ha)
    refine key_lt_iff.mpr (.inr ⟨le_antisymm hlight (hweight a ha), hpref, ?_⟩)
    rw [hpref]
    exact fun heq => hne (Option.some.inj heq).symm
  refine ⟨hmem, hweight, hpreferred, ?_⟩
  intro hnot a ha hlight
  apply hfirst a ha
  apply le_of_not_gt
  rw [key_lt_iff]
  rintro (hlt | ⟨-, hm, -⟩)
  · exact not_lt_of_ge hlight hlt
  · exact hnot hm

/-- The scan finds the least weight of the seed and the elements. -/
lemma least_finds (seed : α) (l : List α) : Finds w preferred (seed :: l) (least w preferred seed l) :=
  finds_of_mem_argmin (least_mem_argmin seed l)

/-- A scan that comes across its seed at once does not notice. -/
lemma least_cons_self (seed : α) (l : List α) : least w preferred seed (seed :: l) = least w preferred seed l := by
  rw [least, foldl_cons, pick_eq, if_neg (lt_irrefl _), least]

/-- The scan leaves a seed that is not among the elements exactly if a lighter one is, or the preferred
one with the same weight. -/
lemma least_mem_iff : least w preferred seed l ∈ l ↔ seed ∈ l ∨ ∃ a ∈ l, w a < w seed ∨ w a = w seed ∧
    preferred = some a := by
  have hfinds : Finds w preferred (seed :: l) (least w preferred seed l) := least_finds seed l
  generalize least w preferred seed l = m at hfinds
  constructor
  · intro hm
    by_cases hseed : m = seed
    · exact .inl (hseed ▸ hm)
    · refine .inr ⟨m, hm, (hfinds.le seed mem_cons_self).lt_or_eq.imp_right fun heq => ⟨heq, ?_⟩⟩
      by_contra hnot
      have hidx := hfinds.first hnot seed mem_cons_self heq.ge
      rw [idxOf_cons_self, idxOf_cons_ne _ (Ne.symm hseed)] at hidx
      exact Nat.not_succ_le_zero _ hidx
  · intro h
    obtain rfl | hm := mem_cons.mp hfinds.mem
    · obtain hseed | ⟨a, ha, hlt | ⟨heq, hpreferred⟩⟩ := h
      · exact hseed
      · exact absurd (hfinds.le a (mem_cons_of_mem _ ha)) (not_le_of_gt hlt)
      · rwa [hfinds.tie a (mem_cons_of_mem _ ha) hpreferred heq.le]
    · exact hm

/-- A scan of the elements that meet a condition, from a seed that need not meet it: it finds the best
of those that do, if there are any, exactly if the seed meets the condition or is beaten. -/
lemma least_filter_iff {P : α → Prop} [DecidablePred P] :
    ((∃ a ∈ seed :: l, P a) → P (least w none seed (l.filter P)) ∧ least w none seed (l.filter P) ∈ seed :: l ∧
        ∀ a ∈ seed :: l, P a → w (least w none seed (l.filter P)) ≤ w a) ↔
      (∀ a ∈ seed :: l, ¬ P a) ∨ P seed ∨ ∃ a ∈ l, P a ∧ w a < w seed := by
  have hfinds : Finds w none (seed :: l.filter P) (least w none seed (l.filter P)) := least_finds seed _
  have hscanned : ∀ a ∈ seed :: l, P a → a ∈ seed :: l.filter P := by
    intro a ha hP
    exact (mem_cons.mp ha).elim (fun h => h ▸ mem_cons_self) fun h =>
      mem_cons_of_mem _ (mem_filter.mpr ⟨h, decide_eq_true hP⟩)
  have hleft : least w none seed (l.filter P) ∈ l.filter P ↔ seed ∈ l.filter P ∨
      ∃ a ∈ l.filter P, w a < w seed ∨ w a = w seed ∧ none = some a := least_mem_iff
  generalize least w none seed (l.filter P) = m at hfinds hleft
  have hmem : m ∈ seed :: l := cons_subset_cons _ (filter_subset_self l) hfinds.mem
  constructor
  · intro h
    by_contra hnot
    obtain ⟨hsome, hseed, hbeaten⟩ := not_or.mp hnot |>.imp_right not_or.mp
    obtain ⟨a, ha, hP⟩ : ∃ a ∈ seed :: l, P a := by
      by_contra hnone
      exact hsome fun a ha hP => hnone ⟨a, ha, hP⟩
    have hm : P m := (h ⟨a, ha, hP⟩).1
    have hmfilter : m ∈ l.filter P :=
      (mem_cons.mp hfinds.mem).resolve_left fun heq => hseed (heq ▸ hm)
    obtain hin | ⟨b, hb, hlt | ⟨-, ⟨⟩⟩⟩ := hleft.mp hmfilter
    · exact hseed (of_decide_eq_true (mem_filter.mp hin).2)
    · exact hbeaten ⟨b, (mem_filter.mp hb).1, of_decide_eq_true (mem_filter.mp hb).2, hlt⟩
  · rintro h ⟨a, ha, hP⟩
    refine ⟨?_, hmem, fun b hb hPb => hfinds.le b (hscanned b hb hPb)⟩
    obtain hnone | hseed | ⟨b, hb, hPb, hlt⟩ := h
    · exact absurd hP (hnone a ha)
    · exact (mem_cons.mp hfinds.mem).elim (fun heq => heq ▸ hseed) fun hm =>
        of_decide_eq_true (mem_filter.mp hm).2
    · have hm := hleft.mpr (.inr ⟨b, mem_filter.mpr ⟨hb, decide_eq_true hPb⟩, .inl hlt⟩)
      exact of_decide_eq_true (mem_filter.mp hm).2

/-- In an ascending list the first element is the least one. -/
lemma Finds.lowest [LinearOrder α] (h : Finds w preferred l m) (sorted : l.SortedLE)
    (hnot : preferred ≠ some m) (ha : a ∈ l) (hlight : w a ≤ w m) : m ≤ a := by
  have hidx := h.first hnot a ha hlight
  have hget := sorted.monotone_get (show (⟨l.idxOf m, idxOf_lt_length_of_mem h.mem⟩ : Fin l.length) ≤
      ⟨l.idxOf a, idxOf_lt_length_of_mem ha⟩ from hidx)
  simpa using hget

end Scan
