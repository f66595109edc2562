import Mathlib.Data.Finset.Card
import Mathlib.Data.Finset.Image
import Mathlib.Data.Fintype.Basic
import Mathlib.Data.List.FinRange
import BigLittle.Lib.Run

/-!
# Pairing the CPUs of two clusters

The switcher keeps some of the online CPUs and takes the others offline. Each CPU of the
cluster of the first online CPU is paired with the last CPU of the other cluster that is still
available, and what has no partner of its own goes offline, the partners included.

The masks are finite sets of logical CPUs. What the interrupt controller and CPU hotplug answer
is given.
-/

namespace BigLittle.Switcher

open List
open Function (update update_of_ne update_self)
open scoped Finset
open List (finRange mem_cons mem_cons_of_mem mem_finRange mem_reverse)

structure Mpidr where
  cpu : Nat
  cluster : Nat
deriving DecidableEq

def einval : Int := -22

def maxCpusPerCluster : Nat := 4

variable {n : Nat}

structure Layout (n : Nat) where
  online : Finset (Fin n)
  map : Fin n → Mpidr
  /-- `bL_switcher_cpu_pairing`; -1 is `none` -/
  pairing : Fin n → Option (Fin n)
  removed : Finset (Fin n)
  gicId : Mpidr → Int
  originalCluster : Fin n → Nat

structure Answers (n : Nat) where
  gicGetCpuId : Fin n → Int
  cpuDown : Fin n → Int
  cpuUp : Fin n → Int

namespace Layout

variable (s : Layout n)

def cluster (i : Fin n) : Nat := (s.map i).cluster

/-- The first pass over the online CPUs. -/
def validate : List (Fin n) → Nat → Except Int Nat
  | [], mask => .ok mask
  | i :: rest, mask =>
    if i ∈ s.online then
      if 2 ≤ s.cluster i then .error einval
      else if maxCpusPerCluster ≤ (s.map i).cpu then .error einval
      else validate rest (mask ||| 1 <<< s.cluster i)
    else validate rest mask

structure Pairs (n : Nat) where
  available : Finset (Fin n)
  cluster0 : Option Nat := none
  pairing : Fin n → Option (Fin n) := fun _ => none

/-- The last available CPU of another cluster. -/
def lastMatch (available : Finset (Fin n)) (cluster0 : Nat) : Option (Fin n) :=
  (finRange n).foldl (fun found j => if j ∈ available ∧ s.cluster j ≠ cluster0 then some j else found) none

def pairStep (p : Pairs n) (i : Fin n) : Pairs n :=
  if i ∈ p.available then
    let cluster0 := p.cluster0.getD (s.cluster i)
    if s.cluster i ≠ cluster0 then { p with cluster0 := some cluster0 }
    else
      let available := p.available.erase i
      match s.lastMatch available cluster0 with
      | none => { p with cluster0 := some cluster0, available := available }
      | some j =>
        { available := available.erase j
          cluster0 := some cluster0
          pairing := update p.pairing i (some j) }
  else p

def pairs : Pairs n := (finRange n).foldl s.pairStep { available := s.online }

def restoreCpus (answers : Answers n) : Layout n :=
  { s with online := s.online ∪ s.removed.filter fun i => answers.cpuUp i = 0 }

/-- The third pass: CPUs without a partner go offline. -/
def offline (answers : Answers n) : List (Fin n) → Layout n → Int × Layout n
  | [], s => (0, s)
  | i :: rest, s =>
    if i ∈ s.online then
      if answers.gicGetCpuId i < 0 then (einval, s.restoreCpus answers)
      else
        let s := { s with gicId := update s.gicId (s.map i) (answers.gicGetCpuId i) }
        if s.pairing i ≠ none then
          offline answers rest { s with originalCluster := update s.originalCluster i (s.cluster i) }
        else if answers.cpuDown i = 0 then
          offline answers rest { s with online := s.online.erase i, removed := insert i s.removed }
        else (answers.cpuDown i, s.restoreCpus answers)
    else offline answers rest s

def halveCpus (answers : Answers n) : Int × Layout n :=
  match s.validate (finRange n) 0 with
  | .error ret => (ret, s)
  | .ok mask =>
    if mask ≠ 3 then (einval, s)
    else offline answers (finRange n) { s with pairing := s.pairs.pairing, removed := ∅ }

end Layout

/-! ### What the first pass accepts -/

namespace Layout

variable {s t : Layout n} {answers : Answers n} {l seen : List (Fin n)} {p : Pairs n} {i : Fin n}
  {cluster0 c mask : Nat} {pairing : Fin n → Option (Fin n)}

/-- The clusters of the online CPUs are the bits of the mask. -/
lemma validate_ok {start mask : Nat} (h : s.validate l start = .ok mask) :
    (∀ i ∈ l, i ∈ s.online → s.cluster i < 2) ∧ ∀ k, mask.testBit k =
    (start.testBit k || decide (∃ i ∈ l, i ∈ s.online ∧ s.cluster i = k)) := by
  induction l generalizing start with
  | nil =>
    rw [validate, Except.ok.injEq] at h
    subst h
    exact ⟨nofun, fun k => by simp⟩
  | cons i rest ih =>
    rw [validate] at h
    split at h
    next honline =>
      split at h
      · exact nomatch h
      next htwo =>
        split at h
        · exact nomatch h
        · obtain ⟨hlt, hbits⟩ := ih h
          refine ⟨fun j hj hon => ?_, fun k => ?_⟩
          · rcases mem_cons.mp hj with rfl | hj
            · exact Nat.lt_of_not_le htwo
            · exact hlt j hj hon
          · rw [hbits k, Nat.testBit_or, Nat.one_shiftLeft, Nat.testBit_two_pow, Bool.or_assoc]
            congr 1
            rw [← Bool.decide_or, decide_eq_decide]
            simp [honline]
    next hoff =>
      obtain ⟨hlt, hbits⟩ := ih h
      refine ⟨fun j hj hon => ?_, fun k => ?_⟩
      · rcases mem_cons.mp hj with rfl | hj
        · exact absurd hon hoff
        · exact hlt j hj hon
      · rw [hbits k]
        congr 1
        rw [decide_eq_decide]
        simp [hoff]

lemma validate_ne_zero : s.validate l mask ≠ .error 0 := by
  induction l generalizing mask with
  | nil => exact nofun
  | cons i rest ih =>
    rw [validate]
    split
    · split
      · exact nofun
      · split
        · exact nofun
        · exact ih
    · exact ih

/-- There is an online CPU. -/
lemma exists_online (h : s.validate (finRange n) 0 = .ok mask) (hmask : mask = 3) : ∃ i, i ∈ s.online := by
  have hbit := (validate_ok h).2 0
  rw [hmask, Nat.zero_testBit, Bool.false_or] at hbit
  obtain ⟨i, -, honline, -⟩ := of_decide_eq_true hbit.symm
  exact ⟨i, honline⟩

/-! ### The pairs -/

lemma lastMatch_some {available : Finset (Fin n)} {j : Fin n}
    (h : s.lastMatch available cluster0 = some j) : j ∈ available ∧ s.cluster j ≠ cluster0 := by
  have hfound : ∀ j, s.lastMatch available cluster0 = some j → j ∈ available ∧ s.cluster j ≠ cluster0 := by
    refine Run.foldl_of_step (P := fun found => ∀ j, found = some j → j ∈ available ∧ s.cluster j ≠ cluster0)
      (fun found k hfound j hj => ?_) fun _ => nofun
    split at hj
    next hk =>
      injection hj with hj
      exact hj ▸ hk
    next => exact hfound j hj
  exact hfound j h

lemma lastMatch_none {available : Finset (Fin n)} (h : s.lastMatch available cluster0 = none)
    (j : Fin n) (hj : j ∈ available) : s.cluster j = cluster0 := by
  by_contra hne
  refine Run.foldl_of_mem (P := fun found => found ≠ none) (a := j) (fun found k hfound => ?_)
    (mem_finRange j) (fun found => ?_) h
  · split
    · exact nofun
    · exact hfound
  · rw [if_pos ⟨hj, hne⟩]
    exact nofun

/-- What has been paired after some of the CPUs. -/
structure Paired (s : Layout n) (cluster0 : Nat) (seen : List (Fin n)) (p : Pairs n) : Prop where
  available : ∀ j, j ∈ p.available ↔ j ∈ s.online ∧ ¬(j ∈ seen ∧ s.cluster j = cluster0) ∧ ∀ i, p.pairing i ≠ some j
  first : ∀ i j, p.pairing i = some j → i ∈ seen ∧ i ∈ s.online ∧ s.cluster i = cluster0
  second : ∀ i j, p.pairing i = some j → j ∈ s.online ∧ s.cluster j ≠ cluster0
  injective : ∀ i i' j, p.pairing i = some j → p.pairing i' = some j → i = i'
  /-- a CPU is left alone only when there is no partner -/
  exhausted : ∀ i ∈ seen, i ∈ s.online → s.cluster i = cluster0 → p.pairing i = none →
    ∀ j ∈ p.available, s.cluster j = cluster0

namespace Paired

variable (h : Paired s cluster0 seen p)
include h

/-- A CPU that is not available is offline or has been taken as a partner. -/
lemma skip (hnew : i ∉ seen) (hnot : i ∉ p.available) : Paired s cluster0 (i :: seen) p := by
  have hother : ¬(i ∈ s.online ∧ s.cluster i = cluster0) := by
    rintro ⟨honline, hcluster⟩
    refine hnot ((h.available i).mpr ⟨honline, fun hseen => hnew hseen.1, fun k hk => ?_⟩)
    exact (h.second k i hk).2 hcluster
  refine ⟨fun j => ?_, fun k j hk => ?_, h.second, h.injective, fun k hk honline hcluster hnone => ?_⟩
  · rw [h.available j]
    refine and_congr_right fun honline => and_congr_left fun _ => not_congr (and_congr_left fun hcluster => ?_)
    refine ⟨mem_cons_of_mem i, fun hj => (mem_cons.mp hj).resolve_left ?_⟩
    rintro rfl
    exact hother ⟨honline, hcluster⟩
  · obtain ⟨hseen, hrest⟩ := h.first k j hk
    exact ⟨mem_cons_of_mem i hseen, hrest⟩
  · rcases mem_cons.mp hk with rfl | hk
    · exact absurd ⟨honline, hcluster⟩ hother
    · exact h.exhausted k hk honline hcluster hnone

/-- A CPU of the other cluster waits for a partner. -/
lemma other (hcluster : s.cluster i ≠ cluster0) :
    Paired s cluster0 (i :: seen) { p with cluster0 := some cluster0 } := by
  refine ⟨fun j => ?_, fun k j hk => ?_, h.second, h.injective, fun k hk honline hcluster' hnone => ?_⟩
  · refine (h.available j).trans ?_
    refine and_congr_right fun _ => and_congr_left fun _ => not_congr (and_congr_left fun hj => ?_)
    refine ⟨mem_cons_of_mem i, fun hmem => (mem_cons.mp hmem).resolve_left ?_⟩
    rintro rfl
    exact hcluster hj
  · obtain ⟨hseen, hrest⟩ := h.first k j hk
    exact ⟨mem_cons_of_mem i hseen, hrest⟩
  · rcases mem_cons.mp hk with rfl | hk
    · exact absurd hcluster' hcluster
    · exact h.exhausted k hk honline hcluster' hnone

/-- What is left when a CPU of the first cluster has been looked at. -/
lemma mem_erase (hcluster : s.cluster i = cluster0) (j : Fin n) : j ∈ p.available.erase i ↔ j ∈ s.online ∧
    ¬(j ∈ i :: seen ∧ s.cluster j = cluster0) ∧ ∀ k, p.pairing k ≠ some j := by
  rw [Finset.mem_erase, h.available j, mem_cons]
  constructor
  · rintro ⟨hne, honline, hseen, hfree⟩
    refine ⟨honline, ?_, hfree⟩
    rintro ⟨rfl | hmem, hj⟩
    · exact hne rfl
    · exact hseen ⟨hmem, hj⟩
  · rintro ⟨honline, hseen, hfree⟩
    refine ⟨?_, honline, fun hmem => hseen ⟨.inr hmem.1, hmem.2⟩, hfree⟩
    rintro rfl
    exact hseen ⟨.inl rfl, hcluster⟩

lemma alone (hcluster : s.cluster i = cluster0) (hnone : s.lastMatch (p.available.erase i) cluster0 = none) :
    Paired s cluster0 (i :: seen) { p with cluster0 := some cluster0, available := p.available.erase i } := by
  refine ⟨h.mem_erase hcluster, fun k j hk => ?_, h.second, h.injective, fun k hk honline hcluster' hk' j hj => ?_⟩
  · obtain ⟨hseen, hrest⟩ := h.first k j hk
    exact ⟨mem_cons_of_mem i hseen, hrest⟩
  · exact lastMatch_none hnone j hj

lemma pair (hnew : i ∉ seen) (havailable : i ∈ p.available)
    (hcluster : s.cluster i = cluster0) {j : Fin n} (hj : j ∈ p.available.erase i) (hj' : s.cluster j ≠ cluster0) :
    Paired s cluster0 (i :: seen)
      { available := (p.available.erase i).erase j
        cluster0 := some cluster0
        pairing := update p.pairing i (some j) } := by
  have honline : i ∈ s.online := ((h.available i).mp havailable).1
  obtain ⟨hjonline, -, hfree⟩ := (h.available j).mp (Finset.mem_of_mem_erase hj)
  -- a pair is an old one or the new one
  have hpair : ∀ k l, update p.pairing i (some j) k = some l → k = i ∧ l = j ∨ k ≠ i ∧ p.pairing k = some l := by
    intro k l hk
    by_cases hki : k = i
    · rw [hki, update_self, Option.some.injEq] at hk
      exact .inl ⟨hki, hk.symm⟩
    · rw [update_of_ne hki] at hk
      exact .inr ⟨hki, hk⟩
  have hold : p.pairing i = none := by
    cases hi : p.pairing i with
    | none => rfl
    | some l => exact absurd (h.first i l hi).1 hnew
  constructor
  case available =>
    intro l
    change l ∈ (p.available.erase i).erase j ↔ _ ∧ _ ∧ ∀ k, update p.pairing i (some j) k ≠ some l
    rw [Finset.mem_erase, h.mem_erase hcluster l]
    constructor
    · rintro ⟨hne, hon, hseen, hfree'⟩
      refine ⟨hon, hseen, fun k hk => ?_⟩
      rcases hpair k l hk with ⟨-, hl⟩ | ⟨-, hk⟩
      · exact hne hl
      · exact hfree' k hk
    · rintro ⟨hon, hseen, hfree'⟩
      refine ⟨?_, hon, hseen, fun k hk => ?_⟩
      · rintro rfl
        exact hfree' i (update_self _ _ _)
      · have hki : k ≠ i := by
          rintro rfl
          exact nomatch hold.symm.trans hk
        exact hfree' k ((update_of_ne hki _ _).trans hk)
  case first =>
    intro k l hk
    rcases hpair k l hk with ⟨rfl, -⟩ | ⟨-, hk⟩
    · exact ⟨mem_cons_self, honline, hcluster⟩
    · obtain ⟨hseen, hrest⟩ := h.first k l hk
      exact ⟨mem_cons_of_mem i hseen, hrest⟩
  case second =>
    intro k l hk
    rcases hpair k l hk with ⟨-, rfl⟩ | ⟨-, hk⟩
    · exact ⟨hjonline, hj'⟩
    · exact h.second k l hk
  case injective =>
    intro k k' l hk hk'
    rcases hpair k l hk with ⟨hki, hl⟩ | ⟨-, hold⟩
    · rcases hpair k' l hk' with ⟨hki', -⟩ | ⟨-, hold'⟩
      · exact hki.trans hki'.symm
      · exact absurd (hl ▸ hold') (hfree k')
    · rcases hpair k' l hk' with ⟨-, hl⟩ | ⟨-, hold'⟩
      · exact absurd (hl ▸ hold) (hfree k)
      · exact h.injective k k' l hold hold'
  case exhausted =>
    intro k hk hon hcluster' hnone l hl
    rcases mem_cons.mp hk with rfl | hk
    · exact nomatch (update_self _ _ _).symm.trans hnone
    · have hki : k ≠ i := fun heq => hnew (heq ▸ hk)
      -- the partner that was found was available all along
      have hnone' : p.pairing k = none := (update_of_ne hki _ _).symm.trans hnone
      exact absurd (h.exhausted k hk hon hcluster' hnone' j (Finset.mem_of_mem_erase hj)) hj'

lemma step (hnew : i ∉ seen) (hcluster : p.cluster0.getD (s.cluster i) = cluster0) :
    Paired s cluster0 (i :: seen) (s.pairStep p i) := by
  rw [pairStep]
  split
  next havailable =>
    dsimp only
    rw [hcluster]
    split
    next hne => exact h.other hne
    next heq =>
      have heq := not_not.mp heq
      split
      next hnone => exact h.alone heq hnone
      next j hsome =>
        obtain ⟨hj, hj'⟩ := lastMatch_some hsome
        exact h.pair hnew havailable heq hj hj'
  next hnot => exact h.skip hnew hnot

end Paired

lemma pairStep_cluster0 (hi : i ∈ p.available) :
    (s.pairStep p i).cluster0 = some (p.cluster0.getD (s.cluster i)) := by
  rw [pairStep, if_pos hi]
  dsimp only
  split
  · rfl
  · split <;> rfl

lemma pairStep_of_not_mem (hi : i ∉ p.available) : s.pairStep p i = p := if_neg hi

/-- Nothing has happened yet, or the first cluster is known. -/
def Scanned (s : Layout n) (seen : List (Fin n)) (p : Pairs n) : Prop :=
  (p = { available := s.online } ∧ ∀ i ∈ seen, i ∉ s.online) ∨
    ∃ c, p.cluster0 = some c ∧ (∃ i ∈ s.online, s.cluster i = c) ∧ Paired s c seen p

lemma Scanned.step (h : Scanned s seen p) (hnew : i ∉ seen) :
    Scanned s (i :: seen) (s.pairStep p i) := by
  rcases h with ⟨rfl, hoffline⟩ | ⟨c, hc, honline, hpaired⟩
  · by_cases hi : i ∈ s.online
    · refine .inr ⟨s.cluster i, pairStep_cluster0 hi, ⟨i, hi, rfl⟩, Paired.step ?_ hnew rfl⟩
      refine ⟨fun j => ?_, fun _ _ => nofun, fun _ _ => nofun, fun _ _ _ => nofun, fun k hk hon => ?_⟩
      · exact ⟨fun hj => ⟨hj, fun hseen => hoffline j hseen.1 hj, fun _ => nofun⟩, fun hj => hj.1⟩
      · exact absurd hon (hoffline k hk)
    · rw [pairStep_of_not_mem hi]
      refine .inl ⟨rfl, fun k hk => ?_⟩
      rcases mem_cons.mp hk with rfl | hk
      · exact hi
      · exact hoffline k hk
  · refine .inr ⟨c, ?_, honline, hpaired.step hnew (by rw [hc]; rfl)⟩
    by_cases hi : i ∈ p.available
    · rw [pairStep_cluster0 hi, hc]
      rfl
    · rwa [pairStep_of_not_mem hi]

lemma Scanned.run (h : Scanned s seen p) (hnodup : l.Nodup)
    (hnew : ∀ i ∈ l, i ∉ seen) : Scanned s (l.reverse ++ seen) (l.foldl s.pairStep p) := by
  induction l generalizing seen p with
  | nil => exact h
  | cons i rest ih =>
    obtain ⟨hi, hrest⟩ := nodup_cons.mp hnodup
    have hstep := ih (h.step (hnew i mem_cons_self)) hrest fun j hj hmem => ?_
    · rwa [reverse_cons, append_assoc]
    · rcases mem_cons.mp hmem with rfl | hmem
      · exact hi hj
      · exact hnew j (mem_cons_of_mem i hj) hmem

/-- The pairs that the second pass forms. -/
lemma paired_pairs (honline : ∃ i, i ∈ s.online) :
    ∃ c, (∃ i ∈ s.online, s.cluster i = c) ∧ Paired s c (finRange n).reverse s.pairs := by
  have hscanned : Scanned s ((finRange n).reverse ++ []) s.pairs :=
    Scanned.run (.inl ⟨rfl, nofun⟩) (nodup_finRange n) fun _ _ => nofun
  rw [append_nil] at hscanned
  rcases hscanned with ⟨-, hoffline⟩ | ⟨c, -, hcluster, hpaired⟩
  · obtain ⟨i, hi⟩ := honline
    exact absurd hi (hoffline i (mem_reverse.mpr (mem_finRange i)))
  · exact ⟨c, hcluster, hpaired⟩

/-! ### Their number -/

def kept (pairing : Fin n → Option (Fin n)) : Finset (Fin n) := {i | pairing i ≠ none}

lemma mem_kept : i ∈ kept pairing ↔ ∃ j, pairing i = some j := by
  rw [kept, Finset.mem_filter, Option.ne_none_iff_exists']
  exact and_iff_right (Finset.mem_univ i)

/-- The online CPUs of a cluster. -/
def ofCluster (s : Layout n) (c : Nat) : Finset (Fin n) := {i ∈ s.online | s.cluster i = c}

lemma mem_ofCluster : i ∈ s.ofCluster c ↔ i ∈ s.online ∧ s.cluster i = c := Finset.mem_filter

/-- All CPUs of the first cluster are kept, or all others are partners. -/
lemma Paired.card_kept {c c' : Nat} (h : Paired s c (finRange n).reverse p)
    (hother : ∀ i ∈ s.online, s.cluster i ≠ c → s.cluster i = c') (hne : c' ≠ c) :
    #(kept p.pairing) = min #(s.ofCluster c) #(s.ofCluster c') := by
  have hall : ∀ i : Fin n, i ∈ (finRange n).reverse := fun i => mem_reverse.mpr (mem_finRange i)
  set partner : Fin n → Fin n := fun i => (p.pairing i).getD i with hpartner
  have hsome : ∀ i j, p.pairing i = some j → partner i = j := by
    intro i j hij
    rw [hpartner]
    dsimp only
    rw [hij]
    rfl
  have hinj : Set.InjOn partner (kept p.pairing) := by
    intro i hi k hk heq
    obtain ⟨j, hj⟩ := mem_kept.mp hi
    obtain ⟨l, hl⟩ := mem_kept.mp hk
    rw [hsome i j hj, hsome k l hl] at heq
    exact h.injective i k j hj (heq ▸ hl)
  have hfirst : kept p.pairing ⊆ s.ofCluster c := by
    intro i hi
    obtain ⟨j, hj⟩ := mem_kept.mp hi
    exact mem_ofCluster.mpr (h.first i j hj).2
  have hsecond : (kept p.pairing).image partner ⊆ s.ofCluster c' := by
    intro j hj
    obtain ⟨i, hi, rfl⟩ := Finset.mem_image.mp hj
    obtain ⟨l, hl⟩ := mem_kept.mp hi
    rw [hsome i l hl]
    obtain ⟨honline, hcluster⟩ := h.second i l hl
    exact mem_ofCluster.mpr ⟨honline, hother l honline hcluster⟩
  have hle := Finset.card_le_card hfirst
  have hle' := Finset.card_le_card hsecond
  rw [Finset.card_image_of_injOn hinj] at hle'
  by_cases hkept : s.ofCluster c ⊆ kept p.pairing
  · have hge := Finset.card_le_card hkept
    omega
  · -- a CPU without a partner has found none
    obtain ⟨i, hi, hnot⟩ := Finset.not_subset.mp hkept
    obtain ⟨honline, hcluster⟩ := mem_ofCluster.mp hi
    have hnone : p.pairing i = none := by
      by_contra hne
      exact hnot (mem_kept.mpr (Option.ne_none_iff_exists'.mp hne))
    have hexhausted := h.exhausted i (hall i) honline hcluster hnone
    have hcover : s.ofCluster c' ⊆ (kept p.pairing).image partner := by
      intro j hj
      obtain ⟨hjonline, hjcluster⟩ := mem_ofCluster.mp hj
      by_contra hfree
      refine hne (hjcluster.symm.trans (hexhausted j ((h.available j).mpr ⟨hjonline, ?_, fun k hk => ?_⟩)))
      · exact fun hseen => hne (hjcluster.symm.trans hseen.2)
      · exact hfree (Finset.mem_image.mpr ⟨k, mem_kept.mpr ⟨j, hk⟩, hsome k j hk⟩)
    have hge := Finset.card_le_card hcover
    rw [Finset.card_image_of_injOn hinj] at hge
    omega

/-! ### Going offline -/

/-- The CPUs that were online are online or have been removed. -/
structure Offlining (s : Layout n) (pairing : Fin n → Option (Fin n)) (seen : List (Fin n)) (t : Layout n) : Prop where
  same : t.pairing = pairing
  online : t.online ∪ t.removed = s.online
  removed : ∀ i ∈ t.removed, i ∉ t.online ∧ pairing i = none
  rest : ∀ i ∈ seen, i ∈ t.online → pairing i ≠ none

lemma Offlining.restored
    (h : Offlining s pairing seen t) (hup : ∀ i, answers.cpuUp i = 0) : (t.restoreCpus answers).online = s.online := by
  rw [restoreCpus]
  dsimp only
  rw [Finset.filter_true_of_mem fun i _ => hup i]
  exact h.online

/-- The pass ends with the kept CPUs online, or all of them are online again. -/
lemma Offlining.run
    (h : Offlining s pairing seen t) (hup : ∀ i, answers.cpuUp i = 0) :
    ((offline answers l t).1 = 0 ∧ Offlining s pairing (l.reverse ++ seen) (offline answers l t).2) ∨
    ((offline answers l t).1 ≠ 0 ∧ (offline answers l t).2.online = s.online) := by
  induction l generalizing seen t with
  | nil => exact .inl ⟨rfl, h⟩
  | cons i rest ih =>
    rw [offline, reverse_cons, append_assoc]
    split
    next honline =>
      split
      next => exact .inr ⟨(by decide : einval ≠ 0), h.restored hup⟩
      next =>
        dsimp only
        split
        next hpaired =>
          refine ih ⟨h.same, h.online, h.removed, fun k hk hon => ?_⟩
          rcases mem_cons.mp hk with rfl | hk
          · rwa [← h.same]
          · exact h.rest k hk hon
        next hnone =>
          have hnone := not_not.mp hnone
          rw [h.same] at hnone
          split
          next =>
            refine ih ⟨h.same, ?_, fun k hk => ?_, fun k hk hon => ?_⟩
            · change t.online.erase i ∪ insert i t.removed = s.online
              rw [Finset.union_insert, ← Finset.insert_union, Finset.insert_erase honline]
              exact h.online
            · rcases Finset.mem_insert.mp hk with rfl | hk
              · exact ⟨Finset.notMem_erase _ _, hnone⟩
              · obtain ⟨hoff, hk'⟩ := h.removed k hk
                exact ⟨fun hmem => hoff (Finset.mem_of_mem_erase hmem), hk'⟩
            · rcases mem_cons.mp hk with rfl | hk
              · exact absurd hon (Finset.notMem_erase _ _)
              · exact h.rest k hk (Finset.mem_of_mem_erase hon)
          next hdown =>
            have hsame : Offlining s pairing seen
                { t with gicId := update t.gicId (t.map i) (answers.gicGetCpuId i) } :=
              ⟨h.same, h.online, h.removed, h.rest⟩
            exact .inr ⟨hdown, hsame.restored hup⟩
    next hoffline =>
      refine ih ⟨h.same, h.online, h.removed, fun k hk hon => ?_⟩
      rcases mem_cons.mp hk with rfl | hk
      · exact absurd hon hoffline
      · exact h.rest k hk hon

/-! ### The result -/

structure Halved (s t : Layout n) : Prop where
  /-- a kept CPU is paired with one of the other cluster, and both were online -/
  other : ∀ i j, t.pairing i = some j → i ∈ s.online ∧ j ∈ s.online ∧ s.cluster i ≠ s.cluster j
  injective : ∀ i i' j, t.pairing i = some j → t.pairing i' = some j → i = i'
  /-- a partner is not kept -/
  apart : ∀ i j, t.pairing i = some j → t.pairing j = none
  number : #(kept t.pairing) = min #(s.ofCluster 0) #(s.ofCluster 1)
  online : t.online = kept t.pairing

lemma halved_of_paired (hpaired : Paired s c (finRange n).reverse s.pairs)
    (htwo : ∀ i ∈ s.online, s.cluster i < 2) (honline : ∃ i, i ∈ s.online ∧ s.cluster i = c)
    (h : Offlining s s.pairs.pairing (finRange n).reverse t) : Halved s t := by
  have hpairing := h.same
  have hkept : t.online = kept s.pairs.pairing := by
    ext i
    rw [mem_kept]
    constructor
    · intro hi
      exact Option.ne_none_iff_exists'.mp (h.rest i (mem_reverse.mpr (mem_finRange i)) hi)
    · rintro ⟨j, hj⟩
      have hon := (hpaired.first i j hj).2.1
      rw [← h.online] at hon
      refine (Finset.mem_union.mp hon).resolve_right fun hremoved => ?_
      exact nomatch (h.removed i hremoved).2.symm.trans hj
  obtain ⟨i₀, hi₀, hc⟩ := honline
  have hlt : c < 2 := hc ▸ htwo i₀ hi₀
  have hnumber : #(kept s.pairs.pairing) = min #(s.ofCluster c) #(s.ofCluster (1 - c)) := by
    refine hpaired.card_kept (fun i hi hne => ?_) (by omega)
    have hi2 := htwo i hi
    omega
  refine ⟨fun i j hij => ?_, fun i i' j => ?_, fun i j hij => ?_, ?_, ?_⟩
  · rw [hpairing] at hij
    obtain ⟨-, hion, hicluster⟩ := hpaired.first i j hij
    obtain ⟨hjon, hjcluster⟩ := hpaired.second i j hij
    exact ⟨hion, hjon, fun heq => hjcluster (heq.symm.trans hicluster)⟩
  · rw [hpairing]
    exact hpaired.injective i i' j
  · rw [hpairing] at hij ⊢
    obtain ⟨-, hjcluster⟩ := hpaired.second i j hij
    cases hj : s.pairs.pairing j with
    | none => rfl
    | some l => exact absurd (hpaired.first j l hj).2.2 hjcluster
  · rw [hpairing, hnumber]
    have hcases : c = 0 ∨ c = 1 := by omega
    rcases hcases with rfl | rfl
    · rfl
    · exact Nat.min_comm _ _
  · rwa [hpairing]

/-- A call that succeeds keeps one CPU of each pair online, and one that fails leaves the online
CPUs as they were. -/
theorem halveCpus_spec (hup : ∀ i, answers.cpuUp i = 0) :
    ((s.halveCpus answers).1 = 0 → Halved s (s.halveCpus answers).2) ∧
    ((s.halveCpus answers).1 ≠ 0 → (s.halveCpus answers).2.online = s.online) := by
  rw [halveCpus]
  cases hvalidate : s.validate (finRange n) 0 with
  | error ret =>
    refine ⟨fun hret => ?_, fun _ => rfl⟩
    have hret : ret = 0 := hret
    rw [hret] at hvalidate
    exact absurd hvalidate validate_ne_zero
  | ok mask =>
    dsimp only
    split
    next => exact ⟨nofun, fun _ => rfl⟩
    next hmask =>
      have hmask := not_not.mp hmask
      obtain ⟨c, hcluster, hpaired⟩ := paired_pairs (exists_online hvalidate hmask)
      have htwo : ∀ i ∈ s.online, s.cluster i < 2 :=
        fun i hi => (validate_ok hvalidate).1 i (mem_finRange i) hi
      have hstart : Offlining s s.pairs.pairing [] { s with pairing := s.pairs.pairing, removed := ∅ } :=
        ⟨rfl, Finset.union_empty _, fun _ hi => absurd hi (Finset.notMem_empty _), nofun⟩
      have hrun := hstart.run (l := finRange n) hup
      rw [append_nil] at hrun
      rcases hrun with ⟨hzero, hdone⟩ | ⟨hfail, honline⟩
      · exact ⟨fun _ => halved_of_paired hpaired htwo hcluster hdone, fun hne => absurd hzero hne⟩
      · exact ⟨fun hzero => absurd hzero hfail, fun _ => honline⟩

/-- Five CPUs, two of them in the first cluster; the first CPU is in the second one. -/
def fiveCpus : Layout 5 where
  online := {0, 1, 2, 3, 4}
  map := fun i => if i = 0 then ⟨0, 1⟩ else if i.val < 3 then ⟨i.val - 1, 0⟩ else ⟨i.val - 2, 1⟩
  pairing _ := none
  removed := ∅
  gicId _ := 0
  originalCluster _ := 0

/-- Everything succeeds, or the last CPU cannot go offline. -/
def hotplug (stuck : Bool) : Answers 5 where
  gicGetCpuId i := i.val
  cpuDown i := if stuck && decide (i = 4) then -16 else 0
  cpuUp _ := 0

theorem halveCpus_spec_five_cpus : Halved fiveCpus (fiveCpus.halveCpus (hotplug false)).2 ∧
    (fiveCpus.halveCpus (hotplug false)).2.online = {0, 3} ∧ (fiveCpus.halveCpus (hotplug true)).2.online =
    {0, 1, 2, 3, 4} :=
  ⟨(halveCpus_spec fun _ => rfl).1 (by decide +kernel), by decide +kernel,
    (halveCpus_spec fun _ => rfl).2 (by decide +kernel)⟩

end Layout

end BigLittle.Switcher
