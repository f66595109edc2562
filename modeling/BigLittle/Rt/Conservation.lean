import Mathlib.Algebra.BigOperators.Fin
import Mathlib.Algebra.Order.BigOperators.Group.Finset
import BigLittle.Lib.Run
import BigLittle.Rt.Runtime

/-!
# Runtime is conserved

In every root domain the enabled queues of a group have together as much runtime as
they started with. Borrowing moves it between two of them. A queue that is disabled
settles its account with the others first, and that is always possible: what it lent
the others have, and what it borrowed somebody can take.

`rq_online_rt` and the hotplug notifier both start the queues of a CPU. What a queue lent
or borrowed between the two is forgotten, and may be missing later.
-/

namespace BigLittle.Rt

open Finset State
open Function (update update_of_ne update_self)
open Finset (add_sum_erase filter_congr filter_erase mem_erase mem_filter mem_univ ne_of_mem_erase sum_congr)
open Function (forall_update_iff)

variable {n : Nat} {G Rd : Type*} [DecidableEq Rd]

/-! ### Words that do not overflow -/

lemma ofInt_of_nonneg {z : Int} (h : 0 ≤ z) (hz : z < 2 ^ 64) : (Word.ofInt 64 z : Int) = z := by
  have hmod : z % ((2 ^ 64 : Nat) : Int) = z := Int.emod_eq_of_lt h (by exact_mod_cast hz)
  rw [Word.ofInt, hmod, Int.toNat_of_nonneg h]

lemma s64_of_lt {z : Int} (hneg : -2 ^ 63 ≤ z) (hpos : z < 2 ^ 63) : s64 z = z :=
  Int.bmod_eq_of_le (by omega) (by omega)

lemma addRuntime_rtRuntime (r : RtRq) (diff : Int) (hneg : 0 ≤ r.rtRuntime + diff)
    (hpos : r.rtRuntime + diff < 2 ^ 64) : ((r.addRuntime diff).rtRuntime : Int) = r.rtRuntime + diff :=
  ofInt_of_nonneg hneg hpos

/-- A queue lends no more than it has, and a borrower above the period gives back no more
than it has. -/
lemma share_bounds {b : RtBandwidth} (weight : Nat) {lender borrower : RtRq} (hperiod : b.rtPeriod < 2 ^ 63)
    (htime : lender.rtTime < 2 ^ 63) (hsum : lender.rtRuntime + borrower.rtRuntime < 2 ^ 63)
    (hspare : 0 < s64 (lender.rtRuntime - lender.rtTime)) : -(borrower.rtRuntime : Int) ≤
    share b weight (s64 (lender.rtRuntime - lender.rtTime)) borrower ∧
    share b weight (s64 (lender.rtRuntime - lender.rtTime)) borrower ≤ lender.rtRuntime := by
  have hexact : s64 ((lender.rtRuntime : Int) - lender.rtTime) = lender.rtRuntime - lender.rtTime :=
    s64_of_lt (by omega) (by omega)
  rw [hexact] at hspare ⊢
  have hdiv : (lender.rtRuntime - lender.rtTime : Int).toNat / weight ≤ lender.rtRuntime :=
    (Nat.div_le_self _ _).trans (by omega)
  rw [share]
  generalize (lender.rtRuntime - lender.rtTime : Int).toNat / weight = diff at hdiv ⊢
  have hadd : Word.add 64 borrower.rtRuntime diff = borrower.rtRuntime + diff := Word.add_of_lt (by omega)
  rw [hadd]
  split
  next hcap =>
    rw [s64_of_lt (by omega) (by omega)]
    omega
  next => omega

/-- Of the queues in `S` runtime moves between the enabled ones only, and none is lost. -/
structure Shifts (S : Finset (Fin n)) (q q' : Queues n) : Prop where
  outside : ∀ i, i ∉ S → q' i = q i
  enabled : ∀ i, (q' i).rtRuntime = runtimeInf ↔ (q i).rtRuntime = runtimeInf
  time : ∀ i, (q' i).rtTime = (q i).rtTime
  sum : ∑ i ∈ S with (q i).rtRuntime ≠ runtimeInf, (q' i).rtRuntime =
    ∑ i ∈ S with (q i).rtRuntime ≠ runtimeInf, (q i).rtRuntime

namespace Shifts

variable {S : Finset (Fin n)} {q q' q'' : Queues n}

lemma refl (S : Finset (Fin n)) (q : Queues n) : Shifts S q q :=
  ⟨fun _ _ => rfl, fun _ => Iff.rfl, fun _ => rfl, rfl⟩

lemma filter_eq (h : Shifts S q q') :
    (S.filter fun i => (q' i).rtRuntime ≠ runtimeInf) = S.filter fun i => (q i).rtRuntime ≠ runtimeInf :=
  filter_congr fun i _ => not_congr (h.enabled i)

lemma trans (h : Shifts S q q') (h' : Shifts S q' q'') : Shifts S q q'' where
  outside i hi := (h'.outside i hi).trans (h.outside i hi)
  enabled i := (h'.enabled i).trans (h.enabled i)
  time i := (h'.time i).trans (h.time i)
  sum := by
    have hsum := h'.sum
    rw [h.filter_eq] at hsum
    exact hsum.trans h.sum

end Shifts

/-- Two members of a set whose values change by opposite amounts. -/
lemma sum_eq_of_exchange {S : Finset (Fin n)} {f g : Fin n → Nat} {i j : Fin n} (hi : i ∈ S) (hj : j ∈ S) (hne : i ≠ j)
    (hsum : g i + g j = f i + f j) (hother : ∀ k, k ≠ i → k ≠ j → g k = f k) : ∑ k ∈ S, g k = ∑ k ∈ S, f k := by
  have hj' : j ∈ S.erase i := mem_erase.mpr ⟨hne.symm, hj⟩
  have hrest : ∑ k ∈ (S.erase i).erase j, g k = ∑ k ∈ (S.erase i).erase j, f k := by
    refine sum_congr rfl fun k hk => ?_
    have hkj := mem_erase.mp hk
    exact hother k (ne_of_mem_erase hkj.2) hkj.1
  rw [← add_sum_erase S g hi, ← add_sum_erase S f hi, ← add_sum_erase _ g hj',
    ← add_sum_erase _ f hj', hrest, ← Nat.add_assoc, ← Nat.add_assoc, hsum]

lemma add_le_sum {S : Finset (Fin n)} {f : Fin n → Nat} {i j : Fin n} (hi : i ∈ S) (hj : j ∈ S) (hne : i ≠ j) :
    f i + f j ≤ ∑ k ∈ S, f k := by
  have hj' : j ∈ S.erase i := mem_erase.mpr ⟨hne.symm, hj⟩
  rw [← add_sum_erase S f hi]
  exact Nat.add_le_add_left (single_le_sum (fun _ _ => Nat.zero_le _) hj') _

section Balance

variable {b : RtBandwidth} {cpu : Fin n} {S : Finset (Fin n)}

lemma exchange_shifts {q : Queues n} {i : Fin n} {diff : Int} (hi : i ∈ S) (hcpu : cpu ∈ S) (hne : i ≠ cpu)
    (hfinite : (q i).rtRuntime ≠ runtimeInf) (hcpufinite : (q cpu).rtRuntime ≠ runtimeInf)
    (hsum : (q i).rtRuntime + (q cpu).rtRuntime < 2 ^ 63) (hneg : -((q cpu).rtRuntime : Int) ≤ diff)
    (hpos : diff ≤ (q i).rtRuntime) :
    Shifts S q (update (update q i ((q i).addRuntime (-diff))) cpu ((q cpu).addRuntime diff)) := by
  have hlender := addRuntime_rtRuntime (q i) (-diff) (by omega) (by omega)
  have hborrower := addRuntime_rtRuntime (q cpu) diff (by omega) (by omega)
  have hinf : runtimeInf = 2 ^ 64 - 1 := rfl
  generalize hq' : update (update q i ((q i).addRuntime (-diff))) cpu ((q cpu).addRuntime diff) = q'
  have hown : q' cpu = (q cpu).addRuntime diff := by rw [← hq', update_self]
  have hlent : q' i = (q i).addRuntime (-diff) := by
    rw [← hq', update_of_ne hne, update_self]
  have hother : ∀ k, k ≠ i → k ≠ cpu → q' k = q k := by
    intro k hki hkc
    rw [← hq', update_of_ne hkc, update_of_ne hki]
  refine ⟨?_, ?_, ?_, ?_⟩
  · intro k hk
    exact hother k (ne_of_mem_of_not_mem hi hk).symm (ne_of_mem_of_not_mem hcpu hk).symm
  · intro k
    by_cases hkc : k = cpu
    · rw [hkc, hown]
      omega
    · by_cases hki : k = i
      · rw [hki, hlent]
        omega
      · rw [hother k hki hkc]
  · intro k
    by_cases hkc : k = cpu
    · rw [hkc, hown]
      rfl
    · by_cases hki : k = i
      · rw [hki, hlent]
        rfl
      · rw [hother k hki hkc]
  · refine sum_eq_of_exchange (mem_filter.mpr ⟨hi, hfinite⟩)
      (mem_filter.mpr ⟨hcpu, hcpufinite⟩) hne ?_ fun k hki hkc => by rw [hother k hki hkc]
    rw [hown, hlent]
    omega

lemma balanceLoop_shifts (weight : Nat) (hperiod : b.rtPeriod < 2 ^ 63) (hcpu : cpu ∈ S) (l : List (Fin n))
    (hl : ∀ i ∈ l, i ∈ S) (q : Queues n) (more : Bool) (htime : ∀ i, (q i).rtTime < 2 ^ 63)
    (hcpufinite : (q cpu).rtRuntime ≠ runtimeInf)
    (hsum : ∑ i ∈ S with (q i).rtRuntime ≠ runtimeInf, (q i).rtRuntime < 2 ^ 63) :
    Shifts S q (balanceLoop b weight cpu l q more).1 := by
  induction l generalizing q more with
  | nil => exact .refl S q
  | cons i rest ih =>
    have hrest : ∀ j ∈ rest, j ∈ S := fun j hj => hl j (List.mem_cons_of_mem i hj)
    rw [balanceLoop]
    split
    · exact ih hrest q more htime hcpufinite hsum
    next hskip =>
      obtain ⟨hne, hfinite⟩ := not_or.mp hskip
      dsimp only
      split
      next hspare =>
        have hi := hl i List.mem_cons_self
        have hpair := (add_le_sum (f := fun k => (q k).rtRuntime) (mem_filter.mpr ⟨hi, hfinite⟩)
          (mem_filter.mpr ⟨hcpu, hcpufinite⟩) hne).trans_lt hsum
        obtain ⟨hneg, hpos⟩ := share_bounds weight hperiod (htime i) hpair hspare
        have hshift := exchange_shifts hi hcpu hne hfinite hcpufinite hpair hneg hpos
        split
        · exact hshift
        · refine hshift.trans (ih hrest _ true ?_ ?_ ?_)
          · intro j
            rw [hshift.time j]
            exact htime j
          · exact (not_congr (hshift.enabled cpu)).mpr hcpufinite
          · rwa [hshift.filter_eq, hshift.sum]
      next => exact ih hrest q more htime hcpufinite hsum

end Balance

section Disable

variable {b : RtBandwidth} {cpu : Fin n} {S : Finset (Fin n)} {q q' q'' : Queues n}

/-- The enabled queues of the domain besides that of `cpu`. -/
def others (S : Finset (Fin n)) (cpu : Fin n) (q : Queues n) : Finset (Fin n) :=
  (S.erase cpu).filter fun i => (q i).rtRuntime ≠ runtimeInf

/-- The queues on the list give an amount, or get one if it is negative. -/
structure Reclaims (S : Finset (Fin n)) (cpu : Fin n) (l : List (Fin n)) (q q' : Queues n) (taken : Int) :
    Prop where
  frame : ∀ i, i ∉ l → q' i = q i
  own : q' cpu = q cpu
  enabled : ∀ i, (q' i).rtRuntime = runtimeInf ↔ (q i).rtRuntime = runtimeInf
  time : ∀ i, (q' i).rtTime = (q i).rtTime
  sum : ((∑ i ∈ others S cpu q, (q' i).rtRuntime : Nat) : Int) =
    (∑ i ∈ others S cpu q, (q i).rtRuntime : Nat) - taken

namespace Reclaims

lemma refl (S : Finset (Fin n)) (cpu : Fin n) (l : List (Fin n)) (q : Queues n) : Reclaims S cpu l q q 0 :=
  ⟨fun _ _ => rfl, rfl, fun _ => Iff.rfl, fun _ => rfl, (sub_zero _).symm⟩

lemma others_eq {l : List (Fin n)} {taken : Int} (h : Reclaims S cpu l q q' taken) : others S cpu q' = others S cpu q :=
  filter_congr fun i _ => not_congr (h.enabled i)

lemma skip {rest : List (Fin n)} {taken : Int} (h : Reclaims S cpu rest q q' taken) (i : Fin n) :
    Reclaims S cpu (i :: rest) q q' taken :=
  { h with frame := fun j hj => h.frame j (List.not_mem_of_not_mem_cons hj) }

lemma trans {i : Fin n} {rest : List (Fin n)} {taken taken' : Int} (h : Reclaims S cpu [i] q q' taken)
    (h' : Reclaims S cpu rest q' q'' taken') : Reclaims S cpu (i :: rest) q q'' (taken + taken') where
  frame j hj := by
    refine (h'.frame j (List.not_mem_of_not_mem_cons hj)).trans (h.frame j ?_)
    exact List.mem_singleton.not.mpr (List.ne_of_not_mem_cons hj)
  own := h'.own.trans h.own
  enabled j := (h'.enabled j).trans (h.enabled j)
  time j := (h'.time j).trans (h.time j)
  sum := by
    have hsum := h'.sum
    rw [h.others_eq] at hsum
    rw [hsum, h.sum, sub_sub]

/-- One queue changes its runtime. -/
lemma visit {i : Fin n} (hi : i ∈ others S cpu q) {diff : Int} (hneg : diff ≤ (q i).rtRuntime)
    (hpos : (q i).rtRuntime - diff < 2 ^ 63) : Reclaims S cpu [i] q (update q i ((q i).addRuntime (-diff))) diff := by
  have hnew := addRuntime_rtRuntime (q i) (-diff) (by omega) (by omega)
  have hinf : runtimeInf = 2 ^ 64 - 1 := rfl
  have hmem := mem_filter.mp hi
  have hne : cpu ≠ i := (ne_of_mem_erase hmem.1).symm
  refine ⟨?_, update_of_ne hne _ _, ?_, ?_, ?_⟩
  · intro j hj
    exact update_of_ne (List.mem_singleton.not.mp hj) _ _
  · refine (forall_update_iff q fun j a => a.rtRuntime = runtimeInf ↔ (q j).rtRuntime = runtimeInf).mpr
      ⟨?_, fun _ _ => Iff.rfl⟩
    have hfinite := hmem.2
    omega
  · exact (forall_update_iff q fun j a => a.rtTime = (q j).rtTime).mpr ⟨rfl, fun _ _ => rfl⟩
  · have hrest : ∑ j ∈ (others S cpu q).erase i, (update q i ((q i).addRuntime (-diff)) j).rtRuntime =
        ∑ j ∈ (others S cpu q).erase i, (q j).rtRuntime :=
      sum_congr rfl fun j hj => by rw [update_of_ne (ne_of_mem_erase hj)]
    rw [← add_sum_erase _ (fun j => (update q i ((q i).addRuntime (-diff)) j).rtRuntime) hi,
      ← add_sum_erase _ (fun j => (q j).rtRuntime) hi, hrest]
    rw [update_self]
    push_cast
    omega

end Reclaims

/-- Greedy reclaiming ends with nothing wanted, with nothing left to take, or with nobody
to give to. -/
lemma reclaimLoop_spec (cpu : Fin n) (l : List (Fin n)) (hnodup : l.Nodup) (hl : ∀ i ∈ l, i ∈ S) (q : Queues n)
    (want : Int) (hwant : want < 2 ^ 63)
    (hbound : ((∑ i ∈ others S cpu q, (q i).rtRuntime : Nat) : Int) + max 0 (-want) < 2 ^ 63) :
    let r := reclaimLoop cpu l q want
    Reclaims S cpu l q r.1 (want - r.2) ∧ (r.2 = 0 ∨ (0 < r.2 ∧ ∀ i ∈ l, i ∈ others S cpu q → (r.1 i).rtRuntime = 0) ∨
        (want < 0 ∧ ∀ i ∈ l, i ∉ others S cpu q)) := by
  induction l generalizing q want with
  | nil =>
    refine ⟨?_, ?_⟩
    · rw [reclaimLoop, sub_self]
      exact .refl S cpu [] q
    · rcases lt_trichotomy want 0 with hneg | hzero | hpos
      · exact .inr (.inr ⟨hneg, fun i hi => nomatch hi⟩)
      · exact .inl hzero
      · exact .inr (.inl ⟨hpos, fun i hi => nomatch hi⟩)
  | cons i rest ih =>
    obtain ⟨hnot, hnodup⟩ := List.nodup_cons.mp hnodup
    have hrest : ∀ j ∈ rest, j ∈ S := fun j hj => hl j (List.mem_cons_of_mem i hj)
    dsimp only
    rw [reclaimLoop]
    split
    next hskip =>
      have hi : i ∉ others S cpu q := by
        intro hi
        obtain ⟨herase, hfinite⟩ := mem_filter.mp hi
        exact hskip.elim (ne_of_mem_erase herase) hfinite
      obtain ⟨hreclaims, hend⟩ := ih hnodup hrest q want hwant hbound
      refine ⟨hreclaims.skip i, hend.imp id (Or.imp ?_ ?_)⟩
      · exact fun h => ⟨h.1, List.forall_mem_cons.mpr ⟨fun hmem => absurd hmem hi, h.2⟩⟩
      · exact fun h => ⟨h.1, List.forall_mem_cons.mpr ⟨hi, h.2⟩⟩
    next hskip =>
      obtain ⟨hne, hfinite⟩ := not_or.mp hskip
      have hi : i ∈ others S cpu q :=
        mem_filter.mpr ⟨mem_erase.mpr ⟨hne, hl i List.mem_cons_self⟩, hfinite⟩
      have hle : ((q i).rtRuntime : Int) ≤ (∑ j ∈ others S cpu q, (q j).rtRuntime : Nat) :=
        Int.ofNat_le.mpr (single_le_sum (f := fun j => (q j).rtRuntime) (fun _ _ => Nat.zero_le _) hi)
      split
      next hpos =>
        have hsigned : Word.toSigned 64 (q i).rtRuntime = (q i).rtRuntime := if_pos (by omega)
        dsimp only
        rw [hsigned]
        generalize hdiff : min ((q i).rtRuntime : Int) want = diff
        have hvisit : Reclaims S cpu [i] q (update q i ((q i).addRuntime (-diff))) diff :=
          .visit hi (by omega) (by omega)
        rw [s64_of_lt (by omega) (by omega)]
        split
        next hdone =>
          refine ⟨?_, .inl hdone⟩
          have htaken : want - (want - diff) = diff + 0 := by omega
          rw [htaken]
          exact hvisit.trans (.refl S cpu rest _)
        next hmore =>
          have hbound' : ((∑ j ∈ others S cpu (update q i ((q i).addRuntime (-diff))),
              (update q i ((q i).addRuntime (-diff)) j).rtRuntime : Nat) : Int) +
              max 0 (-(want - diff)) < 2 ^ 63 := by
            rw [hvisit.others_eq, hvisit.sum]
            omega
          obtain ⟨hreclaims, hend⟩ := ih hnodup hrest _ (want - diff) (by omega) hbound'
          generalize reclaimLoop cpu rest _ (want - diff) = r at hreclaims hend ⊢
          have htaken : want - r.2 = diff + (want - diff - r.2) := by omega
          refine ⟨htaken ▸ hvisit.trans hreclaims, hend.imp id (Or.imp ?_ ?_)⟩
          · intro hleft
            refine ⟨hleft.1, List.forall_mem_cons.mpr ⟨fun _ => ?_, fun j hj hmem => ?_⟩⟩
            · have hnew := addRuntime_rtRuntime (q i) (-diff) (by omega) (by omega)
              rw [hreclaims.frame i hnot, update_self]
              omega
            · exact hleft.2 j hj (by rw [hvisit.others_eq]; exact hmem)
          · intro hnobody
            omega
      next hneg =>
        refine ⟨?_, .inl rfl⟩
        have htaken : want - 0 = want + 0 := by omega
        rw [htaken]
        exact (Reclaims.visit hi (by omega) (by omega)).trans (.refl S cpu rest _)

end Disable

/-- The enabled queues of the domain have on average the runtime of the group. -/
def Conserved (b : RtBandwidth) (S : Finset (Fin n)) (q : Queues n) : Prop :=
  ∑ i ∈ S with (q i).rtRuntime ≠ runtimeInf, (q i).rtRuntime = #{i ∈ S | (q i).rtRuntime ≠ runtimeInf} * b.rtRuntime

section Conserved

variable {b : RtBandwidth} {cpu : Fin n} {S : Finset (Fin n)} {q q' : Queues n}

lemma Conserved.congr (h : ∀ i ∈ S, (q' i).rtRuntime = (q i).rtRuntime) (hq : Conserved b S q) : Conserved b S q' := by
  have hfilter : (S.filter fun i => (q' i).rtRuntime ≠ runtimeInf) = S.filter fun i => (q i).rtRuntime ≠ runtimeInf :=
    filter_congr fun i hi => by rw [h i hi]
  rwa [Conserved, hfilter, sum_congr rfl fun i hi => h i (mem_filter.mp hi).1]

lemma Shifts.conserved (h : Shifts S q q') (hq : Conserved b S q) : Conserved b S q' := by
  rwa [Conserved, h.filter_eq, h.sum]

/-- A queue that is disabled, or has just the runtime of the group, does not matter. -/
lemma conserved_iff_others (h : (q cpu).rtRuntime = runtimeInf ∨ (q cpu).rtRuntime = b.rtRuntime) :
    Conserved b S q ↔ ∑ i ∈ others S cpu q, (q i).rtRuntime = (others S cpu q).card * b.rtRuntime := by
  have herase : others S cpu q = (S.filter fun i => (q i).rtRuntime ≠ runtimeInf).erase cpu := by
    rw [others, filter_erase]
  rw [Conserved, herase]
  by_cases hmem : cpu ∈ S.filter fun i => (q i).rtRuntime ≠ runtimeInf
  · have hfinite := (mem_filter.mp hmem).2
    have hown : (q cpu).rtRuntime = b.rtRuntime := h.resolve_left hfinite
    rw [← add_sum_erase _ (fun i => (q i).rtRuntime) hmem, hown,
      ← card_erase_add_one hmem, Nat.add_mul, Nat.one_mul]
    omega
  · rw [erase_eq_of_notMem hmem]

lemma sum_enabled_of_mem (hcpu : cpu ∈ S) (hfinite : (q cpu).rtRuntime ≠ runtimeInf) :
    (q cpu).rtRuntime + ∑ i ∈ others S cpu q, (q i).rtRuntime = ∑ i ∈ S with (q i).rtRuntime ≠
    runtimeInf, (q i).rtRuntime := by
  rw [others, filter_erase]
  exact add_sum_erase _ (fun i => (q i).rtRuntime) (mem_filter.mpr ⟨hcpu, hfinite⟩)

lemma card_enabled_of_mem (hcpu : cpu ∈ S) (hfinite : (q cpu).rtRuntime ≠ runtimeInf) :
    (others S cpu q).card + 1 = #{i ∈ S | (q i).rtRuntime ≠ runtimeInf} := by
  rw [others, filter_erase]
  exact card_erase_add_one (mem_filter.mpr ⟨hcpu, hfinite⟩)

/-- What a queue lent can be taken back, and what it borrowed given back. -/
lemma reclaimLoop_conserves {span : List (Fin n)} (hspan : ∀ i, i ∈ span ↔ i ∈ S) (hnodup : span.Nodup)
    (hcpu : cpu ∈ S) (hfinite : (q cpu).rtRuntime ≠ runtimeInf) (hq : Conserved b S q)
    (hbound : ∑ i ∈ S with (q i).rtRuntime ≠ runtimeInf, (q i).rtRuntime < 2 ^ 63) :
    let r := reclaimLoop cpu span q (s64 (b.rtRuntime - (q cpu).rtRuntime))
    Reclaims S cpu span q r.1 (b.rtRuntime - (q cpu).rtRuntime) ∧ r.2 = 0 ∧
      ∑ i ∈ others S cpu r.1, (r.1 i).rtRuntime = (others S cpu r.1).card * b.rtRuntime := by
  have hsum := sum_enabled_of_mem hcpu hfinite
  have hcard := card_enabled_of_mem hcpu hfinite
  rw [Conserved, ← hsum, ← hcard, Nat.add_mul, Nat.one_mul] at hq
  rw [← hsum] at hbound
  have hexact : s64 ((b.rtRuntime : Int) - (q cpu).rtRuntime) = b.rtRuntime - (q cpu).rtRuntime :=
    s64_of_lt (by omega) (by omega)
  dsimp only
  rw [hexact]
  obtain ⟨hreclaims, hend⟩ := reclaimLoop_spec cpu span hnodup (fun i hi => (hspan i).mp hi) q
    (b.rtRuntime - (q cpu).rtRuntime) (by omega) (by omega)
  generalize reclaimLoop cpu span q (b.rtRuntime - (q cpu).rtRuntime) = r at hreclaims hend ⊢
  have htaken := hreclaims.sum
  have hdone : r.2 = 0 := by
    rcases hend with hzero | ⟨hpos, hall⟩ | ⟨hneg, hnone⟩
    · exact hzero
    · -- all others have given everything, which is at least what was lent
      have hnothing : ∑ i ∈ others S cpu q, (r.1 i).rtRuntime = 0 := by
        refine sum_eq_zero fun i hi => hall i ?_ hi
        exact (hspan i).mpr (mem_of_mem_erase (mem_filter.mp hi).1)
      rw [hnothing] at htaken
      omega
    · -- the queue is the only one, so it has what it started with
      have hempty : others S cpu q = ∅ := by
        refine eq_empty_of_forall_notMem fun i hi => hnone i ?_ hi
        exact (hspan i).mpr (mem_of_mem_erase (mem_filter.mp hi).1)
      rw [hempty, sum_empty, card_empty] at hq
      omega
  rw [hdone, sub_zero] at hreclaims htaken
  refine ⟨hreclaims, hdone, ?_⟩
  rw [hreclaims.others_eq]
  omega

lemma others_update (r : RtRq) : others S cpu (update q cpu r) = others S cpu q :=
  filter_congr fun i hi => by rw [update_of_ne (ne_of_mem_erase hi)]

/-- The queue of `cpu` may be set to infinite runtime or to that of the group. -/
lemma conserved_update {r : RtRq} (hr : r.rtRuntime = runtimeInf ∨ r.rtRuntime = b.rtRuntime)
    (h : ∑ i ∈ others S cpu q, (q i).rtRuntime = (others S cpu q).card * b.rtRuntime) :
    Conserved b S (update q cpu r) := by
  have hself : (update q cpu r cpu).rtRuntime = runtimeInf ∨ (update q cpu r cpu).rtRuntime = b.rtRuntime := by
    rwa [update_self]
  rw [conserved_iff_others hself, others_update]
  have hsum : ∑ i ∈ others S cpu q, (update q cpu r i).rtRuntime = ∑ i ∈ others S cpu q, (q i).rtRuntime := by
    refine sum_congr rfl fun i hi => ?_
    rw [update_of_ne (ne_of_mem_erase (mem_filter.mp hi).1)]
  rwa [hsum]

end Conserved

/-- The amounts of a group are small enough for signed arithmetic, unless it is not
limited. -/
def RtBandwidth.Fits (b : RtBandwidth) (n : Nat) : Prop :=
  b.rtRuntime = runtimeInf ∨ (n * b.rtRuntime < 2 ^ 63 ∧ b.rtPeriod < 2 ^ 63)

structure GroupInv (b : RtBandwidth) (rd : Fin n → Rd) (q : Queues n) : Prop where
  sum : ∀ r, Conserved b {i | rd i = r} q
  time : ∀ i, (q i).rtTime < 2 ^ 63
  infinite : b.rtRuntime = runtimeInf → ∀ i, (q i).rtRuntime = runtimeInf

namespace GroupInv

variable {b : RtBandwidth} {rd : Fin n → Rd} {q q' : Queues n} {cpu : Fin n} (h : GroupInv b rd q)
include h

lemma bound (hb : b.Fits n) (hfinite : (q cpu).rtRuntime ≠ runtimeInf) (r : Rd) :
    ∑ i ∈ ({i | rd i = r} : Finset (Fin n)) with (q i).rtRuntime ≠ runtimeInf, (q i).rtRuntime < 2 ^ 63 ∧
    b.rtPeriod < 2 ^ 63 := by
  have hsmall := hb.resolve_left fun hinf => hfinite (h.infinite hinf cpu)
  refine ⟨?_, hsmall.2⟩
  rw [h.sum r]
  refine lt_of_le_of_lt (Nat.mul_le_mul_right _ ?_) hsmall.1
  exact (card_le_univ _).trans (Fintype.card_fin n).le

/-- A change in one root domain leaves the others alone. -/
lemma sum_of_domain {r : Rd} (hr : Conserved b {i | rd i = r} q')
    (hother : ∀ i, rd i ≠ r → q' i = q i) (r' : Rd) : Conserved b {i | rd i = r'} q' := by
  by_cases heq : r' = r
  · rwa [heq]
  · refine (h.sum r').congr fun i hi => ?_
    rw [hother i]
    rwa [(mem_filter.mp hi).2]

lemma doBalanceRuntime (hb : b.Fits n) {span : List (Fin n)} (hspan : ∀ i, i ∈ span ↔ rd i = rd cpu)
    (hneeds : (q cpu).rtRuntime < (q cpu).rtTime) : GroupInv b rd (doBalanceRuntime b span cpu q).1 := by
  have hinf : runtimeInf = 2 ^ 64 - 1 := rfl
  have hfinite : (q cpu).rtRuntime ≠ runtimeInf := by
    have htime := h.time cpu
    omega
  obtain ⟨hsum, hperiod⟩ := h.bound hb hfinite (rd cpu)
  have hshifts := balanceLoop_shifts (b := b) (S := {i | rd i = rd cpu}) span.length hperiod
    (mem_filter.mpr ⟨mem_univ cpu, rfl⟩) span
    (fun i hi => mem_filter.mpr ⟨mem_univ i, (hspan i).mp hi⟩) q false h.time hfinite hsum
  refine ⟨h.sum_of_domain (hshifts.conserved (h.sum _)) ?_, ?_, ?_⟩
  · intro i hi
    exact hshifts.outside i fun hmem => hi (mem_filter.mp hmem).2
  · intro i
    rw [Rt.doBalanceRuntime, hshifts.time]
    exact h.time i
  · exact fun hinfinite i => (hshifts.enabled i).mpr (h.infinite hinfinite i)

lemma disableRuntime (hb : b.Fits n) {span : List (Fin n)}
    (hspan : ∀ i, i ∈ span ↔ rd i = rd cpu) (hnodup : span.Nodup) :
    GroupInv b rd (disableRuntime b span cpu q).1 ∧ (Rt.disableRuntime b span cpu q).2 = false := by
  -- what the queues have once the claims are settled
  suffices hsettled : ∀ r : Queues n × Int, r.2 = 0 → (∀ i, rd i ≠ rd cpu → r.1 i = q i) →
      (∀ i, (r.1 i).rtTime = (q i).rtTime) →
      (∀ i, (r.1 i).rtRuntime = runtimeInf ↔ (q i).rtRuntime = runtimeInf) →
      (∑ i ∈ others {i | rd i = rd cpu} cpu r.1, (r.1 i).rtRuntime =
        (others {i | rd i = rd cpu} cpu r.1).card * b.rtRuntime) →
      GroupInv b rd (update r.1 cpu
        { r.1 cpu with rtRuntime := runtimeInf, rtThrottled := false }) ∧ decide (r.2 ≠ 0) = false by
    rw [Rt.disableRuntime]
    split
    next hbalanced =>
      refine hsettled (q, 0) rfl (fun _ _ => rfl) (fun _ => rfl) (fun _ => Iff.rfl) ?_
      exact (conserved_iff_others hbalanced).mp (h.sum _)
    next hunbalanced =>
      have hfinite := (not_or.mp hunbalanced).1
      have hmem : ∀ i, i ∈ span ↔ i ∈ ({i | rd i = rd cpu} : Finset (Fin n)) := by
        intro i
        rw [hspan, mem_filter]
        exact (and_iff_right (mem_univ i)).symm
      obtain ⟨hreclaims, hzero, hothers⟩ := reclaimLoop_conserves hmem hnodup
        (mem_filter.mpr ⟨mem_univ cpu, rfl⟩) hfinite (h.sum _) (h.bound hb hfinite _).1
      refine hsettled _ hzero (fun i hi => hreclaims.frame i ?_) hreclaims.time hreclaims.enabled hothers
      exact fun hin => hi ((hspan i).mp hin)
  intro r hzero houtside htime henabled hothers
  refine ⟨⟨h.sum_of_domain (conserved_update (.inl rfl) hothers) ?_, ?_, ?_⟩, ?_⟩
  · intro i hi
    have hne : i ≠ cpu := by
      rintro rfl
      exact hi rfl
    rw [update_of_ne hne]
    exact houtside i hi
  · have hold : ∀ i, (r.1 i).rtTime < 2 ^ 63 := fun i => (htime i).symm ▸ h.time i
    exact (forall_update_iff r.1 fun _ a => a.rtTime < 2 ^ 63).mpr ⟨hold cpu, fun i _ => hold i⟩
  · intro hinf
    exact (forall_update_iff r.1 fun _ a => a.rtRuntime = runtimeInf).mpr
      ⟨rfl, fun i _ => (henabled i).mpr (h.infinite hinf i)⟩
  · rw [hzero]
    rfl

/-- A queue that is off, or has what it starts with, may be started again. -/
lemma enableRuntime (hcpu : (q cpu).rtRuntime = runtimeInf ∨ (q cpu).rtRuntime = b.rtRuntime) :
    GroupInv b rd (enableRuntime b cpu q) where
  sum r := conserved_update (.inr rfl) ((conserved_iff_others hcpu).mp (h.sum r))
  time := (forall_update_iff q fun _ a => a.rtTime < 2 ^ 63).mpr ⟨Nat.two_pow_pos 63, fun i _ => h.time i⟩
  infinite hinf := (forall_update_iff q fun _ a => a.rtRuntime = runtimeInf).mpr ⟨hinf, fun i _ => h.infinite hinf i⟩

lemma account {rtTime : Nat} (htime : rtTime < 2 ^ 63) (rtThrottled : Bool) :
    GroupInv b rd (update q cpu { q cpu with rtTime := rtTime, rtThrottled := rtThrottled }) := by
  have hruntime : ∀ i, (update q cpu { q cpu with rtTime := rtTime, rtThrottled := rtThrottled }
      i).rtRuntime = (q i).rtRuntime :=
    (forall_update_iff q fun i a => a.rtRuntime = (q i).rtRuntime).mpr ⟨rfl, fun _ _ => rfl⟩
  refine ⟨fun r => (h.sum r).congr fun i _ => hruntime i, ?_, fun hinf i => ?_⟩
  · exact (forall_update_iff q fun _ a => a.rtTime < 2 ^ 63).mpr ⟨htime, fun i _ => h.time i⟩
  · rw [hruntime i]
    exact h.infinite hinf i

/-- Such a queue may change its root domain. -/
lemma attach (hcpu : (q cpu).rtRuntime = runtimeInf ∨ (q cpu).rtRuntime = b.rtRuntime) (r : Rd) :
    GroupInv b (update rd cpu r) q := by
  refine ⟨fun r' => (conserved_iff_others hcpu).mpr ?_, h.time, h.infinite⟩
  have hdomain : ({i | update rd cpu r i = r'} : Finset (Fin n)).erase cpu =
      ({i | rd i = r'} : Finset (Fin n)).erase cpu := by
    ext i
    simp only [mem_erase, mem_filter, mem_univ, true_and]
    refine and_congr_right fun hi => ?_
    rw [update_of_ne hi]
  have hothers := (conserved_iff_others hcpu).mp (h.sum r')
  rw [others] at hothers ⊢
  rwa [hdomain]

end GroupInv

/-- A queue is started, and a CPU changes its root domain, when it is off or neither lends
nor borrows; and the time used is a positive signed number. -/
def Op.KeepsRuntime (bandwidth : G → RtBandwidth) (s : State G Rd n) : Op G Rd n → Prop
  | .enableRuntime g cpu =>
    (s.rtRq g cpu).rtRuntime = runtimeInf ∨ (s.rtRq g cpu).rtRuntime = (bandwidth g).rtRuntime
  | .attach cpu _ =>
    ∀ g, (s.rtRq g cpu).rtRuntime = runtimeInf ∨ (s.rtRq g cpu).rtRuntime = (bandwidth g).rtRuntime
  | .account _ _ rtTime _ => rtTime < 2 ^ 63
  | _ => True

instance [Fintype G] (bandwidth : G → RtBandwidth) (s : State G Rd n) (op : Op G Rd n) :
    Decidable (op.KeepsRuntime bandwidth s) := by
  induction op using Op.casesOn <;> dsimp only [Op.KeepsRuntime] <;> infer_instance

namespace State

variable {s : State G Rd n} {bandwidth : G → RtBandwidth}

/-- In every root domain the enabled queues of a group have together what they started
with. -/
def Conserves (bandwidth : G → RtBandwidth) (s : State G Rd n) : Prop :=
  ∀ g r, ∑ i with s.rd i = r ∧ (s.rtRq g i).rtRuntime ≠ runtimeInf, (s.rtRq g i).rtRuntime =
    #{i | s.rd i = r ∧ (s.rtRq g i).rtRuntime ≠ runtimeInf} * (bandwidth g).rtRuntime

structure Inv (bandwidth : G → RtBandwidth) (s : State G Rd n) : Prop where
  group : ∀ g, GroupInv (bandwidth g) s.rd (s.rtRq g)
  noBug : s.bug = false

lemma Inv.conserves (h : s.Inv bandwidth) : s.Conserves bandwidth := by
  intro g r
  have hsum := (h.group g).sum r
  rwa [Conserved, filter_filter] at hsum

lemma mem_span (s : State G Rd n) (r : Rd) (i : Fin n) : i ∈ s.span r ↔ s.rd i = r := by
  rw [span, List.mem_filter, decide_eq_true_eq]
  exact and_iff_right (List.mem_finRange i)

lemma nodup_span (s : State G Rd n) (r : Rd) : (s.span r).Nodup := (List.nodup_finRange n).filter _

lemma boot_inv (bandwidth : G → RtBandwidth) (rd : Fin n → Rd) : (boot bandwidth rd).Inv bandwidth := by
  refine ⟨fun g => ⟨fun r => ?_, fun _ => Nat.two_pow_pos 63, fun hinf _ => hinf⟩, rfl⟩
  rw [Conserved]
  exact sum_const_nat fun _ _ => rfl

variable [DecidableEq G]

lemma Inv.setGroup (h : s.Inv bandwidth) {g : G} {q : Queues n}
    (hq : GroupInv (bandwidth g) s.rd q) : (s.setGroup g q).Inv bandwidth := by
  refine ⟨?_, h.noBug⟩
  exact (forall_update_iff s.rtRq fun g q => GroupInv (bandwidth g) s.rd q).mpr ⟨hq, fun g' _ => h.group g'⟩

lemma Inv.step (hfits : ∀ g, (bandwidth g).Fits n) {op : Op G Rd n} (h : s.Inv bandwidth)
    (hop : op.Allowed s) (hkeeps : op.KeepsRuntime bandwidth s) : (s.step bandwidth op).Inv bandwidth := by
  cases op with
  | balanceRuntime g cpu =>
    exact h.setGroup ((h.group g).doBalanceRuntime (hfits g) (s.mem_span _) hop)
  | disableRuntime g cpu =>
    rw [State.step]
    split
    · obtain ⟨hq, hbug⟩ := (h.group g).disableRuntime (hfits g) (s.mem_span (s.rd cpu)) (s.nodup_span _)
      refine ⟨(h.setGroup hq).group, ?_⟩
      dsimp only
      rw [h.noBug, hbug]
      rfl
    · exact h
  | enableRuntime g cpu =>
    rw [State.step]
    split
    · exact h.setGroup ((h.group g).enableRuntime hkeeps)
    · exact h
  | account g cpu rtTime rtThrottled => exact h.setGroup ((h.group g).account hkeeps rtThrottled)
  | attach cpu r => exact ⟨fun g => (h.group g).attach (hkeeps g) r, h.noBug⟩
  | startScheduler => exact ⟨h.group, h.noBug⟩

end State

/-- In every run in which queues are only started when they are off or neither lend nor
borrow, runtime is conserved and a disabled queue gets back all it lent. -/
theorem enabled_runtime_conserved [DecidableEq G] (bandwidth : G → RtBandwidth) (hfits : ∀ g, (bandwidth g).Fits n)
    (rd : Fin n → Rd) (ops : List (Op G Rd n))
    (hops : Run.Each (step · bandwidth) (fun s op => op.Allowed s ∧ op.KeepsRuntime bandwidth s)
      (boot bandwidth rd) ops) :
    Run.Always (step · bandwidth) (fun s => s.Conserves bandwidth ∧ s.bug = false) (boot bandwidth rd) ops := by
  have hinv := Run.always_of_each (P := State.Inv bandwidth) (fun s op hs hop => hs.step hfits hop.1 hop.2)
    (boot_inv bandwidth rd) hops
  exact hinv.mono fun s hs => ⟨hs.conserves, hs.noBug⟩

/-- The default of 95% of a second. -/
def defaultBandwidth : Unit → RtBandwidth := fun _ => { rtPeriod := 1000000000, rtRuntime := 950000000 }

/-- The first of three CPUs borrows from the others, and goes offline and online again. -/
theorem enabled_runtime_conserved_three_cpus : Run.Always (step · defaultBandwidth)
      (fun s : State Unit Unit 3 => s.Conserves defaultBandwidth ∧ s.bug = false)
      (boot defaultBandwidth fun _ => ())
      [.startScheduler, .account () 0 1000000000 false, .balanceRuntime () 0, .disableRuntime () 0,
        .disableRuntime () 0, .enableRuntime () 0] :=
  enabled_runtime_conserved _ (fun () => .inr (by decide)) _ _ (by decide +kernel)

/-- A CPU is taken down and up again; it borrows after `rq_online_rt` has started its
queue and before the notifier does so once more. Then both CPUs leave the root domain. -/
def startedTwice : List (Op Unit Unit 2) :=
  [.startScheduler, .disableRuntime () 1, .disableRuntime () 1, .enableRuntime () 1,
    .account () 1 1000000000 false, .balanceRuntime () 1, .enableRuntime () 1,
    .disableRuntime () 0, .disableRuntime () 1]

/-- The queue loses what it borrowed; when the lender wants it back, and then the borrower,
nobody is left who has it. -/
theorem startedTwice_leaks : Run.Each (step · defaultBandwidth) (fun s op => op.Allowed s)
        (boot defaultBandwidth fun _ => ()) startedTwice ∧
      ¬Run.Always (step · defaultBandwidth) (State.Conserves defaultBandwidth)
        (boot defaultBandwidth fun _ => ()) startedTwice ∧
      (startedTwice.foldl (step · defaultBandwidth) (boot defaultBandwidth fun _ => ())).bug = true := by
  have hleak : ¬State.Conserves defaultBandwidth
      ((startedTwice.take 7).foldl (step · defaultBandwidth) (boot defaultBandwidth fun _ => ())) := by
    intro hconserves
    have hsum := hconserves () ()
    revert hsum
    decide +kernel
  refine ⟨by decide +kernel, fun halways => hleak ?_, by decide +kernel⟩
  exact (Run.Always.take halways 7).last

end BigLittle.Rt
