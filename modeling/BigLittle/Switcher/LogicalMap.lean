import Mathlib.Logic.Equiv.Basic
import BigLittle.Switcher.SwitchTo

/-!
# The logical map over any number of switches

A switch exchanges the entries of a logical CPU and its counterpart. So the map stays a
permutation of the one the switcher was enabled with, each pair keeps its two physical CPUs, and
the question on which logical CPU a physical one is grouped has one answer at all times.
Disabling the switcher takes each pair back that is on the other cluster.
-/

namespace BigLittle.Switcher

open List
open Function (update update_of_ne update_self)

variable {n : Nat}

def eunatch : Int := -49

namespace System

variable (s : System n)

/-- The CPU is one of the two of a pair. -/
def grouped (mpidr : Mpidr) (i : Fin n) : Bool :=
  decide (i ∈ s.online) &&
    match s.pairing i with
    | none => false
    | some j => decide (mpidr = s.map i) || decide (mpidr = s.map j)

def getLogicalIndex (mpidr : Mpidr) : Except Int (Fin n) :=
  if s.active then
    match (finRange n).find? (s.grouped mpidr) with
    | none => .error einval
    | some i => .ok i
  else .error eunatch

/-- What happens to one CPU when the switcher is disabled: whether it has a thread, the switch that
is pending when the thread is stopped, and whether the thread that is to take it back can be
created. -/
structure Stop (n : Nat) where
  hasThread : Fin n → Bool
  pending : Fin n → Option (Call n)
  created : Fin n → Bool
  back : Fin n → Call n

variable (board : Board) (stop : Stop n) (i : Fin n)

/-- The pending switch, if there is one. -/
def finish : System n :=
  match stop.pending i with
  | none => s
  | some call => (s.switchTo board { call with this := i }).2

/-- Back to the original cluster by a thread of its own. -/
def takeBack : System n :=
  if (s.map i).cluster = s.originalCluster i then s
  else
    let s :=
      if stop.created i then
        (s.switchTo board { stop.back i with this := i, newCluster := s.originalCluster i }).2
      else s
    if stop.created i = true ∧ (s.map i).cluster = s.originalCluster i then s
    else { s with removed := (s.pairing i).elim s.removed s.removed.erase }

/-- The loop of `bL_switcher_disable` -/
def disableCpu : System n :=
  if i ∈ s.online then
    if stop.hasThread i then (s.finish board stop i).takeBack board stop i else s
  else s

/-- `bL_switcher_disable` of an active switcher, when no notifier objects, up to
`bL_switcher_restore_cpus` -/
def disable : System n := (finRange n).foldl (fun s i => s.disableCpu board stop i) { s with active := false }

end System

/-- Nothing that the switch calls fails. -/
def Call.Succeeds (call : Call n) : Prop :=
  call.powerUp = 0 ∧ call.pmEnter = 0 ∧ call.suspend = 0 ∧ call.pmExit = 0

/-- The state after `bL_switcher_enable`: the pairs are those of `bL_switcher_halve_cpus`. -/
structure Enabled (s : System n) : Prop where
  active : s.active = true
  online : ∀ i, i ∈ s.online ↔ s.pairing i ≠ none
  injective : ∀ i i' j, s.pairing i = some j → s.pairing i' = some j → i = i'
  apart : ∀ i j, s.pairing i = some j → s.pairing j = none
  other : ∀ i j, s.pairing i = some j → (s.map i).cluster ≠ (s.map j).cluster
  original : ∀ i ∈ s.online, s.originalCluster i = (s.map i).cluster
  running : ∀ i ∈ s.online, s.running i = s.map i

/-- The pairs that `bL_switcher_halve_cpus` forms are what is needed here. -/
lemma Enabled.of_halved {s : Layout n} {t : System n} (h : Layout.Halved s ⟨t.online, t.map, t.pairing, t.removed,
      fun cpu => t.gicId cpu, t.originalCluster⟩) (hmap : t.map = s.map) (hactive : t.active = true)
    (horiginal : ∀ i ∈ t.online, t.originalCluster i = (t.map i).cluster)
    (hrunning : ∀ i ∈ t.online, t.running i = t.map i) : Enabled t where
  active := hactive
  online i := by
    rw [show t.online = _ from h.online, Layout.mem_kept]
    exact Option.ne_none_iff_exists'.symm
  injective := h.injective
  apart := h.apart
  other i j hij := by
    rw [hmap]
    exact (h.other i j hij).2.2
  original := horiginal
  running := hrunning

namespace System

variable {s₀ s t : System n} {board : Board} {seen : List (Fin n)} {call : Call n} {i : Fin n}

lemma ne_of_pair (h : Enabled s₀) {i j : Fin n} (hij : s₀.pairing i = some j) : i ≠ j := by
  rintro rfl
  exact nomatch hij.symm.trans (h.apart i i hij)

/-- Two pairs have no CPU in common. -/
lemma pair_disjoint (h : Enabled s₀) {i j k l : Fin n} (hij : s₀.pairing i = some j) (hkl : s₀.pairing k = some l)
    (hne : k ≠ i) : k ≠ j ∧ l ≠ i ∧ l ≠ j := by
  refine ⟨?_, ?_, ?_⟩
  · rintro rfl
    exact nomatch hkl.symm.trans (h.apart i k hij)
  · rintro rfl
    exact nomatch hij.symm.trans (h.apart k l hkl)
  · rintro rfl
    exact hne (h.injective k i l hkl hij)

/-- Between switches each pair has its two physical CPUs, in one order or the other. -/
structure Switched (s₀ s : System n) : Prop where
  online : s.online = s₀.online
  pairing : s.pairing = s₀.pairing
  original : s.originalCluster = s₀.originalCluster
  running : ∀ i ∈ s.online, s.running i = s.map i
  permutation : ∃ σ : Equiv.Perm (Fin n), s.map = s₀.map ∘ σ
  pair : ∀ i j, s₀.pairing i = some j →
    s.map i = s₀.map i ∧ s.map j = s₀.map j ∨ s.map i = s₀.map j ∧ s.map j = s₀.map i
  alone : ∀ k, s₀.pairing k = none → (∀ i, s₀.pairing i ≠ some k) → s.map k = s₀.map k

lemma switched_refl (h : Enabled s₀) : Switched s₀ s₀ where
  online := rfl
  pairing := rfl
  original := rfl
  running := h.running
  permutation := ⟨Equiv.refl _, rfl⟩
  pair _ _ _ := .inl ⟨rfl, rfl⟩
  alone _ _ _ := rfl

lemma swap_eq_update (map : Fin n → Mpidr) (i j : Fin n) :
    update (update map i (map j)) j (map i) = map ∘ Equiv.swap i j := by
  funext k
  rw [Function.comp_apply]
  by_cases hkj : k = j
  · rw [hkj, update_self, Equiv.swap_apply_right]
  · rw [update_of_ne hkj]
    by_cases hki : k = i
    · rw [hki, update_self, Equiv.swap_apply_left]
    · rw [update_of_ne hki, Equiv.swap_apply_of_ne_of_ne hki hkj]

lemma switchTo_returned (board : Board) (hcall : call.Succeeds) (hrunning : s.running call.this = s.map call.this)
    {that : Fin n} (hpair : s.pairing call.this = some that) : (s.switchTo board call).1 = .returned 0 := by
  obtain ⟨hpower, henter, hsuspend, hexit⟩ := hcall
  by_cases hcluster : call.newCluster = (s.map call.this).cluster
  · rw [switchTo_same hrunning hcluster]
  · rw [switchTo_of_paired hrunning hpair hcluster]
    dsimp only
    rw [if_neg (not_not.mpr hpower), if_neg (not_not.mpr henter), hsuspend, if_neg (Int.lt_irrefl 0),
      if_neg (Int.lt_irrefl 0), hexit]

/-- A successful switch leaves everything alone or swaps the pair. -/
lemma switchTo_succeeds (hret : (s.switchTo board call).1 = .returned 0)
    (hrunning : s.running call.this = s.map call.this) {that : Fin n} (hpair : s.pairing call.this = some that) :
    call.newCluster = (s.map call.this).cluster ∧ (s.switchTo board call).2 = s ∨
      call.newCluster ≠ (s.map call.this).cluster ∧ ∃ vectors pokes completions, (s.switchTo board call).2 = { s with
          map := update (update s.map call.this (s.map that)) that (s.map call.this)
          running := update s.running call.this (s.map that)
          entryVector := vectors
          earlyPoke := pokes
          completion := completions } := by
  by_cases hcluster : call.newCluster = (s.map call.this).cluster
  · rw [switchTo_same hrunning hcluster]
    exact .inl ⟨hcluster, rfl⟩
  · refine .inr ⟨hcluster, ?_⟩
    rw [switchTo_of_paired hrunning hpair hcluster] at hret ⊢
    dsimp only at hret ⊢
    split at hret
    next hpower => exact absurd (Outcome.returned.inj hret) hpower
    next hpower =>
      rw [if_neg hpower]
      split at hret
      · exact nomatch hret
      next henter =>
        rw [if_neg henter]
        split at hret
        · exact nomatch hret
        next hpos =>
          rw [if_neg hpos]
          split at hret
          · exact nomatch hret
          next hneg =>
            rw [if_neg hneg]
            simp only [resume, swapMap, setEarlyPoke, prepare, registerIpiCompletion, setEntryVector]
            exact ⟨_, _, _, rfl⟩

lemma Switched.swap (h : Enabled s₀) (hs : Switched s₀ s) {i j : Fin n} (hij : s₀.pairing i = some j)
    (honline : t.online = s.online) (hpairing : t.pairing = s.pairing)
    (horiginal : t.originalCluster = s.originalCluster) (hrunning : t.running = update s.running i (s.map j))
    (hmap : t.map = update (update s.map i (s.map j)) j (s.map i)) : Switched s₀ t := by
  have hne := ne_of_pair h hij
  have hi : t.map i = s.map j := by rw [hmap, update_of_ne hne, update_self]
  have hj : t.map j = s.map i := by rw [hmap, update_self]
  have hother : ∀ k, k ≠ i → k ≠ j → t.map k = s.map k := by
    intro k hki hkj
    rw [hmap, update_of_ne hkj, update_of_ne hki]
  constructor
  case online => exact honline.trans hs.online
  case pairing => exact hpairing.trans hs.pairing
  case original => exact horiginal.trans hs.original
  case running =>
    intro k hk
    rw [honline] at hk
    rw [hrunning]
    by_cases hki : k = i
    · rw [hki, update_self, hi]
    · have hkj : k ≠ j := by
        rintro rfl
        rw [hs.online] at hk
        exact (h.online k).mp hk (h.apart i k hij)
      rw [update_of_ne hki, hother k hki hkj]
      exact hs.running k hk
  case permutation =>
    obtain ⟨σ, hσ⟩ := hs.permutation
    refine ⟨(Equiv.swap i j).trans σ, ?_⟩
    rw [hmap, swap_eq_update s.map i j, hσ]
    rfl
  case pair =>
    intro k l hkl
    by_cases hki : k = i
    · subst hki
      obtain rfl : l = j := Option.some.inj (hkl.symm.trans hij)
      rw [hi, hj]
      exact (hs.pair k l hkl).symm.imp And.symm And.symm
    · obtain ⟨hkj, hli, hlj⟩ := pair_disjoint h hij hkl hki
      rw [hother k hki hkj, hother l hli hlj]
      exact hs.pair k l hkl
  case alone =>
    intro k hk hfree
    have hki : k ≠ i := by
      rintro rfl
      exact nomatch hk.symm.trans hij
    have hkj : k ≠ j := by
      rintro rfl
      exact hfree i hij
    rw [hother k hki hkj]
    exact hs.alone k hk hfree

lemma Switched.switchTo (h : Enabled s₀) (hs : Switched s₀ s)
    (hret : (s.switchTo board call).1 = .returned 0) (honline : call.this ∈ s₀.online) :
    Switched s₀ (s.switchTo board call).2 ∧ (s.switchTo board call).2.active = s.active := by
  obtain ⟨that, hpair⟩ := Option.ne_none_iff_exists'.mp ((h.online call.this).mp honline)
  have hrunning := hs.running call.this (by rw [hs.online]; exact honline)
  obtain ⟨-, heq⟩ | ⟨-, _, _, _, heq⟩ := switchTo_succeeds hret hrunning (by rw [hs.pairing]; exact hpair)
  · rw [heq]
    exact ⟨hs, rfl⟩
  · rw [heq]
    exact ⟨hs.swap h hpair rfl rfl rfl rfl rfl, rfl⟩

/-! ### Questions between switches -/

lemma Switched.grouped (hs : Switched s₀ s) (mpidr : Mpidr) (i : Fin n) : s.grouped mpidr i = s₀.grouped mpidr i := by
  rw [System.grouped, System.grouped, hs.online, hs.pairing]
  cases hpair : s₀.pairing i with
  | none => rfl
  | some j =>
    dsimp only
    rcases hs.pair i j hpair with ⟨hi, hj⟩ | ⟨hi, hj⟩
    · rw [hi, hj]
    · rw [hi, hj, Bool.or_comm (decide (mpidr = s₀.map j))]

lemma Switched.getLogicalIndex (hs : Switched s₀ s) (hactive : s.active = s₀.active) (mpidr : Mpidr) :
    s.getLogicalIndex mpidr = s₀.getLogicalIndex mpidr := by
  have hgrouped : s.grouped mpidr = s₀.grouped mpidr := funext (hs.grouped mpidr)
  rw [System.getLogicalIndex, System.getLogicalIndex, hactive, hgrouped]

/-! ### Disabling -/

/-- The pairs of the CPUs that have been dealt with are on their original cluster. -/
structure Returned (s₀ : System n) (seen : List (Fin n)) (s : System n) : Prop extends Switched s₀ s where
  back : ∀ i ∈ seen, i ∈ s₀.online → ∀ j, s₀.pairing i = some j → s.map i = s₀.map i ∧ s.map j = s₀.map j

section

variable (h : Enabled s₀) (hs : Switched s₀ s)
include h hs

/-- Where a pair is on its original cluster, it is as it was. -/
lemma Switched.back {i j : Fin n} (hij : s₀.pairing i = some j)
    (hcluster : (s.map i).cluster = s₀.originalCluster i) : s.map i = s₀.map i ∧ s.map j = s₀.map j := by
  rcases hs.pair i j hij with hsame | ⟨hi, -⟩
  · exact hsame
  · have honline : i ∈ s₀.online := (h.online i).mpr (by rw [hij]; exact nofun)
    rw [hi, h.original i honline] at hcluster
    exact absurd hcluster.symm (h.other i j hij)

/-- Nothing stops the switch of an online CPU. -/
lemma Switched.returned (board : Board) (hcall : call.Succeeds)
    (honline : call.this ∈ s₀.online) : (s.switchTo board call).1 = .returned 0 := by
  obtain ⟨that, hpair⟩ := Option.ne_none_iff_exists'.mp ((h.online call.this).mp honline)
  have hrunning := hs.running call.this (by rw [hs.online]; exact honline)
  rw [← hs.pairing] at hpair
  exact switchTo_returned board hcall hrunning hpair

/-- A switch of one pair leaves the others. -/
lemma switchTo_map_of_ne (hret : (s.switchTo board call).1 = .returned 0) (honline : call.this ∈ s₀.online)
    {k l : Fin n} (hkl : s₀.pairing k = some l) (hk : k ≠ call.this) :
    (s.switchTo board call).2.map k = s.map k ∧ (s.switchTo board call).2.map l = s.map l := by
  obtain ⟨that, hpair⟩ := Option.ne_none_iff_exists'.mp ((h.online call.this).mp honline)
  have hrunning := hs.running call.this (by rw [hs.online]; exact honline)
  obtain ⟨hkj, hli, hlj⟩ := pair_disjoint h hpair hkl hk
  obtain ⟨-, heq⟩ | ⟨-, _, _, _, heq⟩ := switchTo_succeeds hret hrunning (by rw [hs.pairing]; exact hpair)
  · rw [heq]
    exact ⟨rfl, rfl⟩
  · rw [heq]
    dsimp only
    rw [update_of_ne hkj, update_of_ne hk, update_of_ne hlj, update_of_ne hli]
    exact ⟨rfl, rfl⟩

end

lemma Returned.switchTo (h : Enabled s₀) (hs : Returned s₀ seen s) (hret : (s.switchTo board call).1 = .returned 0)
    (honline : call.this ∈ s₀.online) (hnew : call.this ∉ seen) : Returned s₀ seen (s.switchTo board call).2 := by
  refine ⟨(hs.toSwitched.switchTo h hret honline).1, fun k hk hon l hkl => ?_⟩
  have hne : k ≠ call.this := fun heq => hnew (heq ▸ hk)
  obtain ⟨hmapk, hmapl⟩ := switchTo_map_of_ne h hs.toSwitched hret honline hkl hne
  rw [hmapk, hmapl]
  exact hs.back k hk hon l hkl

variable {stop : Stop n}

/-- No switch fails while the switcher is disabled. -/
structure Stop.Succeeds (stop : Stop n) : Prop where
  pending : ∀ i call, stop.pending i = some call → call.Succeeds
  created : ∀ i, stop.created i = true
  back : ∀ i, (stop.back i).Succeeds

lemma Returned.finish (h : Enabled s₀) (hs : Returned s₀ seen s) (hstop : Stop.Succeeds stop)
    (honline : i ∈ s₀.online) (hnew : i ∉ seen) : Returned s₀ seen (s.finish board stop i) := by
  rw [System.finish]
  split
  next => exact hs
  next call hpending =>
    have hsucceeds : Call.Succeeds { call with this := i } := hstop.pending i call hpending
    exact hs.switchTo h (hs.toSwitched.returned h board hsucceeds honline) honline hnew

lemma Returned.takeBack (h : Enabled s₀) (hs : Returned s₀ seen s) (hstop : Stop.Succeeds stop)
    (honline : i ∈ s₀.online) (hnew : i ∉ seen) : Returned s₀ (i :: seen) (s.takeBack board stop i) := by
  -- the pair is back once its first CPU is on its original cluster
  have hdone : ∀ {t : System n}, Returned s₀ seen t → (t.map i).cluster = t.originalCluster i →
      Returned s₀ (i :: seen) t := by
    intro t ht hcluster
    refine ⟨ht.toSwitched, fun k hk hon l hkl => ?_⟩
    rcases mem_cons.mp hk with rfl | hk
    · exact ht.toSwitched.back h hkl (by rw [hcluster, ht.original])
    · exact ht.back k hk hon l hkl
  rw [System.takeBack]
  split
  next hcluster => exact hdone hs hcluster
  next hcluster =>
    have hrunning := hs.running i (by rw [hs.online]; exact honline)
    obtain ⟨j, hij⟩ := Option.ne_none_iff_exists'.mp ((h.online i).mp honline)
    set call : Call n := { stop.back i with this := i, newCluster := s.originalCluster i } with hcall
    have hret := hs.toSwitched.returned h board (show call.Succeeds from hstop.back i) honline
    have hnext := hs.switchTo h hret honline hnew
    have hback : ((s.switchTo board call).2.map i).cluster = (s.switchTo board call).2.originalCluster i := by
      obtain ⟨heq, -⟩ | ⟨-, _, _, _, heq⟩ := switchTo_succeeds hret hrunning (by rw [hs.pairing]; exact hij)
      · exact absurd heq.symm hcluster
      · rw [heq]
        dsimp only
        rw [update_of_ne (ne_of_pair h hij), update_self]
        rcases hs.pair i j hij with ⟨hi, -⟩ | ⟨-, hj⟩
        · rw [hi, hs.original, h.original i honline] at hcluster
          exact absurd rfl hcluster
        · rw [hj, hs.original, h.original i honline]
    rw [hstop.created i, if_pos rfl, if_pos ⟨rfl, hback⟩]
    exact hdone hnext hback

/-- A CPU without a thread has never been switched. -/
lemma Returned.disableCpu (h : Enabled s₀) (board : Board) (hs : Returned s₀ seen s) (hstop : Stop.Succeeds stop)
    (hthread : stop.hasThread i = true ↔ i ∉ seen) : Returned s₀ (i :: seen) (s.disableCpu board stop i) := by
  have hskip : (i ∈ s₀.online → i ∈ seen) → Returned s₀ (i :: seen) s := by
    refine fun hseen => ⟨hs.toSwitched, fun k hk hon l hkl => ?_⟩
    rcases mem_cons.mp hk with rfl | hk
    · exact hs.back k (hseen hon) hon l hkl
    · exact hs.back k hk hon l hkl
  rw [System.disableCpu]
  split
  next honline =>
    rw [hs.online] at honline
    split
    next hyes =>
      have hnew := hthread.mp hyes
      exact (hs.finish h hstop honline hnew).takeBack h hstop honline hnew
    next hno => exact hskip fun _ => not_not.mp fun hnew => hno (hthread.mpr hnew)
  next hoffline => exact hskip fun hon => absurd (hs.online ▸ hon) hoffline

lemma Returned.disable (h : Enabled s₀) (board : Board) (hstop : Stop.Succeeds stop) {l seen : List (Fin n)}
    (hs : Returned s₀ seen s) (hnodup : l.Nodup) (hthread : ∀ i ∈ l, stop.hasThread i = true ↔ i ∉ seen) :
    Returned s₀ (l.reverse ++ seen) (l.foldl (fun s i => s.disableCpu board stop i) s) := by
  induction l generalizing seen s with
  | nil => exact hs
  | cons i rest ih =>
    obtain ⟨hi, hrest⟩ := nodup_cons.mp hnodup
    have hstep := hs.disableCpu h board hstop (hthread i mem_cons_self)
    have hrun := ih hstep hrest fun k hk => ?_
    · rwa [reverse_cons, append_assoc]
    · rw [hthread k (mem_cons_of_mem i hk), mem_cons, not_or]
      exact (and_iff_right fun heq : k = i => hi (heq ▸ hk)).symm

/-- When all pairs are back the map is the original one. -/
lemma Returned.map_eq (h : Enabled s₀) (hs : Returned s₀ seen s) (hall : ∀ i, i ∈ seen) : s.map = s₀.map := by
  have hpair : ∀ i j, s₀.pairing i = some j → s.map i = s₀.map i ∧ s.map j = s₀.map j := by
    intro i j hij
    exact hs.back i (hall i) ((h.online i).mpr (by rw [hij]; exact nofun)) j hij
  funext k
  cases hk : s₀.pairing k with
  | some j => exact (hpair k j hk).1
  | none =>
    by_cases hpartner : ∃ i, s₀.pairing i = some k
    · obtain ⟨i, hi⟩ := hpartner
      exact (hpair i k hi).2
    · exact hs.alone k hk fun i hi => hpartner ⟨i, hi⟩

end System

/-! ### Any sequence of switches -/

/-- What is the same at all times between switches. -/
structure Kept (s₀ s : System n) : Prop where
  permutation : ∃ σ : Equiv.Perm (Fin n), s.map = s₀.map ∘ σ
  pair : ∀ i j, s₀.pairing i = some j → ({s.map i, s.map j} : Set Mpidr) = {s₀.map i, s₀.map j}
  index : ∀ mpidr, s.getLogicalIndex mpidr = s₀.getLogicalIndex mpidr

lemma System.Switched.kept {s₀ s : System n} (hs : s₀.Switched s) (hactive : s.active = s₀.active) : Kept s₀ s where
  permutation := hs.permutation
  pair i j hij := by
    rcases hs.pair i j hij with ⟨hi, hj⟩ | ⟨hi, hj⟩
    · rw [hi, hj]
    · rw [hi, hj]
      exact Set.pair_comm _ _
  index := hs.getLogicalIndex hactive

/-- A switch that a thread makes, with success. -/
def Made (board : Board) (hasThread : Fin n → Bool) (s : System n) (call : Call n) : Prop :=
  (s.switchTo board call).1 = .returned 0 ∧ call.this ∈ s.online ∧ hasThread call.this = true

/-- Over any sequence of successful switches the map stays a permutation, pairs keep their physical
CPUs and the logical index of a physical CPU does not change; disabling the switcher without a
failed switch restores the map. -/
theorem map_kept {s₀ : System n} (h : Enabled s₀) {board : Board} {stop : System.Stop n}
    (hstop : System.Stop.Succeeds stop) {calls : List (Call n)}
    (hcalls : Run.Each (fun s call => (s.switchTo board call).2) (Made board stop.hasThread) s₀ calls) :
    Run.Always (fun s call => (s.switchTo board call).2) (Kept s₀) s₀ calls ∧
    ((calls.foldl (fun s call => (s.switchTo board call).2) s₀).disable board stop).map = s₀.map := by
  -- the pairs of CPUs without a thread count as dealt with from the start
  set idle := (finRange n).filter fun i => !stop.hasThread i with hidle
  have hmem : ∀ i, stop.hasThread i = true ↔ i ∉ idle := by
    intro i
    rw [hidle, mem_filter, Bool.not_eq_true', not_and]
    refine ⟨fun hthread _ hno => (nomatch hthread.symm.trans hno), fun hno => ?_⟩
    exact Bool.of_not_eq_false (hno (mem_finRange i))
  have hrun : Run.Always (fun s call => (s.switchTo board call).2)
      (fun s => s₀.Returned idle s ∧ s.active = s₀.active) s₀ calls := by
    refine Run.always_of_each (fun s call hs hmade => ?_)
      ⟨⟨System.switched_refl h, fun _ _ _ _ _ => ⟨rfl, rfl⟩⟩, rfl⟩ hcalls
    obtain ⟨hret, honline, hthread⟩ := hmade
    rw [hs.1.online] at honline
    refine ⟨hs.1.switchTo h hret honline ((hmem call.this).mp hthread), ?_⟩
    exact (hs.1.toSwitched.switchTo h hret honline).2.trans hs.2
  refine ⟨hrun.mono fun s hs => hs.1.toSwitched.kept hs.2, ?_⟩
  set s := calls.foldl (fun s call => (s.switchTo board call).2) s₀
  have hlast : s₀.Returned idle { s with active := false } := by
    obtain ⟨hs, -⟩ := hrun.last
    exact ⟨⟨hs.online, hs.pairing, hs.original, hs.running, hs.permutation, hs.pair, hs.alone⟩, hs.back⟩
  have hback := hlast.disable h board hstop (nodup_finRange n) fun i _ => hmem i
  exact hback.map_eq h fun i => mem_append_left _ (mem_reverse.mpr (mem_finRange i))

/-- Two pairs, of which the first is switched there and back and the second there. -/
def twoPairs : System 4 where
  online := {0, 1}
  map i := ⟨i.val % 2, i.val / 2⟩
  pairing i := if i = 0 then some 3 else if i = 1 then some 2 else none
  originalCluster _ := 0
  removed := {2, 3}
  active := true
  running i := ⟨i.val % 2, i.val / 2⟩
  entryVector _ := none
  earlyPoke _ := (0, 0)
  completion _ := none
  gicId cpu := cpu.cpu + 2 * cpu.cluster

def thereAndBack : List (Call 4) := [⟨0, 1, 0, 0, 0, 0, 0⟩, ⟨1, 1, 0, 0, 0, 0, 0⟩, ⟨0, 0, 0, 0, 0, 0, 0⟩]

def stopAll : System.Stop 4 where
  hasThread _ := true
  pending _ := none
  created _ := true
  back i := ⟨i, 0, 0, 0, 0, 0, 0⟩

/-- They are formed from four CPUs that are online. -/
lemma enabled_twoPairs : Enabled twoPairs :=
  .of_halved (s := ⟨.univ, twoPairs.map, fun _ => none, ∅, fun _ => -1, fun _ => 0⟩)
    ⟨by decide, by decide, by decide, by decide, by decide⟩ rfl rfl (by decide) (by decide)

theorem map_kept_two_pairs : (thereAndBack.foldl (fun s call => (s.switchTo ⟨0, 0⟩ call).2) twoPairs).map 1 =
    ⟨0, 1⟩ ∧ ((thereAndBack.foldl (fun s call => (s.switchTo ⟨0, 0⟩ call).2) twoPairs).disable ⟨0, 0⟩ stopAll).map =
    twoPairs.map := by
  have hstop : System.Stop.Succeeds stopAll :=
    ⟨fun _ _ (h : none = some _) => (nomatch h), fun _ => rfl, fun _ => ⟨rfl, rfl, rfl, rfl⟩⟩
  refine ⟨by decide +kernel, (map_kept enabled_twoPairs hstop ?_).2⟩
  exact ⟨⟨by decide +kernel, by decide, rfl⟩, ⟨by decide +kernel, by decide +kernel, rfl⟩,
    ⟨by decide +kernel, by decide +kernel, rfl⟩, trivial⟩

end BigLittle.Switcher
