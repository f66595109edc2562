import BigLittle.Cpufreq.SetRate
import BigLittle.Lib.Mutex

/-!
# The clocks are fast enough

While the mutex of a cluster is held, CPUs may leave the cluster but none joins it. So what a scan
has read of the CPUs that stay is what holds when the clock is set. Only a call that fails breaks
this: its CPU goes back to the old cluster without the mutex of that cluster, where the clock may
have been set for the others in the meantime.
-/

namespace BigLittle.Cpufreq.SetRate

open SetRate.State
open Function (update update_eq_self update_eq_self_iff update_of_ne update_self)
open List (forall_mem_cons forall_mem_singleton mem_singleton_self)

variable {n : Nat} {s s' : State n} {k : Fin n} {pc old : Pc} {f max prev : Nat} {c : Cluster}

lemma hertz_mono {f g : Nat} (h : f ≤ g) : hertz c f ≤ hertz c g := by
  cases c
  · exact Nat.mul_le_mul_left 1000 h
  · exact Nat.mul_le_mul_left 2000 h

lemma Fits.requested_eq (h : Fits f) : requested c f = hertz c f := by
  rw [Fits] at h
  cases c with
  | a15 =>
    rw [requested, actualFreq, hertz, Nat.mul_comm]
    exact Nat.mod_eq_of_lt (by omega)
  | a7 =>
    rw [requested, actualFreq, hertz, Nat.shiftLeft_eq, Nat.mod_eq_of_lt (a := f * 2 ^ 1) (by omega)]
    rw [Nat.mod_eq_of_lt (by omega)]
    omega

lemma fits_zero : Fits 0 := Nat.two_pow_pos 32

/-! ### Places in a call -/

namespace Pc

/-- The mutex that the call has. -/
def holds : Pc → Option Cluster
  | .storeFreq call | .storeCluster call _ | .scanNew call _ _ | .setNew call _ _ | .restoreFreq call _ |
    .restoreCluster call _ | .unlockFailed call | .unlockNew call => some call.new
  | .scanOld call _ | .setOld call _ | .unlockOld call => some call.old
  | .idle | .lockNew _ | .lockOld _ => none

/-- The variables of the CPU belong together. -/
def counts : Pc → Bool
  | .storeCluster _ _ | .restoreFreq _ _ | .restoreCluster _ _ => false
  | _ => true

/-- The request of the CPU is one that has been accepted. -/
def settled : Pc → Bool
  | .storeCluster _ _ | .scanNew _ _ _ | .setNew _ _ _ | .restoreFreq _ _ | .restoreCluster _ _ => false
  | _ => true

/-- The call has not written anything. -/
def before : Pc → Option Call
  | .lockNew call | .storeFreq call => some call
  | _ => none

/-- The CPU counts as one of the new cluster, whose clock is still to be set. -/
def moved : Pc → Option Call
  | .scanNew call _ _ | .setNew call _ _ => some call
  | _ => none

/-- The request before, which may have to be restored. -/
def saved : Pc → Option (Call × Nat)
  | .storeCluster call prev | .scanNew call prev _ | .setNew call prev _ | .restoreFreq call prev |
    .restoreCluster call prev => some (call, prev)
  | _ => none

def scan : Pc → Option (Cluster × Scan)
  | .scanNew call _ scan => some (call.new, scan)
  | .scanOld call scan => some (call.old, scan)
  | _ => none

/-- The end of a scan. -/
def top : Pc → Option (Cluster × Nat)
  | .setNew call _ max => some (call.new, max)
  | .setOld call max => some (call.old, max)
  | _ => none

def numbers : Pc → List Nat
  | .lockNew call | .storeFreq call => [call.rate]
  | .storeCluster _ prev | .restoreFreq _ prev | .restoreCluster _ prev => [prev]
  | .scanNew _ prev scan => prev :: scan.max :: scan.freq.toList
  | .setNew _ prev max => [prev, max]
  | .scanOld _ scan => scan.max :: scan.freq.toList
  | .setOld _ max => [max]
  | .idle | .unlockFailed _ | .unlockNew _ | .lockOld _ | .unlockOld _ => []

lemma holds_of_scan {scan : Scan} (h : pc.scan = some (c, scan)) : pc.holds = some c := by
  cases pc <;> first | exact congrArg (Option.map Prod.fst) h | exact nomatch h

lemma holds_of_top (h : pc.top = some (c, max)) : pc.holds = some c := by
  cases pc <;> first | exact congrArg (Option.map Prod.fst) h | exact nomatch h

lemma holds_of_saved {call : Call} (h : pc.saved = some (call, prev)) :
    pc.holds = some call.new := by
  cases pc <;> first | exact congrArg (Option.map fun p => p.1.new) h | exact nomatch h

lemma counts_of_settled (h : pc.settled = true) : pc.counts = true := by
  cases pc <;> first | rfl | exact nomatch h

end Pc

variable {scan : Scan}

/-- The CPU is one of the cluster. -/
def State.Member (s : State n) (c : Cluster) (k : Fin n) : Prop := s.phys k = c ∧ (s.pc k).counts = true

/-- What a scan has read of the CPUs of the cluster still holds. -/
structure Covers (s : State n) (c : Cluster) (scan : Scan) : Prop where
  seen : ∀ j : Fin n, j.val < scan.next → s.Member c j → s.lastReq j ≤ scan.max
  current : ∀ (j : Fin n) (f : Nat), scan.freq = some f → j.val = scan.next → s.Member c j → s.lastReq j = f

structure Inv (s : State n) : Prop where
  lock : Mutex.Agree s.lock (Pc.holds ∘ s.pc)
  before : ∀ k call, (s.pc k).before = some call → s.phys k = call.old
  moved : ∀ k call, (s.pc k).moved = some call → s.phys k = call.new
  restored : ∀ k call prev, s.pc k = .restoreCluster call prev → s.lastReq k = prev
  settled : ∀ k, (s.pc k).settled = true → hertz (s.phys k) (s.lastReq k) ≤ s.rate (s.phys k)
  saved : ∀ k call prev, (s.pc k).saved = some (call, prev) → call.old = call.new →
    hertz call.new prev ≤ s.rate call.new
  scan : ∀ k c scan, (s.pc k).scan = some (c, scan) → Covers s c scan
  top : ∀ k c max, (s.pc k).top = some (c, max) → ∀ j, s.Member c j → s.lastReq j ≤ max
  fits : ∀ k, Fits (s.lastReq k)
  numbers : ∀ k, ∀ f ∈ (s.pc k).numbers, Fits f

/-- A step of one CPU: where it goes, what its variables are then, and what it does to mutexes and
clocks. -/
structure Move (s : State n) (k : Fin n) (pc : Pc) (f : Nat) (c : Cluster) (s' : State n) : Prop where
  goes : s'.pc = update s.pc k pc
  lastReq : s'.lastReq = update s.lastReq k f
  phys : s'.phys = update s.phys k c
  lock : Mutex.Agree s'.lock (Pc.holds ∘ s'.pc)
  rate : ∀ c', s'.rate c' = s.rate c' ∨ (s.pc k).holds = some c'
  rates : ∀ j, j ≠ k → (s.pc j).settled = true → hertz (s.phys j) (s.lastReq j) ≤ s'.rate (s.phys j)
  joins : pc.counts = true → (∀ j, j ≠ k → (s.pc j).holds ≠ some c) ∨ s.Member c k ∧ f = s.lastReq k
  before : ∀ call, pc.before = some call → c = call.old
  moved : ∀ call, pc.moved = some call → c = call.new
  restored : ∀ call prev, pc = .restoreCluster call prev → f = prev
  settled : pc.settled = true → hertz c f ≤ s'.rate c
  saved : ∀ call prev, pc.saved = some (call, prev) → call.old = call.new → hertz call.new prev ≤ s'.rate call.new
  scan : ∀ c' scan, pc.scan = some (c', scan) → Covers s' c' scan
  top : ∀ c' max, pc.top = some (c', max) → ∀ j, s'.Member c' j → s'.lastReq j ≤ max
  fits : Fits f
  numbers : ∀ x ∈ pc.numbers, Fits x

/-- A CPU that is not the one that takes the step keeps what is its own. -/
lemma Move.cases (m : Move s k pc f c s') (j : Fin n) : (j = k ∧ s'.pc j = pc ∧ s'.phys j = c ∧ s'.lastReq j = f) ∨
    (j ≠ k ∧ s'.pc j = s.pc j ∧ s'.phys j = s.phys j ∧ s'.lastReq j = s.lastReq j) := by
  rw [m.goes, m.phys, m.lastReq]
  by_cases hj : j = k
  · subst hj
    exact .inl ⟨rfl, update_self .., update_self .., update_self ..⟩
  · exact .inr ⟨hj, update_of_ne hj .., update_of_ne hj .., update_of_ne hj ..⟩

/-- To somebody who holds the mutex of a cluster, the CPUs of the cluster are those that were there
before, with the same requests. -/
lemma Move.member (m : Move s k pc f c s') {j i : Fin n} {c' : Cluster} (hj : j ≠ k) (hheld : (s.pc j).holds = some c')
    (hi : s'.Member c' i) : s.Member c' i ∧ s'.lastReq i = s.lastReq i := by
  obtain ⟨hcluster, hcounts⟩ := hi
  rcases m.cases i with ⟨rfl, hpc, hphys, hlast⟩ | ⟨-, hpc, hphys, hlast⟩
  · obtain rfl : c = c' := hphys.symm.trans hcluster
    rcases m.joins (hpc ▸ hcounts) with hnobody | ⟨hmember, hf⟩
    · exact absurd hheld (hnobody j hj)
    · exact ⟨hmember, hlast.trans hf⟩
  · exact ⟨⟨hphys.symm.trans hcluster, hpc ▸ hcounts⟩, hlast⟩

lemma Inv.of_move (h : Inv s) (m : Move s k pc f c s') : Inv s' := by
  constructor
  case lock => exact m.lock
  case before =>
    intro j call hj
    rcases m.cases j with ⟨-, hpc, hphys, -⟩ | ⟨-, hpc, hphys, -⟩ <;> rw [hpc] at hj <;> rw [hphys]
    · exact m.before call hj
    · exact h.before j call hj
  case moved =>
    intro j call hj
    rcases m.cases j with ⟨-, hpc, hphys, -⟩ | ⟨-, hpc, hphys, -⟩ <;> rw [hpc] at hj <;> rw [hphys]
    · exact m.moved call hj
    · exact h.moved j call hj
  case restored =>
    intro j call prev hj
    rcases m.cases j with ⟨-, hpc, -, hlast⟩ | ⟨-, hpc, -, hlast⟩ <;> rw [hpc] at hj <;> rw [hlast]
    · exact m.restored call prev hj
    · exact h.restored j call prev hj
  case settled =>
    intro j hj
    rcases m.cases j with ⟨-, hpc, hphys, hlast⟩ | ⟨hjk, hpc, hphys, hlast⟩ <;> rw [hpc] at hj <;> rw [hphys, hlast]
    · exact m.settled hj
    · exact m.rates j hjk hj
  case saved =>
    intro j call prev hj hsame
    rcases m.cases j with ⟨-, hpc, -⟩ | ⟨hjk, hpc, -⟩ <;> rw [hpc] at hj
    · exact m.saved call prev hj hsame
    · -- the clock is that of a mutex that the other CPU holds
      rcases m.rate call.new with hrate | hheld
      · rw [hrate]
        exact h.saved j call prev hj hsame
      · exact absurd (h.lock.unique (Pc.holds_of_saved hj) hheld) hjk
  case scan =>
    intro j c' scan hj
    rcases m.cases j with ⟨-, hpc, -⟩ | ⟨hjk, hpc, -⟩ <;> rw [hpc] at hj
    · exact m.scan c' scan hj
    · have hheld := Pc.holds_of_scan hj
      have hcovers := h.scan j c' scan hj
      constructor
      case seen =>
        intro i hi hmember
        obtain ⟨hbefore, heq⟩ := m.member hjk hheld hmember
        rw [heq]
        exact hcovers.seen i hi hbefore
      case current =>
        intro i g hg hi hmember
        obtain ⟨hbefore, heq⟩ := m.member hjk hheld hmember
        rw [heq]
        exact hcovers.current i g hg hi hbefore
  case top =>
    intro j c' max hj i hmember
    rcases m.cases j with ⟨-, hpc, -⟩ | ⟨hjk, hpc, -⟩ <;> rw [hpc] at hj
    · exact m.top c' max hj i hmember
    · obtain ⟨hbefore, heq⟩ := m.member hjk (Pc.holds_of_top hj) hmember
      rw [heq]
      exact h.top j c' max hj i hbefore
  case fits =>
    rw [m.lastReq]
    exact (Function.forall_update_iff s.lastReq fun _ f => Fits f).mpr ⟨m.fits, fun j _ => h.fits j⟩
  case numbers =>
    rw [m.goes]
    exact (Function.forall_update_iff s.pc fun _ pc => ∀ f ∈ pc.numbers, Fits f).mpr ⟨m.numbers, fun j _ => h.numbers j⟩

/-! ### Scans -/

lemma covers_start (s : State n) (c : Cluster) : Covers s c {} := ⟨nofun, nofun⟩

/-- Fewer CPUs of the cluster, with the same requests. -/
lemma Covers.of_member (h : Covers s c scan) (hlast : s'.lastReq = s.lastReq)
    (hmember : ∀ j, s'.Member c j → s.Member c j) : Covers s' c scan := by
  constructor
  case seen =>
    intro j hj hm
    rw [hlast]
    exact h.seen j hj (hmember j hm)
  case current =>
    intro j g hg hj hm
    rw [hlast]
    exact h.current j g hg hj (hmember j hm)

lemma Covers.read {scan scan' : Scan} (h : Covers s c scan) (hstep : s.scanStep c scan = .inl scan') :
    Covers s c scan' := by
  rw [scanStep] at hstep
  split at hstep
  next hn =>
    have hself : ∀ j : Fin n, j.val = scan.next → j = ⟨scan.next, hn⟩ := fun j hj => Fin.ext hj
    split at hstep
    next hfreq =>
      obtain rfl := Sum.inl.inj hstep
      refine ⟨h.seen, fun j g hg hj _ => ?_⟩
      rw [hself j hj]
      exact Option.some.inj hg
    next freq hfreq =>
      obtain rfl := Sum.inl.inj hstep
      refine ⟨fun j hj hm => ?_, nofun⟩
      rcases Nat.lt_succ_iff_lt_or_eq.mp hj with hlt | heq
      · refine Nat.le_trans (h.seen j hlt hm) ?_
        dsimp only
        split
        next hmax => exact Nat.le_of_lt hmax.2
        next => exact Nat.le_refl _
      · rw [h.current j freq hfreq heq hm]
        have hphys : c = s.phys ⟨scan.next, hn⟩ := by
          rw [← hself j heq]
          exact hm.1.symm
        dsimp only
        split
        next => exact Nat.le_refl _
        next hmax => exact Nat.le_of_not_lt fun hlt => hmax ⟨hphys, hlt⟩
  next => exact nomatch hstep

lemma scanStep_end (hstep : s.scanStep c scan = .inr max) : n ≤ scan.next ∧ max = scan.max := by
  rw [scanStep] at hstep
  split at hstep
  next => split at hstep <;> exact nomatch hstep
  next hn => exact ⟨Nat.le_of_not_lt hn, (Sum.inr.inj hstep).symm⟩

lemma Covers.done (h : Covers s c scan) (hstep : s.scanStep c scan = .inr max)
    (j : Fin n) (hm : s.Member c j) : s.lastReq j ≤ max := by
  obtain ⟨hn, rfl⟩ := scanStep_end hstep
  exact h.seen j (Nat.lt_of_lt_of_le j.isLt hn) hm

lemma scan_numbers {scan scan' : Scan} (hfits : ∀ k, Fits (s.lastReq k))
    (h : ∀ f ∈ scan.max :: scan.freq.toList, Fits f) (hstep : s.scanStep c scan = .inl scan') :
    ∀ f ∈ scan'.max :: scan'.freq.toList, Fits f := by
  obtain ⟨hmax, hfreq⟩ := forall_mem_cons.mp h
  rw [scanStep] at hstep
  split at hstep
  next hn =>
    split at hstep
    next =>
      obtain rfl := Sum.inl.inj hstep
      exact forall_mem_cons.mpr ⟨hmax, forall_mem_singleton.mpr (hfits _)⟩
    next freq heq =>
      obtain rfl := Sum.inl.inj hstep
      rw [heq] at hfreq
      refine forall_mem_singleton.mpr ?_
      split
      · exact hfreq freq (mem_singleton_self freq)
      · exact hmax
  next => exact nomatch hstep

/-! ### Steps -/

section

variable (h : Inv s)
include h

lemma Inv.lock_same (hpc : s.pc k = old) (hholds : pc.holds = old.holds) :
    Mutex.Agree s.lock (Pc.holds ∘ update s.pc k pc) := by
  have hsame : pc.holds = (s.pc k).holds := by rw [hholds, hpc]
  rw [Function.comp_update, update_eq_self_iff.mpr hsame]
  exact h.lock

lemma Inv.lock_acquire (hpc : s.pc k = old) (hfree : s.lock c = none) (hnone : old.holds = none)
    (hholds : pc.holds = some c) : Mutex.Agree (update s.lock c (some k)) (Pc.holds ∘ update s.pc k pc) := by
  rw [← hpc] at hnone
  rw [Function.comp_update, hholds]
  exact h.lock.acquire hfree hnone

lemma Inv.lock_release (hpc : s.pc k = old) (hheld : old.holds = some c) (hholds : pc.holds = none) :
    Mutex.Agree (update s.lock c none) (Pc.holds ∘ update s.pc k pc) := by
  rw [← hpc] at hheld
  rw [Function.comp_update, hholds]
  exact h.lock.release hheld

/-- The variables of the CPU and the clocks stay as they are. -/
lemma Inv.keep (hpc : s.pc k = old) {lock : Cluster → Option (Fin n)}
    (hlock : Mutex.Agree lock (Pc.holds ∘ update s.pc k pc)) (hcounts : old.counts = true)
    (hsettled : pc.settled = true → old.settled = true) (hbefore : ∀ call, pc.before = some call → s.phys k = call.old)
    (hmoved : ∀ call, pc.moved = some call → s.phys k = call.new)
    (hrestored : ∀ call prev, pc ≠ .restoreCluster call prev)
    (hsaved : ∀ call prev, pc.saved = some (call, prev) → old.saved = some (call, prev))
    (hscan : ∀ c scan, pc.scan = some (c, scan) → Covers s c scan)
    (htop : ∀ c max, pc.top = some (c, max) → ∀ j, s.Member c j → s.lastReq j ≤ max)
    (hnumbers : ∀ x ∈ pc.numbers, Fits x) : Inv (goto { s with lock := lock } k pc) := by
  subst hpc
  have hmember : ∀ c j, (goto { s with lock := lock } k pc).Member c j → s.Member c j := by
    intro c j hj
    refine ⟨hj.1, ?_⟩
    have hj' : (update s.pc k pc j).counts = true := hj.2
    by_cases hjk : j = k
    · subst hjk
      exact hcounts
    · rwa [update_of_ne hjk] at hj'
  refine h.of_move (k := k) (f := s.lastReq k) (c := s.phys k) ⟨rfl, (update_eq_self k s.lastReq).symm,
    (update_eq_self k s.phys).symm, hlock, fun _ => .inl rfl, fun j _ => h.settled j,
    fun _ => .inr ⟨⟨rfl, hcounts⟩, rfl⟩, hbefore, hmoved, fun call prev heq => absurd heq (hrestored call prev),
    fun hpc => h.settled k (hsettled hpc), fun call prev hpc => h.saved k call prev (hsaved call prev hpc),
    fun c scan hpc => (hscan c scan hpc).of_member rfl (hmember c),
    fun c max hpc j hj => htop c max hpc j (hmember c j hj), h.fits k, hnumbers⟩

/-- A clock is set by the holder of its mutex, at the end of a scan. -/
lemma Inv.setRate (hpc : s.pc k = old) (extra : Nat) (htop : old.top = some (c, max))
    (hmax : Fits max) (hself : s.Member c k ∨ old.settled = true) (hholds : pc.holds = some c)
    (hbefore : pc.before = none)
    (hmoved : pc.moved = none) (hsaved : pc.saved = none) (hscan : pc.scan = none) (hend : pc.top = none)
    (hnumbers : pc.numbers = []) : Inv ((s.setRate c max extra).goto k pc) := by
  subst hpc
  have hheld := Pc.holds_of_top htop
  have hrate : ∀ c', c' ≠ c → (s.setRate c max extra).rate c' = s.rate c' := fun c' hne => update_of_ne hne _ _
  have hset : (s.setRate c max extra).rate c = hertz c max + extra := by
    rw [← hmax.requested_eq]
    exact update_self _ _ _
  -- the CPUs of the cluster are covered by the new rate, the others by the rate they had
  have hcover : ∀ j, s.Member c j ∨ (s.pc j).settled = true →
      hertz (s.phys j) (s.lastReq j) ≤ (s.setRate c max extra).rate (s.phys j) := by
    intro j hj
    by_cases hphys : s.phys j = c
    · have hmember : s.Member c j := hj.elim id fun hsettled => ⟨hphys, Pc.counts_of_settled hsettled⟩
      rw [hphys, hset]
      exact Nat.le_add_right_of_le (hertz_mono (h.top k c max htop j hmember))
    · rw [hrate _ hphys]
      exact h.settled j (hj.resolve_left fun hmember => hphys hmember.1)
  have hcounts : (s.pc k).counts = true := hself.elim And.right Pc.counts_of_settled
  refine h.of_move (k := k) (f := s.lastReq k) (c := s.phys k) ⟨rfl, (update_eq_self k s.lastReq).symm,
    (update_eq_self k s.phys).symm, h.lock_same rfl (hholds.trans hheld.symm), fun c' => ?_,
    fun j _ hj => hcover j (.inr hj), fun _ => .inr ⟨⟨rfl, hcounts⟩, rfl⟩,
    fun call heq => (nomatch hbefore.symm.trans heq),
    fun call heq => (nomatch hmoved.symm.trans heq), fun call prev heq => ?_, fun _ => hcover k hself,
    fun call prev heq => (nomatch hsaved.symm.trans heq), fun c' scan heq => (nomatch hscan.symm.trans heq),
    fun c' max heq => (nomatch hend.symm.trans heq), h.fits k, fun x hx => ?_⟩
  · by_cases hc : c' = c
    · exact .inr (hc ▸ hheld)
    · exact .inl (hrate c' hc)
  · rw [heq] at hsaved
    exact nomatch hsaved
  · rw [hnumbers] at hx
    exact nomatch hx

/-- The CPU whose mutex it is is the only one that holds it. -/
lemma Inv.alone (hheld : (s.pc k).holds = some c) (j : Fin n) (hj : j ≠ k) : (s.pc j).holds ≠ some c :=
  fun heq => hj (h.lock.unique heq hheld)

lemma Inv.storeFreq {call : Call} (hpc : s.pc k = .storeFreq call) :
    Inv (goto { s with lastReq := update s.lastReq k call.rate } k (.storeCluster call (s.lastReq k))) := by
  refine h.of_move (k := k) (f := call.rate) (c := s.phys k) ⟨rfl, rfl, (update_eq_self k s.phys).symm,
    h.lock_same hpc rfl, fun _ => .inl rfl, fun j _ => h.settled j, nofun, nofun, nofun, nofun, nofun, ?_,
    nofun, nofun, h.numbers k call.rate ?_, forall_mem_singleton.mpr (h.fits k)⟩
  · rintro _ _ ⟨⟩ hsame
    have hold := h.before k call (by rw [hpc]; rfl)
    have hcover := h.settled k (by rw [hpc]; rfl)
    rwa [hold, hsame] at hcover
  · rw [hpc]
    exact mem_singleton_self _

lemma Inv.storeCluster {call : Call} (hpc : s.pc k = .storeCluster call prev) :
    Inv (goto { s with phys := update s.phys k call.new } k (.scanNew call prev {})) := by
  have hheld : (s.pc k).holds = some call.new := by
    rw [hpc]
    rfl
  refine h.of_move (k := k) (f := s.lastReq k) (c := call.new) ⟨rfl, (update_eq_self k s.lastReq).symm, rfl,
    h.lock_same hpc rfl, fun _ => .inl rfl, fun j _ => h.settled j, fun _ => .inl (h.alone hheld), nofun, ?_,
    nofun, nofun, ?_, ?_, nofun, h.fits k, ?_⟩
  · rintro _ ⟨⟩
    rfl
  · rintro _ _ ⟨⟩
    exact h.saved k call prev (by rw [hpc]; rfl)
  · rintro _ _ ⟨⟩
    exact covers_start _ _
  · have hprev := h.numbers k prev (by rw [hpc]; exact mem_singleton_self _)
    exact forall_mem_cons.mpr ⟨hprev, forall_mem_singleton.mpr fits_zero⟩

lemma Inv.restoreFreq {call : Call} (hpc : s.pc k = .restoreFreq call prev) :
    Inv (goto { s with lastReq := update s.lastReq k prev } k (.restoreCluster call prev)) := by
  have hprev := h.numbers k prev (by rw [hpc]; exact mem_singleton_self _)
  refine h.of_move (k := k) (f := prev) (c := s.phys k) ⟨rfl, rfl, (update_eq_self k s.phys).symm,
    h.lock_same hpc rfl, fun _ => .inl rfl, fun j _ => h.settled j, nofun, nofun, nofun, ?_, nofun, ?_,
    nofun, nofun, hprev, forall_mem_singleton.mpr hprev⟩
  · rintro _ _ ⟨⟩
    rfl
  · rintro _ _ ⟨⟩
    exact h.saved k call prev (by rw [hpc]; rfl)

/-- The CPU goes back to its old cluster. -/
lemma Inv.restoreCluster {call : Call} (hpc : s.pc k = .restoreCluster call prev)
    (hregular : call.old ≠ call.new → s.lock call.old = none ∧ hertz call.old prev ≤ s.rate call.old) :
    Inv (goto { s with phys := update s.phys k call.old } k (.unlockFailed call)) := by
  have hheld : (s.pc k).holds = some call.new := by
    rw [hpc]
    rfl
  have hlast := h.restored k call prev hpc
  refine h.of_move (k := k) (f := s.lastReq k) (c := call.old) ⟨rfl, (update_eq_self k s.lastReq).symm, rfl,
    h.lock_same hpc rfl, fun _ => .inl rfl, fun j _ => h.settled j, fun _ => .inl fun j hj heq => ?_, nofun,
    nofun, nofun, fun _ => ?_, nofun, nofun, nofun, h.fits k, nofun⟩
  · by_cases hsame : call.old = call.new
    · exact h.alone hheld j hj (hsame ▸ heq)
    · exact nomatch (hregular hsame).1.symm.trans ((h.lock call.old j).mpr heq)
  · rw [hlast]
    by_cases hsame : call.old = call.new
    · rw [hsame]
      exact h.saved k call prev (by rw [hpc]; rfl) hsame
    · exact (hregular hsame).2

lemma Inv.next {outcome : Option Nat} (hregular : Regular s (.next k outcome)) : Inv (s.next k outcome) := by
  have hnumbers := h.numbers k
  rw [Regular] at hregular
  rw [State.next]
  cases hpc : s.pc k with rw [hpc] at hnumbers
  | idle => exact h
  | lockNew call =>
    dsimp only
    split
    next hfree =>
      refine h.keep hpc (h.lock_acquire hpc hfree rfl rfl) rfl (fun _ => rfl) ?_ nofun nofun nofun nofun nofun hnumbers
      rintro _ ⟨⟩
      exact h.before k call (by rw [hpc]; rfl)
    next => exact h
  | storeFreq call => exact h.storeFreq hpc
  | storeCluster call prev => exact h.storeCluster hpc
  | scanNew call prev scan =>
    obtain ⟨hprev, hscan⟩ := forall_mem_cons.mp hnumbers
    have hcovers := h.scan k call.new scan (by rw [hpc]; rfl)
    have hmoved := h.moved k call (by rw [hpc]; rfl)
    dsimp only
    split
    next scan' hstep =>
      refine h.keep hpc (h.lock_same hpc rfl) rfl nofun nofun ?_ nofun ?_ ?_ nofun
        (forall_mem_cons.mpr ⟨hprev, scan_numbers h.fits hscan hstep⟩)
      · rintro _ ⟨⟩
        exact hmoved
      · rintro _ _ ⟨⟩
        rfl
      · rintro _ _ ⟨⟩
        exact hcovers.read hstep
    next max hstep =>
      refine h.keep hpc (h.lock_same hpc rfl) rfl nofun nofun ?_ nofun ?_ nofun ?_
        (forall_mem_cons.mpr ⟨hprev, forall_mem_singleton.mpr ?_⟩)
      · rintro _ ⟨⟩
        exact hmoved
      · rintro _ _ ⟨⟩
        rfl
      · rintro _ _ ⟨⟩
        exact hcovers.done hstep
      · rw [(scanStep_end hstep).2]
        exact (forall_mem_cons.mp hscan).1
  | setNew call prev max =>
    obtain ⟨hprev, hmax⟩ := forall_mem_cons.mp hnumbers
    cases outcome with
    | none =>
      refine h.keep hpc (h.lock_same hpc rfl) rfl nofun nofun nofun nofun ?_ nofun nofun
        (forall_mem_singleton.mpr hprev)
      rintro _ _ ⟨⟩
      rfl
    | some extra =>
      have hmember : s.Member call.new k := ⟨h.moved k call (by rw [hpc]; rfl), by rw [hpc]; rfl⟩
      exact h.setRate hpc extra rfl (forall_mem_singleton.mp hmax) (.inl hmember) rfl rfl rfl rfl
        rfl rfl rfl
  | restoreFreq call prev => exact h.restoreFreq hpc
  | restoreCluster call prev =>
    rw [hpc] at hregular
    exact h.restoreCluster hpc hregular
  | unlockFailed call | unlockOld call =>
    exact h.keep hpc (h.lock_release hpc rfl rfl) rfl (fun _ => rfl) nofun nofun nofun nofun nofun nofun nofun
  | unlockNew call =>
    dsimp only
    split <;> exact h.keep hpc (h.lock_release hpc rfl rfl) rfl (fun _ => rfl) nofun nofun nofun nofun nofun nofun nofun
  | lockOld call =>
    dsimp only
    split
    next hfree =>
      refine h.keep hpc (h.lock_acquire hpc hfree rfl rfl) rfl (fun _ => rfl) nofun
        nofun nofun nofun ?_ nofun (forall_mem_singleton.mpr fits_zero)
      rintro _ _ ⟨⟩
      exact covers_start _ _
    next => exact h
  | scanOld call scan =>
    have hcovers := h.scan k call.old scan (by rw [hpc]; rfl)
    dsimp only
    split
    next scan' hstep =>
      refine h.keep hpc (h.lock_same hpc rfl) rfl (fun _ => rfl) nofun nofun nofun
        nofun ?_ nofun (scan_numbers h.fits hnumbers hstep)
      rintro _ _ ⟨⟩
      exact hcovers.read hstep
    next max hstep =>
      refine h.keep hpc (h.lock_same hpc rfl) rfl (fun _ => rfl) nofun nofun nofun
        nofun nofun ?_ (forall_mem_singleton.mpr ?_)
      · rintro _ _ ⟨⟩
        exact hcovers.done hstep
      · rw [(scanStep_end hstep).2]
        exact (forall_mem_cons.mp hnumbers).1
  | setOld call max =>
    have hkeep : Inv (s.goto k (.unlockOld call)) :=
      h.keep hpc (h.lock_same hpc rfl) rfl (fun _ => rfl) nofun nofun nofun nofun nofun nofun nofun
    dsimp only
    split
    next =>
      cases outcome with
      | none => exact hkeep
      | some extra =>
        exact h.setRate hpc extra rfl (forall_mem_singleton.mp hnumbers) (.inr rfl) rfl
          rfl rfl rfl rfl rfl rfl
    next => exact hkeep

lemma Inv.call {new : Cluster} {rate : Nat} (hidle : s.pc k = .idle) (hrate : Fits rate) :
    Inv (s.goto k (.lockNew ⟨s.phys k, new, rate⟩)) := by
  refine h.keep hidle (h.lock_same hidle rfl) rfl (fun _ => rfl) ?_ nofun nofun
    nofun nofun nofun (forall_mem_singleton.mpr hrate)
  rintro _ ⟨⟩
  rfl

lemma Inv.step {op : Op n} (hregular : Regular s op) : Inv (step s op) := by
  cases op with
  | call k new rate =>
    change Inv (if s.pc k = .idle then s.goto k (.lockNew ⟨s.phys k, new, rate⟩) else s)
    split
    next hidle => exact h.call hidle hregular
    next => exact h
  | next k outcome => exact h.next hregular

end

/-! ### Every run -/

structure Start (s : State n) : Prop where
  quiet : s.Quiet
  unlocked : ∀ c, s.lock c = none
  covered : s.Covered
  fits : ∀ k, Fits (s.lastReq k)

/-- The largest request is the request of a CPU of the cluster, or there is none. -/
lemma State.covered_iff : s.Covered ↔ ∀ k, hertz (s.phys k) (s.lastReq k) ≤ s.rate (s.phys k) := by
  constructor
  · intro h k
    have hle := Finset.le_sup (f := s.lastReq) (Finset.mem_filter.mpr ⟨Finset.mem_univ k, rfl⟩ :
      k ∈ Finset.univ.filter fun j => s.phys j = s.phys k)
    exact Nat.le_trans (hertz_mono hle) (h (s.phys k))
  · intro h c
    refine Finset.sup_induction (p := fun f => hertz c f ≤ s.rate c) ?_ ?_ ?_
    · cases c <;> exact Nat.zero_le _
    · intro f hf g hg
      rcases Nat.le_total f g with hfg | hgf
      · rwa [sup_eq_right.mpr hfg]
      · rwa [sup_eq_left.mpr hgf]
    · intro k hk
      obtain ⟨-, rfl⟩ := Finset.mem_filter.mp hk
      exact h k

lemma Start.inv (h : Start s) : Inv s := by
  have hpc := h.quiet
  constructor
  case lock =>
    intro c k
    rw [h.unlocked, Function.comp_apply, hpc]
    exact iff_of_false nofun nofun
  case settled => exact fun k _ => covered_iff.mp h.covered k
  case fits => exact h.fits
  all_goals
    intro k
    rw [hpc]
    exact nofun

/-- In every run whose steps are regular, whenever no call is in progress the clock of each cluster is
fast enough for the largest request of its CPUs. -/
theorem covered_when_quiet {ops : List (Op n)} (hstart : Start s) (h : Run.Each step Regular s ops) :
    Run.Always step (fun t => t.Quiet → t.Covered) s ops := by
  refine (Run.always_of_each (P := Inv) (fun _ _ hs hop => hs.step hop) hstart.inv h).mono fun t ht hquiet => ?_
  refine covered_iff.mpr fun k => ht.settled k ?_
  rw [hquiet k]
  rfl

/-- Two CPUs on the big cluster, the first one with the larger request. -/
def twoBig : State 2 where
  lastReq k := if k = 0 then 1200000 else 1000000
  phys _ := .a15
  rate c := if c = .a15 then 1200000000 else 0

lemma start_twoBig : Start twoBig where
  quiet _ := rfl
  unlocked _ := rfl
  covered := by
    rw [covered_iff]
    decide
  fits := by decide

/-- Steps of one CPU, whose clocks are all set. -/
def steps (k : Fin 2) (m : Nat) : List (Op 2) := List.replicate m (.next k (some 0))

/-- The first CPU moves to the little cluster, and the second one asks for more. -/
theorem covered_when_quiet_two_big :
    let ops := [Op.call 0 .a7 400000] ++ steps 0 19 ++ [.call 1 .a15 1100000] ++ steps 1 10
    ((ops.foldl step twoBig).rate .a7 = 800000000 ∧ (ops.foldl step twoBig).rate .a15 = 1100000000) ∧
      (ops.foldl step twoBig).Covered := by
  refine ⟨by decide +kernel, (covered_when_quiet start_twoBig (by decide +kernel)).last ?_⟩
  rw [State.Quiet]
  decide +kernel

/-- While the first CPU is on its way to the little cluster, the clock of the big one is set for the
second CPU alone. Then the clock of the little cluster cannot be set, and the first CPU is back on the
big cluster with a request that the clock does not meet. -/
theorem not_covered_after_failure :
    let ops := [Op.call 0 .a7 400000] ++ steps 0 3 ++ [.call 1 .a15 1100000] ++ steps 1 10 ++ steps 0 5 ++
      [.next 0 none, .next 0 none, .next 0 none, .next 0 none]
    let s := ops.foldl step twoBig
    s.Quiet ∧ s.phys 0 = .a15 ∧ s.lastReq 0 = 1200000 ∧ s.rate .a15 = 1100000000 ∧ ¬s.Covered := by
  refine ⟨by rw [State.Quiet]; decide +kernel, by decide +kernel, by decide +kernel, by decide +kernel, ?_⟩
  rw [covered_iff]
  decide +kernel

end BigLittle.Cpufreq.SetRate
