import BigLittle.Switcher.Pairing

/-!
# Switching a logical CPU to its counterpart

`bL_switch_to` closes the gates of both physical CPUs, registers where the inbound CPU is to
report that it is alive, powers it up, and then swaps the two in the logical map and resumes on
the other side. It can fail when the inbound CPU cannot be powered up, before the swap, and at
the end, after it.

Addresses are numbers and a null pointer is `none`. What the calls into other subsystems return
is part of the call; interrupts and clock events are left out.
-/

namespace BigLittle.Switcher

open Function (update update_of_ne update_self)

variable {n : Nat}

structure System (n : Nat) where
  online : Finset (Fin n)
  map : Fin n → Mpidr
  pairing : Fin n → Option (Fin n)
  originalCluster : Fin n → Nat
  removed : Finset (Fin n)
  active : Bool
  /-- the physical CPU a logical CPU runs on, as `read_mpidr` finds it -/
  running : Fin n → Mpidr
  entryVector : Mpidr → Option Nat
  earlyPoke : Mpidr → Nat × Nat
  completion : Fin n → Option Nat
  gicId : Mpidr → Nat

structure Board where
  cpuResume : Nat
  gicSgir : Nat

/-- A call of `bL_switch_to`: on which CPU, to which cluster, where its `inbound_alive` is, and
what the calls in it return. -/
structure Call (n : Nat) where
  this : Fin n
  newCluster : Nat
  inboundAlive : Nat
  powerUp : Int := 0
  pmEnter : Int := 0
  suspend : Int := 0
  pmExit : Int := 0

inductive Outcome where
  | returned (ret : Int)
  | panic
  | bug
deriving DecidableEq

def ipiCompletion : Nat := 6

namespace System

variable (s : System n) (board : Board)

def setEntryVector (cpu : Mpidr) (vector : Option Nat) : System n :=
  { s with entryVector := update s.entryVector cpu vector }

def setEarlyPoke (cpu : Mpidr) (poke : Nat × Nat) : System n :=
  { s with earlyPoke := update s.earlyPoke cpu poke }

def registerIpiCompletion (cpu : Fin n) (completion : Nat) : System n :=
  { s with completion := update s.completion cpu (some completion) }

/-- Up to `mcpm_cpu_power_up` -/
def prepare (call : Call n) (ob ib : Mpidr) : System n :=
  (((s.setEntryVector ob none).setEntryVector ib none).registerIpiCompletion call.this call.inboundAlive).setEarlyPoke
    ib (board.gicSgir, ipiCompletion ||| (1 <<< 16) <<< s.gicId ob)

/-- The two CPUs change places in the logical map. -/
def swapMap (this that : Fin n) (ob ib : Mpidr) : System n :=
  { s with map := update (update s.map this ib) that ob }

/-- The inbound CPU is let in and goes on where the outbound one was. -/
def resume (this : Fin n) (ib : Mpidr) : System n :=
  { s.setEntryVector ib (some board.cpuResume) with running := update s.running this ib }

def switchTo (call : Call n) : Outcome × System n :=
  let ob := s.running call.this
  if s.map call.this ≠ ob then (.bug, s)
  else if call.newCluster = ob.cluster then (.returned 0, s)
  else
    match s.pairing call.this with
    | none => (.bug, s)
    | some that =>
      let ib := s.map that
      let s := s.prepare board call ob ib
      if call.powerUp ≠ 0 then (.returned call.powerUp, s)
      else
        let s := s.setEarlyPoke ib (0, 0)
        if call.pmEnter ≠ 0 then (.panic, s)
        else
          let s := s.swapMap call.this that ob ib
          if 0 < call.suspend then (.panic, s)
          else if call.suspend < 0 then (.bug, s)
          else (.returned call.pmExit, s.resume board call.this ib)

end System

/-! ### What a failed switch leaves behind -/

/-- Everything is as before, and nothing refers to the frame of the call. -/
structure RolledBack (s t : System n) (call : Call n) (that : Fin n) : Prop where
  vectors : ∀ cpu ∈ [s.map call.this, s.map that], t.entryVector cpu = s.entryVector cpu
  pokes : ∀ cpu ∈ [s.map call.this, s.map that], t.earlyPoke cpu = s.earlyPoke cpu
  completions : ∀ i ∈ [call.this, that], t.completion i = s.completion i
  map : t.map = s.map
  frame : t.completion call.this ≠ some call.inboundAlive

namespace System

variable {s : System n} {board : Board} {call : Call n} {that : Fin n}

/-- A call on a CPU that runs where the map says, with a counterpart. -/
lemma switchTo_of_paired (hrunning : s.running call.this = s.map call.this) (hpair : s.pairing call.this = some that)
    (hcluster : call.newCluster ≠ (s.map call.this).cluster) :
    s.switchTo board call =
      let t := s.prepare board call (s.map call.this) (s.map that)
      if call.powerUp ≠ 0 then (.returned call.powerUp, t)
      else
        let t := t.setEarlyPoke (s.map that) (0, 0)
        if call.pmEnter ≠ 0 then (.panic, t)
        else
          let t := t.swapMap call.this that (s.map call.this) (s.map that)
          if 0 < call.suspend then (.panic, t)
          else if call.suspend < 0 then (.bug, t)
          else (.returned call.pmExit, t.resume board call.this (s.map that)) := by
  rw [switchTo, hrunning, if_neg (not_not.mpr rfl), if_neg hcluster, hpair]

lemma switchTo_same (hrunning : s.running call.this = s.map call.this)
    (hcluster : call.newCluster = (s.map call.this).cluster) : s.switchTo board call = (.returned 0, s) := by
  rw [switchTo, hrunning, if_neg (not_not.mpr rfl), if_pos hcluster]

/-- After a failed power-up the frame of the call is still registered. -/
lemma prepare_completion {ob ib : Mpidr} : (s.prepare board call ob ib).completion call.this = some call.inboundAlive :=
  update_self _ _ _

/-- The two CPUs have changed places. -/
lemma swapMap_this {ob ib : Mpidr} {this : Fin n} (hne : this ≠ that) : (s.swapMap this that ob ib).map this = ib :=
  (update_of_ne hne _ _).trans (update_self _ _ _)

/-- A call that returns has rolled back what it did if it has failed; but no call that fails
does, so this is to say that there is nothing to switch or both steps that can fail succeed. -/
theorem rolledBack_iff (hrunning : s.running call.this = s.map call.this) (hpair : s.pairing call.this = some that)
    (hmap : s.map call.this ≠ s.map that) {ret : Int} (hret : (s.switchTo board call).1 = .returned ret) :
    (ret ≠ 0 → RolledBack s (s.switchTo board call).2 call that) ↔ call.newCluster = (s.map call.this).cluster ∨
    call.powerUp = 0 ∧ call.pmExit = 0 := by
  have hthis : call.this ≠ that := fun heq => hmap (congrArg s.map heq)
  by_cases hcluster : call.newCluster = (s.map call.this).cluster
  · rw [switchTo_same hrunning hcluster] at hret ⊢
    injection hret with hret
    exact iff_of_true (fun hne => absurd hret.symm hne) (.inl hcluster)
  · rw [switchTo_of_paired hrunning hpair hcluster] at hret ⊢
    dsimp only at hret ⊢
    rw [or_iff_right hcluster]
    by_cases hpower : call.powerUp = 0
    · rw [if_neg (not_not.mpr hpower)] at hret ⊢
      split at hret
      · exact nomatch hret
      next hpm =>
        rw [if_neg hpm]
        split at hret
        · exact nomatch hret
        next hpos =>
          rw [if_neg hpos]
          split at hret
          · exact nomatch hret
          next hneg =>
            rw [if_neg hneg]
            injection hret with hret
            rw [and_iff_right hpower, hret]
            refine ⟨fun hback => ?_, fun hzero hne => absurd hzero hne⟩
            by_contra hne
            -- the map has been swapped
            have hsame := congrFun (hback hne).map call.this
            exact hmap (hsame.symm.trans (swapMap_this hthis))
    · rw [if_pos hpower] at hret ⊢
      injection hret with hret
      refine iff_of_false (fun hback => ?_) fun hsuccess => hpower hsuccess.1
      exact (hback (hret ▸ hpower)).frame prepare_completion

/-- Two CPUs in two clusters, the first one on the first cluster. -/
def twoCpus : System 2 where
  online := {0}
  map i := ⟨0, i⟩
  pairing i := if i = 0 then some 1 else none
  originalCluster _ := 0
  removed := {1}
  active := true
  running _ := ⟨0, 0⟩
  entryVector _ := some 0x8000
  earlyPoke _ := (0, 0)
  completion _ := none
  gicId cpu := cpu.cluster

/-- A switch to the second cluster. -/
def toSecond (powerUp : Int) : Call 2 where
  this := 0
  newCluster := 1
  inboundAlive := 0x1000
  powerUp := powerUp

def fixedAddresses : Board := ⟨0x9000, 0x2000⟩

theorem rolledBack_iff_two_cpus : (twoCpus.switchTo fixedAddresses (toSecond 0)).2.map 0 = ⟨0, 1⟩ ∧
    ((0 : Int) ≠ 0 → RolledBack twoCpus (twoCpus.switchTo fixedAddresses (toSecond 0)).2 (toSecond 0) 1) :=
  ⟨by decide, (rolledBack_iff rfl rfl (by decide) rfl).mpr (.inr ⟨rfl, rfl⟩)⟩

/-- The inbound CPU cannot be powered up: both gates stay closed, the poke stays set and the frame of
the call stays registered. -/
theorem refused_not_rolledBack :
    let t := (twoCpus.switchTo fixedAddresses (toSecond (-22))).2
    (twoCpus.switchTo fixedAddresses (toSecond (-22))).1 = .returned (-22) ∧
      t.entryVector ⟨0, 0⟩ = none ∧ t.entryVector ⟨0, 1⟩ = none ∧ t.earlyPoke ⟨0, 1⟩ = (0x2000, 0x10006) ∧
      t.completion 0 = some 0x1000 ∧ ¬RolledBack twoCpus t (toSecond (-22)) 1 :=
  ⟨by decide, by decide, by decide, by decide, by decide, fun hback => hback.frame (by decide)⟩

end System

end BigLittle.Switcher
