import BigLittle.Hmp.Force

/-!
# Lock discipline of the forced migrations

A round that does not wake a big CPU is a critical section of its run queue, so
the passes give back what they take, whatever the checks find. The round of
`hmp_force_up_migration` that wakes a big CPU gives back both locks and then runs
into the unlock at the end of the round, with the loop still to go on.
-/

namespace BigLittle.Hmp

open Lock
open Function (update update_of_ne update_self)

variable {T : Type*} {n : Nat} {held : LockId n → Bool}

lemma dispatch_restoring (p : Probe T n) (free : held (.rq p.cpu) = false) : Restoring held p.dispatch := by
  rw [Probe.dispatch]
  apply Restoring.cons_act
  split
  · exact .critical free (.act _)
  · exact .nil

lemma acts_restoring {α : Type*} (f : α → Action T n) (xs : List α) :
    Restoring held (xs.map fun x => (.act (f x) : TraceEvent T n)) := by
  rw [List.map_eq_flatMap]
  exact .flatMap fun x _ => .act (f x)

/-- Any round but one that wakes a big CPU takes the run-queue lock and gives it
back. -/
lemma round_restoring {delayUp : Bool} {r : Requester} {p : Probe T n}
    (stays : ∀ target, p.decision delayUp r ≠ .delay target) (free : held (.rq p.cpu) = false) :
    Restoring held (p.round delayUp r) := by
  rw [Probe.round]
  cases hdecision : p.decision delayUp r with
  | offline => exact .nil
  | nothing => exact .critical free .nil
  | avoid pushCpu => exact .critical free (acts_restoring (.countAvoided p.cpu) pushCpu.toList)
  | delay target => exact absurd hdecision (stays target)
  | launch task target =>
    have hsection : Restoring held ([.acquire (.rq p.cpu), .act (.setActiveBalance p.cpu target task),
          .act (.nextDelay r.direction task target), .release (.rq p.cpu)] : List (TraceEvent T n)) :=
      .critical free (.cons_act _ (.act _))
    refine hsection.append (Restoring.append ?_ (dispatch_restoring p free))
    split
    · exact .act _
    · exact .nil

lemma decision_ne_delay {r : Requester} (p : Probe T n) (target : Fin n) : p.decision false r ≠ .delay target := by
  intro h
  grind [Probe.decision]

lemma forceDown_ne_delay (delayUp : Bool) (p : Probe T n) (target : Fin n) :
    p.decision delayUp .forceDown ≠ .delay target := by
  intro h
  grind [Probe.decision]

lemma round_keepsForce {delayUp : Bool} {r : Requester} {p : Probe T n}
    (stays : ∀ target, p.decision delayUp r ≠ .delay target) :
    (.release .force : TraceEvent T n) ∉ p.round delayUp r := by
  rw [Probe.round]
  cases hdecision : p.decision delayUp r with
  | offline => simp
  | nothing => simp
  | avoid pushCpu => simp
  | delay target => exact absurd hdecision (stays target)
  | launch task target =>
    simp only [Probe.dispatch]
    grind

/-- Such a round unlocks a run queue it has already unlocked. -/
lemma round_illegal {p : Probe T n} {target : Fin n} (wakes : p.decision true .forceUp = .delay target) :
    ¬ Run.Each step Legal held (p.round true .forceUp) := by
  rw [Probe.round, wakes]
  rintro ⟨-, -, -, -, -, hagain, -⟩
  have hfree : update (update (update held (.rq p.cpu) true) (.rq p.cpu) false) .force false (.rq p.cpu) = false := by
    rw [update_of_ne (by nofun), update_self]
  exact absurd (hfree.symm.trans hagain) (by decide)

lemma forceDown_restoring (fast : List (Probe T n)) (free : ∀ cpu, held (.rq cpu) = false) :
    Restoring held (hmpForceDownMigration fast) :=
  .flatMap fun p _ => round_restoring (forceDown_ne_delay false p) (free p.cpu)

/-- The loop over the little CPUs is legal exactly if it wakes no big CPU. -/
lemma slowLoop_legal_iff (slow : List (Probe T n)) (free : ∀ cpu, held (.rq cpu) = false) :
    Run.Each step Legal held (slow.flatMap (Probe.round true .forceUp)) ↔ ∀ p ∈ slow, ¬ p.Ripe := by
  induction slow with
  | nil => simp [Run.Each]
  | cons p rest ih =>
    rw [List.flatMap_cons, Run.each_append, List.forall_mem_cons]
    by_cases hripe : p.Ripe
    · obtain ⟨target, hwakes⟩ := Probe.decision_delay_iff.mpr hripe
      simp [hripe, round_illegal hwakes]
    · have hround : Restoring held (p.round true .forceUp) := by
        apply round_restoring _ (free p.cpu)
        intro target htarget
        exact hripe (Probe.decision_delay_iff.mp ⟨target, htarget⟩)
      rw [hround.restored, ih]
      simp [hripe, hround.legal]

/-- What is asked of the locks: the whole function is restoring, and the loop and
the final pass run with `hmp_force_migration` held. -/
def ForceUpLocked (trylock : Bool) (slow fast : List (Probe T n)) : Prop :=
  Restoring (fun _ => false) (hmpForceUpMigration true trylock slow fast) ∧
    (trylock = true → Throughout .force (update (fun _ => false) .force true) (forceUpBody true slow fast))

/-- `hmp_force_up_migration` keeps the lock discipline exactly if it gives up at
once or no little CPU passes all the checks. -/
theorem forceUp_locked_iff (trylock : Bool) (slow fast : List (Probe T n)) :
    ForceUpLocked trylock slow fast ↔ (trylock = true → ∀ p ∈ slow, ¬ p.Ripe) := by
  cases trylock with
  | false => exact ⟨nofun, fun _ => ⟨.nil, nofun⟩⟩
  | true =>
    have hfree : ∀ cpu : Fin n, update (fun _ => false) LockId.force true (.rq cpu) = false := by
      intro cpu
      exact update_of_ne (by nofun) _ _
    constructor
    · rintro ⟨⟨⟨-, hlegal⟩, -⟩, -⟩ -
      rw [forceUpBody, List.append_assoc, Run.each_append] at hlegal
      exact (slowLoop_legal_iff slow hfree).mp hlegal.1
    · intro hquiet
      have hstays : ∀ p ∈ slow, ∀ target, p.decision true .forceUp ≠ .delay target := by
        intro p hp target htarget
        exact hquiet rfl p hp (Probe.decision_delay_iff.mp ⟨target, htarget⟩)
      refine ⟨.critical rfl (.append (.flatMap fun p hp => ?_) ?_), fun _ => ?_⟩
      · exact round_restoring (hstays p hp) (hfree p.cpu)
      · exact forceDown_restoring fast hfree
      · apply throughout_of_notMem (update_self ..)
        rw [forceUpBody, List.mem_append, not_or]
        constructor
        · rw [List.mem_flatMap]
          rintro ⟨p, hp, hmem⟩
          exact round_keepsForce (hstays p hp) hmem
        · rw [hmpForceDownMigration, List.mem_flatMap]
          rintro ⟨p, -, hmem⟩
          exact round_keepsForce (forceDown_ne_delay false p) hmem

/-- One little CPU with a task for the idle big one: both locks are given back
twice. -/
theorem forceUp_unlocks_twice :
    let p : Probe Unit 2 := { cpu := 0, curr := some (), target := some 1 }
    hmpForceUpMigration true true [p] [] =
        [.acquire .force, .acquire (.rq 0), .act (.wakeForIdlePull 1), .release (.rq 0),
          .release .force, .act (.sendReschedule 1), .release (.rq 0), .release .force] ∧
      ¬ Run.Each step Legal (fun _ => false) (hmpForceUpMigration true true [p] []) := by
  decide

/-- `hmp_idle_pull`, which does not wake anyone, keeps the discipline always. -/
theorem idlePull_restoring (trylock : Bool) (slow : List (Probe T n)) :
    Restoring (fun _ => false) (hmpIdlePull trylock slow) := by
  cases trylock with
  | false => exact .nil
  | true =>
    refine .critical rfl (.flatMap fun p _ => round_restoring (decision_ne_delay p) ?_)
    exact update_of_ne (by nofun) _ _

end BigLittle.Hmp
