import Mathlib.Data.Prod.Lex
import BigLittle.Balance.MoveTasks

/-!
# The loops of `load_balance`

`load_balance` has three jumps back. After a break of `move_tasks` it goes on with the same queues (`more_balance`).
If a task could go only to another CPU of the group, that CPU becomes the destination and is taken out of `cpus`
(`more_balance` with a new count of rounds). If all tasks of the busiest CPU were pinned, that CPU is taken out of
`cpus` and the search begins again (`redo`).

No jump can be repeated for ever: `cpus` shrinks with every search and with every new destination that is still in it,
and `loop` grows with every break. The flag for a new destination outlives a search, so the destination may have left
`cpus` already, once for each search.
-/

namespace BigLittle.Balance

open Cfs Finset

variable {T G : Type*} [DecidableEq T] [DecidableEq G] {n : Nat}

/-- The result of `find_busiest_group`, with what is read besides the queues before tasks are moved. -/
structure Search (n : Nat) where
  balance : Bool := true
  group : Option (Finset (Fin n))
  imbalance : Int
  power : Fin n → Nat
  smallCapacity : Nat := 0
  /-- the buddy of the CPU, which is not busy (`CONFIG_HMP_LAZY_BALANCE`) -/
  spared : Fin n → Bool := fun _ => false

namespace Search

variable (f : Search n) (env : LbEnv n) (rq : Fin n → Rq)

/-- Whether the only task of a CPU is more than the imbalance. -/
def tooHeavy (i : Fin n) : Bool :=
  let capacity := Word.add 64 (f.power i) 512 / 1024
  (if capacity = 0 then f.smallCapacity else capacity) ≠ 0 && (rq i).nrRunning = 1 &&
    decide (Word.ofInt 64 env.imbalance < (rq i).loadWeight)

/-- A round of the loop of `find_busiest_queue`: the highest load, and the CPU that has it. -/
def busier (best : Nat × Option (Fin n)) (i : Fin n) : Nat × Option (Fin n) :=
  if i ∉ env.cpus then best
  else if f.tooHeavy env rq i then best
  else
    let wl := Word.mul 64 (rq i).loadWeight 1024 / f.power i
    if best.1 < wl then (wl, some i) else best

def findBusiestQueue (group : Finset (Fin n)) : Option (Fin n) :=
  (((List.finRange n).filter (· ∈ group)).foldl (f.busier env rq) (0, none)).2

lemma findBusiestQueue_mem {group : Finset (Fin n)} {busiest : Fin n}
    (h : f.findBusiestQueue env rq group = some busiest) : busiest ∈ env.cpus := by
  have hinv : ∀ cpu ∈ (((List.finRange n).filter (· ∈ group)).foldl (f.busier env rq) (0, none)).2, cpu ∈ env.cpus := by
    refine Run.foldl_of_step (P := fun best : Nat × Option (Fin n) => ∀ cpu ∈ best.2, cpu ∈ env.cpus) ?_ nofun
    intro best i hbest
    rw [busier]
    split
    next => exact hbest
    next hi =>
      split
      next => exact hbest
      next =>
        dsimp only
        split
        next =>
          rintro _ ⟨⟩
          exact not_not.mp hi
        next => exact hbest
  exact hinv busiest h

end Search

structure Outside (T G : Type*) (n : Nat) where
  searches : Nat → Search n
  calls : Nat → Call T G n
  rounds : Nat → Round G n
  nrMigrate : Nat := 32
  nrMigrate_lt : nrMigrate < 2 ^ 32 - 1 := by decide

inductive Label (n : Nat) where
  | redo
  | moreBalance (busiest : Fin n)
  | moveTasks (busiest : Fin n)
deriving DecidableEq

structure LoadBalance (T G : Type*) [DecidableEq T] [DecidableEq G] (n : Nat) where
  label : Label n
  moving : Moving T G n
  ldMoved : Nat := 0
  /-- the searches and the calls of `move_tasks` so far -/
  searches : Nat := 0
  calls : Nat := 0

inductive Exit where
  | outBalanced
  /-- `BUG_ON(busiest == env.dst_rq)` -/
  | bug
  /-- to the code after the loops, with `ld_moved` -/
  | done
deriving DecidableEq

namespace LoadBalance

variable (o : Outside T G n) (b : LoadBalance T G n)

/-- From the label `redo` to `more_balance`. -/
def redo : LoadBalance T G n ⊕ LoadBalance T G n × Exit :=
  let f := o.searches b.searches
  let env := { b.moving.env with imbalance := f.imbalance }
  let rq := b.moving.queues.state.rq
  let b := { b with moving := { b.moving with env }, ldMoved := 0, searches := b.searches + 1 }
  if !f.balance then .inr (b, .outBalanced)
  else
    match f.group.bind (f.findBusiestQueue env rq) with
    | none => .inr (b, .outBalanced)
    | some busiest =>
      if f.spared busiest then .inr (b, .outBalanced)
      else if busiest = env.dstCpu then .inr (b, .bug)
      else if (rq busiest).nrRunning ≤ 1 then .inr (b, .done)
      else
        let env :=
          { env with
            allPinned := true
            srcCpu := busiest
            loopMax := min o.nrMigrate (rq busiest).nrRunning
            loopMax_lt := (Nat.min_le_left _ _).trans_lt o.nrMigrate_lt }
        .inl { b with label := .moreBalance busiest, moving := { b.moving with env } }

/-- What follows `move_tasks`. -/
def afterMove (busiest : Fin n) : LoadBalance T G n ⊕ LoadBalance T G n × Exit :=
  let env := b.moving.env
  let goOn (label : Label n) (env : LbEnv n) : LoadBalance T G n := { b with label, moving := { b.moving with env } }
  if env.needBreak then .inl (goOn (.moreBalance busiest) { env with needBreak := false })
  else if env.somePinned && 0 < env.imbalance then
    .inl (goOn (.moreBalance busiest)
      { env with
        dstCpu := env.newDstCpu
        somePinned := false
        loop := 0
        loopBreak := schedNrMigrateBreak
        cpus := env.cpus.erase env.newDstCpu })
  else if env.allPinned then
    let env := { env with cpus := env.cpus.erase busiest }
    if env.cpus.Nonempty then .inl (goOn .redo { env with loop := 0, loopBreak := schedNrMigrateBreak })
    else .inr (goOn b.label env, .outBalanced)
  else .inr (b, .done)

/-- One step of `load_balance`: a search, the test with which `move_tasks` begins, or a round of its loop with what
follows the last one. -/
def round : LoadBalance T G n ⊕ LoadBalance T G n × Exit :=
  match b.label with
  | .redo => b.redo o
  | .moreBalance busiest =>
    let b : LoadBalance T G n := { b with moving := { b.moving with pulls := [] } }
    if b.moving.env.imbalance ≤ 0 then afterMove { b with calls := b.calls + 1 } busiest
    else .inl { b with label := .moveTasks busiest }
  | .moveTasks busiest =>
    match (o.calls b.calls).moveRound o.rounds b.moving with
    | .inl moving => .inl { b with moving }
    | .inr moving =>
      afterMove { b with moving, ldMoved := b.ldMoved + moving.pulls.length, calls := b.calls + 1 } busiest

/-- The start of `load_balance` on `this_cpu`, in a domain whose first group is `group`. -/
def start (thisCpu : Fin n) (group : Finset (Fin n)) (idleType : CpuIdleType) (cpuActive : Finset (Fin n))
    (queues : Queues T G n) : LoadBalance T G n where
  label := .redo
  moving :=
    { queues
      env :=
        { srcCpu := thisCpu
          dstCpu := thisCpu
          dstGrpmask := if idleType = .newlyIdle then none else some group
          newDstCpu := thisCpu
          idle := idleType
          imbalance := 0
          cpus := cpuActive } }

end LoadBalance

/-- The destinations that are left, twice, and the one that may have been taken out of `cpus` already. -/
def LbEnv.destinationsLeft (env : LbEnv n) : Nat :=
  2 * env.cpus.card + if env.somePinned = true ∧ env.newDstCpu ∉ env.cpus then 1 else 0

lemma LbEnv.Flags.destinationsLeft_le {env env' : LbEnv n} (h : env.Flags env') :
    env'.destinationsLeft ≤ env.destinationsLeft := by
  have hcpus : env'.cpus = env.cpus := (congrArg LbEnv.cpus h.eq :)
  rw [LbEnv.destinationsLeft, LbEnv.destinationsLeft, hcpus]
  obtain ⟨hpinned, hnew⟩ | ⟨-, hnew⟩ := h.pinned
  · rw [hpinned, hnew]
  · rw [if_neg fun h => h.2 hnew]
    omega

/-- A new destination uses one up, or the one that was taken out of `cpus` before. -/
lemma LbEnv.destinationsLeft_erase_lt (env : LbEnv n) (hpinned : env.somePinned = true) :
    2 * (env.cpus.erase env.newDstCpu).card < env.destinationsLeft := by
  rw [LbEnv.destinationsLeft]
  by_cases hnew : env.newDstCpu ∈ env.cpus
  · have hlt := card_erase_lt_of_mem hnew
    omega
  · rw [erase_eq_of_notMem hnew, if_pos ⟨hpinned, hnew⟩]
    omega

namespace Moving.After

variable {c : Call T G n} {r : Round G n} {m m' : Moving T G n}

/-- A round after which `move_tasks` goes on leaves one round less, and a new destination only among `cpus`. -/
lemma env_of_next (h : m.After c r (.inl m')) : m'.env.cpus = m.env.cpus ∧ m'.env.needBreak = m.env.needBreak ∧
    m'.env.destinationsLeft ≤ m.env.destinationsLeft ∧ m'.env.roundsLeft < m.env.roundsLeft := by
  -- `pull` changes the imbalance besides, which none of these reads
  have hnext : ∀ env, m.counted.env.Flags env → m.counted.env.loop ≤ m.env.loopMax →
      env.cpus = m.env.cpus ∧ env.needBreak = m.env.needBreak ∧
        env.destinationsLeft ≤ m.env.destinationsLeft ∧ env.roundsLeft < m.env.roundsLeft :=
    fun env hflags hloop => ⟨(congrArg LbEnv.cpus hflags.eq :), (congrArg LbEnv.needBreak hflags.eq :),
      hflags.destinationsLeft_le,
      (congrArg LbEnv.roundsLeft hflags.eq :).trans_lt (m.env.roundsLeft_countRound_lt hloop)⟩
  cases h with
  | next hloop hflags => exact hnext _ hflags hloop
  | more hloop hflags hp hmovable hload hleft =>
    have hmore := hnext _ hflags hloop
    exact hmore

/-- So does the last round, if it asks for a break. -/
lemma env_of_exit (h : m.After c r (.inr m')) : m'.env.cpus = m.env.cpus ∧
    m'.env.destinationsLeft ≤ m.env.destinationsLeft ∧
    (m.env.needBreak = false → m'.env.needBreak = true → m'.env.roundsLeft < m.env.roundsLeft) := by
  cases h with
  | empty | bound =>
    exact ⟨rfl, le_rfl, fun hno hyes => absurd (hno.symm.trans hyes) Bool.false_ne_true⟩
  | pause hloop => exact ⟨rfl, le_rfl, fun _ _ => m.env.roundsLeft_countRound_lt hloop⟩
  | last hflags hp hmovable hload =>
    refine ⟨(congrArg LbEnv.cpus hflags.eq :), hflags.destinationsLeft_le, fun hno hyes => ?_⟩
    have hsame : m.env.needBreak = true := (congrArg LbEnv.needBreak hflags.eq).symm.trans hyes
    exact absurd (hno.symm.trans hsame) Bool.false_ne_true

end Moving.After

/-- The CPUs that can still be searched, twice; in between, the busiest one counts as one of them. -/
def Label.searchesLeft (cpus : Finset (Fin n)) : Label n → Nat
  | .redo => 2 * cpus.card + 1
  | .moreBalance busiest | .moveTasks busiest => 2 * (insert busiest cpus).card

/-- `move_tasks` has yet to begin. -/
def Label.atEntry : Label n → Nat
  | .moreBalance _ => 1
  | .redo | .moveTasks _ => 0

namespace LoadBalance

variable {o : Outside T G n} {b b' : LoadBalance T G n} {busiest : Fin n}

/-- What is left of the three loops, the outer ones first. -/
def variant (b : LoadBalance T G n) : Nat ×ₗ Nat ×ₗ Nat :=
  toLex (b.label.searchesLeft b.moving.env.cpus,
    toLex (b.moving.env.destinationsLeft, 2 * b.moving.env.roundsLeft + b.label.atEntry))

lemma lex_lt {searches searches' destinations destinations' rounds rounds' : Nat}
    (h : searches' < searches ∨ searches' ≤ searches ∧
      (destinations' < destinations ∨ destinations' ≤ destinations ∧ rounds' < rounds)) :
    (toLex (searches', toLex (destinations', rounds')) : Nat ×ₗ Nat ×ₗ Nat) <
      toLex (searches, toLex (destinations, rounds)) := by
  rw [Prod.Lex.toLex_lt_toLex, Prod.Lex.toLex_lt_toLex]
  dsimp only
  omega

lemma card_erase_busiest_lt (cpus : Finset (Fin n)) (busiest : Fin n) :
    2 * (cpus.erase busiest).card + 1 < 2 * (insert busiest cpus).card := by
  have hmem := mem_insert_self busiest cpus
  have hcard := card_erase_of_mem hmem
  rw [erase_insert_eq_erase] at hcard
  have hpos := card_pos.mpr ⟨busiest, hmem⟩
  omega

/-- Every jump after `move_tasks` lowers the variant, provided a break has used up a round. -/
lemma afterMove_next (h : b.afterMove busiest = .inl b') (rounds : Nat)
    (hbreak : b.moving.env.needBreak = true → 2 * b.moving.env.roundsLeft + 1 < rounds) :
    b'.moving.env.needBreak = false ∧ b'.variant <
    toLex (2 * (insert busiest b.moving.env.cpus).card, toLex (b.moving.env.destinationsLeft, rounds)) := by
  rw [afterMove] at h
  dsimp only at h
  split at h
  next hneed =>
    cases h
    exact ⟨rfl, lex_lt (.inr ⟨le_rfl, .inr ⟨le_rfl, hbreak hneed⟩⟩)⟩
  next hneed =>
    rw [Bool.not_eq_true] at hneed
    split at h
    next hpinned =>
      cases h
      refine ⟨hneed, lex_lt (.inr ⟨?_, .inl ?_⟩)⟩
      · exact Nat.mul_le_mul_left 2 (card_le_card (insert_subset_insert _ (erase_subset _ _)))
      · exact b.moving.env.destinationsLeft_erase_lt (Bool.and_eq_true_iff.mp hpinned).1
    next =>
      split at h
      next =>
        split at h
        next =>
          cases h
          exact ⟨hneed, lex_lt (.inl (card_erase_busiest_lt _ busiest))⟩
        next => cases h
      next => cases h

/-- A search that finds a busiest CPU finds it in `cpus`. -/
lemma redo_next (h : b.redo o = .inl b') (hlabel : b.label = .redo) :
    b'.moving.env.needBreak = b.moving.env.needBreak ∧ b'.variant < b.variant := by
  rw [redo] at h
  dsimp only at h
  split at h
  next => cases h
  next =>
    split at h
    next => cases h
    next busiest hfound =>
      obtain ⟨group, -, hbusiest⟩ := Option.bind_eq_some_iff.mp hfound
      have hmem : busiest ∈ b.moving.env.cpus := (Search.findBusiestQueue_mem _ _ _ hbusiest :)
      split at h
      next => cases h
      next =>
        split at h
        next => cases h
        next =>
          split at h
          next => cases h
          next =>
            cases h
            refine ⟨rfl, lex_lt (.inl ?_)⟩
            rw [hlabel]
            dsimp only [Label.searchesLeft]
            rw [insert_eq_of_mem hmem]
            omega

variable (h : b.round o = .inl b') (hneed : b.moving.env.needBreak = false)
include h hneed

/-- From `more_balance`, `move_tasks` begins, or has nothing to do and no break to ask for. -/
lemma moreBalance_next (hlabel : b.label = .moreBalance busiest) :
    b'.moving.env.needBreak = false ∧ b'.variant < b.variant := by
  have hvariant : b.variant = toLex (2 * (insert busiest b.moving.env.cpus).card,
      toLex (b.moving.env.destinationsLeft, 2 * b.moving.env.roundsLeft + 1)) := by
    rw [variant, hlabel]
    rfl
  rw [round, hlabel] at h
  dsimp only at h
  rw [hvariant]
  split at h
  next => exact afterMove_next h _ fun hyes => absurd (hneed.symm.trans hyes) Bool.false_ne_true
  next =>
    cases h
    exact ⟨hneed, lex_lt (.inr ⟨le_rfl, .inr ⟨le_rfl, Nat.lt_succ_self _⟩⟩)⟩

/-- A round of `move_tasks` is followed by another one, or by one of the jumps. -/
lemma moveTasks_next (hlabel : b.label = .moveTasks busiest) :
    b'.moving.env.needBreak = false ∧ b'.variant < b.variant := by
  have hvariant : b.variant = toLex (2 * (insert busiest b.moving.env.cpus).card,
      toLex (b.moving.env.destinationsLeft, 2 * b.moving.env.roundsLeft)) := by
    rw [variant, hlabel]
    rfl
  have hafter := (o.calls b.calls).moveRound_after o.rounds b.moving
  rw [round, hlabel] at h
  dsimp only at h
  rw [hvariant]
  split at h
  next moving hmoving =>
    cases h
    rw [hmoving] at hafter
    obtain ⟨hcpus, hsame, hdestinations, hrounds⟩ := hafter.env_of_next
    rw [← hcpus]
    exact ⟨hsame.trans hneed,
      lex_lt (.inr ⟨le_rfl, .inr ⟨hdestinations, Nat.mul_lt_mul_of_pos_left hrounds Nat.two_pos⟩⟩)⟩
  next moving hmoving =>
    rw [hmoving] at hafter
    obtain ⟨hcpus, hdestinations, hrounds⟩ := hafter.env_of_exit
    have hbreak : moving.env.needBreak = true → 2 * moving.env.roundsLeft + 1 < 2 * b.moving.env.roundsLeft := by
      intro hyes
      have hlt := hrounds hneed hyes
      omega
    obtain ⟨hno, hlt⟩ := afterMove_next h (2 * b.moving.env.roundsLeft) hbreak
    rw [← hcpus]
    exact ⟨hno, hlt.trans_le (Prod.Lex.toLex_mono ⟨le_rfl, Prod.Lex.toLex_mono ⟨hdestinations, le_rfl⟩⟩)⟩

/-- Every step that does not leave the loops lowers the variant. -/
lemma round_next : b'.moving.env.needBreak = false ∧ b'.variant < b.variant := by
  cases hlabel : b.label with
  | redo =>
    rw [round, hlabel] at h
    obtain ⟨hsame, hlt⟩ := redo_next h hlabel
    exact ⟨hsame.trans hneed, hlt⟩
  | moreBalance busiest => exact moreBalance_next h hneed hlabel
  | moveTasks busiest => exact moveTasks_next h hneed hlabel

end LoadBalance

/-- For every domain, affinity, content of the queues and result of every search, the loops of `load_balance` are
left. -/
theorem loadBalance_returns (o : Outside T G n) (thisCpu : Fin n) (group : Finset (Fin n))
    (idleType : CpuIdleType) (cpuActive : Finset (Fin n)) (queues : Queues T G n) :
    ∃ result, Loop.Returns (LoadBalance.round o) (.start thisCpu group idleType cpuActive queues) result := by
  obtain ⟨result, hreturns, -⟩ := Loop.returns_of_variant (LoadBalance.round o) LoadBalance.variant
    (P := fun b => b.moving.env.needBreak = false) (Q := fun _ => True)
    (fun b b' hneed h => LoadBalance.round_next h hneed) (fun _ _ _ _ => trivial)
    (show (LoadBalance.start thisCpu group idleType cpuActive queues).moving.env.needBreak = false from rfl)
  exact ⟨result, hreturns⟩

end BigLittle.Balance
