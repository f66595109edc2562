import Mathlib.Data.List.FinRange
import Mathlib.Logic.Function.Basic
import BigLittle.Lib.Run

/-!
# Voting locks

A CPU that wants the lock raises its voting flag, looks whether there is a vote, casts its
own if there is none and lowers the flag. Then it waits until nobody is voting, reading
the flags word by word, and has won if the last vote was its own.

A step is one access to the lock. The vote is one byte: the number of the CPU plus the
offset of the flags, so that no vote is 0. Elections are counted by the unlocks between
them.
-/

namespace BigLittle.Vlock

open List
open Function (update update_eq_self update_of_ne update_self)

/-- Where a CPU is in `vlock_trylock`; `holding` is after it has returned 0. -/
inductive Pc where
  | idle
  | check
  | fail
  | vote
  | votingEnd
  | scan (word : Nat)
  | result
  | holding
deriving DecidableEq

structure State (n : Nat) where
  owner : Nat := 0
  voting : Fin n → Bool := fun _ => false
  pc : Fin n → Pc := fun _ => .idle
  /-- the number of unlocks -/
  election : Nat := 0
  /-- the election in which a CPU voted last -/
  votedIn : Fin n → Nat := fun _ => 0
  voters : Nat → List (Fin n) := fun _ => []
  winners : Nat → List (Fin n) := fun _ => []

variable {n : Nat}

/-- `VLOCK_VOTING_OFFSET` is added to the number of the CPU. -/
def vote (i : Fin n) : Nat := i + 4

/-- `VLOCK_VOTING_SIZE` in words. -/
def words (n : Nat) : Nat := (n + 3) / 4

namespace State

variable (s : State n)

def setPc (i : Fin n) (pc : Pc) : State n := { s with pc := update s.pc i pc }

/-- A word of voting flags is not zero. -/
def someVoting (word : Nat) : Bool := (finRange n).any fun j => decide (j.val / 4 = word) && s.voting j

def step (s : State n) (i : Fin n) : State n :=
  match s.pc i with
  | .idle => { s with voting := update s.voting i true }.setPc i .check
  | .check => s.setPc i (if s.owner = 0 then .vote else .fail)
  | .fail => { s with voting := update s.voting i false }.setPc i .idle
  | .vote =>
    -- `strb` stores the low byte
    { s with
      owner := vote i % 256
      votedIn := update s.votedIn i s.election
      voters := update s.voters s.election (s.voters s.election ++ [i]) }.setPc i .votingEnd
  | .votingEnd => { s with voting := update s.voting i false }.setPc i (.scan 0)
  | .scan word =>
    if s.someVoting word then s
    else s.setPc i (if word + 1 = words n then .result else .scan (word + 1))
  | .result =>
    if s.owner = vote i then
      { s with winners := update s.winners (s.votedIn i) (s.winners (s.votedIn i) ++ [i]) }.setPc i .holding
    else s.setPc i .idle
  | .holding => { s with owner := 0, election := s.election + 1 }.setPc i .idle

lemma step_pc_of_ne {i j : Fin n} (hj : j ≠ i) : (s.step i).pc j = s.pc j := by
  have hset : ∀ (t : State n) (pc : Pc), (t.setPc i pc).pc j = t.pc j := fun t pc => update_of_ne hj _ _
  rw [step]
  split
  case h_6 | h_7 => split <;> first | rfl | exact hset _ _
  all_goals exact hset _ _

lemma step_pc_of_holding {i : Fin n} (hpc : s.pc i = .holding) : (s.step i).pc i = .idle := by
  rw [step, hpc]
  exact update_self _ _ _

end State

/-! ### Mutual exclusion -/

/-- The CPU is about to vote or may find that it should. -/
def Pc.isVoting : Pc → Bool
  | .check | .vote => true
  | _ => false

/-- The CPU has voted and has not been told that it has lost. -/
def Pc.hasVoted : Pc → Bool
  | .votingEnd | .scan _ | .result | .holding => true
  | _ => false

/-- The scan has not passed the flag of the other CPU. -/
def Pc.Before (pc : Pc) (j : Fin n) : Prop :=
  match pc with
  | .scan word => word ≤ j.val / 4
  | .result | .holding => False
  | _ => True

/-- What mutual exclusion rests on. -/
structure Safe (s : State n) : Prop where
  flag : ∀ i, (s.pc i).isVoting = true → s.voting i = true
  word : ∀ i word, s.pc i = .scan word → word < words n
  before : ∀ i j, s.owner = vote i → s.pc j = .vote → (s.pc i).Before j
  holding : ∀ i, s.pc i = .holding → s.owner = vote i

lemma vote_ne_zero (i : Fin n) : vote i ≠ 0 := Nat.succ_ne_zero _

lemma vote_inj {i j : Fin n} (h : vote i = vote j) : i = j := Fin.ext (Nat.add_right_cancel h)

/-- The vote of a CPU numbered by eight bits is not taken for that of another. -/
lemma eq_of_vote_mod (hn : n ≤ 256) {i j : Fin n} (h : vote i % 256 = vote j) : i = j := by
  have hi := i.isLt
  have hj := j.isLt
  rw [vote, vote] at h
  exact Fin.ext (by omega)

variable {s s' : State n} {i : Fin n} {pc : Pc}

section

variable (h : Safe s)
include h

lemma Safe.exclusive {j : Fin n} (hi : s.pc i = .holding) (hj : s.pc j = .holding) : i = j :=
  vote_inj ((h.holding i hi).symm.trans (h.holding j hj))

/-- Nobody is to vote while the lock is held. -/
lemma Safe.not_holding (hpc : s.pc i = .vote) (j : Fin n) : s.pc j ≠ .holding := by
  intro hj
  have hbefore := h.before j i (h.holding j hj) hpc
  rwa [hj] at hbefore

/-- A step writes the flag of its CPU alone. -/
lemma Safe.change (hpcs : s'.pc = update s.pc i pc) (hvoting : ∀ j, j ≠ i → s'.voting j = s.voting j)
    (hflag : pc.isVoting = true → s'.voting i = true) (hword : ∀ word, pc = .scan word → word < words n)
    (hbefore : ∀ j k, s'.owner = vote j → s'.pc k = .vote → (s'.pc j).Before k)
    (hholding : ∀ j, s'.pc j = .holding → s'.owner = vote j) : Safe s' where
  flag := by
    rw [hpcs]
    refine (Function.forall_update_iff s.pc fun j pc => pc.isVoting = true → s'.voting j = true).mpr
      ⟨hflag, fun j hj hvote => ?_⟩
    rw [hvoting j hj]
    exact h.flag j hvote
  word := by
    rw [hpcs]
    exact (Function.forall_update_iff s.pc fun _ pc => ∀ word, pc = .scan word → word < words n).mpr
      ⟨hword, fun j _ => h.word j⟩
  before := hbefore
  holding := hholding

/-- A step that leaves the vote alone and does not win. -/
lemma Safe.move {voting : Bool} (hnew : pc ≠ .holding) (hflag : pc.isVoting = true → voting = true)
    (hword : ∀ word, pc = .scan word → word < words n)
    (hbefore : s.owner = vote i → ∀ j, j ≠ i → s.pc j = .vote → pc.Before j) (hvote : pc = .vote → s.owner = 0) :
    Safe (State.setPc { s with voting := update s.voting i voting } i pc) := by
  set s' := State.setPc { s with voting := update s.voting i voting } i pc
  have hself : s'.pc i = pc := update_self _ _ _
  have hother : ∀ j, j ≠ i → s'.pc j = s.pc j := fun j hj => update_of_ne hj _ _
  refine h.change rfl (fun j hj => update_of_ne hj _ _)
    (fun hpc => (update_self _ _ _).trans (hflag hpc)) hword (fun j k hj hk => ?_) fun j hj => ?_
  · have hki : k ≠ i := by
      rintro rfl
      rw [hself] at hk
      exact vote_ne_zero j (hj.symm.trans (hvote hk))
    rw [hother k hki] at hk
    by_cases hji : j = i
    · subst hji
      rw [hself]
      exact hbefore hj k hki hk
    · rw [hother j hji]
      exact h.before j k hj hk
  · by_cases hji : j = i
    · rw [hji, hself] at hj
      exact absurd hj hnew
    · rw [hother j hji] at hj
      exact h.holding j hj

lemma Safe.setPc (hnew : pc ≠ .holding) (hflag : pc.isVoting = true → s.voting i = true)
    (hword : ∀ word, pc = .scan word → word < words n)
    (hbefore : s.owner = vote i → ∀ j, j ≠ i → s.pc j = .vote → pc.Before j)
    (hvote : pc = .vote → s.owner = 0) : Safe (s.setPc i pc) := by
  have hmove := h.move hnew hflag hword hbefore hvote
  rwa [update_eq_self] at hmove

/-- Only one vote is the CPU's own, whatever is left of it in a byte. -/
lemma Safe.cast (hpc : s.pc i = .vote) (hown : ∀ j, vote i % 256 = vote j → i = j) : Safe (s.step i) := by
  rw [State.step, hpc]
  dsimp only
  set s' : State n := State.setPc _ i .votingEnd
  have hself : s'.pc i = .votingEnd := update_self _ _ _
  refine h.change rfl (fun _ _ => rfl) nofun nofun (fun j k hj _ => ?_) fun j hj => ?_
  · obtain rfl := hown j hj
    rw [hself]
    trivial
  · by_cases hji : j = i
    · rw [hji, hself] at hj
      exact nomatch hj
    · exact absurd ((update_of_ne hji _ _).symm.trans hj) (h.not_holding hpc j)

/-- A vote that is yet to come would be seen by the scan. -/
lemma Safe.not_vote (hpc : s.pc i = .result) (howner : s.owner = vote i) (j : Fin n) : s.pc j ≠ .vote := by
  intro hj
  have hbefore := h.before i j howner hj
  rwa [hpc] at hbefore

/-- The CPU whose vote was the last one has the lock. -/
lemma Safe.win (hpc : s.pc i = .result) (howner : s.owner = vote i) (winners : Nat → List (Fin n)) :
    Safe (State.setPc { s with winners := winners } i .holding) := by
  set s' : State n := State.setPc _ i .holding
  have hself : s'.pc i = .holding := update_self _ _ _
  refine h.change rfl (fun _ _ => rfl) nofun nofun (fun j k _ hk => ?_) fun j hj => ?_
  · by_cases hki : k = i
    · rw [hki, hself] at hk
      exact nomatch hk
    · exact absurd ((update_of_ne hki _ _).symm.trans hk) (h.not_vote hpc howner k)
  · by_cases hji : j = i
    · rwa [hji]
    · exact h.holding j ((update_of_ne hji _ _).symm.trans hj)

lemma Safe.not_holding_unlocked (hpc : s.pc i = .holding) (j : Fin n) : update s.pc i .idle j ≠ .holding := by
  intro hj
  by_cases hji : j = i
  · rw [hji, update_self] at hj
    exact nomatch hj
  · rw [update_of_ne hji] at hj
    exact hji (h.exclusive hj hpc)

lemma Safe.unlock (hpc : s.pc i = .holding) :
    Safe (State.setPc { s with owner := 0, election := s.election + 1 } i .idle) :=
  h.change rfl (fun _ _ => rfl) nofun nofun (fun j _ hj => absurd hj.symm (vote_ne_zero j))
    fun j hj => absurd hj (h.not_holding_unlocked hpc j)

end

section

variable (h : Safe s) {word : Nat} (hpc : s.pc i = .scan word) (hzero : s.someVoting word = false)
include h hpc hzero

/-- The CPUs of a word of which no flag is up are not about to vote. -/
lemma Safe.passed {j : Fin n} (howner : s.owner = vote i) (hj : s.pc j = .vote) : word + 1 ≤ j.val / 4 := by
  have hbefore := h.before i j howner hj
  rw [hpc] at hbefore
  refine Nat.lt_of_le_of_ne hbefore fun heq => ?_
  have hflag : s.voting j = true := h.flag j (by rw [hj]; rfl)
  have hsome : s.someVoting word = true := by
    refine any_eq_true.mpr ⟨j, mem_finRange j, ?_⟩
    rw [hflag, Bool.and_true]
    exact decide_eq_true heq.symm
  exact Bool.false_ne_true (hzero.symm.trans hsome)

/-- After the last word there is no CPU that is about to vote. -/
lemma Safe.passed_last (hlast : word + 1 = words n) {j : Fin n} (howner : s.owner = vote i)
    (hj : s.pc j = .vote) : False := by
  have hword := h.passed hpc hzero howner hj
  have hj := j.isLt
  rw [words] at hlast
  omega

lemma Safe.scan : Safe (s.setPc i (if word + 1 = words n then .result else .scan (word + 1))) := by
  have hlt := h.word i word hpc
  split
  next hlast =>
    exact h.setPc nofun nofun nofun (fun howner j _ hj => h.passed_last hpc hzero hlast howner hj) nofun
  next hmore =>
    refine h.setPc nofun nofun (fun k hk => ?_) (fun howner j _ hj => h.passed hpc hzero howner hj) nofun
    injection hk with hk
    omega

end

lemma words_pos (i : Fin n) : 0 < words n := by
  have hi := i.isLt
  rw [words]
  omega

/-- Each step keeps what mutual exclusion rests on. -/
lemma Safe.step (h : Safe s) (hn : n ≤ 256) (i : Fin n) : Safe (s.step i) := by
  cases hpc : s.pc i with
  | idle =>
    rw [State.step, hpc]
    exact h.move nofun (fun _ => rfl) nofun (fun _ _ _ _ => trivial) nofun
  | check =>
    rw [State.step, hpc]
    dsimp only
    split
    next hzero =>
      exact h.setPc nofun (fun _ => h.flag i (by rw [hpc]; rfl)) nofun (fun _ _ _ _ => trivial) fun _ => hzero
    next => exact h.setPc nofun nofun nofun (fun _ _ _ _ => trivial) nofun
  | fail =>
    rw [State.step, hpc]
    exact h.move nofun nofun nofun (fun _ _ _ _ => trivial) nofun
  | vote => exact h.cast hpc fun _ hj => eq_of_vote_mod hn hj
  | votingEnd =>
    rw [State.step, hpc]
    refine h.move nofun nofun (fun word hword => ?_) (fun _ _ _ _ => Nat.zero_le _) nofun
    injection hword with hword
    exact hword ▸ words_pos i
  | scan word =>
    rw [State.step, hpc]
    dsimp only
    split
    · exact h
    next hzero => exact h.scan hpc (Bool.eq_false_iff.mpr hzero)
  | result =>
    rw [State.step, hpc]
    dsimp only
    split
    next howner => exact h.win hpc howner _
    next => exact h.setPc nofun nofun nofun (fun _ _ _ _ => trivial) nofun
  | holding =>
    rw [State.step, hpc]
    exact h.unlock hpc

lemma safe_init : Safe ({} : State n) where
  flag _ := nofun
  word _ _ := nofun
  before _ _ hj := absurd hj.symm (vote_ne_zero _)
  holding _ := nofun

/-! ### Elections -/

structure Inv (s : State n) : Prop extends Safe s where
  /-- the last vote is that of a CPU that has yet to win or holds the lock -/
  owner : s.owner = 0 ∨ ∃ i, s.owner = vote i ∧ (s.pc i).hasVoted = true
  /-- the last vote was cast in this election -/
  current : ∀ i, s.owner = vote i → s.votedIn i = s.election ∧ i ∈ s.voters s.election
  unvoted : s.owner = 0 → s.voters s.election = []
  past : ∀ k, k < s.election → ∃ i ∈ s.voters k, s.winners k = [i]
  now : ∀ i, s.pc i = .holding → s.winners s.election = [i]
  undecided : (∀ i, s.pc i ≠ .holding) → s.winners s.election = []
  future : ∀ k, s.election < k → s.voters k = [] ∧ s.winners k = []

/-- A step that leaves the vote alone and neither wins nor unlocks. -/
lemma Inv.move (h : Inv s) {voting : Fin n → Bool} (hsafe : Safe (State.setPc { s with voting := voting } i pc))
    (hold : s.pc i ≠ .holding) (hnew : pc ≠ .holding) (hvoted : s.owner = vote i → pc.hasVoted = true) :
    Inv (State.setPc { s with voting := voting } i pc) := by
  set s' := State.setPc { s with voting := voting } i pc
  have hself : s'.pc i = pc := update_self _ _ _
  have hother : ∀ j, j ≠ i → s'.pc j = s.pc j := fun j hj => update_of_ne hj _ _
  have hholding : ∀ j, s'.pc j = .holding ↔ s.pc j = .holding := by
    intro j
    by_cases hj : j = i
    · rw [hj, hself]
      exact iff_of_false hnew hold
    · rw [hother j hj]
  constructor
  case toSafe => exact hsafe
  case owner =>
    refine h.owner.imp id ?_
    rintro ⟨j, howner, hvoted'⟩
    refine ⟨j, howner, ?_⟩
    by_cases hji : j = i
    · rw [hji] at howner ⊢
      rw [hself]
      exact hvoted howner
    · rwa [hother j hji]
  case current => exact h.current
  case unvoted => exact h.unvoted
  case past => exact h.past
  case now => exact fun j hj => h.now j ((hholding j).mp hj)
  case undecided => exact fun hnone => h.undecided fun j hj => hnone j ((hholding j).mpr hj)
  case future => exact h.future

/-- The owner is not a CPU that has not voted. -/
lemma Inv.owner_ne (h : Inv s) (hpc : (s.pc i).hasVoted = false) : s.owner ≠ vote i := by
  intro howner
  rcases h.owner with hzero | ⟨j, hj, hvoted⟩
  · exact vote_ne_zero i (howner.symm.trans hzero)
  · obtain rfl := vote_inj (howner.symm.trans hj)
    exact Bool.false_ne_true (hpc.symm.trans hvoted)

lemma Inv.cast (h : Inv s) (hpc : s.pc i = .vote) (hfits : vote i % 256 = vote i) (hsafe : Safe (s.step i)) :
    Inv (s.step i) := by
  rw [State.step, hpc] at hsafe ⊢
  dsimp only at hsafe ⊢
  rw [hfits] at hsafe ⊢
  have hnone := h.not_holding hpc
  set s' : State n := State.setPc _ i .votingEnd
  have hself : s'.pc i = .votingEnd := update_self _ _ _
  have hother : ∀ j, j ≠ i → s'.pc j = s.pc j := fun j hj => update_of_ne hj _ _
  have hvoters : s'.voters s.election = s.voters s.election ++ [i] := update_self _ _ _
  have hvoters' : ∀ k, k ≠ s.election → s'.voters k = s.voters k := fun k hk => update_of_ne hk _ _
  have hnone' : ∀ j, s'.pc j ≠ .holding := by
    intro j
    by_cases hj : j = i
    · rw [hj, hself]
      exact nofun
    · rw [hother j hj]
      exact hnone j
  constructor
  case toSafe => exact hsafe
  case owner => exact .inr ⟨i, rfl, by rw [hself]; rfl⟩
  case current =>
    intro j hj
    obtain rfl : i = j := vote_inj hj
    refine ⟨update_self _ _ _, ?_⟩
    change i ∈ s'.voters s.election
    rw [hvoters]
    exact mem_append_right _ mem_cons_self
  case unvoted => exact fun hzero => absurd hzero (vote_ne_zero i)
  case past =>
    intro k hk
    change k < s.election at hk
    rw [hvoters' k (Nat.ne_of_lt hk)]
    exact h.past k hk
  case now => exact fun j hj => absurd hj (hnone' j)
  case undecided => exact fun _ => h.undecided hnone
  case future =>
    intro k hk
    change s.election < k at hk
    rw [hvoters' k (Nat.ne_of_gt hk)]
    exact h.future k hk

/-- The winner is recorded in the election of its vote. -/
lemma Inv.win (h : Inv s) (hpc : s.pc i = .result) (howner : s.owner = vote i) : Inv (State.setPc { s with
      winners := update s.winners (s.votedIn i) (s.winners (s.votedIn i) ++ [i]) } i .holding) := by
  obtain ⟨hin, hmem⟩ := h.current i howner
  have hnone : ∀ j, s.pc j ≠ .holding := by
    intro j hj
    obtain rfl := vote_inj (howner.symm.trans (h.holding j hj))
    exact nomatch hpc.symm.trans hj
  have hempty := h.undecided hnone
  rw [hin, hempty, nil_append]
  have hsafe := h.toSafe.win hpc howner (update s.winners s.election [i])
  set s' : State n := State.setPc _ i .holding
  have hself : s'.pc i = .holding := update_self _ _ _
  have hother : ∀ j, j ≠ i → s'.pc j = s.pc j := fun j hj => update_of_ne hj _ _
  have hwinners : s'.winners s.election = [i] := update_self _ _ _
  have hwinners' : ∀ k, k ≠ s.election → s'.winners k = s.winners k := fun k hk => update_of_ne hk _ _
  constructor
  case toSafe => exact hsafe
  case owner => exact .inr ⟨i, howner, by rw [hself]; rfl⟩
  case current => exact h.current
  case unvoted => exact h.unvoted
  case past =>
    intro k hk
    change k < s.election at hk
    rw [hwinners' k (Nat.ne_of_lt hk)]
    exact h.past k hk
  case now => exact fun j hj => hsafe.exclusive hj hself ▸ hwinners
  case undecided => exact fun hno => absurd hself (hno i)
  case future =>
    intro k hk
    change s.election < k at hk
    rw [hwinners' k (Nat.ne_of_gt hk)]
    exact h.future k hk

lemma Inv.unlock (h : Inv s) (hpc : s.pc i = .holding) :
    Inv (State.setPc { s with owner := 0, election := s.election + 1 } i .idle) where
  toSafe := h.toSafe.unlock hpc
  owner := .inl rfl
  current j hj := absurd hj.symm (vote_ne_zero j)
  unvoted _ := (h.future _ (Nat.lt_succ_self _)).1
  past k hk := by
    rcases Nat.lt_succ_iff_lt_or_eq.mp hk with hk | rfl
    · exact h.past k hk
    · exact ⟨i, (h.current i (h.holding i hpc)).2, h.now i hpc⟩
  now j hj := absurd hj (h.not_holding_unlocked hpc j)
  undecided _ := (h.future _ (Nat.lt_succ_self _)).2
  future k hk := h.future k (Nat.lt_of_succ_lt hk)

/-- The votes fit in a byte. -/
def Fits (n : Nat) : Prop := n + 4 ≤ 256

lemma vote_mod (hfits : Fits n) (i : Fin n) : vote i % 256 = vote i :=
  Nat.mod_eq_of_lt (Nat.lt_of_lt_of_le (Nat.add_lt_add_right i.isLt 4) hfits)

lemma Inv.step (h : Inv s) (hfits : Fits n) (i : Fin n) : Inv (s.step i) := by
  have hsafe : Safe (s.step i) := h.toSafe.step (Nat.le_of_add_right_le hfits) i
  have howner : (s.pc i).hasVoted = false → s.owner ≠ vote i := h.owner_ne
  cases hpc : s.pc i with
  | vote => exact h.cast hpc (vote_mod hfits i) hsafe
  | idle | fail =>
    rw [hpc] at howner
    rw [State.step, hpc] at hsafe ⊢
    exact h.move hsafe (by rw [hpc]; exact nofun) nofun fun h' => absurd h' (howner rfl)
  | check =>
    rw [hpc] at howner
    rw [State.step, hpc] at hsafe ⊢
    exact h.move hsafe (by rw [hpc]; exact nofun) (by split <;> exact nofun) fun h' => absurd h' (howner rfl)
  | votingEnd =>
    rw [State.step, hpc] at hsafe ⊢
    exact h.move hsafe (by rw [hpc]; exact nofun) nofun fun _ => rfl
  | scan word =>
    rw [State.step, hpc] at hsafe ⊢
    dsimp only at hsafe ⊢
    by_cases hvoting : s.someVoting word = true
    · rwa [if_pos hvoting]
    · rw [if_neg hvoting] at hsafe ⊢
      exact h.move hsafe (by rw [hpc]; exact nofun) (by split <;> exact nofun) fun _ => by split <;> rfl
  | result =>
    rw [State.step, hpc] at hsafe ⊢
    dsimp only at hsafe ⊢
    by_cases hwon : s.owner = vote i
    · rw [if_pos hwon]
      exact h.win hpc hwon
    · rw [if_neg hwon] at hsafe ⊢
      exact h.move hsafe (by rw [hpc]; exact nofun) nofun fun h' => absurd h' hwon
  | holding =>
    rw [State.step, hpc]
    exact h.unlock hpc

lemma inv_init : Inv ({} : State n) where
  toSafe := safe_init
  owner := .inl rfl
  current _ hj := absurd hj.symm (vote_ne_zero _)
  unvoted _ := rfl
  past _ := nofun
  now _ := nofun
  undecided _ := rfl
  future _ _ := ⟨rfl, rfl⟩

/-- The attempt is over: the CPU holds the lock, has lost or has begun another. -/
def Pc.isOver : Pc → Bool
  | .votingEnd | .scan _ | .result => false
  | _ => true

/-- At most one CPU holds the lock, and an election in which somebody has voted and all
voters are through has one winner. -/
structure OneWinner (s : State n) : Prop where
  exclusive : ∀ i j, s.pc i = .holding → s.pc j = .holding → i = j
  atMostOne : ∀ k, (s.winners k).length ≤ 1
  winner : ∀ k, s.voters k ≠ [] → (∀ i ∈ s.voters k, s.votedIn i = k → (s.pc i).isOver = true) →
    ∃ i ∈ s.voters k, s.winners k = [i]

lemma Inv.oneWinner (h : Inv s) : OneWinner s := by
  refine ⟨fun i j hi hj => ?_, fun k => ?_, fun k hvoters hover => ?_⟩
  · exact h.exclusive hi hj
  · rcases Nat.lt_trichotomy k s.election with hk | rfl | hk
    · obtain ⟨i, -, hwinners⟩ := h.past k hk
      rw [hwinners]
      exact Nat.le_refl 1
    · by_cases hholding : ∃ i, s.pc i = .holding
      · obtain ⟨i, hi⟩ := hholding
        rw [h.now i hi]
        exact Nat.le_refl 1
      · rw [h.undecided fun i hi => hholding ⟨i, hi⟩]
        exact Nat.zero_le 1
    · rw [(h.future k hk).2]
      exact Nat.zero_le 1
  · rcases Nat.lt_trichotomy k s.election with hk | rfl | hk
    · exact h.past k hk
    · rcases h.owner with hzero | ⟨i, howner, hvoted⟩
      · exact absurd (h.unvoted hzero) hvoters
      · obtain ⟨hin, hmem⟩ := h.current i howner
        have hover := hover i hmem hin
        have hholding : s.pc i = .holding := by
          cases hpc : s.pc i with
          | holding => rfl
          | votingEnd | scan | result =>
            rw [hpc] at hover
            exact nomatch hover
          | idle | check | fail | vote =>
            rw [hpc] at hvoted
            exact nomatch hvoted
        exact ⟨i, hmem, h.now i hholding⟩
    · exact absurd (h.future k hk).1 hvoters

/-- In every interleaving of up to 252 CPUs. -/
theorem one_winner (hn : n ≤ 252) (ops : List (Fin n)) : Run.Always State.step OneWinner {} ops := by
  have hfits : Fits n := Nat.add_le_add_right hn 4
  have hinv : Run.Always State.step Inv ({} : State n) ops :=
    Run.always_of_step (fun _ i ht => ht.step hfits i) inv_init
  exact hinv.mono fun _ ht => ht.oneWinner

/-- The first and the fifth CPU, whose flags are in different words, vote together. -/
def twoVoters : List (Fin 5) := [0, 4, 0, 4, 0, 4, 0, 4, 0, 4, 0, 4, 0, 4]

theorem one_winner_two_voters : ∃ i ∈ [0, 4], (twoVoters.foldl State.step {}).winners 0 = [i] := by
  have hwinner := (one_winner (by decide) twoVoters).last.winner 0
  have hvoters : (twoVoters.foldl State.step {}).voters 0 = [0, 4] := by decide +kernel
  rw [hvoters] at hwinner
  exact hwinner (by decide) (by decide +kernel)

/-- The vote of the CPU with number 252 is stored as 0. -/
def loneVoter : List (Fin 253) := replicate 69 252

theorem loneVoter_loses : ¬Run.Always State.step OneWinner {} loneVoter := by
  intro honce
  have hwinner := honce.last.winner 0
  have hvoters : (loneVoter.foldl State.step {}).voters 0 = [252] := by decide +kernel
  have hwinners : (loneVoter.foldl State.step {}).winners 0 = [] := by decide +kernel
  have hover : ((loneVoter.foldl State.step {}).pc 252).isOver = true := by decide +kernel
  rw [hvoters, hwinners] at hwinner
  obtain ⟨i, -, hi⟩ := hwinner nofun fun i hi _ => mem_singleton.mp hi ▸ hover
  exact nomatch hi

end BigLittle.Vlock
