import Mathlib.Algebra.Order.BigOperators.Group.Finset
import BigLittle.Lib.Count
import BigLittle.Stop.Machine

/-!
# The machine is stopped while the function runs

Every CPU acknowledges the states in order, and the shared state is the one that the
slowest CPU has yet to acknowledge, or that all have acknowledged and one of them is about
to leave. So no two CPUs are more than one state apart, and what all have done before a
state is acknowledged is done when any CPU acts on the next.
-/

namespace BigLittle.StopMachine

open Finset State
open Participant (loop)
open Function (update_of_ne update_self)
open Finset (card filter_congr mem_filter mem_univ sum_le_sum)

variable {n : Nat} (isActive : Bool)

/-- The states a CPU acts on. -/
def states : List MachineState := [.prepare, .disableIrq, .run, .exit]

/-- What a CPU does in a state before it acknowledges it. -/
def acted (st : MachineState) : List Event :=
  if st = .run ∧ isActive = true then [.act st, .call, .finish] else [.act st]

/-- What a CPU has done when it has acknowledged `k` states. -/
def rounds (k : Nat) : List Event :=
  (states.take k).flatMap fun st => acted isActive st ++ [.ack st]

/-- What a CPU does from beginning to end. -/
def life : List Event := rounds isActive 4 ++ [.restore]

lemma rounds_toNat {isActive : Bool} {st : MachineState} (h : st ∈ states) :
    rounds isActive st.toNat = rounds isActive (st.toNat - 1) ++ acted isActive st ++ [.ack st] := by
  cases st with
  | none | beyond => exact absurd h (by decide)
  | prepare | disableIrq | run | exit => cases isActive <;> rfl

lemma MachineState.toNat_inj {st st' : MachineState} (h : st.toNat = st'.toNat) : st = st' := by
  cases st <;> cases st' <;> first | rfl | exact nomatch h

lemma mem_states {st : MachineState} : st ∈ states ↔ 1 ≤ st.toNat ∧ st.toNat ≤ 4 := by
  cases st <;> decide

lemma MachineState.toNat_next {st : MachineState} (h : st ∈ states) : st.next.toNat = st.toNat + 1 := by
  cases st with
  | none | beyond => exact absurd h (by decide)
  | prepare | disableIrq | run | exit => rfl

namespace Participant

variable (p : Participant)

/-- How many states the CPU has acknowledged. -/
def acked : Nat :=
  match p.pc with
  | .act | .inFn | .ack => p.curstate.toNat - 1
  | _ => p.curstate.toNat

/-- The CPU moves to the next state. -/
def isSetter : Bool :=
  match p.pc with
  | .setAck | .setState _ => true
  | _ => false

/-- What a CPU knows and has done, by where it is. -/
def Sound (isActive : Bool) (state : MachineState) : Prop :=
  match p.pc with
  | .start => p.curstate = .none ∧ p.log = []
  | .head => p.log = rounds isActive p.curstate.toNat ∧ p.curstate.toNat ≤ 3
  | .read => p.log = rounds isActive p.curstate.toNat ∧ p.curstate.toNat ≤ 3 ∧ p.curstate ≠ state
  | .act => p.curstate = state ∧ p.curstate ∈ states ∧ p.log = rounds isActive p.acked
  | .inFn =>
    p.curstate = state ∧ p.curstate = .run ∧ isActive = true ∧ p.log = rounds isActive 2 ++ [.act .run, .call]
  | .ack => p.curstate = state ∧ p.curstate ∈ states ∧ p.log = rounds isActive p.acked ++ acted isActive p.curstate
  | .setAck => p.curstate = state ∧ p.curstate ∈ states ∧ p.log = rounds isActive p.acked
  | .setState newstate =>
    p.curstate = state ∧ p.curstate ∈ states ∧ p.log = rounds isActive p.acked ∧ newstate = state.next
  | .exit => p.curstate = .exit ∧ p.log = rounds isActive 4
  | .returned => p.curstate = .exit ∧ p.log = life isActive

lemma loop_acked (p : Participant) : p.loop.acked = p.curstate.toNat := by
  by_cases hexit : p.curstate = .exit <;> simp [loop, acked, hexit]

lemma loop_isSetter (p : Participant) : p.loop.isSetter = false := by
  by_cases hexit : p.curstate = .exit <;> simp [loop, isSetter, hexit]

lemma loop_sound {p : Participant} {isActive : Bool} {state : MachineState} (hmem : p.curstate ∈ states)
    (hlog : p.log = rounds isActive p.curstate.toNat) : p.loop.Sound isActive state := by
  obtain ⟨pc, curstate, irq, flags, log⟩ := p
  have hpos : 1 ≤ curstate.toNat ∧ curstate.toNat ≤ 4 := mem_states.mp hmem
  cases curstate with
  | none | beyond => exact absurd hpos (by decide)
  | prepare | disableIrq | run => exact ⟨hlog, by simp [loop, MachineState.toNat]⟩
  | exit => exact ⟨rfl, hlog⟩

/-- A CPU that has acknowledged the state takes no notice of a change to the next. -/
lemma Sound.next {p : Participant} {isActive : Bool} {state : MachineState} (h : p.Sound isActive state)
    (hmem : state ∈ states) (hacked : p.acked = state.toNat) (hsetter : p.isSetter = false) :
    p.Sound isActive state.next := by
  obtain ⟨pc, curstate, irq, flags, log⟩ := p
  have hpos := mem_states.mp hmem
  cases pc with
  | start | head | exit | returned => exact h
  | read =>
    refine ⟨h.1, h.2.1, fun heq => ?_⟩
    have heq : curstate.toNat = state.toNat + 1 := by
      rw [← MachineState.toNat_next hmem]
      exact congrArg _ heq
    have hacked : curstate.toNat = state.toNat := hacked
    omega
  | act | inFn | ack =>
    have hcur : curstate = state := h.1
    subst hcur
    have hacked : curstate.toNat - 1 = curstate.toNat := hacked
    omega
  | setAck | setState => exact nomatch hsetter

end Participant

structure Inv (cfg : Config n) (s : State n) : Prop where
  sound : ∀ i, cfg.online i = true → (s.cpu i).Sound (cfg.isActive i) s.state
  irq : ∀ i, .act .disableIrq ∈ (s.cpu i).log → .restore ∉ (s.cpu i).log → (s.cpu i).irq = false
  near : ∀ i, cfg.online i = true → (s.cpu i).acked ≤ s.state.toNat ∧ s.state.toNat ≤ (s.cpu i).acked + 1
  /-- the CPU that moves on does so alone, when all have acknowledged the state -/
  setter : ∀ i, cfg.online i = true → (s.cpu i).isSetter = true →
    (∀ j, cfg.online j = true → (s.cpu j).acked = s.state.toNat ∧ ((s.cpu j).isSetter = true → j = i)) ∧
      s.threadAck = if (s.cpu i).pc = .setAck then 0 else (cfg.numThreads : Int)
  /-- otherwise those that have yet to acknowledge it are counted -/
  count : (∀ i, cfg.online i = true → (s.cpu i).isSetter = false) →
    s.threadAck = #{i | cfg.online i = true ∧ (s.cpu i).acked + 1 = s.state.toNat} ∧
      (cfg.numThreads ≠ 0 → s.threadAck ≠ 0)

variable {cfg : Config n} {s : State n} {i j : Fin n} {p : Participant}

/-- What holds of the CPU with its new record and of the others with theirs holds of all. -/
lemma State.forall_setCpu (s : State n) (P : Fin n → Participant → Prop) (hself : P i p)
    (hother : ∀ j, j ≠ i → P j (s.cpu j)) (j : Fin n) : P j ((s.setCpu i p).cpu j) :=
  (Function.forall_update_iff s.cpu P).mpr ⟨hself, hother⟩ j

lemma Inv.irq_setCpu (h : Inv cfg s)
    (hirq : .act .disableIrq ∈ p.log → .restore ∉ p.log → p.irq = false) (j : Fin n) :
    .act .disableIrq ∈ ((s.setCpu i p).cpu j).log → .restore ∉ ((s.setCpu i p).cpu j).log →
    ((s.setCpu i p).cpu j).irq = false :=
  s.forall_setCpu (fun _ q => .act .disableIrq ∈ q.log → .restore ∉ q.log → q.irq = false) hirq (fun j _ => h.irq j) j

/-- A step that acknowledges nothing and does not touch the shared data. -/
lemma Inv.setCpu (h : Inv cfg s) {old p : Participant} (hold : s.cpu i = old)
    (hsound : p.Sound (cfg.isActive i) s.state) (hirq : .act .disableIrq ∈ p.log → .restore ∉ p.log → p.irq = false)
    (hacked : p.acked = old.acked) (hsetter : p.isSetter = false) (hsetter' : old.isSetter = false) :
    Inv cfg (s.setCpu i p) := by
  subst hold
  have hackeds : ∀ j, ((s.setCpu i p).cpu j).acked = (s.cpu j).acked :=
    s.forall_setCpu (fun j q => q.acked = (s.cpu j).acked) hacked fun _ _ => rfl
  have hsetters : ∀ j, ((s.setCpu i p).cpu j).isSetter = (s.cpu j).isSetter :=
    s.forall_setCpu (fun j q => q.isSetter = (s.cpu j).isSetter) (hsetter.trans hsetter'.symm) fun _ _ => rfl
  refine ⟨?_, h.irq_setCpu hirq, fun j hj => ?_, fun j hj hset => ?_, fun hnone => ?_⟩
  · exact s.forall_setCpu (fun j q => cfg.online j = true → q.Sound (cfg.isActive j) s.state) (fun _ => hsound)
      fun j _ => h.sound j
  · rw [hackeds]
    exact h.near j hj
  · rw [hsetters] at hset
    have hji : j ≠ i := by
      rintro rfl
      exact Bool.false_ne_true (hsetter'.symm.trans hset)
    obtain ⟨hall, hack⟩ := h.setter j hj hset
    refine ⟨fun k hk => ?_, ?_⟩
    · rw [hackeds, hsetters]
      exact hall k hk
    · have hother : (s.setCpu i p).cpu j = s.cpu j := update_of_ne hji _ _
      rwa [hother]
  · simp only [hackeds]
    refine h.count fun j hj => ?_
    rw [← hsetters]
    exact hnone j hj

section Steps

variable {curstate : MachineState} {irq flags : Bool} {log : List Event}

lemma Inv.soundAt (h : Inv cfg s) (hi : cfg.online i = true) (hp : s.cpu i = p) :
    p.Sound (cfg.isActive i) s.state := hp ▸ h.sound i hi

lemma Inv.irqAt (h : Inv cfg s) {pc : Pc} (hp : s.cpu i = ⟨pc, curstate, irq, flags, log⟩) :
    .act .disableIrq ∈ log → .restore ∉ log → irq = false := by
  have hirq := h.irq i
  rwa [hp] at hirq

variable (h : Inv cfg s) (hi : cfg.online i = true)
include h hi

lemma Inv.start (hp : s.cpu i = ⟨.start, curstate, irq, flags, log⟩) :
    Inv cfg (s.setCpu i ⟨.head, curstate, irq, irq, log⟩) := by
  obtain ⟨rfl, rfl⟩ : curstate = .none ∧ log = [] := h.soundAt hi hp
  exact h.setCpu hp ⟨rfl, Nat.zero_le 3⟩ nofun rfl rfl rfl

lemma Inv.head (hp : s.cpu i = ⟨.head, curstate, irq, flags, log⟩)
    (hne : s.state ≠ curstate) : Inv cfg (s.setCpu i ⟨.read, curstate, irq, flags, log⟩) := by
  obtain ⟨hlog, hle⟩ := h.soundAt hi hp
  exact h.setCpu hp ⟨hlog, hle, hne.symm⟩ (h.irqAt hp) rfl rfl rfl

lemma Inv.read (hp : s.cpu i = ⟨.read, curstate, irq, flags, log⟩) :
    Inv cfg (s.setCpu i ⟨.act, s.state, irq, flags, log⟩) := by
  obtain ⟨hlog, hle, hne⟩ : log = rounds _ curstate.toNat ∧ curstate.toNat ≤ 3 ∧ curstate ≠ s.state := h.soundAt hi hp
  have hnear : curstate.toNat ≤ s.state.toNat ∧ s.state.toNat ≤ curstate.toNat + 1 := by
    have hnear := h.near i hi
    rwa [hp] at hnear
  have hne : curstate.toNat ≠ s.state.toNat := fun heq => hne (MachineState.toNat_inj heq)
  have hacked : s.state.toNat - 1 = curstate.toNat := by omega
  have hmem : s.state ∈ states := mem_states.mpr ⟨by omega, by omega⟩
  refine h.setCpu hp ⟨rfl, hmem, ?_⟩ (h.irqAt hp) hacked rfl rfl
  rwa [← hacked] at hlog

lemma Inv.act (hp : s.cpu i = ⟨.act, curstate, irq, flags, log⟩) :
    Inv cfg (s.setCpu i (Participant.act ⟨.act, curstate, irq, flags, log⟩ (cfg.isActive i))) := by
  obtain ⟨hcur, hmem, hlog⟩ : curstate = s.state ∧ curstate ∈ states ∧
      log = rounds (cfg.isActive i) (curstate.toNat - 1) :=
    h.soundAt hi hp
  have hirq := h.irqAt hp
  cases curstate with
  | none | beyond => exact absurd hmem (by decide)
  | prepare =>
    subst hlog
    refine h.setCpu hp ⟨hcur, hmem, rfl⟩ ?_ rfl rfl rfl
    simp [Participant.act, Participant.record, MachineState.toNat, rounds]
  | disableIrq =>
    subst hlog
    exact h.setCpu hp ⟨hcur, hmem, rfl⟩ (fun _ _ => rfl) rfl rfl rfl
  | run =>
    rw [Participant.act]
    dsimp only [Participant.record]
    split
    next hactive =>
      refine h.setCpu hp ⟨hcur, rfl, hactive, ?_⟩ ?_ rfl rfl rfl
      · rw [hlog, List.append_assoc]
        rfl
      · simpa using hirq
    next hactive =>
      refine h.setCpu hp ⟨hcur, hmem, ?_⟩ ?_ rfl rfl rfl
      · rw [hlog, acted, if_neg fun hrun => hactive hrun.2]
        rfl
      · simpa using hirq
  | exit =>
    refine h.setCpu hp ⟨hcur, hmem, ?_⟩ ?_ rfl rfl rfl
    · rw [hlog]
      rfl
    · simpa [Participant.act, Participant.record] using hirq

lemma Inv.inFn (hp : s.cpu i = ⟨.inFn, curstate, irq, flags, log⟩) :
    Inv cfg (s.setCpu i ⟨.ack, curstate, irq, flags, log ++ [.finish]⟩) := by
  obtain ⟨hcur, rfl, hactive, rfl⟩ : curstate = s.state ∧ curstate = .run ∧ cfg.isActive i = true ∧
      log = rounds (cfg.isActive i) 2 ++ [Event.act .run, Event.call] := h.soundAt hi hp
  have hmem : MachineState.run ∈ states := by decide
  refine h.setCpu hp ⟨hcur, hmem, ?_⟩ ?_ rfl rfl rfl
  · rw [hactive]
    rfl
  · simpa using h.irqAt hp

lemma Inv.exit (hp : s.cpu i = ⟨.exit, curstate, irq, flags, log⟩) :
    Inv cfg (s.setCpu i ⟨.returned, curstate, flags, flags, log ++ [.restore]⟩) := by
  obtain ⟨hcur, rfl⟩ : curstate = .exit ∧ log = rounds (cfg.isActive i) 4 := h.soundAt hi hp
  exact h.setCpu hp ⟨hcur, rfl⟩ (by simp) rfl rfl rfl

lemma Inv.ack (hp : s.cpu i = ⟨.ack, curstate, irq, flags, log⟩)
    (hpc : p = if s.threadAck - 1 = 0 then ⟨.setAck, curstate, irq, flags, log ++ [.ack curstate]⟩
      else loop ⟨.ack, curstate, irq, flags, log ++ [.ack curstate]⟩) :
    Inv cfg (State.setCpu { s with threadAck := s.threadAck - 1 } i p) := by
  obtain ⟨rfl, hmem, rfl⟩ : curstate = s.state ∧ curstate ∈ states ∧
      log = rounds (cfg.isActive i) (curstate.toNat - 1) ++ acted (cfg.isActive i) curstate := h.soundAt hi hp
  have hpos := mem_states.mp hmem
  have hacked : (s.cpu i).acked = s.state.toNat - 1 := by
    rw [hp]
    rfl
  -- nobody moves on, since this CPU has yet to acknowledge the state
  have hnone : ∀ j, cfg.online j = true → (s.cpu j).isSetter = false := by
    intro j hj
    by_contra hset
    have hall := ((h.setter j hj (by simpa using hset)).1 i hi).1
    omega
  obtain ⟨hcount, -⟩ := h.count hnone
  set s' := State.setCpu { s with threadAck := s.threadAck - 1 } i p
  have hself : s'.cpu i = p := update_self _ _ _
  have hother : ∀ j, j ≠ i → s'.cpu j = s.cpu j := fun j hj => update_of_ne hj _ _
  have hacked' : p.acked = s.state.toNat := by
    rw [hpc]
    split
    · rfl
    · exact Participant.loop_acked _
  have hone : #{j | cfg.online j = true ∧ (s.cpu j).acked + 1 = s.state.toNat} =
      #{j | cfg.online j = true ∧ (s'.cpu j).acked + 1 = s.state.toNat} + 1 := by
    refine Count.card_of_one_less (x := i) ⟨hi, by omega⟩ ?_ fun j hj => by rw [hother j hj]
    rw [hself, hacked']
    omega
  have hlog : p.log = rounds (cfg.isActive i) s.state.toNat := by
    rw [rounds_toNat hmem, hpc]
    split <;> rfl
  have hsetter : p.isSetter = true ↔ s.threadAck - 1 = 0 := by
    rw [hpc]
    split
    next hzero => exact iff_of_true rfl hzero
    next hzero =>
      refine iff_of_false ?_ hzero
      rw [Participant.loop_isSetter]
      exact nofun
  have hsound : p.Sound (cfg.isActive i) s.state := by
    rw [hpc] at hlog ⊢
    split at hlog
    next hzero =>
      rw [if_pos hzero]
      exact ⟨rfl, hmem, hlog⟩
    next hzero =>
      rw [if_neg hzero]
      exact Participant.loop_sound hmem hlog
  have hirq : .act .disableIrq ∈ p.log → .restore ∉ p.log → p.irq = false := by
    have hirq := h.irqAt hp
    rw [hpc]
    split <;> simpa [loop] using hirq
  refine ⟨?_, h.irq_setCpu hirq, ?_, fun j hj hset => ?_, fun hnone' => ?_⟩
  · exact s.forall_setCpu (fun j q => cfg.online j = true → q.Sound (cfg.isActive j) s.state) (fun _ => hsound)
      fun j _ => h.sound j
  · refine s.forall_setCpu (fun j q => cfg.online j = true → q.acked ≤ s.state.toNat ∧ s.state.toNat ≤ q.acked + 1)
      (fun _ => ?_) fun j _ => h.near j
    rw [hacked']
    exact ⟨Nat.le_refl _, Nat.le_succ _⟩
  · obtain rfl : j = i := by
      by_contra hji
      rw [hother j hji, hnone j hj] at hset
      exact Bool.false_ne_true hset
    rw [hself] at hset ⊢
    have hzero := hsetter.mp hset
    refine ⟨fun k hk => ?_, ?_⟩
    · by_cases hkj : k = j
      · rw [hkj, hself]
        exact ⟨hacked', fun _ => rfl⟩
      · have hempty : #{j | cfg.online j = true ∧ (s'.cpu j).acked + 1 = s.state.toNat} = 0 := by omega
        have hk' := filter_eq_empty_iff.mp (card_eq_zero.mp hempty) (mem_univ k)
        have hnear := h.near k hk
        rw [hother k hkj] at hk' ⊢
        refine ⟨?_, fun hset => absurd hset (by rw [hnone k hk]; exact nofun)⟩
        have hne : (s.cpu k).acked + 1 ≠ s.state.toNat := fun heq => hk' ⟨hk, heq⟩
        change (s.cpu k).acked = s.state.toNat
        omega
    · rwa [hpc, if_pos hzero]
  · have hzero : s.threadAck - 1 ≠ 0 := by
      intro hzero
      have hset := hnone' i hi
      rw [hself, hsetter.mpr hzero] at hset
      exact nomatch hset
    refine ⟨?_, fun _ => hzero⟩
    change s.threadAck - 1 = _
    rw [hcount, hone]
    push_cast
    exact Int.add_sub_cancel _ _

lemma Inv.setAck (hp : s.cpu i = ⟨.setAck, curstate, irq, flags, log⟩) :
    Inv cfg (State.setCpu { s with threadAck := cfg.numThreads } i
      ⟨.setState s.state.next, curstate, irq, flags, log⟩) := by
  obtain ⟨hcur, hmem, hlog⟩ := h.soundAt hi hp
  have hset : (s.cpu i).isSetter = true := by
    rw [hp]
    rfl
  obtain ⟨hall, -⟩ := h.setter i hi hset
  set s' := State.setCpu { s with threadAck := cfg.numThreads } i ⟨.setState s.state.next, curstate, irq, flags, log⟩
  have hself : s'.cpu i = ⟨.setState s.state.next, curstate, irq, flags, log⟩ := update_self _ _ _
  have hacked : ∀ j, (s'.cpu j).acked = (s.cpu j).acked :=
    s.forall_setCpu (fun j q => q.acked = (s.cpu j).acked) (by rw [hp]; rfl) fun _ _ => rfl
  have hsetter : ∀ j, (s'.cpu j).isSetter = (s.cpu j).isSetter :=
    s.forall_setCpu (fun j q => q.isSetter = (s.cpu j).isSetter) (by rw [hset]; rfl) fun _ _ => rfl
  refine ⟨?_, h.irq_setCpu (h.irqAt hp), fun j hj => ?_, fun j hj hsetj => ?_, fun hnone => ?_⟩
  · exact s.forall_setCpu (fun j q => cfg.online j = true → q.Sound (cfg.isActive j) s.state)
      (fun _ => ⟨hcur, hmem, hlog, rfl⟩) fun j _ => h.sound j
  · rw [hacked]
    exact h.near j hj
  · rw [hsetter] at hsetj
    obtain rfl := (hall j hj).2 hsetj
    refine ⟨fun k hk => ?_, ?_⟩
    · rw [hacked, hsetter]
      exact hall k hk
    · rw [hself]
      rfl
  · have hnot := hnone i hi
    rw [hself] at hnot
    exact nomatch hnot

lemma Inv.setState {newstate : MachineState}
    (hp : s.cpu i = ⟨.setState newstate, curstate, irq, flags, log⟩) :
    Inv cfg (State.setCpu { s with state := newstate } i
      (loop ⟨.setState newstate, curstate, irq, flags, log⟩)) := by
  obtain ⟨rfl, hmem, hlog, rfl⟩ : curstate = s.state ∧ curstate ∈ states ∧
      log = rounds (cfg.isActive i) curstate.toNat ∧ newstate = s.state.next := h.soundAt hi hp
  have hset : (s.cpu i).isSetter = true := by
    rw [hp]
    rfl
  obtain ⟨hall, hack⟩ := h.setter i hi hset
  set p := loop ⟨.setState s.state.next, s.state, irq, flags, log⟩
  set s' := State.setCpu { s with state := s.state.next } i p
  have hnext : s'.state.toNat = s.state.toNat + 1 := MachineState.toNat_next hmem
  have hothers : ∀ j, j ≠ i → cfg.online j = true → (s.cpu j).isSetter = false := fun j hji hj =>
    Bool.eq_false_iff.mpr fun hsetj => hji ((hall j hj).2 hsetj)
  have hacked : ∀ j, cfg.online j = true → (s'.cpu j).acked = s.state.toNat :=
    s.forall_setCpu (fun j q => cfg.online j = true → q.acked = s.state.toNat) (fun _ => Participant.loop_acked _)
      fun j _ hj => (hall j hj).1
  have hsetter : ∀ j, cfg.online j = true → (s'.cpu j).isSetter = false :=
    s.forall_setCpu (fun j q => cfg.online j = true → q.isSetter = false) (fun _ => Participant.loop_isSetter _) hothers
  refine ⟨?_, h.irq_setCpu (h.irqAt hp), fun j hj => ?_, fun j hj hsetj => ?_, fun _ => ?_⟩
  · exact s.forall_setCpu (fun j q => cfg.online j = true → q.Sound (cfg.isActive j) s.state.next)
      (fun _ => Participant.loop_sound hmem hlog) fun j hji hj =>
        (h.sound j hj).next hmem (hall j hj).1 (hothers j hji hj)
  · rw [hacked j hj, hnext]
    exact ⟨Nat.le_succ _, Nat.le_refl _⟩
  · exact absurd hsetj (by rw [hsetter j hj]; exact nofun)
  · have hack : s'.threadAck = cfg.numThreads := by
      rwa [hp] at hack
    rw [hack]
    refine ⟨congrArg Nat.cast (congrArg card (filter_congr fun j _ => ?_)), fun hne heq => ?_⟩
    · refine (and_iff_left_of_imp fun hj => ?_).symm
      rw [hacked j hj, hnext]
    · exact hne (Int.ofNat.inj heq)

end Steps

lemma Inv.step (h : Inv cfg s) (hi : cfg.online i = true) : Inv cfg (s.step cfg i) := by
  rw [State.step]
  rcases hp : s.cpu i with ⟨pc, curstate, irq, flags, log⟩
  cases pc with
  | start => exact h.start hi hp
  | head =>
    dsimp only
    split
    next hne => exact h.head hi hp hne
    next => exact h
  | read => exact h.read hi hp
  | act => exact h.act hi hp
  | inFn => exact h.inFn hi hp
  | ack => exact h.ack hi hp rfl
  | setAck => exact h.setAck hi hp
  | setState newstate => exact h.setState hi hp
  | exit => exact h.exit hi hp
  | returned => exact h

lemma inv_boot (cfg : Config n) (irq : Fin n → Bool) : Inv cfg (boot cfg irq) where
  sound _ _ := ⟨rfl, rfl⟩
  irq _ := nofun
  near _ _ := ⟨Nat.zero_le 1, Nat.le_refl 1⟩
  setter _ _ hset := nomatch hset
  count _ := by
    refine ⟨congrArg Nat.cast (congrArg card (filter_congr fun i _ => ?_)), fun hne heq => ?_⟩
    · exact (and_iff_left rfl).symm
    · exact hne (Int.ofNat.inj heq)

/-! ### The order between the CPUs -/

/-- Every CPU goes through the states once; the function is called when all have disabled
interrupts, and interrupts stay disabled until all active CPUs have finished it. -/
structure Safe (cfg : Config n) (s : State n) : Prop where
  life : ∀ i, cfg.online i = true → (s.cpu i).log <+: life (cfg.isActive i)
  call : ∀ i j, cfg.online i = true → cfg.online j = true → .call ∈ (s.cpu i).log →
    .act .disableIrq ∈ (s.cpu j).log
  irq : ∀ i, .act .disableIrq ∈ (s.cpu i).log → .restore ∉ (s.cpu i).log → (s.cpu i).irq = false
  restore : ∀ i j, cfg.online i = true → cfg.online j = true → cfg.isActive i = true →
    .restore ∈ (s.cpu j).log → .finish ∈ (s.cpu i).log

lemma rounds_le (isActive : Bool) {k l : Nat} (h : k ≤ l) : rounds isActive k <+: rounds isActive l := by
  obtain ⟨more, hmore⟩ := List.take_prefix_take_left (l := states) h
  refine ⟨more.flatMap fun st => acted isActive st ++ [.ack st], ?_⟩
  rw [rounds, rounds, ← hmore, List.flatMap_append]

lemma rounds_le_four (isActive : Bool) (k : Nat) : rounds isActive k <+: rounds isActive 4 := by
  rcases Nat.le_total k 4 with hk | hk
  · exact rounds_le isActive hk
  · have hall : rounds isActive k = rounds isActive 4 := by
      rw [rounds, rounds, List.take_of_length_le (show states.length ≤ k from hk)]
      rfl
    rw [hall]

lemma not_mem_rounds {isActive : Bool} {k : Nat} : .restore ∉ rounds isActive k := by
  refine fun h => absurd ((rounds_le_four isActive k).subset h) ?_
  cases isActive <;> decide

lemma three_le_of_call {isActive : Bool} {k : Nat} (h : .call ∈ rounds isActive k) : 3 ≤ k := by
  by_contra hk
  have hmem := (rounds_le isActive (show k ≤ 2 by omega)).subset h
  revert hmem
  cases isActive <;> decide

namespace Participant

variable {p : Participant} {isActive : Bool} {state : MachineState} (h : p.Sound isActive state)
include h

/-- Between two states the log is what has been acknowledged. In a state it is on the way
to the next acknowledgement, and at the end it is the whole life. -/
lemma Sound.log_cases : p.log = rounds isActive p.acked ∨
    (rounds isActive p.acked <+: p.log ∧ p.log <+: rounds isActive state.toNat) ∨
    (p.acked = 4 ∧ p.log = life isActive) := by
  obtain ⟨pc, curstate, irq, flags, log⟩ := p
  cases pc with
  | start =>
    obtain ⟨rfl, rfl⟩ : curstate = .none ∧ log = [] := h
    exact .inl rfl
  | head | read => exact .inl h.1
  | act | setAck => exact .inl h.2.2
  | inFn =>
    obtain ⟨rfl, rfl, rfl, rfl⟩ : curstate = state ∧ curstate = .run ∧ isActive = true ∧
      log = rounds isActive 2 ++ [Event.act .run, Event.call] := h
    have hinit : rounds true 2 ++ [Event.act .run, Event.call] <+: rounds true 3 := by decide
    exact .inr (.inl ⟨List.prefix_append _ _, hinit⟩)
  | ack =>
    obtain ⟨rfl, hmem, rfl⟩ : curstate = state ∧ curstate ∈ states ∧
      log = rounds isActive (curstate.toNat - 1) ++ acted isActive curstate := h
    refine .inr (.inl ⟨List.prefix_append _ _, ?_⟩)
    rw [rounds_toNat hmem]
    exact List.prefix_append _ _
  | setState newstate => exact .inl h.2.2.1
  | exit =>
    obtain ⟨rfl, hlog⟩ : curstate = .exit ∧ log = rounds isActive 4 := h
    exact .inl hlog
  | returned =>
    obtain ⟨rfl, hlog⟩ : curstate = .exit ∧ log = life isActive := h
    exact .inr (.inr ⟨rfl, hlog⟩)

lemma Sound.rounds_le : rounds isActive p.acked <+: p.log := by
  rcases h.log_cases with hlog | ⟨hinit, -⟩ | ⟨hacked, hlog⟩
  · exact hlog ▸ List.prefix_rfl
  · exact hinit
  · rw [hacked, hlog]
    exact List.prefix_append _ _

lemma Sound.prefix_life : p.log <+: life isActive := by
  have hlife : ∀ {k}, rounds isActive k <+: life isActive :=
    fun {k} => (rounds_le_four isActive k).trans (List.prefix_append _ _)
  rcases h.log_cases with hlog | ⟨-, hinit⟩ | ⟨-, hlog⟩
  · exact hlog ▸ hlife
  · exact hinit.trans hlife
  · exact hlog ▸ List.prefix_rfl

/-- The function is called in its own state. -/
lemma Sound.three_le (hacked : p.acked ≤ state.toNat) (hcall : .call ∈ p.log) : 3 ≤ state.toNat := by
  rcases h.log_cases with hlog | ⟨-, hinit⟩ | ⟨hfour, -⟩
  · rw [hlog] at hcall
    exact Nat.le_trans (three_le_of_call hcall) hacked
  · exact three_le_of_call (hinit.subset hcall)
  · omega

/-- Interrupts are restored when the last state is acknowledged. -/
lemma Sound.restored (hrestore : .restore ∈ p.log) : p.acked = 4 := by
  rcases h.log_cases with hlog | ⟨-, hinit⟩ | ⟨hfour, -⟩
  · rw [hlog] at hrestore
    exact absurd hrestore not_mem_rounds
  · exact absurd (hinit.subset hrestore) not_mem_rounds
  · exact hfour

end Participant

lemma Inv.safe (h : Inv cfg s) : Safe cfg s where
  life i hi := (h.sound i hi).prefix_life
  call i j hi hj hcall := by
    have hstate := (h.sound i hi).three_le (h.near i hi).1 hcall
    have hacked : 2 ≤ (s.cpu j).acked := by
      have hnear := (h.near j hj).2
      omega
    refine ((rounds_le _ hacked).trans (h.sound j hj).rounds_le).subset ?_
    cases cfg.isActive j <;> decide
  irq := h.irq
  restore i j hi hj hactive hrestore := by
    have hacked : 3 ≤ (s.cpu i).acked := by
      have hj4 := (h.sound j hj).restored hrestore
      have hnear := (h.near j hj).1
      have hnear' := (h.near i hi).2
      omega
    refine ((rounds_le _ hacked).trans (h.sound i hi).rounds_le).subset ?_
    rw [hactive]
    decide

/-! ### Everybody gets to the end -/

/-- A bound on the steps a CPU has left, waiting apart. -/
def Participant.rank (p : Participant) : Nat :=
  (4 - p.curstate.toNat) * 8 +
    match p.pc with
    | .act => 7
    | .inFn => 6
    | .ack => 5
    | .setAck => 4
    | .start | .setState _ => 3
    | .head => 2
    | .read | .exit => 1
    | .returned => 0

/-- The next step of the CPU is not to wait. -/
def Ready (s : State n) (i : Fin n) : Prop :=
  (s.cpu i).pc ≠ .returned ∧ ((s.cpu i).pc = .head → s.state ≠ (s.cpu i).curstate)

lemma step_other (s : State n) (hj : j ≠ i) : (s.step cfg i).cpu j = s.cpu j := by
  rw [step]
  rcases hp : s.cpu i with ⟨pc, curstate, irq, flags, log⟩
  cases pc with
  | head =>
    dsimp only
    split
    · exact update_of_ne hj _ _
    · rfl
  | returned => rfl
  | start | read | act | inFn | ack | setAck | setState | exit => exact update_of_ne hj _ _

lemma Participant.loop_rank (p : Participant) : p.loop.rank ≤ (4 - p.curstate.toNat) * 8 + 2 := by
  by_cases hexit : p.curstate = .exit <;> simp [loop, rank, hexit]

lemma Participant.act_rank (isActive : Bool) (hpc : p.pc = .act) :
    (p.act isActive).rank < p.rank := by
  obtain ⟨pc, curstate, irq, flags, log⟩ := p
  obtain rfl : pc = .act := hpc
  cases curstate with
  | run => cases isActive <;> simp [act, record, rank]
  | none | prepare | disableIrq | exit | beyond => simp [act, record, rank]

section

variable (h : Inv cfg s) (hi : cfg.online i = true)
include h hi

lemma Inv.rank_step (hready : Ready s i) : ((s.step cfg i).cpu i).rank < (s.cpu i).rank := by
  obtain ⟨hreturned, hhead⟩ := hready
  rw [State.step]
  rcases hp : s.cpu i with ⟨pc, curstate, irq, flags, log⟩
  rw [hp] at hreturned hhead
  cases pc with
  | start | setAck => simp [State.setCpu, Participant.rank]
  | head =>
    dsimp only
    rw [if_pos (hhead rfl)]
    simp [State.setCpu, Participant.rank]
  | read =>
    obtain ⟨-, hle, hne⟩ : _ ∧ curstate.toNat ≤ 3 ∧ curstate ≠ s.state := h.soundAt hi hp
    have hnear : curstate.toNat ≤ s.state.toNat := by
      have hnear := (h.near i hi).1
      rwa [hp] at hnear
    have hne : curstate.toNat ≠ s.state.toNat := fun heq => hne (MachineState.toNat_inj heq)
    simp only [State.setCpu, update_self, Participant.rank]
    omega
  | act =>
    simp only [State.setCpu, update_self]
    exact Participant.act_rank _ rfl
  | inFn | exit => simp [State.setCpu, Participant.rank, Participant.record]
  | ack =>
    simp only [State.setCpu, update_self]
    split
    · simp [Participant.rank, Participant.record]
    · refine Nat.lt_of_le_of_lt (Participant.loop_rank _) ?_
      simp [Participant.rank, Participant.record]
  | setState newstate =>
    simp only [State.setCpu, update_self]
    refine Nat.lt_of_le_of_lt (Participant.loop_rank _) ?_
    simp [Participant.rank]
  | returned => exact absurd rfl hreturned

lemma Inv.rank_le (j : Fin n) : ((s.step cfg i).cpu j).rank ≤ (s.cpu j).rank := by
  by_cases hj : j = i
  · subst hj
    by_cases hready : Ready s j
    · exact Nat.le_of_lt (h.rank_step hi hready)
    · have hwait : s.step cfg j = s := by
        rw [Ready, not_and_or, not_not, Classical.not_imp, not_not] at hready
        rw [State.step]
        rcases hready with hreturned | ⟨hhead, heq⟩
        · rw [hreturned]
        · simp [hhead, heq]
      rw [hwait]
  · rw [step_other s hj]

/-- Whoever has something to do still has it after a step of another. -/
lemma Inv.ready_step (hj : cfg.online j = true)
    (hji : j ≠ i) (hready : Ready s j) : Ready (s.step cfg i) j := by
  rw [Ready, step_other s hji]
  refine ⟨hready.1, fun hhead => ?_⟩
  have hstate : (s.step cfg i).state = s.state := by
    rw [State.step]
    rcases hp : s.cpu i with ⟨pc, curstate, irq, flags, log⟩
    cases pc with
    | setState newstate =>
      -- then the other CPU has acknowledged the state and waits
      have hset : (s.cpu i).isSetter = true := by
        rw [hp]
        rfl
      have hacked := ((h.setter i hi hset).1 j hj).1
      rw [Participant.acked, hhead] at hacked
      exact absurd (MachineState.toNat_inj hacked).symm (hready.2 hhead)
    | head =>
      dsimp only
      split <;> rfl
    | start | read | act | inFn | ack | setAck | exit | returned => rfl
  rw [hstate]
  exact hready.2 hhead

end

/-- Somebody has something to do until all have returned. -/
lemma Inv.exists_ready (h : Inv cfg s) (hj : cfg.online j = true) (hpc : (s.cpu j).pc ≠ .returned) :
    ∃ i, cfg.online i = true ∧ Ready s i := by
  by_contra hnone
  rw [not_exists] at hnone
  have hwait : ∀ i, cfg.online i = true →
      (s.cpu i).pc = .returned ∨ (s.cpu i).pc = .head ∧ s.state = (s.cpu i).curstate := by
    intro i hi
    have hready := hnone i
    rw [not_and, Ready, not_and_or, not_not, Classical.not_imp, not_not] at hready
    exact hready hi
  have hsetter : ∀ i, cfg.online i = true → (s.cpu i).isSetter = false := by
    intro i hi
    rcases hwait i hi with hreturned | ⟨hhead, -⟩
    · rw [Participant.isSetter, hreturned]
    · rw [Participant.isSetter, hhead]
  obtain ⟨hcount, hpos⟩ := h.count hsetter
  have hthreads : cfg.numThreads ≠ 0 := card_ne_zero_of_mem (mem_filter.mpr ⟨mem_univ j, hj⟩)
  have hcard : #{i | cfg.online i = true ∧ (s.cpu i).acked + 1 = s.state.toNat} ≠ 0 := by
    intro hzero
    exact hpos hthreads (by rw [hcount, hzero]; rfl)
  obtain ⟨i, hi⟩ := card_ne_zero.mp hcard
  obtain ⟨hi, hacked⟩ := (mem_filter.mp hi).2
  rcases hwait i hi with hreturned | ⟨hhead, heq⟩
  · -- a CPU that has returned has acknowledged the last state, so nobody waits for another
    have hfour : (s.cpu i).acked = 4 := by
      have hsound := h.sound i hi
      rw [Participant.Sound, hreturned] at hsound
      rw [Participant.acked, hreturned, hsound.1]
      rfl
    rcases hwait j hj with hreturned' | ⟨hhead, heq⟩
    · exact hpc hreturned'
    · have hsound := h.sound j hj
      rw [Participant.Sound, hhead] at hsound
      have hle := hsound.2
      rw [← heq] at hle
      omega
  · rw [Participant.acked, hhead, heq] at hacked
    exact absurd hacked (Nat.succ_ne_self _)

/-- The steps all CPUs have left. -/
def State.rank (cfg : Config n) (s : State n) : Nat := ∑ i with cfg.online i = true, (s.cpu i).rank

lemma Inv.run (h : Inv cfg s) {ops : List (Fin n)} (hops : ∀ i ∈ ops, cfg.online i = true) :
    Inv cfg (ops.foldl (State.step cfg) s) ∧ State.rank cfg (ops.foldl (State.step cfg) s) ≤ State.rank cfg s := by
  induction ops generalizing s with
  | nil => exact ⟨h, Nat.le_refl _⟩
  | cons i rest ih =>
    have hi := hops i List.mem_cons_self
    obtain ⟨hinv, hle⟩ := ih (h.step hi) fun j hj => hops j (List.mem_cons_of_mem i hj)
    exact ⟨hinv, Nat.le_trans hle (sum_le_sum fun j _ => h.rank_le hi j)⟩

/-- A round in which everybody makes a step brings them nearer to the end. -/
lemma Inv.round (h : Inv cfg s) {ops : List (Fin n)} (hops : ∀ i ∈ ops, cfg.online i = true)
    (hi : i ∈ ops) (hready : Ready s i) : State.rank cfg (ops.foldl (State.step cfg) s) < State.rank cfg s := by
  induction ops generalizing s with
  | nil => exact nomatch hi
  | cons j rest ih =>
    have hj := hops j List.mem_cons_self
    have hrest : ∀ k ∈ rest, cfg.online k = true := fun k hk => hops k (List.mem_cons_of_mem j hk)
    by_cases hij : i = j
    · subst hij
      refine Nat.lt_of_le_of_lt ((h.step hj).run hrest).2 ?_
      refine sum_lt_sum (fun k _ => h.rank_le hj k) ⟨i, ?_, h.rank_step hj hready⟩
      exact mem_filter.mpr ⟨mem_univ i, hj⟩
    · have hmem := (List.mem_cons.mp hi).resolve_left hij
      refine Nat.lt_of_lt_of_le (ih (h.step hj) hrest hmem (h.ready_step hj (hops i hi) hij hready)) ?_
      exact sum_le_sum fun k _ => h.rank_le hj k

lemma Inv.returned (h : Inv cfg s) (hrank : rank cfg s = 0) (hi : cfg.online i = true) :
    (s.cpu i).log = life (cfg.isActive i) := by
  have hzero : (s.cpu i).rank = 0 :=
    sum_eq_zero_iff.mp hrank i (mem_filter.mpr ⟨mem_univ i, hi⟩)
  rcases hp : s.cpu i with ⟨pc, curstate, irq, flags, log⟩
  rw [hp] at hzero
  cases pc with
  | returned => exact (h.soundAt hi hp).2
  | start | head | read | act | inFn | ack | setAck | setState | exit => exact nomatch hzero

lemma Inv.turns (h : Inv cfg s) {turns : List (List (Fin n))} (hops : ∀ i ∈ turns.flatten, cfg.online i = true)
    (hall : ∀ turn ∈ turns, ∀ i, cfg.online i = true → i ∈ turn) (henough : State.rank cfg s ≤ turns.length) :
    State.rank cfg (turns.flatten.foldl (State.step cfg) s) = 0 := by
  induction turns generalizing s with
  | nil => exact Nat.le_zero.mp henough
  | cons turn rest ih =>
    rw [List.flatten_cons] at hops ⊢
    have hturn : ∀ i ∈ turn, cfg.online i = true := fun i hi => hops i (List.mem_append_left _ hi)
    have hrest : ∀ i ∈ rest.flatten, cfg.online i = true := fun i hi => hops i (List.mem_append_right _ hi)
    rw [List.foldl_append]
    refine ih (h.run hturn).1 hrest (fun t ht => hall t (List.mem_cons_of_mem turn ht)) ?_
    by_cases hdone : ∃ j, cfg.online j = true ∧ (s.cpu j).pc ≠ .returned
    · obtain ⟨j, hj, hpc⟩ := hdone
      obtain ⟨i, hi, hready⟩ := h.exists_ready hj hpc
      have hlt := h.round hturn (hall turn List.mem_cons_self i hi) hready
      rw [List.length_cons] at henough
      omega
    · have hzero : State.rank cfg s = 0 := by
        refine sum_eq_zero fun i hi => ?_
        have hi := (mem_filter.mp hi).2
        have hpc : (s.cpu i).pc = .returned := by
          by_contra hne
          exact hdone ⟨i, hi, hne⟩
        have hsound := h.sound i hi
        rw [Participant.Sound, hpc] at hsound
        rw [Participant.rank, hpc, hsound.1]
        rfl
      have hle := (h.run hturn).2
      omega

lemma rank_boot (cfg : Config n) (irq : Fin n → Bool) : rank cfg (boot cfg irq) = 35 * cfg.numThreads := by
  refine (sum_const_nat fun i _ => ?_).trans (Nat.mul_comm _ _)
  rfl

/-- In every run nobody calls the function before all have disabled interrupts, and nobody restores
them before all active CPUs have finished it; each CPU acts on each state once and acknowledges it
once, and only active CPUs call the function, once. When all have had enough turns, all of this has
happened. -/
theorem stopped (cfg : Config n) (irq : Fin n → Bool) (ops : List (Fin n)) (hops : ∀ i ∈ ops, cfg.online i = true) :
    Run.Always (step cfg) (Safe cfg) (boot cfg irq) ops ∧ ∀ turns : List (List (Fin n)), ops = turns.flatten →
    (∀ turn ∈ turns, ∀ i, cfg.online i = true → i ∈ turn) → 35 * cfg.numThreads ≤ turns.length → ∀ i,
    cfg.online i = true → ((ops.foldl (step cfg) (boot cfg irq)).cpu i).log = life (cfg.isActive i) := by
  have hinv : Run.Always (step cfg) (Inv cfg) (boot cfg irq) ops :=
    Run.always_of_each (fun _ _ hs hi => hs.step hi) (inv_boot cfg irq) (Run.each_of_mem hops)
  refine ⟨hinv.mono fun _ hs => hs.safe, ?_⟩
  rintro turns rfl hall henough i hi
  refine hinv.last.returned ?_ hi
  refine (inv_boot cfg irq).turns hops hall ?_
  rwa [rank_boot]

/-- Two of three CPUs are online, and the first of them is active. -/
def twoOnline : Config 3 := ⟨fun i => i ≠ 1, none⟩

theorem stopped_two_online :
    (((List.replicate 70 [0, 2]).flatten.foldl (State.step twoOnline) (boot twoOnline fun _ => true)).cpu 0).log =
      [.act .prepare, .ack .prepare, .act .disableIrq, .ack .disableIrq, .act .run, .call, .finish, .ack .run,
        .act .exit, .ack .exit, .restore] :=
  (stopped twoOnline (fun _ => true) (List.replicate 70 [0, 2]).flatten (by decide)).2 (List.replicate 70 [0, 2]) rfl
    (by decide) (by decide) 0 rfl

end BigLittle.StopMachine
