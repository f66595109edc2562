import Mathlib.Data.List.Count
import BigLittle.Switcher.Thread

/-!
# What becomes of a request

A completer is in the `bL_thread`, has been taken by the thread, or has been called. It gets from
one to the next as long as the thread does not end before it has taken it, so the requests that
are lost are those that come too late for the thread that is to serve them. The thread calls what
it has taken, so a detach call is of use only before that.
-/

namespace BigLittle.SwitchRequest

open List
open Function (update update_of_ne update_self)

/-! ### The account of a request -/

/-- After it no completer is to be called. -/
def Mark.closes : Mark → Bool
  | .detached | .disabled => true
  | _ => false

/-- The completer is called at most once, and not after it has been detached or the switcher has been
disabled. -/
structure Tidy (l : List Mark) : Prop where
  once : l.count .invoked ≤ 1
  inTime : l.Pairwise fun a b => a.closes = true → b ≠ .invoked

/-- The completer is still to be called. -/
structure Open (l : List Mark) : Prop where
  accepted : .accepted ∈ l
  notInvoked : .invoked ∉ l
  notClosed : ∀ m ∈ l, m.closes = false

lemma tidy_nil : Tidy [] := ⟨Nat.zero_le 1, .nil⟩

lemma Tidy.append {l : List Mark} (h : Tidy l) {m : Mark} (hm : m ≠ .invoked) : Tidy (l ++ [m]) where
  once := by
    rw [count_append, count_singleton, if_neg (by rwa [beq_iff_eq]), Nat.add_zero]
    exact h.once
  inTime := by
    refine pairwise_append.mpr ⟨h.inTime, pairwise_singleton _ _, fun a _ b hb _ => ?_⟩
    rwa [mem_singleton.mp hb]

lemma Tidy.invoke {l : List Mark} (h : Tidy l) (hopen : Open l) : Tidy (l ++ [.invoked]) where
  once := by
    rw [count_append, count_eq_zero_of_not_mem hopen.notInvoked]
    decide
  inTime := by
    refine pairwise_append.mpr ⟨h.inTime, pairwise_singleton _ _, fun a ha b _ hclose => ?_⟩
    exact nomatch hclose.symm.trans (hopen.notClosed a ha)

/-- Called at least once is called once. -/
lemma Tidy.count_eq {l : List Mark} (h : Tidy l) (hmem : .invoked ∈ l) : l.count .invoked = 1 :=
  Nat.le_antisymm h.once (count_pos_iff.mpr hmem)

/-! ### Who has the completer -/

/-- What the thread has taken and not yet called. -/
def Thread.held : Thread → Option (Nat × Nat)
  | .switching (some completer) cookie => some (completer, cookie)
  | .calling completer cookie => some (completer, cookie)
  | _ => none

def Thread.completer (thread : Thread) : Option Nat := thread.held.map Prod.fst

namespace State

variable (s : State)

/-- What is there for the thread to take. -/
def pending : Option (Nat × Nat) := s.completer.map fun completer => (completer, s.cookie)

/-- The completer of a request is with the thread, or about to be. -/
def Owes (completer r : Nat) : Prop := s.pending = some (completer, r) ∨ s.thread.held = some (completer, r)

end State

/-- The records of all requests agree with what there is. -/
structure Ledger (prog : Program) (s : State) : Prop where
  owed : ∀ c r, s.Owes c r → prog.completer r = some c ∧ Open (s.history r)
  apart : ∀ p q, s.pending = some p → s.thread.held = some q → p.2 ≠ q.2
  inside : ∀ r, s.thread = .inside r → .invoked ∈ s.history r
  ended : ∀ r, s.history r ≠ [] → ∃ ret, s.request r = .returned ret
  tidy : ∀ r, Tidy (s.history r)
  served : ∀ c r, prog.completer r = some c → .accepted ∈ s.history r →
    .detached ∈ s.history r ∨ .invoked ∈ s.history r ∨ s.Owes c r

namespace Ledger

variable {prog : Program} {s t : State} (h : Ledger prog s)
include h

/-- Nothing happens to the requests. -/
lemma move (hrequest : t.request = s.request) (hhistory : t.history = s.history)
    (howes : ∀ c r, t.Owes c r ↔ s.Owes c r) (hapart : ∀ p q, t.pending = some p → t.thread.held = some q → p.2 ≠ q.2)
    (hinside : ∀ r, t.thread = .inside r → s.thread = .inside r) : Ledger prog t where
  owed c r hr := by
    rw [hhistory]
    exact h.owed c r ((howes c r).mp hr)
  apart := hapart
  inside r hr := by
    rw [hhistory]
    exact h.inside r (hinside r hr)
  ended r := by
    rw [hhistory, hrequest]
    exact h.ended r
  tidy r := by
    rw [hhistory]
    exact h.tidy r
  served c r hc := by
    rw [hhistory, howes]
    exact h.served c r hc

/-- A call gets on that has not been accepted. -/
lemma setRequest {r : Nat} (hr : ∀ ret, s.request r ≠ .returned ret) (caller : Caller) :
    Ledger prog (s.setRequest r caller) where
  owed := h.owed
  apart := h.apart
  inside := h.inside
  ended k hk := by
    obtain ⟨ret, hret⟩ := h.ended k hk
    have hne : k ≠ r := fun heq => hr ret (heq ▸ hret)
    exact ⟨ret, (update_of_ne hne _ _).trans hret⟩
  tidy := h.tidy
  served := h.served

lemma history_eq_nil {r : Nat} (hr : ∀ ret, s.request r ≠ .returned ret) : s.history r = [] := by
  by_contra hne
  obtain ⟨ret, hret⟩ := h.ended r hne
  exact hr ret hret

lemma store {r : Nat} (hr : s.request r = .ready) : Ledger prog (s.store prog r) := by
  have hreturned : ∀ ret, s.request r ≠ .returned ret := fun ret heq => nomatch hr.symm.trans heq
  rw [State.store]
  split
  next => exact h.setRequest hreturned _
  next hnone =>
    rw [Option.not_isSome_iff_eq_none] at hnone
    have hnil := h.history_eq_nil hreturned
    have hpending : ∀ p, s.pending ≠ some p := fun p => by
      rw [State.pending, hnone]
      exact nofun
    -- the records of all others are as they were
    have hother : ∀ k, k ≠ r → update s.history r (s.history r ++ [.accepted]) k = s.history k :=
      fun k hk => update_of_ne hk _ _
    have hself : update s.history r (s.history r ++ [.accepted]) r = [.accepted] := by
      rw [update_self, hnil, nil_append]
    have hheld : ∀ q, s.thread.held = some q → q.2 ≠ r := fun q hq heq => by
      have hopen := (h.owed q.1 q.2 (.inr hq)).2.accepted
      rw [heq, hnil] at hopen
      exact nomatch hopen
    have hnew : ∀ p, (prog.completer r).map (fun completer => (completer, r)) = some p →
        prog.completer r = some p.1 ∧ p.2 = r := by
      intro p hp
      obtain ⟨c, hc, rfl⟩ := Option.map_eq_some_iff.mp hp
      exact ⟨hc, rfl⟩
    constructor
    case owed =>
      rintro c k (hk | hk)
      · obtain ⟨hc, hkr⟩ := hnew (c, k) hk
        obtain rfl : k = r := hkr
        refine ⟨hc, ?_⟩
        change Open (update s.history k (s.history k ++ [.accepted]) k)
        rw [hself]
        exact ⟨mem_singleton_self _, by decide, by decide⟩
      · change prog.completer k = some c ∧ Open (update s.history r (s.history r ++ [.accepted]) k)
        rw [hother k (hheld (c, k) hk)]
        exact h.owed c k (.inr hk)
    case apart =>
      intro p q hp hq heq
      exact hheld q hq (heq ▸ (hnew p hp).2)
    case inside =>
      intro k hk
      change Mark.invoked ∈ update s.history r (s.history r ++ [.accepted]) k
      have hmem := h.inside k hk
      rw [hother k]
      · exact hmem
      · rintro rfl
        rw [hnil] at hmem
        exact nomatch hmem
    case ended =>
      intro k hk
      by_cases hkr : k = r
      · rw [hkr]
        exact ⟨0, update_self _ _ _⟩
      · obtain ⟨ret, hret⟩ := h.ended k (by rw [← hother k hkr]; exact hk)
        exact ⟨ret, (update_of_ne hkr _ _).trans hret⟩
    case tidy =>
      intro k
      change Tidy (update s.history r (s.history r ++ [.accepted]) k)
      by_cases hkr : k = r
      · rw [hkr, update_self]
        exact (h.tidy r).append (by decide)
      · rw [hother k hkr]
        exact h.tidy k
    case served =>
      intro c k hc
      change Mark.accepted ∈ update s.history r (s.history r ++ [.accepted]) k →
        Mark.detached ∈ update s.history r (s.history r ++ [.accepted]) k ∨
          Mark.invoked ∈ update s.history r (s.history r ++ [.accepted]) k ∨ _
      by_cases hkr : k = r
      · subst hkr
        refine fun _ => .inr (.inr (.inl ?_))
        change (prog.completer k).map (fun completer => (completer, k)) = some (c, k)
        rw [hc]
        rfl
      · rw [hother k hkr]
        intro hk
        refine (h.served c k hc hk).imp id fun hrest => hrest.imp id fun howes => .inr ?_
        exact howes.resolve_left (hpending _)

/-- Some requests with a record get a mark. -/
lemma extend (K : Nat → Prop) {m : Mark} (hrequest : t.request = s.request)
    (hin : ∀ r, K r → t.history r = s.history r ++ [m]) (hout : ∀ r, ¬K r → t.history r = s.history r)
    (hne : ∀ r, K r → s.history r ≠ []) (haccepted : ∀ r, K r → m = .accepted → .accepted ∈ s.history r)
    (htidy : ∀ r, K r → Tidy (s.history r ++ [m])) (hkept : ∀ c r, t.Owes c r → s.Owes c r ∧ ¬K r)
    (hlost : ∀ c r, s.Owes c r → t.Owes c r ∨ K r ∧ (m = .detached ∨ m = .invoked))
    (hapart : ∀ p q, t.pending = some p → t.thread.held = some q → p.2 ≠ q.2)
    (hinside : ∀ r, t.thread = .inside r → s.thread = .inside r ∨ K r ∧ m = .invoked) : Ledger prog t := by
  have hnew : ∀ r, K r → m ∈ t.history r := by
    intro r hr
    rw [hin r hr]
    exact mem_append_right _ (mem_singleton_self m)
  have hmono : ∀ r, ∀ m' ∈ s.history r, m' ∈ t.history r := by
    intro r m' hmem
    by_cases hr : K r
    · rw [hin r hr]
      exact mem_append_left _ hmem
    · rwa [hout r hr]
  constructor
  case owed =>
    intro c r hr
    obtain ⟨hs, hnot⟩ := hkept c r hr
    rw [hout r hnot]
    exact h.owed c r hs
  case apart => exact hapart
  case inside =>
    intro r hr
    rcases hinside r hr with hs | ⟨hK, rfl⟩
    · exact hmono r _ (h.inside r hs)
    · exact hnew r hK
  case ended =>
    intro r hr
    rw [hrequest]
    by_cases hK : K r
    · exact h.ended r (hne r hK)
    · rw [hout r hK] at hr
      exact h.ended r hr
  case tidy =>
    intro r
    by_cases hK : K r
    · rw [hin r hK]
      exact htidy r hK
    · rw [hout r hK]
      exact h.tidy r
  case served =>
    intro c r hc hr
    have hbefore : .accepted ∈ s.history r := by
      by_cases hK : K r
      · rw [hin r hK] at hr
        exact (mem_append.mp hr).elim id fun hmem => haccepted r hK (mem_singleton.mp hmem).symm
      · rwa [hout r hK] at hr
    rcases h.served c r hc hbefore with hdetached | hinvoked | howes
    · exact .inl (hmono r _ hdetached)
    · exact .inr (.inl (hmono r _ hinvoked))
    · rcases hlost c r howes with ht | ⟨hK, rfl | rfl⟩
      · exact .inr (.inr ht)
      · exact .inl (hnew r hK)
      · exact .inr (.inl (hnew r hK))

/-- Accepted requests of a kind get a mark other than that they are called. -/
lemma markAll {kind : Nat → Bool} {m : Mark} (hm : m ≠ .invoked) (hrequest : t.request = s.request)
    (hhistory : t.history = s.history) (hkept : ∀ c r, t.Owes c r → s.Owes c r ∧ kind r = false)
    (hlost : ∀ c r, s.Owes c r → t.Owes c r ∨ kind r = true ∧ m = .detached)
    (hapart : ∀ p q, t.pending = some p → t.thread.held = some q → p.2 ≠ q.2) (hthread : t.thread = s.thread) :
    Ledger prog (t.markAll kind m) := by
  have hmarks : ∀ r, (t.markAll kind m).history r =
      if kind r ∧ .accepted ∈ s.history r then s.history r ++ [m] else s.history r := by
    intro r
    rw [State.markAll, hhistory]
  refine h.extend (fun r => kind r = true ∧ .accepted ∈ s.history r) hrequest (fun r hr => (hmarks r).trans (if_pos hr))
    (fun r hr => (hmarks r).trans (if_neg hr)) (fun r hr => ne_nil_of_mem hr.2) (fun r hr _ => hr.2)
    (fun r _ => (h.tidy r).append hm) (fun c r hr => ?_) (fun c r hr => ?_) hapart fun r hr => .inl (hthread ▸ hr)
  · obtain ⟨hs, hkind⟩ := hkept c r hr
    exact ⟨hs, fun hand => Bool.eq_false_iff.mp hkind hand.1⟩
  · exact (hlost c r hr).imp id fun ⟨hkind, heq⟩ => ⟨⟨hkind, (h.owed c r hr).2.accepted⟩, .inl heq⟩

/-- The completer that the thread has taken is called, or returns. -/
lemma mark {r : Nat} {m : Mark} (hm : m ≠ .accepted) (hne : s.history r ≠ []) (hrequest : t.request = s.request)
    (hhistory : t.history = s.history) (hkept : ∀ c k, t.Owes c k → s.Owes c k ∧ k ≠ r)
    (hlost : ∀ c k, s.Owes c k → t.Owes c k ∨ k = r ∧ m = .invoked) (hheld : t.thread.held = none)
    (hinside : ∀ k, t.thread = .inside k → k = r ∧ m = .invoked) (htidy : Tidy (s.history r ++ [m])) :
    Ledger prog (t.mark r m) := by
  have hmarks : (t.mark r m).history = update s.history r (s.history r ++ [m]) := by
    rw [State.mark, hhistory]
  refine h.extend (fun k => k = r) hrequest ?_ (fun k hk => ?_) ?_ (fun k _ heq => absurd heq hm) ?_ hkept
    (fun c k hk => (hlost c k hk).imp id fun ⟨hkr, heq⟩ => ⟨hkr, .inr heq⟩) (fun p q _ hq => ?_)
    fun k hk => .inr (hinside k hk)
  · rintro k rfl
    rw [hmarks, update_self]
  · rw [hmarks, update_of_ne hk]
  · rintro k rfl
    exact hne
  · rintro k rfl
    exact htidy
  · exact nomatch hheld.symm.trans hq

end Ledger

/-! ### The thread and its manager -/

/-- There may be a thread. -/
def Manager.hasThread : Manager → Bool
  | .off | .preparing | .restoring => false
  | _ => true

/-- Requests that have been accepted may be open. -/
def Manager.serves : Manager → Bool
  | .on | .cleared | .stopping => true
  | _ => false

/-- A completer that is to be taken has a thread to take it. -/
structure Running (s : State) : Prop where
  alive : s.task = .thread → s.manager = .on ∧ s.thread ≠ .gone ∧ s.shouldStop = false
  made : s.manager = .created → s.thread ≠ .gone ∧ s.shouldStop = false
  rest : s.manager.hasThread = false → s.thread = .gone
  failed : s.manager = .on → s.task ≠ .thread → s.thread = .gone
  stored : s.completer ≠ none → s.manager.serves = true ∧ s.wanted ≠ -1 ∧ s.thread ≠ .gone ∧
    (s.shouldStop = false ∨ s.thread = .waiting ∨ s.thread = .taking)

/-- The next step of a detach call is its last one. -/
def State.endsDetach (s : State) (d : Nat) : Bool :=
  match s.detach d, s.task with
  | .ready, _ | .noError, .null | .idle, .err _ => true
  | _, _ => false

/-- A request with a completer is for a cluster and comes while the thread is there; a detach call
comes before the thread has taken the completer; and the thread is told to stop only when it is
still to take the completer that is there. -/
def Regular (prog : Program) (s : State) : Op → Prop
  | .request r => s.request r = .ready → s.completer = none → prog.completer r ≠ none →
      s.task = .thread ∧ (prog.cluster r).toInt ≠ -1
  | .detach d => s.endsDetach d = true →
      s.thread.completer ≠ some (prog.detached d) ∧ (s.detach d ≠ .ready → s.completer ≠ some (prog.detached d))
  | .manage _ => s.manager = .cleared → s.completer ≠ none → s.thread = .waiting ∨ s.thread = .taking
  | .thread | .interrupt => True

instance decidableRegular (prog : Program) (s : State) (op) : Decidable (Regular prog s op) := by
  cases op <;> dsimp only [Regular] <;> infer_instance

namespace Running

variable {prog : Program} {s : State}

section

variable (h : Running s)
include h

lemma completer_eq_none (hgone : s.thread = .gone) : s.completer = none := by
  by_contra hne
  exact (h.stored hne).2.2.1 hgone

lemma not_owes_of_gone (hgone : s.thread = .gone) (c r : Nat) : ¬s.Owes c r := by
  rintro (hpending | hheld)
  · rw [State.pending, h.completer_eq_none hgone] at hpending
    exact nomatch hpending
  · rw [hgone] at hheld
    exact nomatch hheld

lemma stepRequest {r : Nat} (hregular : Regular prog s (.request r)) : Running (s.stepRequest prog r) := by
  have hset : ∀ caller, Running (s.setRequest r caller) := fun _ => ⟨h.alive, h.made, h.rest, h.failed, h.stored⟩
  rw [State.stepRequest]
  cases hr : s.request r with
  | idle | noError =>
    dsimp only
    split <;> exact hset _
  | returned ret => exact h
  | ready =>
    dsimp only
    rw [State.store]
    split
    next => exact hset _
    next hnone =>
      refine ⟨h.alive, h.made, h.rest, h.failed, fun hcompleter => ?_⟩
      obtain ⟨htask, hcluster⟩ := hregular hr (Option.not_isSome_iff_eq_none.mp hnone) hcompleter
      obtain ⟨hon, hthread, hstop⟩ := h.alive htask
      refine ⟨?_, hcluster, hthread, .inl hstop⟩
      change s.manager.serves = true
      rw [hon]
      rfl

lemma stepDetach (d : Nat) : Running (s.stepDetach prog d) := by
  have hend : Running (s.endDetach prog d) := ⟨h.alive, h.made, h.rest, h.failed, h.stored⟩
  have hset : ∀ caller, Running (s.setDetach d caller) := fun _ => ⟨h.alive, h.made, h.rest, h.failed, h.stored⟩
  rw [State.stepDetach]
  cases s.detach d with
  | idle | noError =>
    dsimp only
    split
    · exact hend
    · exact hset _
  | returned ret => exact h
  | ready =>
    dsimp only
    split
    · exact ⟨h.alive, h.made, h.rest, h.failed, fun hne => absurd rfl hne⟩
    · exact hend

/-- The thread goes on to a place before the next take. -/
lemma setThread (thread : Thread) (started : Bool) (hne : s.thread ≠ .gone) (hto : thread ≠ .gone)
    (hstay : s.completer ≠ none → s.shouldStop = false ∨ thread = .waiting ∨ thread = .taking) :
    Running { s with thread := thread, started := started } where
  alive htask := ⟨(h.alive htask).1, hto, (h.alive htask).2.2⟩
  made hmade := ⟨hto, (h.made hmade).2⟩
  rest hmanager := absurd (h.rest hmanager) hne
  failed hon htask := absurd (h.failed hon htask) hne
  stored hcompleter := ⟨(h.stored hcompleter).1, (h.stored hcompleter).2.1, hto, hstay hcompleter⟩

/-- The thread ends when it has been told to and there is nothing to take. -/
lemma exit (hstop : s.shouldStop = true) (hwaiting : s.thread ≠ .waiting) (htaking : s.thread ≠ .taking) :
    Running { s with thread := .gone } where
  alive htask := nomatch hstop.symm.trans (h.alive htask).2.2
  made hmade := nomatch hstop.symm.trans (h.made hmade).2
  rest _ := rfl
  failed _ _ := rfl
  stored hcompleter := by
    rcases (h.stored hcompleter).2.2.2 with hno | heq | heq
    · exact nomatch hstop.symm.trans hno
    · exact absurd heq hwaiting
    · exact absurd heq htaking

lemma stepThread : Running s.stepThread := by
  -- outside the wait the thread gets on with a completer there only if it is not to stop
  have hstay : s.thread ≠ .waiting → s.thread ≠ .taking → ∀ thread : Thread, s.completer ≠ none →
      s.shouldStop = false ∨ thread = .waiting ∨ thread = .taking := by
    intro hwaiting htaking thread hcompleter
    exact .inl ((h.stored hcompleter).2.2.2.resolve_right fun hor => hor.elim hwaiting htaking)
  rw [State.stepThread]
  cases hthread : s.thread with rw [hthread] at hstay
  | gone => exact h
  | created =>
    dsimp only
    split
    next hstop => exact h.exit hstop (by rw [hthread]; exact nofun) (by rw [hthread]; exact nofun)
    next => exact h.setThread _ _ (by rw [hthread]; exact nofun) nofun fun _ => .inr (.inl rfl)
  | waiting =>
    dsimp only
    split
    next => exact h.setThread _ _ (by rw [hthread]; exact nofun) nofun fun _ => .inr (.inr rfl)
    next => exact h
  | taking =>
    have hne : s.thread ≠ .gone := by rw [hthread]; exact nofun
    dsimp only [State.take]
    have hto : (if s.wanted ≠ -1 then Thread.switching s.completer s.cookie else .checking) ≠ .gone := by
      split <;> exact nofun
    exact ⟨fun htask => ⟨(h.alive htask).1, hto, (h.alive htask).2.2⟩, fun hmade => ⟨hto, (h.made hmade).2⟩,
      fun hmanager => absurd (h.rest hmanager) hne, fun hon htask => absurd (h.failed hon htask) hne,
      fun hcompleter => absurd rfl hcompleter⟩
  | switching completer cookie =>
    have hne : s.thread ≠ .gone := by rw [hthread]; exact nofun
    cases completer with
    | none | some completer => exact h.setThread _ _ hne nofun (hstay nofun nofun _)
  | calling completer cookie =>
    have hmove := h.setThread (.inside cookie) s.started (by rw [hthread]; exact nofun) nofun (hstay nofun nofun _)
    exact ⟨hmove.alive, hmove.made, hmove.rest, hmove.failed, hmove.stored⟩
  | inside cookie =>
    have hmove := h.setThread .checking s.started (by rw [hthread]; exact nofun) nofun (hstay nofun nofun _)
    exact ⟨hmove.alive, hmove.made, hmove.rest, hmove.failed, hmove.stored⟩
  | checking =>
    dsimp only
    split
    next hstop => exact h.exit hstop (by rw [hthread]; exact nofun) (by rw [hthread]; exact nofun)
    next => exact h.setThread _ _ (by rw [hthread]; exact nofun) nofun fun _ => .inr (.inl rfl)

lemma stepInterrupt : Running s.stepInterrupt := by
  rw [State.stepInterrupt]
  split
  next hwaiting => exact h.setThread _ _ (by rw [hwaiting]; exact nofun) nofun fun _ => .inr (.inr rfl)
  next => exact h

end

/-- Without a thread there is no completer, so the manager may do as it likes. -/
lemma of_gone {t : State} (hcompleter : t.completer = none) (htask : t.task ≠ .thread) (hgone : t.thread = .gone)
    (hmanager : t.manager ≠ .created) : Running t where
  alive heq := absurd heq htask
  made heq := absurd heq hmanager
  rest _ := hgone
  failed _ _ := hgone
  stored hne := absurd hcompleter hne

lemma stepManage (h : Running s) {answers : Answers} (hregular : Regular prog s (.manage answers)) :
    Running (s.stepManage answers) := by
  have htask : s.manager ≠ .on → s.task ≠ .thread := fun hne heq => hne (h.alive heq).1
  have hserves : s.manager.serves = false → s.completer = none := by
    intro hno
    by_contra hne
    exact nomatch hno.symm.trans (h.stored hne).1
  rw [State.stepManage]
  cases hmanager : s.manager with
  | off =>
    have hgone := h.rest (by rw [hmanager]; rfl)
    exact of_gone (h.completer_eq_none hgone) (htask (by rw [hmanager]; exact nofun)) hgone nofun
  | preparing =>
    have hgone := h.rest (by rw [hmanager]; rfl)
    have hnone := h.completer_eq_none hgone
    dsimp only
    split
    · exact ⟨fun heq => absurd heq (htask (by rw [hmanager]; exact nofun)), fun _ => ⟨nofun, rfl⟩, nofun, nofun,
        fun hne => absurd hnone hne⟩
    · exact of_gone hnone nofun hgone nofun
  | created =>
    obtain ⟨hthread, hstop⟩ := h.made hmanager
    exact ⟨fun _ => ⟨rfl, hthread, hstop⟩, nofun, nofun, fun _ hne => absurd rfl hne,
      fun hne => absurd (hserves (by rw [hmanager]; rfl)) hne⟩
  | on =>
    dsimp only
    split
    next => exact ⟨nofun, nofun, nofun, nofun, fun hne => ⟨rfl, (h.stored hne).2⟩⟩
    next hne =>
      have hgone := h.failed hmanager hne
      exact of_gone (h.completer_eq_none hgone) nofun hgone nofun
  | cleared =>
    refine ⟨fun heq => absurd heq (htask (by rw [hmanager]; exact nofun)), nofun, nofun, nofun, fun hne => ?_⟩
    exact ⟨rfl, (h.stored hne).2.1, (h.stored hne).2.2.1, .inr (hregular hmanager hne)⟩
  | stopping =>
    dsimp only
    split
    next => exact h
    next hgone =>
      rw [not_not] at hgone
      have hnone := h.completer_eq_none hgone
      have hnull := htask (by rw [hmanager]; exact nofun)
      split
      · exact of_gone hnone hnull hgone nofun
      · exact of_gone hnone hnull hgone nofun
  | restoring =>
    have hgone := h.rest (by rw [hmanager]; rfl)
    have hnone := h.completer_eq_none hgone
    have hnull := htask (by rw [hmanager]; exact nofun)
    dsimp only
    split
    · exact ⟨fun heq => absurd heq hnull, nofun, nofun, nofun, fun hne => absurd hnone hne⟩
    · exact of_gone hnone hnull hgone nofun
  | recreated =>
    have hnone := hserves (by rw [hmanager]; rfl)
    dsimp only
    split
    · exact ⟨fun heq => absurd heq (htask (by rw [hmanager]; exact nofun)), nofun, nofun, nofun,
        fun hne => absurd hnone hne⟩
    · exact h
  | restopping =>
    dsimp only
    split
    next => exact h
    next hgone =>
      rw [not_not] at hgone
      exact of_gone (h.completer_eq_none hgone) (htask (by rw [hmanager]; exact nofun)) hgone nofun

end Running

/-! ### What every step keeps -/

namespace Ledger

variable {prog : Program} {s t : State} (h : Ledger prog s)
include h

lemma stepRequest (r : Nat) : Ledger prog (s.stepRequest prog r) := by
  rw [State.stepRequest]
  cases hr : s.request r with
  | idle | noError =>
    have hset := h.setRequest (r := r) (by rw [hr]; exact nofun)
    dsimp only
    split <;> exact hset _
  | ready => exact h.store hr
  | returned ret => exact h

/-- No completer of the kind is with the thread any more. -/
lemma endDetach {d : Nat} (hrequest : t.request = s.request) (hhistory : t.history = s.history)
    (hthread : t.thread = s.thread) (hpending : ∀ p, t.pending = some p → s.pending = some p)
    (hkept : ∀ c r, t.Owes c r ↔ s.Owes c r ∧ c ≠ prog.detached d) : Ledger prog (t.endDetach prog d) := by
  have hkind : ∀ c r, s.Owes c r →
      (decide (prog.completer r = some (prog.detached d)) = true ↔ c = prog.detached d) := by
    intro c r howes
    rw [(h.owed c r howes).1, decide_eq_true_iff]
    exact Option.some_inj
  refine h.markAll (t := t.setDetach d (.returned 0)) nofun hrequest hhistory (fun c r howes => ?_)
    (fun c r howes => ?_) (fun p q hp hq => h.apart p q (hpending p hp) (hthread ▸ hq)) hthread
  · obtain ⟨hs, hne⟩ := (hkept c r).mp howes
    exact ⟨hs, Bool.eq_false_iff.mpr fun heq => hne ((hkind c r hs).mp heq)⟩
  · by_cases hc : c = prog.detached d
    · exact .inr ⟨(hkind c r howes).mpr hc, rfl⟩
    · exact .inl ((hkept c r).mpr ⟨howes, hc⟩)

lemma stepDetach {d : Nat} (hregular : Regular prog s (.detach d)) : Ledger prog (s.stepDetach prog d) := by
  have hset : ∀ caller, Ledger prog (s.setDetach d caller) := fun _ =>
    ⟨h.owed, h.apart, h.inside, h.ended, h.tidy, h.served⟩
  have hheld : s.endsDetach d = true → ∀ r, s.thread.held ≠ some (prog.detached d, r) := by
    intro hends r heq
    refine (hregular hends).1 ?_
    rw [Thread.completer, heq]
    rfl
  have hend : s.endsDetach d = true → s.completer ≠ some (prog.detached d) → Ledger prog (s.endDetach prog d) := by
    intro hends hcompleter
    refine h.endDetach rfl rfl rfl (fun _ hp => hp) fun c r => ⟨fun howes => ⟨howes, ?_⟩, And.left⟩
    rintro rfl
    rcases howes with hpending | heq
    · obtain ⟨c, hc, heq⟩ := Option.map_eq_some_iff.mp hpending
      obtain rfl := congrArg Prod.fst heq
      exact hcompleter hc
    · exact hheld hends r heq
  rw [State.stepDetach]
  cases hd : s.detach d with
  | idle | noError =>
    dsimp only
    split
    next htask =>
      have hends : s.endsDetach d = true := by rw [State.endsDetach, hd, htask]
      exact hend hends ((hregular hends).2 (by rw [hd]; exact nofun))
    next => exact hset _
  | returned ret => exact h
  | ready =>
    have hends : s.endsDetach d = true := by rw [State.endsDetach, hd]
    dsimp only
    split
    next hcompleter =>
      refine h.endDetach (t := { s with completer := none }) rfl rfl rfl nofun fun c r => ?_
      constructor
      · rintro (hpending | heq)
        · exact nomatch hpending
        · refine ⟨.inr heq, ?_⟩
          rintro rfl
          exact hheld hends r heq
      · rintro ⟨hpending | heq, hne⟩
        · rw [State.pending, hcompleter] at hpending
          exact absurd (congrArg Prod.fst (Option.some.inj hpending)).symm hne
        · exact .inr heq
    next hcompleter => exact hend hends hcompleter

/-- The thread has taken nothing, before and after. -/
lemma idle (hrequest : t.request = s.request) (hhistory : t.history = s.history) (hpending : t.pending = s.pending)
    (hs : s.thread.held = none) (ht : t.thread.held = none) (hinside : ∀ r, t.thread ≠ .inside r) : Ledger prog t := by
  refine h.move hrequest hhistory (fun c r => ?_) (fun p q _ hq => nomatch ht.symm.trans hq)
    fun r hr => absurd hr (hinside r)
  rw [State.Owes, State.Owes, hpending, hs, ht]

lemma take (hrunning : Running s) (hthread : s.thread = .taking) : Ledger prog s.take := by
  have hs : s.thread.held = none := by
    rw [hthread]
    rfl
  have ht : s.take.thread.held = s.pending := by
    rw [State.take, State.pending]
    cases hcompleter : s.completer with
    | none =>
      dsimp only
      split <;> rfl
    | some completer =>
      dsimp only
      rw [if_pos (hrunning.stored (by rw [hcompleter]; exact nofun)).2.1]
      rfl
  refine h.move rfl rfl (fun c r => ?_) (fun p q hp _ => nomatch hp) fun r hr => ?_
  · rw [State.Owes, State.Owes, hs, ht]
    exact or_comm
  · dsimp only [State.take] at hr
    split at hr <;> exact nomatch hr

/-- The call of the completer that the thread has taken. -/
lemma invoke {c r : Nat} (hthread : s.thread = .calling c r) :
    Ledger prog (State.mark { s with thread := .inside r } r .invoked) := by
  have hheld : s.thread.held = some (c, r) := by
    rw [hthread]
    rfl
  have hopen := (h.owed c r (.inr hheld)).2
  refine h.mark nofun (ne_nil_of_mem hopen.accepted) rfl rfl ?_ ?_ rfl (fun k hk => ?_) ((h.tidy r).invoke hopen)
  · rintro c' k (hpending | hheld')
    · exact ⟨.inl hpending, h.apart (c', k) (c, r) hpending hheld⟩
    · exact nomatch hheld'
  · rintro c' k (hpending | hheld')
    · exact .inl (.inl hpending)
    · exact .inr ⟨congrArg Prod.snd (Option.some.inj (hheld'.symm.trans hheld)), rfl⟩
  · exact ⟨(Thread.inside.inj hk).symm, rfl⟩

lemma leave {r : Nat} (hthread : s.thread = .inside r) :
    Ledger prog (State.mark { s with thread := .checking } r .returned) := by
  have hinvoked := h.inside r hthread
  have hs : s.thread.held = none := by
    rw [hthread]
    rfl
  refine h.mark nofun (ne_nil_of_mem hinvoked) rfl rfl ?_ ?_ rfl nofun ((h.tidy r).append nofun)
  · rintro c k (hpending | hheld)
    · refine ⟨.inl hpending, ?_⟩
      rintro rfl
      exact (h.owed c k (.inl hpending)).2.notInvoked hinvoked
    · exact nomatch hheld
  · rintro c k (hpending | hheld)
    · exact .inl (.inl hpending)
    · exact nomatch hs.symm.trans hheld

lemma stepThread (hrunning : Running s) : Ledger prog s.stepThread := by
  rw [State.stepThread]
  cases hthread : s.thread with
  | gone => exact h
  | created | checking =>
    dsimp only
    split <;> exact h.idle rfl rfl rfl (by rw [hthread]; rfl) rfl nofun
  | waiting =>
    dsimp only
    split
    · exact h.idle rfl rfl rfl (by rw [hthread]; rfl) rfl nofun
    · exact h
  | taking => exact h.take hrunning hthread
  | switching completer cookie =>
    cases completer with
    | none => exact h.idle rfl rfl rfl (by rw [hthread]; rfl) rfl nofun
    | some completer =>
      have hheld : s.thread.held = some (completer, cookie) := by
        rw [hthread]
        rfl
      refine h.move rfl rfl (fun c r => ?_) (fun p q hp hq => h.apart p q hp (hheld.trans hq)) nofun
      rw [State.Owes, State.Owes, hheld]
      exact Iff.rfl
  | calling completer cookie => exact h.invoke hthread
  | inside cookie => exact h.leave hthread

lemma stepInterrupt : Ledger prog s.stepInterrupt := by
  rw [State.stepInterrupt]
  split
  next hwaiting => exact h.idle rfl rfl rfl (by rw [hwaiting]; rfl) rfl nofun
  next => exact h

/-- When the thread is gone, nothing is owed. -/
lemma finish (hrunning : Running s) (hgone : s.thread = .gone) (task : Task) :
    Ledger prog (State.finish { s with task := task }) := by
  have hfree := hrunning.not_owes_of_gone hgone
  exact h.markAll (t := { s with task := task, manager := .off }) nofun rfl rfl
    (fun c r howes => absurd howes (hfree c r)) (fun c r howes => absurd howes (hfree c r)) h.apart rfl

lemma stepManage (hrunning : Running s) (answers : Answers) : Ledger prog (s.stepManage answers) := by
  have hcreate : s.thread = .gone → ∀ manager, Ledger prog
      { s with thread := .created, shouldStop := false, manager := manager } :=
    fun hgone _ => h.idle rfl rfl rfl (by rw [hgone]; rfl) rfl nofun
  rw [State.stepManage]
  cases hmanager : s.manager with
  | off | created | cleared => exact ⟨h.owed, h.apart, h.inside, h.ended, h.tidy, h.served⟩
  | preparing =>
    dsimp only
    split
    · exact hcreate (hrunning.rest (by rw [hmanager]; rfl)) _
    · exact ⟨h.owed, h.apart, h.inside, h.ended, h.tidy, h.served⟩
  | on =>
    dsimp only
    split
    next => exact ⟨h.owed, h.apart, h.inside, h.ended, h.tidy, h.served⟩
    next htask => exact h.finish hrunning (hrunning.failed hmanager htask) .null
  | stopping =>
    dsimp only
    split
    next => exact h
    next hgone =>
      split
      · exact h.finish hrunning (not_not.mp hgone) s.task
      · exact ⟨h.owed, h.apart, h.inside, h.ended, h.tidy, h.served⟩
  | restoring =>
    have hgone := hrunning.rest (by rw [hmanager]; rfl)
    dsimp only
    split
    · exact hcreate hgone _
    · exact h.finish hrunning hgone s.task
  | recreated =>
    dsimp only
    split
    · exact ⟨h.owed, h.apart, h.inside, h.ended, h.tidy, h.served⟩
    · exact h
  | restopping =>
    dsimp only
    split
    next => exact h
    next hgone => exact h.finish hrunning (not_not.mp hgone) s.task

end Ledger

structure Inv (prog : Program) (s : State) : Prop extends Ledger prog s, Running s

lemma Inv.step {prog : Program} {s : State} (h : Inv prog s) {op : Op} (hregular : Regular prog s op) :
    Inv prog (step prog s op) := by
  cases op with
  | request r => exact ⟨h.toLedger.stepRequest r, h.toRunning.stepRequest hregular⟩
  | detach d => exact ⟨h.toLedger.stepDetach hregular, h.toRunning.stepDetach d⟩
  | thread => exact ⟨h.toLedger.stepThread h.toRunning, h.toRunning.stepThread⟩
  | interrupt => exact ⟨h.toLedger.stepInterrupt, h.toRunning.stepInterrupt⟩
  | manage answers => exact ⟨h.toLedger.stepManage h.toRunning answers, h.toRunning.stepManage hregular⟩

/-- No call has been accepted. -/
lemma ledger_of_fresh {prog : Program} {s : State} (hcompleter : s.completer = none) (hheld : s.thread.held = none)
    (hinside : ∀ r, s.thread ≠ .inside r) (hhistory : ∀ r, s.history r = []) : Ledger prog s where
  owed c r := by
    rintro (hpending | hheld')
    · rw [State.pending, hcompleter] at hpending
      exact nomatch hpending
    · exact nomatch hheld.symm.trans hheld'
  apart p q _ hq := nomatch hheld.symm.trans hq
  inside r hr := absurd hr (hinside r)
  ended r hr := absurd (hhistory r) hr
  tidy r := by
    rw [hhistory]
    exact tidy_nil
  served c r _ hr := by
    rw [hhistory] at hr
    exact nomatch hr

lemma inv_init (prog : Program) : Inv prog init :=
  ⟨ledger_of_fresh rfl rfl nofun fun _ => rfl, Running.of_gone rfl nofun rfl nofun⟩

lemma inv_enabled (prog : Program) : Inv prog enabled :=
  ⟨ledger_of_fresh rfl rfl nofun fun _ => rfl,
    ⟨fun _ => ⟨rfl, nofun, rfl⟩, nofun, nofun, fun _ hne => absurd rfl hne, fun hne => absurd rfl hne⟩⟩

end BigLittle.SwitchRequest
