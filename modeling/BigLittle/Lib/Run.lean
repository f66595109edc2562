import Mathlib.Algebra.GroupWithZero.Nat

/-!
# Runs of a transition system

A system is a function of the state and an action, and a run is a list of actions;
what the environment decides is part of the action. `Always` and `Each` speak
about every state and every step of a run.

Each rule reduces a statement about whole runs to one about a single step.
-/

namespace Run

variable {σ α : Type*} (f : σ → α → σ)

/-- `P` holds before the first action and after every action. -/
def Always (P : σ → Prop) : σ → List α → Prop
  | s, [] => P s
  | s, a :: rest => P s ∧ Always P (f s a) rest

/-- Every action satisfies `C` in the state in which it is taken. -/
def Each (C : σ → α → Prop) : σ → List α → Prop
  | _, [] => True
  | s, a :: rest => C s a ∧ Each C (f s a) rest

instance decidableEach {C : σ → α → Prop} [∀ s a, Decidable (C s a)] :
    ∀ (s : σ) (run : List α), Decidable (Each f C s run)
  | _, [] => isTrue trivial
  | s, a :: rest =>
    have := decidableEach (C := C) (f s a) rest
    inferInstanceAs (Decidable (C s a ∧ Each f C (f s a) rest))

instance decidableAlways {P : σ → Prop} [DecidablePred P] :
    ∀ (s : σ) (run : List α), Decidable (Always f P s run)
  | s, [] => inferInstanceAs (Decidable (P s))
  | s, a :: rest =>
    have := decidableAlways (P := P) (f s a) rest
    inferInstanceAs (Decidable (P s ∧ Always f P (f s a) rest))

variable {f} {P Q : σ → Prop} {C : σ → α → Prop} {s : σ} {run : List α}

lemma each_append {first second : List α} :
    Each f C s (first ++ second) ↔ Each f C s first ∧ Each f C (first.foldl f s) second := by
  induction first generalizing s with
  | nil => exact (iff_of_eq (true_and _)).symm
  | cons a rest ih => exact (and_congr_right' ih).trans and_assoc.symm

/-- A condition on the actions alone is met in every state. -/
lemma each_of_mem {D : α → Prop} (h : ∀ a ∈ run, D a) : Each f (fun _ => D) s run := by
  induction run generalizing s with
  | nil => trivial
  | cons a rest ih =>
    exact ⟨h a List.mem_cons_self, ih fun b hb => h b (List.mem_cons_of_mem a hb)⟩

/-- In particular a run meets it exactly if all its actions do. -/
lemma each_iff_forall_mem {D : α → Prop} : Each f (fun _ => D) s run ↔ ∀ a ∈ run, D a := by
  refine ⟨fun h => ?_, each_of_mem⟩
  induction run generalizing s with
  | nil => exact nofun
  | cons a rest ih => exact List.forall_mem_cons.mpr ⟨h.1, ih h.2⟩

lemma Always.start (h : Always f P s run) : P s := by
  cases run with
  | nil => exact h
  | cons a rest => exact h.1

lemma Always.last (h : Always f P s run) : P (run.foldl f s) := by
  induction run generalizing s with
  | nil => exact h
  | cons a rest ih => exact ih h.2

lemma Always.take (h : Always f P s run) (k : Nat) : Always f P s (run.take k) := by
  induction run generalizing s k with
  | nil =>
    rwa [List.take_nil]
  | cons a rest ih =>
    cases k with
    | zero => exact h.1
    | succ k => exact ⟨h.1, ih h.2 k⟩

lemma Always.mono (h : Always f P s run) (imp : ∀ t, P t → Q t) : Always f Q s run := by
  induction run generalizing s with
  | nil => exact imp s h
  | cons a rest ih => exact ⟨imp s h.1, ih h.2⟩

lemma Always.and (hP : Always f P s run) (hQ : Always f Q s run) : Always f (fun t => P t ∧ Q t) s run := by
  induction run generalizing s with
  | nil => exact ⟨hP, hQ⟩
  | cons a rest ih => exact ⟨⟨hP.1, hQ.1⟩, ih hP.2 hQ.2⟩

/-- What holds of every action in a state of the run holds of those it takes. -/
lemma Always.each (h : Always f P s run) (imp : ∀ t a, P t → C t a) : Each f C s run := by
  induction run generalizing s with
  | nil => trivial
  | cons a rest ih => exact ⟨imp s a h.1, ih h.2⟩

/-- An invariant and what the actions meet may be used together. -/
lemma Always.each_of_each {D : σ → α → Prop} (h : Always f P s run) (each : Each f C s run)
    (imp : ∀ t a, P t → C t a → D t a) : Each f D s run := by
  induction run generalizing s with
  | nil => trivial
  | cons a rest ih => exact ⟨imp s a h.1 each.1, ih h.2 each.2⟩

/-- What holds in every state of the run holds after every action. -/
lemma Always.each_next (h : Always f P s run) : Each f (fun t a => P (f t a)) s run := by
  induction run generalizing s with
  | nil => trivial
  | cons a rest ih => exact ⟨h.2.start, ih h.2⟩

lemma Each.and {D : σ → α → Prop} (hC : Each f C s run) (hD : Each f D s run) :
    Each f (fun t a => C t a ∧ D t a) s run := by
  induction run generalizing s with
  | nil => trivial
  | cons a rest ih => exact ⟨⟨hC.1, hD.1⟩, ih hC.2 hD.2⟩

/-- Steps that meet their condition keep the invariant, so it always holds. -/
lemma always_of_each (step : ∀ t a, P t → C t a → P (f t a)) (start : P s)
    (each : Each f C s run) : Always f P s run := by
  induction run generalizing s with
  | nil => exact start
  | cons a rest ih => exact ⟨start, ih (step s a start each.1) each.2⟩

lemma always_of_step (step : ∀ t a, P t → P (f t a)) (start : P s) : Always f P s run := by
  induction run generalizing s with
  | nil => exact start
  | cons a rest ih => exact ⟨start, ih (step s a start)⟩

lemma foldl_of_step (step : ∀ t a, P t → P (f t a)) (start : P s) : P (run.foldl f s) := by
  induction run generalizing s with
  | nil => exact start
  | cons a rest ih => exact ih (step s a start)

/-- What one action of the run brings about and every action keeps holds at the
end. -/
lemma foldl_of_mem {a : α} (step : ∀ t b, P t → P (f t b)) (mem : a ∈ run)
    (start : ∀ t, P (f t a)) : P (run.foldl f s) := by
  obtain ⟨before, after, rfl⟩ := List.append_of_mem mem
  rw [List.foldl_append, List.foldl_cons]
  exact foldl_of_step step (start _)

/-- When the condition says exactly which steps keep the invariant, it also
says exactly which runs do. -/
lemma always_iff_each (step : ∀ t a, P t → (P (f t a) ↔ C t a)) (start : P s) : Always f P s run ↔ Each f C s run := by
  constructor
  · intro always
    induction run generalizing s with
    | nil => trivial
    | cons a rest ih =>
      have next : P (f s a) := always.2.start
      exact ⟨(step s a start).mp next, ih next always.2⟩
  · exact always_of_each (fun t a ht hc => (step t a ht).mpr hc) start

/-! The parties of a run on a fixed system are named by literals of `Fin 1` to `Fin 5`. -/

instance neZero_one : NeZero 1 := ⟨Nat.succ_ne_zero 0⟩

instance neZero_two : NeZero 2 := ⟨Nat.succ_ne_zero 1⟩

instance neZero_three : NeZero 3 := ⟨Nat.succ_ne_zero 2⟩

instance neZero_four : NeZero 4 := ⟨Nat.succ_ne_zero 3⟩

instance neZero_five : NeZero 5 := ⟨Nat.succ_ne_zero 4⟩

end Run
