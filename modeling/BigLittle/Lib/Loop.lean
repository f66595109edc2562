import Mathlib.Order.WellFounded

/-!
# Loops

A loop is given by its round: from a state either the state of the next round or the result with which the loop
is left. `run` executes it for a number of rounds; `Returns` says that some number is enough.

`returns_of_variant` is the rule of total correctness: an invariant of the rounds, and a variant that decreases as
long as the loop goes on.
-/

namespace Loop

variable {σ ρ : Type*} (round : σ → σ ⊕ ρ)

/-- The result of the loop, if it is left within `fuel` rounds. -/
def run : Nat → σ → Option ρ
  | 0, _ => none
  | fuel + 1, s =>
    match round s with
    | .inl next => run fuel next
    | .inr result => some result

/-- The loop that starts in `s` is left with `result`. -/
def Returns (s : σ) (result : ρ) : Prop := ∃ fuel, run round fuel s = some result

variable {round} {s next : σ} {result : ρ}

lemma Returns.of_exit (h : round s = .inr result) : Returns round s result := by
  refine ⟨1, ?_⟩
  rw [run, h]

lemma Returns.of_next (h : round s = .inl next) (hnext : Returns round next result) : Returns round s result := by
  obtain ⟨fuel, hfuel⟩ := hnext
  refine ⟨fuel + 1, ?_⟩
  rwa [run, h]

variable (round) in
/-- If the rounds keep `P` and lower the variant, and leave the loop with `Q` only, then the loop is left and `Q`
holds. -/
lemma returns_of_variant {α : Type*} [Preorder α] [WellFoundedLT α] (variant : σ → α) {P : σ → Prop} {Q : ρ → Prop}
    (hnext : ∀ s next, P s → round s = .inl next → P next ∧ variant next < variant s)
    (hexit : ∀ s result, P s → round s = .inr result → Q result) (hs : P s) :
    ∃ result, Returns round s result ∧ Q result := by
  induction h : variant s using WellFoundedLT.induction generalizing s with
  | ind a ih =>
    subst h
    cases hround : round s with
    | inl next =>
      obtain ⟨hP, hlt⟩ := hnext s next hs hround
      obtain ⟨result, hreturns, hQ⟩ := ih (variant next) hlt hP rfl
      exact ⟨result, hreturns.of_next hround, hQ⟩
    | inr result => exact ⟨result, .of_exit hround, hexit s result hs hround⟩

end Loop
