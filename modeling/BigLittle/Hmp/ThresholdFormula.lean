import Mathlib.Algebra.Order.Field.Rat
import Mathlib.Data.Rat.Floor
import Mathlib.Tactic.FieldSimp
import Mathlib.Tactic.Positivity
import BigLittle.Hmp.Threshold

/-!
# The formula of the dynamic thresholds

The comment above `adj_threshold` gives both thresholds as fractions of the spare capacity and the
spare room for tasks of the two clusters. The code divides once, by the product of the two sums plus
one, so that it never divides by zero, and truncates the quotient.

Each spare value is to be that of the cluster's own target. Without architecture capacities the room
of the little cluster is read from the statistics of the big one.
-/

namespace BigLittle.Hmp

open Sched Cfs

namespace Spare

variable (sp : Spare)

/-- What the "Dynamic UP-Threshold" is below the greatest threshold. -/
def upFormula : ℚ := 1023 * (sp.bNacap / (sp.bNacap + sp.lNacap)) * (sp.bNatask / (sp.bNatask + sp.lNatask))

/-- What the "Dynamic Down-Threshold" is above the least threshold. -/
def downFormula : ℚ := 1023 * (sp.lNacap / (sp.bNacap + sp.lNacap)) * (sp.lNatask / (sp.bNatask + sp.lNatask))

/-- What one more in the divisor makes. -/
def guard : ℚ := (sp.bNacap + sp.lNacap) * (sp.bNatask + sp.lNatask) / sp.divisor

/-- The quotients of `adj_threshold` before they are truncated. -/
def upQuotient : ℚ := (1023 * (sp.bNacap * sp.bNatask) : Int) / sp.divisor

def downQuotient : ℚ := (1023 * (sp.lNacap * sp.lNatask) : Int) / sp.divisor

end Spare

namespace State

variable {T G : Type*} {n : Nat} (pf : Platform n) (s : State T G n)

/-- The spare values with the room of the little cluster from its own statistics. -/
def ownSpare (env : ClusterEnv n) : Calc Spare := do
  let sp ← s.spare pf env
  match pf.scaling with
  | .archCapacity _ _ => pure sp
  | _ => pure { sp with lNatask := positive env.lstats.scaledAtask }

/-- What is rounded is the formula over the values of each cluster's own target, with one more in the divisor, and the
thresholds are what it is rounded to. -/
structure FollowsFormula (env : ClusterEnv n) : Prop where
  up : (s.spare pf env).value.upQuotient = (s.ownSpare pf env).value.upFormula * (s.ownSpare pf env).value.guard
  down : (s.spare pf env).value.downQuotient = (s.ownSpare pf env).value.downFormula * (s.ownSpare pf env).value.guard
  upRounded : env.bstats.threshold = 1023 - ⌊(s.ownSpare pf env).value.upFormula * (s.ownSpare pf env).value.guard⌋
  downRounded : env.lstats.threshold = ⌊(s.ownSpare pf env).value.downFormula * (s.ownSpare pf env).value.guard⌋

end State

section Rounding

lemma floor_div_eq_ediv {x d : Int} (hd : 0 < d) : ⌊(x : ℚ) / d⌋ = x / d := by
  lift d to Nat using hd.le
  exact Rat.floor_intCast_div_natCast x d

lemma fractions_eq {a b c d : Int} (ha : 0 ≤ a) (hb : 0 ≤ b) (hc : 0 ≤ c) (hd : 0 ≤ d) :
    (1023 : ℚ) * (a / (a + b)) * (c / (c + d)) * ((a + b) * (c + d) / ((a + b) * (c + d) + 1 : Int)) =
      (1023 * (a * c) : Int) / ((a + b) * (c + d) + 1 : Int) := by
  have ha' : (0 : ℚ) ≤ a := by exact_mod_cast ha
  have hb' : (0 : ℚ) ≤ b := by exact_mod_cast hb
  have hc' : (0 : ℚ) ≤ c := by exact_mod_cast hc
  have hd' : (0 : ℚ) ≤ d := by exact_mod_cast hd
  -- an empty sum has empty terms
  obtain hzero | hpos := (add_nonneg ha' hb').eq_or_lt
  · have hazero : (a : ℚ) = 0 := by linarith
    push_cast
    simp [hazero]
  obtain hzero | hpos' := (add_nonneg hc' hd').eq_or_lt
  · have hczero : (c : ℚ) = 0 := by linarith
    push_cast
    simp [hczero]
  have hdivisor : (0 : ℚ) < (a + b) * (c + d) + 1 := by positivity
  push_cast
  field_simp

variable {sp : Spare}

lemma Spare.quotients_eq (hbn : 0 ≤ sp.bNacap) (hbt : 0 ≤ sp.bNatask) (hln : 0 ≤ sp.lNacap) (hlt : 0 ≤ sp.lNatask) :
    sp.upQuotient = sp.upFormula * sp.guard ∧ sp.downQuotient = sp.downFormula * sp.guard := by
  constructor
  · exact (fractions_eq hbn hln hbt hlt).symm
  · have hfractions := fractions_eq hln hbn hlt hbt
    rw [Int.add_comm sp.lNacap, Int.add_comm sp.lNatask, add_comm (sp.lNacap : ℚ),
      add_comm (sp.lNatask : ℚ)] at hfractions
    exact hfractions.symm

/-- The spare values with another room of the little cluster. -/
abbrev Spare.withRoom (sp : Spare) (room : Int) : Spare := { sp with lNatask := room }

/-- Another room of the little cluster leaves both quotients as they are exactly if it is the same, or neither cluster
has both capacity and room to spare. -/
lemma Spare.InRange.quotients_withRoom_iff (h : sp.InRange) {room : Int} (hroom : 0 ≤ room) :
    sp.upQuotient = (sp.withRoom room).upQuotient ∧ sp.downQuotient = (sp.withRoom room).downQuotient ↔
      sp.lNatask = room ∨ sp.lNacap = 0 ∧ (sp.bNacap = 0 ∨ sp.bNatask = 0) := by
  have hpos := h.divisor_pos
  obtain ⟨hbn, hbt, hln, hlt, -, -⟩ := h
  obtain ⟨bn, bt, ln, lt⟩ := sp
  dsimp only at hbn hbt hln hlt
  have hcaps : 0 ≤ bn + ln := Int.add_nonneg hbn hln
  have hpos' : 0 < (Spare.withRoom ⟨bn, bt, ln, lt⟩ room).divisor := by
    have := Int.mul_nonneg hcaps (Int.add_nonneg hbt hroom)
    dsimp only [Spare.divisor]
    omega
  have hup : (Spare.mk bn bt ln lt).upQuotient = (Spare.mk bn bt ln room).upQuotient ↔
      lt = room ∨ bn = 0 ∨ bt = 0 := by
    rw [upQuotient, upQuotient, div_eq_div_iff (by exact_mod_cast hpos.ne') (by exact_mod_cast hpos'.ne')]
    norm_cast
    have hdiff : 1023 * (bn * bt) * (Spare.mk bn bt ln room).divisor -
        1023 * (bn * bt) * (Spare.mk bn bt ln lt).divisor =
        1023 * (bn * bt) * ((bn + ln) * (room - lt)) := by
      dsimp only [Spare.divisor]
      ring
    rw [← sub_eq_zero, hdiff]
    simp only [mul_eq_zero]
    omega
  have hdown : (Spare.mk bn bt ln lt).downQuotient = (Spare.mk bn bt ln room).downQuotient ↔ lt = room ∨ ln = 0 := by
    rw [downQuotient, downQuotient, div_eq_div_iff (by exact_mod_cast hpos.ne') (by exact_mod_cast hpos'.ne')]
    norm_cast
    have hdiff : 1023 * (ln * lt) * (Spare.mk bn bt ln room).divisor -
        1023 * (ln * room) * (Spare.mk bn bt ln lt).divisor =
        1023 * ln * ((lt - room) * ((bn + ln) * bt + 1)) := by
      dsimp only [Spare.divisor]
      ring
    have hpositive : 0 ≤ (bn + ln) * bt := Int.mul_nonneg hcaps hbt
    rw [← sub_eq_zero, hdiff]
    simp only [mul_eq_zero]
    omega
  rw [hup, hdown]
  tauto

end Rounding

section Clusters

variable {T G : Type*} {n : Nat} {pf : Platform n} {s : State T G n}

lemma positive_weighByPower_eq_zero_iff {x bPower lPower : Int} (hx : -2 ^ 20 ≤ x ∧ x ≤ 63)
    (hb : 96 ≤ bPower ∧ bPower ≤ 1536) (hl : 96 ≤ lPower ∧ lPower ≤ 1536) :
    positive (State.weighByPower x bPower lPower).value = 0 ↔ x * bPower ≤ lPower := by
  rw [positive_eq_zero_iff, (weighByPower_ensures hx hb hl).2.1]
  constructor
  · intro hle
    by_contra hlt
    have hnonneg : 0 ≤ x * bPower := by omega
    rw [Int.tdiv_eq_ediv_of_nonneg hnonneg] at hle
    have := Int.le_ediv_of_mul_le (c := lPower + 1) (a := 1) (b := x * bPower) (by omega) (by omega)
    omega
  · intro hle
    obtain hneg | hnonneg := Int.lt_or_le (x * bPower) 0
    · have := (Calc.tdiv_between (a := x * bPower) (b := lPower + 1) (by omega)).2
      omega
    · rw [Int.tdiv_eq_ediv_of_nonneg hnonneg, Int.ediv_eq_zero_of_lt hnonneg (by omega)]

namespace State

/-- The cases in which it does not matter whose room is read: both targets have the same, or the little one has no
capacity to spare, and the big one, weighed by the powers, has no capacity or no room. -/
def RoomsAgree (pf : Platform n) (s : State T G n) {bcpus lcpus : CpuMask n} {b l : Fin n} (hb : b ∈ bcpus)
    (hl : l ∈ lcpus) : Prop :=
  positive (s.atask pf bcpus b hb) = positive (s.atask pf lcpus l hl) ∨
    s.acap pf lcpus l hl ≤ 0 ∧ (s.acap pf bcpus b hb * pf.cpuPower b ≤ pf.cpuPower l ∨
      s.atask pf bcpus b hb * pf.cpuPower b ≤ pf.cpuPower l)

variable {env : ClusterEnv n} {bcpus lcpus : CpuMask n} {b l : Fin n}

lemma ownSpare_quotients_eq (hrange : (s.spare pf env).value.InRange) :
    (s.ownSpare pf env).value.upQuotient = (s.ownSpare pf env).value.upFormula * (s.ownSpare pf env).value.guard ∧
    (s.ownSpare pf env).value.downQuotient =
      (s.ownSpare pf env).value.downFormula * (s.ownSpare pf env).value.guard := by
  obtain ⟨hbn, hbt, hln, hlt, -, -⟩ := hrange
  have hroom := positive_nonneg env.lstats.scaledAtask
  revert hbn hbt hln hlt
  rw [ownSpare, spare]
  cases pf.scaling with
  | archCapacity enabled topology => exact Spare.quotients_eq
  | off | freqInvariant enabled freqScale => exact fun hbn hbt hln _ => Spare.quotients_eq hbn hbt hln hroom

/-- What the code divides is what the formula asks for exactly if the room that is read for the little cluster is its
own, or makes no difference. -/
lemma quotients_own_iff (hb : s.ValidTarget pf bcpus b) (hl : s.ValidTarget pf lcpus l)
    (hbstats : s.Collected pf bcpus b hb.mem env.bstats) (hlstats : s.Collected pf lcpus l hl.mem env.lstats)
    (hrange : (s.spare pf env).value.InRange) :
    (s.spare pf env).value.upQuotient = (s.ownSpare pf env).value.upQuotient ∧
      (s.spare pf env).value.downQuotient = (s.ownSpare pf env).value.downQuotient ↔
    (∃ enabled topology, pf.scaling = .archCapacity enabled topology) ∨ s.RoomsAgree pf hb.mem hl.mem := by
  have hpowers : 96 ≤ (pf.cpuPower b : Int) ∧ (pf.cpuPower b : Int) ≤ 1536 := by
    have := hb.power_ge
    have := hb.power_le
    omega
  have hpowers' : 96 ≤ (pf.cpuPower l : Int) ∧ (pf.cpuPower l : Int) ≤ 1536 := by
    have := hl.power_ge
    have := hl.power_le
    omega
  rw [RoomsAgree, ← hbstats.acap_eq, ← hbstats.atask_eq, ← hlstats.acap_eq, ← hlstats.atask_eq,
    ← positive_weighByPower_eq_zero_iff hbstats.acap_between hpowers hpowers',
    ← positive_weighByPower_eq_zero_iff hbstats.atask_between hpowers hpowers',
    ← hbstats.power, ← hlstats.power, ← positive_eq_zero_iff]
  have hquotients := hrange.quotients_withRoom_iff (positive_nonneg env.lstats.scaledAtask)
  revert hquotients
  rw [ownSpare, spare]
  cases pf.scaling with
  | archCapacity enabled topology => exact fun _ => iff_of_true ⟨rfl, rfl⟩ (.inl ⟨enabled, topology, rfl⟩)
  | off | freqInvariant enabled freqScale =>
    intro hquotients
    rwa [or_iff_right (by rintro ⟨_, _, ⟨⟩⟩)]

end State

end Clusters

end BigLittle.Hmp
