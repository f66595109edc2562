import BigLittle.Lib.Run
import BigLittle.Sched.Avg

/-!
# The tunables in sysfs

`hmp_store` and `hmp_show` serve all attributes of the HMP scheduler. An attribute may convert what is
written before it is stored, and what is stored before it is shown; a negative result of the conversion
rejects the write. `load_avg_period_ms` converts in both directions by `hmp_period_tofrom_sysfs`, between the
period and `hmp_data.multiplier`. A division by zero is `none`.

A number that is written arrives as an `int`: `vsscanf` reads it modulo `2 ^ 64` and keeps the low 32 bits.
-/

namespace BigLittle.Hmp

open Sched

structure HmpGlobalAttr where
  toSysfs : Option (Int → Option Int) := none
  fromSysfs : Option (Int → Option Int) := none

/-- What is written: a number or something else, or there is no memory to copy it to. -/
inductive Written where
  | number (z : Int)
  | noNumber
  | noMemory
deriving DecidableEq

/-- What `hmp_store` returns: `count`, `-EINVAL` or `-ENOMEM`. -/
inductive StoreResult where
  | count
  | einval
  | enomem
deriving DecidableEq

/-- The `int` that `sscanf` makes of a number. -/
def scanned (z : Int) : Int := Word.toSigned 32 (Word.ofInt 32 z)

/-- Convert a value, if there is a conversion. -/
def applyConversion (conversion : Option (Int → Option Int)) (value : Int) : Option Int :=
  match conversion with
  | none => some value
  | some f => f value

variable (attr : HmpGlobalAttr)

def hmpShow (value : Int) : Option Int := applyConversion attr.toSysfs value

/-- A negative value is rejected. -/
def storeConverted (value temp : Int) : Int × StoreResult :=
  if temp < 0 then (value, .einval) else (temp, .count)

/-- The value afterwards and the result. -/
def hmpStore (w : Written) (value : Int) : Option (Int × StoreResult) :=
  match w with
  | .noMemory => some (value, .enomem)
  | .noNumber => some (value, .einval)
  | .number z => (applyConversion attr.fromSysfs (scanned z)).map (storeConverted value)

/-- `(LOAD_AVG_PERIOD << HMP_VARIABLE_SCALE_SHIFT) / value` -/
def hmpPeriodTofromSysfs (value : Int) : Option Int :=
  if value = 0 then none else some (((loadAvgPeriod <<< 16 : Nat) : Int).tdiv value)

def loadAvgPeriodMs : HmpGlobalAttr where
  toSysfs := some hmpPeriodTofromSysfs
  fromSysfs := some hmpPeriodTofromSysfs

inductive Access where
  | write (w : Written)
  | read
deriving DecidableEq

/-- The attribute's value after an access. -/
def access (value : Option Int) (a : Access) : Option Int :=
  value.bind fun m =>
    match a with
    | .write w => (hmpStore attr w m).map Prod.fst
    | .read => (hmpShow attr m).map fun _ => m

/-- No access divides by zero, the multiplier is positive all along, and a rejected write leaves it
unchanged. -/
structure PeriodSafe (accesses : List Access) : Prop where
  positive : Run.Always (access loadAvgPeriodMs) (fun value => ∃ m, value = some m ∧ 0 < m)
    (hmpPeriodTofromSysfs loadAvgPeriod) accesses
  kept : Run.Each (access loadAvgPeriodMs) (fun value a => ∀ m w m' result, value = some m → a = .write w →
    hmpStore loadAvgPeriodMs w m = some (m', result) → result ≠ .count → m' = m)
    (hmpPeriodTofromSysfs loadAvgPeriod) accesses

/-- A number that is written is neither 0 nor above `32 << 16`. -/
def Access.Bounded : Access → Prop
  | .write (.number z) => scanned z ≠ 0 ∧ (scanned z).natAbs ≤ 2 ^ 21
  | _ => True

instance : (a : Access) → Decidable a.Bounded
  | .write (.number _) => inferInstanceAs (Decidable (_ ∧ _))
  | .write .noNumber | .write .noMemory | .read => isTrue trivial

/-- Whatever the attribute, a write that is not accepted changes nothing. -/
lemma hmpStore_rejected {attr : HmpGlobalAttr} {w : Written} {value value' : Int} {result : StoreResult}
    (h : hmpStore attr w value = some (value', result)) (hresult : result ≠ .count) : value' = value := by
  cases w with
  | noMemory | noNumber => exact (congrArg Prod.fst (Option.some.inj h)).symm
  | number z =>
    obtain ⟨temp, -, htemp⟩ := Option.map_eq_some_iff.mp h
    rw [storeConverted] at htemp
    split at htemp
    · exact (congrArg Prod.fst htemp).symm
    · exact absurd (congrArg Prod.snd htemp).symm hresult

/-- The quotient has the sign of the divisor, unless that is too large. -/
lemma period_sign {v : Int} (hv : v ≠ 0) : (2 ^ 21 : Int).tdiv v < 0 ∧ v < 0 ∧ v.natAbs ≤ 2 ^ 21 ∨
    0 < (2 ^ 21 : Int).tdiv v ∧ 0 < v ∧ v.natAbs ≤ 2 ^ 21 ∨ (2 ^ 21 : Int).tdiv v = 0 ∧ 2 ^ 21 < v.natAbs := by
  have hquot : ∀ d : Int, 0 < d → (1 ≤ (2 ^ 21 : Int).tdiv d ↔ d ≤ 2 ^ 21) := by
    intro d hd
    rw [Int.tdiv_eq_ediv_of_nonneg (by decide), Int.le_ediv_iff_mul_le hd, one_mul]
  have hnonneg : ∀ d : Int, 0 < d → 0 ≤ (2 ^ 21 : Int).tdiv d := fun d hd => Int.tdiv_nonneg (by decide) hd.le
  obtain hneg | hpos := Int.lt_or_gt_of_ne hv
  · have hd : 0 < -v := by omega
    have heq : (2 ^ 21 : Int).tdiv v = -(2 ^ 21 : Int).tdiv (-v) := by rw [Int.tdiv_neg, neg_neg]
    have := hquot (-v) hd
    have := hnonneg (-v) hd
    omega
  · have := hquot v hpos
    have := hnonneg v hpos
    omega

/-- From a positive multiplier, an access leaves one exactly if what it writes is bounded. -/
lemma access_positive_iff {m : Int} (hm : 0 < m) (a : Access) :
    (∃ m', access loadAvgPeriodMs (some m) a = some m' ∧ 0 < m') ↔ a.Bounded := by
  cases a with
  | read =>
    have hread : access loadAvgPeriodMs (some m) .read = some m :=
      congrArg (Option.map fun _ => m) (if_neg hm.ne')
    exact iff_of_true ⟨m, hread, hm⟩ trivial
  | write w =>
    cases w with
    | noMemory | noNumber => exact iff_of_true ⟨m, rfl, hm⟩ trivial
    | number z =>
      have hstored : access loadAvgPeriodMs (some m) (.write (.number z)) =
          (hmpPeriodTofromSysfs (scanned z)).map fun temp => (storeConverted m temp).1 := Option.map_map _ _ _
      rw [Access.Bounded, hstored, hmpPeriodTofromSysfs]
      by_cases hzero : scanned z = 0
      · rw [if_pos hzero]
        exact iff_of_false (by rintro ⟨_, ⟨⟩, -⟩) fun h => h.1 hzero
      · have hshift : ((loadAvgPeriod <<< 16 : Nat) : Int) = 2 ^ 21 := rfl
        have hsign := period_sign hzero
        rw [if_neg hzero, and_iff_right hzero, hshift]
        dsimp only [Option.map_some, storeConverted, apply_ite Prod.fst]
        constructor
        · rintro ⟨m', ⟨⟩, hpos⟩
          split at hpos <;> omega
        · intro hle
          refine ⟨_, rfl, ?_⟩
          split <;> omega

/-- For every sequence of reads and of writes, of numbers or not: the attribute is safe exactly if no number that
is written becomes an `int` of 0 or of more than `32 << 16` in magnitude. -/
theorem periodSafe_iff (accesses : List Access) : PeriodSafe accesses ↔ ∀ a ∈ accesses, a.Bounded := by
  have hpositive : Run.Always (access loadAvgPeriodMs) (fun value => ∃ m, value = some m ∧ 0 < m)
      (hmpPeriodTofromSysfs loadAvgPeriod) accesses ↔ ∀ a ∈ accesses, a.Bounded := by
    refine Iff.trans (Run.always_iff_each ?_ ⟨65536, rfl, by decide⟩) Run.each_iff_forall_mem
    rintro _ a ⟨m, rfl, hm⟩
    exact access_positive_iff hm a
  rw [← hpositive]
  refine ⟨PeriodSafe.positive, fun h => ⟨h, h.each ?_⟩⟩
  rintro _ a - m w m' result - - hstore hresult
  exact hmpStore_rejected hstore hresult

/-- Writing 0 divides by zero. A period of 3000000 ms is stored as the multiplier 0, and the next read divides
by it. -/
theorem period_unsafe : access loadAvgPeriodMs (hmpPeriodTofromSysfs loadAvgPeriod) (.write (.number 0)) = none ∧
    access loadAvgPeriodMs (hmpPeriodTofromSysfs loadAvgPeriod) (.write (.number 3000000)) = some 0 ∧
    [.write (.number 3000000), .read].foldl (access loadAvgPeriodMs) (hmpPeriodTofromSysfs loadAvgPeriod) = none := by
  decide

end BigLittle.Hmp
