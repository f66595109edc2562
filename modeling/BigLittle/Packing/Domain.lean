import Mathlib.Data.Finset.Max
import Mathlib.Data.List.Rotate
import Mathlib.Order.Fin.Basic
import BigLittle.Lib.Run
import BigLittle.Lib.Word

/-!
# Choosing a buddy

`update_packing_domain` goes up the scheduling domains of a CPU in search of the CPU on which its small tasks
are packed. Where a domain has no `SD_LOAD_BALANCE`, the groups of its ring are compared "to find the best one",
the one with the lowest power per core. Each of them is compared with the group of the candidate, not with the
best one so far.

The ring is a list that starts with `sd->groups`. Powers, weights and their products are `unsigned int`s.
-/

namespace BigLittle.Packing

open List

/-- What is read of `struct sched_group`. -/
structure SchedGroup (n : Nat) where
  cpus : Finset (Fin n)
  nonempty : cpus.Nonempty
  power : Nat
  weight : Nat
  weight_pos : 0 < weight

/-- What is read of `struct sched_domain`. -/
structure SchedDomain (n : Nat) where
  span : Finset (Fin n)
  nonempty : span.Nonempty
  sharePowerline : Bool := false
  loadBalance : Bool := false
  group : SchedGroup n
  /-- the groups that follow, until the ring is closed -/
  next : List (SchedGroup n)

variable {n : Nat}

/-- A level of the search: the domain, and the candidate with which it is entered. -/
structure Level (n : Nat) where
  domain : SchedDomain n
  id : Fin n

/-- The comparison of the loop, in 32 bits. -/
def SeemsCheaper (g sg : SchedGroup n) : Prop :=
  Word.mul 32 g.power sg.weight < Word.mul 32 sg.power g.weight
  deriving Decidable

namespace Level

variable (l : Level n)

def groups : List (SchedGroup n) := l.domain.group :: l.domain.next

/-- The ring from the group of the candidate on; from the first group if none has the candidate. -/
def ring : SchedGroup n × List (SchedGroup n) :=
  match l.groups.rotate ((l.groups.findIdx? fun g => l.id ∈ g.cpus).getD 0) with
  | [] => (l.domain.group, l.domain.next)
  | g :: others => (g, others)

/-- `sg` once the group of the candidate is found. -/
def sg : SchedGroup n := l.ring.1

/-- The loop over the groups; `none` as long as `pack` is `sg`. -/
def pack : Option (SchedGroup n) :=
  if l.domain.loadBalance then none
  else l.ring.2.foldl (fun pack tmp => if SeemsCheaper tmp l.sg then some tmp else pack) none

/-- The candidate afterwards. -/
def next : Fin n :=
  match l.pack with
  | none => l.id
  | some g => g.cpus.min' g.nonempty

end Level

/-- The loop of `update_packing_domain` over a domain and its parents: the candidate at the end, where -1 is
`none`, and the levels. -/
def packingLoop (cpu : Fin n) : List (SchedDomain n) → Option (Fin n) → Option (Fin n) × List (Level n)
  | [], id => (id, [])
  | sd :: parents, id =>
    let l : Level n := ⟨sd, id.getD (sd.span.min' sd.nonempty)⟩
    if l.next ≠ cpu ∨ parents.head?.any SchedDomain.loadBalance then (some l.next, [l])
    else
      let (id, levels) := packingLoop cpu parents (some l.next)
      (id, l :: levels)

/-- The domain with which the search begins, with its parents: above the highest one whose CPUs share a
power line, unless that one has a parent and the CPU is not its first. -/
def packingStart (cpu : Fin n) (domains : List (SchedDomain n)) : List (SchedDomain n) :=
  match (domains.takeWhile SchedDomain.sharePowerline).length with
  | 0 => domains
  | k + 1 =>
    match domains.drop k with
    | [] => []
    | hsd :: parents =>
      if hsd.span.min' hsd.nonempty = cpu ∨ parents.isEmpty then parents else hsd :: parents

/-- `update_packing_domain`, up to the store to `sd_pack_buddy`. -/
def updatePackingDomain (cpu : Fin n) (domains : List (SchedDomain n)) : Option (Fin n) × List (Level n) :=
  packingLoop cpu (packingStart cpu domains) none

namespace Level

variable (l : Level n)

/-- No group of the level has less power per core. -/
def Lowest (g : SchedGroup n) : Prop := ∀ h ∈ l.groups, g.power * h.weight ≤ h.power * g.weight
  deriving Decidable

/-- The group that is chosen has the lowest power per core, and the group of the candidate is kept if it
has. -/
structure PicksLowest : Prop where
  lowest : l.Lowest (l.pack.getD l.sg)
  kept : l.Lowest l.sg → l.pack = none

/-- The order of the ring and its powers and weights with which the search succeeds: in ring order from the group of the
candidate, a group that seems cheaper than that one but has not the lowest power per core stands before one that has.
Some group seems cheaper exactly if one is, which fails only where a product wraps. -/
structure InOrder : Prop where
  followed : ∀ g after, g :: after <:+ l.ring.2 → SeemsCheaper g l.sg → ¬ l.Lowest g →
    ∃ h ∈ after, SeemsCheaper h l.sg ∧ l.Lowest h
  compares : (∃ g ∈ l.ring.2, SeemsCheaper g l.sg) ↔ ¬ l.Lowest l.sg

/-- The ring hands `cpu` on: it is the first CPU of a group that seems cheaper, and no later one does; or no group does
and it is the candidate. -/
def HandsOn (cpu : Fin n) : Prop :=
  (l.domain.loadBalance = false ∧ ∃ g after, g :: after <:+ l.ring.2 ∧ SeemsCheaper g l.sg ∧
    (∀ h ∈ after, ¬ SeemsCheaper h l.sg) ∧ g.cpus.min' g.nonempty = cpu) ∨
  ((l.domain.loadBalance = true ∨ ∀ g ∈ l.ring.2, ¬ SeemsCheaper g l.sg) ∧ l.id = cpu)

end Level

/-- The levels to which the search goes up: from the first CPU of the first domain through rings that hand on `cpu`
itself, to parents without `SD_LOAD_BALANCE`. -/
inductive Reaches (cpu : Fin n) : List (SchedDomain n) → Option (Fin n) → Level n → Prop
  | here (sd : SchedDomain n) (parents : List (SchedDomain n)) (id : Option (Fin n)) :
      Reaches cpu (sd :: parents) id ⟨sd, id.getD (sd.span.min' sd.nonempty)⟩
  | up {sd : SchedDomain n} {parents : List (SchedDomain n)} {id : Option (Fin n)} {l : Level n} :
      Level.HandsOn ⟨sd, id.getD (sd.span.min' sd.nonempty)⟩ cpu → parents.head?.any SchedDomain.loadBalance = false →
      Reaches cpu parents (some cpu) l → Reaches cpu (sd :: parents) id l

section

variable {α : Type*} {P : α → Prop} [DecidablePred P]

lemma foldl_last_eq_none {l : List α} {start : Option α} :
    l.foldl (fun found a => if P a then some a else found) start = none ↔ (∀ a ∈ l, ¬ P a) ∧ start = none := by
  induction l generalizing start with
  | nil => simp
  | cons a rest ih =>
    rw [foldl_cons, ih, forall_mem_cons]
    by_cases ha : P a <;> simp [ha]

lemma foldl_last_eq_some {l : List α} {start : Option α} {g : α} :
    l.foldl (fun found a => if P a then some a else found) start = some g ↔
      (∃ after, g :: after <:+ l ∧ P g ∧ ∀ h ∈ after, ¬ P h) ∨ (∀ a ∈ l, ¬ P a) ∧ start = some g := by
  induction l generalizing start with
  | nil => simp
  | cons a rest ih =>
    rw [foldl_cons, ih, forall_mem_cons]
    simp only [suffix_cons_iff, cons.injEq, or_and_right, exists_or, and_assoc, exists_and_left, exists_eq_left]
    by_cases ha : P a
    · rw [if_pos ha, Option.some.injEq]
      grind
    · rw [if_neg ha]
      grind

end

namespace Level

variable {l : Level n} {cpu : Fin n}

lemma pack_eq_none (h : l.domain.loadBalance = false) : l.pack = none ↔ ∀ g ∈ l.ring.2, ¬ SeemsCheaper g l.sg := by
  rw [pack, h, if_neg Bool.false_ne_true, foldl_last_eq_none, and_iff_left rfl]

lemma pack_eq_some (h : l.domain.loadBalance = false) {g : SchedGroup n} :
    l.pack = some g ↔
      ∃ after, g :: after <:+ l.ring.2 ∧ SeemsCheaper g l.sg ∧ ∀ h ∈ after, ¬ SeemsCheaper h l.sg := by
  rw [pack, h, if_neg Bool.false_ne_true, foldl_last_eq_some, or_iff_left (fun hstart => nomatch hstart.2)]

lemma handsOn_iff : l.HandsOn cpu ↔ l.next = cpu := by
  rw [HandsOn, next]
  cases hbalance : l.domain.loadBalance with
  | true => simp [pack, hbalance]
  | false =>
    cases hpack : l.pack with
    | none =>
      have hnone := (pack_eq_none hbalance).mp hpack
      refine ⟨?_, fun hid => .inr ⟨.inr hnone, hid⟩⟩
      rintro (⟨_, g, after, hsuffix, hcheaper, -⟩ | ⟨-, hid⟩)
      · exact absurd hcheaper (hnone g (hsuffix.subset mem_cons_self))
      · exact hid
    | some g =>
      obtain ⟨after, hsuffix, hcheaper, hlast⟩ := (pack_eq_some hbalance).mp hpack
      refine ⟨?_, fun hfirst => .inl ⟨rfl, g, after, hsuffix, hcheaper, hlast, hfirst⟩⟩
      rintro (⟨_, g', after', hsuffix', hcheaper', hlast', hfirst⟩ | ⟨hnone, -⟩)
      · have hg := (pack_eq_some hbalance).mpr ⟨after', hsuffix', hcheaper', hlast'⟩
        rwa [Option.some.inj (hpack.symm.trans hg)]
      · exact absurd hcheaper (hnone.resolve_left Bool.false_ne_true g (hsuffix.subset mem_cons_self))

lemma picksLowest_iff (h : l.domain.loadBalance = false) : l.PicksLowest ↔ l.InOrder := by
  cases hpack : l.pack with
  | none =>
    have hnone := (pack_eq_none h).mp hpack
    have hseen : ¬ ∃ g ∈ l.ring.2, SeemsCheaper g l.sg := fun ⟨g, hg, hcheaper⟩ => hnone g hg hcheaper
    refine ⟨fun hl => ⟨fun g after hsuffix hcheaper => ?_, ?_⟩, fun hl => ⟨?_, fun _ => hpack⟩⟩
    · exact absurd hcheaper (hnone g (hsuffix.subset mem_cons_self))
    · exact iff_of_false hseen (not_not.mpr (by simpa only [hpack, Option.getD_none] using hl.lowest))
    · rw [hpack]
      exact not_not.mp (mt hl.compares.mpr hseen)
  | some g =>
    obtain ⟨after, hsuffix, hcheaper, hlast⟩ := (pack_eq_some h).mp hpack
    have hmem : g ∈ l.ring.2 := hsuffix.subset mem_cons_self
    refine ⟨fun hl => ⟨fun g' after' hsuffix' hcheaper' hlowest' => ?_, ?_⟩, fun hl => ⟨?_, fun hsg => ?_⟩⟩
    · -- the last one that seems cheaper is a lowest one, so it is not `g'`, and it stands after it
      have hlowest : l.Lowest g := by simpa only [hpack, Option.getD_some] using hl.lowest
      refine ⟨g, ?_, hcheaper, hlowest⟩
      obtain hle | hle := suffix_or_suffix_of_suffix hsuffix hsuffix'
      · obtain heq | hafter := suffix_cons_iff.mp hle
        · exact absurd ((cons.inj heq).1 ▸ hlowest) hlowest'
        · exact hafter.subset mem_cons_self
      · obtain heq | hafter := suffix_cons_iff.mp hle
        · exact absurd ((cons.inj heq).1 ▸ hlowest) hlowest'
        · exact absurd hcheaper' (hlast g' (hafter.subset mem_cons_self))
    · exact iff_of_true ⟨g, hmem, hcheaper⟩ fun hsg => nomatch hpack.symm.trans (hl.kept hsg)
    · rw [hpack]
      by_contra hlowest
      obtain ⟨g', hg', hcheaper', -⟩ := hl.followed g after hsuffix hcheaper hlowest
      exact hlast g' hg' hcheaper'
    · exact absurd hsg (hl.compares.mp ⟨g, hmem, hcheaper⟩)

end Level

lemma mem_packingLoop_iff {cpu : Fin n} {l : Level n} (domains : List (SchedDomain n)) (id : Option (Fin n)) :
    l ∈ (packingLoop cpu domains id).2 ↔ Reaches cpu domains id l := by
  induction domains generalizing id with
  | nil => exact ⟨nofun, nofun⟩
  | cons sd parents ih =>
    rw [packingLoop]
    split_ifs with hstop
    · refine mem_singleton.trans ⟨fun hl => hl ▸ .here sd parents id, ?_⟩
      rintro (_ | ⟨hhands, hparent, -⟩)
      · rfl
      · exact absurd hstop (not_or.mpr ⟨not_not.mpr (Level.handsOn_iff.mp hhands), by simp [hparent]⟩)
    · obtain ⟨hnext, hparent⟩ := not_or.mp hstop
      rw [not_not] at hnext
      rw [hnext]
      refine mem_cons.trans ⟨?_, ?_⟩
      · rintro (hl | hl)
        · exact hl ▸ .here sd parents id
        · exact .up (Level.handsOn_iff.mpr hnext) (Bool.eq_false_of_not_eq_true hparent) ((ih _).mp hl)
      · rintro (_ | ⟨-, -, hl⟩)
        · exact .inl rfl
        · exact .inr ((ih _).mpr hl)

/-- At all levels that compare groups the one with the lowest power per core is chosen exactly if at each of them, in
the order of the ring, the groups cheaper than that of the candidate are followed by one of the lowest power per
core. -/
theorem packing_picksLowest_iff (cpu : Fin n) (domains : List (SchedDomain n)) :
    (∀ l ∈ (updatePackingDomain cpu domains).2, l.domain.loadBalance = false → l.PicksLowest) ↔
    ∀ l, Reaches cpu (packingStart cpu domains) none l → l.domain.loadBalance = false → l.InOrder :=
  forall_congr' fun _ => imp_congr (mem_packingLoop_iff _ _) (forall_congr' Level.picksLowest_iff)

set_option maxRecDepth 4096 in
/-- Three groups of one CPU each with powers of 1000, 400 and 600: CPU 2 becomes the buddy of CPU 0, and not
CPU 1. -/
theorem packing_picks_last :
    let group : Fin 3 → Nat → SchedGroup 3 := fun cpu power =>
      { cpus := {cpu}, nonempty := ⟨cpu, Finset.mem_singleton_self cpu⟩, power := power, weight := 1
        weight_pos := by decide }
    let domain : SchedDomain 3 :=
      { span := Finset.univ, nonempty := by decide, group := group 0 1000, next := [group 1 400, group 2 600] }
    let l : Level 3 := ⟨domain, 0⟩
    (updatePackingDomain 0 [domain]).1 = some 2 ∧ l ∈ (updatePackingDomain 0 [domain]).2 ∧
      (l.Lowest (group 1 400) ∧ ¬ l.Lowest (group 2 600)) ∧ ¬ l.PicksLowest := by
  intro group domain l
  refine ⟨by decide +kernel, mem_singleton.mpr rfl, by decide, fun h => ?_⟩
  have hlowest : l.Lowest (group 2 600) := h.lowest
  exact absurd hlowest (by decide)

end BigLittle.Packing
