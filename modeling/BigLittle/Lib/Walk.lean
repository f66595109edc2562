import Mathlib.Init

/-!
# Walking a tree from the root

A tree is given by the list of children of each node. The walk visits a node
before its children; a visitor changes a state and may refuse, which ends the
walk with the changes made so far.

The rules speak about walks that were not refused: every node is visited, and a
visitor that settles a node whose parent is settled has settled them all.
-/

namespace Walk

open List

variable {ν σ ε : Type*}

/-- Visit the nodes in order until a visit is refused. -/
def visitAll (visit : σ → ν → σ × Option ε) : List ν → σ → σ × Option ε
  | [], s => (s, none)
  | v :: rest, s =>
    match visit s v with
    | (s, none) => visitAll visit rest s
    | (s, some e) => (s, some e)

/-- The nodes below `v`, `v` first and each node before its children; `fuel`
bounds the height. -/
def preorder (children : ν → List ν) : Nat → ν → List ν
  | 0, _ => []
  | fuel + 1, v => v :: (children v).flatMap (preorder children fuel)

section Order

variable {children : ν → List ν}

lemma child_mem_preorder {fuel : Nat} {root p c : ν} (hp : p ∈ preorder children fuel root)
    (hc : c ∈ children p) : c ∈ preorder children (fuel + 1) root := by
  induction fuel generalizing root with
  | zero => cases hp
  | succ fuel ih =>
    rw [preorder, mem_cons, mem_flatMap] at hp ⊢
    right
    obtain rfl | ⟨d, hd, hp⟩ := hp
    · exact ⟨c, hc, mem_cons_self⟩
    · exact ⟨d, hd, ih hp⟩

/-- A node whose ancestors can be followed to the root, the level falling on the
way, is visited if the fuel exceeds its level. -/
lemma mem_preorder {root : ν} (level : ν → Nat) (up : ∀ v, v ≠ root → ∃ p, v ∈ children p ∧ level p < level v)
    {fuel : Nat} (v : ν) (hfuel : level v < fuel) : v ∈ preorder children fuel root := by
  induction fuel generalizing v with
  | zero => exact absurd hfuel (Nat.not_lt_zero _)
  | succ fuel ih =>
    by_cases hv : v = root
    · rw [hv, preorder]
      exact mem_cons_self
    · obtain ⟨p, hmem, hlevel⟩ := up v hv
      exact child_mem_preorder (ih p (by omega)) hmem

/-- The parents of each node of the list stand before it or in `seen`. -/
def ParentsFirst (isParent : ν → ν → Prop) : (ν → Prop) → List ν → Prop
  | _, [] => True
  | seen, v :: rest =>
    (∀ p, isParent p v → seen p) ∧ ParentsFirst isParent (fun u => seen u ∨ u = v) rest

variable {isParent : ν → ν → Prop} {seen seen' : ν → Prop}

lemma ParentsFirst.mono {l : List ν} (h : ParentsFirst isParent seen l)
    (hseen : ∀ u, seen u → seen' u) : ParentsFirst isParent seen' l := by
  induction l generalizing seen seen' with
  | nil => trivial
  | cons v rest ih =>
    refine ⟨fun p hp => hseen p (h.1 p hp), ih h.2 ?_⟩
    rintro u (hu | rfl)
    · exact .inl (hseen u hu)
    · exact .inr rfl

lemma ParentsFirst.append {l l' : List ν} (h : ParentsFirst isParent seen l)
    (h' : ParentsFirst isParent seen l') : ParentsFirst isParent seen (l ++ l') := by
  induction l generalizing seen with
  | nil => exact h'
  | cons v rest ih => exact ⟨h.1, ih h.2 (h'.mono fun u hu => .inl hu)⟩

lemma ParentsFirst.flatMap {l : List ν} {f : ν → List ν}
    (h : ∀ v ∈ l, ParentsFirst isParent seen (f v)) : ParentsFirst isParent seen (l.flatMap f) := by
  induction l with
  | nil => trivial
  | cons v rest ih =>
    rw [flatMap_cons]
    exact (h v mem_cons_self).append (ih fun u hu => h u (mem_cons_of_mem v hu))

lemma parentsFirst_preorder (honly : ∀ v c, c ∈ children v → ∀ p, isParent p c → p = v) (fuel : Nat) (root : ν)
    (hroot : ∀ p, isParent p root → seen p) : ParentsFirst isParent seen (preorder children fuel root) := by
  induction fuel generalizing root seen with
  | zero => trivial
  | succ fuel ih =>
    refine ⟨hroot, ParentsFirst.flatMap fun c hc => ih c fun p hp => .inr ?_⟩
    exact honly root c hc p hp

end Order

section Visits

variable {visit : σ → ν → σ × Option ε} {s t : σ}

/-- What no visit changes, the walk does not change, refused or not. -/
lemma visitAll_keeps {α : Type*} (f : σ → α) (h : ∀ s v, f (visit s v).1 = f s) (l : List ν)
    (s : σ) : f (visitAll visit l s).1 = f s := by
  induction l generalizing s with
  | nil => rfl
  | cons v rest ih =>
    have hv := h s v
    rw [visitAll]
    split
    next s' heq =>
      rw [heq] at hv
      rw [ih, hv]
    next s' e heq =>
      rwa [heq] at hv

variable {isParent : ν → ν → Prop} {seen : ν → Prop}

/-- If a visit settles a node whose parents are settled, and unsettles none, an
accepted walk has settled every node it was to visit. -/
lemma settled_of_visitAll (Inv : σ → Prop) (Settled : σ → ν → Prop)
    (hvisit : ∀ s v s', Inv s → (∀ p, isParent p v → Settled s p) → visit s v = (s', none) →
      Inv s' ∧ Settled s' v ∧ ∀ u, Settled s u → Settled s' u)
    {l : List ν} (hl : ParentsFirst isParent seen l) (hinv : Inv s) (hs : ∀ u, seen u → Settled s u)
    (hwalk : visitAll visit l s = (t, none)) : ∀ u, seen u ∨ u ∈ l → Settled t u := by
  induction l generalizing seen s with
  | nil =>
    cases hwalk
    rintro u (hu | hu)
    · exact hs u hu
    · cases hu
  | cons v rest ih =>
    rw [visitAll] at hwalk
    split at hwalk
    next s' heq =>
      obtain ⟨hinv', hv, hkeep⟩ := hvisit s v s' hinv (fun p hp => hs p (hl.1 p hp)) heq
      have hseen : ∀ u, seen u ∨ u = v → Settled s' u := by
        rintro u (hu | rfl)
        · exact hkeep u (hs u hu)
        · exact hv
      intro u hu
      apply ih hl.2 hinv' hseen hwalk
      rw [mem_cons] at hu
      exact hu.elim (fun h => .inl (.inl h)) fun h => h.elim (fun h => .inl (.inr h)) .inr
    next s' e heq => cases hwalk

end Visits

end Walk
