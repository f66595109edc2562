import Mathlib.Data.List.Nodup
import Mathlib.Logic.Relation
import BigLittle.Lib.Loop

/-!
# Walking the task groups

`walk_tg_tree_from` is a recursion over the tree of task groups that is unrolled into jumps. It goes
down to the first child of a group, and finds the next one through the list of the parent when a child
is done. The jumps are compared with the calls of the recursion.
-/

namespace BigLittle.Core

open List
open List (mem_append mem_cons mem_flatMap)
open Loop (Returns)
open Relation (ReflTransGen)

/-- The task groups, with the pointers that lead from one to another. -/
structure TaskGroups (G : Type*) where
  parent : G → Option G
  children : G → List G
  mem_children : ∀ {g c}, c ∈ children g ↔ parent c = some g
  nodup : ∀ g, (children g).Nodup
  height : G → Nat
  height_lt : ∀ {g c}, c ∈ children g → height c < height g

inductive Visit (G : Type*) where
  | down (g : G)
  | up (g : G)

/-- Where the walk is: at `down`, or in the loop of a group at the children that are left. -/
inductive Place (G : Type*) where
  | down (parent : G)
  | loop (parent : G) (left : List G)

namespace TaskGroups

variable {G σ : Type*} (t : TaskGroups G)

/-- `walk_tg_tree_from` up to the next jump, with what the visitors return and make of the data. -/
def walkRound [DecidableEq G] (start : G) (visit : Visit G → σ → Int × σ) : Place G × σ → (Place G × σ) ⊕ (Int × σ)
  | (.down parent, data) =>
    let ret := visit (.down parent) data
    if ret.1 ≠ 0 then .inr ret else .inl (.loop parent (t.children parent), ret.2)
  | (.loop _ (child :: _), data) => .inl (.down child, data)
  | (.loop parent [], data) =>
    let ret := visit (.up parent) data
    if ret.1 ≠ 0 ∨ parent = start then .inr ret
    else
      match t.parent parent with
      | none => .inr ret
      -- `up` continues after the child in the list of its parent
      | some p => .inl (.loop p ((t.children p).dropWhile (· ≠ parent)).tail, ret.2)

/-- The calls of the recursion. -/
def calls (g : G) : List (Visit G) :=
  .down g :: ((t.children g).attach.flatMap fun c => calls c.1) ++ [.up g]
termination_by t.height g
decreasing_by exact t.height_lt c.2

/-- The calls are made one after the other, up to the first result that is not 0. -/
def perform (visit : Visit G → σ → Int × σ) : List (Visit G) → σ → Int × σ
  | [], data => (0, data)
  | v :: rest, data =>
    let ret := visit v data
    if ret.1 ≠ 0 then ret else perform visit rest ret.2

/-- `x` is `g` or a descendant of it. -/
def Below (g x : G) : Prop := ReflTransGen (fun c p => t.parent c = some p) x g

variable {t} {start g c x : G} {visit : Visit G → σ → Int × σ} {rest : List (Visit G)}

lemma calls_eq : t.calls g = .down g :: ((t.children g).flatMap t.calls ++ [.up g]) := by
  rw [calls, flatMap_subtype (g := t.calls) fun _ _ => rfl, unattach_attach, cons_append]

/-! ### The calls are those of the subtree -/

lemma Below.height_le (h : t.Below g x) : t.height x ≤ t.height g := by
  induction h with
  | refl => exact Nat.le_refl _
  | tail _ hp ih => exact ih.trans (t.height_lt (t.mem_children.mpr hp)).le

lemma below_iff : t.Below g x ↔ x = g ∨ ∃ c ∈ t.children g, t.Below c x := by
  rw [Below, ReflTransGen.cases_tail_iff, eq_comm]
  simp only [t.mem_children, and_comm, Below]

/-- A child of a group is below no other child of it. -/
lemma eq_of_below_child (hc : c ∈ t.children start) (hg : g ∈ t.children start) (h : t.Below g c) : c = g := by
  obtain heq | ⟨p, hp, hbelow⟩ := ReflTransGen.cases_head h
  · exact heq
  · obtain rfl : start = p := Option.some.inj ((t.mem_children.mp hc).symm.trans hp)
    exact absurd (t.height_lt hg) (Nat.not_lt.mpr (Below.height_le hbelow))

lemma eq_of_below (hc : c ∈ t.children start) (hg : g ∈ t.children start) (hcx : t.Below c x)
    (hgx : t.Below g x) : c = g := by
  obtain h | h := ReflTransGen.total_of_right_unique (fun _ _ _ => by simp_all) hcx hgx
  · exact eq_of_below_child hc hg h
  · exact (eq_of_below_child hg hc h).symm

lemma mem_calls : (.down x ∈ t.calls g ↔ t.Below g x) ∧ (.up x ∈ t.calls g ↔ t.Below g x) := by
  induction h : t.height g using Nat.strong_induction_on generalizing g with
  | _ n ih =>
    have hchild : ∀ c ∈ t.children g, _ := fun c hc => ih _ (h ▸ t.height_lt hc) rfl
    rw [calls_eq, below_iff]
    simp only [mem_append, mem_cons, mem_flatMap, not_mem_nil, Visit.down.injEq, Visit.up.injEq, reduceCtorEq,
      or_false, false_or]
    constructor
    · exact or_congr_right (exists_congr fun c => and_congr_right fun hc => (hchild c hc).1)
    · rw [or_comm]
      exact or_congr_right (exists_congr fun c => and_congr_right fun hc => (hchild c hc).2)

lemma nodup_calls : (t.calls g).Nodup := by
  induction h : t.height g using Nat.strong_induction_on generalizing g with
  | _ n ih =>
    have hother : ∀ c ∈ t.children g, ¬t.Below c g :=
      fun c hc hbelow => absurd (t.height_lt hc) (Nat.not_lt.mpr hbelow.height_le)
    rw [calls_eq, nodup_cons, nodup_append, nodup_flatMap]
    refine ⟨?_, ⟨fun c hc => ih _ (h ▸ t.height_lt hc) rfl, ?_⟩, nodup_singleton _, ?_⟩
    · simpa [mem_calls] using hother
    · refine (t.nodup g).imp_of_mem ?_
      rintro a b ha hb hne (x | x) hva hvb
      · exact hne (eq_of_below ha hb (mem_calls.1.mp hva) (mem_calls.1.mp hvb))
      · exact hne (eq_of_below ha hb (mem_calls.2.mp hva) (mem_calls.2.mp hvb))
    · rintro v hv _ hup rfl
      obtain ⟨c, hc, hmem⟩ := mem_flatMap.mp hv
      rw [mem_singleton.mp hup] at hmem
      exact hother c hc (mem_calls.2.mp hmem)

/-! ### The jumps make these calls -/

variable [DecidableEq G]

/-- The list of the parent is resumed after the child. -/
lemma tail_dropWhile {before left : List G} (hlist : t.children g = before ++ c :: left) :
    ((t.children g).dropWhile (· ≠ c)).tail = left := by
  have hnodup := t.nodup g
  rw [hlist, nodup_append] at hnodup
  rw [hlist, dropWhile_append_of_pos]
  · simp
  · intro x hx
    simpa using hnodup.2.2 x hx c mem_cons_self

variable (t start visit) in
/-- From a place on, the walk makes these calls. -/
def Makes (place : Place G) (visits : List (Visit G)) : Prop :=
  ∀ data, Returns (t.walkRound start visit) (place, data) (perform visit visits data)

/-- A call ends the walk or is followed by the rest. -/
lemma Makes.cons {place next : Place G} {v : Visit G} (h : t.Makes start visit next rest)
    (hstop : ∀ data, (visit v data).1 ≠ 0 → t.walkRound start visit (place, data) = .inr (visit v data))
    (hgo : ∀ data, (visit v data).1 = 0 → t.walkRound start visit (place, data) = .inl (next, (visit v data).2)) :
    t.Makes start visit place (v :: rest) := by
  intro data
  rw [perform]
  split
  next hret => exact .of_exit (hstop data hret)
  next hret => exact .of_next (hgo data (not_not.mp hret)) (h _)

lemma Makes.down (h : t.Makes start visit (.loop g (t.children g)) rest) :
    t.Makes start visit (.down g) (.down g :: rest) :=
  h.cons (fun _ hret => if_pos hret) fun _ hret => if_neg (not_not.mpr hret)

/-- The loop over the children, given what the walk does below each of them and at the end. -/
lemma makes_loop (before : List G) {left : List G} (hlist : t.children g = before ++ left)
    (hchild : ∀ c ∈ t.children g, ∀ rest, t.Makes start visit (.loop g ((t.children g).dropWhile (· ≠ c)).tail) rest →
      t.Makes start visit (.down c) (t.calls c ++ rest))
    (hend : t.Makes start visit (.loop g []) (.up g :: rest)) :
    t.Makes start visit (.loop g left) (left.flatMap t.calls ++ .up g :: rest) := by
  induction left generalizing before with
  | nil => exact hend
  | cons c left ih =>
    intro data
    refine .of_next rfl ?_
    rw [flatMap_cons, append_assoc]
    refine hchild c (by simp [hlist]) _ ?_ data
    rw [tail_dropWhile hlist]
    exact ih (before ++ [c]) (by simp [hlist])

/-- The walk below a group, up to the jump back into the list of its parent. -/
lemma makes_down {p : G} (hp : g ∈ t.children p) (hlt : t.height g < t.height start)
    (hrest : t.Makes start visit (.loop p ((t.children p).dropWhile (· ≠ g)).tail) rest) :
    t.Makes start visit (.down g) (t.calls g ++ rest) := by
  induction h : t.height g using Nat.strong_induction_on generalizing g p rest with
  | _ n ih =>
    have hne : g ≠ start := fun heq => Nat.lt_irrefl _ (heq ▸ hlt)
    rw [calls_eq, cons_append, append_assoc, singleton_append]
    refine Makes.down (makes_loop [] rfl (fun c hc rest hrest => ?_) ?_)
    · exact ih _ (h ▸ t.height_lt hc) hc ((t.height_lt hc).trans hlt) hrest rfl
    · refine hrest.cons (fun _ hret => if_pos (.inl hret)) fun _ hret => ?_
      simp [walkRound, hret, hne, t.mem_children.mp hp]

/-- The walk returns. It makes the calls of the recursion, down before and up after those of the
children, until one does not return 0, and returns what that one did. Each group of the subtree has
one call of each kind, and no other group has any. -/
theorem walkTgTreeFrom_visits (t : TaskGroups G) (start : G) (visit : Visit G → σ → Int × σ) (data : σ) :
    Returns (t.walkRound start visit) (.down start, data) (perform visit (t.calls start) data) ∧
    (∀ g, t.calls g = .down g :: ((t.children g).flatMap t.calls ++ [.up g])) ∧ (t.calls start).Nodup ∧ ∀ x,
    (.down x ∈ t.calls start ↔ t.Below start x) ∧ (.up x ∈ t.calls start ↔ t.Below start x) := by
  refine ⟨?_, fun g => calls_eq, nodup_calls, fun x => mem_calls⟩
  have hend : t.Makes start visit (.loop start []) [.up start] := by
    intro data
    refine .of_exit ?_
    rw [walkRound, if_pos (.inr rfl), perform]
    split
    next => rfl
    next hret => exact congrArg Sum.inr (Prod.ext (not_not.mp hret) rfl)
  rw [calls_eq]
  exact (makes_loop [] rfl (fun c hc rest => makes_down hc (t.height_lt hc)) hend).down data

end TaskGroups

end BigLittle.Core
