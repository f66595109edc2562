import Mathlib.Data.Fin.VecNotation
import Mathlib.Logic.Function.Basic
import BigLittle.Lib.RbTree
import BigLittle.Lib.Run
import BigLittle.Lib.Word

/-!
# The timeline of a queue

A `cfs_rq` keeps its waiting entities in a red-black tree ordered by `vruntime`, the
first of them in `rb_leftmost`, and the running entity outside the tree in `curr`.
Virtual time is a 64-bit counter that wraps, and two values are compared by the sign of
their difference, an order on values less than `2 ^ 63` apart.

The weighted time that the running entity has run is an argument of the operations that
ask for it, as is the part of a sleep that is forgiven; both can be any number. An
operation has no result where the source would follow a null pointer or remove a node
that is in no tree.
-/

namespace BigLittle.Cfs

open RbTree List
open Word (add isNegative sub toSigned wrap)

variable {E Q : Type*}

def entityBefore (vruntime : E → Nat) (a b : E) : Bool :=
  isNegative 64 (sub 64 (vruntime a) (vruntime b))

def maxVruntime (max vruntime : Nat) : Nat :=
  if 0 < toSigned 64 (sub 64 vruntime max) then vruntime else max

def minVruntime (min vruntime : Nat) : Nat :=
  if toSigned 64 (sub 64 vruntime min) < 0 then vruntime else min

/-- The part of `struct cfs_rq` that orders its entities. -/
structure Timeline (E : Type*) where
  tasksTimeline : RbTree.Tree E
  rbLeftmost : Option E
  curr : Option E
  minVruntime : Nat

namespace Timeline

/-- `__enqueue_entity` -/
def enqueueEntity (vruntime : E → Nat) (t : Timeline E) (e : E) : Option (Timeline E) :=
  let (link, leftmost) := descendRoot (entityBefore vruntime e) t.tasksTimeline
  (RbTree.insert link e).map fun tree =>
    { t with
      tasksTimeline := tree
      rbLeftmost := if leftmost then some e else t.rbLeftmost }

/-- `__dequeue_entity` -/
def dequeueEntity [DecidableEq E] (t : Timeline E) (e : E) : Option (Timeline E) :=
  (find e [] t.tasksTimeline).bind fun node =>
    node.erase.map fun tree =>
      { t with
        tasksTimeline := tree
        rbLeftmost := if t.rbLeftmost = some e then node.next else t.rbLeftmost }

def updateMinVruntime (vruntime : E → Nat) (t : Timeline E) : Timeline E :=
  let next := match t.curr, t.rbLeftmost with
    | none, none => t.minVruntime
    | some c, none => vruntime c
    | none, some e => vruntime e
    | some c, some e => Cfs.minVruntime (vruntime c) (vruntime e)
  { t with minVruntime := maxVruntime t.minVruntime next }

/-- The tree holds the members once each and in order, and the first is cached. -/
structure Holds (vruntime : E → Nat) (member : E → Prop) (t : Timeline E) : Prop where
  redBlack : RedBlack t.tasksTimeline
  sorted : t.tasksTimeline.toList.Pairwise fun a b => entityBefore vruntime b a = false
  leftmost : t.rbLeftmost = t.tasksTimeline.toList.head?
  nodup : t.tasksTimeline.toList.Nodup
  mem : ∀ e, e ∈ t.tasksTimeline.toList ↔ member e

end Timeline

/-- The values are those of integers less than `2 ^ 63` apart. -/
def Within (vruntime : E → Nat) (member : E → Prop) : Prop :=
  ∃ base, ∀ e, member e → sub 64 (vruntime e) base < 2 ^ 63

section Order

variable {vruntime vruntime' : E → Nat} {member : E → Prop} {a b c : E}

lemma entityBefore_iff {base : Nat} (ha : sub 64 (vruntime a) base < 2 ^ 63) (hb : sub 64 (vruntime b) base < 2 ^ 63) :
    entityBefore vruntime a b = true ↔ sub 64 (vruntime a) base < sub 64 (vruntime b) base := by
  rw [entityBefore, isNegative, decide_eq_true_iff]
  simp only [sub, wrap] at *
  omega

lemma entityBefore_self (vruntime : E → Nat) (a : E) : entityBefore vruntime a a = false := by
  rw [entityBefore, isNegative, decide_eq_false_iff_not]
  simp only [sub, wrap]
  omega

lemma Within.mono (h : Within vruntime member) {member' : E → Prop}
    (imp : ∀ e, member' e → member e) : Within vruntime member' := by
  obtain ⟨base, hbase⟩ := h
  exact ⟨base, fun e he => hbase e (imp e he)⟩

lemma Within.before_asymm (h : Within vruntime member) (ha : member a) (hb : member b)
    (hab : entityBefore vruntime a b = true) : entityBefore vruntime b a = false := by
  obtain ⟨base, hbase⟩ := h
  rw [entityBefore_iff (hbase a ha) (hbase b hb)] at hab
  rw [← Bool.not_eq_true, entityBefore_iff (hbase b hb) (hbase a ha)]
  exact Nat.lt_asymm hab

lemma Within.before_of_before (h : Within vruntime member) (ha : member a) (hb : member b)
    (hc : member c) (hab : entityBefore vruntime a b = true)
    (hcb : entityBefore vruntime c b = false) : entityBefore vruntime a c = true := by
  obtain ⟨base, hbase⟩ := h
  rw [entityBefore_iff (hbase a ha) (hbase b hb)] at hab
  rw [← Bool.not_eq_true, entityBefore_iff (hbase c hc) (hbase b hb)] at hcb
  rw [entityBefore_iff (hbase a ha) (hbase c hc)]
  exact Nat.lt_of_lt_of_le hab (Nat.not_lt.mp hcb)

end Order

namespace Timeline

variable {vruntime vruntime' : E → Nat} {member member' : E → Prop} {t : Timeline E} {e : E}

lemma enqueueEntity_eq_some {t' : Timeline E} (h : t.enqueueEntity vruntime e = some t') :
    ∃ link leftmost tree, descendRoot (entityBefore vruntime e) t.tasksTimeline = (link, leftmost) ∧
      RbTree.insert link e = some tree ∧
      t' = { t with
        tasksTimeline := tree
        rbLeftmost := if leftmost then some e else t.rbLeftmost } := by
  obtain ⟨tree, hinsert, ht'⟩ := Option.map_eq_some_iff.mp h
  exact ⟨_, _, tree, rfl, hinsert, ht'.symm⟩

/-- The insertion does not depend on the order to succeed. -/
lemma exists_enqueueEntity (vruntime : E → Nat) (e : E) (h : RedBlack t.tasksTimeline) :
    ∃ t', t.enqueueEntity vruntime e = some t' := by
  have hlink : RedBlack (plug (descendRoot (entityBefore vruntime e) t.tasksTimeline).1 .leaf) := by
    rwa [plug_descendRoot]
  obtain ⟨tree, htree, -⟩ := exists_insert hlink e
  exact ⟨_, congrArg (Option.map _) htree⟩

namespace Holds

lemma congr (h : t.Holds vruntime member) (hmem : ∀ e, member e ↔ member' e)
    (hvruntime : ∀ e, member e → vruntime' e = vruntime e) : t.Holds vruntime' member' := by
  refine ⟨h.redBlack, ?_, h.leftmost, h.nodup, fun e => (h.mem e).trans (hmem e)⟩
  refine h.sorted.imp_of_mem fun {a b} ha hb hab => ?_
  rwa [entityBefore, hvruntime a ((h.mem a).mp ha), hvruntime b ((h.mem b).mp hb)]

lemma updateMinVruntime (h : t.Holds vruntime member) : (t.updateMinVruntime vruntime).Holds vruntime member :=
  ⟨h.redBlack, h.sorted, h.leftmost, h.nodup, h.mem⟩

lemma setCurr (h : t.Holds vruntime member) (curr : Option E) : { t with curr := curr }.Holds vruntime member :=
  ⟨h.redBlack, h.sorted, h.leftmost, h.nodup, h.mem⟩

/-- One more entity, after those that are not later and before those that are not
earlier. -/
lemma put {t' : Timeline E} {xs ys : List E} (h : t.Holds vruntime member) (he : ¬member e)
    (hlist : t.tasksTimeline.toList = xs ++ ys) (hlist' : t'.tasksTimeline.toList = xs ++ e :: ys)
    (hxs : ∀ x ∈ xs, entityBefore vruntime e x = false) (hys : ∀ y ∈ ys, entityBefore vruntime y e = false)
    (hredBlack : RedBlack t'.tasksTimeline) (hleftmost : t'.rbLeftmost = t'.tasksTimeline.toList.head?) :
    t'.Holds vruntime fun x => x = e ∨ member x := by
  have hperm : t'.tasksTimeline.toList.Perm (e :: t.tasksTimeline.toList) := by
    rw [hlist, hlist']
    exact perm_middle
  have hsorted := h.sorted
  rw [hlist, pairwise_append] at hsorted
  obtain ⟨hsortedX, hsortedY, hcross⟩ := hsorted
  refine ⟨hredBlack, ?_, hleftmost, ?_, ?_⟩
  · rw [hlist', pairwise_append]
    refine ⟨hsortedX, pairwise_cons.mpr ⟨hys, hsortedY⟩, ?_⟩
    rintro x hx y (_ | ⟨_, hy⟩)
    · exact hxs x hx
    · exact hcross x hx y hy
  · rw [hperm.nodup_iff, nodup_cons, h.mem]
    exact ⟨he, h.nodup⟩
  · intro x
    rw [hperm.mem_iff, mem_cons, h.mem]

/-- One entity less. -/
lemma take {t' : Timeline E} {xs ys : List E} (h : t.Holds vruntime member)
    (hlist : t.tasksTimeline.toList = xs ++ e :: ys) (hlist' : t'.tasksTimeline.toList = xs ++ ys)
    (hredBlack : RedBlack t'.tasksTimeline) (hleftmost : t'.rbLeftmost = t'.tasksTimeline.toList.head?) :
    t'.Holds vruntime fun x => x ≠ e ∧ member x := by
  have hperm : t.tasksTimeline.toList.Perm (e :: t'.tasksTimeline.toList) := by
    rw [hlist, hlist']
    exact perm_middle
  have hsub : t'.tasksTimeline.toList.Sublist t.tasksTimeline.toList := by
    rw [hlist, hlist']
    exact List.Sublist.append_left (sublist_cons_self e ys) xs
  have hnodup := hperm.nodup_iff.mp h.nodup
  refine ⟨hredBlack, h.sorted.sublist hsub, hleftmost, hnodup.of_cons, ?_⟩
  intro x
  rw [← h.mem, hperm.mem_iff, mem_cons]
  constructor
  · intro hx
    exact ⟨fun heq => (nodup_cons.mp hnodup).1 (heq ▸ hx), .inr hx⟩
  · rintro ⟨hne, hx⟩
    exact hx.resolve_left hne

/-- The new entity is the first exactly if the descent never turned right. -/
lemma enqueueEntity {t' : Timeline E} (h : t.Holds vruntime member) (he : ¬member e)
    (hwithin : Within vruntime fun x => x = e ∨ member x) (ht' : t.enqueueEntity vruntime e = some t') :
    t'.curr = t.curr ∧ t'.Holds vruntime fun x => x = e ∨ member x := by
  have hmember : ∀ x ∈ t.tasksTimeline.toList, x = e ∨ member x := by
    intro x hx
    exact .inr ((h.mem x).mp hx)
  have hmono : t.tasksTimeline.toList.Pairwise fun a b =>
      entityBefore vruntime e a = true → entityBefore vruntime e b = true := by
    refine h.sorted.imp_of_mem ?_
    intro a b ha hb hba hea
    exact hwithin.before_of_before (.inl rfl) (hmember a ha) (hmember b hb) hea hba
  obtain ⟨link, leftmost, tree, hlink, hinsert, rfl⟩ := enqueueEntity_eq_some ht'
  obtain ⟨hplug, hfirst, hbefore, hafter⟩ := descendRoot_spec hmono hlink
  have hlist : t.tasksTimeline.toList = before link ++ after link := by
    rw [← hplug, toList_plug]
    simp [RbTree.Tree.toList]
  have htree := insert_toList hinsert
  obtain ⟨tree', hinsert', hredBlack⟩ := exists_insert (hplug ▸ h.redBlack) e
  obtain rfl := Option.some.inj (hinsert.symm.trans hinsert')
  refine ⟨rfl, h.put he hlist htree hbefore ?_ hredBlack ?_⟩
  · intro y hy
    have hmem : y ∈ t.tasksTimeline.toList := hlist ▸ mem_append_right _ hy
    exact hwithin.before_asymm (.inl rfl) (hmember y hmem) (hafter y hy)
  · dsimp only
    rw [htree]
    cases hb : before link with
    | nil => rw [if_pos (hfirst.mpr hb), nil_append, head?_cons]
    | cons x xs =>
      have hneg : ¬leftmost = true := by
        rw [hfirst, hb]
        exact cons_ne_nil x xs
      rw [if_neg hneg, h.leftmost, hlist, hb]
      rfl

/-- An entity that is the first gives its place to the next. -/
lemma dequeueEntity [DecidableEq E] (h : t.Holds vruntime member) (he : member e) :
    ∃ t', t.dequeueEntity e = some t' ∧ t'.curr = t.curr ∧ t'.Holds vruntime fun x => x ≠ e ∧ member x := by
  obtain ⟨node, hfind⟩ := find_of_mem [] ((h.mem e).mpr he)
  obtain ⟨helem, hplug⟩ := find_spec hfind
  obtain ⟨tree, herase, hredBlack⟩ := node.erase_redBlack (hplug ▸ h.redBlack)
  have hlist : t.tasksTimeline.toList =
      (before node.trail ++ node.left.toList) ++ e :: (node.right.toList ++ after node.trail) := by
    rw [← show plug [] t.tasksTimeline = t.tasksTimeline from rfl, ← hplug, toList_plug, ← helem]
    simp [Focus.tree, RbTree.Tree.toList]
  have htree : tree.toList = (before node.trail ++ node.left.toList) ++ (node.right.toList ++ after node.trail) := by
    rw [node.erase_toList herase]
    simp
  rw [Timeline.dequeueEntity, hfind, Option.bind_some, herase]
  refine ⟨_, rfl, rfl, h.take hlist htree hredBlack ?_⟩
  dsimp only
  rw [htree, h.leftmost, hlist, node.next_eq]
  cases hxs : before node.trail ++ node.left.toList with
  | nil => rw [nil_append, head?_cons, if_pos rfl, nil_append]
  | cons x xs =>
    have hne : x ≠ e := by
      rintro rfl
      have hnodup := h.nodup
      rw [hlist, hxs, cons_append, nodup_cons] at hnodup
      exact hnodup.1 (mem_append_right _ mem_cons_self)
    rw [cons_append, cons_append, head?_cons, head?_cons,
      if_neg (fun heq => hne (Option.some.inj heq))]

end Holds

end Timeline

structure TimelineState (E Q : Type*) where
  cfsRqOf : E → Q
  vruntime : E → Nat
  onRq : E → Bool
  cfs : Q → Timeline E

/-- The operations on a queue, and what else happens to an entity that is in no tree:
its `vruntime` is written, or it goes to another queue. -/
inductive TimelineOp (E Q : Type*) where
  | enqueue (e : E) (wakeup waking : Bool) (ran : Option Nat) (thresh : Nat)
  | dequeue (e : E) (sleep : Bool) (ran : Option Nat)
  | setNext (e : E)
  | putPrev (e : E) (ran : Option Nat)
  | updateCurr (q : Q) (ran : Option Nat)
  | setVruntime (e : E) (v : Nat)
  | setCfsRq (e : E) (q : Q)

namespace TimelineState

variable [DecidableEq E] [DecidableEq Q] (s : TimelineState E Q) (e : E) (q : Q)

def setVruntime (v : Nat) : TimelineState E Q :=
  { s with vruntime := Function.update s.vruntime e v }

def setOnRq (onRq : Bool) : TimelineState E Q :=
  { s with onRq := Function.update s.onRq e onRq }

def setCfs (t : Timeline E) : TimelineState E Q :=
  { s with cfs := Function.update s.cfs q t }

def updateMinVruntime : TimelineState E Q :=
  s.setCfs q ((s.cfs q).updateMinVruntime s.vruntime)

/-- `update_curr`; `ran` is the weighted time to charge, if the clock has moved. -/
def updateCurr (ran : Option Nat) : TimelineState E Q :=
  match (s.cfs q).curr, ran with
  | some curr, some delta =>
    (s.setVruntime curr (add 64 (s.vruntime curr) delta)).updateMinVruntime q
  | _, _ => s

/-- `place_entity` of an entity that wakes up. -/
def placeEntity (e : E) (thresh : Nat) : TimelineState E Q :=
  s.setVruntime e (maxVruntime (s.vruntime e) (sub 64 (s.cfs q).minVruntime thresh))

/-- `__enqueue_entity` -/
def linkEntity (e : E) : Option (TimelineState E Q) :=
  ((s.cfs q).enqueueEntity s.vruntime e).map (s.setCfs q)

/-- `__dequeue_entity` -/
def unlinkEntity (e : E) : Option (TimelineState E Q) :=
  ((s.cfs q).dequeueEntity e).map (s.setCfs q)

/-- `enqueue_entity`, up to the insertion. -/
def placeEnqueued (wakeup waking : Bool) (ran : Option Nat) (thresh : Nat) : TimelineState E Q :=
  let q := s.cfsRqOf e
  let s := if !wakeup || waking then
      s.setVruntime e (add 64 (s.vruntime e) (s.cfs q).minVruntime)
    else s
  let s := s.updateCurr q ran
  if wakeup then s.placeEntity q e thresh else s

def enqueueEntity (wakeup waking : Bool) (ran : Option Nat) (thresh : Nat) : Option (TimelineState E Q) :=
  let q := s.cfsRqOf e
  let s := s.placeEnqueued e wakeup waking ran thresh
  (if (s.cfs q).curr ≠ some e then s.linkEntity q e else some s).map (·.setOnRq e true)

def dequeueEntity (sleep : Bool) (ran : Option Nat) : Option (TimelineState E Q) :=
  let q := s.cfsRqOf e
  let s := s.updateCurr q ran
  (if (s.cfs q).curr ≠ some e then s.unlinkEntity q e else some s).map fun s =>
    let s := s.setOnRq e false
    let s := if !sleep then s.setVruntime e (sub 64 (s.vruntime e) (s.cfs q).minVruntime)
      else s
    s.updateMinVruntime q

def setCurr (curr : Option E) : TimelineState E Q :=
  s.setCfs q { s.cfs q with curr := curr }

def setNextEntity : Option (TimelineState E Q) :=
  let q := s.cfsRqOf e
  (if s.onRq e then s.unlinkEntity q e else some s).map (·.setCurr q (some e))

def putPrevEntity (ran : Option Nat) : Option (TimelineState E Q) :=
  let q := s.cfsRqOf e
  (if s.onRq e then (s.updateCurr q ran).linkEntity q e else some s).map (·.setCurr q none)

def apply : TimelineOp E Q → Option (TimelineState E Q)
  | .enqueue e wakeup waking ran thresh => s.enqueueEntity e wakeup waking ran thresh
  | .dequeue e sleep ran => s.dequeueEntity e sleep ran
  | .setNext e => s.setNextEntity e
  | .putPrev e ran => s.putPrevEntity e ran
  | .updateCurr q ran => some (s.updateCurr q ran)
  | .setVruntime e v => some (s.setVruntime e v)
  | .setCfsRq e q => some { s with cfsRqOf := Function.update s.cfsRqOf e q }

/-- A step of a run; nothing follows a failure. -/
def step (s : Option (TimelineState E Q)) (op : TimelineOp E Q) : Option (TimelineState E Q) :=
  s.bind (·.apply op)

end TimelineState

namespace TimelineState

variable (s : TimelineState E Q)

def Waiting (q : Q) (e : E) : Prop :=
  s.onRq e = true ∧ s.cfsRqOf e = q ∧ (s.cfs q).curr ≠ some e

def Absent (e : E) : Prop :=
  s.onRq e = true → (s.cfs (s.cfsRqOf e)).curr = some e

/-- On every queue the values of `vruntime` are less than `2 ^ 63` apart. -/
def Spread : Prop :=
  ∀ q, Within s.vruntime fun e => s.onRq e = true ∧ s.cfsRqOf e = q

/-- The tree of the queue holds the queued entities other than the running one, once
each, and `rb_leftmost` is the first of them by the sign of the difference. -/
structure Exact (s : TimelineState E Q) (q : Q) : Prop where
  mem : ∀ e, e ∈ (s.cfs q).tasksTimeline.toList ↔
    s.onRq e = true ∧ s.cfsRqOf e = q ∧ (s.cfs q).curr ≠ some e
  nodup : (s.cfs q).tasksTimeline.toList.Nodup
  leftmost_eq_none : (s.cfs q).rbLeftmost = none ↔ (s.cfs q).tasksTimeline = .leaf
  leftmost_least : ∀ e, (s.cfs q).rbLeftmost = some e → e ∈ (s.cfs q).tasksTimeline.toList ∧
    ∀ x ∈ (s.cfs q).tasksTimeline.toList, entityBefore s.vruntime x e = false

structure Inv (s : TimelineState E Q) : Prop where
  holds : ∀ q, (s.cfs q).Holds s.vruntime (s.Waiting q)
  curr : ∀ q e, (s.cfs q).curr = some e → s.cfsRqOf e = q

/-- Virtual time moved on: nothing was queued, dequeued or switched to. -/
structure Advances (s s' : TimelineState E Q) : Prop where
  onRq : s'.onRq = s.onRq
  cfsRqOf : s'.cfsRqOf = s.cfsRqOf
  curr : ∀ q, (s'.cfs q).curr = (s.cfs q).curr
  inv : s.Inv → s'.Inv

variable {s s' s'' : TimelineState E Q} {q : Q} {e : E}

lemma Absent.not_waiting (h : s.Absent e) (q : Q) : ¬s.Waiting q e := by
  rintro ⟨hon, rfl, hcurr⟩
  exact hcurr (h hon)

namespace Advances

lemma refl (s : TimelineState E Q) : Advances s s := ⟨rfl, rfl, fun _ => rfl, id⟩

lemma trans (h : Advances s s') (h' : Advances s' s'') : Advances s s'' := by
  refine ⟨h'.onRq.trans h.onRq, h'.cfsRqOf.trans h.cfsRqOf, ?_, h'.inv ∘ h.inv⟩
  intro q
  exact (h'.curr q).trans (h.curr q)

lemma absent (h : Advances s s') (he : s.Absent e) : s'.Absent e := by
  rwa [Absent, h.onRq, h.cfsRqOf, h.curr]

end Advances

/-- The running entity is in no tree. -/
lemma Inv.curr_absent (hs : s.Inv) (h : (s.cfs q).curr = some e) : s.Absent e := by
  intro _
  rw [hs.curr q e h, h]

section

variable [DecidableEq E]

lemma setVruntime_advances (he : s.Absent e) (v : Nat) : Advances s (s.setVruntime e v) := by
  refine ⟨rfl, rfl, fun _ => rfl, fun hs => ⟨?_, hs.curr⟩⟩
  intro q
  refine (hs.holds q).congr (fun _ => Iff.rfl) ?_
  intro x hx
  apply Function.update_of_ne
  rintro rfl
  exact he.not_waiting q hx

@[simp] lemma setOnRq_self (b : Bool) : (s.setOnRq e b).onRq e = b := by
  simp [setOnRq]

lemma setOnRq_of_ne {x : E} (b : Bool) (h : x ≠ e) : (s.setOnRq e b).onRq x = s.onRq x := by
  simp [setOnRq, h]

lemma setOnRq_of_onRq {x : E} (h : s.onRq x = true) : (s.setOnRq e true).onRq x = true := by
  simp [setOnRq, Function.update_apply, h]

lemma absent_of_setOnRq (s : TimelineState E Q) (e : E) : (s.setOnRq e false).Absent e := by
  intro hon
  rw [setOnRq_self] at hon
  cases hon

end

variable [DecidableEq Q]

/-- Only the queue `q` and the entities on it changed. -/
lemma Inv.replace (hs : s.Inv) (q : Q) (hcfs : ∀ q', q' ≠ q → s'.cfs q' = s.cfs q')
    (hvruntime : s'.vruntime = s.vruntime) (hcfsRqOf : s'.cfsRqOf = s.cfsRqOf)
    (honRq : ∀ x, s.cfsRqOf x ≠ q → s'.onRq x = s.onRq x) (hcurr : ∀ x, (s'.cfs q).curr = some x → s.cfsRqOf x = q)
    (hq : (s'.cfs q).Holds s.vruntime (s'.Waiting q)) : s'.Inv := by
  constructor
  · intro q'
    by_cases hne : q' = q
    · rwa [hne, hvruntime]
    · rw [hcfs q' hne]
      refine (hs.holds q').congr ?_ fun x _ => congrFun hvruntime x
      intro x
      rw [Waiting, Waiting, hcfs q' hne, hcfsRqOf]
      refine and_congr_left fun hx => ?_
      rw [honRq x (hx.1 ▸ hne)]
  · intro q' x hx
    rw [hcfsRqOf]
    by_cases hne : q' = q
    · rw [hne]
      exact hcurr x (hne ▸ hx)
    · exact hs.curr q' x (hcfs q' hne ▸ hx)

@[simp] lemma setCfs_self (t : Timeline E) : (s.setCfs q t).cfs q = t := by
  simp [setCfs]

lemma setCfs_of_ne {q' : Q} (t : Timeline E) (h : q' ≠ q) : (s.setCfs q t).cfs q' = s.cfs q' := by
  simp [setCfs, h]

lemma setCfs_same (q : Q) : s.setCfs q (s.cfs q) = s := by
  simp [setCfs]

lemma setCfs_curr {t : Timeline E} (h : t.curr = (s.cfs q).curr) (q' : Q) :
    ((s.setCfs q t).cfs q').curr = (s.cfs q').curr := by
  by_cases hq : q' = q
  · rw [hq, setCfs_self, h]
  · rw [setCfs_of_ne t hq]

lemma updateMinVruntime_advances (s : TimelineState E Q) (q : Q) : Advances s (s.updateMinVruntime q) := by
  refine ⟨rfl, rfl, setCfs_curr rfl, fun hs => ?_⟩
  refine hs.replace q (fun q' => setCfs_of_ne _) rfl rfl (fun _ _ => rfl) ?_ ?_
  · rw [updateMinVruntime, setCfs_self]
    exact hs.curr q
  · rw [updateMinVruntime, setCfs_self]
    refine (hs.holds q).updateMinVruntime.congr ?_ fun _ _ => rfl
    intro x
    rw [Waiting, Waiting, setCfs_self]
    rfl

/-- An entity that is linked joins those that wait. -/
lemma Inv.linkEntity (hs : s.Inv) (he : s.Absent e) (q : Q) : ∃ t, s.linkEntity q e = some (s.setCfs q t) ∧
      ((Within s.vruntime fun x => x = e ∨ s.Waiting q x) →
        t.curr = (s.cfs q).curr ∧ t.Holds s.vruntime fun x => x = e ∨ s.Waiting q x) := by
  obtain ⟨t, ht⟩ := Timeline.exists_enqueueEntity s.vruntime e (hs.holds q).redBlack
  refine ⟨t, congrArg (Option.map _) ht, ?_⟩
  intro hwithin
  exact (hs.holds q).enqueueEntity (he.not_waiting q) hwithin ht

lemma setCfs_setCurr (t : Timeline E) (curr : Option E) :
    (s.setCfs q t).setCurr q curr = s.setCfs q { t with curr := curr } := by
  rw [setCurr, setCfs_self]
  simp [setCfs]

variable [DecidableEq E]

/-- The running entity may be charged: its place is not in the tree. -/
lemma updateCurr_advances (hs : s.Inv) (q : Q) (ran : Option Nat) : Advances s (s.updateCurr q ran) := by
  dsimp only [updateCurr]
  split
  · rename_i curr delta hcurr
    exact (setVruntime_advances (hs.curr_absent hcurr) _).trans (updateMinVruntime_advances _ q)
  · exact .refl s

lemma placeEnqueued_advances (hs : s.Inv) (he : s.Absent e) (wakeup waking : Bool) (ran : Option Nat)
    (thresh : Nat) : Advances s (s.placeEnqueued e wakeup waking ran thresh) := by
  obtain ⟨s₁, hs₁, hadvances⟩ : ∃ s₁, (if !wakeup || waking then
      s.setVruntime e (add 64 (s.vruntime e) (s.cfs (s.cfsRqOf e)).minVruntime)
    else s) = s₁ ∧ Advances s s₁ := by
    refine ⟨_, rfl, ?_⟩
    split
    · exact setVruntime_advances he _
    · exact .refl s
  have hcharged := hadvances.trans (updateCurr_advances (hadvances.inv hs) (s.cfsRqOf e) ran)
  rw [placeEnqueued, hs₁]
  split
  · exact hcharged.trans (setVruntime_advances (hcharged.absent he) _)
  · exact hcharged

lemma Inv.unlinkEntity (hs : s.Inv) (he : s.Waiting q e) : ∃ t, s.unlinkEntity q e = some (s.setCfs q t) ∧
    t.curr = (s.cfs q).curr ∧ t.Holds s.vruntime fun x => x ≠ e ∧ s.Waiting q x := by
  obtain ⟨t, ht, hcurr, hholds⟩ := (hs.holds q).dequeueEntity he
  exact ⟨t, congrArg (Option.map _) ht, hcurr, hholds⟩

/-- The entity `e` comes or goes, or the CPU switches to or from it, and the tree of its
queue follows. -/
lemma Inv.requeue (hs : s.Inv) {t : Timeline E} {member : E → Prop} (onRq : Bool) (ht : t.Holds s.vruntime member)
    (hcurr : ∀ x, t.curr = some x → s.cfsRqOf x = s.cfsRqOf e) (he : member e ↔ onRq = true ∧ t.curr ≠ some e)
    (hother : ∀ x, x ≠ e → (member x ↔ s.onRq x = true ∧ s.cfsRqOf x = s.cfsRqOf e ∧ t.curr ≠ some x)) :
    ((s.setCfs (s.cfsRqOf e) t).setOnRq e onRq).Inv := by
  refine hs.replace (s.cfsRqOf e) (fun q' => setCfs_of_ne t) rfl rfl ?_ ?_ ?_
  · intro x hx
    exact setOnRq_of_ne onRq (fun heq => hx (congrArg s.cfsRqOf heq))
  · intro x hx
    exact hcurr x (by simpa [setOnRq] using hx)
  · have hcfs : ((s.setCfs (s.cfsRqOf e) t).setOnRq e onRq).cfs (s.cfsRqOf e) = t := setCfs_self t
    rw [hcfs]
    refine ht.congr ?_ fun _ _ => rfl
    intro x
    rw [Waiting, hcfs]
    by_cases hx : x = e
    · rw [hx, setOnRq_self, he]
      exact and_congr_right' (iff_and_self.mpr fun _ => rfl)
    · rw [setOnRq_of_ne onRq hx]
      exact hother x hx

/-- The same without a change of `on_rq`. -/
lemma Inv.reseat (hs : s.Inv) {t : Timeline E} {member : E → Prop} (ht : t.Holds s.vruntime member)
    (hcurr : ∀ x, t.curr = some x → s.cfsRqOf x = s.cfsRqOf e) (he : member e ↔ s.onRq e = true ∧ t.curr ≠ some e)
    (hother : ∀ x, x ≠ e → (member x ↔ s.onRq x = true ∧ s.cfsRqOf x = s.cfsRqOf e ∧ t.curr ≠ some x)) :
    (s.setCfs (s.cfsRqOf e) t).Inv := by
  have hsame : (s.setCfs (s.cfsRqOf e) t).setOnRq e (s.onRq e) = s.setCfs (s.cfsRqOf e) t := by
    simp [setOnRq, setCfs]
  rw [← hsame]
  exact hs.requeue (s.onRq e) ht hcurr he hother

/-- `enqueue_entity` of an entity that is not queued. -/
lemma Inv.enqueueEntity (hs : s.Inv) (he : s.onRq e = false) (wakeup waking : Bool) (ran : Option Nat)
    (thresh : Nat) (hspread : ∀ s', s.enqueueEntity e wakeup waking ran thresh = some s' → s'.Spread) :
    ∃ s', s.enqueueEntity e wakeup waking ran thresh = some s' ∧ s'.Inv := by
  have habsent : s.Absent e := by
    intro hon
    rw [he] at hon
    cases hon
  have hadvances := placeEnqueued_advances hs habsent wakeup waking ran thresh
  rw [TimelineState.enqueueEntity] at hspread ⊢
  generalize s.placeEnqueued e wakeup waking ran thresh = s₁ at hadvances hspread ⊢
  have hs₁ := hadvances.inv hs
  rw [← hadvances.cfsRqOf] at hspread ⊢
  by_cases hcurr : (s₁.cfs (s₁.cfsRqOf e)).curr = some e
  · -- the running entity stays out of the tree
    rw [if_neg (not_not.mpr hcurr)]
    have hinv := hs₁.requeue (e := e) true (hs₁.holds (s₁.cfsRqOf e)) (hs₁.curr _)
      (iff_of_false (fun h => h.2.2 hcurr) fun h => h.2 hcurr) fun x _ => Iff.rfl
    rw [setCfs_same] at hinv
    exact ⟨_, rfl, hinv⟩
  · rw [if_pos hcurr] at hspread ⊢
    obtain ⟨t, hlink, ht⟩ := hs₁.linkEntity (hadvances.absent habsent) (s₁.cfsRqOf e)
    rw [hlink] at hspread ⊢
    have hwithin : Within s₁.vruntime fun x => x = e ∨ s₁.Waiting (s₁.cfsRqOf e) x := by
      refine (hspread _ rfl (s₁.cfsRqOf e)).mono ?_
      rintro x (rfl | hx)
      · exact ⟨setOnRq_self true, rfl⟩
      · exact ⟨setOnRq_of_onRq hx.1, hx.2.1⟩
    obtain ⟨htcurr, hholds⟩ := ht hwithin
    refine ⟨_, rfl, hs₁.requeue true hholds ?_ ?_ ?_⟩
    · rw [htcurr]
      exact hs₁.curr _
    · rw [htcurr]
      exact iff_of_true (.inl rfl) ⟨rfl, hcurr⟩
    · intro x hx
      rw [htcurr, or_iff_right hx]
      rfl

/-- What follows the removal in `dequeue_entity` only moves virtual time. -/
lemma Inv.normalize (hs : s.Inv) (he : s.Absent e) (q : Q) (sleep : Bool) :
    ((if !sleep then s.setVruntime e (sub 64 (s.vruntime e) (s.cfs q).minVruntime)
      else s).updateMinVruntime q).Inv := by
  apply (updateMinVruntime_advances _ _).inv
  split
  · exact (setVruntime_advances he _).inv hs
  · exact hs

/-- `dequeue_entity` of a queued entity. -/
lemma Inv.dequeueEntity (hs : s.Inv) (he : s.onRq e = true) (sleep : Bool) (ran : Option Nat) :
    ∃ s', s.dequeueEntity e sleep ran = some s' ∧ s'.Inv := by
  have hadvances := updateCurr_advances hs (s.cfsRqOf e) ran
  rw [TimelineState.dequeueEntity]
  generalize s.updateCurr (s.cfsRqOf e) ran = s₁ at hadvances ⊢
  have hs₁ := hadvances.inv hs
  rw [← hadvances.cfsRqOf]
  by_cases hcurr : (s₁.cfs (s₁.cfsRqOf e)).curr = some e
  · rw [if_neg (not_not.mpr hcurr)]
    have hinv := hs₁.requeue (e := e) false (hs₁.holds (s₁.cfsRqOf e)) (hs₁.curr _)
      (iff_of_false (fun h => h.2.2 hcurr) fun h => h.2 hcurr) fun x _ => Iff.rfl
    rw [setCfs_same] at hinv
    exact ⟨_, rfl, hinv.normalize (absent_of_setOnRq s₁ e) _ sleep⟩
  · rw [if_pos hcurr]
    have hon : s₁.onRq e = true := by
      rwa [hadvances.onRq]
    obtain ⟨t, hunlink, htcurr, hholds⟩ := hs₁.unlinkEntity ⟨hon, rfl, hcurr⟩
    rw [hunlink]
    refine ⟨_, rfl, Inv.normalize ?_ (absent_of_setOnRq _ e) _ sleep⟩
    refine hs₁.requeue false hholds ?_ ?_ ?_
    · rw [htcurr]
      exact hs₁.curr _
    · exact iff_of_false (fun h => h.1 rfl) fun h => nomatch h.1
    · intro x hx
      rw [htcurr, and_iff_right hx]
      rfl

/-- `set_next_entity` when nothing runs. -/
lemma Inv.setNextEntity (hs : s.Inv) (hcurr : (s.cfs (s.cfsRqOf e)).curr = none) :
    ∃ s', s.setNextEntity e = some s' ∧ s'.Inv := by
  have hnone : ∀ x, (s.cfs (s.cfsRqOf e)).curr ≠ some x := by
    intro x
    rw [hcurr]
    exact nofun
  have hrest : ∀ x, x ≠ e → (s.Waiting (s.cfsRqOf e) x ↔
      s.onRq x = true ∧ s.cfsRqOf x = s.cfsRqOf e ∧ some e ≠ some x) := by
    intro x hx
    refine and_congr_right' (and_congr_right' (iff_of_true (hnone x) ?_))
    rintro ⟨⟩
    exact hx rfl
  rw [TimelineState.setNextEntity]
  by_cases hon : s.onRq e = true
  · obtain ⟨t, hunlink, htcurr, hholds⟩ := hs.unlinkEntity ⟨hon, rfl, hnone e⟩
    rw [if_pos hon, hunlink, Option.map_some, setCfs_setCurr]
    refine ⟨_, rfl, hs.reseat (hholds.setCurr _) ?_ ?_ ?_⟩
    · rintro x ⟨⟩
      rfl
    · exact iff_of_false (fun h => h.1 rfl) fun h => h.2 rfl
    · intro x hx
      exact (and_iff_right hx).trans (hrest x hx)
  · rw [if_neg hon, Option.map_some]
    refine ⟨_, rfl, hs.reseat ((hs.holds _).setCurr _) ?_ ?_ ?_⟩
    · rintro x ⟨⟩
      rfl
    · exact iff_of_false (fun h => hon h.1) fun h => h.2 rfl
    · exact hrest

/-- `put_prev_entity` of the running entity. -/
lemma Inv.putPrevEntity (hs : s.Inv) (hcurr : (s.cfs (s.cfsRqOf e)).curr = some e) (ran : Option Nat)
    (hspread : ∀ s', s.putPrevEntity e ran = some s' → s'.Spread) : ∃ s', s.putPrevEntity e ran = some s' ∧ s'.Inv := by
  have hrest : ∀ s₁ : TimelineState E Q, (s₁.cfs (s₁.cfsRqOf e)).curr = some e → ∀ x, x ≠ e →
      (s₁.Waiting (s₁.cfsRqOf e) x ↔ s₁.onRq x = true ∧ s₁.cfsRqOf x = s₁.cfsRqOf e ∧ none ≠ some x) := by
    intro s₁ hs₁ x hx
    refine and_congr_right' (and_congr_right' (iff_of_true ?_ nofun))
    rw [hs₁]
    rintro ⟨⟩
    exact hx rfl
  rw [TimelineState.putPrevEntity] at hspread ⊢
  by_cases hon : s.onRq e = true
  · have hadvances := updateCurr_advances hs (s.cfsRqOf e) ran
    rw [if_pos hon] at hspread ⊢
    generalize s.updateCurr (s.cfsRqOf e) ran = s₁ at hadvances hspread ⊢
    have hs₁ := hadvances.inv hs
    rw [← hadvances.onRq] at hon
    rw [← hadvances.cfsRqOf, ← hadvances.curr] at hcurr
    rw [← hadvances.cfsRqOf] at hspread ⊢
    obtain ⟨t, hlink, ht⟩ := hs₁.linkEntity (fun _ => hcurr) (s₁.cfsRqOf e)
    rw [hlink, Option.map_some, setCfs_setCurr] at hspread ⊢
    have hwithin : Within s₁.vruntime fun x => x = e ∨ s₁.Waiting (s₁.cfsRqOf e) x := by
      refine (hspread _ rfl (s₁.cfsRqOf e)).mono ?_
      rintro x (rfl | hx)
      · exact ⟨hon, rfl⟩
      · exact ⟨hx.1, hx.2.1⟩
    refine ⟨_, rfl, hs₁.reseat ((ht hwithin).2.setCurr none) nofun ?_ ?_⟩
    · exact iff_of_true (.inl rfl) ⟨hon, nofun⟩
    · intro x hx
      exact (or_iff_right hx).trans (hrest s₁ hcurr x hx)
  · rw [if_neg hon, Option.map_some]
    refine ⟨_, rfl, hs.reseat ((hs.holds _).setCurr none) nofun ?_ (hrest s hcurr)⟩
    exact iff_of_false (fun h => hon h.1) fun h => hon h.1

end TimelineState

namespace TimelineOp

variable [DecidableEq E] [DecidableEq Q]

/-- What the callers guarantee. They enqueue what is not queued and dequeue what is, and switch to
an entity when the queue runs none, and from the one that it runs. `vruntime` is written elsewhere
only while the entity is in no tree, and an entity changes queues only while it is off the queue and
not running. -/
def Allowed (s : TimelineState E Q) : TimelineOp E Q → Prop
  | .enqueue e _ _ _ _ => s.onRq e = false
  | .dequeue e _ _ => s.onRq e = true
  | .setNext e => (s.cfs (s.cfsRqOf e)).curr = none
  | .putPrev e _ => (s.cfs (s.cfsRqOf e)).curr = some e
  | .updateCurr _ _ => True
  | .setVruntime e _ => s.onRq e = false ∨ (s.cfs (s.cfsRqOf e)).curr = some e
  | .setCfsRq e _ => s.onRq e = false ∧ (s.cfs (s.cfsRqOf e)).curr ≠ some e

instance (s : TimelineState E Q) (op : TimelineOp E Q) : Decidable (op.Allowed s) := by
  cases op <;> dsimp only [TimelineOp.Allowed] <;> infer_instance

end TimelineOp

namespace TimelineState

variable {s : TimelineState E Q} {q : Q} {e : E}

/-- All queues are empty. -/
def Fresh (s : TimelineState E Q) : Prop :=
  (∀ q, (s.cfs q).tasksTimeline = .leaf ∧ (s.cfs q).rbLeftmost = none ∧ (s.cfs q).curr = none) ∧ ∀ e, s.onRq e = false

lemma Fresh.inv (h : s.Fresh) : s.Inv := by
  obtain ⟨hcfs, honRq⟩ := h
  constructor
  · intro q
    obtain ⟨htree, hleftmost, -⟩ := hcfs q
    refine ⟨?_, ?_, ?_, ?_, ?_⟩
    · exact ⟨0, htree ▸ .leaf⟩
    · rw [htree]
      exact .nil
    · rw [htree, hleftmost]
      rfl
    · rw [htree]
      exact .nil
    · intro e
      rw [htree]
      exact iff_of_false nofun fun h => nomatch (honRq e).symm.trans h.1
  · intro q e he
    rw [(hcfs q).2.2] at he
    cases he

lemma Inv.exact (hs : s.Inv) (q : Q) : s.Exact q := by
  have h := hs.holds q
  refine ⟨h.mem, h.nodup, ?_, ?_⟩
  · rw [h.leftmost, head?_eq_none_iff]
    cases (s.cfs q).tasksTimeline with
    | leaf => exact iff_of_true rfl rfl
    | node c l a r => simp [RbTree.Tree.toList]
  · intro e he
    rw [h.leftmost] at he
    obtain ⟨rest, hlist⟩ : ∃ rest, (s.cfs q).tasksTimeline.toList = e :: rest :=
      head?_eq_some_iff.mp he
    have hsorted := h.sorted
    rw [hlist, pairwise_cons] at hsorted
    rw [hlist]
    refine ⟨mem_cons_self, ?_⟩
    rintro x (_ | ⟨_, hx⟩)
    · exact entityBefore_self s.vruntime e
    · exact hsorted.1 x hx

variable [DecidableEq E]

/-- An entity that is off the queue and not running may change queues. -/
lemma Inv.setCfsRq (hs : s.Inv) (he : s.onRq e = false) (hcurr : (s.cfs (s.cfsRqOf e)).curr ≠ some e) (q : Q) :
    Inv { s with cfsRqOf := Function.update s.cfsRqOf e q } := by
  have hne : ∀ q' x, (s.cfs q').curr = some x → x ≠ e := by
    rintro q' x hx rfl
    rw [hs.curr q' x hx] at hcurr
    exact hcurr hx
  constructor
  · intro q'
    refine (hs.holds q').congr ?_ fun _ _ => rfl
    intro x
    by_cases hx : x = e
    · subst hx
      exact iff_of_false (fun h => nomatch he.symm.trans h.1) fun h => nomatch he.symm.trans h.1
    · simp [Waiting, hx]
  · intro q' x hx
    dsimp only
    rw [Function.update_of_ne (hne q' x hx)]
    exact hs.curr q' x hx

variable [DecidableEq Q]

/-- Every operation keeps the invariant and does not fail. -/
lemma Inv.apply (hs : s.Inv) {op : TimelineOp E Q} (hallowed : op.Allowed s)
    (hspread : ∀ s', s.apply op = some s' → s'.Spread) : ∃ s', s.apply op = some s' ∧ s'.Inv := by
  cases op with
  | enqueue e wakeup waking ran thresh =>
    exact hs.enqueueEntity hallowed wakeup waking ran thresh hspread
  | dequeue e sleep ran => exact hs.dequeueEntity hallowed sleep ran
  | setNext e => exact hs.setNextEntity hallowed
  | putPrev e ran => exact hs.putPrevEntity hallowed ran hspread
  | updateCurr q ran => exact ⟨_, rfl, (updateCurr_advances hs q ran).inv hs⟩
  | setVruntime e v =>
    refine ⟨_, rfl, (setVruntime_advances ?_ v).inv hs⟩
    intro hon
    exact hallowed.resolve_left (by rw [hon]; exact nofun)
  | setCfsRq e q => exact ⟨_, rfl, hs.setCfsRq hallowed.1 hallowed.2 q⟩

/-- In every run from empty queues whose steps are allowed and in which the values of
`vruntime` on each queue stay within `2 ^ 63`, no operation fails and the timeline of
every queue is exact in every state. -/
theorem timeline_exact (s : TimelineState E Q) (ops : List (TimelineOp E Q)) (hs : s.Fresh)
    (hallowed : Run.Each step (fun o op => ∀ t ∈ o, op.Allowed t) (some s) ops)
    (hspread : Run.Always step (fun o => ∀ t ∈ o, t.Spread) (some s) ops) :
    Run.Always step (fun o => ∃ t, o = some t ∧ ∀ q, t.Exact q) (some s) ops := by
  have hinv : Run.Always step (fun o => ∃ t, o = some t ∧ t.Inv) (some s) ops := by
    refine Run.always_of_each ?_ ⟨s, rfl, hs.inv⟩ (hallowed.and hspread.each_next)
    rintro _ op ⟨t, rfl, ht⟩ ⟨hop, hnext⟩
    exact ht.apply (hop t rfl) hnext
  refine hinv.mono ?_
  rintro _ ⟨t, rfl, ht⟩
  exact ⟨t, rfl, ht.exact⟩

/-- Three entities next to the wrap of virtual time, on an empty queue. -/
def nearWrap : TimelineState (Fin 3) Unit where
  cfsRqOf := fun _ => ()
  vruntime := ![2 ^ 64 - 30, 2 ^ 64 - 20, 2 ^ 64 - 10]
  onRq := fun _ => false
  cfs := fun _ => ⟨.leaf, none, none, 2 ^ 64 - 40⟩

/-- All are queued, the first runs past the wrap and is put back as the last. -/
def runPastWrap : List (TimelineOp (Fin 3) Unit) :=
  [.enqueue 2 true false none 0, .enqueue 0 true false none 0, .enqueue 1 true false none 0,
    .setNext 0, .updateCurr () (some 50), .putPrev 0 none, .dequeue 1 true none]

theorem timeline_exact_past_wrap :
    Run.Always step (fun o => ∃ t, o = some t ∧ ∀ q, t.Exact q) (some nearWrap) runPastWrap ∧
    ((runPastWrap.foldl step (some nearWrap)).map fun t => ((t.cfs ()).rbLeftmost, (t.cfs ()).tasksTimeline.toList)) =
    some (some 2, [2, 0]) := by
  have hwindow : Run.Always step (fun o => ∀ t ∈ o, ∀ e, t.onRq e = true →
      sub 64 (t.vruntime e) (2 ^ 64 - 40) < 2 ^ 63) (some nearWrap) runPastWrap := by
    decide +kernel
  refine ⟨timeline_exact nearWrap runPastWrap ?_ (by decide +kernel) (hwindow.mono ?_), by decide +kernel⟩
  · exact ⟨fun _ => ⟨rfl, rfl, rfl⟩, fun _ => rfl⟩
  · intro o ho t ht q
    exact ⟨_, fun e he => ho t ht e he.1⟩

end TimelineState

end BigLittle.Cfs
