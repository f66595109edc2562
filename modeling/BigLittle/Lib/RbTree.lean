import Mathlib.Init

/-!
# Red-black trees with parent links

A position in a tree is a trail: the nodes above it, nearest first, each with the side
it was left on and its other subtree. The repair loops after an insertion and a removal
climb the trail one or two nodes at a time, recolour and rotate, and stop early. They
return nothing where the pointer program would follow a null pointer.

Two facts hold of both loops. The elements in order from left to right are those that
filling the position gives, whatever the colours. And in a red-black tree the loops do
not fail and give a red-black tree again.
-/

namespace RbTree

inductive Color where
  | red
  | black
deriving DecidableEq

/-- The black height of a node of this colour over children of black height `h`. -/
def Color.height (h : Nat) : Color → Nat
  | .red => h
  | .black => h + 1

inductive Side where
  | left
  | right
deriving DecidableEq

inductive Tree (α : Type*) where
  | leaf
  | node (color : Color) (left : Tree α) (elem : α) (right : Tree α)

/-- A node above a position, without the subtree that the position is in. -/
structure Crumb (α : Type*) where
  /-- the side of the position -/
  side : Side
  color : Color
  elem : α
  /-- the other subtree -/
  other : Tree α

variable {α : Type*} {side : Side} {c c' : Color} {a : α} {t t' near far : Tree α} {trail : List (Crumb α)}

namespace Tree

def toList : Tree α → List α
  | .leaf => []
  | .node _ l a r => l.toList ++ a :: r.toList

/-- A null pointer counts as black. -/
def isRed : Tree α → Bool
  | .node .red _ _ _ => true
  | _ => false

def paint (c : Color) : Tree α → Tree α
  | .leaf => .leaf
  | .node _ l a r => .node c l a r

/-- A node with `near` on the given side and `far` on the opposite one. -/
def join (side : Side) (c : Color) (near : Tree α) (a : α) (far : Tree α) : Tree α :=
  match side with
  | .left => .node c near a far
  | .right => .node c far a near

/-- The parts of a node, the child on the given side first. -/
def view (side : Side) : Tree α → Option (Color × Tree α × α × Tree α)
  | .leaf => none
  | .node c l a r => some <| match side with
    | .left => (c, l, a, r)
    | .right => (c, r, a, l)

@[simp] lemma toList_paint (c : Color) (t : Tree α) : (t.paint c).toList = t.toList := by
  cases t <;> rfl

@[simp] lemma view_join (side : Side) (c : Color) (near : Tree α) (a : α) (far : Tree α) :
    (join side c near a far).view side = some (c, near, a, far) := by
  cases side <;> rfl

lemma eq_join_of_view
    (h : t.view side = some (c, near, a, far)) : t = join side c near a far := by
  obtain _ | ⟨_, _, _, _⟩ := t
  · cases h
  · cases side <;> cases h <;> rfl

end Tree

open RbTree.Tree List

section Position

/-- Fill the position with a subtree. -/
def plug : List (Crumb α) → Tree α → Tree α
  | [], t => t
  | x :: rest, t => plug rest (join x.side x.color t x.elem x.other)

def before : List (Crumb α) → List α
  | [] => []
  | ⟨.left, _, _, _⟩ :: rest => before rest
  | ⟨.right, _, a, other⟩ :: rest => before rest ++ (other.toList ++ [a])

def after : List (Crumb α) → List α
  | [] => []
  | ⟨.left, _, a, other⟩ :: rest => a :: other.toList ++ after rest
  | ⟨.right, _, _, _⟩ :: rest => after rest

lemma toList_plug (trail : List (Crumb α)) (t : Tree α) :
    (plug trail t).toList = before trail ++ t.toList ++ after trail := by
  induction trail generalizing t with
  | nil => exact (append_nil _).symm
  | cons x rest ih =>
    obtain ⟨_ | _, c, a, other⟩ := x
    · rw [plug, ih]
      simp [join, toList, before, after]
    · rw [plug, ih]
      simp [join, toList, before, after]

lemma plug_append (inner trail : List (Crumb α)) (t : Tree α) :
    plug (inner ++ trail) t = plug trail (plug inner t) := by
  induction inner generalizing t with
  | nil => rfl
  | cons x rest ih => exact ih _

lemma before_append (inner trail : List (Crumb α)) : before (inner ++ trail) = before trail ++ before inner := by
  induction inner with
  | nil => exact (append_nil _).symm
  | cons x rest ih =>
    obtain ⟨_ | _, c, a, other⟩ := x
    · exact ih
    · rw [cons_append, before, before, ih, append_assoc]

lemma after_append (inner trail : List (Crumb α)) : after (inner ++ trail) = after inner ++ after trail := by
  induction inner with
  | nil => rfl
  | cons x rest ih =>
    obtain ⟨_ | _, c, a, other⟩ := x
    · simp [after, ih]
    · exact ih

end Position

section Insert

/-- The rotations after an insertion, with the parent `x` and the grandparent `y` of
the node `t`. Case 2 turns an inner node to the outer side first; case 3 lifts the
outer pair over the grandparent. -/
def rotateInsert (x y : Crumb α) (t : Tree α) : Option (Tree α) :=
  if x.side = y.side then
    some (join y.side y.color t x.elem (join y.side .red (x.other.paint .black) y.elem y.other))
  else
    (t.view x.side).map fun (_, near, a, far) =>
      join y.side y.color (join x.side .red (far.paint .black) x.elem x.other) a
        (join y.side .red (near.paint .black) y.elem y.other)

/-- The loop after an insertion, with the red node `t` at the position. -/
def insertColor : List (Crumb α) → Tree α → Option (Tree α)
  | [], t => some (t.paint .black)
  | [x], t => if x.color = .black then some (plug [x] t) else none
  | x :: y :: rest, t =>
    if x.color = .black then some (plug (x :: y :: rest) t)
    else if y.other.isRed then
      -- case 1: the grandparent turns red and is the next node
      insertColor rest (join y.side .red (join x.side .black t x.elem x.other) y.elem (y.other.paint .black))
    else (rotateInsert x y t).map (plug rest)

/-- Hang a new node at a position and repair. -/
def insert (trail : List (Crumb α)) (a : α) : Option (Tree α) :=
  insertColor trail (.node .red .leaf a .leaf)

lemma rotateInsert_toList {x y : Crumb α} (h : rotateInsert x y t = some t') :
    t'.toList = (plug [x, y] t).toList := by
  obtain ⟨side, c, p, sibling⟩ := x
  obtain ⟨gside, gc, g, uncle⟩ := y
  rw [rotateInsert] at h
  split at h
  · rename_i hside
    cases h
    subst hside
    cases side <;> simp [plug, join, toList]
  · rename_i hside
    obtain ⟨⟨c, near, a, far⟩, hview, rfl⟩ := Option.map_eq_some_iff.mp h
    rw [eq_join_of_view hview]
    cases side <;> cases gside <;> first | exact absurd rfl hside | simp [plug, join, toList]

lemma insertColor_toList
    (h : insertColor trail t = some t') : t'.toList = (plug trail t).toList := by
  induction trail, t using insertColor.induct with
  | case1 t =>
    cases h
    exact toList_paint _ _
  | case2 x t hx | case4 x y rest t hx =>
    rw [insertColor, if_pos hx] at h
    cases h
    rfl
  | case3 x t hx =>
    rw [insertColor, if_neg hx] at h
    cases h
  | case5 x y rest t hx hred ih =>
    rw [insertColor, if_neg hx, if_pos hred] at h
    rw [ih h, plug, plug, toList_plug, toList_plug]
    cases x.side <;> cases y.side <;> simp [join, toList]
  | case6 x y rest t hx hred =>
    rw [insertColor, if_neg hx, if_neg hred] at h
    obtain ⟨top, htop, rfl⟩ := Option.map_eq_some_iff.mp h
    rw [toList_plug, rotateInsert_toList htop, plug, plug, plug, plug, plug, toList_plug]

/-- Insertion puts the new element between the two parts. -/
lemma insert_toList
    (h : insert trail a = some t) : t.toList = before trail ++ a :: after trail := by
  rw [insertColor_toList h, toList_plug]
  simp [toList]

end Insert

section Erase

/-- The part of the removal loop with a black sibling: case 4 lifts the sibling, case
3 its near child, case 2 turns it red. The flag says that the whole subtree is now
short of a black node. -/
def fixSibling (side : Side) (color : Color) (p : α) (t sibling : Tree α) : Option (Tree α × Bool) :=
  (sibling.view side).bind fun (_, near, s, far) =>
    if far.isRed then
      some (join side color (join side .black t p near) s (far.paint .black), false)
    else if near.isRed then
      (near.view side).map fun (_, inner, n, outer) =>
        (join side color (join side .black t p inner) n (join side .black (outer.paint .black) s far), false)
    else some (join side .black t p (join side .red near s far), decide (color = .black))

/-- The loop after a removal; the subtree `t` is short of a black node. -/
def eraseColor : List (Crumb α) → Tree α → Option (Tree α)
  | [], t => some t
  | ⟨side, color, p, sibling⟩ :: rest, t =>
    if sibling.isRed then
      -- case 1: the red sibling is lifted, and its near child is the new sibling
      (sibling.view side).bind fun (_, near, s, far) =>
        (fixSibling side .red p t (near.paint .black)).map fun (top, _) =>
          plug rest (join side color top s far)
    else
      match fixSibling side color p t sibling with
      | none => none
      | some (top, true) => eraseColor rest top
      | some (top, false) => some (plug rest top)

structure Focus (α : Type*) where
  trail : List (Crumb α)
  color : Color
  left : Tree α
  elem : α
  right : Tree α

def leftmost : List (Crumb α) → Tree α → Option (Focus α)
  | _, .leaf => none
  | trail, .node c .leaf a r => some ⟨trail, c, .leaf, a, r⟩
  | trail, .node c l a r => leftmost (⟨.left, c, a, r⟩ :: trail) l

/-- What takes the place of a removed node without left child or of a successor: a
right child, or nothing, and then a black node is missing. -/
def close (trail : List (Crumb α)) (removed keep : Color) : Tree α → Option (Tree α)
  | .leaf => if removed = .black then eraseColor trail .leaf else some (plug trail .leaf)
  | child => some (plug trail (child.paint keep))

namespace Focus

def tree (f : Focus α) : Tree α := .node f.color f.left f.elem f.right

/-- Remove a node. One with two children gives its place to its successor, the
leftmost node on its right. -/
def erase (f : Focus α) : Option (Tree α) :=
  match f.left, f.right with
  | .leaf, child => close f.trail f.color f.color child
  | child, .leaf => some (plug f.trail (child.paint f.color))
  | l, r =>
    (leftmost [] r).bind fun successor =>
      close (successor.trail ++ ⟨.right, f.color, successor.elem, l⟩ :: f.trail) successor.color .black successor.right

end Focus

lemma fixSibling_toList {color : Color} {p : α} {t sibling t' : Tree α} {short : Bool}
    (h : fixSibling side color p t sibling = some (t', short)) : t'.toList = (join side color t p sibling).toList := by
  obtain ⟨⟨c, near, s, far⟩, hview, h⟩ := Option.bind_eq_some_iff.mp h
  rw [eq_join_of_view hview]
  dsimp only at h
  split at h
  · cases h
    cases side <;> simp [join, toList]
  split at h
  · obtain ⟨⟨c', inner, n, outer⟩, hnear, h⟩ := Option.map_eq_some_iff.mp h
    cases h
    rw [eq_join_of_view hnear]
    cases side <;> simp [join, toList]
  · cases h
    cases side <;> simp [join, toList]

lemma toList_plug_congr (trail : List (Crumb α)) (h : t'.toList = t.toList) :
    (plug trail t').toList = (plug trail t).toList := by
  rw [toList_plug, toList_plug, h]

lemma eraseColor_toList
    (h : eraseColor trail t = some t') : t'.toList = (plug trail t).toList := by
  induction trail generalizing t with
  | nil =>
    cases h
    rfl
  | cons x rest ih =>
    obtain ⟨side, color, p, sibling⟩ := x
    rw [eraseColor] at h
    split at h
    · obtain ⟨⟨c, near, s, far⟩, hview, h⟩ := Option.bind_eq_some_iff.mp h
      obtain ⟨⟨top, short⟩, htop, rfl⟩ := Option.map_eq_some_iff.mp h
      have hlist := fixSibling_toList htop
      apply toList_plug_congr
      rw [eq_join_of_view hview]
      cases side <;> simp_all [join, toList]
    split at h
    · cases h
    · rename_i top htop
      rw [ih h]
      exact toList_plug_congr _ (fixSibling_toList htop)
    · rename_i top htop
      cases h
      exact toList_plug_congr _ (fixSibling_toList htop)

lemma close_toList {removed keep : Color} {child t : Tree α}
    (h : close trail removed keep child = some t) : t.toList = before trail ++ child.toList ++ after trail := by
  rw [← toList_plug]
  cases child with
  | leaf =>
    rw [close] at h
    split at h
    · exact eraseColor_toList h
    · cases h
      rfl
  | node c l a r =>
    cases h
    exact toList_plug_congr _ (toList_paint _ _)

/-- The leftmost node has nothing on its left. -/
lemma leftmost_spec {f : Focus α} (h : leftmost trail t = some f) :
    plug f.trail f.tree = plug trail t ∧ f.left = .leaf ∧ before f.trail = before trail := by
  induction trail, t using leftmost.induct with
  | case1 trail => cases h
  | case2 trail c a r =>
    cases h
    exact ⟨rfl, rfl, rfl⟩
  | case3 trail c l a r hl ih =>
    rw [leftmost] at h
    · exact ih h
    · exact hl

lemma leftmost_toList {f : Focus α} (h : leftmost [] t = some f) :
    t.toList = f.elem :: f.right.toList ++ after f.trail := by
  obtain ⟨hplug, hleft, hbefore⟩ := leftmost_spec h
  rw [← show plug [] t = t from rfl, ← hplug, toList_plug, hbefore, Focus.tree, toList, hleft]
  rfl

lemma leftmost_isSome (trail : List (Crumb α)) (c : Color) (l : Tree α) (a : α) (r : Tree α) :
    ∃ f, leftmost trail (.node c l a r) = some f := by
  induction l generalizing trail c a r with
  | leaf => exact ⟨_, rfl⟩
  | node c' l' a' r' ih _ => exact ih _ c' a' r'

/-- Removal takes out the element of the node and nothing else. -/
lemma Focus.erase_toList {f : Focus α} (h : f.erase = some t) :
    t.toList = before f.trail ++ (f.left.toList ++ f.right.toList) ++ after f.trail := by
  obtain ⟨trail, c, l, a, r⟩ := f
  rw [Focus.erase] at h
  dsimp only at h ⊢
  split at h
  · exact close_toList h
  · cases h
    rw [toList_plug, toList_paint, toList, append_nil]
  · obtain ⟨successor, hsuccessor, h⟩ := Option.bind_eq_some_iff.mp h
    obtain ⟨-, -, hbefore⟩ := leftmost_spec hsuccessor
    rw [close_toList h, before_append, after_append, hbefore, leftmost_toList hsuccessor]
    simp [before, after]

end Erase

section Search

variable (goLeft : α → Bool) {first : Bool}

/-- The free position for a new element that goes left of every element `goLeft` holds
of, and whether it is left of all elements. -/
def descend (goLeft : α → Bool) : List (Crumb α) → Bool → Tree α → List (Crumb α) × Bool
  | trail, first, .leaf => (trail, first)
  | trail, first, .node c l a r =>
    if goLeft a then descend goLeft (⟨.left, c, a, r⟩ :: trail) first l
    else descend goLeft (⟨.right, c, a, l⟩ :: trail) false r

/-- The free position in the whole tree. -/
def descendRoot (goLeft : α → Bool) (t : Tree α) : List (Crumb α) × Bool := descend goLeft [] true t

def find [DecidableEq α] (a : α) : List (Crumb α) → Tree α → Option (Focus α)
  | _, .leaf => none
  | trail, .node c l b r =>
    if b = a then some ⟨trail, c, l, b, r⟩
    else (find a (⟨.left, c, b, r⟩ :: trail) l).or (find a (⟨.right, c, b, l⟩ :: trail) r)

/-- The first ancestor that the position is on the left of. -/
def nextAbove : List (Crumb α) → Option α
  | [] => none
  | ⟨.left, _, a, _⟩ :: _ => some a
  | ⟨.right, _, _, _⟩ :: rest => nextAbove rest

def Focus.next (f : Focus α) : Option α :=
  match f.right with
  | .leaf => nextAbove f.trail
  | r => (leftmost [] r).map Focus.elem

lemma plug_descend (trail : List (Crumb α)) (first : Bool) (t : Tree α) :
    plug (descend goLeft trail first t).1 .leaf = plug trail t := by
  fun_induction descend goLeft trail first t with
  | case1 => rfl
  | case2 trail first c l a r _ ih | case3 trail first c l a r _ ih => exact ih

lemma descend_first (t : Tree α) (h : first = true ↔ before trail = []) :
    (descend goLeft trail first t).2 = true ↔ before (descend goLeft trail first t).1 = [] := by
  fun_induction descend goLeft trail first t with
  | case1 => exact h
  | case2 trail first c l a r _ ih => exact ih h
  | case3 trail first c l a r _ ih => exact ih (by simp [before])

/-- If `goLeft` holds of everything after an element it holds of, the position divides
the elements by it. -/
lemma descend_divides {goLeft : α → Bool}
    (hlist : t.toList.Pairwise fun a b => goLeft a = true → goLeft b = true)
    (hbefore : ∀ a ∈ before trail, goLeft a = false) (hafter : ∀ a ∈ after trail, goLeft a = true) :
    (∀ a ∈ before (descend goLeft trail first t).1, goLeft a = false) ∧
    ∀ a ∈ after (descend goLeft trail first t).1, goLeft a = true := by
  fun_induction descend goLeft trail first t with
  | case1 => exact ⟨hbefore, hafter⟩
  | case2 trail first c l a r ha ih =>
    rw [toList, pairwise_append, pairwise_cons] at hlist
    refine ih hlist.1 hbefore fun b hb => ?_
    obtain rfl | hb | hb : b = a ∨ b ∈ r.toList ∨ b ∈ after trail := by simpa [after] using hb
    · exact ha
    · exact hlist.2.1.1 b hb ha
    · exact hafter b hb
  | case3 trail first c l a r ha ih =>
    rw [toList, pairwise_append, pairwise_cons] at hlist
    refine ih hlist.2.1.2 (fun b hb => ?_) hafter
    obtain hb | hb | rfl : b ∈ before trail ∨ b ∈ l.toList ∨ b = a := by
      simpa [before] using hb
    · exact hbefore b hb
    · have hright := hlist.2.2 b hb a mem_cons_self
      simpa using mt hright ha
    · simpa using ha

lemma plug_descendRoot (t : Tree α) : plug (descendRoot goLeft t).1 .leaf = t := plug_descend goLeft [] true t

/-- The position in a whole tree: what is before and after it, and the flag. -/
lemma descendRoot_spec {goLeft : α → Bool} {link : List (Crumb α)}
    (hlist : t.toList.Pairwise fun a b => goLeft a = true → goLeft b = true)
    (h : descendRoot goLeft t = (link, first)) : plug link .leaf = t ∧ (first = true ↔ before link = []) ∧
    (∀ a ∈ before link, goLeft a = false) ∧ ∀ a ∈ after link, goLeft a = true := by
  obtain ⟨rfl, rfl⟩ := Prod.mk.inj h
  refine ⟨plug_descend _ _ _ _, ?_, descend_divides hlist nofun nofun⟩
  exact descend_first _ _ (iff_of_true rfl rfl)

lemma find_spec [DecidableEq α] {f : Focus α}
    (h : find a trail t = some f) : f.elem = a ∧ plug f.trail f.tree = plug trail t := by
  induction t generalizing trail with
  | leaf => cases h
  | node c l b r ihl ihr =>
    rw [find] at h
    split at h
    · rename_i hb
      cases h
      exact ⟨hb, rfl⟩
    · obtain h | ⟨-, h⟩ := Option.or_eq_some_iff.mp h
      · exact ihl h
      · exact ihr h

lemma find_of_mem [DecidableEq α] (trail : List (Crumb α))
    (ha : a ∈ t.toList) : ∃ f, find a trail t = some f := by
  induction t generalizing trail with
  | leaf => cases ha
  | node c l b r ihl ihr =>
    rw [find]
    split
    · exact ⟨_, rfl⟩
    · rename_i hb
      obtain ha | rfl | ha : a ∈ l.toList ∨ a = b ∨ a ∈ r.toList := by simpa [toList] using ha
      · obtain ⟨f, hf⟩ := ihl (⟨.left, c, b, r⟩ :: trail) ha
        exact ⟨f, by rw [hf]; rfl⟩
      · exact absurd rfl hb
      · obtain ⟨f, hf⟩ := ihr (⟨.right, c, b, l⟩ :: trail) ha
        rw [hf]
        cases find a (⟨.left, c, b, r⟩ :: trail) l with
        | none => exact ⟨f, rfl⟩
        | some f' => exact ⟨f', rfl⟩

lemma nextAbove_eq (trail : List (Crumb α)) : nextAbove trail = (after trail).head? := by
  fun_induction nextAbove trail with
  | case1 => rfl
  | case2 => rfl
  | case3 c a other rest ih => exact ih

lemma Focus.next_eq (f : Focus α) : f.next = (f.right.toList ++ after f.trail).head? := by
  rw [Focus.next]
  split
  · rename_i hright
    rw [hright]
    exact nextAbove_eq _
  · rename_i hright
    obtain ⟨trail, color, l, a, _ | ⟨c, rl, ra, rr⟩⟩ := f
    · exact absurd rfl hright
    obtain ⟨first, hfirst⟩ := leftmost_isSome [] c rl ra rr
    dsimp only
    rw [hfirst, leftmost_toList hfirst]
    rfl

end Search

section Balance

/-- No red node has a red child, and every path from the root of the subtree to a
leaf has the same number of black nodes. -/
inductive Balanced : Color → Nat → Tree α → Prop
  | leaf : Balanced .black 0 .leaf
  | red {h : Nat} {l r : Tree α} {a : α} (left : Balanced .black h l) (right : Balanced .black h r) :
      Balanced .red h (.node .red l a r)
  | black {h : Nat} {c c' : Color} {l r : Tree α} {a : α} (left : Balanced c h l)
      (right : Balanced c' h r) : Balanced .black (h + 1) (.node .black l a r)

/-- A subtree of this colour and black height can stand at the position. -/
inductive Fits : List (Crumb α) → Color → Nat → Prop
  | root {h : Nat} : Fits [] .black h
  | red {h : Nat} {side : Side} {a : α} {other : Tree α} {rest : List (Crumb α)}
      (sibling : Balanced .black h other) (above : Fits rest .red h) :
      Fits (⟨side, .red, a, other⟩ :: rest) .black h
  | black {h : Nat} {c c' : Color} {side : Side} {a : α} {other : Tree α}
      {rest : List (Crumb α)} (sibling : Balanced c' h other) (above : Fits rest .black (h + 1)) :
      Fits (⟨side, .black, a, other⟩ :: rest) c h

def RedBlack (t : Tree α) : Prop := ∃ h, Balanced .black h t

variable {h : Nat} {p : α} {sibling : Tree α} {rest : List (Crumb α)}

namespace Balanced

lemma join_red (hnear : Balanced .black h near) (hfar : Balanced .black h far) :
    Balanced .red h (join side .red near a far) := by
  cases side
  · exact .red hnear hfar
  · exact .red hfar hnear

lemma join_black (hnear : Balanced c h near) (hfar : Balanced c' h far) :
    Balanced .black (h + 1) (join side .black near a far) := by
  cases side
  · exact .black hnear hfar
  · exact .black hfar hnear

lemma join_any (hnear : Balanced .black h near) (hfar : Balanced .black h far) :
    Balanced c (c.height h) (join side c near a far) := by
  cases c
  · exact join_red hnear hfar
  · exact join_black hnear hfar

lemma exists_join_red (ht : Balanced .red h t) (side : Side) : ∃ near a far,
    t = join side .red near a far ∧ Balanced .black h near ∧ Balanced .black h far := by
  cases ht with
  | red hl hr =>
    cases side
    · exact ⟨_, _, _, rfl, hl, hr⟩
    · exact ⟨_, _, _, rfl, hr, hl⟩

lemma exists_join_black (ht : Balanced .black (h + 1) t) (side : Side) : ∃ c c' near a far,
    t = join side .black near a far ∧ Balanced c h near ∧ Balanced c' h far := by
  cases ht with
  | black hl hr =>
    cases side
    · exact ⟨_, _, _, _, _, rfl, hl, hr⟩
    · exact ⟨_, _, _, _, _, rfl, hr, hl⟩

lemma color_eq {l r : Tree α} (ht : Balanced c h (.node c' l a r)) : c = c' := by
  cases ht <;> rfl

lemma eq_red (ht : Balanced c h t) (hred : t.isRed = true) : c = .red := by
  cases ht <;> first | rfl | cases hred

lemma eq_black (ht : Balanced c h t) (hred : ¬t.isRed = true) : c = .black := by
  cases ht <;> first | rfl | exact absurd rfl hred

lemma paint_black (ht : Balanced .black h t) : t.paint .black = t := by
  cases ht <;> rfl

lemma paint_black_of_red (ht : Balanced .red h t) : Balanced .black (h + 1) (t.paint .black) := by
  cases ht with
  | red hl hr => exact .black hl hr

end Balanced

namespace Fits

/-- Where a red subtree can stand, a black one of the same black height can. -/
lemma black_of_any (fits : Fits trail c h) : Fits trail .black h := by
  cases fits with
  | root => exact .root
  | red sibling above => exact .red sibling above
  | black sibling above => exact .black sibling above

lemma plug (fits : Fits trail c h) (ht : Balanced c h t) : RedBlack (plug trail t) := by
  induction fits generalizing t with
  | root => exact ⟨_, ht⟩
  | red sibling _ ih => exact ih (.join_red ht sibling)
  | black sibling _ ih => exact ih (.join_black ht sibling)

/-- In a red-black tree every subtree is balanced and fits its position. -/
lemma of_plug (hplug : RedBlack (RbTree.plug trail t)) : ∃ c h, Fits trail c h ∧ Balanced c h t := by
  induction trail generalizing t with
  | nil =>
    obtain ⟨h, ht⟩ := hplug
    exact ⟨_, h, .root, ht⟩
  | cons x rest ih =>
    obtain ⟨side, color, a, other⟩ := x
    obtain ⟨c, h, fits, hjoin⟩ := ih hplug
    cases side
    · cases hjoin with
      | red hl hr => exact ⟨_, _, .red hr fits, hl⟩
      | black hl hr => exact ⟨_, _, .black hr fits, hl⟩
    · cases hjoin with
      | red hl hr => exact ⟨_, _, .red hl fits, hr⟩
      | black hl hr => exact ⟨_, _, .black hl fits, hr⟩

/-- Only the shape of the trail matters. -/
lemma relabel {inner : List (Crumb α)} {x : Crumb α} (b : α)
    (fits : Fits (inner ++ x :: rest) c h) : Fits (inner ++ { x with elem := b } :: rest) c h := by
  induction inner generalizing c h with
  | nil =>
    cases fits with
    | red sibling above => exact .red sibling above
    | black sibling above => exact .black sibling above
  | cons y inner ih =>
    cases fits with
    | red sibling above => exact .red sibling (ih above)
    | black sibling above => exact .black sibling (ih above)

end Fits

lemma rotateInsert_balanced {gside : Side} {g : α} {uncle : Tree α} (ht : Balanced .red h t)
    (hsibling : Balanced .black h sibling) (huncle : Balanced .black h uncle) :
    ∃ top, rotateInsert ⟨side, .red, p, sibling⟩ ⟨gside, .black, g, uncle⟩ t = some top ∧
    Balanced .black (h + 1) top := by
  rw [rotateInsert]
  split
  · rw [hsibling.paint_black]
    exact ⟨_, rfl, .join_black ht (.join_red hsibling huncle)⟩
  · obtain ⟨near, a, far, rfl, hnear, hfar⟩ := ht.exists_join_red side
    rw [view_join, Option.map_some]
    dsimp only
    rw [hnear.paint_black, hfar.paint_black]
    exact ⟨_, rfl, .join_black (.join_red hfar hsibling) (.join_red hnear huncle)⟩

/-- The loop after an insertion keeps that the node is red and that a black subtree of
its height would fit. -/
lemma insertColor_redBlack (ht : Balanced .red h t) (fits : Fits trail .black h) :
    ∃ t', insertColor trail t = some t' ∧ RedBlack t' := by
  induction trail, t using insertColor.induct generalizing h with
  | case1 t => exact ⟨_, rfl, _, ht.paint_black_of_red⟩
  | case2 x t hx | case4 x y rest t hx =>
    rw [insertColor, if_pos hx]
    cases fits with
    | red sibling above => cases hx
    | black sibling above => exact ⟨_, rfl, (Fits.black sibling above).plug ht⟩
  | case3 x t hx =>
    cases fits with
    | red sibling above => cases above
    | black sibling above => exact absurd rfl hx
  | case5 x y rest t hx hred ih =>
    rw [insertColor, if_neg hx, if_pos hred]
    cases fits with
    | black sibling above => exact absurd rfl hx
    | red sibling above =>
      cases above with
      | black uncle above =>
        obtain rfl := uncle.eq_red hred
        exact ih (.join_red (.join_black ht sibling) uncle.paint_black_of_red) above
  | case6 x y rest t hx hred =>
    rw [insertColor, if_neg hx, if_neg hred]
    cases fits with
    | black sibling above => exact absurd rfl hx
    | red sibling above =>
      cases above with
      | black uncle above =>
        obtain rfl := uncle.eq_black hred
        obtain ⟨top, hrotate, htop⟩ := rotateInsert_balanced ht sibling uncle
        rw [hrotate]
        exact ⟨_, rfl, above.plug htop⟩

/-- With a black sibling, either the black nodes are even again under a node of the
parent's colour, or the parent is black now and counts for nothing if it was black. -/
lemma fixSibling_balanced (side : Side) (c : Color) (p : α) (ht : Balanced .black h t)
    (hsibling : Balanced .black (h + 1) sibling) :
    ∃ top short, fixSibling side c p t sibling = some (top, short) ∧
      (short = false ∧ Balanced c (c.height (h + 1)) top ∨
        short = decide (c = .black) ∧ Balanced .black (h + 1) top) := by
  obtain ⟨cn, cf, near, s, far, rfl, hnear, hfar⟩ := hsibling.exists_join_black side
  rw [fixSibling, view_join, Option.bind_some]
  dsimp only
  split
  · rename_i hred
    obtain rfl := hfar.eq_red hred
    exact ⟨_, _, rfl, .inl ⟨rfl, .join_any (.join_black ht hnear) hfar.paint_black_of_red⟩⟩
  rename_i hfarBlack
  obtain rfl := hfar.eq_black hfarBlack
  split
  · rename_i hred
    obtain rfl := hnear.eq_red hred
    obtain ⟨inner, n, outer, rfl, hinner, houter⟩ := hnear.exists_join_red side
    rw [view_join, Option.map_some, houter.paint_black]
    exact ⟨_, _, rfl, .inl ⟨rfl, .join_any (.join_black ht hinner) (.join_black houter hfar)⟩⟩
  · rename_i hnearBlack
    obtain rfl := hnear.eq_black hnearBlack
    exact ⟨_, _, rfl, .inr ⟨rfl, .join_black ht (.join_red hnear hfar)⟩⟩

/-- The loop after a removal keeps that the subtree is one black node too low. -/
lemma eraseColor_redBlack (ht : Balanced .black h t) (fits : Fits trail .black (h + 1)) :
    ∃ t', eraseColor trail t = some t' ∧ RedBlack t' := by
  induction trail generalizing t h with
  | nil => exact ⟨t, rfl, h, ht⟩
  | cons x rest ih =>
    cases fits with
    | @red _ side a sibling _ hsibling above =>
      rw [eraseColor, if_neg fun hred => nomatch hsibling.eq_red hred]
      obtain ⟨top, short, hfix, ⟨rfl, htop⟩ | ⟨rfl, htop⟩⟩ :=
        fixSibling_balanced side .red a ht hsibling
      · rw [hfix]
        exact ⟨_, rfl, above.plug htop⟩
      · rw [hfix]
        exact ⟨_, rfl, above.black_of_any.plug htop⟩
    | @black _ _ color side a sibling _ hsibling above =>
      rw [eraseColor]
      split
      · rename_i hred
        obtain rfl := hsibling.eq_red hred
        obtain ⟨near, s, far, rfl, hnear, hfar⟩ := hsibling.exists_join_red side
        obtain ⟨top, short, hfix, hcases⟩ :=
          fixSibling_balanced side .red a ht hnear
        rw [view_join, Option.bind_some]
        dsimp only
        rw [hnear.paint_black, hfix, Option.map_some]
        refine ⟨_, rfl, above.plug ?_⟩
        obtain ⟨-, htop⟩ | ⟨-, htop⟩ := hcases
        · exact .join_black htop hfar
        · exact .join_black htop hfar
      · rename_i hblack
        obtain rfl := hsibling.eq_black hblack
        obtain ⟨top, short, hfix, ⟨rfl, htop⟩ | ⟨rfl, htop⟩⟩ :=
          fixSibling_balanced side .black a ht hsibling
        · rw [hfix]
          exact ⟨_, rfl, above.plug htop⟩
        · rw [hfix]
          exact ih htop above

/-- A new node can be hung at any free position. -/
lemma exists_insert (hplug : RedBlack (plug trail .leaf)) (a : α) : ∃ t, insert trail a = some t ∧ RedBlack t := by
  obtain ⟨c, h, fits, hleaf⟩ := Fits.of_plug hplug
  cases hleaf
  exact insertColor_redBlack (.red .leaf .leaf) fits

/-- Only a black node can have a single child, and that child is red. -/
lemma close_redBlack {keep : Color} (fits : Fits trail c h) (hnode : Balanced c h (.node c .leaf a t))
    (hkeep : c = .black → keep = .black) : ∃ t', close trail c keep t = some t' ∧ RedBlack t' := by
  cases hnode with
  | red hl hr =>
    cases hl
    cases hr
    exact ⟨_, rfl, fits.black_of_any.plug .leaf⟩
  | black hl hr =>
    cases hl
    cases hr with
    | leaf => exact eraseColor_redBlack .leaf fits
    | red hl hr =>
      rw [hkeep rfl]
      exact ⟨_, rfl, fits.plug (.black hl hr)⟩

/-- Every node of a red-black tree can be removed. -/
lemma Focus.erase_redBlack {f : Focus α} (hf : RedBlack (RbTree.plug f.trail f.tree)) :
    ∃ t, f.erase = some t ∧ RedBlack t := by
  obtain ⟨trail, color, l, a, r⟩ := f
  obtain ⟨c, h, fits, hnode⟩ := Fits.of_plug hf
  obtain rfl := hnode.color_eq
  rw [Focus.erase]
  dsimp only [Focus.tree] at hnode ⊢
  split
  · exact close_redBlack fits hnode id
  · rename_i hinner
    cases hnode with
    | red hleft hright =>
      cases hright
      cases hleft
      exact absurd rfl hinner
    | black hleft hright =>
      cases hright
      cases hleft with
      | leaf => exact absurd rfl hinner
      | red hl hr => exact ⟨_, rfl, fits.plug (.black hl hr)⟩
  · rename_i hl hr
    obtain _ | ⟨cr, rl, ra, rr⟩ := r
    · exact absurd rfl hr
    obtain ⟨successor, hsuccessor⟩ := leftmost_isSome [] cr rl ra rr
    obtain ⟨hplug, hleft, -⟩ := leftmost_spec hsuccessor
    rw [hsuccessor, Option.bind_some]
    have hwhole : RedBlack (RbTree.plug (successor.trail ++ ⟨.right, c, a, l⟩ :: trail) successor.tree) := by
      rwa [plug_append, hplug]
    obtain ⟨cs, hs, fits, hnode⟩ := Fits.of_plug hwhole
    obtain rfl := hnode.color_eq
    rw [Focus.tree, hleft] at hnode
    exact close_redBlack (fits.relabel successor.elem) hnode fun _ => rfl

end Balance

end RbTree
