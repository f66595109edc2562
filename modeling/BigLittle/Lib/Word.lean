import Mathlib.Data.ZMod.Basic

/-!
# Fixed-width unsigned words as natural numbers

A machine word of width `w` is the natural number it denotes, and every operation that
can leave the range truncates explicitly. Congruences modulo the word range are
equations in `ZMod (2 ^ w)`.

One family of lemmas says when an operation did not truncate, so that a proof can
continue in plain arithmetic. The other sends an operation to the ring operation it
implements, so that a running total kept by wrapping additions and subtractions can be
compared with an exact sum.
-/

namespace Word

/-- Keep the low `w` bits. -/
def wrap (w n : Nat) : Nat := n % 2 ^ w

def add (w a b : Nat) : Nat := wrap w (a + b)

/-- Two's complement subtraction of unsigned words. -/
def sub (w a b : Nat) : Nat := wrap w (a + (2 ^ w - wrap w b))

def mul (w a b : Nat) : Nat := wrap w (a * b)

/-- The word a signed operand is converted to. -/
def ofInt (w : Nat) (z : Int) : Nat := (z % (2 ^ w : Nat)).toNat

/-- The signed value of a word. -/
def toSigned (w n : Nat) : Int := if n < 2 ^ (w - 1) then n else (n : Int) - (2 ^ w : Nat)

/-- The sign bit, read as two's complement. -/
def isNegative (w n : Nat) : Bool := decide (2 ^ (w - 1) ≤ n)

variable {w a b n : Nat}

lemma wrap_of_lt (h : n < 2 ^ w) : wrap w n = n := Nat.mod_eq_of_lt h

lemma wrap_lt (w n : Nat) : wrap w n < 2 ^ w := Nat.mod_lt _ (Nat.two_pow_pos w)

lemma wrap_le (w n : Nat) : wrap w n ≤ n := Nat.mod_le _ _

lemma add_of_lt (h : a + b < 2 ^ w) : add w a b = a + b := wrap_of_lt h

lemma sub_of_le (h : b ≤ a) (ha : a < 2 ^ w) : sub w a b = a - b := by
  have hb : wrap w b = b := wrap_of_lt (Nat.lt_of_le_of_lt h ha)
  have hsum : a + (2 ^ w - b) = (a - b) + 2 ^ w := by omega
  rw [sub, hb, hsum, wrap, Nat.add_mod_right]
  exact wrap_of_lt (by omega)

lemma sub_le (h : b ≤ a) (hb : b < 2 ^ w) : sub w a b ≤ a - b := by
  have hsum : a + (2 ^ w - b) = (a - b) + 2 ^ w := by omega
  rw [sub, wrap_of_lt hb, hsum, wrap, Nat.add_mod_right]
  exact Nat.mod_le _ _

lemma add_wrap (w a b : Nat) : add w (wrap w a) b = wrap w (a + b) := Nat.mod_add_mod _ _ _

lemma mul_of_lt (h : a * b < 2 ^ w) : mul w a b = a * b := wrap_of_lt h

lemma mul_le (w a b : Nat) : mul w a b ≤ a * b := wrap_le _ _

@[simp] lemma cast_wrap (w n : Nat) : ((wrap w n : Nat) : ZMod (2 ^ w)) = n := by
  rw [wrap, ZMod.natCast_mod]

@[simp] lemma cast_add (w a b : Nat) : ((add w a b : Nat) : ZMod (2 ^ w)) = a + b := by
  rw [add, cast_wrap, Nat.cast_add]

@[simp] lemma cast_sub (w a b : Nat) : ((sub w a b : Nat) : ZMod (2 ^ w)) = a - b := by
  have hle : wrap w b ≤ 2 ^ w := Nat.le_of_lt (wrap_lt w b)
  rw [sub, cast_wrap, Nat.cast_add, Nat.cast_sub hle, cast_wrap, ZMod.natCast_self, zero_sub, ← sub_eq_add_neg]

end Word
