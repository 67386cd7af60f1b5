/-!
# Ordinals

Attempt numbers, slots and step sequences count from 0 to 4294967295; the last one has no
successor.

* `next?_eq_some_iff`: the successor is one more, as natural numbers;
* `ofInt?_toInt`: an ordinal is read from the integer that it is written as.
-/

namespace GradeRelay

/-- A place in a sequence, from 0 to 4294967295. -/
abbrev Ordinal := UInt32

namespace Ordinal

/-- The greatest ordinal. -/
def greatest : Ordinal := 4294967295

/-- The successor, unless the ordinal is the greatest. -/
def next? (n : Ordinal) : Option Ordinal :=
  if n = greatest then none else some (n + 1)

/-- The ordinal that an integer stands for. -/
def ofInt? : Int → Option Ordinal
  | .ofNat k => if k < 4294967296 then some (UInt32.ofNat k) else none
  | .negSucc _ => none

/-- An ordinal as a number in a row. -/
def toInt (n : Ordinal) : Int := n.toNat

theorem next?_eq_some_iff {n m : Ordinal} : n.next? = some m ↔ m.toNat = n.toNat + 1 := by
  have hn := n.toNat_lt
  have hm := m.toNat_lt
  by_cases h : n = greatest
  · subst h
    have : greatest.toNat = 4294967295 := rfl
    simp only [next?, if_pos, reduceCtorEq, false_iff]
    omega
  · have h' : n.toNat ≠ 4294967295 := fun e => h (UInt32.toNat_inj.1 e)
    have hs : (n + 1).toNat = n.toNat + 1 := by
      rw [UInt32.toNat_add]; simp; omega
    rw [next?, if_neg h, Option.some.injEq, ← UInt32.toNat_inj, hs]
    exact eq_comm

@[simp]
theorem ofInt?_toInt (n : Ordinal) : ofInt? n.toInt = some n := by
  show (if n.toNat < 4294967296 then some (UInt32.ofNat n.toNat) else none) = some n
  rw [if_pos n.toNat_lt, UInt32.ofNat_toNat]

end Ordinal

end GradeRelay
