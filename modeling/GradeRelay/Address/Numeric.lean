import GradeRelay.Text.Pieces
import GradeRelay.Text.Reader
/-!
# Numeric hosts

A host given by its number: up to four numbers between dots, or, in brackets, eight groups of
hexadecimal digits between colons.

* `isDottedNumber_iff`: the numbers of a dotted host, and what each of them may be.
-/

namespace GradeRelay.Address

open Text (pieces)
open Text.Reader (hexValue?)

/-- A digit of a base up to sixteen. -/
def isDigitOf (base : Nat) (c : Char) : Bool := (hexValue? c).any fun v => v < base

/-- The number that digits stand for. -/
def ofDigits (base : Nat) (ds : List Char) : Nat :=
  ds.foldl (fun n c => base * n + (hexValue? c).getD 0) 0

/-- The number that digits of a base stand for, if they are such digits. -/
def number? (base : Nat) (ds : List Char) : Option Nat :=
  if ds.all (isDigitOf base) then some (ofDigits base ds) else none

/-! ## Dotted hosts -/

/-- One number of a dotted host: octal after a zero, hexadecimal after `0x`, else decimal. The mark
`0x` alone counts as zero. -/
def dottedPart? : List Char → Option Nat
  | [] => none
  | '0' :: 'x' :: ds => number? 16 ds
  | '0' :: 'X' :: ds => number? 16 ds
  | '0' :: d :: ds => number? 8 (d :: ds)
  | ds => number? 10 ds

/-- The parts of a host between its dots. A dot at the end starts no further part. -/
def dottedParts (host : List Char) : List (List Char) :=
  let ps := pieces '.' host
  if 1 < ps.length && ps.getLast?.any (·.isEmpty) then ps.dropLast else ps

/-- The last part is a number, or at least written in digits; such a host is no name. -/
def endsInNumber (host : List Char) : Bool :=
  (dottedParts host).getLast?.any fun p =>
    (!p.isEmpty && p.all (isDigitOf 10)) || (dottedPart? p).isSome

/-- Up to four numbers, of which all but the last fill one byte each, and the last the bytes that
are left of four. -/
def isDottedNumber (host : List Char) : Bool :=
  match (dottedParts host).mapM dottedPart? with
  | none => false
  | some ns =>
    ns.length ≤ 4 && ns.dropLast.all (· < 256)
      && ns.getLast?.any (· < Nat.pow 256 (5 - ns.length))

theorem isDottedNumber_iff {host : List Char} : isDottedNumber host = true ↔
    ∃ ns n, (dottedParts host).mapM dottedPart? = some (ns ++ [n]) ∧ ns.length < 4 ∧
      (∀ m ∈ ns, m < 256) ∧ n < Nat.pow 256 (4 - ns.length) := by
  unfold isDottedNumber
  split
  · next h => simp [h]
  · next ns h =>
    constructor
    · intro hs
      simp only [Bool.and_eq_true, decide_eq_true_eq, List.all_eq_true] at hs
      obtain ⟨⟨hl, hb⟩, hn⟩ := hs
      obtain ⟨n, hg, hn⟩ := (Option.any_eq_true _ _).1 hn
      obtain ⟨ms, rfl⟩ := List.getLast?_eq_some_iff.1 hg
      simp only [List.length_append, List.length_singleton, List.dropLast_concat,
        decide_eq_true_eq] at hl hb hn
      refine ⟨ms, n, h, by omega, hb, ?_⟩
      rwa [show 5 - (ms.length + 1) = 4 - ms.length by omega] at hn
    · rintro ⟨ms, n, he, hl, hb, hn⟩
      obtain rfl : ns = ms ++ [n] := by
        rw [h] at he
        exact Option.some.inj he
      simp only [List.length_append, List.length_singleton, List.dropLast_concat,
        List.getLast?_concat, Option.any_some, Bool.and_eq_true, decide_eq_true_eq,
        List.all_eq_true]
      refine ⟨⟨by omega, hb⟩, ?_⟩
      rwa [show 5 - (ms.length + 1) = 4 - ms.length by omega]

/-! ## Bracketed hosts -/

/-- A group of sixteen bits: one to four hexadecimal digits. -/
def isGroup (p : List Char) : Bool :=
  !p.isEmpty && p.length ≤ 4 && p.all (isDigitOf 16)

/-- A byte in decimal digits, without a needless zero in front. -/
def isByte (p : List Char) : Bool :=
  !p.isEmpty && p.all (isDigitOf 10) && (p.length = 1 || p.head? != some '0')
    && ofDigits 10 p < 256

/-- Four bytes between dots. -/
def isQuad (p : List Char) : Bool :=
  let bs := pieces '.' p
  bs.length = 4 && bs.all isByte

/-- The number of groups between colons; four bytes at the end stand for two of them. -/
def groupCount? (cs : List Char) : Option Nat :=
  let ps := pieces ':' cs
  let last := ps.getLast?.getD []
  if cs.isEmpty then some 0
  else if !ps.dropLast.all isGroup then none
  else if isGroup last then some ps.length
  else if isQuad last then some (ps.length + 1)
  else none

/-- Cuts a text at the first double colon. -/
def cutAtDouble? : List Char → Option (List Char × List Char)
  | ':' :: ':' :: rest => some ([], rest)
  | c :: rest => (cutAtDouble? rest).map fun (a, b) => (c :: a, b)
  | [] => none

/-- Eight groups, or fewer around one double colon, which stands for those that are missing. -/
def isBracketedNumber (cs : List Char) : Bool :=
  match cutAtDouble? cs with
  | none => groupCount? cs = some 8
  | some (a, b) =>
    match groupCount? a, groupCount? b with
    | some m, some n => m + n ≤ 7 && !a.contains '.'
    | _, _ => false

end GradeRelay.Address
