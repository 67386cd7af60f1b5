import GradeRelay.Event
import GradeRelay.Proofs.Stripping
/-!
# How identifiers are written

An identifier comes as an integer or as a text of decimal digits, with a sign before them if need be
and any white space around. Which texts are read and what they are read as is said here by the parts
that such a text is put together from.

* `Identifier.ofSigned?_eq_some_iff`, `Identifier.ofPaddedText?_eq_some_iff`: the texts that are
  read;
* **`Event.identifier?_eq_some_iff`**: the values that hold an identifier;
* `Identifier.Writes.spells`: every way to write a number out is read as that number.
-/

namespace GradeRelay

namespace Identifier

/-! ## Signed decimals -/

/-- One or more decimal digits. -/
def AreDigits (ds : List Char) : Prop := ds ≠ [] ∧ ∀ c ∈ ds, c.isDigit = true

/-- The text spells an integer by decimal digits, after a sign if there is one. -/
inductive Spells : List Char → Int → Prop where
  | unsigned {ds : List Char} : AreDigits ds → Spells ds (Nat.ofDigitChars 10 ds 0)
  | plus {ds : List Char} : AreDigits ds → Spells ('+' :: ds) (Nat.ofDigitChars 10 ds 0)
  | minus {ds : List Char} : AreDigits ds → Spells ('-' :: ds) (-(Nat.ofDigitChars 10 ds 0 : Int))

variable {cs : List Char} {n : Int}

theorem ofDigits?_eq_some_iff {k : Nat} :
    ofDigits? cs = some k ↔ AreDigits cs ∧ k = Nat.ofDigitChars 10 cs 0 := by
  unfold ofDigits? AreDigits
  cases cs with
  | nil => simp
  | cons c r =>
    rw [if_neg (by simp), ← List.all_eq_true]
    by_cases h : (c :: r).all Char.isDigit = true
    · rw [if_pos h, Option.some.injEq]
      exact ⟨fun hk => ⟨⟨List.cons_ne_nil _ _, h⟩, hk.symm⟩, fun hk => hk.2.symm⟩
    · rw [if_neg h]
      exact iff_of_false nofun fun hk => h hk.1.2

theorem not_areDigits_of_sign {c : Char} {ds : List Char} (hc : c.isDigit = false) :
    ¬ AreDigits (c :: ds) := by
  intro h
  have := h.2 c List.mem_cons_self
  rw [hc] at this
  cases this

theorem map_ofDigits?_eq_some_iff {f : Int → Int} : (ofDigits? cs).map f = some n ↔
    AreDigits cs ∧ n = f (Nat.ofDigitChars 10 cs 0) := by
  have hread : (ofDigits? cs).map f = some n ↔ ∃ k, ofDigits? cs = some k ∧ f k = n := by
    cases ofDigits? cs <;> simp
  simp only [hread, ofDigits?_eq_some_iff]
  constructor
  · rintro ⟨_, ⟨hcs, rfl⟩, rfl⟩
    exact ⟨hcs, rfl⟩
  · rintro ⟨hcs, rfl⟩
    exact ⟨_, ⟨hcs, rfl⟩, rfl⟩

theorem ofSigned?_eq_some_iff : ofSigned? cs = some n ↔ Spells cs n := by
  unfold ofSigned?
  -- no sign is a digit, so the first character tells the three ways to spell apart
  split
  · next ds =>
    rw [map_ofDigits?_eq_some_iff]
    constructor
    · rintro ⟨hds, rfl⟩
      exact .minus hds
    · intro h
      cases h with
      | unsigned hds => exact absurd hds (not_areDigits_of_sign rfl)
      | minus hds => exact ⟨hds, rfl⟩
  · next ds =>
    rw [map_ofDigits?_eq_some_iff]
    constructor
    · rintro ⟨hds, rfl⟩
      exact .plus hds
    · intro h
      cases h with
      | unsigned hds => exact absurd hds (not_areDigits_of_sign rfl)
      | plus hds => exact ⟨hds, rfl⟩
  · next hminus hplus =>
    rw [map_ofDigits?_eq_some_iff]
    constructor
    · rintro ⟨hds, rfl⟩
      exact .unsigned hds
    · intro h
      cases h with
      | unsigned hds => exact ⟨hds, rfl⟩
      | plus hds => exact absurd rfl (hplus _)
      | minus hds => exact absurd rfl (hminus _)

/-! ## Texts with white space around -/

theorem isBlank_of_isDigit {c : Char} (h : c.isDigit = true) : Text.isBlank c = false := by
  simp only [Char.isDigit, Bool.and_eq_true, decide_eq_true_eq, ge_iff_le,
    UInt32.le_iff_toNat_le] at h
  have hn : 48 ≤ c.toNat ∧ c.toNat ≤ 57 := h
  simp only [Text.isBlank, Bool.or_eq_false_iff, Bool.and_eq_false_iff, decide_eq_false_iff_not,
    beq_eq_false_iff_ne]
  omega

theorem Spells.not_blank (h : Spells cs n) : ∀ c ∈ cs, Text.isBlank c = false := by
  cases h with
  | unsigned hds => exact fun c hc => isBlank_of_isDigit (hds.2 c hc)
  | plus hds => exact List.forall_mem_cons.2 ⟨rfl, fun c hc => isBlank_of_isDigit (hds.2 c hc)⟩
  | minus hds => exact List.forall_mem_cons.2 ⟨rfl, fun c hc => isBlank_of_isDigit (hds.2 c hc)⟩

/-- The integer fits an identifier. -/
def Fits (n : Int) : Prop := least ≤ n ∧ n ≤ greatest

/-- The text is a word with white space before it and after it. -/
def Pads (text word : List Char) : Prop :=
  ∃ lead trail, text = lead ++ word ++ trail ∧
    (∀ c ∈ lead, Text.isBlank c = true) ∧ ∀ c ∈ trail, Text.isBlank c = true

theorem ofPaddedText?_eq_some_iff {s : String} :
    ofPaddedText? s = some n ↔ ∃ word, Pads s.toList word ∧ Spells word n ∧ Fits n := by
  rw [ofPaddedText?, ofText?, Option.filter_eq_some_iff, ofSigned?_eq_some_iff, inRange_iff]
  constructor
  · rintro ⟨hspells, hfits⟩
    exact ⟨_, Text.between_strip _ _, hspells, hfits⟩
  · rintro ⟨word, ⟨lead, trail, hs, hlead, htrail⟩, hspells, hfits⟩
    rw [hs, Text.strip_between hlead hspells.not_blank htrail]
    exact ⟨hspells, hfits⟩

/-! ## Ways to write a number -/

/-- The ways to write an integer: its decimal digits, any number of zeros before them, and a sign,
which only a negative one needs. -/
inductive Writes : Int → List Char → Prop where
  | unsigned (k zeros : Nat) : Writes k (List.replicate zeros '0' ++ Nat.toDigits 10 k)
  | plus (k zeros : Nat) : Writes k ('+' :: (List.replicate zeros '0' ++ Nat.toDigits 10 k))
  | minus (k zeros : Nat) :
    Writes (-(k : Int)) ('-' :: (List.replicate zeros '0' ++ Nat.toDigits 10 k))

theorem areDigits_zeros (k zeros : Nat) :
    AreDigits (List.replicate zeros '0' ++ Nat.toDigits 10 k) := by
  refine ⟨fun h => Nat.toDigits_ne_nil (List.append_eq_nil_iff.1 h).2, fun c hc => ?_⟩
  rcases List.mem_append.1 hc with hc | hc
  · rw [List.eq_of_mem_replicate hc]
    rfl
  · exact Nat.isDigit_of_mem_toDigits (by omega) (by omega) hc

theorem ofDigitChars_zeros (k zeros : Nat) :
    Nat.ofDigitChars 10 (List.replicate zeros '0' ++ Nat.toDigits 10 k) 0 = k := by
  rw [Nat.ofDigitChars_append, Nat.ofDigitChars_replicate_zero, Nat.mul_zero,
    Nat.ofDigitChars_ten_toDigits]

/-- **However a number is written out**, it is read back. -/
theorem Writes.spells (h : Writes n cs) : Spells cs n := by
  cases h with
  | unsigned k zeros =>
    have := Spells.unsigned (areDigits_zeros k zeros)
    rwa [ofDigitChars_zeros] at this
  | plus k zeros =>
    have := Spells.plus (areDigits_zeros k zeros)
    rwa [ofDigitChars_zeros] at this
  | minus k zeros =>
    have := Spells.minus (areDigits_zeros k zeros)
    rwa [ofDigitChars_zeros] at this

end Identifier

/-! ## Values -/

namespace Event

/-- The value holds an identifier: an integer that fits one, or a text that spells such an integer
with white space around it. -/
inductive HoldsId : Json → Int → Prop where
  | integer {n : Int} : Identifier.Fits n → HoldsId (.number (.int n)) n
  | text {s : String} {word : List Char} {n : Int} : Identifier.Pads s.toList word →
    Identifier.Spells word n → Identifier.Fits n → HoldsId (.string s) n

/-- **The values that an identifier is read from**, and what is read. -/
theorem identifier?_eq_some_iff {v : Json} {n : Int} : identifier? v = some n ↔ HoldsId v n := by
  cases v with
  | number k =>
    cases k with
    | int m =>
      simp only [identifier?, Option.ite_none_right_eq_some, Option.some.injEq,
        Identifier.inRange_iff]
      constructor
      · rintro ⟨hfits, rfl⟩
        exact .integer hfits
      · intro h
        cases h with
        | integer hfits => exact ⟨hfits, rfl⟩
    | float x => exact iff_of_false nofun nofun
  | string s =>
    rw [identifier?, Identifier.ofPaddedText?_eq_some_iff]
    constructor
    · rintro ⟨word, hpads, hspells, hfits⟩
      exact .text hpads hspells hfits
    · intro h
      cases h with
      | text hpads hspells hfits => exact ⟨_, hpads, hspells, hfits⟩
  | null => exact iff_of_false nofun nofun
  | bool b => exact iff_of_false nofun nofun
  | array items => exact iff_of_false nofun nofun
  | object members => exact iff_of_false nofun nofun

end Event

end GradeRelay
