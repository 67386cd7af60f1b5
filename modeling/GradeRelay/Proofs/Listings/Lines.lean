import GradeRelay.Listing
import GradeRelay.Proofs.Events.Identifiers
import GradeRelay.Proofs.Listings.Quotes
/-!
# Listings read back

A listing has a line for each thing listed, and whatever stands in a name, no line can be taken for
another or for two. The line of a retry is read from the left, each part up to where it must end;
the line of a review falls into words, and spaces only pad its columns.

* `Identifier.writes_toString`: numbers are told from their texts, and these hold only digits and a
  sign;
* `splitOn_lines`, `listing_inj`: a listing is told apart into its lines;
* `Retry.Key.label_append_inj`, `Retry.line_eq_iff`: a retry's line shows its key and its time;
* `Review.words_line`, `Review.line_eq_iff`: a review's line shows what stands in its columns;
* **`listings_faithful`**: so does each listing without colours.
-/

namespace GradeRelay

/-! ## Numbers -/

namespace Identifier

theorem writes_toString (n : Int) : Writes n (toString n).toList := by
  have hrepr : toString n = n.repr := rfl
  rw [hrepr, Int.repr_eq_if]
  split
  next h =>
    obtain ⟨k, rfl⟩ := Int.eq_ofNat_of_zero_le h
    rw [Int.toNat_natCast, Nat.toList_repr]
    exact .unsigned k 0
  next h =>
    obtain ⟨k, rfl⟩ : ∃ k : Nat, n = -(k : Int) := ⟨n.natAbs, by omega⟩
    rw [Int.neg_neg, Int.toNat_natCast, String.toList_append, Nat.toList_repr]
    exact .minus k 0

theorem toString_inj {m n : Int} (h : (toString m).toList = (toString n).toList) : m = n := by
  have hm := ofSigned?_eq_some_iff.2 (writes_toString m).spells
  have hn := ofSigned?_eq_some_iff.2 (writes_toString n).spells
  rw [h, hn] at hm
  exact (Option.some.inj hm).symm

theorem Spells.digit_or_sign {cs : List Char} {n : Int} (h : Spells cs n) :
    ∀ c ∈ cs, c.isDigit = true ∨ c = '+' ∨ c = '-' := by
  cases h with
  | unsigned hds => exact fun c hc => .inl (hds.2 c hc)
  | plus hds =>
    exact List.forall_mem_cons.2 ⟨.inr (.inl rfl), fun c hc => .inl (hds.2 c hc)⟩
  | minus hds =>
    exact List.forall_mem_cons.2 ⟨.inr (.inr rfl), fun c hc => .inl (hds.2 c hc)⟩

theorem not_mem_toString {c : Char} (n : Int)
    (hc : c.isDigit = false ∧ c ≠ '+' ∧ c ≠ '-') : c ∉ (toString n).toList := by
  intro h
  rcases (writes_toString n).spells.digit_or_sign c h with h | h | h
  · rw [hc.1] at h
    cases h
  · exact hc.2.1 h
  · exact hc.2.2 h

theorem toString_append_inj {m n : Int} {c : Char} {x y : List Char}
    (hc : c.isDigit = false ∧ c ≠ '+' ∧ c ≠ '-')
    (h : (toString m).toList ++ c :: x = (toString n).toList ++ c :: y) : m = n ∧ x = y := by
  obtain ⟨hmn, hxy⟩ := append_cons_inj (not_mem_toString m hc) (not_mem_toString n hc) h
  exact ⟨toString_inj hmn, hxy⟩

end Identifier

/-! ## Lines of a listing -/

section Lines

variable {α β γ : Type} {line : α → String} {remark : String} {l l' : List α}

theorem splitOn_lines (hline : ∀ a, '\n' ∉ (line a).toList) (hl : l ≠ []) :
    ("\n".intercalate (l.map line)).toList.splitOn '\n' = l.map fun a => (line a).toList := by
  rw [String.toList_intercalate, List.map_map]
  refine List.splitOn_intercalate _ (fun w hw => ?_) (by simpa using hl)
  obtain ⟨a, -, rfl⟩ := List.mem_map.1 hw
  exact hline a

/-- **A listing shows its lines**, and whether it has any: no line is the remark that there are
none. -/
theorem listing_inj (hline : ∀ a, '\n' ∉ (line a).toList) (hremark : '\n' ∉ remark.toList)
    (hne : ∀ a, line a ≠ remark)
    (h : (if l.isEmpty then remark else "\n".intercalate (l.map line)) =
      if l'.isEmpty then remark else "\n".intercalate (l'.map line)) :
    l.map line = l'.map line := by
  have hone : ∀ (a : α) (l : List α), remark ≠ "\n".intercalate ((a :: l).map line) := by
    intro a l heq
    have hsplit := splitOn_lines hline (List.cons_ne_nil a l)
    rw [← heq, List.splitOn_eq_singleton hremark] at hsplit
    exact hne a (String.toList_injective (List.cons.inj hsplit).1.symm)
  cases l with
  | nil =>
    cases l' with
    | nil => rfl
    | cons a l' => exact absurd h (hone a l')
  | cons a l =>
    cases l' with
    | nil => exact absurd h.symm (hone a l)
    | cons b l' =>
      have hsplit := congrArg (fun text => text.toList.splitOn '\n') h
      rw [if_neg (by simp), if_neg (by simp), splitOn_lines hline (List.cons_ne_nil a l),
        splitOn_lines hline (List.cons_ne_nil b l')] at hsplit
      exact map_eq_map_of_imp (fun a _ b _ hab => String.toList_injective hab) hsplit

/-- **Two listings are the same text** exactly when they show the same. -/
theorem listing_eq_iff {shown : α → β} (hline : ∀ a, '\n' ∉ (line a).toList)
    (hremark : '\n' ∉ remark.toList) (hne : ∀ a, line a ≠ remark)
    (hshown : ∀ a b, line a = line b ↔ shown a = shown b) :
    ((if l.isEmpty then remark else "\n".intercalate (l.map line)) =
      if l'.isEmpty then remark else "\n".intercalate (l'.map line)) ↔
    l.map shown = l'.map shown := by
  constructor
  · intro h
    exact map_eq_map_of_imp (fun a _ b _ => (hshown a b).1) (listing_inj hline hremark hne h)
  · intro h
    have hlines : l.map line = l'.map line := map_eq_map_of_imp (fun a _ b _ => (hshown a b).2) h
    have hempty : l.isEmpty = l'.isEmpty := by
      rw [← List.isEmpty_map (f := line), hlines, List.isEmpty_map]
    rw [hlines, hempty]

end Lines

/-! ## Retries -/

theorem Resource.tag_append_inj {r r' : Resource} {x y : List Char}
    (h : r.tag.toList ++ ')' :: x = r'.tag.toList ++ ')' :: y) : r = r' ∧ x = y := by
  have hclose : ∀ r : Resource, ')' ∉ r.tag.toList := fun r => by cases r <;> decide
  obtain ⟨htag, hxy⟩ := append_cons_inj (hclose r) (hclose r') h
  exact ⟨tag_injective (String.toList_injective htag), hxy⟩

theorem Retry.Key.toList_label (k : Retry.Key) : k.label.toList =
    '(' :: ((toString k.learnerId).toList ++ ',' :: ' ' :: ((toString k.courseId).toList ++
      ',' :: ' ' :: ((Text.quote k.assessmentName).toList ++ ',' :: ' ' ::
        ((toString k.attemptId).toList ++ ',' :: ' ' :: (k.resource.tag.toList ++ [')']))))) := by
  -- not `simp [label]`: the equation lemma of a chain of strings is slow to make
  delta label
  simp

/-- **The text of a key** is told from what follows it, and shows the key. -/
theorem Retry.Key.label_append_inj {k k' : Retry.Key} {x y : List Char}
    (h : k.label.toList ++ x = k'.label.toList ++ y) : k = k' ∧ x = y := by
  have hcomma : ','.isDigit = false ∧ ',' ≠ '+' ∧ ',' ≠ '-' := by decide
  simp only [toList_label, List.cons_append, List.append_assoc] at h
  obtain ⟨hlearner, h⟩ := Identifier.toString_append_inj hcomma (List.cons.inj h).2
  obtain ⟨hcourse, h⟩ := Identifier.toString_append_inj hcomma (List.cons.inj h).2
  obtain ⟨hname, h⟩ := Text.quote_append_inj (List.cons.inj h).2
  obtain ⟨hattempt, h⟩ :=
    Identifier.toString_append_inj hcomma (List.cons.inj (List.cons.inj h).2).2
  obtain ⟨hresource, h⟩ := Resource.tag_append_inj (List.cons.inj h).2
  refine ⟨?_, h⟩
  cases k
  cases k'
  simp only at hlearner hcourse hname hattempt hresource
  subst hlearner hcourse hname hattempt hresource
  rfl

theorem Retry.Key.newline_not_mem_label (k : Retry.Key) : '\n' ∉ k.label.toList := by
  have hnumber : ∀ n : Int, '\n' ∉ (toString n).toList := fun n =>
    Identifier.not_mem_toString n (by decide)
  have htag : '\n' ∉ k.resource.tag.toList := by cases k.resource <;> decide
  simp +decide only [toList_label, List.mem_cons, List.mem_append, hnumber, htag,
    Text.newline_not_mem_quote]

/-- What the line of a retry shows. -/
def Retry.shown (r : Retry) : Retry.Key × Timestamp := (r.key, r.timeAdded)

theorem Retry.toList_line (r : Retry) : (r.line false).toList =
    '↻' :: ' ' :: (r.key.label.toList ++ ("  added ".toList ++ (toString r.timeAdded).toList)) := by
  delta line
  simp [Emphasis.apply]

theorem Retry.newline_not_mem_line (r : Retry) : '\n' ∉ (r.line false).toList := by
  have hnumber : '\n' ∉ (toString r.timeAdded).toList :=
    Identifier.not_mem_toString _ (by decide)
  simp +decide only [toList_line, List.mem_cons, List.mem_append, hnumber,
    Key.newline_not_mem_label]

theorem Retry.line_eq_iff {r r' : Retry} : r.line false = r'.line false ↔ r.shown = r'.shown := by
  constructor
  · intro h
    have hlist := congrArg String.toList h
    rw [toList_line, toList_line] at hlist
    obtain ⟨hkey, htime⟩ := Key.label_append_inj (List.cons.inj (List.cons.inj hlist).2).2
    exact Prod.ext hkey (Identifier.toString_inj (List.append_cancel_left htime))
  · intro h
    obtain ⟨hkey, htime⟩ := Prod.mk.inj h
    refine String.toList_injective ?_
    rw [toList_line, toList_line, hkey, htime]

/-! ## Reviews -/

/-- The words of a line: what stands between spaces. -/
def words (cs : List Char) : List (List Char) := (cs.splitOn ' ').filter fun w => w ≠ []

/-- The text is one word. -/
def IsWord (w : List Char) : Prop := w ≠ [] ∧ ' ' ∉ w

@[simp]
theorem words_append (cs ds : List Char) : words (cs ++ ' ' :: ds) = words cs ++ words ds := by
  rw [words, List.splitOn_append_cons_self, List.filter_append]
  rfl

@[simp]
theorem words_space (cs : List Char) : words (' ' :: cs) = words cs := words_append [] cs

theorem words_singleton {w : List Char} (hw : IsWord w) : words w = [w] := by
  rw [words, List.splitOn_eq_singleton hw.2, List.filter_cons_of_pos (by simpa using hw.1)]
  rfl

@[simp]
theorem words_replicate (n : Nat) : words (List.replicate n ' ') = [] := by
  induction n with
  | zero => rfl
  | succ n ih => simp [List.replicate_succ, ih]

@[simp]
theorem words_alignLeft (width : Nat) (s : String) :
    words (Text.alignLeft width s).toList = words s.toList := by
  rw [Text.toList_alignLeft]
  cases width - s.length with
  | zero => rw [List.replicate_zero, List.append_nil]
  | succ n => simp [List.replicate_succ]

@[simp]
theorem words_alignRight (width : Nat) (s : String) :
    words (Text.alignRight width s).toList = words s.toList := by
  rw [Text.toList_alignRight]
  induction width - s.length with
  | zero => rfl
  | succ n ih => simp [List.replicate_succ, ih]

theorem isWord_toString (n : Int) : IsWord (toString n).toList := by
  refine ⟨fun h => ?_, Identifier.not_mem_toString n (by decide)⟩
  have hspells := (Identifier.writes_toString n).spells
  rw [h] at hspells
  cases hspells with
  | unsigned hds => exact hds.1 rfl

theorem isWord_orDash (n : Option Int) : IsWord (orDash n).toList := by
  cases n with
  | none => exact ⟨by decide, by decide⟩
  | some n => exact isWord_toString n

theorem orDash_inj {m n : Option Int} (h : (orDash m).toList = (orDash n).toList) : m = n := by
  have hdash : ∀ n : Int, "-".toList ≠ (toString n).toList := by
    intro n h
    have hspells := (Identifier.writes_toString n).spells
    rw [← h] at hspells
    cases hspells with
    | unsigned hds => exact Identifier.not_areDigits_of_sign rfl hds
    | minus hds => exact hds.1 rfl
  cases m with
  | none =>
    cases n with
    | none => rfl
    | some n => exact absurd h (hdash n)
  | some m =>
    cases n with
    | none => exact absurd h.symm (hdash m)
    | some n => exact congrArg some (Identifier.toString_inj h)

theorem Review.State.isWord_label (st : Review.State) : IsWord st.label.toList := by
  cases st <;> exact ⟨by decide, by decide⟩

theorem Review.State.label_inj {st st' : Review.State}
    (h : st.label.toList = st'.label.toList) : st = st' := by
  cases st <;> cases st' <;> first | rfl | exact absurd h (by decide)

/-- What the line of a review shows. -/
def Review.shown (r : Review) :
    AttemptId × Review.State × Option UserId × Option AttemptId × Ordinal :=
  (r.attemptId, r.state, r.assignee, r.priorAttemptId, r.attemptNumber)

theorem Review.toList_line (r : Review) : (r.line false).toList =
    "attempt".toList ++ ' ' :: ((Text.alignRight 6 (toString r.attemptId)).toList ++
      ' ' :: ' ' :: ((Text.alignLeft 8 r.state.label).toList ++
        ' ' :: ' ' :: ("assignee".toList ++ ' ' :: ((Text.alignLeft 8 (orDash r.assignee)).toList ++
          ' ' :: ' ' :: ("prior".toList ++ ' ' ::
            ((Text.alignLeft 8 (orDash r.priorAttemptId)).toList ++
              ' ' :: ' ' :: '#' :: (toString (r.attemptNumber.toNat : Int)).toList)))))) := by
  have hnumber : toString r.attemptNumber.toNat = toString (r.attemptNumber.toNat : Int) := rfl
  delta line
  rw [hnumber]
  simp [State.column, Emphasis.apply]

theorem Review.words_line (r : Review) : words (r.line false).toList =
    ["attempt".toList, (toString r.attemptId).toList, r.state.label.toList, "assignee".toList,
      (orDash r.assignee).toList, "prior".toList, (orDash r.priorAttemptId).toList,
      '#' :: (toString (r.attemptNumber.toNat : Int)).toList] := by
  have hnumber : IsWord ('#' :: (toString (r.attemptNumber.toNat : Int)).toList) :=
    ⟨List.cons_ne_nil _ _,
      List.not_mem_cons_of_ne_of_not_mem (by decide) (isWord_toString _).2⟩
  rw [toList_line]
  simp only [words_append, words_space, words_alignLeft, words_alignRight,
    words_singleton (isWord_toString _), words_singleton (State.isWord_label _),
    words_singleton (isWord_orDash _), words_singleton hnumber]
  rfl

theorem Review.newline_not_mem_line (r : Review) : '\n' ∉ (r.line false).toList := by
  have hnumber : ∀ n : Int, '\n' ∉ (toString n).toList := fun n =>
    Identifier.not_mem_toString n (by decide)
  have hdash : ∀ n, '\n' ∉ (orDash n).toList
    | none => by decide
    | some n => hnumber n
  have hstate : '\n' ∉ r.state.label.toList := by cases r.state <;> decide
  simp +decide only [toList_line, Text.toList_alignLeft, Text.toList_alignRight, List.mem_cons,
    List.mem_append, List.mem_replicate, hnumber, hdash, hstate, and_false, or_false,
    not_false_eq_true]

theorem Review.line_eq_iff {r r' : Review} : r.line false = r'.line false ↔ r.shown = r'.shown := by
  constructor
  · intro h
    have hwords := congrArg (fun line => words line.toList) h
    simp only [words_line, List.cons.injEq, true_and, and_true] at hwords
    obtain ⟨hid, hstate, hassignee, hprior, hnumber⟩ := hwords
    have hnumber : r.attemptNumber.toNat = r'.attemptNumber.toNat :=
      Int.ofNat_inj.1 (Identifier.toString_inj hnumber)
    rw [shown, shown, Identifier.toString_inj hid, State.label_inj hstate, orDash_inj hassignee,
      orDash_inj hprior, UInt32.toNat_inj.1 hnumber]
  · intro h
    obtain ⟨hid, hstate, hassignee, hprior, hnumber⟩ : _ ∧ _ ∧ _ ∧ _ ∧ _ := by
      simpa only [shown, Prod.mk.injEq] using h
    refine String.toList_injective ?_
    rw [toList_line, toList_line, hid, hstate, hassignee, hprior, hnumber]

/-! ## Whole listings -/

/-- **Listings are faithful**, whatever the names in them. Of retries, each has one line of its
own, in order; two listings without colours are the same text exactly when they show the same keys
and times in the same order, and the text of a key belongs to that key alone. Two listings of
reviews are the same text exactly when they show the same attempts, states, assignees, prior
attempts and attempt numbers in the same order. -/
theorem listings_faithful :
    (∀ (r : Retry) (rs : List Retry), (listOutbox false (r :: rs)).toList.splitOn '\n' =
      (r :: rs).map fun r => (r.line false).toList) ∧
    (∀ rs rs' : List Retry, listOutbox false rs = listOutbox false rs' ↔
      rs.map Retry.shown = rs'.map Retry.shown) ∧
    (∀ k k' : Retry.Key, k.label = k'.label ↔ k = k') ∧
    ∀ qs qs' : List Review, listQueue false qs = listQueue false qs' ↔
      qs.map Review.shown = qs'.map Review.shown := by
  refine ⟨fun r rs => ?_, fun rs rs' => ?_, fun k k' => ⟨fun h => ?_, congrArg _⟩, fun qs qs' => ?_⟩
  · have hlines : listOutbox false (r :: rs) =
        "\n".intercalate ((r :: rs).map fun r => r.line false) := by rw [listOutbox]; rfl
    rw [hlines]
    exact splitOn_lines Retry.newline_not_mem_line (List.cons_ne_nil r rs)
  · refine listing_eq_iff Retry.newline_not_mem_line (by decide) (fun r h => ?_)
      fun _ _ => Retry.line_eq_iff
    have hlist := congrArg String.toList h
    rw [Retry.toList_line] at hlist
    exact absurd (List.cons.inj hlist).1 (by decide)
  · have hlist : k.label.toList ++ [] = k'.label.toList ++ [] := by rw [h]
    exact (Retry.Key.label_append_inj hlist).1
  · refine listing_eq_iff Review.newline_not_mem_line (by decide) (fun r h => ?_)
      fun _ _ => Review.line_eq_iff
    have hwords := congrArg (fun text => (words text.toList).head?) h
    simp only [Review.words_line, List.head?_cons] at hwords
    exact absurd hwords (by decide)

end GradeRelay
