import FrameRouter.Json.Skip
import FrameRouter.Proofs.Json.Numbers
import FrameRouter.Proofs.Json.Texts

/-!
# Every value is passed over

The nestings that are open form a stack.  A value is passed over on any stack,
which is then left as it was; what closes behind the value is taken next.
-/

namespace FrameRouter.Json

/-- Close what closes behind a value and go on with what is left open. -/
def resume (fuel : Nat) (outer : List Nesting) (text : List Char) : Except Failure (List Char) :=
  match closeNestings outer text with
  | .error failure => .error failure
  | .ok ([], rest) => .ok rest
  | .ok (nesting :: others, rest) => skipFrom fuel (nesting :: others) rest

/-- The text is passed over as a value, one step for each character at most. -/
def Skips (written : List Char) : Prop :=
  ∀ (gap : Gap) (outer : List Nesting) (rest : List Char) (fuel : Nat), Delimited rest →
    written.length ≤ fuel → ∃ left, fuel ≤ left + written.length ∧
      skipFrom fuel outer (gap.text ++ (written ++ rest)) = resume left outer rest

/-- A value inside a nesting: the blanks and the key in front of it and the blanks behind. -/
structure Inner where
  front : List Char
  written : List Char
  after : Gap

namespace Inner

def text (inner : Inner) : List Char := inner.front ++ inner.written ++ inner.after.text

/-- The nesting is gone into at the value, whether or not blanks in front were passed over. -/
structure Enters (nesting : Nesting) (inner : Inner) : Prop where
  directly : ∀ rest, ∃ gap : Gap, enter nesting (inner.front ++ (inner.written ++ rest)) =
    .ok (gap.text ++ (inner.written ++ rest))
  behindBlanks : ∀ rest, ∃ gap : Gap,
    enter nesting (skipBlanks (inner.front ++ (inner.written ++ rest))) =
      .ok (gap.text ++ (inner.written ++ rest))
  opening : ∀ rest, ∃ first others,
    skipBlanks (inner.front ++ (inner.written ++ rest)) = first :: others ∧ first ≠ nesting.closing

end Inner

def Item.inner (item : Item) : Inner := ⟨item.before.text, item.written, item.after⟩

def Member.inner (member : Member) : Inner :=
  ⟨member.before.text ++ Piece.quoted member.key ++ member.after.text ++
      ':' :: member.item.before.text, member.item.written, member.item.after⟩

theorem Item.text_inner (item : Item) : item.inner.text = item.text := rfl

theorem Member.text_inner (member : Member) : member.inner.text = member.text := by
  simp [inner, Inner.text, text, Item.text]

/-- An element of a list is gone into as it is. -/
theorem Item.enters {item : Item} (spelled : Spells item.tree item.written) :
    item.inner.Enters .list := by
  obtain ⟨first, others, written, kind⟩ := spelled.exists_first
  have front (rest : List Char) :
      skipBlanks (item.before.text ++ (item.written ++ rest)) = first :: (others ++ rest) := by
    rw [Gap.skip, written, List.cons_append, skipBlanks_cons (Kind.solid kind)]
  refine ⟨fun rest => ⟨item.before, rfl⟩, fun rest => ⟨.none, ?_⟩, fun rest => ?_⟩
  · change Except.ok (skipBlanks (item.before.text ++ (item.written ++ rest))) =
      Except.ok (item.written ++ rest)
    rw [front, written, List.cons_append]
  · refine ⟨first, others ++ rest, front rest, ?_⟩
    rintro rfl
    cases kind

/-- A key and the colon behind it are passed over. -/
theorem skipKey_quoted (before : Gap) (key : List Piece) (after : Gap) (rest : List Char) :
    skipKey (before.text ++ (Piece.quoted key ++ (after.text ++ ':' :: rest))) = .ok rest := by
  have quote := skipBlanks_cons (by decide : isBlank '\x22' = false)
  have colon := skipBlanks_cons (by decide : isBlank ':' = false) rest
  rw [Piece.quoted_append, skipKey, before.skip, quote]
  simp only [Piece.skipText_pieces, bind, Except.bind, after.skip, colon]

/-- A member of an object is gone into behind its key. -/
theorem Member.enters (member : Member) : member.inner.Enters .object := by
  have front (rest : List Char) : member.inner.front ++ (member.inner.written ++ rest) =
      member.before.text ++ (Piece.quoted member.key ++ (member.after.text ++
        ':' :: (member.item.before.text ++ (member.item.written ++ rest)))) := by
    simp [inner]
  have solid (rest : List Char) : skipBlanks (Piece.quoted member.key ++ rest) =
      Piece.quoted member.key ++ rest := by
    rw [Piece.quoted_append, skipBlanks_cons (by decide)]
  refine ⟨fun rest => ⟨member.item.before, ?_⟩, fun rest => ⟨member.item.before, ?_⟩,
    fun rest => ?_⟩
  · rw [front]
    exact skipKey_quoted member.before member.key member.after _
  · rw [front, Gap.skip, solid]
    exact skipKey_quoted .none member.key member.after _
  · rw [front, Gap.skip, solid, Piece.quoted_append]
    exact ⟨_, _, rfl, by decide⟩

section Stack

variable {nesting : Nesting} {inners : List Inner} {outer : List Nesting}

/-- A closing character closes the innermost nesting. -/
theorem resume_closing (nesting : Nesting) (outer : List Nesting) (fuel : Nat) (gap : Gap)
    (rest : List Char) :
    resume fuel (nesting :: outer) (gap.text ++ nesting.closing :: rest) =
      resume fuel outer rest := by
  have solid : isBlank nesting.closing = false := by
    cases nesting <;> decide
  have other : nesting.closing ≠ ',' := by
    cases nesting <;> decide
  simp only [resume, closeNestings, gap.skip, skipBlanks_cons solid, if_neg other, if_true]

/-- A comma announces the next value. -/
theorem resume_comma {inner : Inner} (enters : inner.Enters nesting) (outer : List Nesting)
    (fuel : Nat) (gap : Gap) (rest : List Char) :
    ∃ before : Gap,
      resume fuel (nesting :: outer) (gap.text ++ ',' :: (inner.front ++ (inner.written ++ rest))) =
        skipFrom fuel (nesting :: outer) (before.text ++ (inner.written ++ rest)) := by
  obtain ⟨before, entered⟩ := enters.directly rest
  refine ⟨before, ?_⟩
  simp only [resume, closeNestings, gap.skip, skipBlanks_cons (by decide : isBlank ',' = false),
    if_true, entered, bind, Except.bind, pure, Except.pure]

theorem delimited_closing (nesting : Nesting) (rest : List Char) :
    Delimited (nesting.closing :: rest) := by
  cases nesting with
  | list => exact .cons rest (by decide)
  | object => exact .cons rest (by decide)

/-- The values behind another one are passed over, and what holds them is closed. -/
theorem resume_behind (enters : ∀ inner ∈ inners, inner.Enters nesting)
    (skips : ∀ inner ∈ inners, Skips inner.written) (outer : List Nesting) (after gap : Gap)
    (rest : List Char) (fuel : Nat) (enough : (behind (inners.map Inner.text)).length ≤ fuel) :
    ∃ left, fuel ≤ left + (behind (inners.map Inner.text)).length ∧
      resume fuel (nesting :: outer) (after.text ++ (behind (inners.map Inner.text) ++
        (gap.text ++ nesting.closing :: rest))) = resume left outer rest := by
  induction inners generalizing after fuel with
  | nil =>
      refine ⟨fuel, Nat.le_refl fuel, ?_⟩
      have closed := resume_closing nesting outer fuel (after.append gap) rest
      rwa [Gap.text_append, List.append_assoc] at closed
  | cons inner inners ih =>
      obtain ⟨here, enters⟩ := List.forall_mem_cons.mp enters
      obtain ⟨skip, skips⟩ := List.forall_mem_cons.mp skips
      have length : (behind ((inner :: inners).map Inner.text)).length =
          1 + inner.front.length + inner.written.length + inner.after.text.length +
            (behind (inners.map Inner.text)).length := by
        simp [behind, Inner.text]
        omega
      let others := inner.after.text ++
        (behind (inners.map Inner.text) ++ (gap.text ++ nesting.closing :: rest))
      have delimited : Delimited others :=
        inner.after.delimited (delimited_behind _ (gap.delimited (delimited_closing nesting rest)))
      have text :
          behind ((inner :: inners).map Inner.text) ++ (gap.text ++ nesting.closing :: rest) =
          ',' :: (inner.front ++ (inner.written ++ others)) := by
        simp [behind, Inner.text, others]
      obtain ⟨before, announced⟩ := resume_comma here outer fuel after others
      obtain ⟨middle, spent, skipped⟩ :=
        skip before (nesting :: outer) others fuel delimited (by omega)
      obtain ⟨left, further, closed⟩ := ih enters skips inner.after middle (by omega)
      refine ⟨left, by omega, ?_⟩
      rw [text, announced, skipped]
      exact closed

/-- A step that leaves the stack as it was resumes it. -/
theorem skipFrom_closed {text rest : List Char} (fuel : Nat)
    (stepped : skipStep outer text = closeNestings outer rest) :
    skipFrom (fuel + 1) outer text = resume fuel outer rest := by
  rw [skipFrom, stepped]
  rfl

/-- A nesting that holds nothing is closed at once. -/
theorem openNesting_closing (gap : Gap) (rest : List Char) :
    openNesting nesting outer (gap.text ++ nesting.closing :: rest) = closeNestings outer rest := by
  have solid : isBlank nesting.closing = false := by
    cases nesting <;> decide
  simp only [openNesting, gap.skip, skipBlanks_cons solid, if_true]

/-- A nesting is opened in front of its first value. -/
theorem openNesting_inner {inner : Inner} (enters : inner.Enters nesting) (outer : List Nesting)
    (rest : List Char) :
    ∃ before : Gap, openNesting nesting outer (inner.front ++ (inner.written ++ rest)) =
      .ok (nesting :: outer, before.text ++ (inner.written ++ rest)) := by
  obtain ⟨before, entered⟩ := enters.behindBlanks rest
  obtain ⟨first, others, front, inside⟩ := enters.opening rest
  refine ⟨before, ?_⟩
  rw [front] at entered
  simp only [openNesting, front, if_neg inside, entered, bind, Except.bind, pure, Except.pure]

/-- A list or an object is passed over if the values inside it are. -/
theorem skips_nested (nesting : Nesting) (inners : List Inner) (opening : Char)
    (opens : ∀ (gap : Gap) (outer : List Nesting) (rest : List Char),
      skipStep outer (gap.text ++ opening :: rest) = openNesting nesting outer rest)
    (enters : ∀ inner ∈ inners, inner.Enters nesting)
    (skips : ∀ inner ∈ inners, Skips inner.written) (gap : Gap) :
    Skips (opening :: ([','].intercalate (inners.map Inner.text) ++ gap.text ++
      [nesting.closing])) := by
  intro before outer rest fuel delimited enough
  cases fuel with
  | zero => cases enough
  | succ fuel =>
      have enough := Nat.le_of_succ_le_succ enough
      rw [List.cons_append]
      simp only [List.append_assoc, List.singleton_append, List.length_cons, List.length_append]
        at enough ⊢
      cases inners with
      | nil =>
          refine ⟨fuel, by omega, ?_⟩
          rw [List.map_nil, List.intercalate_nil, List.nil_append]
          exact skipFrom_closed fuel ((opens before outer _).trans (openNesting_closing gap rest))
      | cons inner inners =>
          obtain ⟨here, enters⟩ := List.forall_mem_cons.mp enters
          obtain ⟨skip, skips⟩ := List.forall_mem_cons.mp skips
          let others := inner.after.text ++
            (behind (inners.map Inner.text) ++ (gap.text ++ nesting.closing :: rest))
          have ended : Delimited others := inner.after.delimited
            (delimited_behind _ (gap.delimited (delimited_closing nesting rest)))
          have text : [','].intercalate ((inner :: inners).map Inner.text) ++
              (gap.text ++ nesting.closing :: rest) =
                inner.front ++ (inner.written ++ others) := by
            rw [List.map_cons, intercalate_cons]
            simp [Inner.text, others]
          have length : ([','].intercalate ((inner :: inners).map Inner.text)).length =
              inner.front.length + inner.written.length + inner.after.text.length +
                (behind (inners.map Inner.text)).length := by
            rw [List.map_cons, intercalate_cons]
            simp [Inner.text]
            omega
          obtain ⟨inside, opened⟩ := openNesting_inner here outer others
          obtain ⟨middle, spent, skipped⟩ :=
            skip inside (nesting :: outer) others fuel ended (by omega)
          obtain ⟨left, further, closed⟩ :=
            resume_behind enters skips outer inner.after gap rest middle (by omega)
          refine ⟨left, by omega, ?_⟩
          rw [text, skipFrom, opens, opened]
          exact skipped.trans closed

end Stack

/-- A value that holds no others is passed over in one step. -/
theorem skips_scalar {written : List Char} (nonempty : written ≠ [])
    (scalar : ∀ (gap : Gap) (outer : List Nesting) (rest : List Char), Delimited rest →
      skipStep outer (gap.text ++ (written ++ rest)) = closeNestings outer rest) :
    Skips written := by
  intro gap outer rest fuel delimited enough
  have positive := List.length_pos_iff.mpr nonempty
  obtain ⟨left, rfl⟩ := Nat.exists_eq_add_one.mpr (Nat.lt_of_lt_of_le positive enough)
  refine ⟨left, by omega, skipFrom_closed left (scalar gap outer rest delimited)⟩

/-- A number is no other value. -/
theorem skipStep_number {text rest : List Char} (starts : startsNumber text = true)
    (skipped : skipNumber text = .ok rest) (gap : Gap) (outer : List Nesting) :
    skipStep outer (gap.text ++ text) = closeNestings outer rest := by
  cases text with
  | nil => cases starts
  | cons first others =>
      have figure : first = '-' ∨ first.isDigit = true := by
        simpa [startsNumber] using starts
      have solid : isBlank first = false := by
        rcases figure with rfl | isDigit
        · decide
        · exact isBlank_of_isDigit isDigit
      have other (letter : Char) (none : letter ≠ '-' ∧ letter.isDigit = false) :
          first ≠ letter := by
        rintro rfl
        rcases figure with minus | isDigit
        · exact none.1 minus
        · rw [none.2] at isDigit
          cases isDigit
      have scalar : skipScalar (first :: others) = .ok rest := by
        simp [skipScalar, other 'n' (by decide), other 't' (by decide), other 'f' (by decide),
          other '\x22' (by decide), starts, skipped]
      simp [skipStep, gap.skip, skipBlanks_cons solid, other '[' (by decide),
        other '\x7b' (by decide), scalar, bind, Except.bind]

/-- Every value is passed over. -/
theorem Spells.skips {tree : Tree} {written : List Char} (spelled : Spells tree written) :
    Skips written := by
  induction spelled with
  | null =>
      refine skips_scalar (by decide) fun gap outer rest delimited => ?_
      rw [skipStep, gap.skip]
      rfl
  | boolean value =>
      refine skips_scalar (by cases value <;> decide) fun gap outer rest delimited => ?_
      rw [skipStep, gap.skip]
      cases value <;> rfl
  | number numeral =>
      have starts := numeral.startsNumber_text
      refine skips_scalar ?_ fun gap outer rest delimited =>
        skipStep_number (starts rest) (numeral.skipNumber_text delimited) gap outer
      intro none
      have begins := starts []
      rw [none] at begins
      cases begins
  | text pieces =>
      refine skips_scalar (by simp [Piece.quoted]) fun gap outer rest delimited => ?_
      have scalar :
          skipScalar ('\x22' :: (pieces.flatMap Piece.text ++ '\x22' :: rest)) = .ok rest :=
        Piece.skipText_pieces pieces rest
      rw [Piece.quoted_append, skipStep, gap.skip, skipBlanks_cons (by decide)]
      simp [scalar, bind, Except.bind]
  | list items gap spelled ih =>
      have inners : (items.map Item.inner).map Inner.text = items.map Item.text := by
        simp [Item.text_inner, Function.comp_def]
      have nested := skips_nested .list (items.map Item.inner) '['
        (fun gap outer rest => by rw [skipStep, gap.skip, skipBlanks_cons (by decide)]; rfl)
        (List.forall_mem_map.mpr fun item membership => Item.enters (spelled item membership))
        (List.forall_mem_map.mpr ih) gap
      rwa [inners] at nested
  | object members gap spelled ih =>
      have inners : (members.map Member.inner).map Inner.text = members.map Member.text := by
        simp [Member.text_inner, Function.comp_def]
      have nested := skips_nested .object (members.map Member.inner) '\x7b'
        (fun gap outer rest => by rw [skipStep, gap.skip, skipBlanks_cons (by decide)]; rfl)
        (List.forall_mem_map.mpr fun member _ => member.enters)
        (List.forall_mem_map.mpr ih) gap
      rwa [inners] at nested

/-- A value is passed over up to what follows it. -/
theorem Spells.skipValue {tree : Tree} {written : List Char} (spelled : Spells tree written)
    (gap : Gap) {rest : List Char} (delimited : Delimited rest) :
    skipValue (gap.text ++ (written ++ rest)) = .ok rest := by
  obtain ⟨left, _, skipped⟩ := spelled.skips gap [] rest
    ((gap.text ++ (written ++ rest)).length + 1) delimited (by simp; omega)
  exact skipped

end FrameRouter.Json
