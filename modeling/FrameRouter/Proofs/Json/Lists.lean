import FrameRouter.Json.Sequence
import FrameRouter.Proofs.Json.Meaning
import FrameRouter.Proofs.Text.Digits

/-!
# Lists element by element

A list means the list of what its elements mean, or the pair of it if there are
two.  An element is read up to what stands behind it, so the elements of a list
are read one after the other.
-/

namespace FrameRouter.Json

variable {α : Type}

namespace Tree

def pair? (meaning : Tree → Option α) : Tree → Option (α × α)
  | .list [first, second] => do return (← meaning first, ← meaning second)
  | _ => none

def sequence? (meaning : Tree → Option α) : Tree → Option (List α)
  | .list items => items.mapM meaning
  | _ => none

end Tree

section Elements

/-- A closing bracket is no element. -/
theorem nextElement_closing (first : Bool) (gap : Gap) (rest : List Char) :
    nextElement first (gap.text ++ ']' :: rest) = .ok none := by
  rw [nextElement, gap.skip, skipBlanks_cons (by decide)]
  rfl

theorem closeSequence_closing (gap : Gap) (rest : List Char) :
    closeSequence (gap.text ++ ']' :: rest) = .ok rest := by
  rw [closeSequence, gap.skip, skipBlanks_cons (by decide)]
  rfl

/-- A sequence does not end in front of a comma. -/
theorem closeSequence_comma (gap : Gap) (rest : List Char) :
    (closeSequence (gap.text ++ ',' :: rest)).toOption = none := by
  rw [closeSequence, gap.skip, skipBlanks_cons (by decide)]
  rfl

variable {item : Item}

/-- The first element stands behind blanks. -/
theorem nextElement_first (spelled : Spells item.tree item.written) (rest : List Char) :
    nextElement true (item.text ++ rest) =
      .ok (some (item.written ++ (item.after.text ++ rest))) := by
  obtain ⟨first, others, written, kind⟩ := spelled.exists_first
  rw [Item.text, List.append_assoc, List.append_assoc, nextElement, Gap.skip, written,
    List.cons_append, skipBlanks_cons (Kind.solid kind)]
  split
  · rename_i none
    cases none
  · rename_i same
    cases same
    cases kind
  · rename_i same
    cases same
    rfl

/-- Another element stands behind a comma. -/
theorem nextElement_comma (spelled : Spells item.tree item.written) (gap : Gap)
    (rest : List Char) :
    nextElement false (gap.text ++ ',' :: (item.text ++ rest)) =
      .ok (some (item.written ++ (item.after.text ++ rest))) := by
  obtain ⟨first, others, written, kind⟩ := spelled.exists_first
  have inside : first ≠ ']' := by
    rintro rfl
    cases kind
  have front : skipBlanks (item.text ++ rest) =
      first :: (others ++ (item.after.text ++ rest)) := by
    rw [Item.text, List.append_assoc, List.append_assoc, Gap.skip, written, List.cons_append,
      skipBlanks_cons (Kind.solid kind)]
  rw [nextElement, gap.skip, skipBlanks_cons (by decide), written]
  simp [front, inside]

end Elements

section Sequences

variable {read : Reader α} {meaning : Tree → Option α} {items : List Item}

/-- What stands behind an element of a list ends a number. -/
theorem delimited_items (items : List Item) (gap : Gap) (rest : List Char) :
    Delimited (behind (items.map Item.text) ++ (gap.text ++ ']' :: rest)) :=
  delimited_behind _ (gap.delimited (.cons rest (by decide)))

/-- With an element in front the reading goes on behind it. -/
theorem elements_next {fuel : Nat} {first : Bool} {done : List α} {text front : List Char}
    (next : nextElement first text = .ok (some front)) :
    (elements read (fuel + 1) first done text).toOption =
      (read front).toOption.bind fun taken =>
        (elements read fuel false (taken.1 :: done) taken.2).toOption := by
  rw [elements, next]
  cases taken : read front with
  | error failure => simp [taken, Except.toOption]
  | ok result => simp [taken, Except.toOption]

/-- A closing bracket ends the elements. -/
theorem elements_closing (read : Reader α) (fuel : Nat) (first : Bool) (done : List α) (gap : Gap)
    (rest : List Char) :
    (elements read (fuel + 1) first done (gap.text ++ ']' :: rest)).toOption =
      some (done.reverse, rest) := by
  rw [elements, nextElement_closing]
  simp only [closeSequence_closing]
  rfl

/-- The elements behind another one are read up to the closing bracket. -/
theorem elements_behind (understands : Understands read meaning)
    (spelled : ∀ item ∈ items, Spells item.tree item.written) {fuel : Nat}
    (enough : items.length < fuel) (done : List α) (after gap : Gap) (rest : List Char) :
    (elements read fuel false done (after.text ++ (behind (items.map Item.text) ++
        (gap.text ++ ']' :: rest)))).toOption =
      ((items.map Item.tree).mapM meaning).map fun values => (done.reverse ++ values, rest) := by
  induction items generalizing fuel done after with
  | nil =>
      obtain ⟨fuel, rfl⟩ := Nat.exists_eq_add_one.mpr enough
      have closed := elements_closing read fuel false done (after.append gap) rest
      rw [Gap.text_append, List.append_assoc] at closed
      simpa [behind] using closed
  | cons item items ih =>
      obtain ⟨fuel, rfl⟩ := Nat.exists_eq_add_one.mpr (Nat.zero_lt_of_lt enough)
      obtain ⟨here, further⟩ := List.forall_mem_cons.mp spelled
      have next := nextElement_comma here after
        (behind (items.map Item.text) ++ (gap.text ++ ']' :: rest))
      have value := understands _ _ here .none _
        (item.after.delimited (delimited_items items gap rest))
      have text : behind ((item :: items).map Item.text) ++ (gap.text ++ ']' :: rest) =
          ',' :: (item.text ++ (behind (items.map Item.text) ++ (gap.text ++ ']' :: rest))) := by
        simp [behind]
      rw [Gap.text_none, List.nil_append] at value
      rw [text, elements_next next, value, List.map_cons, List.mapM_cons]
      cases meaning item.tree with
      | none => rfl
      | some first =>
          refine (ih further (Nat.lt_of_succ_lt_succ enough) (first :: done) item.after).trans ?_
          cases (items.map Item.tree).mapM meaning with
          | none => rfl
          | some values => simp

/-- What does not begin with a bracket is no list. -/
theorem sequence_refuses {first : Char} {kind : Kind} (begins : Kind.ofInitial first = some kind)
    (other : kind ≠ .list) (read : Reader α) (gap : Gap) (rest : List Char) :
    (sequence read (gap.text ++ first :: rest)).toOption = none := by
  rw [sequence, gap.skip, skipBlanks_cons (Kind.solid begins)]
  split
  · rfl
  · rename_i same
    cases same
    cases begins
    exact absurd rfl other
  · exact toOption_wrongType _ _

/-- The elements of a list are read up to the closing bracket. -/
theorem elements_items (understands : Understands read meaning)
    (spelled : ∀ item ∈ items, Spells item.tree item.written) {fuel : Nat}
    (enough : items.length ≤ fuel) (gap : Gap) (rest : List Char) :
    (elements read (fuel + 1) true [] ([','].intercalate (items.map Item.text) ++
        (gap.text ++ ']' :: rest))).toOption =
      ((items.map Item.tree).mapM meaning).map (·, rest) := by
  cases items with
  | nil => exact elements_closing read fuel true [] gap rest
  | cons item items =>
      obtain ⟨here, further⟩ := List.forall_mem_cons.mp spelled
      have next := nextElement_first here
        (behind (items.map Item.text) ++ (gap.text ++ ']' :: rest))
      have value := understands _ _ here .none _
        (item.after.delimited (delimited_items items gap rest))
      rw [Gap.text_none, List.nil_append] at value
      rw [List.map_cons, intercalate_cons, List.append_assoc, elements_next next, value,
        List.map_cons, List.mapM_cons]
      cases meaning item.tree with
      | none => rfl
      | some first =>
          refine (elements_behind understands further enough [first] item.after gap rest).trans ?_
          cases (items.map Item.tree).mapM meaning <;> rfl

/-- A list is understood if its elements are. -/
theorem Understands.sequence (understands : Understands read meaning) :
    Understands (sequence read) (Tree.sequence? meaning) := by
  intro tree written spelled gap rest delimited
  cases tree with
  | list trees =>
      cases spelled with
      | list items inner spelled =>
          rw [bracketed_append, Json.sequence, gap.skip, skipBlanks_cons (by decide)]
          refine elements_items understands spelled ?_ inner rest
          have length := length_intercalate (items.map Item.text)
          rw [List.length_map] at length
          simp only [List.length_append, List.length_cons]
          omega
  | _ =>
      obtain ⟨first, others, rfl, kind⟩ := spelled.exists_first
      exact sequence_refuses kind nofun read gap (others ++ rest)

/-- A list means the list of what its elements mean. -/
theorem Tree.sequence?_eq_some_iff {tree : Tree} {values : List α} :
    tree.sequence? meaning = some values ↔ ∃ trees, tree = .list trees ∧
      List.Forall₂ (fun value tree => meaning tree = some value) values trees := by
  cases tree with
  | list trees => simp [Tree.sequence?, mapM_eq_some_iff]
  | _ =>
      refine ⟨nofun, ?_⟩
      rintro ⟨_, same, _⟩
      cases same

end Sequences

section Pairs

variable {read : Reader α} {meaning : Tree → Option α}

/-- What does not begin with a bracket is no pair. -/
theorem pair_refuses {first : Char} {kind : Kind} (begins : Kind.ofInitial first = some kind)
    (other : kind ≠ .list) (read : Reader α) (gap : Gap) (rest : List Char) :
    (pair read (gap.text ++ first :: rest)).toOption = none := by
  rw [pair, gap.skip, skipBlanks_cons (Kind.solid begins)]
  split
  · rfl
  · rename_i same
    cases same
    cases begins
    exact absurd rfl other
  · exact toOption_wrongType _ _

/-- A pair is one element, another one and the closing bracket. -/
theorem pair_bracket (read : Reader α) (gap : Gap) (text : List Char) :
    (pair read (gap.text ++ '[' :: text)).toOption =
      (pairElement read 0 text).toOption.bind fun first =>
        (pairElement read 1 first.2).toOption.bind fun second =>
          (closeSequence second.2).toOption.bind fun rest => some ((first.1, second.1), rest) := by
  rw [pair, gap.skip, skipBlanks_cons (by decide)]
  change (pairElement read 0 text >>= fun first => pairElement read 1 first.2 >>= fun second =>
    closeSequence second.2 >>= fun rest => pure ((first.1, second.1), rest)).toOption = _
  simp only [Except.toOption_bind]
  rfl

theorem Tree.pair?_eq_some_iff {tree : Tree} {first second : α} :
    tree.pair? meaning = some (first, second) ↔
      ∃ left right, tree = .list [left, right] ∧ meaning left = some first ∧
        meaning right = some second := by
  constructor
  · intro means
    unfold Tree.pair? at means
    split at means
    · rename_i left right
      obtain ⟨one, here, further⟩ := Option.bind_eq_some_iff.mp means
      obtain ⟨other, there, same⟩ := Option.bind_eq_some_iff.mp further
      cases same
      exact ⟨left, right, rfl, here, there⟩
    · cases means
  · rintro ⟨left, right, rfl, here, there⟩
    simp [Tree.pair?, here, there]

variable {item : Item} {rest : List Char}

/-- The first element is read in front of what follows it. -/
theorem pairElement_first (understands : Understands read meaning)
    (spelled : Spells item.tree item.written) (delimited : Delimited rest) :
    (pairElement read 0 (item.text ++ rest)).toOption =
      (meaning item.tree).map (·, item.after.text ++ rest) := by
  have next : nextElement (0 = 0) (item.text ++ rest) = _ := nextElement_first spelled rest
  rw [pairElement, next]
  exact understands _ _ spelled .none _ (item.after.delimited delimited)

/-- The second element is read behind a comma. -/
theorem pairElement_second (understands : Understands read meaning)
    (spelled : Spells item.tree item.written) (delimited : Delimited rest) (gap : Gap) :
    (pairElement read 1 (gap.text ++ ',' :: (item.text ++ rest))).toOption =
      (meaning item.tree).map (·, item.after.text ++ rest) := by
  have next : nextElement (1 = 0) (gap.text ++ ',' :: (item.text ++ rest)) = _ :=
    nextElement_comma spelled gap rest
  rw [pairElement, next]
  exact understands _ _ spelled .none _ (item.after.delimited delimited)

/-- A pair does not end in front of an element. -/
theorem pairElement_closing (read : Reader α) (position : Nat) (gap : Gap) (rest : List Char) :
    (pairElement read position (gap.text ++ ']' :: rest)).toOption = none := by
  rw [pairElement, nextElement_closing]
  rfl

/-- One element is no pair. -/
theorem pair_single (understands : Understands read meaning)
    (spelled : Spells item.tree item.written) (gap inner : Gap) (rest : List Char) :
    (pair read (gap.text ++ '[' :: (item.text ++ (inner.text ++ ']' :: rest)))).toOption =
      none := by
  have delimited : Delimited (inner.text ++ ']' :: rest) :=
    inner.delimited (.cons rest (by decide))
  have closing := pairElement_closing read 1 (item.after.append inner) rest
  rw [Gap.text_append, List.append_assoc] at closing
  rw [pair_bracket, pairElement_first understands spelled delimited]
  cases meaning item.tree with
  | none => rfl
  | some first => exact congrArg (Option.bind · _) closing

/-- Two elements are a pair if the bracket is closed behind them. -/
theorem pair_double (understands : Understands read meaning) {one two : Item}
    (here : Spells one.tree one.written) (next : Spells two.tree two.written)
    (others : List Item) (gap inner : Gap) (rest : List Char) :
    (pair read (gap.text ++ '[' :: (one.text ++ ',' :: (two.text ++
        (behind (others.map Item.text) ++ (inner.text ++ ']' :: rest)))))).toOption =
      (Tree.pair? meaning (.list (one.tree :: two.tree :: others.map Item.tree))).map
        (·, rest) := by
  have second := pairElement_second understands next (delimited_items others inner rest) one.after
  rw [pair_bracket, pairElement_first understands here (.cons _ (by decide))]
  cases left : meaning one.tree with
  | none => cases others <;> simp [Tree.pair?, left]
  | some first =>
      refine (congrArg (Option.bind · _) second).trans ?_
      cases right : meaning two.tree with
      | none => cases others <;> simp [Tree.pair?, left, right]
      | some other =>
          cases others with
          | nil =>
              have closed := closeSequence_closing (two.after.append inner) rest
              rw [Gap.text_append, List.append_assoc] at closed
              refine (congrArg (fun outcome => Option.bind outcome.toOption _) closed).trans ?_
              simp [Tree.pair?, left, right, Except.toOption]
          | cons three others =>
              exact congrArg (Option.bind · _) (closeSequence_comma two.after _)

/-- A pair is understood if its elements are. -/
theorem Understands.pair (understands : Understands read meaning) :
    Understands (pair read) (Tree.pair? meaning) := by
  intro tree written spelled gap rest delimited
  cases tree with
  | list trees =>
      cases spelled with
      | list items inner spelled =>
          rw [bracketed_append]
          rcases items with _ | ⟨one, _ | ⟨two, others⟩⟩
          · rw [pair_bracket, List.map_nil, List.intercalate_nil, List.nil_append,
              pairElement_closing]
            rfl
          · have here := spelled one (by simp)
            rw [List.map_singleton, List.intercalate_singleton]
            exact pair_single understands here gap inner rest
          · have here := spelled one (by simp)
            have next := spelled two (by simp)
            have text : [','].intercalate ((one :: two :: others).map Item.text) ++
                (inner.text ++ ']' :: rest) = one.text ++ ',' :: (two.text ++
                  (behind (others.map Item.text) ++ (inner.text ++ ']' :: rest))) := by
              rw [List.map_cons, intercalate_cons]
              simp [behind]
            rw [text]
            exact pair_double understands here next others gap inner rest
  | _ =>
      obtain ⟨first, others, rfl, kind⟩ := spelled.exists_first
      refine pair_refuses kind ?_ read gap (others ++ rest)
      intro same
      cases same

end Pairs

end FrameRouter.Json
