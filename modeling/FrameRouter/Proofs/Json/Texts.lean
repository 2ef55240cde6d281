import FrameRouter.Proofs.Json.Grammar

/-!
# Texts piece by piece

A text is read from the pieces between its quotes.  Reading fails if half of a
surrogate pair stands alone among them; passing over a text never does.
-/

namespace FrameRouter.Json

theorem HexDigit.value?_char (digit : HexDigit) :
    Digits.value? 16 digit.char = some digit.value := by
  obtain ⟨value, capital⟩ := digit
  revert value capital
  decide

theorem CodeUnit.hexQuad? (unit : CodeUnit) :
    hexQuad? unit.first.char unit.second.char unit.third.char unit.fourth.char =
      some unit.value := by
  simp only [Json.hexQuad?, HexDigit.value?_char]
  rfl

namespace Piece

/-- A text is passed over up to its closing quote. -/
theorem skipText_pieces (pieces : List Piece) (rest : List Char) :
    skipText (pieces.flatMap text ++ '\x22' :: rest) = .ok rest := by
  induction pieces with
  | nil => rfl
  | cons piece pieces ih =>
      rw [List.flatMap_cons, List.append_assoc]
      cases piece with
      | plain character visible unquoted unescaped =>
          have inside : ¬character.toNat < 0x20 := Nat.not_lt_of_le visible
          rw [text, List.singleton_append, skipText, if_neg inside]
          · exact ih
          · exact unquoted
          · exact unescaped
      | short escape =>
          cases escape <;> exact ih
      | code unit =>
          simp only [text, CodeUnit.text, List.cons_append, List.nil_append, skipText,
            unit.hexQuad?]
          exact ih

/-- What the pieces behind a code stand for decides only about half of a surrogate pair. -/
theorem characters?_code (unit : CodeUnit) (pieces : List Piece) :
    characters? (.code unit :: pieces) =
      if isTrailing unit.value then none
      else if isLeading unit.value then
        match pieces with
        | .code other :: others =>
            if isTrailing other.value then
              (characters? others).map (pairedCharacter unit.value other.value :: ·)
            else none
        | _ => none
      else (characters? pieces).map (Char.ofNat unit.value :: ·) := by
  rcases pieces with _ | ⟨piece, others⟩
  · rfl
  · cases piece <;> rfl

/-- What was read before stands in front of what is read. -/
theorem map_front (character : Char) (done rest : List Char) (found : Option (List Char)) :
    (found.map fun characters =>
        (String.ofList ((character :: done).reverse ++ characters), rest)) =
      (found.map (character :: ·)).map fun characters =>
        (String.ofList (done.reverse ++ characters), rest) := by
  cases found <;> simp

/-- The characters of a text are read up to its closing quote. -/
theorem textFrom_pieces (pieces : List Piece) (done rest : List Char) :
    (textFrom done (pieces.flatMap text ++ '\x22' :: rest)).toOption =
      (characters? pieces).map fun characters =>
        (String.ofList (done.reverse ++ characters), rest) := by
  induction pieces using characters?.induct generalizing done with
  | case1 => simp [textFrom, characters?, Except.toOption]
  | case2 character visible unquoted unescaped pieces ih =>
      have inside : ¬character.toNat < 0x20 := Nat.not_lt_of_le visible
      rw [List.flatMap_cons, List.append_assoc, text, List.singleton_append, textFrom,
        if_neg inside, ih, map_front, characters?]
      · exact unquoted
      · exact unescaped
  | case3 escape pieces ih =>
      have read : textFrom done ((short escape).text ++ (pieces.flatMap text ++ '\x22' :: rest)) =
          textFrom (escape.character :: done) (pieces.flatMap text ++ '\x22' :: rest) := by
        cases escape <;> rfl
      rw [List.flatMap_cons, List.append_assoc, read, ih, map_front, characters?]
  | case4 unit pieces trailing =>
      rw [characters?_code, if_pos trailing, List.flatMap_cons, List.append_assoc]
      simp only [text, CodeUnit.text, List.cons_append, List.nil_append, textFrom, unit.hexQuad?,
        trailing, if_true]
      rfl
  | case5 unit trailing leading other pieces paired ih =>
      rw [characters?_code, if_neg trailing, if_pos leading, List.flatMap_cons, List.flatMap_cons,
        List.append_assoc, List.append_assoc]
      simp only [text, CodeUnit.text, List.cons_append, List.nil_append, textFrom, unit.hexQuad?,
        other.hexQuad?, trailing, leading, paired, if_true]
      rw [← map_front, ← ih]
      rfl
  | case6 unit trailing leading other pieces unpaired =>
      rw [characters?_code, if_neg trailing, if_pos leading, List.flatMap_cons, List.flatMap_cons,
        List.append_assoc, List.append_assoc]
      simp only [text, CodeUnit.text, List.cons_append, List.nil_append, textFrom, unit.hexQuad?,
        other.hexQuad?, trailing, leading, unpaired, if_true]
      rfl
  | case7 unit pieces trailing leading lone =>
      rw [characters?_code, if_neg trailing, if_pos leading, List.flatMap_cons, List.append_assoc]
      simp only [text, CodeUnit.text, List.cons_append, List.nil_append, textFrom, unit.hexQuad?,
        trailing, leading, if_true]
      -- No other code follows, so the next character does not begin one.
      rcases pieces with _ | ⟨piece, others⟩
      · rfl
      · cases piece with
        | plain character visible unquoted unescaped =>
            simp [text, unescaped, Except.toOption]
        | short escape => cases escape <;> rfl
        | code other => exact absurd rfl (lone other others)
  | case8 unit pieces trailing leading ih =>
      rw [characters?_code, if_neg trailing, if_neg leading, List.flatMap_cons, List.append_assoc]
      simp only [text, CodeUnit.text, List.cons_append, List.nil_append, textFrom, unit.hexQuad?,
        trailing, leading]
      rw [← map_front, ← ih]
      rfl

theorem quoted_append (pieces : List Piece) (rest : List Char) :
    quoted pieces ++ rest = '\x22' :: (pieces.flatMap text ++ '\x22' :: rest) := by
  simp [quoted]

/-- A text is read as what its pieces stand for. -/
theorem readText_pieces (pieces : List Piece) (rest : List Char) :
    (readText (pieces.flatMap text ++ '\x22' :: rest)).toOption =
      (content? pieces).map fun content => (content, rest) := by
  rw [readText, textFrom_pieces, content?, Option.map_map]
  rfl

end Piece

end FrameRouter.Json
