import FrameRouter.Text.Blank
import Mathlib.Data.List.DropRight

/-!
# Blanks around a text

A trimmed text is the one between the blanks at the two ends that does not
begin or end with a blank itself.
-/

namespace FrameRouter.Blank

/-- The text is the inner one between blanks, of which there may be none. -/
inductive Around (inner : List Char) : List Char → Prop where
  | intro (front back : List Char) (before : ∀ character ∈ front, contains character = true)
      (behind : ∀ character ∈ back, contains character = true) :
      Around inner (front ++ inner ++ back)

/-- The text neither begins nor ends with a blank. -/
structure Bare (text : List Char) : Prop where
  first : ∀ nonempty : text ≠ [], contains (text.head nonempty) = false
  last : ∀ nonempty : text ≠ [], contains (text.getLast nonempty) = false

theorem Bare.of_forall {text : List Char} (shown : ∀ character ∈ text, contains character = false) :
    Bare text where
  first nonempty := shown _ (List.head_mem nonempty)
  last nonempty := shown _ (List.getLast_mem nonempty)

theorem trim_eq (text : List Char) :
    trim text = (text.dropWhile contains).rdropWhile contains := rfl

/-- What trimming takes away are blanks. -/
theorem around_trim (text : List Char) : Around (trim text) text := by
  have parts : text.takeWhile contains ++ trim text ++
      (text.dropWhile contains).rtakeWhile contains = text := by
    rw [trim_eq, List.append_assoc, List.rdropWhile_append_rtakeWhile,
      List.takeWhile_append_dropWhile]
  have around : Around (trim text) (text.takeWhile contains ++ trim text ++
      (text.dropWhile contains).rtakeWhile contains) :=
    .intro _ _ (fun _ => List.mem_takeWhile_imp) (fun _ => List.mem_rtakeWhile_imp)
  rwa [parts] at around

/-- Trimming leaves no blank at an end. -/
theorem bare_trim (text : List Char) : Bare (trim text) where
  first nonempty := by
    -- The second cut leaves something, so it does not reach the front.
    have front : trim text <+: text.dropWhile contains := List.rdropWhile_prefix contains _
    rw [front.head nonempty]
    exact List.head_dropWhile_not contains _
  last nonempty := Bool.eq_false_iff.mpr (List.rdropWhile_last_not contains _ nonempty)

/-- Trimming gives the text between the blanks, if that one is bare. -/
theorem trim_of_around {inner text : List Char} (around : Around inner text) (bare : Bare inner) :
    trim text = inner := by
  cases around with
  | intro front back before behind =>
      rw [trim_eq, List.append_assoc, List.dropWhile_append_of_pos before]
      cases inner with
      | nil =>
          have none : back.dropWhile contains = [] := List.dropWhile_eq_nil_iff.mpr behind
          rw [List.nil_append, none]
          rfl
      | cons first rest =>
          have start : contains first = false := bare.first (List.cons_ne_nil first rest)
          have cut : (first :: rest ++ back).dropWhile contains = first :: rest ++ back := by
            rw [List.cons_append, List.dropWhile_cons_of_neg (by simp [start])]
          have ended : (first :: rest ++ back).rdropWhile contains =
              (first :: rest).rdropWhile contains := by
            rw [List.rdropWhile, List.reverse_append, List.dropWhile_append_of_pos]
            · rfl
            · exact fun character member => behind character (List.mem_reverse.mp member)
          rw [cut, ended, List.rdropWhile_eq_self_iff]
          intro nonempty
          exact Bool.eq_false_iff.mp (bare.last nonempty)

/-- A trimmed text is the bare one between the blanks around it. -/
theorem trim_eq_iff {text inner : List Char} :
    trim text = inner ↔ Around inner text ∧ Bare inner := by
  constructor
  · rintro rfl
    exact ⟨around_trim text, bare_trim text⟩
  · rintro ⟨around, bare⟩
    exact trim_of_around around bare

end FrameRouter.Blank
