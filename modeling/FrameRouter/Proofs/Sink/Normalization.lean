import FrameRouter.Proofs.Frame.Lanes
import FrameRouter.Proofs.Frame.Sealed

/-!
# Normalised frames

What a whole frame becomes behind the normalizer, and what has been passed on
of an open one.  A word takes the normalizer from the stage of an open frame
to that of the same frame with the word behind it.
-/

namespace FrameRouter.Normalization

/-- The word without its annotation. -/
def strip (word : Word) : Word := { word with side := 0 }

/-- The frame is a network packet and reaches the word with its total length. -/
def IsNetwork (frame : List Word) : Prop :=
  5 ≤ frame.length ∧ (frame.getD 3 .zero).low = 0x0800

instance : DecidablePred IsNetwork := fun _ => inferInstanceAs (Decidable (_ ∧ _))

/-- The extent that the frame declares. -/
def extent (frame : List Word) : Header.Extent := .ofTotalLength (frame.getD 4 .zero).low

/-- The place of the end: the declared one, but not in front of the total length itself. -/
def reach (frame : List Word) : Nat := max (extent frame).words 5

/-- The words that fill up a frame: zero words, of which only the final one is terminal. -/
def fill (owed : Nat) (tail : UInt8) : List Word :=
  List.replicate (owed - 1) (.full 0) ++ [.terminal 0 tail]

/-- The terminal word of a frame that reaches its end. -/
def closing (frame : List Word) : Word :=
  { strip (frame.getD (reach frame - 1) .zero) with
    bytes := if 5 ≤ (extent frame).words then (extent frame).tail else 4
    last := true }

/-- The frame up to its end. -/
def cut (frame : List Word) : List Word :=
  (frame.take (reach frame - 1)).map strip ++ [closing frame]

/-- A word that is not terminal any more; its stale lanes are zero. -/
def reopen (word : Word) : Word :=
  { strip word with data := word.keep word.bytes.toNat, bytes := 4, last := false }

/-- The frame filled up to its end. -/
def extend (frame : List Word) : List Word :=
  frame.dropLast.map strip ++ reopen (frame.getLastD .zero) ::
    fill ((extent frame).words - frame.length) (extent frame).tail

/-- What becomes of a whole frame. -/
def whole (frame : List Word) : List Word :=
  if IsNetwork frame then
    if reach frame ≤ frame.length then cut frame else extend frame
  else
    frame.map strip

/-- What has been passed on of an open frame. -/
def begun (frame : List Word) : List Word :=
  if IsNetwork frame ∧ reach frame ≤ frame.length then cut frame else frame.map strip

/--
Behind the normalizer a terminated frame is terminated again; the words in front
are unannotated ones of the frame, or full and unmarked.
-/
theorem whole_concat (body : List Word) {final : Word} (ended : final.last = true) :
    ∃ front last, whole (body ++ [final]) = front ++ [last] ∧ last.last = true ∧
      ∀ word ∈ front, (∃ source ∈ body, word = strip source) ∨
        word.bytes = 4 ∧ word.last = false := by
  have stripped {words : List Word} (inside : ∀ word ∈ words, word ∈ body) :
      ∀ word ∈ words.map strip, (∃ source ∈ body, word = strip source) ∨
        word.bytes = 4 ∧ word.last = false := by
    intro word membership
    obtain ⟨source, listed, rfl⟩ := List.mem_map.mp membership
    exact Or.inl ⟨source, inside source listed, rfl⟩
  unfold whole
  split
  · split
    · rename_i _ reached
      have shorter : reach (body ++ [final]) - 1 ≤ body.length := by
        simp only [List.length_append, List.length_singleton] at reached
        omega
      refine ⟨_, _, rfl, rfl, stripped ?_⟩
      rw [List.take_append_of_le_length shorter]
      exact fun word membership => List.mem_of_mem_take membership
    · have shape : extend (body ++ [final]) =
          (body.map strip ++ reopen final :: List.replicate
            ((extent (body ++ [final])).words - (body ++ [final]).length - 1) (.full 0)) ++
            [.terminal 0 (extent (body ++ [final])).tail] := by
        simp [extend, fill]
      refine ⟨_, _, shape, rfl, ?_⟩
      intro word membership
      rcases List.mem_append.mp membership with before | behind
      · exact stripped (fun _ inside => inside) word before
      · rcases List.mem_cons.mp behind with rfl | filled
        · exact Or.inr ⟨rfl, rfl⟩
        · rw [List.eq_of_mem_replicate filled]
          exact Or.inr ⟨rfl, rfl⟩
  · exact ⟨body.map strip, strip final, by simp, ended, stripped fun _ inside => inside⟩

/-- A whole frame is whole behind the normalizer too. -/
theorem whole_whole {frame : List Word} (isWhole : Cutting.Whole Word.last frame) :
    Cutting.Whole Word.last (whole frame) := by
  obtain ⟨body, final, rfl, isOpen, ended⟩ := isWhole
  obtain ⟨front, last, split, terminal, inner⟩ := whole_concat body ended
  refine ⟨front, last, split, ?_, terminal⟩
  intro word membership
  rcases inner word membership with ⟨source, listed, rfl⟩ | ⟨_, unmarked⟩
  · exact isOpen source listed
  · exact unmarked

/-- A sealed frame is sealed behind the normalizer too. -/
theorem sealed_whole {frame : List Word} (isSealed : Frame.Sealed frame) :
    Frame.Sealed (whole frame) := by
  obtain ⟨body, final, rfl, inside, ended⟩ := isSealed
  obtain ⟨front, last, split, terminal, inner⟩ := whole_concat body ended
  refine ⟨front, last, split, ?_, terminal⟩
  intro word membership
  rcases inner word membership with ⟨source, listed, rfl⟩ | full
  · exact inside source listed
  · exact full

/-- The words still to be passed on behind a whole frame. -/
def owed : Normalizing → List Word
  | .filling count tail => fill count tail
  | _ => []

theorem owed_filling_ne_nil (count : Nat) (tail : UInt8) : owed (.filling count tail) ≠ [] := by
  simp [owed, fill]

/-- An open frame and the stage in which it leaves the normalizer. -/
inductive Fits (rest : List Word) : Normalizing → Prop where
  | header (unknown : ¬IsNetwork rest) :
      Fits rest (.header rest.length (4 ≤ rest.length && (rest.getD 3 .zero).low == 0x0800))
  | body (network : IsNetwork rest) (inside : rest.length < (extent rest).words) :
      Fits rest (.body rest.length (extent rest))
  | swallowing (network : IsNetwork rest) (past : reach rest ≤ rest.length) :
      Fits rest .swallowing
  | filling (count : Nat) (tail : UInt8) (nothing : rest = []) (positive : 0 < count) :
      Fits rest (.filling count tail)

theorem Fits.start : Fits [] .start := .header (by decide)

/-- Behind whole frames of which nothing is owed the normalizer is where it started. -/
theorem Fits.eq_start {stage : Normalizing} (fits : Fits [] stage) (settled : owed stage = []) :
    stage = .start := by
  cases fits with
  | header => rfl
  | body network => exact absurd network (by decide)
  | swallowing network => exact absurd network (by decide)
  | filling count tail => exact absurd settled (owed_filling_ne_nil count tail)

/-- While words are owed, no frame is open. -/
theorem Fits.eq_nil {rest : List Word} {stage : Normalizing} (fits : Fits rest stage)
    (unsettled : owed stage ≠ []) : rest = [] := by
  cases fits with
  | filling _ _ nothing => exact nothing
  | header | body | swallowing => exact absurd rfl unsettled

variable {rest : List Word} {word : Word}

theorem take_rest : (rest ++ [word]).take ((rest ++ [word]).length - 1) = rest := by
  simp

theorem getD_last : (rest ++ [word]).getD ((rest ++ [word]).length - 1) .zero = word := by
  simp

theorem getD_append_of_lt {place : Nat} (within : place < rest.length) :
    (rest ++ [word]).getD place .zero = rest.getD place .zero :=
  List.getD_append rest [word] .zero place within

/-- A further word does not change what a network packet declares. -/
theorem IsNetwork.append (network : IsNetwork rest) (word : Word) :
    IsNetwork (rest ++ [word]) ∧ extent (rest ++ [word]) = extent rest := by
  obtain ⟨long, ethertype⟩ := network
  refine ⟨⟨by simp; omega, ?_⟩, ?_⟩
  · rw [getD_append_of_lt (by omega)]
    exact ethertype
  · unfold extent
    rw [getD_append_of_lt (by omega)]

theorem begun_of_lt (before : rest.length < reach rest) : begun rest = rest.map strip := by
  unfold begun
  rw [if_neg fun past => Nat.not_le_of_lt before past.2]

theorem begun_of_not (unknown : ¬IsNetwork rest) : begun rest = rest.map strip := by
  unfold begun
  rw [if_neg fun past => unknown past.1]

/-- At its end a frame has been passed on with the word as its terminal one. -/
theorem cut_append (reached : reach (rest ++ [word]) = (rest ++ [word]).length) :
    cut (rest ++ [word]) = rest.map strip ++ [closing (rest ++ [word])] ∧
      closing (rest ++ [word]) =
        { strip word with
          bytes := if (rest ++ [word]).length = (extent (rest ++ [word])).words then
            (extent (rest ++ [word])).tail else 4
          last := true } := by
  constructor
  · unfold cut
    rw [reached, take_rest]
  · have declared : 5 ≤ (extent (rest ++ [word])).words ↔
        (rest ++ [word]).length = (extent (rest ++ [word])).words := by
      unfold reach at reached
      omega
    unfold closing
    rw [reached, getD_last]
    simp only [declared]

/-- Behind its end a frame has been passed on already. -/
theorem cut_append_of_past (network : IsNetwork rest) (past : reach rest ≤ rest.length) :
    cut (rest ++ [word]) = cut rest := by
  have same : extent (rest ++ [word]) = extent rest := (network.append word).2
  have sameReach : reach (rest ++ [word]) = reach rest := by rw [reach, same, reach]
  have positive : 0 < reach rest := by
    unfold reach
    omega
  have place : reach rest - 1 < rest.length := by omega
  unfold cut closing
  rw [sameReach, same, List.take_append_of_le_length place.le, getD_append_of_lt place]

/-- What one more word of an open frame does: the word passed on, and the stage behind it. -/
inductive Advances (rest : List Word) (word : Word) : Option Word × Normalizing → Prop where
  | inside {passed : Option Word} {next : Normalizing} (unended : word.last = false)
      (fits : Fits (rest ++ [word]) next)
      (account : begun (rest ++ [word]) = begun rest ++ passed.toList) (settled : owed next = []) :
      Advances rest word (passed, next)
  | final {passed : Option Word} {next : Normalizing} (ended : word.last = true)
      (fits : Fits [] next)
      (account : whole (rest ++ [word]) = begun rest ++ passed.toList ++ owed next) :
      Advances rest word (passed, next)

/-- A word that is not behind the end of a network packet is put in its place. -/
theorem place_advances (network : IsNetwork (rest ++ [word]))
    (before : rest.length < reach (rest ++ [word])) (sofar : begun rest = rest.map strip) :
    Advances rest word
      ((Normalizer.place (extent (rest ++ [word])) (rest ++ [word]).length (strip word)).map
        some id) := by
  have long := network.1
  have length : (rest ++ [word]).length = rest.length + 1 := by simp
  by_cases past : (extent (rest ++ [word])).words ≤ (rest ++ [word]).length
  -- The end was not reached before, so the word stands exactly there.
  · have reached : reach (rest ++ [word]) = (rest ++ [word]).length := by
      unfold reach at before ⊢
      omega
    obtain ⟨ending, terminal⟩ := cut_append reached
    rw [terminal] at ending
    unfold Normalizer.place
    rw [if_pos past]
    cases ended : word.last with
    | false =>
        refine .inside ended ?_ ?_ ?_
        · simpa [strip, ended] using Fits.swallowing network reached.le
        · rw [begun, if_pos ⟨network, reached.le⟩, ending, sofar]
          rfl
        · simp [strip, ended, owed]
    | true =>
        refine .final ended ?_ ?_
        · simpa [strip, ended] using Fits.start
        · rw [whole, if_pos network, if_pos reached.le, ending, sofar]
          simp [strip, ended, owed, Normalizing.start]
  · have within : (rest ++ [word]).length < (extent (rest ++ [word])).words :=
      Nat.lt_of_not_le past
    have unreached : ¬reach (rest ++ [word]) ≤ (rest ++ [word]).length := by
      unfold reach
      omega
    unfold Normalizer.place
    rw [if_neg past]
    cases ended : word.last with
    | false =>
        have inner : (strip word).last ≠ true := by simp [strip, ended]
        rw [if_neg inner]
        refine .inside ended (.body network within) ?_ rfl
        rw [begun_of_lt (Nat.lt_of_not_le unreached), sofar, List.map_append]
        rfl
    | true =>
        have inner : (strip word).last = true := ended
        rw [if_pos inner]
        refine .final ended (.filling _ _ rfl (by omega)) ?_
        rw [whole, if_pos network, if_neg unreached, extend, sofar, List.dropLast_concat,
          Normalizer.clearStale_eq]
        simp [owed, reopen, strip, Word.keep, Word.laneWithin, Word.lanes]

theorem Advances.plain (unknown : ¬IsNetwork (rest ++ [word]))
    (sofar : begun rest = rest.map strip) :
    Advances rest word (some (strip word),
      if word.last then .start
      else .header (rest ++ [word]).length (4 ≤ (rest ++ [word]).length &&
        ((rest ++ [word]).getD 3 .zero).low == 0x0800)) := by
  cases ended : word.last with
  | false =>
      refine .inside ended (.header unknown) ?_ rfl
      rw [begun_of_not unknown, sofar, List.map_append]
      rfl
  | true =>
      refine .final ended Fits.start ?_
      rw [whole, if_neg unknown, sofar, List.map_append]
      simp [owed, Normalizing.start]

/-- The ethertype of a frame is known with its fourth word. -/
theorem ethertype_append :
    (4 ≤ (rest ++ [word]).length && ((rest ++ [word]).getD 3 .zero).low == 0x0800) =
      if rest.length = 3 then Header.ethertype word == Header.ipv4Ethertype
      else 4 ≤ rest.length && (rest.getD 3 .zero).low == 0x0800 := by
  have length : (rest ++ [word]).length = rest.length + 1 := by simp
  rw [length]
  rcases Nat.lt_trichotomy rest.length 3 with short | here | long
  · have before : ¬4 ≤ rest.length + 1 := by omega
    simp [before, short.ne]
    omega
  · have found : (rest ++ [word]).getD 3 .zero = word := by
      rw [← here]
      simp
    rw [found]
    simp [here, Header.ethertype, Header.ipv4Ethertype]
  · rw [getD_append_of_lt long]
    have here : 4 ≤ rest.length + 1 ∧ 4 ≤ rest.length := by omega
    simp [here, long.ne']

/-- Every word that is accepted advances the open frame. -/
theorem accept_advances {stage : Normalizing} (fits : Fits rest stage) (settled : owed stage = [])
    (word : Word) :
    Advances rest word (Normalizer.accept word stage) := by
  have length : (rest ++ [word]).length = rest.length + 1 := by simp
  cases fits with
  | header unknown =>
      have sofar := begun_of_not unknown
      simp only [Normalizer.accept]
      rw [← ethertype_append]
      split
      -- The fifth word of a network packet declares the extent and is put in its place at once.
      · rename_i declares
        obtain ⟨fifth, ethertype⟩ := declares
        rw [Bool.and_eq_true, beq_iff_eq, decide_eq_true_eq] at ethertype
        have network : IsNetwork (rest ++ [word]) := ⟨by omega, ethertype.2⟩
        have declared : extent (rest ++ [word]) =
            .ofTotalLength (Header.totalLength word) := by
          unfold extent
          rw [← fifth]
          simp [Header.totalLength]
        have before : rest.length < reach (rest ++ [word]) := by
          unfold reach
          omega
        have placed := place_advances network before sofar
        rw [declared, length, fifth] at placed
        exact placed
      -- Any other word behind an undeclared frame leaves it undeclared.
      · rename_i silent
        rw [← length]
        refine .plain ?_ sofar
        intro network
        obtain ⟨long, ethertype⟩ := network
        rcases Nat.lt_or_ge 4 rest.length with further | fifth
        · rw [getD_append_of_lt (by omega)] at ethertype
          exact unknown ⟨further, ethertype⟩
        · refine silent ⟨by omega, ?_⟩
          rw [Bool.and_eq_true, beq_iff_eq, decide_eq_true_eq]
          exact ⟨by omega, ethertype⟩
  | body network inside =>
      obtain ⟨further, same⟩ := network.append word
      have before : rest.length < reach rest := by
        unfold reach
        omega
      have placed := place_advances further
        (by rw [reach, same]; exact before) (begun_of_lt before)
      rw [same, length] at placed
      exact placed
  | swallowing network past =>
      obtain ⟨further, same⟩ := network.append word
      have stillPast : reach (rest ++ [word]) ≤ (rest ++ [word]).length := by
        rw [reach, same, length]
        exact Nat.le_succ_of_le past
      have unchanged : cut (rest ++ [word]) = cut rest := cut_append_of_past network past
      simp only [Normalizer.accept]
      cases ended : word.last with
      | false =>
          refine .inside ended (.swallowing further stillPast) ?_ rfl
          rw [begun, if_pos ⟨further, stillPast⟩, begun, if_pos ⟨network, past⟩, unchanged]
          simp
      | true =>
          refine .final ended Fits.start ?_
          rw [whole, if_pos further, if_pos stillPast, begun, if_pos ⟨network, past⟩, unchanged]
          simp [owed, Normalizing.start]
  | filling count tail nothing positive => exact absurd settled (owed_filling_ne_nil count tail)

end FrameRouter.Normalization
