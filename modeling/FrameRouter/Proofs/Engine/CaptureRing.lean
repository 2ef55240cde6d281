import FrameRouter.Engine.CaptureRing

/-!
# The capture ring as a queue

Read from its oldest slot on, the ring is a list: storing appends, the front
is the head, and dropping takes the tail.
-/

namespace FrameRouter

namespace CaptureRing

@[simp]
theorem length_toList (ring : CaptureRing) : ring.toList.length = ring.size := by
  simp [toList]

theorem slot_ne (ring : CaptureRing) {near far : Nat} (ordered : near < far)
    (bounded : far < slotCount) : ring.slot near ≠ ring.slot far := by
  intro equal
  have positions := congrArg Fin.val equal
  simp only [slot, Fin.val_add, Fin.val_ofNat] at positions
  simp only [slotCount, Header.windowWords] at positions bounded
  omega

theorem slot_succ (ring : CaptureRing) (offset : Nat) :
    ring.slot (offset + 1) = ring.head + 1 + Fin.ofNat _ offset := by
  apply Fin.ext
  have one : (1 : Fin (Header.windowWords + 1)).val = 1 := rfl
  simp only [slot, Fin.val_add, Fin.val_ofNat, one]
  simp only [Header.windowWords]
  omega

/-- A ring with room takes the word behind all others. -/
theorem toList_push (ring : CaptureRing) (word : Word) (room : ring.size < slotCount) :
    (ring.push word).2.toList = ring.toList ++ [word] := by
  simp only [push, room, ↓reduceIte, toList, List.range_succ, List.map_append, List.map_cons,
    List.map_nil]
  congr 1
  · apply List.map_congr_left
    intro offset membership
    have distinct := ring.slot_ne (List.mem_range.mp membership) room
    exact Vector.getElem_set_ne _ _ (fun equal => distinct (Fin.ext equal.symm))
  · simp [slot]

@[simp]
theorem captured_push (ring : CaptureRing) (word : Word) (room : ring.size < slotCount) :
    (ring.push word).2.captured = ring.captured + 1 := by
  simp [push, room]

theorem front?_eq (ring : CaptureRing) : ring.front? = ring.toList.head? := by
  unfold front? toList
  cases size : ring.size with
  | zero => rfl
  | succ count => simp [List.range_succ_eq_map, slot]

/-- Dropping the front leaves the rest of the list. -/
theorem toList_pop (ring : CaptureRing) : ring.pop.toList = ring.toList.tail := by
  unfold pop toList
  cases size : ring.size with
  | zero => simp [size]
  | succ count =>
      simp only [Nat.add_one_ne_zero, ↓reduceIte, Nat.add_sub_cancel, List.range_succ_eq_map,
        List.map_cons, List.map_map, List.tail_cons]
      apply List.map_congr_left
      intro offset _
      exact congrArg (fun slot => ring.slots[slot]) (ring.slot_succ offset).symm

end CaptureRing

end FrameRouter
