import FrameRouter.Proofs.Engine.Refinement
import FrameRouter.Proofs.Sink.Fitting

/-!
# The fast path

An Ethernet packet that is routed to the fast path comes out there as one
frame, fitted to the length that its network header declares.  Neither the
frames around it nor the sinks have a part in this.
-/

namespace FrameRouter

/-- A datagram for a service is a network packet whose header window is full. -/
theorem Header.ForService.network_words {frame : List Sample} (service : ForService frame) :
    Normalization.IsNetwork (frame.map Sample.word) ∧ windowWords ≤ frame.length := by
  refine ⟨⟨?_, ?_⟩, service.reaches⟩
  · rw [List.length_map]
    exact (by decide : 5 ≤ windowWords).trans service.reaches
  · rw [← wordAt_eq]
    exact service.network

namespace Frame

/-- A frame on the fast path is a network packet whose header window is full. -/
theorem network_of_route {config : Config} {frame : Frame} (fast : frame.route config = .fast) :
    Normalization.IsNetwork frame.words ∧ Header.windowWords ≤ frame.words.length := by
  have service := (Route.service_of_reference fast).network_words
  have words : (frame.words.map fun word => (⟨word, config⟩ : Sample)).map Sample.word =
      frame.words := by
    rw [List.map_map]
    exact List.map_id frame.words
  rw [words, List.length_map] at service
  exact service

/-- A frame on the fast path has words. -/
theorem isEmpty_of_route {config : Config} {frame : Frame} (fast : frame.route config = .fast) :
    frame.isEmpty = false := by
  have long := (network_of_route fast).2
  cases words : frame.words with
  | nil =>
      rw [words] at long
      exact absurd long (by decide)
  | cons => simp [isEmpty, words]

theorem due_fast_append (config : Config) (before : List Frame) (frame : Frame)
    (after : List Frame) (fast : frame.route config = .fast) :
    due config (before ++ frame :: after) .fast =
      due config before .fast ++ frame.normalized :: due config after .fast := by
  have nonempty := isEmpty_of_route fast
  have reaches : Route.reaches .fast .fast = true := rfl
  simp only [due, bound, List.filter_append, List.filter_cons, fast, nonempty, reaches,
    Bool.not_false, Bool.and_self, ↓reduceIte, List.map_append, List.map_cons]

end Frame

namespace Delivery

/--
Over sinks of this kind, a packet that is routed to the fast path comes out
there as one fitted frame, between what is due there of the frames around it.
-/
def FitsFast (S : Type) [Sink S] [Consumer S] : Prop :=
  ∀ (config : Config) (setups : Outlet → Consumer.Setup S) (before after : List (List Word))
    (packet : List UInt8) (side : UInt8) (moves : List (Move S)),
    (Frame.ofEthernet packet side).route config = .fast →
      let frames := before.map Frame.ofWords ++
        Frame.ofEthernet packet side :: after.map Frame.ofWords
      (run config setups frames moves).session.isDone = true →
        ∃ fitted : Frame, fitted.Fitted packet ∧
          (run config setups frames moves).delivered .fast =
            Frame.due config (before.map Frame.ofWords) .fast ++
              fitted :: Frame.due config (after.map Frame.ofWords) .fast

/-- Sinks of which a relation shows that nothing is lost deliver fitted frames. -/
theorem fitsFast_of_keeps {S : Type} [Sink S] [Consumer S]
    {holds : List Frame → S → List Word → Prop} (keeps : Consumer.Keeps holds) : FitsFast S := by
  intro config setups before after packet side moves fast frames done
  obtain ⟨samples, decisions, ledger, accounts⟩ := accounts_run keeps config setups frames moves
  have isSealed : ∀ frame ∈ proper frames, Frame.Sealed frame.words := by
    intro frame membership
    obtain ⟨listed, proper⟩ := List.mem_filter.mp membership
    rcases List.mem_append.mp listed with earlier | further
    · exact sealed_of_proper (List.mem_filter.mpr ⟨earlier, proper⟩)
    · rcases List.mem_cons.mp further with rfl | later
      · exact Frame.sealed_ofEthernet packet side
      · exact sealed_of_proper (List.mem_filter.mpr ⟨later, proper⟩)
  obtain ⟨network, long⟩ := Frame.network_of_route fast
  have enough : 18 ≤ packet.length := by
    rw [Frame.length_ofEthernet, Header.windowWords, laneCount] at long
    omega
  refine ⟨_, Frame.fitted_ofEthernet packet side enough network, ?_⟩
  rw [accounts.delivered keeps isSealed done]
  exact Frame.due_fast_append config _ _ _ fast

/--
Over queues, over scripted sinks and over observed sinks of any kind, packets
on the fast path come out fitted to their declared length.
-/
theorem fast_bytes :
    FitsFast Queue ∧ FitsFast ScriptedSink ∧ ∀ (S : Type) [Sink S], FitsFast (Observed S) :=
  ⟨fitsFast_of_keeps Queue.keeps_holds, fitsFast_of_keeps ScriptedSink.keeps_holds,
    fun S _ => fitsFast_of_keeps (Observed.keeps_holds S)⟩

/-- A datagram for the service, seven bytes short of its declared length. -/
def severed : List UInt8 :=
  [0x02, 0, 0, 0, 0, 1, 0x02, 0, 0, 0, 0, 2, 0x08, 0, 0x45, 0, 0, 40, 0, 0, 0, 0, 0x40, 0x11,
    0, 0, 10, 0, 0, 2, 10, 0, 0, 1, 0x13, 0x88, 0x0f, 0xa0, 0, 20, 0, 0, 1, 2, 3, 4, 5]

/-- Between broadcasts and through queues of one word, the missing bytes come out as zeros. -/
theorem fast_bytes_severed :
    let delivery := run station (fun _ => (1 : Nat))
      ([announcement].map Frame.ofWords ++
        Frame.ofEthernet severed 5 :: [announcement].map Frame.ofWords) rounds
    (Frame.ofEthernet severed 5).route station = .fast ∧ delivery.session.isDone = true ∧
      ∃ fitted : Frame, fitted.Fitted severed ∧ delivery.delivered .fast = [fitted] ∧
        fitted.toEthernet = severed ++ [0, 0, 0, 0, 0, 0, 0] := by
  intro delivery
  have fast : (Frame.ofEthernet severed 5).route station = .fast := by decide +kernel
  have done : delivery.session.isDone = true := by decide +kernel
  obtain ⟨fitted, isFitted, delivered⟩ := fast_bytes.1 station (fun _ => (1 : Nat))
    [announcement] [announcement] severed 5 rounds fast done
  have nothing : Frame.due station ([announcement].map Frame.ofWords) .fast = [] := by
    decide +kernel
  rw [nothing] at delivered
  exact ⟨fast, done, fitted, isFitted, delivered, isFitted.loss 7 (by decide)⟩

end Delivery

end FrameRouter
