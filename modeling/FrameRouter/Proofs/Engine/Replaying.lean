import FrameRouter.Proofs.Engine.Progress

/-!
# Replays

What departs in a session whose queues are drained from time to time are the
frames that visits of its outlets hand out.  A replay is such a session, and it
gets done, so the departures through an outlet are the frames due there.
-/

namespace FrameRouter

theorem Departure.through_append (outlet : Outlet) (departures further : List Departure) :
    through outlet (departures ++ further) =
      through outlet departures ++ through outlet further := by
  simp [through]

theorem Departure.through_map (outlet exit : Outlet) (frames : List Frame) :
    through outlet (frames.map (Departure.mk exit)) = if exit = outlet then frames else [] := by
  unfold through
  rw [List.filter_map, List.map_map]
  by_cases same : exit = outlet
  · simp [same, Function.comp_def]
  · simp [same, Function.comp_def]

namespace Session.Yield

variable {config : Config} {frames : List Frame} {yield : Yield}

/-- The session with what has departed through each outlet. -/
def delivery (yield : Yield) : Delivery Queue :=
  ⟨yield.outcome.session, fun outlet => Departure.through outlet yield.departures⟩

/-- Some books show where the words of the frames are. -/
def Booked (config : Config) (frames : List Frame) (yield : Yield) : Prop :=
  ∃ samples decisions ledger,
    Delivery.Accounts Queue.Holds config frames yield.delivery samples decisions ledger

/-- To drain all queues is to visit every outlet. -/
theorem delivery_drain (yield : Yield) :
    yield.drain.delivery =
      ((yield.delivery.move (.visit .slow ())).move (.visit .other ())).move (.visit .fast ()) := by
  have departs : yield.drain.departures =
      yield.departures ++ yield.outcome.session.router.drain.1 := rfl
  refine congrArg (Delivery.mk _) (funext fun outlet => ?_)
  rw [departs, Router.drain]
  cases outlet <;>
    simp [Router.drainOutlet, Delivery.move, Departure.through_append, Departure.through_map] <;>
    rfl

theorem Booked.drain (booked : Booked config frames yield) : Booked config frames yield.drain := by
  obtain ⟨samples, decisions, ledger, accounts⟩ := booked
  refine ⟨samples, decisions, ledger, ?_⟩
  rw [delivery_drain]
  exact ((accounts.visit Queue.keeps_holds .slow ()).visit Queue.keeps_holds .other ()).visit
    Queue.keeps_holds .fast ()

theorem Booked.step (booked : Booked config frames yield) (period : Nat) :
    Booked config frames (yield.step period) := by
  have stepped {yield : Yield} (booked : Booked config frames yield) :
      Booked config frames { yield with outcome := yield.outcome.step } := by
    obtain ⟨_, _, _, accounts⟩ := booked
    obtain ⟨next, _, further⟩ := accounts.step Queue.keeps_holds
    exact ⟨_, _, next, further⟩
  unfold Yield.step
  split
  · exact stepped booked.drain
  · exact stepped booked

theorem Booked.run (booked : Booked config frames yield) (period limit : Nat) :
    Booked config frames (Yield.run period limit yield) := by
  induction limit generalizing yield with
  | zero => exact booked
  | succ limit ih =>
      unfold Yield.run
      split
      · exact booked
      · exact ih (booked.step period)

end Session.Yield

namespace Session

/-- A session that has got done has let out the frames that are due. -/
theorem through_runDrained (config : Config) (depth period limit : Nat) {frames : List Frame}
    (isSealed : ∀ frame ∈ Delivery.proper frames, Frame.Sealed frame.words)
    (done : (((Session.ofDepth config depth).send frames).runDrained period
      limit).outcome.session.isDone = true) (outlet : Outlet) :
    Departure.through outlet
        (((Session.ofDepth config depth).send frames).runDrained period limit).departures =
      Frame.due config frames outlet := by
  have start : Yield.Booked config frames
      ⟨⟨(Session.ofDepth config depth).send frames, 0, 0⟩, []⟩ :=
    ⟨_, _, _, Delivery.accounts_start Queue.keeps_holds config (fun _ => depth) frames⟩
  obtain ⟨samples, decisions, ledger, accounts⟩ := (start.run period limit).drain
  have delivered := congrFun (accounts.delivered Queue.keeps_holds isSealed done) outlet
  -- Nothing is left in a queue that has just been drained.
  have rest : Consumer.collect (((Session.ofDepth config depth).send frames).runDrained period
      limit |>.outcome.session.router.outlets.sink outlet) = [] := by
    cases outlet <;> rfl
  rw [← delivered]
  exact (List.append_nil _).symm.trans (congrArg (_ ++ ·) rest.symm)

end Session

/-- Through queues of any depth the replay of sealed frames lets out those that are due. -/
theorem Replay.through_departures (config : Config) (depth : Nat) {frames : List Frame}
    (isSealed : ∀ frame ∈ Delivery.proper frames, Frame.Sealed frame.words) (outlet : Outlet) :
    Departure.through outlet (run config depth frames).departures =
      Frame.due config frames outlet := by
  have done := (Session.settles_allowances config depth isSealed _ (Nat.le_refl _)).1
  exact Session.through_runDrained config depth 1 _ isSealed done outlet

end FrameRouter
