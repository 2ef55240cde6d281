import FrameRouter.CommandLine.Program
import FrameRouter.Proofs.Engine.Lockstep

/-!
# Independence of the queue depth

How many words the queues can hold has no part in what a replay reports, but
for how often a word had to wait and how many ticks it took.
-/

namespace FrameRouter

namespace Replay

/-- The replays end, and they report the same but for the ticks in which words had to wait. -/
structure Agree (config : Config) (first second : Nat) (frames : List Frame) : Prop where
  firstEnds : ((Session.ofDepth config first).send frames).Settles 1 (Session.allowances frames)
  secondEnds : ((Session.ofDepth config second).send frames).Settles 1 (Session.allowances frames)
  departures : (run config first frames).departures = (run config second frames).departures
  statistics : (run config first frames).statistics.unstalled =
    (run config second frames).statistics.unstalled

theorem agree_of_sealed (config : Config) (first second : Nat) {frames : List Frame}
    (isSealed : ∀ frame ∈ Delivery.proper frames, Frame.Sealed frame.words) :
    Agree config first second frames := by
  have ends (depth : Nat) := Session.settles_allowances config depth isSealed
  have served (depth : Nat) :
      ((Session.ofDepth config depth).send frames).runDrained 1 (Session.allowances frames) =
        .serve (Session.allowances frames) (.start config depth frames) :=
    Session.Yield.drain_run _ _
  have done (depth : Nat) :
      (Session.Yield.serve (Session.allowances frames)
        (.start config depth frames)).outcome.session.isDone = true := by
    rw [← served]
    exact (ends depth (Session.allowances frames) (Nat.le_refl _)).1
  -- Both are compared with a session over queues of two words, which no other one outruns.
  have same (depth : Nat) := (Session.Yield.alike_start config 2 depth frames).serve
    (Session.Yield.cleared_start config 2 frames)
    ((Session.Yield.cleared_start config depth frames).mono (Nat.le_max_right depth 1))
    (done 2) (done depth)
  constructor
  · exact ends first
  · exact ends second
  · simp only [run, served]
    exact (same first).departures.symm.trans (same second).departures
  · simp only [run, served]
    exact (same first).session.statistics_eq.symm.trans (same second).session.statistics_eq

end Replay

/-- What goes on with the result of something else succeeds if both succeed. -/
theorem Except.bind_eq_ok {ε α β : Type} {made : Except ε α} {next : α → Except ε β} {result : β} :
    (made >>= next) = .ok result ↔ ∃ value, made = .ok value ∧ next value = .ok result := by
  cases made with
  | error failure =>
      constructor
      · intro fails
        cases fails
      · rintro ⟨_, fails, _⟩
        cases fails
  | ok value =>
      constructor
      · intro succeeds
        exact ⟨value, rfl, succeeds⟩
      · rintro ⟨_, ⟨⟩, succeeds⟩
        exact succeeds

theorem Except.mapError_eq_ok {ε δ α : Type} {made : Except ε α} {change : ε → δ} {result : α} :
    made.mapError change = .ok result ↔ made = .ok result := by
  cases made <;> simp [Except.mapError]

/-- The program replays what it has read, if there is room for the queues. -/
theorem CommandLine.of_replay {memory : Nat} {files : Files} {options : ReplayOptions}
    {report : Report} :
    replay memory files options = .ok report ↔
      ∃ loaded config frames, loadConfig files options.config = .ok loaded ∧
        writeRegisters loaded options.writes = .ok config ∧
        Trace.load (files options.frames) = .ok frames ∧
        Queue.excess? memory Outlet.all.length options.queueDepth = none ∧
        report = Replay.run config options.queueDepth frames := by
  unfold replay
  simp only [Except.bind_eq_ok, Except.mapError_eq_ok]
  constructor
  · rintro ⟨loaded, read, config, written, frames, traced, replayed⟩
    split at replayed
    · rename_i room
      cases replayed
      exact ⟨loaded, config, frames, read, written, traced, room, rfl⟩
    · cases replayed
  · rintro ⟨loaded, config, frames, read, written, traced, room, rfl⟩
    refine ⟨loaded, read, config, written, frames, traced, ?_⟩
    rw [room]
    rfl

/--
Whatever the configuration and the frames, replays through queues of any two
depths end and report the same but for the ticks in which words had to wait.
So does the program, as long as there is memory for the queues.
-/
theorem Replay.depth_irrelevant (first second : Nat) :
    (∀ (config : Config) (lists : List (List Word)),
        Agree config first second (lists.map Frame.ofWords)) ∧
      (∀ (config : Config) contents frames, Trace.load contents = .ok frames →
        Agree config first second frames) ∧
      ∀ (memory : Nat) (files : CommandLine.Files) (options : CommandLine.ReplayOptions)
        (report : Report),
        CommandLine.replay memory files { options with queueDepth := first } = .ok report →
          Queue.excess? memory Outlet.all.length second = none →
            ∃ same,
              CommandLine.replay memory files { options with queueDepth := second } = .ok same ∧
                report.departures = same.departures ∧
                report.statistics.unstalled = same.statistics.unstalled := by
  have loads {contents : Except FileFailure String} {frames : List Frame}
      (loaded : Trace.load contents = .ok frames) (config : Config) :
      Agree config first second frames :=
    agree_of_sealed config first second fun frame membership =>
      Trace.sealed_of_load loaded frame (List.mem_filter.mp membership).1
  refine ⟨?_, ?_, ?_⟩
  · intro config lists
    exact agree_of_sealed config first second fun _ => Delivery.sealed_of_proper
  · intro config contents frames loaded
    exact loads loaded config
  · intro memory files options report replayed room
    obtain ⟨unwritten, config, frames, read, written, loaded, _, rfl⟩ :=
      CommandLine.of_replay.mp replayed
    refine ⟨_, CommandLine.of_replay.mpr
      ⟨unwritten, config, frames, read, written, loaded, room, rfl⟩, ?_⟩
    exact ⟨(loads loaded config).departures, (loads loaded config).statistics⟩

namespace Replay

/-- A datagram for the service that lacks thirteen words. -/
def scant : List Word := Delivery.datagram.set 4 (.full 0x45000056)

/--
Behind a datagram that is filled up while the next one is captured, a queue of
one word keeps a word waiting that a deeper queue takes at once.
-/
theorem depth_irrelevant_waiting :
    let frames := [scant, scant].map Frame.ofWords
    let narrow := run Delivery.station 1 frames
    let wide := run Delivery.station 1024 frames
    narrow.departures = wide.departures ∧ narrow.departures.length = 2 ∧
      narrow.statistics.unstalled = wide.statistics.unstalled ∧
      narrow.ticks = wide.ticks + 1 ∧
      narrow.statistics.stallTicks = wide.statistics.stallTicks + 1 := by
  intro frames narrow wide
  have agree := (depth_irrelevant 1 1024).1 Delivery.station [scant, scant]
  exact ⟨agree.departures, by decide +kernel, agree.statistics, by decide +kernel,
    by decide +kernel⟩

end Replay

end FrameRouter
