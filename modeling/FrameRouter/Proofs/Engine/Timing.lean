import FrameRouter.Proofs.Engine.Handshake

/-!
# Timing

When words arrive at scripted sinks.  The router hands a sink the word that
leaves when the sink has begun the tick.  The normalizer hands over a word that
it owes in front of that, so that it still falls into the tick before.
-/

namespace FrameRouter

/-- The ticks in which words have arrived, oldest first. -/
def ScriptedSink.ticks (sink : ScriptedSink) : List Nat := sink.record.toList.map Prod.fst

@[simp]
theorem ScriptedSink.ticks_push (sink : ScriptedSink) (word : Word) :
    (Sink.push sink word).ticks = sink.ticks ++ [sink.now] := by
  change (sink.record.push (sink.now, word)).toList.map Prod.fst = _
  rw [Array.toList_push, List.map_append]
  rfl

namespace Normalizer

variable {S : Type} [Sink S]

/-- Whether the next tick hands an owed word to the sink behind. -/
def fills (normalizer : Normalizer S) : Bool :=
  match normalizer.stage with
  | .filling _ _ => Sink.ready normalizer.inner
  | _ => false

variable (normalizer : Normalizer ScriptedSink)

/-- An owed word arrives in front of the tick of the sink behind. -/
theorem ticks_tick :
    (Sink.tick normalizer).inner.ticks =
        normalizer.inner.ticks ++ (if normalizer.fills then [normalizer.inner.now] else []) ∧
      (Sink.tick normalizer).inner.now = normalizer.inner.now + 1 := by
  obtain ⟨inner, stage, truncations, extensions⟩ := normalizer
  cases stage with
  | filling count tail =>
      change ScriptedSink.ticks (tick _).inner = _ ∧ ScriptedSink.now (tick _).inner = _
      unfold tick fill fills
      dsimp only
      split
      · exact ⟨inner.ticks_push _, rfl⟩
      · exact ⟨(List.append_nil _).symm, rfl⟩
  | header => exact ⟨(List.append_nil _).symm, rfl⟩
  | body => exact ⟨(List.append_nil _).symm, rfl⟩
  | swallowing => exact ⟨(List.append_nil _).symm, rfl⟩

theorem ticks_push (word : Word) :
    (Sink.push normalizer word).inner.ticks =
        normalizer.inner.ticks ++
          (if (accept word normalizer.stage).1.isSome then [normalizer.inner.now] else []) ∧
      (Sink.push normalizer word).inner.now = normalizer.inner.now := by
  obtain ⟨_, discarded, handed⟩ := normalizer.push_spec word
  cases result : (accept word normalizer.stage).1 with
  | none =>
      rw [discarded result]
      exact ⟨(List.append_nil _).symm, rfl⟩
  | some out =>
      rw [handed out result]
      exact ⟨normalizer.inner.ticks_push out, rfl⟩

end Normalizer

namespace Outlets

/-- Whether the next tick hands an owed word to the sink behind an outlet. -/
def fills {S : Type} [Sink S] (outlets : Outlets S) : Outlet → Bool
  | .fast => outlets.fast.fills
  | _ => false

/-- Whether a word for an outlet comes to the sink behind it. -/
def passes {S : Type} (outlets : Outlets S) (word : Word) : Outlet → Bool
  | .fast => (Normalizer.accept word outlets.fast.stage).1.isSome
  | _ => true

variable (outlets : Outlets ScriptedSink)

theorem ticks_tick (outlet : Outlet) :
    (outlets.tick.sink outlet).ticks =
        (outlets.sink outlet).ticks ++
          (if outlets.fills outlet then [(outlets.sink outlet).now] else []) ∧
      (outlets.tick.sink outlet).now = (outlets.sink outlet).now + 1 := by
  cases outlet with
  | slow => exact ⟨(List.append_nil _).symm, rfl⟩
  | other => exact ⟨(List.append_nil _).symm, rfl⟩
  | fast => exact outlets.fast.ticks_tick

theorem ticks_deliver (word : Word) (route : Route) (outlet : Outlet) :
    ((outlets.deliver word route).sink outlet).ticks =
        (outlets.sink outlet).ticks ++
          (if route.reaches outlet && outlets.passes word outlet then
            [(outlets.sink outlet).now] else []) ∧
      ((outlets.deliver word route).sink outlet).now = (outlets.sink outlet).now := by
  cases reached : route.reaches outlet with
  | false =>
      have same : (outlets.deliver word route).sink outlet = outlets.sink outlet := by
        cases outlet <;> cases route <;> first | rfl | cases reached
      rw [same]
      exact ⟨(List.append_nil _).symm, rfl⟩
  | true =>
      rw [Bool.true_and]
      cases outlet with
      | slow =>
          rw [sink, deliver_slow, if_pos reached]
          exact ⟨outlets.slow.ticks_push word, rfl⟩
      | other =>
          rw [sink, deliver_other, if_pos reached]
          exact ⟨outlets.other.ticks_push word, rfl⟩
      | fast =>
          rw [sink, deliver_fast, if_pos reached]
          exact outlets.fast.ticks_push word

end Outlets

namespace Beat

section

variable {S : Type} [Sink S] (beat : Beat S (Normalizer S))

/-- The outlets behind a tick. -/
def after : Outlets S := (beat.router.tick beat.input).1.outlets

/-- Whether the word that leaves comes to the sink behind an outlet. -/
def hands (outlet : Outlet) : Bool :=
  beat.exit?.any fun exit => exit.1.reaches outlet && beat.router.outlets.tick.passes exit.2 outlet

theorem after_eq :
    beat.after =
      match beat.exit? with
      | some (route, word) => beat.router.outlets.tick.deliver word route
      | none => beat.router.outlets.tick :=
  (beat.router.tick_turn beat.input).outlets_eq

end

variable (beat : Beat ScriptedSink (Normalizer ScriptedSink))

/-- An owed word arrives in front of the tick of its sink, the word that leaves behind it. -/
theorem ticks_after (outlet : Outlet) :
    (beat.after.sink outlet).ticks =
        (beat.router.outlets.sink outlet).ticks ++
          (if beat.router.outlets.fills outlet then [(beat.router.outlets.sink outlet).now]
            else []) ++
          (if beat.hands outlet then [(beat.router.outlets.sink outlet).now + 1] else []) ∧
      (beat.after.sink outlet).now = (beat.router.outlets.sink outlet).now + 1 := by
  obtain ⟨filled, passed⟩ := beat.router.outlets.ticks_tick outlet
  rw [after_eq, hands, ← filled, ← passed]
  cases beat.exit? with
  | none => exact ⟨(List.append_nil _).symm, rfl⟩
  | some exit => exact beat.router.outlets.tick.ticks_deliver exit.2 exit.1 outlet

end Beat

/-- One more item counts at its own place. -/
theorem toNat_any_append {α : Type} (items : List α) (item : α) (test : α → Bool) (index : Nat) :
    ((items ++ [item])[index]?.any test).toNat =
      (items[index]?.any test).toNat + (if test item then [items.length] else []).count index := by
  have other : index ≠ items.length →
      (if test item then [items.length] else []).count index = 0 := by
    intro elsewhere
    split <;> simp [elsewhere.symm]
  rcases Nat.lt_trichotomy index items.length with earlier | rfl | later
  · rw [List.getElem?_append_left earlier, other earlier.ne]
    rfl
  · cases holds : test item <;> simp [holds]
  · have past : (items ++ [item]).length ≤ index := by simpa using Nat.succ_le_of_lt later
    rw [other later.ne', List.getElem?_eq_none past, List.getElem?_eq_none later.le]
    rfl

namespace Run

section

variable {S : Type} [Sink S] (run : Run S (Normalizer S))

/-- Whether the sink behind an outlet gets an owed word at the end of one of its ticks. -/
def fillsIn (outlet : Outlet) (tick : Nat) : Bool :=
  run.beats[tick]?.any fun beat => beat.router.outlets.fills outlet

/-- Whether the sink behind an outlet gets a word that leaves in one of its ticks. -/
def handsIn (outlet : Outlet) : Nat → Bool
  | 0 => false
  | index + 1 => run.beats[index]?.any fun beat => beat.hands outlet

theorem fillsIn_tick (input : Option Word) (outlet : Outlet) (tick : Nat) :
    ((run.act (.tick input)).fillsIn outlet tick).toNat =
      (run.fillsIn outlet tick).toNat +
        (if run.router.outlets.fills outlet then [run.beats.length] else []).count tick :=
  toNat_any_append run.beats ⟨run.router, input⟩ _ tick

theorem handsIn_tick (input : Option Word) (outlet : Outlet) (tick : Nat) :
    ((run.act (.tick input)).handsIn outlet tick).toNat =
      (run.handsIn outlet tick).toNat +
        (if (Beat.mk run.router input).hands outlet then [run.beats.length + 1]
          else []).count tick := by
  cases tick with
  | zero =>
      rw [handsIn, handsIn]
      split <;> simp
  | succ index =>
      refine (toNat_any_append run.beats ⟨run.router, input⟩ _ index).trans ?_
      rw [handsIn]
      split <;> simp [List.count_singleton]

end

variable (run : Run ScriptedSink (Normalizer ScriptedSink))

/-- The ticks in which words have arrived at the sink behind an outlet. -/
def ticks (outlet : Outlet) : List Nat :=
  (run.router.outlets.sink outlet).ticks

/-- What has arrived at the sink behind an outlet, by its ticks. -/
structure Timed (outlet : Outlet) : Prop where
  now : (run.router.outlets.sink outlet).now = run.beats.length
  passed : ∀ tick ∈ run.ticks outlet, tick ≤ run.beats.length
  ordered : (run.ticks outlet).Pairwise (· ≤ ·)
  count : ∀ tick, (run.ticks outlet).count tick =
    (run.fillsIn outlet tick).toNat + (run.handsIn outlet tick).toNat

variable {run} {outlet : Outlet}

theorem Timed.transfer (timed : run.Timed outlet)
    {other : Run ScriptedSink (Normalizer ScriptedSink)} (beats : other.beats = run.beats)
    (now : (other.router.outlets.sink outlet).now = (run.router.outlets.sink outlet).now)
    (ticks : other.ticks outlet = run.ticks outlet) : other.Timed outlet := by
  refine ⟨?_, ?_, ?_, ?_⟩
  · rw [now, beats, timed.now]
  · rw [ticks, beats]
    exact timed.passed
  · rw [ticks]
    exact timed.ordered
  · intro tick
    rw [ticks, timed.count]
    cases tick <;> simp [fillsIn, handsIn, beats]

theorem Timed.tick (timed : run.Timed outlet) (input : Option Word) :
    (run.act (.tick input)).Timed outlet := by
  obtain ⟨arrived, now⟩ := (Beat.mk run.router input).ticks_after outlet
  rw [timed.now] at arrived now
  have length : (run.act (.tick input)).beats.length = run.beats.length + 1 :=
    List.length_append
  have ticks : (run.act (.tick input)).ticks outlet =
      run.ticks outlet ++
        (if run.router.outlets.fills outlet then [run.beats.length] else []) ++
        (if (Beat.mk run.router input).hands outlet then [run.beats.length + 1] else []) := arrived
  have filled : ∀ tick ∈ if run.router.outlets.fills outlet then [run.beats.length] else [],
      tick = run.beats.length := by
    intro tick
    split <;> simp
  have handed : ∀ tick ∈
      if (Beat.mk run.router input).hands outlet then [run.beats.length + 1] else [],
      tick = run.beats.length + 1 := by
    intro tick
    split <;> simp
  refine ⟨now.trans length.symm, ?_, ?_, ?_⟩
  · intro tick membership
    rw [ticks, List.mem_append, List.mem_append] at membership
    rw [length]
    rcases membership with (before | owed) | left
    · exact (timed.passed tick before).trans (Nat.le_succ _)
    · exact (filled tick owed).le.trans (Nat.le_succ _)
    · exact (handed tick left).le
  · rw [ticks, List.pairwise_append, List.pairwise_append]
    refine ⟨⟨timed.ordered, ?_, ?_⟩, ?_, ?_⟩
    · split <;> simp
    · intro first earlier second later
      exact (timed.passed first earlier).trans (filled second later).ge
    · split <;> simp
    · intro first earlier second later
      rw [handed second later]
      rcases List.mem_append.mp earlier with before | owed
      · exact (timed.passed first before).trans (Nat.le_succ _)
      · exact (filled first owed).le.trans (Nat.le_succ _)
  · intro tick
    rw [ticks, List.count_append, List.count_append, timed.count, fillsIn_tick, handsIn_tick]
    omega

end Run

/-- A run over scripted sinks, which may be given other timetables. -/
def Run.scripted (config : Config) (schedules : Outlet → Schedule)
    (incidents : List (Incident Schedule)) : Run ScriptedSink (Normalizer ScriptedSink) :=
  behind config (fun outlet => .ofSchedule (schedules outlet))
    (fun schedule sink => sink.reschedule schedule) incidents

namespace Run

theorem timed_scripted (config : Config) (schedules : Outlet → Schedule)
    (incidents : List (Incident Schedule)) (outlet : Outlet) :
    (scripted config schedules incidents).Timed outlet := by
  refine play_induction (motive := fun run => run.Timed outlet) _ _ ?_ ?_
  · have nothing : (start (.ofOutlets config (.ofSinks (.ofSchedule (schedules .slow))
        (.ofSchedule (schedules .other)) (.ofSchedule (schedules .fast))))).ticks outlet = [] := by
      cases outlet <;> rfl
    refine ⟨?_, ?_, ?_, ?_⟩
    · cases outlet <;> rfl
    · simp [nothing]
    · simp [nothing]
    · intro tick
      rw [nothing]
      cases tick <;> rfl
  · intro run action membership timed
    obtain ⟨incident, _, rfl⟩ := List.mem_map.mp membership
    cases incident with
    | tick input => exact timed.tick input
    | write address value =>
        obtain ⟨config, written⟩ := run.act_write address value
        rw [Incident.action, written]
        exact timed.transfer rfl rfl rfl
    | replace config => exact timed.transfer rfl rfl rfl
    | visit visited schedule =>
        cases visited <;> refine timed.transfer rfl ?_ ?_ <;> cases outlet <;> rfl

end Run

end FrameRouter
