import FrameRouter.Proofs.Engine.FastPath
import FrameRouter.Proofs.Engine.Timing
import FrameRouter.Proofs.Sink.Trimming
import Mathlib.Data.List.Sort

/-!
# Pacing

The slow path and the peer get at most one word a tick.  So does the fast path
except in one case: the first word that a normalizer owes falls into the tick of
the word with which the frame was found short, if the sink is ready again.
-/

namespace FrameRouter

open Normalization

namespace Normalizer

variable {S : Type} [Sink S]

/-- A ready normalizer that is found owing behind a word has passed the word on. -/
theorem isSome_accept {stage : Normalizing} {word : Word} (settled : owed stage = [])
    (owes : owed (accept word stage).2 ≠ []) : (accept word stage).1.isSome = true := by
  cases stage with
  | header passed ipv4 =>
      unfold accept
      dsimp only
      split <;> split <;> rfl
  | body passed extent => rfl
  | swallowing =>
      refine absurd ?_ owes
      unfold accept
      dsimp only
      split <;> rfl
  | filling count tail => exact absurd settled (owed_filling_ne_nil count tail)

theorem fills_iff {S : Type} [Sink S] (normalizer : Normalizer S) :
    normalizer.fills = true ↔ owed normalizer.stage ≠ [] ∧ Sink.ready normalizer.inner = true := by
  unfold fills
  cases stage : normalizer.stage with
  | filling count tail => simp [owed_filling_ne_nil]
  | header => simp [owed]
  | body => simp [owed]
  | swallowing => simp [owed]

end Normalizer

namespace Beat

section

variable {S : Type} [Sink S] (beat : Beat S (Normalizer S))

/-- A word leaves for the fast sink only while the normalizer is ready. -/
theorem ready_of_exit? {route : Route} {word : Word} (left : beat.exit? = some (route, word))
    (reached : route.reaches .fast = true) : Sink.ready beat.router.outlets.tick.fast = true := by
  obtain ⟨_, accepted, _⟩ := Router.of_exit? left
  rw [Outlets.accepts_eq, reached] at accepted
  have fast := (Bool.and_eq_true_iff.mp accepted).2
  rw [Bool.not_true, Bool.false_or] at fast
  exact fast

/-- A frame is found short exactly if the word that leaves arrives and further words are owed. -/
theorem extends_iff :
    beat.router.outlets.fast.extensions < beat.after.fast.extensions ↔
      beat.hands .fast = true ∧ owed beat.after.fast.stage ≠ [] := by
  have same : beat.router.outlets.tick.fast.extensions = beat.router.outlets.fast.extensions :=
    beat.router.outlets.fast.tick_counters.2.1
  rw [after_eq, hands, ← same]
  cases left : beat.exit? with
  | none => simp
  | some exit =>
      obtain ⟨route, word⟩ := exit
      dsimp only [Option.any_some]
      rw [Outlets.deliver_fast]
      cases reached : route.reaches .fast with
      | false => simp
      | true =>
          obtain ⟨settled, _⟩ := Normalizer.ready_spec (beat.ready_of_exit? left reached) word
          obtain ⟨_, counted⟩ := beat.router.outlets.tick.fast.push_counters word settled
          have stage := (beat.router.outlets.tick.fast.push_spec word).1
          rw [if_pos rfl, counted, stage, Bool.true_and, Outlets.passes]
          split
          · rename_i nothing
            simp [nothing]
          · rename_i owes
            simp [owes, Normalizer.isSome_accept settled owes]

end

variable (beat : Beat ScriptedSink (Normalizer ScriptedSink))

/-- A scripted sink is as ready behind a word from the normalizer as it was in front of it. -/
theorem ready_after (handed : beat.hands .fast = true) :
    Sink.ready beat.after.fast.inner = true := by
  rw [hands] at handed
  rw [after_eq]
  cases left : beat.exit? with
  | none => simp [left] at handed
  | some exit =>
      obtain ⟨route, word⟩ := exit
      rw [left, Option.any_some, Bool.and_eq_true] at handed
      obtain ⟨reached, isSome⟩ := handed
      obtain ⟨out, passed⟩ := Option.isSome_iff_exists.mp isSome
      obtain ⟨_, free⟩ := Normalizer.ready_spec (beat.ready_of_exit? left reached) word
      have innerReady : Sink.ready beat.router.outlets.tick.fast.inner = true := by
        simpa [passed] using free
      dsimp only
      rw [Outlets.deliver_fast, if_pos reached,
        (beat.router.outlets.tick.fast.push_spec word).2.2 out passed]
      exact innerReady

end Beat

namespace Run

section

variable {S : Type} [Sink S] (run : Run S (Normalizer S))

/-- In the tick a frame was found short, and the sink is ready in front of the next. -/
def Rushed (tick : Nat) : Prop :=
  0 < tick ∧ ∃ beat next, run.beats[tick - 1]? = some beat ∧ run.beats[tick]? = some next ∧
    beat.router.outlets.fast.extensions < next.router.outlets.fast.extensions ∧
    Sink.ready next.router.outlets.fast.inner = true

/--
Between the ticks nothing happens to what is seen of the outlets: in front of
every tick but the first it is what the tick before has left.
-/
def Seamless {α : Type} (view : Outlets S → α) (start : α) (run : Run S (Normalizer S)) : Prop :=
  run.beats.map (fun beat => view beat.router.outlets) ++ [view run.router.outlets] =
    start :: run.beats.map fun beat => view beat.after

variable {α : Type} {view : Outlets S → α} {start : α} {run}

theorem Seamless.tick (seamless : run.Seamless view start) (input : Option Word) :
    (run.act (.tick input)).Seamless view start := by
  unfold Seamless at seamless ⊢
  simp only [act, List.map_append, List.map_singleton]
  rw [seamless]
  rfl

theorem Seamless.first (seamless : run.Seamless view start) {beat : Beat S (Normalizer S)}
    (found : run.beats[0]? = some beat) : view beat.router.outlets = start := by
  have entries := congrArg (·[0]?) seamless
  obtain ⟨inside, same⟩ := List.getElem?_eq_some_iff.mp found
  simpa [List.getElem?_append_left, inside, same] using entries

theorem Seamless.next (seamless : run.Seamless view start) {index : Nat}
    {beat next : Beat S (Normalizer S)} (found : run.beats[index]? = some beat)
    (follows : run.beats[index + 1]? = some next) :
    view next.router.outlets = view beat.after := by
  have entries := congrArg (·[index + 1]?) seamless
  obtain ⟨inside, same⟩ := List.getElem?_eq_some_iff.mp follows
  simpa [List.getElem?_append_left, inside, same, found] using entries

end

/-- What visits leave alone is seamless. -/
theorem seamless_behind {S V α : Type} [Sink S] (config : Config) (sinks : Outlet → S)
    (act : V → S → S) (incidents : List (Incident V)) (view : Outlets S → α)
    (keeps : ∀ outlet manner, .visit outlet manner ∈ incidents → ∀ outlets : Outlets S,
      view (outlets.setSink (act manner (outlets.sink outlet)) outlet) = view outlets) :
    (behind config sinks act incidents).Seamless view
      (view (.ofSinks (sinks .slow) (sinks .other) (sinks .fast))) := by
  refine play_induction (motive := Seamless view _) _ _ rfl ?_
  intro run action membership seamless
  obtain ⟨incident, listed, rfl⟩ := List.mem_map.mp membership
  cases incident with
  | tick input => exact seamless.tick input
  | write address value =>
      obtain ⟨config, written⟩ := run.act_write address value
      rw [Incident.action, written]
      exact seamless
  | replace config => exact seamless
  | visit outlet manner =>
      have same := keeps outlet manner listed run.router.outlets
      unfold Seamless at seamless ⊢
      rw [← same] at seamless
      cases outlet <;> exact seamless

section

variable {S : Type} [Sink S] {run : Run S (Normalizer S)}

/-- In a tick both an owed word and one that leaves arrive exactly if the tick is rushed. -/
theorem rushed_iff
    (seamless : run.Seamless (fun outlets => (outlets.fast.stage, outlets.fast.extensions))
      (.start, 0)) (tick : Nat) :
    run.Rushed tick ↔ run.fillsIn .fast tick = true ∧ run.handsIn .fast tick = true := by
  cases tick with
  | zero => simp [Rushed, handsIn]
  | succ index =>
      simp only [Rushed, fillsIn, handsIn, Option.any_eq_true, Nat.add_sub_cancel, Nat.succ_pos,
        true_and]
      constructor
      · rintro ⟨beat, next, found, follows, rises, isReady⟩
        obtain ⟨stage, extensions⟩ := Prod.mk.inj (seamless.next found follows)
        rw [extensions, beat.extends_iff] at rises
        rw [← stage] at rises
        exact ⟨⟨next, follows, next.router.outlets.fast.fills_iff.mpr ⟨rises.2, isReady⟩⟩,
          beat, found, rises.1⟩
      · rintro ⟨⟨next, follows, fills⟩, beat, found, handed⟩
        obtain ⟨stage, extensions⟩ := Prod.mk.inj (seamless.next found follows)
        obtain ⟨owes, isReady⟩ := next.router.outlets.fast.fills_iff.mp fills
        rw [stage] at owes
        refine ⟨beat, next, found, follows, ?_, isReady⟩
        rw [extensions]
        exact beat.extends_iff.mpr ⟨handed, owes⟩

end

/--
No sink gets two words in a tick, except that the one behind the normalizer gets
a second one in a rushed tick.
-/
structure Paced (run : Run ScriptedSink (Normalizer ScriptedSink)) : Prop where
  slow : (run.ticks .slow).SortedLT
  other : (run.ticks .other).SortedLT
  fast : (run.ticks .fast).SortedLE
  atMost : ∀ tick, (run.ticks .fast).count tick ≤ 2
  twice : ∀ tick, (run.ticks .fast).count tick = 2 ↔ run.Rushed tick
  strict : (run.ticks .fast).SortedLT ↔ ∀ tick, ¬run.Rushed tick

variable {run : Run ScriptedSink (Normalizer ScriptedSink)} {outlet : Outlet}

theorem Timed.sortedLT_iff (timed : run.Timed outlet) :
    (run.ticks outlet).SortedLT ↔ ∀ tick, (run.ticks outlet).count tick ≤ 1 := by
  rw [List.sortedLT_iff_nodup_and_sortedLE, List.nodup_iff_count_le_one]
  exact and_iff_left timed.ordered.sortedLE

/-- Where the normalizer adds no words there are no two in a tick. -/
theorem Timed.sortedLT (timed : run.Timed outlet)
    (nothing : ∀ tick, run.fillsIn outlet tick = false) : (run.ticks outlet).SortedLT := by
  rw [timed.sortedLT_iff]
  intro tick
  rw [timed.count, nothing, Bool.toNat_false, Nat.zero_add]
  exact Bool.toNat_le _

theorem paced (timed : ∀ outlet, run.Timed outlet)
    (seamless : run.Seamless (fun outlets => (outlets.fast.stage, outlets.fast.extensions))
      (.start, 0)) : run.Paced := by
  have twice : ∀ tick, (run.ticks .fast).count tick = 2 ↔ run.Rushed tick := by
    intro tick
    rw [(timed .fast).count, rushed_iff seamless]
    cases run.fillsIn .fast tick <;> cases run.handsIn .fast tick <;> decide
  have atMost : ∀ tick, (run.ticks .fast).count tick ≤ 2 := by
    intro tick
    rw [(timed .fast).count]
    exact Nat.add_le_add (Bool.toNat_le _) (Bool.toNat_le _)
  have absent : ∀ outlet, outlet ≠ .fast → ∀ tick, run.fillsIn outlet tick = false := by
    intro outlet elsewhere tick
    unfold fillsIn
    cases run.beats[tick]? <;> cases outlet <;> first | rfl | exact absurd rfl elsewhere
  refine ⟨(timed .slow).sortedLT (absent .slow (by decide)),
    (timed .other).sortedLT (absent .other (by decide)), (timed .fast).ordered.sortedLE, atMost,
    twice, ?_⟩
  rw [(timed .fast).sortedLT_iff]
  refine forall_congr' fun tick => ?_
  rw [← twice tick]
  have bound := atMost tick
  omega

/-- Under fixed timetables every tick but the last is rushed that finds a frame short. -/
theorem rushed_iff_of_fixed {sinks : Outlets ScriptedSink}
    (seamless : run.Seamless id sinks) (index : Nat) :
    run.Rushed (index + 1) ↔ ∃ beat next, run.beats[index]? = some beat ∧
      run.beats[index + 1]? = some next ∧
      beat.router.outlets.fast.extensions < next.router.outlets.fast.extensions := by
  simp only [Rushed, Nat.add_sub_cancel, Nat.succ_pos, true_and]
  constructor
  · rintro ⟨beat, next, found, follows, rises, _⟩
    exact ⟨beat, next, found, follows, rises⟩
  · rintro ⟨beat, next, found, follows, rises⟩
    refine ⟨beat, next, found, follows, rises, ?_⟩
    have same : next.router.outlets = beat.after := seamless.next found follows
    rw [same] at rises ⊢
    exact beat.ready_after (beat.extends_iff.mp rises).1

/-- Under fixed timetables no tick is rushed as long as no frame has been found short. -/
theorem not_rushed_iff_of_fixed {sinks : Outlets ScriptedSink} (seamless : run.Seamless id sinks)
    (blank : sinks.fast.extensions = 0) :
    (∀ tick, ¬run.Rushed tick) ↔ ∀ beat ∈ run.beats, beat.router.outlets.fast.extensions = 0 := by
  constructor
  · intro unrushed
    have none : ∀ (index : Nat) (beat : Beat ScriptedSink (Normalizer ScriptedSink)),
        run.beats[index]? = some beat → beat.router.outlets.fast.extensions = 0 := by
      intro index
      induction index with
      | zero =>
          intro beat found
          have same : beat.router.outlets = sinks := seamless.first found
          rw [same, blank]
      | succ index ih =>
          intro next follows
          obtain ⟨inside, _⟩ := List.getElem?_eq_some_iff.mp follows
          have found := List.getElem?_eq_getElem (Nat.lt_of_succ_lt inside)
          have steady := unrushed (index + 1)
          rw [rushed_iff_of_fixed seamless] at steady
          have before := ih _ found
          by_contra rises
          exact steady ⟨_, next, found, follows, by omega⟩
    intro beat membership
    obtain ⟨index, found⟩ := List.mem_iff_getElem?.mp membership
    exact none index beat found
  · rintro none tick ⟨positive, beat, next, found, follows, rises, _⟩
    rw [none next (List.mem_of_getElem? follows)] at rises
    exact Nat.not_lt_zero _ rises

/--
Over scripted sinks the slow path and the peer get at most one word a tick.  The
fast sink gets two exactly in a tick in which a frame is found short and behind
which the sink is ready again.  As long as no timetable changes, this is every
such tick but the last, so that at most one word a tick arrives exactly if no
frame has been found short in front of any tick.
-/
theorem pacing (config : Config) (schedules : Outlet → Schedule)
    (incidents : List (Incident Schedule)) :
    (scripted config schedules incidents).Paced ∧
      ((∀ outlet schedule, .visit outlet schedule ∉ incidents) →
        (((scripted config schedules incidents).ticks .fast).SortedLT ↔
          ∀ beat ∈ (scripted config schedules incidents).beats,
            beat.router.outlets.fast.extensions = 0)) := by
  have paced : (scripted config schedules incidents).Paced := by
    refine paced (timed_scripted config schedules incidents) ?_
    refine seamless_behind config _ _ incidents
      (fun outlets : Outlets ScriptedSink => (outlets.fast.stage, outlets.fast.extensions)) ?_
    intro outlet manner _ outlets
    cases outlet <;> rfl
  refine ⟨paced, ?_⟩
  intro fixed
  rw [paced.strict]
  refine not_rushed_iff_of_fixed (seamless_behind config _ _ incidents id ?_) rfl
  intro outlet schedule visited
  exact absurd visited (fixed outlet schedule)

/-- So many ticks, in which a datagram that lacks two words is offered to a router. -/
def offered (count : Nat) : List (Incident Schedule) :=
  ((Delivery.datagram.map some ++ List.replicate 14 none).take count).map .tick

/-- Up to the tick in which the datagram is found short there is one word a tick. -/
theorem pacing_offered :
    let run := scripted Delivery.station (fun _ => .always) (offered 25)
    (∀ outlet schedule, .visit outlet schedule ∉ offered 25) ∧
      (∀ beat ∈ run.beats, beat.router.outlets.fast.extensions = 0) ∧
      (run.ticks .fast).SortedLT ∧ run.ticks .fast = List.range' 14 12 := by
  intro run
  have fixed : ∀ outlet schedule, .visit outlet schedule ∉ offered 25 := by
    intro outlet schedule visited
    obtain ⟨_, _, ticked⟩ := List.mem_map.mp visited
    cases ticked
  have none : ∀ beat ∈ run.beats, beat.router.outlets.fast.extensions = 0 := by decide +kernel
  obtain ⟨_, strict⟩ := pacing Delivery.station (fun _ => .always) (offered 25)
  exact ⟨fixed, none, (strict fixed).mpr none, by decide +kernel⟩

/-- One tick later the first missing word has arrived in the same tick. -/
theorem not_sortedLT_offered :
    ¬∀ (config : Config) (schedules : Outlet → Schedule) (incidents : List (Incident Schedule))
      (outlet : Outlet), ((scripted config schedules incidents).ticks outlet).SortedLT := by
  intro strict
  have single := (strict Delivery.station (fun _ => .always) (offered 26) .fast).nodup
  exact absurd single (by decide +kernel)

end Run

end FrameRouter
