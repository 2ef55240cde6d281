import FrameRouter.Proofs.Engine.Counting
import FrameRouter.Proofs.Engine.Reception
import FrameRouter.Proofs.Engine.Replaying

/-!
# Service

A worker, the sender of its frames and the consumers of its queues act in any
order.  At any time the frames sent are those accepted, those ahead at the
source and those in the channel.  A worker that has come to its end has let out
what a replay of all frames lets out.
-/

namespace FrameRouter

open Cutting

namespace Worker

/-- The worker that is about to let a tick pass, unless it waits for a frame. -/
def readied? (worker : Worker) : Option Worker :=
  if worker.session.isDone then
    match worker.channel with
    | frame :: rest =>
        some (prefetch { worker with channel := rest, session := worker.session.send [frame] })
    | [] => none
  else
    some worker.prefetch

/-- The worker that has waited for a frame in vain. -/
def waited (worker : Worker) : Worker :=
  if worker.connected then worker else { worker with disconnectSeen := true }

/-- The worker behind its next step. -/
def stepped (worker : Worker) : Worker := { worker with session := worker.session.step.1 }

theorem iterate_eq (worker : Worker) :
    worker.iterate =
      match worker.readied? with
      | some ready => ready.stepped
      | none => worker.waited := by
  unfold iterate readied?
  split
  · cases channel : worker.channel with
    | nil => simp only [waited, channel]
    | cons frame rest => rfl
  · rfl

/-- A worker waits only in front of an empty channel. -/
theorem channel_of_readied? {worker : Worker} (waits : worker.readied? = none) :
    worker.channel = [] := by
  unfold readied? at waits
  split at waits
  · cases channel : worker.channel with
    | nil => rfl
    | cons frame rest =>
        rw [channel] at waits
        cases waits
  · cases waits

end Worker

/-- What can happen around a worker. -/
inductive Occurrence where
  /-- A frame of these words is sent; a sender that has gone sends nothing more. -/
  | send (words : List Word)
  | disconnect
  /-- The worker goes once through its loop, until it has come to its end. -/
  | iterate
  /-- The queue behind an outlet is drained. -/
  | drain (outlet : Outlet)
deriving DecidableEq, Repr

/-- A worker with what has been sent to it, and with what has come of it. -/
structure Service where
  worker : Worker
  /-- Every frame sent so far, oldest first. -/
  sent : List Frame
  /-- The frames that have been drained behind each outlet. -/
  received : Outlet → List Frame
  /-- The ticks of the router, oldest first. -/
  beats : List (Beat Queue (Normalizer Queue))

namespace Service

def start (name : String) (config : Config) (depth : Nat) : Service :=
  ⟨.ofDepth name config depth, [], fun _ => [], []⟩

/-- The router with the ticks that it has passed. -/
def run (service : Service) : Run Queue (Normalizer Queue) :=
  ⟨service.worker.session.router, service.beats⟩

/-- The session with the frames that have been drained. -/
def delivery (service : Service) : Delivery Queue := ⟨service.worker.session, service.received⟩

def act (service : Service) : Occurrence → Service
  | .send words =>
      if service.worker.connected then
        { service with
          worker := service.worker.send [.ofWords words]
          sent := service.sent ++ [.ofWords words] }
      else
        service
  | .disconnect => { service with worker := service.worker.disconnect }
  | .iterate =>
      if service.worker.isFinished then
        service
      else
        { service with
          worker := service.worker.iterate
          beats :=
            service.beats ++ (service.worker.readied?.map fun ready => ready.session.beat).toList }
  | .drain outlet =>
      let (frames, queue) := (service.worker.session.router.outlets.sink outlet).drain
      { service with
        worker :=
          { service.worker with
            session :=
              { service.worker.session with
                router := service.worker.session.router.setSink outlet queue } }
        received :=
          Function.update service.received outlet (service.received outlet ++ frames) }

/-- A fresh worker behind some occurrences. -/
def after (name : String) (config : Config) (depth : Nat) (occurrences : List Occurrence) :
    Service :=
  occurrences.foldl act (start name config depth)

/-- The frames that have been accepted to their end. -/
def accepted (service : Service) : List Frame :=
  (complete Word.last service.run.words).map Frame.mk

/-- The books on a service: the frames taken from the channel and those accepted to their end. -/
structure Books (config : Config) (service : Service) (given past : List Frame)
    (ledger : Ledger) : Prop where
  sent : service.sent = given ++ service.worker.channel
  fed : service.worker.session.source.Fed given past service.run.words
  accounts : Delivery.Accounts Queue.Holds config given service.delivery service.run.samples
    service.run.decisions ledger
  counted : service.run.Counted ledger
  pending : service.worker.session.source.pending ≤ Worker.prefetchLimit
  /-- Nothing more can come when the worker knows it. -/
  ended : service.worker.disconnectSeen = true →
    service.worker.connected = false ∧ service.worker.channel = []
  made : ∀ frame ∈ Delivery.proper service.sent, Frame.Sealed frame.words

variable {config : Config} {service : Service} {given past : List Frame} {ledger : Ledger}

theorem books_start (name : String) (config : Config) (depth : Nat) :
    (start name config depth).Books config [] [] .blank where
  sent := rfl
  fed := Source.fed_empty
  accounts := Delivery.accounts_start Queue.keeps_holds config (fun _ => depth) []
  counted := ⟨rfl, rfl, rfl, fun route => by cases route <;> rfl⟩
  pending := Nat.zero_le _
  ended := by
    intro seen
    cases seen
  made := by
    intro frame membership
    cases membership

/-- The worker with frames of the channel at its source. -/
theorem Books.receive (books : service.Books config given past ledger) {frames channel : List Frame}
    {source : Source} (split : service.worker.channel = frames ++ channel)
    (fed : source.Fed (given ++ frames) past service.run.words)
    (pending : source.pending ≤ Worker.prefetchLimit) {seen : Bool}
    (ended : seen = true → service.worker.connected = false ∧ channel = []) :
    Books config
      { service with
        worker :=
          { service.worker with
            channel := channel
            disconnectSeen := seen
            session := { service.worker.session with source := source } } }
      (given ++ frames) past ledger where
  sent := by rw [books.sent, split, List.append_assoc]
  fed := fed
  accounts :=
    ⟨books.accounts.balanced, fed.stream, books.accounts.constant, books.accounts.sampled,
      books.accounts.decided⟩
  counted := books.counted.transfer rfl rfl
  pending := pending
  ended := ended
  made := books.made

theorem Books.prefetch (books : service.Books config given past ledger) :
    ∃ further, Books config { service with worker := service.worker.prefetch } further past
      ledger := by
  unfold Worker.prefetch
  split
  · exact ⟨given, books⟩
  · obtain ⟨frames, split, fed, pending⟩ :=
      Worker.prefetchFrom_spec books.fed service.worker.channel books.pending
    refine ⟨given ++ frames, books.receive split fed pending ?_⟩
    intro seen
    simp only [Bool.and_eq_true, Bool.not_eq_true'] at seen
    exact ⟨seen.1.2, List.isEmpty_iff.mp seen.1.1⟩

theorem Books.readied (books : service.Books config given past ledger) {ready : Worker}
    (readies : service.worker.readied? = some ready) :
    ∃ further, Books config { service with worker := ready } further past ledger := by
  unfold Worker.readied? at readies
  split at readies
  · rename_i done
    split at readies
    · rename_i frame rest channel
      cases readies
      have split : service.worker.channel = [frame] ++ rest := channel
      have nothing := Source.pending_of_isEmpty (Bool.and_eq_true_iff.mp done).1
      have pending := service.worker.session.source.pending_push_le frame
      rw [nothing] at pending
      refine (books.receive split (books.fed.push frame) (pending.trans (by decide)) ?_).prefetch
      intro seen
      rw [(books.ended seen).2] at channel
      cases channel
    · cases readies
  · cases readies
    exact books.prefetch

/-- A step of the session enters the words and decisions of its tick. -/
theorem Books.stepped (books : service.Books config given past ledger) :
    ∃ further next, Books config
      { service with
        worker := service.worker.stepped
        beats := service.beats ++ [service.worker.session.beat] } given further next := by
  obtain ⟨sent, fed, accounts, counted, pending, ended, made⟩ := books
  obtain ⟨next, entry, entered⟩ := accounts.step Queue.keeps_holds
  generalize later : ({ service with
    worker := service.worker.stepped
    beats := service.beats ++ [service.worker.session.beat] } : Service) = stepped
  have acted : stepped.run = service.run.act (.tick service.worker.session.source.current) := by
    subst later
    unfold run Worker.stepped
    rw [Session.step_fst]
    rfl
  have source : stepped.worker.session.source =
      if (service.worker.session.router.tick service.worker.session.source.current).2 = true then
        service.worker.session.source.advance
      else service.worker.session.source := by
    subst later
    unfold Worker.stepped
    rw [Session.step_fst]
  have words : stepped.run.words =
      service.run.words ++ (service.worker.session.beat.sample?.map Sample.word).toList := by
    rw [acted, Run.words, Run.samples_tick, List.map_append, Option.toList_map]
    rfl
  have taken : ∃ further, stepped.worker.session.source.Fed given further stepped.run.words := by
    rw [source, words, Session.word_beat]
    split
    · cases presented : service.worker.session.source.current with
      | none =>
          rw [Source.advance_of_none presented, Option.toList_none, List.append_nil]
          exact ⟨past, fed⟩
      | some word => exact fed.advance presented
    · rw [Option.toList_none, List.append_nil]
      exact ⟨past, fed⟩
  obtain ⟨further, taken⟩ := taken
  refine ⟨further, next, ?_, taken, ?_, ?_, ?_, ?_, ?_⟩
  · subst later
    exact sent
  · rw [acted, Run.samples_tick, Run.decisions_tick]
    subst later
    exact entered
  · rw [acted]
    exact counted.tick accounts.balanced entry
  · rw [source]
    split
    · exact (Source.pending_advance_le _).trans pending
    · exact pending
  · subst later
    exact ended
  · subst later
    exact made

/-- A frame that is sent goes to the end of the channel. -/
theorem Books.send (books : service.Books config given past ledger) (words : List Word) :
    (service.act (.send words)).Books config given past ledger := by
  by_cases connected : service.worker.connected = true
  · have sends : service.act (.send words) =
        { service with
          worker := service.worker.send [.ofWords words]
          sent := service.sent ++ [.ofWords words] } := if_pos connected
    rw [sends]
    refine ⟨?_, books.fed, books.accounts, books.counted.transfer rfl rfl, books.pending, ?_, ?_⟩
    · rw [books.sent, List.append_assoc]
      rfl
    · intro seen
      exact absurd (connected.symm.trans (books.ended seen).1) (by decide)
    · rw [Delivery.proper_append]
      intro frame membership
      rcases List.mem_append.mp membership with earlier | this
      · exact books.made frame earlier
      · have listed : frame ∈ Delivery.proper ([words].map Frame.ofWords) := this
        exact Delivery.sealed_of_proper listed
  · have nothing : service.act (.send words) = service := if_neg connected
    rw [nothing]
    exact books

/-- A worker that learns that no sender is left changes nothing else. -/
theorem Books.waited (books : service.Books config given past ledger)
    (channel : service.worker.channel = []) :
    Books config { service with worker := service.worker.waited } given past ledger := by
  unfold Worker.waited
  split
  · exact books
  · rename_i disconnected
    refine ⟨books.sent, books.fed, books.accounts, books.counted.transfer rfl rfl, books.pending,
      ?_, books.made⟩
    intro _
    exact ⟨Bool.eq_false_of_not_eq_true disconnected, channel⟩

/-- The worker makes ready and takes a step, or waits for a frame. -/
theorem Books.iterate (books : service.Books config given past ledger) :
    ∃ taken further next, (service.act .iterate).Books config taken further next := by
  by_cases finished : service.worker.isFinished = true
  · have nothing : service.act .iterate = service := if_pos finished
    rw [nothing]
    exact ⟨given, past, ledger, books⟩
  · have iterates : service.act .iterate =
        { service with
          worker := service.worker.iterate
          beats := service.beats ++
            (service.worker.readied?.map fun ready => ready.session.beat).toList } :=
      if_neg finished
    rw [iterates, Worker.iterate_eq]
    cases readies : service.worker.readied? with
    | some ready =>
        obtain ⟨taken, readied⟩ := books.readied readies
        obtain ⟨further, next, stepped⟩ := readied.stepped
        exact ⟨taken, further, next, stepped⟩
    | none =>
        simp only [Option.map_none, Option.toList_none, List.append_nil]
        exact ⟨given, past, ledger, books.waited (Worker.channel_of_readied? readies)⟩

/-- Whatever happens, the books can be kept. -/
theorem Books.act (books : service.Books config given past ledger) (occurrence : Occurrence) :
    ∃ taken further next, (service.act occurrence).Books config taken further next := by
  cases occurrence with
  | send words => exact ⟨given, past, ledger, books.send words⟩
  | disconnect =>
      refine ⟨given, past, ledger, books.sent, books.fed, books.accounts,
        books.counted.transfer rfl rfl, books.pending, ?_, books.made⟩
      intro seen
      exact ⟨rfl, (books.ended seen).2⟩
  | iterate => exact books.iterate
  | drain outlet =>
      refine ⟨given, past, ledger, books.sent, books.fed,
        books.accounts.visit Queue.keeps_holds outlet (), ?_, books.pending, books.ended,
        books.made⟩
      exact books.counted.transfer (by rfl) (by rfl)

theorem exists_books (name : String) (config : Config) (depth : Nat)
    (occurrences : List Occurrence) :
    ∃ given past ledger, (after name config depth occurrences).Books config given past ledger := by
  refine List.foldlRecOn occurrences act
    (motive := fun service => ∃ given past ledger, service.Books config given past ledger)
    ⟨[], [], .blank, books_start name config depth⟩ ?_
  rintro service ⟨given, past, ledger, books⟩ occurrence _
  exact books.act occurrence

/-- Nothing that was sent is lost, doubled or overtaken on its way to the router. -/
structure Orderly (service : Service) : Prop where
  ahead : service.worker.session.source.frames.length ≤ 2
  sent : Delivery.proper service.sent =
    service.accepted ++ service.worker.session.source.frames ++
      Delivery.proper service.worker.channel
  /-- The front frame may have been begun. -/
  begun : remainder Word.last service.run.words = service.worker.session.source.taken.reverse

/-- All that was sent has been accepted and routed, and has left as in a replay. -/
structure Fulfilled (config : Config) (service : Service) : Prop where
  disconnected : service.worker.connected = false
  accepted : service.run.frames = (Delivery.proper service.sent).map Frame.words
  routed : service.run.routes = (Delivery.proper service.sent).map (Frame.route config)
  counted : service.worker.session.router.statistics.frames =
    (Delivery.proper service.sent).length
  wordsIn : service.worker.session.router.statistics.wordsIn =
    (service.sent.map Frame.length).sum
  delivered : ∀ outlet depth,
    service.received outlet ++ (service.worker.session.router.outlets.sink outlet).drain.1 =
      Departure.through outlet (Replay.run config depth service.sent).departures

theorem Books.sealed_given (books : service.Books config given past ledger) :
    ∀ frame ∈ Delivery.proper given, Frame.Sealed frame.words := by
  intro frame membership
  refine books.made frame ?_
  rw [books.sent, Delivery.proper_append]
  exact List.mem_append_left _ membership

theorem Books.orderly (books : service.Books config given past ledger) : service.Orderly := by
  obtain ⟨complete, begun⟩ := books.fed.complete books.sealed_given
  constructor
  · rw [Source.length_frames]
    exact books.pending
  · have accepted : service.accepted = past := by
      rw [Service.accepted, complete, List.map_map]
      exact List.map_id past
    rw [books.sent, Delivery.proper_append, books.fed.given, accepted]
  · exact begun

theorem Books.fulfilled (books : service.Books config given past ledger)
    (finished : service.worker.isFinished = true) : service.Fulfilled config := by
  obtain ⟨seen, done⟩ := Bool.and_eq_true_iff.mp finished
  obtain ⟨disconnected, channel⟩ := books.ended seen
  obtain ⟨drained, idle⟩ := Bool.and_eq_true_iff.mp done
  have isSealed := books.sealed_given
  have sent : service.sent = given := by rw [books.sent, channel, List.append_nil]
  have stream : service.run.words = given.flatMap Frame.words := by
    have all := books.fed.stream
    rwa [Source.remaining_of_isEmpty drained, List.append_nil] at all
  have frames : service.run.frames = (Delivery.proper given).map Frame.words := by
    rw [Run.frames, stream, ← Delivery.flatten_proper]
    refine pieces_flatten ?_
    intro words membership
    obtain ⟨frame, listed, rfl⟩ := List.mem_map.mp membership
    exact (isSealed frame listed).whole
  have routes : service.run.routes = (Delivery.proper given).map (Frame.route config) := by
    have phase : service.run.router.phase = .idle :=
      beq_iff_eq.mp (Bool.and_eq_true_iff.mp idle).1
    rw [Balanced.routes books.accounts.balanced, phase, ← (books.accounts.passages isSealed done).2,
      List.map_map]
    refine (List.append_nil _).trans (List.map_congr_left ?_)
    intro passage membership
    exact books.accounts.route membership
  have counted := Balanced.counted_routes books.accounts.balanced books.counted
  rw [← sent] at frames routes stream isSealed
  constructor
  · exact disconnected
  · exact frames
  · exact routes
  · have all := Statistics.frames_of_routed _ _ counted
    rw [routes, List.length_map] at all
    exact all
  · have taken : service.run.words.length = service.run.router.counters.wordsIn := by
      rw [books.counted.wordsIn, ← Run.length_samples]
      exact List.length_map _
    rw [stream, List.length_flatMap] at taken
    exact taken.symm
  · intro outlet depth
    rw [Replay.through_departures config depth isSealed outlet, sent]
    exact congrFun (books.accounts.delivered Queue.keeps_holds (sent ▸ isSealed) done) outlet

/--
Whatever the sender, the worker and the consumers do, and in which order, at most
two frames are ahead at the source, and all frames sent are in their places.  A
worker that has come to its end has delivered what a replay delivers.
-/
theorem fulfilment (name : String) (config : Config) (depth : Nat)
    (occurrences : List Occurrence) :
    (after name config depth occurrences).Orderly ∧
      ((after name config depth occurrences).worker.isFinished = true →
        (after name config depth occurrences).Fulfilled config) := by
  obtain ⟨given, past, ledger, books⟩ := exists_books name config depth occurrences
  exact ⟨books.orderly, books.fulfilled⟩

/-- Frames are sent while the worker is at its loop, and queues of one word are drained in turn. -/
def errands : List Occurrence :=
  [.iterate, .send Delivery.announcement, .send [], .iterate, .drain .fast,
    .send Delivery.datagram, .iterate, .disconnect, .send Delivery.announcement] ++
    (List.replicate 40 [.iterate, .drain .slow, .drain .other, .iterate, .drain .fast]).flatten

/-- The worker comes to its end, and a frame that was sent too late has not been sent. -/
theorem fulfilment_interleaved :
    let service := after "worker" Delivery.station 1 errands
    service.worker.isFinished = true ∧ service.Orderly ∧ service.Fulfilled Delivery.station ∧
      service.sent = [Delivery.announcement, [], Delivery.datagram].map Frame.ofWords ∧
      service.run.routes = [.both, .fast] ∧
      service.received .fast = [(Frame.ofWords Delivery.datagram).normalized] := by
  intro service
  have finished : service.worker.isFinished = true := by decide +kernel
  obtain ⟨orderly, fulfilled⟩ := fulfilment "worker" Delivery.station 1 errands
  refine ⟨finished, orderly, fulfilled finished, by decide +kernel, ?_, by decide +kernel⟩
  decide +kernel

end Service

end FrameRouter
