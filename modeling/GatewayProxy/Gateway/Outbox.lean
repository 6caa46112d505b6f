import GatewayProxy.Source.Sink

/-!
# The queue and its sink

The writers put messages into the queue of a connection and the sink task takes
them out. What was put in and what was written is kept as a history, and nothing is
said here about when the writers put what in.

Main results:

* `Outbox.Kept`: the written messages are those put in, in order, and the
  compressed ones come last, as one zlib stream.
* `Outbox.kept_enqueue`, `Outbox.kept_step`: every step keeps that.
-/

namespace GatewayProxy

open Utf8

inductive Producer
  | handler
  | forwardShard
  deriving DecidableEq

structure Queued where
  producer : Producer
  message : Message
  deriving DecidableEq

structure Written where
  queued : Queued
  frame : Frame
  deriving DecidableEq

structure Outbox (ζ : Type) where
  queue : List Queued
  sink : Sink ζ
  /-- history: what was put into the queue -/
  enqueued : List Queued
  /-- history: the frame of HELLO -/
  hello : Option Frame
  /-- history: the messages that were written, with their frames -/
  written : List Written

inductive SinkStep
  | sendHello (inTime : Bool)
  | takeDecision (result : Option (Option Bool))
  | sendMessage (inTime : Bool)
  | finish
  | abort

-- ---------------------------------------------------------------------------
-- Frames
-- ---------------------------------------------------------------------------

section Frames

variable {ζ : Type} {zlibLib : ZlibLib ζ} {useZlib : Bool} {zlib : Option ζ}
  {carried : List (Message × Frame)}

/-- The frames of messages with their modes, written one after the other. -/
def streamFrames (zlibLib : ZlibLib ζ) : Option ζ → List (Message × Bool) → List Frame × Option ζ
  | zlib, [] => ([], zlib)
  | zlib, (message, useZlib) :: rest =>
    let (frame, zlib) := makeFrame zlibLib useZlib zlib message
    let (frames, zlib) := streamFrames zlibLib zlib rest
    (frame :: frames, zlib)

theorem streamFrames_append (zlib : Option ζ) (as bs : List (Message × Bool)) :
    streamFrames zlibLib zlib (as ++ bs) =
      ((streamFrames zlibLib zlib as).1 ++
          (streamFrames zlibLib (streamFrames zlibLib zlib as).2 bs).1,
        (streamFrames zlibLib (streamFrames zlibLib zlib as).2 bs).2) := by
  induction as generalizing zlib with
  | nil => rfl
  | cons entry as ih =>
    obtain ⟨message, useZlib⟩ := entry
    simp only [List.cons_append, streamFrames, ih]

/-- Each message with the mode it was written in. -/
def inModes (carried : List (Message × Frame)) : List (Message × Bool) :=
  carried.map fun entry => (entry.1, entry.2.compressed)

/-- Frames that carry messages: no plain one after a compressed one, none compressed
before `use_zlib`, and the compressed ones made by one compressor. -/
structure Framed (zlibLib : ZlibLib ζ) (useZlib : Bool) (zlib : Option ζ)
    (carried : List (Message × Frame)) : Prop where
  once : (carried.map Prod.snd).Pairwise fun earlier later =>
    earlier.compressed = true → later.compressed = true
  mode : ∀ frame ∈ carried.map Prod.snd, frame.compressed = true → useZlib = true
  stream : streamFrames zlibLib none (inModes carried) = (carried.map Prod.snd, zlib)

theorem framed_nil (zlibLib : ZlibLib ζ) (useZlib : Bool) : Framed zlibLib useZlib none [] :=
  ⟨List.Pairwise.nil, fun _ hMem => absurd hMem List.not_mem_nil, rfl⟩

/-- Once compression is on, it may stay on. -/
theorem Framed.mono {useZlib' : Bool} (h : Framed zlibLib useZlib zlib carried)
    (hMode : useZlib = true → useZlib' = true) : Framed zlibLib useZlib' zlib carried :=
  ⟨h.once, fun frame hMem hCompressed => hMode (h.mode frame hMem hCompressed), h.stream⟩

/-- One more message. -/
theorem Framed.append (h : Framed zlibLib useZlib zlib carried) (message : Message) :
    Framed zlibLib useZlib (makeFrame zlibLib useZlib zlib message).2
      (carried ++ [(message, (makeFrame zlibLib useZlib zlib message).1)]) := by
  have hFrame := makeFrame_compressed zlibLib useZlib zlib message
  refine ⟨?_, ?_, ?_⟩
  · rw [List.map_append, List.pairwise_append]
    refine ⟨h.once, List.pairwise_singleton _ _, fun earlier hMem later hLater hCompressed => ?_⟩
    obtain rfl := List.mem_singleton.mp hLater
    exact hFrame.trans (h.mode earlier hMem hCompressed)
  · intro frame hMem hCompressed
    rw [List.map_append] at hMem
    rcases List.mem_append.mp hMem with hOld | hNew
    · exact h.mode frame hOld hCompressed
    · obtain rfl := List.mem_singleton.mp hNew
      exact hFrame.symm.trans hCompressed
  · have hModes : inModes (carried ++ [(message, (makeFrame zlibLib useZlib zlib message).1)]) =
        inModes carried ++ [(message, useZlib)] := by
      rw [inModes, List.map_append]
      show _ ++ [(message, (makeFrame zlibLib useZlib zlib message).1.compressed)] = _
      rw [hFrame]
      rfl
    rw [hModes, streamFrames_append, h.stream, List.map_append]
    rfl

end Frames

namespace Outbox

variable {ζ : Type}

def new (useZlib : Bool) : Outbox ζ := ⟨[], .new useZlib, [], none, []⟩

/-- `stream_writer.send`, which fails when the sink task is over. -/
def enqueue (o : Outbox ζ) (messages : List Queued) : Outbox ζ :=
  if o.sink.running then
    { o with queue := o.queue ++ messages, enqueued := o.enqueued ++ messages }
  else o

def step (zlibLib : ZlibLib ζ) (o : Outbox ζ) : SinkStep → Option (Outbox ζ)
  | .sendHello inTime =>
    (o.sink.sendHello zlibLib inTime).map fun (frame, sink) =>
      { o with sink := sink, hello := frame }
  | .takeDecision result =>
    (o.sink.takeDecision result).map fun sink => { o with sink := sink }
  | .sendMessage inTime =>
    match o.queue with
    | [] => none
    | queued :: rest =>
      (o.sink.sendMessage zlibLib queued.message inTime).map fun (frame, sink) =>
        { o with
          queue := rest
          sink := sink
          written := o.written ++ frame.toList.map fun frame => ⟨queued, frame⟩ }
  | .finish =>
    match o.queue with
    | [] => o.sink.finish.map fun sink => { o with sink := sink }
    | _ => none
  | .abort => some { o with sink := { o.sink with phase := .stopped } }

/-- The messages that were written, HELLO first, with their frames. -/
def carried (o : Outbox ζ) : List (Message × Frame) :=
  o.hello.toList.map (fun frame => (.text GatewayProxy.hello, frame)) ++
    o.written.map fun written => (written.queued.message, written.frame)

def taken (o : Outbox ζ) : List Queued := o.written.map Written.queued

-- ---------------------------------------------------------------------------
-- What a step does
-- ---------------------------------------------------------------------------

section Steps

variable {zlibLib : ZlibLib ζ} {o o' : Outbox ζ}

theorem sendHello_cases {inTime : Bool} (h : o.step zlibLib (.sendHello inTime) = some o') :
    o.sink.phase = .hello ∧
      ((inTime = true ∧ o' = { o with
          sink := { o.sink with
            zlib := (makeFrame zlibLib o.sink.useZlib o.sink.zlib (.text GatewayProxy.hello)).2
            phase := .deciding }
          hello :=
            some (makeFrame zlibLib o.sink.useZlib o.sink.zlib (.text GatewayProxy.hello)).1 }) ∨
        ∃ zlib, o' = { o with
          sink := { o.sink with zlib := zlib, phase := .stopped }, hello := none }) := by
  obtain ⟨⟨frame, sink⟩, hSink, rfl⟩ := Option.map_eq_some_iff.mp h
  unfold Sink.sendHello at hSink
  split at hSink
  · rename_i hPhase
    obtain hSend := Option.some.inj hSink
    unfold Sink.send at hSend
    refine ⟨hPhase, ?_⟩
    cases inTime with
    | true =>
      obtain ⟨rfl, rfl⟩ := Prod.mk.inj hSend
      exact .inl ⟨rfl, rfl⟩
    | false =>
      obtain ⟨rfl, rfl⟩ := Prod.mk.inj hSend
      exact .inr ⟨_, rfl⟩
  · cases hSink

theorem takeDecision_cases {result : Option (Option Bool)}
    (h : o.step zlibLib (.takeDecision result) = some o') :
    o.sink.phase = .deciding ∧ o' = { o with
      sink := { o.sink with
        useZlib := if result = some (some true) then true else o.sink.useZlib
        phase := .streaming } } := by
  obtain ⟨sink, hSink, rfl⟩ := Option.map_eq_some_iff.mp h
  unfold Sink.takeDecision at hSink
  split at hSink
  · rename_i hPhase
    obtain rfl := Option.some.inj hSink
    exact ⟨hPhase, rfl⟩
  · cases hSink

/-- The first message is taken; it is written in the mode of the moment, or the
task ends. -/
theorem sendMessage_cases {inTime : Bool} (h : o.step zlibLib (.sendMessage inTime) = some o') :
    ∃ queued rest, o.queue = queued :: rest ∧
      (o.sink.phase = .deciding ∨ o.sink.phase = .streaming) ∧
      ((inTime = true ∧ o' = { o with
          queue := rest
          sink := { o.sink with
            zlib := (makeFrame zlibLib o.sink.useZlib o.sink.zlib queued.message).2 }
          written := o.written ++
            [⟨queued, (makeFrame zlibLib o.sink.useZlib o.sink.zlib queued.message).1⟩] }) ∨
        (inTime = false ∧ ∃ zlib, o' = { o with
          queue := rest, sink := { o.sink with zlib := zlib, phase := .stopped } })) := by
  obtain ⟨queue, ⟨useZlib, zlib, phase⟩, enqueued, helloFrame, written⟩ := o
  unfold step at h
  dsimp only at h ⊢
  match queue with
  | [] => cases h
  | queued :: rest =>
    obtain ⟨⟨frame, sink⟩, hSink, rfl⟩ := Option.map_eq_some_iff.mp h
    refine ⟨queued, rest, rfl, ?_⟩
    unfold Sink.sendMessage Sink.send at hSink
    dsimp only at hSink
    cases inTime with
    | true =>
      split at hSink
      · obtain ⟨rfl, rfl⟩ := Prod.mk.inj (Option.some.inj hSink)
        exact ⟨.inl rfl, .inl ⟨rfl, rfl⟩⟩
      · obtain ⟨rfl, rfl⟩ := Prod.mk.inj (Option.some.inj hSink)
        exact ⟨.inr rfl, .inl ⟨rfl, rfl⟩⟩
      · cases hSink
    | false =>
      split at hSink
      · obtain ⟨rfl, rfl⟩ := Prod.mk.inj (Option.some.inj hSink)
        exact ⟨.inl rfl, .inr ⟨rfl, (makeFrame zlibLib useZlib zlib queued.message).2, by simp⟩⟩
      · obtain ⟨rfl, rfl⟩ := Prod.mk.inj (Option.some.inj hSink)
        exact ⟨.inr rfl, .inr ⟨rfl, (makeFrame zlibLib useZlib zlib queued.message).2, by simp⟩⟩
      · cases hSink

theorem finish_cases (h : o.step zlibLib .finish = some o') :
    o.queue = [] ∧ o.sink.running = true ∧
      o' = { o with sink := { o.sink with phase := .returned } } := by
  unfold step at h
  dsimp only at h
  split at h
  · rename_i hQueue
    obtain ⟨sink, hSink, rfl⟩ := Option.map_eq_some_iff.mp h
    unfold Sink.finish at hSink
    unfold Sink.running
    split at hSink
    · rename_i hPhase
      obtain rfl := Option.some.inj hSink
      exact ⟨hQueue, by rw [hPhase], rfl⟩
    · rename_i hPhase
      obtain rfl := Option.some.inj hSink
      exact ⟨hQueue, by rw [hPhase], rfl⟩
    · cases hSink
  · cases h

/-- Putting messages into the queue writes nothing. -/
theorem enqueue_frame (o : Outbox ζ) (messages : List Queued) :
    (o.enqueue messages).sink = o.sink ∧ (o.enqueue messages).written = o.written ∧
      ∀ queued ∈ (o.enqueue messages).enqueued, queued ∈ o.enqueued ∨ queued ∈ messages := by
  unfold enqueue
  split
  · exact ⟨rfl, rfl, fun queued hMem => List.mem_append.mp hMem⟩
  · exact ⟨rfl, rfl, fun queued hMem => .inl hMem⟩

/-- The sink puts nothing into the queue, and only a message that is sent in time is
written. -/
theorem step_frame {action : SinkStep}
    (hStep : o.step zlibLib action = some o') :
    o'.enqueued = o.enqueued ∧ (action ≠ .sendMessage true → o'.written = o.written) := by
  cases action with
  | sendHello inTime =>
    obtain ⟨-, ⟨-, rfl⟩ | ⟨zlib, rfl⟩⟩ := sendHello_cases hStep
    · exact ⟨rfl, fun _ => rfl⟩
    · exact ⟨rfl, fun _ => rfl⟩
  | takeDecision result =>
    obtain ⟨-, rfl⟩ := takeDecision_cases hStep
    exact ⟨rfl, fun _ => rfl⟩
  | sendMessage inTime =>
    obtain ⟨queued, rest, -, -, ⟨rfl, rfl⟩ | ⟨-, zlib, rfl⟩⟩ := sendMessage_cases hStep
    · exact ⟨rfl, fun hNot => absurd rfl hNot⟩
    · exact ⟨rfl, fun _ => rfl⟩
  | finish =>
    obtain ⟨-, -, rfl⟩ := finish_cases hStep
    exact ⟨rfl, fun _ => rfl⟩
  | abort =>
    obtain rfl := Option.some.inj hStep
    exact ⟨rfl, fun _ => rfl⟩

end Steps

-- ---------------------------------------------------------------------------
-- What every step keeps
-- ---------------------------------------------------------------------------

/-- The messages that were put in are written once each and in order, until the sink
stops; in a connection that starts with `useZlib`. -/
structure Kept (zlibLib : ZlibLib ζ) (useZlib : Bool) (o : Outbox ζ) : Prop where
  order : o.taken <+: o.enqueued
  queue : o.sink.running = true → o.enqueued = o.taken ++ o.queue
  returned : o.sink.phase = .returned → o.enqueued = o.taken
  first : o.sink.phase = .hello → o.hello = none ∧ o.written = []
  early : o.sink.phase = .hello ∨ o.sink.phase = .deciding → o.sink.useZlib = useZlib
  framed : ∃ zlib, Framed zlibLib o.sink.useZlib zlib o.carried ∧
    (o.sink.running = true → zlib = o.sink.zlib)

/-- What was put in is written in order, each message once and none left out, until the
sink stops; and the frames are those of the messages. -/
structure InOrder (zlibLib : ZlibLib ζ) (o : Outbox ζ) : Prop where
  order : o.taken <+: o.enqueued
  queue : o.sink.running = true → o.enqueued = o.taken ++ o.queue
  returned : o.sink.phase = .returned → o.enqueued = o.taken
  frames : (streamFrames zlibLib none (inModes o.carried)).1 = o.carried.map Prod.snd

/-- After a compressed frame every frame is compressed. -/
def StaysCompressed (o : Outbox ζ) : Prop :=
  (o.carried.map Prod.snd).Pairwise fun earlier later =>
    earlier.compressed = true → later.compressed = true

section Kept

variable {zlibLib : ZlibLib ζ} {useZlib : Bool} {o o' : Outbox ζ}

theorem Kept.inOrder (h : Kept zlibLib useZlib o) : o.InOrder zlibLib := by
  obtain ⟨zlib, hFramed, -⟩ := h.framed
  exact ⟨h.order, h.queue, h.returned, congrArg Prod.fst hFramed.stream⟩

theorem Kept.staysCompressed (h : Kept zlibLib useZlib o) : o.StaysCompressed := by
  obtain ⟨zlib, hFramed, -⟩ := h.framed
  exact hFramed.once

theorem kept_new (zlibLib : ZlibLib ζ) (useZlib : Bool) : Kept zlibLib useZlib (new useZlib) where
  order := List.prefix_refl []
  queue _ := rfl
  returned h := by cases h
  first _ := ⟨rfl, rfl⟩
  early _ := rfl
  framed := ⟨none, framed_nil zlibLib useZlib, fun _ => rfl⟩

theorem kept_enqueue (h : Kept zlibLib useZlib o) (messages : List Queued) :
    Kept zlibLib useZlib (o.enqueue messages) := by
  unfold enqueue
  split
  · rename_i hRunning
    have hQueue := h.queue hRunning
    refine ⟨h.order.trans (List.prefix_append _ _), fun _ => ?_, fun hReturned => ?_, h.first,
      h.early, h.framed⟩
    · show o.enqueued ++ messages = o.taken ++ (o.queue ++ messages)
      rw [hQueue, List.append_assoc]
    · have hPhase : o.sink.phase = .returned := hReturned
      rw [Sink.running, hPhase] at hRunning
      cases hRunning
  · exact h

/-- A sink that stopped keeps what it wrote. -/
theorem Kept.stop (h : Kept zlibLib useZlib o) (queue : List Queued) (zlib : Option ζ) :
    Kept zlibLib useZlib { o with
      queue := queue, sink := { o.sink with zlib := zlib, phase := .stopped } } := by
  obtain ⟨zlib', hFramed, -⟩ := h.framed
  exact ⟨h.order, (fun hRunning => by cases hRunning), (fun hPhase => by cases hPhase),
    (fun hPhase => by cases hPhase), (fun hPhase => by simp at hPhase),
    zlib', hFramed, (fun hRunning => by cases hRunning)⟩

theorem carried_append (o : Outbox ζ) (queued : Queued) (frame : Frame) :
    ({ o with written := o.written ++ [⟨queued, frame⟩] } : Outbox ζ).carried =
      o.carried ++ [(queued.message, frame)] := by
  simp [carried]

/-- HELLO is the first frame. -/
theorem kept_sendHello {inTime : Bool} (h : Kept zlibLib useZlib o)
    (hStep : o.step zlibLib (.sendHello inTime) = some o') : Kept zlibLib useZlib o' := by
  obtain ⟨zlib, hFramed, hZlib⟩ := h.framed
  obtain ⟨hPhase, ⟨-, rfl⟩ | ⟨zlib', rfl⟩⟩ := sendHello_cases hStep
  · obtain ⟨hHello, hWritten⟩ := h.first hPhase
    have hRunning : o.sink.running = true := by rw [Sink.running, hPhase]
    have hCarried : o.carried = [] := by rw [carried, hHello, hWritten]; rfl
    obtain rfl := hZlib hRunning
    rw [hCarried] at hFramed
    have hNew := hFramed.append (.text GatewayProxy.hello)
    refine ⟨h.order, fun _ => h.queue hRunning, (fun hReturned => by cases hReturned),
      (fun hFirst => by cases hFirst), fun _ => h.early (.inl hPhase), _, ?_, fun _ => rfl⟩
    rw [carried]
    dsimp only
    rw [hWritten]
    exact hNew
  · have hStop := h.stop o.queue zlib'
    rw [← (h.first hPhase).1]
    exact hStop

/-- A decision turns compression on, or leaves the mode. -/
theorem kept_takeDecision {result : Option (Option Bool)} (h : Kept zlibLib useZlib o)
    (hStep : o.step zlibLib (.takeDecision result) = some o') : Kept zlibLib useZlib o' := by
  obtain ⟨zlib, hFramed, hZlib⟩ := h.framed
  obtain ⟨hPhase, rfl⟩ := takeDecision_cases hStep
  have hRunning := Sink.running_of_loop (.inl hPhase)
  refine ⟨h.order, fun _ => h.queue hRunning, (fun hReturned => by cases hReturned),
    (fun hFirst => by cases hFirst), (fun hEarly => by simp at hEarly), zlib, ?_,
    fun _ => hZlib hRunning⟩
  refine hFramed.mono fun hMode => ?_
  show (if result = some (some true) then true else o.sink.useZlib) = true
  rw [hMode]
  split <;> rfl

/-- The first message of the queue is the next that is written. -/
theorem kept_sendMessage {inTime : Bool} (h : Kept zlibLib useZlib o)
    (hStep : o.step zlibLib (.sendMessage inTime) = some o') : Kept zlibLib useZlib o' := by
  obtain ⟨zlib, hFramed, hZlib⟩ := h.framed
  obtain ⟨queued, rest, hQueue, hPhase, ⟨-, rfl⟩ | ⟨-, zlib', rfl⟩⟩ := sendMessage_cases hStep
  · have hRunning := Sink.running_of_loop hPhase
    have hTaken : ∀ frame, (o.written ++ [Written.mk queued frame]).map Written.queued =
        o.taken ++ [queued] := by
      intro frame
      rw [List.map_append]
      rfl
    have hSplit : o.enqueued = (o.taken ++ [queued]) ++ rest := by
      rw [h.queue hRunning, hQueue, List.append_assoc]
      rfl
    have hInLoop : ∀ phase, phase ≠ .deciding → phase ≠ .streaming → o.sink.phase ≠ phase := by
      intro phase hDeciding hStreaming hSame
      rcases hPhase with hPhase | hPhase
      · exact hDeciding (hSame.symm.trans hPhase)
      · exact hStreaming (hSame.symm.trans hPhase)
    obtain rfl := hZlib hRunning
    have hNew := hFramed.append queued.message
    rw [← carried_append] at hNew
    refine ⟨?_, fun _ => ?_, fun hReturned => ?_, fun hFirst => ?_, h.early, _, hNew,
      fun _ => rfl⟩
    · rw [taken, hTaken]
      exact ⟨rest, hSplit.symm⟩
    · rw [taken, hTaken]
      exact hSplit
    · exact absurd hReturned (hInLoop .returned (by simp) (by simp))
    · exact absurd hFirst (hInLoop .hello (by simp) (by simp))
  · exact h.stop rest zlib'

/-- The sink returns when everything is written. -/
theorem kept_finish (h : Kept zlibLib useZlib o) (hStep : o.step zlibLib .finish = some o') :
    Kept zlibLib useZlib o' := by
  obtain ⟨zlib, hFramed, -⟩ := h.framed
  obtain ⟨hQueue, hRunning, rfl⟩ := finish_cases hStep
  have hEnqueued := h.queue hRunning
  rw [hQueue, List.append_nil] at hEnqueued
  exact ⟨h.order, (fun hOver => by cases hOver), fun _ => hEnqueued,
    (fun hFirst => by cases hFirst), (fun hEarly => by simp at hEarly), zlib, hFramed,
    (fun hOver => by cases hOver)⟩

/-- **Step lemma.** -/
theorem kept_step {action : SinkStep} (h : Kept zlibLib useZlib o)
    (hStep : o.step zlibLib action = some o') : Kept zlibLib useZlib o' := by
  cases action with
  | sendHello inTime => exact kept_sendHello h hStep
  | takeDecision result => exact kept_takeDecision h hStep
  | sendMessage inTime => exact kept_sendMessage h hStep
  | finish => exact kept_finish h hStep
  | abort =>
    obtain rfl := Option.some.inj hStep
    exact h.stop o.queue o.sink.zlib

end Kept

end Outbox

end GatewayProxy
