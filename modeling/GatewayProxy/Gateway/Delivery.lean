import GatewayProxy.Gateway.Handling

/-!
# Delivery to a client

The writers of a connection and its sink task. They share the queue and the channel
of the compression decision, and their steps come in any order.

Main results:

* `Delivery.inv_step`: what every step keeps.
* `outgoing_compressed_iff`: order and modes in every run, and when the messages of
  `forward_shard` are compressed.
-/

namespace GatewayProxy

open Utf8 Assoc Runs

structure Delivery (ζ : Type) where
  handler : Handling
  outbox : Outbox ζ

inductive DeliveryStep
  | handler (action : HandlerStep)
  | sink (action : SinkStep)

/-- What the sink needs of the writers: the decision it takes is ready, a closed
queue has no sender, and only the teardown aborts. -/
def Handling.permits (h : Handling) : SinkStep → Bool
  | .takeDecision result => h.decision.result == some result
  | .finish => !h.writer && h.forward.isNone
  | .abort => h.phase != .looping
  | _ => true

namespace Delivery

variable {ζ : Type}

/-- A client has connected, with or without transport compression. -/
def start (useZlib : Bool) : Delivery ζ := ⟨.new, .new useZlib⟩

def step (cfg : Config) (lib : JsonLib) (zlibLib : ZlibLib ζ) (s : Delivery ζ) :
    DeliveryStep → Option (Delivery ζ)
  | .handler action =>
    (s.handler.step cfg lib action).map fun (handler, messages) =>
      ⟨handler, s.outbox.enqueue messages⟩
  | .sink action =>
    if s.handler.permits action then
      (s.outbox.step zlibLib action).map fun outbox => { s with outbox := outbox }
    else none

/-- Where compression was asked for, the messages of `forward_shard` are
compressed. -/
def ForwardCompressed (s : Delivery ζ) : Prop :=
  s.handler.asked = some (some true) →
    ∀ written ∈ s.outbox.written, written.queued.producer = .forwardShard →
      written.frame.compressed = true

/-- The first loop of the sink does not write a message of `forward_shard` plainly: a
compression that was asked for is decided first. -/
def DecisionFirst (s : Delivery ζ) : DeliveryStep → Prop
  | .sink (.sendMessage true) =>
    s.outbox.sink.phase = .deciding → s.outbox.sink.useZlib = false →
      s.handler.asked = some (some true) →
      ∀ queued ∈ s.outbox.queue.head?, queued.producer ≠ .forwardShard
  | _ => True

/-- What holds between the writers and the sink of a connection that starts with
`useZlib`. -/
structure Inv (zlibLib : ZlibLib ζ) (useZlib : Bool) (s : Delivery ζ) : Prop where
  kept : s.outbox.Kept zlibLib useZlib
  starting : s.handler.Starting
  forwarded : ∀ queued ∈ s.outbox.enqueued, queued.producer = .forwardShard →
    s.handler.asked ≠ none
  decided : s.outbox.sink.phase = .streaming →
    (∃ compress, s.handler.decision = .sent compress ∧
      (compress = some true → s.outbox.sink.useZlib = true)) ∨
    s.handler.decision = .closed

section Steps

variable {cfg : Config} {lib : JsonLib} {zlibLib : ZlibLib ζ} {useZlib : Bool}
  {s t : Delivery ζ}

theorem inv_start (zlibLib : ZlibLib ζ) (useZlib : Bool) :
    Inv zlibLib useZlib (start useZlib) where
  kept := Outbox.kept_new zlibLib useZlib
  starting := Handling.starting_new
  forwarded _ hMem := absurd hMem List.not_mem_nil
  decided hPhase := by cases hPhase

theorem handler_cases {action : HandlerStep}
    (hStep : s.step cfg lib zlibLib (.handler action) = some t) :
    ∃ messages, s.handler.step cfg lib action = some (t.handler, messages) ∧
      t.outbox = s.outbox.enqueue messages := by
  obtain ⟨⟨handler, messages⟩, hHandler, rfl⟩ := Option.map_eq_some_iff.mp hStep
  exact ⟨messages, hHandler, rfl⟩

theorem sink_cases {action : SinkStep}
    (hStep : s.step cfg lib zlibLib (.sink action) = some t) :
    s.handler.permits action = true ∧ s.outbox.step zlibLib action = some t.outbox ∧
      t.handler = s.handler := by
  unfold step at hStep
  dsimp only at hStep
  split at hStep
  · rename_i hPermits
    obtain ⟨outbox, hOutbox, rfl⟩ := Option.map_eq_some_iff.mp hStep
    exact ⟨hPermits, hOutbox, rfl⟩
  · cases hStep

/-- A sink that streams took the decision now or before. -/
theorem decided_step {action : SinkStep} (hInv : Inv zlibLib useZlib s)
    (hPermits : s.handler.permits action = true) {o : Outbox ζ}
    (hStep : s.outbox.step zlibLib action = some o) (hPhase : o.sink.phase = .streaming) :
    (∃ compress, s.handler.decision = .sent compress ∧
      (compress = some true → o.sink.useZlib = true)) ∨ s.handler.decision = .closed := by
  cases action with
  | sendHello inTime =>
    obtain ⟨-, ⟨-, rfl⟩ | ⟨zlib, rfl⟩⟩ := Outbox.sendHello_cases hStep
    · cases hPhase
    · cases hPhase
  | takeDecision result =>
    obtain ⟨-, rfl⟩ := Outbox.takeDecision_cases hStep
    have hReady : s.handler.decision.result = some result := by
      simpa [Handling.permits] using hPermits
    cases hDecision : s.handler.decision with
    | waiting =>
      rw [hDecision] at hReady
      cases hReady
    | sent compress =>
      rw [hDecision] at hReady
      obtain rfl := Option.some.inj hReady
      refine .inl ⟨compress, rfl, fun hTrue => ?_⟩
      rw [hTrue]
      rfl
    | closed => exact .inr rfl
  | sendMessage inTime =>
    obtain ⟨queued, rest, -, -, ⟨-, rfl⟩ | ⟨-, zlib, rfl⟩⟩ := Outbox.sendMessage_cases hStep
    · exact hInv.decided hPhase
    · cases hPhase
  | finish =>
    obtain ⟨-, -, rfl⟩ := Outbox.finish_cases hStep
    cases hPhase
  | abort =>
    obtain rfl := Option.some.inj hStep
    cases hPhase

/-- **Step lemma.** -/
theorem inv_step {action : DeliveryStep} (hInv : Inv zlibLib useZlib s)
    (hStep : s.step cfg lib zlibLib action = some t) : Inv zlibLib useZlib t := by
  cases action with
  | handler action =>
    obtain ⟨messages, hHandler, hOutbox⟩ := handler_cases hStep
    have hAdvances := Handling.advances_step hInv.starting hHandler
    obtain ⟨hSink, -, hEnqueued⟩ := Outbox.enqueue_frame s.outbox messages
    rw [← hOutbox] at hSink hEnqueued
    have hKept := Outbox.kept_enqueue hInv.kept messages
    rw [← hOutbox] at hKept
    refine ⟨hKept, hAdvances.starting, fun queued hMem hProducer => ?_, fun hPhase => ?_⟩
    · have hAsked : s.handler.asked ≠ none := by
        rcases hEnqueued queued hMem with hOld | hNew
        · exact hInv.forwarded queued hOld hProducer
        · exact hAdvances.messages queued hNew hProducer
      obtain ⟨compress, hSome⟩ := Option.ne_none_iff_exists'.mp hAsked
      simp [hAdvances.asked compress hSome]
    · rw [hSink] at hPhase ⊢
      have hDecided := hInv.decided hPhase
      have hSame : t.handler.decision = s.handler.decision := by
        refine hAdvances.decision fun hWaiting => ?_
        rcases hDecided with ⟨compress, hSent, -⟩ | hClosed
        · cases hSent.symm.trans hWaiting
        · cases hClosed.symm.trans hWaiting
      rw [hSame]
      exact hDecided
  | sink action =>
    obtain ⟨hPermits, hOutbox, hHandler⟩ := sink_cases hStep
    refine ⟨Outbox.kept_step hInv.kept hOutbox, ?_, ?_, ?_⟩
    · rw [hHandler]
      exact hInv.starting
    · rw [hHandler, (Outbox.step_frame hOutbox).1]
      exact hInv.forwarded
    · rw [hHandler]
      exact decided_step hInv hPermits hOutbox

/-- A message of `forward_shard` in the queue of a sink that streams comes after the
decision. -/
theorem Inv.streaming (hInv : Inv zlibLib useZlib s)
    (hPhase : s.outbox.sink.phase = .streaming) {queued : Queued}
    (hMem : queued ∈ s.outbox.enqueued) (hProducer : queued.producer = .forwardShard)
    (hAsked : s.handler.asked = some (some true)) : s.outbox.sink.useZlib = true := by
  rcases hInv.decided hPhase with ⟨compress, hSent, hMode⟩ | hClosed
  · have hSame := hInv.starting.sent hSent
    exact hMode (Option.some.inj (hSame.symm.trans hAsked))
  · exact absurd (hInv.starting.closed hClosed) (hInv.forwarded queued hMem hProducer)

/-- What was written was put into the queue. -/
theorem Inv.enqueued (hInv : Inv zlibLib useZlib s) {written : Written}
    (hMem : written ∈ s.outbox.written) : written.queued ∈ s.outbox.enqueued :=
  hInv.kept.order.subset (List.mem_map_of_mem hMem)

/-- A step of the writers changes nothing for the messages that were written: those of
`forward_shard` come after the question. -/
theorem forwardCompressed_handler {action : HandlerStep} (hInv : Inv zlibLib useZlib s)
    (hStep : s.step cfg lib zlibLib (.handler action) = some t) :
    t.ForwardCompressed ↔ s.ForwardCompressed := by
  obtain ⟨messages, hHandler, hOutbox⟩ := handler_cases hStep
  have hAdvances := Handling.advances_step hInv.starting hHandler
  have hWritten : t.outbox.written = s.outbox.written := by
    rw [hOutbox]
    exact (Outbox.enqueue_frame s.outbox messages).2.1
  constructor
  · intro h hAsked written hMem hProducer
    rw [← hWritten] at hMem
    exact h (hAdvances.asked _ hAsked) written hMem hProducer
  · intro h hAsked written hMem hProducer
    rw [hWritten] at hMem
    obtain ⟨compress, hSome⟩ := Option.ne_none_iff_exists'.mp
      (hInv.forwarded written.queued (hInv.enqueued hMem) hProducer)
    have hSame := hAdvances.asked compress hSome
    exact h (hSome.trans (hSame.symm.trans hAsked)) written hMem hProducer

/-- A message is written in the mode of the moment. -/
theorem forwardCompressed_sendMessage (hInv : Inv zlibLib useZlib s)
    (hStep : s.step cfg lib zlibLib (.sink (.sendMessage true)) = some t) :
    t.ForwardCompressed ↔ s.ForwardCompressed ∧ s.DecisionFirst (.sink (.sendMessage true)) := by
  obtain ⟨-, hOutbox, hHandler⟩ := sink_cases hStep
  obtain ⟨queued, rest, hQueue, hPhase, ⟨-, hNext⟩ | ⟨hFalse, -⟩⟩ :=
    Outbox.sendMessage_cases hOutbox
  · have hFrame := makeFrame_compressed zlibLib s.outbox.sink.useZlib s.outbox.sink.zlib
      queued.message
    have hWritten := congrArg Outbox.written hNext
    have hEnqueued : queued ∈ s.outbox.enqueued := by
      rw [hInv.kept.queue (Sink.running_of_loop hPhase), hQueue]
      simp
    constructor
    · intro h
      refine ⟨fun hAsked written hMem hProducer => ?_,
        fun _ hPlain hAsked head hHead hForward => ?_⟩
      · refine h (hHandler ▸ hAsked) written ?_ hProducer
        rw [hWritten]
        exact List.mem_append_left _ hMem
      · rw [hQueue] at hHead
        obtain rfl := Option.some.inj hHead
        have hCompressed := h (hHandler ▸ hAsked) ⟨queued, _⟩
          (by rw [hWritten]; exact List.mem_append_right _ (.head _)) hForward
        cases hPlain.symm.trans (hFrame.symm.trans hCompressed)
    · rintro ⟨h, hFirst⟩ hAsked written hMem hProducer
      rw [hHandler] at hAsked
      rw [hWritten] at hMem
      rcases List.mem_append.mp hMem with hOld | hNew
      · exact h hAsked written hOld hProducer
      · obtain rfl := List.mem_singleton.mp hNew
        refine hFrame.trans ?_
        rcases hPhase with hDeciding | hStreaming
        · by_contra hPlain
          refine hFirst hDeciding (Bool.eq_false_iff.mpr hPlain) hAsked queued ?_ hProducer
          rw [hQueue]
          exact rfl
        · exact hInv.streaming hStreaming hEnqueued hProducer hAsked
  · cases hFalse

/-- The other steps of the sink write no message. -/
theorem forwardCompressed_sink {action : SinkStep} (hAction : action ≠ .sendMessage true)
    (hStep : s.step cfg lib zlibLib (.sink action) = some t) :
    t.ForwardCompressed ↔ s.ForwardCompressed := by
  obtain ⟨-, hOutbox, hHandler⟩ := sink_cases hStep
  have hWritten := (Outbox.step_frame hOutbox).2 hAction
  unfold ForwardCompressed
  rw [hWritten, hHandler]

/-- **One step, both ways.** -/
theorem forwardCompressed_step {action : DeliveryStep} (hInv : Inv zlibLib useZlib s)
    (hStep : s.step cfg lib zlibLib action = some t) :
    t.ForwardCompressed ↔ s.ForwardCompressed ∧ s.DecisionFirst action := by
  match action with
  | .handler action =>
    exact (forwardCompressed_handler hInv hStep).trans (and_iff_left trivial).symm
  | .sink (.sendMessage true) => exact forwardCompressed_sendMessage hInv hStep
  | .sink (.sendMessage false) =>
    exact (forwardCompressed_sink (by simp) hStep).trans (and_iff_left trivial).symm
  | .sink (.sendHello _) =>
    exact (forwardCompressed_sink (by simp) hStep).trans (and_iff_left trivial).symm
  | .sink (.takeDecision _) =>
    exact (forwardCompressed_sink (by simp) hStep).trans (and_iff_left trivial).symm
  | .sink .finish =>
    exact (forwardCompressed_sink (by simp) hStep).trans (and_iff_left trivial).symm
  | .sink .abort =>
    exact (forwardCompressed_sink (by simp) hStep).trans (and_iff_left trivial).symm

/-- A sink in one of its loops can write the first message of the queue. -/
theorem exists_sendMessage (cfg : Config) (lib : JsonLib) (zlibLib : ZlibLib ζ)
    {queued : Queued} {rest : List Queued}
    (hQueue : s.outbox.queue = queued :: rest)
    (hPhase : s.outbox.sink.phase = .deciding ∨ s.outbox.sink.phase = .streaming) :
    ∃ t, s.step cfg lib zlibLib (.sink (.sendMessage true)) = some t ∧ t.outbox.queue = rest ∧
      t.outbox.sink.phase = s.outbox.sink.phase ∧ t.outbox.enqueued = s.outbox.enqueued := by
  obtain ⟨handler, queue, ⟨mode, zlib, phase⟩, enqueued, helloFrame, written⟩ := s
  obtain rfl : queue = queued :: rest := hQueue
  rcases hPhase with hDeciding | hStreaming
  · obtain rfl : phase = .deciding := hDeciding
    exact ⟨_, rfl, rfl, rfl, rfl⟩
  · obtain rfl : phase = .streaming := hStreaming
    exact ⟨_, rfl, rfl, rfl, rfl⟩

/-- A client that keeps reading gets all that is queued. -/
theorem reaches_written (cfg : Config) (lib : JsonLib) (hInv : Inv zlibLib useZlib s)
    (hPhase : s.outbox.sink.phase = .deciding ∨ s.outbox.sink.phase = .streaming) :
    ∃ t, Reaches (step cfg lib zlibLib) (fun _ a => a = .sink (.sendMessage true)) s t ∧
      t.outbox.taken = s.outbox.enqueued := by
  generalize hQueue : s.outbox.queue = queue
  induction queue generalizing s with
  | nil =>
    have hEnqueued := hInv.kept.queue (Sink.running_of_loop hPhase)
    rw [hQueue, List.append_nil] at hEnqueued
    exact ⟨s, .refl s, hEnqueued.symm⟩
  | cons queued rest ih =>
    obtain ⟨next, hStep, hRest, hSame, hEnqueued⟩ :=
      exists_sendMessage cfg lib zlibLib hQueue hPhase
    obtain ⟨t, hReaches, hTaken⟩ := ih (inv_step hInv hStep) (hSame ▸ hPhase) hRest
    exact ⟨t, .head hStep rfl hReaches, hTaken.trans hEnqueued⟩

end Steps

end Delivery

section Delivery

variable {cfg : Config} {lib : JsonLib} {ζ : Type} {zlibLib : ZlibLib ζ}

open Delivery in
/-- **Order and modes of what is written.** In every run of the writers and the sink:
the messages are written once each in the order of the queue, until the sink stops; a
sink in one of its loops can write all that is queued; after a compressed frame all
are compressed; and where compression was asked for, the messages of `forward_shard`
are compressed exactly when the first loop never writes one of them plainly. -/
theorem outgoing_compressed_iff {useZlib : Bool} {steps : List DeliveryStep} {s : Delivery ζ}
    (hRun : exec (step cfg lib zlibLib) (start useZlib) steps = some s) :
    s.outbox.InOrder zlibLib ∧
    (s.outbox.sink.phase = .deciding ∨ s.outbox.sink.phase = .streaming →
      ∃ t, Reaches (step cfg lib zlibLib) (fun _ a => a = .sink (.sendMessage true)) s t ∧
        t.outbox.taken = s.outbox.enqueued) ∧
    s.outbox.StaysCompressed ∧
    (s.ForwardCompressed ↔ Meets (step cfg lib zlibLib) DecisionFirst (start useZlib) steps) := by
  have hStart := inv_start zlibLib useZlib
  have hInv : Inv zlibLib useZlib s := exec_invariant (fun _ _ _ => inv_step) hStart hRun
  refine ⟨hInv.kept.inOrder, fun hPhase => ?_, hInv.kept.staysCompressed, ?_⟩
  · exact reaches_written cfg lib hInv hPhase
  · have hIff := exec_iff_meets (fun _ _ _ => inv_step) (fun _ _ _ => forwardCompressed_step)
      hStart hRun
    refine hIff.trans (and_iff_right ?_)
    intro hAsked
    cases hAsked

end Delivery

namespace SampleDelivery

def config : Config := ⟨"bot".toList, true, true, "ws://proxy".toList, none⟩

/-- Client `c` with secret `s` and guild 7. -/
def clients : Clients := (∅ : Clients).insert "c".toList ⟨"s".toList, {7}, none, none⟩

def env : Env := ⟨clients, .noDatabase, 0, ["x".toList]⟩

def identify : Str :=
  "\x7b\"op\":2,\"d\":\x7b\"token\":\"c:s\",\"shard\":[0,1],\"compress\":true\x7d\x7d".toList

def resume : Str :=
  "\x7b\"op\":6,\"d\":\x7b\"token\":\"c:s\",\"session_id\":\"x\",\"seq\":3\x7d\x7d".toList

/-- The JSON library on the two payloads above. -/
def lib : JsonLib where
  parseIdentify text := if text = identify then some ⟨some true, (0, 1), "c:s".toList⟩ else none
  parseResume text := if text = resume then some ⟨"x".toList, 3, "c:s".toList⟩ else none
  parseRequestGuildMembers _ := none
  parseVoiceStateUpdate _ := none
  parseVoiceStateEvent _ := none
  parseKeys _ := none
  objectGuildId _ := none
  requestGuildMembersToString _ := none
  voiceStateUpdateToString _ := none

/-- A compressor that stores short texts: the header of the stream once, a stored block,
and the flush that ends every message. The state says whether the header was sent. -/
def zlibLib : ZlibLib Bool where
  new := false
  compressAndSend started message :=
    let payload := match message with
      | .text text => toBytes text
      | _ => []
    let size := payload.length.toUInt8
    ((if started then [] else [0x78, 0x01]) ++ [0, size, 0, 255 - size, 255] ++ payload ++
      [0, 0, 0, 255, 255], true)

/-- One shard of one. -/
def inner : Inner := Inner.new [⟨0, none, ⟨[], [], []⟩⟩] 1

/-- The same with a session that asked for compression. -/
def resumable : Inner :=
  { inner with
    sessions := (∅ : Map Str Session).insert "x".toList
      ⟨0, some true, .client "c".toList, some {7}, 0⟩ }

/-- HELLO, and a round that is carried out: the task is spawned and the decision sent. -/
def started (turn : Turn) : List DeliveryStep :=
  [.sink (.sendHello true), .handler (.round turn), .handler (.effect clients),
    .handler (.effect clients)]

/-- `forward_shard` puts its first message into the queue. -/
def firstMessage : List DeliveryStep :=
  [.handler (.forward (.build ∅ ⟨[], [], []⟩)), .handler (.forward .enqueue)]

/-- Both branches of the first loop are ready, and it takes the message. -/
def messageFirst : List DeliveryStep :=
  started ⟨inner, env, .text identify⟩ ++ firstMessage ++ [.sink (.sendMessage true)]

/-- It takes the decision. -/
def decisionFirst : List DeliveryStep :=
  started ⟨resumable, env, .text resume⟩ ++ firstMessage ++
    [.sink (.takeDecision (some (some true))), .sink (.sendMessage true)]

/-- What was asked for, and who put in what was written, with its mode. -/
def outcome (s : Delivery Bool) : Option (Option Bool) × List (Producer × Bool) :=
  (s.handler.asked,
    s.outbox.written.map fun written => (written.queued.producer, written.frame.compressed))

end SampleDelivery

open SampleDelivery in
/-- RESUMED is compressed where the decision is taken first. -/
theorem outgoing_compressed_iff_resumed :
    ∃ s, exec (Delivery.step config lib zlibLib) (Delivery.start false) decisionFirst = some s ∧
      outcome s = (some (some true), [(.forwardShard, true)]) ∧ s.outbox.InOrder zlibLib ∧
      Meets (Delivery.step config lib zlibLib) Delivery.DecisionFirst (Delivery.start false)
        decisionFirst := by
  have hOutcome : (exec (Delivery.step config lib zlibLib) (Delivery.start false)
      decisionFirst).map outcome = some (some (some true), [(.forwardShard, true)]) := by
    decide +kernel
  obtain ⟨s, hRun, hSome⟩ := Option.map_eq_some_iff.mp hOutcome
  obtain ⟨hOrder, -, -, hIff⟩ := outgoing_compressed_iff hRun
  refine ⟨s, hRun, hSome, hOrder, hIff.mp fun _ written hMem _ => ?_⟩
  have hWritten := congrArg Prod.snd hSome
  have hEntry : (written.queued.producer, written.frame.compressed) ∈ (outcome s).2 :=
    List.mem_map_of_mem hMem
  rw [hWritten] at hEntry
  exact congrArg Prod.snd (List.mem_singleton.mp hEntry)

open SampleDelivery in
/-- **READY is written plainly** to a client that asked for compression, although the
decision was sent before: the first loop takes the message first. -/
theorem ready_written_plainly :
    ∃ s, exec (Delivery.step config lib zlibLib) (Delivery.start false) messageFirst = some s ∧
      s.handler.decision = .sent (some true) ∧ ¬ s.ForwardCompressed := by
  have hOutcome : (exec (Delivery.step config lib zlibLib) (Delivery.start false)
      messageFirst).map (fun s => (s.handler.decision, outcome s)) =
        some (.sent (some true), some (some true), [(.forwardShard, false)]) := by
    decide +kernel
  obtain ⟨s, hRun, hSome⟩ := Option.map_eq_some_iff.mp hOutcome
  obtain ⟨hDecision, hRest⟩ := Prod.mk.inj hSome
  obtain ⟨hAsked, hWritten⟩ := Prod.mk.inj hRest
  refine ⟨s, hRun, hDecision, fun hCompressed => ?_⟩
  obtain ⟨written, rest, hList, hEntry, -⟩ := List.map_eq_cons_iff.mp hWritten
  obtain ⟨hProducer, hPlain⟩ := Prod.mk.inj hEntry
  have hFrame := hCompressed hAsked written (by rw [hList]; exact .head _) hProducer
  cases hPlain.symm.trans hFrame

end GatewayProxy
