import GatewayProxy.Voice.Token

/-!
# The order of voice commands

For one guild `g` whose shard is on this proxy: the record of its voice owner
changes under a lock, and the command that goes with the change is put into the
shard's queue after the lock is released. In between the task of another
connection or the sweeper may do both.

As long as all commands on their way are the same one, the record `Reflects`
each of them, and so the last command in the queue. Two different commands on
their way at once may arrive in either order.

Main results:

* `inOrder_step`: the record reflects every command on its way.
* `command_order_agrees_when`: the queue's last command is the recorded one, as
  long as no command is recorded while a different one is on its way; the first
  time one is, the queue may end with the wrong one.
* `command_order_fails`: a join that arrives after the leave of the same
  tenant, and a leave that arrives after the join of the next owner.
-/

namespace GatewayProxy

open Utf8 Assoc GatewayProxy.Inner

/-- The record of the guild is that of the command. -/
def Reflects (entry : Option VoiceOwner) : VoiceCommand → Prop
  | .join clientId => ∃ owner, entry = some owner ∧ owner.clientId = clientId ∧
      owner.wantsVoice = true
  | .leave => ∀ owner, entry = some owner → owner.wantsVoice = false

/-- The command that an owner's record stands for. -/
def commandOf (owner : VoiceOwner) : VoiceCommand :=
  if owner.wantsVoice then .join owner.clientId else .leave

theorem reflects_some_iff {owner : VoiceOwner} {command : VoiceCommand} :
    Reflects (some owner) command ↔ command = commandOf owner := by
  unfold commandOf
  cases command with
  | join clientId =>
    constructor
    · rintro ⟨o, hOwner, rfl, hWants⟩
      obtain rfl := Option.some.inj hOwner
      rw [if_pos hWants]
    · intro hCommand
      split at hCommand
      · rename_i hWants
        exact ⟨owner, rfl, (VoiceCommand.join.inj hCommand).symm, hWants⟩
      · cases hCommand
  | leave =>
    constructor
    · intro hReflects
      rw [if_neg (by rw [hReflects owner rfl]; decide)]
    · intro hCommand o hOwner
      obtain rfl := Option.some.inj hOwner
      split at hCommand
      · cases hCommand
      · rename_i hWants
        simpa using hWants

-- ---------------------------------------------------------------------------
-- What an operation records and sends
-- ---------------------------------------------------------------------------

section Commands

variable {cfg : Config} {inner : Inner} {g : Nat} {op : VoiceOp} {command : VoiceCommand}

/-- The command of an operation is the one it records. -/
theorem reflects_of_mem_commands (hCommand : command ∈ op.commands cfg inner g) :
    Reflects (op.ownerStep cfg inner g (inner.voiceOwners.lookup g)) command := by
  cases op with
  | claim guildId clientId joining =>
    rw [VoiceOp.commands] at hCommand
    split at hCommand
    · rename_i hClaim
      obtain ⟨rfl, hAllow⟩ := hClaim
      rw [claimVoice_decision] at hAllow
      obtain rfl := List.mem_singleton.mp hCommand
      rw [VoiceOp.ownerStep, if_pos ⟨rfl, hAllow⟩]
      cases joining with
      | true => exact ⟨⟨clientId, none, true⟩, rfl, rfl, rfl⟩
      | false =>
        intro owner hOwner
        obtain ⟨old, -, rfl⟩ := Option.map_eq_some_iff.mp hOwner
        rfl
    · cases hCommand
  | identify clientId shardId =>
    rw [VoiceOp.commands] at hCommand
    split at hCommand
    · rename_i hMem
      obtain ⟨old, hOld, hGives⟩ := Map.mem_keysWhere.mp hMem
      obtain rfl := List.mem_singleton.mp hCommand
      intro owner hOwner
      rw [VoiceOp.ownerStep, hOld, Option.map_some, if_pos hGives] at hOwner
      rw [← Option.some.inj hOwner]
    · cases hCommand
  | sweep authorized now =>
    rw [VoiceOp.commands] at hCommand
    split at hCommand
    · rename_i hMem
      obtain ⟨old, hOld, hStale⟩ := Map.mem_keysWhere.mp hMem
      rw [Map.lookup_retain] at hOld
      obtain rfl := List.mem_singleton.mp hCommand
      intro owner hOwner
      rw [VoiceOp.ownerStep, hOld, Option.map_some, if_pos hStale] at hOwner
      rw [← Option.some.inj hOwner]
    · cases hCommand
  | botLeave _ | connected _ | disconnected _ _ | environment _ _ => cases hCommand

/-- An owner that wants voice is not removed. -/
theorem ownerStep_of_wants {owner : VoiceOwner} (hWants : owner.wantsVoice = true) :
    ∃ o, op.ownerStep cfg inner g (some owner) = some o := by
  cases op with
  | claim guildId clientId joining =>
    rw [VoiceOp.ownerStep]
    split
    · cases joining with
      | true => exact ⟨_, rfl⟩
      | false => exact ⟨_, rfl⟩
    · exact ⟨owner, rfl⟩
  | identify clientId shardId => exact ⟨_, rfl⟩
  | botLeave guildId =>
    rw [VoiceOp.ownerStep, Option.filter_some_pos hWants, ite_self]
    exact ⟨owner, rfl⟩
  | sweep authorized now =>
    rw [VoiceOp.ownerStep, Option.filter_some_pos (by rw [hWants]; rfl)]
    exact ⟨_, rfl⟩
  | connected clientId => exact ⟨_, rfl⟩
  | disconnected clientId now =>
    rw [VoiceOp.ownerStep]
    split <;> exact ⟨_, rfl⟩
  | environment shards botUserIdCell => exact ⟨owner, rfl⟩

/-- An operation that sends nothing keeps the record as far as commands go, or
removes an owner that gave the guild up. -/
theorem ownerStep_of_commands_nil (hNil : op.commands cfg inner g = []) {owner : VoiceOwner}
    (hOwner : op.ownerStep cfg inner g (inner.voiceOwners.lookup g) = some owner) :
    ∃ old, inner.voiceOwners.lookup g = some old ∧ commandOf owner = commandOf old := by
  cases op with
  | claim guildId clientId joining =>
    rw [VoiceOp.ownerStep] at hOwner
    split at hOwner
    · rename_i hClaim
      obtain ⟨rfl, hAllow⟩ := hClaim
      rw [VoiceOp.commands, if_pos ⟨rfl, (claimVoice_decision g joining).trans hAllow⟩] at hNil
      cases hNil
    · exact ⟨owner, hOwner, rfl⟩
  | identify clientId shardId =>
    obtain ⟨old, hOld, rfl⟩ := Option.map_eq_some_iff.mp hOwner
    refine ⟨old, hOld, ?_⟩
    rw [if_neg]
    intro hGives
    have hMem : g ∈ (inner.leaveVoiceForClient clientId shardId).1 :=
      Map.mem_keysWhere.mpr ⟨old, hOld, hGives⟩
    rw [VoiceOp.commands, if_pos hMem] at hNil
    cases hNil
  | botLeave guildId =>
    rw [VoiceOp.ownerStep] at hOwner
    split at hOwner
    · exact ⟨owner, (Option.filter_eq_some_iff.mp hOwner).1, rfl⟩
    · exact ⟨owner, hOwner, rfl⟩
  | sweep authorized now =>
    obtain ⟨old, hKept, rfl⟩ := Option.map_eq_some_iff.mp hOwner
    refine ⟨old, (Option.filter_eq_some_iff.mp hKept).1, ?_⟩
    rw [if_neg]
    intro hStale
    have hMem : g ∈ (inner.takeStaleVoiceOwners cfg authorized now).1 :=
      Map.mem_keysWhere.mpr ⟨old, (Map.lookup_retain _ _ g).trans hKept, hStale⟩
    rw [VoiceOp.commands, if_pos hMem] at hNil
    cases hNil
  | connected clientId =>
    obtain ⟨old, hOld, rfl⟩ := Option.map_eq_some_iff.mp hOwner
    refine ⟨old, hOld, ?_⟩
    split <;> rfl
  | disconnected clientId now =>
    rw [VoiceOp.ownerStep] at hOwner
    split at hOwner
    · obtain ⟨old, hOld, rfl⟩ := Option.map_eq_some_iff.mp hOwner
      refine ⟨old, hOld, ?_⟩
      split <;> rfl
    · exact ⟨owner, hOwner, rfl⟩
  | environment shards botUserIdCell => exact ⟨owner, hOwner, rfl⟩

/-- An operation that sends nothing keeps what the record reflects. -/
theorem Reflects.of_commands_nil {sent : VoiceCommand} (hNil : op.commands cfg inner g = [])
    (hReflects : Reflects (inner.voiceOwners.lookup g) sent) :
    Reflects (op.ownerStep cfg inner g (inner.voiceOwners.lookup g)) sent := by
  cases hAfter : op.ownerStep cfg inner g (inner.voiceOwners.lookup g) with
  | some owner =>
    obtain ⟨old, hOld, hSame⟩ := ownerStep_of_commands_nil hNil hAfter
    rw [hOld, reflects_some_iff] at hReflects
    rw [reflects_some_iff, hReflects, hSame]
  | none =>
    cases sent with
    | leave => exact fun owner hOwner => (nomatch hOwner)
    | join clientId =>
      obtain ⟨owner, hOwner, -, hWants⟩ := hReflects
      obtain ⟨o, hSome⟩ := @ownerStep_of_wants cfg inner g op owner hWants
      rw [hOwner, hSome] at hAfter
      cases hAfter

/-- After the command of an operation was recorded, the guild has an owner, or
the commands on their way were that one. -/
theorem not_reflects_of_ne {sent : VoiceCommand} (hCommand : command ∈ op.commands cfg inner g)
    (hReflects : Reflects (inner.voiceOwners.lookup g) sent) (hNe : sent ≠ command) :
    ∃ owner, op.ownerStep cfg inner g (inner.voiceOwners.lookup g) = some owner ∧
      sent ≠ commandOf owner := by
  have hRecorded := reflects_of_mem_commands hCommand
  cases hAfter : op.ownerStep cfg inner g (inner.voiceOwners.lookup g) with
  | some owner =>
    rw [hAfter, reflects_some_iff] at hRecorded
    exact ⟨owner, rfl, hRecorded ▸ hNe⟩
  | none =>
    rw [hAfter] at hRecorded
    cases command with
    | join clientId =>
      obtain ⟨owner, hOwner, -⟩ := hRecorded
      cases hOwner
    | leave =>
      cases sent with
      | leave => exact absurd rfl hNe
      | join clientId =>
        obtain ⟨owner, hOwner, -, hWants⟩ := hReflects
        obtain ⟨o, hSome⟩ := @ownerStep_of_wants cfg inner g op owner hWants
        rw [hOwner, hSome] at hAfter
        cases hAfter

end Commands

-- ---------------------------------------------------------------------------
-- Runs
-- ---------------------------------------------------------------------------

structure VoiceOrder where
  inner : Inner
  /-- recorded and not in the queue yet, by the connections' tasks and the sweeper -/
  decided : List VoiceCommand
  /-- all that was put into the queue for the guild -/
  queued : List VoiceCommand

inductive VoiceOrderStep
  | lock (op : VoiceOp)
  /-- the command at a position is put into the queue -/
  | enqueue (i : Nat)

namespace VoiceOrder

def new (shards : List Shard) (shardCount botUserId : Nat) : VoiceOrder :=
  ⟨{ Inner.new shards shardCount with botUserIdCell := botUserId }, [], []⟩

def step (cfg : Config) (g : Nat) (s : VoiceOrder) : VoiceOrderStep → Option VoiceOrder
  | .lock op => some { s with
      inner := op.apply cfg s.inner
      decided := s.decided ++ op.commands cfg s.inner g }
  | .enqueue i =>
    s.decided[i]?.map fun command => { s with
      decided := s.decided.eraseIdx i
      queued := s.queued ++ [command] }

/-- With no task between its two steps, an owner's record is the last command
that was sent: the owner's join, or a leave. -/
def Agrees (g : Nat) (s : VoiceOrder) : Prop :=
  s.decided = [] → ∀ owner, s.inner.voiceOwners.lookup g = some owner →
    s.queued.getLast? = some (if owner.wantsVoice then .join owner.clientId else .leave)

/-- What an operation sends is the same as every command on its way. -/
def InOrder (cfg : Config) (g : Nat) (s : VoiceOrder) : VoiceOrderStep → Prop
  | .lock op => ∀ command ∈ op.commands cfg s.inner g, ∀ sent ∈ s.decided, sent = command
  | .enqueue _ => True

/-- The record reflects the commands on their way, and the last one sent. -/
structure Ordered (g : Nat) (s : VoiceOrder) : Prop where
  decided : ∀ sent ∈ s.decided, Reflects (s.inner.voiceOwners.lookup g) sent
  queued : s.decided = [] → ∀ owner, s.inner.voiceOwners.lookup g = some owner →
    s.queued.getLast? = some (commandOf owner)

theorem ordered_new (g : Nat) (shards : List Shard) (shardCount botUserId : Nat) :
    Ordered g (new shards shardCount botUserId) :=
  ⟨fun _ hMem => (nomatch hMem), fun _ _ hOwner => (nomatch hOwner)⟩

variable {cfg : Config} {g : Nat} {s t : VoiceOrder} {action : VoiceOrderStep}

theorem Ordered.agrees (hInv : Ordered g s) : s.Agrees g := hInv.queued

/-- **Step lemma.** -/
theorem inOrder_step (hInv : Ordered g s) (hOrder : s.InOrder cfg g action)
    (hStep : s.step cfg g action = some t) : Ordered g t := by
  cases action with
  | lock op =>
    obtain rfl := Option.some.inj hStep
    have hEntry := VoiceOp.lookup_apply cfg s.inner g op
    cases hCommands : op.commands cfg s.inner g with
    | nil =>
      refine ⟨fun sent hMem => ?_, fun hNone owner hOwner => ?_⟩
      · dsimp only at hMem ⊢
        rw [List.append_nil] at hMem
        rw [hEntry]
        exact (hInv.decided sent hMem).of_commands_nil hCommands
      · dsimp only at hNone hOwner ⊢
        rw [List.append_nil] at hNone
        rw [hEntry] at hOwner
        obtain ⟨old, hOld, hSame⟩ := ownerStep_of_commands_nil hCommands hOwner
        rw [hSame]
        exact hInv.queued hNone old hOld
    | cons command rest =>
      have hMine : command ∈ op.commands cfg s.inner g := by
        rw [hCommands]
        exact .head _
      refine ⟨fun sent hMem => ?_, fun hNone => ?_⟩
      · dsimp only at hMem ⊢
        rw [hEntry]
        rcases List.mem_append.mp hMem with hOld | hNew
        · -- what was on its way is the same command
          rw [hOrder command hMine sent hOld]
          exact reflects_of_mem_commands hMine
        · exact reflects_of_mem_commands (hCommands ▸ hNew)
      · dsimp only at hNone
        exact absurd hNone (List.append_ne_nil_of_right_ne_nil _ (List.cons_ne_nil _ _))
  | enqueue i =>
    obtain ⟨command, hGet, rfl⟩ := Option.map_eq_some_iff.mp hStep
    have hReflects := hInv.decided command (List.mem_of_getElem? hGet)
    refine ⟨fun sent hMem => hInv.decided sent (List.mem_of_mem_eraseIdx hMem),
      fun _ owner hOwner => ?_⟩
    dsimp only at hOwner ⊢
    rw [hOwner, reflects_some_iff] at hReflects
    rw [List.getLast?_append, hReflects]
    rfl

-- ---------------------------------------------------------------------------
-- Two different commands on their way
-- ---------------------------------------------------------------------------

/-- The commands in front are put into the queue first. -/
theorem reaches_front (cfg : Config) (g : Nat) (inner : Inner)
    (front rest queued : List VoiceCommand) :
    Runs.Reaches (step cfg g) (InOrder cfg g) ⟨inner, front ++ rest, queued⟩
      ⟨inner, rest, queued ++ front⟩ := by
  induction front generalizing queued with
  | nil =>
    rw [List.append_nil]
    exact .refl _
  | cons command front ih =>
    have hRest := ih (queued ++ [command])
    rw [List.append_assoc] at hRest
    exact .head (a := .enqueue 0) rfl trivial hRest

/-- A command waits while those behind it are put into the queue. -/
theorem reaches_behind (cfg : Config) (g : Nat) (inner : Inner) (command : VoiceCommand)
    (behind queued : List VoiceCommand) :
    Runs.Reaches (step cfg g) (InOrder cfg g) ⟨inner, command :: behind, queued⟩
      ⟨inner, [command], queued ++ behind⟩ := by
  induction behind generalizing queued with
  | nil =>
    rw [List.append_nil]
    exact .refl _
  | cons next behind ih =>
    have hRest := ih (queued ++ [next])
    rw [List.append_assoc] at hRest
    exact .head (a := .enqueue 1) rfl trivial hRest

/-- A command on its way that the record does not reflect can arrive last. -/
theorem reaches_disagree {owner : VoiceOwner} {sent : VoiceCommand}
    (hOwner : s.inner.voiceOwners.lookup g = some owner) (hSent : sent ∈ s.decided)
    (hNe : sent ≠ commandOf owner) :
    ∃ u, Runs.Reaches (step cfg g) (InOrder cfg g) s u ∧ ¬ u.Agrees g := by
  obtain ⟨front, behind, hSplit⟩ := List.append_of_mem hSent
  refine ⟨⟨s.inner, [], s.queued ++ front ++ behind ++ [sent]⟩, ?_, fun hAgrees => ?_⟩
  · have hFront := reaches_front cfg g s.inner front (sent :: behind) s.queued
    rw [← hSplit] at hFront
    have hBehind := reaches_behind cfg g s.inner sent behind (s.queued ++ front)
    exact hFront.trans (hBehind.trans (.head (a := .enqueue 0) rfl trivial (.refl _)))
  · have hLast := hAgrees rfl owner hOwner
    rw [List.getLast?_append, List.getLast?_singleton] at hLast
    exact hNe (Option.some.inj hLast)

/-- **The command order agrees with the record, as long as commands on their way
do not differ.** In every state of a run in which no command is recorded while a
different one is on its way: with no task between its two steps, the last
command is a join of the owner if it wants voice, and a leave if it does not.
After the first step that breaks the condition, steps that keep it lead to a state
where this fails. -/
theorem command_order_agrees_when {shards : List Shard} {shardCount botUserId : Nat}
    {steps : List VoiceOrderStep}
    (hRun : Runs.exec (step cfg g) (new shards shardCount botUserId) steps = some s)
    (hOrder : Runs.Meets (step cfg g) (InOrder cfg g) (new shards shardCount botUserId) steps) :
    s.Agrees g ∧ ∀ action t, s.step cfg g action = some t → ¬ s.InOrder cfg g action →
      ∃ u, Runs.Reaches (step cfg g) (InOrder cfg g) t u ∧ ¬ u.Agrees g := by
  have hInv : Ordered g s :=
    Runs.exec_invariant_of_meets (P := Ordered g) (C := InOrder cfg g)
      (fun _ _ _ hInv hOrder hStep => inOrder_step hInv hOrder hStep)
      (ordered_new g shards shardCount botUserId) hOrder hRun
  refine ⟨hInv.agrees, fun action t hStep hDiffer => ?_⟩
  cases action with
  | enqueue i => exact absurd trivial hDiffer
  | lock op =>
    obtain rfl := Option.some.inj hStep
    rw [InOrder] at hDiffer
    push Not at hDiffer
    obtain ⟨command, hCommand, sent, hSent, hNe⟩ := hDiffer
    obtain ⟨owner, hOwner, hWrong⟩ :=
      not_reflects_of_ne hCommand (hInv.decided sent hSent) hNe
    have hRecorded := (VoiceOp.lookup_apply cfg s.inner g op).trans hOwner
    exact reaches_disagree hRecorded (List.mem_append_left _ hSent) hWrong

namespace SampleOrder

def config : Config := ⟨"bot".toList, true, true, [], none⟩

/-- One shard; its cache shows no voice state of bot 42. -/
def init : VoiceOrder := new [⟨0, none, ⟨[], [], []⟩⟩] 1 42

def claim (clientId : Str) (joining : Bool) : VoiceOrderStep := .lock (.claim 7 clientId joining)

/-- Two connections of `a`: the join of one is put into the queue after the
leave of the other. -/
def lateJoin : List VoiceOrderStep :=
  [claim ['a'] true, claim ['a'] false, .enqueue 1, .enqueue 0]

/-- The leave of `a` is put into the queue after the join of `b`. -/
def lateLeave : List VoiceOrderStep :=
  [claim ['a'] true, .enqueue 0, claim ['a'] false, claim ['b'] true, .enqueue 1, .enqueue 0]

end SampleOrder

open SampleOrder in
/-- A tenant that joins and leaves on one connection. -/
theorem command_order_agrees_when_left :
    ∃ s, Runs.exec (step config 7) init
        [claim ['a'] true, .enqueue 0, claim ['a'] false, .enqueue 0] = some s ∧ s.Agrees 7 := by
  have hOrder : Runs.Meets (step config 7) (InOrder config 7) init
      [claim ['a'] true, .enqueue 0, claim ['a'] false, .enqueue 0] := by
    refine (Runs.meets_cons rfl).mpr ⟨fun _ _ _ hSent => (nomatch hSent), ?_⟩
    refine (Runs.meets_cons rfl).mpr ⟨trivial, ?_⟩
    refine (Runs.meets_cons rfl).mpr ⟨fun _ _ _ hSent => (nomatch hSent), ?_⟩
    exact (Runs.meets_cons rfl).mpr ⟨trivial, trivial⟩
  exact ⟨_, rfl, (command_order_agrees_when rfl hOrder).1⟩

open SampleOrder in
/-- `a` gave the guild up, and the last command is its join; `b` owns the guild,
and the last command is the leave of `a`. -/
theorem command_order_fails :
    (∃ s, Runs.exec (step config 7) init lateJoin = some s ∧
      s.inner.voiceOwners.lookup 7 = some ⟨['a'], none, false⟩ ∧
      s.queued = [.leave, .join ['a']] ∧ ¬ s.Agrees 7) ∧
    ∃ s, Runs.exec (step config 7) init lateLeave = some s ∧
      s.inner.voiceOwners.lookup 7 = some ⟨['b'], none, true⟩ ∧
      s.queued = [.join ['a'], .join ['b'], .leave] ∧ ¬ s.Agrees 7 := by
  refine ⟨⟨_, rfl, rfl, rfl, fun hAgrees => ?_⟩, ⟨_, rfl, rfl, rfl, fun hAgrees => ?_⟩⟩
  · have hLast := hAgrees rfl ⟨['a'], none, false⟩ rfl
    cases hLast
  · have hLast := hAgrees rfl ⟨['b'], none, true⟩ rfl
    cases hLast

end VoiceOrder

end GatewayProxy
