import GatewayProxy.Voice.Ownership

/-!
# Disconnection marks and live connections

`mark_client_connected` and `mark_client_disconnected` change the count under
one lock and the marks on the voice owners under another. Here the two halves
are steps of their own, and the halves of any number of connections interleave
with each other and with the operations on the voice owners.

A mark agrees with the count once both halves are done, unless a late second
half of a disconnection ran after a new connection of the client was counted
and marked: nobody takes that mark back.

Main results:

* `marksInv_step`: what holds while some half is still to come.
* `marks_agree_when`: without a late second half the marks agree in every
  state, and a late one leads to a state where they do not.
* `marks_disagree`: the connections of a reconnect, overlapping.
-/

namespace GatewayProxy

open Utf8 Assoc GatewayProxy.Inner

structure MarkSystem where
  inner : Inner
  /-- connections that are counted, with the mark still to be cleared -/
  connecting : Str → Nat
  /-- connections with both halves done -/
  connected : Str → Nat
  /-- last connections that are counted out, with the mark still to be set -/
  leaving : Str → Nat

inductive MarkStep
  | countConnected (clientId : Str)
  | clearMark (clientId : Str)
  | countDisconnected (clientId : Str)
  | setMark (clientId : Str) (now : Nat)
  /-- an operation on the voice owners; a client claims on a connection it has -/
  | voice (op : VoiceOp)

namespace MarkSystem

def new (shards : List Shard) (shardCount : Nat) : MarkSystem :=
  ⟨Inner.new shards shardCount, fun _ => 0, fun _ => 0, fun _ => 0⟩

/-- Only a connected client claims. -/
def MayClaim (s : MarkSystem) : VoiceOp → Prop
  | .claim _ clientId _ => 0 < s.connected clientId
  | _ => True

instance (s : MarkSystem) (op : VoiceOp) : Decidable (s.MayClaim op) := by
  cases op <;> unfold MayClaim <;> infer_instance

def step (cfg : Config) (s : MarkSystem) : MarkStep → Option MarkSystem
  | .countConnected c => some { s with
      inner := s.inner.countConnected c
      connecting := Function.update s.connecting c (s.connecting c + 1) }
  | .clearMark c =>
    if 0 < s.connecting c then some { s with
      inner := s.inner.setVoiceOwnerDisconnected c none
      connecting := Function.update s.connecting c (s.connecting c - 1)
      connected := Function.update s.connected c (s.connected c + 1) }
    else none
  | .countDisconnected c =>
    if 0 < s.connected c then some { s with
      inner := s.inner.countDisconnected c
      connected := Function.update s.connected c (s.connected c - 1)
      -- only the last connection goes on to the voice owners
      leaving :=
        if s.inner.connectionCount c ≤ 1 then Function.update s.leaving c (s.leaving c + 1)
        else s.leaving }
    else none
  | .setMark c now =>
    if 0 < s.leaving c then some { s with
      inner := s.inner.setVoiceOwnerDisconnected c (some now)
      leaving := Function.update s.leaving c (s.leaving c - 1) }
    else none
  | .voice op =>
    if op.isConnection = false ∧ s.MayClaim op then some { s with inner := op.apply cfg s.inner }
    else none

/-- No operation of the client is half done. -/
def Quiet (s : MarkSystem) (c : Str) : Prop := s.connecting c = 0 ∧ s.leaving c = 0

/-- A client whose operations are all done is marked as disconnected exactly
while it is not counted, and a sweep never finds it expired while it is. -/
def MarksAgree (s : MarkSystem) (c : Str) : Prop :=
  s.Quiet c → ∀ g owner, s.inner.voiceOwners.lookup g = some owner → owner.clientId = c →
    (owner.disconnectedAt = none ↔ 0 < s.inner.connectionCount c) ∧
    (0 < s.inner.connectionCount c → ∀ now, ownerExpired now owner = false)

/-- The client owns the voice of some guild. -/
def OwnsVoice (s : MarkSystem) (c : Str) : Prop :=
  ∃ g owner, s.inner.voiceOwners.lookup g = some owner ∧ owner.clientId = c

/-- A disconnection sets its mark before a new connection of the client has
cleared it, or the client owns nothing that could be marked. -/
def InTime (s : MarkSystem) : MarkStep → Prop
  | .setMark c _ => s.inner.connectionCount c = 0 ∨ 0 < s.connecting c ∨ ¬ s.OwnsVoice c
  | _ => True

-- ---------------------------------------------------------------------------
-- Half-done operations
-- ---------------------------------------------------------------------------

variable {cfg : Config} {s t : MarkSystem} {action : MarkStep}

/-- The count is that of the connections that counted themselves in. -/
def Counted (s : MarkSystem) : Prop :=
  ∀ c, s.inner.connectionCount c = s.connecting c + s.connected c

/-- The marks of a client whose connections cleared theirs, and of one that is
gone with its marks set. -/
structure MarksInv (s : MarkSystem) : Prop where
  counted : s.Counted
  cleared : ∀ g owner, s.inner.voiceOwners.lookup g = some owner →
    s.connecting owner.clientId = 0 → 0 < s.connected owner.clientId → owner.disconnectedAt = none
  marked : ∀ g owner, s.inner.voiceOwners.lookup g = some owner →
    s.connecting owner.clientId = 0 → s.connected owner.clientId = 0 →
      s.leaving owner.clientId = 0 → owner.disconnectedAt ≠ none

theorem connectionCount_apply {op : VoiceOp} (hOp : op.isConnection = false) (inner : Inner)
    (c : Str) : (op.apply cfg inner).connectionCount c = inner.connectionCount c := by
  cases op with
  | claim guildId clientId joining =>
    show (claimVoice cfg inner guildId clientId joining).2.connectionCount c = _
    rw [connectionCount, claimVoice_activeClientConnections, ← connectionCount]
  | botLeave guildId =>
    show (inner.onBotVoiceLeave guildId).connectionCount c = _
    unfold onBotVoiceLeave
    split
    · split <;> rfl
    · rfl
  | connected clientId => cases hOp
  | disconnected clientId now => cases hOp
  | identify _ _ | sweep _ _ | environment _ _ => rfl

theorem counted_step (hCounted : s.Counted) (hStep : s.step cfg action = some t) : t.Counted := by
  intro c
  have hBefore := hCounted c
  cases action with
  | countConnected clientId =>
    obtain rfl := Option.some.inj hStep
    dsimp only
    rw [connectionCount_countConnected]
    by_cases hClient : c = clientId
    · subst hClient
      rw [if_pos rfl, Function.update_self]
      omega
    · rw [if_neg hClient, Function.update_of_ne hClient]
      exact hBefore
  | clearMark clientId =>
    rw [step] at hStep
    split at hStep
    · rename_i hConnecting
      obtain rfl := Option.some.inj hStep
      dsimp only
      rw [connectionCount_setVoiceOwnerDisconnected]
      by_cases hClient : c = clientId
      · subst hClient
        rw [Function.update_self, Function.update_self]
        omega
      · rw [Function.update_of_ne hClient, Function.update_of_ne hClient]
        exact hBefore
    · cases hStep
  | countDisconnected clientId =>
    rw [step] at hStep
    split at hStep
    · rename_i hConnected
      obtain rfl := Option.some.inj hStep
      dsimp only
      rw [connectionCount_countDisconnected]
      by_cases hClient : c = clientId
      · subst hClient
        rw [if_pos rfl, Function.update_self]
        omega
      · rw [if_neg hClient, Function.update_of_ne hClient]
        exact hBefore
    · cases hStep
  | setMark clientId now =>
    rw [step] at hStep
    split at hStep
    · obtain rfl := Option.some.inj hStep
      exact hBefore
    · cases hStep
  | voice op =>
    rw [step] at hStep
    split at hStep
    · rename_i hOp
      obtain rfl := Option.some.inj hStep
      dsimp only
      rw [connectionCount_apply hOp.1]
      exact hBefore
    · cases hStep

/-- The owners after the marks of a client were set or cleared. -/
theorem owner_setVoiceOwnerDisconnected {inner : Inner} {c : Str} {at? : Option Nat} {g : Nat}
    {owner : VoiceOwner}
    (hOwner : (inner.setVoiceOwnerDisconnected c at?).voiceOwners.lookup g = some owner) :
    ∃ old, inner.voiceOwners.lookup g = some old ∧ owner.clientId = old.clientId ∧
      owner.disconnectedAt = if old.clientId = c then at? else old.disconnectedAt := by
  rw [lookup_setVoiceOwnerDisconnected] at hOwner
  obtain ⟨old, hOld, rfl⟩ := Option.map_eq_some_iff.mp hOwner
  refine ⟨old, hOld, ?_⟩
  split <;> exact ⟨rfl, rfl⟩

/-- A mark fits what the connections of its client have done so far. -/
structure MarkFits (connecting connected leaving : Nat) (at? : Option Nat) : Prop where
  cleared : connecting = 0 → 0 < connected → at? = none
  marked : connecting = 0 → connected = 0 → leaving = 0 → at? ≠ none

/-- The invariant, one owner at a time. -/
theorem marksInv_iff :
    MarksInv s ↔ s.Counted ∧ ∀ g owner, s.inner.voiceOwners.lookup g = some owner →
      MarkFits (s.connecting owner.clientId) (s.connected owner.clientId)
        (s.leaving owner.clientId) owner.disconnectedAt := by
  constructor
  · exact fun h => ⟨h.counted, fun g owner hOwner =>
      ⟨h.cleared g owner hOwner, h.marked g owner hOwner⟩⟩
  · exact fun h => ⟨h.1, fun g owner hOwner => (h.2 g owner hOwner).cleared,
      fun g owner hOwner => (h.2 g owner hOwner).marked⟩

theorem MarkFits.none_of_connected {connecting connected leaving : Nat} (h : 0 < connected) :
    MarkFits connecting connected leaving none where
  cleared := fun _ _ => rfl
  marked := fun _ hZero => absurd hZero (by omega)

/-- **Step lemma.** A step that sets no mark late keeps the invariant. -/
theorem marksInv_step (hInv : MarksInv s) (hTime : s.InTime action)
    (hStep : s.step cfg action = some t) : MarksInv t := by
  obtain ⟨hCounted, hFits⟩ := marksInv_iff.mp hInv
  refine marksInv_iff.mpr ⟨counted_step hCounted hStep, fun g owner hOwner => ?_⟩
  cases action with
  | countConnected c =>
    obtain rfl := Option.some.inj hStep
    have hBefore := hFits g owner hOwner
    dsimp only
    by_cases hClient : owner.clientId = c
    · rw [hClient, Function.update_self]
      exact ⟨fun hNone => absurd hNone (by omega), fun hNone => absurd hNone (by omega)⟩
    · rw [Function.update_of_ne hClient]
      exact hBefore
  | clearMark c =>
    rw [step] at hStep
    split at hStep
    · obtain rfl := Option.some.inj hStep
      obtain ⟨old, hOld, hId, hMark⟩ := owner_setVoiceOwnerDisconnected hOwner
      have hBefore := hFits g old hOld
      dsimp only
      rw [hId, hMark]
      by_cases hClient : old.clientId = c
      · rw [if_pos hClient, hClient, Function.update_self, Function.update_self]
        exact .none_of_connected (by omega)
      · rw [if_neg hClient, Function.update_of_ne hClient, Function.update_of_ne hClient]
        exact hBefore
    · cases hStep
  | countDisconnected c =>
    rw [step] at hStep
    split at hStep
    · rename_i hConnected
      obtain rfl := Option.some.inj hStep
      rw [countDisconnected_voiceOwners] at hOwner
      have hBefore := hFits g owner hOwner
      have hCount := hCounted c
      dsimp only
      by_cases hClient : owner.clientId = c
      · rw [hClient] at hBefore ⊢
        rw [Function.update_self]
        refine ⟨fun hNone _ => hBefore.cleared hNone hConnected, fun hNone hZero => ?_⟩
        -- the last connection goes on to set the mark
        rw [if_pos (by omega), Function.update_self]
        intro hLeaving
        omega
      · rw [Function.update_of_ne hClient]
        split
        · rw [Function.update_of_ne hClient]
          exact hBefore
        · exact hBefore
    · cases hStep
  | setMark c now =>
    rw [step] at hStep
    split at hStep
    · obtain rfl := Option.some.inj hStep
      obtain ⟨old, hOld, hId, hMark⟩ := owner_setVoiceOwnerDisconnected hOwner
      have hBefore := hFits g old hOld
      dsimp only
      rw [hId, hMark]
      by_cases hClient : old.clientId = c
      · have hCount := hCounted c
        rw [if_pos hClient, hClient, Function.update_self]
        refine ⟨fun hNone hSome => ?_, fun _ _ _ => Option.some_ne_none now⟩
        rcases hTime with hGone | hConnecting | hOwns
        · omega
        · omega
        · exact absurd ⟨g, old, hOld, hClient⟩ hOwns
      · rw [if_neg hClient, Function.update_of_ne hClient]
        exact hBefore
    · cases hStep
  | voice op =>
    rw [step] at hStep
    split at hStep
    · rename_i hOp
      obtain rfl := Option.some.inj hStep
      dsimp only at hOwner ⊢
      rw [VoiceOp.lookup_apply] at hOwner
      rcases VoiceOp.ownerStep_eq_some hOp.1 hOwner with ⟨clientId, rfl, rfl⟩ | hKept
      · exact .none_of_connected hOp.2
      · obtain ⟨old, hOld, hId, hMark⟩ := hKept
        rw [hId, hMark]
        exact hFits g old hOld
    · cases hStep

theorem marksInv_new (shards : List Shard) (shardCount : Nat) : MarksInv (new shards shardCount) :=
  ⟨fun _ => rfl, fun _ _ hOwner => (nomatch hOwner), fun _ _ hOwner => (nomatch hOwner)⟩

theorem marksAgree_of_inv (hInv : MarksInv s) (c : Str) : s.MarksAgree c := by
  rintro ⟨hConnecting, hLeaving⟩ g owner hOwner rfl
  have hCount := hInv.counted owner.clientId
  have hLive : 0 < s.inner.connectionCount owner.clientId → owner.disconnectedAt = none :=
    fun hPositive => hInv.cleared g owner hOwner hConnecting (by omega)
  refine ⟨⟨fun hNone => ?_, hLive⟩, fun hPositive now => ?_⟩
  · by_contra hZero
    exact hInv.marked g owner hOwner hConnecting (by omega) hLeaving hNone
  · rw [ownerExpired, hLive hPositive]

-- ---------------------------------------------------------------------------
-- A late mark
-- ---------------------------------------------------------------------------

/-- A counted client whose own marks say that it is disconnected. -/
structure MarkedLive (s : MarkSystem) (c : Str) : Prop where
  connecting : s.connecting c = 0
  counted : 0 < s.inner.connectionCount c
  marked : ∃ g owner, s.inner.voiceOwners.lookup g = some owner ∧ owner.clientId = c ∧
    owner.disconnectedAt ≠ none

theorem MarkedLive.disagrees {c : Str} (hLive : MarkedLive s c) (hLeaving : s.leaving c = 0) :
    ¬ s.MarksAgree c := by
  intro hAgree
  obtain ⟨g, owner, hOwner, hClient, hMark⟩ := hLive.marked
  have hMarks := hAgree ⟨hLive.connecting, hLeaving⟩ g owner hOwner hClient
  exact hMark (hMarks.1.mpr hLive.counted)

/-- Setting a mark of a client that is counted and has cleared its marks. -/
theorem markedLive_setMark {c : Str} {now : Nat} (hConnecting : s.connecting c = 0)
    (hCount : 0 < s.inner.connectionCount c) (hOwns : s.OwnsVoice c)
    (hStep : s.step cfg (.setMark c now) = some t) :
    MarkedLive t c ∧ t.leaving c + 1 = s.leaving c ∧ t.OwnsVoice c := by
  rw [step] at hStep
  split at hStep
  · rename_i hLeaving
    obtain rfl := Option.some.inj hStep
    obtain ⟨g, owner, hOwner, hClient⟩ := hOwns
    have hSet : (s.inner.setVoiceOwnerDisconnected c (some now)).voiceOwners.lookup g =
        some { owner with disconnectedAt := some now } := by
      rw [lookup_setVoiceOwnerDisconnected, hOwner, Option.map_some, if_pos hClient]
    refine ⟨⟨hConnecting, hCount, g, _, hSet, hClient, Option.some_ne_none now⟩, ?_,
      g, _, hSet, hClient⟩
    show Function.update s.leaving c (s.leaving c - 1) c + 1 = s.leaving c
    rw [Function.update_self]
    omega
  · cases hStep

/-- When the client's other disconnections have set their marks too, the marks
disagree. -/
theorem MarkedLive.reaches {c : Str} (cfg : Config) (hLive : MarkedLive s c)
    (hOwns : s.OwnsVoice c) :
    ∃ u, Runs.Reaches (step cfg) (fun _ a => ∃ now, a = .setMark c now) s u ∧
      ¬ u.MarksAgree c := by
  generalize hLeaving : s.leaving c = n
  induction n generalizing s with
  | zero => exact ⟨s, .refl s, hLive.disagrees hLeaving⟩
  | succ n ih =>
    obtain ⟨t, hStep⟩ : ∃ t, s.step cfg (.setMark c 0) = some t := by
      rw [step, if_pos (by omega)]
      exact ⟨_, rfl⟩
    obtain ⟨hNext, hFewer, hOwns'⟩ :=
      markedLive_setMark hLive.connecting hLive.counted hOwns hStep
    obtain ⟨u, hReach, hDisagree⟩ := ih hNext hOwns' (by omega)
    exact ⟨u, .head hStep ⟨0, rfl⟩ hReach, hDisagree⟩

/-- **Disconnection marks agree with live connections, when no mark is set
late.** In every state of a run whose marks are all set in time, an owner with
no half-done operation is marked as disconnected exactly while it is not
counted, and is not found expired while it is. After a
mark that is set late this fails as soon as the client's other disconnections,
if there are any, have set their marks. -/
theorem marks_agree_when (cfg : Config) {shards : List Shard} {shardCount : Nat}
    {steps : List MarkStep} (hRun : Runs.exec (step cfg) (new shards shardCount) steps = some s) :
    (Runs.Meets (step cfg) InTime (new shards shardCount) steps → ∀ c, s.MarksAgree c) ∧
      ∀ c now t, s.step cfg (.setMark c now) = some t → ¬ s.InTime (.setMark c now) →
        ∃ u, Runs.Reaches (step cfg) (fun _ a => ∃ now, a = .setMark c now) t u ∧
          ¬ u.MarksAgree c := by
  constructor
  · intro hMeets
    have hInv : MarksInv s :=
      Runs.exec_invariant_of_meets (P := MarksInv) (C := InTime)
        (fun _ _ _ hInv hTime hStep => marksInv_step hInv hTime hStep)
        (marksInv_new shards shardCount) hMeets hRun
    exact marksAgree_of_inv hInv
  · intro c now t hStep hLate
    rw [InTime, not_or, not_or, not_not] at hLate
    obtain ⟨hLive, -, hOwns⟩ :=
      markedLive_setMark (by omega) (by omega) hLate.2.2 hStep
    exact hLive.reaches cfg hOwns

namespace SampleMarks

def config : Config := ⟨"bot".toList, true, true, [], none⟩

def init : MarkSystem := new [⟨0, none, ⟨[], [], []⟩⟩] 1

/-- Client `a` connects, joins voice in guild 7 and loses its connection. -/
def lost : List MarkStep :=
  [.countConnected ['a'], .clearMark ['a'], .voice (.claim 7 ['a'] true), .countDisconnected ['a']]

/-- Before the mark is set, a new connection of `a` is counted and clears it. -/
def reconnected : List MarkStep :=
  lost ++ [.countConnected ['a'], .clearMark ['a'], .setMark ['a'] 5]

end SampleMarks

open SampleMarks in
/-- With its mark set at once, the disconnected client and its mark agree. -/
theorem marks_agree_when_lost :
    ∃ s, Runs.exec (step config) init (lost ++ [.setMark ['a'] 5]) = some s ∧
      ∀ c, s.MarksAgree c := by
  have hInTime : Runs.Meets (step config) InTime init (lost ++ [.setMark ['a'] 5]) := by
    refine (Runs.meets_cons rfl).mpr ⟨trivial, ?_⟩
    refine (Runs.meets_cons rfl).mpr ⟨trivial, ?_⟩
    refine (Runs.meets_cons rfl).mpr ⟨trivial, ?_⟩
    refine (Runs.meets_cons rfl).mpr ⟨trivial, ?_⟩
    exact (Runs.meets_cons rfl).mpr ⟨.inl rfl, trivial⟩
  exact ⟨_, rfl, (marks_agree_when config rfl).1 hInTime⟩

open SampleMarks in
/-- The client is connected again, and marked as disconnected for good. -/
theorem marks_disagree :
    ∃ s, Runs.exec (step config) init reconnected = some s ∧
      (∀ c, s.Quiet c) ∧ s.inner.connectionCount ['a'] = 1 ∧
      s.inner.voiceOwners.lookup 7 = some ⟨['a'], some 5, true⟩ ∧
      ownerExpired (5 + voiceOwnerGrace) ⟨['a'], some 5, true⟩ = true ∧ ¬ s.MarksAgree ['a'] := by
  refine ⟨_, rfl, fun c => ?_, rfl, rfl, by decide, fun hAgree => ?_⟩
  · by_cases hClient : c = ['a']
    · subst hClient
      exact ⟨rfl, rfl⟩
    · constructor
      · simp [Function.update_of_ne hClient, init, new]
      · dsimp only
        rw [Function.update_of_ne hClient]
        split
        · rw [Function.update_of_ne hClient]
          rfl
        · rfl
  · have hMarks := hAgree ⟨rfl, rfl⟩ 7 ⟨['a'], some 5, true⟩ rfl rfl
    have hMark := hMarks.1.mpr Nat.one_pos
    cases hMark

end MarkSystem

end GatewayProxy
