import GatewayProxy.Lib.Runs
import GatewayProxy.Source.State

/-!
# Exclusive voice ownership

The six operations on the map of voice owners, in any order and with any
answers of the voice state cache. The map is followed one guild at a time:
`ownerStep` is what an operation does to the entry of one guild, and
`lookup_apply` says that the operations on the map do exactly that.

Main results:

* `owns_step`: an owner that wants voice keeps the guild through every
  operation that is not its own leave, its own IDENTIFY on the guild's shard,
  or a sweep that finds it disconnected for a minute or without access.
* `owner_passes_only_when_free`: an entry is removed or passes to another
  client only when the owner gave the guild up and the bot is out of voice.
* `voice_ownership_exclusive`: both, over all runs from an empty map.
-/

namespace GatewayProxy

open Utf8 Assoc GatewayProxy.Inner

-- ---------------------------------------------------------------------------
-- Operations and runs
-- ---------------------------------------------------------------------------

inductive VoiceOp
  | claim (guildId : Nat) (clientId : Str) (joining : Bool)
  /-- a fresh IDENTIFY: `leave_voice_for_client` -/
  | identify (clientId : Str) (shardId : Nat)
  | botLeave (guildId : Nat)
  | sweep (authorized : Map Str (Finset Nat)) (now : Nat)
  | connected (clientId : Str)
  | disconnected (clientId : Str) (now : Nat)
  /-- the caches and the bot id change in any way -/
  | environment (shards : List Shard) (botUserIdCell : Nat)

namespace VoiceOp

def apply (cfg : Config) (inner : Inner) : VoiceOp → Inner
  | claim guildId clientId joining => (inner.claimVoice cfg guildId clientId joining).2
  | identify clientId shardId => (inner.leaveVoiceForClient clientId shardId).2
  | botLeave guildId => inner.onBotVoiceLeave guildId
  | sweep authorized now => (inner.takeStaleVoiceOwners cfg authorized now).2
  | connected clientId => inner.markClientConnected clientId
  | disconnected clientId now => inner.markClientDisconnected clientId now
  | environment shards botUserIdCell =>
    { inner with shards := shards, botUserIdCell := botUserIdCell }

/-- What an operation does to the entry of guild `g`. -/
def ownerStep (cfg : Config) (inner : Inner) (g : Nat) (owner : Option VoiceOwner) :
    VoiceOp → Option VoiceOwner
  | claim guildId clientId joining =>
    if g = guildId ∧ decideVoiceCommand owner clientId (inner.botInVoice cfg g) = .allow then
      claimOwner owner clientId joining
    else owner
  | identify clientId shardId =>
    owner.map fun o =>
      if inner.givesUpOn clientId shardId g o then { o with wantsVoice := false } else o
  | botLeave guildId => if g = guildId then owner.filter VoiceOwner.wantsVoice else owner
  | sweep authorized now =>
    (owner.filter fun o => o.wantsVoice || inner.botInVoice cfg g).map fun o =>
      if isStale authorized now g o then { o with wantsVoice := false } else o
  | connected clientId =>
    owner.map fun o => if o.clientId = clientId then { o with disconnectedAt := none } else o
  | disconnected clientId now =>
    if inner.connectionCount clientId ≤ 1 then
      owner.map fun o =>
        if o.clientId = clientId then { o with disconnectedAt := some now } else o
    else owner
  | environment _ _ => owner

/-- The operations on the map act on each guild's entry alone. -/
theorem lookup_apply (cfg : Config) (inner : Inner) (g : Nat) (op : VoiceOp) :
    (op.apply cfg inner).voiceOwners.lookup g =
      op.ownerStep cfg inner g (inner.voiceOwners.lookup g) := by
  cases op with
  | claim guildId clientId joining =>
    rw [apply, ownerStep, lookup_claimVoice, claimVoice_decision]
    by_cases hg : g = guildId
    · rw [hg]
    · rw [if_neg fun h => hg h.1, if_neg fun h => hg h.1]
  | identify clientId shardId => exact lookup_leaveVoiceForClient shardId
  | botLeave guildId => exact lookup_onBotVoiceLeave guildId
  | sweep authorized now => exact lookup_takeStaleVoiceOwners authorized now
  | connected clientId => exact lookup_markClientConnected
  | disconnected clientId now => exact lookup_markClientDisconnected now
  | environment shards botUserIdCell => rfl

/-- A connection of a client begins or ends. -/
def isConnection : VoiceOp → Bool
  | connected _ => true
  | disconnected _ _ => true
  | _ => false

/-- Every other operation leaves an owner's client and mark as they are, but
for a join, which starts without a mark. -/
theorem ownerStep_eq_some {cfg : Config} {inner : Inner} {g : Nat} {entry : Option VoiceOwner}
    {op : VoiceOp} {owner : VoiceOwner} (hOp : op.isConnection = false)
    (hOwner : op.ownerStep cfg inner g entry = some owner) :
    (∃ clientId, op = claim g clientId true ∧ owner = ⟨clientId, none, true⟩) ∨
      ∃ old, entry = some old ∧ owner.clientId = old.clientId ∧
        owner.disconnectedAt = old.disconnectedAt := by
  cases op with
  | claim guildId clientId joining =>
    rw [ownerStep] at hOwner
    split at hOwner
    · rename_i hClaim
      cases joining with
      | true => exact .inl ⟨clientId, by rw [hClaim.1], (Option.some.inj hOwner).symm⟩
      | false =>
        obtain ⟨old, hOld, rfl⟩ := Option.map_eq_some_iff.mp hOwner
        exact .inr ⟨old, hOld, rfl, rfl⟩
    · exact .inr ⟨owner, hOwner, rfl, rfl⟩
  | identify clientId shardId =>
    obtain ⟨old, hOld, rfl⟩ := Option.map_eq_some_iff.mp hOwner
    refine .inr ⟨old, hOld, ?_⟩
    split <;> exact ⟨rfl, rfl⟩
  | botLeave guildId =>
    rw [ownerStep] at hOwner
    split at hOwner
    · exact .inr ⟨owner, (Option.filter_eq_some_iff.mp hOwner).1, rfl, rfl⟩
    · exact .inr ⟨owner, hOwner, rfl, rfl⟩
  | sweep authorized now =>
    obtain ⟨old, hKept, rfl⟩ := Option.map_eq_some_iff.mp hOwner
    refine .inr ⟨old, (Option.filter_eq_some_iff.mp hKept).1, ?_⟩
    split <;> exact ⟨rfl, rfl⟩
  | connected clientId => cases hOp
  | disconnected clientId now => cases hOp
  | environment shards botUserIdCell => exact .inr ⟨owner, hOwner, rfl, rfl⟩

end VoiceOp

/-- The state of a run. `disconnectedSince` is a history variable: the time a
client's last connection ended, while it has none. -/
structure VoiceRun where
  inner : Inner
  disconnectedSince : Str → Option Nat

namespace VoiceRun

def track (s : VoiceRun) : VoiceOp → Str → Option Nat
  | .connected clientId => Function.update s.disconnectedSince clientId none
  | .disconnected clientId now =>
    if s.inner.connectionCount clientId ≤ 1 then
      Function.update s.disconnectedSince clientId (some now)
    else s.disconnectedSince
  | _ => s.disconnectedSince

def step (cfg : Config) (s : VoiceRun) (op : VoiceOp) : Option VoiceRun :=
  some ⟨op.apply cfg s.inner, s.track op⟩

/-- `clientId` owns guild `g` and wants voice. -/
def Owns (s : VoiceRun) (g : Nat) (clientId : Str) : Prop :=
  ∃ owner, s.inner.voiceOwners.lookup g = some owner ∧ owner.clientId = clientId ∧
    owner.wantsVoice = true

/-- The operations that end the ownership of a client that wants voice: its own
leave, its IDENTIFY on the guild's shard, and a sweep in which it has been
disconnected for the grace period or is not authorised for the guild. -/
def GivesUp (s : VoiceRun) (g : Nat) (clientId : Str) (op : VoiceOp) : Prop :=
  op = .claim g clientId false ∨
  op = .identify clientId (s.inner.shardIdForGuild g) ∨
  ∃ authorized now, op = .sweep authorized now ∧
    ((∃ since, s.disconnectedSince clientId = some since ∧ voiceOwnerGrace ≤ now - since) ∨
      ∀ guilds, authorized.lookup clientId = some guilds → g ∉ guilds)

/-- The bot is known to be out of voice: its id, the guild's shard and the
voice state cache are available, and the cache has no voice state for it. -/
def KnownOutOfVoice (cfg : Config) (s : VoiceRun) (g : Nat) : Prop :=
  ∃ bot shard, s.inner.botUserId = some bot ∧ s.inner.shardForGuild g = some shard ∧
    cfg.voiceStates = true ∧ shard.guilds.hasVoiceState g bot = false

-- ---------------------------------------------------------------------------
-- The disconnection mark of an owner
-- ---------------------------------------------------------------------------

/-- An owner marked as disconnected has had no connection since the mark. -/
def MarksAreTrue (s : VoiceRun) : Prop :=
  ∀ g owner since, s.inner.voiceOwners.lookup g = some owner →
    owner.disconnectedAt = some since → s.disconnectedSince owner.clientId = some since

theorem marksAreTrue_step {cfg : Config} {s t : VoiceRun} {op : VoiceOp}
    (hMarks : s.MarksAreTrue) (hStep : s.step cfg op = some t) : t.MarksAreTrue := by
  obtain rfl : (⟨op.apply cfg s.inner, s.track op⟩ : VoiceRun) = t := Option.some.inj hStep
  intro g owner since hOwner hMark
  dsimp only at hOwner ⊢
  rw [VoiceOp.lookup_apply] at hOwner
  have hOther : op.isConnection = false → s.disconnectedSince owner.clientId = some since := by
    intro hOp
    rcases VoiceOp.ownerStep_eq_some hOp hOwner with
      ⟨clientId, -, rfl⟩ | ⟨old, hOld, hClient, hSame⟩
    · cases hMark
    · rw [hClient]
      exact hMarks g old since hOld (hSame ▸ hMark)
  cases op with
  | claim _ _ _ | identify _ _ | botLeave _ | sweep _ _ | environment _ _ => exact hOther rfl
  | connected clientId =>
    obtain ⟨old, hOld, rfl⟩ := Option.map_eq_some_iff.mp hOwner
    by_cases hClient : old.clientId = clientId
    · rw [if_pos hClient] at hMark
      simp at hMark
    · rw [if_neg hClient] at hMark ⊢
      rw [track, Function.update_of_ne hClient]
      exact hMarks g old since hOld hMark
  | disconnected clientId now =>
    rw [VoiceOp.ownerStep] at hOwner
    rw [track]
    split at hOwner
    · rename_i hLast
      rw [if_pos hLast]
      obtain ⟨old, hOld, rfl⟩ := Option.map_eq_some_iff.mp hOwner
      by_cases hClient : old.clientId = clientId
      · rw [if_pos hClient] at hMark ⊢
        rw [show ({ old with disconnectedAt := some now } : VoiceOwner).clientId = clientId
          from hClient, Function.update_self]
        exact hMark
      · rw [if_neg hClient] at hMark ⊢
        rw [Function.update_of_ne hClient]
        exact hMarks g old since hOld hMark
    · rename_i hLast
      rw [if_neg hLast]
      exact hMarks g owner since hOwner hMark

-- ---------------------------------------------------------------------------
-- One operation
-- ---------------------------------------------------------------------------

/-- While the owner wants voice, a command of another client is denied. -/
theorem decide_deny_of_wants {owner : VoiceOwner} {clientId : Str} {botInVoice : Bool}
    (hWants : owner.wantsVoice = true) (hOther : owner.clientId ≠ clientId) :
    decideVoiceCommand (some owner) clientId botInVoice = .deny := by
  rw [decideVoiceCommand, if_neg hOther, hWants]
  rfl

/-- **Step lemma.** An owner that wants voice stays owner and wants voice,
except in a step that gives the guild up. -/
theorem owns_step {cfg : Config} {s t : VoiceRun} {g : Nat} {clientId : Str} {op : VoiceOp}
    (hMarks : s.MarksAreTrue) (hOwns : s.Owns g clientId)
    (hKeeps : ¬ s.GivesUp g clientId op) (hStep : s.step cfg op = some t) :
    t.Owns g clientId := by
  obtain rfl : (⟨op.apply cfg s.inner, s.track op⟩ : VoiceRun) = t := Option.some.inj hStep
  obtain ⟨owner, hOwner, rfl, hWants⟩ := hOwns
  unfold Owns
  dsimp only
  rw [VoiceOp.lookup_apply, hOwner]
  cases op with
  | claim guildId other joining =>
    rw [VoiceOp.ownerStep]
    by_cases hClaim : g = guildId ∧
        decideVoiceCommand (some owner) other (s.inner.botInVoice cfg g) = .allow
    · rw [if_pos hClaim]
      -- only the owner's own command is allowed, and it is no leave
      have hSame : owner.clientId = other := by
        by_contra hOther
        rw [decide_deny_of_wants hWants hOther] at hClaim
        simp at hClaim
      cases joining with
      | true => exact ⟨⟨other, none, true⟩, rfl, hSame.symm, rfl⟩
      | false =>
        refine absurd (Or.inl ?_) hKeeps
        rw [hClaim.1, hSame]
    · rw [if_neg hClaim]
      exact ⟨owner, rfl, rfl, hWants⟩
  | identify other shardId =>
    refine ⟨owner, ?_, rfl, hWants⟩
    rw [VoiceOp.ownerStep, Option.map_some, if_neg]
    intro hGives
    rw [givesUpOn, Bool.and_eq_true, Bool.and_eq_true, beq_iff_eq, beq_iff_eq] at hGives
    refine hKeeps (Or.inr (Or.inl ?_))
    rw [hGives.1.1, hGives.2]
  | botLeave guildId =>
    refine ⟨owner, ?_, rfl, hWants⟩
    rw [VoiceOp.ownerStep]
    split
    · exact Option.filter_some_pos hWants
    · rfl
  | sweep authorized now =>
    refine ⟨owner, ?_, rfl, hWants⟩
    rw [VoiceOp.ownerStep, Option.filter_some_pos (by rw [hWants, Bool.true_or]),
      Option.map_some, if_neg]
    intro hStale
    rw [isStale, Bool.and_eq_true, Bool.or_eq_true] at hStale
    refine hKeeps (Or.inr (Or.inr ⟨authorized, now, rfl, ?_⟩))
    rcases hStale.2 with hExpired | hRevoked
    · left
      rw [ownerExpired] at hExpired
      split at hExpired
      · rename_i since hMark
        exact ⟨since, hMarks g owner since hOwner hMark, by simpa using hExpired⟩
      · simp at hExpired
    · right
      intro guilds hGuilds
      rw [ownerRevoked, hGuilds] at hRevoked
      simpa using hRevoked
  | connected other =>
    rw [VoiceOp.ownerStep, Option.map_some]
    refine ⟨_, rfl, ?_, ?_⟩
    · split <;> rfl
    · split <;> exact hWants
  | disconnected other now =>
    rw [VoiceOp.ownerStep]
    split
    · rw [Option.map_some]
      refine ⟨_, rfl, ?_, ?_⟩
      · split <;> rfl
      · split <;> exact hWants
    · exact ⟨owner, rfl, rfl, hWants⟩
  | environment shards botUserIdCell => exact ⟨owner, rfl, rfl, hWants⟩

/-- **Step lemma.** The entry of a guild is removed or passes to another client
only when its owner gave the guild up and the bot is out of voice. -/
theorem owner_passes_only_when_free {cfg : Config} {s t : VoiceRun} {g : Nat} {op : VoiceOp}
    {owner : VoiceOwner} (hOwner : s.inner.voiceOwners.lookup g = some owner)
    (hStep : s.step cfg op = some t)
    (hPasses : t.inner.voiceOwner g ≠ some owner.clientId) :
    owner.wantsVoice = false ∧ (op = .botLeave g ∨ KnownOutOfVoice cfg s g) := by
  obtain rfl : (⟨op.apply cfg s.inner, s.track op⟩ : VoiceRun) = t := Option.some.inj hStep
  unfold voiceOwner at hPasses
  dsimp only at hPasses
  rw [VoiceOp.lookup_apply, hOwner] at hPasses
  cases op with
  | claim guildId other joining =>
    rw [VoiceOp.ownerStep] at hPasses
    by_cases hClaim : g = guildId ∧
        decideVoiceCommand (some owner) other (s.inner.botInVoice cfg g) = .allow
    · rw [if_pos hClaim] at hPasses
      by_cases hSame : owner.clientId = other
      · cases joining with
        | true => exact absurd (congrArg some hSame.symm) hPasses
        | false => exact absurd rfl hPasses
      · have hAllow := hClaim.2
        rw [decideVoiceCommand, if_neg hSame] at hAllow
        split at hAllow
        · rename_i hFree
          rw [Bool.and_eq_true, Bool.not_eq_true', Bool.not_eq_true'] at hFree
          exact ⟨hFree.1, Or.inr (botInVoice_eq_false_iff.mp hFree.2)⟩
        · simp at hAllow
    · rw [if_neg hClaim] at hPasses
      exact absurd rfl hPasses
  | identify other shardId =>
    rw [VoiceOp.ownerStep, Option.map_some, Option.map_some] at hPasses
    split at hPasses <;> exact absurd rfl hPasses
  | botLeave guildId =>
    rw [VoiceOp.ownerStep] at hPasses
    split at hPasses
    · rename_i hg
      by_cases hWants : owner.wantsVoice = true
      · rw [Option.filter_some_pos hWants] at hPasses
        exact absurd rfl hPasses
      · exact ⟨by simpa using hWants, Or.inl (by rw [hg])⟩
    · exact absurd rfl hPasses
  | sweep authorized now =>
    rw [VoiceOp.ownerStep] at hPasses
    by_cases hKept : (owner.wantsVoice || s.inner.botInVoice cfg g) = true
    · have hFilter : (some owner).filter (fun o => o.wantsVoice || s.inner.botInVoice cfg g) =
          some owner := Option.filter_some_pos hKept
      rw [hFilter, Option.map_some, Option.map_some] at hPasses
      split at hPasses <;> exact absurd rfl hPasses
    · rw [Bool.not_eq_true, Bool.or_eq_false_iff] at hKept
      exact ⟨hKept.1, Or.inr (botInVoice_eq_false_iff.mp hKept.2)⟩
  | connected other =>
    rw [VoiceOp.ownerStep, Option.map_some, Option.map_some] at hPasses
    split at hPasses <;> exact absurd rfl hPasses
  | disconnected other now =>
    rw [VoiceOp.ownerStep] at hPasses
    split at hPasses
    · rw [Option.map_some, Option.map_some] at hPasses
      split at hPasses <;> exact absurd rfl hPasses
    · exact absurd rfl hPasses
  | environment shards botUserIdCell => exact absurd rfl hPasses

-- ---------------------------------------------------------------------------
-- All runs
-- ---------------------------------------------------------------------------

theorem marksAreTrue_run {cfg : Config} {init s : VoiceRun} {ops : List VoiceOp}
    (hInit : init.inner.voiceOwners = ∅) (hRun : Runs.exec (step cfg) init ops = some s) :
    s.MarksAreTrue := by
  refine Runs.exec_invariant (fun s op t hMarks hStep => marksAreTrue_step hMarks hStep) ?_ hRun
  intro g owner since hOwner
  rw [hInit, AList.lookup_empty] at hOwner
  simp at hOwner

/-- **Run lemma.** Through every run without a step that gives the guild up, the
owner keeps it. -/
theorem owns_run {cfg : Config} {s u : VoiceRun} {g : Nat} {clientId : Str}
    {ops : List VoiceOp} (hMarks : s.MarksAreTrue) (hOwns : s.Owns g clientId)
    (hKeeps : Runs.Meets (step cfg) (fun s op => ¬ s.GivesUp g clientId op) s ops)
    (hRun : Runs.exec (step cfg) s ops = some u) : u.Owns g clientId := by
  have hBoth : u.MarksAreTrue ∧ u.Owns g clientId :=
    Runs.exec_invariant_of_meets (P := fun s => s.MarksAreTrue ∧ s.Owns g clientId)
      (fun s op t hs hNot hStep =>
        ⟨marksAreTrue_step hs.1 hStep, owns_step hs.1 hs.2 hNot hStep⟩)
      ⟨hMarks, hOwns⟩ hKeeps hRun
  exact hBoth.2

/-- **Exclusive voice ownership.** In every state reached from an empty map:
while a client owns a guild and wants voice, every claim of another client is
denied and changes nothing, a kick changes nothing, and the client keeps the
guild through every further run until a step that gives it up; and the entry
of a guild is removed or passes to another client only in a step in which its
owner does not want voice and the bot's null voice state is being processed or
the bot is known to be out of voice. -/
theorem voice_ownership_exclusive {cfg : Config} {init s : VoiceRun} {ops : List VoiceOp}
    (hInit : init.inner.voiceOwners = ∅) (hRun : Runs.exec (step cfg) init ops = some s)
    (g : Nat) :
    (∀ clientId, s.Owns g clientId →
      (∀ other joining, other ≠ clientId →
        s.inner.claimVoice cfg g other joining = (.deny, s.inner)) ∧
      s.inner.onBotVoiceLeave g = s.inner ∧
      ∀ more u, Runs.Meets (step cfg) (fun s op => ¬ s.GivesUp g clientId op) s more →
        Runs.exec (step cfg) s more = some u → u.Owns g clientId) ∧
    ∀ owner op t, s.inner.voiceOwners.lookup g = some owner → s.step cfg op = some t →
      t.inner.voiceOwner g ≠ some owner.clientId →
      owner.wantsVoice = false ∧ (op = .botLeave g ∨ KnownOutOfVoice cfg s g) := by
  have hMarks := marksAreTrue_run hInit hRun
  refine ⟨fun clientId hOwns => ⟨?_, ?_, ?_⟩, ?_⟩
  · intro other joining hOther
    obtain ⟨owner, hOwner, rfl, hWants⟩ := hOwns
    have hDeny : (s.inner.claimVoice cfg g other joining).1 = .deny := by
      rw [claimVoice_decision, hOwner]
      exact decide_deny_of_wants hWants hOther.symm
    exact Prod.ext hDeny (claimVoice_deny hDeny)
  · obtain ⟨owner, hOwner, -, hWants⟩ := hOwns
    rw [onBotVoiceLeave, hOwner]
    dsimp only
    rw [if_pos hWants]
  · intro more u hKeeps hMore
    exact owns_run hMarks hOwns hKeeps hMore
  · intro owner op t hOwner hStep hPasses
    exact owner_passes_only_when_free hOwner hStep hPasses

/-- After a join of client `a`, a join of client `b` is denied. -/
theorem voice_ownership_exclusive_after_join :
    ((Inner.new [] 1).claimVoice ⟨[], true, true, [], none⟩ 7 ['a'] true).2.claimVoice
        ⟨[], true, true, [], none⟩ 7 ['b'] true =
      (.deny, ((Inner.new [] 1).claimVoice ⟨[], true, true, [], none⟩ 7 ['a'] true).2) :=
  ((@voice_ownership_exclusive _ ⟨Inner.new [] 1, fun _ => none⟩ ⟨_, fun _ => none⟩
    [.claim 7 ['a'] true] rfl rfl 7).1 ['a'] ⟨⟨['a'], none, true⟩, rfl, rfl, rfl⟩).1 ['b'] true
      (by decide)

end VoiceRun

end GatewayProxy
