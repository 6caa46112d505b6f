import GatewayProxy.Gateway.Confinement
import GatewayProxy.Gateway.Isolation
import GatewayProxy.Lib.Progress

/-!
# What a client that has left leaves behind

A client whose rows are gone is in no registry any more. Its connections may still
be open, and the shared state may hold events, a wake attempt, a command window,
sessions and voice owners of its.

Main results:

* `handleInput_departing`: no round of any connection adds to them.
* `departed_leaves_nothing`: over any run, a prune takes what is kept per client and
  a sweep takes the calls, and neither comes back.
-/

namespace GatewayProxy

open Utf8 Assoc GatewayProxy.Inner Runs

/-- Nothing is kept for the client: no event, no wake attempt, no command window. -/
structure Inner.Forgotten (inner : Inner) (c : Str) : Prop where
  buffer : inner.offlineBuffer c = []
  lastWake : inner.lastWakeAttempts.lookup c = none
  window : inner.clientCommandWindows.lookup c = none

/-- The client wants voice in no guild. -/
def Inner.Silent (inner : Inner) (c : Str) : Prop :=
  ∀ g owner, inner.voiceOwners.lookup g = some owner → owner.clientId = c →
    owner.wantsVoice = false

/-- What the state holds for a client only gets less: what is kept per client stays
as it is or goes, each item by itself. -/
structure Departing (c : Str) (inner inner' : Inner) : Prop where
  count : inner'.connectionCount c ≤ inner.connectionCount c
  buffer : inner'.offlineBuffer c = inner.offlineBuffer c ∨ inner'.offlineBuffer c = []
  lastWake : inner'.lastWakeAttempts.lookup c = inner.lastWakeAttempts.lookup c ∨
    inner'.lastWakeAttempts.lookup c = none
  window : inner'.clientCommandWindows.lookup c = inner.clientCommandWindows.lookup c ∨
    inner'.clientCommandWindows.lookup c = none
  noSession : ∀ id session, inner'.sessions.lookup id = some session →
    session.principal = .client c →
    ∃ t, inner.sessions.lookup id = some { session with lastAccessed := t }
  owned : ∀ g owner, inner'.voiceOwners.lookup g = some owner → owner.clientId = c →
    ∃ before, inner.voiceOwners.lookup g = some before ∧ before.clientId = c ∧
      (owner.wantsVoice = true → before.wantsVoice = true)

namespace Departing

variable {c : Str} {inner inner' inner'' : Inner}

theorem refl (c : Str) (inner : Inner) : Departing c inner inner where
  count := le_rfl
  buffer := .inl rfl
  lastWake := .inl rfl
  window := .inl rfl
  noSession := fun _ session h _ => ⟨session.lastAccessed, h⟩
  owned := fun _ owner h hId => ⟨owner, h, hId, id⟩

/-- An item that stays or goes, twice. -/
theorem stays_or_goes {α : Type} {a b d gone : α} (h : b = a ∨ b = gone) (h' : d = b ∨ d = gone) :
    d = a ∨ d = gone := by
  rcases h' with rfl | rfl
  · exact h
  · exact .inr rfl

theorem trans (h : Departing c inner inner') (h' : Departing c inner' inner'') :
    Departing c inner inner'' where
  count := h'.count.trans h.count
  buffer := stays_or_goes h.buffer h'.buffer
  lastWake := stays_or_goes h.lastWake h'.lastWake
  window := stays_or_goes h.window h'.window
  noSession := by
    intro id session hFound hPrincipal
    obtain ⟨t, hFound'⟩ := h'.noSession id session hFound hPrincipal
    exact h.noSession id { session with lastAccessed := t } hFound' hPrincipal
  owned := by
    intro g owner hOwner hId
    obtain ⟨between, hBetween, hId', hWants'⟩ := h'.owned g owner hOwner hId
    obtain ⟨before, hBefore, hId'', hWants⟩ := h.owned g between hBetween hId'
    exact ⟨before, hBefore, hId'', fun hOwns => hWants (hWants' hOwns)⟩

/-- What is not the client's leaves it as it was. -/
theorem of_undisturbed (since : Nat) (h : Undisturbed c since inner inner') :
    Departing c inner inner' where
  count := (congrArg ClientView.connections h.view).le
  buffer := .inl (congrArg ClientView.buffer h.view)
  lastWake := .inl (congrArg ClientView.lastWake h.view)
  window := .inl h.window
  noSession := h.noSession
  owned := fun g owner hOwner hId => ⟨owner, h.notGained g owner hOwner hId, hId, id⟩

theorem forgotten (h : Departing c inner inner') (hForgotten : inner.Forgotten c) :
    inner'.Forgotten c := by
  have hGone : ∀ {α : Type} {a b gone : α}, b = a ∨ b = gone → a = gone → b = gone := by
    intro α a b gone hStays hItem
    exact hStays.elim (fun hSame => hSame.trans hItem) id
  exact ⟨hGone h.buffer hForgotten.buffer, hGone h.lastWake hForgotten.lastWake,
    hGone h.window hForgotten.window⟩

theorem silent (h : Departing c inner inner') (hSilent : inner.Silent c) : inner'.Silent c := by
  intro g owner hOwner hId
  obtain ⟨before, hBefore, hId', hWants⟩ := h.owned g owner hOwner hId
  cases hOwns : owner.wantsVoice with
  | false => rfl
  | true => cases (hSilent g before hBefore hId').symm.trans (hWants hOwns)

end Departing

-- ---------------------------------------------------------------------------
-- A round of a connection
-- ---------------------------------------------------------------------------

section Rounds

variable {cfg : Config} {lib : JsonLib} {env : Env} {conn : Conn} {inner : Inner} {c : Str}

/-- No credentials hold for it. -/
theorem principal_ne_of_gone {clients : Clients} {state : ClientDataState} {token : Str}
    {auth : AuthContext} (hGone : clients.lookup c = none)
    (hAuth : authenticateGatewayToken cfg clients state token = .ok auth) :
    auth.principal ≠ .client c := by
  intro hPrincipal
  obtain ⟨guilds, -, hGuilds⟩ := authenticateGatewayToken_client hAuth hPrincipal
  rw [clientGuilds, hGone] at hGuilds
  cases hGuilds

/-- Commands of a connection of the client are dropped. -/
theorem handleCommand_gone {op : Nat} {payload : Str} (hGone : env.clients.lookup c = none)
    (hScope : conn.commandScope = some c) :
    (handleCommand cfg lib env conn inner op payload).inner = inner := by
  have hExit := handleCommand_exit cfg lib env conn inner op payload
  generalize handleCommand cfg lib env conn inner op payload = reply at hExit ⊢
  cases hExit with
  | closed hSender => rfl
  | direct hSender hNoScope => rfl
  | filtered hScope' => rfl
  | sent hSender hScope' hGuild hRebuilt hSend =>
    obtain rfl := Option.some.inj (hScope.symm.trans hScope')
    rw [clientGuilds, hGone] at hGuild
    exact absurd hGuild (Finset.notMem_empty _)

/-- **Round lemma.** Whoever's connection it is. -/
theorem handleInput_departing {input : ClientInput} (hGone : env.clients.lookup c = none) :
    Departing c inner (handleInput cfg lib env conn inner input).inner := by
  have hFound : ∀ sessionId, Undisturbed c env.now inner (inner.getSession sessionId env.now).2 :=
    undisturbed_getSession le_rfl (Nat.le_add_right _ _)
  unfold handleInput
  split
  · exact .refl c inner
  · exact .refl c inner
  · exact .refl c inner
  · exact .refl c inner
  · rename_i payload
    split
    · exact .refl c inner
    · split
      · exact .refl c inner
      · -- IDENTIFY
        have hExit := handleIdentify_exit cfg lib env conn inner payload
        generalize handleIdentify cfg lib env conn inner payload = reply at hExit ⊢
        cases hExit with
        | accepted hPasses =>
          exact .of_undisturbed env.now (undisturbed_acceptIdentify
            (principal_ne_of_gone hGone hPasses.authenticated) (Nat.le_add_right _ _))
        | refused flow _ => exact .refl c inner
      · -- RESUME
        have hExit := handleResume_exit cfg lib env conn inner payload
        generalize handleResume cfg lib env conn inner payload = reply at hExit ⊢
        cases hExit with
        | @accepted info auth session hPasses =>
          have hOther : session.principal ≠ .client c := fun hPrincipal =>
            principal_ne_of_gone hGone hPasses.authenticated (hPasses.own.symm.trans hPrincipal)
          exact .of_undisturbed env.now (undisturbed_acceptResume hOther (hFound _))
        | unread flow _ => exact .refl c inner
        | rejected reason _ => exact .of_undisturbed env.now (hFound _)
      · by_cases hScope : conn.commandScope = some c
        · rw [handleCommand_gone hGone hScope]
          exact .refl c inner
        · exact .of_undisturbed env.now (undisturbed_handleCommand hScope).1

theorem departing_markClientDisconnected (now : Nat) :
    Departing c inner (inner.markClientDisconnected c now) := by
  have hRest : ∃ counts owners, inner.markClientDisconnected c now =
      { inner with activeClientConnections := counts, voiceOwners := owners } := by
    unfold markClientDisconnected countDisconnected
    split <;> exact ⟨_, _, rfl⟩
  obtain ⟨counts, owners, hEq⟩ := hRest
  refine ⟨?_, .inl ?_, .inl ?_, .inl ?_, fun id session hFound _ => ⟨session.lastAccessed, ?_⟩,
    fun g owner hOwner hId => ?_⟩
  · rw [connectionCount_markClientDisconnected, if_pos rfl]
    exact Nat.sub_le _ 1
  · rw [hEq]
    rfl
  · rw [hEq]
  · rw [hEq]
  · rw [hEq] at hFound
    exact hFound
  · rw [lookup_markClientDisconnected] at hOwner
    split at hOwner
    · obtain ⟨before, hBefore, rfl⟩ := Option.map_eq_some_iff.mp hOwner
      refine ⟨before, hBefore, ?_, ?_⟩
      · split at hId <;> exact hId
      · split <;> exact id
    · exact ⟨owner, hOwner, hId, id⟩

theorem departing_teardown (now : Nat) : Departing c inner (teardown conn inner now) := by
  unfold teardown
  cases hActive : conn.activeClientId with
  | none => exact .refl c inner
  | some a =>
    by_cases hOwn : a = c
    · subst hOwn
      exact departing_markClientDisconnected now
    · exact .of_undisturbed now (undisturbed_markClientDisconnected hOwn)

end Rounds

-- ---------------------------------------------------------------------------
-- The prune and the sweep
-- ---------------------------------------------------------------------------

section Cleanup

variable {cfg : Config} {inner : Inner} {c : Str}

theorem forgotten_prune {valid : Finset Str} (hGone : c ∉ valid) :
    (inner.pruneStaleClientState valid).Forgotten c := by
  have hNone : ∀ {ν : Type} (m : Map Str ν),
      (m.retain fun clientId _ => clientId ∈ valid).lookup c = none := by
    intro ν m
    rw [Map.lookup_retain, decide_eq_false hGone]
    cases m.lookup c <;> rfl
  refine ⟨?_, hNone _, hNone _⟩
  unfold offlineBuffer pruneStaleClientState
  dsimp only
  rw [hNone, Option.getD_none]

theorem departing_prune {valid : Finset Str} (hGone : c ∉ valid) :
    Departing c inner (inner.pruneStaleClientState valid) where
  count := le_rfl
  buffer := .inr (forgotten_prune hGone).buffer
  lastWake := .inr (forgotten_prune hGone).lastWake
  window := .inr (forgotten_prune hGone).window
  noSession := (Departing.refl c inner).noSession
  owned := (Departing.refl c inner).owned

/-- A client that the registry does not have has lost its access everywhere. -/
theorem wantsVoice_sweep {authorized : Map Str (Finset Nat)} {now g : Nat} {owner : VoiceOwner}
    (hGone : authorized.lookup c = none)
    (hOwner : (inner.takeStaleVoiceOwners cfg authorized now).2.voiceOwners.lookup g =
      some owner)
    (hId : owner.clientId = c) :
    owner.wantsVoice = false ∧
      ∃ before, inner.voiceOwners.lookup g = some before ∧ before.clientId = c := by
  rw [lookup_takeStaleVoiceOwners] at hOwner
  obtain ⟨before, hBefore, rfl⟩ := Option.map_eq_some_iff.mp hOwner
  have hSame : before.clientId = c := by
    split at hId <;> exact hId
  have hRevoked : ownerRevoked authorized g before = true := by
    rw [ownerRevoked, hSame, hGone]
  refine ⟨?_, before, (Option.filter_eq_some_iff.mp hBefore).1, hSame⟩
  rw [isStale, hRevoked, Bool.or_true, Bool.and_true]
  split
  · rfl
  · rename_i hNot
    exact Bool.not_eq_true _ ▸ hNot

theorem departing_sweep {authorized : Map Str (Finset Nat)} {now : Nat}
    (hGone : authorized.lookup c = none) :
    Departing c inner (inner.takeStaleVoiceOwners cfg authorized now).2 where
  count := le_rfl
  buffer := .inl rfl
  lastWake := .inl rfl
  window := .inl rfl
  noSession := (Departing.refl c inner).noSession
  owned := by
    intro g owner hOwner hId
    obtain ⟨hSilent, before, hBefore, hSame⟩ := wantsVoice_sweep hGone hOwner hId
    exact ⟨before, hBefore, hSame, fun hWants => by cases hSilent.symm.trans hWants⟩

end Cleanup

-- ---------------------------------------------------------------------------
-- Any run
-- ---------------------------------------------------------------------------

inductive DepartureStep
  /-- of the connections and the proxy's own tasks -/
  | tenancy (a : TenancyStep)
  | sweep (authorized : Map Str (Finset Nat)) (now : Nat)

def departureStep (cfg : Config) (lib : JsonLib) (s : Counting) :
    DepartureStep → Option Counting
  | .tenancy a => tenancyStep cfg lib s a
  | .sweep authorized now => some { s with
      inner := (s.inner.takeStaleVoiceOwners cfg authorized now).2 }

/-- The registry that the step reads does not have the client. -/
def Gone (c : Str) (_ : Counting) : DepartureStep → Prop
  | .tenancy (.connection (.round _ env _)) => env.clients.lookup c = none
  | .tenancy (.event _ _ _ clientId _) => clientId ≠ c
  | .tenancy (.poll _ _ clientId _) => clientId ≠ c
  | .tenancy (.prune validClientIds) => c ∉ validClientIds
  | .sweep authorized _ => authorized.lookup c = none
  | _ => True

section AnyRun

variable {cfg : Config} {lib : JsonLib} {c : Str} {s t : Counting}

/-- **Step lemma.** -/
theorem departing_step {a : DepartureStep} (hGone : Gone c s a)
    (hStep : departureStep cfg lib s a = some t) : Departing c s.inner t.inner := by
  cases a with
  | sweep authorized now =>
    obtain rfl := Option.some.inj hStep
    exact departing_sweep hGone
  | tenancy a =>
    change tenancyStep cfg lib s a = some t at hStep
    cases a with
    | connection a =>
      cases a with
      | accept =>
        obtain rfl := Option.some.inj hStep
        exact .refl c s.inner
      | round i env input =>
        change s.step cfg lib (.round i env input) = some t at hStep
        rw [Counting.step] at hStep
        split at hStep
        · cases hStep
        · dsimp only at hStep
          split at hStep
          · obtain rfl := Option.some.inj hStep
            exact handleInput_departing hGone
          · cases hStep
      | teardown i now =>
        change s.step cfg lib (.teardown i now) = some t at hStep
        rw [Counting.step] at hStep
        split at hStep
        · cases hStep
        · dsimp only at hStep
          split at hStep
          · obtain rfl := Option.some.inj hStep
            exact departing_teardown now
          · cases hStep
      | other inner => cases hStep
    | event event guildId now clientId config =>
      obtain rfl := Option.some.inj hStep
      exact .of_undisturbed now (undisturbed_event hGone)
    | poll systemNow now clientId config =>
      obtain rfl := Option.some.inj hStep
      exact .of_undisturbed now (undisturbed_poll hGone)
    | track payload guildId =>
      obtain rfl := Option.some.inj hStep
      exact .of_undisturbed 0 (undisturbed_track payload guildId)
    | cache shards botUserIdCell =>
      obtain rfl := Option.some.inj hStep
      have hSame := Departing.refl c s.inner
      exact ⟨le_rfl, .inl rfl, .inl rfl, .inl rfl, hSame.noSession, hSame.owned⟩
    | prune validClientIds =>
      obtain rfl := Option.some.inj hStep
      exact departing_prune hGone

/-- **A client that has left leaves nothing behind.** Over any run of connections
of anyone, its own open ones included, of events, polls, voice states, prunes and
sweeps, whose registries do not have it: nothing is added to what the state holds
for it, neither a connection, an event, a wake attempt, a command window, a session
nor a call. Once a prune ran, no event, wake attempt or command window is kept for it;
once a sweep ran, it wants voice in no guild. -/
theorem departed_leaves_nothing {steps : List DepartureStep}
    (hGone : Meets (departureStep cfg lib) (Gone c) s steps)
    (hRun : exec (departureStep cfg lib) s steps = some t) :
    Departing c s.inner t.inner ∧
      (∀ validClientIds, .tenancy (.prune validClientIds) ∈ steps → t.inner.Forgotten c) ∧
      ∀ authorized now, .sweep authorized now ∈ steps → t.inner.Silent c := by
  refine ⟨?_, fun validClientIds hMem => ?_, fun authorized now hMem => ?_⟩
  · refine exec_invariant_of_meets (C := Gone c) (P := fun u => Departing c s.inner u.inner) ?_
      (.refl c s.inner) hGone hRun
    exact fun u a v hU hNot hStep => hU.trans (departing_step hNot hStep)
  · refine exec_established (C := Gone c) (P := fun u => u.inner.Forgotten c) ?_ ?_ hMem hGone hRun
    · intro u v hNot hStep
      obtain rfl := Option.some.inj hStep
      exact forgotten_prune hNot
    · exact fun u a v hU hNot hStep => (departing_step hNot hStep).forgotten hU
  · refine exec_established (C := Gone c) (P := fun u => u.inner.Silent c) ?_ ?_ hMem hGone hRun
    · intro u v hNot hStep
      obtain rfl := Option.some.inj hStep
      exact fun g owner hOwner hId => (wantsVoice_sweep hNot hOwner hId).1
    · exact fun u a v hU hNot hStep => (departing_step hNot hStep).silent hU

end AnyRun

namespace SampleDeparture

/-- Client `d` is gone from the registry, and has a connection, a wake attempt, a
command window and the voice connection of guild 7. -/
def start : Counting where
  inner := { Inner.new [⟨0, none, ⟨[], [], []⟩⟩] 1 with
    activeClientConnections := (∅ : Map Str Nat).insert "d".toList 1
    lastWakeAttempts := (∅ : Map Str Nat).insert "d".toList 3
    clientCommandWindows := (∅ : Map Str (Nat × Nat)).insert "d".toList (3, 1)
    voiceOwners := (∅ : Map Nat VoiceOwner).insert 7 ⟨"d".toList, none, true⟩ }
  connections := [{ Counted.new with
    conn := { Conn.new with
      compressPending := false
      shardSender := some 0
      activeClientId := some "d".toList
      commandScope := some "d".toList } }]

def authorized : Map Str (Finset Nat) := (∅ : Map Str (Finset Nat)).insert "c".toList {7}

/-- It sends a command, and leaves. -/
def steps : List DepartureStep :=
  [.tenancy (.connection (.round 0 Sample.env (.text Sample.requestMembers))),
    .tenancy (.prune {"c".toList}), .tenancy (.connection (.round 0 Sample.env .ended)),
    .tenancy (.connection (.teardown 0 9)),
    .sweep authorized 12]

end SampleDeparture

open SampleDeparture in
theorem departed_leaves_nothing_swept :
    ∃ t, exec (departureStep Sample.config (Sample.lib (0, 1))) start steps = some t ∧
      t.inner.Forgotten "d".toList ∧ t.inner.Silent "d".toList ∧
      t.inner.connectionCount "d".toList ≤ 1 := by
  have hRun : (exec (departureStep Sample.config (Sample.lib (0, 1))) start steps).isSome = true := by
    decide +kernel
  obtain ⟨t, hRun⟩ := Option.isSome_iff_exists.mp hRun
  have hGone : Meets (departureStep Sample.config (Sample.lib (0, 1))) (Gone "d".toList) start
      steps := by
    refine ⟨rfl, fun _ _ => ⟨?_, fun _ _ => ⟨rfl, fun _ _ => ⟨trivial, fun _ _ => ⟨rfl,
      fun _ _ => trivial⟩⟩⟩⟩⟩
    show "d".toList ∉ ({"c".toList} : Finset Str)
    decide
  obtain ⟨hDeparting, hForgotten, hSilent⟩ := departed_leaves_nothing hGone hRun
  refine ⟨t, hRun, hForgotten {"c".toList} ?_, hSilent authorized 12 ?_, hDeparting.count⟩
  · simp [steps]
  · simp [steps]

end GatewayProxy
