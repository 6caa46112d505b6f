import GatewayProxy.Lib.Runs
import GatewayProxy.Source.Sync

/-!
# No final rejection before the first snapshot

An unknown tenant is rejected for good only while the registry counts as
fresh. Until the first database snapshot is in `CLIENTS` the registry holds
the clients of `config.json`, and `last_success` is set in one place only:
between `mark_sync_success` and the write of the snapshot it announces.

Main results:

* `firstInv_step`: what holds until the first snapshot is written.
* `never_invalid_before_snapshot_iff`: when a token of the form `id:secret` is
  not rejected for good before that.
-/

namespace GatewayProxy

open Utf8 Assoc

/-- The stages before a first snapshot is in `CLIENTS`. -/
def Stage.isFirst : Stage → Bool
  | .connecting _ => true
  | .loading load => load != .reconcile
  | .loaded load _ => load != .reconcile
  | .marked load _ => load != .reconcile
  | _ => false

namespace Sync

/-- No snapshot was written yet: the registry is that of `config.json`, and a
sync counts as successful only while its snapshot is about to be written. -/
structure FirstInv (configClients : Clients) (s : Sync) : Prop where
  clients : s.clients = configClients
  stage : s.stage.isFirst = true
  marked : s.lastSuccess ≠ 0 → ∃ load rows, s.stage = .marked load rows

theorem firstInv_new (table : Table) (configClients : Clients) :
    FirstInv configClients (new table configClients) :=
  ⟨rfl, rfl, fun h => absurd rfl h⟩

variable {configClients : Clients} {s t : Sync} {action : Action}

/-- Outside `marked` no sync has succeeded yet. -/
theorem FirstInv.lastSuccess_eq (hInv : FirstInv configClients s)
    (hStage : ∀ load rows, s.stage ≠ .marked load rows) : s.lastSuccess = 0 := by
  by_contra hSuccess
  obtain ⟨load, rows, hMarked⟩ := hInv.marked hSuccess
  exact hStage load rows hMarked

/-- A step that moves on from a stage other than `marked` without touching the
registry or its age. -/
theorem FirstInv.move (hInv : FirstInv configClients s)
    (hStage : ∀ load rows, s.stage ≠ .marked load rows) (hClients : t.clients = s.clients)
    (hSuccess : t.lastSuccess = s.lastSuccess) (hFirst : t.stage.isFirst = true) :
    FirstInv configClients t where
  clients := hClients.trans hInv.clients
  stage := hFirst
  marked := fun h => absurd (hSuccess.trans (hInv.lastSuccess_eq hStage)) h

/-- **Step lemma.** Every step keeps the invariant or writes the first snapshot. -/
theorem firstInv_step (hInv : FirstInv configClients s) (hStep : s.step action = some t) :
    FirstInv configClients t ∨ t.initialSyncReady = true := by
  have hFirst := hInv.stage
  cases steps_of_step hStep with
  | commit hChanges => exact .inl ⟨hInv.clients, hInv.stage, hInv.marked⟩
  | listen hStage => exact .inl (hInv.move (by simp [hStage]) rfl rfl rfl)
  | startPoll hStage => exact .inl (hInv.move (by simp [hStage]) rfl rfl rfl)
  | fail hStage =>
    refine .inl (hInv.move (fun load rows hMarked => ?_) rfl rfl rfl)
    simp [hMarked] at hStage
  | load hStage hAnswers =>
    rw [hStage] at hFirst
    exact .inl (hInv.move (by simp [hStage]) rfl rfl hFirst)
  | markLoad hStage =>
    rw [hStage] at hFirst
    exact .inl ⟨hInv.clients, hFirst, fun _ => ⟨_, _, rfl⟩⟩
  | writeInitial hStage => exact .inr rfl
  | writePoll hStage => exact .inr rfl
  | clear hStage =>
    -- the later stages come after a write
    obtain hStage | hStage := hStage <;> simp [hStage, Stage.isFirst] at hFirst
  | loadFlush hStage _ | check hStage | markFlush hStage | markCheck hStage
  | writeReconcile hStage | writeFlush hStage | receiveFull hStage _ _ | receiveDirty hStage _ _
  | flushNothing hStage | flush hStage | reconcile hStage | startCheck hStage =>
    simp [hStage, Stage.isFirst] at hFirst

/-- A written snapshot stays written. -/
theorem initialSyncReady_step (hReady : s.initialSyncReady = true)
    (hStep : s.step action = some t) : t.initialSyncReady = true := by
  cases steps_of_step hStep with
  | writeInitial _ | writePoll _ => rfl
  | _ => exact hReady

/-- **Run lemma.** Until the first snapshot is written, the invariant holds. -/
theorem firstInv_run {table : Table} {actions : List Action}
    (hRun : Runs.exec step (new table configClients) actions = some s)
    (hReady : s.initialSyncReady = false) : FirstInv configClients s := by
  have hEither : FirstInv configClients s ∨ s.initialSyncReady = true := by
    refine Runs.exec_invariant (P := fun s => FirstInv configClients s ∨ s.initialSyncReady = true)
      ?_ (.inl (firstInv_new table configClients)) hRun
    rintro s action t (hInv | hReady) hStep
    · exact firstInv_step hInv hStep
    · exact .inr (initialSyncReady_step hReady hStep)
  rcases hEither with hInv | hWritten
  · exact hInv
  · rw [hReady] at hWritten
    cases hWritten

/-- What an authentication answers in a state of the sync task. -/
def authenticate (s : Sync) (now : Option Nat) (token : Str) : ClientAuthResult :=
  authenticateClientWithId s.clients (clientDataState true s.lastSuccess now) token

theorem unverified_eq_invalid_iff {lastSuccess : Nat} {now : Option Nat} :
    unverified (clientDataState true lastSuccess now) = .invalid ↔
      lastSuccess ≠ 0 ∧ ∀ n, now = some n → n - lastSuccess ≤ clientDataStaleAfterSecs := by
  unfold clientDataState
  by_cases hNever : lastSuccess = 0
  · simp [hNever, unverified]
  · rw [if_neg (by decide), if_neg hNever]
    cases now with
    | none => simp [unverified, hNever]
    | some n =>
      dsimp only
      by_cases hStale : clientDataStaleAfterSecs < n - lastSuccess
      · rw [if_pos hStale]
        refine iff_of_false (by simp [unverified]) fun h => ?_
        exact absurd (h.2 n rfl) (by omega)
      · rw [if_neg hStale]
        refine iff_of_true rfl ⟨hNever, fun m hm => ?_⟩
        obtain rfl := Option.some.inj hm
        omega

/-- A token of the form `id:secret` is rejected for good exactly when it is not
in the registry and the registry counts as fresh. -/
theorem authenticate_eq_invalid_iff {now : Option Nat} {token id secret : Str}
    (hToken : splitOnce ':' token = some (id, secret)) :
    s.authenticate now token = .invalid ↔
      (s.lastSuccess ≠ 0 ∧ ∀ n, now = some n → n - s.lastSuccess ≤ clientDataStaleAfterSecs) ∧
        ∀ client, s.clients.lookup id = some client → client.secret ≠ secret := by
  rw [← unverified_eq_invalid_iff]
  unfold authenticate authenticateClientWithId
  rw [hToken]
  dsimp only
  by_cases hStale : clientDataState true s.lastSuccess now = .stale
  · rw [if_pos hStale, hStale]
    simp [unverified]
  · rw [if_neg hStale]
    cases hClient : s.clients.lookup id with
    | none => simp
    | some client =>
      dsimp only
      by_cases hSecret : client.secret = secret
      · rw [if_pos hSecret]
        simp [hSecret]
      · rw [if_neg hSecret]
        simp [hSecret]

/-- **When nothing is rejected for good before the first snapshot.** In every
state of every run, with any commits, failures and modes, before the first
database snapshot is in `CLIENTS`: a token of the form `id:secret` is answered
with something else than `Invalid` if and only if the sync task is not between
its `mark_sync_success` and the write that follows, or that mark had no time to
store, or is too old by now, or the token is right for a client of
`config.json`. -/
theorem never_invalid_before_snapshot_iff {table : Table} {actions : List Action}
    (hRun : Runs.exec step (new table configClients) actions = some s)
    (hReady : s.initialSyncReady = false) (now : Option Nat) {token id secret : Str}
    (hToken : splitOnce ':' token = some (id, secret)) :
    s.authenticate now token ≠ .invalid ↔
      (∀ load rows, s.stage ≠ .marked load rows) ∨ s.lastSuccess = 0 ∨
        (∃ n, now = some n ∧ clientDataStaleAfterSecs < n - s.lastSuccess) ∨
          ∃ client, configClients.lookup id = some client ∧ client.secret = secret := by
  have hInv := firstInv_run hRun hReady
  rw [Ne, authenticate_eq_invalid_iff hToken, hInv.clients, not_and_or, not_and_or, not_not]
  constructor
  · rintro ((hNever | hOld) | hKnown)
    · exact .inr (.inl hNever)
    · push Not at hOld
      exact .inr (.inr (.inl hOld))
    · push Not at hKnown
      exact .inr (.inr (.inr hKnown))
  · rintro (hStage | hNever | ⟨n, hNow, hOld⟩ | ⟨client, hClient, hSecret⟩)
    · exact .inl (.inl (hInv.lastSuccess_eq hStage))
    · exact .inl (.inl hNever)
    · refine .inl (.inr fun h => ?_)
      exact absurd (h n hNow) (by omega)
    · exact .inr fun h => h client hClient hSecret

end Sync

namespace SampleSync

/-- Client `a` with secret `s` is in the database, and not in `config.json`. -/
def table : Table := [⟨⟨"a".toList, "s".toList, "7".toList, none, none⟩, none, none⟩]

/-- The first snapshot is loaded and marked at second 1000, and not yet written. -/
def untilMarked : List Sync.Action := [.connect, .answer table, .markSuccess (some 1000)]

def marked : Sync :=
  { Sync.new table ∅ with listening := true, lastSuccess := 1000, stage := .marked .initial table }

def queried : Sync := { Sync.new table ∅ with listening := true, stage := .loading .initial }

end SampleSync

open SampleSync in
/-- While the first snapshot is being queried, nothing is rejected for good. -/
theorem never_invalid_before_snapshot_iff_querying :
    queried.authenticate (some 1000) "a:s".toList ≠ .invalid := by
  have hRun : Runs.exec Sync.step (Sync.new table ∅) [.connect] = some queried := rfl
  exact (Sync.never_invalid_before_snapshot_iff hRun rfl (some 1000) rfl).mpr (.inl nofun)

open SampleSync in
/-- The client of the database is rejected for good when it authenticates
between the mark and the write. -/
theorem invalid_before_snapshot :
    Runs.exec Sync.step (Sync.new table ∅) untilMarked = some marked ∧
      marked.initialSyncReady = false ∧
      marked.authenticate (some 1000) "a:s".toList = .invalid := by
  refine ⟨?_, rfl, by decide⟩
  rfl

end GatewayProxy
