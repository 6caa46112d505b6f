import GatewayProxy.Voice.Marks

/-!
# The grace period of a voice owner

A client that loses its connections keeps its calls for a minute. The sweep
measures that from the mark on the owner, which is set in a step of its own, some
time after the client was counted out. Here the runs of `MarkSystem` also remember
at which moments a client lost its last connection.

Main results:

* `sinceGone_step`: every mark is later than some such moment.
* `freshMarks_step`: a mark that is set in time is later than the last one.
* `voice_grace`: what a sweep takes from whom, and whom it leaves.
-/

namespace GatewayProxy

open Utf8 Assoc GatewayProxy.Inner Runs

structure GraceSystem where
  marks : MarkSystem
  /-- when the client's last connection was counted out, newest first -/
  gone : Str → List Nat

/-- A step and the moment at which it is taken. -/
structure GraceStep where
  now : Nat
  action : MarkStep

namespace GraceSystem

def new (shards : List Shard) (shardCount : Nat) : GraceSystem :=
  ⟨.new shards shardCount, fun _ => []⟩

/-- The moments after a step. -/
def goneAfter (s : GraceSystem) (a : GraceStep) : Str → List Nat :=
  match a.action with
  | .countDisconnected c =>
    if s.marks.inner.connectionCount c ≤ 1 then Function.update s.gone c (a.now :: s.gone c)
    else s.gone
  | _ => s.gone

/-- The clock of a mark was read after its client had been counted out. -/
def Clocked (s : GraceSystem) : MarkStep → Prop
  | .setMark c at' => ∃ t ∈ s.gone c, t ≤ at'
  | _ => True

instance (s : GraceSystem) (action : MarkStep) : Decidable (s.Clocked action) := by
  cases action <;> unfold Clocked <;> infer_instance

def step (cfg : Config) (s : GraceSystem) (a : GraceStep) : Option GraceSystem :=
  if s.Clocked a.action then
    (s.marks.step cfg a.action).map fun marks => ⟨marks, s.goneAfter a⟩
  else none

/-- The mark is set before a new connection has cleared it, and its clock was not
read before the client lost its last connection; or it marks nothing. -/
def Timely (s : GraceSystem) (a : GraceStep) : Prop :=
  match a.action with
  | .setMark c at' =>
    (s.marks.inner.connectionCount c = 0 ∧ ∀ t ∈ (s.gone c).head?, t ≤ at') ∨
      0 < s.marks.connecting c ∨ ¬ s.marks.OwnsVoice c
  | _ => True

/-- Each mark comes after a moment at which its client was gone. -/
def SinceGone (s : GraceSystem) : Prop :=
  ∀ g owner, s.marks.inner.voiceOwners.lookup g = some owner →
    ∀ at' ∈ owner.disconnectedAt, ∃ t ∈ s.gone owner.clientId, t ≤ at'

/-- The mark of a client that is gone comes after the moment at which it went. -/
def FreshMarks (s : GraceSystem) : Prop :=
  ∀ g owner, s.marks.inner.voiceOwners.lookup g = some owner →
    s.marks.inner.connectionCount owner.clientId = 0 →
    ∀ at' ∈ owner.disconnectedAt, ∀ t ∈ (s.gone owner.clientId).head?, t ≤ at'

theorem sinceGone_new (shards : List Shard) (shardCount : Nat) :
    (new shards shardCount).SinceGone := by
  intro g owner hOwner
  cases hOwner

theorem freshMarks_new (shards : List Shard) (shardCount : Nat) :
    (new shards shardCount).FreshMarks := by
  intro g owner hOwner
  cases hOwner

variable {cfg : Config} {s t : GraceSystem} {a : GraceStep}

theorem step_eq_some (hStep : s.step cfg a = some t) :
    s.Clocked a.action ∧ s.marks.step cfg a.action = some t.marks ∧ t.gone = s.goneAfter a := by
  unfold step at hStep
  split at hStep
  · rename_i hClocked
    obtain ⟨marks, hMarks, rfl⟩ := Option.map_eq_some_iff.mp hStep
    exact ⟨hClocked, hMarks, rfl⟩
  · cases hStep

/-- No moment is forgotten. -/
theorem mem_goneAfter {c : Str} {now : Nat} (h : now ∈ s.gone c) (a : GraceStep) :
    now ∈ s.goneAfter a c := by
  obtain ⟨moment, action⟩ := a
  cases action with
  | countDisconnected client =>
    show now ∈ (if s.marks.inner.connectionCount client ≤ 1 then
      Function.update s.gone client (moment :: s.gone client) else s.gone) c
    split
    · by_cases hClient : c = client
      · rw [hClient, Function.update_self]
        exact List.mem_cons_of_mem _ (hClient ▸ h)
      · rw [Function.update_of_ne hClient]
        exact h
    · exact h
  | _ => exact h

/-- Where the mark of an owner comes from: it was there, was taken back, or is set
by this step. -/
theorem mark_cases {marks marks' : MarkSystem} {action : MarkStep}
    (hStep : marks.step cfg action = some marks') {g : Nat} {owner : VoiceOwner}
    (hOwner : marks'.inner.voiceOwners.lookup g = some owner) {at' : Nat}
    (hMark : owner.disconnectedAt = some at') :
    (∃ old, marks.inner.voiceOwners.lookup g = some old ∧ old.clientId = owner.clientId ∧
      old.disconnectedAt = some at') ∨
    (action = .setMark owner.clientId at' ∧ marks.OwnsVoice owner.clientId) := by
  cases action with
  | countConnected c =>
    obtain rfl := Option.some.inj hStep
    exact .inl ⟨owner, hOwner, rfl, hMark⟩
  | clearMark c =>
    rw [MarkSystem.step] at hStep
    split at hStep
    · obtain rfl := Option.some.inj hStep
      obtain ⟨old, hOld, hId, hAt⟩ := MarkSystem.owner_setVoiceOwnerDisconnected hOwner
      rw [hAt] at hMark
      split at hMark
      · cases hMark
      · exact .inl ⟨old, hOld, hId.symm, hMark⟩
    · cases hStep
  | countDisconnected c =>
    rw [MarkSystem.step] at hStep
    split at hStep
    · obtain rfl := Option.some.inj hStep
      rw [countDisconnected_voiceOwners] at hOwner
      exact .inl ⟨owner, hOwner, rfl, hMark⟩
    · cases hStep
  | setMark c now =>
    rw [MarkSystem.step] at hStep
    split at hStep
    · obtain rfl := Option.some.inj hStep
      obtain ⟨old, hOld, hId, hAt⟩ := MarkSystem.owner_setVoiceOwnerDisconnected hOwner
      rw [hAt] at hMark
      split at hMark
      · rename_i hClient
        obtain rfl := Option.some.inj hMark
        rw [hId, hClient]
        exact .inr ⟨rfl, g, old, hOld, hClient⟩
      · exact .inl ⟨old, hOld, hId.symm, hMark⟩
    · cases hStep
  | voice op =>
    rw [MarkSystem.step] at hStep
    split at hStep
    · rename_i hOp
      obtain rfl := Option.some.inj hStep
      dsimp only at hOwner
      rw [VoiceOp.lookup_apply] at hOwner
      rcases VoiceOp.ownerStep_eq_some hOp.1 hOwner with ⟨clientId, -, rfl⟩ | ⟨old, hOld, hId, hAt⟩
      · cases hMark
      · exact .inl ⟨old, hOld, hId.symm, hAt.symm.trans hMark⟩
    · cases hStep

/-- **Step lemma.** Whatever the order of the halves. -/
theorem sinceGone_step (hInv : s.SinceGone) (hStep : s.step cfg a = some t) : t.SinceGone := by
  obtain ⟨hClocked, hMarks, hGone⟩ := step_eq_some hStep
  intro g owner hOwner at' hMark
  rw [hGone]
  rcases mark_cases hMarks hOwner hMark with ⟨old, hOld, hId, hAt⟩ | ⟨hAction, -⟩
  · obtain ⟨moment, hMem, hLe⟩ := hInv g old hOld at' hAt
    exact ⟨moment, mem_goneAfter (hId ▸ hMem) a, hLe⟩
  · rw [hAction] at hClocked
    obtain ⟨moment, hMem, hLe⟩ := hClocked
    exact ⟨moment, mem_goneAfter hMem a, hLe⟩

theorem Timely.inTime (h : s.Timely a) : s.marks.InTime a.action := by
  unfold Timely at h
  unfold MarkSystem.InTime
  cases hAction : a.action with
  | setMark c at' =>
    rw [hAction] at h
    rcases h with ⟨hCount, -⟩ | hOther
    · exact .inl hCount
    · exact .inr hOther
  | _ => trivial

/-- The count of a client that is gone after a step, and its moments: it was gone
before, or this step counted its last connection out. -/
theorem gone_cases {c : Str} (hCounted : s.marks.Counted) (hStep : s.step cfg a = some t)
    (hZero : t.marks.inner.connectionCount c = 0) :
    (s.marks.inner.connectionCount c = 0 ∧ t.gone c = s.gone c) ∨
    (a.action = .countDisconnected c ∧ s.marks.connecting c = 0 ∧ 0 < s.marks.connected c) := by
  obtain ⟨-, hMarks, hGone⟩ := step_eq_some hStep
  have hCount := hCounted c
  rw [hGone]
  unfold goneAfter
  cases hAction : a.action with
  | countConnected client =>
    rw [hAction] at hMarks
    obtain hMarks := Option.some.inj hMarks
    rw [← hMarks] at hZero
    dsimp only at hZero ⊢
    rw [connectionCount_countConnected] at hZero
    split at hZero
    · omega
    · exact .inl ⟨hZero, rfl⟩
  | clearMark client =>
    rw [hAction, MarkSystem.step] at hMarks
    split at hMarks
    · obtain hMarks := Option.some.inj hMarks
      rw [← hMarks] at hZero
      exact .inl ⟨hZero, rfl⟩
    · cases hMarks
  | countDisconnected client =>
    rw [hAction, MarkSystem.step] at hMarks
    split at hMarks
    · rename_i hConnected
      obtain hMarks := Option.some.inj hMarks
      rw [← hMarks] at hZero
      dsimp only at hZero ⊢
      rw [connectionCount_countDisconnected] at hZero
      by_cases hClient : c = client
      · subst hClient
        rw [if_pos rfl] at hZero
        exact .inr ⟨rfl, by omega, hConnected⟩
      · rw [if_neg hClient] at hZero
        refine .inl ⟨hZero, ?_⟩
        split
        · exact Function.update_of_ne hClient ..
        · rfl
    · cases hMarks
  | setMark client now =>
    rw [hAction, MarkSystem.step] at hMarks
    split at hMarks
    · obtain hMarks := Option.some.inj hMarks
      rw [← hMarks] at hZero
      exact .inl ⟨hZero, rfl⟩
    · cases hMarks
  | voice op =>
    rw [hAction, MarkSystem.step] at hMarks
    split at hMarks
    · rename_i hOp
      obtain hMarks := Option.some.inj hMarks
      rw [← hMarks] at hZero
      dsimp only at hZero ⊢
      rw [MarkSystem.connectionCount_apply hOp.1] at hZero
      exact .inl ⟨hZero, rfl⟩
    · cases hMarks

/-- **Step lemma.** With every mark set in time. -/
theorem freshMarks_step (hInv : s.marks.MarksInv) (hFresh : s.FreshMarks) (hTimely : s.Timely a)
    (hStep : s.step cfg a = some t) : t.FreshMarks := by
  obtain ⟨-, hMarks, -⟩ := step_eq_some hStep
  intro g owner hOwner hZero at' hMark
  rcases mark_cases hMarks hOwner hMark with ⟨old, hOld, hId, hAt⟩ | ⟨hAction, hOwns⟩
  · rcases gone_cases hInv.counted hStep hZero with ⟨hBefore, hGone⟩ | ⟨-, hNone, hSome⟩
    · rw [hGone]
      rw [← hId] at hBefore ⊢
      exact hFresh g old hOld hBefore at' hAt
    · -- the last connection had cleared its marks when it was counted out
      rw [← hId] at hNone hSome
      cases (hInv.cleared g old hOld hNone hSome).symm.trans hAt
  · rcases gone_cases hInv.counted hStep hZero with ⟨hBefore, hGone⟩ | ⟨hOther, -⟩
    · rw [hGone]
      unfold Timely at hTimely
      rw [hAction] at hTimely
      rcases hTimely with ⟨-, hLater⟩ | hConnecting | hNothing
      · exact hLater
      · have hCount := hInv.counted owner.clientId
        omega
      · exact absurd hOwns hNothing
    · cases hAction.symm.trans hOther

-- ---------------------------------------------------------------------------
-- A sweep
-- ---------------------------------------------------------------------------

/-- An expired owner has a mark of a minute ago. -/
theorem mark_of_expired {owner : VoiceOwner} {now : Nat} (h : ownerExpired now owner = true) :
    ∃ at', owner.disconnectedAt = some at' ∧ at' + voiceOwnerGrace ≤ now := by
  unfold ownerExpired at h
  split at h
  · rename_i at' hMark
    have hLe := of_decide_eq_true h
    have hPos : 0 < voiceOwnerGrace := by decide
    exact ⟨at', hMark, by omega⟩
  · cases h

/-- The owner is taken the guild for good reason: it has lost its access, or it has
been gone for a minute. -/
def GivenUp (s : GraceSystem) (inTime : Prop) (authorized : Map Str (Finset Nat)) (now g : Nat)
    (owner : VoiceOwner) : Prop :=
  ownerRevoked authorized g owner = true ∨
    (∃ moment ∈ s.gone owner.clientId, moment + voiceOwnerGrace ≤ now) ∧
    (inTime → s.marks.connecting owner.clientId = 0 →
      s.marks.inner.connectionCount owner.clientId = 0 ∧
        ∀ moment ∈ (s.gone owner.clientId).head?, moment + voiceOwnerGrace ≤ now)

/-- **The grace period.** At any moment of any run, with any registry: a sweep
takes a guild only from an owner that wants it and has lost its access or was
without a connection at some moment at least a minute ago. If all marks were set
in time, and no connection of it is being counted in, then it is without one now,
and went at least a minute ago. Who still wants a guild after the sweep has
access to it, and no mark of a minute ago. -/
theorem voice_grace (cfg : Config) {shards : List Shard} {shardCount : Nat}
    {steps : List GraceStep} (hRun : exec (step cfg) (new shards shardCount) steps = some s)
    (authorized : Map Str (Finset Nat)) (now : Nat) :
    (∀ g ∈ (s.marks.inner.takeStaleVoiceOwners cfg authorized now).1,
      ∃ owner, s.marks.inner.voiceOwners.lookup g = some owner ∧ owner.wantsVoice = true ∧
        s.GivenUp (Meets (step cfg) Timely (new shards shardCount) steps) authorized now g owner) ∧
    ∀ g owner,
      (s.marks.inner.takeStaleVoiceOwners cfg authorized now).2.voiceOwners.lookup g =
        some owner → owner.wantsVoice = true →
      ownerRevoked authorized g owner = false ∧
        ∀ at' ∈ owner.disconnectedAt, now < at' + voiceOwnerGrace := by
  constructor
  · intro g hTaken
    obtain ⟨owner, hKept, hStale⟩ := Map.mem_keysWhere.mp hTaken
    rw [Map.lookup_retain] at hKept
    obtain ⟨hOwner, -⟩ := Option.filter_eq_some_iff.mp hKept
    rw [isStale, Bool.and_eq_true, Bool.or_eq_true] at hStale
    refine ⟨owner, hOwner, hStale.1, ?_⟩
    rcases hStale.2 with hExpired | hRevoked
    · obtain ⟨at', hMark, hLate⟩ := mark_of_expired hExpired
      refine .inr ⟨?_, fun hMeets hNone => ?_⟩
      · have hSince : s.SinceGone := exec_invariant (fun _ _ _ => sinceGone_step)
          (sinceGone_new shards shardCount) hRun
        obtain ⟨moment, hMem, hLe⟩ := hSince g owner hOwner at' hMark
        exact ⟨moment, hMem, by omega⟩
      · have hBoth : s.marks.MarksInv ∧ s.FreshMarks := by
          refine exec_invariant_of_meets (P := fun s => s.marks.MarksInv ∧ s.FreshMarks)
            (fun s a t hInv hTimely hStep => ⟨?_, freshMarks_step hInv.1 hInv.2 hTimely hStep⟩)
            ⟨MarkSystem.marksInv_new shards shardCount, freshMarks_new shards shardCount⟩
            hMeets hRun
          exact MarkSystem.marksInv_step hInv.1 hTimely.inTime (step_eq_some hStep).2.1
        have hCount := hBoth.1.counted owner.clientId
        have hZero : s.marks.inner.connectionCount owner.clientId = 0 := by
          by_contra hLive
          cases (hBoth.1.cleared g owner hOwner hNone (by omega)).symm.trans hMark
        refine ⟨hZero, fun moment hMoment => ?_⟩
        have hLe := hBoth.2 g owner hOwner hZero at' hMark moment hMoment
        omega
    · exact .inl hRevoked
  · intro g owner hOwner hWants
    rw [lookup_takeStaleVoiceOwners] at hOwner
    obtain ⟨old, -, hOld⟩ := Option.map_eq_some_iff.mp hOwner
    split at hOld
    · rw [← hOld] at hWants
      cases hWants
    · rename_i hStale
      subst hOld
      rw [isStale, hWants, Bool.true_and, Bool.or_eq_true, not_or, Bool.not_eq_true,
        Bool.not_eq_true] at hStale
      refine ⟨hStale.2, fun at' hMark => ?_⟩
      have hNot := hStale.1
      rw [ownerExpired, Option.mem_def.mp hMark] at hNot
      have hLt := of_decide_eq_false hNot
      omega

namespace SampleGrace

/-- Client `a` of guild 7 joins voice and is gone at moment 10; the clock of its mark
is read at 12. -/
def steps : List GraceStep :=
  [⟨0, .countConnected ['a']⟩, ⟨1, .clearMark ['a']⟩, ⟨2, .voice (.claim 7 ['a'] true)⟩,
    ⟨10, .countDisconnected ['a']⟩, ⟨13, .setMark ['a'] 12⟩]

def registry : Map Str (Finset Nat) := (∅ : Map Str (Finset Nat)).insert ['a'] {7}

/-- The guilds that a sweep takes. -/
def taken (now : Nat) (s : GraceSystem) : List Nat :=
  (s.marks.inner.takeStaleVoiceOwners MarkSystem.SampleMarks.config registry now).1

end SampleGrace

open SampleGrace in
/-- A minute after its mark, the sweep takes the guild. -/
theorem voice_grace_expired :
    ∃ s owner, exec (step MarkSystem.SampleMarks.config) (new [⟨0, none, ⟨[], [], []⟩⟩] 1) steps =
        some s ∧ taken 60012 s = [7] ∧
      s.GivenUp (Meets (step MarkSystem.SampleMarks.config) Timely (new [⟨0, none, ⟨[], [], []⟩⟩] 1)
        steps) registry 60012 7 owner := by
  have hTaken : (exec (step MarkSystem.SampleMarks.config) (new [⟨0, none, ⟨[], [], []⟩⟩] 1)
      steps).map (taken 60012) = some [7] := by
    decide +kernel
  obtain ⟨s, hRun, hList⟩ := Option.map_eq_some_iff.mp hTaken
  have hMem : 7 ∈ taken 60012 s := hList ▸ List.mem_singleton_self 7
  obtain ⟨owner, -, -, hGivenUp⟩ :=
    (voice_grace MarkSystem.SampleMarks.config hRun registry 60012).1 7 hMem
  exact ⟨s, owner, hRun, hList, hGivenUp⟩

end GraceSystem

end GatewayProxy
