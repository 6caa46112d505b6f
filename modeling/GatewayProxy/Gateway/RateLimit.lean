import GatewayProxy.Lib.FixedWindow
import GatewayProxy.Source.State

/-!
# The command rate limit

`allow_client_command` keeps one window for each client. In a run its calls are
mixed with the pruning of clients that left the registry and with everything
else the proxy does. To one client the run is a fixed window on the times of its
own calls.

Main results:

* `allowClientCommand_hit`: a call is a hit of the client's window.
* `answers_own`: the answers to a client depend on the times of its calls only.
* `command_rate_limit`: the bound on intervals, refusals and independence.
-/

namespace GatewayProxy

open Utf8 Assoc FixedWindow

-- ---------------------------------------------------------------------------
-- One call
-- ---------------------------------------------------------------------------

def Inner.commandWindow (inner : Inner) (clientId : Str) : Option Window :=
  (inner.clientCommandWindows.lookup clientId).map fun entry => ⟨entry.1, entry.2⟩

section Call

variable {inner : Inner} {clientId : Str}

/-- A call is a hit of the window of its client. -/
theorem allowClientCommand_hit (inner : Inner) (clientId : Str) (limit window now : Nat) :
    (inner.allowClientCommand clientId limit window now).1 =
      (hit limit window (inner.commandWindow clientId) now).1 ∧
    (inner.allowClientCommand clientId limit window now).2.commandWindow clientId =
      some (hit limit window (inner.commandWindow clientId) now).2 := by
  have hCurrent : ∀ entry : Nat × Nat,
      (if window ≤ now - entry.1 then (now, 0) else entry) =
        ((current window (some ⟨entry.1, entry.2⟩) now).start,
          (current window (some ⟨entry.1, entry.2⟩) now).count) := by
    intro entry
    unfold current
    dsimp only
    split <;> rfl
  have hNone : current window none now = current window (some ⟨now, 0⟩) now := by
    unfold current
    dsimp only
    split <;> rfl
  have hStored : current window (inner.commandWindow clientId) now =
      current window (some ⟨((inner.clientCommandWindows.lookup clientId).getD (now, 0)).1,
        ((inner.clientCommandWindows.lookup clientId).getD (now, 0)).2⟩) now := by
    unfold Inner.commandWindow
    cases inner.clientCommandWindows.lookup clientId with
    | none => exact hNone
    | some entry => rfl
  unfold Inner.allowClientCommand hit
  rw [hStored]
  dsimp only
  rw [hCurrent]
  generalize current window _ now = w
  by_cases hFull : limit ≤ w.count
  · rw [if_pos hFull, if_pos hFull]
    refine ⟨rfl, ?_⟩
    unfold Inner.commandWindow
    rw [Map.lookup_insert_eq, if_pos rfl]
    rfl
  · rw [if_neg hFull, if_neg hFull]
    refine ⟨rfl, ?_⟩
    unfold Inner.commandWindow
    rw [Map.lookup_insert_eq, if_pos rfl]
    rfl

/-- A call leaves the windows of other clients alone. -/
theorem commandWindow_call_ne {other : Str} (hOther : clientId ≠ other)
    (limit window now : Nat) :
    (inner.allowClientCommand other limit window now).2.commandWindow clientId =
      inner.commandWindow clientId := by
  have hInsert : ∃ entry, (inner.allowClientCommand other limit window now).2.clientCommandWindows =
      inner.clientCommandWindows.insert other entry := by
    unfold Inner.allowClientCommand
    dsimp only
    -- a new window or the old one, at the limit or below it
    split <;> split <;> exact ⟨_, rfl⟩
  obtain ⟨entry, hEntry⟩ := hInsert
  unfold Inner.commandWindow
  rw [hEntry, Map.lookup_insert_eq, if_neg hOther]

/-- A client in the registry keeps its window. -/
theorem commandWindow_prune {validClientIds : Finset Str} (hValid : clientId ∈ validClientIds) :
    (inner.pruneStaleClientState validClientIds).commandWindow clientId =
      inner.commandWindow clientId := by
  unfold Inner.pruneStaleClientState Inner.commandWindow
  dsimp only
  rw [Map.lookup_retain]
  cases inner.clientCommandWindows.lookup clientId with
  | none => rfl
  | some entry => simp [Option.filter, hValid]

end Call

-- ---------------------------------------------------------------------------
-- Runs
-- ---------------------------------------------------------------------------

/-- What happens between the proxy and the windows: a call, a pruning, and
anything that leaves the windows alone. -/
inductive CommandAct
  | call (clientId : Str) (now : Nat)
  | prune (validClientIds : Finset Str)
  | other (act : Inner → Inner)
      (hWindows : ∀ inner, (act inner).clientCommandWindows = inner.clientCommandWindows)

structure CommandAnswer where
  clientId : Str
  now : Nat
  allowed : Bool
  deriving DecidableEq

/-- The answers to the calls of a run, in order. -/
def answers (limit window : Nat) : Inner → List CommandAct → List CommandAnswer
  | _, [] => []
  | inner, .call clientId now :: acts =>
    let answer := inner.allowClientCommand clientId limit window now
    ⟨clientId, now, answer.1⟩ :: answers limit window answer.2 acts
  | inner, .prune validClientIds :: acts =>
    answers limit window (inner.pruneStaleClientState validClientIds) acts
  | inner, .other act _ :: acts => answers limit window (act inner) acts

/-- The time of a call, if the client makes it. -/
def CommandAct.ownTime (clientId : Str) : CommandAct → Option Nat
  | .call caller now => if caller = clientId then some now else none
  | .prune _ => none
  | .other _ _ => none

def ownTimes (clientId : Str) (acts : List CommandAct) : List Nat :=
  acts.filterMap (CommandAct.ownTime clientId)

/-- The client stays in the registry. -/
def StaysRegistered (clientId : Str) (acts : List CommandAct) : Prop :=
  ∀ validClientIds, .prune validClientIds ∈ acts → clientId ∈ validClientIds

def CommandAnswer.isOf (clientId : Str) (answer : CommandAnswer) : Bool :=
  answer.clientId = clientId

theorem CommandAnswer.isOf_self (clientId : Str) (now : Nat) (allowed : Bool) :
    CommandAnswer.isOf clientId ⟨clientId, now, allowed⟩ = true := decide_eq_true rfl

/-- An allowed call of the client at one of the times. -/
def CommandAnswer.allowedIn (clientId : Str) (I : Nat → Bool) (answer : CommandAnswer) : Bool :=
  answer.isOf clientId && answer.allowed && I answer.now

section Run

variable {limit window : Nat} {inner : Inner} {acts : List CommandAct} {clientId : Str}

theorem StaysRegistered.tail {act : CommandAct} (h : StaysRegistered clientId (act :: acts)) :
    StaysRegistered clientId acts :=
  fun validClientIds hMem => h validClientIds (.tail _ hMem)

/-- **A client's answers.** They are those of a window of its own on the times of its
calls. -/
theorem answers_own (limit window : Nat) (hKept : StaysRegistered clientId acts) :
    (answers limit window inner acts).filter (·.isOf clientId) =
      (log limit window (inner.commandWindow clientId) (ownTimes clientId acts)).map
        fun entry => ⟨clientId, entry.1, entry.2⟩ := by
  induction acts generalizing inner with
  | nil => rfl
  | cons act acts ih =>
    match act with
    | .call caller now =>
      show List.filter _ (⟨caller, now, _⟩ :: answers limit window _ acts) = _
      by_cases hCaller : caller = clientId
      · subst hCaller
        have hOwn : ownTimes caller (.call caller now :: acts) = now :: ownTimes caller acts :=
          List.filterMap_cons_some (if_pos rfl)
        obtain ⟨hAnswer, hNext⟩ := allowClientCommand_hit inner caller limit window now
        rw [List.filter_cons_of_pos (CommandAnswer.isOf_self ..), ih hKept.tail, hNext, hAnswer,
          hOwn]
        rfl
      · have hOwn : ownTimes clientId (.call caller now :: acts) = ownTimes clientId acts :=
          List.filterMap_cons_none (if_neg hCaller)
        have hNot : ¬ CommandAnswer.isOf clientId ⟨caller, now,
            (inner.allowClientCommand caller limit window now).1⟩ = true := by
          simp [CommandAnswer.isOf, hCaller]
        rw [List.filter_cons_of_neg hNot, ih hKept.tail, hOwn,
          commandWindow_call_ne (Ne.symm hCaller)]
    | .prune validClientIds =>
      show (answers limit window (inner.pruneStaleClientState validClientIds) acts).filter _ = _
      rw [ih hKept.tail, commandWindow_prune (hKept validClientIds (.head _))]
      rfl
    | .other act hWindows =>
      have hSame : (act inner).commandWindow clientId = inner.commandWindow clientId := by
        unfold Inner.commandWindow
        rw [hWindows]
      show (answers limit window (act inner) acts).filter _ = _
      rw [ih hKept.tail, hSame]
      rfl

/-- Counting the allowed calls of a client among answers that come from a log. -/
theorem countP_allowedIn {replies : List CommandAnswer} {hits : List (Nat × Bool)}
    (h : replies.filter (·.isOf clientId) = hits.map fun entry => ⟨clientId, entry.1, entry.2⟩)
    (I : Nat → Bool) : replies.countP (·.allowedIn clientId I) = (admitted hits).countP I := by
  have hOwn : replies.countP (·.allowedIn clientId I) =
      (replies.filter (·.isOf clientId)).countP fun answer => answer.allowed && I answer.now := by
    rw [List.countP_filter]
    refine List.countP_congr fun answer _ => ?_
    simp only [CommandAnswer.allowedIn, Bool.and_eq_true]
    exact ⟨fun h => ⟨⟨h.1.2, h.2⟩, h.1.1⟩, fun h => ⟨⟨h.2, h.1.1⟩, h.1.2⟩⟩
  rw [hOwn, h, List.countP_map, admitted, List.countP_map, List.countP_filter]
  refine List.countP_congr fun entry _ => ?_
  simp only [Function.comp_apply, Bool.and_eq_true]
  exact And.comm

/-- Times in an interval of the length of a window are close. -/
theorem close_interval (window a : Nat) :
    Close window (fun t => decide (a ≤ t ∧ t < a + window)) ∧
      Close window (fun t => decide (a < t ∧ t ≤ a + window)) := by
  constructor
  · intro x y hx hy
    have hx := of_decide_eq_true hx
    have hy := of_decide_eq_true hy
    omega
  · intro x y hx hy
    have hx := of_decide_eq_true hx
    have hy := of_decide_eq_true hy
    omega

/-- **The command rate limit.** In a run from a state in which the client has no
window, with its calls at non-decreasing times: an interval of the length of a window
has at most `2 * limit - 1` allowed calls of the client; a call is refused only when
`limit` were allowed later than a window before it; and another run with the same
calls of the client has the same answers to them. -/
theorem command_rate_limit (hLimit : 1 ≤ limit) (hWindow : 0 < window)
    (hNew : inner.clientCommandWindows.lookup clientId = none)
    (hKept : StaysRegistered clientId acts)
    (hTimes : (ownTimes clientId acts).Pairwise (· ≤ ·)) :
    (∀ a, (answers limit window inner acts).countP
        (·.allowedIn clientId fun t => decide (a ≤ t ∧ t < a + window)) ≤ 2 * limit - 1 ∧
      (answers limit window inner acts).countP
        (·.allowedIn clientId fun t => decide (a < t ∧ t ≤ a + window)) ≤ 2 * limit - 1) ∧
    (∀ before after now,
      answers limit window inner acts = before ++ ⟨clientId, now, false⟩ :: after →
      limit ≤ before.countP (·.allowedIn clientId fun t => decide (now < t + window))) ∧
    ∀ inner' acts', inner'.clientCommandWindows.lookup clientId = none →
      StaysRegistered clientId acts' → ownTimes clientId acts' = ownTimes clientId acts →
      (answers limit window inner' acts').filter (·.isOf clientId) =
        (answers limit window inner acts).filter (·.isOf clientId) := by
  have hNone : ∀ inner' : Inner, inner'.clientCommandWindows.lookup clientId = none →
      inner'.commandWindow clientId = none := by
    intro inner' h
    unfold Inner.commandWindow
    rw [h]
    rfl
  have hOwn := @answers_own inner acts clientId limit window hKept
  rw [hNone inner hNew] at hOwn
  refine ⟨fun a => ?_, fun before after now hAnswers => ?_,
    fun inner' acts' hNew' hKept' hSame => ?_⟩
  · rw [countP_allowedIn hOwn, countP_allowedIn hOwn]
    obtain ⟨hClosed, hOpen⟩ := close_interval window a
    exact ⟨admitted_close hLimit hWindow hClosed hTimes,
      admitted_close hLimit hWindow hOpen hTimes⟩
  · rw [hAnswers, List.filter_append,
      List.filter_cons_of_pos (CommandAnswer.isOf_self ..)] at hOwn
    obtain ⟨hits, rest, hLog, hBefore, hRest⟩ := List.map_eq_append_iff.mp hOwn.symm
    obtain ⟨⟨now', allowed⟩, later, rfl, hHead, -⟩ := List.map_eq_cons_iff.mp hRest
    obtain ⟨-, rfl, rfl⟩ := CommandAnswer.mk.inj hHead
    rw [countP_allowedIn hBefore.symm]
    exact refused_of_log hLimit hWindow hTimes hLog
  · rw [answers_own limit window hKept', hNone inner' hNew', hSame, hOwn]

end Run

namespace SampleRate

/-- Client `c` calls at 0, 9, 10, 11 and 12, with a call of `b` and a pruning between. -/
def acts : List CommandAct :=
  [.call "c".toList 0, .call "c".toList 9, .prune {"c".toList}, .call "c".toList 10,
    .call "b".toList 10, .call "c".toList 11, .call "c".toList 12]

theorem staysRegistered : StaysRegistered "c".toList acts := by
  intro validClientIds hMem
  have hPrune : CommandAct.prune validClientIds = .prune {"c".toList} := by
    simpa [acts] using hMem
  obtain rfl := CommandAct.prune.inj hPrune
  exact Finset.mem_singleton_self _

end SampleRate

/-- With a limit of two in a window of ten: the three calls from 9 on are allowed, the
last is refused. -/
theorem command_rate_limit_two :
    (answers 2 10 (Inner.new [] 1) SampleRate.acts).map (·.allowed) =
      [true, true, true, true, true, false] ∧
    (answers 2 10 (Inner.new [] 1) SampleRate.acts).countP
      (·.allowedIn "c".toList fun t => decide (9 ≤ t ∧ t < 9 + 10)) = 3 ∧
    (answers 2 10 (Inner.new [] 1) SampleRate.acts).countP
      (·.allowedIn "c".toList fun t => decide (9 ≤ t ∧ t < 9 + 10)) ≤ 2 * 2 - 1 := by
  have hLimit := @command_rate_limit 2 10 (Inner.new [] 1) SampleRate.acts "c".toList (by omega)
    (by omega) rfl SampleRate.staysRegistered (by decide +kernel)
  exact ⟨by decide +kernel, by decide +kernel, (hLimit.1 9).1⟩

end GatewayProxy
