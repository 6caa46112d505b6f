import GatewayProxy.Source.Sync

/-!
# What a notification says about a row change

A row change is announced by a text that the trigger builds and that the proxy
trims, splits and looks up a client id in. `changes_iff` says which clients a
change is about; `noticeOf_payload` and `noticeOf_payload_blank` say what comes
out at the other end.

Main results:

* `noticeOf_payload`: a change whose guild id is not blank makes the client of
  its row dirty.
* `change_noticed_iff`: exactly when every client whose rows changed is noticed.
-/

namespace GatewayProxy

open Utf8 Assoc

/-- A text with something in it, without a tab, that trimming leaves alone. -/
structure IsField (s : Str) : Prop where
  nonempty : s ≠ []
  noTab : '\t' ∉ s
  trimmed : trim s = s

/-- The change concerns the rows of the client. -/
def ChangesRows (table table' : Table) (clientId : Str) : Prop :=
  ¬ (rowsOf clientId table).Perm (rowsOf clientId table')

/-- Whatever the loop knows when it receives the notification, it then plans a
full reconcile or counts the changed clients among the dirty ones. -/
def Noticed (notification : Str) (changed : Str → Prop) : Prop :=
  ∀ (s t : Sync) (rest : List Str), s.stage = .idle → s.notifications = notification :: rest →
    s.step .receive = some t →
    t.stage = .loading .reconcile ∨ ∀ clientId, changed clientId → clientId ∈ t.dirtyClientIds

-- ---------------------------------------------------------------------------
-- Which clients a change is about
-- ---------------------------------------------------------------------------

section Changes

variable {table table' : Table} {change : RowChange} {call : TriggerCall}

/-- The trigger sees the row that goes and the row that comes. -/
theorem RowChange.apply_perm (hApply : change.apply table = some (table', call)) :
    ∃ rest, table.Perm (call.old.toList ++ rest) ∧ table'.Perm (call.new.toList ++ rest) := by
  cases change with
  | insert row position =>
    rw [RowChange.apply] at hApply
    split at hApply
    · rename_i hPosition
      obtain ⟨rfl, rfl⟩ := Prod.mk.inj (Option.some.inj hApply)
      exact ⟨table, .refl _, List.perm_insertIdx row table hPosition⟩
    · cases hApply
  | update position row newPosition =>
    rw [RowChange.apply] at hApply
    obtain ⟨old, hOld, hApply⟩ := Option.bind_eq_some_iff.mp hApply
    obtain ⟨hPosition, rfl⟩ := List.getElem?_eq_some_iff.mp hOld
    split at hApply
    · rename_i hNew
      obtain ⟨rfl, rfl⟩ := Prod.mk.inj (Option.some.inj hApply)
      refine ⟨table.eraseIdx position, (List.getElem_cons_eraseIdx_perm hPosition).symm, ?_⟩
      refine List.perm_insertIdx row _ ?_
      rw [List.length_eraseIdx_of_lt hPosition]
      omega
    · cases hApply
  | delete position =>
    rw [RowChange.apply] at hApply
    obtain ⟨old, hOld, hPair⟩ := Option.map_eq_some_iff.mp hApply
    obtain ⟨hPosition, rfl⟩ := List.getElem?_eq_some_iff.mp hOld
    obtain ⟨rfl, rfl⟩ := Prod.mk.inj hPair
    exact ⟨table.eraseIdx position, (List.getElem_cons_eraseIdx_perm hPosition).symm, .refl _⟩

/-- The part of a row that belongs to the client. -/
def ofClient (clientId : Str) (row : Option GatewayClientsRow) : Option GatewayClientsRow :=
  row.filter fun row => row.clientId = clientId

theorem ofClient_of_eq {clientId : Str} {row : GatewayClientsRow} (h : row.clientId = clientId) :
    ofClient clientId (some row) = some row :=
  Option.filter_some_pos (decide_eq_true h)

theorem ofClient_of_ne {clientId : Str} {row : GatewayClientsRow} (h : row.clientId ≠ clientId) :
    ofClient clientId (some row) = none :=
  Option.filter_some_neg (by simpa using h)

theorem rowsOf_toList (clientId : Str) (row : Option GatewayClientsRow) :
    rowsOf clientId row.toList = (ofClient clientId row).toList := by
  cases row with
  | none => rfl
  | some row =>
    by_cases hClient : row.clientId = clientId
    · rw [ofClient_of_eq hClient, Option.toList_some, rowsOf,
        List.filter_cons_of_pos (by simpa using hClient), List.filter_nil]
    · rw [ofClient_of_ne hClient, Option.toList_some, rowsOf,
        List.filter_cons_of_neg (by simpa using hClient), List.filter_nil]
      rfl

theorem toList_perm_iff {α : Type} {a b : Option α} : a.toList.Perm b.toList ↔ a = b := by
  constructor
  · intro h
    cases a with
    | none => exact (Option.toList_eq_nil_iff.mp h.nil_eq.symm).symm
    | some x =>
      cases b with
      | none => simp at h
      | some y => rw [List.singleton_perm_singleton.mp h]
  · rintro rfl
    exact .refl _

/-- A change is about the clients of the two rows, unless they are the same row. -/
theorem changes_iff (hApply : change.apply table = some (table', call)) (clientId : Str) :
    ChangesRows table table' clientId ↔
      ofClient clientId call.old ≠ ofClient clientId call.new := by
  obtain ⟨rest, hTable, hTable'⟩ := RowChange.apply_perm hApply
  have hBefore : (rowsOf clientId table).Perm
      ((ofClient clientId call.old).toList ++ rowsOf clientId rest) := by
    rw [← rowsOf_toList, rowsOf, rowsOf, rowsOf, ← List.filter_append]
    exact hTable.filter _
  have hAfter : (rowsOf clientId table').Perm
      ((ofClient clientId call.new).toList ++ rowsOf clientId rest) := by
    rw [← rowsOf_toList, rowsOf, rowsOf, rowsOf, ← List.filter_append]
    exact hTable'.filter _
  have hSame : (rowsOf clientId table).Perm (rowsOf clientId table') ↔
      ((ofClient clientId call.old).toList ++ rowsOf clientId rest).Perm
        ((ofClient clientId call.new).toList ++ rowsOf clientId rest) :=
    ⟨fun h => hBefore.symm.trans (h.trans hAfter), fun h => hBefore.trans (h.trans hAfter.symm)⟩
  rw [ChangesRows, hSame, List.perm_append_right_iff, toList_perm_iff]

/-- Some client's rows change, unless the two rows are the same. -/
theorem changes_changed (hApply : change.apply table = some (table', call))
    (hDiffer : call.old ≠ call.new) : ChangesRows table table' call.changed.clientId := by
  rw [changes_iff hApply]
  cases call with
  | insert new =>
    show ofClient new.clientId none ≠ ofClient new.clientId (some new)
    rw [ofClient_of_eq rfl]
    exact fun h => Option.some_ne_none new h.symm
  | delete old =>
    show ofClient old.clientId (some old) ≠ ofClient old.clientId none
    rw [ofClient_of_eq rfl]
    exact Option.some_ne_none old
  | update old new =>
    show ofClient new.clientId (some old) ≠ ofClient new.clientId (some new)
    rw [show ofClient new.clientId (some new) = some new from ofClient_of_eq rfl]
    intro hSame
    by_cases hClient : old.clientId = new.clientId
    · rw [ofClient_of_eq hClient] at hSame
      exact hDiffer hSame
    · rw [ofClient_of_ne hClient] at hSame
      cases hSame

end Changes

-- ---------------------------------------------------------------------------
-- From the trigger to the loop
-- ---------------------------------------------------------------------------

theorem TriggerCall.tgOp_field (call : TriggerCall) : IsField call.tgOp := by
  have hOps : ∀ op ∈ ["INSERT".toList, "UPDATE".toList, "DELETE".toList],
      op ≠ [] ∧ '\t' ∉ op ∧ trim op = op := by decide
  have hMem : call.tgOp ∈ ["INSERT".toList, "UPDATE".toList, "DELETE".toList] := by
    cases call with
    | insert row => exact List.mem_cons_self
    | update old row => exact List.mem_cons_of_mem _ List.mem_cons_self
    | delete row => exact List.mem_cons_of_mem _ (List.mem_cons_of_mem _ List.mem_cons_self)
  obtain ⟨hNe, hTab, hTrim⟩ := hOps _ hMem
  exact ⟨hNe, hTab, hTrim⟩

/-- The payload up to its second tab. -/
theorem trim_opAndClient {call : TriggerCall} (hId : IsField call.changed.clientId) :
    trim (call.tgOp ++ '\t' :: call.changed.clientId) =
      call.tgOp ++ '\t' :: call.changed.clientId := by
  obtain ⟨⟨c, hc, hText⟩, hEnd⟩ := text_of_trim hId.trimmed hId.nonempty
  have hCons : ('\t' :: call.changed.clientId).rdropWhile isWhitespace =
      '\t' :: call.changed.clientId := by
    have hAppend := rdropWhile_append ['\t'] ⟨c, hc, hText⟩
    rw [hEnd] at hAppend
    exact hAppend
  rw [trim_append call.tgOp_field.trimmed call.tgOp_field.nonempty
    ⟨c, List.mem_cons_of_mem _ hc, hText⟩, hCons]

theorem payload_eq (call : TriggerCall) :
    call.payload =
      (call.tgOp ++ '\t' :: call.changed.clientId) ++ '\t' :: call.changed.guildId := by
  rw [TriggerCall.payload, List.append_assoc, List.cons_append]

/-- A change whose guild id is not blank makes the client of its row dirty. -/
theorem noticeOf_payload {call : TriggerCall} (hId : IsField call.changed.clientId)
    (hGuild : ∃ c ∈ call.changed.guildId, isWhitespace c = false) :
    noticeOf call.payload = .dirty call.changed.clientId := by
  obtain ⟨c, hc, hText⟩ := hGuild
  have hGuildEnd := rdropWhile_append ['\t'] ⟨c, hc, hText⟩
  have hTrim : trim call.payload = call.tgOp ++ '\t' :: (call.changed.clientId ++
      '\t' :: call.changed.guildId.rdropWhile isWhitespace) := by
    rw [payload_eq, trim_append (trim_opAndClient hId) (by simp)
      ⟨c, List.mem_cons_of_mem _ hc, hText⟩, List.append_assoc, List.cons_append]
    exact congrArg _ (congrArg _ (congrArg _ hGuildEnd))
  have hParse : (parseGatewayClientsChangePayload (trim call.payload)).clientId =
      call.changed.clientId := by
    rw [parseGatewayClientsChangePayload, hTrim, splitN,
      splitOnce_append call.tgOp_field.noTab]
    dsimp only
    rw [splitN, splitOnce_append hId.noTab]
    rfl
  rw [noticeOf]
  dsimp only
  rw [if_neg (by rw [hTrim]; simp), hParse, if_neg hId.nonempty]

/-- With a blank guild id, trimming eats the second tab, and what is left is
taken for the client id of an old trigger. -/
theorem noticeOf_payload_blank {call : TriggerCall} (hId : IsField call.changed.clientId)
    (hGuild : ∀ c ∈ call.changed.guildId, isWhitespace c = true) :
    noticeOf call.payload = .dirty (call.tgOp ++ '\t' :: call.changed.clientId) := by
  have hTrim : trim call.payload = call.tgOp ++ '\t' :: call.changed.clientId := by
    rw [payload_eq, trim_append_blank (trim_opAndClient hId) (by simp)]
    intro c hc
    rcases List.mem_cons.mp hc with rfl | hc
    · decide
    · exact hGuild c hc
  have hParse : (parseGatewayClientsChangePayload (trim call.payload)).clientId =
      call.tgOp ++ '\t' :: call.changed.clientId := by
    rw [parseGatewayClientsChangePayload, hTrim, splitN,
      splitOnce_append call.tgOp_field.noTab]
    dsimp only
    rw [splitN, splitOnce_eq_none hId.noTab]
  rw [noticeOf]
  dsimp only
  rw [if_neg (by rw [hTrim]; simp), hParse, if_neg (by simp)]

/-- What the loop makes of a notification is decided by the notification. -/
theorem noticed_iff {notification : Str} {changed : Str → Prop} :
    Noticed notification changed ↔ noticeOf notification = .fullReconcile ∨
      ∀ clientId, changed clientId → noticeOf notification = .dirty clientId := by
  constructor
  · intro hNoticed
    cases hNotice : noticeOf notification with
    | fullReconcile => exact .inl rfl
    | dirty id =>
      refine .inr fun clientId hChanged => ?_
      -- a loop that knows of no dirty client yet
      have hLoop := hNoticed
        { Sync.new [] ∅ with stage := .idle, notifications := [notification] }
        { Sync.new [] ∅ with stage := .idle, dirtyClientIds := insert id ∅ } [] rfl rfl
        (by simp only [Sync.step, hNotice]; rfl)
      rcases hLoop with hStage | hDirty
      · cases hStage
      · have hMem := hDirty clientId hChanged
        rw [Finset.mem_insert] at hMem
        rcases hMem with rfl | hNone
        · rfl
        · exact absurd hNone (Finset.notMem_empty _)
  · intro hNotice s t rest hStage hQueue hStep
    simp only [Sync.step, hStage, hQueue] at hStep
    rcases hNotice with hFull | hDirty
    · rw [hFull] at hStep
      obtain rfl := Option.some.inj hStep
      exact .inl rfl
    · cases hNotice : noticeOf notification with
      | fullReconcile =>
        rw [hNotice] at hStep
        obtain rfl := Option.some.inj hStep
        exact .inl rfl
      | dirty id =>
        rw [hNotice] at hStep
        obtain rfl := Option.some.inj hStep
        refine .inr fun clientId hChanged => ?_
        obtain rfl : id = clientId :=
          Notice.dirty.inj (hNotice.symm.trans (hDirty clientId hChanged))
        exact Finset.mem_insert_self _ _

-- ---------------------------------------------------------------------------
-- Which changes are noticed
-- ---------------------------------------------------------------------------

section Noticing

variable {table table' : Table} {change : RowChange} {call : TriggerCall}

/-- A changed client is that of the old row or of the new one. -/
theorem client_of_changes (hApply : change.apply table = some (table', call)) {clientId : Str}
    (hChanges : ChangesRows table table' clientId) :
    (∃ old, call.old = some old ∧ old.clientId = clientId) ∨
      ∃ new, call.new = some new ∧ new.clientId = clientId := by
  rw [changes_iff hApply] at hChanges
  by_contra hNeither
  rw [not_or] at hNeither
  have hNone : ∀ row : Option GatewayClientsRow,
      (¬ ∃ r, row = some r ∧ r.clientId = clientId) → ofClient clientId row = none := by
    intro row hRow
    cases row with
    | none => rfl
    | some r => exact ofClient_of_ne fun hClient => hRow ⟨r, rfl, hClient⟩
  exact hChanges ((hNone _ hNeither.1).trans (hNone _ hNeither.2).symm)

/-- A change of two clients' rows changes the rows of both. -/
theorem changes_both (hApply : change.apply table = some (table', call))
    {old new : GatewayClientsRow} (hOld : call.old = some old) (hNew : call.new = some new)
    (hClients : old.clientId ≠ new.clientId) : ChangesRows table table' old.clientId := by
  rw [changes_iff hApply, hOld, hNew, ofClient_of_eq rfl, ofClient_of_ne hClients.symm]
  exact Option.some_ne_none old

theorem changed_field (hApply : change.apply table = some (table', call))
    (hIds : ∀ row ∈ table ++ table', IsField row.clientId) : IsField call.changed.clientId := by
  obtain ⟨rest, hTable, hTable'⟩ := RowChange.apply_perm hApply
  refine hIds _ (List.mem_append.mpr ?_)
  cases call with
  | insert new => exact .inr (hTable'.mem_iff.mpr (.head _))
  | update old new => exact .inr (hTable'.mem_iff.mpr (.head _))
  | delete old => exact .inl (hTable.mem_iff.mpr (.head _))

/-- **Which changes are noticed.** For every row change, with any guild ids and
with client ids that are fields: all clients whose rows change are noticed if
and only if the change keeps the row as it is, or keeps its client id and is
sent with a guild id that is not blank. -/
theorem change_noticed_iff (hApply : change.apply table = some (table', call))
    (hIds : ∀ row ∈ table ++ table', IsField row.clientId) :
    Noticed call.payload (ChangesRows table table') ↔
      call.old = call.new ∨
        (∀ old new, call.old = some old → call.new = some new → old.clientId = new.clientId) ∧
          ∃ c ∈ call.changed.guildId, isWhitespace c = false := by
  have hId := changed_field hApply hIds
  rw [noticed_iff]
  by_cases hSame : call.old = call.new
  · refine iff_of_true (.inr fun clientId hChanges => ?_) (.inl hSame)
    rw [changes_iff hApply, hSame] at hChanges
    exact absurd rfl hChanges
  have hChanged := changes_changed hApply hSame
  by_cases hGuild : ∃ c ∈ call.changed.guildId, isWhitespace c = false
  · have hNotice := noticeOf_payload hId hGuild
    constructor
    · rintro (hFull | hDirty)
      · rw [hNotice] at hFull
        cases hFull
      · refine .inr ⟨fun old new hOld hNew => ?_, hGuild⟩
        by_contra hClients
        have hOldDirty := hDirty _ (changes_both hApply hOld hNew hClients)
        have hNewDirty : call.changed.clientId = new.clientId := by
          cases call with
          | insert row => cases hOld
          | update row row' => rw [← Option.some.inj hNew]; rfl
          | delete row => cases hNew
        rw [hNotice, hNewDirty] at hOldDirty
        exact hClients (Notice.dirty.inj hOldDirty).symm
    · rintro (hKept | ⟨hClients, -⟩)
      · exact absurd hKept hSame
      · refine .inr fun clientId hChanges => ?_
        have hClient : call.changed.clientId = clientId := by
          have hOf := client_of_changes hApply hChanges
          cases call with
          | insert new =>
            obtain ⟨row, hRow, -⟩ | ⟨row, hRow, rfl⟩ := hOf
            · cases hRow
            · rw [← Option.some.inj hRow]; rfl
          | update old new =>
            obtain ⟨row, hRow, rfl⟩ | ⟨row, hRow, rfl⟩ := hOf
            · exact (hClients row new hRow rfl).symm
            · rw [← Option.some.inj hRow]; rfl
          | delete old =>
            obtain ⟨row, hRow, rfl⟩ | ⟨row, hRow, -⟩ := hOf
            · rw [← Option.some.inj hRow]; rfl
            · cases hRow
        rw [hNotice, hClient]
  · -- what comes out contains a tab, and no client id does
    have hBlank : ∀ c ∈ call.changed.guildId, isWhitespace c = true := by
      intro c hc
      by_contra hText
      exact hGuild ⟨c, hc, by simpa using hText⟩
    have hNotice := noticeOf_payload_blank hId hBlank
    refine iff_of_false ?_ ?_
    · rintro (hFull | hDirty)
      · rw [hNotice] at hFull
        cases hFull
      · have hTab := Notice.dirty.inj (hNotice.symm.trans (hDirty _ hChanged))
        exact hId.noTab (hTab ▸ List.mem_append_right _ (.head _))
    · rintro (hKept | ⟨-, hText⟩)
      · exact hSame hKept
      · exact hGuild hText

end Noticing

namespace SampleRows

def row (clientId guildId : String) : GatewayClientsRow :=
  ⟨⟨clientId.toList, "s".toList, guildId.toList, none, none⟩, none, none⟩

theorem isField_a : IsField "a".toList := ⟨by decide, by decide, by decide⟩

end SampleRows

open SampleRows in
/-- A new row of guild 7 is noticed. -/
theorem change_noticed_iff_insert :
    Noticed (TriggerCall.insert (row "a" "7")).payload (ChangesRows [] [row "a" "7"]) := by
  have hIds : ∀ r ∈ [] ++ [row "a" "7"], IsField r.clientId := by
    intro r hr
    obtain rfl := List.mem_singleton.mp hr
    exact isField_a
  have hApply : (RowChange.insert (row "a" "7") 0).apply [] =
      some ([row "a" "7"], .insert (row "a" "7")) := rfl
  exact (change_noticed_iff hApply hIds).mpr
    (.inr ⟨fun old new hOld => (nomatch hOld), '7', by decide, by decide⟩)

open SampleRows in
/-- Renaming client `a` to `b` leaves `a` unnoticed, and deleting a row without
a guild id leaves its client unnoticed. -/
theorem change_missed :
    ((RowChange.update 0 (row "b" "7") 0).apply [row "a" "7"] =
        some ([row "b" "7"], .update (row "a" "7") (row "b" "7")) ∧
      ¬ Noticed (TriggerCall.update (row "a" "7") (row "b" "7")).payload
        (ChangesRows [row "a" "7"] [row "b" "7"])) ∧
    (RowChange.delete 0).apply [row "a" ""] = some ([], .delete (row "a" "")) ∧
      ¬ Noticed (TriggerCall.delete (row "a" "")).payload (ChangesRows [row "a" ""] []) := by
  refine ⟨⟨rfl, fun hNoticed => ?_⟩, rfl, fun hNoticed => ?_⟩
  · rcases noticed_iff.mp hNoticed with hFull | hDirty
    · revert hFull
      decide
    · have hRenamed := hDirty "a".toList (by unfold ChangesRows; decide)
      revert hRenamed
      decide
  · rcases noticed_iff.mp hNoticed with hFull | hDirty
    · revert hFull
      decide
    · have hDeleted := hDirty "a".toList (by unfold ChangesRows; decide)
      revert hDeleted
      decide

end GatewayProxy
