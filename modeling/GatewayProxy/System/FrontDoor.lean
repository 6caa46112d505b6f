import GatewayProxy.Gateway.Delivery
import GatewayProxy.Rest.Scope
import GatewayProxy.Source.Upgrade

/-!
# From the front door to the frames

Every connection and every upstream request starts at `handler`. What it opens is a
`handle_client`, whose first frame is written in the mode that the query asked for;
what it hands to the REST proxy stays below one path of Discord.

Main results:

* `upgradeServer_eq`: the handshake, and that its accept key is always a header value.
* `normalizePath_rest`: where upstream requests go.
* `modes_run`: the mode of a connection that was opened.
* `front_door_exact`: who gets in, with which answer and to which mode.
-/

namespace GatewayProxy

open Utf8 Assoc Runs

-- ---------------------------------------------------------------------------
-- The handshake
-- ---------------------------------------------------------------------------

/-- A WebSocket handshake that no page takes. -/
structure Upgrades (request : RestRequest) (websocketKey : List UInt8) : Prop where
  notRest : isRestPath request.path = false
  notPage : ¬ (request.method = "GET".toList ∧
    (request.path = "/metrics".toList ∨ request.path = "/shard-count".toList))
  upgrade : (request.headers.lookup "upgrade".toList).bind headerToStr =
    some "websocket".toList
  key : request.headers.lookup "sec-websocket-key".toList = some websocketKey

/-- The answer that a client checks: the accept key reads back as the digest of its own
key and the constant. -/
structure Accepts (lib : HandshakeLib) (websocketKey : List UInt8)
    (answer : ClientResponse) : Prop where
  status : answer.status = 101
  connection : answer.headers.lookup "connection".toList = some (toBytes "Upgrade".toList)
  upgrade : answer.headers.lookup "upgrade".toList = some (toBytes "websocket".toList)
  version : answer.headers.lookup "sec-websocket-version".toList = some (toBytes "13".toList)
  accept : ∃ value text, answer.headers.lookup "sec-websocket-accept".toList = some value ∧
    fromBytes value = some text ∧ text.length = 28 ∧
    Base64.decode text = some (lib.digest (websocketKey ++ toBytes websocketGuid))

section Handshake

variable {lib : HandshakeLib} {request : RestRequest} {websocketKey : List UInt8}

theorem headerFromStr_encode (bytes : List UInt8) :
    headerFromStr (Base64.encode bytes) = some (toBytes (Base64.encode bytes)) := by
  refine if_pos (List.all_eq_true.mpr fun c hMem => ?_)
  obtain ⟨hLow, hHigh⟩ := Base64.visible_of_isText (Base64.isText_of_mem_encode hMem)
  have hLow' : 32 ≤ c.toNat := by omega
  have hHigh' : c.toNat < 127 := by omega
  simp [hLow', hHigh']

/-- The handshake opens a connection if it is complete, and is refused otherwise. -/
theorem upgradeServer_eq (request : RestRequest) (hLib : lib.Standard) :
    ((request.headers.lookup "upgrade".toList).bind headerToStr = some "websocket".toList ∧
        ∃ websocketKey answer, request.headers.lookup "sec-websocket-key".toList =
            some websocketKey ∧ Accepts lib websocketKey answer ∧
          upgradeServer lib request = some ⟨answer, some (asksZlib request)⟩) ∨
      ((request.headers.lookup "upgrade".toList).bind headerToStr = some "websocket".toList →
          request.headers.lookup "sec-websocket-key".toList = none) ∧
        upgradeServer lib request = some ⟨emptyResponse 400, none⟩ := by
  unfold upgradeServer
  by_cases hUpgrade : (request.headers.lookup "upgrade".toList).bind headerToStr =
      some "websocket".toList
  · rw [if_neg (not_not.mpr hUpgrade)]
    cases hKey : request.headers.lookup "sec-websocket-key".toList with
    | none => exact .inr ⟨fun _ => rfl, rfl⟩
    | some websocketKey =>
      dsimp only
      rw [hLib.encode, headerFromStr_encode, Option.map_some]
      refine .inl ⟨hUpgrade, websocketKey, _, rfl, ?_, rfl⟩
      have hLength := Base64.length_encode (lib.digest (websocketKey ++ toBytes websocketGuid))
      rw [hLib.digest] at hLength
      refine ⟨rfl, ?_, ?_, ?_, _, _, ?_, fromBytes_toBytes _, hLength, Base64.decode_encode _⟩
      · rw [AList.lookup_insert_ne (by decide), AList.lookup_insert_ne (by decide),
          AList.lookup_insert_ne (by decide), AList.lookup_insert]
      · rw [AList.lookup_insert_ne (by decide), AList.lookup_insert_ne (by decide),
          AList.lookup_insert]
      · rw [AList.lookup_insert]
      · rw [AList.lookup_insert_ne (by decide), AList.lookup_insert]
  · rw [if_pos hUpgrade]
    exact .inr ⟨fun h => absurd h hUpgrade, rfl⟩

/-- What a request gets that neither opens a connection nor is for the REST proxy. -/
def Turned (pages : Pages) (shardCount : Nat) (answer : ClientResponse) : Prop :=
  answer = emptyResponse 400 ∨ answer.status = 200 ∧
    (answer.body = pages.metrics ∨ answer.body = pages.landing ∨
      answer.body = toBytes (formatNat shardCount))

/-- Away from the REST proxy: a connection is opened, or the request is turned away,
whatever the rest of the proxy is like. -/
inductive Door (lib : HandshakeLib) (pages : Pages) (shardCount : Nat)
    (request : RestRequest) : Prop
  | opens (websocketKey : List UInt8) (answer : ClientResponse)
      (hUpgrades : Upgrades request websocketKey) (hAccepts : Accepts lib websocketKey answer)
      (hHandler : ∀ backend, handler lib pages shardCount backend request =
        some ⟨answer, some (asksZlib request)⟩)
  | turns (answer : ClientResponse) (hNot : ∀ websocketKey, ¬ Upgrades request websocketKey)
      (hTurned : Turned pages shardCount answer)
      (hHandler : ∀ backend, handler lib pages shardCount backend request =
        some ⟨answer, none⟩)

variable {pages : Pages} {shardCount : Nat}

theorem door_upgrade (hLib : lib.Standard) (hRest : isRestPath request.path = false)
    (hPage : ¬ (request.method = "GET".toList ∧
      (request.path = "/metrics".toList ∨ request.path = "/shard-count".toList)))
    (hHandler : ∀ backend, handler lib pages shardCount backend request =
      upgradeServer lib request) : Door lib pages shardCount request := by
  rcases upgradeServer_eq request hLib with
    ⟨hUpgrade, websocketKey, answer, hKey, hAccepts, hServer⟩ | ⟨hNone, hServer⟩
  · exact .opens websocketKey answer ⟨hRest, hPage, hUpgrade, hKey⟩ hAccepts
      fun backend => (hHandler backend).trans hServer
  · refine .turns _ (fun websocketKey h => ?_) (.inl rfl)
      fun backend => (hHandler backend).trans hServer
    cases h.key.symm.trans (hNone h.upgrade)

theorem door_cases (pages : Pages) (shardCount : Nat) (hLib : lib.Standard)
    (hRest : isRestPath request.path = false) : Door lib pages shardCount request := by
  have hNotRest : ¬ isRestPath request.path = true := by simp [hRest]
  by_cases hMetrics : request.method = "GET".toList ∧ request.path = "/metrics".toList
  · refine .turns ⟨200, ∅, pages.metrics⟩ (fun _ h => h.notPage ⟨hMetrics.1, .inl hMetrics.2⟩)
      (.inr ⟨rfl, .inl rfl⟩) fun backend => ?_
    rw [handler, if_neg hNotRest, if_pos hMetrics]
  by_cases hCount : request.method = "GET".toList ∧ request.path = "/shard-count".toList
  · refine .turns ⟨200, ∅, toBytes (formatNat shardCount)⟩
      (fun _ h => h.notPage ⟨hCount.1, .inr hCount.2⟩)
      (.inr ⟨rfl, .inr (.inr rfl)⟩) fun backend => ?_
    rw [handler, if_neg hNotRest, if_neg hMetrics, if_pos hCount]
  have hPage : ¬ (request.method = "GET".toList ∧
      (request.path = "/metrics".toList ∨ request.path = "/shard-count".toList)) := by
    rintro ⟨hGet, hPath | hPath⟩
    · exact hMetrics ⟨hGet, hPath⟩
    · exact hCount ⟨hGet, hPath⟩
  by_cases hLanding : request.method = "GET".toList ∧ request.path = "/".toList
  · by_cases hHeader : (request.headers.lookup "upgrade".toList).isSome = true
    · refine door_upgrade hLib hRest hPage fun backend => ?_
      rw [handler, if_neg hNotRest, if_neg hMetrics, if_neg hCount, if_pos hLanding, if_pos hHeader]
    · refine .turns ⟨200, (∅ : Map Str (List UInt8)).insert "content-type".toList
          (toBytes "text/html; charset=utf-8".toList), pages.landing⟩ (fun _ h => ?_)
        (.inr ⟨rfl, .inr (.inl rfl)⟩) fun backend => ?_
      · have hNone := Option.not_isSome_iff_eq_none.mp hHeader
        have hUpgrade := h.upgrade
        rw [hNone] at hUpgrade
        cases hUpgrade
      · rw [handler, if_neg hNotRest, if_neg hMetrics, if_neg hCount, if_pos hLanding,
          if_neg hHeader]
  · refine door_upgrade hLib hRest hPage fun backend => ?_
    rw [handler, if_neg hNotRest, if_neg hMetrics, if_neg hCount, if_neg hLanding]

end Handshake

-- ---------------------------------------------------------------------------
-- Upstream requests
-- ---------------------------------------------------------------------------

/-- A replacement of `/u...` by another absolute path leaves the API path before it. -/
theorem replace_apiPath (pat new rest : Str) :
    ∃ rest', replace ('/' :: 'u' :: pat) ('/' :: new) ("/api/v10/".toList ++ rest) =
      "/api/v10/".toList ++ rest' := by
  have hChars : "/api/v10/".toList = ['/', 'a', 'p', 'i', '/', 'v', '1', '0', '/'] := rfl
  rw [hChars]
  simp only [replace, List.cons_append, List.nil_append, replaceFrom, List.isPrefixOf, BEq.rfl,
    Char.reduceBEq, Bool.false_and, Bool.and_false, Bool.false_eq_true, if_false, Bool.true_and]
  -- only the last slash may begin a match, and a slash stands in its place
  split
  · exact ⟨_, rfl⟩
  · exact ⟨_, rfl⟩

/-- What comes to the REST proxy is asked of Discord below `/api/v10/`. -/
theorem normalizePath_rest {path : Str} (h : isRestPath path = true) :
    ∃ rest, normalizePath path = "/api/v10/".toList ++ rest := by
  have hApi : ∃ rest, (if (stripPrefix "/v10/".toList path).isSome then "/api".toList ++ path
      else path) = "/api/v10/".toList ++ rest := by
    unfold stripPrefix
    rcases Bool.or_eq_true_iff.mp h with hLong | hShort
    · obtain ⟨rest, rfl⟩ := List.isPrefixOf_iff_prefix.mp hLong
      exact ⟨rest, rfl⟩
    · rw [if_pos hShort]
      obtain ⟨rest, rfl⟩ := List.isPrefixOf_iff_prefix.mp hShort
      exact ⟨rest, rfl⟩
  obtain ⟨rest, hRest⟩ := hApi
  rw [normalizePath, hRest]
  obtain ⟨rest', hFirst⟩ := replace_apiPath "sers/%40me".toList "users/@me".toList rest
  have hLower : replace "/users/%40me".toList "/users/@me".toList ("/api/v10/".toList ++ rest) =
      "/api/v10/".toList ++ rest' := hFirst
  rw [hLower]
  exact replace_apiPath "sers/%40ME".toList "users/@me".toList rest'

-- ---------------------------------------------------------------------------
-- The mode of a connection
-- ---------------------------------------------------------------------------

/-- HELLO is written in the mode of the query, and so is everything if this mode is
compressed. -/
structure Modes {ζ : Type} (useZlib : Bool) (o : Outbox ζ) : Prop where
  hello : ∀ frame ∈ o.hello, frame.compressed = useZlib
  stays : useZlib = true → o.sink.useZlib = true
  written : useZlib = true → ∀ written ∈ o.written, written.frame.compressed = true

section Modes

variable {cfg : Config} {lib : JsonLib} {ζ : Type} {zlibLib : ZlibLib ζ} {useZlib : Bool}

theorem modes_sink {o o' : Outbox ζ} {action : SinkStep} (hKept : o.Kept zlibLib useZlib)
    (h : Modes useZlib o) (hStep : o.step zlibLib action = some o') : Modes useZlib o' := by
  cases action with
  | sendHello inTime =>
    obtain ⟨hPhase, ⟨-, rfl⟩ | ⟨zlib, rfl⟩⟩ := Outbox.sendHello_cases hStep
    · refine ⟨fun frame hMem => ?_, h.stays, h.written⟩
      obtain rfl := Option.some.inj hMem
      rw [makeFrame_compressed]
      exact hKept.early (.inl hPhase)
    · exact ⟨(fun _ hMem => by cases hMem), h.stays, h.written⟩
  | takeDecision result =>
    obtain ⟨-, rfl⟩ := Outbox.takeDecision_cases hStep
    refine ⟨h.hello, fun hZlib => ?_, h.written⟩
    show (if result = some (some true) then true else o.sink.useZlib) = true
    rw [h.stays hZlib]
    exact ite_self _
  | sendMessage inTime =>
    obtain ⟨queued, rest, -, -, ⟨-, rfl⟩ | ⟨-, zlib, rfl⟩⟩ := Outbox.sendMessage_cases hStep
    · refine ⟨h.hello, h.stays, fun hZlib written hMem => ?_⟩
      rcases List.mem_append.mp hMem with hOld | hNew
      · exact h.written hZlib written hOld
      · obtain rfl := List.mem_singleton.mp hNew
        exact (makeFrame_compressed ..).trans (h.stays hZlib)
    · exact ⟨h.hello, h.stays, h.written⟩
  | finish =>
    obtain ⟨-, -, rfl⟩ := Outbox.finish_cases hStep
    exact ⟨h.hello, h.stays, h.written⟩
  | abort =>
    obtain rfl := Option.some.inj hStep
    exact ⟨h.hello, h.stays, h.written⟩

theorem modes_step {s t : Delivery ζ} {action : DeliveryStep}
    (hInv : s.Inv zlibLib useZlib) (h : Modes useZlib s.outbox)
    (hStep : s.step cfg lib zlibLib action = some t) : Modes useZlib t.outbox := by
  cases action with
  | handler action =>
    obtain ⟨messages, -, hOutbox⟩ := Delivery.handler_cases hStep
    rw [hOutbox, Outbox.enqueue]
    split
    · exact ⟨h.hello, h.stays, h.written⟩
    · exact h
  | sink action =>
    obtain ⟨-, hOutbox, -⟩ := Delivery.sink_cases hStep
    exact modes_sink hInv.kept h hOutbox

theorem modes_run {steps : List DeliveryStep} {s : Delivery ζ}
    (hRun : exec (Delivery.step cfg lib zlibLib) (Delivery.start useZlib) steps = some s) :
    Modes useZlib s.outbox := by
  have hBoth : s.Inv zlibLib useZlib ∧ Modes useZlib s.outbox :=
    exec_invariant (P := fun s => s.Inv zlibLib useZlib ∧ Modes useZlib s.outbox)
      (fun _ _ _ h hStep => ⟨Delivery.inv_step h.1 hStep, modes_step h.1 h.2 hStep⟩)
      ⟨Delivery.inv_start zlibLib useZlib, ⟨nofun, id, fun _ => nofun⟩⟩ hRun
  exact hBoth.2

end Modes

-- ---------------------------------------------------------------------------
-- The result
-- ---------------------------------------------------------------------------

/-- **The front door is exact.** For every request and every state of the rest of the
proxy, `handler` answers. It opens a connection exactly for a
WebSocket handshake that no page takes, with an answer that the client can check, and
this connection has the mode that the query asked for: HELLO is compressed if and only
if it asks for compression, and then so is every frame. Only a request below the two
API paths reaches the rest of the proxy, and what it asks of Discord is below
`/api/v10/`; any other gets nothing but a page, the shard count or a refusal. -/
theorem front_door_exact {lib : HandshakeLib} (hLib : lib.Standard) (pages : Pages)
    (shardCount : Nat) (backend : Backend) (request : RestRequest) :
    ∃ reception, handler lib pages shardCount backend request = some reception ∧
      (∀ useZlib, reception.opened = some useZlib ↔
        (∃ websocketKey, Upgrades request websocketKey) ∧ useZlib = asksZlib request) ∧
      (∀ websocketKey, Upgrades request websocketKey →
        Accepts lib websocketKey reception.answer) ∧
      (∀ useZlib, reception.opened = some useZlib →
        ∀ {ζ : Type} (zlibLib : ZlibLib ζ) steps s,
          exec (Delivery.step backend.cfg backend.lib zlibLib) (Delivery.start useZlib) steps =
            some s →
          (∀ frame ∈ s.outbox.hello, frame.compressed = asksZlib request) ∧
          (asksZlib request = true → ∀ written ∈ s.outbox.written,
            written.frame.compressed = true)) ∧
      (isRestPath request.path = true → ∀ upstream,
        handleRestRequest backend.cfg backend.lib backend.env request = .ok upstream →
        ∃ rest, upstream.url = discordRestBaseUrl backend.cfg ++ "/api/v10/".toList ++ rest) ∧
      (isRestPath request.path = false →
        (∀ other, handler lib pages shardCount other request = some reception) ∧
        (reception.opened = none → Turned pages shardCount reception.answer)) := by
  cases hRest : isRestPath request.path with
  | true =>
    have hNot : ∀ websocketKey, ¬ Upgrades request websocketKey := fun websocketKey h => by
      cases hRest.symm.trans h.notRest
    refine ⟨⟨_, none⟩, if_pos hRest, fun useZlib => ?_, fun websocketKey h => ?_,
      nofun, fun _ upstream hUpstream => ?_, nofun⟩
    · exact iff_of_false nofun fun h => hNot _ h.1.choose_spec
    · exact absurd h (hNot websocketKey)
    · obtain ⟨-, authContext, body, -, -, -, -, hRequest⟩ := handleRestRequest_ok hUpstream
      obtain ⟨rest, hPath⟩ := normalizePath_rest hRest
      rw [upstreamRequest_url hRequest, hPath]
      exact ⟨rest ++ request.query.elim [] ('?' :: ·), by simp only [List.append_assoc]⟩
  | false =>
    cases door_cases pages shardCount hLib hRest with
    | opens websocketKey answer hUpgrades hAccepts hHandler =>
      refine ⟨_, hHandler backend, fun useZlib => ?_, fun other h => ?_, ?_, nofun,
        fun _ => ⟨hHandler, nofun⟩⟩
      · exact ⟨fun h => ⟨⟨websocketKey, hUpgrades⟩, (Option.some.inj h).symm⟩, fun h => h.2 ▸ rfl⟩
      · obtain rfl : websocketKey = other := Option.some.inj (hUpgrades.key.symm.trans h.key)
        exact hAccepts
      · intro useZlib hOpened ζ zlibLib steps s hRun
        obtain rfl : asksZlib request = useZlib := Option.some.inj hOpened
        have hModes := modes_run hRun
        exact ⟨hModes.hello, hModes.written⟩
    | turns answer hNot hTurned hHandler =>
      refine ⟨_, hHandler backend, fun useZlib => ?_, fun websocketKey h => ?_, nofun, nofun,
        fun _ => ⟨hHandler, fun _ => hTurned⟩⟩
      · exact iff_of_false nofun fun h => hNot _ h.1.choose_spec
      · exact absurd h (hNot websocketKey)

namespace SampleDoor

open SampleDelivery

def websocketKey : List UInt8 := toBytes "dGhlIHNhbXBsZSBub25jZQ==".toList

/-- The SHA-1 digest of this key and the constant. -/
def keyDigest : List UInt8 :=
  [179, 122, 79, 44, 192, 98, 79, 22, 144, 246, 70, 6, 207, 56, 89, 69, 178, 190, 196, 234]

def digest (bytes : List UInt8) : List UInt8 :=
  if bytes = websocketKey ++ toBytes websocketGuid then keyDigest else List.replicate 20 0

def request : RestRequest where
  path := "/".toList
  query := some "v=10&compress=zlib-stream".toList
  method := "GET".toList
  headers := [("upgrade".toList, toBytes "websocket".toList),
    ("sec-websocket-key".toList, websocketKey)]
  body := some []

def backend : Backend where
  cfg := config
  lib := lib
  json := ⟨fun _ => none, fun _ => none⟩
  env := ⟨clients, .noDatabase, inner, inner, fun _ => none⟩
  send _ := none

theorem upgrades : Upgrades request websocketKey where
  notRest := by decide
  notPage := by decide
  upgrade := by decide
  key := by decide

def crates : HandshakeLib := ⟨digest, Base64.encode⟩

theorem standard : crates.Standard where
  digest bytes := by
    show (digest bytes).length = 20
    unfold digest
    split
    · rfl
    · exact List.length_replicate
  encode _ := rfl

end SampleDoor

/-- A handshake on `/` that asks for compression. -/
theorem front_door_exact_handshake :
    ∃ reception, handler SampleDoor.crates ⟨[], []⟩ 1 SampleDoor.backend SampleDoor.request =
        some reception ∧ reception.opened = some true ∧
      ∃ value text, reception.answer.headers.lookup "sec-websocket-accept".toList = some value ∧
        fromBytes value = some text ∧ Base64.decode text = some SampleDoor.keyDigest := by
  obtain ⟨reception, hHandler, hOpens, hAccepts, -⟩ :=
    front_door_exact SampleDoor.standard ⟨[], []⟩ 1 SampleDoor.backend SampleDoor.request
  obtain ⟨value, text, hValue, hText, -, hDecode⟩ :=
    (hAccepts SampleDoor.websocketKey SampleDoor.upgrades).accept
  refine ⟨reception, hHandler, (hOpens true).mpr ⟨⟨_, SampleDoor.upgrades⟩, by decide⟩,
    value, text, hValue, hText, hDecode.trans (congrArg some ?_)⟩
  show SampleDoor.digest (SampleDoor.websocketKey ++ toBytes websocketGuid) = _
  exact if_pos rfl

end GatewayProxy
