import GatewayProxy.Lib.Base64
import GatewayProxy.Source.RestResponse

/-!
# The front door

`handler` of `server.rs`, which every HTTP request comes to, and `server` of
`upgrade.rs`, the WebSocket handshake. SHA-1 and Base64 are third-party code, so they
are parameters, and so are the two pages that are handed out as they are.
-/

namespace GatewayProxy

open Utf8 Assoc

def websocketGuid : Str := "258EAFA5-E914-47DA-95CA-C5AB0DC85B11".toList

/-- `HeaderValue::from_str`: visible ASCII only. -/
def headerFromStr (value : Str) : Option (List UInt8) :=
  if value.all fun c => 32 ≤ c.toNat && c.toNat < 127 then some (toBytes value) else none

/-- What the proxy does with an HTTP request: the answer, and whether a `handle_client`
waits for the upgrade, with its `use_zlib`. -/
structure Reception where
  answer : ClientResponse
  opened : Option Bool
  deriving DecidableEq

/-- Neither headers nor a body. -/
def emptyResponse (status : Nat) : ClientResponse := ⟨status, ∅, []⟩

def asksZlib (request : RestRequest) : Bool :=
  request.query.any fun query => (find "compress=zlib-stream".toList query).isSome

/-- What the handshake asks of other crates. -/
structure HandshakeLib where
  /-- `Sha1::digest` -/
  digest : List UInt8 → List UInt8
  /-- `STANDARD.encode` -/
  encode : List UInt8 → Str

/-- The digests have 20 bytes, and the texts are Base64 in the standard alphabet, with
padding. -/
structure HandshakeLib.Standard (lib : HandshakeLib) : Prop where
  digest : ∀ bytes, (lib.digest bytes).length = 20
  encode : ∀ bytes, lib.encode bytes = Base64.encode bytes

/-- `upgrade::server`. No value when the accept key is no header value, which panics. -/
def upgradeServer (lib : HandshakeLib) (request : RestRequest) : Option Reception :=
  if (request.headers.lookup "upgrade".toList).bind headerToStr ≠ some "websocket".toList then
    some ⟨emptyResponse 400, none⟩
  else match request.headers.lookup "sec-websocket-key".toList with
    | none => some ⟨emptyResponse 400, none⟩
    | some websocketKey =>
      let acceptKey := lib.encode (lib.digest (websocketKey ++ toBytes websocketGuid))
      (headerFromStr acceptKey).map fun accept =>
        ⟨⟨101, ((((∅ : Map Str (List UInt8)).insert "connection".toList
            (toBytes "Upgrade".toList)).insert "upgrade".toList
            (toBytes "websocket".toList)).insert "sec-websocket-accept".toList accept).insert
            "sec-websocket-version".toList (toBytes "13".toList), []⟩,
          some (asksZlib request)⟩

/-- What `handler` hands out without looking at the request any further. -/
structure Pages where
  /-- `metrics.render()` -/
  metrics : List UInt8
  /-- `LANDING_HTML` -/
  landing : List UInt8

/-- The paths of the REST proxy. -/
def isRestPath (path : Str) : Bool :=
  "/api/v10/".toList.isPrefixOf path || "/v10/".toList.isPrefixOf path

/-- The rest of the proxy, as `handler` sees it. -/
structure Backend where
  cfg : Config
  lib : JsonLib
  json : ValueLib
  env : RestEnv
  send : UpstreamRequest → Option UpstreamResponse

def handler (lib : HandshakeLib) (pages : Pages) (shardCount : Nat)
    (backend : Backend) (request : RestRequest) : Option Reception :=
  if isRestPath request.path then
    some ⟨answerRestRequest backend.cfg backend.lib backend.json backend.env request backend.send,
      none⟩
  else if request.method = "GET".toList ∧ request.path = "/metrics".toList then
    some ⟨⟨200, ∅, pages.metrics⟩, none⟩
  else if request.method = "GET".toList ∧ request.path = "/shard-count".toList then
    some ⟨⟨200, ∅, toBytes (formatNat shardCount)⟩, none⟩
  else if request.method = "GET".toList ∧ request.path = "/".toList then
    if (request.headers.lookup "upgrade".toList).isSome then upgradeServer lib request
    else some ⟨⟨200, (∅ : Map Str (List UInt8)).insert "content-type".toList
      (toBytes "text/html; charset=utf-8".toList), pages.landing⟩, none⟩
  else upgradeServer lib request

end GatewayProxy
