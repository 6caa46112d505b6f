import GatewayProxy.Source.Cache
import GatewayProxy.Source.RestProxy

/-!
# The answer to a REST request

`rest_proxy.rs`, from the upstream request on. `send` stands for the HTTP client:
it answers the upstream request or fails. The JSON library is a parameter where
the answer of `gateway/bot` is rewritten (`ValueLib`).
-/

namespace GatewayProxy

open Utf8 Assoc

/-- An answer of the HTTP client. The headers are in the order in which the
header map yields them. -/
structure UpstreamResponse where
  status : Nat
  headers : List (Str × List UInt8)
  /-- none when it could not be read -/
  body : Option (List UInt8)
  deriving DecidableEq

/-- What the client gets; a name has one value. -/
structure ClientResponse where
  status : Nat
  headers : Map Str (List UInt8)
  body : List UInt8
  deriving DecidableEq

/-- JSON values as bytes. -/
structure ValueLib where
  /-- `to_owned_value`, if it is an object -/
  toObject : List UInt8 → Option JsonObject
  /-- `to_string` of an object -/
  fromObject : JsonObject → Option (List UInt8)

/-- `json_response` -/
def RestResponse.toClient (response : RestResponse) : ClientResponse :=
  ⟨response.status,
    (∅ : Map Str (List UInt8)).insert "content-type".toList (toBytes "application/json".toList),
    toBytes response.payload⟩

def shouldSkipResponseHeader (name : Str) : Bool :=
  ["transfer-encoding".toList, "content-length".toList].contains name

def rewriteGatewayBotPayload (cfg : Config) (json : ValueLib) (rawPayload : List UInt8) :
    Option (List UInt8) :=
  match json.toObject rawPayload with
  | none => none
  | some object =>
    json.fromObject (object.insert "url".toList (.string cfg.externallyAccessibleUrl))

def buildResponse (status : Nat) (headers : List (Str × List UInt8)) (body : List UInt8) :
    ClientResponse :=
  -- `insert` replaces the earlier values of the name
  ⟨status, headers.foldl (fun built header =>
    if shouldSkipResponseHeader header.1 then built else built.insert header.1 header.2) ∅, body⟩

/-- `StatusCode::from_u16` -/
def statusFromU16 (status : Nat) : Option Nat :=
  if 100 ≤ status ∧ status < 1000 then some status else none

def isSuccess (status : Nat) : Bool := 200 ≤ status && status < 300

def gatewayBotPath : Str := "/api/v10/gateway/bot".toList

/-- The answer made from what Discord answered; `path` is normalised. -/
def answerFrom (cfg : Config) (json : ValueLib) (path : Str) :
    Option UpstreamResponse → ClientResponse
  | none => (jsonError 502 "Failed to reach Discord API".toList).toClient
  | some response =>
    let status := (statusFromU16 response.status).getD 502
    match response.body with
    | none => (jsonError 502 "Failed to read Discord API response".toList).toClient
    | some body =>
      if path = gatewayBotPath ∧ isSuccess status then
        match rewriteGatewayBotPayload cfg json body with
        | none => (jsonError 502 "Invalid gateway response payload".toList).toClient
        | some rewritten => buildResponse status response.headers rewritten
      else buildResponse status response.headers body

/-- `handle_rest_request` as a whole. -/
def answerRestRequest (cfg : Config) (lib : JsonLib) (json : ValueLib) (env : RestEnv)
    (request : RestRequest) (send : UpstreamRequest → Option UpstreamResponse) : ClientResponse :=
  match handleRestRequest cfg lib env request with
  | .error response => response.toClient
  | .ok upstream => answerFrom cfg json (normalizePath request.path) (send upstream)

end GatewayProxy
