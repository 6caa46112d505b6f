import GatewayProxy.Lib.Serde
import GatewayProxy.Source.Registry

/-!
# The clients of `config.json`

`ClientConfig` as `config.rs` reads it. Before the first load from the database,
and without one, these clients are the registry. The JSON library is a parameter;
`ReadsClients` is what it does where every client is an object. What it makes of a
client that is written as an array differs between the two libraries the code can
be built with, and is left open.
-/

namespace GatewayProxy

open Utf8 Assoc Serde

/-- `GuildId`, a string or a number. -/
def readGuildId : Json → Option Nat
  | .string s => parseU64 s
  | j => readUnsigned (2 ^ 64) j

/-- `deserialize_guild_ids`. -/
def deserializeGuildIds : Json → Option (Finset Nat)
  | .array elems => (elems.mapM readGuildId).map List.toFinset
  | _ => none

def guildsField : Serde.Field (Finset Nat) := ⟨"guilds".toList, deserializeGuildIds, some ∅⟩

/-- The members of a client. `next_wake_at` is not read. -/
def readClientConfig (members : List Member) : Option ClientConfig := do
  let secret ← (Field.required "secret".toList readString).ofMembers members
  let guilds ← guildsField.ofMembers members
  let reachableUrl ← (Field.optional "reachable_url".toList readString).ofMembers members
  return ⟨secret, guilds, reachableUrl, none⟩

/-- The name of a client and its members. -/
abbrev ClientEntry := Str × List Member

/-- One entry of the map; a later one of the same name replaces it. -/
def readClient (clients : Clients) (entry : ClientEntry) : Option Clients :=
  (readClientConfig entry.2).map fun config => clients.insert entry.1 config

/-- The value of `clients` in `Config`. -/
def clientsObject (entries : List ClientEntry) : Json :=
  .object (entries.map fun entry => (entry.1, .object entry.2))

/-- What the JSON library does with a map of structs that are written as objects. -/
def ReadsClients (read : Json → Option Clients) : Prop :=
  ∀ entries, read (clientsObject entries) = entries.foldlM readClient ∅

end GatewayProxy
