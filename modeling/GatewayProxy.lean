import GatewayProxy.Lib.Assoc
import GatewayProxy.Lib.Base64
import GatewayProxy.Lib.BoundedBroadcast
import GatewayProxy.Lib.Broadcast
import GatewayProxy.Lib.FixedWindow
import GatewayProxy.Lib.JsonText
import GatewayProxy.Lib.KeyedLoop
import GatewayProxy.Lib.Percent
import GatewayProxy.Lib.Progress
import GatewayProxy.Lib.Runs
import GatewayProxy.Lib.Serde
import GatewayProxy.Lib.UrlPath
import GatewayProxy.Lib.Utf8
import GatewayProxy.Lib.Watch
import GatewayProxy.Source.Cache
import GatewayProxy.Source.ConfigFile
import GatewayProxy.Source.Deserializer
import GatewayProxy.Source.Dispatch
import GatewayProxy.Source.InMemoryCache
import GatewayProxy.Source.Model
import GatewayProxy.Source.Registry
import GatewayProxy.Source.RestProxy
import GatewayProxy.Source.RestResponse
import GatewayProxy.Source.Server
import GatewayProxy.Source.ShardTask
import GatewayProxy.Source.Sink
import GatewayProxy.Source.State
import GatewayProxy.Source.Sync
import GatewayProxy.Source.Upgrade
import GatewayProxy.Source.Wake
import GatewayProxy.Gateway.Accounting
import GatewayProxy.Gateway.Attribution
import GatewayProxy.Gateway.CommandForm
import GatewayProxy.Gateway.Confinement
import GatewayProxy.Gateway.Connection
import GatewayProxy.Gateway.Delivery
import GatewayProxy.Gateway.Exits
import GatewayProxy.Gateway.Farewell
import GatewayProxy.Gateway.Forwarding
import GatewayProxy.Gateway.Handling
import GatewayProxy.Gateway.Header
import GatewayProxy.Gateway.Heartbeat
import GatewayProxy.Gateway.Introduction
import GatewayProxy.Gateway.Isolation
import GatewayProxy.Gateway.Offline
import GatewayProxy.Gateway.OfflineShards
import GatewayProxy.Gateway.Opcode
import GatewayProxy.Gateway.Outbox
import GatewayProxy.Gateway.Pipeline
import GatewayProxy.Gateway.RateLimit
import GatewayProxy.Gateway.Readiness
import GatewayProxy.Gateway.Relay
import GatewayProxy.Gateway.Revocation
import GatewayProxy.Gateway.SessionLife
import GatewayProxy.Gateway.ShardLookup
import GatewayProxy.Gateway.Snapshot
import GatewayProxy.Gateway.Startup
import GatewayProxy.Gateway.Strangers
import GatewayProxy.Gateway.Stream
import GatewayProxy.Gateway.Typing
import GatewayProxy.Gateway.Wakes
import GatewayProxy.Rest.CanonicalPath
import GatewayProxy.Rest.PercentDecode
import GatewayProxy.Rest.Reply
import GatewayProxy.Rest.Scope
import GatewayProxy.Rest.Tenancy
import GatewayProxy.Rest.VoiceLock
import GatewayProxy.Sync.Convergence
import GatewayProxy.Sync.Freshness
import GatewayProxy.Sync.Grouping
import GatewayProxy.Sync.Notify
import GatewayProxy.Sync.Provenance
import GatewayProxy.Sync.Recovery
import GatewayProxy.Sync.Seed
import GatewayProxy.Voice.CommandOrder
import GatewayProxy.Voice.Grace
import GatewayProxy.Voice.Marks
import GatewayProxy.Voice.Ownership
import GatewayProxy.Voice.Token
import GatewayProxy.System.Access
import GatewayProxy.System.Boot
import GatewayProxy.System.Departure
import GatewayProxy.System.FrontDoor
