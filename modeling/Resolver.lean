import Resolver.Directory
import Resolver.Main
import Resolver.Net.Loopback
import Resolver.Database.Replacement
import Resolver.Proofs.Cache.Retention
import Resolver.Proofs.Database.Search
import Resolver.Proofs.Database.Sources
import Resolver.Proofs.Database.RoundTrip
import Resolver.Proofs.Pool.Outcome
import Resolver.Proofs.Session.Order
import Resolver.Proofs.Session.Overdue
import Resolver.Proofs.Session.Streaming
import Resolver.Proofs.Database.Replacing
import Resolver.Proofs.Command.Asking
import Resolver.Proofs.Packet.Compression
import Resolver.Proofs.Cache.HashKey
import Resolver.Proofs.Pool.Alternation
import Resolver.Proofs.Session.Lifecycle
import Resolver.Proofs.Packet.TimeToLive
import Resolver.Proofs.Session.Recognition
import Resolver.Proofs.Cache.Oversize
import Resolver.Proofs.Database.Structure
import Resolver.Proofs.Database.Limit
import Resolver.Proofs.Database.Truncation
import Resolver.Proofs.Cache.Accounts
import Resolver.Proofs.Session.Uniform
import Resolver.Proofs.Name.Equality
import Resolver.Proofs.Name.Dotted
import Resolver.Proofs.Session.Reuse
import Resolver.Proofs.Session.Silence
import Resolver.Proofs.Packet.Uncompressed
import Resolver.Proofs.Cache.Passes
import Resolver.Proofs.Settings.Acceptance
