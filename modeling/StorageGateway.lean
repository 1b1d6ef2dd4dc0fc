import StorageGateway.Client.Trace
import StorageGateway.Main
import StorageGateway.Proofs.Exchanges
import StorageGateway.Proofs.Inquiry
import StorageGateway.Proofs.Assembly
import StorageGateway.Proofs.Replies
import StorageGateway.Proofs.Renewal.Dialogue
import StorageGateway.Proofs.Renewal.Protocol
import StorageGateway.Proofs.Renewal.Failing
import StorageGateway.Proofs.History.Happenings
import StorageGateway.Proofs.History.Telling
import StorageGateway.Proofs.Secrecy.Alike
import StorageGateway.Proofs.Secrecy.Lockstep
import StorageGateway.Proofs.Secrecy.Inquiries
import StorageGateway.Proofs.Secrecy.Operations
import StorageGateway.Proofs.Secrecy.Runs
import StorageGateway.Proofs.Operations
import StorageGateway.Proofs.Versions.Known
import StorageGateway.Proofs.Versions.Unreadable
import StorageGateway.Proofs.Url.Gateway
import StorageGateway.Proofs.Url.Resolvable
import StorageGateway.Proofs.OwnFaults.Readings
import StorageGateway.Proofs.OwnFaults.Runs
import StorageGateway.Proofs.Laws
import StorageGateway.Proofs.Closings
import StorageGateway.Proofs.Base64
import StorageGateway.Proofs.Headers.Merging
import StorageGateway.Proofs.Headers.Presenting
import StorageGateway.Proofs.Headers.Effective
import StorageGateway.Proofs.Renewal.Replay
import StorageGateway.Proofs.Renewal.Reading
import StorageGateway.Proofs.Limits
import StorageGateway.Proofs.Watching.Runs
import StorageGateway.Proofs.Environment.Alike
import StorageGateway.Proofs.Bodies
import StorageGateway.Proofs.Rejections
import StorageGateway.Proofs.Logins
import StorageGateway.Proofs.Commands
import StorageGateway.Proofs.Json.Grammar
import StorageGateway.Proofs.Json.Reading
import StorageGateway.Proofs.Json.Writing
import StorageGateway.Proofs.Payloads
import StorageGateway.Proofs.Details
import StorageGateway.Proofs.QuotedWords
import StorageGateway.Proofs.Url.Relative
import StorageGateway.Proofs.Sharing.Clients
import StorageGateway.Proofs.Versions.Shortening
import StorageGateway.Proofs.Listing.Rows
import StorageGateway.Proofs.Listing.Sizes
import StorageGateway.Proofs.Links
