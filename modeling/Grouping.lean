import Grouping.Hook.Rule
import Grouping.Installation.Description
import Grouping.Instant.Rfc3339
import Grouping.Json.Writer
import Grouping.Site.Attachment
import Grouping.Json.Reader
import Grouping.Proofs.Effect
import Grouping.Proofs.Indexing
import Grouping.Proofs.Installed
import Grouping.Proofs.RegistryStep
import Grouping.Proofs.Counting
import Grouping.Proofs.Limits
import Grouping.Proofs.Staleness
import Grouping.Proofs.GroupCreation
import Grouping.Proofs.Agreement
import Grouping.Proofs.Room
import Grouping.Proofs.Assignment
import Grouping.Proofs.PlainAssignment
import Grouping.Proofs.AssignmentRun
import Grouping.Proofs.Reattachment
import Grouping.Proofs.MediaFollowing
import Grouping.Proofs.RelationBundles
import Grouping.Proofs.AttachmentFailure
import Grouping.Proofs.Deletion
import Grouping.Proofs.Joining
import Grouping.Proofs.Operation
import Grouping.Proofs.Dangling
import Grouping.Proofs.Membership
import Grouping.Proofs.MembersOnce
import Grouping.Proofs.RowIdentity
import Grouping.Proofs.Resolution
import Grouping.Proofs.Request
import Grouping.Proofs.Uncached
import Grouping.Proofs.FailedRequest
import Grouping.Proofs.Locking
import Grouping.Proofs.Refusal
import Grouping.Proofs.SerialIds
import Grouping.Proofs.NewGroup
import Grouping.Proofs.PluginIndex
import Grouping.Proofs.Upholding
import Grouping.Proofs.LiveInstallations
import Grouping.Proofs.RoundTrip
import Grouping.Proofs.Resaving
import Grouping.Proofs.PartOrder
import Grouping.Proofs.EmbedSearch
import Grouping.Proofs.SummaryEmbeds
import Grouping.Proofs.Drafting
import Grouping.Proofs.TargetColumn
import Grouping.Proofs.MediaRemoval
import Grouping.Proofs.PluginOrder
import Grouping.Proofs.Origin
import Grouping.Proofs.PluginRemoval
import Grouping.Proofs.MemberLookup
import Grouping.Proofs.FreshIds
import Grouping.Proofs.ResolvedColumns
import Grouping.Proofs.ExcludedNames
