import Sooqa.Foundation.Table
import Sooqa.Foundation.Transition
import Sooqa.Foundation.Outcome
import Sooqa.Foundation.Locks
import Sooqa.Foundation.Bytes
import Sooqa.Queue.Job
import Sooqa.Queue.Lease
import Sooqa.Queue.Fence
import Sooqa.Database
import Sooqa.Publisher.Posts
import Sooqa.Publisher.Sending
import Sooqa.Worker.Runner
import Sooqa.Publisher.Attempt
import Sooqa.Publisher.System
import Sooqa.Publisher.Effects
import Sooqa.Publisher.Calls
import Sooqa.Publisher.Moves
import Sooqa.Publisher.Filing
import Sooqa.Publisher.Agreement
import Sooqa.Publisher.Revision
import Sooqa.Publisher.FailedPosts
import Sooqa.Publisher.AtMostOnce
import Sooqa.Publisher.Channels
import Sooqa.Publisher.Transactions
import Sooqa.Publisher.RowWrites
import Sooqa.Publisher.Locking
import Sooqa.Publisher.Cadence
import Sooqa.Publisher.Repeats
import Sooqa.Publisher.LockOrder
import Sooqa.Enqueue
import Sooqa.Library.Media
import Sooqa.Library.Storage
import Sooqa.Inbox.Repository
import Sooqa.Inbox.Lifecycle
import Sooqa.Inbox.Attempt
import Sooqa.Inbox.System
import Sooqa.Library.Effects
import Sooqa.Inbox.Flow
import Sooqa.Inbox.LifecycleEffects
import Sooqa.Inbox.Calls
import Sooqa.Inbox.Moves
import Sooqa.Inbox.Pipeline
import Sooqa.Inbox.Workspaces
import Sooqa.Inbox.Decisions
import Sooqa.Inbox.Origins
import Sooqa.Captions.Repository
import Sooqa.Captions.System
import Sooqa.Captions.Effects
import Sooqa.Captions.Pending
import Sooqa.Captions.Convergence
import Sooqa.Workspace.System
import Sooqa.Workspace.Effects
import Sooqa.Workspace.Steps
import Sooqa.Workspace.Cleanup
import Sooqa.Media.VideoSequence
import Sooqa.Telegram.Service
import Sooqa.Telegram.Polling
import Sooqa.Telegram.Offsets
import Sooqa.Telegram.Strangers
import Sooqa.Foundation.Text
import Sooqa.Library.Tags
import Sooqa.Jobs.System
import Sooqa.Jobs.Rows
import Sooqa.Jobs.Steps
import Sooqa.Jobs.Accounting
import Sooqa.Jobs.Acknowledgements
import Sooqa.Publisher.Targets
import Sooqa.Publisher.SingleTarget
import Sooqa.Inbox.Failures
import Sooqa.Inbox.Submission
import Sooqa.Foundation.Forms
import Sooqa.Inbox.UrlNormalization
import Sooqa.Inbox.Creation
import Sooqa.Telegram.Redelivery
import Sooqa.Storage.System
import Sooqa.Storage.Effects
import Sooqa.Storage.Causes
import Sooqa.Storage.Dispatch
import Sooqa.Retention.Prune
import Sooqa.Retention.Resumption
import Sooqa.Retention.Stages
import Sooqa.Retention.Safety
import Sooqa.Foundation.LocalAlignment
import Sooqa.Media.SequenceAlignment
import Sooqa.Media.AlignmentTables
import Sooqa.Media.PairScores
import Sooqa.Media.OptimalAlignment
import Sooqa.Media.AlignmentEvidence
import Sooqa.Media.SelfAlignment
import Sooqa.Media.AlignmentSymmetry
import Sooqa.Foundation.Tokens
import Sooqa.Media.Avcc
import Sooqa.Media.AvccDump
import Sooqa.Foundation.Json
import Sooqa.Media.Probe
import Sooqa.Envelope.Probe
import Sooqa.Worker.MediaKind
import Sooqa.Media.Normalize
import Sooqa.Media.NormalizationPlan
import Sooqa.Foundation.Programs
import Sooqa.Worker.Normalization
import Sooqa.Worker.CandidateSelection
import Sooqa.Worker.CandidateFiles
import Sooqa.Worker.PlannedStream
import Sooqa.Media.ResolutionLadder
import Sooqa.Media.SamplingGrid
import Sooqa.Foundation.Ranking
import Sooqa.Media.SearchTokens
import Sooqa.VideoIdentity.Fingerprint
import Sooqa.VideoIdentity.Evidence
import Sooqa.VideoIdentity.Decision
import Sooqa.Media.LadderDescent
import Sooqa.Media.TwoPassBudget
import Sooqa.Media.BlockedAddresses
import Sooqa.Media.DirectHttp
import Sooqa.Media.TcoPreflight
import Sooqa.Worker.AdaptedDimensions
import Sooqa.Foundation.Keyset
import Sooqa.Foundation.Numerals
import Sooqa.Api.Cursor
import Sooqa.Api.Lists
import Sooqa.Foundation.Records
import Sooqa.Envelope.Stages
import Sooqa.Envelope.Source
import Sooqa.Envelope.Data
import Sooqa.Envelope.Lengths
import Sooqa.Jobs.Operations
import Sooqa.Jobs.Fencing
import Sooqa.Publisher.CadenceSlots
import Sooqa.Storage.AtMostOnce
import Sooqa.Storage.Fencing
import Sooqa.Foundation.JsonPaths
import Sooqa.Library.SourceMetadata
import Sooqa.Foundation.CheckedArithmetic
import Sooqa.Media.CheckedAlignment
import Sooqa.Media.AlignmentArithmetic
import Sooqa.Storage.Statements
import Sooqa.Storage.Completions
import Sooqa.Workspace.UploadSource
import Sooqa.VideoIdentity.Sessions
import Sooqa.VideoIdentity.MediaBytes
import Sooqa.VideoIdentity.Serialization
