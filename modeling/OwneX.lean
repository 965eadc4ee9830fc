import OwneX.Contracts.World
import OwneX.Contracts.RegistryStep
import OwneX.Library.Trace
import OwneX.Contracts.AccessStep
import OwneX.Contracts.AssetStep
import OwneX.Library.IndexedList
import OwneX.Contracts.Runs
import OwneX.Contracts.Invariants
import OwneX.Library.JsNumber
import OwneX.Platform.Chain
import OwneX.Platform.Roster
import OwneX.Contracts.KillSwitch
import OwneX.Contracts.SelfGrant
import OwneX.Contracts.Custody
import OwneX.Library.Async
import OwneX.Platform.AccessDecision
import OwneX.Platform.LiveAccess
import OwneX.Library.Paging
import OwneX.Platform.AuditLog
import OwneX.Platform.AuditTrail
import OwneX.Library.KeyedList
import OwneX.Platform.Indexer
import OwneX.Platform.AuditIndex
import OwneX.Library.PrefixCode
import OwneX.Library.JsString
import OwneX.Platform.Hash
import OwneX.Platform.Authz
import OwneX.Platform.Records
import OwneX.Platform.TamperEvidence
import OwneX.Contracts.Appointment
import OwneX.Contracts.Replay
import OwneX.Contracts.Revocation
import OwneX.Contracts.RootSeat
import OwneX.Platform.SyncRound
import OwneX.Platform.ReplacedChain
import OwneX.Platform.RefusedRows
import OwneX.Platform.AuditTenants
import OwneX.Library.Interleaving
import OwneX.Library.JsText
import OwneX.Platform.Siwe
import OwneX.Platform.SignIn
import OwneX.Platform.IndexerProgram
import OwneX.Platform.IndexerRuns
import OwneX.Library.Base64
import OwneX.Library.UrlEncoded
import OwneX.Platform.Callbacks
import OwneX.Platform.ApplicationTables
import OwneX.Platform.Applications
import OwneX.Platform.ApplicationRoutes
import OwneX.Platform.Authorize
import OwneX.Platform.PartnerRoutes
import OwneX.Platform.Server
import OwneX.Platform.ServerRuns
import OwneX.Platform.RegistryRevocation
import OwneX.Platform.AuthorizationCodes
import OwneX.Platform.CodeExchange
import OwneX.Platform.ConsentRedirects
import OwneX.Contracts.Frames
import OwneX.Contracts.WellFormed
import OwneX.Contracts.Suspension
import OwneX.Contracts.Governance
import OwneX.Contracts.AssetLog
import OwneX.Platform.IssuedMessage
import OwneX.Library.TwoRuns
import OwneX.Platform.SameReads
import OwneX.Platform.CallbackForms
import OwneX.Platform.Redemption
import OwneX.Platform.PartnerScope
import OwneX.Platform.RegistryWrites
import OwneX.Platform.IssuedCredentials
import OwneX.Platform.CallbackSets
import OwneX.Library.JsCodePoints
import OwneX.Platform.AssetStore
import OwneX.Library.JsDecimal
import OwneX.Platform.AssetRoutes
import OwneX.Platform.AssetServer
import OwneX.EmployeePortal.Routes
import OwneX.EmployeePortal.SessionSafety
import OwneX.Library.UrlParsing
import OwneX.Platform.CallbackGrammar
import OwneX.Platform.ConfirmAlone
import OwneX.Platform.ConfirmRaces
import OwneX.Platform.GenericSso
import OwneX.Platform.LostBindings
import OwneX.Platform.MigrationReruns
import OwneX.Platform.ProfileRoutes
import OwneX.Platform.RegistrableCallbacks
import OwneX.Platform.ResumeSignIn
import OwneX.Platform.RecordHistories
import OwneX.Platform.StoredRecords
import OwneX.Contracts.MemberPaging
import OwneX.Library.JsLiterals
import OwneX.Platform.HonestSignIn
import OwneX.Platform.ProvisionedCallbacks
import OwneX.Platform.ActiveStage
import OwneX.Library.GreedyMatching
import OwneX.Platform.Reconciliation
import OwneX.Platform.DeploymentScope
import OwneX.Library.Provenance
import OwneX.Platform.Mediation
import OwneX.Platform.AssetMediation
import OwneX.Platform.PermissionMatrix
import OwneX.Library.LinkedServices
import OwneX.EmployeePortal.VouchedSessions
import OwneX.Platform.PartnerAnswers
import OwneX.EmployeePortal.Pages
import OwneX.EmployeePortal.LivePages
import OwneX.Library.Batches
import OwneX.Platform.DirectoryRoutes
import OwneX.Platform.Directory
import OwneX.Platform.DirectoryRecords
import OwneX.Platform.Metadata
import OwneX.Platform.MetadataRoutes
import OwneX.Platform.MetadataScope
import OwneX.Platform.Images
import OwneX.Platform.UseResource
