import LeaseBroker.Blank
import LeaseBroker.BrokerError
import LeaseBroker.ClusterRecord
import LeaseBroker.ConnectionCache
import LeaseBroker.Connections
import LeaseBroker.Credentials
import LeaseBroker.DatabaseRecord
import LeaseBroker.Diagnosis
import LeaseBroker.Doubles
import LeaseBroker.Failures
import LeaseBroker.Fields
import LeaseBroker.Fleet
import LeaseBroker.Fragments
import LeaseBroker.Instant
import LeaseBroker.Integers
import LeaseBroker.Json
import LeaseBroker.JsonReader
import LeaseBroker.Lease
import LeaseBroker.LeaseTerm
import LeaseBroker.MemoryStore
import LeaseBroker.Messages
import LeaseBroker.Metrics
import LeaseBroker.Names
import LeaseBroker.Octets
import LeaseBroker.Operation
import LeaseBroker.Outcome
import LeaseBroker.Program
import LeaseBroker.Quoted
import LeaseBroker.Reclaim
import LeaseBroker.RecordForm
import LeaseBroker.Recorder
import LeaseBroker.Refusal
import LeaseBroker.Rehearsal
import LeaseBroker.Replicas
import LeaseBroker.RoleRecord
import LeaseBroker.RoleTemplates
import LeaseBroker.Router
import LeaseBroker.Rules
import LeaseBroker.Search
import LeaseBroker.Settings
import LeaseBroker.Span
import LeaseBroker.Statements
import LeaseBroker.StoreKeys
import LeaseBroker.Table
import LeaseBroker.TagIndex
import LeaseBroker.TagRecord
import LeaseBroker.Target
import LeaseBroker.Template
import LeaseBroker.Unprintable
import LeaseBroker.Uuid
import LeaseBroker.WordCharacters
import LeaseBroker.World
import LeaseBroker.Proofs.Surroundings
import LeaseBroker.Proofs.Requirements
import LeaseBroker.Proofs.Interleaving
import LeaseBroker.Proofs.Footprints
import LeaseBroker.Proofs.ServerWork
import LeaseBroker.Proofs.JsonText
import LeaseBroker.Proofs.RecordKeys
import LeaseBroker.Proofs.RecordText
import LeaseBroker.Proofs.CurrentConnections
import LeaseBroker.Proofs.FailedRequests
import LeaseBroker.Proofs.RecordChanges
import LeaseBroker.Proofs.ChangeSteps
import LeaseBroker.Proofs.RecordWriters
import LeaseBroker.Proofs.ConcurrentChanges
import LeaseBroker.Proofs.RoleStatements
import LeaseBroker.Proofs.OperationFrames
import LeaseBroker.Proofs.RestingConnections
import LeaseBroker.Proofs.Memberships
import LeaseBroker.Proofs.Commands
import LeaseBroker.Proofs.Sessions
import LeaseBroker.Proofs.ManagementRoles
import LeaseBroker.Proofs.CredentialTerms
import LeaseBroker.Proofs.LeaseTerms
import LeaseBroker.Proofs.SentStatements
import LeaseBroker.Proofs.StoredRecords
import LeaseBroker.Proofs.DeletedConnections
import LeaseBroker.Proofs.ExactListings
import LeaseBroker.Proofs.ConnectionUse
import LeaseBroker.Proofs.InactiveRecords
import LeaseBroker.Proofs.AlteredRecords
import LeaseBroker.Proofs.ActiveConnections
import LeaseBroker.Proofs.Listings
import LeaseBroker.Proofs.DeletedClusters
import LeaseBroker.Proofs.ServerPasswords
import LeaseBroker.Proofs.PasswordRotations
import LeaseBroker.Proofs.ClonedPasswords
import LeaseBroker.Proofs.HostRequests
import LeaseBroker.Proofs.ClusterLifecycles
import LeaseBroker.Proofs.DatabaseLifecycles
import LeaseBroker.Proofs.Reclaiming
import LeaseBroker.Proofs.ServedOperations
import LeaseBroker.Proofs.ServedCalls
import LeaseBroker.Proofs.TransactionTraces
import LeaseBroker.Proofs.Savepoints
import LeaseBroker.Proofs.Revocations
import LeaseBroker.Proofs.Issuances
import LeaseBroker.Proofs.SqlTokens
import LeaseBroker.Proofs.LoginNames
import LeaseBroker.Proofs.IssuedLogins
import LeaseBroker.Proofs.ObjectsOwners
import LeaseBroker.Proofs.ForeignCalls
import LeaseBroker.Proofs.ClusterIsolation
import LeaseBroker.Proofs.ConnectionLedger
import LeaseBroker.Proofs.ConnectionBalance
import LeaseBroker.Proofs.LeaseCalls
import LeaseBroker.Proofs.ReportedTerms
import LeaseBroker.Proofs.LeaseBookkeeping
import LeaseBroker.Proofs.TagMaps
import LeaseBroker.Proofs.TagRequests
import LeaseBroker.Proofs.ClusterRegistrations
import LeaseBroker.Proofs.DatabaseRegistrations
import LeaseBroker.Proofs.ClonedClusters
import LeaseBroker.Proofs.OvertakenOpenings
import LeaseBroker.Proofs.ConcurrentGets
import LeaseBroker.Proofs.FieldSpellings
import LeaseBroker.Proofs.TemplatePieces
import LeaseBroker.Proofs.RecordSpellings
import LeaseBroker.Proofs.LoginLengths
import LeaseBroker.Proofs.ListedChildren
import LeaseBroker.Proofs.SupportedPaths
