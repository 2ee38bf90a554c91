import DeliverySystem.AcceptedPreviews
import DeliverySystem.ApplicationIdentity
import DeliverySystem.ApplicationStatus
import DeliverySystem.AppliedReplay
import DeliverySystem.Applier
import DeliverySystem.ApplierLedger
import DeliverySystem.ApprovalCurrency
import DeliverySystem.AttestationArtifacts
import DeliverySystem.AttestationBoundary
import DeliverySystem.AttestationClaims
import DeliverySystem.AttestationConnection
import DeliverySystem.AttestationMemoryStore
import DeliverySystem.AttestationRecords
import DeliverySystem.AttestationReference
import DeliverySystem.AttestationRestart
import DeliverySystem.AttestationRoundTrips
import DeliverySystem.AttestationSingleUse
import DeliverySystem.AttestationStoreAgreement
import DeliverySystem.AttestationStoreContract
import DeliverySystem.AttestationStores
import DeliverySystem.AttestationTableLedger
import DeliverySystem.AttestationTables
import DeliverySystem.AttestationVerification
import DeliverySystem.AuditCommits
import DeliverySystem.AuditRecords
import DeliverySystem.AuditRules
import DeliverySystem.AuditSubmissions
import DeliverySystem.AuthorityBindingStores
import DeliverySystem.AuthorityBindings
import DeliverySystem.AuthorityIssuance
import DeliverySystem.BackupManifests
import DeliverySystem.BackupRuns
import DeliverySystem.BarePlans
import DeliverySystem.CanonicalBindings
import DeliverySystem.CanonicalForms
import DeliverySystem.CanonicalValues
import DeliverySystem.CheckFingerprints
import DeliverySystem.CivilTimes
import DeliverySystem.ClaimPreparation
import DeliverySystem.ClaimSettlement
import DeliverySystem.CommittedAudits
import DeliverySystem.ConceptualPreviews
import DeliverySystem.ConnectionHistories
import DeliverySystem.ConstrainedRows
import DeliverySystem.CreationReceipts
import DeliverySystem.CredentialContinuity
import DeliverySystem.DdlTokens
import DeliverySystem.DispatchHistory
import DeliverySystem.EndpointGuards
import DeliverySystem.EventHistory
import DeliverySystem.EvidenceIntegrity
import DeliverySystem.EvidenceRecords
import DeliverySystem.EvidenceRoundTrips
import DeliverySystem.ExecutableSequences
import DeliverySystem.ExecutionContexts
import DeliverySystem.ExecutionInvariant
import DeliverySystem.ExecutionRecords
import DeliverySystem.ExecutionStore
import DeliverySystem.ExecutionTransactions
import DeliverySystem.FallibleRuns
import DeliverySystem.FaultyConnections
import DeliverySystem.GuardedEdges
import DeliverySystem.IssuanceHistories
import DeliverySystem.IssuanceRegistry
import DeliverySystem.IssueBodies
import DeliverySystem.IssueCommands
import DeliverySystem.JsonText
import DeliverySystem.KeyLifecycle
import DeliverySystem.KeyedRevisions
import DeliverySystem.KeyedRows
import DeliverySystem.MaintenanceRules
import DeliverySystem.MemoryPreviewStore
import DeliverySystem.NormalForms
import DeliverySystem.OperandAgreement
import DeliverySystem.OperationEnvelope
import DeliverySystem.PageReads
import DeliverySystem.PairedLists
import DeliverySystem.PlannedHistories
import DeliverySystem.PlannedRevisions
import DeliverySystem.Planning
import DeliverySystem.PostconditionObservation
import DeliverySystem.PreviewEligibility
import DeliverySystem.PreviewHistories
import DeliverySystem.PreviewStore
import DeliverySystem.PreviewStoreAgreement
import DeliverySystem.PythonValues
import DeliverySystem.ReadOnlyStates
import DeliverySystem.RecordedOperands
import DeliverySystem.ReferenceLibrary
import DeliverySystem.RemoteReads
import DeliverySystem.RemoteSnapshots
import DeliverySystem.RestartAcceptance
import DeliverySystem.RestartConsistency
import DeliverySystem.RestartEvidence
import DeliverySystem.RestartOutcomes
import DeliverySystem.RestoreRuns
import DeliverySystem.RestoredBackups
import DeliverySystem.ResubmittedAudits
import DeliverySystem.RevalidationAttempts
import DeliverySystem.SealedPreviews
import DeliverySystem.SequencedLogs
import DeliverySystem.SequentialLedger
import DeliverySystem.SharedFiles
import DeliverySystem.SharedStates
import DeliverySystem.SnapshotForms
import DeliverySystem.SnapshotReloads
import DeliverySystem.SqliteMaintenance
import DeliverySystem.StatusAgreement
import DeliverySystem.StatusConcurrency
import DeliverySystem.StoredPreviews
import DeliverySystem.SubmissionOrder
import DeliverySystem.TextLines
import DeliverySystem.TransitionContract
import DeliverySystem.UrlTexts
import DeliverySystem.WriteDriver
import DeliverySystem.WriteDriverOutcomes
import DeliverySystem.WriteOperationRepeats
import DeliverySystem.WriteOperations
