import InterWeave.Ethereum.Accounting
import InterWeave.Attestation.SignatureTimes
import InterWeave.Attestation.AggregatedArtifacts
import InterWeave.Attestation.ValidityWindows
import InterWeave.Attestation.SignerConditions
import InterWeave.Attestation.GenericRecords
import InterWeave.Events.Reorganizations
import InterWeave.Signing.Approvals
import InterWeave.Bridge.Endings
import InterWeave.Bridge.PolicyDecisions
import InterWeave.Settlement.AtomicRecords
import InterWeave.Settlement.Restarts
import InterWeave.Settlement.Reservations
import InterWeave.Settlement.ExpiryGates
import InterWeave.Canton.DuplicateIntents
import InterWeave.Canton.ExpiredReleases
import InterWeave.Workflow.Replays
import InterWeave.Idempotency.ClaimHolders
import InterWeave.Identity.SpentChallenges
import InterWeave.Events.IngestedBatches
import InterWeave.Audit.ChainHeads
import InterWeave.Emergency.TenantRuns
import InterWeave.Emergency.AuditedLifts
import InterWeave.Supply.ReconciledLedgers
import InterWeave.Webhooks.DeliveryLogs
import InterWeave.Signing.SignedOnce
import InterWeave.Rest.RoutedIdentifiers
import InterWeave.Policy.ActiveVersions
import InterWeave.Bridge.ReissuedCommands
import InterWeave.Bridge.PersistedEvidence
import InterWeave.Supply.RepeatedRecords
import InterWeave.Core.PlainJson
import InterWeave.Ethereum.AcceptedSignatures
import InterWeave.Policy.PolicyEngine
import InterWeave.Attestation.ReplayKeys
import InterWeave.Webhooks.VerifiedSignatures
import InterWeave.Tenancy.ScopedKeys
import InterWeave.Tenancy.IssuedKeys
import InterWeave.Tenancy.CredentialExpiry
import InterWeave.Emergency.OmittedFields
import InterWeave.Ethereum.BurnedOperations
import InterWeave.Finality.NetworkConfigurations
import InterWeave.Canton.TransferScopes
import InterWeave.Supply.PermutedEffects
import InterWeave.Events.SourceIdentities
import InterWeave.Accounts.Matching
import InterWeave.Custody.Backing
import InterWeave.Custody.BurnedReleases
