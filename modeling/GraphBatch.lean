import GraphBatch.Main
import GraphBatch.Naming.Reader
import GraphBatch.Proofs.Boundaries
import GraphBatch.Proofs.Calls
import GraphBatch.Proofs.Collisions
import GraphBatch.Proofs.Decoding
import GraphBatch.Proofs.Paths
import GraphBatch.Proofs.Renaming
import GraphBatch.Proofs.TextNames
import GraphBatch.Runner.Local
import GraphBatch.Runner.Script
import GraphBatch.Text.Utf8.RoundTrip
import GraphBatch.Proofs.Overlaps
import GraphBatch.Proofs.Rerun
import GraphBatch.Proofs.Outcomes
import GraphBatch.Proofs.JsonGrammar
import GraphBatch.Proofs.JsonReading
import GraphBatch.Proofs.PublishedReports
import GraphBatch.Proofs.JsonLayouts
import GraphBatch.Proofs.ListingFaults
import GraphBatch.Proofs.ListingOrder
import GraphBatch.Proofs.AcceptedArguments
import GraphBatch.Proofs.ResolvedOptions
import GraphBatch.Proofs.OutputFlags
import GraphBatch.Proofs.ExitStatus
import GraphBatch.Proofs.Cuts
import GraphBatch.Proofs.LegalNames
import GraphBatch.Proofs.SharedRecords
import GraphBatch.Proofs.FailureText
import GraphBatch.Proofs.Occurrences
import GraphBatch.Proofs.RepeatedRenaming
import GraphBatch.Proofs.Recovery
import GraphBatch.Proofs.AgreeingPolicies
import GraphBatch.Proofs.OwnInput
import GraphBatch.Proofs.Components
import GraphBatch.Proofs.EqualConfigurations
import GraphBatch.Proofs.MentionedBytes
import GraphBatch.Proofs.SkippedDirectories
import GraphBatch.Proofs.CarefulScan
