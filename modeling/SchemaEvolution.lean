import SchemaEvolution.Main
import SchemaEvolution.Proofs.Check.DeclarationOrder
import SchemaEvolution.Proofs.Check.Lineage
import SchemaEvolution.Proofs.Schema.Acceptance
import SchemaEvolution.Proofs.Change.Replay
import SchemaEvolution.Proofs.Change.Exactness
import SchemaEvolution.Proofs.Check.Silence
import SchemaEvolution.Proofs.Check.Independence
import SchemaEvolution.Proofs.Check.Tolerance
import SchemaEvolution.Proofs.Check.Renaming
import SchemaEvolution.Check.Pool
import SchemaEvolution.Proofs.Check.Portion
import SchemaEvolution.Proofs.Check.Scheduling
import SchemaEvolution.Proofs.Json.Records
import SchemaEvolution.Proofs.Schema.Encoding
import SchemaEvolution.Proofs.Digest.Checksum
import SchemaEvolution.Proofs.Schema.Fingerprint
import SchemaEvolution.Proofs.Check.Faults
import SchemaEvolution.Proofs.Check.TypeChanges
import SchemaEvolution.Proofs.CommandLine.Blame
import SchemaEvolution.Proofs.Check.Extension
import SchemaEvolution.Proofs.CommandLine.ExitCode
import SchemaEvolution.Proofs.Check.Occurrence
import SchemaEvolution.Proofs.Check.Vacancy
import SchemaEvolution.Proofs.Check.DroppedReservations
import SchemaEvolution.Proofs.Check.AssumedValues
import SchemaEvolution.Proofs.Check.ZeroValues
import SchemaEvolution.Proofs.Report.Raising
import SchemaEvolution.Proofs.Schema.Cursor
import SchemaEvolution.Proofs.Report.Affected
import SchemaEvolution.Proofs.Files.Arrangement
import SchemaEvolution.Proofs.Version.Steps
import SchemaEvolution.Proofs.Config.Precedence
import SchemaEvolution.Proofs.Report.Lines
import SchemaEvolution.Proofs.Check.ChangeCounts
