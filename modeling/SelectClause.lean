import SelectClause.Proofs.Catalog.ColumnName
import SelectClause.Proofs.Catalog.Definitions
import SelectClause.Proofs.Catalog.Rereading
import SelectClause.Proofs.Clause.AggregateReading
import SelectClause.Proofs.Clause.ProjectionReading
import SelectClause.Proofs.Options.Renaming
import SelectClause.Proofs.Query.Locating
import SelectClause.Proofs.Query.Rewriting
import SelectClause.Proofs.Row.Restoring
import SelectClause.Proofs.Row.Settling
import SelectClause.Proofs.Target.Collision
import SelectClause.Proofs.Target.Locality
import SelectClause.Proofs.Target.Logging
import SelectClause.Proofs.Target.Modes
import SelectClause.Proofs.Target.Refusal
import SelectClause.Proofs.Target.Resolving
import SelectClause.Proofs.Text.Ending
import SelectClause.Proofs.Text.Undoubling
import SelectClause.Proofs.Validation.Alike
import SelectClause.Proofs.Validation.Given
import SelectClause.Proofs.Validation.Rewriting
