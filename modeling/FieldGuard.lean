import FieldGuard.Session
import FieldGuard.Proofs.Constraint.Bounds
import FieldGuard.Proofs.Constraint.Membership
import FieldGuard.Proofs.Numeral.Lenient
import FieldGuard.Proofs.Record.Inheritance
import FieldGuard.Proofs.Record.Listing
import FieldGuard.Proofs.Record.Siblings
import FieldGuard.Proofs.Schema.SavedFile
import FieldGuard.Proofs.Tag.Image
import FieldGuard.Proofs.Validation.Adapters
import FieldGuard.Proofs.Validation.Dependence
import FieldGuard.Proofs.Validation.Log
import FieldGuard.Proofs.Validation.Naming
import FieldGuard.Proofs.Validation.Strict
import FieldGuard.Proofs.Violation.Additions
