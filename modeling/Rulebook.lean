import Rulebook.Admin.Lists
import Rulebook.Admin.Rules
import Rulebook.Json.Reader
import Rulebook.Json.Writer
import Rulebook.Proofs.Admin.Admission
import Rulebook.Proofs.Admin.Atomicity
import Rulebook.Proofs.Admin.Defaults
import Rulebook.Proofs.Admin.Effects
import Rulebook.Proofs.Admin.Independence
import Rulebook.Proofs.Admin.ListUse
import Rulebook.Proofs.Admin.Placement
import Rulebook.Proofs.Admin.Repair
import Rulebook.Proofs.Admin.Restoring
import Rulebook.Proofs.Admin.Storage
import Rulebook.Proofs.Admin.TemplateUse
import Rulebook.Proofs.Codec.Documents
import Rulebook.Proofs.Lock.Exclusion
import Rulebook.Proofs.Percent.Notation
import Rulebook.Proofs.Priority.Altered
import Rulebook.Proofs.Priority.InPlace
import Rulebook.Proofs.Rule.Building
import Rulebook.Proofs.Validation.Duplicates
import Rulebook.Proofs.Validation.Spelling
import Rulebook.Proofs.Validation.WellFormed
import Rulebook.Rule.Builder
import Rulebook.Proofs.Lock.Guards
