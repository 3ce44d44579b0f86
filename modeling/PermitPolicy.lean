import PermitPolicy.Main
import PermitPolicy.Proofs.DottedName
import PermitPolicy.Proofs.OperandForms
import PermitPolicy.Proofs.Overlay
import PermitPolicy.Proofs.Reporting
import PermitPolicy.Proofs.RuleOrder
import PermitPolicy.Proofs.FactNames
import PermitPolicy.Proofs.PathSelection
import PermitPolicy.Proofs.DateClues
import PermitPolicy.Proofs.Numerals
import PermitPolicy.Proofs.DateItems
import PermitPolicy.Proofs.DateReading
import PermitPolicy.Proofs.ReadBack
import PermitPolicy.Proofs.RuleDecision
import PermitPolicy.Proofs.Reached
import PermitPolicy.Proofs.Rewriting
import PermitPolicy.Proofs.RuleOutcome
import PermitPolicy.Proofs.NamedFacts
import PermitPolicy.Proofs.PolicyFacts
import PermitPolicy.Proofs.TypedDocuments
import PermitPolicy.Proofs.ReadDocuments
import PermitPolicy.Proofs.Adjustments
import PermitPolicy.Proofs.Independence
import PermitPolicy.Proofs.AllowedVehicles
import PermitPolicy.Proofs.DecoderRoundTrip
import PermitPolicy.Proofs.RuleRoundTrip
import PermitPolicy.Proofs.StoredDocuments
import PermitPolicy.Proofs.StandardDates
import PermitPolicy.Proofs.Writable
import PermitPolicy.Proofs.TermDuration
import PermitPolicy.Proofs.KeyPaths
import PermitPolicy.Proofs.DefinitionDefects
import PermitPolicy.Proofs.LocatedRules
import PermitPolicy.Proofs.PermitPeriod
import PermitPolicy.Proofs.Membership
import PermitPolicy.Proofs.PatternHistory
import PermitPolicy.Proofs.ComparisonOrders
import PermitPolicy.Proofs.Resubmission
import PermitPolicy.Proofs.ConditionWalk
import PermitPolicy.Proofs.CatalogNames
