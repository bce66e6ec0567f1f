import FieldRules.Proofs.Bulk.DataOrder
import FieldRules.Proofs.FieldOrder
import FieldRules.Proofs.History
import FieldRules.Proofs.Measuring
import FieldRules.Proofs.Rule.Address
import FieldRules.Proofs.Rule.Bounds
import FieldRules.Proofs.Rule.EqualValues
import FieldRules.Proofs.Rule.PatternSearch
import FieldRules.Proofs.RuleForms
import FieldRules.Proofs.Sharing
import FieldRules.Proofs.TypeCheck
