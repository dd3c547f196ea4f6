import ScriptLint.Lint.Host
import ScriptLint.Lint.Tester
import ScriptLint.Proofs.ReportOrder
import ScriptLint.Proofs.WrittenConfig
import ScriptLint.Proofs.CallRules
import ScriptLint.Proofs.HostAgreement
import ScriptLint.Proofs.ElementVisitors
import ScriptLint.Proofs.TesterVerdict
import ScriptLint.Proofs.PositionInverse
import ScriptLint.Proofs.SpanText
import ScriptLint.Proofs.NameErrors
import ScriptLint.Proofs.OwnName
import ScriptLint.Proofs.Relabeling
import ScriptLint.Proofs.OptionalCallee
import ScriptLint.Proofs.KeySpelling
import ScriptLint.Proofs.LastSetting
import ScriptLint.Proofs.LeadingLeaf
import ScriptLint.Proofs.Subscriptions
