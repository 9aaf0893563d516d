import FormRules.Journal.Log
import FormRules.Proofs.Bailing
import FormRules.Proofs.Configuration
import FormRules.Proofs.ExpressionParts
import FormRules.Proofs.MachineSteps
import FormRules.Proofs.Snapshot
import FormRules.Proofs.Trimming
import FormRules.Report.Arguments
import FormRules.Rule.Stock
import FormRules.Validation.Run
import FormRules.Proofs.ExpressionPattern
import FormRules.Proofs.ExpressionGrammar
import FormRules.Proofs.ExpressionRoundTrip
import FormRules.Proofs.Resolution
import FormRules.Proofs.DelimitedText
import FormRules.Proofs.RegexRule
import FormRules.Proofs.Backtracking
import FormRules.Proofs.DelimitedPattern
import FormRules.Proofs.History
import FormRules.Proofs.KeptConfiguration
import FormRules.Proofs.NumericText
import FormRules.Proofs.Rearrangement
import FormRules.Proofs.RefusedRun
import FormRules.Proofs.IntegerComparison
import FormRules.Proofs.Rounding
import FormRules.Proofs.TimeReading
import FormRules.Proofs.PatternScanning
import FormRules.Proofs.TimeOrder
import FormRules.Proofs.PatternRefusal
import FormRules.Proofs.IntegerText
import FormRules.Proofs.PathLookup
import FormRules.Proofs.Outcomes
import FormRules.Proofs.LatestCheck
import FormRules.Proofs.TokenLeaves
import FormRules.Proofs.Thresholds
import FormRules.Proofs.LooseEquality
import FormRules.Proofs.TimeDuality
import FormRules.Proofs.PlainPattern
import FormRules.Proofs.NumeralGrammar
import FormRules.Proofs.TextKinds
import FormRules.Proofs.MailAddress
import FormRules.Proofs.LowerCase
import FormRules.Proofs.RuleNames
import FormRules.Proofs.WritableNotes
import FormRules.Proofs.LibraryNotes
import FormRules.Proofs.LogHistory
