import PluralRules.Bundled.Cardinals
import PluralRules.Bundled.Lookup
import PluralRules.Category
import PluralRules.Command.Arguments
import PluralRules.Command.Check
import PluralRules.Command.Eval
import PluralRules.Command.Locales
import PluralRules.Command.Options
import PluralRules.Command.Outcome
import PluralRules.Command.Progress
import PluralRules.Command.Run
import PluralRules.Condition.Basic
import PluralRules.Condition.Canonical
import PluralRules.Condition.Holds
import PluralRules.Json.Fault
import PluralRules.Json.Number
import PluralRules.Json.Passing
import PluralRules.Json.Quoted
import PluralRules.Json.Reader
import PluralRules.Json.Shape
import PluralRules.Json.Value
import PluralRules.Main
import PluralRules.Number.Decimal
import PluralRules.Number.Double
import PluralRules.Operand
import PluralRules.Proofs.Condition.Fraction
import PluralRules.Proofs.Condition.Meaning
import PluralRules.Proofs.Condition.WellFormed
import PluralRules.Proofs.FirstFault
import PluralRules.Proofs.Json.Fields
import PluralRules.Proofs.Json.Layout
import PluralRules.Proofs.Json.Readback
import PluralRules.Proofs.Json.Strings
import PluralRules.Proofs.Number.Fraction
import PluralRules.Proofs.Number.Rounding
import PluralRules.Proofs.Operand.Digits
import PluralRules.Proofs.Reading
import PluralRules.Proofs.Record.Readback
import PluralRules.Proofs.RuleText.Canonical
import PluralRules.Proofs.RuleText.Grammar
import PluralRules.Proofs.RuleText.Munch
import PluralRules.Proofs.RuleText.Precedence
import PluralRules.Proofs.RuleText.Recognition
import PluralRules.Proofs.RuleText.Spelling
import PluralRules.Proofs.Table.Agreement
import PluralRules.Proofs.Table.Invariant
import PluralRules.Proofs.Table.Listing
import PluralRules.Proofs.Table.Outcome
import PluralRules.Proofs.Table.Validity
import PluralRules.Proofs.Text.CharacterClass
import PluralRules.Proofs.Text.Utf8Order
import PluralRules.Reading
import PluralRules.Record.Basic
import PluralRules.Record.Json
import PluralRules.Report.Box
import PluralRules.Report.Diagnostic
import PluralRules.Report.Listing
import PluralRules.RuleSet
import PluralRules.RuleText.Error
import PluralRules.RuleText.Parser
import PluralRules.RuleText.Token
import PluralRules.Selector
import PluralRules.Session
import PluralRules.Suggestion
import PluralRules.Table.Basic
import PluralRules.Table.Build
import PluralRules.Table.LocaleMap
import PluralRules.Table.Source
import PluralRules.Text.Blank
import PluralRules.Text.CodePoint
import PluralRules.Text.EditDistance
import PluralRules.Text.Letter
import PluralRules.Text.Quoted
import PluralRules.Proofs.Operand.Literal
import PluralRules.Proofs.RuleText.Refusal
import PluralRules.Proofs.RuleText.ViablePrefix
import PluralRules.Proofs.RuleText.Offence
import PluralRules.Proofs.Condition.Whole
import PluralRules.Proofs.Bundled.Spelling
import PluralRules.Proofs.Table.Reordering
import PluralRules.Proofs.Bundled.Exclusion
import PluralRules.Proofs.Bundled.Sections
import PluralRules.Proofs.Table.RecordOrder
import PluralRules.Proofs.Command.EvalModes
import PluralRules.Proofs.Condition.IntegerReading
import PluralRules.Proofs.Condition.Partial
import PluralRules.Proofs.Session
import PluralRules.Proofs.Bundled.Decimals
import PluralRules.Proofs.Text.Edits
import PluralRules.Proofs.Text.ByteLength
import PluralRules.Proofs.Suggestion
import PluralRules.Proofs.Bundled.Groups
import PluralRules.Proofs.Text.Lines
import PluralRules.Proofs.Report.Label
import PluralRules.Proofs.Report.Underline
import PluralRules.Proofs.Operand.Identity
import PluralRules.Proofs.Table.Evaluation
import PluralRules.Proofs.Condition.TrailingZeros
import PluralRules.Proofs.Operand.IntegerText
import PluralRules.Proofs.Table.InertOther
import PluralRules.Proofs.Command.CheckFiles
import PluralRules.Proofs.RuleText.Partition
