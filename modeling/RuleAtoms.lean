import RuleAtoms.Main
import RuleAtoms.Report.Json
import RuleAtoms.Proofs.Evaluation.Values
import RuleAtoms.Proofs.Evaluation.Rows
import RuleAtoms.Proofs.Evaluation.Filter
import RuleAtoms.Proofs.Evaluation.Bind
import RuleAtoms.Proofs.Literal.FaithfulToken
import RuleAtoms.Proofs.Evaluation.WrittenTexts
import RuleAtoms.Proofs.Name.Abbreviation
import RuleAtoms.Proofs.Text.Runs
import RuleAtoms.Proofs.AtomText.Pieces
import RuleAtoms.Proofs.AtomText.Arguments
import RuleAtoms.Proofs.AtomText.RoundTrip
import RuleAtoms.Proofs.Markup.Tags
import RuleAtoms.Proofs.Markup.Trees
import RuleAtoms.Proofs.AtomMarkup.RoundTrip
import RuleAtoms.Proofs.Literal.TokenRoundTrip
import RuleAtoms.Proofs.Number.WholeText
import RuleAtoms.Proofs.Evaluation.Integers
import RuleAtoms.Proofs.Evaluation.WrittenIntegers
import RuleAtoms.Proofs.Evaluation.Faults
import RuleAtoms.Proofs.Evaluation.EventLog
import RuleAtoms.Proofs.Table.Operations
import RuleAtoms.Proofs.Predicate.ComparisonOrder
import RuleAtoms.Proofs.Evaluation.Conjunction
import RuleAtoms.Proofs.Markup.RoundTrip
import RuleAtoms.Proofs.Json.RoundTrip
import RuleAtoms.Proofs.Table.JsonText
import RuleAtoms.Proofs.Markup.Endings
import RuleAtoms.Proofs.Command.Shown
import RuleAtoms.Proofs.Predicate.OperandOrder
import RuleAtoms.Proofs.Predicate.MixedArithmetic
import RuleAtoms.Proofs.Predicate.ProducedLiterals
import RuleAtoms.Proofs.Evaluation.Resolution
import RuleAtoms.Proofs.Number.ExactValue
import RuleAtoms.Proofs.Number.IntegralText
import RuleAtoms.Proofs.Number.SmallArithmetic
import RuleAtoms.Proofs.Number.Overflow
import RuleAtoms.Proofs.Predicate.Definedness
import RuleAtoms.Proofs.Number.EqualText
import RuleAtoms.Proofs.Literal.EqualNumbers
import RuleAtoms.Proofs.Predicate.FirstOccurrence
import RuleAtoms.Proofs.Predicate.RoundedPositions
import RuleAtoms.Proofs.Predicate.Substring
import RuleAtoms.Proofs.Predicate.Comparisons
import RuleAtoms.Proofs.AtomText.Layout
import RuleAtoms.Proofs.AtomText.Spellings
import RuleAtoms.Proofs.AtomText.Rereading
import RuleAtoms.Proofs.AtomMarkup.OtherSpaces
import RuleAtoms.Proofs.Name.LongestNamespace
import RuleAtoms.Proofs.Table.Equality
import RuleAtoms.Proofs.Table.CsvText
import RuleAtoms.Proofs.Markup.Rereading
import RuleAtoms.Proofs.Predicate.Names
import RuleAtoms.Proofs.Predicate.Registration
import RuleAtoms.Proofs.Evaluation.CheckedAtoms
import RuleAtoms.Proofs.Literal.CanonicalIntegers
import RuleAtoms.Proofs.AtomText.Quoted
