import ChatTemplate.Chat.Command
import ChatTemplate.Chat.Entity
import ChatTemplate.Chat.Message
import ChatTemplate.Chat.Registry
import ChatTemplate.Chat.Session
import ChatTemplate.CommandLine.Options
import ChatTemplate.CommandLine.Outcome
import ChatTemplate.Config
import ChatTemplate.Decimal.Reading
import ChatTemplate.Decimal.Shortest
import ChatTemplate.Decimal.Text
import ChatTemplate.Document.Lexer
import ChatTemplate.Document.Token
import ChatTemplate.Expression.Evaluate
import ChatTemplate.Expression.Words
import ChatTemplate.Fault
import ChatTemplate.Host
import ChatTemplate.Json.Basic
import ChatTemplate.Json.Reading
import ChatTemplate.Main
import ChatTemplate.Operator.Apply
import ChatTemplate.Operator.Table
import ChatTemplate.Proofs.AttributeAccess
import ChatTemplate.Proofs.AttributePrivacy
import ChatTemplate.Proofs.BlockOpenings
import ChatTemplate.Proofs.BranchChains
import ChatTemplate.Proofs.CommandArguments
import ChatTemplate.Proofs.CommandHandOffs
import ChatTemplate.Proofs.CommandLineOutcomes
import ChatTemplate.Proofs.CommandNesting
import ChatTemplate.Proofs.CommandOutcomes
import ChatTemplate.Proofs.CommandPermissions
import ChatTemplate.Proofs.CommandQueue
import ChatTemplate.Proofs.CommandRuns
import ChatTemplate.Proofs.CommandSchedules
import ChatTemplate.Proofs.Concatenation
import ChatTemplate.Proofs.ContextFree
import ChatTemplate.Proofs.CountingScanner
import ChatTemplate.Proofs.CustomCommands
import ChatTemplate.Proofs.DepthLimit
import ChatTemplate.Proofs.DocumentGrammar
import ChatTemplate.Proofs.FastPath
import ChatTemplate.Proofs.IntegerArithmetic
import ChatTemplate.Proofs.IntegerEquality
import ChatTemplate.Proofs.NestedEscapes
import ChatTemplate.Proofs.OperandFaults
import ChatTemplate.Proofs.OperandTrees
import ChatTemplate.Proofs.PartialOperations
import ChatTemplate.Proofs.RegisteredNames
import ChatTemplate.Proofs.RegistryHistory
import ChatTemplate.Proofs.RegistryUse
import ChatTemplate.Proofs.Scanning
import ChatTemplate.Proofs.Spelling
import ChatTemplate.Proofs.StringLiterals
import ChatTemplate.Proofs.TermEvaluation
import ChatTemplate.Proofs.TermGrammar
import ChatTemplate.Proofs.TokenPrinting
import ChatTemplate.Proofs.Trimming
import ChatTemplate.Proofs.TwoRuns
import ChatTemplate.Proofs.WholeDoubles
import ChatTemplate.Proofs.WordConservation
import ChatTemplate.Proofs.WordDepths
import ChatTemplate.Proofs.WordOrder
import ChatTemplate.Proofs.WordPrinting
import ChatTemplate.Rendering.Source
import ChatTemplate.Rendering.Tokens
import ChatTemplate.Text.Blank
import ChatTemplate.Text.WordChar
import ChatTemplate.Trace
import ChatTemplate.Traced
import ChatTemplate.Value
