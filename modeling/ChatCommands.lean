import ChatCommands.Access.Group
import ChatCommands.Argument.Assignment
import ChatCommands.Argument.Error
import ChatCommands.Argument.Parsing
import ChatCommands.Argument.Primitive
import ChatCommands.Argument.Reference
import ChatCommands.Argument.Typed
import ChatCommands.Argument.Value
import ChatCommands.Command.Basic
import ChatCommands.Command.Chain
import ChatCommands.Command.Registry
import ChatCommands.Console.Basic
import ChatCommands.Console.Commands
import ChatCommands.Console.Input
import ChatCommands.Console.Options
import ChatCommands.Console.Output
import ChatCommands.Console.Settings
import ChatCommands.Decimal.Rounding
import ChatCommands.Decimal.Shortest
import ChatCommands.Directory.Basic
import ChatCommands.Domain.Calendar
import ChatCommands.Domain.Entity
import ChatCommands.Domain.Event
import ChatCommands.Domain.Id
import ChatCommands.Domain.ReplySpec
import ChatCommands.Domain.Timestamp
import ChatCommands.Domain.Uuid
import ChatCommands.Effect.Act
import ChatCommands.Effect.Job
import ChatCommands.Effect.Lookup
import ChatCommands.Effect.Platform
import ChatCommands.Effect.Procedure
import ChatCommands.Effect.Program
import ChatCommands.Effect.Request
import ChatCommands.Effect.Session
import ChatCommands.Invocation.AliasTable
import ChatCommands.Invocation.Basic
import ChatCommands.Invocation.Token
import ChatCommands.Invocation.TokenStream
import ChatCommands.Json.Basic
import ChatCommands.Json.Number
import ChatCommands.Json.Reader
import ChatCommands.Json.Shape
import ChatCommands.Json.Token
import ChatCommands.Json.Writer
import ChatCommands.Main
import ChatCommands.Observation
import ChatCommands.Outcome
import ChatCommands.Pipeline.Dispatch
import ChatCommands.Pipeline.Executor
import ChatCommands.Pipeline.Feed
import ChatCommands.Pipeline.Handling
import ChatCommands.Pipeline.Loading
import ChatCommands.Pipeline.Process
import ChatCommands.Pipeline.Reception
import ChatCommands.Pipeline.Retry
import ChatCommands.Pipeline.Run
import ChatCommands.Pipeline.Settings
import ChatCommands.Pipeline.Validation
import ChatCommands.Rehearsal.Description
import ChatCommands.Rehearsal.Platform
import ChatCommands.Rehearsal.Script
import ChatCommands.Rehearsal.Trace
import ChatCommands.Reply.Chain
import ChatCommands.Text.Blank
import ChatCommands.Text.Numeral
import ChatCommands.Text.Parts
import ChatCommands.Text.Printable
import ChatCommands.Text.Quoted
import ChatCommands.Text.RunTable
import ChatCommands.Text.Utf8
import ChatCommands.Toml.Document
import ChatCommands.Toml.Scalar
import ChatCommands.Toml.Time
import ChatCommands.Toml.Value
import ChatCommands.Url.Basic
import ChatCommands.Url.Canonical
import ChatCommands.Url.Direction
import ChatCommands.Url.DomainName
import ChatCommands.Url.Folding
import ChatCommands.Url.FoldingTable
import ChatCommands.Url.Host
import ChatCommands.Url.Joining
import ChatCommands.Url.Punycode
import ChatCommands.Wire.Entity
import ChatCommands.Wire.Event
import ChatCommands.Wire.Reply
import ChatCommands.Wire.Settings
import ChatCommands.Proofs.ProgramRuns
import ChatCommands.Proofs.ChainMatching
import ChatCommands.Proofs.AliasExpansion
import ChatCommands.Proofs.InteractionRuns
import ChatCommands.Proofs.LookupFailures
import ChatCommands.Proofs.HonestAnswers
import ChatCommands.Proofs.EventMatching
import ChatCommands.Proofs.LoadRuns
import ChatCommands.Proofs.StageRuns
import ChatCommands.Proofs.Clearance
import ChatCommands.Proofs.StageContracts
import ChatCommands.Proofs.ProcessEndings
import ChatCommands.Proofs.CommandTables
import ChatCommands.Proofs.InheritedParameters
import ChatCommands.Proofs.TextAssignment
import ChatCommands.Proofs.KindConformance
import ChatCommands.Proofs.JobProgress
import ChatCommands.Proofs.ReceptionCourse
import ChatCommands.Proofs.FaultCounting
import ChatCommands.Proofs.ReceptionStanding
import ChatCommands.Proofs.RetryLaw
import ChatCommands.Proofs.RunAccounts
import ChatCommands.Proofs.EventIsolation
import ChatCommands.Proofs.ValidationVerdict
import ChatCommands.Proofs.ReplyChains
import ChatCommands.Proofs.SessionLifecycle
import ChatCommands.Proofs.ExecutorHistories
import ChatCommands.Proofs.ExecutorPromises
import ChatCommands.Proofs.StoppedRuns
import ChatCommands.Proofs.ReadAhead
import ChatCommands.Proofs.WorkplaceHistories
import ChatCommands.Proofs.GroupMembership
import ChatCommands.Proofs.LexemeCuts
import ChatCommands.Proofs.RecordGrammar
import ChatCommands.Proofs.WrittenNumbers
import ChatCommands.Proofs.JsonDocuments
import ChatCommands.Proofs.EventMarks
import ChatCommands.Proofs.JsonForms
import ChatCommands.Proofs.SharedForms
import ChatCommands.Proofs.InputForms
import ChatCommands.Proofs.IntegerGrammar
import ChatCommands.Proofs.SlotTexts
import ChatCommands.Proofs.MentionForms
import ChatCommands.Proofs.EntityReferences
import ChatCommands.Proofs.HandlingOrders
import ChatCommands.Proofs.RemainderTokens
import ChatCommands.Proofs.TypedTokens
import ChatCommands.Proofs.PlainAddresses
import ChatCommands.Proofs.Permalinks
import ChatCommands.Proofs.AliasTables
import ChatCommands.Proofs.AliasOrders
import ChatCommands.Proofs.CompatibleKinds
import ChatCommands.Proofs.HandlerTurns
import ChatCommands.Proofs.TokenQueues
import ChatCommands.Proofs.RetryWords
import ChatCommands.Proofs.OutcomeOffers
import ChatCommands.Proofs.ParallelParsing
