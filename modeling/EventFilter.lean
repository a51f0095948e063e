import EventFilter.Cli.Program
import EventFilter.Composition.Stack
import EventFilter.Json.Parser
import EventFilter.Log.Session
import EventFilter.Main
import EventFilter.Cli.Clock
import EventFilter.Proofs.Verdict
import EventFilter.Proofs.Lossless
import EventFilter.Proofs.Segment
import EventFilter.Proofs.Rejection
import EventFilter.Proofs.Blame
import EventFilter.Proofs.Usable
import EventFilter.Proofs.Labelled
import EventFilter.Proofs.Concatenation
import EventFilter.Proofs.Reordering
import EventFilter.Proofs.Unfiltered
import EventFilter.Proofs.PrintedLine
import EventFilter.Proofs.JsonText
import EventFilter.Proofs.PlainTable
import EventFilter.Proofs.CommandLine
import EventFilter.Proofs.PrintedReport
import EventFilter.Proofs.Calls
import EventFilter.Proofs.CompileCommand
import EventFilter.Proofs.Complement
import EventFilter.Proofs.Occurrences
import EventFilter.Proofs.EventOptions
import EventFilter.Proofs.MatchCommand
import EventFilter.Proofs.Duration
import EventFilter.Proofs.Presentation
import EventFilter.Proofs.Brackets
import EventFilter.Proofs.BareFilter
import EventFilter.Proofs.Spellings
import EventFilter.Proofs.Registers
