import EvalConsole.Main
import EvalConsole.Rehearsal.Step
import EvalConsole.Proofs.Console.Lockstep
import EvalConsole.Proofs.Console.Accounts
import EvalConsole.Proofs.Reply.Classification
import EvalConsole.Proofs.Http.Submission
import EvalConsole.Proofs.Rehearsal.LastResponse
import EvalConsole.Proofs.Rehearsal.Numbering
import EvalConsole.Proofs.Settings.ServerHistory
import EvalConsole.Proofs.Rehearsal.Wakeups
import EvalConsole.Proofs.Settings.Directories
import EvalConsole.Proofs.Settings.MapRefinement
import EvalConsole.Proofs.Settings.Reading
import EvalConsole.Proofs.Settings.FailedOpenings
import EvalConsole.Proofs.Settings.FailedCalls
import EvalConsole.Proofs.Settings.SessionAgreement
import EvalConsole.Proofs.Http.Redirection
import EvalConsole.Proofs.Http.SingleCall
import EvalConsole.Proofs.Http.StatusFirst
import EvalConsole.Proofs.Json.ReadBack
import EvalConsole.Proofs.Reply.ShownAgain
import EvalConsole.Proofs.Text.Fields
import EvalConsole.Proofs.Url.Punycode
import EvalConsole.Proofs.Url.Domain
import EvalConsole.Proofs.Url.Ipv4
import EvalConsole.Proofs.Url.Ipv6
import EvalConsole.Proofs.Url.Percent
import EvalConsole.Proofs.Url.Host
import EvalConsole.Proofs.Url.Server
import EvalConsole.Proofs.Url.Rereading
import EvalConsole.Proofs.Url.EndpointOrigin
import EvalConsole.Proofs.Number.Shortest
import EvalConsole.Proofs.Reply.IntegralFloats
import EvalConsole.Proofs.Console.Routing
import EvalConsole.Proofs.Settings.Reset
import EvalConsole.Proofs.Settings.Subcommand
import EvalConsole.Proofs.Console.Padding
import EvalConsole.Proofs.Rehearsal.Aside
import EvalConsole.Proofs.Rehearsal.AtOnce
import EvalConsole.Proofs.Rehearsal.Bystanders
import EvalConsole.Proofs.Console.Lines
import EvalConsole.Proofs.Console.Single
import EvalConsole.Proofs.Reply.Rendering
import EvalConsole.Proofs.Json.Nodes
