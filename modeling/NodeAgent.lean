import NodeAgent.Agent.Run
import NodeAgent.CommandLine.Program
import NodeAgent.Health
import NodeAgent.Json.Printer
import NodeAgent.Json.Reader
import NodeAgent.Kube.Retrieve
import NodeAgent.Log.Session
import NodeAgent.Main
import NodeAgent.Node.Lookup
import NodeAgent.Proofs.Redaction.Spelling
import NodeAgent.Redaction
import NodeAgent.Settings.Load
import NodeAgent.Proofs.Redaction.Characters
import NodeAgent.Proofs.Redaction.Shape
import NodeAgent.Proofs.Redaction.Pass
import NodeAgent.Proofs.Redaction.Residue
import NodeAgent.Proofs.Redaction.Reach
import NodeAgent.Proofs.Redaction.Border
import NodeAgent.Proofs.Redaction.Pair
import NodeAgent.Proofs.Redaction.Secrecy
import NodeAgent.Proofs.Redaction.Hidden
import NodeAgent.Proofs.Redaction.Header
import NodeAgent.Proofs.Kube.Reported
import NodeAgent.Proofs.Json.Text
import NodeAgent.Proofs.Json.Number
import NodeAgent.Proofs.Json.RoundTrip
import NodeAgent.Proofs.Log.Fields
import NodeAgent.Proofs.Log.LineDocument
import NodeAgent.Proofs.Log.History
import NodeAgent.Proofs.Log.Calls
import NodeAgent.Proofs.Kube.Sources
import NodeAgent.Proofs.Node.Addresses
import NodeAgent.Proofs.Node.Lookup
import NodeAgent.Proofs.Node.Hostname
import NodeAgent.Proofs.Agent.Readiness
import NodeAgent.Proofs.Agent.Accounting
import NodeAgent.Proofs.Service.Lifecycle
import NodeAgent.Proofs.Text.Run
import NodeAgent.Proofs.Outcome
import NodeAgent.Proofs.Number.Rounding
import NodeAgent.Proofs.Number.Whole
import NodeAgent.Proofs.Duration.Seconds
import NodeAgent.Proofs.Duration.Grammar
import NodeAgent.Proofs.Node.DevelopMode
import NodeAgent.Proofs.Node.Description
import NodeAgent.Proofs.Node.Gaps
import NodeAgent.Proofs.Settings.Resolution
import NodeAgent.Proofs.Settings.Precedence
import NodeAgent.Proofs.Settings.Validity
import NodeAgent.Proofs.Settings.DurationText
import NodeAgent.Proofs.Node.Provider
import NodeAgent.Proofs.Log.Order
import NodeAgent.Proofs.Log.Lines
import NodeAgent.Proofs.Log.Agreement
import NodeAgent.Proofs.Text.Visible
import NodeAgent.Proofs.Json.Escaped
import NodeAgent.Proofs.Redaction.Blanks
import NodeAgent.Proofs.Log.OneLine
import NodeAgent.Proofs.Log.Breaks
import NodeAgent.Proofs.Text.Words
import NodeAgent.Proofs.Redaction.Words
import NodeAgent.Proofs.Redaction.Repeat
import NodeAgent.Proofs.Agent.RetryPolicy
import NodeAgent.Proofs.Http.Get
import NodeAgent.Proofs.Health.History
import NodeAgent.Proofs.Health.Endpoints
import NodeAgent.Proofs.Datum
import NodeAgent.Proofs.Settings.Stability
import NodeAgent.Proofs.Address.Parts
import NodeAgent.Proofs.Address.RoundTrip
import NodeAgent.Proofs.Node.Relisting
import NodeAgent.Proofs.Agent.Stages
import NodeAgent.Proofs.Log.Overlay
import NodeAgent.Proofs.Service.Actions
