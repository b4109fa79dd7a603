import Recon.Text.Classes
import Recon.Text.Quoted
import Recon.Text.Lowercase
import Recon.Text.Lines
import Recon.Text.Utf8
import Recon.Text.Decimal
import Recon.Duration.Reader
import Recon.Json.Reader
import Recon.Json.Printer
import Recon.Decode.Fields
import Recon.Moment
import Recon.Codec.Pipeline
import Recon.Model.Template
import Recon.Engine.Run
import Recon.Tool.Adapter
import Recon.Tool.Address
import Recon.Toml.Reader
import Recon.Toml.Printer
import Recon.Cli.Settings
import Recon.Cli.Run
import Recon.Main
import Recon.Proofs.Engine.Account
import Recon.Proofs.Engine.Briefing
import Recon.Proofs.Engine.Dependency
import Recon.Proofs.Engine.Lockstep
import Recon.Proofs.Engine.Mode
import Recon.Proofs.Engine.Policy
import Recon.Proofs.Engine.Success
import Recon.Proofs.Engine.Record
import Recon.Proofs.Engine.Crash
import Recon.Proofs.Cli.Reading
import Recon.Proofs.Cli.Selection
import Recon.Proofs.Engine.Cancellation
import Recon.Proofs.Engine.Registration
import Recon.Proofs.Cli.Interruption
import Recon.Proofs.Codec.Documents
import Recon.Proofs.Decode.Duration
import Recon.Proofs.Engine.Decision
import Recon.Proofs.Codec.Printed
import Recon.Proofs.Cli.Printing
import Recon.Proofs.Tool.Blind
import Recon.Proofs.Engine.Matching
import Recon.Proofs.Cli.PipelineFile
import Recon.Proofs.Duration.Grammar
import Recon.Proofs.Duration.Written
import Recon.Proofs.Duration.Saved
import Recon.Proofs.Tool.Scope
import Recon.Proofs.Text.Blank
import Recon.Proofs.Text.Lowercase
import Recon.Proofs.Text.Lines
import Recon.Proofs.Tool.Host
import Recon.Proofs.Tool.Operand
import Recon.Proofs.Tool.Salvage
import Recon.Proofs.Tool.Feed
import Recon.Proofs.Engine.Started
import Recon.Proofs.Tool.Arguments
import Recon.Proofs.Tool.Joining
import Recon.Proofs.Tool.Targets
import Recon.Proofs.Tool.Sweep
import Recon.Proofs.Json.Refused
import Recon.Proofs.Tool.LetterCase
import Recon.Proofs.Text.Words
import Recon.Proofs.Tool.PathLines
import Recon.Proofs.Tool.Gravity
import Recon.Proofs.Xml.Attribute
import Recon.Proofs.Xml.Document
import Recon.Proofs.Xml.Writing
import Recon.Proofs.Tool.ReportTree
import Recon.Proofs.Tool.PortEntry
import Recon.Proofs.Tool.PortReport
import Recon.Proofs.Json.Line
import Recon.Proofs.Tool.DomainName
import Recon.Proofs.Tool.Restriction
import Recon.Proofs.Tool.ProbeForms
import Recon.Proofs.Tool.Spelling
