import ReactLint.Catalog.Basic
import ReactLint.CommandLine.Run
import ReactLint.Config.Load
import ReactLint.Http.Framework
import ReactLint.Http.Service
import ReactLint.Json.Decode
import ReactLint.Main
import ReactLint.Proofs.Analysis.Independence
import ReactLint.Registry.Load
import ReactLint.Report.Json
import ReactLint.Report.Sarif
import ReactLint.Report.Terminal
import ReactLint.Rule.Entry
import ReactLint.Proofs.Analysis.Faultless
import ReactLint.Proofs.Registry.Selection
import ReactLint.Proofs.Report.Tables
import ReactLint.Proofs.Report.Agreement
import ReactLint.Proofs.Json.Grammar
import ReactLint.Proofs.Json.Writing
import ReactLint.Proofs.Report.WireFormat
import ReactLint.Proofs.Registry.Faults
import ReactLint.Proofs.CommandLine.Startup
import ReactLint.Proofs.Report.References
import ReactLint.Proofs.Disk
import ReactLint.Proofs.CommandLine.Refusal
import ReactLint.Proofs.CommandLine.ExitCode
import ReactLint.Proofs.Http.Agreement
import ReactLint.Proofs.Interleaving
import ReactLint.Proofs.Matching.Lead
import ReactLint.Proofs.Matching.Shift
import ReactLint.Proofs.AllowList
import ReactLint.Proofs.Analysis.Extension
import ReactLint.Proofs.Analysis.Translation
import ReactLint.Proofs.Disk.Listing
import ReactLint.Proofs.Registry.Loading
import ReactLint.Proofs.Registry.Building
import ReactLint.Proofs.Matching.Reach
import ReactLint.Proofs.Matching.Parts
import ReactLint.Proofs.Lines
import ReactLint.Proofs.Snippet
import ReactLint.Proofs.Letters
import ReactLint.Proofs.Analysis.SingleRule
import ReactLint.Proofs.Catalog.StateInitializer
import ReactLint.Proofs.Catalog.Accessibility
import ReactLint.Proofs.Shape
import ReactLint.Proofs.Matching.Language
import ReactLint.Proofs.Context
import ReactLint.Proofs.Catalog.InlineFunction
import ReactLint.Proofs.Catalog.LargeComponent
import ReactLint.Proofs.Parentheses
import ReactLint.Proofs.Catalog.Dependencies
import ReactLint.Proofs.Report.Groups
import ReactLint.Proofs.Rule.Entry
import ReactLint.Proofs.Config.Merging
