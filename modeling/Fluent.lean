import Fluent.Analyzer.Behavior
import Fluent.Analyzer.Check
import Fluent.Analyzer.Flag
import Fluent.Analyzer.Host
import Fluent.Analyzer.Setting
import Fluent.Chain.Basic
import Fluent.Chain.Context
import Fluent.Chain.Extract
import Fluent.Chain.Spine
import Fluent.Index.Build
import Fluent.Index.Collect
import Fluent.Index.Facts
import Fluent.Index.Inquiry
import Fluent.Index.Markers
import Fluent.Index.Stages
import Fluent.Index.Terminal
import Fluent.Marker.Basic
import Fluent.Marker.Directive
import Fluent.Obligation.Basic
import Fluent.Obligation.Resolve
import Fluent.Obligation.Stack
import Fluent.Program
import Fluent.Proofs.Analyzer.Account
import Fluent.Proofs.Analyzer.Findings
import Fluent.Proofs.Analyzer.Ignoring
import Fluent.Proofs.Analyzer.Messages
import Fluent.Proofs.Analyzer.NoTerminals
import Fluent.Proofs.Chain.Answers
import Fluent.Proofs.Chain.Ascent
import Fluent.Proofs.Chain.Descent
import Fluent.Proofs.Chain.Extraction
import Fluent.Proofs.Chain.Partition
import Fluent.Proofs.Graph
import Fluent.Proofs.Imports
import Fluent.Proofs.Index.Collect
import Fluent.Proofs.Index.Eligibility
import Fluent.Proofs.Index.Finishing
import Fluent.Proofs.Index.History
import Fluent.Proofs.Index.Ignoring
import Fluent.Proofs.Index.Memo
import Fluent.Proofs.Index.Names
import Fluent.Proofs.Index.Propagation
import Fluent.Proofs.Index.Provenance
import Fluent.Proofs.Index.Settling
import Fluent.Proofs.Index.Sharing
import Fluent.Proofs.Index.Stages
import Fluent.Proofs.Index.Terminal
import Fluent.Proofs.Obligation.Completion
import Fluent.Proofs.Obligation.Grounds
import Fluent.Proofs.Obligation.Lifetime
import Fluent.Proofs.Obligation.Tracking
import Fluent.Proofs.Obligation.Verdict
import Fluent.Proofs.Obligation.Walk
import Fluent.Proofs.Syntax.Cursor
import Fluent.Proofs.Types.Embedding
import Fluent.QualifiedName
import Fluent.Report
import Fluent.Rule.Basic
import Fluent.Rule.File
import Fluent.Rule.Validation
import Fluent.Source.Comment
import Fluent.Source.File
import Fluent.Source.Lines
import Fluent.Syntax.Cursor
import Fluent.Syntax.Kind
import Fluent.Syntax.Node
import Fluent.Text.Cut
import Fluent.Text.CharClass
import Fluent.Text.Name
import Fluent.Text.Quoted
import Fluent.Text.Utf8
import Fluent.Toml.Date
import Fluent.Toml.Document
import Fluent.Toml.Number
import Fluent.Toml.Rules
import Fluent.Toml.Statement
import Fluent.Toml.Text
import Fluent.Types.Basic
import Fluent.Types.Declarations
import Fluent.Types.Identity
import Fluent.Types.Interface
import Fluent.Types.Members
import Fluent.Types.MethodSet
import Fluent.Types.TypeSet
import Fluent.Proofs.Index.StageOrder
import Fluent.Proofs.QualifiedName
import Fluent.Proofs.Types.Members
import Fluent.Proofs.Index.Ruling
import Fluent.Proofs.Index.Denotation
import Fluent.Proofs.Marker
import Fluent.Proofs.Chain.Usage
import Fluent.Proofs.Index.Redeclaration
import Fluent.Proofs.Source.Lines
import Fluent.Proofs.Chain.EntryPoints
import Fluent.Proofs.Obligation.Wording
import Fluent.Proofs.Obligation.Conservation
import Fluent.Proofs.Rule.Validation
import Fluent.Proofs.Analyzer.Settings
import Fluent.Proofs.Obligation.Invariant
