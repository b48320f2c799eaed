import MarkupLint.Batch.Basic
import MarkupLint.Batch.Discovery
import MarkupLint.Check
import MarkupLint.Code.Block
import MarkupLint.Code.Diagnosis
import MarkupLint.Code.Doctest
import MarkupLint.Code.Language
import MarkupLint.Code.Position
import MarkupLint.Decimal
import MarkupLint.Dependency
import MarkupLint.Encoding
import MarkupLint.Failure
import MarkupLint.FileCheck
import MarkupLint.FileTree
import MarkupLint.Finding
import MarkupLint.Format.Csv
import MarkupLint.Format.Ini
import MarkupLint.Format.Json
import MarkupLint.Format.JsonReader
import MarkupLint.Format.Toml
import MarkupLint.Format.TomlReader
import MarkupLint.Format.Xml
import MarkupLint.Format.XmlLetter
import MarkupLint.Format.XmlReader
import MarkupLint.Format.YamlFault
import MarkupLint.Format.YamlNode
import MarkupLint.Format.YamlToken
import MarkupLint.Format.YamlValue
import MarkupLint.Ignores
import MarkupLint.Inline
import MarkupLint.Log
import MarkupLint.Main
import MarkupLint.Markup.Address
import MarkupLint.Markup.Block
import MarkupLint.Markup.Contents
import MarkupLint.Markup.Directive
import MarkupLint.Markup.Directive.Body
import MarkupLint.Markup.Directive.Call
import MarkupLint.Markup.Directive.Code
import MarkupLint.Markup.Directive.Definition
import MarkupLint.Markup.Directive.Form
import MarkupLint.Markup.Directive.Image
import MarkupLint.Markup.Directive.Insertion
import MarkupLint.Markup.Directive.Part
import MarkupLint.Markup.Directive.Source
import MarkupLint.Markup.Directive.Tables
import MarkupLint.Markup.Document
import MarkupLint.Markup.Entities
import MarkupLint.Markup.Explicit
import MarkupLint.Markup.Footnote
import MarkupLint.Markup.Heading
import MarkupLint.Markup.Highlight
import MarkupLint.Markup.Hyperlink
import MarkupLint.Markup.Inline
import MarkupLint.Markup.Line
import MarkupLint.Markup.Marker
import MarkupLint.Markup.Message
import MarkupLint.Markup.Name
import MarkupLint.Markup.Node
import MarkupLint.Markup.OptionValue
import MarkupLint.Markup.Paragraph
import MarkupLint.Markup.Propagation
import MarkupLint.Markup.Reader
import MarkupLint.Markup.Role
import MarkupLint.Markup.Span
import MarkupLint.Markup.State
import MarkupLint.Markup.Structure
import MarkupLint.Markup.Substitution
import MarkupLint.Markup.Table
import MarkupLint.Markup.Target
import MarkupLint.Markup.Transition
import MarkupLint.Masking
import MarkupLint.Path
import MarkupLint.Pattern.Basic
import MarkupLint.Pattern.Reader
import MarkupLint.ProjectDirectory
import MarkupLint.ProjectNames
import MarkupLint.ProjectText
import MarkupLint.Proofs.Batch.Independence
import MarkupLint.Proofs.Batch.Steps
import MarkupLint.Proofs.Check.Session
import MarkupLint.Proofs.FileTree
import MarkupLint.Proofs.Finding
import MarkupLint.Proofs.Inline
import MarkupLint.Proofs.Release.Preparation
import MarkupLint.Proofs.Release.Version
import MarkupLint.Proofs.Report
import MarkupLint.Proofs.Settings.Growth
import MarkupLint.Proofs.Settings.Loading
import MarkupLint.Proofs.Settings.Merge
import MarkupLint.Proofs.Settings.Nearest
import MarkupLint.Proofs.Settings.SectionFile
import MarkupLint.Proofs.Suppression
import MarkupLint.Proofs.Text.Blank
import MarkupLint.Proofs.Text.Number
import MarkupLint.Proofs.Text.Pieces
import MarkupLint.Proofs.Text.Search
import MarkupLint.Proofs.Tool.Complaints
import MarkupLint.Registry
import MarkupLint.Release.Arguments
import MarkupLint.Release.Changelog
import MarkupLint.Release.Preparation
import MarkupLint.Release.Version
import MarkupLint.Report
import MarkupLint.Script.Constant
import MarkupLint.Script.Diagnosis
import MarkupLint.Script.Flow
import MarkupLint.Script.Grammar
import MarkupLint.Script.Matching
import MarkupLint.Script.Parse
import MarkupLint.Script.Quotation
import MarkupLint.Script.Rules
import MarkupLint.Script.Scope
import MarkupLint.Script.Token
import MarkupLint.Script.Tree
import MarkupLint.Settings.Basic
import MarkupLint.Settings.Level
import MarkupLint.Settings.Load
import MarkupLint.Settings.LoadError
import MarkupLint.Settings.Merge
import MarkupLint.Settings.Value
import MarkupLint.SourceFile
import MarkupLint.Suppression
import MarkupLint.Text.Ascii
import MarkupLint.Text.Blank
import MarkupLint.Text.ByteFault
import MarkupLint.Text.Case
import MarkupLint.Text.Cased
import MarkupLint.Text.CharSet
import MarkupLint.Text.CharacterName
import MarkupLint.Text.CodePage
import MarkupLint.Text.Decomposition
import MarkupLint.Text.Digit
import MarkupLint.Text.Letter
import MarkupLint.Text.Lines
import MarkupLint.Text.NameTree
import MarkupLint.Text.Normal
import MarkupLint.Text.Printable
import MarkupLint.Text.Punctuation
import MarkupLint.Text.Quoted
import MarkupLint.Text.Search
import MarkupLint.Text.Utf8
import MarkupLint.Text.Width
import MarkupLint.Tool.Run
import MarkupLint.Tool.Words
import MarkupLint.Proofs.Path
import MarkupLint.Proofs.Settings.Override
import MarkupLint.Proofs.FileTree.Walk
import MarkupLint.Proofs.Batch.Discovery
import MarkupLint.Proofs.Code.Beginning
import MarkupLint.Proofs.Code.Position
import MarkupLint.Proofs.Code.Selection
import MarkupLint.Proofs.Masking
import MarkupLint.Proofs.Check.LineNumbers
import MarkupLint.Proofs.Batch.Status
import MarkupLint.Proofs.Batch.Calls
import MarkupLint.Proofs.Batch.Missing
import MarkupLint.Proofs.Release.Changelog
import MarkupLint.Proofs.Check.Nesting
import MarkupLint.Proofs.Settings.InlineNames
import MarkupLint.Proofs.Check.IgnoredMessages
import MarkupLint.Proofs.Code.Directive
import MarkupLint.Proofs.Masking.References
import MarkupLint.Proofs.Settings.NormalForm
import MarkupLint.Proofs.Pattern.Matching
import MarkupLint.Proofs.Settings.EmptyLists
import MarkupLint.Proofs.Pattern.Joined
import MarkupLint.Proofs.ProjectDirectory
import MarkupLint.Proofs.ProjectText
import MarkupLint.Proofs.Check.Registration
import MarkupLint.Proofs.Check.Diagnostics
import MarkupLint.Proofs.Batch.ReadBack
import MarkupLint.Proofs.Check.LineAgreement
import MarkupLint.Proofs.Code.BelowDirective
import MarkupLint.Proofs.Check.Warnings
import MarkupLint.Proofs.Release.Raising
import MarkupLint.Proofs.Check.NamedLine
import MarkupLint.Proofs.Format.JsonReader
