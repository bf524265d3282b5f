import ClassMaps.Console
import ClassMaps.Console.Cells
import ClassMaps.Console.Handler
import ClassMaps.Console.Layout
import ClassMaps.Console.Markup
import ClassMaps.Console.Style
import ClassMaps.Diagnostic
import ClassMaps.Entry
import ClassMaps.Expr
import ClassMaps.Expr.Calls
import ClassMaps.Expr.Print
import ClassMaps.Expr.Rename
import ClassMaps.Expr.StringValue
import ClassMaps.Expr.Target
import ClassMaps.Grammar
import ClassMaps.Grammar.Derivation
import ClassMaps.Grammar.Fragment
import ClassMaps.Grammar.Lossless
import ClassMaps.Grammar.Python
import ClassMaps.Literal
import ClassMaps.Log
import ClassMaps.Lookup
import ClassMaps.Module
import ClassMaps.Module.Lossless
import ClassMaps.Position
import ClassMaps.Run
import ClassMaps.Session
import ClassMaps.Settings
import ClassMaps.Settings.Load
import ClassMaps.Settings.Toml
import ClassMaps.Text
import ClassMaps.Text.Identifier
import ClassMaps.Text.Quoted
import ClassMaps.Text.Utf8
import ClassMaps.Token
import ClassMaps.Token.Lexemes
import ClassMaps.Token.Lossless
import ClassMaps.Token.Scan
import ClassMaps.Proofs.Declaration
import ClassMaps.Proofs.Resolution
import ClassMaps.Proofs.Occurrence
import ClassMaps.Proofs.Check
import ClassMaps.Proofs.Tour
import ClassMaps.Proofs.Outcome
import ClassMaps.Proofs.Splice
import ClassMaps.Proofs.Account
import ClassMaps.Proofs.Quotation
import ClassMaps.Proofs.Idempotence
import ClassMaps.Proofs.Sequence
import ClassMaps.Proofs.Acceptance
import ClassMaps.Proofs.Reading
import ClassMaps.Proofs.Rerun
import ClassMaps.Proofs.Commutation
import ClassMaps.Proofs.Verbosity
import ClassMaps.Proofs.Inert
import ClassMaps.Proofs.Delimiting
import ClassMaps.Proofs.Recognition
import ClassMaps.Proofs.Trial
import ClassMaps.Proofs.Erasure
import ClassMaps.Proofs.FirstFault
import ClassMaps.Proofs.Formatting
import ClassMaps.Proofs.Place
import ClassMaps.Proofs.Beginning
import ClassMaps.Proofs.Pointing
import ClassMaps.Proofs.Report
import ClassMaps.Proofs.Distinct
import ClassMaps.Proofs.Lookalike
import ClassMaps.Proofs.Records
import ClassMaps.Proofs.Handlers
import ClassMaps.Proofs.Precedence
import ClassMaps.Proofs.Fuel
