import LiveBinding.Command.Run
import LiveBinding.Context.Tree
import LiveBinding.Engine.Run
import LiveBinding.Evaluation
import LiveBinding.Expr.Text
import LiveBinding.Json.Reader
import LiveBinding.Json.Text
import LiveBinding.Main
import LiveBinding.Settings.Reader
import LiveBinding.Toml.Reader
import LiveBinding.Proofs.Context.Arena
import LiveBinding.Proofs.Context.Forest
import LiveBinding.Proofs.Context.Preservation
import LiveBinding.Proofs.Context.Visibility
import LiveBinding.Proofs.Evaluation
import LiveBinding.Proofs.Engine.Store
import LiveBinding.Proofs.Engine.Soundness
import LiveBinding.Proofs.Engine.Freshness
import LiveBinding.Proofs.Context.Generations
import LiveBinding.Proofs.Engine.Cancellation
import LiveBinding.Proofs.Expr.Phrase
import LiveBinding.Proofs.Expr.Spelling
import LiveBinding.Proofs.Expr.Grammar
import LiveBinding.Proofs.Decimal.Text
import LiveBinding.Proofs.Expr.Lexing
import LiveBinding.Proofs.Expr.RoundTrip
import LiveBinding.Proofs.Context.Histories
import LiveBinding.Proofs.Engine.Atomicity
import LiveBinding.Proofs.Expr.Paths
import LiveBinding.Proofs.Expr.Canonical
import LiveBinding.Proofs.Template.Encoding
import LiveBinding.Proofs.Engine.Detachment
import LiveBinding.Proofs.Context.Handles
import LiveBinding.Proofs.Engine.Sessions
import LiveBinding.Proofs.Engine.Views
import LiveBinding.Proofs.Engine.Handover
import LiveBinding.Proofs.Engine.Issuing
import LiveBinding.Proofs.Context.Implicits
import LiveBinding.Proofs.Engine.Noninterference
import LiveBinding.Proofs.Context.Resolution
import LiveBinding.Proofs.Engine.ReadBack
import LiveBinding.Proofs.Engine.Refusals
import LiveBinding.Proofs.Engine.Silence
import LiveBinding.Proofs.Engine.Commutation
import LiveBinding.Proofs.Engine.Rebinding
import LiveBinding.Proofs.Decimal.Range
import LiveBinding.Proofs.Operation.Finiteness
import LiveBinding.Proofs.Expr.Finiteness
import LiveBinding.Proofs.Operation.MixedComparison
import LiveBinding.Proofs.Engine.Rounds
import LiveBinding.Proofs.Expr.Arguments
import LiveBinding.Proofs.Operation.Callable
import LiveBinding.Proofs.Command.Watching
import LiveBinding.Proofs.Value.Frame
import LiveBinding.Proofs.Value.Lens
import LiveBinding.Proofs.Context.Layers
import LiveBinding.Proofs.Decimal.Integers
import LiveBinding.Proofs.Engine.Redeclaration
import LiveBinding.Proofs.Operation.Folding
import LiveBinding.Proofs.Operation.TextComparison
import LiveBinding.Proofs.Operation.Symmetry
import LiveBinding.Proofs.Value.Text
import LiveBinding.Proofs.Template.Scanning
import LiveBinding.Proofs.Template.Decomposition
import LiveBinding.Proofs.Expr.Layout
import LiveBinding.Proofs.Expr.Coverage
import LiveBinding.Proofs.Expr.Blanks
import LiveBinding.Proofs.Expr.PathTexts
import LiveBinding.Proofs.Decimal.Nearest
import LiveBinding.Proofs.Json.Conversion
import LiveBinding.Proofs.Expr.Progress
