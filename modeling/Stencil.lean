import Stencil.Context.Sharing
import Stencil.FileSet
import Stencil.FileTree
import Stencil.Json.Printer
import Stencil.Main
import Stencil.Proofs.Blocks.Sections
import Stencil.Proofs.Blocks.Ranges
import Stencil.Proofs.Blocks.Derivation
import Stencil.Proofs.Blocks.Parsing
import Stencil.Proofs.Blocks.Grammar
import Stencil.Proofs.Token.Segmentation
import Stencil.Proofs.Token.Scanning
import Stencil.Proofs.Expr.Derivation
import Stencil.Proofs.Expr.Reading
import Stencil.Proofs.Expr.Soundness
import Stencil.Proofs.Expr.Completeness
import Stencil.Proofs.Token.Contents
import Stencil.Proofs.Token.Letters
import Stencil.Proofs.Blocks.Letters
import Stencil.Proofs.Render.Letters
import Stencil.Proofs.Token.Inlining
import Stencil.Proofs.Inlining
import Stencil.Proofs.Token.Place
import Stencil.Proofs.Token.Progress
import Stencil.Proofs.Includes.Sites
import Stencil.Proofs.Includes.Expansion
import Stencil.Proofs.Includes.Openings
import Stencil.Proofs.Includes.Origins
import Stencil.Proofs.Includes.Chains
import Stencil.Proofs.Render.FreeNames
import Stencil.Proofs.Print.Tags
import Stencil.Proofs.Print.Printer
import Stencil.Proofs.Print.RoundTrip
import Stencil.Proofs.Diagnostics.Blocks
import Stencil.Proofs.Diagnostics.Tags
import Stencil.Proofs.Diagnostics.Faults
import Stencil.Proofs.Diagnostics
import Stencil.Proofs.Expr.Height
import Stencil.Proofs.Expr.Gaps
import Stencil.Proofs.Expr.Writing
import Stencil.Proofs.Expr.Names
import Stencil.Proofs.Expr.Spelling
import Stencil.Proofs.Expr.Tallest
import Stencil.Proofs.Path.Output
import Stencil.Proofs.Context.References
import Stencil.Proofs.Context.Snapshots
import Stencil.Proofs.Repeat
import Stencil.Proofs.Value.Functions
import Stencil.Proofs.Expr.Calls
import Stencil.Proofs.Render.Calls
import Stencil.Proofs.Expr.Reads
import Stencil.Proofs.Render.Meaning
import Stencil.Proofs.Render.Visits
import Stencil.Proofs.Render.Occurrences
import Stencil.Proofs.Render.Edits
import Stencil.Proofs.Render.Choice
import Stencil.Proofs.Render.Executions
import Stencil.Proofs.Render.Unreached
import Stencil.Proofs.Includes.Loaders
import Stencil.Proofs.Path.Places
import Stencil.Proofs.Path.Order
import Stencil.Proofs.FileTree.Runs
import Stencil.Proofs.FileTree.Growth
import Stencil.Proofs.FileTree.Reads
import Stencil.Proofs.FileTree.Searches
import Stencil.Proofs.Command.Includes
import Stencil.Proofs.Command.Selection
import Stencil.Proofs.Command.Writing
import Stencil.Proofs.Command.Commit
import Stencil.Proofs.Expr.Blame
import Stencil.Proofs.Path.Canonical
import Stencil.Proofs.Includes.Positions
import Stencil.Proofs.Path.Spellings
import Stencil.Proofs.Settings
import Stencil.Proofs.Includes.Turns
import Stencil.Proofs.Binary64.Order
import Stencil.Proofs.Value.Comparison
import Stencil.Proofs.Binary64.Fields
import Stencil.Proofs.Binary64.Integers
import Stencil.Proofs.Value.Json
import Stencil.Proofs.Render.LoopVariables
import Stencil.Proofs.Blocks.Dividers
import Stencil.Proofs.Blocks.Locality
import Stencil.Proofs.Expr.Counting
import Stencil.Proofs.Expr.Balance
import Stencil.Proofs.Expr.Siblings
import Stencil.Proofs.Expr.Depth
import Stencil.Proofs.Token.Keywords
