import Blockwise.Proofs.Interpret.Lookahead
import Blockwise.Proofs.Interpret.Stripping
import Blockwise.Proofs.Text.Stripping
import Blockwise.Proofs.Interpret.CommentBodies
import Blockwise.Proofs.Interpret.Sketching
import Blockwise.Proofs.Document.Frames
import Blockwise.Proofs.Interpret.Bodies
import Blockwise.Proofs.Document.Traversal
import Blockwise.Proofs.Document.Runs
import Blockwise.Proofs.Interpret.IncludeGuard
import Blockwise.Proofs.Interpret.Comparison
import Blockwise.Proofs.Files.Memory
import Blockwise.Proofs.Interpret.Rendering
import Blockwise.Proofs.Text.Parts
import Blockwise.Proofs.Document.Forest
import Blockwise.Proofs.Interpret.Recognition
import Blockwise.Proofs.Interpret.Tiling
import Blockwise.Proofs.Document.Tiling
import Blockwise.Proofs.Interpret.Draft
import Blockwise.Proofs.Interpret.Reached
import Blockwise.Proofs.Document.Family
import Blockwise.Proofs.Document.Arena
import Blockwise.Proofs.Document.Nodes
import Blockwise.Main
import Blockwise.CommandLine.Run
import Blockwise.Config.Load
import Blockwise.Toml.Reader
import Blockwise.Toml.Scalar
import Blockwise.Interpret.Include
import Blockwise.Preset
import Blockwise.Document.Render
import Blockwise.Document.Structure
import Blockwise.Block
import Blockwise.Files.Reader
import Blockwise.Tag
import Blockwise.Text.Cursor
import Blockwise.Text.LowerCase
import Blockwise.Text.Classes
import Blockwise.Proofs.Document.Construction
import Blockwise.Proofs.Interpret.Progress
import Blockwise.Proofs.Interpret.Nesting
import Blockwise.Proofs.Document.Legible
import Blockwise.Proofs.Interpret.Faults
import Blockwise.Proofs.Document.Mirrors
import Blockwise.Proofs.Interpret.Transparency
import Blockwise.Proofs.Toml.StringLiteral
import Blockwise.Proofs.Toml.Lines
import Blockwise.Proofs.Files.Disk
import Blockwise.Proofs.Config.RoundTrip
import Blockwise.Proofs.Config.Building
import Blockwise.Proofs.Config.Entries
import Blockwise.Proofs.CommandLine.BaseDir
import Blockwise.Proofs.Config.Depth
import Blockwise.Proofs.Config.CycleGuard
import Blockwise.Proofs.Document.Alike
import Blockwise.Proofs.Interpret.OpenPath
import Blockwise.Proofs.Document.Composition
import Blockwise.Proofs.Interpret.Simulation
import Blockwise.Proofs.Interpret.Registration
import Blockwise.Proofs.Interpret.SpareFiles
import Blockwise.Proofs.Document.Splice
import Blockwise.Proofs.Interpret.Unfollowed
import Blockwise.Proofs.Interpret.EndOfInput
import Blockwise.Proofs.Text.Tally
import Blockwise.Proofs.Interpret.Braces
import Blockwise.Proofs.Interpret.Counting
import Blockwise.Proofs.Interpret.Sketch
import Blockwise.Proofs.Path.Resolution
import Blockwise.Proofs.Document.Drawing
import Blockwise.Proofs.Document.SourceOrder
import Blockwise.Proofs.Interpret.SourceOrder
import Blockwise.Proofs.Interpret.Rebasing
import Blockwise.Proofs.Interpret.Lookups
import Blockwise.Proofs.Text.Cursor
