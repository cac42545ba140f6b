import Stencil.Engine.Basic
import Stencil.Filter.Gallery
import Stencil.Filter.Standard
import Stencil.Grammar.Scan.Lossless
import Stencil.Program.Lookups
import Stencil.Template.Operands
import Stencil.Proofs.Render.Simulation
import Stencil.Proofs.Program.Faithful
import Stencil.Proofs.Engine.Cache
import Stencil.Proofs.Grammar.Lexeme
import Stencil.Proofs.Grammar.Passage
import Stencil.Proofs.Grammar.Triple
import Stencil.Proofs.Grammar.Layout
import Stencil.Proofs.Template.Print
import Stencil.Proofs.Template.RoundTrip
import Stencil.Proofs.Render.Frames
import Stencil.Proofs.Program.Calls
import Stencil.Proofs.Program.Fallback
import Stencil.Proofs.Program.Sharing
import Stencil.Proofs.Program.Validity
import Stencil.Proofs.Render.Congruence
import Stencil.Proofs.Render.Limits
import Stencil.Proofs.Render.Pieces
import Stencil.Proofs.Text.Markup
import Stencil.Proofs.Render.Escaping
import Stencil.Proofs.Filter.Markup
import Stencil.Proofs.Render.Blocks
import Stencil.Proofs.Template.Nodes
import Stencil.Proofs.Render.Failures
import Stencil.Proofs.Program.Failures
import Stencil.Proofs.Program.Problems
import Stencil.Proofs.Render.FreeVariables
import Stencil.Proofs.Engine.Loading
import Stencil.Proofs.Render.Appending
import Stencil.Proofs.Render.Turns
import Stencil.Proofs.Grammar.Parts
import Stencil.Proofs.Grammar.Pairing
import Stencil.Proofs.Template.WellFormed
import Stencil.Proofs.Program.Merging
import Stencil.Proofs.Filter.Failures
import Stencil.Proofs.Program.Faults
import Stencil.Proofs.Grammar.Enclosure
import Stencil.Proofs.Template.Braces
import Stencil.Proofs.Grammar.Attempts
import Stencil.Proofs.Template.Rejection
import Stencil.Proofs.Source.Lines
import Stencil.Proofs.Source.Underline
import Stencil.Proofs.Source.Places
import Stencil.Proofs.Text.Fields
import Stencil.Proofs.Path.Dotted
