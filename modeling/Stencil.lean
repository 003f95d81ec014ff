import Stencil.Diagnostic
import Stencil.Document.Json
import Stencil.Files.Tree
import Stencil.Load
import Stencil.Main
import Stencil.Program
import Stencil.Proofs.Acceptance
import Stencil.Proofs.Demand
import Stencil.Proofs.Tiling
import Stencil.Reader.Records
import Stencil.Report
import Stencil.Scan.Feed
import Stencil.View.Listing
import Stencil.View.Nodes
import Stencil.Proofs.Formation
import Stencil.Proofs.Emission
import Stencil.Proofs.Fidelity
import Stencil.Proofs.Spelling
import Stencil.Proofs.Recognition
import Stencil.Proofs.Writing
import Stencil.Proofs.Scope
import Stencil.Proofs.Tidiness
import Stencil.Proofs.Adjacency
import Stencil.Proofs.Independence
import Stencil.Proofs.Bounds
import Stencil.Proofs.Directives
import Stencil.Proofs.Showing
import Stencil.Proofs.Agreement
import Stencil.Proofs.Arguments
import Stencil.Proofs.Transitions
import Stencil.Proofs.Joining
import Stencil.Proofs.Interruption
import Stencil.Proofs.Locating
import Stencil.Proofs.Marks
import Stencil.Proofs.Quoting
import Stencil.Proofs.Lines
import Stencil.Proofs.Outline
import Stencil.Proofs.Compaction
import Stencil.Proofs.Lossless
import Stencil.Proofs.Loading
