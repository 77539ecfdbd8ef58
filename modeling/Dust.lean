import Dust.Diagram
import Dust.Engine.Summary
import Dust.Engine.Survey
import Dust.Proofs.Engine.Archive
import Dust.Proofs.Engine.CallOrder
import Dust.Proofs.Engine.HelpersUsed
import Dust.Proofs.Engine.NamedData
import Dust.Proofs.Engine.OnDemand
import Dust.Proofs.Engine.Prerun
import Dust.Proofs.Engine.Registry
import Dust.Proofs.Filter.Entities
import Dust.Proofs.Filter.Escaping
import Dust.Proofs.Filter.PercentDecoding
import Dust.Proofs.Filter.RoundTrip
import Dust.Proofs.Filter.ScriptStrings
import Dust.Proofs.Helper.Calculation
import Dust.Proofs.Helper.Comparing
import Dust.Proofs.Helper.Separating
import Dust.Proofs.Render.Append
import Dust.Proofs.Render.Blame
import Dust.Proofs.Render.Editing
import Dust.Proofs.Render.Filtering
import Dust.Proofs.Render.FirstError
import Dust.Proofs.Render.Inclusions
import Dust.Proofs.Render.Indexing
import Dust.Proofs.Render.Inlining
import Dust.Proofs.Render.Joining
import Dust.Proofs.Render.LiteralText
import Dust.Proofs.Render.Locating
import Dust.Proofs.Render.Overriding
import Dust.Proofs.Render.Parameters
import Dust.Proofs.Render.Scoping
import Dust.Proofs.Render.Selecting
import Dust.Proofs.Render.Termination
import Dust.Proofs.Store.Finding
import Dust.Proofs.Syntax.Collecting
import Dust.Proofs.Syntax.Compression
import Dust.Proofs.Syntax.Layout
import Dust.Proofs.Syntax.Nesting
import Dust.Proofs.Syntax.QuotedText
import Dust.Proofs.Syntax.RoundTrip
import Dust.Proofs.Syntax.ShownPlaces
import Dust.Proofs.Syntax.Slices
import Dust.Proofs.Syntax.Stacks
import Dust.Proofs.Syntax.Tiling
import Dust.Proofs.Value.Arithmetic
import Dust.Proofs.Value.Comparison
import Dust.Proofs.Value.RoundTrip
import Dust.Syntax.Equality
