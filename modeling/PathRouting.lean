import PathRouting.Main
import PathRouting.Proofs.Regex.Alignment
import PathRouting.Proofs.Route.Chain
import PathRouting.Proofs.Route.Log
import PathRouting.Route.Condition
import PathRouting.Route.Router
import PathRouting.Json.Reader
import PathRouting.Proofs.Pattern.Shape
import PathRouting.Proofs.Regex.Numbering
import PathRouting.Proofs.Pattern.Slots
import PathRouting.Proofs.Regex.Labels
import PathRouting.Proofs.Regex.Backtracking
import PathRouting.Proofs.Regex.Exploration
import PathRouting.Proofs.Regex.Matching
import PathRouting.Proofs.Regex.Sets
import PathRouting.Proofs.Regex.Simplest
import PathRouting.Proofs.Regex.Outermost
import PathRouting.Proofs.Pattern.Anchor
import PathRouting.Proofs.Regex.Ordered
import PathRouting.Proofs.Regex.Runs
import PathRouting.Proofs.Unicode.Folding
import PathRouting.Proofs.Pattern.Ways
import PathRouting.Proofs.Pattern.Lowering
import PathRouting.Proofs.Regex.Ends
import PathRouting.Proofs.Pattern.Reading
import PathRouting.Proofs.Pattern.Arrival
import PathRouting.Proofs.Pattern.Agreement
import PathRouting.Proofs.Pattern.Flattening
import PathRouting.Proofs.Pattern.Language
import PathRouting.Proofs.Pattern.Cells
import PathRouting.Proofs.Pattern.Streaming
import PathRouting.Proofs.Pattern.Spine
import PathRouting.Proofs.Pattern.Building
import PathRouting.Proofs.Pattern.Lockstep
import PathRouting.Proofs.Pattern.Nesting
import PathRouting.Proofs.Pattern.Kinds
import PathRouting.Proofs.Pattern.Links
import PathRouting.Proofs.Regex.Renumbering
import PathRouting.Proofs.Pattern.Concatenation
import PathRouting.Proofs.Pattern.Joining
import PathRouting.Proofs.Route.Nested
import PathRouting.Proofs.Regex.Locality.Escape
import PathRouting.Proofs.Regex.Locality.Class
import PathRouting.Proofs.Regex.Locality.Reader
import PathRouting.Proofs.Regex.Framing
import PathRouting.Proofs.Regex.Fragments
import PathRouting.Proofs.Regex.Tidy
import PathRouting.Proofs.Regex.Rewriting
import PathRouting.Proofs.Regex.SelfContained
import PathRouting.Proofs.Regex.Sealing.Escape
import PathRouting.Proofs.Regex.Sealing.Class
import PathRouting.Proofs.Regex.Sealing.Reader
import PathRouting.Proofs.Regex.Sealed
import PathRouting.Proofs.Pattern.Exchange
import PathRouting.Proofs.Pattern.SubPatterns
import PathRouting.Proofs.Pattern.Bodies
import PathRouting.Proofs.Pattern.Evaluation
import PathRouting.Proofs.Pattern.RoundTrip
import PathRouting.Proofs.Regex.Preference
import PathRouting.Proofs.Pattern.Braces
import PathRouting.Proofs.Pattern.Alternatives
import PathRouting.Proofs.Route.Siblings
import PathRouting.Proofs.Pattern.Composition
import PathRouting.Proofs.Pattern.ValueSets
import PathRouting.Proofs.Pattern.Cutting
import PathRouting.Proofs.Pattern.Scanning
import PathRouting.Proofs.Pattern.Covering
import PathRouting.Proofs.Pattern.Spacing
import PathRouting.Proofs.Pattern.Buildable
import PathRouting.Proofs.Pattern.Optional
import PathRouting.Proofs.Pattern.Counting
import PathRouting.Proofs.Route.Literal
import PathRouting.Proofs.Regex.Names
import PathRouting.Proofs.Pattern.Merging
import PathRouting.Proofs.Regex.Extents
import PathRouting.Proofs.Route.Cuts
import PathRouting.Proofs.Pattern.Grammar
import PathRouting.Proofs.Pattern.Spans
import PathRouting.Proofs.Bindings
import PathRouting.Pattern.Sink
import PathRouting.Proofs.Pattern.Quoting
import PathRouting.Proofs.Pattern.Delivery
import PathRouting.Proofs.Route.Calls
import PathRouting.Proofs.Route.Tidying
import PathRouting.Proofs.Route.Grouping
import PathRouting.Proofs.Pattern.Dependence
import PathRouting.Proofs.Settings.Layers
import PathRouting.Proofs.Text.Quoted
import PathRouting.Proofs.Pattern.Outline
import PathRouting.Proofs.Pattern.Shortest
