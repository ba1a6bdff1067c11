import WireSchema.Bits.RoundUp
import WireSchema.Bits.Width
import WireSchema.Catalog
import WireSchema.Composite.Aggregate
import WireSchema.Composite.Build
import WireSchema.Composite.Declaration
import WireSchema.Composite.Extent
import WireSchema.Composite.Framing
import WireSchema.Composite.Heading
import WireSchema.Composite.Lookup
import WireSchema.Composite.Offsets
import WireSchema.DataType.Array
import WireSchema.DataType.Basic
import WireSchema.DataType.Equality
import WireSchema.Error.Cause
import WireSchema.Error.Check
import WireSchema.Error.Kind
import WireSchema.Error.Located
import WireSchema.Fault
import WireSchema.LengthSet.Arithmetic
import WireSchema.LengthSet.Ascending
import WireSchema.LengthSet.Basic
import WireSchema.LengthSet.FewestSteps
import WireSchema.LengthSet.Replicate
import WireSchema.Name.Component
import WireSchema.Name.Dotted
import WireSchema.PortId
import WireSchema.Primitive
import WireSchema.Proofs.Bits.Word
import WireSchema.Proofs.Catalog.Accepted
import WireSchema.Proofs.Catalog.Halves
import WireSchema.Proofs.Catalog.Objects
import WireSchema.Proofs.Catalog.Places
import WireSchema.Proofs.Catalog.Refusals
import WireSchema.Proofs.Catalog.Sameness
import WireSchema.Proofs.Catalog.Services
import WireSchema.Proofs.Catalog.Sizes
import WireSchema.Proofs.Composite.Aggregates
import WireSchema.Proofs.Composite.Constants
import WireSchema.Proofs.Composite.Extents
import WireSchema.Proofs.Composite.Extremes
import WireSchema.Proofs.Composite.Framings
import WireSchema.Proofs.Composite.Kinds
import WireSchema.Proofs.Composite.Lengths
import WireSchema.Proofs.Composite.Longest
import WireSchema.Proofs.Composite.Lookups
import WireSchema.Proofs.Composite.MadeFrom
import WireSchema.Proofs.Composite.Named
import WireSchema.Proofs.Composite.Nested
import WireSchema.Proofs.Composite.Outline
import WireSchema.Proofs.Composite.Placements
import WireSchema.Proofs.Composite.Refusals
import WireSchema.Proofs.Composite.Remade
import WireSchema.Proofs.Composite.Rules
import WireSchema.Proofs.Composite.Starts
import WireSchema.Proofs.Composite.Stops
import WireSchema.Proofs.Composite.Variants
import WireSchema.Proofs.Composite.Wire
import WireSchema.Proofs.DataType.Arrays
import WireSchema.Proofs.DataType.Buildable
import WireSchema.Proofs.DataType.Context
import WireSchema.Proofs.DataType.Dependencies
import WireSchema.Proofs.DataType.Names
import WireSchema.Proofs.DataType.Narrower
import WireSchema.Proofs.DataType.Prefixes
import WireSchema.Proofs.DataType.ServiceFields
import WireSchema.Proofs.DataType.Texts
import WireSchema.Proofs.DataType.WellFormed
import WireSchema.Proofs.Error.Checks
import WireSchema.Proofs.Error.Locating
import WireSchema.Proofs.Error.OnlyFails
import WireSchema.Proofs.Error.SameOutcome
import WireSchema.Proofs.Layout.Allowed
import WireSchema.Proofs.Layout.Slot
import WireSchema.Proofs.LengthSet.Checked
import WireSchema.Proofs.LengthSet.Grids
import WireSchema.Proofs.LengthSet.Laws
import WireSchema.Proofs.LengthSet.LeastSteps
import WireSchema.Proofs.LengthSet.Outcomes
import WireSchema.Proofs.LengthSet.RowSums
import WireSchema.Proofs.LengthSet.Rows
import WireSchema.Proofs.LengthSet.RowsOfRows
import WireSchema.Proofs.LengthSet.ShortestWays
import WireSchema.Proofs.LengthSet.Subsets
import WireSchema.Proofs.LengthSet.Unchecked
import WireSchema.Proofs.LengthSet.Words
import WireSchema.Proofs.Name.Child
import WireSchema.Proofs.Name.Grammar
import WireSchema.Proofs.Name.Joined
import WireSchema.Proofs.Name.Valid
import WireSchema.Proofs.Value.Integers
import WireSchema.Text.Blank
import WireSchema.Text.Invisible
import WireSchema.Text.Quoted
import WireSchema.Text.Ranges
import WireSchema.Value.Basic
import WireSchema.Value.Int128
import WireSchema.Version
