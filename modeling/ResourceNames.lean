import ResourceNames.Binding.Basic
import ResourceNames.Binding.Cache
import ResourceNames.Binding.Error
import ResourceNames.Declaration.Basic
import ResourceNames.Declaration.Error
import ResourceNames.Namer.Basic
import ResourceNames.Namer.Error
import ResourceNames.Namer.Format
import ResourceNames.Namer.Parse
import ResourceNames.PatternSet.Basic
import ResourceNames.PatternSet.Error
import ResourceNames.Proofs.Binding
import ResourceNames.Proofs.Binding.Access
import ResourceNames.Proofs.Binding.Cache
import ResourceNames.Proofs.Binding.LastVisit
import ResourceNames.Proofs.Binding.Order
import ResourceNames.Proofs.Binding.Soundness
import ResourceNames.Proofs.Binding.Traversal
import ResourceNames.Proofs.Declaration.Fields
import ResourceNames.Proofs.Declaration.Marks
import ResourceNames.Proofs.Declaration.Patterns
import ResourceNames.Proofs.Namer.Basic
import ResourceNames.Proofs.Namer.Collision
import ResourceNames.Proofs.Namer.Effect
import ResourceNames.Proofs.Namer.Extension
import ResourceNames.Proofs.Namer.Failure
import ResourceNames.Proofs.Namer.Format
import ResourceNames.Proofs.Namer.Index
import ResourceNames.Proofs.Namer.Lenient
import ResourceNames.Proofs.Namer.Normal
import ResourceNames.Proofs.Namer.ParentRoundTrip
import ResourceNames.Proofs.Namer.ParentText
import ResourceNames.Proofs.Namer.Repeat
import ResourceNames.Proofs.Namer.RoundTrip
import ResourceNames.Proofs.Namer.Strict
import ResourceNames.Proofs.Outcome
import ResourceNames.Proofs.PatternSet
import ResourceNames.Proofs.PatternSet.Compilation
import ResourceNames.Proofs.PatternSet.Disjoint
import ResourceNames.Proofs.PatternSet.Extension
import ResourceNames.Proofs.PatternSet.Lookup
import ResourceNames.Proofs.Record.Address
import ResourceNames.Proofs.Record.Assignment
import ResourceNames.Proofs.Record.Blank
import ResourceNames.Proofs.Record.Path
import ResourceNames.Proofs.Record.Repeat
import ResourceNames.Proofs.Record.Shape
import ResourceNames.Proofs.Record.Typing
import ResourceNames.Proofs.Record.Write
import ResourceNames.Proofs.Scalar.Basic
import ResourceNames.Proofs.Scalar.Decimal
import ResourceNames.Proofs.Scalar.Integer
import ResourceNames.Proofs.Scalar.Reading
import ResourceNames.Proofs.Scalar.Rounding
import ResourceNames.Proofs.Template.Ancestry
import ResourceNames.Proofs.Template.Canonical
import ResourceNames.Proofs.Template.Grammar
import ResourceNames.Proofs.Template.Inverse
import ResourceNames.Proofs.Template.Matching
import ResourceNames.Proofs.Template.Parent
import ResourceNames.Proofs.Template.Segment
import ResourceNames.Proofs.Template.Validity
import ResourceNames.Proofs.Text.LowerCase
import ResourceNames.Proofs.Text.Segments
import ResourceNames.Proofs.Text.SnakeCase
import ResourceNames.Proofs.ValueNamer.Basic
import ResourceNames.Proofs.ValueNamer.Parent
import ResourceNames.Proofs.ValueNamer.Rendering
import ResourceNames.Proofs.ValueNamer.RoundTrip
import ResourceNames.Record.Access
import ResourceNames.Record.Field
import ResourceNames.Record.Schema
import ResourceNames.Record.Type
import ResourceNames.Record.Value
import ResourceNames.Scalar.Basic
import ResourceNames.Scalar.Binary
import ResourceNames.Scalar.Decimal
import ResourceNames.Scalar.Integer
import ResourceNames.Template.Basic
import ResourceNames.Template.Encoding
import ResourceNames.Template.Error
import ResourceNames.Template.Match
import ResourceNames.Template.Parent
import ResourceNames.Template.Parse
import ResourceNames.Template.Render
import ResourceNames.Text.Blank
import ResourceNames.Text.LowerCase
import ResourceNames.Text.Segments
import ResourceNames.Text.SnakeCase
import ResourceNames.ValueNamer.Basic
