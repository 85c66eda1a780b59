import BuildSpec.Catalog.Basic
import BuildSpec.Catalog.Load
import BuildSpec.Catalog.Package
import BuildSpec.Catalog.Recipe
import BuildSpec.Catalog.Repository
import BuildSpec.Catalog.Sample
import BuildSpec.Catalog.Schema
import BuildSpec.Catalog.Snapshot
import BuildSpec.Command.Filter
import BuildSpec.Command.Options
import BuildSpec.Command.Run
import BuildSpec.Concretize.Expand
import BuildSpec.Concretize.Graph
import BuildSpec.Concretize.Select
import BuildSpec.Concretize.State
import BuildSpec.Disk
import BuildSpec.Error
import BuildSpec.Json.Basic
import BuildSpec.Json.Error
import BuildSpec.Json.Read
import BuildSpec.Json.Write
import BuildSpec.Log
import BuildSpec.Main
import BuildSpec.Number.Binary64
import BuildSpec.Number.Shortest
import BuildSpec.Pattern.Hir
import BuildSpec.Pattern.Lower
import BuildSpec.Pattern.Match
import BuildSpec.Pattern.Nest
import BuildSpec.Pattern.Regex
import BuildSpec.Pattern.Report
import BuildSpec.Pattern.Size
import BuildSpec.Pattern.Syntax
import BuildSpec.Prefs
import BuildSpec.Proofs.Discovery.Least
import BuildSpec.Proofs.Discovery.Rules
import BuildSpec.Proofs.Discovery.Seeds
import BuildSpec.Proofs.Discovery.Sound
import BuildSpec.Proofs.Equality
import BuildSpec.Proofs.Expansion.Basic
import BuildSpec.Proofs.Expansion.Failure
import BuildSpec.Proofs.Expansion.Limit
import BuildSpec.Proofs.Expansion.Pass
import BuildSpec.Proofs.Expansion.Provider
import BuildSpec.Proofs.Expansion.Seed
import BuildSpec.Proofs.Expansion.Target
import BuildSpec.Proofs.Recipe
import BuildSpec.Proofs.Table
import BuildSpec.Spec.Basic
import BuildSpec.Spec.Parse
import BuildSpec.Text.Blank
import BuildSpec.Text.Hidden
import BuildSpec.Text.Quoted
import BuildSpec.Unicode.CharSet
import BuildSpec.Unicode.Data.Binary
import BuildSpec.Unicode.Data.Break
import BuildSpec.Unicode.Data.Category
import BuildSpec.Unicode.Data.Fold
import BuildSpec.Unicode.Data.Script
import BuildSpec.Unicode.Names
import BuildSpec.Unicode.Property
import BuildSpec.Unicode.Table
import BuildSpec.Variant.Decl
import BuildSpec.Variant.Settings
import BuildSpec.Variant.Value
import BuildSpec.Version.Basic
import BuildSpec.Version.Constraint
import BuildSpec.Version.Range
import BuildSpec.Proofs.Expansion.Variants
import BuildSpec.Proofs.Spec.Reading
import BuildSpec.Proofs.Version.Intersection
import BuildSpec.Proofs.Expansion.Graph
import BuildSpec.Proofs.Expansion.PassCount
import BuildSpec.Proofs.Version.Limits
import BuildSpec.Proofs.Version.Algebra
import BuildSpec.Proofs.Variant.Merge
import BuildSpec.Proofs.Spec.Merge
import BuildSpec.Proofs.Spec.Satisfies
import BuildSpec.Proofs.Spec.Settle
import BuildSpec.Proofs.Spec.RoundTrip
import BuildSpec.Proofs.Selection
import BuildSpec.Proofs.Version.Parts
import BuildSpec.Proofs.Variant.Default
import BuildSpec.Proofs.Spec.Congruence
import BuildSpec.Proofs.Ranking
import BuildSpec.Proofs.Spec.Strict
import BuildSpec.Proofs.Variant.Pieces
import BuildSpec.Proofs.Version.Lawful
import BuildSpec.Proofs.RequestOrder.Alike
import BuildSpec.Proofs.RequestOrder.Seeding
import BuildSpec.Proofs.RequestOrder.Passes
import BuildSpec.Proofs.RequestOrder.Outcome
