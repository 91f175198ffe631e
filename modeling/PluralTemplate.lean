import PluralTemplate.Main
import PluralTemplate.Proofs.Dictionary
import PluralTemplate.Proofs.Cache.Queue
import PluralTemplate.Proofs.Cache.QueueRefinement
import PluralTemplate.Proofs.Cache.Session
import PluralTemplate.Proofs.Cache.Accounting
import PluralTemplate.Proofs.Handler.Transparency
import PluralTemplate.Proofs.Handler.Provenance
import PluralTemplate.Proofs.Selection.ByParts
import PluralTemplate.Proofs.Part.Grammar
import PluralTemplate.Proofs.Part.Reading
import PluralTemplate.Proofs.Text.Replacement
import PluralTemplate.Proofs.Text.Cut
import PluralTemplate.Proofs.Lint.Positions
import PluralTemplate.Proofs.Inspection.Labels
import PluralTemplate.Proofs.Resolver.Rendering
import PluralTemplate.Proofs.Binary64.Rank
import PluralTemplate.Proofs.Binary64.Rounding
import PluralTemplate.Proofs.Binary64.Extended
import PluralTemplate.Proofs.Decimal.ReadBack
import PluralTemplate.Proofs.Interval.Emptiness
import PluralTemplate.Proofs.Plural.Detection
import PluralTemplate.Proofs.Plural.Places
import PluralTemplate.Proofs.Quantity.Canonical
import PluralTemplate.Proofs.Value.OwnSpelling
import PluralTemplate.Proofs.Quantity.RedundantZeros
import PluralTemplate.Proofs.Lint.Duplicates
import PluralTemplate.Proofs.Lint.BindingCount
import PluralTemplate.Proofs.Part.ReadBack
import PluralTemplate.Proofs.Resolver.Substitutions
import PluralTemplate.Proofs.Interval.Partition
import PluralTemplate.Proofs.Plural.Sign
import PluralTemplate.Proofs.Selection.Interleaving
import PluralTemplate.Proofs.CommandLine.Numbers
import PluralTemplate.Proofs.Handler.Limits
import PluralTemplate.Proofs.Binary64.Overflow
import PluralTemplate.Proofs.Selection.Infinity
import PluralTemplate.Proofs.Resolver.Untouched
import PluralTemplate.Proofs.Resolver.Affixes
import PluralTemplate.Proofs.Text.Distance
import PluralTemplate.Proofs.Text.LetterCase
import PluralTemplate.Proofs.Suggestion.Closest
import PluralTemplate.Proofs.Plural.Subtags
import PluralTemplate.Proofs.Json
import PluralTemplate.Proofs.Table
import PluralTemplate.Proofs.CommandLine.AllOrNothing
import PluralTemplate.Proofs.Quantity.Spellings
import PluralTemplate.Proofs.Value.PlainNumbers
import PluralTemplate.Proofs.Lint.Malformed
import PluralTemplate.Proofs.Handler.Collisions
