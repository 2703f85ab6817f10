import LayeredConfig.Context
import LayeredConfig.Json.Reader
import LayeredConfig.Pins
import LayeredConfig.Proofs.Layering.Failure
import LayeredConfig.Proofs.Release.Configuration
import LayeredConfig.Proofs.Release.Failure
import LayeredConfig.Proofs.Release.Inheritance
import LayeredConfig.Proofs.Release.Neighbours
import LayeredConfig.Proofs.Release.Walk
import LayeredConfig.Tree.Json
import LayeredConfig.Tree.Yaml
import LayeredConfig.Yaml.Reader
import LayeredConfig.Proofs.Layering.Name
import LayeredConfig.Proofs.Release.Field
import LayeredConfig.Proofs.Layering.Path
import LayeredConfig.Proofs.Binary64.Integer
import LayeredConfig.Proofs.Layering.Likeness
import LayeredConfig.Proofs.Layering.Union
import LayeredConfig.Proofs.Layering.Composition
import LayeredConfig.Proofs.Pins.Dependency
import LayeredConfig.Proofs.Pins.Merging
import LayeredConfig.Proofs.Release.Event
import LayeredConfig.Proofs.Release.Agreement
import LayeredConfig.Proofs.Context.Settling
import LayeredConfig.Proofs.Context.Coherence
import LayeredConfig.Proofs.Context.Failure
import LayeredConfig.Proofs.Context.Queries
import LayeredConfig.Proofs.Issues.Overrides
import LayeredConfig.Proofs.Issues.Accumulation
import LayeredConfig.Proofs.Exchange.Part
import LayeredConfig.Proofs.Exchange.Json
import LayeredConfig.Proofs.Exchange.RoundTrip
import LayeredConfig.Proofs.Exchange.Yaml
import LayeredConfig.Proofs.Binary64.Nearest
import LayeredConfig.Proofs.Exchange.Decoding
import LayeredConfig.Proofs.Layering.Mapping
import LayeredConfig.Proofs.Layering.Clash
import LayeredConfig.Proofs.Layering.Place
import LayeredConfig.Proofs.Layering.Sequence
import LayeredConfig.Proofs.Layering.Integer
import LayeredConfig.Proofs.Layering.Frame
import LayeredConfig.Proofs.Layering.Rank
import LayeredConfig.Proofs.Layering.Repetition
import LayeredConfig.Proofs.Layering.Commutation
import LayeredConfig.Proofs.Text.Decimal
import LayeredConfig.Proofs.Issues.Extraction
import LayeredConfig.Proofs.Issues.Application
import LayeredConfig.Proofs.Nvr.Splitting
import LayeredConfig.Proofs.Nvr.Spelling
import LayeredConfig.Proofs.Nvr.Colon
import LayeredConfig.Proofs.Exchange.Rejection
import LayeredConfig.Proofs.Release.EventNumber
import LayeredConfig.Proofs.Pins.Stanza
import LayeredConfig.Proofs.Layering.Congruence
