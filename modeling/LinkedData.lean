import LinkedData.Proofs.Json.Reading
import LinkedData.Proofs.JsonLd.Bare
import LinkedData.Proofs.JsonLd.BlankNode
import LinkedData.Proofs.JsonLd.Collection
import LinkedData.Proofs.JsonLd.Dataset
import LinkedData.Proofs.JsonLd.Faultless
import LinkedData.Proofs.JsonLd.Idempotence
import LinkedData.Proofs.JsonLd.Language
import LinkedData.Proofs.JsonLd.Merging
import LinkedData.Proofs.JsonLd.Naming
import LinkedData.Proofs.JsonLd.Prefixes
import LinkedData.Proofs.JsonLd.Processing
import LinkedData.Proofs.JsonLd.Sharing
import LinkedData.Proofs.JsonLd.Single
import LinkedData.Proofs.JsonLd.Statements
import LinkedData.Proofs.NQuads.LineByLine
import LinkedData.Proofs.NQuads.Reprinting
import LinkedData.Proofs.NQuads.RoundTrip
import LinkedData.Proofs.NQuads.Spelling
import LinkedData.Proofs.Page.BaseTag
import LinkedData.Proofs.Page.Embedding
import LinkedData.Proofs.Path.DepthFirst
import LinkedData.Proofs.Path.Exchange
import LinkedData.Proofs.Query.Growth
import LinkedData.Proofs.Query.Reordering
import LinkedData.Proofs.Query.RoundTrip
import LinkedData.Proofs.Query.Solution
import LinkedData.Proofs.Query.Spacing
import LinkedData.Proofs.Rdf.Decoding
import LinkedData.Proofs.Rdf.Reading
import LinkedData.Proofs.Record.Conformance
import LinkedData.Proofs.Record.Entities
import LinkedData.Proofs.Record.Failing
import LinkedData.Proofs.Record.Locality
import LinkedData.Proofs.Record.Questions
import LinkedData.Proofs.Record.Reading
import LinkedData.Proofs.Record.Unasked
import LinkedData.Proofs.Service.Answers
import LinkedData.Proofs.Service.Interleaving
import LinkedData.Proofs.Service.Placeholders
import LinkedData.Proofs.Service.Reports
import LinkedData.Proofs.Source.Cost
import LinkedData.Proofs.Source.Keeping
import LinkedData.Service.Router
import LinkedData.Service.Settings.Reader
import LinkedData.Source.Fixed
