import Extraction.Main
import Extraction.Query.Session
import Extraction.Rule.Procedures
import Extraction.Session
import Extraction.Walk
import Extraction.Proofs.Evaluation.Account
import Extraction.Proofs.Filter.Softness
import Extraction.Proofs.Filter.Failure
import Extraction.Proofs.Query.History
import Extraction.Proofs.Query.Spelling
import Extraction.Proofs.Rule.FirstMatch
import Extraction.Proofs.Rule.Nesting
import Extraction.Proofs.Rule.Parts
import Extraction.Proofs.Session.Independence
import Extraction.Proofs.Rule.Taxonomy
import Extraction.Proofs.Query.Verbatim
import Extraction.Proofs.Query.Enclosure
import Extraction.Proofs.Query.WellFormed
import Extraction.Proofs.Query.Naming
import Extraction.Proofs.Query.Tail
import Extraction.Proofs.CommandLine.Escape
import Extraction.Proofs.CommandLine.Batch
import Extraction.Proofs.Filter.Lookup
import Extraction.Proofs.Filter.Order
import Extraction.Proofs.Filter.Passing
import Extraction.Proofs.Evaluation.Chain
import Extraction.Proofs.Evaluation.Unregistered
import Extraction.Proofs.Rule.Reach
import Extraction.Proofs.CommandLine.Separate
import Extraction.Proofs.Filter.Listing
import Extraction.Proofs.Options.Shadow
import Extraction.Proofs.Filter.Replacement
import Extraction.Proofs.Url.Reading
import Extraction.Proofs.Url.Rejoining
import Extraction.Proofs.Markup.Links
import Extraction.Proofs.Query.Citation
import Extraction.Proofs.Filter.Leading
import Extraction.Proofs.Filter.Distinct
import Extraction.Proofs.Filter.Coercion
import Extraction.Proofs.Filter.Integers
import Extraction.Proofs.Filter.Slices
import Extraction.Proofs.Log.Setup
import Extraction.Proofs.Filter.Pieces
import Extraction.Proofs.Filter.Bits
import Extraction.Proofs.Query.Block
import Extraction.Proofs.Query.Pipes
import Extraction.Proofs.Report.Response
