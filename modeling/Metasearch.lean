import Metasearch.Condition.Writer
import Metasearch.Main
import Metasearch.Proofs.Text.Separated
import Metasearch.Proofs.Condition.Tree
import Metasearch.Proofs.Decimal.Figures
import Metasearch.Proofs.Filter.Algolia.Compiled
import Metasearch.Proofs.Filter.Algolia.Expressible
import Metasearch.Proofs.Engine.AlgoliaBody
import Metasearch.Proofs.Engine.DeclaredFilters
import Metasearch.Proofs.Engine.Failures
import Metasearch.Proofs.Engine.ScoreSwitch
import Metasearch.Proofs.Federation.Merge
import Metasearch.Proofs.Federation.Paging
import Metasearch.Proofs.Filter.Algolia.Readback
import Metasearch.Proofs.Filter.Meilisearch.Outline
import Metasearch.Proofs.Filter.Meilisearch.Readback
import Metasearch.Proofs.Engine.ScoreFlags
import Metasearch.Proofs.Json.Sound
import Metasearch.Proofs.Condition.Written
import Metasearch.Proofs.Federation.Isolation
import Metasearch.Proofs.Engine.FloorSafety
import Metasearch.Proofs.Schema.Descriptors
import Metasearch.Proofs.Schema.Snapshot
import Metasearch.Proofs.Schema.FileNames
import Metasearch.Proofs.Schema.FileTrees
import Metasearch.Proofs.Schema.Loading
import Metasearch.Proofs.Engine.KeyOrder
import Metasearch.Proofs.Filter.Portable
import Metasearch.Proofs.Engine.Overwritten
import Metasearch.Proofs.Engine.PageBound
import Metasearch.Proofs.Engine.NamelessQueries
import Metasearch.Proofs.Engine.RawFilters
import Metasearch.Proofs.Federation.FetchDepth
import Metasearch.Proofs.Federation.RankOrder
import Metasearch.Proofs.Federation.ExpandedPayload
import Metasearch.Proofs.Federation.TermOverlap
import Metasearch.Proofs.Schema.Capabilities
import Metasearch.Proofs.Federation.ShownDocuments
import Metasearch.Proofs.Engine.PassedOn
import Metasearch.Proofs.Engine.RequestBodies
import Metasearch.Proofs.Condition.BadEntries
import Metasearch.Proofs.Engine.PageSize
import Metasearch.Proofs.Engine.Vocabulary
import Metasearch.Proofs.Engine.SortOrders
import Metasearch.Proofs.Federation.PoolOrder
import Metasearch.Proofs.Schema.Modifiers
import Metasearch.Proofs.Filter.Algolia.Operands
