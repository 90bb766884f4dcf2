import Gazetteer.Main
import Gazetteer.Storage.FileTree
import Gazetteer.Proofs.Hit.Union
import Gazetteer.Proofs.Index.OwnValues
import Gazetteer.Proofs.Index.SearchResult
import Gazetteer.Proofs.Index.TermCase
import Gazetteer.Proofs.Lexicon.Wording
import Gazetteer.Proofs.Lookup.Completion
import Gazetteer.Proofs.Lookup.Failure
import Gazetteer.Proofs.Lookup.InsertionOrder
import Gazetteer.Proofs.Lookup.Truncation
import Gazetteer.Proofs.Lookup.TypedAddress
import Gazetteer.Proofs.Query.Conservation
import Gazetteer.Proofs.Query.Narrowing
import Gazetteer.Proofs.Query.Rendering
import Gazetteer.Proofs.Retry.Report
import Gazetteer.Proofs.Storage.FailedBuild
import Gazetteer.Proofs.Storage.Rebuild
import Gazetteer.Proofs.Hit.Absorption
import Gazetteer.Proofs.Index.NumberOrder
import Gazetteer.Proofs.Text.SpaceOnce
import Gazetteer.Proofs.Index.SameTerms
import Gazetteer.Proofs.Query.NormalForm
import Gazetteer.Proofs.Query.Shape
import Gazetteer.Proofs.Extract.Usable
import Gazetteer.Proofs.Form.RoundTrip
import Gazetteer.Proofs.Index.Strictness
import Gazetteer.Proofs.CanonicalLine
import Gazetteer.Proofs.Lexicon.Construction
import Gazetteer.Proofs.Retry.Backoff
import Gazetteer.Proofs.Retry.Counter
