import DocSearch.Main
import DocSearch.Store.Overlap
import DocSearch.Proofs.Command.Format
import DocSearch.Proofs.Index.Answers
import DocSearch.Proofs.Index.Canonical
import DocSearch.Proofs.Index.Schema
import DocSearch.Proofs.Literal.MemberOrder
import DocSearch.Proofs.Literal.Positions
import DocSearch.Proofs.Literal.Strict
import DocSearch.Proofs.Namespace.Placeholders
import DocSearch.Proofs.Namespace.Roles
import DocSearch.Proofs.Overlap.Replies
import DocSearch.Proofs.Overlap.Sharing
import DocSearch.Proofs.Query.Union
import DocSearch.Proofs.Search.Encodings
import DocSearch.Proofs.Search.Exclusion
import DocSearch.Proofs.Search.FullNames
import DocSearch.Proofs.Search.PageOrder
import DocSearch.Proofs.Search.Relevance
import DocSearch.Proofs.Search.Reordering
import DocSearch.Proofs.Search.ShortTerms
import DocSearch.Proofs.Search.Suggestions
import DocSearch.Proofs.Stem.Lengths
import DocSearch.Proofs.Stem.Porter
import DocSearch.Proofs.Store.Failures
import DocSearch.Proofs.Store.Recency
import DocSearch.Proofs.Store.Session
import DocSearch.Proofs.Tree.IndexFiles
