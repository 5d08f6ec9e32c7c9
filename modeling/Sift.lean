import Sift.Config.Loading
import Sift.Proofs.Compile.AllowList
import Sift.Proofs.Compile.Columns
import Sift.Proofs.Compile.Composition
import Sift.Proofs.Compile.Meaning
import Sift.Proofs.Compile.Rejection
import Sift.Proofs.Compile.Transcription
import Sift.Proofs.Compile.WellFormed
import Sift.Proofs.Config.RoundTrip
import Sift.Proofs.Config.Soundness
import Sift.Proofs.Config.Validation
import Sift.Proofs.Document.Decoding
import Sift.Proofs.Entity.HiddenColumns
import Sift.Proofs.Entity.QueryableColumns
import Sift.Proofs.Like.Splitting
import Sift.Proofs.Page.LinkRow
import Sift.Proofs.Page.Metadata
import Sift.Proofs.Row.Days
import Sift.Proofs.Row.FilterOrder
import Sift.Proofs.Row.Integers
import Sift.Proofs.Row.Kinds
import Sift.Proofs.Row.NullLogic
import Sift.Proofs.Search.InsertionOrder
import Sift.Proofs.Search.Interleaving
import Sift.Proofs.Search.Noninterference
import Sift.Proofs.Search.Pagination
import Sift.Proofs.Search.Ranges
import Sift.Proofs.Service.Dispatch
import Sift.Proofs.Service.Failures
import Sift.Proofs.Service.Links
import Sift.Proofs.Service.Listing
import Sift.Proofs.Service.Registration
import Sift.Proofs.Service.Status
import Sift.Proofs.Sql.Casts
import Sift.Proofs.Sql.Independence
import Sift.Proofs.Sql.LikeAgreement
import Sift.Proofs.Sql.ReadBack
import Sift.Proofs.Storage.History
import Sift.Proofs.Text.Percent
import Sift.Service.Address
import Sift.Service.Answer
import Sift.Sql.Render
import Sift.Storage.Store
