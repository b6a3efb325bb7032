import ProductQuery.Filter.Matching
import ProductQuery.Main
import ProductQuery.Proofs.AllowedOrigins
import ProductQuery.Proofs.AnsweredBody
import ProductQuery.Proofs.AttributePresence
import ProductQuery.Proofs.Cancelling
import ProductQuery.Proofs.CountedQueries
import ProductQuery.Proofs.DelayBounds
import ProductQuery.Proofs.FilterMeaning
import ProductQuery.Proofs.FilterReading
import ProductQuery.Proofs.FilteredOrder
import ProductQuery.Proofs.LenientQuery
import ProductQuery.Proofs.LogLines
import ProductQuery.Proofs.MeasureConditions
import ProductQuery.Proofs.MergedFilters
import ProductQuery.Proofs.NullMembers
import ProductQuery.Proofs.OperatorNames
import ProductQuery.Proofs.PageWalk
import ProductQuery.Proofs.RangeBlocks
import ProductQuery.Proofs.RepeatedKeys
import ProductQuery.Proofs.RequestParts
import ProductQuery.Proofs.Rereading
import ProductQuery.Proofs.ScalarOrder
import ProductQuery.Proofs.ServedAnswer
import ProductQuery.Proofs.StrictQuery
import ProductQuery.Proofs.Timestamps
import ProductQuery.Proofs.UnseenData
import ProductQuery.Proofs.ValueKept
import ProductQuery.Proofs.Wakeups
import ProductQuery.Proofs.WindowBounds
import ProductQuery.Proofs.WrittenCatalog
import ProductQuery.Proofs.WrittenText
import ProductQuery.Query.Token
import ProductQuery.Storage.Directory
