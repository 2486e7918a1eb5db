import SeriesRender.Main
import SeriesRender.Regex.Template
import SeriesRender.Service.Routes
import SeriesRender.Proofs.Target.RoundTrip
import SeriesRender.Proofs.Target.Calls
import SeriesRender.Proofs.SeriesFunction.Arguments
import SeriesRender.Proofs.Evaluation.Trace
import SeriesRender.Proofs.Evaluation.Validation
import SeriesRender.Proofs.Evaluation.NoData
import SeriesRender.Proofs.Pacing
import SeriesRender.Proofs.Service.History
import SeriesRender.Proofs.Service.Throttling
import SeriesRender.Proofs.Service.Ingest
import SeriesRender.Proofs.Service.Tenant
import SeriesRender.Proofs.Store.History
import SeriesRender.Proofs.Service.Prompt
import SeriesRender.Proofs.Store.Share
import SeriesRender.Proofs.Service.Isolation
import SeriesRender.Proofs.Evaluation.Fetches
import SeriesRender.Proofs.Evaluation.Grid
import SeriesRender.Proofs.Evaluation.Interruption
import SeriesRender.Proofs.Service.Concurrency
import SeriesRender.Proofs.Pacing.Schedule
import SeriesRender.Proofs.Service.Rejection
import SeriesRender.Proofs.Service.Permits
import SeriesRender.Proofs.Service.Accounting
import SeriesRender.Proofs.Evaluation.Failures
import SeriesRender.Proofs.Service.Lockstep
import SeriesRender.Proofs.Service.Advisory
import SeriesRender.Proofs.Service.InternalErrors
import SeriesRender.Proofs.Service.Redaction
import SeriesRender.Proofs.Service.Sequence
import SeriesRender.Proofs.Target.Derivation
import SeriesRender.Proofs.Target.Occurrence
import SeriesRender.Proofs.Regex.Matching
import SeriesRender.Proofs.Glob.Bracket
import SeriesRender.Proofs.Regex.Reading
import SeriesRender.Proofs.Glob.Grammar
import SeriesRender.Proofs.Glob.Reading
import SeriesRender.Proofs.Glob.Language
import SeriesRender.Proofs.Glob.Segments
import SeriesRender.Proofs.Service.Extent
import SeriesRender.Proofs.Store.Timestamps
import SeriesRender.Proofs.Glob.Listing
import SeriesRender.Proofs.Glob.Nesting
import SeriesRender.Proofs.Decimal.Value
import SeriesRender.Proofs.SeriesFunction.Combine
import SeriesRender.Proofs.SeriesFunction.Shape
import SeriesRender.Proofs.SeriesFunction.Derivative
import SeriesRender.Proofs.SeriesFunction.Filter
import SeriesRender.Proofs.Counters
import SeriesRender.Proofs.NumberText
import SeriesRender.Proofs.Regex.Replacement
import SeriesRender.Proofs.SeriesFunction.DerivedName
import SeriesRender.Proofs.SeriesFunction.BasePath
import SeriesRender.Proofs.Decimal.Digits
import SeriesRender.Proofs.Request.Time
import SeriesRender.Proofs.Request.Parameters
import SeriesRender.Proofs.Output.Raw
import SeriesRender.Proofs.Output.JsonBody
import SeriesRender.Proofs.Target.Spacing
import SeriesRender.Proofs.Target.DepthLimit
import SeriesRender.Proofs.Target.Diagnosis
import SeriesRender.Proofs.SeriesFunction.Signature
