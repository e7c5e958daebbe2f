import FaultReport.Cause
import FaultReport.Count
import FaultReport.Cursor
import FaultReport.Draft
import FaultReport.Excerpt
import FaultReport.Excerpt.Checked
import FaultReport.Excerpt.Exact
import FaultReport.Failure
import FaultReport.Failure.Form
import FaultReport.Finding
import FaultReport.LineMap
import FaultReport.LineMap.Search
import FaultReport.Offset
import FaultReport.Ordinal
import FaultReport.Position
import FaultReport.Proofs.Draft.LastWrite
import FaultReport.Proofs.Excerpt.AtCursor
import FaultReport.Proofs.Excerpt.Bytes
import FaultReport.Proofs.Excerpt.Checked
import FaultReport.Proofs.Excerpt.Covered
import FaultReport.Proofs.Excerpt.Exact
import FaultReport.Proofs.Excerpt.Longest
import FaultReport.Proofs.Excerpt.Moved
import FaultReport.Proofs.Excerpt.Shown
import FaultReport.Proofs.Excerpt.Widened
import FaultReport.Proofs.Failure.Around
import FaultReport.Proofs.Failure.Form
import FaultReport.Proofs.Failure.Formatted
import FaultReport.Proofs.Failure.LastWrite
import FaultReport.Proofs.Failure.Locate
import FaultReport.Proofs.Finding.LastWrite
import FaultReport.Proofs.Finding.ReadBack
import FaultReport.Proofs.LineMap.Answers
import FaultReport.Proofs.LineMap.Joined
import FaultReport.Proofs.LineMap.Observed
import FaultReport.Proofs.LineMap.ReadingOrder
import FaultReport.Proofs.LineMap.Represents
import FaultReport.Proofs.LineMap.Starts
import FaultReport.Proofs.LineMap.Walk
import FaultReport.Proofs.Report.Capped
import FaultReport.Proofs.Report.ReadBack
import FaultReport.Proofs.Session.Chain
import FaultReport.Proofs.Session.Lineage
import FaultReport.Proofs.Session.Paired
import FaultReport.Proofs.Session.Trace
import FaultReport.Report
import FaultReport.Session
import FaultReport.Text.Placed
import FaultReport.Trace
import FaultReport.Window
