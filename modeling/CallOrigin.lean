import CallOrigin.Main
import CallOrigin.Proofs.AddedEdges
import CallOrigin.Proofs.Comments
import CallOrigin.Proofs.Controls
import CallOrigin.Proofs.Dependence
import CallOrigin.Proofs.HandlerLetters
import CallOrigin.Proofs.JsonReport
import CallOrigin.Proofs.LateSources
import CallOrigin.Proofs.Lookups
import CallOrigin.Proofs.Marks
import CallOrigin.Proofs.MethodLocality
import CallOrigin.Proofs.Provenance
import CallOrigin.Proofs.Requests
import CallOrigin.Proofs.Reruns
import CallOrigin.Proofs.Schedules
import CallOrigin.Proofs.SelfCalls
import CallOrigin.Proofs.SourceOrder
import CallOrigin.Proofs.Spelling
import CallOrigin.Proofs.StackWalk
import CallOrigin.Proofs.StoredReports
import CallOrigin.Proofs.TextReport
import CallOrigin.Proofs.Traversals
