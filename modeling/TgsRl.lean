import TgsRl.Aggregates
import TgsRl.BindingHelper
import TgsRl.BundleNames
import TgsRl.Candidates
import TgsRl.Canonicalizer
import TgsRl.Closing
import TgsRl.Conditions
import TgsRl.ControlRetries
import TgsRl.DecisionLoop
import TgsRl.EventIds
import TgsRl.Evidence
import TgsRl.Failures
import TgsRl.Incarnations
import TgsRl.JobFiles
import TgsRl.JobWatches
import TgsRl.Journal
import TgsRl.LifecycleActions
import TgsRl.Lifecycles
import TgsRl.Listings
import TgsRl.Naming
import TgsRl.OperationTable
import TgsRl.Oracle
import TgsRl.PhaseGraphs
import TgsRl.Protection
import TgsRl.Publication
import TgsRl.Reconciliation
import TgsRl.Rejections
import TgsRl.Releases
import TgsRl.ReplayCommands
import TgsRl.Retention
import TgsRl.SandboxControl
import TgsRl.SemanticVersions
import TgsRl.StartKeys
import TgsRl.TraceDelivery
import TgsRl.TraceStages
import TgsRl.Triggers
