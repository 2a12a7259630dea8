import AspectAgent.World
import AspectAgent.Lifecycle
import AspectAgent.Metrics.Source
import AspectAgent.Storage
import AspectAgent.Proofs.Contract
import AspectAgent.Proofs.HostContract
import AspectAgent.Proofs.Reporting
import AspectAgent.Proofs.Conduct
import AspectAgent.Proofs.Discipline
import AspectAgent.Proofs.Schedule
import AspectAgent.Proofs.Depth
import AspectAgent.Proofs.Transparency
import AspectAgent.Proofs.ArgumentNumbering
import AspectAgent.Proofs.BindingRules
import AspectAgent.Proofs.BoundArguments
import AspectAgent.Proofs.ReliableLogging
import AspectAgent.Proofs.EntitySurvey
import AspectAgent.Proofs.FaultIsolation
import AspectAgent.Proofs.Emitting
import AspectAgent.Proofs.SamplingIsolation
import AspectAgent.Proofs.Captures
import AspectAgent.Proofs.CaptureCoverage
import AspectAgent.Proofs.CaptureRestoration
import AspectAgent.Proofs.ActiveSampling
import AspectAgent.Proofs.InstrumentLifecycle
import AspectAgent.Proofs.ClassWalk
import AspectAgent.Proofs.WovenOnce
import AspectAgent.Proofs.Deployments
import AspectAgent.Proofs.HookBookkeeping
import AspectAgent.Proofs.HookedClasses
import AspectAgent.Proofs.ImportSurvival
import AspectAgent.Proofs.ImportHooks
import AspectAgent.Proofs.WeaveOnImport
import AspectAgent.Proofs.SiteListings
import AspectAgent.Proofs.WeavingReports
import AspectAgent.Proofs.SlottedMeter
import AspectAgent.Proofs.SteadyCallbacks
import AspectAgent.Proofs.MeterAgreement
import AspectAgent.Proofs.ModuleHints
import AspectAgent.Proofs.WeavingOrder
import AspectAgent.Proofs.BreadthFirst
import AspectAgent.Proofs.MemoryObservers
import AspectAgent.Proofs.MemoryMetrics
import AspectAgent.Proofs.MatcherAlgebra
import AspectAgent.Proofs.TwoCategories
import AspectAgent.Proofs.CollectionCycle
import AspectAgent.Proofs.FirstArgument
import AspectAgent.Proofs.SpanNaming
import AspectAgent.Proofs.SlotSemantics
import AspectAgent.Proofs.ObserverRegistration
import AspectAgent.Proofs.StartUp
import AspectAgent.Proofs.AnnotationLocality
import AspectAgent.Proofs.BoundedStorage
import AspectAgent.Proofs.EnvironmentParsing
import AspectAgent.Proofs.EntryAttributes
