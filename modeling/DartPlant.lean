import DartPlant.Host.UnarmedGate
import DartPlant.Host.DobbyTickets
import DartPlant.Host.ShadowHookStubs
import DartPlant.Core.GatedHookSafety
import DartPlant.Core.GatedHookProgress
import DartPlant.Interceptor.SharedVeneers
import DartPlant.Interceptor.FailedRestore
import DartPlant.Abi.ConflictingEvidence
import DartPlant.Runtime.AddressOwnership
import DartPlant.Vm.AdapterOwner
import DartPlant.Host.LoaderCallback
import DartPlant.Runtime.OperationLease
import DartPlant.Runtime.RefreshWorker
import DartPlant.Interceptor.ReachableReturns
import DartPlant.Vm.RevalidationRuns
import DartPlant.Core.ManagedPatches
import DartPlant.Metadata.BuildIdSegments
import DartPlant.Abi.EvidenceOrder
import DartPlant.Interceptor.ThrowingCallback
import DartPlant.Runtime.RefusedRequests
import DartPlant.Runtime.OwnerInvalidation
import DartPlant.Interceptor.CallbackOrderRuns
import DartPlant.Elf.HostileLookup
import DartPlant.Vm.ArtifactMatching
import DartPlant.Vm.SelectionOrder
import DartPlant.Vm.BindingRuns
import DartPlant.Metadata.MetadataNumbers
import DartPlant.Metadata.UnknownMembers
import DartPlant.Runtime.DirectoryReuse
import DartPlant.Runtime.DirectoryIncrement
import DartPlant.Runtime.SnapshotHeader
import DartPlant.Vm.ThreadCapture
import DartPlant.Runtime.ArtifactBinding
import DartPlant.Runtime.ArtifactBundles
import DartPlant.Vm.TypeArguments
import DartPlant.Vm.GeneratedTransition
import DartPlant.Interceptor.ClosureAcceptance
import DartPlant.Oracle.RegisterMap
import DartPlant.Vm.RootRuns
import DartPlant.Oracle.CodeLocator
import DartPlant.Analyzer.GraphCompleteness
import DartPlant.Metadata.BuildIdSegments
