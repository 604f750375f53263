import DeviceKernels.Main
import DeviceKernels.Operation.Any
import DeviceKernels.Proofs.Memory.Isolation
import DeviceKernels.Proofs.Memory.Canonical
import DeviceKernels.Proofs.Memory.Admission
import DeviceKernels.Proofs.Artifact.NameIndex
import DeviceKernels.Proofs.Artifact.Refinement
import DeviceKernels.Proofs.Artifact.StoreRefinement
import DeviceKernels.Proofs.Artifact.Transparency
import DeviceKernels.Proofs.Artifact.SingleFlight
import DeviceKernels.Proofs.Artifact.Interruption
import DeviceKernels.Proofs.Backend.Launches
import DeviceKernels.Proofs.Operation.Configurations
import DeviceKernels.Proofs.Compiler.Fingerprint
import DeviceKernels.Proofs.Artifact.Conservation
import DeviceKernels.Proofs.Backend.Preparation
import DeviceKernels.Proofs.Config.Startup
import DeviceKernels.Proofs.Config.Fallback
import DeviceKernels.Proofs.Parameter.Layout
import DeviceKernels.Proofs.Operation.Grids
import DeviceKernels.Proofs.Operation.Batches
import DeviceKernels.Proofs.Extent.Positions
import DeviceKernels.Proofs.Operation.Stages
import DeviceKernels.Proofs.Operation.Workspace
import DeviceKernels.Proofs.Artifact.Restart
import DeviceKernels.Proofs.Artifact.KernelLists
import DeviceKernels.Proofs.Artifact.FailedRequests
import DeviceKernels.Proofs.Memory.Sizes
import DeviceKernels.Proofs.Memory.RoundTrip
import DeviceKernels.Proofs.Memory.StaleAddresses
import DeviceKernels.Proofs.Operation.GemmBlocks
import DeviceKernels.Proofs.Operation.ReductionCoverage
import DeviceKernels.Proofs.Operation.Alignment
import DeviceKernels.Proofs.CommandLine.Listing
import DeviceKernels.Proofs.Operation.NameParts
import DeviceKernels.Proofs.Artifact.KeyFraming
import DeviceKernels.Proofs.Operation.EpilogueTypes
import DeviceKernels.Proofs.Operation.Saturation
import DeviceKernels.Proofs.Compiler.Diagnostics
