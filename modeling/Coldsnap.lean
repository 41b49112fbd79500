import Coldsnap.DiskBackend.LoadingCorrect
import Coldsnap.DiskBackend.NativeRoundTrip
import Coldsnap.GraphMemory.Runs
import Coldsnap.Artifact.Publication
import Coldsnap.Recovery.Shares
import Coldsnap.Coordinator.Scopes
import Coldsnap.Coordinator.Encoders
import Coldsnap.Canonical.Surrogates
import Coldsnap.Placement.Collisions
import Coldsnap.Placement.Probing
import Coldsnap.Placement.Serving
import Coldsnap.Placement.Writers
import Coldsnap.Criu.Dumping
import Coldsnap.Snapshot.Publication
import Coldsnap.Snapshot.Caches
import Coldsnap.Validation.Admissions
import Coldsnap.Criu.Handover
import Coldsnap.Engine.ResourceRegistry
import Coldsnap.Vllm.AsyncGraphs
import Coldsnap.Vllm.NcclCheckpoint
import Coldsnap.DiskBackend.ResidualsCorrect
import Coldsnap.DiskBackend.Identities
import Coldsnap.Recovery.Destinations
import Coldsnap.Recovery.Replay
import Coldsnap.Recovery.DirectIo
import Coldsnap.Engine.CheckpointPlans
import Coldsnap.Coordinator.Endpoints
import Coldsnap.Sglang.HttpGate
