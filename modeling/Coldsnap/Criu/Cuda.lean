import Coldsnap.Foundation.Go
import Coldsnap.Foundation.Program
import Coldsnap.Foundation.Python

/-! # CUDA processes around a dump

`prepareCUDA`, `recoverCUDA`, `restoreCUDA`, `restoreCapturedCUDA` and `restoreDeferredCUDA` of
`cmd/coldsnap-criu-rpc/internal/criurpc/runner.go`, and `Run` as far as it dumps. The state of a
CUDA process is kept by the driver and changed by `cuda-checkpoint` only.
-/

namespace Coldsnap.Criu

open Go Python Program

inductive CudaState where
  | running
  | locked
  | checkpointed
deriving DecidableEq, Repr

def CudaState.text : CudaState → String
  | .running => "running"
  | .locked => "locked"
  | .checkpointed => "checkpointed"

inductive CudaOperation where
  | state
  | lock
  | checkpoint
  | restore
  | unlock
deriving DecidableEq, Repr

def CudaOperation.text : CudaOperation → String
  | .state => "state"
  | .lock => "lock"
  | .checkpoint => "checkpoint"
  | .restore => "restore"
  | .unlock => "unlock"

/-- The state to which an action leads; the driver refuses it in all other states. -/
def CudaOperation.effect : CudaOperation → CudaState → Option CudaState
  | .state, current => some current
  | .lock, .running => some .locked
  | .checkpoint, .locked => some .checkpointed
  | .restore, .checkpointed => some .locked
  | .unlock, .locked => some .running
  | _, _ => none

inductive Signal where
  | continue
  | stop
deriving DecidableEq, Repr

/-- The calls which may fail; those of `recoverCUDA` have labels of their own. -/
inductive Label where
  | setup
  | cuda (recovering : Bool) (operation : CudaOperation) (pid : Nat)
  | criuDump
  | signal (signal : Signal)
deriving DecidableEq, Repr

structure CudaProcess where
  pid : Nat
  restoreTid : Nat
deriving DecidableEq, Repr

structure CudaTargetState where
  process : CudaProcess
  locked : Bool
  checkpointed : Bool
deriving DecidableEq, Repr

structure World where
  cuda : Nat → CudaState
  targets : List CudaTargetState
  dumped : Option (Nat → CudaState)
  signalled : List Signal
  delivered : List Signal

abbrev Action (α : Type) := Program Label World String α

def invokeCUDA (recovering : Bool) (operation : CudaOperation) (pid : Nat) : Action String :=
  recover
    (Program.operation (.cuda recovering operation pid) fun world =>
      match operation.effect (world.cuda pid) with
      | none => (.error "exit status 1", world)
      | some next =>
        (.ok next.text, { world with cuda := Function.update world.cuda pid next }))
    fun error => raise s!"CUDA {operation.text} for PID {pid} failed: {error}"

def requireCUDAState (pid : Nat) (expected : CudaState) : Action Unit := do
  let state ← invokeCUDA false .state pid
  require (state = expected.text)
    s!"CUDA state for PID {pid} is {quoted state}, want {quoted expected.text}"

def attempt (action : Action Unit) : Action (List String) :=
  recover (Program.bind action fun _ => Program.pure []) fun error => Program.pure [error]

def join (errors : List String) : String := "\n".intercalate errors

inductive Probe where
  | exited
  | failed (error : String)
  | printed (output : String)
deriving DecidableEq, Repr

structure Options where
  pid : Nat
  cpuOnly : Bool
  cudaTree : Bool
  leaveRunning : Bool
  cudaProcessesResult : String
deriving DecidableEq, Repr

/-- The processes of the host as `/proc` and `cuda-checkpoint` show them, and the inventories
of former dumps under their paths. -/
structure Host where
  descendants : Nat → Result (List Nat)
  nodup : ∀ {root pids}, descendants root = .ok pids → (root :: pids).Nodup
  probe : Nat → Probe
  inventory : String → Result (List CudaProcess)

variable (host : Host)

def processTreePIDs (root : Nat) : Result (List Nat) := do
  let pids ← host.descendants root
  return root :: pids

variable (value : Options) (processes : List CudaProcess)

def probeProcess (pid : Nat) : Result (List CudaProcess) :=
  match host.probe pid with
  | .exited => .ok processes
  | .failed error => .error s!"probe CUDA process PID {pid}: {error}"
  | .printed output =>
    match output.toInt? with
    | none => .error s!"invalid CUDA restore TID for PID {pid}: {quoted output}"
    | some restoreTid =>
      .ok (if 0 < restoreTid then processes ++ [⟨pid, restoreTid.toNat⟩] else processes)

def discoverCUDAProcesses (root : Nat) : Result (List CudaProcess) :=
  if value.cudaTree then do
    let pids ← processTreePIDs host root
    let processes ← forEach (probeProcess host) [] pids
    check (processes ≠ []) s!"no CUDA process found in tree rooted at PID {root}"
    return processes
  else .ok [⟨root, 0⟩]

def admitProcess (tree : List Nat) (seen : List Nat) (process : CudaProcess) :
    Result (List Nat) := do
  check (0 < process.pid && 0 < process.restoreTid && process.pid ∉ seen)
    "captured CUDA process inventory contains an invalid process"
  check (process.pid ∈ tree) s!"captured CUDA PID {process.pid} is absent from the restored tree"
  return process.pid :: seen

def capturedCUDAProcesses (path : String) (root : Nat) : Result (List CudaProcess) := do
  let captured ← host.inventory path
  check (captured ≠ []) "captured CUDA process inventory is empty"
  let tree ← within "inspect restored process tree" (processTreePIDs host root)
  let seen ← forEach (admitProcess tree) [] captured
  check (root ∈ seen) s!"captured CUDA process inventory does not contain root PID {root}"
  return captured

def CudaTargetState.lock (pid : Nat) (target : CudaTargetState) : CudaTargetState :=
  if target.process.pid = pid then { target with locked := true } else target

def CudaTargetState.checkpoint (pid : Nat) (target : CudaTargetState) : CudaTargetState :=
  if target.process.pid = pid then { target with checkpointed := true } else target

def retarget (change : CudaTargetState → CudaTargetState) : Action Unit :=
  assign fun world => { world with targets := world.targets.map change }

def lockProcess (process : CudaProcess) : Action Unit := do
  let _ ← invokeCUDA false .lock process.pid
  retarget (.lock process.pid)
  requireCUDAState process.pid .locked

def checkpointProcess (process : CudaProcess) : Action Unit := do
  let _ ← invokeCUDA false .checkpoint process.pid
  retarget (.checkpoint process.pid)
  requireCUDAState process.pid .checkpointed

def stopCUDA : Action Unit := do
  assign fun world =>
    { world with targets := processes.map fun process => ⟨process, false, false⟩ }
  forEach (fun process => requireCUDAState process.pid .running) processes
  forEach lockProcess processes
  forEach checkpointProcess processes

def prepareCUDA : Action Unit :=
  if value.cpuOnly then Program.pure ()
  else Program.bind (ofExcept (discoverCUDAProcesses host value value.pid)) stopCUDA

def undoTarget (operation : CudaOperation) (selected : CudaTargetState → Bool)
    (errors : List String) (target : CudaTargetState) : Action (List String) :=
  if selected target then
    recover
      (Program.bind (invokeCUDA true operation target.process.pid) fun _ => Program.pure errors)
      fun error => Program.pure (errors ++ [error])
  else Program.pure errors

def recoverCUDA : Action (List String) := do
  let targets ← read World.targets
  let restored ← foldEach (undoTarget .restore CudaTargetState.checkpointed) [] targets.reverse
  foldEach (undoTarget .unlock CudaTargetState.locked) restored targets.reverse

def recoverAndFail (error : String) : Action Unit := do
  let errors ← recoverCUDA
  raise (join (error :: errors))

def criuDump : Action Unit :=
  operation .criuDump fun world => (.ok (), { world with dumped := some world.cuda })

def dump : Action Unit := do
  operation .setup fun world => (.ok (), { world with targets := [] })
  recover (prepareCUDA host value) recoverAndFail
  recover criuDump recoverAndFail

def kill (signal : Signal) : Action Unit := do
  assign fun world => { world with signalled := world.signalled ++ [signal] }
  operation (.signal signal) fun world =>
    (.ok (), { world with delivered := world.delivered ++ [signal] })

def restoreCUDA (pid : Nat) : Action Unit :=
  if value.cpuOnly then Program.pure ()
  else do
    let processes ← ofExcept (discoverCUDAProcesses host value pid)
    forEach (fun process => requireCUDAState process.pid .checkpointed) processes
    forEach (fun process => do
      let _ ← invokeCUDA false .restore process.pid) processes
    forEach (fun process => requireCUDAState process.pid .locked) processes
    forEach (fun process => do
      let _ ← invokeCUDA false .unlock process.pid) processes
    forEach (fun process => requireCUDAState process.pid .running) processes

def restoreProcess (process : CudaProcess) : Action Unit := do
  requireCUDAState process.pid .checkpointed
  let _ ← invokeCUDA false .restore process.pid
  requireCUDAState process.pid .locked
  let _ ← invokeCUDA false .unlock process.pid
  requireCUDAState process.pid .running

def restoreCapturedCUDA : Action Unit :=
  forEach restoreProcess processes.reverse

def deferredProcesses : Result (List CudaProcess) :=
  if value.cudaProcessesResult ≠ "" then
    capturedCUDAProcesses host value.cudaProcessesResult value.pid
  else .ok []

def restoreDeferredCUDA : Action Unit := do
  let processes ← ofExcept (deferredProcesses host value)
  recover (kill .continue) fun error => raise
    s!"resume restored process group {value.pid} for CUDA restore: {error}"
  let restoreErrors ← attempt
    (if processes ≠ [] then restoreCapturedCUDA processes else restoreCUDA host value value.pid)
  let stopErrors ← attempt (recover (kill .stop) fun error => raise
    s!"stop restored process group {value.pid} after CUDA restore: {error}")
  require (restoreErrors ++ stopErrors = []) (join (restoreErrors ++ stopErrors))

end Coldsnap.Criu
