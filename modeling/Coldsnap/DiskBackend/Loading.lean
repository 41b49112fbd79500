import Coldsnap.DiskBackend.Capture
import Coldsnap.DiskBackend.Manifest

/-! # Loading a manifest

`_load_manifest` selects the activation provider, reads the document, relocates
it onto the live layout and validates it.
-/

namespace Coldsnap.DiskBackend

open Python Program Checked

variable (nature : Nature) (setting : Setting)

structure LoadOptions where
  allowProcessTemplateOwner : Bool
  allowMaterializationLayout : Bool
  initialNative : Bool

def LoadOptions.plain : LoadOptions := ⟨false, false, false⟩

/-- The provider named by the activation file, with the paths it selects. -/
def selectProvider : Action (Option String) := do
  let active ← isFile (.snapshot activationProviderName)
  if active then do
    let selected ← readText (.snapshot activationProviderName)
    onBackend fun fields => { fields with modelPayloadExported := true }
    if selected = "native" then do
      onBackend fun fields => { fields with
        manifestPath := .snapshot nativeManifestName
        blobPath := .snapshot modelPayloadName
        weightRecoverySource := weightSourceSplitNative
        reuseBlob := setting.reuseRequested }
      return some selected
    else if selected = "recovery" then do
      onBackend fun fields => { fields with
        manifestPath := .snapshot "manifest.json"
        blobPath := .snapshot "weights.blob"
        residualBlobPath := .snapshot "weights.blob"
        weightRecoverySource := weightSourceSafetensors }
      return some selected
    else raise (runtimeError "activation provider must be native or recovery")
  else return none

def isFileName (name : String) : Bool :=
  name ≠ "" && name ≠ "." && !name.toList.contains '/'

def readManifest (selected : Option String) : Action Dict := do
  let path ← backend (·.manifestPath)
  let document ← readDocument path
  match document.asDict with
  | none => raise (runtimeError "live hibernation manifest must be an object")
  | some manifest => do
    require
      ((manifest.get "format").equal (.int manifestFormat)
        && (manifest.get "kind").equal (.str manifestKind))
      (runtimeError "live hibernation manifest format is unsupported")
    if selected = some "native" then
      match manifest.get "residual_blob" with
      | .str name =>
        if isFileName name then do
          onBackend fun fields => { fields with residualBlobPath := .snapshot name }
          return manifest
        else raise (runtimeError "native residual blob name is invalid")
      | _ => raise (runtimeError "native residual blob name is invalid")
    else return manifest

def anyReleased (world : World) (allocations : List Allocation) : Bool :=
  allocations.any fun allocation => world.device.released allocation.pointer

/-- The manifest to validate: the captured one at startup, the one cached by the
last suspend while its weights are unmapped, otherwise the relocated document. -/
def resolveManifest [Builtins] (options : LoadOptions) (selected : Option String)
    (manifest : Dict) : Action Dict := do
  let released ← read fun world => anyReleased world setting.weights
  let cached ← backend fun fields => (fields.liveNativeManifest, fields.liveNativeResidualPath)
  if options.initialNative then
    if released then
      raise (runtimeError "initial native hydration requires resident weight allocations")
    else return manifest
  else
    match selected == some "native" && released, cached with
    | true, (some cachedManifest, some cachedPath) => do
      onBackend fun fields => { fields with residualBlobPath := cachedPath }
      return cachedManifest
    | _, _ => do
      let bindings ← backend (·.bindings)
      let relocated ← ofExcept (relocateSplitNativeManifest manifest setting.weights
        (bindings.relocationRanges (selected == some "native"))
        (bindings.relocationSemantics (selected == some "native")))
      if (relocated.get "requires_live_residual_snapshot").isTrue then
        snapshotLiveNativeResidual nature setting relocated
      else return relocated

/-- A native activation admits the owner recorded at capture. -/
def activatedPortableNative [Builtins] (selected : Option String) (manifest : Dict) :
    Checked Bool :=
  if selected = some "native" then
    activatedPortableNativeManifestMatches manifest setting.workerId setting.rank
  else .ok false

def restoredProcessTemplateRecovery [Builtins] (options : LoadOptions)
    (selected : Option String) (manifest : Dict) : Checked Bool :=
  if options.allowProcessTemplateOwner && setting.processTemplateRestored then
    restoredProcessTemplateRecoveryManifestMatches manifest setting.workerId setting.rank selected
  else .ok false

/-- The manifest belongs to this worker. The result says whether its own layout
stands in for the live one. -/
def checkOwnership [Builtins] (options : LoadOptions) (selected : Option String)
    (manifest : Dict) (blobName : String) : Checked Bool := do
  let activated ← activatedPortableNative setting selected manifest
  let restoredRecovery ← restoredProcessTemplateRecovery setting options selected manifest
  let materializationLayout := options.allowMaterializationLayout && restoredRecovery
  require (!(options.allowMaterializationLayout && !materializationLayout))
    (runtimeError "live allocation-layout admission requires a restored process-template recovery manifest")
  let mismatches := ownershipMismatches setting manifest (activated || restoredRecovery) blobName
  require (mismatches = [])
    (runtimeError ("snapshot does not belong to this live worker process; mismatched "
      ++ ", ".intercalate mismatches))
  return materializationLayout

def checkAllocations [Builtins] (manifest : Dict) (anyLayout : Bool) : Checked (List Dict) :=
  match extentList (manifest.get "entries") with
  | none => .error (runtimeError "snapshot allocation entries are invalid")
  | some entries => do
    let saved ← rescue [.keyError, .typeError, .valueError]
      (runtimeError "snapshot allocation entries are invalid")
      (mapEach savedEntry entries)
    require (distinctEntries saved) (runtimeError "snapshot allocation entries contain duplicates")
    require (anyLayout || matchesLive saved setting.weights)
      (runtimeError "snapshot allocation map differs from the live worker")
    return entries

def loadManifest [Builtins] (options : LoadOptions) : Action Dict := do
  let selected ← selectProvider setting
  require
    (!(options.initialNative && (selected ≠ some "native" || !setting.processTemplateRestored)))
    (runtimeError "initial native hydration requires a restored native activation")
  let document ← readManifest selected
  let manifest ← resolveManifest nature setting options selected document
  let weightSource := manifest.getD "weight_source" (.str weightSourceBlob)
  let source ← backend (·.weightRecoverySource)
  require (weightSource.equal (.str source)) (runtimeError
    "snapshot weight recovery source differs from the live worker")
  let blobPath ← backend (·.blobPath)
  let materializationLayout ← ofExcept
    (checkOwnership setting options selected manifest blobPath.name)
  let anyLayout := materializationLayout || options.initialNative
  let entries ← ofExcept (checkAllocations setting manifest anyLayout)
  if weightSource.equal (.str weightSourceSplitNative) then do
    let blobStat ← statIdentity blobPath
    let residualPath ← backend (·.residualBlobPath)
    let residualStat ← statIdentity residualPath
    ofExcept (validateSplitNative setting
      ⟨blobPath.name, residualPath.name, blobStat, residualStat, options.initialNative⟩
      manifest entries)
    return manifest
  else if weightSource.equal (.str weightSourceSafetensors) then do
    let blobStat ← statIdentity blobPath
    ofExcept (validateSafetensors setting
      ⟨blobPath.name, blobPath.name, blobStat, blobStat, materializationLayout⟩
      manifest entries)
    return manifest
  else do
    let blobStat ← statIdentity blobPath
    ofExcept (validateBlob setting
      ⟨blobPath.name, blobPath.name, blobStat, blobStat, false⟩ manifest entries)
    return manifest

end Coldsnap.DiskBackend
