import Coldsnap.Placement.Connections

/-! # The endpoint of a restored writer

`_write_process_template_placement` of `runtime/engine/coldsnap_engine_rank_n580.py`, and
`_restored_placement` and `_remap_tcp_endpoint` of
`integrations/vllm/coldsnap_vllm_process_template.py`. The reader of a queue computes from the
placement record where its writer listens after the restore.
-/

namespace Coldsnap.Placement

open Go Python Address Numerals List Checked

/-! ## Texts -/

def lowered (text : String) : String := .ofList (text.toList.map Char.toLower)

def tcpEndpoint (host : String) (port : Nat) : String :=
  "tcp://" ++ (if ':' ∈ host.toList then "[" ++ host ++ "]" else host) ++ ":" ++ toString port

structure SplitUrl where
  scheme : String
  hostname : Option String
  port : Option Nat
  path : String
deriving DecidableEq, Repr

/-- `net/netip` of Go beside `ipaddress` and `urlsplit` of Python. Addresses with a scope count
as unparsable. No result of `urlsplit` stands for a `ValueError`, of the function or of one of
the attributes. -/
class Internet extends Netip where
  ipAddress : String → Option Address
  str : Address → String
  urlsplit : String → Option SplitUrl
  ipAddress_str : ∀ address, ipAddress (str address) = some address
  ipAddress_lowered : ∀ text, ipAddress (lowered text) = ipAddress text
  ipAddress_parseAddr : ∀ text address, parseAddr text = some address →
    ipAddress text = some address
  ipAddress_version : ∀ text address, ipAddress text = some address →
    (':' ∈ text.toList ↔ address.is4 = false)
  urlsplit_endpoint : ∀ (host : String) (address : Address) (port : Port),
    ipAddress host = some address →
      urlsplit (tcpEndpoint host port.val) = some ⟨"tcp", some (lowered host), some port.val, ""⟩

/-! ## The placement record -/

/-- The fields of the capture report which the placement depends on. -/
structure CaptureReport where
  placementAbi : Option Nat
  phase : Option String
  driverLibrariesQualified : Bool
deriving DecidableEq, Repr

/-- The arguments of the controller. The rendezvous port is the one in its command. -/
structure PlacementArguments where
  rank : RankArguments
  generation : String
  masterAddress : String
  masterPort : Nat
deriving DecidableEq, Repr

structure LazyTransport where
  tcpAddressMap : List (String × String)
  tcpPortShift : Nat
deriving DecidableEq, Repr

structure PlacementRecord where
  format : Nat
  kind : String
  generation : String
  masterAddress : String
  masterPort : Nat
  httpPort : Nat
  transport : Option LazyTransport
deriving DecidableEq, Repr

def represented (text : String) : String := "'" ++ text ++ "'"

def changedTcpPlacement : List String → Checked Bool
  | [] => .ok false
  | mapping :: rest =>
    match cut mapping with
    | none => .error (runtimeError s!"invalid TCP address mapping: {represented mapping}")
    | some (before, after) =>
      if before = "" ∨ after = "" then
        .error (runtimeError s!"invalid TCP address mapping: {represented mapping}")
      else if before ≠ after then .ok true
      else changedTcpPlacement rest

def partitioned (mapping : String) : String × String := (cut mapping).getD (mapping, "")

def addressDictionary (known : List (String × String)) :
    List String → Checked (List (String × String))
  | [] => .ok known
  | mapping :: rest =>
    if (partitioned mapping).1 ∈ known.map Prod.fst then
      .error (runtimeError s!"duplicate TCP address mapping: {represented (partitioned mapping).1}")
    else addressDictionary (known ++ [partitioned mapping]) rest

def preExecPhase : String := "pre_exec"

def preWorkerImportPhase : String := "pre_worker_import"

def requirePlacementAbi (report : CaptureReport) : Checked Unit :=
  require (report.placementAbi = some 2)
    (runtimeError ("n580 process-template placement ABI is unsupported; recapture it " ++
      "with a current ColdSnap release"))

def captureProcessTemplatePhase (report : CaptureReport) : Checked String := do
  let phase := report.phase.getD preExecPhase
  require (phase = preExecPhase || phase = preWorkerImportPhase)
    (runtimeError s!"n580 process-template phase is invalid: {represented phase}")
  require (phase ≠ preWorkerImportPhase || report.driverLibrariesQualified)
    (runtimeError ("n580 pre-worker-import artifact lacks the required capture-time " ++
      "driver-library qualification evidence"))
  return phase

def shiftServicePort (port shift : Nat) : Checked Nat := do
  require (1024 ≤ port && port < 65536)
    (runtimeError s!"portable TCP port is outside the unprivileged range: {port}")
  require (shift < 65536 - 1024) (runtimeError s!"portable TCP port shift is invalid: {shift}")
  return 1024 + (port - 1024 + shift) % (65536 - 1024)

def writeProcessTemplatePlacement (args : PlacementArguments) (report : CaptureReport) :
    Checked PlacementRecord := do
  let _ ← changedTcpPlacement args.rank.tcpAddressMap
  let addressMap ← addressDictionary [] args.rank.tcpAddressMap
  requirePlacementAbi report
  let phase ← captureProcessTemplatePhase report
  let masterPort ← shiftServicePort args.masterPort args.rank.tcpPortShift
  return {
    format := 1
    kind := "coldsnap-process-template-placement"
    generation := args.generation
    masterAddress := args.masterAddress
    masterPort := masterPort
    httpPort := args.rank.httpPort.val
    transport :=
      if phase = preWorkerImportPhase then some ⟨addressMap, args.rank.tcpPortShift⟩ else none }

structure PlacementFile where
  regular : Bool
  size : Nat
  value : PlacementRecord
deriving DecidableEq, Repr

section Reading

open Internet

variable [Internet]

def portableMaster (text : String) : Checked Unit :=
  match ipAddress text with
  | none => .error (runtimeError "restored process-template master address is invalid")
  | some address =>
    require (!address.isUnspecified && !address.isLoopback && !address.isMulticast &&
        !address.isLinkLocalUnicast)
      (runtimeError "restored process-template master address is not portable")

def restoredPlacement (generation : String) (file : PlacementFile) : Checked LazyTransport := do
  require (file.regular && file.size ≤ 4096)
    (runtimeError "restored process-template placement is not a small regular file")
  match file.value.transport with
  | none => .error (runtimeError "restored process-template placement has an invalid shape")
  | some transport => do
    require (file.value.format = 1 &&
        file.value.kind = "coldsnap-process-template-placement" &&
        file.value.generation = generation)
      (runtimeError "restored process-template placement has an invalid identity")
    portableMaster file.value.masterAddress
    require (1024 ≤ file.value.masterPort && file.value.masterPort < 65536)
      (runtimeError "restored process-template master_port is invalid")
    require (1024 ≤ file.value.httpPort && file.value.httpPort < 65536)
      (runtimeError "restored process-template http_port is invalid")
    require (transport.tcpAddressMap.all fun entry =>
        (ipAddress entry.1).isSome && (ipAddress entry.2).isSome)
      (runtimeError "restored process-template TCP address map is invalid")
    require (transport.tcpPortShift < 65536 - 1024)
      (runtimeError "restored process-template TCP port shift is invalid")
    return transport

def shiftTcpPort (port shift : Nat) : Checked Nat := do
  require (1024 ≤ port && port < 65536)
    (runtimeError "vLLM lazy TCP endpoint uses a privileged port")
  return 1024 + (port - 1024 + shift) % (65536 - 1024)

def remapTcpEndpoint (endpoint : String) (placement : LazyTransport) : Checked String :=
  match urlsplit endpoint with
  | some ⟨"tcp", some host, some port, ""⟩ => do
    let text := (placement.tcpAddressMap.lookup host).getD host
    let shifted ← shiftTcpPort port placement.tcpPortShift
    match ipAddress text with
    | none => .error (runtimeError "vLLM lazy TCP endpoint address is invalid")
    | some address =>
      let printed := str address
      return "tcp://" ++ (if address.is4 then printed else "[" ++ printed ++ "]") ++ ":" ++
        toString shifted
  | _ => .error (runtimeError "vLLM lazy TCP endpoint is invalid")

/-- The endpoint is that of the socket: it has its port, and its address in some spelling. -/
def Names (endpoint : String) (socket : InetSocket) : Prop :=
  ∃ host address source destination, endpoint = tcpEndpoint host socket.srcPort.val ∧
    ipAddress host = some address ∧ Described socket source destination ∧
    address.unmap = source.unmap

/-! ## What the record says -/

omit [Internet] in
theorem addressDictionary_ok {values : List String} :
    ∀ {known entries : List (String × String)}, (known.map Prod.fst).Nodup →
      addressDictionary known values = .ok entries →
      (entries.map Prod.fst).Nodup ∧ entries = known ++ values.map partitioned := by
  induction values with
  | nil =>
    intro known entries distinct built
    cases built
    exact ⟨distinct, (append_nil _).symm⟩
  | cons mapping rest induction =>
    intro known entries distinct built
    rw [addressDictionary] at built
    split at built
    · cases built
    · rename_i fresh
      have extended : ((known ++ [partitioned mapping]).map Prod.fst).Nodup := by
        rw [map_append, nodup_append]
        refine ⟨distinct, nodup_singleton _, ?_⟩
        intro first inside second single same
        rw [map_singleton, mem_singleton] at single
        exact fresh (single ▸ same ▸ inside)
      rcases induction extended built with ⟨nodup, equal⟩
      refine ⟨nodup, ?_⟩
      rw [equal, append_assoc]
      rfl

/-- A placement record of a unit, accepted by its template. -/
structure Accepted (args : PlacementArguments) (report : CaptureReport) (file : PlacementFile)
    (generation : String) (placement : LazyTransport) : Prop where
  written : writeProcessTemplatePlacement args report = .ok file.value
  accepted : restoredPlacement generation file = .ok placement

variable {placement : LazyTransport} {args : PlacementArguments} {report : CaptureReport}
  {file : PlacementFile} {generation : String}

theorem Accepted.placement_eq (accepted : Accepted args report file generation placement) :
    (placement.tcpAddressMap.map Prod.fst).Nodup ∧
      placement.tcpAddressMap = args.rank.tcpAddressMap.map partitioned ∧
      placement.tcpPortShift = args.rank.tcpPortShift := by
  have written := accepted.written
  have read := accepted.accepted
  simp only [writeProcessTemplatePlacement, bind_eq_ok, pure_eq_ok] at written
  rcases written with ⟨_, _, addressMap, built, _, _, phase, _, masterPort, _, record⟩
  simp only [restoredPlacement, bind_eq_ok] at read
  rcases read with ⟨_, _, chosen⟩
  rw [← record] at chosen
  split at chosen
  · cases chosen
  · rename_i transport told
    simp only [bind_eq_ok, pure_eq_ok] at chosen
    rcases chosen with ⟨_, _, _, _, _, _, _, _, _, _, _, _, same⟩
    split at told
    · cases told
      rw [← same]
      have distinct : (([] : List (String × String)).map Prod.fst).Nodup := nodup_nil
      rcases addressDictionary_ok distinct built with ⟨nodup, equal⟩
      exact ⟨nodup, equal, rfl⟩
    · cases told

/-! ## Endpoints -/

theorem tcpEndpoint_printed (address : Address) (port : Nat) :
    "tcp://" ++ (if address.is4 then str address else "[" ++ str address ++ "]") ++
        ":" ++ toString port = tcpEndpoint (str address) port := by
  have version := ipAddress_version _ _ (ipAddress_str address)
  unfold tcpEndpoint
  cases four : address.is4 with
  | true =>
    rw [if_pos rfl, if_neg]
    intro colon
    rw [version.mp colon] at four
    cases four
  | false => rw [if_neg Bool.false_ne_true, if_pos (version.mpr four)]

theorem tcpEndpoint_inj {first second : String} {firstAddress secondAddress : Address}
    {firstPort secondPort : Port} (firstParsed : ipAddress first = some firstAddress)
    (secondParsed : ipAddress second = some secondAddress)
    (same : tcpEndpoint first firstPort.val = tcpEndpoint second secondPort.val) :
    firstAddress = secondAddress ∧ firstPort = secondPort := by
  have firstSplit := urlsplit_endpoint first firstAddress firstPort firstParsed
  rw [same, urlsplit_endpoint second secondAddress secondPort secondParsed] at firstSplit
  simp only [Option.some.injEq, SplitUrl.mk.injEq] at firstSplit
  rcases firstSplit with ⟨_, hosts, ports, _⟩
  have addresses : ipAddress (lowered second) = ipAddress (lowered first) := by
    rw [hosts]
  rw [ipAddress_lowered, ipAddress_lowered, firstParsed, secondParsed] at addresses
  exact ⟨(Option.some.inj addresses).symm, Fin.ext ports.symm⟩

variable {address : Address} {port : Port}

theorem names_iff {source destination : Address} {socket : InetSocket}
    (described : Described socket source destination) :
    Names (tcpEndpoint (str address) port.val) socket ↔
      address.unmap = source.unmap ∧ port = socket.srcPort := by
  constructor
  · intro named
    rcases named with ⟨host, other, otherSource, otherDestination, same, parsed, known, unmapped⟩
    rcases tcpEndpoint_inj (ipAddress_str address) parsed same with ⟨addresses, ports⟩
    rw [addresses, unmapped, (known.unique described).1]
    exact ⟨rfl, ports⟩
  · intro both
    rw [both.2]
    exact ⟨_, address, source, destination, rfl, ipAddress_str address, described, both.1⟩

/-- The host of an endpoint in the texts of the address map, and otherwise as it is. -/
def LazyTransport.target (placement : LazyTransport) (host : String) : String :=
  (placement.tcpAddressMap.lookup (lowered host)).getD (lowered host)

theorem remap_endpoint {host : String} {target : Address} (parsed : ipAddress host = some address)
    (high : 1024 ≤ port.val) (found : ipAddress (placement.target host) = some target) :
    remapTcpEndpoint (tcpEndpoint host port.val) placement =
      .ok (tcpEndpoint (str target) (rotatePortableTCPPort port placement.tcpPortShift).val) := by
  have shifted : shiftTcpPort port.val placement.tcpPortShift =
      .ok (rotatePortableTCPPort port placement.tcpPortShift).val := by
    have bound := port.isLt
    rw [shiftTcpPort, rotate_val, decide_eq_true high, decide_eq_true bound]
    by_cases still : placement.tcpPortShift = 0
    · rw [if_pos (.inr still), still]
      have unmoved : 1024 + (port.val - 1024 + 0) % (65536 - 1024) = port.val := by omega
      rw [unmoved]
      rfl
    · rw [if_neg (by omega)]
      rfl
  rw [LazyTransport.target] at found
  rw [remapTcpEndpoint, urlsplit_endpoint host address port parsed]
  simp only [shifted, found, ok_bind, tcpEndpoint_printed]
  rfl

/-- The map of a rank has the host in this spelling. -/
def RankArguments.Lists (args : RankArguments) (host : String) : Prop :=
  lowered host ∈ (args.tcpAddressMap.map partitioned).map Prod.fst

/-- A listed host becomes what the mapping makes of its address, others stay. -/
theorem Accepted.target_eq (accepted : Accepted args report file generation placement)
    {mapping : AddressMap} (parsed : parseTCPAddressMap args.rank.tcpAddressMap = .ok mapping)
    {host : String} (named : ipAddress host = some address) :
    ∃ target, ipAddress (placement.target host) = some target ∧
      (args.rank.Lists host → mapping.lookup address.unmap = some target.unmap) ∧
      (¬args.rank.Lists host → target = address) := by
  rcases accepted.placement_eq with ⟨distinct, entries, _⟩
  have spelled : ipAddress (lowered host) = some address := by
    rwa [ipAddress_lowered]
  rw [LazyTransport.target, RankArguments.Lists, ← entries]
  cases found : placement.tcpAddressMap.lookup (lowered host) with
  | none =>
    refine ⟨address, spelled, ?_, fun _ => rfl⟩
    intro listed
    rcases mem_map.mp listed with ⟨entry, inside, same⟩
    have present : placement.tcpAddressMap.lookup (lowered host) = some entry.2 := by
      rw [lookup_of_nodup distinct, ← same]
      exact inside
    rw [found] at present
    cases present
  | some text =>
    have inside := (lookup_of_nodup distinct).mp found
    rw [entries] at inside
    rcases mem_map.mp inside with ⟨value, listed, same⟩
    rcases parseTCPAddressMap_reads parsed listed with
      ⟨old, new, ⟨oldText, newText, split, oldParsed, newParsed⟩, mapped⟩
    rw [partitioned, splitMapping_cut split, Option.getD_some, Prod.mk.injEq] at same
    rw [same.1] at oldParsed
    rw [same.2] at newParsed
    rw [ipAddress_parseAddr _ _ oldParsed] at spelled
    cases spelled
    refine ⟨new, ipAddress_parseAddr _ _ newParsed, fun _ => mapped, ?_⟩
    intro unlisted
    exact absurd (mem_map.mpr ⟨_, (lookup_of_nodup distinct).mp found, rfl⟩) unlisted

/-- The local port of a socket is rotated as the reader computes it. -/
theorem localPort_rotated_iff {args : RankArguments} {allowEmptyMap : Bool} {plan : Plan}
    (follows : plan.Follows (portOptions args allowEmptyMap)) (mappedPorts : List Port)
    (address : Address) (high : 1024 ≤ port.val) :
    rotatePortableTCPPort port args.tcpPortShift = plan.localPort mappedPorts address port ↔
      if port = args.capturedHttpPort then
        args.httpPort = rotatePortableTCPPort port args.tcpPortShift
      else args.tcpPortShift = 0 ∨ plan.rotatesLocal mappedPorts address port = true := by
  rw [Plan.localPort]
  by_cases serving : port = args.capturedHttpPort
  · rw [if_pos serving, serving, follows.serving_port, eq_comm]
  · rw [if_neg serving, follows.other_port serving]
    cases plan.rotatesLocal mappedPorts address port with
    | true => simp
    | false =>
      have bound : args.tcpPortShift ≤ 64511 := by
        have shifts : plan.portShift = args.tcpPortShift := follows.portShift
        exact shifts ▸ plan.shiftBound
      constructor
      · intro unmoved
        by_contra moved
        have positive := Nat.pos_of_ne_zero fun zero => moved (.inl zero)
        exact rotate_ne high positive bound unmoved
      · intro still
        rw [still.resolve_right Bool.false_ne_true, rotate_zero]
        rfl

/-- The reader of a queue computes the endpoint which the rewriting gives to its writer exactly
if the map lists the host in the spelling of the endpoint, or leaves its address, and the port
is rotated with the others. -/
theorem writer_found_iff {args : PlacementArguments} {report : CaptureReport}
    {file : PlacementFile} {generation : String} {placement : LazyTransport}
    (accepted : Accepted args report file generation placement) {plan : Plan}
    (parsed : parseOptions (criuCommand .n580 args.rank) = .ok plan) {image : Image}
    {rewriting : Rewriting} (done : rewriteTCPSocketEndpoints plan image = .ok rewriting)
    {index : Nat} {socket : InetSocket} (found : image[index]? = some socket)
    (tcp : socket.proto = protoTCP) {source destination : Address}
    (described : Described socket source destination) (high : 1024 ≤ socket.srcPort.val)
    {host : String} {address : Address} (named : ipAddress host = some address)
    (same : address.unmap = source.unmap) :
    (∃ restored endpoint, rewriting.image[index]? = some restored ∧
      remapTcpEndpoint (tcpEndpoint host socket.srcPort.val) placement = .ok endpoint ∧
      Names endpoint restored) ↔
    (args.rank.Lists host ∨ (plan.address source).unmap = source.unmap) ∧
      if socket.srcPort = args.rank.capturedHttpPort then
        args.rank.httpPort = rotatePortableTCPPort socket.srcPort args.rank.tcpPortShift
      else args.rank.tcpPortShift = 0 ∨
        plan.rotatesLocal (mappedLocalPorts plan.mapping image) source socket.srcPort = true := by
  have follows := parseOptions_follows parsed
  have mapping : parseTCPAddressMap args.rank.tcpAddressMap = .ok plan.mapping := follows.mapping
  rcases accepted.target_eq mapping named with ⟨target, targetParsed, listed, unlisted⟩
  have remapped := remap_endpoint named high targetParsed
  have becomes := rewrite_socket done found tcp described
  have rewrittenDescribed : Described
      (plan.rewritten (mappedLocalPorts plan.mapping image) socket source destination)
      (plan.address source) (plan.address destination) := ⟨rfl, rfl⟩
  have addresses : target.unmap = (plan.address source).unmap ↔
      args.rank.Lists host ∨ (plan.address source).unmap = source.unmap := by
    by_cases lists : args.rank.Lists host
    · have moved : (plan.address source).unmap = target.unmap := by
        rw [Plan.address_unmap, ← same, listed lists]
        rfl
      simp [lists, moved]
    · rw [unlisted lists, same, eq_comm]
      simp [lists]
  rw [accepted.placement_eq.2.2] at remapped
  rw [← localPort_rotated_iff follows (mappedLocalPorts plan.mapping image) source high,
    ← addresses, becomes, remapped]
  constructor
  · intro both
    rcases both with ⟨restored, endpoint, rewritten, computed, names⟩
    cases rewritten
    cases computed
    exact (names_iff rewrittenDescribed).mp names
  · intro both
    exact ⟨_, _, rfl, rfl, (names_iff rewrittenDescribed).mpr both⟩

end Reading

/-! ## Canonical texts -/

variable {character : Char}

theorem toLower_eq_self (other : ¬(character.val ≥ 'A'.val ∧ character.val ≤ 'Z'.val)) :
    character.toLower = character := dif_neg other

theorem toLower_of_isDigit (digit : character.isDigit = true) : character.toLower = character := by
  apply toLower_eq_self
  simp only [Char.isDigit, Bool.and_eq_true, decide_eq_true_eq, ge_iff_le,
    UInt32.le_iff_toNat_le] at digit ⊢
  simp at digit ⊢
  omega

/-- Only letters come from other characters. -/
theorem toLower_eq_iff {other : Char} (fixed : other.toLower = other)
    (letter : ¬(97 ≤ other.toNat ∧ other.toNat ≤ 122)) :
    character.toLower = other ↔ character = other := by
  constructor
  · intro same
    unfold Char.toLower at same
    split at same
    · rename_i upper
      exfalso
      apply letter
      rw [← same]
      simp only [Char.toNat, ge_iff_le, UInt32.le_iff_toNat_le] at upper ⊢
      simp at upper ⊢
      omega
    · exact same
  · intro same
    rw [same, fixed]

variable {text : String}

theorem mem_lowered (fixed : character.toLower = character)
    (letter : ¬(97 ≤ character.toNat ∧ character.toNat ≤ 122)) :
    character ∈ (lowered text).toList ↔ character ∈ text.toList := by
  simp [lowered, toLower_eq_iff fixed letter]

theorem toLower_toLower (character : Char) : character.toLower.toLower = character.toLower := by
  by_cases upper : character.val ≥ 'A'.val ∧ character.val ≤ 'Z'.val
  · apply toLower_eq_self
    unfold Char.toLower
    rw [dif_pos upper]
    simp only [ge_iff_le, UInt32.le_iff_toNat_le] at upper ⊢
    simp at upper ⊢
    omega
  · rw [toLower_eq_self upper, toLower_eq_self upper]

theorem lowered_lowered (text : String) : lowered (lowered text) = lowered text := by
  simp [lowered, Function.comp_def, toLower_toLower]

variable {address : Address}

theorem addressChars_canonical (member : character ∈ addressChars address) :
    character.toLower = character ∧ character ≠ '[' ∧ character ≠ ']' := by
  have digit : ∀ value, character ∈ Nat.toDigits 10 value →
      character.toLower = character ∧ character ≠ '[' ∧ character ≠ ']' := by
    intro value inside
    have isDigit := Nat.isDigit_of_mem_toDigits (by decide) (by decide) inside
    refine ⟨toLower_of_isDigit isDigit, ?_, ?_⟩
    · rintro rfl
      cases isDigit
    · rintro rfl
      cases isDigit
  have nibble : ∀ value : Fin 16, (hexDigit value).toLower = hexDigit value ∧
      hexDigit value ≠ '[' ∧ hexDigit value ≠ ']' := by decide
  cases address with
  | ip4 word =>
    rcases mem_intercalate member with equal | ⟨part, listed, inside⟩
    · rw [equal]
      decide
    · rcases mem_map.mp listed with ⟨index, _, equal⟩
      rw [← equal] at inside
      exact digit _ inside
  | ip6 first second third fourth =>
    rcases mem_intercalate member with equal | ⟨part, listed, inside⟩
    · rw [equal]
      decide
    · rcases mem_map.mp listed with ⟨value, _, equal⟩
      rw [← equal] at inside
      rcases mem_hexDigits inside with ⟨value, rfl⟩
      exact nibble value

theorem addressChars_version (address : Address) :
    ':' ∈ addressChars address ↔ address.is4 = false := by
  cases address with
  | ip4 word =>
    refine ⟨fun inside => ?_, nofun⟩
    rcases mem_intercalate inside with equal | ⟨part, listed, within⟩
    · exact absurd equal (by decide)
    · exact absurd rfl (decimalParts_plain listed within).2.1
  | ip6 first second third fourth =>
    refine ⟨fun _ => rfl, fun _ => ?_⟩
    simp [addressChars, groupParts, wordGroups, intercalate_cons_cons]

def parsePrinted (text : String) : Option Address :=
  (parseChars text.toList).filter fun address => addressChars address = text.toList

theorem parsePrinted_iff :
    parsePrinted text = some address ↔ text.toList = addressChars address := by
  rw [parsePrinted, Option.filter_eq_some_iff]
  constructor
  · intro both
    exact (of_decide_eq_true both.2).symm
  · intro same
    rw [same]
    exact ⟨parseChars_addressChars address, decide_eq_true rfl⟩

theorem lowered_printed (printed : text.toList = addressChars address) : lowered text = text := by
  have same : text.toList.map Char.toLower = text.toList.map id := by
    apply map_congr_left
    intro character member
    rw [printed] at member
    exact (addressChars_canonical member).1
  rw [lowered, same, map_id, String.ofList_toList]

def splitHost (stop : Char) (behind : Nat) (text : List Char) : SplitUrl :=
  let host := text.takeWhile (· ≠ stop)
  ⟨"tcp", some (lowered (.ofList host)), some (decimalValue (text.drop (host.length + behind))), ""⟩

def splitEndpoint (url : String) : Option SplitUrl :=
  match url.toList with
  | 't' :: 'c' :: 'p' :: ':' :: '/' :: '/' :: rest =>
    if rest.head? = some '[' then some (splitHost ']' 2 rest.tail) else some (splitHost ':' 1 rest)
  | _ => none

theorem splitHost_eq {stop : Char} {host : String} (absent : stop ∉ host.toList)
    (between : List Char) (port : Nat) :
    splitHost stop (between.length + 1)
        (host.toList ++ stop :: (between ++ (toString port).toList)) =
      ⟨"tcp", some (lowered host), some port, ""⟩ := by
  have digits : decimalValue (toString port).toList = port := by
    have printed : (toString port).toList = Nat.toDigits 10 port := Nat.toList_repr
    rw [printed, decimalValue_toDigits]
  have behind : (host.toList ++ stop :: (between ++ (toString port).toList)).drop
      (host.toList.length + (between.length + 1)) = (toString port).toList := by
    rw [drop_length_add_append, drop_succ_cons, drop_left]
  rw [splitHost, takeWhile_until absent, behind, digits, String.ofList_toList]

theorem splitEndpoint_tcpEndpoint {host : String}
    (printed : (lowered host).toList = addressChars address) (port : Nat) :
    splitEndpoint (tcpEndpoint host port) = some ⟨"tcp", some (lowered host), some port, ""⟩ := by
  have unbracketed : ∀ character, character = '[' ∨ character = ']' → character ∉ host.toList := by
    rintro _ (rfl | rfl) <;> rw [← mem_lowered (by decide) (by decide), printed] <;>
      exact fun inside => by simpa using addressChars_canonical inside
  have opening := unbracketed '[' (.inl rfl)
  unfold tcpEndpoint
  by_cases colon : ':' ∈ host.toList
  · have rest : ("tcp://" ++ ("[" ++ host ++ "]") ++ ":" ++ toString port).toList =
        't' :: 'c' :: 'p' :: ':' :: '/' :: '/' :: '[' ::
          (host.toList ++ ']' :: ([':'] ++ (toString port).toList)) := by
      simp
    rw [if_pos colon, splitEndpoint, rest]
    exact congrArg some (splitHost_eq (unbracketed ']' (.inr rfl)) [':'] port)
  · have rest : ("tcp://" ++ host ++ ":" ++ toString port).toList =
        't' :: 'c' :: 'p' :: ':' :: '/' :: '/' ::
          (host.toList ++ ':' :: ([] ++ (toString port).toList)) := by
      simp
    have head : (host.toList ++ ':' :: ([] ++ (toString port).toList)).head? ≠ some '[' := by
      intro bracket
      cases characters : host.toList with
      | nil =>
        rw [characters] at bracket
        cases bracket
      | cons first others =>
        rw [characters] at bracket opening
        cases bracket
        exact opening mem_cons_self
    rw [if_neg colon, splitEndpoint, rest]
    simp only [if_neg head]
    exact congrArg some (splitHost_eq colon [] port)

/-- Texts as they are printed, in small or capital letters. -/
@[reducible] def Internet.printed : Internet where
  parseAddr := parsePrinted
  text address := .ofList (addressChars address)
  parse_text address := parsePrinted_iff.mpr String.toList_ofList
  text_plain := ofList_addressChars_plain
  ipAddress text := parsePrinted (lowered text)
  str address := .ofList (addressChars address)
  urlsplit := splitEndpoint
  ipAddress_str address := by
    rw [lowered_printed String.toList_ofList]
    exact parsePrinted_iff.mpr String.toList_ofList
  ipAddress_lowered text := by rw [lowered_lowered]
  ipAddress_parseAddr text address parsed := by
    rw [lowered_printed (parsePrinted_iff.mp parsed)]
    exact parsed
  ipAddress_version text address parsed := by
    rw [← mem_lowered (by decide) (by decide), parsePrinted_iff.mp parsed, addressChars_version]
  urlsplit_endpoint host address port parsed :=
    splitEndpoint_tcpEndpoint (parsePrinted_iff.mp parsed) port.val

/-! ## A writer on the serving port -/

def templateArguments : PlacementArguments where
  rank := ⟨["10.0.0.1=10.0.0.3"], 1000, 8000, 8000⟩
  generation := "capture-id"
  masterAddress := "10.0.0.3"
  masterPort := 25000

def templateReport : CaptureReport := ⟨some 2, some "pre_worker_import", true⟩

def templateFile : PlacementFile where
  regular := true
  size := 300
  value := {
    format := 1
    kind := "coldsnap-process-template-placement"
    generation := "capture-id"
    masterAddress := "10.0.0.3"
    masterPort := 26000
    httpPort := 8000
    transport := some ⟨[("10.0.0.1", "10.0.0.3")], 1000⟩ }

def templateTransport : LazyTransport := ⟨[("10.0.0.1", "10.0.0.3")], 1000⟩

def writerImage : Image :=
  [listener 1 (hostAddress 1) 5000, listener 2 (hostAddress 1) 8000, listener 3 loopback 5000]

def rewrittenWriters : Option Image := do
  let plan ← (@parseOptions Internet.printed.toNetip
    (criuCommand .n580 templateArguments.rank)).toOption
  let rewriting ← (rewriteTCPSocketEndpoints plan writerImage).toOption
  return rewriting.image

theorem template_accepted :
    @Accepted Internet.printed templateArguments templateReport templateFile "capture-id"
      templateTransport :=
  @Accepted.mk Internet.printed _ _ _ _ _ (by decide +kernel) (by decide +kernel)

/-- The first writer is found. -/
theorem writer_found_rotated :
    ∃ plan rewriting, @parseOptions Internet.printed.toNetip
        (criuCommand .n580 templateArguments.rank) = .ok plan ∧
      rewriteTCPSocketEndpoints plan writerImage = .ok rewriting ∧
      ∃ restored endpoint, rewriting.image[0]? = some restored ∧
        @remapTcpEndpoint Internet.printed (tcpEndpoint "10.0.0.1" 5000) templateTransport =
          .ok endpoint ∧
        @Names Internet.printed endpoint restored := by
  let := Internet.printed
  rcases exists_of_isOk (show (parseOptions (criuCommand .n580 templateArguments.rank)).isOk by
    decide +kernel) with ⟨plan, parsed⟩
  have follows := parseOptions_follows parsed
  have listed : mappingText (hostAddress 1) (hostAddress 3) ∈
      (criuCommand .n580 templateArguments.rank).tcpAddressMap := by decide +kernel
  have maps := Plan.maps_iff.mpr ⟨_, parseTCPAddressMap_lookup follows.mapping listed⟩
  have listeners :
      ∀ socket ∈ writerImage, ∃ id address port, socket = listener id address port := by
    simp [writerImage]
  rcases listeners_rewritten plan listeners ⟨_, _, _, mem_cons_self, maps⟩ with
    ⟨rewriting, done⟩
  rcases listener_described 1 (hostAddress 1) 5000 with ⟨tcp, port, destination, described⟩
  have rotates : plan.rotatesLocal (mappedLocalPorts plan.mapping writerImage) (hostAddress 1)
      5000 = true := by
    rw [Plan.rotatesLocal, maps, Bool.true_or]
  have named : @Internet.ipAddress Internet.printed "10.0.0.1" = some (hostAddress 1) := by
    decide +kernel
  refine ⟨plan, rewriting, parsed, done, ?_⟩
  apply (writer_found_iff template_accepted parsed done rfl tcp described (by decide) named rfl).mpr
  refine ⟨.inl ?_, ?_⟩
  · unfold RankArguments.Lists
    decide +kernel
  · exact .inr rotates

/-- The reader of the second writer follows the rotation, which spares the serving port, and
that of the third one a rotation which does not apply to its address. -/
theorem writers_missed :
    @Accepted Internet.printed templateArguments templateReport templateFile "capture-id"
      templateTransport ∧
    rewrittenWriters = some [listener 1 (hostAddress 3) 6000, listener 2 (hostAddress 3) 8000,
      listener 3 loopback 5000] ∧
    @remapTcpEndpoint Internet.printed "tcp://10.0.0.1:8000" templateTransport =
      .ok "tcp://10.0.0.3:9000" ∧
    @remapTcpEndpoint Internet.printed "tcp://127.0.0.1:5000" templateTransport =
      .ok "tcp://127.0.0.1:6000" :=
  ⟨template_accepted, by decide +kernel, by decide +kernel, by decide +kernel⟩

end Coldsnap.Placement
