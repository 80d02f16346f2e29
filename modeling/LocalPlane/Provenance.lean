import LocalPlane.Estate

/-!
# Who made an object and who configures it

What each provider said in a sweep, correlated with what the kernel reports of a link. A
provider that settles nothing leaves a gap; a claim needs an answer that could be read.
-/

set_option linter.dupNamespace false

namespace LocalPlane

open LineProtocol (Json Fields)

inductive ProviderStatus where
  | ok | absent | unavailable | error
  deriving DecidableEq

inductive OwnershipRelation where
  | createdBy | configuredBy
  deriving DecidableEq

inductive OwnershipConfidence where
  | confirmed | corroborated
  deriving DecidableEq

def docker : String := "docker"
def networkmanager : String := "networkmanager"
def tailscale : String := "tailscale"
def kernel : String := "kernel"

/-- The kernel and LocalPlane itself compete with nobody. -/
def external (provider : String) : Bool := provider ≠ kernel ∧ provider ≠ "localplane"

structure OwnershipClaim where
  relation : OwnershipRelation
  provider : String
  owner : Json
  label : Json
  confidence : OwnershipConfidence
  reason : String
  source : String
  deriving DecidableEq

/-- What one source contributed. A gap is a question it left open. -/
structure ConsultedSource where
  source : String
  provider : String
  outcome : String
  gap : Bool
  deriving DecidableEq

structure Provenance where
  claims : List OwnershipClaim
  sources : List ConsultedSource

def both (claim : OwnershipRelation → OwnershipClaim) : List OwnershipClaim := [claim .createdBy,claim .configuredBy]

def Provenance.claimsFor (p : Provenance) (relation : OwnershipRelation) : List OwnershipClaim :=
  p.claims.filter (·.relation = relation)

/-- What one provider said in one sweep. -/
structure ProviderReading where
  provider : String
  source : String
  status : ProviderStatus
  reason : Option String
  observedAt : Instant
  records : List Fields
  deriving DecidableEq

/-- The reading of each provider; of two sources of one provider the last. -/
abbrev ProviderEvidence := List ProviderReading

def ProviderEvidence.get (evidence : ProviderEvidence) (provider : String) : Option ProviderReading :=
  evidence.reverse.find? (·.provider = provider)

def truthy : Json → Bool
  | .null => false
  | .bool b => b
  | .num n => n ≠ 0
  | .str s => s ≠ ""
  | .arr l => !l.isEmpty
  | .obj l => !l.isEmpty

/-- The outcome when a provider produced nothing usable. Only one that is not installed settles anything. -/
def unusableSource (provider source : String) : Option ProviderReading → Option ConsultedSource
  | none => some ⟨source,provider,"no_provider_evidence",true⟩
  | some r =>
    match r.status with
    | .ok => none
    | .absent => some ⟨r.source,provider,r.reason.getD "provider_absent",false⟩
    | .unavailable | .error => some ⟨r.source,provider,r.reason.getD "provider_unreadable",true⟩

def texts (l : List Json) : List String :=
  l.filterMap fun j : Json => match j with | .str s => some s | _ => none

def strings (l : List Json) (key : String) : List String :=
  l.filterMap fun j => match j with
    | .obj fields => match fact fields key with | .str s => some s | _ => none
    | _ => none

/-- The addresses on the link, or nothing when the source that lists them failed. -/
def addresses (facts : Fields) : Option (List String) :=
  match fact facts "addresses" with
  | .null => none
  | .arr l => some (strings l "address")
  | _ => some []

/-- A correlation with one provider's usable reading: the claims it makes and the outcome. -/
abbrev Correlated := List OwnershipClaim × String × Bool

def kernelClaims (facts : Fields) : List OwnershipClaim × ConsultedSource :=
  let source : String := "kernel.interface"
  if fact facts "kind" = .str "loopback" then
    ([⟨.createdBy,kernel,.null,.null,.confirmed,"kernel_loopback_device",source⟩],
      ⟨source,kernel,"kernel_loopback_device",false⟩)
  else match truthy (fact facts "is_physical"),fact facts "device_path" with
    | true,.str path =>
      if path ≠ "" then
        ([⟨.createdBy,kernel,.str path,.null,.confirmed,"kernel_device_backed",source⟩],
          ⟨source,kernel,"kernel_device_backed",false⟩)
      else ([],⟨source,kernel,"virtual_link_no_kernel_claim",false⟩)
    | _,_ => ([],⟨source,kernel,"virtual_link_no_kernel_claim",false⟩)

def gateways (network : Fields) : List String :=
  match fact network "ipam" with
  | .arr l => (strings l "gateway").filter (· ≠ "")
  | _ => []

def dockerClaims (reading : ProviderReading) (network : Fields) (confidence : OwnershipConfidence) (reason : String) :
    List OwnershipClaim :=
  both fun relation => ⟨relation,docker,fact network "network_id",fact network "name",confidence,reason,reading.source⟩

/-- A declared bridge name the kernel agrees with, or a gateway that one network alone declares and that is on
the link. -/
def dockerCorrelation (facts : Fields) (reading : ProviderReading) : Correlated :=
  let networks := reading.records.filter fun r => fact r "driver" = .str "bridge"
  let name := fact facts "name"
  let kind := fact facts "kind"
  match networks.filter fun n => truthy (fact n "bridge_name") ∧ fact n "bridge_name" = name with
  | _ :: _ :: _ => ([],"ambiguous_declared_bridge_name",true)
  | [network] =>
    if kind ≠ .str "bridge" then ([],"declared_bridge_is_not_a_kernel_bridge",true)
    else (dockerClaims reading network .confirmed "docker_declared_bridge_name","matched_declared_bridge_name",false)
  | [] =>
    if kind ≠ .str "bridge" then ([],"not_a_bridge",false)
    else match addresses facts with
      | none => ([],"interface_addresses_unavailable",true)
      | some addresses =>
        let declared := networks.flatMap gateways
        let onLink := networks.flatMap fun n => ((gateways n).filter (· ∈ addresses)).map fun g => (n,g)
        let unique := onLink.filter fun p => declared.count p.2 = 1
        match unique with
        | [] => if onLink ≠ [] then ([],"ambiguous_gateway_match",true) else ([],"no_matching_docker_network",false)
        | (network,_) :: rest =>
          if rest.any fun p => fact p.1 "network_id" ≠ fact network "network_id" then ([],"ambiguous_gateway_match",true)
          else (dockerClaims reading network .corroborated "docker_ipam_gateway_on_link","matched_ipam_gateway",false)

/-- Only an active connection that is not external is NetworkManager applying something to the device. -/
def networkmanagerCorrelation (facts : Fields) (reading : ProviderReading) : Correlated :=
  match reading.records.find? fun r => fact r "device" = fact facts "name" with
  | none => ([],"device_not_present",false)
  | some device =>
    if fact device "state" = .str "unmanaged" then ([],"device_unmanaged",false)
    else if truthy (fact device "external") then ([],"device_externally_configured",false)
    else if fact device "state" ≠ .str "connected" ∨ ¬truthy (fact device "connection_uuid") then
      ([],"device_managed_without_active_profile",false)
    else ([⟨.configuredBy,networkmanager,fact device "connection_uuid",fact device "connection",.confirmed,
      "networkmanager_active_profile",reading.source⟩],"device_actively_configured",false)

/-- The interface outlives the daemon that made it, so a daemon that is not running settles nothing about a tunnel. -/
def tailscaleCorrelation (facts : Fields) (reading : ProviderReading) : Correlated :=
  match reading.records with
  | [] => ([],"daemon_state_unreadable",true)
  | daemon :: _ =>
    if fact facts "kind" ≠ .str "tunnel" then ([],"not_a_tunnel_link",false)
    else if fact daemon "tun" = .bool false then ([],"userspace_networking",false)
    else if fact daemon "backend_state" ≠ .str "Running" then ([],"backend_not_running",true)
    else match addresses facts with
      | none => ([],"interface_addresses_unavailable",true)
      | some addresses =>
        let held := match fact daemon "tailscale_ips" with
          | .arr l => texts l
          | _ => []
        if held.any (· ∈ addresses) then
          let owner := if truthy (fact daemon "dns_name") then fact daemon "dns_name" else fact daemon "hostname"
          (both fun relation =>
            ⟨relation,tailscale,owner,fact daemon "hostname",.corroborated,"tailscale_daemon_addresses_on_link",reading.source⟩,
            "matched_daemon_addresses",false)
        else ([],"daemon_addresses_not_on_link",false)

/-- A provider's part in the assessment of a link. -/
structure Correlator where
  provider : String
  source : String
  correlate : Fields → ProviderReading → Correlated

def correlators : List Correlator :=
  [⟨docker,"docker.networks",dockerCorrelation⟩,⟨networkmanager,"networkmanager.devices",networkmanagerCorrelation⟩,
    ⟨tailscale,"tailscale.status",tailscaleCorrelation⟩]

def Correlator.derive (c : Correlator) (facts : Fields) (evidence : ProviderEvidence) :
    List OwnershipClaim × ConsultedSource :=
  match unusableSource c.provider c.source (evidence.get c.provider),evidence.get c.provider with
  | none,some reading =>
    let found := c.correlate facts reading
    (found.1,⟨reading.source,c.provider,found.2.1,found.2.2⟩)
  | some unusable,_ => ([],unusable)
  | none,none => ([],⟨c.source,c.provider,"no_provider_evidence",true⟩)

/-- Every source is consulted for every link. -/
def deriveProvenance (facts : Fields) (evidence : ProviderEvidence) : Provenance where
  claims := (kernelClaims facts).1 ++ correlators.flatMap fun c => (c.derive facts evidence).1
  sources := (kernelClaims facts).2 :: correlators.map fun c => (c.derive facts evidence).2

/-- A container's observation is itself the evidence of its owner. -/
def deriveContainerProvenance (facts : Fields) : Provenance :=
  let source : String := "docker.containers"
  match fact facts "container_id" with
  | .str id =>
    if id = "" then ⟨[],[⟨source,docker,"container_id_unreadable",true⟩]⟩
    else
      let claim (relation : OwnershipRelation) (reason : String) : OwnershipClaim :=
        ⟨relation,docker,.str id,match fact facts "name" with | .str n => .str n | _ => .null,.confirmed,reason,source⟩
      ⟨[claim .createdBy "docker_created_this_container",claim .configuredBy "docker_holds_this_container_s_configuration"],
        [⟨source,docker,"container_declared_by_daemon",false⟩]⟩
  | _ => ⟨[],[⟨source,docker,"container_id_unreadable",true⟩]⟩

def forObject (kind : ObjectKind) (observation : Option Observation) (evidence : ProviderEvidence) : Provenance :=
  match observation with
  | none => ⟨[],[]⟩
  | some o => if kind = .dockerContainer then deriveContainerProvenance o.facts else deriveProvenance o.facts evidence

/-- Claims of more than one system on one relation. -/
def Provenance.conflicting (p : Provenance) : Bool :=
  [OwnershipRelation.createdBy,.configuredBy].any fun relation =>
    match p.claimsFor relation with
    | [] => false
    | claim :: rest => rest.any fun other => other.provider ≠ claim.provider

def Provenance.externalClaims (p : Provenance) (relation : OwnershipRelation) : List OwnershipClaim :=
  (p.claimsFor relation).filter fun c => external c.provider

/-- Why ownership forbids taking new responsibility. -/
def ownershipBlock (p : Provenance) : Option String :=
  if p.conflicting then some "conflicting_ownership_claims"
  else if p.externalClaims .configuredBy ≠ [] then some "externally_configured"
  else if p.externalClaims .createdBy ≠ [] then some "externally_created"
  else none

end LocalPlane
