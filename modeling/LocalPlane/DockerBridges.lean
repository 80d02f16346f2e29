import LocalPlane.Declarations
import LocalPlane.Provenance

/-!
# Which Docker network a link is the bridge of

The correlation compares addresses for equality and does nothing else with them, so it is
the same function over the texts and over what the texts denote, as long as one address has
one text. Over addresses it names the one network that the evidence identifies.
-/

set_option linter.dupNamespace false

namespace LocalPlane

open LineProtocol (Json Fields)
open Declarations
namespace DockerBridges

variable {α β : Type}

/-- What a bridge network declares of its bridge. -/
structure DockerNetwork (α : Type) where
  id : Json
  name : Json
  bridgeName : Json
  gateways : List α

/-- What the kernel reports of a link; the addresses when they could be read. -/
structure Link (α : Type) where
  name : Json
  kind : Json
  addresses : Option (List α)

def DockerNetwork.map (f : α → β) (n : DockerNetwork α) : DockerNetwork β := ⟨n.id,n.name,n.bridgeName,n.gateways.map f⟩

def Link.map (f : α → β) (l : Link α) : Link β := ⟨l.name,l.kind,l.addresses.map (List.map f)⟩

/-- The network declares the link's name as its bridge. -/
def Link.namedBy (l : Link α) (n : DockerNetwork α) : Bool := truthy n.bridgeName ∧ n.bridgeName = l.name

def Link.isBridge (l : Link α) : Bool := l.kind = .str "bridge"

@[simp] theorem Link.isBridge_map (l : Link α) (f : α → β) : (l.map f).isBridge = l.isBridge := rfl

def Link.known (l : Link α) : List α := l.addresses.getD []

def DockerNetwork.claims (source : String) (n : DockerNetwork α) (confidence : OwnershipConfidence) (reason : String) :
    List OwnershipClaim :=
  both fun relation => ⟨relation,docker,n.id,n.name,confidence,reason,source⟩

/-- The network whose gateway is on the link and is declared once. -/
def matchGateways [DecidableEq α] (source : String) (networks : List (DockerNetwork α)) (addresses : List α) : Correlated :=
  match alone DockerNetwork.gateways networks addresses with
  | [] =>
    if among DockerNetwork.gateways networks addresses ≠ [] then ([],"ambiguous_gateway_match",true)
    else ([],"no_matching_docker_network",false)
  | (network,_) :: rest =>
    if rest.any fun p => p.1.id ≠ network.id then ([],"ambiguous_gateway_match",true)
    else (network.claims source .corroborated "docker_ipam_gateway_on_link","matched_ipam_gateway",false)

/-- The correlation over any type of addresses. -/
def correlate [DecidableEq α] (source : String) (l : Link α) (networks : List (DockerNetwork α)) : Correlated :=
  match networks.filter l.namedBy with
  | _ :: _ :: _ => ([],"ambiguous_declared_bridge_name",true)
  | [network] =>
    if l.isBridge then (network.claims source .confirmed "docker_declared_bridge_name","matched_declared_bridge_name",false)
    else ([],"declared_bridge_is_not_a_kernel_bridge",true)
  | [] =>
    if l.isBridge then
      match l.addresses with
      | none => ([],"interface_addresses_unavailable",true)
      | some addresses => matchGateways source networks addresses
    else ([],"not_a_bridge",false)

section Renaming

variable [DecidableEq α] [DecidableEq β] {f : α → β} {l : Link α} {networks : List (DockerNetwork α)}

/-- The addresses a correlation sees. -/
def Seen (l : Link α) (networks : List (DockerNetwork α)) : Set α := {a | a ∈ l.known ∨ ∃ n ∈ networks, a ∈ n.gateways}

theorem matchGateways_map (source : String) {addresses : List α} (hf : (Seen l networks).InjOn f) (haddresses : l.addresses = some addresses) :
    matchGateways source (networks.map (DockerNetwork.map f)) (addresses.map f) = matchGateways source networks addresses := by
  have hgateways : ∀ n ∈ networks, ∀ a ∈ n.gateways, a ∈ Seen l networks := fun n hn a ha => .inr ⟨n,hn,ha⟩
  have hknown : ∀ a ∈ addresses, a ∈ Seen l networks := fun a ha => .inl (by rwa [Link.known,haddresses])
  have hamong : among DockerNetwork.gateways (networks.map (DockerNetwork.map f)) (addresses.map f) =
      (among DockerNetwork.gateways networks addresses).map (Prod.map (DockerNetwork.map f) f) :=
    among_map (fun n _ => rfl) hf hgateways hknown
  have halone : alone DockerNetwork.gateways (networks.map (DockerNetwork.map f)) (addresses.map f) =
      (alone DockerNetwork.gateways networks addresses).map (Prod.map (DockerNetwork.map f) f) :=
    alone_map (fun n _ => rfl) hf hgateways hknown
  unfold matchGateways
  rw [hamong,halone]
  rcases alone DockerNetwork.gateways networks addresses with _ | ⟨⟨network,v⟩,rest⟩
  · simp
  · simp only [List.map_cons,List.any_map]
    rfl

/-- Addresses are only told apart. -/
theorem correlate_map (source : String) (hf : (Seen l networks).InjOn f) :
    correlate source (l.map f) (networks.map (DockerNetwork.map f)) = correlate source l networks := by
  have hnamed : (networks.map (DockerNetwork.map f)).filter (l.map f).namedBy =
      (networks.filter l.namedBy).map (DockerNetwork.map f) := by
    rw [List.filter_map]
    rfl
  unfold correlate
  rw [hnamed]
  rcases networks.filter l.namedBy with _ | ⟨network,_ | ⟨other,rest⟩⟩
  · cases haddresses : l.addresses with
    | none =>
      have hmapped : (l.map f).addresses = none := by rw [Link.map,haddresses]; rfl
      simp only [List.map_nil,hmapped,Link.isBridge_map]
    | some addresses =>
      have hmapped : (l.map f).addresses = some (addresses.map f) := by rw [Link.map,haddresses]; rfl
      simp only [List.map_nil,hmapped,Link.isBridge_map,matchGateways_map source hf haddresses]
  · rfl
  · rfl

end Renaming

section Evidence

variable (l : Link α) (networks : List (DockerNetwork α))

/-- The network declares a gateway that is on the link and that no other network declares. -/
def Reaches (n : DockerNetwork α) : Prop := ∃ g ∈ n.gateways, g ∈ l.known ∧ ∀ m ∈ networks, g ∈ m.gateways → m = n

/-- The one network the evidence identifies: by the link's name or, where nobody declares that name, by a gateway. -/
def Identified (n : DockerNetwork α) : Prop :=
  l.isBridge ∧ (Only networks (l.namedBy ·) n ∨
    (∀ m ∈ networks, ¬l.namedBy m) ∧ Only networks (Reaches l networks) n)

/-- The network may be the link's: it declares the name, or the link is a bridge that has its gateway or whose
addresses could not be read. -/
def CouldBe (n : DockerNetwork α) : Prop :=
  l.namedBy n ∨ l.isBridge ∧ (l.addresses = none ∨ ∃ g ∈ n.gateways, g ∈ l.known)

/-- No network is listed twice, and none declares a gateway twice. -/
structure Apart : Prop where
  ids : (networks.map DockerNetwork.id).Nodup
  once : ∀ n ∈ networks, n.gateways.Nodup

/-- What a correlation may answer. -/
inductive Verdict (source : String) : Correlated → Prop
  | claimed {n : DockerNetwork α} (hn : n ∈ networks) (h : Identified l networks n) (confidence : OwnershipConfidence)
      (reason outcome : String) : Verdict source (n.claims source confidence reason,outcome,false)
  | gap (h : ∀ n, ¬Identified l networks n) (outcome : String) : Verdict source ([],outcome,true)
  | settled (h : ∀ n ∈ networks, ¬CouldBe l n) (outcome : String) : Verdict source ([],outcome,false)

variable {l networks}

theorem Apart.nodup (h : Apart networks) : networks.Nodup := .of_map _ h.ids

theorem Apart.eq_of_id (h : Apart networks) {n m : DockerNetwork α} (hn : n ∈ networks) (hm : m ∈ networks) (hid : n.id = m.id) :
    n = m := List.inj_on_of_nodup_map h.ids hn hm hid

theorem mem_named {n : DockerNetwork α} : n ∈ networks.filter l.namedBy ↔ n ∈ networks ∧ l.namedBy n = true := List.mem_filter

theorem not_identified_of_two {n m : DockerNetwork α} {rest : List (DockerNetwork α)} (h : Apart networks)
    (hnamed : networks.filter l.namedBy = n :: m :: rest) (k : DockerNetwork α) : ¬Identified l networks k := by
  have hnodup : (n :: m :: rest).Nodup := hnamed ▸ h.nodup.filter _
  have hn : n ∈ networks.filter l.namedBy := by rw [hnamed]; exact List.mem_cons_self
  have hm : m ∈ networks.filter l.namedBy := by rw [hnamed]; exact List.mem_cons_of_mem _ List.mem_cons_self
  obtain ⟨hn,hnn⟩ := mem_named.mp hn
  obtain ⟨hm,hmn⟩ := mem_named.mp hm
  rintro ⟨-,⟨-,-,honly⟩ | ⟨hnone,-⟩⟩
  · have he : n = m := (honly n hn hnn).trans (honly m hm hmn).symm
    exact (List.nodup_cons.mp hnodup).1 (he ▸ List.mem_cons_self)
  · exact hnone n hn hnn

theorem only_of_one {n : DockerNetwork α} (hnamed : networks.filter l.namedBy = [n]) : Only networks (l.namedBy ·) n := by
  have hn : n ∈ networks.filter l.namedBy := by rw [hnamed]; exact List.mem_cons_self
  refine ⟨(mem_named.mp hn).1,(mem_named.mp hn).2,fun m hm hmn => ?_⟩
  have hmem : m ∈ networks.filter l.namedBy := mem_named.mpr ⟨hm,hmn⟩
  rw [hnamed] at hmem
  exact List.mem_singleton.mp hmem

theorem reaches_iff [DecidableEq α] (h : Apart networks) {addresses : List α} (haddresses : l.addresses = some addresses)
    {n : DockerNetwork α} (hn : n ∈ networks) :
    Reaches l networks n ↔ ∃ v, (n,v) ∈ alone DockerNetwork.gateways networks addresses := by
  have hknown : l.known = addresses := by rw [Link.known,haddresses]; rfl
  constructor
  · rintro ⟨v,hv,hpresent,hapart⟩
    exact ⟨v,(mem_alone h.nodup h.once).mpr ⟨hn,hv,hknown ▸ hpresent,hapart⟩⟩
  · rintro ⟨v,hv⟩
    obtain ⟨-,hv,hpresent,hapart⟩ := (mem_alone h.nodup h.once).mp hv
    exact ⟨v,hv,hknown.symm ▸ hpresent,hapart⟩

theorem matchGateways_verdict [DecidableEq α] (source : String) (h : Apart networks) (hb : l.isBridge = true)
    (hnone : ∀ m ∈ networks, ¬l.namedBy m) {addresses : List α} (haddresses : l.addresses = some addresses) :
    Verdict l networks source (matchGateways source networks addresses) := by
  have hreaches := fun n (hn : n ∈ networks) => reaches_iff h haddresses hn
  unfold matchGateways
  rcases hal : alone DockerNetwork.gateways networks addresses with _ | ⟨⟨n,v⟩,rest⟩
  · simp only
    have hsole : ∀ n, ¬Identified l networks n := by
      rintro n ⟨-,⟨hn,hnn,-⟩ | ⟨-,hn,hr,-⟩⟩
      · exact hnone n hn hnn
      · obtain ⟨v,hv⟩ := (hreaches n hn).mp hr
        rw [hal] at hv
        exact List.not_mem_nil hv
    by_cases hempty : among DockerNetwork.gateways networks addresses = []
    · rw [if_neg (not_not.mpr hempty)]
      refine .settled (fun n hn hc => ?_) _
      rcases hc with hnn | ⟨-,hread | ⟨g,hg,hpresent⟩⟩
      · exact hnone n hn hnn
      · rw [haddresses] at hread
        cases hread
      · have hmem : (n,g) ∈ among DockerNetwork.gateways networks addresses :=
          mem_among.mpr ⟨hn,hg,by rwa [Link.known,haddresses] at hpresent⟩
        rw [hempty] at hmem
        exact List.not_mem_nil hmem
    · rw [if_pos hempty]
      exact .gap hsole _
  · simp only
    have hn : n ∈ networks := ((mem_alone h.nodup h.once).mp (hal ▸ List.mem_cons_self)).1
    have hr : Reaches l networks n := (hreaches n hn).mpr ⟨v,hal ▸ List.mem_cons_self⟩
    by_cases hother : rest.any fun p => p.1.id ≠ n.id
    · obtain ⟨⟨m,w⟩,hmw,hid⟩ := List.any_eq_true.mp hother
      have hmem : (m,w) ∈ alone DockerNetwork.gateways networks addresses := hal ▸ List.mem_cons_of_mem _ hmw
      have hm : m ∈ networks := ((mem_alone h.nodup h.once).mp hmem).1
      have hrm : Reaches l networks m := (hreaches m hm).mpr ⟨w,hmem⟩
      rw [if_pos hother]
      refine .gap ?_ _
      rintro k ⟨-,⟨hk,hkn,-⟩ | ⟨-,-,-,honly⟩⟩
      · exact hnone k hk hkn
      · have he : m = n := (honly m hm hrm).trans (honly n hn hr).symm
        simp [he] at hid
    · rw [if_neg hother]
      have honly : Only networks (Reaches l networks) n := by
        refine ⟨hn,hr,fun m hm hrm => ?_⟩
        obtain ⟨w,hw⟩ := (hreaches m hm).mp hrm
        rw [hal] at hw
        rcases List.mem_cons.mp hw with he | hw
        · exact congrArg Prod.fst he
        · by_contra hne
          have hid : m.id ≠ n.id := fun hid => hne (h.eq_of_id hm hn hid)
          exact hother (List.any_eq_true.mpr ⟨(m,w),hw,by simpa using hid⟩)
      exact .claimed hn ⟨hb,.inr ⟨hnone,honly⟩⟩ _ _ _

/-- With distinct networks whose gateways are distinct, the correlation answers by the evidence. -/
theorem correlate_verdict [DecidableEq α] (source : String) (h : Apart networks) :
    Verdict l networks source (correlate source l networks) := by
  unfold correlate
  rcases hnamed : networks.filter l.namedBy with _ | ⟨network,_ | ⟨other,rest⟩⟩
  · have hnone : ∀ m ∈ networks, ¬l.namedBy m := List.filter_eq_nil_iff.mp hnamed
    cases hb : l.isBridge with
    | false => exact .settled (fun n hn hc => hc.elim (hnone n hn) fun hc => by simp [hb] at hc) _
    | true =>
      cases haddresses : l.addresses with
      | none =>
        refine .gap (fun n hi => ?_) _
        rcases hi.2 with ⟨hn,hnn,-⟩ | ⟨-,-,⟨g,-,hg,-⟩,-⟩
        · exact hnone n hn hnn
        · simp [Link.known,haddresses] at hg
      | some addresses => exact matchGateways_verdict source h hb hnone haddresses
  · cases hb : l.isBridge with
    | false => exact .gap (fun n hi => absurd hi.1 (by simp [hb])) _
    | true => exact .claimed (only_of_one hnamed).1 ⟨hb,.inl (only_of_one hnamed)⟩ _ _ _
  · exact .gap (not_identified_of_two h hnamed) _

theorem Identified.mem {n : DockerNetwork α} (h : Identified l networks n) : n ∈ networks := h.2.elim (·.1) (·.2.1)

theorem Identified.unique {n m : DockerNetwork α} (h : Identified l networks n) (h' : Identified l networks m) : n = m := by
  obtain ⟨-,⟨hn,hnn,-⟩ | ⟨hnone,hn,hr,-⟩⟩ := h
  · obtain ⟨-,⟨-,-,honly⟩ | ⟨hnone,-⟩⟩ := h'
    · exact honly n hn hnn
    · exact absurd hnn (hnone n hn)
  · obtain ⟨-,⟨hm,hmn,-⟩ | ⟨-,-,-,honly⟩⟩ := h'
    · exact absurd hmn (hnone m hm)
    · exact honly n hn hr

theorem Identified.couldBe {n : DockerNetwork α} (h : Identified l networks n) : CouldBe l n := by
  rcases h.2 with ⟨-,hn,-⟩ | ⟨-,-,⟨g,hg,hpresent,-⟩,-⟩
  · exact .inl hn
  · exact .inr ⟨h.1,.inr ⟨g,hg,hpresent⟩⟩

theorem DockerNetwork.mem_claims {source reason : String} {confidence : OwnershipConfidence} {n : DockerNetwork α} {owner : Json} :
    (∃ claim ∈ n.claims source confidence reason, claim.owner = owner) ↔ n.id = owner := by
  simp [DockerNetwork.claims,both]

end Evidence

/-- A record as the daemon listed it. -/
def networkOf (record : Fields) : DockerNetwork String :=
  ⟨fact record "network_id",fact record "name",fact record "bridge_name",LocalPlane.gateways record⟩

def networksOf (reading : ProviderReading) : List (DockerNetwork String) :=
  (reading.records.filter fun r => fact r "driver" = .str "bridge").map networkOf

def linkOf (facts : Fields) : Link String := ⟨fact facts "name",fact facts "kind",LocalPlane.addresses facts⟩

/-- The correlation of the source, over texts. -/
theorem dockerCorrelation_eq (facts : Fields) (reading : ProviderReading) :
    dockerCorrelation facts reading = correlate reading.source (linkOf facts) (networksOf reading) := by
  unfold dockerCorrelation correlate matchGateways networksOf
  generalize reading.records.filter (fun r => decide (fact r "driver" = .str "bridge")) = records
  have hnamed : (records.map networkOf).filter (linkOf facts).namedBy =
      (records.filter fun n => truthy (fact n "bridge_name") ∧ fact n "bridge_name" = fact facts "name").map networkOf := by
    rw [List.filter_map]
    rfl
  have hunivalent : Set.InjOn (id : String → String) Set.univ := Function.injective_id.injOn
  have hgateways : ∀ r ∈ records, DockerNetwork.gateways (networkOf r) = (LocalPlane.gateways r).map id := fun r _ => by
    rw [List.map_id]
    rfl
  have hamong (addresses : List String) : among DockerNetwork.gateways (records.map networkOf) addresses =
      (among LocalPlane.gateways records addresses).map (Prod.map networkOf id) := by
    have h := among_map hgateways hunivalent (fun _ _ _ _ => trivial) (fun v (_ : v ∈ addresses) => trivial)
    rwa [List.map_id] at h
  have halone (addresses : List String) : alone DockerNetwork.gateways (records.map networkOf) addresses =
      (alone LocalPlane.gateways records addresses).map (Prod.map networkOf id) := by
    have h := alone_map hgateways hunivalent (fun _ _ _ _ => trivial) (fun v (_ : v ∈ addresses) => trivial)
    rwa [List.map_id] at h
  have hkind : (linkOf facts).isBridge = decide (fact facts "kind" = .str "bridge") := rfl
  have haddresses : (linkOf facts).addresses = LocalPlane.addresses facts := rfl
  dsimp only
  rw [hnamed]
  rcases records.filter fun n => truthy (fact n "bridge_name") ∧ fact n "bridge_name" = fact facts "name" with
    _ | ⟨network,_ | ⟨other,rest⟩⟩
  · simp only [List.map_nil,hkind,haddresses]
    by_cases hb : fact facts "kind" = .str "bridge"
    · simp only [hb,decide_true,ne_eq,not_true_eq_false,if_false,if_true]
      cases LocalPlane.addresses facts with
      | none => rfl
      | some addresses =>
        have honLink : (records.flatMap fun n => ((LocalPlane.gateways n).filter (· ∈ addresses)).map fun g => (n,g)) =
            among LocalPlane.gateways records addresses := rfl
        have hunique : ((among LocalPlane.gateways records addresses).filter fun p =>
            (records.flatMap LocalPlane.gateways).count p.2 = 1) = alone LocalPlane.gateways records addresses := rfl
        dsimp only
        rw [honLink,hunique]
        rcases hal : alone LocalPlane.gateways records addresses with _ | ⟨⟨network,v⟩,rest⟩
        · simp [halone,hal,hamong]
        · simp only [halone,hal,List.map_cons,List.any_map]
          rfl
    · simp [hb]
  · by_cases hb : fact facts "kind" = .str "bridge"
    · simp only [List.map_cons,List.map_nil,hkind,hb,decide_true,ne_eq,not_true_eq_false,if_false,if_true]
      rfl
    · simp [hkind,hb]
  · rfl

section Exactness

variable (denotes : String → α) (facts : Fields) (reading : ProviderReading)

/-- The link by the addresses its texts denote. -/
def denotedLink : Link α := (linkOf facts).map denotes

/-- The networks by the addresses their texts denote. -/
def denotedNetworks : List (DockerNetwork α) := (networksOf reading).map (DockerNetwork.map denotes)

/-- A network's claim is made exactly when the evidence identifies it. -/
def ClaimsIdentified : Prop :=
  ∀ n ∈ networksOf reading, (∃ claim ∈ (dockerCorrelation facts reading).1, claim.owner = n.id) ↔
    Identified (denotedLink denotes facts) (denotedNetworks denotes reading) (n.map denotes)

/-- A link that may be some network's, but of no one network, is a gap. -/
def AmbiguityIsGap : Prop :=
  (∃ n ∈ denotedNetworks denotes reading, CouldBe (denotedLink denotes facts) n) →
    (∀ n, ¬Identified (denotedLink denotes facts) (denotedNetworks denotes reading) n) → (dockerCorrelation facts reading).2.2 = true

/-- Where no network is claimed and nothing is left open, no gateway is on the link. -/
def SettledUnreached : Prop :=
  (dockerCorrelation facts reading).1 = [] → (dockerCorrelation facts reading).2.2 = false →
    ∀ n ∈ denotedNetworks denotes reading, ∀ g ∈ n.gateways, g ∉ (denotedLink denotes facts).known

/-- The same evidence but for the spelling of its addresses. -/
def Respelled (facts' : Fields) (reading' : ProviderReading) : Prop :=
  reading'.source = reading.source ∧ denotedLink denotes facts' = denotedLink denotes facts ∧
    denotedNetworks denotes reading' = denotedNetworks denotes reading

/-- Another spelling of an address changes nothing. -/
def SpellingFree : Prop :=
  ∀ facts' reading', Respelled denotes facts reading facts' reading' → dockerCorrelation facts' reading' = dockerCorrelation facts reading

/-- Every network is listed once and declares a gateway once, and every address is spelled one way. -/
structure Plain : Prop where
  apart : Apart (networksOf reading)
  spelled : (Seen (linkOf facts) (networksOf reading)).InjOn denotes

variable {denotes facts reading}

theorem Plain.apart_denoted (h : Plain denotes facts reading) : Apart (denotedNetworks denotes reading) := by
  constructor
  · have hids : (denotedNetworks denotes reading).map DockerNetwork.id = (networksOf reading).map DockerNetwork.id := by
      rw [denotedNetworks,List.map_map]
      rfl
    exact hids ▸ h.apart.ids
  · intro n hn
    obtain ⟨m,hm,rfl⟩ := List.mem_map.mp hn
    exact (h.apart.once m hm).map_on fun a ha b hb hab => h.spelled (.inr ⟨m,hm,ha⟩) (.inr ⟨m,hm,hb⟩) hab

variable [DecidableEq α]

/-- The texts are told apart exactly as the addresses are. -/
theorem Plain.correlation (h : Plain denotes facts reading) :
    dockerCorrelation facts reading = correlate reading.source (denotedLink denotes facts) (denotedNetworks denotes reading) := by
  rw [dockerCorrelation_eq,denotedLink,denotedNetworks,correlate_map reading.source h.spelled]

theorem Plain.verdict (h : Plain denotes facts reading) :
    Verdict (denotedLink denotes facts) (denotedNetworks denotes reading) reading.source (dockerCorrelation facts reading) := by
  rw [h.correlation]
  exact correlate_verdict reading.source h.apart_denoted

theorem Plain.claimsIdentified (h : Plain denotes facts reading) : ClaimsIdentified denotes facts reading := by
  intro n hn
  have hmem : n.map denotes ∈ denotedNetworks denotes reading := List.mem_map_of_mem hn
  have hv := h.verdict
  generalize dockerCorrelation facts reading = answer at hv
  cases hv with
  | claimed hm hi confidence reason outcome =>
    rw [DockerNetwork.mem_claims]
    constructor
    · intro hid
      exact h.apart_denoted.eq_of_id hm hmem hid ▸ hi
    · intro hi'
      rw [hi.unique hi']
      rfl
  | gap hnone outcome => simp [hnone]
  | settled hnone outcome =>
    have hnot : ¬Identified (denotedLink denotes facts) (denotedNetworks denotes reading) (n.map denotes) :=
      fun hi => hnone _ hmem hi.couldBe
    simp [hnot]

theorem Plain.ambiguityIsGap (h : Plain denotes facts reading) : AmbiguityIsGap denotes facts reading := by
  rintro ⟨n,hn,hc⟩ hnone
  have hv := h.verdict
  generalize dockerCorrelation facts reading = answer at hv
  cases hv with
  | claimed hm hi confidence reason outcome => exact absurd hi (hnone _)
  | gap hgap outcome => rfl
  | settled hsettled outcome => exact absurd hc (hsettled n hn)

theorem Plain.settledUnreached (h : Plain denotes facts reading) (hb : (linkOf facts).isBridge = true) :
    SettledUnreached denotes facts reading := by
  intro hclaims hgap n hn g hg hknown
  have hv := h.verdict
  generalize dockerCorrelation facts reading = answer at hv hclaims hgap
  cases hv with
  | claimed hm hi confidence reason outcome => cases hclaims
  | gap hnone outcome => cases hgap
  | settled hsettled outcome => exact hsettled n hn (.inr ⟨hb,.inr ⟨g,hg,hknown⟩⟩)

/-- Where every address is spelled one way, the network claimed is the one the evidence identifies, what is
ambiguous is left open, a bridge without a claim has no gateway, and the spelling makes no difference. -/
theorem attribution_exact (h : Plain denotes facts reading) : ClaimsIdentified denotes facts reading ∧
    AmbiguityIsGap denotes facts reading ∧ ((linkOf facts).isBridge = true → SettledUnreached denotes facts reading) ∧
    ∀ facts' reading', Plain denotes facts' reading' → Respelled denotes facts reading facts' reading' →
      dockerCorrelation facts' reading' = dockerCorrelation facts reading := by
  refine ⟨h.claimsIdentified,h.ambiguityIsGap,h.settledUnreached,?_⟩
  rintro facts' reading' h' ⟨hsource,hlink,hnetworks⟩
  rw [h.correlation,h'.correlation,hsource,hlink,hnetworks]

/-- A bridge network as the daemon lists it. -/
def listed (id gateway : String) : Fields :=
  [("network_id",.str id),("name",.str id),("driver",.str "bridge"),("ipam",.arr [.obj [("gateway",.str gateway)]])]

def linkFacts (kind address : String) : Fields :=
  [("name",.str "br0"),("kind",.str kind),("addresses",.arr [.obj [("address",.str address)]])]

def twoNetworks : ProviderReading := ⟨docker,"docker.networks",.ok,none,0,[listed "monitoring" "172.19.0.1",listed "web" "172.20.0.1"]⟩

theorem attribution_exact_of_two : ClaimsIdentified id (linkFacts "bridge" "172.19.0.1") twoNetworks ∧
    AmbiguityIsGap id (linkFacts "bridge" "172.19.0.1") twoNetworks ∧
    ((linkOf (linkFacts "bridge" "172.19.0.1")).isBridge = true → SettledUnreached id (linkFacts "bridge" "172.19.0.1") twoNetworks) ∧
    ∀ facts' reading', Plain id facts' reading' → Respelled id (linkFacts "bridge" "172.19.0.1") twoNetworks facts' reading' →
      dockerCorrelation facts' reading' = dockerCorrelation (linkFacts "bridge" "172.19.0.1") twoNetworks :=
  attribution_exact ⟨⟨by decide,by decide⟩,Function.injective_id.injOn⟩

/-- A link that is no bridge is settled, whatever is declared of its address. -/
theorem gateway_on_ethernet_settled : ¬(ClaimsIdentified id (linkFacts "ethernet" "172.19.0.1") twoNetworks ∧
    AmbiguityIsGap id (linkFacts "ethernet" "172.19.0.1") twoNetworks ∧
    SettledUnreached id (linkFacts "ethernet" "172.19.0.1") twoNetworks ∧
    SpellingFree id (linkFacts "ethernet" "172.19.0.1") twoNetworks) := by
  rintro ⟨-,-,hsettled,-⟩
  have hn : (networkOf (listed "monitoring" "172.19.0.1")).map id ∈ denotedNetworks id twoNetworks := List.mem_cons_self
  exact hsettled (by decide) (by decide) _ hn "172.19.0.1" (by decide) (by decide)

end Exactness

end DockerBridges
end LocalPlane
