import LocalPlane.ManagementPath

/-!
# A named object is the one

What a verdict that names an object rests on, and what cannot move it to another: rows
recorded for other endpoints, objects that join, and evidence that is lost.
-/

set_option linter.dupNamespace false

namespace LocalPlane

open LineProtocol (Json Fields)

namespace Path

/-- What an end of the connection says it is, with a carried IPv4 address unwrapped. -/
def EndOf (l : Language) (value : Option String) (ip : Ip) : Prop :=
  ∃ text parsed, value = some text ∧ text ≠ "" ∧ l.ipAddress text = some parsed ∧ parsed.normal = ip

/-- An interface of the host whose newest observation satisfies `P`. -/
def Shows (e : Estate) (hostId : HostId) (P : Observation → Prop) (id : ObjectId) : Prop :=
  ∃ row o, e.objects id = some row ∧ e.newest id = some o ∧ row.hostId = hostId ∧ row.kind = .networkInterface ∧ P o

def Lists (l : Language) (e : Estate) (hostId : HostId) (address : String) : ObjectId → Prop :=
  Shows e hostId fun o => address ∈ addressesOf l o.facts

def HasIndex (e : Estate) (hostId : HostId) (index : Int) : ObjectId → Prop := Shows e hostId fun o => indexOf o.facts = some index

def Ip.Placed (ip : Ip) : Prop := ip.isLoopback = false ∧ ip.isUnspecified = false ∧ ip.isLinkLocal = false

/-- The request whose path is asked for, and the clock it is asked by. -/
structure Inquiry where
  hostId : HostId
  peer : Option String
  here : Option String
  horizon : Horizon

def Inquiry.verdict (l : Language) (q : Inquiry) (s : PathStore) : ManagementPathVerdict :=
  assess l s q.horizon q.hostId q.peer q.here

/-- The rows that were recorded for these two endpoints on this host. -/
def recordedFor (rows : List ManagementPathObservation) (hostId : HostId) (peer here : String) : List ManagementPathObservation :=
  rows.filter fun o => o.hostId = hostId ∧ o.transportPeerAddress = peer ∧ o.localEndpointAddress = here

/-- Both readings of a connection between these two ends single out one object. -/
structure Supported (l : Language) (s : PathStore) (q : Inquiry) (p h : Ip) (object : ObjectId) : Prop where
  peer : EndOf l q.peer p
  here : EndOf l q.here h
  family : p.version = h.version
  evidence : ∃ o ∈ s.rows, newestMatching s.rows q.hostId (l.spell p) (l.spell h) = some o ∧
    o.hostId = q.hostId ∧ o.transportPeerAddress = l.spell p ∧ o.localEndpointAddress = l.spell h ∧
    o.transportPeerFamily = p.family ∧ o.localEndpointFamily = h.family ∧
    current q.horizon.now q.horizon.ttl (l.instantOf o.observedAt) = true ∧ o.route.status = "resolved" ∧
    ∃ index, o.route.oifIndex = some index ∧ ∀ id, HasIndex s.estate q.hostId index id ↔ id = object
  carrier : ∀ id, Lists l s.estate q.hostId (l.spell h) id ↔ id = object
  current : Shows s.estate q.hostId (fun o => current q.horizon.readAt q.horizon.ttl (some o.observedAt) = true) object

section Objects

variable {l : Language} {e : Estate} {hostId : HostId} {id : ObjectId} {o : Observation} {P : Observation → Prop}

theorem mem_interfaces : (id,o) ∈ interfaces e hostId ↔
    ∃ row, e.objects id = some row ∧ e.newest id = some o ∧ row.hostId = hostId ∧ row.kind = .networkInterface := by
  unfold interfaces
  rw [List.mem_filterMap]
  constructor
  · rintro ⟨id',-,h⟩
    split at h
    · next row o' hget =>
      split at h
      · next hrow =>
        cases h
        obtain ⟨r,hr,heq⟩ := Option.map_eq_some_iff.mp hget
        have hobject : r = row := congrArg ObjectRecord.row heq
        have hnewest : e.newest id = some o := congrArg ObjectRecord.observation heq
        exact ⟨row,hobject ▸ hr,hnewest,hrow.1,hrow.2⟩
      · cases h
    · cases h
  · rintro ⟨row,hrow,hnewest,hhost,hkind⟩
    have hmem := Table.latest_mem hnewest
    obtain ⟨hmem,hid⟩ := List.mem_filter.mp hmem
    refine ⟨id,List.mem_dedup.mpr (List.mem_map.mpr ⟨o,hmem,of_decide_eq_true hid⟩),?_⟩
    have hget : e.get id = some ⟨row,some o⟩ := by rw [Estate.get,hrow,hnewest]; rfl
    rw [hget]
    exact if_pos ⟨hhost,hkind⟩

/-- The ids whose newest observation satisfies a test, listed once each. -/
theorem mem_ids [DecidablePred P] :
    id ∈ (((interfaces e hostId).filter fun p => decide (P p.2)).map (·.1)) ↔ Shows e hostId P id := by
  rw [List.mem_map]
  constructor
  · rintro ⟨⟨id',o⟩,hmem,rfl⟩
    obtain ⟨hmem,hp⟩ := List.mem_filter.mp hmem
    obtain ⟨row,hrow,hnewest,hhost,hkind⟩ := mem_interfaces.mp hmem
    exact ⟨row,o,hrow,hnewest,hhost,hkind,of_decide_eq_true hp⟩
  · rintro ⟨row,o,hrow,hnewest,hhost,hkind,hp⟩
    exact ⟨(id,o),List.mem_filter.mpr ⟨mem_interfaces.mpr ⟨row,hrow,hnewest,hhost,hkind⟩,decide_eq_true hp⟩,rfl⟩

theorem mem_byAddress {address : String} : id ∈ byAddress l e hostId address ↔ Lists l e hostId address id :=
  SortBy.mem.trans (List.mem_dedup.trans (mem_ids (P := fun o => address ∈ addressesOf l o.facts)))

theorem mem_byIndex {index : Int} : id ∈ byIndex e hostId index ↔ HasIndex e hostId index id :=
  SortBy.mem.trans (List.mem_dedup.trans (mem_ids (P := fun o => indexOf o.facts = some index)))

/-- A set of one, listed. -/
theorem sorted_eq_singleton {ids : List ObjectId} {x : ObjectId} : sorted ids.dedup = [x] ↔ ∀ id, id ∈ sorted ids.dedup ↔ id = x := by
  constructor
  · intro h id
    rw [h,List.mem_singleton]
  · intro h
    have hnodup : (sorted ids.dedup).Nodup := (SortBy.perm _).nodup_iff.mpr (List.nodup_dedup ids)
    exact List.perm_singleton.mp ((List.perm_ext_iff_of_nodup hnodup (List.nodup_singleton x)).mpr fun id => by
      rw [h,List.mem_singleton])

theorem byAddress_singleton {address : String} {x : ObjectId} :
    byAddress l e hostId address = [x] ↔ ∀ id, Lists l e hostId address id ↔ id = x :=
  sorted_eq_singleton.trans (forall_congr' fun _ => iff_congr mem_byAddress Iff.rfl)

theorem byIndex_singleton {index : Int} {x : ObjectId} :
    byIndex e hostId index = [x] ↔ ∀ id, HasIndex e hostId index id ↔ id = x :=
  sorted_eq_singleton.trans (forall_congr' fun _ => iff_congr mem_byIndex Iff.rfl)

end Objects

section Transport

variable {l : Language} {reasons : EndpointReasons} {value peer here : Option String} {ip : Ip}

/-- An end nothing is held against is an address that is placed somewhere. -/
theorem classify_usable : classify l reasons value = (some ip,none) ↔ EndOf l value ip ∧ ip.Placed := by
  constructor
  · intro h
    unfold classify at h
    split at h
    · cases h
    · next text =>
      split at h
      · cases h
      · next hne =>
        split at h
        · cases h
        · next parsed hparsed =>
          dsimp only at h
          split at h
          · cases h
          · next hloop =>
            split at h
            · cases h
            · next hunspec =>
              split at h
              · cases h
              · next hlink =>
                cases h
                exact ⟨⟨text,parsed,rfl,hne,hparsed,rfl⟩,Bool.eq_false_iff.mpr hloop,Bool.eq_false_iff.mpr hunspec,
                  Bool.eq_false_iff.mpr hlink⟩
  · rintro ⟨⟨text,parsed,rfl,hne,hparsed,rfl⟩,hloop,hunspec,hlink⟩
    simp [classify,hne,hparsed,hloop,hunspec,hlink]

theorem classify_none (h : (classify l reasons value).2 = none) : ∃ ip, classify l reasons value = (some ip,none) := by
  rcases hc : classify l reasons value with ⟨found,reason⟩
  rw [hc] at h
  cases h
  cases found with
  | some ip => exact ⟨ip,rfl⟩
  | none =>
    unfold classify at hc
    split at hc
    · cases hc
    · split at hc
      · cases hc
      · split at hc
        · cases hc
        · dsimp only at hc
          split_ifs at hc <;> cases hc

theorem readTransport_usable (h : (readTransport l peer here).unusableReason = none) :
    ∃ p q, EndOf l peer p ∧ p.Placed ∧ EndOf l here q ∧ q.Placed ∧ p.version = q.version ∧
      (readTransport l peer here).peerAddress = some (l.spell p) ∧ (readTransport l peer here).localAddress = some (l.spell q) ∧
      (readTransport l peer here).peerFamily = some p.family ∧ (readTransport l peer here).localFamily = some q.family := by
  obtain ⟨hboth,hmismatch⟩ := Option.or_eq_none_iff.mp h
  obtain ⟨hp,hq⟩ := Option.or_eq_none_iff.mp hboth
  obtain ⟨p,hp⟩ := classify_none hp
  obtain ⟨q,hq⟩ := classify_none hq
  obtain ⟨hpe,hpp⟩ := classify_usable.mp hp
  obtain ⟨hqe,hqp⟩ := classify_usable.mp hq
  refine ⟨p,q,hpe,hpp,hqe,hqp,?_,?_⟩
  · simp only [hp,hq] at hmismatch
    by_contra hne
    rw [if_pos hne] at hmismatch
    cases hmismatch
  · simp [readTransport,hp,hq]

theorem readTransport_of {p q : Ip} (hpe : EndOf l peer p) (hpp : p.Placed) (hqe : EndOf l here q) (hqp : q.Placed)
    (hv : p.version = q.version) : readTransport l peer here =
      ⟨some (l.spell p),some p.family,some (l.spell q),some q.family,none,peer,here⟩ := by
  have hp : classify l peerReasons peer = (some p,none) := classify_usable.mpr ⟨hpe,hpp⟩
  have hq : classify l localReasons here = (some q,none) := classify_usable.mpr ⟨hqe,hqp⟩
  simp [readTransport,hp,hq,hv]

end Transport

section Derivation

variable {l : Language} {t : TransportEvidence} {hostId : HostId} {e : Estate} {hz : Horizon} {x : ObjectId}
  {observation : Option ManagementPathObservation}

theorem mem_stale : x ∈ stale e hostId hz ↔ Shows e hostId (fun o => ¬current hz.readAt hz.ttl (some o.observedAt) = true) x :=
  mem_ids (P := fun o => ¬current hz.readAt hz.ttl (some o.observedAt) = true)

theorem Shows.not_stale {P : Observation → Prop} (h : Shows e hostId P x) : x ∉ stale e hostId hz ↔
    Shows e hostId (fun o => current hz.readAt hz.ttl (some o.observedAt) = true) x := by
  obtain ⟨row,o,hrow,hnewest,hhost,hkind,-⟩ := h
  rw [mem_stale]
  constructor
  · intro hfresh
    by_contra hstale
    exact hfresh ⟨row,o,hrow,hnewest,hhost,hkind,fun hc => hstale ⟨row,o,hrow,hnewest,hhost,hkind,hc⟩⟩
  · rintro ⟨-,o₁,-,hnewest₁,-,-,hc⟩ ⟨-,o₂,-,hnewest₂,-,-,hn⟩
    rw [hnewest₁] at hnewest₂
    cases hnewest₂
    exact hn hc

theorem derive_names : (deriveManagementPath l t hostId observation e hz).resourceId = some x ↔
    t.unusableReason = none ∧ ∃ o, observation = some o ∧ o.matches t hostId = true ∧
      current hz.now hz.ttl (l.instantOf o.observedAt) = true ∧ byAddress l e hostId o.localEndpointAddress = [x] ∧
      o.route.status = "resolved" ∧ (∃ index, o.route.oifIndex = some index ∧ byIndex e hostId index = [x]) ∧
      x ∉ stale e hostId hz := by
  constructor
  · intro h
    unfold deriveManagementPath at h
    split at h
    · cases h
    · next husable =>
      refine ⟨husable,?_⟩
      split at h
      · cases h
      · next o =>
        refine ⟨o,rfl,?_⟩
        split at h
        · cases h
        · next hmatch =>
          split at h
          · cases h
          · next hfresh =>
            split at h
            · cases h
            · cases h
            · next endpoint hendpoint =>
              split at h
              · cases h
              · next hresolved =>
                split at h
                · cases h
                · next index hindex =>
                  split at h
                  · cases h
                  · cases h
                  · next egress hegress =>
                    split at h
                    · cases h
                    · next hsame =>
                      split at h
                      · cases h
                      · next hcurrent =>
                        cases h
                        rw [Decidable.not_not] at hmatch hfresh hresolved hsame
                        subst hsame
                        exact ⟨hmatch,hfresh,hendpoint,hresolved,⟨index,hindex,hegress⟩,hcurrent⟩
  · rintro ⟨husable,o,rfl,hmatch,hfresh,hendpoint,hresolved,⟨index,hindex,hegress⟩,hcurrent⟩
    simp [deriveManagementPath,husable,hmatch,hfresh,hendpoint,hresolved,hindex,hegress,hcurrent]

theorem newestMatching_spec {rows : List ManagementPathObservation} {peer here : String} {o : ManagementPathObservation}
    (h : newestMatching rows hostId peer here = some o) :
    o ∈ rows ∧ o.hostId = hostId ∧ o.transportPeerAddress = peer ∧ o.localEndpointAddress = here := by
  obtain ⟨hmem,hp⟩ := List.mem_filter.mp (Table.latest_mem h)
  exact ⟨hmem,of_decide_eq_true hp⟩

end Derivation

section Verdict

variable {l : Language} {s s' : PathStore} {q q' : Inquiry} {p h : Ip} {x y : ObjectId}

theorem EndOf.unique {value : Option String} {a b : Ip} (ha : EndOf l value a) (hb : EndOf l value b) : a = b := by
  obtain ⟨text,parsed,rfl,-,hparsed,rfl⟩ := ha
  obtain ⟨text',parsed',htext,-,hparsed',rfl⟩ := hb
  cases htext
  rw [hparsed] at hparsed'
  cases hparsed'
  rfl

/-- The verdict of a request whose ends can both be placed is the derivation from the newest row for them. -/
theorem verdict_of (hpe : EndOf l q.peer p) (hpp : p.Placed) (hhe : EndOf l q.here h) (hhp : h.Placed)
    (hv : p.version = h.version) : q.verdict l s = deriveManagementPath l
      ⟨some (l.spell p),some p.family,some (l.spell h),some h.family,none,q.peer,q.here⟩ q.hostId
      (newestMatching s.rows q.hostId (l.spell p) (l.spell h)) s.estate q.horizon := by
  rw [Inquiry.verdict,assess,readTransport_of hpe hpp hhe hhp hv]

theorem verdict_of_unusable (hu : (readTransport l q.peer q.here).unusableReason ≠ none) :
    (q.verdict l s).resourceId = none := by
  obtain ⟨reason,hreason⟩ := Option.ne_none_iff_exists'.mp hu
  simp only [Inquiry.verdict,assess,deriveManagementPath,hreason]
  rfl

theorem verdict_names : (q.verdict l s).resourceId = some x ↔ ∃ p h, p.Placed ∧ h.Placed ∧ Supported l s q p h x := by
  constructor
  · intro hx
    by_cases hu : (readTransport l q.peer q.here).unusableReason = none
    · obtain ⟨p,h,hpe,hpp,hhe,hhp,hv,-⟩ := readTransport_usable hu
      rw [verdict_of hpe hpp hhe hhp hv] at hx
      obtain ⟨-,o,hnewest,hmatch,hfresh,hendpoint,hresolved,⟨index,hindex,hegress⟩,hcurrent⟩ := derive_names.mp hx
      obtain ⟨hmem,hhost,hpeer,hhere⟩ := newestMatching_spec hnewest
      obtain ⟨-,-,-,hpf,hhf⟩ := of_decide_eq_true hmatch
      rw [hhere] at hendpoint
      have hcarrier := byAddress_singleton.mp hendpoint
      exact ⟨p,h,hpp,hhp,hpe,hhe,hv,⟨o,hmem,hnewest,hhost,hpeer,hhere,Option.some.inj hpf,Option.some.inj hhf,hfresh,hresolved,
        index,hindex,byIndex_singleton.mp hegress⟩,hcarrier,((hcarrier x).mpr rfl).not_stale.mp hcurrent⟩
    · rw [verdict_of_unusable hu] at hx
      cases hx
  · rintro ⟨p,h,hpp,hhp,hs⟩
    rw [verdict_of hs.peer hpp hs.here hhp hs.family]
    obtain ⟨o,-,hnewest,hhost,hpeer,hhere,hpf,hhf,hfresh,hresolved,index,hindex,hegress⟩ := hs.evidence
    refine derive_names.mpr ⟨rfl,o,hnewest,decide_eq_true ⟨hhost,congrArg some hpeer,congrArg some hhere,congrArg some hpf,
      congrArg some hhf⟩,hfresh,?_,hresolved,⟨index,hindex,byIndex_singleton.mpr hegress⟩,?_⟩
    · rw [hhere]
      exact byAddress_singleton.mpr hs.carrier
    · exact ((hs.carrier x).mpr rfl).not_stale.mpr hs.current

/-- Only the rows recorded for the two ends are read. -/
theorem verdict_apart {rows : List ManagementPathObservation}
    (hrows : ∀ p h, EndOf l q.peer p → EndOf l q.here h →
      recordedFor rows q.hostId (l.spell p) (l.spell h) = recordedFor s.rows q.hostId (l.spell p) (l.spell h)) :
    q.verdict l ⟨s.estate,rows⟩ = q.verdict l s := by
  by_cases hu : (readTransport l q.peer q.here).unusableReason = none
  · obtain ⟨p,h,hpe,hpp,hhe,hhp,hv,-⟩ := readTransport_usable hu
    rw [verdict_of hpe hpp hhe hhp hv,verdict_of hpe hpp hhe hhp hv]
    have hsame : newestMatching rows q.hostId (l.spell p) (l.spell h) =
        newestMatching s.rows q.hostId (l.spell p) (l.spell h) := congrArg (Table.latest _) (hrows p h hpe hhe)
    rw [hsame]
  · obtain ⟨reason,hreason⟩ := Option.ne_none_iff_exists'.mp hu
    simp only [Inquiry.verdict,assess,deriveManagementPath,hreason]

/-- Whoever is named lists the address the connection ended on, and nobody else does. -/
theorem named_carrier (hx : (q.verdict l s).resourceId = some x) :
    ∃ h, EndOf l q.here h ∧ ∀ id, Lists l s.estate q.hostId (l.spell h) id ↔ id = x := by
  obtain ⟨p,h,-,-,hs⟩ := verdict_names.mp hx
  exact ⟨h,hs.here,hs.carrier⟩

/-- One store lists whatever the other does, so a name they both give is one name. -/
theorem named_of_subset (hhost : q'.hostId = q.hostId) (hhere : q'.here = q.here)
    (hsub : ∀ address id, Lists l s.estate q.hostId address id → Lists l s'.estate q.hostId address id)
    (hx : (q.verdict l s).resourceId = some x) (hy : (q'.verdict l s').resourceId = some y) : y = x := by
  obtain ⟨a,ha,hax⟩ := named_carrier hx
  obtain ⟨b,hb,hby⟩ := named_carrier hy
  rw [hhere] at hb
  cases ha.unique hb
  rw [hhost] at hby
  exact ((hby x).mp (hsub _ x ((hax x).mpr rfl))).symm

end Verdict

/-- The named object is the one the evidence supports, for a connection between two hosts; and nothing
that joins, is lost or belongs to another connection puts another in its place. -/
structure Sound (l : Language) (s : PathStore) (q : Inquiry) : Prop where
  named : ∀ x, (q.verdict l s).resourceId = some x → ∃ p h, Supported l s q p h x ∧ p.Routable ∧ h.Routable
  apart : ∀ rows, (∀ p h, EndOf l q.peer p → EndOf l q.here h →
    recordedFor rows q.hostId (l.spell p) (l.spell h) = recordedFor s.rows q.hostId (l.spell p) (l.spell h)) →
      q.verdict l ⟨s.estate,rows⟩ = q.verdict l s
  added : ∀ (s' : PathStore) (q' : Inquiry) (x y : ObjectId), q'.hostId = q.hostId → q'.here = q.here →
    (∀ address id, Lists l s.estate q.hostId address id → Lists l s'.estate q.hostId address id) →
      (q.verdict l s).resourceId = some x → (q'.verdict l s').resourceId = some y → y = x
  degraded : ∀ (s' : PathStore) (q' : Inquiry) (x y : ObjectId), q'.hostId = q.hostId → q'.here = q.here ∨ q'.here = none →
    (∀ address id, Lists l s'.estate q.hostId address id → Lists l s.estate q.hostId address id) →
      (q.verdict l s).resourceId = some x → (q'.verdict l s').resourceId = some y → y = x

def Ip.Unicast (ip : Ip) : Prop := ip.isMulticast = false ∧ ip.isReserved = false

section

variable {l : Language} {s : PathStore} {q : Inquiry}

theorem Ip.routable_iff {ip : Ip} : ip.Routable ↔ ip.Placed ∧ ip.Unicast := by
  simp only [Ip.Routable,Ip.Placed,Ip.Unicast,and_assoc]

end

namespace Examples

def group : Ip := .v4 ⟨239 * 2 ^ 24 + 66051,by decide⟩

def eth0Address : Ip := .v4 ⟨3221225985,by decide⟩

def language : Language where
  ipAddress := fun text => if text = "239.1.2.3" then some group else if text = "192.0.2.1" then some eth0Address else none
  spell := fun ip => if ip = group then "239.1.2.3" else "192.0.2.1"
  instantOf := fun text => if text = "2026-01-01T00:00:00Z" then some 1767225600 else none

def eth0 : Observation :=
  ⟨1,0,"network.observe","iproute2",1767225600,[("ifindex",.num 2),("addresses",.arr [.obj [("address",.str "192.0.2.1")]])]⟩

def oneInterface : Estate :=
  ⟨[1],fun id => if id = 0 then some ⟨0,"h",.networkInterface,"mac","eth0",.observed,"management_candidate",none,by decide⟩ else none,
    [eth0]⟩

def fromGroup : PathStore :=
  ⟨oneInterface,[⟨"o","h","2026-01-01T00:00:00Z","239.1.2.3","inet","192.0.2.1","inet",⟨"resolved",some 2⟩⟩]⟩

def groupInquiry : Inquiry := ⟨"h",some "239.1.2.3",some "192.0.2.1",⟨1767225610,1767225610,60⟩⟩

end Examples

end Path
end LocalPlane
