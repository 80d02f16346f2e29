import LocalPlane.TopologySubnets

/-!
# What the relationship graph shows

The graph owes a node, drawn or counted in the fold, to every link attributed to Docker and
to every subnet held. It gives one to each Docker network that some link names, told of the
last such link, and leaves out the subnets held by links with the names of Docker links.
-/

set_option linter.dupNamespace false

namespace LocalPlane
namespace Topology
open TextNumbers

section Owed

variable (input : Input)

/-- A node is drawn, or among those that the fold counts. -/
def Accounted (node : TopologyNode) : Prop :=
  node ∈ buildTopology input ∨ ∃ drawn folded, attachedNodes input = drawn ++ folded ∧ (∀ n ∈ drawn, n ∈ buildTopology input) ∧
    node ∈ folded ∧ ∃ more ∈ buildTopology input, more.id = ("attached:more" : Text) ∧ more.name = number folded.length ++ (" more" : Text)

def Represented (tells : TopologyNode → Prop) : Prop := ∃ node ∈ attachedNodes input, tells node ∧ Accounted input node

/-- Some interface holds a global IPv4 address in the subnet. -/
def Holds (subnet : Text) : Prop :=
  ∃ item ∈ input.interfaces, ∃ address ∈ item.addresses.getD [], address.scope = scopeGlobal ∧ address.family = inet ∧
    ∃ a b c d p, a < 256 ∧ b < 256 ∧ c < 256 ∧ d < 256 ∧ p ≤ 32 ∧ address.address = quad a b c d ∧ address.prefixLength = (p : ℕ) ∧
      subnet = networkText a b c d p

/-- A Docker link names the network. -/
def Names (item : NetworkInterface) (networkId : Text) : Prop := item ∈ dockerBridges input.interfaces ∧ instanceOf item = some networkId

/-- The containers that list the network. -/
def joined (networkId : Text) : List DockerContainer := input.containers.filter fun c => some networkId ∈ c.networkIds

/-- The subnet's own node, or a network's node with the subnet on its edge. -/
def TellsSubnet (subnet : Text) (node : TopologyNode) : Prop :=
  node.id = ("subnet:" : Text) ++ subnet ∨ node.kind = ("container net" : Text) ∧ ∃ edge ∈ node.edges, edge.label = some subnet

structure OmitsNothing : Prop where
  distinct : ((buildTopology input).map (·.id)).Nodup
  grounded : ∀ node ∈ buildTopology input, ∀ edge ∈ node.edges, ∃ source ∈ buildTopology input, source.id = edge.source
  links : ∀ item ∈ dockerBridges input.interfaces, Represented input fun node => node.page = some (("/network/" : Text) ++ item.objectId)
  subnets : ∀ subnet, Holds input subnet → Represented input (TellsSubnet subnet)
  counts : ∀ item networkId, Names input item networkId → Represented input fun node =>
    node.id = ("net:" : Text) ++ networkId ∧
      node.note = some (networkNote (joined input networkId).length ((joined input networkId).filter running).length)
  unread : (input.interfacesRead && input.containersRead) = false → Represented input fun node => node.id = ("estate-unread" : Text)

/-- The link is the last of those that name the network. -/
def Kept (item : NetworkInterface) (networkId : Text) : Prop :=
  ((identified input.interfaces).filter fun e => e.1 = networkId).getLast? = some (networkId,item)

/-- Every Docker link stands for its network, every subnet of one is the one shown or is held elsewhere too, and no
container lists a network twice. -/
structure Accountable : Prop where
  links : ∀ item ∈ dockerBridges input.interfaces, ∃ networkId kept, Kept input kept networkId ∧ kept.objectId = item.objectId
  subnets : ∀ subnet, Holds input subnet →
    (∃ e ∈ held input.interfaces, e.1 = subnet ∧ e.2.1 ∉ (dockerBridges input.interfaces).map (·.name)) ∨
      ∃ networkId kept, Kept input kept networkId ∧ (subnetFor kept).getD kept.name = subnet
  counts : ∀ item networkId, Names input item networkId → ∀ c ∈ input.containers, c.networkIds.count (some networkId) ≤ 1

end Owed

variable {input : Input} {node : TopologyNode}

section Folding

/-- The three columns that are never folded. -/
def fixedNodes (input : Input) : List TopologyNode := [gatewayNode input,pathNode input,hostNode input]

theorem column_gatewayNode : (gatewayNode input).column = 0 := by
  unfold gatewayNode
  split <;> rfl

theorem mem_fixedNodes : node ∈ fixedNodes input ↔ node = gatewayNode input ∨ node = pathNode input ∨ node = hostNode input := by
  rw [fixedNodes,List.mem_cons,List.mem_cons,List.mem_singleton]

theorem fixed_columns : ∀ n ∈ fixedNodes input, n.column ≠ 3 := by
  intro n hn
  rcases mem_fixedNodes.mp hn with rfl | rfl | rfl
  · rw [column_gatewayNode]
    decide
  · exact show 1 ≠ 3 by decide
  · exact show 2 ≠ 3 by decide

theorem attached_columns : ∀ n ∈ attachedNodes input, n.column = 3 := by
  intro n hn
  simp only [attachedNodes,List.mem_append,List.mem_map,subnetNodes,List.mem_filterMap] at hn
  rcases hn with ((⟨e,_,rfl⟩ | ⟨e,_,he⟩) | hn) | hn
  · rfl
  · split at he <;> cases he
    rfl
  · split at hn <;> simp at hn
    exact hn ▸ rfl
  · split at hn <;> simp at hn
    exact hn ▸ rfl

/-- Either all is drawn, or three nodes are and one more counts the rest. -/
theorem buildTopology_eq : buildTopology input = fixedNodes input ++ attachedNodes input ∨
    buildTopology input = fixedNodes input ++ (attachedNodes input).take 3 ++ [moreNode ((attachedNodes input).drop 3)] := by
  have hattached : (fixedNodes input ++ attachedNodes input).filter (fun n => n.column = 3) = attachedNodes input := by
    rw [List.filter_append,List.filter_eq_nil_iff.mpr fun n hn => by simpa using fixed_columns n hn,
      List.filter_eq_self.mpr fun n hn => by simpa using attached_columns n hn,List.nil_append]
  have hfixed : (fixedNodes input ++ attachedNodes input).filter (fun n => n.column ≠ 3) = fixedNodes input := by
    rw [List.filter_append,List.filter_eq_self.mpr fun n hn => by simpa using fixed_columns n hn,
      List.filter_eq_nil_iff.mpr fun n hn => by simpa using attached_columns n hn,List.append_nil]
  have hbuild : buildTopology input = capAttached (fixedNodes input ++ attachedNodes input) := rfl
  rw [hbuild,capAttached]
  simp only [hattached,hfixed]
  split
  · exact .inl rfl
  · exact .inr rfl

theorem fixed_subset : ∀ n ∈ fixedNodes input, n ∈ buildTopology input := by
  intro n hn
  rcases @buildTopology_eq input with h | h <;> rw [h] <;> simp [hn]

/-- Nothing attached is lost in the fold. -/
theorem accounted (h : node ∈ attachedNodes input) : Accounted input node := by
  rcases @buildTopology_eq input with hall | hfold
  · exact .inl (by simp [hall,h])
  · have hsplit : node ∈ (attachedNodes input).take 3 ∨ node ∈ (attachedNodes input).drop 3 := by
      rwa [← List.mem_append,List.take_append_drop]
    rcases hsplit with htake | hdrop
    · exact .inl (by simp [hfold,htake])
    · exact .inr ⟨_,_,(List.take_append_drop 3 _).symm,fun n hn => by simp [hfold,hn],hdrop,moreNode _,by simp [hfold],rfl,rfl⟩

theorem represented_iff {tells : TopologyNode → Prop} : Represented input tells ↔ ∃ node ∈ attachedNodes input, tells node :=
  ⟨fun ⟨node,hnode,htells,_⟩ => ⟨node,hnode,htells⟩,fun ⟨node,hnode,htells⟩ => ⟨node,hnode,htells,accounted hnode⟩⟩

end Folding

section Attached

/-- What an attached node can be. -/
theorem mem_attachedNodes : node ∈ attachedNodes input ↔
    (∃ e ∈ networkEntries input, node = networkNode e) ∨
    (∃ e ∈ subnets input.interfaces, ¬(∀ name ∈ e.2.via, name ∈ (dockerBridges input.interfaces).map (·.name)) ∧ node = subnetNode e.1 e.2) ∨
    (0 < (publishedPorts input.containers).length ∧ node = exposedNode (publishedPorts input.containers)) ∨
    ((input.interfacesRead && input.containersRead) = false ∧ node = unreadNode
      ((if input.interfacesRead then [] else ["interfaces".toList]) ++ (if input.containersRead then [] else ["containers".toList]))) := by
  rw [attachedNodes]
  simp only [List.mem_append,or_assoc]
  refine or_congr ?_ (or_congr ?_ (or_congr ?_ ?_))
  · simp only [List.mem_map,eq_comm]
  · simp only [subnetNodes,List.mem_filterMap]
    refine exists_congr fun e => and_congr_right fun _ => ?_
    split
    · next h =>
      simp only [List.all_eq_true,decide_eq_true_eq] at h
      exact ⟨fun h' => (by cases h'),fun h' => absurd h h'.1⟩
    · next h =>
      simp only [List.all_eq_true,decide_eq_true_eq] at h
      simp only [Option.some.injEq,h,not_false_eq_true,true_and,eq_comm]
  · split
    · next h => simp only [List.mem_singleton,h,true_and]
    · next h => simp only [List.not_mem_nil,h,false_and]
  · cases input.interfacesRead <;> cases input.containersRead <;> simp

theorem mem_bridgeByNetworkId {networkId : Text} {item : NetworkInterface} :
    (networkId,item) ∈ bridgeByNetworkId input.interfaces ↔ Kept input item networkId := by
  rw [bridgeByNetworkId,InsertionOrder.mem_gather_last,Kept,Option.map_eq_some_iff]
  constructor
  · rintro ⟨e,he,rfl⟩
    have hkey := (List.mem_filter.mp (List.mem_of_getLast? he)).2
    rw [he,← of_decide_eq_true hkey]
  · exact fun h => ⟨_,h,rfl⟩

theorem mem_networkEntries {e : NetworkEntry} :
    e ∈ networkEntries input ↔ Kept input e.link e.networkId ∧ e.attached = attachedTo input.containers e.networkId := by
  rw [networkEntries,SortBy.mem,List.mem_map]
  constructor
  · rintro ⟨⟨networkId,item⟩,h,rfl⟩
    exact ⟨mem_bridgeByNetworkId.mp h,rfl⟩
  · rintro ⟨hkept,hattached⟩
    exact ⟨(e.networkId,e.link),mem_bridgeByNetworkId.mpr hkept,by rw [← hattached]⟩

/-- The containers of a network are those that list it, each as often as it does. -/
theorem attachedTo_eq (containers : List DockerContainer) (networkId : Text) :
    attachedTo containers networkId = ((memberships containers).filter fun e => e.1 = networkId).map (·.2) :=
  InsertionOrder.get_gather_list

/-- Of the links that name a network, one is kept. -/
theorem exists_kept {item : NetworkInterface} {networkId : Text} (h : Names input item networkId) : ∃ kept, Kept input kept networkId := by
  have hmem : (networkId,item) ∈ (identified input.interfaces).filter fun e => e.1 = networkId :=
    List.mem_filter.mpr ⟨List.mem_filterMap.mpr ⟨item,h.1,by simp [h.2]⟩,by simp⟩
  cases hlast : ((identified input.interfaces).filter fun e => e.1 = networkId).getLast? with
  | none => simp [List.getLast?_eq_none_iff.mp hlast] at hmem
  | some e =>
    have hkey := (List.mem_filter.mp (List.mem_of_getLast? hlast)).2
    exact ⟨e.2,by rw [Kept,hlast,← of_decide_eq_true hkey]⟩

section Subnets

/-- One more holder of a subnet. -/
def extend (existing : Option SubnetInfo) (a : Text × Text × Text) : SubnetInfo :=
  match existing with
  | some info => { info with via := info.via ++ [a.2.1] }
  | none => ⟨[a.2.1],a.2.2⟩

theorem foldl_extend (l : List (Text × Text × Text)) (info : SubnetInfo) :
    ∃ info', l.foldl (fun h a => some (extend h a)) (some info) = some info' ∧ info'.via = info.via ++ l.map (·.2.1) := by
  induction l generalizing info with
  | nil => exact ⟨info,rfl,by simp⟩
  | cons a rest ih =>
    obtain ⟨info',hfold,hvia⟩ := ih (extend (some info) a)
    exact ⟨info',hfold,by simp [hvia,extend]⟩

theorem mem_subnets {subnet : Text} {info : SubnetInfo} : (subnet,info) ∈ subnets input.interfaces ↔
    ((held input.interfaces).filter fun e => e.1 = subnet).foldl (fun h a => some (extend h a)) none = some info :=
  InsertionOrder.mem_gather

/-- A subnet that is held has its entry, with every interface that holds it. -/
theorem exists_subnet {e : Text × Text × Text} (h : e ∈ held input.interfaces) : ∃ info, (e.1,info) ∈ subnets input.interfaces := by
  have hmem : e ∈ (held input.interfaces).filter fun other => other.1 = e.1 := List.mem_filter.mpr ⟨h,by simp⟩
  cases hlist : (held input.interfaces).filter fun other => other.1 = e.1 with
  | nil => simp [hlist] at hmem
  | cons a rest =>
    obtain ⟨info,hfold,_⟩ := foldl_extend rest (extend none a)
    exact ⟨info,mem_subnets.mpr (by rw [hlist,List.foldl_cons,hfold])⟩

theorem via_subnet {subnet : Text} {info : SubnetInfo} (h : (subnet,info) ∈ subnets input.interfaces) (name : Text) :
    name ∈ info.via ↔ ∃ e ∈ held input.interfaces, e.1 = subnet ∧ e.2.1 = name := by
  have hfold := mem_subnets.mp h
  have hvia : info.via = ((held input.interfaces).filter fun e => e.1 = subnet).map (·.2.1) := by
    cases hlist : (held input.interfaces).filter fun e => e.1 = subnet with
    | nil => simp [hlist] at hfold
    | cons a rest =>
      obtain ⟨info',hrest,hinfo⟩ := foldl_extend rest (extend none a)
      rw [hlist,List.foldl_cons,hrest,Option.some.injEq] at hfold
      rw [← hfold,hinfo]
      rfl
  rw [hvia,List.mem_map]
  simp only [List.mem_filter,decide_eq_true_eq,and_assoc]

end Subnets

end Attached

section Distinct

/-- What an identifier says before its colon. -/
def stem (id : Text) : Text := id.takeWhile (· ≠ ':')

theorem id_gatewayNode : (gatewayNode input).id = ("gateway" : Text) := by
  unfold gatewayNode
  split <;> rfl

theorem nodup_networks : ((networkEntries input).map fun e => (networkNode e).id).Nodup := by
  have hkeys : ((networkEntries input).map (·.networkId)).Nodup := by
    refine (((SortBy.perm _).map NetworkEntry.networkId).nodup_iff).mpr ?_
    rw [List.map_map]
    exact InsertionOrder.nodup_gather _ _ _
  have hids := hkeys.map (f := fun id => ("net:" : Text) ++ id) fun a b h => List.append_cancel_left h
  rwa [List.map_map] at hids

/-- Keeping some of the images leaves out the rest. -/
theorem filterMap_sublist_map {α β : Type} {f : α → Option β} {g : α → β} (h : ∀ a b, f a = some b → b = g a) (l : List α) :
    (l.filterMap f).Sublist (l.map g) := by
  induction l with
  | nil => exact .slnil
  | cons a rest ih =>
    cases ha : f a with
    | none =>
      rw [List.filterMap_cons_none ha]
      exact ih.cons _
    | some b =>
      rw [List.filterMap_cons_some ha,h a b ha]
      exact ih.cons_cons _

theorem nodup_subnets : ((subnetNodes input.interfaces).map (·.id)).Nodup := by
  have hkeys : ((subnets input.interfaces).map Prod.fst).Nodup := InsertionOrder.nodup_gather _ _ _
  have hids := hkeys.map (f := fun id => ("subnet:" : Text) ++ id) fun a b h => List.append_cancel_left h
  rw [List.map_map] at hids
  rw [subnetNodes,List.map_filterMap]
  refine (filterMap_sublist_map (fun e id he => ?_) _).nodup hids
  obtain ⟨node,hnode,rfl⟩ := Option.map_eq_some_iff.mp he
  split at hnode <;> cases hnode
  rfl

theorem disjoint_of_stems {l l' : List Text} (stems : List Text) (h : ∀ id ∈ l, stem id ∈ stems) (h' : ∀ id ∈ l', stem id ∉ stems) :
    l.Disjoint l' := fun id hid hid' => h' id hid' (h id hid)

theorem nodup_attached : ((attachedNodes input).map (·.id)).Nodup := by
  have hnet : ∀ id ∈ ((networkEntries input).map networkNode).map (·.id), stem id = ("net" : Text) := by
    intro id hid
    obtain ⟨_,hnode,rfl⟩ := List.mem_map.mp hid
    obtain ⟨e,_,rfl⟩ := List.mem_map.mp hnode
    rfl
  have hsubnet : ∀ id ∈ (subnetNodes input.interfaces).map (·.id), stem id = ("subnet" : Text) := by
    intro id hid
    obtain ⟨_,hnode,rfl⟩ := List.mem_map.mp hid
    obtain ⟨e,_,he⟩ := List.mem_filterMap.mp hnode
    split at he <;> cases he
    rfl
  rw [attachedNodes,List.map_append,List.map_append,List.map_append]
  refine List.Nodup.append (List.Nodup.append (List.Nodup.append ?_ nodup_subnets ?_) ?_ ?_) ?_ ?_
  · rw [List.map_map]
    exact nodup_networks
  · refine disjoint_of_stems ["net"] (fun id hid => by simp [hnet id hid]) fun id hid => ?_
    rw [hsubnet id hid]
    decide
  · split <;> simp
  · refine disjoint_of_stems ["net","subnet"] (fun id hid => ?_) fun id hid => ?_
    · rcases List.mem_append.mp hid with hid | hid
      · simp [hnet id hid]
      · simp [hsubnet id hid]
    · split at hid
      · obtain rfl := List.mem_singleton.mp hid
        exact show stem ("exposed" : Text) ∉ [("net" : Text),"subnet"] by decide
      · cases hid
  · split <;> simp
  · refine disjoint_of_stems ["net","subnet","exposed"] (fun id hid => ?_) fun id hid => ?_
    · rcases List.mem_append.mp hid with hid | hid
      · rcases List.mem_append.mp hid with hid | hid
        · simp [hnet id hid]
        · simp [hsubnet id hid]
      · split at hid
        · obtain rfl := List.mem_singleton.mp hid
          exact show stem ("exposed" : Text) ∈ [("net" : Text),"subnet","exposed"] by decide
        · cases hid
    · split at hid
      · obtain rfl := List.mem_singleton.mp hid
        exact show stem ("estate-unread" : Text) ∉ [("net" : Text),"subnet","exposed"] by decide
      · cases hid

/-- What stems the attached nodes have. -/
theorem stem_attached (h : node ∈ attachedNodes input) : stem node.id ∈ [("net" : Text),"subnet","exposed","estate-unread"] := by
  rcases mem_attachedNodes.mp h with ⟨e,_,rfl⟩ | ⟨e,_,_,rfl⟩ | ⟨_,rfl⟩ | ⟨_,rfl⟩
  · exact show ("net" : Text) ∈ _ by decide
  · exact show ("subnet" : Text) ∈ _ by decide
  · exact show stem ("exposed" : Text) ∈ _ by decide
  · exact show stem ("estate-unread" : Text) ∈ _ by decide

theorem fixed_ids : (fixedNodes input).map (·.id) = [("gateway" : Text),"path","host"] := by
  rw [fixedNodes,List.map_cons,id_gatewayNode]
  rfl

theorem nodup_ids : ((buildTopology input).map (·.id)).Nodup := by
  have hfixed : ((fixedNodes input).map (·.id)).Disjoint ((attachedNodes input).map (·.id)) := by
    refine disjoint_of_stems ["gateway","path","host"] (fun id hid => ?_) fun id hid hstem => ?_
    · rw [fixed_ids] at hid
      exact (show ∀ id ∈ [("gateway" : Text),"path","host"], stem id ∈ [("gateway" : Text),"path","host"] by decide) id hid
    · obtain ⟨node,hnode,rfl⟩ := List.mem_map.mp hid
      exact (show ∀ s ∈ [("net" : Text),"subnet","exposed","estate-unread"], s ∉ [("gateway" : Text),"path","host"] by decide) _
        (stem_attached hnode) hstem
  have hnodup : ((fixedNodes input).map (·.id)).Nodup := by
    rw [fixed_ids]
    decide
  rcases @buildTopology_eq input with h | h
  · rw [h,List.map_append]
    exact hnodup.append nodup_attached hfixed
  · have htake : (((attachedNodes input).take 3).map (·.id)).Sublist ((attachedNodes input).map (·.id)) := (List.take_sublist 3 _).map _
    rw [h,List.map_append,List.map_append]
    refine List.Nodup.append (hnodup.append (htake.nodup nodup_attached) fun id hid hid' => hfixed hid (htake.mem hid')) (List.nodup_singleton _) ?_
    refine disjoint_of_stems ["gateway","path","host","net","subnet","exposed","estate-unread"] (fun id hid => ?_) fun id hid => ?_
    · rcases List.mem_append.mp hid with hid | hid
      · rw [fixed_ids] at hid
        exact (show ∀ id ∈ [("gateway" : Text),"path","host"], stem id ∈ _ by decide) id hid
      · obtain ⟨node,hnode,rfl⟩ := List.mem_map.mp hid
        exact (show ∀ s ∈ [("net" : Text),"subnet","exposed","estate-unread"], s ∈ _ by decide) _
          (stem_attached (List.mem_of_mem_take hnode))
    · obtain rfl := List.mem_singleton.mp hid
      exact show stem ("attached:more" : Text) ∉ _ by decide

end Distinct

section Edges

theorem source_of_edge (h : node ∈ buildTopology input) : ∀ edge ∈ node.edges, edge.source ∈ [("gateway" : Text),"path","host"] := by
  have hfixed : ∀ n ∈ fixedNodes input, ∀ edge ∈ n.edges, edge.source ∈ [("gateway" : Text),"path","host"] := by
    intro n hn edge hedge
    rcases mem_fixedNodes.mp hn with rfl | rfl | rfl
    · unfold gatewayNode at hedge
      split at hedge <;> cases hedge
    · obtain rfl := List.mem_singleton.mp hedge
      exact show ("gateway" : Text) ∈ _ by decide
    · obtain rfl := List.mem_singleton.mp hedge
      exact show ("path" : Text) ∈ _ by decide
  have hattached : ∀ n ∈ attachedNodes input, ∀ edge ∈ n.edges, edge.source ∈ [("gateway" : Text),"path","host"] := by
    intro n hn edge hedge
    have hhost : ("host" : Text) ∈ [("gateway" : Text),"path","host"] := by decide
    rcases mem_attachedNodes.mp hn with ⟨e,_,rfl⟩ | ⟨e,_,_,rfl⟩ | ⟨_,rfl⟩ | ⟨_,rfl⟩ <;>
      exact List.mem_singleton.mp hedge ▸ hhost
  rcases @buildTopology_eq input with hall | hfold
  · rw [hall] at h
    rcases List.mem_append.mp h with h | h
    · exact hfixed node h
    · exact hattached node h
  · rw [hfold] at h
    rcases List.mem_append.mp h with h | h
    · rcases List.mem_append.mp h with h | h
      · exact hfixed node h
      · exact hattached node (List.mem_of_mem_take h)
    · intro edge hedge
      obtain rfl := List.mem_singleton.mp h
      obtain rfl := List.mem_singleton.mp hedge
      exact show ("host" : Text) ∈ _ by decide

/-- An edge starts at one of the three nodes that are always drawn. -/
theorem grounded (h : node ∈ buildTopology input) : ∀ edge ∈ node.edges, ∃ source ∈ buildTopology input, source.id = edge.source := by
  intro edge hedge
  have hsource := source_of_edge h edge hedge
  rw [← @fixed_ids input] at hsource
  obtain ⟨source,hmem,hid⟩ := List.mem_map.mp hsource
  exact ⟨source,fixed_subset source hmem,hid⟩

end Edges

section Links

variable {objectId : Text}

theorem represented_link : (Represented input fun node => node.page = some (("/network/" : Text) ++ objectId)) ↔
    ∃ networkId kept, Kept input kept networkId ∧ kept.objectId = objectId := by
  rw [represented_iff]
  constructor
  · rintro ⟨node,hnode,hpage⟩
    rcases mem_attachedNodes.mp hnode with ⟨e,he,rfl⟩ | ⟨e,_,_,rfl⟩ | ⟨_,rfl⟩ | ⟨_,rfl⟩
    · exact ⟨e.networkId,e.link,(mem_networkEntries.mp he).1,List.append_cancel_left (Option.some.inj hpage)⟩
    · cases hpage
    · have hstart : (['/','w'] : Text) = ['/','n'] := congrArg (List.take 2) (Option.some.inj hpage)
      exact absurd hstart (by decide)
    · cases hpage
  · rintro ⟨networkId,kept,hkept,rfl⟩
    exact ⟨_,mem_attachedNodes.mpr (.inl ⟨⟨networkId,kept,attachedTo input.containers networkId⟩,mem_networkEntries.mpr ⟨hkept,rfl⟩,rfl⟩),rfl⟩

theorem represented_subnet {subnet : Text} (hheld : ∃ e ∈ held input.interfaces, e.1 = subnet) :
    Represented input (TellsSubnet subnet) ↔
      (∃ e ∈ held input.interfaces, e.1 = subnet ∧ e.2.1 ∉ (dockerBridges input.interfaces).map (·.name)) ∨
        ∃ networkId kept, Kept input kept networkId ∧ (subnetFor kept).getD kept.name = subnet := by
  rw [represented_iff]
  constructor
  · rintro ⟨node,hnode,htells⟩
    rcases mem_attachedNodes.mp hnode with ⟨e,he,rfl⟩ | ⟨⟨other,info⟩,he,hvia,rfl⟩ | ⟨_,rfl⟩ | ⟨_,rfl⟩
    · rcases htells with hid | ⟨_,edge,hedge,hlabel⟩
      · have hstem : ("net" : Text) = "subnet" := congrArg stem hid
        exact absurd hstem (by decide)
      · obtain rfl := List.mem_singleton.mp hedge
        exact .inr ⟨e.networkId,e.link,(mem_networkEntries.mp he).1,Option.some.inj hlabel⟩
    · rcases htells with hid | ⟨hkind,_⟩
      · cases List.append_cancel_left (show ("subnet:" : Text) ++ other = ("subnet:" : Text) ++ subnet from hid)
        simp only [not_forall] at hvia
        obtain ⟨name,hname,hforeign⟩ := hvia
        obtain ⟨e,hmem,hsubnet,rfl⟩ := (via_subnet he name).mp hname
        exact .inl ⟨e,hmem,hsubnet,hforeign⟩
      · have hkinds : (if info.family = inet then ("lan" : Text) else "network") = "container net" := hkind
        split at hkinds <;> exact absurd hkinds (by decide)
    · rcases htells with hid | ⟨hkind,_⟩
      · exact absurd (show stem ("exposed" : Text) = "subnet" from congrArg stem hid) (by decide)
      · exact absurd (show ("listeners" : Text) = "container net" from hkind) (by decide)
    · rcases htells with hid | ⟨hkind,_⟩
      · exact absurd (show stem ("estate-unread" : Text) = "subnet" from congrArg stem hid) (by decide)
      · cases hi : input.interfacesRead <;> cases hc : input.containersRead <;> rw [hi,hc] at hkind <;>
          exact absurd hkind (by decide)
  · rintro (⟨e,he,rfl,hforeign⟩ | ⟨networkId,kept,hkept,hlabel⟩)
    · obtain ⟨info,hinfo⟩ := exists_subnet he
      refine ⟨_,mem_attachedNodes.mpr (.inr (.inl ⟨(e.1,info),hinfo,fun hall => hforeign (hall _ ?_),rfl⟩)),.inl rfl⟩
      exact (via_subnet hinfo _).mpr ⟨e,he,rfl,rfl⟩
    · exact ⟨_,mem_attachedNodes.mpr (.inl ⟨⟨networkId,kept,attachedTo input.containers networkId⟩,mem_networkEntries.mpr ⟨hkept,rfl⟩,rfl⟩),
        .inr ⟨rfl,_,List.mem_singleton.mpr rfl,by rw [← hlabel]⟩⟩

/-- A subnet that an interface holds is among those the console collects. -/
theorem exists_held {subnet : Text} (h : Holds input subnet) : ∃ e ∈ held input.interfaces, e.1 = subnet := by
  obtain ⟨item,hitem,address,haddress,hscope,hfamily,a,b,c,d,p,ha,hb,hc,hd,hp,htext,hlength,rfl⟩ := h
  refine ⟨(networkText a b c d p,item.name,address.family),?_,rfl⟩
  refine List.mem_flatMap.mpr ⟨item,hitem,List.mem_filterMap.mpr ⟨address,haddress,?_⟩⟩
  rw [if_neg (not_not_intro hscope),if_pos hfamily,htext,hlength,subnetOf_quad ha hb hc hd hp]
  rfl

end Links

section Counts

variable {networkId : Text}

/-- A container is attached as often as it lists the network. -/
theorem attached_container (c : DockerContainer) (hne : networkId ≠ []) (ids : List (Option Text)) :
    ((ids.filterMap fun id => (truthy id).map fun id => (id,c)).filter fun e => e.1 = networkId).map (·.2) =
      List.replicate (ids.count (some networkId)) c := by
  induction ids with
  | nil => rfl
  | cons id rest ih =>
    by_cases hid : id = some networkId
    · subst hid
      have htruthy : truthy (some networkId) = some networkId := by
        cases networkId with
        | nil => exact absurd rfl hne
        | cons _ _ => rfl
      rw [List.filterMap_cons_some (b := (networkId,c)) (by rw [htruthy]; rfl),List.filter_cons_of_pos (by simp),List.map_cons,ih,
        List.count_cons_self,List.replicate_succ]
    · rw [List.count_cons_of_ne hid,← ih]
      cases htruthy : truthy id with
      | none => rw [List.filterMap_cons_none (by rw [htruthy]; rfl)]
      | some other =>
        have hother : other ≠ networkId := by
          rintro rfl
          refine hid ?_
          unfold truthy at htruthy
          split at htruthy
          · cases htruthy
          · exact htruthy
        rw [List.filterMap_cons_some (b := (other,c)) (by rw [htruthy]; rfl),List.filter_cons_of_neg (by simp [hother])]

theorem attachedTo_containers (hne : networkId ≠ []) (containers : List DockerContainer) :
    attachedTo containers networkId = containers.flatMap fun c => List.replicate (c.networkIds.count (some networkId)) c := by
  rw [attachedTo_eq,memberships]
  induction containers with
  | nil => rfl
  | cons c rest ih => rw [List.flatMap_cons,List.flatMap_cons,List.filter_append,List.map_append,attached_container c hne,ih]

theorem joined_eq_flatMap (containers : List DockerContainer) (h : ∀ c ∈ containers, c.networkIds.count (some networkId) ≤ 1) :
    (containers.flatMap fun c => List.replicate (c.networkIds.count (some networkId)) c) =
      containers.filter fun c => some networkId ∈ c.networkIds := by
  induction containers with
  | nil => rfl
  | cons c rest ih =>
    rw [List.flatMap_cons,ih fun c hc => h c (List.mem_cons_of_mem _ hc)]
    have hone := h c List.mem_cons_self
    by_cases hmem : some networkId ∈ c.networkIds
    · have hcount : c.networkIds.count (some networkId) = 1 := by
        have := List.count_pos_iff.mpr hmem
        omega
      rw [hcount,List.filter_cons_of_pos (by simpa using hmem)]
      rfl
    · rw [List.count_eq_zero.mpr hmem,List.filter_cons_of_neg (by simpa using hmem)]
      rfl

/-- More are attached than joined as soon as one container lists the network twice. -/
theorem length_attached (containers : List DockerContainer) :
    (containers.filter fun c => some networkId ∈ c.networkIds).length ≤
        (containers.flatMap fun c => List.replicate (c.networkIds.count (some networkId)) c).length ∧
      ((containers.flatMap fun c => List.replicate (c.networkIds.count (some networkId)) c).length =
        (containers.filter fun c => some networkId ∈ c.networkIds).length → ∀ c ∈ containers, c.networkIds.count (some networkId) ≤ 1) := by
  induction containers with
  | nil => simp
  | cons c rest ih =>
    obtain ⟨hle,hall⟩ := ih
    rw [List.flatMap_cons,List.length_append,List.length_replicate,List.forall_mem_cons]
    by_cases hmem : some networkId ∈ c.networkIds
    · have hpos := List.count_pos_iff.mpr hmem
      rw [List.filter_cons_of_pos (by simpa using hmem),List.length_cons]
      exact ⟨by omega,fun heq => ⟨by omega,hall (by omega)⟩⟩
    · rw [List.count_eq_zero.mpr hmem,List.filter_cons_of_neg (by simpa using hmem),Nat.zero_add]
      exact ⟨hle,fun heq => ⟨Nat.zero_le _,hall heq⟩⟩

/-- The note of a network says how many containers there are. -/
theorem networkNote_attached {n m r r' : ℕ} (h : networkNote n r = networkNote m r') : n = m := by
  have hhead : ∀ n r, (networkNote n r).takeWhile digit = if n = 0 then [] else decimal n := by
    intro n r
    unfold networkNote
    split
    · exact show ("no container is attached to this network" : Text).takeWhile digit = [] by decide
    · rw [number,List.append_assoc,List.append_assoc,List.append_assoc,List.append_assoc,
        List.takeWhile_append_of_pos fun c hc => digit_of_mem hc]
      exact List.append_nil _
  have hdigits := congrArg (List.takeWhile digit) h
  rw [hhead,hhead] at hdigits
  by_cases hn : n = 0 <;> by_cases hm : m = 0
  · rw [hn,hm]
  · rw [if_pos hn,if_neg hm] at hdigits
    exact absurd hdigits.symm (decimal_ne_nil m)
  · rw [if_neg hn,if_pos hm] at hdigits
    exact absurd hdigits (decimal_ne_nil n)
  · rw [if_neg hn,if_neg hm] at hdigits
    rw [← ofDigits_decimal n,hdigits,ofDigits_decimal]

theorem names_ne_nil {item : NetworkInterface} (h : Names input item networkId) : networkId ≠ [] := by
  rintro rfl
  have hinstance := h.2
  unfold instanceOf truthy at hinstance
  split at hinstance
  · cases hinstance
  · next hne => exact hne hinstance

/-- The node of a network counts the containers joined to it exactly where none of them lists it twice. -/
theorem represented_counts {item : NetworkInterface} (h : Names input item networkId) : (Represented input fun node =>
    node.id = ("net:" : Text) ++ networkId ∧
      node.note = some (networkNote (joined input networkId).length ((joined input networkId).filter running).length)) ↔
    ∀ c ∈ input.containers, c.networkIds.count (some networkId) ≤ 1 := by
  have hne := names_ne_nil h
  rw [represented_iff]
  constructor
  · rintro ⟨node,hnode,hid,hnote⟩
    rcases mem_attachedNodes.mp hnode with ⟨e,he,rfl⟩ | ⟨e,_,_,rfl⟩ | ⟨_,rfl⟩ | ⟨_,rfl⟩
    · cases List.append_cancel_left (show ("net:" : Text) ++ e.networkId = ("net:" : Text) ++ networkId from hid)
      have hlength := networkNote_attached (Option.some.inj hnote)
      rw [(mem_networkEntries.mp he).2,attachedTo_containers hne] at hlength
      exact (length_attached input.containers).2 hlength
    · exact absurd (show ("subnet" : Text) = "net" from congrArg stem hid) (by decide)
    · exact absurd (show stem ("exposed" : Text) = "net" from congrArg stem hid) (by decide)
    · exact absurd (show stem ("estate-unread" : Text) = "net" from congrArg stem hid) (by decide)
  · intro hall
    obtain ⟨kept,hkept⟩ := exists_kept h
    refine ⟨_,mem_attachedNodes.mpr (.inl ⟨⟨networkId,kept,attachedTo input.containers networkId⟩,mem_networkEntries.mpr ⟨hkept,rfl⟩,rfl⟩),
      rfl,?_⟩
    have hsame : attachedTo input.containers networkId = joined input networkId := by
      rw [attachedTo_containers hne,joined_eq_flatMap input.containers hall]
      rfl
    rw [networkNode,hsame]

end Counts

theorem represented_unread (h : (input.interfacesRead && input.containersRead) = false) :
    Represented input fun node => node.id = ("estate-unread" : Text) :=
  represented_iff.mpr ⟨_,mem_attachedNodes.mpr (.inr (.inr (.inr ⟨h,rfl⟩))),rfl⟩

/-- The graph omits nothing exactly where every Docker link and subnet can be accounted for. -/
theorem omitsNothing_iff (input : Input) : OmitsNothing input ↔ Accountable input := by
  constructor
  · intro h
    exact ⟨fun item hitem => represented_link.mp (h.links item hitem),
      fun subnet hsubnet => (represented_subnet (exists_held hsubnet)).mp (h.subnets subnet hsubnet),
      fun item networkId hnames => (represented_counts hnames).mp (h.counts item networkId hnames)⟩
  · intro h
    exact ⟨nodup_ids,fun node hnode => grounded hnode,fun item hitem => represented_link.mpr (h.links item hitem),
      fun subnet hsubnet => (represented_subnet (exists_held hsubnet)).mpr (h.subnets subnet hsubnet),
      fun item networkId hnames => (represented_counts hnames).mpr (h.counts item networkId hnames),represented_unread⟩

section Secondary

/-- A Docker bridge with an address in a second subnet. -/
def twoSubnets : NetworkInterface where
  objectId := "obj_1"
  name := "br-1"
  interfaceKind := "bridge"
  createdBy := some ⟨⟨"docker",some "n1",some "app_default"⟩,"docker_ipam_gateway_on_link",[]⟩
  addresses := some [⟨"inet","172.22.0.1",16,"global"⟩,⟨"inet","10.5.7.9",20,"global"⟩]

def secondary : Input where
  host := ⟨"host_1","machine_id",none,none,none,none⟩
  reachable := true
  path := ⟨"unresolved",none,none,"transport_peer_local",[],none,none⟩
  interfaces := [twoSubnets]
  containers := []

theorem holds_secondary : Holds secondary (networkText 10 5 7 9 20) :=
  ⟨twoSubnets,List.mem_singleton.mpr rfl,⟨"inet","10.5.7.9",20,"global"⟩,by decide,rfl,rfl,10,5,7,9,20,by decide,by decide,by decide,by decide,
    by decide,by decide,rfl,rfl⟩

theorem hides_second_subnet : ¬∀ input, OmitsNothing input := by
  intro h
  have hnames : ∀ e ∈ held secondary.interfaces, e.2.1 ∈ (dockerBridges secondary.interfaces).map (·.name) := by decide
  have hidentified : ∀ e ∈ identified secondary.interfaces, (subnetFor e.2).getD e.2.name ≠ networkText 10 5 7 9 20 := by decide
  rcases ((omitsNothing_iff secondary).mp (h secondary)).subnets _ holds_secondary with ⟨e,he,_,hforeign⟩ | ⟨networkId,kept,hkept,hlabel⟩
  · exact hforeign (hnames e he)
  · exact hidentified _ (List.mem_filter.mp (List.mem_of_getLast? hkept)).1 hlabel

end Secondary

end Topology
end LocalPlane
