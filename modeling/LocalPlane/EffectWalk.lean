import LocalPlane.EffectClosure

/-!
# A walk gathers the closure

Each piece of work that was taken up has left behind all it brings, and nothing is left that
the closure does not owe. What holds of a name is kept once it was read, so the order in
which names are read shows nowhere but in aliases, which are told.
-/

set_option linter.dupNamespace false

namespace LocalPlane

open LineProtocol (Json Fields)
open Planning (EffectEdge SystemdServiceAction)

namespace Effects

/-- The notes on a unit that nobody needs any more. -/
def unneededNotes (canonical : String) (properties : Fields) : List String :=
  match fact properties "StopWhenUnneeded" with
  | .null => ["effect_graph.unsupported:StopWhenUnneeded:" ++ canonical]
  | .bool true => ["effect_graph.stop_when_unneeded:" ++ canonical]
  | .bool false => []
  | _ => ["effect_graph.unreadable:StopWhenUnneeded:" ++ canonical]

/-- The notes on a unit for itself. -/
def visitNotes (action : SystemdServiceAction) (canonical : String) (kind : Work) (properties : Fields) : List String :=
  (if stopping action kind then unneededNotes canonical properties else []) ++
    ((reactivationSourceEvidence properties).2.map fun g => "effect_graph.runtime_" ++ g ++ ":" ++ canonical) ++
    if fact properties "LoadState" ≠ .str "loaded" then ["effect_graph.load_state:" ++ canonical] else []

/-- Whether a unit is one of those that may be affected, when it is come to for a kind of work. -/
def Affected (action : SystemdServiceAction) (kind : Work) (properties : Fields) : Prop :=
  kind ≠ .inspect ∨ stopping action kind = true ∧ fact properties "StopWhenUnneeded" = .bool true

theorem stopWhenUnneeded_eq (canonical : String) (properties : Fields) (t : Traversal) :
    ∃ units, (∀ unit, unit ∈ units ↔ unit ∈ t.units ∨ unit = canonical ∧ fact properties "StopWhenUnneeded" = .bool true) ∧
      stopWhenUnneeded canonical properties t = {t with units := units,gaps := unneededNotes canonical properties ++ t.gaps} := by
  unfold stopWhenUnneeded unneededNotes
  cases fact properties "StopWhenUnneeded" with
  | bool b =>
    cases b with
    | true => exact ⟨canonical :: t.units,fun unit => by simp [or_comm],rfl⟩
    | false => exact ⟨t.units,fun unit => by simp,rfl⟩
  | null | num _ | str _ | arr _ | obj _ => exact ⟨t.units,fun unit => by simp,rfl⟩

theorem visitUnit_eq (action : SystemdServiceAction) (canonical : String) (kind : Work) (properties : Fields) (t : Traversal) :
    ∃ units, (∀ unit, unit ∈ units ↔ unit ∈ t.units ∨ unit = canonical ∧ Affected action kind properties) ∧
      visitUnit action canonical kind properties t =
        {t with visited := (canonical,kind) :: t.visited,units := units,gaps := visitNotes action canonical kind properties ++ t.gaps} := by
  have hbase : ∀ unit, unit ∈ (if kind ≠ Work.inspect then canonical :: t.units else t.units) ↔
      unit ∈ t.units ∨ unit = canonical ∧ kind ≠ .inspect := by
    intro unit
    split
    · next hkind => simp [hkind,or_comm]
    · next hkind => simp [hkind]
  have hload : (if fact properties "LoadState" ≠ .str "loaded" then ["effect_graph.load_state:" ++ canonical] else []) ++ t.gaps =
      if fact properties "LoadState" ≠ .str "loaded" then ("effect_graph.load_state:" ++ canonical) :: t.gaps else t.gaps := by
    split <;> rfl
  unfold visitUnit visitNotes Affected
  dsimp only
  rw [List.append_assoc,List.append_assoc,hload]
  split
  · next hstop =>
    obtain ⟨units,hunits,heq⟩ := stopWhenUnneeded_eq canonical properties
      {t with
        visited := (canonical,kind) :: t.visited
        units := if kind ≠ Work.inspect then canonical :: t.units else t.units
        gaps := ((reactivationSourceEvidence properties).2.map fun g => "effect_graph.runtime_" ++ g ++ ":" ++ canonical) ++
          if fact properties "LoadState" ≠ .str "loaded" then ("effect_graph.load_state:" ++ canonical) :: t.gaps else t.gaps }
    refine ⟨units,fun unit => ?_,?_⟩
    · rw [hunits]
      dsimp only
      rw [hbase]
      tauto
    · rw [← heq]
      split <;> rfl
  · next hstop =>
    refine ⟨if kind ≠ Work.inspect then canonical :: t.units else t.units,fun unit => ?_,?_⟩
    · rw [hbase]
      tauto
    · split <;> rfl

/-- The note on a name when it is read. -/
def readNotes (bus : Bus) (name : String) : List String :=
  match bus.read name with
  | .error .absent => ["effect_graph.unresolved:" ++ name]
  | .error .other => []
  | .ok properties =>
    match fact properties "Id" with
    | .str unit =>
      if unitName unit then if name ≠ unit then ["effect_graph.alias_reference:" ++ name] else []
      else ["effect_graph.canonical_id:" ++ name]
    | _ => ["effect_graph.canonical_id:" ++ name]

theorem Answers.unique {bus : Bus} {name unit unit' : String} {properties properties' : Fields} (h : Answers bus name unit properties)
    (h' : Answers bus name unit' properties') : unit = unit' ∧ properties = properties' := by
  obtain rfl := Except.ok.inj (h.1.symm.trans h'.1)
  exact ⟨Json.str.inj (h.2.1.symm.trans h'.2.1),rfl⟩

/-- What a name's first reading leaves. -/
theorem readUnit_ok {bus : Bus} {name : String} {t t' : Traversal} (h : readUnit bus name t = .ok t') :
    name ∈ t.attempted ∧ t' = t ∨ name ∉ t.attempted ∧ ∃ patience aliases nodes,
      t' = {t with attempted := name :: t.attempted,patience := patience,gaps := readNotes bus name ++ t.gaps,aliases := aliases,nodes := nodes} ∧
      ((∃ unit properties, Answers bus name unit properties ∧ aliases = Function.update t.aliases name (some unit) ∧
          nodes = Function.update t.nodes unit (some ((t.nodes unit).getD properties))) ∨
        (∀ unit properties, ¬Answers bus name unit properties) ∧ aliases = t.aliases ∧ nodes = t.nodes) ∧
      bus.read name ≠ .error .other := by
  unfold readUnit at h
  split at h
  · next hread => exact .inl ⟨hread,(Except.ok.inj h).symm⟩
  · next hunread =>
    refine .inr ⟨hunread,?_⟩
    obtain ⟨looked,hlooked,h⟩ := step_bind_ok h
    obtain ⟨patience,rfl⟩ := remaining_ok hlooked
    split at h
    · next hanswer =>
      obtain rfl := Except.ok.inj h
      refine ⟨patience,t.aliases,t.nodes,by simp [readNotes,hanswer,Traversal.gap],.inr ⟨?_,rfl,rfl⟩,by simp [hanswer]⟩
      rintro unit properties ⟨hread,-⟩
      rw [hanswer] at hread
      cases hread
    · cases h
    · next properties hanswer =>
      split at h
      · next canonical hid =>
        split at h
        · next hname =>
          obtain rfl := Except.ok.inj h
          refine ⟨patience,_,_,?_,.inl ⟨canonical,properties,⟨hanswer,hid,hname⟩,rfl,rfl⟩,by simp [hanswer]⟩
          rcases eq_or_ne name canonical with rfl | hself
          · simp [readNotes,hanswer,hid,hname]
          · simp [readNotes,hanswer,hid,hname,hself,Traversal.gap]
        · next hname =>
          obtain rfl := Except.ok.inj h
          refine ⟨patience,t.aliases,t.nodes,by simp [readNotes,hanswer,hid,hname,Traversal.gap],.inr ⟨?_,rfl,rfl⟩,by simp [hanswer]⟩
          rintro unit other ⟨hread,hunit,hgood⟩
          obtain rfl := Except.ok.inj (hanswer.symm.trans hread)
          obtain rfl := Json.str.inj (hid.symm.trans hunit)
          exact hname hgood
      · next hid =>
        obtain rfl := Except.ok.inj h
        have hnotes : readNotes bus name = ["effect_graph.canonical_id:" ++ name] := by
          unfold readNotes
          rw [hanswer]
          dsimp only
          split
          · next unit hunit => exact absurd hunit (hid unit)
          · rfl
        refine ⟨patience,t.aliases,t.nodes,?_,.inr ⟨?_,rfl,rfl⟩,by simp [hanswer]⟩
        · rw [hnotes]
          rfl
        · rintro unit other ⟨hread,hunit,-⟩
          obtain rfl := Except.ok.inj (hanswer.symm.trans hread)
          exact hid unit hunit

section Run

variable {bus : Bus} {limits : Limits} {target : String} {action : SystemdServiceAction} {props : String → Fields}
  {name unit : String} {kind : Work} {depth : ℕ} {properties : Fields} {now : Option (String × Work)} {t t' : Traversal}

/-- What the rules of a unit bring from one depth on. -/
def Taken (limits : Limits) (canonical : String) (kind : Work) (depth : ℕ) (properties : Fields) : Traversal → Traversal → Prop :=
  Grown limits (depth + 1) (fun name work => ∃ rule ∈ rulesFor kind, work = rule.child ∧ Names properties rule.relation name)
    (fun e => ∃ rule ∈ rulesFor kind, rule.follows = true ∧ e.source = canonical ∧ e.relation = rule.relation ∧
      Names properties rule.relation e.target) (fun g => ∃ rule ∈ rulesFor kind, RuleNotes rule canonical properties g)
    ((rulesFor kind).map (entries properties)).sum

/-- All that taking up a piece of work can do. -/
theorem take_ok (h : take bus limits action name kind depth t = .ok t') :
    ∃ patience after, readUnit bus name {t with patience := patience} = .ok after ∧
      (after.aliases name = none ∧ t' = after ∨ ∃ canonical, after.aliases name = some canonical ∧
        ((canonical,kind) ∈ after.visited ∧ t' = after ∨ (canonical,kind) ∉ after.visited ∧ ∃ properties units,
          after.nodes canonical = some properties ∧
          (∀ unit, unit ∈ units ↔ unit ∈ after.units ∨ unit = canonical ∧ Affected action kind properties) ∧
          Taken limits canonical kind depth properties
            {after with
              visited := (canonical,kind) :: after.visited
              units := units
              gaps := visitNotes action canonical kind properties ++ after.gaps } t')) := by
  unfold take at h
  obtain ⟨looked,hlooked,h⟩ := step_bind_ok h
  obtain ⟨patience,rfl⟩ := remaining_ok hlooked
  obtain ⟨after,hafter,h⟩ := step_bind_ok h
  refine ⟨patience,after,hafter,?_⟩
  split at h
  · next halias => exact .inl ⟨halias,(Except.ok.inj h).symm⟩
  · next canonical halias =>
    refine .inr ⟨canonical,halias,?_⟩
    split at h
    · next hvisited => exact .inl ⟨hvisited,(Except.ok.inj h).symm⟩
    · next hnew =>
      refine .inr ⟨hnew,?_⟩
      split at h
      · cases h
      · next properties hnode =>
        obtain ⟨units,hunits,heq⟩ := visitUnit_eq action canonical kind properties after
        rw [heq] at h
        exact ⟨properties,units,hnode,hunits,takeRules_grown h⟩

theorem readUnit_gaps (h : readUnit bus name t = .ok t') : ∀ g ∈ t.gaps, g ∈ t'.gaps := by
  rcases readUnit_ok h with ⟨-,rfl⟩ | ⟨-,patience,aliases,nodes,rfl,-⟩
  · exact fun _ hg => hg
  · exact fun _ hg => List.mem_append_right _ hg

theorem take_gaps (h : take bus limits action name kind depth t = .ok t') : ∀ g ∈ t.gaps, g ∈ t'.gaps := by
  obtain ⟨patience,after,hafter,hcase⟩ := take_ok h
  intro g hg
  have hread : g ∈ after.gaps := readUnit_gaps hafter g hg
  obtain ⟨-,rfl⟩ | ⟨canonical,-,⟨-,rfl⟩ | ⟨-,properties,units,-,-,htaken⟩⟩ := hcase
  · exact hread
  · exact hread
  · exact htaken.gaps g (List.mem_append_right _ hread)

/-- What a piece of work owes in notes. -/
def Due (bus : Bus) (action : SystemdServiceAction) (name : String) (kind : Work) (g : String) : Prop :=
  g ∈ readNotes bus name ∨ ∃ unit properties, Answers bus name unit properties ∧
    (g ∈ visitNotes action unit kind properties ∨ ∃ rule ∈ rulesFor kind, RuleNotes rule unit properties g)

/-- The properties a unit is known by are those of every name for it, unless the name is an alias that was not told. -/
def Fair (bus : Bus) (props : String → Fields) (gaps : List String) : Prop :=
  ∀ name unit properties, Answers bus name unit properties →
    properties = props unit ∨ name ≠ unit ∧ "effect_graph.alias_reference:" ++ name ∉ gaps

/-- What was read so far, and nothing else. -/
structure Known (bus : Bus) (props : String → Fields) (t : Traversal) : Prop where
  aliases : ∀ name unit, t.aliases name = some unit ↔ name ∈ t.attempted ∧ ∃ properties, Answers bus name unit properties
  nodes : ∀ unit properties, t.nodes unit = some properties ↔
    properties = props unit ∧ ∃ name ∈ t.attempted, ∃ answer, Answers bus name unit answer
  told : ∀ name ∈ t.attempted, ∀ g ∈ readNotes bus name, g ∈ t.gaps
  same : ∀ name ∈ t.attempted, ∀ unit properties, Answers bus name unit properties → properties = props unit
  readable : ∀ name ∈ t.attempted, bus.read name ≠ .error .other

/-- All that a unit brings for a kind of work is there. -/
structure Settled (action : SystemdServiceAction) (props : String → Fields) (t : Traversal) (unit : String) (kind : Work) : Prop where
  noted : ∀ g, (g ∈ visitNotes action unit kind (props unit) ∨ ∃ rule ∈ rulesFor kind, RuleNotes rule unit (props unit) g) → g ∈ t.gaps
  brings : ∀ rule ∈ rulesFor kind, ∀ name, Names (props unit) rule.relation name →
    (name,rule.child) ∈ t.queued ∧ (rule.follows = true → ⟨unit,rule.relation,name⟩ ∈ t.provisional)

/-- A walk that met no ceiling, with at most one piece of work `now` in hand. -/
structure Walking (bus : Bus) (limits : Limits) (target : String) (action : SystemdServiceAction) (props : String → Fields)
    (now : Option (String × Work)) (t : Traversal) : Prop where
  root : (target,Work.ofAction action) ∈ t.queued
  queued : ∀ p ∈ t.queued, now = some p ∨ (∃ depth, (p.1,p.2,depth) ∈ t.pending) ∨
    (p.1 ∈ t.attempted ∧ ∀ unit properties, Answers bus p.1 unit properties → (unit,p.2) ∈ t.visited)
  pending : ∀ x ∈ t.pending, (x.1,x.2.1) ∈ t.queued ∧ Reached bus target action x.2.2 x.1 x.2.1
  reached : ∀ p ∈ t.queued, ∃ depth ≤ limits.depth, Reached bus target action depth p.1 p.2
  attempted : ∀ name ∈ t.attempted, ∃ kind, (name,kind) ∈ t.queued
  visited : ∀ v ∈ t.visited, Settled action props t v.1 v.2
  origin : ∀ v ∈ t.visited, ∃ name properties, (name,v.2) ∈ t.queued ∧ name ∈ t.attempted ∧ Answers bus name v.1 properties
  provisional : ∀ e ∈ t.provisional, IsEdge bus target action e
  units : ∀ unit, unit ∈ t.units ↔ ∃ kind, (unit,kind) ∈ t.visited ∧ Affected action kind (props unit)
  gaps : ∀ g ∈ t.gaps, ∃ name kind, (name,kind) ∈ t.queued ∧ Due bus action name kind g
  once : t.visited.Nodup
  spent : t.references + (t.visited.map fun v => ((rulesFor v.2).map (entries (props v.1))).sum).sum = limits.edges * Work.all.length
  known : Known bus props t

/-- What is settled stays so while there is only more. -/
theorem Settled.mono (h : Settled action props t unit kind) (hg : ∀ g ∈ t.gaps, g ∈ t'.gaps) (hq : ∀ p ∈ t.queued, p ∈ t'.queued)
    (he : ∀ e ∈ t.provisional, e ∈ t'.provisional) : Settled action props t' unit kind where
  noted g hdue := hg g (h.noted g hdue)
  brings rule hrule name hname :=
    have hb := h.brings rule hrule name hname
    ⟨hq _ hb.1,fun hf => he _ (hb.2 hf)⟩

theorem Known.congr (h : Known bus props t) (ha : t'.attempted = t.attempted) (hal : t'.aliases = t.aliases) (hn : t'.nodes = t.nodes)
    (hg : ∀ g ∈ t.gaps, g ∈ t'.gaps) : Known bus props t' where
  aliases name unit := by rw [ha,hal]; exact h.aliases name unit
  nodes unit properties := by rw [ha,hn]; exact h.nodes unit properties
  told name hname g hdue := hg g (h.told name (ha ▸ hname) g hdue)
  same name hname := h.same name (ha ▸ hname)
  readable name hname := h.readable name (ha ▸ hname)

/-- The next piece of work is taken in hand. -/
theorem Walking.pop {rest : List (String × Work × ℕ)} (h : Walking bus limits target action props none t) (hp : t.pending = (name,kind,depth) :: rest)
    (patience : ℕ) : Walking bus limits target action props (some (name,kind)) {t with pending := rest,patience := patience} where
  root := h.root
  queued p hq := by
    rcases h.queued p hq with hnow | ⟨d,hd⟩ | hdone
    · cases hnow
    · rw [hp] at hd
      rcases List.mem_cons.mp hd with heq | hrest
      · obtain ⟨⟩ := heq
        exact .inl rfl
      · exact .inr (.inl ⟨d,hrest⟩)
    · exact .inr (.inr hdone)
  pending x hx := h.pending x (hp ▸ .tail _ hx)
  reached := h.reached
  attempted := h.attempted
  visited v hv := (h.visited v hv).mono (fun _ hg => hg) (fun _ hq => hq) fun _ he => he
  origin := h.origin
  provisional := h.provisional
  units := h.units
  gaps := h.gaps
  once := h.once
  spent := h.spent
  known := h.known.congr rfl rfl rfl fun _ hg => hg

theorem alias_noted {answer : Fields} (hanswer : Answers bus name unit answer) (halias : name ≠ unit) :
    "effect_graph.alias_reference:" ++ name ∈ readNotes bus name := by
  simp [readNotes,hanswer.1,hanswer.2.1,hanswer.2.2,halias]

/-- Reading a name keeps what is known, and adds what the name answers. -/
theorem readUnit_known (h : readUnit bus name t = .ok t') (hfair : Fair bus props t'.gaps) (hk : Known bus props t) :
    Known bus props t' ∧ name ∈ t'.attempted := by
  rcases readUnit_ok h with ⟨hread,rfl⟩ | ⟨hunread,patience,aliases,nodes,rfl,hcase,hreadable⟩
  · exact ⟨hk,hread⟩
  · have hnone : ∀ unit, t.aliases name ≠ some unit := fun unit hu => hunread ((hk.aliases name unit).mp hu).1
    have hsame : ∀ unit properties, Answers bus name unit properties → properties = props unit := fun unit properties ha =>
      (hfair name unit properties ha).resolve_right fun hb => hb.2 (List.mem_append_left _ (alias_noted ha hb.1))
    refine ⟨⟨fun other unit => ?_,fun unit properties => ?_,fun other hother g hg => ?_,fun other hother => ?_,fun other hother => ?_⟩,
      .head _⟩
    · rcases eq_or_ne other name with rfl | hne
      · rcases hcase with ⟨found,answer,hfound,rfl,rfl⟩ | ⟨hno,rfl,rfl⟩
        · dsimp only
          rw [Function.update_self]
          refine ⟨fun heq => ⟨.head _,answer,Option.some.inj heq ▸ hfound⟩,fun ⟨_,other,ho⟩ => congrArg some (hfound.unique ho).1⟩
        · exact ⟨fun heq => absurd heq (hnone unit),fun ⟨_,other,ho⟩ => absurd ho (hno unit other)⟩
      · have hmem : other ∈ name :: t.attempted ↔ other ∈ t.attempted := by simp [hne]
        dsimp only
        rw [hmem,← hk.aliases]
        rcases hcase with ⟨found,answer,hfound,rfl,rfl⟩ | ⟨hno,rfl,rfl⟩
        · rw [Function.update_of_ne hne]
        · exact Iff.rfl
    · have hmem : (∃ other ∈ name :: t.attempted, ∃ answer, Answers bus other unit answer) ↔
          (∃ answer, Answers bus name unit answer) ∨ ∃ other ∈ t.attempted, ∃ answer, Answers bus other unit answer := by simp
      dsimp only
      rw [hmem]
      rcases hcase with ⟨found,answer,hfound,rfl,rfl⟩ | ⟨hno,rfl,rfl⟩
      · rcases eq_or_ne unit found with rfl | hne
        · rw [Function.update_self,Option.some.injEq]
          have hget : (t.nodes unit).getD answer = props unit := by
            cases hnode : t.nodes unit with
            | none => exact hsame unit answer hfound
            | some kept => exact ((hk.nodes unit kept).mp hnode).1
          rw [hget]
          exact ⟨fun heq => ⟨heq.symm,.inl ⟨answer,hfound⟩⟩,fun hp => hp.1.symm⟩
        · rw [Function.update_of_ne hne,hk.nodes]
          refine and_congr_right fun _ => ⟨.inr,fun ho => ho.resolve_left ?_⟩
          rintro ⟨other,ho⟩
          exact hne (ho.unique hfound).1
      · rw [hk.nodes]
        exact and_congr_right fun _ => ⟨.inr,fun ho => ho.resolve_left fun ⟨other,ho⟩ => hno unit other ho⟩
    · rcases List.mem_cons.mp hother with rfl | hother
      · exact List.mem_append_left _ hg
      · exact List.mem_append_right _ (hk.told other hother g hg)
    · rcases List.mem_cons.mp hother with rfl | hother
      · exact hsame
      · exact hk.same other hother
    · rcases List.mem_cons.mp hother with rfl | hother
      · exact hreadable
      · exact hk.readable other hother

theorem Walking.read (h : Walking bus limits target action props (some (name,kind)) t) (hread : readUnit bus name t = .ok t')
    (hnow : (name,kind) ∈ t.queued) (hfair : Fair bus props t'.gaps) :
    Walking bus limits target action props (some (name,kind)) t' ∧ name ∈ t'.attempted := by
  obtain ⟨hknown,hattempted⟩ := readUnit_known hread hfair h.known
  refine ⟨?_,hattempted⟩
  rcases readUnit_ok hread with ⟨-,rfl⟩ | ⟨-,patience,aliases,nodes,rfl,-⟩
  · exact h
  · exact {
      root := h.root
      queued := fun p hp => (h.queued p hp).imp_right (Or.imp_right fun hdone => ⟨.tail _ hdone.1,hdone.2⟩)
      pending := h.pending
      reached := h.reached
      attempted := fun other hother => by
        rcases List.mem_cons.mp hother with rfl | hother
        · exact ⟨kind,hnow⟩
        · exact h.attempted other hother
      visited := fun v hv => (h.visited v hv).mono (fun _ hg => List.mem_append_right _ hg) (fun _ hq => hq) fun _ he => he
      origin := fun v hv =>
        have ⟨other,properties,hq,ha,hanswer⟩ := h.origin v hv
        ⟨other,properties,hq,.tail _ ha,hanswer⟩
      provisional := h.provisional
      units := h.units
      gaps := fun g hg => by
        rcases List.mem_append.mp hg with hg | hg
        · exact ⟨name,kind,hnow,.inl hg⟩
        · exact h.gaps g hg
      once := h.once
      spent := h.spent
      known := hknown }

/-- The piece of work in hand is done with, where every unit it may stand for was visited for it. -/
theorem Walking.done (h : Walking bus limits target action props (some (name,kind)) t) (hread : name ∈ t.attempted)
    (hdone : ∀ unit properties, Answers bus name unit properties → (unit,kind) ∈ t.visited) :
    Walking bus limits target action props none t :=
  { h with
    queued := fun p hp => by
      rcases h.queued p hp with hnow | hq
      · obtain ⟨⟩ := hnow
        exact .inr (.inr ⟨hread,hdone⟩)
      · exact .inr hq }

/-- A unit is visited for a kind of work it was not visited for. -/
theorem Walking.visit {units : List String} (h : Walking bus limits target action props (some (name,kind)) t)
    (hreached : Reached bus target action depth name kind) (hnow : (name,kind) ∈ t.queued) (hread : name ∈ t.attempted)
    (hanswer : Answers bus name unit (props unit)) (hnew : (unit,kind) ∉ t.visited)
    (hunits : ∀ other, other ∈ units ↔ other ∈ t.units ∨ other = unit ∧ Affected action kind (props unit))
    (htaken : Taken limits unit kind depth (props unit)
      {t with visited := (unit,kind) :: t.visited,units := units,gaps := visitNotes action unit kind (props unit) ++ t.gaps} t')
    (hw : Whole t') : Walking bus limits target action props none t' where
  root := htaken.queued _ h.root
  queued p hp := by
    rw [htaken.attempted,htaken.visited]
    rcases htaken.fresh p hp with hq | hpend
    · rcases h.queued p hq with hsome | ⟨d,hd⟩ | ⟨ha,hv⟩
      · obtain ⟨⟩ := hsome
        refine .inr (.inr ⟨hread,fun other answer ho => ?_⟩)
        rw [(ho.unique hanswer).1]
        exact .head _
      · exact .inr (.inl ⟨d,htaken.pending _ hd⟩)
      · exact .inr (.inr ⟨ha,fun other answer ho => .tail _ (hv other answer ho)⟩)
    · exact .inr (.inl ⟨depth + 1,hpend⟩)
  pending x hx := by
    rcases htaken.sound x hx with hx | ⟨hd,-,⟨rule,hrule,hchild,hname⟩,hq⟩
    · exact ⟨htaken.queued _ (h.pending x hx).1,(h.pending x hx).2⟩
    · refine ⟨hq,?_⟩
      rw [hd,hchild]
      exact .child hreached hanswer hrule hname
  reached p hp := by
    rcases htaken.fresh p hp with hq | hpend
    · exact h.reached p hq
    · rcases htaken.sound _ hpend with hx | ⟨-,hlim,⟨rule,hrule,hchild,hname⟩,-⟩
      · exact h.reached p (h.pending _ hx).1
      · refine ⟨depth + 1,hlim,?_⟩
        rw [show p.2 = rule.child from hchild]
        exact .child hreached hanswer hrule hname
  attempted other hother := by
    rw [htaken.attempted] at hother
    obtain ⟨work,hwork⟩ := h.attempted other hother
    exact ⟨work,htaken.queued _ hwork⟩
  visited v hv := by
    rw [htaken.visited] at hv
    rcases List.mem_cons.mp hv with rfl | hv
    · refine ⟨fun g hg => ?_,fun rule hrule other hother => ?_⟩
      · rcases hg with hg | hg
        · exact htaken.gaps g (List.mem_append_left _ hg)
        · exact htaken.owed hw g hg
      · exact ⟨htaken.total hw other rule.child ⟨rule,hrule,rfl,hother⟩,
          fun hf => htaken.allEdges hw ⟨unit,rule.relation,other⟩ ⟨rule,hrule,hf,rfl,rfl,hother⟩⟩
    · exact (h.visited v hv).mono (fun g hg => htaken.gaps g (List.mem_append_right _ hg)) (fun p hp => htaken.queued p hp)
        fun e he => htaken.provisional e he
  origin v hv := by
    rw [htaken.visited] at hv
    rcases List.mem_cons.mp hv with rfl | hv
    · exact ⟨name,props unit,htaken.queued _ hnow,htaken.attempted ▸ hread,hanswer⟩
    · obtain ⟨other,answer,hq,ha,ho⟩ := h.origin v hv
      exact ⟨other,answer,htaken.queued _ hq,htaken.attempted ▸ ha,ho⟩
  provisional e he := by
    rcases htaken.edges e he with he | ⟨rule,hrule,hf,hsource,hrelation,hname⟩
    · exact h.provisional e he
    · exact ⟨depth,name,kind,props unit,rule,hreached,hsource ▸ hanswer,hrule,hf,hrelation,hname⟩
  units other := by
    rw [htaken.units,htaken.visited]
    dsimp only
    rw [hunits,h.units]
    constructor
    · rintro (⟨work,hv,ha⟩ | ⟨rfl,ha⟩)
      · exact ⟨work,.tail _ hv,ha⟩
      · exact ⟨kind,.head _,ha⟩
    · rintro ⟨work,hv,ha⟩
      rcases List.mem_cons.mp hv with heq | hv
      · obtain ⟨⟩ := heq
        exact .inr ⟨rfl,ha⟩
      · exact .inl ⟨work,hv,ha⟩
  gaps g hg := by
    rcases htaken.told g hg with hg | hg | hg
    · rcases List.mem_append.mp hg with hg | hg
      · exact ⟨name,kind,htaken.queued _ hnow,.inr ⟨unit,props unit,hanswer,.inl hg⟩⟩
      · obtain ⟨other,work,hq,hdue⟩ := h.gaps g hg
        exact ⟨other,work,htaken.queued _ hq,hdue⟩
    · exact ⟨name,kind,htaken.queued _ hnow,.inr ⟨unit,props unit,hanswer,.inr hg⟩⟩
    · exact (hw g hg ‹g ∈ t'.gaps›).elim
  once := by
    rw [htaken.visited]
    exact List.nodup_cons.mpr ⟨hnew,h.once⟩
  spent := by
    have hspent := htaken.spent hw
    have hbefore := h.spent
    rw [htaken.visited,List.map_cons,List.sum_cons]
    dsimp only at hspent ⊢
    omega
  known := h.known.congr htaken.attempted htaken.aliases htaken.nodes fun g hg => htaken.gaps g (List.mem_append_right _ hg)

/-- A piece of work that is taken up keeps the walk what it is. -/
theorem Walking.take {rest : List (String × Work × ℕ)} (h : Walking bus limits target action props none t)
    (hp : t.pending = (name,kind,depth) :: rest) (htake : take bus limits action name kind depth {t with pending := rest} = .ok t')
    (hw : Whole t') (hfair : Fair bus props t'.gaps) : Walking bus limits target action props none t' := by
  obtain ⟨hnow,hreached⟩ := h.pending (name,kind,depth) (hp ▸ .head _)
  obtain ⟨patience,after,hafter,hcase⟩ := take_ok htake
  have hmono : ∀ g ∈ after.gaps, g ∈ t'.gaps := by
    obtain ⟨-,rfl⟩ | ⟨canonical,-,⟨-,rfl⟩ | ⟨-,properties,units,-,-,htaken⟩⟩ := hcase
    · exact fun _ hg => hg
    · exact fun _ hg => hg
    · exact fun g hg => htaken.gaps g (List.mem_append_right _ hg)
  have hfairAfter : Fair bus props after.gaps := fun name unit properties ha =>
    (hfair name unit properties ha).imp_right fun hb => ⟨hb.1,fun hg => hb.2 (hmono _ hg)⟩
  obtain ⟨hwalk,hread⟩ := (h.pop hp patience).read hafter hnow hfairAfter
  have hnowAfter : (name,kind) ∈ after.queued := by
    rcases readUnit_ok hafter with ⟨-,rfl⟩ | ⟨-,_,_,_,rfl,-⟩ <;> exact hnow
  obtain ⟨halias,rfl⟩ | ⟨canonical,halias,hvisit⟩ := hcase
  · refine hwalk.done hread fun unit properties ha => ?_
    rw [(hwalk.known.aliases name unit).mpr ⟨hread,properties,ha⟩] at halias
    cases halias
  · obtain ⟨-,answer,hanswer⟩ := (hwalk.known.aliases name canonical).mp halias
    obtain ⟨hvisited,rfl⟩ | ⟨hnew,properties,units,hnode,hunits,htaken⟩ := hvisit
    · exact hwalk.done hread fun unit properties ha => (ha.unique hanswer).1 ▸ hvisited
    · obtain rfl := hwalk.known.same name hread canonical answer hanswer
      obtain ⟨rfl,-⟩ := (hwalk.known.nodes canonical properties).mp hnode
      exact hwalk.visit hreached hnowAfter hread hanswer hnew hunits htaken hw

theorem walk_gaps {fuel : ℕ} (h : walk bus limits action fuel t = some (.ok t')) : ∀ g ∈ t.gaps, g ∈ t'.gaps := by
  induction fuel generalizing t with
  | zero =>
    unfold walk at h
    split at h
    · cases h
      exact fun _ hg => hg
    · cases h
    · next hfuel => cases hfuel
  | succ fuel ih =>
    unfold walk at h
    split at h
    · cases h
      exact fun _ hg => hg
    · next hfuel => cases hfuel
    · next name kind depth rest fuel' hp hfuel =>
      obtain rfl := Nat.succ.inj hfuel
      split at h
      · cases h
      · next after hafter => exact fun g hg => ih h g (take_gaps hafter g hg)

/-- So a whole run does, and nothing is left to take up. -/
theorem Walking.run {fuel : ℕ} (h : Walking bus limits target action props none t) (hwalk : walk bus limits action fuel t = some (.ok t'))
    (hw : Whole t') (hfair : Fair bus props t'.gaps) : Walking bus limits target action props none t' ∧ t'.pending = [] := by
  induction fuel generalizing t with
  | zero =>
    unfold walk at hwalk
    split at hwalk
    · next hp =>
      cases hwalk
      exact ⟨h,hp⟩
    · cases hwalk
    · next hfuel => cases hfuel
  | succ fuel ih =>
    unfold walk at hwalk
    split at hwalk
    · next hp =>
      cases hwalk
      exact ⟨h,hp⟩
    · next hfuel => cases hfuel
    · next name kind depth rest fuel' hp hfuel =>
      obtain rfl := Nat.succ.inj hfuel
      split at hwalk
      · cases hwalk
      · next after hafter =>
        have hmono := walk_gaps hwalk
        refine ih (h.take hp hafter (fun g hg hmem => hw g hg (hmono g hmem)) fun name unit properties ha => ?_) hwalk
        exact (hfair name unit properties ha).imp_right fun hb => ⟨hb.1,fun hg => hb.2 (hmono _ hg)⟩

theorem Walking.opening (bus : Bus) (limits : Limits) (target : String) (action : SystemdServiceAction) (props : String → Fields) (patience : ℕ) :
    Walking bus limits target action props none (opening limits target action patience) where
  root := .head _
  queued p hp := by
    rw [List.mem_singleton.mp hp]
    exact .inr (.inl ⟨0,.head _⟩)
  pending x hx := by
    rw [List.mem_singleton.mp hx]
    exact ⟨.head _,.root⟩
  reached p hp := by
    rw [List.mem_singleton.mp hp]
    exact ⟨0,Nat.zero_le _,.root⟩
  attempted _ h := (List.not_mem_nil h).elim
  visited _ h := (List.not_mem_nil h).elim
  origin _ h := (List.not_mem_nil h).elim
  provisional _ h := (List.not_mem_nil h).elim
  units unit := ⟨fun h => (List.not_mem_nil h).elim,fun ⟨_,h,_⟩ => (List.not_mem_nil h).elim⟩
  gaps _ h := (List.not_mem_nil h).elim
  once := List.nodup_nil
  spent := rfl
  known := ⟨fun _ _ => ⟨nofun,fun h => (List.not_mem_nil h.1).elim⟩,
    fun _ _ => ⟨nofun,fun ⟨_,_,h,_⟩ => (List.not_mem_nil h).elim⟩,fun _ h => (List.not_mem_nil h).elim,
    fun _ h => (List.not_mem_nil h).elim,fun _ h => (List.not_mem_nil h).elim⟩

end Run

end Effects
end LocalPlane
