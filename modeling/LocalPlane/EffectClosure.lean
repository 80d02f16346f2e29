import LocalPlane.EffectGraph
import Mathlib.Algebra.GroupWithZero.Nat

/-!
# What a walk has gathered when no ceiling cut it short

Every piece of work brings the same names, edges and notes whenever it is taken up. A walk
that met no ceiling has taken up all there is, so what it gathered is the least set closed
under the tables, whatever order it came in.
-/

set_option linter.dupNamespace false

namespace LocalPlane

open LineProtocol (Json Fields)
open Planning (EffectEdge SystemdServiceAction)

namespace Effects

/-- What a relation of a unit names. -/
def Names (properties : Fields) (relation name : String) : Prop :=
  ∃ items, fact properties relation = .arr items ∧ .str name ∈ items ∧ unitName name = true

/-- A name that can be read answers with the unit it stands for. -/
def Answers (bus : Bus) (name unit : String) (properties : Fields) : Prop :=
  bus.read name = .ok properties ∧ fact properties "Id" = .str unit ∧ unitName unit = true

/-- The least set the tables build from the target and the action, by the number of steps. -/
inductive Reached (bus : Bus) (target : String) (action : SystemdServiceAction) : ℕ → String → Work → Prop
  | root : Reached bus target action 0 target (.ofAction action)
  | child {depth : ℕ} {name unit referenced : String} {kind : Work} {properties : Fields} {rule : Rule}
      (h : Reached bus target action depth name kind) (hread : Answers bus name unit properties) (hrule : rule ∈ rulesFor kind)
      (hname : Names properties rule.relation referenced) : Reached bus target action (depth + 1) referenced rule.child

/-- An edge of the closure. -/
def IsEdge (bus : Bus) (target : String) (action : SystemdServiceAction) (e : EffectEdge) : Prop :=
  ∃ depth name kind properties rule, Reached bus target action depth name kind ∧ Answers bus name e.source properties ∧
    rule ∈ rulesFor kind ∧ rule.follows = true ∧ e.relation = rule.relation ∧ Names properties rule.relation e.target

def ceilings : List String := ["effect_graph.depth_limit","effect_graph.node_limit","effect_graph.edge_limit"]

/-- No ceiling cut the walk short. -/
def Whole (t : Traversal) : Prop := ∀ g ∈ ceilings, g ∉ t.gaps

/-- What the walk adds from one place on: `C` is queued, `E` are the edges, `G` the notes left and `n` the entries looked at. -/
structure Grown (limits : Limits) (depth : ℕ) (C : String → Work → Prop) (E : EffectEdge → Prop) (G : String → Prop) (n : ℕ)
    (t t' : Traversal) : Prop where
  visited : t'.visited = t.visited
  units : t'.units = t.units
  attempted : t'.attempted = t.attempted
  aliases : t'.aliases = t.aliases
  nodes : t'.nodes = t.nodes
  gaps : ∀ g ∈ t.gaps, g ∈ t'.gaps
  told : ∀ g ∈ t'.gaps, g ∈ t.gaps ∨ G g ∨ g ∈ ceilings
  owed : Whole t' → ∀ g, G g → g ∈ t'.gaps
  spent : Whole t' → t'.references + n = t.references
  queued : ∀ p ∈ t.queued, p ∈ t'.queued
  pending : ∀ x ∈ t.pending, x ∈ t'.pending
  fresh : ∀ p ∈ t'.queued, p ∈ t.queued ∨ (p.1,p.2,depth) ∈ t'.pending
  sound : ∀ x ∈ t'.pending, x ∈ t.pending ∨ (x.2.2 = depth ∧ depth ≤ limits.depth ∧ C x.1 x.2.1 ∧ (x.1,x.2.1) ∈ t'.queued)
  total : Whole t' → ∀ unit kind, C unit kind → (unit,kind) ∈ t'.queued
  provisional : ∀ e ∈ t.provisional, e ∈ t'.provisional
  edges : ∀ e ∈ t'.provisional, e ∈ t.provisional ∨ E e
  allEdges : Whole t' → ∀ e, E e → e ∈ t'.provisional

namespace Grown

variable {limits : Limits} {depth n n' : ℕ} {C C' : String → Work → Prop} {E E' : EffectEdge → Prop} {G G' : String → Prop}
  {t t' t'' : Traversal}

theorem whole (h : Grown limits depth C E G n t t') (hw : Whole t') : Whole t := fun g hg hmem => hw g hg (h.gaps g hmem)

theorem idle (t : Traversal) (patience : ℕ) : Grown limits depth (fun _ _ => False) (fun _ => False) (fun _ => False) 0 t
    {t with patience := patience} where
  visited := rfl
  units := rfl
  attempted := rfl
  aliases := rfl
  nodes := rfl
  gaps _ h := h
  told _ h := .inl h
  owed _ _ h := h.elim
  spent _ := rfl
  queued _ h := h
  pending _ h := h
  fresh _ h := .inl h
  sound _ h := .inl h
  total _ _ _ h := h.elim
  provisional _ h := h
  edges _ h := .inl h
  allEdges _ _ h := h.elim

/-- One entry is looked at. -/
theorem look (t : Traversal) (patience : ℕ) (hleft : t.references ≠ 0) : Grown limits depth (fun _ _ => False) (fun _ => False)
    (fun _ => False) 1 t {t with references := t.references - 1,patience := patience} :=
  { (idle t patience : Grown limits depth (fun _ _ => False) (fun _ => False) (fun _ => False) 0 t {t with patience := patience}) with
    spent := fun _ => Nat.sub_add_cancel (Nat.one_le_iff_ne_zero.mpr hleft) }

theorem note (t : Traversal) (g : String) : Grown limits depth (fun _ _ => False) (fun _ => False) (· = g) 0 t (t.gap g) where
  visited := rfl
  units := rfl
  attempted := rfl
  aliases := rfl
  nodes := rfl
  gaps _ h := .tail _ h
  told _ h := (List.mem_cons.mp h).elim (fun h => .inr (.inl h)) .inl
  owed _ _ h := h ▸ .head _
  spent _ := rfl
  queued _ h := h
  pending _ h := h
  fresh _ h := .inl h
  sound _ h := .inl h
  total _ _ _ h := h.elim
  provisional _ h := h
  edges _ h := .inl h
  allEdges _ _ h := h.elim

/-- Where a ceiling is met nothing needs to have been done. -/
theorem cut (t : Traversal) {g : String} (hg : g ∈ ceilings) : Grown limits depth C E G n t (t.gap g) where
  visited := rfl
  units := rfl
  attempted := rfl
  aliases := rfl
  nodes := rfl
  gaps _ h := .tail _ h
  told _ h := (List.mem_cons.mp h).elim (fun h => .inr (.inr (h ▸ hg))) .inl
  owed hw := absurd (.head _) (hw g hg)
  spent hw := absurd (.head _) (hw g hg)
  queued _ h := h
  pending _ h := h
  fresh _ h := .inl h
  sound _ h := .inl h
  total hw := absurd (.head _) (hw g hg)
  provisional _ h := h
  edges _ h := .inl h
  allEdges hw := absurd (.head _) (hw g hg)

theorem trans (h : Grown limits depth C E G n t t') (h' : Grown limits depth C' E' G' n' t' t'') :
    Grown limits depth (fun unit kind => C unit kind ∨ C' unit kind) (fun e => E e ∨ E' e) (fun g => G g ∨ G' g) (n + n') t t'' where
  visited := h'.visited.trans h.visited
  units := h'.units.trans h.units
  attempted := h'.attempted.trans h.attempted
  aliases := h'.aliases.trans h.aliases
  nodes := h'.nodes.trans h.nodes
  gaps g hg := h'.gaps g (h.gaps g hg)
  told g hg := by
    rcases h'.told g hg with hg | hg | hg
    · rcases h.told g hg with hg | hg | hg
      · exact .inl hg
      · exact .inr (.inl (.inl hg))
      · exact .inr (.inr hg)
    · exact .inr (.inl (.inr hg))
    · exact .inr (.inr hg)
  owed hw g hg := by
    rcases hg with hg | hg
    · exact h'.gaps g (h.owed (h'.whole hw) g hg)
    · exact h'.owed hw g hg
  spent hw := by
    have h₁ := h.spent (h'.whole hw)
    have h₂ := h'.spent hw
    omega
  queued p hp := h'.queued p (h.queued p hp)
  pending x hx := h'.pending x (h.pending x hx)
  fresh p hp := by
    rcases h'.fresh p hp with hq | hpend
    · rcases h.fresh p hq with hq | hpend
      · exact .inl hq
      · exact .inr (h'.pending _ hpend)
    · exact .inr hpend
  sound x hx := by
    rcases h'.sound x hx with hx | ⟨hd,hlim,hc,hq⟩
    · rcases h.sound x hx with hx | ⟨hd,hlim,hc,hq⟩
      · exact .inl hx
      · exact .inr ⟨hd,hlim,.inl hc,h'.queued _ hq⟩
    · exact .inr ⟨hd,hlim,.inr hc,hq⟩
  total hw unit kind hc := by
    rcases hc with hc | hc
    · exact h'.queued _ (h.total (h'.whole hw) unit kind hc)
    · exact h'.total hw unit kind hc
  provisional e he := h'.provisional e (h.provisional e he)
  edges e he := by
    rcases h'.edges e he with he | he
    · rcases h.edges e he with he | he
      · exact .inl he
      · exact .inr (.inl he)
    · exact .inr (.inr he)
  allEdges hw e he := by
    rcases he with he | he
    · exact h'.provisional e (h.allEdges (h'.whole hw) e he)
    · exact h'.allEdges hw e he

theorem conseq (h : Grown limits depth C E G n t t') (hC : ∀ unit kind, C unit kind ↔ C' unit kind) (hE : ∀ e, E e ↔ E' e)
    (hG : ∀ g, G g ↔ G' g) (hn : n = n') : Grown limits depth C' E' G' n' t t' := by
  obtain rfl : C = C' := funext fun unit => funext fun kind => propext (hC unit kind)
  obtain rfl : E = E' := funext fun e => propext (hE e)
  obtain rfl : G = G' := funext fun g => propext (hG g)
  exact hn ▸ h

end Grown

section Growth

variable {limits : Limits} {depth : ℕ} {t t' : Traversal} {referenced canonical : String} {kind : Work} {rule : Rule}
  {items : List Json} {properties : Fields}

theorem remaining_ok (h : t.remaining = .ok t') : ∃ patience, t' = {t with patience := patience} := by
  unfold Traversal.remaining at h
  split at h
  · cases h
  · cases h
    exact ⟨_,rfl⟩

/-- A new piece of work is queued and waits to be taken. -/
theorem grown_push (admitted : List String) (hlimit : depth ≤ limits.depth) :
    Grown limits depth (fun unit work => unit = referenced ∧ work = kind) (fun _ => False) (fun _ => False) 0 t
      {t with admitted := admitted,queued := (referenced,kind) :: t.queued,pending := t.pending ++ [(referenced,kind,depth)]} where
  visited := rfl
  units := rfl
  attempted := rfl
  aliases := rfl
  nodes := rfl
  gaps _ h := h
  told _ h := .inl h
  owed _ _ h := h.elim
  spent _ := rfl
  queued _ h := .tail _ h
  pending _ h := List.mem_append_left _ h
  fresh p h := by
    rcases List.mem_cons.mp h with rfl | h
    · exact .inr (List.mem_append_right _ (.head _))
    · exact .inl h
  sound x h := by
    rcases List.mem_append.mp h with h | h
    · exact .inl h
    · rw [List.mem_singleton.mp h]
      exact .inr ⟨rfl,hlimit,⟨rfl,rfl⟩,.head _⟩
  total := by
    rintro - unit work ⟨rfl,rfl⟩
    exact .head _
  provisional _ h := h
  edges _ h := .inl h
  allEdges _ _ h := h.elim

theorem enqueue_grown : Grown limits depth (fun unit work => unit = referenced ∧ work = kind) (fun _ => False) (fun _ => False) 0 t
    (enqueue limits referenced kind depth t) := by
  unfold enqueue
  split
  · next hqueued =>
    have h : Grown limits depth (fun _ _ => False) (fun _ => False) (fun _ => False) 0 t t := .idle t t.patience
    refine {h with sound := fun _ h => .inl h, total := ?_}
    rintro - unit work ⟨rfl,rfl⟩
    exact hqueued
  · split
    · exact .cut t (by decide)
    · next hdepth =>
      split
      · exact grown_push t.admitted (not_lt.mp hdepth)
      · split
        · exact .cut t (by decide)
        · exact grown_push (referenced :: t.admitted) (not_lt.mp hdepth)

theorem follow_grown {relation : String} : Grown limits (depth + 1) (fun unit work => unit = referenced ∧ work = kind)
    (fun e => e = ⟨canonical,relation,referenced⟩) (fun _ => False) 0 t (follow limits canonical relation referenced kind depth t) := by
  unfold follow
  dsimp only
  split
  · next hedge =>
    have h : Grown limits (depth + 1) (fun unit work => unit = referenced ∧ work = kind) (fun _ => False) (fun _ => False) 0 t
        (enqueue limits referenced kind (depth + 1) t) := enqueue_grown
    exact { h with
      edges := fun e he => (h.edges e he).imp_right False.elim
      allEdges := fun hw e he => h.provisional e (he ▸ hedge) }
  · split
    · exact .cut t (by decide)
    · have h : Grown limits (depth + 1) (fun unit work => unit = referenced ∧ work = kind) (fun _ => False) (fun _ => False) 0
          {t with provisional := (⟨canonical,relation,referenced⟩ : EffectEdge) :: t.provisional}
          (enqueue limits referenced kind (depth + 1) {t with provisional := ⟨canonical,relation,referenced⟩ :: t.provisional}) :=
        enqueue_grown
      exact { h with
        provisional := fun e he => h.provisional e (.tail _ he)
        edges := fun e he => by
          rcases h.edges e he with he | he
          · exact (List.mem_cons.mp he).symm
          · exact he.elim
        allEdges := fun hw e he => h.provisional e (he ▸ .head _) }

/-- A name brings the work of its rule, along an edge if the rule says so, and the mark of the rule. -/
theorem takeName_grown : Grown limits (depth + 1) (fun unit work => unit = referenced ∧ work = rule.child)
    (fun e => rule.follows = true ∧ e = ⟨canonical,rule.relation,referenced⟩)
    (fun g => ∃ mark, rule.mark = some mark ∧ g = mark ++ ":" ++ canonical) 0 t (takeName limits rule canonical depth referenced t) := by
  unfold takeName
  cases hm : rule.mark with
  | none =>
    dsimp only
    split
    · next hfollows => exact follow_grown.conseq (fun _ _ => Iff.rfl) (fun e => by simp [hfollows]) (fun g => by simp) rfl
    · next hfollows => exact enqueue_grown.conseq (fun _ _ => Iff.rfl) (fun e => by simp [hfollows]) (fun g => by simp) rfl
  | some mark =>
    have hmark : Grown limits (depth + 1) (fun _ _ => False) (fun _ => False) (· = mark ++ ":" ++ canonical) 0 t
      (t.gap (mark ++ ":" ++ canonical)) := .note t _
    dsimp only
    split
    · next hfollows =>
      exact (hmark.trans follow_grown).conseq (fun unit work => by simp) (fun e => by simp [hfollows]) (fun g => by simp) rfl
    · next hfollows =>
      exact (hmark.trans enqueue_grown).conseq (fun unit work => by simp) (fun e => by simp [hfollows]) (fun g => by simp) rfl

theorem step_bind_ok {x : Step} {f : Traversal → Step} (h : (x >>= f) = .ok t') : ∃ a, x = .ok a ∧ f a = .ok t' := by
  cases x with
  | error e => cases h
  | ok a => exact ⟨a,rfl,h⟩

/-- What a list of entries brings: the names among them. -/
def Brings (rule : Rule) (items : List Json) (unit : String) (work : Work) : Prop :=
  work = rule.child ∧ .str unit ∈ items ∧ unitName unit = true

def Draws (rule : Rule) (canonical : String) (items : List Json) (e : EffectEdge) : Prop :=
  rule.follows = true ∧ e.source = canonical ∧ e.relation = rule.relation ∧ .str e.target ∈ items ∧ unitName e.target = true

/-- The notes on one entry. -/
def EntryNotes (rule : Rule) (canonical : String) (item : Json) (g : String) : Prop :=
  ((∃ name, item = .str name ∧ unitName name = true) ∧ ∃ mark, rule.mark = some mark ∧ g = mark ++ ":" ++ canonical) ∨
    ((¬∃ name, item = .str name ∧ unitName name = true) ∧ g = "effect_graph.unreadable:" ++ rule.relation ++ ":" ++ canonical)

theorem takeEach_grown (h : takeEach limits rule canonical depth items t = .ok t') :
    Grown limits (depth + 1) (Brings rule items) (Draws rule canonical items) (fun g => ∃ item ∈ items, EntryNotes rule canonical item g)
      items.length t t' := by
  induction items generalizing t with
  | nil =>
    obtain rfl := Except.ok.inj h
    exact (Grown.idle t t.patience).conseq (fun _ _ => by simp [Brings]) (fun _ => by simp [Draws]) (fun _ => by simp) rfl
  | cons item rest ih =>
    rw [takeEach] at h
    obtain ⟨looked,hlooked,h⟩ := step_bind_ok h
    obtain ⟨patience,rfl⟩ := remaining_ok hlooked
    split at h
    · obtain rfl := Except.ok.inj h
      have hidle : Grown limits (depth + 1) (fun _ _ => False) (fun _ => False) (fun _ => False) 0 t {t with patience := patience} :=
        .idle t patience
      have hcut : Grown limits (depth + 1) (Brings rule (item :: rest)) (Draws rule canonical (item :: rest))
          (fun g => ∃ other ∈ item :: rest, EntryNotes rule canonical other g) (item :: rest).length {t with patience := patience}
          (Traversal.gap {t with patience := patience} "effect_graph.edge_limit") := .cut _ (by decide)
      exact (hidle.trans hcut).conseq (fun _ _ => by simp) (fun _ => by simp) (fun _ => by simp) (Nat.zero_add _)
    · next hleft =>
      dsimp only at h
      have hlook : Grown limits (depth + 1) (fun _ _ => False) (fun _ => False) (fun _ => False) 1 t
        {t with references := t.references - 1,patience := patience} := .look t patience hleft
      have hskip (hbad : ¬∃ name, item = .str name ∧ unitName name = true) (h : takeEach limits rule canonical depth rest
          (Traversal.gap {t with references := t.references - 1,patience := patience}
            ("effect_graph.unreadable:" ++ rule.relation ++ ":" ++ canonical)) = .ok t') :
          Grown limits (depth + 1) (Brings rule (item :: rest)) (Draws rule canonical (item :: rest))
            (fun g => ∃ other ∈ item :: rest, EntryNotes rule canonical other g) (item :: rest).length t t' := by
        refine ((hlook.trans (.note _ _)).trans (ih h)).conseq (fun unit work => ?_) (fun e => ?_) (fun g => ?_) ?_
        · simp only [Brings,false_or,List.mem_cons]
          refine ⟨fun hc => ⟨hc.1,.inr hc.2.1,hc.2.2⟩,fun hc => ⟨hc.1,hc.2.1.resolve_left ?_,hc.2.2⟩⟩
          rintro rfl
          exact hbad ⟨unit,rfl,hc.2.2⟩
        · simp only [Draws,false_or,List.mem_cons]
          refine ⟨fun he => ⟨he.1,he.2.1,he.2.2.1,.inr he.2.2.2.1,he.2.2.2.2⟩,
            fun he => ⟨he.1,he.2.1,he.2.2.1,he.2.2.2.1.resolve_left ?_,he.2.2.2.2⟩⟩
          rintro heq
          exact hbad ⟨e.target,heq.symm,he.2.2.2.2⟩
        · simp only [false_or,List.exists_mem_cons_iff]
          refine or_congr_left ⟨fun hg => .inr ⟨hbad,hg⟩,fun hg => hg.elim (fun hg => absurd hg.1 hbad) And.right⟩
        · rw [List.length_cons]
          omega
      cases item with
      | str name =>
        dsimp only at h
        split at h
        · next hname =>
          refine ((hlook.trans takeName_grown).trans (ih h)).conseq (fun unit work => ?_) (fun e => ?_) (fun g => ?_) ?_
          · simp only [Brings,false_or,List.mem_cons,Json.str.injEq]
            constructor
            · rintro (⟨rfl,rfl⟩ | hc)
              · exact ⟨rfl,.inl rfl,hname⟩
              · exact ⟨hc.1,.inr hc.2.1,hc.2.2⟩
            · rintro ⟨rfl,rfl | hmem,hunit⟩
              · exact .inl ⟨rfl,rfl⟩
              · exact .inr ⟨rfl,hmem,hunit⟩
          · obtain ⟨source,relation,target⟩ := e
            simp only [Draws,false_or,List.mem_cons,Json.str.injEq,EffectEdge.mk.injEq]
            constructor
            · rintro (⟨hf,rfl,rfl,rfl⟩ | ⟨hf,rfl,rfl,hmem,hunit⟩)
              · exact ⟨hf,rfl,rfl,.inl rfl,hname⟩
              · exact ⟨hf,rfl,rfl,.inr hmem,hunit⟩
            · rintro ⟨hf,rfl,rfl,rfl | hmem,hunit⟩
              · exact .inl ⟨hf,rfl,rfl,rfl⟩
              · exact .inr ⟨hf,rfl,rfl,hmem,hunit⟩
          · simp only [false_or,List.exists_mem_cons_iff]
            have hgood : ∃ other, Json.str name = .str other ∧ unitName other = true := ⟨name,rfl,hname⟩
            refine or_congr_left ⟨fun hg => .inl ⟨hgood,hg⟩,fun hg => hg.elim And.right fun hg => absurd hgood hg.1⟩
          · rw [List.length_cons]
            omega
        · next hname =>
          refine hskip ?_ h
          rintro ⟨other,heq,hother⟩
          cases heq
          exact hname hother
      | null | bool _ | num _ | arr _ | obj _ =>
        refine hskip ?_ h
        rintro ⟨other,heq,-⟩
        cases heq

/-- The notes a rule leaves on a unit, and how many entries it looks at. -/
def RuleNotes (rule : Rule) (canonical : String) (properties : Fields) (g : String) : Prop :=
  match fact properties rule.relation with
  | .null => g = "effect_graph.unsupported:" ++ rule.relation ++ ":" ++ canonical
  | .arr items => ∃ item ∈ items, EntryNotes rule canonical item g
  | _ => g = "effect_graph.unreadable:" ++ rule.relation ++ ":" ++ canonical

def entries (properties : Fields) (rule : Rule) : ℕ :=
  match fact properties rule.relation with
  | .arr items => items.length
  | _ => 0

theorem takeRule_grown (h : takeRule limits canonical depth properties t rule = .ok t') :
    Grown limits (depth + 1) (fun unit work => work = rule.child ∧ Names properties rule.relation unit)
      (fun e => rule.follows = true ∧ e.source = canonical ∧ e.relation = rule.relation ∧ Names properties rule.relation e.target)
      (RuleNotes rule canonical properties) (entries properties rule) t t' := by
  unfold takeRule at h
  have hnone (hno : ∀ items, fact properties rule.relation ≠ .arr items) {note : String} (hnote : ∀ g, RuleNotes rule canonical properties g ↔ g = note)
      (h : Except.ok (t.gap note) = (Except.ok t' : Step)) : Grown limits (depth + 1)
        (fun unit work => work = rule.child ∧ Names properties rule.relation unit)
        (fun e => rule.follows = true ∧ e.source = canonical ∧ e.relation = rule.relation ∧ Names properties rule.relation e.target)
        (RuleNotes rule canonical properties) (entries properties rule) t t' := by
    obtain rfl := Except.ok.inj h
    have hnames : ∀ name, ¬Names properties rule.relation name := fun name ⟨items,hitems,_⟩ => hno items hitems
    refine (Grown.note t note).conseq (fun _ _ => by simp [hnames]) (fun _ => by simp [hnames]) (fun g => (hnote g).symm) ?_
    unfold entries
    split
    · next items hitems => exact absurd hitems (hno items)
    · rfl
  cases hfact : fact properties rule.relation with
  | arr items =>
    rw [hfact] at h
    have hnames : ∀ name, Names properties rule.relation name ↔ .str name ∈ items ∧ unitName name = true := by
      intro name
      simp [Names,hfact]
    refine (takeEach_grown h).conseq (fun unit work => by rw [hnames,Brings]) (fun e => by rw [hnames,Draws]) (fun g => ?_) ?_
    · simp [RuleNotes,hfact]
    · simp [entries,hfact]
  | null | bool _ | num _ | str _ | obj _ =>
    rw [hfact] at h
    exact hnone (by simp [hfact]) (by simp [RuleNotes,hfact]) h

/-- What the rules of a unit bring, all of them read. -/
theorem takeRules_grown {rules : List Rule} (h : rules.foldlM (takeRule limits canonical depth properties) t = .ok t') :
    Grown limits (depth + 1) (fun unit work => ∃ rule ∈ rules, work = rule.child ∧ Names properties rule.relation unit)
      (fun e => ∃ rule ∈ rules, rule.follows = true ∧ e.source = canonical ∧ e.relation = rule.relation ∧
        Names properties rule.relation e.target) (fun g => ∃ rule ∈ rules, RuleNotes rule canonical properties g)
      (rules.map (entries properties)).sum t t' := by
  induction rules generalizing t with
  | nil =>
    obtain rfl := Except.ok.inj h
    exact (Grown.idle t t.patience).conseq (fun _ _ => by simp) (fun _ => by simp) (fun _ => by simp) rfl
  | cons rule rules ih =>
    rw [List.foldlM_cons] at h
    obtain ⟨after,hafter,h⟩ := step_bind_ok h
    exact ((takeRule_grown hafter).trans (ih h)).conseq (fun unit work => by simp) (fun e => by simp) (fun g => by simp) (by simp)

end Growth

end Effects
end LocalPlane
