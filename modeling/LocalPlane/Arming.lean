import LocalPlane.Gates

/-!
# From the consumed confirmation to the boundary

Correlating the target, writing the checkpoint and arming the guard, with the endings
of each when the other side refuses. Nothing has been dispatched in any of them.
-/

set_option linter.dupNamespace false

namespace LocalPlane

/-- What was prepared fits the published plan. -/
def Subject.Prepared (s : Subject) : Option Checkpoint → Prop
  | none => s.preview.armsRecovery = false
  | some cp => s.preview.change = .field cp.field cp.before cp.desired ∧ cp.evidence = s.preview.evidence

/-- Ready for the boundary but for the guard. -/
structure Rows.Ready (i : RequestId) (cp : Option Checkpoint) (k : Rows) : Prop extends Rows.Started i k where
  checkpoint : cp.isSome → k.checkpoint = cp

/-- Ready for the boundary, under a guard where the plan wants one. -/
structure Rows.Covered (i : RequestId) (s : Subject) (cp : Option Checkpoint) (k : Rows) : Prop where
  change : k.change = none
  ended : k.ended = false
  checkpoint : cp.isSome → k.checkpoint = cp
  guard : s.preview.isGuarded → ∃ g, k.guard = some g ∧ g.armed ∧ g.settled = none
  undispatched : ∀ p a o l, .mutated i p a o l ∉ k.callsOf i

namespace Rows

variable {i : RequestId} {k : Rows}

theorem Started.fresh (h : k.Started i) (ho : k.Owner i) : k.Fresh i := ⟨ho,h.change,h.ended⟩

/-- A checkpoint written while arming leaves everything else as the request found it. -/
theorem Started.writeCheckpoint (h : k.Started i) (correlation : Correlation) :
    ((Commit.writeCheckpoint correlation).rows i k).Started i := by
  simp only [Commit.rows]
  split
  · exact ⟨h.change,h.guard,h.ended,h.uncalled⟩
  · exact h

theorem Ready.fresh {cp : Option Checkpoint} (h : k.Ready i cp) (ho : k.Owner i) : k.Fresh i :=
  h.toStarted.fresh ho

end Rows

/-- The guard's row exists, and nobody has armed or settled it. -/
structure Rows.Asked (cp : Checkpoint) (k : Rows) : Prop where
  change : k.change = none
  ended : k.ended = false
  checkpoint : k.checkpoint = some cp
  guard : ∃ g, k.guard = some g ∧ g.armed = false ∧ g.settled = none

theorem Rows.Asked.fresh {i : RequestId} {cp : Checkpoint} {k : Rows} (h : k.Asked cp) (ho : k.Owner i) :
    k.Fresh i := ⟨ho,h.change,h.ended⟩

theorem Rows.Ready.insertGuard {i : RequestId} {s : Subject} {cp : Checkpoint} {k : Rows} (h : k.Ready i (some cp))
    (hcp : s.Prepared (some cp)) (hg : s.preview.isGuarded) : (Commit.insertGuard.rows i k).Asked cp := by
  obtain ⟨e,he⟩ := Option.isSome_iff_exists.mp (s.preview.guarded_evidence (of_decide_eq_true hg))
  have hcpe : cp.evidence = some e := hcp.2.trans he
  have hk := h.checkpoint rfl
  have hrow : (Commit.insertGuard.rows i k).guard =
      some ⟨k.preview.guardWindow,e,.reversal i,false,none,none,false,none⟩ := by
    simp only [Commit.rows,hk,hcpe,Option.bind_some,Option.map_some]
  exact {
    change := h.change
    ended := h.ended
    checkpoint := hk
    guard := ⟨_,hrow,rfl,rfl⟩ }

namespace Service

open Serves

variable {q : Caller} {i : RequestId} {s : Subject} {run : RunRecord}

theorem serves_correlateTarget (hrun : run.Of s) : Serves q i s (Owns i (Rows.Started i)) (correlateTarget run)
    (Yield fun _ => Owns i (Rows.Started i)) := by
  have hfailed : ∀ e, Serves q i s (Owns i fun _ => True) (throw e : Service Correlation)
      (Yield fun _ => Owns i (Rows.Started i)) := fun _ => Owns.error
  have htry : Serves q i s (Owns i (Rows.Started i))
      (tryCatch (correlate run.id) fun e => do commit run.id (.failCorrelation run.state); throw e)
      (Yield fun _ => Owns i (Rows.Started i)) := by
    refine Serves.tryCatch (reads (correlate_reads _) (Owns.stable i _)) (fun c => ?_) fun e => ?_
    · exact Owns.ret fun _ hk ha => ⟨_,hk,ha⟩
    · exact Owns.commit _ hrun.id rfl (fun _ ho hk => hk.fresh ho) (fun _ _ _ => trivial) (hfailed e) fun _ => Owns.error
  refine andThen _ htry fun c => ?_
  have hret : Serves q i s (Owns i (Rows.Started i)) (.ret (.ok c)) (Yield fun _ => Owns i (Rows.Started i)) :=
    Owns.ret fun _ hk ha => ⟨_,hk,ha⟩
  exact Owns.commit _ hrun.id rfl (fun _ _ _ => trivial) (fun _ _ hk => hk) hret fun _ => Owns.error

theorem serves_arm (hrun : run.Of s) : Serves q i s (Owns i (Rows.Started i)) (arm run)
    (Yield fun cp x => s.Prepared (some cp) ∧ Owns i (Rows.Ready i (some cp)) x) := by
  have hwrite : Serves q i s (Owns i (Rows.Started i)) (do
      let correlation ← correlate run.id
      commit run.id (.writeCheckpoint correlation)) fun _ => Owns i (Rows.Started i) := by
    refine Owns.gate (correlate_reads _) (fun c => ?_) fun e => Serves.ret (Owns.stable i _) fun _ hx => hx
    exact Owns.lastCommit _ hrun.id rfl (fun _ ho hk => hk.fresh ho)
      (fun _ _ hk => hk.writeCheckpoint c) id fun _ => id
  have hrefused : ∀ code, Serves q i s (Owns i fun _ => True) (refuse code : Service Unit)
      (Yield fun _ => Owns i (Rows.Started i)) := fun _ => Owns.error
  unfold arm
  refine andThen (fun _ => Owns i (Rows.Started i)) ?_ fun _ => ?_
  · refine Serves.tryCatch hwrite (fun _ => Owns.ret fun _ hk ha => ⟨_,hk,ha⟩) fun e => ?_
    refine Owns.commit (fun _ => True) hrun.id rfl (fun _ ho hk => hk.fresh ho) (fun _ _ _ => trivial) ?_ fun _ => Owns.error
    cases e <;> exact hrefused _
  rw [hrun.id]
  refine Serves.checkpoint (Owns.stable i _) fun checkpoint => ?_
  cases checkpoint with
  | none => exact Serves.pre Owns.error fun _ hx => hx.1
  | some cp =>
    refine Serves.extract (fun {x} hx hc => ?_) fun (hcp : s.Prepared (some cp)) => ?_
    · obtain ⟨hch,_,he⟩ := hx.coherent.checkpoint cp hc.2.symm
      rw [hx.preview] at hch he
      exact ⟨hch,he⟩
    · have hret : Serves q i s (Owns i (Rows.Ready i (some cp))) (.ret (.ok cp))
          (Yield fun cp x => s.Prepared (some cp) ∧ Owns i (Rows.Ready i (some cp)) x) :=
        Owns.ret fun _ hk ha => ⟨hcp,_,hk,ha⟩
      refine hret.pre fun _ hx => ?_
      obtain ⟨⟨k,hk,ha⟩,hc⟩ := hx
      exact ⟨k,{ hk with checkpoint := fun _ => ha.checkpoint.symm.trans hc.symm },ha⟩

theorem serves_prepare (hrun : run.Of s) : Serves q i s (Owns i (Rows.Started i)) (prepare run)
    (Yield fun prepared x => s.Prepared prepared.1 ∧ Owns i (Rows.Ready i prepared.1) x) := by
  unfold prepare
  split
  · refine andThen _ (serves_arm hrun) fun cp => ?_
    refine Serves.extract (fun _ hx => hx.1) fun hcp => ?_
    have hret : Serves q i s (Owns i (Rows.Ready i (some cp))) (.ret (.ok (some cp,cp.correlation)))
        (Yield fun prepared x => s.Prepared prepared.1 ∧ Owns i (Rows.Ready i prepared.1) x) :=
      Owns.ret fun _ hk ha => ⟨hcp,_,hk,ha⟩
    exact hret.pre fun _ hx => hx.2
  · next harms =>
    refine andThen _ (serves_correlateTarget hrun) fun c => ?_
    have hprepared : s.Prepared none := by
      rw [hrun.preview] at harms
      exact eq_false_of_ne_true harms
    exact Owns.ret fun _ hk ha => ⟨hprepared,_,{ hk with checkpoint := fun h => nomatch h },ha⟩

/-- A guard was refused: whether one runs anyway is found out, and the Run ends unwritten. -/
theorem serves_abandonGuard (hrun : run.Of s) {cp : Checkpoint} {code : String} {Q : Unit → Rows → Prop} :
    Serves q i s (Owns i (Rows.Asked cp)) (do abandonGuard run; refuse code : Service Unit) (Yield Q) := by
  unfold abandonGuard
  simp only [Program.bind_assoc]
  have hrefuse : Serves q i s (Owns i fun _ => True) (refuse code : Service Unit) (Yield Q) := Owns.error
  have hfail : Serves q i s (Owns i fun k => k.change = none ∧ k.ended = false) (do
      commit run.id (.failGuardArming run.state)
      refuse code) (Yield Q) :=
    Owns.commit _ hrun.id rfl (fun _ ho hk => ⟨ho,hk⟩) (fun _ _ _ => trivial) hrefuse fun _ => Owns.error
  have hsettle : ∀ report, Serves q i s (Owns i fun k => k.Asked cp ∧ .guardReleased i report ∈ k.journal) (do
      commit run.id (.settleAbandoned report)
      commit run.id (.failGuardArming run.state)
      refuse code) (Yield Q) := fun report =>
    Owns.commit _ hrun.id rfl (fun _ ho hk => ⟨hk.1.fresh ho,hk.2,hk.1.guard⟩)
      (fun _ _ hk => ⟨hk.1.change,hk.1.ended⟩) hfail fun _ => Owns.error
  refine Owns.disarmGuard _ hrun.id ?_ ?_ hsettle
  · intro k _ ho hk
    obtain ⟨g,hg,hga,hgs⟩ := hk.guard
    exact ⟨by simp [hg],.inl ⟨hk.fresh ho,g,hg,hga,hgs⟩⟩
  · exact fun report _ _ _ hk => ⟨⟨hk.change,hk.ended,hk.checkpoint,hk.guard⟩,List.mem_cons_self⟩

theorem serves_armGuard (hrun : run.Of s) {cp : Option Checkpoint} (hcp : s.Prepared cp)
    (hg : run.preview.isGuarded) : Serves q i s (Owns i (Rows.Ready i cp)) (armGuard run cp)
      (Yield fun _ => Owns i (Rows.Covered i s cp)) := by
  rw [hrun.preview] at hg
  unfold armGuard
  cases cp with
  | none => exact Owns.error
  | some cp =>
    refine Owns.gate ⟨rfl,fun _ => trivial⟩ (fun confirmation => ?_) fun _ => Owns.error
    split
    · exact Owns.error
    have hanswer : ∀ answer : Except String Unit, Serves q i s (Owns i fun k => k.Asked cp ∧
        (∀ p a o l, .mutated i p a o l ∉ k.callsOf i) ∧ (answer = .ok () → .guardAsked i true ∈ k.journal))
        (guardAnswered run answer) (Yield fun _ => Owns i (Rows.Covered i s (some cp))) := by
      intro answer
      cases answer with
      | error code => exact Owns.weaken (serves_abandonGuard hrun) fun _ hk => hk.1
      | ok _ =>
        refine Owns.lastCommit _ hrun.id rfl ?_ ?_ id fun _ _ _ => trivial
        · exact fun _ ho hk => ⟨hk.1.fresh ho,hk.2.2 rfl,hk.1.guard⟩
        · intro k _ _ hk
          obtain ⟨g,hgk,_,hgs⟩ := hk.1.guard
          exact {
            change := hk.1.change
            ended := hk.1.ended
            checkpoint := fun _ => hk.1.checkpoint
            guard := fun _ => ⟨_,congrArg (Option.map _) hgk,rfl,hgs⟩
            undispatched := hk.2.1 }
    have hask : Serves q i s (Owns i fun k => k.Asked cp ∧ k.callsOf i = []) (do
        let answer ← ask (.armGuard run.id ⟨run.id,run.object,cp.desired,cp.before,run.preview.guardWindow⟩)
        guardAnswered run answer) (Yield fun _ => Owns i (Rows.Covered i s (some cp))) := by
      refine Owns.armGuard _ hrun.id ⟨hrun.id,hrun.object,cp.field,hcp.1⟩ ?_ ?_ hanswer
      · intro k hs ho hk
        refine ⟨hk.1.fresh ho,by rw [hs.preview]; exact hg,fun hc => ?_,hk.1.guard⟩
        have hmem := (Rows.mem_callsOf rfl).mpr hc
        rw [hk.2] at hmem
        cases hmem
      · intro k held answer _ _ hk hh
        refine ⟨⟨hk.1.change,hk.1.ended,hk.1.checkpoint,hk.1.guard⟩,fun p a o l hc => ?_,fun ha => ?_⟩
        · have hmem : Call.mutated i p a o l ∈ Call.guardAsked i held :: k.callsOf i := by
            simpa [Rows.callsOf,Call.request?] using hc
          simp [hk.2] at hmem
        · rw [hh ha]; exact List.mem_cons_self
    exact Owns.commit _ hrun.id rfl (fun hs ho hk => ⟨hk.fresh ho,by rw [hs.preview]; exact hg⟩)
      (fun _ _ hk => ⟨hk.insertGuard hcp hg,hk.uncalled⟩) hask fun _ => Owns.error

end Service
end LocalPlane
