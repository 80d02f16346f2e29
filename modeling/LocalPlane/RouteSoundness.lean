import LocalPlane.RouteLookup

/-!
# What a route observation rests on

The message that decides is an error with a code or a route. Its answer is sound exactly when
an error that decides can be read, and a route that decides is of the family that was asked
about and stands in a datagram that is messages and nothing else.
-/

set_option linter.dupNamespace false

namespace LocalPlane
namespace RouteLookup

open Netlink

/-! The messages of a datagram -/

def kindOf (record : Bytes) : ℕ := unsigned 2 record 4
def bodyOf (record : Bytes) : Bytes := record.drop headerSize

theorem unsigned_take {width n offset : ℕ} {b : Bytes} (h : offset + width ≤ n) :
    unsigned width (b.take n) offset = unsigned width b offset := by
  have hn : n - offset = width + (n - offset - width) := by omega
  unfold unsigned
  rw [List.drop_take,List.take_take,Nat.min_eq_left (by omega)]

/-- What is split off a datagram is among its records. -/
theorem messagesFrom_records {bound : ℕ} {reply : Bytes} {found : List (ℕ × Bytes)} (h : messagesFrom bound reply = .ok found) :
    ∀ m ∈ found, ∃ record ∈ messageLayout.records reply, m = (kindOf record,bodyOf record) := by
  induction bound generalizing reply found with
  | zero =>
    cases h
    simp
  | succ bound ih =>
    rw [messagesFrom] at h
    split at h
    · cases h
      simp
    · next hlen =>
      dsimp only at h
      split at h
      · cases h
      · next hfit =>
        split at h
        · cases h
          simp
        · have hfits : messageLayout.Fits reply := by
            simp only [not_or,Nat.not_lt] at hlen hfit
            exact ⟨hlen,hfit.1,hfit.2⟩
          cases hrest : messagesFrom bound (reply.drop ((unsigned 4 reply 0 + 3) / 4 * 4)) with
          | error detail => simp [hrest,Except.map] at h
          | ok rest =>
            simp only [hrest,Except.map,Except.ok.injEq] at h
            subst h
            have hrecords : messageLayout.records reply = reply.take (unsigned 4 reply 0) ::
                messageLayout.records (reply.drop ((unsigned 4 reply 0 + 3) / 4 * 4)) := by
              rw [Layout.records,Layout.walk_step hfits]
              rfl
            intro m hm
            rw [hrecords]
            cases hm with
            | head =>
              refine ⟨_,List.mem_cons_self ..,?_⟩
              have hstated : headerSize ≤ unsigned 4 reply 0 := hfits.2.1
              rw [kindOf,bodyOf,unsigned_take (Nat.le_trans (by decide) hstated)]
            | tail _ hm =>
              obtain ⟨record,hr,rfl⟩ := ih hrest m hm
              exact ⟨record,List.mem_cons_of_mem _ hr,rfl⟩

theorem messagesFrom_error {bound : ℕ} {reply : Bytes} {detail : ErrorDetail} (h : messagesFrom bound reply = .error detail) :
    ∃ declared remaining, detail = .malformed declared remaining := by
  induction bound generalizing reply with
  | zero => cases h
  | succ bound ih =>
    rw [messagesFrom] at h
    split at h
    · cases h
    · dsimp only at h
      split at h
      · cases h
        exact ⟨_,_,rfl⟩
      · split at h
        · cases h
        · cases hrest : messagesFrom bound (reply.drop ((unsigned 4 reply 0 + 3) / 4 * 4)) with
          | error detail' =>
            simp only [hrest,Except.map,Except.error.injEq] at h
            subst h
            exact ih hrest
          | ok rest => simp [hrest,Except.map] at h

/-! Soundness -/

/-- A message that decides: an error that is not an acknowledgement, or a route. -/
def Decides (m : ℕ × Bytes) : Prop := m.1 = nlmsgError ∧ (m.2.length < 4 ∨ signed32 m.2 0 ≠ 0) ∨ m.1 = rtmNewroute

instance (m : ℕ × Bytes) : Decidable (Decides m) := inferInstanceAs (Decidable (_ ∧ _ ∨ _))

/-- What an observation made of a datagram has to rest on. -/
structure Sound (family : AddressFamily) (reply : Bytes) (o : RouteObservation) : Prop where
  resolved : o.status = .resolved → (∃ records, messageLayout.Splits reply records) ∧
    ∃ record ∈ messageLayout.records reply, kindOf record = rtmNewroute ∧ o.route = routeFacts (bodyOf record) ∧
      (∃ facts, o.route = some facts ∧ facts.family = family) ∧ record <:+: reply ∧
      ∀ a ∈ attributes (bodyOf record), a.2 <:+: bodyOf record
  routed : o.route.isSome = true → o.status = .resolved ∧ o.error = none
  errors : ∀ number, o.error = some (.errno number) → o.route = none ∧
    (o.status = .unreachable ∨ o.status = .failed) ∧ ∃ record ∈ messageLayout.records reply,
      kindOf record = nlmsgError ∧ number ≠ 0 ∧ signed32 (bodyOf record) 0 = -number
  definite : o.status = .unreachable → ∃ number reason, o.error = some (.errno number) ∧ (number,reason) ∈ unreachable ∧
    o.reason = some reason

/-- The message that decides can be read: an error holds a code whose text can be asked for, and a
route is of the family asked about, in a datagram with nothing left over. -/
def Readable (family : AddressFamily) (reply : Bytes) (m : ℕ × Bytes) : Prop :=
  (m.1 = nlmsgError → 4 ≤ m.2.length ∧ signed32 m.2 0 ≠ -0x80000000) ∧
    (m.1 = rtmNewroute → ∀ facts, routeFacts m.2 = some facts → facts.family = family ∧ messageLayout.leftover reply = [])

section Observing

variable {destination : String} {family : AddressFamily} {observedAt : String} {kinds : List ℕ} {found : List (ℕ × Bytes)}

/-- The observation is that of the first message that decides. -/
theorem interpretFrom_eq : interpretFrom destination family observedAt kinds found =
    match found.find? (fun m => decide (Decides m)) with
    | none => some (noRoute destination family observedAt kinds)
    | some m => interpretFrom destination family observedAt kinds [m] := by
  induction found with
  | nil => rfl
  | cons m rest ih =>
    obtain ⟨kind,body⟩ := m
    by_cases hd : Decides (kind,body)
    · simp only [List.find?_cons,hd,decide_true]
      unfold interpretFrom
      rcases hd with ⟨(hk : kind = nlmsgError),(hb : body.length < 4 ∨ signed32 body 0 ≠ 0)⟩ | (hk : kind = rtmNewroute)
      · by_cases hlen : body.length < 4
        · simp [hk,hlen]
        · have hcode : signed32 body 0 ≠ 0 := hb.resolve_left hlen
          simp [hk,hlen,hcode]
      · have hapart : rtmNewroute ≠ nlmsgError := by decide
        simp only [hk,hapart,if_false,if_true]
    · have hskip : interpretFrom destination family observedAt kinds ((kind,body) :: rest) =
          interpretFrom destination family observedAt kinds rest := by
        simp only [Decides,not_or,not_and] at hd
        rw [interpretFrom]
        by_cases hk : kind = nlmsgError
        · obtain ⟨hlen,hcode⟩ := hd.1 hk
          rw [if_pos hk,if_neg hlen]
          simp [not_not.mp hcode]
        · rw [if_neg hk,if_neg hd.2]
      rw [hskip,ih,List.find?_cons]
      simp only [hd,decide_false]

theorem neg_bound (body : Bytes) : (0x80000000 ≤ -signed32 body 0) ↔ signed32 body 0 = -0x80000000 := by
  unfold signed32
  dsimp only
  split <;> omega

/-- An observation without a route and without an error number rests on nothing. -/
theorem sound_empty {reply : Bytes} {o : RouteObservation} (hs : o.status = .failed) (hr : o.route = none)
    (he : ∀ number, o.error ≠ some (.errno number)) : Sound family reply o where
  resolved h := by rw [hs] at h; cases h
  routed h := by rw [hr] at h; cases h
  errors number h := absurd h (he number)
  definite h := by rw [hs] at h; cases h

/-- An error with a code is reported as what it is. -/
theorem interpret_error {body : Bytes} {reply : Bytes} (hlen : 4 ≤ body.length) (hcode : signed32 body 0 ≠ 0)
    (hfits : signed32 body 0 ≠ -0x80000000) (hrecord : ∃ record ∈ messageLayout.records reply,
      kindOf record = nlmsgError ∧ bodyOf record = body) :
    ∃ o, interpretFrom destination family observedAt kinds [(nlmsgError,body)] = some o ∧ Sound family reply o := by
  obtain ⟨record,hmem,hkind,rfl⟩ := hrecord
  have hfits' : ¬0x80000000 ≤ -signed32 (bodyOf record) 0 := fun h => hfits ((neg_bound _).mp h)
  rw [interpretFrom,if_pos rfl,if_neg (Nat.not_lt.mpr hlen)]
  simp only [if_neg hcode,if_neg hfits']
  have herror (number : Int) (h : some (ErrorDetail.errno (-signed32 (bodyOf record) 0)) = some (.errno number)) :
      number ≠ 0 ∧ signed32 (bodyOf record) 0 = -number := by
    cases h
    omega
  cases hl : unreachable.lookup (-signed32 (bodyOf record) 0) with
  | some reason =>
    refine ⟨_,rfl,?_⟩
    constructor
    · intro h
      cases h
    · intro h
      cases h
    · intro number h
      obtain ⟨hne,heq⟩ := herror number h
      exact ⟨rfl,.inl rfl,record,hmem,hkind,hne,heq⟩
    · intro _
      obtain ⟨before,after,hlist,_⟩ := List.lookup_eq_some_iff.mp hl
      exact ⟨_,reason,rfl,by rw [hlist]; simp,rfl⟩
  | none =>
    refine ⟨_,rfl,?_⟩
    constructor
    · intro h
      cases h
    · intro h
      cases h
    · intro number h
      obtain ⟨hne,heq⟩ := herror number h
      exact ⟨rfl,.inr rfl,record,hmem,hkind,hne,heq⟩
    · intro h
      cases h

/-- A route of the family asked about is reported with what its own message holds. -/
theorem interpret_route {reply : Bytes} {record : Bytes} (hmem : record ∈ messageLayout.records reply)
    (hkind : kindOf record = rtmNewroute)
    (hfacts : ∀ facts, routeFacts (bodyOf record) = some facts → facts.family = family ∧ messageLayout.leftover reply = []) :
    ∃ o, interpretFrom destination family observedAt kinds [(rtmNewroute,bodyOf record)] = some o ∧ Sound family reply o := by
  have hapart : rtmNewroute ≠ nlmsgError := by decide
  rw [interpretFrom,if_neg hapart,if_pos rfl]
  cases hf : routeFacts (bodyOf record) with
  | none => exact ⟨_,rfl,sound_empty rfl rfl fun _ h => by cases h⟩
  | some facts =>
    obtain ⟨hfamily,hleft⟩ := hfacts facts hf
    refine ⟨_,rfl,?_⟩
    constructor
    · intro _
      refine ⟨⟨_,Layout.splits_iff.mpr ⟨rfl,hleft⟩⟩,record,hmem,hkind,hf.symm,⟨facts,rfl,hfamily⟩,
        (Layout.record_within hmem).1,?_⟩
      intro a ha
      obtain ⟨r,hr,rfl⟩ := List.mem_map.mp ha
      exact ((List.drop_suffix _ _).isInfix.trans (Layout.record_within hr).1).trans (List.drop_suffix _ _).isInfix
    · intro _
      exact ⟨rfl,rfl⟩
    · intro number h
      cases h
    · intro h
      cases h

/-- What a sound observation was made from can be read. -/
theorem readable_of_sound {reply record : Bytes} {o : RouteObservation}
    (ho : interpretFrom destination family observedAt kinds [(kindOf record,bodyOf record)] = some o)
    (hsound : Sound family reply o) : Readable family reply (kindOf record,bodyOf record) := by
  constructor
  · intro (hk : kindOf record = nlmsgError)
    rw [hk,interpretFrom,if_pos rfl] at ho
    constructor
    · by_contra hlen
      rw [if_pos (Nat.not_le.mp hlen)] at ho
      cases ho
    · intro (hcode : signed32 (bodyOf record) 0 = -0x80000000)
      by_cases hlen : (bodyOf record).length < 4
      · rw [if_pos hlen] at ho
        cases ho
      · rw [if_neg hlen] at ho
        simp [hcode] at ho
  · intro (hk : kindOf record = rtmNewroute) facts (hfacts : routeFacts (bodyOf record) = some facts)
    have hapart : rtmNewroute ≠ nlmsgError := by decide
    rw [hk,interpretFrom,if_neg hapart,if_pos rfl,hfacts] at ho
    obtain rfl := Option.some.inj ho
    obtain ⟨⟨records,hsplits⟩,_,_,_,_,⟨facts',hroute,hfamily⟩,_⟩ := hsound.resolved rfl
    obtain rfl : facts = facts' := Option.some.inj hroute
    exact ⟨hfamily,(Layout.splits_iff.mp hsplits).2⟩

/-- And what can be read is observed soundly. -/
theorem sound_of_readable {reply record : Bytes} (hmem : record ∈ messageLayout.records reply)
    (hdecides : Decides (kindOf record,bodyOf record)) (hreadable : Readable family reply (kindOf record,bodyOf record)) :
    ∃ o, interpretFrom destination family observedAt kinds [(kindOf record,bodyOf record)] = some o ∧ Sound family reply o := by
  rcases hdecides with ⟨hk,hcode⟩ | hk
  · obtain ⟨hlen,hfits⟩ := hreadable.1 hk
    have hcode' := hcode.resolve_left (Nat.not_lt.mpr hlen)
    simp only at hk hlen hfits hcode'
    rw [hk]
    exact interpret_error hlen hcode' hfits ⟨record,hmem,hk,rfl⟩
  · have hfacts := hreadable.2 hk
    simp only at hk
    rw [hk]
    exact interpret_route hmem hk hfacts

/-- A datagram is answered with a sound observation exactly when the message that decides can be
read. -/
theorem observe_sound_iff {reply : Bytes} :
    (∃ o, observeRoute destination family observedAt (.datagram reply) = some o ∧ Sound family reply o) ↔
      ∀ found, messages reply = .ok found → ∀ m, found.find? (fun m => decide (Decides m)) = some m →
        Readable family reply m := by
  rw [observeRoute,interpret]
  cases hmessages : messages reply with
  | error detail =>
    obtain ⟨declared,remaining,rfl⟩ := messagesFrom_error hmessages
    refine iff_of_true ⟨_,rfl,sound_empty rfl rfl fun _ h => by cases h⟩ ?_
    intro found h
    cases h
  | ok found =>
    simp only [Except.ok.injEq,forall_eq']
    rw [interpretFrom_eq]
    cases hfind : found.find? (fun m => decide (Decides m)) with
    | none =>
      refine iff_of_true ⟨_,rfl,sound_empty rfl rfl fun _ h => by cases h⟩ ?_
      intro m h
      cases h
    | some m =>
      simp only [Option.some.injEq,forall_eq']
      have hdecides : Decides m := by simpa using List.find?_some hfind
      obtain ⟨record,hmem,rfl⟩ := messagesFrom_records hmessages m (List.mem_of_find?_eq_some hfind)
      constructor
      · rintro ⟨o,ho,hsound⟩
        exact readable_of_sound ho hsound
      · exact sound_of_readable hmem hdecides

end Observing

/-- An error message that ends two bytes into its code. -/
def shortError : Bytes := [18,0,0,0,2,0,0,0,1,0,0,0,0,0,0,0] ++ [0,0]

/-- An error message without room for a code is not answered at all. -/
theorem short_error_raises : ¬∃ o, observeRoute "192.0.2.1" .inet "2026-01-01T00:00:00Z" (.datagram shortError) = some o ∧
    Sound .inet shortError o := by
  rintro ⟨o,ho,_⟩
  have hnone : observeRoute "192.0.2.1" .inet "2026-01-01T00:00:00Z" (.datagram shortError) = none := by decide
  rw [hnone] at ho
  cases ho

end RouteLookup
end LocalPlane
