import LocalPlane.JournalReader

/-!
# Answers that are accepted

What is demanded of an answer is stated for the answer itself, and an answer that meets it is
accepted as JSON. How long the text of an answer is depends on its entries alone, up to what
the others are bounded by, so that a first entry always finds room.
-/

set_option linter.dupNamespace false

namespace LocalPlane
namespace ServiceJournal
open LineProtocol (Json Fields)
open CivilTime
open JsonText hiding Text

section Size

variable {a : Answer} {e : Entry × Bool}

def flagLength (truncated : Bool) : ℕ := if truncated then 4 else 5

/-- The text of an answer without its status, its mark and its entries. -/
def frameLength (a : Answer) : ℕ :=
  (dumps (spelled? a.canonicalId)).length + (dumps (spelled a.retrievedAt)).length + (dumps (spelled a.since)).length +
    (dumps (spelled? a.bootId)).length + (dumps (.str a.coverage.text)).length + (dumps (.arr (a.gaps.map .str))).length + 109

theorem length_encode (a : Answer) : (encode a.toJson).length =
    frameLength a + (dumps (.str a.status.text)).length + flagLength a.truncated + (dumpsItems (a.entries.map Entry.toJson)).length := by
  have hflag : (dumps (.bool a.truncated)).length = flagLength a.truncated := by cases a.truncated <;> rfl
  have hkeys : answerKeys.map (fun key => (quoted key.toList).length) = [14,8,14,7,9,11,9,10,6] := by decide +kernel
  simp only [answerKeys,List.map_cons,List.map_nil,List.cons.injEq,and_true] at hkeys
  obtain ⟨h1,h2,h3,h4,h5,h6,h7,h8,h9⟩ := hkeys
  rw [encode,Answer.toJson]
  simp only [length_dumps_obj,length_dumpsFields_cons,length_dumpsFields_single,h1,h2,h3,h4,h5,h6,h7,h8,h9,hflag,
    length_dumps_arr (a.entries.map _),frameLength]
  omega

theorem length_spelled {text : Text} : (dumps (spelled text)).length ≤ 6 * Utf8.size text + 2 := by
  rw [spelled,dumps,String.toList_ofList]
  exact length_quoted text

theorem length_spelled_le {text : Text} {n : ℕ} (h : text.length ≤ n) : (dumps (spelled text)).length ≤ 12 * n + 2 := by
  rw [spelled,dumps,String.toList_ofList]
  have := length_quoted_le text
  omega

theorem length_spelled? {text : Option Text} {n : ℕ} (h : ∀ t ∈ text, t.length ≤ n) : (dumps (spelled? text)).length ≤ 12 * n + 4 := by
  cases text with
  | none => simp [spelled?,dumps]
  | some t =>
    have := length_spelled_le (h t rfl)
    rw [spelled?]
    omega

set_option maxRecDepth 4096 in
theorem length_gap : ∀ gap ∈ scopeGaps ++ [accessGap] ++ JournalStatus.all.filterMap JournalStatus.reason, gap.toList.length ≤ 130 := by
  have hspelled {text : Text} (h : text.length ≤ 130) : (String.ofList text).toList.length ≤ 130 := by rwa [String.toList_ofList]
  simp only [scopeGaps,accessGap,JournalStatus.all,JournalStatus.reason,List.filterMap_cons,List.filterMap_nil,List.cons_append,List.nil_append]
  repeat refine List.forall_mem_cons.mpr ⟨hspelled (by decide),?_⟩
  simp

theorem gapsOf_allowed (status : JournalStatus) (coverage : Coverage) :
    ∀ gap ∈ gapsOf status coverage, gap ∈ scopeGaps ++ [accessGap] ++ JournalStatus.all.filterMap JournalStatus.reason := by
  intro gap hgap
  simp only [gapsOf,List.mem_append,List.mem_filterMap] at hgap ⊢
  obtain (hgap | hgap) | hgap := hgap
  · exact .inl (.inl hgap)
  · split at hgap
    · exact .inl (.inr hgap)
    · cases hgap
  · exact .inr ⟨status,by cases status <;> decide,Option.mem_toList.mp hgap⟩

theorem length_gaps (status : JournalStatus) (coverage : Coverage) :
    (dumps (.arr ((gapsOf status coverage).map .str))).length ≤ 8000 := by
  have hitems : ∀ item ∈ (gapsOf status coverage).map Json.str, (dumps item).length ≤ 1562 := by
    intro item hitem
    obtain ⟨gap,hgap,rfl⟩ := List.mem_map.mp hitem
    have := length_gap gap (gapsOf_allowed status coverage gap hgap)
    have := length_quoted_le gap.toList
    rw [dumps]
    omega
  have hcount : (gapsOf status coverage).length ≤ 5 := by cases status <;> cases coverage <;> decide
  have := length_dumpsItems hitems
  rw [length_dumps_arr]
  rw [List.length_map] at this
  omega

theorem length_status (status : JournalStatus) : (dumps (.str status.text)).length ≤ 20 := by
  cases status <;> decide +kernel

theorem length_coverage (coverage : Coverage) : (dumps (.str coverage.text)).length ≤ 20 := by
  cases coverage <;> decide +kernel

theorem length_of_id128 {text : Text} (h : id128 text = true) : text.length = 32 := by
  simp only [id128,Bool.and_eq_true,decide_eq_true_eq] at h
  exact h.1

theorem length_le_size (text : Text) : text.length ≤ Utf8.size text := by
  induction text with
  | nil => exact Nat.zero_le _
  | cons c text ih =>
    have := Utf8.charSize_pos c
    rw [List.length_cons,Utf8.size_cons]
    omega

theorem length_of_validService {unit : Text} (h : validService unit = true) : unit.length ≤ 255 := by
  simp only [validService,Bool.and_eq_true,decide_eq_true_eq] at h
  exact (length_le_size unit).trans h.1.2

/-- An entry that may stand in an answer of this window. -/
structure Entry.WellFormed (e : Entry) (boot : Text) (now : Reading) : Prop where
  timestamp : ∃ t : CivilTime.Instant, now.since.micros ≤ t.micros ∧ t.micros ≤ now.instant.micros ∧ e.timestamp = isoformat t
  priority : ∀ text ∈ e.priority, text ∈ priorities
  message : ∀ text ∈ e.message, Utf8.size text ≤ messageBytes
  boot : e.bootId = boot
  invocation : ∀ text ∈ e.invocationId, id128 text = true

theorem length_message {message : Option Text} (h : ∀ text ∈ message, Utf8.size text ≤ messageBytes) :
    (dumps (spelled? message)).length ≤ 6 * messageBytes + 4 := by
  cases message with
  | none => simp [spelled?,dumps]
  | some text =>
    have := h text rfl
    have := @length_spelled text
    rw [spelled?]
    omega

/-- No entry is long. -/
theorem length_entry {e : Entry} {boot : Text} {now : Reading} (h : e.WellFormed boot now) (hboot : id128 boot = true) :
    (dumps e.toJson).length ≤ 30000 := by
  obtain ⟨t,-,-,htime⟩ := h.timestamp
  have hkeys : entryKeys.map (fun key => (quoted key.toList).length) = [11,10,9,9,15] := by decide +kernel
  simp only [entryKeys,List.map_cons,List.map_nil,List.cons.injEq,and_true] at hkeys
  obtain ⟨h1,h2,h3,h4,h5⟩ := hkeys
  have htimestamp : (dumps (spelled e.timestamp)).length ≤ 12 * 32 + 2 := length_spelled_le (htime ▸ length_isoformat t)
  have hpriority : (dumps (spelled? e.priority)).length ≤ 12 * 1 + 4 := length_spelled? fun text htext => by
    have all : ∀ text ∈ priorities, text.length ≤ 1 := by decide
    exact all text (h.priority text htext)
  have hbootId : (dumps (spelled e.bootId)).length ≤ 12 * 32 + 2 := length_spelled_le (h.boot ▸ (length_of_id128 hboot).le)
  have hinvocation : (dumps (spelled? e.invocationId)).length ≤ 12 * 32 + 4 :=
    length_spelled? fun text htext => (length_of_id128 (h.invocation text htext)).le
  have hmessage := length_message h.message
  rw [Entry.toJson,length_dumps_obj]
  simp only [length_dumpsFields_cons,length_dumpsFields_single,h1,h2,h3,h4,h5]
  simp only [messageBytes] at hmessage
  omega

/-- What an answer of this window for the unit holds beside its size. -/
structure Answer.Framed (a : Answer) (unit : Text) (now : Reading) : Prop where
  canonical : ∀ name ∈ a.canonicalId, name = unit ∧ unit.length ≤ 255
  retrieved : a.retrievedAt = isoformat now.instant
  since : a.since = isoformat now.since
  boot : ∀ boot ∈ a.bootId, id128 boot = true
  gaps : ∃ status, a.gaps = gapsOf status a.coverage

theorem length_frame {unit : Text} {now : Reading} (h : a.Framed unit now) : frameLength a ≤ 13000 := by
  have hcanonical : (dumps (spelled? a.canonicalId)).length ≤ 12 * 255 + 4 := length_spelled? fun name hname => by
    obtain ⟨rfl,hlength⟩ := h.canonical name hname
    exact hlength
  have hretrieved : (dumps (spelled a.retrievedAt)).length ≤ 12 * 32 + 2 := length_spelled_le (h.retrieved ▸ length_isoformat _)
  have hsince : (dumps (spelled a.since)).length ≤ 12 * 32 + 2 := length_spelled_le (h.since ▸ length_isoformat _)
  have hboot : (dumps (spelled? a.bootId)).length ≤ 12 * 32 + 4 := length_spelled? fun boot hb => (length_of_id128 (h.boot boot hb)).le
  have hcoverage := length_coverage a.coverage
  obtain ⟨status,hgaps⟩ := h.gaps
  have hlength := length_gaps status a.coverage
  rw [frameLength,hgaps]
  omega

/-- An answer with at most one entry is well below the bound. -/
theorem length_short {unit boot : Text} {now : Reading} (h : a.Framed unit now) (hboot : id128 boot = true)
    (hentries : a.entries.length ≤ 1) (hall : ∀ e ∈ a.entries, e.WellFormed boot now) : (encode a.toJson).length ≤ outputBytes - 1 := by
  have hframe := length_frame h
  have hstatus := length_status a.status
  have hflag : flagLength a.truncated ≤ 5 := by cases a.truncated <;> decide
  have hitems : (dumpsItems (a.entries.map Entry.toJson)).length ≤ 30000 := by
    cases hcase : a.entries with
    | nil => simp [dumpsItems]
    | cons e rest =>
      rw [hcase] at hentries hall
      obtain rfl : rest = [] := List.eq_nil_of_length_eq_zero (by simpa using hentries)
      exact length_entry (hall e List.mem_cons_self) hboot
  rw [length_encode]
  show _ ≤ 256 * 1024 - 1
  omega

end Size

section Accepted

/-- What is demanded of an answer for the unit, of the answer itself. -/
structure Answer.WellFormed (a : Answer) (unit : Text) (now : Reading) : Prop extends a.Framed unit now where
  size : (encode a.toJson).length ≤ outputBytes
  count : a.entries.length ≤ maxEntries
  entries : ∀ e ∈ a.entries, ∃ boot, a.bootId = some boot ∧ e.WellFormed boot now
  read : a.status = .ok ∨ a.status = .empty → a.coverage ≠ .unknown ∧ (a.status = .empty → a.coverage = .complete) ∧
    a.bootId ≠ none ∧ a.canonicalId = some unit ∧ (a.status = .ok ↔ a.entries ≠ [])
  unread : ¬(a.status = .ok ∨ a.status = .empty) → a.entries = [] ∧ a.truncated = false ∧ a.coverage ≠ .complete

theorem nullOr_spelled? {p : Text → Bool} {text : Option Text} (h : ∀ t ∈ text, p t = true) : nullOr p (spelled? text) = true := by
  cases text with
  | none => rfl
  | some t =>
    rw [spelled?,spelled,nullOr,String.toList_ofList]
    exact h t rfl

theorem instantOf_spelled (t : CivilTime.Instant) : instantOf (spelled (isoformat t)) = some ⟨true,t.micros⟩ := by
  rw [spelled,instantOf,String.toList_ofList,fromisoformat_isoformat]

theorem validEntry_toJson {e : Entry} {boot : Text} {now : Reading} (h : e.WellFormed boot now) :
    validEntry (spelled boot) ⟨true,now.since.micros⟩ ⟨true,now.instant.micros⟩ e.toJson = true := by
  obtain ⟨t,hsince,hnow,htime⟩ := h.timestamp
  have hpriority : nullOr (· ∈ priorities) (spelled? e.priority) = true := nullOr_spelled? fun text htext => decide_eq_true (h.priority text htext)
  have hmessage : nullOr (Utf8.size · ≤ messageBytes) (spelled? e.message) = true :=
    nullOr_spelled? fun text htext => decide_eq_true (h.message text htext)
  have hinvocation : nullOr id128 (spelled? e.invocationId) = true := nullOr_spelled? h.invocation
  have hinstant := instantOf_spelled t
  simp [Entry.toJson,validEntry,sameKeys,entryKeys,get,List.lookup_cons,hpriority,hmessage,hinvocation,h.boot,htime,hinstant,hsince,hnow]

theorem coverage_text_inj {coverage coverage' : Coverage} : coverage.text = coverage'.text ↔ coverage = coverage' := by
  cases coverage <;> cases coverage' <;> decide

theorem status_text_inj {status status' : JournalStatus} : status.text = status'.text ↔ status = status' := by
  cases status <;> cases status' <;> decide

theorem accessGap_mem (status : JournalStatus) (coverage : Coverage) : accessGap ∈ gapsOf status coverage ↔ coverage = .partly := by
  have hscope : accessGap ∉ scopeGaps := by simp [accessGap,scopeGaps]
  have hreason : accessGap ∉ status.reason.toList := by cases status <;> simp [accessGap,JournalStatus.reason]
  by_cases h : coverage = .partly
  · simp [gapsOf,h]
  · simp [gapsOf,h,hscope,hreason]

theorem coherent_toJson {a : Answer} {unit : Text} {now : Reading} (h : a.WellFormed unit now) (f : Fields)
    (hcoverage : get f "coverage" = .str a.coverage.text) (hboot : get f "boot_id" = spelled? a.bootId)
    (hcanonical : get f "canonical_id" = spelled? a.canonicalId) :
    coherent a.status.text unit f a.truncated (a.entries.map Entry.toJson) = true := by
  have hok : a.status.text = "ok" ↔ a.status = .ok := @status_text_inj a.status .ok
  have hempty : a.status.text = "empty" ↔ a.status = .empty := @status_text_inj a.status .empty
  have hunknown : a.coverage.text = "unknown" ↔ a.coverage = .unknown := @coverage_text_inj a.coverage .unknown
  have hcomplete : a.coverage.text = "complete" ↔ a.coverage = .complete := @coverage_text_inj a.coverage .complete
  rw [coherent,hcoverage,hboot,hcanonical]
  by_cases hread : a.status = .ok ∨ a.status = .empty
  · obtain ⟨hcov,hfull,hb,hc,hentries⟩ := h.read hread
    rw [if_pos (by rwa [hok,hempty])]
    obtain ⟨boot,hboot⟩ := Option.ne_none_iff_exists'.mp hb
    have hflag : (decide (a.status = .ok) == !(a.entries.map Entry.toJson).isEmpty) = true := by
      by_cases hs : a.status = .ok
      · have := hentries.mp hs
        simp [hs,this]
      · have : a.entries = [] := by
          by_contra hne
          exact hs (hentries.mpr hne)
        simp [hs,this]
    have hstatus : a.status.text ≠ "empty" ∨ Json.str a.coverage.text = .str "complete" := by
      rw [ne_eq,hempty,Json.str.injEq,hcomplete]
      exact Decidable.imp_iff_not_or.mp hfull
    have hknown : Json.str a.coverage.text ≠ .str "unknown" := by rwa [ne_eq,Json.str.injEq,hunknown]
    have hnamed : spelled? a.bootId ≠ .null ∧ spelled? a.canonicalId = spelled unit := by
      rw [hboot,hc]
      exact ⟨by simp [spelled?,spelled],rfl⟩
    simp only [Bool.and_eq_true,Bool.or_eq_true,decide_eq_true_eq,hok]
    exact ⟨⟨⟨⟨hknown,hstatus⟩,hnamed.1⟩,hnamed.2⟩,hflag⟩
  · obtain ⟨hentries,htruncated,hcov⟩ := h.unread hread
    rw [if_neg (by rwa [hok,hempty])]
    simp [hentries,htruncated,hcomplete,hcov]

theorem toJson_fields (a : Answer) : ∃ f, a.toJson = .obj f ∧ sameKeys f answerKeys = true ∧
    get f "canonical_id" = spelled? a.canonicalId ∧ get f "status" = .str a.status.text ∧ get f "retrieved_at" = spelled a.retrievedAt ∧
    get f "since" = spelled a.since ∧ get f "boot_id" = spelled? a.bootId ∧ get f "truncated" = .bool a.truncated ∧
    get f "entries" = .arr (a.entries.map Entry.toJson) ∧ get f "coverage" = .str a.coverage.text ∧
    get f "gaps" = .arr (a.gaps.map .str) := by
  refine ⟨_,rfl,?_⟩
  simp [sameKeys,answerKeys,get,List.lookup_cons]

/-- An answer that meets what is demanded is accepted. -/
theorem validate_toJson {a : Answer} {unit : Text} {now : Reading} (h : a.WellFormed unit now) : validate a.toJson unit = true := by
  obtain ⟨gapStatus,hgaps⟩ := h.gaps
  have hstatus : Json.str a.status.text ∈ JournalStatus.all.map fun status => Json.str status.text :=
    List.mem_map.mpr ⟨a.status,by cases a.status <;> decide,rfl⟩
  have hcanonical : nullOr (· = unit) (spelled? a.canonicalId) = true := nullOr_spelled? fun name hname => decide_eq_true (h.canonical name hname).1
  have hboot : nullOr id128 (spelled? a.bootId) = true := nullOr_spelled? h.boot
  have hcovered : Json.str a.coverage.text ∈ coverages := by cases a.coverage <;> decide
  have hallowed : ∀ gap ∈ a.gaps, Json.str gap ∈ allowedGaps := fun gap hgap => List.mem_map_of_mem (gapsOf_allowed _ _ gap (hgaps ▸ hgap))
  have haccess : (decide (Json.str a.coverage.text = .str "partial") == decide (Json.str accessGap ∈ a.gaps.map Json.str)) = true := by
    have hpartly : a.coverage.text = "partial" ↔ a.coverage = .partly := @coverage_text_inj a.coverage .partly
    have hmem : Json.str accessGap ∈ a.gaps.map Json.str ↔ a.coverage = .partly := by
      rw [hgaps,← accessGap_mem gapStatus a.coverage]
      simp
    simp only [Json.str.injEq,hpartly,hmem,beq_self_eq_true]
  have hspan : (now.instant.micros : ℤ) - now.since.micros = window := by
    have := now.span
    omega
  have hcoherent := coherent_toJson h
  have hentries : ∀ e ∈ a.entries, validEntry (spelled? a.bootId) ⟨true,now.since.micros⟩ ⟨true,now.instant.micros⟩ e.toJson = true := by
    intro e he
    obtain ⟨boot,hb,hwell⟩ := h.entries e he
    rw [hb]
    exact validEntry_toJson hwell
  have hsize := h.size
  obtain ⟨f,hf,hkeys,h1,h2,h3,h4,h5,h6,h7,h8,h9⟩ := toJson_fields a
  have hretrieved : instantOf (get f "retrieved_at") = some ⟨true,now.instant.micros⟩ := by rw [h3,h.retrieved,instantOf_spelled]
  have hsince : instantOf (get f "since") = some ⟨true,now.since.micros⟩ := by rw [h4,h.since,instantOf_spelled]
  rw [hf] at hsize ⊢
  have hentriesAll : (a.entries.map Entry.toJson).all (validEntry (spelled? a.bootId) ⟨true,now.since.micros⟩ ⟨true,now.instant.micros⟩) = true := by
    simpa [List.all_eq_true] using hentries
  have hgapsAll : (a.gaps.map Json.str).all (fun gap => decide (gap ∈ allowedGaps)) = true := by
    simpa [List.all_eq_true] using hallowed
  have hcount : (a.entries.map Entry.toJson).length ≤ maxEntries := by simpa using h.count
  rw [validate]
  simp only [hretrieved,hsince,h2,h6,h7,h9]
  simp only [hkeys,hsize,hstatus,h1,hcanonical,h5,hboot,h8,hcovered,haccess,hspan,hgapsAll,hcount,hentriesAll,
    hcoherent f h8 h5 h1,decide_true,Bool.and_self]

end Accepted

end ServiceJournal
end LocalPlane
