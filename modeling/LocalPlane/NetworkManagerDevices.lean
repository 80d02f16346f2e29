import LocalPlane.EscapedFields
import LocalPlane.OwnershipConflicts
import LocalPlane.TextLines
import Mathlib.Data.Fintype.EquivFin
import Mathlib.Data.List.Infix
import Mathlib.Data.Set.Finite.Basic

/-!
# The device table of NetworkManager

Terse rows are read into records, and a link is answered from the record that names it. Rows
end at a line feed when they are printed and at every line break when they are read, and a row
that gives no record is dropped before anything is concluded from the records.
-/

set_option linter.dupNamespace false

namespace LocalPlane
namespace NetworkManager

open LineProtocol (Json Fields)
open TextLines Conflicted

abbrev Text := List Char

inductive CommandFailure where
  | notFound | timeout | osError
  deriving DecidableEq

structure CommandResult where
  returncode : Option Int
  stdout : Text
  error : Option String
  failure : Option CommandFailure

def CommandResult.ok (r : CommandResult) : Bool := r.error.isNone && r.returncode = some 0

/-- An empty value is read as an absent one. -/
def orNone (value : Text) : Json := if value = [] then .null else .str (String.ofList value)

def splitTerse (line : Text) : List Text := EscapedFields.split '\\' ':' line

def externalQualifier : Text := "(externally)".toList

/-- `raw_state.split(" (", 1)[0]` -/
def bareState : Text → Text
  | ' ' :: '(' :: _ => []
  | c :: state => c :: bareState state
  | [] => []

/-- The record of a row with these fields. -/
def deviceFields (device deviceType rawState connection connectionUuid : Text) : Fields :=
  [("device",.str (String.ofList device)),("device_type",orNone deviceType),("state",orNone (bareState rawState)),
    ("state_raw",orNone rawState),("external",.bool (externalQualifier <:+: rawState)),("connection",orNone connection),
    ("connection_uuid",orNone connectionUuid)]

/-- `_device_record` -/
def deviceRecord (line : Text) : Option Fields :=
  match splitTerse line with
  | device :: deviceType :: rawState :: connection :: connectionUuid :: _ =>
    if device = [] then none else some (deviceFields device deviceType rawState connection connectionUuid)
  | _ => none

def generalRow : List Text → Option (Option Bool × Option Text × Option Text)
  | running :: version :: state :: _ =>
    some (if running = [] then none else some (running.map Char.toLower = "running".toList),
      if version = [] then none else some version,if state = [] then none else some state)
  | _ => none

/-- `_parse_general`: whether the daemon runs, its version and its state, from the first whole row. -/
def parseGeneral (stdout : Text) : Option Bool × Option Text × Option Text :=
  ((splitlines stdout).findSome? fun line => generalRow (splitTerse line)).getD (none,none,none)

structure DeviceReading extends ProviderReading where
  version : Option Text
  daemonState : Option Text

def unreadable (status : ProviderStatus) (reason : String) (observedAt : Instant) : DeviceReading where
  provider := networkmanager
  source := "networkmanager.devices"
  status := status
  reason := some reason
  observedAt := observedAt
  records := []
  version := none
  daemonState := none

def failed (r : CommandResult) (observedAt : Instant) : DeviceReading :=
  unreadable .unavailable (if r.failure = some .timeout then "timeout" else "nmcli_failed") observedAt

/-- `NetworkManagerEvidenceProvider.read`, from what the two commands gave. -/
def read (general devices : CommandResult) (observedAt : Instant) : DeviceReading :=
  if general.failure = some .notFound then unreadable .absent "nmcli_absent" observedAt
  else if !general.ok then failed general observedAt
  else
    let (running,version,daemonState) := parseGeneral general.stdout
    if running = some false then unreadable .unavailable "daemon_not_running" observedAt
    else if !devices.ok then failed devices observedAt
    else
      { provider := networkmanager
        source := "networkmanager.devices"
        status := .ok
        reason := none
        observedAt := observedAt
        records := (splitlines devices.stdout).filterMap deviceRecord
        version := version
        daemonState := daemonState }

/-- One device as NetworkManager holds it. -/
structure Row where
  device : Text
  deviceType : Text
  state : Text
  connection : Text
  connectionUuid : Text
  named : device ≠ []

namespace Row

def values (r : Row) : List Text := [r.device,r.deviceType,r.state,r.connection,r.connectionUuid]

/-- A terse row: colons and backslashes in a value escaped. -/
def terse (r : Row) : Text :=
  EscapedFields.print '\\' ':' r.device [r.deviceType,r.state,r.connection,r.connectionUuid]

def record (r : Row) : Fields := deviceFields r.device r.deviceType r.state r.connection r.connectionUuid

/-- No value holds a character at which a line ends. -/
def Unbroken (r : Row) : Prop := ∀ value ∈ r.values, ∀ c ∈ value, lineBreak c = false

/-- A connection of its own is being applied to the device. -/
def Active (r : Row) : Prop :=
  bareState r.state = "connected".toList ∧ ¬externalQualifier <:+: r.state ∧ r.connectionUuid ≠ []

instance (r : Row) : Decidable r.Unbroken :=
  decidable_of_iff (r.values.all fun value => value.all fun c => !lineBreak c) (by simp [Unbroken])

instance (r : Row) : Decidable r.Active := inferInstanceAs (Decidable (_ ∧ _))

/-- A record that says of the device what the row said. -/
structure Reads (r : Row) (record : Fields) : Prop where
  device : fact record "device" = orNone r.device
  deviceType : fact record "device_type" = orNone r.deviceType
  state : fact record "state_raw" = orNone r.state
  connection : fact record "connection" = orNone r.connection
  connectionUuid : fact record "connection_uuid" = orNone r.connectionUuid

end Row

/-- The table, one row a line feed. -/
def printed (table : List Row) : Text := table.flatMap fun r => r.terse ++ ['\n']

def answered (stdout : Text) : CommandResult := ⟨some 0,stdout,none,none⟩

/-- The first command ran and does not report a stopped daemon. -/
structure Answering (general : CommandResult) : Prop where
  found : general.failure ≠ some .notFound
  ok : general.ok
  running : (parseGeneral general.stdout).1 ≠ some false

/-- The link is answered as one that NetworkManager does not list, and that question is closed. -/
def Unlisted (p : Provenance) : Prop :=
  ∃ source ∈ p.sources, source.provider = networkmanager ∧ source.outcome = "device_not_present" ∧ source.gap = false

/-- NetworkManager configures the link, or what it does is left open. -/
def Accounted (p : Provenance) : Prop :=
  (∃ claim ∈ p.claims, claim.provider = networkmanager ∧ claim.relation = .configuredBy) ∨
    ∃ source ∈ p.sources, source.provider = networkmanager ∧ source.gap = true

/-- The table is read row by row as it was printed. -/
def KeepsRows (table : List Row) : Prop :=
  ∀ general observedAt, Answering general →
    List.Forall₂ Row.Reads table (read general (answered (printed table)) observedAt).records

/-- No link with an active connection in the table goes without a claim or a gap. -/
def KeepsLinks (table : List Row) : Prop :=
  ∀ general observedAt (evidence : ProviderEvidence) facts,
    evidence.get networkmanager = some (read general (answered (printed table)) observedAt).toProviderReading →
    ∀ row ∈ table, row.Active → fact facts "name" = .str (String.ofList row.device) →
      Answering general → Accounted (deriveProvenance facts evidence)

/-- A row that gave no record keeps every link from being answered as not listed. -/
def NeverSettles (devices : CommandResult) : Prop :=
  ∀ general observedAt (evidence : ProviderEvidence) facts,
    evidence.get networkmanager = some (read general devices observedAt).toProviderReading →
    (∃ line ∈ splitlines devices.stdout, deviceRecord line = none) → ¬Unlisted (deriveProvenance facts evidence)

/-- Four bare colons, and something in front of the first. -/
def Whole (line : Text) : Prop := 4 ≤ EscapedFields.bare '\\' ':' false line ∧ line.head? ≠ some ':'

instance (line : Text) : Decidable (Whole line) := inferInstanceAs (Decidable (_ ∧ _))

/-- The first row of a device speaks for it. -/
def LeadActive (table : List Row) : Prop :=
  ∀ row ∈ table, row.Active → ∀ lead, table.find? (·.device = row.device) = some lead → lead.Active

section Rows

variable {line text : Text} {r : Row} {record : Fields} {table : List Row}

theorem orNone_inj {a b : Text} (h : orNone a = orNone b) : a = b := by
  unfold orNone at h
  split at h <;> split at h <;> simp_all [String.ofList_inj]

theorem splitTerse_terse (r : Row) : splitTerse r.terse = r.values := EscapedFields.split_print (by decide) _ _

theorem deviceRecord_terse (r : Row) : deviceRecord r.terse = some r.record := by
  simp only [deviceRecord,splitTerse_terse,Row.values,r.named,if_false]
  rfl

theorem deviceRecord_some (h : deviceRecord line = some record) : ∃ device deviceType state connection uuid rest,
    splitTerse line = device :: deviceType :: state :: connection :: uuid :: rest ∧ device ≠ [] ∧
      record = deviceFields device deviceType state connection uuid := by
  unfold deviceRecord at h
  split at h
  · next device deviceType state connection uuid rest hfields =>
    by_cases hnil : device = []
    · rw [if_pos hnil] at h
      cases h
    · rw [if_neg hnil] at h
      exact ⟨_,_,_,_,_,_,hfields,hnil,(Option.some.inj h).symm⟩
  · cases h

theorem deviceRecord_eq_none : deviceRecord line = none ↔ ¬Whole line := by
  have hlength : (splitTerse line).length = EscapedFields.bare '\\' ':' false line + 1 := EscapedFields.length_splitFrom
  unfold deviceRecord
  split
  · next device deviceType state connection uuid rest hfields =>
    rw [hfields] at hlength
    have hfour : 4 ≤ EscapedFields.bare '\\' ':' false line := by
      simp only [List.length_cons] at hlength
      omega
    have hhead : device = [] ↔ line.head? = some ':' := by
      have hnil : (∃ rest,splitTerse line = [] :: rest) ↔ line.head? = some ':' :=
        EscapedFields.split_head_nil (by decide) (by omega)
      rw [← hnil]
      constructor
      · rintro rfl
        exact ⟨_,hfields⟩
      · rintro ⟨_,h⟩
        exact (List.cons.inj (hfields.symm.trans h)).1
    simp [Whole,hfour,hhead]
  · next hshort =>
    refine iff_of_true rfl fun h => ?_
    have hfour := h.1
    have hfive : 5 ≤ (splitTerse line).length := by omega
    rcases hfields : splitTerse line with _ | ⟨device,_ | ⟨deviceType,_ | ⟨state,_ | ⟨connection,_ | ⟨uuid,rest⟩⟩⟩⟩⟩
    case cons.cons.cons.cons.cons => exact hshort _ _ _ _ _ _ hfields
    all_goals
      rw [hfields] at hfive
      simp only [List.length_cons,List.length_nil] at hfive
      omega

theorem terse_plain (h : r.Unbroken) : ∀ c ∈ r.terse, lineBreak c = false := by
  intro c hc
  rcases EscapedFields.mem_print hc with rfl | rfl | ⟨value,hvalue,hc⟩
  · decide
  · decide
  · exact h value hvalue c hc

theorem splitlines_printed (h : ∀ r ∈ table, r.Unbroken) : splitlines (printed table) = table.map Row.terse := by
  induction table with
  | nil => exact splitlines_nil
  | cons r table ih =>
    have hrest := ih fun r hr => h r (List.mem_cons_of_mem _ hr)
    rw [printed,List.flatMap_cons,List.append_assoc,List.singleton_append,
      splitlines_line (terse_plain (h r List.mem_cons_self)),← printed,hrest,List.map_cons]

theorem records_printed (h : ∀ r ∈ table, r.Unbroken) :
    (splitlines (printed table)).filterMap deviceRecord = table.map Row.record := by
  rw [splitlines_printed h,List.filterMap_map,← List.filterMap_eq_map]
  exact List.filterMap_congr fun r _ => deviceRecord_terse r

theorem reads_record (r : Row) : r.Reads r.record where
  device := by simp [Row.record,deviceFields,fact,orNone,r.named]
  deviceType := rfl
  state := rfl
  connection := rfl
  connectionUuid := rfl

/-- A record holds only what stood in its line. -/
theorem unbroken_of_reads (hline : line ∈ splitlines text) (hrecord : deviceRecord line = some record)
    (h : r.Reads record) : r.Unbroken := by
  obtain ⟨device,deviceType,state,connection,uuid,rest,hfields,hnamed,rfl⟩ := deviceRecord_some hrecord
  have hdevice : orNone device = orNone r.device := by
    rw [← h.device,orNone,if_neg hnamed]
    rfl
  have hvalues : r.values = [device,deviceType,state,connection,uuid] := by
    rw [Row.values,orNone_inj hdevice,orNone_inj h.deviceType,orNone_inj h.state,orNone_inj h.connection,
      orNone_inj h.connectionUuid]
  intro value hvalue c hc
  have hmem : value ∈ splitTerse line := by
    rw [hfields]
    rw [hvalues] at hvalue
    exact List.mem_append_left rest hvalue
  exact plain_of_mem_splitlines hline c (EscapedFields.mem_of_mem_split hmem hc)

end Rows

section Reading

variable {general devices : CommandResult} {observedAt : Instant} {evidence : ProviderEvidence} {facts : Fields}
  {reading : ProviderReading}

theorem read_answering (h : Answering general) (hok : devices.ok) : (read general devices observedAt).toProviderReading =
    ⟨networkmanager,"networkmanager.devices",.ok,none,observedAt,(splitlines devices.stdout).filterMap deviceRecord⟩ := by
  unfold read
  simp only [h.found,h.ok,h.running,hok,if_false,Bool.not_true,Bool.false_eq_true]

/-- Nothing was read: the reason is one of the four that stand for it. -/
def Refused (reading : ProviderReading) : Prop :=
  reading.status ≠ .ok ∧ ∃ reason ∈ ["nmcli_absent","timeout","nmcli_failed","daemon_not_running"],reading.reason = some reason

theorem failed_refused (r : CommandResult) : Refused (failed r observedAt).toProviderReading := by
  refine ⟨by simp [failed,unreadable],_,?_,rfl⟩
  split <;> simp

theorem read_cases (general devices : CommandResult) (observedAt : Instant) :
    (Answering general ∧ devices.ok) ∨ Refused (read general devices observedAt).toProviderReading := by
  unfold read
  split
  · exact .inr ⟨by simp [unreadable],_,by simp,rfl⟩
  · next hfound =>
    split
    · exact .inr (failed_refused general)
    · next hok =>
      split
      next running version daemonState hgeneral =>
      split
      · exact .inr ⟨by simp [unreadable],_,by simp,rfl⟩
      · next hrunning =>
        split
        · exact .inr (failed_refused devices)
        · next hdevices =>
          have hrunning : (parseGeneral general.stdout).1 ≠ some false := by rwa [hgeneral]
          exact .inl ⟨⟨hfound,by simpa using hok,hrunning⟩,by simpa using hdevices⟩

def correlator : Correlator := ⟨networkmanager,"networkmanager.devices",networkmanagerCorrelation⟩

theorem mem_correlators : correlator ∈ correlators := by simp [correlators,correlator]

theorem correlator_of_provider {c : Correlator} (hc : c ∈ correlators) (h : c.provider = networkmanager) : c = correlator := by
  simp only [correlators,List.mem_cons,List.not_mem_nil,or_false] at hc
  rcases hc with rfl | rfl | rfl
  · exact absurd h (by decide)
  · rfl
  · exact absurd h (by decide)

theorem networkmanager_source {source : ConsultedSource} :
    source ∈ (deriveProvenance facts evidence).sources ∧ source.provider = networkmanager ↔
      source = (correlator.derive facts evidence).2 := by
  constructor
  · rintro ⟨hsource,hp⟩
    rcases List.mem_cons.mp hsource with rfl | hsource
    · have hk : (kernelClaims facts).2.provider = kernel := by
        simp only [kernelClaims]
        repeat' split
        all_goals rfl
      exact absurd (hk.symm.trans hp) (by decide)
    · obtain ⟨c,hc,rfl⟩ := List.mem_map.mp hsource
      rw [correlator_of_provider hc (derive_provider.symm.trans hp)]
  · rintro rfl
    exact ⟨List.mem_cons_of_mem _ (List.mem_map.mpr ⟨_,mem_correlators,rfl⟩),derive_provider⟩

theorem networkmanager_listed (facts : Fields) (evidence : ProviderEvidence) :
    (correlator.derive facts evidence).2 ∈ (deriveProvenance facts evidence).sources ∧
      (correlator.derive facts evidence).2.provider = networkmanager := networkmanager_source.mpr rfl

theorem networkmanager_claim {claim : OwnershipClaim} :
    claim ∈ (deriveProvenance facts evidence).claims ∧ claim.provider = networkmanager ↔
      claim ∈ (correlator.derive facts evidence).1 := by
  constructor
  · rintro ⟨hclaim,hp⟩
    rcases List.mem_append.mp hclaim with hk | hclaim
    · exact absurd ((kernelClaims_internal hk).symm.trans hp) (by decide)
    · obtain ⟨c,hc,hclaim⟩ := List.mem_flatMap.mp hclaim
      obtain ⟨reading,-,-,hfound⟩ := derive_claims hclaim
      rwa [← correlator_of_provider hc ((correlate_provider hc hfound).symm.trans hp)]
  · intro hclaim
    obtain ⟨reading,-,-,hfound⟩ := derive_claims hclaim
    exact ⟨List.mem_append_right _ (List.mem_flatMap.mpr ⟨_,mem_correlators,hclaim⟩),networkmanager_provider hfound⟩

theorem derive_ok (hget : evidence.get networkmanager = some reading) (hok : reading.status = .ok) :
    correlator.derive facts evidence = ((networkmanagerCorrelation facts reading).1,
      ⟨reading.source,networkmanager,(networkmanagerCorrelation facts reading).2.1,(networkmanagerCorrelation facts reading).2.2⟩) := by
  simp only [Correlator.derive,correlator,hget,unusableSource,hok]

theorem unlisted_iff (hget : evidence.get networkmanager = some reading) (hok : reading.status = .ok) :
    Unlisted (deriveProvenance facts evidence) ↔ ∀ r ∈ reading.records, fact r "device" ≠ fact facts "name" := by
  have hsource : Unlisted (deriveProvenance facts evidence) ↔
      (networkmanagerCorrelation facts reading).2.1 = "device_not_present" ∧ (networkmanagerCorrelation facts reading).2.2 = false := by
    constructor
    · rintro ⟨source,hmem,hp,h⟩
      obtain rfl := networkmanager_source.mp ⟨hmem,hp⟩
      rwa [derive_ok hget hok] at h
    · intro h
      obtain ⟨hmem,hp⟩ := networkmanager_listed facts evidence
      refine ⟨_,hmem,hp,?_⟩
      rwa [derive_ok hget hok]
  rw [hsource]
  unfold networkmanagerCorrelation
  split
  · next hfind =>
    refine iff_of_true ⟨rfl,rfl⟩ fun r hr => ?_
    simpa using List.find?_eq_none.mp hfind r hr
  · next device hfind =>
    refine iff_of_false ?_ fun h => h device (List.mem_of_find?_eq_some hfind) (by simpa using List.find?_some hfind)
    split
    · simp
    · split
      · simp
      · split <;> simp

theorem refused_listed (hget : evidence.get networkmanager = some reading) (h : Refused reading) :
    ¬Unlisted (deriveProvenance facts evidence) := by
  rintro ⟨source,hmem,hp,houtcome,hgap⟩
  obtain rfl := networkmanager_source.mp ⟨hmem,hp⟩
  obtain ⟨hne,reason,hreason,hsome⟩ := h
  have hderive : (correlator.derive facts evidence).2.outcome = reason := by
    cases hs : reading.status with
    | ok => exact absurd hs hne
    | _ => simp only [Correlator.derive,correlator,hget,unusableSource,hs,hsome,Option.getD_some]
  rw [hderive] at houtcome
  subst houtcome
  exact absurd hreason (by decide)

theorem fact_state {r : Row} {text : String} (hne : text ≠ "") :
    fact r.record "state" = .str text ↔ bareState r.state = text.toList := by
  have hfact : fact r.record "state" = orNone (bareState r.state) := rfl
  rw [hfact,orNone]
  split
  · next h =>
    rw [h]
    refine iff_of_false (by simp) fun h => hne ?_
    exact String.toList_eq_nil_iff.mp h.symm
  · rw [Json.str.injEq]
    exact ⟨fun h => h ▸ String.toList_ofList.symm,fun h => h ▸ String.ofList_toList⟩

theorem truthy_external {r : Row} : truthy (fact r.record "external") = true ↔ externalQualifier <:+: r.state := by
  have hfact : fact r.record "external" = .bool (externalQualifier <:+: r.state) := rfl
  rw [hfact,truthy,decide_eq_true_eq]

theorem truthy_uuid {r : Row} : truthy (fact r.record "connection_uuid") = true ↔ r.connectionUuid ≠ [] := by
  have hfact : fact r.record "connection_uuid" = orNone r.connectionUuid := rfl
  rw [hfact,orNone]
  split
  · next h => simp [truthy,h]
  · next h => simp [truthy,h]

theorem accounted_correlation (hget : evidence.get networkmanager = some reading) (hok : reading.status = .ok) :
    Accounted (deriveProvenance facts evidence) ↔
      (∃ claim ∈ (networkmanagerCorrelation facts reading).1,claim.relation = .configuredBy) ∨
        (networkmanagerCorrelation facts reading).2.2 = true := by
  apply or_congr
  · constructor
    · rintro ⟨claim,hmem,hp,hrelation⟩
      have hclaim := networkmanager_claim.mp ⟨hmem,hp⟩
      rw [derive_ok hget hok] at hclaim
      exact ⟨claim,hclaim,hrelation⟩
    · rintro ⟨claim,hclaim,hrelation⟩
      have hmem : claim ∈ (correlator.derive facts evidence).1 := by rwa [derive_ok hget hok]
      obtain ⟨hmem,hp⟩ := networkmanager_claim.mpr hmem
      exact ⟨claim,hmem,hp,hrelation⟩
  · constructor
    · rintro ⟨source,hmem,hp,hgap⟩
      obtain rfl := networkmanager_source.mp ⟨hmem,hp⟩
      rwa [derive_ok hget hok] at hgap
    · intro hgap
      obtain ⟨hmem,hp⟩ := networkmanager_listed facts evidence
      refine ⟨_,hmem,hp,?_⟩
      rwa [derive_ok hget hok]

/-- What the record that speaks for a link settles. -/
theorem accounted_iff_provenance (hget : evidence.get networkmanager = some reading) (hok : reading.status = .ok) {lead : Row}
    (hlead : reading.records.find? (fun r => fact r "device" = fact facts "name") = some lead.record) :
    Accounted (deriveProvenance facts evidence) ↔ lead.Active := by
  rw [accounted_correlation hget hok,networkmanagerCorrelation]
  simp only [hlead]
  by_cases hunmanaged : fact lead.record "state" = .str "unmanaged"
  · have hidle : ¬lead.Active := fun h =>
      absurd (((fact_state (by decide)).mp hunmanaged).symm.trans h.1) (by decide)
    rw [if_pos hunmanaged]
    exact iff_of_false (by simp) hidle
  · rw [if_neg hunmanaged]
    by_cases hexternal : truthy (fact lead.record "external") = true
    · rw [if_pos hexternal]
      exact iff_of_false (by simp) fun h => h.2.1 (truthy_external.mp hexternal)
    · rw [if_neg hexternal]
      by_cases hidle : fact lead.record "state" ≠ .str "connected" ∨ ¬truthy (fact lead.record "connection_uuid") = true
      · rw [if_pos hidle]
        refine iff_of_false (by simp) fun h => ?_
        rcases hidle with hstate | huuid
        · exact hstate ((fact_state (by decide)).mpr h.1)
        · exact huuid (truthy_uuid.mpr h.2.2)
      · rw [if_neg hidle]
        obtain ⟨hstate,huuid⟩ := not_or.mp hidle
        refine iff_of_true (.inl ⟨_,List.mem_cons_self,rfl⟩) ⟨?_,fun h => hexternal (truthy_external.mpr h),?_⟩
        · exact (fact_state (by decide)).mp (not_ne_iff.mp hstate)
        · exact truthy_uuid.mp (not_not.mp huuid)

end Reading

section Table

variable {general devices : CommandResult} {observedAt : Instant} {table : List Row}

theorem answering_running : Answering (answered "running:1.46.0:connected\n".toList) where
  found := by simp [answered]
  ok := by decide
  running := by decide

theorem single_get {reading : ProviderReading} (h : reading.provider = networkmanager) :
    ProviderEvidence.get [reading] networkmanager = some reading := by
  simp [ProviderEvidence.get,h]

theorem records_of_unbroken (hg : Answering general) (h : ∀ row ∈ table, row.Unbroken) :
    (read general (answered (printed table)) observedAt).records = table.map Row.record := by
  rw [read_answering hg rfl]
  exact records_printed h

theorem exists_reads {records : List Fields} (h : List.Forall₂ Row.Reads table records) {row : Row} (hrow : row ∈ table) :
    ∃ record ∈ records,row.Reads record := by
  induction h with
  | nil => cases hrow
  | cons hhead _ ih =>
    rcases List.mem_cons.mp hrow with rfl | hrow
    · exact ⟨_,List.mem_cons_self,hhead⟩
    · obtain ⟨record,hrecord,hreads⟩ := ih hrow
      exact ⟨record,List.mem_cons_of_mem _ hrecord,hreads⟩

theorem keepsRows_iff : KeepsRows table ↔ ∀ row ∈ table, row.Unbroken := by
  constructor
  · intro h row hrow
    have hall := h _ 0 answering_running
    rw [read_answering answering_running rfl] at hall
    obtain ⟨record,hrecord,hreads⟩ := exists_reads hall hrow
    obtain ⟨line,hline,hdevice⟩ := List.mem_filterMap.mp hrecord
    exact unbroken_of_reads hline hdevice hreads
  · intro h general observedAt hg
    rw [records_of_unbroken hg h,List.forall₂_map_right_iff]
    exact List.forall₂_same.mpr fun row _ => reads_record row

/-- The record that speaks for a link is that of the first row of its device. -/
theorem find_record (facts : Fields) (row : Row) (hname : fact facts "name" = .str (String.ofList row.device)) :
    (table.map Row.record).find? (fun r => fact r "device" = fact facts "name") =
      (table.find? (·.device = row.device)).map Row.record := by
  have hdevice (other : Row) : (fact other.record "device" = fact facts "name") ↔ other.device = row.device := by
    rw [hname,(reads_record other).device,orNone,if_neg other.named,Json.str.injEq]
    exact String.ofList_inj
  rw [List.find?_map]
  congr 2
  funext other
  exact decide_eq_decide.mpr (hdevice other)

theorem accounted_iff_lead (hg : Answering general) (h : ∀ row ∈ table, row.Unbroken) {row lead : Row} {facts : Fields}
    {evidence : ProviderEvidence}
    (hget : evidence.get networkmanager = some (read general (answered (printed table)) observedAt).toProviderReading)
    (hname : fact facts "name" = .str (String.ofList row.device))
    (hlead : table.find? (·.device = row.device) = some lead) :
    Accounted (deriveProvenance facts evidence) ↔ lead.Active := by
  apply accounted_iff_provenance hget
  · rw [read_answering hg rfl]
  · rw [records_of_unbroken hg h,find_record facts row hname,hlead]
    rfl

theorem keepsLinks_iff (h : ∀ row ∈ table, row.Unbroken) : KeepsLinks table ↔ LeadActive table := by
  constructor
  · intro hkeeps row hrow hactive lead hlead
    let general := answered "running:1.46.0:connected\n".toList
    let reading := (read general (answered (printed table)) 0).toProviderReading
    let facts : Fields := [("name",.str (String.ofList row.device))]
    have hget : ProviderEvidence.get [reading] networkmanager = some reading := by
      apply single_get
      exact congrArg ProviderReading.provider (read_answering answering_running rfl)
    have haccounted := hkeeps general 0 [reading] facts hget row hrow hactive rfl answering_running
    exact (accounted_iff_lead answering_running h hget rfl hlead).mp haccounted
  · intro hlead general observedAt evidence facts hget row hrow hactive hname hg
    obtain ⟨lead,hfind⟩ := Option.isSome_iff_exists.mp
      (List.find?_isSome (p := fun r : Row => r.device = row.device).mpr ⟨row,hrow,decide_eq_true rfl⟩)
    exact (accounted_iff_lead hg h hget hname hfind).mpr (hlead row hrow hactive lead hfind)

/-- There is always a link that no record names. -/
theorem exists_unnamed (records : List Fields) : ∃ name : String, ∀ r ∈ records, fact r "device" ≠ .str name := by
  have hnames : (Set.range Json.str).Infinite := Set.infinite_range_of_injective fun _ _ => Json.str.inj
  obtain ⟨_,⟨name,rfl⟩,hname⟩ := hnames.exists_notMem_finset (records.map (fact · "device")).toFinset
  exact ⟨name,fun r hr hdevice => hname (List.mem_toFinset.mpr (List.mem_map.mpr ⟨r,hr,hdevice⟩))⟩

theorem neverSettles_iff : NeverSettles devices ↔ (devices.ok → ∀ line ∈ splitlines devices.stdout, Whole line) := by
  constructor
  · intro hnever hok line hline
    by_contra hwhole
    let reading := (read (answered "running:1.46.0:connected\n".toList) devices 0).toProviderReading
    have hread : reading = _ := read_answering answering_running hok
    have hget : ProviderEvidence.get [reading] networkmanager = some reading :=
      single_get (congrArg ProviderReading.provider hread)
    obtain ⟨name,hname⟩ := exists_unnamed reading.records
    apply hnever _ 0 [reading] [("name",.str name)] hget ⟨line,hline,deviceRecord_eq_none.mpr hwhole⟩
    exact (unlisted_iff hget (congrArg ProviderReading.status hread)).mpr hname
  · rintro h general observedAt evidence facts hget ⟨line,hline,hnone⟩
    rcases read_cases general devices observedAt with ⟨_,hok⟩ | hrefused
    · exact absurd (h hok line hline) (deviceRecord_eq_none.mp hnone)
    · exact refused_listed hget hrefused

/-- A table comes back whole, and each active link of it is accounted for, exactly when no value of it
holds a line break and the first row of a device speaks for it; an output settles no link through a row
that gave no record exactly when every line of it gives one. -/
theorem networkmanager_evidence_iff (table : List Row) (devices : CommandResult) :
    (KeepsRows table ∧ KeepsLinks table ↔ (∀ row ∈ table, row.Unbroken) ∧ LeadActive table) ∧
      (NeverSettles devices ↔ (devices.ok → ∀ line ∈ splitlines devices.stdout, Whole line)) := by
  refine ⟨⟨?_,?_⟩,neverSettles_iff⟩
  · rintro ⟨hrows,hlinks⟩
    have h := keepsRows_iff.mp hrows
    exact ⟨h,(keepsLinks_iff h).mp hlinks⟩
  · rintro ⟨h,hlead⟩
    exact ⟨keepsRows_iff.mpr h,(keepsLinks_iff h).mpr hlead⟩

def office : Row where
  device := "eth0".toList
  deviceType := "ethernet".toList
  state := "connected".toList
  connection := "Office\x0bLAN".toList
  connectionUuid := "uuid-lan".toList
  named := by decide

/-- The name of the connection cuts its row, and the link it is applied to is answered as not listed. -/
theorem office_hidden : (∀ value ∈ office.values, '\n' ∉ value) ∧ office.Active ∧ ¬KeepsRows [office] ∧
    ¬KeepsLinks [office] ∧ ¬NeverSettles (answered (printed [office])) := by
  have hcut : ¬office.Unbroken := by decide +kernel
  have hactive : office.Active := by decide +kernel
  refine ⟨by decide,hactive,?_,?_,?_⟩
  · exact fun h => hcut (keepsRows_iff.mp h office List.mem_cons_self)
  · intro h
    let reading := (read (answered "running:1.46.0:connected\n".toList) (answered (printed [office])) 0).toProviderReading
    have hread : reading = ⟨networkmanager,"networkmanager.devices",.ok,none,0,[]⟩ := by
      have hnone : (splitlines (printed [office])).filterMap deviceRecord = [] := by decide +kernel
      rw [← hnone]
      exact read_answering answering_running rfl
    have hget : ProviderEvidence.get [reading] networkmanager = some reading := single_get (by rw [hread])
    have haccounted := h _ 0 [reading] [("name",.str (String.ofList office.device))] hget office List.mem_cons_self hactive rfl
      answering_running
    rw [accounted_correlation hget (by rw [hread]),hread] at haccounted
    simp [networkmanagerCorrelation] at haccounted
  · intro h
    have hlines := neverSettles_iff.mp h rfl
    revert hlines
    decide

end Table

end NetworkManager
end LocalPlane
