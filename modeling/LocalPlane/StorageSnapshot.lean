import LocalPlane.KernelEvidence

/-!
# A filesystem observation is a snapshot or nothing

The record of a collection holds every call it made and what the kernel answered. Rows keep
their numbers and their backing names only where every comparison of the collection itself
found the namespace and the table it began with, and a row has numbers only where the reads
around its statistics tied the descriptor to that row's mount.
-/

set_option linter.dupNamespace false

namespace LocalPlane
namespace Storage
open MountInfo TextNumbers

abbrev said (op : Call) (answer : Except Raised op.Answer) : Event := ⟨op,answer⟩

/-- Every table read within shows the mounts it began with. -/
def Unchanged (original : List Mount) (log : List Event) : Prop :=
  ∀ answer, said .readTable answer ∈ log → ∃ data, answer = .ok data ∧ tableOf data = .ok original

/-- The reads that tie a descriptor to a mount of the table. -/
def Matches (fd : ℤ) (mount : Mount) (original : List Mount) (allowed : List Text) (log : List Event) : Prop :=
  ∃ info data stat, log = [said (.readFdinfo fd) (.ok info),said .readTable (.ok data),said (.fstat fd) (.ok stat)] ∧
    mountIdOf info = .ok mount.mountId ∧ tableOf data = .ok original ∧ mount ∈ original ∧ mount.filesystem ∈ allowed ∧
    stat.symlink = false ∧ stat.device = mount.device

/-- Statistics read through a descriptor that matched the mount just before and just after. -/
def Sampled (mount : Mount) (original : List Mount) (value : Statistics) (log : List Event) : Prop :=
  ∃ path fd first second, log = path ++ (first ++ said (.fstatvfs fd) (.ok value) :: (second ++ [said (.close fd) (.ok ())])) ∧
    (pin mount.path original supported).Runs path (.ok fd) ∧
    Matches fd mount original supported first ∧ Matches fd mount original supported second

/-- A device whose own number the kernel gave as the mount's. -/
def Named (mount : Mount) (original : List Mount) (log : List Event) : Prop :=
  Unchanged original log ∧
    ∃ fd data text, said (.read fd) (.ok data) ∈ log ∧ ascii data = some text ∧ strip text = mount.device

/-- A comparison of the collection itself, which found what it began with. -/
def Compared (identity : Text) (original : List Mount) (log : List Event) : Prop :=
  ∃ data, log = [said .readNamespace (.ok identity),said .readTable (.ok data)] ∧ tableOf data = .ok original

def Quiet (log : List Event) : Prop := ∀ e ∈ log, e.1 ≠ Call.readNamespace

/-- What the record of sampling one mount says of its row. -/
inductive Observed (mount : Mount) (original : List Mount) : List Event → StorageMount → Prop
  | failed (log : List Event) (e : Raised) : Observed mount original log ((listed mount).failed e)
  | sampled {value : Statistics} {bytes : StorageCounters} {first rest : List Event} (h : Sampled mount original value first)
      (hunchanged : Unchanged original first)
      (hbytes : counters value.blocks value.bfree value.bavail value.frsize = some bytes) :
      Observed mount original (first ++ rest) ((listed mount).sampled value bytes)
  | named {value : Statistics} {bytes : StorageCounters} {first rest : List Event} {name : Text} (h : Sampled mount original value first)
      (hunchanged : Unchanged original first)
      (hbytes : counters value.blocks value.bfree value.bavail value.frsize = some bytes) (hname : Named mount original rest) :
      Observed mount original (first ++ rest) { (listed mount).sampled value bytes with
        backingName := some name
        backingReason := "Immediate kernel block device via major:minor; lower topology not enumerated." }

/-- The mounts one after another, each sampled one followed by a comparison. -/
inductive Rounds (identity : Text) (original : List Mount) : List Mount → List StorageMount → List Event → Prop
  | nil : Rounds identity original [] [] []
  | passed {mount : Mount} {mounts : List Mount} {rows : List StorageMount} {log : List Event} (hfilesystem : mount.filesystem ∉ supported)
      (h : Rounds identity original mounts rows log) : Rounds identity original (mount :: mounts) (passedOver mount :: rows) log
  | observed {mount : Mount} {row : StorageMount} {mounts : List Mount} {rows : List StorageMount} {body check log : List Event}
      (hfilesystem : mount.filesystem ∈ supported) (hbody : Observed mount original body row) (hquiet : Quiet body)
      (hcheck : Compared identity original check) (h : Rounds identity original mounts rows log) :
      Rounds identity original (mount :: mounts) (row :: rows) (said .work (.ok ()) :: (body ++ (check ++ log)))

/-- A row tells of this mount. -/
def StorageMount.Shows (row : StorageMount) (mount : Mount) : Prop :=
  row.mountId = mount.mountId ∧ row.parentId = mount.parentId ∧ row.mountpoint = mount.path ∧ row.root = mount.root ∧
    row.filesystem = mount.filesystem ∧ row.device = mount.device ∧ row.readOnly = mount.readOnly

/-- Decimal texts of numbers that add up. -/
def StorageCounters.Lawful (c : StorageCounters) : Prop :=
  ∃ total used free available reserved : ℕ,
    c = ⟨decimal total,decimal used,decimal free,decimal available,decimal reserved⟩ ∧ used + free = total ∧ available + reserved = free

/-- What an answer that was not withdrawn rests on. -/
structure Collected (identity : Text) (original : List Mount) (log : List Event) (answer : StorageObservation) : Prop where
  namespaceId : answer.namespaceId = some identity
  rounds : ∃ first rounds last, log = first ++ (rounds ++ last) ∧ Compared identity original first ∧
    Rounds identity original (original.take maxMounts) answer.mounts rounds ∧ Compared identity original last
  numbers : ∀ row ∈ answer.mounts, row.bytes.isSome = true ∨ row.inodes.isSome = true → row.status = .observed ∧
    ∃ mount value before body after, log = before ++ (body ++ after) ∧ mount ∈ original ∧ row.Shows mount ∧
      Sampled mount original value body ∧ Unchanged original body ∧
      row.bytes = counters value.blocks value.bfree value.bavail value.frsize ∧ row.inodes = inodesOf value
  complete : answer.status = .complete → List.Forall₂ (fun mount row => row.Shows mount ∧ row.status = .observed ∧
    row.bytes.isSome = true ∧ row.inodes.isSome = true) original answer.mounts

/-- A comparison of the collection itself found another namespace or another table than it began with, or could not be made. -/
def Detected (log : List Event) : Prop :=
  ∃ identity original first rest, log = first ++ rest ∧ Compared identity original first ∧
    ((∃ answer, said .readNamespace answer ∈ rest ∧ answer ≠ .ok identity) ∨
      ∃ before seen answer after, rest = before ++ said .readNamespace seen :: said .readTable answer :: after ∧
        ∀ data, answer = .ok data → tableOf data ≠ .ok original)

structure Snapshot (log : List Event) (answer : StorageObservation) : Prop where
  withdrawn : answer.status = .unavailable → ∀ row ∈ answer.mounts, row.bytes = none ∧ row.inodes = none ∧ row.backingName = none
  collected : answer.status ≠ .unavailable → ∃ identity original, Collected identity original log answer
  detected : Detected log → answer.status = .unavailable
  lawful : ∀ row ∈ answer.mounts, (∀ c ∈ row.bytes, c.Lawful) ∧ ∀ c ∈ row.inodes, c.Lawful

variable {fd : ℤ} {mount m : Mount} {original : List Mount} {allowed : List Text} {log before after : List Event} {identity : Text}

theorem Unchanged.append (hbefore : Unchanged original before) (hafter : Unchanged original after) :
    Unchanged original (before ++ after) := by
  intro answer hanswer
  rcases List.mem_append.mp hanswer with h | h
  · exact hbefore answer h
  · exact hafter answer h

theorem unchanged_said {op : Call} {answer : Except Raised op.Answer} (h : op ≠ .readTable) : Unchanged original [said op answer] := by
  intro other hother
  cases List.mem_singleton.mp hother
  exact absurd rfl h

theorem Matches.unchanged (h : Matches fd m original allowed log) : Unchanged original log := by
  obtain ⟨info,data,stat,rfl,_,hdata,_⟩ := h
  intro answer hanswer
  simp only [List.mem_cons,List.not_mem_nil,or_false] at hanswer
  rcases hanswer with h | h | h
  · cases h
  · cases h
    exact ⟨data,rfl,hdata⟩
  · cases h

section Calls

variable {α : Type} {p : Program Kernel Raised α}

theorem table_ok {mounts : List Mount} (h : table.Runs log (.ok mounts)) :
    ∃ data, log = [said .readTable (.ok data)] ∧ tableOf data = .ok mounts := by
  obtain ⟨data,before,after,hcall,hrest,rfl⟩ := Program.runs_bind_ok h
  obtain ⟨rfl,hdata⟩ := Program.runs_ret.mp hrest
  exact ⟨data,by simp [hcall.of_call],hdata.symm⟩

theorem mountId_ok {n : ℤ} (h : (mountId fd).Runs log (.ok n)) :
    ∃ data, log = [said (.readFdinfo fd) (.ok data)] ∧ mountIdOf data = .ok n := by
  obtain ⟨data,before,after,hcall,hrest,rfl⟩ := Program.runs_bind_ok h
  obtain ⟨rfl,hdata⟩ := Program.runs_ret.mp hrest
  exact ⟨data,by simp [hcall.of_call],hdata.symm⟩

theorem readNamespace_ok (h : readNamespace.Runs log (.ok identity)) : log = [said .readNamespace (.ok identity)] := by
  obtain ⟨value,before,after,hcall,hrest,rfl⟩ := Program.runs_bind_ok h
  obtain ⟨rfl,hvalue⟩ := Program.runs_ret.mp hrest
  have hsame : value = identity := by
    split at hvalue
    · exact (Except.ok.inj hvalue).symm
    · cases hvalue
  simp [hcall.of_call,hsame]

theorem validate_ok (h : (validate fd original allowed).Runs log (.ok m)) : Matches fd m original allowed log := by
  obtain ⟨mid,first,rest,hfirst,hread,rfl⟩ := Program.runs_bind_ok h
  obtain ⟨info,rfl,hinfo⟩ := mountId_ok hfirst
  obtain ⟨current,second,rest,hsecond,hcompare,rfl⟩ := Program.runs_bind_ok hread
  obtain ⟨data,rfl,hdata⟩ := table_ok hsecond
  by_cases hsame : current = original
  · subst hsame
    rw [if_neg (not_not_intro rfl)] at hcompare
    cases hfind : current.find? fun m => decide (m.mountId = mid) with
    | none => simp [hfind] at hcompare
    | some found =>
      simp only [hfind] at hcompare
      by_cases hallowed : found.filesystem ∉ allowed
      · simp [hallowed] at hcompare
      rw [if_neg hallowed] at hcompare
      obtain ⟨stat,third,rest,hthird,hstat,rfl⟩ := Program.runs_bind_ok hcompare
      by_cases hlink : stat.symlink = true
      · simp [hlink] at hstat
      by_cases hdevice : stat.device ≠ found.device
      · simp [hlink,hdevice] at hstat
      rw [if_neg hlink,if_neg hdevice] at hstat
      obtain ⟨rfl,hm⟩ := Program.runs_ret.mp hstat
      cases hm
      refine ⟨info,data,stat,by simp [hthird.of_call],?_,hdata,List.mem_of_find?_eq_some hfind,not_not.mp hallowed,by simpa using hlink,
        not_not.mp hdevice⟩
      have := List.find?_some hfind
      simp only [decide_eq_true_eq] at this
      rw [hinfo,this]
  · simp [hsame] at hcompare

theorem releasing_ok {a : α} (h : (releasing fd p).Runs log (.ok a)) : p.Runs log (.ok a) := by
  rcases Program.runs_tryCatch h with ⟨_,hp,hsame⟩ | ⟨e,_,_,_,hraises,rfl⟩
  · exact hsame ▸ hp
  · obtain ⟨_,_,_,_,hthrow,_⟩ := Program.runs_bind_ok hraises
    simp at hthrow

theorem closing_ok {a : α} (h : (closing fd p).Runs log (.ok a)) :
    ∃ body, log = body ++ [said (.close fd) (.ok ())] ∧ p.Runs body (.ok a) := by
  obtain ⟨value,body,rest,hbody,hafter,rfl⟩ := Program.runs_bind_ok h
  obtain ⟨_,close,rest,hclose,hlast,rfl⟩ := Program.runs_bind_ok hafter
  obtain ⟨rfl,hvalue⟩ := Program.runs_ret.mp hlast
  cases hvalue
  exact ⟨body,by simp [hclose.of_call],releasing_ok hbody⟩

theorem unchanged_call {op : Call} {answer : op.Answer} (h : (ask op).Runs log (.ok answer)) (hop : op ≠ .readTable) :
    Unchanged original log := by
  rw [h.of_call]
  exact unchanged_said hop

theorem descend_unchanged {components : List Text} {end' : ℤ} (h : (descend original allowed fd components).Runs log (.ok end')) :
    Unchanged original log := by
  induction components generalizing fd log with
  | nil =>
    obtain ⟨rfl,_⟩ := Program.runs_ret.mp h
    exact fun _ hanswer => by cases hanswer
  | cons component rest ih =>
    rw [descend] at h
    split at h
    · exact ih h
    · obtain ⟨new,opening,more,hopening,hopened,rfl⟩ := Program.runs_bind_ok h
      obtain ⟨_,checking,walking,hchecking,hwalking,rfl⟩ := Program.runs_bind_ok hopened
      obtain ⟨opened,openat,more,hopenat,hbefore,rfl⟩ := Program.runs_bind_ok (releasing_ok hopening)
      obtain ⟨_,close,more,hclose,hnew,rfl⟩ := Program.runs_bind_ok hbefore
      obtain ⟨rfl,_⟩ := Program.runs_ret.mp hnew
      rw [List.append_nil]
      exact ((unchanged_call hopenat (by simp)).append (unchanged_call hclose (by simp))).append
        ((validate_ok (releasing_ok hchecking)).unchanged.append (ih hwalking))

theorem pin_unchanged {path : Text} {end' : ℤ} (h : (pin path original allowed).Runs log (.ok end')) : Unchanged original log := by
  rw [pin] at h
  split at h
  · simp at h
  · obtain ⟨fd,opening,rest,hopening,hopened,rfl⟩ := Program.runs_bind_ok h
    obtain ⟨_,checking,walking,hchecking,hwalking,rfl⟩ := Program.runs_bind_ok hopened
    exact (unchanged_call hopening (by simp)).append
      ((validate_ok (releasing_ok hchecking)).unchanged.append (descend_unchanged hwalking))

end Calls

theorem sample_ok {value : Statistics} (h : (sample mount original).Runs log (.ok value)) : Sampled mount original value log := by
  obtain ⟨fd,path,rest,hpath,hpinned,rfl⟩ := Program.runs_bind_ok h
  obtain ⟨body,rfl,hbody⟩ := closing_ok hpinned
  obtain ⟨found,first,rest,hfirst,hbefore,rfl⟩ := Program.runs_bind_ok hbody
  by_cases hfound : found = mount
  · subst hfound
    rw [if_neg (not_not_intro rfl)] at hbefore
    obtain ⟨read,stats,rest,hstats,hread,rfl⟩ := Program.runs_bind_ok hbefore
    obtain ⟨again,second,rest,hsecond,hafter,rfl⟩ := Program.runs_bind_ok hread
    by_cases hagain : again = found
    · subst hagain
      rw [if_neg (not_not_intro rfl)] at hafter
      obtain ⟨rfl,hvalue⟩ := Program.runs_ret.mp hafter
      cases hvalue
      exact ⟨path,fd,first,second,by simp [hstats.of_call],hpath,validate_ok hfirst,validate_ok hsecond⟩
    · simp [hagain] at hafter
  · simp [hfound] at hbefore

theorem Sampled.unchanged {value : Statistics} (h : Sampled mount original value log) : Unchanged original log := by
  obtain ⟨path,fd,first,second,rfl,hpath,hfirst,hsecond⟩ := h
  refine (pin_unchanged hpath).append (hfirst.unchanged.append ?_)
  exact @Unchanged.append _ [_] _ (unchanged_said (by simp)) (hsecond.unchanged.append (unchanged_said (by simp)))

theorem onSysfs_unchanged (h : (onSysfs fd original).Runs log (.ok ())) : Unchanged original log := by
  obtain ⟨found,first,rest,hfirst,hrest,rfl⟩ := Program.runs_bind_ok h
  by_cases hfound : found.filesystem = sysfs
  · rw [if_neg (not_not_intro hfound)] at hrest
    obtain ⟨rfl,_⟩ := Program.runs_ret.mp hrest
    exact (validate_ok hfirst).unchanged.append fun _ h => by cases h
  · simp [hfound] at hrest

theorem deviceNumber_ok {number : Text} (h : (deviceNumber original fd).Runs log (.ok number)) :
    Unchanged original log ∧ ∃ fd data text, said (.read fd) (.ok data) ∈ log ∧ ascii data = some text ∧ strip text = number := by
  obtain ⟨numberFd,opening,rest,hopening,hopened,rfl⟩ := Program.runs_bind_ok h
  obtain ⟨body,rfl,hbody⟩ := closing_ok hopened
  obtain ⟨_,first,rest,hfirst,hreopen,rfl⟩ := Program.runs_bind_ok hbody
  obtain ⟨readFd,reopening,rest,hreopening,hreopened,rfl⟩ := Program.runs_bind_ok hreopen
  obtain ⟨inner,rfl,hinner⟩ := closing_ok hreopened
  obtain ⟨_,second,rest,hsecond,hread,rfl⟩ := Program.runs_bind_ok hinner
  obtain ⟨data,reading,rest,hreading,hnumber,rfl⟩ := Program.runs_bind_ok hread
  cases htext : ascii data with
  | none => simp [htext] at hnumber
  | some text =>
    simp only [htext] at hnumber
    obtain ⟨rfl,hsame⟩ := Program.runs_ret.mp hnumber
    cases hsame
    have hlast : Unchanged original [said (.close readFd) (.ok ())] := unchanged_said (by simp)
    refine ⟨?_,readFd,data,text,?_,htext,rfl⟩
    · exact (unchanged_call hopening (by simp)).append ((((onSysfs_unchanged hfirst).append
        ((unchanged_call hreopening (by simp)).append (((onSysfs_unchanged hsecond).append
          ((unchanged_call hreading (by simp)).append fun _ h => by cases h)).append hlast)))).append (unchanged_said (by simp)))
    · simp [hreading.of_call]

theorem backing_ok {name : Text} (h : (backing mount original).Runs log (.ok name)) : Named mount original log := by
  obtain ⟨fd,path,rest,hpath,hpinned,rfl⟩ := Program.runs_bind_ok h
  obtain ⟨body,rfl,hbody⟩ := closing_ok hpinned
  obtain ⟨_,first,rest,hfirst,hlink,rfl⟩ := Program.runs_bind_ok hbody
  obtain ⟨target,linking,rest,hlinking,htarget,rfl⟩ := Program.runs_bind_ok hlink
  split at htarget
  · simp at htarget
  dsimp only at htarget
  split at htarget
  · simp at htarget
  obtain ⟨deviceFd,devicePath,rest,hdevicePath,hdevice,rfl⟩ := Program.runs_bind_ok htarget
  obtain ⟨inner,rfl,hinner⟩ := closing_ok hdevice
  obtain ⟨_,second,rest,hsecond,hasking,rfl⟩ := Program.runs_bind_ok hinner
  obtain ⟨number,numbering,rest,hnumbering,hnumber,rfl⟩ := Program.runs_bind_ok hasking
  by_cases hsame : number = mount.device
  · subst hsame
    rw [if_neg (not_not_intro rfl)] at hnumber
    obtain ⟨current,reading,rest,hreading,hcurrent,rfl⟩ := Program.runs_bind_ok hnumber
    obtain ⟨data,rfl,hdata⟩ := table_ok hreading
    by_cases htable : current = original
    · subst htable
      rw [if_neg (not_not_intro rfl)] at hcurrent
      have hrest : rest = [] := by
        split at hcurrent
        · exact (Program.runs_ret.mp hcurrent).1
        · simp at hcurrent
      subst hrest
      have hread : Unchanged current [said .readTable (.ok data)] := by
        intro answer hanswer
        cases List.mem_singleton.mp hanswer
        exact ⟨data,rfl,hdata⟩
      obtain ⟨hnumbered,numberFd,bytes,text,hsaid,htext⟩ := deviceNumber_ok hnumbering
      refine ⟨?_,numberFd,bytes,text,by simp [hsaid],htext⟩
      refine (pin_unchanged hpath).append (((onSysfs_unchanged hfirst).append ((unchanged_call hlinking (by simp)).append
        ((pin_unchanged hdevicePath).append ?_))).append (unchanged_said (by simp)))
      exact ((onSysfs_unchanged hsecond).append (hnumbered.append (by simpa using hread))).append (unchanged_said (by simp))
    · simp [htable] at hcurrent
  · simp [hsame] at hnumber

theorem sampleRow_ok {row : StorageMount} (h : (sampleRow mount original (listed mount)).Runs log (.ok row)) :
    Observed mount original log row := by
  obtain ⟨result,first,rest,hfirst,hresult,rfl⟩ := Program.runs_bind_ok h
  obtain ⟨y,hy,hsample⟩ := hfirst.of_attempt
  cases hy
  cases result with
  | error e =>
    obtain ⟨rfl,hrow⟩ := Program.runs_ret.mp hresult
    cases hrow
    exact .failed _ e
  | ok value =>
    cases hbytes : counters value.blocks value.bfree value.bavail value.frsize with
    | none =>
      simp only [hbytes] at hresult
      obtain ⟨rfl,hrow⟩ := Program.runs_ret.mp hresult
      cases hrow
      exact .failed _ unmatched
    | some bytes =>
      simp only [hbytes] at hresult
      have hsampled := sample_ok hsample
      obtain ⟨named,second,rest,hsecond,hlast,rfl⟩ := Program.runs_bind_ok hresult
      obtain ⟨y,hy,hbacking⟩ := hsecond.of_attempt
      cases hy
      cases named with
      | error e =>
        obtain ⟨rfl,hrow⟩ := Program.runs_ret.mp hlast
        cases hrow
        exact .sampled hsampled hsampled.unchanged hbytes
      | ok name =>
        obtain ⟨rfl,hrow⟩ := Program.runs_ret.mp hlast
        cases hrow
        rw [List.append_nil]
        exact .named hsampled hsampled.unchanged hbytes (backing_ok hbacking)

theorem revalidate_ok (h : (revalidate identity original).Runs log (.ok ())) : Compared identity original log := by
  obtain ⟨current,first,rest,hfirst,hrest,rfl⟩ := Program.runs_bind_ok h
  by_cases hidentity : current = identity
  · subst hidentity
    rw [if_neg (not_not_intro rfl)] at hrest
    obtain ⟨mounts,second,rest,hsecond,hlast,rfl⟩ := Program.runs_bind_ok hrest
    by_cases hmounts : mounts = original
    · subst hmounts
      rw [if_neg (not_not_intro rfl)] at hlast
      obtain ⟨rfl,_⟩ := Program.runs_ret.mp hlast
      obtain ⟨data,rfl,hdata⟩ := table_ok hsecond
      exact ⟨data,by simp [readNamespace_ok hfirst],hdata⟩
    · simp [hmounts] at hlast
  · simp [hidentity] at hrest

/-- In a record that kept what it began with, every look at the namespace found it and the table after it. -/
def Steady (identity : Text) (original : List Mount) (log : List Event) : Prop :=
  ∀ before answer after, log = before ++ said .readNamespace answer :: after → answer = .ok identity ∧
    ∃ data rest, after = said .readTable (.ok data) :: rest ∧ tableOf data = .ok original

theorem Steady.append (hbefore : Steady identity original before) (hafter : Steady identity original after) :
    Steady identity original (before ++ after) := by
  intro first answer last hlog
  rcases List.append_eq_append_iff.mp hlog with ⟨more,rfl,hrest⟩ | ⟨more,rfl,hrest⟩
  · exact hafter more answer last hrest
  · cases more with
    | nil => exact hafter [] answer last hrest.symm
    | cons e more =>
      obtain ⟨rfl,rfl⟩ := List.cons.inj hrest
      obtain ⟨hanswer,data,rest,rfl,hdata⟩ := hbefore first answer more rfl
      exact ⟨hanswer,data,rest ++ after,rfl,hdata⟩

theorem Quiet.steady (h : Quiet log) : Steady identity original log := by
  rintro before answer after rfl
  exact absurd rfl (h (said .readNamespace answer) (by simp))

theorem Compared.steady (h : Compared identity original log) : Steady identity original log := by
  obtain ⟨data,rfl,hdata⟩ := h
  intro before answer after hlog
  cases before with
  | nil =>
    simp only [List.nil_append,List.cons.injEq] at hlog
    obtain ⟨hsaid,rfl⟩ := hlog
    cases hsaid
    exact ⟨rfl,data,[],rfl,hdata⟩
  | cons e before =>
    have hmem : said .readNamespace answer ∈ [said .readTable (.ok data)] := by
      rw [List.cons_append,List.cons.injEq] at hlog
      rw [hlog.2]
      simp
    cases List.mem_singleton.mp hmem

theorem Rounds.steady {mounts : List Mount} {rows : List StorageMount} (h : Rounds identity original mounts rows log) :
    Steady identity original log := by
  induction h with
  | nil => exact Quiet.steady fun _ h => by cases h
  | passed _ _ ih => exact ih
  | observed _ _ hquiet hcheck _ ih =>
    have hwork : Quiet [said .work (.ok ())] := by
      rintro e he
      cases List.mem_singleton.mp he
      simp
    exact hwork.steady.append (hquiet.steady.append (hcheck.steady.append ih))

theorem shows_passedOver (mount : Mount) : (passedOver mount).Shows mount := by
  unfold passedOver
  split <;> exact ⟨rfl,rfl,rfl,rfl,rfl,rfl,rfl⟩

theorem Observed.shows {row : StorageMount} (h : Observed mount original log row) : row.Shows mount := by
  cases h <;> exact ⟨rfl,rfl,rfl,rfl,rfl,rfl,rfl⟩

theorem Rounds.shows {mounts : List Mount} {rows : List StorageMount} (h : Rounds identity original mounts rows log) :
    List.Forall₂ (fun mount row => row.Shows mount) mounts rows := by
  induction h with
  | nil => exact .nil
  | passed _ _ ih => exact .cons (shows_passedOver _) ih
  | observed _ hbody _ _ _ ih => exact .cons hbody.shows ih

/-- A row with numbers, within the record of its own sample. -/
theorem Observed.numbers {row : StorageMount} (h : Observed mount original log row)
    (hrow : row.bytes.isSome = true ∨ row.inodes.isSome = true) : row.status = .observed ∧
      ∃ value body after, log = body ++ after ∧ Sampled mount original value body ∧ Unchanged original body ∧
        row.bytes = counters value.blocks value.bfree value.bavail value.frsize ∧ row.inodes = inodesOf value := by
  cases h with
  | failed e => simp [StorageMount.failed] at hrow
  | @sampled value _ first rest h hunchanged hbytes => exact ⟨rfl,value,first,rest,rfl,h,hunchanged,hbytes.symm,rfl⟩
  | @named value _ first rest _ h hunchanged hbytes => exact ⟨rfl,value,first,rest,rfl,h,hunchanged,hbytes.symm,rfl⟩

theorem numbers_passedOver : (passedOver mount).bytes = none ∧ (passedOver mount).inodes = none := by
  unfold passedOver
  split <;> exact ⟨rfl,rfl⟩

theorem Rounds.numbers {mounts : List Mount} {rows : List StorageMount} (h : Rounds identity original mounts rows log) :
    ∀ row ∈ rows, row.bytes.isSome = true ∨ row.inodes.isSome = true → row.status = .observed ∧
      ∃ mount value before body after, log = before ++ (body ++ after) ∧ mount ∈ mounts ∧ row.Shows mount ∧
        Sampled mount original value body ∧ Unchanged original body ∧
        row.bytes = counters value.blocks value.bfree value.bavail value.frsize ∧ row.inodes = inodesOf value := by
  induction h with
  | nil => simp
  | passed _ _ ih =>
    intro row hrow hnumbers
    rcases List.mem_cons.mp hrow with rfl | hrow
    · simp [numbers_passedOver] at hnumbers
    · obtain ⟨hstatus,mount,value,before,body,after,hlog,hmount,hrest⟩ := ih row hrow hnumbers
      exact ⟨hstatus,mount,value,before,body,after,hlog,List.mem_cons_of_mem _ hmount,hrest⟩
  | @observed mount own mounts rows body check log _ hbody _ _ _ ih =>
    intro row hrow hnumbers
    rcases List.mem_cons.mp hrow with rfl | hrow
    · obtain ⟨hstatus,value,first,after,rfl,hrest⟩ := hbody.numbers hnumbers
      exact ⟨hstatus,mount,value,[said .work (.ok ())],first,after ++ (check ++ log),by simp,List.mem_cons_self,hbody.shows,hrest⟩
    · obtain ⟨hstatus,mount,value,before,first,after,hlog,hmount,hrest⟩ := ih row hrow hnumbers
      exact ⟨hstatus,mount,value,said .work (.ok ()) :: (body ++ (check ++ before)),first,after,by simp [hlog],
        List.mem_cons_of_mem _ hmount,hrest⟩

section Counters

theorem str_natCast (n : ℕ) : str n = decimal n := by
  have h : ¬(n : ℤ) < 0 := by omega
  simp [str,h]

theorem counters_lawful {total free available unit : ℤ} {c : StorageCounters} (h : counters total free available unit = some c) :
    c.Lawful := by
  unfold counters at h
  split at h
  · cases h
  next hany =>
  split at h
  · cases h
  next hbounds =>
  cases h
  simp only [List.any_cons,List.any_nil,Bool.or_eq_true,decide_eq_true_eq] at hany
  obtain ⟨unit,rfl⟩ := Int.eq_ofNat_of_zero_le (show 0 ≤ unit by omega)
  obtain ⟨available,rfl⟩ := Int.eq_ofNat_of_zero_le (show 0 ≤ available by omega)
  obtain ⟨free,rfl⟩ := Int.eq_ofNat_of_zero_le (show 0 ≤ free by omega)
  obtain ⟨total,rfl⟩ := Int.eq_ofNat_of_zero_le (show 0 ≤ total by omega)
  have havailable : available ≤ free := by omega
  have hfree : free ≤ total := by omega
  refine ⟨total * unit,(total - free) * unit,free * unit,available * unit,(free - available) * unit,?_,?_,?_⟩
  · simp only [← str_natCast,Int.natCast_mul,Int.ofNat_sub havailable,Int.ofNat_sub hfree]
  · rw [← Nat.add_mul,Nat.sub_add_cancel hfree]
  · rw [← Nat.add_mul,Nat.add_sub_cancel' havailable]

theorem inodesOf_lawful {value : Statistics} : ∀ c ∈ inodesOf value, c.Lawful := by
  intro c hc
  unfold inodesOf at hc
  split at hc
  · exact counters_lawful hc
  · cases hc

end Counters

theorem Rounds.lawful {mounts : List Mount} {rows : List StorageMount} (h : Rounds identity original mounts rows log) :
    ∀ row ∈ rows, (∀ c ∈ row.bytes, c.Lawful) ∧ ∀ c ∈ row.inodes, c.Lawful := by
  intro row hrow
  by_cases hnumbers : row.bytes.isSome = true ∨ row.inodes.isSome = true
  · obtain ⟨_,_,value,_,_,_,_,_,_,_,_,hbytes,hinodes⟩ := h.numbers row hrow hnumbers
    rw [hbytes,hinodes]
    exact ⟨fun _ hc => counters_lawful hc,inodesOf_lawful⟩
  · obtain ⟨hbytes,hinodes⟩ := not_or.mp hnumbers
    simp [Option.not_isSome_iff_eq_none.mp hbytes,Option.not_isSome_iff_eq_none.mp hinodes]

section Quietness

/-- Anything but a look at the namespace. -/
def Elsewhere (op : Call) : Prop := op ≠ .readNamespace

variable {α : Type} {p : Program Kernel Raised α}

theorem ask_elsewhere {op : Call} (h : op ≠ .readNamespace) : (ask op).All Elsewhere := ⟨h,fun _ => trivial⟩

theorem table_elsewhere : table.All Elsewhere := by
  refine (ask_elsewhere (by simp)).bind fun data => ?_
  trivial

theorem mountId_elsewhere : (mountId fd).All Elsewhere := by
  refine (ask_elsewhere (by simp)).bind fun data => ?_
  trivial

theorem validate_elsewhere : (validate fd original allowed).All Elsewhere := by
  refine mountId_elsewhere.bind fun mid => table_elsewhere.bind fun current => ?_
  split
  · trivial
  cases current.find? fun m => decide (m.mountId = mid) with
  | none => trivial
  | some found =>
    dsimp only
    split
    · trivial
    refine (ask_elsewhere (by simp)).bind fun info => ?_
    split
    · trivial
    split <;> trivial

theorem releasing_elsewhere (h : p.All Elsewhere) : (releasing fd p).All Elsewhere :=
  h.tryCatch fun _ => (ask_elsewhere (by simp)).bind fun _ => trivial

theorem closing_elsewhere (h : p.All Elsewhere) : (closing fd p).All Elsewhere :=
  (releasing_elsewhere h).bind fun _ => (ask_elsewhere (by simp)).bind fun _ => trivial

theorem descend_elsewhere {components : List Text} : (descend original allowed fd components).All Elsewhere := by
  induction components generalizing fd with
  | nil => trivial
  | cons component rest ih =>
    rw [descend]
    split
    · exact ih
    · refine (releasing_elsewhere ?_).bind fun _ => (releasing_elsewhere validate_elsewhere).bind fun _ => ih
      refine (ask_elsewhere (by simp)).bind fun _ => (ask_elsewhere (by simp)).bind fun _ => ?_
      trivial

theorem pin_elsewhere {path : Text} : (pin path original allowed).All Elsewhere := by
  rw [pin]
  split
  · trivial
  · exact (ask_elsewhere (by simp)).bind fun _ => (releasing_elsewhere validate_elsewhere).bind fun _ => descend_elsewhere

theorem sample_elsewhere : (sample mount original).All Elsewhere := by
  refine pin_elsewhere.bind fun fd => closing_elsewhere (validate_elsewhere.bind fun found => ?_)
  split
  · trivial
  refine (ask_elsewhere (by simp)).bind fun value => validate_elsewhere.bind fun again => ?_
  split <;> trivial

theorem onSysfs_elsewhere : (onSysfs fd original).All Elsewhere := by
  refine validate_elsewhere.bind fun found => ?_
  split <;> trivial

theorem deviceNumber_elsewhere : (deviceNumber original fd).All Elsewhere := by
  refine (ask_elsewhere (by simp)).bind fun numberFd => closing_elsewhere (onSysfs_elsewhere.bind fun _ =>
    (ask_elsewhere (by simp)).bind fun readFd => closing_elsewhere (onSysfs_elsewhere.bind fun _ =>
      (ask_elsewhere (by simp)).bind fun data => ?_))
  cases ascii data <;> trivial

theorem backing_elsewhere : (backing mount original).All Elsewhere := by
  refine pin_elsewhere.bind fun fd => closing_elsewhere (onSysfs_elsewhere.bind fun _ =>
    (ask_elsewhere (by simp)).bind fun target => ?_)
  dsimp only
  split
  · trivial
  split
  · trivial
  refine pin_elsewhere.bind fun deviceFd => closing_elsewhere (onSysfs_elsewhere.bind fun _ => deviceNumber_elsewhere.bind fun number => ?_)
  split
  · trivial
  refine table_elsewhere.bind fun current => ?_
  split
  · trivial
  split <;> trivial

theorem sampleRow_elsewhere {row : StorageMount} : (sampleRow mount original row).All Elsewhere := by
  refine sample_elsewhere.attempt.bind fun result => ?_
  cases result with
  | error e => trivial
  | ok value =>
    cases hbytes : counters value.blocks value.bfree value.bavail value.frsize with
    | none =>
      simp only [hbytes]
      trivial
    | some bytes =>
      simp only [hbytes]
      refine backing_elsewhere.attempt.bind fun named => ?_
      cases named <;> trivial

end Quietness

theorem stopping_ok {α : Type} {p : Program Kernel Raised α} {seen : Option Text} {rows : List StorageMount} {a : α}
    (h : (stopping seen rows p).Runs log (.ok a)) : p.Runs log (.ok a) := by
  obtain ⟨y,hy,hsame⟩ := h.of_mapError
  cases y with
  | ok b =>
    cases hsame
    exact hy
  | error e => cases hsame

theorem collectRows_ok {mounts : List Mount} {rows rows' : List StorageMount}
    (h : (collectRows identity original mounts rows).Runs log (.ok rows')) :
    ∃ more, rows' = rows ++ more ∧ Rounds identity original mounts more log := by
  induction mounts generalizing rows log with
  | nil =>
    obtain ⟨rfl,hrows⟩ := Program.runs_ret.mp h
    cases hrows
    exact ⟨[],by simp,.nil⟩
  | cons mount mounts ih =>
    rw [collectRows] at h
    split at h
    · next hfilesystem =>
      obtain ⟨more,rfl,hmore⟩ := ih h
      exact ⟨passedOver mount :: more,by simp,.passed hfilesystem hmore⟩
    · next hfilesystem =>
      obtain ⟨_,working,rest,hworking,hworked,rfl⟩ := Program.runs_bind_ok h
      obtain ⟨row,body,rest,hbody,hsampled,rfl⟩ := Program.runs_bind_ok hworked
      obtain ⟨_,check,rest,hcheck,hchecked,rfl⟩ := Program.runs_bind_ok hsampled
      obtain ⟨more,rfl,hmore⟩ := ih hchecked
      have hrow := stopping_ok hbody
      refine ⟨row :: more,by simp,?_⟩
      rw [(stopping_ok hworking).of_call,List.singleton_append]
      exact .observed (not_not.mp hfilesystem) (sampleRow_ok hrow) (hrow.all sampleRow_elsewhere) (revalidate_ok (stopping_ok hcheck)) hmore

/-- What a collection that was not stopped answers. -/
theorem collected_ok {answer : StorageObservation} (h : collected.Runs log (.ok answer)) :
    ∃ identity original first rounds last rows, log = first ++ (rounds ++ last) ∧ Compared identity original first ∧
      Rounds identity original (original.take maxMounts) rows rounds ∧ Compared identity original last ∧
      answer = coverage identity original rows := by
  obtain ⟨identity,reading,rest,hreading,hread,rfl⟩ := Program.runs_bind_ok h
  obtain ⟨original,listing,rest,hlisting,hlisted,rfl⟩ := Program.runs_bind_ok hread
  obtain ⟨rows,rounds,rest,hrounds,hrows,rfl⟩ := Program.runs_bind_ok hlisted
  obtain ⟨_,last,rest,hlast,hanswer,rfl⟩ := Program.runs_bind_ok hrows
  obtain ⟨rfl,hsame⟩ := Program.runs_ret.mp hanswer
  cases hsame
  obtain ⟨data,hdata,htable⟩ := table_ok (stopping_ok hlisting)
  obtain ⟨more,rfl,hmore⟩ := collectRows_ok hrounds
  refine ⟨identity,original,[said .readNamespace (.ok identity),said .readTable (.ok data)],rounds,last,rows,?_,⟨data,rfl,htable⟩,
    hmore,revalidate_ok (stopping_ok hlast),rfl⟩
  rw [readNamespace_ok (stopping_ok hreading),hdata]
  simp

theorem Observed.bytes {row : StorageMount} (h : Observed mount original log row) (hrow : row.status = .observed) :
    row.bytes.isSome = true := by
  cases h with
  | failed => cases hrow
  | sampled => rfl
  | named => rfl

/-- Where every row was observed with inodes, every mount is one of them. -/
theorem Rounds.complete {mounts : List Mount} {rows : List StorageMount} (h : Rounds identity original mounts rows log)
    (hall : ∀ row ∈ rows, row.status = .observed ∧ row.inodes.isSome = true) :
    List.Forall₂ (fun mount row => row.Shows mount ∧ row.status = .observed ∧ row.bytes.isSome = true ∧ row.inodes.isSome = true) mounts rows := by
  induction h with
  | nil => exact .nil
  | @passed mount _ _ _ _ _ ih =>
    have hrow := (hall _ List.mem_cons_self).2
    simp [numbers_passedOver] at hrow
  | observed _ hbody _ _ _ ih =>
    obtain ⟨hstatus,hinodes⟩ := hall _ List.mem_cons_self
    exact .cons ⟨hbody.shows,hstatus,hbody.bytes hstatus,hinodes⟩ (ih fun row hrow => hall row (List.mem_cons_of_mem _ hrow))

section Coverage

variable {rows : List StorageMount}

theorem coverage_status : (coverage identity original rows).status = .partly ∨
    ((coverage identity original rows).status = .complete ∧ original.length ≤ maxMounts ∧
      ∀ row ∈ rows, row.status = .observed ∧ row.inodes.isSome = true) := by
  unfold coverage
  split
  · exact .inl rfl
  next hlength =>
  split
  · next hall =>
    refine .inr ⟨rfl,by omega,fun row hrow => ?_⟩
    simpa using List.all_eq_true.mp hall row hrow
  · exact .inl rfl

theorem coverage_rest : (coverage identity original rows).namespaceId = some identity ∧ (coverage identity original rows).mounts = rows := by
  unfold coverage
  split
  · exact ⟨rfl,rfl⟩
  split <;> exact ⟨rfl,rfl⟩

end Coverage

/-- A collection answers, with what it collected or with what it had when it was stopped. -/
theorem collect_ok {x : Except Raised StorageObservation} (h : collect.Runs log x) : ∃ answer, x = .ok answer ∧
    (collected.Runs log (.ok answer) ∨ ∃ stopped : Stopped, answer = stopped.answer) := by
  rcases Program.runs_bind h with ⟨e,he,_⟩ | ⟨result,first,rest,hfirst,hrest,rfl⟩
  · obtain ⟨y,hy,_⟩ := he.of_attempt
    cases hy
  · obtain ⟨y,hy,hcollected⟩ := hfirst.of_attempt
    cases hy
    cases result with
    | ok answer =>
      obtain ⟨rfl,rfl⟩ := Program.runs_ret.mp hrest
      exact ⟨answer,rfl,.inl (by simpa using hcollected)⟩
    | error stopped =>
      obtain ⟨rfl,rfl⟩ := Program.runs_ret.mp hrest
      exact ⟨stopped.answer,rfl,.inr ⟨stopped,rfl⟩⟩

theorem collected_snapshot {answer : StorageObservation} (h : collected.Runs log (.ok answer)) : Snapshot log answer := by
  obtain ⟨identity,original,first,rounds,last,rows,rfl,hfirst,hrounds,hlast,rfl⟩ := collected_ok h
  obtain ⟨hnamespace,hmounts⟩ := @coverage_rest original identity rows
  have hkept : (coverage identity original rows).status ≠ .unavailable := by
    rcases @coverage_status original identity rows with hstatus | ⟨hstatus,_⟩ <;> simp [hstatus]
  have hsteady : Steady identity original (rounds ++ last) := hrounds.steady.append hlast.steady
  have hcollected : Collected identity original (first ++ (rounds ++ last)) (coverage identity original rows) := by
    refine ⟨hnamespace,⟨first,rounds,last,rfl,hfirst,by rwa [hmounts],hlast⟩,?_,?_⟩
    · intro row hrow hnumbers
      rw [hmounts] at hrow
      obtain ⟨hstatus,mount,value,before,body,after,rfl,hmount,hrest⟩ := hrounds.numbers row hrow hnumbers
      exact ⟨hstatus,mount,value,first ++ before,body,after ++ last,by simp,List.mem_of_mem_take hmount,hrest⟩
    · intro hcomplete
      rcases @coverage_status original identity rows with hstatus | ⟨_,hlength,hall⟩
      · rw [hstatus] at hcomplete
        cases hcomplete
      · rw [hmounts]
        rw [List.take_of_length_le hlength] at hrounds
        exact hrounds.complete hall
  refine ⟨fun hstatus => absurd hstatus hkept,fun _ => ⟨identity,original,hcollected⟩,?_,by rw [hmounts]; exact hrounds.lawful⟩
  rintro ⟨identity',original',first',rest,hlog,hfirst',hchange⟩
  exfalso
  obtain ⟨data,rfl,hdata⟩ := hfirst
  obtain ⟨data',rfl,hdata'⟩ := hfirst'
  simp only [List.cons_append,List.nil_append,List.cons.injEq] at hlog
  obtain ⟨hidentity,htable,rfl⟩ := hlog
  cases hidentity
  cases htable
  cases hdata.symm.trans hdata'
  rcases hchange with ⟨answer,hanswer,hne⟩ | ⟨before,seen,answer,after,hrest,hne⟩
  · obtain ⟨before,after,hrest⟩ := List.append_of_mem hanswer
    exact hne (hsteady before answer after hrest).1
  · obtain ⟨_,data,more,hmore,hdata⟩ := hsteady before seen (said .readTable answer :: after) hrest
    cases hmore
    exact hne data rfl hdata

theorem stopped_snapshot (stopped : Stopped) : Snapshot log stopped.answer := by
  have hblank : ∀ row ∈ stopped.answer.mounts, row.bytes = none ∧ row.inodes = none ∧ row.backingName = none := by
    intro row hrow
    obtain ⟨_,_,rfl⟩ := List.mem_map.mp hrow
    exact ⟨rfl,rfl,rfl⟩
  refine ⟨fun _ => hblank,fun h => absurd rfl h,fun _ => rfl,fun row hrow => ?_⟩
  obtain ⟨hbytes,hinodes,_⟩ := hblank row hrow
  simp [hbytes,hinodes]

/-- Whatever the kernel answers and raises, a collection answers, and the answer is a snapshot of its record. -/
theorem collect_snapshot (kernel : ℕ → (op : Call) → Except Raised op.Answer) :
    ∃ answer log, collect.transcript kernel = (.ok answer,log) ∧ Snapshot log answer := by
  have hruns := Program.runs_transcript collect kernel
  generalize collect.transcript kernel = result at hruns
  obtain ⟨x,log⟩ := result
  obtain ⟨answer,rfl,hanswer⟩ := collect_ok hruns
  refine ⟨answer,log,rfl,?_⟩
  rcases hanswer with hcollected | ⟨stopped,rfl⟩
  · exact collected_snapshot hcollected
  · exact stopped_snapshot stopped

/-- A read of the table shows other mounts than another read of it. -/
def Moved (log : List Event) : Prop :=
  ∃ data data' mounts mounts', said .readTable (.ok data) ∈ log ∧ said .readTable (.ok data') ∈ log ∧
    tableOf data = .ok mounts ∧ tableOf data' = .ok mounts' ∧ mounts ≠ mounts'

section Passing

def rootLine : Text := "1 0 8:1 / / rw - ext4 d rw\n".toList
def otherLine : Text := "2 1 8:2 / /m rw - ext4 d rw\n".toList

/-- Another mount comes while the backing device is looked up, and has gone by the next comparison. -/
def passing (n : ℕ) : (op : Call) → Except Raised op.Answer
  | .readNamespace => .ok "mnt:[1]".toList
  | .readTable => .ok (Utf8.encode (if n = 17 then rootLine ++ otherLine else rootLine))
  | .readFdinfo _ => .ok (Utf8.encode "mnt_id:1\n".toList)
  | .fstat _ => .ok ⟨false,8,1⟩
  | .openRoot => .ok 3
  | .openAt _ _ => .ok 4
  | .reopen _ => .ok 5
  | .close _ => .ok ()
  | .readlink _ _ => .ok []
  | .read _ => .ok []
  | .fstatvfs _ => .ok ⟨10,4,3,4096,20,8,8⟩
  | .work => .ok ()

theorem exists_mounts {data : Bytes} {n : ℕ} (h : (tableOf data).toOption.map List.length = some n) :
    ∃ mounts, tableOf data = .ok mounts ∧ mounts.length = n := by
  cases hdata : tableOf data with
  | error e => simp [hdata,Except.toOption] at h
  | ok mounts => exact ⟨mounts,rfl,by simpa [hdata,Except.toOption] using h⟩

set_option maxRecDepth 20000 in
/-- A table that changed under a row's own reads and changed back leaves a complete answer. -/
theorem collect_misses_passing : ¬∀ (kernel : ℕ → (op : Call) → Except Raised op.Answer) answer log,
    collect.transcript kernel = (.ok answer,log) → Moved log → answer.status = .unavailable := by
  intro h
  obtain ⟨answer,log,hrun,_⟩ := collect_snapshot passing
  obtain ⟨mounts,htable,hone⟩ := @exists_mounts (Utf8.encode rootLine) 1 (by decide)
  obtain ⟨mounts',htable',htwo⟩ := @exists_mounts (Utf8.encode (rootLine ++ otherLine)) 2 (by decide)
  have hfirst : (collect.transcript passing).2[1]? = some (said .readTable (.ok (Utf8.encode rootLine))) := rfl
  have hlater : (collect.transcript passing).2[17]? = some (said .readTable (.ok (Utf8.encode (rootLine ++ otherLine)))) := rfl
  have hstatus : (collect.transcript passing).1.toOption.map (·.status) = some .complete := by decide +kernel
  have hunavailable := h passing answer log hrun ⟨_,_,mounts,mounts',by rw [hrun] at hfirst; exact List.mem_of_getElem? hfirst,
    by rw [hrun] at hlater; exact List.mem_of_getElem? hlater,htable,htable',by rintro rfl; omega⟩
  rw [hrun] at hstatus
  simp [Except.toOption,hunavailable] at hstatus

end Passing

end Storage
end LocalPlane
