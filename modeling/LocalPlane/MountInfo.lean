import LocalPlane.TextLines
import LocalPlane.TextNumbers
import LocalPlane.Texts
import LocalPlane.Utf8

/-!
# Reading the mount table

The storage worker reads the kernel's mount table from its bytes, a line for each mount and
single spaces between the fields of one. What it accepts is stated beside it as a grammar: a
path may spell a character plainly or by its escape, and a number as `int()` reads it.
-/

set_option linter.dupNamespace false

namespace LocalPlane
namespace MountInfo
open Utf8 TextLines TextNumbers

abbrev Bytes := List UInt8
abbrev Text := List Char

structure Mount where
  mountId : ℤ
  parentId : ℤ
  device : Text
  root : Text
  path : Text
  filesystem : Text
  readOnly : Bool
  tupleEvidence : Text
deriving DecidableEq,Repr

inductive Failure where
  | evidence (reason : String)
  | unicode
deriving DecidableEq,Repr

def metadataBytes : ℕ := 1024 * 1024

def malformed : String := "Mount evidence was malformed, changed or did not match the pinned descriptor."
def exceeded : String := "Mount metadata exceeded the 1 MiB bound; no statistics sampled."
def truncated : String := "Mount metadata is truncated or incomplete; no statistics sampled."

def nul : Char := Char.ofNat 0

/-- `_ESCAPES` -/
def escapeOf : Char → Char → Char → Option Char
  | '0','4','0' => some ' '
  | '0','1','1' => some '\t'
  | '0','1','2' => some '\n'
  | '1','3','4' => some '\\'
  | _,_,_ => none

def decimalDigit (c : Char) : Bool := 48 ≤ c.toNat && c.toNat ≤ 57

/-- `re.sub(r"\\(?:040|011|012|134)", "", value)` -/
def stripKnown : Text → Text
  | '\\' :: a :: b :: c :: rest =>
    if (escapeOf a b c).isSome then stripKnown rest else '\\' :: stripKnown (a :: b :: c :: rest)
  | c :: rest => c :: stripKnown rest
  | [] => []

/-- `re.sub(r"\\([0-9]{3})", replace, value)` -/
def replaceEscapes : Text → Option Text
  | '\\' :: a :: b :: c :: rest =>
    if decimalDigit a && decimalDigit b && decimalDigit c then
      (escapeOf a b c).bind fun e => (replaceEscapes rest).map (e :: ·)
    else (replaceEscapes (a :: b :: c :: rest)).map ('\\' :: ·)
  | c :: rest => (replaceEscapes rest).map (c :: ·)
  | [] => some []

def unescape (value : Text) : Option Text :=
  if '\\' ∈ stripKnown value then none
  else (replaceEscapes value).bind fun result => if 4096 < result.length ∨ nul ∈ result then none else some result

def shortDigits (text : Text) : Bool := 1 ≤ text.length && text.length ≤ 10 && text.all decimalDigit

/-- `[0-9]{1,10}:[0-9]{1,10}` -/
def deviceShape (text : Text) : Bool :=
  match text.splitOn ':' with
  | [major,minor] => shortDigits major && shortDigits minor
  | _ => false

def filesystemChar (c : Char) : Bool :=
  decimalDigit c || (65 ≤ c.toNat && c.toNat ≤ 90) || (97 ≤ c.toNat && c.toNat ≤ 122) || c = '_' || c = '.' || c = '-'

/-- `[a-zA-Z0-9_.-]{1,64}` -/
def filesystemShape (text : Text) : Bool := 1 ≤ text.length && text.length ≤ 64 && text.all filesystemChar

def namespaceNames : List Text :=
  ["cgroup","ipc","mnt","net","pid","pid_for_children","time","time_for_children","user","uts"].map String.toList

/-- `0|[1-9][0-9]{0,9}`, and no more than an inode number can be. -/
def inodeShape (text : Text) : Bool :=
  (text = ['0'] || (shortDigits text && text.head? ≠ some '0')) && ofDigits (text.map fun c => c.toNat - 48) ≤ 2 ^ 32 - 1

/-- `_NSFS_ROOT` -/
def namespaceRoot (root : Text) : Bool :=
  namespaceNames.any fun name =>
    let opening := name ++ [':','[']
    root.take opening.length = opening && root.getLast? = some ']' && inodeShape (root.drop opening.length).dropLast

def nsfs : Text := "nsfs".toList

def rooted (filesystem root : Text) : Bool := if filesystem = nsfs then namespaceRoot root else root.head? = some '/'

def dash : Text := ['-']

/-- Read-only and read-write are each said or not. -/
def saysReadOnly (options : Text) : Bool := ['r','o'] ∈ options.splitOn ','
def saysReadWrite (options : Text) : Bool := ['r','w'] ∈ options.splitOn ','

def parseLine (ids : List ℤ) (line : Text) : Option Mount :=
  let fields := line.splitOn ' '
  let field := fun n => fields.getD n []
  (fields.idxOf? dash).bind fun sep =>
  if sep < 6 ∨ fields.length ≠ sep + 4 then none
  else (int (field 0)).bind fun mid => (int (field 1)).bind fun parent =>
  if ¬(0 < mid ∧ mid < 2 ^ 53) ∨ ¬(0 ≤ parent ∧ parent < 2 ^ 53) ∨ mid ∈ ids ∨ deviceShape (field 2) = false then none
  else if filesystemShape (field (sep + 1)) = false then none
  else (unescape (field 4)).bind fun path => (unescape (field 3)).bind fun root =>
  if path.head? ≠ some '/' then none
  else if rooted (field (sep + 1)) root = false then none
  else if saysReadOnly (field 5) = saysReadWrite (field 5) then none
  else some ⟨mid,parent,field 2,root,path,field (sep + 1),saysReadOnly (field 5),line⟩

def parseLines : List ℤ → List Text → Option (List Mount)
  | _,[] => some []
  | ids,line :: lines => (parseLine ids line).bind fun m => (parseLines (m.mountId :: ids) lines).map (m :: ·)

def parseMountinfo (data : Bytes) : Except Failure (List Mount) :=
  if metadataBytes < data.length then .error (.evidence exceeded)
  else if data.getLast? ≠ some 10 then .error (.evidence truncated)
  else match decodeStrict data with
    | none => .error .unicode
    | some text =>
      match parseLines [] (splitlines text) with
      | none => .error (.evidence malformed)
      | some mounts => .ok mounts

/-- A text spells a path, each character plainly or by its escape. -/
inductive Spells : Text → Text → Prop
  | nil : Spells [] []
  | plain {c : Char} {text path : Text} (hc : c ≠ '\\') (h : Spells text path) : Spells (c :: text) (c :: path)
  | escaped {a b c e : Char} {text path : Text} (he : escapeOf a b c = some e) (h : Spells text path) :
      Spells ('\\' :: a :: b :: c :: text) (e :: path)

/-- A path the worker keeps. -/
def Bounded (path : Text) : Prop := path.length ≤ 4096 ∧ nul ∉ path

/-- The fields of a line. -/
structure Fields where
  id : Text
  parent : Text
  device : Text
  root : Text
  path : Text
  options : Text
  optional : List Text
  filesystem : Text
  source : Text
  superOptions : Text

def Fields.front (f : Fields) : List Text := [f.id,f.parent,f.device,f.root,f.path,f.options] ++ f.optional

def Fields.list (f : Fields) : List Text := f.front ++ [dash,f.filesystem,f.source,f.superOptions]

/-- What the fields of an accepted line say. -/
structure Fields.Says (f : Fields) (m : Mount) : Prop where
  front : dash ∉ f.front
  id : int f.id = some m.mountId
  idRange : 0 < m.mountId ∧ m.mountId < 2 ^ 53
  parent : int f.parent = some m.parentId
  parentRange : 0 ≤ m.parentId ∧ m.parentId < 2 ^ 53
  device : m.device = f.device ∧ deviceShape f.device = true
  filesystem : m.filesystem = f.filesystem ∧ filesystemShape f.filesystem = true
  path : Spells f.path m.path ∧ Bounded m.path ∧ m.path.head? = some '/'
  root : Spells f.root m.root ∧ Bounded m.root ∧ rooted f.filesystem m.root = true
  options : saysReadOnly f.options ≠ saysReadWrite f.options ∧ m.readOnly = saysReadOnly f.options

/-- A line is accepted as a mount. -/
def Reads (line : Text) (m : Mount) : Prop := m.tupleEvidence = line ∧ ∃ f : Fields, line.splitOn ' ' = f.list ∧ f.Says m

section Paths

variable {text path : Text}

theorem decimalDigit_of_escapeOf {a b c e : Char} (h : escapeOf a b c = some e) :
    decimalDigit a = true ∧ decimalDigit b = true ∧ decimalDigit c = true := by
  unfold escapeOf at h
  split at h <;> first | exact ⟨by decide,by decide,by decide⟩ | cases h

theorem stripKnown_plain {c : Char} (hc : c ≠ '\\') : stripKnown (c :: text) = c :: stripKnown text := by
  rw [stripKnown]
  rintro a b d rest rfl
  exact absurd rfl hc

theorem replaceEscapes_plain {c : Char} (hc : c ≠ '\\') : replaceEscapes (c :: text) = (replaceEscapes text).map (c :: ·) := by
  rw [replaceEscapes]
  rintro a b d rest rfl
  exact absurd rfl hc

theorem Spells.unescape (h : Spells text path) : '\\' ∉ stripKnown text ∧ replaceEscapes text = some path := by
  induction h with
  | nil => exact ⟨by simp [stripKnown],by simp [replaceEscapes]⟩
  | @plain c text path hc h ih =>
    rw [stripKnown_plain hc,replaceEscapes_plain hc,ih.2]
    exact ⟨by simpa [Ne.symm hc] using ih.1,rfl⟩
  | @escaped a b c e text path he h ih =>
    obtain ⟨ha,hb,hd⟩ := decimalDigit_of_escapeOf he
    rw [stripKnown,replaceEscapes,ih.2]
    simp [he,ha,hb,hd,ih.1]

/-- Text that keeps no backslash once the known escapes are taken out spells a path. -/
theorem exists_spells (h : '\\' ∉ stripKnown text) : ∃ path, Spells text path := by
  induction text using stripKnown.induct with
  | case1 a b c rest hknown ih =>
    rw [stripKnown,if_pos hknown] at h
    obtain ⟨path,hpath⟩ := ih h
    obtain ⟨e,he⟩ := Option.isSome_iff_exists.mp hknown
    exact ⟨e :: path,.escaped he hpath⟩
  | case2 a b c rest hknown ih =>
    rw [stripKnown,if_neg hknown] at h
    exact absurd List.mem_cons_self h
  | case3 c rest hother ih =>
    rw [stripKnown] at h
    · have hc : c ≠ '\\' := by
        rintro rfl
        exact h List.mem_cons_self
      obtain ⟨path,hpath⟩ := ih fun hm => h (List.mem_cons_of_mem _ hm)
      exact ⟨c :: path,.plain hc hpath⟩
    · exact hother
  | case4 => exact ⟨[],.nil⟩

theorem unescape_iff : unescape text = some path ↔ Spells text path ∧ Bounded path := by
  unfold MountInfo.unescape
  constructor
  · intro h
    split at h
    · cases h
    · next hstrip =>
      obtain ⟨path',hpath'⟩ := exists_spells hstrip
      rw [hpath'.unescape.2,Option.bind_some] at h
      split at h
      · cases h
      · next hbound =>
        cases h
        exact ⟨hpath',by rw [not_or,not_lt] at hbound; exact hbound⟩
  · intro ⟨hspells,hbound⟩
    rw [if_neg hspells.unescape.1,hspells.unescape.2,Option.bind_some,if_neg]
    rw [not_or,not_lt]
    exact hbound

end Paths

section Lines

variable {ids : List ℤ} {line : Text} {m : Mount} {fields : List Text} {sep : ℕ}

theorem idxOf?_append {α : Type} [BEq α] [LawfulBEq α] {x : α} {xs ys : List α} (h : x ∉ xs) :
    (xs ++ x :: ys).idxOf? x = some xs.length := by
  induction xs with
  | nil => simp [List.idxOf?_cons]
  | cons y xs ih =>
    have hne : (y == x) = false := beq_eq_false_iff_ne.mpr fun he => h (he ▸ List.mem_cons_self)
    rw [List.cons_append,List.idxOf?_cons,hne,ih fun hm => h (List.mem_cons_of_mem _ hm)]
    rfl

theorem exists_of_idxOf? {α : Type} [BEq α] [LawfulBEq α] {x : α} {zs : List α} {n : ℕ} (h : zs.idxOf? x = some n) :
    ∃ xs ys, zs = xs ++ x :: ys ∧ x ∉ xs ∧ xs.length = n := by
  induction zs generalizing n with
  | nil => cases h
  | cons z zs ih =>
    rw [List.idxOf?_cons] at h
    by_cases hz : z == x
    · rw [if_pos hz] at h
      cases h
      exact ⟨[],zs,by rw [eq_of_beq hz]; rfl,by simp,rfl⟩
    · rw [if_neg hz] at h
      obtain ⟨n,hn,rfl⟩ := Option.map_eq_some_iff.mp h
      obtain ⟨xs,ys,rfl,hx,hlen⟩ := ih hn
      refine ⟨z :: xs,ys,rfl,?_,by simp [hlen]⟩
      rintro (_ | ⟨_,hm⟩)
      · exact hz (beq_self_eq_true _)
      · exact hx hm

/-- The fields stand in their places around the separator that is found by search. -/
theorem exists_fields (h : fields.idxOf? dash = some sep) (hsep : ¬(sep < 6 ∨ fields.length ≠ sep + 4)) :
    ∃ f : Fields, fields = f.list ∧ dash ∉ f.front ∧ sep = f.front.length := by
  obtain ⟨front,back,rfl,hfront,rfl⟩ := exists_of_idxOf? h
  rw [not_or,not_lt,not_not,List.length_append,List.length_cons] at hsep
  obtain ⟨hsix,hlen⟩ := hsep
  have hback : back.length = 3 := by omega
  match back,hback,front,hsix,hfront with
  | [filesystem,source,superOptions],_,id :: parent :: device :: root :: path :: options :: optional,_,hfront =>
    exact ⟨⟨id,parent,device,root,path,options,optional,filesystem,source,superOptions⟩,rfl,hfront,rfl⟩

theorem Fields.filesystem_at (f : Fields) : f.list.getD (f.front.length + 1) [] = f.filesystem := by
  simp [Fields.list,List.getD_eq_getElem?_getD]

theorem Fields.length_list (f : Fields) : f.list.length = f.front.length + 4 := by simp [Fields.list]

/-- A line is accepted as what its fields say. -/
theorem parseLine_iff : parseLine ids line = some m ↔ Reads line m ∧ m.mountId ∉ ids := by
  constructor
  · intro h
    unfold parseLine at h
    obtain ⟨sep,hsep,h⟩ := Option.bind_eq_some_iff.mp h
    obtain ⟨hshape,h⟩ := Option.ite_none_left_eq_some.mp h
    obtain ⟨f,hf,hfront,rfl⟩ := exists_fields hsep hshape
    rw [hf] at h
    beta_reduce at h
    rw [f.filesystem_at] at h
    obtain ⟨mid,hmid,h⟩ := Option.bind_eq_some_iff.mp h
    obtain ⟨parent,hparent,h⟩ := Option.bind_eq_some_iff.mp h
    obtain ⟨hrange,h⟩ := Option.ite_none_left_eq_some.mp h
    rw [not_or,not_or,not_or,not_not,not_not] at hrange
    obtain ⟨hfilesystem,h⟩ := Option.ite_none_left_eq_some.mp h
    obtain ⟨path,hpath,h⟩ := Option.bind_eq_some_iff.mp h
    obtain ⟨root,hroot,h⟩ := Option.bind_eq_some_iff.mp h
    obtain ⟨hspath,hbpath⟩ := unescape_iff.mp hpath
    obtain ⟨hsroot,hbroot⟩ := unescape_iff.mp hroot
    obtain ⟨hhead,h⟩ := Option.ite_none_left_eq_some.mp h
    obtain ⟨hrooted,h⟩ := Option.ite_none_left_eq_some.mp h
    obtain ⟨hoptions,h⟩ := Option.ite_none_left_eq_some.mp h
    cases h
    refine ⟨⟨rfl,f,hf,hfront,hmid,hrange.1,hparent,hrange.2.1,⟨rfl,?_⟩,⟨rfl,by simpa using hfilesystem⟩,
      ⟨hspath,hbpath,not_not.mp hhead⟩,⟨hsroot,hbroot,by simpa using hrooted⟩,hoptions,rfl⟩,hrange.2.2.1⟩
    exact Bool.not_eq_false _ ▸ hrange.2.2.2
  · intro ⟨⟨hline,f,hf,h⟩,hids⟩
    have hsep : (line.splitOn ' ').idxOf? dash = some f.front.length := hf ▸ idxOf?_append h.front
    have hsix : 6 ≤ f.front.length := by simp [Fields.front]
    unfold parseLine
    refine Option.bind_eq_some_iff.mpr ⟨_,hsep,?_⟩
    rw [hf,if_neg (by rw [f.length_list]; omega)]
    beta_reduce
    rw [f.filesystem_at]
    have hid : int (f.list.getD 0 []) = some m.mountId := h.id
    have hparent : int (f.list.getD 1 []) = some m.parentId := h.parent
    have hpath : unescape (f.list.getD 4 []) = some m.path := unescape_iff.mpr ⟨h.path.1,h.path.2.1⟩
    have hroot : unescape (f.list.getD 3 []) = some m.root := unescape_iff.mpr ⟨h.root.1,h.root.2.1⟩
    have hdevice : deviceShape (f.list.getD 2 []) = true := h.device.2
    have hoptions : ¬saysReadOnly (f.list.getD 5 []) = saysReadWrite (f.list.getD 5 []) := h.options.1
    rw [hid,Option.bind_some,hparent,Option.bind_some,if_neg,if_neg,hpath,Option.bind_some,hroot,Option.bind_some,
      if_neg (not_not.mpr h.path.2.2),if_neg (by simp [h.root.2.2]),if_neg hoptions]
    · obtain ⟨_,_,_,_,_,_,_,_⟩ := m
      have hd : f.list.getD 2 [] = f.device := rfl
      have ho : f.list.getD 5 [] = f.options := rfl
      have h1 := h.device.1
      have h2 := h.filesystem.1
      have h3 := h.options.2
      simp only at h1 h2 h3 hline
      subst h1 h2 h3 hline
      rw [hd,ho]
    · simp [h.filesystem.2]
    · rw [not_or,not_or,not_or,not_not,not_not]
      exact ⟨h.idRange,h.parentRange,hids,by simpa using hdevice⟩

theorem parseLines_iff {lines : List Text} {mounts : List Mount} : parseLines ids lines = some mounts ↔
    List.Forall₂ Reads lines mounts ∧ (mounts.map (·.mountId)).Nodup ∧ ∀ id ∈ ids, id ∉ mounts.map (·.mountId) := by
  induction lines generalizing ids mounts with
  | nil =>
    simp only [parseLines,Option.some.injEq,List.forall₂_nil_left_iff]
    constructor
    · rintro rfl
      simp
    · exact fun h => h.1.symm
  | cons line lines ih =>
    simp only [parseLines,Option.bind_eq_some_iff,Option.map_eq_some_iff]
    constructor
    · rintro ⟨m,hm,rest,hrest,rfl⟩
      obtain ⟨hreads,hnew⟩ := parseLine_iff.mp hm
      obtain ⟨hall,hnodup,hapart⟩ := ih.mp hrest
      refine ⟨.cons hreads hall,?_,fun id hid => ?_⟩
      · rw [List.map_cons,List.nodup_cons]
        exact ⟨hapart _ List.mem_cons_self,hnodup⟩
      · rw [List.map_cons,List.mem_cons,not_or]
        exact ⟨fun he => hnew (he ▸ hid),hapart id (List.mem_cons_of_mem _ hid)⟩
    · rintro ⟨hall,hnodup,hapart⟩
      cases hall with
      | @cons _ m _ rest hreads hall =>
        rw [List.map_cons,List.nodup_cons] at hnodup
        refine ⟨m,parseLine_iff.mpr ⟨hreads,fun hid => hapart _ hid (by simp)⟩,rest,
          ih.mpr ⟨hall,hnodup.2,fun id hid => ?_⟩,rfl⟩
        rcases List.mem_cons.mp hid with rfl | hid
        · exact hnodup.1
        · exact fun hm => hapart id hid (by rw [List.map_cons]; exact List.mem_cons_of_mem _ hm)

end Lines

end MountInfo
end LocalPlane
