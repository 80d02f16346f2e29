import LocalPlane.MountInfo
import Mathlib.Data.List.Nodup

/-!
# The kernel's mount table, printed and read back

The kernel ends a line with a newline and nothing else, and escapes four characters of a
path. The worker's reading of it is compared with the table, for every table and for every
sequence of bytes.
-/

set_option linter.dupNamespace false

namespace LocalPlane
namespace MountInfo
open Utf8 TextLines TextNumbers

/-- The characters that the kernel escapes in a path. -/
def escapeChar (c : Char) : Text :=
  if c = ' ' then ['\\','0','4','0']
  else if c = '\t' then ['\\','0','1','1']
  else if c = '\n' then ['\\','0','1','2']
  else if c = '\\' then ['\\','1','3','4']
  else [c]

def escape (path : Text) : Text := path.flatMap escapeChar

/-- A mount as the kernel holds it. Options, optional fields and the fields after the type are words. -/
structure KernelMount where
  mountId : ℕ
  parentId : ℕ
  major : ℕ
  minor : ℕ
  root : Text
  path : Text
  options : Text
  optional : List Text
  filesystem : Text
  source : Text
  superOptions : Text

/-- What stands in one field and on one line. -/
def Word (text : Text) : Prop := ' ' ∉ text ∧ '\n' ∉ text

namespace KernelMount

def device (k : KernelMount) : Text := decimal k.major ++ ':' :: decimal k.minor

def fields (k : KernelMount) : Fields where
  id := decimal k.mountId
  parent := decimal k.parentId
  device := k.device
  root := escape k.root
  path := escape k.path
  options := k.options
  optional := k.optional
  filesystem := k.filesystem
  source := k.source
  superOptions := k.superOptions

def line (k : KernelMount) : Text := [' '].intercalate k.fields.list

/-- The row of a mount. -/
def row (k : KernelMount) : Mount where
  mountId := k.mountId
  parentId := k.parentId
  device := k.device
  root := k.root
  path := k.path
  filesystem := k.filesystem
  readOnly := saysReadOnly k.options
  tupleEvidence := k.line

/-- What the kernel can hold. -/
structure Valid (k : KernelMount) : Prop where
  mountId : 0 < k.mountId ∧ k.mountId < 2 ^ 53
  parentId : k.parentId < 2 ^ 53
  device : k.major < 10 ^ 10 ∧ k.minor < 10 ^ 10
  path : k.path.head? = some '/' ∧ nul ∉ k.path
  root : rooted k.filesystem k.root = true ∧ nul ∉ k.root
  options : saysReadOnly k.options ≠ saysReadWrite k.options ∧ Word k.options
  optional : ∀ text ∈ k.optional, Word text ∧ text ≠ dash
  filesystem : filesystemShape k.filesystem = true
  source : Word k.source
  superOptions : Word k.superOptions

end KernelMount

/-- A table whose mounts are told apart by their ids. -/
def Table (table : List KernelMount) : Prop := (∀ k ∈ table, k.Valid) ∧ (table.map (·.mountId)).Nodup

def printed (table : List KernelMount) : Text := table.flatMap fun k => k.line ++ ['\n']

def print (table : List KernelMount) : Bytes := encode (printed table)

/-- A table's print, within the size bound. -/
def IsPrint (data : Bytes) (table : List KernelMount) : Prop := Table table ∧ data.length ≤ metadataBytes ∧ data = print table

/-- A print is read back as its table, and what is no print is refused. -/
def Faithful (data : Bytes) : Prop :=
  (∀ table, IsPrint data table → parseMountinfo data = .ok (table.map (·.row))) ∧
    ((¬∃ table, IsPrint data table) → ∃ failure, parseMountinfo data = .error failure)

/-- There is a mount, paths and roots have at most 4096 characters, and nothing but a newline ends a line. -/
def Plain (table : List KernelMount) : Prop :=
  table ≠ [] ∧ (∀ k ∈ table, k.path.length ≤ 4096 ∧ k.root.length ≤ 4096) ∧ ∀ c ∈ printed table, ¬Foreign c

/-- What is read as a table, with lines ended by any break, numbers as `int()` reads them, and paths spelled
with or without escapes. -/
def Loose (data : Bytes) (mounts : List Mount) : Prop :=
  data.length ≤ metadataBytes ∧ ∃ text, data = encode text ∧ text.getLast? = some '\n' ∧
    List.Forall₂ Reads (splitlines text) mounts ∧ (mounts.map (·.mountId)).Nodup

section Reading

variable {data : Bytes} {text path : Text} {mounts : List Mount}

theorem getLast?_utf8EncodeChar (c : Char) : (String.utf8EncodeChar c).getLast? = some 10 ↔ c = '\n' := by
  have hfeed : c = '\n' ↔ c.toNat = 10 := ⟨fun h => h ▸ rfl,fun h => Char.toNat_inj.mp h⟩
  have hbyte : ∀ n, n < 256 → (UInt8.ofNat n = 10 ↔ n = 10) := by
    intro n hn
    rw [← UInt8.toNat_inj,toNat_ofNat hn]
    rfl
  rw [hfeed,encodeChar_eq (c := c) (n := c.toNat) rfl]
  split
  · simpa using hbyte c.toNat (by omega)
  · split
    · simp only [List.getLast?_cons_cons,List.getLast?_singleton,Option.some.injEq]
      rw [hbyte _ (by omega)]
      omega
    · split
      · simp only [List.getLast?_cons_cons,List.getLast?_singleton,Option.some.injEq]
        rw [hbyte _ (by omega)]
        omega
      · simp only [List.getLast?_cons_cons,List.getLast?_singleton,Option.some.injEq]
        rw [hbyte _ (by omega)]
        omega

theorem getLast?_encode (text : Text) : (encode text).getLast? = some 10 ↔ text.getLast? = some '\n' := by
  rcases List.eq_nil_or_concat text with rfl | ⟨init,c,rfl⟩
  · simp
  · have hne : String.utf8EncodeChar c ≠ [] := by
      obtain ⟨lead,conts,owed,he,_⟩ := (spelled_encodeChar c).tails
      rw [he]
      simp
    obtain ⟨front,last,he⟩ := List.eq_nil_or_concat (String.utf8EncodeChar c) |>.resolve_left hne
    have hlast := getLast?_utf8EncodeChar c
    rw [he,List.concat_eq_append,List.getLast?_append] at hlast
    rw [List.concat_eq_append,encode_append,encode_cons,encode_nil,List.append_nil,he,List.concat_eq_append,
      ← List.append_assoc,List.getLast?_append,List.getLast?_append]
    simpa using hlast

theorem encode_injective {text text' : Text} (h : encode text = encode text') : text = text' := by
  have := decodeStrict_encode text
  rw [h,decodeStrict_encode] at this
  exact (Option.some.inj this).symm

/-- The worker accepts exactly the loose prints. -/
theorem parseMountinfo_iff : parseMountinfo data = .ok mounts ↔ Loose data mounts := by
  constructor
  · intro h
    simp only [parseMountinfo] at h
    split at h
    · cases h
    · next hsize =>
      split at h
      · cases h
      · next hlast =>
        split at h
        · cases h
        · next text htext =>
          split at h
          · cases h
          · next mounts' hlines =>
            cases h
            obtain ⟨hall,hnodup,_⟩ := parseLines_iff.mp hlines
            have hdata := encode_of_decodeStrict htext
            refine ⟨not_lt.mp hsize,text,hdata.symm,(getLast?_encode text).mp ?_,hall,hnodup⟩
            rw [hdata]
            exact not_not.mp hlast
  · rintro ⟨hsize,text,rfl,hlast,hall,hnodup⟩
    rw [parseMountinfo,if_neg (not_lt.mpr hsize),if_neg (not_not.mpr ((getLast?_encode text).mpr hlast)),decodeStrict_encode]
    simp only
    rw [parseLines_iff.mpr ⟨hall,hnodup,fun _ h => by cases h⟩]

theorem refused_iff : (∃ failure, parseMountinfo data = .error failure) ↔ ∀ mounts, ¬Loose data mounts := by
  cases h : parseMountinfo data with
  | error failure =>
    refine ⟨fun _ mounts hl => ?_,fun _ => ⟨failure,rfl⟩⟩
    rw [parseMountinfo_iff.mpr hl] at h
    cases h
  | ok mounts =>
    refine ⟨?_,fun hl => absurd (parseMountinfo_iff.mp h) (hl mounts)⟩
    rintro ⟨failure,he⟩
    cases he

theorem spells_escape (path : Text) : Spells (escape path) path := by
  induction path with
  | nil => exact .nil
  | cons c path ih =>
    rw [escape,List.flatMap_cons,escapeChar]
    split
    · next h => subst h; exact .escaped rfl ih
    · split
      · next h => subst h; exact .escaped rfl ih
      · split
        · next h => subst h; exact .escaped rfl ih
        · split
          · next h => subst h; exact .escaped rfl ih
          · next h => exact .plain h ih

/-- Reading undoes the escaping of every path that is kept. -/
theorem unescape_escape (path : Text) : unescape (escape path) = some path ↔ Bounded path :=
  unescape_iff.trans ⟨fun h => h.2,fun h => ⟨spells_escape path,h⟩⟩

end Reading

section Printing

variable {k : KernelMount} {table : List KernelMount} {text : Text} {data : Bytes}

theorem escape_word (path : Text) : Word (escape path) := by
  have hchar : ∀ c, Word (escapeChar c) := by
    intro c
    unfold escapeChar
    split
    · exact ⟨by decide,by decide⟩
    · next hspace =>
      split
      · exact ⟨by decide,by decide⟩
      · split
        · exact ⟨by decide,by decide⟩
        · next hfeed =>
          split
          · exact ⟨by decide,by decide⟩
          · exact ⟨by simpa using Ne.symm hspace,by simpa using Ne.symm hfeed⟩
  constructor
  · intro h
    obtain ⟨c,_,hc⟩ := List.mem_flatMap.mp h
    exact (hchar c).1 hc
  · intro h
    obtain ⟨c,_,hc⟩ := List.mem_flatMap.mp h
    exact (hchar c).2 hc

theorem decimal_word (n : ℕ) : Word (decimal n) :=
  ⟨fun h => absurd (isDigit_of_mem_decimal h) (by decide),fun h => absurd (isDigit_of_mem_decimal h) (by decide)⟩

theorem filesystem_word (h : filesystemShape text = true) : Word text := by
  simp only [filesystemShape,Bool.and_eq_true,List.all_eq_true] at h
  exact ⟨fun hm => absurd (h.2 _ hm) (by decide),fun hm => absurd (h.2 _ hm) (by decide)⟩

theorem device_word (k : KernelMount) : Word k.device := by
  have h1 := decimal_word k.major
  have h2 := decimal_word k.minor
  constructor
  · simpa [KernelMount.device] using ⟨h1.1,h2.1⟩
  · simpa [KernelMount.device] using ⟨h1.2,h2.2⟩

theorem dash_word : Word dash := ⟨by decide,by decide⟩

theorem fields_word (h : k.Valid) : ∀ text ∈ k.fields.list, Word text := by
  intro text hm
  simp only [Fields.list,Fields.front,KernelMount.fields,List.mem_append,List.mem_cons,List.not_mem_nil,or_false] at hm
  rcases hm with ((rfl | rfl | rfl | rfl | rfl | rfl) | hm) | rfl | rfl | rfl | rfl
  · exact decimal_word _
  · exact decimal_word _
  · exact device_word k
  · exact escape_word _
  · exact escape_word _
  · exact h.options.2
  · exact (h.optional text hm).1
  · exact dash_word
  · exact filesystem_word h.filesystem
  · exact h.source
  · exact h.superOptions

theorem splitOn_line (h : k.Valid) : k.line.splitOn ' ' = k.fields.list :=
  List.splitOn_intercalate ' ' (fun text hm => (fields_word h text hm).1) (by simp [Fields.list])

theorem mem_intercalate {α : Type} {x y : α} {ls : List (List α)} (h : x ∈ [y].intercalate ls) : x = y ∨ ∃ l ∈ ls, x ∈ l := by
  induction ls with
  | nil => cases h
  | cons l ls ih =>
    by_cases hne : ls = []
    · subst hne
      rw [List.intercalate_singleton] at h
      exact .inr ⟨l,List.mem_cons_self,h⟩
    · rw [List.intercalate_cons_of_ne_nil hne,List.mem_append,List.mem_append,List.mem_singleton] at h
      rcases h with (h | h) | h
      · exact .inr ⟨l,List.mem_cons_self,h⟩
      · exact .inl h
      · exact (ih h).imp_right fun ⟨l',hl',hx⟩ => ⟨l',List.mem_cons_of_mem _ hl',hx⟩

theorem feed_not_mem_line (h : k.Valid) : '\n' ∉ k.line := by
  intro hm
  rcases mem_intercalate hm with he | ⟨text,htext,hm⟩
  · cases he
  · exact (fields_word h text htext).2 hm

/-- Without any other break, the lines of a print are the lines of its mounts. -/
theorem splitlines_printed (h : ∀ k ∈ table, k.Valid) (hplain : ∀ c ∈ printed table, ¬Foreign c) :
    splitlines (printed table) = table.map (·.line) := by
  induction table with
  | nil => rfl
  | cons k table ih =>
    have hbreaks : ∀ c ∈ k.line, lineBreak c = false := by
      intro c hc
      by_contra hbreak
      refine hplain c (by simp [printed,hc]) ⟨by simpa using hbreak,?_⟩
      rintro rfl
      exact feed_not_mem_line (h k List.mem_cons_self) hc
    have hrest : ∀ c ∈ printed table, ¬Foreign c := fun c hc => hplain c (by
      rw [printed,List.flatMap_cons]
      exact List.mem_append_right _ hc)
    rw [printed,List.flatMap_cons,List.append_assoc,List.singleton_append,splitlines_line hbreaks,List.map_cons]
    exact congrArg _ (ih (fun k hk => h k (List.mem_cons_of_mem _ hk)) hrest)

theorem spells_dash {path : Text} (h : Spells dash path) : path = dash := by
  cases h with
  | plain hc h =>
    cases h
    rfl

theorem front_apart (h : k.Valid) : dash ∉ k.fields.front := by
  have hdecimal : ∀ n, dash ≠ decimal n := by
    intro n he
    have hm : '-' ∈ decimal n := he ▸ List.mem_cons_self
    exact absurd (isDigit_of_mem_decimal hm) (by decide)
  have hdevice : dash ≠ k.device := by
    intro he
    have hm : ':' ∈ dash := by rw [he]; simp [KernelMount.device]
    exact absurd hm (by decide)
  have hroot : dash ≠ escape k.root := by
    intro he
    have hroot : k.root = dash := spells_dash (he ▸ spells_escape k.root)
    have hrooted := h.root.1
    rw [hroot,rooted] at hrooted
    split at hrooted <;> exact absurd hrooted (by decide)
  have hpath : dash ≠ escape k.path := by
    intro he
    have hpath : k.path = dash := spells_dash (he ▸ spells_escape k.path)
    have hhead := h.path.1
    rw [hpath] at hhead
    exact absurd hhead (by decide)
  have hoptions : dash ≠ k.options := by
    intro he
    exact h.options.1 (he ▸ by decide)
  simp only [Fields.front,KernelMount.fields,List.mem_append,List.mem_cons,List.not_mem_nil,or_false,not_or]
  exact ⟨⟨hdecimal _,hdecimal _,hdevice,hroot,hpath,hoptions⟩,fun hm => (h.optional dash hm).2 rfl⟩

theorem length_decimal {n m : ℕ} (hm : 0 < m) (h : n < 10 ^ m) : 1 ≤ (decimal n).length ∧ (decimal n).length ≤ m := by
  refine ⟨List.length_pos_iff.mpr (decimal_ne_nil n),?_⟩
  rw [decimal,Nat.toList_repr]
  exact (Nat.length_toDigits_le_iff (by decide) hm).mpr h

theorem shortDigits_decimal {n : ℕ} (h : n < 10 ^ 10) : shortDigits (decimal n) = true := by
  obtain ⟨hpos,hle⟩ := length_decimal (by decide) h
  simp only [shortDigits,Bool.and_eq_true,decide_eq_true_eq,List.all_eq_true]
  refine ⟨⟨hpos,hle⟩,fun c hc => ?_⟩
  have := toNat_of_isDigit (isDigit_of_mem_decimal hc)
  simpa [decimalDigit] using this

theorem deviceShape_device (h : k.Valid) : deviceShape k.device = true := by
  have hcolon : ∀ n, ∀ c ∈ decimal n, (c == ':') = false := by
    intro n c hc
    refine beq_eq_false_iff_ne.mpr ?_
    rintro rfl
    exact absurd (isDigit_of_mem_decimal hc) (by decide)
  have hsplit : k.device.splitOn ':' = [decimal k.major,decimal k.minor] := by
    rw [KernelMount.device,List.splitOn,List.splitOnP_append_cons_of_forall_mem (hcolon _) _ (by simp),
      List.splitOnP_eq_singleton (hcolon _)]
  simp [deviceShape,hsplit,shortDigits_decimal h.device.1,shortDigits_decimal h.device.2]

/-- The line of a mount is read as its row. -/
theorem reads_row (h : k.Valid) (hlength : k.path.length ≤ 4096 ∧ k.root.length ≤ 4096) : Reads k.line k.row := by
  refine ⟨rfl,k.fields,splitOn_line h,front_apart h,int_decimal (h.mountId.2.trans (by decide)),?_,
    int_decimal (h.parentId.trans (by decide)),?_,⟨rfl,deviceShape_device h⟩,⟨rfl,h.filesystem⟩,
    ⟨spells_escape _,⟨hlength.1,h.path.2⟩,h.path.1⟩,⟨spells_escape _,⟨hlength.2,h.root.2⟩,h.root.1⟩,h.options.1,rfl⟩
  · obtain ⟨hpos,hlt⟩ := h.mountId
    simp only [KernelMount.row]
    omega
  · have := h.parentId
    simp only [KernelMount.row]
    omega

theorem exists_of_forall₂ {α β : Type} {R : α → β → Prop} {as : List α} {bs : List β} (h : List.Forall₂ R as bs) {b : β}
    (hb : b ∈ bs) : ∃ a ∈ as, R a b := by
  induction h with
  | nil => cases hb
  | cons hr _ ih =>
    rcases List.mem_cons.mp hb with rfl | hb
    · exact ⟨_,List.mem_cons_self,hr⟩
    · obtain ⟨a,ha,hr⟩ := ih hb
      exact ⟨a,List.mem_cons_of_mem _ ha,hr⟩

theorem printed_getLast (hne : table ≠ []) : (printed table).getLast? = some '\n' := by
  obtain ⟨init,k,rfl⟩ := List.eq_nil_or_concat table |>.resolve_left hne
  simp [printed,List.concat_eq_append,List.getLast?_append]

/-- A print is read back exactly when it is plain. -/
theorem parse_print_iff (h : IsPrint data table) : parseMountinfo data = .ok (table.map (·.row)) ↔ Plain table := by
  obtain ⟨⟨hvalid,hnodup⟩,hsize,rfl⟩ := h
  rw [parseMountinfo_iff]
  constructor
  · rintro ⟨_,text,htext,hlast,hall,_⟩
    have htext : printed table = text := encode_injective htext
    subst htext
    refine ⟨?_,fun k hk => ?_,fun c hc hforeign => ?_⟩
    · rintro rfl
      cases hlast
    · obtain ⟨line,_,_,f,_,htold⟩ := exists_of_forall₂ hall (List.mem_map_of_mem hk)
      exact ⟨htold.path.2.1.1,htold.root.2.1.1⟩
    · -- the line itself is kept in the row, and no line that is read holds a break
      obtain ⟨k,hk,hc⟩ := List.mem_flatMap.mp hc
      have hline : c ∈ k.line := by
        rcases List.mem_append.mp hc with hc | hc
        · exact hc
        · exact absurd (List.mem_singleton.mp hc) hforeign.2
      obtain ⟨line,hmem,hevidence,_⟩ := exists_of_forall₂ hall (List.mem_map_of_mem (f := (·.row)) hk)
      have hplain := plain_of_mem_splitlines hmem c (hevidence ▸ hline)
      rw [hforeign.1] at hplain
      cases hplain
  · rintro ⟨hne,hlength,hplain⟩
    refine ⟨hsize,printed table,rfl,printed_getLast hne,?_,?_⟩
    · rw [splitlines_printed hvalid hplain,List.forall₂_map_left_iff,List.forall₂_map_right_iff]
      exact List.forall₂_same.mpr fun k hk => reads_row (hvalid k hk) (hlength k hk)
    · have hids : (table.map (·.row)).map (·.mountId) = (table.map (·.mountId)).map fun n : ℕ => (n : ℤ) := by
        simp [List.map_map,Function.comp_def,KernelMount.row]
      rw [hids]
      exact hnodup.map fun a b h => Int.ofNat.inj h

/-- The escaping of a path is undone within the bound on paths. A print is read back, and what is no print is
refused, exactly when the print is plain or what is no print is no loose one either. -/
theorem mountinfo_faithful (path : Text) (data : Bytes) : (unescape (escape path) = some path ↔ Bounded path) ∧
    (Faithful data ↔ (∀ table, IsPrint data table → Plain table) ∧
      ((¬∃ table, IsPrint data table) → ∀ mounts, ¬Loose data mounts)) := by
  refine ⟨unescape_escape path,?_⟩
  rw [Faithful,refused_iff]
  exact and_congr (forall_congr' fun table => ⟨fun h hp => (parse_print_iff hp).mp (h hp),fun h hp => (parse_print_iff hp).mpr (h hp)⟩)
    Iff.rfl

/-- A mount whose path holds a carriage return. -/
def returned : KernelMount :=
  ⟨36,35,8,1,['/'],['/','a','\r','b'],['r','w'],[],['e','x','t','4'],['s'],['r','w']⟩

theorem returned_valid : returned.Valid where
  mountId := by decide
  parentId := by decide
  device := by decide
  path := by decide
  root := by decide
  options := ⟨by decide,by decide,by decide⟩
  optional _ h := by cases h
  filesystem := by decide
  source := ⟨by decide,by decide⟩
  superOptions := ⟨by decide,by decide⟩

/-- Its table is not read back. -/
theorem mountinfo_loses_return : ¬Faithful (print [returned]) := by
  intro h
  have hprint : IsPrint (print [returned]) [returned] :=
    ⟨⟨fun k hk => List.mem_singleton.mp hk ▸ returned_valid,by decide⟩,by decide,rfl⟩
  have hplain := (parse_print_iff hprint).mp (h.1 _ hprint)
  exact hplain.2.2 '\r' (by decide) (by decide)

end Printing

end MountInfo
end LocalPlane
