import LocalPlane.SeparatedRuns
import LocalPlane.TextLines
import LocalPlane.Utf8

/-!
# Container logs

The daemon frames what a container writes, chunk by chunk, unless the container has a
terminal. The provider takes the frames apart and reads lines out of each; they are compared
here with the lines of what each stream carried, wherever the chunks, the characters and the
byte ceiling cut it.
-/

set_option linter.dupNamespace false

namespace LocalPlane
namespace ContainerLogs
open Utf8 TextLines SeparatedRuns

abbrev Bytes := List UInt8
abbrev Text := List Char

inductive Stream where
  | stdout
  | stderr
  | unknown
deriving DecidableEq,Repr

structure Entry where
  timestamp : Option Text
  stream : Stream
  message : Text
deriving DecidableEq,Repr

def looksLikeInstant (value : Text) : Bool := 20 ≤ value.length && value[4]? = some '-' && value[10]? = some 'T'

/-- `line.partition(" ")`, the separator left out. -/
def partition (line : Text) : Text × Text := (line.takeWhile (· ≠ ' '),(line.dropWhile (· ≠ ' ')).tail)

def entry (stream : Stream) (line : Text) : Entry :=
  let (timestamp,message) := partition line
  if looksLikeInstant timestamp then ⟨some timestamp,stream,message⟩ else ⟨none,stream,line⟩

/-- `_lines` -/
def lines (chunk : Bytes) (stream : Stream) : List Entry :=
  ((splitlines (decodeReplace chunk)).filter (!·.isEmpty)).map (entry stream)

/-- `int.from_bytes(…, "big")` of four bytes. -/
def bigEndian (a b c d : UInt8) : ℕ := ((a.toNat * 256 + b.toNat) * 256 + c.toNat) * 256 + d.toNat

/-- The loop over the frames, on what is left from the offset. -/
def frames : Bytes → List Entry
  | stream :: _ :: _ :: _ :: a :: b :: c :: d :: rest =>
    lines (rest.take (bigEndian a b c d)) (if stream = 1 then .stdout else .stderr) ++ frames (rest.drop (bigEndian a b c d))
  | _ => []
termination_by raw => raw.length
decreasing_by simp only [List.length_drop,List.length_cons]; omega

/-- `_demultiplex` -/
def demultiplex (raw : Bytes) : List Entry :=
  if (raw.head? = some 1 ∨ raw.head? = some 2) ∧ 8 ≤ raw.length then frames raw else lines raw .unknown

inductive Output where
  | stdout
  | stderr
deriving DecidableEq,Repr

/-- What a container wrote at once; its length has four bytes in the frame. -/
structure Chunk where
  output : Output
  bytes : Bytes
  size : bytes.length < 2 ^ 32

def Output.byte : Output → UInt8
  | .stdout => 1
  | .stderr => 2

def Output.stream : Output → Stream
  | .stdout => .stdout
  | .stderr => .stderr

/-- A chunk behind its eight-byte header. -/
def frame (c : Chunk) : Bytes :=
  c.output.byte :: 0 :: 0 :: 0 :: .ofNat (c.bytes.length / 2 ^ 24) :: .ofNat (c.bytes.length / 2 ^ 16) ::
    .ofNat (c.bytes.length / 2 ^ 8) :: .ofNat c.bytes.length :: c.bytes

/-- What of the chunks stands in the first bytes of their frames. -/
def carried : ℕ → List Chunk → List Chunk
  | _,[] => []
  | n,c :: chunks =>
    if n < 8 then []
    else ⟨c.output,c.bytes.take (n - 8),(List.length_take_le' ..).trans_lt c.size⟩ :: carried (n - 8 - c.bytes.length) chunks

/-- What the daemon answers for a container without a terminal, and for one with. -/
inductive Wire where
  | framed (chunks : List Chunk)
  | raw (bytes : Bytes)

def Wire.bytes : Wire → Bytes
  | .framed chunks => chunks.flatMap frame
  | .raw bytes => bytes

/-- The pieces in which a stream comes within the first bytes. -/
def Wire.pieces (n : ℕ) : Wire → Stream → List Bytes
  | .framed chunks,stream => ((carried n chunks).filter (·.output.stream = stream)).map (·.bytes)
  | .raw bytes,.unknown => [bytes.take n]
  | .raw _,_ => []

def newline (b : UInt8) : Bool := b = 10

/-- The lines that a stream carried, empty ones dropped, whatever they came in. -/
def streamLines (bytes : Bytes) : List Text := (runs newline bytes).map decodeReplace

/-- Each stream's messages are its lines, in order, each once. -/
def Faithful (w : Wire) (n : ℕ) : Prop :=
  ∀ stream, (demultiplex (w.bytes.take n)).filter (·.stream = stream) =
    (streamLines (w.pieces n stream).flatten).map (entry stream)

/-- The header that the ceiling leaves is whole or absent, and a terminal's bytes are not taken for one. -/
def Wire.Told (n : ℕ) : Wire → Prop
  | .framed chunks => chunks = [] ∨ n = 0 ∨ 8 ≤ n
  | .raw bytes => ¬(((bytes.take n).head? = some 1 ∨ (bytes.take n).head? = some 2) ∧ 8 ≤ (bytes.take n).length)

/-- No piece ends inside a line, and nothing but a newline is read as the end of one. -/
def Lined (pieces : List Bytes) : Prop := Whole newline pieces ∧ ∀ c ∈ decodeReplace pieces.flatten, ¬Foreign c

instance (pieces : List Bytes) : Decidable (Lined pieces) := inferInstanceAs (Decidable (_ ∧ _))

section Lines

variable {bytes : Bytes} {line text : Text} {stream : Stream} {c : Char}

theorem newline_iff {b : UInt8} : newline b = true ↔ b = 10 := by simp [newline]

theorem newline_toNat {b : UInt8} : newline b = true ↔ b.toNat = 10 := by
  rw [newline_iff]
  exact ⟨fun h => by rw [h]; rfl,fun h => UInt8.toNat_inj.mp h⟩

/-- A character that ends a line and was not written as a newline. -/
theorem plain_of_not_foreign (hplain : ∀ b ∈ bytes, newline b = false) (h : ∀ c ∈ decodeReplace bytes, ¬Foreign c) :
    ∀ c ∈ decodeReplace bytes, lineBreak c = false := by
  intro c hc
  by_contra hbreak
  have hbreak : lineBreak c = true := by simpa using hbreak
  have hfeed : c = '\n' := by
    by_contra hne
    exact h c hc ⟨hbreak,hne⟩
  subst hfeed
  obtain ⟨b,hb,he⟩ := exists_of_ascii .idle ((mem_decodeReplace (by decide)).mp hc) (by decide)
  have := hplain b hb
  rw [newline_toNat.mpr he] at this
  cases this

theorem decodeReplace_feed (more : Bytes) {b : UInt8} (hb : newline b = true) :
    decodeReplace (bytes ++ b :: more) = decodeReplace bytes ++ '\n' :: decodeReplace more := by
  rw [newline_iff.mp hb,decodeReplace_ascii (by decide)]
  rfl

/-- Where newlines alone end lines, the lines of the text are the lines of the bytes. -/
theorem splitlines_runs (h : ∀ c ∈ decodeReplace bytes, ¬Foreign c) :
    (splitlines (decodeReplace bytes)).filter (!·.isEmpty) = streamLines bytes := by
  induction bytes using induction_runs (p := newline) with
  | hlast bytes hplain =>
    have hbreaks := plain_of_not_foreign hplain h
    by_cases hne : bytes = []
    · simp [hne,streamLines]
    · rw [streamLines,runs_plain hplain hne,splitlines_last hbreaks (decodeReplace_ne_nil hne)]
      simp [decodeReplace_ne_nil hne]
  | hrun bytes b more hplain hb ih =>
    rw [decodeReplace_feed more hb] at h ⊢
    have hbreaks := plain_of_not_foreign hplain fun c hc => h c (List.mem_append_left _ hc)
    have hrest := ih fun c hc => h c (List.mem_append_right _ (List.mem_cons_of_mem _ hc))
    rw [splitlines_line hbreaks,streamLines,runs_append_separator hb,List.map_append,List.filter_cons,hrest]
    by_cases hne : bytes = []
    · simp [hne,streamLines]
    · rw [runs_plain hplain hne]
      simp [decodeReplace_ne_nil hne,streamLines]

/-- Whatever is read, newlines apart, is read in a line. -/
theorem exists_line (hc : c ∈ decodeReplace bytes) (hfeed : c ≠ '\n') : ∃ line ∈ streamLines bytes, c ∈ line := by
  induction bytes using induction_runs (p := newline) with
  | hlast bytes hplain =>
    have hne : bytes ≠ [] := by
      rintro rfl
      cases hc
    exact ⟨decodeReplace bytes,by simp [streamLines,runs_plain hplain hne],hc⟩
  | hrun bytes b more hplain hb ih =>
    rw [decodeReplace_feed more hb,List.mem_append,List.mem_cons] at hc
    rw [streamLines,runs_append_separator hb,List.map_append]
    rcases hc with hc | hc | hc
    · have hne : bytes ≠ [] := by
        rintro rfl
        cases hc
      exact ⟨decodeReplace bytes,by simp [runs_plain hplain hne],hc⟩
    · exact absurd hc hfeed
    · obtain ⟨line,hline,hmem⟩ := ih hc
      exact ⟨line,List.mem_append_right _ hline,hmem⟩

/-- What of a line an entry tells. -/
def Entry.told (e : Entry) : Text := e.timestamp.getD [] ++ e.message

theorem mem_told : c ∈ (entry stream line).told → c ∈ line := by
  unfold entry partition
  simp only
  split
  · intro h
    rcases List.mem_append.mp h with h | h
    · exact List.takeWhile_subset _ h
    · exact List.dropWhile_subset _ (List.mem_of_mem_tail h)
  · exact id

theorem told_of_mem (hc : c ∈ line) (hspace : c ≠ ' ') : c ∈ (entry stream line).told := by
  unfold entry partition
  simp only
  split
  · have hsplit := List.takeWhile_append_dropWhile (p := (fun c : Char => decide (c ≠ ' '))) (l := line)
    rw [← hsplit,List.mem_append] at hc
    refine List.mem_append.mpr (hc.imp_right fun h => ?_)
    cases hrest : line.dropWhile (fun c : Char => decide (c ≠ ' ')) with
    | nil => rw [hrest] at h; cases h
    | cons d rest =>
      have hd : d = ' ' := by
        have := List.head_dropWhile_not (fun c : Char => decide (c ≠ ' ')) (w := by rw [hrest]; simp)
        simp only [hrest,List.head_cons] at this
        simpa using this
      rw [hrest] at h
      exact (List.mem_cons.mp h).resolve_left fun he => hspace (he.trans hd)
  · exact hc

end Lines

section Pieces

variable {pieces : List Bytes} {stream : Stream}

theorem not_foreign_of_mem {piece : Bytes} (h : ∀ c ∈ decodeReplace pieces.flatten, ¬Foreign c) (hpiece : piece ∈ pieces) :
    ∀ c ∈ decodeReplace piece, ¬Foreign c := by
  intro c hc hforeign
  obtain ⟨front,back,rfl⟩ := List.append_of_mem hpiece
  have hne : c ≠ replacement := by
    rintro rfl
    exact absurd hforeign (by decide)
  refine h c ((mem_decodeReplace hne).mpr ?_) hforeign
  rw [List.flatten_append,List.flatten_cons]
  exact mem_units_middle ((mem_decodeReplace hne).mp hc)

theorem foreign_ne_space {c : Char} (h : Foreign c) : c ≠ ' ' := by
  rintro rfl
  exact absurd h (by decide)

/-- Reading lines piece by piece reads the lines of the stream exactly when the pieces are whole lines of it. -/
theorem lines_iff (pieces : List Bytes) (stream : Stream) :
    pieces.flatMap (lines · stream) = (streamLines pieces.flatten).map (entry stream) ↔ Lined pieces := by
  have hread : (∀ c ∈ decodeReplace pieces.flatten, ¬Foreign c) →
      pieces.flatMap (lines · stream) = (pieces.flatMap (runs newline)).map fun run => entry stream (decodeReplace run) := by
    intro hforeign
    rw [List.map_flatMap]
    refine List.flatMap_congr fun piece hpiece => ?_
    rw [lines,splitlines_runs (not_foreign_of_mem hforeign hpiece),streamLines,List.map_map]
    rfl
  constructor
  · intro h
    have hforeign : ∀ c ∈ decodeReplace pieces.flatten, ¬Foreign c := by
      -- such a character would be told of its line, and no entry tells one
      intro c hc hforeign
      obtain ⟨line,hline,hmem⟩ := exists_line hc hforeign.2
      have hentry : entry stream line ∈ pieces.flatMap (lines · stream) := h ▸ List.mem_map_of_mem hline
      obtain ⟨piece,_,hentry⟩ := List.mem_flatMap.mp hentry
      obtain ⟨read,hread,he⟩ := List.mem_map.mp hentry
      have htold : c ∈ read := mem_told (he ▸ told_of_mem hmem (foreign_ne_space hforeign))
      have hplain := plain_of_mem_splitlines (List.mem_filter.mp hread).1 c htold
      rw [hforeign.1] at hplain
      cases hplain
    refine ⟨whole_of_length ?_,hforeign⟩
    have hlength := congrArg List.length ((hread hforeign).symm.trans h)
    simpa [streamLines] using hlength.le
  · intro ⟨hwhole,hforeign⟩
    rw [hread hforeign,streamLines,runs_flatten hwhole,List.map_map]
    rfl

end Pieces

section Frames

variable {c : Chunk} {n : ℕ}

theorem ofNat_mod (m : ℕ) : (UInt8.ofNat m).toNat = m % 256 := by rw [UInt8.toNat_ofNat']

theorem bigEndian_length (h : n < 2 ^ 32) :
    bigEndian (.ofNat (n / 2 ^ 24)) (.ofNat (n / 2 ^ 16)) (.ofNat (n / 2 ^ 8)) (.ofNat n) = n := by
  simp only [bigEndian,ofNat_mod]
  omega

theorem frames_short {raw : Bytes} (h : raw.length < 8) : frames raw = [] := by
  match raw,h with
  | [],_ => rw [frames]; simp
  | [_],_ => rw [frames]; simp
  | [_,_],_ => rw [frames]; simp
  | [_,_,_],_ => rw [frames]; simp
  | [_,_,_,_],_ => rw [frames]; simp
  | [_,_,_,_,_],_ => rw [frames]; simp
  | [_,_,_,_,_,_],_ => rw [frames]; simp
  | [_,_,_,_,_,_,_],_ => rw [frames]; simp
  | _ :: _ :: _ :: _ :: _ :: _ :: _ :: _ :: _,h => simp at h; omega

theorem frames_frame (c : Chunk) (rest : Bytes) (h : 8 ≤ n) :
    frames ((frame c ++ rest).take n) = lines (c.bytes.take (n - 8)) c.output.stream ++ frames (rest.take (n - 8 - c.bytes.length)) := by
  obtain ⟨m,rfl⟩ := Nat.exists_eq_add_of_le' h
  have hlabel : (if c.output.byte = 1 then Stream.stdout else .stderr) = c.output.stream := by cases c.output <;> rfl
  simp only [frame,List.cons_append,List.take_succ_cons]
  rw [frames,bigEndian_length c.size,hlabel,Nat.add_sub_cancel]
  congr 1
  · congr 1
    rw [List.take_take,List.take_append_of_le_length (by omega),List.take_eq_take_iff]
    omega
  · rw [List.drop_take,List.drop_left]

/-- The loop reads what the frames carry, and nothing of a header that is cut. -/
theorem frames_wire (chunks : List Chunk) (n : ℕ) :
    frames ((chunks.flatMap frame).take n) = (carried n chunks).flatMap fun c => lines c.bytes c.output.stream := by
  induction chunks generalizing n with
  | nil => simp [carried,frames_short]
  | cons c chunks ih =>
    rw [List.flatMap_cons,carried]
    split
    · next hn => exact frames_short (by rw [List.length_take]; omega)
    · next hn => rw [frames_frame c _ (by omega),ih,List.flatMap_cons]

theorem stream_lines {e : Entry} {bytes : Bytes} {stream : Stream} (h : e ∈ lines bytes stream) : e.stream = stream := by
  obtain ⟨line,_,rfl⟩ := List.mem_map.mp h
  unfold entry
  simp only
  split <;> rfl

theorem filter_lines (bytes : Bytes) (stream stream' : Stream) :
    (lines bytes stream).filter (·.stream = stream') = if stream = stream' then lines bytes stream else [] := by
  split
  · next h => exact List.filter_eq_self.mpr fun e he => by simp [stream_lines he,h]
  · next h => exact List.filter_eq_nil_iff.mpr fun e he => by simp [stream_lines he,h]

/-- The entries of one stream come from the pieces of that stream. -/
theorem filter_frames (chunks : List Chunk) (stream : Stream) :
    (chunks.flatMap fun c => lines c.bytes c.output.stream).filter (·.stream = stream) =
      ((chunks.filter (·.output.stream = stream)).map (·.bytes)).flatMap (lines · stream) := by
  induction chunks with
  | nil => rfl
  | cons c chunks ih =>
    rw [List.flatMap_cons,List.filter_append,filter_lines,ih,List.filter_cons]
    by_cases h : c.output.stream = stream
    · simp [h]
    · simp [h]

end Frames

section Demultiplex

variable {chunks : List Chunk} {n : ℕ}

theorem head_frame (c : Chunk) : (frame c).head? = some 1 ∨ (frame c).head? = some 2 := by
  cases hc : c.output <;> simp [frame,hc,Output.byte]

theorem demultiplex_framed (h : (Wire.framed chunks).Told n) :
    demultiplex ((chunks.flatMap frame).take n) = (carried n chunks).flatMap fun c => lines c.bytes c.output.stream := by
  have hempty : demultiplex [] = [] := rfl
  cases chunks with
  | nil => simp [hempty,carried]
  | cons c chunks =>
    rcases h.resolve_left (by simp) with rfl | h
    · simp [hempty,carried]
    · have hhead : (((c :: chunks).flatMap frame).take n).head? = some 1 ∨ (((c :: chunks).flatMap frame).take n).head? = some 2 := by
        obtain ⟨m,rfl⟩ := Nat.exists_eq_add_of_le' h
        simpa [frame] using head_frame c
      have hlong : 8 ≤ (((c :: chunks).flatMap frame).take n).length := by
        rw [List.length_take]
        simp [frame]
        omega
      rw [← frames_wire,demultiplex,if_pos ⟨hhead,hlong⟩]

/-- What is read from a first byte of 1 or 2 holds a line. -/
theorem exists_line_of_head {raw : Bytes} (h : raw.head? = some 1 ∨ raw.head? = some 2) :
    ∃ b rest, raw = b :: rest ∧ decodeReplace raw = Char.ofNat b.toNat :: decodeReplace rest ∧
      lineBreak (Char.ofNat b.toNat) = false ∧ Char.ofNat b.toNat ≠ '\n' := by
  cases raw with
  | nil => simp at h
  | cons b rest =>
    have hb : b = 1 ∨ b = 2 := by simpa using h
    refine ⟨b,rest,rfl,?_,?_⟩
    · have hascii : b.toNat < 0x80 := by rcases hb with rfl | rfl <;> decide
      simpa using @decodeReplace_ascii b [] rest hascii
    · rcases hb with rfl | rfl <;> decide

/-- A header that the ceiling cuts is read as if it were written. -/
theorem demultiplex_cut (c : Chunk) (chunks : List Chunk) (hn : n ≠ 0) (h : n < 8) :
    ∃ e ∈ demultiplex (((c :: chunks).flatMap frame).take n), e.stream = .unknown := by
  obtain ⟨m,rfl⟩ := Nat.exists_eq_succ_of_ne_zero hn
  have hhead : (((c :: chunks).flatMap frame).take (m + 1)).head? = some 1 ∨
      (((c :: chunks).flatMap frame).take (m + 1)).head? = some 2 := by
    simpa [frame] using head_frame c
  obtain ⟨b,rest,hraw,hdecode,hbreak,_⟩ := exists_line_of_head hhead
  rw [demultiplex,if_neg fun hlong => by have := hlong.2; rw [List.length_take] at this; omega]
  obtain ⟨line,hline,hmem⟩ := exists_splitlines hbreak (decodeReplace rest)
  have hne : line ≠ [] := by
    rintro rfl
    cases hmem
  refine ⟨entry .unknown line,List.mem_map_of_mem (List.mem_filter.mpr ⟨hdecode ▸ hline,by simpa using hne⟩),?_⟩
  unfold entry
  simp only
  split <;> rfl

theorem unknown_pieces (chunks : List Chunk) (n : ℕ) : (Wire.framed chunks).pieces n .unknown = [] := by
  simp only [Wire.pieces,List.map_eq_nil_iff,List.filter_eq_nil_iff]
  intro c _
  cases c.output <;> simp [Output.stream]

theorem stream_frames {raw : Bytes} {e : Entry} (h : e ∈ frames raw) : e.stream ≠ .unknown := by
  induction raw using frames.induct with
  | case1 stream _ _ _ a b c d rest ih =>
    rw [frames] at h
    rcases List.mem_append.mp h with h | h
    · rw [stream_lines h]
      split <;> simp
    · exact ih h
  | case2 raw hraw =>
    rw [frames] at h
    · cases h
    · exact hraw

theorem lined_nil : Lined [] := ⟨trivial,fun c hc => by cases hc⟩

theorem framed_iff : Faithful (.framed chunks) n ↔
    (Wire.framed chunks).Told n ∧ ∀ stream, Lined ((Wire.framed chunks).pieces n stream) := by
  have hstream : (Wire.framed chunks).Told n → ∀ stream, ((demultiplex ((Wire.framed chunks).bytes.take n)).filter (·.stream = stream) =
      (streamLines ((Wire.framed chunks).pieces n stream).flatten).map (entry stream) ↔
        Lined ((Wire.framed chunks).pieces n stream)) := by
    intro htold stream
    rw [show (Wire.framed chunks).bytes = chunks.flatMap frame from rfl,demultiplex_framed htold,filter_frames]
    exact lines_iff _ stream
  constructor
  · intro h
    have htold : (Wire.framed chunks).Told n := by
      by_contra hcut
      simp only [Wire.Told,not_or,not_le] at hcut
      obtain ⟨c,rest,rfl⟩ := List.exists_cons_of_ne_nil hcut.1
      obtain ⟨e,he,hunknown⟩ := demultiplex_cut c rest hcut.2.1 hcut.2.2
      have hnone := h .unknown
      rw [unknown_pieces] at hnone
      have hmem : e ∈ (demultiplex ((Wire.framed (c :: rest)).bytes.take n)).filter (·.stream = .unknown) :=
        List.mem_filter.mpr ⟨he,by simpa using hunknown⟩
      rw [hnone] at hmem
      simp [streamLines] at hmem
    exact ⟨htold,fun stream => (hstream htold stream).mp (h stream)⟩
  · intro ⟨htold,hlined⟩ stream
    exact (hstream htold stream).mpr (hlined stream)

theorem raw_iff {bytes : Bytes} : Faithful (.raw bytes) n ↔
    (Wire.raw bytes).Told n ∧ ∀ stream, Lined ((Wire.raw bytes).pieces n stream) := by
  constructor
  · intro h
    have htold : (Wire.raw bytes).Told n := by
      intro ⟨hhead,hlong⟩
      obtain ⟨b,rest,hraw,hdecode,_,hfeed⟩ := exists_line_of_head hhead
      obtain ⟨line,hline,_⟩ := @exists_line (bytes.take n) (Char.ofNat b.toNat) (by rw [hdecode]; simp) hfeed
      have hunknown := h .unknown
      have hframes : demultiplex ((Wire.raw bytes).bytes.take n) = frames (bytes.take n) := if_pos ⟨hhead,hlong⟩
      rw [hframes,List.filter_eq_nil_iff.mpr fun e he => by simpa using stream_frames he] at hunknown
      have hmem : entry .unknown line ∈ (streamLines ((Wire.raw bytes).pieces n .unknown).flatten).map (entry .unknown) :=
        List.mem_map_of_mem (by simpa [Wire.pieces] using hline)
      rw [← hunknown] at hmem
      cases hmem
    refine ⟨htold,fun stream => ?_⟩
    cases stream with
    | stdout => exact lined_nil
    | stderr => exact lined_nil
    | unknown =>
      refine (lines_iff _ .unknown).mp ?_
      have hunknown := h .unknown
      have hlines : demultiplex ((Wire.raw bytes).bytes.take n) = lines (bytes.take n) .unknown := if_neg htold
      rw [hlines,filter_lines,if_pos rfl] at hunknown
      simpa [Wire.pieces] using hunknown
  · intro ⟨htold,hlined⟩ stream
    have hlines : demultiplex ((Wire.raw bytes).bytes.take n) = lines (bytes.take n) .unknown := if_neg htold
    rw [hlines,filter_lines]
    cases stream with
    | stdout => rfl
    | stderr => rfl
    | unknown =>
      have := (lines_iff _ .unknown).mpr (hlined .unknown)
      simpa [Wire.pieces] using this

/-- Logs are read faithfully exactly when the header the ceiling leaves is whole, a terminal's bytes are not taken
for one, no chunk ends inside a line, and nothing but a newline is read as the end of one. -/
theorem demultiplex_faithful (w : Wire) (n : ℕ) : Faithful w n ↔ w.Told n ∧ ∀ stream, Lined (w.pieces n stream) := by
  cases w with
  | framed chunks => exact framed_iff
  | raw bytes => exact raw_iff

/-- A line that is written in two chunks is read as two. -/
theorem demultiplex_splits_line : ¬Faithful (.framed [⟨.stdout,[97],by decide⟩,⟨.stdout,[98,10],by decide⟩]) 19 := by
  intro h
  exact absurd ((framed_iff.mp h).2 .stdout) (by decide)

/-- What a terminal writes after a first byte of 1 is taken for a frame. -/
theorem demultiplex_takes_header : ¬Faithful (.raw [1,97,98,99,100,101,102,10]) 8 := by
  intro h
  exact absurd (raw_iff.mp h).1 (by simp [Wire.Told])

end Demultiplex

end ContainerLogs
end LocalPlane
