import LocalPlane.LineProtocol
import LocalPlane.Utf8Cuts

/-!
# JSON as text

Values are written without blanks and in ASCII: a character that is not printable is written
by its code units. What a string takes is bounded by the bytes of its UTF-8.
-/

set_option linter.dupNamespace false

namespace LocalPlane
namespace JsonText
open LineProtocol (Json Fields)
open Utf8 (size charSize)

abbrev Text := List Char

def hexDigit (n : ℕ) : Char := if n % 16 < 10 then Char.ofNat (48 + n % 16) else Char.ofNat (87 + n % 16)

def codeUnit (n : ℕ) : Text := ['\\','u',hexDigit (n / 4096),hexDigit (n / 256),hexDigit (n / 16),hexDigit n]

/-- `ensure_ascii` -/
def escape (c : Char) : Text :=
  if c = '"' ∨ c = '\\' then ['\\',c]
  else if c = '\n' then ['\\','n']
  else if c = '\r' then ['\\','r']
  else if c = '\t' then ['\\','t']
  else if c.toNat = 8 then ['\\','b']
  else if c.toNat = 12 then ['\\','f']
  else if 32 ≤ c.toNat ∧ c.toNat ≤ 126 then [c]
  else if c.toNat < 0x10000 then codeUnit c.toNat
  else codeUnit (0xD800 + (c.toNat - 0x10000) / 1024) ++ codeUnit (0xDC00 + (c.toNat - 0x10000) % 1024)

def quoted (text : Text) : Text := '"' :: text.flatMap escape ++ ['"']

mutual

def dumps : Json → Text
  | .null => ['n','u','l','l']
  | .bool true => ['t','r','u','e']
  | .bool false => ['f','a','l','s','e']
  | .num value => (toString value).toList
  | .str value => quoted value.toList
  | .arr items => '[' :: dumpsItems items ++ [']']
  | .obj fields => Char.ofNat 123 :: dumpsFields fields ++ [Char.ofNat 125]

def dumpsItems : List Json → Text
  | [] => []
  | [item] => dumps item
  | item :: items => dumps item ++ ',' :: dumpsItems items

def dumpsFields : Fields → Text
  | [] => []
  | [(key,value)] => quoted key.toList ++ ':' :: dumps value
  | (key,value) :: fields => quoted key.toList ++ ':' :: dumps value ++ ',' :: dumpsFields fields

end

theorem length_codeUnit (n : ℕ) : (codeUnit n).length = 6 := rfl

theorem charSize_wide {c : Char} (h : 0x10000 ≤ c.toNat) : charSize c = 4 := by
  have hval : c.val.toNat = c.toNat := rfl
  rw [charSize,Utf8.encodeChar_eq hval,if_neg (by omega),if_neg (by omega),if_neg (by omega)]
  rfl

/-- Six characters are enough for a code unit, and twelve for the two of a wide character. -/
theorem length_escape_of {n : ℕ} (c : Char) (hn : 6 ≤ n) (hwide : 0x10000 ≤ c.toNat → 12 ≤ n) : (escape c).length ≤ n := by
  have hite {p : Prop} [Decidable p] {a b : Text} (ha : a.length ≤ n) (hb : b.length ≤ n) :
      (if p then a else b).length ≤ n := by split <;> assumption
  have hpair (a b : Char) : [a,b].length ≤ n := Nat.le_trans (by decide : 2 ≤ 6) hn
  have hone : [c].length ≤ n := Nat.le_trans (by decide : 1 ≤ 6) hn
  unfold escape
  refine hite (hpair ..) <| hite (hpair ..) <| hite (hpair ..) <| hite (hpair ..) <| hite (hpair ..) <|
    hite (hpair ..) <| hite hone ?_
  split
  · exact hn
  · next h => exact hwide (Nat.le_of_not_lt h)

theorem length_escape (c : Char) : (escape c).length ≤ 6 * charSize c := by
  have hpos := Utf8.charSize_pos c
  refine length_escape_of c (by omega) fun hwide => ?_
  have := charSize_wide hwide
  omega

theorem length_escape_le (c : Char) : (escape c).length ≤ 12 := length_escape_of c (by decide) fun _ => Nat.le_refl _

theorem length_quoted (text : Text) : (quoted text).length ≤ 6 * size text + 2 := by
  have h : (text.flatMap escape).length ≤ 6 * size text := by
    induction text with
    | nil => simp
    | cons c text ih =>
      have := length_escape c
      simp only [List.flatMap_cons,List.length_append,Utf8.size_cons]
      omega
  simp only [quoted,List.length_append,List.length_cons,List.length_nil]
  omega

theorem length_quoted_le (text : Text) : (quoted text).length ≤ 12 * text.length + 2 := by
  have h : (text.flatMap escape).length ≤ 12 * text.length := by
    induction text with
    | nil => simp
    | cons c text ih =>
      have := length_escape_le c
      simp only [List.flatMap_cons,List.length_append,List.length_cons]
      omega
  simp only [quoted,List.length_append,List.length_cons,List.length_nil]
  omega

/-- One item more is at least its own text more. -/
theorem length_dumpsItems_snoc (items : List Json) (item : Json) :
    (dumpsItems items).length + (dumps item).length ≤ (dumpsItems (items ++ [item])).length := by
  induction items with
  | nil => simp [dumpsItems]
  | cons first items ih =>
    cases items with
    | nil => simp [dumpsItems]
    | cons second items =>
      simp only [List.cons_append,dumpsItems,List.length_append,List.length_cons] at ih ⊢
      omega

theorem length_dumpsItems {items : List Json} {n : ℕ} (h : ∀ item ∈ items, (dumps item).length ≤ n) :
    (dumpsItems items).length ≤ items.length * (n + 1) := by
  induction items with
  | nil => simp [dumpsItems]
  | cons first items ih =>
    have hfirst := h first List.mem_cons_self
    have hrest := ih fun item hitem => h item (List.mem_cons_of_mem _ hitem)
    rw [List.length_cons,Nat.add_mul]
    cases items with
    | nil => simp only [dumpsItems,List.length_nil]; omega
    | cons second items =>
      simp only [dumpsItems,List.length_append,List.length_cons] at hrest ⊢
      omega

theorem length_dumps_arr (items : List Json) : (dumps (.arr items)).length = (dumpsItems items).length + 2 := by simp [dumps]

theorem length_dumps_obj (fields : Fields) : (dumps (.obj fields)).length = (dumpsFields fields).length + 2 := by simp [dumps]

theorem length_dumpsFields_single (key : String) (value : Json) :
    (dumpsFields [(key,value)]).length = (quoted key.toList).length + 1 + (dumps value).length := by
  simp [dumpsFields]
  omega

theorem length_dumpsFields_cons (key : String) (value : Json) (f : String × Json) (fields : Fields) :
    (dumpsFields ((key,value) :: f :: fields)).length =
      (quoted key.toList).length + 2 + (dumps value).length + (dumpsFields (f :: fields)).length := by
  simp [dumpsFields]
  omega

def Printable (c : Char) : Prop := 32 ≤ c.toNat ∧ c.toNat < 127

theorem printable_text {text : Text} (h : text.all (fun c => decide (32 ≤ c.toNat) && decide (c.toNat < 127)) = true) :
    ∀ c ∈ text, Printable c := by
  intro c hc
  have hboth := List.all_eq_true.mp h c hc
  rw [Bool.and_eq_true,decide_eq_true_eq,decide_eq_true_eq] at hboth
  exact hboth

theorem printable_digit {c : Char} (h : c.isDigit = true) : Printable c := by
  simp only [Char.isDigit,Bool.and_eq_true,decide_eq_true_eq] at h
  exact ⟨Nat.le_trans (by decide) (UInt32.le_iff_toNat_le.mp h.1),Nat.lt_of_le_of_lt (UInt32.le_iff_toNat_le.mp h.2) (by decide)⟩

theorem printable_int (n : Int) : ∀ c ∈ (toString n).toList, Printable c := by
  have hnat : ∀ n : ℕ, ∀ c ∈ (toString n).toList, Printable c := by
    intro n c hc
    have hdigits : c ∈ Nat.toDigits 10 n := by simpa using hc
    exact printable_digit (Nat.isDigit_of_mem_toDigits (by decide) (by decide) hdigits)
  cases n with
  | ofNat n => exact hnat n
  | negSucc n =>
    intro c hc
    have hneg : (toString (Int.negSucc n)).toList = '-' :: (toString (n + 1)).toList := by
      simp [Int.toString_eq_repr,Int.repr]
    rw [hneg] at hc
    rcases List.mem_cons.mp hc with rfl | hc
    · exact ⟨by decide,by decide⟩
    · exact hnat (n + 1) c hc

theorem printable_hexDigit (n : ℕ) : Printable (hexDigit n) := by
  have h : ∀ k < 16, Printable (hexDigit k) := by
    unfold Printable
    decide
  have hmod : hexDigit n = hexDigit (n % 16) := by simp [hexDigit]
  exact hmod ▸ h (n % 16) (Nat.mod_lt _ (by decide))

theorem printable_codeUnit (n : ℕ) : ∀ c ∈ codeUnit n, Printable c := by
  intro c hc
  simp only [codeUnit,List.mem_cons,List.not_mem_nil,or_false] at hc
  rcases hc with rfl | rfl | rfl | rfl | rfl | rfl
  · exact ⟨by decide,by decide⟩
  · exact ⟨by decide,by decide⟩
  all_goals exact printable_hexDigit _

/-- Whatever a character is written as, it is written in printable ASCII. -/
theorem printable_escape (c : Char) : ∀ d ∈ escape c, Printable d := by
  have hite {p : Prop} [Decidable p] {a b : Text} (ha : p → ∀ d ∈ a, Printable d) (hb : ∀ d ∈ b, Printable d) :
      ∀ d ∈ (if p then a else b), Printable d := by
    split
    · next hp => exact ha hp
    · exact hb
  have hpair (a : Char) (ha : Printable a) : ∀ d ∈ ['\\',a], Printable d :=
    List.forall_mem_cons.mpr ⟨⟨by decide,by decide⟩,List.forall_mem_singleton.mpr ha⟩
  unfold escape
  refine hite (fun h => hpair c ?_) <| hite (fun _ => hpair 'n' ⟨by decide,by decide⟩) <|
    hite (fun _ => hpair 'r' ⟨by decide,by decide⟩) <| hite (fun _ => hpair 't' ⟨by decide,by decide⟩) <|
    hite (fun _ => hpair 'b' ⟨by decide,by decide⟩) <| hite (fun _ => hpair 'f' ⟨by decide,by decide⟩) <|
    hite (fun h => List.forall_mem_singleton.mpr ⟨h.1,Nat.lt_succ_of_le h.2⟩) <|
    hite (fun _ => printable_codeUnit _) <| List.forall_mem_append.mpr ⟨printable_codeUnit _,printable_codeUnit _⟩
  rcases h with rfl | rfl
  · exact ⟨by decide,by decide⟩
  · exact ⟨by decide,by decide⟩

theorem printable_quoted (text : Text) : ∀ c ∈ quoted text, Printable c := by
  have hquote : Printable '"' := ⟨by decide,by decide⟩
  intro c hc
  simp only [quoted,List.cons_append,List.mem_cons,List.mem_append,List.mem_flatMap,List.not_mem_nil,or_false] at hc
  rcases hc with rfl | ⟨d,-,hc⟩ | rfl
  · exact hquote
  · exact printable_escape d c hc
  · exact hquote

theorem printable_item {item : Json} {items : List Json} (hitem : ∀ c ∈ dumps item, Printable c)
    (hitems : ∀ c ∈ dumpsItems items, Printable c) : ∀ c ∈ dumpsItems (item :: items), Printable c := by
  intro c hc
  cases items with
  | nil => exact hitem c hc
  | cons next items =>
    rcases List.mem_append.mp hc with hc | hc
    · exact hitem c hc
    · rcases List.mem_cons.mp hc with rfl | hc
      · exact ⟨by decide,by decide⟩
      · exact hitems c hc

theorem printable_field {field : String × Json} {fields : Fields} (hvalue : ∀ c ∈ dumps field.2, Printable c)
    (hfields : ∀ c ∈ dumpsFields fields, Printable c) : ∀ c ∈ dumpsFields (field :: fields), Printable c := by
  obtain ⟨key,value⟩ := field
  have hfield : ∀ c ∈ quoted key.toList ++ ':' :: dumps value, Printable c := by
    intro c hc
    rcases List.mem_append.mp hc with hc | hc
    · exact printable_quoted _ c hc
    · rcases List.mem_cons.mp hc with rfl | hc
      · exact ⟨by decide,by decide⟩
      · exact hvalue c hc
  intro c hc
  cases fields with
  | nil => exact hfield c hc
  | cons next fields =>
    rw [dumpsFields] at hc
    rcases List.mem_append.mp hc with hc | hc
    · exact hfield c hc
    · rcases List.mem_cons.mp hc with rfl | hc
      · exact ⟨by decide,by decide⟩
      · exact hfields c hc
    · exact List.cons_ne_nil _ _

theorem printable_between {a b : Char} {text : Text} (ha : Printable a) (hb : Printable b) (htext : ∀ c ∈ text, Printable c) :
    ∀ c ∈ a :: text ++ [b], Printable c := by
  intro c hc
  rcases List.mem_append.mp hc with hc | hc
  · rcases List.mem_cons.mp hc with rfl | hc
    · exact ha
    · exact htext c hc
  · exact List.mem_singleton.mp hc ▸ hb

/-- A value is written on one line of printable ASCII. -/
theorem printable_dumps (v : Json) : ∀ c ∈ dumps v, Printable c := by
  refine @Json.rec (fun v => ∀ c ∈ dumps v, Printable c) (fun items => ∀ c ∈ dumpsItems items, Printable c)
    (fun fields => ∀ c ∈ dumpsFields fields, Printable c) (fun field => ∀ c ∈ dumps field.2, Printable c)
    ?null ?bool printable_int (fun text => printable_quoted text.toList) ?arr ?obj ?items ?item ?fields ?field ?value v
  case null => exact printable_text rfl
  case bool =>
    intro b
    cases b
    · exact printable_text rfl
    · exact printable_text rfl
  case arr => exact fun items h => printable_between ⟨by decide,by decide⟩ ⟨by decide,by decide⟩ h
  case obj => exact fun fields h => printable_between ⟨by decide,by decide⟩ ⟨by decide,by decide⟩ h
  case items => exact fun _ hc => absurd hc List.not_mem_nil
  case item => exact fun _ _ => printable_item
  case fields => exact fun _ hc => absurd hc List.not_mem_nil
  case field => exact fun _ _ => printable_field
  case value => exact fun _ _ h => h

end JsonText
end LocalPlane
