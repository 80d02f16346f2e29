import LocalPlane.JsonText

/-!
# A JSON text is read one way

A character is read back from what it is escaped to, and no value's text begins another's, but
for numbers with more digits behind them. So a text is that of one value only.
-/

set_option linter.dupNamespace false

namespace LocalPlane
namespace JsonText

open LineProtocol (Json Fields)

def hexValue (c : Char) : ℕ := if c.toNat < 65 then c.toNat - 48 else c.toNat - 87

def unit (a b c d : Char) : ℕ := hexValue a * 4096 + hexValue b * 256 + hexValue c * 16 + hexValue d

/-- The character that stands behind a backslash, and what follows it. -/
def unescaped : Text → Option (Char × Text)
  | 'n' :: rest => some ('\n',rest)
  | 'r' :: rest => some ('\r',rest)
  | 't' :: rest => some ('\t',rest)
  | 'b' :: rest => some (Char.ofNat 8,rest)
  | 'f' :: rest => some (Char.ofNat 12,rest)
  | 'u' :: a :: b :: c :: d :: rest =>
    if 0xD800 ≤ unit a b c d ∧ unit a b c d < 0xDC00 then
      match rest with
      | '\\' :: 'u' :: e :: f :: g :: h :: rest =>
        some (Char.ofNat (0x10000 + (unit a b c d - 0xD800) * 1024 + (unit e f g h - 0xDC00)),rest)
      | _ => none
    else some (Char.ofNat (unit a b c d),rest)
  | c :: rest => some (c,rest)
  | [] => none

def unescape : Text → Option (Char × Text)
  | [] => none
  | c :: rest => if c = '\\' then unescaped rest else some (c,rest)

theorem hexValue_hexDigit (n : ℕ) : hexValue (hexDigit n) = n % 16 := by
  have h : ∀ k < 16, hexValue (hexDigit k) = k := by decide
  have hmod : hexDigit n = hexDigit (n % 16) := by simp [hexDigit]
  exact hmod ▸ h (n % 16) (Nat.mod_lt _ (by decide))

theorem unit_codeUnit {n : ℕ} (h : n < 0x10000) :
    unit (hexDigit (n / 4096)) (hexDigit (n / 256)) (hexDigit (n / 16)) (hexDigit n) = n := by
  simp only [unit,hexValue_hexDigit]
  omega

theorem unescape_codeUnit {n : ℕ} (h : n < 0x10000) (hplain : ¬(0xD800 ≤ n ∧ n < 0xDC00)) (rest : Text) :
    unescape (codeUnit n ++ rest) = some (Char.ofNat n,rest) := by
  simp only [codeUnit,List.cons_append,List.nil_append,unescape,if_pos,unescaped,unit_codeUnit h,if_neg hplain]

theorem unescape_pair {n m : ℕ} (hn : 0xD800 ≤ n ∧ n < 0xDC00) (hm : m < 0x10000) (rest : Text) :
    unescape (codeUnit n ++ codeUnit m ++ rest) = some (Char.ofNat (0x10000 + (n - 0xD800) * 1024 + (m - 0xDC00)),rest) := by
  have hn' : n < 0x10000 := by omega
  simp only [codeUnit,List.cons_append,List.nil_append,unescape,if_pos,unescaped,unit_codeUnit hn',unit_codeUnit hm,if_pos hn]

theorem unescape_escape (c : Char) (rest : Text) : unescape (escape c ++ rest) = some (c,rest) := by
  have hval : c.val.toNat = c.toNat := rfl
  have hvalid : c.toNat < 0xD800 ∨ 0xDFFF < c.toNat ∧ c.toNat < 0x110000 := c.valid
  unfold escape
  split_ifs with hquote hnewline hreturn htab hback hfeed hplain hbmp
  · rcases hquote with rfl | rfl <;> rfl
  · rw [hnewline]; rfl
  · rw [hreturn]; rfl
  · rw [htab]; rfl
  · rw [← Char.ofNat_toNat c,hback]; rfl
  · rw [← Char.ofNat_toNat c,hfeed]; rfl
  · exact if_neg fun h => hquote (.inr h)
  · rw [unescape_codeUnit hbmp (by omega),Char.ofNat_toNat]
  · have hjoin : 0x10000 + (0xD800 + (c.toNat - 0x10000) / 1024 - 0xD800) * 1024 +
        (0xDC00 + (c.toNat - 0x10000) % 1024 - 0xDC00) = c.toNat := by omega
    rw [unescape_pair (by omega) (by omega),hjoin,Char.ofNat_toNat]

theorem escape_unique {c d : Char} {rest rest' : Text} (h : escape c ++ rest = escape d ++ rest') : c = d ∧ rest = rest' := by
  have hread := congrArg unescape h
  rw [unescape_escape,unescape_escape] at hread
  cases hread
  exact ⟨rfl,rfl⟩

/-- The end of a string is no character of it. -/
theorem escape_ne {c : Char} {rest rest' : Text} : escape c ++ rest ≠ '"' :: rest' := by
  intro h
  have hread := congrArg unescape h
  rw [unescape_escape] at hread
  have hquote : unescape ('"' :: rest') = some ('"',rest') := rfl
  rw [hquote] at hread
  cases hread
  cases h

theorem quoted_unique {text text' rest rest' : Text} (h : quoted text ++ rest = quoted text' ++ rest') : text = text' ∧ rest = rest' := by
  have hinner : text.flatMap escape ++ '"' :: rest = text'.flatMap escape ++ '"' :: rest' := by simpa [quoted] using h
  clear h
  induction text generalizing text' with
  | nil =>
    cases text' with
    | nil =>
      cases hinner
      exact ⟨rfl,rfl⟩
    | cons c text' =>
      rw [List.flatMap_cons,List.append_assoc] at hinner
      exact absurd hinner.symm escape_ne
  | cons c text ih =>
    rw [List.flatMap_cons,List.append_assoc] at hinner
    cases text' with
    | nil => exact absurd hinner escape_ne
    | cons d text' =>
      rw [List.flatMap_cons,List.append_assoc] at hinner
      obtain ⟨rfl,hrest⟩ := escape_unique hinner
      obtain ⟨rfl,heq⟩ := ih hrest
      exact ⟨rfl,heq⟩

/-- No digit comes first. -/
def Closed (rest : Text) : Prop := ∀ c, rest.head? = some c → c.isDigit = false

theorem closed_cons {c : Char} (h : c.isDigit = false) (rest : Text) : Closed (c :: rest) := by
  intro d hd
  cases hd
  exact h

theorem digits_unique {n m : ℕ} {rest rest' : Text} (hrest : Closed rest) (hrest' : Closed rest')
    (h : Nat.toDigits 10 n ++ rest = Nat.toDigits 10 m ++ rest') : n = m ∧ rest = rest' := by
  have htake : ∀ (n : ℕ) {rest : Text}, Closed rest → (Nat.toDigits 10 n ++ rest).takeWhile Char.isDigit = Nat.toDigits 10 n := by
    intro n rest hclosed
    rw [List.takeWhile_append_of_pos fun c hc => Nat.isDigit_of_mem_toDigits (by decide) (by decide) hc]
    cases rest with
    | nil => simp
    | cons c rest => simp [hclosed c rfl]
  have hdigits := congrArg (List.takeWhile Char.isDigit) h
  rw [htake n hrest,htake m hrest'] at hdigits
  have hvalue := congrArg (fun digits => Nat.ofDigitChars 10 digits 0) hdigits
  simp only [Nat.ofDigitChars_toDigits (b := 10) (by decide) (by decide)] at hvalue
  rw [hdigits] at h
  exact ⟨hvalue,List.append_cancel_left h⟩

theorem toList_nat (n : ℕ) : (toString (n : Int)).toList = Nat.toDigits 10 n := by
  simp [Int.toString_eq_repr,Int.repr]

theorem toList_negSucc (n : ℕ) : (toString (Int.negSucc n)).toList = '-' :: Nat.toDigits 10 (n + 1) := by
  simp [Int.toString_eq_repr,Int.repr]

theorem toDigits_head (n : ℕ) : ∃ c text, Nat.toDigits 10 n = c :: text ∧ c.isDigit = true := by
  obtain ⟨c,text,h⟩ := List.exists_cons_of_ne_nil (Nat.toDigits_ne_nil (n := n) (b := 10))
  exact ⟨c,text,h,Nat.isDigit_of_mem_toDigits (by decide) (by decide) (h ▸ List.mem_cons_self)⟩

theorem minus_ne {n : ℕ} {rest rest' : Text} : Nat.toDigits 10 n ++ rest ≠ '-' :: rest' := by
  intro h
  obtain ⟨c,text,hdigits,hc⟩ := toDigits_head n
  rw [hdigits] at h
  cases h
  cases hc

theorem num_unique {n m : Int} {rest rest' : Text} (hrest : Closed rest) (hrest' : Closed rest')
    (h : (toString n).toList ++ rest = (toString m).toList ++ rest') : n = m ∧ rest = rest' := by
  cases n with
  | ofNat n =>
    rw [Int.ofNat_eq_natCast,toList_nat] at h
    cases m with
    | ofNat m =>
      rw [Int.ofNat_eq_natCast,toList_nat] at h
      obtain ⟨rfl,heq⟩ := digits_unique hrest hrest' h
      exact ⟨rfl,heq⟩
    | negSucc m =>
      rw [toList_negSucc] at h
      exact absurd h minus_ne
  | negSucc n =>
    rw [toList_negSucc] at h
    cases m with
    | ofNat m =>
      rw [Int.ofNat_eq_natCast,toList_nat] at h
      exact absurd h.symm minus_ne
    | negSucc m =>
      rw [toList_negSucc] at h
      obtain ⟨heq,hrest⟩ := digits_unique hrest hrest' (List.cons.inj h).2
      cases heq
      exact ⟨rfl,hrest⟩

def rank : Json → ℕ
  | .null => 0
  | .bool _ => 1
  | .num _ => 2
  | .str _ => 3
  | .arr _ => 4
  | .obj _ => 5

/-- What kind of value begins with a character; none with what stands between or behind values. -/
def leads (c : Char) : ℕ :=
  if c = 'n' then 0
  else if c = 't' ∨ c = 'f' then 1
  else if c = '"' then 3
  else if c = '[' then 4
  else if c = Char.ofNat 123 then 5
  else if c = ']' ∨ c = Char.ofNat 125 ∨ c = ',' then 6
  else 2

theorem leads_digit {c : Char} (h : c.isDigit = true) : leads c = 2 := by
  have hne : ∀ d : Char, d.isDigit = false → c ≠ d := by
    rintro d hd rfl
    rw [h] at hd
    cases hd
  simp [leads,hne 'n' rfl,hne 't' rfl,hne 'f' rfl,hne '"' rfl,hne '[' rfl,hne (Char.ofNat 123) rfl,hne ']' rfl,
    hne (Char.ofNat 125) rfl,hne ',' rfl]

theorem dumps_leads (v : Json) : ∃ c text, dumps v = c :: text ∧ leads c = rank v := by
  cases v with
  | null => exact ⟨_,_,rfl,rfl⟩
  | bool b => cases b <;> exact ⟨_,_,rfl,rfl⟩
  | num n =>
    cases n with
    | ofNat n =>
      obtain ⟨c,text,hdigits,hc⟩ := toDigits_head n
      exact ⟨c,text,(toList_nat n).trans hdigits,leads_digit hc⟩
    | negSucc n => exact ⟨'-',_,toList_negSucc n,rfl⟩
  | str text => exact ⟨_,_,rfl,rfl⟩
  | arr items => exact ⟨_,_,rfl,rfl⟩
  | obj fields => exact ⟨_,_,rfl,rfl⟩

theorem rank_unique {v v' : Json} {rest rest' : Text} (h : dumps v ++ rest = dumps v' ++ rest') : rank v = rank v' := by
  obtain ⟨c,text,heq,hc⟩ := dumps_leads v
  obtain ⟨c',text',heq',hc'⟩ := dumps_leads v'
  rw [heq,heq'] at h
  obtain ⟨rfl,-⟩ := List.cons.inj h
  exact hc.symm.trans hc'

theorem dumps_ne {v : Json} {c : Char} (hc : leads c = 6) {rest rest' : Text} : dumps v ++ rest ≠ c :: rest' := by
  intro h
  obtain ⟨d,text,heq,hd⟩ := dumps_leads v
  rw [heq] at h
  cases h
  rw [hc] at hd
  cases v <;> cases hd

section Unique

variable {rest rest' : Text}

/-- What stands behind an item: the other items, and the end. -/
def itemsTail : List Json → Text → Text
  | [],rest => ']' :: rest
  | item :: items,rest => ',' :: dumpsItems (item :: items) ++ ']' :: rest

def fieldsTail : Fields → Text → Text
  | [],rest => Char.ofNat 125 :: rest
  | field :: fields,rest => ',' :: dumpsFields (field :: fields) ++ Char.ofNat 125 :: rest

theorem dumpsItems_tail (item : Json) (items : List Json) (rest : Text) :
    dumpsItems (item :: items) ++ ']' :: rest = dumps item ++ itemsTail items rest := by
  cases items with
  | nil => rfl
  | cons next items => simp [dumpsItems,itemsTail]

theorem dumpsFields_tail (field : String × Json) (fields : Fields) (rest : Text) :
    dumpsFields (field :: fields) ++ Char.ofNat 125 :: rest =
      quoted field.1.toList ++ ':' :: (dumps field.2 ++ fieldsTail fields rest) := by
  obtain ⟨key,value⟩ := field
  cases fields with
  | nil => simp [dumpsFields,fieldsTail]
  | cons next fields => simp [dumpsFields,fieldsTail]

theorem closed_itemsTail (items : List Json) (rest : Text) : Closed (itemsTail items rest) := by
  cases items with
  | nil => exact closed_cons rfl _
  | cons item items => exact closed_cons rfl _

theorem closed_fieldsTail (fields : Fields) (rest : Text) : Closed (fieldsTail fields rest) := by
  cases fields with
  | nil => exact closed_cons rfl _
  | cons field fields => exact closed_cons rfl _

def Unique (v : Json) : Prop :=
  ∀ v' rest rest', Closed rest → Closed rest' → dumps v ++ rest = dumps v' ++ rest' → v = v' ∧ rest = rest'

def UniqueItems (items : List Json) : Prop :=
  ∀ items' rest rest', dumpsItems items ++ ']' :: rest = dumpsItems items' ++ ']' :: rest' → items = items' ∧ rest = rest'

def UniqueFields (fields : Fields) : Prop :=
  ∀ fields' rest rest', dumpsFields fields ++ Char.ofNat 125 :: rest = dumpsFields fields' ++ Char.ofNat 125 :: rest' →
    fields = fields' ∧ rest = rest'

theorem uniqueItems_nil : UniqueItems [] := by
  intro items' rest rest' h
  cases items' with
  | nil => exact ⟨rfl,(List.cons.inj h).2⟩
  | cons item' items' =>
    rw [dumpsItems_tail] at h
    exact absurd h.symm (dumps_ne rfl)

theorem uniqueItems_cons {item : Json} {items : List Json} (hitem : Unique item) (hitems : UniqueItems items) :
    UniqueItems (item :: items) := by
  intro items' rest rest' h
  rw [dumpsItems_tail] at h
  cases items' with
  | nil => exact absurd h (dumps_ne rfl)
  | cons item' items' =>
    rw [dumpsItems_tail] at h
    obtain ⟨rfl,htail⟩ := hitem _ _ _ (closed_itemsTail items rest) (closed_itemsTail items' rest') h
    cases items with
    | nil =>
      cases items' with
      | nil => exact ⟨rfl,(List.cons.inj htail).2⟩
      | cons next' items' => exact absurd (List.cons.inj htail).1 (by decide)
    | cons next items =>
      cases items' with
      | nil => exact absurd (List.cons.inj htail).1 (by decide)
      | cons next' items' =>
        obtain ⟨heq,hrest⟩ := hitems _ _ _ (List.cons.inj htail).2
        exact ⟨by rw [heq],hrest⟩

theorem quoted_ne {text rest rest' : Text} {c : Char} (hc : c ≠ '"') : quoted text ++ rest ≠ c :: rest' :=
  fun h => hc (List.cons.inj h).1.symm

theorem uniqueFields_nil : UniqueFields [] := by
  intro fields' rest rest' h
  cases fields' with
  | nil => exact ⟨rfl,(List.cons.inj h).2⟩
  | cons field' fields' =>
    rw [dumpsFields_tail] at h
    exact absurd h.symm (quoted_ne (by decide))

theorem uniqueFields_cons {field : String × Json} {fields : Fields} (hvalue : Unique field.2) (hfields : UniqueFields fields) :
    UniqueFields (field :: fields) := by
  intro fields' rest rest' h
  rw [dumpsFields_tail] at h
  cases fields' with
  | nil => exact absurd h (quoted_ne (by decide))
  | cons field' fields' =>
    rw [dumpsFields_tail] at h
    obtain ⟨hkey,hbehind⟩ := quoted_unique h
    obtain ⟨hvalue,htail⟩ := hvalue _ _ _ (closed_fieldsTail fields rest) (closed_fieldsTail fields' rest') (List.cons.inj hbehind).2
    have hfield : field = field' := Prod.ext (String.toList_inj.mp hkey) hvalue
    subst hfield
    cases fields with
    | nil =>
      cases fields' with
      | nil => exact ⟨rfl,(List.cons.inj htail).2⟩
      | cons next' fields' => exact absurd (List.cons.inj htail).1 (by decide)
    | cons next fields =>
      cases fields' with
      | nil => exact absurd (List.cons.inj htail).1 (by decide)
      | cons next' fields' =>
        obtain ⟨heq,hrest⟩ := hfields _ _ _ (List.cons.inj htail).2
        exact ⟨by rw [heq],hrest⟩

theorem unique_arr {items : List Json} (h : UniqueItems items) : Unique (.arr items) := by
  intro v' rest rest' _ _ heq
  have hrank := rank_unique heq
  cases v' with
  | arr items' =>
    have hinner : dumpsItems items ++ ']' :: rest = dumpsItems items' ++ ']' :: rest' := by simpa [dumps] using heq
    obtain ⟨rfl,hrest⟩ := h _ _ _ hinner
    exact ⟨rfl,hrest⟩
  | _ => cases hrank

theorem unique_obj {fields : Fields} (h : UniqueFields fields) : Unique (.obj fields) := by
  intro v' rest rest' _ _ heq
  have hrank := rank_unique heq
  cases v' with
  | obj fields' =>
    have hinner : dumpsFields fields ++ Char.ofNat 125 :: rest = dumpsFields fields' ++ Char.ofNat 125 :: rest' := by
      simpa [dumps] using heq
    obtain ⟨rfl,hrest⟩ := h _ _ _ hinner
    exact ⟨rfl,hrest⟩
  | _ => cases hrank

/-- A value's text, with no digit behind it, is read as that value. -/
theorem dumps_unique (v : Json) : Unique v := by
  refine @Json.rec Unique UniqueItems UniqueFields (fun field => Unique field.2)
    ?null ?bool ?num ?str (fun _ => unique_arr) (fun _ => unique_obj) uniqueItems_nil (fun _ _ => uniqueItems_cons)
    uniqueFields_nil (fun _ _ => uniqueFields_cons) (fun _ _ h => h) v
  case null =>
    intro v' rest rest' _ _ h
    have hrank := rank_unique h
    cases v' with
    | null => exact ⟨rfl,List.append_cancel_left h⟩
    | _ => cases hrank
  case bool =>
    intro b v' rest rest' _ _ h
    have hrank := rank_unique h
    cases v' with
    | bool b' =>
      cases b <;> cases b'
      · exact ⟨rfl,List.append_cancel_left h⟩
      · exact absurd (List.cons.inj h).1 (by decide)
      · exact absurd (List.cons.inj h).1 (by decide)
      · exact ⟨rfl,List.append_cancel_left h⟩
    | _ => cases hrank
  case num =>
    intro n v' rest rest' hrest hrest' h
    have hrank := rank_unique h
    cases v' with
    | num n' =>
      obtain ⟨rfl,heq⟩ := num_unique hrest hrest' h
      exact ⟨rfl,heq⟩
    | _ => cases hrank
  case str =>
    intro text v' rest rest' _ _ h
    have hrank := rank_unique h
    cases v' with
    | str text' =>
      obtain ⟨htext,heq⟩ := quoted_unique h
      exact ⟨by rw [String.toList_inj.mp htext],heq⟩
    | _ => cases hrank

theorem dumps_injective : Function.Injective dumps := by
  intro v v' h
  have hclosed : Closed [] := fun _ hc => by cases hc
  exact (dumps_unique v v' [] [] hclosed hclosed (congrArg (· ++ []) h)).1

end Unique

end JsonText
end LocalPlane
