import Mathlib.Data.Nat.Notation
import Mathlib.Data.List.Basic
import Mathlib.Tactic.Common
import Std.Data.String.ToNat

/-!
# Splitting a URL

A URL is taken apart the way a lenient reader does it: nothing is refused before a part is
asked for, and the host and the port are read out of whatever stands between the slashes.
Two readings of one endpoint are told apart by what they are written as.
-/

set_option linter.dupNamespace false

namespace LocalPlane
namespace Url

/-- Header text, whose characters are single bytes. -/
abbrev Text := List Char

def isAscii (c : Char) : Bool := c.toNat < 128

def isUpper (c : Char) : Bool :=
  (65 ≤ c.toNat && c.toNat ≤ 90) || (192 ≤ c.toNat && c.toNat ≤ 222 && c.toNat ≠ 215)

def lowerChar (c : Char) : Char := if isUpper c then Char.ofNat (c.toNat + 32) else c

def lower (t : Text) : Text := t.map lowerChar

def isSpace (c : Char) : Bool := c.toNat ∈ [9,10,11,12,13,28,29,30,31,32,133,160]

def isDigit (c : Char) : Bool := 48 ≤ c.toNat && c.toNat ≤ 57

def isAlpha (c : Char) : Bool := (65 ≤ c.toNat && c.toNat ≤ 90) || (97 ≤ c.toNat && c.toNat ≤ 122)

def isHex (c : Char) : Bool :=
  isDigit c || (65 ≤ c.toNat && c.toNat ≤ 70) || (97 ≤ c.toNat && c.toNat ≤ 102)

/-- What stands before the first of a character, what stands after it, and what starts at it. -/
def before (c : Char) : Text → Text
  | [] => []
  | d :: t => if d = c then [] else d :: before c t

def after (c : Char) : Text → Text
  | [] => []
  | d :: t => if d = c then t else after c t

def startingAt (c : Char) : Text → Text
  | [] => []
  | d :: t => if d = c then d :: t else startingAt c t

/-- What stands after the last of a character, or all of it. -/
def afterLast (c : Char) (t : Text) : Text := (before c t.reverse).reverse

/-- The parts between one separator and the next; an empty text has one empty part. -/
def splitOn (c : Char) : Text → List Text
  | [] => [[]]
  | d :: t =>
    if d = c then [] :: splitOn c t
    else match splitOn c t with
      | [] => [[d]]
      | part :: rest => (d :: part) :: rest

section Address

/-- One part of a dotted quad: up to three digits, no leading zero, at most 255. -/
def octet (t : Text) : Bool :=
  t ≠ [] && t.all isDigit && t.length ≤ 3 && (t = ['0'] || t.head? ≠ some '0') &&
    t.foldl (fun n c => n * 10 + (c.toNat - 48)) 0 ≤ 255

def ipv4 (t : Text) : Bool := (splitOn '.' t).length = 4 && (splitOn '.' t).all octet

def hextet (t : Text) : Bool := t ≠ [] && t.length ≤ 4 && t.all isHex

/-- The inner parts that are empty, by their place. -/
def gaps (parts : List Text) : List ℕ :=
  (List.range parts.length).filter fun i => 0 < i && i + 1 < parts.length && parts[i]? = some []

/-- Eight groups, or fewer around one double colon; an end may be empty only beside it. -/
def groups (parts : List Text) : Bool :=
  3 ≤ parts.length && parts.length ≤ 9 &&
    match gaps parts with
    | [] => parts.length = 8 && parts.all hextet
    | [skip] =>
      let high := if parts.head? = some [] then parts.take skip |>.drop 1 else parts.take skip
      let low := if parts.getLast? = some [] then (parts.drop (skip + 1)).dropLast else parts.drop (skip + 1)
      (parts.head? ≠ some [] || high = []) && (parts.getLast? ≠ some [] || low = []) &&
        high.length + low.length < 8 && high.all hextet && low.all hextet
    | _ => false

/-- An IPv6 address, the last two groups of which may be written as a dotted quad, with a zone that is
not empty where there is a percent sign. -/
def ipv6 (t : Text) : Bool :=
  let address := before '%' t
  let parts := splitOn ':' address
  ('%' ∉ t || (after '%' t ≠ [] && '%' ∉ after '%' t)) && '/' ∉ t &&
    match parts.getLast? with
    | none => false
    | some last =>
      if '.' ∈ last then 3 ≤ parts.length && ipv4 last && groups (parts.dropLast ++ [['0'],['0']]) else groups parts

/-- What may stand in brackets: an address, or one of a version to come. -/
def bracketed (t : Text) : Bool :=
  if t.head? = some 'v' then
    let version := before '.' (t.drop 1)
    version ≠ [] && version.all isHex && '.' ∈ t && after '.' t ≠ []
  else ipv6 t

end Address

structure SplitResult where
  scheme : Text
  netloc : Text
  path : Text
  query : Text
  fragment : Text

/-- The scheme, where the text starts with one, and what follows its colon. -/
def splitScheme (url : Text) : Text × Text :=
  if url.head?.any isAlpha && ':' ∈ url && (before ':' url).all (fun c => isAlpha c || isDigit c || c ∈ ['+','-','.']) then
    (lower (before ':' url),after ':' url)
  else ([],url)

def splitNetloc (url : Text) : Text × Text :=
  if url.take 2 = ['/','/'] then
    ((url.drop 2).takeWhile (· ∉ ['/','?','#']),(url.drop 2).dropWhile (· ∉ ['/','?','#']))
  else ([],url)

/-- Only the brackets are looked at. -/
def urlsplit (url : Text) : Option SplitResult :=
  let url := (url.dropWhile (·.toNat ≤ 32)).filter (· ∉ ['\t','\r','\n'])
  let (scheme,url) := splitScheme url
  let (netloc,url) := splitNetloc url
  if ¬('[' ∈ netloc ↔ ']' ∈ netloc) then none
  else if '[' ∈ netloc ∧ bracketed (before ']' (after '[' netloc)) = false then none
  else some ⟨scheme,netloc,before '?' (before '#' url),after '?' (before '#' url),after '#' url⟩

/-- Digits are converted only up to a length the language sets. -/
def number (t : Text) : Option ℕ :=
  if t.all isDigit && t.length ≤ 4300 then some (t.foldl (fun n c => n * 10 + (c.toNat - 48)) 0) else none

namespace SplitResult

variable (r : SplitResult)

def hostinfo : Text × Text :=
  let info := afterLast '@' r.netloc
  if '[' ∈ info then (before ']' (after '[' info),after ':' (after ']' (after '[' info)))
  else (before ':' info,after ':' info)

/-- The host; its zone keeps its case. -/
def hostname : Option Text :=
  let host := r.hostinfo.1
  if host = [] then none
  else some (lower (before '%' host) ++ startingAt '%' host)

/-- The port, where one is given; nothing where what is given is none. -/
def port : Option (Option ℕ) :=
  if r.hostinfo.2 = [] then some none
  else match number r.hostinfo.2 with
    | none => none
    | some n => if n ≤ 65535 then some (some n) else none

def hasUser : Bool := '@' ∈ r.netloc

end SplitResult

/-- Where a URL leads: what it is spoken in, the host in one case, and the port that is meant. -/
structure Endpoint where
  scheme : Text
  host : Text
  port : ℕ
  deriving DecidableEq

def defaultPort (scheme : Text) : ℕ := if scheme = ['h','t','t','p'] then 80 else 443

/-- Where a URL leads, if its parts can be read. -/
def endpoint (url : Text) : Option Endpoint := do
  let r ← urlsplit url
  let host ← r.hostname
  let port ← r.port
  return ⟨r.scheme,lower host,port.getD (defaultPort r.scheme)⟩

def digits (n : ℕ) : Text := (Nat.repr n).toList

def authority (host : Text) : Text := if ':' ∈ host then '[' :: host ++ [']'] else host

def portText (scheme : Text) (port : ℕ) : Text := if port = defaultPort scheme then [] else ':' :: digits port

/-- How an endpoint is written: an address in brackets, and the port where it is not the usual one. -/
def Endpoint.write (e : Endpoint) : Text :=
  e.scheme ++ [':','/','/'] ++ authority e.host ++ portText e.scheme e.port

section Parts

variable {c d : Char} {t : Text}

theorem not_mem_before : c ∉ before c t := by
  induction t with
  | nil => simp [before]
  | cons d t ih =>
    rw [before]
    split_ifs with h
    · simp
    · simp [Ne.symm h,ih]

/-- Up to a character that was not there before, a text is what it was. -/
theorem before_append (h : c ∉ t) (u : Text) : before c (t ++ c :: u) = t ∧ after c (t ++ c :: u) = u := by
  induction t with
  | nil => simp [before,after]
  | cons d t ih =>
    have hd : d ≠ c := fun he => h (he ▸ List.mem_cons_self)
    obtain ⟨hb,ha⟩ := ih fun hm => h (List.mem_cons_of_mem _ hm)
    simp [before,after,hd,hb,ha]

theorem before_eq_self (h : c ∉ t) : before c t = t := by
  induction t with
  | nil => rfl
  | cons d t ih =>
    have hd : d ≠ c := fun he => h (he ▸ List.mem_cons_self)
    simp [before,hd,ih fun hm => h (List.mem_cons_of_mem _ hm)]

theorem before_append_startingAt (c : Char) (t : Text) : before c t ++ startingAt c t = t := by
  induction t with
  | nil => rfl
  | cons d t ih =>
    rw [before,startingAt]
    split_ifs with h
    · rfl
    · rw [List.cons_append,ih]

theorem after_eq_nil (h : c ∉ t) : after c t = [] := by
  induction t with
  | nil => rfl
  | cons d t ih =>
    have hd : d ≠ c := fun he => h (he ▸ List.mem_cons_self)
    simp [after,hd,ih fun hm => h (List.mem_cons_of_mem _ hm)]

end Parts

section Case

variable {c : Char} {t : Text}

theorem toNat_lowerChar {d : Char} (h : isUpper d = true) : (lowerChar d).toNat = d.toNat + 32 := by
  have hrange := h
  simp only [isUpper,Bool.or_eq_true,Bool.and_eq_true,decide_eq_true_eq] at hrange
  have hvalid : (d.toNat + 32).isValidChar := .inl (by omega)
  rw [lowerChar,if_pos h,Char.ofNat,dif_pos hvalid]
  rfl

theorem lowerChar_lowerChar (d : Char) : lowerChar (lowerChar d) = lowerChar d := by
  by_cases h : isUpper d = true
  · have hn := toNat_lowerChar h
    have hlow : isUpper (lowerChar d) = false := by
      simp only [isUpper,hn,Bool.or_eq_true,Bool.and_eq_true,decide_eq_true_eq] at h ⊢
      rw [Bool.eq_false_iff]
      simp only [ne_eq,Bool.or_eq_true,Bool.and_eq_true,decide_eq_true_eq]
      omega
    rw [lowerChar,hlow]
    rfl
  · have hself : lowerChar d = d := if_neg h
    rw [hself,hself]

@[simp] theorem lower_lower (t : Text) : lower (lower t) = lower t := by
  simp [lower,lowerChar_lowerChar]

theorem lowerChar_mark (d : Char) (hc : c ∈ [':','[',']','%']) (h : lowerChar d = c) : d = c := by
  by_cases hupper : isUpper d = true
  · have hn := toNat_lowerChar hupper
    rw [h] at hn
    simp only [isUpper,Bool.or_eq_true,Bool.and_eq_true,decide_eq_true_eq] at hupper
    simp only [List.mem_cons,List.not_mem_nil,or_false] at hc
    rcases hc with rfl | rfl | rfl | rfl <;> simp at hn <;> omega
  · rwa [lowerChar,if_neg hupper] at h

/-- The marks a URL is taken apart by have no case. -/
theorem mem_lower (hc : c ∈ [':','[',']','%']) : c ∈ lower t ↔ c ∈ t := by
  constructor
  · intro h
    obtain ⟨d,hd,he⟩ := List.mem_map.mp h
    exact lowerChar_mark d hc he ▸ hd
  · intro h
    refine List.mem_map.mpr ⟨c,h,?_⟩
    simp only [List.mem_cons,List.not_mem_nil,or_false] at hc
    rcases hc with rfl | rfl | rfl | rfl <;> decide

end Case

section Write

theorem digits_inj {m n : ℕ} (h : digits m = digits n) : m = n := Nat.repr_inj.mp (String.toList_inj.mp h)

theorem isDigit_of_mem_digits {n : ℕ} {c : Char} (h : c ∈ digits n) : c.isDigit := by
  rw [digits,Nat.toList_repr] at h
  exact Nat.isDigit_of_mem_toDigits (by decide) (by decide) h

/-- An endpoint whose parts were read out of a URL. -/
structure Endpoint.Proper (e : Endpoint) : Prop where
  scheme : ':' ∉ e.scheme
  host : ':' ∈ e.host → ']' ∉ e.host

theorem lower_authority (host : Text) : lower (authority host) = authority (lower host) := by
  unfold authority
  by_cases h : ':' ∈ host
  · rw [if_pos h,if_pos ((mem_lower (by decide)).mpr h)]
    simp only [lower,List.map_append,List.map_cons,List.map_nil]
    rfl
  · rw [if_neg h,if_neg fun hm => h ((mem_lower (by decide)).mp hm)]

/-- A port that is not given is written like the usual one. -/
theorem portText_getD (scheme : Text) (port : Option ℕ) :
    (if port = none ∨ port = some (defaultPort scheme) then [] else ':' :: digits (port.getD 0)) =
      portText scheme (port.getD (defaultPort scheme)) := by
  cases port with
  | none => simp [portText]
  | some n => simp [portText]

theorem portText_cases (scheme : Text) (port : ℕ) :
    portText scheme port = [] ∨ portText scheme port = ':' :: digits port := by
  unfold portText
  split_ifs <;> simp

theorem bracket_not_mem_portText (scheme : Text) (port : ℕ) : ']' ∉ portText scheme port := by
  rcases portText_cases scheme port with h | h <;> rw [h]
  · simp
  · intro hm
    rcases List.mem_cons.mp hm with he | hm
    · cases he
    · exact absurd (isDigit_of_mem_digits hm) (by decide)

theorem portText_inj {scheme : Text} {m n : ℕ} (h : portText scheme m = portText scheme n) : m = n := by
  unfold portText at h
  split_ifs at h with hm hn
  · rw [hm,hn]
  · exact digits_inj (List.cons.inj h).2

/-- What follows a host with no colon in it starts at the first colon, if anywhere. -/
theorem before_plain {h : Text} (hh : ':' ∉ h) (scheme : Text) (port : ℕ) :
    before ':' (h ++ portText scheme port) = h ∧ after ':' (h ++ portText scheme port) = (portText scheme port).drop 1 := by
  rcases portText_cases scheme port with hp | hp <;> rw [hp]
  · rw [List.append_nil]
    exact ⟨before_eq_self hh,after_eq_nil hh⟩
  · exact before_append hh _

/-- A bracketed host and a plain one are never written alike: past the first colon only one has a bracket. -/
theorem bracket_apart {h h' scheme : Text} {m n : ℕ} (hcolon : ':' ∈ h) (hplain : ':' ∉ h') :
    '[' :: h ++ [']'] ++ portText scheme m ≠ h' ++ portText scheme n := by
  intro he
  have hafter := congrArg (after ':') he
  rw [(before_plain hplain scheme n).2] at hafter
  have hbracket : ']' ∈ after ':' ('[' :: h ++ [']'] ++ portText scheme m) := by
    have hsplit : ∀ t : Text, ':' ∈ t → ']' ∈ after ':' (t ++ (']' :: portText scheme m)) := fun t ht => by
      induction t with
      | nil => cases ht
      | cons d t ih =>
        rw [List.cons_append,after]
        split_ifs with hd
        · exact List.mem_append_right _ List.mem_cons_self
        · exact ih (by simpa [Ne.symm hd] using ht)
    simpa using hsplit ('[' :: h) (List.mem_cons_of_mem _ hcolon)
  rw [hafter] at hbracket
  exact bracket_not_mem_portText scheme n (List.mem_of_mem_drop hbracket)

/-- Two endpoints written alike are one. -/
theorem Endpoint.write_inj {e e' : Endpoint} (he : e.Proper) (he' : e'.Proper) (h : e.write = e'.write) : e = e' := by
  obtain ⟨scheme,host,port⟩ := e
  obtain ⟨scheme',host',port'⟩ := e'
  simp only [write,List.append_assoc,List.cons_append,List.nil_append] at h
  obtain rfl : scheme = scheme' := by
    have hscheme := congrArg (before ':') h
    rwa [(before_append he.scheme _).1,(before_append he'.scheme _).1] at hscheme
  have hrest : authority host ++ portText scheme port = authority host' ++ portText scheme port' := by
    simpa using h
  have hhost : host = host' := by
    unfold authority at hrest
    by_cases hc : ':' ∈ host <;> by_cases hc' : ':' ∈ host'
    · simp only [hc,hc',if_true,List.cons_append,List.cons.injEq,true_and,List.append_assoc,List.nil_append] at hrest
      have hb := congrArg (before ']') hrest
      rwa [(before_append (he.host hc) _).1,(before_append (he'.host hc') _).1] at hb
    · simp only [hc,hc',if_true,if_false] at hrest
      exact absurd hrest (bracket_apart hc hc')
    · simp only [hc,hc',if_true,if_false] at hrest
      exact absurd hrest.symm (bracket_apart hc' hc)
    · simp only [hc,hc',if_false] at hrest
      have hb := congrArg (before ':') hrest
      rwa [(before_plain hc scheme port).1,(before_plain hc' scheme port').1] at hb
  subst hhost
  rw [portText_inj (List.append_cancel_left hrest)]

end Write

section Read

variable {url : Text} {r : SplitResult} {e : Endpoint}

theorem scheme_plain : ':' ∉ (splitScheme url).1 := by
  unfold splitScheme
  split_ifs
  · exact fun h => not_mem_before ((mem_lower (by decide)).mp h)
  · exact List.not_mem_nil

theorem urlsplit_scheme (h : urlsplit url = some r) : ':' ∉ r.scheme := by
  simp only [urlsplit] at h
  split_ifs at h
  obtain rfl := Option.some.inj h
  exact scheme_plain

theorem urlsplit_scheme_lower (h : urlsplit url = some r) : lower r.scheme = r.scheme := by
  simp only [urlsplit] at h
  split_ifs at h
  obtain rfl := Option.some.inj h
  simp only [splitScheme]
  split_ifs
  · exact lower_lower _
  · rfl

theorem hostinfo_host (r : SplitResult) : ':' ∈ r.hostinfo.1 → ']' ∉ r.hostinfo.1 := by
  unfold SplitResult.hostinfo
  dsimp only
  split_ifs
  · exact fun _ => not_mem_before
  · exact fun h => absurd h not_mem_before

theorem mem_hostname {host : Text} {c : Char} (hc : c ∈ [':','[',']','%']) (h : r.hostname = some host) :
    c ∈ host ↔ c ∈ r.hostinfo.1 := by
  simp only [SplitResult.hostname] at h
  split_ifs at h
  obtain rfl := Option.some.inj h
  rw [List.mem_append,mem_lower hc,← List.mem_append,before_append_startingAt]

theorem endpoint_proper (h : endpoint url = some e) : e.Proper := by
  unfold endpoint at h
  obtain ⟨r,hr,h⟩ := Option.bind_eq_some_iff.mp h
  obtain ⟨host,hhost,h⟩ := Option.bind_eq_some_iff.mp h
  obtain ⟨port,hport,h⟩ := Option.bind_eq_some_iff.mp h
  obtain rfl := Option.some.inj h
  refine ⟨urlsplit_scheme hr,fun hc hb => ?_⟩
  rw [mem_lower (by decide),mem_hostname (by decide) hhost] at hc hb
  exact hostinfo_host r hc hb

end Read

end Url
end LocalPlane
