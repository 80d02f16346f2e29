import LocalPlane.Base64
import LocalPlane.Machine
import Mathlib.Logic.Function.Basic

/-!
# The master secret on disk

The secret is drawn once, and written to a file that must not be there before. Processes that
draw it and processes that read it run side by side, and each may fail or die at any point: a
secret that is read is one that was written out, and where a drawing succeeded it is that one.
-/

set_option linter.dupNamespace false

namespace LocalPlane
namespace MasterSecret

open Base64 (Text decode encode strip value)

def masterSecretBytes : ℕ := 32

inductive Refusal where
  | unreadable | notRegular | notOwned | notRestrictive | tooLarge | notAscii | whitespace | notBase64 | wrongLength
  deriving DecidableEq

/-- `_decode_master_secret` -/
def decodeMasterSecret (token : Text) : Except Refusal (List UInt8) :=
  match decode (token ++ List.replicate ((4 - token.length % 4) % 4) '=') with
  | none => .error .notBase64
  | some decoded => if decoded.length ≠ masterSecretBytes then .error .wrongLength else .ok decoded

structure File where
  symlink : Bool
  regular : Bool
  owned : Bool
  mode : ℕ
  content : Text

/-- `_validate_secret_metadata` -/
def validate (f : File) : Except Refusal Unit :=
  if f.regular = false then .error .notRegular
  else if f.owned = false then .error .notOwned
  else if f.mode &&& 0o077 ≠ 0 ∨ f.mode &&& 0o400 = 0 then .error .notRestrictive
  else .ok ()

def unended (raw : Text) : Text := if raw.getLast? = some '\n' then raw.dropLast else raw

/-- `load_master_secret`, of what is opened. -/
def readSecret (f : File) : Except Refusal Text :=
  if f.symlink then .error .unreadable
  else match validate f with
    | .error e => .error e
    | .ok _ =>
      let raw := f.content.take 1025
      if 1024 < raw.length then .error .tooLarge
      else if raw.any fun c => 128 ≤ c.toNat then .error .notAscii
      else if unended raw = [] then .error .whitespace
      else match decodeMasterSecret (unended raw) with
        | .error e => .error e
        | .ok _ => .ok (unended raw)

abbrev Secret := {bytes : List UInt8 // bytes.length = masterSecretBytes}

/-- `secrets.token_urlsafe` -/
def tokenUrlsafe (secret : Secret) : Text := strip (encode secret.val)

section Tokens

variable {secret : Secret} {token : Text} {n : ℕ}

theorem token_shape (secret : Secret) : encode secret.val = tokenUrlsafe secret ++ ['='] ∧ (tokenUrlsafe secret).length = 43 ∧
    ∀ c ∈ tokenUrlsafe secret, (value c).isSome := by
  have hlength : secret.val.length % 3 = 2 := by rw [secret.2]; rfl
  obtain ⟨body,hencode,hbody,hcount⟩ := Base64.decode_two (Base64.decode_encode secret.val) hlength
  have htoken : tokenUrlsafe secret = body := by rw [tokenUrlsafe,hencode,Base64.strip_pad hbody]
  rw [secret.2] at hcount
  exact ⟨by rw [htoken,hencode],by rw [htoken]; simp only [masterSecretBytes] at hcount; omega,by rw [htoken]; exact hbody⟩

theorem decode_token (secret : Secret) : decodeMasterSecret (tokenUrlsafe secret) = .ok secret.val := by
  obtain ⟨hencode,hlength,-⟩ := token_shape secret
  have hpads : List.replicate ((4 - (tokenUrlsafe secret).length % 4) % 4) '=' = ['='] := by rw [hlength]; rfl
  rw [decodeMasterSecret,hpads,← hencode,Base64.decode_encode]
  exact if_neg fun h => h secret.2

/-- What decodes has all its characters: one fewer, and padding stands where one should. -/
theorem length_of_decode {decoded : List UInt8} (hdecode : decodeMasterSecret token = .ok decoded) : 43 ≤ token.length := by
  unfold decodeMasterSecret at hdecode
  split at hdecode
  · cases hdecode
  · next d hd =>
    split at hdecode
    · cases hdecode
    · next hlength =>
      rw [not_not] at hlength
      have hmod : d.length % 3 = 2 := by rw [hlength]; rfl
      obtain ⟨body,htext,hbody,hcount⟩ := Base64.decode_two hd hmod
      have htotal := congrArg List.length htext
      simp only [List.length_append,List.length_replicate,List.length_singleton] at htotal
      rw [hlength] at hcount
      simp only [masterSecretBytes] at hcount
      by_contra hshort
      -- at least two pads are put, so one of them stands inside
      obtain ⟨pads,hpads⟩ : ∃ pads, (4 - token.length % 4) % 4 = pads + 2 := ⟨(4 - token.length % 4) % 4 - 2,by omega⟩
      rw [hpads,List.replicate_succ',← List.append_assoc] at htext
      have hinside : '=' ∈ body := by
        rw [← List.append_cancel_right htext]
        exact List.mem_append_right _ (List.mem_replicate.mpr ⟨Nat.succ_ne_zero _,rfl⟩)
      have hsome := hbody '=' hinside
      rw [Base64.value_pad] at hsome
      cases hsome

theorem ascii_of_value {c : Char} (h : (value c).isSome) : c.toNat < 128 ∧ c ≠ '\n' := by
  unfold value at h
  split at h
  · next hrange => exact ⟨by omega,by rintro rfl; exact absurd hrange (by decide)⟩
  · split at h
    · next hrange => exact ⟨by omega,by rintro rfl; exact absurd hrange (by decide)⟩
    · split at h
      · next hrange => exact ⟨by omega,by rintro rfl; exact absurd hrange (by decide)⟩
      · split at h
        · next hc => rcases hc with rfl | rfl <;> exact ⟨by decide,by decide⟩
        · split at h
          · next hc => rcases hc with rfl | rfl <;> exact ⟨by decide,by decide⟩
          · cases h

def payload (secret : Secret) : Text := tokenUrlsafe secret ++ ['\n']

/-- What has been written of a secret, to a file that was made for it. -/
def writtenFile (secret : Secret) (mode n : ℕ) : File := ⟨false,true,true,mode,(payload secret).take n⟩

theorem readSecret_ok {f : File} (h : readSecret f = .ok token) :
    token = unended (f.content.take 1025) ∧ ∃ decoded, decodeMasterSecret token = .ok decoded := by
  unfold readSecret at h
  split at h
  · cases h
  · split at h
    · cases h
    · dsimp only at h
      split at h
      · cases h
      · split at h
        · cases h
        · split at h
          · cases h
          · split at h
            · cases h
            · next decoded hdecode =>
              cases h
              exact ⟨rfl,decoded,hdecode⟩

theorem unended_payload (secret : Secret) (n : ℕ) :
    unended (((payload secret).take n).take 1025) = (tokenUrlsafe secret).take n := by
  obtain ⟨-,hlength,hvalues⟩ := token_shape secret
  have hplain : ∀ c ∈ tokenUrlsafe secret, c ≠ '\n' := fun c hc => (ascii_of_value (hvalues c hc)).2
  have hwhole : ((payload secret).take n).take 1025 = (payload secret).take n := by
    refine List.take_of_length_le ?_
    simp only [List.length_take,payload,List.length_append,List.length_singleton,hlength]
    omega
  rw [hwhole,unended,payload]
  by_cases hn : n ≤ 43
  · rw [List.take_append_of_le_length (by omega),if_neg]
    intro hlast
    exact hplain '\n' (List.mem_of_mem_take (List.mem_of_getLast? hlast)) rfl
  · rw [List.take_of_length_le (by simp only [List.length_append,List.length_singleton]; omega),if_pos (by simp),
      List.dropLast_concat,List.take_of_length_le (by omega)]

/-- A secret is read back from its file when all of its characters are there, and nothing before. -/
theorem readSecret_written {mode : ℕ} (h : readSecret (writtenFile secret mode n) = .ok token) :
    token = tokenUrlsafe secret ∧ 43 ≤ n := by
  obtain ⟨htoken,decoded,hdecode⟩ := readSecret_ok h
  obtain ⟨-,hlength,-⟩ := token_shape secret
  have hlong := length_of_decode hdecode
  rw [writtenFile,unended_payload] at htoken
  rw [htoken,List.length_take] at hlong
  exact ⟨by rw [htoken,List.take_of_length_le (by omega)],by omega⟩

theorem readSecret_whole {mode : ℕ} (hmode : validate (writtenFile secret mode n) = .ok ()) (hn : 43 ≤ n) :
    readSecret (writtenFile secret mode n) = .ok (tokenUrlsafe secret) := by
  obtain ⟨-,hlength,hvalues⟩ := token_shape secret
  have htoken : unended ((writtenFile secret mode n).content.take 1025) = tokenUrlsafe secret := by
    rw [writtenFile,unended_payload,List.take_of_length_le (by omega)]
  have hne : tokenUrlsafe secret ≠ [] := by
    intro hempty
    rw [hempty] at hlength
    cases hlength
  have hfits : ¬1024 < ((writtenFile secret mode n).content.take 1025).length := by
    simp only [writtenFile,List.length_take,payload,List.length_append,List.length_singleton,hlength]
    omega
  have hascii : ¬((writtenFile secret mode n).content.take 1025).any (fun c => 128 ≤ c.toNat) = true := by
    intro hany
    obtain ⟨c,hc,hwide⟩ := List.any_eq_true.mp hany
    have hmem : c ∈ payload secret := List.mem_of_mem_take (List.mem_of_mem_take hc)
    rcases List.mem_append.mp hmem with hc | hc
    · have := (ascii_of_value (hvalues c hc)).1
      simp only [decide_eq_true_eq] at hwide
      omega
    · cases List.mem_singleton.mp hc
      exact absurd hwide (by decide)
  rw [readSecret,if_neg (by exact Bool.false_ne_true),hmode]
  dsimp only
  rw [if_neg hfits,if_neg hascii,htoken,if_neg hne,decode_token]

end Tokens

/-! Processes beside one another -/

/-- A file that was there before, or one that was made for a secret, and how much of it is written. -/
inductive Inode where
  | found (file : File)
  | made (secret : Secret) (mode written : ℕ)

def Inode.file : Inode → File
  | .found file => file
  | .made secret mode written => writtenFile secret mode written

/-- How far a process is with loading or initializing the secret. -/
inductive Phase where
  | idle
  | held (inode : ℕ)
  | absent (secret : Secret)
  | writing (inode : ℕ)
  | unlinking (inode : ℕ)
  | stopped
  | loaded (inode : ℕ) (token : Text)
  | created (inode : ℕ) (token : Text)

/-- The file a process has made and not given up. -/
def Phase.holds : Phase → Option ℕ
  | .writing inode | .unlinking inode | .created inode _ => some inode
  | _ => none

structure State where
  inodes : List Inode
  entry : Option ℕ
  phase : ℕ → Phase

def State.goto (s : State) (p : ℕ) (phase : Phase) : State := {s with phase := Function.update s.phase p phase}

inductive Act where
  | refuse (p : ℕ)
  | openFile (p : ℕ)
  | read (p : ℕ)
  | look (p : ℕ) (secret : Secret)
  | create (p : ℕ) (mode : ℕ)
  | write (p : ℕ) (count : ℕ)
  | fail (p : ℕ)
  | finish (p : ℕ)
  | unlink (p : ℕ)
  | die (p : ℕ)

def step : Act → State → Option State
  -- the path or its parent is not to be trusted
  | .refuse p,s =>
    match s.phase p with
    | .idle => some (s.goto p .stopped)
    | _ => none
  | .openFile p,s =>
    match s.phase p,s.entry with
    | .idle,none => some (s.goto p .stopped)
    | .idle,some i => some (s.goto p (.held i))
    | _,_ => none
  | .read p,s =>
    match s.phase p with
    | .held i =>
      s.inodes[i]?.map fun inode =>
        match readSecret inode.file with
        | .error _ => s.goto p .stopped
        | .ok token => s.goto p (.loaded i token)
    | _ => none
  | .look p secret,s =>
    match s.phase p,s.entry with
    | .idle,none => some (s.goto p (.absent secret))
    | .idle,some _ => some (s.goto p .stopped)
    | _,_ => none
  | .create p mode,s =>
    match s.phase p,s.entry with
    -- somebody else was faster
    | .absent _,some _ => some (s.goto p .stopped)
    | .absent secret,none =>
      some ({s with inodes := s.inodes ++ [Inode.made secret mode 0],entry := some s.inodes.length}.goto p
        (match validate (writtenFile secret mode 0) with
        | .ok _ => .writing s.inodes.length
        | .error _ => .unlinking s.inodes.length))
    | _,_ => none
  | .write p count,s =>
    match s.phase p with
    | .writing i =>
      match s.inodes[i]? with
      | some (.made secret mode written) =>
        if written + count ≤ (payload secret).length then some {s with inodes := s.inodes.set i (Inode.made secret mode (written + count))} else none
      | _ => none
    | _ => none
  | .fail p,s =>
    match s.phase p with
    | .writing i => some (s.goto p (.unlinking i))
    | _ => none
  | .finish p,s =>
    match s.phase p with
    | .writing i =>
      match s.inodes[i]? with
      | some (.made secret _ written) => if written = (payload secret).length then some (s.goto p (.created i (tokenUrlsafe secret))) else none
      | _ => none
    | _ => none
  | .unlink p,s =>
    match s.phase p with
    | .unlinking _ => some ({s with entry := none}.goto p .stopped)
    | _ => none
  | .die p,s =>
    match s.phase p with
    | .loaded _ _ | .created _ _ => none
    | _ => some (s.goto p .stopped)

/-- Nobody has begun, and there is one file at most. -/
def initial (s : State) : Prop :=
  (∀ p, s.phase p = .idle) ∧ (s.inodes = [] ∧ s.entry = none ∨ ∃ file, s.inodes = [.found file] ∧ s.entry = some 0)

def processes : Machine := ⟨State,Act,initial,step⟩

section Steps

variable {s s' : State} {a : Act} {p q i : ℕ} {ph : Phase}

@[simp] theorem goto_inodes : (s.goto p ph).inodes = s.inodes := rfl
@[simp] theorem goto_entry : (s.goto p ph).entry = s.entry := rfl
@[simp] theorem goto_same : (s.goto p ph).phase p = ph := Function.update_self ..

theorem goto_cases (s : State) (p q : ℕ) (ph : Phase) : q = p ∧ (s.goto p ph).phase q = ph ∨ q ≠ p ∧ (s.goto p ph).phase q = s.phase q := by
  by_cases h : q = p
  · subst h
    exact .inl ⟨rfl,goto_same⟩
  · exact .inr ⟨h,Function.update_of_ne h ..⟩

/-- What one step does, and when it may. -/
inductive Moved (s : State) : State → Prop
  | stop (p : ℕ) (unended : ∀ i token, s.phase p ≠ .loaded i token ∧ s.phase p ≠ .created i token) : Moved s (s.goto p .stopped)
  | hold (p i : ℕ) (idle : s.phase p = .idle) (entry : s.entry = some i) : Moved s (s.goto p (.held i))
  | load (p i : ℕ) (inode : Inode) (token : Text) (held : s.phase p = .held i) (there : s.inodes[i]? = some inode)
      (read : readSecret inode.file = .ok token) : Moved s (s.goto p (.loaded i token))
  | draw (p : ℕ) (secret : Secret) (idle : s.phase p = .idle) (entry : s.entry = none) : Moved s (s.goto p (.absent secret))
  | make (p : ℕ) (secret : Secret) (mode : ℕ) (ph : Phase) (absent : s.phase p = .absent secret) (entry : s.entry = none)
      (next : ph = .writing s.inodes.length ∧ validate (writtenFile secret mode 0) = .ok () ∨ ph = .unlinking s.inodes.length) :
      Moved s ({s with inodes := s.inodes ++ [Inode.made secret mode 0],entry := some s.inodes.length}.goto p ph)
  | grow (p i : ℕ) (secret : Secret) (mode written count : ℕ) (writing : s.phase p = .writing i)
      (there : s.inodes[i]? = some (.made secret mode written)) (fits : written + count ≤ (payload secret).length) :
      Moved s {s with inodes := s.inodes.set i (Inode.made secret mode (written + count))}
  | giveUp (p i : ℕ) (writing : s.phase p = .writing i) : Moved s (s.goto p (.unlinking i))
  | finish (p i : ℕ) (secret : Secret) (mode : ℕ) (writing : s.phase p = .writing i)
      (there : s.inodes[i]? = some (.made secret mode (payload secret).length)) : Moved s (s.goto p (.created i (tokenUrlsafe secret)))
  | unlink (p i : ℕ) (unlinking : s.phase p = .unlinking i) : Moved s ({s with entry := none}.goto p .stopped)

theorem stop_of {ph : Phase} (h : s.phase p = ph) (hloaded : ∀ i token, ph ≠ .loaded i token) (hcreated : ∀ i token, ph ≠ .created i token) :
    Moved s (s.goto p .stopped) := .stop p fun i token => ⟨h ▸ hloaded i token,h ▸ hcreated i token⟩

theorem moved (h : step a s = some s') : Moved s s' := by
  cases a with
  | refuse p =>
    simp only [step] at h
    split at h
    · next hphase =>
      cases h
      exact stop_of hphase (by simp) (by simp)
    · cases h
  | openFile p =>
    simp only [step] at h
    split at h
    · next hphase _ =>
      cases h
      exact stop_of hphase (by simp) (by simp)
    · next i hphase hentry =>
      cases h
      exact .hold p i hphase hentry
    · cases h
  | read p =>
    simp only [step] at h
    split at h
    · next i hphase =>
      obtain ⟨inode,hinode,heq⟩ := Option.map_eq_some_iff.mp h
      split at heq
      · subst heq
        exact stop_of hphase (by simp) (by simp)
      · next token hread =>
        subst heq
        exact .load p i inode token hphase hinode hread
    · cases h
  | look p secret =>
    simp only [step] at h
    split at h
    · next hphase hentry =>
      cases h
      exact .draw p secret hphase hentry
    · next hphase _ =>
      cases h
      exact stop_of hphase (by simp) (by simp)
    · cases h
  | create p mode =>
    simp only [step] at h
    split at h
    · next hphase _ =>
      cases h
      exact stop_of hphase (by simp) (by simp)
    · next secret hphase hentry =>
      cases h
      refine .make p secret mode _ hphase hentry ?_
      split
      · next hmode => exact .inl ⟨rfl,hmode⟩
      · exact .inr rfl
    · cases h
  | write p count =>
    simp only [step] at h
    split at h
    · next i hphase =>
      split at h
      · next secret mode written hinode =>
        split at h
        · next hfits =>
          cases h
          exact .grow p i secret mode written count hphase hinode hfits
        · cases h
      · cases h
    · cases h
  | fail p =>
    simp only [step] at h
    split at h
    · next i hphase =>
      cases h
      exact .giveUp p i hphase
    · cases h
  | finish p =>
    simp only [step] at h
    split at h
    · next i hphase =>
      split at h
      · next secret mode written hinode =>
        split at h
        · next hwritten =>
          cases h
          exact .finish p i secret mode hphase (hwritten ▸ hinode)
        · cases h
      · cases h
    · cases h
  | unlink p =>
    simp only [step] at h
    split at h
    · next i hphase =>
      cases h
      exact .unlink p i hphase
    · cases h
  | die p =>
    simp only [step] at h
    split at h
    · cases h
    · cases h
    · next hloaded hcreated =>
      cases h
      exact .stop p fun i token => ⟨hloaded i token,hcreated i token⟩

end Steps

end MasterSecret
end LocalPlane
