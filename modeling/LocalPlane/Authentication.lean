import LocalPlane.Texts
import LocalPlane.UrlText
import Mathlib.Data.List.Induction
import Mathlib.Logic.Function.Basic

/-!
# Who a request is from

One master credential, and browser sessions kept by the digest of their token until a fixed
instant. A request that names a credential is judged by it alone; a cookie is believed while
its session stands, and for a request that changes anything only from an accepted origin.
-/

set_option linter.dupNamespace false

namespace LocalPlane
namespace Auth

open Url

section Sessions

variable {D : Type} [DecidableEq D]

/-- When the session of each digest expires. -/
abbrev Sessions (D : Type) := D → Option Int

def Sessions.prune (s : Sessions D) (now : Int) : Sessions D := fun d => (s d).filter (now < ·)

/-- What is done to the sessions, each under their lock. An exchange is a revocation and then a creation. -/
inductive Event where
  | create (now : Int) (token : Text)
  | lookup (now : Int) (token : Text)
  | revoke (token : Text)
  deriving DecidableEq

/-- What the clock said. -/
def Event.clock : Event → Option Int
  | .create now _ | .lookup now _ => some now
  | .revoke _ => none

variable (digest : Text → D) (lifetime : Int)

def Sessions.step (s : Sessions D) : Event → Sessions D
  | .create now token => Function.update (s.prune now) (digest token) (some (now + lifetime))
  | .lookup now _ => s.prune now
  | .revoke token => Function.update s (digest token) none

def sessionsAfter (history : List Event) : Sessions D := history.foldl (Sessions.step digest lifetime) fun _ => none

/-- A session for this token that expires then was created, and since then it was neither revoked nor were
the sessions looked at when it had expired. -/
def Standing (lifetime : Int) (history : List Event) (token : Text) (expiry : Int) : Prop :=
  ∃ earlier now later, history = earlier ++ .create now token :: later ∧ now + lifetime = expiry ∧
    (∀ e ∈ later, e ≠ .revoke token) ∧ ∀ e ∈ later, ∀ now ∈ e.clock, now < expiry

variable {digest lifetime} {history : List Event} {token : Text} {expiry : Int} {e : Event}

theorem sessionsAfter_snoc : sessionsAfter digest lifetime (history ++ [e]) =
    (sessionsAfter digest lifetime history).step digest lifetime e := List.foldl_concat ..

omit [DecidableEq D] in
theorem prune_some {s : Sessions D} {now : Int} {d : D} : s.prune now d = some expiry ↔ s d = some expiry ∧ now < expiry := by
  simp [Sessions.prune,Option.filter_eq_some_iff]

theorem Standing.snoc (h : Standing lifetime history token expiry) (hrevoke : e ≠ .revoke token)
    (hclock : ∀ now ∈ e.clock, now < expiry) : Standing lifetime (history ++ [e]) token expiry := by
  obtain ⟨earlier,now,later,rfl,hexpiry,hkept,hclocks⟩ := h
  refine ⟨earlier,now,later ++ [e],by simp,hexpiry,?_,?_⟩
  · exact List.forall_mem_append.mpr ⟨hkept,List.forall_mem_singleton.mpr hrevoke⟩
  · exact List.forall_mem_append.mpr ⟨hclocks,List.forall_mem_singleton.mpr hclock⟩

/-- Whatever is kept for a token stands, if no other token that was issued shares its digest. -/
theorem standing_of_kept (happart : ∀ now issued, .create now issued ∈ history → digest issued = digest token → issued = token)
    (h : sessionsAfter digest lifetime history (digest token) = some expiry) : Standing lifetime history token expiry := by
  induction history using List.reverseRecOn with
  | nil => cases h
  | append_singleton history e ih =>
    have hearlier : ∀ now issued, .create now issued ∈ history → digest issued = digest token → issued = token :=
      fun now issued hm => happart now issued (List.mem_append_left _ hm)
    rw [sessionsAfter_snoc] at h
    cases e with
    | create now issued =>
      by_cases hd : digest issued = digest token
      · obtain rfl := happart now issued (by simp) hd
        rw [Sessions.step,Function.update_self] at h
        exact ⟨history,now,[],rfl,Option.some.inj h,by simp,by simp⟩
      · rw [Sessions.step,Function.update_of_ne (Ne.symm hd),prune_some] at h
        exact (ih hearlier h.1).snoc (by simp) (by simpa [Event.clock] using h.2)
    | lookup now asked =>
      rw [Sessions.step,prune_some] at h
      exact (ih hearlier h.1).snoc (by simp) (by simpa [Event.clock] using h.2)
    | revoke revoked =>
      by_cases hd : digest revoked = digest token
      · rw [Sessions.step,hd,Function.update_self] at h
        cases h
      · rw [Sessions.step,Function.update_of_ne (Ne.symm hd)] at h
        exact (ih hearlier h).snoc (fun he => hd (by rw [Event.revoke.inj he])) (by simp [Event.clock])

end Sessions

section Origins

/-- Nothing but where it leads is in it. -/
def bare (parsed : SplitResult) : Bool :=
  lower parsed.scheme ∈ ["http".toList,"https".toList] && !parsed.hasUser && parsed.path ∈ [[],['/']] &&
    parsed.query = [] && parsed.fragment = []

def hostAccepted (host : Text) : Bool := if ':' ∈ host then ipv6 host else host.all isAscii

/-- The one way an origin is written, or nothing where the text is not an HTTP origin. -/
def normaliseOrigin (value : Text) : Option Text :=
  if value = [] ∨ value.any (fun c => isSpace c || c.toNat = 0x7f) then none
  else (urlsplit value).bind fun parsed => parsed.hostname.bind fun host => parsed.port.bind fun port =>
    if !bare parsed then none
    else if !hostAccepted (lower host) then none
    else if lower parsed.netloc ≠ authority (lower host) ++ (match port with | none => [] | some n => ':' :: digits n) then none
    else some (lower parsed.scheme ++ "://".toList ++ authority (lower host) ++
      (if port = none ∨ port = some (defaultPort (lower parsed.scheme)) then [] else ':' :: digits (port.getD 0)))

/-- The origin of the request itself: a refusal where it has no host, and nothing where its URL cannot be read. -/
def requestOrigin (url : Text) : Option (Option Text) := do
  let parsed ← urlsplit url
  match parsed.hostname with
  | none => some none
  | some host =>
    let port ← parsed.port
    some (some (parsed.scheme ++ "://".toList ++ lower (authority host) ++
      (if port = none ∨ port = some (defaultPort parsed.scheme) then [] else ':' :: digits (port.getD 0))))

variable {value url written : Text}

/-- A normalised origin is where the text leads, written down. -/
theorem normaliseOrigin_endpoint (h : normaliseOrigin value = some written) :
    ∃ e, endpoint value = some e ∧ e.write = written := by
  obtain ⟨-,h⟩ := Option.ite_none_left_eq_some.mp h
  obtain ⟨parsed,hparsed,h⟩ := Option.bind_eq_some_iff.mp h
  obtain ⟨host,hhost,h⟩ := Option.bind_eq_some_iff.mp h
  obtain ⟨port,hport,h⟩ := Option.bind_eq_some_iff.mp h
  obtain ⟨-,h⟩ := Option.ite_none_left_eq_some.mp h
  obtain ⟨-,h⟩ := Option.ite_none_left_eq_some.mp h
  obtain ⟨-,h⟩ := Option.ite_none_left_eq_some.mp h
  refine ⟨⟨parsed.scheme,lower host,port.getD (defaultPort parsed.scheme)⟩,by simp [endpoint,hparsed,hhost,hport],?_⟩
  rw [← Option.some.inj h,Endpoint.write,urlsplit_scheme_lower hparsed,portText_getD]
  rfl

/-- So is the request's own. -/
theorem requestOrigin_endpoint (h : requestOrigin url = some (some written)) :
    ∃ e, endpoint url = some e ∧ e.write = written := by
  unfold requestOrigin at h
  obtain ⟨parsed,hparsed,h⟩ := Option.bind_eq_some_iff.mp h
  cases hhost : parsed.hostname with
  | none => simp [hhost] at h
  | some host =>
    simp only [hhost] at h
    obtain ⟨port,hport,h⟩ := Option.bind_eq_some_iff.mp h
    refine ⟨⟨parsed.scheme,lower host,port.getD (defaultPort parsed.scheme)⟩,?_,?_⟩
    · simp [endpoint,hparsed,hhost,hport]
    · simp only [Option.some.injEq] at h
      rw [← h,Endpoint.write,lower_authority,portText_getD]
      rfl

/-- Two texts that are written alike lead to one place. -/
theorem same_endpoint (h : normaliseOrigin value = some written) {e : Endpoint} (he : endpoint url = some e)
    (hw : e.write = written) : endpoint value = some e := by
  obtain ⟨e',he',hw'⟩ := normaliseOrigin_endpoint h
  rw [he',Endpoint.write_inj (endpoint_proper he') (endpoint_proper he) (hw'.trans hw.symm)]

/-- The request's URL can be taken apart as far as its origin needs. -/
def Readable (url : Text) : Prop :=
  ∃ parsed, urlsplit url = some parsed ∧ (parsed.hostname.isSome → parsed.port.isSome)

theorem requestOrigin_isSome : (requestOrigin url).isSome ↔ Readable url := by
  unfold requestOrigin Readable
  cases urlsplit url with
  | none => simp
  | some parsed =>
    cases hhost : parsed.hostname with
    | none => simp [hhost]
    | some host => cases hport : parsed.port <;> simp [hhost,hport]

end Origins

section Requests

/-- What the service was started with: a secret that decodes from ASCII, and perhaps one more origin. -/
structure Authentication where
  masterSecret : Text
  ascii : masterSecret.all isAscii
  developmentOrigin : Option Text
  normalised : ∀ origin ∈ developmentOrigin, (normaliseOrigin origin).isSome

structure Credentials where
  scheme : Text
  credentials : Text

/-- A request: its headers as text, the credential and the cookie the framework read out of them, and its URL. -/
structure Request where
  authorization : Option Text
  bearer : Option Credentials
  cookie : Option Text
  method : Text
  origin : Option Text
  url : Text

/-- Authenticated, or refused with a status and a code, or neither. -/
inductive Decision where
  | bearer
  | session (expiresAt : Int) (token : Text)
  | refused (status : ℕ) (code : String)
  | raised
  deriving DecidableEq

/-- The constant-time comparison takes ASCII texts only. -/
def compareDigest (a b : Text) : Option Bool :=
  if a.all isAscii && b.all isAscii then some (a = b) else none

def Authentication.verifyMaster (a : Authentication) (candidate : Text) : Option Bool :=
  compareDigest candidate a.masterSecret

def Authentication.requireValidMaster (a : Authentication) : Option Credentials → Decision
  | none => .refused 401 "bearer_malformed"
  | some bearer =>
    if lower bearer.scheme ≠ "bearer".toList ∨ bearer.credentials = [] then .refused 401 "bearer_malformed"
    else match a.verifyMaster bearer.credentials with
      | none => .raised
      | some false => .refused 401 "bearer_invalid"
      | some true => .bearer

def upperChar (c : Char) : Text :=
  if c = 'ß' then ['S','S']
  else if c = 'ÿ' then ['Ÿ']
  else if c = 'µ' then ['Μ']
  else if (97 ≤ c.toNat && c.toNat ≤ 122) || (224 ≤ c.toNat && c.toNat ≤ 254 && c.toNat ≠ 247) then [Char.ofNat (c.toNat - 32)]
  else [c]

def upper (t : Text) : Text := t.flatMap upperChar

def unsafeMethod (method : Text) : Bool :=
  upper method ∈ ["POST".toList,"PUT".toList,"PATCH".toList,"DELETE".toList]

/-- Why the origin of a request does not let its cookie through, or nothing. -/
def Authentication.requireCookieOrigin (a : Authentication) (request : Request) : Option Decision :=
  if !unsafeMethod request.method then none
  else match request.origin with
    | none => some (.refused 403 "origin_required")
    | some supplied =>
      match normaliseOrigin supplied with
      | none => some (.refused 403 "origin_invalid")
      | some supplied =>
        match requestOrigin request.url with
        | none => some .raised
        | some none => some (.refused 403 "origin_unavailable")
        | some (some own) =>
          if supplied = own ∨ a.developmentOrigin.bind normaliseOrigin = some supplied then none
          else some (.refused 403 "origin_not_allowed")

variable {D : Type} [DecidableEq D]

/-- A cookie's session, looked up at some instant. -/
def Authentication.requireSession (a : Authentication) (digest : Text → D) (sessions : Sessions D) (now : Int)
    (request : Request) (token : Text) : Decision :=
  match sessions.prune now (digest token) with
  | none => .refused 401 "session_invalid"
  | some expiry => (a.requireCookieOrigin request).getD (.session expiry token)

def Authentication.requireAuthentication (a : Authentication) (digest : Text → D) (sessions : Sessions D) (now : Int)
    (request : Request) : Decision :=
  if request.authorization.isSome then a.requireValidMaster request.bearer
  else match request.cookie with
    | none => .refused 401 "authentication_required"
    | some token => a.requireSession digest sessions now request token

/-- What a plain reader makes of the header. -/
def parseBearer (value : Text) : Option Credentials :=
  let credential := after ' ' value
  if ' ' ∉ value ∨ lower (before ' ' value) ≠ "bearer".toList ∨ credential = [] ∨ ' ' ∈ credential then none
  else some ⟨before ' ' value,credential⟩

/-- For a logout no master credential is enough, but one that is wrong is still refused as such. -/
def Authentication.requireBrowserSession (a : Authentication) (digest : Text → D) (sessions : Sessions D) (now : Int)
    (request : Request) : Decision :=
  match request.authorization with
  | some value =>
    match a.requireValidMaster (parseBearer value) with
    | .bearer => .refused 401 "browser_session_required"
    | decision => decision
  | none =>
    match request.cookie with
    | none => .refused 401 "browser_session_required"
    | some token => a.requireSession digest sessions now request token

/-- The origin a request claims leads where the request itself does, or where the service was told to expect. -/
def SameOrigin (a : Authentication) (request : Request) : Prop :=
  ∃ origin ∈ request.origin, ∃ e, endpoint origin = some e ∧
    (endpoint request.url = some e ∨ ∃ development ∈ a.developmentOrigin, endpoint development = some e)

/-- A request is authenticated only by what it has shown, and any other is refused as one. -/
structure Sound (a : Authentication) (digest : Text → D) (lifetime : Int) (history : List Event) (now : Int)
    (request : Request) (decision : Decision) : Prop where
  typed : decision ≠ .raised ∧ ∀ status code, decision = .refused status code → status = 401 ∨ status = 403
  bearer : decision = .bearer → ∃ bearer ∈ request.bearer, bearer.credentials = a.masterSecret
  explicit : request.authorization.isSome → ∀ expiry token, decision ≠ .session expiry token
  cookie : ∀ expiry token, decision = .session expiry token →
    request.cookie = some token ∧ Standing lifetime history token expiry ∧ now < expiry
  origin : ∀ expiry token, decision = .session expiry token → unsafeMethod request.method → SameOrigin a request

/-- The request keeps out of what the code cannot read: a Bearer credential is ASCII, and where a standing session
asks for the request's own origin its URL can be taken apart. -/
def Legible (digest : Text → D) (sessions : Sessions D) (now : Int) (request : Request) : Prop :=
  (∀ bearer ∈ request.bearer, request.authorization.isSome → lower bearer.scheme = "bearer".toList →
    bearer.credentials.all isAscii) ∧
  ∀ token ∈ request.cookie, request.authorization = none → (sessions.prune now (digest token)).isSome →
    unsafeMethod request.method → ∀ origin ∈ request.origin, (normaliseOrigin origin).isSome → Readable request.url

section Decisions

variable {a : Authentication} {digest : Text → D} {sessions : Sessions D} {now : Int} {request : Request}

theorem verifyMaster_ascii {candidate : Text} (h : candidate.all isAscii = true) :
    a.verifyMaster candidate = some (decide (candidate = a.masterSecret)) := by
  rw [Authentication.verifyMaster,compareDigest,h,a.ascii]
  rfl

/-- A credential in ASCII is judged. -/
theorem requireValidMaster_legible {bearer : Option Credentials}
    (h : ∀ b ∈ bearer, lower b.scheme = "bearer".toList → b.credentials.all isAscii = true) :
    (a.requireValidMaster bearer = .bearer ∧ ∃ b ∈ bearer, b.credentials = a.masterSecret) ∨
      ∃ code, a.requireValidMaster bearer = .refused 401 code := by
  cases bearer with
  | none => exact .inr ⟨_,rfl⟩
  | some b =>
    unfold Authentication.requireValidMaster
    by_cases hmalformed : lower b.scheme ≠ "bearer".toList ∨ b.credentials = []
    · exact .inr ⟨_,if_pos hmalformed⟩
    · dsimp only
      rw [if_neg hmalformed]
      obtain ⟨hscheme,-⟩ := not_or.mp hmalformed
      rw [verifyMaster_ascii (h b rfl (not_not.mp hscheme))]
      by_cases hsame : b.credentials = a.masterSecret
      · exact .inl ⟨by simp [hsame],b,rfl,hsame⟩
      · exact .inr ⟨"bearer_invalid",by simp [hsame]⟩

/-- One that is not raises. -/
theorem requireValidMaster_illegible {b : Credentials} (hscheme : lower b.scheme = "bearer".toList)
    (hascii : b.credentials.all isAscii ≠ true) : a.requireValidMaster (some b) = .raised := by
  have hne : b.credentials ≠ [] := fun he => hascii (by rw [he]; rfl)
  have hverify : a.verifyMaster b.credentials = none := by
    rw [Authentication.verifyMaster,compareDigest,Bool.eq_false_iff.mpr hascii]
    rfl
  unfold Authentication.requireValidMaster
  dsimp only
  rw [if_neg (not_or.mpr ⟨not_not_intro hscheme,hne⟩),hverify]

/-- What a cookie's request is checked for comes to nothing, to a refusal, or is not read to its end. -/
theorem requireCookieOrigin_cases (a : Authentication) (request : Request) : (a.requireCookieOrigin request = none ∧
      (unsafeMethod request.method → SameOrigin a request)) ∨
    (∃ code, a.requireCookieOrigin request = some (.refused 403 code)) ∨
    (a.requireCookieOrigin request = some .raised ∧ unsafeMethod request.method ∧
      ∃ origin ∈ request.origin, (normaliseOrigin origin).isSome ∧ ¬Readable request.url) := by
  unfold Authentication.requireCookieOrigin
  cases hrisky : unsafeMethod request.method with
  | false => exact .inl ⟨rfl,fun h => nomatch h⟩
  | true =>
    cases horigin : request.origin with
    | none => exact .inr (.inl ⟨_,rfl⟩)
    | some supplied =>
      cases hsupplied : normaliseOrigin supplied with
      | none => exact .inr (.inl ⟨"origin_invalid",by simp [hsupplied]⟩)
      | some written =>
        simp only [Bool.not_true,Bool.false_eq_true,if_false,hsupplied]
        cases hown : requestOrigin request.url with
        | none =>
          refine .inr (.inr ⟨rfl,trivial,supplied,rfl,by rw [hsupplied]; rfl,fun hr => ?_⟩)
          rw [← requestOrigin_isSome,hown] at hr
          cases hr
        | some own =>
          cases own with
          | none => exact .inr (.inl ⟨_,rfl⟩)
          | some own =>
            dsimp only
            split_ifs with haccepted
            · refine .inl ⟨rfl,fun _ => ⟨supplied,horigin,?_⟩⟩
              rcases haccepted with rfl | hdevelopment
              · obtain ⟨e,he,hw⟩ := requestOrigin_endpoint hown
                exact ⟨e,same_endpoint hsupplied he hw,.inl he⟩
              · obtain ⟨development,hd,hdw⟩ := Option.bind_eq_some_iff.mp hdevelopment
                obtain ⟨e,he,hw⟩ := normaliseOrigin_endpoint hdw
                exact ⟨e,same_endpoint hsupplied he hw,.inr ⟨development,hd,he⟩⟩
            · exact .inr (.inl ⟨_,rfl⟩)

/-- A request's own URL that cannot be taken apart raises. -/
theorem requireCookieOrigin_unreadable (hrisky : unsafeMethod request.method = true) {origin : Text}
    (horigin : request.origin = some origin) (hread : (normaliseOrigin origin).isSome) (hurl : ¬Readable request.url) :
    a.requireCookieOrigin request = some .raised := by
  have hown : requestOrigin request.url = none := by
    rw [← Option.not_isSome_iff_eq_none,requestOrigin_isSome]
    exact hurl
  obtain ⟨written,hwritten⟩ := Option.isSome_iff_exists.mp hread
  simp [Authentication.requireCookieOrigin,hrisky,horigin,hwritten,hown]

omit [DecidableEq D] in
/-- A session that stands is believed, unless its request's origin is refused or is not read. -/
theorem requireSession_cases (a : Authentication) (digest : Text → D) (sessions : Sessions D) (now : Int) (request : Request)
    (token : Text) :
    (∃ status code, a.requireSession digest sessions now request token = .refused status code ∧ (status = 401 ∨ status = 403)) ∨
    (∃ expiry, sessions (digest token) = some expiry ∧ now < expiry ∧
      a.requireSession digest sessions now request token = .session expiry token ∧
      (unsafeMethod request.method → SameOrigin a request)) ∨
    ((sessions.prune now (digest token)).isSome ∧ unsafeMethod request.method ∧
      ∃ origin ∈ request.origin, (normaliseOrigin origin).isSome ∧ ¬Readable request.url) := by
  unfold Authentication.requireSession
  cases hkept : sessions.prune now (digest token) with
  | none => exact .inl ⟨401,_,rfl,.inl rfl⟩
  | some expiry =>
    have hlive := prune_some.mp hkept
    dsimp only
    rcases requireCookieOrigin_cases a request with ⟨h,hsame⟩ | ⟨code,h⟩ | ⟨h,hunread⟩
    · exact .inr (.inl ⟨expiry,hlive.1,hlive.2,by rw [h]; rfl,hsame⟩)
    · exact .inl ⟨403,code,by rw [h]; rfl,.inr rfl⟩
    · exact .inr (.inr ⟨rfl,hunread⟩)

variable {lifetime : Int} {history : List Event}

omit [DecidableEq D] in
theorem sound_refused {status : ℕ} {code : String} (h : status = 401 ∨ status = 403) :
    Sound a digest lifetime history now request (.refused status code) where
  typed := ⟨nofun,fun _ _ he => (Decision.refused.inj he).1 ▸ h⟩
  bearer := nofun
  explicit _ := nofun
  cookie := nofun
  origin := nofun

omit [DecidableEq D] in
theorem not_sound_raised : ¬Sound a digest lifetime history now request .raised := fun h => h.typed.1 rfl

omit [DecidableEq D] in
/-- A credential that was named decides alone, and in ASCII it is judged. -/
theorem sound_bearer : Sound a digest lifetime history now request (a.requireValidMaster request.bearer) ↔
    ∀ b ∈ request.bearer, lower b.scheme = "bearer".toList → b.credentials.all isAscii := by
  constructor
  · intro hsound b hb hscheme
    by_contra hascii
    rw [hb,requireValidMaster_illegible hscheme hascii] at hsound
    exact not_sound_raised hsound
  · intro hascii
    rcases requireValidMaster_legible (a := a) hascii with ⟨hbearer,hmaster⟩ | ⟨code,hrefused⟩
    · rw [hbearer]
      exact ⟨⟨nofun,nofun⟩,fun _ => hmaster,fun _ => nofun,nofun,nofun⟩
    · rw [hrefused]
      exact sound_refused (.inl rfl)

/-- A cookie that came alone is judged where the request's own origin can be read. -/
theorem sound_session {token : Text} (hcookie : request.cookie = some token) (hheader : request.authorization = none)
    (happart : ∀ now issued, .create now issued ∈ history → digest issued = digest token → issued = token) :
    Sound a digest lifetime history now request
        (a.requireSession digest (sessionsAfter digest lifetime history) now request token) ↔
      (((sessionsAfter digest lifetime history).prune now (digest token)).isSome → unsafeMethod request.method →
        ∀ origin ∈ request.origin, (normaliseOrigin origin).isSome → Readable request.url) := by
  constructor
  · intro hsound hkept hrisky origin horigin hread
    by_contra hurl
    obtain ⟨expiry,hexpiry⟩ := Option.isSome_iff_exists.mp hkept
    rw [Authentication.requireSession,hexpiry] at hsound
    dsimp only at hsound
    rw [requireCookieOrigin_unreadable hrisky horigin hread hurl] at hsound
    exact not_sound_raised hsound
  · intro hlegible
    rcases requireSession_cases a digest (sessionsAfter digest lifetime history) now request token with ⟨status,code,h,hstatus⟩ | ⟨expiry,hkept,hlive,h,hsame⟩ | hunread
    · rw [h]
      exact sound_refused hstatus
    · have hstanding := standing_of_kept happart hkept
      rw [h]
      refine ⟨⟨nofun,nofun⟩,nofun,fun hgiven => ?_,?_,?_⟩
      · rw [hheader] at hgiven
        cases hgiven
      · rintro _ _ ⟨⟩
        exact ⟨hcookie,hstanding,hlive⟩
      · rintro _ _ ⟨⟩
        exact hsame
    · obtain ⟨hkept,hrisky,origin,horigin,hread,hurl⟩ := hunread
      exact absurd (hlegible hkept hrisky origin horigin hread) hurl

/-- Whoever asks, and whatever was done to the sessions, the decision is sound exactly where the request is legible.
No two of the tokens in play share a digest. -/
theorem requireAuthentication_sound_iff (a : Authentication) (digest : Text → D) (lifetime : Int) (history : List Event)
    (now : Int) (request : Request)
    (happart : ∀ token ∈ request.cookie, ∀ now issued, .create now issued ∈ history → digest issued = digest token → issued = token) :
    Sound a digest lifetime history now request
        (a.requireAuthentication digest (sessionsAfter digest lifetime history) now request) ↔
      Legible digest (sessionsAfter digest lifetime history) now request := by
  unfold Authentication.requireAuthentication Legible
  cases hheader : request.authorization with
  | some header =>
    rw [Option.isSome_some,if_pos rfl,sound_bearer]
    simp
  | none =>
    cases hcookie : request.cookie with
    | none => simpa [hcookie] using sound_refused (.inl rfl)
    | some token =>
      have hsession : Sound a digest lifetime history now request (a.requireSession digest _ now request token) ↔ _ :=
        sound_session hcookie hheader (happart token hcookie)
      simpa using hsession

/-- The credential is thirty-two zero bytes, and no other origin is expected. -/
def zeroed : Authentication where
  masterSecret := List.replicate 43 'A'
  ascii := by decide
  developmentOrigin := none
  normalised := nofun

/-- A logout by cookie, from the page it was served from. -/
def logout : Request where
  authorization := none
  bearer := none
  cookie := some "Zm9vYmFy".toList
  method := "POST".toList
  origin := some "http://localhost:8080".toList
  url := "http://localhost:8080/api/session/logout".toList

/-- The digest of the one token in play. -/
def tokenDigest (token : Text) : String :=
  if token = "Zm9vYmFy".toList then "d7e924568e9c1fcd2de171d6f7f3bad2622837a62a51340ebe76ec0e4c0d340f" else ""

theorem requireAuthentication_logout : Sound zeroed tokenDigest 43200 [.create 0 "Zm9vYmFy".toList] 60 logout
      (zeroed.requireAuthentication tokenDigest (sessionsAfter tokenDigest 43200 [.create 0 "Zm9vYmFy".toList]) 60 logout) ↔
    Legible tokenDigest (sessionsAfter tokenDigest 43200 [.create 0 "Zm9vYmFy".toList]) 60 logout :=
  requireAuthentication_sound_iff zeroed tokenDigest 43200 [.create 0 "Zm9vYmFy".toList] 60 logout (by
    intro token htoken now issued hissued _
    obtain rfl : "Zm9vYmFy".toList = token := Option.some.inj htoken
    exact (Event.create.inj (List.mem_singleton.mp hissued)).2)

-- a host that is no host, behind a cookie that is believed
example : zeroed.requireAuthentication tokenDigest (sessionsAfter tokenDigest 43200 [.create 0 "Zm9vYmFy".toList]) 60
    { logout with url := "http://[::1/api/session/logout".toList } = .raised := by decide +kernel

/-- One letter outside ASCII in the credential is neither accepted nor refused. -/
theorem requireAuthentication_accented : ¬Sound zeroed tokenDigest 43200 [] 60
    ⟨some "Bearer é".toList,some ⟨"Bearer".toList,['é']⟩,none,"GET".toList,none,"http://localhost:8080/api/hosts".toList⟩
    (zeroed.requireAuthentication tokenDigest (sessionsAfter tokenDigest 43200 []) 60
      ⟨some "Bearer é".toList,some ⟨"Bearer".toList,['é']⟩,none,"GET".toList,none,"http://localhost:8080/api/hosts".toList⟩) := by
  intro hsound
  exact hsound.typed.1 (by decide)

omit [DecidableEq D] in
/-- A logout is never authenticated by anything but its cookie alone. -/
theorem requireBrowserSession_explicit (hheader : request.authorization.isSome) :
    a.requireBrowserSession digest sessions now request = .raised ∨
      ∃ code, a.requireBrowserSession digest sessions now request = .refused 401 code := by
  obtain ⟨value,hvalue⟩ := Option.isSome_iff_exists.mp hheader
  unfold Authentication.requireBrowserSession
  rw [hvalue]
  dsimp only
  by_cases hascii : ∀ b ∈ parseBearer value, lower b.scheme = "bearer".toList → b.credentials.all isAscii = true
  · rcases requireValidMaster_legible (a := a) hascii with ⟨h,-⟩ | ⟨code,h⟩
    · exact .inr ⟨_,by rw [h]⟩
    · exact .inr ⟨code,by rw [h]⟩
  · push Not at hascii
    obtain ⟨b,hb,hscheme,hraises⟩ := hascii
    exact .inl (by rw [hb,requireValidMaster_illegible hscheme hraises])

omit [DecidableEq D] in
theorem requireBrowserSession_cookie (hheader : request.authorization = none) (hcookie : request.cookie.isSome) :
    a.requireBrowserSession digest sessions now request = a.requireAuthentication digest sessions now request := by
  obtain ⟨token,htoken⟩ := Option.isSome_iff_exists.mp hcookie
  simp [Authentication.requireBrowserSession,Authentication.requireAuthentication,hheader,htoken]

end Decisions

end Requests

end Auth
end LocalPlane
