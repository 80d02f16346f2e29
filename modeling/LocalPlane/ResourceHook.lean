import LocalPlane.Machine
import LocalPlane.RequestSharing

/-!
# The resource hook

Components ask for a resource under a key, again when they are told to, and show the body
they hold meanwhile. Renders, effects and their clean-up, requests and what is chained to
them each are a step of their own, taken in any order the runtime allows.
-/

set_option linter.dupNamespace false

namespace LocalPlane
namespace ResourceHook
open Url RequestSharing

/-- What the effect of a render depends on. -/
structure Deps where
  key : Text
  nonce : ℕ
  globalNonce : ℕ
deriving DecidableEq,Repr

/-- `${key}#${nonce}#${globalNonce}` -/
def flightKey (d : Deps) : Text := d.key ++ '#' :: (digits d.nonce ++ '#' :: digits d.globalNonce)

/-- A body, with the request it was the answer of. -/
structure Body (β : Type) where
  flight : ℕ
  data : β
  fetchedAt : ℕ
deriving DecidableEq,Repr

inductive Resource (β : Type) where
  | loading
  | success (body : Body β) (refreshing : Bool)
  | failed (error : ApiError)

def Resource.body {β : Type} : Resource β → Option (Body β)
  | .success body _ => some body
  | _ => none

/-- An effect that has run and was not cleaned up: what it ran for, the request it waits on, and
how many requests had been sent when the refresh it takes up was asked for. -/
structure Effect where
  deps : Deps
  flight : ℕ
  since : ℕ
  answered : Bool
deriving DecidableEq,Repr

/-- A mounted component. Its effect runs after the render it belongs to, and what it
shows is what the resource was at that render. -/
structure Component (β : Type) where
  rendered : Deps
  shown : Resource β
  resource : Resource β
  dataRef : Option (Text × Body β)
  nonce : ℕ
  effect : Option Effect
  /-- How many requests had been sent at the last refresh no render has taken up, and at the one the render took up. -/
  asked : ℕ
  since : ℕ

/-- The module's own state and the mounted components. For each console-wide count it is kept how many
requests had been sent when it was reached. -/
structure State (β : Type) where
  globalRefreshCount : ℕ
  heard : ℕ → ℕ
  sharing : Sharing β
  components : ℕ → Option (Component β)

inductive Act (β : Type) where
  | mount (c : ℕ) (key : Text)
  | render (c : ℕ) (key : Text)
  | refresh (c : ℕ)
  | refreshAll
  | cleanup (c : ℕ)
  | effect (c : ℕ)
  | unmount (c : ℕ)
  | settle (f : ℕ) (answer : Settled β)
  | finish (f : ℕ)
  | deliver (c : ℕ) (now : ℕ)

variable {β : Type}

def State.put (c : ℕ) (C : Component β) (s : State β) : State β :=
  { s with components := Function.update s.components c (some C) }

def Component.mounted (key : Text) (globalNonce : ℕ) : Component β where
  rendered := ⟨key,0,globalNonce⟩
  shown := .loading
  resource := .loading
  dataRef := none
  nonce := 0
  effect := none
  asked := 0
  since := 0

/-- The effects of the last render have run: the runtime sees to that before it renders again. -/
def Component.flushed (C : Component β) : Bool := C.effect.any (·.deps = C.rendered)

def Component.render (key : Text) (globalNonce : ℕ) (C : Component β) : Component β :=
  { C with
    rendered := ⟨key,C.nonce,globalNonce⟩
    shown := C.resource
    asked := 0
    since := C.asked }

/-- The effect's own first lines: a body held for the key stays, any other is let go. -/
def Component.restart (C : Component β) : Component β :=
  match C.dataRef with
  | some (key,body) =>
    if key = C.rendered.key then { C with resource := .success body true }
    else { C with dataRef := none,resource := .loading }
  | none => { C with dataRef := none,resource := .loading }

/-- What follows the `await`, in the effect that is still live. -/
def Component.deliver (e : Effect) (flight : Flight β) (now : ℕ) (C : Component β) : Settled β → Component β
  | .body data => { C with
      dataRef := some (e.deps.key,⟨e.flight,data,now⟩)
      resource := .success ⟨e.flight,data,now⟩ false
      effect := some { e with answered := true } }
  | .failed cause =>
    let error := toApiError e.deps.key cause
    if error.kind = .cancelled ∨ flight.aborted = true then { C with effect := some { e with answered := true } }
    else { C with resource := .failed error,effect := some { e with answered := true } }

/-- The effect's clean-up. -/
def cleaned (e : Effect) (s : State β) : State β :=
  { s with sharing := s.sharing.release (flightKey e.deps) e.flight }

def step : Act β → State β → Option (State β)
  | .mount c key,s =>
    if (s.components c).isNone then some (s.put c (.mounted key s.globalRefreshCount)) else none
  | .render c key,s => (s.components c).bind fun C =>
    if C.flushed then some (s.put c (C.render key s.globalRefreshCount)) else none
  | .refresh c,s => (s.components c).map fun C =>
    s.put c { C with nonce := C.nonce + 1,asked := s.sharing.begun }
  | .refreshAll,s => some { s with
      globalRefreshCount := s.globalRefreshCount + 1
      heard := Function.update s.heard (s.globalRefreshCount + 1) s.sharing.begun }
  | .cleanup c,s => (s.components c).bind fun C => C.effect.bind fun e =>
    if e.deps = C.rendered then none else some ((cleaned e s).put c { C with effect := none })
  | .effect c,s => (s.components c).bind fun C =>
    if C.effect.isSome then none
    else
      let r := s.sharing.share (flightKey C.rendered) C.rendered.key
      some (State.put c { C.restart with effect := some ⟨C.rendered,r.1,C.since,false⟩ } { s with sharing := r.2 })
  | .unmount c,s => (s.components c).map fun C =>
    { (C.effect.elim s (cleaned · s)) with components := Function.update s.components c none }
  | .settle f answer,s => (s.sharing.settle f answer).map fun sharing => { s with sharing }
  | .finish f,s => (s.sharing.finish f).map fun sharing => { s with sharing }
  | .deliver c now,s => (s.components c).bind fun C => C.effect.bind fun e =>
    (s.sharing.flights e.flight).bind fun flight =>
    if e.answered || !flight.finished then none
    else flight.settled.map fun answer => s.put c (C.deliver e flight now answer)

def initial : State β := ⟨0,fun _ => 0,.empty,fun _ => none⟩

variable (β) in
/-- The console: components come and go, and requests settle, in any order. -/
abbrev console : Machine where
  State := State β
  Act := Act β
  initial := (· = initial)
  step := step

end ResourceHook
end LocalPlane
