import LocalPlane.Machine
import LocalPlane.LineProtocol
import LocalPlane.RequestSharing

/-!
# The container inventory flow

One request asks the daemon for an inventory, and stored lists are read beside it and after it.
Every request, what follows each `await` and what is chained to it is a step of its own; what a
press sets is rendered before the next press.
-/

set_option linter.dupNamespace false

namespace LocalPlane
namespace InventoryFlow
open LineProtocol RequestSharing

def field (name : String) : Json → Option Json
  | .obj fields => fields.lookup name
  | _ => none

def isString : Option Json → Bool
  | some (.str _) => true
  | _ => false

def isNumber : Option Json → Bool
  | some (.num _) => true
  | _ => false

def isArray : Option Json → Bool
  | some (.arr _) => true
  | _ => false

def isObservationResult (value : Json) : Bool :=
  isString (field "sweep_id" value) && isString (field "status" value) && isNumber (field "container_count" value) &&
    isArray (field "issues" value) && isString (field "provider_version" value)

inductive Phase where
  | complete
  | partial_
  | unknown
deriving DecidableEq,Repr

def resultPhase (result : Json) : Phase :=
  if field "status" result = some (.str "ok") then
    if field "issues" result = some (.arr []) then .complete else .partial_
  else if field "status" result = some (.str "partial") then .partial_
  else .unknown

/-- A list as a stored read answered it. -/
structure Listing (L : Type) where
  read : ℕ
  data : L
deriving DecidableEq

structure StoredList (L : Type) where
  listing : Listing L
  fetchedAt : ℕ
deriving DecidableEq

inductive Outcome (L : Type) where
  | observing
  | reading (result : Json)
  | settled (phase : Phase) (result : Json) (list : Listing L)
  | observationFailed (error : ApiError)
  | observationUncertain (error : ApiError)
  | rereadFailed (result : Json) (error : ApiError)
deriving DecidableEq

inductive Resource (L : Type) where
  | loading
  | success (stored : StoredList L) (refreshing : Bool)
  | failed (error : ApiError)
deriving DecidableEq

/-- Loading or refreshing. -/
def Resource.pending {L : Type} : Resource L → Bool
  | .loading => true
  | .success _ refreshing => refreshing
  | .failed _ => false

inductive StoredRead (L : Type) where
  | success (list : Listing L)
  | failed (error : ApiError)
  | stale
deriving DecidableEq

def StoredRead.isStale {L : Type} : StoredRead L → Bool
  | .stale => true
  | _ => false

/-- Who goes on with what a stored read returns. -/
inductive Consumer where
  | settleReadingOutcome
  | flow (thisFlow : ℕ)
  | nobody
deriving DecidableEq,Repr

/-- One call of `startStoredRead`: the request, what the call returned, and whether that was gone on with. -/
structure Read (L : Type) where
  requestSequence : ℕ
  previous : Option (StoredList L)
  consumer : Consumer
  aborted : Bool
  answer : Option (Settled L)
  returned : Option (StoredRead L)
  concluded : Bool

/-- Where an inventory request has got to. A body may be missing altogether. -/
inductive Stage where
  | requested
  | answered (answer : Settled (Option Json))
  | reading (result : Json)
  | done

structure Post where
  stage : Stage
  aborted : Bool

def Stage.inFlight : Stage → Bool
  | .requested => true
  | .answered _ => true
  | _ => false

def Stage.running : Stage → Bool
  | .done => false
  | _ => true

/-- The hook's refs and states, the calls it has made, what was rendered last, and the newest
acknowledged result with how many stored reads had been started before it. -/
structure State (L : Type) where
  alive : Bool
  stored : Option (StoredList L)
  readSequence : ℕ
  flow : ℕ
  observationInFlight : Bool
  storedControllers : Finset ℕ
  postControllers : Finset ℕ
  resource : Resource L
  outcome : Option (Outcome L)
  storedReadError : Option ApiError
  rendered : Option (Outcome L)
  reads : ℕ → Option (Read L)
  started : ℕ
  posts : ℕ → Option Post
  acknowledged : Option (Json × ℕ)

variable {L : Type}

def containersPath : Url.Text := "/docker/containers".toList
def refreshPath : Url.Text := "/docker/containers/observations/refresh".toList

def asApiError (cause : Cause) (path : Url.Text) : ApiError := toApiError path cause

/-- A request is told apart as cancelled only where its own signal was aborted. -/
def cancels : Cause → Bool
  | .api error => error.kind = .cancelled
  | .thrown _ => false

def possible {α : Type} (aborted : Bool) : Settled α → Bool
  | .body _ => true
  | .failed cause => !cancels cause || aborted

/-- `startStoredRead` up to its `await`. -/
def startStoredRead (consumer : Consumer) (s : State L) : State L :=
  { s with
    readSequence := s.readSequence + 1
    resource := s.stored.elim .loading (.success · true)
    storedControllers := insert s.started s.storedControllers
    reads := Function.update s.reads s.started (some ⟨s.readSequence + 1,s.stored,consumer,false,none,none,false⟩)
    started := s.started + 1 }

/-- `startStoredRead` after its `await`. -/
def returns (i : ℕ) (read : Read L) (now : ℕ) (answer : Settled L) (s : State L) : StoredRead L × State L :=
  match answer with
  | .body data =>
    if !s.alive || read.requestSequence ≠ s.readSequence then (.stale,s)
    else (.success ⟨i,data⟩,{ s with
      stored := some ⟨⟨i,data⟩,now⟩
      storedReadError := none
      resource := .success ⟨⟨i,data⟩,now⟩ false })
  | .failed cause =>
    let error := asApiError cause containersPath
    if !s.alive || read.requestSequence ≠ s.readSequence || error.kind = .cancelled || read.aborted then (.stale,s)
    else (.failed error,{ s with
      storedReadError := some error
      resource := read.previous.elim (.failed error) (.success · false) })

def settleReadingOutcome : StoredRead L → Option (Outcome L) → Option (Outcome L)
  | .success list,some (.reading result) => some (.settled (resultPhase result) result list)
  | .success list,some (.rereadFailed result _) => some (.settled (resultPhase result) result list)
  | .failed error,some (.reading result) => some (.rereadFailed result error)
  | _,current => current

/-- The `finally` of an inventory request. -/
def finish (thisFlow : ℕ) (s : State L) : State L :=
  { s with
    postControllers := s.postControllers.erase thisFlow
    observationInFlight := if thisFlow = s.flow then false else s.observationInFlight
    posts := Function.update s.posts thisFlow ((s.posts thisFlow).map fun post => { post with stage := .done }) }

/-- What follows the stored read in the flow that acknowledged the result. -/
def conclude (thisFlow : ℕ) (result : Json) (read : StoredRead L) (s : State L) : State L :=
  if !s.alive || thisFlow ≠ s.flow then s
  else match read with
    | .stale => s
    | .success list => { s with outcome := some (.settled (resultPhase result) result list) }
    | .failed error => { s with outcome := some (.rereadFailed result error) }

def keepRead (i : ℕ) (read : Read L) (s : State L) : State L := { s with reads := Function.update s.reads i (some read) }

/-- The `catch` of an inventory request. -/
def uncaught (thisFlow : ℕ) (post : Post) (cause : Cause) (s : State L) : State L :=
  let error := asApiError cause refreshPath
  if s.alive && thisFlow = s.flow && error.kind ≠ .cancelled && !post.aborted then
    { s with
      outcome := some (if error.kind = .unreachable ∨ error.kind = .timeout ∨ error.kind = .malformed
        then .observationUncertain error else .observationFailed error)
      resource := s.stored.elim s.resource (.success · false) }
  else s

def unreadableResult : ApiError :=
  ⟨.malformed,"the inventory response could not be read as the declared result",refreshPath,none,none⟩

/-- What reading a field of nothing throws. -/
def noFields (value : String) : Cause := .thrown (some ("Cannot read properties of " ++ value ++ " (reading 'sweep_id')"))

def fieldsOf : Option Json → Except Cause Json
  | none => .error (noFields "undefined")
  | some .null => .error (noFields "null")
  | some value => .ok value

/-- An inventory request after its `await`. -/
def resumed (thisFlow : ℕ) (post : Post) (answer : Settled (Option Json)) (s : State L) : State L :=
  match answer with
  | .failed cause => finish thisFlow (uncaught thisFlow post cause s)
  | .body body =>
    if !s.alive || thisFlow ≠ s.flow then finish thisFlow s
    else match fieldsOf body with
      | .error cause => finish thisFlow (uncaught thisFlow post cause s)
      | .ok value =>
        if isObservationResult value then
          startStoredRead (.flow thisFlow) { s with
            outcome := some (.reading value)
            posts := Function.update s.posts thisFlow (some { post with stage := .reading value })
            acknowledged := some (value,s.started) }
        else finish thisFlow (startStoredRead .settleReadingOutcome { s with
          outcome := some (.observationUncertain unreadableResult) })

def abortReads (s : State L) : State L :=
  { s with
    reads := fun i => (s.reads i).map fun read => { read with aborted := read.aborted || i ∈ s.storedControllers }
    storedControllers := ∅ }

def refreshInventory (s : State L) : State L :=
  if s.observationInFlight then s
  else
    let s := abortReads { s with
      observationInFlight := true
      flow := s.flow + 1
      readSequence := s.readSequence + 1 }
    { s with
      outcome := some .observing
      rendered := some .observing
      storedReadError := none
      resource := s.stored.elim s.resource (.success · true)
      postControllers := insert s.flow s.postControllers
      posts := Function.update s.posts s.flow (some ⟨.requested,false⟩) }

def retryStoredRead (s : State L) : State L :=
  let outcome := match s.rendered with
    | some (.rereadFailed result _) => some (.reading result)
    | _ => s.outcome
  startStoredRead .settleReadingOutcome { s with outcome,rendered := outcome }

def unmount (s : State L) : State L :=
  { abortReads { s with alive := false } with
    posts := fun p => (s.posts p).map fun post => { post with aborted := post.aborted || p ∈ s.postControllers }
    postControllers := ∅ }

inductive Act (L : Type) where
  | reread
  | refreshInventory
  | retryStoredRead
  | retryResource
  | settleRead (i : ℕ) (answer : Settled L)
  | resumeRead (i : ℕ) (now : ℕ)
  | concludeRead (i : ℕ)
  | settlePost (p : ℕ) (answer : Settled (Option Json))
  | resumePost (p : ℕ)
  | render
  | unmount

def step : Act L → State L → Option (State L)
  | .reread,s => some (startStoredRead .settleReadingOutcome s)
  | .refreshInventory,s => some (refreshInventory s)
  | .retryStoredRead,s => some (retryStoredRead s)
  | .retryResource,s => some (startStoredRead .nobody s)
  | .settleRead i answer,s => (s.reads i).bind fun read =>
    if read.answer.isNone && possible read.aborted answer then some (keepRead i { read with answer := some answer } s) else none
  | .resumeRead i now,s => (s.reads i).bind fun read =>
    if read.returned.isSome then none
    else read.answer.map fun answer =>
      let r := returns i read now answer s
      keepRead i { read with returned := some r.1 } { r.2 with storedControllers := r.2.storedControllers.erase i }
  | .concludeRead i,s => (s.reads i).bind fun read =>
    if read.concluded then none
    else read.returned.bind fun returned =>
      let s := keepRead i { read with concluded := true } s
      match read.consumer with
      | .nobody => some s
      | .settleReadingOutcome => some { s with outcome := settleReadingOutcome returned s.outcome }
      | .flow p => (s.posts p).bind fun post =>
        match post.stage with
        | .reading result => some (finish p (conclude p result returned s))
        | _ => none
  | .settlePost p answer,s => (s.posts p).bind fun post =>
    match post.stage with
    | .requested => if possible post.aborted answer then
        some { s with posts := Function.update s.posts p (some { post with stage := .answered answer }) } else none
    | _ => none
  | .resumePost p,s => (s.posts p).bind fun post =>
    match post.stage with
    | .answered answer => some (resumed p post answer s)
    | _ => none
  | .render,s => some { s with rendered := s.outcome }
  | .unmount,s => some (unmount s)

def blank : State L where
  alive := true
  stored := none
  readSequence := 0
  flow := 0
  observationInFlight := false
  storedControllers := ∅
  postControllers := ∅
  resource := .loading
  outcome := none
  storedReadError := none
  rendered := none
  reads := fun _ => none
  started := 0
  posts := fun _ => none
  acknowledged := none

/-- Mounted, with the read of the first effect begun. -/
def initial : State L := startStoredRead .settleReadingOutcome blank

variable (L) in
/-- The screen that holds the hook. -/
abbrev screen : Machine where
  State := State L
  Act := Act L
  initial := (· = initial)
  step := step

end InventoryFlow
end LocalPlane
