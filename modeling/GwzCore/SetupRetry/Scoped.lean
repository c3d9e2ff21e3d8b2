import GwzCore.SetupRetry.Governor
import GwzCore.SetupRetry.Machine

/-!
# One operation's handle on the governor

What an operation's endpoint asks and what it reports. An operation that is not live
is answered as if no limit applied, and its reports change nothing. A run of the
governor is a list of timed calls: operations beginning and ending, the host's
reports, and what the endpoints ask.
-/
namespace GwzCore.SetupRetry

/-- What an endpoint needs to start something on a site. -/
structure Admission where
  gateOpen : Bool
  target : ℕ
  room : Bool
  connected : ℕ
  restoring : Bool
  setups : ℕ
  deriving DecidableEq

/-- A site's machine as it may be read. -/
structure View where
  state : Fsm.State
  n : ℕ
  setupLimit : ℕ
  ceiling : ℕ
  connected : ℕ
  possible : ℕ
  poolLimit : ℕ
  settleMs : ℕ
  confirmation : Bool
  outage : Bool
  deriving DecidableEq

namespace Slot

variable {C : ℕ} (slot : Slot C) (conn : ConnId) (now : ℕ)

def admission : Admission × Slot C :=
  let (gateOpen, limit) := slot.limit.gateOpen now
  (⟨gateOpen, limit.poolLimit, limit.hasRoom, limit.table.connected, limit.restore.isSome,
    limit.setupAllowance⟩, { slot with limit })

def health (change : Machine.Change) : Slot C :=
  match change with
  | .left => { slot with limit := slot.limit.beginOutage }
  | .healed => { slot with limit := slot.limit.recovered now }
  | .down => { slot with limit := slot.limit.down now }

/-- An exchange begins on a leased connection, unless a hold is in force. The
connection's own setup attempt, if no exchange answered it, is over. -/
def exchangeBegins : Bool × Slot C :=
  let (may, limit) := slot.limit.admitsFirstExchange now
  if may then
    let limit := (limit.result conn .ended now).2
    let (began, limit) := limit.beginAttempt conn .ordinary limit.poolLimit (.leased conn) true now
    (began, { slot with limit, leased := if began then insert conn slot.leased else slot.leased })
  else (false, { slot with limit })

/-- The attempt on a connection succeeded: `mine` is this operation's own, and
`freshAnswer` says that the connection's first exchange was answered. -/
def answered (mine freshAnswer : Bool) : Slot C :=
  let limit := slot.limit.conn conn .connected now
  if mine then
    { slot with
      leased := slot.leased.erase conn
      limit := (limit.result conn (.succeeded (conn ∉ slot.leased)) now).2 }
  else if freshAnswer then { slot with limit := limit.observedSuccess now }
  else { slot with limit }

def refused (signal : Signal) (retryAfterMs : Option ℕ) (post : Bool) : Option Ruling × Slot C :=
  let (ruling, limit) := slot.limit.result conn (.refused signal retryAfterMs post) now
  (ruling, { slot with leased := slot.leased.erase conn, limit })

/-- A setup's failure, judged on its connection's own window; `live` when the host
has not yet seen it end. -/
def setupFailed (live : Bool) (signal : Signal) : Option Ruling × Slot C :=
  let limit := if live then slot.limit.freeze conn else slot.limit
  let (ruling, limit) := limit.result conn (.refused signal none false) now
  (ruling, { slot with limit })

def view : View where
  state := slot.limit.fsm.state
  n := slot.limit.fsm.n
  setupLimit := slot.limit.setups.fsm.n
  ceiling := C
  connected := slot.limit.table.connected
  possible := slot.limit.table.possible
  poolLimit := slot.limit.poolLimit
  settleMs := slot.limit.settleMs
  confirmation := slot.limit.confirmation
  outage := slot.limit.outage.isSome

end Slot

namespace SiteState

/-- The last setup of a member that its endpoint may still judge, and whether it is
live. -/
def setupOf (state : SiteState) (tag : Tag) : Option (ConnId × Bool) :=
  (state.conns.toList.reverse.find? fun entry =>
    entry.2.tag = some tag && match entry.2.stage with
      | .live | .ended _ => true
      | _ => false).map fun entry => (entry.1, entry.2.stage = .live)

/-- A judged setup: the host will still see a live one end. -/
def judge (state : SiteState) (conn : ConnId) (live : Bool) : SiteState :=
  if live then state.setStage conn .judged
  else { state with conns := state.conns.erase conn }

end SiteState

namespace Governor

variable (governor : Governor) (operation : Operation) (site : Site) (now : ℕ)

/-- The operation's slot on the site, made if need be and brought up to `now`. -/
def enter : Governor :=
  (governor.onBook fun book => book.slot operation site now).sync operation site now

/-- Runs `f` on the operation's slot, and syncs every machine on the site afterwards.
None when the operation is not live. -/
def withSlot {α : Type} (f : ∀ {C : ℕ}, Slot C → α × Slot C) : Option α × Governor :=
  if governor.book.isLive operation then
    let governor := governor.enter operation site now
    (governor.book.onSlot operation site fun slot => (f slot).1,
      (governor.onBook fun book =>
        book.update operation site fun slot => (f slot).2).syncSite site now)
  else (none, governor)

def admission : Admission × Governor :=
  let (answer, governor') := governor.withSlot operation site now fun slot => slot.admission now
  (answer.getD ⟨true, governor.book.defaultCeiling, true, 0, false, u64Max⟩, governor')

/-- The key's retry machine changed health. -/
def health (change : Machine.Change) : Governor :=
  (governor.withSlot operation site now fun slot => ((), slot.health now change)).2

/-- Whether an open may begin its first exchange on a leased connection. -/
def exchangeMayBegin : Bool × Governor :=
  let (answer, governor) := governor.withSlot operation site now fun slot =>
    ((slot.limit.admitsFirstExchange now).1,
      { slot with limit := (slot.limit.admitsFirstExchange now).2 })
  (answer.getD true, governor)

/-- Whether a member past its discovery may send its next exchange. -/
def continuingMayBegin : Bool × Governor :=
  let (answer, governor) := governor.withSlot operation site now fun slot =>
    ((slot.limit.admitsContinuing now).1,
      { slot with limit := (slot.limit.admitsContinuing now).2 })
  (answer.getD true, governor)

def exchangeBegins (conn : ConnId) : Bool × Governor :=
  let (answer, governor) := governor.withSlot operation site now fun slot =>
    slot.exchangeBegins conn now
  (answer.getD true, governor)

/-- The server holds the connection for every operation's table, and a fresh one is
every operation's success. -/
def answered (conn : ConnId) : Governor :=
  let state := governor.book.siteState site
  let freshAnswer : Bool := state.conns[conn]?.map (·.stage) = some .live
  let governor := governor.onBook fun book =>
    book.setSite site ((state.apply conn .connected now).setStage conn .up)
  ((governor.book.operationsOn site).foldl (fun governor other =>
    governor.onBook fun book => book.update other site fun slot =>
      slot.answered conn now (other = operation) freshAnswer) governor).syncSite site now

/-- How long a refusal holds the site: the server's `Retry-After`, or the shortest
gap for a throttle that taught the machine nothing. -/
def refusalWait (signal : Signal) (retryAfterMs : Option ℕ) (ruling : Option Ruling) : Option ℕ :=
  match retryAfterMs with
  | some wait => some wait
  | none =>
    if signal = .throttle ∧ (ruling = none ∨ ruling = some .retryMachine) then some t0Ms else none

/-- A refusal's hold, on one operation's slot. The asking operation's own hold with a
`Retry-After` is set by its judgement, and without one no other operation is held. -/
def holdSlot (wait : ℕ) (asked judged post : Bool) (other : Operation) : Governor :=
  if (other = operation && asked && judged) || (other ≠ operation && !asked) then governor
  else
    governor.onBook fun book => book.update other site fun slot =>
      { slot with limit := slot.limit.setHold wait post now }

/-- The server's `Retry-After` holds the site for every live operation. -/
def refused (conn : ConnId) (signal : Signal) (retryAfterMs : Option ℕ) (post : Bool) :
    Option Ruling × Governor :=
  let (answer, governor) := governor.withSlot operation site now fun slot =>
    slot.refused conn now signal retryAfterMs post
  let ruling := answer.join
  match refusalWait signal retryAfterMs ruling with
  | none => (ruling, governor)
  | some wait =>
    (ruling, ((governor.book.operationsOn site).foldl (fun governor other =>
      governor.holdSlot operation site now wait retryAfterMs.isSome ruling.isSome post other)
      governor).syncSite site now)

/-- A member's setup failed, before or after the host saw it end. -/
def setupFailed (member : ℕ) (signal : Signal) : Option Ruling × Governor :=
  if governor.book.isLive operation then
    let governor := governor.enter operation site now
    let state := governor.book.siteState site
    match state.setupOf ⟨operation, member⟩ with
    | none => (none, governor.syncSite site now)
    | some (conn, live) =>
      ((governor.book.onSlot operation site fun slot =>
          (slot.setupFailed conn now live signal).1).join,
        (governor.onBook fun book =>
          (book.setSite site (state.judge conn live)).update operation site fun slot =>
            (slot.setupFailed conn now live signal).2).syncSite site now)
  else (none, governor)

/-- The members queued for a new connection, reported as the endpoint holds them. -/
def setDemand (needingNew nonFinal : ℕ) : Governor :=
  governor.onBook fun book => (book.slot operation site now).update operation site fun slot =>
    { slot with limit := slot.limit.setDemand needingNew nonFinal now }

/-- Starts the test that is due for a carrier: the admission target and the number of
the arming, which the carrier's token keeps. -/
def startTest (carrierFinal : Bool) : Option (ℕ × ℕ) × Governor :=
  let (answer, governor) := governor.withSlot operation site now fun slot =>
    ((slot.limit.armTest carrierFinal now).1,
      { slot with limit := (slot.limit.armTest carrierFinal now).2 })
  (answer.join, governor)

/-- The site as the operation's machine has it, if it has touched it. -/
def view : Option View × Governor :=
  match governor.book.onSlot operation site fun _ => () with
  | none => (none, governor)
  | some _ => governor.withSlot operation site now fun slot => (slot.view, slot)

end Governor

/-! ## Runs of calls -/

/-- What an operation's endpoint asks or reports about one site. -/
inductive ScopedCall where
  | admission
  | health (change : Machine.Change)
  | exchangeMayBegin
  | continuingMayBegin
  | exchangeBegins (conn : ConnId)
  | answered (conn : ConnId)
  | refused (conn : ConnId) (signal : Signal) (retryAfterMs : Option ℕ) (post : Bool)
  | setupFailed (member : ℕ) (signal : Signal)
  | setDemand (needingNew nonFinal : ℕ)
  | startTest (carrierFinal : Bool)
  | dropToken (arm : ℕ)
  | view

inductive GovernorCall where
  | beginOperation (operation : Operation) (ceiling : ℕ) (positive : 1 ≤ ceiling) (adaptive : Bool)
  | endOperation (operation : Operation)
  | tick
  | drainAllNotes
  | started (site : Site) (conn : ConnId) (tag : Option Tag) (clocked : Bool)
  | seen (site : Site) (conn : ConnId) (https : Bool) (seen : Seen)
  | endpoint (operation : Operation) (site : Site) (call : ScopedCall)

structure TimedGovernorCall where
  call : GovernorCall
  now : ℕ

namespace Governor

def scopedStep (governor : Governor) (operation : Operation) (site : Site) (now : ℕ) :
    ScopedCall → Governor
  | .admission => (governor.admission operation site now).2
  | .health change => governor.health operation site now change
  | .exchangeMayBegin => (governor.exchangeMayBegin operation site now).2
  | .continuingMayBegin => (governor.continuingMayBegin operation site now).2
  | .exchangeBegins conn => (governor.exchangeBegins operation site now conn).2
  | .answered conn => governor.answered operation site now conn
  | .refused conn signal retryAfterMs post =>
    (governor.refused operation site now conn signal retryAfterMs post).2
  | .setupFailed member signal => (governor.setupFailed operation site now member signal).2
  | .setDemand needingNew nonFinal => governor.setDemand operation site now needingNew nonFinal
  | .startTest carrierFinal => (governor.startTest operation site now carrierFinal).2
  | .dropToken arm => governor.dropToken operation site arm
  | .view => (governor.view operation site now).2

def step (governor : Governor) (timed : TimedGovernorCall) : Governor :=
  let now := timed.now
  match timed.call with
  | .beginOperation operation ceiling positive adaptive =>
    governor.beginOperation operation now ceiling positive adaptive
  | .endOperation operation => governor.endOperation operation now
  | .tick => governor.tick now
  | .drainAllNotes => governor.drainAllNotes.2
  | .started site conn tag clocked => governor.started site conn now tag clocked
  | .seen site conn https seen => governor.seen site conn now https seen
  | .endpoint operation site call => governor.scopedStep operation site now call

/-- A new governor after the calls. -/
def run (defaultCeiling : ℕ) (spread : ℕ → Spread) (calls : List TimedGovernorCall) : Governor :=
  Steps.run step (Governor.new defaultCeiling spread) calls

end Governor

end GwzCore.SetupRetry
