import GwzCore.Lib.SwapRemove
import GwzCore.SetupRetry.Control

/-!
# The governor

Every operation's limit machines for one pool, driving the pool's numbers. The book
keeps one scope for each live operation, with one slot for each site the operation
has touched; what the server holds on a site is not an operation's and is kept once.
The pool does what it is told: its numbers change only here.
-/
namespace GwzCore.SetupRetry

abbrev Site := ℕ

/-- An operation, named in the order of the book's scopes. -/
abbrev Operation := ℕ

/-- Notes kept for the reader; the oldest are dropped. -/
def notesKept : ℕ := 64

/-- How long a setup the host saw end waits for its endpoint's word. -/
def endedTtlMs : ℕ := 1000

/-- The last `kept` of a list. -/
def keepLast {α : Type} (kept : ℕ) (l : List α) : List α := l.drop (l.length - kept)

/-- What a request carries to its connection: its operation and its member. -/
structure Tag where
  operation : Operation
  member : ℕ
  deriving DecidableEq

/-- Where a connection stands for the one who judges its setup. -/
inductive Stage where
  | live
  | ended (endedAt : ℕ)
  | judged
  | up
  deriving DecidableEq

structure Info where
  tag : Option Tag
  stage : Stage
  deriving DecidableEq

/-- What the server holds on one site, whoever's it is. -/
structure SiteState where
  table : Table := {}
  conns : FiniteMap ConnId Info := ∅

/-- One operation's machine for one site. `leased` holds the attempts that are
exchanges on a leased connection; `suppress`, whether the pool shall evict nothing. -/
structure Slot (ceiling : ℕ) where
  site : Site
  limit : Limit ceiling
  leased : Finset AttemptId := ∅
  suppress : Bool := false

/-- One operation's machines. -/
structure Scope where
  ceiling : ℕ
  positive : 1 ≤ ceiling
  adaptive : Bool
  slots : List (Slot ceiling) := []
  notes : List (Site × Note) := []

/-- What the pool is told for a site. -/
structure Numbers where
  limit : ℕ
  settleMs : ℕ
  noEvict : Bool
  deriving DecidableEq

/-- The most permissive limit, the longest settle, and evictions stopped if either
stops them. -/
def Numbers.join (a b : Numbers) : Numbers :=
  ⟨max a.limit b.limit, max a.settleMs b.settleMs, a.noEvict || b.noEvict⟩

/-- What the pool has for a site. -/
structure PoolNumbers where
  limit : Option ℕ := none
  settleMs : ℕ := 0
  noEvict : Bool := false
  deriving DecidableEq

structure Book where
  defaultCeiling : ℕ
  /-- The jitter source of each machine, in the order they are made. -/
  spread : ℕ → Spread
  made : ℕ := 0
  scopes : FiniteMap Operation Scope := ∅
  sites : FiniteMap Site SiteState := ∅
  /-- What the pool was last told for each site. -/
  applied : FiniteMap Site Numbers := ∅
  /-- Holds still in force when their operation ended. -/
  heldOver : List (Site × Hold) := []
  endedNotes : List (Site × Note) := []

structure Governor where
  book : Book
  pool : FiniteMap Site PoolNumbers := ∅

namespace Scope

variable (scope : Scope) (site : Site)

def slotOn : Option (Slot scope.ceiling) := scope.slots.find? fun slot => slot.site = site

def hasSlot : Bool := scope.slots.any fun slot => slot.site = site

/-- Replaces the scope's slot on the site. -/
def update (f : ∀ {C : ℕ}, Slot C → Slot C) : Scope :=
  { scope with slots := scope.slots.map fun slot => if slot.site = site then f slot else slot }

end Scope

namespace Book

variable (book : Book) (operation : Operation) (site : Site) (now : ℕ)

/-- The site's state, made on its first event. -/
def siteState : SiteState := book.sites[site]?.getD {}

def setSite (state : SiteState) : Book := { book with sites := book.sites.insert site state }

def isLive : Bool := book.scopes.contains operation

/-- Whether some live operation has a slot on the site. -/
def touched : Bool := book.scopes.toList.any fun entry => entry.2.hasSlot site

/-- The operations with a slot on the site, in order. -/
def operationsOn : List Operation :=
  (book.scopes.toList.filter fun entry => entry.2.hasSlot site).map Prod.fst

/-- Every slot, by its operation and site. -/
def slotNames : List (Operation × Site) :=
  book.scopes.toList.flatMap fun entry => entry.2.slots.map fun slot => (entry.1, slot.site)

/-- Reads the operation's slot on the site. -/
def onSlot {α : Type} (f : ∀ {C : ℕ}, Slot C → α) : Option α :=
  match book.scopes[operation]? with
  | none => none
  | some scope => (scope.slotOn site).map f

/-- Replaces the operation's slot on the site. -/
def update (f : ∀ {C : ℕ}, Slot C → Slot C) : Book :=
  match book.scopes[operation]? with
  | none => book
  | some scope => { book with scopes := book.scopes.insert operation (scope.update site f) }

/-- The hold in force of the first live operation that has one on the site. -/
def liveHold : Option Hold :=
  book.scopes.toList.findSome? fun entry =>
    entry.2.slots.findSome? fun slot =>
      if slot.site = site then slot.limit.holdInForce now else none

/-- Whether a hold an ended operation left is the site's and in force. -/
def isLeft (held : Site × Hold) : Bool := held.1 = site && held.2.inForce now

/-- A new machine starts from the site's table, and inherits a hold in force there. -/
def newLimit (scope : Scope) : Limit scope.ceiling :=
  let limit := (Limit.new scope.positive scope.adaptive (book.spread book.made)).seed
    (book.siteState site).table
  match (book.liveHold site now).or
      ((takeFirst (isLeft site now) book.heldOver).1.map Prod.snd) with
  | none => limit
  | some hold => limit.restoreHold hold

/-- Makes the operation's slot on the site on first use. An operation that is not
live gets none. A hold that was left is taken even when a live operation's is used. -/
def slot : Book :=
  match book.scopes[operation]? with
  | none => book
  | some scope =>
    if scope.hasSlot site then book
    else
      { book with
        made := book.made + 1
        sites := book.sites.insert site (book.siteState site)
        heldOver := (takeFirst (isLeft site now) book.heldOver).2
        scopes := book.scopes.insert operation
          { scope with
            slots := scope.slots ++ [{ site, limit := book.newLimit site now scope }] } }

/-- Adds a slot's notes to its operation's. -/
def note (notes : List Note) : Book :=
  match book.scopes[operation]? with
  | none => book
  | some scope =>
    { book with
      scopes := book.scopes.insert operation
        { scope with
          notes := keepLast notesKept (scope.notes ++ notes.map fun note => (site, note)) } }

/-! ## Setups that ended without a word -/

/-- The setups whose time for a report is up. -/
def expired : List ConnId :=
  (book.siteState site).conns.toList.filterMap fun entry =>
    match entry.2.stage with
    | .ended endedAt => if endedTtlMs ≤ now - endedAt then some entry.1 else none
    | _ => none

/-- An expired setup ends its attempt with no verdict. -/
def sweepConn (conn : ConnId) : Book :=
  let state := book.siteState site
  let book := book.setSite site { state with conns := state.conns.erase conn }
  match state.conns[conn]?.bind (·.tag) with
  | none => book
  | some tag =>
    (book.slot tag.operation site now).update tag.operation site fun slot =>
      { slot with limit := (slot.limit.result conn .ended now).2 }

def sweep : Book :=
  (book.expired site now).foldl (fun book conn => book.sweepConn site now conn) book

/-- Takes the notes from every slot. -/
def drainSlots : Book :=
  book.slotNames.foldl (fun book name =>
    book.update name.1 name.2 fun slot => { slot with limit := slot.limit.drainNotes.2 }) book

/-- A hold in force stays for the next operation. -/
def holdOver {C : ℕ} (slot : Slot C) : Book :=
  if slot.limit.holding now then
    { book with heldOver := book.heldOver ++ [(slot.site, slot.limit.takeHold.1)] }
  else book

/-- What the live machines want of the pool on the site. -/
def wanted : Option Numbers :=
  let all := book.scopes.toList.flatMap fun entry =>
    (entry.2.slots.filter fun slot => slot.site = site).map fun slot =>
      (⟨slot.limit.poolLimit, slot.limit.settleMs, slot.suppress⟩ : Numbers)
  match all with
  | [] => none
  | first :: rest => some (rest.foldl Numbers.join first)

end Book

/-- Brings a slot up to `now`. Returns the notes it made. -/
def Slot.synced {C : ℕ} (slot : Slot C) (now : ℕ) : List Note × Slot C :=
  let (due, limit) := slot.limit.tick now
  -- the pool discards the site's idle connections before the hold lifts
  let limit := if due then limit.idleDiscarded now else limit
  let (suppress, limit) := limit.closesSuppressed now
  let (notes, limit) := limit.drainNotes
  (notes, { slot with limit, suppress })

namespace Governor

variable (governor : Governor) (operation : Operation) (site : Site) (now : ℕ)

def new (defaultCeiling : ℕ) (spread : ℕ → Spread) : Governor := ⟨{ defaultCeiling, spread }, ∅⟩

def onBook (f : Book → Book) : Governor := { governor with book := f governor.book }

/-- What the pool has for the site. -/
def numbers : PoolNumbers := governor.pool[site]?.getD {}

def tellPool (wanted : Numbers) : Governor where
  book := { governor.book with applied := governor.book.applied.insert site wanted }
  pool := governor.pool.insert site ⟨some wanted.limit, wanted.settleMs, wanted.noEvict⟩

def clearPool : Governor where
  book := { governor.book with applied := governor.book.applied.erase site }
  pool := governor.pool.insert site {}

/-- Tells the pool the site's numbers when they changed, or takes them away when no
machine is left. -/
def reconcile : Governor :=
  match governor.book.wanted site, governor.book.applied[site]? with
  | some wanted, some known => if known = wanted then governor else governor.tellPool site wanted
  | some wanted, none => governor.tellPool site wanted
  | none, some _ => governor.clearPool site
  | none, none => governor

/-- Brings time forward on one slot, and tells the pool its numbers. -/
def sync : Governor :=
  match governor.book.onSlot operation site fun slot => (slot.synced now).1 with
  | none => governor
  | some notes =>
    (governor.onBook fun book =>
      ((book.update operation site fun slot => (slot.synced now).2).note operation site notes).sweep
        site now).reconcile site

/-- Syncs every live operation's slot on the site. -/
def syncSite : Governor :=
  (governor.book.operationsOn site).foldl (fun governor operation =>
    governor.sync operation site now) governor

/-- Time has passed: every slot is synced. -/
def tick : Governor :=
  governor.book.slotNames.foldl (fun governor name => governor.sync name.1 name.2 now) governor

/-! ## Operations begin and end -/

/-- A slot of an ended operation leaves its hold and its numbers. -/
def leave {C : ℕ} (slot : Slot C) : Governor :=
  (governor.onBook fun book => book.holdOver now slot).reconcile slot.site

/-- The notes an operation leaves for the reader. -/
def leftNotes (scope : Scope) : List (Site × Note) :=
  scope.notes ++ scope.slots.flatMap fun slot =>
    slot.limit.drainNotes.1.map fun note => (slot.site, note)

def dropScope : Governor :=
  let governor := governor.onBook fun book =>
    { book with heldOver := book.heldOver.filter fun held => held.2.inForce now }
  match governor.book.scopes[operation]? with
  | none => governor
  | some scope =>
    scope.slots.foldl (fun governor slot => governor.leave now slot) (governor.onBook fun book =>
      { book with
        scopes := book.scopes.erase operation
        endedNotes := keepLast notesKept (book.endedNotes ++ leftNotes scope) })

/-- An operation begins, replacing one of its name as if that had ended. What the
pool was told is sent again. -/
def beginOperation (ceiling : ℕ) (positive : 1 ≤ ceiling) (adaptive : Bool) : Governor :=
  (governor.dropScope operation now).onBook fun book =>
    { book with
      scopes := book.scopes.insert operation { ceiling, positive, adaptive }
      applied := ∅ }

def endOperation : Governor := governor.dropScope operation now

/-- Every note made since the last call, once. -/
def drainAllNotes : List (Site × Note) × Governor :=
  (governor.book.endedNotes ++ governor.book.scopes.toList.flatMap fun entry => leftNotes entry.2,
    governor.onBook fun book =>
      { book.drainSlots with
        endedNotes := []
        scopes := book.drainSlots.scopes.map fun _ scope => { scope with notes := [] } })

/-- A carrier's token is dropped: the test is given back if it was never taken. -/
def dropToken (arm : ℕ) : Governor :=
  (governor.onBook fun book => book.update operation site fun slot =>
    { slot with limit := slot.limit.disarm arm }).reconcile site

end Governor

/-! ## What the pool's host reports -/

/-- A connection's state change as the host saw it. -/
inductive Seen where
  | started
  | tcpConnected (ms : ℕ)
  | connected
  | setupEnded
  | retired
  | closing
  | serverClosed
  | disposed
  deriving DecidableEq

/-- The table's event. HTTPS is set up only when its first exchange is answered. -/
def Seen.event (https : Bool) : Seen → Option ConnEvent
  | .started => none
  | .tcpConnected _ => none
  | .connected => if https then none else some .connected
  | .setupEnded => some .setupEnded
  | .retired => some .retired
  | .closing => some .closing
  | .serverClosed => some .serverClosed
  | .disposed => some .disposed

namespace SiteState

variable (state : SiteState)

def apply (conn : ConnId) (event : ConnEvent) (now : ℕ) : SiteState :=
  { state with table := (state.table.apply conn event now).2 }

def setStage (conn : ConnId) (stage : Stage) : SiteState :=
  match state.conns[conn]? with
  | none => state
  | some info => { state with conns := state.conns.insert conn { info with stage } }

/-- Where a report takes the connection for the one who judges its setup. -/
def saw (conn : ConnId) (seen : Seen) (now : ℕ) : SiteState :=
  match seen, state.conns[conn]? with
  | .connected, some _ => state.setStage conn .up
  | .setupEnded, some info | .retired, some info =>
    if info.stage = .judged then { state with conns := state.conns.erase conn }
    else state.setStage conn (.ended now)
  | .closing, some _ | .serverClosed, some _ => { state with conns := state.conns.erase conn }
  | _, _ => state

/-- The operation whose endpoint says why a setup ended. -/
def owner (conn : ConnId) (seen : Seen) : Option Operation :=
  match seen, state.conns[conn]? with
  | .setupEnded, some info | .retired, some info => info.tag.map (·.operation)
  | _, _ => none

end SiteState

namespace Slot

variable {C : ℕ} (slot : Slot C) (conn : ConnId) (now : ℕ)

/-- A test armed for a carrier is the next connection its operation starts; any
other start is an ordinary one. -/
def started (mine clocked : Bool) : Slot C :=
  let (began, limit) :=
    if mine then slot.limit.beginArmed conn (.new conn) clocked now
    else
      slot.limit.beginAttempt conn slot.limit.startKind.1 slot.limit.startKind.2
        (.new conn) clocked now
  { slot with limit := if began then limit else limit.conn conn (.started clocked) now }

/-- A report, at the machine of an operation that is, or is not, its connection's. -/
def saw (seen : Seen) (mine : Bool) : Slot C :=
  match seen with
  | .started | .tcpConnected _ => slot
  | .connected =>
    { slot with
      limit := ((slot.limit.conn conn .connected now).result conn (.succeeded true) now).2 }
  | .setupEnded | .retired =>
    let limit := slot.limit.conn conn (if seen = .retired then .retired else .setupEnded) now
    { slot with
      leased := slot.leased.erase conn
      limit := if mine then limit.freeze conn else (limit.result conn .ended now).2 }
  | .closing | .serverClosed =>
    let limit := slot.limit.conn conn (if seen = .closing then .closing else .serverClosed) now
    { slot with leased := slot.leased.erase conn, limit := (limit.result conn .ended now).2 }
  | .disposed => { slot with limit := slot.limit.conn conn .disposed now }

end Slot

namespace Governor

variable (governor : Governor) (site : Site) (conn : ConnId) (now : ℕ)

def startedOn (operation : Operation) (mine clocked : Bool) : Governor :=
  (governor.onBook fun book =>
    (book.slot operation site now).update operation site fun slot =>
      slot.started conn now mine clocked).sync operation site now

/-- The host has begun a connection: every live operation's table has it. -/
def started (tag : Option Tag) (clocked : Bool) : Governor :=
  let governor := governor.onBook fun book =>
    let state := (book.siteState site).apply conn (.started clocked) now
    book.setSite site { state with conns := state.conns.insert conn ⟨tag, .live⟩ }
  (governor.book.scopes.toList.map Prod.fst).foldl (fun governor operation =>
    governor.startedOn site conn now operation (tag.map (·.operation) = some operation) clocked)
    governor

/-- The TCP connect took `ms`: the settle time follows it. -/
def tcpConnected (ms : ℕ) : Governor :=
  governor.onBook fun book =>
    let state := book.siteState site
    let book := book.setSite site
      { state with table := { state.table with settle := state.table.settle.observeConnect ms } }
    (book.scopes.toList.map Prod.fst).foldl (fun book operation =>
      (book.slot operation site now).update operation site fun slot =>
        { slot with limit := slot.limit.connectTime ms }) book

def sawOn (seen : Seen) (operation : Operation) (mine : Bool) : Governor :=
  (governor.onBook fun book =>
    (book.slot operation site now).update operation site fun slot =>
      slot.saw conn now seen mine).sync operation site now

/-- The host saw a connection change. -/
def seen (https : Bool) (seen : Seen) : Governor :=
  match seen with
  | .tcpConnected ms => governor.tcpConnected site now ms
  | seen =>
    match seen.event https with
    | none => governor
    | some event =>
      let state := governor.book.siteState site
      let owner := state.owner conn seen
      let governor := governor.onBook fun book =>
        book.setSite site ((state.apply conn event now).saw conn seen now)
      ((governor.book.scopes.toList.map Prod.fst).foldl (fun governor operation =>
        governor.sawOn site conn now seen operation (owner = some operation))
          governor).reconcile site

end Governor

end GwzCore.SetupRetry
