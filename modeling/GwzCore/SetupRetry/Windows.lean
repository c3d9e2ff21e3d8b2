import GwzCore.SetupRetry.Table

/-!
# The window of an attempt

Each attempt in flight keeps two sets over its window: the other connections
that were connected throughout, and those the server could have counted at some
time. Both are kept up from the table's transitions, and two more sets do the
same for setups. A window whose connection has ended is frozen and observes no
more.
-/
namespace GwzCore.SetupRetry

/-- Names an attempt; the endpoints use its connection's number. -/
abbrev AttemptId := ℕ

inductive AttemptKind where
  | ordinary
  | probe
  | confirming
  | restore
  | setupProbe
  deriving DecidableEq

namespace AttemptKind

/-- A test uses the key's one test slot. -/
def isTest : AttemptKind → Bool
  | probe | confirming | setupProbe => true
  | ordinary | restore => false

/-- A test of `N`: the setup test is judged against `Ns` only. -/
def isNTest : AttemptKind → Bool
  | probe | confirming => true
  | _ => false

lemma isNTest_of_plain {kind : AttemptKind} (h : kind.isTest = false) : kind.isNTest = false := by
  cases kind <;> simp_all [isNTest, isTest]

end AttemptKind

/-- The connection an attempt is its own. -/
inductive Own where
  /-- A new connection, whose socket connect begins with the window. -/
  | new (conn : ConnId)
  /-- An exchange on a leased connection. -/
  | leased (conn : ConnId)
  deriving DecidableEq

namespace Own

def conn : Own → ConnId
  | new conn => conn
  | leased conn => conn

def isNew : Own → Bool
  | new _ => true
  | leased _ => false

end Own

structure Window where
  kind : AttemptKind
  own : ConnId
  lo : Finset ConnId
  hi : Finset ConnId
  loS : Finset ConnId
  hiS : Finset ConnId
  windingDown : Finset ConnId
  frozen : Bool
  deriving DecidableEq

namespace Window

/-- A window that opens on the table's current state. -/
def opened (kind : AttemptKind) (own : Own) (table : Table) : Window where
  kind
  own := own.conn
  lo := table.connectedIds.erase own.conn
  hi := table.possibleIds.erase own.conn
  loS := table.settingUpIds.erase own.conn
  hiS := table.settingUpIds.erase own.conn
  windingDown := table.windingDownIds.erase own.conn
  frozen := false

/-- A table transition reaches the window, unless it is its own connection's or
the window is frozen. -/
def observe (window : Window) (change : Change) : Window :=
  if window.own = change.conn ∨ window.frozen = true then window
  else
    { window with
      lo := if change.source = some .connected then window.lo.erase change.conn else window.lo
      loS := if change.source = some .settingUp then window.loS.erase change.conn else window.loS
      hiS := if change.target = .settingUp then insert change.conn window.hiS else window.hiS
      hi := if change.target = .gone then window.hi else insert change.conn window.hi
      windingDown :=
        if change.target = .closing ∨ change.target = .settling
        then insert change.conn window.windingDown else window.windingDown }

@[simp] lemma observe_kind (window : Window) (change : Change) :
    (window.observe change).kind = window.kind := by
  unfold observe
  split <;> rfl

end Window

/-- A window at its attempt's result. -/
structure ClosedWindow where
  kind : AttemptKind
  lo : ℕ
  hi : ℕ
  loS : Finset ConnId
  hiS : ℕ
  windingDown : Finset ConnId
  deriving DecidableEq

def Window.close (window : Window) : ClosedWindow where
  kind := window.kind
  lo := window.lo.card
  hi := window.hi.card
  loS := window.loS
  hiS := window.hiS.card
  windingDown := window.windingDown

/-- The windows of the attempts in flight on one key. -/
abbrev Windows := FiniteMap AttemptId Window

namespace Windows

variable {windows : Windows} {attempt other : AttemptId}

/-- Opens `attempt`'s window, unless it already has one. -/
def openWindow (windows : Windows) (attempt : AttemptId) (kind : AttemptKind) (own : Own)
    (table : Table) : Bool × Windows :=
  if windows.contains attempt then (false, windows)
  else (true, windows.insert attempt (Window.opened kind own table))

/-- Reports a table transition to every open window. -/
def observe (windows : Windows) (change : Change) : Windows :=
  windows.map fun _ window => window.observe change

/-- The attempt's connection has ended: its window stops where it is. -/
def freeze (windows : Windows) (attempt : AttemptId) : Windows :=
  match windows[attempt]? with
  | none => windows
  | some window => windows.insert attempt { window with frozen := true }

lemma get_observe (windows : Windows) (change : Change) (attempt : AttemptId) :
    (windows.observe change)[attempt]? =
      windows[attempt]?.map fun window => window.observe change := by
  simp [observe]

lemma get_freeze (windows : Windows) (attempt other : AttemptId) :
    (windows.freeze attempt)[other]? =
      windows[other]?.map fun window =>
        if attempt = other then { window with frozen := true } else window := by
  unfold freeze
  cases hget : windows[attempt]? with
  | none =>
    by_cases heq : attempt = other
    · subst heq
      simp [hget]
    · simp [heq]
  | some window =>
    by_cases heq : attempt = other
    · subst heq
      simp [hget]
    · simp only [heq, if_false, Option.map_id']
      exact FiniteMap.get_insert_of_ne windows _ heq

end Windows

end GwzCore.SetupRetry
