import GwzCore.Lib.FiniteMap

/-!
# The connections of one key

Every connection on a key is in a state that says whether the server may count
it: setting up, connected, closing, or settling for the settle time after the
client disposed of it. A settling connection is gone once its time has passed,
which the table learns only when it is next brought forward.
-/
namespace GwzCore.SetupRetry
open FiniteMap Option

/-- The largest `u64`: times are milliseconds the caller supplies. -/
def u64Max : ℕ := 2 ^ 64 - 1

/-- An addition of times, which saturates. -/
def satAdd (a b : ℕ) : ℕ := min (a + b) u64Max

/-- Names a connection on the key, by the pool's sequence number. -/
abbrev ConnId := ℕ

inductive Phase where
  | settingUp
  | connected
  | closing
  | settling
  | gone
  deriving DecidableEq

/-- What happened to a connection, as its owner saw it. -/
inductive ConnEvent where
  | started (clocked : Bool)
  | connected
  | setupEnded
  | retired
  | closing
  | disposed
  | serverClosed
  deriving DecidableEq

/-- One transition; `source` is none for a connection new to the table. -/
structure Change where
  conn : ConnId
  source : Option Phase
  target : Phase
  deriving DecidableEq

def minSettleMs : ℕ := 250

/-- The settle time, from the smoothed connect time measured on the key. -/
structure Settle where
  srtt : Option ℕ := none
  deriving DecidableEq

namespace Settle

def observeConnect (settle : Settle) (ms : ℕ) : Settle :=
  match settle.srtt with
  | none => ⟨some ms⟩
  | some srtt => ⟨some ((srtt * 7 + ms) / 8)⟩

def ts (settle : Settle) : ℕ :=
  match settle.srtt with
  | none => minSettleMs
  | some srtt => max (satAdd (min (srtt * 2) u64Max) 100) minSettleMs

end Settle

/-- A connection that is not gone. `untilMs` is read only while it settles. -/
structure ConnEntry where
  phase : Phase
  untilMs : ℕ
  clocked : Bool
  deriving DecidableEq

namespace ConnEntry

/-- Whether the connection is still there at `now`: it does not settle, or its
time has not passed. -/
def presentAt (now : ℕ) (entry : ConnEntry) : Bool :=
  entry.phase ≠ .settling || now < entry.untilMs

def isConnected (entry : ConnEntry) : Bool := entry.phase = .connected

def isSettingUp (entry : ConnEntry) : Bool := entry.phase = .settingUp

def windsDown (entry : ConnEntry) : Bool := entry.phase = .closing || entry.phase = .settling

end ConnEntry

/-- Every connection on one key, with its state. -/
structure Table where
  conns : FiniteMap ConnId ConnEntry := ∅
  settle : Settle := {}

namespace Table

variable {table : Table} {conn other : ConnId} {now : ℕ} {event : ConnEvent} {target : Phase}
  {source : Option Phase}

/-- Moves every settling connection whose time has passed to gone. -/
def advance (table : Table) (now : ℕ) : Table :=
  { table with conns := table.conns.filter fun _ entry => entry.presentAt now }

def phase (table : Table) (conn : ConnId) : Option Phase := table.conns[conn]?.map (·.phase)

attribute [local simp] Table.phase

/-- Where `event` takes a connection that is in `source`, if the table has the
transition. A connection discarded before its setup was answered is closed all
the same. -/
def transition : Option Phase → ConnEvent → Option Phase
  | none, .started _ => some .settingUp
  | some .settingUp, .connected => some .connected
  | some .settingUp, .setupEnded => some .gone
  | some .settingUp, .retired => some .settling
  | some .closing, .disposed => some .settling
  | some .connected, .closing => some .closing
  | some .settingUp, .closing => some .closing
  | some .settingUp, .serverClosed => some .gone
  | some .connected, .serverClosed => some .gone
  | some .closing, .serverClosed => some .gone
  | _, _ => none

attribute [local simp] transition

/-- What the connection's entry becomes on entering `target`. -/
def enter (table : Table) (conn : ConnId) (event : ConnEvent) (target : Phase) (now : ℕ) : Table :=
  match event, target with
  | .started clocked, _ =>
    { table with conns := table.conns.insert conn ⟨.settingUp, 0, clocked⟩ }
  | _, .gone => { table with conns := table.conns.erase conn }
  | _, _ =>
    match table.conns[conn]? with
    | none => table
    | some entry =>
      { table with
        conns := table.conns.insert conn
          { entry with phase := target, untilMs := satAdd now table.settle.ts } }

/-- Applies `event` to `conn` at `now`. A transition the table does not have
changes nothing but the time. -/
def apply (table : Table) (conn : ConnId) (event : ConnEvent) (now : ℕ) : Option Change × Table :=
  let table := table.advance now
  match transition (table.phase conn) event with
  | none => (none, table)
  | some target => (some ⟨conn, table.phase conn, target⟩, table.enter conn event target now)

def count (table : Table) (wanted : ConnEntry → Bool) : ℕ := table.conns.countWhere wanted

def ids (table : Table) (wanted : ConnEntry → Bool) : Finset ConnId := table.conns.keysWhere wanted

def connected (table : Table) : ℕ := table.count ConnEntry.isConnected

/-- Setting up, connected, closing or settling. -/
def possible (table : Table) : ℕ := table.count fun _ => true

/-- Setting up, connected or closing. -/
def held (table : Table) : ℕ := table.count fun entry => entry.phase ≠ .settling

/-- No clocked setup in flight, nothing closing, nothing settling. -/
def isQuiet (table : Table) : Bool :=
  table.count (fun entry => (entry.isSettingUp && entry.clocked) || entry.windsDown) = 0

/-- Clocked setups in flight. -/
def setupsInFlight (table : Table) : ℕ :=
  table.count fun entry => entry.isSettingUp && entry.clocked

/-- Every setup in flight, clocked or not. -/
def settingUp (table : Table) : ℕ := table.count ConnEntry.isSettingUp

def isClockedSetup (table : Table) (conn : ConnId) : Bool :=
  match table.conns[conn]? with
  | none => false
  | some entry => entry.isSettingUp && entry.clocked

def settingUpIds (table : Table) : Finset ConnId := table.ids ConnEntry.isSettingUp

def connectedIds (table : Table) : Finset ConnId := table.ids ConnEntry.isConnected

def possibleIds (table : Table) : Finset ConnId := table.ids fun _ => true

def windingDownIds (table : Table) : Finset ConnId := table.ids ConnEntry.windsDown

/-- Whether any of `ids` is still closing or settling. -/
def anyWindingDown (table : Table) (ids : Finset ConnId) : Bool :=
  (table.windingDownIds ∩ ids).Nonempty

lemma get_advance (table : Table) (now : ℕ) (conn : ConnId) :
    (table.advance now).conns[conn]? =
      table.conns[conn]?.filter fun entry => entry.presentAt now :=
  Std.ExtTreeMap.getElem?_filter'

lemma phase_eq_some {phase : Phase} :
    table.phase conn = some phase ↔
      ∃ entry, table.conns[conn]? = some entry ∧ entry.phase = phase := by
  simp

/-- Bringing time forward loses only settling connections. -/
lemma get_advance_of_not_settling {entry : ConnEntry} (hphase : entry.phase ≠ .settling) :
    (table.advance now).conns[conn]? = some entry ↔ table.conns[conn]? = some entry := by
  rw [get_advance, filter_eq_some_iff]
  simp [ConnEntry.presentAt, hphase]

lemma get_of_get_advance {entry : ConnEntry} (h : (table.advance now).conns[conn]? = some entry) :
    table.conns[conn]? = some entry ∧ entry.presentAt now = true := by
  rwa [get_advance, filter_eq_some_iff] at h

lemma isClockedSetup_iff :
    table.isClockedSetup conn = true ↔
      ∃ entry, table.conns[conn]? = some entry ∧ entry.phase = .settingUp ∧
        entry.clocked = true := by
  unfold isClockedSetup
  cases hget : table.conns[conn]? <;> simp [ConnEntry.isSettingUp]

/-- Time passing loses no setup. -/
lemma isClockedSetup_advance (table : Table) (now : ℕ) (conn : ConnId) :
    (table.advance now).isClockedSetup conn = table.isClockedSetup conn := by
  rw [Bool.eq_iff_iff, isClockedSetup_iff, isClockedSetup_iff]
  constructor
  · rintro ⟨entry, hget, hphase, hclocked⟩
    exact ⟨entry, (get_of_get_advance hget).1, hphase, hclocked⟩
  · rintro ⟨entry, hget, hphase, hclocked⟩
    exact ⟨entry, (get_advance_of_not_settling (by simp [hphase])).mpr hget, hphase, hclocked⟩

/-- A transition touches its own connection only. -/
lemma get_enter_of_ne (event : ConnEvent) (target : Phase) (h : conn ≠ other) :
    (table.enter conn event target now).conns[other]? = table.conns[other]? := by
  unfold enter
  split
  · exact get_insert_of_ne _ _ h
  · exact get_erase_of_ne _ h
  · split
    · rfl
    · exact get_insert_of_ne _ _ h

/-- Every transition out of the table starts or continues a connection. -/
lemma transition_started {clocked : Bool} (h : transition source (.started clocked) = some target) :
    source = none ∧ target = .settingUp := by
  cases source with
  | none => exact ⟨rfl, (Option.some.inj h).symm⟩
  | some phase => cases phase <;> simp at h

lemma transition_source
    (h : transition source event = some target) (hevent : ∀ clocked, event ≠ .started clocked) :
    ∃ phase, source = some phase := by
  cases source with
  | some phase => exact ⟨phase, rfl⟩
  | none =>
    cases event with
    | started clocked => exact absurd rfl (hevent clocked)
    | _ => simp at h

/-- A connection's entry after its transition: gone, or in the phase it entered. -/
lemma phase_enter (h : transition (table.phase conn) event = some target) :
    (table.enter conn event target now).phase conn =
      if target = .gone then none else some target := by
  cases event with
  | started =>
    obtain ⟨-, rfl⟩ := transition_started h
    simp [enter, phase]
  | _ =>
    obtain ⟨phase, hphase⟩ := transition_source h (by simp)
    obtain ⟨entry, hentry, -⟩ := phase_eq_some.mp hphase
    cases target <;> simp [enter, hentry]

/-- An event the table has no transition for only brings it forward. -/
lemma apply_of_none (h : (table.apply conn event now).1 = none) :
    (table.apply conn event now).2 = table.advance now := by
  unfold apply at h ⊢
  simp only at h ⊢
  split at h
  · rfl
  · simp at h

lemma apply_change {change : Change} (h : (table.apply conn event now).1 = some change) :
    change.conn = conn ∧ change.source = (table.advance now).phase conn := by
  unfold apply at h
  simp only at h
  split at h
  · simp at h
  · obtain rfl := Option.some.inj h
    exact ⟨rfl, rfl⟩

lemma phase_of_isClockedSetup (h : table.isClockedSetup conn = true) :
    (table.advance now).phase conn = some .settingUp := by
  rw [← isClockedSetup_advance table now conn] at h
  obtain ⟨entry, hget, hphase, -⟩ := isClockedSetup_iff.mp h
  exact phase_eq_some.mpr ⟨entry, hget, hphase⟩

/-- An event changes no other connection's setup. -/
lemma isClockedSetup_apply_of_ne (event : ConnEvent) (now : ℕ) (h : conn ≠ other) :
    (table.apply conn event now).2.isClockedSetup other = table.isClockedSetup other := by
  rw [← isClockedSetup_advance table now other]
  unfold apply
  simp only
  split
  · rfl
  · unfold isClockedSetup
    rw [get_enter_of_ne event _ h]

lemma phase_advance (table : Table) (now : ℕ) {phase : Phase} (h : phase ≠ .settling) :
    (table.advance now).phase conn = some phase ↔ table.phase conn = some phase := by
  rw [phase_eq_some, phase_eq_some]
  constructor
  · rintro ⟨entry, hget, hphase⟩
    exact ⟨entry, (get_of_get_advance hget).1, hphase⟩
  · rintro ⟨entry, hget, hphase⟩
    exact ⟨entry, (get_advance_of_not_settling (by rwa [hphase])).mpr hget, hphase⟩

lemma phase_isSome_of_advance (h : ((table.advance now).phase conn).isSome = true) :
    (table.phase conn).isSome = true := by
  obtain ⟨phase, hphase⟩ := isSome_iff_exists.mp h
  obtain ⟨entry, hget, -⟩ := phase_eq_some.mp hphase
  simp [(get_of_get_advance hget).1]

/-- What is present at a time was present at every earlier one. -/
lemma phase_isSome_advance_of_le {later : ℕ} (hle : now ≤ later)
    (h : ((table.advance later).phase conn).isSome = true) :
    ((table.advance now).phase conn).isSome = true := by
  obtain ⟨phase, hphase⟩ := isSome_iff_exists.mp h
  obtain ⟨entry, hget, -⟩ := phase_eq_some.mp hphase
  obtain ⟨hget, hpresent⟩ := get_of_get_advance hget
  have hnow : entry.presentAt now = true := by
    simp only [ConnEntry.presentAt, Bool.or_eq_true, decide_eq_true_eq] at hpresent ⊢
    exact hpresent.imp_right fun huntil => lt_of_le_of_lt hle huntil
  simp [get_advance, hget, hnow]

lemma phase_apply_of_ne (event : ConnEvent) (now : ℕ) (h : conn ≠ other) :
    (table.apply conn event now).2.phase other = (table.advance now).phase other := by
  unfold apply
  simp only
  split
  · rfl
  · unfold phase
    rw [get_enter_of_ne event _ h]

/-- A change is a transition of the table, and leaves its connection in the phase it
entered. -/
lemma phase_apply_self {change : Change} (h : (table.apply conn event now).1 = some change) :
    transition change.source event = some change.target ∧
      (table.apply conn event now).2.phase conn =
        if change.target = .gone then none else some change.target := by
  unfold apply at h ⊢
  simp only at h ⊢
  split at h
  · simp at h
  · rename_i target htarget
    obtain rfl := Option.some.inj h
    exact ⟨htarget, phase_enter htarget⟩

lemma transition_ne_source {phase : Phase} : transition (some phase) event ≠ some phase := by
  cases phase <;> cases event <;> simp

lemma transition_of_none (h : transition none event = some target) : target = .settingUp := by
  cases event <;> simp_all

lemma advance_advance (table : Table) (now : ℕ) :
    (table.advance now).advance now = table.advance now := by
  have hconns : ((table.advance now).advance now).conns = (table.advance now).conns := by
    apply Std.ExtTreeMap.ext_getElem?
    intro conn
    rw [get_advance, get_advance]
    cases table.conns[conn]? with
    | none => rfl
    | some entry =>
      simp only [filter_some]
      split <;> simp_all
  show Table.mk _ _ = Table.mk _ _
  congr 1

lemma apply_advance (table : Table) (conn : ConnId) (event : ConnEvent) (now : ℕ) :
    (table.advance now).apply conn event now = table.apply conn event now := by
  unfold apply
  rw [advance_advance]

lemma mem_ids {wanted : ConnEntry → Bool} :
    conn ∈ table.ids wanted ↔ ∃ entry, table.conns[conn]? = some entry ∧ wanted entry = true :=
  mem_keysWhere

lemma mem_connectedIds : conn ∈ table.connectedIds ↔ table.phase conn = some .connected := by
  rw [connectedIds, mem_ids, phase_eq_some]
  simp [ConnEntry.isConnected]

lemma mem_settingUpIds : conn ∈ table.settingUpIds ↔ table.phase conn = some .settingUp := by
  rw [settingUpIds, mem_ids, phase_eq_some]
  simp [ConnEntry.isSettingUp]

lemma mem_possibleIds : conn ∈ table.possibleIds ↔ (table.phase conn).isSome = true := by
  rw [possibleIds, mem_ids, phase, isSome_map, isSome_iff_exists]
  simp only [and_true]

/-- No settling connection's time has passed: the table is as if brought forward. -/
def onTime (table : Table) (now : ℕ) : Bool := table.ids (fun entry => !entry.presentAt now) = ∅

lemma phase_isSome_advance_of_onTime (h : table.onTime now = true)
    (hsome : (table.phase conn).isSome = true) :
    ((table.advance now).phase conn).isSome = true := by
  obtain ⟨phase, hphase⟩ := isSome_iff_exists.mp hsome
  obtain ⟨entry, hget, -⟩ := phase_eq_some.mp hphase
  have hpresent : entry.presentAt now = true := by
    by_contra hgone
    have hmem : conn ∈ table.ids fun entry => !entry.presentAt now :=
      mem_ids.mpr ⟨entry, hget, by simpa using hgone⟩
    rw [of_decide_eq_true h] at hmem
    simp at hmem
  simp [get_advance, hget, hpresent]

end Table

end GwzCore.SetupRetry
