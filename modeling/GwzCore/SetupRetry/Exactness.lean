import GwzCore.SetupRetry.PoolLimit

/-!
# Windows against the history of the table

A window's sets are kept up from the table's transitions, one at a time, and a
settling connection leaves the table only when it is next brought forward. Against
the history of the table, moment by moment from the attempt's begin to its result,
the sets are exact: who was connected throughout, who was there at some time, and
the same for setups. The one proviso is that the window opens on a table brought
forward to its time, which a start without admission does not do.
-/
namespace GwzCore.SetupRetry
open List FiniteMap Table Limit Window

variable {stop : ℕ} {own conn : ConnId} {calls : List TimedCall}

/-! ## One call, seen by one window -/

/-- What a call at `now` does to the table and to one open window. -/
inductive Turn (now : ℕ) (table : Table) (window : Window) : Table → Window → Prop where
  | still (after : Table) (h : after.conns = table.conns) : Turn now table window after window
  | advanced (after : Table) (h : after.conns = (table.advance now).conns) :
      Turn now table window after window
  | event (after : Table) (id : ConnId) (event : ConnEvent)
      (h : after.conns = (table.apply id event now).2.conns) :
      Turn now table window after
        (((table.apply id event now).1.map window.observe).getD window)

namespace Window

variable {window : Window} {change : Change}

lemma observe_own (window : Window) (change : Change) :
    (window.observe change).own = window.own ∧ (window.observe change).frozen = window.frozen := by
  unfold observe
  split <;> exact ⟨rfl, rfl⟩

lemma observe_of_frozen (h : window.frozen = true) (change : Change) :
    window.observe change = window := by
  simp [observe, h]

/-- A change reaches the sets of an open window only at its own connection, if that
is another than the window's. -/
lemma observe_of_ne (h : change.conn ≠ conn) :
    (conn ∈ (window.observe change).lo ↔ conn ∈ window.lo) ∧
      (conn ∈ (window.observe change).hi ↔ conn ∈ window.hi) ∧
      (conn ∈ (window.observe change).loS ↔ conn ∈ window.loS) ∧
      (conn ∈ (window.observe change).hiS ↔ conn ∈ window.hiS) := by
  unfold observe
  split
  · simp
  · refine ⟨?_, ?_, ?_, ?_⟩
    · split <;> simp [Ne.symm h]
    all_goals
      simp only
      split <;> simp [Ne.symm h]

lemma observe_self (hown : window.own ≠ change.conn) (hfrozen : window.frozen = false) :
    (change.conn ∈ (window.observe change).lo ↔
        change.conn ∈ window.lo ∧ change.source ≠ some .connected) ∧
      (change.conn ∈ (window.observe change).hi ↔
        change.conn ∈ window.hi ∨ change.target ≠ .gone) ∧
      (change.conn ∈ (window.observe change).loS ↔
        change.conn ∈ window.loS ∧ change.source ≠ some .settingUp) ∧
      (change.conn ∈ (window.observe change).hiS ↔
        change.conn ∈ window.hiS ∨ change.target = .settingUp) := by
  unfold observe
  rw [if_neg (by simp [hown, hfrozen])]
  refine ⟨?_, ?_, ?_, ?_⟩
  · split <;> simp_all
  all_goals
    simp only
    split <;> simp_all

end Window

/-- What an open window knows of the table as it stands. -/
structure Window.Covers (window : Window) (table : Table) : Prop where
  frozen : window.frozen = false
  lo : ∀ conn ∈ window.lo, conn ≠ window.own ∧ table.phase conn = some .connected
  hi : ∀ conn, conn ≠ window.own → (table.phase conn).isSome = true → conn ∈ window.hi
  hiOwn : window.own ∉ window.hi
  loS : ∀ conn ∈ window.loS, conn ≠ window.own ∧ table.phase conn = some .settingUp
  hiS : ∀ conn, conn ≠ window.own → table.phase conn = some .settingUp → conn ∈ window.hiS
  hiSOwn : window.own ∉ window.hiS

/-- The window after a call, against the table after it, at one connection. -/
structure Window.Follows (now : ℕ) (window after : Window) (table : Table)
    (conn : ConnId) : Prop where
  lo : conn ∈ after.lo ↔ conn ∈ window.lo ∧ table.phase conn = some .connected
  hi : conn ∈ after.hi ↔
    conn ∈ window.hi ∨ (conn ≠ window.own ∧ ((table.advance now).phase conn).isSome = true)
  loS : conn ∈ after.loS ↔ conn ∈ window.loS ∧ table.phase conn = some .settingUp
  hiS : conn ∈ after.hiS ↔
    conn ∈ window.hiS ∨ (conn ≠ window.own ∧ table.phase conn = some .settingUp)
  covers : conn ≠ window.own → (table.phase conn).isSome = true → conn ∈ after.hi

namespace Turn

variable {now : ℕ} {table after : Table} {window window' : Window}

lemma phase_eq {a b : Table} (h : a.conns = b.conns) (conn : ConnId) :
    a.phase conn = b.phase conn := by
  simp [phase, h]

section

variable (hcovers : window.Covers table)
include hcovers

/-- A connection that is as it was, or has only settled, tells the window nothing new. -/
lemma follows_of_phase (hphase : ∀ phase, phase ≠ .settling →
      (after.phase conn = some phase ↔ table.phase conn = some phase))
    (hsome : (after.phase conn).isSome = true → (table.phase conn).isSome = true) :
    window.Follows now window after conn where
  lo := by
    rw [hphase .connected (by simp)]
    exact ⟨fun hmem => ⟨hmem, (hcovers.lo conn hmem).2⟩, And.left⟩
  hi := by
    refine ⟨.inl, ?_⟩
    rintro (hmem | ⟨hown, hpresent⟩)
    · exact hmem
    · exact hcovers.hi conn hown (hsome (phase_isSome_of_advance hpresent))
  loS := by
    rw [hphase .settingUp (by simp)]
    exact ⟨fun hmem => ⟨hmem, (hcovers.loS conn hmem).2⟩, And.left⟩
  hiS := by
    rw [hphase .settingUp (by simp)]
    refine ⟨.inl, ?_⟩
    rintro (hmem | ⟨hown, hsetting⟩)
    · exact hmem
    · exact hcovers.hiS conn hown hsetting
  covers hown hpresent := hcovers.hi conn hown (hsome hpresent)

lemma follows_of_advance (hphase : after.phase conn = (table.advance now).phase conn) :
    window.Follows now window after conn := by
  refine follows_of_phase hcovers (fun phase hne => ?_) fun hsome => ?_
  · rw [hphase, phase_advance table now hne]
  · rw [hphase] at hsome
    exact phase_isSome_of_advance hsome

/-- The connection of a change, seen by a window that is another's. -/
lemma follows_of_change {id : ConnId} {event : ConnEvent}
    {change : Change} (hchange : (table.apply id event now).1 = some change)
    (hafter : after.phase id = (table.apply id event now).2.phase id) (hown : window.own ≠ id) :
    window.Follows now (window.observe change) after id := by
  obtain ⟨hid, hsource⟩ := apply_change hchange
  obtain ⟨htransition, hphase⟩ := phase_apply_self hchange
  subst hid
  obtain ⟨hlo, hhi, hloS, hhiS⟩ := observe_self hown hcovers.frozen
  rw [← hafter] at hphase
  have hwas : ∀ phase, phase ≠ .settling → table.phase change.conn = some phase →
      change.source = some phase := fun phase hne hbefore =>
    hsource.trans ((phase_advance table now hne).mpr hbefore)
  have hentered : ∀ phase, after.phase change.conn = some phase → change.target = phase := by
    intro phase hnow
    rw [hphase] at hnow
    split at hnow
    · simp at hnow
    · exact Option.some.inj hnow
  have hthere : (after.phase change.conn).isSome = true ↔ change.target ≠ .gone := by
    rw [hphase]
    split
    · rename_i hgone
      simp [hgone]
    · rename_i hstays
      simp [hstays]
  -- what was there is counted already; what is new is setting up, so present
  have hnew : change.target ≠ .gone → change.conn ∈ window.hi ∨
      ((after.advance now).phase change.conn).isSome = true := by
    intro hstays
    cases hbefore : change.source with
    | none =>
      rw [hbefore] at htransition
      have hsetting := transition_of_none htransition
      have hnow : after.phase change.conn = some .settingUp := by
        rw [hphase, if_neg hstays, hsetting]
      rw [(phase_advance after now (by simp)).mpr hnow]
      exact .inr rfl
    | some phase =>
      have hsome : ((table.advance now).phase change.conn).isSome = true := by
        rw [← hsource, hbefore]
        rfl
      exact .inl (hcovers.hi change.conn (Ne.symm hown) (phase_isSome_of_advance hsome))
  -- what has been in a phase throughout has changed from it to another
  have hthrough : ∀ (low : Finset ConnId) phase, phase ≠ .settling →
      (∀ conn ∈ low, conn ≠ window.own ∧ table.phase conn = some phase) →
      (change.conn ∈ low ∧ change.source ≠ some phase ↔
        change.conn ∈ low ∧ after.phase change.conn = some phase) := by
    refine fun low phase hne hlow => and_congr_right fun hmem => ?_
    have hbefore := hwas phase hne (hlow _ hmem).2
    refine ⟨absurd hbefore, fun hnow => ?_⟩
    rw [hbefore, hentered phase hnow] at htransition
    exact absurd htransition transition_ne_source
  refine ⟨?_, ?_, ?_, ?_, ?_⟩
  · rw [hlo]
    exact hthrough _ _ (by simp) hcovers.lo
  · rw [hhi]
    constructor
    · rintro (hmem | hstays)
      · exact .inl hmem
      · exact (hnew hstays).imp_right fun hpresent => ⟨Ne.symm hown, hpresent⟩
    · rintro (hmem | ⟨-, hpresent⟩)
      · exact .inl hmem
      · exact .inr (hthere.mp (phase_isSome_of_advance hpresent))
  · rw [hloS]
    exact hthrough _ _ (by simp) hcovers.loS
  · rw [hhiS]
    constructor
    · rintro (hmem | hsetting)
      · exact .inl hmem
      · exact .inr ⟨Ne.symm hown, by rw [hphase, hsetting, if_neg (by simp)]⟩
    · rintro (hmem | ⟨-, hsetting⟩)
      · exact .inl hmem
      · exact .inr (hentered .settingUp hsetting)
  · intro _ hpresent
    exact hhi.mpr (.inr (hthere.mp hpresent))

/-- A window whose own connection changed is as it was, and so is what it must know. -/
lemma follows_own : window.Follows now window after window.own where
  lo := ⟨fun hmem => absurd rfl (hcovers.lo _ hmem).1, fun h => absurd rfl (hcovers.lo _ h.1).1⟩
  hi := by simp [hcovers.hiOwn]
  loS := ⟨fun hmem => absurd rfl (hcovers.loS _ hmem).1, fun h => absurd rfl (hcovers.loS _ h.1).1⟩
  hiS := by simp [hcovers.hiSOwn]
  covers hown := absurd rfl hown

end

/-- Every call leaves the window as the table after it says. -/
lemma follows (h : Turn now table window after window') (hcovers : window.Covers table) :
    window'.own = window.own ∧ window'.frozen = false ∧
      ∀ conn, window.Follows now window' after conn := by
  cases h with
  | still h =>
    refine ⟨rfl, hcovers.frozen, fun conn => follows_of_phase hcovers (fun phase _ => ?_) ?_⟩
    · rw [phase_eq h]
    · rw [phase_eq h]
      exact id
  | advanced h =>
    exact ⟨rfl, hcovers.frozen, fun conn => follows_of_advance hcovers (phase_eq h conn)⟩
  | event id event h =>
    cases hchange : (table.apply id event now).1 with
    | none =>
      refine ⟨rfl, hcovers.frozen, fun conn => follows_of_advance hcovers ?_⟩
      rw [phase_eq h, apply_of_none hchange]
    | some change =>
      have hid := (apply_change hchange).1
      obtain ⟨hown, hfrozen⟩ := observe_own window change
      refine ⟨hown, hfrozen.trans hcovers.frozen, fun conn => ?_⟩
      simp only [Option.map_some, Option.getD_some]
      by_cases hself : id = conn
      · subst hself
        by_cases hwindow : window.own = id
        · have hsame : window.observe change = window := by simp [observe, hwindow, hid]
          rw [hsame, ← hwindow]
          exact follows_own hcovers
        · exact follows_of_change hcovers hchange (phase_eq h id) hwindow
      · have hother := window.observe_of_ne (hid.trans_ne hself)
        have hphase : after.phase conn = (table.advance now).phase conn := by
          rw [phase_eq h, phase_apply_of_ne event now hself]
        have hkept := follows_of_advance hcovers hphase
        exact ⟨hother.1.trans hkept.lo, hother.2.1.trans hkept.hi, hother.2.2.1.trans hkept.loS,
          hother.2.2.2.trans hkept.hiS, fun hne hsome => hother.2.1.mpr (hkept.covers hne hsome)⟩

/-- The window goes on knowing the table as it stands. -/
lemma covers (h : Turn now table window after window') (hcovers : window.Covers table) :
    window'.Covers after := by
  obtain ⟨hown, hfrozen, hfollows⟩ := h.follows hcovers
  refine ⟨hfrozen, ?_, ?_, ?_, ?_, ?_, ?_⟩ <;> rw [hown]
  · exact fun conn hmem => ((hfollows conn).lo.mp hmem).imp_left fun h => (hcovers.lo conn h).1
  · exact fun conn => (hfollows conn).covers
  · rw [(hfollows window.own).hi]
    simp [hcovers.hiOwn]
  · exact fun conn hmem => ((hfollows conn).loS.mp hmem).imp_left fun h => (hcovers.loS conn h).1
  · exact fun conn hne hphase => (hfollows conn).hiS.mpr (.inr ⟨hne, hphase⟩)
  · rw [(hfollows window.own).hiS]
    simp [hcovers.hiSOwn]

/-- A call may bring the table forward before the rest of it. -/
lemma of_advance (h : Turn now (table.advance now) window after window') :
    Turn now table window after window' := by
  cases h with
  | still h => exact .advanced _ h
  | advanced h =>
    rw [advance_advance] at h
    exact .advanced _ h
  | event id event h =>
    rw [apply_advance] at h ⊢
    exact .event _ id event h

lemma of_frozen (h : Turn now table window after window') (hfrozen : window.frozen = true) :
    window' = window := by
  cases h with
  | still | advanced => rfl
  | event id event =>
    cases (table.apply id event now).1 with
    | none => rfl
    | some change => exact observe_of_frozen hfrozen change

end Turn

/-- A call that ends the attempt's window: its result, or the freeze at its
connection's end. -/
def Call.endsWindow (attempt : AttemptId) : Call → Bool
  | .result other _ => other = attempt
  | .freeze other => other = attempt
  | _ => false

attribute [local simp] Call.endsWindow

/-- The attempt a call begins, if it succeeds, and its connection. -/
def Call.begins : Call → Option (AttemptId × Own)
  | .beginAttempt attempt _ _ own _ => some (attempt, own)
  | .beginArmed attempt own _ => some (attempt, own)
  | .admitAttempt attempt _ own _ => some (attempt, own)
  | _ => none

attribute [local simp] Call.begins

namespace Limit

variable {C : ℕ} {limit : Limit C} {attempt : AttemptId} {now : ℕ} {window : Window}

/-- The attempt's window is open after a call, and has taken its turn. -/
def Turns (limit after : Limit C) (attempt : AttemptId) (window : Window) (now : ℕ) : Prop :=
  ∃ window', after.windows[attempt]? = some window' ∧
    Turn now limit.table window after.table window'

section
variable {after : Limit C} (hwindow : limit.windows[attempt]? = some window)
  (hwindows : after.windows[attempt]? = limit.windows[attempt]?)
include hwindow hwindows

lemma turns_of_still (htable : after.table.conns = limit.table.conns) :
    Turns limit after attempt window now :=
  ⟨window, hwindows.trans hwindow, .still _ htable⟩

lemma turns_of_advance (htable : after.table = limit.table.advance now) :
    Turns limit after attempt window now :=
  ⟨window, hwindows.trans hwindow, .advanced _ (by rw [htable])⟩

end

lemma windows_conn (limit : Limit C) (id : ConnId) (event : ConnEvent) (now : ℕ)
    (attempt : AttemptId) :
    (limit.conn id event now).windows[attempt]? = limit.windows[attempt]?.map fun window =>
      ((limit.table.apply id event now).1.map window.observe).getD window := by
  unfold conn
  cases (limit.table.apply id event now).1 with
  | none => simp [flushNotes]
  | some change =>
    have hwindows : (setupChanged { limit with
        table := (limit.table.apply id event now).2
        windows := limit.windows.observe change } change now).windows =
          limit.windows.observe change :=
      (frame_setupWindowResolved _ now).windows
    simp [flushNotes, hwindows, Windows.get_observe]

lemma turns_conn (hwindow : limit.windows[attempt]? = some window) (id : ConnId) (event : ConnEvent)
    (now : ℕ) : Turns limit (limit.conn id event now) attempt window now := by
  refine ⟨_, ?_, .event _ id event (by rw [conn_table])⟩
  rw [windows_conn, hwindow]
  rfl

/-- A begin is of another attempt, or finds this one in flight and changes nothing. -/
lemma turns_beginAttempt (hwindow : limit.windows[attempt]? = some window) (other : AttemptId)
    (kind : AttemptKind) (target : ℕ) (own : Own) (clocked : Bool) (now : ℕ) :
    Turns limit (limit.beginAttempt other kind target own clocked now).2 attempt window now := by
  rcases beginAttempt_cases limit other kind target own clocked now with heq | ⟨hfree, hopened⟩
  · rw [heq]
    exact turns_of_still hwindow rfl rfl
  · have hne : other ≠ attempt := by
      rintro rfl
      simp [hfree.window] at hwindow
    have hkept :
        (limit.opened other kind target own).windows[attempt]? = limit.windows[attempt]? := by
      rw [opened_windows, get_insert_of_ne _ _ hne]
    rcases hopened with heq | ⟨conn, -, heq⟩
    · rw [heq]
      exact turns_of_still hwindow hkept (by rw [opened_table])
    · rw [heq]
      have hturns := turns_conn (hkept.trans hwindow) conn (.started clocked) now
      unfold Turns at hturns ⊢
      rwa [opened_table] at hturns

lemma gateOpen_table (limit : Limit C) (now : ℕ) :
    (limit.gateOpen now).2.windows = limit.windows ∧
      (limit.gateOpen now).2.table = limit.table.advance now := by
  unfold gateOpen
  simp only
  split
  · exact ⟨rfl, rfl⟩
  · split <;> exact ⟨rfl, rfl⟩

lemma admitted_table (limit : Limit C) (start : Start) (own : Own) (now : ℕ) :
    (limit.admitted start own now).2.windows = limit.windows ∧
      (limit.admitted start own now).2.table = limit.table.advance now := by
  cases start with
  | ordinary =>
    unfold admitted
    cases own.isNew with
    | false => exact ⟨rfl, rfl⟩
    | true => exact gateOpen_table limit now
  | _ => exact ⟨rfl, rfl⟩

lemma closesSuppressed_table (limit : Limit C) (now : ℕ) :
    (limit.closesSuppressed now).2.windows = limit.windows ∧
      (limit.closesSuppressed now).2.table = limit.table.advance now := by
  unfold closesSuppressed testDue
  simp only
  split <;> exact ⟨rfl, rfl⟩

section

variable (hwindow : limit.windows[attempt]? = some window)
include hwindow

lemma turns_admitAttempt (other : AttemptId)
    (start : Start) (own : Own) (clocked : Bool) (now : ℕ) :
    Turns limit (limit.admitAttempt other start own clocked now).2 attempt window now := by
  obtain ⟨hwindows, htable⟩ := admitted_table limit start own now
  unfold admitAttempt
  split
  · exact turns_of_still hwindow rfl rfl
  · generalize limit.admitted start own now = admitted at hwindows htable ⊢
    obtain ⟨found, after⟩ := admitted
    cases found with
    | none => exact turns_of_advance hwindow (by rw [hwindows]) htable
    | some found =>
      have hkept : after.windows[attempt]? = some window := by rw [hwindows, hwindow]
      obtain ⟨window', hafter, hturn⟩ :=
        turns_beginAttempt hkept other found.1 found.2 own clocked now
      rw [htable] at hturn
      exact ⟨window', hafter, hturn.of_advance⟩

lemma turns_beginArmed (other : AttemptId) (own : Own) (clocked : Bool) (now : ℕ) :
    Turns limit (limit.beginArmed other own clocked now).2 attempt window now := by
  have hkept : ({ limit with armed := none } : Limit C).windows[attempt]? = some window := hwindow
  unfold beginArmed takeArmed
  cases limit.armed with
  | none | some => exact turns_beginAttempt hkept other _ _ own clocked now

lemma turns_armTest (carrierFinal : Bool) (now : ℕ) :
    Turns limit (limit.armTest carrierFinal now).2 attempt window now := by
  unfold armTest
  simp only
  split <;> exact turns_of_advance hwindow rfl rfl

lemma turns_disarm (arm now : ℕ) : Turns limit (limit.disarm arm) attempt window now := by
  unfold disarm
  split
  · exact turns_of_still hwindow rfl rfl
  · split
    · split <;> exact turns_of_still hwindow rfl rfl
    · exact turns_of_still hwindow rfl rfl

lemma turns_result {other : AttemptId} (hne : other ≠ attempt) (outcome : Outcome) (now : ℕ) :
    Turns limit (limit.result other outcome now).2 attempt window now := by
  rcases result_cases limit other outcome now with
    ⟨-, heq⟩ | ⟨-, -, heq⟩ | ⟨judged, stored, -, -, heq⟩
  · rw [heq]
    exact turns_of_advance hwindow rfl rfl
  · rw [heq]
    exact turns_of_advance hwindow (get_erase_of_ne _ hne) rfl
  · rw [heq]
    have hframe := frame_judged limit other judged stored outcome now
    refine turns_of_advance hwindow ?_ hframe.table
    simp only [hframe.windows]
    exact get_erase_of_ne _ hne

lemma turns_setDemand (needingNew nonFinal now : ℕ) :
    Turns limit (limit.setDemand needingNew nonFinal now) attempt window now := by
  unfold setDemand
  simp only
  split <;> exact turns_of_still hwindow rfl rfl

lemma turns_recovered (now : ℕ) : Turns limit (limit.recovered now) attempt window now := by
  unfold recovered
  simp only
  split
  · exact turns_of_still hwindow rfl rfl
  · split
    · exact turns_of_still hwindow rfl rfl
    · exact turns_of_advance hwindow rfl rfl

/-- The step lemma: every call that does not end the window is a turn of it. -/
lemma turns_step (timed : TimedCall) (hends : timed.call.endsWindow attempt = false) :
    Turns limit (limit.step timed) attempt window timed.now := by
  obtain ⟨call, now⟩ := timed
  cases call with
  | conn id event => exact turns_conn hwindow id event now
  | connectTime | takeArmed | beginOutage | takeHold | restoreHold | idleDiscarded | down
  | drainNotes =>
    exact turns_of_still hwindow rfl rfl
  | gateOpen | admitsOrdinary =>
    obtain ⟨hwindows, htable⟩ := gateOpen_table limit now
    exact turns_of_advance hwindow (congrArg (·[attempt]?) hwindows) htable
  | admitsFirstExchange | admitsContinuing | testDue | setupTest | setHold | tick =>
    exact turns_of_advance hwindow rfl rfl
  | closesSuppressed =>
    obtain ⟨hwindows, htable⟩ := closesSuppressed_table limit now
    exact turns_of_advance hwindow (congrArg (·[attempt]?) hwindows) htable
  | admitAttempt other start own clocked =>
    exact turns_admitAttempt hwindow other start own clocked now
  | beginAttempt other kind target own clocked =>
    exact turns_beginAttempt hwindow other kind target own clocked now
  | beginArmed other own clocked => exact turns_beginArmed hwindow other own clocked now
  | armTest carrierFinal => exact turns_armTest hwindow carrierFinal now
  | disarm arm => exact turns_disarm hwindow arm now
  | freeze other =>
    have hne : other ≠ attempt := by simpa using hends
    refine turns_of_still hwindow ?_ rfl
    simp [step, freeze, Windows.get_freeze, if_neg hne]
  | result other outcome =>
    exact turns_result hwindow (by simpa using hends) outcome now
  | setDemand needingNew nonFinal => exact turns_setDemand hwindow needingNew nonFinal now
  | observedSuccess =>
    have hframe := frame_observedSuccess limit now
    exact turns_of_advance hwindow (congrArg (·[attempt]?) hframe.windows) hframe.table
  | recovered => exact turns_recovered hwindow now

end

/-! ## Views and moments -/

/-- The table after each call, with the call's time. -/
def views (limit : Limit C) : List TimedCall → List (ℕ × Table)
  | [] => []
  | timed :: rest => (timed.now, (limit.step timed).table) :: views (limit.step timed) rest

lemma views_concat (limit : Limit C) (calls : List TimedCall) (timed : TimedCall) :
    views limit (calls ++ [timed]) =
      views limit calls ++ [(timed.now, ((Steps.run step limit calls).step timed).table)] := by
  induction calls generalizing limit with
  | nil => rfl
  | cons first rest ih => simp [views, ih]

lemma times_views (limit : Limit C) (calls : List TimedCall) :
    (views limit calls).map Prod.fst = calls.map (·.now) := by
  induction calls generalizing limit with
  | nil => rfl
  | cons first rest ih => simp [views, ih]

/-- The table as it was at some time of the views, which end at `stop`: one of them,
brought forward to a time between its own and the next one's. -/
def AtMoment (views : List (ℕ × Table)) (stop : ℕ) (table : Table) : Prop :=
  ∃ before view after time, views = before ++ view :: after ∧ view.1 ≤ time ∧
    time ≤ (after.head?.map Prod.fst).getD stop ∧ table = view.2.advance time

section

variable {views : List (ℕ × Table)} (hsorted : (views.map Prod.fst ++ [stop]).Pairwise (· ≤ ·))
include hsorted

lemma atMoment_of_mem {view : ℕ × Table} (hview : view ∈ views) :
    AtMoment views stop (view.2.advance view.1) := by
  obtain ⟨before, after, rfl⟩ := append_of_mem hview
  refine ⟨before, view, after, view.1, rfl, le_refl _, ?_, rfl⟩
  cases after with
  | nil => simpa using (pairwise_append.mp hsorted).2.2 view.1 (by simp) stop (by simp)
  | cons next =>
    simp only [map_append, map_cons, append_assoc, cons_append] at hsorted
    exact (pairwise_cons.mp (pairwise_append.mp hsorted).2.1).1 next.1 (by simp)

/-- A connection is in a phase at every moment if it is at every view. -/
lemma forall_moment_iff {phase : Phase} (hphase : phase ≠ .settling) :
    (∀ table, AtMoment views stop table → table.phase conn = some phase) ↔
      ∀ view ∈ views, view.2.phase conn = some phase := by
  constructor
  · intro h view hview
    exact (phase_advance _ _ hphase).mp (h _ (atMoment_of_mem hsorted hview))
  · rintro h _ ⟨before, view, after, time, rfl, -, -, rfl⟩
    exact (phase_advance _ _ hphase).mpr (h view (by simp))

lemma exists_moment_iff {phase : Phase} (hphase : phase ≠ .settling) :
    (∃ table, AtMoment views stop table ∧ table.phase conn = some phase) ↔
      ∃ view ∈ views, view.2.phase conn = some phase := by
  constructor
  · rintro ⟨_, ⟨before, view, after, time, rfl, -, -, rfl⟩, h⟩
    exact ⟨view, by simp, (phase_advance _ _ hphase).mp h⟩
  · rintro ⟨view, hview, h⟩
    exact ⟨_, atMoment_of_mem hsorted hview, (phase_advance _ _ hphase).mpr h⟩

/-- What is there at some moment is there at the start of a view. -/
lemma exists_present_iff :
    (∃ table, AtMoment views stop table ∧ (table.phase conn).isSome = true) ↔
      ∃ view ∈ views, ((view.2.advance view.1).phase conn).isSome = true := by
  constructor
  · rintro ⟨_, ⟨before, view, after, time, rfl, hle, -, rfl⟩, h⟩
    exact ⟨view, by simp, phase_isSome_advance_of_le hle h⟩
  · rintro ⟨view, hview, h⟩
    exact ⟨_, atMoment_of_mem hsorted hview, h⟩

end

/-! ## A window over its views -/

/-- The window's sets, against the views of the table since it opened. -/
structure Tracks (own : ConnId) (views : List (ℕ × Table)) (window : Window)
    (table : Table) : Prop where
  covers : window.Covers table
  owner : window.own = own
  lo : ∀ conn, conn ∈ window.lo ↔
    conn ≠ own ∧ ∀ view ∈ views, view.2.phase conn = some .connected
  hi : ∀ conn, conn ∈ window.hi ↔
    conn ≠ own ∧ ∃ view ∈ views, ((view.2.advance view.1).phase conn).isSome = true
  loS : ∀ conn, conn ∈ window.loS ↔
    conn ≠ own ∧ ∀ view ∈ views, view.2.phase conn = some .settingUp
  hiS : ∀ conn, conn ∈ window.hiS ↔
    conn ≠ own ∧ ∃ view ∈ views, view.2.phase conn = some .settingUp

lemma Tracks.turn {views : List (ℕ × Table)} {window window' : Window} {table after : Table}
    {now : ℕ} (h : Tracks own views window table) (hturn : Turn now table window after window') :
    Tracks own (views ++ [(now, after)]) window' after := by
  obtain ⟨hown, -, hfollows⟩ := hturn.follows h.covers
  refine ⟨hturn.covers h.covers, hown.trans h.owner, fun conn => ?_, fun conn => ?_, fun conn => ?_,
    fun conn => ?_⟩
  all_goals simp only [mem_append, mem_singleton, or_imp, forall_and, forall_eq,
    or_and_right, exists_or, exists_eq_left]
  · rw [(hfollows conn).lo, h.lo, and_assoc]
  · rw [(hfollows conn).hi, h.hi, h.owner, and_or_left]
  · rw [(hfollows conn).loS, h.loS, and_assoc]
  · rw [(hfollows conn).hiS, h.hiS, h.owner, and_or_left]

/-- The run lemma: a window that no call ends tracks the views of the calls. -/
lemma Tracks.run {seen : List (ℕ × Table)} (hwindow : limit.windows[attempt]? = some window)
    (h : Tracks own seen window limit.table)
    (hends : ∀ timed ∈ calls, timed.call.endsWindow attempt = false) :
    ∃ window', (Steps.run step limit calls).windows[attempt]? = some window' ∧
      Tracks own (seen ++ views limit calls) window' (Steps.run step limit calls).table := by
  induction calls using List.reverseRecOn with
  | nil => exact ⟨window, hwindow, by simpa [views] using h⟩
  | append_singleton calls timed ih =>
    obtain ⟨before, hbefore, htracks⟩ := ih fun other hother => hends other (by simp [hother])
    obtain ⟨window', hafter, hturn⟩ := turns_step hbefore timed (hends timed (by simp))
    rw [Steps.run_concat]
    refine ⟨window', hafter, ?_⟩
    rw [views_concat, ← append_assoc]
    exact htracks.turn hturn

/-- A frozen window stays as it is until its result. -/
lemma frozen_run (hwindow : limit.windows[attempt]? = some window) (hfrozen : window.frozen = true)
    (hresult : ∀ timed ∈ calls, ∀ outcome, timed.call ≠ .result attempt outcome) :
    (Steps.run step limit calls).windows[attempt]? = some window := by
  induction calls using List.reverseRecOn with
  | nil => exact hwindow
  | append_singleton calls timed ih =>
    have hbefore := ih fun other hother => hresult other (by simp [hother])
    rw [Steps.run_concat]
    cases hends : timed.call.endsWindow attempt with
    | false =>
      obtain ⟨window', hafter, hturn⟩ := turns_step hbefore timed hends
      rw [hafter, hturn.of_frozen hfrozen]
    | true =>
      obtain ⟨call, now⟩ := timed
      cases call with
      | freeze other =>
        have heq : other = attempt := by simpa using hends
        subst heq
        simp only [step, freeze, Windows.get_freeze, hbefore, Option.map_some, if_true]
        rw [← hfrozen]
      | result other outcome =>
        have heq : other = attempt := by simpa using hends
        subst heq
        exact absurd rfl (hresult ⟨.result other outcome, now⟩ (by simp) outcome)
      | _ => simp at hends

/-! ## A window's opening -/

/-- The table a window opened on, against the one the call found and the one it left. -/
structure OpenedOn (own : ConnId) (now : ℕ) (found opened left : Table) : Prop where
  phase : ∀ conn phase, phase ≠ .settling →
    (opened.phase conn = some phase ↔ found.phase conn = some phase)
  present : ∀ conn, (opened.phase conn).isSome = true ↔
    ((found.advance now).phase conn).isSome = true
  leftPhase : ∀ conn phase, conn ≠ own → phase ≠ .settling →
    (left.phase conn = some phase ↔ opened.phase conn = some phase)
  leftPresent : ∀ conn, conn ≠ own → (left.phase conn).isSome = true →
    (opened.phase conn).isSome = true

lemma OpenedOn.tracks {own : Own} {now : ℕ} {found opened left : Table} (kind : AttemptKind)
    (h : OpenedOn own.conn now found opened left) :
    Tracks own.conn [(now, found), (now, left)] (Window.opened kind own opened) left := by
  have hphases : ∀ conn phase, conn ≠ own.conn → phase ≠ .settling →
      (opened.phase conn = some phase ↔
        found.phase conn = some phase ∧ left.phase conn = some phase) := by
    intro conn phase hne hphase
    rw [h.leftPhase conn phase hne hphase, h.phase conn phase hphase]
    tauto
  refine ⟨?_, rfl, ?_, ?_, ?_, ?_⟩
  · refine ⟨rfl, ?_, ?_, by simp [Window.opened], ?_, ?_, by simp [Window.opened]⟩
    · intro conn hmem
      obtain ⟨hne, hmem⟩ := Finset.mem_erase.mp hmem
      exact ⟨hne, (h.leftPhase conn .connected hne (by simp)).mpr (mem_connectedIds.mp hmem)⟩
    · intro conn hne hsome
      exact Finset.mem_erase.mpr ⟨hne, mem_possibleIds.mpr (h.leftPresent conn hne hsome)⟩
    · intro conn hmem
      obtain ⟨hne, hmem⟩ := Finset.mem_erase.mp hmem
      exact ⟨hne, (h.leftPhase conn .settingUp hne (by simp)).mpr (mem_settingUpIds.mp hmem)⟩
    · intro conn hne hsetting
      refine Finset.mem_erase.mpr ⟨hne, mem_settingUpIds.mpr ?_⟩
      exact (h.leftPhase conn .settingUp hne (by simp)).mp hsetting
  · intro conn
    simp only [Window.opened, Finset.mem_erase, mem_connectedIds, mem_cons, not_mem_nil,
      or_false, forall_eq_or_imp, forall_eq]
    exact and_congr_right fun hne => hphases conn .connected hne (by simp)
  · intro conn
    simp only [Window.opened, Finset.mem_erase, mem_possibleIds, mem_cons, not_mem_nil,
      or_false, exists_eq_or_imp, exists_eq_left]
    refine and_congr_right fun hne => ?_
    rw [h.present]
    refine ⟨.inl, ?_⟩
    rintro (hpresent | hpresent)
    · exact hpresent
    · exact (h.present conn).mp (h.leftPresent conn hne (phase_isSome_of_advance hpresent))
  · intro conn
    simp only [Window.opened, Finset.mem_erase, mem_settingUpIds, mem_cons, not_mem_nil,
      or_false, forall_eq_or_imp, forall_eq]
    exact and_congr_right fun hne => hphases conn .settingUp hne (by simp)
  · intro conn
    simp only [Window.opened, Finset.mem_erase, mem_settingUpIds, mem_cons, not_mem_nil,
      or_false, exists_eq_or_imp, exists_eq_left]
    refine and_congr_right fun hne => ?_
    rw [h.leftPhase conn .settingUp hne (by simp), h.phase conn .settingUp (by simp), or_self]

/-- A window opens on the table as it stands or as it is brought forward, and its own
connection's start is all that follows. -/
lemma openedOn_of_begun {found opened left : Table} {event : ConnEvent}
    (hopened : opened = found.advance now ∨ opened.conns = found.conns ∧ found.onTime now = true)
    (hleft : left = opened ∨ left = (opened.apply own event now).2) :
    OpenedOn own now found opened left := by
  have hleftAdvance : ∀ conn, conn ≠ own → left.phase conn = opened.phase conn ∨
      left.phase conn = (opened.advance now).phase conn := by
    intro conn hne
    rcases hleft with rfl | rfl
    · exact .inl rfl
    · exact .inr (phase_apply_of_ne event now (Ne.symm hne))
  refine ⟨?_, ?_, ?_, ?_⟩
  · intro conn phase hphase
    rcases hopened with rfl | ⟨hconns, -⟩
    · exact phase_advance found now hphase
    · rw [Turn.phase_eq hconns]
  · intro conn
    rcases hopened with rfl | ⟨hconns, hontime⟩
    · rfl
    · rw [Turn.phase_eq hconns]
      exact ⟨phase_isSome_advance_of_onTime hontime, phase_isSome_of_advance⟩
  · intro conn phase hne hphase
    rcases hleftAdvance conn hne with heq | heq
    · rw [heq]
    · rw [heq, phase_advance opened now hphase]
  · intro conn hne hsome
    rcases hleftAdvance conn hne with heq | heq
    · rwa [heq] at hsome
    · rw [heq] at hsome
      exact phase_isSome_of_advance hsome

/-- A begin that is not admitted first finds no settling connection whose time has
passed. -/
def opensOnTime (limit : Limit C) (timed : TimedCall) : Bool :=
  match timed.call with
  | .admitAttempt _ _ _ _ => true
  | _ => limit.table.onTime timed.now

/-- The window of a begun attempt, and the table after its connection has started. -/
lemma begun_window {kind : AttemptKind} {target : ℕ} {own : Own} {clocked : Bool}
    (hfree : limit.windows[attempt]? = none)
    (hwindow : (limit.beginAttempt attempt kind target own clocked now).2.windows[attempt]? =
      some window) :
    window = Window.opened kind own limit.table ∧
      ((limit.beginAttempt attempt kind target own clocked now).2.table = limit.table ∨
        (limit.beginAttempt attempt kind target own clocked now).2.table =
          (limit.table.apply own.conn (.started clocked) now).2) := by
  have hopened : (limit.opened attempt kind target own).windows[attempt]? =
      some (Window.opened kind own limit.table) := by
    simp
  rcases beginAttempt_cases limit attempt kind target own clocked now with
    heq | ⟨-, heq | ⟨conn, rfl, heq⟩⟩
  · rw [heq, hfree] at hwindow
    simp at hwindow
  · rw [heq] at hwindow ⊢
    rw [hopened] at hwindow
    exact ⟨(Option.some.inj hwindow).symm, .inl (by rw [opened_table])⟩
  · rw [heq] at hwindow ⊢
    rw [windows_conn, hopened, opened_table] at hwindow
    rw [conn_table, opened_table]
    refine ⟨?_, .inr rfl⟩
    cases hchange : (limit.table.apply conn (.started clocked) now).1 with
    | none => simpa [hchange, eq_comm] using hwindow
    | some change =>
      have hid := (apply_change hchange).1
      have hsame : (Window.opened kind (.new conn) limit.table).observe change =
          Window.opened kind (.new conn) limit.table := by
        simp [Window.observe, Window.opened, Own.conn, hid]
      simpa [hchange, hsame, eq_comm] using hwindow

/-- The call that begins an attempt leaves its window tracking the table. -/
lemma begins_tracks {timed : TimedCall} {own : Own}
    (hbegins : timed.call.begins = some (attempt, own)) (hfree : limit.windows[attempt]? = none)
    (hwindow : (limit.step timed).windows[attempt]? = some window)
    (hontime : opensOnTime limit timed = true) :
    Tracks own.conn [(timed.now, limit.table), (timed.now, (limit.step timed).table)] window
      (limit.step timed).table := by
  obtain ⟨call, now⟩ := timed
  cases call with
  | beginAttempt other kind target own' =>
    obtain ⟨rfl, rfl⟩ : other = attempt ∧ own' = own := by simpa using hbegins
    obtain ⟨rfl, hleft⟩ := begun_window hfree hwindow
    exact (openedOn_of_begun (.inr ⟨rfl, hontime⟩) hleft).tracks kind
  | beginArmed other own' =>
    obtain ⟨rfl, rfl⟩ : other = attempt ∧ own' = own := by simpa using hbegins
    have hunarmed : ({ limit with armed := none } : Limit C).windows[other]? = none := hfree
    simp only [step, beginArmed, takeArmed] at hwindow ⊢
    cases harmed : limit.armed with
    | none | some =>
      simp only [harmed, Option.map_none, Option.map_some] at hwindow ⊢
      obtain ⟨rfl, hleft⟩ := begun_window hunarmed hwindow
      exact (openedOn_of_begun (.inr ⟨rfl, hontime⟩) hleft).tracks _
  | admitAttempt other start own' =>
    obtain ⟨rfl, rfl⟩ : other = attempt ∧ own' = own := by simpa using hbegins
    obtain ⟨hwindows, htable⟩ := admitted_table limit start own' now
    simp only [step, admitAttempt] at hwindow ⊢
    split at hwindow
    · simp [hfree] at hwindow
    · rename_i hnot
      simp only [hnot]
      generalize limit.admitted start own' now = admitted at hwindows htable hwindow ⊢
      obtain ⟨found, after⟩ := admitted
      have hfree : after.windows[other]? = none := by rw [hwindows, hfree]
      cases found with
      | none => simp [hfree] at hwindow
      | some found =>
        obtain ⟨rfl, hleft⟩ := begun_window hfree hwindow
        exact (openedOn_of_begun (.inl htable) hleft).tracks _
  | _ => simp at hbegins

/-! ## The windows are exact -/

/-- A closed window counts exactly what the table's history from its views says:
the other connections connected at every moment, there at some moment, setting up at
every moment, and setting up at some moment. -/
def Exact (own : ConnId) (views : List (ℕ × Table)) (stop : ℕ) (closed : ClosedWindow) : Prop :=
  ∃ lo hi hiS : Finset ConnId, closed.lo = lo.card ∧ closed.hi = hi.card ∧ closed.hiS = hiS.card ∧
    ∀ conn,
      (conn ∈ lo ↔ conn ≠ own ∧
        ∀ table, AtMoment views stop table → table.phase conn = some .connected) ∧
      (conn ∈ hi ↔ conn ≠ own ∧
        ∃ table, AtMoment views stop table ∧ (table.phase conn).isSome = true) ∧
      (conn ∈ closed.loS ↔ conn ≠ own ∧
        ∀ table, AtMoment views stop table → table.phase conn = some .settingUp) ∧
      (conn ∈ hiS ↔ conn ≠ own ∧
        ∃ table, AtMoment views stop table ∧ table.phase conn = some .settingUp)

lemma Tracks.exact {views : List (ℕ × Table)} {table : Table} (h : Tracks own views window table)
    (hsorted : (views.map Prod.fst ++ [stop]).Pairwise (· ≤ ·)) :
    Exact own views stop window.close := by
  refine ⟨window.lo, window.hi, window.hiS, rfl, rfl, rfl, fun conn => ⟨?_, ?_, ?_, ?_⟩⟩
  · rw [h.lo, forall_moment_iff hsorted (by simp)]
  · rw [h.hi, exists_present_iff hsorted]
  · rw [forall_moment_iff hsorted (by simp)]
    exact h.loS conn
  · rw [h.hiS, exists_moment_iff hsorted (by simp)]

/-- Every attempt that begins on a table with no settling connection overdue, and is
judged or frozen at `stop`, has a window that is exact for the history of the table
from its begin to `stop`; a frozen one keeps it until its result. -/
theorem windows_are_exact (h1 : 1 ≤ C) (adaptive : Bool) (spread : Spread) (table : Table)
    (before during : List TimedCall) (timed : TimedCall) (attempt : AttemptId)
    (own : Own) (stop : ℕ) (hbegins : timed.call.begins = some (attempt, own))
    (hfree : (Limit.run h1 adaptive spread table before).windows[attempt]? = none)
    (hopens : (Limit.run h1 adaptive spread table (before ++ [timed])).windows[attempt]?.isSome =
      true)
    (hontime : opensOnTime (Limit.run h1 adaptive spread table before) timed = true)
    (hduring : ∀ call ∈ during, call.call.endsWindow attempt = false)
    (hsorted : ((timed :: during).map (·.now) ++ [stop]).Pairwise (· ≤ ·)) :
    let found := Limit.run h1 adaptive spread table before
    let history := (timed.now, found.table) :: views found (timed :: during)
    (∃ window, (Limit.run h1 adaptive spread table (before ++ timed :: during)).windows[attempt]? =
        some window ∧ Exact own.conn history stop window.close) ∧
      ∀ later : List TimedCall, (∀ call ∈ later, ∀ outcome, call.call ≠ .result attempt outcome) →
        ∃ window, (Limit.run h1 adaptive spread table
            (before ++ timed :: during ++ ⟨.freeze attempt, stop⟩ :: later)).windows[attempt]? =
          some window ∧ window.frozen = true ∧ Exact own.conn history stop window.close := by
  intro found history
  have hrun : Limit.run h1 adaptive spread table (before ++ [timed]) = found.step timed :=
    Steps.run_concat _ _ _ _
  rw [hrun] at hopens
  obtain ⟨opened, hopened⟩ := Option.isSome_iff_exists.mp hopens
  obtain ⟨window, hwindow, htracks⟩ :=
    (begins_tracks hbegins hfree hopened hontime).run hopened hduring
  have hrunAll : Limit.run h1 adaptive spread table (before ++ timed :: during) =
      Steps.run Limit.step (found.step timed) during := by
    rw [Limit.run, Steps.run_append]
    rfl
  have hexact : Exact own.conn history stop window.close := by
    have htimes : history.map Prod.fst = timed.now :: (timed :: during).map (·.now) := by
      simp [history, times_views]
    have htracks : Tracks own.conn history window _ := htracks
    refine htracks.exact ?_
    rw [htimes, cons_append, pairwise_cons]
    refine ⟨fun time htime => ?_, hsorted⟩
    simp only [map_cons, cons_append, mem_cons] at htime hsorted
    rcases htime with rfl | htime
    · exact le_refl _
    · exact (pairwise_cons.mp hsorted).1 time htime
  refine ⟨⟨window, by rw [hrunAll]; exact hwindow, hexact⟩, fun later hlater => ?_⟩
  have hrunLater : Limit.run h1 adaptive spread table
      (before ++ timed :: during ++ ⟨.freeze attempt, stop⟩ :: later) =
        Steps.run Limit.step
          ((Steps.run Limit.step (found.step timed) during).freeze attempt) later := by
    rw [← hrunAll, Limit.run, Steps.run_append]
    rfl
  have hfrozen :
      ((Steps.run Limit.step (found.step timed) during).freeze attempt).windows[attempt]? =
      some { window with frozen := true } := by
    simp [freeze, Windows.get_freeze, hwindow]
  rw [hrunLater]
  exact ⟨{ window with frozen := true }, frozen_run hfrozen rfl hlater, rfl, hexact⟩

/-- A connection is closed and settles until 260; a start without admission at 1000
is the next call. -/
def staleStart : List TimedCall :=
  [⟨.conn 1 (.started true), 0⟩,
    ⟨.conn 1 .connected, 1⟩,
    ⟨.conn 1 .closing, 10⟩,
    ⟨.conn 1 .disposed, 10⟩]

/-- The window counts the connection that was gone long before it opened: `hi` is one,
though no other connection is there at any moment of it. -/
theorem stale_start_overcounts :
    let found := Limit.run (C := 3) (by decide) true ⟨fun _ => 1000, 0⟩ {} staleStart
    let begun : TimedCall := ⟨.beginAttempt 2 .ordinary 3 (.new 2) true, 1000⟩
    ((found.step begun).windows[2]?.map fun window => window.close.hi) = some 1 ∧
      ∀ table, AtMoment ((1000, found.table) :: views found [begun]) 1001 table →
        ∀ conn, conn ≠ 2 → (table.phase conn).isSome = false := by
  intro found begun
  refine ⟨by decide +kernel, fun table hmoment conn hne => ?_⟩
  have hviews : ∀ view ∈ (1000, found.table) :: views found [begun],
      (view.2.advance view.1).possibleIds ⊆ {2} := by decide +kernel
  have hsorted : (((1000, found.table) :: views found [begun]).map Prod.fst ++ [1001]).Pairwise
      (· ≤ ·) := by decide +kernel
  by_contra hsome
  have hthere : (table.phase conn).isSome = true := eq_true_of_ne_false hsome
  obtain ⟨view, hview, hpresent⟩ := (exists_present_iff hsorted).mp ⟨table, hmoment, hthere⟩
  have hmem := hviews view hview (Table.mem_possibleIds.mpr hpresent)
  exact hne (Finset.mem_singleton.mp hmem)

/-- One connection settles and another is connected throughout, while a third is
begun, refused and frozen. -/
def timelyStart : List TimedCall :=
  [⟨.conn 1 (.started true), 0⟩,
    ⟨.conn 1 .connected, 1⟩,
    ⟨.conn 4 (.started true), 2⟩,
    ⟨.conn 4 .connected, 3⟩,
    ⟨.conn 4 .closing, 10⟩,
    ⟨.conn 4 .disposed, 10⟩]

theorem timely_window_is_exact :
    let found := Limit.run (C := 3) (by decide) true ⟨fun _ => 1000, 0⟩ {} timelyStart
    let begun : TimedCall := ⟨.beginAttempt 2 .ordinary 3 (.new 2) true, 20⟩
    ∃ window, (Limit.run (C := 3) (by decide) true ⟨fun _ => 1000, 0⟩ {}
        (timelyStart ++ begun :: [⟨.tick, 300⟩])).windows[2]? = some window ∧
      window.close.lo = 1 ∧ window.close.hi = 2 ∧
      Exact 2 ((20, found.table) :: views found (begun :: [⟨.tick, 300⟩])) 301 window.close := by
  intro found begun
  obtain ⟨⟨window, hwindow, hexact⟩, -⟩ := windows_are_exact (C := 3) (by decide) true
    ⟨fun _ => 1000, 0⟩ {} timelyStart [⟨.tick, 300⟩] begun 2 (.new 2) 301 rfl (by decide +kernel)
    (by decide +kernel) (by decide +kernel) (by decide) (by decide)
  have hcounts : ((Limit.run (C := 3) (by decide) true ⟨fun _ => 1000, 0⟩ {}
      (timelyStart ++ begun :: [⟨.tick, 300⟩])).windows[2]?.map fun window =>
        (window.close.lo, window.close.hi)) = some (1, 2) := by decide +kernel
  rw [hwindow] at hcounts
  obtain ⟨hlo, hhi⟩ := Prod.mk.inj (Option.some.inj hcounts)
  exact ⟨window, hwindow, hlo, hhi, hexact⟩

end Limit

end GwzCore.SetupRetry
