import GwzCore.SetupRetry.Numbers
import GwzCore.SetupRetry.Restoring

/-!
# No key is stranded

What a key waits for can always come: a stable machine has a deadline, a restoring
one has starts to give or one of its own in flight, an open setup window waits for
a setup with a clock that is still in flight, and a probing machine has its probe
in the slot. The last needs the tests to be begun as the key found them due; the
others hold for every sequence of calls.
-/
namespace GwzCore.SetupRetry.Limit
open Option Finset Limit Fsm Table

variable {C : ℕ} {limit : Limit C} {attempt : AttemptId} {now : ℕ} {closed : ClosedWindow}
  {outcome : Outcome} {ruling : Ruling} {a b : Limit C} {kind : AttemptKind}

/-! ## Timers -/

/-- A stable machine's timer has a deadline. -/
def Ticking (fsm : Fsm C) (timer : Timer) : Prop :=
  fsm.state = .stable → timer.deadline.isSome = true

namespace Ticking

variable {fsm : Fsm C} {timer : Timer}

lemma makeDue (fsm : Fsm C) (timer : Timer) (now : ℕ) : Ticking fsm (timer.makeDue now) :=
  fun _ => rfl

lemma arm (fsm : Fsm C) (timer : Timer) (permille now : ℕ) : Ticking fsm (timer.arm permille now) :=
  fun _ => rfl

section

variable (h : Ticking fsm timer)
include h

lemma of_state {fsm' : Fsm C}
    (hstate : fsm'.state = .stable → fsm.state = .stable) : Ticking fsm' timer :=
  fun hstable => h (hstate hstable)

lemma success (connected : ℕ) : Ticking (fsm.success connected) timer := by
  refine h.of_state fun hstable => ?_
  rcases fsm.state_success connected with hstate | hstate
  · simp [hstate] at hstable
  · rwa [hstate] at hstable

lemma testStarted : Ticking fsm.testStarted timer := by
  refine h.of_state fun hstable => ?_
  unfold Fsm.testStarted at hstable
  split at hstable
  · simp at hstable
  · exact hstable

/-- A fair probe resets the gap, not the deadline. -/
lemma testSucceeded (connected : ℕ) : Ticking (fsm.testSucceeded connected true) timer.reset :=
  (h.success connected).of_state fun hstable => stable_of_testPassed hstable

lemma beginRestore : Ticking fsm.beginRestore timer := by
  refine h.of_state fun hstable => ?_
  unfold Fsm.beginRestore at hstable
  split at hstable
  · exact hstable
  · simp at hstable

end

end Ticking

/-- Both timers tick while their machines are stable. -/
structure Timed (limit : Limit C) : Prop where
  n : Ticking limit.fsm limit.timer
  setupN : Ticking limit.setups.fsm limit.setups.timer

namespace Timed

lemma setupWindowResolved (h : Timed limit) (now : ℕ) : Timed (limit.setupWindowResolved now) := by
  unfold Limit.setupWindowResolved
  split
  · exact h
  · split
    · exact ⟨h.n, .arm _ _ _ now⟩
    · exact h

lemma nruled (htimed : Timed a) (h : NRuled closed outcome now ruling a b) : Timed b := by
  cases h with
  | kept | confirms => exact ⟨htimed.n, htimed.setupN⟩
  | again => exact ⟨.makeDue _ _ now, htimed.setupN⟩
  | raised => exact ⟨htimed.n.success _, htimed.setupN⟩
  | passed fair =>
    cases fair with
    | true => exact ⟨htimed.n.testSucceeded _, htimed.setupN⟩
    | false => exact ⟨.makeDue _ _ now, htimed.setupN⟩
  | overloaded | refused => exact ⟨.arm _ _ _ now, htimed.setupN⟩

lemma sruled (htimed : Timed a) (h : SRuled closed now ruling a b) : Timed b := by
  cases h with
  | kept => exact htimed
  | again => exact ⟨htimed.n, .makeDue _ _ now⟩
  | raised => exact ⟨htimed.n, htimed.setupN.success _⟩
  | passed fair =>
    cases fair with
    | true => exact ⟨htimed.n, htimed.setupN.testSucceeded _⟩
    | false => exact ⟨htimed.n, .makeDue _ _ now⟩
  | refused => exact ⟨htimed.n, .arm _ _ _ now⟩
  | dropped =>
    refine setupWindowResolved ?_ now
    exact ⟨htimed.n, htimed.setupN⟩

lemma ruled (h : Timed limit) (closed : ClosedWindow) (stored : ℕ) (outcome : Outcome) (now : ℕ) :
    Timed (limit.ruled closed stored outcome now).2 := by
  obtain ⟨notes, mid, hn, hs⟩ := ruled_spec limit closed stored outcome now
  have hasked : Timed { limit with hold := (limit.asked outcome now).hold, notes } :=
    ⟨h.n, h.setupN⟩
  exact (hasked.nruled hn).sruled hs

lemma restoreProgress (h : Timed limit) (attempt : AttemptId) (kind : AttemptKind) (refused : Bool)
    (now : ℕ) : Timed (limit.restoreProgress attempt kind refused now) := by
  have hprogressed := progressed limit attempt kind refused now
  generalize limit.restoreProgress attempt kind refused now = after at hprogressed ⊢
  cases hprogressed with
  | ends => exact ⟨.arm _ _ _ now, h.setupN⟩
  | _ => exact ⟨h.n, h.setupN⟩

lemma opened (h : Timed limit) (target : ℕ) (own : Own) :
    Timed (limit.opened attempt kind target own) := by
  refine ⟨?_, ?_⟩
  · rw [opened_fsm, opened_timer]
    split
    · exact h.n.testStarted
    · exact h.n
  · rw [opened_setupFsm, opened_setupTimer]
    split
    · exact h.setupN.testStarted
    · exact h.setupN

/-- A timer is disarmed only on becoming saturated. -/
lemma settled (h : Timed limit) (before : ℕ × Fsm.State) (now : ℕ) :
    Timed (limit.settled before now) := by
  refine ⟨?_, ?_⟩
  · intro hstable
    rw [fsm_settled] at hstable
    have htimer : (limit.settled before now).timer = limit.timer := by
      unfold Limit.settled
      simp only
      split <;> split <;> simp_all [flushNotes]
    rw [htimer]
    exact h.n hstable
  · rw [setups_settled]
    exact h.setupN

end Timed

lemma rule_timed : StepRule (C := C) (fun _ _ => True) Timed where
  quiet hquiet h := by
    refine ⟨?_, ?_⟩
    · rw [hquiet.fsm, hquiet.timer]
      exact h.n
    · rw [hquiet.setups]
      exact h.setupN
  conn {limit} id event now h := by
    refine ⟨?_, ?_⟩
    · rw [conn_fsm, conn_timer]
      exact h.n
    · rcases setups_conn limit id event now with ⟨-, hsame⟩ | ⟨change, -, hchanged⟩
      · rw [hsame]
        exact h.setupN
      · rw [hchanged]
        refine (Timed.setupWindowResolved ?_ now).setupN
        exact ⟨h.n, h.setupN⟩
  plain target own _ _ h := h.opened target own
  given _ _ _ h := h.opened _ _
  due _ _ _ _ h := h.opened _ _
  setup _ _ h := h.opened _ _
  taken {limit attempt kind target arm own} _ _ h := by
    have hunarmed : Timed { limit with armed := none } := ⟨h.n, h.setupN⟩
    exact hunarmed.opened target own
  arm _ _ h := ⟨h.n, h.setupN⟩
  unarm h := ⟨h.n, h.setupN⟩
  disarmProbe _ h := ⟨.makeDue _ _ 0, h.setupN⟩
  disarmSetup _ h := ⟨h.n, .makeDue _ _ 0⟩
  endRestore now _ _ h := ⟨.arm _ _ _ now, h.setupN⟩
  observed {limit now} _ h := by
    have hsuccess : Timed { limit.advance now with
          fsm := limit.fsm.success (limit.table.advance now).connected
          lastGood := (limit.fsm.success (limit.table.advance now).connected).n } :=
      ⟨h.n.success _, h.setupN⟩
    exact hsuccess.settled (limit.fsm.n, limit.fsm.state) now
  outage h := ⟨h.n, h.setupN⟩
  cleared h := ⟨h.n, h.setupN⟩
  restores _ _ _ _ h := ⟨h.n.beginRestore, h.setupN⟩
  lost _ h := ⟨h.n, h.setupN⟩
  judged {limit attempt window stored outcome now} _ _ _ h := by
    have hretired : Timed ((limit.advance now).retire attempt) := ⟨h.n, h.setupN⟩
    have hruled := hretired.ruled window.close stored outcome now
    exact (hruled.restoreProgress attempt window.kind (Outcome.isRefused outcome) now).settled _ now

lemma timed_new (h1 : 1 ≤ C) (adaptive : Bool) (spread : Spread) (table : Table) :
    Timed ((new h1 adaptive spread).seed table) := by
  refine ⟨?_, ?_⟩
  all_goals
    intro hstable
    simp [new, Fsm.new, seed] at hstable

/-! ## The restore step -/

/-- A restoring machine holds a step; the step's starts are in flight, it has one
once started, and before that it has starts to give. -/
structure Stepping (limit : Limit C) : Prop extends Slotted limit where
  held : limit.fsm.state = .restoring → limit.restore.isSome = true
  members : ∀ restore, limit.restore = some restore →
    ∀ attempt ∈ restore.step, limit.kinds attempt = some .restore
  unstarted : ∀ restore, limit.restore = some restore → restore.started = false → 0 < restore.quota
  started : ∀ restore, limit.restore = some restore → restore.started = true → restore.step.Nonempty

lemma stepQuota_pos (limit : Limit C) (target : ℕ) : 0 < limit.stepQuota target := by
  unfold stepQuota
  omega

namespace Stepping

lemma of_eq (h : Stepping a) (hslotted : Slotted b) (hrestore : b.restore = a.restore)
    (hkinds : b.kinds = a.kinds) (hstate : b.fsm.state = .restoring → a.fsm.state = .restoring) :
    Stepping b where
  toSlotted := hslotted
  held hrestoring := by
    rw [hrestore]
    exact h.held (hstate hrestoring)
  members := by
    rw [hrestore, hkinds]
    exact h.members
  unstarted := by
    rw [hrestore]
    exact h.unstarted
  started := by
    rw [hrestore]
    exact h.started

lemma opened (h : Stepping limit) (target : ℕ) (own : Own) (hfree : limit.Free attempt) :
    Stepping (limit.opened attempt kind target own) := by
  have hstate : (limit.opened attempt kind target own).fsm.state = .restoring →
      limit.fsm.state = .restoring := by
    rw [opened_fsm]
    split
    · exact testStarted_restoring.mp
    · exact id
  -- an attempt of the step is in flight, so it is not the one that opens
  have hothers : ∀ restore, limit.restore = some restore → ∀ other ∈ restore.step,
      (limit.opened attempt kind target own).kinds other = some .restore := by
    intro restore hrestore other hother
    have hkind := h.members restore hrestore other hother
    rw [kinds_opened, if_neg, hkind]
    rintro rfl
    simp [hfree.kinds] at hkind
  by_cases hkind : kind = .restore
  · subst hkind
    have hrestore : (limit.opened attempt .restore target own).restore =
        limit.restore.map fun restore => Restore.join restore attempt own := rfl
    refine ⟨h.toSlotted.opened target own hfree, fun hrestoring => ?_, ?_, ?_, ?_⟩
    · rw [hrestore]
      simpa using h.held (hstate hrestoring)
    · rintro _ hjoined other hother
      obtain ⟨restore, hbefore, rfl⟩ := map_eq_some_iff.mp hjoined
      rcases mem_insert.mp hother with rfl | hother
      · rw [kinds_opened, if_pos rfl]
      · exact hothers restore hbefore other hother
    · rintro _ hjoined hunstarted
      obtain ⟨restore, -, rfl⟩ := map_eq_some_iff.mp hjoined
      simp [Restore.join] at hunstarted
    · rintro _ hjoined -
      obtain ⟨restore, -, rfl⟩ := map_eq_some_iff.mp hjoined
      exact insert_nonempty _ _
  · have hrestore : (limit.opened attempt kind target own).restore = limit.restore := by
      rw [opened_restore, if_neg hkind]
    refine ⟨h.toSlotted.opened target own hfree, fun hrestoring => ?_, ?_, ?_, ?_⟩
    · rw [hrestore]
      exact h.held (hstate hrestoring)
    · rw [hrestore]
      exact hothers
    · rw [hrestore]
      exact h.unstarted
    · rw [hrestore]
      exact h.started

/-- A result takes its attempt from the step, and a step with no result to come ends
or gives way to the next. -/
lemma progressed (h : Stepping a) (hslotted : Slotted b) (hkind : a.kinds attempt = some kind)
    (hkinds : ∀ other, b.kinds other = if attempt = other then none else a.kinds other)
    (hrestore : b.restore = a.restore)
    (hstate : b.fsm.state = .restoring → a.fsm.state = .restoring) (refused : Bool) (now : ℕ) :
    Stepping (b.restoreProgress attempt kind refused now) := by
  have hslotted : Slotted (b.restoreProgress attempt kind refused now) :=
    (hslotted.with_restore _).of_frame (frame_restoreProgress b attempt kind refused now)
  have hprogressed := Limit.progressed b attempt kind refused now
  generalize b.restoreProgress attempt kind refused now = after at hprogressed hslotted ⊢
  cases hprogressed with
  | left hout =>
    exact ⟨hslotted, fun hrestoring => absurd hrestoring hout, by simp, by simp, by simp⟩
  | idle hrestoring hnone =>
    have hsome := h.held (hstate hrestoring)
    rw [← hrestore, hnone] at hsome
    simp at hsome
  | waits restore hrestoring hheld hwaits =>
    rw [hrestore] at hheld
    refine ⟨hslotted, fun _ => rfl, ?_, ?_, ?_⟩
    · rintro _ ⟨⟩ other hother
      have hmember : other ∈ restore.step ∧ attempt ≠ other := by
        unfold stepResult at hother
        split at hother
        · exact ⟨(mem_erase.mp hother).2, (mem_erase.mp hother).1.symm⟩
        · refine ⟨hother, ?_⟩
          rintro rfl
          have := h.members restore hheld attempt hother
          simp_all
      show b.kinds other = some .restore
      rw [hkinds, if_neg hmember.2]
      exact h.members restore hheld other hmember.1
    · rintro _ ⟨⟩ hunstarted
      rw [stepResult_quota]
      exact h.unstarted restore hheld (by simpa using hunstarted)
    · rintro _ ⟨⟩ hstarted
      rw [stepResult_started] at hstarted
      exact hwaits.resolve_left (by simp [hstarted])
  | ends =>
    refine ⟨hslotted, fun hrestoring => ?_, ?_, ?_, ?_⟩
    · exact absurd hrestoring b.fsm.endRestore_ne_restoring
    all_goals simp [Limit.endRestore, armTimer]
  | doubles restore next hrestoring hheld hempty hstarted hgood htarget hquota =>
    refine ⟨hslotted, fun _ => rfl, ?_, ?_, ?_⟩
    · rintro _ ⟨⟩ other hother
      simp [hempty] at hother
    · rintro _ ⟨⟩ -
      rw [hquota]
      exact stepQuota_pos b next.target
    · rintro _ ⟨⟩ hstartedTrue
      simp [hstarted] at hstartedTrue

lemma settled (h : Stepping limit) (before : ℕ × Fsm.State) (now : ℕ) :
    Stepping (limit.settled before now) := by
  have hframe := frame_settled limit before now
  refine h.of_eq (h.toSlotted.of_frame hframe) hframe.restore hframe.kinds ?_
  rw [fsm_settled]
  exact id

end Stepping

/-- A ruling leaves a machine restoring only if it was. -/
lemma Seen.restoring {connected : ℕ} {outcome : Outcome} {a b : Fsm C}
    (h : Seen connected outcome a b) (hstate : b.state = .restoring) : a.state = .restoring := by
  cases h with
  | kept _ hkept => exact hkept.mp hstate
  | raised _ _ _ hraised => exact ((success_restoring connected).mp (hraised.mp hstate)).1
  | left hout => exact absurd hstate hout

lemma rule_stepping : StepRule (C := C) (fun _ _ => True) Stepping where
  quiet hquiet h :=
    h.of_eq (rule_slotted.quiet hquiet h.toSlotted) hquiet.restore hquiet.kinds
      (by rw [hquiet.fsm]; exact id)
  conn id event now h :=
    h.of_eq (rule_slotted.conn id event now h.toSlotted) (by simp) (by simp) (by simp)
  plain target own _ hfree h := h.opened target own hfree
  given _ _ hfree h := h.opened _ _ hfree
  due _ hfree _ _ h := h.opened _ _ ⟨hfree.target, hfree.window⟩
  setup hfree _ h := h.opened _ _ hfree
  taken {limit attempt kind target arm own} _ hfree h :=
    (h.of_eq h.toSlotted.unarmed rfl rfl id).opened target own ⟨hfree.target, hfree.window⟩
  arm hallowed hplan h := h.of_eq (rule_slotted.arm hallowed hplan h.toSlotted) rfl rfl id
  unarm h := h.of_eq h.toSlotted.unarmed rfl rfl id
  disarmProbe harmed h :=
    h.of_eq (rule_slotted.disarmProbe harmed h.toSlotted) rfl rfl testInconclusive_restoring.mp
  disarmSetup harmed h := h.of_eq (rule_slotted.disarmSetup harmed h.toSlotted) rfl rfl id
  endRestore {limit restore} now hrestore hempty h := by
    refine ⟨rule_slotted.endRestore now hrestore hempty h.toSlotted,
      fun hrestoring => ?_, ?_, ?_, ?_⟩
    · exact absurd hrestoring limit.fsm.endRestore_ne_restoring
    all_goals simp [endRestore, armTimer]
  observed {limit now} hallowed h := by
    have hframe := frame_observedSuccess limit now
    refine h.of_eq (rule_slotted.observed hallowed h.toSlotted) hframe.restore hframe.kinds
      fun hrestoring => ?_
    have hfsm : (limit.observedSuccess now).fsm =
        limit.fsm.success (limit.table.advance now).connected := fsm_settled _ _ now
    rw [hfsm] at hrestoring
    exact ((success_restoring _).mp hrestoring).1
  outage h := h.of_eq (rule_slotted.outage h.toSlotted) rfl rfl id
  cleared h := h.of_eq (rule_slotted.cleared h.toSlotted) rfl rfl id
  restores houtage hadaptive hn hnone h := by
    refine ⟨rule_slotted.restores houtage hadaptive hn hnone h.toSlotted, fun _ => rfl, ?_, ?_, ?_⟩
    · rintro _ ⟨⟩ other hother
      simp at hother
    · rintro _ ⟨⟩ -
      exact stepQuota_pos _ _
    · rintro _ ⟨⟩ hstarted
      simp at hstarted
  lost htarget h :=
    h.of_eq (rule_slotted.lost htarget h.toSlotted) rfl (h.toSlotted.kinds_lost htarget) id
  judged {limit attempt window stored outcome now} hallowed hwindow htarget h := by
    have hframe := frame_ruled ((limit.advance now).retire attempt) window.close stored outcome now
    have hseen := seen_ruled ((limit.advance now).retire attempt) window.close stored outcome now
    have hkind : limit.kinds attempt = some window.kind := by simp [kinds, hwindow]
    have hslotted : Slotted ((limit.advance now).retire attempt) :=
      (show Slotted (limit.advance now) from { h.toSlotted with }).retire attempt
    have hprogressed := h.progressed (hslotted.of_frame hframe) hkind
      (fun other => by rw [hframe.kinds]; exact kinds_erase limit attempt other) hframe.restore
      hseen.restoring (Outcome.isRefused outcome) now
    exact hprogressed.settled (limit.fsm.n, limit.fsm.state) now

lemma stepping_new (h1 : 1 ≤ C) (adaptive : Bool) (spread : Spread) (table : Table) :
    Stepping ((new h1 adaptive spread).seed table) := by
  refine ⟨slotted_new h1 adaptive spread table, ?_, ?_, ?_, ?_⟩
  all_goals simp [new, Fsm.new, seed]

/-! ## The setup window -/

/-- An open setup window waits for a setup, and all it waits for have a clock and are
still setting up. -/
def Awaits (limit : Limit C) : Prop :=
  ∀ window, limit.setups.window = some window →
    window.pending.Nonempty ∧ ∀ conn ∈ window.pending, limit.table.isClockedSetup conn = true

namespace Awaits

lemma of_eq (h : Awaits a) (hwindow : b.setups.window = a.setups.window)
    (htable : ∀ conn, b.table.isClockedSetup conn = a.table.isClockedSetup conn) : Awaits b := by
  unfold Awaits
  rw [hwindow]
  intro window hopen
  obtain ⟨hnonempty, hclocked⟩ := h window hopen
  refine ⟨hnonempty, fun conn hconn => ?_⟩
  rw [htable]
  exact hclocked conn hconn

/-- A window whose awaited setups are in flight waits for one, or resolves. -/
lemma resolved (now : ℕ) (h : ∀ window, limit.setups.window = some window →
      ∀ conn ∈ window.pending, limit.table.isClockedSetup conn = true) :
    Awaits (limit.setupWindowResolved now) := by
  have htable : (limit.setupWindowResolved now).table = limit.table :=
    (frame_setupWindowResolved limit now).table
  intro window hwindow
  rw [htable]
  rcases setups_setupWindowResolved limit now with ⟨hsame, hnonempty⟩ | ⟨_, -, -, hresolved⟩
  · rw [hsame] at hwindow
    exact ⟨hnonempty window hwindow, h window hwindow⟩
  · simp [hresolved, Limit.resolved] at hwindow

lemma sruled (h : Awaits a) (hs : SRuled closed now ruling a b) : Awaits b := by
  cases hs with
  | dropped window _ hclocked =>
    refine resolved now ?_
    rintro _ ⟨⟩
    exact hclocked
  | _ => exact h

/-- What keeps the frame and the window keeps what the window awaits. -/
lemma of_frame (h : Awaits a) (hframe : Frame a b) (hwindow : b.setups.window = a.setups.window) :
    Awaits b :=
  h.of_eq hwindow fun conn => by rw [hframe.table]

lemma ruled (h : Awaits limit) (closed : ClosedWindow) (stored : ℕ) (outcome : Outcome) (now : ℕ) :
    Awaits (limit.ruled closed stored outcome now).2 := by
  obtain ⟨notes, mid, hn, hs⟩ := ruled_spec limit closed stored outcome now
  exact (h.of_frame hn.frame (by rw [hn.setups])).sruled hs

/-- A report of a setup that the window awaits takes it out of the window. -/
lemma conn (h : Awaits limit) (id : ConnId) (event : ConnEvent) (now : ℕ) :
    Awaits (limit.conn id event now) := by
  have htable := conn_table limit id event now
  rcases setups_conn limit id event now with ⟨hnone, hsame⟩ | ⟨change, hchange, hchanged⟩
  · refine h.of_eq (by rw [hsame]) fun other => ?_
    rw [htable, apply_of_none hnone, isClockedSetup_advance]
  · obtain ⟨hid, hsource⟩ := apply_change hchange
    have hresolved : Awaits (setupChanged
        { limit with table := (limit.table.apply id event now).2 } change now) := by
      refine resolved now ?_
      intro window hwindow conn hconn
      obtain ⟨before, hbefore, rfl⟩ := map_eq_some_iff.mp hwindow
      have hclocked := (h before hbefore).2
      -- the awaited setup that changed is no longer awaited; the others did not change
      have hmember : conn ∈ before.pending ∧ conn ≠ id := by
        unfold SetupWindow.changed at hconn
        split at hconn
        · exact ⟨(mem_erase.mp hconn).2, hid ▸ (mem_erase.mp hconn).1⟩
        · rename_i hother
          refine ⟨hconn, ?_⟩
          rintro rfl
          refine hother ⟨?_, hid ▸ hconn⟩
          rw [hsource]
          exact phase_of_isClockedSetup (hclocked conn hconn)
      rw [isClockedSetup_apply_of_ne event now (Ne.symm hmember.2)]
      exact hclocked conn hmember.1
    have hafter : (setupChanged
        { limit with table := (limit.table.apply id event now).2 } change now).table =
          (limit.table.apply id event now).2 :=
      (frame_setupWindowResolved _ now).table
    refine hresolved.of_eq ?_ fun other => ?_
    · rw [hchanged, setupChanged_with_table limit now (limit.table.apply id event now).2 change]
    · rw [htable, hafter]

end Awaits

lemma rule_awaits : StepRule (C := C) (fun _ _ => True) Awaits where
  quiet hquiet h := h.of_eq (by rw [hquiet.setups]) hquiet.clocked
  conn id event now h := h.conn id event now
  plain target own _ _ h := h.of_eq (by simp) (by simp)
  given _ _ _ h := h.of_eq (by simp) (by simp)
  due _ _ _ _ h := h.of_eq (by simp) (by simp)
  setup _ _ h := h.of_eq (by simp) (by simp)
  taken _ _ h := h.of_eq (by simp) (by simp)
  arm {limit carrierFinal now plan} _ _ h :=
    h.of_eq rfl fun conn => isClockedSetup_advance limit.table now conn
  unarm h := h
  disarmProbe _ h := h
  disarmSetup _ h := h
  endRestore now _ _ h := h
  observed {limit now} _ h := by
    refine h.of_eq (rising_observedSuccess limit now).window fun conn => ?_
    rw [(frame_observedSuccess limit now).table]
    exact isClockedSetup_advance limit.table now conn
  outage h := h
  cleared h := h
  restores _ _ _ _ h := h
  lost _ h := h
  judged {limit attempt window stored outcome now} _ _ _ h := by
    have hretired : Awaits ((limit.advance now).retire attempt) :=
      h.of_eq rfl fun conn => isClockedSetup_advance limit.table now conn
    have hruled := hretired.ruled window.close stored outcome now
    refine Awaits.of_frame ?_ (frame_settled _ _ now) (rising_settled _ _ now).window
    refine Awaits.of_frame ?_ (frame_restoreProgress _ attempt window.kind _ now)
      (rising_restoreProgress _ attempt window.kind _ now).window
    exact hruled

lemma awaits_new (h1 : 1 ≤ C) (adaptive : Bool) (spread : Spread) (table : Table) :
    Awaits ((new h1 adaptive spread).seed table) := by
  intro window hwindow
  simp [new, seed] at hwindow

/-! ## The probe in the slot -/

/-- A machine still probing after a ruling was probing before, and the attempt ruled
was not its probe, unless the key has no retry budget. -/
structure Unprobed (kind : AttemptKind) (a b : Limit C) : Prop where
  n : b.fsm.state = .probing →
    a.fsm.state = .probing ∧ (kind = .probe → a.adaptive = false)
  setupN : b.setups.fsm.state = .probing →
    a.setups.fsm.state = .probing ∧ (kind = .setupProbe → a.adaptive = false)

lemma probing_setupWindowResolved
    (h : (limit.setupWindowResolved now).setups.fsm.state = .probing) :
    limit.setups.fsm.state = .probing := by
  rcases setups_setupWindowResolved limit now with ⟨hsame, -⟩ | ⟨window, -, -, hresolved⟩
  · rwa [hsame] at h
  · rw [hresolved] at h
    exact absurd h (limit.setups.fsm.overload_ne_probing _ _)

lemma NRuled.unprobed (h : NRuled closed outcome now ruling a b) (hstate : b.fsm.state = .probing) :
    a.fsm.state = .probing ∧ (closed.kind = .probe → a.adaptive = false) := by
  cases h with
  | kept _ _ _ hprobe | confirms _ hprobe => exact ⟨hstate, hprobe⟩
  | again => exact absurd hstate testInconclusive_ne_probing
  | raised _ _ _ _ hkind => exact ⟨probing_of_success hstate, fun heq => absurd heq hkind⟩
  | passed => exact absurd hstate (testPassed_ne_probing _)
  | overloaded => exact absurd hstate (a.fsm.overload_ne_probing _ _)
  | refused => exact absurd hstate probeRefused_ne_probing

lemma SRuled.unprobed (h : SRuled closed now ruling a b) (hstate : b.setups.fsm.state = .probing) :
    a.setups.fsm.state = .probing ∧ (closed.kind = .setupProbe → a.adaptive = false) := by
  cases h with
  | kept hprobe => exact ⟨hstate, hprobe⟩
  | again => exact absurd hstate testInconclusive_ne_probing
  | raised hkind => exact ⟨probing_of_success hstate, fun heq => absurd heq hkind⟩
  | passed => exact absurd hstate (testPassed_ne_probing _)
  | refused => exact absurd hstate probeRefused_ne_probing
  | dropped window hkind =>
    have hbefore := probing_setupWindowResolved hstate
    exact ⟨hbefore, fun heq => absurd heq hkind⟩

lemma unprobed_ruled (limit : Limit C) (closed : ClosedWindow) (stored : ℕ) (outcome : Outcome)
    (now : ℕ) : Unprobed closed.kind limit (limit.ruled closed stored outcome now).2 := by
  obtain ⟨notes, mid, hn, hs⟩ := ruled_spec limit closed stored outcome now
  have hfsm : (limit.ruled closed stored outcome now).2.fsm = mid.fsm := congrArg Core.fsm hs.core
  refine ⟨fun hstate => hn.unprobed (hfsm ▸ hstate), fun hstate => ?_⟩
  obtain ⟨hbefore, hbudget⟩ := hs.unprobed hstate
  rw [hn.setups] at hbefore
  rw [hn.frame.adaptive] at hbudget
  exact ⟨hbefore, hbudget⟩

/-- A probing machine has its probe in the slot, and an armed test finds it free. -/
structure Probing (limit : Limit C) : Prop extends Slotted limit where
  free : limit.armed ≠ none → limit.testSlot = none
  n : limit.fsm.state = .probing →
    ∃ attempt, limit.testSlot = some attempt ∧ limit.kinds attempt = some .probe
  setupN : limit.setups.fsm.state = .probing →
    ∃ attempt, limit.testSlot = some attempt ∧ limit.kinds attempt = some .setupProbe

/-- A test is begun only as an admission or an arming found it due. -/
def testsAsDue (_ : Limit C) (timed : TimedCall) : Bool :=
  match timed.call with
  | .beginAttempt _ kind _ _ _ => !kind.isTest
  | _ => true

namespace Probing

/-- A test opens where the slot was free, so no machine was probing. -/
lemma opened (h : Probing limit) (target : ℕ) (own : Own) (hfree : limit.Free attempt)
    (hslot : kind.isTest = true → limit.testSlot = none)
    (harmed : kind.isTest = true → limit.armed = none) :
    Probing (limit.opened attempt kind target own) := by
  have hslotted : Slotted (limit.opened attempt kind target own) :=
    h.toSlotted.opened target own hfree
  cases htest : kind.isTest with
  | false =>
    have hkept : ∀ other held, limit.testSlot = some other ∧ limit.kinds other = some held →
        (limit.opened attempt kind target own).testSlot = some other ∧
          (limit.opened attempt kind target own).kinds other = some held := by
      rintro other held ⟨hother, hheld⟩
      rw [opened_testSlot, kinds_opened, if_neg, if_neg]
      · exact ⟨hother, hheld⟩
      · rintro rfl
        simp [hfree.kinds] at hheld
      · simp [htest]
    refine ⟨hslotted, ?_, ?_, ?_⟩
    · rw [opened_armed, opened_testSlot, if_neg (by simp [htest])]
      exact h.free
    · rw [opened_fsm, if_neg (by rintro rfl; simp [AttemptKind.isTest] at htest)]
      intro hstate
      obtain ⟨other, hother⟩ := h.n hstate
      exact ⟨other, hkept other .probe hother⟩
    · rw [opened_setupFsm, if_neg (by rintro rfl; simp [AttemptKind.isTest] at htest)]
      intro hstate
      obtain ⟨other, hother⟩ := h.setupN hstate
      exact ⟨other, hkept other .setupProbe hother⟩
  | true =>
    have hn : limit.fsm.state ≠ .probing := fun hstate => by
      obtain ⟨other, hother, -⟩ := h.n hstate
      simp [hslot htest] at hother
    have hsetupN : limit.setups.fsm.state ≠ .probing := fun hstate => by
      obtain ⟨other, hother, -⟩ := h.setupN hstate
      simp [hslot htest] at hother
    have hself : (limit.opened attempt kind target own).kinds attempt = some kind := by
      rw [kinds_opened, if_pos rfl]
    refine ⟨hslotted, ?_, ?_, ?_⟩
    · rw [opened_armed, harmed htest]
      simp
    · rw [opened_fsm, opened_testSlot, if_pos htest]
      split
      · rename_i hkind
        exact fun _ => ⟨attempt, rfl, hkind ▸ hself⟩
      · exact fun hstate => absurd hstate hn
    · rw [opened_setupFsm, opened_testSlot, if_pos htest]
      split
      · rename_i hkind
        exact fun _ => ⟨attempt, rfl, hkind ▸ hself⟩
      · exact fun hstate => absurd hstate hsetupN

lemma of_eq (h : Probing a) (hslotted : Slotted b) (hslot : b.testSlot = a.testSlot)
    (hkinds : b.kinds = a.kinds) (harmed : b.armed ≠ none → a.armed ≠ none)
    (hn : b.fsm.state = .probing → a.fsm.state = .probing)
    (hsetupN : b.setups.fsm.state = .probing → a.setups.fsm.state = .probing) : Probing b where
  toSlotted := hslotted
  free hsome := by
    rw [hslot]
    exact h.free (harmed hsome)
  n hstate := by
    rw [hslot, hkinds]
    exact h.n (hn hstate)
  setupN hstate := by
    rw [hslot, hkinds]
    exact h.setupN (hsetupN hstate)

end Probing

/-- The slot of a test that is not the judged attempt is kept. -/
lemma slot_judged {window : Window} {stored : ℕ} {outcome : Outcome} {other : AttemptId}
    (hslot : limit.testSlot = some other) (hkind : limit.kinds other = some kind)
    (hne : attempt ≠ other) :
    (limit.judged attempt window stored outcome now).2.testSlot = some other ∧
      (limit.judged attempt window stored outcome now).2.kinds other = some kind := by
  have hframe := frame_judged limit attempt window stored outcome now
  refine ⟨?_, by rw [kinds_judged, if_neg hne, hkind]⟩
  rw [hframe.testSlot]
  simp [retire, advance, hslot, Ne.symm hne]

lemma unprobed_judged (limit : Limit C) (attempt : AttemptId) (window : Window) (stored : ℕ)
    (outcome : Outcome) (now : ℕ) :
    Unprobed window.kind limit (limit.judged attempt window stored outcome now).2 := by
  have hruled := unprobed_ruled ((limit.advance now).retire attempt) window.close stored outcome now
  have hprogressed := progressed
    (((limit.advance now).retire attempt).ruled window.close stored outcome now).2
      attempt window.kind
    (Outcome.isRefused outcome) now
  unfold judged
  simp only
  generalize ((limit.advance now).retire attempt).ruled window.close stored outcome now = ruled at *
  generalize ruled.2.restoreProgress attempt window.kind (Outcome.isRefused outcome) now =
    after at *
  refine ⟨fun hstate => ?_, fun hstate => ?_⟩
  · rw [fsm_settled] at hstate
    refine hruled.n ?_
    cases hprogressed with
    | ends => exact probing_of_endRestore hstate
    | _ => exact hstate
  · rw [setups_settled] at hstate
    refine hruled.setupN ?_
    cases hprogressed <;> exact hstate

/-- A probing machine's probe, judged, leaves it no more probing. The key is at the
ceiling when it has no retry budget. -/
lemma rule_probing :
    StepRule (C := C)
      (fun limit timed => testsAsDue limit timed = true ∧
        (limit.adaptive = false → AtCeiling limit))
      Probing where
  quiet hquiet h := by
    refine h.of_eq (rule_slotted.quiet hquiet h.toSlotted) hquiet.testSlot hquiet.kinds ?_ ?_ ?_
    · rw [hquiet.armed]
      exact id
    · rw [hquiet.fsm]
      exact id
    · rw [hquiet.setups]
      exact id
  conn {limit} id event now h := by
    refine h.of_eq (rule_slotted.conn id event now h.toSlotted) (by simp) (by simp)
      (by simp) (by simp) ?_
    rcases setups_conn limit id event now with ⟨-, hsame⟩ | ⟨change, -, hchanged⟩
    · rw [hsame]
      exact fun hstate => hstate
    · rw [hchanged, setupChanged]
      intro hstate
      have hbefore := probing_setupWindowResolved hstate
      exact hbefore
  plain target own hplain hfree h := h.opened target own hfree (by simp [hplain]) (by simp [hplain])
  given hallowed htest _ _ := by simp [testsAsDue, htest] at hallowed
  due {limit attempt start own clocked now plan} _ hfree hplan _ h := by
    obtain ⟨hslot, harmed, -⟩ := duePlan_spec hplan
    exact h.opened plan.target own ⟨hfree.target, hfree.window⟩ (fun _ => hslot) (fun _ => harmed)
  setup {limit attempt own now plan} hfree hplan h := by
    obtain ⟨hslot, harmed, -⟩ := setupPlan_spec hplan
    exact h.opened plan.target own hfree (fun _ => hslot) (fun _ => harmed)
  taken {limit attempt kind target arm own} harmed hfree h := by
    have hslot := h.free (by simp [harmed])
    have hunarmed : Probing { limit with armed := none } :=
      h.of_eq h.toSlotted.unarmed rfl rfl (by simp) id id
    exact hunarmed.opened target own ⟨hfree.target, hfree.window⟩ (fun _ => hslot) (fun _ => rfl)
  arm {limit carrierFinal now plan} _ hplan h := by
    have hslot : limit.testSlot = none := by
      rcases startablePlan_cases hplan with hdue | hsetup
      · exact (duePlan_spec hdue).1
      · exact (setupPlan_spec hsetup).1
    exact { rule_slotted.arm trivial hplan h.toSlotted with
      free := fun _ => hslot
      n := h.n
      setupN := h.setupN }
  unarm h := h.of_eq h.toSlotted.unarmed rfl rfl (by simp) id id
  disarmProbe harmed h :=
    h.of_eq (rule_slotted.disarmProbe harmed h.toSlotted) rfl rfl (by simp [rearm])
      (fun hstate => absurd hstate testInconclusive_ne_probing) id
  disarmSetup harmed h :=
    h.of_eq (rule_slotted.disarmSetup harmed h.toSlotted) rfl rfl (by simp [setupTestRearm]) id
      (fun hstate => absurd hstate testInconclusive_ne_probing)
  endRestore now hrestore hempty h := by
    refine h.of_eq (rule_slotted.endRestore now hrestore hempty h.toSlotted) rfl rfl id ?_ id
    exact probing_of_endRestore
  observed {limit now} _ h := by
    have hframe := frame_observedSuccess limit now
    refine h.of_eq (rule_slotted.observed trivial h.toSlotted) hframe.testSlot hframe.kinds ?_ ?_ ?_
    · rw [hframe.armed]
      exact id
    · have hfsm : (limit.observedSuccess now).fsm =
          limit.fsm.success (limit.table.advance now).connected := fsm_settled _ _ now
      rw [hfsm]
      exact probing_of_success
    · have hsetups : (limit.observedSuccess now).setups = limit.setups := setups_settled _ _ now
      rw [hsetups]
      exact id
  outage h := h.of_eq (rule_slotted.outage h.toSlotted) rfl rfl id id id
  cleared h := h.of_eq (rule_slotted.cleared h.toSlotted) rfl rfl id id id
  restores houtage hadaptive hn hnone h :=
    h.of_eq (rule_slotted.restores houtage hadaptive hn hnone h.toSlotted) rfl rfl id
      probing_of_beginRestore id
  lost htarget h :=
    h.of_eq (rule_slotted.lost htarget h.toSlotted) rfl (h.toSlotted.kinds_lost htarget) id id id
  judged {limit attempt window stored outcome now} hallowed hwindow htarget h := by
    have hunprobed := unprobed_judged limit attempt window stored outcome now
    have hframe := frame_judged limit attempt window stored outcome now
    have hkind : limit.kinds attempt = some window.kind := by simp [kinds, hwindow]
    -- the probe of a probing machine is not the attempt that was judged
    have hne : ∀ {fsm : Fsm C} {held : AttemptKind} (other : AttemptId),
        (AtCeiling limit → fsm.n = C) → fsm.state = .probing → limit.kinds other = some held →
        (window.kind = held → limit.adaptive = false) → attempt ≠ other := by
      rintro fsm held _ hceiling hstate hother hbudget rfl
      rw [hkind] at hother
      have hn := hceiling (hallowed.2 (hbudget (Option.some.inj hother)))
      simp [fsm.saturated_iff.mpr hn] at hstate
    refine ⟨rule_slotted.judged trivial hwindow htarget h.toSlotted, ?_, ?_, ?_⟩
    · rw [hframe.armed, hframe.testSlot]
      intro harmed
      have hslot : limit.testSlot = none := h.free harmed
      simp [retire, advance, hslot]
    · intro hstate
      obtain ⟨hbefore, hbudget⟩ := hunprobed.n hstate
      obtain ⟨other, hslot, hother⟩ := h.n hbefore
      exact ⟨other, slot_judged hslot hother (hne other AtCeiling.n hbefore hother hbudget)⟩
    · intro hstate
      obtain ⟨hbefore, hbudget⟩ := hunprobed.setupN hstate
      obtain ⟨other, hslot, hother⟩ := h.setupN hbefore
      exact ⟨other, slot_judged hslot hother (hne other AtCeiling.setupN hbefore hother hbudget)⟩

lemma probing_new (h1 : 1 ≤ C) (adaptive : Bool) (spread : Spread) (table : Table) :
    Probing ((new h1 adaptive spread).seed table) := by
  refine ⟨slotted_new h1 adaptive spread table, ?_, ?_, ?_⟩
  all_goals simp [new, Fsm.new, seed]

/-! ## The budget is the key's for good -/

lemma rule_adaptive (adaptive : Bool) :
    StepRule (C := C) (fun _ _ => True) (fun limit => limit.adaptive = adaptive) where
  quiet hquiet h := hquiet.adaptive.trans h
  conn id event now h := (conn_adaptive _ id event now).trans h
  plain target own _ _ h := (opened_adaptive _ _ _ target own).trans h
  given _ _ _ h := (opened_adaptive _ _ _ _ _).trans h
  due _ _ _ _ h := (opened_adaptive _ _ _ _ _).trans h
  setup _ _ h := (opened_adaptive _ _ _ _ _).trans h
  taken _ _ h := (opened_adaptive _ _ _ _ _).trans h
  arm _ _ h := h
  unarm h := h
  disarmProbe _ h := h
  disarmSetup _ h := h
  endRestore _ _ _ h := h
  observed {limit now} _ h := (frame_observedSuccess limit now).adaptive.trans h
  outage h := h
  cleared h := h
  restores _ _ _ _ h := h
  lost _ h := h
  judged {limit attempt window stored outcome now} _ _ _ h :=
    (frame_judged limit attempt window stored outcome now).adaptive.trans h

/-- Every test of the run was due, and the key without a budget stays at the ceiling. -/
lemma meets_atCeiling (h1 : 1 ≤ C) (adaptive : Bool) (spread : Spread) (table : Table)
    {calls : List TimedCall}
    (hmeets : Steps.Meets (fun limit timed => testsAsDue limit timed = true) step
      ((new h1 adaptive spread).seed table) calls) :
    Steps.Meets
      (fun limit timed => testsAsDue limit timed = true ∧
        (limit.adaptive = false → AtCeiling limit))
      step ((new h1 adaptive spread).seed table) calls := by
  cases adaptive with
  | true =>
    have hkept := hmeets.and_invariant (P := fun limit : Limit C => limit.adaptive = true) rfl
      (fun limit timed _ h => (rule_adaptive true).step timed trivial h)
    refine hkept.mono fun limit timed h => ⟨h.1, fun hfalse => ?_⟩
    simp [h.2] at hfalse
  | false =>
    have hconfirms : ∀ (limit : Limit C) timed, testsAsDue limit timed = true →
        confirmsAsDue limit timed = true := by
      rintro limit ⟨call, now⟩ hdue
      cases call with
      | beginAttempt attempt kind =>
        cases kind <;> simp_all [testsAsDue, confirmsAsDue, AttemptKind.isTest]
      | _ => rfl
    have hkept := hmeets.and_invariant (atCeiling_new h1 spread table)
      (fun limit timed hdue h => rule_atCeiling.step timed (hconfirms limit timed hdue) h)
    exact hkept.mono fun limit timed h => ⟨h.1, fun _ => h.2⟩

/-! ## No key is stranded -/

/-- Over every run: targets and windows are of the same attempts and the slot names
one of them; a stable machine has a deadline; a restoring one has starts to give or a
start of its own in flight; an open setup window waits for a setup with a clock; and
if every test was begun as the key found it due, a probing machine has its probe in
the slot. -/
theorem never_stranded (h1 : 1 ≤ C) (adaptive : Bool) (spread : Spread) (table : Table)
    (calls : List TimedCall) :
    let limit := Limit.run h1 adaptive spread table calls
    (∀ attempt : AttemptId, limit.targets[attempt]?.isSome = limit.windows[attempt]?.isSome) ∧
    (∀ attempt, limit.testSlot = some attempt → limit.windows[attempt]?.isSome = true) ∧
    (Steps.Meets (fun limit timed => testsAsDue limit timed = true) Limit.step
        ((Limit.new h1 adaptive spread).seed table) calls →
      (limit.fsm.state = .probing →
        ∃ attempt, limit.testSlot = some attempt ∧ limit.kinds attempt = some .probe) ∧
      (limit.setups.fsm.state = .probing →
        ∃ attempt, limit.testSlot = some attempt ∧ limit.kinds attempt = some .setupProbe)) ∧
    (limit.fsm.state = .stable → limit.timer.deadline.isSome = true) ∧
    (limit.setups.fsm.state = .stable → limit.setups.timer.deadline.isSome = true) ∧
    (limit.fsm.state = .restoring → ∃ restore, limit.restore = some restore ∧
      (0 < restore.quota ∨ ∃ attempt ∈ restore.step, limit.kinds attempt = some .restore)) ∧
    (∀ window, limit.setups.window = some window →
      ∃ conn ∈ window.pending, limit.table.isClockedSetup conn = true) := by
  intro limit
  have hstepping : Stepping limit :=
    rule_stepping.run_all (stepping_new h1 adaptive spread table) calls
  have htimed : Timed limit := rule_timed.run_all (timed_new h1 adaptive spread table) calls
  have hawaits : Awaits limit := rule_awaits.run_all (awaits_new h1 adaptive spread table) calls
  refine ⟨fun attempt => ?_, fun attempt hslot => ?_, fun hmeets => ?_, htimed.n,
    htimed.setupN, ?_, ?_⟩
  · simpa [Limit.kinds] using hstepping.matched attempt
  · obtain ⟨kind, hkind, -⟩ := hstepping.slot attempt hslot
    obtain ⟨window, hwindow, -⟩ := map_eq_some_iff.mp hkind
    simp [hwindow]
  · have hprobing : Probing limit :=
      rule_probing.run (probing_new h1 adaptive spread table)
        (meets_atCeiling h1 adaptive spread table hmeets)
    exact ⟨hprobing.n, hprobing.setupN⟩
  · intro hstate
    obtain ⟨restore, hrestore⟩ := isSome_iff_exists.mp (hstepping.held hstate)
    refine ⟨restore, hrestore, ?_⟩
    cases hstarted : restore.started with
    | false => exact Or.inl (hstepping.unstarted restore hrestore hstarted)
    | true =>
      obtain ⟨attempt, hattempt⟩ := hstepping.started restore hrestore hstarted
      exact Or.inr ⟨attempt, hattempt, hstepping.members restore hrestore attempt hattempt⟩
  · intro window hwindow
    obtain ⟨⟨conn, hconn⟩, hclocked⟩ := hawaits window hwindow
    exact ⟨conn, hconn, hclocked conn hconn⟩

/-- A stable key on which a probe and then a confirming test are begun, neither due. -/
def begunTests : List TimedCall :=
  [⟨.beginAttempt 1 .ordinary 3 (.new 1) true, 0⟩,
    ⟨.conn 1 .connected, 1⟩,
    ⟨.beginAttempt 2 .ordinary 3 (.new 2) true, 2⟩,
    ⟨.conn 2 .setupEnded, 3⟩,
    ⟨.result 2 (.refused .throttle none false), 3⟩,
    ⟨.beginAttempt 3 .probe 2 (.new 3) true, 4⟩,
    ⟨.beginAttempt 4 .confirming 2 (.new 4) true, 5⟩]

/-- The machine is probing while a confirming test occupies the slot. -/
theorem begun_tests_share_slot :
    let limit := Limit.run (C := 3) (by decide) true ⟨fun _ => 1000, 0⟩ {} begunTests
    limit.fsm.state = .probing ∧ limit.testSlot = some 4 ∧ limit.kinds 4 = some .confirming := by
  decide +kernel

theorem never_stranded_probing :
    let limit := Limit.run (C := 3) (by decide) true ⟨fun _ => 1000, 0⟩ {} probeBelowCeiling
    limit.fsm.state = .probing ∧
      ∃ attempt, limit.testSlot = some attempt ∧ limit.kinds attempt = some .probe := by
  refine ⟨by decide +kernel, ?_⟩
  exact ((never_stranded (by decide) true ⟨fun _ => 1000, 0⟩ {} probeBelowCeiling).2.2.1
    (Steps.Meets.of_meets (by decide +kernel))).1 (by decide +kernel)

end GwzCore.SetupRetry.Limit
