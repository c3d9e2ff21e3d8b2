import GwzCore.SetupRetry.Calls

/-!
# Who moves the numbers

`N` and `Ns` stay between one and the ceiling and are saturated exactly there by
the fields of their machines. A result may lower `N` only as an overload, and
`Ns` is lowered only where a window of awaited setups resolves; without a retry
budget nothing lowers either. A success raises `N` to what is then connected,
unless it is a test that the pool served with an idle connection, which says
nothing about the site.
-/
namespace GwzCore.SetupRetry.Limit
open Option Limit Fsm

variable {C : ℕ} {limit : Limit C} {attempt : AttemptId} {now : ℕ} {outcome : Outcome}
  {kind : AttemptKind} {a b : Limit C} {ruling : Ruling}

/-! ## What a ruling does to the numbers -/

/-- Neither number falls, the setup window is the same and no confirmation begins. -/
structure Rising (a b : Limit C) : Prop where
  n : a.fsm.n ≤ b.fsm.n
  setupN : a.setups.fsm.n ≤ b.setups.fsm.n
  window : b.setups.window = a.setups.window
  confirmation : a.confirmation = false → b.confirmation = false

namespace Rising

variable {c : Limit C}

lemma refl (a : Limit C) : Rising a a := ⟨le_refl _, le_refl _, rfl, id⟩

lemma trans (h : Rising a b) (h' : Rising b c) : Rising a c where
  n := le_trans h.n h'.n
  setupN := le_trans h.setupN h'.setupN
  window := h'.window.trans h.window
  confirmation hfalse := h'.confirmation (h.confirmation hfalse)

end Rising

/-- What a ruling on an attempt of `kind` may have done to the numbers. -/
inductive Moved (kind : AttemptKind) (a b : Limit C) : Ruling → Prop where
  | rising (ruling : Ruling) (h : Rising a b) : Moved kind a b ruling
  | overload (n : ℕ) (hsetups : a.setups.fsm.n ≤ b.setups.fsm.n)
      (hwindow : b.setups.window = a.setups.window) (hclear : b.confirmation = false)
      (hbudget : a.adaptive = false → kind = .confirming) : Moved kind a b (.overload n)
  | confirmation (hn : a.fsm.n ≤ b.fsm.n) (hsetups : a.setups.fsm.n ≤ b.setups.fsm.n)
      (hwindow : b.setups.window = a.setups.window) (hbudget : a.adaptive = true) :
      Moved kind a b .confirmation
  | setupLimit (hn : a.fsm.n ≤ b.fsm.n)
      (hwindow : b.setups.fsm.n < a.setups.fsm.n → b.setups.window = none)
      (hbudget : a.adaptive = true) : Moved kind a b .setupLimit

lemma Moved.trans_rising {c : Limit C} (h : Moved kind a b ruling) (h' : Rising b c) :
    Moved kind a c ruling := by
  cases h with
  | rising _ h => exact .rising _ (h.trans h')
  | overload n hsetups hwindow hclear hbudget =>
    exact .overload n (le_trans hsetups h'.setupN) (h'.window.trans hwindow)
      (h'.confirmation hclear) hbudget
  | confirmation hn hsetups hwindow hbudget =>
    exact .confirmation (le_trans hn h'.n) (le_trans hsetups h'.setupN) (h'.window.trans hwindow)
      hbudget
  | setupLimit hn hwindow hbudget =>
    refine .setupLimit (le_trans hn h'.n) (fun hlower => ?_) hbudget
    rw [h'.window]
    exact hwindow (lt_of_le_of_lt h'.setupN hlower)

lemma Rising.trans_moved {c : Limit C} (h : Rising a b) (hadaptive : b.adaptive = a.adaptive)
    (h' : Moved kind b c ruling) : Moved kind a c ruling := by
  cases h' with
  | rising _ h' => exact .rising _ (h.trans h')
  | overload n hsetups hwindow hclear hbudget =>
    exact .overload n (le_trans h.setupN hsetups) (hwindow.trans h.window) hclear
      (fun hfalse => hbudget (hadaptive.trans hfalse))
  | confirmation hn hsetups hwindow hbudget =>
    exact .confirmation (le_trans h.n hn) (le_trans h.setupN hsetups) (hwindow.trans h.window)
      (hadaptive.symm.trans hbudget)
  | setupLimit hn hwindow hbudget =>
    refine .setupLimit (le_trans h.n hn) (fun hlower => ?_) (hadaptive.symm.trans hbudget)
    exact hwindow (lt_of_lt_of_le hlower h.setupN)

section Ruled

variable {closed : ClosedWindow}

lemma NRuled.rising_or (h : NRuled closed outcome now ruling a b) :
    Rising a b ∨ ruling ≠ .setupLimit ∧ Moved closed.kind a b ruling := by
  cases h with
  | kept _ _ _ _ hclear => exact .inl ⟨le_refl _, le_refl _, rfl, hclear⟩
  | confirms _ _ hbudget hruling =>
    subst hruling
    exact .inr ⟨by simp, .confirmation (le_refl _) (le_refl _) rfl hbudget⟩
  | again => exact .inl ⟨le_of_eq n_testInconclusive.symm, le_refl _, rfl, id⟩
  | raised _ _ _ _ _ hclear => exact .inl ⟨a.fsm.le_n_success _, le_refl _, rfl, hclear⟩
  | passed =>
    refine .inl ⟨?_, le_refl _, rfl, id⟩
    rw [n_testSucceeded]
    exact a.fsm.le_n_success _
  | overloaded n _ hbudget hruling =>
    subst hruling
    exact .inr ⟨by simp, .overload n (le_refl _) rfl rfl hbudget⟩
  | refused => exact .inl ⟨le_of_eq n_probeRefused.symm, le_refl _, rfl, id⟩

lemma SRuled.rising_or (h : SRuled closed now ruling a b) :
    Rising a b ∨ ruling = .setupLimit ∧ Moved closed.kind a b ruling := by
  cases h with
  | kept => exact .inl (.refl _)
  | again => exact .inl ⟨le_refl _, le_of_eq n_testInconclusive.symm, rfl, id⟩
  | raised => exact .inl ⟨le_refl _, a.setups.fsm.le_n_success _, rfl, id⟩
  | passed =>
    refine .inl ⟨le_refl _, ?_, rfl, id⟩
    rw [n_testSucceeded]
    exact a.setups.fsm.le_n_success _
  | refused => exact .inl ⟨le_refl _, le_of_eq n_probeRefused.symm, rfl, id⟩
  | dropped window _ _ hbudget hruling =>
    subst hruling
    have hfsm := congrArg Core.fsm (core_setupWindowResolved
      { a with setups := { a.setups with window := some window } } now)
    refine .inr ⟨rfl, .setupLimit (le_of_eq (congrArg n hfsm.symm)) (fun hlower => ?_) hbudget⟩
    rcases setups_setupWindowResolved
      { a with setups := { a.setups with window := some window } } now with
      ⟨hsame, -⟩ | ⟨_, -, -, hresolved⟩
    · rw [hsame] at hlower
      exact absurd hlower (lt_irrefl _)
    · rw [hresolved]
      rfl

lemma moved_ruled (limit : Limit C) (closed : ClosedWindow) (stored : ℕ) (outcome : Outcome)
    (now : ℕ) :
    Moved closed.kind limit (limit.ruled closed stored outcome now).2
      (limit.ruled closed stored outcome now).1 := by
  obtain ⟨notes, mid, hn, hs⟩ := ruled_spec limit closed stored outcome now
  have hasked : Rising limit { limit with hold := (limit.asked outcome now).hold, notes } :=
    ⟨le_refl _, le_refl _, rfl, id⟩
  rcases hs.rising_or with hrising | ⟨hruling, hmoved⟩
  · rcases hn.rising_or with hn | ⟨-, hn⟩
    · exact .rising _ ((hasked.trans hn).trans hrising)
    · exact (hasked.trans_moved rfl hn).trans_rising hrising
  · rcases hn.rising_or with hrising | ⟨hother, -⟩
    · exact (hasked.trans hrising).trans_moved hn.frame.adaptive hmoved
    · exact absurd hruling hother

/-- A success raises `N` to what is connected, unless a test was served by reuse. -/
lemma NRuled.reach {fresh : Bool} (h : NRuled closed (.succeeded fresh) now ruling a b)
    (hfresh : fresh = true ∨ closed.kind.isNTest = false) : min a.table.connected C ≤ b.fsm.n := by
  have hreach : min a.table.connected C ≤ (a.fsm.success a.table.connected).n := by
    rw [n_success]
    omega
  have hnot (hserved : Served closed (.succeeded fresh)) : False := by
    obtain ⟨rfl, htest⟩ := hserved fresh rfl
    simp [htest] at hfresh
  cases h with
  | raised => exact hreach
  | passed => rwa [n_testSucceeded]
  | kept _ _ hserved | confirms hserved | again hserved | overloaded _ hserved | refused hserved =>
    exact (hnot hserved).elim

end Ruled

lemma rising_restoreProgress (limit : Limit C) (attempt : AttemptId) (kind : AttemptKind)
    (refused : Bool) (now : ℕ) : Rising limit (limit.restoreProgress attempt kind refused now) := by
  have hprogressed := progressed limit attempt kind refused now
  generalize limit.restoreProgress attempt kind refused now = after at hprogressed ⊢
  cases hprogressed with
  | ends => exact ⟨le_of_eq n_endRestore.symm, le_refl _, rfl, id⟩
  | _ => exact ⟨le_refl _, le_refl _, rfl, id⟩

lemma rising_settled (limit : Limit C) (before : ℕ × Fsm.State) (now : ℕ) :
    Rising limit (limit.settled before now) := by
  unfold settled
  simp only
  split <;> split <;> exact ⟨le_refl _, le_refl _, rfl, id⟩

lemma moved_judged (limit : Limit C) (attempt : AttemptId) (window : Window) (stored : ℕ)
    (outcome : Outcome) (now : ℕ) :
    Moved window.kind limit (limit.judged attempt window stored outcome now).2
      (limit.judged attempt window stored outcome now).1 := by
  have hretired : Rising limit ((limit.advance now).retire attempt) :=
    ⟨le_refl _, le_refl _, rfl, id⟩
  exact ((hretired.trans_moved rfl (moved_ruled _ window.close stored outcome now)).trans_rising
    (rising_restoreProgress _ attempt window.kind _ now)).trans_rising (rising_settled _ _ now)

lemma rising_observedSuccess (limit : Limit C) (now : ℕ) :
    Rising limit (limit.observedSuccess now) := by
  have hsuccess : Rising limit { limit.advance now with
        fsm := limit.fsm.success (limit.advance now).table.connected
        lastGood := (limit.fsm.success (limit.advance now).table.connected).n } :=
    ⟨le_n_success _, le_refl _, rfl, id⟩
  exact hsuccess.trans (rising_settled _ _ now)

/-! ## Who lowers `N` -/

/-- The call is not a result ruled `ruling`. -/
def NotRuled (ruling : Ruling → Prop) (limit : Limit C) (timed : TimedCall) : Prop :=
  ∀ attempt outcome given, timed.call = .result attempt outcome →
    (limit.result attempt outcome timed.now).1 = some given → ¬ ruling given

lemma NotRuled.judged {ruling : Ruling → Prop} {window : Window} {stored : ℕ}
    (h : NotRuled ruling limit ⟨.result attempt outcome, now⟩)
    (hwindow : limit.windows[attempt]? = some window)
    (htarget : limit.targets[attempt]? = some stored) :
    ¬ ruling (limit.judged attempt window stored outcome now).1 := by
  refine h attempt outcome _ rfl ?_
  rw [result_of_inFlight outcome hwindow htarget]

/-- A call that is not a result ruled an overload keeps `N` where it was, or above. -/
lemma rule_n (n : ℕ) :
    StepRule (C := C) (NotRuled fun ruling => ∃ n, ruling = .overload n)
      (fun limit => n ≤ limit.fsm.n) where
  quiet hquiet h := by rwa [hquiet.fsm]
  conn id event now h := by rwa [conn_fsm]
  plain target own _ _ h := by rwa [opened_n]
  given _ _ _ h := by rwa [opened_n]
  due _ _ _ _ h := by rwa [opened_n]
  setup _ _ h := by rwa [opened_n]
  taken _ _ h := by rwa [opened_n]
  arm _ _ h := h
  unarm h := h
  disarmProbe _ h := le_trans h (le_of_eq n_testInconclusive.symm)
  disarmSetup _ h := h
  endRestore now _ _ h := le_trans h (le_of_eq n_endRestore.symm)
  observed _ h := le_trans h (rising_observedSuccess _ _).n
  outage h := h
  cleared h := h
  restores _ _ _ _ h := le_trans h (le_of_eq n_beginRestore.symm)
  lost _ h := h
  judged {limit attempt window stored outcome now} hallowed hwindow htarget h := by
    have hruled := hallowed.judged hwindow htarget
    have hmoved := moved_judged limit attempt window stored outcome now
    generalize limit.judged attempt window stored outcome now = judged at hruled hmoved ⊢
    obtain ⟨ruling, after⟩ := judged
    cases hmoved with
    | rising _ hrising => exact le_trans h hrising.n
    | overload n => exact absurd ⟨n, rfl⟩ hruled
    | confirmation hn | setupLimit hn => exact le_trans h hn

/-! ## Who lowers `Ns` -/

/-- `Ns` is at least `ns` and the window no more open than before; or the window
that was open has resolved. -/
def SetupsKept (ns : ℕ) (waited : Bool) (limit : Limit C) : Prop :=
  (ns ≤ limit.setups.fsm.n ∧ (limit.setups.window.isSome = true → waited = true)) ∨
    (limit.setups.window = none ∧ waited = true)

lemma SetupsKept.of_setups {ns : ℕ} {waited : Bool} (hn : a.setups.fsm.n ≤ b.setups.fsm.n)
    (hwindow : b.setups.window = a.setups.window) (h : SetupsKept ns waited a) :
    SetupsKept ns waited b := by
  rcases h with ⟨hns, hopen⟩ | ⟨hnone, hwaited⟩
  · refine .inl ⟨le_trans hns hn, ?_⟩
    rwa [hwindow]
  · refine .inr ⟨?_, hwaited⟩
    rwa [hwindow]

/-- A connection's report may resolve the window, and otherwise keeps `Ns`. -/
lemma SetupsKept.conn {ns : ℕ} {waited : Bool} (id : ConnId) (event : ConnEvent) (now : ℕ)
    (h : SetupsKept ns waited limit) : SetupsKept ns waited (limit.conn id event now) := by
  rcases setups_conn limit id event now with ⟨-, hsame⟩ | ⟨change, -, hchanged⟩
  · exact h.of_setups (by rw [hsame]) (by rw [hsame])
  · unfold SetupsKept
    rw [hchanged, setupChanged]
    rcases setups_setupWindowResolved { limit with
        setups := { limit.setups with
          window := limit.setups.window.map fun window => SetupWindow.changed window change } }
      now with ⟨hsame, -⟩ | ⟨window, hopen, -, hresolved⟩
    · rw [hsame]
      rcases h with ⟨hns, hopen⟩ | ⟨hnone, hwaited⟩
      · exact .inl ⟨hns, fun hsome => hopen (by simpa using hsome)⟩
      · exact .inr ⟨by simp [hnone], hwaited⟩
    · rw [hresolved]
      rcases h with ⟨-, hwaited⟩ | ⟨-, hwaited⟩
      · refine .inr ⟨rfl, hwaited ?_⟩
        obtain ⟨before, hbefore, -⟩ := map_eq_some_iff.mp hopen
        rw [hbefore]
        rfl
      · exact .inr ⟨rfl, hwaited⟩

lemma rule_setupN (ns : ℕ) (waited : Bool) :
    StepRule (C := C) (NotRuled fun ruling => ruling = .setupLimit) (SetupsKept ns waited) where
  quiet hquiet h := h.of_setups (by rw [hquiet.setups]) (by rw [hquiet.setups])
  conn id event now h := h.conn id event now
  plain target own _ _ h := h.of_setups (by simp) (by simp)
  given _ _ _ h := h.of_setups (by simp) (by simp)
  due _ _ _ _ h := h.of_setups (by simp) (by simp)
  setup _ _ h := h.of_setups (by simp) (by simp)
  taken _ _ h := h.of_setups (by simp) (by simp)
  arm _ _ h := h
  unarm h := h
  disarmProbe _ h := h
  disarmSetup _ h := h.of_setups (le_of_eq n_testInconclusive.symm) rfl
  endRestore now _ _ h := h
  observed _ h :=
    h.of_setups (rising_observedSuccess _ _).setupN (rising_observedSuccess _ _).window
  outage h := h
  cleared h := h
  restores _ _ _ _ h := h
  lost _ h := h
  judged {limit attempt window stored outcome now} hallowed hwindow htarget h := by
    have hruled := hallowed.judged hwindow htarget
    have hmoved := moved_judged limit attempt window stored outcome now
    generalize limit.judged attempt window stored outcome now = judged at hruled hmoved ⊢
    obtain ⟨ruling, after⟩ := judged
    cases hmoved with
    | rising _ hrising => exact h.of_setups hrising.setupN hrising.window
    | overload n hsetups hwindow | confirmation _ hsetups hwindow =>
      exact h.of_setups hsetups hwindow
    | setupLimit => exact absurd rfl hruled

/-! ## Without a retry budget -/

/-- A key without a retry budget never leaves the ceiling: nothing is due, so no
test is armed, and no confirmation or setup window begins. -/
structure AtCeiling (limit : Limit C) : Prop where
  adaptive : limit.adaptive = false
  n : limit.fsm.n = C
  setupN : limit.setups.fsm.n = C
  confirmation : limit.confirmation = false
  window : limit.setups.window = none
  armed : limit.armed = none
  kinds : ∀ attempt, limit.kinds attempt ≠ some .confirming

namespace AtCeiling

lemma duePlan (h : AtCeiling limit) (now : ℕ) : limit.duePlan now = none := by
  have hstate := limit.fsm.saturated_iff.mpr h.n
  unfold Limit.duePlan
  simp [h.confirmation, hstate]

lemma setupPlan (h : AtCeiling limit) (now : ℕ) : limit.setupPlan now = none := by
  have hstate := limit.setups.fsm.saturated_iff.mpr h.setupN
  unfold Limit.setupPlan
  simp [hstate]

/-- What is risen from the ceiling is at it. -/
lemma of_rising (h : AtCeiling a) (hrising : Rising a b) (hadaptive : b.adaptive = a.adaptive)
    (harmed : b.armed = a.armed) (hkinds : ∀ attempt, b.kinds attempt ≠ some .confirming) :
    AtCeiling b where
  adaptive := hadaptive.trans h.adaptive
  n := le_antisymm b.fsm.le (le_trans (le_of_eq h.n.symm) hrising.n)
  setupN := le_antisymm b.setups.fsm.le (le_trans (le_of_eq h.setupN.symm) hrising.setupN)
  confirmation := hrising.confirmation h.confirmation
  window := hrising.window.trans h.window
  armed := harmed.trans h.armed
  kinds := hkinds

lemma opened (h : AtCeiling limit) (target : ℕ) (own : Own) (hkind : kind ≠ .confirming) :
    AtCeiling (limit.opened attempt kind target own) := by
  refine h.of_rising ⟨by simp, by simp, by simp, by simp⟩ (by simp) (by simp) fun other => ?_
  rw [kinds_opened]
  split
  · simpa using hkind
  · exact h.kinds other

end AtCeiling

/-- No confirming test is begun but as an admission or an arming found it due. -/
def confirmsAsDue (_ : Limit C) (timed : TimedCall) : Bool :=
  match timed.call with
  | .beginAttempt _ kind _ _ _ => kind ≠ .confirming
  | _ => true

lemma rule_atCeiling :
    StepRule (C := C) (fun limit timed => confirmsAsDue limit timed = true) AtCeiling where
  quiet hquiet h := by
    refine h.of_rising ⟨?_, ?_, ?_, ?_⟩ hquiet.adaptive hquiet.armed ?_
    · rw [hquiet.fsm]
    · rw [hquiet.setups]
    · rw [hquiet.setups]
    · rw [hquiet.confirmation]
      exact id
    · rw [hquiet.kinds]
      exact h.kinds
  conn {limit} id event now h := by
    have hsetups : (limit.conn id event now).setups = limit.setups := by
      rcases setups_conn limit id event now with ⟨-, hsame⟩ | ⟨change, -, hchanged⟩
      · exact hsame
      · exact hchanged.trans (setupChanged_of_none limit now change h.window)
    refine h.of_rising ⟨by simp, by rw [hsetups], by rw [hsetups], by simp⟩ (by simp) (by simp) ?_
    rw [conn_kinds]
    exact h.kinds
  plain target own hplain _ h :=
    h.opened target own (by rintro rfl; simp [AttemptKind.isTest] at hplain)
  given hallowed _ _ h := h.opened _ _ (by simpa [confirmsAsDue] using hallowed)
  due _ _ hplan _ h := by simp [h.duePlan] at hplan
  setup _ hplan h := by simp [h.setupPlan] at hplan
  taken harmed _ h := by simp [h.armed] at harmed
  arm {limit carrierFinal now plan} _ hplan h := by
    have hadvance : AtCeiling (limit.advance now) := ⟨h.1, h.2, h.3, h.4, h.5, h.6, h.7⟩
    simp [startablePlan, hadvance.duePlan, hadvance.setupPlan] at hplan
  unarm h := { h with armed := rfl }
  disarmProbe harmed h := by simp [h.armed] at harmed
  disarmSetup harmed h := by simp [h.armed] at harmed
  endRestore now _ _ h := { h with n := n_endRestore.trans h.n }
  observed {limit now} _ h := by
    have hframe := frame_observedSuccess limit now
    refine h.of_rising (rising_observedSuccess limit now) hframe.adaptive hframe.armed ?_
    rw [hframe.kinds]
    exact h.kinds
  outage h := { h with }
  cleared h := { h with }
  restores _ hadaptive _ _ h := by simp [h.adaptive] at hadaptive
  lost _ h := by
    refine { h with kinds := fun other => ?_ }
    rw [kinds_erase]
    split
    · simp
    · exact h.kinds other
  judged {limit attempt window stored outcome now} hallowed hwindow htarget h := by
    have hframe := frame_judged limit attempt window stored outcome now
    have hkind : window.kind ≠ .confirming := by
      have := h.kinds attempt
      simpa [kinds, hwindow] using this
    have hkinds : ∀ other, (limit.judged attempt window stored outcome now).2.kinds other ≠
        some .confirming := by
      intro other
      rw [kinds_judged]
      split
      · simp
      · exact h.kinds other
    have hmoved := moved_judged limit attempt window stored outcome now
    generalize limit.judged attempt window stored outcome now = judged at hmoved hframe hkinds ⊢
    obtain ⟨ruling, after⟩ := judged
    cases hmoved with
    | rising _ hrising => exact h.of_rising hrising hframe.adaptive hframe.armed hkinds
    | overload _ _ _ _ hbudget => exact absurd (hbudget h.adaptive) hkind
    | confirmation _ _ _ hbudget | setupLimit _ _ hbudget => simp [h.adaptive] at hbudget

lemma atCeiling_new (h1 : 1 ≤ C) (spread : Spread) (table : Table) :
    AtCeiling ((new h1 false spread).seed table) where
  adaptive := rfl
  n := rfl
  setupN := rfl
  confirmation := rfl
  window := rfl
  armed := rfl
  kinds attempt := by simp [kinds, new, seed]

/-! ## The numbers over every run -/

/-- A result that is ruled is of an attempt in flight. -/
lemma result_ruled (h : (limit.result attempt outcome now).1 = some ruling) :
    ∃ window stored, limit.windows[attempt]? = some window ∧
      (limit.judged attempt window stored outcome now).1 = ruling ∧
      (limit.result attempt outcome now).2 =
        (limit.judged attempt window stored outcome now).2 := by
  rcases result_cases limit attempt outcome now with
    ⟨-, heq⟩ | ⟨-, -, heq⟩ | ⟨window, stored, hwindow, -, heq⟩
  · simp [heq] at h
  · simp [heq] at h
  · rw [heq] at h ⊢
    exact ⟨window, stored, hwindow, Option.some.inj h, rfl⟩

/-- A result ruled a setup limit lowers `Ns` only by resolving its window. -/
lemma window_of_setupLimit (h : (limit.result attempt outcome now).1 = some .setupLimit)
    (hlower : (limit.result attempt outcome now).2.setups.fsm.n < limit.setups.fsm.n) :
    (limit.result attempt outcome now).2.setups.window = none := by
  obtain ⟨window, stored, -, hruled, hafter⟩ := result_ruled h
  have hmoved := moved_judged limit attempt window stored outcome now
  rw [hafter] at hlower ⊢
  generalize limit.judged attempt window stored outcome now = judged at hmoved hruled hlower ⊢
  obtain ⟨ruling, after⟩ := judged
  subst hruled
  cases hmoved with
  | rising _ hrising => exact absurd hlower (not_lt.mpr hrising.setupN)
  | setupLimit _ hwindow => exact hwindow hlower

/-- A success in flight that is not a test served by reuse raises `N` to what is
then connected. -/
lemma connected_le_judged (window : Window) (stored : ℕ) (fresh : Bool)
    (hfresh : fresh = true ∨ window.kind.isNTest = false) :
    let after := (limit.judged attempt window stored (.succeeded fresh) now).2
    min after.table.connected C ≤ after.fsm.n := by
  intro after
  have htable : after.table = limit.table.advance now :=
    (frame_judged limit attempt window stored (.succeeded fresh) now).table
  obtain ⟨notes, mid, hn, hs⟩ :=
    ruled_spec ((limit.advance now).retire attempt) window.close stored (.succeeded fresh) now
  have hreach : min (limit.table.advance now).connected C ≤ mid.fsm.n := hn.reach hfresh
  have hfsm := congrArg Core.fsm hs.core
  rw [htable]
  refine le_trans (le_trans hreach (le_of_eq (congrArg n hfsm.symm))) ?_
  exact ((rising_restoreProgress _ attempt window.kind false now).trans (rising_settled _ _ now)).n

lemma connected_le_observedSuccess (limit : Limit C) (now : ℕ) :
    min (limit.observedSuccess now).table.connected C ≤ (limit.observedSuccess now).fsm.n := by
  rw [(frame_observedSuccess limit now).table]
  refine le_trans ?_ (rising_settled _ _ now).n
  rw [n_success]
  omega

/-- Over every run: both numbers stay between one and the ceiling and each machine
is saturated exactly there; only a result ruled an overload lowers `N`, and only a
resolved window of awaited setups lowers `Ns`; without a retry budget neither leaves
the ceiling; and after every success but that of a test served by reuse, `N` is at
least what is connected, up to the ceiling. -/
theorem numbers_move_by_evidence (h1 : 1 ≤ C) (adaptive : Bool) (spread : Spread) (table : Table)
    (calls : List TimedCall) :
    let limit := Limit.run h1 adaptive spread table calls
    (1 ≤ limit.fsm.n ∧ limit.fsm.n ≤ C ∧ 1 ≤ limit.setups.fsm.n ∧ limit.setups.fsm.n ≤ C) ∧
    ((limit.fsm.state = .saturated ↔ limit.fsm.n = C) ∧
      (limit.setups.fsm.state = .saturated ↔ limit.setups.fsm.n = C)) ∧
    (∀ timed, (limit.step timed).fsm.n < limit.fsm.n →
      ∃ attempt outcome n, timed.call = .result attempt outcome ∧
        (limit.result attempt outcome timed.now).1 = some (.overload n)) ∧
    (∀ timed, (limit.step timed).setups.fsm.n < limit.setups.fsm.n →
      (limit.step timed).setups.window = none ∧
        (limit.setups.window ≠ none ∨ ∃ attempt outcome, timed.call = .result attempt outcome ∧
          (limit.result attempt outcome timed.now).1 = some .setupLimit)) ∧
    (adaptive = false →
      Steps.Meets (fun limit timed => confirmsAsDue limit timed = true) Limit.step
        ((Limit.new h1 adaptive spread).seed table) calls →
      limit.fsm.n = C ∧ limit.setups.fsm.n = C) ∧
    (∀ attempt fresh now ruling, (limit.result attempt (.succeeded fresh) now).1 = some ruling →
      fresh = true ∨ (∀ kind, limit.kinds attempt = some kind → kind.isNTest = false) →
      min (limit.result attempt (.succeeded fresh) now).2.table.connected C ≤
        (limit.result attempt (.succeeded fresh) now).2.fsm.n) ∧
    (∀ now, min (limit.observedSuccess now).table.connected C ≤
      (limit.observedSuccess now).fsm.n) := by
  intro limit
  refine ⟨⟨limit.fsm.pos, limit.fsm.le, limit.setups.fsm.pos, limit.setups.fsm.le⟩,
    ⟨limit.fsm.saturated_iff, limit.setups.fsm.saturated_iff⟩, ?_, ?_, ?_, ?_,
    connected_le_observedSuccess limit⟩
  · intro timed hlower
    by_contra hnone
    have hruled : NotRuled (fun ruling => ∃ n, ruling = .overload n) limit timed := by
      rintro attempt outcome _ hcall hgiven ⟨n, rfl⟩
      exact hnone ⟨attempt, outcome, n, hcall, hgiven⟩
    have hkept := (rule_n limit.fsm.n).step timed hruled (le_refl _)
    omega
  · intro timed hlower
    by_cases hsetup : ∃ attempt outcome, timed.call = .result attempt outcome ∧
        (limit.result attempt outcome timed.now).1 = some .setupLimit
    · refine ⟨?_, Or.inr hsetup⟩
      obtain ⟨attempt, outcome, hcall, hruled⟩ := hsetup
      have hstep : limit.step timed = (limit.result attempt outcome timed.now).2 := by
        simp only [Limit.step, hcall]
      rw [hstep] at hlower ⊢
      exact window_of_setupLimit hruled hlower
    · have hruled : NotRuled (fun ruling => ruling = .setupLimit) limit timed := by
        rintro attempt outcome _ hcall hgiven rfl
        exact hsetup ⟨attempt, outcome, hcall, hgiven⟩
      have hkept := (rule_setupN limit.setups.fsm.n limit.setups.window.isSome).step timed hruled
        (Or.inl ⟨le_refl _, id⟩)
      rcases hkept with ⟨hns, -⟩ | ⟨hnone, hwaited⟩
      · omega
      · exact ⟨hnone, Or.inl (isSome_iff_ne_none.mp hwaited)⟩
  · intro hadaptive hmeets
    subst hadaptive
    have hceiling := rule_atCeiling.run (atCeiling_new h1 spread table) hmeets
    exact ⟨hceiling.n, hceiling.setupN⟩
  · intro attempt fresh now ruling hruled hfresh
    obtain ⟨window, stored, hwindow, -, hafter⟩ := result_ruled hruled
    rw [hafter]
    refine connected_le_judged window stored fresh (hfresh.imp_right fun hkind => ?_)
    exact hkind window.kind (by simp [Limit.kinds, hwindow])

/-- A key whose server holds one connection: refused at two, it probes later, and
the pool serves the probe with an idle connection. -/
def reusedProbe : List TimedCall :=
  [⟨.beginAttempt 1 .ordinary 3 (.new 1) true, 0⟩,
    ⟨.conn 1 .connected, 1⟩,
    ⟨.result 1 (.succeeded true), 1⟩,
    ⟨.beginAttempt 2 .ordinary 3 (.new 2) true, 2⟩,
    ⟨.conn 2 .setupEnded, 3⟩,
    ⟨.result 2 (.refused .throttle none false), 3⟩,
    ⟨.setDemand 1 1, 4⟩,
    ⟨.armTest false, 2000⟩,
    ⟨.beginArmed 3 (.new 3) true, 2001⟩,
    ⟨.conn 3 .connected, 2002⟩]

/-- A confirming test begun on a key without a retry budget, where none is due. -/
def begunConfirming : List TimedCall :=
  [⟨.beginAttempt 1 .ordinary 3 (.new 1) true, 0⟩,
    ⟨.conn 1 .connected, 1⟩,
    ⟨.beginAttempt 2 .confirming 2 (.new 2) true, 2⟩,
    ⟨.result 2 (.refused .throttle none false), 3⟩]

/-- A probe that succeeds on a reused connection leaves `N` below what is connected,
and a confirming test begun undue lowers `N` without a retry budget. -/
theorem reused_probe_leaves_n :
    (let limit := Limit.run (C := 3) (by decide) true ⟨fun _ => 1000, 0⟩ {} reusedProbe
     (limit.result 3 (.succeeded false) 2003).1 = some .unfair ∧
        (limit.result 3 (.succeeded false) 2003).2.fsm.n = 1 ∧
        (limit.result 3 (.succeeded false) 2003).2.table.connected = 2) ∧
      (Limit.run (C := 3) (by decide) false ⟨fun _ => 1000, 0⟩ {} begunConfirming).fsm.n = 1 := by
  decide +kernel

theorem numbers_move_by_evidence_three :
    let limit := Limit.run (C := 3) (by decide) true ⟨fun _ => 1000, 0⟩ {} reusedProbe
    (limit.result 3 (.succeeded true) 2003).1 = some .succeeded ∧
      min (limit.result 3 (.succeeded true) 2003).2.table.connected 3 ≤
        (limit.result 3 (.succeeded true) 2003).2.fsm.n := by
  have hruled : ((Limit.run (C := 3) (by decide) true ⟨fun _ => 1000, 0⟩ {} reusedProbe).result 3
      (.succeeded true) 2003).1 = some .succeeded := by decide +kernel
  refine ⟨hruled, ?_⟩
  exact (numbers_move_by_evidence (by decide) true ⟨fun _ => 1000, 0⟩ {} reusedProbe).2.2.2.2.2.1
    3 true 2003 .succeeded hruled (Or.inl rfl)

end GwzCore.SetupRetry.Limit
