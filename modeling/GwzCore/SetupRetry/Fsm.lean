import GwzCore.SetupRetry.Windows

/-!
# The believed limit, its timer and its evidence

The machine keeps the believed limit between one and the ceiling, and is
saturated exactly at the ceiling; the fields of `Fsm` say so, and every move
keeps them. `N` and `Ns` are two copies of it, each with a probe timer. A refusal
is judged against the target its attempt was admitted at, and the filter says
what it is to the machine.
-/
namespace GwzCore.SetupRetry

/-! ## The machine -/

inductive Fsm.State where
  | discovering
  | stable
  | probing
  | saturated
  | restoring
  deriving DecidableEq

structure Fsm (ceiling : ℕ) where
  n : ℕ
  state : Fsm.State
  pos : 1 ≤ n
  le : n ≤ ceiling
  saturated_iff : state = .saturated ↔ n = ceiling

/-- What a refused probe did to the probe timer. -/
inductive Backoff where
  | double
  | reset
  deriving DecidableEq

namespace Fsm

variable {C : ℕ} {fsm : Fsm C}

/-- Starts saturated at the ceiling. -/
def new (h : 1 ≤ C) : Fsm C := ⟨C, .saturated, h, le_refl _, by simp⟩

/-- `N` reaching the ceiling by any route is saturated. -/
def assign (fsm : Fsm C) (n : ℕ) (state : State) (h : state = .saturated → C ≤ n) : Fsm C where
  n := max 1 (min n C)
  state := if max 1 (min n C) = C then .saturated else state
  pos := le_max_left _ _
  le := max_le (le_trans fsm.pos fsm.le) (min_le_right _ _)
  saturated_iff := by
    have hceiling := le_trans fsm.pos fsm.le
    split
    · rename_i heq
      simp [heq]
    · rename_i hne
      refine ⟨fun hstate => ?_, fun heq => absurd heq hne⟩
      have := h hstate
      omega

/-- A move between states below the ceiling. -/
def withState (fsm : Fsm C) (state : State) (h : fsm.state ≠ .saturated) (h' : state ≠ .saturated) :
    Fsm C :=
  { fsm with
    state
    saturated_iff := by
      have := fsm.saturated_iff
      simp_all }

/-- Any success: `N` is at least what is connected. -/
def success (fsm : Fsm C) (connected : ℕ) : Fsm C :=
  fsm.assign (max fsm.n connected) fsm.state fun h =>
    le_trans (le_of_eq (fsm.saturated_iff.mp h).symm) (le_max_left _ _)

/-- The retry machine is healthy again with `N` below the good one. -/
def beginRestore (fsm : Fsm C) : Fsm C :=
  if h : fsm.state = .saturated then fsm else fsm.withState .restoring h (by simp)

/-- The restore ended short of the ceiling. -/
def endRestore (fsm : Fsm C) : Fsm C :=
  if h : fsm.state = .restoring then fsm.withState .stable (by simp [h]) (by simp) else fsm

/-- A probe has started. -/
def testStarted (fsm : Fsm C) : Fsm C :=
  if h : fsm.state = .stable then fsm.withState .probing (by simp [h]) (by simp) else fsm

/-- What a probe that succeeded does to the state, once its success is counted. -/
def testPassed (fsm : Fsm C) (fair : Bool) : Fsm C :=
  if h : (fsm.state = .probing ∨ fsm.state = .discovering) ∧ fair = true then
    fsm.withState .discovering (by rcases h.1 with h | h <;> simp [h]) (by simp)
  else if h : fsm.state = .probing then fsm.withState .stable (by simp [h]) (by simp)
  else fsm

/-- A probe test succeeded. -/
def testSucceeded (fsm : Fsm C) (connected : ℕ) (fair : Bool) : Fsm C :=
  (fsm.success connected).testPassed fair

/-- A fair refused probe: `N` unchanged. A test in flight when a restore began is
judged, but the restore goes on. -/
def probeRefused (fsm : Fsm C) : Backoff × Fsm C :=
  (if fsm.state = .discovering then .reset else .double,
    if h : fsm.state = .probing ∨ fsm.state = .discovering then
      fsm.withState .stable (by rcases h with h | h <;> simp [h]) (by simp)
    else fsm)

/-- A probe that said nothing. -/
def testInconclusive (fsm : Fsm C) : Fsm C :=
  if h : fsm.state = .probing then fsm.withState .stable (by simp [h]) (by simp) else fsm

/-- An overload: `N` becomes what the server was seen to hold. -/
def overload (fsm : Fsm C) (connected hi : ℕ) : Fsm C :=
  fsm.assign (min connected hi) .stable (by simp)

@[simp] lemma withState_n (state : State) (h h') : (fsm.withState state h h').n = fsm.n := rfl

@[simp] lemma withState_state (state : State) (h h') :
    (fsm.withState state h h').state = state := rfl

lemma n_assign (n : ℕ) (state : State) (h) :
    (fsm.assign n state h).n = max 1 (min n C) := rfl

lemma state_assign (n : ℕ) (state : State) (h) :
    (fsm.assign n state h).state = .saturated ∨ (fsm.assign n state h).state = state := by
  unfold assign
  simp only
  split
  · exact .inl rfl
  · exact .inr rfl

/-- A success raises `N` to what is connected, up to the ceiling, and never lowers it. -/
lemma n_success (connected : ℕ) : (fsm.success connected).n = min (max fsm.n connected) C := by
  have := fsm.pos
  have := fsm.le
  rw [success, n_assign]
  omega

lemma le_n_success (connected : ℕ) : fsm.n ≤ (fsm.success connected).n := by
  rw [n_success]
  have := fsm.le
  omega

lemma state_success (connected : ℕ) :
    (fsm.success connected).state = .saturated ∨ (fsm.success connected).state = fsm.state :=
  state_assign _ _ _

@[simp] lemma n_beginRestore : fsm.beginRestore.n = fsm.n := by
  unfold beginRestore
  split <;> rfl

@[simp] lemma n_endRestore : fsm.endRestore.n = fsm.n := by
  unfold endRestore
  split <;> rfl

@[simp] lemma n_testStarted : fsm.testStarted.n = fsm.n := by
  unfold testStarted
  split <;> rfl

@[simp] lemma n_testPassed (fair : Bool) : (fsm.testPassed fair).n = fsm.n := by
  unfold testPassed
  split
  · rfl
  · split <;> rfl

@[simp] lemma n_testSucceeded (connected : ℕ) (fair : Bool) :
    (fsm.testSucceeded connected fair).n = (fsm.success connected).n :=
  n_testPassed fair

@[simp] lemma n_probeRefused : fsm.probeRefused.2.n = fsm.n := by
  unfold probeRefused
  simp only
  split <;> rfl

@[simp] lemma n_testInconclusive : fsm.testInconclusive.n = fsm.n := by
  unfold testInconclusive
  split <;> rfl

/-- A success leaves a restore only by reaching the ceiling. -/
lemma success_restoring (connected : ℕ) :
    (fsm.success connected).state = .restoring ↔
      fsm.state = .restoring ∧ (fsm.success connected).n < C := by
  have hsaturated := (fsm.success connected).saturated_iff
  have hle := (fsm.success connected).le
  constructor
  · intro hstate
    refine ⟨?_, ?_⟩
    · rcases fsm.state_success connected with h | h
      · simp [h] at hstate
      · rwa [h] at hstate
    · refine lt_of_le_of_ne hle fun heq => ?_
      simp [hsaturated.mpr heq] at hstate
  · rintro ⟨hstate, hlt⟩
    rcases fsm.state_success connected with h | h
    · exact absurd (hsaturated.mp h) (ne_of_lt hlt)
    · rw [h, hstate]

@[simp] lemma testStarted_restoring :
    fsm.testStarted.state = .restoring ↔ fsm.state = .restoring := by
  unfold testStarted
  split <;> simp_all

@[simp] lemma testInconclusive_restoring :
    fsm.testInconclusive.state = .restoring ↔ fsm.state = .restoring := by
  unfold testInconclusive
  split <;> simp_all

@[simp] lemma probeRefused_restoring :
    fsm.probeRefused.2.state = .restoring ↔ fsm.state = .restoring := by
  unfold probeRefused
  simp only
  split
  · rename_i hstate
    rcases hstate with h | h <;> simp [h]
  · rfl

@[simp] lemma testPassed_restoring (fair : Bool) :
    (fsm.testPassed fair).state = .restoring ↔ fsm.state = .restoring := by
  unfold testPassed
  split
  · rename_i hstate
    rcases hstate.1 with h | h <;> simp [h]
  · split <;> simp_all

lemma probing_of_success {connected : ℕ} (h : (fsm.success connected).state = .probing) :
    fsm.state = .probing := by
  rcases fsm.state_success connected with hstate | hstate
  · simp [hstate] at h
  · rwa [hstate] at h

lemma overload_ne_probing (connected hi : ℕ) : (fsm.overload connected hi).state ≠ .probing := by
  have hstate := fsm.state_assign (min connected hi) .stable (by simp)
  unfold overload
  rcases hstate with h | h <;> simp [h]

lemma testInconclusive_ne_probing : fsm.testInconclusive.state ≠ .probing := by
  unfold testInconclusive
  split <;> simp_all

lemma probeRefused_ne_probing : fsm.probeRefused.2.state ≠ .probing := by
  unfold probeRefused
  simp only
  split
  · simp
  · rename_i hstate
    exact fun hprobing => hstate (.inl hprobing)

lemma testPassed_ne_probing (fair : Bool) : (fsm.testPassed fair).state ≠ .probing := by
  unfold testPassed
  split
  · simp
  · split <;> simp_all

/-- A probe that ran fair leaves no state for the first time stable. -/
lemma stable_of_testPassed (h : (fsm.testPassed true).state = .stable) : fsm.state = .stable := by
  unfold testPassed at h
  split at h
  · simp at h
  · split at h
    · simp_all
    · exact h

lemma probing_of_endRestore (h : fsm.endRestore.state = .probing) : fsm.state = .probing := by
  unfold endRestore at h
  split at h
  · simp at h
  · exact h

lemma probing_of_beginRestore (h : fsm.beginRestore.state = .probing) : fsm.state = .probing := by
  unfold beginRestore at h
  split at h
  · exact h
  · simp at h

lemma endRestore_ne_restoring : fsm.endRestore.state ≠ .restoring := by
  unfold endRestore
  split <;> simp_all

lemma beginRestore_restoring (h : fsm.n < C) : fsm.beginRestore.state = .restoring := by
  have hstate : fsm.state ≠ .saturated :=
    fun hstate => absurd (fsm.saturated_iff.mp hstate) (ne_of_lt h)
  simp [beginRestore, hstate]

lemma state_overload (connected hi : ℕ) :
    (fsm.overload connected hi).state = .saturated ∨ (fsm.overload connected hi).state = .stable :=
  state_assign _ _ _

end Fsm

/-! ## The probe timer -/

def t0Ms : ℕ := 500

def tmaxMs : ℕ := 30000

/-- The jitter of each expiry in thousandths, drawn from a source that a key's two
timers share. -/
structure Spread where
  draws : ℕ → ℕ
  used : ℕ := 0

def Spread.draw (spread : Spread) : ℕ × Spread :=
  (max 800 (min (spread.draws spread.used) 1200), { spread with used := spread.used + 1 })

structure Timer where
  gap : ℕ := t0Ms
  deadline : Option ℕ := none
  deriving DecidableEq

namespace Timer

def reset (timer : Timer) : Timer := { timer with gap := t0Ms }

def backOff (timer : Timer) : Timer := { timer with gap := min (timer.gap * 2) tmaxMs }

/-- The next expiry: `now` plus the gap in force, jittered by `permille`. -/
def arm (timer : Timer) (permille now : ℕ) : Timer :=
  { timer with deadline := some (satAdd now (min (timer.gap * permille) u64Max / 1000)) }

/-- Expired already: a test that must run again when the key is quiet. -/
def makeDue (timer : Timer) (now : ℕ) : Timer := { timer with deadline := some now }

def disarm (timer : Timer) : Timer := { timer with deadline := none }

def expired (timer : Timer) (now : ℕ) : Bool :=
  match timer.deadline with
  | none => false
  | some deadline => deadline ≤ now

/-- Backs off or returns to the first gap, as the refused probe says. -/
def refused (timer : Timer) : Backoff → Timer
  | .double => timer.backOff
  | .reset => timer.reset

end Timer

/-! ## The evidence filter -/

/-- What a refused attempt's failure is. -/
inductive Signal where
  | throttle
  | suspect
  | setupDrop
  deriving DecidableEq

inductive Judgement where
  | conclusive
  | inconclusive
  | fair
  | unfair
  | notALimit
  deriving DecidableEq

inductive Evidence where
  | retryMachine
  | inconclusive
  | holdOnly
  | overload
  | confirm
  | unfairTest
  | refusedTest
  deriving DecidableEq

structure Refusal where
  kind : AttemptKind
  signal : Signal
  target : ℕ
  lo : ℕ
  hi : ℕ
  adaptive : Bool
  deriving DecidableEq

/-- A test at `target` ran fair: every connection below it stayed connected. -/
def fair (target lo : ℕ) : Bool := lo + 1 = target

/-- Judges a refusal of an attempt admitted at `target`. -/
def judge (kind : AttemptKind) (target lo hi : ℕ) : Judgement :=
  match kind with
  | .ordinary | .restore | .setupProbe => if hi < target then .conclusive else .inconclusive
  | .confirming =>
    -- nothing else was counted, so a refusal at one is no limit
    if target ≤ 1 then .notALimit else if fair target lo then .fair else .unfair
  | .probe => if fair target lo then .fair else .unfair

/-- What a refusal is to the machine. With nothing else counted it is the retry
machine's, before anything else. -/
def evidence (refusal : Refusal) : Evidence :=
  if refusal.signal = .setupDrop then .retryMachine
  else if !refusal.kind.isNTest && refusal.hi = 0 then .retryMachine
  else if !refusal.adaptive && refusal.signal = .suspect then .retryMachine
  else
    match judge refusal.kind refusal.target refusal.lo refusal.hi with
    | .notALimit => .retryMachine
    | .inconclusive => .inconclusive
    | .unfair => .unfairTest
    | .fair => if refusal.kind = .probe then .refusedTest else .overload
    | .conclusive =>
      if !refusal.adaptive then .holdOnly
      else if refusal.signal = .throttle then .overload else .confirm

/-- Without a budget only a confirming test that ran fair is an overload. -/
lemma evidence_overload_of_not_adaptive {refusal : Refusal} (hadaptive : refusal.adaptive = false)
    (h : evidence refusal = .overload) : refusal.kind = .confirming := by
  obtain ⟨kind, signal, target, lo, hi, adaptive⟩ := refusal
  subst hadaptive
  cases kind <;> simp only [evidence, judge] at h <;> grind

/-- Without a budget no refusal asks for a confirmation. -/
lemma evidence_ne_confirm_of_not_adaptive {refusal : Refusal}
    (hadaptive : refusal.adaptive = false) : evidence refusal ≠ .confirm := by
  obtain ⟨kind, signal, target, lo, hi, adaptive⟩ := refusal
  subst hadaptive
  cases kind <;> simp only [evidence, judge] <;> grind

/-- With a budget, a refused probe ran fair or unfair: nothing else is made of it. -/
lemma evidence_of_probe (refusal : Refusal) (hkind : refusal.kind = .probe)
    (hadaptive : refusal.adaptive = true) (hsignal : refusal.signal ≠ .setupDrop) :
    evidence refusal = .unfairTest ∨ evidence refusal = .refusedTest := by
  obtain ⟨kind, signal, target, lo, hi, adaptive⟩ := refusal
  subst hkind hadaptive
  simp only [evidence, judge, AttemptKind.isNTest]
  grind

end GwzCore.SetupRetry
