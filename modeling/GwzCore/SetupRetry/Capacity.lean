import GwzCore.SetupRetry.Hold
import GwzCore.SetupRetry.Machine

/-!
# The capacity report on the wire

What a member that gave up knows, the detail of a failure that carries it, and the way back.
The numbers are made to fit the wire's ranges. The cause is not read from the wire but derived
again from the numbers, and must agree with the one sent, so clamping must not move a number
across the border the cause is decided at.
-/
namespace GwzCore.SetupRetry
open Option

/-- The largest number of the wire. -/
def i64Max : ℕ := 2 ^ 63 - 1

/-- The local budget a member waited on until its allocation ran out. -/
inductive LocalBudget where
  | jobBudget
  | setupSlots
  | reservation
  deriving DecidableEq

structure LocalWait where
  budget : LocalBudget
  waitedMs : ℕ
  deriving DecidableEq

inductive WireCause where
  | serverThrottle
  | serverRetryAfter
  | local
  deriving DecidableEq

inductive CapacityCause where
  | serverThrottle
  | serverRetryAfter
  | local
  deriving DecidableEq

def CapacityCause.wire : CapacityCause → WireCause
  | .serverThrottle => .serverThrottle
  | .serverRetryAfter => .serverRetryAfter
  | .local => .local

/-- The signal of the wire. -/
inductive CapacitySignal where
  | http429
  | http503
  deriving DecidableEq

/-- The status that ended a throttled member. -/
inductive LastSignal where
  | http429
  | http503
  deriving DecidableEq

def LastSignal.wire : LastSignal → CapacitySignal
  | .http429 => .http429
  | .http503 => .http503

def LastSignal.fromWire : CapacitySignal → LastSignal
  | .http429 => .http429
  | .http503 => .http503

/-- A configured host, with the transport's own type of schemes. -/
structure CapacitySite (Scheme : Type) where
  scheme : Scheme
  host : String
  port : UInt16
  deriving DecidableEq

/-- What a throttled member knows when it gives up. -/
structure ServerCapacity (Scheme : Type) where
  site : Option (CapacitySite Scheme)
  limitApplied : Option ℕ
  maxPerHost : ℕ
  elapsedMs : ℕ
  lastSignal : Option LastSignal
  retryAfterMs : Option ℕ
  /-- How many attempts the server refused, which the wire does not carry. -/
  refusals : Option ℕ
  deriving DecidableEq

/-- The report of a member that finished for want of capacity. -/
inductive CapacityReport (Scheme : Type) where
  | server (known : ServerCapacity Scheme)
  | local
  | localWait (wait : LocalWait)
  deriving DecidableEq

structure CapacityDetail (Scheme : Type) where
  cause : WireCause
  scheme : Option Scheme := none
  host : Option String := none
  port : Option ℤ := none
  limitApplied : Option ℤ := none
  maxPerHost : Option ℤ := none
  elapsedMs : Option ℤ := none
  lastSignal : Option CapacitySignal := none
  retryAfterMs : Option ℤ := none

variable {Scheme : Type}

/-- A wait beyond the time one command holds a host is a cause of its own. -/
def ServerCapacity.cause (server : ServerCapacity Scheme) : CapacityCause :=
  if server.retryAfterMs.any (holdCapMs < ·) then .serverRetryAfter else .serverThrottle

def CapacityReport.cause : CapacityReport Scheme → CapacityCause
  | .server known => known.cause
  | .local | .localWait _ => .local

def saturate (value : ℕ) : ℤ := (min value i64Max : ℕ)

/-- The ceiling of the wire: at least 1. -/
def ServerCapacity.ceiling (server : ServerCapacity Scheme) : ℕ :=
  max (min server.maxPerHost u32Max) 1

def CapacityReport.detail : CapacityReport Scheme → CapacityDetail Scheme
  | .server known =>
    { cause := known.cause.wire
      scheme := known.site.map (·.scheme)
      host := known.site.map (·.host)
      port := known.site.map (·.port.toNat)
      limitApplied := known.limitApplied.map fun limit => max 1 (min (saturate limit) known.ceiling)
      maxPerHost := some known.ceiling
      elapsedMs := some (saturate known.elapsedMs)
      lastSignal := known.lastSignal.map LastSignal.wire
      retryAfterMs := known.retryAfterMs.map saturate }
  | .local | .localWait _ => { cause := .local }

/-- A number of the wire as an unsigned one. -/
def tryNat (value : ℤ) : Option ℕ := if 0 ≤ value then some value.toNat else none

def tryPort (value : ℤ) : Option UInt16 :=
  if 0 ≤ value ∧ value < UInt16.size then some (.ofNat value.toNat) else none

/-- An optional number: missing is fine, out of range is not. -/
def tryOptional : Option ℤ → Option (Option ℕ)
  | some value => (tryNat value).map some
  | none => some none

def siteOf (detail : CapacityDetail Scheme) : Option (Option (CapacitySite Scheme)) :=
  match detail.scheme, detail.host, detail.port with
  | some scheme, some host, some port => (tryPort port).map fun port => some ⟨scheme, host, port⟩
  | none, none, none => some none
  | _, _, _ => none

/-- The report a detail carries, if it carries one that can be worded. -/
def fromDetail (detail : CapacityDetail Scheme) : Option (CapacityReport Scheme) :=
  if detail.cause = CapacityCause.local.wire then some .local
  else do
    let site ← siteOf detail
    let limitApplied ← tryOptional detail.limitApplied
    let maxPerHost ← detail.maxPerHost.bind tryNat
    let elapsedMs ← detail.elapsedMs.bind tryNat
    let retryAfterMs ← tryOptional detail.retryAfterMs
    let server : ServerCapacity Scheme := ⟨site, limitApplied, maxPerHost, elapsedMs,
      detail.lastSignal.map LastSignal.fromWire, retryAfterMs, none⟩
    if detail.cause = server.cause.wire then some (.server server) else none

/-! ### There and back -/

/-- The report without what the wire does not carry, every number clamped to its range. -/
def CapacityReport.clamped : CapacityReport Scheme → CapacityReport Scheme
  | .server known => .server
    { known with
      limitApplied := known.limitApplied.map fun limit => max 1 (min limit known.ceiling)
      maxPerHost := known.ceiling
      elapsedMs := min known.elapsedMs i64Max
      retryAfterMs := known.retryAfterMs.map (min · i64Max)
      refusals := none }
  | .local | .localWait _ => .local

lemma tryNat_natCast (value : ℕ) : tryNat value = some value := by
  simp [tryNat]

lemma tryNat_saturate (value : ℕ) : tryNat (saturate value) = some (min value i64Max) :=
  tryNat_natCast _

lemma tryOptional_map {f : ℕ → ℤ} {g : ℕ → ℕ} (h : ∀ value, f value = g value)
    (value : Option ℕ) : tryOptional (value.map f) = some (value.map g) := by
  cases value <;> simp [tryOptional, h, tryNat_natCast]

lemma tryPort_toNat (port : UInt16) : tryPort port.toNat = some port := by
  simpa [tryPort] using port.toNat_lt

lemma siteOf_detail (server : ServerCapacity Scheme) :
    siteOf (CapacityReport.server server).detail = some server.site := by
  cases hsite : server.site <;> simp [siteOf, CapacityReport.detail, hsite, tryPort_toNat]

lemma fromWire_wire (signal : Option LastSignal) :
    (signal.map LastSignal.wire).map LastSignal.fromWire = signal := by
  cases signal with
  | none => rfl
  | some signal => cases signal <;> rfl

/-- Clamping does not move a wait across the border the cause is decided at. -/
lemma any_min_i64Max (wait : Option ℕ) :
    (wait.map (min · i64Max)).any (holdCapMs < ·) = wait.any (holdCapMs < ·) := by
  have hborder : holdCapMs < i64Max := by decide
  cases wait <;> simp [hborder]

lemma cause_clamped (report : CapacityReport Scheme) : report.clamped.cause = report.cause := by
  cases report with
  | server server =>
    simp only [CapacityReport.clamped, CapacityReport.cause, ServerCapacity.cause, any_min_i64Max]
  | «local» | localWait => rfl

/-- A limit fits the ceiling before it meets the largest number of the wire. -/
lemma clamp_saturate (known : ServerCapacity Scheme) (limit : ℕ) :
    max 1 (min (saturate limit) known.ceiling) = (max 1 (min limit known.ceiling) : ℕ) := by
  have hceiling : known.ceiling ≤ i64Max := by
    simp only [ServerCapacity.ceiling, u32Max, i64Max]
    omega
  simp only [saturate]
  omega

lemma fromDetail_server (known : ServerCapacity Scheme) :
    fromDetail (CapacityReport.server known).detail =
      some (CapacityReport.server known).clamped := by
  have hserver : (CapacityReport.server known).detail.cause ≠ CapacityCause.local.wire := by
    simp only [CapacityReport.detail, ServerCapacity.cause]
    split_ifs <;> decide
  have hcause := cause_clamped (.server known)
  rw [fromDetail, if_neg hserver, siteOf_detail]
  simp only [CapacityReport.detail, tryOptional_map (clamp_saturate known),
    tryOptional_map (fun value => rfl : ∀ value, saturate value = (min value i64Max : ℕ)),
    bind_some, tryNat_natCast, tryNat_saturate, fromWire_wire, bind_eq_bind]
  simp only [CapacityReport.clamped, CapacityReport.cause] at hcause ⊢
  rw [if_pos (by rw [← hcause])]

/-- The reader accepts every detail the program sends: it is the report without what the wire
does not carry, each number clamped, and with the cause that was sent. -/
theorem fromDetail_detail (report : CapacityReport Scheme) :
    fromDetail report.detail = some report.clamped ∧
    report.detail.cause = report.clamped.cause.wire := by
  constructor
  · cases report with
    | server known => exact fromDetail_server known
    | «local» | localWait => rfl
  · rw [cause_clamped]
    cases report <;> rfl

/-- Numbers in range come back as they are, and the refusals do not. -/
example : (CapacityReport.server
      (⟨none, some 2, 4, 9000, some .http429, some 60000, some 3⟩ : ServerCapacity Unit)).clamped =
    .server ⟨none, some 2, 4, 9000, some .http429, some 60000, none⟩ := by
  decide

/-- Which local wait expired does not come back. -/
theorem fromDetail_forgets_local_wait :
    fromDetail (CapacityReport.localWait ⟨.jobBudget, 5⟩ : CapacityReport Unit).detail =
      some .local := by
  decide

end GwzCore.SetupRetry
