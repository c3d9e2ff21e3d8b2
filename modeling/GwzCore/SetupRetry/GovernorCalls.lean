import GwzCore.SetupRetry.Holding
import GwzCore.SetupRetry.Scoped

/-!
# What a call on one site may do

Every call about a site is made of five moves: a slot is made there, a slot there is
replaced without shortening its hold, an operation's notes grow, what the server
holds there changes, and the pool is told. An invariant of the governor that the five
keep is kept by the call.
-/
namespace GwzCore.SetupRetry
open Limit.Keeps Limit Steps

/-- The slot stays on its site, and its hold lasts as long until its end. -/
def Slot.Moves {C : ℕ} (now : ℕ) (slot slot' : Slot C) : Prop :=
  slot'.site = slot.site ∧ slot.limit.Keeps now slot'.limit

namespace Slot

variable {C : ℕ} (slot : Slot C) (conn : ConnId) (now : ℕ)

lemma moves_refl : slot.Moves now slot := ⟨rfl, of_eq rfl⟩

lemma moves_of_hold {limit : Limit C} (h : limit.hold = slot.limit.hold) :
    slot.Moves now { slot with limit } := ⟨rfl, of_eq h⟩

lemma moves_synced : slot.Moves now (slot.synced now).2 := by
  refine ⟨rfl, ?_⟩
  intro time htime hlasts
  obtain ⟨hdue, hhold⟩ := tick_of_lasts htime hlasts
  have hsynced : (slot.synced now).2.limit.hold = slot.limit.hold := by
    simp only [synced, hdue, drainNotes]
    exact (hold_closesSuppressed _ now).trans hhold
  rwa [hsynced]

lemma moves_started (mine clocked : Bool) :
    slot.Moves now (slot.started conn now mine clocked) := by
  refine ⟨rfl, of_eq ?_⟩
  unfold started
  cases mine with
  | true =>
    simp only [if_true]
    split <;> simp
  | false =>
    simp only [Bool.false_eq_true, if_false]
    split <;> simp

lemma moves_saw (seen : Seen) (mine : Bool) : slot.Moves now (slot.saw conn now seen mine) := by
  have hresult : ∀ (event : ConnEvent) (outcome : Outcome),
      slot.limit.Keeps now ((slot.limit.conn conn event now).result conn outcome now).2 :=
    fun event outcome =>
      (of_eq (hold_conn slot.limit conn now event)).trans (keeps_result conn outcome)
  have hfreeze : ∀ event, slot.limit.Keeps now ((slot.limit.conn conn event now).freeze conn) :=
    fun event => of_eq (hold_conn slot.limit conn now event)
  cases seen with
  | started | tcpConnected => exact slot.moves_refl now
  | connected | closing | serverClosed => exact ⟨rfl, hresult _ _⟩
  | setupEnded | retired =>
    cases mine <;> exact ⟨rfl, by first | exact hresult _ _ | exact hfreeze _⟩
  | disposed => exact ⟨rfl, of_eq (hold_conn slot.limit conn now _)⟩

lemma moves_health (change : Machine.Change) : slot.Moves now (slot.health now change) := by
  refine ⟨by cases change <;> rfl, of_eq ?_⟩
  cases change with
  | left | down => rfl
  | healed => exact hold_recovered slot.limit now

lemma moves_exchangeBegins : slot.Moves now (slot.exchangeBegins conn now).2 := by
  unfold exchangeBegins
  simp only
  split
  · refine ⟨rfl, ?_⟩
    have hended : Limit.Keeps now (slot.limit.admitsFirstExchange now).2
        ((slot.limit.admitsFirstExchange now).2.result conn .ended now).2 :=
      keeps_result conn .ended
    intro time htime hlasts
    simpa using hended time htime hlasts
  · exact ⟨rfl, of_eq rfl⟩

lemma moves_answered (mine freshAnswer : Bool) :
    slot.Moves now (slot.answered conn now mine freshAnswer) := by
  have hconn : slot.limit.Keeps now (slot.limit.conn conn .connected now) :=
    of_eq (hold_conn slot.limit conn now .connected)
  unfold answered
  simp only
  split
  · exact ⟨rfl, hconn.trans (keeps_result conn _)⟩
  · split
    · exact ⟨rfl, hconn.trans (of_eq (hold_observedSuccess _ now))⟩
    · exact ⟨rfl, hconn⟩

lemma moves_setupFailed (live : Bool) (signal : Signal) :
    slot.Moves now (slot.setupFailed conn now live signal).2 := by
  unfold setupFailed
  refine ⟨rfl, ?_⟩
  cases live with
  | true =>
    have hfreeze : slot.limit.Keeps now (slot.limit.freeze conn) := of_eq rfl
    exact hfreeze.trans (keeps_result conn _)
  | false => exact keeps_result conn _

end Slot

/-- The site a call is about, if it is about one. -/
def GovernorCall.site : GovernorCall → Option Site
  | .started site _ _ _ => some site
  | .seen site _ _ _ => some site
  | .endpoint _ site _ => some site
  | _ => none

namespace Governor

/-- What an invariant needs of the moves a call on `site` at `now` is made of. -/
structure Rule (now : ℕ) (site : Site) (P : Governor → Prop) : Prop where
  slot : ∀ {governor : Governor} (operation : Operation), P governor →
    P (governor.onBook fun book => book.slot operation site now)
  update : ∀ {governor : Governor} (operation : Operation) {f : ∀ {C : ℕ}, Slot C → Slot C},
    (∀ {C : ℕ} (slot : Slot C), slot.Moves now (f slot)) → P governor →
    P (governor.onBook fun book => book.update operation site f)
  note : ∀ {governor : Governor} (operation : Operation) (notes : List Note), P governor →
    P (governor.onBook fun book => book.note operation site notes)
  setSite : ∀ {governor : Governor} (state : SiteState), P governor →
    P (governor.onBook fun book => book.setSite site state)
  reconcile : ∀ {governor : Governor}, P governor → P (governor.reconcile site)

namespace Rule

variable {now : ℕ} {site : Site} {P : Governor → Prop} {governor : Governor}
  (rule : Rule now site P) (h : P governor)
include rule h

lemma sweepConn (conn : ConnId) : P (governor.onBook fun book => book.sweepConn site now conn) := by
  have hset : P (governor.onBook fun book => book.setSite site { governor.book.siteState site with
        conns := (governor.book.siteState site).conns.erase conn }) := rule.setSite _ h
  unfold Book.sweepConn
  cases htag : (governor.book.siteState site).conns[conn]?.bind (·.tag) with
  | none => simpa only [onBook, htag] using hset
  | some tag =>
    have hslot := rule.slot tag.operation hset
    have hupdate := rule.update tag.operation (f := fun slot =>
      { slot with limit := (slot.limit.result conn .ended now).2 })
      (fun slot => ⟨rfl, keeps_result conn .ended⟩) hslot
    simpa only [onBook, htag] using hupdate

lemma sweep : P (governor.onBook fun book => book.sweep site now) := by
  -- the pool is not told while setups are swept, so the loop is one over the book
  have hstep : ∀ book conn, P { governor with book } →
      P { governor with book := book.sweepConn site now conn } := by
    intro book conn hbook
    exact rule.sweepConn hbook conn
  exact foldl_induction (P := fun book => P { governor with book }) h hstep _

lemma sync (operation : Operation) : P (governor.sync operation site now) := by
  unfold Governor.sync
  split
  · exact h
  · rename_i notes _
    have hupdate := rule.update operation (f := fun slot => (slot.synced now).2)
      (fun slot => slot.moves_synced now) h
    exact rule.reconcile (rule.sweep (rule.note operation notes hupdate))

lemma syncSite : P (governor.syncSite site now) :=
  foldl_induction h (fun _ operation hgovernor => rule.sync hgovernor operation) _

lemma enter (operation : Operation) : P (governor.enter operation site now) :=
  rule.sync (rule.slot operation h) operation

lemma withSlot (operation : Operation) {α : Type} {f : ∀ {C : ℕ}, Slot C → α × Slot C}
    (hf : ∀ {C : ℕ} (slot : Slot C), slot.Moves now (f slot).2) :
    P (governor.withSlot operation site now f).2 := by
  unfold Governor.withSlot
  split
  · exact rule.syncSite
      (rule.update operation (f := fun slot => (f slot).2) hf (rule.enter h operation))
  · exact h

lemma startedOn (conn : ConnId) (operation : Operation) (mine clocked : Bool) :
    P (governor.startedOn site conn now operation mine clocked) :=
  rule.sync (rule.update operation (f := fun slot => slot.started conn now mine clocked)
    (fun slot => slot.moves_started conn now mine clocked) (rule.slot operation h)) operation

lemma started (conn : ConnId) (tag : Option Tag) (clocked : Bool) :
    P (governor.started site conn now tag clocked) :=
  foldl_induction (rule.setSite _ h)
    (fun _ operation hgovernor => rule.startedOn hgovernor conn operation _ clocked) _

lemma tcpConnected (ms : ℕ) : P (governor.tcpConnected site now ms) := by
  have hstep : ∀ book operation, P { governor with book } →
      P { governor with book := (book.slot operation site now).update operation site fun slot =>
        { slot with limit := slot.limit.connectTime ms } } := by
    intro book operation hbook
    exact rule.update operation (f := fun slot => { slot with limit := slot.limit.connectTime ms })
      (fun slot => ⟨rfl, of_eq rfl⟩) (rule.slot operation hbook)
  exact foldl_induction (P := fun book => P { governor with book }) (rule.setSite _ h) hstep _

lemma sawOn (conn : ConnId) (seen : Seen) (operation : Operation) (mine : Bool) :
    P (governor.sawOn site conn now seen operation mine) :=
  rule.sync (rule.update operation (f := fun slot => slot.saw conn now seen mine)
    (fun slot => slot.moves_saw conn now seen mine) (rule.slot operation h)) operation

lemma seen (conn : ConnId) (https : Bool) (seen : Seen) :
    P (governor.seen site conn now https seen) := by
  unfold Governor.seen
  split
  · exact rule.tcpConnected h _
  · split
    · exact h
    · refine rule.reconcile (foldl_induction (rule.setSite _ h) ?_ _)
      intro _ operation hgovernor
      exact rule.sawOn hgovernor conn _ operation _

lemma answered (operation : Operation) (conn : ConnId) :
    P (governor.answered operation site now conn) := by
  refine rule.syncSite (foldl_induction (rule.setSite _ h) ?_ _)
  intro _ other hgovernor
  exact rule.update other (fun slot => slot.moves_answered conn now _ _) hgovernor

lemma holdSlot (operation other : Operation) (wait : ℕ) (asked judged post : Bool) :
    P (governor.holdSlot operation site now wait asked judged post other) := by
  unfold Governor.holdSlot
  split
  · exact h
  · exact rule.update other
      (f := fun slot => { slot with limit := slot.limit.setHold wait post now })
      (fun slot => ⟨rfl, keeps_setHold wait post⟩) h

lemma refused (operation : Operation) (conn : ConnId) (signal : Signal) (retryAfterMs : Option ℕ)
    (post : Bool) : P (governor.refused operation site now conn signal retryAfterMs post).2 := by
  have hjudged : P (governor.withSlot operation site now fun slot =>
      slot.refused conn now signal retryAfterMs post).2 :=
    rule.withSlot h operation (fun slot => ⟨rfl, keeps_result conn _⟩)
  unfold Governor.refused
  simp only
  split
  · exact hjudged
  · refine rule.syncSite (foldl_induction hjudged ?_ _)
    intro _ other hgovernor
    exact rule.holdSlot hgovernor operation other _ _ _ post

lemma setupFailed (operation : Operation) (member : ℕ) (signal : Signal) :
    P (governor.setupFailed operation site now member signal).2 := by
  have henter := rule.enter h operation
  unfold Governor.setupFailed
  split
  · simp only
    split
    · exact rule.syncSite henter
    · exact rule.syncSite (rule.update operation
        (fun slot => slot.moves_setupFailed _ now _ signal) (rule.setSite _ henter))
  · exact h

/-- A call of an operation about the site keeps what the moves keep. -/
lemma scopedStep (operation : Operation) (call : ScopedCall) :
    P (governor.scopedStep operation site now call) := by
  cases call with
  | admission =>
    exact rule.withSlot h operation (f := fun slot => slot.admission now)
      (fun slot => slot.moves_of_hold now (hold_gateOpen slot.limit now))
  | health change =>
    exact rule.withSlot h operation (f := fun slot => ((), slot.health now change))
      (fun slot => slot.moves_health now change)
  | exchangeMayBegin =>
    exact rule.withSlot h operation (f := fun slot => ((slot.limit.admitsFirstExchange now).1,
      { slot with limit := (slot.limit.admitsFirstExchange now).2 }))
      (fun slot => slot.moves_of_hold now rfl)
  | continuingMayBegin =>
    exact rule.withSlot h operation (f := fun slot => ((slot.limit.admitsContinuing now).1,
      { slot with limit := (slot.limit.admitsContinuing now).2 }))
      (fun slot => slot.moves_of_hold now rfl)
  | exchangeBegins conn =>
    exact rule.withSlot h operation (f := fun slot => slot.exchangeBegins conn now)
      (fun slot => slot.moves_exchangeBegins conn now)
  | answered conn => exact rule.answered h operation conn
  | refused conn signal retryAfterMs post =>
    exact rule.refused h operation conn signal retryAfterMs post
  | setupFailed member signal => exact rule.setupFailed h operation member signal
  | setDemand needingNew nonFinal =>
    exact rule.update operation
      (f := fun slot => { slot with limit := slot.limit.setDemand needingNew nonFinal now })
      (fun slot => slot.moves_of_hold now (hold_setDemand slot.limit now needingNew nonFinal))
      (rule.slot operation h)
  | startTest carrierFinal =>
    exact rule.withSlot h operation (f := fun slot => ((slot.limit.armTest carrierFinal now).1,
      { slot with limit := (slot.limit.armTest carrierFinal now).2 }))
      (fun slot => slot.moves_of_hold now (hold_armTest slot.limit now carrierFinal))
  | dropToken arm =>
    exact rule.reconcile (rule.update operation
      (f := fun slot => { slot with limit := slot.limit.disarm arm })
      (fun slot => slot.moves_of_hold now (hold_disarm slot.limit arm)) h)
  | view =>
    simp only [Governor.scopedStep, Governor.view]
    split
    · exact h
    · exact rule.withSlot h operation (f := fun slot => (slot.view, slot))
        (fun slot => slot.moves_refl now)

/-- A call about the site keeps what the moves keep. -/
lemma siteStep {call : GovernorCall} (hsite : call.site = some site) :
    P (governor.step ⟨call, now⟩) := by
  cases call with
  | started _ conn tag clocked =>
    cases hsite
    exact rule.started h conn tag clocked
  | seen _ conn https seen =>
    cases hsite
    exact rule.seen h conn https seen
  | endpoint operation _ call =>
    cases hsite
    exact rule.scopedStep h operation call
  | _ => cases hsite

end Rule

end Governor

end GwzCore.SetupRetry
