import Mathlib

/-!
# A ledger of calls and their answers

Calls carry increasing ids and travel on lanes. A call may be counted, and then
it is owed an answer until it is answered; a call may also be answered without
being counted. The ledger says that no call is answered twice and that a counter
per lane holds exactly the counted calls that have no answer yet. Its rules
follow a call: it enters, it is refused, it is answered.
-/
namespace GwzCore
open Multiset Nat

structure Ledger {κ : Type*} [DecidableEq κ] (counted answered owed : Multiset (ℕ × κ))
    (highest : ℕ) (waiting : κ → ℕ) : Prop where
  balance : ∃ settled uncounted, answered = settled + uncounted ∧ counted = settled + owed
  nodup : ((answered + owed).map Prod.fst).Nodup
  bounded : ∀ call ∈ answered + owed, call.1 ≤ highest
  waiting : ∀ lane, waiting lane = owed.countP fun call => call.2 = lane

namespace Ledger
variable {κ : Type*} [DecidableEq κ] {counted answered owed : Multiset (ℕ × κ)} {highest : ℕ}
  {waiting waiting' : κ → ℕ}

lemma empty : Ledger (0 : Multiset (ℕ × κ)) 0 0 0 fun _ => 0 where
  balance := ⟨0, 0, rfl, rfl⟩
  nodup := by simp
  bounded := by simp
  waiting := by simp

section

variable (h : Ledger counted answered owed highest waiting) {id : ℕ}
include h

/-- Later calls carry higher ids. -/
lemma raise (hid : highest ≤ id) : Ledger counted answered owed id waiting where
  balance := h.balance
  nodup := h.nodup
  bounded := fun call hcall => (h.bounded call hcall).trans hid
  waiting := h.waiting

lemma fresh (hid : highest < id) : id ∉ (answered + owed).map Prod.fst := by
  intro hmem
  obtain ⟨call, hcall, rfl⟩ := mem_map.mp hmem
  exact absurd (h.bounded call hcall) (not_le.mpr hid)

/-- One more call with a new id keeps ids distinct and bounded. -/
lemma nodup_add (lane : κ)
    (hid : highest < id) : (((id, lane) ::ₘ (answered + owed)).map Prod.fst).Nodup := by
  rw [map_cons, nodup_cons]
  exact ⟨h.fresh hid, h.nodup⟩

lemma bounded_add (lane : κ)
    (hid : highest < id) : ∀ call ∈ (id, lane) ::ₘ (answered + owed), call.1 ≤ id := by
  intro call hcall
  rcases mem_cons.mp hcall with rfl | hold
  · exact le_refl _
  · exact (h.bounded call hold).trans (le_of_lt hid)

/-- A call is answered without being counted. -/
lemma refuse (lane : κ)
    (hid : highest < id) : Ledger counted (answered + {(id, lane)}) owed id waiting where
  balance := by
    obtain ⟨settled, uncounted, hanswered, hcounted⟩ := h.balance
    exact ⟨settled, uncounted + {(id, lane)}, by rw [hanswered, add_assoc], hcounted⟩
  nodup := by
    rw [add_right_comm, add_comm _ {(id, lane)}, singleton_add]
    exact h.nodup_add lane hid
  bounded := by
    rw [add_right_comm, add_comm _ {(id, lane)}, singleton_add]
    exact h.bounded_add lane hid
  waiting := h.waiting

/-- A call is counted and waits for its answer. -/
lemma enter (lane : κ) (hid : highest < id)
    (hwaiting : ∀ l, waiting' l = waiting l + if l = lane then 1 else 0) :
    Ledger (counted + {(id, lane)}) answered (owed + {(id, lane)}) id waiting' where
  balance := by
    obtain ⟨settled, uncounted, hanswered, hcounted⟩ := h.balance
    exact ⟨settled, uncounted, hanswered, by rw [hcounted, add_assoc]⟩
  nodup := by
    rw [← add_assoc, add_comm _ {(id, lane)}, singleton_add]
    exact h.nodup_add lane hid
  bounded := by
    rw [← add_assoc, add_comm _ {(id, lane)}, singleton_add]
    exact h.bounded_add lane hid
  waiting := by
    intro l
    have hone : ({(id, lane)} : Multiset (ℕ × κ)).countP (fun call => call.2 = l) =
        if l = lane then 1 else 0 := by
      rw [← cons_zero, countP_cons]
      simp [eq_comm]
    rw [hwaiting, h.waiting, countP_add, hone]

end

/-- Calls that were owed are answered, and the counters fall by what they held. -/
lemma answer {replied : Multiset (ℕ × κ)}
    (h : Ledger counted answered (replied + owed) highest waiting)
    (hwaiting : ∀ l, waiting' l = waiting l - replied.countP fun call => call.2 = l) :
    Ledger counted (answered + replied) owed highest waiting' where
  balance := by
    obtain ⟨settled, uncounted, hanswered, hcounted⟩ := h.balance
    exact ⟨settled + replied, uncounted, by rw [hanswered, add_right_comm],
      by rw [hcounted, add_assoc]⟩
  nodup := by
    rw [add_assoc]
    exact h.nodup
  bounded := by
    rw [add_assoc]
    exact h.bounded
  waiting := by
    intro l
    rw [hwaiting, h.waiting, countP_add, Nat.add_sub_cancel_left]

section

variable (h : Ledger counted answered owed highest waiting)
include h

lemma answered_nodup : (answered.map Prod.fst).Nodup := by
  have hnodup := h.nodup
  rw [map_add] at hnodup
  exact nodup_of_le (le_add_right _ _) hnodup

lemma not_answered {call : ℕ × κ} (hcall : call ∈ owed) : call.1 ∉ answered.map Prod.fst := by
  have hnodup := h.nodup
  rw [Multiset.map_add, Multiset.nodup_add] at hnodup
  exact fun hmem => disjoint_left.mp hnodup.2.2 hmem (mem_map_of_mem _ hcall)

/-- The calls owed an answer are the counted ones that have none. -/
lemma filter_counted (lane : κ) :
    counted.filter (fun call => call.2 = lane ∧ call.1 ∉ answered.map Prod.fst) =
      owed.filter fun call => call.2 = lane := by
  obtain ⟨settled, uncounted, hanswered, hcounted⟩ := h.balance
  rw [hcounted, filter_add]
  have hsettled : settled.filter
      (fun call => call.2 = lane ∧ call.1 ∉ answered.map Prod.fst) = 0 := by
    rw [filter_eq_nil]
    rintro call hcall ⟨_, hnot⟩
    exact hnot (mem_map_of_mem _ (by simp [hanswered, hcall]))
  rw [hsettled, zero_add]
  apply filter_congr
  intro call hcall
  simp [h.not_answered hcall]

/-- Each lane's counter holds its counted calls that have no answer. -/
lemma waiting_eq (lane : κ) :
    waiting lane =
      (counted.filter fun call => call.2 = lane ∧ call.1 ∉ answered.map Prod.fst).card := by
  rw [h.waiting, h.filter_counted, countP_eq_card_filter]

/-- When nothing is owed, every counted call has been answered. -/
lemma mem_answered {call : ℕ × κ} (hcall : call ∈ counted) : call ∈ answered ∨ call ∈ owed := by
  obtain ⟨settled, uncounted, hanswered, hcounted⟩ := h.balance
  rw [hcounted, mem_add] at hcall
  rcases hcall with hsettled | howed
  · left
    simp [hanswered, hsettled]
  · exact .inr howed

end

end Ledger
end GwzCore
