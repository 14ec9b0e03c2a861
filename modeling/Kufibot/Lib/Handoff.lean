import Mathlib.Data.List.Basic

/-!
# `Lib.Handoff` — values handed over to a consumer that takes all of them at once

Producers add to a store that is pending; the consumer swaps the whole store out and works it off, while the
producers fill the next one. Two kinds of store:

* a queue keeps everything: what is done, in hand and pending is what was sent, in order (`Delivers`);
* a slot keeps the last value only: what is done, in hand and pending is some of what was put, in order, and
  ends with the last (`Latest`).

Each comes with its three steps, which are all that an induction over a run needs.
-/

namespace Lib

variable {α : Type*}

/-! ## Queues -/

/-- Everything sent is done, in hand or pending, in this order. -/
def Delivers (sent done inHand pending : List α) : Prop := done ++ (inHand ++ pending) = sent

namespace Delivers

variable {sent done inHand pending : List α}

theorem nil : Delivers ([] : List α) [] [] [] := rfl

theorem send (h : Delivers sent done inHand pending) (a : α) :
    Delivers (sent ++ [a]) done inHand (pending ++ [a]) := by
  unfold Delivers at h ⊢
  rw [← h, List.append_assoc, List.append_assoc]

/-- The consumer takes the store when it has nothing left. -/
theorem take (h : Delivers sent done [] pending) : Delivers sent done pending [] := by
  unfold Delivers at h ⊢
  rwa [List.append_nil]

theorem work {a : α} (h : Delivers sent done (a :: inHand) pending) :
    Delivers sent (done ++ [a]) inHand pending := by
  unfold Delivers at h ⊢
  rwa [List.append_assoc]

end Delivers

/-! ## Slots -/

/-- Some of what was put is done, in hand or pending, in this order, and the last of it is. -/
structure Latest (sent done : List α) (inHand pending : Option α) : Prop where
  sublist : (done ++ (inHand.toList ++ pending.toList)).Sublist sent
  last : (done ++ (inHand.toList ++ pending.toList)).getLast? = sent.getLast?

namespace Latest

variable {sent done : List α} {inHand pending : Option α}

theorem nil : Latest ([] : List α) [] none none := ⟨List.Sublist.refl _, rfl⟩

/-- A new value replaces the one that is pending. -/
theorem put (h : Latest sent done inHand pending) (a : α) : Latest (sent ++ [a]) done inHand (some a) where
  sublist := by
    have hdone : (done ++ inHand.toList).Sublist sent := by
      refine List.Sublist.trans ?_ h.sublist
      rw [← List.append_assoc]
      exact List.sublist_append_left _ _
    rw [← List.append_assoc]
    exact hdone.append (List.Sublist.refl [a])
  last := by
    rw [← List.append_assoc]
    simp

theorem take (h : Latest sent done none pending) : Latest sent done pending none where
  sublist := by simpa using h.sublist
  last := by simpa using h.last

theorem work {a : α} (h : Latest sent done (some a) pending) : Latest sent (done ++ [a]) none pending where
  sublist := by simpa using h.sublist
  last := by simpa using h.last

/-- With nothing in hand and nothing pending, the last value put is the last done. -/
theorem last_done (h : Latest sent done none none) : done.getLast? = sent.getLast? := by
  simpa using h.last

/-- What is in hand was put. -/
theorem mem_of_inHand {a : α} (h : Latest sent done (some a) pending) : a ∈ sent :=
  h.sublist.subset (List.mem_append_right _ (List.mem_append_left _ (List.mem_singleton.mpr rfl)))

end Latest

end Lib
