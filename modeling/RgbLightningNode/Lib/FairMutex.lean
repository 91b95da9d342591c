import Mathlib.Data.List.Nodup

/-!
# Fair mutexes

A mutex whose waiters form a queue. A release makes the head of the queue the owner,
and the mutex has no owner only when its queue is empty.
-/

structure FairMutex (ι : Type) where
  owner : Option ι
  queue : List ι
  queue_eq_nil : owner = none → queue = []

namespace FairMutex

variable {ι : Type} {m : FairMutex ι} {i j : ι}

def free : FairMutex ι := ⟨none, [], fun _ => rfl⟩

/-- A request for the mutex: it becomes the owner of a free mutex, and the last of the
queue otherwise. -/
def lock (m : FairMutex ι) (i : ι) : FairMutex ι :=
  match m.owner with
  | none => ⟨some i, m.queue, fun h => by cases h⟩
  | some j => ⟨some j, m.queue ++ [i], fun h => by cases h⟩

/-- The head of the queue becomes the owner. -/
def release (m : FairMutex ι) : FairMutex ι :=
  match m.queue with
  | [] => free
  | i :: queue => ⟨some i, queue, fun h => by cases h⟩

/-- Remove the owner, or an element of the queue. -/
def leave [DecidableEq ι] (m : FairMutex ι) (i : ι) : FairMutex ι :=
  if m.owner = some i then m.release
  else ⟨m.owner, m.queue.erase i, fun h => by simp [m.queue_eq_nil h]⟩

theorem owner_lock_of_owner (h : m.owner = some j) : (m.lock i).owner = some j := by
  rw [lock, h]

theorem owner_lock_of_free (h : m.owner = none) : (m.lock i).owner = some i := by
  rw [lock, h]

theorem owner_leave_of_ne [DecidableEq ι] (h : m.owner = some j) (hne : j ≠ i) :
    (m.leave i).owner = some j := by
  rw [leave, if_neg]
  · exact h
  · rw [h]
    exact fun hij => hne (Option.some.inj hij)

/-- The owner or an element of the queue. -/
def Has (m : FairMutex ι) (i : ι) : Prop := m.owner = some i ∨ i ∈ m.queue

theorem not_has_of_free (h : m.owner = none) : ¬m.Has i := by
  rintro (howner | hqueue)
  · cases h.symm.trans howner
  · rw [m.queue_eq_nil h] at hqueue
    cases hqueue

theorem has_lock_self (m : FairMutex ι) (i : ι) : (m.lock i).Has i := by
  rw [lock]
  split
  · exact .inl rfl
  · exact .inr (List.mem_append_right _ (List.mem_singleton_self i))

theorem Has.lock (h : m.Has j) (i : ι) : (m.lock i).Has j := by
  obtain howner | hqueue := h
  · exact .inl (owner_lock_of_owner howner)
  · rw [FairMutex.lock]
    split
    · exact .inr hqueue
    · exact .inr (List.mem_append_left _ hqueue)

/-- A release removes the owner and nothing else. -/
theorem Has.release (h : m.Has j) (hne : m.owner ≠ some j) : m.release.Has j := by
  obtain howner | hqueue := h
  · exact absurd howner hne
  · rw [FairMutex.release]
    split
    · rename_i hnil
      rw [hnil] at hqueue
      cases hqueue
    · rename_i i queue hcons
      rw [hcons] at hqueue
      obtain rfl | hqueue := List.mem_cons.mp hqueue
      · exact .inl rfl
      · exact .inr hqueue

theorem Has.leave [DecidableEq ι] (h : m.Has j) (hne : j ≠ i) : (m.leave i).Has j := by
  rw [FairMutex.leave]
  split
  · rename_i howner
    exact h.release fun hj => hne (Option.some.inj (hj.symm.trans howner))
  · exact h.imp id fun hqueue => (List.mem_erase_of_ne hne).mpr hqueue

/-! ### No duplicates -/

/-- The owner is not in the queue, and the queue has no duplicates. -/
def Once (m : FairMutex ι) : Prop := (m.owner.toList ++ m.queue).Nodup

theorem has_iff_mem : m.Has i ↔ i ∈ m.owner.toList ++ m.queue := by
  rw [Has, List.mem_append, Option.mem_toList]

theorem once_free : (free : FairMutex ι).Once := List.nodup_nil

theorem members_lock (m : FairMutex ι) (i : ι) :
    (m.lock i).owner.toList ++ (m.lock i).queue = m.owner.toList ++ m.queue ++ [i] := by
  rw [lock]
  split
  · rename_i howner
    have hqueue := m.queue_eq_nil howner
    simp [howner, hqueue]
  · rename_i j howner
    simp [howner]

theorem members_release (m : FairMutex ι) :
    m.release.owner.toList ++ m.release.queue = m.queue := by
  rw [release]
  split
  · rename_i hnil
    rw [hnil]
    rfl
  · rename_i i queue hcons
    rw [hcons]
    rfl

theorem has_lock_iff : (m.lock i).Has j ↔ m.Has j ∨ j = i := by
  rw [has_iff_mem, members_lock, List.mem_append, ← has_iff_mem, List.mem_singleton]

theorem Once.lock (h : m.Once) (hi : ¬m.Has i) : (m.lock i).Once := by
  rw [Once, members_lock]
  rw [has_iff_mem] at hi
  exact List.Nodup.append h (by simp) (by simpa using hi)

theorem Once.release (h : m.Once) : m.release.Once := by
  rw [Once, members_release]
  exact (List.nodup_append.mp h).2.1

theorem Once.has_release_iff (h : m.Once) (howner : m.owner = some i) :
    m.release.Has j ↔ m.Has j ∧ j ≠ i := by
  have hqueue : i ∉ m.queue := by
    rw [Once, howner] at h
    exact (List.nodup_cons.mp h).1
  rw [has_iff_mem, members_release, Has, howner]
  constructor
  · intro hj
    refine ⟨.inr hj, ?_⟩
    rintro rfl
    exact hqueue hj
  · rintro ⟨hj | hj, hne⟩
    · exact absurd (Option.some.inj hj).symm hne
    · exact hj

theorem Once.leave [DecidableEq ι] (h : m.Once) (i : ι) : (m.leave i).Once := by
  rw [FairMutex.leave]
  split
  · exact h.release
  · exact h.sublist (List.Sublist.append_left List.erase_sublist _)

theorem Once.has_leave_iff [DecidableEq ι] (h : m.Once) :
    (m.leave i).Has j ↔ m.Has j ∧ j ≠ i := by
  rw [FairMutex.leave]
  split
  · rename_i howner
    exact h.has_release_iff howner
  · rename_i howner
    have hqueue : m.queue.Nodup := (List.nodup_append.mp h).2.1
    rw [Has, Has, hqueue.mem_erase_iff]
    constructor
    · rintro (hj | ⟨hne, hj⟩)
      · refine ⟨.inl hj, ?_⟩
        rintro rfl
        exact howner hj
      · exact ⟨.inr hj, hne⟩
    · rintro ⟨hj | hj, hne⟩
      · exact .inl hj
      · exact .inr ⟨hne, hj⟩

end FairMutex
