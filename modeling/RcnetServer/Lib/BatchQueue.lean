/-
  RcnetServer.Lib.BatchQueue

  A queue whose reader swaps the whole content out.

  `batchQueue α` is the queue as a machine: pushes at the back and drains, in any
  interleaving.  What has been drained, followed by what is queued, is what has
  been pushed (`batchQueue_conserves`).

  A drained batch is often coalesced: of the items with one key only the last is
  kept, by writing them into a map in order (`UnorderedMap.lookup_foldl_insert`).
-/

import Mathlib.Data.List.Basic
import RcnetServer.Lib.TraceMachine
import RcnetServer.Lib.UnorderedMap

-- ============================================================================
-- The queue
-- ============================================================================

/-- What can happen to the queue. -/
inductive QueueAction (α : Type*)
  | push (item : α)
  | drain

/-- What has happened to the queue. -/
inductive QueueEvent (α : Type*)
  | pushed (item : α)
  | drained (batch : List α)

/-- A queue drained by swapping its content with an empty one. -/
def batchQueue (α : Type*) : TraceMachine (List α) (QueueAction α) (QueueEvent α) where
  start := []
  step queue action :=
    match action with
    | .push item => some (queue ++ [item], [.pushed item])
    | .drain => some ([], [.drained queue])

namespace QueueEvent

variable {α : Type*}

@[simp] def item : QueueEvent α → Option α
  | .pushed item => some item
  | .drained _ => none

@[simp] def batch : QueueEvent α → Option (List α)
  | .pushed _ => none
  | .drained batch => some batch

end QueueEvent

section BatchQueue

variable {α : Type*} {queue : List α} {tr : List (QueueEvent α)}

/-- The items pushed, in order. -/
def pushedItems (tr : List (QueueEvent α)) : List α :=
  tr.filterMap QueueEvent.item

/-- The batches drained, in order. -/
def drainedBatches (tr : List (QueueEvent α)) : List (List α) :=
  tr.filterMap QueueEvent.batch

@[simp] theorem pushedItems_append (tr tr' : List (QueueEvent α)) :
    pushedItems (tr ++ tr') = pushedItems tr ++ pushedItems tr' :=
  List.filterMap_append

@[simp] theorem drainedBatches_append (tr tr' : List (QueueEvent α)) :
    drainedBatches (tr ++ tr') = drainedBatches tr ++ drainedBatches tr' :=
  List.filterMap_append

@[simp] theorem pushedItems_pushed (item : α) : pushedItems [.pushed item] = [item] := rfl
@[simp] theorem pushedItems_drained (batch : List α) : pushedItems [.drained batch] = [] := rfl
@[simp] theorem drainedBatches_pushed (item : α) : drainedBatches [.pushed item] = [] := rfl

@[simp] theorem drainedBatches_drained (batch : List α) :
    drainedBatches [.drained batch] = [batch] := rfl

/-- Nothing is lost, repeated or reordered. -/
theorem batchQueue_conserves (hr : (batchQueue α).Reach queue tr) :
    (drainedBatches tr).flatten ++ queue = pushedItems tr := by
  refine TraceMachine.Run.invariant
    (P := fun queue tr => (drainedBatches tr).flatten ++ queue = pushedItems tr) rfl ?_ hr
  intro queue tr action queue' es _ ih _ hs
  cases action with
  | push item =>
      obtain ⟨rfl, rfl⟩ := Prod.mk.inj (Option.some.inj hs)
      rw [pushedItems_append, drainedBatches_append, ← ih]
      simp
  | drain =>
      obtain ⟨rfl, rfl⟩ := Prod.mk.inj (Option.some.inj hs)
      rw [pushedItems_append, drainedBatches_append, ← ih]
      simp

/-- The same of the items with a property, taken batch by batch. -/
theorem batchQueue_conserves_filter (hr : (batchQueue α).Reach queue tr) (p : α → Bool) :
    ((drainedBatches tr).flatMap fun batch => batch.filter p) ++ queue.filter p =
      (pushedItems tr).filter p := by
  rw [← batchQueue_conserves hr, List.filter_append, List.filter_flatten, List.flatMap_def]

end BatchQueue

-- ============================================================================
-- Coalescing a batch
-- ============================================================================

namespace UnorderedMap

variable {K V : Type*} [DecidableEq K]

/-- Writing a list into a map in order leaves the last item of each key. -/
theorem lookup_foldl_insert (key : V → K) (batch : List V) (m : UnorderedMap K V) (k : K) :
    AList.lookup k (batch.foldl (fun m v => AList.insert (key v) v m) m) =
      ((batch.filter fun v => key v = k).getLast?).or (AList.lookup k m) := by
  induction batch generalizing m with
  | nil => simp
  | cons v rest ih =>
      rw [List.foldl_cons, ih, lookup_insert]
      by_cases hv : key v = k
      · rw [if_pos hv.symm, List.filter_cons_of_pos (by simpa using hv), List.getLast?_cons]
        cases (rest.filter fun v => decide (key v = k)).getLast? <;> rfl
      · rw [if_neg (Ne.symm hv), List.filter_cons_of_neg (by simpa using hv)]

end UnorderedMap

/-- What is kept of a batch is part of it. -/
theorem getLast?_toList_sublist {α : Type*} (batch : List α) :
    batch.getLast?.toList.Sublist batch := by
  cases hlast : batch.getLast? with
  | none => exact List.nil_sublist _
  | some a => exact List.singleton_sublist.mpr (List.mem_of_getLast? hlast)

/-- Where the keys are distinct, one key has at most one item, so any relation holds
    between its items. -/
theorem pairwise_filter_of_nodup_map {α K : Type*} (key : α → K) {batch : List α}
    (h : (batch.map key).Nodup) (k : K) (r : α → α → Prop) {p : α → Bool}
    (hp : ∀ a, p a = true → key a = k) : (batch.filter p).Pairwise r := by
  have hne : (batch.filter p).Pairwise fun a b => key a ≠ key b :=
    (List.pairwise_map.mp h).sublist List.filter_sublist
  refine hne.imp_of_mem ?_
  intro a b ha hb hab
  exact absurd ((hp a (List.mem_filter.mp ha).2).trans (hp b (List.mem_filter.mp hb).2).symm) hab

/-- What holds in order among the items of each key. -/
theorem pairwise_of_pairwise_filter {α K : Type*} [DecidableEq K] {key : α → K} {batch : List α}
    {r : α → α → Prop} (h : ∀ k, (batch.filter fun a => key a = k).Pairwise r) :
    batch.Pairwise fun a b => key a = key b → r a b := by
  refine List.pairwise_iff_forall_sublist.mpr ?_
  intro a b hab hkey
  have hpair := hab.filter fun x => decide (key x = key b)
  rw [List.filter_cons_of_pos (by simpa using hkey), List.filter_cons_of_pos (by simp)] at hpair
  exact List.pairwise_iff_forall_sublist.mp (h (key b)) hpair

/-- The last of the items with a property, if there is one, is the item itself or a
    later one. -/
theorem getLast?_filter_of_mem {α : Type*} {p : α → Bool} (pre post : List α) {a : α}
    (ha : p a = true) :
    ((pre ++ a :: post).filter p).getLast? = some a ∨
      ∃ b ∈ post, p b = true ∧ ((pre ++ a :: post).filter p).getLast? = some b := by
  rw [List.filter_append, List.filter_cons_of_pos ha, List.getLast?_append, List.getLast?_cons]
  cases hlast : (post.filter p).getLast? with
  | none => exact Or.inl rfl
  | some b =>
      obtain ⟨hb, hpb⟩ := List.mem_filter.mp (List.mem_of_getLast? hlast)
      exact Or.inr ⟨b, hb, hpb, rfl⟩
