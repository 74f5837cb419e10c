/-
  RcnetServer.Lib.LockOrder

  Threads that share data under mutexes.

  A thread works in passes: finite lists of operations that take a mutex, touch the
  data it guards, or release it.  `locksHeldAfter` runs a pass on the stack of mutexes
  held and accepts it when every mutex taken ranks above those held, the last taken
  is the first released, and data is touched under its own mutex only.  If all passes
  are accepted from and to the empty stack, then, whatever the interleaving, data is
  never touched by two threads at a time, no thread waits for a mutex of its own, and
  the passes begun come to their end in every order in which the threads can run.
-/

import Mathlib.Algebra.BigOperators.Group.Finset.Basic
import Mathlib.Data.Fintype.Basic
import RcnetServer.Lib.TraceMachine

-- ============================================================================
-- The machine
-- ============================================================================

/-- An operation of a thread on a mutex or on the data it guards. -/
inductive LockOp (M : Type*)
  | acquire (m : M)
  | access (m : M)
  | release (m : M)
deriving DecidableEq

/-- What is left of the pass of each thread, and who owns the mutexes. -/
structure LockState (T M : Type*) where
  rest : T → List (LockOp M) := fun _ => []
  owner : M → Option T := fun _ => none

/-- A thread begins a pass, or does the next operation of the one it is in. -/
inductive LockAction (T M : Type*)
  | begin (t : T) (pass : List (LockOp M))
  | run (t : T)

section Machine

variable {T M : Type*} [DecidableEq T] [DecidableEq M]

namespace LockState

/-- Thread `t` goes on with `ops`. -/
def setRest (s : LockState T M) (t : T) (ops : List (LockOp M)) : LockState T M :=
  { s with rest := Function.update s.rest t ops }

/-- The owner of `m` changes. -/
def setOwner (s : LockState T M) (m : M) (owner : Option T) : LockState T M :=
  { s with owner := Function.update s.owner m owner }

/-- A mutex is taken when nobody owns it, its owner included, and released by its
    owner only. -/
def step (s : LockState T M) : LockAction T M → Option (LockState T M × List (T × LockOp M))
  | .begin t pass =>
      match s.rest t with
      | [] => some (s.setRest t pass, [])
      | _ :: _ => none
  | .run t =>
      match s.rest t with
      | [] => none
      | .acquire m :: ops =>
          if s.owner m = none then
            some ((s.setRest t ops).setOwner m (some t), [(t, .acquire m)])
          else none
      | .access m :: ops => some (s.setRest t ops, [(t, .access m)])
      | .release m :: ops =>
          if s.owner m = some t then
            some ((s.setRest t ops).setOwner m none, [(t, .release m)])
          else none

end LockState

/-- The threads, all idle at first. -/
def lockMachine (T M : Type*) [DecidableEq T] [DecidableEq M] :
    TraceMachine (LockState T M) (LockAction T M) (T × LockOp M) where
  start := {}
  step := LockState.step

/-- The passes begun are those of the threads. -/
def BeginsOnly (passes : T → List (LockOp M) → Prop) :
    LockState T M → List (T × LockOp M) → LockAction T M → Prop
  | _, _, .begin t pass => passes t pass
  | _, _, .run _ => True

namespace LockState

variable {s s' : LockState T M} {es : List (T × LockOp M)} {t t' : T} {m : M}
  {ops : List (LockOp M)}

omit [DecidableEq M] in
@[simp] theorem setRest_rest_self : (s.setRest t ops).rest t = ops := by
  simp [setRest]

omit [DecidableEq M] in
theorem setRest_rest_of_ne (h : t' ≠ t) : (s.setRest t ops).rest t' = s.rest t' := by
  simp [setRest, h]

omit [DecidableEq M] in
@[simp] theorem setRest_owner : (s.setRest t ops).owner = s.owner := rfl

omit [DecidableEq T] in
@[simp] theorem setOwner_rest (o : Option T) : (s.setOwner m o).rest = s.rest := rfl

omit [DecidableEq T] in
theorem setOwner_owner (o : Option T) (m' : M) :
    (s.setOwner m o).owner m' = if m' = m then o else s.owner m' :=
  Function.update_apply s.owner m o m'

/-- What one operation does. -/
theorem run_cases (h : s.step (.run t) = some (s', es)) :
    ∃ op ops, s.rest t = op :: ops ∧ es = [(t, op)] ∧
      ((∃ m, op = .acquire m ∧ s.owner m = none ∧ s' = (s.setRest t ops).setOwner m (some t)) ∨
       (∃ m, op = .access m ∧ s' = s.setRest t ops) ∨
       (∃ m, op = .release m ∧ s.owner m = some t ∧
          s' = (s.setRest t ops).setOwner m none)) := by
  simp only [step] at h
  split at h
  · cases h
  · rename_i m ops hrest
    split at h
    · rename_i hfree
      obtain ⟨rfl, rfl⟩ := Prod.mk.inj (Option.some.inj h)
      exact ⟨_, ops, hrest, rfl, .inl ⟨m, rfl, hfree, rfl⟩⟩
    · cases h
  · rename_i m ops hrest
    obtain ⟨rfl, rfl⟩ := Prod.mk.inj (Option.some.inj h)
    exact ⟨_, ops, hrest, rfl, .inr (.inl ⟨m, rfl, rfl⟩)⟩
  · rename_i m ops hrest
    split at h
    · rename_i howner
      obtain ⟨rfl, rfl⟩ := Prod.mk.inj (Option.some.inj h)
      exact ⟨_, ops, hrest, rfl, .inr (.inr ⟨m, rfl, howner, rfl⟩)⟩
    · cases h

/-- A thread begins a pass when it has finished the last one. -/
theorem begin_cases {pass : List (LockOp M)} (h : s.step (.begin t pass) = some (s', es)) :
    s.rest t = [] ∧ s' = s.setRest t pass ∧ es = [] := by
  simp only [step] at h
  split at h
  · rename_i hrest
    obtain ⟨rfl, rfl⟩ := Prod.mk.inj (Option.some.inj h)
    exact ⟨hrest, rfl, rfl⟩
  · cases h

end LockState

end Machine

-- ============================================================================
-- Passes in order
-- ============================================================================

section Order

variable {M : Type*} [DecidableEq M] (rank : M → Nat)

/-- The mutexes held after `ops`, the last taken first; `none` when `ops` is out of
    order. -/
def locksHeldAfter : List M → List (LockOp M) → Option (List M)
  | held, [] => some held
  | held, .acquire m :: ops =>
      if ∀ h ∈ held, rank h < rank m then locksHeldAfter (m :: held) ops else none
  | held, .access m :: ops => if m ∈ held then locksHeldAfter held ops else none
  | [], .release _ :: _ => none
  | h :: held, .release m :: ops => if h = m then locksHeldAfter held ops else none

/-- `ops` is in order where `held` are held, and leaves them as they are. -/
def LockBalanced (held : List M) (ops : List (LockOp M)) : Prop :=
  locksHeldAfter rank held ops = some held

instance (held : List M) (ops : List (LockOp M)) : Decidable (LockBalanced rank held ops) :=
  inferInstanceAs (Decidable (_ = _))

/-- The scope of a lock guard of `m`, which touches its data and then does `body`. -/
def lockScope (m : M) (body : List (LockOp M)) : List (LockOp M) :=
  .acquire m :: .access m :: (body ++ [.release m])

variable {rank} {held : List M} {ops ops' : List (LockOp M)}

theorem locksHeldAfter_append (held : List M) (ops ops' : List (LockOp M)) :
    locksHeldAfter rank held (ops ++ ops') =
      (locksHeldAfter rank held ops).bind fun held' => locksHeldAfter rank held' ops' := by
  induction ops generalizing held with
  | nil => rfl
  | cons op ops ih =>
      cases op with
      | acquire m =>
          simp only [List.cons_append, locksHeldAfter]
          split
          · exact ih _
          · rfl
      | access m =>
          simp only [List.cons_append, locksHeldAfter]
          split
          · exact ih _
          · rfl
      | release m =>
          cases held with
          | nil => rfl
          | cons h held =>
              simp only [List.cons_append, locksHeldAfter]
              split
              · exact ih _
              · rfl

namespace LockBalanced

theorem nil : LockBalanced rank held [] := rfl

theorem append (h : LockBalanced rank held ops) (h' : LockBalanced rank held ops') :
    LockBalanced rank held (ops ++ ops') := by
  rw [LockBalanced, locksHeldAfter_append, h]
  exact h'

theorem flatMap {α : Type*} {f : α → List (LockOp M)} {l : List α}
    (h : ∀ a ∈ l, LockBalanced rank held (f a)) : LockBalanced rank held (l.flatMap f) := by
  induction l with
  | nil => exact nil
  | cons a l ih =>
      rw [List.flatMap_cons]
      exact (h a List.mem_cons_self).append (ih fun b hb => h b (List.mem_cons_of_mem a hb))

/-- A branch of the code that is taken or not. -/
theorem ite {p : Prop} [Decidable p] (h : LockBalanced rank held ops)
    (h' : LockBalanced rank held ops') :
    LockBalanced rank held (if p then ops else ops') := by
  split
  · exact h
  · exact h'

theorem access {m : M} (hm : m ∈ held) (h : LockBalanced rank held ops) :
    LockBalanced rank held (.access m :: ops) := by
  rw [LockBalanced, locksHeldAfter, if_pos hm]
  exact h

/-- A scope is in order when its mutex ranks above those held and its body is in order
    under it. -/
theorem scope {m : M} (hrank : ∀ h ∈ held, rank h < rank m)
    (hbody : LockBalanced rank (m :: held) ops) : LockBalanced rank held (lockScope m ops) := by
  rw [LockBalanced, lockScope, locksHeldAfter, if_pos hrank, locksHeldAfter,
    if_pos List.mem_cons_self, locksHeldAfter_append, hbody, Option.bind_some, locksHeldAfter,
    if_pos rfl, locksHeldAfter]

end LockBalanced

end Order

-- ============================================================================
-- The stacks of a run
-- ============================================================================

section Run

variable {T M : Type*} [DecidableEq M] {rank : M → Nat} {s s' : LockState T M}
  {tr es : List (T × LockOp M)} {held : T → List M} {t : T} {m : M}

/-- `held` are the stacks of the threads: what is left of a pass is in order on them,
    and a mutex is owned by the thread that holds it. -/
structure LockInv (rank : M → Nat) (s : LockState T M) (held : T → List M) : Prop where
  order : ∀ t, locksHeldAfter rank (held t) (s.rest t) = some []
  sorted : ∀ t, (held t).Pairwise fun h h' => rank h' < rank h
  owned : ∀ m t, s.owner m = some t ↔ m ∈ held t

namespace LockInv

theorem init : LockInv rank ({} : LockState T M) fun _ => [] :=
  ⟨fun _ => rfl, fun _ => .nil, fun _ _ => by simp⟩

/-- A thread that owns a mutex has something left to do. -/
theorem busy_of_owner (inv : LockInv rank s held) (h : s.owner m = some t) : s.rest t ≠ [] := by
  intro hrest
  have horder := inv.order t
  rw [hrest, locksHeldAfter, Option.some.injEq] at horder
  have hmem := (inv.owned m t).mp h
  rw [horder] at hmem
  cases hmem

/-- An idle thread holds nothing. -/
theorem held_of_idle (inv : LockInv rank s held) (h : s.rest t = []) : held t = [] := by
  have horder := inv.order t
  rwa [h, locksHeldAfter, Option.some.injEq] at horder

/-- The next mutex ranks above those held. -/
theorem of_acquire (inv : LockInv rank s held) {ops : List (LockOp M)}
    (h : s.rest t = .acquire m :: ops) :
    (∀ h ∈ held t, rank h < rank m) ∧ locksHeldAfter rank (m :: held t) ops = some [] := by
  have horder := inv.order t
  rw [h, locksHeldAfter] at horder
  split at horder
  · rename_i hrank
    exact ⟨hrank, horder⟩
  · cases horder

/-- Data is touched under its mutex. -/
theorem of_access (inv : LockInv rank s held) {ops : List (LockOp M)}
    (h : s.rest t = .access m :: ops) :
    s.owner m = some t ∧ locksHeldAfter rank (held t) ops = some [] := by
  have horder := inv.order t
  rw [h, locksHeldAfter] at horder
  split at horder
  · rename_i hmem
    exact ⟨(inv.owned m t).mpr hmem, horder⟩
  · cases horder

/-- The last mutex taken is released. -/
theorem of_release (inv : LockInv rank s held) {ops : List (LockOp M)}
    (h : s.rest t = .release m :: ops) :
    ∃ rest, held t = m :: rest ∧ locksHeldAfter rank rest ops = some [] := by
  have horder := inv.order t
  rw [h] at horder
  cases hheld : held t with
  | nil =>
      rw [hheld] at horder
      cases horder
  | cons top rest =>
      rw [hheld, locksHeldAfter] at horder
      split at horder
      · rename_i htop
        subst htop
        exact ⟨rest, rfl, horder⟩
      · cases horder

variable [DecidableEq T]

/-- A new pass is in order on the empty stack. -/
theorem begin (inv : LockInv rank s held) {pass : List (LockOp M)} (idle : s.rest t = [])
    (hpass : LockBalanced rank [] pass) : LockInv rank (s.setRest t pass) held := by
  refine ⟨fun u => ?_, inv.sorted, inv.owned⟩
  by_cases hu : u = t
  · subst hu
    rw [LockState.setRest_rest_self, inv.held_of_idle idle]
    exact hpass
  · rw [LockState.setRest_rest_of_ne hu]
    exact inv.order u

/-- The stacks follow the operations. -/
theorem run (inv : LockInv rank s held) (h : s.step (.run t) = some (s', es)) :
    ∃ held', LockInv rank s' held' := by
  obtain ⟨op, ops, hrest, -, ⟨m, rfl, hfree, rfl⟩ | ⟨m, rfl, rfl⟩ | ⟨m, rfl, howner, rfl⟩⟩ :=
    LockState.run_cases h
  · -- the mutex goes on top of the stack
    obtain ⟨hrank, horder⟩ := inv.of_acquire hrest
    refine ⟨Function.update held t (m :: held t), fun u => ?_, fun u => ?_, fun m' u => ?_⟩
    · by_cases hu : u = t
      · subst hu
        simpa using horder
      · simpa [hu, LockState.setRest_rest_of_ne hu] using inv.order u
    · by_cases hu : u = t
      · subst hu
        simpa using ⟨hrank, inv.sorted u⟩
      · simpa [hu] using inv.sorted u
    · rw [LockState.setOwner_owner, LockState.setRest_owner]
      by_cases hm : m' = m
      · subst hm
        -- nobody held it
        have hnone : ∀ u, m' ∉ held u := fun u hmem => by
          rw [(inv.owned m' u).mpr hmem] at hfree
          cases hfree
        by_cases hu : u = t
        · subst hu
          simp
        · simp [hu, hnone u, Ne.symm hu]
      · by_cases hu : u = t
        · subst hu
          simpa [hm] using inv.owned m' u
        · simpa [hm, hu] using inv.owned m' u
  · obtain ⟨-, horder⟩ := inv.of_access hrest
    refine ⟨held, fun u => ?_, inv.sorted, inv.owned⟩
    by_cases hu : u = t
    · subst hu
      simpa using horder
    · simpa [LockState.setRest_rest_of_ne hu] using inv.order u
  · -- the top of the stack goes
    obtain ⟨rest, hheld, horder⟩ := inv.of_release hrest
    have hsorted := inv.sorted t
    rw [hheld, List.pairwise_cons] at hsorted
    have hnotin : m ∉ rest := fun hmem => absurd (hsorted.1 m hmem) (lt_irrefl _)
    refine ⟨Function.update held t rest, fun u => ?_, fun u => ?_, fun m' u => ?_⟩
    · by_cases hu : u = t
      · subst hu
        simpa using horder
      · simpa [hu, LockState.setRest_rest_of_ne hu] using inv.order u
    · by_cases hu : u = t
      · subst hu
        simpa using hsorted.2
      · simpa [hu] using inv.sorted u
    · rw [LockState.setOwner_owner, LockState.setRest_owner]
      have howned := inv.owned m' u
      by_cases hm : m' = m
      · subst hm
        by_cases hu : u = t
        · subst hu
          simpa using hnotin
        · -- the owner was `t`
          have hother : m' ∉ held u := fun hmem => by
            rw [howned.mpr hmem] at howner
            exact hu (Option.some.inj howner)
          simpa [hu] using hother
      · by_cases hu : u = t
        · subst hu
          rw [hheld, List.mem_cons, or_iff_right hm] at howned
          simpa [hm] using howned
        · simpa [hm, hu] using howned

/-- Runs whose passes are in order have stacks. -/
theorem of_run {passes : T → List (LockOp M) → Prop}
    (inOrder : ∀ t pass, passes t pass → LockBalanced rank [] pass)
    (hr : (lockMachine T M).Run (BeginsOnly passes) s tr) : ∃ held, LockInv rank s held := by
  refine TraceMachine.Run.invariant (P := fun s _ => ∃ held, LockInv rank s held)
    ⟨_, init⟩ ?_ hr
  rintro s tr a s' es _ ⟨held, inv⟩ hok hs
  cases a with
  | begin t pass =>
      obtain ⟨hidle, rfl, rfl⟩ := LockState.begin_cases hs
      exact ⟨held, inv.begin hidle (inOrder t pass hok)⟩
  | run t => exact inv.run hs

-- ============================================================================
-- Nobody waits for ever
-- ============================================================================

/-- A thread in a pass can go on, or waits for a mutex that another one owns and that
    ranks above all it holds itself. -/
theorem runs_or_waits (inv : LockInv rank s held) (busy : s.rest t ≠ []) :
    (s.step (.run t)).isSome = true ∨
    ∃ m u, s.owner m = some u ∧ ∀ h ∈ held t, rank h < rank m := by
  cases hrest : s.rest t with
  | nil => exact absurd hrest busy
  | cons op ops =>
      cases op with
      | acquire m =>
          cases howner : s.owner m with
          | none => exact .inl (by simp [LockState.step, hrest, howner])
          | some u => exact .inr ⟨m, u, howner, (inv.of_acquire hrest).1⟩
      | access m => exact .inl (by simp [LockState.step, hrest])
      | release m =>
          obtain ⟨rest, hheld, -⟩ := inv.of_release hrest
          have howner : s.owner m = some t := (inv.owned m t).mpr (by simp [hheld])
          exact .inl (by simp [LockState.step, hrest, howner])

/-- Somebody can go on while a mutex is owned.  The induction is on the ranks above it:
    its owner can go on, or waits for a mutex of a higher rank. -/
theorem runs_of_owner (inv : LockInv rank s held) {top : Nat} (bound : ∀ m, rank m ≤ top)
    (h : s.owner m = some t) : ∃ u, (s.step (.run u)).isSome = true := by
  induction hn : top - rank m using Nat.strongRecOn generalizing m t with
  | ind n ih =>
      rcases inv.runs_or_waits (inv.busy_of_owner h) with hruns | ⟨m', u, howner, habove⟩
      · exact ⟨t, hruns⟩
      · have hlt := habove m ((inv.owned m t).mp h)
        have htop := bound m'
        exact ih (top - rank m') (by omega) howner rfl

/-- Somebody can go on while somebody is in a pass. -/
theorem progress (inv : LockInv rank s held) {top : Nat} (bound : ∀ m, rank m ≤ top)
    (busy : s.rest t ≠ []) : ∃ u, (s.step (.run u)).isSome = true := by
  rcases inv.runs_or_waits busy with hruns | ⟨m, u, howner, -⟩
  · exact ⟨t, hruns⟩
  · exact inv.runs_of_owner bound howner

end LockInv

end Run

-- ============================================================================
-- Every order comes to an end
-- ============================================================================

section Schedules

variable {T M : Type*} [DecidableEq T] [DecidableEq M] {s s' : LockState T M}
  {es : List (T × LockOp M)} {t : T}

/-- `order` is an order in which the threads can run from `s`, up to `s'`. -/
inductive LockState.Runs : LockState T M → List T → LockState T M → Prop
  | nil (s : LockState T M) : Runs s [] s
  | cons {s s₁ s' : LockState T M} {t : T} {es : List (T × LockOp M)} {order : List T} :
      s.step (.run t) = some (s₁, es) → Runs s₁ order s' → Runs s (t :: order) s'

/-- The operations left in the passes begun. -/
def LockState.remaining [Fintype T] (s : LockState T M) : Nat :=
  ∑ t, (s.rest t).length

omit [DecidableEq T] [DecidableEq M] in
theorem LockState.remaining_eq_zero [Fintype T] :
    s.remaining = 0 ↔ ∀ t, s.rest t = [] := by
  simp [remaining, Finset.sum_eq_zero_iff]

/-- An operation is one less to do. -/
theorem LockState.remaining_run [Fintype T] (h : s.step (.run t) = some (s', es)) :
    s.remaining = s'.remaining + 1 := by
  obtain ⟨op, ops, hrest, -, hcases⟩ := run_cases h
  have hs' : s'.rest = Function.update s.rest t ops := by
    rcases hcases with ⟨_, _, _, rfl⟩ | ⟨_, _, rfl⟩ | ⟨_, _, _, rfl⟩ <;> rfl
  have hothers : ∑ u ∈ Finset.univ.erase t, (s'.rest u).length =
      ∑ u ∈ Finset.univ.erase t, (s.rest u).length := by
    refine Finset.sum_congr rfl fun u hu => ?_
    rw [hs', Function.update_of_ne (Finset.ne_of_mem_erase hu)]
  rw [remaining, remaining, ← Finset.add_sum_erase _ _ (Finset.mem_univ t),
    ← Finset.add_sum_erase _ _ (Finset.mem_univ t), hothers, hs', Function.update_self, hrest,
    List.length_cons]
  omega

/-- An order is as long as the work it does. -/
theorem LockState.Runs.length [Fintype T] {order : List T} (h : s.Runs order s') :
    s.remaining = s'.remaining + order.length := by
  induction h with
  | nil => rfl
  | cons hs _ ih =>
      rw [LockState.remaining_run hs, ih, List.length_cons]
      omega

/-- The stacks follow an order. -/
theorem LockInv.runs {rank : M → Nat} {held : T → List M} {order : List T}
    (inv : LockInv rank s held) (h : s.Runs order s') : ∃ held', LockInv rank s' held' := by
  induction h generalizing held with
  | nil => exact ⟨held, inv⟩
  | cons hs _ ih =>
      obtain ⟨held₁, inv₁⟩ := inv.run hs
      exact ih inv₁

end Schedules

-- ============================================================================
-- What the order of mutexes is good for
-- ============================================================================

section Safe

variable {T M : Type*} [DecidableEq T] [DecidableEq M] [Fintype T]

/-- The promises of a lock discipline. -/
structure LocksSafe (rank : M → Nat) (s : LockState T M) : Prop where
  /-- Data is touched by the owner of its mutex, hence by one thread at a time. -/
  raceFree : ∀ t u m ops ops', s.rest t = .access m :: ops → s.rest u = .access m :: ops' → t = u
  /-- A thread waits for a mutex only while those it holds rank below, so for none of
      its own. -/
  waitsUp : ∀ t m h ops, s.rest t = .acquire m :: ops → s.owner h = some t → rank h < rank m
  /-- The passes begun end, in whatever order the threads run: an order takes one
      operation at a time off what remains, and can be continued as long as something
      remains; then all threads are idle and all mutexes free. -/
  finishes : ∀ order s', s.Runs order s' → s.remaining = s'.remaining + order.length ∧
    (s'.remaining ≠ 0 → ∃ t, (s'.step (.run t)).isSome = true) ∧
    (s'.remaining = 0 → (∀ t, s'.rest t = []) ∧ ∀ m, s'.owner m = none)

/-- Passes in order keep the promises. -/
theorem locksSafe_of_run {rank : M → Nat} {top : Nat} (bound : ∀ m, rank m ≤ top)
    {passes : T → List (LockOp M) → Prop}
    (inOrder : ∀ t pass, passes t pass → LockBalanced rank [] pass) {s : LockState T M}
    {tr : List (T × LockOp M)} (hr : (lockMachine T M).Run (BeginsOnly passes) s tr) :
    LocksSafe rank s := by
  obtain ⟨held, inv⟩ := LockInv.of_run inOrder hr
  refine ⟨?_, ?_, ?_⟩
  · intro t u m ops ops' ht hu
    have howner := (inv.of_access ht).1
    rw [(inv.of_access hu).1] at howner
    exact (Option.some.inj howner).symm
  · intro t m h ops ht howner
    exact (inv.of_acquire ht).1 h ((inv.owned h t).mp howner)
  · intro order s' horder
    obtain ⟨held', inv'⟩ := inv.runs horder
    refine ⟨horder.length, fun hleft => ?_, fun hnone => ?_⟩
    · have hbusy : ∃ t, s'.rest t ≠ [] := by
        by_contra hidle
        push Not at hidle
        exact hleft (LockState.remaining_eq_zero.mpr hidle)
      obtain ⟨t, ht⟩ := hbusy
      exact inv'.progress bound ht
    · have hidle := LockState.remaining_eq_zero.mp hnone
      refine ⟨hidle, fun m => ?_⟩
      cases howner : s'.owner m with
      | none => rfl
      | some t => exact absurd (hidle t) (inv'.busy_of_owner howner)

end Safe
