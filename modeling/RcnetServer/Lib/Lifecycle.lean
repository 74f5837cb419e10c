/-
  RcnetServer.Lib.Lifecycle

  A log whose entries open, use and close keyed resources.

  `phase k log` replays the entries of key `k` through a four-state automaton:
  a key is fresh until it is opened, live until it is closed, ended afterwards,
  and broken as soon as an entry comes out of turn (used or closed while not
  live, opened twice).  `broken` absorbs, so "not broken" passes to prefixes,
  and a reader that has consumed a prefix of a well-formed log knows from the
  next entry alone whether the resource is live for it.

  `replay` is the reader's set of live keys.
-/

import Mathlib.Data.Finset.Basic

/-- What a log entry does to the resource of its key. -/
inductive LifecycleKind
  | opens
  | uses
  | closes
deriving DecidableEq

/-- How far the life of one key has got. -/
inductive LifecyclePhase
  | fresh
  | live
  | ended
  | broken
deriving DecidableEq

namespace Lifecycle

/-- One entry of the key. -/
def next : LifecyclePhase → LifecycleKind → LifecyclePhase
  | .fresh, .opens => .live
  | .live, .uses => .live
  | .live, .closes => .ended
  | _, _ => .broken

@[simp] theorem next_broken (e : LifecycleKind) : next .broken e = .broken := rfl

@[simp] theorem next_ended (e : LifecycleKind) : next .ended e = .broken := rfl

@[simp] theorem next_ne_fresh (p : LifecyclePhase) (e : LifecycleKind) :
    next p e ≠ .fresh := by
  cases p <;> cases e <;> simp [next]

variable {K E : Type*} [DecidableEq K] (key : E → K) (kind : E → LifecycleKind)

/-- The phase of key `k` after the log. -/
def phase (k : K) (log : List E) : LifecyclePhase :=
  (log.filter fun e => key e = k).foldl (fun p e => next p (kind e)) .fresh

/-- No key is broken. -/
def WellFormed (log : List E) : Prop := ∀ k, phase key kind k log ≠ .broken

variable {key kind}

@[simp] theorem phase_nil (k : K) : phase key kind k [] = .fresh := rfl

theorem phase_append_singleton (k : K) (log : List E) (e : E) :
    phase key kind k (log ++ [e]) =
      if key e = k then next (phase key kind k log) (kind e) else phase key kind k log := by
  by_cases h : key e = k <;> simp [phase, h]

/-- An entry moves the phase of its own key. -/
theorem phase_append_self (log : List E) (e : E) :
    phase key kind (key e) (log ++ [e]) = next (phase key kind (key e) log) (kind e) := by
  rw [phase_append_singleton, if_pos rfl]

/-- An entry leaves the phases of the other keys. -/
theorem phase_append_of_ne {k : K} {e : E} (log : List E) (h : key e ≠ k) :
    phase key kind k (log ++ [e]) = phase key kind k log := by
  rw [phase_append_singleton, if_neg h]

/-- Once broken, always broken. -/
theorem phase_append_of_broken {k : K} {log : List E} (rest : List E)
    (h : phase key kind k log = .broken) : phase key kind k (log ++ rest) = .broken := by
  induction rest using List.reverseRecOn with
  | nil => simpa using h
  | append_singleton rest e ih =>
      rw [← List.append_assoc, phase_append_singleton, ih]
      simp

theorem phase_ne_broken_of_append {k : K} {log rest : List E}
    (h : phase key kind k (log ++ rest) ≠ .broken) : phase key kind k log ≠ .broken :=
  fun hb => h (phase_append_of_broken rest hb)

/-- A prefix of a well-formed log is well formed. -/
theorem WellFormed.of_append {log rest : List E} (h : WellFormed key kind (log ++ rest)) :
    WellFormed key kind log :=
  fun k => phase_ne_broken_of_append (h k)

/-- A key is fresh exactly while no entry names it. -/
theorem phase_eq_fresh_iff {k : K} {log : List E} :
    phase key kind k log = .fresh ↔ ∀ e ∈ log, key e ≠ k := by
  induction log using List.reverseRecOn with
  | nil => simp
  | append_singleton log e ih =>
      rw [phase_append_singleton]
      by_cases h : key e = k
      · simp [h]
      · rw [if_neg h, ih]
        exact ⟨fun hlog e' he' => (List.mem_append.mp he').elim (hlog e')
            fun he' => List.mem_singleton.mp he' ▸ h,
          fun hall e' he' => hall e' (List.mem_append_left _ he')⟩

/-- A key once named stays named. -/
theorem phase_ne_fresh_append {k : K} {log : List E} (rest : List E)
    (h : phase key kind k log ≠ .fresh) : phase key kind k (log ++ rest) ≠ .fresh := by
  rw [Ne, phase_eq_fresh_iff] at h ⊢
  exact fun hall => h fun e he => hall e (List.mem_append_left rest he)

/-- Entries of other keys leave the phase where it is. -/
theorem phase_append_of_not_named {k : K} (log : List E) {rest : List E}
    (h : ∀ e ∈ rest, key e ≠ k) : phase key kind k (log ++ rest) = phase key kind k log := by
  have hskip : (rest.filter fun e => decide (key e = k)) = [] :=
    List.filter_eq_nil_iff.mpr fun e he => by simpa using h e he
  rw [phase, phase, List.filter_append, hskip, List.append_nil]

/-- After the end of a key, a well-formed log does not name it again. -/
theorem not_named_of_ended {k : K} {log rest : List E} (h : phase key kind k log = .ended)
    (hwf : phase key kind k (log ++ rest) ≠ .broken) : ∀ e ∈ rest, key e ≠ k := by
  induction rest using List.reverseRecOn with
  | nil => simp
  | append_singleton rest e ih =>
      rw [← List.append_assoc] at hwf
      have hrest := ih (phase_ne_broken_of_append hwf)
      have hended : phase key kind k (log ++ rest) = .ended :=
        (phase_append_of_not_named log hrest).trans h
      intro e' he'
      rcases List.mem_append.mp he' with he' | he'
      · exact hrest e' he'
      · obtain rfl := List.mem_singleton.mp he'
        intro hk
        rw [phase_append_singleton, if_pos hk, hended, next_ended] at hwf
        exact hwf rfl

/-- An ended key of a well-formed log stays ended. -/
theorem phase_append_of_ended {k : K} {log rest : List E} (h : phase key kind k log = .ended)
    (hwf : phase key kind k (log ++ rest) ≠ .broken) :
    phase key kind k (log ++ rest) = .ended :=
  (phase_append_of_not_named log (not_named_of_ended h hwf)).trans h

/-- A key that is live after the whole log was live ever since its first entry. -/
theorem live_of_named {k : K} {log rest : List E}
    (h : phase key kind k (log ++ rest) = .live) (hk : phase key kind k log ≠ .fresh) :
    phase key kind k log = .live := by
  have hnb : phase key kind k (log ++ rest) ≠ .broken := by simp [h]
  cases hp : phase key kind k log with
  | fresh => exact absurd hp hk
  | live => rfl
  | broken => exact absurd hp (phase_ne_broken_of_append hnb)
  | ended =>
      rw [phase_append_of_not_named log (not_named_of_ended hp hnb), hp] at h
      cases h

/-- In a well-formed log, an entry that uses or closes its key finds it live. -/
theorem live_of_next {log rest : List E} {e : E}
    (hwf : phase key kind (key e) (log ++ e :: rest) ≠ .broken) (he : kind e ≠ .opens) :
    phase key kind (key e) log = .live := by
  rw [List.append_cons] at hwf
  have h := phase_ne_broken_of_append hwf
  rw [phase_append_self] at h
  cases hp : phase key kind (key e) log <;> cases hk : kind e <;> simp_all [next]

/-- In a well-formed log, an entry that opens its key finds it fresh. -/
theorem fresh_of_next {log rest : List E} {e : E}
    (hwf : phase key kind (key e) (log ++ e :: rest) ≠ .broken) (he : kind e = .opens) :
    phase key kind (key e) log = .fresh := by
  rw [List.append_cons] at hwf
  have h := phase_ne_broken_of_append hwf
  rw [phase_append_self] at h
  cases hp : phase key kind (key e) log <;> simp_all [next]

/-! ## The shape of one key's entries -/

/-- The entries of a key that is not broken: nothing, or one opening entry
    followed by uses and at most one closing entry, which is then the last. -/
theorem entries_of_ne_broken {k : K} {log : List E} (h : phase key kind k log ≠ .broken) :
    (phase key kind k log = .fresh ∧ (log.filter fun e => key e = k) = []) ∨
    (∃ o us, phase key kind k log = .live ∧ (log.filter fun e => key e = k) = o :: us ∧
      kind o = .opens ∧ ∀ u ∈ us, kind u = .uses) ∨
    (∃ o us c, phase key kind k log = .ended ∧
      (log.filter fun e => key e = k) = o :: us ++ [c] ∧
      kind o = .opens ∧ (∀ u ∈ us, kind u = .uses) ∧ kind c = .closes) := by
  induction log using List.reverseRecOn with
  | nil => simp
  | append_singleton log e ih =>
      have ih := ih (phase_ne_broken_of_append h)
      by_cases hk : key e = k
      · have hfilter : ((log ++ [e]).filter fun e => key e = k) =
            (log.filter fun e => key e = k) ++ [e] := by simp [hk]
        rw [phase_append_singleton, if_pos hk] at h ⊢
        rw [hfilter]
        -- only an opening entry may follow "fresh", only a use or a close "live"
        rcases ih with ⟨hp, hf⟩ | ⟨o, us, hp, hf, ho, hus⟩ | ⟨o, us, c, hp, _⟩
        · rw [hp] at h ⊢
          rw [hf]
          cases he : kind e with
          | opens => exact Or.inr (Or.inl ⟨e, [], rfl, rfl, he, by simp⟩)
          | uses => exact absurd rfl (he ▸ h)
          | closes => exact absurd rfl (he ▸ h)
        · rw [hp] at h ⊢
          rw [hf]
          cases he : kind e with
          | opens => exact absurd rfl (he ▸ h)
          | uses =>
              refine Or.inr (Or.inl ⟨o, us ++ [e], rfl, rfl, ho, ?_⟩)
              intro u hu
              rcases List.mem_append.mp hu with hu | hu
              · exact hus u hu
              · exact List.mem_singleton.mp hu ▸ he
          | closes => exact Or.inr (Or.inr ⟨o, us, e, rfl, rfl, ho, hus, he⟩)
        · rw [hp, next_ended] at h
          exact absurd rfl h
      · have hfilter : ((log ++ [e]).filter fun e => key e = k) =
            log.filter fun e => key e = k := by simp [hk]
        rw [phase_append_singleton, if_neg hk, hfilter]
        exact ih

/-! ## The reader's set of live keys -/

variable (key kind)

/-- One entry, on the set of live keys. -/
def applyEntry (s : Finset K) (e : E) : Finset K :=
  match kind e with
  | .opens => insert (key e) s
  | .uses => s
  | .closes => s.erase (key e)

/-- The live keys after more entries. -/
def replay (s : Finset K) (log : List E) : Finset K := log.foldl (applyEntry key kind) s

variable {key kind}

/-- Replaying the rest of a well-formed log on the keys live after its prefix
    gives the keys live after the whole. -/
theorem mem_replay {s : Finset K} {log rest : List E}
    (hs : ∀ k, k ∈ s ↔ phase key kind k log = .live)
    (hwf : WellFormed key kind (log ++ rest)) (k : K) :
    k ∈ replay key kind s rest ↔ phase key kind k (log ++ rest) = .live := by
  induction rest using List.reverseRecOn generalizing k with
  | nil => simpa [replay] using hs k
  | append_singleton rest e ih =>
      rw [← List.append_assoc] at hwf ⊢
      have hnb := hwf (key e)
      have ih := ih hwf.of_append
      simp only [replay, List.foldl_append, List.foldl_cons, List.foldl_nil] at ih ⊢
      rw [phase_append_self] at hnb
      rw [phase_append_singleton]
      by_cases hk : key e = k
      · subst hk
        have ihk := ih (key e)
        cases hp : phase key kind (key e) (log ++ rest) <;> cases he : kind e <;>
          simp_all [applyEntry, next]
      · rw [if_neg hk, ← ih k]
        cases he : kind e <;> simp [applyEntry, he, Ne.symm hk]

end Lifecycle
