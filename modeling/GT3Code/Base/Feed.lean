import Mathlib.Data.List.Basic

/-! # A feed with one subscriber

A source commits rows in batches and publishes each of them afterwards, one by one.
A subscriber receives exactly the rows published after it subscribed, in order. What
it can still receive is what its queue holds and what is committed but not published.
-/

namespace GT3Code.Base

universe u

variable {α : Type u}

/-- `subscription` is the subscriber's queue, absent until it subscribes. -/
structure Feed (α : Type u) where
  published : List α
  unpublished : List α
  subscription : Option (List α)

namespace Feed

def committed (feed : Feed α) : List α := feed.published ++ feed.unpublished

def pending (feed : Feed α) : List α := feed.subscription.getD [] ++ feed.unpublished

def settled (rows : List α) : Feed α := ⟨rows, [], none⟩

/-- The source commits its next batch once the previous one is published. -/
def commit (rows : List α) (feed : Feed α) : Option (Feed α) :=
  if feed.unpublished.isEmpty then some { feed with unpublished := rows } else none

def publish (feed : Feed α) : Option (Feed α) :=
  match feed.unpublished with
  | [] => none
  | row :: rows =>
    some ⟨feed.published ++ [row], rows, feed.subscription.map (fun queue => queue ++ [row])⟩

def subscribe (feed : Feed α) : Option (Feed α) :=
  match feed.subscription with
  | none => some { feed with subscription := some [] }
  | some _ => none

def take (feed : Feed α) : Option (α × Feed α) :=
  match feed.subscription with
  | some (row :: queue) => some (row, { feed with subscription := some queue })
  | _ => none

variable {feed next : Feed α}

@[simp] theorem committed_settled (rows : List α) : (settled rows).committed = rows := by
  simp [settled, committed]

theorem commit_eq_some {rows : List α} (h : feed.commit rows = some next) :
    next.committed = feed.committed ++ rows ∧ next.subscription = feed.subscription ∧
      next.pending = feed.pending ++ rows := by
  unfold commit at h
  split at h
  · rename_i hsettled
    cases h
    have hnone := List.isEmpty_iff.mp hsettled
    simp [committed, pending, hnone]
  · cases h

theorem publish_eq_some (h : feed.publish = some next) :
    ∃ row rows, feed.unpublished = row :: rows ∧ next.committed = feed.committed ∧
      next.subscription = feed.subscription.map (fun queue => queue ++ [row]) ∧
      next.unpublished = rows := by
  unfold publish at h
  cases hrows : feed.unpublished with
  | nil => simp [hrows] at h
  | cons row rows =>
    rw [hrows] at h
    cases h
    exact ⟨row, rows, rfl, by simp [committed, hrows], rfl, rfl⟩

theorem pending_publish (h : feed.publish = some next) (hsubscribed : feed.subscription.isSome) :
    next.pending = feed.pending := by
  obtain ⟨row, rows, hrows, -, hqueue, hrest⟩ := publish_eq_some h
  obtain ⟨queue, hsome⟩ := Option.isSome_iff_exists.mp hsubscribed
  simp [pending, hrows, hqueue, hrest, hsome]

theorem subscribe_eq_some (h : feed.subscribe = some next) :
    next.committed = feed.committed ∧ next.subscription = some [] ∧
      next.pending = feed.unpublished := by
  unfold subscribe at h
  cases hsubscription : feed.subscription with
  | none =>
    rw [hsubscription] at h
    cases h
    simp [committed, pending]
  | some queue => simp [hsubscription] at h

theorem take_eq_some {row : α} (h : feed.take = some (row, next)) :
    next.committed = feed.committed ∧ next.subscription.isSome ∧
      feed.pending = row :: next.pending := by
  unfold take at h
  split at h
  · rename_i head queue hsubscription
    cases h
    simp [committed, pending, hsubscription]
  · cases h

end Feed

end GT3Code.Base
