import GT3Code.Base.Trimming

/-! # Paths of segments

A path is written as its segments with a separator between them. Where no segment has the
separator in it, the path tells its segments, and one path lies under another exactly when its
segments go on from the other's.
-/

namespace GT3Code.Base

variable {α : Type}

abbrev joinSegments (separator : α) (segments : List (List α)) : List α :=
  [separator].intercalate segments

def IsSegment (separator : α) (segment : List α) : Prop := segment ≠ [] ∧ separator ∉ segment

/-- The path of a directory, followed by a separator, starts the path. -/
def LiesUnder (separator : α) (directory path : List α) : Prop :=
  directory ++ [separator] <+: path

instance [DecidableEq α] (separator : α) (directory path : List α) :
    Decidable (LiesUnder separator directory path) :=
  inferInstanceAs (Decidable (directory ++ [separator] <+: path))

variable {separator : α} {segments others : List (List α)}

theorem joinSegments_append (hne : segments ≠ []) (hothers : others ≠ []) :
    joinSegments separator (segments ++ others) =
      joinSegments separator segments ++ separator :: joinSegments separator others := by
  induction segments with
  | nil => exact absurd rfl hne
  | cons first rest ih =>
    cases rest with
    | nil =>
      obtain ⟨other, others, rfl⟩ := List.exists_cons_of_ne_nil hothers
      rw [List.singleton_append, joinSegments, joinSegments, List.intercalate_cons_cons,
        List.intercalate_singleton, List.append_assoc, List.singleton_append]
    | cons second rest =>
      have hrest := ih (List.cons_ne_nil second rest)
      simp only [joinSegments, List.cons_append] at hrest ⊢
      rw [List.intercalate_cons_cons, List.intercalate_cons_cons, hrest, List.append_assoc,
        List.append_assoc, List.append_assoc]

theorem joinSegments_nested (segments : List (List α)) (hothers : others ≠ []) :
    joinSegments separator (segments ++ [joinSegments separator others]) =
      joinSegments separator (segments ++ others) := by
  cases segments with
  | nil => rw [List.nil_append, List.nil_append, joinSegments, List.intercalate_singleton]
  | cons first rest =>
    rw [joinSegments_append (List.cons_ne_nil _ _) (List.cons_ne_nil _ _),
      joinSegments_append (List.cons_ne_nil _ _) hothers, joinSegments, joinSegments,
      List.intercalate_singleton]

theorem joinSegments_nested_head (hne : segments ≠ []) (others : List (List α)) :
    joinSegments separator (joinSegments separator segments :: others) =
      joinSegments separator (segments ++ others) := by
  cases others with
  | nil => rw [List.append_nil, joinSegments, List.intercalate_singleton]
  | cons other others =>
    rw [joinSegments_append hne (List.cons_ne_nil _ _), joinSegments,
      List.intercalate_cons_cons, List.append_assoc, List.singleton_append]

variable [DecidableEq α]

theorem liesUnder_joinSegments_iff (hsegments : ∀ segment ∈ segments, IsSegment separator segment)
    (hothers : ∀ segment ∈ others, IsSegment separator segment) (hne : segments ≠ [])
    (hne' : others ≠ []) :
    LiesUnder separator (joinSegments separator segments) (joinSegments separator others) ↔
      ∃ rest, rest ≠ [] ∧ others = segments ++ rest := by
  constructor
  · rintro ⟨tail, htail⟩
    have hrest : tail.splitOn separator ≠ [] := List.splitOn_ne_nil _ _
    refine ⟨tail.splitOn separator, hrest, ?_⟩
    have hfree : ∀ segment ∈ segments ++ tail.splitOn separator, separator ∉ segment := by
      intro segment hsegment
      rcases List.mem_append.mp hsegment with hmem | hmem
      · exact (hsegments segment hmem).2
      · exact notMem_splitOn hmem
    have hjoin : joinSegments separator (segments ++ tail.splitOn separator) =
        joinSegments separator others := by
      rw [joinSegments_append hne hrest, ← htail, joinSegments, joinSegments,
        List.intercalate_splitOn, List.append_assoc, List.singleton_append]
    have hsplit := congrArg (List.splitOn separator) hjoin
    rw [joinSegments, joinSegments, List.splitOn_intercalate separator hfree (by simp [hne]),
      List.splitOn_intercalate separator (fun s hs => (hothers s hs).2) hne'] at hsplit
    exact hsplit.symm
  · rintro ⟨rest, hrest, rfl⟩
    rw [joinSegments_append hne hrest]
    exact ⟨joinSegments separator rest, by rw [List.append_assoc, List.singleton_append]⟩

def firstSegment (separator : α) (path : List α) : List α := path.takeWhile (· ≠ separator)

theorem firstSegment_joinSegments {first : List α} (h : IsSegment separator first)
    (rest : List (List α)) : firstSegment separator (joinSegments separator (first :: rest)) =
      first := by
  have hfirst : ∀ x ∈ first, decide (x ≠ separator) = true := by
    intro x hx
    exact decide_eq_true (fun heq => h.2 (heq ▸ hx))
  cases rest with
  | nil =>
    rw [joinSegments, List.intercalate_singleton, firstSegment]
    exact List.takeWhile_eq_self_iff.mpr hfirst
  | cons second rest =>
    rw [joinSegments, List.intercalate_cons_cons, firstSegment, List.append_assoc,
      List.takeWhile_append_of_pos hfirst, List.singleton_append,
      List.takeWhile_cons_of_neg (by simp), List.append_nil]

end GT3Code.Base
