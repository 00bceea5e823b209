import Mathlib.Data.List.Infix
import Mathlib.Data.List.TakeWhile

/-! # Trimming and splitting

What is left of a list without the ends that a predicate picks, and the pieces of a list
between separators.
-/

namespace GT3Code.Base

variable {α : Type}

def trimWhere (p : α → Bool) (xs : List α) : List α :=
  ((xs.dropWhile p).reverse.dropWhile p).reverse

def TrimmedFor (p : α → Bool) (xs : List α) : Prop :=
  (∀ x ∈ xs.head?, p x = false) ∧ ∀ x ∈ xs.getLast?, p x = false

variable {p : α → Bool} {xs : List α} {x : α}

theorem dropWhile_of_head (h : ∀ x ∈ xs.head?, p x = false) : xs.dropWhile p = xs := by
  cases xs with
  | nil => rfl
  | cons x xs => rw [List.dropWhile_cons_of_neg (by simpa using h x rfl)]

theorem head_dropWhile (p : α → Bool) (xs : List α) : ∀ x ∈ (xs.dropWhile p).head?, p x = false := by
  induction xs with
  | nil => simp
  | cons x xs ih =>
    cases hx : p x with
    | true => rwa [List.dropWhile_cons_of_pos hx]
    | false =>
      rw [List.dropWhile_cons_of_neg (by simp [hx])]
      simpa using hx

theorem trimWhere_of_trimmed (h : TrimmedFor p xs) : trimWhere p xs = xs := by
  rw [trimWhere, dropWhile_of_head h.1, dropWhile_of_head (by simpa using h.2),
    List.reverse_reverse]

theorem trimmedFor_trimWhere (p : α → Bool) (xs : List α) : TrimmedFor p (trimWhere p xs) := by
  refine ⟨?_, ?_⟩
  · intro x hx
    rw [trimWhere, List.head?_reverse] at hx
    have hsuffix := List.dropWhile_suffix (l := (xs.dropWhile p).reverse) p
    obtain ⟨dropped, hdropped⟩ := hsuffix
    have hlast : x ∈ (xs.dropWhile p).reverse.getLast? := by
      rw [← hdropped, List.getLast?_append, Option.mem_def.mp hx]
      rfl
    rw [List.getLast?_reverse] at hlast
    exact head_dropWhile p xs x hlast
  · intro x hx
    rw [trimWhere, List.getLast?_reverse] at hx
    exact head_dropWhile p _ x hx

theorem trimWhere_eq_self_iff : trimWhere p xs = xs ↔ TrimmedFor p xs :=
  ⟨fun h => h ▸ trimmedFor_trimWhere p xs, trimWhere_of_trimmed⟩

theorem trimWhere_trimWhere (p : α → Bool) (xs : List α) :
    trimWhere p (trimWhere p xs) = trimWhere p xs :=
  trimWhere_of_trimmed (trimmedFor_trimWhere p xs)

theorem trimWhere_eq_nil_iff : trimWhere p xs = [] ↔ ∀ x ∈ xs, p x = true := by
  constructor
  · intro h
    rw [trimWhere, List.reverse_eq_nil_iff, List.dropWhile_eq_nil_iff] at h
    have hnil : xs.dropWhile p = [] := by
      cases hdrop : xs.dropWhile p with
      | nil => rfl
      | cons x rest =>
        have hhead := head_dropWhile p xs x (by rw [hdrop]; rfl)
        rw [h x (by rw [hdrop]; simp)] at hhead
        cases hhead
    exact List.dropWhile_eq_nil_iff.mp hnil
  · intro h
    rw [trimWhere, List.dropWhile_eq_nil_iff.mpr h]
    rfl

theorem trimWhere_isInfix (p : α → Bool) (xs : List α) : trimWhere p xs <:+: xs := by
  have hinner : ((xs.dropWhile p).reverse.dropWhile p).reverse <+: xs.dropWhile p := by
    have hsuffix := List.dropWhile_suffix (l := (xs.dropWhile p).reverse) p
    simpa using List.reverse_prefix.mpr hsuffix
  exact hinner.isInfix.trans (List.dropWhile_suffix p).isInfix

theorem trimmedFor_append {ys : List α} (hxs : TrimmedFor p xs) (hys : TrimmedFor p ys) :
    TrimmedFor p (xs ++ ys) := by
  refine ⟨?_, ?_⟩
  · intro x hx
    cases xs with
    | nil => exact hys.1 x hx
    | cons y xs => exact hxs.1 x hx
  · intro x hx
    cases hlast : ys.getLast? with
    | none =>
      rw [List.getLast?_eq_none_iff.mp hlast, List.append_nil] at hx
      exact hxs.2 x hx
    | some y =>
      rw [List.getLast?_append, hlast] at hx
      exact hys.2 x (hlast ▸ hx)

theorem trimmedFor_enclosed {p : α → Bool} {first last : α} (hfirst : p first = false)
    (hlast : p last = false) (xs : List α) : TrimmedFor p (first :: xs ++ [last]) := by
  refine ⟨?_, ?_⟩
  · intro x hx
    cases hx
    exact hfirst
  · intro x hx
    rw [List.getLast?_concat] at hx
    cases hx
    exact hlast

theorem trimmedFor_flatMap {β : Type} {f : β → List α} {ys : List β}
    (h : ∀ y ∈ ys, TrimmedFor p (f y)) : TrimmedFor p (ys.flatMap f) := by
  induction ys with
  | nil => exact ⟨by simp, by simp⟩
  | cons y ys ih =>
    rw [List.flatMap_cons]
    exact trimmedFor_append (h y List.mem_cons_self)
      (ih (fun z hz => h z (List.mem_cons_of_mem _ hz)))

theorem infix_intercalate {separator piece : List α} {pieces : List (List α)}
    (h : piece ∈ pieces) : piece <:+: separator.intercalate pieces := by
  induction pieces with
  | nil => cases h
  | cons first rest ih =>
    cases rest with
    | nil =>
      exact List.mem_singleton.mp h ▸ (List.intercalate_singleton.symm ▸ List.infix_rfl)
    | cons second rest =>
      rw [List.intercalate_cons_cons]
      rcases List.mem_cons.mp h with rfl | hrest
      · rw [List.append_assoc]
        exact (List.prefix_append _ _).isInfix
      · exact (ih hrest).trans (List.suffix_append _ _).isInfix

theorem mem_intercalate {separator : List α} {pieces : List (List α)}
    (h : x ∈ separator.intercalate pieces) : x ∈ separator ∨ ∃ piece ∈ pieces, x ∈ piece := by
  induction pieces with
  | nil => cases h
  | cons first rest ih =>
    cases rest with
    | nil =>
      rw [List.intercalate_singleton] at h
      exact Or.inr ⟨first, List.mem_cons_self, h⟩
    | cons second rest =>
      rw [List.intercalate_cons_cons, List.mem_append, List.mem_append] at h
      obtain (hfirst | hseparator) | hrest := h
      · exact Or.inr ⟨first, List.mem_cons_self, hfirst⟩
      · exact Or.inl hseparator
      · exact (ih hrest).imp_right (fun ⟨piece, hpiece, hmem⟩ =>
          ⟨piece, List.mem_cons_of_mem _ hpiece, hmem⟩)

variable {piece : List α}

theorem splitOn_isInfix [DecidableEq α] (h : piece ∈ xs.splitOn x) : piece <:+: xs := by
  have hpart := @infix_intercalate _ [x] _ _ h
  rwa [List.intercalate_splitOn] at hpart

theorem notMem_splitOn [DecidableEq α] (h : piece ∈ xs.splitOn x) : x ∉ piece := by
  induction xs generalizing piece with
  | nil =>
    rw [List.splitOn_nil, List.mem_singleton] at h
    simp [h]
  | cons y ys ih =>
    rw [List.splitOn_cons_eq_if_modifyHead] at h
    split at h
    · rcases List.mem_cons.mp h with rfl | hrest
      · simp
      · exact ih hrest
    · rename_i hne
      cases hsplit : ys.splitOn x with
      | nil => exact absurd hsplit (List.splitOn_ne_nil _ _)
      | cons first rest =>
        rw [hsplit, List.modifyHead_cons] at h
        rcases List.mem_cons.mp h with rfl | hrest
        · have hfirst := ih (hsplit ▸ List.mem_cons_self)
          rw [List.mem_cons, not_or]
          exact ⟨fun heq => hne (by simp [heq]), hfirst⟩
        · exact ih (hsplit ▸ List.mem_cons_of_mem _ hrest)

theorem intercalate_concat_cut (separator front back : List α) (pieces : List (List α)) :
    separator.intercalate (pieces ++ [front ++ separator ++ back]) =
      separator.intercalate (pieces ++ [front, back]) := by
  induction pieces with
  | nil =>
    rw [List.nil_append, List.nil_append, List.intercalate_singleton,
      List.intercalate_cons_cons, List.intercalate_singleton]
  | cons first rest ih =>
    cases rest with
    | nil =>
      rw [List.nil_append, List.nil_append] at ih
      rw [List.singleton_append, List.singleton_append, List.intercalate_cons_cons,
        List.intercalate_cons_cons, ih]
    | cons second rest =>
      rw [List.cons_append, List.cons_append, List.cons_append, List.cons_append,
        List.intercalate_cons_cons, List.intercalate_cons_cons]
      rw [List.cons_append, List.cons_append] at ih
      rw [ih]

theorem intercalate_concat (separator last : List α) (pieces : List (List α)) :
    separator.intercalate (pieces ++ [last]) = pieces.flatMap (· ++ separator) ++ last := by
  induction pieces with
  | nil => rw [List.nil_append, List.intercalate_singleton, List.flatMap_nil, List.nil_append]
  | cons first rest ih =>
    rw [List.flatMap_cons, List.append_assoc, ← ih]
    cases rest with
    | nil =>
      rw [List.singleton_append, List.intercalate_cons_cons, List.nil_append]
    | cons second rest =>
      rw [List.cons_append, List.cons_append, List.intercalate_cons_cons]

end GT3Code.Base
