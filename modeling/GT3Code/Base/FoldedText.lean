import Mathlib.Order.Monotone.Basic

/-! # Cursors in a folded text

Some pieces of a text are folded: they are shown as one character. A cursor in the text that is
shown stands for one in the whole text; a cursor inside a folded piece is shown behind it.
-/

namespace GT3Code.Base.Folded

/-- A piece of a text by its length; a folded one has one character more than `more`. -/
inductive Piece where
  | plain (length : Nat)
  | folded (more : Nat)

def Piece.length : Piece → Nat
  | .plain length => length
  | .folded more => more + 1

def Piece.shown : Piece → Nat
  | .plain length => length
  | .folded _ => 1

@[grind] def length : List Piece → Nat
  | [] => 0
  | piece :: pieces => piece.length + length pieces

@[grind] def shown : List Piece → Nat
  | [] => 0
  | piece :: pieces => piece.shown + shown pieces

@[grind] def expand : List Piece → Nat → Nat
  | [], _ => 0
  | .plain length :: pieces, cursor => min cursor length + expand pieces (cursor - length)
  | .folded _ :: _, 0 => 0
  | .folded more :: pieces, cursor + 1 => more + 1 + expand pieces cursor

@[grind] def collapse : List Piece → Nat → Nat
  | [], _ => 0
  | .plain length :: pieces, cursor => min cursor length + collapse pieces (cursor - length)
  | .folded _ :: _, 0 => 0
  | .folded more :: pieces, cursor + 1 => 1 + collapse pieces (cursor - more)

inductive Inside : List Piece → Nat → Nat → Prop
  | here {more cursor : Nat} {pieces : List Piece} (hstart : 0 < cursor) (hend : cursor < more + 1) :
      Inside (.folded more :: pieces) cursor (more + 1)
  | later {piece : Piece} {pieces : List Piece} {cursor finish : Nat}
      (h : Inside pieces cursor finish) :
      Inside (piece :: pieces) (piece.length + cursor) (piece.length + finish)

@[simp] theorem expand_zero (pieces : List Piece) : expand pieces 0 = 0 := by
  induction pieces with
  | nil => rfl
  | cons piece pieces ih => cases piece <;> simp [expand, ih]

@[simp] theorem collapse_zero (pieces : List Piece) : collapse pieces 0 = 0 := by
  induction pieces with
  | nil => rfl
  | cons piece pieces ih => cases piece <;> simp [collapse, ih]

theorem shown_le_length (pieces : List Piece) : shown pieces ≤ length pieces := by
  induction pieces with
  | nil => exact Nat.le_refl _
  | cons piece pieces ih =>
    cases piece <;> simp only [shown, length, Piece.shown, Piece.length] <;> omega

theorem expand_le_length (pieces : List Piece) (cursor : Nat) :
    expand pieces cursor ≤ length pieces := by
  induction pieces generalizing cursor with
  | nil => exact Nat.le_refl _
  | cons piece pieces ih =>
    cases piece with
    | plain len =>
      have hrest := ih (cursor - len)
      simp only [expand, length, Piece.length]
      omega
    | folded more =>
      cases cursor with
      | zero => exact Nat.zero_le _
      | succ cursor =>
        have hrest := ih cursor
        simp only [expand, length, Piece.length]
        omega

theorem collapse_le_shown (pieces : List Piece) (cursor : Nat) :
    collapse pieces cursor ≤ shown pieces := by
  induction pieces generalizing cursor with
  | nil => exact Nat.le_refl _
  | cons piece pieces ih =>
    cases piece with
    | plain len =>
      have hrest := ih (cursor - len)
      simp only [collapse, shown, Piece.shown]
      omega
    | folded more =>
      cases cursor with
      | zero => exact Nat.zero_le _
      | succ cursor =>
        have hrest := ih (cursor - more)
        simp only [collapse, shown, Piece.shown]
        omega

theorem expand_mono (pieces : List Piece) : Monotone (expand pieces) := by
  induction pieces with
  | nil => exact fun _ _ _ => Nat.le_refl _
  | cons piece pieces ih =>
    intro left right hle
    cases piece with
    | plain len =>
      have hrest := ih (show left - len ≤ right - len by omega)
      simp only [expand]
      omega
    | folded more =>
      cases left with
      | zero => exact (expand_zero _).symm ▸ Nat.zero_le _
      | succ left =>
        cases right with
        | zero => exact absurd hle (Nat.not_succ_le_zero left)
        | succ right =>
          have hrest := ih (Nat.succ_le_succ_iff.mp hle)
          simp only [expand]
          omega

theorem collapse_mono (pieces : List Piece) : Monotone (collapse pieces) := by
  induction pieces with
  | nil => exact fun _ _ _ => Nat.le_refl _
  | cons piece pieces ih =>
    intro left right hle
    cases piece with
    | plain len =>
      have hrest := ih (show left - len ≤ right - len by omega)
      simp only [collapse]
      omega
    | folded more =>
      cases left with
      | zero => exact (collapse_zero _).symm ▸ Nat.zero_le _
      | succ left =>
        cases right with
        | zero => exact absurd hle (Nat.not_succ_le_zero left)
        | succ right =>
          have hrest := ih (show left - more ≤ right - more by omega)
          simp only [collapse]
          omega

theorem collapse_expand (pieces : List Piece) (cursor : Nat) :
    collapse pieces (expand pieces cursor) = min cursor (shown pieces) := by
  induction pieces generalizing cursor with
  | nil => exact (Nat.min_zero _).symm
  | cons piece pieces ih =>
    cases piece with
    | plain len =>
      by_cases hle : cursor ≤ len
      · have hrest : cursor - len = 0 := by omega
        simp only [expand, hrest, expand_zero, collapse, shown, Piece.shown]
        have hrest' : min cursor len + 0 - len = 0 := by omega
        rw [hrest', collapse_zero]
        omega
      · have hrest : min cursor len + expand pieces (cursor - len) - len =
            expand pieces (cursor - len) := by omega
        simp only [expand, collapse, shown, Piece.shown]
        rw [hrest, ih]
        omega
    | folded more =>
      cases cursor with
      | zero => simp
      | succ cursor =>
        have hsucc : expand (.folded more :: pieces) (cursor + 1) =
            more + expand pieces cursor + 1 := by
          simp only [expand]
          omega
        rw [hsucc, collapse, Nat.add_sub_cancel_left, ih]
        simp only [shown, Piece.shown]
        omega

theorem expand_cons_add (piece : Piece) (pieces : List Piece) (cursor : Nat) :
    expand (piece :: pieces) (piece.shown + cursor) = piece.length + expand pieces cursor := by
  cases piece with
  | plain len =>
    have hrest : len + cursor - len = cursor := by omega
    simp only [expand, Piece.shown, Piece.length, hrest]
    omega
  | folded more => simp only [Piece.shown, Nat.add_comm 1, expand, Piece.length]

theorem collapse_cons_add (piece : Piece) (pieces : List Piece) (cursor : Nat) :
    collapse (piece :: pieces) (piece.length + cursor) = piece.shown + collapse pieces cursor := by
  cases piece with
  | plain len =>
    have hrest : len + cursor - len = cursor := by omega
    simp only [collapse, Piece.shown, Piece.length, hrest]
    omega
  | folded more =>
    have hsucc : more + 1 + cursor = more + cursor + 1 := by omega
    simp only [Piece.length, hsucc, collapse, Piece.shown, Nat.add_sub_cancel_left]

variable {pieces : List Piece} {cursor finish : Nat}

theorem Inside.lt (h : Inside pieces cursor finish) : cursor < finish := by
  induction h with
  | here hstart hend => exact hend
  | later h ih => exact Nat.add_lt_add_left ih _

theorem Inside.le_length (h : Inside pieces cursor finish) : finish ≤ length pieces := by
  induction h with
  | here hstart hend => exact Nat.le_add_right _ _
  | later h ih => exact Nat.add_le_add_left ih _

theorem expand_collapse_of_inside (h : Inside pieces cursor finish) :
    expand pieces (collapse pieces cursor) = finish := by
  induction h with
  | @here more cursor pieces hstart hend =>
    obtain ⟨before, rfl⟩ := Nat.exists_eq_succ_of_ne_zero (Nat.pos_iff_ne_zero.mp hstart)
    have hrest : before - more = 0 := by omega
    simp [collapse, hrest, expand]
  | later h ih => rw [collapse_cons_add, expand_cons_add, ih]

theorem expand_collapse_of_not_inside (h : ∀ finish, ¬ Inside pieces cursor finish)
    (hle : cursor ≤ length pieces) : expand pieces (collapse pieces cursor) = cursor := by
  induction pieces generalizing cursor with
  | nil => exact (Nat.le_zero.mp hle).symm
  | cons piece pieces ih =>
    by_cases hlater : piece.length ≤ cursor
    · obtain ⟨rest, rfl⟩ := Nat.exists_eq_add_of_le hlater
      rw [collapse_cons_add, expand_cons_add,
        ih (fun finish hinside => h _ (Inside.later hinside)) (Nat.le_of_add_le_add_left hle)]
    · cases piece with
      | plain len =>
        simp only [Piece.length] at hlater
        have hrest : cursor - len = 0 := by omega
        have hmin : min cursor len = cursor := by omega
        simp only [collapse, hrest, collapse_zero, hmin, Nat.add_zero, expand, expand_zero]
      | folded more =>
        cases cursor with
        | zero => simp
        | succ cursor =>
          exact absurd (Inside.here (Nat.succ_pos _) (Nat.lt_of_not_le hlater)) (h _)

end GT3Code.Base.Folded
