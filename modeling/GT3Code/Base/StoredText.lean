import GT3Code.Base.Utf8

/-! # Strings stored as UTF-8

A string of the language is its UTF-16 units. What keeps strings as UTF-8 gives them back
with the replacement character in the place of each surrogate without its partner.
-/

namespace GT3Code.Base

open Utf8 (Unit16 codePoints loneCodePoint isHighSurrogate isLowSurrogate)

abbrev Text16 := List Unit16

def charUnits (c : Char) : Text16 :=
  if c.toNat < 0x10000 then [Fin.ofNat 65536 c.toNat]
  else [Fin.ofNat 65536 (0xD800 + (c.toNat - 0x10000) / 0x400),
    Fin.ofNat 65536 (0xDC00 + (c.toNat - 0x10000) % 0x400)]

def units (text : String) : Text16 := text.toList.flatMap charUnits

instance : Coe String Text16 := ⟨units⟩

/-- The string that is read back after `text` was stored. -/
def stored (text : Text16) : String := String.ofList ((codePoints text).map Char.ofNat)

/-- No surrogate is without its partner. -/
def WellFormed (text : Text16) : Prop := units (stored text) = text

theorem units_append (left right : String) : units (left ++ right) = units left ++ units right := by
  simp [units]

theorem charUnits_ne_nil (c : Char) : charUnits c ≠ [] := by
  unfold charUnits
  split <;> simp

theorem units_eq_nil_iff {text : String} : units text = [] ↔ text = "" := by
  rw [units, List.flatMap_eq_nil_iff]
  constructor
  · intro h
    cases hlist : text.toList with
    | nil => exact String.toList_eq_nil_iff.mp hlist
    | cons c rest => exact absurd (h c (by simp [hlist])) (charUnits_ne_nil c)
  · rintro rfl
    simp

/-- A code point is no surrogate. -/
theorem toNat_cases (c : Char) : c.toNat < 0xD800 ∨ (0xDFFF < c.toNat ∧ c.toNat < 0x110000) := by
  have hvalid := c.valid
  simp only [UInt32.isValidChar, Nat.isValidChar] at hvalid
  simp only [Char.toNat]
  omega

theorem codePoints_charUnits_append (c : Char) (rest : Text16) :
    codePoints (charUnits c ++ rest) = c.toNat :: codePoints rest := by
  have hcases := toNat_cases c
  unfold charUnits
  by_cases hsmall : c.toNat < 0x10000
  · rw [if_pos hsmall]
    have hval : (Fin.ofNat 65536 c.toNat).val = c.toNat := Nat.mod_eq_of_lt hsmall
    have hhigh : isHighSurrogate (Fin.ofNat 65536 c.toNat) = false := by
      simp only [isHighSurrogate, hval, Bool.and_eq_false_iff, decide_eq_false_iff_not]
      omega
    have hlow : isLowSurrogate (Fin.ofNat 65536 c.toNat) = false := by
      simp only [isLowSurrogate, hval, Bool.and_eq_false_iff, decide_eq_false_iff_not]
      omega
    have hlone : loneCodePoint (Fin.ofNat 65536 c.toNat) = c.toNat := by
      simp only [loneCodePoint, hhigh, hlow, Bool.or_self, Bool.false_eq_true, if_false, hval]
    cases rest with
    | nil => simp only [List.append_nil, codePoints, hlone]
    | cons u rest =>
      simp only [List.singleton_append, codePoints, hhigh, Bool.false_and, Bool.false_eq_true,
        if_false, hlone]
  · rw [if_neg hsmall]
    have hfirst : (Fin.ofNat 65536 (0xD800 + (c.toNat - 0x10000) / 0x400)).val =
        0xD800 + (c.toNat - 0x10000) / 0x400 := Nat.mod_eq_of_lt (by omega)
    have hsecond : (Fin.ofNat 65536 (0xDC00 + (c.toNat - 0x10000) % 0x400)).val =
        0xDC00 + (c.toNat - 0x10000) % 0x400 := Nat.mod_eq_of_lt (by omega)
    have hhigh : isHighSurrogate (Fin.ofNat 65536 (0xD800 + (c.toNat - 0x10000) / 0x400)) =
        true := by
      simp only [isHighSurrogate, hfirst, Bool.and_eq_true, decide_eq_true_eq]
      omega
    have hlow : isLowSurrogate (Fin.ofNat 65536 (0xDC00 + (c.toNat - 0x10000) % 0x400)) =
        true := by
      simp only [isLowSurrogate, hsecond, Bool.and_eq_true, decide_eq_true_eq]
      omega
    simp only [List.cons_append, List.nil_append, codePoints, hhigh, hlow, Bool.and_self, if_true,
      hfirst, hsecond, List.cons.injEq, and_true]
    omega

theorem codePoints_units_append (text : String) (rest : Text16) :
    codePoints (units text ++ rest) = text.toList.map Char.toNat ++ codePoints rest := by
  rw [units]
  induction text.toList with
  | nil => rfl
  | cons c chars ih =>
    rw [List.flatMap_cons, List.append_assoc, codePoints_charUnits_append, ih]
    rfl

theorem stored_units_append (text : String) (rest : Text16) :
    stored (units text ++ rest) = text ++ stored rest := by
  rw [stored, codePoints_units_append, List.map_append, List.map_map]
  have hsame : (Char.ofNat ∘ Char.toNat) = id := by
    funext c
    exact Char.ofNat_toNat c
  rw [hsame, List.map_id, String.ofList_append, String.ofList_toList, stored]

@[simp] theorem stored_units (text : String) : stored (units text) = text := by
  have happend := stored_units_append text []
  rw [List.append_nil] at happend
  rw [happend]
  simp [stored, codePoints]

theorem wellFormed_units (text : String) : WellFormed (units text) := by
  rw [WellFormed, stored_units]

theorem wellFormed_append_iff (text : String) (rest : Text16) :
    WellFormed (units text ++ rest) ↔ WellFormed rest := by
  rw [WellFormed, stored_units_append, units_append, List.append_cancel_left_eq, WellFormed]

end GT3Code.Base
