import GT3Code.Base.Base64Url

/-! # UTF-8 of strings in UTF-16

A string is a list of 16-bit units. A surrogate without its partner is encoded as the
replacement character, so strings that differ in such units alone have the same bytes.
-/

namespace GT3Code.Base.Utf8

open GT3Code.Base.Base64Url (Byte)

abbrev Unit16 := Fin 65536

instance neZeroUnit16 : NeZero 65536 := ⟨by decide⟩

def isHighSurrogate (u : Unit16) : Bool := 0xD800 ≤ u.val && u.val ≤ 0xDBFF

def isLowSurrogate (u : Unit16) : Bool := 0xDC00 ≤ u.val && u.val ≤ 0xDFFF

def loneCodePoint (u : Unit16) : Nat :=
  if isHighSurrogate u || isLowSurrogate u then 0xFFFD else u.val

def codePoints : List Unit16 → List Nat
  | [] => []
  | [u] => [loneCodePoint u]
  | u :: v :: rest =>
    if isHighSurrogate u && isLowSurrogate v then
      (0x10000 + (u.val - 0xD800) * 0x400 + (v.val - 0xDC00)) :: codePoints rest
    else loneCodePoint u :: codePoints (v :: rest)

def encodeCodePoint (n : Nat) : List Byte :=
  if n < 0x80 then [Fin.ofNat 256 n]
  else if n < 0x800 then [Fin.ofNat 256 (0xC0 + n / 64), Fin.ofNat 256 (0x80 + n % 64)]
  else if n < 0x10000 then
    [Fin.ofNat 256 (0xE0 + n / 4096), Fin.ofNat 256 (0x80 + n / 64 % 64),
      Fin.ofNat 256 (0x80 + n % 64)]
  else
    [Fin.ofNat 256 (0xF0 + n / 262144 % 8), Fin.ofNat 256 (0x80 + n / 4096 % 64),
      Fin.ofNat 256 (0x80 + n / 64 % 64), Fin.ofNat 256 (0x80 + n % 64)]

def encode (units : List Unit16) : List Byte := (codePoints units).flatMap encodeCodePoint

variable {units : List Unit16}

variable {byte : Byte}

theorem lt_of_mem_encode (h : byte ∈ encode units) : byte.val < 252 := by
  obtain ⟨n, -, hn⟩ := List.mem_flatMap.mp h
  unfold encodeCodePoint at hn
  split_ifs at hn with h₁ h₂ h₃ <;>
    simp only [List.mem_cons, List.not_mem_nil, or_false] at hn <;>
    rcases hn with rfl | rfl | rfl | rfl <;>
    simp only [Fin.ofNat] <;> omega

theorem codePoints_of_encode_cons {bytes : List Byte} (hbyte : byte.val < 0x80)
    (h : encode units = byte :: bytes) :
    ∃ u rest, units = u :: rest ∧ u.val = byte.val ∧ encode rest = bytes := by
  have hpoint : ∀ {n : Nat} {more : List Byte}, encodeCodePoint n ++ more = byte :: bytes →
      n = byte.val ∧ more = bytes := by
    intro n more hcons
    unfold encodeCodePoint at hcons
    split_ifs at hcons with h₁ h₂ h₃ <;>
      simp only [List.cons_append, List.nil_append, List.cons.injEq] at hcons
    · refine ⟨?_, hcons.2⟩
      rw [← hcons.1]
      simp only [Fin.ofNat]
      omega
    all_goals
      rw [← hcons.1] at hbyte
      simp only [Fin.ofNat] at hbyte
      omega
  have hlone : ∀ u : Unit16, loneCodePoint u = byte.val → u.val = byte.val := by
    intro u hu
    unfold loneCodePoint at hu
    split at hu
    · omega
    · exact hu
  match units, h with
  | [u], h =>
    obtain ⟨hn, hrest⟩ := hpoint (show encodeCodePoint (loneCodePoint u) ++ [] = _ from h)
    exact ⟨u, [], rfl, hlone u hn, hrest⟩
  | u :: v :: rest, h =>
    rw [encode, codePoints] at h
    split at h
    · rw [List.flatMap_cons] at h
      have hn := (hpoint h).1
      omega
    · rw [List.flatMap_cons] at h
      obtain ⟨hn, hrest⟩ := hpoint h
      exact ⟨u, v :: rest, rfl, hlone u hn, hrest⟩

theorem encode_cons_ascii {u : Unit16} (hu : u.val < 0x80) (rest : List Unit16) :
    encode (u :: rest) = Fin.ofNat 256 u.val :: encode rest := by
  have hnot : isHighSurrogate u = false ∧ isLowSurrogate u = false := by
    simp only [isHighSurrogate, isLowSurrogate, Bool.and_eq_false_iff, decide_eq_false_iff_not]
    omega
  have hlone : loneCodePoint u = u.val := by simp [loneCodePoint, hnot]
  cases rest with
  | nil => simp [encode, codePoints, hlone, encodeCodePoint, hu]
  | cons v rest => simp [encode, codePoints, hlone, hnot, encodeCodePoint, hu]

theorem encode_eq_nil (h : encode units = []) : units = [] := by
  have hpoint : ∀ n, encodeCodePoint n ≠ [] := by
    intro n
    unfold encodeCodePoint
    split_ifs <;> simp
  match units, h with
  | [], _ => rfl
  | [u], h => exact absurd (List.flatMap_eq_nil_iff.mp h _ List.mem_cons_self) (hpoint _)
  | u :: v :: rest, h =>
    rw [encode, codePoints] at h
    split at h <;> exact absurd (List.flatMap_eq_nil_iff.mp h _ List.mem_cons_self) (hpoint _)

theorem eq_of_encode_eq_ascii {ascii : List Unit16} (hascii : ∀ u ∈ ascii, u.val < 0x80)
    (h : encode units = encode ascii) : units = ascii := by
  induction ascii generalizing units with
  | nil => exact encode_eq_nil h
  | cons a ascii ih =>
    have ha := hascii a List.mem_cons_self
    rw [encode_cons_ascii ha] at h
    have hbyte : (Fin.ofNat 256 a.val : Byte).val = a.val := by
      simp only [Fin.ofNat]
      omega
    obtain ⟨u, rest, rfl, hu, hrest⟩ := codePoints_of_encode_cons (by omega) h
    have hsame : u = a := Fin.ext (hu.trans hbyte)
    rw [hsame, ih (fun v hv => hascii v (List.mem_cons_of_mem _ hv)) hrest]

end GT3Code.Base.Utf8
