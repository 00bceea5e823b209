import GT3Code.Base.JsonValue

/-! # base64url

Three bytes are written as four units of the URL-safe alphabet, without padding at
the end. `decode` takes them back; it stops at the first unit outside the alphabet.
-/

namespace GT3Code.Base.Base64Url

open GT3Code.Base.Json

abbrev Byte := Fin 256

instance neZeroByte : NeZero 256 := ⟨by decide⟩

def unit (n : Nat) : CodeUnit :=
  if n < 26 then 65 + n
  else if n < 52 then 71 + n
  else if n < 62 then n - 4
  else if n = 62 then 45
  else 95

def unitValue (u : CodeUnit) : Option Nat :=
  if 65 ≤ u ∧ u ≤ 90 then some (u - 65)
  else if 97 ≤ u ∧ u ≤ 122 then some (u - 71)
  else if 48 ≤ u ∧ u ≤ 57 then some (u + 4)
  else if u = 45 then some 62
  else if u = 95 then some 63
  else none

@[grind] def encode : List Byte → Text
  | [] => []
  | [a] => [unit (a.val / 4), unit (a.val % 4 * 16)]
  | [a, b] => [unit (a.val / 4), unit (a.val % 4 * 16 + b.val / 16), unit (b.val % 16 * 4)]
  | a :: b :: c :: rest =>
    unit (a.val / 4) :: unit (a.val % 4 * 16 + b.val / 16) ::
      unit (b.val % 16 * 4 + c.val / 64) :: unit (c.val % 64) :: encode rest

@[grind] def bytes : List Nat → List Byte
  | p :: q :: r :: s :: rest =>
    Fin.ofNat 256 (p * 4 + q / 16) :: Fin.ofNat 256 (q * 16 + r / 4) ::
      Fin.ofNat 256 (r * 64 + s) :: bytes rest
  | [p, q, r] => [Fin.ofNat 256 (p * 4 + q / 16), Fin.ofNat 256 (q * 16 + r / 4)]
  | [p, q] => [Fin.ofNat 256 (p * 4 + q / 16)]
  | _ => []

@[grind] def values : Text → List Nat
  | [] => []
  | u :: rest =>
    match unitValue u with
    | some value => value :: values rest
    | none => []

def decode (text : Text) : List Byte := bytes (values text)

variable {n : Nat}

theorem unitValue_unit (h : n < 64) : unitValue (unit n) = some n := by
  revert n
  decide

theorem values_unit (h : n < 64) (rest : Text) : values (unit n :: rest) = n :: values rest := by
  rw [values, unitValue_unit h]

theorem ofNat_eq (byte : Byte) (h : n % 256 = byte.val) : Fin.ofNat 256 n = byte :=
  Fin.ext h

theorem decode_encode (input : List Byte) : decode (encode input) = input := by
  rw [decode]
  fun_induction encode input with
  | case1 => rfl
  | case2 a =>
    have ha := a.isLt
    rw [values_unit (by omega), values_unit (by omega)]
    simp only [values, bytes]
    rw [ofNat_eq a (by omega)]
  | case3 a b =>
    have ha := a.isLt
    have hb := b.isLt
    rw [values_unit (by omega), values_unit (by omega), values_unit (by omega)]
    simp only [values, bytes]
    rw [ofNat_eq a (by omega), ofNat_eq b (by omega)]
  | case4 a b c rest ih =>
    have ha := a.isLt
    have hb := b.isLt
    have hc := c.isLt
    rw [values_unit (by omega), values_unit (by omega), values_unit (by omega),
      values_unit (by omega), bytes, ih, ofNat_eq a (by omega),
      ofNat_eq b (by omega), ofNat_eq c (by omega)]

theorem encode_eq_nil {input : List Byte} (h : encode input = []) : input = [] := by
  rw [← decode_encode input, h]
  rfl

theorem dot_notMem_encode (input : List Byte) : 46 ∉ encode input := by
  have hunit : ∀ n, 46 ≠ unit n := by
    intro n
    unfold unit
    split_ifs <;> simp only [CodeUnit] <;> omega
  fun_induction encode input with
  | case4 a b c rest ih => simp [hunit, ih]
  | _ => simp [hunit]

theorem encode_injective {left right : List Byte} (h : encode left = encode right) :
    left = right := by
  rw [← decode_encode left, h, decode_encode]

theorem unit_inj {m : Nat} (hm : m < 64) (hn : n < 64) (h : unit m = unit n) : m = n := by
  have hvalues := congrArg unitValue h
  rw [unitValue_unit hm, unitValue_unit hn] at hvalues
  exact Option.some.inj hvalues

def underscore : CodeUnit := 95

theorem unit_eq_underscore (hn : n < 64) (h : unit n = underscore) : n = 63 :=
  unit_inj hn (by decide) h

/-- The bytes of `whole` begin with those of `head`, and its encoding goes on after theirs with
an underscore and `tail`. A question mark ends the group of a head with two bytes left over; a
head with one is followed by fifteen and a byte with the two high bits. -/
def Continues (whole head : List Byte) (tail : Text) : Prop :=
  (head.length % 3 = 2 ∧ ∃ rest, whole = head ++ 63 :: rest ∧ tail = encode rest) ∨
    (head.length % 3 = 1 ∧ ∃ (c : Byte) (rest : List Byte), 192 ≤ c.val ∧
      whole = head ++ 15 :: c :: rest ∧ tail = unit (c.val % 64) :: encode rest)

variable {whole head : List Byte} {tail : Text}

theorem continues_cons (a b c : Byte) :
    Continues (a :: b :: c :: whole) (a :: b :: c :: head) tail ↔ Continues whole head tail := by
  have hlength : (a :: b :: c :: head).length % 3 = head.length % 3 := by
    simp only [List.length_cons]
    omega
  simp only [Continues, hlength, List.cons_append, List.cons.injEq, true_and]

theorem group_inj {a b c a' b' c' : Byte}
    (h₁ : unit (a.val / 4) = unit (a'.val / 4))
    (h₂ : unit (a.val % 4 * 16 + b.val / 16) = unit (a'.val % 4 * 16 + b'.val / 16))
    (h₃ : unit (b.val % 16 * 4 + c.val / 64) = unit (b'.val % 16 * 4 + c'.val / 64))
    (h₄ : unit (c.val % 64) = unit (c'.val % 64)) : a = a' ∧ b = b' ∧ c = c' := by
  have := a.isLt
  have := b.isLt
  have := c.isLt
  have := a'.isLt
  have := b'.isLt
  have := c'.isLt
  have h₁ := unit_inj (by omega) (by omega) h₁
  have h₂ := unit_inj (by omega) (by omega) h₂
  have h₃ := unit_inj (by omega) (by omega) h₃
  have h₄ := unit_inj (by omega) (by omega) h₄
  refine ⟨Fin.ext ?_, Fin.ext ?_, Fin.ext ?_⟩ <;> omega

theorem encode_eq_append_iff (hwhole : ∀ byte ∈ whole, byte.val < 252) :
    encode whole = encode head ++ underscore :: tail ↔ Continues whole head tail := by
  fun_induction encode head generalizing whole with
  | case1 =>
    refine iff_of_false (fun h => ?_) (by simp [Continues])
    have hfirst : ∀ a : Byte, a ∈ whole → unit (a.val / 4) ≠ underscore := by
      intro a ha hunit
      have := hwhole a ha
      have := unit_eq_underscore (by omega) hunit
      omega
    match whole, h with
    | [a], h => exact hfirst a (by simp) (List.cons.inj h).1
    | [a, b], h => exact hfirst a (by simp) (List.cons.inj h).1
    | a :: b :: c :: rest, h => exact hfirst a (by simp) (List.cons.inj h).1
  | case2 a =>
    have ha := a.isLt
    constructor
    · intro h
      match whole, h with
      | [_], h => simp [encode] at h
      | [a', b], h =>
        simp only [encode, List.cons_append, List.nil_append, List.cons.injEq] at h
        have := unit_eq_underscore (by omega) h.2.2.1
        omega
      | a' :: b :: c :: rest, h =>
        simp only [encode, List.cons_append, List.nil_append, List.cons.injEq] at h
        obtain ⟨h₁, h₂, h₃, rfl⟩ := h
        have := a'.isLt
        have := b.isLt
        have := c.isLt
        have h₁ := unit_inj (by omega) (by omega) h₁
        have h₂ := unit_inj (by omega) (by omega) h₂
        have h₃ := unit_eq_underscore (by omega) h₃
        have hsame : a' = a := Fin.ext (by omega)
        have hfifteen : b = 15 := Fin.ext (by change b.val = 15; omega)
        exact Or.inr ⟨rfl, c, rest, by omega, by rw [hsame, hfifteen]; rfl, rfl⟩
    · rintro (⟨h2, -⟩ | ⟨-, c, rest, hc, rfl, rfl⟩)
      · cases h2
      · have hhigh : (15 : Byte).val % 16 * 4 + c.val / 64 = 63 := by
          have := c.isLt
          change 15 % 16 * 4 + c.val / 64 = 63
          omega
        simp only [List.cons_append, List.nil_append, encode, hhigh]
        rfl
  | case3 a b =>
    have ha := a.isLt
    have hb := b.isLt
    constructor
    · intro h
      match whole, h with
      | [_], h => simp [encode] at h
      | [_, _], h => simp [encode] at h
      | a' :: b' :: c :: rest, h =>
        simp only [encode, List.cons_append, List.nil_append, List.cons.injEq] at h
        obtain ⟨h₁, h₂, h₃, h₄, rfl⟩ := h
        have := a'.isLt
        have := b'.isLt
        have := c.isLt
        have h₁ := unit_inj (by omega) (by omega) h₁
        have h₂ := unit_inj (by omega) (by omega) h₂
        have h₃ := unit_inj (by omega) (by omega) h₃
        have h₄ := unit_eq_underscore (by omega) h₄
        have hfirst : a' = a := Fin.ext (by omega)
        have hsecond : b' = b := Fin.ext (by omega)
        have hmark : c = 63 := Fin.ext (by change c.val = 63; omega)
        exact Or.inl ⟨rfl, rest, by rw [hfirst, hsecond, hmark]; rfl, rfl⟩
    · rintro (⟨-, rest, rfl, rfl⟩ | ⟨h1, -⟩)
      · simp only [List.cons_append, List.nil_append, encode]
        rfl
      · cases h1
  | case4 a b c rest ih =>
    constructor
    · intro h
      match whole, h with
      | [_], h => simp [encode] at h
      | [_, _], h => simp [encode] at h
      | a' :: b' :: c' :: whole, h =>
        rw [encode] at h
        simp only [List.cons_append, List.cons.injEq] at h
        obtain ⟨h₁, h₂, h₃, h₄, hrest⟩ := h
        obtain ⟨rfl, rfl, rfl⟩ := group_inj h₁ h₂ h₃ h₄
        rw [continues_cons]
        exact (ih (fun byte hbyte => hwhole byte (by simp [hbyte]))).mp hrest
    · intro h
      obtain ⟨more, rfl⟩ : ∃ more, whole = a :: b :: c :: (rest ++ more) := by
        obtain ⟨-, more, rfl, -⟩ | ⟨-, d, more, -, rfl, -⟩ := h
        · exact ⟨63 :: more, rfl⟩
        · exact ⟨15 :: d :: more, rfl⟩
      rw [continues_cons] at h
      rw [encode, (ih (fun byte hbyte => hwhole byte (by simp [hbyte]))).mpr h]
      rfl

end GT3Code.Base.Base64Url
