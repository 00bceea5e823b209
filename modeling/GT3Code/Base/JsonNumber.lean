import GT3Code.Base.JsonValue
import Mathlib.Data.Nat.Digits.Lemmas
import Mathlib.Data.List.TakeWhile
import Mathlib.Algebra.Order.Field.Power

/-! # Numbers of a JSON text

`numberValue` is the exact value of a number literal, and `intLiteral` the decimal
literal of an integer. Rounding to a double is left out: integers that a double
holds exactly are read back as they were written.
-/

namespace GT3Code.Base.Json

def digitsValue (digits : Text) : Nat := digits.foldl (fun value u => value * 10 + (u - 48)) 0

def signedValue : Text → Int
  | 45 :: digits => -(digitsValue digits : Int)
  | 43 :: digits => digitsValue digits
  | digits => digitsValue digits

def numberValue (literal : NumberLiteral) : ℚ :=
  let mantissa := literal.1.takeWhile (fun u => !isExponentMark u)
  let exponent := signedValue ((literal.1.dropWhile (fun u => !isExponentMark u)).drop 1)
  let fraction := (mantissa.dropWhile (fun u => !isPoint u)).drop 1
  let digits := mantissa.takeWhile (fun u => !isPoint u) ++ fraction
  (signedValue digits : ℚ) * 10 ^ (exponent - fraction.length)

/-! ## Decimal literals -/

def natUnits (n : Nat) : Text := (Nat.digits 10 n).reverse.map (fun digit => 48 + digit)

def intUnits : Int → Text
  | .ofNat 0 => [48]
  | .ofNat (n + 1) => natUnits (n + 1)
  | .negSucc n => 45 :: natUnits (n + 1)

variable {n : Nat}

theorem isDigit_of_mem_natUnits {u : CodeUnit} (h : u ∈ natUnits n) : isDigit u = true := by
  obtain ⟨digit, hdigit, rfl⟩ := List.mem_map.mp h
  have hlt : digit < 10 := Nat.digits_lt_base (by decide) (List.mem_reverse.mp hdigit)
  simp only [isDigit, Bool.and_eq_true, decide_eq_true_eq]
  exact ⟨Nat.le_add_right 48 digit, Nat.add_le_add_left (Nat.le_of_lt_succ hlt) 48⟩

theorem digitsValue_natUnits (n : Nat) : digitsValue (natUnits n) = n := by
  have hfold : ∀ digits : List Nat,
      digitsValue ((digits.reverse).map (fun digit => 48 + digit)) = Nat.ofDigits 10 digits := by
    intro digits
    induction digits with
    | nil => rfl
    | cons digit rest ih =>
      rw [List.reverse_cons, List.map_append, digitsValue, List.foldl_append]
      rw [digitsValue] at ih
      rw [ih, Nat.ofDigits_cons]
      simp
      omega
  rw [natUnits, hfold, Nat.ofDigits_digits]

theorem natUnits_cons (h : 0 < n) :
    ∃ first rest, natUnits n = first :: rest ∧ isDigit first = true ∧ first ≠ 48 ∧
      ∀ u ∈ rest, isDigit u = true := by
  have hdigits : Nat.digits 10 n ≠ [] := Nat.digits_ne_nil_iff_ne_zero.mpr (Nat.ne_of_gt h)
  have hlast := Nat.getLast_digit_ne_zero 10 (Nat.ne_of_gt h)
  have hsplit : natUnits n = (48 + (Nat.digits 10 n).getLast hdigits) ::
      (Nat.digits 10 n).dropLast.reverse.map (fun digit => 48 + digit) := by
    rw [natUnits]
    conv_lhs => rw [← List.dropLast_append_getLast hdigits]
    simp
  have hmem : ∀ u ∈ natUnits n, isDigit u = true := fun u hu => isDigit_of_mem_natUnits hu
  rw [hsplit] at hmem
  refine ⟨_, _, hsplit, hmem _ List.mem_cons_self, ?_,
    fun u hu => hmem u (List.mem_cons_of_mem _ hu)⟩
  intro heq
  exact hlast (Nat.add_left_cancel (heq.trans (Nat.add_zero 48).symm))

theorem numberFrom_digits {digits : Text} (h : ∀ u ∈ digits, isDigit u = true) :
    numberFrom .integer digits = true := by
  induction digits with
  | nil => rfl
  | cons u rest ih =>
    have hstep : numberStep .integer u = some .integer := by
      simp [numberStep, h u (by simp)]
    rw [numberFrom, hstep]
    exact ih (fun v hv => h v (by simp [hv]))

theorem numberFrom_natUnits (h : 0 < n) {state : NumberState}
    (hstate : state = .start ∨ state = .minus) : numberFrom state (natUnits n) = true := by
  obtain ⟨first, rest, heq, hfirst, hzero, hrest⟩ := natUnits_cons h
  have hminus : first ≠ 45 := by
    rintro rfl
    exact absurd hfirst (by decide)
  have hstep : numberStep state first = some .integer := by
    rcases hstate with rfl | rfl <;> simp [numberStep, hminus, hzero, hfirst]
  rw [heq, numberFrom, hstep]
  exact numberFrom_digits hrest

theorem isNumber_intUnits (n : Int) : isNumber (intUnits n) = true := by
  match n with
  | .ofNat 0 => rfl
  | .ofNat (n + 1) => exact numberFrom_natUnits (Nat.succ_pos n) (Or.inl rfl)
  | .negSucc n =>
    have hminus : numberStep .start 45 = some .minus := rfl
    show numberFrom .start (45 :: natUnits (n + 1)) = true
    rw [numberFrom, hminus]
    exact numberFrom_natUnits (Nat.succ_pos n) (Or.inr rfl)

/-- `String(n)` of an integer. -/
def intLiteral (n : Int) : NumberLiteral := ⟨intUnits n, isNumber_intUnits n⟩

theorem signedValue_natUnits (h : 0 < n) : signedValue (natUnits n) = n := by
  obtain ⟨first, rest, heq, hfirst, -, -⟩ := natUnits_cons h
  have hvalue := digitsValue_natUnits n
  rw [heq] at hvalue ⊢
  unfold signedValue
  split
  · rename_i digits hdigits
    cases hdigits
    exact absurd hfirst (by decide)
  · rename_i digits hdigits
    cases hdigits
    exact absurd hfirst (by decide)
  · rw [hvalue]

theorem signedValue_intUnits (n : Int) : signedValue (intUnits n) = n := by
  match n with
  | .ofNat 0 => rfl
  | .ofNat (n + 1) => exact signedValue_natUnits (Nat.succ_pos n)
  | .negSucc n =>
    show -(digitsValue (natUnits (n + 1)) : Int) = Int.negSucc n
    rw [digitsValue_natUnits]
    rfl

theorem mem_intUnits {n : Int} {u : CodeUnit} (h : u ∈ intUnits n) :
    isExponentMark u = false ∧ isPoint u = false := by
  have hdigit : ∀ u, isDigit u = true → isExponentMark u = false ∧ isPoint u = false := by
    intro u hu
    simp only [isDigit, Bool.and_eq_true, decide_eq_true_eq] at hu
    simp only [isExponentMark, isPoint, Bool.or_eq_false_iff, decide_eq_false_iff_not]
    grind
  cases n with
  | ofNat n =>
    cases n with
    | zero =>
      rw [List.mem_singleton.mp h]
      decide
    | succ n => exact hdigit u (isDigit_of_mem_natUnits h)
  | negSucc n =>
    rcases List.mem_cons.mp h with rfl | h
    · decide
    · exact hdigit u (isDigit_of_mem_natUnits h)

theorem numberValue_intLiteral (n : Int) : numberValue (intLiteral n) = n := by
  have hmantissa : (intUnits n).takeWhile (fun u => !isExponentMark u) = intUnits n :=
    List.takeWhile_eq_self_iff.mpr (fun u hu => by simp [mem_intUnits hu])
  have hexponent : (intUnits n).dropWhile (fun u => !isExponentMark u) = [] :=
    List.dropWhile_eq_nil_iff.mpr (fun u hu => by simp [mem_intUnits hu])
  have hwhole : (intUnits n).takeWhile (fun u => !isPoint u) = intUnits n :=
    List.takeWhile_eq_self_iff.mpr (fun u hu => by simp [mem_intUnits hu])
  have hfraction : (intUnits n).dropWhile (fun u => !isPoint u) = [] :=
    List.dropWhile_eq_nil_iff.mpr (fun u hu => by simp [mem_intUnits hu])
  have hzero : signedValue [] = 0 := rfl
  simp [numberValue, intLiteral, hmantissa, hexponent, hwhole, hfraction, signedValue_intUnits,
    hzero]

theorem intLiteral_injective : Function.Injective intLiteral := by
  intro m n h
  have hvalue := congrArg numberValue h
  rw [numberValue_intLiteral, numberValue_intLiteral] at hvalue
  exact Int.cast_injective hvalue

def ascii (literal : String) : Text := literal.toList.map Char.toNat

def number (n : Int) : Doc Text := .scalar (.num (intLiteral n))

theorem number_inj {m n : Int} : number m = number n ↔ m = n := by
  simp [number, intLiteral_injective.eq_iff]

end GT3Code.Base.Json
