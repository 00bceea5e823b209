import GT3Code.Base.Base64Url
import Mathlib.Tactic.Ring

/-! # Decoding UTF-8

The decoder reads a byte at a time and never fails: what is no character becomes the replacement
character, one for each longest run of bytes that begins one. Decoding a text in pieces gives the
text exactly when no piece ends inside a character that the next one continues.
-/

namespace GT3Code.Base.Utf8Decoding

open GT3Code.Base.Base64Url (Byte)

def replacement : Nat := 0xFFFD

/-- A character whose first bytes are read. The next byte must lie within the bounds, and `more`
bytes follow it. Every way to finish it is a code point outside the surrogates. -/
structure Pending where
  codePoint : Nat
  lower : Nat
  upper : Nat
  more : Nat
  lower_ge : 0x80 ≤ lower
  upper_le : upper ≤ 0xBF
  more_le : more ≤ 2
  le_max : (codePoint * 64 + (upper - 0x80)) * 64 ^ more + 64 ^ more ≤ 0x110000
  not_surrogate : (codePoint * 64 + (upper - 0x80)) * 64 ^ more + 64 ^ more ≤ 0xD800 ∨
    0xE000 ≤ (codePoint * 64 + (lower - 0x80)) * 64 ^ more

/-- What a byte at the start of a character is: all of one, or the first of several. -/
inductive Lead where
  | single (codePoint : Nat)
  | opens (pending : Pending)

def lead (byte : Byte) : Lead :=
  if byte.val < 0x80 then .single byte.val
  else if h : 0xC2 ≤ byte.val ∧ byte.val ≤ 0xDF then
    .opens ⟨byte.val - 0xC0, 0x80, 0xBF, 0, by omega, by omega, by omega, by omega, by omega⟩
  else if byte.val = 0xE0 then
    .opens ⟨0, 0xA0, 0xBF, 1, by omega, by omega, by omega, by omega, by omega⟩
  else if byte.val = 0xED then
    .opens ⟨0xD, 0x80, 0x9F, 1, by omega, by omega, by omega, by omega, by omega⟩
  else if h : 0xE1 ≤ byte.val ∧ byte.val ≤ 0xEC then
    .opens ⟨byte.val - 0xE0, 0x80, 0xBF, 1, by omega, by omega, by omega, by omega, by omega⟩
  else if h : 0xEE ≤ byte.val ∧ byte.val ≤ 0xEF then
    .opens ⟨byte.val - 0xE0, 0x80, 0xBF, 1, by omega, by omega, by omega, by omega, by omega⟩
  else if byte.val = 0xF0 then
    .opens ⟨0, 0x90, 0xBF, 2, by omega, by omega, by omega, by omega, by omega⟩
  else if h : 0xF1 ≤ byte.val ∧ byte.val ≤ 0xF3 then
    .opens ⟨byte.val - 0xF0, 0x80, 0xBF, 2, by omega, by omega, by omega, by omega, by omega⟩
  else if byte.val = 0xF4 then
    .opens ⟨4, 0x80, 0x8F, 2, by omega, by omega, by omega, by omega, by omega⟩
  else .single replacement

/-- The decoder after a byte: the code points it gives out, and the character it is in. -/
abbrev Step := List Nat × Option Pending

def startCharacter (byte : Byte) : Step :=
  match lead byte with
  | .single codePoint => ([codePoint], none)
  | .opens pending => ([], some pending)

def Pending.Continues (pending : Pending) (byte : Byte) : Prop :=
  pending.lower ≤ byte.val ∧ byte.val ≤ pending.upper

instance (pending : Pending) (byte : Byte) : Decidable (pending.Continues byte) :=
  inferInstanceAs (Decidable (_ ∧ _))

def Pending.next (pending : Pending) (byte : Byte) : Nat :=
  pending.codePoint * 64 + (byte.val - 0x80)

variable {byte : Byte} {pending : Pending}

theorem Pending.next_bounds (pending : Pending) (h : pending.Continues byte) :
    pending.codePoint * 64 + (pending.lower - 0x80) ≤ pending.next byte ∧
      pending.next byte ≤ pending.codePoint * 64 + (pending.upper - 0x80) := by
  obtain ⟨hlower, hupper⟩ := h
  unfold Pending.next
  omega

theorem finished_succ (codePoint more : Nat) :
    (codePoint * 64 + (0xBF - 0x80)) * 64 ^ more + 64 ^ more =
      codePoint * 64 ^ (more + 1) + 64 ^ (more + 1) := by
  rw [pow_succ]
  ring

variable {more : Nat} {front back : List Byte}

theorem Pending.next_le (pending : Pending) (h : pending.Continues byte)
    (hmore : pending.more = more + 1) :
    (pending.next byte * 64 + (0xBF - 0x80)) * 64 ^ more + 64 ^ more ≤
      (pending.codePoint * 64 + (pending.upper - 0x80)) * 64 ^ pending.more +
        64 ^ pending.more := by
  rw [finished_succ, hmore]
  gcongr
  exact (pending.next_bounds h).2

theorem Pending.le_next (pending : Pending) (h : pending.Continues byte)
    (hmore : pending.more = more + 1) :
    (pending.codePoint * 64 + (pending.lower - 0x80)) * 64 ^ pending.more ≤
      (pending.next byte * 64 + (0x80 - 0x80)) * 64 ^ more := by
  have hpower : (pending.next byte * 64 + (0x80 - 0x80)) * 64 ^ more =
      pending.next byte * 64 ^ (more + 1) := by
    rw [pow_succ]
    ring
  rw [hpower, hmore]
  gcongr
  exact (pending.next_bounds h).1

def Pending.take (pending : Pending) (byte : Byte) (h : pending.Continues byte) : Step :=
  match hmore : pending.more with
  | 0 => ([pending.next byte], none)
  | more + 1 =>
    ([], some {
      codePoint := pending.next byte
      lower := 0x80
      upper := 0xBF
      more
      lower_ge := by omega
      upper_le := by omega
      more_le := by have := pending.more_le; omega
      le_max := (pending.next_le h hmore).trans pending.le_max
      not_surrogate := pending.not_surrogate.imp (pending.next_le h hmore).trans
        (fun hlow => hlow.trans (pending.le_next h hmore)) })

theorem Pending.take_cases (pending : Pending) (byte : Byte) (h : pending.Continues byte) :
    pending.take byte h = ([pending.next byte], none) ∨
      ∃ later, pending.take byte h = ([], some later) := by
  unfold Pending.take
  split
  · exact Or.inl rfl
  · exact Or.inr ⟨_, rfl⟩

/-- A byte that does not continue the character ends it, and starts another. -/
def step : Option Pending → Byte → Step
  | none, byte => startCharacter byte
  | some pending, byte =>
    if h : pending.Continues byte then pending.take byte h
    else (replacement :: (startCharacter byte).1, (startCharacter byte).2)

def scan : Option Pending → List Byte → Step
  | state, [] => ([], state)
  | state, byte :: rest =>
    let first := step state byte
    let later := scan first.2 rest
    (first.1 ++ later.1, later.2)

def flush : Option Pending → List Nat
  | none => []
  | some _ => [replacement]

def codePointsFrom (state : Option Pending) (bytes : List Byte) : List Nat :=
  (scan state bytes).1 ++ flush (scan state bytes).2

def codePoints (bytes : List Byte) : List Nat := codePointsFrom none bytes

def utf16 (codePoint : Nat) : List Nat :=
  if codePoint < 0x10000 then [codePoint]
  else [0xD800 + (codePoint - 0x10000) / 0x400, 0xDC00 + (codePoint - 0x10000) % 0x400]

/-- `buffer.toString()`. -/
def decode (bytes : List Byte) : List Nat := (codePoints bytes).flatMap utf16

/-! ## Pieces -/

@[simp] theorem scan_nil (state : Option Pending) : scan state [] = ([], state) := rfl

theorem codePointsFrom_cons (state : Option Pending) (byte : Byte) (rest : List Byte) :
    codePointsFrom state (byte :: rest) =
      (step state byte).1 ++ codePointsFrom (step state byte).2 rest := by
  simp [codePointsFrom, scan]

theorem codePointsFrom_append (state : Option Pending) (front back : List Byte) :
    codePointsFrom state (front ++ back) =
      (scan state front).1 ++ codePointsFrom (scan state front).2 back := by
  induction front generalizing state with
  | nil => rfl
  | cons byte rest ih => rw [List.cons_append, codePointsFrom_cons, ih, scan, List.append_assoc]

theorem codePointsFrom_of_not_continues (h : ¬ pending.Continues byte) (rest : List Byte) :
    codePointsFrom (some pending) (byte :: rest) =
      replacement :: codePointsFrom none (byte :: rest) := by
  have hstep : step (some pending) byte =
      (replacement :: (startCharacter byte).1, (startCharacter byte).2) := dif_neg h
  rw [codePointsFrom_cons, codePointsFrom_cons, hstep]
  rfl

theorem startCharacter_of_continues (h : pending.Continues byte) :
    startCharacter byte = ([replacement], none) := by
  have hbyte : 0x80 ≤ byte.val ∧ byte.val ≤ 0xBF :=
    ⟨pending.lower_ge.trans h.1, h.2.trans pending.upper_le⟩
  have hlead : lead byte = .single replacement := by
    unfold lead
    split_ifs <;> first | rfl | omega
  rw [startCharacter, hlead]

theorem length_codePointsFrom_some_le (pending : Pending) (bytes : List Byte) :
    (codePointsFrom (some pending) bytes).length ≤ (codePointsFrom none bytes).length + 1 := by
  induction bytes generalizing pending with
  | nil => simp [codePointsFrom, flush]
  | cons byte rest ih =>
    by_cases h : pending.Continues byte
    · have hstep : step (some pending) byte = pending.take byte h := dif_pos h
      rw [codePointsFrom_cons, codePointsFrom_cons none, hstep]
      have hnone : step none byte = ([replacement], none) := startCharacter_of_continues h
      rw [hnone]
      rcases pending.take_cases byte h with hdone | ⟨later, hlater⟩
      · simp [hdone]
      · have hrest := ih later
        simp only [hlater, List.nil_append, List.length_append, List.length_singleton]
        omega
    · rw [codePointsFrom_of_not_continues h, List.length_cons]

theorem length_codePointsFrom_of_continues (h : pending.Continues byte) (rest : List Byte) :
    (codePointsFrom (some pending) (byte :: rest)).length ≤
      (codePointsFrom none (byte :: rest)).length := by
  have hstep : step (some pending) byte = pending.take byte h := dif_pos h
  have hnone : step none byte = ([replacement], none) := startCharacter_of_continues h
  rw [codePointsFrom_cons, codePointsFrom_cons none, hstep, hnone]
  rcases pending.take_cases byte h with hdone | ⟨later, hlater⟩
  · simp [hdone]
  · have hrest := length_codePointsFrom_some_le later rest
    simp only [hlater, List.nil_append, List.length_append, List.length_singleton]
    omega

/-- The front ends inside a character, and the first byte of the back goes on with it. -/
def CutsCharacter (front back : List Byte) : Prop :=
  ∃ pending ∈ (scan none front).2, ∃ byte ∈ back.head?, pending.Continues byte

instance (front back : List Byte) : Decidable (CutsCharacter front back) :=
  decidable_of_iff
    (((scan none front).2.any fun pending =>
      back.head?.any fun byte => decide (pending.Continues byte)) = true)
    (by simp [CutsCharacter, Option.any_eq_true])

theorem codePoints_append (h : ¬ CutsCharacter front back) :
    codePoints (front ++ back) = codePoints front ++ codePoints back := by
  have hfront : codePoints front = (scan none front).1 ++ flush (scan none front).2 := rfl
  rw [codePoints, codePointsFrom_append, hfront, List.append_assoc]
  congr 1
  cases hstate : (scan none front).2 with
  | none => rfl
  | some pending =>
    cases back with
    | nil => simp [codePoints, codePointsFrom, flush]
    | cons byte rest =>
      have hends : ¬ pending.Continues byte :=
        fun hcontinues => h ⟨pending, hstate, byte, rfl, hcontinues⟩
      rw [codePointsFrom_of_not_continues hends]
      rfl

theorem length_codePoints_append_lt (h : CutsCharacter front back) :
    (codePoints (front ++ back)).length <
      (codePoints front).length + (codePoints back).length := by
  obtain ⟨pending, hstate, byte, hbyte, hcontinues⟩ := h
  rw [Option.mem_def] at hstate
  cases back with
  | nil => cases hbyte
  | cons first rest =>
    obtain rfl : first = byte := Option.some.inj hbyte
    have hlater := length_codePointsFrom_of_continues hcontinues rest
    have hfront : (codePoints front).length = (scan none front).1.length + 1 := by
      rw [codePoints, codePointsFrom, hstate, List.length_append]
      rfl
    rw [codePoints, codePointsFrom_append, hstate, List.length_append, hfront, codePoints]
    omega

def IsScalar (codePoint : Nat) : Prop :=
  codePoint + 1 ≤ 0x110000 ∧ (codePoint + 1 ≤ 0xD800 ∨ 0xE000 ≤ codePoint)

theorem isScalar_replacement : IsScalar replacement := by
  simp [IsScalar, replacement]

theorem isScalar_startCharacter (byte : Byte) :
    ∀ codePoint ∈ (startCharacter byte).1, IsScalar codePoint := by
  intro codePoint hmem
  have hsingle : ∀ n, lead byte = .single n → IsScalar n := by
    intro n hlead
    unfold lead at hlead
    split_ifs at hlead with hascii
    · cases hlead
      simp only [IsScalar]
      omega
    · cases hlead
      exact isScalar_replacement
  unfold startCharacter at hmem
  split at hmem
  · rename_i n hlead
    rw [List.mem_singleton.mp hmem]
    exact hsingle n hlead
  · cases hmem

theorem isScalar_step (state : Option Pending) (byte : Byte) :
    ∀ codePoint ∈ (step state byte).1, IsScalar codePoint := by
  intro codePoint hmem
  cases state with
  | none => exact isScalar_startCharacter byte codePoint hmem
  | some pending =>
    by_cases h : pending.Continues byte
    · have hstep : step (some pending) byte = pending.take byte h := dif_pos h
      rw [hstep] at hmem
      unfold Pending.take at hmem
      split at hmem
      · rename_i hmore
        rw [List.mem_singleton.mp hmem]
        obtain ⟨hlow, hhigh⟩ := pending.next_bounds h
        have hmax := pending.le_max
        have hscalar := pending.not_surrogate
        simp only [hmore, pow_zero, mul_one] at hmax hscalar
        exact ⟨(Nat.succ_le_succ hhigh).trans hmax,
          hscalar.imp (Nat.succ_le_succ hhigh).trans fun hle => hle.trans hlow⟩
      · cases hmem
    · have hstep : step (some pending) byte =
          (replacement :: (startCharacter byte).1, (startCharacter byte).2) := dif_neg h
      rw [hstep] at hmem
      rcases List.mem_cons.mp hmem with rfl | hlater
      · exact isScalar_replacement
      · exact isScalar_startCharacter byte codePoint hlater

theorem isScalar_codePointsFrom (state : Option Pending) (bytes : List Byte) :
    ∀ codePoint ∈ codePointsFrom state bytes, IsScalar codePoint := by
  induction bytes generalizing state with
  | nil =>
    intro codePoint hmem
    cases state with
    | none => cases hmem
    | some pending =>
      rw [show codePoint = replacement from List.mem_singleton.mp hmem]
      exact isScalar_replacement
  | cons byte rest ih =>
    intro codePoint hmem
    rw [codePointsFrom_cons] at hmem
    rcases List.mem_append.mp hmem with hfirst | hlater
    · exact isScalar_step state byte codePoint hfirst
    · exact ih _ codePoint hlater

def startsCodePoint (u : Nat) : Bool := u < 0xDC00 || 0xDFFF < u

theorem countP_utf16 {codePoint : Nat} (h : IsScalar codePoint) :
    (utf16 codePoint).countP startsCodePoint = 1 := by
  obtain ⟨hmax, hscalar⟩ := h
  unfold utf16
  split_ifs with hsmall
  · have hstarts : startsCodePoint codePoint = true := by
      simp only [startsCodePoint, Bool.or_eq_true, decide_eq_true_eq]
      omega
    simp [hstarts]
  · have hhigh : startsCodePoint (0xD800 + (codePoint - 0x10000) / 0x400) = true := by
      simp only [startsCodePoint, Bool.or_eq_true, decide_eq_true_eq]
      omega
    have hlow : startsCodePoint (0xDC00 + (codePoint - 0x10000) % 0x400) = false := by
      simp only [startsCodePoint, Bool.or_eq_false_iff, decide_eq_false_iff_not]
      omega
    simp [hhigh, hlow]

theorem countP_decode (bytes : List Byte) :
    (decode bytes).countP startsCodePoint = (codePoints bytes).length := by
  have hall : ∀ points : List Nat, (∀ codePoint ∈ points, IsScalar codePoint) →
      (points.flatMap utf16).countP startsCodePoint = points.length := by
    intro points
    induction points with
    | nil => exact fun _ => rfl
    | cons codePoint rest ih =>
      intro hpoints
      obtain ⟨hfirst, hrest⟩ := List.forall_mem_cons.mp hpoints
      rw [List.flatMap_cons, List.countP_append, countP_utf16 hfirst, ih hrest,
        List.length_cons, Nat.add_comm]
  exact hall _ (isScalar_codePointsFrom none bytes)

/-- No chunk ends inside a character that what follows goes on with. -/
def KeepsCharacters : List (List Byte) → Prop
  | [] => True
  | chunk :: rest => ¬ CutsCharacter chunk rest.flatten ∧ KeepsCharacters rest

instance decidableKeepsCharacters : ∀ chunks, Decidable (KeepsCharacters chunks)
  | [] => isTrue trivial
  | chunk :: rest =>
    have := decidableKeepsCharacters rest
    inferInstanceAs (Decidable (¬ CutsCharacter chunk rest.flatten ∧ KeepsCharacters rest))

theorem length_codePoints_flatten_le (chunks : List (List Byte)) :
    (codePoints chunks.flatten).length ≤ (chunks.map (fun c => (codePoints c).length)).sum ∧
      (KeepsCharacters chunks ∨
        (codePoints chunks.flatten).length <
          (chunks.map (fun c => (codePoints c).length)).sum) := by
  induction chunks with
  | nil => exact ⟨le_refl _, Or.inl trivial⟩
  | cons chunk rest ih =>
    obtain ⟨hle, hkeeps⟩ := ih
    rw [List.flatten_cons, List.map_cons, List.sum_cons]
    by_cases hcut : CutsCharacter chunk rest.flatten
    · have hlt := length_codePoints_append_lt hcut
      exact ⟨by omega, Or.inr (by omega)⟩
    · rw [codePoints_append hcut, List.length_append]
      exact ⟨by omega, hkeeps.imp (fun hrest => ⟨hcut, hrest⟩) (fun hlt => by omega)⟩

theorem decode_flatten {chunks : List (List Byte)} (h : KeepsCharacters chunks) :
    decode chunks.flatten = chunks.flatMap decode := by
  induction chunks with
  | nil => rfl
  | cons chunk rest ih =>
    rw [List.flatten_cons, List.flatMap_cons, ← ih h.2, decode, codePoints_append h.1,
      List.flatMap_append]
    rfl

theorem countP_flatMap_decode (chunks : List (List Byte)) :
    (chunks.flatMap decode).countP startsCodePoint =
      (chunks.map (fun c => (codePoints c).length)).sum := by
  rw [List.countP_flatMap]
  exact congrArg List.sum (List.map_congr_left fun chunk _ => countP_decode chunk)

theorem flatMap_decode_eq_iff (chunks : List (List Byte)) :
    chunks.flatMap decode = decode chunks.flatten ↔ KeepsCharacters chunks := by
  constructor
  · intro h
    have hcount := congrArg (List.countP startsCodePoint) h
    rw [countP_flatMap_decode, countP_decode] at hcount
    rcases (length_codePoints_flatten_le chunks).2 with hkeeps | hlt
    · exact hkeeps
    · omega
  · exact fun h => (decode_flatten h).symm

/-- A euro sign in one piece and cut behind its first byte. -/
example : decode [0xE2, 0x82, 0xAC] = [0x20AC] ∧
    decode [0xE2] ++ decode [0x82, 0xAC] = [0xFFFD, 0xFFFD, 0xFFFD] := by decide

end GT3Code.Base.Utf8Decoding
