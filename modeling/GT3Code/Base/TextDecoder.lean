import GT3Code.Base.Utf8Decoding

/-! # Streaming decoders

A decoder that takes its bytes piece by piece and drops a byte order mark at their start.
-/

namespace GT3Code.Base.Utf8Decoding

open GT3Code.Base.Base64Url (Byte)

/-- `bomSeen` is set by the first code point, whatever it is. -/
structure TextDecoder where
  pending : Option Pending
  bomSeen : Bool

namespace TextDecoder

/-- `new TextDecoder()` -/
def initial : TextDecoder where
  pending := none
  bomSeen := false

/-- The code points without a byte order mark at the start of all. -/
def withoutBom : Bool → List Nat → List Nat × Bool
  | bomSeen, [] => ([], bomSeen)
  | bomSeen, codePoint :: rest =>
    (if !bomSeen && codePoint == 0xFEFF then rest else codePoint :: rest, true)

/-- `decoder.decode(bytes, { stream: true })` -/
def decode (decoder : TextDecoder) (bytes : List Byte) : List Nat × TextDecoder :=
  let scanned := scan decoder.pending bytes
  let shown := withoutBom decoder.bomSeen scanned.1
  (shown.1.flatMap utf16, ⟨scanned.2, shown.2⟩)

/-- `decoder.decode()` -/
def finish (decoder : TextDecoder) : List Nat :=
  (withoutBom decoder.bomSeen (flush decoder.pending)).1.flatMap utf16

theorem scan_append (state : Option Pending) (front back : List Byte) :
    scan state (front ++ back) =
      ((scan state front).1 ++ (scan (scan state front).2 back).1,
        (scan (scan state front).2 back).2) := by
  induction front generalizing state with
  | nil => rfl
  | cons byte rest ih => simp only [List.cons_append, scan, ih, List.append_assoc]

theorem withoutBom_append (bomSeen : Bool) (front back : List Nat) :
    withoutBom bomSeen (front ++ back) =
      ((withoutBom bomSeen front).1 ++ (withoutBom (withoutBom bomSeen front).2 back).1,
        (withoutBom (withoutBom bomSeen front).2 back).2) := by
  cases front with
  | nil => rfl
  | cons codePoint rest =>
    have hseen : withoutBom true back = (back, true) := by cases back <;> rfl
    show (if _ then rest ++ back else codePoint :: (rest ++ back), true) =
      ((if _ then rest else codePoint :: rest) ++ (withoutBom true back).1,
        (withoutBom true back).2)
    rw [hseen]
    split
    · rfl
    · rfl

@[simp] theorem decode_nil (decoder : TextDecoder) : decoder.decode [] = ([], decoder) := rfl

theorem decode_append (decoder : TextDecoder) (front back : List Byte) :
    decoder.decode (front ++ back) =
      ((decoder.decode front).1 ++ ((decoder.decode front).2.decode back).1,
        ((decoder.decode front).2.decode back).2) := by
  simp only [decode, scan_append, withoutBom_append, List.flatMap_append]

end TextDecoder

end GT3Code.Base.Utf8Decoding
