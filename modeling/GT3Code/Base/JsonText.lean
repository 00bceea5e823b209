import GT3Code.Base.JsonValue
import GT3Code.Base.Runs

/-! # JSON texts

`parse` is `JSON.parse`: a scanner cuts the text into string literals and single
units, a stack machine reads these pieces into a document, and the document of
decoded strings is the value. `stringify` is `JSON.stringify` with an indentation.
Both sides meet in the pieces: a text is scanned into the pieces it is written as,
and the machine reads the pieces a document is laid out as back into it.
-/

namespace GT3Code.Base.Json

/-! ## Units -/

abbrev quote : CodeUnit := 34
abbrev comma : CodeUnit := 44
abbrev slash : CodeUnit := 47
abbrev colon : CodeUnit := 58
abbrev openBracket : CodeUnit := 91
abbrev backslash : CodeUnit := 92
abbrev closeBracket : CodeUnit := 93
abbrev letterU : CodeUnit := 117
abbrev openBrace : CodeUnit := 123
abbrev closeBrace : CodeUnit := 125

def isBlank (u : CodeUnit) : Bool := u = 32 || u = 9 || u = 10 || u = 13

def isPunctuation (u : CodeUnit) : Bool :=
  u = comma || u = colon || u = openBracket || u = closeBracket || u = openBrace || u = closeBrace

def isPlain (u : CodeUnit) : Bool := 32 ≤ u && u ≠ quote && u ≠ backslash

def simpleEscape : CodeUnit → Option CodeUnit
  | 34 => some 34
  | 92 => some 92
  | 47 => some 47
  | 98 => some 8
  | 102 => some 12
  | 110 => some 10
  | 114 => some 13
  | 116 => some 9
  | _ => none

def hexValue (u : CodeUnit) : Option Nat :=
  if 48 ≤ u ∧ u ≤ 57 then some (u - 48)
  else if 97 ≤ u ∧ u ≤ 102 then some (u - 87)
  else if 65 ≤ u ∧ u ≤ 70 then some (u - 55)
  else none

abbrev HexDigit := { u : CodeUnit // (hexValue u).isSome = true }

def HexDigit.value (digit : HexDigit) : Nat := (hexValue digit.1).get digit.2

inductive Item where
  | plain (unit : { u : CodeUnit // isPlain u = true })
  | escape (letter : { u : CodeUnit // (simpleEscape u).isSome = true })
  | unicode (first second third fourth : HexDigit)

abbrev Literal := List Item

namespace Item

def raw : Item → Text
  | plain unit => [unit.1]
  | escape letter => [backslash, letter.1]
  | unicode first second third fourth =>
    [backslash, letterU, first.1, second.1, third.1, fourth.1]

def decode : Item → CodeUnit
  | plain unit => unit.1
  | escape letter => (simpleEscape letter.1).get letter.2
  | unicode first second third fourth =>
    ((first.value * 16 + second.value) * 16 + third.value) * 16 + fourth.value

end Item

namespace Literal

def raw (literal : Literal) : Text := literal.flatMap Item.raw

def decode (literal : Literal) : Text := literal.map Item.decode

@[simp] theorem raw_nil : raw [] = [] := rfl

@[simp] theorem raw_cons (item : Item) (literal : Literal) :
    raw (item :: literal) = item.raw ++ raw literal := rfl

@[simp] theorem decode_cons (item : Item) (literal : Literal) :
    decode (item :: literal) = item.decode :: decode literal := rfl

@[simp] theorem length_decode (literal : Literal) : (decode literal).length = literal.length := by
  simp [decode]

end Literal

inductive Piece (σ : Type) where
  | mark (unit : CodeUnit)
  | str (literal : σ)

namespace Piece

variable {σ τ : Type}

def map (f : σ → τ) : Piece σ → Piece τ
  | mark unit => mark unit
  | str literal => str (f literal)

def raw : Piece Literal → Text
  | mark unit => [unit]
  | str literal => quote :: (literal.raw ++ [quote])

end Piece

def render (pieces : List (Piece Literal)) : Text := pieces.flatMap Piece.raw

@[simp] theorem render_nil : render [] = [] := rfl

@[simp] theorem render_mark (u : CodeUnit) (pieces : List (Piece Literal)) :
    render (.mark u :: pieces) = u :: render pieces := rfl

@[simp] theorem render_str (literal : Literal) (pieces : List (Piece Literal)) :
    render (.str literal :: pieces) = quote :: (literal.raw ++ quote :: render pieces) := by
  simp [render, Piece.raw]

theorem render_append (first second : List (Piece Literal)) :
    render (first ++ second) = render first ++ render second := by
  simp [render]

def Unquoted {σ : Type} (pieces : List (Piece σ)) : Prop := .mark quote ∉ pieces

/-! ## Scanner -/

inductive ScanMode where
  | outside
  | inside (items : Literal)
  | escaped (items : Literal)
  | hex (items : Literal) (digits : List HexDigit)

structure Scanner where
  pieces : List (Piece Literal)
  mode : ScanMode

def Scanner.initial : Scanner := { pieces := [], mode := .outside }

def scanStep (scanner : Scanner) (u : CodeUnit) : Option Scanner :=
  match scanner.mode with
  | .outside =>
    if u = quote then some { scanner with mode := .inside [] }
    else some { scanner with pieces := scanner.pieces ++ [.mark u] }
  | .inside items =>
    if u = quote then some { pieces := scanner.pieces ++ [.str items], mode := .outside }
    else if u = backslash then some { scanner with mode := .escaped items }
    else if h : isPlain u = true then
      some { scanner with mode := .inside (items ++ [.plain ⟨u, h⟩]) }
    else none
  | .escaped items =>
    if u = letterU then some { scanner with mode := .hex items [] }
    else if h : (simpleEscape u).isSome = true then
      some { scanner with mode := .inside (items ++ [.escape ⟨u, h⟩]) }
    else none
  | .hex items digits =>
    if h : (hexValue u).isSome = true then
      match digits with
      | [first, second, third] =>
        some { scanner with
          mode := .inside (items ++ [.unicode first second third ⟨u, h⟩]) }
      | _ => some { scanner with mode := .hex items (digits ++ [⟨u, h⟩]) }
    else none

def scan (text : Text) : Option (List (Piece Literal)) :=
  match exec scanStep .initial text with
  | some { pieces, mode := .outside } => some pieces
  | _ => none

namespace Scanner

def consumed (scanner : Scanner) : Text :=
  render scanner.pieces ++
    match scanner.mode with
    | .outside => []
    | .inside items => quote :: items.raw
    | .escaped items => quote :: (items.raw ++ [backslash])
    | .hex items digits => quote :: (items.raw ++ backslash :: letterU :: digits.map Subtype.val)

variable {scanner : Scanner}

variable {next : Scanner} {u : CodeUnit}

theorem consumed_step (h : scanStep scanner u = some next) :
    next.consumed = scanner.consumed ++ [u] := by
  obtain ⟨pieces, mode⟩ := scanner
  cases mode with
  | outside =>
    simp only [scanStep] at h
    split at h <;> cases h <;> simp_all [consumed, render_append]
  | inside items =>
    simp only [scanStep] at h
    split at h
    · cases h
      simp_all [consumed, render_append]
    · split at h
      · cases h
        simp_all [consumed]
      · split at h <;> cases h
        simp [consumed, Literal.raw, Item.raw]
  | escaped items =>
    simp only [scanStep] at h
    split at h
    · cases h
      simp_all [consumed]
    · split at h <;> cases h
      simp [consumed, Literal.raw, Item.raw]
  | hex items digits =>
    simp only [scanStep] at h
    split at h
    · split at h <;> cases h
      · simp [consumed, Literal.raw, Item.raw]
      · simp [consumed]
    · cases h

theorem consumed_exec {last : Scanner} {text : Text} (h : exec scanStep scanner text = some last) :
    last.consumed = scanner.consumed ++ text := by
  induction text generalizing scanner with
  | nil =>
    cases h
    simp
  | cons u rest ih =>
    obtain ⟨next, hnext, hrest⟩ := exec_cons_eq_some h
    rw [ih hrest, consumed_step hnext, List.append_assoc, List.singleton_append]

theorem unquoted_step (hscanner : Unquoted scanner.pieces) (h : scanStep scanner u = some next) :
    Unquoted next.pieces := by
  obtain ⟨pieces, mode⟩ := scanner
  simp only [Unquoted] at hscanner ⊢
  cases mode <;> simp only [scanStep] at h <;> grind

end Scanner

variable {pieces : List (Piece Literal)}

theorem render_of_scan {text : Text} (h : scan text = some pieces) :
    render pieces = text ∧ Unquoted pieces := by
  unfold scan at h
  split at h
  · rename_i last hrun
    cases h
    constructor
    · have hconsumed := Scanner.consumed_exec hrun
      simpa [Scanner.consumed, Scanner.initial] using hconsumed
    · exact exec_invariant (I := fun scanner : Scanner => Unquoted scanner.pieces)
        (fun _ _ _ hs hstep => Scanner.unquoted_step hs hstep)
        (by simp [Unquoted, Scanner.initial]) hrun
  · cases h

namespace Scanner

theorem exec_item (pieces : List (Piece Literal)) (items : Literal) (item : Item) :
    exec scanStep ⟨pieces, .inside items⟩ item.raw = some ⟨pieces, .inside (items ++ [item])⟩ := by
  cases item with
  | plain unit =>
    obtain ⟨u, hu⟩ := unit
    have hquote : u ≠ quote ∧ u ≠ backslash := by
      simp only [isPlain, Bool.and_eq_true, decide_eq_true_eq] at hu
      exact ⟨hu.1.2, hu.2⟩
    simp [Item.raw, scanStep, hquote, hu]
  | escape letter =>
    obtain ⟨u, hu⟩ := letter
    have hletter : u ≠ letterU := by
      rintro rfl
      exact absurd hu (by decide)
    simp [Item.raw, scanStep, hletter, hu]
  | unicode first second third fourth =>
    simp [Item.raw, scanStep, first.2, second.2, third.2, fourth.2]

theorem exec_literal (pieces : List (Piece Literal)) (items literal : Literal) :
    exec scanStep ⟨pieces, .inside items⟩ literal.raw =
      some ⟨pieces, .inside (items ++ literal)⟩ := by
  induction literal generalizing items with
  | nil => simp
  | cons item rest ih =>
    rw [Literal.raw_cons, exec_append, exec_item, Option.bind_some, ih, List.append_assoc,
      List.singleton_append]

theorem exec_piece (pieces : List (Piece Literal)) (piece : Piece Literal)
    (h : piece ≠ .mark quote) :
    exec scanStep ⟨pieces, .outside⟩ piece.raw = some ⟨pieces ++ [piece], .outside⟩ := by
  cases piece with
  | mark u =>
    have hu : u ≠ quote := fun heq => h (by rw [heq])
    simp [Piece.raw, scanStep, hu]
  | str literal =>
    have hopen : scanStep ⟨pieces, .outside⟩ quote = some ⟨pieces, .inside []⟩ := by
      simp [scanStep]
    rw [Piece.raw, exec_cons, hopen, Option.bind_some, exec_append, exec_literal]
    simp [scanStep]

theorem exec_render (done pieces : List (Piece Literal)) (h : Unquoted pieces) :
    exec scanStep ⟨done, .outside⟩ (render pieces) = some ⟨done ++ pieces, .outside⟩ := by
  induction pieces generalizing done with
  | nil => simp
  | cons piece rest ih =>
    simp only [Unquoted, List.mem_cons, not_or] at h
    have hsplit : render (piece :: rest) = piece.raw ++ render rest := by simp [render]
    rw [hsplit, exec_append, exec_piece done piece (Ne.symm h.1), Option.bind_some, ih _ h.2,
      List.append_assoc, List.singleton_append]

end Scanner

theorem scan_render (h : Unquoted pieces) : scan (render pieces) = some pieces := by
  simp [scan, Scanner.initial, Scanner.exec_render [] pieces h]

/-! ## Reader -/

section Reader

variable {σ τ : Type}

/-- An open container: the items before the one being read, or the entries before it and its
key. -/
inductive Frame (σ : Type) where
  | arr (items : List (Doc σ))
  | obj (entries : List (σ × Doc σ)) (key : σ)

inductive Expect (σ : Type) where
  | value (closable : Bool)
  | word (units : Text)
  | key (entries : List (σ × Doc σ)) (closable : Bool)
  | colon (entries : List (σ × Doc σ)) (key : σ)
  | after (value : Doc σ)

structure Reader (σ : Type) where
  stack : List (Frame σ)
  expect : Expect σ

def Reader.initial : Reader σ := { stack := [], expect := .value false }

def trueWord : Text := [116, 114, 117, 101]

def falseWord : Text := [102, 97, 108, 115, 101]

def nullWord : Text := [110, 117, 108, 108]

def readWord (units : Text) : Option Scalar :=
  if units = trueWord then some (.bool true)
  else if units = falseWord then some (.bool false)
  else if units = nullWord then some .null
  else if h : isNumber units = true then some (.num ⟨units, h⟩)
  else none

/-- A unit other than white space after a value of the innermost container. -/
def settle (stack : List (Frame σ)) (value : Doc σ) (u : CodeUnit) : Option (Reader σ) :=
  match stack with
  | .arr items :: outer =>
    if u = comma then some { stack := .arr (items ++ [value]) :: outer, expect := .value false }
    else if u = closeBracket then
      some { stack := outer, expect := .after (.arr (items ++ [value])) }
    else none
  | .obj entries key :: outer =>
    if u = comma then
      some { stack := outer, expect := .key (entries ++ [(key, value)]) false }
    else if u = closeBrace then
      some { stack := outer, expect := .after (.obj (entries ++ [(key, value)])) }
    else none
  | [] => none

def readBlank (reader : Reader σ) : Option (Reader σ) :=
  match reader.expect with
  | .word units =>
    (readWord units).map (fun value => { reader with expect := .after (.scalar value) })
  | _ => some reader

def readOpening (stack : List (Frame σ)) (closable : Bool) (u : CodeUnit) : Option (Reader σ) :=
  if u = openBracket then some { stack := .arr [] :: stack, expect := .value true }
  else if u = openBrace then some { stack, expect := .key [] true }
  else if u = closeBracket then
    match closable, stack with
    | true, .arr items :: outer => some { stack := outer, expect := .after (.arr items) }
    | _, _ => none
  else if isPunctuation u then none
  else some { stack, expect := .word [u] }

def readMark (reader : Reader σ) (u : CodeUnit) : Option (Reader σ) :=
  match reader.expect with
  | .value closable => readOpening reader.stack closable u
  | .word units =>
    if isPunctuation u then
      (readWord units).bind (fun value => settle reader.stack (.scalar value) u)
    else some { reader with expect := .word (units ++ [u]) }
  | .key entries closable =>
    if u = closeBrace ∧ closable = true then
      some { reader with expect := .after (.obj entries) }
    else none
  | .colon entries key =>
    if u = colon then
      some { stack := .obj entries key :: reader.stack, expect := .value false }
    else none
  | .after value => settle reader.stack value u

def readLiteral (reader : Reader σ) (literal : σ) : Option (Reader σ) :=
  match reader.expect with
  | .value _ => some { reader with expect := .after (.str literal) }
  | .key entries _ => some { reader with expect := .colon entries literal }
  | _ => none

def readStep (reader : Reader σ) : Piece σ → Option (Reader σ)
  | .mark u => if isBlank u then readBlank reader else readMark reader u
  | .str literal => readLiteral reader literal

def Reader.finish (reader : Reader σ) : Option (Doc σ) :=
  match reader.stack, reader.expect with
  | [], .after value => some value
  | [], .word units => (readWord units).map .scalar
  | _, _ => none

def readPieces (pieces : List (Piece σ)) : Option (Doc σ) :=
  (exec readStep .initial pieces).bind Reader.finish

def Frame.map (f : σ → τ) : Frame σ → Frame τ
  | .arr items => .arr (items.map (Doc.map f))
  | .obj entries key => .obj (entries.map (fun entry => (f entry.1, entry.2.map f))) (f key)

def Expect.map (f : σ → τ) : Expect σ → Expect τ
  | .value closable => .value closable
  | .word units => .word units
  | .key entries closable => .key (entries.map (fun entry => (f entry.1, entry.2.map f))) closable
  | .colon entries name => .colon (entries.map (fun entry => (f entry.1, entry.2.map f))) (f name)
  | .after doc => .after (doc.map f)

def Reader.map (f : σ → τ) (reader : Reader σ) : Reader τ :=
  { stack := reader.stack.map (Frame.map f), expect := reader.expect.map f }

theorem settle_map (f : σ → τ) (stack : List (Frame σ)) (value : Doc σ) (u : CodeUnit) :
    settle (stack.map (Frame.map f)) (value.map f) u = (settle stack value u).map (Reader.map f) := by
  cases stack with
  | nil => rfl
  | cons frame outer =>
    cases frame with
    | arr items =>
      simp only [settle, List.map_cons, Frame.map]
      split_ifs <;> simp [Reader.map, Frame.map, Expect.map]
    | obj entries key =>
      simp only [settle, List.map_cons, Frame.map]
      split_ifs <;> simp [Reader.map, Expect.map]

theorem readBlank_map (f : σ → τ) (reader : Reader σ) :
    readBlank (reader.map f) = (readBlank reader).map (Reader.map f) := by
  obtain ⟨stack, expect⟩ := reader
  cases expect with
  | word units => cases h : readWord units <;> simp [readBlank, Reader.map, Expect.map, h]
  | _ => rfl

theorem readOpening_map (f : σ → τ) (stack : List (Frame σ)) (closable : Bool) (u : CodeUnit) :
    readOpening (stack.map (Frame.map f)) closable u =
      (readOpening stack closable u).map (Reader.map f) := by
  unfold readOpening
  split_ifs
  · rfl
  · rfl
  · cases closable with
    | false => simp
    | true =>
      rcases stack with _ | ⟨frame, outer⟩
      · rfl
      · cases frame <;> simp [Frame.map, Reader.map, Expect.map]
  · rfl
  · rfl

theorem readMark_map (f : σ → τ) (reader : Reader σ) (u : CodeUnit) :
    readMark (reader.map f) u = (readMark reader u).map (Reader.map f) := by
  obtain ⟨stack, expect⟩ := reader
  cases expect with
  | value closable => exact readOpening_map f stack closable u
  | word units =>
    simp only [readMark, Reader.map, Expect.map]
    split_ifs
    · cases readWord units with
      | none => rfl
      | some value => exact settle_map f stack (.scalar value) u
    · rfl
  | key entries closable =>
    simp only [readMark, Reader.map, Expect.map]
    split_ifs
    · simp [Reader.map, Expect.map]
    · rfl
  | colon entries key =>
    simp only [readMark, Reader.map, Expect.map]
    split_ifs <;> rfl
  | after value => exact settle_map f stack value u

theorem readStep_map (f : σ → τ) (reader : Reader σ) (piece : Piece σ) :
    readStep (reader.map f) (piece.map f) = (readStep reader piece).map (Reader.map f) := by
  cases piece with
  | mark u =>
    simp only [readStep, Piece.map]
    split_ifs
    · exact readBlank_map f reader
    · exact readMark_map f reader u
  | str literal =>
    obtain ⟨stack, expect⟩ := reader
    cases expect <;> rfl

theorem finish_map (f : σ → τ) (reader : Reader σ) :
    (reader.map f).finish = reader.finish.map (Doc.map f) := by
  obtain ⟨stack, expect⟩ := reader
  cases stack with
  | nil =>
    cases expect with
    | word units =>
      simp only [Reader.finish, Reader.map, Expect.map, List.map_nil, Option.map_map]
      rfl
    | _ => rfl
  | cons frame outer => rfl

theorem readPieces_map (f : σ → τ) (pieces : List (Piece σ)) :
    readPieces (pieces.map (Piece.map f)) = (readPieces pieces).map (Doc.map f) := by
  have hrun : ∀ reader : Reader σ, exec readStep (reader.map f) (pieces.map (Piece.map f)) =
      (exec readStep reader pieces).map (Reader.map f) := by
    induction pieces with
    | nil => exact fun reader => rfl
    | cons piece rest ih =>
      intro reader
      rw [List.map_cons, exec_cons, exec_cons, readStep_map]
      cases readStep reader piece with
      | none => rfl
      | some next => exact ih next
  have hinitial := hrun .initial
  rw [show (Reader.initial : Reader σ).map f = Reader.initial from rfl] at hinitial
  rw [readPieces, readPieces, hinitial]
  cases exec readStep .initial pieces with
  | none => rfl
  | some reader => exact finish_map f reader

def marks (units : Text) : List (Piece σ) := units.map .mark

variable {reader : Reader σ} {units : Text} {u : CodeUnit} {d : Doc σ}

theorem exec_blanks (hword : ∀ units, reader.expect ≠ .word units)
    (hunits : ∀ u ∈ units, isBlank u = true) :
    exec readStep reader (marks units) = some reader := by
  have hblank : readBlank reader = some reader := by
    unfold readBlank
    split
    · rename_i word hexpect
      exact absurd hexpect (hword word)
    · rfl
  induction units with
  | nil => rfl
  | cons u rest ih =>
    have hstep : readStep reader (.mark u) = some reader := by
      simp [readStep, hunits u (by simp), hblank]
    simpa [marks, hstep] using ih (fun v hv => hunits v (by simp [hv]))

def isLetter (u : CodeUnit) : Bool :=
  trueWord.contains u || falseWord.contains u || nullWord.contains u

def isTokenUnit (u : CodeUnit) : Bool :=
  isBlank u || isPunctuation u || isNumberUnit u || isLetter u

theorem isTokenUnit_of_readWord {word : Scalar} (h : readWord units = some word) (hu : u ∈ units) :
    isTokenUnit u = true := by
  have hletter : isLetter u = true → isTokenUnit u = true := by
    intro hletter
    simp [isTokenUnit, hletter]
  unfold readWord at h
  split_ifs at h with htrue hfalse hnull hnumber
  · subst htrue
    exact hletter (by simp [isLetter, hu])
  · subst hfalse
    exact hletter (by simp [isLetter, hu])
  · subst hnull
    exact hletter (by simp [isLetter, hu])
  · simp [isTokenUnit, isNumberUnit_of_mem hnumber hu]

def Reader.Stuck (reader : Reader σ) : Prop :=
  ∃ units, reader.expect = .word units ∧ ∃ u ∈ units, isTokenUnit u = false

theorem Reader.Stuck.readWord (h : ∃ u ∈ units, isTokenUnit u = false) :
    Json.readWord units = none := by
  obtain ⟨u, hu, hunit⟩ := h
  cases hread : Json.readWord units with
  | none => rfl
  | some word =>
    rw [isTokenUnit_of_readWord hread hu] at hunit
    cases hunit

variable {next : Reader σ} {piece : Piece σ} {pieces before after : List (Piece σ)}

theorem Reader.Stuck.step (h : reader.Stuck) (hstep : readStep reader piece = some next) :
    next.Stuck := by
  obtain ⟨stack, expect⟩ := reader
  obtain ⟨units, rfl, hunits⟩ := h
  have hword := Reader.Stuck.readWord hunits
  cases piece with
  | str literal => cases hstep
  | mark u =>
    simp only [readStep, readBlank, readMark, hword, Option.map_none, Option.bind_none] at hstep
    split_ifs at hstep
    cases hstep
    obtain ⟨v, hv, hunit⟩ := hunits
    exact ⟨units ++ [u], rfl, v, by simp [hv], hunit⟩

theorem Reader.Stuck.finish (h : reader.Stuck) : reader.finish = none := by
  obtain ⟨stack, expect⟩ := reader
  obtain ⟨units, rfl, hunits⟩ := h
  cases stack <;> simp [Reader.finish, Reader.Stuck.readWord hunits]

theorem settle_eq_none {stack : List (Frame σ)} {value : Doc σ} (h : isPunctuation u = false) :
    settle stack value u = none := by
  simp only [isPunctuation, Bool.or_eq_false_iff, decide_eq_false_iff_not] at h
  rcases stack with _ | ⟨frame, outer⟩
  · rfl
  · cases frame <;> simp [settle, h]

theorem stuck_of_step (hu : isTokenUnit u = false) (hstep : readStep reader (.mark u) = some next) :
    next.Stuck := by
  obtain ⟨stack, expect⟩ := reader
  have hparts : isBlank u = false ∧ isPunctuation u = false := by
    simp only [isTokenUnit, Bool.or_eq_false_iff] at hu
    exact hu.1.1
  have hmarks : u ≠ openBracket ∧ u ≠ openBrace ∧ u ≠ closeBracket ∧ u ≠ closeBrace ∧
      u ≠ colon := by
    have hpunctuation := hparts.2
    simp only [isPunctuation, Bool.or_eq_false_iff, decide_eq_false_iff_not] at hpunctuation
    tauto
  cases expect with
  | value closable =>
    simp only [readStep, hparts, readMark, readOpening, hmarks] at hstep
    cases hstep
    exact ⟨[u], rfl, u, by simp, hu⟩
  | word units =>
    simp only [readStep, hparts, readMark] at hstep
    cases hstep
    exact ⟨units ++ [u], rfl, u, by simp, hu⟩
  | key | colon => simp [readStep, hparts, readMark, hmarks] at hstep
  | after value => simp [readStep, hparts, readMark, settle_eq_none hparts.2] at hstep

theorem exec_stuck {last : Reader σ} (h : reader.Stuck)
    (hrun : exec readStep reader pieces = some last) : last.Stuck :=
  exec_invariant (fun _ _ _ hstuck hstep => hstuck.step hstep) h hrun

theorem readPieces_split (h : readPieces (before ++ piece :: after) = some d) :
    ∃ reader next last, exec readStep .initial before = some reader ∧
      readStep reader piece = some next ∧ exec readStep next after = some last ∧
      last.finish = some d := by
  obtain ⟨last, hrun, hfinish⟩ := Option.bind_eq_some_iff.mp h
  rw [exec_append] at hrun
  obtain ⟨reader, hbefore, hrest⟩ := Option.bind_eq_some_iff.mp hrun
  obtain ⟨next, hstep, hafter⟩ := exec_cons_eq_some hrest
  exact ⟨reader, next, last, hbefore, hstep, hafter, hfinish⟩

theorem isTokenUnit_of_readPieces (h : readPieces pieces = some d) (hu : .mark u ∈ pieces) :
    isTokenUnit u = true := by
  obtain ⟨before, after, rfl⟩ := List.append_of_mem hu
  obtain ⟨reader, next, last, hbefore, hstep, hafter, hfinish⟩ := readPieces_split h
  by_contra hunit
  have hstuck := exec_stuck (stuck_of_step (Bool.eq_false_of_not_eq_true hunit) hstep) hafter
  rw [hstuck.finish] at hfinish
  cases hfinish

theorem not_close_after_comma {blanks : Text} (hblanks : ∀ u ∈ blanks, isBlank u = true)
    {close : CodeUnit} (hclose : close = closeBrace ∨ close = closeBracket) :
    readPieces (before ++ .mark comma :: (marks blanks ++ .mark close :: after)) ≠ some d := by
  intro h
  obtain ⟨reader, next, last, hbefore, hstep, hafter, hfinish⟩ := readPieces_split h
  have hsettle : ∀ stack value, settle stack value comma = some next →
      next.expect = .value false ∨ ∃ entries, next.expect = .key entries false := by
    intro stack value hsettle
    rcases stack with _ | ⟨frame, outer⟩
    · cases hsettle
    · cases frame with
      | arr items =>
        cases hsettle
        exact Or.inl rfl
      | obj entries key =>
        cases hsettle
        exact Or.inr ⟨_, rfl⟩
  have hexpect : next.expect = .value false ∨ ∃ entries, next.expect = .key entries false := by
    obtain ⟨stack, expect⟩ := reader
    cases expect with
    | value | key | colon => cases hstep
    | word units =>
      obtain ⟨word, hword, hnext⟩ := Option.bind_eq_some_iff.mp
        (show (readWord units).bind (fun value => settle stack (.scalar value) comma) =
          some next from hstep)
      exact hsettle stack (.scalar word) hnext
    | after value => exact hsettle stack value hstep
  obtain ⟨stack, expect⟩ := next
  have hrun : exec readStep { stack, expect } (marks blanks) = some { stack, expect } := by
    refine exec_blanks (fun units => ?_) hblanks
    rcases hexpect with rfl | ⟨entries, rfl⟩ <;> simp
  have hstuck : readStep { stack, expect } (.mark close : Piece σ) = none := by
    rcases hexpect with rfl | ⟨entries, rfl⟩ <;> rcases hclose with rfl | rfl <;> rfl
  rw [exec_append, hrun, Option.bind_some, exec_cons, hstuck] at hafter
  cases hafter

end Reader

/-! ## Layout -/

section Layout

variable {σ : Type}

def newline (gap indent : Nat) : Text := if gap = 0 then [] else 10 :: List.replicate (gap * indent) 32

/-- The members of a container between its brackets, one a line where there is a gap. -/
def bracketed (opening closing : CodeUnit) (gap indent : Nat) (parts : List (List (Piece σ))) :
    List (Piece σ) :=
  match parts with
  | [] => marks [opening, closing]
  | first :: rest =>
    marks (opening :: newline gap (indent + 1)) ++ first ++
      rest.flatMap (fun part => marks (comma :: newline gap (indent + 1)) ++ part) ++
      marks (newline gap indent ++ [closing])

theorem bracketed_cons (opening closing : CodeUnit) (gap indent : Nat) (first : List (Piece σ))
    (rest : List (List (Piece σ))) :
    bracketed opening closing gap indent (first :: rest) =
      .mark opening :: (marks (newline gap (indent + 1)) ++ (first ++
        (rest.flatMap (fun part => marks (comma :: newline gap (indent + 1)) ++ part) ++
          (marks (newline gap indent) ++ [.mark closing])))) := by
  simp [bracketed, marks]

def scalarWord : Scalar → Text
  | .null => nullWord
  | .bool true => trueWord
  | .bool false => falseWord
  | .num literal => literal.1

def entryPieces (gap : Nat) (key : σ) (value : List (Piece σ)) : List (Piece σ) :=
  .str key :: (marks (colon :: if gap = 0 then [] else [32]) ++ value)

def layoutAlgebra (gap : Nat) : Doc.Algebra σ (Nat → List (Piece σ)) where
  scalar value _ := marks (scalarWord value)
  str value _ := [.str value]
  arr items indent :=
    bracketed openBracket closeBracket gap indent (items.map (fun item => item (indent + 1)))
  obj entries indent :=
    bracketed openBrace closeBrace gap indent
      (entries.map (fun entry => entryPieces gap entry.1 (entry.2 (indent + 1))))

/-- Pieces `JSON.stringify` writes for a document. -/
def layout (gap : Nat) (d : Doc σ) (indent : Nat) : List (Piece σ) :=
  d.fold (layoutAlgebra gap) indent

theorem layout_arr (gap : Nat) (items : List (Doc σ)) (indent : Nat) :
    layout gap (.arr items) indent =
      bracketed openBracket closeBracket gap indent
        (items.map (fun item => layout gap item (indent + 1))) := by
  simp [layout, layoutAlgebra, Function.comp_def]

theorem layout_obj (gap : Nat) (entries : List (σ × Doc σ)) (indent : Nat) :
    layout gap (.obj entries) indent =
      bracketed openBrace closeBrace gap indent
        (entries.map (fun entry => entryPieces gap entry.1 (layout gap entry.2 (indent + 1)))) := by
  simp [layout, layoutAlgebra, Function.comp_def]

variable {u : CodeUnit} {reader : Reader σ} {units : Text}

theorem isBlank_of_mem_newline {gap indent : Nat} (h : u ∈ newline gap indent) :
    isBlank u = true := by
  unfold newline at h
  split at h
  · cases h
  · rcases List.mem_cons.mp h with rfl | h
    · rfl
    · rw [List.eq_of_mem_replicate h]
      rfl

/-! ### Reading a layout -/

/-- The reader has read `value` inside `stack`; a literal word may still be open. -/
def Reader.Holds (reader : Reader σ) (stack : List (Frame σ)) (value : Doc σ) : Prop :=
  reader.stack = stack ∧
    (reader.expect = .after value ∨
      ∃ units word, reader.expect = .word units ∧ readWord units = some word ∧
        value = .scalar word)

/-- Wherever a value may stand the reader reads these pieces as `value`. -/
def Reads (pieces : List (Piece σ)) (value : Doc σ) : Prop :=
  ∀ stack closable, ∃ reader,
    exec readStep { stack, expect := .value closable } pieces = some reader ∧
      reader.Holds stack value

variable {stack outer : List (Frame σ)} {parts : Doc σ → List (Piece σ)} {separator : Text}

theorem Reader.Holds.settle {value : Doc σ} (h : reader.Holds stack value)
    (hu : isPunctuation u = true) : readStep reader (.mark u) = Json.settle stack value u := by
  have hblank : isBlank u = false := by
    simp only [isPunctuation, Bool.or_eq_true, decide_eq_true_eq] at hu
    rcases hu with ((((rfl | rfl) | rfl) | rfl) | rfl) | rfl <;> rfl
  obtain ⟨rfl, hafter | ⟨units, word, hword, hread, rfl⟩⟩ := h
  · simp [readStep, hblank, readMark, hafter]
  · simp [readStep, hblank, readMark, hword, hu, hread]

theorem Reader.Holds.blanks {value : Doc σ} (h : reader.Holds stack value)
    (hunits : ∀ u ∈ units, isBlank u = true) :
    ∃ next, exec readStep reader (marks units) = some next ∧ next.Holds stack value := by
  induction units generalizing reader with
  | nil => exact ⟨reader, rfl, h⟩
  | cons u rest ih =>
    have hu := hunits u (by simp)
    have hrest : ∀ v ∈ rest, isBlank v = true := fun v hv => hunits v (by simp [hv])
    obtain ⟨hstack, hafter | ⟨word, scalar, hword, hread, rfl⟩⟩ := h
    · have hstep : readStep reader (.mark u) = some reader := by
        simp [readStep, hu, readBlank, hafter]
      obtain ⟨next, hrun, hnext⟩ := ih ⟨hstack, Or.inl hafter⟩ hrest
      exact ⟨next, by simpa [marks, hstep] using hrun, hnext⟩
    · have hstep : readStep reader (.mark u) =
          some { reader with expect := .after (.scalar scalar) } := by
        simp [readStep, hu, readBlank, hword, hread]
      have hholds : Reader.Holds { reader with expect := .after (.scalar scalar) } stack
          (.scalar scalar) := ⟨hstack, Or.inl rfl⟩
      obtain ⟨next, hrun, hnext⟩ := ih hholds hrest
      exact ⟨next, by simpa [marks, hstep] using hrun, hnext⟩

def isWordUnit (u : CodeUnit) : Bool := !isBlank u && !isPunctuation u

theorem exec_wordUnits (stack : List (Frame σ)) (word units : Text)
    (hunits : ∀ u ∈ units, isWordUnit u = true) :
    exec readStep { stack, expect := .word word } (marks units) =
      some { stack, expect := .word (word ++ units) } := by
  induction units generalizing word with
  | nil => simp [marks]
  | cons u rest ih =>
    have hu := hunits u (by simp)
    simp only [isWordUnit, Bool.and_eq_true, Bool.not_eq_true'] at hu
    have hstep : readStep { stack, expect := .word word } (.mark u : Piece σ) =
        some { stack, expect := .word (word ++ [u]) } := by
      simp [readStep, hu, readMark]
    have hrest := ih (word ++ [u]) (fun v hv => hunits v (by simp [hv]))
    simpa [marks, hstep] using hrest

theorem reads_word {word : Scalar} (hread : readWord units = some word)
    (hunits : ∀ u ∈ units, isWordUnit u = true) : Reads (σ := σ) (marks units) (.scalar word) := by
  intro stack closable
  cases units with
  | nil => cases hread
  | cons u rest =>
    have hu := hunits u (by simp)
    have hopening : readOpening stack closable u = some { stack, expect := .word [u] } := by
      simp only [isWordUnit, isPunctuation, Bool.and_eq_true, Bool.not_eq_true',
        Bool.or_eq_false_iff, decide_eq_false_iff_not] at hu
      simp [readOpening, isPunctuation, hu]
    have hstep : readStep { stack, expect := .value closable } (.mark u) =
        some { stack, expect := .word [u] } := by
      simp only [isWordUnit, Bool.and_eq_true, Bool.not_eq_true'] at hu
      simpa [readStep, hu, readMark] using hopening
    have hrest := exec_wordUnits stack [u] rest (fun v hv => hunits v (by simp [hv]))
    refine ⟨{ stack, expect := .word ([u] ++ rest) }, ?_, rfl,
      Or.inr ⟨u :: rest, word, rfl, hread, rfl⟩⟩
    simpa [marks, hstep] using hrest

theorem isWordUnit_of_isNumberUnit (h : isNumberUnit u = true) : isWordUnit u = true := by
  simp only [isNumberUnit, isDigit, isSign, isPoint, isExponentMark, Bool.or_eq_true,
    Bool.and_eq_true, decide_eq_true_eq] at h
  have hblank : u ≠ 32 ∧ u ≠ 9 ∧ u ≠ 10 ∧ u ≠ 13 := by grind
  have hmark : u ≠ 44 ∧ u ≠ 58 ∧ u ≠ 91 ∧ u ≠ 93 ∧ u ≠ 123 ∧ u ≠ 125 := by grind
  simp [isWordUnit, isBlank, isPunctuation, hblank, hmark]

theorem readWord_scalarWord (value : Scalar) : readWord (scalarWord value) = some value := by
  cases value with
  | null => rfl
  | bool value => cases value <;> rfl
  | num literal =>
    obtain ⟨units, hnumber⟩ := literal
    have hwords : units ≠ trueWord ∧ units ≠ falseWord ∧ units ≠ nullWord := by
      refine ⟨?_, ?_, ?_⟩ <;> (rintro rfl; exact absurd hnumber (by decide))
    simp [scalarWord, readWord, hwords, hnumber]

theorem isWordUnit_scalarWord {value : Scalar} (h : u ∈ scalarWord value) :
    isWordUnit u = true := by
  cases value with
  | null =>
    revert h
    revert u
    decide
  | bool value =>
    revert h
    revert u
    cases value <;> decide
  | num literal => exact isWordUnit_of_isNumberUnit (isNumberUnit_of_mem literal.2 h)

theorem exec_moreItems (hseparator : ∀ u ∈ separator, isBlank u = true) {rest : List (Doc σ)}
    (hrest : ∀ item ∈ rest, Reads (parts item) item) {before : List (Doc σ)} {value : Doc σ}
    (h : reader.Holds (.arr before :: outer) value) :
    ∃ next items last, exec readStep reader
        (rest.flatMap (fun item => marks (comma :: separator) ++ parts item)) = some next ∧
      next.Holds (.arr items :: outer) last ∧ items ++ [last] = before ++ value :: rest := by
  induction rest generalizing reader before value with
  | nil => exact ⟨reader, before, value, rfl, h, rfl⟩
  | cons item rest ih =>
    obtain ⟨read, hread, hholds⟩ :=
      hrest item (by simp) (.arr (before ++ [value]) :: outer) false
    obtain ⟨next, items, last, hrun, hnext, hitems⟩ :=
      ih (fun other hother => hrest other (by simp [hother])) hholds
    have hcomma : readStep reader (.mark comma) =
        some { stack := .arr (before ++ [value]) :: outer, expect := .value false } := by
      rw [h.settle rfl]
      rfl
    have hblanks : exec readStep
        { stack := .arr (before ++ [value]) :: outer, expect := .value false }
        (marks separator) =
          some { stack := .arr (before ++ [value]) :: outer, expect := .value false } :=
      exec_blanks (by simp) hseparator
    refine ⟨next, items, last, ?_, hnext, by simpa using hitems⟩
    simp only [List.flatMap_cons, marks, List.map_cons, List.cons_append, List.append_assoc,
      exec_cons, hcomma, Option.bind_some]
    rw [exec_append, ← marks, hblanks, Option.bind_some, exec_append, hread, Option.bind_some]
    exact hrun

theorem exec_entry (gap : Nat) (key : σ) {part : List (Piece σ)} {value : Doc σ}
    (hpart : Reads part value) (stack : List (Frame σ)) (before : List (σ × Doc σ))
    (closable : Bool) :
    ∃ reader, exec readStep { stack, expect := .key before closable } (entryPieces gap key part) =
        some reader ∧ reader.Holds (.obj before key :: stack) value := by
  obtain ⟨reader, hread, hholds⟩ := hpart (.obj before key :: stack) false
  have hkey : readStep { stack, expect := .key before closable } (.str key) =
      some { stack, expect := .colon before key } := rfl
  have hcolon : readStep { stack, expect := .colon before key } (.mark colon) =
      some { stack := .obj before key :: stack, expect := .value false } := rfl
  have hspace : exec readStep { stack := .obj before key :: stack, expect := .value false }
      (marks (if gap = 0 then [] else [32])) =
        some { stack := .obj before key :: stack, expect := .value false } := by
    refine exec_blanks (by simp) (fun u hu => ?_)
    split at hu
    · cases hu
    · rw [List.mem_singleton.mp hu]
      rfl
  refine ⟨reader, ?_, hholds⟩
  simp only [entryPieces, marks, List.map_cons, List.cons_append, exec_cons, hkey, hcolon,
    Option.bind_some]
  rw [exec_append, ← marks, hspace, Option.bind_some, hread]

theorem exec_moreEntries (gap : Nat) (hseparator : ∀ u ∈ separator, isBlank u = true)
    {rest : List (σ × Doc σ)} (hrest : ∀ entry ∈ rest, Reads (parts entry.2) entry.2)
    {before : List (σ × Doc σ)} {key : σ} {value : Doc σ}
    (h : reader.Holds (.obj before key :: outer) value) :
    ∃ next entries name last, exec readStep reader
        (rest.flatMap (fun entry =>
          marks (comma :: separator) ++ entryPieces gap entry.1 (parts entry.2))) = some next ∧
      next.Holds (.obj entries name :: outer) last ∧
      entries ++ [(name, last)] = before ++ (key, value) :: rest := by
  induction rest generalizing reader before key value with
  | nil => exact ⟨reader, before, key, value, rfl, h, rfl⟩
  | cons entry rest ih =>
    obtain ⟨read, hread, hholds⟩ :=
      exec_entry gap entry.1 (hrest entry (by simp)) outer (before ++ [(key, value)]) false
    obtain ⟨next, entries, name, last, hrun, hnext, hentries⟩ :=
      ih (fun other hother => hrest other (by simp [hother])) hholds
    have hcomma : readStep reader (.mark comma) =
        some { stack := outer, expect := .key (before ++ [(key, value)]) false } := by
      rw [h.settle rfl]
      rfl
    have hblanks : exec readStep
        { stack := outer, expect := .key (before ++ [(key, value)]) false } (marks separator) =
          some { stack := outer, expect := .key (before ++ [(key, value)]) false } :=
      exec_blanks (by simp) hseparator
    refine ⟨next, entries, name, last, ?_, hnext, by simpa using hentries⟩
    simp only [List.flatMap_cons, marks, List.map_cons, List.cons_append, List.append_assoc,
      exec_cons, hcomma, Option.bind_some]
    rw [exec_append, ← marks, hblanks, Option.bind_some, exec_append, hread, Option.bind_some]
    exact hrun

theorem reads_arr (parts : Doc σ → List (Piece σ)) (gap indent : Nat) {items : List (Doc σ)}
    (hitems : ∀ item ∈ items, Reads (parts item) item) :
    Reads (bracketed openBracket closeBracket gap indent (items.map parts)) (.arr items) := by
  intro stack closable
  have hopen : readStep { stack, expect := .value closable } (.mark openBracket : Piece σ) =
      some { stack := .arr [] :: stack, expect := .value true } := rfl
  cases items with
  | nil =>
    refine ⟨{ stack, expect := .after (.arr []) }, ?_, rfl, Or.inl rfl⟩
    simp only [bracketed, List.map_nil, marks, List.map_cons, exec_cons, hopen,
      Option.bind_some, exec_nil]
    rfl
  | cons first rest =>
    obtain ⟨read, hread, hholds⟩ := hitems first (by simp) (.arr [] :: stack) true
    have hrest : ∀ item ∈ rest, Reads (parts item) item :=
      fun item hitem => hitems item (by simp [hitem])
    have hseparator : ∀ u ∈ newline gap (indent + 1), isBlank u = true :=
      fun u hu => isBlank_of_mem_newline hu
    have hend : ∀ u ∈ newline gap indent, isBlank u = true :=
      fun u hu => isBlank_of_mem_newline hu
    obtain ⟨more, before, last, hmore, hlast, heq⟩ := exec_moreItems hseparator hrest hholds
    obtain ⟨next, hnext, hnextHolds⟩ := hlast.blanks hend
    have hblanks : exec readStep { stack := .arr [] :: stack, expect := .value true }
        (marks (newline gap (indent + 1))) =
          some { stack := .arr [] :: stack, expect := .value true } :=
      exec_blanks (by simp) hseparator
    have hclose : readStep next (.mark closeBracket) =
        some { stack, expect := .after (.arr (first :: rest)) } := by
      rw [hnextHolds.settle rfl]
      simp only [List.nil_append] at heq
      simp [settle, heq]
    refine ⟨{ stack, expect := .after (.arr (first :: rest)) }, ?_, rfl, Or.inl rfl⟩
    rw [List.map_cons, bracketed_cons, List.flatMap_map, exec_cons, hopen, Option.bind_some,
      exec_append, hblanks, Option.bind_some, exec_append, hread, Option.bind_some,
      exec_append, hmore, Option.bind_some, exec_append, hnext, Option.bind_some, exec_cons,
      hclose]
    rfl

theorem reads_obj (parts : Doc σ → List (Piece σ)) (gap indent : Nat)
    {entries : List (σ × Doc σ)} (hentries : ∀ entry ∈ entries, Reads (parts entry.2) entry.2) :
    Reads (bracketed openBrace closeBrace gap indent
      (entries.map (fun entry => entryPieces gap entry.1 (parts entry.2)))) (.obj entries) := by
  intro stack closable
  have hopen : readStep { stack, expect := .value closable } (.mark openBrace : Piece σ) =
      some { stack, expect := .key [] true } := rfl
  cases entries with
  | nil =>
    refine ⟨{ stack, expect := .after (.obj []) }, ?_, rfl, Or.inl rfl⟩
    simp only [bracketed, List.map_nil, marks, List.map_cons, exec_cons, hopen,
      Option.bind_some, exec_nil]
    rfl
  | cons first rest =>
    obtain ⟨read, hread, hholds⟩ :=
      exec_entry gap first.1 (hentries first (by simp)) stack [] true
    have hrest : ∀ entry ∈ rest, Reads (parts entry.2) entry.2 :=
      fun entry hentry => hentries entry (by simp [hentry])
    have hseparator : ∀ u ∈ newline gap (indent + 1), isBlank u = true :=
      fun u hu => isBlank_of_mem_newline hu
    have hend : ∀ u ∈ newline gap indent, isBlank u = true :=
      fun u hu => isBlank_of_mem_newline hu
    obtain ⟨more, before, name, last, hmore, hlast, heq⟩ :=
      exec_moreEntries gap hseparator hrest hholds
    obtain ⟨next, hnext, hnextHolds⟩ := hlast.blanks hend
    have hblanks : exec readStep { stack, expect := .key [] true }
        (marks (newline gap (indent + 1))) =
          some ({ stack, expect := .key [] true } : Reader σ) :=
      exec_blanks (by simp) hseparator
    have hclose : readStep next (.mark closeBrace) =
        some { stack, expect := .after (.obj (first :: rest)) } := by
      rw [hnextHolds.settle rfl]
      simp only [List.nil_append] at heq
      simp [settle, heq]
    refine ⟨{ stack, expect := .after (.obj (first :: rest)) }, ?_, rfl, Or.inl rfl⟩
    rw [List.map_cons, bracketed_cons, List.flatMap_map, exec_cons, hopen, Option.bind_some,
      exec_append, hblanks, Option.bind_some, exec_append, hread, Option.bind_some,
      exec_append, hmore, Option.bind_some, exec_append, hnext, Option.bind_some, exec_cons,
      hclose]
    rfl

theorem reads_layout (gap : Nat) (d : Doc σ) (indent : Nat) : Reads (layout gap d indent) d := by
  induction d using Doc.induction generalizing indent with
  | scalar value =>
    exact reads_word (readWord_scalarWord value) (fun u hu => isWordUnit_scalarWord hu)
  | str value =>
    intro stack closable
    exact ⟨{ stack, expect := .after (.str value) }, rfl, rfl, Or.inl rfl⟩
  | arr items ih =>
    rw [layout_arr]
    exact reads_arr (fun item => layout gap item (indent + 1)) gap indent
      (fun item hitem => ih item hitem (indent + 1))
  | obj entries ih =>
    rw [layout_obj]
    exact reads_obj (fun item => layout gap item (indent + 1)) gap indent
      (fun entry hentry => ih entry hentry (indent + 1))

theorem Reader.Holds.finish {value : Doc σ} (h : reader.Holds [] value) :
    reader.finish = some value := by
  obtain ⟨hstack, hafter | ⟨units, word, hword, hread, rfl⟩⟩ := h
  · simp [Reader.finish, hstack, hafter]
  · simp [Reader.finish, hstack, hword, hread]

theorem readPieces_layout_blanks (gap : Nat) (d : Doc σ) (hunits : ∀ u ∈ units, isBlank u = true) :
    readPieces (layout gap d 0 ++ marks units) = some d := by
  obtain ⟨reader, hrun, hholds⟩ := reads_layout gap d 0 [] false
  obtain ⟨next, hnext, hlast⟩ := hholds.blanks hunits
  rw [readPieces, exec_append, Reader.initial, hrun, Option.bind_some, hnext, Option.bind_some,
    hlast.finish]

end Layout

def isHighSurrogate (u : CodeUnit) : Bool := 55296 ≤ u && u ≤ 56319

def isLowSurrogate (u : CodeUnit) : Bool := 56320 ≤ u && u ≤ 57343

def hexDigit (n : Fin 16) : HexDigit :=
  ⟨if n.val < 10 then 48 + n.val else 87 + n.val, by revert n; decide⟩

theorem hexDigit_value (n : Fin 16) : (hexDigit n).value = n.val := by
  revert n
  decide

/-- `\uXXXX` in lower case. -/
def unicodeItem (u : CodeUnit) : Item :=
  .unicode (hexDigit (Fin.ofNat 16 (u / 4096))) (hexDigit (Fin.ofNat 16 (u / 256)))
    (hexDigit (Fin.ofNat 16 (u / 16))) (hexDigit (Fin.ofNat 16 u))

def quoteUnit (u : CodeUnit) : Item :=
  match u with
  | 8 => .escape ⟨98, rfl⟩
  | 9 => .escape ⟨116, rfl⟩
  | 10 => .escape ⟨110, rfl⟩
  | 12 => .escape ⟨102, rfl⟩
  | 13 => .escape ⟨114, rfl⟩
  | 34 => .escape ⟨34, rfl⟩
  | 92 => .escape ⟨92, rfl⟩
  | u => if h : isPlain u = true then .plain ⟨u, h⟩ else unicodeItem u

/-- Literal of the units that are left, where `paired` says that the first of them ends a
surrogate pair. A surrogate outside a pair is escaped. -/
def quoteFrom (paired : Bool) : Text → Literal
  | [] => []
  | u :: rest =>
    if paired then quoteUnit u :: quoteFrom false rest
    else if isHighSurrogate u && rest.head?.any isLowSurrogate then
      quoteUnit u :: quoteFrom true rest
    else if isHighSurrogate u || isLowSurrogate u then unicodeItem u :: quoteFrom false rest
    else quoteUnit u :: quoteFrom false rest

def quoteText (text : Text) : Literal := quoteFrom false text

variable {u : CodeUnit}

theorem decode_unicodeItem (h : u < 65536) : (unicodeItem u).decode = u := by
  simp only [CodeUnit] at *
  simp only [unicodeItem, Item.decode, hexDigit_value, Fin.val_ofNat]
  omega

theorem decode_quoteUnit (u : CodeUnit) : (quoteUnit u).decode = u := by
  unfold quoteUnit
  split
  iterate 7 rfl
  · rename_i hquote hbackslash
    split
    · rfl
    · rename_i hplain
      refine decode_unicodeItem ?_
      simp only [isPlain, Bool.and_eq_true, decide_eq_true_eq] at hplain
      grind

theorem decode_quoteFrom (paired : Bool) (text : Text) : (quoteFrom paired text).decode = text := by
  induction text generalizing paired with
  | nil => rfl
  | cons u rest ih =>
    rw [quoteFrom]
    split
    · rw [Literal.decode_cons, decode_quoteUnit, ih]
    · split
      · rw [Literal.decode_cons, decode_quoteUnit, ih]
      · split
        · rename_i hsurrogate
          have hu : u < 65536 := by
            simp only [isHighSurrogate, isLowSurrogate, Bool.or_eq_true, Bool.and_eq_true,
              decide_eq_true_eq] at hsurrogate
            grind
          rw [Literal.decode_cons, decode_unicodeItem hu, ih]
        · rw [Literal.decode_cons, decode_quoteUnit, ih]

theorem decode_quoteText (text : Text) : (quoteText text).decode = text :=
  decode_quoteFrom false text

/-- `JSON.stringify(value, null, gap)`. -/
def stringify (gap : Nat) (value : Value) : Text :=
  render (layout gap (value.1.map quoteText) 0)

/-! ## `JSON.parse` -/

def readText (text : Text) : Option (Doc Literal) := (scan text).bind readPieces

/-- The value of a document: strings are decoded, and the last of repeated keys wins. -/
def denote (d : Doc Literal) : Value := ⟨(d.map Literal.decode).dedupe, Doc.distinct_dedupe _⟩

def parse (text : Text) : Option Value := (readText text).map denote

theorem denote_of_distinct {d : Doc Literal} (h : (d.map Literal.decode).Distinct) :
    (denote d).1 = d.map Literal.decode :=
  Doc.dedupe_of_distinct h

section Unquoted

variable {σ : Type}

theorem unquoted_append {first second : List (Piece σ)} :
    Unquoted (first ++ second) ↔ Unquoted first ∧ Unquoted second := by
  simp [Unquoted]

variable {units : Text}

theorem unquoted_marks : Unquoted (marks (σ := σ) units) ↔ quote ∉ units := by
  simp [Unquoted, marks]

def LayoutUnit (gap : Nat) (u : CodeUnit) : Prop :=
  (∃ value, u ∈ scalarWord value) ∨ isPunctuation u = true ∨ (gap ≠ 0 ∧ isBlank u = true)

variable {u : CodeUnit} {gap indent : Nat}

theorem mem_marks : .mark u ∈ (marks units : List (Piece σ)) ↔ u ∈ units := by
  simp [marks]

theorem layoutUnit_newline (h : u ∈ newline gap indent) : LayoutUnit gap u := by
  refine Or.inr (Or.inr ⟨?_, isBlank_of_mem_newline h⟩)
  rintro rfl
  cases h

theorem layoutUnit_bracketed {opening closing : CodeUnit} {parts : List (List (Piece σ))}
    (hopening : isPunctuation opening = true) (hclosing : isPunctuation closing = true)
    (hparts : ∀ part ∈ parts, .mark u ∈ part → LayoutUnit gap u)
    (h : .mark u ∈ bracketed opening closing gap indent parts) : LayoutUnit gap u := by
  cases parts with
  | nil =>
    rcases List.mem_pair.mp (mem_marks.mp h) with rfl | rfl
    · exact Or.inr (Or.inl hopening)
    · exact Or.inr (Or.inl hclosing)
  | cons first rest =>
    simp only [bracketed, List.mem_append, mem_marks, List.mem_cons, List.not_mem_nil, or_false,
      List.mem_flatMap] at h
    rcases h with (((rfl | hline) | hfirst) | ⟨part, hpart, (rfl | hline) | hmem⟩) | hline | rfl
    · exact Or.inr (Or.inl hopening)
    · exact layoutUnit_newline hline
    · exact hparts first List.mem_cons_self hfirst
    · exact Or.inr (Or.inl (by decide))
    · exact layoutUnit_newline hline
    · exact hparts part (List.mem_cons_of_mem _ hpart) hmem
    · exact layoutUnit_newline hline
    · exact Or.inr (Or.inl hclosing)

theorem layoutUnit_of_mem_layout {d : Doc σ} (h : .mark u ∈ layout gap d indent) :
    LayoutUnit gap u := by
  induction d using Doc.induction generalizing indent with
  | scalar value => exact Or.inl ⟨value, mem_marks.mp h⟩
  | str value => exact absurd (show Piece.mark u ∈ [.str value] from h) (by simp)
  | arr items ih =>
    rw [layout_arr] at h
    refine layoutUnit_bracketed (by decide) (by decide) (fun part hpart => ?_) h
    obtain ⟨item, hitem, rfl⟩ := List.mem_map.mp hpart
    exact ih item hitem
  | obj entries ih =>
    rw [layout_obj] at h
    refine layoutUnit_bracketed (by decide) (by decide) (fun part hpart hmem => ?_) h
    obtain ⟨entry, hentry, rfl⟩ := List.mem_map.mp hpart
    simp only [entryPieces, List.mem_cons, List.mem_append, mem_marks, reduceCtorEq,
      false_or] at hmem
    rcases hmem with (rfl | hgap) | hvalue
    · exact Or.inr (Or.inl (by decide))
    · split at hgap
      · cases hgap
      · rename_i hgap'
        rw [List.mem_singleton.mp hgap]
        exact Or.inr (Or.inr ⟨hgap', by decide⟩)
    · exact ih entry hentry hvalue

theorem ne_quote_of_layoutUnit (h : LayoutUnit gap u) : u ≠ quote := by
  rcases h with ⟨value, hvalue⟩ | hmark | ⟨-, hblank⟩
  · rintro rfl
    cases value with
    | null => exact absurd hvalue (by decide)
    | bool value => cases value <;> exact absurd hvalue (by decide)
    | num literal => exact absurd (isNumberUnit_of_mem literal.2 hvalue) (by decide)
  · rintro rfl
    exact absurd hmark (by decide)
  · rintro rfl
    exact absurd hblank (by decide)

theorem unquoted_layout (gap : Nat) (d : Doc σ) (indent : Nat) :
    Unquoted (layout gap d indent) :=
  fun h => ne_quote_of_layoutUnit (layoutUnit_of_mem_layout h) rfl

end Unquoted

theorem render_marks (units : Text) : render (marks units) = units := by
  induction units with
  | nil => rfl
  | cons u rest ih => exact congrArg (u :: ·) ih

theorem readText_stringify_blanks (gap : Nat) (value : Value) {units : Text}
    (hunits : ∀ u ∈ units, isBlank u = true) :
    readText (stringify gap value ++ units) = some (value.1.map quoteText) := by
  have hquote : Unquoted (layout gap (value.1.map quoteText) 0 ++ marks units) := by
    refine unquoted_append.mpr ⟨unquoted_layout gap _ 0, unquoted_marks.mpr (fun hmem => ?_)⟩
    exact absurd (hunits quote hmem) (by decide)
  have htext : stringify gap value ++ units =
      render (layout gap (value.1.map quoteText) 0 ++ marks units) := by
    rw [render_append, render_marks, stringify]
  rw [readText, htext, scan_render hquote, Option.bind_some, readPieces_layout_blanks gap _ hunits]

theorem readText_stringify (gap : Nat) (value : Value) :
    readText (stringify gap value) = some (value.1.map quoteText) := by
  have hblanks := @readText_stringify_blanks gap value [] (by simp)
  rwa [List.append_nil] at hblanks

theorem map_decode_quoteText (d : Doc Text) : (d.map quoteText).map Literal.decode = d := by
  simp only [Doc.map_map, decode_quoteText, Doc.map_id']

theorem denote_quoteText (value : Value) : denote (value.1.map quoteText) = value := by
  apply Subtype.ext
  have hdistinct : ((value.1.map quoteText).map Literal.decode).Distinct := by
    rw [map_decode_quoteText]
    exact value.2
  rw [denote_of_distinct hdistinct, map_decode_quoteText]

theorem parse_stringify (gap : Nat) (value : Value) : parse (stringify gap value) = some value := by
  rw [parse, readText_stringify, Option.map_some, denote_quoteText]

theorem stringify_injective (gap : Nat) : Function.Injective (stringify gap) := by
  intro first second h
  have hparse := congrArg parse h
  rw [parse_stringify, parse_stringify] at hparse
  exact Option.some.inj hparse

theorem le_of_layoutUnit (h : LayoutUnit 0 u) : 32 ≤ u := by
  rcases h with ⟨value, hvalue⟩ | hmark | ⟨hgap, -⟩
  · cases value with
    | null =>
      revert hvalue u
      decide
    | bool value =>
      revert hvalue u
      cases value <;> decide
    | num literal =>
      have hnumber := isNumberUnit_of_mem literal.2 hvalue
      simp only [isNumberUnit, isDigit, isSign, isPoint, isExponentMark, Bool.or_eq_true,
        Bool.and_eq_true, decide_eq_true_eq] at hnumber
      grind
  · simp only [isPunctuation, Bool.or_eq_true, decide_eq_true_eq] at hmark
    grind
  · exact absurd rfl hgap

theorem le_of_hexDigit (digit : HexDigit) : 32 ≤ digit.1 := by
  obtain ⟨u, hu⟩ := digit
  unfold hexValue at hu
  split_ifs at hu <;> grind

theorem le_of_mem_raw {item : Item} (h : u ∈ item.raw) : 32 ≤ u := by
  cases item with
  | plain unit =>
    rw [List.mem_singleton.mp h]
    have hplain := unit.2
    simp only [isPlain, Bool.and_eq_true, decide_eq_true_eq] at hplain
    exact hplain.1.1
  | escape letter =>
    rcases List.mem_pair.mp h with rfl | rfl
    · decide
    · obtain ⟨u, hu⟩ := letter
      show 32 ≤ u
      unfold simpleEscape at hu
      split at hu <;> first | decide | cases hu
  | unicode first second third fourth =>
    simp only [Item.raw, List.mem_cons, List.not_mem_nil, or_false] at h
    rcases h with rfl | rfl | rfl | rfl | rfl | rfl
    · decide
    · decide
    all_goals exact le_of_hexDigit _

theorem le_of_mem_stringify {value : Value} (h : u ∈ stringify 0 value) : 32 ≤ u := by
  obtain ⟨piece, hpiece, hu⟩ := List.mem_flatMap.mp h
  cases piece with
  | mark unit =>
    rw [List.mem_singleton.mp hu]
    exact le_of_layoutUnit (layoutUnit_of_mem_layout hpiece)
  | str literal =>
    simp only [Piece.raw, List.mem_cons, List.mem_append, List.not_mem_nil, or_false] at hu
    rcases hu with rfl | hu | rfl
    · decide
    · obtain ⟨item, -, hitem⟩ := List.mem_flatMap.mp hu
      exact le_of_mem_raw hitem
    · decide

end GT3Code.Base.Json
