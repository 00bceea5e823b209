import GT3Code.Base.JsonText
import GT3Code.Gc.FolderMetadata
import Mathlib.Data.List.TakeWhile

/-! # Lenient JSON

`parseLenientJsonGetter` removes comments and trailing commas with three
replacements and parses what is left. The first two keep string literals as they
are; the third looks for its commas inside of literals too.
-/

namespace GT3Code.Shared

open GT3Code.Base GT3Code.Base.Json

/-- Replace every match of a global pattern. `matchAt` gives the replacement of a match at the
head of a text and the text after the match; a text shorter than the fuel is gone through. -/
def replaceAll (matchAt : Text → Option (Text × Text)) : Nat → Text → Text
  | 0, text => text
  | _ + 1, [] => []
  | fuel + 1, u :: rest =>
    match matchAt (u :: rest) with
    | some (replacement, after) => replacement ++ replaceAll matchAt fuel after
    | none => u :: replaceAll matchAt fuel rest

def replace (matchAt : Text → Option (Text × Text)) (text : Text) : Text :=
  replaceAll matchAt text.length text

/-- What `.` does not match. -/
def isLineTerminator (u : CodeUnit) : Bool := u = 10 || u = 13 || u = 8232 || u = 8233

/-- `\\s` -/
def isSpace (u : CodeUnit) : Bool := Gc.whitespaceCodes.contains u

/-- `(?:[^"\\]|\\.)*"` -/
def literalTail : Text → Option (Text × Text)
  | [] => none
  | u :: rest =>
    if u = quote then some ([quote], rest)
    else if u = backslash then
      match rest with
      | [] => none
      | escaped :: after =>
        if isLineTerminator escaped then none
        else (literalTail after).map (fun found => (u :: escaped :: found.1, found.2))
    else (literalTail rest).map (fun found => (u :: found.1, found.2))

/-- `"(?:[^"\\]|\\.)*"`, which the replacement keeps. -/
def matchLiteral : Text → Option (Text × Text)
  | u :: rest =>
    if u = quote then (literalTail rest).map (fun found => (u :: found.1, found.2)) else none
  | [] => none

/-- `//[^\n]*` -/
def matchLine : Text → Option (Text × Text)
  | 47 :: 47 :: rest => some ([], rest.dropWhile (fun u => u ≠ 10))
  | _ => none

def afterBlock : Text → Option Text
  | [] => none
  | u :: rest =>
    match u, rest with
    | 42, 47 :: after => some after
    | _, _ => afterBlock rest

/-- `/\*[\s\S]*?\*/` -/
def matchBlock : Text → Option (Text × Text)
  | 47 :: 42 :: rest => (afterBlock rest).map (fun after => ([], after))
  | _ => none

def isClosing (u : CodeUnit) : Bool := u = closeBrace || u = closeBracket

/-- `,(\s*[}\]])`, replaced by its group. -/
def matchTrailingComma : Text → Option (Text × Text)
  | [] => none
  | u :: rest =>
    if u = comma then
      match rest.dropWhile isSpace with
      | closing :: after =>
        if isClosing closing then some (rest.takeWhile isSpace ++ [closing], after) else none
      | [] => none
    else none

def stripLineComments : Text → Text :=
  replace (fun text => (matchLiteral text).or (matchLine text))

def stripBlockComments : Text → Text :=
  replace (fun text => (matchLiteral text).or (matchBlock text))

def stripTrailingCommas : Text → Text := replace matchTrailingComma

def stripped (input : Text) : Text :=
  stripTrailingCommas (stripBlockComments (stripLineComments input))

def parseLenientJson (input : Text) : Option Value := parse (stripped input)

theorem literalTail_quote (rest : Text) : literalTail (quote :: rest) = some ([quote], rest) := by
  cases rest <;> rfl

variable {u : CodeUnit} {pieces : List (Piece Literal)} {d : Doc Literal}

theorem literalTail_plain (hquote : u ≠ quote) (hbackslash : u ≠ backslash) (rest : Text) :
    literalTail (u :: rest) = (literalTail rest).map (fun found => (u :: found.1, found.2)) := by
  cases rest <;> simp [literalTail, hquote, hbackslash]

theorem literalTail_escape (h : isLineTerminator u = false) (rest : Text) :
    literalTail (backslash :: u :: rest) =
      (literalTail rest).map (fun found => (backslash :: u :: found.1, found.2)) := by
  simp [literalTail, h]

theorem hexDigit_plain (digit : HexDigit) : digit.1 ≠ quote ∧ digit.1 ≠ backslash := by
  obtain ⟨u, hu⟩ := digit
  constructor <;> (rintro rfl; exact absurd hu (by decide))

theorem literalTail_item (item : Item) (rest : Text) :
    literalTail (item.raw ++ rest) =
      (literalTail rest).map (fun found => (item.raw ++ found.1, found.2)) := by
  cases item with
  | plain unit =>
    obtain ⟨u, hu⟩ := unit
    simp only [isPlain, Bool.and_eq_true, decide_eq_true_eq] at hu
    exact literalTail_plain hu.1.2 hu.2 rest
  | escape letter =>
    obtain ⟨u, hu⟩ := letter
    have hline : isLineTerminator u = false := by
      by_contra hline
      simp only [isLineTerminator, Bool.not_eq_false, Bool.or_eq_true, decide_eq_true_eq] at hline
      rcases hline with ((rfl | rfl) | rfl) | rfl <;> exact absurd hu (by decide)
    exact literalTail_escape hline rest
  | unicode first second third fourth =>
    have hu := literalTail_escape (u := letterU) (by decide)
    have hdigit := fun digit : HexDigit =>
      literalTail_plain (hexDigit_plain digit).1 (hexDigit_plain digit).2
    simp only [Item.raw, List.cons_append, List.nil_append, hu, hdigit, Option.map_map]
    rfl

theorem literalTail_raw (literal : Literal) (rest : Text) :
    literalTail (literal.raw ++ quote :: rest) = some (literal.raw ++ [quote], rest) := by
  induction literal with
  | nil => exact literalTail_quote rest
  | cons item items ih =>
    rw [Literal.raw_cons, List.append_assoc, literalTail_item, ih, Option.map_some,
      List.append_assoc]

theorem matchLiteral_raw (literal : Literal) (rest : Text) :
    matchLiteral (quote :: (literal.raw ++ quote :: rest)) =
      some (quote :: (literal.raw ++ [quote]), rest) := by
  simp [matchLiteral, literalTail_raw]

theorem matchLiteral_mark (h : u ≠ quote) (rest : Text) : matchLiteral (u :: rest) = none := by
  simp [matchLiteral, h]

/-- A pass that matches string literals and texts that start with a slash leaves a text with no
slash outside its literals as it is. -/
theorem replace_render {matchAt : Text → Option (Text × Text)}
    (hslash : ∀ u rest, u ≠ slash → matchAt (u :: rest) = none) (hpieces : Unquoted pieces)
    (hmark : .mark slash ∉ pieces) :
    replace (fun text => (matchLiteral text).or (matchAt text)) (render pieces) =
      render pieces := by
  have hfuel : ∀ fuel, (render pieces).length ≤ fuel →
      replaceAll (fun text => (matchLiteral text).or (matchAt text)) fuel (render pieces) =
        render pieces := by
    induction pieces with
    | nil => intro fuel _; cases fuel <;> rfl
    | cons piece rest ih =>
      simp only [Unquoted, List.mem_cons, not_or] at hpieces hmark
      have hrest := ih hpieces.2 hmark.2
      intro fuel hlength
      cases piece with
      | mark u =>
        have hu : u ≠ quote ∧ u ≠ slash := by
          constructor
          · rintro rfl
            exact hpieces.1 rfl
          · rintro rfl
            exact hmark.1 rfl
        rw [render_mark, List.length_cons] at hlength
        cases fuel with
        | zero => cases hlength
        | succ fuel =>
          have hmatch : (matchLiteral (u :: render rest)).or (matchAt (u :: render rest)) =
              none := by
            rw [matchLiteral_mark hu.1, hslash u _ hu.2]
            rfl
          simp only [render_mark, replaceAll, hmatch]
          rw [hrest fuel (Nat.le_of_succ_le_succ hlength)]
      | str literal =>
        simp only [render_str, List.length_cons, List.length_append] at hlength
        cases fuel with
        | zero => cases hlength
        | succ fuel =>
          have hmatch : (matchLiteral (quote :: (literal.raw ++ quote :: render rest))).or
              (matchAt (quote :: (literal.raw ++ quote :: render rest))) =
                some (quote :: (literal.raw ++ [quote]), render rest) := by
            rw [matchLiteral_raw]
            rfl
          simp only [render_str, replaceAll, hmatch]
          rw [hrest fuel (by omega)]
          simp
  exact hfuel _ (Nat.le_refl _)

theorem matchLine_of_ne (h : u ≠ slash) (rest : Text) : matchLine (u :: rest) = none := by
  unfold matchLine
  split
  · rename_i heq
    cases heq
    exact absurd rfl h
  · rfl

theorem matchBlock_of_ne (h : u ≠ slash) (rest : Text) : matchBlock (u :: rest) = none := by
  unfold matchBlock
  split
  · rename_i heq
    cases heq
    exact absurd rfl h
  · rfl

theorem stripComments_render (hpieces : Unquoted pieces) (hmark : .mark slash ∉ pieces) :
    stripBlockComments (stripLineComments (render pieces)) = render pieces := by
  have hline : stripLineComments (render pieces) = render pieces :=
    replace_render (fun _ rest hu => matchLine_of_ne hu rest) hpieces hmark
  rw [hline]
  exact replace_render (fun _ rest hu => matchBlock_of_ne hu rest) hpieces hmark

/-! ## The pass for trailing commas -/

def closes (text : Text) : Bool := (text.dropWhile isSpace).head?.any isClosing

def hasTrailingComma : Text → Bool
  | [] => false
  | u :: rest => (u = comma && closes rest) || hasTrailingComma rest

def dropTrailingCommas : Text → Text
  | [] => []
  | u :: rest =>
    if u = comma && closes rest then dropTrailingCommas rest else u :: dropTrailingCommas rest

theorem comma_notMem_spaces {spaces : Text} (h : ∀ u ∈ spaces, isSpace u = true) :
    comma ∉ spaces := by
  intro hmem
  exact absurd (h comma hmem) (by decide)

variable {before text : Text} {literal : Literal}

theorem dropTrailingCommas_append (h : comma ∉ before) (rest : Text) :
    dropTrailingCommas (before ++ rest) = before ++ dropTrailingCommas rest := by
  induction before with
  | nil => rfl
  | cons u before ih =>
    simp only [List.mem_cons, not_or] at h
    simp [dropTrailingCommas, Ne.symm h.1, ih h.2]

theorem replaceAll_matchTrailingComma (fuel : Nat) (text : Text) (h : text.length ≤ fuel) :
    replaceAll matchTrailingComma fuel text = dropTrailingCommas text := by
  induction fuel generalizing text with
  | zero =>
    rw [List.eq_nil_of_length_eq_zero (Nat.le_zero.mp h)]
    rfl
  | succ fuel ih =>
    cases text with
    | nil => rfl
    | cons u rest =>
      rw [List.length_cons] at h
      have hkeep : replaceAll matchTrailingComma fuel rest = dropTrailingCommas rest :=
        ih rest (Nat.le_of_succ_le_succ h)
      by_cases hu : u = comma
      · subst hu
        have hsplit := List.takeWhile_append_dropWhile (p := isSpace) (l := rest)
        cases hdrop : rest.dropWhile isSpace with
        | nil =>
          have hcloses : closes rest = false := by simp [closes, hdrop]
          simp [replaceAll, matchTrailingComma, hdrop, dropTrailingCommas, hcloses, hkeep]
        | cons closing after =>
          by_cases hclosing : isClosing closing = true
          · have hcloses : closes rest = true := by simp [closes, hdrop, hclosing]
            have hspaces : comma ∉ rest.takeWhile isSpace :=
              comma_notMem_spaces (fun v hv => List.mem_takeWhile_imp hv)
            have hne : comma ≠ closing := by
              rintro rfl
              exact absurd hclosing (by decide)
            have hback : comma ∉ rest.takeWhile isSpace ++ [closing] := by
              simp [hspaces, hne]
            have hafter : after.length ≤ fuel := by
              have hlength := congrArg List.length hsplit
              rw [hdrop, List.length_append, List.length_cons] at hlength
              omega
            have hrest : rest = rest.takeWhile isSpace ++ [closing] ++ after := by
              rw [List.append_assoc, List.singleton_append, ← hdrop, hsplit]
            have hdropped := dropTrailingCommas_append hback after
            rw [← hrest] at hdropped
            simp only [replaceAll, matchTrailingComma, hdrop, hclosing, if_true,
              dropTrailingCommas, hcloses, Bool.and_self, decide_true, ih after hafter]
            exact hdropped.symm
          · have hcloses : closes rest = false := by simp [closes, hdrop, hclosing]
            simp [replaceAll, matchTrailingComma, hdrop, hclosing, dropTrailingCommas,
              hcloses, hkeep]
      · simp [replaceAll, matchTrailingComma, hu, dropTrailingCommas, hkeep]

theorem stripTrailingCommas_eq (text : Text) :
    stripTrailingCommas text = dropTrailingCommas text :=
  replaceAll_matchTrailingComma text.length text (Nat.le_refl _)

/-! ### Inside a literal -/

def stripLiteral : Literal → Literal
  | [] => []
  | item :: rest =>
    if item.raw = [comma] && closes (Literal.raw rest) then stripLiteral rest
    else item :: stripLiteral rest

theorem closes_append_quote (before rest : Text) :
    closes (before ++ quote :: rest) = closes before := by
  induction before with
  | nil => rfl
  | cons u before ih =>
    by_cases hu : isSpace u = true
    · simpa [closes, hu] using ih
    · simp [closes, hu]

theorem comma_notMem_raw {item : Item} (h : item.raw ≠ [comma]) : comma ∉ item.raw := by
  cases item with
  | plain unit =>
    intro hmem
    rw [Item.raw, List.mem_singleton] at hmem
    exact h (by rw [Item.raw, hmem])
  | escape letter =>
    intro hmem
    simp only [Item.raw, List.mem_cons, List.not_mem_nil, or_false] at hmem
    rcases hmem with hmem | hmem
    · exact absurd hmem (by decide)
    · exact absurd (hmem ▸ letter.2) (by decide)
  | unicode first second third fourth =>
    have hdigit : ∀ digit : HexDigit, comma ≠ digit.1 := by
      rintro ⟨u, hu⟩ rfl
      exact absurd hu (by decide)
    simp [Item.raw, hdigit]

theorem dropTrailingCommas_literal (literal : Literal) (rest : Text) :
    dropTrailingCommas (literal.raw ++ quote :: rest) =
      (stripLiteral literal).raw ++ dropTrailingCommas (quote :: rest) := by
  induction literal with
  | nil => rfl
  | cons item items ih =>
    rw [Literal.raw_cons, List.append_assoc]
    by_cases hcomma : item.raw = [comma]
    · have hcloses := closes_append_quote (Literal.raw items) rest
      by_cases hdrop : closes (Literal.raw items) = true
      · simp [hcomma, dropTrailingCommas, hcloses, hdrop, stripLiteral, ih]
      · simp [hcomma, dropTrailingCommas, hcloses, hdrop, stripLiteral, ih]
    · rw [dropTrailingCommas_append (comma_notMem_raw hcomma), ih]
      simp [stripLiteral, hcomma]

theorem hasTrailingComma_append (h : comma ∉ before) (rest : Text) :
    hasTrailingComma (before ++ rest) = hasTrailingComma rest := by
  induction before with
  | nil => rfl
  | cons u before ih =>
    simp only [List.mem_cons, not_or] at h
    simp [hasTrailingComma, Ne.symm h.1, ih h.2]

theorem stripLiteral_eq (h : hasTrailingComma literal.raw = false) :
    stripLiteral literal = literal := by
  induction literal with
  | nil => rfl
  | cons item items ih =>
    rw [Literal.raw_cons] at h
    by_cases hcomma : item.raw = [comma]
    · rw [hcomma] at h
      simp only [List.singleton_append, hasTrailingComma, decide_true, Bool.true_and,
        Bool.or_eq_false_iff] at h
      simp [stripLiteral, h.1, ih h.2]
    · rw [hasTrailingComma_append (comma_notMem_raw hcomma)] at h
      simp [stripLiteral, hcomma, ih h]

theorem length_stripLiteral_le (literal : Literal) :
    (stripLiteral literal).length ≤ literal.length := by
  induction literal with
  | nil => exact Nat.le_refl _
  | cons item items ih =>
    rw [stripLiteral]
    split
    · exact Nat.le_succ_of_le ih
    · exact Nat.succ_le_succ ih

theorem length_stripLiteral_lt (h : hasTrailingComma literal.raw = true) :
    (stripLiteral literal).length < literal.length := by
  induction literal with
  | nil => cases h
  | cons item items ih =>
    rw [Literal.raw_cons] at h
    rw [stripLiteral]
    split
    · exact Nat.lt_succ_of_le (length_stripLiteral_le items)
    · rename_i hkeep
      refine Nat.succ_lt_succ (ih ?_)
      by_cases hcomma : item.raw = [comma]
      · rw [hcomma] at h
        simp only [List.singleton_append, hasTrailingComma, decide_true, Bool.true_and,
          Bool.or_eq_true] at h
        rcases h with hcloses | hrest
        · exact absurd (by simp [hcomma, hcloses]) hkeep
        · exact hrest
      · rwa [hasTrailingComma_append (comma_notMem_raw hcomma)] at h

/-! ### Outside of literals -/

theorem isBlank_of_isSpace (hspace : isSpace u = true) (htoken : isTokenUnit u = true) :
    isBlank u = true := by
  have hcodes : ∀ v ∈ Gc.whitespaceCodes, isTokenUnit v = true → isBlank v = true := by decide
  exact hcodes u (by simpa [isSpace] using hspace) htoken

theorem marks_of_closes (h : closes (render pieces) = true) :
    ∃ spaces closing after, pieces = marks spaces ++ .mark closing :: after ∧
      (∀ u ∈ spaces, isSpace u = true) ∧ isClosing closing = true := by
  induction pieces with
  | nil => cases h
  | cons piece rest ih =>
    cases piece with
    | mark u =>
      rw [render_mark] at h
      by_cases hu : isSpace u = true
      · have hrest : closes (render rest) = true := by simpa [closes, hu] using h
        obtain ⟨spaces, closing, after, rfl, hspaces, hclosing⟩ := ih hrest
        refine ⟨u :: spaces, closing, after, rfl, ?_, hclosing⟩
        intro v hv
        rcases List.mem_cons.mp hv with rfl | hv
        · exact hu
        · exact hspaces v hv
      · have hclosing : isClosing u = true := by simpa [closes, hu] using h
        exact ⟨[], u, rest, rfl, by simp, hclosing⟩
    | str literal =>
      rw [render_str] at h
      cases h

theorem closes_after_comma {before after : List (Piece Literal)}
    (h : readPieces (before ++ .mark comma :: after) = some d) : closes (render after) = false := by
  by_contra hcloses
  obtain ⟨spaces, closing, more, rfl, hspaces, hclosing⟩ :=
    marks_of_closes (Bool.eq_true_of_not_eq_false hcloses)
  have hblanks : ∀ u ∈ spaces, isBlank u = true := by
    intro u hu
    refine isBlank_of_isSpace (hspaces u hu) (isTokenUnit_of_readPieces h ?_)
    simp [marks, hu]
  have hclose : closing = closeBrace ∨ closing = closeBracket := by
    simpa [isClosing] using hclosing
  exact not_close_after_comma hblanks hclose h

theorem dropTrailingCommas_render
    (h : ∀ before after, pieces = before ++ .mark comma :: after → closes (render after) = false) :
    dropTrailingCommas (render pieces) = render (pieces.map (Piece.map stripLiteral)) := by
  induction pieces with
  | nil => rfl
  | cons piece rest ih =>
    have hrest := ih (fun before after heq => h (piece :: before) after (by rw [heq]; rfl))
    cases piece with
    | mark u =>
      have hu : (u = comma && closes (render rest)) = false := by
        by_cases hcomma : u = comma
        · subst hcomma
          simp [h [] rest rfl]
        · simp [hcomma]
      simp [dropTrailingCommas, hu, hrest, Piece.map]
    | str literal =>
      have hopen : dropTrailingCommas (quote :: (literal.raw ++ quote :: render rest)) =
          quote :: dropTrailingCommas (literal.raw ++ quote :: render rest) := by
        simp [dropTrailingCommas]
      have hclose : dropTrailingCommas (quote :: render rest) =
          quote :: dropTrailingCommas (render rest) := by
        simp [dropTrailingCommas]
      rw [render_str, hopen, dropTrailingCommas_literal, hclose, hrest]
      simp [Piece.map]

/-- What the three passes leave of an accepted text reads as the same document with trailing
commas dropped inside its literals. -/
theorem readText_stripped (h : readText text = some d) :
    readText (stripped text) = some (d.map stripLiteral) := by
  obtain ⟨pieces, hscan, hread⟩ := Option.bind_eq_some_iff.mp h
  obtain ⟨rfl, hunquoted⟩ := render_of_scan hscan
  have hslash : .mark slash ∉ pieces := by
    intro hmem
    exact absurd (isTokenUnit_of_readPieces hread hmem) (by decide)
  have hcommas : stripped (render pieces) = render (pieces.map (Piece.map stripLiteral)) := by
    rw [stripped, stripComments_render hunquoted hslash, stripTrailingCommas_eq]
    refine dropTrailingCommas_render (fun before after heq => ?_)
    subst heq
    exact closes_after_comma hread
  have hmapped : Unquoted (pieces.map (Piece.map stripLiteral)) := by
    intro hmem
    obtain ⟨piece, hpiece, heq⟩ := List.mem_map.mp hmem
    cases piece with
    | mark u =>
      cases heq
      exact hunquoted hpiece
    | str literal => cases heq
  rw [hcommas, readText, scan_render hmapped, Option.bind_some, readPieces_map, hread,
    Option.map_some]

/-- No literal has a match of the third pattern, as it is written. -/
def Untouched (d : Doc Literal) : Prop :=
  ∀ literal ∈ d.literals, hasTrailingComma literal.raw = false

def KeysOnce (d : Doc Literal) : Prop := (d.map Literal.decode).Distinct

theorem map_stripLiteral (h : Untouched d) : d.map stripLiteral = d := by
  have hliterals : d.map stripLiteral = d.map (fun literal => literal) :=
    Doc.map_congr (fun literal hliteral => stripLiteral_eq (h literal hliteral))
  rw [hliterals, Doc.map_id']

theorem denote_stripLiteral_ne (hkeys : KeysOnce d) (h : ¬Untouched d) :
    denote (d.map stripLiteral) ≠ denote d := by
  intro heq
  have hdropped : Doc.weight (fun literal => (stripLiteral literal).length) d <
      Doc.weight List.length d := by
    refine Doc.weight_lt (fun literal _ => length_stripLiteral_le literal) ?_
    simp only [Untouched, not_forall] at h
    obtain ⟨literal, hliteral, hcomma⟩ := h
    exact ⟨literal, hliteral, length_stripLiteral_lt (Bool.eq_true_of_not_eq_false hcomma)⟩
  have hbefore : Doc.weight List.length (denote d).1 = Doc.weight List.length d := by
    rw [denote_of_distinct hkeys, Doc.weight_map]
    simp only [Literal.length_decode]
  have hafter : Doc.weight List.length (denote (d.map stripLiteral)).1 ≤
      Doc.weight (fun literal => (stripLiteral literal).length) d := by
    refine Nat.le_trans (Doc.weight_dedupe_le List.length _) ?_
    rw [Doc.weight_map, Doc.weight_map]
    simp only [Literal.length_decode]
    exact Nat.le_refl _
  rw [heq, hbefore] at hafter
  omega

theorem denote_stripLiteral_iff (hkeys : KeysOnce d) :
    denote (d.map stripLiteral) = denote d ↔ Untouched d := by
  constructor
  · intro heq
    by_contra huntouched
    exact denote_stripLiteral_ne hkeys huntouched heq
  · intro huntouched
    rw [map_stripLiteral huntouched]

theorem parseLenientJson_eq (h : readText text = some d) :
    parseLenientJson text = some (denote (d.map stripLiteral)) := by
  rw [parseLenientJson, parse, readText_stripped h, Option.map_some]

/-- An accepted text whose literals have no comma that closes a list keeps its value, and a text
that writes no key twice in one object keeps it only then. What was written with
`JSON.stringify` is read back exactly when no string of the value has such a comma. -/
theorem parseLenientJson_conservative_iff (text : Text) (gap : Nat) (value : Value) :
    (∀ d, readText text = some d → Untouched d → parseLenientJson text = parse text) ∧
    (∀ d, readText text = some d → KeysOnce d →
      (parseLenientJson text = parse text ↔ Untouched d)) ∧
    (parseLenientJson (stringify gap value) = some value ↔
      ∀ string ∈ value.1.literals, hasTrailingComma (quoteText string).raw = false) := by
  have hparse : ∀ d, readText text = some d → parse text = some (denote d) := by
    intro d h
    rw [parse, h, Option.map_some]
  refine ⟨?_, ?_, ?_⟩
  · intro d h huntouched
    rw [parseLenientJson_eq h, hparse d h, map_stripLiteral huntouched]
  · intro d h hkeys
    rw [parseLenientJson_eq h, hparse d h, Option.some_inj]
    exact denote_stripLiteral_iff hkeys
  · have hread := readText_stringify gap value
    have hkeys : KeysOnce (value.1.map quoteText) := by
      rw [KeysOnce, map_decode_quoteText]
      exact value.2
    have huntouched := denote_stripLiteral_iff hkeys
    rw [denote_quoteText] at huntouched
    rw [parseLenientJson_eq hread, Option.some_inj, huntouched, Untouched, Doc.literals_map]
    simp only [List.mem_map, forall_exists_index, and_imp, forall_apply_eq_imp_iff₂]

/-- The text `["a,b}"]` has no such comma. -/
theorem parseLenientJson_conservative_array :
    parseLenientJson [91, 34, 97, 44, 98, 125, 34, 93] =
      parse [91, 34, 97, 44, 98, 125, 34, 93] := by
  have hread : readText [91, 34, 97, 44, 98, 125, 34, 93] =
      some (.arr [.str [.plain ⟨97, rfl⟩, .plain ⟨44, rfl⟩, .plain ⟨98, rfl⟩,
        .plain ⟨125, rfl⟩]]) := by rfl
  refine (parseLenientJson_conservative_iff _ 0 ⟨.str [], rfl⟩).1 _ hread ?_
  intro literal hliteral
  rw [Doc.literals_arr, List.map_singleton, List.flatten_singleton, Doc.literals_str,
    List.mem_singleton] at hliteral
  subst hliteral
  rfl

/-- The text `"a,}"` is a string that comes back as `a}`. -/
theorem parseLenientJson_not_conservative :
    ¬(∀ text value, parse text = some value → parseLenientJson text = some value) := by
  intro h
  have hparse : parse [34, 97, 44, 125, 34] = some ⟨.str [97, 44, 125], rfl⟩ := by rfl
  have hlenient : parseLenientJson [34, 97, 44, 125, 34] = some ⟨.str [97, 125], rfl⟩ := by rfl
  have heq := congrArg Subtype.val (Option.some.inj (hlenient.symm.trans (h _ _ hparse)))
  cases heq

end GT3Code.Shared
