import GT3Code.Shared.Keybindings

/-! # The grammar of `when` expressions

The grammar stands apart from the parser, over any meaning of its constructs. The parser
takes an expression off the tokens exactly where the grammar derives it, and an expression
has one tree.
-/

namespace GT3Code.Shared

open GT3Code.Base GT3Code.Base.Json GT3Code.Contracts

def IsIdentifier (name : Text) : Prop :=
  ∃ first rest, name = first :: rest ∧ isIdentifierHead first = true ∧
    ∀ u ∈ rest, isIdentifierPart u = true

/-- The text splits into the tokens, an identifier being as long as it can. -/
inductive Tokenizes : Text → List WhenToken → Prop where
  | nil : Tokenizes [] []
  | space {u : CodeUnit} {rest : Text} {tokens : List WhenToken} (hspace : isSpace u = true)
      (hrest : Tokenizes rest tokens) : Tokenizes (u :: rest) tokens
  | and {rest : Text} {tokens : List WhenToken} (hrest : Tokenizes rest tokens) :
      Tokenizes (ampersand :: ampersand :: rest) (.and :: tokens)
  | or {rest : Text} {tokens : List WhenToken} (hrest : Tokenizes rest tokens) :
      Tokenizes (pipe :: pipe :: rest) (.or :: tokens)
  | not {rest : Text} {tokens : List WhenToken} (hrest : Tokenizes rest tokens) :
      Tokenizes (bang :: rest) (.not :: tokens)
  | lparen {rest : Text} {tokens : List WhenToken} (hrest : Tokenizes rest tokens) :
      Tokenizes (openParen :: rest) (.lparen :: tokens)
  | rparen {rest : Text} {tokens : List WhenToken} (hrest : Tokenizes rest tokens) :
      Tokenizes (closeParen :: rest) (.rparen :: tokens)
  | identifier {name rest : Text} {tokens : List WhenToken} (hname : IsIdentifier name)
      (hlongest : ∀ u ∈ rest.head?, isIdentifierPart u = false) (hrest : Tokenizes rest tokens) :
      Tokenizes (name ++ rest) (.identifier name :: tokens)

theorem isIdentifierHead_spec {u : CodeUnit} (h : isIdentifierHead u = true) :
    isSpace u = false ∧ u ≠ ampersand ∧ u ≠ pipe ∧ u ≠ bang ∧ u ≠ openParen ∧ u ≠ closeParen := by
  have hbound : u < 128 := by
    simp only [isIdentifierHead, isLowerLetter, CodeUnit, Bool.or_eq_true, Bool.and_eq_true,
      decide_eq_true_eq] at h ⊢
    omega
  have hall : ∀ v < 128, isIdentifierHead v = true →
      isSpace v = false ∧ v ≠ ampersand ∧ v ≠ pipe ∧ v ≠ bang ∧ v ≠ openParen ∧
        v ≠ closeParen := by decide +kernel
  exact hall u hbound h

variable {expression : Text} {tokens rest : List WhenToken} {node ast : KeybindingWhenNode}

theorem tokenizes_of_eq (length : Nat) (hlength : expression.length = length)
    (h : tokenizeWhenExpression expression = some tokens) : Tokenizes expression tokens := by
  induction length using Nat.strongRecOn generalizing expression tokens with
  | ind length ih =>
    cases expression with
    | nil =>
      rw [tokenizeWhenExpression] at h
      cases h
      exact .nil
    | cons current rest =>
      rw [List.length_cons] at hlength
      have step : ∀ {remaining : Text} {token : WhenToken} {result : List WhenToken},
          remaining.length ≤ rest.length →
          (tokenizeWhenExpression remaining).map (token :: ·) = some result →
          ∃ tail, result = token :: tail ∧ Tokenizes remaining tail := by
        intro remaining token result hle hmap
        obtain ⟨tail, htail, rfl⟩ := Option.map_eq_some_iff.mp hmap
        exact ⟨tail, rfl, ih remaining.length (by omega) rfl htail⟩
      have htail : rest.tail.length ≤ rest.length := by rw [List.length_tail]; omega
      rw [tokenizeWhenExpression] at h
      split at h
      · exact .space ‹_› (ih rest.length (by omega) rfl h)
      split at h
      · rename_i hand
        obtain ⟨rfl, hhead⟩ := hand
        obtain ⟨tail, rfl, hrest⟩ := step htail h
        rw [← List.cons_head?_tail hhead]
        exact .and hrest
      split at h
      · rename_i hor
        obtain ⟨rfl, hhead⟩ := hor
        obtain ⟨tail, rfl, hrest⟩ := step htail h
        rw [← List.cons_head?_tail hhead]
        exact .or hrest
      split at h
      · obtain ⟨tail, rfl, hrest⟩ := step (Nat.le_refl _) h
        subst current
        exact .not hrest
      split at h
      · obtain ⟨tail, rfl, hrest⟩ := step (Nat.le_refl _) h
        subst current
        exact .lparen hrest
      split at h
      · obtain ⟨tail, rfl, hrest⟩ := step (Nat.le_refl _) h
        subst current
        exact .rparen hrest
      split at h
      · rename_i hidentifier
        obtain ⟨tail, rfl, hrest⟩ := step (List.dropWhile_suffix _).length_le h
        have hsplit : current :: rest =
            (current :: rest.takeWhile isIdentifierPart) ++
              rest.dropWhile isIdentifierPart := by
          rw [List.cons_append, List.takeWhile_append_dropWhile]
        rw [hsplit]
        refine .identifier ⟨current, _, rfl, hidentifier, ?_⟩ (head_dropWhile _ _) hrest
        exact fun u hu => List.mem_takeWhile_imp hu
      · cases h

theorem Tokenizes.eq (h : Tokenizes expression tokens) :
    tokenizeWhenExpression expression = some tokens := by
  induction h with
  | nil => rw [tokenizeWhenExpression]
  | space hspace _ ih => rw [tokenizeWhenExpression, if_pos hspace, ih]
  | and _ ih =>
    rw [tokenizeWhenExpression, if_neg (by decide), if_pos ⟨rfl, rfl⟩, List.tail_cons, ih,
      Option.map_some]
  | or _ ih =>
    rw [tokenizeWhenExpression, if_neg (by decide), if_neg (fun hand => absurd hand.1 (by decide)),
      if_pos ⟨rfl, rfl⟩, List.tail_cons, ih, Option.map_some]
  | not _ ih =>
    rw [tokenizeWhenExpression, if_neg (by decide), if_neg (fun hand => absurd hand.1 (by decide)),
      if_neg (fun hor => absurd hor.1 (by decide)), if_pos rfl, ih, Option.map_some]
  | lparen _ ih =>
    rw [tokenizeWhenExpression, if_neg (by decide), if_neg (fun hand => absurd hand.1 (by decide)),
      if_neg (fun hor => absurd hor.1 (by decide)), if_neg (by decide), if_pos rfl, ih,
      Option.map_some]
  | rparen _ ih =>
    rw [tokenizeWhenExpression, if_neg (by decide), if_neg (fun hand => absurd hand.1 (by decide)),
      if_neg (fun hor => absurd hor.1 (by decide)), if_neg (by decide), if_neg (by decide),
      if_pos rfl, ih, Option.map_some]
  | @identifier name rest tokens hname hlongest _ ih =>
    obtain ⟨first, more, rfl, hfirst, hmore⟩ := hname
    obtain ⟨hspace, hamp, hpipe, hbang, hopen, hclose⟩ := isIdentifierHead_spec hfirst
    have htake : (more ++ rest).takeWhile isIdentifierPart = more := by
      rw [List.takeWhile_append_of_pos hmore]
      cases rest with
      | nil => simp
      | cons u rest => rw [List.takeWhile_cons_of_neg (by simpa using hlongest u rfl), List.append_nil]
    have hdrop : (more ++ rest).dropWhile isIdentifierPart = rest := by
      rw [List.dropWhile_append_of_pos hmore, dropWhile_of_head hlongest]
    rw [List.cons_append, tokenizeWhenExpression, if_neg (by simp [hspace]),
      if_neg (fun hand => hamp hand.1), if_neg (fun hor => hpipe hor.1), if_neg hbang,
      if_neg hopen, if_neg hclose, if_pos hfirst, htake, hdrop, ih, Option.map_some]

theorem Tokenizes.append {front back : Text} {tokens' : List WhenToken}
    (h : Tokenizes front tokens) (h' : Tokenizes back tokens')
    (hends : ∀ u ∈ back.head?, isIdentifierPart u = false) :
    Tokenizes (front ++ back) (tokens ++ tokens') := by
  induction h with
  | nil => exact h'
  | space hspace _ ih => exact .space hspace ih
  | and _ ih => exact .and ih
  | or _ ih => exact .or ih
  | not _ ih => exact .not ih
  | lparen _ ih => exact .lparen ih
  | rparen _ ih => exact .rparen ih
  | @identifier name rest tokens hname hlongest _ ih =>
    rw [List.append_assoc]
    refine .identifier hname ?_ ih
    cases rest with
    | nil => exact hends
    | cons u rest => exact hlongest

theorem tokenizeWhenExpression_iff :
    tokenizeWhenExpression expression = some tokens ↔ Tokenizes expression tokens :=
  ⟨tokenizes_of_eq _ rfl, Tokenizes.eq⟩

structure WhenAlgebra (α : Type) where
  identifier : Text → α
  not : α → α
  and : α → α → α
  or : α → α → α

def syntaxTrees : WhenAlgebra KeybindingWhenNode := ⟨.identifier, .not, .and, .or⟩

section Grammar

variable {α : Type} (algebra : WhenAlgebra α)

/-- `'!'* primary`, with at most as many `!` as the limit. -/
def UnaryPhrase (primary : List WhenToken → α → Prop) (tokens : List WhenToken) (value : α) :
    Prop :=
  ∃ count operand inner, count ≤ MAX_WHEN_EXPRESSION_DEPTH ∧
    tokens = List.replicate count .not ++ operand ∧ primary operand inner ∧
    value = algebra.not^[count] inner

/-- `unary ('&&' unary)*` -/
def AndPhrase (primary : List WhenToken → α → Prop) : List WhenToken → α → Prop :=
  LeftChain .and algebra.and (UnaryPhrase algebra primary)

/-- `and ('||' and)*` -/
def OrPhrase (primary : List WhenToken → α → Prop) : List WhenToken → α → Prop :=
  LeftChain .or algebra.or (AndPhrase algebra primary)

def IdentifierPhrase (tokens : List WhenToken) (value : α) : Prop :=
  ∃ name, tokens = [.identifier name] ∧ value = algebra.identifier name

/-- `identifier | '(' or ')'`, with parentheses at most `depth` deep. -/
def PrimaryPhrase : Nat → List WhenToken → α → Prop
  | 0, tokens, value => IdentifierPhrase algebra tokens value
  | depth + 1, tokens, value =>
    IdentifierPhrase algebra tokens value ∨
      ∃ inner, tokens = .lparen :: inner ++ [.rparen] ∧
        OrPhrase algebra (PrimaryPhrase depth) inner value

/-- The tokens are derivable, and the derivation means `value`. -/
def Derivable : List WhenToken → α → Prop :=
  OrPhrase algebra (PrimaryPhrase algebra MAX_WHEN_EXPRESSION_DEPTH)

end Grammar

variable {depth levels : Nat} {name : Text}

theorem IdentifierPhrase.primary {α : Type} {algebra : WhenAlgebra α} {value : α}
    (h : IdentifierPhrase algebra tokens value) : PrimaryPhrase algebra depth tokens value := by
  cases depth with
  | zero => exact h
  | succ depth => exact Or.inl h

theorem PrimaryPhrase.head {α : Type} {algebra : WhenAlgebra α} {value : α}
    (h : PrimaryPhrase algebra depth tokens value) (rest : List WhenToken) :
    (tokens ++ rest).head? ≠ some .not := by
  cases depth with
  | zero =>
    obtain ⟨name, rfl, -⟩ := h
    simp
  | succ depth =>
    rcases h with ⟨name, rfl, -⟩ | ⟨inner, rfl, -⟩
    · simp
    · simp

/-! ## Parser and grammar -/

theorem negate_eq_iterate (count : Nat) (node : KeybindingWhenNode) :
    negate count node = KeybindingWhenNode.not^[count] node := by
  induction count generalizing node with
  | zero => rfl
  | succ count ih => rw [negate, ih, Function.iterate_succ_apply]

theorem skipNots_spec {before count : Nat} (hbefore : before ≤ MAX_WHEN_EXPRESSION_DEPTH)
    (h : skipNots before tokens = some (count, rest)) :
    ∃ more, count = before + more ∧ count ≤ MAX_WHEN_EXPRESSION_DEPTH ∧
      tokens = List.replicate more .not ++ rest := by
  induction tokens generalizing before with
  | nil =>
    rw [skipNots] at h
    · cases h
      exact ⟨0, rfl, hbefore, rfl⟩
    · simp
  | cons token tokens ih =>
    cases token with
    | not =>
      rw [skipNots] at h
      split at h
      · cases h
      · obtain ⟨more, hcount, hlimit, rfl⟩ := ih (by omega) h
        exact ⟨more + 1, by omega, hlimit, rfl⟩
    | _ =>
      rw [skipNots] at h
      · cases h
        exact ⟨0, rfl, hbefore, rfl⟩
      · simp

theorem skipNots_replicate {before count : Nat} {rest : List WhenToken}
    (hlimit : before + count ≤ MAX_WHEN_EXPRESSION_DEPTH) (hhead : rest.head? ≠ some .not) :
    skipNots before (List.replicate count .not ++ rest) = some (before + count, rest) := by
  induction count generalizing before with
  | zero =>
    cases rest with
    | nil => rw [List.replicate_zero, List.nil_append, skipNots, Nat.add_zero]; simp
    | cons token rest =>
      rw [List.replicate_zero, List.nil_append, skipNots, Nat.add_zero]
      intro tokens heq
      exact hhead (by rw [(List.cons.inj heq).1]; rfl)
  | succ count ih =>
    rw [List.replicate_succ, List.cons_append, skipNots, if_neg (by omega), ih (by omega)]
    rw [Nat.add_assoc, Nat.add_comm 1]

theorem yields_parseUnary_iff {parsePrimary : WhenParser} :
    Yields (parseUnary parsePrimary) tokens node rest ↔
      ∃ count middle inner, skipNots 0 tokens = some (count, middle) ∧
        Yields parsePrimary middle inner rest ∧ node = KeybindingWhenNode.not^[count] inner := by
  constructor
  · rintro ⟨shorter, h⟩
    unfold parseUnary at h
    split at h
    · cases h
    · rename_i count middle hskip
      cases hprimary : parsePrimary middle with
      | none => simp [hprimary] at h
      | some parsed =>
        simp only [hprimary, Option.some.injEq, Parsed.mk.injEq] at h
        obtain ⟨rfl, rfl⟩ := h
        exact ⟨count, middle, parsed.node, hskip, yields_of_eq hprimary,
          negate_eq_iterate count parsed.node⟩
  · rintro ⟨count, middle, inner, hskip, ⟨shorter, hprimary⟩, rfl⟩
    refine ⟨Nat.lt_of_lt_of_le shorter (length_skipNots hskip), ?_⟩
    unfold parseUnary
    split
    · rename_i hnone
      rw [hskip] at hnone
      cases hnone
    · rename_i count' middle' hsome
      rw [hskip] at hsome
      cases hsome
      simp only [hprimary, negate_eq_iterate]

section Agreement

variable {primary : List WhenToken → KeybindingWhenNode → Prop} {parsePrimary : WhenParser}

theorem soundFor_parseUnary (hsound : SoundFor primary parsePrimary) :
    SoundFor (UnaryPhrase syntaxTrees primary) (parseUnary parsePrimary) := by
  intro tokens node rest h
  obtain ⟨count, middle, inner, hskip, hprimary, rfl⟩ := yields_parseUnary_iff.mp h
  obtain ⟨more, hcount, hlimit, rfl⟩ := skipNots_spec (Nat.zero_le _) hskip
  rw [Nat.zero_add] at hcount
  subst hcount
  obtain ⟨operand, rfl, hoperand⟩ := hsound _ _ _ hprimary
  exact ⟨List.replicate count .not ++ operand, (List.append_assoc _ _ _).symm,
    count, operand, inner, hlimit, rfl, hoperand, rfl⟩

theorem completeFor_parseUnary (hcomplete : CompleteFor primary (fun _ => True) parsePrimary)
    (hhead : ∀ tokens node rest, primary tokens node → (tokens ++ rest).head? ≠ some .not) :
    CompleteFor (UnaryPhrase syntaxTrees primary) (fun _ => True) (parseUnary parsePrimary) := by
  rintro front node rest ⟨count, operand, inner, hlimit, rfl, hoperand, rfl⟩ -
  refine yields_parseUnary_iff.mpr ⟨count, operand ++ rest, inner, ?_,
    hcomplete _ _ _ hoperand trivial, rfl⟩
  have hskip := @skipNots_replicate 0 count (operand ++ rest)
    (by omega) (hhead _ _ _ hoperand)
  rwa [Nat.zero_add, ← List.append_assoc] at hskip

theorem soundFor_parseOr (hsound : SoundFor primary parsePrimary) :
    SoundFor (OrPhrase syntaxTrees primary) (parseOr parsePrimary) :=
  (soundFor_parseUnary hsound).operands.operands

def EndsExpression (rest : List WhenToken) : Prop :=
  (True ∧ rest.head? ≠ some .and) ∧ rest.head? ≠ some .or

theorem completeFor_parseOr (hcomplete : CompleteFor primary (fun _ => True) parsePrimary)
    (hhead : ∀ tokens node rest, primary tokens node → (tokens ++ rest).head? ≠ some .not) :
    CompleteFor (OrPhrase syntaxTrees primary) EndsExpression (parseOr parsePrimary) :=
  ((completeFor_parseUnary hcomplete hhead).operands (fun _ => trivial)).operands
    (fun _ => ⟨trivial, by simp⟩)

end Agreement

theorem yields_parsePrimary_iff :
    Yields (parsePrimary (levels + 1)) tokens node rest ↔
      (∃ name, tokens = .identifier name :: rest ∧ node = .identifier name) ∨
        ∃ inner, tokens = .lparen :: inner ∧
          Yields (parseOr (parsePrimary levels)) inner node (.rparen :: rest) := by
  constructor
  · rintro ⟨shorter, h⟩
    unfold parsePrimary at h
    split at h
    · cases h
      exact Or.inl ⟨_, rfl, rfl⟩
    · split at h
      · cases h
      · rename_i expression hexpression
        split at h
        · rename_i rest' hrest
          cases h
          refine Or.inr ⟨_, rfl, ?_⟩
          rw [← hrest]
          exact yields_of_eq hexpression
        · cases h
    · cases h
  · rintro (⟨name, rfl, rfl⟩ | ⟨inner, rfl, shorter, hexpression⟩)
    · exact ⟨Nat.lt_succ_self _, rfl⟩
    · refine ⟨?_, ?_⟩
      · rw [List.length_cons] at shorter ⊢
        omega
      · unfold parsePrimary
        simp only [hexpression]

theorem IdentifierPhrase.yields {front : List WhenToken}
    (h : IdentifierPhrase syntaxTrees front node) (rest : List WhenToken) :
    Yields (parsePrimary (levels + 1)) (front ++ rest) node rest := by
  obtain ⟨name, rfl, rfl⟩ := h
  exact yields_parsePrimary_iff.mpr (Or.inl ⟨name, rfl, rfl⟩)

/-- The parser takes primary expressions `depth` deep off the front where it has a level
more. The induction is on the depth; a level deeper an expression is parsed in whole. -/
theorem soundFor_parsePrimary (depth : Nat) :
    SoundFor (PrimaryPhrase syntaxTrees depth) (parsePrimary (depth + 1)) := by
  induction depth with
  | zero =>
    intro tokens node rest h
    rcases yields_parsePrimary_iff.mp h with ⟨name, rfl, rfl⟩ | ⟨inner, -, hinner⟩
    · exact ⟨[.identifier name], rfl, name, rfl, rfl⟩
    · have hnone : SoundFor (fun _ _ => False) (parsePrimary 0) := by
        rintro tokens node rest ⟨shorter, heq⟩
        cases heq
      obtain ⟨front, -, hor⟩ := soundFor_parseOr hnone _ _ _ hinner
      obtain ⟨_, _, hand⟩ := hor.exists_phrase
      obtain ⟨_, _, hunary⟩ := hand.exists_phrase
      obtain ⟨_, _, _, -, -, hfalse, -⟩ := hunary
      exact hfalse.elim
  | succ depth ih =>
    intro tokens node rest h
    rcases yields_parsePrimary_iff.mp h with ⟨name, rfl, rfl⟩ | ⟨inner, rfl, hinner⟩
    · exact ⟨[.identifier name], rfl, IdentifierPhrase.primary ⟨name, rfl, rfl⟩⟩
    · obtain ⟨front, rfl, hor⟩ := soundFor_parseOr ih _ _ _ hinner
      refine ⟨.lparen :: front ++ [.rparen], ?_, Or.inr ⟨front, rfl, hor⟩⟩
      rw [List.append_assoc, List.cons_append, List.singleton_append]

theorem completeFor_parsePrimary (depth : Nat) :
    CompleteFor (PrimaryPhrase syntaxTrees depth) (fun _ => True) (parsePrimary (depth + 1)) := by
  induction depth with
  | zero => exact fun front node rest h _ => IdentifierPhrase.yields h rest
  | succ depth ih =>
    rintro front node rest (h | ⟨inner, rfl, hinner⟩) -
    · exact h.yields rest
    · have hor := completeFor_parseOr ih (fun _ _ rest h => h.head rest) inner node
        (.rparen :: rest) hinner ⟨⟨trivial, by simp⟩, by simp⟩
      refine yields_parsePrimary_iff.mpr (Or.inr ⟨inner ++ .rparen :: rest, ?_, hor⟩)
      rw [List.append_assoc, List.cons_append, List.singleton_append]

theorem Derivable.ne_nil {α : Type} {algebra : WhenAlgebra α} {value : α}
    (h : Derivable algebra tokens value) : tokens ≠ [] := by
  have hunary : ∀ tokens value, UnaryPhrase algebra
      (PrimaryPhrase algebra MAX_WHEN_EXPRESSION_DEPTH) tokens value → tokens ≠ [] := by
    rintro tokens value ⟨count, operand, inner, -, rfl, hoperand, -⟩ hnil
    rw [(List.append_eq_nil_iff.mp hnil).2] at hoperand
    rcases hoperand with ⟨name, hname, -⟩ | ⟨inner, hinner, -⟩
    · cases hname
    · cases hinner
  exact LeftChain.ne_nil (fun _ _ hand => LeftChain.ne_nil hunary hand) h

theorem yields_parseOr_iff :
    Yields (parseOr (parsePrimary (MAX_WHEN_EXPRESSION_DEPTH + 1))) tokens ast [] ↔
      Derivable syntaxTrees tokens ast := by
  constructor
  · intro h
    obtain ⟨front, htokens, hphrase⟩ := soundFor_parseOr (soundFor_parsePrimary _) _ _ _ h
    rw [htokens, List.append_nil]
    exact hphrase
  · intro h
    have hyields := completeFor_parseOr (completeFor_parsePrimary _)
      (fun _ _ rest hprimary => hprimary.head rest) tokens ast [] h ⟨⟨trivial, by simp⟩, by simp⟩
    rwa [List.append_nil] at hyields

theorem parseKeybindingWhenExpression_iff :
    parseKeybindingWhenExpression expression = some ast ↔
      ∃ tokens, Tokenizes expression tokens ∧ Derivable syntaxTrees tokens ast := by
  unfold parseKeybindingWhenExpression
  constructor
  · intro h
    cases htokens : tokenizeWhenExpression expression with
    | none => simp [htokens] at h
    | some tokens =>
      simp only [htokens] at h
      split at h
      · cases h
      · cases hparsed : parseOr (parsePrimary (MAX_WHEN_EXPRESSION_DEPTH + 1)) tokens with
        | none => simp [hparsed] at h
        | some parsed =>
          simp only [hparsed, Option.ite_none_right_eq_some, Option.some.injEq] at h
          obtain ⟨hrest, rfl⟩ := h
          refine ⟨tokens, tokenizeWhenExpression_iff.mp htokens, yields_parseOr_iff.mp ?_⟩
          rw [← hrest]
          exact yields_of_eq hparsed
  · rintro ⟨tokens, htokens, hderivable⟩
    obtain ⟨shorter, hparsed⟩ := yields_parseOr_iff.mpr hderivable
    simp only [tokenizeWhenExpression_iff.mpr htokens, hparsed, if_true]
    rw [if_neg (fun hlength => hderivable.ne_nil (List.length_eq_zero_iff.mp hlength))]

theorem Derivable.unique {ast' : KeybindingWhenNode} (h : Derivable syntaxTrees tokens ast)
    (h' : Derivable syntaxTrees tokens ast') : ast = ast' :=
  ((yields_parseOr_iff.mpr h).unique (yields_parseOr_iff.mpr h')).1

/-- Every construct keeps the relation between two kinds of meaning. -/
structure WhenAlgebra.Related {α β : Type} (source : WhenAlgebra α) (target : WhenAlgebra β)
    (related : α → β → Prop) : Prop where
  identifier : ∀ name, related (source.identifier name) (target.identifier name)
  not : ∀ value value', related value value' → related (source.not value) (target.not value')
  and : ∀ left left' right right', related left left' → related right right' →
    related (source.and left right) (target.and left' right')
  or : ∀ left left' right right', related left left' → related right right' →
    related (source.or left right) (target.or left' right')

section Meanings

variable {α β : Type} {source : WhenAlgebra α} {target : WhenAlgebra β} {related : α → β → Prop}

variable {value : α}

theorem WhenAlgebra.Related.iterate (h : source.Related target related) (count : Nat) {value' : β}
    (hvalue : related value value') :
    related (source.not^[count] value) (target.not^[count] value') := by
  induction count generalizing value value' with
  | zero => exact hvalue
  | succ count ih =>
    rw [Function.iterate_succ_apply, Function.iterate_succ_apply]
    exact ih (h.not _ _ hvalue)

variable {tokens : List WhenToken}

theorem WhenAlgebra.Related.orPhrase (h : source.Related target related)
    {primary : List WhenToken → α → Prop} {primary' : List WhenToken → β → Prop}
    (hprimary : ∀ tokens value, primary tokens value →
      ∃ value', primary' tokens value' ∧ related value value')
    (hor : OrPhrase source primary tokens value) :
    ∃ value', OrPhrase target primary' tokens value' ∧ related value value' := by
  have hunary : ∀ tokens value, UnaryPhrase source primary tokens value →
      ∃ value', UnaryPhrase target primary' tokens value' ∧ related value value' := by
    rintro tokens value ⟨count, operand, inner, hlimit, rfl, hoperand, rfl⟩
    obtain ⟨inner', hinner', hinner⟩ := hprimary _ _ hoperand
    exact ⟨_, ⟨count, operand, inner', hlimit, rfl, hinner', rfl⟩, h.iterate count hinner⟩
  have hand : ∀ tokens value, AndPhrase source primary tokens value →
      ∃ value', AndPhrase target primary' tokens value' ∧ related value value' :=
    fun _ _ => LeftChain.exists_related hunary h.and
  exact LeftChain.exists_related hand h.or hor

theorem WhenAlgebra.Related.primaryPhrase (h : source.Related target related) (depth : Nat) :
    ∀ tokens value, PrimaryPhrase source depth tokens value →
      ∃ value', PrimaryPhrase target depth tokens value' ∧ related value value' := by
  have hidentifier : ∀ (depth : Nat) tokens value, IdentifierPhrase source tokens value →
      ∃ value', PrimaryPhrase target depth tokens value' ∧ related value value' := by
    rintro depth tokens value ⟨name, rfl, rfl⟩
    exact ⟨_, IdentifierPhrase.primary ⟨name, rfl, rfl⟩, h.identifier name⟩
  induction depth with
  | zero => exact hidentifier 0
  | succ depth ih =>
    rintro tokens value (hname | ⟨inner, rfl, hinner⟩)
    · exact hidentifier (depth + 1) tokens value hname
    · obtain ⟨value', hvalue', hvalue⟩ := h.orPhrase ih hinner
      exact ⟨value', Or.inr ⟨inner, rfl, hvalue'⟩, hvalue⟩

theorem WhenAlgebra.Related.derivable (h : source.Related target related)
    (hderivable : Derivable source tokens value) :
    ∃ value', Derivable target tokens value' ∧ related value value' :=
  h.orPhrase (h.primaryPhrase _) hderivable

end Meanings

def WellNamedNode : KeybindingWhenNode → Prop
  | .identifier name => IsIdentifier name
  | .not node => WellNamedNode node
  | .and left right => WellNamedNode left ∧ WellNamedNode right
  | .or left right => WellNamedNode left ∧ WellNamedNode right

theorem Tokenizes.isIdentifier (h : Tokenizes expression tokens)
    (hname : .identifier name ∈ tokens) : IsIdentifier name := by
  induction h with
  | nil => cases hname
  | space _ _ ih => exact ih hname
  | @identifier name' rest tokens hname' _ _ ih =>
    rcases List.mem_cons.mp hname with heq | hrest
    · cases heq
      exact hname'
    · exact ih hrest
  | _ _ ih => exact ih ((List.mem_cons.mp hname).resolve_left (by simp))

def IsProperToken (token : WhenToken) : Prop := ∀ name, token = .identifier name → IsIdentifier name

theorem wellNamed_iterate_not (h : WellNamedNode node) (count : Nat) :
    WellNamedNode (KeybindingWhenNode.not^[count] node) := by
  induction count generalizing node with
  | zero => exact h
  | succ count ih =>
    rw [Function.iterate_succ_apply]
    exact ih h

theorem OrPhrase.wellNamed {primary : List WhenToken → KeybindingWhenNode → Prop}
    (hprimary : ∀ tokens node, primary tokens node → (∀ token ∈ tokens, IsProperToken token) →
      WellNamedNode node)
    (h : OrPhrase syntaxTrees primary tokens node)
    (htokens : ∀ token ∈ tokens, IsProperToken token) : WellNamedNode node := by
  have hunary : ∀ tokens node, UnaryPhrase syntaxTrees primary tokens node →
      (∀ token ∈ tokens, IsProperToken token) → WellNamedNode node := by
    rintro tokens node ⟨count, operand, inner, -, rfl, hoperand, rfl⟩ hproper
    exact wellNamed_iterate_not (hprimary _ _ hoperand
      (fun token hmem => hproper token (List.mem_append_right _ hmem))) count
  have hjoinAnd : ∀ left right, WellNamedNode left → WellNamedNode right →
      WellNamedNode (syntaxTrees.and left right) := fun _ _ => And.intro
  have hjoinOr : ∀ left right, WellNamedNode left → WellNamedNode right →
      WellNamedNode (syntaxTrees.or left right) := fun _ _ => And.intro
  have hand : ∀ tokens node, AndPhrase syntaxTrees primary tokens node →
      (∀ token ∈ tokens, IsProperToken token) → WellNamedNode node :=
    fun _ _ hchain hproper => LeftChain.of_forall hunary hjoinAnd hchain hproper
  exact LeftChain.of_forall hand hjoinOr h htokens

theorem PrimaryPhrase.wellNamed (depth : Nat) :
    ∀ tokens node, PrimaryPhrase syntaxTrees depth tokens node →
      (∀ token ∈ tokens, IsProperToken token) → WellNamedNode node := by
  have hidentifier : ∀ tokens node, IdentifierPhrase syntaxTrees tokens node →
      (∀ token ∈ tokens, IsProperToken token) → WellNamedNode node := by
    rintro tokens node ⟨name, rfl, rfl⟩ hproper
    exact hproper _ (List.mem_singleton_self _) name rfl
  induction depth with
  | zero => exact hidentifier
  | succ depth ih =>
    rintro tokens node (hname | ⟨inner, rfl, hinner⟩) hproper
    · exact hidentifier tokens node hname hproper
    · refine OrPhrase.wellNamed ih hinner (fun token hmem => hproper token ?_)
      exact List.mem_append_left _ (List.mem_cons_of_mem _ hmem)

theorem wellNamed_of_parse (h : parseKeybindingWhenExpression expression = some ast) :
    WellNamedNode ast := by
  obtain ⟨tokens, htokens, hderivable⟩ := parseKeybindingWhenExpression_iff.mp h
  refine OrPhrase.wellNamed (PrimaryPhrase.wellNamed _) hderivable ?_
  rintro token hmem name rfl
  exact htokens.isIdentifier hmem

theorem IsIdentifier.not_space (h : IsIdentifier name) : ∀ u ∈ name, isSpace u = false := by
  obtain ⟨first, rest, rfl, hfirst, hrest⟩ := h
  have hpart : ∀ u, isIdentifierPart u = true → isSpace u = false := by
    intro u hu
    have hbound : u < 128 := by
      simp only [isIdentifierPart, isIdentifierHead, isLowerLetter, isDigit, CodeUnit,
        Bool.or_eq_true, Bool.and_eq_true, decide_eq_true_eq] at hu ⊢
      omega
    have hall : ∀ v < 128, isIdentifierPart v = true → isSpace v = false := by decide +kernel
    exact hall u hbound hu
  intro u hu
  rcases List.mem_cons.mp hu with rfl | hmem
  · exact (isIdentifierHead_spec hfirst).1
  · exact hpart u (hrest u hmem)

end GT3Code.Shared
