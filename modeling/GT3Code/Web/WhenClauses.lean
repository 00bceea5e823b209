import GT3Code.Shared.WhenGrammar

/-! # `when` clauses

A clause is evaluated on its tree. Truth values are one more meaning of the grammar's
constructs, so evaluating the tree of a text gives the truth value derived from the text.
-/

namespace GT3Code.Web

open GT3Code.Base GT3Code.Base.Json GT3Code.Contracts GT3Code.Shared

/-- `Boolean(context[name])` for each name. -/
abbrev ShortcutMatchContext := Text → Bool

def evaluateWhenNode (context : ShortcutMatchContext) : KeybindingWhenNode → Bool
  | .identifier name =>
    if name = ascii "true" then true
    else if name = ascii "false" then false
    else context name
  | .not node => !evaluateWhenNode context node
  | .and left right => evaluateWhenNode context left && evaluateWhenNode context right
  | .or left right => evaluateWhenNode context left || evaluateWhenNode context right

def matchesWhenClause (whenAst : Option KeybindingWhenNode) (context : ShortcutMatchContext) :
    Bool :=
  match whenAst with
  | none => true
  | some node => evaluateWhenNode context node

def truthValues (context : ShortcutMatchContext) : WhenAlgebra Bool where
  identifier name :=
    if name = ascii "true" then true else if name = ascii "false" then false else context name
  not value := !value
  and left right := left && right
  or left right := left || right

theorem related_evaluateWhenNode (context : ShortcutMatchContext) :
    syntaxTrees.Related (truthValues context)
      (fun ast value => value = evaluateWhenNode context ast) where
  identifier _ := rfl
  not _ _ h := by rw [h]; rfl
  and _ _ _ _ hleft hright := by rw [hleft, hright]; rfl
  or _ _ _ _ hleft hright := by rw [hleft, hright]; rfl

theorem related_tree (context : ShortcutMatchContext) :
    (truthValues context).Related syntaxTrees
      (fun value ast => value = evaluateWhenNode context ast) where
  identifier _ := rfl
  not _ _ h := by rw [h]; rfl
  and _ _ _ _ hleft hright := by rw [hleft, hright]; rfl
  or _ _ _ _ hleft hright := by rw [hleft, hright]; rfl

theorem derivable_truthValues_iff {tokens : List WhenToken} {ast : KeybindingWhenNode}
    (h : Derivable syntaxTrees tokens ast) (context : ShortcutMatchContext) (value : Bool) :
    Derivable (truthValues context) tokens value ↔ value = evaluateWhenNode context ast := by
  constructor
  · intro hvalue
    obtain ⟨ast', hast', heval⟩ := (related_tree context).derivable hvalue
    rw [heval, hast'.unique h]
  · rintro rfl
    obtain ⟨value, hvalue, rfl⟩ := (related_evaluateWhenNode context).derivable h
    exact hvalue

/-- The clause of a compiled rule matches where the rule's expression is true, and always
where it has none. -/
theorem matchesWhenClause_compiled_iff [CaseMapping] {rule : KeybindingRule}
    {resolved : ResolvedKeybindingRule} (h : compileResolvedKeybindingRule rule = some resolved)
    (context : ShortcutMatchContext) :
    matchesWhenClause resolved.whenAst context = true ↔
      ∀ when ∈ rule.when, ∃ tokens, Tokenizes when.1 tokens ∧
        Derivable (truthValues context) tokens true := by
  obtain ⟨-, -, hwhen⟩ := compileResolvedKeybindingRule_eq_some_iff.mp h
  cases hrule : rule.when with
  | none =>
    rw [hrule, Option.map_none] at hwhen
    rw [Option.map_eq_none_iff.mp hwhen.symm]
    exact iff_of_true rfl (by simp)
  | some when =>
    rw [hrule, Option.map_some] at hwhen
    obtain ⟨ast, hast, hparse⟩ := Option.map_eq_some_iff.mp hwhen.symm
    obtain ⟨tokens, htokens, hderivable⟩ := parseKeybindingWhenExpression_iff.mp hparse.symm
    have hvalue := derivable_truthValues_iff hderivable context true
    rw [hast]
    constructor
    · intro hmatches when' hwhen'
      cases hwhen'
      exact ⟨tokens, htokens, hvalue.mpr hmatches.symm⟩
    · intro hall
      obtain ⟨tokens', htokens', htrue⟩ := hall when rfl
      cases Option.some.inj (htokens'.eq.symm.trans htokens.eq)
      exact (hvalue.mp htrue).symm

/-- A text is parsed exactly where it splits into tokens that the grammar derives, into the
tree of the derivation. The clause matches in a context exactly where the expression is true
there. -/
theorem parseKeybindingWhenExpression_grammar (expression : Text) :
    (∀ ast, parseKeybindingWhenExpression expression = some ast ↔
        ∃ tokens, Tokenizes expression tokens ∧ Derivable syntaxTrees tokens ast) ∧
      ∀ ast tokens context value, parseKeybindingWhenExpression expression = some ast →
        Tokenizes expression tokens →
        (Derivable (truthValues context) tokens value ↔ value = evaluateWhenNode context ast) := by
  refine ⟨fun ast => parseKeybindingWhenExpression_iff, ?_⟩
  intro ast tokens context value hparse htokens
  obtain ⟨tokens', htokens', hderivable⟩ := parseKeybindingWhenExpression_iff.mp hparse
  have hsame : tokens' = tokens := Option.some.inj (htokens'.eq.symm.trans htokens.eq)
  subst hsame
  exact derivable_truthValues_iff hderivable context value

end GT3Code.Web
