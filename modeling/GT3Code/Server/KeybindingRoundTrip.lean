import GT3Code.Server.Keybindings
import GT3Code.Shared.WhenGrammar

/-! # Encoding a resolved keybinding and decoding it again

The encoder writes a shortcut in one order of names and an expression with parentheses
around every operator. What is written is read as the same shortcut and the same tree. The
checks on both sides are what can fail: on the lengths of what is written, on the depth of
its parentheses, and on a key that is a blank.
-/

namespace GT3Code.Server

open GT3Code.Base GT3Code.Base.Json GT3Code.Contracts GT3Code.Shared

def modifierTokens : List Text :=
  ["cmd", "meta", "ctrl", "control", "shift", "alt", "option", "mod"].map ascii

def keyName (key : Text) : Text := if key = ascii " " then ascii "space" else key

section Keys

variable [CaseMapping]

structure KeyToken (token : Text) : Prop where
  nonempty : token ≠ []
  trimmed : TrimmedFor isSpace token
  lowered : CaseMapping.toLowerCase token = token
  plain : plus ∉ token ∨ token = [plus]
  notModifier : token ∉ modifierTokens

variable {token : Text} {shortcut : KeybindingShortcut}

theorem keyToken_of_plain (hnonempty : token ≠ []) (htrimmed : TrimmedFor isSpace token)
    (hlowered : ∀ u ∈ token, u < 128 ∧ ¬(65 ≤ u ∧ u ≤ 90))
    (hplain : plus ∉ token ∨ token = [plus]) (hmodifier : token ∉ modifierTokens) :
    KeyToken token :=
  ⟨hnonempty, htrimmed, toLowerCase_plain hlowered, hplain, hmodifier⟩

theorem keyToken_space : KeyToken (ascii "space") :=
  keyToken_of_plain (by decide) (by unfold TrimmedFor; decide) (by decide) (by decide) (by decide)

theorem keyToken_escape : KeyToken (ascii "escape") :=
  keyToken_of_plain (by decide) (by unfold TrimmedFor; decide) (by decide) (by decide) (by decide)

theorem KeyToken.ne_blank (h : KeyToken token) : token ≠ ascii " " := by
  rintro rfl
  have hhead := h.trimmed.1 32 rfl
  exact absurd hhead (by decide)

theorem KeyToken.keyName (h : KeyToken token) :
    KeyToken (keyName (normalizeKeyToken token)) ∧
      normalizeKeyToken (Server.keyName (normalizeKeyToken token)) = normalizeKeyToken token := by
  unfold normalizeKeyToken
  by_cases hspace : token = ascii "space"
  · subst hspace
    exact ⟨keyToken_space, by decide⟩
  · by_cases hescape : token = ascii "esc"
    · subst hescape
      exact ⟨keyToken_escape, by decide⟩
    · rw [if_neg hspace, if_neg hescape, Server.keyName, if_neg h.ne_blank, if_neg hspace,
        if_neg hescape]
      exact ⟨h, rfl⟩

omit [CaseMapping] in
theorem ShortcutParts.add_of_notModifier {token : Text} (h : token ∉ modifierTokens)
    (parts : ShortcutParts) :
    parts.add token =
      match parts.key with
      | some _ => none
      | none => some { parts with key := some (normalizeKeyToken token) } := by
  have hne : ∀ name ∈ modifierTokens, token ≠ name := fun name hname heq => h (heq ▸ hname)
  calc parts.add token
      = _ := if_neg (not_or.mpr ⟨hne _ (by decide), hne _ (by decide)⟩)
    _ = _ := if_neg (not_or.mpr ⟨hne _ (by decide), hne _ (by decide)⟩)
    _ = _ := if_neg (hne _ (by decide))
    _ = _ := if_neg (not_or.mpr ⟨hne _ (by decide), hne _ (by decide)⟩)
    _ = _ := if_neg (hne _ (by decide))

omit [CaseMapping] in
theorem ShortcutParts.key_add {parts next : ShortcutParts} {token : Text}
    (h : parts.add token = some next) :
    next.key = parts.key ∨ token ∉ modifierTokens ∧ next.key = some (normalizeKeyToken token) := by
  by_cases hmodifier : token ∈ modifierTokens
  · left
    have hall : ∀ name ∈ modifierTokens, ∀ parts : ShortcutParts,
        (parts.add name).map ShortcutParts.key = some parts.key := by
      intro name hname parts
      simp only [modifierTokens, List.map_cons, List.map_nil, List.mem_cons, List.not_mem_nil,
        or_false] at hname
      rcases hname with rfl | rfl | rfl | rfl | rfl | rfl | rfl | rfl <;> rfl
    have hkey := hall token hmodifier parts
    rw [h, Option.map_some, Option.some_inj] at hkey
    exact hkey
  · right
    rw [add_of_notModifier hmodifier] at h
    split at h
    · cases h
    · cases h
      exact ⟨hmodifier, rfl⟩

omit [CaseMapping] in
theorem ShortcutParts.key_foldlM {tokens : List Text} {parts last : ShortcutParts}
    (h : tokens.foldlM ShortcutParts.add parts = some last) {key : Text}
    (hkey : last.key = some key) (hnone : parts.key = none) :
    ∃ token ∈ tokens, token ∉ modifierTokens ∧ key = normalizeKeyToken token := by
  have hgeneral : ∀ (tokens : List Text) (parts : ShortcutParts),
      tokens.foldlM ShortcutParts.add parts = some last → parts.key = some key ∨
        ∃ token ∈ tokens, token ∉ modifierTokens ∧ key = normalizeKeyToken token := by
    intro tokens
    induction tokens with
    | nil =>
      intro parts hfold
      cases hfold
      exact Or.inl hkey
    | cons token tokens ih =>
      intro parts hfold
      rw [List.foldlM_cons] at hfold
      obtain ⟨next, hnext, hrest⟩ := Option.bind_eq_some_iff.mp hfold
      rcases ih next hrest with hsame | ⟨found, hfound, hspec⟩
      · rcases key_add hnext with hold | ⟨hmodifier, hnew⟩
        · exact Or.inl (hold ▸ hsame)
        · refine Or.inr ⟨token, List.mem_cons_self, hmodifier, ?_⟩
          exact Option.some.inj (hsame.symm.trans hnew)
      · exact Or.inr ⟨found, List.mem_cons_of_mem _ hfound, hspec⟩
  rcases hgeneral tokens parts h with hsome | hfound
  · rw [hnone] at hsome
    cases hsome
  · exact hfound

theorem mem_shortcutTokens {lowered : Text} (hlowered : CaseMapping.toLowerCase lowered = lowered)
    (h : token ∈ shortcutTokens lowered) :
    TrimmedFor isSpace token ∧ CaseMapping.toLowerCase token = token ∧
      (plus ∉ token ∨ token = [plus]) := by
  have hpiece : ∀ token ∈ (lowered.splitOn plus).map trimText,
      TrimmedFor isSpace token ∧ CaseMapping.toLowerCase token = token ∧
        (plus ∉ token ∨ token = [plus]) := by
    intro token htoken
    obtain ⟨piece, hmem, rfl⟩ := List.mem_map.mp htoken
    have hpart : trimText piece <:+: piece := trimWhere_isInfix _ piece
    refine ⟨trimmedFor_trimWhere _ piece, ?_, Or.inl ?_⟩
    · exact CaseMapping.toLowerCase_of_isInfix _ _ (hpart.trans (splitOn_isInfix hmem)) hlowered
    · exact fun hplus => notMem_splitOn hmem (hpart.mem hplus)
  have hpop : ∀ token ∈ ((lowered.splitOn plus).map trimText).rdropWhile List.isEmpty,
      token ∈ (lowered.splitOn plus).map trimText :=
    fun token htoken => (List.rdropWhile_prefix _ _).mem htoken
  unfold shortcutTokens at h
  dsimp only at h
  split at h
  · rcases List.mem_append.mp h with hold | hnew
    · exact hpiece token (hpop token hold)
    · rw [List.mem_singleton.mp hnew]
      exact ⟨by unfold TrimmedFor; decide, toLowerCase_plain (by decide), Or.inr rfl⟩
  · exact hpiece token (hpop token h)

theorem parseKeybindingShortcut_key {value : Text}
    (h : parseKeybindingShortcut value = some shortcut) :
    ∃ token, KeyToken token ∧ shortcut.key = normalizeKeyToken token := by
  unfold parseKeybindingShortcut shortcutOfTokens at h
  split at h
  · cases h
  · rename_i hempty
    split at h
    · cases h
    · obtain ⟨parts, hfold, hparts⟩ := Option.bind_eq_some_iff.mp h
      obtain ⟨key, hkey, rfl⟩ := Option.map_eq_some_iff.mp hparts
      obtain ⟨token, htoken, hmodifier, rfl⟩ := ShortcutParts.key_foldlM hfold hkey rfl
      obtain ⟨htrimmed, hlowered, hplain⟩ :=
        mem_shortcutTokens (CaseMapping.toLowerCase_toLowerCase value) htoken
      refine ⟨token, ⟨?_, htrimmed, hlowered, hplain, hmodifier⟩, rfl⟩
      rintro rfl
      exact hempty (List.any_eq_true.mpr ⟨[], htoken, rfl⟩)

omit [CaseMapping] in
theorem mem_modifierNames {shortcut : KeybindingShortcut} {name : Text}
    (h : name ∈ modifierNames shortcut) :
    name ∈ ["mod", "meta", "ctrl", "alt", "shift"].map ascii := by
  simp only [modifierNames, List.mem_append, List.mem_ite_nil_right, List.mem_singleton] at h
  rcases h with (((⟨-, rfl⟩ | ⟨-, rfl⟩) | ⟨-, rfl⟩) | ⟨-, rfl⟩) | ⟨-, rfl⟩ <;> decide

omit [CaseMapping] in
theorem modifierNames_spec (shortcut : KeybindingShortcut) :
    ∀ name ∈ modifierNames shortcut, name ≠ [] ∧ trimText name = name ∧ plus ∉ name := by
  have hspec : ∀ name ∈ ["mod", "meta", "ctrl", "alt", "shift"].map ascii,
      name ≠ [] ∧ trimText name = name ∧ plus ∉ name := by decide
  exact fun name hname => hspec name (mem_modifierNames hname)

def modifierFront (shortcut : KeybindingShortcut) : Text :=
  (modifierNames shortcut).flatMap (· ++ [plus])

theorem encodeShortcut_eq (h : KeyToken (keyName shortcut.key)) :
    encodeShortcut shortcut = some (modifierFront shortcut ++ keyName shortcut.key) := by
  have hkey : shortcut.key ≠ [] ∧ ¬(shortcut.key ≠ [plus] ∧ plus ∈ shortcut.key) := by
    by_cases hblank : shortcut.key = ascii " "
    · rw [hblank]
      decide
    · rw [keyName, if_neg hblank] at h
      refine ⟨h.nonempty, fun hplus => ?_⟩
      exact h.plain.elim (fun hfree => hfree hplus.2) hplus.1
  rw [encodeShortcut, if_neg hkey.1, if_neg hkey.2, modifierFront, ← intercalate_concat, keyName]

omit [CaseMapping] in
theorem shortcutTokens_encoded {names : List Text} {key : Text}
    (hnames : ∀ name ∈ names, name ≠ [] ∧ trimText name = name ∧ plus ∉ name)
    (hnonempty : key ≠ []) (htrimmed : TrimmedFor isSpace key)
    (hplain : plus ∉ key ∨ key = [plus]) :
    shortcutTokens (names.flatMap (· ++ [plus]) ++ key) = names ++ [key] := by
  have hmap : names.map trimText = names :=
    (List.map_congr_left (fun name hname => (hnames name hname).2.1)).trans (List.map_id _)
  rw [← intercalate_concat]
  unfold shortcutTokens
  dsimp only
  rcases hplain with hfree | rfl
  · have hsplit : (List.intercalate [plus] (names ++ [key])).splitOn plus = names ++ [key] := by
      refine List.splitOn_intercalate plus ?_ (by simp)
      intro piece hpiece
      rcases List.mem_append.mp hpiece with hname | hkey
      · exact (hnames piece hname).2.2
      · rwa [List.mem_singleton.mp hkey]
    rw [hsplit, List.map_append, hmap, List.map_singleton,
      show trimText key = key from trimWhere_of_trimmed htrimmed,
      List.rdropWhile_concat_neg _ _ _ (by simpa using hnonempty), if_neg (Nat.lt_irrefl _)]
  · have hsplit : (List.intercalate [plus] (names ++ [[plus]])).splitOn plus =
        names ++ [[], []] := by
      have hcut := intercalate_concat_cut [plus] [] [] names
      rw [List.nil_append, List.append_nil] at hcut
      rw [hcut]
      refine List.splitOn_intercalate plus ?_ (by simp)
      intro piece hpiece
      rcases List.mem_append.mp hpiece with hname | hempty
      · exact (hnames piece hname).2.2
      · rcases List.mem_pair.mp hempty with rfl | rfl <;> simp
    have hpop : (names ++ [[], []]).rdropWhile List.isEmpty = names := by
      rw [show names ++ [[], []] = (names ++ [[]]) ++ [[]] by simp,
        List.rdropWhile_concat_pos _ _ _ rfl, List.rdropWhile_concat_pos _ _ _ rfl,
        List.rdropWhile_eq_self_iff]
      intro hne hlast
      exact (hnames _ (List.getLast_mem hne)).1 (List.isEmpty_iff.mp hlast)
    rw [hsplit, List.map_append, hmap, show [[], []].map trimText = [[], []] from rfl, hpop,
      if_pos (by simp)]

omit [CaseMapping] in
theorem foldlM_modifierNames (shortcut : KeybindingShortcut) :
    (modifierNames shortcut).foldlM ShortcutParts.add ShortcutParts.none =
      some ⟨none, shortcut.metaKey, shortcut.ctrlKey, shortcut.shiftKey, shortcut.altKey,
        shortcut.modKey⟩ := by
  obtain ⟨key, metaKey, ctrlKey, shiftKey, altKey, modKey⟩ := shortcut
  cases metaKey <;> cases ctrlKey <;> cases shiftKey <;> cases altKey <;> cases modKey <;> rfl

theorem parseKeybindingShortcut_encoded (h : KeyToken (keyName shortcut.key))
    (hkey : normalizeKeyToken (keyName shortcut.key) = shortcut.key) :
    parseKeybindingShortcut (modifierFront shortcut ++ keyName shortcut.key) = some shortcut := by
  have hlowered : CaseMapping.toLowerCase (modifierFront shortcut ++ keyName shortcut.key) =
      modifierFront shortcut ++ keyName shortcut.key := by
    refine CaseMapping.toLowerCase_append _ _ ?_ h.lowered
    have hspec : ∀ name ∈ ["mod", "meta", "ctrl", "alt", "shift"].map ascii,
        ∀ u ∈ name ++ [plus], u < 128 ∧ ¬(65 ≤ u ∧ u ≤ 90) := by decide
    intro u hu
    obtain ⟨name, hname, hmem⟩ := List.mem_flatMap.mp hu
    exact hspec name (mem_modifierNames hname) u hmem
  have hempty : ¬(modifierNames shortcut ++ [keyName shortcut.key]).any List.isEmpty = true := by
    rw [List.any_eq_true]
    rintro ⟨token, htoken, hnil⟩
    rcases List.mem_append.mp htoken with hname | hlast
    · exact (modifierNames_spec shortcut token hname).1 (List.isEmpty_iff.mp hnil)
    · rw [List.mem_singleton.mp hlast] at hnil
      exact h.nonempty (List.isEmpty_iff.mp hnil)
  rw [parseKeybindingShortcut, hlowered, modifierFront,
    shortcutTokens_encoded (modifierNames_spec shortcut) h.nonempty h.trimmed h.plain,
    shortcutOfTokens, if_neg hempty, if_neg (by simp), List.foldlM_append, foldlM_modifierNames]
  simp only [Option.bind_eq_bind, Option.bind_some, List.foldlM_cons, List.foldlM_nil,
    ShortcutParts.add_of_notModifier h.notModifier, hkey, Option.pure_def, Option.map_some]

omit [CaseMapping] in
/-- Units of a written shortcut: each modifier with its plus sign, and the key's name. -/
def shortcutSize (shortcut : KeybindingShortcut) : Nat :=
  (if shortcut.modKey then 4 else 0) + (if shortcut.metaKey then 5 else 0) +
    (if shortcut.ctrlKey then 5 else 0) + (if shortcut.altKey then 4 else 0) +
    (if shortcut.shiftKey then 6 else 0) + (keyName shortcut.key).length

omit [CaseMapping] in
theorem length_encoded (shortcut : KeybindingShortcut) :
    (modifierFront shortcut ++ keyName shortcut.key).length = shortcutSize shortcut := by
  obtain ⟨key, metaKey, ctrlKey, shiftKey, altKey, modKey⟩ := shortcut
  rw [List.length_append, shortcutSize]
  congr 1
  cases metaKey <;> cases ctrlKey <;> cases shiftKey <;> cases altKey <;> cases modKey <;> rfl

omit [CaseMapping] in
theorem trimmedFor_modifierFront (shortcut : KeybindingShortcut) :
    TrimmedFor isSpace (modifierFront shortcut) := by
  refine trimmedFor_flatMap (fun name hname => trimmedFor_append ?_ ?_)
  · exact trimWhere_eq_self_iff.mp (modifierNames_spec shortcut name hname).2.1
  · unfold TrimmedFor
    decide

end Keys

def whenTokens : KeybindingWhenNode → List WhenToken
  | .identifier name => [.identifier name]
  | .not node => .not :: .lparen :: whenTokens node ++ [.rparen]
  | .and left right => .lparen :: (whenTokens left ++ .and :: whenTokens right) ++ [.rparen]
  | .or left right => .lparen :: (whenTokens left ++ .or :: whenTokens right) ++ [.rparen]

def whenSize : KeybindingWhenNode → Nat
  | .identifier name => name.length
  | .not node => whenSize node + 3
  | .and left right => whenSize left + whenSize right + 6
  | .or left right => whenSize left + whenSize right + 6

def whenHeight : KeybindingWhenNode → Nat
  | .identifier _ => 0
  | .not node => whenHeight node + 1
  | .and left right => max (whenHeight left) (whenHeight right) + 1
  | .or left right => max (whenHeight left) (whenHeight right) + 1

theorem length_encodeWhenAst (ast : KeybindingWhenNode) :
    (encodeWhenAst ast).length = whenSize ast := by
  have hnot : (ascii "!(").length = 2 := rfl
  have hopen : (ascii "(").length = 1 := rfl
  have hclose : (ascii ")").length = 1 := rfl
  have hand : (ascii " && ").length = 4 := rfl
  have hor : (ascii " || ").length = 4 := rfl
  induction ast with
  | identifier name => rfl
  | not node ih =>
    rw [encodeWhenAst, whenSize, List.length_append, List.length_append, ih, hnot, hclose]
    omega
  | and left right ihleft ihright =>
    rw [encodeWhenAst, whenSize, List.length_append, List.length_append, List.length_append,
      List.length_append, ihleft, ihright, hopen, hand, hclose]
    omega
  | or left right ihleft ihright =>
    rw [encodeWhenAst, whenSize, List.length_append, List.length_append, List.length_append,
      List.length_append, ihleft, ihright, hopen, hor, hclose]
    omega

theorem tokenizes_encodeWhenAst {ast : KeybindingWhenNode} (h : WellNamedNode ast) {rest : Text}
    {tokens : List WhenToken} (hrest : ∀ u ∈ rest.head?, isIdentifierPart u = false)
    (htokens : Tokenizes rest tokens) :
    Tokenizes (encodeWhenAst ast ++ rest) (whenTokens ast ++ tokens) := by
  have hclose : ∀ rest : Text, ∀ u ∈ (closeParen :: rest).head?, isIdentifierPart u = false := by
    intro rest u hu
    cases hu
    rfl
  have hblank : ∀ rest : Text, ∀ u ∈ ((32 : CodeUnit) :: rest).head?,
      isIdentifierPart u = false := by
    intro rest u hu
    cases hu
    rfl
  induction ast generalizing rest tokens with
  | identifier name => exact .identifier h hrest htokens
  | not node ih =>
    have htext : encodeWhenAst (.not node) ++ rest =
        bang :: openParen :: (encodeWhenAst node ++ closeParen :: rest) := by
      rw [encodeWhenAst, List.append_assoc, List.append_assoc]
      rfl
    have hall : whenTokens (.not node) ++ tokens =
        .not :: .lparen :: (whenTokens node ++ .rparen :: tokens) := by
      rw [whenTokens, List.append_assoc]
      rfl
    rw [htext, hall]
    exact .not (.lparen (ih h (hclose rest) (.rparen htokens)))
  | and left right ihleft ihright =>
    have htext : encodeWhenAst (.and left right) ++ rest =
        openParen :: (encodeWhenAst left ++ 32 :: ampersand :: ampersand :: 32 ::
          (encodeWhenAst right ++ closeParen :: rest)) := by
      simp only [encodeWhenAst, List.append_assoc]
      rfl
    have hall : whenTokens (.and left right) ++ tokens =
        .lparen :: (whenTokens left ++ .and :: (whenTokens right ++ .rparen :: tokens)) := by
      simp [whenTokens]
    rw [htext, hall]
    exact .lparen (ihleft h.1 (hblank _) (.space rfl (.and (.space rfl
      (ihright h.2 (hclose rest) (.rparen htokens))))))
  | or left right ihleft ihright =>
    have htext : encodeWhenAst (.or left right) ++ rest =
        openParen :: (encodeWhenAst left ++ 32 :: pipe :: pipe :: 32 ::
          (encodeWhenAst right ++ closeParen :: rest)) := by
      simp only [encodeWhenAst, List.append_assoc]
      rfl
    have hall : whenTokens (.or left right) ++ tokens =
        .lparen :: (whenTokens left ++ .or :: (whenTokens right ++ .rparen :: tokens)) := by
      simp [whenTokens]
    rw [htext, hall]
    exact .lparen (ihleft h.1 (hblank _) (.space rfl (.or (.space rfl
      (ihright h.2 (hclose rest) (.rparen htokens))))))

variable {ast : KeybindingWhenNode} {depth : Nat} {tokens : List WhenToken}

theorem unaryPhrase_whenTokens (h : whenHeight ast ≤ depth) :
    UnaryPhrase syntaxTrees (PrimaryPhrase syntaxTrees depth) (whenTokens ast) ast := by
  induction ast generalizing depth with
  | identifier name =>
    exact ⟨0, _, _, Nat.zero_le _, rfl, IdentifierPhrase.primary ⟨name, rfl, rfl⟩, rfl⟩
  | not node ih =>
    cases depth with
    | zero => exact absurd h (Nat.not_succ_le_zero _)
    | succ depth =>
      have hinner := ih (Nat.le_of_succ_le_succ h)
      exact ⟨1, _, node, by decide, rfl,
        Or.inr ⟨whenTokens node, rfl, .one (.one hinner)⟩, rfl⟩
  | and left right ihleft ihright =>
    cases depth with
    | zero => exact absurd h (Nat.not_succ_le_zero _)
    | succ depth =>
      obtain ⟨hleft, hright⟩ := Nat.max_le.mp (Nat.le_of_succ_le_succ h)
      exact ⟨0, _, _, Nat.zero_le _, rfl,
        Or.inr ⟨_, rfl, .one (.more (.one (ihleft hleft)) (ihright hright))⟩, rfl⟩
  | or left right ihleft ihright =>
    cases depth with
    | zero => exact absurd h (Nat.not_succ_le_zero _)
    | succ depth =>
      obtain ⟨hleft, hright⟩ := Nat.max_le.mp (Nat.le_of_succ_le_succ h)
      exact ⟨0, _, _, Nat.zero_le _, rfl,
        Or.inr ⟨_, rfl, .more (.one (.one (ihleft hleft))) (.one (ihright hright))⟩, rfl⟩

/-! ## How deep the parentheses go -/

def nesting : Nat → List WhenToken → Nat
  | level, [] => level
  | level, .lparen :: rest => max level (nesting (level + 1) rest)
  | level, .rparen :: rest => max level (nesting (level - 1) rest)
  | level, _ :: rest => max level (nesting level rest)

/-- The tokens close what they open and go `depth` deeper. -/
def Nests (depth : Nat) (tokens : List WhenToken) : Prop :=
  ∀ level rest, nesting level (tokens ++ rest) = max (level + depth) (nesting level rest)

theorem le_nesting (level : Nat) (tokens : List WhenToken) : level ≤ nesting level tokens := by
  cases tokens with
  | nil => exact Nat.le_refl _
  | cons token rest => cases token <;> exact Nat.le_max_left _ _

theorem nests_nil : Nests 0 [] := by
  intro level rest
  rw [List.nil_append, Nat.add_zero, Nat.max_eq_right (le_nesting level rest)]

theorem Nests.cons {depth : Nat} {tokens : List WhenToken} {token : WhenToken}
    (h : Nests depth tokens) (hopen : token ≠ .lparen) (hclose : token ≠ .rparen) :
    Nests depth (token :: tokens) := by
  intro level rest
  have hstep : ∀ rest, nesting level (token :: rest) = max level (nesting level rest) := by
    intro rest
    cases token <;> first | rfl | exact absurd rfl hopen | exact absurd rfl hclose
  rw [List.cons_append, hstep, h level rest]
  omega

theorem Nests.append {depth' : Nat} {tokens' : List WhenToken} (h : Nests depth tokens)
    (h' : Nests depth' tokens') : Nests (max depth depth') (tokens ++ tokens') := by
  intro level rest
  rw [List.append_assoc, h, h']
  omega

theorem Nests.group (h : Nests depth tokens) :
    Nests (depth + 1) (.lparen :: tokens ++ [.rparen]) := by
  intro level rest
  have hclose : nesting (level + 1) (.rparen :: rest) = max (level + 1) (nesting level rest) := rfl
  rw [List.append_assoc, List.cons_append, List.singleton_append, nesting, h, hclose]
  omega

theorem Nests.replicate (h : Nests depth tokens) (count : Nat) :
    Nests depth (List.replicate count .not ++ tokens) := by
  induction count with
  | zero => exact h
  | succ count ih =>
    rw [List.replicate_succ, List.cons_append]
    exact ih.cons (by simp) (by simp)

theorem nests_whenTokens (ast : KeybindingWhenNode) : Nests (whenHeight ast) (whenTokens ast) := by
  induction ast with
  | identifier name => exact nests_nil.cons (by simp) (by simp)
  | not node ih => exact ih.group.cons (by simp) (by simp)
  | and _ _ ihleft ihright | or _ _ ihleft ihright =>
    exact (ihleft.append (ihright.cons (by simp) (by simp))).group

variable {limit : Nat}

theorem LeftChain.nests {α : Type} {operator : WhenToken} {join : α → α → α}
    {phrase : List WhenToken → α → Prop} (hopen : operator ≠ .lparen)
    (hclose : operator ≠ .rparen)
    (hphrase : ∀ tokens value, phrase tokens value → ∃ depth ≤ limit, Nests depth tokens)
    {value : α} (h : LeftChain operator join phrase tokens value) :
    ∃ depth ≤ limit, Nests depth tokens := by
  induction h with
  | one h => exact hphrase _ _ h
  | more _ hback ih =>
    obtain ⟨depth, hle, hfront⟩ := ih
    obtain ⟨depth', hle', hback⟩ := hphrase _ _ hback
    exact ⟨max depth depth', Nat.max_le.mpr ⟨hle, hle'⟩, hfront.append (hback.cons hopen hclose)⟩

theorem OrPhrase.nests {α : Type} {algebra : WhenAlgebra α} {primary : List WhenToken → α → Prop}
    (hprimary : ∀ tokens value, primary tokens value → ∃ depth ≤ limit, Nests depth tokens)
    {value : α} (h : OrPhrase algebra primary tokens value) :
    ∃ depth ≤ limit, Nests depth tokens := by
  have hunary : ∀ tokens value, UnaryPhrase algebra primary tokens value →
      ∃ depth ≤ limit, Nests depth tokens := by
    rintro tokens value ⟨count, operand, inner, -, rfl, hoperand, -⟩
    obtain ⟨depth, hle, hnests⟩ := hprimary _ _ hoperand
    exact ⟨depth, hle, hnests.replicate count⟩
  exact LeftChain.nests (by simp) (by simp)
    (fun _ _ hand => LeftChain.nests (by simp) (by simp) hunary hand) h

theorem PrimaryPhrase.nests {α : Type} {algebra : WhenAlgebra α} (limit : Nat) :
    ∀ tokens value, PrimaryPhrase algebra limit tokens value →
      ∃ depth ≤ limit, Nests depth tokens := by
  induction limit with
  | zero =>
    rintro tokens value ⟨name, rfl, -⟩
    exact ⟨0, Nat.le_refl _, nests_nil.cons (by simp) (by simp)⟩
  | succ limit ih =>
    rintro tokens value (⟨name, rfl, -⟩ | ⟨inner, rfl, hinner⟩)
    · exact ⟨0, Nat.zero_le _, nests_nil.cons (by simp) (by simp)⟩
    · obtain ⟨depth, hle, hnests⟩ := OrPhrase.nests ih hinner
      exact ⟨depth + 1, Nat.succ_le_succ hle, hnests.group⟩

theorem derivable_whenTokens_iff (ast : KeybindingWhenNode) :
    Derivable syntaxTrees (whenTokens ast) ast ↔ whenHeight ast ≤ MAX_WHEN_EXPRESSION_DEPTH := by
  constructor
  · intro h
    obtain ⟨depth, hle, hnests⟩ := OrPhrase.nests (PrimaryPhrase.nests _) h
    have hheight := nests_whenTokens ast 0 []
    have hdepth := hnests 0 []
    rw [hheight] at hdepth
    simp only [nesting, Nat.zero_add, Nat.max_zero] at hdepth
    omega
  · intro h
    exact .one (.one (unaryPhrase_whenTokens h))

theorem trimText_encodeWhenAst (h : WellNamedNode ast) :
    trimText (encodeWhenAst ast) = encodeWhenAst ast := by
  apply trimWhere_of_trimmed
  cases ast with
  | identifier name =>
    exact ⟨fun u hu => h.not_space u (List.mem_of_mem_head? hu),
      fun u hu => h.not_space u (List.mem_of_mem_getLast? hu)⟩
  | not node =>
    exact @trimmedFor_enclosed _ isSpace bang closeParen rfl rfl
      (openParen :: encodeWhenAst node)
  | and left right =>
    rw [encodeWhenAst, List.append_assoc (ascii "("), List.append_assoc (ascii "(")]
    exact @trimmedFor_enclosed _ isSpace openParen closeParen rfl rfl
      (encodeWhenAst left ++ ascii " && " ++ encodeWhenAst right)
  | or left right =>
    rw [encodeWhenAst, List.append_assoc (ascii "("), List.append_assoc (ascii "(")]
    exact @trimmedFor_enclosed _ isSpace openParen closeParen rfl rfl
      (encodeWhenAst left ++ ascii " || " ++ encodeWhenAst right)

theorem acceptsWhenNode_of_wellNamed (h : WellNamedNode ast) : acceptsWhenNode ast = true := by
  induction ast with
  | identifier name =>
    obtain ⟨first, rest, rfl, -, -⟩ := h
    rfl
  | not node ih => exact ih h
  | and _ _ ihleft ihright | or _ _ ihleft ihright =>
    rw [acceptsWhenNode, ihleft h.1, ihright h.2]
    rfl

def encodedRule (resolved : ResolvedKeybindingRule) : EncodedKeybindingRule where
  key := modifierFront resolved.shortcut ++ keyName resolved.shortcut.key
  command := resolved.command.1
  when := resolved.whenAst.map encodeWhenAst

section Codec

variable [CaseMapping] [TrimSchema]

omit [CaseMapping] in
theorem acceptsBoundedText_iff {limit : Nat} {value : Text} (htrim : trimText value = value) :
    acceptsBoundedText limit value = true ↔ BoundedText limit value := by
  simp [acceptsBoundedText, BoundedText, htrim, TrimSchema.isTrimmed_of_trimText value htrim]

structure WellParsed (resolved : ResolvedKeybindingRule) : Prop where
  key : KeyToken (keyName resolved.shortcut.key)
  normalized : normalizeKeyToken (keyName resolved.shortcut.key) = resolved.shortcut.key
  named : ∀ ast ∈ resolved.whenAst, WellNamedNode ast

omit [TrimSchema] in
theorem wellParsed_of_compile {rule : KeybindingRule} {resolved : ResolvedKeybindingRule}
    (h : compileResolvedKeybindingRule rule = some resolved) : WellParsed resolved := by
  obtain ⟨-, hshortcut, hwhen⟩ := compileResolvedKeybindingRule_eq_some_iff.mp h
  obtain ⟨token, htoken, hkey⟩ := parseKeybindingShortcut_key hshortcut
  refine ⟨hkey ▸ htoken.keyName.1, hkey ▸ htoken.keyName.2, ?_⟩
  intro ast hast
  rw [Option.mem_def.mp hast, Option.map_some] at hwhen
  obtain ⟨when, -, hparse⟩ := Option.map_eq_some_iff.mp hwhen
  exact wellNamed_of_parse hparse

omit [CaseMapping] [TrimSchema] in
theorem parse_encodeWhenAst_iff {ast : KeybindingWhenNode} (h : WellNamedNode ast) :
    parseKeybindingWhenExpression (encodeWhenAst ast) = some ast ↔
      whenHeight ast ≤ MAX_WHEN_EXPRESSION_DEPTH := by
  have htokens : Tokenizes (encodeWhenAst ast) (whenTokens ast) := by
    have happend := @tokenizes_encodeWhenAst ast h [] [] (by simp) .nil
    rwa [List.append_nil, List.append_nil] at happend
  rw [parseKeybindingWhenExpression_iff, ← derivable_whenTokens_iff]
  constructor
  · rintro ⟨tokens, htokens', hderivable⟩
    cases Option.some.inj (htokens'.eq.symm.trans htokens.eq)
    exact hderivable
  · exact fun hderivable => ⟨_, htokens, hderivable⟩

structure FitsConfig (resolved : ResolvedKeybindingRule) : Prop where
  shortcut : shortcutSize resolved.shortcut ≤ MAX_KEYBINDING_VALUE_LENGTH
  when : ∀ ast ∈ resolved.whenAst, whenSize ast ≤ MAX_KEYBINDING_WHEN_LENGTH

omit [TrimSchema] in
theorem WellParsed.boundedText_key_iff {resolved : ResolvedKeybindingRule}
    (h : WellParsed resolved) (limit : Nat) :
    BoundedText limit (encodedRule resolved).key ↔ shortcutSize resolved.shortcut ≤ limit := by
  have htrim : trimText (encodedRule resolved).key = (encodedRule resolved).key :=
    trimWhere_of_trimmed (trimmedFor_append (trimmedFor_modifierFront _) h.key.trimmed)
  have hlength : (encodedRule resolved).key.length = shortcutSize resolved.shortcut :=
    length_encoded resolved.shortcut
  have hname : 0 < (keyName resolved.shortcut.key).length :=
    List.length_pos_iff.mpr h.key.nonempty
  have hpos : (keyName resolved.shortcut.key).length ≤ shortcutSize resolved.shortcut := by
    unfold shortcutSize
    omega
  rw [BoundedText, hlength]
  exact ⟨fun hbounded => hbounded.2.2, fun hle => ⟨htrim, by omega, hle⟩⟩

omit [CaseMapping] [TrimSchema] in
theorem boundedText_encodeWhenAst_iff {ast : KeybindingWhenNode} (h : WellNamedNode ast)
    (limit : Nat) : BoundedText limit (encodeWhenAst ast) ↔ whenSize ast ≤ limit := by
  have hpos : 1 ≤ whenSize ast := by
    cases ast with
    | identifier name =>
      obtain ⟨first, rest, rfl, -, -⟩ := h
      exact Nat.succ_le_succ (Nat.zero_le _)
    | _ => simp only [whenSize]; omega
  rw [BoundedText, length_encodeWhenAst]
  exact ⟨fun hbounded => hbounded.2.2, fun hle => ⟨trimText_encodeWhenAst h, hpos, hle⟩⟩

omit [TrimSchema] in
theorem WellParsed.length_key {resolved : ResolvedKeybindingRule} (h : WellParsed resolved) :
    1 ≤ resolved.shortcut.key.length ∧
      resolved.shortcut.key.length ≤ shortcutSize resolved.shortcut := by
  have hname : (keyName resolved.shortcut.key).length ≤ shortcutSize resolved.shortcut := by
    unfold shortcutSize
    omega
  by_cases hblank : resolved.shortcut.key = ascii " "
  · have hspace : (keyName resolved.shortcut.key).length = 5 := by
      rw [hblank]
      rfl
    rw [hblank, show (ascii " ").length = 1 from rfl]
    rw [hblank] at hspace hname
    omega
  · have hnonempty := h.key.nonempty
    rw [keyName, if_neg hblank] at hname hnonempty
    exact ⟨List.length_pos_iff.mpr hnonempty, hname⟩

variable {resolved : ResolvedKeybindingRule}

theorem WellParsed.accepts_iff (h : WellParsed resolved) :
    acceptsResolvedKeybindingRule resolved = true ↔
      TrimSchema.isTrimmed resolved.shortcut.key = true ∧
        resolved.shortcut.key.length ≤ MAX_KEYBINDING_VALUE_LENGTH := by
  have hast : resolved.whenAst.all acceptsWhenNode = true := by
    rw [Option.all_eq_true]
    exact fun ast hast => acceptsWhenNode_of_wellNamed (h.named ast hast)
  simp [acceptsResolvedKeybindingRule, acceptsBoundedText, hast, h.length_key.1]

theorem WellParsed.encode_iff (h : WellParsed resolved) {encoded : EncodedKeybindingRule} :
    encodeResolvedKeybindingRule resolved = some encoded ↔
      TrimSchema.isTrimmed resolved.shortcut.key = true ∧ FitsConfig resolved ∧
        encoded = encodedRule resolved := by
  have hwhen : (resolved.whenAst.map encodeWhenAst).all
      (acceptsBoundedText MAX_KEYBINDING_WHEN_LENGTH) = true ↔
        ∀ ast ∈ resolved.whenAst, whenSize ast ≤ MAX_KEYBINDING_WHEN_LENGTH := by
    rw [Option.all_map, Option.all_eq_true]
    refine forall₂_congr (fun ast hast => ?_)
    have hnamed := h.named ast hast
    exact (acceptsBoundedText_iff (trimText_encodeWhenAst hnamed)).trans
      (boundedText_encodeWhenAst_iff hnamed _)
  have hkey : acceptsBoundedText MAX_KEYBINDING_VALUE_LENGTH
      (modifierFront resolved.shortcut ++ keyName resolved.shortcut.key) = true ↔
        shortcutSize resolved.shortcut ≤ MAX_KEYBINDING_VALUE_LENGTH := by
    rw [acceptsBoundedText_iff]
    · exact h.boundedText_key_iff _
    · exact trimWhere_of_trimmed (trimmedFor_append (trimmedFor_modifierFront _) h.key.trimmed)
  have hnonempty : modifierFront resolved.shortcut ++ keyName resolved.shortcut.key ≠ [] :=
    fun hnil => h.key.nonempty (List.append_eq_nil_iff.mp hnil).2
  unfold encodeResolvedKeybindingRule
  rw [encodeShortcut_eq h.key]
  simp only [h.accepts_iff, if_neg hnonempty, Bool.and_eq_true, hkey, hwhen]
  constructor
  · intro heq
    split at heq
    · rename_i haccepts
      split at heq
      · rename_i hfits
        exact ⟨haccepts.1, ⟨hfits.1, hfits.2⟩, (Option.some.inj heq).symm⟩
      · cases heq
    · cases heq
  · rintro ⟨htrimmed, hfits, rfl⟩
    rw [if_pos ⟨htrimmed, Nat.le_trans h.length_key.2 hfits.shortcut⟩,
      if_pos ⟨hfits.shortcut, hfits.when⟩]
    rfl

omit [TrimSchema] in
theorem WellParsed.decode {resolved : ResolvedKeybindingRule} (h : WellParsed resolved)
    (hfits : FitsConfig resolved) :
    ∃ rule, decodeKeybindingRule (encodedRule resolved) = some rule ∧
      rule.key.1 = (encodedRule resolved).key ∧ rule.command = resolved.command ∧
      rule.when.map Subtype.val = resolved.whenAst.map encodeWhenAst := by
  have hkey := (h.boundedText_key_iff MAX_KEYBINDING_VALUE_LENGTH).mpr hfits.shortcut
  have hcommand : decodeKeybindingCommand (encodedRule resolved).command =
      some resolved.command := dif_pos resolved.command.2
  unfold decodeKeybindingRule
  rw [decodeBoundedText_eq hkey, hcommand]
  cases hast : resolved.whenAst with
  | none =>
    have hwhen : (encodedRule resolved).when = none := by simp [encodedRule, hast]
    rw [hwhen]
    exact ⟨_, rfl, rfl, rfl, rfl⟩
  | some ast =>
    have hwhen : (encodedRule resolved).when = some (encodeWhenAst ast) := by
      simp [encodedRule, hast]
    have hbounded := (boundedText_encodeWhenAst_iff (h.named ast hast)
      MAX_KEYBINDING_WHEN_LENGTH).mpr (hfits.when ast hast)
    rw [hwhen, decodeKeybindingWhen, decodeBoundedText_eq hbounded]
    exact ⟨_, rfl, rfl, rfl, rfl⟩

omit [TrimSchema] in
theorem WellParsed.compile_iff (h : WellParsed resolved) {rule : KeybindingRule}
    (hkey : rule.key.1 = (encodedRule resolved).key) (hcommand : rule.command = resolved.command)
    (hwhen : rule.when.map Subtype.val = resolved.whenAst.map encodeWhenAst) :
    compileResolvedKeybindingRule rule = some resolved ↔
      ∀ ast ∈ resolved.whenAst, whenHeight ast ≤ MAX_WHEN_EXPRESSION_DEPTH := by
  have hparsed : rule.when.map (fun when => parseKeybindingWhenExpression when.1) =
      resolved.whenAst.map (fun ast => parseKeybindingWhenExpression (encodeWhenAst ast)) := by
    have hmap := congrArg (Option.map parseKeybindingWhenExpression) hwhen
    rwa [Option.map_map, Option.map_map] at hmap
  have hshortcut : parseKeybindingShortcut rule.key.1 = some resolved.shortcut := by
    rw [hkey]
    exact parseKeybindingShortcut_encoded h.key h.normalized
  rw [compileResolvedKeybindingRule_eq_some_iff, hparsed]
  constructor
  · rintro ⟨-, -, heq⟩ ast hast
    rw [Option.mem_def.mp hast, Option.map_some, Option.map_some, Option.some_inj] at heq
    exact (parse_encodeWhenAst_iff (h.named ast hast)).mp heq
  · intro hheight
    refine ⟨hcommand, hshortcut, Option.map_congr (fun ast hast => ?_)⟩
    exact (parse_encodeWhenAst_iff (h.named ast hast)).mpr (hheight ast hast)

/-- Encoding gives a rule of the config that is decoded to the same resolved rule. -/
def RoundTrips (resolved : ResolvedKeybindingRule) : Prop :=
  ∃ encoded rule, encodeResolvedKeybindingRule resolved = some encoded ∧
    decodeKeybindingRule encoded = some rule ∧ resolveKeybindingRule rule = some resolved

/-- The key is no bare blank, and what the two texts come to when they are written anew is
within the limits. -/
structure Rewritable (resolved : ResolvedKeybindingRule) : Prop where
  key : TrimSchema.isTrimmed resolved.shortcut.key = true
  shortcut : shortcutSize resolved.shortcut ≤ MAX_KEYBINDING_VALUE_LENGTH
  when : ∀ ast ∈ resolved.whenAst,
    whenSize ast ≤ MAX_KEYBINDING_WHEN_LENGTH ∧ whenHeight ast ≤ MAX_WHEN_EXPRESSION_DEPTH

/-- A compiled rule survives encoding and decoding exactly where it can be written anew. -/
theorem roundTrips_iff (rule : KeybindingRule) (resolved : ResolvedKeybindingRule)
    (hcompile : compileResolvedKeybindingRule rule = some resolved) :
    RoundTrips resolved ↔ Rewritable resolved := by
  have h := wellParsed_of_compile hcompile
  constructor
  · rintro ⟨encoded, rule', hencode, hdecode, hresolve⟩
    obtain ⟨hkey, hfits, rfl⟩ := h.encode_iff.mp hencode
    obtain ⟨written, hwritten, hwkey, hwcommand, hwwhen⟩ := h.decode hfits
    cases Option.some.inj (hdecode.symm.trans hwritten)
    have hheight := (h.compile_iff hwkey hwcommand hwwhen).mp
      (Option.filter_eq_some_iff.mp hresolve).1
    exact ⟨hkey, hfits.shortcut, fun ast hast => ⟨hfits.when ast hast, hheight ast hast⟩⟩
  · intro hrewritable
    have hfits : FitsConfig resolved :=
      ⟨hrewritable.shortcut, fun ast hast => (hrewritable.when ast hast).1⟩
    obtain ⟨written, hwritten, hwkey, hwcommand, hwwhen⟩ := h.decode hfits
    refine ⟨_, written, h.encode_iff.mpr ⟨hrewritable.key, hfits, rfl⟩, hwritten, ?_⟩
    refine Option.filter_eq_some_iff.mpr ⟨?_, ?_⟩
    · exact (h.compile_iff hwkey hwcommand hwwhen).mpr
        (fun ast hast => (hrewritable.when ast hast).2)
    · exact h.accepts_iff.mpr
        ⟨hrewritable.key, Nat.le_trans h.length_key.2 hrewritable.shortcut⟩

end Codec

attribute [local instance] asciiCaseMapping strictTrimSchema

def modJ : KeybindingShortcut where
  key := ascii "j"
  metaKey := false
  ctrlKey := false
  shiftKey := false
  altKey := false
  modKey := true

def terminalFocus : Text := ascii "terminalFocus"

/-- The rule on `mod+j` with the expression `!(terminalFocus)`. -/
theorem roundTrips_negation :
    @RoundTrips asciiCaseMapping strictTrimSchema
      ⟨terminalToggle, modJ, some (.not (.identifier terminalFocus))⟩ :=
  (@roundTrips_iff asciiCaseMapping strictTrimSchema
    ⟨⟨ascii "mod+j", by decide⟩, terminalToggle, some ⟨ascii "!(terminalFocus)", by decide⟩⟩
    ⟨terminalToggle, modJ, some (.not (.identifier terminalFocus))⟩
    (by
      rw [compileResolvedKeybindingRule_eq_some_iff]
      refine ⟨rfl, by decide, congrArg some ?_⟩
      have hnamed : WellNamedNode (.not (.identifier terminalFocus)) :=
        ⟨116, _, rfl, by decide, by decide⟩
      exact (parse_encodeWhenAst_iff hnamed).mpr (by decide))).mpr
    ⟨by decide, by decide, by decide⟩

/-- `terminalFocus && terminalFocus && ...` -/
def conjunction : Nat → Text
  | 0 => terminalFocus
  | count + 1 => conjunction count ++ ascii " && " ++ terminalFocus

def conjunctionTree : Nat → KeybindingWhenNode
  | 0 => .identifier terminalFocus
  | count + 1 => .and (conjunctionTree count) (.identifier terminalFocus)

theorem parse_conjunction (count : Nat) :
    parseKeybindingWhenExpression (conjunction count) = some (conjunctionTree count) := by
  have hname : Tokenizes terminalFocus [.identifier terminalFocus] := by
    have hidentifier : IsIdentifier terminalFocus := ⟨116, _, rfl, by decide, by decide⟩
    have hsingle := Tokenizes.identifier hidentifier (by simp) .nil
    rwa [List.append_nil] at hsingle
  have hunary : UnaryPhrase syntaxTrees (PrimaryPhrase syntaxTrees MAX_WHEN_EXPRESSION_DEPTH)
      [.identifier terminalFocus] (.identifier terminalFocus) :=
    ⟨0, _, _, Nat.zero_le _, rfl, IdentifierPhrase.primary ⟨terminalFocus, rfl, rfl⟩, rfl⟩
  have hchain : ∃ tokens, Tokenizes (conjunction count) tokens ∧
      AndPhrase syntaxTrees (PrimaryPhrase syntaxTrees MAX_WHEN_EXPRESSION_DEPTH) tokens
        (conjunctionTree count) := by
    induction count with
    | zero => exact ⟨_, hname, .one hunary⟩
    | succ count ih =>
      obtain ⟨tokens, htokens, hand⟩ := ih
      have hmore : AndPhrase syntaxTrees (PrimaryPhrase syntaxTrees MAX_WHEN_EXPRESSION_DEPTH)
          (tokens ++ .and :: [.identifier terminalFocus]) (conjunctionTree (count + 1)) :=
        LeftChain.more hand hunary
      refine ⟨tokens ++ .and :: [.identifier terminalFocus], ?_, hmore⟩
      rw [conjunction, List.append_assoc]
      refine htokens.append ?_ (by decide)
      exact .space rfl (.and (.space rfl hname))
  obtain ⟨tokens, htokens, hand⟩ := hchain
  exact parseKeybindingWhenExpression_iff.mpr ⟨tokens, htokens, .one hand⟩

/-- Fourteen names joined by `&&` are 234 units, and 260 once each `&&` is in parentheses. -/
theorem not_roundTrips :
    ¬ ∀ (_ : CaseMapping) (_ : TrimSchema) (rule : KeybindingRule)
        (resolved : ResolvedKeybindingRule),
        compileResolvedKeybindingRule rule = some resolved → RoundTrips resolved := by
  intro h
  obtain ⟨encoded, -, hencode, -⟩ := @h asciiCaseMapping strictTrimSchema
    ⟨⟨ascii "mod+j", by decide⟩, terminalToggle, some ⟨conjunction 13, by decide +kernel⟩⟩
    ⟨terminalToggle, modJ, some (conjunctionTree 13)⟩ (by
      rw [compileResolvedKeybindingRule_eq_some_iff]
      exact ⟨rfl, by decide, congrArg some (parse_conjunction 13)⟩)
  have hnone : @encodeResolvedKeybindingRule strictTrimSchema
      ⟨terminalToggle, modJ, some (conjunctionTree 13)⟩ = none := by decide +kernel
  rw [hnone] at hencode
  cases hencode

end GT3Code.Server
