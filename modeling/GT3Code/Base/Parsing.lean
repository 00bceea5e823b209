import Mathlib.Data.List.Basic

/-! # Recursive descent

A parser takes some tokens off the front and says which are left, fewer than it was
given, so a loop over operands ends. Operands joined by one operator are read from the
left. What such a loop accepts is related to a chain of phrases: the loop's run as a
relation first, then soundness and completeness for any operand.
-/

namespace GT3Code.Base

variable {τ ν : Type}

/-- What was made of the front of the tokens, and the tokens left. -/
structure Parsed (ν : Type) (tokens : List τ) where
  node : ν
  rest : List τ
  shorter : rest.length < tokens.length

abbrev Parser (τ ν : Type) := (tokens : List τ) → Option (Parsed ν tokens)

/-- The parser makes `node` of the front of `tokens` and leaves `rest`. -/
def Yields (parser : Parser τ ν) (tokens : List τ) (node : ν) (rest : List τ) : Prop :=
  ∃ shorter, parser tokens = some ⟨node, rest, shorter⟩

variable {tokens : List τ} {node : ν} {operator : τ} {join : ν → ν → ν}

variable {parser : Parser τ ν}

theorem yields_of_eq {parsed : Parsed ν tokens} (h : parser tokens = some parsed) :
    Yields parser tokens parsed.node parsed.rest :=
  ⟨parsed.shorter, h⟩

theorem Yields.unique {rest rest' : List τ} {node' : ν} (h : Yields parser tokens node rest)
    (h' : Yields parser tokens node' rest') : node = node' ∧ rest = rest' := by
  obtain ⟨shorter, heq⟩ := h
  obtain ⟨shorter', heq'⟩ := h'
  have hparsed := Option.some.inj (heq.symm.trans heq')
  cases hparsed
  exact ⟨rfl, rfl⟩

section Operands

variable [DecidableEq τ] (operator : τ) (join : ν → ν → ν)

/-- The loop after the first operand: while the operator follows, another operand. -/
def operandsFrom (operand : Parser τ ν) (left : ν) :
    (tokens : List τ) → Option (ν × { rest : List τ // rest.length ≤ tokens.length })
  | [] => some (left, ⟨[], Nat.le_refl _⟩)
  | token :: tokens =>
    if token = operator then
      match operand tokens with
      | none => none
      | some right =>
        match operandsFrom operand (join left right.node) right.rest with
        | none => none
        | some (node, rest) =>
          some (node, ⟨rest.1, by
            have hrest := rest.2
            have hright := right.shorter
            rw [List.length_cons]
            omega⟩)
    else some (left, ⟨token :: tokens, Nat.le_refl _⟩)
  termination_by tokens => tokens.length
  decreasing_by
    have hright := right.shorter
    rw [List.length_cons]
    omega

def operands (operand : Parser τ ν) : Parser τ ν := fun tokens =>
  match operand tokens with
  | none => none
  | some left =>
    match operandsFrom operator join operand left.node left.rest with
    | none => none
    | some (node, rest) => some ⟨node, rest.1, Nat.lt_of_le_of_lt rest.2 left.shorter⟩

inductive OperandsFrom (operand : List τ → ν → List τ → Prop) :
    ν → List τ → ν → List τ → Prop where
  | stop {left : ν} {tokens : List τ} (hhead : tokens.head? ≠ some operator) :
      OperandsFrom operand left tokens left tokens
  | next {left right node : ν} {tokens middle rest : List τ} (hright : operand tokens right middle)
      (hrest : OperandsFrom operand (join left right) middle node rest) :
      OperandsFrom operand left (operator :: tokens) node rest

variable {operator join}

variable {operand : Parser τ ν} {node : ν} {tokens rest : List τ}

variable {left : ν}

theorem operandsFrom_of_eq (length : Nat) (hlength : tokens.length = length)
    {hle : rest.length ≤ tokens.length}
    (h : operandsFrom operator join operand left tokens = some (node, ⟨rest, hle⟩)) :
    OperandsFrom operator join (Yields operand) left tokens node rest := by
  induction length using Nat.strongRecOn generalizing left tokens with
  | ind length ih =>
    cases tokens with
    | nil =>
      rw [operandsFrom] at h
      cases h
      exact .stop (by simp)
    | cons token tokens =>
      rw [operandsFrom] at h
      by_cases htoken : token = operator
      · subst htoken
        rw [if_pos rfl] at h
        cases hoperand : operand tokens with
        | none => simp [hoperand] at h
        | some right =>
          cases hloop : operandsFrom token join operand (join left right.node)
              right.rest with
          | none => simp [hoperand, hloop] at h
          | some result =>
            simp only [hoperand, hloop, Option.some.injEq, Prod.mk.injEq,
              Subtype.mk.injEq] at h
            obtain ⟨rfl, rfl⟩ := h
            have hshorter := right.shorter
            rw [List.length_cons] at hlength
            exact .next (yields_of_eq hoperand)
              (ih right.rest.length (by omega) rfl hloop)
      · rw [if_neg htoken] at h
        cases h
        exact .stop (by simpa using htoken)

theorem OperandsFrom.eq (h : OperandsFrom operator join (Yields operand) left tokens node rest) :
    ∃ hle, operandsFrom operator join operand left tokens = some (node, ⟨rest, hle⟩) := by
  induction h with
  | @stop left tokens hhead =>
    refine ⟨Nat.le_refl _, ?_⟩
    cases tokens with
    | nil => rw [operandsFrom]
    | cons token tokens => rw [operandsFrom, if_neg (by simpa using hhead)]
  | next hright _ ih =>
    obtain ⟨hle, hloop⟩ := ih
    obtain ⟨shorter, hoperand⟩ := hright
    refine ⟨by rw [List.length_cons]; omega, ?_⟩
    rw [operandsFrom, if_pos rfl]
    simp only [hoperand, hloop]

theorem yields_operands_iff :
    Yields (operands operator join operand) tokens node rest ↔
      ∃ left middle, Yields operand tokens left middle ∧
        OperandsFrom operator join (Yields operand) left middle node rest := by
  constructor
  · rintro ⟨shorter, h⟩
    unfold operands at h
    cases hoperand : operand tokens with
    | none => simp [hoperand] at h
    | some left =>
      cases hloop : operandsFrom operator join operand left.node left.rest with
      | none => simp [hoperand, hloop] at h
      | some result =>
        simp only [hoperand, hloop, Option.some.injEq, Parsed.mk.injEq] at h
        obtain ⟨rfl, rfl⟩ := h
        exact ⟨left.node, left.rest, yields_of_eq hoperand, operandsFrom_of_eq _ rfl hloop⟩
  · rintro ⟨left, middle, ⟨shorter, hoperand⟩, hloop⟩
    obtain ⟨hle, hloop⟩ := hloop.eq
    refine ⟨Nat.lt_of_le_of_lt hle shorter, ?_⟩
    simp only [operands, hoperand, hloop]

end Operands

/-- `phrase (operator phrase)*`, joined from the left. -/
inductive LeftChain (operator : τ) (join : ν → ν → ν) (phrase : List τ → ν → Prop) :
    List τ → ν → Prop where
  | one {tokens : List τ} {node : ν} (hphrase : phrase tokens node) :
      LeftChain operator join phrase tokens node
  | more {front back : List τ} {left right : ν} (hfront : LeftChain operator join phrase front left)
      (hback : phrase back right) :
      LeftChain operator join phrase (front ++ operator :: back) (join left right)

theorem LeftChain.exists_phrase {phrase : List τ → ν → Prop}
    (h : LeftChain operator join phrase tokens node) : ∃ part left, phrase part left := by
  induction h with
  | one h => exact ⟨_, _, h⟩
  | more _ hback _ => exact ⟨_, _, hback⟩

theorem LeftChain.ne_nil {phrase : List τ → ν → Prop}
    (hphrase : ∀ tokens node, phrase tokens node → tokens ≠ [])
    (h : LeftChain operator join phrase tokens node) : tokens ≠ [] := by
  cases h with
  | one h => exact hphrase _ _ h
  | more hfront hback => simp

theorem LeftChain.of_forall {phrase : List τ → ν → Prop} {P : τ → Prop} {Q : ν → Prop}
    (hphrase : ∀ tokens node, phrase tokens node → (∀ token ∈ tokens, P token) → Q node)
    (hjoin : ∀ left right, Q left → Q right → Q (join left right))
    (h : LeftChain operator join phrase tokens node) (htokens : ∀ token ∈ tokens, P token) :
    Q node := by
  induction h with
  | one h => exact hphrase _ _ h htokens
  | more _ hback ih =>
    refine hjoin _ _ (ih (fun token hmem => htokens token (List.mem_append_left _ hmem)))
      (hphrase _ _ hback (fun token hmem => htokens token ?_))
    exact List.mem_append_right _ (List.mem_cons_of_mem _ hmem)

def SoundFor (phrase : List τ → ν → Prop) (parser : Parser τ ν) : Prop :=
  ∀ tokens node rest, Yields parser tokens node rest →
    ∃ front, tokens = front ++ rest ∧ phrase front node

/-- It takes a phrase off the front wherever what follows satisfies `follows`. -/
def CompleteFor (phrase : List τ → ν → Prop) (follows : List τ → Prop) (parser : Parser τ ν) :
    Prop :=
  ∀ front node rest, phrase front node → follows rest → Yields parser (front ++ rest) node rest

section Chains

variable [DecidableEq τ] {operator : τ} {join : ν → ν → ν} {phrase : List τ → ν → Prop}
  {operand : Parser τ ν}

omit [DecidableEq τ] in
theorem SoundFor.operandsFrom (hsound : SoundFor phrase operand) {left node : ν}
    {front tokens rest : List τ} (hfront : LeftChain operator join phrase front left)
    (h : OperandsFrom operator join (Yields operand) left tokens node rest) :
    ∃ more, tokens = more ++ rest ∧ LeftChain operator join phrase (front ++ more) node := by
  induction h generalizing front with
  | stop => exact ⟨[], rfl, by rwa [List.append_nil]⟩
  | @next left right node tokens middle rest hright _ ih =>
    obtain ⟨back, htokens, hback⟩ := hsound _ _ _ hright
    obtain ⟨more, hmiddle, hchain⟩ := ih (.more hfront hback)
    refine ⟨operator :: back ++ more, ?_, ?_⟩
    · rw [htokens, hmiddle, List.cons_append, List.cons_append, List.append_assoc]
    · rwa [List.append_assoc, List.cons_append] at hchain

theorem SoundFor.operands (hsound : SoundFor phrase operand) :
    SoundFor (LeftChain operator join phrase) (operands operator join operand) := by
  intro tokens node rest h
  obtain ⟨left, middle, hleft, hloop⟩ := yields_operands_iff.mp h
  obtain ⟨front, htokens, hfront⟩ := hsound _ _ _ hleft
  obtain ⟨more, hmiddle, hchain⟩ := hsound.operandsFrom (.one hfront) hloop
  exact ⟨front ++ more, by rw [htokens, hmiddle, List.append_assoc], hchain⟩

/-- The loop is reached after any chain. The induction is on the chain, which grows to the
right as the loop goes on. -/
theorem CompleteFor.reaches {follows : List τ → Prop}
    (hcomplete : CompleteFor phrase follows operand)
    (hoperator : ∀ tokens, follows (operator :: tokens)) {front : List τ} {left : ν}
    (hfront : LeftChain operator join phrase front left) {tokens rest : List τ} {node : ν}
    (hfollows : follows tokens)
    (hloop : OperandsFrom operator join (Yields operand) left tokens node rest) :
    Yields (Base.operands operator join operand) (front ++ tokens) node rest := by
  induction hfront generalizing tokens with
  | one hphrase =>
    exact yields_operands_iff.mpr ⟨_, _, hcomplete _ _ _ hphrase hfollows, hloop⟩
  | @more front back left right _ hback ih =>
    rw [List.append_assoc, List.cons_append]
    exact ih (hoperator _) (.next (hcomplete _ _ _ hback hfollows) hloop)

theorem CompleteFor.operands {follows : List τ → Prop}
    (hcomplete : CompleteFor phrase follows operand)
    (hoperator : ∀ tokens, follows (operator :: tokens)) :
    CompleteFor (LeftChain operator join phrase)
      (fun rest => follows rest ∧ rest.head? ≠ some operator)
      (Base.operands operator join operand) := by
  intro front node rest hchain hrest
  exact hcomplete.reaches hoperator hchain hrest.1 (.stop hrest.2)

end Chains

theorem LeftChain.exists_related {μ : Type} {join' : μ → μ → μ} {phrase : List τ → ν → Prop}
    {phrase' : List τ → μ → Prop} {related : ν → μ → Prop}
    (hphrase : ∀ tokens node, phrase tokens node →
      ∃ node', phrase' tokens node' ∧ related node node')
    (hjoin : ∀ left left' right right', related left left' → related right right' →
      related (join left right) (join' left' right'))
    (h : LeftChain operator join phrase tokens node) :
    ∃ node', LeftChain operator join' phrase' tokens node' ∧ related node node' := by
  induction h with
  | one h =>
    obtain ⟨node', hnode', hrelated⟩ := hphrase _ _ h
    exact ⟨node', .one hnode', hrelated⟩
  | more _ hback ih =>
    obtain ⟨left', hleft', hleft⟩ := ih
    obtain ⟨right', hright', hright⟩ := hphrase _ _ hback
    exact ⟨join' left' right', .more hleft' hright', hjoin _ _ _ _ hleft hright⟩

end GT3Code.Base
