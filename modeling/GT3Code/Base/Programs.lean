/-! # Programs with failures

A program runs from a state to a state and a result, or to a state and a failure: what it
did before it failed stays. A relation of states that every part of a program respects is
respected by the program.
-/

namespace GT3Code.Base

universe u

variable {ε σ α β : Type u}

def finalState : EStateM.Result ε σ α → σ
  | .ok _ state => state
  | .error _ state => state

def Moves (R : σ → σ → Prop) (program : EStateM ε σ α) : Prop :=
  ∀ state, R state (finalState (program state))

/-- The same, with a relation of its own where the program succeeds. -/
def Leads (R S : σ → σ → Prop) (program : EStateM ε σ α) : Prop :=
  ∀ state,
    match program state with
    | .ok _ next => S state next
    | .error _ next => R state next

variable {R S T : σ → σ → Prop}

variable {program : EStateM ε σ α} {rest : α → EStateM ε σ β} {state next : σ} {value : α}
  {error : ε}

theorem bind_ok (h : program state = .ok value next) :
    (program >>= rest) state = rest value next := by
  show EStateM.bind program rest state = _
  simp only [EStateM.bind, h]

theorem bind_error (h : program state = .error error next) :
    (program >>= rest) state = .error error next := by
  show EStateM.bind program rest state = _
  simp only [EStateM.bind, h]

variable {handler : ε → EStateM ε σ α} {change : α → β}

theorem tryCatch_ok (h : program state = .ok value next) :
    (tryCatch program handler) state = .ok value next := by
  show EStateM.tryCatch program handler state = _
  delta EStateM.tryCatch
  simp only [h]

theorem tryCatch_error (h : program state = .error error next) :
    (tryCatch program handler) state = handler error next := by
  show EStateM.tryCatch program handler state = _
  delta EStateM.tryCatch
  simp only [h]
  rfl

theorem map_ok (h : program state = .ok value next) :
    (change <$> program) state = .ok (change value) next := by
  show EStateM.map change program state = _
  simp only [EStateM.map, h]

theorem map_error (h : program state = .error error next) :
    (change <$> program) state = .error error next := by
  show EStateM.map change program state = _
  simp only [EStateM.map, h]

theorem finalState_dropFailure (program : EStateM ε σ α) (handler : ε → α) (state : σ) :
    finalState ((tryCatch program fun error => pure (handler error)) state) =
      finalState (program state) := by
  cases hrun : program state with
  | ok value next => rw [tryCatch_ok hrun]
  | error error next =>
    rw [tryCatch_error hrun]
    rfl

theorem finalState_handled {handler : ε → EStateM ε σ PUnit} {rest : Option α → EStateM ε σ β}
    {result : β} (h : program state = .error error next) (hrest : rest none = pure result) :
    finalState ((tryCatch (some <$> program)
        (fun error => handler error >>= fun _ => pure none) >>= rest) state) =
      finalState (handler error next) := by
  have hcaught : (tryCatch (some <$> program) fun error => handler error >>= fun _ => pure none)
      state = (handler error >>= fun _ => pure none) next := tryCatch_error (map_error h)
  cases hrun : handler error next with
  | ok value last =>
    rw [bind_ok hrun] at hcaught
    rw [bind_ok hcaught, hrest]
    rfl
  | error failure last =>
    rw [bind_error hrun] at hcaught
    rw [bind_error hcaught]
    rfl

theorem Moves.imp (himp : ∀ state next, R state next → S state next) (h : Moves R program) :
    Moves S program :=
  fun state => himp _ _ (h state)

theorem moves_pure (hrefl : ∀ state, R state state) (value : α) :
    Moves R (pure value : EStateM ε σ α) := hrefl

theorem moves_throw (hrefl : ∀ state, R state state) (error : ε) :
    Moves R (throw error : EStateM ε σ α) := hrefl

theorem moves_modify {change : σ → σ} (h : ∀ state, R state (change state)) :
    Moves R (modify change : EStateM ε σ PUnit) := h

theorem moves_get (hrefl : ∀ state, R state state) : Moves R (get : EStateM ε σ σ) := hrefl

theorem Leads.bind
    (hcompose : ∀ first second third, S first second → T second third →
      R first third)
    (h : Leads R S program) (hrest : ∀ value, Moves T (rest value)) :
    Moves R (program >>= rest) := by
  intro state
  have hlead := h state
  cases hrun : program state with
  | ok value next =>
    rw [hrun] at hlead
    rw [bind_ok hrun]
    exact hcompose _ _ _ hlead (hrest value next)
  | error error next =>
    rw [hrun] at hlead
    rw [bind_error hrun]
    exact hlead

theorem Moves.leads (h : Moves R program) : Leads R R program := by
  intro state
  have hmove := h state
  cases hrun : program state with
  | ok | error =>
    rw [hrun] at hmove
    exact hmove

theorem Moves.bind
    (htrans : ∀ first second third, R first second → R second third →
      R first third)
    (h : Moves R program) (hrest : ∀ value, Moves R (rest value)) : Moves R (program >>= rest) :=
  h.leads.bind htrans hrest

end GT3Code.Base
