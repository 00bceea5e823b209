import GT3Code.Base.Runs

/-! # Bracketed items

Items are opened, have events of their own and are closed, one at a time and each once.
-/

namespace GT3Code.Base

universe u

variable {ι : Type u}

inductive BracketEvent (ι : Type u) where
  | opened (item : ι)
  | within (item : ι)
  | closed (item : ι)
  deriving DecidableEq

structure Brackets (ι : Type u) where
  active : Option ι
  used : List ι

namespace Brackets

def initial : Brackets ι where
  active := none
  used := []

variable [DecidableEq ι]

def step (state : Brackets ι) : BracketEvent ι → Option (Brackets ι)
  | .opened item =>
    if state.active = none ∧ item ∉ state.used then
      some { active := some item, used := state.used ++ [item] }
    else none
  | .within item => if state.active = some item then some state else none
  | .closed item => if state.active = some item then some { state with active := none } else none

variable {state next : Brackets ι} {event : BracketEvent ι} {events : List (BracketEvent ι)}

variable {item : ι}

theorem step_opened (hactive : state.active = none) (hused : item ∉ state.used) :
    state.step (.opened item) = some { active := some item, used := state.used ++ [item] } :=
  if_pos ⟨hactive, hused⟩

theorem step_within (hactive : state.active = some item) : state.step (.within item) = some state :=
  if_pos hactive

theorem step_closed (hactive : state.active = some item) :
    state.step (.closed item) = some { state with active := none } :=
  if_pos hactive

end Brackets

def BracketEvent.opened? : BracketEvent ι → Option ι
  | .opened item => some item
  | _ => none

variable [DecidableEq ι]

/-- Every event is in its place: items are opened once and with no other open, and have events and
are closed while they are open only. -/
def Bracketed (events : List (BracketEvent ι)) : Prop :=
  ∃ state, exec Brackets.step Brackets.initial events = some state

namespace Brackets

variable {state next : Brackets ι} {event : BracketEvent ι} {events : List (BracketEvent ι)}

theorem used_of_step (h : state.step event = some next) :
    next.used = state.used ++ event.opened?.toList := by
  cases event with
  | opened item =>
    simp only [step] at h
    split at h
    · cases h
      rfl
    · cases h
  | within | closed =>
    simp only [step] at h
    split at h
    · cases h
      exact (List.append_nil _).symm
    · cases h

theorem used_of_exec (h : exec step state events = some next) :
    next.used = state.used ++ events.filterMap BracketEvent.opened? := by
  induction events generalizing state with
  | nil =>
    cases h
    exact (List.append_nil _).symm
  | cons event events ih =>
    obtain ⟨middle, hstep, hrest⟩ := exec_cons_eq_some h
    rw [ih hrest, used_of_step hstep, List.append_assoc]
    cases event <;> rfl

end Brackets

namespace Bracketed

variable {events more : List (BracketEvent ι)}

theorem of_append (h : Bracketed (events ++ more)) : Bracketed events := by
  obtain ⟨state, hstate⟩ := h
  rw [exec_append] at hstate
  obtain ⟨middle, hmiddle, -⟩ := Option.bind_eq_some_iff.mp hstate
  exact ⟨middle, hmiddle⟩

end Bracketed

end GT3Code.Base
