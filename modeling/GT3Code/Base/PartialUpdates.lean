import GT3Code.Base.Runs

/-! # Overlapping partial updates

A call reads a record, and later writes what it read with some of the fields replaced. Calls
overlap: what is written between the two steps of a call is undone in every field the call
does not set.
-/

namespace GT3Code.Base

universe u v w x y

structure Merging (Row : Type u) (Update : Type v) (Stamp : Type w) (Field : Type x)
    (Value : Type y) where
  merge : Stamp → Row → Update → Row
  field : Row → Field → Value
  sets : Update → Field → Option Value
  field_merge : ∀ stamp row update f,
    field (merge stamp row update) f = (sets update f).getD (field row f)

/-- A call that has read the record; `startedAt` counts the calls that had finished then. -/
structure PendingUpdate (Row : Type u) (Update : Type v) where
  update : Update
  read : Row
  startedAt : Nat

structure FinishedUpdate (Update : Type v) where
  update : Update
  startedAt : Nat

/-- The record, the calls under way, and the others in the order they finished. -/
structure Updates (Row : Type u) (Update : Type v) where
  row : Row
  pending : List (PendingUpdate Row Update)
  finished : List (FinishedUpdate Update)

inductive UpdateAction (Update : Type v) (Stamp : Type w) where
  | start (update : Update)
  | finish (index : Nat) (stamp : Stamp)

namespace Updates

variable {Row : Type u} {Update : Type v} {Stamp : Type w} {Field : Type x} {Value : Type y}
variable (merging : Merging Row Update Stamp Field Value)

def initial (row : Row) : Updates Row Update := { row := row, pending := [], finished := [] }

def finish (state : Updates Row Update) (index : Nat) (call : PendingUpdate Row Update)
    (stamp : Stamp) : Updates Row Update :=
  { row := merging.merge stamp call.read call.update
    pending := state.pending.eraseIdx index
    finished := state.finished ++ [{ update := call.update, startedAt := call.startedAt }] }

def step (state : Updates Row Update) :
    UpdateAction Update Stamp → Option (Updates Row Update)
  | .start update => some
      { state with
        pending := state.pending ++
          [{ update := update, read := state.row, startedAt := state.finished.length }] }
  | .finish index stamp =>
    state.pending[index]?.map fun call => state.finish merging index call stamp

def lastSet (f : Field) (finished : List (FinishedUpdate Update)) : Option Value :=
  finished.reverse.findSome? fun call => merging.sets call.update f

/-- The field holds what one of the calls set, and every other call that sets it started before
that call had finished. -/
def Settled (state : Updates Row Update) (f : Field) : Prop :=
  ∃ (i : Nat) (call : FinishedUpdate Update), state.finished[i]? = some call ∧
    merging.sets call.update f = some (merging.field state.row f) ∧
    ∀ (j : Nat) (other : FinishedUpdate Update), state.finished[j]? = some other →
      (merging.sets other.update f).isSome → other.startedAt ≤ i

/-- At every moment a field holds what the last finished call that set it has set; and once no
call is under way, a value that no later call should have replaced. -/
structure NothingLost (state : Updates Row Update) : Prop where
  current : ∀ f value, lastSet merging f state.finished = some value →
    merging.field state.row f = value
  settled : state.pending = [] → ∀ f,
    (∃ call ∈ state.finished, (merging.sets call.update f).isSome) → state.Settled merging f

/-- A call writes only where the fields it does not set are still as it has read them. -/
def Undisturbed (state : Updates Row Update) : UpdateAction Update Stamp → Prop
  | .start _ => True
  | .finish index _ =>
    ∀ call, state.pending[index]? = some call → ∀ f, merging.sets call.update f = none →
      merging.field call.read f = merging.field state.row f

variable {merging}

theorem lastSet_append (f : Field) (finished : List (FinishedUpdate Update))
    (call : FinishedUpdate Update) :
    lastSet merging f (finished ++ [call]) =
      (merging.sets call.update f).or (lastSet merging f finished) := by
  unfold lastSet
  rw [List.reverse_append, List.reverse_singleton, List.singleton_append, List.findSome?_cons]
  cases merging.sets call.update f with
  | none => rfl
  | some value => rfl

variable {f : Field} {index : Nat} {call : PendingUpdate Row Update}

theorem lastSet_eq_some {finished : List (FinishedUpdate Update)}
    (h : ∃ call ∈ finished, (merging.sets call.update f).isSome) :
    ∃ (i : Nat) (call : FinishedUpdate Update) (value : Value),
      finished[i]? = some call ∧ merging.sets call.update f = some value ∧
        lastSet merging f finished = some value ∧
        ∀ (j : Nat) (other : FinishedUpdate Update), finished[j]? = some other →
          (merging.sets other.update f).isSome → j ≤ i := by
  induction finished using List.reverseRecOn with
  | nil =>
    obtain ⟨call, hmem, -⟩ := h
    cases hmem
  | append_singleton finished last ih =>
    rw [lastSet_append]
    cases hlast : merging.sets last.update f with
    | some value =>
      refine ⟨finished.length, last, value, ?_, hlast, rfl, ?_⟩
      · rw [List.getElem?_append_right (Nat.le_refl _), Nat.sub_self]
        rfl
      · intro j other hother _
        have hbound := (List.getElem?_eq_some_iff.mp hother).1
        rw [List.length_append, List.length_singleton] at hbound
        omega
    | none =>
      have hearlier : ∃ call ∈ finished, (merging.sets call.update f).isSome := by
        obtain ⟨call, hmem, hset⟩ := h
        rcases List.mem_append.mp hmem with hmem | hmem
        · exact ⟨call, hmem, hset⟩
        · rw [List.mem_singleton.mp hmem, hlast] at hset
          cases hset
      obtain ⟨i, call, value, hcall, hset, hvalue, hlater⟩ := ih hearlier
      have hi := (List.getElem?_eq_some_iff.mp hcall).1
      refine ⟨i, call, value, ?_, hset, hvalue, ?_⟩
      · rw [List.getElem?_append_left hi]
        exact hcall
      · intro j other hother hsets
        have hbound := (List.getElem?_eq_some_iff.mp hother).1
        rw [List.length_append, List.length_singleton] at hbound
        by_cases hj : j < finished.length
        · rw [List.getElem?_append_left hj] at hother
          exact hlater j other hother hsets
        · have hjlast : j = finished.length := by omega
          rw [hjlast, List.getElem?_append_right (Nat.le_refl _), Nat.sub_self] at hother
          cases hother
          rw [hlast] at hsets
          cases hsets

theorem lastSet_finish (state : Updates Row Update) (index : Nat) (call : PendingUpdate Row Update)
    (stamp : Stamp) (f : Field) :
    lastSet merging f (state.finish merging index call stamp).finished =
      (merging.sets call.update f).or (lastSet merging f state.finished) :=
  lastSet_append f state.finished { update := call.update, startedAt := call.startedAt }

theorem field_finish (state : Updates Row Update) (index : Nat) (call : PendingUpdate Row Update)
    (stamp : Stamp) (f : Field) :
    merging.field (state.finish merging index call stamp).row f =
      (merging.sets call.update f).getD (merging.field call.read f) :=
  merging.field_merge stamp call.read call.update f

theorem length_finish (state : Updates Row Update) (index : Nat) (call : PendingUpdate Row Update)
    (stamp : Stamp) :
    (state.finish merging index call stamp).finished.length = state.finished.length + 1 :=
  List.length_append

variable (merging) in
/-- A call starts before it finishes, and a field no finished call has set is as it was. -/
structure Ordered (row : Row) (state : Updates Row Update) : Prop where
  startedAt_le : ∀ (j : Nat) (call : FinishedUpdate Update), state.finished[j]? = some call →
    call.startedAt ≤ j
  startedAt_le_length : ∀ call ∈ state.pending, call.startedAt ≤ state.finished.length
  untouched : ∀ f, lastSet merging f state.finished = none →
    merging.field state.row f = merging.field row f ∧
      ∀ call ∈ state.pending, merging.field call.read f = merging.field row f

theorem ordered_initial (row : Row) : Ordered merging row (initial row : Updates Row Update) where
  startedAt_le := nofun
  startedAt_le_length := nofun
  untouched _ _ := ⟨rfl, nofun⟩

variable {row : Row} {state : Updates Row Update}

theorem Ordered.start (h : Ordered merging row state) (update : Update) :
    Ordered merging row { state with
      pending := state.pending ++
        [{ update := update, read := state.row, startedAt := state.finished.length }] } where
  startedAt_le := h.startedAt_le
  startedAt_le_length call hmem := by
    rcases List.mem_append.mp hmem with hmem | hmem
    · exact h.startedAt_le_length call hmem
    · rw [List.mem_singleton.mp hmem]
  untouched f hf := by
    refine ⟨(h.untouched f hf).1, fun call hmem => ?_⟩
    rcases List.mem_append.mp hmem with hmem | hmem
    · exact (h.untouched f hf).2 call hmem
    · rw [List.mem_singleton.mp hmem]
      exact (h.untouched f hf).1

theorem Ordered.finish (h : Ordered merging row state) (hcall : state.pending[index]? = some call)
    (stamp : Stamp) :
    Ordered merging row (state.finish merging index call stamp) where
  startedAt_le j other hother := by
    have hbound := (List.getElem?_eq_some_iff.mp hother).1
    rw [length_finish] at hbound
    change (state.finished ++ [_])[j]? = some other at hother
    by_cases hj : j < state.finished.length
    · rw [List.getElem?_append_left hj] at hother
      exact h.startedAt_le j other hother
    · have hjlast : j = state.finished.length := by omega
      rw [hjlast, List.getElem?_append_right (Nat.le_refl _), Nat.sub_self] at hother
      cases hother
      have hle := h.startedAt_le_length call (List.mem_of_getElem? hcall)
      show call.startedAt ≤ j
      omega
  startedAt_le_length other hmem := by
    have hle := h.startedAt_le_length other (List.mem_of_mem_eraseIdx hmem)
    rw [length_finish]
    omega
  untouched f hf := by
    rw [lastSet_finish] at hf
    obtain ⟨hset, hnone⟩ := Option.or_eq_none_iff.mp hf
    have hbefore := h.untouched f hnone
    refine ⟨?_, fun other hmem => hbefore.2 other (List.mem_of_mem_eraseIdx hmem)⟩
    rw [field_finish, hset, Option.getD_none]
    exact hbefore.2 call (List.mem_of_getElem? hcall)

theorem Ordered.step {next : Updates Row Update} {action : UpdateAction Update Stamp}
    (h : Ordered merging row state) (hstep : state.step merging action = some next) :
    Ordered merging row next := by
  cases action with
  | start update =>
    cases hstep
    exact h.start update
  | finish index stamp =>
    obtain ⟨call, hcall, rfl⟩ := Option.map_eq_some_iff.mp hstep
    exact h.finish hcall stamp

variable (merging) in
def Current (state : Updates Row Update) : Prop :=
  ∀ f value, lastSet merging f state.finished = some value → merging.field state.row f = value

theorem Current.settled (h : Current merging state) (hordered : Ordered merging row state)
    (hset : ∃ call ∈ state.finished, (merging.sets call.update f).isSome) :
    state.Settled merging f := by
  obtain ⟨i, call, value, hcall, hvalue, hlast, hlater⟩ := lastSet_eq_some hset
  refine ⟨i, call, hcall, ?_, ?_⟩
  · rw [hvalue, h f value hlast]
  · intro j other hother hsets
    have hstarted := hordered.startedAt_le j other hother
    have hj := hlater j other hother hsets
    omega

theorem nothingLost_iff (hordered : Ordered merging row state) :
    NothingLost merging state ↔ Current merging state :=
  ⟨fun h => h.current, fun h => ⟨h, fun _ _ hset => h.settled hordered hset⟩⟩

theorem current_finish_iff (h : Current merging state) (hordered : Ordered merging row state)
    (hcall : state.pending[index]? = some call) (stamp : Stamp) :
    Current merging (state.finish merging index call stamp) ↔
      ∀ f, merging.sets call.update f = none →
        merging.field call.read f = merging.field state.row f := by
  constructor
  · intro hnext f hset
    cases hvalue : lastSet merging f state.finished with
    | none =>
      have hbefore := hordered.untouched f hvalue
      rw [hbefore.1]
      exact hbefore.2 call (List.mem_of_getElem? hcall)
    | some value =>
      have hwritten := hnext f value (by rw [lastSet_finish, hset, Option.none_or, hvalue])
      rw [field_finish, hset, Option.getD_none] at hwritten
      rw [hwritten, h f value hvalue]
  · intro hsame f value hvalue
    rw [lastSet_finish] at hvalue
    rw [field_finish]
    cases hset : merging.sets call.update f with
    | some written =>
      rw [hset, Option.some_or] at hvalue
      cases hvalue
      rfl
    | none =>
      rw [hset, Option.none_or] at hvalue
      rw [Option.getD_none, hsame f hset]
      exact h f value hvalue

theorem nothingLost_throughout_iff (row : Row) (actions : List (UpdateAction Update Stamp)) :
    Throughout (step merging) (NothingLost merging) (initial row) actions ↔
      StepsMeet (step merging) (Undisturbed merging) (initial row) actions := by
  have hinitial : Current merging (initial row : Updates Row Update) := nofun
  have hordered : Ordered merging row (initial row : Updates Row Update) := ordered_initial row
  apply throughout_iff_stepsMeet (I := Ordered merging row)
  · exact fun state action next h hstep => h.step hstep
  · intro state action next hinv hlost hstep
    rw [nothingLost_iff (hinv.step hstep)]
    cases action with
    | start update =>
      cases hstep
      exact ⟨fun _ => trivial, fun _ => hlost.current⟩
    | finish index stamp =>
      obtain ⟨call, hcall, rfl⟩ := Option.map_eq_some_iff.mp hstep
      rw [current_finish_iff hlost.current hinv hcall stamp]
      constructor
      · intro hsame other hother
        cases hcall.symm.trans hother
        exact hsame
      · exact fun h => h call hcall
  · exact hordered
  · exact (nothingLost_iff hordered).mpr hinitial

end Updates

end GT3Code.Base
