import GT3Code.Base.Runs

/-! # Processes that take turns

A process asks for one operation after another, and goes on with the result of each. Several
processes run over one world, and between two operations of a process the others run. What a
process may rely on, and has to guarantee to the others, is stated once; a process is checked
for itself, operation by operation.
-/

namespace GT3Code.Base

universe u v w

inductive Process (Op : Type u) (Res : Op → Type v) (ε : Type w) (α : Type v) where
  | done (value : α)
  | fail (error : ε)
  | ask (op : Op) (rest : Res op → Process Op Res ε α)

namespace Process

variable {Op : Type u} {Res : Op → Type v} {ε : Type w} {α β : Type v}

def perform (op : Op) : Process Op Res ε (Res op) := .ask op .done

def bind : Process Op Res ε α → (α → Process Op Res ε β) → Process Op Res ε β
  | .done value, next => next value
  | .fail error, _ => .fail error
  | .ask op rest, next => .ask op fun res => (rest res).bind next

def orElse : Process Op Res ε α → (ε → Process Op Res ε α) → Process Op Res ε α
  | .done value, _ => .done value
  | .fail error, handler => handler error
  | .ask op rest, handler => .ask op fun res => (rest res).orElse handler

def attempt {δ : Type v} {φ : Type w} : Process Op Res δ α → Process Op Res φ (Except δ α)
  | .done value => .done (.ok value)
  | .fail error => .done (.error error)
  | .ask op rest => .ask op fun res => (rest res).attempt

instance : Monad (Process Op Res ε) where
  pure := .done
  bind := bind

def forEach {ι : Type u} (items : List ι) (body : ι → Process Op Res ε PUnit) :
    Process Op Res ε PUnit :=
  match items with
  | [] => .done ⟨⟩
  | item :: rest => (body item).bind fun _ => forEach rest body

end Process

/-- An operation that was answered, and by which process it was asked. -/
structure Answered (Op : Type u) (Res : Op → Type v) where
  process : Nat
  op : Op
  res : Res op

structure View (σ : Type u) (Op : Type u) (Res : Op → Type v) where
  world : σ
  log : List (Answered Op Res)

/-- How operations are answered, what the calls of the system run, and what else may happen. -/
structure System (σ : Type u) (Op : Type u) (Res : Op → Type v) (ε : Type w) (Answer Call Env : Type u)
    where
  answer : σ → (op : Op) → Answer → Option (Res op × σ)
  program : Call → Process Op Res ε PUnit
  forks : Op → Option Call
  external : σ → Env → Option σ

namespace System

variable {σ Op : Type u} {Res : Op → Type v} {ε : Type w} {Answer Call Env : Type u}

def respond (system : System σ Op Res ε Answer Call Env) (process : Nat) (view : View σ Op Res)
    (op : Op) (answer : Answer) : Option (Res op × View σ Op Res) :=
  (system.answer view.world op answer).map fun result =>
    (result.1, { world := result.2
                 log := view.log ++ [{ process := process, op := op, res := result.1 }] })

end System

structure Pool (σ Op : Type u) (Res : Op → Type v) (ε : Type w) where
  view : View σ Op Res
  processes : List (Process Op Res ε PUnit)

inductive PoolAction (Answer Call Env : Type u) where
  | call (call : Call)
  | advance (process : Nat) (answer : Answer)
  | external (event : Env)

namespace Pool

variable {σ Op : Type u} {Res : Op → Type v} {ε : Type w} {Answer Call Env : Type u}

/-- The process goes on with the answer; an operation that forks starts another process. -/
def advance (system : System σ Op Res ε Answer Call Env) (pool : Pool σ Op Res ε) (process : Nat)
    (op : Op) (rest : Res op → Process Op Res ε PUnit) (answer : Answer) :
    Option (Pool σ Op Res ε) :=
  (system.respond process pool.view op answer).map fun result =>
    { view := result.2
      processes := pool.processes.set process (rest result.1) ++
        ((system.forks op).map system.program).toList }

def step (system : System σ Op Res ε Answer Call Env) (pool : Pool σ Op Res ε) :
    PoolAction Answer Call Env → Option (Pool σ Op Res ε)
  | .call call => some { pool with processes := pool.processes ++ [system.program call] }
  | .advance process answer =>
    match pool.processes[process]? with
    | some (.ask op rest) => pool.advance system process op rest answer
    | _ => none
  | .external event =>
    (system.external pool.view.world event).map fun world =>
      { pool with view := { pool.view with world := world } }

end Pool

/-- The system where a call is made only after the one before it has ended. -/
structure Sequence (σ Op : Type u) (Res : Op → Type v) (ε : Type w) where
  view : View σ Op Res
  current : Process Op Res ε PUnit

inductive SequenceAction (Answer Call Env : Type u) where
  | call (call : Call)
  | advance (answer : Answer)
  | external (event : Env)

namespace Sequence

variable {σ Op : Type u} {Res : Op → Type v} {ε : Type w} {Answer Call Env : Type u}

def initial (world : σ) : Sequence σ Op Res ε :=
  { view := { world := world, log := [] }, current := .done ⟨⟩ }

def step (system : System σ Op Res ε Answer Call Env) (state : Sequence σ Op Res ε) :
    SequenceAction Answer Call Env → Option (Sequence σ Op Res ε)
  | .call call =>
    match state.current with
    | .ask _ _ => none
    | _ => some { state with current := system.program call }
  | .advance answer =>
    match state.current with
    | .ask op rest =>
      (system.respond 0 state.view op answer).map fun result =>
        { view := result.2, current := rest result.1 }
    | _ => none
  | .external event =>
    (system.external state.view.world event).map fun world =>
      { state with view := { state.view with world := world } }

end Sequence

/-! ## Disciplines -/

/-- What holds between any two steps, what a process may rely on while the others run, what it
guarantees to them, and the condition its steps are assumed to meet. -/
structure Discipline (σ Op : Type u) (Res : Op → Type v) (Answer Env : Type u) where
  Inv : View σ Op Res → Prop
  Rely : Nat → View σ Op Res → View σ Op Res → Prop
  Guarantee : Nat → View σ Op Res → View σ Op Res → Prop
  Condition : Nat → View σ Op Res → Op → Answer → Prop
  ExternalCondition : View σ Op Res → Env → Prop

section Disciplines

variable {σ Op : Type u} {Res : Op → Type v} {ε : Type w} {Answer Call Env : Type u} {α β : Type v}
variable (system : System σ Op Res ε Answer Call Env) (d : Discipline σ Op Res Answer Env)

/-- From the view on, every operation of the process keeps the invariant and the guarantee, and
what it ends with has the property given. -/
def Safe (n : Nat) (Q : α → View σ Op Res → Prop) (E : ε → View σ Op Res → Prop) :
    Process Op Res ε α → View σ Op Res → Prop
  | .done value, view => Q value view
  | .fail error, view => E error view
  | .ask op rest, view =>
    ∀ asked, d.Rely n view asked → d.Inv asked → ∀ answer res next,
      system.respond n asked op answer = some (res, next) → d.Condition n asked op answer →
        (d.Inv next ∧ d.Guarantee n asked next) ∧ Safe n Q E (rest res) next

variable {system d} {n : Nat} {Q R : α → View σ Op Res → Prop} {E F : ε → View σ Op Res → Prop}

variable {process : Process Op Res ε α} {view : View σ Op Res}

theorem Safe.imp (h : Safe system d n Q E process view)
    (hQ : ∀ value view, Q value view → R value view)
    (hE : ∀ error view, E error view → F error view) : Safe system d n R F process view := by
  induction process generalizing view with
  | done value => exact hQ value view h
  | fail error => exact hE error view h
  | ask op rest ih =>
    intro asked hrely hinv answer res next hrespond hcondition
    obtain ⟨hkept, hrest⟩ := h asked hrely hinv answer res next hrespond hcondition
    exact ⟨hkept, ih res hrest⟩

theorem Safe.inv (h : Safe system d n Q E process view) (hinv : d.Inv view) :
    Safe system d n (fun value next => Q value next ∧ d.Inv next) E process view := by
  induction process generalizing view with
  | done value => exact ⟨h, hinv⟩
  | fail error => exact h
  | ask op rest ih =>
    intro asked hrely hasked answer res next hrespond hcondition
    obtain ⟨hkept, hrest⟩ := h asked hrely hasked answer res next hrespond hcondition
    exact ⟨hkept, ih res hrest hkept.1⟩

variable {next : View σ Op Res}

theorem log_of_respond {process : Nat} {op : Op} {answer : Answer} {res : Res op}
    (h : system.respond process view op answer = some (res, next)) :
    next.log = view.log ++ [{ process := process, op := op, res := res }] := by
  obtain ⟨result, -, hresult⟩ := Option.map_eq_some_iff.mp h
  cases hresult
  rfl

theorem Safe.log (hlog : ∀ u v, d.Rely n u v → u.log <+: v.log)
    (h : Safe system d n Q E process view) :
    Safe system d n (fun value next => Q value next ∧ view.log <+: next.log)
      (fun error next => E error next ∧ view.log <+: next.log) process view := by
  induction process generalizing view with
  | done value => exact ⟨h, List.prefix_refl _⟩
  | fail error => exact ⟨h, List.prefix_refl _⟩
  | ask op rest ih =>
    intro asked hrely hinv answer res next hrespond hcondition
    obtain ⟨hkept, hrest⟩ := h asked hrely hinv answer res next hrespond hcondition
    have hgrown : view.log <+: next.log := by
      rw [log_of_respond hrespond]
      exact (hlog view asked hrely).trans (List.prefix_append _ _)
    exact ⟨hkept, (ih res hrest).imp (fun value last h => ⟨h.1, hgrown.trans h.2⟩)
      fun error last h => ⟨h.1, hgrown.trans h.2⟩⟩

theorem Safe.bind {next : α → Process Op Res ε β} {R : β → View σ Op Res → Prop}
    (h : Safe system d n Q E process view)
    (hnext : ∀ value view, Q value view → Safe system d n R E (next value) view) :
    Safe system d n R E (process.bind next) view := by
  induction process generalizing view with
  | done value => exact hnext value view h
  | fail error => exact h
  | ask op rest ih =>
    intro asked hrely hinv answer res next hrespond hcondition
    obtain ⟨hkept, hrest⟩ := h asked hrely hinv answer res next hrespond hcondition
    exact ⟨hkept, ih res hrest⟩

theorem Safe.orElse {handler : ε → Process Op Res ε α} (h : Safe system d n Q E process view)
    (hhandler : ∀ error view, E error view → Safe system d n Q F (handler error) view) :
    Safe system d n Q F (process.orElse handler) view := by
  induction process generalizing view with
  | done value => exact h
  | fail error => exact hhandler error view h
  | ask op rest ih =>
    intro asked hrely hinv answer res next hrespond hcondition
    obtain ⟨hkept, hrest⟩ := h asked hrely hinv answer res next hrespond hcondition
    exact ⟨hkept, ih res hrest⟩

theorem Safe.forEach {ι : Type u} {body : ι → Process Op Res ε PUnit}
    (A : List ι → View σ Op Res → Prop) {items : List ι}
    (hbody : ∀ finished item rest view, items = finished ++ item :: rest → A finished view →
      Safe system d n (fun _ => A (finished ++ [item])) E (body item) view)
    (h : A [] view) : Safe system d n (fun _ => A items) E (Process.forEach items body) view := by
  have hloop : ∀ rest finished view, items = finished ++ rest → A finished view →
      Safe system d n (fun _ => A items) E (Process.forEach rest body) view := by
    intro rest
    induction rest with
    | nil =>
      intro finished view hitems hA
      rw [hitems, List.append_nil]
      exact hA
    | cons item rest ih =>
      intro finished view hitems hA
      apply Safe.bind (hbody finished item rest view hitems hA)
      intro _ view hnext
      exact ih (finished ++ [item]) view (by rw [hitems, List.append_assoc]; rfl) hnext
  exact hloop items [] view rfl h

theorem Safe.rely (htrans : ∀ u v w, d.Rely n u v → d.Rely n v w → d.Rely n u w)
    (hQ : ∀ value u v, d.Rely n u v → Q value u → Q value v)
    (hE : ∀ error u v, d.Rely n u v → E error u → E error v)
    (h : Safe system d n Q E process view) (hrely : d.Rely n view next) :
    Safe system d n Q E process next := by
  cases process with
  | done value => exact hQ value view next hrely h
  | fail error => exact hE error view next hrely h
  | ask op rest =>
    intro asked hasked hinv
    exact h asked (htrans view next asked hrely hasked) hinv

namespace Sequence

variable (d) in
def Meets (state : Sequence σ Op Res ε) : SequenceAction Answer Call Env → Prop
  | .call _ => True
  | .advance answer => ∀ op rest, state.current = .ask op rest →
      d.Condition 0 state.view op answer
  | .external event => d.ExternalCondition state.view event

variable (system d) in
/-- While only one call is under way a process relies on what happens outside alone. -/
structure Lawful (Q : PUnit → View σ Op Res → Prop) (E : ε → View σ Op Res → Prop) : Prop where
  refl : ∀ view, d.Rely 0 view view
  trans : ∀ u v w, d.Rely 0 u v → d.Rely 0 v w → d.Rely 0 u w
  done : ∀ value view next, d.Rely 0 view next → Q value view → Q value next
  fail : ∀ error view next, d.Rely 0 view next → E error view → E error next
  call : ∀ call view, d.Inv view → Safe system d 0 Q E (system.program call) view
  external : ∀ view event world, d.ExternalCondition view event → d.Inv view →
    system.external view.world event = some world →
      d.Inv { view with world := world } ∧ d.Rely 0 view { view with world := world }

variable (system d) in
structure Sound (Q : PUnit → View σ Op Res → Prop) (E : ε → View σ Op Res → Prop)
    (state : Sequence σ Op Res ε) : Prop where
  inv : d.Inv state.view
  safe : Safe system d 0 Q E state.current state.view

variable {Q : PUnit → View σ Op Res → Prop} {E : ε → View σ Op Res → Prop}

theorem Sound.step {state next : Sequence σ Op Res ε} {action : SequenceAction Answer Call Env}
    (hlawful : Lawful system d Q E) (h : Sound system d Q E state) (hmeets : state.Meets d action)
    (hstep : state.step system action = some next) : Sound system d Q E next := by
  cases action with
  | call call =>
    unfold Sequence.step at hstep
    simp only at hstep
    split at hstep
    · cases hstep
    · cases hstep
      exact ⟨h.inv, hlawful.call call state.view h.inv⟩
  | advance answer =>
    unfold Sequence.step at hstep
    simp only at hstep
    split at hstep
    · rename_i op rest hcurrent
      obtain ⟨⟨res, view⟩, hrespond, rfl⟩ := Option.map_eq_some_iff.mp hstep
      have hsafe := h.safe
      rw [hcurrent] at hsafe
      obtain ⟨⟨hinv, -⟩, hrest⟩ := hsafe state.view (hlawful.refl _) h.inv answer res view
        hrespond (hmeets op rest hcurrent)
      exact ⟨hinv, hrest⟩
    · cases hstep
  | external event =>
    obtain ⟨world, hexternal, rfl⟩ := Option.map_eq_some_iff.mp hstep
    obtain ⟨hinv, hrely⟩ := hlawful.external state.view event world hmeets h.inv hexternal
    exact ⟨hinv, h.safe.rely hlawful.trans hlawful.done hlawful.fail hrely⟩

theorem sound_throughout (hlawful : Lawful system d Q E) {world : σ}
    (hinv : d.Inv { world := world, log := [] })
    (hdone : Q ⟨⟩ { world := world, log := [] })
    {actions : List (SequenceAction Answer Call Env)}
    (hmeet : StepsMeet (step system) (Meets d) (initial world : Sequence σ Op Res ε) actions) :
    Throughout (step system) (Sound system d Q E) (initial world) actions :=
  throughout_of_stepsMeet (fun _ _ _ h hcondition hstep => h.step hlawful hcondition hstep)
    ⟨hinv, hdone⟩ hmeet

end Sequence

end Disciplines

end GT3Code.Base
