import GT3Code.Base.Processes

/-! # Loops among processes

Some processes of a pool are loops: when the process of a loop has ended, the loop takes the next
one from the world, a message of its queue say. A loop may be interrupted; what its last operation
has to be followed by is done then.

A typestate says which operations a process may ask for next, by those it has asked for and the
results it got. What a process waits for is known from its typestate, where the process itself is a
function of results still to come.
-/

namespace GT3Code.Base

universe u v w

structure LoopSystem (σ Op : Type u) (Res : Op → Type v) (ε : Type w) (Answer Call Env : Type u)
    extends System σ Op Res ε Answer Call Env where
  loops : Nat
  take : Nat → σ → Option (Process Op Res ε PUnit × σ)
  interrupts : Nat → σ → Bool
  finalize : Nat → Option Op → σ → σ

inductive LoopAction (Answer Call Env : Type u) where
  | call (call : Call)
  | advance (process : Nat) (answer : Answer)
  | external (event : Env)
  | take (loop : Nat)
  | interrupt (loop : Nat)

namespace LoopSystem

variable {σ Op : Type u} {Res : Op → Type v} {ε : Type w} {Answer Call Env : Type u}

def initial (system : LoopSystem σ Op Res ε Answer Call Env) (world : σ) : Pool σ Op Res ε :=
  { view := { world := world, log := [] }
    processes := List.replicate system.loops (.done ⟨⟩) }

def takeNext (system : LoopSystem σ Op Res ε Answer Call Env) (pool : Pool σ Op Res ε)
    (loop : Nat) : Option (Pool σ Op Res ε) :=
  (system.take loop pool.view.world).map fun taken =>
    { view := { pool.view with world := taken.2 }, processes := pool.processes.set loop taken.1 }

def interruptLoop (system : LoopSystem σ Op Res ε Answer Call Env) (pool : Pool σ Op Res ε)
    (loop : Nat) (op : Option Op) : Pool σ Op Res ε :=
  { view := { pool.view with world := system.finalize loop op pool.view.world }
    processes := pool.processes.set loop (.done ⟨⟩) }

def step (system : LoopSystem σ Op Res ε Answer Call Env) (pool : Pool σ Op Res ε) :
    LoopAction Answer Call Env → Option (Pool σ Op Res ε)
  | .call call => pool.step system.toSystem (.call call)
  | .advance process answer => pool.step system.toSystem (.advance process answer)
  | .external event => pool.step system.toSystem (.external event)
  | .take loop =>
    if loop < system.loops then
      match pool.processes[loop]? with
      | some (.done _) | some (.fail _) => system.takeNext pool loop
      | _ => none
    else none
  | .interrupt loop =>
    if loop < system.loops ∧ system.interrupts loop pool.view.world then
      match pool.processes[loop]? with
      | some (.ask op _) => some (system.interruptLoop pool loop (some op))
      | some _ => some (system.interruptLoop pool loop none)
      | none => none
    else none

inductive Steps (system : LoopSystem σ Op Res ε Answer Call Env) (pool : Pool σ Op Res ε) :
    LoopAction Answer Call Env → Pool σ Op Res ε → Prop
  | call (call : Call) : Steps system pool (.call call)
      { pool with processes := pool.processes ++ [system.program call] }
  | advance (n : Nat) (answer : Answer) (op : Op) (rest : Res op → Process Op Res ε PUnit)
      (res : Res op) (world : σ) (hprocess : pool.processes[n]? = some (.ask op rest))
      (hanswer : system.answer pool.view.world op answer = some (res, world)) :
      Steps system pool (.advance n answer)
        { view := { world := world
                    log := pool.view.log ++ [{ process := n, op := op, res := res }] }
          processes := pool.processes.set n (rest res) ++
            ((system.forks op).map system.program).toList }
  | external (event : Env) (world : σ)
      (hexternal : system.external pool.view.world event = some world) :
      Steps system pool (.external event) { pool with view := { pool.view with world := world } }
  | take (loop : Nat) (process ended : Process Op Res ε PUnit) (world : σ)
      (hloop : loop < system.loops) (hended : pool.processes[loop]? = some ended)
      (hnot : ∀ op rest, ended ≠ .ask op rest)
      (htake : system.take loop pool.view.world = some (process, world)) :
      Steps system pool (.take loop)
        { view := { pool.view with world := world }
          processes := pool.processes.set loop process }
  | interrupt (loop : Nat) (process : Process Op Res ε PUnit) (op : Option Op)
      (hloop : loop < system.loops) (hinterrupts : system.interrupts loop pool.view.world = true)
      (hprocess : pool.processes[loop]? = some process)
      (hop : ∀ o, op = some o ↔ ∃ rest, process = .ask o rest) :
      Steps system pool (.interrupt loop) (system.interruptLoop pool loop op)

variable {system : LoopSystem σ Op Res ε Answer Call Env} {pool : Pool σ Op Res ε}

theorem steps_of_step {next : Pool σ Op Res ε} {action : LoopAction Answer Call Env}
    (h : system.step pool action = some next) : Steps system pool action next := by
  cases action with
  | call call =>
    cases h
    exact .call call
  | advance n answer =>
    simp only [step, Pool.step] at h
    split at h
    · rename_i op rest hprocess
      obtain ⟨⟨res, view⟩, hrespond, rfl⟩ := Option.map_eq_some_iff.mp h
      obtain ⟨⟨res', world⟩, hanswer, hview⟩ := Option.map_eq_some_iff.mp hrespond
      cases hview
      exact .advance n answer op rest res' world hprocess hanswer
    · cases h
  | external event =>
    obtain ⟨world, hexternal, rfl⟩ := Option.map_eq_some_iff.mp h
    exact .external event world hexternal
  | take loop =>
    simp only [step] at h
    split at h
    · rename_i hloop
      split at h
      · rename_i value hprocess
        obtain ⟨⟨process, world⟩, htake, rfl⟩ := Option.map_eq_some_iff.mp h
        exact .take loop process _ world hloop hprocess nofun htake
      · rename_i error hprocess
        obtain ⟨⟨process, world⟩, htake, rfl⟩ := Option.map_eq_some_iff.mp h
        exact .take loop process _ world hloop hprocess nofun htake
      · cases h
    · cases h
  | interrupt loop =>
    simp only [step] at h
    split at h
    · rename_i hinterrupts
      split at h
      · rename_i op rest hprocess
        cases h
        refine .interrupt loop _ (some op) hinterrupts.1 hinterrupts.2 hprocess ?_
        intro o
        constructor
        · intro heq
          cases heq
          exact ⟨rest, rfl⟩
        · rintro ⟨other, heq⟩
          cases heq
          rfl
      · rename_i process hnot hprocess
        cases h
        refine .interrupt loop process none hinterrupts.1 hinterrupts.2 hprocess ?_
        intro o
        constructor
        · exact nofun
        · rintro ⟨rest, rfl⟩
          exact (hnot o rest rfl).elim
      · cases h
    · cases h

theorem answer_eq_none_of_step {n : Nat} {answer : Answer} {op : Op}
    {rest : Res op → Process Op Res ε PUnit} (h : system.step pool (.advance n answer) = none)
    (hprocess : pool.processes[n]? = some (.ask op rest)) :
    system.answer pool.view.world op answer = none := by
  simp only [step, Pool.step, hprocess] at h
  exact Option.map_eq_none_iff.mp (Option.map_eq_none_iff.mp h)

theorem take_eq_none_of_step {loop : Nat} {process : Process Op Res ε PUnit}
    (h : system.step pool (.take loop) = none) (hloop : loop < system.loops)
    (hprocess : pool.processes[loop]? = some process) (hnot : ∀ op rest, process ≠ .ask op rest) :
    system.take loop pool.view.world = none := by
  simp only [step, hloop, if_true, hprocess] at h
  cases process with
  | done | fail => exact Option.map_eq_none_iff.mp h
  | ask op rest => exact absurd rfl (hnot op rest)

end LoopSystem

/-- Which operations may be asked for in a state, the state after each, and the states a process
may end in. -/
structure Typestate (Op : Type u) (Res : Op → Type v) (S : Type u) where
  allowed : S → Op → Prop
  next : S → (op : Op) → Res op → S
  idle : S
  ended : S → Prop
  ended_idle : ended idle

namespace Typestate

variable {Op : Type u} {Res : Op → Type v} {ε : Type w} {α β : Type v} {S : Type u}

/-- The process asks for what is allowed only, whatever the results, and ends as given. -/
def Follows (T : Typestate Op Res S) (Q : α → S → Prop) (E : ε → S → Prop) :
    Process Op Res ε α → S → Prop
  | .done value, s => Q value s
  | .fail error, s => E error s
  | .ask op rest, s => T.allowed s op ∧ ∀ res, T.Follows Q E (rest res) (T.next s op res)

variable {T : Typestate Op Res S} {Q R : α → S → Prop} {E F : ε → S → Prop}

variable {process : Process Op Res ε α} {s : S}

theorem Follows.imp (h : T.Follows Q E process s) (hQ : ∀ value s, Q value s → R value s)
    (hE : ∀ error s, E error s → F error s) : T.Follows R F process s := by
  induction process generalizing s with
  | done value => exact hQ value s h
  | fail error => exact hE error s h
  | ask op rest ih => exact ⟨h.1, fun res => ih res (h.2 res)⟩

theorem Follows.perform {op : Op} {Q : Res op → S → Prop} (hallowed : T.allowed s op)
    (hnext : ∀ res, Q res (T.next s op res)) : T.Follows Q E (Process.perform op) s :=
  ⟨hallowed, hnext⟩

theorem Follows.bind {next : α → Process Op Res ε β} {R : β → S → Prop}
    (h : T.Follows Q E process s) (hnext : ∀ value s, Q value s → T.Follows R E (next value) s) :
    T.Follows R E (process.bind next) s := by
  induction process generalizing s with
  | done value => exact hnext value s h
  | fail error => exact h
  | ask op rest ih => exact ⟨h.1, fun res => ih res (h.2 res)⟩

theorem Follows.orElse {handler : ε → Process Op Res ε α} (h : T.Follows Q E process s)
    (hhandler : ∀ error s, E error s → T.Follows Q F (handler error) s) :
    T.Follows Q F (process.orElse handler) s := by
  induction process generalizing s with
  | done value => exact h
  | fail error => exact hhandler error s h
  | ask op rest ih => exact ⟨h.1, fun res => ih res (h.2 res)⟩

theorem Follows.attempt {δ : Type v} {φ : Type w} {process : Process Op Res δ α}
    {D : δ → S → Prop} {G : φ → S → Prop} {R : Except δ α → S → Prop}
    (h : T.Follows Q D process s) (hok : ∀ value s, Q value s → R (.ok value) s)
    (herror : ∀ error s, D error s → R (.error error) s) : T.Follows R G process.attempt s := by
  induction process generalizing s with
  | done value => exact hok value s h
  | fail error => exact herror error s h
  | ask op rest ih => exact ⟨h.1, fun res => ih res (h.2 res)⟩

theorem Follows.forEach {ι : Type u} {body : ι → Process Op Res ε PUnit} (A : List ι → S → Prop)
    (hbody : ∀ item rest s, A (item :: rest) s → T.Follows (fun _ => A rest) E (body item) s)
    (items : List ι) (h : A items s) :
    T.Follows (fun _ => A []) E (Process.forEach items body) s := by
  induction items generalizing s with
  | nil => exact h
  | cons item rest ih =>
    apply Follows.bind (hbody item rest s h)
    intro _ s hrest
    exact ih hrest

variable (T) in
def Runs (process : Process Op Res ε PUnit) (s : S) : Prop :=
  T.Follows (fun _ => T.ended) (fun _ => T.ended) process s

theorem Runs.ended_of_done {process : Process Op Res ε PUnit} (h : T.Runs process s)
    (hdone : ∀ op rest, process ≠ .ask op rest) : T.ended s := by
  cases process with
  | done value => exact h
  | fail error => exact h
  | ask op rest => exact absurd rfl (hdone op rest)

end Typestate

structure StepConditions (σ Op Answer Call Env : Type u) where
  call : σ → Call → Prop
  advance : σ → Op → Answer → Prop
  external : σ → Env → Prop
  interrupt : Nat → σ → Prop

namespace LoopSystem

variable {σ Op : Type u} {Res : Op → Type v} {ε : Type w} {Answer Call Env : Type u} {S : Type u}

def Meets (conditions : StepConditions σ Op Answer Call Env) (pool : Pool σ Op Res ε) :
    LoopAction Answer Call Env → Prop
  | .call call => conditions.call pool.view.world call
  | .advance n answer => ∀ op rest, pool.processes[n]? = some (.ask op rest) →
      conditions.advance pool.view.world op answer
  | .external event => conditions.external pool.view.world event
  | .take _ => True
  | .interrupt loop => conditions.interrupt loop pool.view.world

instance decidableAsked (pool : Pool σ Op Res ε) (n : Nat) (P : Op → Prop) [DecidablePred P] :
    Decidable (∀ op rest, pool.processes[n]? = some (.ask op rest) → P op) :=
  match hprocess : pool.processes[n]? with
  | some (.ask op rest) =>
    decidable_of_iff (P op)
      ⟨fun h op' rest' hprocess' => by
        cases hprocess'
        exact h, fun h => h op rest rfl⟩
  | some (.done _) => isTrue nofun
  | some (.fail _) => isTrue nofun
  | none => isTrue nofun

instance decidableMeets (conditions : StepConditions σ Op Answer Call Env)
    [∀ world call, Decidable (conditions.call world call)]
    [∀ world op answer, Decidable (conditions.advance world op answer)]
    [∀ world event, Decidable (conditions.external world event)]
    [∀ loop world, Decidable (conditions.interrupt loop world)] :
    ∀ (pool : Pool σ Op Res ε) action, Decidable (Meets conditions pool action)
  | pool, .call call => inferInstanceAs (Decidable (conditions.call pool.view.world call))
  | pool, .advance n answer => inferInstanceAs (Decidable (∀ op rest,
      pool.processes[n]? = some (.ask op rest) →
        conditions.advance pool.view.world op answer))
  | pool, .external event => inferInstanceAs (Decidable (conditions.external pool.view.world event))
  | _, .take _ => isTrue trivial
  | pool, .interrupt loop =>
    inferInstanceAs (Decidable (conditions.interrupt loop pool.view.world))

/-- Every operation that is allowed keeps the invariant, and so does what else may happen. -/
structure Keeps (system : LoopSystem σ Op Res ε Answer Call Env) (T : Typestate Op Res S)
    (Inv : σ → (Nat → S) → Prop) (conditions : StepConditions σ Op Answer Call Env) : Prop where
  start : ∀ world states n call,
    (conditions.call world call ∨ ∃ op, system.forks op = some call) → system.loops ≤ n →
    Inv world states → states n = T.idle →
    ∃ s, T.Runs (system.program call) s ∧ Inv world (Function.update states n s)
  advance : ∀ world states n op answer res next, Inv world states → T.allowed (states n) op →
    conditions.advance world op answer → system.answer world op answer = some (res, next) →
    Inv next (Function.update states n (T.next (states n) op res))
  external : ∀ world states event next, Inv world states → conditions.external world event →
    system.external world event = some next → Inv next states
  take : ∀ world states n process next, n < system.loops → Inv world states →
    T.ended (states n) → system.take n world = some (process, next) →
    ∃ s, T.Runs process s ∧ Inv next (Function.update states n s)
  interrupt : ∀ world states n op, n < system.loops → Inv world states →
    conditions.interrupt n world → system.interrupts n world = true →
    (∀ o, op = some o → T.allowed (states n) o) →
    Inv (system.finalize n op world) (Function.update states n T.idle)

/-- The same where a process is forked by what its operation has made of the invariant. -/
structure KeepsForks (system : LoopSystem σ Op Res ε Answer Call Env) (T : Typestate Op Res S)
    (Inv : σ → (Nat → S) → Prop) (conditions : StepConditions σ Op Answer Call Env) : Prop where
  call : ∀ world states n call, conditions.call world call → system.loops ≤ n →
    Inv world states → states n = T.idle →
    ∃ s, T.Runs (system.program call) s ∧ Inv world (Function.update states n s)
  advance : ∀ world states n op answer res next, Inv world states → T.allowed (states n) op →
    conditions.advance world op answer → system.answer world op answer = some (res, next) →
    system.forks op = none → Inv next (Function.update states n (T.next (states n) op res))
  fork : ∀ world states n m op answer res next call, Inv world states → T.allowed (states n) op →
    conditions.advance world op answer → system.answer world op answer = some (res, next) →
    system.forks op = some call → system.loops ≤ m → m ≠ n → states m = T.idle →
    ∃ s, T.Runs (system.program call) s ∧
      Inv next (Function.update (Function.update states n (T.next (states n) op res)) m s)
  external : ∀ world states event next, Inv world states → conditions.external world event →
    system.external world event = some next → Inv next states
  take : ∀ world states n process next, n < system.loops → Inv world states →
    T.ended (states n) → system.take n world = some (process, next) →
    ∃ s, T.Runs process s ∧ Inv next (Function.update states n s)
  interrupt : ∀ world states n op, n < system.loops → Inv world states →
    conditions.interrupt n world → system.interrupts n world = true →
    (∀ o, op = some o → T.allowed (states n) o) →
    Inv (system.finalize n op world) (Function.update states n T.idle)

/-- The processes are in typestates under which the invariant holds. -/
structure Typed (system : LoopSystem σ Op Res ε Answer Call Env) (T : Typestate Op Res S)
    (Inv : σ → (Nat → S) → Prop) (pool : Pool σ Op Res ε) (states : Nat → S) : Prop where
  loops : system.loops ≤ pool.processes.length
  inv : Inv pool.view.world states
  runs : ∀ (n : Nat) process, pool.processes[n]? = some process → T.Runs process (states n)
  idle : ∀ n, pool.processes.length ≤ n → states n = T.idle

variable {system : LoopSystem σ Op Res ε Answer Call Env} {T : Typestate Op Res S}
  {Inv : σ → (Nat → S) → Prop} {conditions : StepConditions σ Op Answer Call Env}
  {pool next : Pool σ Op Res ε} {states : Nat → S}

variable {world : σ}

theorem typed_initial (h : Inv world fun _ => T.idle) :
    Typed system T Inv (system.initial world) (fun _ => T.idle) where
  loops := by simp [initial]
  inv := h
  runs n process hprocess := by
    have hdone := (List.getElem?_replicate.symm.trans hprocess)
    split at hdone
    · cases hdone
      exact T.ended_idle
    · cases hdone
  idle _ _ := rfl

theorem Typed.set {world : σ} {n : Nat} {process : Process Op Res ε PUnit} {s : S}
    (h : Typed system T Inv pool states) (hn : n < pool.processes.length)
    (hruns : T.Runs process s) (hinv : Inv world (Function.update states n s))
    (log : List (Answered Op Res)) :
    Typed system T Inv
      { view := { world := world, log := log }, processes := pool.processes.set n process }
      (Function.update states n s) where
  loops := by simpa using h.loops
  inv := hinv
  runs m other hother := by
    by_cases hm : m = n
    · subst hm
      rw [List.getElem?_set_self hn] at hother
      cases hother
      rwa [Function.update_self]
    · rw [List.getElem?_set_ne (Ne.symm hm)] at hother
      rw [Function.update_of_ne hm]
      exact h.runs m other hother
  idle m hm := by
    rw [List.length_set] at hm
    rw [Function.update_of_ne (by omega)]
    exact h.idle m hm

theorem Typed.append {process : Process Op Res ε PUnit} {s : S}
    (h : Typed system T Inv pool states) (hruns : T.Runs process s)
    (hinv : Inv pool.view.world (Function.update states pool.processes.length s)) :
    Typed system T Inv { pool with processes := pool.processes ++ [process] }
      (Function.update states pool.processes.length s) where
  loops := by
    rw [List.length_append]
    exact Nat.le_add_right_of_le h.loops
  inv := hinv
  runs m other hother := by
    by_cases hm : m < pool.processes.length
    · rw [List.getElem?_append_left hm] at hother
      rw [Function.update_of_ne (by omega)]
      exact h.runs m other hother
    · rw [List.getElem?_append_right (by omega)] at hother
      obtain ⟨hzero, hother⟩ := List.getElem?_eq_some_iff.mp hother
      have hm : m = pool.processes.length := by
        simp only [List.length_singleton] at hzero
        omega
      subst hm
      rw [Function.update_self]
      simp only [List.getElem_singleton] at hother
      rwa [← hother]
  idle m hm := by
    rw [List.length_append, List.length_singleton] at hm
    rw [Function.update_of_ne (by omega)]
    exact h.idle m (by omega)

theorem Keeps.keepsForks (hkeeps : Keeps system T Inv conditions) :
    KeepsForks system T Inv conditions where
  call world states n call hcall := hkeeps.start world states n call (Or.inl hcall)
  advance world states n op answer res next hinv hallowed hmeets hanswer _ :=
    hkeeps.advance world states n op answer res next hinv hallowed hmeets hanswer
  fork world states n m op answer res next call hinv hallowed hmeets hanswer hforks hm hne hidle := by
    have hnext := hkeeps.advance world states n op answer res next hinv hallowed hmeets hanswer
    apply hkeeps.start next _ m call (Or.inr ⟨op, hforks⟩) hm hnext
    rwa [Function.update_of_ne hne]
  external := hkeeps.external
  take := hkeeps.take
  interrupt := hkeeps.interrupt

theorem Typed.of_inv {Before : σ → (Nat → S) → Prop} (h : Typed system T Before pool states)
    (hinv : Inv pool.view.world states) : Typed system T Inv pool states :=
  ⟨h.loops, hinv, h.runs, h.idle⟩

theorem Typed.step (hkeeps : KeepsForks system T Inv conditions)
    {action : LoopAction Answer Call Env} (h : Typed system T Inv pool states)
    (hmeets : Meets conditions pool action) (hstep : system.step pool action = some next) :
    ∃ states', Typed system T Inv next states' := by
  cases steps_of_step hstep with
  | call call =>
    obtain ⟨s, hruns, hinv⟩ := hkeeps.call _ states _ call hmeets h.loops h.inv
      (h.idle _ (Nat.le_refl _))
    exact ⟨_, h.append hruns hinv⟩
  | advance n answer op rest res world hprocess hanswer =>
    have hruns := h.runs n _ hprocess
    have hn : n < pool.processes.length := (List.getElem?_eq_some_iff.mp hprocess).1
    cases hforks : system.forks op with
    | none =>
      have hinv := hkeeps.advance _ states n op answer res world h.inv hruns.1
        (hmeets op rest hprocess) hanswer hforks
      simp only [Option.map_none, Option.toList_none, List.append_nil]
      exact ⟨_, h.set hn (hruns.2 res) hinv _⟩
    | some call =>
      obtain ⟨s, hstart, hinv⟩ := hkeeps.fork _ states n pool.processes.length op answer res
        world call h.inv hruns.1 (hmeets op rest hprocess) hanswer hforks h.loops
        (Nat.ne_of_gt hn) (h.idle _ (Nat.le_refl _))
      -- The invariant holds again when the forked process is there.
      have htrue : Typed system T (fun _ _ => True) pool states := h.of_inv trivial
      have hset : Typed system T (fun _ _ => True)
          { view :=
              { world := world
                log := pool.view.log ++ [{ process := n, op := op, res := res }] }
            processes := pool.processes.set n (rest res) }
          (Function.update states n (T.next (states n) op res)) :=
        htrue.set hn (hruns.2 res) trivial _
      have hlength : (pool.processes.set n (rest res)).length = pool.processes.length :=
        List.length_set
      refine ⟨_, (hset.append hstart trivial).of_inv ?_⟩
      simpa only [hlength] using hinv
  | external event world hexternal =>
    exact ⟨states, h.loops, hkeeps.external _ states event world h.inv hmeets hexternal,
      h.runs, h.idle⟩
  | take loop process ended world hloop hended hnot htake =>
    obtain ⟨s, hruns, hinv⟩ := hkeeps.take _ states loop process world hloop h.inv
      ((h.runs loop ended hended).ended_of_done hnot) htake
    exact ⟨_, h.set (List.getElem?_eq_some_iff.mp hended).1 hruns hinv _⟩
  | interrupt loop process op hloop hinterrupts hprocess hop =>
    have hinv := hkeeps.interrupt _ states loop op hloop h.inv hmeets hinterrupts (by
      intro o ho
      obtain ⟨rest, rfl⟩ := (hop o).mp ho
      exact (h.runs loop _ hprocess).1)
    exact ⟨_, h.set (List.getElem?_eq_some_iff.mp hprocess).1
      (show T.Runs (.done ⟨⟩) T.idle from T.ended_idle) hinv _⟩

theorem typed_throughout (hkeeps : Keeps system T Inv conditions)
    (hinv : Inv world fun _ => T.idle) {actions : List (LoopAction Answer Call Env)}
    (hmeet : StepsMeet system.step (Meets conditions) (system.initial world) actions) :
    Throughout system.step (fun pool => ∃ states, Typed system T Inv pool states)
      (system.initial world) actions := by
  refine throughout_of_stepsMeet ?_ ⟨_, typed_initial hinv⟩ hmeet
  rintro pool action next ⟨states, h⟩ hcondition hstep
  exact h.step hkeeps.keepsForks hcondition hstep

end LoopSystem

end GT3Code.Base
