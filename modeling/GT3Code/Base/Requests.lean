import GT3Code.Base.KeyedMap
import GT3Code.Base.Runs

/-! # Requests that await answers

A request takes a number and enters a table under its key; it is sent, and its caller waits
on a cell that is completed once. Answers arrive with keys and are taken to the request of
the key. At the end the table is read a last time and the requests in it are failed.
-/

namespace GT3Code.Base

variable {κ ρ ε : Type}

inductive Settlement (ρ ε : Type) where
  | answered (answer : ρ)
  | failed (error : ε)

/-- Where the caller of a request is. It leaves the table by itself when its message is
refused or it is interrupted while it waits. -/
inductive RequestStage (ρ ε : Type) where
  | idle
  | allocated
  | registered
  | awaiting
  | refused (error : ε)
  | interrupted
  | settled (settlement : Settlement ρ ε)
  | abandoned (error : Option ε)

/-- `since` counts the answers received before the request entered the table, `late` tells
whether the table had been read a last time by then. -/
structure Request (ρ ε : Type) where
  stage : RequestStage ρ ε
  number : Nat
  since : Nat
  late : Bool
  cell : Option (Settlement ρ ε)

inductive Handling (κ ρ ε : Type) where
  | reading
  | routing (key : κ) (answer : ρ)
  | answering (call : Nat) (answer : ρ)
  | failing (calls : List Nat) (error : ε)

structure Requests (κ ρ ε : Type) where
  next : Nat
  calls : Nat → Request ρ ε
  pending : KeyedMap κ Nat
  answers : List (κ × ρ)
  handling : Handling κ ρ ε

/-- `receive` looks whether a request is in the table, `take` removes it, `complete` completes
its cell. `drain` reads the table a last time, `clear` empties it. -/
inductive RequestsAction (κ ρ ε : Type) where
  | allocate (i : Nat)
  | register (i : Nat)
  | offer (i : Nat)
  | refuse (i : Nat) (error : ε)
  | wake (i : Nat)
  | interrupt (i : Nat)
  | remove (i : Nat)
  | receive (key : κ) (answer : ρ)
  | take
  | complete
  | drain (error : ε)
  | failNext
  | clear

def RequestsAction.OfCaller : RequestsAction κ ρ ε → Prop
  | .allocate _ | .register _ | .offer _ | .refuse _ _ | .wake _ | .interrupt _ | .remove _ => True
  | _ => False

def Request.idle : Request ρ ε where
  stage := .idle
  number := 0
  since := 0
  late := false
  cell := none

def Request.settle (settlement : Settlement ρ ε) (request : Request ρ ε) : Request ρ ε :=
  { request with cell := some (request.cell.getD settlement) }

def Handling.isFailing : Handling κ ρ ε → Bool
  | .failing _ _ => true
  | _ => false

namespace Requests

def initial (next : Nat) : Requests κ ρ ε where
  next := next
  calls := fun _ => .idle
  pending := KeyedTable.empty _
  answers := []
  handling := .reading

variable (requests : Requests κ ρ ε)

def setCall (i : Nat) (request : Request ρ ε) : Requests κ ρ ε :=
  { requests with calls := Function.update requests.calls i request }

def setStage (i : Nat) (stage : RequestStage ρ ε) : Requests κ ρ ε :=
  requests.setCall i { requests.calls i with stage := stage }

variable {requests : Requests κ ρ ε}

@[simp] theorem calls_setCall_self (i : Nat) (request : Request ρ ε) :
    (requests.setCall i request).calls i = request := by simp [setCall]

theorem calls_setCall_of_ne {i j : Nat} (h : j ≠ i) (request : Request ρ ε) :
    (requests.setCall i request).calls j = requests.calls j := by simp [setCall, h]

variable [DecidableEq κ] (key : Nat → κ)

def step (requests : Requests κ ρ ε) : RequestsAction κ ρ ε → Option (Requests κ ρ ε)
  | .allocate i =>
    match (requests.calls i).stage with
    | .idle =>
      some
        { requests.setCall i { Request.idle with
            stage := .allocated
            number := requests.next } with
          next := requests.next + 1 }
    | _ => none
  | .register i =>
    match (requests.calls i).stage with
    | .allocated =>
      some
        { requests.setCall i { requests.calls i with
            stage := .registered
            since := requests.answers.length
            late := requests.handling.isFailing } with
          pending := requests.pending.set (key (requests.calls i).number) i }
    | _ => none
  | .offer i =>
    match (requests.calls i).stage with
    | .registered => some (requests.setStage i .awaiting)
    | _ => none
  | .refuse i error =>
    match (requests.calls i).stage with
    | .registered => some (requests.setStage i (.refused error))
    | _ => none
  | .wake i =>
    match (requests.calls i).stage, (requests.calls i).cell with
    | .awaiting, some settlement => some (requests.setStage i (.settled settlement))
    | _, _ => none
  | .interrupt i =>
    match (requests.calls i).stage with
    | .allocated | .registered | .refused _ => some (requests.setStage i (.abandoned none))
    | .awaiting => some (requests.setStage i .interrupted)
    | _ => none
  | .remove i =>
    let removed :=
      { requests with pending := requests.pending.delete (key (requests.calls i).number) }
    match (requests.calls i).stage with
    | .refused error => some (removed.setStage i (.abandoned (some error)))
    | .interrupted => some (removed.setStage i (.abandoned none))
    | _ => none
  | .receive key answer =>
    match requests.handling with
    | .reading =>
      some
        { requests with
          answers := requests.answers ++ [(key, answer)]
          handling := if requests.pending.has key then .routing key answer else .reading }
    | _ => none
  | .take =>
    match requests.handling with
    | .routing key answer =>
      match requests.pending.get key with
      | none => some { requests with handling := .reading }
      | some i =>
        some
          { requests with
            pending := requests.pending.delete key
            handling := .answering i answer }
    | _ => none
  | .complete =>
    match requests.handling with
    | .answering i answer =>
      some
        { requests.setCall i ((requests.calls i).settle (.answered answer)) with
          handling := .reading }
    | _ => none
  | .drain error =>
    match requests.handling with
    | .reading =>
      some { requests with
        handling := .failing (requests.pending.rows.map Prod.snd) error }
    | _ => none
  | .failNext =>
    match requests.handling with
    | .failing (i :: rest) error =>
      some
        { requests.setCall i ((requests.calls i).settle (.failed error)) with
          handling := .failing rest error }
    | _ => none
  | .clear =>
    match requests.handling with
    | .failing _ _ => some { requests with pending := KeyedTable.empty _ }
    | _ => none

end Requests

/-- The first answer with the key after the first `since` ones. -/
def firstSince [DecidableEq κ] (since : Nat) (key : κ) (answers : List (κ × ρ)) : Option ρ :=
  ((answers.drop since).find? fun entry => entry.1 = key).map Prod.snd

section firstSince

variable [DecidableEq κ] {since : Nat} {key : κ} {answers : List (κ × ρ)} {answer : ρ}

theorem firstSince_length : firstSince answers.length key answers = none := by
  simp [firstSince]

theorem firstSince_append_of_some (h : firstSince since key answers = some answer)
    (entry : κ × ρ) : firstSince since key (answers ++ [entry]) = some answer := by
  obtain ⟨found, hfound, hanswer⟩ := Option.map_eq_some_iff.mp h
  have hsince : since ≤ answers.length := by
    by_contra hlong
    rw [List.drop_eq_nil_of_le (by omega)] at hfound
    cases hfound
  rw [firstSince, List.drop_append_of_le_length hsince, List.find?_append, hfound]
  simpa using hanswer

theorem firstSince_append_of_none (h : firstSince since key answers = none)
    (hsince : since ≤ answers.length) (other : κ) :
    firstSince since key (answers ++ [(other, answer)]) =
      if other = key then some answer else none := by
  have hnone := Option.map_eq_none_iff.mp h
  rw [firstSince, List.drop_append_of_le_length hsince, List.find?_append, hnone]
  by_cases hother : other = key
  · simp [hother]
  · simp [hother]

end firstSince

def RequestStage.Numbered : RequestStage ρ ε → Prop
  | .idle => False
  | _ => True

def RequestStage.Entered : RequestStage ρ ε → Prop
  | .idle | .allocated => False
  | _ => True

def RequestStage.Waits : RequestStage ρ ε → Prop
  | .registered | .awaiting => True
  | _ => False

variable {stage : RequestStage ρ ε}

theorem RequestStage.Entered.numbered (h : stage.Entered) : stage.Numbered := by
  cases stage <;> first | exact h | trivial

theorem RequestStage.Waits.entered (h : stage.Waits) : stage.Entered := by
  cases stage <;> first | exact h.elim | trivial

def Handling.Keeps [DecidableEq κ] (handling : Handling κ ρ ε) (pending : KeyedMap κ Nat)
    (key : κ) (i : Nat) : Prop :=
  match handling with
  | .reading | .routing _ _ => pending.get key = some i
  | .answering j _ => pending.get key = some i ∨ i = j
  | .failing calls _ => i ∈ calls

theorem Handling.Keeps.mono [DecidableEq κ] {handling : Handling κ ρ ε}
    {pending next : KeyedMap κ Nat} {key : κ} {i : Nat}
    (hget : pending.get key = some i → next.get key = some i)
    (h : handling.Keeps pending key i) : handling.Keeps next key i := by
  cases handling with
  | reading | routing => exact hget h
  | answering => exact h.imp_left hget
  | failing => exact h

namespace Requests

variable [DecidableEq κ] {key : Nat → κ}

structure Sound (key : Nat → κ) (requests : Requests κ ρ ε) : Prop where
  numbered : ∀ i, (requests.calls i).stage.Numbered → (requests.calls i).number < requests.next
  unique : ∀ i j, (requests.calls i).stage.Numbered → (requests.calls j).stage.Numbered →
    (requests.calls i).number = (requests.calls j).number → i = j
  since : ∀ i, (requests.calls i).since ≤ requests.answers.length
  fresh : ∀ i, ¬(requests.calls i).stage.Entered →
    (requests.calls i).cell = none ∧ (requests.calls i).late = false
  table : ∀ k i, requests.pending.get k = some i →
    k = key (requests.calls i).number ∧ (requests.calls i).stage.Entered
  unanswered : ∀ k i, requests.pending.get k = some i → requests.handling.isFailing = false →
    (requests.calls i).cell = none ∧
      (firstSince (requests.calls i).since k requests.answers = none ∨
        ∃ answer, requests.handling = .routing k answer)
  routing : ∀ k answer, requests.handling = .routing k answer →
    ∃ i, (requests.calls i).stage.Entered ∧ key (requests.calls i).number = k ∧
      firstSince (requests.calls i).since k requests.answers = some answer
  answering : ∀ i answer, requests.handling = .answering i answer →
    (requests.calls i).stage.Entered ∧ (requests.calls i).cell = none ∧
      (∀ k, requests.pending.get k ≠ some i) ∧
        firstSince (requests.calls i).since (key (requests.calls i).number) requests.answers =
          some answer
  answered : ∀ i answer, (requests.calls i).cell = some (.answered answer) →
    firstSince (requests.calls i).since (key (requests.calls i).number) requests.answers =
      some answer
  settled : ∀ i settlement, (requests.calls i).stage = .settled settlement →
    (requests.calls i).cell = some settlement
  kept : ∀ i, (requests.calls i).stage.Waits → (requests.calls i).cell = none →
    (requests.calls i).late = false →
      requests.handling.Keeps requests.pending (key (requests.calls i).number) i
  late : ∀ i, (requests.calls i).late = true →
    requests.handling.isFailing = true ∧ (requests.calls i).cell = none
  failing : ∀ calls error, requests.handling = .failing calls error →
    ∀ i ∈ calls, (requests.calls i).late = false ∧ (requests.calls i).stage.Entered

variable {requests next : Requests κ ρ ε}

theorem sound_initial (first : Nat) : (initial first : Requests κ ρ ε).Sound key where
  numbered _ h := h.elim
  unique _ _ h := h.elim
  since _ := Nat.le_refl _
  fresh _ _ := ⟨rfl, rfl⟩
  table := nofun
  unanswered := nofun
  routing := nofun
  answering := nofun
  answered := nofun
  settled := nofun
  kept _ h := h.elim
  late := nofun
  failing := nofun

variable {i : Nat} {k : κ} {answer : ρ} {error : ε} {action : RequestsAction κ ρ ε}

omit [DecidableEq κ] in
/-- What holds of the call set and of every other one holds of all. -/
theorem forall_setCall {P : Nat → Request ρ ε → Prop} {request : Request ρ ε}
    (hself : P i request) (hothers : ∀ j, j ≠ i → P j (requests.calls j)) (j : Nat) :
    P j ((requests.setCall i request).calls j) := by
  rcases eq_or_ne j i with rfl | hj
  · rw [calls_setCall_self]
    exact hself
  · rw [calls_setCall_of_ne hj]
    exact hothers j hj

theorem Sound.unique_setCall (h : requests.Sound key) {request : Request ρ ε}
    (hnumber : request.stage.Numbered → ∀ j, j ≠ i → (requests.calls j).stage.Numbered →
      (requests.calls j).number ≠ request.number) (j k : Nat)
    (hj : ((requests.setCall i request).calls j).stage.Numbered)
    (hk : ((requests.setCall i request).calls k).stage.Numbered)
    (hsame : ((requests.setCall i request).calls j).number =
      ((requests.setCall i request).calls k).number) : j = k := by
  by_cases hji : j = i <;> by_cases hki : k = i
  · rw [hji, hki]
  · subst hji
    rw [calls_setCall_self] at hj hsame
    rw [calls_setCall_of_ne hki] at hk hsame
    exact absurd hsame.symm (hnumber hj k hki hk)
  · subst hki
    rw [calls_setCall_self] at hk hsame
    rw [calls_setCall_of_ne hji] at hj hsame
    exact absurd hsame (hnumber hk j hji hj)
  · rw [calls_setCall_of_ne hji] at hj hsame
    rw [calls_setCall_of_ne hki] at hk hsame
    exact h.unique j k hj hk hsame

theorem Sound.change (h : requests.Sound key) {bound : Nat} {request : Request ρ ε}
    {pending : KeyedMap κ Nat} (hbound : requests.next ≤ bound)
    (hnumbered : request.stage.Numbered → request.number < bound ∧
      ∀ j, j ≠ i → (requests.calls j).stage.Numbered → (requests.calls j).number ≠ request.number)
    (hsince : request.since ≤ requests.answers.length)
    (hfresh : ¬request.stage.Entered → request.cell = none ∧ request.late = false)
    (hentered : (requests.calls i).stage.Entered →
      request.stage.Entered ∧ request = { requests.calls i with stage := request.stage })
    (hanswered : ∀ answer, request.cell = some (.answered answer) →
      firstSince request.since (key request.number) requests.answers = some answer)
    (hsettled : ∀ settlement, request.stage = .settled settlement →
      request.cell = some settlement)
    (hlate : request.late = true → requests.handling.isFailing = true ∧ request.cell = none)
    (hpending : ∀ k j, pending.get k = some j → requests.pending.get k = some j ∨
      (j = i ∧ ¬(requests.calls i).stage.Entered ∧ k = key request.number ∧
        request.stage.Entered ∧ request.cell = none ∧
          firstSince request.since k requests.answers = none))
    (hkept : request.stage.Waits → request.cell = none → request.late = false →
      requests.handling.Keeps pending (key request.number) i)
    (hothers : ∀ j, j ≠ i → (requests.calls j).stage.Waits →
      requests.handling.Keeps requests.pending (key (requests.calls j).number) j →
        requests.handling.Keeps pending (key (requests.calls j).number) j) :
    ({ requests.setCall i request with next := bound, pending := pending } :
      Requests κ ρ ε).Sound key := by
  have hsame := forall_setCall
    (P := fun j call => (requests.calls j).stage.Entered →
      call.stage.Entered ∧ call = { requests.calls j with stage := call.stage })
    hentered (fun j _ hbefore => ⟨hbefore, rfl⟩)
  constructor
  · exact forall_setCall
      (P := fun _ call => call.stage.Numbered → call.number < bound)
      (fun hnext => (hnumbered hnext).1)
      (fun j _ hnext => Nat.lt_of_lt_of_le (h.numbered j hnext) hbound)
  · exact h.unique_setCall (fun hnext => (hnumbered hnext).2)
  · exact forall_setCall (P := fun _ call => call.since ≤ requests.answers.length) hsince
      (fun j _ => h.since j)
  · exact forall_setCall
      (P := fun _ call => ¬call.stage.Entered → call.cell = none ∧ call.late = false) hfresh
      (fun j _ => h.fresh j)
  · intro k j hget
    rcases hpending k j hget with hold | ⟨rfl, -, hkey, hin, -⟩
    · obtain ⟨hkey, hbefore⟩ := h.table k j hold
      rw [(hsame j hbefore).2]
      exact ⟨hkey, (hsame j hbefore).1⟩
    · rw [calls_setCall_self]
      exact ⟨hkey, hin⟩
  · intro k j hget hreading
    rcases hpending k j hget with hold | ⟨rfl, -, -, -, hcell, hfirst⟩
    · rw [(hsame j (h.table k j hold).2).2]
      exact h.unanswered k j hold hreading
    · rw [calls_setCall_self]
      exact ⟨hcell, .inl hfirst⟩
  · intro k answer hrouting
    obtain ⟨j, hbefore, hkey, hfirst⟩ := h.routing k answer hrouting
    refine ⟨j, (hsame j hbefore).1, ?_⟩
    rw [(hsame j hbefore).2]
    exact ⟨hkey, hfirst⟩
  · intro j answer hanswering
    obtain ⟨hbefore, hcell, hgone, hfirst⟩ := h.answering j answer hanswering
    refine ⟨(hsame j hbefore).1, ?_⟩
    rw [(hsame j hbefore).2]
    refine ⟨hcell, fun k hget => ?_, hfirst⟩
    rcases hpending k j hget with hold | ⟨rfl, hnot, -⟩
    · exact hgone k hold
    · exact hnot hbefore
  · exact forall_setCall
      (P := fun _ call => ∀ answer, call.cell = some (.answered answer) →
        firstSince call.since (key call.number) requests.answers = some answer)
      hanswered (fun j _ => h.answered j)
  · exact forall_setCall
      (P := fun _ call => ∀ settlement, call.stage = .settled settlement →
        call.cell = some settlement)
      hsettled (fun j _ => h.settled j)
  · exact forall_setCall
      (P := fun j call => call.stage.Waits → call.cell = none → call.late = false →
        requests.handling.Keeps pending (key call.number) j)
      hkept (fun j hj hwaits hcell hnotLate =>
        hothers j hj hwaits (h.kept j hwaits hcell hnotLate))
  · exact forall_setCall
      (P := fun _ call => call.late = true →
        requests.handling.isFailing = true ∧ call.cell = none)
      hlate (fun j _ => h.late j)
  · intro calls error hfailing j hj
    obtain ⟨hnotLate, hbefore⟩ := h.failing calls error hfailing j hj
    refine ⟨?_, (hsame j hbefore).1⟩
    rw [(hsame j hbefore).2]
    exact hnotLate

theorem Sound.setStage (h : requests.Sound key) {stage : RequestStage ρ ε}
    (hold : (requests.calls i).stage.Numbered) (hentered : stage.Entered)
    (hwaits : stage.Waits → (requests.calls i).stage.Waits)
    (hsettled : ∀ settlement, stage = .settled settlement →
      (requests.calls i).cell = some settlement) :
    (requests.setStage i stage).Sound key := by
  refine h.change (Nat.le_refl _) (fun _ => ⟨h.numbered i hold, ?_⟩) (h.since i)
    (fun hnot => absurd hentered hnot) (fun _ => ⟨hentered, rfl⟩) (h.answered i) hsettled
    (h.late i) (fun _ _ => .inl) (fun hnext => h.kept i (hwaits hnext)) (fun _ _ _ => id)
  exact fun j hj hstage hnumber => hj (h.unique j i hstage hold hnumber)

theorem Sound.allocate (h : requests.Sound key) {i : Nat}
    (hstage : (requests.calls i).stage = .idle) :
    ({ requests.setCall i { Request.idle with
        stage := .allocated
        number := requests.next } with
      next := requests.next + 1 } : Requests κ ρ ε).Sound key := by
  refine h.change (Nat.le_succ _) (fun _ => ⟨Nat.lt_succ_self _, ?_⟩) (Nat.zero_le _)
    (fun _ => ⟨rfl, rfl⟩) (fun hentered => ?_) nofun
    nofun nofun (fun _ _ => .inl)
    (fun hwaits => hwaits.elim) (fun _ _ _ => id)
  · exact fun j _ hnumbered => Nat.ne_of_lt (h.numbered j hnumbered)
  · rw [hstage] at hentered
    exact hentered.elim

theorem Sound.register (h : requests.Sound key) (hkey : Function.Injective key) {i : Nat}
    (hstage : (requests.calls i).stage = .allocated) :
    ({ requests.setCall i { requests.calls i with
        stage := .registered
        since := requests.answers.length
        late := requests.handling.isFailing } with
      pending := requests.pending.set (key (requests.calls i).number) i } :
      Requests κ ρ ε).Sound key := by
  have hnumbered : (requests.calls i).stage.Numbered := by simp [hstage, RequestStage.Numbered]
  have hnot : ¬(requests.calls i).stage.Entered := by simp [hstage, RequestStage.Entered]
  obtain ⟨hcell, -⟩ := h.fresh i hnot
  refine h.change (Nat.le_refl _) (fun _ => ⟨h.numbered i hnumbered, ?_⟩) (Nat.le_refl _)
    (fun hfresh => absurd trivial hfresh) (fun hentered => absurd hentered hnot)
    (fun answer hanswered => ?_) nofun
    (fun hlate => ⟨hlate, hcell⟩) (fun k j hget => ?_) (fun _ _ hlate => ?_)
    (fun j hj hwaits => ?_)
  · exact fun j hj hstageJ hsame => hj (h.unique j i hstageJ hnumbered hsame)
  · cases hcell.symm.trans hanswered
  · by_cases hk : k = key (requests.calls i).number
    · subst hk
      rw [KeyedMap.get_set_self] at hget
      cases hget
      exact .inr ⟨rfl, hnot, rfl, trivial, hcell, firstSince_length⟩
    · rw [KeyedMap.get_set_of_ne hk] at hget
      exact .inl hget
  · cases hhandling : requests.handling with
    | reading | routing => exact KeyedMap.get_set_self _ _ _
    | answering => exact .inl (KeyedMap.get_set_self _ _ _)
    | failing => simp [hhandling, Handling.isFailing] at hlate
  · refine Handling.Keeps.mono fun hget => ?_
    rwa [KeyedMap.get_set_of_ne]
    exact fun hsame => hj (h.unique j i hwaits.entered.numbered hnumbered (hkey hsame))

theorem Sound.forget (h : requests.Sound key) (hkey : Function.Injective key)
    (hnumbered : (requests.calls i).stage.Numbered) (hwaits : ¬(requests.calls i).stage.Waits) :
    ({ requests with
      pending := requests.pending.delete (key (requests.calls i).number) } :
        Requests κ ρ ε).Sound key := by
  have hget : ∀ k j, (requests.pending.delete (key (requests.calls i).number)).get k = some j →
      requests.pending.get k = some j := by
    intro k j hfound
    by_cases hk : k = key (requests.calls i).number
    · rw [hk, KeyedMap.get_delete_self] at hfound
      cases hfound
    · rwa [KeyedMap.get_delete_of_ne hk] at hfound
  refine
    { h with
      table := fun k j hfound => h.table k j (hget k j hfound)
      unanswered := fun k j hfound => h.unanswered k j (hget k j hfound)
      answering := fun j answer hanswering => ?_
      kept := fun j hwaitsJ hnone hlate => ?_ }
  · obtain ⟨hentered, hnone, hgone, hfirst⟩ := h.answering j answer hanswering
    exact ⟨hentered, hnone, fun k hfound => hgone k (hget k j hfound), hfirst⟩
  · refine Handling.Keeps.mono (fun hfound => ?_) (h.kept j hwaitsJ hnone hlate)
    rwa [KeyedMap.get_delete_of_ne]
    intro hsame
    exact hwaits (h.unique j i hwaitsJ.entered.numbered hnumbered (hkey hsame) ▸ hwaitsJ)

theorem Sound.receive (h : requests.Sound key) (hreading : requests.handling = .reading) (k : κ)
    (answer : ρ) :
    ({ requests with
      answers := requests.answers ++ [(k, answer)]
      handling := if requests.pending.has k then .routing k answer else .reading } :
        Requests κ ρ ε).Sound key := by
  have hopen : ∀ k' i, requests.pending.get k' = some i →
      (requests.calls i).cell = none ∧
        firstSince (requests.calls i).since k' requests.answers = none := by
    intro k' i hget
    obtain ⟨hcell, hnone | hrouting⟩ := h.unanswered k' i hget (by rw [hreading]; rfl)
    · exact ⟨hcell, hnone⟩
    · rw [hreading] at hrouting
      obtain ⟨_, hother⟩ := hrouting
      cases hother
  refine
    { h with
      since := fun i => ?_
      unanswered := fun k' i hget _ => ?_
      routing := fun k' answer' hrouting => ?_
      answering := fun i answer' hanswering => ?_
      answered := fun i answer' hcell => firstSince_append_of_some (h.answered i answer' hcell) _
      kept := fun i hwaits hcell hlate => ?_
      late := fun i hlate => ?_
      failing := fun calls error hfailing => ?_ }
  · show (requests.calls i).since ≤ (requests.answers ++ [(k, answer)]).length
    rw [List.length_append]
    exact Nat.le_add_right_of_le (h.since i)
  · obtain ⟨hcell, hnone⟩ := hopen k' i hget
    refine ⟨hcell, ?_⟩
    by_cases hk : k = k'
    · subst hk
      have hhas : requests.pending.has k = true := by rw [KeyedMap.has, hget]; rfl
      exact .inr ⟨answer, if_pos hhas⟩
    · left
      show firstSince _ _ (requests.answers ++ [(k, answer)]) = none
      rw [firstSince_append_of_none hnone (h.since i), if_neg hk]
  · simp only at hrouting
    split at hrouting
    · rename_i hhas
      cases hrouting
      obtain ⟨i, hget⟩ := Option.isSome_iff_exists.mp hhas
      obtain ⟨hsame, hentered⟩ := h.table k i hget
      refine ⟨i, hentered, hsame.symm, ?_⟩
      rw [firstSince_append_of_none (hopen k i hget).2 (h.since i), if_pos rfl]
    · cases hrouting
  · simp only at hanswering
    split at hanswering <;> cases hanswering
  · have hkept := h.kept i hwaits hcell hlate
    simp only [hreading, Handling.Keeps] at hkept
    simp only
    split
    · exact hkept
    · exact hkept
  · have hfailing := (h.late i hlate).1
    rw [hreading] at hfailing
    cases hfailing
  · simp only at hfailing
    split at hfailing <;> cases hfailing

theorem Sound.takeNone (h : requests.Sound key) (hrouting : requests.handling = .routing k answer)
    (hget : requests.pending.get k = none) :
    ({ requests with handling := .reading } : Requests κ ρ ε).Sound key := by
  refine
    { h with
      unanswered := fun k' i hfound _ => ?_
      routing := nofun
      answering := nofun
      kept := fun i hwaits hcell hlate => ?_
      late := fun i hlate => ?_
      failing := fun _ _ hother => by cases hother }
  · obtain ⟨hcell, hnone | ⟨other, hother⟩⟩ := h.unanswered k' i hfound (by rw [hrouting]; rfl)
    · exact ⟨hcell, .inl hnone⟩
    · rw [hrouting] at hother
      cases hother
      rw [hget] at hfound
      cases hfound
  · have hkept := h.kept i hwaits hcell hlate
    rwa [hrouting] at hkept
  · have hfailing := (h.late i hlate).1
    rw [hrouting] at hfailing
    cases hfailing

theorem Sound.take (h : requests.Sound key) (hkey : Function.Injective key) {k : κ} {answer : ρ}
    {i : Nat} (hrouting : requests.handling = .routing k answer)
    (hget : requests.pending.get k = some i) :
    ({ requests with
      pending := requests.pending.delete k
      handling := .answering i answer } : Requests κ ρ ε).Sound key := by
  have hdelete : ∀ k' j, (requests.pending.delete k).get k' = some j →
      k' ≠ k ∧ requests.pending.get k' = some j := by
    intro k' j hfound
    by_cases hk : k' = k
    · rw [hk, KeyedMap.get_delete_self] at hfound
      cases hfound
    · rw [KeyedMap.get_delete_of_ne hk] at hfound
      exact ⟨hk, hfound⟩
  obtain ⟨hsame, hentered⟩ := h.table k i hget
  have hcell := (h.unanswered k i hget (by rw [hrouting]; rfl)).1
  refine
    { h with
      table := fun k' j hfound => h.table k' j (hdelete k' j hfound).2
      unanswered := fun k' j hfound _ => ?_
      routing := nofun
      answering := fun j answer' hanswering => ?_
      kept := fun j hwaits hcellJ hlate => ?_
      late := fun j hlate => ?_
      failing := fun _ _ hother => by cases hother }
  · obtain ⟨hk, hold⟩ := hdelete k' j hfound
    obtain ⟨hcellJ, hnone | ⟨other, hother⟩⟩ := h.unanswered k' j hold (by rw [hrouting]; rfl)
    · exact ⟨hcellJ, .inl hnone⟩
    · rw [hrouting] at hother
      cases hother
      exact absurd rfl hk
  · cases hanswering
    obtain ⟨l, henteredL, hkeyL, hfirst⟩ := h.routing k answer hrouting
    -- The request the answer was received for is the one in the table.
    have hl : l = i :=
      h.unique l i henteredL.numbered hentered.numbered (hkey (hkeyL.trans hsame))
    subst hl
    refine ⟨hentered, hcell, ?_, ?_⟩
    · intro k' hfound
      obtain ⟨hk, hold⟩ := hdelete k' l hfound
      exact hk ((h.table k' l hold).1.trans hkeyL)
    · show firstSince _ (key (requests.calls l).number) _ = _
      rw [hkeyL]
      exact hfirst
  · have hkept := h.kept j hwaits hcellJ hlate
    simp only [hrouting, Handling.Keeps] at hkept
    by_cases hj : j = i
    · exact .inr hj
    · left
      have hother : key (requests.calls j).number ≠ k := by
        intro hk
        rw [hk, hget] at hkept
        cases hkept
        exact hj rfl
      rwa [KeyedMap.get_delete_of_ne hother]
  · have hfailing := (h.late j hlate).1
    rw [hrouting] at hfailing
    cases hfailing

theorem Sound.settle (h : requests.Sound key) {settlement : Settlement ρ ε}
    {handling : Handling κ ρ ε} (hentered : (requests.calls i).stage.Entered)
    (hlate : (requests.calls i).late = false)
    (hgone : handling.isFailing = false → ∀ k, requests.pending.get k ≠ some i)
    (hanswer : ∀ answer, (requests.calls i).cell = none → settlement = .answered answer →
      firstSince (requests.calls i).since (key (requests.calls i).number) requests.answers =
        some answer)
    (hrouting : ∀ k answer, handling ≠ .routing k answer)
    (hanswering : ∀ j answer, handling ≠ .answering j answer)
    (hbefore : ∀ k answer, requests.handling ≠ .routing k answer)
    (hmode : handling.isFailing = requests.handling.isFailing)
    (hkeeps : ∀ k j, j ≠ i → requests.handling.Keeps requests.pending k j →
      handling.Keeps requests.pending k j)
    (hfailing : ∀ calls error, handling = .failing calls error →
      ∃ earlier, requests.handling = .failing earlier error ∧ ∀ j ∈ calls, j ∈ earlier) :
    ({ requests.setCall i ((requests.calls i).settle settlement) with
      handling := handling } : Requests κ ρ ε).Sound key := by
  have hsame : ∀ j,
      ((requests.setCall i ((requests.calls i).settle settlement)).calls j).number =
        (requests.calls j).number ∧
      ((requests.setCall i ((requests.calls i).settle settlement)).calls j).late =
        (requests.calls j).late ∧
      ((requests.setCall i ((requests.calls i).settle settlement)).calls j).stage =
        (requests.calls j).stage :=
    forall_setCall
      (P := fun j call => call.number = (requests.calls j).number ∧
        call.late = (requests.calls j).late ∧ call.stage = (requests.calls j).stage)
      ⟨rfl, rfl, rfl⟩ (fun _ _ => ⟨rfl, rfl, rfl⟩)
  constructor
  · exact forall_setCall (P := fun _ call => call.stage.Numbered → call.number < requests.next)
      (h.numbered i) (fun j _ => h.numbered j)
  · exact h.unique_setCall
      (fun hi j hj hstage hnumber => hj (h.unique j i hstage hi hnumber))
  · exact forall_setCall (P := fun _ call => call.since ≤ requests.answers.length)
      (h.since i) (fun j _ => h.since j)
  · exact forall_setCall
      (P := fun _ call => ¬call.stage.Entered → call.cell = none ∧ call.late = false)
      (fun hfresh => absurd hentered hfresh) (fun j _ => h.fresh j)
  · intro k j hget
    rw [(hsame j).1, (hsame j).2.2]
    exact h.table k j hget
  · intro k j hget hreading
    have hj : j ≠ i := by
      intro hj
      exact hgone hreading k (hj ▸ hget)
    rw [calls_setCall_of_ne hj]
    obtain ⟨hcell, hnone | ⟨answer, hroute⟩⟩ := h.unanswered k j hget (hmode ▸ hreading)
    · exact ⟨hcell, .inl hnone⟩
    · exact absurd hroute (hbefore k answer)
  · intro k answer hroute
    exact absurd hroute (hrouting k answer)
  · intro j answer hnext
    exact absurd hnext (hanswering j answer)
  · refine forall_setCall
      (P := fun _ call => ∀ answer, call.cell = some (.answered answer) →
        firstSince call.since (key call.number) requests.answers = some answer)
      (fun answer hcell => ?_) (fun j _ => h.answered j)
    -- A call that is answered already keeps its answer.
    rw [Request.settle] at hcell
    cases hbeforeCell : (requests.calls i).cell with
    | none =>
      rw [hbeforeCell] at hcell
      exact hanswer answer hbeforeCell (Option.some.inj hcell)
    | some earlier =>
      rw [hbeforeCell] at hcell
      exact h.answered i answer (hbeforeCell.trans hcell)
  · refine forall_setCall
      (P := fun _ call => ∀ earlier, call.stage = .settled earlier → call.cell = some earlier)
      (fun earlier hsettled => ?_) (fun j _ => h.settled j)
    rw [Request.settle, h.settled i earlier hsettled]
    rfl
  · exact forall_setCall
      (P := fun j call => call.stage.Waits → call.cell = none → call.late = false →
        handling.Keeps requests.pending (key call.number) j)
      (fun _ hcell => by cases hcell)
      (fun j hj hwaits hcell hnotLate => hkeeps _ j hj (h.kept j hwaits hcell hnotLate))
  · refine forall_setCall
      (P := fun _ call => call.late = true → handling.isFailing = true ∧ call.cell = none)
      (fun hlateI => ?_) (fun j _ hlateJ => ⟨hmode ▸ (h.late j hlateJ).1, (h.late j hlateJ).2⟩)
    exact absurd hlateI (by rw [Request.settle, hlate]; exact Bool.false_ne_true)
  · intro calls error hnext j hj
    rw [(hsame j).2.1, (hsame j).2.2]
    obtain ⟨earlier, hearlier, hmem⟩ := hfailing calls error hnext
    exact h.failing earlier error hearlier j (hmem j hj)

theorem Sound.complete (h : requests.Sound key)
    (hhandling : requests.handling = .answering i answer) :
    ({ requests.setCall i ((requests.calls i).settle (.answered answer)) with
      handling := .reading } : Requests κ ρ ε).Sound key := by
  obtain ⟨hentered, hcell, hgone, hfirst⟩ := h.answering i answer hhandling
  apply h.settle hentered
  · rw [← Bool.not_eq_true]
    intro hlate
    have hfailing := (h.late i hlate).1
    rw [hhandling] at hfailing
    cases hfailing
  · exact fun _ => hgone
  · intro other _ hother
    cases hother
    exact hfirst
  · exact nofun
  · exact nofun
  · intro _ _ hother
    rw [hhandling] at hother
    cases hother
  · rw [hhandling]
    rfl
  · intro k j hj hkeeps
    rw [hhandling] at hkeeps
    exact hkeeps.resolve_right hj
  · exact nofun

theorem Sound.drain (h : requests.Sound key) (hreading : requests.handling = .reading)
    (error : ε) :
    ({ requests with
      handling := .failing (requests.pending.rows.map Prod.snd) error } :
        Requests κ ρ ε).Sound key := by
  have hlate : ∀ i, (requests.calls i).late = false := by
    intro i
    rw [← Bool.not_eq_true]
    intro hlate
    have hfailing := (h.late i hlate).1
    rw [hreading] at hfailing
    cases hfailing
  refine
    { h with
      unanswered := nofun
      routing := nofun
      answering := nofun
      kept := fun i hwaits hcell _ => ?_
      late := fun i hother => absurd ((hlate i).symm.trans hother) Bool.false_ne_true
      failing := fun calls other hfailing i hi => ?_ }
  · have hkept := h.kept i hwaits hcell (hlate i)
    simp only [hreading, Handling.Keeps] at hkept
    obtain ⟨row, hrow, hvalue⟩ := Option.map_eq_some_iff.mp hkept
    exact List.mem_map.mpr ⟨row, (KeyedTable.mem_of_lookup hrow).1, hvalue⟩
  · cases hfailing
    refine ⟨hlate i, ?_⟩
    obtain ⟨row, hrow, hvalue⟩ := List.mem_map.mp hi
    have hget : requests.pending.get row.1 = some i :=
      Option.map_eq_some_iff.mpr
        ⟨row, KeyedTable.lookup_eq_some_iff.mpr ⟨hrow, rfl⟩, hvalue⟩
    exact (h.table row.1 i hget).2

theorem Sound.failNext (h : requests.Sound key) {rest : List Nat}
    (hhandling : requests.handling = .failing (i :: rest) error) :
    ({ requests.setCall i ((requests.calls i).settle (.failed error)) with
      handling := .failing rest error } : Requests κ ρ ε).Sound key := by
  obtain ⟨hlate, hentered⟩ := h.failing _ error hhandling i List.mem_cons_self
  apply h.settle hentered hlate
  · exact nofun
  · exact nofun
  · exact nofun
  · exact nofun
  · intro _ _ hother
    rw [hhandling] at hother
    cases hother
  · rw [hhandling]
    rfl
  · intro k j hj hkeeps
    rw [hhandling] at hkeeps
    exact (List.mem_cons.mp hkeeps).resolve_left hj
  · intro calls other hfailing
    cases hfailing
    exact ⟨_, hhandling, fun j hj => List.mem_cons_of_mem _ hj⟩

theorem Sound.clear (h : requests.Sound key) {calls : List Nat}
    (hhandling : requests.handling = .failing calls error) :
    ({ requests with pending := KeyedTable.empty _ } : Requests κ ρ ε).Sound key := by
  refine
    { h with
      table := nofun
      unanswered := nofun
      answering := fun i answer hother => by cases hhandling.symm.trans hother
      kept := fun i hwaits hcell hlate => ?_ }
  have hkept := h.kept i hwaits hcell hlate
  simp only [hhandling, Handling.Keeps] at hkept ⊢
  exact hkept

/-! ## Steps -/

inductive Stepped (key : Nat → κ) (requests : Requests κ ρ ε) :
    RequestsAction κ ρ ε → Requests κ ρ ε → Prop
  | allocate {i : Nat} (hstage : (requests.calls i).stage = .idle) :
      Stepped key requests (.allocate i)
        { requests.setCall i { Request.idle with
            stage := .allocated
            number := requests.next } with
          next := requests.next + 1 }
  | register {i : Nat} (hstage : (requests.calls i).stage = .allocated) :
      Stepped key requests (.register i)
        { requests.setCall i { requests.calls i with
            stage := .registered
            since := requests.answers.length
            late := requests.handling.isFailing } with
          pending := requests.pending.set (key (requests.calls i).number) i }
  /-- A caller goes on, the table as it was. -/
  | goOn {action : RequestsAction κ ρ ε} {i : Nat} {stage : RequestStage ρ ε}
      (hcaller : action.OfCaller) (hnumbered : (requests.calls i).stage.Numbered)
      (hentered : stage.Entered) (hwaits : stage.Waits → (requests.calls i).stage.Waits)
      (hsettled : ∀ settlement, stage = .settled settlement →
        (requests.calls i).cell = some settlement)
      (hawaits : stage = .awaiting →
        action = .offer i ∧ (requests.calls i).stage = .registered) :
      Stepped key requests action (requests.setStage i stage)
  | remove {i : Nat} {error : Option ε} (hnumbered : (requests.calls i).stage.Numbered)
      (hwaits : ¬(requests.calls i).stage.Waits) :
      Stepped key requests (.remove i)
        ({ requests with pending := requests.pending.delete (key (requests.calls i).number) }
          |>.setStage i (.abandoned error))
  | receive {k : κ} {answer : ρ} (hreading : requests.handling = .reading) :
      Stepped key requests (.receive k answer)
        { requests with
          answers := requests.answers ++ [(k, answer)]
          handling := if requests.pending.has k then .routing k answer else .reading }
  | takeNone {k : κ} {answer : ρ} (hrouting : requests.handling = .routing k answer)
      (hget : requests.pending.get k = none) :
      Stepped key requests .take { requests with handling := .reading }
  | take {k : κ} {answer : ρ} {i : Nat} (hrouting : requests.handling = .routing k answer)
      (hget : requests.pending.get k = some i) :
      Stepped key requests .take
        { requests with
          pending := requests.pending.delete k
          handling := .answering i answer }
  | complete {i : Nat} {answer : ρ} (hhandling : requests.handling = .answering i answer) :
      Stepped key requests .complete
        { requests.setCall i ((requests.calls i).settle (.answered answer)) with
          handling := .reading }
  | drain {error : ε} (hreading : requests.handling = .reading) :
      Stepped key requests (.drain error)
        { requests with handling := .failing (requests.pending.rows.map Prod.snd) error }
  | failNext {i : Nat} {rest : List Nat} {error : ε}
      (hhandling : requests.handling = .failing (i :: rest) error) :
      Stepped key requests .failNext
        { requests.setCall i ((requests.calls i).settle (.failed error)) with
          handling := .failing rest error }
  | clear {calls : List Nat} {error : ε} (hhandling : requests.handling = .failing calls error) :
      Stepped key requests .clear { requests with pending := KeyedTable.empty _ }

theorem stepped (hstep : requests.step key action = some next) :
    Stepped key requests action next := by
  have hgoOn : ∀ {action : RequestsAction κ ρ ε} (i : Nat) (stage : RequestStage ρ ε),
      action.OfCaller → (requests.calls i).stage.Numbered → stage.Entered → ¬stage.Waits →
      (∀ settlement, stage ≠ .settled settlement) → stage ≠ .awaiting →
        Stepped key requests action (requests.setStage i stage) :=
    fun i stage hcaller hnumbered hentered hwaits hsettled hawaits =>
      .goOn hcaller hnumbered hentered (fun hnext => absurd hnext hwaits)
        (fun _ hnext => absurd hnext (hsettled _)) fun hnext => absurd hnext hawaits
  cases action with
  | offer i =>
    simp only [Requests.step] at hstep
    split at hstep
    · rename_i hstage
      cases hstep
      refine .goOn trivial ?_ trivial (fun _ => ?_) nofun
        fun _ => ⟨rfl, hstage⟩
      · rw [hstage]
        trivial
      · rw [hstage]
        trivial
    · cases hstep
  | wake i =>
    simp only [Requests.step] at hstep
    split at hstep
    · rename_i hstage hcell
      cases hstep
      refine .goOn trivial ?_ trivial (fun hnext => hnext.elim) (fun _ hnext => ?_)
        nofun
      · rw [hstage]
        trivial
      · cases hnext
        exact hcell
    · cases hstep
  | refuse i =>
    simp only [Requests.step] at hstep
    split at hstep
    · rename_i hstage
      cases hstep
      exact hgoOn i _ trivial (by rw [hstage]; trivial) trivial id nofun nofun
    · cases hstep
  | interrupt i =>
    simp only [Requests.step] at hstep
    split at hstep
    case h_5 => cases hstep
    all_goals
      rename_i hstage
      cases hstep
      exact hgoOn i _ trivial (by rw [hstage]; trivial) trivial id nofun nofun
  | remove i =>
    simp only [Requests.step] at hstep
    split at hstep
    case h_3 => cases hstep
    all_goals
      rename_i hstage
      cases hstep
      exact .remove (by rw [hstage]; trivial) (by rw [hstage]; exact id)
  | take =>
    simp only [Requests.step] at hstep
    split at hstep
    · rename_i hrouting
      split at hstep
      · rename_i hget
        cases hstep
        exact .takeNone hrouting hget
      · rename_i hget
        cases hstep
        exact .take hrouting hget
    · cases hstep
  | allocate | register | receive | complete | drain | failNext | clear =>
    simp only [Requests.step] at hstep
    split at hstep
    · rename_i hguard
      cases hstep
      constructor
      exact hguard
    · cases hstep

theorem Sound.step (h : requests.Sound key) (hkey : Function.Injective key)
    (hstep : requests.step key action = some next) : next.Sound key := by
  cases stepped hstep with
  | allocate hstage => exact h.allocate hstage
  | register hstage => exact h.register hkey hstage
  | goOn _ hnumbered hentered hwaits hsettled =>
    exact h.setStage hnumbered hentered hwaits hsettled
  | remove hnumbered hwaits =>
    apply (h.forget hkey hnumbered hwaits).setStage
    · exact hnumbered
    · trivial
    · exact fun hother => hother.elim
    · exact nofun
  | receive hreading => exact h.receive hreading _ _
  | takeNone hrouting hget => exact h.takeNone hrouting hget
  | take hrouting hget => exact h.take hkey hrouting hget
  | complete hhandling => exact h.complete hhandling
  | drain hreading => exact h.drain hreading _
  | failNext hhandling => exact h.failNext hhandling
  | clear hhandling => exact h.clear hhandling

theorem Sound.exec (h : requests.Sound key) (hkey : Function.Injective key)
    {actions : List (RequestsAction κ ρ ε)}
    (hexec : Base.exec (Requests.step key) requests actions = some next) : next.Sound key :=
  exec_invariant (fun _ _ _ hsound hstep => Sound.step hsound hkey hstep) h hexec

/-- What a step leaves of a call: it stays registered, and waits only after its offer. -/
def CallKept (requests : Requests κ ρ ε) (action : RequestsAction κ ρ ε) (i : Nat)
    (call : Request ρ ε) : Prop :=
  ((requests.calls i).stage.Entered →
    call.stage.Entered ∧ call.late = (requests.calls i).late) ∧
  (call.stage = .awaiting → (requests.calls i).stage = .awaiting ∨
    (action = .offer i ∧ (requests.calls i).stage = .registered))

omit [DecidableEq κ] in
theorem CallKept.of_calls {j : Nat} {request : Request ρ ε}
    (hnext : next.calls = (requests.setCall j request).calls)
    (h : CallKept requests action j request) : CallKept requests action i (next.calls i) := by
  rw [hnext]
  exact forall_setCall h (fun _ _ => ⟨fun hbefore => ⟨hbefore, rfl⟩, .inl⟩) i

theorem step_call (hstep : requests.step key action = some next) (i : Nat) :
    CallKept requests action i (next.calls i) := by
  cases stepped hstep with
  | allocate hstage | register hstage =>
    exact .of_calls rfl ⟨fun hother => by rw [hstage] at hother; exact hother.elim, nofun⟩
  | goOn _ _ hentered _ _ hawaits =>
    exact .of_calls rfl ⟨fun _ => ⟨hentered, rfl⟩, fun hnext => .inr (hawaits hnext)⟩
  | remove => exact .of_calls rfl ⟨fun _ => ⟨trivial, rfl⟩, nofun⟩
  | complete | failNext => exact .of_calls rfl ⟨fun hentered => ⟨hentered, rfl⟩, .inl⟩
  | receive | takeNone | take | drain | clear =>
    exact ⟨fun hentered => ⟨hentered, rfl⟩, .inl⟩

theorem handling_of_caller (hstep : requests.step key action = some next)
    (hcaller : action.OfCaller) : next.handling = requests.handling := by
  cases stepped hstep with
  | allocate | register | goOn | remove => rfl
  | receive | takeNone | take | complete | drain | failNext | clear => exact hcaller.elim

theorem answers_of_caller (hstep : requests.step key action = some next)
    (hcaller : action.OfCaller) : next.answers = requests.answers := by
  cases stepped hstep with
  | allocate | register | goOn | remove => rfl
  | receive | takeNone | take | complete | drain | failNext | clear => exact hcaller.elim

theorem Sound.pending_of_caller (h : requests.Sound key)
    (hstep : requests.step key action = some next) (hcaller : action.OfCaller)
    (hget : next.pending.get k = some i) :
    (requests.pending.get k = some i ∧ (next.calls i).since = (requests.calls i).since) ∨
      (next.calls i).since = requests.answers.length := by
  have hstage : ∀ j stage, ((requests.setStage j stage).calls i).since =
      (requests.calls i).since := by
    intro j stage
    by_cases hj : i = j
    · subst hj
      rw [Requests.setStage, calls_setCall_self]
    · exact congrArg Request.since (calls_setCall_of_ne hj _)
  cases stepped hstep with
  | @allocate j hidle =>
    have hj : i ≠ j := by
      intro hj
      have hentered := (h.table k i hget).2
      rw [hj, hidle] at hentered
      exact hentered
    exact .inl ⟨hget, congrArg Request.since (calls_setCall_of_ne hj _)⟩
  | @register j _ =>
    by_cases hk : k = key (requests.calls j).number
    · subst hk
      rw [KeyedMap.get_set_self] at hget
      cases hget
      right
      rw [calls_setCall_self]
    · rw [KeyedMap.get_set_of_ne hk] at hget
      by_cases hj : i = j
      · subst hj
        right
        rw [calls_setCall_self]
      · exact .inl ⟨hget, congrArg Request.since (calls_setCall_of_ne hj _)⟩
  | goOn => exact .inl ⟨hget, hstage _ _⟩
  | @remove j _ _ _ =>
    refine .inl ⟨?_, hstage _ _⟩
    change (requests.pending.delete (key (requests.calls j).number)).get k = some i at hget
    by_cases hk : k = key (requests.calls j).number
    · rw [hk, KeyedMap.get_delete_self] at hget
      cases hget
    · rwa [KeyedMap.get_delete_of_ne hk] at hget
  | receive | takeNone | take | complete | drain | failNext | clear => exact hcaller.elim

theorem next_le_of_step (hstep : requests.step key action = some next) :
    requests.next ≤ next.next := by
  cases stepped hstep with
  | allocate => exact Nat.le_succ _
  | register | goOn | remove | receive | takeNone | take | complete | drain | failNext | clear =>
    exact Nat.le_refl _

variable {actions : List (RequestsAction κ ρ ε)}

theorem next_le_of_exec (hexec : Base.exec (Requests.step key) requests actions = some next) :
    requests.next ≤ next.next := by
  induction actions generalizing requests with
  | nil =>
    cases hexec
    exact Nat.le_refl _
  | cons action actions ih =>
    obtain ⟨middle, hstep, hrest⟩ := exec_cons_eq_some hexec
    exact Nat.le_trans (next_le_of_step hstep) (ih hrest)

theorem handling_of_take (hstep : requests.step key .take = some next) :
    ∃ k answer, requests.handling = .routing k answer := by
  simp only [Requests.step] at hstep
  split at hstep
  · rename_i k answer hhandling
    exact ⟨k, answer, hhandling⟩
  · cases hstep

theorem handling_of_receive (hstep : requests.step key (.receive k answer) = some next) :
    requests.handling = .reading ∧ next.pending = requests.pending ∧
      (requests.pending.has k = false → next.handling = .reading) := by
  simp only [Requests.step] at hstep
  split at hstep
  · rename_i hreading
    cases hstep
    refine ⟨hreading, rfl, ?_⟩
    intro hhas
    show (if _ then _ else _ : Handling κ ρ ε) = .reading
    rw [hhas]
    rfl
  · cases hstep

theorem handling_of_complete (hstep : requests.step key .complete = some next) :
    (∃ i answer, requests.handling = .answering i answer) ∧ next.handling = .reading := by
  simp only [Requests.step] at hstep
  split at hstep
  · rename_i i answer hhandling
    cases hstep
    exact ⟨⟨i, answer, hhandling⟩, rfl⟩
  · cases hstep

theorem handling_of_drain (hstep : requests.step key (.drain error) = some next) :
    requests.handling = .reading ∧
      next.handling = .failing (requests.pending.rows.map Prod.snd) error := by
  simp only [Requests.step] at hstep
  split at hstep
  · rename_i hreading
    cases hstep
    exact ⟨hreading, rfl⟩
  · cases hstep

theorem handling_of_failNext (hstep : requests.step key .failNext = some next) :
    ∃ i rest error, requests.handling = .failing (i :: rest) error ∧
      next.handling = .failing rest error := by
  simp only [Requests.step] at hstep
  split at hstep
  · rename_i i rest error hhandling
    cases hstep
    exact ⟨i, rest, error, hhandling, rfl⟩
  · cases hstep

theorem handling_of_clear (hstep : requests.step key .clear = some next) :
    next.handling = requests.handling := by
  simp only [Requests.step] at hstep
  split at hstep
  · cases hstep
    rfl
  · cases hstep

/-- Only `drain` ends the reading of answers. -/
theorem isFailing_of_step (hstep : requests.step key action = some next)
    (hdrain : ∀ error, action ≠ .drain error) :
    next.handling.isFailing = requests.handling.isFailing := by
  cases stepped hstep with
  | allocate | register | goOn | remove | clear => rfl
  | receive hreading =>
    rw [hreading]
    show (if _ then _ else _ : Handling κ ρ ε).isFailing = false
    split
    · rfl
    · rfl
  | takeNone hhandling | take hhandling | complete hhandling | failNext hhandling =>
    rw [hhandling]
    rfl
  | drain => exact absurd rfl (hdrain _)

theorem offer_eq_some (hstep : requests.step key (.offer i) = some next) :
    (next.calls i).stage = .awaiting ∧ (next.calls i).late = (requests.calls i).late := by
  simp only [Requests.step] at hstep
  split at hstep
  · cases hstep
    simp [setStage]
  · cases hstep

theorem exec_call (hexec : Base.exec (Requests.step key) requests actions = some next) (i : Nat) :
    ((requests.calls i).stage.Entered →
      (next.calls i).stage.Entered ∧ (next.calls i).late = (requests.calls i).late) ∧
    ((next.calls i).stage = .awaiting →
      (requests.calls i).stage = .awaiting ∨ .offer i ∈ actions) := by
  induction actions generalizing requests with
  | nil =>
    cases hexec
    exact ⟨fun hentered => ⟨hentered, rfl⟩, .inl⟩
  | cons action actions ih =>
    obtain ⟨middle, hstep, hrest⟩ := exec_cons_eq_some hexec
    obtain ⟨hentered, hawaits⟩ := step_call hstep i
    obtain ⟨henteredRest, hawaitsRest⟩ := ih hrest
    constructor
    · intro hbefore
      obtain ⟨hmiddle, hlate⟩ := hentered hbefore
      obtain ⟨hnext, hlateRest⟩ := henteredRest hmiddle
      exact ⟨hnext, hlateRest.trans hlate⟩
    · intro hnext
      rcases hawaitsRest hnext with hmiddle | hoffer
      · rcases hawaits hmiddle with hbefore | ⟨hsame, -⟩
        · exact .inl hbefore
        · exact .inr (hsame ▸ List.mem_cons_self)
      · exact .inr (List.mem_cons_of_mem _ hoffer)

theorem Sound.first (h : requests.Sound key)
    (hsettled : (requests.calls i).stage = .settled (.answered answer)) :
    firstSince (requests.calls i).since (key (requests.calls i).number) requests.answers =
      some answer :=
  h.answered i answer (h.settled i _ hsettled)

theorem Sound.left (h : requests.Sound key) (hhandling : requests.handling = .failing [] error)
    (hwaits : (requests.calls i).stage.Waits) :
    (requests.calls i).cell = none ↔ (requests.calls i).late = true := by
  constructor
  · intro hcell
    rw [← Bool.not_eq_false]
    intro hlate
    have hkept := h.kept i hwaits hcell hlate
    simp [hhandling, Handling.Keeps] at hkept
  · exact fun hlate => (h.late i hlate).2

end Requests

end GT3Code.Base
