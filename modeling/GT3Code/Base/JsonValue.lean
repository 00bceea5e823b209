import Mathlib.Data.List.Nodup
import Mathlib.Data.List.Induction
import Mathlib.Algebra.Order.BigOperators.Group.List
import Mathlib.Algebra.Order.Ring.Nat

/-! # JSON values

Strings are lists of UTF-16 code units. A document is generic in its string
literals: the literals of a text, or the strings they denote. A value is a
document of strings in which no object has a key twice; what a text denotes is
made one by letting the last of repeated keys win.
-/

namespace GT3Code.Base.Json

abbrev CodeUnit := Nat

abbrev Text := List CodeUnit

instance lawfulBEqText : LawfulBEq Text := inferInstance

inductive NumberState where
  | start
  | minus
  | zero
  | integer
  | point
  | fraction
  | exponentMark
  | exponentSign
  | exponent

def isDigit (u : CodeUnit) : Bool := 48 ≤ u && u ≤ 57

/-- `E` or `e`. -/
def isExponentMark (u : CodeUnit) : Bool := u = 69 || u = 101

/-- `+` or `-`. -/
def isSign (u : CodeUnit) : Bool := u = 43 || u = 45

def isPoint (u : CodeUnit) : Bool := u = 46

/-- Automaton of `-?(0|[1-9][0-9]*)(\.[0-9]+)?([Ee][+-]?[0-9]+)?`. -/
def numberStep : NumberState → CodeUnit → Option NumberState
  | .start, u =>
    if u = 45 then some .minus
    else if u = 48 then some .zero
    else if isDigit u then some .integer
    else none
  | .minus, u =>
    if u = 48 then some .zero
    else if isDigit u then some .integer
    else none
  | .zero, u =>
    if isPoint u then some .point
    else if isExponentMark u then some .exponentMark
    else none
  | .integer, u =>
    if isDigit u then some .integer
    else if isPoint u then some .point
    else if isExponentMark u then some .exponentMark
    else none
  | .point, u => if isDigit u then some .fraction else none
  | .fraction, u =>
    if isDigit u then some .fraction
    else if isExponentMark u then some .exponentMark
    else none
  | .exponentMark, u =>
    if isSign u then some .exponentSign
    else if isDigit u then some .exponent
    else none
  | .exponentSign, u => if isDigit u then some .exponent else none
  | .exponent, u => if isDigit u then some .exponent else none

def NumberState.accepts : NumberState → Bool
  | .zero | .integer | .fraction | .exponent => true
  | _ => false

def numberFrom (state : NumberState) : Text → Bool
  | [] => state.accepts
  | u :: rest =>
    match numberStep state u with
    | some next => numberFrom next rest
    | none => false

def isNumber (units : Text) : Bool := numberFrom .start units

abbrev NumberLiteral := { units : Text // isNumber units = true }

def isNumberUnit (u : CodeUnit) : Bool :=
  isDigit u || isSign u || isPoint u || isExponentMark u

variable {state : NumberState} {u : CodeUnit}

theorem isNumberUnit_of_step {next : NumberState} (h : numberStep state u = some next) :
    isNumberUnit u = true := by
  cases state <;> simp only [numberStep] at h <;> grind [isNumberUnit, isDigit, isSign]

theorem isNumberUnit_of_mem {units : Text} (h : numberFrom state units = true) (hu : u ∈ units) :
    isNumberUnit u = true := by
  induction units generalizing state with
  | nil => cases hu
  | cons first rest ih =>
    simp only [numberFrom] at h
    cases hstep : numberStep state first with
    | none => simp [hstep] at h
    | some next =>
      simp only [hstep] at h
      rcases List.mem_cons.mp hu with rfl | hrest
      · exact isNumberUnit_of_step hstep
      · exact ih h hrest

/-! ## Documents -/

inductive Scalar where
  | null
  | bool (value : Bool)
  | num (literal : NumberLiteral)

inductive Doc (σ : Type) where
  | scalar (value : Scalar)
  | str (value : σ)
  | arr (items : List (Doc σ))
  | obj (entries : List (σ × Doc σ))

namespace Doc

variable {σ τ υ β : Type}

structure Algebra (σ β : Type) where
  scalar : Scalar → β
  str : σ → β
  arr : List β → β
  obj : List (σ × β) → β

mutual

def fold (algebra : Algebra σ β) : Doc σ → β
  | .scalar value => algebra.scalar value
  | .str value => algebra.str value
  | .arr items => algebra.arr (foldItems algebra items)
  | .obj entries => algebra.obj (foldEntries algebra entries)

def foldItems (algebra : Algebra σ β) : List (Doc σ) → List β
  | [] => []
  | item :: rest => fold algebra item :: foldItems algebra rest

def foldEntries (algebra : Algebra σ β) : List (σ × Doc σ) → List (σ × β)
  | [] => []
  | entry :: rest => foldEntry algebra entry :: foldEntries algebra rest

def foldEntry (algebra : Algebra σ β) : σ × Doc σ → σ × β
  | (key, value) => (key, fold algebra value)

end

theorem foldItems_eq (algebra : Algebra σ β) (items : List (Doc σ)) :
    foldItems algebra items = items.map (fold algebra) := by
  induction items with
  | nil => rfl
  | cons item rest ih => simp [foldItems, ih]

theorem foldEntries_eq (algebra : Algebra σ β) (entries : List (σ × Doc σ)) :
    foldEntries algebra entries =
      entries.map (fun entry => (entry.1, fold algebra entry.2)) := by
  induction entries with
  | nil => rfl
  | cons entry rest ih =>
    obtain ⟨key, value⟩ := entry
    simp [foldEntries, foldEntry, ih]

@[simp] theorem fold_scalar (algebra : Algebra σ β) (value : Scalar) :
    fold algebra (.scalar value) = algebra.scalar value := rfl

@[simp] theorem fold_str (algebra : Algebra σ β) (value : σ) :
    fold algebra (.str value) = algebra.str value := rfl

@[simp] theorem fold_arr (algebra : Algebra σ β) (items : List (Doc σ)) :
    fold algebra (.arr items) = algebra.arr (items.map (fold algebra)) := by
  rw [fold, foldItems_eq]

@[simp] theorem fold_obj (algebra : Algebra σ β) (entries : List (σ × Doc σ)) :
    fold algebra (.obj entries) =
      algebra.obj (entries.map (fun entry => (entry.1, fold algebra entry.2))) := by
  rw [fold, foldEntries_eq]

theorem induction {motive : Doc σ → Prop} (scalar : ∀ value, motive (.scalar value))
    (str : ∀ value, motive (.str value))
    (arr : ∀ items, (∀ item ∈ items, motive item) → motive (.arr items))
    (obj : ∀ entries, (∀ entry ∈ entries, motive entry.2) → motive (.obj entries))
    (d : Doc σ) : motive d :=
  match d with
  | .scalar value => scalar value
  | .str value => str value
  | .arr items => arr items (fun item _ => induction scalar str arr obj item)
  | .obj entries => obj entries (fun entry _ => induction scalar str arr obj entry.2)
termination_by sizeOf d
decreasing_by
  · have hitem := List.sizeOf_lt_of_mem ‹item ∈ items›
    simp only [Doc.arr.sizeOf_spec]
    omega
  · have hentry := List.sizeOf_lt_of_mem ‹entry ∈ entries›
    have hvalue : sizeOf entry.2 < sizeOf entry := by
      obtain ⟨key, value⟩ := entry
      simp only [Prod.mk.sizeOf_spec]
      omega
    simp only [Doc.obj.sizeOf_spec]
    omega

def map (f : σ → τ) : Doc σ → Doc τ :=
  fold {
    scalar := .scalar
    str := fun value => .str (f value)
    arr := .arr
    obj := fun entries => .obj (entries.map (fun entry => (f entry.1, entry.2))) }

@[simp] theorem map_scalar (f : σ → τ) (value : Scalar) :
    map f (.scalar value) = .scalar value := rfl

@[simp] theorem map_str (f : σ → τ) (value : σ) : map f (.str value) = .str (f value) := rfl

@[simp] theorem map_arr (f : σ → τ) (items : List (Doc σ)) :
    map f (.arr items) = .arr (items.map (map f)) := by
  simp [map]

@[simp] theorem map_obj (f : σ → τ) (entries : List (σ × Doc σ)) :
    map f (.obj entries) = .obj (entries.map (fun entry => (f entry.1, map f entry.2))) := by
  simp [map, Function.comp_def]

theorem map_map (g : τ → υ) (f : σ → τ) (d : Doc σ) :
    map g (map f d) = map (fun value => g (f value)) d := by
  induction d using Doc.induction with
  | scalar value => rfl
  | str value => rfl
  | arr items ih => simpa using ih
  | obj entries ih => simpa using fun a b hb => ih (a, b) hb

def literals : Doc σ → List σ :=
  fold {
    scalar := fun _ => []
    str := fun value => [value]
    arr := List.flatten
    obj := fun entries => (entries.map (fun entry => entry.1 :: entry.2)).flatten }

@[simp] theorem literals_scalar (value : Scalar) : literals (σ := σ) (.scalar value) = [] := rfl

@[simp] theorem literals_str (value : σ) : literals (.str value) = [value] := rfl

@[simp] theorem literals_arr (items : List (Doc σ)) :
    literals (.arr items) = (items.map literals).flatten := by
  simp [literals]

@[simp] theorem literals_obj (entries : List (σ × Doc σ)) :
    literals (.obj entries) = (entries.map (fun entry => entry.1 :: literals entry.2)).flatten := by
  simp [literals, Function.comp_def]

theorem literals_map (f : σ → τ) (d : Doc σ) : (map f d).literals = d.literals.map f := by
  induction d using Doc.induction with
  | scalar value => rfl
  | str value => rfl
  | arr items ih =>
    simp only [map_arr, literals_arr, List.map_map, List.map_flatten]
    congr 1
    exact List.map_congr_left ih
  | obj entries ih =>
    simp only [map_obj, literals_obj, List.map_map, List.map_flatten]
    congr 1
    refine List.map_congr_left (fun entry h => ?_)
    simp [ih entry h]

variable {d : Doc σ}

theorem map_congr {f g : σ → τ} (h : ∀ literal ∈ d.literals, f literal = g literal) :
    map f d = map g d := by
  induction d using Doc.induction with
  | scalar value => rfl
  | str value => simpa using h
  | arr items ih =>
    simp only [map_arr, arr.injEq]
    refine List.map_congr_left (fun item hitem => ih item hitem (fun literal hliteral => ?_))
    exact h literal (by
      rw [literals_arr]
      exact List.mem_flatten.mpr ⟨_, List.mem_map_of_mem hitem, hliteral⟩)
  | obj entries ih =>
    simp only [map_obj, obj.injEq]
    refine List.map_congr_left (fun entry hentry => ?_)
    have hmem : ∀ literal ∈ entry.1 :: entry.2.literals, f literal = g literal := by
      intro literal hliteral
      exact h literal (by
        rw [literals_obj]
        exact List.mem_flatten.mpr ⟨_, List.mem_map_of_mem hentry, hliteral⟩)
    rw [hmem entry.1 (by simp),
      ih entry hentry (fun literal hliteral => hmem literal (by simp [hliteral]))]

theorem map_id' (d : Doc σ) : map (fun value => value) d = d := by
  induction d using Doc.induction with
  | scalar value => rfl
  | str value => rfl
  | arr items ih =>
    rw [map_arr, List.map_congr_left ih, List.map_id']
  | obj entries ih =>
    have hentries : ∀ entry ∈ entries, (entry.1, map (fun value => value) entry.2) = entry :=
      fun entry h => Prod.ext rfl (ih entry h)
    rw [map_obj, List.map_congr_left hentries, List.map_id']

def weight (f : σ → Nat) (d : Doc σ) : Nat := (d.literals.map f).sum

@[simp] theorem weight_scalar (f : σ → Nat) (value : Scalar) : weight f (.scalar value) = 0 := rfl

@[simp] theorem weight_str (f : σ → Nat) (value : σ) : weight f (.str value) = f value := by
  simp [weight]

@[simp] theorem weight_arr (f : σ → Nat) (items : List (Doc σ)) :
    weight f (.arr items) = (items.map (weight f)).sum := by
  simp only [weight, literals_arr, List.map_flatten, List.sum_flatten, List.map_map]
  rfl

@[simp] theorem weight_obj (f : σ → Nat) (entries : List (σ × Doc σ)) :
    weight f (.obj entries) = (entries.map (fun entry => f entry.1 + weight f entry.2)).sum := by
  simp only [weight, literals_obj, List.map_flatten, List.sum_flatten, List.map_map]
  rfl

theorem weight_map (g : τ → Nat) (f : σ → τ) (d : Doc σ) :
    weight g (map f d) = weight (fun value => g (f value)) d := by
  rw [weight, literals_map, List.map_map]
  rfl

theorem weight_lt {f g : σ → Nat} (hle : ∀ literal ∈ d.literals, f literal ≤ g literal)
    (hlt : ∃ literal ∈ d.literals, f literal < g literal) : weight f d < weight g d :=
  List.sum_lt_sum f g hle hlt

/-! ## Repeated keys -/

section Keys

variable [DecidableEq σ]

/-- `object[key] = value`: a key that is there keeps its place. -/
@[grind] def insertEntry (key : σ) (value : β) : List (σ × β) → List (σ × β)
  | [] => [(key, value)]
  | entry :: rest =>
    if entry.1 = key then (key, value) :: rest else entry :: insertEntry key value rest

/-- Own property of an object; nothing for a value that is no object. -/
def field? (key : σ) : Doc σ → Option (Doc σ)
  | .obj entries => (entries.find? (fun entry => entry.1 = key)).map Prod.snd
  | _ => none

def insertAll (entries : List (σ × β)) : List (σ × β) :=
  entries.foldl (fun object entry => insertEntry entry.1 entry.2 object) []

variable {key : σ} {value : β} {object entries : List (σ × β)}

variable {entry : σ × β}

theorem mem_insertEntry (h : entry ∈ insertEntry key value object) :
    entry = (key, value) ∨ entry ∈ object := by
  induction object with
  | nil => simpa [insertEntry] using h
  | cons first rest ih =>
    rw [insertEntry] at h
    split at h
    · rcases List.mem_cons.mp h with rfl | h
      · exact Or.inl rfl
      · exact Or.inr (List.mem_cons_of_mem _ h)
    · rcases List.mem_cons.mp h with rfl | h
      · exact Or.inr List.mem_cons_self
      · exact (ih h).imp_right (List.mem_cons_of_mem _)

theorem insertEntry_of_notMem (h : key ∉ object.map Prod.fst) :
    insertEntry key value object = object ++ [(key, value)] := by
  induction object with
  | nil => rfl
  | cons first rest ih =>
    simp only [List.map_cons, List.mem_cons, not_or] at h
    rw [insertEntry, if_neg (Ne.symm h.1), ih h.2, List.cons_append]

theorem keys_insertEntry_of_mem (h : key ∈ object.map Prod.fst) :
    (insertEntry key value object).map Prod.fst = object.map Prod.fst := by
  induction object with
  | nil => cases h
  | cons first rest ih =>
    rw [insertEntry]
    by_cases hfirst : first.1 = key
    · simp [hfirst]
    · have hrest : key ∈ rest.map Prod.fst := by
        rcases List.mem_cons.mp h with heq | hrest
        · exact absurd heq.symm hfirst
        · exact hrest
      rw [if_neg hfirst, List.map_cons, List.map_cons, ih hrest]

theorem nodup_insertEntry (h : (object.map Prod.fst).Nodup) :
    ((insertEntry key value object).map Prod.fst).Nodup := by
  by_cases hmem : key ∈ object.map Prod.fst
  · rwa [keys_insertEntry_of_mem hmem]
  · rw [insertEntry_of_notMem hmem, List.map_append]
    refine List.nodup_append.mpr ⟨h, List.nodup_singleton key, ?_⟩
    intro other hother same hsame
    rw [List.map_singleton, List.mem_singleton] at hsame
    rintro rfl
    subst hsame
    exact hmem hother

theorem insertAll_induction {P : List (σ × β) → Prop} (hnil : P [])
    (hinsert : ∀ object, ∀ entry ∈ entries, P object → P (insertEntry entry.1 entry.2 object)) :
    P (insertAll entries) :=
  List.foldlRecOn entries _ hnil (fun object hP entry hentry => hinsert object entry hentry hP)

theorem nodup_insertAll (entries : List (σ × β)) : ((insertAll entries).map Prod.fst).Nodup :=
  insertAll_induction (P := fun object => (object.map Prod.fst).Nodup) List.nodup_nil
    (fun _ _ _ h => nodup_insertEntry h)

theorem mem_of_mem_insertAll (h : entry ∈ insertAll entries) : entry ∈ entries := by
  revert h
  refine insertAll_induction (P := fun object => entry ∈ object → entry ∈ entries) (by simp) ?_
  intro object inserted hinserted hobject h
  rcases mem_insertEntry h with rfl | h
  · exact hinserted
  · exact hobject h

theorem insertAll_of_nodup (h : (entries.map Prod.fst).Nodup) : insertAll entries = entries := by
  induction entries using List.reverseRecOn with
  | nil => rfl
  | append_singleton before entry ih =>
    rw [List.map_append, List.nodup_append] at h
    obtain ⟨hbefore, -, hdisjoint⟩ := h
    have hkey : entry.1 ∉ before.map Prod.fst := by
      intro hmem
      exact hdisjoint entry.1 hmem entry.1 (by simp) rfl
    have hstep : insertAll (before ++ [entry]) =
        insertEntry entry.1 entry.2 (insertAll before) := by
      simp [insertAll, List.foldl_append]
    rw [hstep, ih hbefore, insertEntry_of_notMem hkey]

def distinct : Doc σ → Bool :=
  fold {
    scalar := fun _ => true
    str := fun _ => true
    arr := fun items => items.all id
    obj := fun entries => decide (entries.map Prod.fst).Nodup && entries.all Prod.snd }

def Distinct (d : Doc σ) : Prop := d.distinct = true

theorem distinct_arr (items : List (Doc σ)) :
    Distinct (.arr items) ↔ ∀ item ∈ items, Distinct item := by
  simp [Distinct, distinct]

theorem distinct_obj (entries : List (σ × Doc σ)) :
    Distinct (.obj entries) ↔
      (entries.map Prod.fst).Nodup ∧ ∀ entry ∈ entries, Distinct entry.2 := by
  simp [Distinct, distinct, Function.comp_def]

def dedupe : Doc σ → Doc σ :=
  fold {
    scalar := .scalar
    str := .str
    arr := .arr
    obj := fun entries => .obj (insertAll entries) }

@[simp] theorem dedupe_scalar (value : Scalar) :
    dedupe (σ := σ) (.scalar value) = .scalar value := rfl

@[simp] theorem dedupe_str (value : σ) : dedupe (.str value) = .str value := rfl

@[simp] theorem dedupe_arr (items : List (Doc σ)) :
    dedupe (.arr items) = .arr (items.map dedupe) := by
  simp [dedupe]

@[simp] theorem dedupe_obj (entries : List (σ × Doc σ)) :
    dedupe (.obj entries) =
      .obj (insertAll (entries.map (fun entry => (entry.1, dedupe entry.2)))) := by
  simp [dedupe]

theorem distinct_dedupe (d : Doc σ) : d.dedupe.Distinct := by
  induction d using Doc.induction with
  | scalar value => rfl
  | str value => rfl
  | arr items ih => simpa [distinct_arr] using ih
  | obj entries ih =>
    rw [dedupe_obj, distinct_obj]
    refine ⟨nodup_insertAll _, fun entry hentry => ?_⟩
    obtain ⟨source, hsource, rfl⟩ := List.mem_map.mp (mem_of_mem_insertAll hentry)
    exact ih source hsource

theorem dedupe_of_distinct {d : Doc σ} (h : d.Distinct) : d.dedupe = d := by
  induction d using Doc.induction with
  | scalar value => rfl
  | str value => rfl
  | arr items ih =>
    rw [distinct_arr] at h
    rw [dedupe_arr, List.map_congr_left (fun item hitem => ih item hitem (h item hitem)),
      List.map_id']
  | obj entries ih =>
    obtain ⟨hkeys, hvalues⟩ := (distinct_obj entries).mp h
    have hentries : ∀ entry ∈ entries, (entry.1, dedupe entry.2) = entry :=
      fun entry hentry => Prod.ext rfl (ih entry hentry (hvalues entry hentry))
    rw [dedupe_obj, List.map_congr_left hentries, List.map_id', insertAll_of_nodup hkeys]

theorem sum_insertEntry_le (g : σ → Nat) (w : β → Nat) (key : σ) (value : β)
    (object : List (σ × β)) :
    ((insertEntry key value object).map (fun entry => g entry.1 + w entry.2)).sum ≤
      (object.map (fun entry => g entry.1 + w entry.2)).sum + (g key + w value) := by
  induction object with
  | nil => simp [insertEntry]
  | cons first rest ih =>
    rw [insertEntry]
    split
    · simp only [List.map_cons, List.sum_cons]
      omega
    · simp only [List.map_cons, List.sum_cons]
      omega

theorem sum_insertAll_le (g : σ → Nat) (w : β → Nat) (entries : List (σ × β)) :
    ((insertAll entries).map (fun entry => g entry.1 + w entry.2)).sum ≤
      (entries.map (fun entry => g entry.1 + w entry.2)).sum := by
  induction entries using List.reverseRecOn with
  | nil => simp [insertAll]
  | append_singleton before entry ih =>
    have hinsert := sum_insertEntry_le g w entry.1 entry.2 (insertAll before)
    have hstep : insertAll (before ++ [entry]) =
        insertEntry entry.1 entry.2 (insertAll before) := by
      simp [insertAll, List.foldl_append]
    rw [hstep, List.map_append, List.sum_append]
    simp only [List.map_singleton, List.sum_singleton]
    omega

theorem weight_dedupe_le (f : σ → Nat) (d : Doc σ) : weight f d.dedupe ≤ weight f d := by
  induction d using Doc.induction with
  | scalar value => exact Nat.le_refl _
  | str value => exact Nat.le_refl _
  | arr items ih =>
    rw [dedupe_arr, weight_arr, weight_arr, List.map_map]
    exact List.sum_le_sum (fun item hitem => ih item hitem)
  | obj entries ih =>
    rw [dedupe_obj, weight_obj, weight_obj]
    have hinsert := sum_insertAll_le f (weight f)
      (entries.map (fun entry => (entry.1, dedupe entry.2)))
    refine Nat.le_trans hinsert ?_
    rw [List.map_map]
    exact List.sum_le_sum (fun entry hentry => Nat.add_le_add_left (ih entry hentry) _)

end Keys

end Doc

abbrev Value := { d : Doc Text // d.Distinct }

end GT3Code.Base.Json
