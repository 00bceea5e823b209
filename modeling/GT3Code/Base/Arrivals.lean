import Mathlib.Data.List.Nodup
import Mathlib.Data.List.Perm.Subperm

/-! # Items that arrive in parts

A list of items is remembered in an order and delivered again in parts. The first delivery that
has items is put into the remembered order; what later deliveries add goes to the end as it
arrives. The remembered order comes back exactly when it lists the items of the first delivery
before the others, and these in the order of their arrival.
-/

namespace GT3Code.Base

universe u

variable {α : Type u} [DecidableEq α]

def appendMissing (order delivered : List α) : List α :=
  order ++ delivered.filter (fun a => a ∉ order)

variable {order delivered remembered : List α}

variable {a : α} {seen : List α} {deliveries : List (List α)}

theorem mem_appendMissing : a ∈ appendMissing order delivered ↔ a ∈ order ∨ a ∈ delivered := by
  by_cases h : a ∈ order <;> simp [appendMissing, h]

theorem nodup_appendMissing (horder : order.Nodup) (hdelivered : delivered.Nodup) :
    (appendMissing order delivered).Nodup := by
  refine List.nodup_append.mpr ⟨horder, hdelivered.filter _, ?_⟩
  intro a ha b hb heq
  subst heq
  simpa [ha] using (List.mem_filter.mp hb).2

theorem appendMissing_perm (horder : order.Nodup) (hdelivered : delivered.Nodup)
    (h : order ⊆ delivered) : (appendMissing order delivered).Perm delivered := by
  refine (List.perm_ext_iff_of_nodup (nodup_appendMissing horder hdelivered) hdelivered).mpr ?_
  intro a
  rw [mem_appendMissing]
  exact ⟨fun ha => ha.elim (fun hmem => h hmem) id, Or.inr⟩

/-- What the deliveries add to the items seen before, in the order in which it arrives. -/
def arrivals : List α → List (List α) → List α
  | _, [] => []
  | seen, delivered :: rest =>
    delivered.filter (fun a => a ∉ seen) ++ arrivals (appendMissing seen delivered) rest

theorem arrivals_congr {seen' : List α} (h : ∀ a, a ∈ seen ↔ a ∈ seen')
    (deliveries : List (List α)) : arrivals seen deliveries = arrivals seen' deliveries := by
  induction deliveries generalizing seen seen' with
  | nil => rfl
  | cons delivered rest ih =>
    have hnext : ∀ a, a ∈ appendMissing seen delivered ↔ a ∈ appendMissing seen' delivered :=
      fun a => by rw [mem_appendMissing, mem_appendMissing, h]
    simp only [arrivals, h, ih hnext]

theorem notMem_of_mem_arrivals (h : a ∈ arrivals seen deliveries) : a ∉ seen := by
  induction deliveries generalizing seen with
  | nil => cases h
  | cons delivered rest ih =>
    rcases List.mem_append.mp h with hnew | hlater
    · simpa using (List.mem_filter.mp hnew).2
    · exact fun ha => ih hlater (mem_appendMissing.mpr (Or.inl ha))

def deliverPart (remembered order delivered : List α) : List α :=
  if order = [] then remembered.filter (fun a => a ∈ delivered)
  else appendMissing order delivered

/-- The order lists the items of the first delivery that has some, then what the later ones add
as they add it. -/
def ListsArrivals (remembered : List α) : List (List α) → Prop
  | [] => remembered = []
  | first :: rest =>
    if first = [] then ListsArrivals remembered rest
    else remembered.drop first.length = arrivals first rest

instance decidableListsArrivals (remembered : List α) :
    ∀ deliveries, Decidable (ListsArrivals remembered deliveries)
  | [] => inferInstanceAs (Decidable (remembered = []))
  | first :: rest =>
    have := decidableListsArrivals remembered rest
    inferInstanceAs (Decidable (if first = [] then _ else _))

theorem filter_mem_perm (hremembered : remembered.Nodup) (hdelivered : delivered.Nodup)
    (h : delivered ⊆ remembered) : (remembered.filter (fun a => a ∈ delivered)).Perm delivered := by
  refine (List.perm_ext_iff_of_nodup (hremembered.filter _) hdelivered).mpr ?_
  intro a
  rw [List.mem_filter, decide_eq_true_eq]
  exact ⟨And.right, fun ha => ⟨h ha, ha⟩⟩

theorem foldl_deliverPart_of_ne_nil (remembered : List α) (h : order ≠ [])
    (deliveries : List (List α)) :
    deliveries.foldl (deliverPart remembered) order = order ++ arrivals order deliveries := by
  induction deliveries generalizing order with
  | nil => simp [arrivals]
  | cons delivered rest ih =>
    have hstep : deliverPart remembered order delivered = appendMissing order delivered := if_neg h
    have hne : appendMissing order delivered ≠ [] := List.append_ne_nil_of_left_ne_nil h _
    rw [List.foldl_cons, hstep, ih hne, arrivals, appendMissing, List.append_assoc]

/-- A front of the items in the remembered order with the arrivals behind it is the remembered
order exactly when the order ends with the arrivals. -/
theorem filter_append_arrivals_eq_iff {first : List α} (hremembered : remembered.Nodup)
    (hfirst : first.Nodup) (hsub : first ⊆ remembered) (rest : List (List α)) :
    remembered.filter (fun a => a ∈ first) ++ arrivals first rest = remembered ↔
      remembered.drop first.length = arrivals first rest := by
  have hlength : (remembered.filter (fun a => a ∈ first)).length = first.length :=
    (filter_mem_perm hremembered hfirst hsub).length_eq
  constructor
  · intro h
    conv_lhs => rw [← h, ← hlength]
    exact List.drop_left
  · intro h
    have hsplit : remembered = remembered.take first.length ++ arrivals first rest := by
      rw [← h, List.take_append_drop]
    have hlater : (arrivals first rest).filter (fun a => a ∈ first) = [] := by
      rw [List.filter_eq_nil_iff]
      intro a ha
      simpa using notMem_of_mem_arrivals ha
    -- The front has room for the items of the first delivery only.
    have hfront : (remembered.take first.length).filter (fun a => a ∈ first) =
        remembered.take first.length := by
      refine List.filter_sublist.eq_of_length ?_
      have hall := hlength
      rw [hsplit, List.filter_append, hlater, List.append_nil] at hall
      have hshort : (remembered.take first.length).length ≤ first.length :=
        List.length_take_le _ _
      have hkept := List.length_filter_le (fun a => decide (a ∈ first))
        (remembered.take first.length)
      omega
    have hfilter : remembered.filter (fun a => a ∈ first) = remembered.take first.length := by
      conv_lhs => rw [hsplit, List.filter_append, hlater, List.append_nil]
      exact hfront
    rw [hfilter]
    exact hsplit.symm

theorem foldl_deliverPart_eq_iff (hremembered : remembered.Nodup)
    (hdeliveries : ∀ delivered ∈ deliveries, delivered.Nodup ∧ delivered ⊆ remembered) :
    deliveries.foldl (deliverPart remembered) [] = remembered ↔
      ListsArrivals remembered deliveries := by
  induction deliveries with
  | nil => exact eq_comm
  | cons first rest ih =>
    obtain ⟨hnodup, hsub⟩ := hdeliveries first List.mem_cons_self
    have hstep : deliverPart remembered [] first = remembered.filter (fun a => a ∈ first) :=
      if_pos rfl
    have hperm := filter_mem_perm hremembered hnodup hsub
    rw [List.foldl_cons, hstep]
    by_cases hempty : first = []
    · have hnone : remembered.filter (fun a => a ∈ first) = [] := by
        rw [hempty] at hperm ⊢
        exact hperm.eq_nil
      rw [hnone, ListsArrivals, if_pos hempty]
      exact ih (fun delivered hmem => hdeliveries delivered (List.mem_cons_of_mem _ hmem))
    · have hne : remembered.filter (fun a => a ∈ first) ≠ [] :=
        fun hnil => hempty ((hnil ▸ hperm).symm.eq_nil)
      rw [foldl_deliverPart_of_ne_nil remembered hne, ListsArrivals, if_neg hempty,
        arrivals_congr (fun a => hperm.mem_iff)]
      exact filter_append_arrivals_eq_iff hremembered hnodup hsub rest

end GT3Code.Base
