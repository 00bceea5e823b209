import GT3Code.Base.Trimming

/-! # Blocks at the end of a text

A block is what stands between an opening and a closing with nothing but blanks behind. A search
from the left finds the first opening, with what leads to it.
-/

namespace GT3Code.Base

variable {α : Type}

theorem isPrefix_of_isPrefix_append {tag front rest : List α} {mark : α} (hmark : mark ∉ tag)
    (h : tag ++ [mark] <+: front ++ mark :: rest) : tag ++ [mark] <+: front ++ [mark] := by
  induction front generalizing tag with
  | nil =>
    cases tag with
    | nil => exact List.prefix_refl _
    | cons x tag =>
      obtain ⟨rfl, -⟩ := List.cons_prefix_cons.mp h
      exact absurd List.mem_cons_self hmark
  | cons y front ih =>
    cases tag with
    | nil =>
      obtain ⟨rfl, -⟩ := List.cons_prefix_cons.mp h
      exact List.cons_prefix_cons.mpr ⟨rfl, List.nil_prefix⟩
    | cons x tag =>
      obtain ⟨rfl, htail⟩ := List.cons_prefix_cons.mp h
      exact List.cons_prefix_cons.mpr
        ⟨rfl, ih (fun hmem => hmark (List.mem_cons_of_mem _ hmem)) htail⟩

variable [DecidableEq α]

structure BlockPattern (α : Type) where
  lead : α → Bool
  opening : List α
  closing : List α
  blank : α → Bool
  opening_head : ∀ x ∈ opening.head?, lead x = false
  closing_ne_nil : closing ≠ []
  closing_last : ∀ x ∈ closing.getLast?, blank x = false

namespace BlockPattern

variable (pattern : BlockPattern α)

def isClosed (text : List α) : Bool :=
  pattern.closing.isPrefixOf text && (text.drop pattern.closing.length).all pattern.blank

def body : List α → Option (List α)
  | [] => if pattern.isClosed [] then some [] else none
  | x :: rest => if pattern.isClosed (x :: rest) then some [] else (body rest).map (x :: ·)

def blockAt (text : List α) : Option (List α) :=
  -- an opening starts with none of the lead, so all of it comes first
  let rest := text.dropWhile pattern.lead
  if pattern.opening.isPrefixOf rest then pattern.body (rest.drop pattern.opening.length) else none

def find : Nat → List α → Option (Nat × List α)
  | index, [] => (pattern.blockAt []).map (fun body => (index, body))
  | index, x :: rest =>
    match pattern.blockAt (x :: rest) with
    | some body => some (index, body)
    | none => find (index + 1) rest

variable {pattern}

theorem isClosed_closing : pattern.isClosed pattern.closing = true := by
  rw [isClosed, List.drop_length, List.all_nil, Bool.and_true, List.isPrefixOf_iff_prefix]

theorem isClosed_cons_append (x : α) (front : List α) :
    pattern.isClosed (x :: front ++ pattern.closing) = false := by
  rw [isClosed, Bool.and_eq_false_imp]
  intro _
  rw [List.all_eq_false]
  refine ⟨pattern.closing.getLast pattern.closing_ne_nil, ?_, ?_⟩
  · have hlength : pattern.closing.length < (x :: front ++ pattern.closing).length := by
      rw [List.length_append, List.length_cons]
      omega
    have hne : (x :: front ++ pattern.closing).drop pattern.closing.length ≠ [] := by
      rw [Ne, List.drop_eq_nil_iff]
      omega
    have hlast := List.getLast_mem hne
    rw [List.getLast_drop, List.getLast_append_of_ne_nil _ pattern.closing_ne_nil] at hlast
    exact hlast
  · rw [pattern.closing_last _ (List.getLast?_eq_some_getLast _)]
    exact Bool.false_ne_true

theorem body_append_closing (front : List α) :
    pattern.body (front ++ pattern.closing) = some front := by
  induction front with
  | nil =>
    obtain ⟨x, rest, hclosing⟩ := List.exists_cons_of_ne_nil pattern.closing_ne_nil
    have hclosed := pattern.isClosed_closing
    rw [List.nil_append]
    rw [hclosing] at hclosed ⊢
    rw [body, if_pos hclosed]
  | cons x front ih =>
    rw [List.cons_append, body, ← List.cons_append, isClosed_cons_append, if_neg Bool.false_ne_true,
      ih]
    rfl

variable {text lead tag : List α} {mark : α}

variable {n : Nat} {found : List α}

theorem find_of_blockAt {index : Nat} (hbefore : ∀ j < n, pattern.blockAt (text.drop j) = none)
    (h : pattern.blockAt (text.drop n) = some found) :
    pattern.find index text = some (index + n, found) := by
  induction text generalizing index n with
  | nil =>
    rw [List.drop_nil] at h
    cases n with
    | zero => rw [find, h, Option.map_some, Nat.add_zero]
    | succ n => exact absurd (h.symm.trans (hbefore 0 (Nat.succ_pos n))) (Option.some_ne_none _)
  | cons x rest ih =>
    cases n with
    | zero =>
      rw [List.drop_zero] at h
      rw [find, h]
      rfl
    | succ n =>
      have hhere := hbefore 0 (Nat.succ_pos n)
      rw [List.drop_zero] at hhere
      rw [find, hhere]
      dsimp only
      rw [ih (fun j hj => hbefore (j + 1) (Nat.succ_lt_succ hj)) h, Nat.add_right_comm,
        Nat.add_assoc]

theorem exists_find_le (index : Nat) (h : pattern.blockAt (text.drop n) = some found) :
    ∃ k first, pattern.find index text = some (k, first) ∧ k ≤ index + n := by
  induction text generalizing index n with
  | nil =>
    rw [List.drop_nil] at h
    exact ⟨index, found, by rw [find, h, Option.map_some], Nat.le_add_right _ _⟩
  | cons x rest ih =>
    rw [find]
    cases hhere : pattern.blockAt (x :: rest) with
    | some first => exact ⟨index, first, rfl, Nat.le_add_right _ _⟩
    | none =>
      cases n with
      | zero =>
        rw [List.drop_zero, hhere] at h
        cases h
      | succ n =>
        obtain ⟨k, first, hfind, hle⟩ := ih (index + 1) h
        exact ⟨k, first, hfind, by omega⟩

theorem blockAt_of_isPrefix {front : List α} (h : pattern.opening <+: text)
    (hne : pattern.opening ≠ [])
    (hrest : text.drop pattern.opening.length = front ++ pattern.closing) :
    pattern.blockAt text = some front := by
  have hhead : ∀ x ∈ text.head?, pattern.lead x = false := by
    obtain ⟨first, rest, hopening⟩ := List.exists_cons_of_ne_nil hne
    obtain ⟨rest', rfl⟩ := h
    intro x hx
    rw [hopening, List.cons_append, List.head?_cons] at hx
    exact pattern.opening_head x (hopening ▸ hx)
  rw [blockAt, dropWhile_of_head hhead, if_pos (List.isPrefixOf_iff_prefix.mpr h), hrest, body_append_closing]

def withBlock (pattern : BlockPattern α) (text lead body : List α) : List α :=
  text ++ (lead ++ (pattern.opening ++ (body ++ pattern.closing)))

/-- An opening that is a tag with a mark behind, which is part of the lead. -/
structure EndsWith (pattern : BlockPattern α) (tag : List α) (mark : α) : Prop where
  opening : pattern.opening = tag ++ [mark]
  tag_ne_nil : tag ≠ []
  mark_notMem : mark ∉ tag

theorem blockAt_lead_append {rest : List α} (h : ∀ x ∈ lead, pattern.lead x = true) :
    pattern.blockAt (lead ++ rest) = pattern.blockAt rest := by
  rw [blockAt, blockAt, List.dropWhile_append_of_pos h]

theorem blockAt_inside_eq_none {body : List α} (hends : pattern.EndsWith tag mark)
    (hlast : ∀ x ∈ text.getLast?, pattern.lead x = false)
    (hlead : text ≠ [] → lead.head? = some mark) (hfree : ¬ pattern.opening <:+: text ++ [mark])
    {j : Nat} (hj : j < text.length) :
    pattern.blockAt ((pattern.withBlock text lead body).drop j) = none := by
  have hne : text ≠ [] := List.ne_nil_of_length_pos (Nat.zero_lt_of_lt hj)
  obtain ⟨rest, rfl⟩ : ∃ rest, lead = mark :: rest :=
    List.head?_eq_some_iff.mp (hlead hne)
  have hdrop : text.drop j ≠ [] := by
    rw [Ne, List.drop_eq_nil_iff]
    omega
  have hkept : (text.drop j).dropWhile pattern.lead ≠ [] := by
    rw [Ne, List.dropWhile_eq_nil_iff]
    intro hall
    have htrue := hall _ (List.getLast_mem hdrop)
    rw [List.getLast_drop, hlast _ (List.getLast?_eq_some_getLast hne)] at htrue
    exact Bool.false_ne_true htrue
  have hempty : ((text.drop j).dropWhile pattern.lead).isEmpty = false := by
    rw [List.isEmpty_eq_false_iff]
    exact hkept
  rw [blockAt, withBlock, List.drop_append_of_le_length hj.le, List.dropWhile_append, hempty,
    if_neg Bool.false_ne_true, if_neg]
  intro hprefix
  rw [List.isPrefixOf_iff_prefix, hends.opening] at hprefix
  have hshort := isPrefix_of_isPrefix_append hends.mark_notMem hprefix
  obtain ⟨front, hfront⟩ : (text.drop j).dropWhile pattern.lead <:+ text :=
    (List.dropWhile_suffix _).trans (List.drop_suffix _ _)
  have hsuffix : (text.drop j).dropWhile pattern.lead ++ [mark] <:+ text ++ [mark] :=
    ⟨front, by rw [← List.append_assoc, hfront]⟩
  exact hfree (hends.opening ▸ hshort.isInfix.trans hsuffix.isInfix)

theorem find_withBlock {body : List α} (hends : pattern.EndsWith tag mark)
    (hlast : ∀ x ∈ text.getLast?, pattern.lead x = false)
    (hlead : ∀ x ∈ lead, pattern.lead x = true) (hhead : text ≠ [] → lead.head? = some mark)
    (hfree : ¬ pattern.opening <:+: text ++ [mark]) :
    pattern.find 0 (pattern.withBlock text lead body) = some (text.length, body) := by
  have hne : pattern.opening ≠ [] := by
    rw [hends.opening]
    exact List.append_ne_nil_of_right_ne_nil _ (List.cons_ne_nil _ _)
  have hblock : pattern.blockAt ((pattern.withBlock text lead body).drop text.length) =
      some body := by
    rw [withBlock, List.drop_left, blockAt_lead_append hlead]
    exact blockAt_of_isPrefix (List.prefix_append _ _) hne List.drop_left
  rw [find_of_blockAt (fun j hj => blockAt_inside_eq_none hends hlast hhead hfree hj) hblock,
    Nat.zero_add]

theorem exists_find_lt {body : List α} (hends : pattern.EndsWith tag mark)
    (hhead : text ≠ [] → lead.head? = some mark) (h : pattern.opening <:+: text ++ [mark]) :
    ∃ k first, pattern.find 0 (pattern.withBlock text lead body) = some (k, first) ∧
      k < text.length := by
  obtain ⟨before, after, heq⟩ := h
  have hne : pattern.opening ≠ [] := by
    rw [hends.opening]
    exact List.append_ne_nil_of_right_ne_nil _ (List.cons_ne_nil _ _)
  have hlength := congrArg List.length heq
  have htag := List.length_pos_iff.mpr hends.tag_ne_nil
  rw [List.length_append, List.length_append, hends.opening, List.length_append,
    List.length_append, List.length_singleton] at hlength
  obtain ⟨rest, rfl⟩ : ∃ rest, lead = mark :: rest :=
    List.head?_eq_some_iff.mp (hhead (List.ne_nil_of_length_pos (by omega)))
  have hsplit : pattern.withBlock text (mark :: rest) body =
      before ++ (pattern.opening ++
        ((after ++ (rest ++ (pattern.opening ++ body))) ++ pattern.closing)) := by
    have htext : text ++ (mark :: rest) = before ++ (pattern.opening ++ (after ++ rest)) := by
      rw [← List.append_assoc pattern.opening, ← List.append_assoc before, ← List.append_assoc before,
        heq, List.append_assoc, List.singleton_append]
    rw [withBlock, ← List.append_assoc text, htext]
    simp only [List.append_assoc]
  have hblock : pattern.blockAt ((pattern.withBlock text (mark :: rest) body).drop before.length) =
      some (after ++ (rest ++ (pattern.opening ++ body))) := by
    rw [hsplit, List.drop_left]
    exact blockAt_of_isPrefix (List.prefix_append _ _) hne List.drop_left
  obtain ⟨k, first, hfind, hle⟩ := exists_find_le 0 hblock
  exact ⟨k, first, hfind, by omega⟩

end BlockPattern

end GT3Code.Base
