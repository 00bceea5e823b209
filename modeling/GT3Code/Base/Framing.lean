import GT3Code.Base.Trimming

/-! # Frames cut from chunks

A stream arrives in chunks and is cut into the pieces between separators. What stands after the
last separator is carried over to the next chunk. The pieces are those of the whole stream.
-/

namespace GT3Code.Base

variable {α : Type} [DecidableEq α]

/-- The pieces a chunk completes, and what is carried over to the next one. -/
def cutChunk (separator : α) (carried chunk : List α) : List (List α) × List α :=
  let pieces := (carried ++ chunk).splitOn separator
  (pieces.dropLast, pieces.getLast?.getD [])

theorem cutChunk_concat (separator : α) (carried chunk : List α) :
    (cutChunk separator carried chunk).1 ++ [(cutChunk separator carried chunk).2] =
      (carried ++ chunk).splitOn separator := by
  have hne : (carried ++ chunk).splitOn separator ≠ [] := List.splitOn_ne_nil _ _
  simp only [cutChunk, List.getLast?_eq_getLast_of_ne_nil hne, Option.getD_some]
  exact List.dropLast_append_getLast hne

theorem splitOn_of_intercalate {separator : α} {text : List α} {pieces : List (List α)}
    (hne : pieces ≠ []) (hfree : ∀ piece ∈ pieces, separator ∉ piece)
    (htext : [separator].intercalate pieces = text) : text.splitOn separator = pieces := by
  rw [← htext]
  exact List.splitOn_intercalate separator hfree hne

theorem splitOn_append (separator : α) (text chunk : List α) :
    (text ++ chunk).splitOn separator =
      (cutChunk separator [] text).1 ++
        ((cutChunk separator [] text).2 ++ chunk).splitOn separator := by
  have hcut := cutChunk_concat separator [] text
  rw [List.nil_append] at hcut
  generalize (cutChunk separator [] text).1 = done at hcut ⊢
  generalize (cutChunk separator [] text).2 = carried at hcut ⊢
  have hmore : (carried ++ chunk).splitOn separator ≠ [] := List.splitOn_ne_nil _ _
  refine splitOn_of_intercalate (by simp [hmore]) ?_ ?_
  · intro piece hpiece
    rcases List.mem_append.mp hpiece with hdone | hlater
    · exact notMem_splitOn (hcut ▸ List.mem_append_left _ hdone)
    · exact notMem_splitOn hlater
  · have htext : [separator].intercalate (done ++ [carried]) = text := by
      rw [hcut, List.intercalate_splitOn]
    obtain ⟨more, last, hlast⟩ := (List.eq_nil_or_concat _).resolve_left hmore
    rw [List.concat_eq_append] at hlast
    have hrest : [separator].intercalate (more ++ [last]) = carried ++ chunk := by
      rw [← hlast, List.intercalate_splitOn]
    rw [intercalate_concat] at htext hrest
    rw [hlast, ← List.append_assoc, intercalate_concat, List.flatMap_append, List.append_assoc,
      hrest, ← List.append_assoc, htext]

theorem cutChunk_append (separator : α) (text chunk : List α) :
    cutChunk separator [] (text ++ chunk) =
      ((cutChunk separator [] text).1 ++
          (cutChunk separator (cutChunk separator [] text).2 chunk).1,
        (cutChunk separator (cutChunk separator [] text).2 chunk).2) := by
  have hne := List.splitOn_ne_nil separator ((cutChunk separator [] text).2 ++ chunk)
  have hcut : cutChunk separator [] (text ++ chunk) =
      (((text ++ chunk).splitOn separator).dropLast,
        ((text ++ chunk).splitOn separator).getLast?.getD []) := rfl
  rw [hcut, splitOn_append, List.dropLast_append_of_ne_nil hne, List.getLast?_append_of_ne_nil _ hne]
  rfl

section Handling

variable {m : Type → Type} [Monad m] [LawfulMonad m] {σ : Type}
  (separator : α) (handle : σ → List α → m σ)

structure ChunkReader (α σ : Type) where
  carried : List α
  state : σ

def readChunk (reader : ChunkReader α σ) (chunk : List α) : m (ChunkReader α σ) :=
  let cut := cutChunk separator reader.carried chunk
  (fun state => ⟨cut.2, state⟩) <$> cut.1.foldlM handle reader.state

theorem foldlM_readChunk (state : σ) (chunks : List (List α)) :
    chunks.foldlM (readChunk separator handle) ⟨[], state⟩ =
      readChunk separator handle ⟨[], state⟩ chunks.flatten := by
  induction chunks using List.reverseRecOn with
  | nil => simp [readChunk, cutChunk]
  | append_singleton chunks chunk ih =>
    rw [List.foldlM_append, ih, List.flatten_append, List.flatten_singleton]
    simp only [readChunk, cutChunk_append, List.foldlM_append, List.foldlM_cons, List.foldlM_nil,
      bind_pure, map_eq_pure_bind, bind_assoc, pure_bind]

end Handling

end GT3Code.Base
