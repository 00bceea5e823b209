import GT3Code.Base.JsonNumber
import GT3Code.Base.Utf8
import GT3Code.Terminal.Session

/-! # Names of history files

The base64url parts of a thread and a terminal are joined by an underscore, which the
alphabet has too. Another thread's file is mistaken for one's own where an encoding goes
on with that underscore.
-/

namespace GT3Code.Terminal

open GT3Code.Base GT3Code.Base.Json
open GT3Code.Base.Base64Url (underscore Continues)
open GT3Code.Base.Utf8 (Unit16)

def utf16 (literal : String) : List Unit16 :=
  literal.toList.map (fun c => Fin.ofNat 65536 c.toNat)

theorem lt_of_mem_utf16 {literal : String} {bound : Nat}
    (h : literal.toList.all (fun c => c.toNat < bound) = true) :
    ∀ u ∈ utf16 literal, u.val < bound := by
  intro u hu
  obtain ⟨c, hc, rfl⟩ := List.mem_map.mp hu
  exact (Nat.mod_le _ _).trans_lt (of_decide_eq_true (List.all_eq_true.mp h c hc))

/-- `[a-zA-Z0-9._-]` -/
def isSafeUnit (u : Unit16) : Bool :=
  (97 ≤ u.val && u.val ≤ 122) || (65 ≤ u.val && u.val ≤ 90) || (48 ≤ u.val && u.val ≤ 57) ||
    u.val = 46 || u.val = 95 || u.val = 45

def legacySafeThreadId (threadId : List Unit16) : Text :=
  threadId.map (fun u => if isSafeUnit u then u.val else underscore)

def toSafeThreadId (threadId : List Unit16) : Text :=
  ascii "terminal_" ++ Base64Url.encode (Utf8.encode threadId)

def toSafeTerminalId (terminalId : List Unit16) : Text := Base64Url.encode (Utf8.encode terminalId)

/-- The name `historyPath` joins to the logs directory. -/
def historyName (threadId terminalId : List Unit16) : Text :=
  let threadPart := toSafeThreadId threadId
  if terminalId = utf16 DEFAULT_TERMINAL_ID then threadPart ++ ascii ".log"
  else threadPart ++ underscore :: (toSafeTerminalId terminalId ++ ascii ".log")

/-- `path.join` of a normalized directory and a name without separators. -/
def joinPath (directory name : Text) : Text := directory ++ ascii "/" ++ name

def historyPath (logsDir : Text) (threadId terminalId : List Unit16) : Text :=
  joinPath logsDir (historyName threadId terminalId)

/-- The entries that `deleteAllHistoryForThread` removes. -/
def belongsToThread (threadId : List Unit16) (name : Text) : Bool :=
  name = toSafeThreadId threadId ++ ascii ".log" ||
    name = legacySafeThreadId threadId ++ ascii ".log" ||
    (toSafeThreadId threadId ++ [underscore]).isPrefixOf name

def deleteAllHistoryForThread (threadId : List Unit16) (entries : List Text) : List Text :=
  entries.filter (fun name => !belongsToThread threadId name)

/-- Two terminals share no path, and deleting the first one's thread leaves the file of the
second where that belongs to another thread. -/
structure FilesSeparate (logsDir : Text) (threadId terminalId otherThreadId otherTerminalId :
    List Unit16) : Prop where
  path : historyPath logsDir threadId terminalId =
    historyPath logsDir otherThreadId otherTerminalId →
      threadId = otherThreadId ∧ terminalId = otherTerminalId
  kept : threadId ≠ otherThreadId → ∀ entries,
    historyName otherThreadId otherTerminalId ∈ entries →
      historyName otherThreadId otherTerminalId ∈ deleteAllHistoryForThread threadId entries

def terminalPart (terminalId : List Unit16) : Text :=
  if terminalId = utf16 DEFAULT_TERMINAL_ID then [] else underscore :: toSafeTerminalId terminalId

/-- The other file carries the thread's name: the ids have the same bytes; the other id goes on
after this one; this id goes on after the other one, as the other terminal's does; or the
other file has the legacy name of the thread. -/
inductive Mistaken (threadId otherThreadId otherTerminalId : List Unit16) : Prop where
  | sameBytes (h : Utf8.encode threadId = Utf8.encode otherThreadId)
  | goesOn (tail : Text) (h : Continues (Utf8.encode otherThreadId) (Utf8.encode threadId) tail)
  | goesOnWithTerminal (tail : Text)
      (hother : otherTerminalId ≠ utf16 DEFAULT_TERMINAL_ID)
      (h : Continues (Utf8.encode threadId) (Utf8.encode otherThreadId) tail)
      (hterminal : toSafeTerminalId otherTerminalId = tail ∨
        tail ++ [underscore] <+: toSafeTerminalId otherTerminalId)
  | legacy (h : legacySafeThreadId threadId =
      toSafeThreadId otherThreadId ++ terminalPart otherTerminalId)

/-- In one thread, terminals whose ids have the same bytes are the same; of two threads, none is
mistaken for the other. -/
def Distinguishable (threadId terminalId otherThreadId otherTerminalId : List Unit16) : Prop :=
  (threadId = otherThreadId → Utf8.encode terminalId = Utf8.encode otherTerminalId →
    terminalId = otherTerminalId) ∧
  (threadId ≠ otherThreadId → ¬ Mistaken threadId otherThreadId otherTerminalId)

theorem historyName_eq (threadId terminalId : List Unit16) :
    historyName threadId terminalId = ascii "terminal_" ++
      (Base64Url.encode (Utf8.encode threadId) ++ terminalPart terminalId ++ ascii ".log") := by
  unfold historyName terminalPart toSafeThreadId
  split <;> simp

theorem terminalPart_eq_iff {terminalId other : List Unit16} :
    terminalPart terminalId = terminalPart other ↔
      Utf8.encode terminalId = Utf8.encode other := by
  have hdefault : ∀ {terminalId : List Unit16},
      Utf8.encode terminalId = Utf8.encode (utf16 DEFAULT_TERMINAL_ID) →
        terminalId = utf16 DEFAULT_TERMINAL_ID :=
    fun h => Utf8.eq_of_encode_eq_ascii (lt_of_mem_utf16 (by decide)) h
  unfold terminalPart toSafeTerminalId
  by_cases hone : terminalId = utf16 DEFAULT_TERMINAL_ID
  · by_cases htwo : other = utf16 DEFAULT_TERMINAL_ID
    · simp [hone, htwo]
    · rw [if_pos hone, if_neg htwo]
      refine iff_of_false (by simp) (fun h => htwo (hdefault (hone ▸ h.symm)))
  · by_cases htwo : other = utf16 DEFAULT_TERMINAL_ID
    · rw [if_neg hone, if_pos htwo]
      refine iff_of_false (by simp) (fun h => hone (hdefault (htwo ▸ h)))
    · rw [if_neg hone, if_neg htwo, List.cons.injEq]
      exact ⟨fun h => Base64Url.encode_injective h.2, fun h => ⟨rfl, by rw [h]⟩⟩

theorem historyPath_eq_iff {logsDir : Text} {threadId terminalId otherThreadId otherTerminalId :
    List Unit16} :
    historyPath logsDir threadId terminalId = historyPath logsDir otherThreadId otherTerminalId ↔
      Base64Url.encode (Utf8.encode threadId) ++ terminalPart terminalId =
        Base64Url.encode (Utf8.encode otherThreadId) ++ terminalPart otherTerminalId := by
  rw [historyPath, historyPath, joinPath, joinPath, List.append_cancel_left_eq, historyName_eq,
    historyName_eq, List.append_cancel_left_eq, List.append_cancel_right_eq]

theorem prefix_of_prefix_append_log {text name : Text} (htext : 46 ∉ text)
    (h : text <+: name ++ ascii ".log") : text <+: name := by
  rcases List.prefix_or_prefix_of_prefix h (List.prefix_append name (ascii ".log")) with
    hprefix | ⟨rest, rfl⟩
  · exact hprefix
  · cases rest with
    | nil => simp
    | cons u rest =>
      rw [List.prefix_append_right_inj] at h
      have hdot : u = 46 := (List.cons_prefix_cons.mp h).1
      simp [hdot] at htext

variable {threadId terminalId otherThreadId otherTerminalId : List Unit16}

theorem belongsToThread_iff {name : Text} :
    belongsToThread threadId name = true ↔
      name = toSafeThreadId threadId ++ ascii ".log" ∨
        name = legacySafeThreadId threadId ++ ascii ".log" ∨
          toSafeThreadId threadId ++ [underscore] <+: name := by
  simp only [belongsToThread, Bool.or_eq_true, decide_eq_true_eq, List.isPrefixOf_iff_prefix,
    or_assoc]

theorem prefix_historyName_iff :
    toSafeThreadId threadId ++ [underscore] <+: historyName otherThreadId otherTerminalId ↔
      Base64Url.encode (Utf8.encode threadId) ++ [underscore] <+:
        Base64Url.encode (Utf8.encode otherThreadId) ++ terminalPart otherTerminalId := by
  rw [historyName_eq, toSafeThreadId, List.append_assoc, List.prefix_append_right_inj]
  refine ⟨fun h => prefix_of_prefix_append_log ?_ h, fun h => h.trans (List.prefix_append _ _)⟩
  simpa [underscore] using Base64Url.dot_notMem_encode (Utf8.encode threadId)

theorem historyName_eq_threadFile_iff :
    historyName otherThreadId otherTerminalId = toSafeThreadId threadId ++ ascii ".log" ↔
      Base64Url.encode (Utf8.encode otherThreadId) ++ terminalPart otherTerminalId =
        Base64Url.encode (Utf8.encode threadId) := by
  rw [historyName_eq, ← List.append_assoc, List.append_cancel_right_eq, toSafeThreadId,
    List.append_cancel_left_eq]

theorem historyName_eq_legacyFile_iff :
    historyName otherThreadId otherTerminalId = legacySafeThreadId threadId ++ ascii ".log" ↔
      legacySafeThreadId threadId = toSafeThreadId otherThreadId ++ terminalPart otherTerminalId := by
  rw [historyName_eq, ← List.append_assoc, List.append_cancel_right_eq, toSafeThreadId, eq_comm,
    List.append_assoc]

theorem continues_iff {whole head : List Unit16} {tail : Text} :
    Base64Url.encode (Utf8.encode whole) =
        Base64Url.encode (Utf8.encode head) ++ underscore :: tail ↔
      Continues (Utf8.encode whole) (Utf8.encode head) tail :=
  Base64Url.encode_eq_append_iff (fun _ h => Utf8.lt_of_mem_encode h)

theorem belongsToThread_historyName_iff :
    belongsToThread threadId (historyName otherThreadId otherTerminalId) = true ↔
      Mistaken threadId otherThreadId otherTerminalId := by
  rw [belongsToThread_iff, prefix_historyName_iff, historyName_eq_threadFile_iff,
    historyName_eq_legacyFile_iff]
  constructor
  · rintro (hfile | hlegacy | ⟨rest, hrest⟩)
    · by_cases hdefault : otherTerminalId = utf16 DEFAULT_TERMINAL_ID
      · rw [terminalPart, if_pos hdefault, List.append_nil] at hfile
        exact .sameBytes (Base64Url.encode_injective hfile.symm)
      · rw [terminalPart, if_neg hdefault] at hfile
        exact .goesOnWithTerminal _ hdefault (continues_iff.mp hfile.symm) (Or.inl rfl)
    · exact .legacy hlegacy
    · rw [List.append_assoc, List.singleton_append] at hrest
      obtain ⟨more, hother, hmore⟩ | ⟨more, hthread, hmore⟩ := List.append_eq_append_iff.mp hrest
      · cases more with
        | nil => exact .sameBytes (Base64Url.encode_injective (by simpa using hother.symm))
        | cons u more =>
          obtain ⟨rfl, -⟩ := List.cons.inj hmore
          exact .goesOn more (continues_iff.mp hother)
      · by_cases hdefault : otherTerminalId = utf16 DEFAULT_TERMINAL_ID
        · rw [terminalPart, if_pos hdefault] at hmore
          simp at hmore
        · rw [terminalPart, if_neg hdefault] at hmore
          cases more with
          | nil => exact .sameBytes (Base64Url.encode_injective (by simpa using hthread))
          | cons u more =>
            obtain ⟨rfl, hterminal⟩ := List.cons.inj hmore
            refine .goesOnWithTerminal more hdefault (continues_iff.mp hthread) (Or.inr ?_)
            exact ⟨rest, by rw [hterminal]; simp⟩
  · rintro (hbytes | ⟨tail, htail⟩ | ⟨tail, hdefault, htail, rfl | ⟨rest, hrest⟩⟩ | hlegacy)
    · rw [hbytes]
      by_cases hdefault : otherTerminalId = utf16 DEFAULT_TERMINAL_ID
      · rw [terminalPart, if_pos hdefault]
        exact Or.inl (List.append_nil _)
      · rw [terminalPart, if_neg hdefault]
        exact Or.inr (Or.inr ⟨toSafeTerminalId otherTerminalId, by simp⟩)
    · rw [continues_iff.mpr htail]
      exact Or.inr (Or.inr ⟨tail ++ terminalPart otherTerminalId, by simp⟩)
    · rw [terminalPart, if_neg hdefault, continues_iff.mpr htail]
      exact Or.inl rfl
    · rw [terminalPart, if_neg hdefault, continues_iff.mpr htail, ← hrest]
      exact Or.inr (Or.inr ⟨rest, by simp⟩)
    · exact Or.inr (Or.inl hlegacy)

theorem belongsToThread_historyName_self (threadId terminalId : List Unit16) :
    belongsToThread threadId (historyName threadId terminalId) = true :=
  belongsToThread_historyName_iff.mpr (.sameBytes rfl)

/-- Two terminals have separate files exactly when they can be told apart. -/
theorem filesSeparate_iff (logsDir : Text)
    (threadId terminalId otherThreadId otherTerminalId : List Unit16) :
    FilesSeparate logsDir threadId terminalId otherThreadId otherTerminalId ↔
      Distinguishable threadId terminalId otherThreadId otherTerminalId := by
  constructor
  · rintro ⟨hpath, hkept⟩
    constructor
    · rintro rfl hbytes
      exact (hpath (historyPath_eq_iff.mpr (by rw [terminalPart_eq_iff.mpr hbytes]))).2
    · intro hthread hmistaken
      have hmem := hkept hthread [_] List.mem_cons_self
      rw [deleteAllHistoryForThread, List.mem_filter,
        belongsToThread_historyName_iff.mpr hmistaken] at hmem
      cases hmem.2
  · rintro ⟨hsame, hother⟩
    constructor
    · intro hpath
      by_cases hthread : threadId = otherThreadId
      · subst hthread
        have hparts := List.append_cancel_left (historyPath_eq_iff.mp hpath)
        exact ⟨rfl, hsame rfl (terminalPart_eq_iff.mp hparts)⟩
      · have hname : historyName threadId terminalId =
            historyName otherThreadId otherTerminalId := by
          rw [historyName_eq, historyName_eq, historyPath_eq_iff.mp hpath]
        have hbelongs := belongsToThread_historyName_self threadId terminalId
        rw [hname] at hbelongs
        exact absurd (belongsToThread_historyName_iff.mp hbelongs) (hother hthread)
    · intro hthread entries hentry
      rw [deleteAllHistoryForThread, List.mem_filter]
      refine ⟨hentry, ?_⟩
      rw [Bool.not_eq_true', ← Bool.not_eq_true, belongsToThread_historyName_iff]
      exact hother hthread

/-- The bytes of the first thread are those of the second, a question mark and those of the
second one's terminal. -/
theorem not_filesSeparate_questionMark :
    historyPath [] (utf16 "ab?cd") (utf16 DEFAULT_TERMINAL_ID) =
        historyPath [] (utf16 "ab") (utf16 "cd") ∧
      ¬ ∀ logsDir threadId terminalId otherThreadId otherTerminalId,
        FilesSeparate logsDir threadId terminalId otherThreadId otherTerminalId := by
  have hpath : historyPath [] (utf16 "ab?cd") (utf16 DEFAULT_TERMINAL_ID) =
      historyPath [] (utf16 "ab") (utf16 "cd") := by decide +kernel
  refine ⟨hpath, fun h => ?_⟩
  have hsame := (h [] _ _ _ _).path hpath
  exact absurd hsame.1 (by decide)

end GT3Code.Terminal
