import GT3Code.Base.Base64Url
import GT3Code.Base.KeyedMap
import GT3Code.Shared.SchemaJson
import Mathlib.Data.List.DropRight

/-! # Attachment store

Attachments are files of one directory. The name of a file is the attachment's id and
an extension, and the id is a segment made from the thread id, a hyphen and a UUID:
whose file it is can only be read back from its name.
-/

namespace GT3Code.Server

open GT3Code.Base GT3Code.Contracts

def resolveSegments (allowAboveRoot : Bool) (segments : List (List Char)) : List (List Char) :=
  segments.foldl (fun stack segment =>
    if segment = [] ∨ segment = ['.'] then stack
    else if segment = ['.', '.'] then
      match stack with
      | top :: rest =>
        if top = ['.', '.'] then segment :: stack else rest
      | [] => if allowAboveRoot then [segment] else []
    else segment :: stack) []

/-- `path.normalize` -/
def normalizePath (path : List Char) : List Char :=
  if path = [] then ['.']
  else
    let isAbsolute := path.head? = some '/'
    let trailingSeparator := path.getLast? = some '/'
    let resolved :=
      ['/'].intercalate (resolveSegments (!isAbsolute) (path.splitOn '/')).reverse
    if resolved = [] then
      if isAbsolute then ['/'] else if trailingSeparator then ['.', '/'] else ['.']
    else
      (if isAbsolute then ['/'] else []) ++ resolved ++ (if trailingSeparator then ['/'] else [])

def isSlash (c : Char) : Bool := c = '/' || c = '\\'

/-- `replace(/\\/g, "/")` -/
def forwardSlashes (path : List Char) : List Char := path.map (fun c => if c = '\\' then '/' else c)

def normalizeAttachmentRelativePath (rawRelativePath : String) : Option String :=
  let normalized := (normalizePath rawRelativePath.toList).dropWhile isSlash
  if normalized.length = 0 ∨ ['.', '.'] <+: normalized ∨ '\x00' ∈ normalized then none
  else some (String.ofList (forwardSlashes normalized))

/-! ## Ids -/

def ATTACHMENT_ID_THREAD_SEGMENT_MAX_CHARS : Nat := 80

/-- `[a-z0-9_]`, with the flag `i`. -/
def isWord (c : Char) : Bool := c.isAlphanum || c = '_'

def isSafeUnit (c : Char) : Bool := isWord c || c = '-'

def isEdge (c : Char) : Bool := c = '-' || c = '_'

def replaceRuns (p : Char → Bool) : Bool → List Char → List Char
  | _, [] => []
  | inRun, c :: rest =>
    if p c then if inRun then replaceRuns p true rest else '-' :: replaceRuns p true rest
    else c :: replaceRuns p false rest

/-- `trim()` -/
def trimSpace (value : List Char) : List Char :=
  (value.dropWhile (fun c => Shared.isSpace c.toNat)).rdropWhile (fun c => Shared.isSpace c.toNat)

def isHex (c : Char) : Bool := c.isDigit || ('a' ≤ c && c ≤ 'f') || ('A' ≤ c && c ≤ 'F')

/-- Groups of hexadecimal digits of these lengths, with hyphens between them. -/
def isHexGroups : List Nat → List Char → Bool
  | [], _ => false
  | [n], units => units.length = n && units.all isHex
  | n :: lengths, units =>
    (units.take n).length = n && (units.take n).all isHex && (units.drop n).head? = some '-' &&
      isHexGroups lengths (units.drop (n + 1))

/-- `ATTACHMENT_ID_UUID_PATTERN` -/
def isUuid (units : List Char) : Bool := isHexGroups [8, 4, 4, 4, 12] units

abbrev Uuid := { units : List Char // isUuid units = true }

/-- `ATTACHMENT_ID_THREAD_SEGMENT_PATTERN` after a word unit, or at the start of a word. -/
def isSegmentFrom : Bool → List Char → Bool
  | inWord, [] => inWord
  | inWord, c :: rest =>
    if c = '-' then inWord && isSegmentFrom false rest else isWord c && isSegmentFrom true rest

section Text

variable [TextRuntime]

def toSafeThreadAttachmentSegment (threadId : String) : Option (List Char) :=
  let lower := (TextRuntime.toLowerCase (String.ofList (trimSpace threadId.toList))).toList
  let hyphens := replaceRuns (fun c => c = '-') false
    (replaceRuns (fun c => !isSafeUnit c) false lower)
  let stripped := (hyphens.dropWhile isEdge).rdropWhile isEdge
  let segment := (stripped.take ATTACHMENT_ID_THREAD_SEGMENT_MAX_CHARS).rdropWhile isEdge
  if segment.length = 0 then none else some segment

def createAttachmentId (threadId : String) (randomUUID : Uuid) : Option String :=
  (toSafeThreadAttachmentSegment threadId).map (fun segment =>
    String.ofList (segment ++ '-' :: randomUUID.1))

/-- `match[1]` of the id pattern: a UUID has 36 characters. The match is ASCII, and in lower
case it is so too. -/
def parseThreadSegmentFromAttachmentId (attachmentId : String) : Option (List Char) :=
  match normalizeAttachmentRelativePath attachmentId with
  | none => none
  | some normalizedId =>
    let units := normalizedId.toList
    let segment := units.take (units.length - 37)
    if '/' ∈ units ∨ '.' ∈ units then none
    else if isSegmentFrom false segment ∧ (units.drop (units.length - 37)).head? = some '-' ∧
        isUuid (units.drop (units.length - 36)) then
      some (segment.map Char.toLower)
    else none

/-- `Mime.getExtension` -/
class MimeRuntime where
  getExtension : String → Option String

def IMAGE_EXTENSION_BY_MIME_TYPE : List (String × String) :=
  [("image/avif", ".avif"), ("image/bmp", ".bmp"), ("image/gif", ".gif"), ("image/heic", ".heic"),
    ("image/heif", ".heif"), ("image/jpeg", ".jpg"), ("image/jpg", ".jpg"), ("image/png", ".png"),
    ("image/svg+xml", ".svg"), ("image/tiff", ".tiff"), ("image/webp", ".webp")]

def SAFE_IMAGE_FILE_EXTENSIONS : List String :=
  [".avif", ".bmp", ".gif", ".heic", ".heif", ".ico", ".jpeg", ".jpg", ".png", ".svg", ".tiff",
    ".webp"]

/-- `.` and the match of `/\.([a-z0-9]{1,8})$/i`, in lower case. -/
def fileNameExtension (fileName : String) : String :=
  let trimmed := trimSpace fileName.toList
  let extension := (trimmed.reverse.takeWhile (fun c => c ≠ '.')).reverse
  if '.' ∈ trimmed ∧ 1 ≤ extension.length ∧ extension.length ≤ 8 ∧ extension.all Char.isAlphanum then
    TextRuntime.toLowerCase (String.ofList ('.' :: extension))
  else ""

def inferImageExtension [MimeRuntime] (mimeType fileName : String) : String :=
  let key := TextRuntime.toLowerCase mimeType
  match IMAGE_EXTENSION_BY_MIME_TYPE.lookup key with
  | some fromMime => fromMime
  | none =>
    match (MimeRuntime.getExtension mimeType).filter
        (fun fromMimeExtension => SAFE_IMAGE_FILE_EXTENSIONS.contains fromMimeExtension) with
    | some fromMimeExtension => fromMimeExtension
    | none =>
      if SAFE_IMAGE_FILE_EXTENSIONS.contains (fileNameExtension fileName) then
        fileNameExtension fileName
      else ".bin"

def attachmentRelativePath [MimeRuntime] (attachment : ChatAttachment) : String :=
  attachment.id ++ inferImageExtension attachment.mimeType attachment.name

def resolveAttachmentPath [MimeRuntime] (attachment : ChatAttachment) : Option String :=
  (normalizeAttachmentRelativePath (attachmentRelativePath attachment)).filter
    (fun path => path ≠ ".")

end Text

def parseAttachmentIdFromRelativePath (relativePath : String) : Option String :=
  match normalizeAttachmentRelativePath relativePath with
  | none => none
  | some normalized =>
    let units := normalized.toList
    if '/' ∈ units then none
    else
      -- the id is what stands before the last full stop
      let id := (units.reverse.dropWhile (fun c => c ≠ '.')).reverse.dropLast
      if '.' ∈ units ∧ id.length > 0 ∧ '.' ∉ id then some (String.ofList id) else none

/-! ## Names the store gives -/

/-- A name the store gives to an attachment is not empty and has letters, digits, hyphens and
underscores only. -/
def WellNamed (id : String) : Prop := id.toList ≠ [] ∧ ∀ c ∈ id.toList, isSafeUnit c = true

variable {c : Char} {units : List Char}

theorem ne_of_isSafeUnit {d : Char} (h : isSafeUnit c = true) (hd : isSafeUnit d = false) :
    c ≠ d := by
  intro heq
  rw [heq, hd] at h
  cases h

theorem normalizeAttachmentRelativePath_of_safe {rest : List Char} (hc : isSafeUnit c = true)
    (hrest : ∀ d ∈ rest, isSafeUnit d = true ∨ d = '.') :
    normalizeAttachmentRelativePath (String.ofList (c :: rest)) =
      some (String.ofList (c :: rest)) := by
  have hplain : ∀ d ∈ c :: rest, d ≠ '/' ∧ d ≠ '\\' ∧ d ≠ '\x00' := by
    intro d hd
    have hsafe : isSafeUnit d = true ∨ d = '.' := by
      rcases List.mem_cons.mp hd with rfl | hd
      · exact Or.inl hc
      · exact hrest d hd
    rcases hsafe with hsafe | rfl
    · exact ⟨ne_of_isSafeUnit hsafe (by decide), ne_of_isSafeUnit hsafe (by decide),
        ne_of_isSafeUnit hsafe (by decide)⟩
    · decide
  have hdot : c ≠ '.' := ne_of_isSafeUnit hc (by decide)
  have hnormalized : normalizePath (c :: rest) = c :: rest := by
    have hslash : '/' ∉ c :: rest := fun hmem => (hplain '/' hmem).1 rfl
    have hhead : c ≠ '/' := (hplain c List.mem_cons_self).1
    have hlast : (c :: rest).getLast? ≠ some '/' :=
      fun hlast => hslash (List.mem_of_getLast? hlast)
    simp [normalizePath, List.splitOn_eq_singleton hslash, resolveSegments, hhead, hdot, hlast]
  have hslashes : (c :: rest).dropWhile isSlash = c :: rest := by
    have hhead := hplain c List.mem_cons_self
    rw [List.dropWhile_cons_of_neg]
    simp [isSlash, hhead.1, hhead.2.1]
  have hforward : forwardSlashes (c :: rest) = c :: rest := by
    have hid : ∀ d ∈ c :: rest, (if d = '\\' then '/' else d) = d :=
      fun d hd => if_neg (hplain d hd).2.1
    rw [forwardSlashes, List.map_congr_left hid, List.map_id']
  have hnull : '\x00' ∉ c :: rest := fun hmem => (hplain '\x00' hmem).2.2 rfl
  simp only [normalizeAttachmentRelativePath, String.toList_ofList, hnormalized, hslashes, hforward]
  refine if_neg ?_
  rintro (hlength | hprefix | hmem)
  · simp at hlength
  · exact hdot (List.cons_prefix_cons.mp hprefix).1.symm
  · exact hnull hmem

theorem mem_replaceRuns {p : Char → Bool} {inRun : Bool} (h : c ∈ replaceRuns p inRun units) :
    c = '-' ∨ c ∈ units ∧ p c = false := by
  induction units generalizing inRun with
  | nil => cases h
  | cons d rest ih =>
    have hrest : ∀ {inRun}, c ∈ replaceRuns p inRun rest →
        c = '-' ∨ c ∈ d :: rest ∧ p c = false := by
      intro inRun hmem
      rcases ih hmem with hc | ⟨hmem, hc⟩
      · exact Or.inl hc
      · exact Or.inr ⟨List.mem_cons_of_mem d hmem, hc⟩
    rw [replaceRuns] at h
    cases hd : p d
    · simp only [hd, Bool.false_eq_true, if_false, List.mem_cons] at h
      rcases h with rfl | h
      · exact Or.inr ⟨List.mem_cons_self, hd⟩
      · exact hrest h
    · cases inRun <;> simp only [hd, if_true, Bool.false_eq_true, if_false, List.mem_cons] at h
      · rcases h with rfl | h
        · exact Or.inl rfl
        · exact hrest h
      · exact hrest h

theorem isSafeUnit_of_isHex (h : isHex c = true) : isSafeUnit c = true := by
  delta isHex isSafeUnit isWord Char.isAlphanum Char.isAlpha Char.isUpper Char.isLower at *
  simp only [Char.isDigit, Char.le_def,
    Bool.or_eq_true, Bool.and_eq_true, decide_eq_true_eq, UInt32.le_iff_toNat_le, ge_iff_le] at h ⊢
  have : 'a'.val.toNat = 97 := rfl
  have : 'f'.val.toNat = 102 := rfl
  have : 'A'.val.toNat = 65 := rfl
  have : 'F'.val.toNat = 70 := rfl
  have : 'Z'.val.toNat = 90 := rfl
  have : 'z'.val.toNat = 122 := rfl
  have : '0'.val.toNat = 48 := rfl
  have : '9'.val.toNat = 57 := rfl
  omega

variable {lengths : List Nat}

theorem isSafeUnit_of_mem_groups (h : isHexGroups lengths units = true) (hc : c ∈ units) :
    isSafeUnit c = true := by
  fun_induction isHexGroups lengths units with
  | case1 => cases h
  | case2 n units =>
    simp only [Bool.and_eq_true, List.all_eq_true] at h
    exact isSafeUnit_of_isHex (h.2 c hc)
  | case3 n lengths units hne ih =>
    simp only [Bool.and_eq_true, List.all_eq_true, decide_eq_true_eq] at h
    obtain ⟨⟨⟨-, hhex⟩, hhyphen⟩, hrest⟩ := h
    rw [← List.take_append_drop n units, List.mem_append] at hc
    rcases hc with hc | hc
    · exact isSafeUnit_of_isHex (hhex c hc)
    · cases hdrop : units.drop n with
      | nil => simp [hdrop] at hc
      | cons first rest =>
        have hfirst : first = '-' := by simpa [hdrop] using hhyphen
        have hnext : units.drop (n + 1) = rest := by
          rw [← List.drop_drop, hdrop]
          rfl
        rw [hdrop, List.mem_cons] at hc
        rcases hc with rfl | hc
        · rw [hfirst]
          decide
        · rw [hnext] at ih hrest
          exact ih hrest hc

theorem length_of_isHexGroups (h : isHexGroups lengths units = true) :
    units.length + 1 = (lengths.map (· + 1)).sum := by
  fun_induction isHexGroups lengths units with
  | case1 => cases h
  | case2 n units =>
    simp only [Bool.and_eq_true, decide_eq_true_eq] at h
    simp [h.1]
  | case3 n lengths units hne ih =>
    simp only [Bool.and_eq_true, decide_eq_true_eq] at h
    obtain ⟨⟨⟨htake, -⟩, hhyphen⟩, hrest⟩ := h
    have hlong : n < units.length := by
      by_contra hle
      rw [List.drop_eq_nil_of_le (by omega)] at hhyphen
      cases hhyphen
    have hsum := ih hrest
    rw [List.length_drop] at hsum
    rw [List.map_cons, List.sum_cons, ← hsum]
    omega

theorem Uuid.length (randomUUID : Uuid) : randomUUID.1.length = 36 := by
  have hsum := length_of_isHexGroups randomUUID.2
  simpa using hsum

def attachmentExtensions : List String :=
  IMAGE_EXTENSION_BY_MIME_TYPE.map Prod.snd ++ SAFE_IMAGE_FILE_EXTENSIONS ++ [".bin"]

def isPlainExtension : List Char → Bool
  | [] => false
  | c :: rest => c = '.' && rest.all isSafeUnit

theorem isPlainExtension_of_mem {extension : String} (h : extension ∈ attachmentExtensions) :
    isPlainExtension extension.toList = true := by
  have hall : attachmentExtensions.all (fun extension => isPlainExtension extension.toList) = true := by
    decide +kernel
  exact List.all_eq_true.mp hall extension h

section Names

variable [TextRuntime]

variable {threadId : String}

variable {randomUUID : Uuid} {attachment : ChatAttachment}

theorem uuid_of_createAttachmentId {otherId id : String} {other : Uuid}
    (h : createAttachmentId threadId randomUUID = some id)
    (hother : createAttachmentId otherId other = some id) : randomUUID = other := by
  obtain ⟨segment, -, hid⟩ := Option.map_eq_some_iff.mp h
  obtain ⟨otherSegment, -, hotherId⟩ := Option.map_eq_some_iff.mp hother
  have hlist := congrArg String.toList (hid.trans hotherId.symm)
  rw [String.toList_ofList, String.toList_ofList] at hlist
  have hlength : ('-' :: randomUUID.1).length = ('-' :: other.1).length := by
    simp [randomUUID.length, other.length]
  have htail := List.append_inj_right' hlist hlength
  exact Subtype.ext (List.cons.inj htail).2

theorem isSafeUnit_of_mem_segment {segment : List Char}
    (h : toSafeThreadAttachmentSegment threadId = some segment) {c : Char} (hc : c ∈ segment) :
    isSafeUnit c = true := by
  simp only [toSafeThreadAttachmentSegment] at h
  split at h
  · cases h
  · cases h
    have hstripped := List.mem_of_mem_take ((List.rdropWhile_prefix _ _).mem hc)
    have hhyphens := (List.dropWhile_suffix _).mem ((List.rdropWhile_prefix _ _).mem hstripped)
    rcases mem_replaceRuns hhyphens with rfl | ⟨hsafe, -⟩
    · decide
    · rcases mem_replaceRuns hsafe with rfl | ⟨-, hsafe⟩
      · decide
      · simpa using hsafe

theorem wellNamed_createAttachmentId {id : String}
    (h : createAttachmentId threadId randomUUID = some id) : WellNamed id := by
  obtain ⟨segment, hsegment, rfl⟩ := Option.map_eq_some_iff.mp h
  constructor
  · simp
  · intro c hc
    rw [String.toList_ofList, List.mem_append, List.mem_cons] at hc
    rcases hc with hc | rfl | hc
    · exact isSafeUnit_of_mem_segment hsegment hc
    · decide
    · exact isSafeUnit_of_mem_groups randomUUID.2 hc

theorem inferImageExtension_mem [MimeRuntime] (mimeType fileName : String) :
    inferImageExtension mimeType fileName ∈ attachmentExtensions := by
  have hsafe : ∀ {extension}, SAFE_IMAGE_FILE_EXTENSIONS.contains extension = true →
      extension ∈ attachmentExtensions := by
    intro extension h
    simp only [attachmentExtensions, List.mem_append]
    exact Or.inl (Or.inr (List.contains_iff_mem.mp h))
  simp only [inferImageExtension]
  split
  · rename_i fromMime h
    have hmem : fromMime ∈ IMAGE_EXTENSION_BY_MIME_TYPE.map Prod.snd := by
      obtain ⟨before, after, hrows, -⟩ := List.lookup_eq_some_iff.mp h
      simp [hrows]
    simp only [attachmentExtensions, List.mem_append]
    exact Or.inl (Or.inl hmem)
  · split
    · rename_i h
      exact hsafe (Option.filter_eq_some_iff.mp h).2
    · split
      · rename_i h
        exact hsafe h
      · simp [attachmentExtensions]

theorem toList_inferImageExtension [MimeRuntime] (mimeType fileName : String) :
    ∃ rest, (inferImageExtension mimeType fileName).toList = '.' :: rest ∧
      ∀ c ∈ rest, isSafeUnit c = true := by
  have hplain := isPlainExtension_of_mem (inferImageExtension_mem mimeType fileName)
  cases hlist : (inferImageExtension mimeType fileName).toList with
  | nil => simp [hlist, isPlainExtension] at hplain
  | cons c rest =>
    simp only [hlist, isPlainExtension, Bool.and_eq_true, decide_eq_true_eq,
      List.all_eq_true] at hplain
    rw [hplain.1]
    exact ⟨rest, rfl, hplain.2⟩

theorem WellNamed.normalize_path [MimeRuntime] (h : WellNamed attachment.id) :
    normalizeAttachmentRelativePath (attachmentRelativePath attachment) =
      some (attachmentRelativePath attachment) := by
  obtain ⟨hne, hsafe⟩ := h
  obtain ⟨c, rest, hid⟩ := List.exists_cons_of_ne_nil hne
  obtain ⟨extension, hextension, hsafeExtension⟩ :=
    toList_inferImageExtension attachment.mimeType attachment.name
  have hlist : (attachmentRelativePath attachment).toList = c :: (rest ++ '.' :: extension) := by
    rw [attachmentRelativePath, String.toList_append, hid, hextension, List.cons_append]
  have hc := hsafe c (by simp [hid])
  have hrest : ∀ d ∈ rest ++ '.' :: extension, isSafeUnit d = true ∨ d = '.' := by
    intro d hd
    rcases List.mem_append.mp hd with hd | hd
    · exact Or.inl (hsafe d (by simp [hid, hd]))
    · rcases List.mem_cons.mp hd with rfl | hd
      · exact Or.inr rfl
      · exact Or.inl (hsafeExtension d hd)
  have hnormalize := normalizeAttachmentRelativePath_of_safe hc hrest
  rwa [← hlist, String.ofList_toList] at hnormalize

theorem WellNamed.parseAttachmentId [MimeRuntime] (h : WellNamed attachment.id) :
    parseAttachmentIdFromRelativePath (attachmentRelativePath attachment) = some attachment.id := by
  obtain ⟨extension, hextension, hsafeExtension⟩ :=
    toList_inferImageExtension attachment.mimeType attachment.name
  have hlist : (attachmentRelativePath attachment).toList =
      attachment.id.toList ++ '.' :: extension := by
    rw [attachmentRelativePath, String.toList_append, hextension]
  have hdotExtension : ∀ c ∈ extension.reverse, decide (c ≠ '.') = true := by
    intro c hc
    have hne := ne_of_isSafeUnit (hsafeExtension c (List.mem_reverse.mp hc)) (d := '.') (by decide)
    simpa using hne
  have hid : ((attachmentRelativePath attachment).toList.reverse.dropWhile
      (fun c => c ≠ '.')).reverse.dropLast = attachment.id.toList := by
    rw [hlist, List.reverse_append, List.reverse_cons, List.append_assoc,
      List.dropWhile_append_of_pos hdotExtension]
    simp
  have hdot : '.' ∉ attachment.id.toList :=
    fun hmem => ne_of_isSafeUnit (h.2 '.' hmem) (by decide) rfl
  have hslash : '/' ∉ (attachmentRelativePath attachment).toList := by
    rw [hlist, List.mem_append, List.mem_cons]
    rintro (hmem | hmem | hmem)
    · exact ne_of_isSafeUnit (h.2 '/' hmem) (by decide) rfl
    · cases hmem
    · exact ne_of_isSafeUnit (hsafeExtension '/' hmem) (by decide) rfl
  have hlength : attachment.id.toList.length > 0 := List.length_pos_iff.mpr h.1
  have hmem : '.' ∈ (attachmentRelativePath attachment).toList := by
    rw [hlist]
    simp
  simp only [parseAttachmentIdFromRelativePath, h.normalize_path, hid]
  rw [if_neg hslash, if_pos ⟨hmem, hlength, hdot⟩, String.ofList_toList]

end Names

end GT3Code.Server
