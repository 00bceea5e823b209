import GT3Code.Base.JsonValue
import GT3Code.Base.Trimming

/-! # POSIX paths

A path is a text, and what it locates is the list of the names on the way from the root. The
functions are those of Node's `path.posix`; `cwd` is the working directory.
-/

namespace GT3Code.Base.Posix

open GT3Code.Base.Json

def separator : CodeUnit := 47

def dot : Text := [46]

def dotDot : Text := [46, 46]

def IsName (segment : Text) : Prop :=
  segment ≠ [] ∧ segment ≠ dot ∧ segment ≠ dotDot ∧ separator ∉ segment

def follow (names : List Text) (segment : Text) : List Text :=
  if segment = [] ∨ segment = dot then names
  else if segment = dotDot then names.dropLast
  else names ++ [segment]

def walk (names segments : List Text) : List Text := segments.foldl follow names

def isAbsolute (path : Text) : Bool := path.head? = some separator

def locate (path : Text) : List Text := walk [] (path.splitOn separator)

def render (names : List Text) : Text := separator :: [separator].intercalate names

/-- The loop of `path.resolve`: paths from the last on, until one is absolute. -/
def gather : List Text → Text → Text
  | [], resolved => resolved
  | path :: paths, resolved =>
    if path = [] then gather paths resolved
    else if isAbsolute path then path ++ separator :: resolved
    else gather paths (path ++ separator :: resolved)

def resolve (cwd : Text) (paths : List Text) : Text :=
  render (locate (gather (paths.reverse ++ [cwd]) []))

/-- Up from the one to what both have in common, then down to the other. -/
def descend : List Text → List Text → List Text
  | name :: names, other :: others =>
    if name = other then descend names others
    else (name :: names).map (fun _ => dotDot) ++ other :: others
  | names, others => names.map (fun _ => dotDot) ++ others

/-- `path.relative` -/
def relative (cwd base target : Text) : Text :=
  [separator].intercalate (descend (locate (resolve cwd [base])) (locate (resolve cwd [target])))

variable {names segments others : List Text} {cwd path root : Text}

theorem walk_append (names segments others : List Text) :
    walk names (segments ++ others) = walk (walk names segments) others :=
  List.foldl_append ..

theorem follow_of_isName {segment : Text} (h : IsName segment) (names : List Text) :
    follow names segment = names ++ [segment] := by
  rw [follow, if_neg (by simp [h.1, h.2.1]), if_neg h.2.2.1]

theorem walk_of_isName (h : ∀ segment ∈ segments, IsName segment) (names : List Text) :
    walk names segments = names ++ segments := by
  induction segments generalizing names with
  | nil => rw [List.append_nil]; rfl
  | cons segment segments ih =>
    rw [List.forall_mem_cons] at h
    have hfollow := follow_of_isName h.1 names
    rw [walk, List.foldl_cons, hfollow, ← walk, ih h.2, List.append_assoc,
      List.singleton_append]

theorem isName_walk (hnames : ∀ name ∈ names, IsName name)
    (hsegments : ∀ segment ∈ segments, separator ∉ segment) :
    ∀ name ∈ walk names segments, IsName name := by
  induction segments generalizing names with
  | nil => exact hnames
  | cons segment segments ih =>
    rw [List.forall_mem_cons] at hsegments
    refine ih ?_ hsegments.2
    rw [follow]
    split_ifs with hstay hup
    · exact hnames
    · exact fun name hname => hnames name (List.mem_of_mem_dropLast hname)
    · rw [not_or] at hstay
      intro name hname
      rw [List.mem_append, List.mem_singleton] at hname
      obtain hbefore | rfl := hname
      · exact hnames name hbefore
      · exact ⟨hstay.1, hstay.2, hup, hsegments.1⟩

theorem mem_drop_walk {depth : Nat} {name : Text} (h : name ∈ (walk names segments).drop depth) :
    name ∈ names.drop depth ∨ name ∈ segments := by
  induction segments generalizing names with
  | nil => exact Or.inl h
  | cons segment segments ih =>
    obtain hfollow | hlater := ih h
    · rw [follow] at hfollow
      split_ifs at hfollow
      · exact Or.inl hfollow
      · rw [List.dropLast_eq_take, List.drop_take] at hfollow
        exact Or.inl (List.mem_of_mem_take hfollow)
      · rw [List.drop_append, List.mem_append] at hfollow
        obtain hbefore | hnew := hfollow
        · exact Or.inl hbefore
        · rw [List.mem_singleton.mp (List.mem_of_mem_drop hnew)]
          exact Or.inr List.mem_cons_self
    · exact Or.inr (List.mem_cons_of_mem _ hlater)

theorem isName_locate (path : Text) : ∀ name ∈ locate path, IsName name :=
  isName_walk (by simp) (fun _ hsegment => notMem_splitOn hsegment)

theorem locate_append (path rest : Text) :
    locate (path ++ separator :: rest) = walk (locate path) (rest.splitOn separator) := by
  rw [locate, List.splitOn_append_cons_self, walk_append, locate]

theorem splitOn_intercalate_names (h : ∀ name ∈ names, IsName name) (hne : names ≠ []) :
    ([separator].intercalate names).splitOn separator = names :=
  List.splitOn_intercalate separator (fun name hname => (h name hname).2.2.2) hne

theorem locate_render (h : ∀ name ∈ names, IsName name) : locate (render names) = names := by
  have hroot : locate [] = [] := by decide
  rw [render, ← List.nil_append (separator :: _), locate_append, hroot]
  by_cases hne : names = []
  · subst hne
    decide
  · rw [splitOn_intercalate_names h hne, walk_of_isName h, List.nil_append]

theorem gather_absolute (h : isAbsolute path) (paths : List Text) (resolved : Text) :
    gather (path :: paths) resolved = path ++ separator :: resolved := by
  have hne : path ≠ [] := by
    rintro rfl
    cases h
  rw [gather, if_neg hne, if_pos h]

theorem resolve_absolute (h : isAbsolute path) : locate (resolve cwd [path]) = locate path := by
  rw [resolve, List.reverse_singleton, List.singleton_append, gather_absolute h, locate_append,
    locate_render (isName_walk (isName_locate path) (by decide))]
  rfl

theorem resolve_relative (hroot : isAbsolute root) (hpath : isAbsolute path = false) :
    locate (resolve cwd [root, path]) = walk (locate root) (path.splitOn separator) := by
  have hgather : gather ([root, path].reverse ++ [cwd]) [] =
      if path = [] then root ++ separator :: [] else root ++ separator :: (path ++ separator :: []) := by
    rw [show [root, path].reverse ++ [cwd] = [path, root, cwd] from rfl, gather,
      gather_absolute hroot, gather_absolute hroot]
    simp only [hpath, Bool.false_eq_true, if_false]
  have hlocate : locate (gather ([root, path].reverse ++ [cwd]) []) =
      walk (locate root) (path.splitOn separator) := by
    rw [hgather]
    split_ifs with hempty
    · rw [hempty, locate_append]
    · rw [locate_append, List.splitOn_append_cons_self, walk_append]
      rfl
  rw [resolve, hlocate, locate_render]
  exact isName_walk (isName_locate root) (fun _ hsegment => notMem_splitOn hsegment)

theorem resolve_eq_render (cwd : Text) (paths : List Text) :
    resolve cwd paths = render (locate (resolve cwd paths)) := by
  rw [resolve, locate_render (isName_locate _)]

theorem isAbsolute_resolve (cwd : Text) (paths : List Text) : isAbsolute (resolve cwd paths) := by
  simp [resolve, render, isAbsolute]

theorem descend_append (names others : List Text) : descend names (names ++ others) = others := by
  induction names with
  | nil => cases others <;> rfl
  | cons name names ih => rw [List.cons_append, descend, if_pos rfl, ih]

theorem descend_of_not_isPrefix (h : ¬names <+: others) :
    ∃ rest, descend names others = dotDot :: rest := by
  induction names generalizing others with
  | nil => exact absurd (List.nil_prefix) h
  | cons name names ih =>
    cases others with
    | nil => exact ⟨_, rfl⟩
    | cons other others =>
      rw [descend]
      split_ifs with heq
      · exact ih (fun hprefix => h (by rw [heq]; exact (List.prefix_cons_inj other).mpr hprefix))
      · exact ⟨_, rfl⟩

end GT3Code.Base.Posix
