import PythonAudit.Proofs.Discovery
import PythonAudit.Proofs.Location

/-!
# The directories that are never searched

The standard patterns speak about bytes, and what they exclude about names on the way to a file.

* `belowText name` is the pattern for what is below a directory with a name, and `read?_belowText`
  says how it is read;
* `matchBytes_belowParts` says that such a pattern matches from the start of a path or from what
  follows a slash;
* `exists_start_iff` says that these places are the starts of the names, so that
  `matches_belowText_iff` can speak about whole names;
* `standard_excludes_by_directory` says what is excluded when no patterns are given, and that
  nothing else is hidden.
-/

namespace PythonAudit

namespace Glob

open Text

/-! ### Patterns of directories -/

/-- The parts of a pattern for what is below a directory with the given name, anywhere. -/
def belowParts (name : List Char) : List Part := .leading :: (name.map .char ++ [.trailing])

/-- The text of a pattern for what is below a directory with the given name, anywhere. -/
def belowText (name : String) : String := "**/" ++ name ++ "/**"

/-- The characters that have a meaning of their own in a pattern. -/
def signs : List Char := ['/', '?', '*', ',', '\x7b', '\x7d', '\\', '[']

theorem symbol_of_notMem {c : Char} (h : c ∉ signs) : symbol c = .char c := by
  simp only [signs, List.mem_cons, List.not_mem_nil, or_false, not_or] at h
  unfold symbol
  split <;> simp_all

theorem symbols?_append {name : List Char} (h : ∀ c ∈ name, c ∉ signs) (rest : List Char) :
    symbols? .plain (name ++ rest) = (symbols? .plain rest).map (name.map .char ++ ·) := by
  induction name with
  | nil => simp
  | cons c name ih =>
    obtain ⟨hc, hname⟩ := List.forall_mem_cons.1 h
    have hescape : c ≠ '\\' := fun heq => hc (heq ▸ by decide)
    have hopen : c ≠ '[' := fun heq => hc (heq ▸ by decide)
    rw [List.cons_append, symbols?, if_neg hescape, if_neg hopen, ih hname, symbol_of_notMem hc,
      Option.map_map]
    rfl

theorem parts?_append (d : Draft) (name : List Char) (rest : List Symbol) :
    parts? d (name.map .char ++ rest) =
      parts? (name.foldl (fun d c => d.push (.char c) c) d) rest := by
  induction name generalizing d with
  | nil => rfl
  | cons c name ih => rw [List.map_cons, List.cons_append, parts?, ih, List.foldl_cons]

theorem foldl_push (d : Draft) (name : List Char) :
    (name.foldl (fun d c => d.push (.char c) c) d).frames = d.frames ∧
      (name.foldl (fun d c => d.push (.char c) c) d).parts =
        (name.map .char).reverse ++ d.parts := by
  induction name generalizing d with
  | nil => exact ⟨rfl, rfl⟩
  | cons c name ih =>
    obtain ⟨hframes, hparts⟩ := ih (d.push (.char c) c)
    rw [List.foldl_cons, hframes, hparts]
    simp [Draft.push]

/-- A slash and two stars at the end of a pattern stand for what is below. -/
theorem parts?_below {d : Draft} (h : d.frames = []) :
    parts? d [.slash, .star, .star] = some (d.parts.reverse ++ [.trailing]) := by
  obtain ⟨frames, parts, last⟩ := d
  cases h
  simp [parts?, Draft.push, Draft.atComponent, Draft.widen]

theorem symbols?_belowText {name : String} (h : ∀ c ∈ name.toList, c ∉ signs) :
    symbols? .plain (belowText name).toList =
      some (.star :: .star :: .slash :: (name.toList.map .char ++ [.slash, .star, .star])) := by
  have hrest := symbols?_append h ['/', '*', '*']
  have hend : symbols? .plain ['/', '*', '*'] = some [.slash, .star, .star] := rfl
  rw [hend] at hrest
  simp [belowText, symbols?, symbol, hrest]

theorem read?_belowText {name : String} (h : ∀ c ∈ name.toList, c ∉ signs) :
    read? (belowText name) = some (belowParts name.toList) := by
  obtain ⟨hframes, hparts⟩ := foldl_push (Draft.push {} .leading '/') name.toList
  have hstart : ({} : Draft).parts.isEmpty = true := rfl
  rw [read?, symbols?_belowText h, Option.bind_some, parts?, if_pos hstart, parts?_append,
    parts?_below hframes, hparts]
  simp [belowParts, Draft.push]

/-! ### What they match -/

theorem after?_eq_some_iff {bs s rest : List UInt8} : after? bs s = some rest ↔ s = bs ++ rest := by
  induction bs generalizing s with
  | nil => simp [after?]
  | cons b bs ih =>
    cases s with
    | nil => simp [after?]
    | cons a s =>
      rw [after?]
      split_ifs with h
      · simp [h, ih]
      · simp [h]

/-- A name in a pattern takes its own bytes. -/
theorem accept_name (name : List Char) (ps : List Part) (next : List UInt8 → Bool)
    (s : List UInt8) :
    accept (name.map .char ++ ps) next s = true ↔
      ∃ rest, s = encode name ++ rest ∧ accept ps next rest = true := by
  induction name generalizing s with
  | nil => simp [encode]
  | cons c name ih =>
    rw [List.map_cons, List.cons_append, accept, Part.accepts, Option.any_eq_true]
    simp only [after?_eq_some_iff, ih, encode_cons, List.append_assoc]
    constructor
    · rintro ⟨_, rfl, rest, rfl, hrest⟩
      exact ⟨rest, rfl, hrest⟩
    · rintro ⟨rest, rfl, hrest⟩
      exact ⟨_, rfl, rest, rfl, hrest⟩

theorem nil_mem_suffixes {α : Type} (xs : List α) : [] ∈ suffixes xs := by
  induction xs with
  | nil => simp [suffixes]
  | cons x xs ih => exact List.mem_cons_of_mem _ ih

/-- What is below starts with a slash, and nothing more is asked of it. -/
theorem accept_trailing (s : List UInt8) :
    accept [.trailing] List.isEmpty s = true ↔ ∃ below, s = slash :: below := by
  have hall (below : List UInt8) :
      (suffixes below).any (fun r => accept [] List.isEmpty r) = true :=
    List.any_eq_true.2 ⟨[], nil_mem_suffixes below, by rw [accept]; rfl⟩
  rw [accept, Part.accepts]
  cases s with
  | nil => simp [afterSlash?]
  | cons b s =>
    by_cases hb : b = slash
    · simp only [afterSlash?, if_pos hb, Option.any_some, hall, true_iff]
      exact ⟨s, by rw [hb]⟩
    · simp [afterSlash?, hb]

/-- The pattern matches from the start of the path or from what follows one of its slashes. -/
theorem matchBytes_belowParts (name : List Char) (s : List UInt8) :
    matchBytes (belowParts name) s = true ↔
      ∃ rest ∈ s :: afterSlashes s, ∃ below, rest = encode name ++ slash :: below := by
  have hnamed : isNameless (belowParts name) = false := by
    simp [isNameless, belowParts, List.getLast?_cons, Part.isThe]
  have haccept (rest : List UInt8) :
    accept (name.map .char ++ [.trailing]) List.isEmpty rest = true ↔
      ∃ below, rest = encode name ++ slash :: below := by
    rw [accept_name]
    simp only [accept_trailing]
    constructor
    · rintro ⟨_, rfl, below, rfl⟩
      exact ⟨below, rfl⟩
    · rintro ⟨below, rfl⟩
      exact ⟨_, rfl, below, rfl⟩
  have hmatch : matchBytes (belowParts name) s = accept (belowParts name) List.isEmpty s := by
    rw [matchBytes, hnamed, Bool.not_false, Bool.and_true]
    intro h
    simp [belowParts] at h
  rw [hmatch, belowParts, accept, Part.accepts, Bool.or_eq_true, List.any_eq_true]
  simp only [haccept, List.mem_cons, exists_eq_or_imp]

/-! ### Names between slashes -/

theorem slash_notMem_encode {cs : List Char} (h : '/' ∉ cs) : slash ∉ encode cs := by
  intro hmem
  obtain ⟨c, hc, hslash⟩ := List.mem_flatMap.1 hmem
  refine ascii_notMem_utf8EncodeChar (by decide) ?_ hslash
  intro hcode
  have hc' : c = '/' := Char.ext (UInt32.toNat_inj.1 hcode)
  exact h (hc' ▸ hc)

theorem encode_toList_inj {a b : String} : encode a.toList = encode b.toList ↔ a = b := by
  refine ⟨fun h => ?_, fun h => h ▸ rfl⟩
  rw [← bytes_eq_encode, ← bytes_eq_encode] at h
  exact String.toByteArray_inj.1 (ByteArray.ext (Array.toList_inj.1 h))

theorem encode_intercalate_cons_cons (a b : String) (names : List String) :
    encode ("/".intercalate (a :: b :: names)).toList =
      encode a.toList ++ slash :: encode ("/".intercalate (b :: names)).toList := by
  rw [String.intercalate_cons_cons, String.toList_append, String.toList_append, encode_append,
    encode_append, List.append_assoc]
  rfl

theorem afterSlashes_eq_nil {bs : List UInt8} (h : slash ∉ bs) : afterSlashes bs = [] := by
  induction bs with
  | nil => rfl
  | cons b bs ih =>
    obtain ⟨hb, hbs⟩ := List.ne_and_not_mem_of_not_mem_cons h
    rw [afterSlashes, if_neg hb.symm, ih hbs]

theorem afterSlashes_append_slash {bs : List UInt8} (h : slash ∉ bs) (rest : List UInt8) :
    afterSlashes (bs ++ slash :: rest) = rest :: afterSlashes rest := by
  induction bs with
  | nil => simp [afterSlashes]
  | cons b bs ih =>
    obtain ⟨hb, hbs⟩ := List.ne_and_not_mem_of_not_mem_cons h
    rw [List.cons_append, afterSlashes, if_neg hb.symm, ih hbs]

theorem takeWhile_append_slash {bs : List UInt8} (h : slash ∉ bs) (rest : List UInt8) :
    (bs ++ slash :: rest).takeWhile (· != slash) = bs := by
  have hbs : ∀ b ∈ bs, (b != slash) = true := by
    intro b hb
    rw [bne_iff_ne]
    rintro rfl
    exact h hb
  rw [List.takeWhile_append_of_pos hbs]
  simp

/-- What stands before the first slash is known. -/
theorem append_slash_eq_iff {bs cs rest : List UInt8} (hbs : slash ∉ bs) (hcs : slash ∉ cs) :
    (∃ rest', bs ++ slash :: rest = cs ++ slash :: rest') ↔ bs = cs := by
  constructor
  · rintro ⟨rest', h⟩
    have hfirst := congrArg (List.takeWhile (· != slash)) h
    rwa [takeWhile_append_slash hbs, takeWhile_append_slash hcs] at hfirst
  · rintro rfl
    exact ⟨rest, rfl⟩

/-- A name and a slash stand at the start of a path or after a slash exactly when the name is on the
way to the last one. -/
theorem exists_start_iff {name : String} (hname : '/' ∉ name.toList) {names : List String}
    (h : ∀ n ∈ names, '/' ∉ n.toList) :
    (∃ rest ∈ encode ("/".intercalate names).toList ::
        afterSlashes (encode ("/".intercalate names).toList),
      ∃ below, rest = encode name.toList ++ slash :: below) ↔ name ∈ names.dropLast := by
  induction names with
  | nil => simp [encode, afterSlashes]
  | cons a names ih =>
    obtain ⟨ha, hnames⟩ := List.forall_mem_cons.1 h
    have hbytes := slash_notMem_encode ha
    cases names with
    | nil =>
      rw [String.intercalate_singleton, afterSlashes_eq_nil hbytes]
      simp only [List.mem_singleton, exists_eq_left, List.dropLast_singleton, List.not_mem_nil,
        iff_false, not_exists]
      intro below heq
      exact hbytes (heq ▸ by simp)
    | cons b names =>
      -- the first name is compared as a whole, the others by induction
      rw [encode_intercalate_cons_cons, afterSlashes_append_slash hbytes,
        List.dropLast_cons_of_ne_nil (by simp), List.mem_cons, ← ih hnames]
      simp only [List.mem_cons, exists_eq_or_imp,
        append_slash_eq_iff hbytes (slash_notMem_encode hname)]
      rw [encode_toList_inj, eq_comm]

theorem matches_belowText_iff {name : String} (hname : ∀ c ∈ name.toList, c ∉ signs)
    {names : List String} (h : ∀ n ∈ names, '/' ∉ n.toList) :
    Matches (belowText name) ("/".intercalate names) ↔ name ∈ names.dropLast := by
  have hslash : '/' ∉ name.toList := fun hmem => hname _ hmem (by decide)
  simp only [Matches, read?_belowText hname, Option.some.injEq, exists_eq_left',
    matchBytes_belowParts]
  exact exists_start_iff hslash h

end Glob

/-! ### The standard patterns -/

/-- The names of the directories with records of changes and with the stores of tools. -/
def toolDirectories : List String :=
  [".git", ".hg", ".svn", "__pycache__", ".mypy_cache", ".pytest_cache", ".ruff_cache"]

theorem standardExcludes_eq : standardExcludes = toolDirectories.map Glob.belowText := by decide

theorem plain_of_mem_toolDirectories :
    ∀ name ∈ toolDirectories, ∀ c ∈ name.toList, c ∉ Glob.signs := by
  simp [toolDirectories, Glob.signs]

theorem matchesPath_standard {names : List String} (h : ∀ n ∈ names, '/' ∉ n.toList) :
    (excludes []).matchesPath ("/".intercalate names) = true ↔
      ∃ name ∈ names.dropLast, name ∈ toolDirectories := by
  rw [matchesPath_excludes, List.append_nil, standardExcludes_eq]
  simp only [List.mem_map, exists_exists_and_eq_and]
  refine exists_congr fun name => ?_
  rw [and_comm]
  refine and_congr_left fun htool => ?_
  exact Glob.matches_belowText_iff (plain_of_mem_toolDirectories name htool) h

theorem free_of_standard_iff {names : List String} (h : ∀ n ∈ names, '/' ∉ n.toList) :
    (∀ text ∈ standardExcludes ++ [], ¬ Glob.Matches text ("/".intercalate names)) ↔
      ∀ name ∈ names.dropLast, name ∉ toolDirectories := by
  rw [← not_iff_not]
  push Not
  rw [← matchesPath_excludes, matchesPath_standard h]

namespace FileTree

/-- A Python file is found exactly when it is in none of the directories, however deep. -/
theorem mem_discover_standard {t : FileTree} {root : String} {names : List String}
    (hsound : t.Sound) (hyielded : t.Yielded root names)
    (hpython : Path.isPython (Path.below root names) = true) :
    Path.below root names ∈ t.discover root (excludes []) ↔
      ∀ name ∈ names.dropLast, name ∉ toolDirectories := by
  have hslash : ∀ n ∈ names, '/' ∉ n.toList := fun n hn => (hyielded.isFileName n hn).no_slash
  rw [mem_discover_iff hsound, ← free_of_standard_iff hslash]
  constructor
  · rintro ⟨names', hyielded', hpath, -, hfree⟩
    have hnames :=
      Path.eq_of_components_below_eq hyielded.isFileName hyielded'.isFileName (congrArg _ hpath)
    rwa [hnames]
  · intro hfree
    exact ⟨names, hyielded, rfl, (Path.isPython_iff _).1 hpython, hfree⟩

/-- **Without further patterns a file is excluded by the directories that it is in, and by nothing
else.** -/
theorem standard_excludes_by_directory :
    (∀ names : List String, (∀ n ∈ names, '/' ∉ n.toList) →
      ((excludes []).matchesPath ("/".intercalate names) = true ↔
        ∃ name ∈ names.dropLast, name ∈ toolDirectories)) ∧
    ∀ (t : FileTree) (root : String) (names : List String), t.Sound → t.Yielded root names →
      Path.isPython (Path.below root names) = true →
      (Path.below root names ∈ t.discover root (excludes []) ↔
        ∀ name ∈ names.dropLast, name ∉ toolDirectories) :=
  ⟨fun _ => matchesPath_standard, fun _ _ _ => mem_discover_standard⟩

/-- A file in a directory with records of changes, and one with a similar name in a directory with a
similar name. -/
def recordedTree : FileTree :=
  (((({} : FileTree).put [".git"] .directory).put [".git", "a.py"] (.file ByteArray.empty)).put
    [".github"]
    .directory).put [".github", ".git.py"] (.file ByteArray.empty)

theorem isFileName_recordedTree :
    ∀ name ∈ [".git", "a.py", ".github", ".git.py"], Path.IsFileName name := by
  intro name hname
  simp only [List.mem_cons, List.not_mem_nil, or_false] at hname
  rcases hname with rfl | rfl | rfl | rfl <;> exact ⟨by decide, by decide, by decide, by decide⟩

theorem sound_recordedTree : recordedTree.Sound := by
  have hnames := isFileName_recordedTree
  have hgit : Sound (({} : FileTree).put ([] ++ [".git"]) .directory) :=
    sound_empty.put rfl (Or.inl (hnames _ (by simp))) fun _ => rfl
  have ha : Sound (FileTree.put _ ([".git"] ++ ["a.py"]) (.file ByteArray.empty)) :=
    hgit.put rfl (Or.inl (hnames _ (by simp))) fun h => absurd h (by decide)
  have hgithub : Sound (FileTree.put _ ([] ++ [".github"]) .directory) :=
    ha.put rfl (Or.inl (hnames _ (by simp))) fun _ => rfl
  have hfile : Sound (FileTree.put _ ([".github"] ++ [".git.py"]) (.file ByteArray.empty)) :=
    hgithub.put rfl (Or.inl (hnames _ (by simp))) fun h => absurd h (by decide)
  exact hfile

theorem yielded_recordedTree :
    recordedTree.Yielded "." [".git", "a.py"] ∧
      recordedTree.Yielded "." [".github", ".git.py"] := by
  have hnames := isFileName_recordedTree
  have hgit : recordedTree.Opens [[]] [] ".git" [".git"] := .entry (e := .directory) rfl (by simp)
  have ha : recordedTree.Opens [[".git"], []] [".git"] "a.py" [".git", "a.py"] :=
    .entry (e := .file ByteArray.empty) rfl (by simp)
  have hgithub : recordedTree.Opens [[]] [] ".github" [".github"] :=
    .entry (e := .directory) rfl (by simp)
  have hfile : recordedTree.Opens [[".github"], []] [".github"] ".git.py" [".github", ".git.py"] :=
    .entry (e := .file ByteArray.empty) rfl (by simp)
  constructor
  · refine .directory (resolve_dot _) rfl (.deeper (hnames _ (by simp)) hgit rfl ?_)
    exact .file (hnames _ (by simp)) ha rfl
  · refine .directory (resolve_dot _) rfl (.deeper (hnames _ (by simp)) hgithub rfl ?_)
    exact .file (hnames _ (by simp)) hfile rfl

/-- The file in the directory with the records is hidden, and the other one is found. -/
theorem discover_recordedTree :
    (excludes []).matchesPath ("/".intercalate ["lib", ".git", "hooks", "x.py"]) = true ∧
      ¬ (excludes []).matchesPath ("/".intercalate ["x.git", ".github", "__pycache__"]) = true ∧
      "./.git/a.py" ∉ recordedTree.discover "." (excludes []) ∧
      "./.github/.git.py" ∈ recordedTree.discover "." (excludes []) := by
  obtain ⟨hpath, hfound⟩ := standard_excludes_by_directory
  obtain ⟨hgit, hgithub⟩ := yielded_recordedTree
  refine ⟨(hpath _ (by decide)).2 (by decide),
    fun h => absurd ((hpath _ (by decide)).1 h) (by decide), ?_, ?_⟩
  · intro h
    exact absurd ((hfound _ _ _ sound_recordedTree hgit (by decide)).1 h) (by decide)
  · exact (hfound _ _ _ sound_recordedTree hgithub (by decide)).2 (by decide)

end FileTree

end PythonAudit
