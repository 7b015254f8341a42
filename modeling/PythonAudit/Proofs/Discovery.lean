import PythonAudit.Proofs.FileWalk

/-!
# Which files are found

* `Glob.Matches` says that a text is a pattern and matches a path, and `matchesPath_excludes` that
  excluded is what one of the standard patterns or of the given ones matches;
* `FileTree.Found` says which paths are found, and `mem_discover_iff` that a search finds them and
  no others;
* they come in the order of their components (`pairwise_discover`), so that their list is known from
  its members (`discover_sublist`);
* `discover_of_tree` puts this together.
-/

namespace PythonAudit

/-- The text is a pattern, and it matches the path. -/
def Glob.Matches (text path : String) : Prop :=
  ∃ parts, read? text = some parts ∧ matchBytes parts (Text.encode path.toList) = true

theorem matchesPath_ofTexts (texts : List String) (path : String) :
    (Patterns.ofTexts texts).matchesPath path = true ↔ ∃ text ∈ texts, Glob.Matches text path := by
  simp only [Patterns.matchesPath, Patterns.ofTexts, List.any_eq_true, List.mem_filterMap,
    Glob.Matches]
  constructor
  · rintro ⟨parts, ⟨text, htext, hread⟩, hmatch⟩
    exact ⟨text, htext, parts, hread, hmatch⟩
  · rintro ⟨text, htext, parts, hread, hmatch⟩
    exact ⟨parts, ⟨text, htext, hread⟩, hmatch⟩

theorem matchesPath_excludes (texts : List String) (path : String) :
    (excludes texts).matchesPath path = true ↔
      ∃ text ∈ standardExcludes ++ texts, Glob.Matches text path := by
  rw [← matchesPath_ofTexts, Patterns.ofTexts, List.filterMap_append]
  rfl

namespace FileTree

variable {t t' : FileTree} {root path : String} {texts texts' : List String}

/-- The path is one of a Python file below another path, and nothing excludes it: the names on the
way are matched neither by a standard pattern nor by one of the given texts that is a pattern. -/
def Found (t : FileTree) (root : String) (texts : List String) (path : String) : Prop :=
  ∃ names, t.Yielded root names ∧ path = Path.below root names ∧
    (∃ stem, stem ≠ "" ∧ (Path.components path).getLast? = some (.name (stem ++ ".py"))) ∧
    ∀ text ∈ standardExcludes ++ texts, ¬ Glob.Matches text ("/".intercalate names)

theorem mem_discover_iff (hsound : t.Sound) (root : String) (texts : List String) (path : String) :
    path ∈ t.discover root (excludes texts) ↔ t.Found root texts path := by
  have hkept : ∀ names : List String,
    ((excludes texts).matchesPath ("/".intercalate names) = false ↔
      ∀ text ∈ standardExcludes ++ texts, ¬ Glob.Matches text ("/".intercalate names)) := by
    intro names
    rw [← Bool.not_eq_true, matchesPath_excludes]
    simp only [not_exists, not_and]
  simp only [discover, List.mem_mergeSort, List.mem_map, List.mem_filter, Bool.and_eq_true,
    Bool.not_eq_true', hkept, mem_walk_iff hsound, Path.isPython_iff]
  constructor
  · rintro ⟨names, ⟨hyielded, hpython, hfree⟩, rfl⟩
    exact ⟨names, hyielded, rfl, hpython, hfree⟩
  · rintro ⟨names, hyielded, rfl, hpython, hfree⟩
    exact ⟨names, ⟨hyielded, hpython, hfree⟩, rfl⟩

theorem pairwise_discover (hsound : t.Sound) (root : String) (excluded : Patterns) :
    (t.discover root excluded).Pairwise Path.Precedes := by
  refine Path.pairwise_precedes_mergeSort ?_
  rw [List.map_map]
  refine List.Nodup.map_on ?_ ((t.nodup_walk root).filter _)
  intro names hnames names' hnames' heq
  have hfiles := ((mem_walk_iff hsound).1 (List.mem_of_mem_filter hnames)).isFileName
  have hfiles' := ((mem_walk_iff hsound).1 (List.mem_of_mem_filter hnames')).isFileName
  exact Path.eq_of_components_below_eq hfiles hfiles' heq

/-- The members decide: what is found in one case is a part of what is found in another one when all
of it is found there too. -/
theorem discover_sublist (hsound : t.Sound) (hsound' : t'.Sound)
    (h : ∀ path, t.Found root texts path → t'.Found root texts' path) :
    (t.discover root (excludes texts)).Sublist (t'.discover root (excludes texts')) := by
  refine Path.sublist_of_subset (pairwise_discover hsound _ _) (pairwise_discover hsound' _ _) ?_
  intro path hpath
  exact (mem_discover_iff hsound' _ _ _).2 (h path ((mem_discover_iff hsound _ _ _).1 hpath))

/-- More patterns exclude more. -/
theorem Found.anti (h : t.Found root texts' path)
    (hmore : ∀ text ∈ texts, (Glob.read? text).isSome → text ∈ texts') :
    t.Found root texts path := by
  obtain ⟨names, hyielded, hpath, hpython, hfree⟩ := h
  refine ⟨names, hyielded, hpath, hpython, ?_⟩
  intro text htext hmatches
  refine hfree text ?_ hmatches
  obtain ⟨parts, hread, -⟩ := hmatches
  rcases List.mem_append.1 htext with hstandard | hgiven
  · exact List.mem_append_left _ hstandard
  · exact List.mem_append_right _ (hmore text hgiven (by rw [hread]; rfl))

theorem Found.grows (h : t.Found root texts path) (hgrows : Grows t t') (hback : Grows t' t) :
    t'.Found root texts path := by
  obtain ⟨names, hyielded, hrest⟩ := h
  exact ⟨names, hyielded.grows hgrows hback, hrest⟩

theorem grows_of_get? (h : ∀ place, t'.get? place = t.get? place) : Grows t t' := by
  intro place e he
  rw [← h] at he
  exact Grows.refl t' he

theorem Sound.of_get? (hsound : t.Sound) (h : ∀ place, t'.get? place = t.get? place) :
    t'.Sound where
  named hsome := hsound.named (by rwa [← h])
  held hsome := by
    rw [isDirectoryAt_iff, h, ← isDirectoryAt_iff]
    exact hsound.held (by rwa [← h])
  above he := hsound.above (by rwa [← h])

theorem lookup_of_perm {es es' : List (Place × Entry)} (h : es'.Perm es)
    (hplaces : (es.map Prod.fst).Nodup) (place : Place) : es'.lookup place = es.lookup place := by
  induction h with
  | nil => rfl
  | cons e _ ih => rw [List.lookup_cons, List.lookup_cons, ih (List.nodup_cons.1 hplaces).2]
  | swap e e' rest =>
    -- the place is at most one of two different ones
    obtain ⟨p, entry⟩ := e
    obtain ⟨p', entry'⟩ := e'
    have hne : p ≠ p' := by
      rintro rfl
      simp at hplaces
    rw [List.lookup_cons, List.lookup_cons, List.lookup_cons, List.lookup_cons]
    by_cases hplace : place = p
    · simp [hplace, beq_eq_false_iff_ne.2 hne]
    · simp [beq_eq_false_iff_ne.2 hplace]
  | trans _ hsecond ih ih' => rw [ih ((hsecond.map Prod.fst).nodup_iff.2 hplaces), ih' hplaces]

/-- Entries with different places can be listed in any order. -/
theorem get?_of_perm (h : t'.entries.Perm t.entries) (hplaces : (t.entries.map Prod.fst).Nodup)
    (place : Place) :
    t'.get? place = t.get? place := by
  rw [get?, get?, lookup_of_perm h hplaces]

/-- **The search finds each Python file that is not excluded once, in order**, however the tree
lists its entries and however the patterns are given. -/
theorem discover_of_tree :
    (∀ (t : FileTree) (root : String) (texts : List String), t.Sound →
      (t.discover root (excludes texts)).Pairwise Path.Precedes ∧
      (t.discover root (excludes texts)).Nodup ∧
      (∀ path, path ∈ t.discover root (excludes texts) ↔ t.Found root texts path) ∧
      (∀ names, t.Yielded root names →
        Path.components (Path.below root names) = Path.components root ++ names.map .name) ∧
      (∀ t' : FileTree, (∀ place, t'.get? place = t.get? place) →
        t'.discover root (excludes texts) = t.discover root (excludes texts)) ∧
      (∀ texts', (∀ text, (Glob.read? text).isSome → (text ∈ texts' ↔ text ∈ texts)) →
        t.discover root (excludes texts') = t.discover root (excludes texts)) ∧
      ∀ texts', (∀ text ∈ texts, (Glob.read? text).isSome → text ∈ texts') →
        (t.discover root (excludes texts')).Sublist (t.discover root (excludes texts))) ∧
    Sound {} ∧
    ∀ (t t' : FileTree) (path : String) (e : Entry), t.Sound → t.add path e = .ok t' →
      (∀ text, e = .link text → Path.IsFileName (lastName path)) → t'.Sound := by
  refine ⟨?_, sound_empty, fun t t' path e h hadd hlink => h.add hlink hadd⟩
  intro t root texts hsound
  have hascending := pairwise_discover hsound root (excludes texts)
  have hfewer : ∀ {texts texts' : List String},
    (∀ text ∈ texts, (Glob.read? text).isSome → text ∈ texts') →
      (t.discover root (excludes texts')).Sublist (t.discover root (excludes texts)) :=
    fun hmore => discover_sublist hsound hsound fun _ hfound => hfound.anti hmore
  refine ⟨hascending, hascending.nodup, mem_discover_iff hsound root texts,
    fun names hyielded => Path.components_below root hyielded.isFileName, ?_, ?_, fun _ => hfewer⟩
  · intro t' hget
    have hsound' := hsound.of_get? hget
    have hgrows := grows_of_get? hget
    have hback := grows_of_get? fun place => (hget place).symm
    exact (discover_sublist hsound' hsound fun _ h => h.grows hback hgrows).antisymm
      (discover_sublist hsound hsound' fun _ h => h.grows hgrows hback)
  · intro texts' hsame
    exact (hfewer fun text htext hread => (hsame text hread).2 htext).antisymm
      (hfewer fun text htext hread => (hsame text hread).1 htext)

/-- A link to a file in a directory, and in that directory the file and a link back up. -/
def linkedTree : FileTree :=
  (((({} : FileTree).put ["b.py"] (.link "pkg/a.py")).put ["pkg"] .directory).put ["pkg", "a.py"]
    (.file ByteArray.empty)).put ["pkg", "back"] (.link "..")

theorem isFileName_linkedTree :
    ∀ name ∈ ["b.py", "pkg", "a.py", "back", "c"], Path.IsFileName name := by
  intro name hname
  simp only [List.mem_cons, List.not_mem_nil, or_false] at hname
  rcases hname with rfl | rfl | rfl | rfl | rfl <;>
    exact ⟨by decide, by decide, by decide, by decide⟩

theorem sound_linkedTree : linkedTree.Sound := by
  have hnames := isFileName_linkedTree
  have hb : Sound (({} : FileTree).put ([] ++ ["b.py"]) (.link "pkg/a.py")) :=
    sound_empty.put rfl (Or.inl (hnames _ (by simp))) fun h => absurd h (by decide)
  have hpkg : Sound (FileTree.put _ ([] ++ ["pkg"]) .directory) :=
    hb.put rfl (Or.inl (hnames _ (by simp))) fun _ => rfl
  have ha : Sound (FileTree.put _ (["pkg"] ++ ["a.py"]) (.file ByteArray.empty)) :=
    hpkg.put rfl (Or.inl (hnames _ (by simp))) fun h => absurd h (by decide)
  have hback : Sound (FileTree.put _ (["pkg"] ++ ["back"]) (.link "..")) :=
    ha.put rfl (Or.inl (hnames _ (by simp))) fun h => absurd h (by decide)
  exact hback

theorem isName_linkedTree : ∀ name ∈ ["b.py", "pkg", "a.py", "back", "c"], IsName name := by
  intro name hname
  have hfile := isFileName_linkedTree name hname
  refine ⟨hfile.ne_empty, hfile.ne_dot, hfile.ne_up, ?_⟩
  simp only [List.mem_cons, List.not_mem_nil, or_false] at hname
  rcases hname with rfl | rfl | rfl | rfl | rfl <;> decide

theorem resolve_dot (t : FileTree) : t.resolve "." = .ok [] := by
  have hrefused : refused? "." = none := by
    simp only [refused?, String.contains_char_eq]
    decide +kernel
  have hstart : start [] "." = ([], ["."]) := by decide +kernel
  rw [resolve_eq_ok_iff, hstart]
  exact ⟨hrefused, .stay rfl (Or.inr rfl) .arrive⟩

theorem yielded_linkedTree :
    linkedTree.Yielded "." ["b.py"] ∧ linkedTree.Yielded "." ["pkg", "a.py"] := by
  have hnames := isFileName_linkedTree
  have hpieces := isName_linkedTree
  have hpkg : linkedTree.Opens [[]] [] "pkg" ["pkg"] := .entry (e := .directory) rfl (by simp)
  have ha : linkedTree.Opens [["pkg"], []] ["pkg"] "a.py" ["pkg", "a.py"] :=
    .entry (e := .file ByteArray.empty) rfl (by simp)
  have hlinked : linkedTree.Leads mostLinks [] ["b.py"] ["pkg", "a.py"] := by
    have hstart : start [] "pkg/a.py" = ([], ["pkg", "a.py"]) := by decide +kernel
    refine .link rfl (hpieces _ (by simp)) rfl ?_
    rw [hstart]
    refine .entry (e := .directory) rfl (hpieces _ (by simp)) rfl (by simp) ?_
    exact .entry (e := .file ByteArray.empty) rfl (hpieces _ (by simp)) rfl (by simp) .arrive
  constructor
  · refine .directory (resolve_dot _) rfl (.file (hnames _ (by simp)) (.link rfl hlinked ?_) rfl)
    exact fun h => absurd h (by decide)
  · refine .directory (resolve_dot _) rfl (.deeper (hnames _ (by simp)) hpkg rfl ?_)
    exact .file (hnames _ (by simp)) ha rfl

theorem found_linkedTree :
    linkedTree.Found "." [] "./b.py" ∧ linkedTree.Found "." [] "./pkg/a.py" := by
  obtain ⟨hb, ha⟩ := yielded_linkedTree
  refine ⟨⟨["b.py"], hb, by decide, ⟨"b", by decide, by decide⟩, ?_⟩,
    ⟨["pkg", "a.py"], ha, by decide, ⟨"a", by decide, by decide⟩, ?_⟩⟩
  · intro text htext hmatches
    exact absurd ((matchesPath_excludes [] _).2 ⟨text, htext, hmatches⟩) (by decide +kernel)
  · intro text htext hmatches
    exact absurd ((matchesPath_excludes [] _).2 ⟨text, htext, hmatches⟩) (by decide +kernel)

theorem add_linkedTree : linkedTree.add "c" .directory = .ok (linkedTree.put ["c"] .directory) := by
  have hstart : start [] "c" = ([], ["c"]) := by decide +kernel
  have hsplit : splitLast ["c"] = ([], "c", false) := by decide +kernel
  have hfollow : linkedTree.follow mostLinks [] ["c"] = .error .notFound := by
    rw [follow]
    rfl
  rw [add, hstart]
  dsimp only
  rw [hsplit]
  dsimp only
  rw [List.nil_append, makeDirectories, hfollow]
  dsimp only
  rw [makeDirectories]
  rfl

/-- The file is found under its own name and under the name of the link to it, and the link back up
is not followed. -/
theorem discover_linkedTree :
    "./b.py" ∈ linkedTree.discover "." (excludes []) ∧
      "./pkg/a.py" ∈ linkedTree.discover "." (excludes []) ∧
      (linkedTree.discover "." (excludes [])).Nodup ∧
      FileTree.discover ⟨linkedTree.entries.reverse⟩ "." (excludes []) =
        linkedTree.discover "." (excludes []) ∧
      linkedTree.discover "." (excludes ["["]) = linkedTree.discover "." (excludes []) ∧
      (linkedTree.discover "." (excludes ["pkg/**"])).Sublist
        (linkedTree.discover "." (excludes [])) ∧
      ∃ t', linkedTree.add "c" .directory = .ok t' ∧ t'.Sound := by
  obtain ⟨htree, -, hadd⟩ := discover_of_tree
  obtain ⟨-, hnodup, hmem, -, hlisted, hsame, hmore⟩ := htree linkedTree "." [] sound_linkedTree
  refine ⟨(hmem _).2 found_linkedTree.1, (hmem _).2 found_linkedTree.2, hnodup,
    hlisted _ ?_, hsame _ ?_,
    hmore _ (by simp), _, add_linkedTree,
      hadd _ _ _ _ sound_linkedTree add_linkedTree fun text h => by cases h⟩
  · exact get?_of_perm (List.reverse_perm _) (by decide)
  · intro text hread
    have hne : text ≠ "[" := by
      rintro rfl
      exact absurd hread (by decide +kernel)
    simp [hne]

end FileTree

end PythonAudit
