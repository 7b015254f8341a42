import Mathlib.Data.List.Lex
import Mathlib.Data.Prod.Lex
import Mathlib.Data.String.Basic
import Mathlib.Tactic
import PythonAudit.File.Discover

/-!
# Paths by their components

* Components have a linear order (`before_iff_lt`), so paths are compared like words in a dictionary
  (`le_iff`);
* a name added to a path is one more component (`components_join`), so the components of a path
  below a directory are those of the directory and the names on the way (`components_below`), and
  they give these names back (`eq_of_components_below_eq`);
* `isPython_iff` says which paths have the extension of Python files;
* `sublist_of_subset` says that among lists in ascending order the members decide.
-/

namespace PythonAudit

namespace Component

/-! ### The order of components -/

/-- The text of a name. -/
def text : Component → String
  | .name text => text
  | _ => ""

/-- What components are compared by: their kind, and names by their text too. -/
def key (c : Component) : ℕ ×ₗ String := toLex (c.rank, c.text)

theorem key_injective : Function.Injective key := by
  intro a b h
  obtain ⟨hrank, htext⟩ := Prod.mk.inj (toLex.injective h)
  cases a with
  | name s => cases b with
    | name t => exact congrArg name htext
    | _ => cases hrank
  | _ => cases b <;> first | rfl | cases hrank

instance : LinearOrder Component := LinearOrder.lift' key key_injective

theorem before_iff_lt {a b : Component} : a.before b = true ↔ a < b := by
  have hlt : a < b ↔ a.rank < b.rank ∨ a.rank = b.rank ∧ a.text < b.text := Prod.Lex.toLex_lt_toLex
  rw [hlt]
  cases a <;> cases b <;> simp [before, rank, text, -String.lt_iff_ltb]

end Component

namespace Path

theorem notAfter_iff (as bs : List Component) : notAfter as bs = true ↔ as ≤ bs := by
  induction as generalizing bs with
  | nil => exact iff_of_true rfl (not_lt.1 (List.not_lt_nil bs))
  | cons a as ih =>
    cases bs with
    | nil => simp [notAfter]
    | cons b bs =>
      rw [notAfter, Bool.or_eq_true, Bool.and_eq_true, Component.before_iff_lt, beq_iff_eq, ih,
        le_iff_lt_or_eq, le_iff_lt_or_eq, List.cons_lt_cons_iff, List.cons.injEq]
      tauto

theorem le_iff (a b : String) : le a b = true ↔ components a ≤ components b := notAfter_iff _ _

/-! ### Pieces -/

theorem pieces_append_slash (cs ds acc : List Char) :
    pieces (cs ++ '/' :: ds) acc = pieces cs acc ++ pieces ds [] := by
  induction cs generalizing acc with
  | nil => rfl
  | cons c cs ih =>
    rw [List.cons_append, pieces, pieces]
    split_ifs
    · rw [ih, List.cons_append]
    · exact ih _

theorem pieces_of_notMem {cs : List Char} (h : '/' ∉ cs) (acc : List Char) :
    pieces cs acc = [String.ofList (acc.reverse ++ cs)] := by
  induction cs generalizing acc with
  | nil => rw [pieces, List.append_nil]
  | cons c cs ih =>
    obtain ⟨hc, hcs⟩ := List.ne_and_not_mem_of_not_mem_cons h
    rw [pieces, if_neg hc.symm, ih hcs, List.reverse_cons, List.append_assoc, List.singleton_append]

theorem pieces_ne_nil (cs acc : List Char) : pieces cs acc ≠ [] := by
  fun_induction pieces cs acc with
  | case3 _ _ _ _ ih => exact ih
  | _ => simp

theorem slash_notMem_of_mem_pieces {cs acc : List Char} (hacc : '/' ∉ acc) {piece : String}
    (h : piece ∈ pieces cs acc) : '/' ∉ piece.toList := by
  fun_induction pieces cs acc with
  | case1 acc =>
    rw [List.mem_singleton.1 h, String.toList_ofList, List.mem_reverse]
    exact hacc
  | case2 acc cs ih =>
    rcases List.mem_cons.1 h with rfl | hrest
    · rw [String.toList_ofList, List.mem_reverse]
      exact hacc
    · exact ih List.not_mem_nil hrest
  | case3 acc c cs hc ih =>
    refine ih ?_ h
    rw [List.mem_cons, not_or]
    exact ⟨Ne.symm hc, hacc⟩

/-- The pieces of a text have no other characters than the text. -/
theorem subset_of_mem_pieces {cs acc : List Char} {piece : String} (h : piece ∈ pieces cs acc) :
    piece.toList ⊆ acc ++ cs := by
  fun_induction pieces cs acc with
  | case1 acc => simp [List.mem_singleton.1 h]
  | case2 acc cs ih =>
    rcases List.mem_cons.1 h with rfl | hrest
    · simp
    · exact List.subset_append_of_subset_right _ (List.subset_cons_of_subset _ (ih hrest))
  | case3 c cs acc hc ih => exact List.Subset.trans (ih h) List.perm_middle.symm.subset

/-- The text is a name that a file can have in its directory. -/
structure IsFileName (name : String) : Prop where
  ne_empty : name ≠ ""
  ne_dot : name ≠ "."
  ne_up : name ≠ ".."
  no_slash : '/' ∉ name.toList

theorem IsFileName.pieces_eq {name : String} (h : IsFileName name) :
    pieces name.toList [] = [name] := by
  rw [pieces_of_notMem h.no_slash, List.reverse_nil, List.nil_append, String.ofList_toList]

theorem IsFileName.component?_eq {name : String} (h : IsFileName name) :
    component? name = some (.name name) := by
  simp [component?, h.ne_empty, h.ne_dot, h.ne_up]

/-! ### Components -/

/-- The component that a path starts with because of its first piece. -/
def lead (pieces : List String) : List Component :=
  if pieces.head? = some "" ∧ 1 < pieces.length then [.root]
  else if pieces.head? = some "." then [.here]
  else []

theorem components_eq (path : String) :
    components path = lead (pieces path.toList []) ++
      (pieces path.toList []).filterMap component? := by
  unfold components
  dsimp only
  generalize hrest : (pieces path.toList []).filterMap component? = rest
  split
  next heq => simp [lead, heq]
  next heq => simp [lead, heq]
  next hroot hhere =>
    have hlead : lead (pieces path.toList []) = [] := by
      rw [lead, if_neg, if_neg]
      · intro hhead
        obtain ⟨tail, htail⟩ := List.head?_eq_some_iff.1 hhead
        exact hhere tail htail
      · rintro ⟨hhead, hlength⟩
        obtain ⟨tail, htail⟩ := List.head?_eq_some_iff.1 hhead
        cases tail with
        | nil => simp [htail] at hlength
        | cons second tail => exact hroot second tail htail
    rw [hlead, List.nil_append]

/-- One more piece does not change how a path starts. -/
theorem lead_append {pieces : List String} (hpieces : pieces ≠ []) (hempty : pieces ≠ [""])
    (piece : String) :
    lead (pieces ++ [piece]) = lead pieces := by
  match pieces with
  | [] => exact absurd rfl hpieces
  | [first] =>
    have hfirst : first ≠ "" := fun h => hempty (by rw [h])
    simp [lead, hfirst]
  | first :: second :: rest => simp [lead]

/-- Nor does another last piece, unless it is the only one. -/
theorem lead_concat {pieces : List String} (hpieces : pieces ≠ []) (piece piece' : String) :
    lead (pieces ++ [piece]) = lead (pieces ++ [piece']) := by
  match pieces with
  | [] => exact absurd rfl hpieces
  | first :: rest => simp [lead]

theorem pieces_ne_singleton_empty {path : String} (h : path ≠ "") :
    pieces path.toList [] ≠ [""] := by
  intro hpieces
  by_cases hslash : '/' ∈ path.toList
  · obtain ⟨before, after, hpath⟩ := List.append_of_mem hslash
    have hlength := congrArg List.length hpieces
    have hbefore := List.length_pos_iff.2 (pieces_ne_nil before [])
    have hafter := List.length_pos_iff.2 (pieces_ne_nil after [])
    rw [hpath, pieces_append_slash, List.length_append, List.length_singleton] at hlength
    omega
  · rw [pieces_of_notMem hslash, List.reverse_nil, List.nil_append, String.ofList_toList] at hpieces
    exact h (List.singleton_inj.1 hpieces)

/-- A name that is added to a path is one more component. -/
theorem components_join (directory : String) {name : String} (h : IsFileName name) :
    components (join directory name) = components directory ++ [.name name] := by
  have hname : [name].filterMap component? =
      [.name name] := by rw [List.filterMap_cons_some h.component?_eq]; rfl
  unfold join
  split_ifs with hjoined
  · rw [Bool.or_eq_true, decide_eq_true_eq, beq_iff_eq] at hjoined
    rcases hjoined with rfl | hslash
    · rw [String.empty_append, components_eq, h.pieces_eq, hname]
      simp [lead, components_eq, pieces, h.ne_dot, component?]
    · obtain ⟨before, hbefore⟩ := List.getLast?_eq_some_iff.1 hslash
      have hdirectory : pieces directory.toList [] = pieces before [] ++ [""] := by
        rw [hbefore, pieces_append_slash]; rfl
      have hjoin : pieces (directory ++ name).toList [] = pieces before [] ++ [name] := by
        rw [String.toList_append, hbefore, List.append_assoc, List.singleton_append,
          pieces_append_slash, h.pieces_eq]
      rw [components_eq, components_eq, hjoin, hdirectory, lead_concat (pieces_ne_nil _ _) name "",
        List.filterMap_append, List.filterMap_append, hname]
      simp [component?]
  · simp only [Bool.or_eq_true, decide_eq_true_eq, not_or] at hjoined
    have hjoin : pieces (directory ++ "/" ++ name).toList [] =
        pieces directory.toList [] ++ [name] := by
      have hslash : "/".toList = ['/'] := rfl
      rw [String.toList_append, String.toList_append, hslash, List.append_assoc,
        List.singleton_append, pieces_append_slash, h.pieces_eq]
    rw [components_eq, components_eq, hjoin,
      lead_append (pieces_ne_nil _ _) (pieces_ne_singleton_empty hjoined.1), List.filterMap_append,
      hname, List.append_assoc]

theorem components_below (path : String) {names : List String}
    (h : ∀ name ∈ names, IsFileName name) :
    components (below path names) = components path ++ names.map .name := by
  induction names generalizing path with
  | nil => exact (List.append_nil _).symm
  | cons name names ih =>
    obtain ⟨hname, hnames⟩ := List.forall_mem_cons.1 h
    rw [below, List.foldl_cons, ← below, ih _ hnames, components_join path hname, List.append_assoc]
    rfl

theorem fileName?_eq_some_iff {path name : String} :
    fileName? path = some name ↔ (components path).getLast? = some (.name name) := by
  unfold fileName?
  split <;> simp_all

/-- The name of a file is one of the pieces of its path. -/
theorem mem_pieces_of_fileName? {path name : String} (h : fileName? path = some name) :
    name ∈ pieces path.toList [] := by
  have hmem := List.mem_of_getLast? (fileName?_eq_some_iff.1 h)
  rw [components_eq, List.mem_append, List.mem_filterMap] at hmem
  rcases hmem with hlead | ⟨piece, hpiece, hname⟩
  · unfold lead at hlead
    split_ifs at hlead <;> simp at hlead
  · unfold component? at hname
    split_ifs at hname with hblank hup
    · simp at hname
    · simp only [Option.some.injEq, Component.name.injEq] at hname
      rwa [← hname]

/-- The names on the way to a path are known from its components. -/
theorem eq_of_components_below_eq {path : String} {names names' : List String}
    (h : ∀ name ∈ names, IsFileName name) (h' : ∀ name ∈ names', IsFileName name)
    (heq : components (below path names) = components (below path names')) :
    names = names' := by
  rw [components_below path h, components_below path h'] at heq
  exact List.map_injective_iff.2 (fun _ _ => Component.name.inj) (List.append_cancel_left heq)

/-! ### Extensions -/

/-- A text that does not end before its first dot goes on with it. -/
theorem exists_of_takeWhile_lt {cs : List Char} (h : (cs.takeWhile (· != '.')).length < cs.length) :
    ∃ rest, cs = cs.takeWhile (· != '.') ++ '.' :: rest := by
  have hparts := List.takeWhile_append_dropWhile (p := (· != '.')) (l := cs)
  cases hrest : cs.dropWhile (· != '.') with
  | nil =>
    rw [hrest, List.append_nil] at hparts
    rw [hparts] at h
    exact absurd h (lt_irrefl _)
  | cons c rest =>
    have hhead := List.head?_dropWhile_not (· != '.') cs
    rw [hrest] at hhead
    have hc : c = '.' := by simpa using hhead
    subst hc
    exact ⟨rest, by rw [← hrest, hparts]⟩

theorem extension?_eq_some_iff {name extension : String} (hdot : '.' ∉ extension.toList) :
    extension? name = some extension ↔ ∃ stem, stem ≠ "" ∧ name = stem ++ "." ++ extension := by
  unfold extension?
  constructor
  · intro h
    dsimp only at h
    split_ifs at h with hlength
    have hextension : (name.toList.reverse.takeWhile (· != '.')).reverse = extension.toList := by
      rw [← Option.some.inj h, String.toList_ofList]
    have hreverse : name.toList.reverse.length =
        name.length := by rw [List.length_reverse, String.length_toList]
    -- read from the end, the extension is followed by a dot and the stem
    obtain ⟨rest, hrest⟩ := exists_of_takeWhile_lt (hreverse ▸ Nat.lt_of_succ_lt hlength)
    refine ⟨String.ofList rest.reverse, ?_, ?_⟩
    · intro hempty
      have hnil : rest = [] := by simpa using congrArg String.toList hempty
      have hshort := congrArg List.length hrest
      rw [hnil, List.length_append, List.length_singleton] at hshort
      omega
    · rw [← String.toList_inj, ← List.reverse_reverse name.toList, hrest, List.reverse_append,
        hextension]
      simp
  · rintro ⟨stem, hstem, rfl⟩
    have hreverse : (stem ++ "." ++ extension).toList.reverse =
        extension.toList.reverse ++ '.' :: stem.toList.reverse := by
      simp
    have htail : (stem ++ "." ++ extension).toList.reverse.takeWhile (· != '.') =
        extension.toList.reverse := by
      rw [hreverse, List.takeWhile_append_of_pos]
      · simp
      · intro c hc
        have hne : c ≠ '.' := fun h => hdot (h ▸ List.mem_reverse.1 hc)
        simpa using hne
    have hpositive : 0 < stem.length := Nat.pos_of_ne_zero (mt String.length_eq_zero_iff.1 hstem)
    dsimp only
    rw [htail, if_pos, List.reverse_reverse, String.ofList_toList]
    simp only [List.length_reverse, String.length_toList, String.length_append]
    have hone : ".".length = 1 := rfl
    omega

/-- A path leads to a Python file by its name: the name ends with the extension, after a dot and a
stem. -/
theorem isPython_iff (path : String) :
    isPython path = true ↔ ∃ stem, stem ≠ "" ∧
      (components path).getLast? = some (.name (stem ++ ".py")) := by
  have hdot : '.' ∉ pythonExtension.toList := by decide
  rw [isPython, beq_iff_eq, Option.bind_eq_some_iff]
  constructor
  · rintro ⟨name, hname, hextension⟩
    obtain ⟨stem, hstem, rfl⟩ := (extension?_eq_some_iff hdot).1 hextension
    refine ⟨stem, hstem, ?_⟩
    rw [fileName?_eq_some_iff.1 hname, String.append_assoc]
    rfl
  · rintro ⟨stem, hstem, hlast⟩
    refine ⟨stem ++ ".py", fileName?_eq_some_iff.2 hlast,
      (extension?_eq_some_iff hdot).2 ⟨stem, hstem, ?_⟩⟩
    rw [String.append_assoc]
    rfl

/-! ### Paths in order -/

/-- One path comes before another one, by components. -/
def Precedes (a b : String) : Prop := components a < components b

instance : Std.Irrefl Precedes := ⟨fun a => lt_irrefl (components a)⟩

instance : Std.Antisymm Precedes := ⟨fun _ _ hab hba => absurd hab (lt_asymm hba)⟩

/-- In order, the members decide what a list is, and which lists it is a part of. -/
theorem sublist_of_subset {as bs : List String} (has : as.Pairwise Precedes)
    (hbs : bs.Pairwise Precedes) (h : as ⊆ bs) :
    as.Sublist bs :=
  List.sublist_of_subperm_of_pairwise (List.subperm_of_subset has.nodup h) has hbs

/-- Paths that differ in their components are put in order by sorting them. -/
theorem pairwise_precedes_mergeSort {paths : List String} (h : (paths.map components).Nodup) :
    (paths.mergeSort le).Pairwise Precedes := by
  have hsorted : (paths.mergeSort le).Pairwise fun a b => le a b = true := by
    refine List.pairwise_mergeSort ?_ ?_ paths
    · intro a b c hab hbc
      rw [le_iff] at hab hbc ⊢
      exact hab.trans hbc
    · intro a b
      rw [Bool.or_eq_true, le_iff, le_iff]
      exact le_total _ _
  have hdistinct : (paths.mergeSort le).Pairwise fun a b => components a ≠ components b := by
    rw [← List.pairwise_map (f := components)]
    exact ((List.mergeSort_perm paths le).map components).nodup_iff.2 h
  refine (hsorted.and hdistinct).imp ?_
  rintro a b ⟨hle, hne⟩
  exact lt_of_le_of_ne ((le_iff a b).1 hle) hne

end Path

end PythonAudit
