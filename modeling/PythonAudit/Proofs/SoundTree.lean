import PythonAudit.Proofs.PathOrder
import PythonAudit.Proofs.Placement

/-!
# Trees of files

`FileTree.Sound` says what makes entries with places a tree of files.

* In such a tree every path ends at a directory or a file (`Leads.settled`);
* the empty tree is one (`sound_empty`), and it stays one when a file is written (`Sound.write`) and
  when an entry is added with the directories on the way to it (`Sound.add`).
-/

namespace PythonAudit

namespace FileTree

variable {t t' : FileTree} {links : Nat} {directory here place : Place} {name piece path : String}
  {pieces : List String} {e : Entry}

/-- The entries make a tree: every entry has a file name and is in a directory, and what is above
the working directory is a directory too. -/
structure Sound (t : FileTree) : Prop where
  named {directory : Place} {name : String} :
    (t.get? (directory ++ [name])).isSome → isTop (directory ++ [name]) = false → name ≠ ".." →
      Path.IsFileName name
  held {directory : Place} {name : String} : (t.get? (directory ++ [name])).isSome →
    t.isDirectoryAt directory = true
  above {place : Place} {e : Entry} : t.get? (place ++ [".."]) = some e → e = .directory

theorem isDirectoryAt_iff : t.isDirectoryAt place = true ↔ t.get? place = some .directory := by
  unfold isDirectoryAt
  split <;> simp_all

theorem isTop_concat : isTop (directory ++ [name]) = true ↔ directory = [] ∧ name = "/" := by
  cases directory <;> simp [isTop]

theorem isTop_concat_of_ne (hname : name ≠ "/") (directory : Place) :
    isTop (directory ++ [name]) = false := by
  rw [← Bool.not_eq_true, isTop_concat]
  exact fun h => hname h.2

theorem isTop_concat_of_isFileName (hname : Path.IsFileName name) (directory : Place) :
    isTop (directory ++ [name]) = false := by
  refine isTop_concat_of_ne ?_ directory
  rintro rfl
  exact hname.no_slash (by decide)

/-- There is a directory or a file at the place. -/
def Settled (t : FileTree) (place : Place) : Prop :=
  t.isDirectoryAt place = true ∨ ∃ content, t.get? place = some (.file content)

theorem settled_of_entry (he : t.get? place = some e) (hlink : ∀ text, e ≠ .link text) :
    t.Settled place := by
  cases e with
  | file content => exact Or.inr ⟨content, he⟩
  | directory => exact Or.inl (isDirectoryAt_iff.2 he)
  | link text => exact absurd rfl (hlink text)

theorem Sound.isDirectoryAt_above (h : t.Sound) (hhere : t.isDirectoryAt here = true)
    (he : t.get? (FileTree.above here) = some e) :
    t.isDirectoryAt (FileTree.above here) = true := by
  unfold FileTree.above at he ⊢
  split_ifs at he ⊢ with hroot hup
  · exact hhere
  · rw [isDirectoryAt_iff, he, h.above he]
  · have hne : here ≠ [] := by
      rintro rfl
      exact hup rfl
    have hsome : (t.get? (here.dropLast ++ [here.getLast hne])).isSome := by
      rw [List.dropLast_append_getLast hne, isDirectoryAt_iff.1 hhere]
      rfl
    exact h.held hsome

theorem isDirectoryAt_start (hhere : t.isDirectoryAt here = true) (path : String) :
    t.isDirectoryAt (start here path).1 = true := by
  unfold start
  split_ifs
  · rfl
  · exact hhere

theorem Leads.isDirectoryAt (h : t.Leads links here (piece :: pieces) place) :
    t.isDirectoryAt here = true := by
  cases h <;> assumption

/-- A path ends at a directory or a file. -/
theorem Leads.settled (h : t.Leads links here pieces place) (hsound : t.Sound)
    (hhere : t.Settled here) :
    t.Settled place := by
  induction h with
  | arrive => exact hhere
  | stay _ _ _ ih => exact ih hhere
  | up hdirectory habove _ ih => exact ih (Or.inl (hsound.isDirectoryAt_above hdirectory habove))
  | link hdirectory _ _ _ ih => exact ih (Or.inl (isDirectoryAt_start hdirectory _))
  | entry _ _ he hlink _ ih => exact ih (settled_of_entry he hlink)

/-! ### Building -/

theorem sound_empty : Sound {} := by
  -- the root of all paths is the only entry that there is
  have hroot : ∀ {directory : Place} {name : String}, (get? {} (directory ++ [name])).isSome →
      directory = [] ∧ name = "/" := by
    intro directory name hsome
    by_contra hno
    have htop := mt isTop_concat.1 hno
    rw [get?, if_neg htop] at hsome
    cases hsome
  refine ⟨?_, ?_, ?_⟩
  · intro directory name hsome htop _
    rw [isTop_concat.2 (hroot hsome)] at htop
    cases htop
  · intro directory name hsome
    rw [(hroot hsome).1]
    rfl
  · intro place e he
    have hname := (hroot (Option.isSome_of_eq_some he)).2
    exact absurd hname (by decide)

theorem get?_put_self (htop : isTop place = false) (e : Entry) :
    (t.put place e).get? place = some e := by
  simp [get?, put, htop]

/-- An entry can be put into a directory under a file name, unless it takes the place of a
directory. -/
theorem Sound.put (h : t.Sound) (hdirectory : t.isDirectoryAt directory = true)
    (hname : Path.IsFileName name ∨ name = ".." ∧ e = .directory)
    (hfree : t.isDirectoryAt (directory ++ [name]) = true → e = .directory) :
    (t.put (directory ++ [name]) e).Sound := by
  have htop : isTop (directory ++ [name]) = false := by
    rcases hname with hfile | ⟨rfl, -⟩
    · exact isTop_concat_of_isFileName hfile directory
    · exact isTop_concat_of_ne (by decide) directory
  have hkept : ∀ other, t.isDirectoryAt other = true →
      (t.put (directory ++ [name]) e).isDirectoryAt other = true := by
    intro other hother
    by_cases heq : other = directory ++ [name]
    · subst heq
      rw [isDirectoryAt_iff, get?_put_self htop, hfree hother]
    · rw [isDirectoryAt_iff, get?_put_of_ne t e heq, ← isDirectoryAt_iff, hother]
  refine ⟨?_, ?_, ?_⟩
  · intro other n hsome hother hup
    by_cases heq : other ++ [n] = directory ++ [name]
    · obtain ⟨-, rfl⟩ := List.append_singleton_inj.1 heq
      exact hname.resolve_right fun hdots => hup hdots.1
    · rw [get?_put_of_ne t e heq] at hsome
      exact h.named hsome hother hup
  · intro other n hsome
    by_cases heq : other ++ [n] = directory ++ [name]
    · obtain ⟨rfl, -⟩ := List.append_singleton_inj.1 heq
      exact hkept _ hdirectory
    · rw [get?_put_of_ne t e heq] at hsome
      exact hkept _ (h.held hsome)
  · intro other e' he'
    by_cases heq : other ++ [".."] = directory ++ [name]
    · obtain ⟨rfl, rfl⟩ := List.append_singleton_inj.1 heq
      rw [get?_put_self htop] at he'
      rw [← Option.some.inj he']
      exact (hname.resolve_left fun hfile => hfile.ne_up rfl).2
    · rw [get?_put_of_ne t e heq] at he'
      exact h.above he'

theorem isFileName_of_notFound (hhere : t.isDirectoryAt here = true) (hslash : '/' ∉ piece.toList)
    (h : t.follow links here [piece] = .error .notFound) :
    Path.IsFileName piece ∨ piece = ".." := by
  by_cases hsame : piece = "" ∨ piece = "."
  · rw [(Leads.stay hhere hsame .arrive).follow_eq] at h
    cases h
  · rw [not_or] at hsame
    by_cases hup : piece = ".."
    · exact Or.inr hup
    · exact Or.inl ⟨hsame.1, hsame.2, hup, hslash⟩

theorem Sound.makeDirectories (h : t.Sound) (hhere : t.isDirectoryAt here = true)
    (hpieces : ∀ piece ∈ pieces, '/' ∉ piece.toList)
    (hmake : t.makeDirectories here pieces = .ok (t', place)) :
    t'.Sound ∧ t'.isDirectoryAt place = true := by
  fun_induction FileTree.makeDirectories t here pieces with
  | case1 t here =>
    cases hmake
    exact ⟨h, hhere⟩
  | case2 t here piece rest next hnext hdirectory ih =>
    exact ih h hdirectory (List.forall_mem_cons.1 hpieces).2 hmake
  | case4 t here piece rest hnext ih =>
    obtain ⟨hslash, hrest⟩ := List.forall_mem_cons.1 hpieces
    have hname := isFileName_of_notFound hhere hslash hnext
    have htop : isTop (here ++ [piece]) = false := by
      rcases hname with hfile | rfl
      · exact isTop_concat_of_isFileName hfile here
      · exact isTop_concat_of_ne (by decide) here
    refine ih (h.put hhere (hname.imp_right fun hup => ⟨hup, rfl⟩) fun _ => rfl) ?_ hrest hmake
    rw [isDirectoryAt_iff, get?_put_self htop]
  | _ => cases hmake

theorem slash_notMem_start (here : Place) (path : String) :
    ∀ piece ∈ (start here path).2, '/' ∉ piece.toList :=
  fun _ hpiece => Path.slash_notMem_of_mem_pieces List.not_mem_nil hpiece

/-- A file is written into a directory, under a file name. -/
theorem exists_of_destination (h : t.destination links here pieces = .ok place)
    (hpieces : ∀ piece ∈ pieces, '/' ∉ piece.toList) :
    ∃ directory name, place = directory ++ [name] ∧ t.isDirectoryAt directory = true ∧
      Path.IsFileName name := by
  fun_induction FileTree.destination t links here pieces with
  | case7 here piece rest _ _ _ _ text _ left ih => exact ih h (slash_notMem_start here text)
  | case8 links here piece rest hdirectory _ hlast hlong _ _ =>
    obtain ⟨hname, -⟩ := isName_of_last hlast hlong
    cases h
    exact ⟨here, piece, rfl, by simpa using hdirectory, hname.ne_empty, hname.ne_dot, hname.ne_up,
      (List.forall_mem_cons.1 hpieces).1⟩
  | case9 _ _ _ _ _ _ _ ih => exact ih h (List.forall_mem_cons.1 hpieces).2
  | case11 _ _ _ _ _ _ _ ih => exact ih h (List.forall_mem_cons.1 hpieces).2
  | case15 here piece rest _ _ _ _ _ text _ left ih =>
    refine ih h (List.forall_mem_append.2 ⟨slash_notMem_start here text, ?_⟩)
    exact (List.forall_mem_cons.1 hpieces).2
  | case16 _ _ _ _ _ _ _ _ _ _ _ _ ih => exact ih h (List.forall_mem_cons.1 hpieces).2
  | _ => cases h

theorem Sound.write (h : t.Sound) {content : ByteArray} (hwrite : t.write path content = .ok t') :
    t'.Sound := by
  unfold FileTree.write at hwrite
  split at hwrite
  next => cases hwrite
  next =>
    cases hplace : t.target mostLinks [] path with
    | error p =>
      rw [hplace] at hwrite
      cases hwrite
    | ok place =>
      rw [hplace] at hwrite
      cases hwrite
      obtain ⟨directory, name, rfl, hdirectory, hname⟩ :=
        exists_of_destination hplace (slash_notMem_start [] path)
      refine h.put hdirectory (Or.inl hname) ?_
      intro hthere
      obtain ⟨_, hfile⟩ := accepts_of_destination hplace _ (isDirectoryAt_iff.1 hthere)
      cases hfile

theorem slash_notMem_splitLast (hpieces : ∀ piece ∈ pieces, '/' ∉ piece.toList) :
    (∀ piece ∈ (splitLast pieces).1, '/' ∉ piece.toList) ∧ '/' ∉ (splitLast pieces).2.1.toList := by
  unfold splitLast
  dsimp only
  generalize hkept : (pieces.reverse.dropWhile (· = "")).reverse = kept
  have hmem : ∀ piece ∈ kept, '/' ∉ piece.toList := by
    intro piece hpiece
    rw [← hkept, List.mem_reverse] at hpiece
    exact hpieces piece (List.mem_reverse.1 ((List.dropWhile_sublist _).subset hpiece))
  refine ⟨fun piece hpiece => hmem piece (List.mem_of_mem_dropLast hpiece), ?_⟩
  cases hlast : kept.getLast? with
  | none => decide
  | some piece => exact hmem piece (List.mem_of_getLast? hlast)

/-- The name that an entry is added under. -/
def lastName (path : String) : String := (splitLast (start [] path).2).2.1

/-- A tree stays a tree of files when an entry is added; the name of a link has to be a file
name. -/
theorem Sound.add (h : t.Sound) (hlink : ∀ text, e = .link text → Path.IsFileName (lastName path))
    (hadd : t.add path e = .ok t') : t'.Sound := by
  have hstart : t.isDirectoryAt (start [] path).1 = true := isDirectoryAt_start rfl path
  obtain ⟨hbefore, hname⟩ := slash_notMem_splitLast (slash_notMem_start [] path)
  unfold FileTree.add at hadd
  cases e with
  | file content =>
    dsimp only [bind, Except.bind] at hadd
    split at hadd
    next => cases hadd
    next made hmake => exact (h.makeDirectories hstart hbefore hmake).1.write hadd
  | directory =>
    dsimp only [bind, Except.bind, pure, Except.pure] at hadd
    split at hadd
    next => cases hadd
    next made hmake =>
      cases hadd
      refine (h.makeDirectories hstart ?_ hmake).1
      exact List.forall_mem_append.2 ⟨hbefore, List.forall_mem_singleton.2 hname⟩
  | link text =>
    dsimp only [bind, Except.bind, pure, Except.pure] at hadd
    split at hadd
    next => cases hadd
    next made hmake =>
      obtain ⟨hsound, hdirectory⟩ := h.makeDirectories hstart hbefore hmake
      split at hadd
      next hnone =>
        cases hadd
        refine hsound.put hdirectory (Or.inl (hlink text rfl)) ?_
        intro hthere
        rw [isDirectoryAt_iff, hnone] at hthere
        cases hthere
      next => cases hadd

end FileTree

end PythonAudit
