import Mathlib.Tactic
import PythonAudit.File.Tree

/-!
# What writing a file does to a tree

* `FileTree.Grows t t'` says that `t'` has all entries of `t`, with files that may have another
  content, and `FileTree.Leads` where a path leads; `Leads.grows` says that it leads there still in
  a tree that has grown;
* a file is written to a place that has no entry or a file (`accepts_of_destination`), and from then
  on its path leads to that place (`leads_of_destination`);
* `exists_put_of_write` puts this together. `FileTree.KeptIn` and `FileTree.Stores` say what it
  comes to, for a path that led nowhere (`keptIn_of_write`) and for any path (`stores_of_write`).
-/

namespace PythonAudit

/-- Both are files, both are directories, or both are links with the same text. -/
inductive Entry.Alike : Entry → Entry → Prop
  | file (content content' : ByteArray) : Alike (.file content) (.file content')
  | directory : Alike .directory .directory
  | link (text : String) : Alike (.link text) (.link text)

namespace FileTree

/-! ### Trees that grow -/

/-- All entries are still there, and only the contents of files may be other ones. -/
def Grows (t t' : FileTree) : Prop :=
  ∀ ⦃place e⦄, t.get? place = some e → ∃ e', t'.get? place = some e' ∧ e.Alike e'

namespace Grows

variable {t t' : FileTree}

theorem refl (t : FileTree) : Grows t t := by
  intro place e he
  refine ⟨e, he, ?_⟩
  cases e <;> constructor

theorem link (h : Grows t t') {place : Place} {text : String}
    (hlink : t.get? place = some (.link text)) :
    t'.get? place = some (.link text) := by
  obtain ⟨_, hlink', ⟨⟩⟩ := h hlink
  exact hlink'

theorem entry (h : Grows t t') {place : Place} {e : Entry} (he : t.get? place = some e)
    (hlink : ∀ text, e ≠ .link text) : ∃ e', t'.get? place = some e' ∧ ∀ text, e' ≠ .link text := by
  obtain ⟨e', he', halike⟩ := h he
  refine ⟨e', he', ?_⟩
  rintro text rfl
  cases halike
  exact hlink text rfl

theorem isDirectoryAt (h : Grows t t') {place : Place} (hdirectory : t.isDirectoryAt place = true) :
    t'.isDirectoryAt place = true := by
  unfold FileTree.isDirectoryAt at hdirectory ⊢
  split at hdirectory
  next heq =>
    obtain ⟨_, heq', ⟨⟩⟩ := h heq
    rw [heq']
  next => cases hdirectory

end Grows

/-! ### Where paths lead -/

/-- The piece is the name of an entry. -/
structure IsName (piece : String) : Prop where
  ne_empty : piece ≠ ""
  ne_dot : piece ≠ "."
  ne_up : piece ≠ ".."
  short : ¬ longestName < piece.utf8ByteSize

/-- The pieces of a path lead from a place to another one over so many links at most. -/
inductive Leads (t : FileTree) : Nat → Place → List String → Place → Prop
  | arrive {links : Nat} {place : Place} : Leads t links place [] place
  | stay {links : Nat} {here place : Place} {piece : String} {rest : List String} :
      t.isDirectoryAt here = true → piece = "" ∨ piece = "." → Leads t links here rest place →
      Leads t links here (piece :: rest) place
  | up {links : Nat} {here place : Place} {e : Entry} {rest : List String} :
      t.isDirectoryAt here = true → t.get? (above here) = some e →
        Leads t links (above here) rest place →
      Leads t links here (".." :: rest) place
  | link {left : Nat} {here place : Place} {piece text : String} {rest : List String} :
      t.isDirectoryAt here = true → IsName piece → t.get? (here ++ [piece]) = some (.link text) →
      Leads t left (start here text).1 ((start here text).2 ++ rest) place →
      Leads t (left + 1) here (piece :: rest) place
  | entry {links : Nat} {here place : Place} {piece : String} {e : Entry} {rest : List String} :
      t.isDirectoryAt here = true → IsName piece → t.get? (here ++ [piece]) = some e →
        (∀ text, e ≠ .link text) →
      Leads t links (here ++ [piece]) rest place → Leads t links here (piece :: rest) place

section

variable {t t' : FileTree} {links : Nat} {here place : Place} {piece : String}
  {pieces : List String}

theorem isName_of_not (hsame : ¬(decide (piece = "") || decide (piece = ".")) = true)
    (hup : ¬piece = "..") (hlong : ¬longestName < piece.utf8ByteSize) : IsName piece := by
  simp only [Bool.or_eq_true, decide_eq_true_eq, not_or] at hsame
  exact ⟨hsame.1, hsame.2, hup, hlong⟩

/-- The last piece of a path that can be written to is a name, and nothing follows it. -/
theorem isName_of_last {rest : List String}
    (hlast : ¬(!rest.isEmpty || decide (piece = "") || decide (piece = ".") ||
      decide (piece = "..")) = true)
    (hlong : ¬longestName < piece.utf8ByteSize) : IsName piece ∧ rest = [] := by
  simp only [Bool.or_eq_true, decide_eq_true_eq, not_or, Bool.not_eq_true', Bool.not_eq_false,
    List.isEmpty_iff] at hlast
  obtain ⟨⟨⟨hrest, hempty⟩, hdot⟩, hup⟩ := hlast
  exact ⟨⟨hempty, hdot, hup, hlong⟩, hrest⟩

theorem leads_of_follow (h : t.follow links here pieces = .ok place) :
    t.Leads links here pieces place := by
  fun_induction FileTree.follow t links here pieces with
  | case1 => cases h; exact .arrive
  | case3 links here piece rest hdirectory hsame ih =>
    exact .stay (by simpa using hdirectory) (by simpa using hsame) (ih h)
  | case5 links here rest hdirectory habove _ ih =>
    obtain ⟨e, he⟩ := Option.ne_none_iff_exists'.1 (by simpa using habove)
    exact .up (by simpa using hdirectory) he (ih h)
  | case9 here piece rest hdirectory hsame hup hlong text hlink left ih =>
    exact .link (by simpa using hdirectory) (isName_of_not hsame hup hlong) hlink (ih h)
  | case10 links here piece rest hdirectory hsame hup hlong e hlink he ih =>
    exact .entry (by simpa using hdirectory) (isName_of_not hsame hup hlong) he hlink (ih h)
  | _ => cases h

theorem Leads.follow_eq (h : t.Leads links here pieces place) :
    t.follow links here pieces = .ok place := by
  induction h with
  | arrive => rw [follow]
  | stay hdirectory hsame _ ih => rw [follow]; simp [hdirectory, hsame, ih]
  | up hdirectory habove _ ih => rw [follow]; simp [hdirectory, habove, ih]
  | link hdirectory hname hlink _ ih =>
    rw [follow]
    simp [hdirectory, hname.ne_empty, hname.ne_dot, hname.ne_up, hname.short, hlink, ih]
  | @entry links here place piece e rest hdirectory hname he hlink _ ih =>
    rw [follow]
    cases e with
    | link text => exact absurd rfl (hlink text)
    | file content =>
      simp [hdirectory, hname.ne_empty, hname.ne_dot, hname.ne_up, hname.short, he, ih]
    | directory => simp [hdirectory, hname.ne_empty, hname.ne_dot, hname.ne_up, hname.short, he, ih]

theorem follow_eq_ok_iff :
    t.follow links here pieces = .ok place ↔ t.Leads links here pieces place :=
  ⟨leads_of_follow, Leads.follow_eq⟩

/-- A path that leads somewhere still leads there when the tree has grown. -/
theorem Leads.grows (h : t.Leads links here pieces place) (hgrows : Grows t t') :
    t'.Leads links here pieces place := by
  induction h with
  | arrive => exact .arrive
  | stay hdirectory hsame _ ih => exact .stay (hgrows.isDirectoryAt hdirectory) hsame ih
  | up hdirectory habove _ ih =>
    obtain ⟨_, habove', -⟩ := hgrows habove
    exact .up (hgrows.isDirectoryAt hdirectory) habove' ih
  | link hdirectory hname hlink _ ih =>
    exact .link (hgrows.isDirectoryAt hdirectory) hname (hgrows.link hlink) ih
  | entry hdirectory hname he hlink _ ih =>
    obtain ⟨e', he', hlink'⟩ := hgrows.entry he hlink
    exact .entry (hgrows.isDirectoryAt hdirectory) hname he' hlink' ih

/-! ### Where files are written -/

/-- Nothing is at the place, or a file. -/
def Accepts (t : FileTree) (place : Place) : Prop :=
  ∀ e, t.get? place = some e → ∃ content, e = .file content

/-- A file is written where nothing is or a file. -/
theorem accepts_of_destination (h : t.destination links here pieces = .ok place) :
    t.Accepts place := by
  fun_induction FileTree.destination t links here pieces
  case case8 hdirectory hlink =>
    cases h
    intro e he
    cases e with
    | file content => exact ⟨content, rfl⟩
    | directory => exact absurd he hdirectory
    | link text => exact absurd he (hlink text)
  case case7 ih | case9 ih | case11 ih | case15 ih | case16 ih => exact ih h
  all_goals cases h

/-- Once there is a file where a path is written to, the path leads to it. -/
theorem leads_of_destination (h : t.destination links here pieces = .ok place) (hgrows : Grows t t')
    {content : ByteArray} (hfile : t'.get? place = some (.file content)) :
    t'.Leads links here pieces place := by
  fun_induction FileTree.destination t links here pieces with
  | case7 here piece rest hdirectory _ hlast hlong text hlink left ih =>
    obtain ⟨hname, rfl⟩ := isName_of_last hlast hlong
    refine .link (hgrows.isDirectoryAt (by simpa using hdirectory)) hname (hgrows.link hlink) ?_
    rw [List.append_nil]
    exact ih h
  | case8 links here piece rest hdirectory _ hlast hlong _ _ =>
    obtain ⟨hname, rfl⟩ := isName_of_last hlast hlong
    cases h
    exact .entry (hgrows.isDirectoryAt (by simpa using hdirectory)) hname hfile (by simp) .arrive
  | case9 links here piece rest hdirectory _ hsame ih =>
    exact .stay (hgrows.isDirectoryAt (by simpa using hdirectory)) (by simpa using hsame) (ih h)
  | case11 links here rest hdirectory _ habove _ ih =>
    obtain ⟨e, he⟩ := Option.ne_none_iff_exists'.1 (by simpa using habove)
    obtain ⟨_, he', -⟩ := hgrows he
    exact .up (hgrows.isDirectoryAt (by simpa using hdirectory)) he' (ih h)
  | case15 here piece rest hdirectory _ hsame hup hlong text hlink left ih =>
    exact .link (hgrows.isDirectoryAt (by simpa using hdirectory)) (isName_of_not hsame hup hlong)
      (hgrows.link hlink)
      (ih h)
  | case16 links here piece rest hdirectory _ hsame hup hlong e hlink he ih =>
    obtain ⟨e', he', hlink'⟩ := hgrows.entry he hlink
    exact .entry (hgrows.isDirectoryAt (by simpa using hdirectory)) (isName_of_not hsame hup hlong)
      he' hlink' (ih h)
  | _ => cases h

end

/-! ### Trees after a file is written -/

variable {t t' : FileTree} {place : Place} {path : String} {content : ByteArray}

theorem Accepts.get?_put (h : t.Accepts place) (e : Entry) :
    (t.put place e).get? place = some e := by
  have htop : isTop place = false := by
    by_contra htop
    obtain ⟨_, hfile⟩ := h .directory (if_pos (by simpa using htop))
    cases hfile
  simp [get?, put, htop]

theorem Accepts.grows_put (h : t.Accepts place) (content : ByteArray) :
    Grows t (t.put place (.file content)) := by
  intro other e he
  by_cases hother : other = place
  · subst other
    obtain ⟨old, rfl⟩ := h e he
    exact ⟨_, h.get?_put _, .file old content⟩
  · rw [get?_put_of_ne t _ hother]
    exact Grows.refl t he

theorem resolve_eq_ok_iff :
    t.resolve path = .ok place ↔
      refused? path = none ∧ t.Leads mostLinks (start [] path).1 (start [] path).2 place := by
  rw [resolve, resolveFrom, ← follow_eq_ok_iff]
  cases refused? path <;> simp

theorem Grows.resolve (h : Grows t t') (hresolve : t.resolve path = .ok place) :
    t'.resolve path = .ok place := by
  rw [resolve_eq_ok_iff] at hresolve ⊢
  exact ⟨hresolve.1, hresolve.2.grows h⟩

/-- What writing a file does: it is put where nothing is or a file, the path leads there from then
on, and nothing was there if the path led nowhere. -/
theorem exists_put_of_write (h : t.write path content = .ok t') :
    ∃ place, t.Accepts place ∧ t' = t.put place (.file content) ∧ t'.resolve path = .ok place ∧
      (t.pathExists path = false → t.get? place = none) := by
  unfold write at h
  split at h
  next => cases h
  next hrefused =>
    cases hplace : t.target mostLinks [] path with
    | error p => rw [hplace] at h; cases h
    | ok place =>
      rw [hplace] at h
      cases h
      have haccepts := accepts_of_destination hplace
      refine ⟨place, haccepts, rfl, ?_, fun hnowhere => ?_⟩
      · exact resolve_eq_ok_iff.2
          ⟨hrefused, leads_of_destination hplace (haccepts.grows_put content) (haccepts.get?_put _)⟩
      · -- With a file at the place the path would lead there already.
        by_contra hsome
        obtain ⟨e, he⟩ := Option.ne_none_iff_exists'.1 hsome
        obtain ⟨old, rfl⟩ := haccepts e he
        have hthere : t.resolve path = .ok place :=
          resolve_eq_ok_iff.2 ⟨hrefused, leads_of_destination hplace (Grows.refl t) he⟩
        rw [pathExists, hthere] at hnowhere
        cases hnowhere

/-- Every entry of a tree is in another one, and every path that leads somewhere leads to the same
place. -/
structure KeptIn (t t' : FileTree) : Prop where
  entries {place : Place} {e : Entry} : t.get? place = some e → t'.get? place = some e
  paths {path : String} {place : Place} : t.resolve path = .ok place → t'.resolve path = .ok place

/-- A tree becomes another one in which a path leads to a file with a content. All places but the
one of this file have the entries they had, and every path that led somewhere leads to the same
place. -/
structure Stores (t : FileTree) (path : String) (content : ByteArray) (t' : FileTree) : Prop where
  read : t'.read path = .ok content
  entries {place : Place} : t'.resolve path ≠ .ok place → t'.get? place = t.get? place
  paths {path' : String} {place : Place} : t.resolve path' = .ok place →
    t'.resolve path' = .ok place

theorem KeptIn.refl (t : FileTree) : KeptIn t t := ⟨id, id⟩

theorem stores_of_write (h : t.write path content = .ok t') : t.Stores path content t' := by
  obtain ⟨place, haccepts, rfl, hplace, -⟩ := exists_put_of_write h
  refine ⟨?_, fun {other} hother => ?_, (haccepts.grows_put content).resolve⟩
  · simp [FileTree.read, hplace, contentAt?, haccepts.get?_put, bind, Except.bind]
  · refine get?_put_of_ne t _ ?_
    rintro rfl
    exact hother hplace

theorem keptIn_of_write (h : t.write path content = .ok t') (hnowhere : t.pathExists path = false) :
    t.KeptIn t' := by
  obtain ⟨place, haccepts, rfl, -, hfree⟩ := exists_put_of_write h
  refine ⟨fun {other e} he => ?_, (haccepts.grows_put content).resolve⟩
  rw [get?_put_of_ne t _ ?_, he]
  rintro rfl
  rw [hfree hnowhere] at he
  cases he

end FileTree

end PythonAudit
