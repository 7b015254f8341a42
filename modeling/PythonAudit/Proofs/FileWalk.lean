import PythonAudit.Proofs.SoundTree

/-!
# Walking through a tree

* `FileTree.Opens` says what a walk finds under a name, links followed, and `FileTree.Yields` which
  files it comes to;
* `FileTree.capacity` bounds how much deeper a walk can go: every directory that it enters lowers it
  (`capacity_lt`), so the depth that is allowed is enough, and the walk comes to exactly those files
  (`mem_walk_iff`), to each of them by different names (`nodup_walk`);
* all this depends on what is at which place only (`Yielded.grows`).
-/

namespace PythonAudit

namespace FileTree

variable {t t' : FileTree} {links depth : Nat} {inside : List Place} {directory here place : Place}
  {name piece root : String} {pieces names : List String}

/-! ### Names in directories -/

theorem get?_isSome_iff (htop : isTop place = false) :
    (t.get? place).isSome ↔ place ∈ t.entries.map Prod.fst := by
  rw [get?, if_neg (by rw [htop]; decide), List.lookup_isSome_iff, List.mem_map]
  simp only [beq_iff_eq, eq_comm (a := place)]

theorem childName?_eq_some_iff :
    childName? directory place = some name ↔
      place = directory ++ [name] ∧ isTop place = false ∧ name ≠ ".." := by
  unfold childName?
  constructor
  · intro h
    split_ifs at h with hchild
    obtain ⟨above, habove⟩ := List.getLast?_eq_some_iff.1 h
    rw [h, habove, List.dropLast_concat] at hchild
    simp only [Bool.and_eq_true, decide_eq_true_eq, Bool.not_eq_true', bne_iff_ne, ne_eq,
      Option.some.injEq] at hchild
    rw [habove, hchild.1.1]
    exact ⟨rfl, hchild.1.1 ▸ hchild.1.2, hchild.2⟩
  · rintro ⟨rfl, htop, hup⟩
    rw [List.dropLast_concat, List.getLast?_concat, htop]
    simp [hup]

theorem mem_names (hsound : t.Sound) :
    name ∈ t.names directory ↔ Path.IsFileName name ∧ (t.get? (directory ++ [name])).isSome := by
  rw [names, List.mem_eraseDups, List.mem_filterMap]
  constructor
  · rintro ⟨e, he, hchild⟩
    obtain ⟨hplace, htop, hup⟩ := childName?_eq_some_iff.1 hchild
    rw [hplace] at htop
    have hsome : (t.get? (directory ++ [name])).isSome :=
      (get?_isSome_iff htop).2 (List.mem_map.2 ⟨e, he, hplace⟩)
    exact ⟨hsound.named hsome htop hup, hsome⟩
  · rintro ⟨hname, hsome⟩
    have htop := isTop_concat_of_isFileName hname directory
    obtain ⟨e, he, hplace⟩ := List.mem_map.1 ((get?_isSome_iff htop).1 hsome)
    exact ⟨e, he, childName?_eq_some_iff.2 ⟨hplace, hplace ▸ htop, hname.ne_up⟩⟩

theorem nodup_eraseDups (texts : List String) : texts.eraseDups.Nodup := by
  induction hn : texts.length using Nat.strong_induction_on generalizing texts with
  | _ n ih =>
    cases texts with
    | nil => exact List.nodup_nil
    | cons text texts =>
      rw [List.eraseDups_cons, List.nodup_cons]
      refine ⟨?_, ih _ ?_ _ rfl⟩
      · rw [List.mem_eraseDups, List.mem_filter]
        simp
      · rw [← hn]
        exact Nat.lt_succ_of_le (List.length_filter_le _ _)

theorem nodup_names (t : FileTree) (directory : Place) : (t.names directory).Nodup :=
  nodup_eraseDups _

/-! ### Files that a walk comes to -/

/-- What a walk finds under a name in a directory: the entry itself or, for a link, what the link
leads to. A link to a directory that the walk is in already is not followed, nor is one that leads
nowhere. -/
inductive Opens (t : FileTree) (inside : List Place) (directory : Place) (name : String) :
    Place → Prop
  | entry {e : Entry} :
      t.get? (directory ++ [name]) = some e → (∀ text, e ≠ .link text) →
      Opens t inside directory name (directory ++ [name])
  | link {text : String} {place : Place} :
      t.get? (directory ++ [name]) = some (.link text) → t.Leads mostLinks directory [name] place →
      (t.isDirectoryAt place = true → place ∉ inside) → Opens t inside directory name place

/-- The names on the way from a directory to a file below it, for a walk that is in some directories
already. -/
inductive Yields (t : FileTree) : List Place → Place → List String → Prop
  | file {inside : List Place} {directory place : Place} {name : String} {content : ByteArray} :
      Path.IsFileName name → t.Opens inside directory name place →
        t.get? place = some (.file content) →
      Yields t inside directory [name]
  | deeper {inside : List Place} {directory place : Place} {name : String} {names : List String} :
      Path.IsFileName name → t.Opens inside directory name place → t.isDirectoryAt place = true →
      Yields t (place :: inside) place names → Yields t inside directory (name :: names)

/-- What a walk finds under a name, computed. -/
def opened? (t : FileTree) (inside : List Place) (directory : Place) (name : String) :
    Option Place :=
  match t.get? (directory ++ [name]) with
  | some (.link _) =>
    (t.linked? directory name).filter fun place => !(t.isDirectoryAt place && inside.contains place)
  | some _ => some (directory ++ [name])
  | none => none

theorem linked?_eq_some_iff :
    t.linked? directory name = some place ↔ t.Leads mostLinks directory [name] place := by
  rw [linked?, ← follow_eq_ok_iff]
  cases t.follow mostLinks directory [name] <;> simp [Except.toOption]

theorem opened?_eq_some_iff :
    t.opened? inside directory name = some place ↔ t.Opens inside directory name place := by
  unfold opened?
  constructor
  · intro h
    split at h
    next text hlink =>
      obtain ⟨hlinked, hinside⟩ := Option.filter_eq_some_iff.1 h
      refine .link hlink (linked?_eq_some_iff.1 hlinked) ?_
      simpa [or_iff_not_imp_left] using hinside
    next e he hlink =>
      cases h
      exact .entry hlink fun text heq => he text (heq ▸ rfl)
    next => cases h
  · rintro (⟨he, hlink⟩ | ⟨hlink, hleads, hinside⟩)
    · rw [he]
      split
      next text heq => exact absurd (Option.some.inj heq) (hlink text)
      next => rfl
      next heq => cases heq
    · rw [hlink]
      refine Option.filter_eq_some_iff.2 ⟨linked?_eq_some_iff.2 hleads, ?_⟩
      simpa [or_iff_not_imp_left] using hinside

/-- The files that are found under a name. -/
def filesUnder (t : FileTree) (depth : Nat) (inside : List Place) (directory : Place)
    (name : String) :
    List (List String) :=
  match t.opened? inside directory name with
  | some place =>
    if t.isDirectoryAt place then (t.filesBelow depth (place :: inside) place).map (name :: ·)
    else [[name]]
  | none => []

theorem filesBelow_succ (t : FileTree) (depth : Nat) (inside : List Place) (directory : Place) :
    t.filesBelow (depth + 1) inside directory =
      (t.names directory).flatMap (t.filesUnder depth inside directory) := by
  rw [filesBelow]
  congr 1
  funext name
  unfold filesUnder opened?
  cases he : t.get? (directory ++ [name]) with
  | none => rfl
  | some e =>
    cases e with
    | file content =>
      have hfile : t.isDirectoryAt (directory ++ [name]) = false := by rw [isDirectoryAt, he]
      simp [hfile]
    | directory => simp [isDirectoryAt_iff.2 he]
    | link text =>
      cases hlinked : t.linked? directory name with
      | none => rfl
      | some place =>
        cases hdirectory : t.isDirectoryAt place
        · simp [hdirectory, Option.filter]
        · by_cases hinside : place ∈ inside <;> simp [hdirectory, hinside, Option.filter]

theorem mem_filesUnder :
    names ∈ t.filesUnder depth inside directory name ↔
      ∃ place, t.Opens inside directory name place ∧
      (t.isDirectoryAt place = false ∧ names = [name] ∨
        t.isDirectoryAt place = true ∧ ∃ rest ∈ t.filesBelow depth (place :: inside) place,
          name :: rest = names) := by
  simp only [← opened?_eq_some_iff]
  unfold filesUnder
  cases t.opened? inside directory name with
  | none => simp
  | some place => cases hdirectory : t.isDirectoryAt place <;> simp [hdirectory]

/-- What is found under a name starts with that name. -/
theorem head?_of_mem_filesUnder (h : names ∈ t.filesUnder depth inside directory name) :
    names.head? = some name := by
  obtain ⟨_, -, ⟨-, rfl⟩ | ⟨-, _, -, rfl⟩⟩ := mem_filesUnder.1 h
  · rfl
  · rfl

theorem nodup_filesBelow (t : FileTree) (depth : Nat) (inside : List Place) (directory : Place) :
    (t.filesBelow depth inside directory).Nodup := by
  induction depth generalizing inside directory with
  | zero => exact List.nodup_nil
  | succ depth ih =>
    rw [filesBelow_succ, List.nodup_flatMap]
    constructor
    · intro name _
      unfold filesUnder
      split
      next place _ =>
        split_ifs
        · exact (ih _ _).map (List.cons_injective)
        · exact List.nodup_singleton _
      next => exact List.nodup_nil
    · refine (t.nodup_names directory).imp ?_
      intro name name' hne names hnames hnames'
      have heq := (head?_of_mem_filesUnder hnames).symm.trans (head?_of_mem_filesUnder hnames')
      exact hne (Option.some.inj heq)

/-! ### The depth of a walk -/

/-- The places that there are, among them the two that are always directories. -/
def places (t : FileTree) : List Place := [] :: ["/"] :: t.entries.map Prod.fst

/-- How many places there are that a walk is not in. -/
def fresh (t : FileTree) (inside : List Place) : Nat :=
  t.places.countP fun place => !inside.contains place

/-- How many entries there are that are deeper than a directory. -/
def room (t : FileTree) (directory : Place) : Nat :=
  (t.entries.map Prod.fst).countP fun place => directory.length < place.length

/-- How much deeper a walk can go: by a link it comes to a place that it was not in, and from there
to entries that are deeper and deeper. -/
def capacity (t : FileTree) (inside : List Place) (directory : Place) : Nat :=
  t.fresh inside * (t.entries.length + 1) + t.room directory

theorem mem_places_of_isSome (h : (t.get? place).isSome) : place ∈ t.places := by
  cases htop : isTop place with
  | false => exact List.mem_cons_of_mem _ (List.mem_cons_of_mem _ ((get?_isSome_iff htop).1 h))
  | true =>
    rw [isTop, Bool.or_eq_true, beq_iff_eq, beq_iff_eq] at htop
    rcases htop with rfl | rfl <;> simp [places]

theorem countP_lt_countP {p q : Place → Bool} {ps : List Place} (hpq : ∀ x, p x = true → q x = true)
    (hmem : place ∈ ps) (hp : p place = false) (hq : q place = true) :
    ps.countP p < ps.countP q := by
  obtain ⟨before, after, rfl⟩ := List.append_of_mem hmem
  have hbefore := List.countP_mono_left (l := before) fun x _ => hpq x
  have hafter := List.countP_mono_left (l := after) fun x _ => hpq x
  rw [List.countP_append, List.countP_append, List.countP_cons_of_neg (by simp [hp]),
    List.countP_cons_of_pos hq]
  omega

theorem fresh_cons_le (t : FileTree) (inside : List Place) (place : Place) :
    t.fresh (place :: inside) ≤ t.fresh inside := by
  refine List.countP_mono_left ?_
  intro other _ hother
  simp_all

theorem fresh_cons_lt (hmem : place ∈ t.places) (hinside : place ∉ inside) :
    t.fresh (place :: inside) < t.fresh inside := by
  refine countP_lt_countP ?_ hmem (by simp) (by simpa using hinside)
  intro other hother
  simp_all

theorem room_le (t : FileTree) (directory : Place) : t.room directory ≤ t.entries.length :=
  List.countP_le_length.trans_eq (List.length_map _)

theorem room_append_lt (hname : Path.IsFileName name)
    (hsome : (t.get? (directory ++ [name])).isSome) :
    t.room (directory ++ [name]) < t.room directory := by
  have hmem := (get?_isSome_iff (isTop_concat_of_isFileName hname directory)).1 hsome
  refine countP_lt_countP ?_ hmem (by simp) (by simp)
  intro other hother
  simp only [List.length_append, List.length_singleton, decide_eq_true_eq] at hother ⊢
  omega

/-- A walk that enters a directory has less to go. -/
theorem capacity_lt (hname : Path.IsFileName name) (hopens : t.Opens inside directory name place)
    (hdirectory : t.isDirectoryAt place = true) :
    t.capacity (place :: inside) place < t.capacity inside directory := by
  unfold capacity
  cases hopens with
  | entry he _ =>
    have hfresh := t.fresh_cons_le inside (directory ++ [name])
    have hroom := room_append_lt hname (by rw [he]; rfl)
    have hle := Nat.mul_le_mul_right (t.entries.length + 1) hfresh
    omega
  | link _ _ hinside =>
    have hmem : place ∈ t.places :=
      mem_places_of_isSome (by rw [isDirectoryAt_iff.1 hdirectory]; rfl)
    have hfresh := fresh_cons_lt hmem (hinside hdirectory)
    have hroom := t.room_le place
    have hle := Nat.mul_le_mul_right (t.entries.length + 1) hfresh
    rw [Nat.succ_mul] at hle
    omega

theorem capacity_lt_deepest (t : FileTree) (inside : List Place) (directory : Place) :
    t.capacity inside directory < t.deepest := by
  have hfresh : t.fresh inside ≤ t.entries.length + 2 := by
    refine List.countP_le_length.trans ?_
    simp [places]
  have hroom := t.room_le directory
  have hle := Nat.mul_le_mul_right (t.entries.length + 1) hfresh
  rw [capacity, deepest]
  nlinarith

/-! ### The walk and the files -/

theorem Opens.settled (hopens : t.Opens inside directory name place) (hsound : t.Sound) :
    t.Settled place := by
  cases hopens with
  | entry he hlink => exact settled_of_entry he hlink
  | link _ hleads _ => exact hleads.settled hsound (Or.inl hleads.isDirectoryAt)

theorem Opens.isSome (hopens : t.Opens inside directory name place) :
    (t.get? (directory ++ [name])).isSome := by
  cases hopens with
  | entry he _ => rw [he]; rfl
  | link he _ _ => rw [he]; rfl

/-- A walk that is allowed to go deep enough comes to all files and to nothing else. -/
theorem mem_filesBelow_iff (hsound : t.Sound) (hdepth : t.capacity inside directory < depth) :
    names ∈ t.filesBelow depth inside directory ↔ t.Yields inside directory names := by
  induction depth generalizing inside directory names with
  | zero => omega
  | succ depth ih =>
    rw [filesBelow_succ, List.mem_flatMap]
    constructor
    · rintro ⟨name, hname, hnames⟩
      obtain ⟨place, hopens, hplace⟩ := mem_filesUnder.1 hnames
      have hfile := ((mem_names hsound).1 hname).1
      rcases hplace with ⟨hplace, rfl⟩ | ⟨hplace, rest, hrest, rfl⟩
      · rcases hopens.settled hsound with hdirectory | ⟨content, hcontent⟩
        · rw [hplace] at hdirectory
          cases hdirectory
        · exact .file hfile hopens hcontent
      · have hless := capacity_lt hfile hopens hplace
        exact .deeper hfile hopens hplace ((ih (by omega)).1 hrest)
    · intro hyields
      cases hyields with
      | @file _ _ place name content hname hopens hcontent =>
        have hplace : t.isDirectoryAt place = false := by rw [isDirectoryAt, hcontent]
        exact ⟨name, (mem_names hsound).2 ⟨hname, hopens.isSome⟩,
          mem_filesUnder.2 ⟨place, hopens, Or.inl ⟨hplace, rfl⟩⟩⟩
      | @deeper _ _ place name rest hname hopens hplace hrest =>
        have hless := capacity_lt hname hopens hplace
        exact ⟨name, (mem_names hsound).2 ⟨hname, hopens.isSome⟩,
          mem_filesUnder.2 ⟨place, hopens, Or.inr ⟨hplace, rest, (ih (by omega)).2 hrest, rfl⟩⟩⟩

/-- The names on the way from a path to a file below it. The path of a file leads to that file. -/
inductive Yielded (t : FileTree) (root : String) : List String → Prop
  | file {place : Place} {content : ByteArray} :
      t.resolve root = .ok place → t.get? place = some (.file content) → Yielded t root []
  | directory {place : Place} {names : List String} :
      t.resolve root = .ok place → t.isDirectoryAt place = true → t.Yields [place] place names →
        Yielded t root names

theorem settled_of_resolve (hsound : t.Sound) (h : t.resolve root = .ok place) :
    t.Settled place := by
  refine (resolve_eq_ok_iff.1 h).2.settled hsound (Or.inl (isDirectoryAt_start ?_ root))
  rfl

theorem mem_walk_iff (hsound : t.Sound) : names ∈ t.walk root ↔ t.Yielded root names := by
  unfold walk
  cases hroot : t.resolve root with
  | error p =>
    refine iff_of_false List.not_mem_nil ?_
    rintro (⟨h, -⟩ | ⟨h, -⟩) <;> rw [hroot] at h <;> cases h
  | ok place =>
    dsimp only
    constructor
    · intro h
      split_ifs at h with hdirectory
      · exact .directory hroot hdirectory
          ((mem_filesBelow_iff hsound (t.capacity_lt_deepest _ _)).1 h)
      · obtain ⟨content, hcontent⟩ := (settled_of_resolve hsound hroot).resolve_left hdirectory
        rw [List.mem_singleton.1 h]
        exact .file hroot hcontent
    · rintro (⟨h, hcontent⟩ | ⟨h, hdirectory, hyields⟩) <;> cases hroot.symm.trans h
      · rw [isDirectoryAt, hcontent]
        exact List.mem_singleton_self _
      · rw [if_pos hdirectory]
        exact (mem_filesBelow_iff hsound (t.capacity_lt_deepest _ _)).2 hyields

theorem nodup_walk (t : FileTree) (root : String) : (t.walk root).Nodup := by
  unfold walk
  split
  next place _ =>
    split_ifs
    · exact t.nodup_filesBelow _ _ _
    · exact List.nodup_singleton _
  next => exact List.nodup_nil

theorem Yields.isFileName (h : t.Yields inside directory names) :
    ∀ name ∈ names, Path.IsFileName name := by
  induction h with
  | file hname _ _ => simpa using hname
  | deeper hname _ _ _ ih => exact List.forall_mem_cons.2 ⟨hname, ih⟩

theorem Yielded.isFileName (h : t.Yielded root names) : ∀ name ∈ names, Path.IsFileName name := by
  cases h with
  | file _ _ => simp
  | directory _ _ hyields => exact hyields.isFileName

/-! ### Trees with the same entries -/

theorem Opens.grows (h : t.Opens inside directory name place) (hgrows : Grows t t')
    (hback : Grows t' t) :
    t'.Opens inside directory name place := by
  cases h with
  | entry he hlink =>
    obtain ⟨e', he', hlink'⟩ := hgrows.entry he hlink
    exact .entry he' hlink'
  | link he hleads hinside =>
    exact .link (hgrows.link he) (hleads.grows hgrows) fun hdirectory =>
      hinside (hback.isDirectoryAt hdirectory)

theorem Yields.grows (h : t.Yields inside directory names) (hgrows : Grows t t')
    (hback : Grows t' t) :
    t'.Yields inside directory names := by
  induction h with
  | file hname hopens hcontent =>
    obtain ⟨_, hcontent', ⟨⟩⟩ := hgrows hcontent
    exact .file hname (hopens.grows hgrows hback) hcontent'
  | deeper hname hopens hdirectory _ ih =>
    exact .deeper hname (hopens.grows hgrows hback) (hgrows.isDirectoryAt hdirectory) ih

/-- Which files there are depends on what is at which place, not on how the entries are listed. -/
theorem Yielded.grows (h : t.Yielded root names) (hgrows : Grows t t') (hback : Grows t' t) :
    t'.Yielded root names := by
  cases h with
  | file hroot hcontent =>
    obtain ⟨_, hcontent', ⟨⟩⟩ := hgrows hcontent
    exact .file (hgrows.resolve hroot) hcontent'
  | directory hroot hdirectory hyields =>
    exact .directory (hgrows.resolve hroot) (hgrows.isDirectoryAt hdirectory)
      (hyields.grows hgrows hback)

end FileTree

end PythonAudit
