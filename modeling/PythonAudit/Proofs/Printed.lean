import Mathlib.Tactic
import PythonAudit.Json.Writer
import PythonAudit.Number.Decimal

/-!
# Numbers and JSON are printed without control characters

* `Printable cs` says that no character of a text comes before the blank;
* `printable_write` and `printable_writeFixed` say so about printed numbers;
* `Json.feed_or_printable` says that a JSON value on several lines has no other control characters
  than line feeds.
-/

namespace PythonAudit

namespace Text

/-- No character comes before the blank. -/
def Printable (cs : List Char) : Prop := ∀ c ∈ cs, 0x20 ≤ c.toNat

instance (cs : List Char) : Decidable (Printable cs) := List.decidableBAll _ cs

@[simp] theorem printable_nil : Printable [] := List.forall_mem_nil _

@[simp] theorem printable_cons {c : Char} {cs : List Char} :
    Printable (c :: cs) ↔ 0x20 ≤ c.toNat ∧ Printable cs := List.forall_mem_cons

@[simp] theorem printable_append {cs ds : List Char} :
    Printable (cs ++ ds) ↔ Printable cs ∧ Printable ds :=
  List.forall_mem_append

theorem Printable.subset {cs ds : List Char} (h : Printable ds) (hsub : cs ⊆ ds) : Printable cs :=
  fun c hc => h c (hsub hc)

theorem Printable.notMem {cs : List Char} (h : Printable cs) {c : Char} (hc : c.toNat < 0x20) :
    c ∉ cs :=
  fun hmem => absurd (h c hmem) (by omega)

theorem printable_replicate (n : Nat) {c : Char} (hc : 0x20 ≤ c.toNat) :
    Printable (List.replicate n c) := by
  intro d hd
  rwa [List.eq_of_mem_replicate hd]

theorem printable_of_isDigit {cs : List Char} (h : ∀ c ∈ cs, c.isDigit = true) : Printable cs := by
  intro c hc
  have hdigit := h c hc
  simp only [Char.isDigit, Bool.and_eq_true, decide_eq_true_eq] at hdigit
  have hlow : '0'.toNat ≤ c.toNat := hdigit.1
  exact le_trans (by decide) hlow

theorem printable_repr (n : Nat) : Printable (Nat.repr n).toList := by
  rw [Nat.toList_repr]
  exact printable_of_isDigit fun c hc => Nat.isDigit_of_mem_toDigits (by norm_num) (by norm_num) hc

end Text

open Text

/-! ### Numbers -/

namespace Layout

variable (l : Layout) {digits : String} (h : Printable digits.toList)
include h

theorem printable_point (whole : Int) : Printable (l.point digits whole).toList := by
  have hzeros (n : Nat) : Printable (List.replicate n '0') := printable_replicate n (by decide)
  unfold point
  dsimp only
  split_ifs <;>
    simp only [String.toList_append, String.toList_ofList, printable_append, hzeros, h,
      and_true, true_and]
  · decide
  · decide
  · decide
  · exact ⟨⟨h.subset (List.take_subset _ _), by decide⟩, h.subset (List.drop_subset _ _)⟩

theorem printable_scientific (hplus : Printable l.plus.toList) (lead : Int) :
    Printable (l.scientific digits lead).toList := by
  have hsign : Printable (if lead < 0 then "-" else l.plus).toList := by
    split_ifs
    · decide
    · exact hplus
  have hmark : Printable "e".toList := by decide
  unfold scientific
  dsimp only
  simp only [String.toList_append, printable_append, printable_repr, hsign, hmark, and_true]
  split
  next c d r hcs =>
    rw [hcs] at h
    simp only [printable_cons] at h
    simp [h]
  next cs hcs => simpa using h

end Layout

theorem printable_sign (x : Double) :
    Printable (if x.negative then "-" else "").toList := by split_ifs <;> decide

theorem Layout.printable_write (l : Layout) (hplus : Printable l.plus.toList) (x : Double) :
    Printable (l.write x).toList := by
  have hmagnitude : Printable (l.writeMagnitude x).toList := by
    unfold writeMagnitude
    dsimp only
    split_ifs
    · decide
    · decide
    · exact l.printable_point (printable_repr _) _
    · exact l.printable_scientific (printable_repr _) hplus _
  unfold write
  by_cases hnan : x.isNaN = true
  · rw [if_pos hnan]
    decide
  · rw [if_neg hnan, String.toList_append, printable_append]
    refine ⟨printable_sign x, ?_⟩
    split_ifs
    · decide
    · exact hmagnitude

theorem printable_writeFixed (places : Nat) (x : Double) :
    Printable (writeFixed places x).toList := by
  have hsign := printable_sign x
  unfold writeFixed
  dsimp only
  generalize hpadded : List.replicate _ '0' ++ (Nat.repr _).toList = padded
  have hprintable : Printable padded := by
    rw [← hpadded, printable_append]
    exact ⟨printable_replicate _ (by decide), printable_repr _⟩
  have htake (n : Nat) : Printable (padded.take n) := hprintable.subset (List.take_subset _ _)
  have hdrop (n : Nat) : Printable (padded.drop n) := hprintable.subset (List.drop_subset _ _)
  by_cases hnan : x.isNaN = true
  · rw [if_pos hnan]
    decide
  · rw [if_neg hnan]
    by_cases hinfinite : x.isInfinite = true
    · simp [hinfinite, hsign]
    · by_cases hplaces : places = 0 <;> simp [hinfinite, hplaces, hsign, hprintable, htake, hdrop]

/-! ### JSON -/

namespace Json

theorem printable_escapeChar (c : Char) : Printable (escapeChar c) := by
  have hhex : ∀ k < 16, 0x20 ≤ (hexDigit k).toNat := by decide
  unfold escapeChar
  split_ifs with hquote hbackslash hb hf hn hr ht hcontrol
  iterate 7 decide
  · simp [hhex (c.toNat / 16) (by omega), hhex (c.toNat % 16) (by omega)]
  · simpa using hcontrol

theorem printable_writeString (s : String) : Printable (writeString s) := by
  have hchars : Printable (s.toList.flatMap escapeChar) := by
    intro c hc
    obtain ⟨d, -, hd⟩ := List.mem_flatMap.1 hc
    exact printable_escapeChar d c hd
  simp [writeString, hchars]

theorem printable_writeNumber (x : Double) : Printable (writeNumber x) := by
  unfold writeNumber
  split_ifs
  · exact numberLayout.printable_write (by decide) x
  · decide

theorem printable_writeBool (b : Bool) : Printable (writeBool b) := by cases b <;> decide

/-- All characters are line feeds or printable. -/
def OnLines (cs : List Char) : Prop := ∀ c ∈ cs, c = '\n' ∨ 0x20 ≤ c.toNat

theorem onLines_of_printable {cs : List Char} (h : Printable cs) : OnLines cs :=
  fun c hc => Or.inr (h c hc)

@[simp] theorem onLines_nil : OnLines [] := List.forall_mem_nil _

@[simp] theorem onLines_cons {c : Char} {cs : List Char} :
    OnLines (c :: cs) ↔ (c = '\n' ∨ 0x20 ≤ c.toNat) ∧ OnLines cs := List.forall_mem_cons

@[simp] theorem onLines_append {cs ds : List Char} : OnLines (cs ++ ds) ↔ OnLines cs ∧ OnLines ds :=
  List.forall_mem_append

@[simp] theorem onLines_newLine (depth : Nat) : OnLines (newLine depth) := by
  rw [newLine, onLines_cons]
  exact ⟨Or.inl rfl, onLines_of_printable (printable_replicate _ (by decide))⟩

@[simp] theorem onLines_writeString (s : String) : OnLines (writeString s) :=
  onLines_of_printable (printable_writeString s)

mutual

theorem onLines_prettyChars (depth : Nat) : ∀ j : Json, OnLines (prettyChars depth j)
  | .null => onLines_of_printable (by rw [prettyChars]; decide)
  | .bool b => onLines_of_printable (printable_writeBool b)
  | .natural n => onLines_of_printable (printable_repr n)
  | .number x => onLines_of_printable (printable_writeNumber x)
  | .string s => onLines_writeString s
  | .array [] => onLines_of_printable (by rw [prettyChars]; decide)
  | .array (j :: js) => by
    have hitems := onLines_prettyItems (depth + 1) (j :: js)
    simp [prettyChars, hitems]
  | .object [] => onLines_of_printable (by rw [prettyChars]; decide)
  | .object (m :: ms) => by
    have hmembers := onLines_prettyMembers (depth + 1) (m :: ms)
    simp [prettyChars, hmembers]

theorem onLines_prettyItems (depth : Nat) : ∀ js : List Json, OnLines (prettyItems depth js)
  | [] => onLines_nil
  | [j] => by simp [prettyItems, onLines_prettyChars depth j]
  | j :: i :: js => by
    have hrest := onLines_prettyItems depth (i :: js)
    simp [prettyItems, onLines_prettyChars depth j, hrest]

theorem onLines_prettyMembers (depth : Nat) :
    ∀ ms : List (String × Json), OnLines (prettyMembers depth ms)
  | [] => onLines_nil
  | [(k, j)] => by simp [prettyMembers, onLines_prettyChars depth j]
  | (k, j) :: m :: ms => by
    have hrest := onLines_prettyMembers depth (m :: ms)
    simp [prettyMembers, onLines_prettyChars depth j, hrest]

end

end Json

end PythonAudit
