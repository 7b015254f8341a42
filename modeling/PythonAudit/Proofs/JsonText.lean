import Mathlib.Data.List.DropRight
import Mathlib.Tactic
import PythonAudit.Json.Reader
import PythonAudit.Json.Writer
import PythonAudit.Proofs.Spelling

/-!
# Written JSON values are read back

* `readString?_writeString`: a string is read back whatever characters it has;
* `Delimited rest` says that the text after a number does not go on with it, and
  `readNumber?_natural` and `readNumber?_decimal` that a number in front of such a text is read
  back;
* `Legible j` says that all numbers in a value are written so that they can be read back;
* `readsBack_of_legible` is the induction over the value, and `parse?_pretty` what follows for whole
  texts.
-/

namespace PythonAudit

namespace Json

open Literal

/-! ### Strings -/

theorem isDigit_hexDigit : ∀ k < 16, IsDigit (hexDigit k) k := by decide

theorem readUnit?_of_numeral {ds : List Char} {n : Nat} (h : Numeral 16 ds n)
    (hlength : ds.length = 4) (rest : List Char) : readUnit? (ds ++ rest) = some (n, rest) := by
  obtain ⟨hvalue, hcount⟩ := leadingDigits_of_numeral reads_hexDigit? h rest (Or.inl hlength)
  rw [readUnit?]
  simp only [hvalue, hcount, hlength, if_true]
  rw [← hlength, List.drop_left]

/-- The code of a control character in four digits. -/
theorem numeral_control {n : Nat} (h : n < 32) :
    Numeral 16 ['0', '0', hexDigit (n / 16), hexDigit (n % 16)] n := by
  have hzero : IsDigit '0' 0 := by decide
  refine ⟨[0, 0, n / 16, n % 16], ?_, ?_, ?_⟩
  · simp [hzero, isDigit_hexDigit (n / 16) (by omega), isDigit_hexDigit (n % 16) (by omega)]
  · simp
    omega
  · simp [Nat.ofDigits]
    omega

theorem readUnicode?_control {c : Char} (h : c.toNat < 32) (rest : List Char) :
    readUnicode? ('0' :: '0' :: hexDigit (c.toNat / 16) :: hexDigit (c.toNat % 16) :: rest) =
      some (c, rest) := by
  have hread := readUnit?_of_numeral (numeral_control h) rfl rest
  simp only [List.cons_append, List.nil_append] at hread
  have hlow : ¬ 0xD800 ≤ c.toNat := by omega
  simp [readUnicode?, hread, hlow]

/-- The letters after a backslash, each with the character that is written with it. -/
def shortEscapes : List (Char × Char) :=
  [('"', '"'), ('\\', '\\'), ('b', '\x08'), ('f', '\x0c'), ('n', '\n'), ('r', '\r'), ('t', '\t')]

theorem escapeChar_of_mem :
    ∀ p ∈ shortEscapes, p.1 ≠ 'u' ∧ letter? p.1 = some p.2 ∧ escapeChar p.2 = ['\\', p.1] := by
  decide

theorem escapeChar_of_not_mem {c : Char} (h : c ∉ shortEscapes.map Prod.snd) :
    escapeChar c =
      if c.toNat < 0x20 then
        ['\\', 'u', '0', '0', hexDigit (c.toNat / 16), hexDigit (c.toNat % 16)]
      else [c] := by
  simp only [shortEscapes, List.map_cons, List.map_nil, List.mem_cons, List.not_mem_nil, or_false,
    not_or] at h
  obtain ⟨hquote, hbackslash, hb, hf, hn, hr, ht⟩ := h
  rw [escapeChar, if_neg hquote, if_neg hbackslash, if_neg hb, if_neg hf, if_neg hn, if_neg hr,
    if_neg ht]

/-- A character is written with a letter, with its code, or as itself. -/
theorem escapeChar_cases (c : Char) :
    (∃ l, l ≠ 'u' ∧ letter? l = some c ∧ escapeChar c = ['\\', l]) ∨
      (c.toNat < 0x20 ∧
        escapeChar c = ['\\', 'u', '0', '0', hexDigit (c.toNat / 16), hexDigit (c.toNat % 16)]) ∨
      c ≠ '"' ∧ c ≠ '\\' ∧ ¬ c.toNat < 0x20 ∧ escapeChar c = [c] := by
  by_cases hshort : c ∈ shortEscapes.map Prod.snd
  · obtain ⟨p, hp, rfl⟩ := List.mem_map.1 hshort
    exact Or.inl ⟨p.1, escapeChar_of_mem p hp⟩
  · have hwritten := escapeChar_of_not_mem hshort
    split_ifs at hwritten with hcontrol
    · exact Or.inr (Or.inl ⟨hcontrol, hwritten⟩)
    · refine Or.inr (Or.inr ⟨?_, ?_, hcontrol, hwritten⟩) <;>
        · rintro rfl
          exact hshort (by decide)

/-- One character of a string is read back. -/
theorem readChars_escapeChar (c : Char) (fuel : Nat) (rest acc : List Char) :
    readChars (fuel + 1) (escapeChar c ++ rest) acc = readChars fuel rest (c :: acc) := by
  rcases escapeChar_cases c with
    ⟨l, hl, hletter, hwritten⟩ | ⟨hcontrol, hwritten⟩ | ⟨hquote, hbackslash, hcode, hwritten⟩
  · rw [hwritten, List.cons_append, List.singleton_append, readChars, hletter]
    exact hl
  · simp [hwritten, readChars, readUnicode?_control hcontrol]
  · -- The character stands for itself: it is neither a quote nor a backslash.
    rw [hwritten, List.singleton_append, readChars, if_neg hcode]
    · exact hquote
    · exact fun _ h => absurd h hbackslash
    · exact fun _ _ h => absurd h hbackslash

theorem length_le_flatMap_escapeChar (cs : List Char) :
    cs.length ≤ (cs.flatMap escapeChar).length := by
  induction cs with
  | nil => simp
  | cons c cs ih =>
    have hpos : 0 < (escapeChar c).length := by
      rcases escapeChar_cases c with ⟨l, -, -, hwritten⟩ | ⟨-, hwritten⟩ | ⟨-, -, -, hwritten⟩ <;>
        simp [hwritten]
    rw [List.flatMap_cons, List.length_append, List.length_cons]
    omega

/-- The characters of a string are read back one after the other; a unit of fuel goes with each of
them. -/
theorem readChars_flatMap (cs rest : List Char) (acc : List Char) {fuel : Nat}
    (hfuel : cs.length < fuel) :
    readChars fuel (cs.flatMap escapeChar ++ '"' :: rest) acc =
      some (String.ofList (acc.reverse ++ cs), rest) := by
  induction cs generalizing acc fuel with
  | nil =>
    obtain ⟨fuel, rfl⟩ := Nat.exists_eq_add_one.2 hfuel
    simp [readChars]
  | cons c cs ih =>
    obtain ⟨fuel, rfl⟩ := Nat.exists_eq_add_one.2 (Nat.zero_lt_of_lt hfuel)
    rw [List.flatMap_cons, List.append_assoc, readChars_escapeChar, ih _ (by simpa using hfuel)]
    simp

theorem readString?_writeString (s : String) (rest : List Char) :
    readString? (s.toList.flatMap escapeChar ++ '"' :: rest) = some (s, rest) := by
  have hlength := length_le_flatMap_escapeChar s.toList
  rw [readString?, readChars_flatMap]
  · simp
  · rw [List.length_append]
    omega

/-! ### Numbers -/

/-- A text after a number does not go on with it. -/
def Delimited (rest : List Char) : Prop :=
  ∀ c ∈ rest.head?, c.isDigit = false ∧ c ≠ '.' ∧ c ≠ 'e' ∧ c ≠ 'E'

/-- Digits of a whole number, without zeros in front. -/
structure IsWhole (ds : List Char) : Prop where
  digits : ∀ c ∈ ds, c.isDigit = true
  ne_nil : ds ≠ []
  no_zeros : ds.head? = some '0' → ds.length = 1

theorem takeWhile_digits {ds rest : List Char} (hds : ∀ c ∈ ds, c.isDigit = true)
    (hrest : ∀ c ∈ rest.head?, c.isDigit = false) : (ds ++ rest).takeWhile Char.isDigit = ds := by
  have hstop : rest.takeWhile Char.isDigit = [] := by
    cases rest with
    | nil => rfl
    | cons c rest => simp [hrest c (by simp)]
  rw [List.takeWhile_append_of_pos hds, hstop, List.append_nil]

theorem readExponent?_of_delimited {rest : List Char} (h : Delimited rest) :
    readExponent? rest = some (none, rest) := by
  cases rest with
  | nil => rfl
  | cons c rest =>
    obtain ⟨-, -, he, hE⟩ := h c (by simp)
    simp [readExponent?, he, hE]

theorem readFraction?_of_delimited {rest : List Char} (h : Delimited rest) :
    readFraction? rest = some ([], rest) := by
  cases rest with
  | nil => rfl
  | cons c rest =>
    obtain ⟨-, hpoint, -⟩ := h c (by simp)
    rw [readFraction?]
    simp [hpoint]

theorem readFraction?_point {ds rest : List Char} (hne : ds ≠ []) (hds : ∀ c ∈ ds, c.isDigit = true)
    (h : Delimited rest) : readFraction? ('.' :: (ds ++ rest)) = some (ds, rest) := by
  have hread := takeWhile_digits hds fun c hc => (h c hc).1
  simp [readFraction?, hread, hne]

/-- The whole digits of a number are read up to what follows them. -/
theorem readMagnitude?_of_whole {whole fraction tail rest : List Char} (hwhole : IsWhole whole)
    (htail : ∀ c ∈ tail.head?, c.isDigit = false)
    (hfraction : readFraction? tail = some (fraction, rest)) (h : Delimited rest) :
    readMagnitude? false (whole ++ tail) =
      (makeNumber? false whole fraction none).map (·, rest) := by
  have hread := takeWhile_digits hwhole.digits htail
  have hgood :
      (whole.isEmpty || (whole.head? == some '0' && decide (1 < whole.length))) = false := by
    have hzero := hwhole.no_zeros
    have hne := hwhole.ne_nil
    rw [Bool.or_eq_false_iff, Bool.and_eq_false_imp]
    refine ⟨by simpa using hne, fun hhead => ?_⟩
    rw [hzero (by simpa using hhead)]
    rfl
  rw [readMagnitude?]
  simp only [hread, hgood, Bool.false_eq_true, if_false, List.drop_left, hfraction,
    Option.bind_eq_bind, Option.bind_some, readExponent?_of_delimited h]
  cases makeNumber? false whole fraction none <;> rfl

theorem readNumber?_of_isDigit {c : Char} (h : c.isDigit = true) (r : List Char) :
    readNumber? (c :: r) = readMagnitude? false (c :: r) := by
  have hne : c ≠ '-' := by
    rintro rfl
    cases h
  rw [readNumber?]
  simp [hne]

theorem head?_toDigits_ne_zero {n : Nat} (h : 0 < n) : (Nat.toDigits 10 n).head? ≠ some '0' := by
  induction n using Nat.strong_induction_on with
  | _ n ih =>
    have hdigit : ∀ d < 10, 0 < d → d.digitChar ≠ '0' := by decide
    by_cases hlt : n < 10
    · rw [Nat.toDigits_of_lt_base hlt, List.head?_singleton, Ne, Option.some.injEq]
      exact hdigit n hlt h
    · rw [Nat.toDigits_of_base_le (by omega) (by omega),
        List.head?_append_of_ne_nil _ Nat.toDigits_ne_nil]
      exact ih (n / 10) (by omega) (by omega)

theorem isWhole_toDigits (n : Nat) : IsWhole (Nat.toDigits 10 n) where
  digits _ hc := Nat.isDigit_of_mem_toDigits (by norm_num) (by norm_num) hc
  ne_nil := Nat.toDigits_ne_nil
  no_zeros hzero := by
    rcases Nat.eq_zero_or_pos n with rfl | hpos
    · rfl
    · exact absurd hzero (head?_toDigits_ne_zero hpos)

theorem digitsOf_toDigits (n : Nat) : digitsOf (Nat.toDigits 10 n) = n := by
  have hfold : ∀ ds : List Char, digitsOf ds = Nat.ofDigitChars 10 ds 0 := by
    intro ds
    rw [digitsOf, Nat.ofDigitChars]
    congr 1
    funext m c
    rw [mul_comm]
  rw [hfold, Nat.ofDigitChars_ten_toDigits]

/-- The texts of numbers that are read as a value: digits, and perhaps a point with more digits. -/
inductive NumberText : List Char → Json → Prop
  | whole {ds : List Char} {j : Json} : IsWhole ds → makeNumber? false ds [] none = some j →
      NumberText ds j
  | decimal {ds fs : List Char} {j : Json} : IsWhole ds → fs ≠ [] → (∀ c ∈ fs, c.isDigit = true) →
      makeNumber? false ds fs none = some j → NumberText (ds ++ '.' :: fs) j

theorem IsWhole.exists_head {ds : List Char} (h : IsWhole ds) :
    ∃ c r, ds = c :: r ∧ c.isDigit = true := by
  obtain ⟨c, r, rfl⟩ := List.exists_cons_of_ne_nil h.ne_nil
  exact ⟨c, r, rfl, h.digits c List.mem_cons_self⟩

theorem NumberText.exists_head {text : List Char} {j : Json} (h : NumberText text j) :
    ∃ c r, text = c :: r ∧ c.isDigit = true := by
  cases h with
  | whole hds _ => exact hds.exists_head
  | decimal hds _ _ _ =>
    obtain ⟨c, r, rfl, hc⟩ := hds.exists_head
    exact ⟨c, _, rfl, hc⟩

theorem NumberText.readMagnitude? {text rest : List Char} {j : Json} (h : NumberText text j)
    (hrest : Delimited rest) :
    readMagnitude? false (text ++ rest) = some (j, rest) := by
  cases h with
  | whole hds hmake =>
    rw [readMagnitude?_of_whole hds (fun c hc => (hrest c hc).1)
      (readFraction?_of_delimited hrest) hrest,
      hmake]
    rfl
  | @decimal ds fs j hds hne hfs hmake =>
    have hpoint : ∀ c ∈ ('.' :: (fs ++ rest)).head?, c.isDigit = false := by
      rintro c ⟨⟩
      rfl
    rw [List.append_assoc, List.cons_append,
      readMagnitude?_of_whole hds hpoint (readFraction?_point hne hfs hrest) hrest, hmake]
    rfl

theorem NumberText.readNumber? {text rest : List Char} {j : Json} (h : NumberText text j)
    (hrest : Delimited rest) :
    readNumber? (text ++ rest) = some (j, rest) := by
  have hread := h.readMagnitude? hrest
  obtain ⟨c, r, rfl, hc⟩ := h.exists_head
  rw [List.cons_append, readNumber?_of_isDigit hc]
  exact hread

theorem numberText_natural {n : Nat} (h : n < 2 ^ 64) :
    NumberText (Nat.toDigits 10 n) (natural n) := by
  refine .whole (isWhole_toDigits n) ?_
  simp only [makeNumber?, digitsOf_toDigits]
  exact if_pos (by simpa using h)

/-! ### Values -/

/-- All numbers in a value are written so that they can be read back. -/
inductive Legible : Json → Prop
  | null : Legible .null
  | bool (b : Bool) : Legible (.bool b)
  | natural {n : Nat} : n < 2 ^ 64 → Legible (.natural n)
  | number {x : Double} : NumberText (writeNumber x) (.number x) → Legible (.number x)
  | string (s : String) : Legible (.string s)
  | array {items : List Json} : (∀ j ∈ items, Legible j) → Legible (.array items)
  | object {members : List (String × Json)} : (∀ m ∈ members, Legible m.2) →
      Legible (.object members)

/-- Wherever the value is written in front of a text that is no part of it, it is read back from
there. -/
def ReadsBack (j : Json) : Prop :=
  ∀ (depth fuel : Nat) (rest : List Char), Delimited rest → (prettyChars depth j).length ≤ fuel →
    readValue fuel (prettyChars depth j ++ rest) = some (j, rest)

/-! #### Blanks -/

theorem skipBlanks_of_not_isBlank {c : Char} (h : isBlank c = false) (r : List Char) :
    skipBlanks (c :: r) = c :: r := by
  simp [skipBlanks, h]

theorem skipBlanks_newLine (depth : Nat) (r : List Char) :
    skipBlanks (newLine depth ++ r) = skipBlanks r := by
  have hblank : ∀ c ∈ newLine depth, isBlank c = true := by
    simp [newLine, isBlank]
  exact List.dropWhile_append_of_pos hblank

theorem skipBlanks_skipBlanks (cs : List Char) : skipBlanks (skipBlanks cs) = skipBlanks cs :=
  List.dropWhile_idempotent _ _

theorem readValue_skipBlanks (fuel : Nat) (cs : List Char) :
    readValue fuel (skipBlanks cs) = readValue fuel cs := by
  cases fuel with
  | zero => rfl
  | succ fuel => rw [readValue, readValue, skipBlanks_skipBlanks]

theorem readItems_skipBlanks (fuel : Nat) (cs : List Char) (acc : List Json) :
    readItems fuel (skipBlanks cs) acc = readItems fuel cs acc := by
  cases fuel with
  | zero => rfl
  | succ fuel => rw [readItems, readItems, readValue_skipBlanks]

theorem readMembers_skipBlanks (fuel : Nat) (cs : List Char) (acc : List (String × Json)) :
    readMembers fuel (skipBlanks cs) acc = readMembers fuel cs acc := by
  cases fuel with
  | zero => rfl
  | succ fuel => rw [readMembers, readMembers, skipBlanks_skipBlanks]

theorem readValue_newLine (fuel depth : Nat) (cs : List Char) :
    readValue fuel (newLine depth ++ cs) = readValue fuel cs := by
  rw [← readValue_skipBlanks, skipBlanks_newLine, readValue_skipBlanks]

theorem delimited_newLine (depth : Nat) (r : List Char) : Delimited (newLine depth ++ r) := by
  rintro c ⟨⟩
  decide

theorem delimited_comma (r : List Char) : Delimited (',' :: r) := by
  rintro c ⟨⟩
  decide

/-! #### Items and members -/

theorem ne_of_isDigit {c d : Char} (hc : c.isDigit = true) (hd : d.isDigit = false) : c ≠ d := by
  rintro rfl
  rw [hc] at hd
  cases hd

theorem isBlank_of_isDigit {c : Char} (h : c.isDigit = true) : isBlank c = false := by
  simp only [isBlank, Bool.or_eq_false_iff, beq_eq_false_iff_ne]
  exact ⟨⟨⟨ne_of_isDigit h rfl, ne_of_isDigit h rfl⟩, ne_of_isDigit h rfl⟩, ne_of_isDigit h rfl⟩

/-- No value starts with a blank or with the end of an array. -/
theorem Legible.exists_head {j : Json} (h : Legible j) (depth : Nat) :
    ∃ c r, prettyChars depth j = c :: r ∧ isBlank c = false ∧ c ≠ ']' := by
  cases h with
  | null => exact ⟨_, _, rfl, rfl, by decide⟩
  | bool b => cases b <;> exact ⟨_, _, rfl, rfl, by decide⟩
  | natural hn =>
    obtain ⟨c, r, hcr, hc⟩ := (numberText_natural hn).exists_head
    rw [prettyChars, Nat.toList_repr, hcr]
    exact ⟨c, r, rfl, isBlank_of_isDigit hc, ne_of_isDigit hc rfl⟩
  | number hx =>
    obtain ⟨c, r, hcr, hc⟩ := hx.exists_head
    rw [prettyChars, hcr]
    exact ⟨c, r, rfl, isBlank_of_isDigit hc, ne_of_isDigit hc rfl⟩
  | string s => exact ⟨_, _, rfl, rfl, by decide⟩
  | @array items _ => cases items <;> exact ⟨_, _, rfl, rfl, by decide⟩
  | @object members _ => cases members <;> exact ⟨_, _, rfl, rfl, by decide⟩

@[simp] theorem length_newLine (depth : Nat) : (newLine depth).length = 2 * depth + 1 := by
  simp [newLine]

section

variable {j : Json} (hj : ReadsBack j) {depth fuel : Nat}
  (hfuel : (prettyChars depth j).length ≤ fuel)
include hj hfuel

theorem readItems_more (rest : List Char) (acc : List Json) :
    readItems (fuel + 1) (newLine depth ++ (prettyChars depth j ++ ',' :: rest)) acc =
      readItems fuel rest (j :: acc) := by
  rw [readItems, readValue_newLine, hj depth fuel _ (delimited_comma rest) hfuel]
  simp only [skipBlanks_of_not_isBlank (show isBlank ',' = false from rfl)]

theorem readItems_last (close : Nat) (rest : List Char) (acc : List Json) :
    readItems (fuel + 1) (newLine depth ++ (prettyChars depth j ++ (newLine close ++ ']' :: rest)))
      acc =
      some (array (acc.reverse ++ [j]), rest) := by
  rw [readItems, readValue_newLine, hj depth fuel _ (delimited_newLine close _) hfuel]
  simp only [skipBlanks_newLine, skipBlanks_of_not_isBlank (show isBlank ']' = false from rfl),
    List.reverse_cons]

/-- The key of a member is read, and then its value. -/
theorem readMembers_key (k : String) {rest : List Char} (hrest : Delimited rest) :
    skipBlanks (newLine depth ++ (writeString k ++ ':' :: ' ' :: (prettyChars depth j ++ rest))) =
        '"' :: (k.toList.flatMap escapeChar ++ '"' :: ':' :: ' ' :: (prettyChars depth j ++ rest)) ∧
      readValue fuel (' ' :: (prettyChars depth j ++ rest)) = some (j, rest) := by
  constructor
  · rw [skipBlanks_newLine, writeString, List.cons_append, skipBlanks_of_not_isBlank (by rfl),
      List.append_assoc]
    rfl
  · rw [← readValue_skipBlanks, skipBlanks, List.dropWhile_cons_of_pos (by rfl), ← skipBlanks,
      readValue_skipBlanks]
    exact hj depth fuel rest hrest hfuel

theorem readMembers_more (k : String) (rest : List Char) (acc : List (String × Json)) :
    readMembers (fuel + 1)
        (newLine depth ++
          (writeString k ++ ':' :: ' ' :: (prettyChars depth j ++ ',' :: rest))) acc =
      readMembers fuel rest ((k, j) :: acc) := by
  obtain ⟨hkey, hvalue⟩ := readMembers_key hj hfuel k (delimited_comma rest)
  rw [readMembers, hkey]
  simp only [readString?_writeString, skipBlanks_of_not_isBlank (show isBlank ':' = false from rfl),
    hvalue, skipBlanks_of_not_isBlank (show isBlank ',' = false from rfl)]

theorem readMembers_last (k : String) (close : Nat) (rest : List Char)
    (acc : List (String × Json)) :
    readMembers (fuel + 1)
        (newLine depth ++
          (writeString k ++ ':' :: ' ' ::
            (prettyChars depth j ++ (newLine close ++ '\x7d' :: rest))))
        acc =
      some (object (acc.reverse ++ [(k, j)]), rest) := by
  obtain ⟨hkey, hvalue⟩ := readMembers_key hj hfuel k (delimited_newLine close ('\x7d' :: rest))
  rw [readMembers, hkey]
  simp only [readString?_writeString, skipBlanks_of_not_isBlank (show isBlank ':' = false from rfl),
    hvalue, skipBlanks_newLine, skipBlanks_of_not_isBlank (show isBlank '\x7d' = false from rfl),
    List.reverse_cons]

end

theorem readItems_prettyItems {depth : Nat} (j : Json) (js : List Json)
    (h : ∀ i ∈ j :: js, ReadsBack i) (close : Nat) (rest : List Char) (acc : List Json) {fuel : Nat}
    (hfuel : (prettyItems depth (j :: js)).length ≤ fuel) :
    readItems fuel (prettyItems depth (j :: js) ++ (newLine close ++ ']' :: rest)) acc =
      some (array (acc.reverse ++ j :: js), rest) := by
  have hj := h j List.mem_cons_self
  induction js generalizing j acc fuel with
  | nil =>
    simp only [prettyItems, List.length_append, length_newLine, List.append_assoc] at hfuel ⊢
    obtain ⟨fuel, rfl⟩ := Nat.exists_eq_add_one.2 (show 0 < fuel by omega)
    exact readItems_last hj (by omega) close rest acc
  | cons i js ih =>
    simp only [prettyItems, List.length_append, length_newLine, List.length_cons, List.append_assoc,
      List.cons_append] at hfuel ⊢
    obtain ⟨fuel, rfl⟩ := Nat.exists_eq_add_one.2 (show 0 < fuel by omega)
    have hjs : ∀ k ∈ i :: js, ReadsBack k := fun k hk => h k (List.mem_cons_of_mem _ hk)
    rw [readItems_more hj (by omega), ih i hjs (j :: acc) (by omega) (hjs i List.mem_cons_self)]
    simp

theorem readMembers_prettyMembers {depth : Nat} (m : String × Json) (ms : List (String × Json))
    (h : ∀ i ∈ m :: ms, ReadsBack i.2) (close : Nat) (rest : List Char) (acc : List (String × Json))
    {fuel : Nat} (hfuel : (prettyMembers depth (m :: ms)).length ≤ fuel) :
    readMembers fuel (prettyMembers depth (m :: ms) ++ (newLine close ++ '\x7d' :: rest)) acc =
      some (object (acc.reverse ++ m :: ms), rest) := by
  have hm := h m List.mem_cons_self
  induction ms generalizing m acc fuel with
  | nil =>
    simp only [prettyMembers, List.length_append, length_newLine, List.length_cons,
      List.append_assoc, List.cons_append] at hfuel ⊢
    obtain ⟨fuel, rfl⟩ := Nat.exists_eq_add_one.2 (show 0 < fuel by omega)
    exact readMembers_last hm (by omega) m.1 close rest acc
  | cons i ms ih =>
    simp only [prettyMembers, List.length_append, length_newLine, List.length_cons,
      List.append_assoc, List.cons_append] at hfuel ⊢
    obtain ⟨fuel, rfl⟩ := Nat.exists_eq_add_one.2 (show 0 < fuel by omega)
    have hms : ∀ n ∈ i :: ms, ReadsBack n.2 := fun n hn => h n (List.mem_cons_of_mem _ hn)
    rw [readMembers_more hm (by omega), ih i hms (m :: acc) (by omega) (hms i List.mem_cons_self)]
    simp

/-! #### All values -/

theorem readWord?_append (w : String) (j : Json) (rest : List Char) :
    readWord? w j (w.toList ++ rest) = some (j, rest) := by
  have hprefix : w.toList.isPrefixOf (w.toList ++ rest) = true := by simp
  rw [readWord?, if_pos hprefix, ← String.length_toList, List.drop_left]

theorem readValue_of_isDigit {c : Char} (h : c.isDigit = true) (fuel : Nat) (r : List Char) :
    readValue (fuel + 1) (c :: r) = readNumber? (c :: r) := by
  have hne : ∀ d ∈ ['"', '[', '\x7b', 'n', 't', 'f'], c ≠ d := by
    intro d hd
    have hall : ∀ d ∈ ['"', '[', '\x7b', 'n', 't', 'f'], d.isDigit = false := by simp [Char.isDigit]
    exact ne_of_isDigit h (hall d hd)
  simp only [List.forall_mem_cons, List.not_mem_nil, false_implies, implies_true, and_true] at hne
  obtain ⟨hquote, harray, hobject, hn, ht, hf⟩ := hne
  rw [readValue, skipBlanks_of_not_isBlank (isBlank_of_isDigit h)]
  simp [hquote, harray, hobject, hn, ht, hf]

theorem readValue_of_numberText {text rest : List Char} {j : Json} (h : NumberText text j)
    (hrest : Delimited rest) (fuel : Nat) :
    readValue (fuel + 1) (text ++ rest) = some (j, rest) := by
  have hread := h.readNumber? hrest
  obtain ⟨c, r, rfl, hc⟩ := h.exists_head
  rw [List.cons_append, readValue_of_isDigit hc]
  exact hread

/-- After its start, an array that is not closed at once has items. -/
theorem readValue_array {r r' : List Char} {c : Char} (h : skipBlanks r = c :: r') (hc : c ≠ ']')
    (fuel : Nat) :
    readValue (fuel + 1) ('[' :: r) = readItems fuel r [] := by
  rw [readValue, skipBlanks_of_not_isBlank (by rfl), ← readItems_skipBlanks fuel r]
  simp [h, hc]

/-- After its start, an object that is not closed at once has members. -/
theorem readValue_object {r r' : List Char} {c : Char} (h : skipBlanks r = c :: r')
    (hc : c ≠ '\x7d') (fuel : Nat) :
    readValue (fuel + 1) ('\x7b' :: r) = readMembers fuel r [] := by
  rw [readValue, skipBlanks_of_not_isBlank (by rfl), ← readMembers_skipBlanks fuel r]
  simp [h, hc]

theorem exists_skipBlanks_prettyItems {i : Json} (hi : Legible i) (is : List Json) (depth : Nat)
    (tail : List Char) :
    ∃ c r, skipBlanks (prettyItems depth (i :: is) ++ tail) = c :: r ∧ c ≠ ']' := by
  obtain ⟨c, r, hcr, hblank, hc⟩ := hi.exists_head depth
  cases is with
  | nil =>
    rw [prettyItems, List.append_assoc, skipBlanks_newLine, hcr, List.cons_append,
      skipBlanks_of_not_isBlank hblank]
    exact ⟨c, _, rfl, hc⟩
  | cons j js =>
    rw [prettyItems, List.append_assoc, List.append_assoc, skipBlanks_newLine, hcr,
      List.cons_append, skipBlanks_of_not_isBlank hblank]
    · exact ⟨c, _, rfl, hc⟩
    · exact List.cons_ne_nil _ _

theorem exists_skipBlanks_prettyMembers (m : String × Json) (ms : List (String × Json))
    (depth : Nat) (tail : List Char) :
    ∃ r, skipBlanks (prettyMembers depth (m :: ms) ++ tail) = '"' :: r := by
  cases ms with
  | nil =>
    rw [prettyMembers, List.append_assoc, List.append_assoc, skipBlanks_newLine, writeString,
      List.cons_append, skipBlanks_of_not_isBlank (by rfl)]
    exact ⟨_, rfl⟩
  | cons n ms =>
    rw [prettyMembers, List.append_assoc, List.append_assoc, skipBlanks_newLine, writeString,
      List.cons_append, skipBlanks_of_not_isBlank (by rfl)]
    · exact ⟨_, rfl⟩
    · exact List.cons_ne_nil _ _

/-- Nothing is written without a character, so there is some fuel. -/
theorem Legible.readsBack_of_succ {j : Json} (hj : Legible j)
    (h : ∀ (depth fuel : Nat) (rest : List Char), Delimited rest →
      (prettyChars depth j).length ≤ fuel + 1 →
      readValue (fuel + 1) (prettyChars depth j ++ rest) = some (j, rest)) : ReadsBack j := by
  intro depth fuel rest hrest hfuel
  cases fuel with
  | zero =>
    obtain ⟨c, r, hcr, -⟩ := hj.exists_head depth
    simp [hcr] at hfuel
  | succ fuel => exact h depth fuel rest hrest hfuel

/-- Every value whose numbers can be read back is read back. -/
theorem readsBack_of_legible {j : Json} (h : Legible j) : ReadsBack j := by
  induction h with
  | null =>
    exact Legible.null.readsBack_of_succ fun _ _ rest _ _ => readWord?_append "null" .null rest
  | bool b =>
    refine (Legible.bool b).readsBack_of_succ fun _ _ rest _ _ => ?_
    cases b with
    | true => exact readWord?_append "true" (.bool true) rest
    | false => exact readWord?_append "false" (.bool false) rest
  | natural hn =>
    refine (Legible.natural hn).readsBack_of_succ fun _ fuel _ hrest _ => ?_
    rw [prettyChars, Nat.toList_repr]
    exact readValue_of_numberText (numberText_natural hn) hrest fuel
  | number hx =>
    refine (Legible.number hx).readsBack_of_succ fun _ fuel _ hrest _ => ?_
    rw [prettyChars]
    exact readValue_of_numberText hx hrest fuel
  | string s =>
    refine (Legible.string s).readsBack_of_succ fun depth fuel rest _ _ => ?_
    have hread := readString?_writeString s rest
    rw [prettyChars, writeString, List.cons_append, List.append_assoc, readValue,
      skipBlanks_of_not_isBlank (by rfl)]
    simp only [List.singleton_append, hread, Option.map_some]
  | @array items hitems ih =>
    refine (Legible.array hitems).readsBack_of_succ fun depth fuel rest _ hfuel => ?_
    cases items with
    | nil => rfl
    | cons i is =>
      obtain ⟨c, r, hskip, hc⟩ :=
        exists_skipBlanks_prettyItems (hitems i List.mem_cons_self) is (depth + 1)
        (newLine depth ++ ']' :: rest)
      simp only [prettyChars, List.length_cons, List.length_append, List.cons_append,
        List.append_assoc, List.nil_append] at hfuel ⊢
      rw [readValue_array hskip hc, readItems_prettyItems i is ih depth rest [] (by omega)]
      rfl
  | @object members hmembers ih =>
    refine (Legible.object hmembers).readsBack_of_succ fun depth fuel rest _ hfuel => ?_
    cases members with
    | nil => rfl
    | cons m ms =>
      obtain ⟨r, hskip⟩ :=
        exists_skipBlanks_prettyMembers m ms (depth + 1) (newLine depth ++ '\x7d' :: rest)
      simp only [prettyChars, List.length_cons, List.length_append, List.cons_append,
        List.append_assoc, List.nil_append] at hfuel ⊢
      rw [readValue_object hskip (by decide),
        readMembers_prettyMembers m ms ih depth rest [] (by omega)]
      rfl

/-- A value on several lines is read back from its text, also with a line end after it. -/
theorem parse?_pretty {j : Json} (h : Legible j) : parse? (j.pretty ++ "\n") = some j := by
  have htext : (j.pretty ++ "\n").toList = prettyChars 0 j ++ ['\n'] := by
    simp [pretty]
  have hrest : Delimited ['\n'] := by
    rintro c ⟨⟩
    decide
  have hread :=
    readsBack_of_legible h 0 ((prettyChars 0 j ++ ['\n']).length + 1) ['\n'] hrest (by simp; omega)
  rw [parse?]
  simp only [htext, hread]
  rfl

end Json

end PythonAudit
