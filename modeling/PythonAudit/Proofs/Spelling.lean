import Mathlib.Data.List.ReduceOption
import Mathlib.Data.Nat.Digits.Defs
import Mathlib.Tactic
import PythonAudit.Literal.Form

/-!
# Spellings of a text

A character of a literal can be written in many ways, and the ways can be mixed from one character
to the next.

* `Numeral base ds n` says that the digits `ds`, in either case, write `n`, and
  `leadingDigits_of_numeral` that they are read from the head of a text;
* `Spelling rest c w` lists the ways `w` to write the character `c` in front of the text `rest`;
* `Spelled text body` says that `body` spells `text` character by character, with line ends after a
  backslash anywhere between;
* `unescape_spelling` is the step: one spelling is read as one character, and nothing of the rest is
  touched;
* `decode_of_spelled` says that every spelling of a text is decoded to it.
-/

namespace PythonAudit

namespace Literal

/-! ### Digits -/

/-- The character is the digit with a value, in either case. -/
def IsDigit (c : Char) (value : Nat) : Prop :=
  c = Nat.digitChar value ∨ c = (Nat.digitChar value).toUpper
deriving Decidable

/-- The characters are digits in a base that write a number, the most significant digit first. -/
def Numeral (base : Nat) (ds : List Char) (n : Nat) : Prop :=
  ∃ vs : List Nat, List.Forall₂ IsDigit ds vs ∧ (∀ v ∈ vs, v < base) ∧
    Nat.ofDigits base vs.reverse = n

/-- A reader of digits knows all digits of a base. -/
def Reads (base : Nat) (digit? : Char → Option Nat) : Prop :=
  ∀ k < base, ∀ c, IsDigit c k → digit? c = some k

theorem reads_hexDigit? : Reads 16 hexDigit? := by
  have hdigits : ∀ k < 16, hexDigit? (Nat.digitChar k) = some k ∧
      hexDigit? (Nat.digitChar k).toUpper = some k := by
    decide
  rintro k hk c (rfl | rfl)
  · exact (hdigits k hk).1
  · exact (hdigits k hk).2

theorem reads_octalDigit? : Reads 8 octalDigit? := by
  have hdigits : ∀ k < 8, octalDigit? (Nat.digitChar k) = some k ∧
      octalDigit? (Nat.digitChar k).toUpper = some k := by
    decide
  rintro k hk c (rfl | rfl)
  · exact (hdigits k hk).1
  · exact (hdigits k hk).2

theorem isDigit_of_octalDigit? {c : Char} {k : Nat} (h : octalDigit? c = some k) :
    k < 8 ∧ IsDigit c k := by
  have hdigits : ∀ n < 56, 48 ≤ n → n - 48 < 8 ∧ Char.ofNat n = Nat.digitChar (n - 48) := by decide
  unfold octalDigit? at h
  split_ifs at h with hc
  simp only [Bool.and_eq_true, decide_eq_true_eq] at hc
  have hlow : 48 ≤ c.toNat := hc.1
  have hhigh : c.toNat ≤ 55 := hc.2
  obtain ⟨hk, hchar⟩ := hdigits c.toNat (by omega) hlow
  obtain rfl : c.toNat - 48 = k := Option.some.inj h
  exact ⟨hk, Or.inl (by rw [← hchar, Char.ofNat_toNat])⟩

theorem ofDigits_eq (base : Nat) (vs : List Nat) :
    ofDigits base vs = Nat.ofDigits base vs.reverse := by
  rw [Nat.ofDigits_eq_foldr, List.foldr_reverse, ofDigits]
  congr 1
  funext n d
  rw [Nat.cast_id, add_comm, mul_comm]

theorem map_of_forall₂ {base : Nat} {digit? : Char → Option Nat} (hreads : Reads base digit?)
    {ds : List Char} {vs : List Nat} (h : List.Forall₂ IsDigit ds vs) (hvs : ∀ v ∈ vs, v < base) :
    ds.map digit? = vs.map some := by
  induction h with
  | nil => rfl
  | @cons c v ds vs hc _ ih =>
    rw [List.forall_mem_cons] at hvs
    rw [List.map_cons, List.map_cons, hreads v hvs.1 c hc, ih hvs.2]

/-- What the digits of a numeral are read as. -/
theorem Numeral.exists_values {base : Nat} {digit? : Char → Option Nat} (hreads : Reads base digit?)
    {ds : List Char} {n : Nat} (h : Numeral base ds n) :
    ∃ vs : List Nat, ds.map digit? = vs.map some ∧ ofDigits base vs = n := by
  obtain ⟨vs, hdigits, hvs, hn⟩ := h
  exact ⟨vs, map_of_forall₂ hreads hdigits hvs, by rw [ofDigits_eq, hn]⟩

theorem leadingDigits_append {digit? : Char → Option Nat} {limit : Nat} {ds rest : List Char}
    {vs : List Nat} (hvs : ds.map digit? = vs.map some)
    (hend : ds.length = limit ∨ ds.length ≤ limit ∧ ∀ c ∈ rest.head?, digit? c = none) :
    leadingDigits digit? limit (ds ++ rest) = vs := by
  have hlength : ds.length = vs.length := by simpa using congrArg List.length hvs
  have hstop : ((rest.take (limit - ds.length)).map digit?).takeWhile Option.isSome = [] := by
    rcases hend with hfull | ⟨-, hnone⟩
    · simp [hfull]
    · cases rest with
      | nil => simp
      | cons c rest =>
        cases limit - ds.length with
        | zero => simp
        | succ m => simp [hnone c (by simp)]
  have htake : (ds ++ rest).take limit = ds ++ rest.take (limit - ds.length) := by
    rw [List.take_append, List.take_of_length_le (by omega)]
  rw [leadingDigits, htake, List.map_append, hvs, List.takeWhile_append_of_pos (by simp), hstop,
    List.append_nil]
  show (vs.map some).filterMap id = vs
  simp

/-- A numeral at the head of a text is read when it is as long as can be, or when no digit follows
it. -/
theorem leadingDigits_of_numeral {base limit n : Nat} {digit? : Char → Option Nat}
    (hreads : Reads base digit?) {ds : List Char} (h : Numeral base ds n) (rest : List Char)
    (hend : ds.length = limit ∨ ds.length ≤ limit ∧ ∀ c ∈ rest.head?, digit? c = none) :
    ofDigits base (leadingDigits digit? limit (ds ++ rest)) = n ∧
      (leadingDigits digit? limit (ds ++ rest)).length = ds.length := by
  obtain ⟨vs, hvs, hn⟩ := h.exists_values hreads
  rw [leadingDigits_append hvs hend]
  exact ⟨hn, by simpa using (congrArg List.length hvs).symm⟩

@[simp] theorem charOfCode?_toNat (c : Char) : charOfCode? c.toNat = some c := by
  have hvalid : c.toNat.isValidChar := c.valid
  rw [charOfCode?, if_pos hvalid, Char.ofNat_toNat]

theorem hexEscape?_of_numeral {ds : List Char} {c : Char} (h : Numeral 16 ds c.toNat)
    (rest : List Char) :
    hexEscape? ds.length (ds ++ rest) = some c := by
  obtain ⟨hvalue, hlength⟩ := leadingDigits_of_numeral reads_hexDigit? h rest (Or.inl rfl)
  simp [hexEscape?, hvalue, hlength]

/-! ### Spellings of a character -/

/-- The characters that have a letter or sign of their own after a backslash, each after that
one. -/
def letters : List (Char × Char) :=
  [('n', '\n'), ('r', '\r'), ('t', '\t'), ('a', '\x07'), ('b', '\x08'), ('f', '\x0c'),
    ('v', '\x0b'), ('\\', '\\'), ('\'', '\''), ('"', '"')]

/-- The letters before hexadecimal digits, with the number of these digits. -/
def hexWidths : List (Char × Nat) := [('x', 2), ('u', 4), ('U', 8)]

/-- The ways to write a character in front of a text. Less than three octal digits would take in
another octal digit that follows them. -/
inductive Spelling (rest : List Char) (c : Char) : List Char → Prop
  | itself : c ≠ '\\' → Spelling rest c [c]
  | letter {l : Char} : (l, c) ∈ letters → Spelling rest c ['\\', l]
  | octal {ds : List Char} : Numeral 8 ds c.toNat → ds.length = 3 → Spelling rest c ('\\' :: ds)
  | shortOctal {ds : List Char} : Numeral 8 ds c.toNat → ds.length = 1 ∨ ds.length = 2 →
      (∀ d ∈ rest.head?, ∀ k < 8, ¬ IsDigit d k) → Spelling rest c ('\\' :: ds)
  | hexadecimal {l : Char} {ds : List Char} : Numeral 16 ds c.toNat → (l, ds.length) ∈ hexWidths →
      Spelling rest c ('\\' :: l :: ds)

theorem unescape_of_escape? {r ds : List Char} {n : Nat} (h : escape? r = some (ds, n)) :
    unescape ('\\' :: r) = ds ++ unescape (r.drop n) := by
  rw [unescape, if_pos rfl, h]

theorem unescape_cons_of_ne {c : Char} (h : c ≠ '\\') (r : List Char) :
    unescape (c :: r) = c :: unescape r := by
  rw [unescape, if_neg h]

theorem escape?_letter {l c : Char} (h : (l, c) ∈ letters) (rest : List Char) :
    escape? (l :: rest) = some ([c], 1) := by
  have hletters : ∀ p ∈ letters,
      p.1 ∉ ['\n', 'x', 'u', 'U'] ∧ octalDigit? p.1 = none ∧ letterEscape? p.1 = some p.2 := by
    decide
  obtain ⟨hother, hoctal, hletter⟩ := hletters (l, c) h
  simp only [List.mem_cons, List.not_mem_nil, or_false, not_or] at hother
  obtain ⟨hline, hx, hu, hU⟩ := hother
  have hdigits : leadingDigits octalDigit? 3 (l :: rest) = [] := by
    simp [leadingDigits, hoctal]
  simp [escape?, hline, hx, hu, hU, hdigits, hletter]

theorem escape?_hexadecimal {l c : Char} {ds : List Char} (h : Numeral 16 ds c.toNat)
    (hwidth : (l, ds.length) ∈ hexWidths) (rest : List Char) :
    escape? (l :: (ds ++ rest)) = some ([c], ds.length + 1) := by
  have hread := hexEscape?_of_numeral h rest
  simp only [hexWidths, List.mem_cons, Prod.mk.injEq, List.not_mem_nil, or_false] at hwidth
  rcases hwidth with ⟨rfl, hn⟩ | ⟨rfl, hn⟩ | ⟨rfl, hn⟩ <;>
  · rw [hn] at hread ⊢
    simp [escape?, hread]

/-- Octal digits are read as one escape when they are three or when none follows them. -/
theorem escape?_octal {c : Char} {ds rest : List Char} (h : Numeral 8 ds c.toNat) (hne : ds ≠ [])
    (hend : ds.length = 3 ∨ ds.length ≤ 3 ∧ ∀ d ∈ rest.head?, octalDigit? d = none) :
    escape? (ds ++ rest) = some ([c], ds.length) := by
  obtain ⟨hvalue, hlength⟩ := leadingDigits_of_numeral reads_octalDigit? h rest hend
  obtain ⟨d, ds', rfl⟩ := List.exists_cons_of_ne_nil hne
  obtain ⟨vs, hvs, -⟩ := h.exists_values reads_octalDigit?
  obtain ⟨k, hk⟩ : ∃ k, octalDigit? d = some k := by
    cases vs with
    | nil => simp at hvs
    | cons k vs => exact ⟨k, (List.cons.inj hvs).1⟩
  have hother : ∀ e ∈ ['\n', 'x', 'u', 'U'], d ≠ e := by
    rintro e he rfl
    have hnone : ∀ e ∈ ['\n', 'x', 'u', 'U'], octalDigit? e = none := by simp [octalDigit?]
    rw [hnone d he] at hk
    cases hk
  simp only [List.forall_mem_cons, List.not_mem_nil, false_implies, implies_true,
    and_true] at hother
  obtain ⟨hline, hx, hu, hU⟩ := hother
  rw [List.cons_append] at hvalue hlength ⊢
  rw [escape?, if_neg hline, if_neg hx, if_neg hu, if_neg hU]
  split
  next hnil => rw [hnil] at hlength; cases hlength
  next => rw [hvalue, hlength, charOfCode?_toNat]; rfl

/-- A spelling is read as its character, and nothing of what follows is taken in. -/
theorem unescape_spelling {rest w : List Char} {c : Char} (h : Spelling rest c w) :
    unescape (w ++ rest) = c :: unescape rest := by
  cases h with
  | itself hc => exact unescape_cons_of_ne hc rest
  | letter hl => exact unescape_of_escape? (escape?_letter hl rest)
  | @octal ds hds hlength =>
    have hne : ds ≠ [] := by rintro rfl; cases hlength
    rw [List.cons_append, unescape_of_escape? (escape?_octal hds hne (Or.inl hlength)),
      List.drop_left]
    rfl
  | @shortOctal ds hds hlength hend =>
    have hne : ds ≠ [] := by rintro rfl; simp at hlength
    have hnone : ∀ d ∈ rest.head?, octalDigit? d = none := by
      intro d hd
      by_contra hsome
      obtain ⟨k, hk⟩ := Option.ne_none_iff_exists'.1 hsome
      obtain ⟨hlt, hdigit⟩ := isDigit_of_octalDigit? hk
      exact hend d hd k hlt hdigit
    rw [List.cons_append, unescape_of_escape? (escape?_octal hds hne (Or.inr ⟨by omega, hnone⟩)),
      List.drop_left]
    rfl
  | hexadecimal hds hl =>
    rw [List.cons_append, List.cons_append, unescape_of_escape? (escape?_hexadecimal hds hl rest),
      List.drop_succ_cons, List.drop_left]
    rfl

/-! ### Spellings of a text -/

/-- The second text spells the first one, with any number of line ends after a backslash between the
characters. -/
inductive Spelled : List Char → List Char → Prop
  | nil : Spelled [] []
  | continued {text body : List Char} : Spelled text body → Spelled text ('\\' :: '\n' :: body)
  | cons {c : Char} {text w body : List Char} :
      Spelling body c w → Spelled text body → Spelled (c :: text) (w ++ body)

theorem unescape_continued (body : List Char) :
    unescape ('\\' :: '\n' :: body) = unescape body := by
  have hline : escape? ('\n' :: body) = some ([], 1) := by rw [escape?, if_pos rfl]
  exact unescape_of_escape? hline

theorem unescape_of_spelled {text body : List Char} (h : Spelled text body) :
    unescape body = text := by
  induction h with
  | nil => rw [unescape]
  | continued _ ih => rw [unescape_continued, ih]
  | cons hspelling _ ih => rw [unescape_spelling hspelling, ih]

/-- **Every spelling of a text is decoded to it.** However the characters of a text are spelled one
after the other, a literal that is not raw denotes the text; a raw literal denotes what is
written. -/
theorem decode_of_spelled (f : Form) (text body : String) :
    (f.raw = false → Spelled text.toList body.toList → f.decode body = text) ∧
      (f.raw = true → f.decode body = body) := by
  constructor
  · intro hraw hspelled
    rw [Form.decode, hraw, unescape_of_spelled hspelled]
    exact String.ofList_toList
  · intro hraw
    rw [Form.decode, if_pos hraw]

/-- A text with a control character, a digit after it, a letter with an accent, a backslash before
an `n`, and a character beyond the first plane. -/
def mixedText : String := "\x011é\\n😀"

/-- One of its spellings: the digit is cut off from the octal one before it by the end of a line. -/
def mixedSpelling : String := "\\1\\\n1\\u00E9\\\\n\\U0001f600"

/-- The spellings do not run into each other, and in a raw literal none of them is one. -/
theorem decode_mixedSpelling :
    Spelled mixedText.toList mixedSpelling.toList ∧ ({} : Form).decode mixedSpelling = mixedText ∧
      ({ raw := true } : Form).decode mixedSpelling = mixedSpelling := by
  have hspelled : Spelled mixedText.toList mixedSpelling.toList :=
    .cons (w := ['\\', '1']) (.shortOctal ⟨[1], by decide⟩ (Or.inl rfl) (by rintro _ ⟨⟩; decide)) <|
    .continued <|
    .cons (w := ['1']) (.itself (by decide)) <|
    .cons (w := ['\\', 'u', '0', '0', 'E', '9'])
      (.hexadecimal ⟨[0, 0, 14, 9], by decide⟩ (by decide)) <|
    .cons (w := ['\\', '\\']) (.letter (by decide)) <|
    .cons (w := ['n']) (.itself (by decide)) <|
    .cons (w := ['\\', 'U', '0', '0', '0', '1', 'f', '6', '0', '0'])
      (.hexadecimal ⟨[0, 0, 0, 1, 15, 6, 0, 0], by decide⟩ (by decide)) <|
    .nil
  exact ⟨hspelled, (decode_of_spelled {} mixedText mixedSpelling).1 rfl hspelled,
    (decode_of_spelled { raw := true } mixedText mixedSpelling).2 rfl⟩

end Literal

end PythonAudit
