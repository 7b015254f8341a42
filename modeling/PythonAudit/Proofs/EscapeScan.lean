import Mathlib.Algebra.Order.BigOperators.Group.List
import PythonAudit.Proofs.Spelling

/-!
# Texts read from left to right

Any text at all can stand between the quotes of a literal. It is read from left to right: where an
escape starts it is taken as a whole, and every other character stands for itself.

* `Escape body value` lists the escapes: what stands after the backslash, and what it stands for;
* `escape?_of_isLongest` and `exists_isLongest_of_escape?` say that `escape?` finds the longest
  escape at the head of a text, and `escape?_eq_none_iff` that it finds none only when none is
  there;
* `Piece` is an escape or a character that stands for itself, and `Pieces text ps` says that a text
  is read as the pieces `ps`; every text is read in exactly one way (`exists_pieces`,
  `Pieces.unique`);
* `Pieces.unescape_eq` says that the pieces are replaced by what they stand for;
* `length_values_le` and `values_eq_of_length_eq` compare the lengths;
* `decode_of_any_text` collects this for all texts.
-/

namespace PythonAudit

namespace Literal

/-! ### Digits at the head of a text -/

theorem leadingDigits_cons (digit? : Char → Option Nat) (limit : Nat) (c : Char) (cs : List Char) :
    leadingDigits digit? (limit + 1) (c :: cs) =
      (digit? c).elim [] fun k => k :: leadingDigits digit? limit cs := by
  unfold leadingDigits
  cases h : digit? c <;> simp [h, List.reduceOption_cons_of_some]

/-- The digits that are read stand at the head of the text, and they end at the limit or before
something else. -/
theorem exists_leadingDigits (digit? : Char → Option Nat) (limit : Nat) (cs : List Char) :
    ∃ ds rest, cs = ds ++ rest ∧ ds.map digit? = (leadingDigits digit? limit cs).map some ∧
      (ds.length = limit ∨ ds.length ≤ limit ∧ ∀ c ∈ rest.head?, digit? c = none) := by
  induction limit generalizing cs with
  | zero => exact ⟨[], cs, rfl, by simp [leadingDigits], Or.inl rfl⟩
  | succ limit ih =>
    cases cs with
    | nil => exact ⟨[], [], rfl, by simp [leadingDigits], Or.inr ⟨by simp, by simp⟩⟩
    | cons c cs =>
      rw [leadingDigits_cons]
      cases hc : digit? c with
      | none => exact ⟨[], c :: cs, rfl, rfl, Or.inr ⟨by simp, by simpa using hc⟩⟩
      | some k =>
        obtain ⟨ds, rest, rfl, hds, hend⟩ := ih cs
        refine ⟨c :: ds, rest, rfl, by simp [hc, hds], ?_⟩
        rcases hend with hfull | ⟨hle, hnone⟩
        · exact Or.inl (by simp [hfull])
        · exact Or.inr ⟨by simpa using hle, hnone⟩

/-- A reader of digits knows nothing but the digits of a base. -/
def ReadsOnly (base : Nat) (digit? : Char → Option Nat) : Prop :=
  ∀ c k, digit? c = some k → k < base ∧ IsDigit c k

theorem readsOnly_octalDigit? : ReadsOnly 8 octalDigit? := fun _ _ => isDigit_of_octalDigit?

theorem readsOnly_hexDigit? : ReadsOnly 16 hexDigit? := by
  have hdigits : ∀ n < 128, ∀ k ∈ hexDigit? (Char.ofNat n), k < 16 ∧
      IsDigit (Char.ofNat n) k := by decide
  intro c k hk
  have hlow : c.toNat < 128 := by
    by_contra hhigh
    have hbeyond : ∀ d : Char, d.toNat < 128 → ¬ c ≤ d := by
      intro d hd hcd
      have hle : c.toNat ≤ d.toNat := hcd
      omega
    have hnone : hexDigit? c = none := by
      simp [hexDigit?, hbeyond '9' (by decide), hbeyond 'f' (by decide), hbeyond 'F' (by decide)]
    rw [hnone] at hk
    cases hk
  have hc := hdigits c.toNat hlow k
  rw [Char.ofNat_toNat] at hc
  exact hc hk

namespace Numeral

variable {base m n : Nat} {ds es : List Char}

/-- Digits that are read write the number that they are read as. -/
theorem of_map {digit? : Char → Option Nat} (honly : ReadsOnly base digit?) {vs : List Nat}
    (h : ds.map digit? = vs.map some) : Numeral base ds (ofDigits base vs) := by
  have hread : List.Forall₂ (fun c v => digit? c = some v) ds vs := by
    have heq : List.Forall₂ (· = ·) (ds.map digit?)
        (vs.map some) := by rw [h, List.forall₂_eq_eq_eq]
    rwa [List.forall₂_map_left_iff, List.forall₂_map_right_iff] at heq
  refine ⟨vs, hread.imp fun c v hc => (honly c v hc).2, fun v hv => ?_, (ofDigits_eq base vs).symm⟩
  obtain ⟨c, -, hc⟩ := List.mem_map.1 (h ▸ List.mem_map_of_mem hv)
  exact (honly c v hc).1

theorem lt_pow (hbase : 1 < base) (h : Numeral base ds n) : n < base ^ ds.length := by
  obtain ⟨vs, hdigits, hvs, rfl⟩ := h
  have hlt := Nat.ofDigits_lt_base_pow_length hbase (l := vs.reverse) (by simpa using hvs)
  rwa [List.length_reverse, ← hdigits.length_eq] at hlt

/-- More digits after the digits of a number write another number. -/
theorem exists_append (h : Numeral base ds m) (h' : Numeral base es n) :
    ∃ k, Numeral base (ds ++ es) k := by
  obtain ⟨vs, hds, hvs, -⟩ := h
  obtain ⟨ws, hes, hws, -⟩ := h'
  refine ⟨_, vs ++ ws, List.rel_append hds hes, fun v hv => ?_, rfl⟩
  rcases List.mem_append.1 hv with hv | hv
  · exact hvs v hv
  · exact hws v hv

/-- Every digit of a numeral is one. -/
theorem isDigit_of_mem (h : Numeral base ds n) {c : Char} (hc : c ∈ ds) :
    ∃ k < base, IsDigit c k := by
  obtain ⟨vs, hdigits, hvs, -⟩ := h
  obtain ⟨i, hi, rfl⟩ := List.getElem_of_mem hc
  have hi' : i < vs.length := hdigits.length_eq ▸ hi
  exact ⟨vs[i], hvs _ (List.getElem_mem hi'), hdigits.get hi hi'⟩

end Numeral

theorem toNat_of_charOfCode? {n : Nat} {c : Char} (h : charOfCode? n = some c) : c.toNat = n := by
  unfold charOfCode? at h
  split_ifs at h with hvalid
  rw [← Option.some.inj h, Char.ofNat, dif_pos hvalid]
  rfl

/-- The character that hexadecimal digits name is the one whose code they write. -/
theorem exists_numeral_of_hexEscape? {count : Nat} {r : List Char} {c : Char}
    (h : hexEscape? count r = some c) :
    ∃ ds rest, r = ds ++ rest ∧ ds.length = count ∧ Numeral 16 ds c.toNat := by
  obtain ⟨ds, rest, hr, hds, -⟩ := exists_leadingDigits hexDigit? count r
  simp only [hexEscape?] at h
  split_ifs at h with hcount
  refine ⟨ds, rest, hr, ?_, ?_⟩
  · rw [← hcount]
    simpa using congrArg List.length hds
  · rw [toNat_of_charOfCode? h]
    exact Numeral.of_map readsOnly_hexDigit? hds

/-- Octal digits can be followed by more of them, three in all at most, and then they name a
character. -/
theorem exists_octal_end {ds : List Char} {n : Nat} (h : Numeral 8 ds n) (hlength : ds.length ≤ 3)
    (rest : List Char) :
    ∃ es rest' c, rest = es ++ rest' ∧ Numeral 8 (ds ++ es) (Char.toNat c) ∧
      ((ds ++ es).length = 3 ∨ (ds ++ es).length ≤ 3 ∧ ∀ d ∈ rest'.head?,
        octalDigit? d = none) := by
  obtain ⟨es, rest', hrest, hes, hend⟩ := exists_leadingDigits octalDigit? (3 - ds.length) rest
  obtain ⟨k, hk⟩ := h.exists_append (Numeral.of_map readsOnly_octalDigit? hes)
  have hlength' : (ds ++ es).length ≤ 3 := by
    rw [List.length_append]
    omega
  have hlt : k < 512 := (hk.lt_pow (by decide)).trans_le (Nat.pow_le_pow_right (by decide) hlength')
  have hchar : charOfCode? k = some (Char.ofNat k) := if_pos (Or.inl (by omega))
  refine ⟨es, rest', Char.ofNat k, hrest, ?_, ?_⟩
  · rwa [toNat_of_charOfCode? hchar]
  · rw [List.length_append]
    rcases hend with hfull | ⟨-, hnone⟩
    · exact Or.inl (by omega)
    · exact Or.inr ⟨by simpa using hlength', hnone⟩

/-! ### Escapes -/

/-- The escapes: what stands after the backslash, and what it stands for. -/
inductive Escape : List Char → List Char → Prop
  | lineEnd : Escape ['\n'] []
  | letter {l c : Char} : (l, c) ∈ letters → Escape [l] [c]
  | hexadecimal {l c : Char} {ds : List Char} :
      (l, ds.length) ∈ hexWidths → Numeral 16 ds c.toNat → Escape (l :: ds) [c]
  | octal {c : Char} {ds : List Char} : ds ≠ [] → ds.length ≤ 3 →
      Numeral 8 ds c.toNat → Escape ds [c]

/-- No escape at the head of a text is longer than the given one. -/
def IsLongest (body text : List Char) : Prop :=
  ∀ body' value, Escape body' value → body' <+: text → body'.length ≤ body.length

theorem mem_letters_of_letterEscape? {l c : Char} (h : letterEscape? l = some c) :
    (l, c) ∈ letters := by
  unfold letterEscape? at h
  split at h <;> cases h <;> decide

/-- An escape at the head of a text is found, or a longer one. -/
theorem Escape.exists_escape? {body value : List Char} (h : Escape body value) (r : List Char) :
    ∃ value' n, escape? (body ++ r) = some (value', n) ∧ body.length ≤ n := by
  cases h with
  | lineEnd => exact ⟨[], 1, rfl, le_rfl⟩
  | @letter l c hl => exact ⟨[c], 1, escape?_letter hl r, le_rfl⟩
  | @hexadecimal l c ds hl hds => exact ⟨[c], ds.length + 1, escape?_hexadecimal hds hl r, le_rfl⟩
  | octal hne hlength hds =>
    obtain ⟨es, rest, d, rfl, hmore, hend⟩ := exists_octal_end hds hlength r
    refine ⟨[d], (body ++ es).length, ?_, by simp⟩
    rw [← List.append_assoc]
    exact escape?_octal hmore (by simp [hne]) hend

/-- The longest escape at the head of a text is found. -/
theorem escape?_of_isLongest {body value r : List Char} (h : Escape body value)
    (hlongest : IsLongest body (body ++ r)) : escape? (body ++ r) = some (value, body.length) := by
  cases h with
  | lineEnd => rfl
  | letter hl => exact escape?_letter hl r
  | hexadecimal hl hds => exact escape?_hexadecimal hds hl r
  | octal hne hlength hds =>
    -- the digits that follow would make a longer escape
    obtain ⟨es, rest, d, rfl, hmore, hend⟩ := exists_octal_end hds hlength r
    have hlength' := hend.elim Nat.le_of_eq And.left
    have hle := hlongest _ _ (Escape.octal (by simp [hne]) hlength' hmore) (by simp)
    obtain rfl : es = [] := by simpa using hle
    rw [List.append_nil] at hend
    exact escape?_octal hds hne hend

/-- Hexadecimal digits that name a character are an escape with the letter before them. -/
theorem exists_escape_of_hexEscape? {l c : Char} {count : Nat} {s : List Char}
    (hl : (l, count) ∈ hexWidths) (h : hexEscape? count s = some c) :
    ∃ body rest, l :: s = body ++ rest ∧ body.length = count + 1 ∧ Escape body [c] := by
  obtain ⟨ds, rest, rfl, rfl, hds⟩ := exists_numeral_of_hexEscape? h
  exact ⟨l :: ds, rest, rfl, rfl, Escape.hexadecimal hl hds⟩

/-- Octal digits that name a character are an escape. -/
theorem exists_escape_of_octal {c : Char} {cs : List Char}
    (hne : leadingDigits octalDigit? 3 cs ≠ [])
    (h : charOfCode? (ofDigits 8 (leadingDigits octalDigit? 3 cs)) = some c) :
    ∃ body rest, cs = body ++ rest ∧ body.length = (leadingDigits octalDigit? 3 cs).length ∧
      Escape body [c] := by
  obtain ⟨ds, rest, hcs, hds, hend⟩ := exists_leadingDigits octalDigit? 3 cs
  have hlength : ds.length = (leadingDigits octalDigit? 3 cs).length := by
    simpa using congrArg List.length hds
  refine ⟨ds, rest, hcs, hlength, Escape.octal ?_ (hend.elim Nat.le_of_eq And.left) ?_⟩
  · rintro rfl
    exact hne (List.length_eq_zero_iff.1 hlength.symm)
  · rw [toNat_of_charOfCode? h]
    exact Numeral.of_map readsOnly_octalDigit? hds

/-- What is found is an escape at the head of the text. -/
theorem exists_escape_of_escape? {r value : List Char} {n : Nat} (h : escape? r = some (value, n)) :
    ∃ body rest, r = body ++ rest ∧ body.length = n ∧ Escape body value := by
  cases r with
  | nil => cases h
  | cons c s =>
    simp only [escape?] at h
    split_ifs at h with hline hx hu hU
    · cases h
      exact ⟨[c], s, rfl, rfl, hline ▸ Escape.lineEnd⟩
    · obtain ⟨d, hd, heq⟩ := Option.map_eq_some_iff.1 h
      cases heq
      exact exists_escape_of_hexEscape? (by simp [hx, hexWidths]) hd
    · obtain ⟨d, hd, heq⟩ := Option.map_eq_some_iff.1 h
      cases heq
      exact exists_escape_of_hexEscape? (by simp [hu, hexWidths]) hd
    · obtain ⟨d, hd, heq⟩ := Option.map_eq_some_iff.1 h
      cases heq
      exact exists_escape_of_hexEscape? (by simp [hU, hexWidths]) hd
    · split at h
      next =>
        obtain ⟨d, hd, heq⟩ := Option.map_eq_some_iff.1 h
        cases heq
        exact ⟨[c], s, rfl, rfl, Escape.letter (mem_letters_of_letterEscape? hd)⟩
      next vs hne =>
        obtain ⟨d, hd, heq⟩ := Option.map_eq_some_iff.1 h
        cases heq
        exact exists_escape_of_octal hne hd

/-- What is found is the longest escape at the head of the text. -/
theorem exists_isLongest_of_escape? {r value : List Char} {n : Nat}
    (h : escape? r = some (value, n)) :
    ∃ body rest, r = body ++ rest ∧ body.length = n ∧ Escape body value ∧ IsLongest body r := by
  obtain ⟨body, rest, hr, hlength, hescape⟩ := exists_escape_of_escape? h
  refine ⟨body, rest, hr, hlength, hescape, ?_⟩
  rintro body' value' hescape' ⟨rest', rfl⟩
  obtain ⟨value'', n', hfound, hle⟩ := hescape'.exists_escape? rest'
  rw [h] at hfound
  cases hfound
  omega

/-- Nothing is found only when no escape is at the head of the text. -/
theorem escape?_eq_none_iff (r : List Char) :
    escape? r = none ↔ ∀ body value, Escape body value → ¬ body <+: r := by
  constructor
  · rintro hnone body value hescape ⟨rest, rfl⟩
    obtain ⟨value', n, hfound, -⟩ := hescape.exists_escape? rest
    rw [hnone] at hfound
    cases hfound
  · intro hno
    cases hfound : escape? r with
    | none => rfl
    | some found =>
      obtain ⟨value, n⟩ := found
      obtain ⟨body, rest, rfl, -, hescape⟩ := exists_escape_of_escape? hfound
      exact absurd (List.prefix_append body rest) (hno body _ hescape)

namespace Escape

variable {body value value' : List Char}

theorem value_unique (h : Escape body value) (h' : Escape body value') : value = value' := by
  have hlongest : IsLongest body (body ++ []) := by
    intro body' _ _ hhead
    simpa using hhead.length_le
  have heq := (escape?_of_isLongest h hlongest).symm.trans (escape?_of_isLongest h' hlongest)
  simpa using heq

theorem length_value_le (h : Escape body value) : value.length ≤ body.length := by
  cases h with
  | lineEnd => simp
  | letter => simp
  | hexadecimal => simp
  | octal hne => simpa [Nat.one_le_iff_ne_zero] using hne

/-- An escape stands for one character at most. -/
theorem value_eq_of_mem (h : Escape body value) {c : Char} (hc : c ∈ value) : value = [c] := by
  cases h <;> simp_all

end Escape

/-! ### Pieces of a text -/

/-- A piece of a text: a character that stands for itself, or an escape. -/
inductive Piece where
  | plain (c : Char)
  | escape {body value : List Char} (recognised : Escape body value)

namespace Piece

/-- The characters of a piece as they are written. -/
def source : Piece → List Char
  | plain c => [c]
  | @escape body _ _ => '\\' :: body

/-- What a piece stands for. -/
def value : Piece → List Char
  | plain c => [c]
  | @escape _ value _ => value

end Piece

/-- The text is read from left to right as the given pieces. A backslash stands for itself only when
no escape follows it, and an escape takes in as much as it can. -/
inductive Pieces : List Char → List Piece → Prop
  | nil : Pieces [] []
  | plain {c : Char} {r : List Char} {ps : List Piece} :
      (c = '\\' → ∀ body value, Escape body value → ¬ body <+: r) → Pieces r ps →
        Pieces (c :: r) (.plain c :: ps)
  | escape {body value r : List Char} {ps : List Piece} (h : Escape body value) :
      IsLongest body (body ++ r) → Pieces r ps → Pieces ('\\' :: (body ++ r)) (.escape h :: ps)

/-- Every text can be read. -/
theorem exists_pieces (text : List Char) : ∃ ps, Pieces text ps := by
  induction text using unescape.induct with
  | case1 => exact ⟨[], Pieces.nil⟩
  | case2 r value n hfound ih =>
    obtain ⟨ps, hps⟩ := ih
    obtain ⟨body, rest, rfl, rfl, hescape, hlongest⟩ := exists_isLongest_of_escape? hfound
    rw [List.drop_left] at hps
    exact ⟨_, Pieces.escape hescape hlongest hps⟩
  | case3 r hnone ih =>
    obtain ⟨ps, hps⟩ := ih
    exact ⟨_, Pieces.plain (fun _ => (escape?_eq_none_iff r).1 hnone) hps⟩
  | case4 c r hc ih =>
    obtain ⟨ps, hps⟩ := ih
    exact ⟨_, Pieces.plain (fun hbackslash => absurd hbackslash hc) hps⟩

namespace Pieces

variable {text : List Char} {ps : List Piece}

theorem source_eq (h : Pieces text ps) : ps.flatMap Piece.source = text := by
  induction h with
  | nil => rfl
  | plain _ _ ih => simp [Piece.source, ih]
  | escape _ _ _ ih => simp [Piece.source, ih]

/-- The pieces of a text are replaced by what they stand for. -/
theorem unescape_eq (h : Pieces text ps) : unescape text = ps.flatMap Piece.value := by
  induction h with
  | nil => rw [unescape, List.flatMap_nil]
  | @plain c r ps hno _ ih =>
    rw [List.flatMap_cons, ← ih]
    by_cases hc : c = '\\'
    · rw [hc, unescape, if_pos rfl, (escape?_eq_none_iff r).2 (hno hc)]
      rfl
    · exact unescape_cons_of_ne hc r
  | escape hescape hlongest _ ih =>
    rw [unescape_of_escape? (escape?_of_isLongest hescape hlongest), List.drop_left,
      List.flatMap_cons, ← ih]
    rfl

/-- A text is read in one way only. -/
theorem unique (h : Pieces text ps) {qs : List Piece} (h' : Pieces text qs) : ps = qs := by
  induction h generalizing qs with
  | nil =>
    cases h'
    rfl
  | plain hno _ ih =>
    cases h' with
    | plain _ hrest => rw [ih hrest]
    | escape hescape _ _ => exact absurd (List.prefix_append _ _) (hno rfl _ _ hescape)
  | @escape body value r ps hescape hlongest _ ih =>
    generalize htext : '\\' :: (body ++ r) = text at h'
    cases h' with
    | nil => cases htext
    | plain hno _ =>
      cases htext
      exact absurd (List.prefix_append _ _) (hno rfl _ _ hescape)
    | @escape body' value' r' qs hescape' hlongest' hrest =>
      have hsame : body ++ r = body' ++ r' := (List.cons.inj htext).2
      -- both escapes are the one that is found
      have hfound := escape?_of_isLongest hescape hlongest
      rw [hsame, escape?_of_isLongest hescape' hlongest', Option.some.injEq,
        Prod.mk.injEq] at hfound
      obtain ⟨rfl, hlength⟩ := hfound
      obtain ⟨rfl, rfl⟩ := List.append_inj hsame hlength.symm
      rw [ih hrest]

end Pieces

/-! ### Lengths -/

theorem Piece.length_value_le (p : Piece) : p.value.length ≤ p.source.length := by
  cases p with
  | plain c => exact le_rfl
  | escape h => exact h.length_value_le.trans (Nat.le_succ _)

/-- A piece that is as long as what it stands for stands for itself. -/
theorem Piece.value_eq_of_length_eq {p : Piece} (h : p.value.length = p.source.length) :
    p.value = p.source := by
  cases p with
  | plain c => rfl
  | @escape body value hescape =>
    have hle := hescape.length_value_le
    simp only [Piece.value, Piece.source, List.length_cons] at h
    omega

theorem length_values_le (ps : List Piece) :
    (ps.flatMap Piece.value).length ≤ (ps.flatMap Piece.source).length := by
  rw [List.length_flatMap, List.length_flatMap]
  exact List.sum_le_sum fun p _ => p.length_value_le

theorem values_eq_of_length_eq {ps : List Piece}
    (h : (ps.flatMap Piece.value).length = (ps.flatMap Piece.source).length) :
    ps.flatMap Piece.value = ps.flatMap Piece.source := by
  induction ps with
  | nil => rfl
  | cons p ps ih =>
    -- neither the first piece nor the others can make up for what is lost elsewhere
    have hp := p.length_value_le
    have hps := length_values_le ps
    simp only [List.flatMap_cons, List.length_append] at h ⊢
    rw [Piece.value_eq_of_length_eq (p := p) (by omega), ih (by omega)]

/-! ### The replacement character -/

/-- The characters write the replacement character: it stands there itself, or its code does in four
or eight hexadecimal digits. -/
def SpellsReplacement (w : List Char) : Prop :=
  w = ['\uFFFD'] ∨
    ∃ l ds, (l, ds.length) ∈ [('u', 4), ('U', 8)] ∧ Numeral 16 ds 0xFFFD ∧ w = '\\' :: l :: ds

/-- No escape stands for the replacement character but those that write its code. -/
theorem Escape.spellsReplacement {body : List Char} (h : Escape body ['\uFFFD']) :
    SpellsReplacement ('\\' :: body) := by
  cases h with
  | letter hl => simp [letters] at hl
  | @hexadecimal l _ ds hl hds =>
    refine Or.inr ⟨l, ds, ?_, hds, rfl⟩
    -- two digits are not enough
    have hlt : 0xFFFD < 16 ^ ds.length := hds.lt_pow (by decide)
    simp only [hexWidths, List.mem_cons, Prod.mk.injEq, List.not_mem_nil, or_false] at hl ⊢
    rcases hl with ⟨-, htwo⟩ | hu | hU
    · rw [htwo] at hlt
      omega
    · exact Or.inl hu
    · exact Or.inr hU
  | octal _ hlength hds =>
    have hlt : 0xFFFD < 8 ^ body.length := hds.lt_pow (by decide)
    have hle : 8 ^ body.length ≤ 8 ^ 3 := Nat.pow_le_pow_right (by decide) hlength
    omega

theorem Piece.mem_value_iff (p : Piece) : '\uFFFD' ∈ p.value ↔ SpellsReplacement p.source := by
  cases p with
  | plain c => simp [Piece.value, Piece.source, SpellsReplacement, eq_comm]
  | @escape body value h =>
    constructor
    · intro hmem
      obtain rfl := h.value_eq_of_mem hmem
      exact h.spellsReplacement
    · rintro (hitself | ⟨l, ds, hl, hds, hsource⟩)
      · simp [Piece.source] at hitself
      · obtain rfl : body = l :: ds := (List.cons.inj hsource).2
        have hwidth : (l, ds.length) ∈ hexWidths := List.mem_cons_of_mem _ hl
        rw [Piece.value, h.value_unique (Escape.hexadecimal (c := '\uFFFD') hwidth hds)]
        exact List.mem_singleton_self _

/-- **Any text is decoded, and what is no escape stays as it is.** There is one way to read the text
as escapes and other characters. -/
theorem decode_of_any_text (f : Form) (hraw : f.raw = false) (body : String) :
    (∃ ps, (∀ qs, Pieces body.toList qs ↔ qs = ps) ∧
      body.toList = ps.flatMap Piece.source ∧ (f.decode body).toList = ps.flatMap Piece.value ∧
      ('\uFFFD' ∈ (f.decode body).toList ↔ ∃ p ∈ ps, SpellsReplacement p.source)) ∧
    (f.decode body).length ≤ body.length ∧
      ((f.decode body).length = body.length → f.decode body = body) := by
  obtain ⟨ps, hps⟩ := exists_pieces body.toList
  have hsource := hps.source_eq
  have hvalue : (f.decode body).toList = ps.flatMap Piece.value := by
    rw [Form.decode, hraw, ← hps.unescape_eq]
    exact String.toList_ofList
  refine ⟨⟨ps, fun qs => ⟨fun hqs => hqs.unique hps, fun hqs => hqs ▸ hps⟩, hsource.symm,
    hvalue, ?_⟩, ?_, ?_⟩
  · simp only [hvalue, List.mem_flatMap, Piece.mem_value_iff]
  · rw [← String.length_toList, ← String.length_toList, hvalue, ← hsource]
    exact length_values_le ps
  · intro hlength
    rw [← String.length_toList, ← String.length_toList, hvalue, ← hsource] at hlength
    rw [← String.toList_inj, hvalue, ← hsource]
    exact values_eq_of_length_eq hlength

/-- Escapes that end too early, name no character or are not known, a line end and two escapes
between them, and a backslash at the end. -/
def malformedText : String := "\\x4\\ud800\\U00110000\\N\x7bDASH\x7d\\q\\8\\\n\\101\\uFfFd\\"

/-- Of all this only the line end and the two escapes are read. -/
theorem decode_malformedText :
    ({} : Form).raw = false ∧
      ({} : Form).decode malformedText = "\\x4\\ud800\\U00110000\\N\x7bDASH\x7d\\q\\8A\uFFFD\\" ∧
      (({} : Form).decode malformedText).length ≤ malformedText.length ∧
      ∃ ps, Pieces malformedText.toList ps ∧
        (({} : Form).decode malformedText).toList = ps.flatMap Piece.value ∧
        ∃ p ∈ ps, SpellsReplacement p.source := by
  obtain ⟨⟨ps, hps, -, hvalue, hreplacement⟩, hlength, -⟩ := decode_of_any_text {} rfl malformedText
  exact ⟨rfl, by decide +kernel, hlength, ps, (hps ps).2 rfl, hvalue,
    hreplacement.1 (by decide +kernel)⟩

end Literal

end PythonAudit
