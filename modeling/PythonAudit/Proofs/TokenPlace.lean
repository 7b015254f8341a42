import PythonAudit.Proofs.Location
import PythonAudit.Strict.Lexer

/-!
# Where names are among the tokens

Reading tokens only goes forward in the text, and it goes forward by a name with every name.

* `Place.Within` says that a place lies in a text, and `Place.Reaches` that one place is reached
  from another by passing characters, which keeps it in the text and does not lower its offset;
* `Gives x P` says that all answers of a reader satisfy `P`; there is one lemma `gives_…` for each
  reader;
* `NameStep` says what one step of reading can do: it goes forward, and it gives at most one name,
  which starts where the step started;
* `names_lex` says that the names of a text start at ascending places inside it, each of them before
  a character.
-/

namespace PythonAudit

open Text

namespace Strict

/-! ### Places -/

namespace Place

/-- The place lies in a text: the text goes on from there, and the offset counts the bytes
before. -/
def Within (p : Place) (text : List Char) : Prop :=
  ∃ before, text = before ++ p.rest ∧ p.offset = byteSize before

/-- The second place is reached from the first one by passing characters. -/
def Reaches (p q : Place) : Prop := ∃ n, q = p.skip n

variable {text : List Char} {p q r : Place}

theorem next_cases (p : Place) :
    (p.rest = [] ∧ p.next = p) ∨
      ∃ passed, passed ≠ [] ∧ p.rest = passed ++ p.next.rest ∧
        p.next.offset = p.offset + byteSize passed := by
  unfold next
  split
  next h => exact Or.inl ⟨h, rfl⟩
  next r h => exact Or.inr ⟨['\r', '\n'], by simp, h, rfl⟩
  next c r _ h => exact Or.inr ⟨[c], by simp, h, by simp⟩

theorem Within.next (h : p.Within text) : p.next.Within text := by
  obtain ⟨before, htext, hoffset⟩ := h
  rcases p.next_cases with ⟨-, heq⟩ | ⟨passed, -, hrest, hnext⟩
  · rw [heq]
    exact ⟨before, htext, hoffset⟩
  · exact ⟨before ++
      passed, by rw [htext, hrest, List.append_assoc], by rw [hnext, hoffset, byteSize_append]⟩

theorem offset_le_next (p : Place) : p.offset ≤ p.next.offset := by
  rcases p.next_cases with ⟨-, heq⟩ | ⟨passed, -, -, hnext⟩
  · rw [heq]
  · omega

theorem offset_lt_next (h : p.rest ≠ []) : p.offset < p.next.offset := by
  rcases p.next_cases with ⟨hnil, -⟩ | ⟨passed, hne, -, hnext⟩
  · exact absurd hnil h
  · have hpos : 0 < byteSize passed := by
      obtain ⟨c, cs, rfl⟩ := List.exists_cons_of_ne_nil hne
      exact Nat.add_pos_left c.utf8Size_pos _
    omega

theorem skip_skip (m n : Nat) (p : Place) : (p.skip m).skip n = p.skip (m + n) := by
  induction m generalizing p with
  | zero =>
    rw [Nat.zero_add]
    rfl
  | succ m ih =>
    rw [Nat.succ_add]
    exact ih p.next

@[simp] theorem Reaches.refl (p : Place) : p.Reaches p := ⟨0, rfl⟩

theorem Reaches.trans (h : p.Reaches q) (h' : q.Reaches r) : p.Reaches r := by
  obtain ⟨m, rfl⟩ := h
  obtain ⟨n, rfl⟩ := h'
  exact ⟨m + n, skip_skip m n p⟩

@[simp] theorem Reaches.skip (h : p.Reaches q) (n : Nat) : p.Reaches (q.skip n) := h.trans ⟨n, rfl⟩

@[simp] theorem Reaches.next (h : p.Reaches q) : p.Reaches q.next := h.trans ⟨1, rfl⟩

theorem Reaches.within (h : p.Reaches q) (hp : p.Within text) : q.Within text := by
  obtain ⟨n, rfl⟩ := h
  induction n generalizing p with
  | zero => exact hp
  | succ n ih => exact ih hp.next

theorem Reaches.offset_le (h : p.Reaches q) : p.offset ≤ q.offset := by
  obtain ⟨n, rfl⟩ := h
  induction n generalizing p with
  | zero => exact le_rfl
  | succ n ih => exact p.offset_le_next.trans ih

theorem offset_lt_skip (h : p.rest ≠ []) {n : Nat} (hn : 0 < n) : p.offset < (p.skip n).offset := by
  obtain ⟨k, rfl⟩ := Nat.exists_eq_succ_of_ne_zero hn.ne'
  exact (offset_lt_next h).trans_le ((Reaches.refl p.next).skip k).offset_le

theorem rest_of_peek {c : Char} (h : p.peek = some c) :
    ∃ d r, p.rest = d :: r ∧ (if d = '\r' then '\n' else d) = c := by
  unfold peek at h
  split at h
  next => cases h
  next d r hrest => exact ⟨d, r, hrest, Option.some.inj h⟩

end Place

open Place

/-! ### Answers of readers -/

/-- Whatever a reader answers satisfies a property; it may refuse to answer. -/
def Gives {α : Type} (x : Except Located α) (P : α → Prop) : Prop := ∀ a, x = .ok a → P a

section Gives

variable {α β : Type} {P Q : α → Prop} {R : β → Prop}

@[simp] theorem gives_ok {a : α} : Gives (.ok a) P ↔ P a := by simp [Gives]

@[simp] theorem gives_pure {a : α} : Gives (pure a) P ↔ P a := gives_ok

@[simp] theorem gives_error {e : Located} : Gives (.error e) P := by simp [Gives]

@[simp] theorem gives_throw {e : Located} : Gives (throw e) P := gives_error

@[simp] theorem gives_bind {x : Except Located α} {k : α → Except Located β} :
    Gives (x >>= k) R ↔ Gives x fun a => Gives (k a) R := by
  cases x <;> simp [Gives, bind, Except.bind]

@[simp] theorem gives_map {x : Except Located α} {f : α → β} :
    Gives (x.map f) R ↔ Gives x fun a => R (f a) := by
  cases x <;> simp [Gives, Except.map]

theorem Gives.imp {x : Except Located α} (h : Gives x P) (himp : ∀ a, P a → Q a) : Gives x Q :=
  fun a ha => himp a (h a ha)

end Gives

/-- The token is a name. -/
def Token.isName : Token → Bool
  | .name _ => true
  | _ => false

/-- The names among some tokens. -/
def names (ts : List Spanned) : List Spanned := ts.filter fun t => t.token.isName

@[simp] theorem names_append (ts us : List Spanned) : names (ts ++ us) = names ts ++ names us :=
  List.filter_append ..

theorem gives_readMargin (fuel : Nat) (p : Place) (m : Margin) :
    Gives (readMargin fuel p m) fun a => p.Reaches a.2 := by
  induction fuel generalizing p m with
  | zero => simp [readMargin]
  | succ fuel ih =>
    have hlater : ∀ {q} m, p.Reaches q → Gives (readMargin fuel q m) fun a =>
        p.Reaches a.2 := fun m hq =>
      (ih _ m).imp fun _ => hq.trans
    rw [readMargin]
    split
    next => simp
    next => exact hlater _ (Reaches.refl p).next
    next =>
      split_ifs
      · exact hlater _ (Reaches.refl p).next
      · exact gives_error
    next => exact hlater _ ((Reaches.refl p).skip _)
    next => exact hlater _ (Reaches.refl p).next
    next => exact hlater _ (Reaches.refl p).next
    next => simp

/-! ### Numbers and strings -/

theorem gives_readExponent (p : Place) : Gives (readExponent p) fun a => p.Reaches a.2 := by
  have hmark : p.Reaches p.next := (Reaches.refl p).next
  unfold readExponent
  simp only
  split
  next => split_ifs <;> simp [hmark]
  next => simp

theorem readImaginary_spec (value : Double) (p : Place) :
    (readImaginary value p).1.isName = false ∧ p.Reaches (readImaginary value p).2 := by
  unfold readImaginary
  split_ifs <;> simp [Token.isName]

theorem gives_readFloat (whole : List Char) (p : Place) :
    Gives (readFloat whole p) fun a => a.1.isName = false ∧ p.Reaches a.2 := by
  have hlater : ∀ {q : Place} (value : Double), p.Reaches q →
      (readImaginary value q).1.isName = false ∧
          p.Reaches (readImaginary value q).2 := fun value hq =>
    ⟨(readImaginary_spec value _).1, hq.trans (readImaginary_spec value _).2⟩
  unfold readFloat
  split_ifs
  · exact gives_bind.2 gives_throw
  · refine gives_bind.2 ((gives_readExponent _).imp ?_)
    rintro ⟨exponent, q⟩ hq
    exact gives_pure.2 (hlater _ (((Reaches.refl p).next.skip _).trans hq))
  · exact gives_bind.2 gives_throw
  · refine gives_bind.2 ((gives_readExponent _).imp ?_)
    rintro ⟨exponent, q⟩ hq
    exact gives_pure.2 (hlater _ hq)

theorem gives_readRadix (base : Nat) (p : Place) :
    Gives (readRadix base p) fun a => a.1.isName = false ∧ p.Reaches a.2 := by
  unfold readRadix
  simp only
  split_ifs <;> simp [Token.isName]

theorem gives_readNumber (p : Place) :
    Gives (readNumber p) fun a => a.1.isName = false ∧ p.Reaches a.2 := by
  unfold readNumber
  split
  next base _ => exact gives_readRadix base p
  next =>
    have hdigits : p.Reaches (p.skip (digitRun 10 p.rest).2) := (Reaches.refl p).skip _
    simp only
    split_ifs
    · exact (gives_readFloat _ _).imp fun a ha => ⟨ha.1, hdigits.trans ha.2⟩
    all_goals simp [Token.isName, hdigits]

theorem gives_readBody (mark : Char) (triple : Bool) (fuel : Nat) (p : Place) (acc : List Char) :
    Gives (readBody mark triple fuel p acc) fun a => p.Reaches a.2 := by
  induction fuel generalizing p acc with
  | zero => exact gives_error
  | succ fuel ih =>
    have hlater : ∀ {q} acc, p.Reaches q → Gives (readBody mark triple fuel q acc) fun a =>
        p.Reaches a.2 :=
      fun acc hq => (ih _ acc).imp fun _ => hq.trans
    have hnext : p.Reaches p.next := (Reaches.refl p).next
    rw [readBody]
    split
    next => exact gives_error
    next c _ =>
      simp only
      split_ifs
      · split
        next => exact hlater _ hnext.next
        next => exact hlater _ hnext
      · exact gives_error
      · exact gives_ok.2 hnext
      · exact gives_ok.2 (hnext.skip 2)
      · exact hlater _ hnext
      · exact hlater _ hnext

theorem gives_readString (bound : Nat) (kind : StringKind) (letters : Nat) (p : Place) :
    Gives (readString bound kind letters p) fun a => a.1.isName = false ∧ p.Reaches a.2 := by
  have hquote : p.Reaches (p.skip letters).next := ((Reaches.refl p).skip letters).next
  unfold readString
  simp only
  split
  next => exact gives_error
  next mark _ =>
    refine gives_map.2 ((gives_readBody _ _ _ _ _).imp fun a ha => ⟨rfl, ?_⟩)
    split_ifs at ha
    · exact (hquote.skip 2).trans ha
    · exact hquote.trans ha

/-! ### Steps -/

/-- What one step of reading can do: it goes forward, and it gives no name, or one that starts where
the step starts and ends further on. -/
def NameStep (s : LexState) (a : List Spanned × LexState) : Prop :=
  s.place.Reaches a.2.place ∧
    (names a.1 = [] ∨
      ∃ t, names a.1 = [t] ∧ t.start = s.place.offset ∧ s.place.offset < a.2.place.offset)

variable {s s' : LexState} {c : Char}

theorem names_spanned {t : Token} (h : t.isName = false) (p q : Place) :
    names [spanned t p q] = [] := by
  simp [names, spanned, h]

theorem nameStep_of_lt (t : Token) (hs' : s.place.Reaches s'.place)
    (hlt : s.place.offset < s'.place.offset) :
    NameStep s ([spanned t s.place s'.place], s') := by
  refine ⟨hs', ?_⟩
  cases ht : t.isName with
  | true => exact Or.inr ⟨spanned t s.place s'.place, by simp [names, spanned, ht], rfl, hlt⟩
  | false => exact Or.inl (names_spanned ht _ _)

theorem leadingIdentifier_length_pos {p : Place} (hc : p.peek = some c)
    (hstart : isIdentifierStart c = true) :
    0 < (leadingIdentifier p.rest).length := by
  obtain ⟨d, r, hrest, hd⟩ := rest_of_peek hc
  split_ifs at hd with hreturn
  · rw [← hd] at hstart
    exact absurd hstart (by decide)
  · rw [hrest, leadingIdentifier, hd, if_pos hstart]
    exact Nat.succ_pos _

theorem gives_readToken (hc : s.place.peek = some c) : Gives (readToken s c) (NameStep s) := by
  have hrest : s.place.rest ≠ [] := by
    obtain ⟨d, r, hrest, -⟩ := rest_of_peek hc
    rw [hrest]
    exact List.cons_ne_nil d r
  unfold readToken
  simp only
  split
  next kind letters _ =>
    refine gives_bind.2 ((gives_readString _ _ _ _).imp ?_)
    rintro ⟨t, q⟩ ⟨ht, hq⟩
    exact gives_pure.2 ⟨hq, Or.inl (names_spanned ht _ _)⟩
  next =>
    by_cases hstart : isIdentifierStart c = true
    · rw [if_pos hstart]
      have hlt := offset_lt_skip hrest (leadingIdentifier_length_pos hc hstart)
      exact gives_pure.2 (nameStep_of_lt _ ((Reaches.refl _).skip _) hlt)
    rw [if_neg hstart]
    by_cases hdigit : (c.isDigit || c == '.' && Option.any Char.isDigit s.place.next.peek) = true
    · rw [if_pos hdigit]
      refine gives_bind.2 ((gives_readNumber _).imp ?_)
      rintro ⟨t, q⟩ ⟨ht, hq⟩
      exact gives_pure.2 ⟨hq, Or.inl (names_spanned ht _ _)⟩
    rw [if_neg hdigit]
    split
    next sign _ =>
      have hstep : ∀ nesting, NameStep s ([spanned (.sign sign) s.place (s.place.skip sign.length)],
          { s with place := s.place.skip sign.length, nesting }) := fun nesting =>
        ⟨(Reaches.refl _).skip _, Or.inl (names_spanned rfl _ _)⟩
      split
      next => exact gives_bind.2 gives_throw
      next => exact gives_pure.2 (hstep _)
    next =>
      split
      next => exact gives_pure.2 (nameStep_of_lt _ (Reaches.refl _).next (offset_lt_next hrest))
      next => split <;> exact gives_throw

theorem gives_lexStep (hc : s.place.peek = some c) : Gives (lexStep s c) (NameStep s) := by
  have hsilent : ∀ {q : Place}, s.place.Reaches q →
      NameStep s ([], { s with place := q }) := fun hq =>
    ⟨hq, Or.inl rfl⟩
  have hnext : s.place.Reaches s.place.next := (Reaches.refl _).next
  unfold lexStep
  simp only
  split
  next => exact gives_pure.2 (hsilent ((Reaches.refl _).skip _))
  next =>
    split
    next => exact gives_pure.2 (hsilent ((Reaches.refl _).skip _))
    next =>
      split
      next =>
        split
        next => exact gives_pure.2 ⟨hnext, Or.inl (names_spanned rfl _ _)⟩
        next => exact gives_pure.2 (hsilent hnext)
      next =>
        split
        next =>
          split
          next => exact gives_throw
          next =>
            split
            next => exact gives_throw
            next => exact gives_pure.2 (hsilent hnext.next)
        next => exact gives_readToken hc

/-- The start of a line gives no names. -/
theorem gives_startLine (s : LexState) :
    Gives (startLine s) fun a => s.place.Reaches a.2.place ∧ names a.1 = [] := by
  unfold startLine
  refine gives_bind.2 ((gives_readMargin _ _ _).imp ?_)
  rintro ⟨m, q⟩ hq
  simp only
  split
  next => exact gives_throw
  next => exact gives_pure.2 ⟨hq, rfl⟩
  next => exact gives_pure.2 ⟨hq, rfl⟩
  next =>
    refine gives_bind.2 fun a _ => gives_pure.2 ⟨hq, ?_⟩
    simp [names, Token.isName]

theorem gives_endText (s : LexState) : Gives (endText s) fun ts => names ts = [] := by
  unfold endText
  simp only
  split_ifs <;> simp [names, Token.isName]

/-! ### The names of a text -/

/-- The tokens before the first fault. -/
def upToFault : Stream → List Spanned
  | .ok t :: rest => t :: upToFault rest
  | _ => []

@[simp] theorem upToFault_append (ts : List Spanned) (rest : Stream) :
    upToFault (ts.map .ok ++ rest) = ts ++ upToFault rest := by
  induction ts with
  | nil => rfl
  | cons t ts ih => rw [List.map_cons, List.cons_append, upToFault, ih, List.cons_append]

@[simp] theorem upToFault_map_ok (ts : List Spanned) : upToFault (ts.map .ok) = ts := by
  simpa [upToFault] using upToFault_append ts []

/-- The names among some tokens start at ascending offsets from a least one on, each before a
character of the text. -/
structure NamesAscend (text : List Char) (least : Nat) (ts : List Spanned) : Prop where
  ascending : (names ts).Pairwise fun t u => t.start < u.start
  least_le : ∀ t ∈ names ts, least ≤ t.start
  before : ∀ t ∈ names ts, ∃ passed c rest, text = passed ++ c :: rest ∧ t.start = byteSize passed

variable {text : List Char}

theorem namesAscend_of_names_eq_nil {least : Nat} {ts : List Spanned} (h : names ts = []) :
    NamesAscend text least ts := by
  constructor <;> simp [h]

theorem NamesAscend.append_of_le {least least' : Nat} {ts us : List Spanned}
    (h : NamesAscend text least' us) (hle : least ≤ least') (hts : names ts = []) :
    NamesAscend text least (ts ++ us) := by
  constructor
  · rw [names_append, hts]
    exact h.ascending
  · rw [names_append, hts]
    exact fun t ht => hle.trans (h.least_le t ht)
  · rw [names_append, hts]
    exact h.before

/-- A step may put a name in front of those that follow. -/
theorem NamesAscend.step {ts us : List Spanned} (h : NamesAscend text s'.place.offset us)
    (hs : s.place.Within text) (hc : s.place.peek = some c) (hstep : NameStep s (ts, s')) :
    NamesAscend text s.place.offset (ts ++ us) := by
  obtain ⟨hreaches, hnone | ⟨t, ht, hstart, hlt⟩⟩ := hstep
  · exact h.append_of_le hreaches.offset_le hnone
  · have hnames : names (ts ++ us) =
        t :: names us := by rw [names_append, ht, List.singleton_append]
    have hlater : ∀ u ∈ names us, t.start < u.start := by
      intro u hu
      have hleast := h.least_le u hu
      rw [hstart]
      exact Nat.lt_of_lt_of_le hlt hleast
    constructor
    · rw [hnames]
      exact List.pairwise_cons.2 ⟨hlater, h.ascending⟩
    · rw [hnames, List.forall_mem_cons]
      exact ⟨hstart.ge, fun u hu => hstart ▸ (hlater u hu).le⟩
    · rw [hnames, List.forall_mem_cons]
      obtain ⟨d, rest, hrest, -⟩ := rest_of_peek hc
      obtain ⟨passed, htext, hoffset⟩ := hs
      exact ⟨⟨passed, d, rest, by rw [htext, hrest], by rw [hstart, hoffset]⟩, h.before⟩

theorem namesAscend_lexWith (fuel : Nat) {s : LexState} (h : s.place.Within text) :
    NamesAscend text s.place.offset (upToFault (lexWith fuel s)) := by
  induction fuel generalizing s with
  | zero => exact namesAscend_of_names_eq_nil rfl
  | succ fuel ih =>
    rw [lexWith]
    split
    next => exact namesAscend_of_names_eq_nil rfl
    next lead s₁ hlead =>
      -- what the start of a line gives is passed before the next token is read
      have hline : s.place.Reaches s₁.place ∧ names lead = [] := by
        split_ifs at hlead
        · exact gives_startLine s _ hlead
        · cases hlead
          exact ⟨Reaches.refl _, rfl⟩
      have hs₁ := hline.1.within h
      rw [upToFault_append]
      refine NamesAscend.append_of_le ?_ hline.1.offset_le hline.2
      split
      next =>
        split
        next => exact namesAscend_of_names_eq_nil rfl
        next ts hts =>
          rw [upToFault_map_ok]
          exact namesAscend_of_names_eq_nil (gives_endText s₁ ts hts)
      next c hc =>
        split
        next => exact namesAscend_of_names_eq_nil rfl
        next ts s₂ hstep =>
          have hnames := gives_lexStep hc _ hstep
          rw [upToFault_append]
          exact (ih (hnames.1.within hs₁)).step hs₁ hc hnames

/-- The names of a text start at ascending offsets between its characters, before its end. -/
theorem names_lex (source : String) :
    (names (upToFault (lex source.toList))).Pairwise (fun t u => t.start < u.start) ∧
      ∀ t ∈ names (upToFault (lex source.toList)),
        String.Pos.Raw.IsValid source ⟨t.start⟩ ∧ t.start < source.utf8ByteSize := by
  have hascend : ∃ least, NamesAscend source.toList least (upToFault (lex source.toList)) := by
    refine ⟨_, namesAscend_lexWith _ ?_⟩
    split
    next r htext => exact ⟨['\uFEFF'], htext, (by decide : 3 = byteSize ['\uFEFF'])⟩
    next => exact ⟨[], rfl, rfl⟩
  obtain ⟨least, h⟩ := hascend
  refine ⟨h.ascending, fun t ht => ?_⟩
  obtain ⟨passed, c, rest, htext, hstart⟩ := h.before t ht
  have hsource : source = String.ofList passed ++ String.ofList (c :: rest) := by
    rw [← String.ofList_append, ← htext, String.ofList_toList]
  have hsize : t.start =
      (String.ofList passed).utf8ByteSize := by rw [← byteSize_toList, String.toList_ofList, hstart]
  refine ⟨String.Pos.Raw.isValid_iff_exists_append.2 ⟨_, _, hsource, String.Pos.Raw.ext hsize⟩, ?_⟩
  have hpos := c.utf8Size_pos
  rw [← byteSize_toList, htext, hstart, byteSize_append, byteSize_cons]
  omega

end Strict

end PythonAudit
