import Mathlib.Data.Prod.Lex
import Mathlib.Tactic
import PythonAudit.Text.Locate
import PythonAudit.Text.Point

/-!
# Where a byte offset is

A line comes from the line feeds of the whole text, and a column from the characters before the
offset. Both are compared here with the bytes of the text.

* `bytes` are the bytes of a text, and `count_encode` says that only its line feeds have the byte of
  a line feed;
* `lineAt_eq` says that the line of an offset is the number of line feeds before it, at the end of
  the text too, and `fst_locate` that this holds for every offset;
* `StartsAt bs line start` says that a line starts at a byte, `StartsAt.unique` that it starts
  nowhere else, and `startsAt_lineStart` that searching backwards finds the start;
* `stepAll_origin` says that counting characters leads to the same place, and `locate_lt_locate`
  that places come in the order of the offsets;
* `locate_of_offsets` puts this together.
-/

namespace PythonAudit

namespace Text

/-! ### Bytes -/

/-- The line feed as a byte. -/
def feed : UInt8 := 10

/-- The bytes of a text. -/
def bytes (text : String) : List UInt8 := text.toByteArray.data.toList

theorem bytes_eq_encode (text : String) : bytes text = encode text.toList := by
  rw [bytes, ← String.utf8Encode_toList, List.utf8Encode, List.data_toByteArray,
    List.toList_toArray]
  rfl

@[simp] theorem byteSize_nil : byteSize [] = 0 := rfl

@[simp] theorem byteSize_cons (c : Char) (cs : List Char) :
    byteSize (c :: cs) = c.utf8Size + byteSize cs := rfl

@[simp] theorem byteSize_append (cs ds : List Char) :
    byteSize (cs ++ ds) = byteSize cs + byteSize ds := by
  induction cs with
  | nil => simp
  | cons c cs ih => simp [ih, Nat.add_assoc]

@[simp] theorem encode_cons (c : Char) (cs : List Char) :
    encode (c :: cs) = String.utf8EncodeChar c ++ encode cs := List.flatMap_cons

@[simp] theorem encode_append (cs ds : List Char) : encode (cs ++ ds) = encode cs ++ encode ds :=
  List.flatMap_append

@[simp] theorem length_encode (cs : List Char) : (encode cs).length = byteSize cs := by
  induction cs with
  | nil => rfl
  | cons c cs ih =>
    rw [encode_cons, List.length_append, String.length_utf8EncodeChar, ih, byteSize_cons]

theorem byteSize_toList (text : String) : byteSize text.toList = text.utf8ByteSize := by
  rw [← length_encode, ← bytes_eq_encode]
  rfl

theorem utf8EncodeChar_feed : String.utf8EncodeChar '\n' = [feed] := by decide

/-- A byte of ASCII is in the encoding of its own character only. -/
theorem ascii_notMem_utf8EncodeChar {b : UInt8} {c : Char} (hb : b.toNat < 128)
    (h : c.toNat ≠ b.toNat) :
    b ∉ String.utf8EncodeChar c := by
  have hval : c.val.toNat = c.toNat := rfl
  -- a single byte is the code itself, and all bytes of a longer encoding are at least 128
  simp only [String.utf8EncodeChar]
  split_ifs <;> simp [← UInt8.toNat_inj] <;> omega

/-- The bytes of other characters are no line feeds. -/
theorem feed_notMem_utf8EncodeChar {c : Char} (h : c ≠ '\n') : feed ∉ String.utf8EncodeChar c := by
  refine ascii_notMem_utf8EncodeChar (by decide) ?_
  intro hcode
  exact h (Char.ext (UInt32.toNat_inj.1 hcode))

theorem count_utf8EncodeChar (c : Char) :
    (String.utf8EncodeChar c).count feed = if c = '\n' then 1 else 0 := by
  split_ifs with h
  · rw [h, utf8EncodeChar_feed]
    rfl
  · exact List.count_eq_zero_of_not_mem (feed_notMem_utf8EncodeChar h)

theorem count_encode (cs : List Char) : (encode cs).count feed = cs.count '\n' := by
  induction cs with
  | nil => rfl
  | cons c cs ih =>
    rw [encode_cons, List.count_append, ih, count_utf8EncodeChar, List.count_cons, Nat.add_comm]
    simp

/-! ### Lines -/

theorem le_of_mem_lineFeeds {start byte : Nat} {cs : List Char} (h : byte ∈ lineFeeds start cs) :
    start ≤ byte := by
  induction cs generalizing start with
  | nil => cases h
  | cons c cs ih =>
    rw [lineFeeds] at h
    split_ifs at h
    · rcases List.mem_cons.1 h with rfl | h
      · exact le_rfl
      · exact (Nat.le_succ _).trans (ih h)
    · exact (Nat.le_add_right _ _).trans (ih h)

theorem lineOf_lineFeeds_of_le {start byte : Nat} (h : byte ≤ start) (cs : List Char) :
    lineOf (lineFeeds start cs) byte = 0 := by
  cases hfeeds : lineFeeds start cs with
  | nil => rfl
  | cons first rest =>
    have hfirst : start ≤ first := le_of_mem_lineFeeds (hfeeds ▸ List.mem_cons_self)
    rw [lineOf, List.findIdx_cons, decide_eq_true (h.trans hfirst), cond_true]

/-- The line of a byte is the number of line feeds before it. -/
theorem lineOf_lineFeeds (start k : Nat) (cs : List Char) :
    lineOf (lineFeeds start cs) (start + k) = ((encode cs).take k).count feed := by
  induction cs generalizing start k with
  | nil => simp [lineFeeds, lineOf, encode]
  | cons c cs ih =>
    rw [lineFeeds]
    split_ifs with hc
    · subst hc
      cases k with
      | zero =>
        rw [lineOf, List.findIdx_cons, decide_eq_true (by omega), cond_true, List.take_zero,
          List.count_nil]
      | succ k =>
        have hrest := ih (start + 1) k
        rw [encode_cons, utf8EncodeChar_feed, List.singleton_append, List.take_succ_cons,
          List.count_cons_self, ← hrest, lineOf, List.findIdx_cons, decide_eq_false (by omega),
          cond_false, show start + (k + 1) = start + 1 + k by omega]
        rfl
    · rw [encode_cons, List.take_append, List.count_append, String.length_utf8EncodeChar,
        List.count_eq_zero_of_not_mem fun h => feed_notMem_utf8EncodeChar hc
          (List.mem_of_mem_take h),
        Nat.zero_add]
      by_cases hk : c.utf8Size ≤ k
      · rw [← ih (start + c.utf8Size) (k - c.utf8Size)]
        congr 1
        omega
      · -- inside a character no line feed has been passed yet
        rw [lineOf_lineFeeds_of_le (by omega), Nat.sub_eq_zero_of_le (by omega)]
        simp

/-- The line feeds before the last byte, and the one at the last byte. -/
theorem count_take_pred_encode (cs : List Char) :
    ((encode cs).take (byteSize cs - 1)).count feed + (if cs.getLast? = some '\n' then 1 else 0) =
      (encode cs).count feed := by
  induction cs using List.reverseRecOn with
  | nil => rfl
  | append_singleton cs c _ =>
    have hpos := c.utf8Size_pos
    have hsize : byteSize (cs ++ [c]) - 1 = byteSize cs + (c.utf8Size - 1) := by
      simp
      omega
    rw [hsize, encode_append, encode_cons, List.take_append, length_encode, List.count_append,
      List.count_append, List.take_of_length_le (by simp), Nat.add_sub_cancel_left, Nat.add_assoc]
    congr 1
    by_cases hc : c = '\n'
    · subst hc
      have hone : '\n'.utf8Size = 1 := by decide
      simp [utf8EncodeChar_feed, encode, hone]
    · have hnone : feed ∉ String.utf8EncodeChar c := feed_notMem_utf8EncodeChar hc
      rw [List.count_eq_zero_of_not_mem, List.count_eq_zero_of_not_mem]
      · simp [hc]
      · simpa [encode] using hnone
      · intro h
        exact hnone (by simpa [encode] using List.mem_of_mem_take h)

theorem lineAt_eq (cs : List Char) (offset : Nat) :
    lineAt cs offset = ((encode cs).take offset).count feed := by
  have hline : ∀ byte, lineOf (lineFeeds 0 cs) byte = ((encode cs).take byte).count feed := by
    intro byte
    rw [← lineOf_lineFeeds 0 byte, Nat.zero_add]
  -- at the end of the text the line is that of the last byte, or the next one after a line feed
  unfold lineAt
  by_cases hend : offset = byteSize cs
  · rw [if_pos hend, hline, hend, count_take_pred_encode,
      List.take_of_length_le (length_encode cs).le]
  · rw [if_neg hend, hline]

/-- The empty text is no exception. -/
theorem locate_eq (text : String) (offset : Nat) :
    locate text offset =
      (lineAt text.toList (min offset (byteSize text.toList)) + 1,
        min offset (byteSize text.toList) -
          ((before? [] text.toList (min offset (byteSize text.toList))).map lineStart).getD 0) := by
  rw [locate]
  cases text.toList with
  | nil => simp [lineAt, lineOf, lineFeeds]
  | cons c cs => rfl

/-- Every offset has its line, also one inside a character. -/
theorem fst_locate (text : String) (offset : Nat) :
    (locate text offset).1 = 1 + ((bytes text).take offset).count feed := by
  rw [locate_eq, lineAt_eq, ← length_encode, ← List.take_eq_take_min, bytes_eq_encode, Nat.add_comm]

/-! ### Where lines start -/

/-- A line, counted from zero, starts at a byte: the text starts there or a line feed comes right
before, and as many line feeds come before in all. -/
structure StartsAt (bs : List UInt8) (line start : Nat) : Prop where
  behind : start = 0 ∨ bs[start - 1]? = some feed
  count : (bs.take start).count feed = line

theorem count_take_le {i j : Nat} (h : i ≤ j) (bs : List UInt8) :
    (bs.take i).count feed ≤ (bs.take j).count feed :=
  (List.take_prefix_take_left h).sublist.count_le _

/-- Before the start of a line there are fewer line feeds. -/
theorem StartsAt.count_lt {bs : List UInt8} {line start i : Nat} (h : StartsAt bs line start)
    (hi : i < start) :
    (bs.take i).count feed < line := by
  obtain ⟨rfl | hfeed, hcount⟩ := h
  · exact absurd hi (Nat.not_lt_zero i)
  · have hstart : start = start - 1 + 1 := by omega
    rw [hstart, List.take_add_one, hfeed, Option.toList_some, List.count_append,
      List.count_singleton_self] at hcount
    have hle := count_take_le (show i ≤ start - 1 by omega) bs
    omega

theorem StartsAt.unique {bs : List UInt8} {line s t : Nat} (hs : StartsAt bs line s)
    (ht : StartsAt bs line t) :
    s = t := by
  rcases lt_trichotomy s t with hlt | heq | hgt
  · exact absurd hs.count (ht.count_lt hlt).ne
  · exact heq
  · exact absurd ht.count (hs.count_lt hgt).ne

theorem byteSize_reverse (cs : List Char) : byteSize cs.reverse = byteSize cs := by
  induction cs with
  | nil => rfl
  | cons c cs ih => simp [ih, Nat.add_comm]

theorem lineStart_cons (c : Char) (passed : List Char) :
    lineStart (c :: passed) = if c = '\n' then byteSize (c :: passed) else lineStart passed := by
  unfold lineStart
  split_ifs with hc <;> simp [hc]

theorem lineStart_le (passed : List Char) : lineStart passed ≤ byteSize passed := by
  induction passed with
  | nil => exact le_rfl
  | cons c passed ih =>
    rw [lineStart_cons]
    split_ifs
    · exact le_rfl
    · exact ih.trans (Nat.le_add_left _ _)

/-- The last line that starts in some characters starts there in every text that goes on from
them. -/
theorem startsAt_lineStart (before after : List Char) :
    StartsAt (encode (before ++ after)) (before.count '\n') (lineStart before.reverse) := by
  -- the last character decides, so it is taken off the end, and the rest of the text grows by it
  induction before using List.reverseRecOn generalizing after with
  | nil => exact ⟨Or.inl rfl, rfl⟩
  | append_singleton before c ih =>
    rw [List.reverse_append, List.reverse_singleton, List.singleton_append, lineStart_cons,
      List.append_assoc, List.singleton_append]
    by_cases hc : c = '\n'
    · subst hc
      have hsize : byteSize ('\n' :: before.reverse) = byteSize before + 1 := by
        rw [byteSize_cons, byteSize_reverse, Nat.add_comm]
        rfl
      rw [if_pos rfl, hsize, encode_append, encode_cons, utf8EncodeChar_feed, List.singleton_append]
      refine ⟨Or.inr ?_, ?_⟩
      · rw [Nat.add_sub_cancel, List.getElem?_append_right (length_encode before).le, length_encode,
          Nat.sub_self]
        rfl
      · rw [List.take_append, length_encode, Nat.add_sub_cancel_left,
          List.take_of_length_le (by simp), List.count_append, count_encode, List.count_append]
        rfl
    · rw [if_neg hc, List.count_append, List.count_singleton, if_neg (by simpa using hc),
        Nat.add_zero]
      exact ih (c :: after)

/-! ### Columns -/

theorem before?_append (passed before after : List Char) :
    before? passed (before ++ after) (byteSize before) = some (before.reverse ++ passed) := by
  induction before generalizing passed with
  | nil => cases after <;> rfl
  | cons c before ih =>
    obtain ⟨n, hn⟩ := Nat.exists_eq_add_of_lt c.utf8Size_pos
    have hsucc : byteSize (c :: before) = n + byteSize before + 1 := by
      rw [byteSize_cons]
      omega
    have hrest : n + byteSize before + 1 - c.utf8Size = byteSize before := by omega
    rw [List.cons_append, hsucc, before?, if_neg (by omega), hrest, ih, List.reverse_cons,
      List.append_assoc]
    rfl

theorem locate_append {text : String} {before after : List Char}
    (h : text.toList = before ++ after) :
    locate text (byteSize before) =
      (1 + before.count '\n', byteSize before - lineStart before.reverse) := by
  have hline := fst_locate text (byteSize before)
  rw [bytes_eq_encode, h, encode_append, List.take_append, length_encode, Nat.sub_self,
    List.take_zero, List.append_nil, List.take_of_length_le (length_encode before).le,
    count_encode] at hline
  refine Prod.ext hline ?_
  rw [locate_eq, h, Nat.min_eq_left (by simp), before?_append, List.append_nil]
  rfl

/-- Counting characters gives the same place. -/
theorem stepAll_origin (before : List Char) :
    Point.origin.stepAll before =
      ⟨before.count '\n', byteSize before - lineStart before.reverse⟩ := by
  induction before using List.reverseRecOn with
  | nil => rfl
  | append_singleton before c ih =>
    have hle := lineStart_le before.reverse
    rw [byteSize_reverse] at hle
    have hstep : Point.origin.stepAll (before ++ [c]) = (Point.origin.stepAll before).step c :=
      List.foldl_append
    rw [hstep, ih, Point.step, List.reverse_append, List.reverse_singleton, List.singleton_append,
      lineStart_cons]
    split_ifs with hc
    · subst hc
      simp [byteSize_reverse, Nat.add_comm]
    · simp [hc, Nat.sub_add_comm hle]

/-! ### Offsets between characters -/

theorem locate_min (text : String) (offset : Nat) :
    locate text (min offset text.utf8ByteSize) = locate text offset := by
  rw [locate_eq, locate_eq, byteSize_toList, Nat.min_assoc, Nat.min_self]

/-- An offset between characters, or beyond the end, parts the text. -/
theorem exists_parts {text : String} {offset : Nat}
    (h : String.Pos.Raw.IsValid text ⟨offset⟩ ∨ text.utf8ByteSize ≤ offset) :
    ∃ before after : String, text = before ++ after ∧
      before.utf8ByteSize = min offset text.utf8ByteSize := by
  rcases h with hvalid | hbeyond
  · have hle : offset ≤ text.utf8ByteSize := hvalid.le_utf8ByteSize
    obtain ⟨before, after, htext, hend⟩ := String.Pos.Raw.isValid_iff_exists_append.1 hvalid
    have hsize : offset = before.utf8ByteSize := congrArg String.Pos.Raw.byteIdx hend
    exact ⟨before, after, htext, by rw [Nat.min_eq_left hle, hsize]⟩
  · exact ⟨text, "", String.append_empty.symm, (Nat.min_eq_right hbeyond).symm⟩

theorem locate_parts {text before after : String} {offset : Nat} (htext : text = before ++ after)
    (hsize : before.utf8ByteSize = min offset text.utf8ByteSize) :
    locate text offset =
      (1 + before.toList.count '\n', before.utf8ByteSize - lineStart before.toList.reverse) := by
  rw [← locate_min, ← hsize, ← byteSize_toList]
  exact locate_append (by rw [htext, String.toList_append])

/-- The column counts from the start of the line. -/
theorem exists_startsAt {text : String} {offset : Nat}
    (h : String.Pos.Raw.IsValid text ⟨offset⟩ ∨ text.utf8ByteSize ≤ offset) :
    ∃ start, StartsAt (bytes text) (((bytes text).take offset).count feed) start ∧
      start ≤ min offset text.utf8ByteSize ∧
        (locate text offset).2 = min offset text.utf8ByteSize - start := by
  obtain ⟨before, after, htext, hsize⟩ := exists_parts h
  have hplace := locate_parts htext hsize
  have hline : 1 + ((bytes text).take offset).count feed = 1 + before.toList.count '\n' := by
    rw [← fst_locate, hplace]
  have hstart : StartsAt (bytes text) (before.toList.count '\n')
      (lineStart before.toList.reverse) := by
    rw [bytes_eq_encode, htext, String.toList_append]
    exact startsAt_lineStart _ _
  have hle := lineStart_le before.toList.reverse
  rw [byteSize_reverse, byteSize_toList] at hle
  rw [Nat.add_left_cancel hline, ← hsize]
  exact ⟨_, hstart, hle, by rw [hplace]⟩

/-- Places come in the order of the offsets. -/
theorem locate_lt_locate {text : String} {o o' : Nat} (ho : String.Pos.Raw.IsValid text ⟨o⟩)
    (ho' : String.Pos.Raw.IsValid text ⟨o'⟩) (h : o < o') :
    toLex (locate text o) < toLex (locate text o') := by
  obtain ⟨s, hs, hle, hcolumn⟩ := exists_startsAt (Or.inl ho)
  obtain ⟨s', hs', hle', hcolumn'⟩ := exists_startsAt (Or.inl ho')
  have hmin : min o text.utf8ByteSize = o := Nat.min_eq_left ho.le_utf8ByteSize
  have hmin' : min o' text.utf8ByteSize = o' := Nat.min_eq_left ho'.le_utf8ByteSize
  rw [hmin] at hle hcolumn
  rw [hmin'] at hcolumn'
  rw [Prod.Lex.toLex_lt_toLex, fst_locate, fst_locate, hcolumn, hcolumn']
  rcases (count_take_le h.le (bytes text)).lt_or_eq with hlt | heq
  · exact Or.inl (by omega)
  · -- on one line the columns count from the same start
    rw [heq] at hs
    have hstart := hs.unique hs'
    exact Or.inr ⟨by rw [heq], by omega⟩

/-- **Offsets have their lines and columns**, and different offsets between characters have
different places, in the order of the offsets. -/
theorem locate_of_offsets (text : String) :
    (∀ offset, (locate text offset).1 = 1 + ((bytes text).take offset).count feed) ∧
    (∀ offset, String.Pos.Raw.IsValid text ⟨offset⟩ ∨ text.utf8ByteSize ≤ offset →
      (∃ start, StartsAt (bytes text) (((bytes text).take offset).count feed) start ∧
        start ≤ min offset text.utf8ByteSize ∧
        locate text offset =
          (1 + ((bytes text).take offset).count feed, min offset text.utf8ByteSize - start) ∧
        start + (locate text offset).2 = min offset text.utf8ByteSize) ∧
      ∃ before after : String, text = before ++ after ∧
        before.utf8ByteSize = min offset text.utf8ByteSize ∧
        locate text offset =
          ((Point.origin.stepAll before.toList).row + 1,
            (Point.origin.stepAll before.toList).column)) ∧
    Set.InjOn (locate text) {o | String.Pos.Raw.IsValid text ⟨o⟩} ∧
    StrictMonoOn (fun o => toLex (locate text o)) {o | String.Pos.Raw.IsValid text ⟨o⟩} := by
  have hmono : StrictMonoOn (fun o => toLex (locate text o))
      {o | String.Pos.Raw.IsValid text ⟨o⟩} :=
    fun o ho o' ho' h => locate_lt_locate ho ho' h
  refine ⟨fst_locate text, fun offset h => ⟨?_, ?_⟩,
    fun o ho o' ho' h => hmono.injOn ho ho' (congrArg toLex h), hmono⟩
  · obtain ⟨start, hstart, hle, hcolumn⟩ := exists_startsAt h
    exact ⟨start, hstart, hle, Prod.ext (fst_locate text offset) hcolumn, by rw [hcolumn]; omega⟩
  · obtain ⟨before, after, htext, hsize⟩ := exists_parts h
    refine ⟨before, after, htext, hsize, ?_⟩
    rw [locate_parts htext hsize, stepAll_origin, byteSize_toList, Nat.add_comm]

/-- With characters of two bytes the second line starts at the third byte, and an offset inside the
last character is on that line too. -/
theorem locate_of_wideCharacters :
    String.Pos.Raw.IsValid "é\nxß" ⟨3⟩ ∧ String.Pos.Raw.IsValid "é\nxß" ⟨4⟩ ∧
      toLex (locate "é\nxß" 3) < toLex (locate "é\nxß" 4) ∧
      (∃ start, StartsAt (bytes "é\nxß") 1 start ∧ start + (locate "é\nxß" 4).2 = 4) ∧
      locate "é\nxß" 4 = (2, 1) ∧ (locate "é\nxß" 5).1 = 2 := by
  have hthree : String.Pos.Raw.IsValid "é\nxß" ⟨3⟩ :=
    String.Pos.Raw.isValid_iff_exists_append.2 ⟨"é\n", "xß", by decide, by decide⟩
  have hfour : String.Pos.Raw.IsValid "é\nxß" ⟨4⟩ :=
    String.Pos.Raw.isValid_iff_exists_append.2 ⟨"é\nx", "ß", by decide, by decide⟩
  obtain ⟨hline, hplace, -, hmono⟩ := locate_of_offsets "é\nxß"
  obtain ⟨⟨start, hstart, -, -, hback⟩, -⟩ := hplace 4 (Or.inl hfour)
  exact ⟨hthree, hfour, hmono hthree hfour (by decide), ⟨start, hstart, hback⟩, by decide +kernel,
    (hline 5).trans (by decide +kernel)⟩

end Text

end PythonAudit
