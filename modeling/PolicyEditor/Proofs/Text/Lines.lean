import Mathlib.Data.Prod.Lex
import Mathlib.Order.Interval.Set.Defs
import Mathlib.Order.Monotone.Basic
import PolicyEditor.Text.Position

/-!
# Lines and columns of a text

The line index holds the places behind the line feeds of a text, and the line of an offset is found
by a search in it.  In a text of fewer than `2 ^ 32` bytes, what is found agrees with counting: the
line is the number of line feeds in front of the offset, and the column is the distance from the
last one.  A line and a column that are counted tell one offset only, and those of a later offset
are later.

In a longer text the place behind a line feed may be told as one further in front, as only 32 bits
of it are kept.  Then an offset is found on a line that does not hold it.

## Main definitions

* `Text.bytes` : the UTF-8 form of a text.
* `Text.StartsLine` : the place at which the line of an offset starts.
* `Position.key` : a line and a column, ordered by the line first.
* `Position.Tells` : the line and column of an offset by counting.

## Main results

* `Position.Tells.key_lt_key` : counted positions are in the order of their offsets.
* `LineIndex.position_ofText` : the line and column of an offset agree with counting.
* `LineIndex.line_position_le_lineCount` : every line that is found is one of the lines.
-/

namespace PolicyEditor

open Text

/-! ### Bytes of a text -/

namespace Text

/-- The UTF-8 form of a text. -/
def bytes (text : List Char) : List UInt8 :=
  text.flatMap String.utf8EncodeChar

/-- The byte of a line feed. -/
def lineFeed : UInt8 := 10

@[simp] theorem bytes_nil : bytes [] = [] := rfl

@[simp] theorem bytes_cons (c : Char) (cs : List Char) :
    bytes (c :: cs) = String.utf8EncodeChar c ++ bytes cs :=
  List.flatMap_cons

@[simp] theorem bytes_append (a b : List Char) : bytes (a ++ b) = bytes a ++ bytes b :=
  List.flatMap_append

theorem length_bytes (text : List Char) : (bytes text).length = byteLength text := by
  induction text with
  | nil => rfl
  | cons c cs ih => rw [bytes_cons, List.length_append, String.length_utf8EncodeChar, ih,
      byteLength_cons]

/-- No character but the line feed itself has a line feed in its UTF-8 form. -/
theorem lineFeed_notMem_utf8EncodeChar {c : Char} (h : c ≠ '\n') :
    lineFeed ∉ String.utf8EncodeChar c := by
  have hval : c.val.toNat ≠ 10 := fun heq => h (Char.ext (UInt32.toNat_inj.1 heq))
  have hbyte (n : Nat) (hn : n % 256 ≠ 10) : lineFeed ≠ UInt8.ofNat n := fun heq =>
    hn (by simpa [lineFeed] using (congrArg UInt8.toNat heq).symm)
  rw [String.utf8EncodeChar]
  split_ifs with hone htwo hthree <;>
    simp only [List.mem_cons, List.not_mem_nil, or_false, not_or]
  · exact hbyte _ (by omega)
  · exact ⟨hbyte _ (by omega), hbyte _ (by omega)⟩
  · exact ⟨hbyte _ (by omega), hbyte _ (by omega), hbyte _ (by omega)⟩
  · exact ⟨hbyte _ (by omega), hbyte _ (by omega), hbyte _ (by omega), hbyte _ (by omega)⟩

/-- A line feed in a text has one in its UTF-8 form. -/
theorem count_lineFeed_utf8EncodeChar (c : Char) :
    (String.utf8EncodeChar c).count lineFeed = if c = '\n' then 1 else 0 := by
  split_ifs with hc
  · subst hc
    rfl
  · exact List.count_eq_zero.2 (lineFeed_notMem_utf8EncodeChar hc)

theorem lineFeed_mem_bytes {text : List Char} : lineFeed ∈ bytes text ↔ '\n' ∈ text := by
  rw [bytes, List.mem_flatMap]
  constructor
  · rintro ⟨c, hc, hfeed⟩
    by_cases h : c = '\n'
    · exact h ▸ hc
    · exact absurd hfeed (lineFeed_notMem_utf8EncodeChar h)
  · exact fun h => ⟨_, h, by decide⟩

/-- The place at which the line of an offset starts: the start of the text or the place behind a
line feed, with no further line feed between it and the offset. -/
structure StartsLine (bytes : List UInt8) (start offset : Nat) : Prop where
  le : start ≤ offset
  front : start = 0 ∨ ∃ i, bytes[i]? = some lineFeed ∧ start = i + 1
  unbroken : ∀ i, start ≤ i → i < offset → bytes[i]? ≠ some lineFeed

/-- The line of an offset starts at one place. -/
theorem StartsLine.unique {bytes : List UInt8} {start start' offset : Nat}
    (h : StartsLine bytes start offset) (h' : StartsLine bytes start' offset) : start = start' := by
  have hnot {s s' : Nat} (h : StartsLine bytes s offset) (h' : StartsLine bytes s' offset) :
      ¬s < s' := by
    intro hlt
    rcases h'.front with rfl | ⟨i, hfeed, rfl⟩
    · omega
    · exact h.unbroken i (by omega) h'.le hfeed
  have := hnot h h'
  have := hnot h' h
  omega

end Text

/-! ### Positions by counting -/

namespace Position

/-- A line and a column, ordered by the line first. -/
def key (place : Position) : ℕ ×ₗ ℕ :=
  toLex (place.line, place.column)

/-- The line and column of a byte offset by counting: the line is one more than the number of line
feeds in front of the offset, and the column is one more than the distance from the start of the
line. -/
structure Tells (text : List Char) (place : Position) (offset : Nat) : Prop where
  line : place.line = 1 + ((bytes text).take offset).count lineFeed
  column : ∃ start, StartsLine (bytes text) start offset ∧ place.column = 1 + (offset - start)

variable {text : List Char} {place place' : Position} {offset offset' : Nat}

/-- A later offset is on a later line or in a later column of the same line. -/
theorem Tells.key_lt_key (h : place.Tells text offset) (h' : place'.Tells text offset')
    (hlt : offset < offset') : place.key < place'.key := by
  obtain ⟨start, hstart, hcolumn⟩ := h.column
  obtain ⟨start', hstart', hcolumn'⟩ := h'.column
  have hcount : ((bytes text).take offset').count lineFeed =
      ((bytes text).take offset).count lineFeed +
        (((bytes text).drop offset).take (offset' - offset)).count lineFeed := by
    rw [← List.count_append, ← List.take_add, Nat.add_sub_cancel' hlt.le]
  rw [key, key, Prod.Lex.toLex_lt_toLex]
  dsimp only
  rcases Nat.lt_or_ge offset start' with hbehind | hfront
  · -- The line feed in front of the later line is between the offsets.
    obtain rfl | ⟨i, hfeed, rfl⟩ := hstart'.front
    · omega
    have hmem : lineFeed ∈ ((bytes text).drop offset).take (offset' - offset) := by
      refine List.mem_iff_getElem?.2 ⟨i - offset, ?_⟩
      have := hstart'.le
      rw [List.getElem?_take_of_lt (by omega), List.getElem?_drop, Nat.add_sub_cancel' (by omega),
        hfeed]
    have := List.count_pos_iff.2 hmem
    exact .inl (by rw [h.line, h'.line]; omega)
  · have hnone : (((bytes text).drop offset).take (offset' - offset)).count lineFeed = 0 := by
      refine List.count_eq_zero.2 fun hmem => ?_
      obtain ⟨i, hi⟩ := List.mem_iff_getElem?.1 hmem
      obtain ⟨hlength, -⟩ := List.getElem?_eq_some_iff.1 hi
      rw [List.length_take] at hlength
      rw [List.getElem?_take_of_lt (by omega), List.getElem?_drop] at hi
      exact hstart'.unbroken (offset + i) (by omega) (by omega) hi
    have hsame : StartsLine (bytes text) start' offset :=
      ⟨hfront, hstart'.front, fun i hi hlt' => hstart'.unbroken i hi (by omega)⟩
    obtain rfl := hstart.unique hsame
    exact .inr ⟨by rw [h.line, h'.line]; omega, by omega⟩

/-- A line and a column tell one offset. -/
theorem Tells.unique (h : place.Tells text offset) (h' : place.Tells text offset') :
    offset = offset' := by
  rcases Nat.lt_trichotomy offset offset' with hlt | heq | hlt
  · exact absurd (h.key_lt_key h' hlt) (lt_irrefl _)
  · exact heq
  · exact absurd (h'.key_lt_key h hlt) (lt_irrefl _)

end Position

namespace LineIndex

/-! ### Line starts -/

/-- Lines start behind the line feeds. -/
theorem mem_startsFrom {offset start : Nat} {text : List Char} :
    start ∈ startsFrom offset text ↔
      ∃ i, (bytes text)[i]? = some lineFeed ∧ start = offset + i + 1 := by
  induction text generalizing offset with
  | nil => simp [startsFrom]
  | cons c text ih =>
    -- A line feed in the form of the text is the first character or stands behind it.
    have hbehind : (∃ i, (bytes text)[i]? = some lineFeed ∧ start = offset + c.utf8Size + i + 1) ↔
        ∃ i, c.utf8Size ≤ i ∧ (bytes (c :: text))[i]? = some lineFeed ∧ start = offset + i + 1 := by
      have hindex (i : Nat) : (bytes (c :: text))[c.utf8Size + i]? = (bytes text)[i]? := by
        rw [bytes_cons, ← String.length_utf8EncodeChar c, List.getElem?_append_right (by omega),
          Nat.add_sub_cancel_left]
      constructor
      · rintro ⟨i, hi, rfl⟩
        exact ⟨c.utf8Size + i, by omega, (hindex i).trans hi, by omega⟩
      · rintro ⟨i, hle, hi, rfl⟩
        obtain ⟨i, rfl⟩ := Nat.exists_eq_add_of_le hle
        exact ⟨i, (hindex i).symm.trans hi, by omega⟩
    have hfront (i : Nat) (hi : i < c.utf8Size)
        (hfeed : (bytes (c :: text))[i]? = some lineFeed) : c = '\n' := by
      by_contra hc
      rw [bytes_cons, List.getElem?_append_left (by rwa [String.length_utf8EncodeChar])] at hfeed
      exact lineFeed_notMem_utf8EncodeChar hc (List.mem_of_getElem? hfeed)
    rw [startsFrom]
    split
    · next hc =>
      subst hc
      rw [List.mem_cons, ih, hbehind]
      constructor
      · rintro (rfl | ⟨i, -, hi, rfl⟩)
        · exact ⟨0, rfl, rfl⟩
        · exact ⟨i, hi, rfl⟩
      · rintro ⟨i, hi, rfl⟩
        rcases Nat.eq_zero_or_pos i with rfl | hpos
        · exact .inl rfl
        · exact .inr ⟨i, hpos, hi, rfl⟩
    · next hc =>
      rw [ih, hbehind]
      refine exists_congr fun i => ⟨fun h => h.2, fun h => ⟨?_, h⟩⟩
      exact Nat.le_of_not_lt fun hi => hc (hfront i hi h.1)

/-- The starts of lines are behind the start of the text, and none is behind its end. -/
theorem bounds_of_mem_startsFrom {offset start : Nat} {text : List Char}
    (h : start ∈ startsFrom offset text) : offset < start ∧ start ≤ offset + byteLength text := by
  obtain ⟨i, hi, rfl⟩ := mem_startsFrom.1 h
  obtain ⟨hlength, -⟩ := List.getElem?_eq_some_iff.1 hi
  rw [length_bytes] at hlength
  omega

theorem pairwise_startsFrom (offset : Nat) (text : List Char) :
    (startsFrom offset text).Pairwise (· < ·) := by
  induction text generalizing offset with
  | nil => exact .nil
  | cons c text ih =>
    rw [startsFrom]
    split
    · exact .cons (fun _ h => (bounds_of_mem_startsFrom h).1) (ih _)
    · exact ih _

/-- As many lines start behind the first one up to an offset as there are line feeds in front of
the offset. -/
theorem countP_startsFrom (offset stop : Nat) (text : List Char) :
    (startsFrom offset text).countP (· ≤ stop) =
      ((bytes text).take (stop - offset)).count lineFeed := by
  induction text generalizing offset with
  | nil => simp [startsFrom]
  | cons c text ih =>
    rw [bytes_cons, List.take_append, List.count_append, String.length_utf8EncodeChar,
      Nat.sub_sub, ← ih (offset + c.utf8Size), startsFrom]
    split
    · next hc =>
      subst hc
      rw [List.countP_cons, Nat.add_comm]
      congr 1
      have hsize : '\n'.utf8Size = 1 := rfl
      rcases Nat.lt_or_ge offset stop with hlt | hge
      · have hlength : (String.utf8EncodeChar '\n').length ≤ stop - offset := by
          rw [String.length_utf8EncodeChar]
          omega
        rw [if_pos (decide_eq_true (by omega)), List.take_of_length_le hlength]
        rfl
      · have hbehind : ¬offset + '\n'.utf8Size ≤ stop := by omega
        rw [decide_eq_false hbehind, show stop - offset = 0 by omega]
        rfl
    · next hc =>
      have hnone : ((String.utf8EncodeChar c).take (stop - offset)).count lineFeed = 0 :=
        List.count_eq_zero.2 fun hmem =>
          lineFeed_notMem_utf8EncodeChar hc (List.mem_of_mem_take hmem)
      rw [hnone, Nat.zero_add]

/-- The number of an item of an ascending list tells how many items there are up to it. -/
theorem countP_le_of_last {starts : List Nat} (hascending : starts.Pairwise (· < ·))
    {line start offset : Nat} (hstart : starts[line]? = some start) (hle : start ≤ offset)
    (hlater : ∀ later start, line < later → starts[later]? = some start → offset < start) :
    starts.countP (· ≤ offset) = line + 1 := by
  obtain ⟨hline, rfl⟩ := List.getElem?_eq_some_iff.1 hstart
  have hfront : (starts.take (line + 1)).countP (· ≤ offset) = line + 1 := by
    rw [List.countP_eq_length.2, List.length_take_of_le hline]
    intro s hs
    obtain ⟨i, hi, rfl⟩ := List.mem_take_iff_getElem.1 hs
    rcases Nat.lt_or_eq_of_le (show i ≤ line by omega) with hi' | rfl
    · have := List.pairwise_iff_getElem.1 hascending i line (by omega) hline hi'
      exact decide_eq_true (by omega)
    · exact decide_eq_true hle
  have hback : (starts.drop (line + 1)).countP (· ≤ offset) = 0 := by
    refine List.countP_eq_zero.2 fun s hs => ?_
    obtain ⟨i, hi⟩ := List.mem_iff_getElem?.1 hs
    rw [List.getElem?_drop] at hi
    have := hlater _ _ (by omega) hi
    simpa using this
  rw [← List.take_append_drop (line + 1) starts, List.countP_append, hfront, hback]

/-- There is one line more than there are line feeds. -/
theorem lineCount_ofText (text : List Char) :
    (ofText text).lineCount = 1 + (bytes text).count lineFeed := by
  have hlength (offset : Nat) :
      (startsFrom offset text).length = (bytes text).count lineFeed := by
    induction text generalizing offset with
    | nil => rfl
    | cons c text ih =>
      rw [bytes_cons, List.count_append, count_lineFeed_utf8EncodeChar, startsFrom]
      split_ifs
      · rw [List.length_cons, ih, Nat.add_comm]
      · rw [ih, Nat.zero_add]
  have hstarts : (ofText text).starts = 0 :: (startsFrom 0 text).map wrap := rfl
  rw [lineCount, hstarts, List.length_cons, List.length_map, hlength, Nat.add_comm]

/-! ### Positions -/

theorem position?_eq (index : LineIndex) (offset : Nat) :
    index.position? offset = some (index.position offset) :=
  (Option.some_get _).symm

/-- The line and column of an offset, by the line start that the search finds. -/
theorem position_spec (index : LineIndex) (offset : Nat) : ∃ line start,
    index.position offset = ⟨line + 1, wrap offset - start + 1⟩ ∧
    index.starts[line]? = some start ∧ start ≤ wrap offset ∧
    (index.starts.Pairwise (· < ·) → ∀ later start, line < later →
      index.starts[later]? = some start → wrap offset < start) := by
  obtain ⟨line, start, hposition, hspec⟩ := index.position?_spec offset
  rw [position?_eq] at hposition
  exact ⟨line, start, Option.some.inj hposition, hspec⟩

/-- Every line that is found is one of the lines. -/
theorem line_position_le_lineCount (index : LineIndex) (offset : Nat) :
    (index.position offset).line ≤ index.lineCount := by
  obtain ⟨line, start, hposition, hstart, -⟩ := index.position_spec offset
  rw [hposition]
  exact (List.getElem?_eq_some_iff.1 hstart).1

section Small

variable {text : List Char} (hsize : byteLength text < offsetLimit)

include hsize

/-- The starts of the lines of a text that is not too long are told exactly. -/
theorem starts_ofText : (ofText text).starts = 0 :: startsFrom 0 text := by
  refine congrArg (0 :: ·) ((List.map_congr_left fun start hstart => ?_).trans (List.map_id _))
  have := bounds_of_mem_startsFrom hstart
  exact wrap_of_lt (by omega)

theorem ascending_starts_ofText : (ofText text).starts.Pairwise (· < ·) := by
  rw [starts_ofText hsize]
  exact .cons (fun _ h => (bounds_of_mem_startsFrom h).1) (pairwise_startsFrom 0 text)

/-- The place that is found for the start of a line starts the line. -/
theorem startsLine_of_last {line start offset : Nat}
    (hstart : (ofText text).starts[line]? = some start) (hle : start ≤ offset)
    (hlater : ∀ later start, line < later → (ofText text).starts[later]? = some start →
      offset < start) : StartsLine (bytes text) start offset where
  le := hle
  front := by
    rw [starts_ofText hsize] at hstart
    rcases List.mem_cons.1 (List.mem_of_getElem? hstart) with rfl | hmem
    · exact .inl rfl
    · obtain ⟨i, hi, rfl⟩ := mem_startsFrom.1 hmem
      exact .inr ⟨i, hi, by omega⟩
  unbroken i hi hlt hfeed := by
    -- The line behind this line feed would start in front of the offset.
    have hmem : i + 1 ∈ (ofText text).starts := by
      rw [starts_ofText hsize]
      exact List.mem_cons_of_mem _ (mem_startsFrom.2 ⟨i, hfeed, by omega⟩)
    obtain ⟨later, hnext⟩ := List.mem_iff_getElem?.1 hmem
    rcases Nat.lt_or_ge line later with hbehind | hfront
    · have := hlater later _ hbehind hnext
      omega
    · obtain ⟨hlater, hstart'⟩ := List.getElem?_eq_some_iff.1 hnext
      obtain ⟨hline, hstart⟩ := List.getElem?_eq_some_iff.1 hstart
      rcases Nat.lt_or_eq_of_le hfront with hlt' | rfl
      · have := List.pairwise_iff_getElem.1 (ascending_starts_ofText hsize) later line hlater hline
          hlt'
        omega
      · omega

/-- What is found for an offset is what counting tells. -/
theorem tells_position {offset : Nat} (hoffset : offset < offsetLimit) :
    ((ofText text).position offset).Tells text offset := by
  obtain ⟨line, start, hposition, hstart, hle, hlater⟩ := (ofText text).position_spec offset
  rw [wrap_of_lt hoffset] at hposition hle hlater
  replace hlater := hlater (ascending_starts_ofText hsize)
  have hcount := countP_le_of_last (ascending_starts_ofText hsize) hstart hle hlater
  rw [starts_ofText hsize, List.countP_cons_of_pos (by simp), countP_startsFrom, Nat.sub_zero]
    at hcount
  rw [hposition]
  exact ⟨by dsimp only; omega, start, startsLine_of_last hsize hstart hle hlater, Nat.add_comm _ _⟩

end Small

/-- For every text of fewer than `2 ^ 32` bytes and every byte offset, also behind the end of the
text, the search finds a position: its line is one more than the number of line feeds in front of
the offset, and its column is one more than the distance from the start of this line.  Positions are
told apart, and they are in the order of their offsets. -/
theorem position_ofText {text : List Char} (hsize : byteLength text < offsetLimit) :
    (∀ offset < offsetLimit, (ofText text).position? offset = some ((ofText text).position offset) ∧
      ((ofText text).position offset).line = 1 + ((bytes text).take offset).count lineFeed ∧
      ∃ start, StartsLine (bytes text) start offset ∧
        ((ofText text).position offset).column = 1 + (offset - start)) ∧
      Set.InjOn (ofText text).position (Set.Iio offsetLimit) ∧
      StrictMonoOn (fun offset => ((ofText text).position offset).key) (Set.Iio offsetLimit) := by
  refine ⟨fun offset hoffset => ?_, fun offset hoffset offset' hoffset' heq => ?_,
    fun offset hoffset offset' hoffset' hlt => ?_⟩
  · obtain ⟨hline, hcolumn⟩ := tells_position hsize hoffset
    exact ⟨position?_eq _ _, hline, hcolumn⟩
  · exact (tells_position hsize hoffset).unique (heq ▸ tells_position hsize hoffset')
  · exact (tells_position hsize hoffset).key_lt_key (tells_position hsize hoffset') hlt

section Samples

/-- Offsets on the second line of a text, at its end and behind it. -/
theorem position_ofText_twoLines :
    ∃ text, text = "abc\ndéf\n".toList ∧ byteLength text < offsetLimit ∧
      [4, 7, 9, 12].map (ofText text).position = [⟨2, 1⟩, ⟨2, 4⟩, ⟨3, 1⟩, ⟨3, 4⟩] ∧
      ((ofText text).position 7).line = 1 + ((bytes text).take 7).count lineFeed ∧
      ((ofText text).position 7).key < ((ofText text).position 12).key := by
  have hsize : byteLength "abc\ndéf\n".toList < offsetLimit := by decide
  obtain ⟨hcount, -, hmono⟩ := position_ofText hsize
  have hseven : 7 < offsetLimit := by decide
  have htwelve : 12 < offsetLimit := by decide
  exact ⟨_, rfl, hsize, by decide +kernel, (hcount 7 hseven).2.1,
    hmono hseven htwelve (by decide)⟩

/-- A text with `n` blanks in front of its line feed. -/
def wideText (n : Nat) : List Char :=
  "owner:a\x7d".toList ++ (List.replicate n ' ' ++ "\n   ".toList)

theorem startsFrom_append (offset : Nat) (a b : List Char) :
    startsFrom offset (a ++ b) = startsFrom offset a ++ startsFrom (offset + byteLength a) b := by
  induction a generalizing offset with
  | nil => rfl
  | cons c a ih =>
    rw [List.cons_append, startsFrom, startsFrom, ih, byteLength_cons, Nat.add_assoc]
    split <;> rfl

theorem startsFrom_eq_nil {text : List Char} (h : '\n' ∉ text) (offset : Nat) :
    startsFrom offset text = [] :=
  List.eq_nil_iff_forall_not_mem.2 fun _ hstart =>
    let ⟨_, hi, _⟩ := mem_startsFrom.1 hstart
    h (lineFeed_mem_bytes.1 (List.mem_of_getElem? hi))

theorem startsFrom_wideText (n : Nat) : startsFrom 0 (wideText n) = [8 + n + 1] := by
  have hblanks : '\n' ∉ List.replicate n ' ' := fun hmem =>
    absurd (List.eq_of_mem_replicate hmem) (by decide)
  have hword : '\n' ∉ "owner:a\x7d".toList := by decide
  have hfront : byteLength "owner:a\x7d".toList = 8 := rfl
  have hblank : ' '.utf8Size = 1 := rfl
  have hback (offset : Nat) : startsFrom offset "\n   ".toList = [offset + 1] := rfl
  have htext : wideText n = "owner:a\x7d".toList ++ (List.replicate n ' ' ++ "\n   ".toList) := rfl
  rw [htext, startsFrom_append, startsFrom_eq_nil hword, startsFrom_append,
    startsFrom_eq_nil hblanks, hback, byteLength_replicate, hfront, hblank, Nat.mul_one,
    Nat.zero_add, List.nil_append, List.nil_append]

/-- The first line of this text is too long for the start of the second one to be kept in 32
bits. -/
def longLine : List Char :=
  wideText (offsetLimit - 4)

theorem starts_longLine : (ofText longLine).starts = [0, 5] := by
  have hwrap : wrap (8 + (offsetLimit - 4) + 1) = 5 := by decide
  have hstarts : (ofText longLine).starts = 0 :: (startsFrom 0 longLine).map wrap := rfl
  rw [hstarts, longLine, startsFrom_wideText, List.map_singleton, hwrap]

theorem position_longLine : (ofText longLine).position 7 = ⟨2, 3⟩ := by
  obtain ⟨line, start, hposition, hstart, hle, hlater⟩ := (ofText longLine).position_spec 7
  have hseven : wrap 7 = 7 := rfl
  rw [starts_longLine] at hstart hlater
  rw [hseven] at hposition hlater
  rw [hposition]
  rcases line with - | - | line
  · exact absurd (hlater (by decide) 1 5 (by decide) rfl) (by decide)
  · cases hstart
    rfl
  · cases hstart

/-- No line feed is in front of the brace. -/
theorem count_take_wideText (n : Nat) : ((bytes (wideText n)).take 7).count lineFeed = 0 :=
  rfl

/-- In a text that is too long, an offset on the first line may be found on the second one. -/
theorem not_tells_position_longLine :
    (ofText longLine).position 7 = ⟨2, 3⟩ ∧ ((bytes longLine).take 7).count lineFeed = 0 ∧
      ¬((ofText longLine).position 7).Tells longLine 7 := by
  have hcount : ((bytes longLine).take 7).count lineFeed = 0 := count_take_wideText _
  refine ⟨position_longLine, hcount, fun h => ?_⟩
  have hline := h.line
  rw [position_longLine, hcount] at hline
  cases hline

end Samples

end LineIndex

end PolicyEditor
