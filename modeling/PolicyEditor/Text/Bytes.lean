/-!
# Byte positions in a text

Texts are lists of characters, while spans of a text are given in bytes of its UTF-8 form.  This
file cuts a text at byte positions.  A cut that falls inside a character or behind the end of the
text has no result, and a slice with such an end is empty.

Offsets that the program keeps are 32 bits wide.  They are the exact ones in a text of fewer than
`2 ^ 32` bytes.

## Main definitions

* `Text.byteLength` : the number of bytes of a text.
* `Text.wrap` : a byte offset in 32 bits.
* `Text.dropBytes`, `Text.takeBytes` : the text after and before a byte position.
* `Text.slice` : the text between two byte positions.
-/

namespace PolicyEditor.Text

/-- The number of bytes of a text in UTF-8. -/
def byteLength : List Char → Nat
  | [] => 0
  | c :: cs => c.utf8Size + byteLength cs

@[simp] theorem byteLength_nil : byteLength [] = 0 := rfl

@[simp] theorem byteLength_cons (c : Char) (cs : List Char) :
    byteLength (c :: cs) = c.utf8Size + byteLength cs := rfl

@[simp] theorem byteLength_append (a b : List Char) :
    byteLength (a ++ b) = byteLength a + byteLength b := by
  induction a with
  | nil => simp
  | cons c cs ih => simp [ih, Nat.add_assoc]

theorem byteLength_replicate (n : Nat) (c : Char) :
    byteLength (List.replicate n c) = n * c.utf8Size := by
  induction n with
  | zero => simp
  | succ n ih => rw [List.replicate_succ, byteLength_cons, ih, Nat.succ_mul, Nat.add_comm]

/-- The number of byte offsets that 32 bits can tell apart, `2 ^ 32`. -/
def offsetLimit : Nat := 0x100000000

/-- A byte offset in 32 bits.  What is beyond them is lost. -/
def wrap (offset : Nat) : Nat :=
  offset % offsetLimit

theorem wrap_of_lt {offset : Nat} (h : offset < offsetLimit) : wrap offset = offset :=
  Nat.mod_eq_of_lt h

theorem wrap_wrap_add (a b : Nat) : wrap (wrap a + b) = wrap (a + b) :=
  Nat.mod_add_mod a offsetLimit b

/-- The text after its first `n` bytes. -/
def dropBytes : Nat → List Char → Option (List Char)
  | 0, cs => some cs
  | _ + 1, [] => none
  | n + 1, c :: cs => if c.utf8Size ≤ n + 1 then dropBytes (n + 1 - c.utf8Size) cs else none

/-- The first `n` bytes of a text. -/
def takeBytes : Nat → List Char → Option (List Char)
  | 0, _ => some []
  | _ + 1, [] => none
  | n + 1, c :: cs =>
    if c.utf8Size ≤ n + 1 then (takeBytes (n + 1 - c.utf8Size) cs).map (c :: ·) else none

@[simp] theorem dropBytes_zero (cs : List Char) : dropBytes 0 cs = some cs := by
  cases cs <;> rfl

@[simp] theorem takeBytes_zero (cs : List Char) : takeBytes 0 cs = some [] := by
  cases cs <;> rfl

theorem dropBytes_add_cons (c : Char) (cs : List Char) (n : Nat) :
    dropBytes (c.utf8Size + n) (c :: cs) = dropBytes n cs := by
  have h := c.utf8Size_pos
  obtain ⟨k, hk⟩ : ∃ k, c.utf8Size + n = k + 1 := ⟨c.utf8Size + n - 1, by omega⟩
  rw [hk, dropBytes, if_pos (by omega), ← hk, Nat.add_sub_cancel_left]

theorem takeBytes_add_cons (c : Char) (cs : List Char) (n : Nat) :
    takeBytes (c.utf8Size + n) (c :: cs) = (takeBytes n cs).map (c :: ·) := by
  have h := c.utf8Size_pos
  obtain ⟨k, hk⟩ : ∃ k, c.utf8Size + n = k + 1 := ⟨c.utf8Size + n - 1, by omega⟩
  rw [hk, takeBytes, if_pos (by omega), ← hk, Nat.add_sub_cancel_left]

@[simp] theorem dropBytes_append (a b : List Char) :
    dropBytes (byteLength a) (a ++ b) = some b := by
  induction a with
  | nil => simp
  | cons c cs ih => simp [dropBytes_add_cons, ih]

@[simp] theorem takeBytes_append (a b : List Char) :
    takeBytes (byteLength a) (a ++ b) = some a := by
  induction a with
  | nil => simp
  | cons c cs ih => simp [takeBytes_add_cons, ih]

/-- The text from byte `start` on, empty if no character starts there. -/
def suffix (start : Nat) (cs : List Char) : List Char :=
  (dropBytes start cs).getD []

/-- The text before byte `stop`, empty if no character ends there. -/
def before (stop : Nat) (cs : List Char) : List Char :=
  (takeBytes stop cs).getD []

/-- The text between two byte positions, empty if they do not delimit a piece of the text. -/
def slice (start stop : Nat) (cs : List Char) : List Char :=
  if start ≤ stop then before (stop - start) (suffix start cs) else []

@[simp] theorem suffix_append (a b : List Char) : suffix (byteLength a) (a ++ b) = b := by
  simp [suffix]

@[simp] theorem before_append (a b : List Char) : before (byteLength a) (a ++ b) = a := by
  simp [before]

/-- A piece of a text is the slice between the bytes where it starts and ends. -/
theorem slice_append (a b c : List Char) :
    slice (byteLength a) (byteLength a + byteLength b) (a ++ (b ++ c)) = b := by
  simp [slice]

end PolicyEditor.Text
