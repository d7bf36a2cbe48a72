/-!
# Text as a list of characters

Every offset, length and column of this library counts characters, so a text is the list of its
characters.  Reading functions recurse on what is left of a text.

* `Text.slice` — the part of a text between two offsets; adjacent slices join (`slice_append`), and
  what a text reads like from an offset on is a slice of it (`slice_of_drop`).
* `Text.offsetWhere?` — how far away the nearest suffix with a given property starts.
* `Text.commonStart` — the longest text that two texts both start with.
* `Text.before` — the order of texts.
* `Text.byteCount` — the length of a text in bytes.
* `Text.ofNat`, `Text.ofInt` — decimal numerals.
-/

namespace GlassPrompt

/-- A text, as the list of its characters. -/
abbrev Text := List Char

namespace Text

/-- The characters from offset `start` up to, but not including, offset `stop`. -/
def slice (text : Text) (start stop : Nat) : Text :=
  (text.drop start).take (stop - start)

/-- The least offset whose suffix satisfies `p`; the empty suffix counts. -/
def offsetWhere? (p : Text → Bool) : Text → Option Nat
  | [] => if p [] then some 0 else none
  | c :: rest => if p (c :: rest) then some 0 else (offsetWhere? p rest).map (· + 1)

/-- The longest text that both texts start with. -/
def commonStart : Text → Text → Text
  | a :: s, b :: t => if a = b then a :: commonStart s t else []
  | _, _ => []

/-- The first text stands before the second one in the order of their characters. -/
def before (first second : Text) : Bool :=
  List.lex first second fun a b => decide (a.toNat < b.toNat)

/-- The number of bytes that the text takes in UTF-8. -/
def byteCount (text : Text) : Nat :=
  text.foldl (fun bytes c => bytes + c.utf8Size) 0

/-- The decimal numeral of a natural number. -/
def ofNat (n : Nat) : Text :=
  Nat.toDigits 10 n

/-- The decimal numeral of an integer, with a minus sign if it is negative. -/
def ofInt : Int → Text
  | .ofNat n => ofNat n
  | .negSucc n => '-' :: ofNat (n + 1)

theorem isPrefixOf?_eq_some_iff {start text rest : Text} :
    start.isPrefixOf? text = some rest ↔ start ++ rest = text := by
  induction start generalizing text with
  | nil =>
    show some text = some rest ↔ rest = text
    rw [Option.some.injEq, eq_comm]
  | cons a start ih =>
    cases text with
    | nil =>
      show none = some rest ↔ a :: (start ++ rest) = []
      simp
    | cons b text =>
      show (if a == b then start.isPrefixOf? text else none) = some rest ↔
        a :: (start ++ rest) = b :: text
      by_cases h : a = b <;> simp [h, ih]

@[simp] theorem slice_self (text : Text) (start : Nat) : slice text start start = [] := by
  simp [slice]

theorem length_slice_le (text : Text) (start stop : Nat) :
    (slice text start stop).length ≤ stop - start := by
  simp only [slice, List.length_take]
  omega

theorem length_slice {text : Text} {start stop : Nat} (inside : stop ≤ text.length) :
    (slice text start stop).length = stop - start := by
  simp only [slice, List.length_take, List.length_drop]
  omega

theorem slice_append (text : Text) {start mid stop : Nat} (before : start ≤ mid)
    (behind : mid ≤ stop) : slice text start mid ++ slice text mid stop = slice text start stop := by
  have rest : text.drop mid = (text.drop start).drop (mid - start) := by
    rw [List.drop_drop, Nat.add_sub_cancel' before]
  have whole : stop - start = mid - start + (stop - mid) := by omega
  rw [slice, slice, slice, rest, whole, List.take_add]

theorem slice_length (text : Text) (start : Nat) : slice text start text.length = text.drop start :=
  List.take_of_length_le (Nat.le_of_eq List.length_drop)

/-- What a text reads like from an offset on, taken as a slice of it. -/
theorem slice_of_drop {text part rest : Text} {start : Nat} (h : text.drop start = part ++ rest) :
    slice text start (start + part.length) = part := by
  rw [slice, h, Nat.add_sub_cancel_left, List.take_left]

theorem length_of_drop {text part rest : Text} {start : Nat} (h : text.drop start = part ++ rest)
    (nonempty : part ≠ []) : start + part.length + rest.length = text.length := by
  have lengths := congrArg List.length h
  have := List.length_pos_iff.2 nonempty
  simp only [List.length_drop, List.length_append] at lengths
  omega

end Text

end GlassPrompt
