/-!
# Text

Every text of this library — a template, a key, a value, a path, a message — is
the list of its characters.  Lengths, widths and precisions count characters;
offsets and the limits of file names count bytes of the UTF-8 form, which is
what `utf8Size` measures and `encode` produces.

## Main definitions

* `Text` — a list of Unicode scalar values.
* `Text.utf8Size` — the number of bytes of a text in UTF-8.
* `Text.takeBytes?`, `Text.dropBytes?` — a text cut where it has so many bytes.
* `Text.encode`, `Text.decode?` — a text and its bytes.
-/

namespace SitePress

/-- A text is the list of its characters. -/
abbrev Text := List Char

namespace Text

/-! ## Size in bytes -/

/-- The number of bytes of a text in UTF-8. -/
def utf8Size (t : Text) : Nat :=
  t.foldr (fun c size => c.utf8Size + size) 0

@[simp] theorem utf8Size_nil : utf8Size [] = 0 := rfl

@[simp] theorem utf8Size_cons (c : Char) (t : Text) :
    utf8Size (c :: t) = c.utf8Size + utf8Size t := rfl

/-- Sizes add up, so a byte offset is the size of the text before it. -/
@[simp] theorem utf8Size_append (s t : Text) :
    utf8Size (s ++ t) = utf8Size s + utf8Size t := by
  induction s with
  | nil => simp
  | cons c s ih => simp [ih, Nat.add_assoc]

/-! ## Cutting at bytes -/

/-- The text of the first `n` bytes; `none` if these are no whole characters. -/
def takeBytes? : Nat → Text → Option Text
  | 0, _ => some []
  | _ + 1, [] => none
  | n + 1, c :: t =>
    if c.utf8Size ≤ n + 1 then (takeBytes? (n + 1 - c.utf8Size) t).map (c :: ·) else none

/-- The text behind the first `n` bytes; `none` if these are no whole characters. -/
def dropBytes? : Nat → Text → Option Text
  | 0, t => some t
  | _ + 1, [] => none
  | n + 1, c :: t => if c.utf8Size ≤ n + 1 then dropBytes? (n + 1 - c.utf8Size) t else none

/-- Cut behind a text, what is put behind it is left. -/
@[simp] theorem dropBytes?_append (s t : Text) : dropBytes? (utf8Size s) (s ++ t) = some t := by
  induction s with
  | nil => simp [dropBytes?]
  | cons c s ih =>
    have := c.utf8Size_pos
    obtain ⟨n, hn⟩ : ∃ n, c.utf8Size + utf8Size s = n + 1 := ⟨_, (Nat.succ_pred (by omega)).symm⟩
    have hrest : n + 1 - c.utf8Size = utf8Size s := by omega
    simp [hn, dropBytes?, hrest, ih, show c.utf8Size ≤ n + 1 by omega]

@[simp] theorem takeBytes?_append (s t : Text) : takeBytes? (utf8Size s) (s ++ t) = some s := by
  induction s with
  | nil => simp [takeBytes?]
  | cons c s ih =>
    have := c.utf8Size_pos
    obtain ⟨n, hn⟩ : ∃ n, c.utf8Size + utf8Size s = n + 1 := ⟨_, (Nat.succ_pred (by omega)).symm⟩
    have hrest : n + 1 - c.utf8Size = utf8Size s := by omega
    simp [hn, takeBytes?, hrest, ih, show c.utf8Size ≤ n + 1 by omega]

@[simp] theorem takeBytes?_utf8Size (s : Text) : takeBytes? (utf8Size s) s = some s := by
  simpa using takeBytes?_append s []

/-! ## Bytes -/

def encode (t : Text) : ByteArray :=
  (String.ofList t).toByteArray

/-- Reads bytes as UTF-8; `none` when they are not. -/
def decode? (bytes : ByteArray) : Option Text :=
  (String.fromUTF8? bytes).map String.toList

/-- The bytes of a text are valid UTF-8 and read back as that text. -/
@[simp] theorem decode?_encode (t : Text) : decode? (encode t) = some t := by
  have valid := (String.ofList t).isValidUTF8
  have back : String.fromUTF8 (String.ofList t).toByteArray valid = String.ofList t := rfl
  unfold decode? encode String.fromUTF8?
  rw [dif_pos valid, back, Option.map_some, String.toList_ofList]

/-- Bytes that read as a text are the bytes of that text: UTF-8 has one form per text. -/
theorem encode_of_decode? {bytes : ByteArray} {t : Text} (h : decode? bytes = some t) :
    encode t = bytes := by
  obtain ⟨s, hs, rfl⟩ := Option.map_eq_some_iff.1 h
  unfold String.fromUTF8? at hs
  split at hs
  · obtain rfl := Option.some.inj hs
    simp [encode, String.fromUTF8]
  · contradiction

end Text

end SitePress
