import SitePress.Text.Basic

/-!
# Characters and their bytes

A text can be cut where one of its characters starts, and nowhere else: of the UTF-8 form, the
bytes in front of such a place are again the UTF-8 form of a text.  So a text that is to be cut
behind so many characters may be cut at a byte, if the byte is found by counting characters.
-/

namespace SitePress.Text

/-- The characters of a text, each with the byte that it starts at, the first with `start`. -/
def positions (start : Nat) : Text → List (Nat × Char)
  | [] => []
  | c :: t => (start, c) :: positions (start + c.utf8Size) t

theorem getElem?_positions (start : Nat) (t : Text) (n : Nat) :
    (positions start t)[n]? = t[n]?.map fun c => (start + utf8Size (t.take n), c) := by
  induction t generalizing start n with
  | nil => rfl
  | cons c t ih =>
    cases n with
    | zero => rfl
    | succ n =>
      rw [positions, List.getElem?_cons_succ, List.getElem?_cons_succ, ih, List.take_succ_cons,
        utf8Size_cons, Nat.add_assoc]

@[simp] theorem map_snd_positions (start : Nat) (t : Text) :
    (positions start t).map Prod.snd = t := by
  induction t generalizing start with
  | nil => rfl
  | cons c t ih => rw [positions, List.map_cons, ih]

/-- A scan goes over the characters that it would go over without their positions. -/
theorem takeWhile_positions (p : Char → Bool) (start : Nat) (t : Text) :
    (positions start t).takeWhile (fun place => p place.2) = positions start (t.takeWhile p) := by
  induction t generalizing start with
  | nil => rfl
  | cons c t ih => cases hc : p c <;> simp [positions, hc, ih]

/-- What is behind a scan starts behind the bytes that it went over. -/
theorem dropWhile_positions (p : Char → Bool) (start : Nat) (t : Text) :
    (positions start t).dropWhile (fun place => p place.2) =
      positions (start + utf8Size (t.takeWhile p)) (t.dropWhile p) := by
  induction t generalizing start with
  | nil => rfl
  | cons c t ih => cases hc : p c <;> simp [positions, hc, ih, Nat.add_assoc]

/-! ## Slices -/

/-- The text between two bytes; `none` if they are out of range or out of order, or not both
at the start of a character or at the end. -/
def slice? (start stop : Nat) (t : Text) : Option Text :=
  if start ≤ stop then (dropBytes? start t).bind (takeBytes? (stop - start)) else none

/-- What stands between two texts is cut out by their sizes. -/
theorem slice?_append (front middle behind : Text) :
    slice? (utf8Size front) (utf8Size front + utf8Size middle) (front ++ (middle ++ behind)) =
      some middle := by
  rw [slice?, if_pos (Nat.le_add_right _ _), dropBytes?_append, Option.bind_some,
    Nat.add_sub_cancel_left, takeBytes?_append]

/-! ## Bytes -/

theorem encode_append (s t : Text) : encode (s ++ t) = encode s ++ encode t := by
  unfold encode
  rw [String.ofList_append, String.toByteArray_append]

/-- A text has as many bytes as its characters together. -/
theorem size_encode (t : Text) : (encode t).size = utf8Size t := by
  induction t with
  | nil => rfl
  | cons c t ih =>
    have hsplit : c :: t = [c] ++ t := rfl
    have hone : (encode [c]).size = c.utf8Size := by
      unfold encode
      rw [← String.singleton_eq_ofList]
      exact String.utf8ByteSize_singleton
    rw [hsplit, encode_append, ByteArray.size_append, ih, hone]
    rfl

/-- The bytes of a text are read as that text, also at the head of more bytes. -/
theorem decode?_extract_encode (s t : Text) :
    decode? ((encode (s ++ t)).extract 0 (utf8Size s)) = some s := by
  rw [encode_append, ← size_encode, ByteArray.extract_append_eq_left rfl, decode?_encode]

/-- The bytes behind those of a text are the bytes of what is behind it. -/
theorem extract_encode (s t : Text) :
    (encode (s ++ t)).extract (utf8Size s) (utf8Size (s ++ t)) = encode t := by
  rw [encode_append, utf8Size_append, ← size_encode s, ← size_encode t,
    ByteArray.extract_append_eq_right rfl rfl]

end SitePress.Text
