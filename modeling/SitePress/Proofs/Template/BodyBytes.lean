import SitePress.Proofs.Template.Marker
import SitePress.Proofs.Text.Bytes

/-!
# The body of a marker, byte by byte

A reader that holds its input as bytes remembers where things are, and adds places up.  Each of
its sums may overflow a word, each place may lie inside a character, and the count of open
parentheses may be taken below zero, in all of which cases there is no result.  None of this
happens: in words that can hold the size of its input it does what the reader by characters does.
-/

namespace SitePress

variable {bits : Nat}

/-! ## The closing parenthesis -/

namespace Key

/-- Goes over a text inside `depth` open parentheses, up to the one that closes the first of
them, and tells its byte; `some none` if there is none.  No result if more parentheses are
open than a word can count, or if one is closed while none is open. -/
def closing? (bits : Nat) : Nat → List (Nat × Char) → Option (Option Nat)
  | _, [] => some none
  | depth, (place, c) :: places =>
    if c = '(' then do
      let deeper ← Numeral.add? bits depth 1
      closing? bits deeper places
    else if c = ')' then
      match depth with
      | 0 => none
      | depth + 1 => if depth = 0 then some (some place) else closing? bits depth places
    else closing? bits depth places

/-- A key with a character more in front ends where it does without, counted from behind that
character. -/
private theorem map_end_cons (found : Option (Text × Text)) (c : Char) (start : Nat) :
    (found.map fun (key, behind) => (c :: key, behind)).map
        (fun split => start + Text.utf8Size split.1) =
      found.map fun split => start + c.utf8Size + Text.utf8Size split.1 := by
  rw [Option.map_map]
  congr 1
  funext split
  exact (Nat.add_assoc ..).symm

/-- Inside an open parenthesis, the scan by bytes finds the end of the key that the scan by
characters finds, and has counted no more parentheses than there are bytes. -/
theorem closing?_positions {depth : Nat} {t : Text}
    (hfits : depth + 1 + Text.utf8Size t < 1 <<< bits) (start : Nat) :
    closing? bits (depth + 1) (t.positions start) =
      some ((splitAt? depth t).map fun split => start + Text.utf8Size split.1) := by
  fun_induction splitAt? depth t generalizing start with
  | case1 depth => rfl
  | case2 depth t ih =>
    have hopen : '('.utf8Size = 1 := rfl
    rw [Text.utf8Size_cons, hopen] at hfits
    rw [map_end_cons, Text.positions, closing?, if_pos rfl, Numeral.add?_eq_some (by omega)]
    exact ih (by omega) _
  | case3 t => rfl
  | case4 t depth _ ih =>
    rw [Text.utf8Size_cons] at hfits
    rw [map_end_cons, Text.positions]
    exact ih (by omega) _
  | case5 depth c t hopen hclose ih =>
    rw [Text.utf8Size_cons] at hfits
    rw [map_end_cons, Text.positions, closing?, if_neg hopen, if_neg hclose]
    exact ih (by omega) _

theorem closing?_body {t : Text} (hfits : Text.utf8Size ('(' :: t) < 1 <<< bits) :
    closing? bits 0 (Text.positions 0 ('(' :: t)) =
      some ((split? t).map fun split => 1 + Text.utf8Size split.1) := by
  have hopen : '('.utf8Size = 1 := rfl
  rw [Text.utf8Size_cons, hopen] at hfits
  rw [Text.positions, closing?, if_pos rfl, Numeral.add?_eq_some (by omega)]
  exact closing?_positions (by omega) 1

end Key

/-! ## The specification -/

namespace FormatSpec

/-- A point and the digits behind it, if a point is the first of the characters given with
their places, and the characters that are left. -/
def scanPrecisionPlaces : List (Nat × Char) → Option Text × List (Nat × Char)
  | (_, '.') :: places =>
    (some ((places.takeWhile fun place => place.2.isDigit).map Prod.snd),
      places.dropWhile fun place => place.2.isDigit)
  | places => (none, places)

/-- The specification at the head of characters given with their places, each part as long
as it can be, and the characters that are left. -/
def scanPlaces (places : List (Nat × Char)) : FormatSpec × List (Nat × Char) :=
  let behindFlags := places.dropWhile fun place => isFlag place.2
  let precision := scanPrecisionPlaces (behindFlags.dropWhile fun place => place.2.isDigit)
  ({ flags := (places.takeWhile fun place => isFlag place.2).map Prod.snd
     width := (behindFlags.takeWhile fun place => place.2.isDigit).map Prod.snd
     precision := precision.1
     lengthModifiers :=
       (precision.2.takeWhile fun place => isLengthModifier place.2).map Prod.snd },
   precision.2.dropWhile fun place => isLengthModifier place.2)

theorem scanPrecisionPlaces_positions (start : Nat) (t : Text) :
    scanPrecisionPlaces (t.positions start) =
      ((scanPrecision t).1,
        (scanPrecision t).2.positions
          (start + Text.utf8Size (precisionText (scanPrecision t).1))) := by
  unfold scanPrecision
  split
  next t =>
    have hpoint : '.'.utf8Size = 1 := rfl
    simp only [Text.positions, scanPrecisionPlaces, Text.takeWhile_positions,
      Text.dropWhile_positions, Text.map_snd_positions, precisionText, Text.utf8Size_cons,
      Nat.add_assoc]
  next hpoint =>
    cases t with
    | nil => rfl
    | cons c t =>
      have hc : c ≠ '.' := fun h => hpoint t (by rw [h])
      simp [Text.positions, scanPrecisionPlaces, precisionText, hc]

/-- A scan by positions finds the specification that is there, and goes on behind its bytes. -/
theorem scanPlaces_positions (start : Nat) (t : Text) :
    scanPlaces (t.positions start) =
      ((scan t).1, (scan t).2.positions (start + Text.utf8Size (scan t).1.text)) := by
  simp only [scanPlaces, scan, text, Text.takeWhile_positions, Text.dropWhile_positions,
    Text.map_snd_positions, scanPrecisionPlaces_positions, Text.utf8Size_append, Nat.add_assoc]

end FormatSpec

/-! ## The body -/

namespace Placeholder

/-- Reads the body of a marker from its opening parenthesis, and measures it in bytes.  No
result if a sum does not fit in a word, a cut is out of range or inside a character, or a
parenthesis is closed that was not opened. -/
def measure? (bits : Nat) (body : Text) : Option (Except Fault (Placeholder × Nat)) := do
  let closing ← Key.closing? bits 0 (body.positions 0)
  match closing with
  | none => return .error .incompleteKey
  | some close =>
    let specStart ← Numeral.add? bits close 1
    let behindKey ← body.dropBytes? specStart
    let scanned := FormatSpec.scanPlaces (behindKey.positions 0)
    match scanned.1.layout? with
    | none => return .error .tooBig
    | some layout =>
      match scanned.2 with
      | [] => return .error .incompleteFormat
      | (place, c) :: _ =>
        match Conversion.ofLetter? c with
        | none => return .error (.unsupportedConversion c)
        | some conversion =>
          let key ← body.slice? 1 close
          let letterStart ← Numeral.add? bits specStart place
          let size ← Numeral.add? bits letterStart c.utf8Size
          return .ok ({ key, layout, conversion }, size)

private theorem dropBytes?_closed (key behind : Text) :
    Text.dropBytes? (1 + Text.utf8Size key + 1) ('(' :: (key ++ ')' :: behind)) = some behind := by
  have hsize : Text.utf8Size ('(' :: key ++ [')']) = 1 + Text.utf8Size key + 1 := by
    rw [Text.utf8Size_append]
    rfl
  rw [← hsize]
  simpa using Text.dropBytes?_append ('(' :: key ++ [')']) behind

private theorem slice?_closed (key behind : Text) :
    Text.slice? 1 (1 + Text.utf8Size key) ('(' :: (key ++ ')' :: behind)) = some key :=
  Text.slice?_append ['('] key (')' :: behind)

/-- In words that hold the size of its input, reading a body by bytes is reading it by
characters. -/
theorem measure?_eq {t : Text} (hfits : Text.utf8Size ('(' :: t) < 1 <<< bits) :
    measure? bits ('(' :: t) =
      some ((read t).map fun body => (body.placeholder, body.size)) := by
  have hopen : '('.utf8Size = 1 := rfl
  have hclose : ')'.utf8Size = 1 := rfl
  rw [measure?, Key.closing?_body hfits, read]
  rw [Text.utf8Size_cons, hopen] at hfits
  cases hsplit : Key.split? t with
  | none => rfl
  | some found =>
    obtain ⟨key, behindKey⟩ := found
    obtain rfl := Key.eq_of_split? hsplit
    rw [Text.utf8Size_append, Text.utf8Size_cons, hclose,
      ← FormatSpec.text_append_scan behindKey, Text.utf8Size_append] at hfits
    have hspecStart : 1 + Text.utf8Size key + 1 < 1 <<< bits := by omega
    simp only [Option.map_some, Option.bind_eq_bind, Option.bind_some,
      Numeral.add?_eq_some hspecStart, dropBytes?_closed, FormatSpec.scanPlaces_positions]
    cases FormatSpec.layout? (FormatSpec.scan behindKey).1 with
    | none => rfl
    | some layout =>
      cases hletter : (FormatSpec.scan behindKey).2 with
      | nil => rfl
      | cons c rest =>
        simp only [Text.positions]
        cases Conversion.ofLetter? c with
        | none => rfl
        | some conversion =>
          rw [hletter, Text.utf8Size_cons] at hfits
          generalize Text.utf8Size (FormatSpec.scan behindKey).1.text = written at hfits ⊢
          have hstart : 1 + Text.utf8Size key + 1 + (0 + written) < 1 <<< bits := by omega
          have hend : 1 + Text.utf8Size key + 1 + (0 + written) + c.utf8Size < 1 <<< bits := by
            omega
          have hsize : 1 + Text.utf8Size key + 1 + (0 + written) + c.utf8Size =
              Text.utf8Size key + 2 + (written + c.utf8Size) := by
            omega
          simp only [slice?_closed, Option.bind_some, Numeral.add?_eq_some hstart,
            Numeral.add?_eq_some hend, hsize]
          rfl

/-- The reader counts parentheses below zero when it is not started at an opening one. -/
example (t : Text) : measure? 64 (')' :: t) = none := rfl

/-- What is read is a marker, and its size is that from the opening parenthesis to the
conversion letter. -/
theorem measure?_eq_ok {t : Text} (hfits : Text.utf8Size ('(' :: t) < 1 <<< bits)
    {slot : Placeholder} {size : Nat} (h : measure? bits ('(' :: t) = some (.ok (slot, size))) :
    ∃ (marker : Marker) (rest : Text), marker.WellFormed ∧
      '%' :: '(' :: t = marker.text ++ rest ∧ marker.placeholder = slot ∧
      1 + size = Text.utf8Size marker.text := by
  rw [measure?_eq hfits] at h
  cases hread : read t with
  | error fault =>
    rw [hread] at h
    cases h
  | ok body =>
    rw [hread] at h
    cases h
    obtain ⟨marker, hmarker, heq, hslot, hsize⟩ := exists_marker_of_read hread
    exact ⟨marker, body.rest, hmarker, heq, hslot, hsize⟩

end Placeholder

end SitePress
