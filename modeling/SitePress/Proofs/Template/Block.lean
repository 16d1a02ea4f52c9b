import SitePress.Proofs.Template.Sensitivity
import SitePress.Proofs.Text.Bytes

/-!
# What a placeholder puts into a text

For its value a placeholder puts one block into the text, behind all that is there already.  The
block is the value as it is shown, cut to the precision and then filled up with spaces to the
width.  All of this counts characters; where the cut is made in the bytes of the shown value is
where one of its characters starts, so no character is cut in two.
-/

namespace SitePress

/-! ## Layouts -/

namespace Layout

theorem truncate_eq_take (layout : Layout) (t : Text) :
    layout.truncate t = t.take (layout.precision.elim t.length (min · t.length)) := by
  unfold truncate
  cases layout.precision with
  | none => exact (List.take_length).symm
  | some precision => exact List.take_eq_take_min

theorem padding_eq_replicate (layout : Layout) (t : Text) :
    layout.padding t = List.replicate (layout.width.elim 0 (· - t.length)) ' ' := by
  unfold padding
  cases layout.width with
  | none => rw [Option.getD_none, Nat.zero_sub, Option.elim_none]
  | some width => rfl

/-- The byte behind so many characters as are kept is where a character starts, and the bytes in
front of it are those of what is kept; if there is no such character, then all is kept. -/
theorem truncate_at_byte {layout : Layout} {precision : Nat}
    (h : layout.precision = some precision) (t : Text) :
    match (t.positions 0)[precision]? with
    | none => layout.truncate t = t
    | some (stop, _) =>
      Text.decode? ((Text.encode t).extract 0 stop) = some (layout.truncate t) := by
  have hkept : layout.truncate t = t.take precision := by
    rw [truncate, h]
  rw [hkept, Text.getElem?_positions]
  cases hfound : t[precision]? with
  | none => exact List.take_of_length_le (List.getElem?_eq_none_iff.1 hfound)
  | some c =>
    -- the byte found is as far behind the start as the kept characters take room
    have hread := Text.decode?_extract_encode (t.take precision) (t.drop precision)
    rw [List.take_append_drop] at hread
    simpa using hread

end Layout

/-! ## Places in a text -/

namespace Template

variable {values : Values} {front : Template} {slot : Placeholder} {value output : Text}

/-- What segments put behind a template comes behind what the template fills to. -/
theorem fill_append_of_ok (h : fill values front = .ok output) (behind : Template) :
    fill values (front ++ behind) = (fill values behind).map (output ++ ·) := by
  induction front generalizing output with
  | nil =>
    cases h
    exact (congrFun Except.map_id _).symm
  | cons segment front ih =>
    obtain ⟨first, rest, hfirst, hrest, rfl⟩ := fill_cons_eq_ok_iff.1 h
    rw [List.cons_append, fill, hfirst, ih hrest]
    cases fill values behind with
    | error missing => rfl
    | ok later => exact congrArg Except.ok (List.append_assoc first rest later).symm

/-- A placeholder with a value puts its block between what is in front of it and what follows. -/
theorem fill_append_placeholder (hfront : fill values front = .ok output)
    (hvalue : values slot.key = some value) (behind : Template) :
    fill values (front ++ .placeholder slot :: behind) =
      (fill values behind).map (output ++ slot.block value ++ ·) := by
  rw [fill_append_of_ok hfront, fill_placeholder_cons, hvalue]
  simp only [except_map_map, List.append_assoc]

/-- Behind all that a text holds so far, a placeholder puts one block for its value.  This is the
value as the conversion shows it, cut to the precision and then padded on one side to the width,
all counted in characters; and the cut is made at a byte at which a character starts. -/
theorem fill_puts_one_block (slot : Placeholder) (value : Text) :
    ∃ converted kept spaces block : Text,
      converted = (match slot.conversion with
        | .plain => value
        | .quoted => Quoted.encode false value
        | .ascii => Quoted.encode true value) ∧
      kept = converted.take (slot.layout.precision.elim converted.length (min · converted.length)) ∧
      spaces = List.replicate (slot.layout.width.elim 0 (· - kept.length)) ' ' ∧
      block = (if slot.layout.leftAlign then kept ++ spaces else spaces ++ kept) ∧
      block.length = max (slot.layout.width.getD 0)
        (min (slot.layout.precision.getD converted.length) converted.length) ∧
      (∀ precision ∈ slot.layout.precision,
        match (converted.positions 0)[precision]? with
        | none => kept = converted
        | some (stop, _) => Text.decode? ((Text.encode converted).extract 0 stop) = some kept) ∧
      ∀ (values : Values) (front behind : Template) (output : Text),
        fill values front = .ok output → values slot.key = some value →
        fill values (front ++ .placeholder slot :: behind) =
          (fill values behind).map (output ++ block ++ ·) := by
  have hconverted : slot.conversion.convert value = (match slot.conversion with
      | .plain => value
      | .quoted => Quoted.encode false value
      | .ascii => Quoted.encode true value) := by
    cases slot.conversion <;> rfl
  refine ⟨slot.conversion.convert value, slot.layout.truncate (slot.conversion.convert value),
    slot.layout.padding (slot.layout.truncate (slot.conversion.convert value)), slot.block value,
    hconverted, ?_, ?_, ?_, ?_, ?_, ?_⟩
  · exact slot.layout.truncate_eq_take _
  · exact slot.layout.padding_eq_replicate _
  · rfl
  · rw [Placeholder.block, Layout.length_fit, Layout.length_truncate]
  · intro precision hprecision
    exact Layout.truncate_at_byte hprecision _
  · intro values front behind output hfront hvalue
    exact fill_append_placeholder hfront hvalue behind

/-- Of a quoted value in six characters five are kept, which take eight bytes, and three
spaces follow them in front of the rest of the text. -/
theorem fill_puts_one_block_cut :
    fill (Values.ofList [(['k'], "né☕x".toList)])
        [.literal ['ü'], .placeholder ⟨['k'], ⟨true, some 8, some 5⟩, .quoted⟩, .literal ['!']] =
      .ok "ü'né☕x   !".toList ∧
    (Text.positions 0 "'né☕x'".toList)[5]? = some (8, '\'') ∧
    Text.decode? ((Text.encode "'né☕x'".toList).extract 0 8) = some "'né☕x".toList := by
  obtain ⟨converted, kept, spaces, block, rfl, rfl, rfl, rfl, -, hcut, hfill⟩ :=
    fill_puts_one_block ⟨['k'], ⟨true, some 8, some 5⟩, .quoted⟩ "né☕x".toList
  exact ⟨hfill _ [.literal ['ü']] [.literal ['!']] ['ü'] rfl rfl, rfl, hcut 5 rfl⟩

end Template

end SitePress
