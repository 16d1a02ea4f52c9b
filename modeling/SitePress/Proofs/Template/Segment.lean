import SitePress.Template.Grammar
import SitePress.Template.Normal

/-!
# Templates atom by atom

How a template is cut into segments does not matter to what it says: that is a
sequence of characters and placeholders, its atoms.  A normal template is the only
one with its atoms, which makes "neighbouring literals are one, and none is empty" a
description of the segments and not of the way in which they are put together.

## Main definitions

* `Atom`, `Template.atoms` — a character or a placeholder, and those of a template.
* `Template.ofAtoms` — the normal template with given atoms.
-/

namespace SitePress

/-- What a template is a sequence of. -/
inductive Atom
  /-- A character of literal text. -/
  | char (c : Char)
  | placeholder (slot : Placeholder)
  deriving DecidableEq, Repr

/-- The characters of a literal, or the placeholder. -/
def Segment.atoms : Segment → List Atom
  | .literal text => text.map .char
  | .placeholder slot => [.placeholder slot]

/-- What the segments say, one behind the other. -/
def Template.atoms (segments : Template) : List Atom :=
  segments.flatMap Segment.atoms

/-- Puts an atom in front of segments. -/
def Atom.cons : Atom → Template → Template
  | .char c, segments => Segment.prepend [c] segments
  | .placeholder slot, segments => .placeholder slot :: segments

/-- The segments that say what the atoms say. -/
def Template.ofAtoms (atoms : List Atom) : Template :=
  atoms.foldr Atom.cons []

/-! ## Literal text in front -/

namespace Segment

@[simp] theorem prepend_nil (segments : Template) : prepend [] segments = segments := by
  unfold prepend
  split <;> simp

/-- Text becomes a literal of its own unless there is one already to take it up. -/
theorem prepend_eq_cons {text : Text} {segments : Template} (hempty : text ≠ [])
    (h : ∀ next behind, segments ≠ .literal next :: behind) :
    prepend text segments = .literal text :: segments := by
  rw [prepend, if_neg hempty]
  exact h

theorem prepend_prepend (s t : Text) (segments : Template) :
    prepend s (prepend t segments) = prepend (s ++ t) segments := by
  cases segments with
  | nil => by_cases ht : t = [] <;> simp [prepend, ht]
  | cons segment segments =>
    cases segment with
    | literal next => simp [prepend]
    | placeholder slot => by_cases ht : t = [] <;> simp [prepend, ht]

theorem foldr_atoms (segment : Segment) (segments : Template) :
    segment.atoms.foldr Atom.cons segments =
      match segment with
      | .literal text => prepend text segments
      | .placeholder slot => .placeholder slot :: segments := by
  cases segment with
  | literal text =>
    induction text with
    | nil => exact (prepend_nil segments).symm
    | cons c text ih =>
      rw [atoms, List.map_cons, List.foldr_cons]
      exact (congrArg (prepend [c]) ih).trans (prepend_prepend [c] text segments)
  | placeholder slot => rfl

end Segment

namespace Template

variable {segments : Template} {segment : Segment}

@[simp] theorem atoms_cons (segment : Segment) (segments : Template) :
    atoms (segment :: segments) = segment.atoms ++ atoms segments :=
  List.flatMap_cons

theorem atoms_prepend (text : Text) (segments : Template) :
    atoms (Segment.prepend text segments) = text.map .char ++ atoms segments := by
  unfold Segment.prepend
  split
  · simp [Segment.atoms]
  · split
    next hempty => simp [hempty]
    · rfl

/-- No atom is lost, added or moved. -/
theorem atoms_ofAtoms (atoms : List Atom) : (ofAtoms atoms).atoms = atoms := by
  induction atoms with
  | nil => rfl
  | cons atom rest ih =>
    cases atom with
    | char c =>
      refine (atoms_prepend [c] (ofAtoms rest)).trans ?_
      rw [ih]
      rfl
    | placeholder slot =>
      refine (atoms_cons (.placeholder slot) (ofAtoms rest)).trans ?_
      rw [ih]
      rfl

theorem ofAtoms_atoms_cons (segment : Segment) (segments : Template) :
    ofAtoms (atoms (segment :: segments)) =
      segment.atoms.foldr Atom.cons (ofAtoms (atoms segments)) := by
  rw [atoms_cons, ofAtoms, List.foldr_append]
  rfl

/-! ## Normal templates -/

theorem normal_nil : Normal [] where
  proper := by simp
  apart := by simp

theorem normal_cons_iff :
    Normal (segment :: segments) ↔
      segment.Proper ∧ Normal segments ∧
        ∀ s t behind, segment = .literal s → segments ≠ .literal t :: behind := by
  constructor
  · rintro ⟨proper, apart⟩
    rw [List.forall_mem_cons] at proper
    refine ⟨proper.1, ⟨proper.2, fun front s t behind h => ?_⟩, ?_⟩
    · exact apart (segment :: front) s t behind (by rw [h]; rfl)
    · rintro s t behind rfl rfl
      exact apart [] s t behind rfl
  · rintro ⟨hproper, ⟨proper, apart⟩, hapart⟩
    refine ⟨List.forall_mem_cons.2 ⟨hproper, proper⟩, fun front s t behind h => ?_⟩
    cases front with
    | nil =>
      obtain ⟨hsegment, hsegments⟩ := List.cons_eq_cons.1 h
      exact hapart s t behind hsegment hsegments
    | cons _ front => exact apart front s t behind (List.cons_eq_cons.1 h).2

/-- Text in front of a normal template is taken up without an empty or a second literal. -/
theorem Normal.prepend (h : Normal segments) (text : Text) :
    Normal (Segment.prepend text segments) := by
  by_cases hempty : text = []
  · rwa [hempty, Segment.prepend_nil]
  by_cases hliteral : ∃ next behind, segments = .literal next :: behind
  · obtain ⟨next, behind, rfl⟩ := hliteral
    obtain ⟨_, hrest, hapart⟩ := normal_cons_iff.1 h
    refine normal_cons_iff.2 ⟨?_, hrest, ?_⟩
    · simp [Segment.Proper, hempty]
    · intro s t behind _
      exact hapart next t behind rfl
  · simp only [not_exists] at hliteral
    rw [Segment.prepend_eq_cons hempty hliteral]
    exact normal_cons_iff.2 ⟨hempty, h, fun _ t behind _ => hliteral t behind⟩

/-- Atoms are put together into a normal template. -/
theorem normal_ofAtoms {atoms : List Atom}
    (h : ∀ slot, Atom.placeholder slot ∈ atoms → slot.Writable) : Normal (ofAtoms atoms) := by
  induction atoms with
  | nil => exact normal_nil
  | cons atom rest ih =>
    have hrest := ih fun slot hslot => h slot (List.mem_cons_of_mem _ hslot)
    cases atom with
    | char c => exact hrest.prepend [c]
    | placeholder slot => exact normal_cons_iff.2 ⟨h slot List.mem_cons_self, hrest, by simp⟩

/-- Only one normal template has given atoms. -/
theorem Normal.ofAtoms_atoms (h : Normal segments) : ofAtoms segments.atoms = segments := by
  induction segments with
  | nil => rfl
  | cons segment segments ih =>
    obtain ⟨hproper, hrest, hapart⟩ := normal_cons_iff.1 h
    rw [ofAtoms_atoms_cons, ih hrest, Segment.foldr_atoms]
    cases segment with
    | literal text =>
      exact Segment.prepend_eq_cons hproper fun next behind => hapart text next behind rfl
    | placeholder slot => rfl

/-! ## Filling -/

/-- What a template fills to is decided by its atoms. -/
theorem fill_ofAtoms_atoms (values : Values) (segments : Template) :
    (ofAtoms segments.atoms).fill values = segments.fill values := by
  induction segments with
  | nil => rfl
  | cons segment segments ih =>
    rw [ofAtoms_atoms_cons, Segment.foldr_atoms]
    cases segment with
    | literal text => rw [fill_prepend, fill_literal_cons, ih]
    | placeholder slot => simp only [fill, ih]

end Template

end SitePress
