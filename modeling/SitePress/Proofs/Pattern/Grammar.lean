import Mathlib.Data.List.Induction
import SitePress.Proofs.Pattern.Reading

/-!
# How patterns are written

Patterns that switch no mode and name no group are characters, quoted ones, sets, repetitions,
alternatives and groups, one behind the other.  A text that is written so is a pattern unless it is
nested too deep, and how deep it is follows from how it is written.  Therefore every text can be
asked for: quoted it is a pattern.
-/

namespace SitePress.Pattern

variable {t rest inner : Text} {c : Char} {depth : Nat}
variable {parts alternatives innerParts innerAlternatives : List Nat}

/-! ## Writing -/

def operators : List Char :=
  ['(', ')', '|', '?', '*', '+']

/-- The characters that are not taken for themselves. -/
def signs : List Char :=
  operators ++ ['[', '\\', '.', '^', '$', '\x7b']

/-- How deep alternatives are, the parts of the last one being given. -/
def depthOf (parts alternatives : List Nat) : Nat :=
  together (together parts :: alternatives)

/-- A text is written as parts with certain depths, the last part first, behind alternatives with
certain depths. -/
inductive Written : Text → List Nat → List Nat → Prop
  | nothing : Written [] [] []
  | character {t : Text} {parts alternatives : List Nat} {c : Char}
    (h : Written t parts alternatives) (hc : c ∉ signs) :
    Written (t ++ [c]) (0 :: parts) alternatives
  | quoted {t : Text} {parts alternatives : List Nat} {c : Char}
    (h : Written t parts alternatives) (hc : Escape.isPlain c) :
    Written (t ++ ['\\', c]) (0 :: parts) alternatives
  | place {t : Text} {parts alternatives : List Nat} {c : Char}
    (h : Written t parts alternatives) (hc : c ∈ ['.', '^', '$']) :
    Written (t ++ [c]) (0 :: parts) alternatives
  | set {t members : Text} {parts alternatives : List Nat}
    (h : Written t parts alternatives) (hmembers : members ≠ []) :
    Written (t ++ '[' :: (quote members ++ [']']))
      ((together (List.replicate members.length 0) + 1) :: parts) alternatives
  | repeated {t : Text} {depth : Nat} {parts alternatives : List Nat} {c : Char}
    (h : Written t (depth :: parts) alternatives) (hc : c ∈ ['?', '*', '+']) :
    Written (t ++ [c]) ((depth + 1) :: parts) alternatives
  | branch {t : Text} {parts alternatives : List Nat} (h : Written t parts alternatives) :
    Written (t ++ ['|']) [] (together parts :: alternatives)
  | group {t inner : Text} {parts alternatives innerParts innerAlternatives : List Nat}
    (h : Written t parts alternatives) (hinner : Written inner innerParts innerAlternatives) :
    Written (t ++ '(' :: (inner ++ [')']))
      ((depthOf innerParts innerAlternatives + 1) :: parts) alternatives

namespace Written

theorem head?_append_ne {front behind : Text} {sign : Char} (hfront : front.head? ≠ some sign)
    (hbehind : behind.head? ≠ some sign) : (front ++ behind).head? ≠ some sign := by
  cases front with
  | nil => exact hbehind
  | cons d front => exact hfront

theorem ne_nil (h : Written t (depth :: parts) alternatives) : t ≠ [] := by
  cases h <;> simp

/-- Behind an opening parenthesis no question mark makes flags or a name of what is written. -/
theorem head?_ne (h : Written t parts alternatives) : t.head? ≠ some '?' := by
  induction h with
  | nothing => simp
  | character _ hc ih =>
    refine head?_append_ne ih ?_
    rintro h
    obtain rfl := Option.some.inj h
    exact hc (by decide)
  | quoted _ _ ih => exact head?_append_ne ih (by simp)
  | place _ hc ih =>
    refine head?_append_ne ih ?_
    rintro h
    obtain rfl := Option.some.inj h
    simp at hc
  | set _ _ ih => exact head?_append_ne ih (by simp)
  | repeated h _ ih =>
    rwa [List.head?_append, Option.or_of_isSome (List.isSome_head?.2 h.ne_nil)]
  | branch _ ih => exact head?_append_ne ih (by simp)
  | group _ _ ih _ => exact head?_append_ne ih (by simp)

end Written

/-! ## What is written is read -/

/-- A group with parts and alternatives of certain depths. -/
def Group.ofDepths (parts alternatives : List Nat) : Group :=
  { mode := .start
    parts := parts.map fun depth => { depth, repeatable := true }
    alternatives }

@[simp] theorem Group.allAlternatives_ofDepths (parts alternatives : List Nat) :
    (ofDepths parts alternatives).allAlternatives = together parts :: alternatives := by
  simp [allAlternatives, ofDepths, Function.comp_def]

namespace Reading

variable {outer : List Group} {names : List Text} {final : Reading}

theorem Reads.of_single (hc : c ∉ operators)
    (hsingle : single? .start c t = some (depth, rest))
    (h : Reads ⟨.ofDepths (depth :: parts) alternatives, outer, names⟩ rest final) :
    Reads ⟨.ofDepths parts alternatives, outer, names⟩ (c :: t) final := by
  simp only [operators, List.mem_cons, not_or] at hc
  refine .step rfl ?_ h
  simp [step?, hc, Group.ofDepths, hsingle, Group.add]

theorem step?_repeated (hc : c ∈ ['?', '*', '+']) (t : Text) :
    step? ⟨.ofDepths (depth :: parts) alternatives, outer, names⟩ c t =
      some (⟨.ofDepths ((depth + 1) :: parts) alternatives, outer, names⟩, t) := by
  simp only [List.mem_cons, List.not_mem_nil, or_false] at hc
  obtain rfl | rfl | rfl := hc <;> rfl

theorem step?_branch (t : Text) :
    step? ⟨.ofDepths parts alternatives, outer, names⟩ '|' t =
      some (⟨.ofDepths [] (together parts :: alternatives), outer, names⟩, t) := by
  simp [step?, Group.branch]
  rfl

theorem step?_open (ht : t.head? ≠ some '?') (group : Group) (hmode : group.mode = .start) :
    step? ⟨group, outer, names⟩ '(' t = some (⟨.ofDepths [] [], group :: outer, names⟩, t) := by
  have hskip : group.mode.skip t = t := by
    rw [hmode]
    rfl
  simp only [step?, if_true, parenthesis?, hskip]
  split
  · exact absurd rfl ht
  · exact absurd rfl ht
  · exact absurd rfl ht
  · rw [hmode]
    rfl

theorem step?_close (t : Text) :
    step? ⟨.ofDepths innerParts innerAlternatives,
        .ofDepths parts alternatives :: outer, names⟩ ')' t =
      some (⟨.ofDepths ((depthOf innerParts innerAlternatives + 1) :: parts) alternatives,
        outer, names⟩, t) := by
  simp [step?, leave?, Group.depth, depthOf]
  rfl

end Reading

theorem single?_character (hc : c ∉ signs) (t : Text) : single? .start c t = some (0, t) := by
  simp only [signs, List.mem_append, List.mem_cons, not_or] at hc
  simp [single?, hc, Mode.admits, Mode.start]

theorem single?_quoted (hc : Escape.isPlain c) (t : Text) :
    single? .start '\\' (c :: t) = some (0, t) := by
  simp [single?, Escape.read?_plain hc, Escape.isAdmitted, Mode.admits, Mode.start]

theorem single?_place (hc : c ∈ ['.', '^', '$']) (t : Text) :
    single? .start c t = some (0, t) := by
  simp only [List.mem_cons, List.not_mem_nil, or_false] at hc
  obtain rfl | rfl | rfl := hc <;> rfl

theorem single?_set {members : Text} (hmembers : members ≠ []) (t : Text) :
    single? .start '[' (quote members ++ ']' :: t) =
      some (together (List.replicate members.length 0) + 1, t) := by
  rw [single?, if_pos rfl, Bracket.read?_quote hmembers]

/-- What is written leads from an opened group to one with these parts, whatever is behind it. -/
theorem Written.reads (h : Written t parts alternatives) {outer : List Group}
    {names : List Text} {final : Reading}
    (hrest : Reading.Reads ⟨.ofDepths parts alternatives, outer, names⟩ rest final) :
    Reading.Reads ⟨.ofDepths [] [], outer, names⟩ (t ++ rest) final := by
  induction h generalizing rest outer with
  | nothing => exact hrest
  | character _ hc ih =>
    rw [List.append_assoc]
    have hoperator : _ ∉ operators := fun hmem => hc (List.mem_append_left _ hmem)
    exact ih (.of_single hoperator (single?_character hc _) hrest)
  | quoted _ hc ih =>
    rw [List.append_assoc]
    exact ih (.of_single (by decide) (single?_quoted hc _) hrest)
  | place _ hc ih =>
    rw [List.append_assoc]
    have hoperator : _ ∉ operators := List.disjoint_left.1 (by simp [operators]) hc
    exact ih (.of_single hoperator (single?_place hc _) hrest)
  | set _ hmembers ih =>
    rw [List.append_assoc, List.cons_append, List.append_assoc]
    exact ih (.of_single (by decide) (single?_set hmembers _) hrest)
  | repeated _ hc ih =>
    rw [List.append_assoc]
    exact ih (.step rfl (Reading.step?_repeated hc _) hrest)
  | branch _ ih =>
    rw [List.append_assoc]
    exact ih (.step rfl (Reading.step?_branch _) hrest)
  | @group t inner parts alternatives innerParts innerAlternatives _ hinner ih ihinner =>
    rw [List.append_assoc, List.cons_append, List.append_assoc]
    have hopen : (inner ++ ([')'] ++ rest)).head? ≠ some '?' :=
      head?_append_ne hinner.head?_ne (by simp)
    refine ih (.step rfl (Reading.step?_open hopen _ rfl) (ihinner ?_))
    exact .step rfl (Reading.step?_close _) hrest

/-- What is written is a pattern if and only if it is not nested too deep. -/
theorem Written.isValid_iff (h : Written t parts alternatives) :
    isValid t ↔ depthOf parts alternatives ≤ depthLimit := by
  have hreads : Reading.Reads .start t ⟨.ofDepths parts alternatives, [], []⟩ := by
    have hend : Reading.Reads ⟨.ofDepths parts alternatives, [], []⟩ []
        ⟨.ofDepths parts alternatives, [], []⟩ := .finished rfl
    have := h.reads hend
    rwa [List.append_nil] at this
  have hdepth : (Group.ofDepths parts alternatives).depth = depthOf parts alternatives := by
    rw [Group.depth, Group.allAlternatives_ofDepths, depthOf]
  rw [Pattern.isValid_iff]
  constructor
  · rintro ⟨final, hfinal, -, hle⟩
    obtain rfl := hfinal.unique hreads
    exact hdepth ▸ hle
  · intro hle
    exact ⟨_, hreads, rfl, hdepth.symm ▸ hle⟩

/-! ## Texts as patterns -/

theorem Written.of_quote (t : Text) : Written (quote t) (List.replicate t.length 0) [] := by
  induction t using List.reverseRecOn with
  | nil => exact .nothing
  | append_singleton t c ih =>
    rw [List.length_append, List.length_singleton, List.replicate_succ]
    by_cases hplain : Escape.isPlain c
    · have : quote (t ++ [c]) = quote t ++ ['\\', c] := by
        simp [quote, hplain]
      rw [this]
      exact ih.quoted hplain
    · have : quote (t ++ [c]) = quote t ++ [c] := by
        simp [quote, hplain]
      have hsigns : ∀ sign ∈ signs, Escape.isPlain sign :=
        List.forall_iff_forall_mem.1 (by decide)
      rw [this]
      exact ih.character fun hc => hplain (hsigns c hc)

theorem together_replicate_le (n : Nat) : together (List.replicate n 0) ≤ 1 := by
  have hmax : ∀ n, (List.replicate n 0).foldl Nat.max 0 = 0 := by
    intro n
    induction n with
    | zero => rfl
    | succ n ih => exact ih
  match n with
  | 0 => exact Nat.zero_le 1
  | 1 => exact Nat.zero_le 1
  | n + 2 => exact Nat.succ_le_succ (Nat.le_of_eq (hmax (n + 2)))

/-- Every text can be asked for. -/
theorem isValid_quote (t : Text) : isValid (quote t) := by
  rw [(Written.of_quote t).isValid_iff]
  exact Nat.le_trans (together_replicate_le t.length) (by decide)

/-- Parentheses, so many of them inside each other. -/
def nested : Nat → Text
  | 0 => []
  | n + 1 => '(' :: (nested n ++ [')'])

theorem Written.of_nested (n : Nat) :
    ∃ parts, Written (nested n) parts [] ∧ depthOf parts [] = n := by
  induction n with
  | zero => exact ⟨[], .nothing, rfl⟩
  | succ n ih =>
    obtain ⟨parts, hwritten, hdepth⟩ := ih
    exact ⟨_, Written.nothing.group hwritten, congrArg (· + 1) hdepth⟩

/-- Groups can be nested up to the limit. -/
theorem isValid_nested (n : Nat) : isValid (nested n) ↔ n ≤ depthLimit := by
  obtain ⟨parts, hwritten, hdepth⟩ := Written.of_nested n
  rw [hwritten.isValid_iff, hdepth]

end SitePress.Pattern
