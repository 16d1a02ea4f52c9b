import SitePress.Command.Directive
import SitePress.Proofs.Except
import SitePress.Proofs.Pattern.Grammar
import SitePress.Proofs.Text.CharacterClass
import SitePress.Proofs.Text.Run

/-!
# How directives are written

A directive is a name, a target with a level behind an equals sign, or a target and brackets with
a level or none.  Unless it has blanks in front of it, a text is read as a directive if and only if
it is written so.
-/

namespace SitePress

variable {t rest front level span field : Text} {scope : Scope} {rank : Nat}

/-! ## Parts that are not displaced -/

@[simp] theorem displaced_nil (front part : Text) : displaced [] front part = .ok part := by
  simp [displaced]

@[simp] theorem displacedRest_nil (front rest : Text) : displacedRest [] front rest = .ok rest := by
  simp [displacedRest]

theorem orRefused_eq_ok_iff {α : Type} {found : Option α} {a : α} :
    orRefused found = .ok a ↔ found = some a := by
  cases found <;> simp [orRefused]

/-! ## Ranks -/

/-- The rank that a text behind an equals sign stands for. -/
def Level.assigned? (level : Text) : Option Nat :=
  if level = [] then some Level.trace.rank else Level.rank? level

theorem Directive.assigned_eq_ok_iff :
    assigned [] front level = .ok rank ↔ Level.assigned? level = some rank := by
  simp only [assigned, displacedRest_nil, bind, Except.bind, Level.assigned?]
  split
  · simp [pure, Except.pure]
  · exact orRefused_eq_ok_iff

/-- A rank is written behind brackets. -/
inductive Directive.RankWritten : Text → Nat → Prop
  | every {t : Text} (h : ∀ c ∈ t, CharacterClass.isWhiteSpace c) : RankWritten t Level.trace.rank
  | assigned {level : Text} {rank : Nat} (h : Level.assigned? level = some rank) :
    RankWritten ('=' :: level) rank

theorem Directive.rankBehind_eq_ok_iff :
    rankBehind [] front t = .ok rank ↔ RankWritten t rank := by
  unfold rankBehind
  split
  · rw [assigned_eq_ok_iff]
    constructor
    · exact .assigned
    · rintro (h | h)
      · exact absurd (h '=' List.mem_cons_self) (by decide)
      · exact h
  · rename_i hequals
    constructor
    · intro h
      split at h
      · obtain rfl := Except.ok.inj h
        exact .every (List.all_eq_true.1 ‹_›)
      · contradiction
    · rintro (h | h)
      · exact if_pos (List.all_eq_true.2 h)
      · exact absurd rfl (hequals _)

/-! ## Brackets -/

/-- A scope is written behind an opening bracket: the name of a span, and a field in braces or
none. -/
inductive Selector.Written : Text → Scope → Prop
  | span {span : Text} (hspan : ∀ c ∈ span, inSpan c) : Written (span ++ [']']) .insideSpan
  | field {span field : Text} {scope : Scope} (hspan : ∀ c ∈ span, inSpan c) (hne : field ≠ [])
    (hfield : ∀ c ∈ field, c ≠ '\x7d') (hscope : scope? span field = some scope) :
    Written (span ++ '\x7b' :: (field ++ ['\x7d', ']'])) scope

/-- What is read has the form of brackets, wherever its parts are taken from. -/
theorem Selector.read_cases {indent reached : Text}
    (h : read indent front t = .ok (scope, reached, rest)) :
    (∃ span, (∀ c ∈ span, inSpan c) ∧ t = span ++ ']' :: rest ∧
      reached = front ++ span ++ [']'] ∧ scope = .insideSpan) ∨
    ∃ span field taken, (∀ c ∈ span, inSpan c) ∧ field ≠ [] ∧ (∀ c ∈ field, c ≠ '\x7d') ∧
      t = span ++ '\x7b' :: (field ++ '\x7d' :: ']' :: rest) ∧
      reached = front ++ span ++ ['\x7b'] ++ field ++ ['\x7d', ']'] ∧
      displaced indent (front ++ span ++ ['\x7b']) field = .ok taken ∧
      scope? span taken = some scope := by
  obtain ⟨span, behind, hspan⟩ := LongestRun.exists_run inSpan t
  unfold read at h
  simp only [hspan.takeWhile_eq, hspan.dropWhile_eq] at h
  obtain rfl := hspan.split
  split at h
  · obtain ⟨_, -, h⟩ := except_bind_eq_ok_iff.1 h
    cases h
    exact .inl ⟨span, hspan.all, rfl, rfl, rfl⟩
  · rename_i inner
    obtain ⟨field, behind, hfield⟩ := LongestRun.exists_run (· != '\x7d') inner
    simp only [hfield.takeWhile_eq, hfield.dropWhile_eq] at h
    obtain rfl := hfield.split
    obtain ⟨_, -, h⟩ := except_bind_eq_ok_iff.1 h
    split at h
    · obtain ⟨taken, htaken, h⟩ := except_bind_eq_ok_iff.1 h
      split at h
      · cases h
      · rename_i hne
        obtain ⟨found, hfound, h⟩ := except_bind_eq_ok_iff.1 h
        split at h
        · cases h
          exact .inr ⟨span, field, taken, hspan.all, hne, by simpa using hfield.all, rfl, rfl,
            htaken, orRefused_eq_ok_iff.1 hfound⟩
        · cases h
    · cases h
  · cases h

theorem Selector.written_of_read {reached : Text}
    (h : read [] front t = .ok (scope, reached, rest)) :
    ∃ written, Written written scope ∧ t = written ++ rest := by
  obtain ⟨span, hspan, rfl, -, rfl⟩ |
    ⟨span, field, taken, hspan, hne, hfield, rfl, -, htaken, hscope⟩ := read_cases h
  · exact ⟨_, .span hspan, by simp⟩
  · rw [displaced_nil] at htaken
    obtain rfl := Except.ok.inj htaken
    exact ⟨_, .field hspan hne hfield hscope, by simp⟩

/-- What has been reached stands in front of what is left. -/
theorem Selector.append_of_read {indent reached : Text}
    (h : read indent front t = .ok (scope, reached, rest)) : reached ++ rest = front ++ t := by
  obtain ⟨span, -, rfl, rfl, -⟩ | ⟨span, field, taken, -, -, -, rfl, rfl, -⟩ := read_cases h
  · simp
  · simp

theorem Selector.Written.read_eq {written : Text} (h : Written written scope) (front rest : Text) :
    ∃ reached, read [] front (written ++ rest) = .ok (scope, reached, rest) := by
  cases h with
  | @span span hspan =>
    have hrun : LongestRun inSpan (span ++ [']'] ++ rest) span (']' :: rest) :=
      ⟨by simp, hspan, by simp [inSpan]⟩
    unfold read
    rw [hrun.takeWhile_eq, hrun.dropWhile_eq]
    simp only [displaced_nil]
    exact ⟨_, rfl⟩
  | @field span field _ hspan hne hfield hscope =>
    have hrun : LongestRun inSpan (span ++ '\x7b' :: (field ++ ['\x7d', ']']) ++ rest) span
        ('\x7b' :: (field ++ '\x7d' :: ']' :: rest)) :=
      ⟨by simp, hspan, by simp [inSpan]⟩
    have hinner : LongestRun (· != '\x7d') (field ++ '\x7d' :: ']' :: rest) field
        ('\x7d' :: ']' :: rest) :=
      ⟨rfl, by simpa using hfield, by simp⟩
    unfold read
    rw [hrun.takeWhile_eq, hrun.dropWhile_eq]
    simp only [hinner.takeWhile_eq, hinner.dropWhile_eq, displaced_nil, bind, Except.bind,
      if_neg hne, hscope, orRefused]
    exact ⟨_, rfl⟩

/-! ## Directives -/

namespace Directive

/-- A directive is written: as a name, as a target with a level, or as a target, which may be
empty, with brackets. -/
inductive Written : Text → Directive → Prop
  | name {name : Text} (hname : startsName name) (htarget : ∀ c ∈ name, inTarget c) :
    Written name (ofName name)
  | target {target level : Text} {rank : Nat} (hname : startsName target)
    (htarget : ∀ c ∈ target, inTarget c) (hlevel : Level.assigned? level = some rank) :
    Written (target ++ '=' :: level) { target, scope := .everywhere, rank }
  | selector {target written behind : Text} {scope : Scope} {rank : Nat}
    (hname : target = [] ∨ startsName target) (htarget : ∀ c ∈ target, inTarget c)
    (hscope : Selector.Written written scope) (hrank : RankWritten behind rank) :
    Written (target ++ '[' :: (written ++ behind)) { target, scope, rank }

variable {directive : Directive}

theorem written_of_ofText (hblank : ∀ c ∈ t.head?, ¬ CharacterClass.isWhiteSpace c)
    (h : ofText t = .ok directive) : Written t directive := by
  have hindent : LongestRun CharacterClass.isWhiteSpace t [] t := ⟨rfl, by simp, hblank⟩
  obtain ⟨target, behind, htarget⟩ := LongestRun.exists_run inTarget t
  unfold ofText at h
  simp only [hindent.takeWhile_eq, hindent.dropWhile_eq, htarget.takeWhile_eq,
    htarget.dropWhile_eq, displaced_nil] at h
  obtain rfl := htarget.split
  split at h
  · split at h
    · obtain ⟨taken, htaken, h⟩ := except_bind_eq_ok_iff.1 h
      obtain rfl := Except.ok.inj htaken
      obtain ⟨⟨scope, reached, rest⟩, hread, h⟩ := except_bind_eq_ok_iff.1 h
      obtain ⟨rank, hrank, h⟩ := except_bind_eq_ok_iff.1 h
      obtain rfl := Except.ok.inj h
      obtain ⟨written, hscope, rfl⟩ := Selector.written_of_read hread
      exact .selector ‹_› htarget.all hscope (rankBehind_eq_ok_iff.1 hrank)
    · contradiction
  · split at h
    · obtain ⟨taken, htaken, h⟩ := except_bind_eq_ok_iff.1 h
      obtain rfl := Except.ok.inj htaken
      obtain ⟨rank, hrank, h⟩ := except_bind_eq_ok_iff.1 h
      obtain rfl := Except.ok.inj h
      exact .target ‹_› htarget.all (assigned_eq_ok_iff.1 hrank)
    · contradiction
  · rename_i hbracket hequals
    have hnil : behind = [] := by
      cases behind with
      | nil => rfl
      | cons c behind =>
        have hstop : c = '=' ∨ c = '[' := by
          have := htarget.stop c rfl
          simp only [inTarget, Bool.and_eq_true, bne_iff_ne] at this
          tauto
        rcases hstop with rfl | rfl
        · exact (hequals behind rfl).elim
        · exact (hbracket behind rfl).elim
    subst hnil
    split at h
    · obtain rfl := Except.ok.inj h
      rw [List.append_nil]
      exact .name ‹_› htarget.all
    · contradiction

theorem not_isWhiteSpace_of_startsName {c : Char} (h : startsName (c :: t)) :
    ¬ CharacterClass.isWhiteSpace c := by
  simp only [startsName, Bool.or_eq_true, beq_iff_eq] at h
  rcases h with ((rfl | rfl) | rfl) | halphanumeric
  · decide
  · decide
  · decide
  · exact CharacterClass.not_isWhiteSpace_of_isAlphanumeric halphanumeric

/-- Directives have no blanks in front of them. -/
theorem Written.not_isWhiteSpace (h : Written t directive) :
    ∀ c ∈ t.head?, ¬ CharacterClass.isWhiteSpace c := by
  have hstart : ∀ {name behind : Text}, startsName name →
      ∀ c ∈ (name ++ behind).head?, ¬ CharacterClass.isWhiteSpace c := by
    intro name behind hname c hc
    cases name with
    | nil => contradiction
    | cons d name =>
      obtain rfl := Option.some.inj hc
      exact not_isWhiteSpace_of_startsName hname
  cases h with
  | name hname _ =>
    rw [← List.append_nil t]
    exact hstart hname
  | target hname _ _ => exact hstart hname
  | selector hname _ _ _ =>
    rcases hname with rfl | hname
    · intro c hc
      obtain rfl := Option.some.inj hc
      decide
    · exact hstart hname

theorem Written.ofText_eq (h : Written t directive) : ofText t = .ok directive := by
  have hindent : LongestRun CharacterClass.isWhiteSpace t [] t :=
    ⟨rfl, by simp, h.not_isWhiteSpace⟩
  unfold ofText
  simp only [hindent.takeWhile_eq, hindent.dropWhile_eq, displaced_nil]
  cases h with
  | name hname htarget =>
    have hrun : LongestRun inTarget t t [] := ⟨by simp, htarget, by simp⟩
    simp only [hrun.takeWhile_eq, hrun.dropWhile_eq, if_pos hname]
  | @target target level _ hname htarget hlevel =>
    have hrun : LongestRun inTarget (target ++ '=' :: level) target ('=' :: level) :=
      ⟨rfl, htarget, by simp [inTarget]⟩
    simp only [hrun.takeWhile_eq, hrun.dropWhile_eq, if_pos hname, bind, Except.bind,
      assigned_eq_ok_iff.2 hlevel]
    rfl
  | @selector target written behind _ _ hname htarget hscope hrank =>
    have hrun : LongestRun inTarget (target ++ '[' :: (written ++ behind)) target
        ('[' :: (written ++ behind)) := ⟨rfl, htarget, by simp [inTarget]⟩
    obtain ⟨reached, hread⟩ := hscope.read_eq (target ++ ['[']) behind
    simp only [hrun.takeWhile_eq, hrun.dropWhile_eq, if_pos hname, bind, Except.bind, hread,
      rankBehind_eq_ok_iff.2 hrank]
    rfl

/-- Without blanks in front, what is read as a directive is what is written so. -/
theorem ofText_eq_ok_iff (hblank : ∀ c ∈ t.head?, ¬ CharacterClass.isWhiteSpace c) :
    ofText t = .ok directive ↔ Written t directive :=
  ⟨written_of_ofText hblank, Written.ofText_eq⟩

end Directive

end SitePress
