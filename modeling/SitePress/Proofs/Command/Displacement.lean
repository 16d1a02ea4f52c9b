import SitePress.Proofs.Command.Directive

/-!
# What keeps a directive from panicking

Blanks in front of a directive displace what is taken for its parts, by bytes.  Reading panics only
if these bytes begin or end inside a character, so it does not if there are no such blanks, and
neither if all characters have one byte.
-/

namespace SitePress

variable {t front level : Text}

/-- There is a result, or it is refused. -/
def NeverPanics {α : Type} (result : Except SettingError α) : Prop :=
  ∀ message, result ≠ .error (.panicked message)

namespace NeverPanics

variable {α β : Type}

theorem ok (a : α) : NeverPanics (.ok a) := by simp [NeverPanics]

theorem refused : NeverPanics (.error .refused : Except SettingError α) := by simp [NeverPanics]

theorem orRefused (found : Option α) : NeverPanics (orRefused found) := by
  cases found with
  | none => exact refused
  | some a => exact ok a

theorem bind {result : Except SettingError α} {next : α → Except SettingError β}
    (h : NeverPanics result) (hnext : ∀ a, result = .ok a → NeverPanics (next a)) :
    NeverPanics (result >>= next) := by
  cases result with
  | ok a => exact hnext a rfl
  | error error =>
    cases error with
    | refused => exact refused
    | panicked message => exact absurd rfl (h message)

end NeverPanics

/-- Nothing is displaced in a text, or every byte of it is a character. -/
def Undivided (indent t : Text) : Prop :=
  indent = [] ∨ ∀ c ∈ indent ++ t, c.utf8Size = 1

namespace Undivided

variable {indent part : Text}

theorem mono (h : Undivided indent t) (hsub : part ⊆ t) : Undivided indent part :=
  h.imp_right fun hall c hc => hall c (by grind)

theorem exists_split {n : Nat} (h : ∀ c ∈ t, c.utf8Size = 1) (hn : n ≤ Text.utf8Size t) :
    ∃ front behind, t = front ++ behind ∧ Text.utf8Size front = n := by
  have hsize : ∀ {s : Text}, (∀ c ∈ s, c.utf8Size = 1) → Text.utf8Size s = s.length := by
    intro s hs
    induction s with
    | nil => rfl
    | cons c s ih =>
      rw [List.forall_mem_cons] at hs
      rw [Text.utf8Size_cons, hs.1, ih hs.2, List.length_cons, Nat.add_comm]
  rw [hsize h] at hn
  refine ⟨t.take n, t.drop n, (List.take_append_drop n t).symm, ?_⟩
  rw [hsize fun c hc => h c (List.mem_of_mem_take hc), List.length_take, Nat.min_eq_left hn]

/-- The rest behind `front` can be cut off, and is as long as without the blanks or longer. -/
theorem exists_rest (hall : ∀ c ∈ indent ++ (front ++ part), c.utf8Size = 1) :
    ∃ rest, Text.dropBytes? front.utf8Size (indent ++ front ++ part) = some rest ∧
      (∀ c ∈ rest, c.utf8Size = 1) ∧ part.utf8Size ≤ rest.utf8Size := by
  rw [← List.append_assoc] at hall
  have hle : front.utf8Size ≤ (indent ++ front ++ part).utf8Size := by
    simp only [Text.utf8Size_append]
    omega
  obtain ⟨left, rest, hsplit, hsize⟩ := exists_split hall hle
  have htotal := congrArg Text.utf8Size hsplit
  simp only [Text.utf8Size_append] at htotal
  refine ⟨rest, ?_, fun c hc => hall c ?_, by omega⟩
  · rw [hsplit, ← hsize, Text.dropBytes?_append]
  · rw [hsplit]
    exact List.mem_append_right left hc

theorem displacedRest_eq (h : Undivided indent (front ++ part)) :
    ∃ taken, displacedRest indent front part = .ok taken := by
  obtain rfl | hall := h
  · exact ⟨part, displacedRest_nil front part⟩
  · obtain ⟨rest, hrest, -, -⟩ := exists_rest hall
    exact ⟨rest, by rw [displacedRest, hrest]⟩

theorem displaced_eq (h : Undivided indent (front ++ part)) :
    ∃ taken, displaced indent front part = .ok taken := by
  obtain rfl | hall := h
  · exact ⟨part, displaced_nil front part⟩
  · obtain ⟨rest, hrest, hsingle, hle⟩ := exists_rest hall
    obtain ⟨taken, left, rfl, htaken⟩ := exists_split hsingle hle
    exact ⟨taken, by rw [displaced, hrest, Option.bind_some, ← htaken, Text.takeBytes?_append]⟩

end Undivided

namespace NeverPanics

variable {indent : Text}

theorem assigned (h : Undivided indent (front ++ level)) :
    NeverPanics (Directive.assigned indent front level) := by
  obtain ⟨taken, htaken⟩ := h.displacedRest_eq
  simp only [Directive.assigned, htaken, Bind.bind, Except.bind]
  split
  · exact ok _
  · exact orRefused _

theorem rankBehind (h : Undivided indent (front ++ t)) :
    NeverPanics (Directive.rankBehind indent front t) := by
  unfold Directive.rankBehind
  split
  · exact assigned (h.mono (by simp))
  · split
    · exact ok _
    · exact refused

theorem read (h : Undivided indent (front ++ t)) : NeverPanics (Selector.read indent front t) := by
  obtain ⟨span, behind, hspan⟩ := LongestRun.exists_run Selector.inSpan t
  unfold Selector.read
  simp only [hspan.takeWhile_eq, hspan.dropWhile_eq]
  obtain rfl := hspan.split
  have hdivided : Undivided indent (front ++ span) := h.mono (by simp)
  obtain ⟨taken, htaken⟩ := hdivided.displaced_eq
  simp only [htaken]
  split
  · exact ok _
  · rename_i inner
    obtain ⟨field, behind, hfield⟩ := LongestRun.exists_run (· != '\x7d') inner
    simp only [hfield.takeWhile_eq, hfield.dropWhile_eq]
    obtain rfl := hfield.split
    have hdivided : Undivided indent (front ++ span ++ ['\x7b'] ++ field) := h.mono (by grind)
    obtain ⟨value, hvalue⟩ := hdivided.displaced_eq
    simp only [hvalue]
    split
    · refine (ok taken).bind fun _ _ => (ok value).bind fun value _ => ?_
      split
      · exact refused
      · refine (orRefused _).bind fun scope _ => ?_
        split
        · exact ok _
        · exact refused
    · exact refused
  · exact refused

/-- A text that has no blanks in front of it, or whose bytes are all characters, is read as a
directive or refused. -/
theorem ofText (h : (∀ c ∈ t.head?, ¬ CharacterClass.isWhiteSpace c) ∨ ∀ c ∈ t, c.utf8Size = 1) :
    NeverPanics (Directive.ofText t) := by
  obtain ⟨indent, body, hindent⟩ := LongestRun.exists_run CharacterClass.isWhiteSpace t
  have hbody : Undivided indent body := by
    refine h.imp (fun hblank => ?_) (fun hall => by rwa [← hindent.split])
    cases indent with
    | nil => rfl
    | cons c indent =>
      rw [hindent.split] at hblank
      exact absurd (hindent.all c List.mem_cons_self) (hblank c rfl)
  obtain ⟨target, behind, htarget⟩ := LongestRun.exists_run Directive.inTarget body
  unfold Directive.ofText
  simp only [hindent.takeWhile_eq, hindent.dropWhile_eq, htarget.takeWhile_eq, htarget.dropWhile_eq]
  obtain rfl := htarget.split
  have hdivided : Undivided indent ([] ++ target) := hbody.mono (by simp)
  obtain ⟨taken, htaken⟩ := hdivided.displaced_eq
  simp only [htaken]
  split
  · rename_i inner
    split
    · refine (ok taken).bind fun taken _ =>
        (read (hbody.mono (by simp))).bind fun found hfound => ?_
      obtain ⟨scope, reached, rest⟩ := found
      have hreached := Selector.append_of_read hfound
      exact (rankBehind (hbody.mono (by simp [hreached]))).bind fun rank _ => ok _
    · exact refused
  · split
    · refine (ok taken).bind fun taken _ => ?_
      exact (assigned (hbody.mono (by simp))).bind fun rank _ => ok _
    · exact refused
  · split
    · exact ok _
    · exact refused

end NeverPanics

end SitePress
