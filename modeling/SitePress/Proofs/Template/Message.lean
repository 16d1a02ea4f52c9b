import SitePress.Proofs.Text.Literal
import SitePress.Proofs.Text.Numeral
import SitePress.Proofs.Text.Run
import SitePress.Template.Error

/-!
# Messages tell template errors apart

A fault and its place are told from the end of a message: the offset is the run of digits there.
A missing key can hold any text, that of other messages included, but it stands behind words with
which no other message starts, and everything up to the last backquote belongs to it.
-/

namespace SitePress

/-! ## Numerals at the end of a text -/

theorem Numeral.longestRun_reverse {front : Text} (hfront : ∀ c ∈ front.getLast?, ¬ c.isDigit)
    (n : Nat) :
    LongestRun Char.isDigit (front ++ ofNat n).reverse (ofNat n).reverse front.reverse where
  split := List.reverse_append
  all := by
    intro c hc
    exact isDigit_of_mem_ofNat (List.mem_reverse.1 hc)
  stop := by
    intro c hc
    rw [List.head?_reverse] at hc
    exact hfront c hc

/-- A numeral behind a text that does not end in a digit is found again. -/
theorem Numeral.append_ofNat_inj {front other : Text} {n m : Nat}
    (hfront : ∀ c ∈ front.getLast?, ¬ c.isDigit) (hother : ∀ c ∈ other.getLast?, ¬ c.isDigit)
    (h : front ++ ofNat n = other ++ ofNat m) : front = other ∧ n = m := by
  have hrun := longestRun_reverse hfront n
  rw [h] at hrun
  have hdigits := hrun.takeWhile_eq
  have hrest := hrun.dropWhile_eq
  rw [(longestRun_reverse hother m).takeWhile_eq, List.reverse_inj] at hdigits
  rw [(longestRun_reverse hother m).dropWhile_eq, List.reverse_inj] at hrest
  exact ⟨hrest.symm, by rw [← value_ofNat n, ← hdigits, value_ofNat]⟩

/-! ## Faults -/

namespace Fault

/-- The first two characters of a fault in words. -/
def opening : Fault → Text
  | .incompleteFormat => ['i', 'n']
  | .incompleteKey => ['i', 'n']
  | .unsupportedConversion _ => ['u', 'n']
  | .requiresMapping => ['f', 'o']
  | .tooBig => ['w', 'i']

theorem take_describe_append (fault : Fault) (rest : Text) :
    (fault.describe ++ rest).take 2 = fault.opening := by
  cases fault <;> rfl

theorem describe_injective {fault other : Fault} (h : fault.describe = other.describe) :
    fault = other := by
  have hopening : fault.opening = other.opening := by
    rw [← take_describe_append fault [], h, take_describe_append]
  cases fault with
  | incompleteFormat =>
    cases other with
    | incompleteFormat => rfl
    | incompleteKey => exact absurd h (by decide)
    | _ => simp [opening] at hopening
  | incompleteKey =>
    cases other with
    | incompleteFormat => exact absurd h (by decide)
    | incompleteKey => rfl
    | _ => simp [opening] at hopening
  | unsupportedConversion found =>
    cases other with
    | unsupportedConversion otherFound =>
      rw [Literal.ofChar_injective (List.append_cancel_left h)]
    | _ => simp [opening] at hopening
  | requiresMapping =>
    cases other with
    | requiresMapping => rfl
    | _ => simp [opening] at hopening
  | tooBig =>
    cases other with
    | tooBig => rfl
    | _ => simp [opening] at hopening

end Fault

/-! ## Errors -/

/-- The message of a malformed template tells the fault and the place. -/
theorem SyntaxError.message_injective {error other : SyntaxError}
    (h : error.message = other.message) : error = other := by
  obtain ⟨offset, fault⟩ := error
  obtain ⟨otherOffset, otherFault⟩ := other
  have hblank (fault : Fault) :
      ∀ c ∈ (fault.describe ++ " at byte ".toList).getLast?, ¬ c.isDigit := by
    intro c hc
    rw [List.getLast?_append_of_ne_nil _ (by decide)] at hc
    obtain rfl : ' ' = c := Option.some.inj hc
    decide
  obtain ⟨hdescribe, rfl⟩ := Numeral.append_ofNat_inj (hblank fault) (hblank otherFault) h
  rw [Fault.describe_injective (List.append_cancel_right hdescribe)]

/-- The message of a missing key tells the key. -/
theorem MissingKey.message_injective {error other : MissingKey}
    (h : error.message = other.message) : error = other := by
  obtain ⟨key⟩ := error
  obtain ⟨otherKey⟩ := other
  have hkey : key = otherKey := List.append_cancel_left (List.append_cancel_right h)
  rw [hkey]

theorem SyntaxError.take_message (error : SyntaxError) :
    error.message.take 2 = error.fault.opening := by
  rw [message, List.append_assoc, Fault.take_describe_append]

theorem MissingKey.take_message (error : MissingKey) : error.message.take 2 = ['n', 'o'] := rfl

/-- A malformed template is never said to miss a key. -/
theorem SyntaxError.message_ne_missing (error : SyntaxError) (other : MissingKey) :
    error.message ≠ other.message := by
  intro h
  have hopening : error.fault.opening = ['n', 'o'] := by
    rw [← error.take_message, h, other.take_message]
  cases hfault : error.fault <;> simp [hfault, Fault.opening] at hopening

/-- The message of a template error tells the error. -/
theorem TemplateError.message_injective {error other : TemplateError}
    (h : error.message = other.message) : error = other := by
  cases error with
  | malformed error =>
    cases other with
    | malformed other => rw [SyntaxError.message_injective h]
    | missing other => exact absurd h (error.message_ne_missing other)
  | missing error =>
    cases other with
    | malformed other => exact absurd h.symm (other.message_ne_missing error)
    | missing other => rw [MissingKey.message_injective h]

end SitePress
