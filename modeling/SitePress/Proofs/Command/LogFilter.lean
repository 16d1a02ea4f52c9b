import Mathlib.Data.List.Induction
import SitePress.Command.Run
import SitePress.Proofs.Command.Displacement

/-!
# What a log filter lets through

A setting is read if each of its pieces is written as a directive, and of the directives that speak
of an event one decides: those in front of it are not more specific, and those behind it less so.
Settings whose characters all have one byte are read or refused, so they never keep the command
from its work.
-/

namespace SitePress

variable {metadata : Metadata} {directive other : Directive} {filter : LogFilter}

/-! ## Reading settings -/

namespace LogFilter

/-- Unless a piece of it has blanks in front, a setting is read if and only if all its pieces are
written as directives. -/
theorem ofText_eq_ok_iff {t : Text}
    (hblank : ∀ piece ∈ pieces t, ∀ c ∈ piece.head?, ¬ CharacterClass.isWhiteSpace c) :
    ofText t = .ok filter ↔
      ∃ directives, List.Forall₂ Directive.Written (pieces t) directives ∧
        filter = ofDirectives directives := by
  have hpieces : ∀ directives,
      List.Forall₂ (fun piece directive => Directive.ofText piece = .ok directive) (pieces t)
          directives ↔
        List.Forall₂ Directive.Written (pieces t) directives := by
    intro directives
    rw [List.forall₂_iff_zip, List.forall₂_iff_zip]
    refine and_congr_right fun _ => forall₂_congr fun piece directive => ?_
    refine imp_congr_right fun hmem => ?_
    exact Directive.ofText_eq_ok_iff (hblank piece (List.of_mem_zip hmem).1)
  rw [ofText, except_bind_eq_ok_iff]
  simp only [except_mapM_eq_ok_iff, hpieces, pure, Except.pure, Except.ok.injEq,
    eq_comm (a := filter)]

/-- Directives between commas are read one by one. -/
theorem ofText_intercalate {written : List Text} {directives : List Directive}
    (h : List.Forall₂ Directive.Written written directives)
    (hwritten : ∀ piece ∈ written, piece ≠ [] ∧ ',' ∉ piece) :
    ofText ([','].intercalate written) = .ok (ofDirectives directives) := by
  have hpieces : pieces ([','].intercalate written) = written := by
    by_cases hnil : written = []
    · subst hnil
      rfl
    · rw [pieces, List.splitOn_intercalate ',' (fun piece hpiece => (hwritten piece hpiece).2) hnil,
        List.filter_eq_self]
      intro piece hpiece
      simpa using (hwritten piece hpiece).1
  rw [ofText, hpieces, except_mapM_eq_ok_iff.2 (h.imp fun _ _ => Directive.Written.ofText_eq)]
  rfl

theorem neverPanics_ofText {t : Text}
    (h : ∀ piece ∈ pieces t, (∀ c ∈ piece.head?, ¬ CharacterClass.isWhiteSpace c) ∨
      ∀ c ∈ piece, c.utf8Size = 1) : NeverPanics (ofText t) := by
  have hread : ∀ {written : List Text}, (∀ piece ∈ written, NeverPanics (Directive.ofText piece)) →
      NeverPanics (written.mapM Directive.ofText) := by
    intro written hwritten
    induction written with
    | nil => exact .ok []
    | cons piece written ih =>
      rw [List.forall_mem_cons] at hwritten
      rw [List.mapM_cons]
      exact hwritten.1.bind fun _ _ => (ih hwritten.2).bind fun _ _ => .ok _
  exact (hread fun piece hpiece => .ofText (h piece hpiece)).bind fun _ _ => .ok _

end LogFilter

/-! ## Deciding -/

namespace Directive

/-- Directives in the order in which they become more specific. -/
def order : Directive → Directive → Ordering :=
  compareLex (compareOn fun directive => directive.target.length)
    (compareOn fun directive => directive.scope.fieldName)

instance : Std.TransCmp order :=
  inferInstanceAs (Std.TransCmp (compareLex _ _))

theorem outranks_iff : directive.outranks other ↔ order other directive = .lt := by
  simp [outranks, order, compareLex, compareOn, Ordering.then_eq_lt, Nat.compare_eq_lt]

theorem not_outranks_of_outranks (h : directive.outranks other) : ¬ other.outranks directive := by
  rw [outranks_iff] at h ⊢
  rw [Std.OrientedCmp.gt_of_lt h]
  decide

theorem not_outranks_trans {third : Directive} (h : ¬ directive.outranks other)
    (hother : ¬ other.outranks third) : ¬ directive.outranks third := by
  rw [outranks_iff, ← Ordering.isGE_iff_ne_lt] at *
  exact Std.TransCmp.isGE_trans hother h

end Directive

namespace LogFilter

/-- A directive decides about an event: it speaks of it, and of the others that do so, none in
front is more specific, and all behind are less so. -/
def Decides (filter : LogFilter) (metadata : Metadata) (directive : Directive) : Prop :=
  ∃ front behind, filter = front ++ directive :: behind ∧ directive.covers metadata ∧
    (∀ other ∈ front, other.covers metadata → ¬ other.outranks directive) ∧
    ∀ other ∈ behind, other.covers metadata → directive.outranks other

theorem Decides.not_outranks (h : Decides filter metadata directive) :
    ∀ other ∈ filter, other.covers metadata → ¬ other.outranks directive := by
  obtain ⟨front, behind, rfl, -, hfront, hbehind⟩ := h
  intro other hother hcovers
  rcases List.mem_append.1 hother with hother | hother
  · exact hfront other hother hcovers
  · rcases List.mem_cons.1 hother with rfl | hother
    · exact fun houtranks => Directive.not_outranks_of_outranks houtranks houtranks
    · exact Directive.not_outranks_of_outranks (hbehind other hother hcovers)

theorem Decides.append_singleton (h : Decides filter metadata directive)
    (hother : other.covers metadata → directive.outranks other) :
    Decides (filter ++ [other]) metadata directive := by
  obtain ⟨front, behind, rfl, hcovers, hfront, hbehind⟩ := h
  refine ⟨front, behind ++ [other], by simp, hcovers, hfront, fun third hthird => ?_⟩
  rcases List.mem_append.1 hthird with hthird | hthird
  · exact hbehind third hthird
  · rwa [List.mem_singleton.1 hthird]

theorem deciding?_append_singleton (filter : LogFilter) (directive : Directive)
    (metadata : Metadata) :
    deciding? (filter ++ [directive]) metadata =
      if directive.covers metadata then later (deciding? filter metadata) directive
      else deciding? filter metadata := by
  by_cases hcovers : directive.covers metadata <;>
    simp [deciding?, List.filter_append, hcovers]

theorem deciding?_eq_none_iff :
    deciding? filter metadata = none ↔ ∀ directive ∈ filter, ¬ directive.covers metadata := by
  induction filter using List.reverseRecOn with
  | nil => simp [deciding?]
  | append_singleton filter directive ih =>
    rw [deciding?_append_singleton, List.forall_mem_append, ← ih, List.forall_mem_singleton]
    by_cases hcovers : directive.covers metadata
    · have hlater : ∀ best, later best directive ≠ none := by
        intro best
        cases best with
        | none => exact Option.some_ne_none directive
        | some best =>
          rw [later]
          split <;> exact Option.some_ne_none _
      simp [hcovers, hlater]
    · simp [hcovers]

theorem decides_of_deciding? (h : deciding? filter metadata = some directive) :
    Decides filter metadata directive := by
  induction filter using List.reverseRecOn generalizing directive with
  | nil => contradiction
  | append_singleton filter last ih =>
    rw [deciding?_append_singleton] at h
    split at h
    · rename_i hcovers
      -- the last one decides unless the best in front of it is more specific
      cases hbest : deciding? filter metadata with
      | none =>
        rw [hbest] at h
        obtain rfl : last = directive := Option.some.inj h
        exact ⟨filter, [], rfl, hcovers, fun other hother hspeaks =>
          absurd hspeaks (deciding?_eq_none_iff.1 hbest other hother), by simp⟩
      | some best =>
        rw [hbest, later] at h
        split at h
        · rename_i houtranks
          obtain rfl := Option.some.inj h
          exact (ih hbest).append_singleton fun _ => houtranks
        · rename_i houtranks
          obtain rfl := Option.some.inj h
          exact ⟨filter, [], rfl, hcovers, fun other hother hspeaks =>
            Directive.not_outranks_trans ((ih hbest).not_outranks other hother hspeaks) houtranks,
            by simp⟩
    · rename_i hcovers
      exact (ih h).append_singleton fun hlast => absurd hlast hcovers

theorem Decides.deciding?_eq (h : Decides filter metadata directive) :
    deciding? filter metadata = some directive := by
  obtain ⟨front, behind, rfl, hcovers, hfront, hbehind⟩ := h
  induction behind using List.reverseRecOn with
  | nil =>
    rw [deciding?_append_singleton, if_pos hcovers]
    cases hbest : deciding? front metadata with
    | none => rfl
    | some best =>
      obtain ⟨before, after, rfl, hspeaks, -⟩ := decides_of_deciding? hbest
      exact if_neg (hfront best (by simp) hspeaks)
  | append_singleton behind last ih =>
    rw [List.forall_mem_append, List.forall_mem_singleton] at hbehind
    rw [← List.cons_append, ← List.append_assoc, deciding?_append_singleton, ih hbehind.1]
    split
    · rename_i hlast
      exact if_pos (hbehind.2 hlast)
    · rfl

/-- The directive that is found by going through the list is the one that decides. -/
theorem deciding?_eq_some_iff :
    deciding? filter metadata = some directive ↔ Decides filter metadata directive :=
  ⟨decides_of_deciding?, Decides.deciding?_eq⟩

/-- An event is let through if the directive that decides about it opens the log that far. -/
theorem decision_iff : filter.decision metadata ↔
    ∃ directive, Decides filter metadata directive ∧ metadata.level.rank ≤ directive.rank := by
  simp only [← deciding?_eq_some_iff]
  unfold decision
  cases deciding? filter metadata <;> simp

/-- A level by itself lets through what matters as much. -/
theorem decision_upTo (level : Level) (metadata : Metadata) :
    (upTo level).decision metadata = decide (metadata.level.rank ≤ level.rank) := by
  simp [decision, deciding?, later, upTo, Directive.covers, Scope.holds]

end LogFilter

/-! ## The filter of the program -/

namespace Libraries

/-- The filter of the program, by what comes of reading the setting. -/
theorem standard_decision_text (time setting : Text) :
    (standard time).decision (some (.text setting)) =
      match LogFilter.ofText setting with
      | .ok filter => .ok filter.decision
      | .error .refused => .ok (LogFilter.lossy "warn".toList).decision
      | .error (.panicked message) => .error message := by
  unfold decision
  simp only [standard, decisionOf]
  cases LogFilter.ofText setting with
  | ok filter => rfl
  | error error => cases error <;> rfl

/-- Unless a piece of it has both blanks in front and a character of several bytes, a setting does
not keep the command from its work. -/
theorem exists_standard_decision (time : Text) {setting : Text}
    (h : ∀ piece ∈ LogFilter.pieces setting,
      (∀ c ∈ piece.head?, ¬ CharacterClass.isWhiteSpace c) ∨ ∀ c ∈ piece, c.utf8Size = 1) :
    ∃ decision, (standard time).decision (some (.text setting)) = .ok decision := by
  rw [standard_decision_text]
  have hcalm := LogFilter.neverPanics_ofText h
  cases hread : LogFilter.ofText setting with
  | ok filter => exact ⟨_, rfl⟩
  | error error =>
    cases error with
    | refused => exact ⟨_, rfl⟩
    | panicked message => exact absurd hread (hcalm message)

/-- Without a setting, nothing that a build tells is let through. -/
theorem standard_log_of_none (time : Text) (events : List Event) {decision : Decision}
    (h : (standard time).decision none = .ok decision) (line : Event → Text) :
    logLines decision line events = [] := by
  have hwarn : LogFilter.lossy "warn".toList = .upTo .warn := by decide
  obtain rfl : (LogFilter.lossy "warn".toList).decision = decision := Except.ok.inj h
  have hnone : ∀ event ∈ events, ¬ (LogFilter.upTo .warn).decision event.metadata := by
    intro event _
    rw [LogFilter.decision_upTo]
    cases event <;> exact Bool.false_ne_true
  rw [logLines, hwarn, List.filter_eq_nil_iff.2 hnone, List.flatMap_nil]

end Libraries

end SitePress
