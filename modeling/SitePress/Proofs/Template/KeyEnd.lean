import SitePress.Proofs.Template.BodyBytes

/-!
# Where a key ends

A key may hold parentheses.  The scan ends it at the one that matches the opening parenthesis of
the body, which is to say that the key is balanced; and no body has two such ends.  If it has
none, then the opening parenthesis is open at every place of the body.
-/

namespace SitePress

variable {t key rest : Text}

namespace Key

/-- The body of a marker is a balanced key between parentheses, and the rest. -/
structure Enclosed (body key rest : Text) : Prop where
  split : body = '(' :: (key ++ ')' :: rest)
  balanced : Balanced key

theorem split?_eq_some_iff_enclosed :
    split? t = some (key, rest) ↔ Enclosed ('(' :: t) key rest := by
  rw [split?_eq_some_iff]
  constructor
  · rintro ⟨rfl, hkey⟩
    exact ⟨rfl, hkey⟩
  · rintro ⟨hsplit, hkey⟩
    exact ⟨(List.cons.inj hsplit).2, hkey⟩

/-- A body has one end of its key at most. -/
theorem Enclosed.unique {body other behind : Text} (h : Enclosed body key rest)
    (hother : Enclosed body other behind) : key = other ∧ rest = behind := by
  have hsame := h.split.symm.trans hother.split
  exact h.balanced.append_inj hother.balanced (List.cons.inj hsame).2

/-- Behind its opening parenthesis a body leaves that parenthesis open if and only if none of
its beginnings closes as many parentheses as it opens. -/
theorem leavesOpen_iff_of_body :
    LeavesOpen 0 t ↔
      ∀ front, front ≠ [] → front <+: '(' :: t → front.count ')' < front.count '(' := by
  constructor
  · intro hopen front hne hfront
    obtain rfl | ⟨behind, rfl, hbehind⟩ := List.prefix_cons_iff.1 hfront
    · exact absurd rfl hne
    · have := hopen behind hbehind
      simp only [List.count_cons_self, List.count_cons_of_ne (show '(' ≠ ')' by decide)]
      omega
  · intro hopen front hfront
    have := hopen ('(' :: front) (List.cons_ne_nil _ _) (List.cons_prefix_cons.2 ⟨rfl, hfront⟩)
    simp only [List.count_cons_self, List.count_cons_of_ne (show '(' ≠ ')' by decide)] at this
    omega

end Key

namespace Placeholder

/-- What has been read with an empty key, with this key in its place. -/
def Body.withKey (body : Body) (key : Text) : Body :=
  { placeholder := { body.placeholder with key }
    size := Text.utf8Size key + body.size
    rest := body.rest }

/-- Behind the key that it takes, reading goes on as behind an empty key. -/
theorem read_eq_map_withKey (h : Key.split? t = some (key, rest)) :
    read t = (read (')' :: rest)).map (·.withKey key) := by
  have hempty : Key.split? (')' :: rest) = some ([], rest) := rfl
  simp only [read, h, hempty]
  cases (FormatSpec.scan rest).1.layout? with
  | none => rfl
  | some layout =>
    cases (FormatSpec.scan rest).2 with
    | nil => rfl
    | cons c behind =>
      dsimp only
      cases Conversion.ofLetter? c with
      | none => rfl
      | some conversion =>
        simp only [Except.map, Body.withKey, Text.utf8Size_nil, Nat.zero_add, Nat.add_assoc]

theorem exists_split?_of_read {body : Body} (h : read t = .ok body) :
    ∃ rest, Key.split? t = some (body.placeholder.key, rest) := by
  unfold read at h
  split at h
  · contradiction
  next key rest hkey =>
    simp only at h
    split at h
    · contradiction
    split at h
    · contradiction
    split at h
    · contradiction
    · cases h
      exact ⟨rest, hkey⟩

/-- A key is found to be incomplete only by the scan for its end. -/
theorem read_eq_incompleteKey_iff : read t = .error .incompleteKey ↔ Key.split? t = none := by
  unfold read
  split
  next hkey => exact iff_of_true rfl hkey
  next key rest hkey =>
    refine iff_of_false ?_ (by rw [hkey]; exact Option.some_ne_none _)
    simp only
    split
    · simp
    split
    · simp
    split
    · simp
    · simp

end Placeholder

/-- Of a body that starts with an opening parenthesis, reading takes a key and goes on with a rest
if and only if the body is this key between its parentheses, and this rest, and the key is
balanced; there is one such key and rest at most.  The key is found to be incomplete if and
only if there is none, which is to say that every beginning of the body has more opening
parentheses than closing ones.  Over bytes, in words that hold the size of the body, the scan
tells the byte of the parenthesis that ends the key, or that there is none. -/
theorem Key.ends_where_it_is_balanced (t : Text) :
    (∀ key rest, Key.split? t = some (key, rest) ↔ Key.Enclosed ('(' :: t) key rest) ∧
    (∀ key rest, Key.Enclosed ('(' :: t) key rest →
      Placeholder.read t = (Placeholder.read (')' :: rest)).map (·.withKey key)) ∧
    (∀ body, Placeholder.read t = .ok body →
      ∃ rest, Key.Enclosed ('(' :: t) body.placeholder.key rest) ∧
    (∀ key rest other behind, Key.Enclosed ('(' :: t) key rest →
      Key.Enclosed ('(' :: t) other behind → key = other ∧ rest = behind) ∧
    (Placeholder.read t = .error .incompleteKey ↔
      ¬ ∃ key rest, Key.Enclosed ('(' :: t) key rest) ∧
    (Placeholder.read t = .error .incompleteKey ↔
      ∀ front, front ≠ [] → front <+: '(' :: t → front.count ')' < front.count '(') ∧
    ∀ bits, Text.utf8Size ('(' :: t) < 1 <<< bits →
      (∀ place, Key.closing? bits 0 (Text.positions 0 ('(' :: t)) = some (some place) ↔
        ∃ key rest, Key.Enclosed ('(' :: t) key rest ∧ place = Text.utf8Size ('(' :: key)) ∧
      (Key.closing? bits 0 (Text.positions 0 ('(' :: t)) = some none ↔
        ¬ ∃ key rest, Key.Enclosed ('(' :: t) key rest) := by
  have hnone : Key.split? t = none ↔ ¬ ∃ key rest, Key.Enclosed ('(' :: t) key rest := by
    simp only [Option.eq_none_iff_forall_ne_some, Prod.forall, ne_eq,
      Key.split?_eq_some_iff_enclosed, not_exists]
  refine ⟨fun key rest => Key.split?_eq_some_iff_enclosed, fun key rest henclosed => ?_,
    fun body hread => ?_, fun key rest other behind => Key.Enclosed.unique, ?_, ?_,
    fun bits hfits => ⟨fun place => ?_, ?_⟩⟩
  · exact Placeholder.read_eq_map_withKey (Key.split?_eq_some_iff_enclosed.2 henclosed)
  · obtain ⟨rest, hsplit⟩ := Placeholder.exists_split?_of_read hread
    exact ⟨rest, Key.split?_eq_some_iff_enclosed.1 hsplit⟩
  · exact Placeholder.read_eq_incompleteKey_iff.trans hnone
  · exact Placeholder.read_eq_incompleteKey_iff.trans
      (Key.split?_eq_none_iff_leavesOpen.trans Key.leavesOpen_iff_of_body)
  · rw [Key.closing?_body hfits]
    simp only [Option.some.injEq, Option.map_eq_some_iff, Prod.exists,
      Key.split?_eq_some_iff_enclosed]
    refine exists_congr fun key => exists_congr fun rest => and_congr_right fun _ => ?_
    exact eq_comm
  · rw [Key.closing?_body hfits, Option.some.injEq, Option.map_eq_none_iff, hnone]

/-- A key with parentheses and characters of two bytes: it ends at the second closing
parenthesis, at byte seven.  One that is closed once too few is incomplete. -/
theorem Key.ends_where_it_is_balanced_accented :
    Key.Enclosed "(é(ü))s".toList "é(ü)".toList "s".toList ∧
    Placeholder.read "é(ü))s".toList =
      (Placeholder.read ")s".toList).map (·.withKey "é(ü)".toList) ∧
    Key.closing? 64 0 (Text.positions 0 "(é(ü))s".toList) = some (some 7) ∧
    Placeholder.read "é(ü)s".toList = .error .incompleteKey ∧
    ¬ ∃ key rest, Key.Enclosed "(é(ü)s".toList key rest := by
  obtain ⟨hsplit, hread, -, -, -, -, hbytes⟩ := Key.ends_where_it_is_balanced "é(ü))s".toList
  obtain ⟨-, -, -, -, hnone, -⟩ := Key.ends_where_it_is_balanced "é(ü)s".toList
  have henclosed : Key.Enclosed "(é(ü))s".toList "é(ü)".toList "s".toList :=
    (hsplit _ _).1 (by decide)
  have hincomplete : Placeholder.read "é(ü)s".toList = .error .incompleteKey := rfl
  exact ⟨henclosed, hread _ _ henclosed,
    ((hbytes 64 (by decide)).1 7).2 ⟨_, _, henclosed, by decide⟩, hincomplete,
    hnone.1 hincomplete⟩

end SitePress
