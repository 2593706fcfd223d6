import GuardedTools.Access.Identity
import GuardedTools.Text.Utf8
import Mathlib.Data.List.Induction
import Mathlib.Data.List.TakeWhile
import Mathlib.Tactic.Ring

/-!
# Texts

What is known of code points, of decimal digits, of the pieces of texts and of their bytes.

A code point is known by its number (`CodePoint.ofNat_toNat`).  Among the first 128, which are those of
ASCII, only the capital letters have small forms other than themselves (`CodePoint.small_of_isAscii`), so
that an ASCII text in small letters is found without the tables of Unicode (`Text.lower_of_isAscii`).

No word goes on beyond a blank (`Text.meetsCased_append`), and the small form of what is no blank has none, as
the tables of Unicode show (`Text.isBlank_of_mem_smallAmid`).  So it is one whether a text is trimmed before
or after it is brought into small letters (`Text.lower_trim`).  The rows of small letters move nothing twice
(`Text.shiftBy_shiftBy`), so that a text in small letters stays as it is (`Text.lower_lower`).

The digits of a number are digits (`Text.isDigit_of_mem_ofNat`), say the number
(`Text.digitsToNat_ofNat`), and begin with a zero only for zero itself (`Text.head?_toDigits_ne`).

A text is split at the occurrences of a character.  A piece without the character stays as it is
(`Text.splitPointsBy_of_free`, `Text.splitPointsBy_append`), so that pieces that are joined by the character
are found again when the text is split (`Text.splitOn_intercalate`).  The last piece is what stands after the
last occurrence of the character (`Text.afterLast_append`).

A text of characters has bytes in UTF-8, and these are read as that text (`Utf8.decode_encode`).
-/

namespace GuardedTools

/-! ### Code points -/

namespace CodePoint

theorem toNat_inj {p q : CodePoint} (h : p.toNat = q.toNat) : p = q := by
  -- characters and surrogates have different numbers
  have apart (c : Char) (offset : Fin 2048) : c.toNat ≠ 0xD800 + offset.val := by
    intro same
    have outside : c.toNat < 0xD800 ∨ 0xDFFF < c.toNat ∧ c.toNat < 0x110000 := c.valid
    have small := offset.isLt
    omega
  cases p <;> cases q
  case scalar.scalar c d => rw [Char.toNat_inj.mp h]
  case scalar.surrogate c offset => exact absurd h (apart c offset)
  case surrogate.scalar offset c => exact absurd h.symm (apart c offset)
  case surrogate.surrogate offset offset' => exact congrArg surrogate (Fin.ext (Nat.add_left_cancel h))

theorem toNat_lt (p : CodePoint) : p.toNat < 0x110000 := by
  cases p with
  | scalar c =>
    have outside : c.toNat < 0xD800 ∨ 0xDFFF < c.toNat ∧ c.toNat < 0x110000 := c.valid
    show c.toNat < 0x110000
    omega
  | surrogate offset =>
    have small := offset.isLt
    show 0xD800 + offset.val < 0x110000
    omega

@[simp] theorem ofNat_toNat (p : CodePoint) : ofNat p.toNat = p := by
  refine toNat_inj ?_
  unfold ofNat
  cases p with
  | scalar c =>
    have outside : c.toNat < 0xD800 ∨ 0xDFFF < c.toNat ∧ c.toNat < 0x110000 := c.valid
    have number : (scalar c).toNat = c.toNat := rfl
    rw [dif_neg (by rw [number]; omega), if_pos (by rw [number]; omega), number, Char.ofNat_toNat]
    rfl
  | surrogate offset =>
    have small := offset.isLt
    have number : (surrogate offset).toNat = 0xD800 + offset.val := rfl
    rw [dif_pos (by rw [number]; omega)]
    show 0xD800 + ((surrogate offset).toNat - 0xD800) = _
    rw [number]
    omega

/-! ### ASCII -/

/-- The first 128 code points. -/
def isAscii (p : CodePoint) : Bool := p.toNat < 128

/-- In the table of small letters one row is about ASCII. -/
theorem shiftBy_smallRows {n : Nat} (ascii : n < 128) :
    Text.shiftBy Text.smallRows n = if 65 ≤ n ∧ n ≤ 90 then n + 32 else n := by
  have first : Text.smallRows.toList.head? = some (65, 90, 1, 32) := by decide +kernel
  have above : Text.smallRows.toList.tail.all (fun row => 128 ≤ row.1) = true := by decide +kernel
  obtain ⟨rest, rows⟩ : ∃ rest, Text.smallRows.toList = (65, 90, 1, 32) :: rest :=
    List.head?_eq_some_iff.mp first
  rw [rows, List.tail_cons, List.all_eq_true] at above
  have outside : ∀ row ∈ rest, ¬ row.1 ≤ n := by
    intro row member
    have high : 128 ≤ row.1 := by simpa using above row member
    omega
  rw [Text.shiftBy, ← Array.find?_toList, rows, List.find?_cons,
    List.find?_eq_none.mpr fun row member => by simp [outside row member]]
  by_cases capital : 65 ≤ n ∧ n ≤ 90
  · rw [if_pos capital]
    simp only [capital, decide_true, Bool.and_self, Nat.mod_one, beq_self_eq_true]
    show ((n : Int) + 32).toNat = n + 32
    omega
  · have no : (decide (65 ≤ n) && decide (n ≤ 90)) = false := by simpa using capital
    simp [no, capital]

theorem small_of_isAscii {p : CodePoint} (ascii : p.isAscii = true) : p.small = [p.asciiLower] := by
  have low : p.toNat < 128 := by simpa [isAscii] using ascii
  have dotted : p.toNat ≠ 0x130 := by omega
  rw [small, if_neg dotted, shiftBy_smallRows low, asciiLower, between]
  by_cases capital : 65 ≤ p.toNat ∧ p.toNat ≤ 90
  · simp [capital]
  · have no : (decide (65 ≤ p.toNat) && decide (p.toNat ≤ 90)) = false := by simpa using capital
    simp [no, capital]

end CodePoint

theorem Text.lower_of_isAscii {t : Text} (ascii : t.points.all CodePoint.isAscii = true) :
    t.lower = t.asciiLower := by
  obtain ⟨ps⟩ := t
  have each : ∀ before, lowerPoints before ps = ps.map CodePoint.asciiLower := by
    induction ps with
    | nil => exact fun _ => rfl
    | cons p ps ih =>
      intro before
      rw [List.all_cons, Bool.and_eq_true] at ascii
      have low : p.toNat < 128 := by simpa [CodePoint.isAscii] using ascii.1
      have sigma : p.toNat ≠ 0x3A3 := by omega
      rw [lowerPoints, smallAmid, if_neg sigma, CodePoint.small_of_isAscii ascii.1, ih ascii.2]
      rfl
  exact congrArg Text.mk (each [])

/-- The normal form of the name of a role that is an ASCII text but for blanks. -/
theorem normalRole_of_isAscii {r s : Text}
    (h : r.trim.points.all CodePoint.isAscii = true ∧ r.trim.asciiLower = s) : normalRole r = s :=
  (Text.lower_of_isAscii h.1).trans h.2

/-! ### Blanks and small letters -/

section Blanks

variable {p : CodePoint} {ps bs before after : List CodePoint}

namespace Text

/-- Whether no range of one table meets one of another. -/
def areApart (ranges others : Array (Nat × Nat)) : Bool :=
  ranges.toList.all fun r => others.toList.all fun s => Nat.blt r.2 s.1 || Nat.blt s.2 r.1

theorem inRanges_eq_false_of_areApart {ranges others : Array (Nat × Nat)} {n : Nat}
    (apart : areApart ranges others = true) (inside : inRanges ranges n = true) :
    inRanges others n = false := by
  obtain ⟨r, member, low, high⟩ := (inRanges_iff ranges n).mp inside
  rw [Bool.eq_false_iff]
  intro both
  obtain ⟨s, other, low', high'⟩ := (inRanges_iff others n).mp both
  have disjoint : r.2 < s.1 ∨ s.2 < r.1 := by
    have all := List.all_eq_true.mp (List.all_eq_true.mp apart r member.val) s other.val
    simpa using all
  omega

/-- Ranges of one number each. -/
def singles (ns : List Nat) : Array (Nat × Nat) := ⟨ns.map fun n => (n, n)⟩

theorem inRanges_eq_false_of_mem {ranges : Array (Nat × Nat)} {ns : List Nat} {n : Nat}
    (apart : areApart (singles ns) ranges = true) (member : n ∈ ns) : inRanges ranges n = false :=
  inRanges_eq_false_of_areApart apart
    ((inRanges_iff _ n).mpr ⟨(n, n), ⟨List.mem_map_of_mem member⟩, Nat.le_refl n, Nat.le_refl n⟩)

/-- The ranges that rows move to others. -/
def moved (rows : Array (Nat × Nat × Nat × Int)) : Array (Nat × Nat) :=
  ⟨rows.toList.map fun row => (row.1, row.2.1)⟩

/-- The ranges that rows move others to. -/
def targets (rows : Array (Nat × Nat × Nat × Int)) : Array (Nat × Nat) :=
  ⟨rows.toList.map fun row => ((row.1 + row.2.2.2).toNat, (row.2.1 + row.2.2.2).toNat)⟩

/-- A row is about a number. -/
def Meets (row : Nat × Nat × Nat × Int) (n : Nat) : Prop :=
  row.1 ≤ n ∧ n ≤ row.2.1 ∧ (n - row.1) % row.2.2.1 = 0

theorem shiftBy_eq_or (rows : Array (Nat × Nat × Nat × Int)) (n : Nat) :
    shiftBy rows n = n ∨ ∃ row ∈ rows.toList, Meets row n ∧ shiftBy rows n = (n + row.2.2.2).toNat := by
  unfold shiftBy
  split
  · next found =>
    have within := Array.find?_some found
    simp only [Bool.and_eq_true, decide_eq_true_eq, beq_iff_eq] at within
    exact Or.inr ⟨_, (Array.mem_of_find?_eq_some found).val, ⟨within.1.1, within.1.2, within.2⟩, rfl⟩
  · exact Or.inl rfl

/-- A number that no row is about stays. -/
theorem shiftBy_of_forall {rows : Array (Nat × Nat × Nat × Int)} {n : Nat}
    (none : ∀ row ∈ rows.toList, ¬ Meets row n) : shiftBy rows n = n := by
  rcases shiftBy_eq_or rows n with same | ⟨row, member, meets, -⟩
  · exact same
  · exact absurd meets (none row member)

theorem shiftBy_cases (rows : Array (Nat × Nat × Nat × Int)) (n : Nat) :
    shiftBy rows n = n ∨
      inRanges (moved rows) n = true ∧ inRanges (targets rows) (shiftBy rows n) = true := by
  rcases shiftBy_eq_or rows n with same | ⟨row, member, ⟨low, high, -⟩, number⟩
  · exact Or.inl same
  · refine Or.inr ⟨?_, ?_⟩
    · exact (inRanges_iff _ n).mpr ⟨_, ⟨List.mem_map_of_mem member⟩, low, high⟩
    · refine (inRanges_iff _ _).mpr ⟨_, ⟨List.mem_map_of_mem member⟩, ?_⟩
      dsimp only
      omega

theorem shiftBy_of_inRanges_eq_false {rows : Array (Nat × Nat × Nat × Int)} {n : Nat}
    (outside : inRanges (moved rows) n = false) : shiftBy rows n = n := by
  rcases shiftBy_cases rows n with same | ⟨inside, -⟩
  · exact same
  · rw [outside] at inside
    cases inside

/-- Whether no row is about what some row moves others to: they are apart, or the row is about every second
number only and these are between. -/
def spares (rows : Array (Nat × Nat × Nat × Int)) (other : Nat × Nat × Nat × Int) : Bool :=
  let least := (other.1 + other.2.2.2).toNat
  let most := (other.2.1 + other.2.2.2).toNat
  Nat.blt 0 least && rows.toList.all fun row => Nat.blt most row.1 || Nat.blt row.2.1 least ||
    row.2.2.1 == 2 && (least + row.1) % 2 == 1 && (other.2.2.1 == 2 || least == most)

/-- Rows that spare what they move others to move nothing twice. -/
theorem shiftBy_shiftBy {rows : Array (Nat × Nat × Nat × Int)}
    (spared : ∀ other ∈ rows.toList, spares rows other = true) (n : Nat) :
    shiftBy rows (shiftBy rows n) = shiftBy rows n := by
  rcases shiftBy_eq_or rows n with same | ⟨other, among, ⟨low, high, other_step⟩, number⟩
  · rw [same, same]
  refine shiftBy_of_forall ?_
  rintro row member ⟨low', high', row_step⟩
  obtain ⟨positive, each⟩ := Bool.and_eq_true_iff.mp (spared other among)
  rw [number] at low' high' row_step
  have spare := List.all_eq_true.mp each row member
  simp only [Bool.or_eq_true, Bool.and_eq_true, Nat.blt_eq, beq_iff_eq] at positive spare
  rcases spare with (below | above) | ⟨⟨second, odd⟩, evenly⟩
  · omega
  · omega
  · rw [second] at row_step
    rcases evenly with second | single
    · rw [second] at other_step
      omega
    · omega

/-- No blank is a letter with a case, a mark between letters, or what a letter becomes. -/
theorem blankRanges_apart : areApart blankRanges casedRanges = true ∧
    areApart blankRanges caseIgnorableRanges = true ∧ areApart blankRanges (moved smallRows) = true ∧
    areApart (targets smallRows) blankRanges = true := by
  decide +kernel

/-- The capital letters whose small forms are told apart from the table. -/
def specialCapitals : List Nat := [0x130, 0x3A3]

/-- Their small forms, and what stands for a number that is no code point. -/
def specialSmall : List Nat := [0x69, 0x307, 0x3C2, 0x3C3, 0xFFFD]

/-- Nothing becomes a letter that has another small form. -/
theorem smallRows_settle : smallRows.toList.all (spares smallRows) = true ∧
    areApart (singles specialSmall) (moved smallRows) = true ∧
    areApart (singles specialCapitals) (targets smallRows) = true := by
  decide +kernel

/-- The number of a code point that is its own small form. -/
structure IsSettled (n : Nat) : Prop where
  plain : n ∉ specialCapitals
  still : shiftBy smallRows n = n

theorem isSettled_of_mem {n : Nat} (special : n ∈ specialSmall) : IsSettled n where
  plain := by
    revert n
    decide
  still := shiftBy_of_inRanges_eq_false (inRanges_eq_false_of_mem smallRows_settle.2.1 special)

theorem isSettled_of_inRanges {n : Nat} (blank : inRanges blankRanges n = true) : IsSettled n where
  plain := by
    intro special
    have solid : inRanges blankRanges n = false := inRanges_eq_false_of_mem (by decide) special
    rw [solid] at blank
    cases blank
  still := shiftBy_of_inRanges_eq_false (inRanges_eq_false_of_areApart blankRanges_apart.2.2.1 blank)

/-- What the table moves a number to stays there. -/
theorem isSettled_shiftBy {n : Nat} (plain : n ∉ specialCapitals) : IsSettled (shiftBy smallRows n) where
  plain := by
    rcases shiftBy_cases smallRows n with same | ⟨-, target⟩
    · rw [same]
      exact plain
    · intro special
      rw [inRanges_eq_false_of_mem smallRows_settle.2.2 special] at target
      cases target
  still := shiftBy_shiftBy (List.all_eq_true.mp smallRows_settle.1) n

end Text

namespace CodePoint

theorem toNat_ofNat {n : Nat} (small : n < 0x110000) : (ofNat n).toNat = n := by
  unfold ofNat
  split
  · next half =>
    show 0xD800 + (n - 0xD800) = n
    omega
  · next whole =>
    have valid : n.isValidChar := by
      unfold Nat.isValidChar
      omega
    show (Char.ofNat n).toNat = n
    rw [Char.ofNat, dif_pos valid]
    rfl

/-- A number that is no code point is replaced. -/
theorem toNat_ofNat_eq_or (n : Nat) : (ofNat n).toNat = n ∨ (ofNat n).toNat = 0xFFFD := by
  by_cases small : n < 0x110000
  · exact Or.inl (toNat_ofNat small)
  · rw [ofNat, dif_neg (by omega), if_neg small]
    exact Or.inr rfl

theorem isCased_of_isBlank (blank : p.isBlank = true) : p.isCased = false :=
  Text.inRanges_eq_false_of_areApart Text.blankRanges_apart.1 blank

theorem isCaseIgnorable_of_isBlank (blank : p.isBlank = true) : p.isCaseIgnorable = false :=
  Text.inRanges_eq_false_of_areApart Text.blankRanges_apart.2.1 blank

end CodePoint

namespace Text

/-- A code point that is its own small form is that wherever it stands. -/
theorem smallAmid_of_isSettled (settled : IsSettled p.toNat) (before after : List CodePoint) :
    smallAmid before p after = [p] := by
  obtain ⟨plain, still⟩ := settled
  have sigma : p.toNat ≠ 0x3A3 := fun same => plain (by rw [same]; decide)
  have dotted : p.toNat ≠ 0x130 := fun same => plain (by rw [same]; decide)
  rw [smallAmid, if_neg sigma, CodePoint.small, if_neg dotted, still, CodePoint.ofNat_toNat]

theorem smallAmid_of_isBlank (blank : p.isBlank = true) (before after : List CodePoint) :
    smallAmid before p after = [p] := smallAmid_of_isSettled (isSettled_of_inRanges blank) before after

/-- What holds of the forms apart from the table and of what the table moves a code point to holds of its small
forms. -/
theorem forall_mem_smallAmid {P : Nat → Prop} (special : ∀ n ∈ specialSmall, P n)
    (moved : p.toNat ∉ specialCapitals → P (shiftBy smallRows p.toNat)) (before after : List CodePoint) :
    ∀ q ∈ smallAmid before p after, P q.toNat := by
  have form (n : Nat) (h : P n) : P (CodePoint.ofNat n).toNat := by
    rcases CodePoint.toNat_ofNat_eq_or n with same | replaced
    · rw [same]
      exact h
    · rw [replaced]
      exact special _ (by decide)
  have one (n : Nat) (h : P n) : ∀ q ∈ [CodePoint.ofNat n], P q.toNat :=
    List.forall_mem_singleton.mpr (form n h)
  unfold smallAmid CodePoint.small
  split
  · split
    · exact one _ (special _ (by decide))
    · exact one _ (special _ (by decide))
  split
  · exact List.forall_mem_cons.mpr ⟨form _ (special _ (by decide)), one _ (special _ (by decide))⟩
  · next sigma dotted => exact one _ (moved (by simp [specialCapitals, dotted, sigma]))

/-- The small form of what is no blank has no blanks. -/
theorem isBlank_of_mem_smallAmid (solid : p.isBlank = false) (before after : List CodePoint) :
    ∀ q ∈ smallAmid before p after, q.isBlank = false := by
  refine forall_mem_smallAmid (fun n special => inRanges_eq_false_of_mem (by decide) special) (fun _ => ?_) before after
  rcases shiftBy_cases smallRows p.toNat with same | ⟨-, target⟩
  · rw [same]
    exact solid
  · exact inRanges_eq_false_of_areApart blankRanges_apart.2.2.2 target

/-- Small forms are their own small forms. -/
theorem isSettled_of_mem_smallAmid (before : List CodePoint) (p : CodePoint) (after : List CodePoint) :
    ∀ q ∈ smallAmid before p after, IsSettled q.toNat :=
  forall_mem_smallAmid (fun _ special => isSettled_of_mem special) isSettled_shiftBy before after

theorem smallAmid_ne_nil (before : List CodePoint) (p : CodePoint) (after : List CodePoint) :
    smallAmid before p after ≠ [] := by
  unfold smallAmid
  split
  · split <;> exact List.cons_ne_nil _ _
  · unfold CodePoint.small
    split <;> exact List.cons_ne_nil _ _

/-- No word goes on beyond a blank. -/
theorem meetsCased_append (blanks : ∀ b ∈ bs, CodePoint.isBlank b = true) :
    meetsCased (ps ++ bs) = meetsCased ps := by
  induction ps with
  | nil =>
    cases bs with
    | nil => rfl
    | cons b bs =>
      have blank := blanks b List.mem_cons_self
      have stops : ¬ b.isCaseIgnorable = true := by
        rw [CodePoint.isCaseIgnorable_of_isBlank blank]
        exact Bool.false_ne_true
      rw [List.nil_append, meetsCased, List.dropWhile_cons_of_neg stops]
      exact CodePoint.isCased_of_isBlank blank
  | cons p ps ih =>
    rw [List.cons_append, meetsCased, meetsCased]
    by_cases through : p.isCaseIgnorable = true
    · rw [List.dropWhile_cons_of_pos through, List.dropWhile_cons_of_pos through]
      exact ih
    · rw [List.dropWhile_cons_of_neg through, List.dropWhile_cons_of_neg through]

/-- The small forms do not depend on what stands before blanks, but for being a blank. -/
theorem lowerPoints_append_left (blanks : ∀ b ∈ bs, CodePoint.isBlank b = true) :
    lowerPoints (before ++ bs) ps = lowerPoints before ps := by
  induction ps generalizing before with
  | nil => rfl
  | cons p ps ih =>
    have first : smallAmid (before ++ bs) p ps = smallAmid before p ps := by
      unfold smallAmid
      rw [meetsCased_append blanks]
    rw [lowerPoints, lowerPoints, first, ← List.cons_append, ih]

theorem lowerPoints_of_isSettled (settled : ∀ p ∈ ps, IsSettled p.toNat) : lowerPoints before ps = ps := by
  induction ps generalizing before with
  | nil => rfl
  | cons p ps ih =>
    rw [List.forall_mem_cons] at settled
    rw [lowerPoints, smallAmid_of_isSettled settled.1, ih settled.2, List.singleton_append]

/-- Blanks at the end stay. -/
theorem lowerPoints_append_right (blanks : ∀ b ∈ bs, CodePoint.isBlank b = true) :
    lowerPoints before (ps ++ bs) = lowerPoints before ps ++ bs := by
  induction ps generalizing before with
  | nil => exact lowerPoints_of_isSettled fun b member => isSettled_of_inRanges (blanks b member)
  | cons p ps ih =>
    have first : smallAmid before p (ps ++ bs) = smallAmid before p ps := by
      unfold smallAmid
      rw [meetsCased_append blanks]
    rw [List.cons_append, lowerPoints, lowerPoints, first, ih, List.append_assoc]

/-- Blanks at the beginning are dropped before or after letters are made small. -/
theorem dropWhile_lowerPoints (blanks : ∀ b ∈ bs, CodePoint.isBlank b = true) :
    (lowerPoints bs ps).dropWhile CodePoint.isBlank = lowerPoints [] (ps.dropWhile CodePoint.isBlank) := by
  induction ps generalizing bs with
  | nil => rfl
  | cons p ps ih =>
    cases first : p.isBlank with
    | true =>
      rw [lowerPoints, smallAmid_of_isBlank first, List.singleton_append, List.dropWhile_cons_of_pos first,
        List.dropWhile_cons_of_pos first]
      exact ih (List.forall_mem_cons.mpr ⟨first, blanks⟩)
    | false =>
      obtain ⟨q, qs, form⟩ := List.exists_cons_of_ne_nil (smallAmid_ne_nil [] p ps)
      have solid : ¬ q.isBlank = true := by
        rw [isBlank_of_mem_smallAmid first [] ps q (form ▸ List.mem_cons_self)]
        exact Bool.false_ne_true
      have same : lowerPoints ([] ++ bs) (p :: ps) = lowerPoints [] (p :: ps) := lowerPoints_append_left blanks
      rw [List.nil_append] at same
      rw [same, List.dropWhile_cons_of_neg (by rw [first]; exact Bool.false_ne_true), lowerPoints, form,
        List.cons_append, List.dropWhile_cons_of_neg solid]

/-- The small forms end in those of the last code point. -/
theorem exists_lowerPoints_concat (before ps : List CodePoint) (p : CodePoint) :
    ∃ start behind, lowerPoints before (ps ++ [p]) = start ++ smallAmid behind p [] := by
  induction ps generalizing before with
  | nil => exact ⟨[], before, List.append_nil _⟩
  | cons q qs ih =>
    obtain ⟨start, behind, last⟩ := ih (q :: before)
    refine ⟨smallAmid before q (qs ++ [p]) ++ start, behind, ?_⟩
    rw [List.cons_append, lowerPoints, last, List.append_assoc]

/-- Blanks at the end are dropped before or after letters are made small. -/
theorem dropWhile_reverse_lowerPoints (before ps : List CodePoint) :
    ((lowerPoints before ps).reverse.dropWhile CodePoint.isBlank).reverse
      = lowerPoints before (ps.reverse.dropWhile CodePoint.isBlank).reverse := by
  induction ps using List.reverseRecOn with
  | nil => rfl
  | append_singleton ps p ih =>
    rw [List.reverse_append, List.reverse_singleton, List.singleton_append]
    cases last : p.isBlank with
    | true =>
      rw [lowerPoints_append_right (List.forall_mem_singleton.mpr last), List.reverse_append,
        List.reverse_singleton, List.singleton_append, List.dropWhile_cons_of_pos last,
        List.dropWhile_cons_of_pos last, ih]
    | false =>
      obtain ⟨start, behind, ends⟩ := exists_lowerPoints_concat before ps p
      obtain ⟨q, qs, form⟩ := List.exists_cons_of_ne_nil
        (List.reverse_ne_nil_iff.mpr (smallAmid_ne_nil behind p []))
      have among : q ∈ smallAmid behind p [] := List.mem_reverse.mp (form ▸ List.mem_cons_self)
      have solid : ¬ q.isBlank = true := by
        rw [isBlank_of_mem_smallAmid last behind [] q among]
        exact Bool.false_ne_true
      rw [List.dropWhile_cons_of_neg (by rw [last]; exact Bool.false_ne_true), List.reverse_cons,
        List.reverse_reverse, ends, List.reverse_append, form, List.cons_append,
        List.dropWhile_cons_of_neg solid, ← List.cons_append, ← form, ← List.reverse_append,
        List.reverse_reverse]

/-- **Trimming and small letters** can change places. -/
theorem lower_trim (t : Text) : t.trim.lower = t.lower.trim := by
  have first : (lowerPoints [] t.points).dropWhile CodePoint.isBlank
      = lowerPoints [] (t.points.dropWhile CodePoint.isBlank) := dropWhile_lowerPoints (List.forall_mem_nil _)
  have last := dropWhile_reverse_lowerPoints [] (t.points.dropWhile CodePoint.isBlank)
  rw [← first] at last
  exact congrArg Text.mk last.symm

/-- What is written in small letters stays as it is. -/
theorem lower_lower (t : Text) : t.lower.lower = t.lower := by
  obtain ⟨ps⟩ := t
  have each : ∀ before, ∀ q ∈ lowerPoints before ps, IsSettled q.toNat := by
    induction ps with
    | nil => exact fun _ => List.forall_mem_nil _
    | cons p ps ih =>
      intro before q member
      rcases List.mem_append.mp member with first | later
      · exact isSettled_of_mem_smallAmid before p ps q first
      · exact ih (p :: before) q later
  exact congrArg Text.mk (lowerPoints_of_isSettled (each []))

theorem isBlank_lower (t : Text) : t.lower.isBlank = t.isBlank := by
  obtain ⟨ps⟩ := t
  have each : ∀ before, (lowerPoints before ps).all CodePoint.isBlank = ps.all CodePoint.isBlank := by
    induction ps with
    | nil => exact fun _ => rfl
    | cons p ps ih =>
      intro before
      rw [lowerPoints, List.all_append, ih, List.all_cons]
      cases first : p.isBlank with
      | true =>
        rw [smallAmid_of_isBlank first]
        simp [first]
      | false =>
        obtain ⟨q, qs, form⟩ := List.exists_cons_of_ne_nil (smallAmid_ne_nil before p ps)
        have solid := isBlank_of_mem_smallAmid first before ps q (form ▸ List.mem_cons_self)
        rw [form, List.all_cons, solid]
        rfl
  exact each []

theorem isBlank_append (s t : Text) : (s ++ t).isBlank = (s.isBlank && t.isBlank) := List.all_append

/-- Blanks at the ends are trimmed. -/
theorem trim_padded {before after : Text} (blank : before.isBlank = true) (blank' : after.isBlank = true)
    (t : Text) : (before ++ t ++ after).trim = t.trim := by
  have front : ∀ p ∈ before.points, CodePoint.isBlank p = true := List.all_eq_true.mp blank
  have back : ∀ p ∈ after.points, CodePoint.isBlank p = true := List.all_eq_true.mp blank'
  have back' : ∀ p ∈ after.points.reverse, CodePoint.isBlank p = true :=
    fun p member => back p (List.mem_reverse.mp member)
  have points : (before ++ t ++ after).points.dropWhile CodePoint.isBlank
      = (t.points ++ after.points).dropWhile CodePoint.isBlank := by
    show (before.points ++ t.points ++ after.points).dropWhile _ = _
    rw [List.append_assoc, List.dropWhile_append_of_pos front]
  rw [trim, trim, trimBy, trimBy, points, List.dropWhile_append]
  split
  · next none =>
    -- there was nothing but blanks
    rw [List.isEmpty_iff.mp none, List.dropWhile_eq_nil_iff.mpr back]
  · rw [List.reverse_append, List.dropWhile_append_of_pos back']

/-- A text is what is left of it by trimming, with blanks at the ends. -/
theorem exists_padding (t : Text) :
    ∃ before after : Text, before.isBlank = true ∧ after.isBlank = true ∧ t = before ++ t.trim ++ after := by
  obtain ⟨ps⟩ := t
  let rest := (ps.dropWhile CodePoint.isBlank).reverse
  refine ⟨⟨ps.takeWhile CodePoint.isBlank⟩, ⟨(rest.takeWhile CodePoint.isBlank).reverse⟩, ?_, ?_, ?_⟩
  · exact List.all_takeWhile
  · rw [isBlank, List.all_reverse]
    exact List.all_takeWhile
  · have whole : (rest.dropWhile CodePoint.isBlank).reverse ++ (rest.takeWhile CodePoint.isBlank).reverse
        = ps.dropWhile CodePoint.isBlank := by
      rw [← List.reverse_append, List.takeWhile_append_dropWhile, List.reverse_reverse]
    show Text.mk ps = Text.mk (ps.takeWhile CodePoint.isBlank ++ _ ++ _)
    rw [List.append_assoc]
    exact congrArg Text.mk ((congrArg _ whole).trans List.takeWhile_append_dropWhile).symm

end Text

end Blanks

namespace Text

/-! ### Decimal digits -/

theorem isDigit_scalar {c : Char} (digit : c.isDigit = true) : (CodePoint.scalar c).isDigit = true := by
  simp only [Char.isDigit, Bool.and_eq_true, decide_eq_true_eq] at digit
  rw [CodePoint.isDigit, CodePoint.between, Bool.and_eq_true, decide_eq_true_eq, decide_eq_true_eq]
  exact digit

theorem isDigit_of_mem_map {cs : List Char} (digits : ∀ c ∈ cs, c.isDigit = true) :
    ∀ p ∈ cs.map CodePoint.scalar, p.isDigit = true := by
  intro p member
  obtain ⟨c, among, rfl⟩ := List.mem_map.mp member
  exact isDigit_scalar (digits c among)

theorem isDigit_of_mem_toDigits {n : Nat} : ∀ c ∈ Nat.toDigits 10 n, c.isDigit = true :=
  fun _ => Nat.isDigit_of_mem_toDigits (by decide) (by decide)

theorem isDigit_of_mem_ofNat {n : Nat} {p : CodePoint} (member : p ∈ (ofNat n).points) :
    p.isDigit = true :=
  isDigit_of_mem_map isDigit_of_mem_toDigits p member

theorem digitsToNat_ofNat (n : Nat) : digitsToNat (ofNat n).points = n := by
  have digits : (Nat.toDigits 10 n).foldl (fun m c => 10 * m + (c.toNat - 48)) 0 = n :=
    Nat.ofDigitChars_toDigits (by decide) (by decide)
  rw [digitsToNat, ofNat, List.foldl_map]
  exact digits

theorem digitsToNat_append (ds es : List CodePoint) :
    digitsToNat (ds ++ es) = digitsToNat ds * 10 ^ es.length + digitsToNat es := by
  have shifted (es : List CodePoint) (n : Nat) : es.foldl (fun n d => 10 * n + d.digitValue) n
      = n * 10 ^ es.length + es.foldl (fun n d => 10 * n + d.digitValue) 0 := by
    induction es generalizing n with
    | nil => simp
    | cons e es ih =>
      rw [List.foldl_cons, List.foldl_cons, ih (10 * n + e.digitValue), ih (10 * 0 + e.digitValue),
        List.length_cons, Nat.pow_succ]
      ring
  rw [digitsToNat, List.foldl_append, shifted es]
  rfl

theorem digitsToNat_zeros (n : Nat) : digitsToNat (List.replicate n (.scalar '0')) = 0 := by
  induction n with
  | zero => rfl
  | succ n ih =>
    have zero : digitsToNat [.scalar '0'] = 0 := rfl
    rw [List.replicate_succ', digitsToNat_append, ih, zero, Nat.zero_mul]

theorem head?_toDigits_ne {n : Nat} (some : 0 < n) : (Nat.toDigits 10 n).head? ≠ .some '0' := by
  induction n using Nat.strongRecOn with
  | ind n ih =>
    rw [Nat.toDigits_eq_if (by decide)]
    split
    next single =>
      intro zero
      have digit : n.digitChar = '0' := Option.some.inj zero
      exact some.ne' (Nat.digitChar_eq_zero.mp digit)
    next more =>
      have front := ih (n / 10) (by omega) (by omega)
      obtain ⟨c, cs, digits⟩ := List.exists_cons_of_ne_nil (Nat.toDigits_ne_nil (b := 10) (n := n / 10))
      rw [digits] at front ⊢
      exact front

/-! ### Pieces -/

variable {c : Char} {ps qs : List CodePoint}

/-- Without the character there is one piece. -/
theorem splitPointsBy_of_free (free : ∀ p ∈ ps, p.is c = false) : splitPointsBy (·.is c) ps = [ps] := by
  induction ps with
  | nil => rfl
  | cons p ps ih =>
    rw [List.forall_mem_cons] at free
    rw [splitPointsBy, free.1, ih free.2]
    rfl

/-- The first piece is what stands before the first occurrence of the character. -/
theorem splitPointsBy_append (free : ∀ p ∈ ps, p.is c = false) :
    splitPointsBy (·.is c) (ps ++ .scalar c :: qs) = ps :: splitPointsBy (·.is c) qs := by
  induction ps with
  | nil =>
    have separator : (CodePoint.scalar c).is c = true := beq_self_eq_true _
    rw [List.nil_append, splitPointsBy, if_pos separator]
  | cons p ps ih =>
    rw [List.forall_mem_cons] at free
    rw [List.cons_append, splitPointsBy, free.1, ih free.2]
    rfl

/-- A text that does not end in a slash has none to drop at its end. -/
theorem trimEndBy_of_endsWith_eq_false {t : Text} (ends : t.endsWith "/" = false) :
    t.trimEndBy (·.is '/') = t := by
  obtain ⟨ps⟩ := t
  rcases List.eq_nil_or_concat ps with rfl | ⟨before, last, rfl⟩
  · rfl
  · have other : last.is '/' = false := by
      rw [Bool.eq_false_iff] at ends ⊢
      intro slash
      obtain rfl : last = .scalar '/' := eq_of_beq slash
      exact ends (List.isSuffixOf_iff_suffix.mpr ⟨before, List.concat_eq_append.symm⟩)
    rw [trimEndBy, List.concat_eq_append, List.reverse_append, List.reverse_singleton,
      List.singleton_append, List.dropWhile_cons, other, if_neg Bool.false_ne_true,
      List.reverse_cons, List.reverse_reverse]

theorem containsChar_eq_false {t : Text} : t.containsChar c = false ↔ ∀ p ∈ t.points, p.is c = false := by
  simp only [containsChar, List.any_eq_false, Bool.not_eq_true]

theorem containsChar_eq_false_of_notMem {t : Text} (absent : .scalar c ∉ t.points) : t.containsChar c = false := by
  rw [containsChar_eq_false]
  intro p member
  rw [Bool.eq_false_iff]
  intro same
  obtain rfl : p = .scalar c := eq_of_beq same
  exact absent member

theorem containsChar_append (s t : Text) : (s ++ t).containsChar c = (s.containsChar c || t.containsChar c) :=
  List.any_append

/-- Blanks hold nothing else. -/
theorem containsChar_of_isBlank (solid : CodePoint.isBlank (.scalar c) = false) {t : Text}
    (blank : t.isBlank = true) : t.containsChar c = false := by
  refine containsChar_eq_false_of_notMem fun member => ?_
  rw [List.all_eq_true.mp blank _ member] at solid
  cases solid

theorem append_assoc (s t u : Text) : s ++ t ++ u = s ++ (t ++ u) :=
  congrArg Text.mk (List.append_assoc ..)

theorem intercalate_cons {separator t : Text} {ts : List Text} (more : ts ≠ []) :
    intercalate separator (t :: ts) = t ++ (separator ++ intercalate separator ts) := by
  cases ts with
  | nil => exact absurd rfl more
  | cons u ts => exact append_assoc ..

/-- Pieces without a character, joined by it, are found again. -/
theorem splitOn_intercalate {separator : Text} (single : separator.points = [.scalar c]) {ts : List Text}
    (nonempty : ts ≠ []) (free : ∀ t ∈ ts, t.containsChar c = false) :
    (intercalate separator ts).splitOn c = ts := by
  induction ts with
  | nil => exact absurd rfl nonempty
  | cons t ts ih =>
    rw [List.forall_mem_cons] at free
    have first := containsChar_eq_false.mp free.1
    rw [splitOn, splitBy] at ih ⊢
    cases ts with
    | nil =>
      rw [intercalate, splitPointsBy_of_free first]
      rfl
    | cons u ts =>
      have more : u :: ts ≠ [] := List.cons_ne_nil u ts
      have points : (intercalate separator (t :: u :: ts)).points
          = t.points ++ .scalar c :: (intercalate separator (u :: ts)).points := by
        rw [intercalate_cons more]
        exact congrArg (t.points ++ ·) (congrArg (· ++ _) single)
      rw [points, splitPointsBy_append first, List.map_cons, ih more free.2]

/-- What stands after a character, and does not have it, is what stands after the last one. -/
theorem afterLast_append {s t : Text} {start : List CodePoint} (ends : s.points = start ++ [.scalar c])
    (free : t.containsChar c = false) : (s ++ t).afterLast c = t := by
  have before : ∀ p ∈ t.points.reverse, (!p.is c) = true := by
    intro p member
    rw [containsChar_eq_false.mp free p (List.mem_reverse.mp member)]
    rfl
  have here : (!(CodePoint.scalar c).is c) = false := congrArg not (beq_self_eq_true _)
  have reversed : (s ++ t).points.reverse = t.points.reverse ++ .scalar c :: start.reverse := by
    rw [show (s ++ t).points = s.points ++ t.points from rfl, ends, List.reverse_append, List.reverse_append]
    rfl
  have cut : (⟨(s ++ t).points.reverse⟩ : Text).cutAt c = some (⟨t.points.reverse⟩, ⟨start.reverse⟩) := by
    rw [cutAt, reversed, List.dropWhile_append_of_pos before, List.takeWhile_append_of_pos before,
      List.dropWhile_cons_of_neg (by rw [here]; exact Bool.false_ne_true),
      List.takeWhile_cons_of_neg (by rw [here]; exact Bool.false_ne_true), List.append_nil]
  rw [afterLast, cutAtLast, cut]
  exact congrArg Text.mk (List.reverse_reverse _)

/-- A text of scalar values is the text of these characters. -/
theorem eq_ofChars {t : Text} {cs : List Char} (h : t.scalars? = some cs) : t = ofChars cs := by
  obtain ⟨ps⟩ := t
  refine congrArg mk ?_
  induction ps generalizing cs with
  | nil =>
    cases h
    rfl
  | cons p ps ih =>
    rw [scalars?, List.mapM_cons] at h
    obtain ⟨c, first, h⟩ := Option.bind_eq_some_iff.mp h
    obtain ⟨rest, others, h⟩ := Option.bind_eq_some_iff.mp h
    obtain rfl := Option.some.inj h
    cases p with
    | surrogate n => cases first
    | scalar c' => rw [List.map_cons, ← ih others, Option.some.inj first]

end Text

/-! ### UTF-8 -/

namespace Utf8

variable {fuel position : Nat} {low high b : UInt8} {tail : List UInt8}

/-- A byte and those that continue it are read as the character whose number they make. -/
theorem decodeFrom_sequence {c : Char} (bytes : encodeChar c = b :: tail)
    (starts : lead b = some (tail.length + 1, low, high)) (several : tail ≠ [])
    (second : ∀ t ∈ tail.head?, (low ≤ t && t ≤ high) = true) (others : ∀ t ∈ tail.tail, isTail t = true)
    (number : assemble (tail.length + 1) b tail = c.toNat) (bs : List UInt8) :
    decodeFrom (fuel + 1) position (encodeChar c ++ bs)
      = (decodeFrom fuel (position + (encodeChar c).length) bs).map (c :: ·) := by
  obtain ⟨t, ts, rfl⟩ := List.exists_cons_of_ne_nil several
  have got : continued ((t :: ts).length + 1) low high (t :: ts ++ bs) = (t :: ts).length := by
    have whole : ts.takeWhile isTail = ts := List.takeWhile_eq_self_iff.mpr others
    rw [List.cons_append, continued, if_pos (second t rfl)]
    show 1 + (((ts ++ bs).take ts.length).takeWhile isTail).length = ts.length + 1
    rw [List.take_left, whole, Nat.add_comm]
  have more : ¬ (t :: ts).length + 1 = 1 := by
    rw [List.length_cons]
    omega
  rw [bytes, List.cons_append, decodeFrom, starts]
  dsimp only
  rw [if_neg more, got, if_pos rfl, List.drop_left, List.take_left, number, Char.ofNat_toNat, List.length_cons]
  cases decodeFrom fuel (position + ((t :: ts).length + 1)) bs <;> rfl

theorem lead_one : ∀ n < 0x80, lead n.toUInt8 = some (1, 0, 0) ∧ n.toUInt8.toNat = n := by decide

theorem lead_two : ∀ k < 32, 2 ≤ k →
    lead (0xC0 + k).toUInt8 = some (2, 0x80, 0xBF) ∧ (0xC0 + k).toUInt8.toNat % 0x20 = k := by decide

theorem lead_three : ∀ k < 16, lead (0xE0 + k).toUInt8
      = some (3, if k = 0 then 0xA0 else 0x80, if k = 13 then 0x9F else 0xBF) ∧
    (0xE0 + k).toUInt8.toNat % 0x10 = k := by decide

theorem lead_four : ∀ k < 5, lead (0xF0 + k).toUInt8
      = some (4, if k = 0 then 0x90 else 0x80, if k = 4 then 0x8F else 0xBF) ∧
    (0xF0 + k).toUInt8.toNat % 0x08 = k := by decide

/-- A byte after the first one says six bits. -/
theorem isTail_byte : ∀ k < 64,
    isTail (0x80 + k).toUInt8 = true ∧ (0x80 + k).toUInt8.toNat % 64 = k := by decide

theorem second_of_three : ∀ k < 16, ∀ m < 64, (k = 0 → 32 ≤ m) → (k = 13 → m < 32) →
    ((if k = 0 then 0xA0 else 0x80) ≤ (0x80 + m).toUInt8 &&
      (0x80 + m).toUInt8 ≤ (if k = 13 then 0x9F else 0xBF)) = true := by decide +kernel

theorem second_of_four : ∀ k < 5, ∀ m < 64, (k = 0 → 16 ≤ m) → (k = 4 → m < 16) →
    ((if k = 0 then 0x90 else 0x80) ≤ (0x80 + m).toUInt8 &&
      (0x80 + m).toUInt8 ≤ (if k = 4 then 0x8F else 0xBF)) = true := by decide +kernel

/-- The bytes of a character are read as that character. -/
theorem decodeFrom_encodeChar (c : Char) (bs : List UInt8) :
    decodeFrom (fuel + 1) position (encodeChar c ++ bs)
      = (decodeFrom fuel (position + (encodeChar c).length) bs).map (c :: ·) := by
  have valid : c.toNat < 0xD800 ∨ 0xDFFF < c.toNat ∧ c.toNat < 0x110000 := c.valid
  -- six bits of the number in a byte
  have bits (d : Nat) := isTail_byte (c.toNat / d % 64) (Nat.mod_lt _ (by decide))
  have last := isTail_byte (c.toNat % 64) (Nat.mod_lt _ (by decide))
  by_cases one : c.toNat < 0x80
  · obtain ⟨starts, number⟩ := lead_one c.toNat one
    have bytes : encodeChar c = [c.toNat.toUInt8] := if_pos one
    rw [bytes, List.singleton_append, decodeFrom, starts]
    dsimp only
    rw [if_pos rfl, number, Char.ofNat_toNat]
    cases decodeFrom fuel (position + 1) bs <;> rfl
  by_cases two : c.toNat < 0x800
  · have bytes : encodeChar c = [(0xC0 + c.toNat / 64).toUInt8, (0x80 + c.toNat % 64).toUInt8] := by
      rw [encodeChar, if_neg one, if_pos two]
    obtain ⟨starts, head⟩ := lead_two (c.toNat / 64) (by omega) (by omega)
    have number : (0xC0 + c.toNat / 64).toUInt8.toNat % 0x20 * 64
        + (0x80 + c.toNat % 64).toUInt8.toNat % 64 = c.toNat := by
      rw [head, last.2]
      omega
    have second : ∀ t ∈ [(0x80 + c.toNat % 64).toUInt8].head?, (0x80 ≤ t && t ≤ 0xBF) = true := by
      rintro _ ⟨⟩
      exact last.1
    exact decodeFrom_sequence bytes starts (List.cons_ne_nil _ _) second nofun number bs
  by_cases three : c.toNat < 0x10000
  · have bytes : encodeChar c = [(0xE0 + c.toNat / 4096).toUInt8, (0x80 + c.toNat / 64 % 64).toUInt8,
        (0x80 + c.toNat % 64).toUInt8] := by
      rw [encodeChar, if_neg one, if_neg two, if_pos three]
    obtain ⟨starts, head⟩ := lead_three (c.toNat / 4096) (by omega)
    have number : ((0xE0 + c.toNat / 4096).toUInt8.toNat % 0x10 * 64
        + (0x80 + c.toNat / 64 % 64).toUInt8.toNat % 64) * 64
        + (0x80 + c.toNat % 64).toUInt8.toNat % 64 = c.toNat := by
      rw [head, (bits 64).2, last.2]
      omega
    have second : ∀ t ∈ [(0x80 + c.toNat / 64 % 64).toUInt8, (0x80 + c.toNat % 64).toUInt8].head?,
        ((if c.toNat / 4096 = 0 then 0xA0 else 0x80) ≤ t &&
          t ≤ (if c.toNat / 4096 = 13 then 0x9F else 0xBF)) = true := by
      rintro _ ⟨⟩
      exact second_of_three _ (by omega) _ (Nat.mod_lt _ (by decide)) (by omega) (by omega)
    have others : ∀ t ∈ [(0x80 + c.toNat % 64).toUInt8], isTail t = true := List.forall_mem_singleton.mpr last.1
    exact decodeFrom_sequence bytes starts (List.cons_ne_nil _ _) second others number bs
  · have bytes : encodeChar c = [(0xF0 + c.toNat / 262144).toUInt8, (0x80 + c.toNat / 4096 % 64).toUInt8,
        (0x80 + c.toNat / 64 % 64).toUInt8, (0x80 + c.toNat % 64).toUInt8] := by
      rw [encodeChar, if_neg one, if_neg two, if_neg three]
    obtain ⟨starts, head⟩ := lead_four (c.toNat / 262144) (by omega)
    have number : (((0xF0 + c.toNat / 262144).toUInt8.toNat % 0x08 * 64
        + (0x80 + c.toNat / 4096 % 64).toUInt8.toNat % 64) * 64
        + (0x80 + c.toNat / 64 % 64).toUInt8.toNat % 64) * 64
        + (0x80 + c.toNat % 64).toUInt8.toNat % 64 = c.toNat := by
      rw [head, (bits 4096).2, (bits 64).2, last.2]
      omega
    have second : ∀ t ∈ [(0x80 + c.toNat / 4096 % 64).toUInt8, (0x80 + c.toNat / 64 % 64).toUInt8,
        (0x80 + c.toNat % 64).toUInt8].head?, ((if c.toNat / 262144 = 0 then 0x90 else 0x80) ≤ t &&
          t ≤ (if c.toNat / 262144 = 4 then 0x8F else 0xBF)) = true := by
      rintro _ ⟨⟩
      exact second_of_four _ (by omega) _ (Nat.mod_lt _ (by decide)) (by omega) (by omega)
    have others : ∀ t ∈ [(0x80 + c.toNat / 64 % 64).toUInt8, (0x80 + c.toNat % 64).toUInt8],
        isTail t = true :=
      List.forall_mem_cons.mpr ⟨(bits 64).1, List.forall_mem_singleton.mpr last.1⟩
    exact decodeFrom_sequence bytes starts (List.cons_ne_nil _ _) second others number bs

theorem encode_ofChars (cs : List Char) : encode (Text.ofChars cs) = some (cs.flatMap encodeChar) := by
  have scalars : (Text.ofChars cs).scalars? = some cs := by
    induction cs with
    | nil => rfl
    | cons c cs ih =>
      rw [Text.scalars?, Text.ofChars, List.map_cons, List.mapM_cons]
      show (do let cs ← (Text.ofChars cs).scalars?; pure (c :: cs)) = _
      rw [ih]
      rfl
  rw [encode, scalars]
  rfl

theorem encodeChar_ne_nil (c : Char) : encodeChar c ≠ [] := by
  unfold encodeChar
  dsimp only
  split_ifs <;> exact List.cons_ne_nil _ _

/-- Only the empty text has no bytes. -/
theorem encode_eq_nil_iff {t : Text} : encode t = some [] ↔ t = Text.empty := by
  constructor
  · intro none
    obtain ⟨cs, scalars, bytes⟩ := Option.map_eq_some_iff.mp none
    cases cs with
    | nil => exact Text.eq_ofChars scalars
    | cons c cs => exact absurd (List.append_eq_nil_iff.mp bytes).1 (encodeChar_ne_nil c)
  · rintro rfl
    rfl

theorem decodeFrom_flatMap {cs : List Char} (enough : (cs.flatMap encodeChar).length ≤ fuel) :
    decodeFrom fuel position (cs.flatMap encodeChar) = .ok cs := by
  induction cs generalizing fuel position with
  | nil => cases fuel <;> rfl
  | cons c cs ih =>
    have some := List.length_pos_iff.mpr (encodeChar_ne_nil c)
    rw [List.flatMap_cons, List.length_append] at enough
    obtain ⟨fuel, rfl⟩ : ∃ k, fuel = k + 1 := ⟨fuel - 1, by omega⟩
    rw [List.flatMap_cons, decodeFrom_encodeChar, ih (by omega)]
    rfl

/-- **The bytes of a text are read as that text.** -/
theorem decode_encode (cs : List Char) : ∃ bytes, encode (Text.ofChars cs) = some bytes ∧
    decode bytes = .ok (Text.ofChars cs) := by
  refine ⟨cs.flatMap encodeChar, encode_ofChars cs, ?_⟩
  rw [decode, decodeFrom_flatMap (Nat.le_refl _)]
  rfl

end Utf8

end GuardedTools
