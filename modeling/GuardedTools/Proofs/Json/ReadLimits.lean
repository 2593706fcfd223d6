import GuardedTools.Json.Reader
import Mathlib.Data.List.TakeWhile

/-!
# What is too much for a reader of JSON

A reader gives up on a text for two reasons that are no faults of the text: a number with too many
digits, and too much nesting.  Both have a cause in the text (`Due`): a run of more digits than the
limit (`read_eq_tooManyDigits`), and more opening brackets and braces than the limit
(`read_eq_tooDeep`).  In particular the steps that a reader counts never run out, as it is given two
for each code point.

The invariant of all reading functions is `Reads`: what is left is a proper suffix of what was there,
so that a cause in what is left is a cause in the whole text.
-/

namespace GuardedTools

@[simp] theorem CodePoint.is_iff {p : CodePoint} {c : Char} : p.is c = true ↔ p = scalar c :=
  beq_iff_eq

namespace Json

variable {α β : Type} {limits : ReadLimits} {depth : Nat} {ps qs : List CodePoint}

/-! ### Causes -/

/-- Brackets and braces that open. -/
def opens (p : CodePoint) : Bool := p.is '[' || p.is '\x7b'

/-- Somewhere `n` digits stand in a row. -/
def HasDigits (n : Nat) (ps : List CodePoint) : Prop :=
  ∃ ds, ds <:+: ps ∧ ds.length = n ∧ ∀ p ∈ ds, p.isDigit = true

/-- An error is due to a text: a limit that it speaks of is exceeded there. -/
def Due (limits : ReadLimits) (depth : Nat) (ps : List CodePoint) : ReadError → Prop
  | .malformed _ _ => True
  | .tooManyDigits n => limits.digits < n ∧ HasDigits n ps
  | .tooDeep => depth < ps.countP opens

theorem HasDigits.of_suffix {n : Nat} (h : HasDigits n qs) (suffix : qs <:+ ps) :
    HasDigits n ps := by
  obtain ⟨ds, within, length, digits⟩ := h
  exact ⟨ds, within.trans suffix.isInfix, length, digits⟩

theorem Due.of_suffix {e : ReadError} (h : Due limits depth qs e) (suffix : qs <:+ ps) :
    Due limits depth ps e := by
  cases e with
  | malformed fault position => trivial
  | tooManyDigits n => exact ⟨h.1, h.2.of_suffix suffix⟩
  | tooDeep =>
    have fewer : qs.countP opens ≤ ps.countP opens := suffix.sublist.countP_le
    exact Nat.lt_of_lt_of_le h fewer

/-- One level further in, one bracket or brace more is open. -/
theorem Due.of_open {e : ReadError} {p : CodePoint} (h : Due limits depth ps e)
    (opened : opens p = true) : Due limits (depth + 1) (p :: ps) e := by
  cases e with
  | malformed fault position => trivial
  | tooManyDigits n => exact ⟨h.1, h.2.of_suffix (List.suffix_cons p ps)⟩
  | tooDeep =>
    have more : (p :: ps).countP opens = ps.countP opens + 1 := List.countP_cons_of_pos opened
    have inside : depth < ps.countP opens := h
    show depth + 1 < (p :: ps).countP opens
    omega

/-- Where something opens, no depth at all is too little. -/
theorem Due.tooDeep_of_open (limits : ReadLimits) {p : CodePoint} (ps : List CodePoint)
    (opened : opens p = true) :
    Due limits 0 (p :: ps) .tooDeep := by
  show 0 < (p :: ps).countP opens
  rw [List.countP_cons_of_pos opened]
  exact Nat.succ_pos _

/-! ### The invariant -/

/-- What reading a text comes to: a proper suffix of the text is left, or an error is due to it. -/
def Reads (limits : ReadLimits) (depth : Nat) (ps : List CodePoint) :
    Except ReadError (α × List CodePoint) → Prop
  | .ok (_, left) => left <:+ ps ∧ left.length < ps.length
  | .error e => Due limits depth ps e

namespace Reads

variable {r : Except ReadError (α × List CodePoint)}

theorem of_suffix (h : Reads limits depth qs r) (suffix : qs <:+ ps) : Reads limits depth ps r := by
  rcases r with e | ⟨x, left⟩
  · exact Due.of_suffix h suffix
  · obtain ⟨left_suffix, shorter⟩ := h
    have length := suffix.length_le
    exact ⟨left_suffix.trans suffix, by omega⟩

theorem of_open {p : CodePoint} (h : Reads limits depth ps r) (opened : opens p = true) :
    Reads limits (depth + 1) (p :: ps) r := by
  rcases r with e | ⟨x, left⟩
  · exact Due.of_open h opened
  · obtain ⟨left_suffix, shorter⟩ := h
    exact ⟨left_suffix.trans (List.suffix_cons p ps), Nat.lt_succ_of_lt shorter⟩

/-- Reading on after something was read. -/
theorem bind {f : α × List CodePoint → Except ReadError (β × List CodePoint)}
    (h : Reads limits depth ps r)
    (next : ∀ x left, left <:+ ps → left.length < ps.length → Reads limits depth ps (f (x, left))) :
    Reads limits depth ps (r >>= f) := by
  rcases r with e | ⟨x, left⟩
  · exact h
  · exact next x left h.1 h.2

/-- What was read of a suffix is made into something else. -/
theorem map (h : Reads limits depth qs r) (suffix : qs <:+ ps) (g : α → β) :
    Reads limits depth ps (r >>= fun (x, left) => pure (g x, left)) :=
  (h.of_suffix suffix).bind fun _ _ left_suffix shorter => ⟨left_suffix, shorter⟩

end Reads

theorem skipBlanks_suffix (ps : List CodePoint) : skipBlanks ps <:+ ps := List.dropWhile_suffix _

/-! ### Strings -/

theorem reads_readString (limits : ReadLimits) (depth opening : Nat) (ps : List CodePoint) :
    Reads limits depth ps (readString opening ps) := by
  -- Every case is a fault, the closing quote, or one more code point in front of what is read after
  -- one or two of the text, or after the six or twelve of a code.
  fun_induction readString opening ps with
  | case1 | case3 | case4 | case5 | case6 | case10 | case12 => trivial
  | case2 p rest quote => exact ⟨List.suffix_cons p rest, Nat.lt_succ_self _⟩
  | case7 p _ _ _ e _ a b c d n f g h i j k rest _ joined _ ih =>
    exact ih.map (List.suffix_append [p, e, a, b, c, d, f, g, h, i, j, k] rest) _
  | case8 p _ _ _ e _ a b c d n f g h i j k rest _ _ ih =>
    exact ih.map (List.suffix_append [p, e, a, b, c, d] (f :: g :: h :: i :: j :: k :: rest)) _
  | case9 p _ _ _ e _ a b c d n rest _ _ _ ih =>
    exact ih.map (List.suffix_append [p, e, a, b, c, d] rest) _
  | case11 p _ _ _ e rest _ q _ ih => exact ih.map (List.suffix_append [p, e] rest) _
  | case13 p rest _ _ _ ih => exact ih.map (List.suffix_cons p rest) _

/-! ### Numbers and words -/

theorem takeDigits_suffix {ds left : List CodePoint} (h : takeDigits ps = (ds, left)) :
    left <:+ ps := by
  obtain ⟨_, rfl⟩ := Prod.mk.inj h
  exact List.dropWhile_suffix _

theorem takeFraction_suffix {ds left : List CodePoint} (h : takeFraction ps = some (ds, left)) :
    left <:+ ps := by
  unfold takeFraction at h
  split at h
  · next p rest =>
    split at h
    · split at h
      · cases h
      · exact (takeDigits_suffix (Option.some.inj h)).trans (List.suffix_cons p rest)
    · cases h
  · cases h

theorem takeSign_suffix (ps : List CodePoint) : (takeSign ps).2 <:+ ps := by
  unfold takeSign
  split
  · next s rest =>
    split
    · exact List.suffix_cons s rest
    · split
      · exact List.suffix_cons s rest
      · exact List.suffix_rfl
  · exact List.suffix_rfl

theorem takeExponent_suffix {e : Int} {left : List CodePoint} (h : takeExponent ps = some (e, left)) :
    left <:+ ps := by
  unfold takeExponent at h
  split at h
  · next p rest =>
    split at h
    · dsimp only at h
      split at h
      · cases h
      · next digits =>
        obtain ⟨_, rfl⟩ := Prod.mk.inj (Option.some.inj h)
        have unsigned := (takeDigits_suffix digits).trans (takeSign_suffix rest)
        exact unsigned.trans (List.suffix_cons p rest)
    · cases h
  · cases h

theorem takeOptional_suffix (take : List CodePoint → Option (α × List CodePoint))
    (suffix : ∀ ps x left, take ps = some (x, left) → left <:+ ps) (ps : List CodePoint) :
    (takeOptional take ps).2 <:+ ps := by
  unfold takeOptional
  split
  · next taken => exact suffix _ _ _ taken
  · exact List.suffix_rfl

/-- The digits before the point are at least one, and stand at the head. -/
theorem takeWhole_eq_some {ds left : List CodePoint} (h : takeWhole ps = some (ds, left)) :
    ds ++ left = ps ∧ ds ≠ [] ∧ ∀ p ∈ ds, p.isDigit = true := by
  unfold takeWhole at h
  split at h
  · next p rest =>
    split at h
    · next zero =>
      obtain ⟨rfl, rfl⟩ := Prod.mk.inj (Option.some.inj h)
      refine ⟨rfl, List.cons_ne_nil p [], fun q hq => ?_⟩
      rw [List.mem_singleton.mp hq, CodePoint.is_iff.mp zero]
      rfl
    · split at h
      · next digit =>
        obtain ⟨rfl, rfl⟩ := Prod.mk.inj (Option.some.inj h)
        refine ⟨List.takeWhile_append_dropWhile, ?_, fun q hq => ?_⟩
        · rw [List.takeWhile_cons_of_pos digit]
          exact List.cons_ne_nil _ _
        · exact List.mem_takeWhile_imp hq
      · cases h
  · cases h

theorem numberOf_eq_error {negative : Bool} {whole : List CodePoint}
    {fraction : Option (List CodePoint)} {exponent : Option Int} {e : ReadError}
    (h : numberOf limits negative whole fraction exponent = .error e) :
    e = .tooManyDigits whole.length ∧ limits.digits < whole.length := by
  unfold numberOf at h
  split at h
  · split at h
    · next many => exact ⟨(Except.error.inj h).symm, many⟩
    · cases h
  · cases h

theorem reads_readUnsigned (depth : Nat) {negative : Bool}
    {r : Except ReadError (Json × List CodePoint)} (h : readUnsigned limits negative ps = some r) :
    Reads limits depth ps r := by
  unfold readUnsigned at h
  split at h
  · cases h
  · next ds rest whole =>
    obtain ⟨rfl, ds_ne, digits⟩ := takeWhole_eq_some whole
    have fraction := takeOptional_suffix takeFraction (fun _ _ _ => takeFraction_suffix) rest
    have exponent := takeOptional_suffix takeExponent (fun _ _ _ => takeExponent_suffix)
      (takeOptional takeFraction rest).2
    obtain rfl := Option.some.inj h
    show Reads limits depth (ds ++ rest) (Except.map _ (numberOf limits negative ds
      (takeOptional takeFraction rest).1
      (takeOptional takeExponent (takeOptional takeFraction rest).2).1))
    cases number : numberOf limits negative ds (takeOptional takeFraction rest).1
        (takeOptional takeExponent (takeOptional takeFraction rest).2).1 with
    | error e =>
      obtain ⟨rfl, many⟩ := numberOf_eq_error number
      exact ⟨many, ds, (List.prefix_append ds rest).isInfix, rfl, digits⟩
    | ok j =>
      have suffix := exponent.trans fraction
      have length := suffix.length_le
      have positive := List.length_pos_iff.mpr ds_ne
      refine ⟨suffix.trans (List.suffix_append ds rest), ?_⟩
      show (takeOptional takeExponent (takeOptional takeFraction rest).2).2.length
        < (ds ++ rest).length
      rw [List.length_append]
      omega

theorem reads_takeWord (limits : ReadLimits) (depth : Nat) {word : String} {left : List CodePoint}
    (h : takeWord word ps = some left) (word_ne : (Text.ofString word).points ≠ []) (x : α) :
    Reads limits depth ps (.ok (x, left)) := by
  unfold takeWord at h
  dsimp only at h
  split at h
  · next starts =>
    obtain ⟨rest, rfl⟩ := List.isPrefixOf_iff_prefix.mp starts
    rw [List.drop_left] at h
    obtain rfl := Option.some.inj h
    have positive := List.length_pos_iff.mpr word_ne
    refine ⟨List.suffix_append _ rest, ?_⟩
    rw [List.length_append]
    omega
  · cases h

theorem reads_readScalar (limits : ReadLimits) (depth : Nat) (ps : List CodePoint) :
    Reads limits depth ps (readScalar limits ps) := by
  unfold readScalar
  split
  · next h => exact reads_takeWord limits depth h (by decide) _
  split
  · next h => exact reads_takeWord limits depth h (by decide) _
  split
  · next h => exact reads_takeWord limits depth h (by decide) _
  split
  · next h => exact reads_takeWord limits depth h (by decide) _
  split
  · next h => exact reads_takeWord limits depth h (by decide) _
  split
  · next h => exact reads_takeWord limits depth h (by decide) _
  dsimp only
  split
  · next r found =>
    rcases ps with _ | ⟨p, rest⟩
    · cases found
    · dsimp only at found
      split at found
      · exact (reads_readUnsigned depth found).of_suffix (List.suffix_cons p rest)
      · exact reads_readUnsigned depth found
  · trivial

/-! ### Values -/

/-- What is read of values, with fuel, is due to the text. -/
structure ReadsAll (limits : ReadLimits) (fuel : Nat) : Prop where
  value : ∀ {depth ps}, 2 * ps.length + 1 ≤ fuel →
    Reads limits depth ps (readValue limits depth fuel ps)
  items : ∀ {depth before ps}, 2 * ps.length + 2 ≤ fuel →
    Reads limits depth ps (readItems limits depth fuel before ps)
  members : ∀ {depth before ps}, 2 * ps.length + 2 ≤ fuel →
    Reads limits depth ps (readMembers limits depth fuel before ps)

theorem reads_readValue_succ {fuel : Nat} (ih : ReadsAll limits fuel)
    (enough : 2 * ps.length + 1 ≤ fuel + 1) :
    Reads limits depth ps (readValue limits depth (fuel + 1) ps) := by
  unfold readValue
  rcases ps with _ | ⟨p, rest⟩
  · trivial
  dsimp only
  have blanks := skipBlanks_suffix rest
  have length := blanks.length_le
  rw [List.length_cons] at enough
  generalize skipBlanks rest = body at blanks length ⊢
  split
  · exact (reads_readString limits depth _ rest).map (List.suffix_cons p rest) fun t => text ⟨t⟩
  split
  · next bracket =>
    have opened : opens p = true := by rw [opens, bracket, Bool.true_or]
    split
    · exact Due.tooDeep_of_open limits rest opened
    refine Reads.of_open (Reads.of_suffix ?_ blanks) opened
    rcases body with _ | ⟨q, left⟩
    · exact ih.items (by rw [List.length_nil]; omega)
    dsimp only
    split
    · exact ⟨List.suffix_cons q left, Nat.lt_succ_self _⟩
    · exact ih.items (by omega)
  split
  · next brace =>
    have opened : opens p = true := by rw [opens, brace, Bool.or_true]
    split
    · exact Due.tooDeep_of_open limits rest opened
    refine Reads.of_open (Reads.of_suffix ?_ blanks) opened
    rcases body with _ | ⟨q, left⟩
    · trivial
    dsimp only
    split
    · exact ⟨List.suffix_cons q left, Nat.lt_succ_self _⟩
    · exact ih.members (by omega)
  · exact reads_readScalar limits depth (p :: rest)

/-- After a value its array or object ends, or a comma stands there and more is read. -/
theorem reads_separator {p : CodePoint} {closing : Char} {x : α}
    {r : Except ReadError (α × List CodePoint)} (h : Reads limits depth (skipBlanks ps) r) :
    Reads limits depth (p :: ps)
      (if p.is closing = true then .ok (x, ps)
        else if p.is ',' = true then r
        else refuse .expectingComma (p :: ps)) := by
  split
  · exact ⟨List.suffix_cons p ps, Nat.lt_succ_self _⟩
  split
  · exact h.of_suffix ((skipBlanks_suffix ps).trans (List.suffix_cons p ps))
  · trivial

theorem reads_readItems_succ {fuel : Nat} (ih : ReadsAll limits fuel) {before : List Json}
    (enough : 2 * ps.length + 2 ≤ fuel + 1) :
    Reads limits depth ps (readItems limits depth (fuel + 1) before ps) := by
  rw [readItems]
  -- a value is never empty, which pays for the two steps until the next one
  refine (ih.value (by omega)).bind fun x left suffix shorter => ?_
  have blanks := skipBlanks_suffix left
  have length := blanks.length_le
  dsimp only
  refine Reads.of_suffix ?_ (blanks.trans suffix)
  generalize skipBlanks left = after at blanks length ⊢
  rcases after with _ | ⟨q, rest⟩
  · trivial
  have next_length := (skipBlanks_suffix rest).length_le
  rw [List.length_cons] at length
  exact reads_separator (ih.items (by omega))

theorem reads_readMembers_succ {fuel : Nat} (ih : ReadsAll limits fuel)
    {before : List (Text × Json)} (enough : 2 * ps.length + 2 ≤ fuel + 1) :
    Reads limits depth ps (readMembers limits depth (fuel + 1) before ps) := by
  unfold readMembers
  rcases ps with _ | ⟨p, rest⟩
  · trivial
  rw [List.length_cons] at enough
  dsimp only
  split
  · -- the key
    refine Reads.of_suffix ?_ (List.suffix_cons p rest)
    refine (reads_readString limits depth _ rest).bind fun key left suffix shorter => ?_
    have blanks := skipBlanks_suffix left
    have length := blanks.length_le
    refine Reads.of_suffix ?_ (blanks.trans suffix)
    dsimp only
    generalize skipBlanks left = colon at blanks length ⊢
    rcases colon with _ | ⟨q, left⟩
    · trivial
    have blanks := skipBlanks_suffix left
    rw [List.length_cons] at length
    have value_length := blanks.length_le
    dsimp only
    split
    · -- the value
      refine Reads.of_suffix ?_ (blanks.trans (List.suffix_cons q left))
      refine (ih.value (by omega)).bind fun x left suffix shorter => ?_
      have blanks := skipBlanks_suffix left
      have length := blanks.length_le
      refine Reads.of_suffix ?_ (blanks.trans suffix)
      dsimp only
      generalize skipBlanks left = after at blanks length ⊢
      rcases after with _ | ⟨q, left⟩
      · trivial
      have next_length := (skipBlanks_suffix left).length_le
      rw [List.length_cons] at length
      exact reads_separator (ih.members (by omega))
    · trivial
  · trivial

theorem readsAll (limits : ReadLimits) (fuel : Nat) : ReadsAll limits fuel := by
  induction fuel with
  | zero =>
    -- no text is so short that it needs no fuel
    exact ⟨by omega, by omega, by omega⟩
  | succ fuel ih =>
    exact ⟨reads_readValue_succ ih, reads_readItems_succ ih, reads_readMembers_succ ih⟩

/-! ### Whole texts -/

/-- Whatever error reading ends in is due to the text, also if it may begin with a byte order mark. -/
theorem due_of_readBody {t : Text} {e : ReadError} (h : readBody limits t = .error e) :
    Due limits limits.depth t.points e := by
  unfold readBody at h
  dsimp only at h
  have blanks := skipBlanks_suffix t.points
  have length := blanks.length_le
  have reads : Reads limits limits.depth t.points _ :=
    ((readsAll limits (2 * t.points.length + 2)).value (by omega)).of_suffix blanks
  split at h
  · next cause failed =>
    obtain rfl := Except.error.inj h
    rw [failed] at reads
    cases cause with
    | malformed fault position => trivial
    | tooManyDigits n => exact reads
    | tooDeep => exact reads
  · split at h
    · cases h
    · obtain rfl := Except.error.inj h
      trivial

/-- Whatever error reading ends in is due to the text. -/
theorem due_of_read {t : Text} {e : ReadError} (h : read limits t = .error e) :
    Due limits limits.depth t.points e := by
  unfold read at h
  split at h
  · obtain rfl := Except.error.inj h
    trivial
  · exact due_of_readBody h

/-- A reader finds too many digits only where there are too many in a row. -/
theorem read_eq_tooManyDigits {t : Text} {n : Nat} (h : read limits t = .error (.tooManyDigits n)) :
    limits.digits < n ∧ HasDigits n t.points := due_of_read h

/-- A reader finds a text nested too deeply only if too much opens in it. -/
theorem read_eq_tooDeep {t : Text} (h : read limits t = .error .tooDeep) :
    limits.depth < t.points.countP opens := due_of_read h

/-! ### Texts that are too much -/

theorem is_eq_false_of_isDigit {p : CodePoint} (digit : p.isDigit = true) (c : Char)
    (other : (CodePoint.scalar c).isDigit = false) : p.is c = false := by
  rw [Bool.eq_false_iff, ne_eq, CodePoint.is_iff]
  rintro rfl
  rw [digit] at other
  cases other

theorem takeWord_of_isDigit {p : CodePoint} (digit : p.isDigit = true) (ps : List CodePoint)
    (word : String) {c : Char} {cs : List CodePoint}
    (spelled : (Text.ofString word).points = CodePoint.scalar c :: cs)
    (other : (CodePoint.scalar c).isDigit = false) : takeWord word (p :: ps) = none := by
  unfold takeWord
  rw [spelled]
  have differs : ((c : CodePoint) == p) = false := by
    rw [BEq.comm]
    exact is_eq_false_of_isDigit digit c other
  simp [List.isPrefixOf, differs]

theorem readScalar_digits {d : CodePoint} {ds : List CodePoint}
    (digits : ∀ p ∈ d :: ds, p.isDigit = true) (zero : d.is '0' = false)
    (many : limits.digits < (d :: ds).length) :
    readScalar limits (d :: ds) = .error (.tooManyDigits (d :: ds).length) := by
  have digit := digits d List.mem_cons_self
  have whole : takeWhole (d :: ds) = some (d :: ds, []) := by
    simp only [takeWhole, zero, digit, takeDigits, Bool.false_eq_true, if_false, if_true]
    rw [List.takeWhile_eq_self_iff.mpr digits, List.dropWhile_eq_nil_iff.mpr digits]
  unfold readScalar
  rw [takeWord_of_isDigit digit ds "null" rfl rfl,
    takeWord_of_isDigit digit ds "true" rfl rfl,
    takeWord_of_isDigit digit ds "false" rfl rfl,
    takeWord_of_isDigit digit ds "NaN" rfl rfl,
    takeWord_of_isDigit digit ds "Infinity" rfl rfl,
    takeWord_of_isDigit digit ds "-Infinity" rfl rfl]
  simp only [is_eq_false_of_isDigit digit '-' rfl, Bool.false_eq_true, if_false,
    readUnsigned, whole]
  simp only [takeOptional, takeFraction, takeExponent, numberOf, if_pos many]
  rfl

/-- A text of more digits than the limit is too much, if it does not begin with a zero. -/
theorem read_digits (limits : ReadLimits) {d : CodePoint} {ds : List CodePoint}
    (digits : ∀ p ∈ d :: ds, p.isDigit = true) (zero : d.is '0' = false)
    (many : limits.digits < (d :: ds).length) :
    read limits ⟨d :: ds⟩ = .error (.tooManyDigits (d :: ds).length) := by
  have digit := digits d List.mem_cons_self
  have mark : d.toNat ≠ 0xFEFF := by
    simp only [CodePoint.isDigit, CodePoint.between, Bool.and_eq_true, decide_eq_true_eq] at digit
    omega
  have other : ∀ c : Char, (CodePoint.scalar c).isDigit = false → d.is c = false :=
    is_eq_false_of_isDigit digit
  have solid : isBlank d = false := by
    rw [isBlank, other ' ' rfl, other '\t' rfl, other '\n' rfl, other '\r' rfl]
    rfl
  have blanks : skipBlanks (d :: ds) = d :: ds := by
    rw [skipBlanks, List.dropWhile_cons_of_neg (by simp [solid])]
  unfold read readBody
  rw [if_neg (by simpa using mark)]
  dsimp only
  rw [blanks]
  unfold readValue
  dsimp only
  rw [other '"' rfl, other '[' rfl, other '\x7b' rfl, readScalar_digits digits zero many]
  rfl

theorem readValue_brackets {n depth fuel : Nat} (deep : depth < n) (enough : 2 * n ≤ fuel) :
    readValue limits depth fuel (List.replicate n (CodePoint.scalar '[')) = .error .tooDeep := by
  induction n generalizing depth fuel with
  | zero => omega
  | succ n ih =>
    obtain ⟨fuel, rfl⟩ : ∃ k, fuel = k + 2 := ⟨fuel - 2, by omega⟩
    cases depth with
    | zero => rfl
    | succ depth =>
      obtain ⟨m, rfl⟩ : ∃ m, n = m + 1 := ⟨n - 1, by omega⟩
      -- one bracket in, the items of an array begin with one bracket less
      show readItems limits depth (fuel + 1) [] (List.replicate (m + 1) (CodePoint.scalar '['))
        = .error .tooDeep
      rw [readItems, ih (by omega) (by omega)]
      rfl

/-- A text of more opening brackets than the limit is too much. -/
theorem read_brackets (limits : ReadLimits) {n : Nat} (deep : limits.depth < n) :
    read limits ⟨List.replicate n (CodePoint.scalar '[')⟩ = .error .tooDeep := by
  have blanks : skipBlanks (List.replicate n (CodePoint.scalar '['))
      = List.replicate n (CodePoint.scalar '[') := by
    cases n <;> rfl
  have mark : ¬ (List.replicate n (CodePoint.scalar '[')).head?.any (·.toNat = 0xFEFF) = true := by
    cases n with
    | zero => exact Bool.false_ne_true
    | succ n =>
      show ¬ (some (CodePoint.scalar '[')).any (·.toNat = 0xFEFF) = true
      decide
  unfold read readBody
  rw [if_neg mark]
  dsimp only
  rw [blanks, readValue_brackets deep (by rw [List.length_replicate]; omega)]
  rfl

end Json

end GuardedTools
