import GuardedTools.Proofs.Json.Numerals
import GuardedTools.Proofs.Json.Quotes

/-!
# Reading what was written

A value that is written (`Json.writeFault?`) is read back from its compact text (`Json.read_compact`).
What is read is the value itself but for what the text does not tell apart (`Json.readBack`): numbers
that are none, the halves of a surrogate pair and the code point that they stand for, and members of one
key, of which the last one counts.
-/

namespace GuardedTools.Json

variable {limits : ReadLimits} {depth fuel : Nat} {rest : List CodePoint}

/-! ### What is read -/

mutual

/-- What is read of the text of a value. -/
def readBack : Json → Json
  | float x => float x.reread
  | text t => text t.joined
  | array items => array (readBackItems items)
  | object members => ofMembers (readBackMembers members)
  | j => j

def readBackItems : List Json → List Json
  | [] => []
  | x :: xs => readBack x :: readBackItems xs

def readBackMembers : List (Text × Json) → List (Text × Json)
  | [] => []
  | (k, x) :: ms => (k.joined, readBack x) :: readBackMembers ms

end

/-! ### How texts begin -/

/-- Whether a code point can stand at the head of a number or a word. -/
def isScalarHead (p : CodePoint) : Bool :=
  !p.is '"' && !p.is '[' && !p.is '\x7b' && !p.is ']' && !isBlank p && p.toNat != 0xFEFF

theorem isScalarHead_of_isDigit {p : CodePoint} (digit : p.isDigit = true) : isScalarHead p = true := by
  have number : p.toNat ≠ 0xFEFF := by
    simp only [CodePoint.isDigit, CodePoint.between, Bool.and_eq_true, decide_eq_true_eq] at digit
    omega
  have other : ∀ c : Char, (CodePoint.scalar c).isDigit = false → p.is c = false :=
    is_eq_false_of_isDigit digit
  rw [isScalarHead, isBlank, other '"' rfl, other '[' rfl, other '\x7b' rfl, other ']' rfl, other ' ' rfl,
    other '\t' rfl, other '\n' rfl, other '\r' rfl, bne_iff_ne.mpr number]
  rfl

/-- A number or a word stands at the head of a text. -/
def BeginsScalar (ps : List CodePoint) : Prop := ∃ p tail, ps = p :: tail ∧ isScalarHead p = true

theorem beginsScalar_numeral {whole fraction : List CodePoint} {exponent : Option (Bool × List CodePoint)}
    (negative : Bool) (parts : IsNumeral whole fraction exponent) :
    BeginsScalar (signText negative ++ numeral whole fraction exponent) := by
  cases negative
  · obtain ⟨d, ds, spelled⟩ := List.exists_cons_of_ne_nil parts.digits.1
    have digit : d.isDigit = true := parts.digits.2 d (spelled ▸ List.mem_cons_self)
    refine ⟨d, ds ++ (fractionText fraction ++ exponentText exponent), ?_, isScalarHead_of_isDigit digit⟩
    rw [numeral, spelled]
    rfl
  · exact ⟨.scalar '-', numeral whole fraction exponent, rfl, rfl⟩

theorem beginsScalar_int (n : Int) : BeginsScalar (Text.ofInt n).points := by
  have begins (negative : Bool) := beginsScalar_numeral negative (isNumeral_ofNat n.natAbs)
  simp only [numeral, fractionText, exponentText, List.append_nil] at begins
  cases n with
  | ofNat n => exact begins false
  | negSucc n => exact begins true

theorem beginsScalar_float (x : Binary64) : BeginsScalar (floatText x).points := by
  cases view : x.view with
  | nan =>
    rw [floatText, view]
    exact ⟨_, _, rfl, rfl⟩
  | infinite negative =>
    rw [floatText, view]
    cases negative <;> exact ⟨_, _, rfl, rfl⟩
  | finite negative m e =>
    obtain ⟨ps, digits, place, text, ⟨whole, fraction, exponent, rfl, parts, -⟩, -⟩ := floatText_finite view
    rw [text]
    exact beginsScalar_numeral negative parts

/-- A text begins with no blank, no closing bracket and no mark. -/
def BeginsSolid (ps : List CodePoint) : Prop :=
  ∃ p tail, ps = p :: tail ∧ isBlank p = false ∧ p.is ']' = false ∧ p.toNat ≠ 0xFEFF

theorem BeginsScalar.beginsSolid {ps : List CodePoint} (begins : BeginsScalar ps) : BeginsSolid ps := by
  obtain ⟨p, tail, spelled, head⟩ := begins
  simp only [isScalarHead, Bool.and_eq_true, Bool.not_eq_true', bne_iff_ne] at head
  exact ⟨p, tail, spelled, head.1.2, head.1.1.2, head.2⟩

theorem compact_begins (j : Json) : BeginsSolid j.compact.points := by
  cases j with
  | null => exact ⟨_, _, rfl, rfl, rfl, by decide⟩
  | bool b => cases b <;> exact ⟨_, _, rfl, rfl, rfl, by decide⟩
  | int n => exact (beginsScalar_int n).beginsSolid
  | float x => exact (beginsScalar_float x).beginsSolid
  | text t => exact ⟨_, _, rfl, rfl, rfl, by decide⟩
  | array items => exact ⟨_, _, rfl, rfl, rfl, by decide⟩
  | object members => exact ⟨_, _, rfl, rfl, rfl, by decide⟩

theorem skipBlanks_of_solid {p : CodePoint} (solid : isBlank p = false) (ps : List CodePoint) :
    skipBlanks (p :: ps) = p :: ps :=
  List.dropWhile_cons_of_neg (Bool.eq_false_iff.mp solid)

/-! ### Values -/

theorem readValue_scalar {ps : List CodePoint} (begins : BeginsScalar ps) :
    readValue limits depth (fuel + 1) (ps ++ rest) = readScalar limits (ps ++ rest) := by
  obtain ⟨p, tail, rfl, head⟩ := begins
  simp only [isScalarHead, Bool.and_eq_true, Bool.not_eq_true'] at head
  rw [List.cons_append]
  unfold readValue
  dsimp only
  rw [head.1.1.1.1.1, head.1.1.1.1.2, head.1.1.1.2, if_neg Bool.false_ne_true, if_neg Bool.false_ne_true,
    if_neg Bool.false_ne_true]

theorem readValue_null (rest : List CodePoint) :
    readValue limits depth (fuel + 1) (null.compact.points ++ rest) = .ok (null, rest) := by
  have read : readScalar limits ((Text.ofString "null").points ++ rest) = .ok (null, rest) := by
    unfold readScalar
    rw [takeWord_append "null" rest]
  exact (readValue_scalar ⟨_, _, rfl, rfl⟩).trans read

theorem readValue_bool (b : Bool) (rest : List CodePoint) :
    readValue limits depth (fuel + 1) ((bool b).compact.points ++ rest) = .ok (bool b, rest) := by
  cases b
  · have read : readScalar limits ((Text.ofString "false").points ++ rest) = .ok (bool false, rest) := by
      unfold readScalar
      rw [takeWord_append "false" rest]
      rfl
    exact (readValue_scalar ⟨_, _, rfl, rfl⟩).trans read
  · have read : readScalar limits ((Text.ofString "true").points ++ rest) = .ok (bool true, rest) := by
      unfold readScalar
      rw [takeWord_append "true" rest]
      rfl
    exact (readValue_scalar ⟨_, _, rfl, rfl⟩).trans read

theorem readValue_quote (t : Text) :
    readValue limits depth (fuel + 1) ((quote t).points ++ rest) = .ok (text t.joined, rest) := by
  have points : (quote t).points ++ rest
      = .scalar '"' :: (t.points.flatMap escapeAscii ++ .scalar '"' :: rest) := by
    rw [quote, List.cons_append, List.append_assoc]
    rfl
  rw [points]
  unfold readValue
  dsimp only
  rw [if_pos (CodePoint.is_iff.mpr rfl), readString_escapes]
  rfl

/-- What is read with some fuel where the text of a value, the items of an array or the members of an
object stand. -/
structure ReadsBack (limits : ReadLimits) (fuel : Nat) : Prop where
  value : ∀ {depth j rest}, j.writeFault? depth = none → Follows rest →
    2 * (j.compact.points ++ rest).length + 1 ≤ fuel →
    readValue limits depth fuel (j.compact.points ++ rest) = .ok (readBack j, rest)
  items : ∀ {depth before x xs rest}, writeFaultItems? depth (x :: xs) = none →
    2 * ((compactItems (x :: xs)).points ++ .scalar ']' :: rest).length + 2 ≤ fuel →
    readItems limits depth fuel before ((compactItems (x :: xs)).points ++ .scalar ']' :: rest)
      = .ok (array (before.reverse ++ readBackItems (x :: xs)), rest)
  members : ∀ {depth before m ms rest}, writeFaultMembers? depth (m :: ms) = none →
    2 * ((compactMembers (m :: ms)).points ++ .scalar '\x7d' :: rest).length + 2 ≤ fuel →
    readMembers limits depth fuel before ((compactMembers (m :: ms)).points ++ .scalar '\x7d' :: rest)
      = .ok (object ((readBackMembers (m :: ms)).foldl (fun kept m => put m.1 m.2 kept) before), rest)

theorem orElse_eq_none {a b : Option WriteFault} (h : (a <|> b) = none) : a = none ∧ b = none := by
  cases a
  · exact ⟨rfl, h⟩
  · cases h

theorem compactItems_points (x : Json) (xs : List Json) :
    (compactItems (x :: xs)).points
      = x.compact.points ++ if xs.isEmpty then [] else .scalar ',' :: (compactItems xs).points := by
  rcases xs with _ | ⟨y, ys⟩
  · exact (List.append_nil _).symm
  · show (x.compact.points ++ [CodePoint.scalar ',']) ++ _ = _
    rw [List.append_assoc]
    rfl

theorem compactMembers_points (key : Text) (x : Json) (ms : List (Text × Json)) :
    (compactMembers ((key, x) :: ms)).points = (quote key).points ++ .scalar ':' :: (x.compact.points
      ++ if ms.isEmpty then [] else .scalar ',' :: (compactMembers ms).points) := by
  rcases ms with _ | ⟨m, ms⟩
  · show ((quote key).points ++ [CodePoint.scalar ':']) ++ x.compact.points = _
    rw [List.append_assoc, if_pos List.isEmpty_nil, List.append_nil]
    rfl
  · show (((quote key).points ++ [CodePoint.scalar ':']) ++ x.compact.points ++ [CodePoint.scalar ','])
      ++ (compactMembers (m :: ms)).points = _
    rw [List.append_assoc, List.append_assoc, List.append_assoc]
    rfl

theorem readValue_array {items : List Json} (ih : ReadsBack limits fuel)
    (written : (array items).writeFault? depth = none)
    (enough : 2 * ((array items).compact.points ++ rest).length + 1 ≤ fuel + 1) :
    readValue limits depth (fuel + 1) ((array items).compact.points ++ rest)
      = .ok (readBack (array items), rest) := by
  have points : (array items).compact.points ++ rest
      = .scalar '[' :: ((compactItems items).points ++ .scalar ']' :: rest) := by
    show (.scalar '[' :: (compactItems items).points) ++ [CodePoint.scalar ']'] ++ rest = _
    rw [List.append_assoc]
    rfl
  rw [points] at enough ⊢
  rw [List.length_cons] at enough
  obtain ⟨depth, rfl⟩ : ∃ d, depth = d + 1 := by
    cases depth with
    | zero => cases written
    | succ d => exact ⟨d, rfl⟩
  have written : writeFaultItems? depth items = none := written
  unfold readValue
  dsimp only
  rw [if_neg (by decide), if_pos (by decide)]
  rcases items with _ | ⟨x, xs⟩
  · rfl
  · obtain ⟨p, tail, spelled, solid, other, -⟩ := compact_begins x
    have read : readItems limits depth fuel [] ((compactItems (x :: xs)).points ++ .scalar ']' :: rest)
        = .ok (array (readBackItems (x :: xs)), rest) := ih.items written (by omega)
    rw [compactItems_points, spelled, List.cons_append, List.cons_append] at read ⊢
    rw [skipBlanks_of_solid solid]
    dsimp only
    rw [other, if_neg Bool.false_ne_true, read]
    rfl

theorem readValue_object {members : List (Text × Json)} (ih : ReadsBack limits fuel)
    (written : (object members).writeFault? depth = none)
    (enough : 2 * ((object members).compact.points ++ rest).length + 1 ≤ fuel + 1) :
    readValue limits depth (fuel + 1) ((object members).compact.points ++ rest)
      = .ok (readBack (object members), rest) := by
  have points : (object members).compact.points ++ rest
      = .scalar '\x7b' :: ((compactMembers members).points ++ .scalar '\x7d' :: rest) := by
    show (.scalar '\x7b' :: (compactMembers members).points) ++ [CodePoint.scalar '\x7d'] ++ rest = _
    rw [List.append_assoc]
    rfl
  rw [points] at enough ⊢
  rw [List.length_cons] at enough
  obtain ⟨depth, rfl⟩ : ∃ d, depth = d + 1 := by
    cases depth with
    | zero => cases written
    | succ d => exact ⟨d, rfl⟩
  have written : writeFaultMembers? depth members = none := written
  unfold readValue
  dsimp only
  rw [if_neg (by decide), if_neg (by decide), if_pos (by decide)]
  rcases members with _ | ⟨⟨key, x⟩, ms⟩
  · rfl
  · have read : readMembers limits depth fuel []
          ((compactMembers ((key, x) :: ms)).points ++ .scalar '\x7d' :: rest)
        = .ok (readBack (object ((key, x) :: ms)), rest) := ih.members written (by omega)
    obtain ⟨tail, spelled⟩ : ∃ tail, (compactMembers ((key, x) :: ms)).points ++ .scalar '\x7d' :: rest
        = .scalar '"' :: tail := by
      rw [compactMembers_points]
      exact ⟨_, rfl⟩
    rw [spelled] at read ⊢
    rw [skipBlanks_of_solid rfl]
    dsimp only
    rw [if_neg (by decide), read]

theorem readValue_compact {j : Json} (limit : Text.digitLimit ≤ limits.digits) (ih : ReadsBack limits fuel)
    (written : j.writeFault? depth = none) (follows : Follows rest)
    (enough : 2 * (j.compact.points ++ rest).length + 1 ≤ fuel + 1) :
    readValue limits depth (fuel + 1) (j.compact.points ++ rest) = .ok (readBack j, rest) := by
  cases j with
  | null => exact readValue_null rest
  | bool b => exact readValue_bool b rest
  | int n =>
    have short : (Nat.toDigits 10 n.natAbs).length ≤ limits.digits := by
      rw [writeFault?] at written
      split at written
      next short => exact (of_decide_eq_true short).trans limit
      next => cases written
    exact (readValue_scalar (beginsScalar_int n)).trans (readScalar_int short follows)
  | float x => exact (readValue_scalar (beginsScalar_float x)).trans (readScalar_float x follows)
  | text t => exact readValue_quote t
  | array items => exact readValue_array ih written enough
  | object members => exact readValue_object ih written enough

theorem readItems_compact {before : List Json} {x : Json} {xs : List Json} (ih : ReadsBack limits fuel)
    (written : writeFaultItems? depth (x :: xs) = none)
    (enough : 2 * ((compactItems (x :: xs)).points ++ .scalar ']' :: rest).length + 2 ≤ fuel + 1) :
    readItems limits depth (fuel + 1) before ((compactItems (x :: xs)).points ++ .scalar ']' :: rest)
      = .ok (array (before.reverse ++ readBackItems (x :: xs)), rest) := by
  obtain ⟨head, others⟩ := orElse_eq_none written
  rw [compactItems_points, List.append_assoc] at enough ⊢
  rw [readItems]
  rcases xs with _ | ⟨y, ys⟩
  · rw [if_pos List.isEmpty_nil, List.nil_append] at enough ⊢
    rw [ih.value head (follows_bracket rest) (by omega)]
    show Except.ok (array (x.readBack :: before).reverse, rest) = _
    rw [List.reverse_cons]
    rfl
  · rw [if_neg (by simp), List.cons_append] at enough ⊢
    rw [ih.value head (follows_comma _) (by omega)]
    rw [List.length_append, List.length_cons] at enough
    obtain ⟨p, tail, spelled, solid, -, -⟩ := compact_begins y
    have read : readItems limits depth fuel (x.readBack :: before)
          ((compactItems (y :: ys)).points ++ .scalar ']' :: rest)
        = .ok (array ((x.readBack :: before).reverse ++ readBackItems (y :: ys)), rest) :=
      ih.items others (by omega)
    show readItems limits depth fuel (x.readBack :: before)
        (skipBlanks ((compactItems (y :: ys)).points ++ .scalar ']' :: rest)) = _
    rw [List.reverse_cons, List.append_assoc, compactItems_points, spelled, List.cons_append,
      List.cons_append] at read
    rw [compactItems_points, spelled, List.cons_append, List.cons_append, skipBlanks_of_solid solid, read]
    rfl

theorem readMembers_compact {before : List (Text × Json)} {m : Text × Json} {ms : List (Text × Json)}
    (ih : ReadsBack limits fuel) (written : writeFaultMembers? depth (m :: ms) = none)
    (enough : 2 * ((compactMembers (m :: ms)).points ++ .scalar '\x7d' :: rest).length + 2 ≤ fuel + 1) :
    readMembers limits depth (fuel + 1) before ((compactMembers (m :: ms)).points ++ .scalar '\x7d' :: rest)
      = .ok (object ((readBackMembers (m :: ms)).foldl (fun kept m => put m.1 m.2 kept) before), rest) := by
  obtain ⟨key, x⟩ := m
  obtain ⟨head, others⟩ := orElse_eq_none written
  obtain ⟨p, tail, spelled, solid, -, -⟩ := compact_begins x
  -- the key and the value, whatever follows
  have begun (after : List CodePoint) {q : CodePoint} {left : List CodePoint}
      (next : skipBlanks after = q :: left) (follows : Follows after)
      (enough : 2 * (x.compact.points ++ after).length + 1 ≤ fuel) :
      readMembers limits depth (fuel + 1) before
        ((quote key).points ++ .scalar ':' :: (x.compact.points ++ after))
      = if q.is '\x7d' then .ok (object (put key.joined x.readBack before), left)
        else if q.is ',' then
          readMembers limits depth fuel (put key.joined x.readBack before) (skipBlanks left)
        else refuse .expectingComma (q :: left) := by
    have points : (quote key).points ++ .scalar ':' :: (x.compact.points ++ after) = .scalar '"'
        :: (key.points.flatMap escapeAscii ++ .scalar '"' :: (.scalar ':' :: (x.compact.points ++ after))) := by
      rw [quote, List.cons_append, List.append_assoc]
      rfl
    have value := ih.value head follows enough
    rw [points, readMembers.eq_def]
    dsimp only
    rw [if_pos (CodePoint.is_iff.mpr rfl), readString_escapes]
    show (readValue limits depth fuel (skipBlanks (x.compact.points ++ after)) >>= _) = _
    rw [spelled, List.cons_append] at value ⊢
    rw [skipBlanks_of_solid solid, value]
    dsimp only [bind, Except.bind]
    rw [next]
    rfl
  rw [compactMembers_points, List.append_assoc, List.cons_append, List.append_assoc] at enough ⊢
  rw [List.length_append, List.length_cons] at enough
  rcases ms with _ | ⟨m, ms⟩
  · rw [if_pos List.isEmpty_nil, List.nil_append] at enough ⊢
    exact begun (.scalar '\x7d' :: rest) (skipBlanks_of_solid rfl rest) (follows_brace rest) (by omega)
  · rw [if_neg (by simp), List.cons_append] at enough ⊢
    rw [begun _ (skipBlanks_of_solid rfl _) (follows_comma _) (by omega)]
    rw [List.length_append, List.length_cons] at enough
    have read : readMembers limits depth fuel (put key.joined x.readBack before)
          ((compactMembers (m :: ms)).points ++ .scalar '\x7d' :: rest)
        = .ok (object ((readBackMembers (m :: ms)).foldl (fun kept m => put m.1 m.2 kept)
            (put key.joined x.readBack before)), rest) :=
      ih.members others (by omega)
    obtain ⟨tail, quoted⟩ : ∃ tail, (compactMembers (m :: ms)).points ++ .scalar '\x7d' :: rest
        = .scalar '"' :: tail := by
      rw [compactMembers_points]
      exact ⟨_, rfl⟩
    show readMembers limits depth fuel (put key.joined x.readBack before)
        (skipBlanks ((compactMembers (m :: ms)).points ++ .scalar '\x7d' :: rest)) = _
    rw [quoted] at read ⊢
    rw [skipBlanks_of_solid rfl, read]
    rfl

theorem readsBack (limit : Text.digitLimit ≤ limits.digits) (fuel : Nat) : ReadsBack limits fuel := by
  induction fuel with
  | zero =>
    -- no text is so short that it needs no fuel
    exact ⟨by omega, by omega, by omega⟩
  | succ fuel ih =>
    exact ⟨fun written follows enough => readValue_compact limit ih written follows enough,
      fun written enough => readItems_compact ih written enough,
      fun written enough => readMembers_compact ih written enough⟩

/-! ### Whole texts -/

/-- **What was written is read back.** -/
theorem read_compact {j : Json} (digits : Text.digitLimit ≤ limits.digits)
    (written : j.writeFault? limits.depth = none) : read limits j.compact = .ok j.readBack := by
  obtain ⟨p, tail, spelled, solid, -, mark⟩ := compact_begins j
  have value : readValue limits limits.depth (2 * j.compact.points.length + 2) (j.compact.points ++ [])
      = .ok (j.readBack, []) := by
    refine (readsBack digits _).value written nofun ?_
    rw [List.append_nil]
    omega
  have head : ¬ j.compact.points.head?.any (·.toNat = 0xFEFF) = true := by
    rw [spelled]
    simpa using mark
  rw [List.append_nil] at value
  unfold read readBody
  rw [if_neg head]
  dsimp only
  have whole : skipBlanks j.compact.points = j.compact.points := by
    rw [spelled, skipBlanks_of_solid solid]
  rw [whole, value]
  rfl

/-! ### Canonical texts -/

theorem writeFaultItems?_eq_none {js : List Json} :
    writeFaultItems? depth js = none ↔ ∀ j ∈ js, j.writeFault? depth = none := by
  induction js with
  | nil => exact iff_of_true rfl (List.forall_mem_nil _)
  | cons j js ih =>
    rw [writeFaultItems?, List.forall_mem_cons, ← ih]
    refine ⟨orElse_eq_none, fun none => ?_⟩
    rw [none.1, none.2]
    rfl

theorem writeFaultMembers?_eq_none {ms : List (Text × Json)} :
    writeFaultMembers? depth ms = none ↔ ∀ m ∈ ms, m.2.writeFault? depth = none := by
  induction ms with
  | nil => exact iff_of_true rfl nofun
  | cons m ms ih =>
    rw [writeFaultMembers?, List.forall_mem_cons, ← ih]
    exact ⟨orElse_eq_none, fun ⟨first, others⟩ => by rw [first, others]; rfl⟩

mutual

/-- The order of members decides nothing about what is written. -/
theorem writeFault?_sortKeys {j : Json} {depth : Nat} (written : j.writeFault? depth = none) :
    j.sortKeys.writeFault? depth = none := by
  match j, depth with
  | array js, 0 => cases written
  | object ms, 0 => cases written
  | array js, depth + 1 => exact writeFaultItems?_sortKeys written
  | object ms, depth + 1 =>
    rw [sortKeys_object]
    refine writeFaultMembers?_eq_none.mpr fun m member => ?_
    rw [(sortedMembers_perm ms).mem_iff, ← sortKeysMembers_eq_map] at member
    exact writeFaultMembers?_eq_none.mp (writeFaultMembers?_sortKeys written) m member
  | null, _ | bool _, _ | int _, _ | float _, _ | text _, _ => exact written

theorem writeFaultItems?_sortKeys {js : List Json} {depth : Nat} (written : writeFaultItems? depth js = none) :
    writeFaultItems? depth (sortKeysItems js) = none := by
  match js with
  | [] => rfl
  | j :: js =>
    obtain ⟨first, others⟩ := orElse_eq_none written
    rw [sortKeysItems, writeFaultItems?, writeFault?_sortKeys first, writeFaultItems?_sortKeys others]
    rfl

theorem writeFaultMembers?_sortKeys {ms : List (Text × Json)} {depth : Nat}
    (written : writeFaultMembers? depth ms = none) :
    writeFaultMembers? depth (sortKeysMembers ms) = none := by
  match ms with
  | [] => rfl
  | (key, j) :: ms =>
    obtain ⟨first, others⟩ := orElse_eq_none written
    rw [sortKeysMembers, writeFaultMembers?, writeFault?_sortKeys first, writeFaultMembers?_sortKeys others]
    rfl

end

theorem canonicalText_eq_ok {j : Json} {t : Text} :
    j.canonicalText = .ok t ↔ j.writeFault? writeDepth = none ∧ t = j.canonical := by
  unfold canonicalText
  split
  next fault found => exact ⟨nofun, fun h => absurd (found.symm.trans h.1) nofun⟩
  next written => exact ⟨fun h => ⟨written, (Except.ok.inj h).symm⟩, fun h => congrArg Except.ok h.2.symm⟩

/-- What is written canonically is read as the value with its keys in order. -/
theorem read_canonicalText {j : Json} {t : Text} (h : j.canonicalText = .ok t) :
    read .standard t = .ok j.sortKeys.readBack := by
  obtain ⟨written, rfl⟩ := canonicalText_eq_ok.mp h
  exact read_compact (Nat.le_refl _) (writeFault?_sortKeys written)

end GuardedTools.Json
