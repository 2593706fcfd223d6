import GuardedTools.Proofs.Json.RoundTrip

/-!
# The grammar of JSON texts

Which texts denote a value (`Json.Denotes`) is said as the grammar of JSON says it, without the reader:
blanks stand where they may, a character stands in quotes as itself, as a letter after a backslash, as the
code of its number in digits of either case, or as the two codes of a surrogate pair, and the members of an
object have different keys.  What the reader can take is a matter of the value alone: integers of not too
many digits and nesting of not too many levels (`Json.Within`).

Every text that denotes such a value is read as that value (`Json.read_of_denotes`).  The proof follows the
reader: what is read with some fuel where a value, items or members are spelled (`Json.ReadsSpelled`) is
known by induction on the fuel.
-/

namespace GuardedTools.Json

/-! ### Grammar -/

/-- Blanks, as many as there may be. -/
def AreBlanks (cs : List Char) : Prop := ∀ c ∈ cs, c ∈ [' ', '\t', '\n', '\r']

/-- A hexadecimal digit of either case, of the value `d`. -/
def IsHexDigit (d : Nat) (c : Char) : Prop := d < 16 ∧ (c = d.digitChar ∨ c = d.digitChar.toUpper)

instance (cs : List Char) : Decidable (AreBlanks cs) := List.decidableBAll _ cs

instance (d : Nat) (c : Char) : Decidable (IsHexDigit d c) :=
  inferInstanceAs (Decidable (d < 16 ∧ (c = d.digitChar ∨ c = d.digitChar.toUpper)))

/-- The code of a number: a backslash, a `u` and four hexadecimal digits. -/
inductive IsCode : Nat → List Char → Prop where
  | digits {k l m n : Nat} {a b c d : Char} : IsHexDigit k a → IsHexDigit l b → IsHexDigit m c →
      IsHexDigit n d → IsCode (((k * 16 + l) * 16 + m) * 16 + n) ['\\', 'u', a, b, c, d]

/-- The characters that a letter after a backslash stands for, each with its letter. -/
def letterEscapes : List (Char × Char) :=
  [('"', '"'), ('\\', '\\'), ('/', '/'), ('\x08', 'b'), ('\x0c', 'f'), ('\n', 'n'), ('\r', 'r'), ('\t', 't')]

/-- The ways in which a character is spelled in quotes. -/
inductive SpellsChar (c : Char) : List Char → Prop where
  | itself : 32 ≤ c.toNat → c ≠ '"' → c ≠ '\\' → SpellsChar c [c]
  | letter {e : Char} : (c, e) ∈ letterEscapes → SpellsChar c ['\\', e]
  | code {cs : List Char} : IsCode c.toNat cs → SpellsChar c cs
  | pair {high low : Nat} {cs ds : List Char} : IsCode high cs → IsCode low ds →
      0xD800 ≤ high ∧ high < 0xDC00 → 0xDC00 ≤ low ∧ low < 0xE000 →
      c.toNat = 0x10000 + (high - 0xD800) * 0x400 + (low - 0xDC00) → SpellsChar c (cs ++ ds)

/-- Characters spelled one after another. -/
inductive SpellsChars : List Char → List Char → Prop where
  | nil : SpellsChars [] []
  | cons {c : Char} {cs ds es : List Char} : SpellsChar c ds → SpellsChars cs es →
      SpellsChars (c :: cs) (ds ++ es)

/-- A text spelled in quotes. -/
inductive SpellsText : Text → List Char → Prop where
  | quoted {cs ds : List Char} : SpellsChars cs ds → SpellsText (Text.ofChars cs) ('"' :: (ds ++ ['"']))

mutual

/-- A value spelled from its first character to its last one. -/
inductive Spells : Json → List Char → Prop where
  | null : Spells null "null".toList
  | true : Spells (bool true) "true".toList
  | false : Spells (bool false) "false".toList
  | natural (n : Nat) : Spells (int n) (Nat.toDigits 10 n)
  | negative (n : Nat) : Spells (int (-n)) ('-' :: Nat.toDigits 10 n)
  | text {t : Text} {cs : List Char} : SpellsText t cs → Spells (text t) cs
  | emptyArray {blanks : List Char} : AreBlanks blanks → Spells (array []) ('[' :: (blanks ++ [']']))
  | array {js : List Json} {cs : List Char} : SpellsItems js cs → Spells (array js) ('[' :: (cs ++ [']']))
  | emptyObject {blanks : List Char} : AreBlanks blanks →
      Spells (object []) ('\x7b' :: (blanks ++ ['\x7d']))
  | object {ms : List (Text × Json)} {cs : List Char} : (ms.map (·.1)).Nodup → SpellsMembers ms cs →
      Spells (object ms) ('\x7b' :: (cs ++ ['\x7d']))

/-- A value that is denoted: it is spelled, with blanks before and after it. -/
inductive Denotes : Json → List Char → Prop where
  | amid {before cs after : List Char} {j : Json} : AreBlanks before → Spells j cs → AreBlanks after →
      Denotes j (before ++ (cs ++ after))

/-- One item or several with commas between them. -/
inductive SpellsItems : List Json → List Char → Prop where
  | last {j : Json} {cs : List Char} : Denotes j cs → SpellsItems [j] cs
  | more {j : Json} {js : List Json} {cs ds : List Char} : Denotes j cs → SpellsItems js ds →
      SpellsItems (j :: js) (cs ++ ',' :: ds)

/-- A key and a value with a colon between them. -/
inductive SpellsMember : Text × Json → List Char → Prop where
  | colon {key : Text} {j : Json} {before name after cs : List Char} : AreBlanks before →
      SpellsText key name → AreBlanks after → Denotes j cs →
      SpellsMember (key, j) (before ++ (name ++ (after ++ ':' :: cs)))

/-- One member or several with commas between them. -/
inductive SpellsMembers : List (Text × Json) → List Char → Prop where
  | last {m : Text × Json} {cs : List Char} : SpellsMember m cs → SpellsMembers [m] cs
  | more {m : Text × Json} {ms : List (Text × Json)} {cs ds : List Char} : SpellsMember m cs →
      SpellsMembers ms ds → SpellsMembers (m :: ms) (cs ++ ',' :: ds)

end

/-- Integers have at most so many digits, and arrays and objects are nested in at most `depth` levels;
there are no other numbers. -/
inductive Within (digits : Nat) : Nat → Json → Prop where
  | null {depth : Nat} : Within digits depth null
  | bool {depth : Nat} (b : Bool) : Within digits depth (bool b)
  | int {depth : Nat} {n : Int} : (Nat.toDigits 10 n.natAbs).length ≤ digits → Within digits depth (int n)
  | text {depth : Nat} (t : Text) : Within digits depth (text t)
  | array {depth : Nat} {js : List Json} : (∀ j ∈ js, Within digits depth j) →
      Within digits (depth + 1) (array js)
  | object {depth : Nat} {ms : List (Text × Json)} : (∀ m ∈ ms, Within digits depth m.2) →
      Within digits (depth + 1) (object ms)

/-! ### Blanks -/

variable {limits : ReadLimits} {depth fuel opening : Nat} {cs ds : List Char} {rest : List CodePoint}

theorem AreBlanks.isBlank_of_mem (blanks : AreBlanks cs) : ∀ p ∈ cs.map CodePoint.scalar, isBlank p = true := by
  intro p member
  obtain ⟨c, among, rfl⟩ := List.mem_map.mp member
  have each : [' ', '\t', '\n', '\r'].all (fun c => Json.isBlank (.scalar c)) = true := by decide
  exact List.all_eq_true.mp each c (blanks c among)

theorem AreBlanks.skip (blanks : AreBlanks cs) (rest : List CodePoint) :
    skipBlanks (cs.map .scalar ++ rest) = skipBlanks rest :=
  List.dropWhile_append_of_pos blanks.isBlank_of_mem

/-- What may follow a value may follow it after blanks. -/
theorem AreBlanks.follows (blanks : AreBlanks cs) (follows : Follows rest) :
    Follows (cs.map .scalar ++ rest) := by
  rcases cs with _ | ⟨c, cs⟩
  · exact follows
  · rintro p ⟨⟩
    exact Or.inr (Or.inr (Or.inr (blanks.isBlank_of_mem _ List.mem_cons_self)))

/-! ### Texts in quotes -/

theorem IsHexDigit.hexValue? {d : Nat} {c : Char} (digit : IsHexDigit d c) :
    (CodePoint.scalar c).hexValue? = some d := by
  have each : ∀ d < 16, (CodePoint.scalar d.digitChar).hexValue? = some d ∧
      (CodePoint.scalar d.digitChar.toUpper).hexValue? = some d := by decide
  rcases digit with ⟨small, rfl | rfl⟩
  · exact (each d small).1
  · exact (each d small).2

theorem IsCode.points {n : Nat} (code : IsCode n cs) : ∃ a b c d : CodePoint,
    cs.map .scalar = [.scalar '\\', .scalar 'u', a, b, c, d] ∧ hexQuad? a b c d = some n := by
  obtain ⟨first, second, third, fourth⟩ := code
  refine ⟨_, _, _, _, rfl, ?_⟩
  rw [hexQuad?, first.hexValue?, second.hexValue?, third.hexValue?, fourth.hexValue?]
  rfl

/-- However a character is spelled, it is read. -/
theorem SpellsChar.read {c : Char} (spelled : SpellsChar c cs) {tail : List CodePoint} (some : tail ≠ []) :
    readString opening (cs.map .scalar ++ tail) = withPoint (.scalar c) (readString opening tail) := by
  have number : CodePoint.ofNat c.toNat = .scalar c := CodePoint.ofNat_toNat (.scalar c)
  cases spelled with
  | itself printable quote backslash =>
    have other {d : Char} (differs : c ≠ d) : (CodePoint.scalar c).is d = false :=
      Bool.eq_false_iff.mpr fun same => differs (CodePoint.scalar.inj (CodePoint.is_iff.mp same))
    exact readString_plain (p := .scalar c) printable (other quote) (other backslash) tail
  | letter listed =>
    have each : ∀ m ∈ letterEscapes, simpleEscape? (.scalar m.2) = Option.some (.scalar m.1) ∧
        (CodePoint.scalar m.2).is 'u' = false := by decide
    obtain ⟨simple, other⟩ := each _ listed
    exact readString_simple simple other tail
  | code code =>
    obtain ⟨p, q, r, s, points, quad⟩ := code.points
    -- the number of a character is no half of a pair
    have outside : c.toNat < 0xD800 ∨ 0xDFFF < c.toNat ∧ c.toNat < 0x110000 := c.valid
    have unpaired : Unpaired c.toNat tail :=
      ⟨some, fun _ _ _ _ _ _ => Option.bind_eq_none_iff.mpr fun _ _ => joinPair?_eq_none (by omega)⟩
    rw [points]
    exact (readString_quad quad unpaired).trans (by rw [number])
  | pair first second high low number' =>
    obtain ⟨p, q, r, s, points, quad⟩ := first.points
    obtain ⟨p', q', r', s', points', quad'⟩ := second.points
    rw [List.map_append, points, points']
    refine readString_halves quad quad' ?_ tail
    rw [joinPair?, if_pos ⟨high.1, high.2, low.1, low.2⟩, ← number]
    exact congrArg (fun n => Option.some (CodePoint.ofNat n)) number'.symm

theorem SpellsChars.read (spelled : SpellsChars cs ds) (rest : List CodePoint) :
    readString opening (ds.map .scalar ++ .scalar '"' :: rest) = .ok (cs.map .scalar, rest) := by
  induction spelled with
  | nil =>
    rw [List.map_nil, List.nil_append, readString.eq_def]
    rfl
  | cons first _ ih =>
    rw [List.map_append, List.append_assoc, first.read (List.append_ne_nil_of_right_ne_nil _ (by simp)), ih]
    rfl

/-- A text in quotes is an opening quote and what is read as the text. -/
theorem SpellsText.points {t : Text} (spelled : SpellsText t cs) : ∃ inside : List CodePoint,
    cs.map .scalar = .scalar '"' :: inside ∧
      ∀ opening rest, readString opening (inside ++ rest) = .ok (t.points, rest) := by
  obtain ⟨chars⟩ := spelled
  refine ⟨_, rfl, fun opening rest => ?_⟩
  rw [List.map_append, List.append_assoc]
  exact chars.read rest

/-! ### Values -/

/-- A spelled value begins with no blank, no closing bracket and no mark. -/
theorem Spells.beginsSolid {j : Json} (spelled : Spells j cs) : BeginsSolid (cs.map .scalar) := by
  have digits (n : Nat) : BeginsSolid ((Nat.toDigits 10 n).map .scalar) := (beginsScalar_int n).beginsSolid
  cases spelled with
  | natural n => exact digits n
  | text text =>
    obtain ⟨inside, points, -⟩ := text.points
    exact ⟨_, _, points, rfl, rfl, by decide⟩
  | _ => exact ⟨_, _, rfl, rfl, rfl, by decide⟩

/-- A text begins, after blanks, with a code point that a list of code points follows. -/
def BeginsWith (cs : List Char) (p : CodePoint) : Prop :=
  ∃ tail, ∀ rest, skipBlanks (cs.map .scalar ++ rest) = p :: (tail ++ rest)

theorem BeginsWith.append {p : CodePoint} (begins : BeginsWith cs p) (ds : List Char) :
    BeginsWith (cs ++ ds) p := by
  obtain ⟨tail, begins⟩ := begins
  refine ⟨tail ++ ds.map .scalar, fun rest => ?_⟩
  rw [List.map_append, List.append_assoc, begins, List.append_assoc]

theorem AreBlanks.beginsWith {p : CodePoint} {tail : List CodePoint} (blanks : AreBlanks cs)
    (points : ds.map .scalar = p :: tail) (solid : isBlank p = false) : BeginsWith (cs ++ ds) p := by
  refine ⟨tail, fun rest => ?_⟩
  rw [List.map_append, List.append_assoc, blanks.skip, points, List.cons_append, skipBlanks_of_solid solid]

theorem Denotes.begins {j : Json} (denoted : Denotes j cs) : ∃ p, BeginsWith cs p ∧ p.is ']' = false := by
  cases denoted with
  | amid blanks spelled =>
    obtain ⟨p, tail, points, solid, other, -⟩ := spelled.beginsSolid
    rw [← List.append_assoc]
    exact ⟨p, (blanks.beginsWith points solid).append _, other⟩

/-- No byte order mark stands at the head. -/
theorem Denotes.head_ne {j : Json} (denoted : Denotes j cs) :
    ∀ p ∈ (cs.map CodePoint.scalar).head?, p.toNat ≠ 0xFEFF := by
  cases denoted with
  | @amid before cs after _ blanks spelled =>
    obtain ⟨p, tail, points, -, -, mark⟩ := spelled.beginsSolid
    rcases before with _ | ⟨c, before⟩
    · rw [List.nil_append, List.map_append, points]
      rintro _ ⟨⟩
      exact mark
    · rintro _ ⟨⟩
      have each : [' ', '\t', '\n', '\r'].all (fun c => (CodePoint.scalar c).toNat != 0xFEFF) = true := by decide
      exact bne_iff_ne.mp (List.all_eq_true.mp each c (blanks c List.mem_cons_self))

theorem SpellsItems.begins {js : List Json} (spelled : SpellsItems js cs) :
    ∃ p, BeginsWith cs p ∧ p.is ']' = false := by
  cases spelled with
  | last denoted => exact denoted.begins
  | more denoted =>
    obtain ⟨p, begins, other⟩ := denoted.begins
    exact ⟨p, begins.append _, other⟩

theorem SpellsMember.begins {m : Text × Json} (spelled : SpellsMember m cs) : BeginsWith cs (.scalar '"') := by
  cases spelled with
  | colon blanks name =>
    obtain ⟨inside, points, -⟩ := name.points
    rw [← List.append_assoc]
    exact (blanks.beginsWith points rfl).append _

theorem SpellsMembers.begins {ms : List (Text × Json)} (spelled : SpellsMembers ms cs) :
    BeginsWith cs (.scalar '"') := by
  cases spelled with
  | last member => exact member.begins
  | more member => exact member.begins.append _

/-- What is read with some fuel where a value is spelled, or the items of an array or the members of an
object after those that were read before. -/
structure ReadsSpelled (limits : ReadLimits) (fuel : Nat) : Prop where
  value : ∀ {depth j cs rest}, Spells j cs → Within limits.digits depth j → Follows rest →
    2 * (cs.length + rest.length) + 1 ≤ fuel →
    readValue limits depth fuel (cs.map .scalar ++ rest) = .ok (j, rest)
  items : ∀ {depth before js cs rest}, SpellsItems js cs → (∀ j ∈ js, Within limits.digits depth j) →
    2 * (cs.length + 1 + rest.length) + 2 ≤ fuel →
    readItems limits depth fuel before (skipBlanks (cs.map .scalar ++ .scalar ']' :: rest))
      = .ok (array (before.reverse ++ js), rest)
  members : ∀ {depth before ms cs rest}, SpellsMembers ms cs → (∀ m ∈ ms, Within limits.digits depth m.2) →
    2 * (cs.length + 1 + rest.length) + 2 ≤ fuel →
    readMembers limits depth fuel before (skipBlanks (cs.map .scalar ++ .scalar '\x7d' :: rest))
      = .ok (object (ms.foldl (fun kept m => put m.1 m.2 kept) before), rest)

/-- A value that stands between blanks is read, and nothing but blanks with it. -/
theorem ReadsSpelled.denoted {j : Json} (ih : ReadsSpelled limits fuel) (denoted : Denotes j cs)
    (within : Within limits.digits depth j) (follows : Follows rest)
    (enough : 2 * (cs.length + rest.length) + 1 ≤ fuel) : ∃ after,
      readValue limits depth fuel (skipBlanks (cs.map .scalar ++ rest)) = .ok (j, after) ∧
        skipBlanks after = skipBlanks rest := by
  cases denoted with
  | @amid before cs after _ blanks spelled blanks' =>
    obtain ⟨p, tail, points, solid, -⟩ := spelled.beginsSolid
    simp only [List.length_append] at enough
    have read := ih.value spelled within (blanks'.follows follows) (by
      rw [List.length_append, List.length_map]
      omega)
    refine ⟨after.map .scalar ++ rest, ?_, blanks'.skip rest⟩
    rw [List.map_append, List.map_append, List.append_assoc, List.append_assoc, blanks.skip]
    rw [points, List.cons_append] at read ⊢
    rw [skipBlanks_of_solid solid, read]

theorem readItems_spelled {before : List Json} {js : List Json} (ih : ReadsSpelled limits fuel)
    (spelled : SpellsItems js cs) (within : ∀ j ∈ js, Within limits.digits depth j)
    (enough : 2 * (cs.length + 1 + rest.length) + 2 ≤ fuel + 1) :
    readItems limits depth (fuel + 1) before (skipBlanks (cs.map .scalar ++ .scalar ']' :: rest))
      = .ok (array (before.reverse ++ js), rest) := by
  cases spelled with
  | @last j _ denoted =>
    obtain ⟨after, read, skipped⟩ := ih.denoted denoted (within j List.mem_cons_self) (follows_bracket rest)
      (by rw [List.length_cons]; omega)
    rw [readItems, read]
    dsimp only [bind, Except.bind]
    rw [skipped, skipBlanks_of_solid rfl, List.reverse_cons]
    rfl
  | @more j js cs ds denoted others =>
    rw [List.length_append, List.length_cons] at enough
    rw [List.forall_mem_cons] at within
    obtain ⟨after, read, skipped⟩ := ih.denoted denoted within.1
      (follows_comma (ds.map .scalar ++ .scalar ']' :: rest))
      (by simp only [List.length_append, List.length_cons, List.length_map]; omega)
    have items : readItems limits depth fuel (j :: before) (skipBlanks (ds.map .scalar ++ .scalar ']' :: rest))
        = .ok (array ((j :: before).reverse ++ js), rest) := ih.items others within.2 (by omega)
    rw [List.map_append, List.append_assoc, readItems, List.map_cons, List.cons_append, read]
    dsimp only [bind, Except.bind]
    rw [skipped, skipBlanks_of_solid rfl]
    dsimp only
    rw [if_neg (by decide), if_pos (by decide), items, List.reverse_cons, List.append_assoc]
    rfl

theorem readMembers_spelled {before : List (Text × Json)} {ms : List (Text × Json)}
    (ih : ReadsSpelled limits fuel) (spelled : SpellsMembers ms cs)
    (within : ∀ m ∈ ms, Within limits.digits depth m.2)
    (enough : 2 * (cs.length + 1 + rest.length) + 2 ≤ fuel + 1) :
    readMembers limits depth (fuel + 1) before (skipBlanks (cs.map .scalar ++ .scalar '\x7d' :: rest))
      = .ok (object (ms.foldl (fun kept m => put m.1 m.2 kept) before), rest) := by
  -- the key and the value, whatever follows
  have begun {m : Text × Json} {cs : List Char} (member : SpellsMember m cs)
      (within : Within limits.digits depth m.2) {q : CodePoint} {left : List CodePoint}
      (solid : isBlank q = false) (follows : Follows (q :: left))
      (enough : 2 * (cs.length + 1 + left.length) + 1 ≤ fuel) :
      readMembers limits depth (fuel + 1) before (skipBlanks (cs.map .scalar ++ q :: left))
      = if q.is '\x7d' then .ok (object (put m.1 m.2 before), left)
        else if q.is ',' then readMembers limits depth fuel (put m.1 m.2 before) (skipBlanks left)
        else refuse .expectingComma (q :: left) := by
    cases member with
    | @colon key j blanks name blanks' value areBlanks spelled areBlanks' denoted =>
      obtain ⟨inside, points, string⟩ := spelled.points
      simp only [List.length_append, List.length_cons] at enough
      obtain ⟨after, read, skipped⟩ := ih.denoted denoted within follows
        (by rw [List.length_cons]; omega)
      simp only [List.map_append, List.append_assoc, List.map_cons, List.cons_append]
      rw [areBlanks.skip, points, List.cons_append, skipBlanks_of_solid rfl, readMembers.eq_def]
      dsimp only
      rw [if_pos (by decide), string]
      dsimp only [bind, Except.bind]
      rw [areBlanks'.skip, skipBlanks_of_solid rfl]
      dsimp only
      rw [if_pos (by decide), read]
      dsimp only
      rw [skipped, skipBlanks_of_solid solid]
  cases spelled with
  | @last m _ member =>
    exact begun member (within m List.mem_cons_self) rfl (follows_brace rest) (by omega)
  | @more m ms cs ds member others =>
    rw [List.length_append, List.length_cons] at enough
    rw [List.forall_mem_cons] at within
    have members : readMembers limits depth fuel (put m.1 m.2 before)
          (skipBlanks (ds.map .scalar ++ .scalar '\x7d' :: rest))
        = .ok (object (ms.foldl (fun kept m => put m.1 m.2 kept) (put m.1 m.2 before)), rest) :=
      ih.members others within.2 (by omega)
    rw [List.map_append, List.append_assoc, List.map_cons, List.cons_append,
      begun member within.1 rfl (follows_comma _)
        (by simp only [List.length_append, List.length_cons, List.length_map]; omega),
      if_neg (by decide), if_pos (by decide), members]
    rfl

/-- What stands after an opening bracket. -/
theorem readValue_bracket {p : CodePoint} {ps left : List CodePoint} (next : skipBlanks ps = p :: left) :
    readValue limits (depth + 1) (fuel + 1) (.scalar '[' :: ps)
      = if p.is ']' then .ok (array [], left) else readItems limits depth fuel [] (p :: left) := by
  unfold readValue
  dsimp only
  rw [if_neg (by decide), if_pos (by decide), next]

/-- What stands after an opening brace. -/
theorem readValue_brace {p : CodePoint} {ps left : List CodePoint} (next : skipBlanks ps = p :: left) :
    readValue limits (depth + 1) (fuel + 1) (.scalar '\x7b' :: ps)
      = if p.is '\x7d' then .ok (object [], left) else readMembers limits depth fuel [] (p :: left) := by
  unfold readValue
  dsimp only
  rw [if_neg (by decide), if_neg (by decide), if_pos (by decide), next]

theorem map_enclosed (first last : Char) (cs : List Char) (rest : List CodePoint) :
    (first :: (cs ++ [last])).map CodePoint.scalar ++ rest
      = .scalar first :: (cs.map .scalar ++ .scalar last :: rest) := by
  rw [List.map_cons, List.map_append, List.cons_append, List.append_assoc]
  rfl

theorem readValue_spelled {j : Json} (ih : ReadsSpelled limits fuel) (spelled : Spells j cs)
    (within : Within limits.digits depth j) (follows : Follows rest)
    (enough : 2 * (cs.length + rest.length) + 1 ≤ fuel + 1) :
    readValue limits depth (fuel + 1) (cs.map .scalar ++ rest) = .ok (j, rest) := by
  cases spelled with
  | null => exact readValue_null rest
  | true => exact readValue_bool true rest
  | false => exact readValue_bool false rest
  | natural n =>
    cases within with
    | int short => exact (readValue_scalar (beginsScalar_int n)).trans (readScalar_nat false short follows)
  | negative n =>
    cases within with
    | int short =>
      rw [Int.natAbs_neg] at short
      exact (readValue_scalar ⟨_, _, rfl, rfl⟩).trans (readScalar_nat true short follows)
  | text text =>
    obtain ⟨inside, points, string⟩ := text.points
    rw [points, List.cons_append]
    unfold readValue
    dsimp only
    rw [if_pos (by decide), string]
    rfl
  | emptyArray blanks =>
    cases within with
    | array _ =>
      rw [map_enclosed, readValue_bracket ((blanks.skip _).trans (skipBlanks_of_solid rfl rest))]
      rfl
  | @array js cs items =>
    cases within with
    | array within =>
      obtain ⟨p, ⟨tail, begins⟩, other⟩ := items.begins
      simp only [List.length_cons, List.length_append] at enough
      have read : readItems limits _ fuel [] (skipBlanks (cs.map .scalar ++ .scalar ']' :: rest))
          = .ok (array js, rest) := ih.items items within (by omega)
      rw [begins] at read
      rw [map_enclosed, readValue_bracket (begins _), other, if_neg Bool.false_ne_true, read]
  | emptyObject blanks =>
    cases within with
    | object _ =>
      rw [map_enclosed, readValue_brace ((blanks.skip _).trans (skipBlanks_of_solid rfl rest))]
      rfl
  | @object ms cs nodup members =>
    cases within with
    | object within =>
      obtain ⟨tail, begins⟩ := members.begins
      simp only [List.length_cons, List.length_append] at enough
      have read : readMembers limits _ fuel [] (skipBlanks (cs.map .scalar ++ .scalar '\x7d' :: rest))
          = .ok (object (ms.foldl (fun kept m => put m.1 m.2 kept) []), rest) :=
        ih.members members within (by omega)
      -- no two members have one key, so that all are kept in their order
      have kept : object (ms.foldl (fun kept m => put m.1 m.2 kept) []) = object ms := ofMembers_of_nodup nodup
      rw [begins, kept] at read
      rw [map_enclosed, readValue_brace (begins _), if_neg (by decide), read]

theorem readsSpelled (limits : ReadLimits) (fuel : Nat) : ReadsSpelled limits fuel := by
  induction fuel with
  | zero =>
    -- no text is so short that it needs no fuel
    exact ⟨by omega, by omega, by omega⟩
  | succ fuel ih =>
    exact ⟨fun spelled within follows enough => readValue_spelled ih spelled within follows enough,
      fun spelled within enough => readItems_spelled ih spelled within enough,
      fun spelled within enough => readMembers_spelled ih spelled within enough⟩

/-! ### Whole texts -/

/-- **A text that denotes a value is read as that value.** -/
theorem read_of_denotes {j : Json} (denoted : Denotes j cs) (within : Within limits.digits limits.depth j) :
    read limits (Text.ofChars cs) = .ok j := by
  have total : (Text.ofChars cs).points.length = cs.length := List.length_map ..
  have nothing : Follows [] := nofun
  obtain ⟨after, value, skipped⟩ := (readsSpelled limits (2 * cs.length + 2)).denoted denoted within nothing
    (by rw [List.length_nil]; omega)
  have head : ¬ (Text.ofChars cs).points.head?.any (·.toNat = 0xFEFF) = true := by
    rw [Option.any_eq_true]
    rintro ⟨p, first, mark⟩
    exact denoted.head_ne p first (of_decide_eq_true mark)
  rw [List.append_nil] at value
  unfold read readBody
  rw [if_neg head]
  dsimp only
  rw [total, show (Text.ofChars cs).points = cs.map .scalar from rfl, value]
  dsimp only
  rw [skipped]
  rfl

end GuardedTools.Json
