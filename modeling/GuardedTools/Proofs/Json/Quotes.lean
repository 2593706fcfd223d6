import GuardedTools.Json.Encoded
import GuardedTools.Json.Printer
import GuardedTools.Proofs.Json.ReadLimits
import GuardedTools.Proofs.Json.Validity

/-!
# Reading texts that were quoted

A quoted text is read as itself, except that a surrogate and the other half of its pair after it become
the one code point that they stand for (`Json.readString_escapes`).  A Unicode text has no surrogates and is
read as it is (`Text.joined_of_isScalar`).
-/

namespace GuardedTools

namespace CodePoint

theorem hexValue?_ofHexValue : ∀ d < 16, (ofHexValue d).hexValue? = some d := by decide

end CodePoint

/-- A text in which the halves of surrogate pairs are joined. -/
def Text.joined (t : Text) : Text := ⟨Json.Encoding.joinUnits (t.points.map CodePoint.toNat)⟩

namespace Json

variable {opening n : Nat} {p : CodePoint} {ps rest : List CodePoint}

/-! ### Joining -/

theorem joinPair?_eq_none {high low : Nat} (h : ¬ (0xD800 ≤ high ∧ high < 0xDC00 ∧ 0xDC00 ≤ low ∧ low < 0xE000)) :
    joinPair? high low = none := if_neg h

theorem joinUnits_apart (apart : ∀ q ∈ ps.head?, joinPair? p.toNat q.toNat = none) :
    Encoding.joinUnits ((p :: ps).map CodePoint.toNat) = p :: Encoding.joinUnits (ps.map CodePoint.toNat) := by
  rcases ps with _ | ⟨q, ps⟩
  · show [CodePoint.ofNat p.toNat] = [p]
    rw [CodePoint.ofNat_toNat]
  · rw [List.map_cons, List.map_cons, Encoding.joinUnits, apart q rfl]
    dsimp only
    rw [CodePoint.ofNat_toNat]

/-! ### Escapes -/

theorem hexQuad?_escape (small : n < 65536) :
    hexQuad? (.ofHexValue (n / 4096 % 16)) (.ofHexValue (n / 256 % 16)) (.ofHexValue (n / 16 % 16))
      (.ofHexValue (n % 16)) = some n := by
  unfold hexQuad?
  rw [CodePoint.hexValue?_ofHexValue _ (Nat.mod_lt _ (by decide)),
    CodePoint.hexValue?_ofHexValue _ (Nat.mod_lt _ (by decide)),
    CodePoint.hexValue?_ofHexValue _ (Nat.mod_lt _ (by decide)),
    CodePoint.hexValue?_ofHexValue _ (Nat.mod_lt _ (by decide))]
  show some (((n / 4096 % 16 * 16 + n / 256 % 16) * 16 + n / 16 % 16) * 16 + n % 16) = some n
  congr 1
  omega

/-- How a code point is written inside quotes. -/
theorem escapeAscii_cases (p : CodePoint) :
    (∃ e, escapeAscii p = [.scalar '\\', e] ∧ simpleEscape? e = some p ∧ e.is 'u' = false) ∨
      (escapeAscii p = unicodeEscape p.toNat ∧ p.toNat < 65536) ∨
      (escapeAscii p = [p] ∧ 32 ≤ p.toNat ∧ p.is '"' = false ∧ p.is '\\' = false) ∨
      (65536 ≤ p.toNat ∧ escapeAscii p = unicodeEscape (0xD800 + (p.toNat - 0x10000) / 1024)
        ++ unicodeEscape (0xDC00 + (p.toNat - 0x10000) % 1024)) := by
  have named (c : Char) (e : CodePoint) (h : p.is c = true) (simple : simpleEscape? e = some (.scalar c))
      (other : e.is 'u' = false) (written : escapeAscii (.scalar c) = [.scalar '\\', e]) :
      ∃ e, escapeAscii p = [.scalar '\\', e] ∧ simpleEscape? e = some p ∧ e.is 'u' = false := by
    obtain rfl := CodePoint.is_iff.mp h
    exact ⟨e, written, simple, other⟩
  have numbered (n : Nat) (h : p.toNat = n) : p = .ofNat n := by rw [← h, CodePoint.ofNat_toNat]
  by_cases quote : p.is '"' = true
  · exact Or.inl (named '"' '"' quote rfl rfl rfl)
  by_cases backslash : p.is '\\' = true
  · exact Or.inl (named '\\' '\\' backslash rfl rfl rfl)
  by_cases newline : p.is '\n' = true
  · exact Or.inl (named '\n' 'n' newline rfl rfl rfl)
  by_cases carriage : p.is '\r' = true
  · exact Or.inl (named '\r' 'r' carriage rfl rfl rfl)
  by_cases tab : p.is '\t' = true
  · exact Or.inl (named '\t' 't' tab rfl rfl rfl)
  by_cases backspace : p.toNat = 8
  · rw [numbered 8 backspace]
    exact Or.inl ⟨.scalar 'b', rfl, rfl, rfl⟩
  by_cases feed : p.toNat = 12
  · rw [numbered 12 feed]
    exact Or.inl ⟨.scalar 'f', rfl, rfl, rfl⟩
  right
  have short : shortEscape? p = if p.toNat < 32 then some (unicodeEscape p.toNat) else none := by
    unfold shortEscape?
    rw [if_neg quote, if_neg backslash, if_neg newline, if_neg carriage, if_neg tab, if_neg backspace,
      if_neg feed]
  by_cases control : p.toNat < 32
  · rw [if_pos control] at short
    exact Or.inl ⟨by rw [escapeAscii, short], by omega⟩
  rw [if_neg control] at short
  have escaped : escapeAscii p = if p.toNat < 127 then [p] else if p.toNat < 0x10000 then unicodeEscape p.toNat
      else unicodeEscape (0xD800 + (p.toNat - 0x10000) / 1024)
        ++ unicodeEscape (0xDC00 + (p.toNat - 0x10000) % 1024) := by
    rw [escapeAscii, short]
  by_cases ascii : p.toNat < 127
  · rw [if_pos ascii] at escaped
    exact Or.inr (Or.inl ⟨escaped, by omega, Bool.eq_false_iff.mpr quote, Bool.eq_false_iff.mpr backslash⟩)
  rw [if_neg ascii] at escaped
  by_cases basic : p.toNat < 0x10000
  · rw [if_pos basic] at escaped
    exact Or.inl ⟨escaped, basic⟩
  · rw [if_neg basic] at escaped
    exact Or.inr (Or.inr ⟨by omega, escaped⟩)

/-! ### Reading -/

/-- What is read after a code point was read. -/
def withPoint (p : CodePoint) (r : Except ReadError (List CodePoint × List CodePoint)) :
    Except ReadError (List CodePoint × List CodePoint) := do
  let (ps, left) ← r
  return (p :: ps, left)

theorem readString_simple {e : CodePoint} (simple : simpleEscape? e = some p) (other : e.is 'u' = false)
    (tail : List CodePoint) :
    readString opening (.scalar '\\' :: e :: tail) = withPoint p (readString opening tail) := by
  rw [readString.eq_def]
  dsimp only
  rw [if_neg (by decide), if_neg (by decide), if_pos (by decide), other, if_neg Bool.false_ne_true, simple]
  rfl

theorem readString_plain (large : 32 ≤ p.toNat) (quote : p.is '"' = false) (backslash : p.is '\\' = false)
    (tail : List CodePoint) :
    readString opening (p :: tail) = withPoint p (readString opening tail) := by
  have small : ¬ p.toNat < 32 := by omega
  rw [readString.eq_def]
  dsimp only
  rw [quote, backslash, if_neg Bool.false_ne_true, if_neg small, if_neg Bool.false_ne_true]
  rfl

/-- Two codes that are the halves of a pair are read as one code point. -/
theorem readString_halves {m : Nat} {a b c d e f g h : CodePoint} (first : hexQuad? a b c d = some n)
    (second : hexQuad? e f g h = some m) (pair : joinPair? n m = some p) (tail : List CodePoint) :
    readString opening (.scalar '\\' :: .scalar 'u' :: a :: b :: c :: d :: .scalar '\\' :: .scalar 'u' :: e :: f
      :: g :: h :: tail) = withPoint p (readString opening tail) := by
  rw [readString.eq_def]
  dsimp only
  rw [if_neg (by decide), if_neg (by decide), if_pos (by decide), if_pos (by decide), first]
  dsimp only
  rw [if_pos (by decide), second, Option.bind_some, pair]
  rfl

/-- A code and the code of the other half of its pair are read as one code point. -/
theorem readString_pair {m : Nat} (small : n < 65536) (small' : m < 65536) (pair : joinPair? n m = some p)
    (tail : List CodePoint) :
    readString opening (unicodeEscape n ++ (unicodeEscape m ++ tail))
      = withPoint p (readString opening tail) :=
  readString_halves (hexQuad?_escape small) (hexQuad?_escape small') pair tail

/-- No code at the head of a text is the other half of a pair. -/
def Unpaired (n : Nat) (ps : List CodePoint) : Prop :=
  ps ≠ [] ∧ ∀ a b c d rest, ps = .scalar '\\' :: .scalar 'u' :: a :: b :: c :: d :: rest →
    (hexQuad? a b c d).bind (joinPair? n) = none

/-- Another code is read as the code point of its number. -/
theorem readString_quad {a b c d : CodePoint} {tail : List CodePoint} (quad : hexQuad? a b c d = some n)
    (unpaired : Unpaired n tail) :
    readString opening (.scalar '\\' :: .scalar 'u' :: a :: b :: c :: d :: tail)
      = withPoint (.ofNat n) (readString opening tail) := by
  rw [readString.eq_def]
  dsimp only
  rw [if_neg (by decide), if_neg (by decide), if_pos (by decide), if_pos (by decide), quad]
  split
  next none => cases none
  next heq => exact absurd rfl unpaired.1
  next k f g h i j k' rest heq =>
    obtain rfl := Option.some.inj heq
    have apart : (if (f.is '\\' && g.is 'u') = true then (hexQuad? h i j k').bind (joinPair? n) else none) = none := by
      split
      next marked =>
        obtain ⟨backslash, u⟩ := Bool.and_eq_true_iff.mp marked
        obtain rfl := CodePoint.is_iff.mp backslash
        obtain rfl := CodePoint.is_iff.mp u
        exact unpaired.2 h i j k' rest rfl
      next => rfl
    rw [apart]
    rfl
  next k heq _ _ =>
    obtain rfl := Option.some.inj heq
    rfl

theorem readString_code {tail : List CodePoint} (small : n < 65536) (unpaired : Unpaired n tail) :
    readString opening (unicodeEscape n ++ tail)
      = withPoint (.ofNat n) (readString opening tail) :=
  readString_quad (hexQuad?_escape small) unpaired

/-- A code point that is no surrogate joins nothing after it. -/
theorem unpaired_escapes {n : Nat} (apart : ∀ q ∈ ps.head?, joinPair? n q.toNat = none) (rest : List CodePoint) :
    Unpaired n (ps.flatMap escapeAscii ++ .scalar '"' :: rest) := by
  refine ⟨List.append_ne_nil_of_right_ne_nil _ (List.cons_ne_nil _ _), fun a b c d left spelled => ?_⟩
  rcases ps with _ | ⟨q, ps⟩
  · cases spelled
  rw [List.flatMap_cons, List.append_assoc] at spelled
  -- the number of a code at the head, which is not the other half
  have coded (m : Nat) (small : m < 65536) (apart : joinPair? n m = none) {tail : List CodePoint}
      (spelled : unicodeEscape m ++ tail = .scalar '\\' :: .scalar 'u' :: a :: b :: c :: d :: left) :
      (hexQuad? a b c d).bind (joinPair? n) = none := by
    have quad := hexQuad?_escape small
    unfold unicodeEscape at spelled
    simp only [List.cons_append, List.nil_append, List.cons.injEq, true_and] at spelled
    obtain ⟨rfl, rfl, rfl, rfl, -⟩ := spelled
    rw [quad, Option.bind_some, apart]
  rcases escapeAscii_cases q with ⟨e, written, -, other⟩ | ⟨written, small⟩ | ⟨written, -, -, other⟩ |
      ⟨large, written⟩ <;> rw [written] at spelled
  · simp only [List.cons_append, List.nil_append, List.cons.injEq, true_and] at spelled
    obtain ⟨rfl, -⟩ := spelled
    cases other
  · exact coded q.toNat small (apart q rfl) spelled
  · simp only [List.cons_append, List.nil_append, List.cons.injEq] at spelled
    obtain ⟨rfl, -⟩ := spelled
    cases other
  · have most := q.toNat_lt
    rw [List.append_assoc] at spelled
    exact coded (0xD800 + (q.toNat - 0x10000) / 1024) (by omega) (joinPair?_eq_none (by omega)) spelled

/-- A surrogate is written as its code. -/
theorem escapeAscii_surrogate (surrogate : 0xD800 ≤ p.toNat ∧ p.toNat < 0xE000) :
    escapeAscii p = unicodeEscape p.toNat := by
  cases p with
  | scalar c =>
    have outside : c.toNat < 0xD800 ∨ 0xDFFF < c.toNat ∧ c.toNat < 0x110000 := c.valid
    have number : (CodePoint.scalar c).toNat = c.toNat := rfl
    omega
  | surrogate offset =>
    have short : shortEscape? (.surrogate offset)
        = if (CodePoint.surrogate offset).toNat = 8 then some [.scalar '\\', .scalar 'b']
          else if (CodePoint.surrogate offset).toNat = 12 then some [.scalar '\\', .scalar 'f']
          else if (CodePoint.surrogate offset).toNat < 32 then
            some (unicodeEscape (CodePoint.surrogate offset).toNat)
          else none := rfl
    rw [if_neg (by omega), if_neg (by omega), if_neg (by omega)] at short
    rw [escapeAscii, short]
    dsimp only
    rw [if_neg (by omega), if_pos (by omega)]

theorem joinPair?_eq_some {high low : Nat} (h : joinPair? high low = some p) :
    0xD800 ≤ high ∧ high < 0xDC00 ∧ 0xDC00 ≤ low ∧ low < 0xE000 := by
  unfold joinPair? at h
  split at h
  · assumption
  · cases h

/-- A code point above the basic plane is the pair that it is written as. -/
theorem joinPair?_large (large : 65536 ≤ p.toNat) :
    joinPair? (0xD800 + (p.toNat - 0x10000) / 1024) (0xDC00 + (p.toNat - 0x10000) % 1024) = some p := by
  have most := p.toNat_lt
  have number : 0x10000 + (0xD800 + (p.toNat - 0x10000) / 1024 - 0xD800) * 1024
      + (0xDC00 + (p.toNat - 0x10000) % 1024 - 0xDC00) = p.toNat := by omega
  rw [joinPair?, if_pos (by omega), number, CodePoint.ofNat_toNat]

/-- What stands in quotes is read with its surrogate pairs joined. -/
theorem readString_escapes (opening : Nat) (ps rest : List CodePoint) :
    readString opening (ps.flatMap escapeAscii ++ .scalar '"' :: rest)
      = .ok (Encoding.joinUnits (ps.map CodePoint.toNat), rest) := by
  -- one code point is read after another, two at once where they are a pair
  induction h : ps.length using Nat.strongRecOn generalizing ps with
  | ind n ih =>
    rcases ps with _ | ⟨p, ps⟩
    · rw [List.flatMap_nil, List.nil_append, readString.eq_def]
      rfl
    by_cases paired : ∃ q qs joined, ps = q :: qs ∧ joinPair? p.toNat q.toNat = some joined
    · obtain ⟨q, qs, joined, rfl, pair⟩ := paired
      have surrogates := joinPair?_eq_some pair
      have left := ih qs.length (by rw [← h, List.length_cons, List.length_cons]; omega) qs rfl
      rw [List.flatMap_cons, List.flatMap_cons, List.append_assoc, List.append_assoc,
        escapeAscii_surrogate (by omega), escapeAscii_surrogate (by omega),
        readString_pair (by omega) (by omega) pair, left, List.map_cons, List.map_cons, Encoding.joinUnits, pair]
      rfl
    · have apart : ∀ q ∈ ps.head?, joinPair? p.toNat q.toNat = none := by
        intro q head
        obtain ⟨qs, rfl⟩ : ∃ qs, ps = q :: qs := List.head?_eq_some_iff.mp head
        exact Option.eq_none_iff_forall_ne_some.mpr fun joined pair => paired ⟨q, qs, joined, rfl, pair⟩
      have left := ih ps.length (by rw [← h, List.length_cons]; omega) ps rfl
      have read : readString opening (escapeAscii p ++ (ps.flatMap escapeAscii ++ .scalar '"' :: rest))
          = withPoint p (readString opening (ps.flatMap escapeAscii ++ .scalar '"' :: rest)) := by
        rcases escapeAscii_cases p with ⟨e, written, simple, other⟩ | ⟨written, small⟩ |
            ⟨written, least, quote, backslash⟩ | ⟨large, written⟩ <;> rw [written]
        · exact readString_simple simple other _
        · rw [readString_code small (unpaired_escapes apart rest), CodePoint.ofNat_toNat]
        · exact readString_plain least quote backslash _
        · have most := p.toNat_lt
          rw [List.append_assoc]
          exact readString_pair (by omega) (by omega) (joinPair?_large large) _
      rw [List.flatMap_cons, List.append_assoc, read, left, joinUnits_apart apart]
      rfl

end Json

namespace Text

/-- Without surrogates there is nothing to join. -/
theorem joined_of_isScalar {t : Text} (unicode : t.isScalar = true) : t.joined = t := by
  obtain ⟨ps⟩ := t
  have points : ∀ p ∈ ps, p.toNat < 0xD800 ∨ 0xE000 ≤ p.toNat := by
    intro p member
    have scalar := List.all_eq_true.mp unicode p member
    cases p with
    | scalar c =>
      have outside : c.toNat < 0xD800 ∨ 0xDFFF < c.toNat ∧ c.toNat < 0x110000 := c.valid
      have number : (CodePoint.scalar c).toNat = c.toNat := rfl
      omega
    | surrogate offset => cases scalar
  have joined : Json.Encoding.joinUnits (ps.map CodePoint.toNat) = ps := by
    induction ps with
    | nil => rfl
    | cons p ps ih =>
      have apart : ∀ q ∈ ps.head?, Json.joinPair? p.toNat q.toNat = none := by
        intro q head
        have point := points p List.mem_cons_self
        exact Json.joinPair?_eq_none (by omega)
      have unicode' : (⟨ps⟩ : Text).isScalar = true := by
        rw [isScalar, List.all_cons, Bool.and_eq_true] at unicode
        exact unicode.2
      rw [Json.joinUnits_apart apart, ih unicode' fun q member => points q (List.mem_cons_of_mem p member)]
  exact congrArg Text.mk joined

end Text

end GuardedTools
