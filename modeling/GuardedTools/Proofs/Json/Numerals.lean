import GuardedTools.Json.Printer
import GuardedTools.Proofs.Binary64
import GuardedTools.Proofs.Json.ReadLimits

/-!
# Reading numbers that were written

A numeral is read as the number of its parts, if nothing follows that would belong to it
(`Json.readUnsigned_numeral`).  The text of an integer is the numeral of its digits, and that of a
floating-point number the numeral of its shortest decimal (`isLayOut_layOut`); so an integer is read
as itself (`Json.readScalar_int`) and a floating-point number as the number that its text says
(`Json.readScalar_float`).
-/

namespace GuardedTools

namespace Json

variable {limits : ReadLimits} {negative : Bool} {whole fraction rest : List CodePoint}

/-! ### Numerals -/

/-- What may follow a value in a text: nothing, a sign that separates or closes, or a blank. -/
def Follows (rest : List CodePoint) : Prop :=
  ∀ p ∈ rest.head?, p = .scalar ',' ∨ p = .scalar ']' ∨ p = .scalar '\x7d' ∨ isBlank p = true

/-- An exponent with its sign, true for a minus. -/
def exponentValue (exponent : Bool × List CodePoint) : Int :=
  let n : Int := Text.digitsToNat exponent.2
  if exponent.1 then -n else n

/-- The digits after the point, with the point; without digits there is no point. -/
def fractionText : List CodePoint → List CodePoint
  | [] => []
  | fraction => .scalar '.' :: fraction

/-- An exponent as it is written. -/
def exponentText : Option (Bool × List CodePoint) → List CodePoint
  | none => []
  | some (negative, digits) =>
    .scalar 'e' :: (if negative then .scalar '-' else .scalar '+') :: digits

/-- The numeral of its parts. -/
def numeral (whole fraction : List CodePoint) (exponent : Option (Bool × List CodePoint)) :
    List CodePoint :=
  whole ++ (fractionText fraction ++ exponentText exponent)

/-- The digits after a point, if there are any. -/
def stated (fraction : List CodePoint) : Option (List CodePoint) :=
  if fraction.isEmpty then none else some fraction

/-- Digits of which there is one at least. -/
def AreDigits (ds : List CodePoint) : Prop := ds ≠ [] ∧ ∀ p ∈ ds, p.isDigit = true

/-- Parts that make a numeral. -/
structure IsNumeral (whole fraction : List CodePoint) (exponent : Option (Bool × List CodePoint)) :
    Prop where
  digits : AreDigits whole
  /-- Nothing follows a zero at the head. -/
  lead : whole.head? = some (.scalar '0') → whole = [.scalar '0']
  fractionDigits : ∀ p ∈ fraction, p.isDigit = true
  exponentDigits : ∀ e ∈ exponent, AreDigits e.2

/-- Nothing at the head of a text belongs to digits before it. -/
def EndsDigits (rest : List CodePoint) : Prop := ∀ p ∈ rest.head?, p.isDigit = false

theorem takeDigits_append {ds : List CodePoint} (digits : ∀ p ∈ ds, p.isDigit = true)
    (ends : EndsDigits rest) : takeDigits (ds ++ rest) = (ds, rest) := by
  have none : rest.takeWhile CodePoint.isDigit = [] ∧ rest.dropWhile CodePoint.isDigit = rest := by
    rcases rest with _ | ⟨p, rest⟩
    · exact ⟨rfl, rfl⟩
    · have other : ¬ p.isDigit = true := Bool.eq_false_iff.mp (ends p rfl)
      exact ⟨List.takeWhile_cons_of_neg other, List.dropWhile_cons_of_neg other⟩
  rw [takeDigits, List.takeWhile_append_of_pos digits, List.dropWhile_append_of_pos digits, none.1, none.2,
    List.append_nil]

theorem takeWhole_append (digits : AreDigits whole)
    (lead : whole.head? = some (.scalar '0') → whole = [.scalar '0']) (ends : EndsDigits rest) :
    takeWhole (whole ++ rest) = some (whole, rest) := by
  obtain ⟨d, ds, rfl⟩ := List.exists_cons_of_ne_nil digits.1
  rw [List.cons_append, takeWhole]
  by_cases zero : d.is '0' = true
  · have single := lead (congrArg some (CodePoint.is_iff.mp zero))
    obtain ⟨rfl, rfl⟩ := List.cons_eq_cons.mp single
    rw [if_pos zero]
    rfl
  · rw [if_neg zero, if_pos (digits.2 d List.mem_cons_self), ← List.cons_append,
      takeDigits_append digits.2 ends]

theorem takeFraction_point (digits : AreDigits fraction) (ends : EndsDigits rest) :
    takeFraction (.scalar '.' :: (fraction ++ rest)) = some (fraction, rest) := by
  rw [takeFraction, if_pos (CodePoint.is_iff.mpr rfl), takeDigits_append digits.2 ends]
  obtain ⟨d, ds, rfl⟩ := List.exists_cons_of_ne_nil digits.1
  rfl

theorem takeExponent_sign {e : Bool × List CodePoint} (digits : AreDigits e.2) (ends : EndsDigits rest) :
    takeExponent (.scalar 'e' :: (if e.1 then .scalar '-' else .scalar '+') :: (e.2 ++ rest))
      = some (exponentValue e, rest) := by
  have sign : takeSign ((if e.1 then .scalar '-' else .scalar '+') :: (e.2 ++ rest)) = (e.1, e.2 ++ rest) := by
    cases e.1 <;> rfl
  have marked : ((CodePoint.scalar 'e').is 'e' || (CodePoint.scalar 'e').is 'E') = true := rfl
  rw [takeExponent, if_pos marked, sign]
  dsimp only
  rw [takeDigits_append digits.2 ends]
  obtain ⟨negative, ds⟩ := e
  obtain ⟨d, ds, rfl⟩ := List.exists_cons_of_ne_nil digits.1
  rfl

/-- The blanks one by one. -/
theorem isBlank_iff {p : CodePoint} : isBlank p = true ↔
    p = .scalar ' ' ∨ p = .scalar '\t' ∨ p = .scalar '\n' ∨ p = .scalar '\r' := by
  simp only [isBlank, Bool.or_eq_true, CodePoint.is_iff, or_assoc]

theorem follows_comma (rest : List CodePoint) : Follows (.scalar ',' :: rest) := by
  rintro p ⟨⟩
  exact Or.inl rfl

theorem follows_bracket (rest : List CodePoint) : Follows (.scalar ']' :: rest) := by
  rintro p ⟨⟩
  exact Or.inr (Or.inl rfl)

theorem follows_brace (rest : List CodePoint) : Follows (.scalar '\x7d' :: rest) := by
  rintro p ⟨⟩
  exact Or.inr (Or.inr (Or.inl rfl))

/-- The signs and blanks that may follow a value, one by one. -/
theorem Follows.cases {p : CodePoint} (follows : Follows (p :: rest)) :
    p ∈ [',', ']', '\x7d', ' ', '\t', '\n', '\r'].map CodePoint.scalar := by
  have cases := follows p rfl
  rw [isBlank_iff] at cases
  simpa only [List.map_cons, List.map_nil, List.mem_cons, List.not_mem_nil, or_false] using cases

/-- Nothing that may follow a value belongs to a number. -/
theorem Follows.foreign {p : CodePoint} (follows : Follows (p :: rest)) :
    p.isDigit = false ∧ p.is '.' = false ∧ (p.is 'e' || p.is 'E') = false := by
  have each : ∀ q ∈ [',', ']', '\x7d', ' ', '\t', '\n', '\r'].map CodePoint.scalar,
      q.isDigit = false ∧ q.is '.' = false ∧ (q.is 'e' || q.is 'E') = false := by decide
  exact each p follows.cases

theorem Follows.endsDigits (follows : Follows rest) : EndsDigits rest := by
  intro p head
  obtain ⟨rest, rfl⟩ : ∃ others, rest = p :: others := List.head?_eq_some_iff.mp head
  exact follows.foreign.1

theorem Follows.takeFraction (follows : Follows rest) : takeFraction rest = none := by
  rcases rest with _ | ⟨p, rest⟩
  · rfl
  · rw [Json.takeFraction, follows.foreign.2.1, if_neg Bool.false_ne_true]

theorem Follows.takeExponent (follows : Follows rest) : takeExponent rest = none := by
  rcases rest with _ | ⟨p, rest⟩
  · rfl
  · rw [Json.takeExponent, follows.foreign.2.2, if_neg Bool.false_ne_true]

theorem takeOptional_exponentText {exponent : Option (Bool × List CodePoint)}
    (digits : ∀ e ∈ exponent, AreDigits e.2) (follows : Follows rest) :
    takeOptional takeExponent (exponentText exponent ++ rest) = (exponent.map exponentValue, rest) := by
  rcases exponent with _ | e
  · rw [exponentText, List.nil_append, takeOptional, follows.takeExponent]
    rfl
  · have taken := takeExponent_sign (digits e rfl) follows.endsDigits
    rw [takeOptional, exponentText, List.cons_append, List.cons_append, taken]
    rfl

theorem endsDigits_exponentText (exponent : Option (Bool × List CodePoint)) (follows : Follows rest) :
    EndsDigits (exponentText exponent ++ rest) := by
  rcases exponent with _ | ⟨negative, digits⟩
  · exact follows.endsDigits
  · intro p head
    obtain rfl := Option.some.inj head
    rfl

theorem takeOptional_fractionText (exponent : Option (Bool × List CodePoint))
    (digits : ∀ p ∈ fraction, p.isDigit = true) (follows : Follows rest) :
    takeOptional takeFraction (fractionText fraction ++ (exponentText exponent ++ rest))
      = (stated fraction, exponentText exponent ++ rest) := by
  rcases fraction with _ | ⟨d, ds⟩
  · have none : takeFraction (exponentText exponent ++ rest) = none := by
      rcases exponent with _ | ⟨negative, digits⟩
      · exact follows.takeFraction
      · rfl
    rw [fractionText, List.nil_append, takeOptional, none]
    rfl
  · have taken := takeFraction_point ⟨List.cons_ne_nil d ds, digits⟩ (endsDigits_exponentText exponent follows)
    rw [takeOptional, fractionText, List.cons_append, taken]
    · rfl
    · rintro ⟨⟩

/-- A numeral is read as the number of its parts, and nothing more is read. -/
theorem readUnsigned_numeral {exponent : Option (Bool × List CodePoint)}
    (parts : IsNumeral whole fraction exponent) (follows : Follows rest) :
    readUnsigned limits negative (numeral whole fraction exponent ++ rest)
      = some ((numberOf limits negative whole (stated fraction) (exponent.map exponentValue)).map
          fun j => (j, rest)) := by
  have ends : EndsDigits (fractionText fraction ++ (exponentText exponent ++ rest)) := by
    rcases fraction with _ | ⟨d, ds⟩
    · exact endsDigits_exponentText exponent follows
    · intro p head
      obtain rfl := Option.some.inj head
      rfl
  have whole := takeWhole_append parts.digits parts.lead ends
  rw [numeral, List.append_assoc, List.append_assoc, readUnsigned, whole]
  dsimp only
  rw [takeOptional_fractionText exponent parts.fractionDigits follows]
  dsimp only
  rw [takeOptional_exponentText parts.exponentDigits follows]

/-! ### Scalars -/

theorem takeWord_append (word : String) (rest : List CodePoint) :
    takeWord word ((Text.ofString word).points ++ rest) = some rest := by
  have starts : (Text.ofString word).points.isPrefixOf ((Text.ofString word).points ++ rest) = true :=
    List.isPrefixOf_iff_prefix.mpr (List.prefix_append _ rest)
  rw [takeWord, if_pos starts, List.drop_left]

theorem takeWord_of_head {p : CodePoint} (ps : List CodePoint) (word : String) {c : Char} {cs : List CodePoint}
    (spelled : (Text.ofString word).points = CodePoint.scalar c :: cs) (differs : p.is c = false) :
    takeWord word (p :: ps) = none := by
  have apart : ((c : CodePoint) == p) = false := (BEq.comm).trans differs
  unfold takeWord
  rw [spelled]
  simp [List.isPrefixOf, apart]

theorem takeWord_of_second {p q : CodePoint} (ps : List CodePoint) (word : String) {c d : Char}
    {cs : List CodePoint} (spelled : (Text.ofString word).points = CodePoint.scalar c :: .scalar d :: cs)
    (differs : q.is d = false) : takeWord word (p :: q :: ps) = none := by
  have apart : ((d : CodePoint) == q) = false := (BEq.comm).trans differs
  unfold takeWord
  rw [spelled]
  simp [List.isPrefixOf, apart]

/-- A sign that only a minus is written for. -/
def signText : Bool → List CodePoint
  | true => [.scalar '-']
  | false => []

/-- A numeral with a sign is read as the number of its parts. -/
theorem readScalar_numeral {exponent : Option (Bool × List CodePoint)} (negative : Bool)
    (parts : IsNumeral whole fraction exponent) (follows : Follows rest) :
    readScalar limits (signText negative ++ (numeral whole fraction exponent ++ rest))
      = (numberOf limits negative whole (stated fraction) (exponent.map exponentValue)).map
          fun j => (j, rest) := by
  have read : readUnsigned limits negative (numeral whole fraction exponent ++ rest) = _ :=
    readUnsigned_numeral parts follows
  obtain ⟨d, ds, spelled⟩ := List.exists_cons_of_ne_nil parts.digits.1
  have digit : d.isDigit = true := parts.digits.2 d (spelled ▸ List.mem_cons_self)
  obtain ⟨qs, begun⟩ : ∃ qs, numeral whole fraction exponent ++ rest = d :: qs := by
    rw [numeral, spelled]
    exact ⟨_, rfl⟩
  rw [begun] at read ⊢
  cases negative
  · show readScalar limits (d :: qs) = _
    unfold readScalar
    rw [takeWord_of_isDigit digit qs "null" rfl rfl,
      takeWord_of_isDigit digit qs "true" rfl rfl,
      takeWord_of_isDigit digit qs "false" rfl rfl,
      takeWord_of_isDigit digit qs "NaN" rfl rfl,
      takeWord_of_isDigit digit qs "Infinity" rfl rfl,
      takeWord_of_isDigit digit qs "-Infinity" rfl rfl]
    dsimp only
    rw [is_eq_false_of_isDigit digit '-' rfl, if_neg Bool.false_ne_true, read]
  · show readScalar limits (.scalar '-' :: d :: qs) = _
    unfold readScalar
    rw [takeWord_of_head (d :: qs) "null" rfl rfl, takeWord_of_head (d :: qs) "true" rfl rfl,
      takeWord_of_head (d :: qs) "false" rfl rfl, takeWord_of_head (d :: qs) "NaN" rfl rfl,
      takeWord_of_head (d :: qs) "Infinity" rfl rfl,
      takeWord_of_second qs "-Infinity" rfl (is_eq_false_of_isDigit digit 'I' rfl)]
    dsimp only
    rw [if_pos (CodePoint.is_iff.mpr rfl), read]

/-- The digits of a natural number make a numeral. -/
theorem isNumeral_ofNat (n : Nat) : IsNumeral (Text.ofNat n).points [] none where
  digits := ⟨List.map_eq_nil_iff.not.mpr Nat.toDigits_ne_nil, fun _ => Text.isDigit_of_mem_ofNat⟩
  lead := by
    intro zero
    rcases Nat.eq_zero_or_pos n with rfl | some
    · rfl
    · have lead := Text.head?_toDigits_ne some
      rw [Text.ofNat, List.head?_map] at zero
      obtain ⟨c, head, same⟩ := Option.map_eq_some_iff.mp zero
      rw [CodePoint.scalar.inj same] at head
      exact absurd head lead
  fractionDigits := nofun
  exponentDigits := nofun

/-- The digits of a natural number are read as the number, after a minus as its negative. -/
theorem readScalar_nat {n : Nat} (negative : Bool) (short : (Nat.toDigits 10 n).length ≤ limits.digits)
    (follows : Follows rest) : readScalar limits (signText negative ++ ((Text.ofNat n).points ++ rest))
      = .ok (int (if negative then -(n : Int) else n), rest) := by
  have read : readScalar limits (signText negative ++ (numeral (Text.ofNat n).points [] none ++ rest)) = _ :=
    readScalar_numeral negative (isNumeral_ofNat n) follows
  have within : ¬ limits.digits < (Text.ofNat n).points.length := by
    rw [Text.ofNat, List.length_map]
    omega
  rw [numeral, fractionText, exponentText, List.append_nil, List.append_nil] at read
  rw [read]
  show Except.map _ (if limits.digits < (Text.ofNat n).points.length then _ else _) = _
  rw [if_neg within, Text.digitsToNat_ofNat]
  rfl

/-- An integer of no more digits than are read is read as itself. -/
theorem readScalar_int {n : Int} (short : (Nat.toDigits 10 n.natAbs).length ≤ limits.digits)
    (follows : Follows rest) :
    readScalar limits ((Text.ofInt n).points ++ rest) = .ok (int n, rest) := by
  cases n with
  | ofNat n => exact readScalar_nat false short follows
  | negSucc n => exact readScalar_nat true short follows

end Json

/-! ### Floating-point numbers -/

/-- A numeral with a point or an exponent that says as much as digits with a place of the point. -/
def IsLayOut (ps : List CodePoint) (digits : Nat) (place : Int) : Prop :=
  ∃ whole fraction exponent, ps = Json.numeral whole fraction exponent ∧
    Json.IsNumeral whole fraction exponent ∧ (fraction ≠ [] ∨ exponent ≠ none) ∧
    ∃ k : Nat, Text.digitsToNat (whole ++ fraction) = digits * 10 ^ k ∧
      (exponent.map Json.exponentValue).getD 0 - fraction.length = place - k

variable {ds : List Char} {place : Int}

theorem isLayOut_fraction (digits : ∀ c ∈ ds, c.isDigit = true) (small : place ≤ 0) (some : ds ≠ []) :
    IsLayOut (('0' :: '.' :: (Text.zeros (-place).toNat ++ ds)).map .scalar)
      (Text.digitsToNat (ds.map .scalar)) (place - ds.length) := by
  have zeros : (Text.zeros (-place).toNat).map CodePoint.scalar
      = List.replicate (-place).toNat (.scalar '0') := List.map_replicate
  have parts : ∀ c ∈ Text.zeros (-place).toNat ++ ds, c.isDigit = true := by
    intro c member
    rcases List.mem_append.mp member with zero | digit
    · rw [List.eq_of_mem_replicate zero]
      rfl
    · exact digits c digit
  have some' : (Text.zeros (-place).toNat ++ ds).map CodePoint.scalar ≠ [] := by
    rw [List.map_append]
    exact List.append_ne_nil_of_right_ne_nil _ (List.map_eq_nil_iff.not.mpr some)
  refine ⟨[.scalar '0'], (Text.zeros (-place).toNat ++ ds).map .scalar, none, ?_,
    ⟨⟨List.cons_ne_nil _ _, ?_⟩, fun _ => rfl, Text.isDigit_of_mem_map parts, nofun⟩, Or.inl some', 0, ?_, ?_⟩
  · obtain ⟨d, rest, spelled⟩ := List.exists_cons_of_ne_nil some'
    rw [Json.numeral, Json.exponentText, List.append_nil, List.map_cons, List.map_cons, spelled]
    rfl
  · intro p member
    rw [List.mem_singleton.mp member]
    rfl
  · have zero : Text.digitsToNat [.scalar '0'] = 0 := rfl
    rw [List.map_append, zeros, Text.digitsToNat_append, zero, Nat.zero_mul, Nat.zero_add,
      Text.digitsToNat_append, Text.digitsToNat_zeros, Nat.zero_mul, Nat.zero_add, Nat.pow_zero, Nat.mul_one]
  · rw [List.length_map, List.length_append, Text.zeros, List.length_replicate]
    show (0 : Int) - _ = _
    push_cast
    omega

theorem lead_of_head?_ne {ds : List Char} (lead : ds.head? ≠ some '0') {ps : List CodePoint} :
    (ds.map CodePoint.scalar).head? = some (.scalar '0') → ps = [.scalar '0'] := by
  intro zero
  rw [List.head?_map] at zero
  obtain ⟨c, head, same⟩ := Option.map_eq_some_iff.mp zero
  rw [CodePoint.scalar.inj same] at head
  exact absurd head lead

theorem isLayOut_whole (digits : ∀ c ∈ ds, c.isDigit = true) (lead : ds.head? ≠ some '0') {before : Nat}
    (some : 0 < before) (fits : ds.length ≤ before) (none : ds = [] → before = 1) :
    IsLayOut ((ds ++ Text.zeros (before - ds.length) ++ ['.', '0']).map .scalar)
      (Text.digitsToNat (ds.map .scalar)) (before - ds.length) := by
  have zeros (n : Nat) : (Text.zeros n).map CodePoint.scalar = List.replicate n (.scalar '0') :=
    List.map_replicate
  have parts : ∀ c ∈ ds ++ Text.zeros (before - ds.length), c.isDigit = true := by
    intro c member
    rcases List.mem_append.mp member with digit | zero
    · exact digits c digit
    · rw [List.eq_of_mem_replicate zero]
      rfl
  have begun : (ds ++ Text.zeros (before - ds.length)).map CodePoint.scalar ≠ [] := by
    intro empty
    have lengths := congrArg List.length empty
    rw [List.length_map, List.length_append, Text.zeros, List.length_replicate, List.length_nil] at lengths
    omega
  refine ⟨(ds ++ Text.zeros (before - ds.length)).map .scalar, [.scalar '0'], Option.none, ?_,
    ⟨⟨begun, Text.isDigit_of_mem_map parts⟩, ?_, ?_, fun e given => absurd given (Option.not_mem_none e)⟩,
    Or.inl (List.cons_ne_nil _ _), before - ds.length + 1, ?_, ?_⟩
  · rw [Json.numeral, Json.exponentText, List.append_nil, List.map_append]
    rfl
  · rcases ds with _ | ⟨d, ds⟩
    · obtain rfl := none rfl
      exact fun _ => rfl
    · exact lead_of_head?_ne lead
  · intro p member
    rw [List.mem_singleton.mp member]
    rfl
  · have zero : [CodePoint.scalar '0'] = List.replicate 1 (.scalar '0') := rfl
    rw [List.map_append, zeros, zero, List.append_assoc, List.replicate_append_replicate,
      Text.digitsToNat_append, Text.digitsToNat_zeros, List.length_replicate, Nat.add_zero]
  · show (0 : Int) - 1 = _
    push_cast
    omega

theorem isLayOut_point (digits : ∀ c ∈ ds, c.isDigit = true) (lead : ds.head? ≠ some '0') {before : Nat}
    (some : 0 < before) (more : before < ds.length) :
    IsLayOut ((ds.take before ++ '.' :: ds.drop before).map .scalar)
      (Text.digitsToNat (ds.map .scalar)) (before - ds.length) := by
  have front : ds.take before ≠ [] := by
    intro empty
    have length := congrArg List.length empty
    rw [List.length_take, List.length_nil] at length
    omega
  have back : ds.drop before ≠ [] := by
    intro empty
    have length := congrArg List.length empty
    rw [List.length_drop, List.length_nil] at length
    omega
  have front' : (ds.take before).map CodePoint.scalar ≠ [] := List.map_eq_nil_iff.not.mpr front
  have back' : (ds.drop before).map CodePoint.scalar ≠ [] := List.map_eq_nil_iff.not.mpr back
  have head : (ds.take before).head? ≠ Option.some '0' := by
    rcases ds with _ | ⟨d, ds⟩
    · exact absurd List.drop_nil back
    · obtain ⟨n, rfl⟩ : ∃ n, before = n + 1 := ⟨before - 1, by omega⟩
      exact lead
  refine ⟨(ds.take before).map .scalar, (ds.drop before).map .scalar, none, ?_,
    ⟨⟨front', Text.isDigit_of_mem_map fun c member => digits c (List.mem_of_mem_take member)⟩,
      lead_of_head?_ne head, Text.isDigit_of_mem_map fun c member => digits c (List.mem_of_mem_drop member),
      nofun⟩, Or.inl back', 0, ?_, ?_⟩
  · obtain ⟨d, rest, spelled⟩ := List.exists_cons_of_ne_nil back'
    rw [Json.numeral, Json.exponentText, List.append_nil, List.map_append, List.map_cons, spelled]
    rfl
  · rw [← List.map_append, List.take_append_drop, Nat.pow_zero, Nat.mul_one]
  · rw [List.length_map, List.length_drop]
    show (0 : Int) - _ = _
    push_cast
    omega

/-- The digits of an exponent, with a zero before a single one. -/
theorem exponentValue_shown (e : Int) (width : Nat) :
    Json.exponentValue (decide (e < 0), (Text.zeros (width - (Nat.toDigits 10 e.natAbs).length)
      ++ Nat.toDigits 10 e.natAbs).map .scalar) = e := by
  have zeros (n : Nat) : (Text.zeros n).map CodePoint.scalar = List.replicate n (.scalar '0') :=
    List.map_replicate
  have value : Text.digitsToNat ((Nat.toDigits 10 e.natAbs).map .scalar) = e.natAbs :=
    Text.digitsToNat_ofNat e.natAbs
  rw [Json.exponentValue]
  dsimp only
  rw [List.map_append, zeros, Text.digitsToNat_append, Text.digitsToNat_zeros, Nat.zero_mul, Nat.zero_add, value]
  split
  next negative =>
    have below := of_decide_eq_true negative
    omega
  next positive =>
    have above := of_decide_eq_false (Bool.eq_false_iff.mpr positive)
    omega

theorem isLayOut_exponent {d : Char} (digits : ∀ c ∈ d :: ds, c.isDigit = true) (lead : d ≠ '0')
    (width : Nat) :
    IsLayOut ((d :: (if ds.isEmpty then [] else '.' :: ds) ++ 'e' :: (if place - 1 < 0 then '-' else '+')
        :: (Text.zeros (width - (Nat.toDigits 10 (place - 1).natAbs).length)
          ++ Nat.toDigits 10 (place - 1).natAbs)).map .scalar)
      (Text.digitsToNat ((d :: ds).map .scalar)) (place - (d :: ds).length) := by
  have shown : ∀ c ∈ Text.zeros (width - (Nat.toDigits 10 (place - 1).natAbs).length)
      ++ Nat.toDigits 10 (place - 1).natAbs, c.isDigit = true := by
    intro c member
    rcases List.mem_append.mp member with zero | digit
    · rw [List.eq_of_mem_replicate zero]
      rfl
    · exact Text.isDigit_of_mem_toDigits c digit
  have some : (Text.zeros (width - (Nat.toDigits 10 (place - 1).natAbs).length)
      ++ Nat.toDigits 10 (place - 1).natAbs).map CodePoint.scalar ≠ [] :=
    List.map_eq_nil_iff.not.mpr (List.append_ne_nil_of_right_ne_nil _ Nat.toDigits_ne_nil)
  have value := exponentValue_shown (place - 1) width
  generalize Text.zeros (width - (Nat.toDigits 10 (place - 1).natAbs).length)
    ++ Nat.toDigits 10 (place - 1).natAbs = es at shown some value ⊢
  refine ⟨[.scalar d], ds.map .scalar, Option.some (decide (place - 1 < 0), es.map .scalar), ?_,
    ⟨⟨List.cons_ne_nil _ _, ?_⟩, fun zero => absurd (CodePoint.scalar.inj (Option.some.inj zero)) lead,
      Text.isDigit_of_mem_map fun c member => digits c (List.mem_cons_of_mem d member), ?_⟩,
    Or.inr (Option.some_ne_none _), 0, ?_, ?_⟩
  · have sign : CodePoint.scalar (if place - 1 < 0 then '-' else '+')
        = if decide (place - 1 < 0) = true then .scalar '-' else .scalar '+' := by
      by_cases negative : place - 1 < 0
      · rw [if_pos negative, if_pos (decide_eq_true negative)]
      · rw [if_neg negative, if_neg (by rw [decide_eq_true_eq]; exact negative)]
    rw [Json.numeral, Json.exponentText, ← sign]
    rcases ds with _ | ⟨c, ds⟩
    · rfl
    · show _ = [CodePoint.scalar d] ++ ((.scalar '.' :: (c :: ds).map .scalar) ++ _)
      rw [if_neg (by simp), List.map_append]
      rfl
  · intro p member
    rw [List.mem_singleton.mp member]
    exact Text.isDigit_scalar (digits d List.mem_cons_self)
  · intro e member
    obtain rfl := Option.some.inj member
    exact ⟨some, Text.isDigit_of_mem_map shown⟩
  · rw [List.singleton_append, ← List.map_cons, Nat.pow_zero, Nat.mul_one]
  · rw [Option.map_some, value, List.length_map, List.length_cons]
    show place - 1 - _ = _
    push_cast
    omega

/-- The layout of digits is a numeral that says them. -/
theorem isLayOut_layOut (digits : ∀ c ∈ ds, c.isDigit = true) (lead : ds.head? ≠ some '0')
    (none : ds = [] → place = 1) :
    IsLayOut ((DecimalStyle.output.layOut ds place).map .scalar) (Text.digitsToNat (ds.map .scalar))
      (place - ds.length) := by
  unfold DecimalStyle.layOut
  split
  next positional =>
    split
    next small =>
      refine isLayOut_fraction digits small fun empty => ?_
      have single := none empty
      omega
    next large =>
      obtain ⟨before, rfl⟩ : ∃ before : Nat, place = before := ⟨place.toNat, by omega⟩
      dsimp only
      rw [Int.toNat_natCast]
      split
      next fits =>
        exact isLayOut_whole digits lead (by omega) fits fun empty => by exact_mod_cast none empty
      next more =>
        exact isLayOut_point digits lead (by omega) (by omega)
  next scientific =>
    rcases ds with _ | ⟨d, ds⟩
    · have single := none rfl
      exact absurd (by rw [single]; decide) scientific
    · have lead' : d ≠ '0' := fun zero => lead (congrArg some zero)
      rcases ds with _ | ⟨c, ds⟩ <;> exact isLayOut_exponent digits lead' DecimalStyle.output.exponentWidth

/-- A decimal is laid out without the zeros at the end of its digits. -/
theorem isLayOut_dropped {shortest : Nat × Int} (found : shortest = (0, 0) ∨ 0 < shortest.1) :
    ∃ (digits k : Nat), shortest.1 = digits * 10 ^ k ∧
      IsLayOut ((DecimalStyle.output.layOut (Text.dropTrailingZeros (Nat.toDigits 10 shortest.1))
        ((Nat.toDigits 10 shortest.1).length + shortest.2)).map .scalar) digits (shortest.2 + k) := by
  obtain ⟨k, parts⟩ := Text.exists_zeros (Nat.toDigits 10 shortest.1)
  have length := congrArg List.length parts
  rw [List.length_append, Text.zeros, List.length_replicate] at length
  have digits : ∀ c ∈ Text.dropTrailingZeros (Nat.toDigits 10 shortest.1), c.isDigit = true := by
    intro c member
    have among : c ∈ Nat.toDigits 10 shortest.1 := parts ▸ List.mem_append_left _ member
    exact Text.isDigit_of_mem_toDigits c among
  have value : shortest.1
      = Text.digitsToNat ((Text.dropTrailingZeros (Nat.toDigits 10 shortest.1)).map .scalar) * 10 ^ k := by
    have zeros : (Text.zeros k).map CodePoint.scalar = List.replicate k (.scalar '0') := List.map_replicate
    have whole : Text.digitsToNat ((Nat.toDigits 10 shortest.1).map .scalar) = shortest.1 :=
      Text.digitsToNat_ofNat shortest.1
    rw [parts, List.map_append, zeros, Text.digitsToNat_append, Text.digitsToNat_zeros, List.length_replicate,
      Nat.add_zero] at whole
    exact whole.symm
  have lead : (Text.dropTrailingZeros (Nat.toDigits 10 shortest.1)).head? ≠ some '0' := by
    rcases found with none | some
    · rw [none]
      decide
    · rw [(Text.head?_dropTrailingZeros some).1]
      exact Text.head?_toDigits_ne some
  have single : Text.dropTrailingZeros (Nat.toDigits 10 shortest.1) = [] →
      ((Nat.toDigits 10 shortest.1).length + shortest.2 : Int) = 1 := by
    intro empty
    rcases found with none | some
    · rw [none]
      decide
    · exact absurd empty (Text.head?_dropTrailingZeros some).2
  refine ⟨_, k, value, ?_⟩
  have laid := isLayOut_layOut digits lead single
  have place : ((Nat.toDigits 10 shortest.1).length + shortest.2
      - (Text.dropTrailingZeros (Nat.toDigits 10 shortest.1)).length : Int) = shortest.2 + k := by
    rw [length]
    push_cast
    ring
  rwa [place] at laid

namespace Json

variable {limits : ReadLimits} {rest : List CodePoint}

/-- A numeral with a point or an exponent is read as the nearest floating-point number. -/
theorem readScalar_layOut {ps : List CodePoint} {digits : Nat} {e : Int} (negative : Bool)
    (laid : IsLayOut ps digits e) (follows : Follows rest) :
    readScalar limits (signText negative ++ (ps ++ rest))
      = .ok (float (Binary64.ofDecimal negative digits e), rest) := by
  obtain ⟨whole, fraction, exponent, rfl, parts, floats, k, value, place⟩ := laid
  rw [readScalar_numeral negative parts follows]
  have number : numberOf limits negative whole (stated fraction) (exponent.map exponentValue)
      = .ok (float (Binary64.ofDecimal negative (Text.digitsToNat (whole ++ fraction))
        ((exponent.map exponentValue).getD 0 - fraction.length))) := by
    rcases fraction with _ | ⟨d, fraction⟩
    · rcases exponent with _ | exponent
      · rcases floats with none | none <;> exact absurd rfl none
      · rfl
    · rcases exponent with _ | exponent <;> rfl
  rw [number, value, place, Binary64.ofDecimal_mul_pow]
  rfl

/-- The text of a finite number is the layout of digits that say what is read of it. -/
theorem floatText_finite {x : Binary64} {negative : Bool} {m : Nat} {e : Int}
    (view : x.view = .finite negative m e) :
    ∃ ps digits place, (floatText x).points = signText negative ++ ps ∧ IsLayOut ps digits place ∧
      x.reread = Binary64.ofDecimal negative digits place := by
  have text : floatText x = Binary64.finiteText .output negative m e := by
    rw [floatText, Binary64.toText, view]
  have signed (body : List Char) :
      (Text.ofChars (if negative then '-' :: body else body)).points = signText negative ++ body.map .scalar := by
    cases negative <;> rfl
  rw [text, Binary64.finiteText, signed]
  by_cases zero : m = 0
  · have number : x.reread = Binary64.ofDecimal negative 0 1 := by
      rw [Binary64.ofDecimal_zero, Binary64.reread, view]
      exact if_pos zero
    have none : ∀ c ∈ ([] : List Char), c.isDigit = true := List.forall_mem_nil _
    have headless : ([] : List Char).head? ≠ some '0' := Option.some_ne_none _ |>.symm
    have laid : IsLayOut (['0', '.', '0'].map .scalar) 0 1 :=
      isLayOut_whole none headless Nat.one_pos (Nat.zero_le 1) fun _ => rfl
    rw [if_pos zero]
    exact ⟨_, 0, 1, rfl, laid, number⟩
  · have number : x.reread = Binary64.ofDecimal negative
        (Binary64.shortestOf (Binary64.scaleRatio m 1 e).1 (Binary64.scaleRatio m 1 e).2).1
        (Binary64.shortestOf (Binary64.scaleRatio m 1 e).1 (Binary64.scaleRatio m 1 e).2).2 := by
      rw [Binary64.reread, view]
      exact if_neg zero
    have found := Binary64.shortestOf_pos view zero
    rw [if_neg zero, number]
    dsimp only
    generalize Binary64.shortestOf (Binary64.scaleRatio m 1 e).1 (Binary64.scaleRatio m 1 e).2 = shortest
      at found ⊢
    obtain ⟨digits, k, value, laid⟩ := isLayOut_dropped found
    have shifted : Binary64.ofDecimal negative (digits * 10 ^ k) (shortest.2 + k - k)
        = Binary64.ofDecimal negative digits (shortest.2 + k) := Binary64.ofDecimal_mul_pow digits k _
    rw [← value, add_sub_cancel_right] at shifted
    exact ⟨_, digits, shortest.2 + k, rfl, laid, shifted⟩

/-- A floating-point number is read as the number that its text says. -/
theorem readScalar_float (x : Binary64) (follows : Follows rest) :
    readScalar limits ((floatText x).points ++ rest) = .ok (float x.reread, rest) := by
  cases view : x.view with
  | nan =>
    rw [floatText, Binary64.reread, view]
    unfold readScalar
    rw [takeWord_append "NaN" rest]
    rfl
  | infinite negative =>
    have number : x.reread = Binary64.infinity negative := by rw [Binary64.reread, view]
    rw [number]
    unfold readScalar
    cases negative
    · have text : floatText x = Text.ofString "Infinity" := by
        rw [floatText, view]
        rfl
      rw [text, takeWord_append "Infinity" rest]
      rfl
    · have text : floatText x = Text.ofString "-Infinity" := by
        rw [floatText, view]
        rfl
      rw [text, takeWord_append "-Infinity" rest]
      rfl
  | finite negative m e =>
    obtain ⟨ps, digits, place, text, laid, number⟩ := floatText_finite view
    rw [text, number, List.append_assoc]
    exact readScalar_layOut negative laid follows

end Json

end GuardedTools
