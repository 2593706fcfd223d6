import GuardedTools.Proofs.Basic
import GuardedTools.Proofs.Json.ReadLimits
import GuardedTools.Yaml.Token.Reader
import Mathlib.Tactic.Ring

/-!
# Why there are no more tokens

The tokens of a YAML text end in a fault.  Mostly the text is malformed, but two faults are of another
kind, and each has a cause in the text (`Yaml.tokens_fault`): an escape with eight digits for a number above
the last code point, and a directive with a version of more digits than are read.

The invariant of everything that reads from a cursor is `Cursor.Reads`: what is left is a suffix of what was
there, and what is wrong with what is left is wrong with the whole.  The steps of a layout keep the same of
its cursor (`Layout.Goes`).
-/

namespace GuardedTools

/-- A result of which something holds, or an error of which something holds. -/
def Settles {ε α : Type} (refused : ε → Prop) (made : α → Prop) : Except ε α → Prop
  | .ok a => made a
  | .error e => refused e

namespace Settles

variable {ε α β : Type} {refused refused' : ε → Prop} {made : α → Prop} {made' : β → Prop} {x : Except ε α}

theorem bind (h : Settles refused made x) {f : α → Except ε β}
    (next : ∀ a, made a → Settles refused made' (f a)) : Settles refused made' (x >>= f) := by
  cases x with
  | error e => exact h
  | ok a => exact next a h

theorem imp (h : Settles refused made x) {other : α → Prop} (refuses : ∀ e, refused e → refused' e)
    (makes : ∀ a, made a → other a) : Settles refused' other x := by
  cases x with
  | error e => exact refuses e h
  | ok a => exact makes a h

theorem map (h : Settles refused made x) {f : α → β} (makes : ∀ a, made a → made' (f a)) :
    Settles refused made' (x.map f) := by
  cases x with
  | error e => exact h
  | ok a => exact makes a h

end Settles

namespace Yaml

/-! ### Causes -/

/-- What a directive with a version begins with. -/
def versionStart : List CodePoint := .scalar '%' :: (Text.ofString "YAML").points

/-- A fault with the tokens of a text is due to the text: either it is malformed, or what the fault speaks
of is written in it. -/
inductive TokenFault (ps : List CodePoint) : Fault → Prop
  | malformed : TokenFault ps .malformed
  /-- An escape for a number above the last code point. -/
  | escape {digits : List CodePoint} {n : Nat}
      (written : .scalar '\\' :: .scalar 'U' :: digits <:+: ps) (eight : digits.length = 8)
      (number : hexNumber? digits = some n) (beyond : 0x10FFFF < n) :
      TokenFault ps (.badCodePoint (0x7FFFFFFF < n))
  /-- A version with too many digits. -/
  | version {between digits : List CodePoint} (written : versionStart ++ between ++ digits <:+: ps)
      (each : ∀ d ∈ digits, d.isDigit = true) (long : 4300 < digits.length) :
      TokenFault ps (.tooManyDigits digits.length)

theorem TokenFault.mono {ps qs : List CodePoint} (within : ps <:+: qs) {f : Fault} (h : TokenFault ps f) :
    TokenFault qs f := by
  cases h with
  | malformed => exact .malformed
  | escape written eight number beyond => exact .escape (written.trans within) eight number beyond
  | version written each long => exact .version (written.trans within) each long

/-! ### Cursors -/

namespace Cursor

@[simp] theorem next_rest (c : Cursor) : c.next.rest = c.rest.drop 1 := by
  unfold next
  split
  next none => rw [none, List.drop_nil]
  next p rest some =>
    rw [some]
    dsimp only
    split_ifs <;> rfl

@[simp] theorem skip_rest (c : Cursor) (n : Nat) : (c.skip n).rest = c.rest.drop n := by
  induction n generalizing c with
  | zero => rfl
  | succ n ih => rw [skip, ih, next_rest, List.drop_drop, Nat.add_comm]

/-- What a cursor takes and what is left after it. -/
theorem takeWhile_append (c : Cursor) (within : CodePoint → Bool) :
    (c.takeWhile within).1 ++ (c.takeWhile within).2.rest = c.rest := by
  rw [takeWhile]
  dsimp only
  rw [skip_rest]
  exact List.prefix_iff_eq_append.mp (List.takeWhile_prefix within)

theorem takeWhile_suffix (c : Cursor) (within : CodePoint → Bool) :
    (c.takeWhile within).2.rest <:+ c.rest := ⟨_, c.takeWhile_append within⟩

theorem skip_suffix (c : Cursor) (n : Nat) : (c.skip n).rest <:+ c.rest := by
  rw [skip_rest]
  exact List.drop_suffix n _

theorem next_suffix (c : Cursor) : c.next.rest <:+ c.rest := c.skip_suffix 1

theorem lineBreak?_suffix {c d : Cursor} {p : CodePoint} (h : c.lineBreak? = some (p, d)) :
    d.rest <:+ c.rest := by
  have single {q : CodePoint} (h : lineBreak?.single c q = some (p, d)) : d.rest <:+ c.rest := by
    unfold lineBreak?.single at h
    split_ifs at h
    · cases h
      exact c.next_suffix
    · cases h
      exact c.next_suffix
  unfold lineBreak? at h
  split at h
  · split_ifs at h
    · cases h
      exact c.skip_suffix 2
    · exact single h
  · exact single h
  · cases h

theorem skipBreak_suffix (c : Cursor) : c.skipBreak.rest <:+ c.rest := by
  unfold skipBreak
  cases found : c.lineBreak? with
  | none => exact List.suffix_rfl
  | some taken => exact lineBreak?_suffix found

theorem skipComment_suffix (c : Cursor) : c.skipComment.rest <:+ c.rest := by
  unfold skipComment
  split
  · exact c.takeWhile_suffix _
  · exact List.suffix_rfl

/-- The next code point is where the text goes on. -/
theorem rest_of_peek {c : Cursor} {p : CodePoint} (h : c.peek = some p) : c.rest = p :: c.next.rest := by
  obtain ⟨rest, found⟩ := List.head?_eq_some_iff.mp h
  rw [next_rest, found]
  rfl

/-- What is read from a place leads on from there, or it ends in a fault that is due to what is left. -/
def Reads {α : Type} (c : Cursor) : Except Fault (α × Cursor) → Prop :=
  Settles (TokenFault c.rest) fun a => a.2.rest <:+ c.rest

namespace Reads

variable {α β : Type} {c d : Cursor} {x : Except Fault (α × Cursor)}

theorem refused : c.Reads (.error .malformed : Except Fault (α × Cursor)) := TokenFault.malformed

theorem within (h : d.Reads x) {ps : List CodePoint} (on : d.rest <:+ ps) :
    Settles (TokenFault ps) (fun a => a.2.rest <:+ ps) x :=
  Settles.imp h (fun _ => TokenFault.mono on.isInfix) fun _ => (·.trans on)

/-- Something that is read further on. -/
theorem onward (h : d.Reads x) (on : d.rest <:+ c.rest) : c.Reads x := h.within on

theorem bind (h : c.Reads x) {f : α × Cursor → Except Fault (β × Cursor)}
    (next : ∀ a (d : Cursor), d.rest <:+ c.rest → c.Reads (f (a, d))) : c.Reads (x >>= f) :=
  Settles.bind h fun a => next a.1 a.2

end Reads

end Cursor

/-! ### Marks -/

section Marks

open Cursor (Reads)

theorem escapedBytes_reads (n : Nat) (c : Cursor) : c.Reads (escapedBytes n c) := by
  induction n generalizing c with
  | zero => exact List.suffix_rfl
  | succ n ih =>
    unfold escapedBytes
    split_ifs
    · exact List.suffix_rfl
    · split
      · exact ((ih (c.skip 3)).onward (c.skip_suffix 3)).bind fun _ _ on => on
      · exact .refused

theorem tagTextUpTo_reads (n : Nat) (c : Cursor) : c.Reads (tagTextUpTo n c) := by
  induction n generalizing c with
  | zero => exact List.suffix_rfl
  | succ n ih =>
    have piece := c.takeWhile_suffix isTagPoint
    unfold tagTextUpTo
    dsimp only
    split_ifs
    · refine ((escapedBytes_reads _ _).onward piece).bind fun bytes d on => ?_
      split
      · exact .refused
      · exact ((ih d).onward on).bind fun _ _ on => on
    · exact piece

theorem tagText_reads (c : Cursor) : c.Reads (tagText c) := by
  refine (tagTextUpTo_reads _ c).bind fun ps d on => ?_
  dsimp only
  split_ifs
  · exact .refused
  · exact on

theorem tagHandle_reads (c : Cursor) : c.Reads (tagHandle c) := by
  unfold tagHandle
  split_ifs
  · exact .refused
  · exact c.next_suffix
  · have name := (c.next.takeWhile_suffix isNamePoint).trans c.next_suffix
    dsimp only
    split_ifs
    · exact (Cursor.next_suffix _).trans name
    · exact .refused

theorem tagToken_reads (c : Cursor) : c.Reads (tagToken c) := by
  have finish (written : WrittenTag) {d : Cursor} (on : d.rest <:+ c.rest) : c.Reads (do
      if !endsWord d.peek then throw .malformed
      return (Token.tag written, d)) := by
    dsimp only
    split_ifs
    · exact .refused
    · exact on
  unfold tagToken
  dsimp only
  split_ifs
  · refine ((tagText_reads _).onward (c.skip_suffix 2)).bind fun suffix d on => ?_
    dsimp only
    split_ifs
    · exact .refused
    · exact finish _ (d.next_suffix.trans on)
  · exact finish _ c.next_suffix
  · refine (tagHandle_reads c).bind fun handle d on => ?_
    exact ((tagText_reads d).onward on).bind fun _ _ on => finish _ on
  · exact ((tagText_reads _).onward c.next_suffix).bind fun _ _ on => finish _ on

theorem nameOf_reads (c : Cursor) : c.Reads (nameOf c) := by
  have name := (c.next.takeWhile_suffix isNamePoint).trans c.next_suffix
  unfold nameOf
  dsimp only
  split_ifs
  · exact .refused
  · exact name

/-- A version that is read after the beginning of its directive. -/
theorem versionNumber_reads {c d e : Cursor} (start : c.rest = versionStart ++ d.rest)
    (on : e.rest <:+ d.rest) : Settles (TokenFault c.rest) (fun a => a.2.rest <:+ d.rest) (versionNumber e) := by
  unfold versionNumber
  dsimp only
  split
  · exact TokenFault.malformed
  · split
    next long =>
      -- what stands between the name of the directive and the digits is part of the cause
      obtain ⟨between, before⟩ := on
      have digits := e.takeWhile_append CodePoint.isDigit
      have written : versionStart ++ between ++ (e.takeWhile CodePoint.isDigit).1 <:+: c.rest := by
        rw [start, ← before, ← digits, ← List.append_assoc, ← List.append_assoc]
        exact (List.prefix_append _ _).isInfix
      exact TokenFault.version written (fun _ => List.mem_takeWhile_imp) long
    · exact (e.takeWhile_suffix _).trans on

theorem directiveOf_reads {c d : Cursor} {name : List CodePoint}
    (start : c.rest = .scalar '%' :: name ++ d.rest) : c.Reads (directiveOf ⟨name⟩ d) := by
  have on : d.rest <:+ c.rest := ⟨_, start.symm⟩
  have spaces : d.skipSpaces.rest <:+ d.rest := d.takeWhile_suffix _
  unfold directiveOf
  split
  next version =>
    have yaml : c.rest = versionStart ++ d.rest := by
      have points : name = (Text.ofString "YAML").points := congrArg Text.points version
      rw [start, points]
      rfl
    refine (versionNumber_reads yaml spaces).bind ?_
    rintro ⟨major, e⟩ after
    dsimp only at after ⊢
    split
    · exact Reads.refused
    · refine (versionNumber_reads yaml (e.next_suffix.trans after)).bind ?_
      rintro ⟨minor, e⟩ after
      dsimp only at after ⊢
      split
      · exact Reads.refused
      · exact after.trans on
  · split
    · refine ((tagHandle_reads _).onward (spaces.trans on)).bind fun handle e after => ?_
      dsimp only
      split
      · exact .refused
      · refine ((tagText_reads _).onward ((e.takeWhile_suffix _).trans after)).bind fun start e after => ?_
        dsimp only
        split
        · exact .refused
        · exact after
    · exact (d.takeWhile_suffix _).trans on

theorem directiveToken_reads {c : Cursor} (mark : c.peek = some (.scalar '%')) :
    c.Reads (directiveToken c) := by
  have start : c.rest = .scalar '%' :: (c.next.takeWhile isNamePoint).1 ++
      (c.next.takeWhile isNamePoint).2.rest := by
    rw [Cursor.rest_of_peek mark, List.cons_append, Cursor.takeWhile_append]
  unfold directiveToken
  dsimp only
  split
  · exact .refused
  · refine (directiveOf_reads start).bind fun token d on => ?_
    have spaces : d.skipSpaces.rest <:+ d.rest := d.takeWhile_suffix _
    have comment := (Cursor.skipComment_suffix _).trans (spaces.trans on)
    dsimp only
    split
    · exact .refused
    · exact (Cursor.skipBreak_suffix _).trans comment

end Marks

/-! ### Scalars -/

section Scalars

open Cursor (Reads)

theorem quotedBreaks_reads (n : Nat) (c : Cursor) : c.Reads (quotedBreaks n c) := by
  induction n generalizing c with
  | zero => exact .refused
  | succ n ih =>
    have blanks : (c.skipWhile fun p => p.is ' ' || p.is '\t').rest <:+ c.rest := c.takeWhile_suffix _
    unfold quotedBreaks
    split
    · exact .refused
    · dsimp only
      split
      · exact blanks
      next broken =>
        exact ((ih _).onward ((Cursor.lineBreak?_suffix broken).trans blanks)).bind fun _ _ on => on

theorem quotedBlanks_reads (c : Cursor) : c.Reads (quotedBlanks c) := by
  have blanks := c.takeWhile_suffix fun p => p.is ' ' || p.is '\t'
  unfold quotedBlanks
  dsimp only
  split
  · exact .refused
  · exact blanks
  next broken =>
    have on := (Cursor.lineBreak?_suffix broken).trans blanks
    exact ((quotedBreaks_reads _ _).onward on).bind fun _ _ on => on

/-- Hexadecimal digits write a number of no more digits. -/
theorem hexNumber?_lt {ps : List CodePoint} {n : Nat} (h : hexNumber? ps = some n) :
    n < 16 ^ ps.length := by
  have digit {p : CodePoint} {d : Nat} (h : p.hexValue? = some d) : d < 16 := by
    unfold CodePoint.hexValue? at h
    dsimp only at h
    split_ifs at h with decimal small capital
    · simp only [Bool.and_eq_true, decide_eq_true_eq] at decimal
      cases h
      omega
    · simp only [Bool.and_eq_true, decide_eq_true_eq] at small
      cases h
      omega
    · simp only [Bool.and_eq_true, decide_eq_true_eq] at capital
      cases h
      omega
  have each (ps : List CodePoint) (m : Nat)
      (h : ps.foldlM (fun n p => p.hexValue?.map fun d => 16 * n + d) m = some n) :
      n < (m + 1) * 16 ^ ps.length := by
    induction ps generalizing m with
    | nil =>
      cases h
      rw [List.length_nil, Nat.pow_zero]
      omega
    | cons p ps ih =>
      rw [List.foldlM_cons] at h
      obtain ⟨m', first, rest⟩ := Option.bind_eq_some_iff.mp h
      obtain ⟨d, value, rfl⟩ := Option.map_eq_some_iff.mp first
      have small := digit value
      calc n < (16 * m + d + 1) * 16 ^ ps.length := ih _ rest
        _ ≤ ((m + 1) * 16) * 16 ^ ps.length := Nat.mul_le_mul_right _ (by omega)
        _ = (m + 1) * 16 ^ (p :: ps).length := by
          rw [List.length_cons, Nat.pow_succ, Nat.mul_assoc, Nat.mul_comm 16]
  have all := each ps 0 h
  rw [Nat.zero_add, Nat.one_mul] at all
  exact all

/-- An escape, which is read after its backslash. -/
theorem escape_reads {b c : Cursor} (mark : b.rest = .scalar '\\' :: c.rest) : b.Reads (escape c) := by
  have on : c.rest <:+ b.rest := mark ▸ List.suffix_cons _ _
  unfold escape
  split
  · exact .refused
  next p found =>
    have here := Cursor.rest_of_peek found
    split
    · exact c.next_suffix.trans on
    next count _ letter =>
      dsimp only
      split
      · exact .refused
      next enough =>
        split
        · exact .refused
        next n number =>
          split
          next beyond =>
            have length : (c.next.rest.take count).length = count := by
              rw [List.length_take]
              rw [List.length_take] at enough
              omega
            -- only the escape with eight digits reaches so far
            have small := hexNumber?_lt number
            rw [length] at small
            unfold hexEscape? at letter
            split_ifs at letter with x u big
            · cases letter
              omega
            · cases letter
              omega
            · cases letter
              have written : .scalar '\\' :: .scalar 'U' :: c.next.rest.take 8 <:+: b.rest := by
                rw [mark, here, CodePoint.is_iff.mp big]
                exact ((List.prefix_cons_inj _).mpr ((List.prefix_cons_inj _).mpr
                  (List.take_prefix 8 _))).isInfix
              exact TokenFault.escape written length number beyond
          · exact (Cursor.skip_suffix _ _).trans (c.next_suffix.trans on)
    · split
      · exact .refused
      next broken =>
        exact (quotedBreaks_reads _ _).onward ((Cursor.lineBreak?_suffix broken).trans on)

theorem quotedRest_reads (double : Bool) (n : Nat) (c : Cursor) : c.Reads (quotedRest double n c) := by
  induction n generalizing c with
  | zero => exact .refused
  | succ n ih =>
    have piece := c.takeWhile_suffix isQuotedPlain
    have finish (taken : List CodePoint) {d : Cursor} (done : Bool) (on : d.rest <:+ c.rest) : c.Reads (do
        if done then return (taken, d)
        let rest ← quotedRest double n d
        return (taken ++ rest.1, rest.2)) := by
      cases done with
      | true => exact on
      | false => exact ((ih d).onward on).bind fun _ _ on => on
    unfold quotedRest
    dsimp only
    generalize (if double = true then '"' else '\'') = quote
    split
    · exact .refused
    next p found =>
      split
      · exact finish _ false ((Cursor.skip_suffix _ 2).trans piece)
      · split
        · exact finish _ true ((Cursor.next_suffix _).trans piece)
        · split
          · exact finish _ false ((Cursor.next_suffix _).trans piece)
          · split
            next backslash =>
              have mark := Cursor.rest_of_peek found
              rw [CodePoint.is_iff.mp backslash] at mark
              exact ((escape_reads mark).onward piece).bind fun _ _ on => finish _ false on
            · exact ((quotedBlanks_reads _).onward piece).bind fun _ _ on => finish _ false on

theorem quotedScalar_reads (double : Bool) (c : Cursor) : c.Reads (quotedScalar double c) :=
  (quotedRest_reads double _ c.next).onward c.next_suffix

theorem plainBreaks_suffix (n : Nat) (c : Cursor) : (plainBreaks n c).2.rest <:+ c.rest := by
  induction n generalizing c with
  | zero => exact List.suffix_rfl
  | succ n ih =>
    have spaces : c.skipSpaces.rest <:+ c.rest := c.takeWhile_suffix _
    unfold plainBreaks
    dsimp only
    split
    · exact spaces
    next broken =>
      have on := (Cursor.lineBreak?_suffix broken).trans spaces
      split
      · exact on
      · exact (ih _).trans on

theorem plainBlanks_suffix (c : Cursor) : (plainBlanks c).cursor.rest <:+ c.rest := by
  have spaces := c.takeWhile_suffix (·.is ' ')
  unfold plainBlanks
  dsimp only
  split
  · exact spaces
  next broken =>
    have on := (Cursor.lineBreak?_suffix broken).trans spaces
    split
    · exact on
    · exact (plainBreaks_suffix _ _).trans on

theorem plainRest_suffix (inFlow : Bool) (indent : Int) (broken : Bool) (n : Nat)
    (blanks : List CodePoint) (c : Cursor) :
    (plainRest inFlow indent broken n blanks c).cursor.rest <:+ c.rest := by
  induction n generalizing broken blanks c with
  | zero => exact List.suffix_rfl
  | succ n ih =>
    unfold plainRest
    dsimp only
    generalize (if c.sees '#' then [] else plainWord inFlow c.rest) = word
    have on := (plainBlanks_suffix _).trans (c.skip_suffix word.length)
    split
    · exact List.suffix_rfl
    · split
      · exact on
      · split
        · exact on
        · exact (ih _ _ _).trans on

theorem blockHead_settles (c : Cursor) :
    Settles (TokenFault c.rest) (fun a => a.2.2.rest <:+ c.rest) (blockHead c) := by
  have finish (chomping : Chomping) (indentation : Option Nat) {d : Cursor} (on : d.rest <:+ c.rest) :
      Settles (TokenFault c.rest) (fun a => a.2.2.rest <:+ c.rest) (do
        if indentation = some 0 || !endsWord d.peek then throw .malformed
        let e := d.skipSpaces.skipComment
        if !endsLine e.peek then throw .malformed
        return (chomping, indentation, e.skipBreak)) := by
    have spaces : d.skipSpaces.rest <:+ d.rest := d.takeWhile_suffix _
    have comment := (Cursor.skipComment_suffix _).trans (spaces.trans on)
    dsimp only
    split
    · exact TokenFault.malformed
    · split
      · exact TokenFault.malformed
      · exact (Cursor.skipBreak_suffix _).trans comment
  unfold blockHead
  dsimp only
  split
  · split
    · exact finish _ _ (c.skip_suffix 2)
    · exact finish _ _ c.next_suffix
  · split
    · exact finish _ _ (c.skip_suffix 2)
    · exact finish _ _ c.next_suffix
  · exact finish _ _ List.suffix_rfl

theorem skipIndent_suffix (indent n : Nat) (c : Cursor) : (skipIndent indent n c).rest <:+ c.rest := by
  induction n generalizing c with
  | zero => exact List.suffix_rfl
  | succ n ih =>
    unfold skipIndent
    split
    · exact (ih _).trans c.next_suffix
    · exact List.suffix_rfl

theorem blockBreaks_suffix (indent n : Nat) (c : Cursor) : (blockBreaks indent n c).2.rest <:+ c.rest := by
  induction n generalizing c with
  | zero => exact List.suffix_rfl
  | succ n ih =>
    have spaces := skipIndent_suffix indent c.rest.length c
    unfold blockBreaks
    dsimp only
    split
    · exact spaces
    next broken => exact (ih _).trans ((Cursor.lineBreak?_suffix broken).trans spaces)

theorem leadingBreaks_suffix (n furthest : Nat) (c : Cursor) :
    (leadingBreaks n furthest c).2.2.rest <:+ c.rest := by
  induction n generalizing furthest c with
  | zero => exact List.suffix_rfl
  | succ n ih =>
    unfold leadingBreaks
    split
    · exact (ih _ _).trans c.next_suffix
    · split
      · exact List.suffix_rfl
      next broken => exact (ih _ _).trans (Cursor.lineBreak?_suffix broken)

theorem blockLines_suffix (isFolded : Bool) (indent n : Nat) (breaks : List CodePoint) (c : Cursor) :
    (blockLines isFolded indent n breaks c).2.2.2.rest <:+ c.rest := by
  induction n generalizing breaks c with
  | zero => exact List.suffix_rfl
  | succ n ih =>
    have line := c.takeWhile_suffix (!isBreak ·)
    unfold blockLines
    dsimp only
    split
    · exact List.suffix_rfl
    · have following {next : Cursor} (on : next.rest <:+ c.rest) :=
        (blockBreaks_suffix indent (next.rest.length + 1) next).trans on
      cases broken : (c.takeWhile (!isBreak ·)).2.lineBreak? with
      | none =>
        dsimp only
        split
        · exact following line
        · exact (ih _ _).trans (following line)
      | some taken =>
        have on := (Cursor.lineBreak?_suffix broken).trans line
        dsimp only
        split
        · exact following on
        · exact (ih _ _).trans (following on)

theorem blockScalar_reads (isFolded : Bool) (outer : Int) (c : Cursor) :
    c.Reads (blockScalar isFolded outer c) := by
  have lines (breaks : List CodePoint) (indent : Nat) {d : Cursor} (on : d.rest <:+ c.rest) :=
    (blockLines_suffix isFolded indent (d.rest.length + 1) breaks d).trans on
  have head := (blockHead_settles c.next).imp (fun _ => TokenFault.mono c.next_suffix.isInfix)
    fun _ => (·.trans c.next_suffix)
  unfold blockScalar
  refine head.bind ?_
  rintro ⟨chomping, indentation, d⟩ on
  -- whatever is kept of the breaks at the end, the place after them is the same
  cases indentation with
  | some digit =>
    have breaks := (blockBreaks_suffix ((max 1 (outer + 1)).toNat + digit - 1) (d.rest.length + 1) d).trans on
    cases chomping <;> exact lines _ _ breaks
  | none =>
    have breaks := (leadingBreaks_suffix (d.rest.length + 1) 0 d).trans on
    cases chomping <;> exact lines _ _ breaks

end Scalars

/-! ### Layouts -/

namespace Layout

@[simp] theorem unwindFrom_cursor (column : Int) (outer : List Int) (l : Layout) :
    (unwindFrom column outer l).cursor = l.cursor := by
  induction outer generalizing l with
  | nil => rfl
  | cons o outer ih =>
    unfold unwindFrom
    split
    · rw [ih]
    · rfl

@[simp] theorem unwind_cursor (l : Layout) (column : Int) : (l.unwind column).cursor = l.cursor := by
  unfold unwind
  split
  · rfl
  · rw [unwindFrom_cursor]

@[simp] theorem openBlock_cursor (l : Layout) (column : Nat) (start : Token) (place : Nat) :
    (l.openBlock column start place).cursor = l.cursor := by
  unfold openBlock
  split <;> rfl

theorem skipBlanks_suffix (n : Nat) (l : Layout) : (skipBlanks n l).cursor.rest <:+ l.cursor.rest := by
  induction n generalizing l with
  | zero => exact List.suffix_rfl
  | succ n ih =>
    have spaces : l.cursor.skipSpaces.rest <:+ l.cursor.rest := l.cursor.takeWhile_suffix _
    have comment := (Cursor.skipComment_suffix _).trans spaces
    unfold skipBlanks
    dsimp only
    split
    · exact comment
    next broken => exact (ih _).trans ((Cursor.lineBreak?_suffix broken).trans comment)

/-- A step that leads no further in the text. -/
def Stays (c : Cursor) : Step → Prop := Settles (· = .malformed) fun l => l.cursor = c

/-- A step that leads on in a text, or ends in a fault that is due to it. -/
def Goes (ps : List CodePoint) : Step → Prop := Settles (TokenFault ps) fun l => l.cursor.rest <:+ ps

variable {ps : List CodePoint} {x : Step} {l : Layout} {c : Cursor}

theorem Stays.goes (h : Stays c x) (on : c.rest <:+ ps) : Goes ps x :=
  Settles.imp h (fun _ refused => refused ▸ .malformed) fun _ same => same ▸ on

theorem Goes.ite {p : Prop} [Decidable p] {y : Step} (yes : p → Goes ps x) (no : Goes ps y) :
    Goes ps (if p then x else y) := by
  split
  next h => exact yes h
  · exact no

/-- What is done after a step that leads no further. -/
theorem Stays.bind (h : Stays c x) {f : Layout → Step} (next : ∀ l, l.cursor = c → Goes ps (f l)) :
    Goes ps (x >>= f) :=
  Settles.bind (Settles.imp h (fun _ refused => refused ▸ .malformed) fun _ same => same) next

theorem dropCandidate_stays (l : Layout) : Stays l.cursor l.dropCandidate := by
  unfold dropCandidate
  split
  · exact rfl
  · exact rfl

theorem outermost_stays (l : Layout) : Stays l.cursor l.outermost := by
  have dropped := dropCandidate_stays (l.unwind (-1))
  rw [unwind_cursor] at dropped
  exact Settles.bind dropped fun _ same => same

theorem saveCandidate_stays (l : Layout) : Stays l.cursor l.saveCandidate := by
  unfold saveCandidate
  split
  · exact rfl
  · exact Settles.bind (dropCandidate_stays l) fun _ same => same

theorem dropStale_stays (l : Layout) : Stays l.cursor l.dropStale := by
  unfold dropStale
  split
  · exact rfl
  · exact rfl

theorem markedBlock_stays (l : Layout) (start : Token) : Stays l.cursor (l.markedBlock start) := by
  unfold markedBlock
  split
  · exact rfl
  · split
    · exact rfl
    · exact openBlock_cursor ..

theorem finish_stays (l : Layout) : Stays l.cursor l.finish := by
  have dropped := dropCandidate_stays (l.unwind (-1))
  rw [unwind_cursor] at dropped
  exact dropped

/-- What a token takes is passed over. -/
theorem take_suffix (on : l.cursor.rest <:+ ps) (t : Token) (width : Nat) :
    (l.take t width).cursor.rest <:+ ps := (l.cursor.skip_suffix width).trans on

theorem directive_goes (on : l.cursor.rest <:+ ps) (mark : l.cursor.peek = some (.scalar '%')) :
    Goes ps l.directive := by
  refine (outermost_stays l).bind fun l' same => ?_
  have read := directiveToken_reads (same ▸ mark)
  exact (read.within (same ▸ on)).bind fun _ after => after

theorem documentMark_goes (on : l.cursor.rest <:+ ps) (t : Token) : Goes ps (l.documentMark t) :=
  (outermost_stays l).bind fun _ same => take_suffix (same ▸ on) t 3

theorem openBracket_goes (on : l.cursor.rest <:+ ps) (t : Token) : Goes ps (l.openBracket t) :=
  (saveCandidate_stays l).bind fun _ same => take_suffix (same ▸ on) t 1

theorem closeBracket_goes (on : l.cursor.rest <:+ ps) (t : Token) : Goes ps (l.closeBracket t) := by
  unfold closeBracket
  dsimp only
  split
  · exact TokenFault.malformed
  · exact (dropCandidate_stays l).bind fun _ same => take_suffix (same ▸ on) t 1

theorem flowEntry_goes (on : l.cursor.rest <:+ ps) : Goes ps l.flowEntry :=
  (dropCandidate_stays l).bind fun _ same => take_suffix (same ▸ on) .flowEntry 1

/-- A mark that may open a block and before which nothing may begin a key. -/
theorem mark_goes (on : l.cursor.rest <:+ ps) (start t : Token) (allows : Layout → Bool) :
    Goes ps (do
      let l ← l.markedBlock start
      let l ← { l with allowsKey := allows l : Layout }.dropCandidate
      return l.take t 1) := by
  refine (markedBlock_stays l start).bind fun l' same => ?_
  have dropped := dropCandidate_stays { l' with allowsKey := allows l' }
  exact dropped.bind fun _ same' => take_suffix ((same'.trans same) ▸ on) t 1

theorem blockEntry_goes (on : l.cursor.rest <:+ ps) : Goes ps l.blockEntry :=
  mark_goes on .blockSequenceStart .blockEntry fun _ => true

theorem keyMark_goes (on : l.cursor.rest <:+ ps) : Goes ps l.keyMark :=
  mark_goes on .blockMappingStart .key fun l => !l.inFlow

theorem valueMark_goes (on : l.cursor.rest <:+ ps) : Goes ps l.valueMark := by
  unfold valueMark
  split
  · -- the key and its block are put among the tokens, and the place in the text stays
    dsimp only
    refine take_suffix ?_ .value 1
    split
    · exact on
    · rw [openBlock_cursor]
      exact on
  · exact mark_goes on .blockMappingStart .value fun l => !l.inFlow

theorem content_goes (on : l.cursor.rest <:+ ps) {read : Cursor → Except Fault (Token × Cursor)}
    (reads : l.cursor.Reads (read l.cursor)) : Goes ps (l.content read) := by
  refine (saveCandidate_stays l).bind fun l' same => ?_
  rw [same]
  exact (reads.within on).bind fun _ after => after

theorem block_goes (on : l.cursor.rest <:+ ps) (isFolded : Bool) : Goes ps (l.block isFolded) := by
  have dropped := dropCandidate_stays { l with allowsKey := true }
  refine dropped.bind fun l' same => ?_
  have read := blockScalar_reads isFolded l'.indent l'.cursor
  exact (read.within (same ▸ on)).bind fun _ after => after

theorem quoted_goes (on : l.cursor.rest <:+ ps) (double : Bool) : Goes ps (l.quoted double) :=
  content_goes on ((quotedScalar_reads double l.cursor).bind fun _ _ after => after)

theorem plain_goes (on : l.cursor.rest <:+ ps) : Goes ps l.plain := by
  refine (saveCandidate_stays l).bind fun l' same => ?_
  exact (plainRest_suffix _ _ _ _ _ _).trans (same ▸ on)

/-- What one token leads to. -/
theorem token_goes (on : l.cursor.rest <:+ ps) {p : CodePoint} (found : l.cursor.peek = some p) :
    Goes ps (l.token p) := by
  have named (make : Text → Token) : l.cursor.Reads (nameOf l.cursor >>= fun a => pure (make a.1, a.2)) :=
    (nameOf_reads l.cursor).bind fun _ _ after => after
  have directive (mark : (p.is '%' && decide (l.cursor.column = 0)) = true) : Goes ps l.directive := by
    simp only [Bool.and_eq_true, CodePoint.is_iff] at mark
    exact directive_goes on (mark.1 ▸ found)
  unfold token
  refine .ite directive ?_
  refine .ite (fun _ => documentMark_goes on _) (.ite (fun _ => documentMark_goes on _) ?_)
  refine .ite (fun _ => openBracket_goes on _) (.ite (fun _ => openBracket_goes on _) ?_)
  refine .ite (fun _ => closeBracket_goes on _) (.ite (fun _ => closeBracket_goes on _) ?_)
  refine .ite (fun _ => flowEntry_goes on) (.ite (fun _ => blockEntry_goes on) ?_)
  refine .ite (fun _ => keyMark_goes on) (.ite (fun _ => valueMark_goes on) ?_)
  refine .ite (fun _ => content_goes on (named .alias)) (.ite (fun _ => content_goes on (named .anchor)) ?_)
  refine .ite (fun _ => content_goes on (tagToken_reads _)) ?_
  refine .ite (fun _ => block_goes on false) (.ite (fun _ => block_goes on true) ?_)
  refine .ite (fun _ => quoted_goes on false) (.ite (fun _ => quoted_goes on true) ?_)
  exact .ite (fun _ => plain_goes on) TokenFault.malformed

/-- Reading tokens ends in a fault only if it is due to the text. -/
theorem read_fault (n : Nat) (on : l.cursor.rest <:+ ps) {f : Fault} (h : (read n l).2 = some f) :
    TokenFault ps f := by
  -- each round passes over blanks, closes the blocks that end here, and reads one token
  induction n generalizing l with
  | zero =>
    cases h
    exact .malformed
  | succ n ih =>
    have blanks := (skipBlanks_suffix (l.cursor.rest.length + 1) l).trans on
    have stale := dropStale_stays (skipBlanks (l.cursor.rest.length + 1) l)
    unfold read at h
    split at h
    next f' refused =>
      rw [refused] at stale
      have same : f' = .malformed := stale
      cases h
      exact same ▸ .malformed
    next l' dropped =>
      rw [dropped] at stale
      have same : l'.cursor = _ := stale
      dsimp only at h
      split at h
      · split at h
        next f' refused =>
          have ends := finish_stays (l'.unwind l'.cursor.column)
          rw [refused] at ends
          have same : f' = .malformed := ends
          cases h
          exact same ▸ .malformed
        · cases h
      next p found =>
        have unwound : (l'.unwind l'.cursor.column).cursor.rest <:+ ps := by
          rw [unwind_cursor, same]
          exact blanks
        have goes := token_goes unwound found
        split at h
        next f' refused =>
          rw [refused] at goes
          cases h
          exact goes
        next l'' taken =>
          rw [taken] at goes
          exact ih goes h

end Layout

/-- **Why there are no more tokens**: the fault that ends the tokens of a text is due to the text. -/
theorem tokens_fault {t : Text} {f : Fault} (h : (tokens t).2 = some f) : TokenFault t.points f := by
  unfold tokens at h
  split at h
  · cases h
    exact .malformed
  · refine Layout.read_fault _ ?_ h
    split
    next p rest points =>
      split
      · rw [points]
        exact List.suffix_cons p rest
      · exact List.suffix_rfl
    · exact List.nil_suffix

end Yaml

end GuardedTools
