import GuardedTools.Http.Message
import GuardedTools.Json.Strict
import Mathlib.Data.List.TakeWhile

/-!
# What can be sent

The transport writes a value strictly (`Json.strictBytes?`).  It succeeds exactly on the values that
hold at every depth only finite numbers, integers that are not too long, and Unicode texts
(`strictBytes?_isSome`), which is what a reply asks of its content (`Reply.exists_ofJson_iff`).

Both halves come from one statement about the layout: it is there if the numbers can be sent, and then
it is Unicode if the texts of the value are (`Writes`).
-/

namespace GuardedTools

/-! ### Unicode texts -/

namespace Text

@[simp] theorem isScalar_append (s t : Text) : (s ++ t).isScalar = (s.isScalar && t.isScalar) :=
  List.all_append

@[simp] theorem isScalar_ofChars (cs : List Char) : (ofChars cs).isScalar = true := by
  simp [isScalar, ofChars]

@[simp] theorem isScalar_ofString (s : String) : (ofString s).isScalar = true :=
  isScalar_ofChars s.toList

@[simp] theorem isScalar_ofNat (n : Nat) : (ofNat n).isScalar = true := isScalar_ofChars _

@[simp] theorem isScalar_ofInt (n : Int) : (ofInt n).isScalar = true := by
  cases n with
  | ofNat n => exact isScalar_ofNat n
  | negSucc n => exact isScalar_ofNat (n + 1)

theorem isScalar_intercalate {separator : Text} (unicode : separator.isScalar = true) :
    ∀ ts, (intercalate separator ts).isScalar = ts.all isScalar
  | [] => rfl
  | [t] => by simp [intercalate]
  | t :: u :: ts => by
    show (t ++ separator ++ intercalate separator (u :: ts)).isScalar = _
    rw [isScalar_append, isScalar_append, isScalar_intercalate unicode (u :: ts), unicode,
      Bool.and_true, List.all_cons, List.all_cons, List.all_cons]

end Text

@[simp] theorem Binary64.isScalar_toText (x : Binary64) : x.toText.isScalar = true := by
  unfold toText
  split
  · rfl
  · split <;> rfl
  · exact Text.isScalar_ofChars _

/-- A text is encoded if it is Unicode. -/
theorem Utf8.encode_isSome (t : Text) : (encode t).isSome = t.isScalar := by
  obtain ⟨ps⟩ := t
  rw [encode, Option.isSome_map, Text.scalars?, Text.isScalar]
  induction ps with
  | nil => rfl
  | cons p ps ih =>
    rw [List.mapM_cons, List.all_cons]
    cases p with
    | surrogate offset => rfl
    | scalar c =>
      rw [Bool.true_and, ← ih]
      cases List.mapM (m := Option) _ ps <;> rfl

/-- A text is Unicode unless something in it cannot be encoded. -/
theorem Utf8.unencodable?_isSome (t : Text) : (unencodable? t).isSome = !t.isScalar := by
  obtain ⟨ps⟩ := t
  rw [Bool.eq_iff_iff, Bool.not_eq_true', Text.isScalar, List.all_eq_false]
  unfold unencodable?
  cases found : ps.dropWhile (!isSurrogate ·) with
  | nil =>
    refine iff_of_false Bool.false_ne_true ?_
    rintro ⟨p, member, half⟩
    have whole := List.dropWhile_eq_nil_iff.mp found p member
    cases p with
    | scalar c => exact half rfl
    | surrogate offset => cases whole
  | cons p rest =>
    refine iff_of_true rfl ?_
    have half : isSurrogate p = true := by
      have first := List.head?_dropWhile_not (!isSurrogate ·) ps
      rw [found] at first
      simpa using first
    have member : p ∈ ps := (List.dropWhile_sublist _).subset (found ▸ List.mem_cons_self)
    refine ⟨p, member, ?_⟩
    cases p with
    | scalar c => cases half
    | surrogate offset => exact Bool.false_ne_true

namespace Json

/-- The hexadecimal digit of a small value is a character. -/
theorem ofHexValue_scalar (n : Nat) (small : n < 16) :
    ∃ c, CodePoint.ofHexValue n = .scalar c := by
  unfold CodePoint.ofHexValue CodePoint.ofNat
  split <;> (rw [dif_neg (by omega), if_pos (by omega)]; exact ⟨_, rfl⟩)

theorem isScalar_unicodeEscape (n : Nat) : (⟨unicodeEscape n⟩ : Text).isScalar = true := by
  obtain ⟨a, ha⟩ := ofHexValue_scalar (n / 4096 % 16) (Nat.mod_lt _ (by decide))
  obtain ⟨b, hb⟩ := ofHexValue_scalar (n / 256 % 16) (Nat.mod_lt _ (by decide))
  obtain ⟨c, hc⟩ := ofHexValue_scalar (n / 16 % 16) (Nat.mod_lt _ (by decide))
  obtain ⟨d, hd⟩ := ofHexValue_scalar (n % 16) (Nat.mod_lt _ (by decide))
  simp [Text.isScalar, unicodeEscape, ha, hb, hc, hd]

/-- What is escaped is a character of ASCII, and so is all of its escape. -/
theorem isScalar_escapePlain (p : CodePoint) :
    (⟨escapePlain p⟩ : Text).isScalar = (⟨[p]⟩ : Text).isScalar := by
  have controls : p.toNat < 32 → (⟨[p]⟩ : Text).isScalar = true := by
    cases p with
    | scalar c => exact fun _ => rfl
    | surrogate offset => exact fun low => absurd low (by rw [CodePoint.toNat]; omega)
  rw [escapePlain, shortEscape?]
  repeat' split
  all_goals first
    | rfl
    | (next h => rw [eq_of_beq h]; rfl)
    | (next h => rw [controls (by omega)]; rfl)
    | (next h => rw [controls (by omega)]; exact isScalar_unicodeEscape _)

@[simp] theorem isScalar_quotePlain (t : Text) : (quotePlain t).isScalar = t.isScalar := by
  obtain ⟨ps⟩ := t
  have escaped : ∀ ps : List CodePoint,
      (⟨ps.flatMap escapePlain⟩ : Text).isScalar = (⟨ps⟩ : Text).isScalar := by
    intro ps
    induction ps with
    | nil => rfl
    | cons p ps ih =>
      show (⟨escapePlain p⟩ ++ ⟨ps.flatMap escapePlain⟩ : Text).isScalar = (⟨[p]⟩ ++ ⟨ps⟩ : Text).isScalar
      rw [Text.isScalar_append, Text.isScalar_append, isScalar_escapePlain, ih]
  show (⟨[.scalar '"']⟩ ++ (⟨ps.flatMap escapePlain⟩ ++ ⟨[.scalar '"']⟩) : Text).isScalar = _
  rw [Text.isScalar_append, Text.isScalar_append, escaped]
  exact Bool.and_true _

/-! ### The layout -/

/-- A layout of a value of which the numbers can be sent or not, and the texts are Unicode or not. -/
def Writes (sendable scalar : Bool) : Option Text → Prop
  | some t => sendable = true ∧ t.isScalar = scalar
  | none => sendable = false

/-- Layouts of several values. -/
def WritesAll (sendable scalar : Bool) : Option (List Text) → Prop
  | some ts => sendable = true ∧ ts.all Text.isScalar = scalar
  | none => sendable = false

/-- What is put around layouts that are there is Unicode. -/
theorem WritesAll.within {sendable scalar : Bool} {ts? : Option (List Text)} {first last : String}
    (h : WritesAll sendable scalar ts?) :
    Writes sendable scalar (do
      let shown ← ts?
      return (first : Text) ++ Text.intercalate "," shown ++ (last : Text)) := by
  cases ts? with
  | none => exact h
  | some ts =>
    refine ⟨h.1, ?_⟩
    rw [Text.isScalar_append, Text.isScalar_append,
      Text.isScalar_intercalate (Text.isScalar_ofString _), Text.isScalar_ofString,
      Text.isScalar_ofString, Bool.true_and, Bool.and_true, h.2]

/-- One more layout before others, in front of which something may stand. -/
theorem WritesAll.cons {sendable scalar sendables scalars lead : Bool} {t? : Option Text}
    {ts? : Option (List Text)} {put : Text → Text} (h : Writes sendable scalar t?)
    (hs : WritesAll sendables scalars ts?) (shown : ∀ t, (put t).isScalar = (lead && t.isScalar)) :
    WritesAll (sendable && sendables) (lead && scalar && scalars) (do
      let t ← t?
      return put t :: (← ts?)) := by
  cases t? with
  | none => exact (congrArg (· && sendables) h).trans (Bool.false_and _)
  | some t =>
    cases ts? with
    | none => exact (congrArg (sendable && ·) hs).trans (Bool.and_false _)
    | some ts => exact ⟨by rw [h.1, hs.1]; rfl, by
        rw [List.all_cons, shown, h.2, hs.2]⟩

mutual

/-- A value has a layout if its numbers can be sent, and the layout is Unicode if its texts are. -/
theorem writes_strictText? : ∀ j : Json, Writes j.isSendable j.isScalar j.strictText?
  | null => ⟨rfl, rfl⟩
  | bool b => ⟨rfl, by cases b <;> rfl⟩
  | int n => by
    rw [strictText?, isSendable]
    split
    · next short => exact ⟨decide_eq_true short, Text.isScalar_ofInt n⟩
    · next long => exact decide_eq_false long
  | float x => by
    rw [strictText?, isSendable]
    split
    · next finite => exact ⟨finite, Binary64.isScalar_toText x⟩
    · next infinite => exact Bool.eq_false_iff.mpr infinite
  | text t => ⟨rfl, isScalar_quotePlain t⟩
  | array items => (writesAll_strictItems? items).within
  | object members => (writesAll_strictMembers? members).within

theorem writesAll_strictItems? :
    ∀ xs : List Json, WritesAll (areSendable xs) (areScalar xs) (strictItems? xs)
  | [] => ⟨rfl, rfl⟩
  | x :: xs =>
    (WritesAll.cons (writes_strictText? x) (writesAll_strictItems? xs)
      fun _ => (Bool.true_and _).symm :)

theorem writesAll_strictMembers? : ∀ ms : List (Text × Json),
    WritesAll (areSendableMembers ms) (areScalarMembers ms) (strictMembers? ms)
  | [] => ⟨rfl, rfl⟩
  | (k, x) :: ms => by
    refine WritesAll.cons (writes_strictText? x) (writesAll_strictMembers? ms) fun t => ?_
    rw [Text.isScalar_append, Text.isScalar_append, isScalar_quotePlain, Text.isScalar_ofString,
      Bool.and_true]

end

/-- **What the transport can send**: values with numbers that can be sent and with Unicode texts. -/
theorem strictBytes?_isSome (j : Json) : j.strictBytes?.isSome = (j.isSendable && j.isScalar) := by
  have writes := writes_strictText? j
  rw [strictBytes?]
  cases shown : j.strictText? with
  | none =>
    rw [shown] at writes
    exact ((congrArg (· && j.isScalar) writes).trans (Bool.false_and _)).symm
  | some t =>
    rw [shown] at writes
    rw [Option.bind_some, Utf8.encode_isSome, writes.1, writes.2, Bool.true_and]

end Json

/-- A reply of JSON is one that can be sent. -/
theorem Http.Reply.exists_ofJson_iff (status : Nat) (j : Json) :
    (∃ reply, Reply.ofJson status j = .ok reply) ↔ j.strictBytes?.isSome := by
  rw [Reply.ofJson, Json.strictBytes?_isSome]
  split
  · next sendable => exact ⟨fun _ => sendable, fun _ => ⟨_, rfl⟩⟩
  · next unsendable => exact ⟨nofun, fun sendable => absurd sendable unsendable⟩

end GuardedTools
