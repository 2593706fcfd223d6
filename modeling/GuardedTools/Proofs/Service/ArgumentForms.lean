import GuardedTools.Proofs.Json.Grammar
import GuardedTools.Service.Dispatch

/-!
# The forms of arguments

The arguments of a call come as a map, as a JSON text, or as the bytes of one.  A text that denotes an
object and its bytes decode into what the object itself decodes into (`decodeArguments_of_denotes`), and
what becomes of a call depends on what its arguments decode into alone (`Dispatcher.dispatchIn_congr`); so
the three forms of one object come to the same (`Dispatcher.forms_agree`).
-/

namespace GuardedTools

variable {ms : List (Text × Json)} {cs : List Char}

/-- A text that denotes an object says something. -/
theorem Json.Denotes.isBlank_eq_false (denoted : Denotes (.object ms) cs) :
    (Text.ofChars cs).isBlank = false := by
  cases denoted with
  | @amid before cs after _ _ spelled =>
    have brace : '\x7b' ∈ cs := by
      cases spelled <;> exact List.mem_cons_self
    have among : .scalar '\x7b' ∈ (Text.ofChars (before ++ (cs ++ after))).points :=
      List.mem_map_of_mem (List.mem_append_right _ (List.mem_append_left _ brace))
    rw [Text.isBlank, List.all_eq_false]
    exact ⟨_, among, by decide +kernel⟩

/-- An object, a text that denotes it and the bytes of the text decode into the same. -/
theorem decodeArguments_of_denotes (denoted : Json.Denotes (.object ms) cs)
    (within : Json.Within Json.ReadLimits.standard.digits Json.ReadLimits.standard.depth (.object ms))
    {bytes : List UInt8} (decoded : Utf8.decode bytes = .ok (Text.ofChars cs)) :
    ∀ given ∈ [Value.ofJson (.object ms), .text (Text.ofChars cs), .bytes bytes],
      decodeArguments given = .ok (Value.ofJson (.object ms)) := by
  have read : readArguments (Text.ofChars cs) = .ok (Value.ofJson (.object ms)) := by
    rw [readArguments, denoted.isBlank_eq_false, if_neg Bool.false_ne_true, Json.read_of_denotes denoted within]
  have text : decodeArguments (.text (Text.ofChars cs)) = .ok (Value.ofJson (.object ms)) := by
    rw [decodeArguments, read]
    rfl
  have coded : decodeArguments (.bytes bytes) = decodeArguments (.text (Text.ofChars cs)) := by
    rw [decodeArguments, decoded]
    rfl
  rintro given (_ | ⟨_, _ | ⟨_, _ | ⟨_, ⟨⟩⟩⟩⟩)
  · rfl
  · exact text
  · exact coded.trans text

namespace Dispatcher

variable {σ ω : Type}

/-- What becomes of a call depends on what its arguments decode into alone. -/
theorem dispatchIn_congr {given given' : Value} (same : decodeArguments given = decodeArguments given')
    (enter : Entry ω) (d : Dispatcher σ) (j : Journal σ) (world : ω) (caller : Option Identity) (tool : Text) :
    d.dispatchIn enter j world caller tool given = d.dispatchIn enter j world caller tool given' := by
  have call : d.callOf tool given = d.callOf tool given' := by
    rw [callOf, callOf, same]
  rw [dispatchIn, dispatchIn, resolve, resolve, call]

/-- **The three forms of an object come to the same.**  An object with different keys, integers of no more
digits and no more levels than are read, is denoted by texts with blanks and escapes of any kind.  The
object itself, every such text and the bytes of the text, which it has, decode into the object; so every
dispatcher, whatever its tools do and whatever it recorded before, answers them alike, runs the same tool
with the same arguments and leaves the same journal. -/
theorem forms_agree (denoted : Json.Denotes (.object ms) cs)
    (within : Json.Within Json.ReadLimits.standard.digits Json.ReadLimits.standard.depth (.object ms)) :
    ∃ bytes, Utf8.encode (Text.ofChars cs) = some bytes ∧
      ∀ given ∈ [Value.ofJson (.object ms), .text (Text.ofChars cs), .bytes bytes],
        decodeArguments given = .ok (Value.ofJson (.object ms)) ∧
          ∀ {σ ω : Type} (enter : Entry ω) (d : Dispatcher σ) (j : Journal σ) (world : ω)
            (caller : Option Identity) (tool : Text),
            d.dispatchIn enter j world caller tool given
              = d.dispatchIn enter j world caller tool (Value.ofJson (.object ms)) := by
  obtain ⟨bytes, encoded, decoded⟩ := Utf8.decode_encode cs
  have forms := decodeArguments_of_denotes denoted within decoded
  have itself := forms _ List.mem_cons_self
  refine ⟨bytes, encoded, fun given form => ⟨forms given form, ?_⟩⟩
  exact fun enter d j world caller tool =>
    dispatchIn_congr ((forms given form).trans itself.symm) enter d j world caller tool

end Dispatcher

/-- A text with blanks, with a code and with the two codes of a pair, that denotes an object. -/
theorem Json.denotes_escaped : Denotes (.object [("m", .text "a😀"), ("n", .array [.int 0])])
    " \x7b\"m\" : \"\\u0061\\uD83d\\ude00\",\"n\":[-0]\x7d\n".toList := by
  have blank : AreBlanks [' '] := by decide
  have line : AreBlanks ['\n'] := by decide
  have none : AreBlanks [] := by decide
  have code (k l m n : Nat) (a b c d : Char) (h : IsHexDigit k a ∧ IsHexDigit l b ∧ IsHexDigit m c ∧
      IsHexDigit n d) : IsCode (((k * 16 + l) * 16 + m) * 16 + n) ['\\', 'u', a, b, c, d] :=
    .digits h.1 h.2.1 h.2.2.1 h.2.2.2
  have first : SpellsChar 'a' "\\u0061".toList := .code (code 0 0 6 1 '0' '0' '6' '1' (by decide))
  have second : SpellsChar '😀' ("\\uD83d".toList ++ "\\ude00".toList) :=
    .pair (code 13 8 3 13 'D' '8' '3' 'd' (by decide)) (code 13 14 0 0 'd' 'e' '0' '0' (by decide))
      (by decide) (by decide) (by decide)
  have name (c : Char) (plain : 32 ≤ c.toNat ∧ c ≠ '"' ∧ c ≠ '\\') : SpellsText (Text.ofChars [c]) ['"', c, '"'] :=
    .quoted (.cons (.itself plain.1 plain.2.1 plain.2.2) .nil)
  have value : Denotes (.text "a😀") " \"\\u0061\\uD83d\\ude00\"".toList :=
    .amid blank (.text (.quoted (.cons first (.cons second .nil)))) none
  have zero : Denotes (.array [.int 0]) "[-0]".toList :=
    .amid none (.array (.last (.amid none (.negative 0) none))) none
  exact .amid blank (.object (by decide) (.more (.colon none (name 'm' (by decide)) blank value)
    (.last (.colon none (name 'n' (by decide)) none zero)))) line

/-- The object, the text and its bytes. -/
theorem Dispatcher.forms_agree_escaped : ∃ bytes,
    Utf8.encode " \x7b\"m\" : \"\\u0061\\uD83d\\ude00\",\"n\":[-0]\x7d\n" = some bytes ∧
      ∀ given ∈ [Value.ofJson (.object [("m", .text "a😀"), ("n", .array [.int 0])]),
          .text " \x7b\"m\" : \"\\u0061\\uD83d\\ude00\",\"n\":[-0]\x7d\n", .bytes bytes],
        decodeArguments given = .ok (Value.ofJson (.object [("m", .text "a😀"), ("n", .array [.int 0])])) ∧
          ∀ {σ ω : Type} (enter : Entry ω) (d : Dispatcher σ) (j : Journal σ) (world : ω)
            (caller : Option Identity) (tool : Text),
            d.dispatchIn enter j world caller tool given = d.dispatchIn enter j world caller tool
              (Value.ofJson (.object [("m", .text "a😀"), ("n", .array [.int 0])])) := by
  refine forms_agree Json.denotes_escaped ?_
  have zero : Json.Within Json.ReadLimits.standard.digits 988 (.int 0) := .int (by decide)
  have list : Json.Within Json.ReadLimits.standard.digits 989 (.array [.int 0]) :=
    .array (List.forall_mem_singleton.mpr zero)
  exact .object (List.forall_mem_cons.mpr ⟨.text _, List.forall_mem_singleton.mpr list⟩)

end GuardedTools
