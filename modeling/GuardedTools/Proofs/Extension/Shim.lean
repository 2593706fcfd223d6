import GuardedTools.Extension.Shim
import GuardedTools.Proofs.Access.Document
import GuardedTools.Proofs.Json.Strict
import Mathlib.Data.List.Basic

/-!
# What a shim can be relied on for

The bytes of a seed are written in place, each read from what stands before it.  The invariant of
the writing is that the bytes of the head stand, and that up to some position the others are the
head's at the remainder of their position, plus that position (`Seed.Filled`, `Seed.Filled.run`).  So
a seed that is derived continues the name of its service (`Seed.Continues`), and there is one unless
the name is empty or not Unicode (`Seed.derive_eq_error_iff`).

A configuration that is read holds what its filled form holds (`ShimConfig.Reflects`), each variable
once.  A shim of it keeps what was asked for (`Shim.Keeps`), and together with the errors this is all
that applying the extension comes to (`Shim.apply_exact`).
-/

namespace GuardedTools

/-! ### Seeds -/

namespace Seed

/-- Up to a position stand the bytes of the head, and behind them what the head has at the remainder
of a position, plus that position. -/
structure Filled (head bytes : List UInt8) (k : Nat) : Prop where
  begins : ∀ i < head.length, bytes[i]? = head[i]?
  continues : ∀ i, head.length ≤ i → i < k →
    bytes[i]? = head[i % head.length]?.map (· + i.toUInt8)

variable {head bytes name : List UInt8} {k : Nat} {s : Seed}

/-- One byte more: the one that is read stands in the head, which no step writes to. -/
theorem Filled.step (filled : Filled head bytes k) (some : 0 < head.length) (behind : head.length ≤ k)
    (inside : k < bytes.length) : Filled head (writeByte head.length bytes k) (k + 1) := by
  have early : k % head.length < head.length := Nat.mod_lt k some
  refine ⟨fun i before => ?_, fun i after upTo => ?_⟩
  · rw [writeByte, List.getElem?_set_ne (by omega)]
    exact filled.begins i before
  · rcases Nat.lt_succ_iff_lt_or_eq.mp upTo with earlier | rfl
    · rw [writeByte, List.getElem?_set_ne (by omega)]
      exact filled.continues i after earlier
    · have read : bytes.getD (i % head.length) 0 = head[i % head.length] := by
        rw [List.getD_eq_getElem?_getD, filled.begins _ early, List.getElem?_eq_getElem early]
        rfl
      rw [writeByte, List.getElem?_set_self inside, read, List.getElem?_eq_getElem early]
      rfl

theorem Filled.run {count : Nat} (filled : Filled head bytes k) (some : 0 < head.length)
    (behind : head.length ≤ k) (inside : k + count ≤ bytes.length) :
    Filled head (writeBytes head.length bytes (List.range' k count)) (k + count) := by
  induction count generalizing bytes k with
  | zero => exact filled
  | succ count ih =>
    have next : k + (count + 1) = k + 1 + count := by omega
    rw [List.range'_succ, next]
    refine ih (filled.step some behind (by omega)) (Nat.le_succ_of_le behind) ?_
    rw [writeByte, List.length_set]
    omega

theorem filled_padded (short : head.length ≤ length) : Filled head (padded head) head.length where
  begins i before := by
    rw [padded, List.getElem?_take_of_lt (before.trans_le short), List.getElem?_append_left before]
  continues i after before := absurd before (Nat.not_lt.mpr after)

/-- A seed begins with the bytes of a name, as many as go into it, and goes on with earlier bytes
plus their new position. -/
structure Continues (s : Seed) (name : List UInt8) : Prop where
  some : 0 < min name.length length
  begins : ∀ i < min name.length length, s.bytes[i]? = name[i]?
  goesOn : ∀ i, min name.length length ≤ i → i < length → ∃ x y : UInt8,
    name[i % min name.length length]? = .some x ∧ s.bytes[i]? = .some y ∧
      y.toNat = (x.toNat + i) % 256

theorem continues_ofHead (some : name ≠ []) : (ofHead name).Continues name := by
  have count : (name.take length).length = min name.length length := by
    rw [List.length_take, Nat.min_comm]
  have some : 0 < min name.length length := by
    have := List.length_pos_iff.mpr some
    have : 0 < length := by decide
    omega
  have short : (name.take length).length ≤ length := List.length_take_le _ _
  have whole : (name.take length).length + (length - (name.take length).length) = length := by omega
  have filled : Filled (name.take length) (ofHead name).bytes
      ((name.take length).length + (length - (name.take length).length)) :=
    (filled_padded short).run (by omega) (Nat.le_refl _) (by rw [length_padded]; omega)
  rw [whole] at filled
  have read : ∀ i < min name.length length, (name.take length)[i]? = name[i]? := fun i before =>
    List.getElem?_take_of_lt (by omega)
  refine ⟨some, fun i before => ?_, fun i after inside => ?_⟩
  · exact (filled.begins i (by omega)).trans (read i before)
  · have early : i % min name.length length < min name.length length := Nat.mod_lt i some
    have there : i % min name.length length < name.length := by omega
    have byte : (ofHead name).bytes[i]? = .some (name[i % min name.length length] + i.toUInt8) := by
      refine (filled.continues i (by omega) inside).trans ?_
      rw [count, read _ early, List.getElem?_eq_getElem there]
      rfl
    refine ⟨_, _, List.getElem?_eq_getElem there, byte, ?_⟩
    rw [UInt8.toNat_add, Nat.toUInt8_eq, UInt8.toNat_ofNat', Nat.add_mod_mod]

/-- There is a seed of a name just if the name has bytes, and it continues them. -/
theorem derive_eq_ok {serviceId : Text} (h : derive serviceId = .ok s) :
    ∃ name, Utf8.encode serviceId = .some name ∧ s.Continues name := by
  unfold derive at h
  split at h
  · cases h
  next bytes some encoded =>
    cases h
    exact ⟨_, encoded, continues_ofHead fun none => some none⟩
  · cases h
  · cases h

/-- There is none for the empty name, and for one that is not Unicode. -/
theorem derive_eq_error_iff {serviceId : Text} :
    (∃ fault, derive serviceId = .error fault) ↔
      serviceId = Text.empty ∨ ∃ u, Utf8.unencodable? serviceId = .some u := by
  have unicode := (Utf8.encode_isSome serviceId).symm
  have half := Utf8.unencodable?_isSome serviceId
  rw [unicode] at half
  rw [← Utf8.encode_eq_nil_iff]
  unfold derive
  cases encoded : Utf8.encode serviceId with
  | none =>
    rw [encoded] at half
    obtain ⟨u, found⟩ := Option.isSome_iff_exists.mp half
    rw [found]
    exact iff_of_true ⟨_, rfl⟩ (Or.inr ⟨u, rfl⟩)
  | some name =>
    rw [encoded] at half
    have whole : Utf8.unencodable? serviceId = none := by simpa using half
    rw [whole]
    cases name with
    | nil => exact iff_of_true ⟨_, rfl⟩ (Or.inl rfl)
    | cons b bytes => exact iff_of_false (by rintro ⟨_, h⟩; cases h) (by simp)

end Seed

/-! ### Configurations -/

namespace ShimConfig

open Form

/-- A configuration holds what its filled form holds. -/
structure Reflects (c : ShimConfig) (values : List (Text × Value)) : Prop where
  /-- A seed is one that is given. -/
  seed : ∀ bytes, valueOf values "seed" = .bytes bytes ↔ c.seed.map (·.bytes) = some bytes
  environment : valueOf values "env_vars" = .dict (c.environment.map fun e => (.text e.1, .text e.2))
  /-- No variable is given two values. -/
  distinct : (c.environment.map (·.1)).Nodup
  memory : valueOf values "memory_range" = .tuple [.int c.memory.start, .int c.memory.stop]
  required : valueOf values "required_env_vars" = .tuple (c.required.map .text)

variable {entries : List (Value × Value)} {values : List (Text × Value)} {c : ShimConfig}

theorem fills (filled : form.fill entries = .ok values) (name : Text) {presence : Presence}
    {shape : Shape} (member : (name, presence, shape) ∈ form.fields) :
    form.Fills entries (name, presence, shape) (valueOf values name) := by
  have all : ∀ f ∈ form.fields, f.2.1 ≠ .optional := by simp [form]
  have distinct : (form.fields.map (·.1)).Nodup := by decide +kernel
  exact fills_valueOf (fill_eq_ok all filled) distinct member

/-- Bytes that are accepted as a seed are as many as a seed has. -/
theorem length_of_seed (filled : form.fill entries = .ok values) {bytes : List UInt8}
    (given : valueOf values "seed" = .bytes bytes) : bytes.length = Seed.length := by
  have seed : form.Fills entries ("seed", .default .null, .nullable (.bytes {})) _ :=
    fills filled "seed" (by simp [form])
  rw [given] at seed
  cases seed with
  | @given x y _ found made ruled =>
    have rule : form.rule "seed" = seedRule := rfl
    rw [rule] at ruled
    unfold seedRule at ruled
    split at ruled
    · split at ruled
      next whole =>
        cases ruled
        exact whole
      · cases ruled
    next other =>
      cases ruled
      exact absurd rfl (other bytes)
  | default absent presence => cases presence

theorem pairs_map (rows : List (Text × Text)) :
    pairs (.dict (rows.map fun r => (.text r.1, .text r.2))) = rows := by
  rw [pairs, List.map_map]
  exact List.map_id rows

theorem environment_of_fill (filled : form.fill entries = .ok values) : ∃ rows : List (Text × Text),
    valueOf values "env_vars" = .dict (rows.map fun r => (.text r.1, .text r.2)) ∧
      (rows.map (·.1)).Nodup := by
  have environment : form.Fills entries
      ("env_vars", .default (.dict []), .dict (.str {} none) (.str {} none) {}) _ :=
    fills filled "env_vars" (by simp [form])
  generalize valueOf values "env_vars" = z at environment
  cases environment with
  | @given x y _ found made ruled =>
    obtain rfl : y = z := Except.ok.inj ruled
    refine ⟨(PolicyFile.rowsIn x).map fun r => (r.1, (Check.textOf? r.2).getD Text.empty), ?_, ?_⟩
    · rw [PolicyFile.dictOf_makes PolicyFile.str_makes_text made, List.map_map]
      rfl
    · rw [List.map_map]
      exact PolicyFile.rowsIn_nodup x
  | default absent presence =>
    cases presence
    exact ⟨[], rfl, List.nodup_nil⟩

theorem required_of_fill (filled : form.fill entries = .ok values) : ∃ names : List Text,
    valueOf values "required_env_vars" = .tuple (names.map .text) := by
  have required : form.Fills entries
      ("required_env_vars", .default (.tuple []), .tupleOf (.str {} none) {}) _ :=
    fills filled "required_env_vars" (by simp [form])
  generalize valueOf values "required_env_vars" = z at required
  cases required with
  | @given x y _ found made ruled =>
    obtain rfl : y = z := Except.ok.inj ruled
    obtain ⟨a, accepted, rfl⟩ := made
    rw [Form.check, Shape.checkWithin] at accepted
    split at accepted
    · cases accepted
    next xs right items =>
      obtain ⟨ys, made, value⟩ := Check.tupleOf_eq_ok accepted
      have texts := Check.texts_of_makes (Check.atIndices_gives made)
      exact ⟨_, value.trans (congrArg Value.tuple texts)⟩
  | default absent presence =>
    cases presence
    exact ⟨[], rfl⟩

/-- The bounds of a range are the two numbers that are given for it. -/
theorem memory_of_bounds {v : Value} {r : MemoryRange}
    (made : MemoryRange.ofInts? (bounds v).1 (bounds v).2 = some r) :
    v = .tuple [.int r.start, .int r.stop] := by
  unfold MemoryRange.ofInts? at made
  split at made
  next ordered =>
    cases made
    unfold bounds at ordered ⊢
    split at ordered
    next a b =>
      dsimp only at ordered ⊢
      rw [Int.toNat_of_nonneg ordered.1, Int.toNat_of_nonneg (by omega)]
    · cases ordered.2.1
  · cases made

theorem reflects_of_ofEntries (h : ofEntries entries = .ok c) :
    ∃ values, form.fill entries = .ok values ∧ c.Reflects values := by
  unfold ofEntries at h
  obtain ⟨values, filled, h⟩ := bind_eq_ok.mp h
  dsimp only at h
  split at h
  · cases h
  next memory made =>
    cases h
    obtain ⟨rows, environment, distinct⟩ := environment_of_fill filled
    obtain ⟨names, required⟩ := required_of_fill filled
    refine ⟨values, filled, ?_, ?_, ?_, memory_of_bounds made, ?_⟩
    · intro bytes
      dsimp only
      constructor
      · intro given
        rw [given]
        dsimp only
        rw [Seed.ofBytes?, dif_pos (length_of_seed filled given)]
        rfl
      · intro taken
        split at taken
        next given =>
          obtain ⟨seed, made, rfl⟩ := Option.map_eq_some_iff.mp taken
          rw [Seed.ofBytes?, dif_pos (length_of_seed filled given)] at made
          cases made
          exact given
        · cases taken
    · dsimp only
      rw [environment, pairs_map]
    · dsimp only
      rw [environment, pairs_map]
      exact distinct
    · dsimp only
      rw [required]
      exact congrArg Value.tuple (congrArg (List.map Value.text) (Value.texts_map names).symm)

end ShimConfig

/-! ### Shims -/

theorem MemoryRange.mem_ids {r : MemoryRange} {n : Nat} :
    n ∈ r.ids ↔ r.start ≤ n ∧ n < r.stop := by
  have ordered := r.start_lt_stop
  rw [ids, List.mem_range'_1]
  omega

namespace Shim

/-- What can be relied on in a shim that a configuration brings up in a service. -/
structure Keeps (s : Shim) (c : ShimConfig) (serviceId : Text) : Prop where
  length : s.seed.bytes.length = 32
  /-- The seed is the one that is given. -/
  given : ∀ seed, c.seed = some seed → s.seed = seed
  /-- If none is given, it continues the bytes of the service's name. -/
  derived : c.seed = none → ∃ name, Utf8.encode serviceId = some name ∧ s.seed.Continues name
  /-- A variable has the value that is given for it. -/
  values : ∀ name value, (name, value) ∈ c.environment → s.lookup? name = some value
  complete : ∀ name ∈ c.required, ∃ value, (name, value) ∈ c.environment
  numbers : ∀ n, n ∈ s.memory.ids ↔ c.memory.start ≤ n ∧ n < c.memory.stop
  some : s.memory.ids ≠ []
  bounded : ∀ n ∈ s.memory.ids, n ≤ 254

variable {entries : List (Value × Value)} {c : ShimConfig} {s : Shim} {serviceId : Text}

theorem missing_eq_nil_iff :
    c.missing = [] ↔ ∀ name ∈ c.required, ∃ value, (name, value) ∈ c.environment := by
  rw [ShimConfig.missing, List.filter_eq_nil_iff]
  refine forall₂_congr fun name _ => ?_
  simp

/-- With all that is required, what is missing is at most a seed. -/
theorem keeps_of_seed (distinct : (c.environment.map (·.1)).Nodup) (complete : c.missing = [])
    {seed : Seed} (given : ∀ seed', c.seed = some seed' → seed = seed')
    (derived : c.seed = none → ∃ name, Utf8.encode serviceId = some name ∧ seed.Continues name) :
    Keeps { seed, environment := c.environment, memory := c.memory } c serviceId where
  length := seed.length_eq
  given := given
  derived := derived
  values name value among := by
    have found : c.environment.find? (·.1 == name) = .some (name, value) :=
      find?_of_nodup distinct among
    rw [lookup?, found]
    rfl
  complete := missing_eq_nil_iff.mp complete
  numbers _ := MemoryRange.mem_ids
  some := List.ne_nil_of_mem (MemoryRange.mem_ids.mpr ⟨Nat.le_refl _, c.memory.start_lt_stop⟩)
  bounded n among := by
    have inside : n < c.memory.stop := (MemoryRange.mem_ids.mp among).2
    have last := c.memory.stop_le
    omega

theorem keeps_of_ofConfig (distinct : (c.environment.map (·.1)).Nodup)
    (made : ofConfig c serviceId = .ok s) : s.Keeps c serviceId := by
  unfold ofConfig at made
  split at made
  next complete =>
    split at made
    next seed given =>
      cases made
      refine keeps_of_seed distinct complete (fun seed' given' => ?_) fun none => ?_
      · exact Option.some.inj (given.symm.trans given')
      · cases given.symm.trans none
    next none =>
      split at made
      next seed derived =>
        cases made
        exact keeps_of_seed distinct complete (fun seed' given => by cases none.symm.trans given)
          fun _ => Seed.derive_eq_ok derived
      · cases made
  · cases made

/-- A shim is refused if something is missing that is required, or if there is no seed to be had. -/
theorem ofConfig_eq_error_iff : (∃ e, ofConfig c serviceId = .error e) ↔
    (∃ name ∈ c.required, ∀ value, (name, value) ∉ c.environment) ∨
      c.seed = none ∧ (serviceId = Text.empty ∨ ∃ u, Utf8.unencodable? serviceId = some u) := by
  have incomplete :
      (∃ name ∈ c.required, ∀ value, (name, value) ∉ c.environment) ↔ c.missing ≠ [] := by
    rw [Ne, missing_eq_nil_iff]
    push Not
    rfl
  rw [incomplete, ← Seed.derive_eq_error_iff]
  unfold ofConfig
  split
  next complete =>
    rw [complete]
    split
    next seed given => exact iff_of_false (by rintro ⟨_, h⟩; cases h) (by simp [given])
    next none =>
      split
      next seed derived => exact iff_of_false (by rintro ⟨_, h⟩; cases h) (by simp [derived])
      next fault underived => exact iff_of_true ⟨_, rfl⟩ (Or.inr ⟨none, fault, underived⟩)
  next missing => exact iff_of_true ⟨_, rfl⟩ (Or.inl missing)

/-- **What a shim can be relied on for**: of every configuration that is read, and in every service,
applying the extension ends in an error of its own or in a shim.  The shim has a seed, the one that is
given or else one that continues the bytes of the service's name, the variables as they are given,
those among them that are required, and the numbers of the range that is given, which are some and at
most 254.  The error comes just where a required variable is not given, or where no seed is and the
service's name is empty or not Unicode. -/
theorem apply_exact (read : ShimConfig.ofEntries entries = .ok c) (context : BootstrapContext Shim) :
    let state := ((extension id id).apply c.extensionConfig context).state
    (∃ values, ShimConfig.form.fill entries = .ok values ∧ c.Reflects values) ∧
    (∀ s, state = .ok s → s.Keeps c context.serviceId) ∧
    (∀ failure, state = .error failure → ∃ e, failure = .refused e) ∧
    ((∃ failure, state = .error failure) ↔
      (∃ name ∈ c.required, ∀ value, (name, value) ∉ c.environment) ∨
        c.seed = none ∧
          (context.serviceId = Text.empty ∨ ∃ u, Utf8.unencodable? context.serviceId = some u)) := by
  intro state
  obtain ⟨values, filled, reflects⟩ := ShimConfig.reflects_of_ofEntries read
  have applied : state = (ofConfig c context.serviceId).mapError .refused := by
    show ((extension id id).apply c.extensionConfig context).state = _
    unfold extension
    dsimp only
    split
    next missing => cases missing
    next config given =>
      cases given
      cases ofConfig c context.serviceId <;> rfl
  rw [applied, ← ofConfig_eq_error_iff]
  refine ⟨⟨values, filled, reflects⟩, fun s made => ?_, fun failure failed => ?_, ?_⟩
  · cases result : ofConfig c context.serviceId with
    | error e =>
      rw [result] at made
      cases made
    | ok s' =>
      rw [result] at made
      cases made
      exact keeps_of_ofConfig reflects.distinct result
  · obtain ⟨e, -, rfl⟩ := mapError_eq_error.mp failed
    exact ⟨e, rfl⟩
  · constructor
    · rintro ⟨failure, failed⟩
      obtain ⟨e, refused, -⟩ := mapError_eq_error.mp failed
      exact ⟨e, refused⟩
    · rintro ⟨e, refused⟩
      exact ⟨_, mapError_eq_error.mpr ⟨e, refused, rfl⟩⟩

/-- What is given for a shim of which a variable is required, with its name as bytes, and a range that
is as wide as can be. -/
def givenShim : List (Value × Value) := [
  (.text "env_vars", .dict [(.bytes [0x41], .text "1"), (.text "B", .text "")]),
  (.text "required_env_vars", .list [.text "A"]),
  (.text "memory_range", .tuple [.bool false, .text "255"])]

/-- How it is read. -/
def givenConfig : ShimConfig where
  environment := [("A", "1"), ("B", "")]
  memory := { start := 0, stop := 255 }
  required := ["A"]

/-- In a service whose name has two bytes the shim is ready: the variable that is required has its
value, and every later byte of the seed comes from the first byte of the name or the second. -/
theorem apply_exact_ready : ∃ c s,
    ShimConfig.ofEntries givenShim = .ok c ∧
    ((extension id id).apply c.extensionConfig { serviceId := "é", ready := [] }).state = .ok s ∧
    s.Keeps c "é" ∧ s.lookup? "A" = some "1" ∧
    s.seed.bytes.take 4 = [0xC3, 0xA9, 0xC5, 0xAC] := by
  have ready : ((extension id id).apply givenConfig.extensionConfig
      { serviceId := "é", ready := [] }).state
      = .ok { givenConfig with seed := .ofHead [0xC3, 0xA9] } := rfl
  obtain ⟨c, read, same⟩ := ok_of_any (p := (· == givenConfig))
    (by decide +kernel : (ShimConfig.ofEntries givenShim).toOption.any _ = true)
  rw [eq_of_beq same] at read
  obtain ⟨-, keeps, -, -⟩ := apply_exact read { serviceId := "é", ready := [] }
  exact ⟨_, _, read, ready, keeps _ ready, rfl, rfl⟩

end Shim

end GuardedTools
