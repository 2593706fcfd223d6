import GuardedTools.Proofs.Basic
import GuardedTools.Proofs.Json.Members
import GuardedTools.Proofs.Text
import Mathlib.Logic.Relation

/-!
# Roles that claims name

Verified claims name the roles of a caller in several ways: in a list, in which what is no text counts for
nothing, or in one text with commas between the names, and one of the roles may be named apart
(`NamesRoles`).  The identity depends on the roles only, and not on the way in which they are named.

Which names are one role is said by rewriting: letters may be written in another case, and blanks may stand
at the ends (`Respelled`).  Two names are brought into one normal form exactly if one of them is made of the
other in this way (`normalRole_eq_iff`), because blanks at the ends have no part in which letters are small
(`Text.lower_trim`), and the normal form is a spelling itself, so that it makes no difference whether roles
are brought into it once or again (`Identity.of_normalRoles_same`).  So two identities have the same roles
exactly if each name of one is a spelling of a name of the other, in whatever order and however often, names
that are blank left out (`SameRoles`).
-/

namespace GuardedTools

/-! ### Spellings of a role -/

/-- A name in another spelling. -/
inductive Respelled : Text → Text → Prop where
  /-- Letters are written in another case. -/
  | letters {r s : Text} (same : r.lower = s.lower) : Respelled r s
  /-- Blanks stand at the ends. -/
  | padded {before after : Text} (blank : before.isBlank = true) (blank' : after.isBlank = true) (r : Text) :
    Respelled r (before ++ r ++ after)

/-- Two names are spellings of one role. -/
def SameRole : Text → Text → Prop := Relation.EqvGen Respelled

theorem Respelled.normalRole_eq {r s : Text} (h : Respelled r s) : normalRole r = normalRole s := by
  cases h with
  | letters same => rw [normalRole, normalRole, Text.lower_trim, Text.lower_trim, same]
  | padded blank blank' => rw [normalRole, normalRole, Text.trim_padded blank blank']

theorem Respelled.isBlank_eq {r s : Text} (h : Respelled r s) : r.isBlank = s.isBlank := by
  cases h with
  | letters same => rw [← Text.isBlank_lower, same, Text.isBlank_lower]
  | padded blank blank' => rw [Text.isBlank_append, Text.isBlank_append, blank, blank', Bool.true_and, Bool.and_true]

/-- What no other spelling changes is one for all spellings of a role. -/
theorem SameRole.eq_of {α : Type} {f : Text → α} (kept : ∀ {r s}, Respelled r s → f r = f s) {r s : Text}
    (h : SameRole r s) : f r = f s := by
  induction h with
  | rel _ _ h => exact kept h
  | refl _ => rfl
  | symm _ _ _ ih => exact ih.symm
  | trans _ _ _ _ _ first second => exact first.trans second

theorem sameRole_trim (r : Text) : SameRole r.trim r := by
  obtain ⟨before, after, blank, blank', parts⟩ := r.exists_padding
  have padded : Respelled r.trim (before ++ r.trim ++ after) := .padded blank blank' r.trim
  rw [← parts] at padded
  exact .rel _ _ padded

/-- **The normal form of a role**: two names have one exactly if they are spellings of one role. -/
theorem normalRole_eq_iff {r s : Text} : normalRole r = normalRole s ↔ SameRole r s := by
  constructor
  · intro same
    have trimmed : SameRole r.trim s.trim := .rel _ _ (.letters same)
    exact .trans _ _ _ (.symm _ _ (sameRole_trim r)) (.trans _ _ _ trimmed (sameRole_trim s))
  · exact SameRole.eq_of Respelled.normalRole_eq

/-- The normal form of a role is one of its spellings. -/
theorem sameRole_normalRole (r : Text) : SameRole (normalRole r) r := by
  have letters : Respelled (normalRole r) r.trim := .letters r.trim.lower_lower
  exact .trans _ _ _ (.rel _ _ letters) (sameRole_trim r)

/-! ### Roles of an identity -/

/-- Each name that is not blank is a spelling of a role that the others name. -/
def RolesAmong (names others : List Text) : Prop :=
  ∀ name ∈ names, name.isBlank = false → ∃ other ∈ others, SameRole name other

/-- The same roles are named, in whatever order, however often and in whatever spellings. -/
def SameRoles (names others : List Text) : Prop := RolesAmong names others ∧ RolesAmong others names

theorem RolesAmong.of_subset {names others : List Text} (h : names ⊆ others) : RolesAmong names others :=
  fun name member _ => ⟨name, h member, .refl name⟩

theorem RolesAmong.trans {names others more : List Text} (h : RolesAmong names others)
    (h' : RolesAmong others more) : RolesAmong names more := by
  intro name member solid
  obtain ⟨other, found, same⟩ := h name member solid
  have solid' : other.isBlank = false := (same.eq_of Respelled.isBlank_eq).symm.trans solid
  obtain ⟨last, found', same'⟩ := h' other found solid'
  exact ⟨last, found', .trans _ _ _ same same'⟩

theorem RolesAmong.append {names more others : List Text} (h : RolesAmong names others)
    (h' : RolesAmong more others) : RolesAmong (names ++ more) others := by
  intro name member
  rcases List.mem_append.mp member with member | member
  · exact h name member
  · exact h' name member

theorem SameRoles.of_subset {names others : List Text} (h : names ⊆ others) (h' : others ⊆ names) :
    SameRoles names others := ⟨.of_subset h, .of_subset h'⟩

theorem SameRoles.symm {names others : List Text} (h : SameRoles names others) : SameRoles others names :=
  And.symm h

theorem SameRoles.trans {names others more : List Text} (h : SameRoles names others)
    (h' : SameRoles others more) : SameRoles names more := ⟨h.1.trans h'.1, h'.2.trans h.2⟩

/-- Further roles can be named beside on both sides. -/
theorem SameRoles.append_right {names others : List Text} (h : SameRoles names others) (more : List Text) :
    SameRoles (names ++ more) (others ++ more) := by
  have left {rs ss : List Text} (h : RolesAmong rs ss) : RolesAmong (rs ++ more) (ss ++ more) :=
    (h.trans (.of_subset (List.subset_append_left ss more))).append (.of_subset (List.subset_append_right ss more))
  exact ⟨left h.1, left h.2⟩

theorem mem_normalRoles_iff {names : List Text} {role : Text} :
    role ∈ normalRoles names ↔ ∃ name ∈ names, name.isBlank = false ∧ role = normalRole name := by
  rw [normalRoles, List.mem_eraseDups, List.mem_map]
  constructor
  · rintro ⟨name, among, rfl⟩
    obtain ⟨member, solid⟩ := List.mem_filter.mp among
    exact ⟨name, member, Bool.not_eq_true' _ ▸ solid, rfl⟩
  · rintro ⟨name, member, solid, rfl⟩
    exact ⟨name, List.mem_filter.mpr ⟨member, Bool.not_eq_true' _ ▸ solid⟩, rfl⟩

theorem normalRoles_subset_iff {names others : List Text} :
    (∀ role ∈ normalRoles names, role ∈ normalRoles others) ↔ RolesAmong names others := by
  constructor
  · intro within name member solid
    have own := mem_normalRoles_iff.mpr ⟨name, member, solid, rfl⟩
    obtain ⟨other, found, -, same⟩ := mem_normalRoles_iff.mp (within _ own)
    exact ⟨other, found, normalRole_eq_iff.mp same⟩
  · intro among role own
    obtain ⟨name, member, solid, rfl⟩ := mem_normalRoles_iff.mp own
    obtain ⟨other, found, same⟩ := among name member solid
    have solid' : other.isBlank = false := (same.eq_of Respelled.isBlank_eq).symm.trans solid
    exact mem_normalRoles_iff.mpr ⟨other, found, solid', normalRole_eq_iff.mpr same⟩

/-- The normal forms of roles name the same roles. -/
theorem sameRoles_normalRoles (names : List Text) : SameRoles (normalRoles names) names := by
  constructor
  · intro role own _
    obtain ⟨name, member, -, rfl⟩ := mem_normalRoles_iff.mp own
    exact ⟨name, member, sameRole_normalRole name⟩
  · intro name member solid
    exact ⟨_, mem_normalRoles_iff.mpr ⟨name, member, solid, rfl⟩, .symm _ _ (sameRole_normalRole name)⟩

theorem Identity.same_of_iff (principal : Text) {names others : List Text} :
    (Identity.of principal names).same (Identity.of principal others) = true ↔ SameRoles names others := by
  rw [SameRoles, ← normalRoles_subset_iff, ← normalRoles_subset_iff]
  simp [Identity.same, Identity.of, List.all_eq_true]

/-- An identity is the same when its roles were in normal form before. -/
theorem Identity.of_normalRoles_same (principal : Text) (names : List Text) :
    (Identity.of principal (normalRoles names)).same (Identity.of principal names) = true :=
  (Identity.same_of_iff principal).mpr (sameRoles_normalRoles names)

/-! ### Claims that name roles -/

/-- The texts among values are names, one after the other; the other values are no texts. -/
inductive Interspersed : List Text → List Value → Prop where
  | nil : Interspersed [] []
  | name {names : List Text} {values : List Value} (name : Text) (rest : Interspersed names values) :
    Interspersed (name :: names) (.text name :: values)
  | other {names : List Text} {values : List Value} {v : Value} (noText : v.wording? = none)
    (rest : Interspersed names values) : Interspersed names (v :: values)

/-- A name with blanks at its ends. -/
def Padded (name item : Text) : Prop :=
  ∃ before after : Text, before.isBlank = true ∧ after.isBlank = true ∧ item = before ++ name ++ after

/-- A value names several roles. -/
inductive ListsRoles : Value → List Text → Prop where
  /-- A list has the names among its items. -/
  | list {names : List Text} {values : List Value} (among : Interspersed names values) :
    ListsRoles (.list values) names
  /-- A text has commas between the names, which have none themselves, and blanks around them. -/
  | text {names items : List Text} (free : ∀ name ∈ names, name.containsChar ',' = false)
    (padded : List.Forall₂ Padded names items) : ListsRoles (.text (Text.intercalate "," items)) names

/-- Claims name roles. -/
inductive NamesRoles (claims : Value) : List Text → Prop where
  /-- All of them are named by one claim. -/
  | together {names : List Text} {several : Value} (roles : claims.get? "roles" = some several)
    (listed : ListsRoles several names) (noRole : ∀ name, claims.get? "role" ≠ some (.text name)) :
    NamesRoles claims names
  /-- One of them, wherever it stands, is named apart. -/
  | apart {before after : List Text} {name : Text} {several : Value} (roles : claims.get? "roles" = some several)
    (listed : ListsRoles several (before ++ after)) (role : claims.get? "role" = some (.text name)) :
    NamesRoles claims (before ++ name :: after)

theorem Value.get?_ofMembers_nil (key : Text) : (Value.ofMembers []).get? key = none := rfl

theorem Value.get?_ofMembers_cons (k key : Text) (v : Value) (ms : List (Text × Value)) :
    (Value.ofMembers ((k, v) :: ms)).get? key = if k = key then some v else (Value.ofMembers ms).get? key := by
  rw [Value.ofMembers, List.map_cons, Value.get?, Value.find?, Value.same]
  simp only [beq_iff_eq]
  rfl

/-- A value that is no text is passed over. -/
theorem Value.texts_cons_of_wording? {v : Value} (noText : v.wording? = none) (values : List Value) :
    Value.texts (v :: values) = Value.texts values := by
  rw [Value.texts, List.filterMap_cons]
  split
  · rfl
  · next t found =>
    split at found
    · cases noText
    · cases noText
    · cases found

theorem Interspersed.texts_eq {names : List Text} {values : List Value} (h : Interspersed names values) :
    Value.texts values = names := by
  induction h with
  | nil => rfl
  | name name _ ih => exact congrArg (name :: ·) ih
  | other noText _ ih => rw [Value.texts_cons_of_wording? noText, ih]

theorem Padded.containsChar_eq_false {name item : Text} (h : Padded name item)
    (free : name.containsChar ',' = false) : item.containsChar ',' = false := by
  obtain ⟨before, after, blank, blank', rfl⟩ := h
  have comma : CodePoint.isBlank (.scalar ',') = false :=
    Text.inRanges_eq_false_of_mem (by decide) (List.mem_singleton_self 0x2C)
  rw [Text.containsChar_append, Text.containsChar_append, free, Text.containsChar_of_isBlank comma blank,
    Text.containsChar_of_isBlank comma blank']
  rfl

theorem Padded.sameRole {name item : Text} (h : Padded name item) : SameRole name item := by
  obtain ⟨before, after, blank, blank', rfl⟩ := h
  exact .rel _ _ (.padded blank blank' name)

/-- The names that are found in a claim are those that it lists, but for blanks. -/
theorem ListsRoles.sameRoles {claims several : Value} {names : List Text}
    (roles : claims.get? "roles" = some several) (h : ListsRoles several names) :
    SameRoles (Identity.listedRoles claims) names := by
  rw [Identity.listedRoles, roles]
  cases h with
  | list among =>
    show SameRoles (Value.texts _) names
    rw [among.texts_eq]
    exact .of_subset (List.Subset.refl _) (List.Subset.refl _)
  | @text names items free padded =>
    by_cases empty : items = []
    · subst empty
      -- the text is empty, and between its commas there is one blank name
      obtain rfl := List.forall₂_nil_right_iff.mp padded
      refine ⟨?_, .of_subset (List.nil_subset _)⟩
      intro name member solid
      obtain rfl := List.mem_singleton.mp member
      cases solid
    · have comma : ("," : Text).points = [.scalar ','] := rfl
      have apart : ∀ item ∈ items, item.containsChar ',' = false := by
        intro item member
        obtain ⟨name, among, pads⟩ := exists_left_of_mem padded member
        exact pads.containsChar_eq_false (free name among)
      show SameRoles ((Text.intercalate "," items).splitOn ',') names
      rw [Text.splitOn_intercalate comma empty apart]
      constructor
      · intro item member _
        obtain ⟨name, among, pads⟩ := exists_left_of_mem padded member
        exact ⟨name, among, .symm _ _ pads.sameRole⟩
      · intro name member _
        obtain ⟨item, among, pads⟩ := exists_right_of_mem padded member
        exact ⟨item, among, pads.sameRole⟩

/-- The names that are found in claims are those that the claims name, but for blanks and their order. -/
theorem NamesRoles.sameRoles {claims : Value} {names : List Text} (h : NamesRoles claims names) :
    SameRoles (Identity.listedRoles claims ++ Identity.singleRole claims) names := by
  cases h with
  | together roles listed noRole =>
    have none : Identity.singleRole claims = [] := by
      unfold Identity.singleRole
      split
      · next name role => exact absurd role (noRole name)
      · rfl
    rw [none, List.append_nil]
    exact listed.sameRoles roles
  | @apart before after name several roles listed role =>
    have one : Identity.singleRole claims = [name] := by rw [Identity.singleRole, role]
    have moved : (before ++ after ++ [name]).Perm (before ++ name :: after) := by
      rw [List.append_assoc]
      exact List.Perm.append_left before (List.perm_append_singleton name after)
    rw [one]
    exact ((listed.sameRoles roles).append_right [name]).trans (.of_subset moved.subset moved.symm.subset)

namespace Identity

/-- Claims whose first claim names a principal give the identity of this principal. -/
theorem ofClaims_eq_of {claims : Value} {subject : Text} (named : claims.get? "sub" = some (.text subject))
    (visible : subject.isBlank = false) :
    ofClaims claims = .ok (of subject.trim (listedRoles claims ++ singleRole claims)) := by
  have first : principalOf claims "sub" = some subject.trim := by
    rw [principalOf, named]
    dsimp only
    rw [visible, if_neg Bool.false_ne_true]
  have found : subjectClaims.findSome? (principalOf claims) = some subject.trim := by
    rw [subjectClaims, List.findSome?_cons, first]
  rw [ofClaims, found]

/-- **Roles in claims**: claims of one principal give an identity in whatever way they name its roles, and two
identities are the same exactly if the claims name the same roles: together or with one of them apart, in a
list or with commas, in any order, however often, and in letters of any case with blanks at the ends.  The
roles are the names that are not blank, without the blanks at their ends and in small letters. -/
theorem ofClaims_alike {claims others : Value} {subject : Text} {names otherNames : List Text}
    (named : claims.get? "sub" = some (.text subject)) (named' : others.get? "sub" = some (.text subject))
    (visible : subject.isBlank = false) (roles : NamesRoles claims names)
    (roles' : NamesRoles others otherNames) :
    ∃ i j, ofClaims claims = .ok i ∧ ofClaims others = .ok j ∧ i.principal = some subject.trim ∧
      (∀ role, role ∈ i.roles ↔ ∃ name ∈ names, name.isBlank = false ∧ role = name.trim.lower) ∧
      (i.same j = true ↔ SameRoles names otherNames) := by
  refine ⟨_, _, ofClaims_eq_of named visible, ofClaims_eq_of named' visible, rfl, ?_, ?_⟩
  · intro role
    obtain ⟨within, back⟩ := roles.sameRoles
    have same := (⟨normalRoles_subset_iff.mpr within role, normalRoles_subset_iff.mpr back role⟩ : _ ↔ _)
    exact same.trans mem_normalRoles_iff
  · rw [same_of_iff]
    constructor
    · intro same
      exact roles.sameRoles.symm.trans (same.trans roles'.sameRoles)
    · intro same
      exact roles.sameRoles.trans (same.trans roles'.sameRoles.symm)

/-- Claims that list roles among other things. -/
def listing : Value := .ofMembers [
  ("sub", .text " ann "), ("roles", .list [.text "Admin", .int 7, .text " viewer", .text "", .text "ops"])]

/-- Claims that name the same roles with commas, and one of them apart. -/
def joining : Value := .ofMembers [
  ("sub", .text " ann "), ("roles", .text "ops\t, VIEWER,ops"), ("role", .text "ADMIN ")]

/-- A list and a text with commas give one identity. -/
theorem ofClaims_alike_joining :
    ∃ i j, ofClaims listing = .ok i ∧ ofClaims joining = .ok j ∧ i.same j = true := by
  have named : listing.get? "sub" = some (.text " ann ") := by simp [listing, Value.get?_ofMembers_cons]
  have named' : joining.get? "sub" = some (.text " ann ") := by simp [joining, Value.get?_ofMembers_cons]
  have listed : NamesRoles listing ["Admin", " viewer", "", "ops"] := by
    have several : listing.get? "roles"
        = some (.list [.text "Admin", .int 7, .text " viewer", .text "", .text "ops"]) := by
      simp [listing, Value.get?_ofMembers_cons]
    have none : listing.get? "role" = none := by
      simp [listing, Value.get?_ofMembers_cons, Value.get?_ofMembers_nil]
    refine .together several (.list ?_) fun name role => ?_
    · exact .name _ (.other rfl (.name _ (.name _ (.name _ .nil))))
    · rw [none] at role
      cases role
  have joined : NamesRoles joining ["ops", "VIEWER", "ops", "ADMIN "] := by
    have several : joining.get? "roles"
        = some (.text (Text.intercalate "," ["ops\t", " VIEWER", "ops"])) := by
      simp only [joining, Value.get?_ofMembers_cons]
      rfl
    have apart : joining.get? "role" = some (.text "ADMIN ") := by simp [joining, Value.get?_ofMembers_cons]
    have free : ∀ name ∈ [("ops" : Text), "VIEWER", "ops"], name.containsChar ',' = false := by decide +kernel
    have padded : List.Forall₂ Padded ["ops", "VIEWER", "ops"] ["ops\t", " VIEWER", "ops"] :=
      .cons ⟨"", "\t", by decide +kernel, by decide +kernel, by decide +kernel⟩
        (.cons ⟨" ", "", by decide +kernel, by decide +kernel, by decide +kernel⟩
          (.cons ⟨"", "", by decide +kernel, by decide +kernel, by decide +kernel⟩ .nil))
    exact @NamesRoles.apart joining ["ops", "VIEWER", "ops"] [] "ADMIN " _ several (.text free padded) apart
  have spelled {r s : Text} (role : Text) (h : r.trim.points.all CodePoint.isAscii = true ∧ r.trim.asciiLower = role)
      (h' : s.trim.points.all CodePoint.isAscii = true ∧ s.trim.asciiLower = role) : SameRole r s :=
    normalRole_eq_iff.mp ((normalRole_of_isAscii h).trans (normalRole_of_isAscii h').symm)
  have admin : SameRole "Admin" "ADMIN " := spelled "admin" (by decide +kernel) (by decide +kernel)
  have viewer : SameRole " viewer" "VIEWER" := spelled "viewer" (by decide +kernel) (by decide +kernel)
  obtain ⟨i, j, own, other, -, -, same⟩ := ofClaims_alike named named' (by decide +kernel) listed joined
  refine ⟨i, j, own, other, same.mpr ⟨?_, ?_⟩⟩
  · refine List.forall_mem_cons.mpr ⟨fun _ => ⟨"ADMIN ", by decide, admin⟩, ?_⟩
    refine List.forall_mem_cons.mpr ⟨fun _ => ⟨"VIEWER", by decide, viewer⟩, ?_⟩
    refine List.forall_mem_cons.mpr ⟨fun solid => absurd solid (by decide), ?_⟩
    exact List.forall_mem_singleton.mpr fun _ => ⟨"ops", by decide, .refl _⟩
  · refine List.forall_mem_cons.mpr ⟨fun _ => ⟨"ops", by decide, .refl _⟩, ?_⟩
    refine List.forall_mem_cons.mpr ⟨fun _ => ⟨" viewer", by decide, .symm _ _ viewer⟩, ?_⟩
    refine List.forall_mem_cons.mpr ⟨fun _ => ⟨"ops", by decide, .refl _⟩, ?_⟩
    exact List.forall_mem_singleton.mpr fun _ => ⟨"Admin", by decide, .symm _ _ admin⟩

end Identity

end GuardedTools
