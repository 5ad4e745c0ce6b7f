import LedgerWire.Json.Schema
import LedgerWire.Proofs.Except
import Mathlib.Data.List.Nodup
import Mathlib.Data.List.Perm.Basic

/-!
# Values that differ in the order of members

An object is a list of members, so two values may be the same but for the order of members in
objects, at any depth. Since no two members of an object have one name, each name has its member
in both, and the order can be told only by looking at the members one after another. A reader goes
by name when it does not tell: it reads both values or neither, and as the same.
-/

namespace LedgerWire

/-- Two steps that both fail, or both succeed with values that stand in the given relation. -/
inductive SameOutcome {ε α : Type} (same : α → α → Prop) : Except ε α → Except ε α → Prop where
  | ok {a b : α} (hsame : same a b) : SameOutcome same (.ok a) (.ok b)
  | error (e f : ε) : SameOutcome same (.error e) (.error f)

namespace SameOutcome

variable {ε α β : Type} {same : α → α → Prop} {same' : β → β → Prop} {x y : Except ε α}

/-- A step has the same outcome as itself. -/
theorem refl (hsame : ∀ a, same a a) (x : Except ε α) : SameOutcome same x x := by
  cases x with
  | ok a => exact .ok (hsame a)
  | error e => exact .error e e

/-- The same outcome stays one when the relation of the values is weakened. -/
theorem mono {weaker : α → α → Prop} (h : SameOutcome same x y)
    (hweaker : ∀ {a b}, same a b → weaker a b) : SameOutcome weaker x y := by
  cases h with
  | ok hsame => exact .ok (hweaker hsame)
  | error e f => exact .error e f

/-- The same outcome stays one when values are mapped to values that are related. -/
theorem map (h : SameOutcome same x y) {f : α → β} (hf : ∀ {a b}, same a b → same' (f a) (f b)) :
    SameOutcome same' (x.map f) (y.map f) := by
  cases h with
  | ok hsame => exact .ok (hf hsame)
  | error e f => exact .error e f

/-- The same outcome stays one when failures are mapped. -/
theorem mapError {δ : Type} (h : SameOutcome same x y) (f : ε → δ) :
    SameOutcome same (x.mapError f) (y.mapError f) := by
  cases h with
  | ok hsame => exact .ok hsame
  | error e e' => exact .error (f e) (f e')

/-- Two steps with the same outcome go on to the same outcome. -/
theorem bind (h : SameOutcome same x y) {f g : α → Except ε β}
    (hfg : ∀ {a b}, same a b → SameOutcome same' (f a) (g b)) :
    SameOutcome same' (x >>= f) (y >>= g) := by
  cases h with
  | ok hsame => exact hfg hsame
  | error e f => exact .error e f

/-- Steps may be replaced by steps that succeed with the same values. -/
theorem of_eq {x' y' : Except ε α} (h : SameOutcome same x' y') (hx : SameOutcome Eq x x')
    (hy : SameOutcome Eq y y') : SameOutcome same x y := by
  cases h with
  | ok hsame =>
    cases hx
    cases hy
    subst_vars
    exact .ok hsame
  | error e f =>
    cases hx
    cases hy
    exact .error _ _

/-- Steps that succeed alike with the same value succeed with the same values. -/
theorem eq_ok_iff {x y : Except ε α} (h : SameOutcome Eq x y) {a : α} :
    x = .ok a ↔ y = .ok a := by
  cases h with
  | ok hsame => rw [hsame]
  | error e f => simp

end SameOutcome

namespace Json

/-- No two members of an object have one name. -/
def Distinct (members : List (String × Json)) : Prop := (members.map Prod.fst).Nodup

instance : DecidablePred Distinct := fun members =>
  inferInstanceAs (Decidable (members.map Prod.fst).Nodup)

mutual

/-- Two values that are the same but for the order of the members of objects, at any depth. -/
inductive Reordered : Json → Json → Prop where
  | null : Reordered .null .null
  | bool (value : Bool) : Reordered (.bool value) (.bool value)
  | number (value : Number) : Reordered (.number value) (.number value)
  | string (value : String) : Reordered (.string value) (.string value)
  | array {items items' : List Json} (hitems : List.Forall₂ Reordered items items') :
      Reordered (.array items) (.array items')
  | object {members shuffled members' : List (String × Json)} (hdistinct : Distinct members)
      (horder : members.Perm shuffled)
      (hmembers : List.Forall₂ ReorderedMember shuffled members') :
      Reordered (.object members) (.object members')

/-- Two members of one name whose values are the same but for the order. -/
inductive ReorderedMember : String × Json → String × Json → Prop where
  | value (name : String) {value value' : Json} (hvalue : Reordered value value') :
      ReorderedMember (name, value) (name, value')

end

/-- An object with one member has one order. -/
theorem Reordered.single (name : String) {value value' : Json} (h : Reordered value value') :
    Reordered (.object [(name, value)]) (.object [(name, value')]) :=
  .object (List.nodup_singleton name) (.refl _) (.cons (.value name h) .nil)

/-- A reader that goes by the names of members: values that differ in the order of members are
read alike. -/
def ByName {ε α : Type} (same : α → α → Prop) (read : Json → Except ε α) : Prop :=
  ∀ ⦃value value'⦄, Reordered value value' → SameOutcome same (read value) (read value')

/-- A reader that goes by name does so up to a weaker relation. -/
theorem ByName.mono {ε α : Type} {same weaker : α → α → Prop} {read : Json → Except ε α}
    (h : ByName same read) (hweaker : ∀ {a b}, same a b → weaker a b) : ByName weaker read :=
  fun _ _ hvalue => (h hvalue).mono hweaker

/-! ### Members by name -/

section

variable {members members' shuffled : List (String × Json)} {name : String} {value : Json}

/-- Members with different names have them in any order. -/
theorem Distinct.perm (h : Distinct members) (horder : members.Perm members') :
    Distinct members' :=
  (horder.map Prod.fst).nodup_iff.mp h

/-- Where no two members have one name, the member of a name is the one that is there. -/
theorem Distinct.lookup_eq_some_iff (h : Distinct members) :
    members.lookup name = some value ↔ (name, value) ∈ members := by
  rw [List.lookup_eq_some_iff]
  constructor
  · rintro ⟨front, back, rfl, -⟩
    simp
  · intro hmem
    obtain ⟨front, back, rfl⟩ := List.append_of_mem hmem
    refine ⟨front, back, rfl, fun other hother => bne_iff_ne.mpr ?_⟩
    rintro rfl
    rw [Distinct, List.map_append, List.nodup_append] at h
    exact h.2.2 other.1 (List.mem_map_of_mem hother) other.1 (by simp) rfl

/-- Members with different names are found alike in any order. -/
theorem Distinct.lookup_perm (h : Distinct members) (horder : members.Perm members') :
    members.lookup name = members'.lookup name := by
  refine Option.ext fun value => ?_
  rw [h.lookup_eq_some_iff, (h.perm horder).lookup_eq_some_iff, horder.mem_iff]

/-- The members of one name, in two objects that are the same but for the order, are so too. -/
theorem lookup_reordered (hdistinct : Distinct members) (horder : members.Perm shuffled)
    (hmembers : List.Forall₂ ReorderedMember shuffled members') (name : String) :
    Option.Rel Reordered (members.lookup name) (members'.lookup name) := by
  rw [hdistinct.lookup_perm horder]
  clear horder hdistinct
  induction hmembers with
  | nil => exact .none
  | cons hmember _ ih =>
    obtain ⟨own, hvalue⟩ := hmember
    rw [List.lookup_cons, List.lookup_cons]
    cases name == own with
    | true => exact .some hvalue
    | false => exact ih

/-- Members that are the same up to the order inside have the same names. -/
theorem map_fst_reordered
    (hmembers : List.Forall₂ ReorderedMember members members') :
    members.map Prod.fst = members'.map Prod.fst := by
  induction hmembers with
  | nil => rfl
  | cons hmember _ ih =>
    obtain ⟨name, -⟩ := hmember
    rw [List.map_cons, List.map_cons, ih]

end

end Json

end LedgerWire
