import LedgerWire.Union.Registry
import Mathlib.Data.List.Nodup
import Mathlib.Data.List.Pairwise

/-!
# A registry is a bijection

The checks on a table look at it piece by piece: a scan for repetitions, a search for missing
tags, a count of ordinals. Together they make the table a bijection between the tags, their
names on the wire and, where there are ordinals, the ordinals that are in use.
-/

namespace LedgerWire

variable {τ υ : Type}

/-- Two variants that one table may list: they share neither a tag nor an ordinal. -/
def Variant.Apart (v w : Variant τ υ) : Prop :=
  v.tag ≠ w.tag ∧ ∀ ordinal, v.ordinal = some ordinal → w.ordinal ≠ some ordinal

instance : Std.Symm (Variant.Apart (τ := τ) (υ := υ)) where
  symm _ _ h := ⟨h.1.symm, fun ordinal hw hv => h.2 ordinal hv hw⟩

/-- No earlier variant holds the ordinal of the given one. -/
theorem TableFault.holder?_eq_none_iff {earlier : List (Variant τ υ)} {v : Variant τ υ} :
    holder? earlier v = none ↔
      ∀ w ∈ earlier, ∀ ordinal, w.ordinal = some ordinal → v.ordinal ≠ some ordinal := by
  unfold holder?
  cases hv : v.ordinal with
  | none => simp
  | some ordinal =>
    simp only [Option.bind_some, Option.map_eq_none_iff, List.find?_eq_none, beq_iff_eq]
    constructor
    · intro h w hw other hother heq
      exact h w hw (by rw [hother, heq])
    · intro h w hw hother
      exact h w hw ordinal hother rfl

/-- A name on the wire belongs to one tag. -/
theorem VariantTag.name_injective [VariantTag τ] :
    Function.Injective (VariantTag.name : τ → String) := by
  intro s t h
  exact List.inj_on_of_nodup_map VariantTag.nodup_names (VariantTag.mem_all s)
    (VariantTag.mem_all t) h

variable [DecidableEq τ]

namespace TableFault

/-- The scan finds nothing exactly when the variants are apart from each other and from those
before them. -/
theorem repeated?_eq_none_iff {earlier variants : List (Variant τ υ)} :
    repeated? earlier variants = none ↔
      variants.Pairwise Variant.Apart ∧ ∀ w ∈ earlier, ∀ v ∈ variants, w.Apart v := by
  induction variants generalizing earlier with
  | nil => simp [repeated?]
  | cons v variants ih =>
    have hstep : repeated? earlier (v :: variants) = none ↔
        (∀ w ∈ earlier, w.tag ≠ v.tag) ∧ holder? earlier v = none ∧
          repeated? (earlier ++ [v]) variants = none := by
      rw [repeated?]
      by_cases hany : earlier.any (·.tag == v.tag) = true
      · rw [if_pos hany]
        simp only [List.any_eq_true, beq_iff_eq] at hany
        obtain ⟨w, hw, htag⟩ := hany
        simp only [reduceCtorEq, false_iff]
        exact fun h => h.1 w hw htag
      · rw [if_neg hany]
        simp only [List.any_eq_true, beq_iff_eq, not_exists, not_and] at hany
        cases holder? earlier v with
        | none => simpa using fun _ => hany
        | some holder => simp
    rw [hstep, holder?_eq_none_iff, ih, List.pairwise_cons]
    constructor
    · rintro ⟨htag, hordinal, hpairwise, hearlier⟩
      refine ⟨⟨fun w hw => hearlier v (by simp) w hw, hpairwise⟩, ?_⟩
      intro w hw x hx
      rcases List.mem_cons.mp hx with rfl | hx
      · exact ⟨htag w hw, fun ordinal => hordinal w hw ordinal⟩
      · exact hearlier w (by simp [hw]) x hx
    · rintro ⟨⟨hhead, hpairwise⟩, hearlier⟩
      refine ⟨fun w hw => (hearlier w hw v (by simp)).1,
        fun w hw => (hearlier w hw v (by simp)).2, hpairwise, ?_⟩
      intro w hw x hx
      rcases List.mem_append.mp hw with hw | hw
      · exact hearlier w hw x (by simp [hx])
      · rw [List.mem_singleton.mp hw]
        exact hhead x hx

end TableFault

variable [VariantTag τ]

namespace Registry

variable (registry : Registry τ υ)

/-- The variants of a registry share neither tags nor ordinals. -/
theorem pairwise_apart : registry.variants.Pairwise Variant.Apart := by
  have hclean := registry.of?_variants
  simp only [TableFault.of?, Option.or_eq_none_iff] at hclean
  exact (TableFault.repeated?_eq_none_iff.mp hclean.1).1

variable {registry}

/-- Two different variants of a registry are apart. -/
theorem apart_of_ne {v w : Variant τ υ} (hv : v ∈ registry.variants) (hw : w ∈ registry.variants)
    (hne : v ≠ w) : v.Apart w :=
  registry.pairwise_apart.forall hv hw hne

/-- A tag is listed once. -/
theorem eq_of_tag_eq {v w : Variant τ υ} (hv : v ∈ registry.variants)
    (hw : w ∈ registry.variants) (htag : v.tag = w.tag) : v = w := by
  by_contra hne
  exact (apart_of_ne hv hw hne).1 htag

/-- An ordinal is assigned once. -/
theorem eq_of_ordinal_eq {v w : Variant τ υ} (hv : v ∈ registry.variants)
    (hw : w ∈ registry.variants) {ordinal : UInt8} (hvo : v.ordinal = some ordinal)
    (hwo : w.ordinal = some ordinal) : v = w := by
  by_contra hne
  exact (apart_of_ne hv hw hne).2 ordinal hvo hwo

/-- The variant of a tag has the tag. -/
@[simp] theorem variant_tag (tag : τ) : (registry.variant tag).tag = tag := by
  have hfound := List.find?_some (Option.some_get (registry.exists_tag tag)).symm
  exact beq_iff_eq.mp hfound

/-- What a registry lists for a tag is its variant of that tag. -/
theorem variant_eq_of_mem {v : Variant τ υ} (hv : v ∈ registry.variants) :
    registry.variant v.tag = v :=
  eq_of_tag_eq (registry.variant_mem _) hv (variant_tag _)

/-- A name is found exactly when it is the name of a tag, and then with the variant of that
tag. -/
theorem lookup?_eq_some_iff {name : String} {v : Variant τ υ} :
    registry.lookup? name = some v ↔
      ∃ tag, VariantTag.name tag = name ∧ registry.variant tag = v := by
  constructor
  · intro h
    have hname := List.find?_some h
    exact ⟨v.tag, beq_iff_eq.mp hname, variant_eq_of_mem (List.mem_of_find?_eq_some h)⟩
  · rintro ⟨tag, rfl, rfl⟩
    cases hfound : registry.lookup? (VariantTag.name tag) with
    | none =>
      have hmissing := List.find?_eq_none.mp hfound _ (registry.variant_mem tag)
      simp [Variant.name] at hmissing
    | some w =>
      have hname := List.find?_some hfound
      have htag : w.tag = tag := VariantTag.name_injective (beq_iff_eq.mp hname)
      rw [← htag, variant_eq_of_mem (List.mem_of_find?_eq_some hfound)]

/-- The name of a tag finds its variant. -/
theorem lookup?_name (tag : τ) :
    registry.lookup? (VariantTag.name tag) = some (registry.variant tag) :=
  lookup?_eq_some_iff.mpr ⟨tag, rfl, rfl⟩

/-- A name is not found when no tag has it. -/
theorem lookup?_eq_none_iff {name : String} :
    registry.lookup? name = none ↔ ∀ tag : τ, VariantTag.name tag ≠ name := by
  constructor
  · rintro h tag rfl
    rw [lookup?_name] at h
    cases h
  · intro h
    cases hfound : registry.lookup? name with
    | none => rfl
    | some v =>
      obtain ⟨tag, hname, _⟩ := lookup?_eq_some_iff.mp hfound
      exact absurd hname (h tag)

/-- A byte names the tag that has it as its ordinal, and no other. -/
theorem tagOf_eq_ok_iff {ordinal : UInt8} {tag : τ} :
    registry.tagOf ordinal = .ok tag ↔ (registry.variant tag).ordinal = some ordinal := by
  unfold tagOf
  cases hfound : registry.variants.find? (·.ordinal == some ordinal) with
  | none =>
    have hmissing := List.find?_eq_none.mp hfound _ (registry.variant_mem tag)
    simpa using hmissing
  | some v =>
    have hv := List.mem_of_find?_eq_some hfound
    have hordinal : v.ordinal = some ordinal := by simpa using List.find?_some hfound
    simp only [Except.ok.injEq]
    constructor
    · rintro rfl
      rw [variant_eq_of_mem hv, hordinal]
    · intro h
      rw [eq_of_ordinal_eq hv (registry.variant_mem tag) hordinal h, variant_tag]

/-- Reading an ordinal gives back the tag that it was written for. -/
theorem tagOf_ordinalOf (numbered : registry.hasOrdinals = true) (tag : τ) :
    registry.tagOf (registry.ordinalOf numbered tag) = .ok tag := by
  rw [tagOf_eq_ok_iff, ordinalOf, Option.some_get]

/-- Only the ordinal that is written for a tag is read as that tag. -/
theorem ordinalOf_of_tagOf (numbered : registry.hasOrdinals = true) {ordinal : UInt8} {tag : τ}
    (h : registry.tagOf ordinal = .ok tag) : registry.ordinalOf numbered tag = ordinal := by
  have hordinal := tagOf_eq_ok_iff.mp h
  simp [ordinalOf, hordinal]

end Registry

end LedgerWire
