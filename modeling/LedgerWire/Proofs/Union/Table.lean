import LedgerWire.AccessKey
import LedgerWire.Proofs.Union.Registry
import Mathlib.Data.List.Count

/-!
# Tables that make a registry

A table is refused for the first thing that is wrong with it. A scan meets a tag that is listed
already, or else an ordinal that is assigned already; after the scan a tag may be missing, and
last some variants may have ordinals and others none. A table with none of these faults lists
every tag once, and what is made of it is a bijection between tags, names and ordinals.
-/

namespace LedgerWire

variable {τ υ : Type}

namespace Table

/-- The tags that a table lists, in its order. -/
def tags (variants : List (Variant τ υ)) : List τ := variants.map (·.tag)

/-- The ordinals that a table assigns, in its order. -/
def ordinals (variants : List (Variant τ υ)) : List UInt8 := variants.filterMap (·.ordinal)

/-- No tag is listed twice and no ordinal is assigned twice. -/
def Distinct (variants : List (Variant τ υ)) : Prop :=
  (tags variants).Nodup ∧ (ordinals variants).Nodup

/-- Every tag is listed exactly once, and either no variant has an ordinal or all have one and
these are different from each other. -/
structure WellFormed [DecidableEq τ] (variants : List (Variant τ υ)) : Prop where
  listed_once : ∀ tag, (tags variants).count tag = 1
  all_or_none : (∀ v ∈ variants, v.ordinal = none) ∨
    (∀ v ∈ variants, v.ordinal ≠ none) ∧ (ordinals variants).Nodup

/-- What is wrong with a variant behind those listed before it. Its tag is looked at first; an
ordinal is reported together with the variant that holds it. -/
inductive Clash (earlier : List (Variant τ υ)) (v : Variant τ υ) : TableFault τ → Prop where
  | repeated (listed : v.tag ∈ tags earlier) : Clash earlier v (.repeated v.tag)
  | sharedOrdinal {w : Variant τ υ} {ordinal : UInt8} (fresh : v.tag ∉ tags earlier)
      (own : v.ordinal = some ordinal) (mem : w ∈ earlier) (held : w.ordinal = some ordinal) :
      Clash earlier v (.sharedOrdinal ordinal w.tag v.tag)

/-- The first thing that is wrong with a table: a clash behind variants that have none, then the
first missing tag in the order of declaration, then ordinals that only some variants have. -/
inductive FirstFault [VariantTag τ] (variants : List (Variant τ υ)) : TableFault τ → Prop where
  | clash {before after : List (Variant τ υ)} {v : Variant τ υ} {fault : TableFault τ}
      (split : variants = before ++ v :: after) (distinct : Distinct before)
      (clash : Clash before v fault) : FirstFault variants fault
  | missing {declared rest : List τ} {tag : τ} (distinct : Distinct variants)
      (order : VariantTag.all = declared ++ tag :: rest)
      (listed : ∀ other ∈ declared, other ∈ tags variants) (absent : tag ∉ tags variants) :
      FirstFault variants (.missing tag)
  | partialOrdinals (distinct : Distinct variants) (complete : ∀ tag, tag ∈ tags variants)
      (some_numbered : ordinals variants ≠ [])
      (not_all : (ordinals variants).length < variants.length) :
      FirstFault variants (.partialOrdinals (ordinals variants).length variants.length)

/-! ### Repetitions -/

/-- A table is distinct just when any two of its variants are apart. -/
theorem distinct_iff {variants : List (Variant τ υ)} :
    Distinct variants ↔ variants.Pairwise Variant.Apart := by
  have hapart : variants.Pairwise Variant.Apart ↔
      variants.Pairwise (fun v w => v.tag ≠ w.tag) ∧
        variants.Pairwise fun v w => ∀ ordinal, v.ordinal = some ordinal →
          w.ordinal ≠ some ordinal := List.pairwise_and_iff
  rw [hapart, Distinct, tags, ordinals, List.Nodup, List.Nodup, List.pairwise_map,
    List.pairwise_filterMap]
  refine and_congr_right fun _ => ?_
  constructor <;> intro h <;> refine h.imp fun {v w} hvw => ?_
  · exact fun ordinal hv hw => hvw ordinal hv ordinal hw rfl
  · rintro ordinal hv _ hw rfl
    exact hvw ordinal hv hw

/-- Among distinct variants an ordinal has one holder. -/
theorem eq_of_held {variants : List (Variant τ υ)} (hdistinct : Distinct variants)
    {v w : Variant τ υ} (hv : v ∈ variants) (hw : w ∈ variants) {ordinal : UInt8}
    (hvo : v.ordinal = some ordinal) (hwo : w.ordinal = some ordinal) : v = w := by
  by_contra hne
  exact ((distinct_iff.mp hdistinct).forall hv hw hne).2 ordinal hvo hwo

/-- The scan reports the one holder of an ordinal that is assigned already. -/
theorem holder?_eq_some_iff {earlier : List (Variant τ υ)} (hearlier : Distinct earlier)
    {v : Variant τ υ} {ordinal : UInt8} {tag : τ} :
    TableFault.holder? earlier v = some (ordinal, tag) ↔
      v.ordinal = some ordinal ∧ ∃ w ∈ earlier, w.ordinal = some ordinal ∧ w.tag = tag := by
  unfold TableFault.holder?
  cases hown : v.ordinal with
  | none => simp
  | some own =>
    simp only [Option.bind_some, Option.map_eq_some_iff, Prod.mk.injEq, Option.some.injEq]
    constructor
    · rintro ⟨w, hfound, rfl, rfl⟩
      have hheld : w.ordinal = some own := by simpa using List.find?_some hfound
      exact ⟨rfl, w, List.mem_of_find?_eq_some hfound, hheld, rfl⟩
    · rintro ⟨rfl, w, hmem, hheld, rfl⟩
      cases hfound : earlier.find? (·.ordinal == some own) with
      | none => simpa [hheld] using List.find?_eq_none.mp hfound w hmem
      | some found =>
        have hfound_held : found.ordinal = some own := by simpa using List.find?_some hfound
        have heq : found = w :=
          eq_of_held hearlier (List.mem_of_find?_eq_some hfound) hmem hfound_held hheld
        exact ⟨found, rfl, rfl, by rw [heq]⟩

/-- A variant either clashes with those before it, or it can be listed after them. -/
theorem distinct_append_singleton {earlier : List (Variant τ υ)} {v : Variant τ υ}
    (hearlier : Distinct earlier) :
    Distinct (earlier ++ [v]) ↔ v.tag ∉ tags earlier ∧ TableFault.holder? earlier v = none := by
  rw [distinct_iff, List.pairwise_append, TableFault.holder?_eq_none_iff]
  constructor
  · rintro ⟨-, -, hapart⟩
    constructor
    · intro hlisted
      obtain ⟨w, hw, htag⟩ := List.mem_map.mp hlisted
      exact (hapart w hw v (List.mem_singleton_self v)).1 htag
    · exact fun w hw => (hapart w hw v (List.mem_singleton_self v)).2
  · rintro ⟨hfresh, hfree⟩
    refine ⟨distinct_iff.mp hearlier, List.pairwise_singleton _ _, ?_⟩
    intro w hw x hx
    rw [List.mem_singleton.mp hx]
    exact ⟨fun htag => hfresh (List.mem_map.mpr ⟨w, hw, htag⟩), hfree w hw⟩

variable [DecidableEq τ]

/-- The scan stops at a clash, and goes on behind a variant that does not clash. -/
theorem repeated?_cons_eq_some_iff {earlier rest : List (Variant τ υ)} {v : Variant τ υ}
    {fault : TableFault τ} (hearlier : Distinct earlier) :
    TableFault.repeated? earlier (v :: rest) = some fault ↔
      Clash earlier v fault ∨
        Distinct (earlier ++ [v]) ∧ TableFault.repeated? (earlier ++ [v]) rest = some fault := by
  have hlisted_iff : earlier.any (·.tag == v.tag) = true ↔ v.tag ∈ tags earlier := by
    simp [tags, List.any_eq_true]
  rw [TableFault.repeated?, distinct_append_singleton hearlier]
  by_cases hlisted : v.tag ∈ tags earlier
  · rw [if_pos (hlisted_iff.mpr hlisted), Option.some.injEq]
    constructor
    · rintro rfl
      exact Or.inl (.repeated hlisted)
    · rintro ((_ | ⟨hfresh, -⟩) | ⟨⟨hfresh, -⟩, -⟩)
      · rfl
      · exact absurd hlisted hfresh
      · exact absurd hlisted hfresh
  · rw [if_neg fun h => hlisted (hlisted_iff.mp h)]
    cases hholder : TableFault.holder? earlier v with
    | none =>
      have hnoclash : ¬Clash earlier v fault := by
        rintro (h | ⟨-, hown, hmem, hheld⟩)
        · exact hlisted h
        · exact TableFault.holder?_eq_none_iff.mp hholder _ hmem _ hheld hown
      simp [hlisted, hnoclash]
    | some holder =>
      obtain ⟨ordinal, other⟩ := holder
      obtain ⟨hown, w, hmem, hheld, rfl⟩ := (holder?_eq_some_iff hearlier).mp hholder
      simp only [Option.some.injEq, reduceCtorEq, and_false, false_and, or_false]
      constructor
      · rintro rfl
        exact .sharedOrdinal hlisted hown hmem hheld
      · rintro (h | ⟨-, hown', hmem', hheld'⟩)
        · exact absurd h hlisted
        · obtain rfl : ordinal = _ := by simpa [hown] using hown'
          rw [eq_of_held hearlier hmem hmem' hheld hheld']

/-- The scan finds the first clash. The variants that it has passed move from the scanned list to
the earlier ones. -/
theorem repeated?_eq_some_iff {earlier variants : List (Variant τ υ)} {fault : TableFault τ}
    (hearlier : Distinct earlier) :
    TableFault.repeated? earlier variants = some fault ↔
      ∃ before v after, variants = before ++ v :: after ∧ Distinct (earlier ++ before) ∧
        Clash (earlier ++ before) v fault := by
  induction variants generalizing earlier with
  | nil => simp [TableFault.repeated?]
  | cons x rest ih =>
    rw [repeated?_cons_eq_some_iff hearlier]
    constructor
    · rintro (hclash | ⟨hdistinct, hrest⟩)
      · exact ⟨[], x, rest, rfl, by simpa using hearlier, by simpa using hclash⟩
      · obtain ⟨before, v, after, rfl, hbefore, hclash⟩ := (ih hdistinct).mp hrest
        rw [List.append_assoc] at hbefore hclash
        exact ⟨x :: before, v, after, rfl, hbefore, hclash⟩
    · rintro ⟨before, v, after, hsplit, hbefore, hclash⟩
      cases before with
      | nil =>
        obtain ⟨rfl, rfl⟩ := List.cons_eq_cons.mp hsplit
        exact Or.inl (by simpa using hclash)
      | cons y before =>
        obtain ⟨rfl, rfl⟩ := List.cons_eq_cons.mp hsplit
        rw [List.append_cons] at hbefore hclash
        have hdistinct : Distinct (earlier ++ [x]) :=
          distinct_iff.mpr (List.pairwise_append.mp (distinct_iff.mp hbefore)).1
        exact Or.inr ⟨hdistinct, (ih hdistinct).mpr ⟨before, v, after, rfl, hbefore, hclash⟩⟩

/-- The scan finds nothing in a table without repetitions. -/
theorem repeated?_nil_eq_none_iff {variants : List (Variant τ υ)} :
    TableFault.repeated? [] variants = none ↔ Distinct variants := by
  rw [TableFault.repeated?_eq_none_iff, distinct_iff]
  simp

/-! ### Missing tags -/

/-- A tag is found in a table just when it is listed. -/
theorem any_tag_iff {variants : List (Variant τ υ)} {tag : τ} :
    variants.any (·.tag == tag) = true ↔ tag ∈ tags variants := by
  simp [tags, List.any_eq_true]

variable [VariantTag τ]

/-- No tag is missing just when all are listed. -/
theorem missing?_eq_none_iff {variants : List (Variant τ υ)} :
    TableFault.missing? variants = none ↔ ∀ tag, tag ∈ tags variants := by
  simp only [TableFault.missing?, Option.map_eq_none_iff, List.find?_eq_none, Bool.not_eq_true',
    Bool.not_eq_false, any_tag_iff]
  exact ⟨fun h tag => h tag (VariantTag.mem_all tag), fun h tag _ => h tag⟩

/-- The tag that is reported missing is the first that is not listed. -/
theorem missing?_eq_some_iff {variants : List (Variant τ υ)} {fault : TableFault τ} :
    TableFault.missing? variants = some fault ↔
      ∃ declared tag rest, VariantTag.all = declared ++ tag :: rest ∧
        (∀ other ∈ declared, other ∈ tags variants) ∧ tag ∉ tags variants ∧
        fault = .missing tag := by
  simp only [TableFault.missing?, Option.map_eq_some_iff, List.find?_eq_some_iff_append,
    Bool.not_eq_true', ← Bool.not_eq_true, any_tag_iff]
  constructor
  · rintro ⟨tag, ⟨habsent, declared, rest, hall, hlisted⟩, rfl⟩
    exact ⟨declared, tag, rest, hall, fun other h => by simpa using hlisted other h, habsent, rfl⟩
  · rintro ⟨declared, tag, rest, hall, hlisted, habsent, rfl⟩
    exact ⟨tag, ⟨habsent, declared, rest, hall, fun other h => by simpa using hlisted other h⟩, rfl⟩

/-! ### Partial ordinals -/

omit [DecidableEq τ] [VariantTag τ] in
/-- A table is partial just when some of its variants have ordinals and some have none. -/
theorem partial?_eq_some_iff {variants : List (Variant τ υ)} {fault : TableFault τ} :
    TableFault.partial? variants = some fault ↔
      ordinals variants ≠ [] ∧ (ordinals variants).length < variants.length ∧
        fault = .partialOrdinals (ordinals variants).length variants.length := by
  have hcount : variants.countP (·.ordinal.isSome) = (ordinals variants).length :=
    List.length_filterMap_eq_countP.symm
  have hle : (ordinals variants).length ≤ variants.length := List.length_filterMap_le _ _
  have hempty : (ordinals variants).length ≠ 0 ↔ ordinals variants ≠ [] := by simp
  simp only [TableFault.partial?, hcount, ← hempty]
  split
  · rename_i hpartial
    rw [Option.some.injEq, eq_comm]
    constructor
    · exact fun hfault => ⟨hpartial.1, by omega, hfault⟩
    · exact fun h => h.2.2
  · rename_i hcomplete
    constructor
    · intro hfault
      cases hfault
    · rintro ⟨hsome, hfew, -⟩
      exact absurd ⟨hsome, by omega⟩ hcomplete

omit [DecidableEq τ] [VariantTag τ] in
/-- A table is not partial just when all of its variants have ordinals or none has. -/
theorem partial?_eq_none_iff {variants : List (Variant τ υ)} :
    TableFault.partial? variants = none ↔
      (∀ v ∈ variants, v.ordinal = none) ∨ ∀ v ∈ variants, v.ordinal ≠ none := by
  have hnone : variants.countP (·.ordinal.isSome) = 0 ↔ ∀ v ∈ variants, v.ordinal = none := by
    simp [List.countP_eq_zero]
  have hall : variants.countP (·.ordinal.isSome) = variants.length ↔
      ∀ v ∈ variants, v.ordinal ≠ none := by
    simp [List.countP_eq_length, Option.isSome_iff_ne_none]
  simp only [TableFault.partial?, ite_eq_right_iff, reduceCtorEq, imp_false, not_and_or,
    Decidable.not_not, hnone, hall]

/-! ### The whole check -/

/-- A table has no fault just when it is well-formed. -/
theorem of?_eq_none_iff {variants : List (Variant τ υ)} :
    TableFault.of? variants = none ↔ WellFormed variants := by
  simp only [TableFault.of?, Option.or_eq_none_iff, repeated?_nil_eq_none_iff,
    missing?_eq_none_iff, partial?_eq_none_iff]
  constructor
  · rintro ⟨⟨htags, hordinals⟩, hcomplete, hnumbered⟩
    refine ⟨fun tag => List.count_eq_one_of_mem htags (hcomplete tag), ?_⟩
    exact hnumbered.imp_right fun hall => ⟨hall, hordinals⟩
  · rintro ⟨honce, hnumbered⟩
    have hcomplete : ∀ tag, tag ∈ tags variants := by
      intro tag
      exact List.count_pos_iff.mp (by rw [honce tag]; exact Nat.one_pos)
    have htags : (tags variants).Nodup :=
      List.nodup_iff_count_le_one.mpr fun tag => Nat.le_of_eq (honce tag)
    have hordinals : (ordinals variants).Nodup := by
      rcases hnumbered with hnone | ⟨-, hdistinct⟩
      · have hempty : ordinals variants = [] := List.filterMap_eq_nil_iff.mpr hnone
        rw [hempty]
        exact List.nodup_nil
      · exact hdistinct
    exact ⟨⟨htags, hordinals⟩, hcomplete, hnumbered.imp_right And.left⟩

/-- The fault of a table is the first that it has. -/
theorem of?_eq_some_iff {variants : List (Variant τ υ)} {fault : TableFault τ} :
    TableFault.of? variants = some fault ↔ FirstFault variants fault := by
  have hscan : TableFault.repeated? ([] : List (Variant τ υ)) variants = some fault ↔ _ :=
    repeated?_eq_some_iff ⟨List.nodup_nil, List.nodup_nil⟩
  simp only [List.nil_append] at hscan
  simp only [TableFault.of?, Option.or_eq_some_iff, hscan, repeated?_nil_eq_none_iff,
    missing?_eq_some_iff, missing?_eq_none_iff, partial?_eq_some_iff]
  constructor
  · rintro (⟨before, v, after, hsplit, hdistinct, hclash⟩ | ⟨hdistinct, hmissing | hpartial⟩)
    · exact .clash hsplit hdistinct hclash
    · obtain ⟨declared, tag, rest, hall, hlisted, habsent, rfl⟩ := hmissing
      exact .missing hdistinct hall hlisted habsent
    · obtain ⟨hcomplete, hsome, hfew, rfl⟩ := hpartial
      exact .partialOrdinals hdistinct hcomplete hsome hfew
  · rintro (⟨hsplit, hdistinct, hclash⟩ | ⟨hdistinct, hall, hlisted, habsent⟩ |
      ⟨hdistinct, hcomplete, hsome, hfew⟩)
    · exact Or.inl ⟨_, _, _, hsplit, hdistinct, hclash⟩
    · exact Or.inr ⟨hdistinct, Or.inl ⟨_, _, _, hall, hlisted, habsent, rfl⟩⟩
    · exact Or.inr ⟨hdistinct, Or.inr ⟨hcomplete, hsome, hfew, rfl⟩⟩

end Table

namespace Registry

variable [DecidableEq τ] [VariantTag τ]

/-- A registry is made of a table just when it holds the table under the name. -/
theorem ofTable_eq_ok_iff {family : String} {variants : List (Variant τ υ)}
    {registry : Registry τ υ} :
    ofTable family variants = .ok registry ↔
      registry.family = family ∧ registry.variants = variants := by
  obtain ⟨name, listed, hclean⟩ := registry
  unfold ofTable
  split
  · rw [Except.ok.injEq, mk.injEq]
    exact ⟨fun h => ⟨h.1.symm, h.2.symm⟩, fun h => ⟨h.1.symm, h.2.symm⟩⟩
  · rename_i fault hfault
    refine iff_of_false nofun ?_
    rintro ⟨-, rfl⟩
    rw [hclean] at hfault
    cases hfault

/-- A table is refused just for its fault. -/
theorem ofTable_eq_error_iff {family : String} {variants : List (Variant τ υ)}
    {fault : TableFault τ} :
    (ofTable family variants : Except (TableFault τ) (Registry τ υ)) = .error fault ↔
      TableFault.of? variants = some fault := by
  unfold ofTable
  split
  · rename_i hclean
    simp [hclean]
  · rename_i found hfound
    simp [hfound]

variable {registry : Registry τ υ}

/-- The variant of a tag is the one entry that is listed for it. -/
theorem eq_variant_iff {tag : τ} {v : Variant τ υ} :
    v = registry.variant tag ↔ v ∈ registry.variants ∧ v.tag = tag := by
  constructor
  · rintro rfl
    exact ⟨registry.variant_mem tag, variant_tag tag⟩
  · rintro ⟨hlisted, rfl⟩
    exact (variant_eq_of_mem hlisted).symm

/-- A tag has an ordinal just when its variant has it. -/
theorem ordinal_eq_ok_iff {tag : τ} {ordinal : UInt8} :
    registry.ordinal tag = .ok ordinal ↔ (registry.variant tag).ordinal = some ordinal := by
  unfold Registry.ordinal
  cases (registry.variant tag).ordinal <;> simp

/-- An ordinal that no tag has is unknown to the family. -/
theorem tagOf_eq_error {ordinal : UInt8} (hfree : ∀ tag, registry.ordinal tag ≠ .ok ordinal) :
    registry.tagOf ordinal =
      .error (.unknownVariant registry.family (Decimal.write ordinal.toNat)) := by
  unfold tagOf
  cases hfound : registry.variants.find? (·.ordinal == some ordinal) with
  | none => rfl
  | some v =>
    have hheld : v.ordinal = some ordinal := by simpa using List.find?_some hfound
    have hvariant : registry.variant v.tag = v :=
      variant_eq_of_mem (List.mem_of_find?_eq_some hfound)
    refine absurd (ordinal_eq_ok_iff.mpr ?_) (hfree v.tag)
    rw [hvariant, hheld]

/-- Either every tag has an ordinal or the family has no binary form. -/
theorem ordinal_all_or_none :
    (∀ tag, ∃ ordinal, registry.ordinal tag = .ok ordinal) ∨
      ∀ tag, registry.ordinal tag = .error (.format (.noOrdinals registry.family)) := by
  rcases (Table.of?_eq_none_iff.mp registry.of?_variants).all_or_none with hnone | ⟨hall, -⟩
  · right
    intro tag
    rw [Registry.ordinal, hnone _ (registry.variant_mem tag)]
  · left
    intro tag
    obtain ⟨ordinal, hordinal⟩ :=
      Option.ne_none_iff_exists'.mp (hall _ (registry.variant_mem tag))
    exact ⟨ordinal, ordinal_eq_ok_iff.mpr hordinal⟩

/-- A table makes a registry exactly when it is well-formed, and otherwise the first fault in it
is reported. In a registry every tag has the one variant that is listed for it, names are found
exactly when they are names of tags, and reading an ordinal is the inverse of assigning it; a byte
that no tag has as its ordinal is unknown to the family. Ordinals are there for all tags or for
none. -/
theorem ofTable_exact (family : String) (variants : List (Variant τ υ)) :
    ((∃ registry : Registry τ υ, ofTable family variants = .ok registry) ↔
      Table.WellFormed variants) ∧
    (∀ fault : TableFault τ,
      (ofTable family variants : Except (TableFault τ) (Registry τ υ)) = .error fault ↔
        Table.FirstFault variants fault) ∧
    ∀ registry : Registry τ υ, ofTable family variants = .ok registry →
      (∀ (tag : τ) (v : Variant τ υ), v = registry.variant tag ↔ v ∈ variants ∧ v.tag = tag) ∧
      (∀ (name : String) (v : Variant τ υ), registry.lookup? name = some v ↔
        ∃ tag, VariantTag.name tag = name ∧ v = registry.variant tag) ∧
      (∀ (ordinal : UInt8) (tag : τ),
        registry.tagOf ordinal = .ok tag ↔ registry.ordinal tag = .ok ordinal) ∧
      (∀ ordinal : UInt8, (∀ tag, registry.ordinal tag ≠ .ok ordinal) →
        registry.tagOf ordinal =
          .error (.unknownVariant family (Decimal.write ordinal.toNat))) ∧
      ((∀ tag, ∃ ordinal, registry.ordinal tag = .ok ordinal) ∨
        ∀ tag, registry.ordinal tag = .error (.format (.noOrdinals family))) := by
  refine ⟨?_, ?_, ?_⟩
  · rw [← Table.of?_eq_none_iff]
    constructor
    · rintro ⟨registry, hregistry⟩
      rw [← (ofTable_eq_ok_iff.mp hregistry).2]
      exact registry.of?_variants
    · intro hclean
      exact ⟨⟨family, variants, hclean⟩, ofTable_eq_ok_iff.mpr ⟨rfl, rfl⟩⟩
  · intro fault
    rw [ofTable_eq_error_iff, Table.of?_eq_some_iff]
  · intro registry hregistry
    obtain ⟨rfl, rfl⟩ := ofTable_eq_ok_iff.mp hregistry
    refine ⟨fun tag v => eq_variant_iff, ?_, ?_, fun ordinal => tagOf_eq_error,
      ordinal_all_or_none⟩
    · intro name v
      exact lookup?_eq_some_iff.trans (exists_congr fun tag => and_congr_right fun _ => eq_comm)
    · intro ordinal tag
      rw [tagOf_eq_ok_iff, ordinal_eq_ok_iff]

/-- Two permissions whose ordinals are not in the order of declaration, and a table with one
ordinal for both. -/
theorem ofTable_exact_permission :
    (∃ registry : Registry AccessKeyPermission.Tag Unit,
      ofTable "Permission" [(Variant.unit .functionCall ()).withOrdinal 0,
        (Variant.unit .fullAccess ()).withOrdinal 1] = .ok registry ∧
      registry.tagOf 1 = .ok .fullAccess ∧
      registry.tagOf 2 = .error (.unknownVariant "Permission" "2")) ∧
    (ofTable "Permission" [(Variant.unit .functionCall ()).withOrdinal 0,
        (Variant.unit .fullAccess ()).withOrdinal 0] :
      Except _ (Registry AccessKeyPermission.Tag Unit)) =
      .error (.sharedOrdinal 0 .functionCall .fullAccess) := by
  constructor
  · let registry : Registry AccessKeyPermission.Tag Unit :=
      ⟨"Permission", [(Variant.unit .functionCall ()).withOrdinal 0,
        (Variant.unit .fullAccess ()).withOrdinal 1], rfl⟩
    obtain ⟨-, -, hordinals, hfree, -⟩ :=
      (ofTable_exact registry.family registry.variants).2.2 registry
        (ofTable_eq_ok_iff.mpr ⟨rfl, rfl⟩)
    refine ⟨registry, rfl, (hordinals 1 .fullAccess).mpr rfl, hfree 2 ?_⟩
    intro tag hordinal
    cases tag <;> exact absurd (Except.ok.inj hordinal) (by decide)
  · have hclash : Table.Clash [(Variant.unit AccessKeyPermission.Tag.functionCall ()).withOrdinal 0]
        ((Variant.unit .fullAccess ()).withOrdinal 0)
        (.sharedOrdinal 0 .functionCall .fullAccess) :=
      .sharedOrdinal (by decide) rfl (List.mem_singleton_self _) rfl
    exact ((ofTable_exact "Permission" _).2.1 _).mpr
      (.clash (List.singleton_append).symm ⟨List.nodup_singleton _, List.nodup_singleton _⟩ hclash)

end Registry

end LedgerWire
