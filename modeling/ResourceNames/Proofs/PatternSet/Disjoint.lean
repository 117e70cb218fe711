import ResourceNames.Proofs.PatternSet
import ResourceNames.Proofs.Template.Inverse

set_option autoImplicit false

/-! # Patterns that compete for a name

In every template literals and variables are at the same places. So two templates have either the
same shape, and then the same tokens in every name, or no name in common. A name that matches several
patterns of a set has the same tokens in all of them, and a pattern that comes after another of its
shape is never the first to match. -/

namespace ResourceNames

namespace Template

variable {template other : Template} {name : String} {tokens others : List String}

theorem segments_eq_nil_of_tokens?_empty (h : template.Arises)
    (htokens : template.tokens? "" = some tokens) : template.segments = [] := by
  by_cases hnil : template.segments = []
  · exact hnil
  · rw [tokens?_empty h.validSegments hnil] at htokens
    cases htokens

/-- **Templates that describe the same name have the same shape.** -/
theorem Arises.shape_eq (h : template.Arises) (hother : other.Arises)
    (htokens : template.tokens? name = some tokens) (hothers : other.tokens? name = some others) :
    template.shape = other.shape := by
  by_cases hnil : template.segments = []
  · obtain rfl := eq_empty_of_tokens? hnil htokens
    rw [shape, shape, hnil, segments_eq_nil_of_tokens?_empty hother hothers]
  · by_cases hotherNil : other.segments = []
    · obtain rfl := eq_empty_of_tokens? hotherNil hothers
      exact absurd (segments_eq_nil_of_tokens?_empty h htokens) hnil
    · exact shape_eq_of_tokens? h.validSegments hnil hother.validSegments hotherNil htokens hothers

theorem Arises.tokens_eq (h : template.Arises) (hother : other.Arises)
    (htokens : template.tokens? name = some tokens) (hothers : other.tokens? name = some others) :
    others = tokens := by
  rw [← tokens?_congr (h.shape_eq hother htokens hothers), htokens] at hothers
  exact (Option.some.inj hothers).symm

/-- Every template describes some name. -/
theorem Arises.exists_tokens? (h : template.Arises) :
    ∃ name tokens, template.tokens? name = some tokens := by
  have hcount : (List.replicate template.variableCount "a").length = template.variableCount :=
    List.length_replicate
  refine ⟨_, _, tokens?_of_render h.validSegments ?_ (render_eq_ok_iff.2 ⟨hcount, rfl⟩)⟩
  intro value hvalue
  rw [List.eq_of_mem_replicate hvalue]
  decide

end Template

namespace PatternSet

variable {set : PatternSet}

namespace IsValid

theorem arises (h : set.IsValid) {pattern : Pattern} (hmem : pattern ∈ set.toList) :
    pattern.template.Arises := by
  obtain ⟨text, hparse⟩ := h.parsed pattern hmem
  exact .parsed hparse

theorem arises_parent (h : set.IsValid) {pattern : Pattern} (hmem : pattern ∈ set.toList) :
    pattern.parent.Arises :=
  .parent (h.arises hmem)

/-- A pattern that matches a name has the tokens of the first match, and does not come before it. -/
theorem tokens_of_matchName? (h : set.IsValid) {name : String} {pattern other : Pattern}
    {tokens others : List String} (hmatch : set.matchName? name = some (pattern, tokens))
    (hother : other ∈ set.toList) (hothers : other.template.tokens? name = some others) :
    others = tokens ∧ pattern.index ≤ other.index := by
  obtain ⟨hpattern, htokens, hleast⟩ := h.matchName?_eq_some_iff.1 hmatch
  exact ⟨(h.arises hpattern).tokens_eq (h.arises hother) htokens hothers,
    hleast other hother (by rw [hothers]; rfl)⟩

/-- A name that a pattern matches is matched by the first pattern of the same shape. -/
theorem matchName?_of_first (h : set.IsValid) {pattern found : Pattern}
    (hpattern : pattern ∈ set.toList) (hfound : found ∈ set.toList)
    (hshape : found.template.shape = pattern.template.shape)
    (hleast : ∀ other ∈ set.toList, other.template.shape = pattern.template.shape →
      found.index ≤ other.index) {name : String} {tokens : List String}
    (htokens : pattern.template.tokens? name = some tokens) :
    set.matchName? name = some (found, tokens) := by
  rw [h.matchName?_eq_some_iff]
  refine ⟨hfound, by rw [Template.tokens?_congr hshape, htokens], ?_⟩
  intro other hother hsome
  obtain ⟨others, hothers⟩ := Option.isSome_iff_exists.1 hsome
  exact hleast other hother ((h.arises hother).shape_eq (h.arises hpattern) hothers htokens)

/-- The patterns that can be the first to match are those that are the first of their shape. -/
theorem exists_matchName?_iff (h : set.IsValid) {pattern : Pattern}
    (hpattern : pattern ∈ set.toList) :
    (∃ name tokens, set.matchName? name = some (pattern, tokens)) ↔
      ∀ other ∈ set.toList, other.index < pattern.index →
        other.template.shape ≠ pattern.template.shape := by
  constructor
  · rintro ⟨name, tokens, hmatch⟩ other hother hless hshape
    obtain ⟨-, htokens, hleast⟩ := h.matchName?_eq_some_iff.1 hmatch
    have hle := hleast other hother (by rw [Template.tokens?_congr hshape, htokens]; rfl)
    omega
  · intro hfirst
    obtain ⟨name, tokens, htokens⟩ := (h.arises hpattern).exists_tokens?
    refine ⟨name, tokens, h.matchName?_eq_some_iff.2 ⟨hpattern, htokens, ?_⟩⟩
    intro other hother hsome
    obtain ⟨others, hothers⟩ := Option.isSome_iff_exists.1 hsome
    have hshape := (h.arises hother).shape_eq (h.arises hpattern) hothers htokens
    exact Nat.le_of_not_lt fun hless => hfirst other hother hless hshape

end IsValid

/-- **Templates are alike or have no name in common.** The patterns of a set that match a name all
have the tokens of the one that is found, which comes first, and a pattern is found for some name
unless another of its shape comes before it. -/
theorem alike_or_disjoint :
    (∀ template other : Template, template.Arises → other.Arises →
      (template.shape = other.shape → ∀ name, template.tokens? name = other.tokens? name) ∧
      (template.shape ≠ other.shape → ∀ name,
        ¬ (template.describes name = true ∧ other.describes name = true))) ∧
    ∀ declared extra set, compile declared extra = .ok set →
      (∀ name pattern tokens, set.matchName? name = some (pattern, tokens) →
        ∀ other ∈ set.toList, other ≠ pattern →
          ∀ others, other.template.tokens? name = some others →
            others = tokens ∧ pattern.index < other.index) ∧
      ∀ pattern ∈ set.toList,
        (∃ name tokens, set.matchName? name = some (pattern, tokens)) ↔
          ∀ other ∈ set.toList, other.index < pattern.index →
            other.template.shape ≠ pattern.template.shape := by
  constructor
  · intro template other htemplate hother
    refine ⟨fun hshape name => Template.tokens?_congr hshape name, ?_⟩
    rintro hshape name ⟨hdescribes, hotherDescribes⟩
    obtain ⟨tokens, htokens⟩ := Option.isSome_iff_exists.1 hdescribes
    obtain ⟨others, hothers⟩ := Option.isSome_iff_exists.1 hotherDescribes
    exact hshape (htemplate.shape_eq hother htokens hothers)
  · intro declared extra set hset
    have hvalid := isValid_of_compile hset
    refine ⟨?_, fun pattern hpattern => hvalid.exists_matchName?_iff hpattern⟩
    intro name pattern tokens hmatch other hother hne others hothers
    obtain ⟨htokens, hle⟩ := hvalid.tokens_of_matchName? hmatch hother hothers
    refine ⟨htokens, Nat.lt_of_le_of_ne hle fun hindex => hne ?_⟩
    obtain ⟨hpattern, -, -⟩ := hvalid.matchName?_eq_some_iff.1 hmatch
    exact hvalid.eq_of_index_eq hother hpattern hindex.symm

end PatternSet

end ResourceNames
