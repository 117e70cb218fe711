import Mathlib.Data.List.Basic
import ResourceNames.Proofs.PatternSet.Disjoint
import ResourceNames.Proofs.Template.Ancestry
import ResourceNames.Proofs.ValueNamer.Basic

set_option autoImplicit false

/-! # Parents of values

A pattern takes a text for its parent in one of two ways: with tokens, if the text matches the
parent of the pattern, or without any, if the pattern is at root level and the text is empty or one
of its own names. For the parent's part of a name both may apply, to different patterns of one set:
where folders are in folders, the name of a folder is the parent of others, and is a name of the
pattern at root level as well. The pattern with the lowest index counts, and one at root level loses
the tokens. -/

namespace ResourceNames

/-! ## What a pattern takes for its parent -/

/-- The pattern takes a text for its parent, with the tokens of the text or, at root level, none. -/
inductive Pattern.Takes (pattern : Pattern) (parent : String) : Option (List String) → Prop
  | root (hlength : pattern.template.length < 3)
      (hparent : parent = "" ∨ pattern.template.describes parent = true) :
      Takes pattern parent none
  | nested {template : Template} {tokens : List String}
      (htemplate : pattern.template.singletonParent? = some template)
      (htokens : template.tokens? parent = some tokens) : Takes pattern parent (some tokens)

/-- The pattern takes a text for its parent, and none with a lower index takes it for its own. -/
def PatternSet.FirstTakes (set : PatternSet) (parent : String) (pattern : Pattern)
    (tokens : Option (List String)) : Prop :=
  pattern ∈ set.toList ∧ pattern.Takes parent tokens ∧
    ∀ other ∈ set.toList, ∀ others, other.Takes parent others → pattern.index ≤ other.index

namespace Pattern

variable {pattern : Pattern} {parent : String} {tokens : Option (List String)}

/-- How the pattern takes a text for its parent, if it does. -/
def takes? (pattern : Pattern) (parent : String) : Option (Option (List String)) :=
  match pattern.template.singletonParent? with
  | some template => (template.tokens? parent).map some
  | none => if parent = "" || pattern.template.describes parent then some none else none

theorem takes?_eq_some_iff : pattern.takes? parent = some tokens ↔ pattern.Takes parent tokens := by
  constructor
  · intro h
    rw [takes?] at h
    split at h
    · next template htemplate =>
        obtain ⟨found, hfound, rfl⟩ := Option.map_eq_some_iff.1 h
        exact .nested htemplate hfound
    · next hnone =>
        split_ifs at h with htaken
        rw [← Option.some.inj h]
        exact .root (Template.singletonParent?_eq_none_iff.1 hnone) (by simpa using htaken)
  · rintro (⟨hlength, hparent⟩ | ⟨htemplate, htokens⟩)
    · rw [takes?, Template.singletonParent?_eq_none_iff.2 hlength]
      simp [hparent]
    · rw [takes?, htemplate]
      simp [htokens]

end Pattern

namespace PatternSet

variable {set : PatternSet} {parent : String}

theorem matchSingletonParent?_eq (set : PatternSet) (parent : String) :
    set.matchSingletonParent? parent =
      set.toList.findSome? fun pattern => (pattern.takes? parent).map (pattern, ·) := by
  rw [matchSingletonParent?]
  congr 1
  funext pattern
  rw [Pattern.takes?]
  cases pattern.template.singletonParent? with
  | some template => simp [Function.comp_def]
  | none => dsimp only; split_ifs <;> rfl

theorem IsValid.matchSingletonParent?_eq_some_iff (h : set.IsValid) {pattern : Pattern}
    {tokens : Option (List String)} :
    set.matchSingletonParent? parent = some (pattern, tokens) ↔
      set.FirstTakes parent pattern tokens := by
  rw [matchSingletonParent?_eq, h.findSome?_map_eq_some_iff, FirstTakes]
  simp only [Option.isSome_iff_exists, Pattern.takes?_eq_some_iff]
  simp

end PatternSet

/-! ## The parent's part of a name -/

/-- The text has two segments, and the first is the literal of the pattern, which also has two. -/
def Pattern.Swallows (pattern : Pattern) (parent : String) : Prop :=
  ∃ word part segment, Text.segments parent = [word, part] ∧
    pattern.template.segments = [.literal word, segment]

/-- The pattern, be it a singleton of three segments, has a parent with the shape of a template. -/
def Pattern.IsIn (pattern : Pattern) (owner : Template) : Prop :=
  ∃ parent, pattern.template.singletonParent? = some parent ∧ parent.shape = owner.shape

theorem ValidSegments.eq_pair {segments : List Segment} (h : ValidSegments segments)
    (hlength : segments.length = 2) : ∃ word key, segments = [.literal word, .variable key] := by
  obtain ⟨first, second, rfl⟩ := List.length_eq_two.1 hlength
  have hfirst := h.alternates 0 first rfl
  have hsecond := h.alternates 1 second rfl
  rcases first with word | key
  · rcases second with other | key
    · exact absurd (hsecond.2 rfl) Bool.false_ne_true
    · exact ⟨word, key, rfl⟩
  · exact absurd (hfirst.1 rfl) (by decide)

theorem Template.segments_of_pair {template : Template} {word key parent : String}
    {tokens : List String} (hsegments : template.segments = [.literal word, .variable key])
    (htokens : template.tokens? parent = some tokens) :
    ∃ part, Text.segments parent = [word, part] := by
  have hne : template.segments ≠ [] := by rw [hsegments]; exact List.cons_ne_nil _ _
  obtain ⟨-, -, hfill⟩ := (Template.tokens?_eq_some_iff hne).1 htokens
  have hlength : (Text.segments parent).length = 2 := by
    rw [← hfill, Template.length_fill, hsegments]
    rfl
  obtain ⟨first, part, hparts⟩ := List.length_eq_two.1 hlength
  have hword : (Template.fill template.segments tokens)[0]? = some word :=
    Template.getElem?_fill_literal (by rw [hsegments]; rfl)
  rw [hfill, hparts] at hword
  obtain rfl : first = word := Option.some.inj hword
  exact ⟨part, hparts⟩

section Owner

variable {pattern : Pattern} {owner : Template} {parent : String} {tokens : List String}

/-- A pattern at root level takes the name of another template if it swallows it. -/
theorem Pattern.takes_none_iff (h : pattern.template.Arises) (howner : owner.Arises)
    (hpairs : 2 ≤ owner.length) (htokens : owner.tokens? parent = some tokens) :
    pattern.Takes parent none ↔ pattern.Swallows parent := by
  have hne := Template.segments_ne_nil_of_length hpairs (by decide)
  constructor
  · rintro ⟨hlength, hparent⟩
    have hdescribes : pattern.template.describes parent = true :=
      hparent.resolve_left (Template.ne_empty_of_tokens? howner.validSegments hne htokens)
    obtain ⟨others, hothers⟩ := Option.isSome_iff_exists.1 hdescribes
    have hshape := congrArg List.length (h.shape_eq howner hothers htokens)
    rw [Template.shape, Template.shape, List.length_map, List.length_map] at hshape
    rw [Template.length] at hlength hpairs
    obtain ⟨word, key, hsegments⟩ := h.validSegments.eq_pair (by omega)
    obtain ⟨part, hparts⟩ := Template.segments_of_pair hsegments hothers
    exact ⟨word, part, _, hparts, hsegments⟩
  · rintro ⟨word, part, segment, hparts, hsegments⟩
    have hlength : owner.segments.length = 2 := by
      obtain ⟨-, -, hfill⟩ := (Template.tokens?_eq_some_iff hne).1 htokens
      rw [← Template.length_fill owner.segments tokens, hfill, hparts]
      rfl
    obtain ⟨other, key, hother⟩ := howner.validSegments.eq_pair hlength
    obtain ⟨otherPart, hotherParts⟩ := Template.segments_of_pair hother htokens
    obtain rfl : word = other := (List.cons.inj (hparts.symm.trans hotherParts)).1
    obtain ⟨first, last, hpair⟩ := h.validSegments.eq_pair (by rw [hsegments]; rfl)
    obtain ⟨hfirst, hlast⟩ := List.cons.inj (hsegments.symm.trans hpair)
    obtain rfl := Segment.literal.inj hfirst
    have hshape : pattern.template.shape = owner.shape := by
      rw [Template.shape, Template.shape, hpair, hother]
      rfl
    refine .root ?_ (.inr ?_)
    · rw [Template.length, hsegments]
      exact Nat.lt_succ_self 2
    · rw [Template.describes, Template.tokens?_congr hshape, htokens]
      rfl

/-- A pattern that is not at root level takes the name of another template if it is in that. -/
theorem Pattern.takes_some_iff (h : pattern.template.Arises) (howner : owner.Arises)
    (htokens : owner.tokens? parent = some tokens) {others : List String} :
    pattern.Takes parent (some others) ↔ pattern.IsIn owner ∧ others = tokens := by
  constructor
  · intro htakes
    obtain ⟨htemplate, hothers⟩ | ⟨htemplate, hothers⟩ := htakes
    have harises := h.singletonParent htemplate
    exact ⟨⟨_, htemplate, harises.shape_eq howner hothers htokens⟩,
      howner.tokens_eq harises htokens hothers⟩
  · rintro ⟨⟨template, htemplate, hshape⟩, rfl⟩
    exact .nested htemplate (by rw [Template.tokens?_congr hshape, htokens])

end Owner

namespace PatternSet

/-- The name of the parent of a pattern is taken by the first pattern with a parent of the same
shape, unless one at root level swallows it before. -/
theorem IsValid.firstTakes_of_owner {set : PatternSet} (h : set.IsValid) {owner : Template}
    (howner : owner.Arises) (hpairs : 2 ≤ owner.length) {parent : String} {tokens : List String}
    (htokens : owner.tokens? parent = some tokens) {found : Pattern} (hfound : found ∈ set.toList)
    (hin : found.IsIn owner)
    (hleast : ∀ other ∈ set.toList, other.IsIn owner → found.index ≤ other.index) :
    ((∀ root ∈ set.toList, root.Swallows parent → found.index ≤ root.index) →
      set.FirstTakes parent found (some tokens)) ∧
    ((∃ root ∈ set.toList, root.Swallows parent ∧ root.index < found.index) →
      ∃ root ∈ set.toList, root.Swallows parent ∧
        (∀ other ∈ set.toList, other.Swallows parent → root.index ≤ other.index) ∧
        set.FirstTakes parent root none) := by
  constructor
  · intro hfree
    refine ⟨hfound, (Pattern.takes_some_iff (h.arises hfound) howner htokens).2 ⟨hin, rfl⟩, ?_⟩
    intro other hother others htakes
    cases others with
    | none =>
        rw [Pattern.takes_none_iff (h.arises hother) howner hpairs htokens] at htakes
        exact hfree other hother htakes
    | some others =>
        rw [Pattern.takes_some_iff (h.arises hother) howner htokens] at htakes
        exact hleast other hother htakes.1
  · rintro ⟨earlier, hearlier, hswallows, hless⟩
    obtain ⟨root, hroot, hrootSwallows, hfirst⟩ :=
      exists_first (fun other => other.Swallows parent) ⟨earlier, hearlier, hswallows⟩
    refine ⟨root, hroot, hrootSwallows, hfirst, hroot,
      (Pattern.takes_none_iff (h.arises hroot) howner hpairs htokens).2 hrootSwallows, ?_⟩
    intro other hother others htakes
    cases others with
    | none =>
        rw [Pattern.takes_none_iff (h.arises hother) howner hpairs htokens] at htakes
        exact hfirst other hother htakes
    | some others =>
        rw [Pattern.takes_some_iff (h.arises hother) howner htokens] at htakes
        have hbefore := hfirst earlier hearlier hswallows
        have hafter := hleast other hother htakes.1
        omega

end PatternSet

namespace ParentedNamer

variable {m : Type → Type} [Monad m] {α Parent : Type} [Inhabited Parent]
  {namer : ParentedNamer m Parent α} {parent : String} {pattern : Pattern}

theorem parseParent_of_root (h : namer.patterns.IsValid)
    (htakes : namer.patterns.FirstTakes parent pattern none) :
    namer.parseParent parent = return (default, pattern.index) := by
  rw [parseParent, h.matchSingletonParent?_eq_some_iff.2 htakes]

theorem parseParent_of_nested (h : namer.patterns.IsValid) {tokens : List String}
    (htakes : namer.patterns.FirstTakes parent pattern (some tokens)) :
    namer.parseParent parent = (do
      let value ← namer.parentSetter tokens pattern.index
      return (value, pattern.index)) := by
  rw [parseParent, h.matchSingletonParent?_eq_some_iff.2 htakes]

theorem parseParent_of_none (h : namer.patterns.IsValid)
    (hnone : ∀ pattern ∈ namer.patterns.toList, ∀ tokens, ¬ pattern.Takes parent tokens) :
    namer.parseParent parent = throw (.invalidParent parent) := by
  rw [parseParent]
  cases hmatch : namer.patterns.matchSingletonParent? parent with
  | none => rfl
  | some result =>
      obtain ⟨pattern, tokens⟩ := result
      obtain ⟨hpattern, htakes, -⟩ := h.matchSingletonParent?_eq_some_iff.1 hmatch
      exact absurd htakes (hnone pattern hpattern tokens)

/-- **The parent of a name is found, but its tokens may get lost.** The part of a name before its
resource is taken for a parent, by the first pattern that has a parent of the same shape, and the
setter gets the first tokens of the name. Only where that part has two segments, and a pattern of
two segments with the same literal comes before, the first of these gives the default parent. For
any text, it is the first pattern to take it that counts. -/
theorem parseParent_of_name {patterns : List String}
    {getter : α → Nat → ExceptT NamerError m (List String)}
    {setter : List String → Nat → ExceptT NamerError m α}
    {parentSetter : List String → Nat → ExceptT NamerError m Parent}
    (h : compile patterns getter setter parentSetter = .ok namer) :
    (∀ name pattern tokens, namer.patterns.matchName? name = some (pattern, tokens) →
      3 ≤ pattern.template.length →
      ∀ parent, Text.firstSegments (2 * ((pattern.template.length - 1) / 2)) name = parent →
      ∃ owner, pattern.template.singletonParent? = some owner ∧
      ∃ found ∈ namer.patterns.toList, found.IsIn owner ∧
        (∀ other ∈ namer.patterns.toList, other.IsIn owner → found.index ≤ other.index) ∧
        ((∀ root ∈ namer.patterns.toList, root.Swallows parent → found.index ≤ root.index) →
          namer.patterns.FirstTakes parent found (some (tokens.take owner.variableCount)) ∧
          namer.parseParent parent = (do
            let value ← namer.parentSetter (tokens.take owner.variableCount) found.index
            return (value, found.index))) ∧
        ((∃ root ∈ namer.patterns.toList, root.Swallows parent ∧ root.index < found.index) →
          ∃ root ∈ namer.patterns.toList, root.Swallows parent ∧
            (∀ other ∈ namer.patterns.toList, other.Swallows parent → root.index ≤ other.index) ∧
            namer.patterns.FirstTakes parent root none ∧
            namer.parseParent parent = return (default, root.index))) ∧
    ∀ parent,
      (∀ pattern, namer.patterns.FirstTakes parent pattern none →
        namer.parseParent parent = return (default, pattern.index)) ∧
      (∀ pattern tokens, namer.patterns.FirstTakes parent pattern (some tokens) →
        namer.parseParent parent = (do
          let value ← namer.parentSetter tokens pattern.index
          return (value, pattern.index))) ∧
      ((∀ pattern ∈ namer.patterns.toList, ∀ tokens, ¬ pattern.Takes parent tokens) →
        namer.parseParent parent = throw (.invalidParent parent)) := by
  have hset := PatternSet.isValid_of_compile (compile_eq_ok h)
  refine ⟨?_, fun parent => ⟨fun pattern => parseParent_of_root hset,
    fun pattern tokens => parseParent_of_nested hset, parseParent_of_none hset⟩⟩
  rintro name pattern tokens hmatch hlength parent rfl
  obtain ⟨hpattern, htokens, -⟩ := hset.matchName?_eq_some_iff.1 hmatch
  have howner : pattern.template.singletonParent? = some pattern.template.dropResource :=
    Template.singletonParent?_eq_some_iff.2 ⟨hlength, rfl⟩
  have hpairs : 2 ≤ pattern.template.dropResource.length := by
    rw [Template.length_dropResource (hset.segments_ne_nil hpattern), Template.parentLength]
    omega
  obtain ⟨found, hfound, hin, hleast⟩ := PatternSet.exists_first
    (fun other => other.IsIn pattern.template.dropResource) ⟨pattern, hpattern, _, howner, rfl⟩
  obtain ⟨hfree, hswallowed⟩ :=
    hset.firstTakes_of_owner ((hset.arises hpattern).dropResource hlength) hpairs
      (Template.tokens?_parentText hlength htokens) hfound hin hleast
  refine ⟨_, howner, found, hfound, hin, hleast, ?_, ?_⟩
  · intro hroots
    exact ⟨hfree hroots, parseParent_of_nested hset (hfree hroots)⟩
  · intro hroots
    obtain ⟨root, hroot, hswallows, hfirst, htakes⟩ := hswallowed hroots
    exact ⟨root, hroot, hswallows, hfirst, htakes, parseParent_of_root hset htakes⟩

/-- The name of a folder stands for no parent, since it is a name at root level as well; the name of
a drawer does. -/
theorem parseParent_of_name_folders :
    Library.folderNamer.parseParent "folders/a" = pure (default, 0) ∧
      ∃ index, Library.folderNamer.parseParent "drawers/a" = (do
        let value ← Library.folderNamer.parentSetter ["a"] index
        return (value, index)) := by
  obtain ⟨hname, -⟩ := parseParent_of_name Library.compile_folderNamer
  have hcases : ∀ pattern ∈ Library.folderNamer.patterns.toList, pattern = Library.outerPattern ∨
      pattern = Library.innerPattern ∨ pattern = Library.drawerPattern := by decide
  constructor
  · obtain ⟨owner, -, found, hfound, hin, -, -, hswallowed⟩ :=
      hname "folders/a/folders/b" Library.innerPattern ["a", "b"] rfl (by decide) "folders/a" rfl
    have houter : Library.outerPattern.Swallows "folders/a" := ⟨"folders", "a", _, rfl, rfl⟩
    have hlater : Library.outerPattern.index < found.index := by
      obtain ⟨parent, hparent, -⟩ := hin
      rcases hcases found hfound with rfl | rfl | rfl
      · cases hparent
      · decide
      · decide
    obtain ⟨root, -, -, hfirst, -, hroot⟩ := hswallowed ⟨_, by decide, houter, hlater⟩
    have hindex : root.index = 0 :=
      Nat.eq_zero_of_le_zero (hfirst Library.outerPattern (by decide) houter)
    rw [hroot, hindex]
  · obtain ⟨owner, howner, found, -, -, -, hfree, -⟩ :=
      hname "drawers/a/folders/-" Library.drawerPattern ["a", "-"] rfl (by decide) "drawers/a" rfl
    obtain rfl := Option.some.inj howner
    refine ⟨found.index, (hfree ?_).2⟩
    rintro root hroot ⟨word, part, segment, hparts, hsegments⟩
    obtain rfl : "drawers" = word := (List.cons.inj hparts).1
    rcases hcases root hroot with rfl | rfl | rfl
    · simp [Library.outerPattern] at hsegments
    · simp [Library.innerPattern] at hsegments
    · simp [Library.drawerPattern] at hsegments

end ParentedNamer

end ResourceNames
