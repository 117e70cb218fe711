import ResourceNames.Proofs.PatternSet.Disjoint
import ResourceNames.Proofs.ValueNamer.Basic

set_option autoImplicit false

/-! # From the getter to the setter

Between the getter and the setter of a namer stands nothing but a name. The values that the getter
gives are put into it at the variables of a pattern, and what the setter gets is cut out again at
the same places, though perhaps with another pattern: the first that has the same shape. Whatever
the getter and the setter do besides takes place once and in this order. -/

namespace ResourceNames.ValueNamer

variable {m : Type → Type} [Monad m] {α : Type} {namer : ValueNamer m α} {pattern found : Pattern}

/-- What a pattern makes of the values of the getter. -/
def nameOf (pattern : Pattern) (values : List String) : ExceptT NamerError m String :=
  match pattern.template.renderValues values with
  | .ok name => return name
  | .error error => throw (.key error)

theorem format_eq (h : namer.patterns.IsValid) (hpattern : pattern ∈ namer.patterns.toList)
    (value : α) :
    namer.format value pattern.index = namer.getter value pattern.index >>= nameOf pattern := by
  rw [format, h.get?_eq_some_iff.2 ⟨hpattern, rfl⟩]
  rfl

/-- An index without a pattern is refused before the getter is asked. -/
theorem format_of_unknown (h : namer.patterns.IsValid) {index : Nat}
    (hindex : ∀ pattern ∈ namer.patterns.toList, pattern.index ≠ index) (value : α) :
    namer.format value index = throw (.invalidIndex (min index maxReportedIndex : Nat)) := by
  rw [format]
  cases hget : namer.patterns.get? index with
  | none => rfl
  | some pattern =>
      obtain ⟨hpattern, hsame⟩ := h.get?_eq_some_iff.1 hget
      exact absurd hsame (hindex pattern hpattern)

theorem parse_eq {name : String} {tokens : List String}
    (h : namer.patterns.matchName? name = some (found, tokens)) :
    namer.parse name = (do
      let value ← namer.setter tokens found.index
      return (value, found.index)) := by
  rw [parse, h]

/-- The first values of the getter make a name that matches with them, if they are tokens. -/
theorem tokens?_of_values (h : namer.patterns.IsValid) (hpattern : pattern ∈ namer.patterns.toList)
    {values : List String} (hcount : pattern.template.variableCount ≤ values.length)
    (htexts : ∀ text ∈ values.take pattern.template.variableCount, IsTokenText text) :
    ∃ name, nameOf (m := m) pattern values = pure name ∧
      pattern.template.tokens? name = some (values.take pattern.template.variableCount) := by
  have hlength : (values.take pattern.template.variableCount).length =
      pattern.template.variableCount := by
    rw [List.length_take, Nat.min_eq_left hcount]
  have hrender := Template.render_eq_ok_iff.2 ⟨hlength, rfl⟩
  refine ⟨_, ?_, Template.tokens?_of_render (h.validSegments hpattern) htexts hrender⟩
  have hvalues := Template.renderValues_eq_ok_iff.2
    ⟨fun text htext => (htexts text htext).1, hrender⟩
  rw [nameOf, hvalues]

/-- **What the getter gives is what the setter gets.** If the first values that the getter gives are
tokens, one for each variable of the pattern, they make a name, whatever follows them. Parsing that
name is nothing but a call of the setter, with these values and the index of the first pattern of
the same shape. So a value comes back, with its index, if the setter undoes the getter and no
earlier pattern has the same shape. An index without a pattern is refused, and the getter is not
asked; the setter of a namer for ids never gets more than one token. -/
theorem setter_of_getter [LawfulMonad m] (h : namer.IsCompiled) :
    (∀ pattern ∈ namer.patterns.toList,
      (∀ value, namer.format value pattern.index =
        namer.getter value pattern.index >>= nameOf pattern) ∧
      ∃ found ∈ namer.patterns.toList,
        found.template.shape = pattern.template.shape ∧
        (∀ other ∈ namer.patterns.toList, other.template.shape = pattern.template.shape →
          found.index ≤ other.index) ∧
        ∀ values, pattern.template.variableCount ≤ values.length →
          (∀ text ∈ values.take pattern.template.variableCount, IsTokenText text) →
          (∃ name, nameOf (m := m) pattern values = pure name ∧
            namer.parse name = (do
              let value ← namer.setter (values.take pattern.template.variableCount) found.index
              return (value, found.index))) ∧
          ((∀ other ∈ namer.patterns.toList, other.template.shape = pattern.template.shape →
              pattern.index ≤ other.index) →
            ∀ value (asked told : ExceptT NamerError m Unit),
              namer.getter value pattern.index = (do asked; return values) →
              namer.setter (values.take pattern.template.variableCount) pattern.index =
                (do told; return value) →
              (do let name ← namer.format value pattern.index; namer.parse name) =
                (do asked; told; return (value, pattern.index)))) ∧
    (∀ index, (∀ pattern ∈ namer.patterns.toList, pattern.index ≠ index) → ∀ value,
      namer.format value index = throw (.invalidIndex (min index maxReportedIndex : Nat))) ∧
    ∀ (patterns : List String) (getter : α → Nat → ExceptT NamerError m (List String))
      (setter : List String → Nat → ExceptT NamerError m α) (idNamer : IdNamer m α),
      IdNamer.compile patterns getter setter = .ok idNamer → ∀ name,
        idNamer.parse name = throw (.invalidName name) ∨
        ∃ tokens index, tokens.length ≤ 1 ∧ idNamer.parse name = (do
          let value ← idNamer.setter tokens index
          return (value, index)) := by
  have hset := h.patterns_isValid
  refine ⟨?_, fun index hindex value => format_of_unknown hset hindex value, ?_⟩
  · intro pattern hpattern
    refine ⟨format_eq hset hpattern, ?_⟩
    obtain ⟨found, hfound, hshape, hleast⟩ := PatternSet.exists_first
      (fun other => other.template.shape = pattern.template.shape) ⟨pattern, hpattern, rfl⟩
    refine ⟨found, hfound, hshape, hleast, ?_⟩
    intro values hcount htexts
    obtain ⟨name, hname, htokens⟩ := tokens?_of_values (m := m) hset hpattern hcount htexts
    have hparse := parse_eq (hset.matchName?_of_first hpattern hfound hshape hleast htokens)
    refine ⟨⟨name, hname, hparse⟩, ?_⟩
    intro hfirst value asked told hgetter hsetter
    obtain rfl : found = pattern := hset.eq_of_index_eq hfound hpattern
      (Nat.le_antisymm (hleast pattern hpattern rfl) (hfirst found hfound hshape))
    rw [format_eq hset hpattern, hgetter]
    simp only [bind_assoc, pure_bind, hname, hparse, hsetter]
  · intro patterns getter setter idNamer hcompile name
    obtain ⟨hidSet, hsingle⟩ := IdNamer.compile_eq_ok hcompile
    cases hmatch : idNamer.patterns.matchName? name with
    | none => exact .inl (by rw [parse, hmatch])
    | some result =>
        obtain ⟨found, tokens⟩ := result
        obtain ⟨hfound, htokens, -⟩ :=
          (PatternSet.isValid_of_compile hidSet).matchName?_eq_some_iff.1 hmatch
        refine .inr ⟨tokens, found.index, ?_, parse_eq hmatch⟩
        rw [Template.length_of_tokens? htokens]
        exact hsingle found hfound

/-- A folder in another one, whose own name is left open, comes back with one call of the getter. -/
theorem setter_of_getter_folder :
    (do
      let name ← Library.folderNamer.format ["a", "-"] 1
      Library.folderNamer.parse name) =
    (do
      modify (· + 1)
      pure ()
      return (["a", "-"], 1)) := by
  obtain ⟨hpatterns, -, -⟩ := setter_of_getter (.parented Library.compile_folderNamer)
  obtain ⟨-, found, -, -, -, hvalues⟩ := hpatterns Library.innerPattern (by decide)
  have hfirst : ∀ other ∈ Library.folderNamer.patterns.toList,
      other.template.shape = Library.innerPattern.template.shape →
        Library.innerPattern.index ≤ other.index := by decide
  exact (hvalues ["a", "-"] (by decide) (by decide)).2 hfirst ["a", "-"] (modify (· + 1)) (pure ())
    rfl rfl

end ResourceNames.ValueNamer
