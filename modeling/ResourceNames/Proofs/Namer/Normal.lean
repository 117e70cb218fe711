import ResourceNames.Proofs.Namer.ParentRoundTrip
import ResourceNames.Proofs.Template.Inverse

set_option autoImplicit false

/-! # Names in normal form

Many names may be parsed to the same values: `+5`, `05` and `5` are one number, and where two keys
are for the same field only the last token for it counts. Formatting the record gives one name for
all of these, their normal form. It is parsed with the same pattern and to the same values, and
formatting gives it again. A name that has the text of a value for every token is in normal form
already, as long as its keys are for different fields. -/

namespace ResourceNames.Namer

variable {ι : Type} {schema : Schema ι} {type : ι} {namer : Namer schema type}
  {record before after target : Record ι} {pattern : Pattern} {template : Template}
  {name text : String} {tokens : List String} {pairs : List (String × String)}
  {pair : String × String}

/-- The record has the scalar for the key, be it absent or not. -/
def Holds (namer : Namer schema type) (record : Record ι) (key : String) (scalar : Scalar) : Prop :=
  ∃ binding, namer.bindings.get? key = some binding ∧
    schema.read binding.path record = .scalar scalar

/-- A key that has a value fits a record if the value is not absent. -/
theorem fits_iff_of_holds {key : String} (h : ∃ scalar, namer.Holds record key scalar) :
    namer.Fits record key ↔ ∀ scalar, namer.Holds record key scalar → ¬ scalar.IsAbsent := by
  constructor
  · rintro ⟨binding, scalar, hbinding, hread, hpresent⟩ other ⟨found, hfound, hother⟩
    obtain rfl : binding = found := Option.some.inj (hbinding.symm.trans hfound)
    obtain rfl : scalar = other := Slot.scalar.inj (hread.symm.trans hother)
    exact hpresent
  · intro hpresent
    obtain ⟨scalar, binding, hbinding, hread⟩ := h
    exact ⟨binding, scalar, hbinding, hread, hpresent scalar ⟨binding, hbinding, hread⟩⟩

/-- The keys are bound to different fields. -/
def HaveOwnFields (namer : Namer schema type) (keys : List String) : Prop :=
  (keys.map fun key => (namer.bindings.get? key).map Binding.path).Nodup

/-- Every token is the text of the value that it is read as. -/
def AreCanonical (namer : Namer schema type) (pairs : List (String × String)) : Prop :=
  ∀ pair ∈ pairs, ∀ write, namer.IsWrite pair write → write.2.text = pair.2

/-! ## The values that a parse leaves -/

/-- Once tokens have been assigned, a key has the value of a token for its field. -/
theorem Effect.holds (h : namer.Effect pairs before after)
    (hwildcard : ∀ pair ∈ pairs, pair.2 ≠ Text.wildcard) (hpair : pair ∈ pairs) :
    ∃ binding, namer.bindings.get? pair.1 = some binding ∧
      ∃ last ∈ pairs, ∃ other, namer.bindings.get? last.1 = some other ∧
        other.path = binding.path ∧ ∃ write, namer.IsWrite last write ∧
          schema.read binding.path after = .scalar write.2 := by
  obtain ⟨binding, hbinding⟩ := h.bound pair hpair
  have hsome : ∃ next ∈ pairs, ∃ other, namer.bindings.get? next.1 = some other ∧
      other.path = binding.path := ⟨pair, hpair, binding, hbinding, rfl⟩
  obtain ⟨earlier, last, later, hsplit, ⟨other, hother, hpath⟩, hlater⟩ := exists_last hsome
  have hlast : last ∈ pairs := by simp [hsplit]
  obtain ⟨places, leaf, scalar, hlead, hparse, hread⟩ :=
    h.written earlier last.1 last.2 later other hsplit (hwildcard last hlast) hother
      fun next hnext _ found hfound hsame => hlater next hnext ⟨found, hfound, hsame.trans hpath⟩
  rw [hpath] at hread
  exact ⟨binding, hbinding, last, hlast, other, hother, hpath, (places, scalar),
    ⟨other, leaf, hother, hlead, hparse⟩, hread⟩

/-- A string that was read from a token is the token. -/
theorem IsWrite.eq_of_string {places : List Nat} {text : String}
    (h : namer.IsWrite pair (places, .string text)) : text = pair.2 := by
  obtain ⟨binding, leaf, -, -, hparse⟩ := h
  obtain rfl : ScalarType.string = leaf := ScalarType.type_of_parse hparse
  exact (Scalar.string.inj (Except.ok.inj hparse)).symm

/-- The tokens of a match belong to the keys of the template, one to each. -/
theorem exists_pair_of_mem_keys (hlength : tokens.length = template.keys.length) {key : String}
    (hkey : key ∈ template.keys) : ∃ pair ∈ template.keys.zip tokens, pair.1 = key := by
  rw [← List.map_fst_zip hlength.ge] at hkey
  exact List.mem_map.1 hkey

theorem ne_wildcard_of_mem_zip {keys : List String} (hwildcard : Text.wildcard ∉ tokens)
    {pair : String × String} (hpair : pair ∈ keys.zip tokens) : pair.2 ≠ Text.wildcard := by
  intro hsame
  exact hwildcard (hsame ▸ (List.of_mem_zip hpair).2)

/-- Without wildcards every key has a value in the end. -/
theorem Effect.exists_holds (h : namer.Effect (template.keys.zip tokens) before after)
    (hlength : tokens.length = template.keys.length) (hwildcard : Text.wildcard ∉ tokens)
    {key : String} (hkey : key ∈ template.keys) : ∃ scalar, namer.Holds after key scalar := by
  obtain ⟨pair, hpair, rfl⟩ := exists_pair_of_mem_keys hlength hkey
  obtain ⟨binding, hbinding, -, -, -, -, -, write, -, hread⟩ :=
    h.holds (fun _ => ne_wildcard_of_mem_zip hwildcard) hpair
  exact ⟨write.2, binding, hbinding, hread⟩

/-- The strings that a parse leaves are tokens, and so they are fit to be segments again. -/
theorem Effect.isSegment_of_string
    (h : namer.Effect (template.keys.zip tokens) before after)
    (htokens : template.tokens? name = some tokens) (hwildcard : Text.wildcard ∉ tokens)
    {key : String} (hkey : key ∈ template.keys) {binding : Binding}
    (hbinding : namer.bindings.get? key = some binding)
    (hread : schema.read binding.path after = .scalar (.string text)) :
    Text.separator ∉ text.toList ∧ text ≠ Text.wildcard ∧ isBraced text = false := by
  obtain ⟨pair, hpair, rfl⟩ :=
    exists_pair_of_mem_keys (Template.length_of_tokens? htokens) hkey
  obtain ⟨found, hfound, last, hlast, -, -, -, write, hwrite, hvalue⟩ :=
    h.holds (fun _ => ne_wildcard_of_mem_zip hwildcard) hpair
  obtain rfl : binding = found := Option.some.inj (hbinding.symm.trans hfound)
  rw [hread] at hvalue
  obtain ⟨places, scalar⟩ := write
  obtain rfl : .string text = scalar := Slot.scalar.inj hvalue
  obtain rfl : text = last.2 := hwrite.eq_of_string
  obtain ⟨htoken, hseparator⟩ := isTokenText_iff.1
    (Template.isTokenText_of_tokens? htokens last.2 (List.of_mem_zip hlast).2)
  rw [isToken, Bool.and_eq_true, Bool.not_eq_true'] at htoken
  exact ⟨hseparator, ne_wildcard_of_mem_zip hwildcard hlast, htoken.2⟩

/-! ## Names in normal form -/

/-- With fields of their own, the keys have the values of their tokens. -/
theorem Effect.carries_of_canonical
    (h : namer.Effect (template.keys.zip tokens) before after)
    (hlength : tokens.length = template.keys.length) (hwildcard : Text.wildcard ∉ tokens)
    (hfields : namer.HaveOwnFields template.keys)
    (hcanonical : namer.AreCanonical (template.keys.zip tokens)) :
    ∀ pair ∈ template.keys.zip tokens, namer.Carries after pair := by
  rintro ⟨key, token⟩ hpair
  obtain ⟨binding, hbinding⟩ := h.bound _ hpair
  obtain ⟨earlier, later, hsplit⟩ := List.append_of_mem hpair
  have htoken : token ≠ Text.wildcard := ne_wildcard_of_mem_zip hwildcard hpair
  have hnodup : ((template.keys.zip tokens).map Prod.fst).Nodup := by
    rw [List.map_fst_zip hlength.ge]
    exact hfields.of_map
  rw [hsplit, List.map_append, List.map_cons] at hnodup
  have hlater : ∀ next ∈ later, next.2 ≠ Text.wildcard → ∀ other,
      namer.bindings.get? next.1 = some other → other.path ≠ binding.path := by
    intro next hnext _ other hother hpath
    have hmem : next ∈ template.keys.zip tokens := by simp [hsplit, hnext]
    -- A key for the same field would be the same key, and each key is there once.
    have hsame : next.1 = key :=
      List.inj_on_of_nodup_map hfields (List.of_mem_zip hmem).1 (List.of_mem_zip hpair).1
        (by simp [hbinding, hother, hpath])
    refine (List.nodup_cons.1 (List.nodup_append.1 hnodup).2.1).1 ?_
    exact List.mem_map.2 ⟨next, hnext, hsame⟩
  obtain ⟨places, leaf, scalar, hlead, hparse, hread⟩ :=
    h.written earlier key token later binding hsplit htoken hbinding hlater
  have htext : scalar.text = token :=
    hcanonical _ hpair (places, scalar) ⟨binding, leaf, hbinding, hlead, hparse⟩
  exact ⟨binding, scalar, hbinding, hread, htext.symm, htoken⟩

/-- Tokens that carry the values of a record are the texts of these. -/
theorem text_values_of_carries {keys : List String} {values : List Scalar}
    (hlength : tokens.length = keys.length)
    (hvalues : keys.map (namer.value record) = values.map .ok)
    (hcarries : ∀ pair ∈ keys.zip tokens, namer.Carries record pair) :
    values.map Scalar.text = tokens := by
  induction keys generalizing tokens values with
  | nil =>
      obtain rfl : tokens = [] := List.length_eq_zero_iff.1 hlength
      obtain rfl : values = [] := by simpa using hvalues.symm
      rfl
  | cons key rest ih =>
      cases tokens with
      | nil => simp at hlength
      | cons token tokens =>
          cases values with
          | nil => simp at hvalues
          | cons scalar scalars =>
              obtain ⟨hvalue, hrest⟩ := List.cons.inj hvalues
              rw [List.zip_cons_cons, List.forall_mem_cons] at hcarries
              obtain ⟨⟨binding, found, hbinding, hread, htext, -⟩, hothers⟩ := hcarries
              obtain ⟨other, hother, hscalar, -⟩ := value_eq_ok_iff.1 hvalue
              obtain rfl : binding = other := Option.some.inj (hbinding.symm.trans hother)
              obtain rfl : found = scalar := Slot.scalar.inj (hread.symm.trans hscalar)
              rw [List.map_cons, ih (Nat.succ.inj hlength) hrest hothers, ← htext]

/-- A name in normal form is the name that the record gives. -/
theorem Effect.eq_of_canonical (h : namer.Effect (template.keys.zip tokens) before after)
    (htokens : template.tokens? name = some tokens) (hwildcard : Text.wildcard ∉ tokens)
    (hfields : namer.HaveOwnFields template.keys)
    (hcanonical : namer.AreCanonical (template.keys.zip tokens))
    (hfill : namer.fill after template = .ok text) : text = name := by
  have hlength := Template.length_of_tokens? htokens
  obtain ⟨values, hvalues, hfilled⟩ := fill_eq_ok_iff.1 hfill
  have hcarries := h.carries_of_canonical hlength hwildcard hfields hcanonical
  rw [text_values_of_carries hlength hvalues hcarries] at hfilled
  have hrender := Template.render_of_tokens? htokens
  rw [← hfilled, (Template.render_eq_ok_iff.1 hrender).2]

/-- A name that a record gives for the first pattern to match another name is matched by that
pattern first as well, and assigned to any record it makes that record agree. -/
theorem parse_of_fill (hschema : schema.IsDerived) (hset : namer.patterns.IsValid)
    (hleads : namer.bindings.LeadFrom schema type) (hrecord : schema.Typed type record)
    (hmatch : namer.patterns.matchName? name = some (pattern, tokens))
    (hfill : namer.fill record pattern.template = .ok text)
    (hstrings : ∀ key ∈ pattern.template.keys, ∀ binding text,
      namer.bindings.get? key = some binding →
      schema.read binding.path record = .scalar (.string text) →
      Text.separator ∉ text.toList ∧ text ≠ Text.wildcard ∧ isBraced text = false)
    (htarget : schema.Typed type target) :
    ∃ again, namer.parse text target = (again, .ok pattern.index) ∧
      ∀ key ∈ pattern.template.keys, namer.Agree record again key := by
  obtain ⟨hpattern, htokens, hleast⟩ := hset.matchName?_eq_some_iff.1 hmatch
  obtain ⟨values, hvalues, hsegments, hfilled⟩ := segments_of_fill hfill hstrings
  have hmatched := tokens?_of_fill (hset.validSegments hpattern) (hset.segments_ne_nil hpattern)
    (length_values hvalues) hsegments hfilled
  obtain ⟨found, hfound, hmatchAgain, hshape, hfirst⟩ :=
    matchName?_of_tokens? hset hpattern hmatched
  -- Both names are matched by the first pattern of the same shape.
  obtain rfl : found = pattern := by
    apply hset.eq_of_index_eq hfound hpattern
    apply Nat.le_antisymm (hfirst pattern hpattern rfl)
    apply hleast found hfound
    rw [Template.tokens?_congr hshape, htokens]
    rfl
  obtain ⟨again, hassign, hagree, -⟩ := assignMatch_of_values hschema hleads hrecord htarget hvalues
    (fun scalar hscalar => (hsegments scalar hscalar).1) found.index
  refine ⟨again, ?_, hagree⟩
  rw [parse, hmatchAgain]
  exact hassign

/-- **Formatting gives parsed names a normal form.** Let a name without wildcards be parsed into a
record. Every key of the pattern then has a value, and formatting with the pattern gives a name if
none of these is absent. That name is parsed into any record, with the same pattern and to the same
values, and formatting gives it again. It is the name that was parsed at first, if the keys are for
different fields and every token is the text of its value. -/
theorem format_parse [DecidableEq ι] (hschema : schema.IsDerived) {patterns : List String}
    {options : Namer.Options} (h : compile schema type patterns options = .ok namer)
    (hrecord : schema.Typed type record) {index : Nat}
    (hparse : namer.parse name record = (after, .ok index)) :
    ∃ pattern ∈ namer.patterns.toList, ∃ tokens, pattern.index = index ∧
      pattern.template.tokens? name = some tokens ∧
      (Text.wildcard ∉ tokens →
        (∀ key ∈ pattern.template.keys, ∃ scalar, namer.Holds after key scalar) ∧
        ((∃ text, namer.format after (.ofInt index) = .ok text) ↔
          ∀ key ∈ pattern.template.keys, ∀ scalar, namer.Holds after key scalar →
            ¬ scalar.IsAbsent) ∧
        ∀ text, namer.format after (.ofInt index) = .ok text →
          (∀ target, schema.Typed type target →
            ∃ again, namer.parse text target = (again, .ok index) ∧
              (∀ key ∈ pattern.template.keys, namer.Agree after again key) ∧
              namer.format again (.ofInt index) = .ok text) ∧
          (namer.HaveOwnFields pattern.template.keys →
            namer.AreCanonical (pattern.template.keys.zip tokens) → text = name)) := by
  have hset := patterns_isValid h
  have hleads := bindings_leadFrom hschema h
  rw [parse] at hparse
  cases hmatch : namer.patterns.matchName? name with
  | none =>
      rw [hmatch] at hparse
      cases (Prod.mk.inj hparse).2
  | some found =>
      obtain ⟨pattern, tokens⟩ := found
      rw [hmatch] at hparse
      obtain ⟨hpattern, htokens, -⟩ := hset.matchName?_eq_some_iff.1 hmatch
      obtain ⟨rfl, heffect⟩ :=
        effect_of_assignMatch hschema hleads hrecord (congrArg Prod.snd hparse)
      have hafter : (namer.assignMatch pattern.index pattern.template tokens record).1 = after :=
        congrArg Prod.fst hparse
      rw [hafter] at heffect
      refine ⟨pattern, hpattern, tokens, rfl, htokens, fun hwildcard => ?_⟩
      have hholds : ∀ key ∈ pattern.template.keys, ∃ scalar, namer.Holds after key scalar :=
        fun key => heffect.exists_holds (Template.length_of_tokens? htokens) hwildcard
      refine ⟨hholds, ?_, ?_⟩
      · simp only [format_index_eq_ok_iff hset hpattern, fill_ok_iff_fits]
        exact forall₂_congr fun key hkey => fits_iff_of_holds (hholds key hkey)
      · intro text htext
        rw [format_index_eq_ok_iff hset hpattern] at htext
        constructor
        · intro target htarget
          obtain ⟨again, hagain, hagree⟩ := parse_of_fill hschema hset hleads heffect.typed hmatch
            htext (fun key hkey binding text => heffect.isSegment_of_string htokens hwildcard hkey)
            htarget
          refine ⟨again, hagain, hagree, ?_⟩
          rw [format_index_eq_ok_iff hset hpattern]
          exact fill_of_agree rfl rfl hagree htext
        · intro hfields hcanonical
          exact heffect.eq_of_canonical htokens hwildcard hfields hcanonical htext

/-- A book is put on a shelf on the fifth floor, whose number is written with a sign and a zero in
front. It has a name without these, which leads any book to the same place. -/
theorem format_parse_padded :
    ∃ after, Library.bookNamer.parse "floors/+05/shelves/a/books/b"
        (Library.schema.newRecord .book) = (after, .ok 2) ∧
      Library.bookNamer.format after (.ofInt 2) = .ok "floors/5/shelves/a/books/b" ∧
      ∀ target, Library.schema.Typed .book target →
        ∃ again, Library.bookNamer.parse "floors/5/shelves/a/books/b" target = (again, .ok 2) ∧
          (∀ key ∈ ["floor", "shelf", "book"], Library.bookNamer.Agree after again key) ∧
          Library.bookNamer.format again (.ofInt 2) = .ok "floors/5/shelves/a/books/b" := by
  have hparse : Library.bookNamer.parse "floors/+05/shelves/a/books/b"
      (Library.schema.newRecord .book) =
        ((Library.bookNamer.parse "floors/+05/shelves/a/books/b"
          (Library.schema.newRecord .book)).1, .ok 2) := Prod.ext rfl (by decide +kernel)
  have hformat : Library.bookNamer.format (Library.bookNamer.parse "floors/+05/shelves/a/books/b"
      (Library.schema.newRecord .book)).1 (.ofInt 2) = .ok "floors/5/shelves/a/books/b" := by
    decide +kernel
  obtain ⟨pattern, hpattern, tokens, hindex, htokens, hnormal⟩ :=
    format_parse Library.isDerived_schema Library.compile_bookNamer
      (Library.isDerived_schema.newRecord_typed .book) hparse
  obtain rfl : pattern = Library.floorPattern :=
    (patterns_isValid Library.compile_bookNamer).eq_of_index_eq hpattern (by decide) hindex
  have hfloor : Library.floorPattern.template.tokens? "floors/+05/shelves/a/books/b" =
      some ["+05", "a", "b"] := by decide +kernel
  obtain rfl : tokens = ["+05", "a", "b"] := Option.some.inj (htokens.symm.trans hfloor)
  obtain ⟨-, -, hstable⟩ := hnormal (by decide)
  exact ⟨_, hparse, hformat, (hstable _ hformat).1⟩

end ResourceNames.Namer
