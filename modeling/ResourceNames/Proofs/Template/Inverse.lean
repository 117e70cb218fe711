import ResourceNames.Proofs.Template.Parent

set_option autoImplicit false

/-! # Matching undoes rendering

A name has at most one list of tokens that it can be rendered from, and matching finds it. Values
that are no tokens may be rendered as well, but then the name does not match, not even with other
tokens: a separator in a value makes the name longer than its template. -/

namespace ResourceNames

/-- What can stand for a variable in a name: any text without a separator but the empty one and
    those in braces. -/
def IsTokenText (text : String) : Prop :=
  text ≠ "" ∧ Text.separator ∉ text.toList ∧
    ¬ (text.toList.head? = some '{' ∧ text.toList.getLast? = some '}')

instance (text : String) : Decidable (IsTokenText text) :=
  inferInstanceAs (Decidable (_ ∧ _ ∧ _))

theorem isTokenText_iff {text : String} :
    IsTokenText text ↔ isToken text = true ∧ Text.separator ∉ text.toList := by
  have hbraced : isBraced text = true ↔
      text.toList.head? = some '{' ∧ text.toList.getLast? = some '}' := by
    rw [isBraced, Bool.and_eq_true, beq_iff_eq, beq_iff_eq]
  rw [IsTokenText, isToken, Bool.and_eq_true, bne_iff_ne, Bool.not_eq_true', ← hbraced,
    Bool.not_eq_true]
  exact ⟨fun h => ⟨⟨h.1, h.2.2⟩, h.2.1⟩, fun h => ⟨h.1.1, h.2, h.1.2⟩⟩

namespace Template

variable {template : Template} {name : String} {values tokens : List String}

/-! ## Names that were rendered -/

theorem render_eq_ok_iff :
    template.render values = .ok name ↔
      values.length = template.variableCount ∧
        Text.ofSegments (fill template.segments values) = name := by
  rw [render]
  split_ifs with hcount <;> simp [hcount]

theorem mem_fill_of_mem {segments : List Segment} {value : String}
    (hcount : values.length = (segments.filterMap Segment.key?).length) (h : value ∈ values) :
    value ∈ fill segments values := by
  fun_induction fill segments values with
  | case1 values =>
      rw [List.length_eq_zero_iff.1 hcount] at h
      cases h
  | case2 values text rest ih => exact List.mem_cons_of_mem _ (ih hcount h)
  | case3 rest key first values ih =>
      rcases List.mem_cons.1 h with rfl | hmem
      · exact List.mem_cons_self
      · exact List.mem_cons_of_mem _ (ih (Nat.succ.inj hcount) hmem)
  | case4 rest key => cases h

theorem eq_nil_of_segments (hnil : template.segments = [])
    (hcount : values.length = template.variableCount) : values = [] := by
  rw [← List.length_eq_zero_iff, hcount, variableCount, keys, hnil]
  rfl

/-- Nothing but its tokens renders to a name that matches, and no token has a separator. -/
theorem eq_tokens_of_render (htokens : template.tokens? name = some tokens)
    (hrender : template.render values = .ok name) :
    values = tokens ∧ ∀ token ∈ tokens, Text.separator ∉ token.toList := by
  obtain ⟨hcount, rfl⟩ := render_eq_ok_iff.1 hrender
  by_cases hempty : template.segments = []
  · rw [eq_nil_of_segments hempty hcount, eq_nil_of_segments hempty (length_of_tokens? htokens)]
    simp
  · obtain ⟨htokensCount, -, hfill⟩ := (tokens?_eq_some_iff hempty).1 htokens
    have hnil : fill template.segments values ≠ [] := fill_ne_nil hempty values
    -- A separator among the values would make the name longer than the template.
    have hlength : (Text.segments (Text.ofSegments (fill template.segments values))).length =
        (fill template.segments values).length := by
      rw [← hfill, length_fill, length_fill]
    have hparts := Text.separator_not_mem_of_length_segments hnil hlength
    rw [Text.segments_ofSegments hnil hparts] at hfill
    obtain rfl := values_eq_of_fill_eq htokensCount hcount hfill
    exact ⟨rfl, fun token htoken => hparts token (mem_fill_of_mem hcount htoken)⟩

theorem render_of_tokens? (h : template.tokens? name = some tokens) :
    template.render tokens = .ok name := by
  rw [render_eq_ok_iff]
  refine ⟨length_of_tokens? h, ?_⟩
  by_cases hnil : template.segments = []
  · rw [hnil, eq_empty_of_tokens? hnil h]
    rfl
  · obtain ⟨-, -, hfill⟩ := (tokens?_eq_some_iff hnil).1 h
    rw [hfill, Text.ofSegments_segments]

/-- A name that was rendered from tokens matches with these. -/
theorem tokens?_of_render (h : ValidSegments template.segments)
    (hvalues : ∀ value ∈ values, IsTokenText value) (hrender : template.render values = .ok name) :
    template.tokens? name = some values := by
  obtain ⟨hcount, rfl⟩ := render_eq_ok_iff.1 hrender
  by_cases hnil : template.segments = []
  · rw [tokens?, isEmpty, hnil, eq_nil_of_segments hnil hcount]
    rfl
  · rw [tokens?_eq_some_iff hnil]
    refine ⟨hcount, fun value hvalue => (isTokenText_iff.1 (hvalues value hvalue)).1, ?_⟩
    rw [Text.segments_ofSegments (fill_ne_nil hnil values)]
    intro part hpart
    rcases mem_fill hcount hpart with hliteral | hvalue
    · exact h.separator_not_mem_literal hliteral
    · exact (hvalues part hvalue).2.1

theorem isTokenText_of_tokens? (h : template.tokens? name = some tokens) :
    ∀ token ∈ tokens, IsTokenText token := by
  intro token htoken
  have hseparator := (eq_tokens_of_render h (render_of_tokens? h)).2 token htoken
  by_cases hnil : template.segments = []
  · rw [eq_nil_of_segments hnil (length_of_tokens? h)] at htoken
    cases htoken
  · exact isTokenText_iff.2 ⟨((tokens?_eq_some_iff hnil).1 h).2.1 token htoken, hseparator⟩

/-- **Matching is the inverse of rendering.** A name matches with some tokens if and only if it is
rendered from them. What is rendered from values matches with these if they are all tokens, and does
not match at all otherwise. -/
theorem tokens?_iff_render (h : template.Arises) :
    (∀ name tokens, template.tokens? name = some tokens ↔
      tokens.length = template.variableCount ∧ (∀ token ∈ tokens, IsTokenText token) ∧
        template.render tokens = .ok name) ∧
    ∀ values, values.length = template.variableCount →
      ∃ name, template.render values = .ok name ∧
        ((∀ value ∈ values, IsTokenText value) → template.tokens? name = some values) ∧
        ((∃ value ∈ values, ¬ IsTokenText value) → template.tokens? name = none) := by
  constructor
  · intro name tokens
    constructor
    · intro htokens
      exact ⟨length_of_tokens? htokens, isTokenText_of_tokens? htokens, render_of_tokens? htokens⟩
    · rintro ⟨-, htokens, hrender⟩
      exact tokens?_of_render h.validSegments htokens hrender
  · intro values hcount
    have hrender := render_eq_ok_iff.2 ⟨hcount, rfl⟩
    refine ⟨_, hrender, fun hvalues => tokens?_of_render h.validSegments hvalues hrender, ?_⟩
    rintro ⟨value, hvalue, hnot⟩
    rw [Option.eq_none_iff_forall_ne_some]
    intro tokens htokens
    obtain ⟨rfl, -⟩ := eq_tokens_of_render htokens hrender
    exact hnot (isTokenText_of_tokens? htokens value hvalue)

end Template

namespace Library

/-- The pages of a book on a shelf. -/
def pageTemplate : Template :=
  ⟨"shelves/\x7bshelf\x7d/books/\x7bbook\x7d/pages/\x7bpage\x7d",
    [.literal "shelves", .variable "shelf", .literal "books", .variable "book", .literal "pages",
      .variable "page"]⟩

theorem arises_pageTemplate : pageTemplate.Arises :=
  .parsed (show Template.parse pageTemplate.text = .ok pageTemplate from rfl)

end Library

/-- A name may leave the book open. One that is made of the names of two books names none. -/
theorem Template.tokens?_iff_render_books :
    Library.pageTemplate.parent.tokens? "shelves/a/books/-" = some ["a", "-"] ∧
      ∃ name, Library.pageTemplate.parent.render ["a/books/b", "c"] = .ok name ∧
        Library.pageTemplate.parent.tokens? name = none := by
  obtain ⟨hiff, hrender⟩ := tokens?_iff_render (.parent Library.arises_pageTemplate)
  obtain ⟨name, hname, -, hnone⟩ := hrender ["a/books/b", "c"] rfl
  exact ⟨(hiff _ _).2 ⟨rfl, by decide, rfl⟩, name, hname, hnone ⟨_, List.mem_cons_self, by decide⟩⟩

end ResourceNames
