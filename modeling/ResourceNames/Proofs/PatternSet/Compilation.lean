import ResourceNames.Proofs.PatternSet.Lookup
import ResourceNames.Proofs.Template.Grammar

set_option autoImplicit false

/-! # What a set is compiled from

The texts of a set are numbered before any of them is read, the declared ones from 0 on and the
extra ones from 100 on, and are read in this order. The first that is no template is the one
reported. If all are templates, looking up a number gives the template of the text with this
number. -/

namespace ResourceNames.PatternSet

variable {declared extra : List String} {set : PatternSet}

/-- The texts in the order in which they are read, with their numbers. -/
def numbered (declared extra : List String) : List (String × Nat) :=
  declared.zipIdx ++ extra.zipIdx firstExtraIndex

/-- Reads texts with their numbers. -/
def readNumbered (texts : List (String × Nat)) : Except PatternSetError (List Pattern) :=
  texts.mapM fun item => compilePattern item.2 item.1

theorem mem_numbered_iff {text : String} {index : Nat} :
    (text, index) ∈ numbered declared extra ↔
      declared[index]? = some text ∨
        firstExtraIndex ≤ index ∧ extra[index - firstExtraIndex]? = some text := by
  rw [numbered, List.mem_append, List.mk_mem_zipIdx_iff_getElem?,
    List.mk_mem_zipIdx_iff_le_and_getElem?_sub]

theorem compileFrom_eq_readNumbered (index : Nat) (texts : List String) :
    compileFrom index texts = readNumbered (texts.zipIdx index) := by
  induction texts generalizing index with
  | nil => rfl
  | cons text rest ih =>
      rw [compileFrom, ih, readNumbered, readNumbered, List.zipIdx_cons, List.mapM_cons]

/-- Apart from the check of the number of declared texts, all texts are read in one go. -/
theorem compile_eq_readNumbered (hne : declared ≠ []) (hcount : declared.length ≤ firstExtraIndex) :
    compile declared extra =
      (readNumbered (numbered declared extra)).map fun patterns => ⟨patterns.toArray⟩ := by
  rw [compile, if_neg (by simpa using hne), if_neg (Nat.not_lt.2 hcount),
    compileFrom_eq_readNumbered, compileFrom_eq_readNumbered, readNumbered, readNumbered,
    readNumbered, numbered, List.mapM_append]
  cases declared.zipIdx.mapM fun item => compilePattern item.2 item.1 with
  | error error => rfl
  | ok first =>
      cases (extra.zipIdx firstExtraIndex).mapM fun item => compilePattern item.2 item.1 <;> rfl

/-! ## Texts that form no set -/

theorem compilePattern_eq_error_iff {index : Nat} {text : String} {error : PatternSetError} :
    compilePattern index text = .error error ↔
      ∃ cause, Template.parse text = .error cause ∧ error = .invalidPattern index text cause := by
  rw [compilePattern]
  cases Template.parse text <;> simp [eq_comm]

/-- Why texts form no set: the number of those that are declared, or the first text that is no
    template. -/
inductive Unfit (declared extra : List String) : PatternSetError → Prop
  | noPatterns (h : declared = []) : Unfit declared extra .noPatterns
  | tooManyDeclared (h : firstExtraIndex < declared.length) :
      Unfit declared extra (.tooManyDeclared declared.length firstExtraIndex)
  | invalidPattern {before after : List (String × Nat)} {text : String} {index : Nat}
      {cause : TemplateError} (hne : declared ≠ []) (hcount : declared.length ≤ firstExtraIndex)
      (hsplit : numbered declared extra = before ++ (text, index) :: after)
      (hbefore : ∀ earlier ∈ before, FollowsGrammar (Text.segments earlier.1))
      (hcause : Template.parse text = .error cause) :
      Unfit declared extra (.invalidPattern index text cause)

/-- Texts are read up to the first that is no template. -/
theorem readNumbered_eq_error_iff {texts : List (String × Nat)} {error : PatternSetError} :
    readNumbered texts = .error error ↔
      ∃ before text index after cause, texts = before ++ (text, index) :: after ∧
        (∀ earlier ∈ before, FollowsGrammar (Text.segments earlier.1)) ∧
        Template.parse text = .error cause ∧ error = .invalidPattern index text cause := by
  have hread : ∀ item : String × Nat, (∃ pattern, compilePattern item.2 item.1 = .ok pattern) ↔
      FollowsGrammar (Text.segments item.1) := by
    intro item
    rw [← Template.exists_parse_iff]
    simp only [compilePattern_eq_ok_iff]
    exact ⟨fun ⟨_, template, htemplate, _⟩ => ⟨template, htemplate⟩,
      fun ⟨template, htemplate⟩ => ⟨_, template, htemplate, rfl⟩⟩
  rw [readNumbered, mapM_eq_error_iff]
  simp only [hread, compilePattern_eq_error_iff]
  constructor
  · rintro ⟨before, ⟨text, index⟩, after, hsplit, hbefore, cause, hcause, herror⟩
    exact ⟨before, text, index, after, cause, hsplit, hbefore, hcause, herror⟩
  · rintro ⟨before, text, index, after, cause, hsplit, hbefore, hcause, herror⟩
    exact ⟨before, (text, index), after, hsplit, hbefore, cause, hcause, herror⟩

theorem compile_eq_error_iff {error : PatternSetError} :
    compile declared extra = .error error ↔ Unfit declared extra error := by
  by_cases hne : declared = []
  · have hcompile : compile declared extra = .error .noPatterns := by rw [compile, hne]; rfl
    rw [hcompile, Except.error.injEq]
    constructor
    · rintro rfl
      exact .noPatterns hne
    · rintro (_ | hcount | ⟨hother, -, -, -, -⟩)
      · rfl
      · simp [hne] at hcount
      · exact absurd hne hother
  · by_cases hcount : declared.length ≤ firstExtraIndex
    · have hread : compile declared extra = .error error ↔
          readNumbered (numbered declared extra) = .error error := by
        rw [compile_eq_readNumbered hne hcount]
        cases readNumbered (numbered declared extra) <;> simp [Except.map]
      rw [hread, readNumbered_eq_error_iff]
      constructor
      · rintro ⟨before, text, index, after, cause, hsplit, hbefore, hcause, rfl⟩
        exact .invalidPattern hne hcount hsplit hbefore hcause
      · rintro (hnil | hmany | ⟨-, -, hsplit, hbefore, hcause⟩)
        · exact absurd hnil hne
        · omega
        · exact ⟨_, _, _, _, _, hsplit, hbefore, hcause, rfl⟩
    · have hcompile : compile declared extra =
          .error (.tooManyDeclared declared.length firstExtraIndex) := by
        rw [compile, if_neg (by simpa using hne), if_pos (Nat.not_le.1 hcount)]
      rw [hcompile, Except.error.injEq]
      constructor
      · rintro rfl
        exact .tooManyDeclared (Nat.not_le.1 hcount)
      · rintro (hnil | - | ⟨-, hother, -, -, -⟩)
        · exact absurd hnil hne
        · rfl
        · exact absurd hother hcount

/-- Texts form a set if the number of those that are declared fits and all are templates. -/
theorem exists_compile_iff_grammar :
    (∃ set, compile declared extra = .ok set) ↔
      declared ≠ [] ∧ declared.length ≤ firstExtraIndex ∧
        ∀ text ∈ declared ++ extra, FollowsGrammar (Text.segments text) := by
  simp only [exists_compile_iff, Template.exists_parse_iff]

/-! ## The patterns of a set -/

/-- The patterns of a set are the templates of the texts, each with the number of its text. -/
theorem mem_toList_iff (h : compile declared extra = .ok set) {pattern : Pattern} :
    pattern ∈ set.toList ↔
      ∃ text, (text, pattern.index) ∈ numbered declared extra ∧
        Template.parse text = .ok pattern.template := by
  obtain ⟨hne, hcount, -⟩ := compile_eq_ok h
  rw [compile_eq_readNumbered hne hcount] at h
  cases hread : readNumbered (numbered declared extra) with
  | error error => simp [hread, Except.map] at h
  | ok patterns =>
      obtain rfl : ⟨patterns.toArray⟩ = set := by simpa [hread, Except.map] using h
      rw [readNumbered, mapM_eq_ok_iff] at hread
      have hmem : pattern ∈ patterns ↔ (.ok pattern : Except PatternSetError Pattern) ∈
          (numbered declared extra).map fun item => compilePattern item.2 item.1 := by
        rw [hread]
        simp
      rw [toList, List.toList_toArray, hmem, List.mem_map]
      constructor
      · rintro ⟨⟨text, index⟩, hitem, hpattern⟩
        obtain ⟨template, htemplate, rfl⟩ := compilePattern_eq_ok_iff.1 hpattern
        exact ⟨text, hitem, htemplate⟩
      · rintro ⟨text, hitem, htemplate⟩
        exact ⟨_, hitem, compilePattern_eq_ok_iff.2 ⟨_, htemplate, rfl⟩⟩

theorem get?_eq_some_iff_numbered (h : compile declared extra = .ok set) {index : Nat}
    {pattern : Pattern} :
    set.get? index = some pattern ↔
      pattern.index = index ∧ ∃ text, (text, index) ∈ numbered declared extra ∧
        Template.parse text = .ok pattern.template := by
  rw [(isValid_of_compile h).get?_eq_some_iff, mem_toList_iff h, and_comm]
  refine and_congr_right ?_
  rintro rfl
  rfl

theorem get?_of_mem_numbered (h : compile declared extra = .ok set) {text : String} {index : Nat}
    (hmem : (text, index) ∈ numbered declared extra) :
    ∃ template, Template.parse text = .ok template ∧ set.get? index = some ⟨index, template⟩ := by
  obtain ⟨-, -, htexts⟩ := exists_compile_iff.1 ⟨set, h⟩
  have htext : text ∈ declared ++ extra := by
    rcases mem_numbered_iff.1 hmem with hplace | ⟨-, hplace⟩
    · exact List.mem_append_left _ (List.mem_of_getElem? hplace)
    · exact List.mem_append_right _ (List.mem_of_getElem? hplace)
  obtain ⟨template, htemplate⟩ := htexts text htext
  exact ⟨template, htemplate,
    (get?_eq_some_iff_numbered h).2 ⟨rfl, text, hmem, htemplate⟩⟩

/-- Between the declared and the extra patterns, and behind both, there is none. -/
theorem get?_eq_none_of_gap (h : compile declared extra = .ok set) {index : Nat}
    (hdeclared : declared.length ≤ index)
    (hextra : index < firstExtraIndex ∨ firstExtraIndex + extra.length ≤ index) :
    set.get? index = none := by
  rw [Option.eq_none_iff_forall_ne_some]
  intro pattern hpattern
  obtain ⟨-, text, hmem, -⟩ := (get?_eq_some_iff_numbered h).1 hpattern
  rcases mem_numbered_iff.1 hmem with hplace | ⟨hle, hplace⟩
  · obtain ⟨hlt, -⟩ := List.getElem?_eq_some_iff.1 hplace
    omega
  · obtain ⟨hlt, -⟩ := List.getElem?_eq_some_iff.1 hplace
    omega

end ResourceNames.PatternSet
