import Mathlib.Tactic.ByContra
import ResourceNames.Namer.Format
import ResourceNames.Proofs.Namer.Basic

set_option autoImplicit false

/-! # What formatting answers

Whether a template can be filled depends on each of its keys alone: a key fits a record if it is
bound and its field reads as a scalar that is not absent. The first key that does not fit is the
cause of failure. Formatting with all patterns is the same question put to one pattern after the
other. -/

namespace ResourceNames

/-- The scalars that count as absent: zero, of either sign, and the empty text. -/
inductive Scalar.IsAbsent : Scalar → Prop
  | integer (type : IntegerType) : IsAbsent (.integer type type.zero)
  | float (format : FloatFormat) (negative : Bool) : IsAbsent (.float format (.zero negative))
  | string : IsAbsent (.string "")

theorem Scalar.isZero_iff {scalar : Scalar} : scalar.isZero = true ↔ scalar.IsAbsent := by
  constructor
  · intro h
    cases scalar with
    | integer type number =>
        have hzero : number = type.zero := Subtype.ext (by simpa [isZero, IntegerType.zero] using h)
        rw [hzero]
        exact .integer type
    | float format number =>
        cases number with
        | nan => simp [isZero, Binary.isZero] at h
        | infinite negative => simp [isZero, Binary.isZero] at h
        | finite negative rank =>
            have hzero : rank = ⟨0, Binary.finiteCount_pos format⟩ :=
              Fin.ext (by simpa [isZero, Binary.isZero] using h)
            rw [hzero]
            exact .float format negative
    | string text =>
        have hempty : text = "" := by simpa [isZero] using h
        rw [hempty]
        exact .string
  · rintro (_ | _ | _) <;> simp [isZero, Binary.isZero, Binary.zero, IntegerType.zero]

namespace Namer

variable {ι : Type} {schema : Schema ι} {type : ι}

/-! ## One key -/

/-- A record has something to say for a key: the key is bound, and its field reads as a scalar that
    is not absent. -/
def Fits (namer : Namer schema type) (record : Record ι) (key : String) : Prop :=
  ∃ binding scalar, namer.bindings.get? key = some binding ∧
    schema.read binding.path record = .scalar scalar ∧ ¬ scalar.IsAbsent

/-- Why a record has nothing to say for a key. -/
inductive Unfit (namer : Namer schema type) (record : Record ι) (key : String) : KeyError → Prop
  | unbound (h : namer.bindings.get? key = none) : Unfit namer record key (.unbound key namer.typeName)
  | absent {binding : Binding} {scalar : Scalar} (hbinding : namer.bindings.get? key = some binding)
      (hread : schema.read binding.path record = .scalar scalar) (habsent : scalar.IsAbsent) :
      Unfit namer record key (.invalidValue key scalar.text .absent)
  | nil {binding : Binding} (hbinding : namer.bindings.get? key = some binding)
      (hread : schema.read binding.path record = .nil) :
      Unfit namer record key (.invalidValue key "None" .absent)
  | record {binding : Binding} {inner : Record ι}
      (hbinding : namer.bindings.get? key = some binding)
      (hread : schema.read binding.path record = .record inner) :
      Unfit namer record key (.notScalar key namer.typeName .record)
  | unsupported {binding : Binding} (hbinding : namer.bindings.get? key = some binding)
      (hread : schema.read binding.path record = .unsupported) :
      Unfit namer record key (.notScalar key namer.typeName .unsupported)

variable {namer : Namer schema type} {record : Record ι} {key : String}

theorem value_eq_ok_iff {scalar : Scalar} :
    namer.value record key = .ok scalar ↔
      ∃ binding, namer.bindings.get? key = some binding ∧
        schema.read binding.path record = .scalar scalar ∧ ¬ scalar.IsAbsent := by
  rw [value]
  cases hbinding : namer.bindings.get? key with
  | none => simp
  | some binding =>
      simp only [Option.some.injEq, exists_eq_left']
      cases hread : schema.read binding.path record with
      | scalar found =>
          simp only [Slot.scalar.injEq, ← Scalar.isZero_iff]
          by_cases hzero : found.isZero = true <;> simp [hzero] <;> grind
      | record inner => simp
      | nil => simp
      | unsupported => simp

theorem value_eq_error_iff {error : KeyError} :
    namer.value record key = .error error ↔ namer.Unfit record key error := by
  constructor
  · intro h
    rw [value] at h
    cases hbinding : namer.bindings.get? key with
    | none =>
        simp only [hbinding, Except.error.injEq] at h
        exact h ▸ .unbound hbinding
    | some binding =>
        cases hread : schema.read binding.path record with
        | scalar found =>
            by_cases hzero : found.isZero = true
            · simp only [hbinding, hread, hzero, if_true, Except.error.injEq] at h
              exact h ▸ .absent hbinding hread (Scalar.isZero_iff.1 hzero)
            · simp [hbinding, hread, hzero] at h
        | record inner =>
            simp only [hbinding, hread, Except.error.injEq] at h
            exact h ▸ .record hbinding hread
        | nil =>
            simp only [hbinding, hread, Except.error.injEq] at h
            exact h ▸ .nil hbinding hread
        | unsupported =>
            simp only [hbinding, hread, Except.error.injEq] at h
            exact h ▸ .unsupported hbinding hread
  · intro h
    rw [value]
    cases h with
    | unbound hbinding => simp only [hbinding]
    | absent hbinding hread habsent =>
        simp only [hbinding, hread, Scalar.isZero_iff.2 habsent, if_true]
    | nil hbinding hread => simp only [hbinding, hread]
    | record hbinding hread => simp only [hbinding, hread]
    | unsupported hbinding hread => simp only [hbinding, hread]

theorem fits_iff_value : namer.Fits record key ↔ ∃ scalar, namer.value record key = .ok scalar := by
  simp only [Fits, value_eq_ok_iff]
  exact exists_comm

/-! ## One template -/

variable {template : Template}

/-- What is told of the values for keys, if there is one for each, is told of a list of values. -/
theorem map_value_eq_ok_iff {β : Type} (tell : Scalar → β) {keys : List String} {told : List β} :
    (keys.map fun key => (namer.value record key).map tell) = told.map .ok ↔
      ∃ values : List Scalar, keys.map (namer.value record) = values.map .ok ∧
        values.map tell = told := by
  constructor
  · intro h
    induction keys generalizing told with
    | nil => exact ⟨[], by simpa using h⟩
    | cons key rest ih =>
        cases told with
        | nil => simp at h
        | cons b told =>
            simp only [List.map_cons, List.cons.injEq] at h
            obtain ⟨hkey, hrest⟩ := h
            obtain ⟨values, hvalues, rfl⟩ := ih hrest
            cases hvalue : namer.value record key with
            | error error => simp [hvalue, Except.map] at hkey
            | ok scalar =>
                have htell : tell scalar = b := by simpa [hvalue, Except.map] using hkey
                exact ⟨scalar :: values, by simp [hvalue, hvalues], by simp [htell]⟩
  · rintro ⟨values, hvalues, rfl⟩
    have hmap := congrArg (List.map (Except.map tell)) hvalues
    simpa [List.map_map, Function.comp_def, Except.map] using hmap

theorem fill_eq_ok_iff {name : String} :
    namer.fill record template = .ok name ↔
      ∃ values : List Scalar, template.keys.map (namer.value record) = values.map .ok ∧
        Text.ofSegments (Template.fill template.segments (values.map Scalar.text)) = name := by
  rw [fill, Template.renderBy_eq_ok_iff]
  simp only [map_value_eq_ok_iff]
  constructor
  · rintro ⟨_, ⟨values, hvalues, rfl⟩, hname⟩
    exact ⟨values, hvalues, hname⟩
  · rintro ⟨values, hvalues, hname⟩
    exact ⟨_, ⟨values, hvalues, rfl⟩, hname⟩

theorem fill_ok_iff_fits :
    (∃ name, namer.fill record template = .ok name) ↔
      ∀ key ∈ template.keys, namer.Fits record key := by
  constructor
  · rintro ⟨name, hname⟩ key hkey
    obtain ⟨values, hvalues, -⟩ := fill_eq_ok_iff.1 hname
    have hmem : namer.value record key ∈ values.map Except.ok :=
      hvalues ▸ List.mem_map_of_mem hkey
    obtain ⟨scalar, -, hscalar⟩ := List.mem_map.1 hmem
    exact fits_iff_value.2 ⟨scalar, hscalar.symm⟩
  · intro hfits
    cases hfill : namer.fill record template with
    | ok name => exact ⟨name, rfl⟩
    | error error =>
        obtain ⟨before, key, after, hkeys, -, herror⟩ := Template.renderBy_eq_error_iff.1 hfill
        obtain ⟨scalar, hscalar⟩ := fits_iff_value.1 (hfits key (by simp [hkeys]))
        simp [hscalar, Except.map] at herror

theorem fill_eq_error_iff {error : KeyError} :
    namer.fill record template = .error error ↔
      ∃ before key after, template.keys = before ++ key :: after ∧
        (∀ earlier ∈ before, namer.Fits record earlier) ∧ namer.Unfit record key error := by
  have hfits : ∀ key, (∃ text, (namer.value record key).map Scalar.text = .ok text) ↔
      namer.Fits record key := by
    intro key
    rw [fits_iff_value]
    cases namer.value record key <;> simp [Except.map]
  have hunfit : ∀ key, (namer.value record key).map Scalar.text = .error error ↔
      namer.Unfit record key error := by
    intro key
    rw [← value_eq_error_iff]
    cases namer.value record key <;> simp [Except.map]
  simp only [fill, Template.renderBy_eq_error_iff, hfits, hunfit]

/-! ## Several templates -/

variable {kind : NameKind}

/-- The name that one pattern gives, if it has a template for the kind of name and the record can
    fill that. -/
def attempt (namer : Namer schema type) (kind : NameKind) (record : Record ι) (pattern : Pattern) :
    Option String :=
  (templateFor kind pattern).bind fun template => (namer.fill record template).toOption

theorem fillFirst_eq_ok_iff {patterns : List Pattern} (last : Option KeyError) {name : String} :
    namer.fillFirst record last (patterns.filterMap (templateFor kind)) = .ok name ↔
      patterns.findSome? (namer.attempt kind record) = some name := by
  induction patterns generalizing last with
  | nil => simp [fillFirst]
  | cons pattern rest ih =>
      cases htemplate : templateFor kind pattern with
      | none => simp [attempt, htemplate, ih]
      | some template =>
          cases hfill : namer.fill record template with
          | ok text => simp [attempt, htemplate, hfill, fillFirst, Except.toOption]
          | error error => simp [attempt, htemplate, hfill, fillFirst, Except.toOption, ih]

/-- After templates that cannot be filled, only the last one counts. -/
theorem fillFirst_concat {front : List Template} {template : Template} {last : Option KeyError}
    (h : ∀ earlier ∈ front, ∃ error, namer.fill record earlier = .error error) :
    namer.fillFirst record last (front ++ [template]) =
      (namer.fill record template).mapError some := by
  induction front generalizing last with
  | nil => cases hfill : namer.fill record template <;> simp [fillFirst, hfill, Except.mapError]
  | cons earlier rest ih =>
      obtain ⟨error, herror⟩ := h earlier List.mem_cons_self
      rw [List.cons_append, fillFirst, herror]
      exact ih fun other hother => h other (List.mem_cons_of_mem _ hother)

theorem formatKind_all :
    namer.formatKind kind record (.ofInt (-1)) =
      (namer.fillFirst record none (namer.patterns.toList.filterMap (templateFor kind))).mapError
        (.noPatternFound kind namer.typeName) := rfl

theorem formatKind_index (hset : namer.patterns.IsValid) {pattern : Pattern}
    (hpattern : pattern ∈ namer.patterns.toList) :
    namer.formatKind kind record (.ofInt pattern.index) =
      (namer.fillFirst record none ((templateFor kind pattern).toList)).mapError
        (.noPatternFound kind namer.typeName) := by
  have hindex : (pattern.index : Int) ≠ -1 := by omega
  have hfilter : [pattern].filterMap (templateFor kind) = (templateFor kind pattern).toList := by
    cases htemplate : templateFor kind pattern <;> simp [htemplate]
  rw [formatKind, Selector.ofInt, if_neg hindex, selected, hset.find?_index hpattern, ← hfilter]
  rfl

theorem formatKind_index_eq_ok_iff (hset : namer.patterns.IsValid) {pattern : Pattern}
    (hpattern : pattern ∈ namer.patterns.toList) {name : String} :
    namer.formatKind kind record (.ofInt pattern.index) = .ok name ↔
      namer.attempt kind record pattern = some name := by
  rw [formatKind_index hset hpattern, attempt]
  cases htemplate : templateFor kind pattern with
  | none => simp [fillFirst, Except.mapError]
  | some template =>
      cases hfill : namer.fill record template <;>
        simp [fillFirst, hfill, Except.mapError, Except.toOption]

theorem formatKind_index_of_template (hset : namer.patterns.IsValid) {pattern : Pattern}
    (hpattern : pattern ∈ namer.patterns.toList) (htemplate : templateFor kind pattern = some template) :
    namer.formatKind kind record (.ofInt pattern.index) =
      (namer.fill record template).mapError fun error =>
        .noPatternFound kind namer.typeName (some error) := by
  rw [formatKind_index hset hpattern, htemplate]
  cases hfill : namer.fill record template <;> simp [fillFirst, hfill, Except.mapError]

/-- With a single pattern the name is that of its template. -/
theorem format_index_eq_ok_iff (hset : namer.patterns.IsValid) {pattern : Pattern}
    (hpattern : pattern ∈ namer.patterns.toList) {name : String} :
    namer.format record (.ofInt pattern.index) = .ok name ↔
      namer.fill record pattern.template = .ok name := by
  rw [format, formatKind_index_of_template hset hpattern rfl]
  cases namer.fill record pattern.template <;> simp [Except.mapError]

/-- With all patterns the name is the first that one of them gives. -/
theorem formatKind_all_ok_iff {name : String} :
    namer.formatKind kind record (.ofInt (-1)) = .ok name ↔
      namer.patterns.toList.findSome? (namer.attempt kind record) = some name := by
  rw [formatKind_all, ← fillFirst_eq_ok_iff none]
  cases namer.fillFirst record none (namer.patterns.toList.filterMap (templateFor kind)) <;>
    simp [Except.mapError]

theorem formatKind_all_eq_ok_iff (hset : namer.patterns.IsValid) {name : String} :
    namer.formatKind kind record (.ofInt (-1)) = .ok name ↔
      ∃ pattern ∈ namer.patterns.toList,
        namer.formatKind kind record (.ofInt pattern.index) = .ok name ∧
        ∀ other ∈ namer.patterns.toList,
          (∃ text, namer.formatKind kind record (.ofInt other.index) = .ok text) →
            pattern.index ≤ other.index := by
  rw [formatKind_all_ok_iff, hset.findSome?_eq_some_iff]
  constructor
  · rintro ⟨pattern, hpattern, hname, hleast⟩
    refine ⟨pattern, hpattern, (formatKind_index_eq_ok_iff hset hpattern).2 hname, ?_⟩
    rintro other hother ⟨text, htext⟩
    exact hleast other hother
      (Option.isSome_of_mem ((formatKind_index_eq_ok_iff hset hother).1 htext))
  · rintro ⟨pattern, hpattern, hname, hleast⟩
    refine ⟨pattern, hpattern, (formatKind_index_eq_ok_iff hset hpattern).1 hname, ?_⟩
    intro other hother hsome
    obtain ⟨text, htext⟩ := Option.isSome_iff_exists.1 hsome
    exact hleast other hother ⟨text, (formatKind_index_eq_ok_iff hset hother).2 htext⟩

/-- With a template that cannot be filled at every pattern, only the pattern with the highest index
    of those that have one counts. -/
theorem formatKind_all_eq_index (hset : namer.patterns.IsValid)
    (hfail : ∀ pattern ∈ namer.patterns.toList, ∀ name,
      namer.formatKind kind record (.ofInt pattern.index) ≠ .ok name)
    {pattern : Pattern} (hpattern : pattern ∈ namer.patterns.toList)
    (htemplate : templateFor kind pattern = some template)
    (hlast : ∀ other ∈ namer.patterns.toList, templateFor kind other ≠ none →
      other.index ≤ pattern.index) :
    namer.formatKind kind record (.ofInt (-1)) =
      namer.formatKind kind record (.ofInt pattern.index) := by
  obtain ⟨before, after, hsplit⟩ := List.append_of_mem hpattern
  -- Behind the pattern there is nothing to try, and before it all that is tried fails.
  have hafter : after.filterMap (templateFor kind) = [] := by
    rw [List.filterMap_eq_nil_iff]
    intro other hother
    by_contra hsome
    have hascending := hset.ascending
    rw [hsplit, List.pairwise_append, List.pairwise_cons] at hascending
    have hless := hascending.2.1.1 other hother
    have hle := hlast other (by simp [hsplit, hother]) hsome
    omega
  have hbefore : ∀ earlier ∈ before.filterMap (templateFor kind),
      ∃ error, namer.fill record earlier = .error error := by
    intro earlier hearlier
    obtain ⟨other, hother, hgive⟩ := List.mem_filterMap.1 hearlier
    have hmem : other ∈ namer.patterns.toList := by simp [hsplit, hother]
    cases hfill : namer.fill record earlier with
    | error error => exact ⟨error, rfl⟩
    | ok name =>
        refine absurd ?_ (hfail other hmem name)
        rw [formatKind_index_of_template hset hmem hgive, hfill]
        rfl
  have hcandidates : namer.patterns.toList.filterMap (templateFor kind) =
      before.filterMap (templateFor kind) ++ [template] := by
    rw [hsplit, List.filterMap_append, List.filterMap_cons_some htemplate, hafter]
  rw [formatKind_all, hcandidates, fillFirst_concat hbefore,
    formatKind_index_of_template hset hpattern htemplate]
  cases namer.fill record template <;> rfl

/-- With no pattern that has a template for the kind of name there is no cause of failure. -/
theorem formatKind_all_of_none
    (hnone : ∀ pattern ∈ namer.patterns.toList, templateFor kind pattern = none) :
    namer.formatKind kind record (.ofInt (-1)) =
      .error (.noPatternFound kind namer.typeName none) := by
  rw [formatKind_all, List.filterMap_eq_nil_iff.2 hnone]
  rfl

/-- Where there was something to try there is a cause of failure. -/
theorem fillFirst_eq_error_some {templates : List Template} {last : Option KeyError}
    (hne : templates ≠ []) (hfail : ∀ name, namer.fillFirst record last templates ≠ .ok name) :
    ∃ cause, namer.fillFirst record last templates = .error (some cause) := by
  induction templates generalizing last with
  | nil => exact absurd rfl hne
  | cons first rest ih =>
      cases hfill : namer.fill record first with
      | ok name => exact absurd (by rw [fillFirst, hfill]) (hfail name)
      | error error =>
          rw [fillFirst, hfill] at hfail ⊢
          by_cases hnil : rest = []
          · exact ⟨error, by simp [hnil, fillFirst]⟩
          · exact ih hnil hfail

theorem formatKind_all_of_some
    (hsome : ¬ ∀ pattern ∈ namer.patterns.toList, templateFor kind pattern = none)
    (hfail : ∀ name, namer.formatKind kind record (.ofInt (-1)) ≠ .ok name) :
    ∃ cause, namer.formatKind kind record (.ofInt (-1)) =
      .error (.noPatternFound kind namer.typeName (some cause)) := by
  rw [formatKind_all] at hfail ⊢
  rw [← List.filterMap_eq_nil_iff] at hsome
  have hnone : ∀ name, namer.fillFirst record none
      (namer.patterns.toList.filterMap (templateFor kind)) ≠ .ok name := by
    intro name hname
    exact hfail name (by rw [hname]; rfl)
  obtain ⟨cause, hcause⟩ := fillFirst_eq_error_some hsome hnone
  exact ⟨cause, by rw [hcause]; rfl⟩

/-- The cause with which every pattern fails is that of the last one that has a template. -/
theorem formatKind_all_error (hset : namer.patterns.IsValid)
    (hfail : ∀ pattern ∈ namer.patterns.toList, ∀ name,
      namer.formatKind kind record (.ofInt pattern.index) ≠ .ok name) :
    ∃ last, namer.formatKind kind record (.ofInt (-1)) =
        .error (.noPatternFound kind namer.typeName last) ∧
      (last = none ↔ ∀ pattern ∈ namer.patterns.toList, templateFor kind pattern = none) := by
  by_cases hnone : ∀ pattern ∈ namer.patterns.toList, templateFor kind pattern = none
  · exact ⟨none, formatKind_all_of_none hnone, by simpa using hnone⟩
  · have hall : ∀ name, namer.formatKind kind record (.ofInt (-1)) ≠ .ok name := by
      intro name hname
      obtain ⟨pattern, hpattern, hok, -⟩ := (formatKind_all_eq_ok_iff hset).1 hname
      exact hfail pattern hpattern name hok
    obtain ⟨cause, hcause⟩ := formatKind_all_of_some hnone hall
    exact ⟨some cause, hcause, by simpa using hnone⟩

theorem formatKind_unknown {index : Int} (hall : index ≠ -1)
    (hindex : ∀ pattern ∈ namer.patterns.toList, (pattern.index : Int) ≠ index) :
    namer.formatKind kind record (.ofInt index) = .error (.invalidIndex index) := by
  have hfind : (namer.patterns.toList.find? fun pattern => (pattern.index : Int) == index) =
      none := by
    rw [List.find?_eq_none]
    intro pattern hpattern
    simpa using hindex pattern hpattern
  rw [formatKind, Selector.ofInt, if_neg hall, selected, hfind]
  rfl

/-! ## The answers of a namer -/

/-- What it means to answer each selector with the first pattern that fits, where only the patterns
    that are `tried` count, each with its `template`. -/
structure FirstFit (namer : Namer schema type) (record : Record ι) (kind : NameKind)
    (tried : Pattern → Prop) (template : Pattern → Template)
    (answer : Selector → Except NamerError String) : Prop where
  /-- With all patterns the name is that of the lowest index that gives one. -/
  all_ok_iff : ∀ name, answer (.ofInt (-1)) = .ok name ↔
    ∃ pattern ∈ namer.patterns.toList, answer (.ofInt pattern.index) = .ok name ∧
      ∀ other ∈ namer.patterns.toList, (∃ text, answer (.ofInt other.index) = .ok text) →
        pattern.index ≤ other.index
  /-- If no index gives a name, the cause is that of the highest index that is tried, and there is
      no cause if none is. -/
  all_error :
    (∀ pattern ∈ namer.patterns.toList, ∀ name, answer (.ofInt pattern.index) ≠ .ok name) →
      ∃ last, answer (.ofInt (-1)) = .error (.noPatternFound kind namer.typeName last) ∧
        (last = none ↔ ∀ pattern ∈ namer.patterns.toList, ¬ tried pattern) ∧
        ∀ pattern ∈ namer.patterns.toList, tried pattern →
          (∀ other ∈ namer.patterns.toList, tried other → other.index ≤ pattern.index) →
            answer (.ofInt pattern.index) = .error (.noPatternFound kind namer.typeName last)
  /-- A single pattern gives a name if every key of its template fits the record. -/
  index_ok_iff : ∀ pattern ∈ namer.patterns.toList, tried pattern →
    ((∃ name, answer (.ofInt pattern.index) = .ok name) ↔
      ∀ key ∈ (template pattern).keys, namer.Fits record key)
  /-- Otherwise the leftmost key that does not fit is the cause. -/
  index_error_iff : ∀ pattern ∈ namer.patterns.toList, tried pattern → ∀ cause,
    answer (.ofInt pattern.index) = .error (.noPatternFound kind namer.typeName (some cause)) ↔
      ∃ before key after, (template pattern).keys = before ++ key :: after ∧
        (∀ earlier ∈ before, namer.Fits record earlier) ∧ namer.Unfit record key cause
  /-- A single pattern that is not tried gives neither a name nor a cause. -/
  index_skipped : ∀ pattern ∈ namer.patterns.toList, ¬ tried pattern →
    answer (.ofInt pattern.index) = .error (.noPatternFound kind namer.typeName none)
  /-- An index that no pattern has is refused. -/
  index_unknown : ∀ index : Int, index ≠ -1 →
    (∀ pattern ∈ namer.patterns.toList, (pattern.index : Int) ≠ index) →
      answer (.ofInt index) = .error (.invalidIndex index)

/-- Formatting answers with the first fit of the patterns that have a template for the kind of
    name. -/
theorem firstFit_formatKind {tried : Pattern → Prop} {templateOf : Pattern → Template}
    (hset : namer.patterns.IsValid)
    (htried : ∀ pattern, tried pattern → templateFor kind pattern = some (templateOf pattern))
    (hskipped : ∀ pattern, ¬ tried pattern → templateFor kind pattern = none) :
    namer.FirstFit record kind tried templateOf (namer.formatKind kind record) := by
  have hnone : ∀ pattern, templateFor kind pattern = none ↔ ¬ tried pattern := by
    intro pattern
    refine ⟨fun htemplate htry => ?_, hskipped pattern⟩
    rw [htried pattern htry] at htemplate
    cases htemplate
  constructor
  case all_ok_iff => exact fun name => formatKind_all_eq_ok_iff hset
  case all_error =>
    intro hfail
    obtain ⟨last, hall, hlast⟩ := formatKind_all_error hset hfail
    refine ⟨last, hall, by simpa only [hnone] using hlast, ?_⟩
    intro pattern hpattern htry hhighest
    have htemplated : ∀ other ∈ namer.patterns.toList, templateFor kind other ≠ none →
        other.index ≤ pattern.index := by
      intro other hmem hsome
      by_contra hless
      exact hsome (hskipped other fun hother => hless (hhighest other hmem hother))
    rw [← hall, formatKind_all_eq_index hset hfail hpattern (htried pattern htry) htemplated]
  case index_ok_iff =>
    intro pattern hpattern htry
    rw [formatKind_index_of_template hset hpattern (htried pattern htry), ← fill_ok_iff_fits]
    cases namer.fill record (templateOf pattern) <;> simp [Except.mapError]
  case index_error_iff =>
    intro pattern hpattern htry cause
    rw [formatKind_index_of_template hset hpattern (htried pattern htry), ← fill_eq_error_iff]
    cases namer.fill record (templateOf pattern) <;> simp [Except.mapError]
  case index_skipped =>
    intro pattern hpattern hskip
    rw [formatKind_index hset hpattern, hskipped pattern hskip]
    rfl
  case index_unknown => exact fun index => formatKind_unknown

/-- **Formatting answers with the first pattern that fits.** For the name of a record every pattern
    is tried, with its own template. For the name of the parent only the patterns that are not at
    root level are, with the templates of their parents. -/
theorem format_first_fit [DecidableEq ι] {patterns : List String} {options : Namer.Options}
    (h : compile schema type patterns options = .ok namer) (record : Record ι) :
    namer.FirstFit record .own (fun _ => True) Pattern.template (namer.format record) ∧
    namer.FirstFit record .parent (fun pattern => pattern.isRoot = false) Pattern.parent
      (namer.formatParent record) := by
  have hset := patterns_isValid h
  constructor
  · exact firstFit_formatKind hset (fun pattern _ => rfl) (fun pattern h => absurd trivial h)
  · refine firstFit_formatKind hset ?_ ?_
    · intro pattern hroot
      simp [templateFor, hroot]
    · intro pattern hroot
      simpa [templateFor] using hroot

/-- A book on a shelf is called by its name alone, which the first pattern gives, and its parent is
    the shelf, since the first pattern has none. Without a shelf there is no parent, and the highest
    pattern says why; where all patterns are at root level, none does. -/
theorem format_first_fit_books :
    Library.bookNamer.format (Library.shelved "a" "b") (.ofInt (-1)) = .ok "books/b" ∧
    Library.bookNamer.formatParent (Library.shelved "a" "b") (.ofInt (-1)) = .ok "shelves/a" ∧
    Library.bookNamer.formatParent (Library.shelved "a" "b") (.ofInt 0) =
      .error (.noPatternFound .parent "Book" none) ∧
    Library.bookNamer.formatParent (Library.shelved "a" "b") (.ofInt 3) =
      .error (.invalidIndex 3) ∧
    Library.bookNamer.formatParent (Library.schema.newRecord .book) (.ofInt (-1)) =
      .error (.noPatternFound .parent "Book" (some (.invalidValue "floor" "None" .absent))) ∧
    Library.rootNamer.formatParent (Library.shelved "a" "b") (.ofInt (-1)) =
      .error (.noPatternFound .parent "Book" none) := by
  obtain ⟨hown, hparent⟩ := format_first_fit Library.compile_bookNamer (Library.shelved "a" "b")
  obtain ⟨-, hnew⟩ :=
    format_first_fit Library.compile_bookNamer (Library.schema.newRecord .book)
  obtain ⟨-, hroot⟩ := format_first_fit Library.compile_rootNamer (Library.shelved "a" "b")
  have hskipped := hparent.index_skipped Library.bookPattern (by decide) (by decide)
  refine ⟨?_, ?_, hskipped, hparent.index_unknown 3 (by decide) (by decide), ?_, ?_⟩
  · refine (hown.all_ok_iff "books/b").2 ⟨Library.bookPattern, by decide, by decide +kernel, ?_⟩
    intro other _ _
    exact Nat.zero_le other.index
  · refine (hparent.all_ok_iff "shelves/a").2
      ⟨Library.shelfPattern, by decide, by decide +kernel, ?_⟩
    rintro other hother ⟨text, htext⟩
    refine Nat.one_le_iff_ne_zero.2 fun hzero => ?_
    rw [hzero] at htext
    cases hskipped.symm.trans htext
  · have hfail : ∀ pattern ∈ Library.bookNamer.patterns.toList,
        (Library.bookNamer.formatParent (Library.schema.newRecord .book)
          (.ofInt pattern.index)).toOption = none := by
      decide +kernel
    obtain ⟨last, hall, -, hlast⟩ := hnew.all_error fun pattern hpattern name hname => by
      simpa [hname, Except.toOption] using hfail pattern hpattern
    rw [hall, ← hlast Library.floorPattern (by decide) (by decide) (by decide)]
    decide +kernel
  · have hnone : ∀ pattern ∈ Library.rootNamer.patterns.toList, ¬ pattern.isRoot = false := by
      decide
    obtain ⟨last, hall, hlast, -⟩ := hroot.all_error fun pattern hpattern name hname => by
      cases (hroot.index_skipped pattern hpattern (hnone pattern hpattern)).symm.trans hname
    rw [hall, hlast.2 hnone]
    rfl

end Namer

end ResourceNames
