import ResourceNames.Proofs.PatternSet.Lookup
import ResourceNames.Proofs.Template.Inverse
import ResourceNames.ValueNamer.Basic

set_option autoImplicit false

/-! # Namers without records that are made

What is known of the patterns of a namer once it is made, and what a template makes of the values
that a getter gives: it takes the first ones, one for each key, and leaves the rest. -/

namespace ResourceNames

/-! ## Filling a template with values -/

section Values

variable {key value : String} {keys values texts rest : List String}

theorem run_nextValue_cons (key value : String) (values : List String) :
    (nextValue key).run (value :: values) =
      if value = "" then .error (.invalidValue key "" .absent) else .ok (value, values) := by
  by_cases h : value = "" <;> simp [nextValue, h] <;> rfl

theorem run_mapM_nextValue_cons (key : String) (keys values : List String) :
    ((key :: keys).mapM nextValue).run values =
      (nextValue key).run values >>= fun (first, left) =>
        (keys.mapM nextValue).run left >>= fun (others, rest) => .ok (first :: others, rest) := by
  simp only [List.mapM_cons, StateT.run_bind]
  rfl

theorem run_mapM_nextValue_cons_eq_ok_iff :
    ((key :: keys).mapM nextValue).run (value :: values) = .ok (texts, rest) ↔
      value ≠ "" ∧ ∃ others, (keys.mapM nextValue).run values = .ok (others, rest) ∧
        texts = value :: others := by
  simp only [run_mapM_nextValue_cons, bind_eq_ok_iff, run_nextValue_cons]
  by_cases h : value = ""
  · simp [h]
  · simp [h, eq_comm]

/-- The values that are taken are the first ones, one for each key, if none of them is empty. -/
theorem run_mapM_nextValue_eq_ok_iff :
    (keys.mapM nextValue).run values = .ok (texts, rest) ↔
      values = texts ++ rest ∧ texts.length = keys.length ∧ ∀ text ∈ texts, text ≠ "" := by
  induction keys generalizing values texts with
  | nil =>
      have hrun : (([] : List String).mapM nextValue).run values = .ok ([], values) := rfl
      rw [hrun]
      cases texts <;> simp [eq_comm]
  | cons key keys ih =>
      cases values with
      | nil =>
          have hnext : (nextValue key).run [] = .error (.unbound key getterValues) := rfl
          rw [run_mapM_nextValue_cons, hnext]
          cases texts <;> simp [bind, Except.bind]
      | cons value values =>
          rw [run_mapM_nextValue_cons_eq_ok_iff]
          simp only [ih]
          cases texts with
          | nil => simp
          | cons text texts =>
              simp only [List.cons_append, List.cons.injEq, List.length_cons, List.forall_mem_cons]
              grind

end Values

/-- A template is filled with values as if there were no more of them than it has keys; none of
these may be empty. -/
theorem Template.renderValues_eq_ok_iff {template : Template} {values : List String}
    {name : String} :
    template.renderValues values = .ok name ↔
      (∀ text ∈ values.take template.variableCount, text ≠ "") ∧
        template.render (values.take template.variableCount) = .ok name := by
  have hrun : template.renderValues values = ((template.keys.mapM nextValue).run values).map
      fun (texts, _) => Text.ofSegments (fill template.segments texts) := by
    rw [renderValues, renderBy_eq, StateT.run'_eq, StateT.run_map]
    cases (template.keys.mapM nextValue).run values <;> rfl
  have hok : template.renderValues values = .ok name ↔
      ∃ texts rest, (template.keys.mapM nextValue).run values = .ok (texts, rest) ∧
        Text.ofSegments (fill template.segments texts) = name := by
    rw [hrun]
    cases (template.keys.mapM nextValue).run values with
    | error error => simp [Except.map]
    | ok result =>
        obtain ⟨texts, rest⟩ := result
        simp [Except.map]
  rw [hok, render_eq_ok_iff]
  constructor
  · rintro ⟨texts, rest, htexts, hname⟩
    obtain ⟨rfl, hlength, hpresent⟩ := run_mapM_nextValue_eq_ok_iff.1 htexts
    have hcount : texts.length = template.variableCount := hlength
    rw [List.take_left' hcount]
    exact ⟨hpresent, hcount, hname⟩
  · rintro ⟨hpresent, hlength, hname⟩
    refine ⟨_, values.drop template.variableCount, run_mapM_nextValue_eq_ok_iff.2 ⟨?_, hlength,
      hpresent⟩, hname⟩
    rw [List.take_append_drop]

/-! ## Namers that are made -/

namespace ValueNamer

variable {m : Type → Type} {α : Type}

/-- The namers that are made from the texts of patterns, for any of the three uses. -/
inductive IsCompiled : ValueNamer m α → Prop
  | id {patterns : List String} {getter : α → Nat → ExceptT NamerError m (List String)}
      {setter : List String → Nat → ExceptT NamerError m α} {namer : IdNamer m α}
      (h : IdNamer.compile patterns getter setter = .ok namer) : IsCompiled namer
  | parented {Parent : Type} {patterns : List String}
      {getter : α → Nat → ExceptT NamerError m (List String)}
      {setter : List String → Nat → ExceptT NamerError m α}
      {parentSetter : List String → Nat → ExceptT NamerError m Parent}
      {namer : ParentedNamer m Parent α}
      (h : ParentedNamer.compile patterns getter setter parentSetter = .ok namer) :
      IsCompiled namer.toValueNamer

end ValueNamer

section Compile

variable {m : Type → Type} {α Parent : Type} {patterns : List String}
  {getter : α → Nat → ExceptT NamerError m (List String)}
  {setter : List String → Nat → ExceptT NamerError m α}
  {parentSetter : List String → Nat → ExceptT NamerError m Parent}

theorem variableCount_le_of_forM {list : List Pattern} (h : list.forM checkIdPattern = .ok ()) :
    ∀ pattern ∈ list, pattern.template.variableCount ≤ 1 := by
  induction list with
  | nil => simp
  | cons first rest ih =>
      rw [List.forM] at h
      obtain ⟨⟨⟩, hfirst, hrest⟩ := bind_eq_ok_iff.1 h
      rw [checkIdPattern] at hfirst
      split_ifs at hfirst with hmany
      rw [List.forall_mem_cons]
      exact ⟨by omega, ih hrest⟩

theorem IdNamer.compile_eq_ok {namer : IdNamer m α}
    (h : IdNamer.compile patterns getter setter = .ok namer) :
    PatternSet.compile patterns [] = .ok namer.patterns ∧
      ∀ pattern ∈ namer.patterns.toList, pattern.template.variableCount ≤ 1 := by
  rw [IdNamer.compile] at h
  obtain ⟨set, hset, h⟩ := bind_eq_ok_iff.1 h
  obtain ⟨⟨⟩, hcheck, h⟩ := bind_eq_ok_iff.1 h
  obtain rfl := Except.ok.inj h
  exact ⟨hset, variableCount_le_of_forM hcheck⟩

theorem ParentedNamer.compile_eq_ok {namer : ParentedNamer m Parent α}
    (h : ParentedNamer.compile patterns getter setter parentSetter = .ok namer) :
    PatternSet.compile patterns [] = .ok namer.patterns := by
  rw [ParentedNamer.compile] at h
  obtain ⟨set, hset, h⟩ := bind_eq_ok_iff.1 h
  obtain rfl := Except.ok.inj h
  exact hset

theorem ValueNamer.IsCompiled.patterns_isValid {namer : ValueNamer m α} (h : namer.IsCompiled) :
    namer.patterns.IsValid := by
  cases h with
  | id h => exact PatternSet.isValid_of_compile (IdNamer.compile_eq_ok h).1
  | parented h => exact PatternSet.isValid_of_compile (ParentedNamer.compile_eq_ok h)

end Compile

/-! ## Folders in folders -/

namespace Library

/-- Folders at root level, those in other folders and those in drawers. -/
def folderPatterns : List String :=
  ["folders/\x7bfolder\x7d", "folders/\x7bparent\x7d/folders/\x7bfolder\x7d",
    "drawers/\x7bdrawer\x7d/folders/\x7bfolder\x7d"]

def outerPattern : Pattern :=
  ⟨0, "folders/\x7bfolder\x7d", [.literal "folders", .variable "folder"]⟩

def innerPattern : Pattern :=
  ⟨1, "folders/\x7bparent\x7d/folders/\x7bfolder\x7d",
    [.literal "folders", .variable "parent", .literal "folders", .variable "folder"]⟩

def drawerPattern : Pattern :=
  ⟨2, "drawers/\x7bdrawer\x7d/folders/\x7bfolder\x7d",
    [.literal "drawers", .variable "drawer", .literal "folders", .variable "folder"]⟩

/-- A folder is the way to it, and so is its parent. The calls of the getter are counted. -/
def folderNamer : ParentedNamer (StateM Nat) (List String) (List String) where
  patterns := ⟨#[outerPattern, innerPattern, drawerPattern]⟩
  getter way _ := do
    modify (· + 1)
    return way
  setter tokens _ := return tokens
  parentSetter tokens _ := return tokens

theorem compile_folderNamer :
    ParentedNamer.compile folderPatterns folderNamer.getter folderNamer.setter
      folderNamer.parentSetter = .ok folderNamer :=
  rfl

end Library

end ResourceNames
