import ResourceNames.Proofs.ValueNamer.Basic

set_option autoImplicit false

/-! # Three ways to render

A name is rendered from a list of values, from the first ones of a list that may be longer, or from
a lookup that is asked for each key and may change a state whenever it is. The last two render the
values that they come by. Where they do not come by all of them, they stop at the first key that is
to blame, and nothing is asked for any key behind it. -/

namespace ResourceNames

variable {ε σ α : Type}

/-! ## Asking for keys -/

section Asking

variable {lookup : String → StateT σ (Except ε) α} {key : String} {keys : List String}
  {state next last : σ} {value : α} {values : List α} {error : ε}

/-- Asked for the keys, one after the other, the lookup answers with the values and takes the state
from the first to the last. -/
inductive Answers (lookup : String → StateT σ (Except ε) α) :
    List String → σ → List α → σ → Prop
  | nil {state : σ} : Answers lookup [] state [] state
  | cons {key : String} {keys : List String} {state next last : σ} {value : α} {values : List α}
      (hfirst : (lookup key).run state = .ok (value, next))
      (hrest : Answers lookup keys next values last) :
      Answers lookup (key :: keys) state (value :: values) last

theorem run_mapM_cons (lookup : String → StateT σ (Except ε) α) (key : String)
    (keys : List String) (state : σ) :
    ((key :: keys).mapM lookup).run state =
      (lookup key).run state >>= fun (value, next) =>
        (keys.mapM lookup).run next >>= fun (values, last) => .ok (value :: values, last) := by
  simp only [List.mapM_cons, StateT.run_bind]
  rfl

theorem run_mapM_eq_ok_iff :
    (keys.mapM lookup).run state = .ok (values, last) ↔ Answers lookup keys state values last := by
  induction keys generalizing state values with
  | nil =>
      have hrun : (([] : List String).mapM lookup).run state = .ok ([], state) := rfl
      rw [hrun]
      constructor
      · intro h
        obtain ⟨rfl, rfl⟩ := Prod.mk.inj (Except.ok.inj h)
        exact .nil
      · rintro ⟨⟩
        rfl
  | cons key keys ih =>
      simp only [run_mapM_cons, bind_eq_ok_iff]
      constructor
      · rintro ⟨⟨value, next⟩, hfirst, ⟨others, state⟩, hrest, h⟩
        obtain ⟨rfl, rfl⟩ := Prod.mk.inj (Except.ok.inj h)
        exact .cons hfirst (ih.1 hrest)
      · rintro (_ | ⟨hfirst, hrest⟩)
        exact ⟨_, hfirst, _, ih.2 hrest, rfl⟩

/-- Asking fails at a key if the lookup does, in the state that the answers for all earlier keys have
left. -/
theorem run_mapM_eq_error_iff :
    (keys.mapM lookup).run state = .error error ↔
      ∃ before key after values next, keys = before ++ key :: after ∧
        Answers lookup before state values next ∧ (lookup key).run next = .error error := by
  induction keys generalizing state with
  | nil =>
      have hrun : (([] : List String).mapM lookup).run state = .ok ([], state) := rfl
      simp [hrun, -List.mapM_nil]
  | cons first keys ih =>
      rw [run_mapM_cons]
      cases hfirst : (lookup first).run state with
      | error cause =>
          constructor
          · intro h
            obtain rfl : cause = error := by simpa [bind, Except.bind] using h
            exact ⟨[], first, keys, [], state, rfl, .nil, hfirst⟩
          · rintro ⟨before, key, after, values, next, hkeys, hbefore, hkey⟩
            -- No answer comes before the failure of the first key.
            cases hbefore with
            | nil =>
                obtain ⟨rfl, rfl⟩ := List.cons.inj hkeys
                rw [← hfirst, hkey]
                rfl
            | cons hearlier _ =>
                obtain ⟨rfl, -⟩ := List.cons.inj hkeys
                rw [hfirst] at hearlier
                cases hearlier
      | ok result =>
          obtain ⟨value, next⟩ := result
          have hrest : (keys.mapM lookup).run next >>= (fun (values, last) =>
              (.ok (value :: values, last) : Except ε (List α × σ))) = .error error ↔
                (keys.mapM lookup).run next = .error error := by
            cases (keys.mapM lookup).run next <;> simp [bind, Except.bind]
          refine hrest.trans (ih.trans ⟨?_, ?_⟩)
          · rintro ⟨before, key, after, values, last, rfl, hbefore, hkey⟩
            exact ⟨first :: before, key, after, value :: values, last, rfl, .cons hfirst hbefore,
              hkey⟩
          · rintro ⟨before, key, after, values, last, hkeys, hbefore, hkey⟩
            cases hbefore with
            | nil =>
                obtain ⟨rfl, -⟩ := List.cons.inj hkeys
                rw [hfirst] at hkey
                cases hkey
            | cons hearlier hbefore =>
                obtain ⟨rfl, hrest⟩ := List.cons.inj hkeys
                rw [hfirst] at hearlier
                obtain ⟨rfl, rfl⟩ := Prod.mk.inj (Except.ok.inj hearlier)
                exact ⟨_, key, after, _, last, hrest, hbefore, hkey⟩

/-! ## Calls that are noted -/

/-- The lookup, with a note of every key it is asked for, which a failure tells too. -/
def noted (lookup : String → StateT σ (Except ε) α) (key : String) :
    StateT (List String × σ) (Except (List String × ε)) α := fun (asked, state) =>
  match (lookup key).run state with
  | .ok (value, next) => .ok (value, (asked ++ [key], next))
  | .error error => .error (asked ++ [key], error)

variable {asked asked' : List String}

theorem run_noted_eq_ok_iff :
    (noted lookup key).run (asked, state) = .ok (value, (asked', next)) ↔
      asked' = asked ++ [key] ∧ (lookup key).run state = .ok (value, next) := by
  change noted lookup key (asked, state) = _ ↔ _
  rw [noted]
  cases (lookup key).run state with
  | error cause => simp
  | ok result => grind

theorem run_noted_eq_error_iff :
    (noted lookup key).run (asked, state) = .error (asked', error) ↔
      asked' = asked ++ [key] ∧ (lookup key).run state = .error error := by
  change noted lookup key (asked, state) = _ ↔ _
  rw [noted]
  cases (lookup key).run state with
  | error cause => simp [eq_comm]
  | ok result => simp

/-- Each key is asked for once, in order. -/
theorem answers_noted_iff :
    Answers (noted lookup) keys (asked, state) values (asked', last) ↔
      asked' = asked ++ keys ∧ Answers lookup keys state values last := by
  induction keys generalizing asked state values with
  | nil =>
      constructor
      · rintro ⟨⟩
        exact ⟨(List.append_nil _).symm, .nil⟩
      · rintro ⟨rfl, ⟨⟩⟩
        rw [List.append_nil]
        exact .nil
  | cons key keys ih =>
      constructor
      · intro h
        cases h with
        | @cons _ _ _ next _ value others hfirst hrest =>
            obtain ⟨now, next⟩ := next
            obtain ⟨rfl, hcall⟩ := run_noted_eq_ok_iff.1 hfirst
            obtain ⟨rfl, hcalls⟩ := ih.1 hrest
            refine ⟨?_, .cons hcall hcalls⟩
            rw [List.append_assoc, List.singleton_append]
      · rintro ⟨rfl, _ | ⟨hfirst, hrest⟩⟩
        refine .cons (run_noted_eq_ok_iff.2 ⟨rfl, hfirst⟩) (ih.2 ⟨?_, hrest⟩)
        rw [List.append_assoc, List.singleton_append]

/-! ## Texts of the answers -/

variable {text : α → String}

theorem Answers.length_eq (h : Answers lookup keys state values last) :
    values.length = keys.length := by
  induction h with
  | nil => rfl
  | cons hfirst hrest ih => rw [List.length_cons, List.length_cons, ih]

theorem run_text_eq_ok_iff {part : String} :
    (text <$> lookup key).run state = .ok (part, next) ↔
      ∃ value, (lookup key).run state = .ok (value, next) ∧ text value = part := by
  rw [StateT.run_map]
  cases (lookup key).run state with
  | error cause => simp [Functor.map, Except.map]
  | ok result =>
      obtain ⟨value, after⟩ := result
      simp [Functor.map, Except.map, and_comm]

theorem run_text_eq_error_iff :
    (text <$> lookup key).run state = .error error ↔ (lookup key).run state = .error error := by
  rw [StateT.run_map]
  cases (lookup key).run state <;> simp [Functor.map, Except.map]

theorem answers_text_iff {parts : List String} :
    Answers (fun key => text <$> lookup key) keys state parts last ↔
      ∃ values, Answers lookup keys state values last ∧ values.map text = parts := by
  constructor
  · intro h
    induction h with
    | nil => exact ⟨[], .nil, rfl⟩
    | cons hfirst hrest ih =>
        obtain ⟨value, hcall, rfl⟩ := run_text_eq_ok_iff.1 hfirst
        obtain ⟨values, hcalls, rfl⟩ := ih
        exact ⟨value :: values, .cons hcall hcalls, rfl⟩
  · rintro ⟨values, h, rfl⟩
    induction h with
    | nil => exact .nil
    | cons hfirst hrest ih => exact .cons (run_text_eq_ok_iff.2 ⟨_, hfirst, rfl⟩) ih

end Asking

/-! ## Rendering -/

namespace Template

variable {template : Template} {lookup : String → StateT σ (Except ε) α} {text : α → String}
  {state last : σ} {name : String} {error : ε}

theorem run_renderBy (template : Template) (lookup : String → StateT σ (Except ε) String)
    (state : σ) :
    (template.renderBy lookup).run state = ((template.keys.mapM lookup).run state).map
      fun (parts, last) => (Text.ofSegments (fill template.segments parts), last) := by
  rw [renderBy_eq, StateT.run_map]
  rfl

/-- A name that is rendered by asking is rendered from the answers. -/
theorem run_renderBy_eq_ok_iff :
    (template.renderBy fun key => text <$> lookup key).run state = .ok (name, last) ↔
      ∃ values, Answers lookup template.keys state values last ∧
        template.render (values.map text) = .ok name := by
  have hmap : ∀ result : Except ε (List String × σ), (result.map fun (parts, last) =>
      (Text.ofSegments (fill template.segments parts), last)) = .ok (name, last) ↔
        ∃ parts, result = .ok (parts, last) ∧
          Text.ofSegments (fill template.segments parts) = name := by
    intro result
    cases result with
    | error cause => simp [Except.map]
    | ok found => grind [Except.map]
  simp only [run_renderBy, hmap, run_mapM_eq_ok_iff, answers_text_iff, render_eq_ok_iff]
  constructor
  · rintro ⟨_, ⟨values, hvalues, rfl⟩, hname⟩
    exact ⟨values, hvalues, (List.length_map text).trans hvalues.length_eq, hname⟩
  · rintro ⟨values, hvalues, -, hname⟩
    exact ⟨_, ⟨values, hvalues, rfl⟩, hname⟩

theorem run_renderBy_eq_error_iff :
    (template.renderBy fun key => text <$> lookup key).run state = .error error ↔
      ∃ before key after values next, template.keys = before ++ key :: after ∧
        Answers lookup before state values next ∧ (lookup key).run next = .error error := by
  have hmap : ∀ result : Except ε (List String × σ), (result.map fun (parts, last) =>
      (Text.ofSegments (fill template.segments parts), last)) = .error error ↔
        result = .error error := by
    intro result
    cases result <;> simp [Except.map]
  simp only [run_renderBy, hmap, run_mapM_eq_error_iff, answers_text_iff, run_text_eq_error_iff]
  grind

end Template

/-! ## Values from a list -/

/-- No value is left at some key, or an empty one, and every earlier key has taken one that is not
empty. -/
def FirstFault (keys values : List String) (error : KeyError) : Prop :=
  ∃ before key after texts rest, keys = before ++ key :: after ∧ values = texts ++ rest ∧
    texts.length = before.length ∧ (∀ text ∈ texts, text ≠ "") ∧
    (rest.head? = none ∧ error = .unbound key getterValues ∨
      rest.head? = some "" ∧ error = .invalidValue key "" .absent)

theorem run_nextValue_eq_error_iff {key : String} {values : List String} {error : KeyError} :
    (nextValue key).run values = .error error ↔
      values.head? = none ∧ error = .unbound key getterValues ∨
        values.head? = some "" ∧ error = .invalidValue key "" .absent := by
  cases values with
  | nil =>
      have hrun : (nextValue key).run [] = .error (.unbound key getterValues) := rfl
      simp [hrun, eq_comm]
  | cons value values =>
      rw [run_nextValue_cons]
      by_cases h : value = "" <;> simp [h, eq_comm]

namespace Template

variable {template : Template} {values : List String}

theorem renderValues_eq_error_iff {error : KeyError} :
    template.renderValues values = .error error ↔ FirstFault template.keys values error := by
  have hrun : template.renderValues values = .error error ↔
      (template.keys.mapM nextValue).run values = .error error := by
    rw [renderValues, StateT.run'_eq, run_renderBy]
    cases (template.keys.mapM nextValue).run values <;> simp [Except.map, Functor.map]
  simp only [hrun, run_mapM_eq_error_iff, ← run_mapM_eq_ok_iff, run_mapM_nextValue_eq_ok_iff,
    run_nextValue_eq_error_iff, FirstFault, and_assoc]

theorem exists_render_iff :
    (∃ name, template.render values = .ok name) ↔ values.length = template.variableCount := by
  simp only [render_eq_ok_iff]
  exact ⟨fun ⟨_, hcount, _⟩ => hcount, fun hcount => ⟨_, hcount, rfl⟩⟩

theorem exists_renderValues_iff :
    (∃ name, template.renderValues values = .ok name) ↔
      template.variableCount ≤ values.length ∧
        ∀ value ∈ values.take template.variableCount, value ≠ "" := by
  have hcount : (values.take template.variableCount).length = template.variableCount ↔
      template.variableCount ≤ values.length := by
    rw [List.length_take]
    omega
  simp only [renderValues_eq_ok_iff, exists_and_left, exists_render_iff, hcount]
  exact and_comm

/-- **All ways to render agree.** A list of values makes a name if there is one for each key. From
the first values of a list the same name is made if there are enough and none of them is empty, or
else the leftmost key is blamed that finds none or an empty one. A lookup is asked for the keys from
left to right, for each once, in the state that the key before has left; the name is that of the
texts of its answers, or else its first failure ends the asking. -/
theorem renderings_agree (template : Template) :
    (∀ values, (∃ name, template.render values = .ok name) ↔
      values.length = template.variableCount) ∧
    (∀ values,
      ((∃ name, template.renderValues values = .ok name) ↔
        template.variableCount ≤ values.length ∧
          ∀ value ∈ values.take template.variableCount, value ≠ "") ∧
      (∀ name, template.renderValues values = .ok name ↔
        (∀ value ∈ values.take template.variableCount, value ≠ "") ∧
          template.render (values.take template.variableCount) = .ok name) ∧
      ∀ error, template.renderValues values = .error error ↔
        FirstFault template.keys values error) ∧
    ∀ (ε σ α : Type) (lookup : String → StateT σ (Except ε) α) (text : α → String) (state : σ),
      (∀ name last,
        (template.renderBy fun key => text <$> lookup key).run state = .ok (name, last) ↔
          ∃ values, Answers lookup template.keys state values last ∧
            template.render (values.map text) = .ok name) ∧
      (∀ error,
        (template.renderBy fun key => text <$> lookup key).run state = .error error ↔
          ∃ before key after values next, template.keys = before ++ key :: after ∧
            Answers lookup before state values next ∧ (lookup key).run next = .error error) ∧
      ∀ asked,
        (∀ name asked' last,
          (template.renderBy fun key => text <$> noted lookup key).run (asked, state) =
              .ok (name, (asked', last)) ↔
            asked' = asked ++ template.keys ∧
              (template.renderBy fun key => text <$> lookup key).run state = .ok (name, last)) ∧
        ∀ asked' error,
          (template.renderBy fun key => text <$> noted lookup key).run (asked, state) =
              .error (asked', error) ↔
            ∃ before key after values next, template.keys = before ++ key :: after ∧
              asked' = asked ++ before ++ [key] ∧
              Answers lookup before state values next ∧ (lookup key).run next = .error error := by
  refine ⟨fun values => exists_render_iff, fun values => ⟨exists_renderValues_iff,
    fun name => renderValues_eq_ok_iff, fun error => renderValues_eq_error_iff⟩, ?_⟩
  intro ε σ α lookup text state
  refine ⟨fun name last => run_renderBy_eq_ok_iff, fun error => run_renderBy_eq_error_iff,
    fun asked => ⟨?_, ?_⟩⟩
  · intro name asked' last
    simp only [run_renderBy_eq_ok_iff, answers_noted_iff, and_assoc, exists_and_left]
  · intro asked' error
    rw [run_renderBy_eq_error_iff]
    constructor
    · rintro ⟨before, key, after, values, ⟨now, next⟩, hkeys, hbefore, hkey⟩
      obtain ⟨rfl, hanswers⟩ := answers_noted_iff.1 hbefore
      obtain ⟨rfl, hfailure⟩ := run_noted_eq_error_iff.1 hkey
      exact ⟨before, key, after, values, next, hkeys, rfl, hanswers, hfailure⟩
    · rintro ⟨before, key, after, values, next, hkeys, rfl, hbefore, hkey⟩
      exact ⟨before, key, after, values, (asked ++ before, next), hkeys,
        answers_noted_iff.2 ⟨rfl, hbefore⟩, run_noted_eq_error_iff.2 ⟨rfl, hkey⟩⟩

end Template

end ResourceNames
