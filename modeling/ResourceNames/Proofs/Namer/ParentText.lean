import ResourceNames.Proofs.Namer.ParentRoundTrip
import ResourceNames.Proofs.Template.Ancestry

set_option autoImplicit false

/-! # The name of a parent, and what follows it

The template of a parent is the first part of the template, so that the names that they give begin
alike: the name of a record is that of its parent, followed by the rest of the template. No value
makes a difference to that, for the parent is not cut out of the name but formatted by itself. A
name that is matched is cut by its segments, and what is cut off before the resource is the name of
a parent. -/

namespace ResourceNames

theorem Pattern.parent_segments_ne_nil {pattern : Pattern} (h : 4 ≤ pattern.template.length) :
    pattern.parent.segments ≠ [] := by
  rw [parent, Template.parent_eq_dropResource h]
  exact Template.dropResource_segments_ne_nil (by omega)

namespace Namer

variable {ι : Type} {schema : Schema ι} {type : ι} {namer : Namer schema type}
  {record : Record ι} {template first : Template} {name : String}

/-- A template that is another one with more segments behind it is filled in two parts. -/
theorem fill_of_append {rest : List Segment}
    (hsegments : template.segments = first.segments ++ rest)
    (hfirst : first.segments ≠ []) (hrest : rest ≠ [])
    (hfill : namer.fill record template = .ok name) :
    ∃ text, ∃ values : List Scalar, namer.fill record first = .ok text ∧
      (rest.filterMap Segment.key?).map (namer.value record) = values.map .ok ∧
      name = text ++ "/" ++ Text.ofSegments (Template.fill rest (values.map Scalar.text)) := by
  obtain ⟨values, hvalues, rfl⟩ := fill_eq_ok_iff.1 hfill
  have hkeys : template.keys = first.keys ++ rest.filterMap Segment.key? := by
    rw [Template.keys, Template.keys, hsegments, List.filterMap_append]
  rw [hkeys, List.map_append] at hvalues
  obtain ⟨before, after, rfl, hbefore, hafter⟩ := List.map_eq_append_iff.1 hvalues.symm
  have hcount : (before.map Scalar.text).length =
      (first.segments.filterMap Segment.key?).length := by
    rw [List.length_map]
    exact length_values hbefore.symm
  refine ⟨_, after, fill_eq_ok_iff.2 ⟨before, hbefore.symm, rfl⟩, hafter.symm, ?_⟩
  rw [hsegments, Template.fill_append, List.map_append, List.take_left' hcount,
    List.drop_left' hcount, Text.ofSegments_append (Template.fill_ne_nil hfirst _)
      (Template.fill_ne_nil hrest _)]

/-- A record has a value for the key: it is bound to a field, and what that holds is written so. -/
def HasText (namer : Namer schema type) (record : Record ι) (key text : String) : Prop :=
  ∃ binding scalar, namer.bindings.get? key = some binding ∧
    schema.read binding.path record = .scalar scalar ∧ scalar.text = text

theorem hasText_of_value {key : String} {scalar : Scalar}
    (h : namer.value record key = .ok scalar) : namer.HasText record key scalar.text := by
  obtain ⟨binding, hbinding, hread, -⟩ := value_eq_ok_iff.1 h
  exact ⟨binding, scalar, hbinding, hread, rfl⟩

/-- The name that a template gives is that of the template without its resource, followed by the
resource: the last literal, and the value of the last key if a variable follows that. -/
theorem fill_dropResource (hvalid : ValidSegments template.segments) (hlength : 3 ≤ template.length)
    (hfill : namer.fill record template = .ok name) :
    ∃ parent word, namer.fill record template.dropResource = .ok parent ∧
      (template.segments.filterMap Segment.literal?).getLast? = some word ∧
      (template.length % 2 = 1 → name = parent ++ "/" ++ word) ∧
      (template.length % 2 = 0 → ∃ key text, template.keys.getLast? = some key ∧
        namer.HasText record key text ∧ name = parent ++ "/" ++ word ++ "/" ++ text) := by
  have hne := Template.segments_ne_nil_of_length hlength (by decide)
  have hparentNe := Template.dropResource_segments_ne_nil hlength
  obtain ⟨word, ⟨hodd, hsegments⟩ | ⟨heven, key, hsegments⟩⟩ := Template.exists_resource hvalid hne
  · obtain ⟨parent, values, hparent, -, hname⟩ :=
      fill_of_append hsegments hparentNe (List.cons_ne_nil _ _) hfill
    refine ⟨parent, word, hparent, ?_, fun _ => hname, fun heven => absurd heven (by omega)⟩
    rw [hsegments, List.filterMap_append]
    exact List.getLast?_concat
  · obtain ⟨parent, values, hparent, hvalues, hname⟩ :=
      fill_of_append hsegments hparentNe (List.cons_ne_nil _ _) hfill
    obtain ⟨scalar, rfl, hvalue⟩ : ∃ scalar, values = [scalar] ∧
        namer.value record key = .ok scalar := by
      obtain ⟨scalar, hscalar⟩ := List.length_eq_one_iff.1 (length_values hvalues)
      rw [hscalar] at hvalues
      exact ⟨scalar, hscalar, (List.cons.inj hvalues).1⟩
    refine ⟨parent, word, hparent, ?_, fun hodd => absurd hodd (by omega), fun _ =>
      ⟨key, scalar.text, ?_, hasText_of_value hvalue, ?_⟩⟩
    · rw [hsegments, List.filterMap_append]
      exact List.getLast?_concat
    · rw [Template.keys, hsegments, List.filterMap_append]
      exact List.getLast?_concat
    · have hend : Text.ofSegments (Template.fill [.literal word, .variable key] [scalar.text]) =
          word ++ "/" ++ scalar.text :=
        Text.ofSegments_append (List.cons_ne_nil word []) (List.cons_ne_nil scalar.text [])
      rw [hname, List.map_singleton, hend]
      simp only [String.append_assoc]

/-- **A name begins with that of the parent.** A record whose name has a parent can also name that,
and its name is the name of the parent, followed by the last literal of the pattern and by the value
of the last key if the pattern ends with a variable. The other way round, what comes before these in
a name that matches a template matches the parent, with the first tokens of the name; so a set with
a pattern that a name matches finds a parent for it. -/
theorem parent_leads_name [DecidableEq ι] {patterns : List String} {options : Namer.Options}
    (h : compile schema type patterns options = .ok namer) :
    (∀ record, ∀ pattern ∈ namer.patterns.toList, 4 ≤ pattern.template.length → ∀ name,
      namer.format record (.ofInt pattern.index) = .ok name →
      ∃ parent word, namer.formatParent record (.ofInt pattern.index) = .ok parent ∧
        (pattern.template.segments.filterMap Segment.literal?).getLast? = some word ∧
        (pattern.template.length % 2 = 1 → name = parent ++ "/" ++ word) ∧
        (pattern.template.length % 2 = 0 → ∃ key text, pattern.template.keys.getLast? = some key ∧
          namer.HasText record key text ∧ name = parent ++ "/" ++ word ++ "/" ++ text)) ∧
    (∀ template : Template, template.Arises → 4 ≤ template.length → ∀ name tokens,
      template.tokens? name = some tokens →
      template.parent.tokens? (Text.firstSegments (2 * ((template.length - 1) / 2)) name) =
        some (tokens.take template.parent.variableCount)) ∧
    ∀ declared extra set, PatternSet.compile declared extra = .ok set →
      ∀ pattern ∈ set.toList, 4 ≤ pattern.template.length → ∀ name tokens,
        pattern.template.tokens? name = some tokens →
        ∃ found, set.matchParent?
            (Text.firstSegments (2 * ((pattern.template.length - 1) / 2)) name) =
          some (found, tokens.take pattern.parent.variableCount) := by
  have hparent : ∀ template : Template, 4 ≤ template.length → ∀ name tokens,
      template.tokens? name = some tokens →
      template.parent.tokens? (Text.firstSegments (2 * ((template.length - 1) / 2)) name) =
        some (tokens.take template.parent.variableCount) := by
    intro template hlength name tokens htokens
    rw [Template.parent_eq_dropResource hlength]
    exact Template.tokens?_parentText (by omega) htokens
  refine ⟨?_, fun template _ => hparent template, ?_⟩
  · intro record pattern hpattern hlength name hname
    have hset := patterns_isValid h
    rw [format_index_eq_ok_iff hset hpattern] at hname
    obtain ⟨parent, word, hfill, hrest⟩ :=
      fill_dropResource (hset.validSegments hpattern) (by omega) hname
    rw [← Template.parent_eq_dropResource hlength] at hfill
    refine ⟨parent, word, ?_, hrest⟩
    rw [formatParent_index_eq_ok_iff hset hpattern, Pattern.isRoot_eq_false_iff]
    exact ⟨Pattern.parent_segments_ne_nil hlength, hfill⟩
  · intro declared extra set hset pattern hpattern hlength name tokens htokens
    have hvalid := PatternSet.isValid_of_compile hset
    obtain ⟨found, -, hmatch, -⟩ := hvalid.exists_first_of_shape
      (fun _ hmem => Template.validSegments_parent (hvalid.validSegments hmem)) hpattern
      (Pattern.parent_segments_ne_nil hlength)
      (hparent pattern.template hlength name tokens htokens)
    exact ⟨found, hmatch⟩

/-- A book on a shelf below ground, with a separator in its name and in that of the shelf. -/
theorem parent_leads_name_shelved :
    (∃ parent text,
      Library.bookNamer.formatParent (Library.shelved "a/b" "c/d") (.ofInt 2) = .ok parent ∧
      Library.bookNamer.HasText (Library.shelved "a/b" "c/d") "book" text ∧
      "floors/-1/shelves/a/b/books/c/d" = parent ++ "/" ++ "books" ++ "/" ++ text) ∧
    ∃ found, Library.bookNamer.patterns.matchParent? "floors/-1/shelves/-" =
      some (found, ["-1", "-"]) := by
  obtain ⟨hformat, -, hmatch⟩ := parent_leads_name Library.compile_bookNamer
  have hpattern : Library.floorPattern ∈ Library.bookNamer.patterns.toList := by decide
  have hlength : 4 ≤ Library.floorPattern.template.length := by decide
  constructor
  · obtain ⟨parent, word, hparent, hword, -, hrest⟩ :=
      hformat (Library.shelved "a/b" "c/d") _ hpattern hlength "floors/-1/shelves/a/b/books/c/d"
        (by decide +kernel)
    obtain ⟨key, text, hkey, htext, hname⟩ := hrest rfl
    obtain rfl : "books" = word := Option.some.inj hword
    obtain rfl : "book" = key := Option.some.inj hkey
    exact ⟨parent, text, hparent, htext, hname⟩
  · exact hmatch Library.patterns [] Library.bookNamer.patterns (by decide +kernel) _ hpattern
      hlength "floors/-1/shelves/-/books/b" ["-1", "-", "b"] (by decide +kernel)

end Namer

end ResourceNames
