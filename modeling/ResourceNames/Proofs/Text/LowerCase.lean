import ResourceNames.Text.LowerCase

set_option autoImplicit false

/-! # Lower case once and for all

A character that has come from the table of lower-case forms is in lower case: the table lists none
of the characters that it leads to. This is checked of its runs, and not of each character, by
comparing where one run leads with where another is. -/

namespace ResourceNames.Text

namespace CaseRun

variable {run other : CaseRun} {point : Nat}

/-- The run leads to characters, and none of them is as low as the ASCII capitals or `_`. -/
def leadsToChars (run : CaseRun) : Bool :=
  '_'.toNat < run.image run.first &&
    (run.image run.last < 0xD800 ||
      (0xDFFF < run.image run.first && run.image run.last < 0x110000))

/-- The run leads to no character of the other one. Either the two are apart, or the other one has
every second character and the run leads to those between. -/
def misses (run other : CaseRun) : Bool :=
  (run.image run.last).blt other.first || other.last.blt (run.image run.first) ||
    ((run.stride == 2 || run.first == run.last) && other.stride == 2 &&
      (run.image run.first + other.first) % 2 == 1)

theorem lists_iff :
    run.lists point = true ↔
      run.first ≤ point ∧ point ≤ run.last ∧ (point - run.first) % run.stride = 0 := by
  simp only [lists, Bool.and_eq_true, decide_eq_true_eq, beq_iff_eq, and_assoc]

theorem image_bounds (h : run.lists point = true) :
    run.image run.first ≤ run.image point ∧ run.image point ≤ run.image run.last := by
  obtain ⟨hfirst, hlast, -⟩ := lists_iff.1 h
  unfold image
  omega

theorem lists_image_of_misses (hchars : run.leadsToChars = true) (h : run.lists point = true)
    (hmisses : run.misses other = true) : other.lists (run.image point) = false := by
  obtain ⟨hlow, hhigh⟩ := image_bounds h
  obtain ⟨hfirst, hlast, hstep⟩ := lists_iff.1 h
  rw [Bool.eq_false_iff, ne_eq, lists_iff]
  rintro ⟨hotherFirst, hotherLast, hotherStep⟩
  simp only [misses, Bool.or_eq_true, Bool.and_eq_true, Nat.blt_eq, beq_iff_eq] at hmisses
  rcases hmisses with (hbelow | habove) | ⟨⟨heven, hother⟩, hparity⟩
  · omega
  · omega
  · -- The images are as far apart as the characters, so that all of them are out of step.
    have hpositive : 0 < run.image run.first := by
      simp only [leadsToChars, Bool.and_eq_true, decide_eq_true_eq] at hchars
      omega
    have himage : run.image point = run.image run.first + (point - run.first) := by
      unfold image at hpositive ⊢
      omega
    have heven : (point - run.first) % 2 = 0 := by
      rcases heven with hstride | hsingle
      · rwa [hstride] at hstep
      · omega
    rw [hother] at hotherStep
    omega

end CaseRun

/-! ## The table -/

/-- The run of the one character that becomes two. -/
def dottedRun : CaseRun :=
  ⟨'İ'.toNat, 'İ'.toNat, 1, 0⟩

theorem leadsToChars_of_mem : ∀ run ∈ caseRuns, run.leadsToChars = true := by
  decide +kernel

/-- No run of the table leads to a character of the table. -/
theorem all_misses : (caseRuns.all fun run => (dottedRun :: caseRuns).all run.misses) = true := by
  decide +kernel

theorem misses_of_mem {run other : CaseRun} (hrun : run ∈ caseRuns)
    (hother : other ∈ dottedRun :: caseRuns) : run.misses other = true :=
  List.all_eq_true.1 (List.all_eq_true.1 all_misses run hrun) other hother

theorem lowerCase_of_not_lists {c : Char}
    (h : ∀ run ∈ dottedRun :: caseRuns, run.lists c.toNat = false) : lowerCase c = [c] := by
  have hdotted : c ≠ 'İ' := by
    rintro rfl
    exact absurd (h dottedRun List.mem_cons_self) (by decide)
  have hnone : caseRuns.find? (·.lists c.toNat) = none :=
    List.find?_eq_none.2 fun run hrun => by simp [h run (List.mem_cons_of_mem _ hrun)]
  simp only [lowerCase, if_neg hdotted, hnone]

theorem lowerCase_of_find? {c : Char} {run : CaseRun} (hdotted : c ≠ 'İ')
    (h : caseRuns.find? (·.lists c.toNat) = some run) :
    lowerCase c = [Char.ofNat (run.image c.toNat)] := by
  simp only [lowerCase, if_neg hdotted, h]

/-- The code point of the character that a run leads to is the one it says. -/
theorem toNat_ofNat_image {run : CaseRun} {point : Nat} (hrun : run ∈ caseRuns)
    (h : run.lists point = true) :
    (Char.ofNat (run.image point)).toNat = run.image point ∧ '_'.toNat < run.image point := by
  have hchars := leadsToChars_of_mem run hrun
  obtain ⟨hlow, hhigh⟩ := CaseRun.image_bounds h
  simp only [CaseRun.leadsToChars, Bool.and_eq_true, Bool.or_eq_true, decide_eq_true_eq] at hchars
  have hvalid : (run.image point).isValidChar := by
    unfold Nat.isValidChar
    omega
  exact ⟨by rw [Char.ofNat, dif_pos hvalid]; rfl, by omega⟩

/-- Where a character in lower case comes from: from `İ`, from a run of the table, or from itself,
    when neither has it. -/
theorem mem_lowerCase_cases {c d : Char} (h : d ∈ lowerCase c) :
    (c = 'İ' ∧ (d = 'i' ∨ d = '\u0307')) ∨
      (∃ run ∈ caseRuns, run.lists c.toNat = true ∧ d = Char.ofNat (run.image c.toNat)) ∨
      (d = c ∧ lowerCase c = [c]) := by
  by_cases hdotted : c = 'İ'
  · subst hdotted
    exact .inl ⟨rfl, by simpa [lowerCase] using h⟩
  · cases hfind : caseRuns.find? (·.lists c.toNat) with
    | some run =>
        rw [lowerCase_of_find? hdotted hfind, List.mem_singleton] at h
        have hlists : run.lists c.toNat = true := by simpa using List.find?_some hfind
        exact .inr (.inl ⟨run, List.mem_of_find?_eq_some hfind, hlists, h⟩)
    | none =>
        have hself : lowerCase c = [c] := by simp only [lowerCase, if_neg hdotted, hfind]
        rw [hself, List.mem_singleton] at h
        exact .inr (.inr ⟨h, hself⟩)

/-- **Lower case is lower case.** A character that some character has in its lower-case form has
    itself for its lower-case form. -/
theorem lowerCase_of_mem_lowerCase {c d : Char} (h : d ∈ lowerCase c) : lowerCase d = [d] := by
  rcases mem_lowerCase_cases h with ⟨-, rfl | rfl⟩ | ⟨run, hrun, hlists, rfl⟩ | ⟨rfl, hself⟩
  · decide
  · decide
  · refine lowerCase_of_not_lists fun other hother => ?_
    rw [(toNat_ofNat_image hrun hlists).1]
    exact CaseRun.lists_image_of_misses (leadsToChars_of_mem run hrun) hlists
      (misses_of_mem hrun hother)
  · exact hself

/-- Whatever a character becomes, it is no character up to `_`: neither a blank nor a hyphen, an
    ASCII capital or `_` itself. -/
theorem eq_of_mem_lowerCase_of_le {c d : Char} (h : d ∈ lowerCase c)
    (hlow : d.toNat ≤ '_'.toNat) : d = c := by
  rcases mem_lowerCase_cases h with ⟨-, rfl | rfl⟩ | ⟨run, hrun, hlists, rfl⟩ | ⟨rfl, -⟩
  · exact absurd hlow (by decide)
  · exact absurd hlow (by decide)
  · obtain ⟨himage, habove⟩ := toNat_ofNat_image hrun hlists
    omega
  · rfl

/-! ## ASCII -/

/-- The ASCII capitals are one run, and the others are beyond ASCII. -/
theorem capitals_or_beyond : ∀ run ∈ dottedRun :: caseRuns,
    (run.first = 'A'.toNat ∧ run.last = 'Z'.toNat) ∨ 127 < run.first := by
  decide +kernel

theorem lowerCase_capital : ∀ place < 26,
    lowerCase (Char.ofNat ('A'.toNat + place)) = [Char.ofNat ('a'.toNat + place)] ∧
      (Char.ofNat ('a'.toNat + place)).isLower = true := by
  decide +kernel

/-- An ASCII character other than a capital is in lower case. -/
theorem lowerCase_of_ascii {c : Char} (hascii : c.toNat < 128) (h : c.isUpper = false) :
    lowerCase c = [c] := by
  refine lowerCase_of_not_lists fun run hrun => Bool.eq_false_iff.2 fun hlists => ?_
  obtain ⟨hfirst, hlast, -⟩ := CaseRun.lists_iff.1 hlists
  rcases capitals_or_beyond run hrun with ⟨hA, hZ⟩ | hbeyond
  · rw [hA] at hfirst
    rw [hZ] at hlast
    exact absurd ⟨hfirst, hlast⟩ (of_decide_eq_false h)
  · omega

/-- An ASCII capital becomes a small letter. -/
theorem exists_lowerCase_of_isUpper {c : Char} (h : c.isUpper = true) :
    ∃ d, lowerCase c = [d] ∧ d.isLower = true := by
  obtain ⟨hlow, hhigh⟩ : 'A'.toNat ≤ c.toNat ∧ c.toNat ≤ 'Z'.toNat := of_decide_eq_true h
  have hplace : c.toNat - 'A'.toNat < 26 := by
    have hlength : 'Z'.toNat - 'A'.toNat < 26 := by decide
    omega
  have hcapital := lowerCase_capital _ hplace
  rw [Nat.add_sub_cancel' hlow, Char.ofNat_toNat] at hcapital
  exact ⟨_, hcapital⟩

end ResourceNames.Text
