import Mathlib.Data.List.Dedup
import ResourceNames.Binding.Cache
import ResourceNames.Proofs.Binding.Traversal

set_option autoImplicit false

/-! # Runs of a cache

Whatever was requested of a cache before, a request is answered as if the bindings were made anew.
The entry of a type is made by the first request for the type, and is never replaced or given up, so
that the entries of a cache are one for each type that could be bound so far. -/

namespace ResourceNames.BindingCache

variable {ι : Type} {schema : Schema ι}

/-- The types in the cache, the latest first. -/
def types (cache : BindingCache ι) : List ι :=
  cache.entries.map CacheEntry.type

variable [DecidableEq ι]

/-- Makes requests, one after the other: the answers, in order, and the cache that is left. -/
def run (schema : Schema ι) :
    List ι → BindingCache ι → List (Except BindingError (CacheEntry ι)) × BindingCache ι
  | [], cache => ([], cache)
  | type :: rest, cache =>
    let (answer, next) := cache.request schema type
    let (answers, last) := run schema rest next
    (answer :: answers, last)

/-- The answers to requests that are made of a new cache. -/
def answers (schema : Schema ι) (requests : List ι) : List (Except BindingError (CacheEntry ι)) :=
  (run schema requests empty).1

/-- The cache that is left after requests were made of a new one. -/
def after (schema : Schema ι) (requests : List ι) : BindingCache ι :=
  (run schema requests empty).2

/-- Those among some types that can be bound, each once. -/
def boundTypes (schema : Schema ι) (requests : List ι) : List ι :=
  (requests.filter fun type => (schema.bindings type).isOk).dedup

/-! ## One request -/

/-- What holds of every cache that requests leave. -/
structure IsValid (schema : Schema ι) (cache : BindingCache ι) : Prop where
  bindings_eq : ∀ entry ∈ cache.entries, schema.bindings entry.type = .ok entry.bindings
  types_nodup : cache.types.Nodup
  serials_nodup : (cache.entries.map CacheEntry.serial).Nodup
  /-- The next serial number is new. -/
  serial_lt : ∀ entry ∈ cache.entries, entry.serial < cache.size

theorem isValid_empty (schema : Schema ι) : (empty : BindingCache ι).IsValid schema where
  bindings_eq := by simp [empty]
  types_nodup := .nil
  serials_nodup := .nil
  serial_lt := by simp [empty]

/-- A request finds an entry of the type, or makes one, or fails. -/
theorem request_cases (cache : BindingCache ι) (schema : Schema ι) (type : ι) :
    (∃ entry ∈ cache.entries, entry.type = type ∧
        cache.request schema type = (.ok entry, cache)) ∨
      (type ∉ cache.types ∧ ∃ bindings, schema.bindings type = .ok bindings ∧
        cache.request schema type =
          (.ok ⟨cache.size, type, bindings⟩, ⟨⟨cache.size, type, bindings⟩ :: cache.entries⟩)) ∨
      (type ∉ cache.types ∧ ∃ error, schema.bindings type = .error error ∧
        cache.request schema type = (.error error, cache)) := by
  rw [request]
  cases hget : cache.get? type with
  | some entry =>
      have htype : entry.type = type := by simpa using List.find?_some hget
      exact .inl ⟨entry, List.mem_of_find?_eq_some hget, htype, rfl⟩
  | none =>
      have hnew : type ∉ cache.types := by
        intro hmem
        obtain ⟨entry, hentry, rfl⟩ := List.mem_map.1 hmem
        rw [get?, List.find?_eq_none] at hget
        exact hget entry hentry (beq_self_eq_true _)
      cases hbindings : schema.bindings type with
      | ok bindings => exact .inr (.inl ⟨hnew, bindings, rfl, rfl⟩)
      | error error => exact .inr (.inr ⟨hnew, error, rfl, rfl⟩)

namespace IsValid

variable {cache : BindingCache ι} {type : ι}

/-- An entry of a new type may be put in front. -/
theorem cons (h : cache.IsValid schema) (hnew : type ∉ cache.types) {bindings : Bindings}
    (hbindings : schema.bindings type = .ok bindings) :
    (⟨⟨cache.size, type, bindings⟩ :: cache.entries⟩ : BindingCache ι).IsValid schema where
  bindings_eq := List.forall_mem_cons.2 ⟨hbindings, h.bindings_eq⟩
  types_nodup := List.nodup_cons.2 ⟨hnew, h.types_nodup⟩
  serials_nodup := by
    refine List.nodup_cons.2 ⟨fun hmem => ?_, h.serials_nodup⟩
    obtain ⟨entry, hentry, hserial⟩ := List.mem_map.1 hmem
    exact Nat.ne_of_lt (h.serial_lt entry hentry) hserial
  serial_lt :=
    List.forall_mem_cons.2 ⟨Nat.lt_succ_self _, fun entry hentry =>
      Nat.lt_succ_of_lt (h.serial_lt entry hentry)⟩

theorem isValid_request (h : cache.IsValid schema) (type : ι) :
    (cache.request schema type).2.IsValid schema := by
  rcases cache.request_cases schema type with ⟨entry, -, -, hrequest⟩ |
    ⟨hnew, bindings, hbindings, hrequest⟩ | ⟨-, error, -, hrequest⟩
  · rwa [hrequest]
  · rw [hrequest]
    exact h.cons hnew hbindings
  · rwa [hrequest]

/-- A request is answered with the bindings of the type, or with what keeps it from being bound. -/
theorem map_request (h : cache.IsValid schema) (type : ι) :
    (cache.request schema type).1.map CacheEntry.bindings = schema.bindings type := by
  rcases cache.request_cases schema type with ⟨entry, hentry, rfl, hrequest⟩ |
    ⟨-, bindings, hbindings, hrequest⟩ | ⟨-, error, herror, hrequest⟩
  · rw [hrequest, h.bindings_eq entry hentry]
    rfl
  · rw [hrequest, hbindings]
    rfl
  · rw [hrequest, herror]
    rfl

/-- A type that cannot be bound is not in the cache, so that a request for it changes nothing. -/
theorem request_of_error (h : cache.IsValid schema) {error : BindingError}
    (herror : schema.bindings type = .error error) :
    cache.request schema type = (.error error, cache) := by
  rcases cache.request_cases schema type with ⟨entry, hentry, rfl, -⟩ |
    ⟨-, bindings, hbindings, -⟩ | ⟨-, other, hother, hrequest⟩
  · rw [h.bindings_eq entry hentry] at herror
    cases herror
  · rw [hbindings] at herror
    cases herror
  · rw [hother] at herror
    rw [hrequest, Except.error.inj herror]

/-- Two entries of a cache with the same serial number, or of the same type, are one. -/
theorem serial_eq_iff (h : cache.IsValid schema) {entry other : CacheEntry ι}
    (hentry : entry ∈ cache.entries) (hother : other ∈ cache.entries) :
    entry.serial = other.serial ↔ entry = other :=
  ⟨fun hserial => List.inj_on_of_nodup_map h.serials_nodup hentry hother hserial,
    fun hsame => congrArg _ hsame⟩

theorem eq_iff_type_eq (h : cache.IsValid schema) {entry other : CacheEntry ι}
    (hentry : entry ∈ cache.entries) (hother : other ∈ cache.entries) :
    entry = other ↔ entry.type = other.type :=
  ⟨fun hsame => congrArg _ hsame,
    fun htype => List.inj_on_of_nodup_map h.types_nodup hentry hother htype⟩

end IsValid

/-- The entry that a request is answered with is in the cache from then on. -/
theorem mem_of_request {cache : BindingCache ι} {type : ι} {entry : CacheEntry ι}
    (h : (cache.request schema type).1 = .ok entry) :
    entry ∈ (cache.request schema type).2.entries ∧ entry.type = type := by
  rcases cache.request_cases schema type with ⟨found, hfound, htype, hrequest⟩ |
    ⟨-, bindings, -, hrequest⟩ | ⟨-, error, -, hrequest⟩
  · rw [hrequest] at h ⊢
    obtain rfl := Except.ok.inj h
    exact ⟨hfound, htype⟩
  · rw [hrequest] at h ⊢
    obtain rfl := Except.ok.inj h
    exact ⟨List.mem_cons_self, rfl⟩
  · rw [hrequest] at h
    cases h

theorem subset_request (cache : BindingCache ι) (type : ι) :
    cache.entries ⊆ (cache.request schema type).2.entries := by
  rcases cache.request_cases schema type with ⟨found, -, -, hrequest⟩ |
    ⟨-, bindings, -, hrequest⟩ | ⟨-, error, -, hrequest⟩
  · rw [hrequest]
    exact List.Subset.refl _
  · rw [hrequest]
    exact List.subset_cons_self _ _
  · rw [hrequest]
    exact List.Subset.refl _

/-- A request adds its type to the cache if the type can be bound, and no other. -/
theorem mem_types_request_iff (cache : BindingCache ι) (type other : ι) :
    other ∈ (cache.request schema type).2.types ↔
      other ∈ cache.types ∨ other = type ∧ (schema.bindings type).isOk = true := by
  rcases cache.request_cases schema type with ⟨found, hfound, rfl, hrequest⟩ |
    ⟨-, bindings, hbindings, hrequest⟩ | ⟨-, error, herror, hrequest⟩
  · rw [hrequest]
    refine ⟨.inl, ?_⟩
    rintro (hmem | ⟨rfl, -⟩)
    · exact hmem
    · exact List.mem_map_of_mem hfound
  · rw [hrequest, hbindings]
    simp [types, Except.isOk, Except.toBool, or_comm]
  · rw [hrequest, herror]
    simp [Except.isOk, Except.toBool]

/-! ## A run of requests -/

theorem run_cons (type : ι) (rest : List ι) (cache : BindingCache ι) :
    run schema (type :: rest) cache =
      ((cache.request schema type).1 :: (run schema rest (cache.request schema type).2).1,
        (run schema rest (cache.request schema type).2).2) :=
  rfl

theorem run_append (requests more : List ι) (cache : BindingCache ι) :
    run schema (requests ++ more) cache =
      ((run schema requests cache).1 ++ (run schema more (run schema requests cache).2).1,
        (run schema more (run schema requests cache).2).2) := by
  induction requests generalizing cache with
  | nil => rfl
  | cons type rest ih => rw [List.cons_append, run_cons, run_cons, ih, List.cons_append]

/-- What a run of requests amounts to. -/
structure IsServed (schema : Schema ι) (requests : List ι) (cache : BindingCache ι)
    (answers : List (Except BindingError (CacheEntry ι))) (last : BindingCache ι) : Prop where
  isValid : last.IsValid schema
  map_answers : answers.map (Except.map CacheEntry.bindings) = requests.map schema.bindings
  kept : cache.entries ⊆ last.entries
  mem_of_answer : ∀ (place : Nat) (entry : CacheEntry ι), answers[place]? = some (.ok entry) →
    entry ∈ last.entries ∧ requests[place]? = some entry.type
  mem_types_iff : ∀ type, type ∈ last.types ↔
    type ∈ cache.types ∨ type ∈ requests ∧ (schema.bindings type).isOk = true

theorem IsValid.isServed_run {cache : BindingCache ι} (h : cache.IsValid schema)
    (requests : List ι) :
    IsServed schema requests cache (run schema requests cache).1 (run schema requests cache).2 := by
  induction requests generalizing cache with
  | nil => exact ⟨h, rfl, List.Subset.refl _, by simp [run], by simp [run]⟩
  | cons type rest ih =>
      have hrest := ih (h.isValid_request type)
      rw [run_cons]
      refine ⟨hrest.isValid, ?_, List.Subset.trans (cache.subset_request type) hrest.kept, ?_, ?_⟩
      · rw [List.map_cons, List.map_cons, h.map_request, hrest.map_answers]
      · intro place entry hanswer
        cases place with
        | zero =>
            -- The entry was in the cache right after the request, and nothing is given up.
            obtain ⟨hmem, htype⟩ := mem_of_request (Option.some.inj hanswer)
            exact ⟨hrest.kept hmem, congrArg some htype.symm⟩
        | succ place => exact hrest.mem_of_answer place entry hanswer
      · intro other
        rw [hrest.mem_types_iff, mem_types_request_iff, List.mem_cons]
        constructor
        · rintro ((hcache | ⟨rfl, hbound⟩) | ⟨hmem, hbound⟩)
          · exact .inl hcache
          · exact .inr ⟨.inl rfl, hbound⟩
          · exact .inr ⟨.inr hmem, hbound⟩
        · rintro (hcache | ⟨rfl | hmem, hbound⟩)
          · exact .inl (.inl hcache)
          · exact .inl (.inr ⟨rfl, hbound⟩)
          · exact .inr ⟨hmem, hbound⟩

theorem IsValid.run_replicate {cache : BindingCache ι} (h : cache.IsValid schema) {type : ι}
    {error : BindingError} (herror : schema.bindings type = .error error) (count : Nat) :
    run schema (List.replicate count type) cache =
      (List.replicate count (.error error), cache) := by
  induction count with
  | zero => rfl
  | succ count ih =>
      rw [List.replicate_succ, run_cons, h.request_of_error herror, ih, List.replicate_succ]

/-- A cache has as many entries as different types could be bound. -/
theorem IsServed.size_eq {requests : List ι} {last : BindingCache ι}
    {answers : List (Except BindingError (CacheEntry ι))}
    (h : IsServed schema requests empty answers last) :
    last.size = (boundTypes schema requests).length := by
  have hsame : last.types.Perm (boundTypes schema requests) := by
    rw [boundTypes, List.perm_ext_iff_of_nodup h.isValid.types_nodup (List.nodup_dedup _)]
    intro type
    rw [h.mem_types_iff, List.mem_dedup, List.mem_filter]
    simp [types, empty]
  rw [size, ← hsame.length_eq, types, List.length_map]

/-- **A cache cannot be told from making the bindings anew.** Of a run of requests on a new cache,
each is answered with the bindings of its type or with what keeps it from being bound. Two entries
that are answered are the same one if and only if the requests are for the same type. A request that
fails leaves the cache as it is, however often it is repeated. After every request the cache has one
entry for each type that could be bound so far. -/
theorem run_transparent (schema : Schema ι) (requests : List ι) :
    (answers schema requests).map (Except.map CacheEntry.bindings) =
      requests.map schema.bindings ∧
    (∀ (place other : Nat) (entry found : CacheEntry ι),
      (answers schema requests)[place]? = some (.ok entry) →
      (answers schema requests)[other]? = some (.ok found) →
        (entry.serial = found.serial ↔ entry = found) ∧
        (entry = found ↔ requests[place]? = requests[other]?)) ∧
    (∀ type error, schema.bindings type = .error error → ∀ count,
      run schema (List.replicate count type) (after schema requests) =
        (List.replicate count (.error error), after schema requests)) ∧
    (∀ type, answers schema (requests ++ [type]) =
        answers schema requests ++ [((after schema requests).request schema type).1] ∧
      after schema (requests ++ [type]) = ((after schema requests).request schema type).2) ∧
    (after schema requests).size = (boundTypes schema requests).length ∧
    ((after schema requests).isEmpty = true ↔ (boundTypes schema requests).length = 0) := by
  have hserved := (isValid_empty schema).isServed_run requests
  have hsize : (after schema requests).size = (boundTypes schema requests).length :=
    hserved.size_eq
  refine ⟨hserved.map_answers, ?_, ?_, ?_, hsize, ?_⟩
  · intro place other entry found hentry hfound
    obtain ⟨hmem, htype⟩ := hserved.mem_of_answer place entry hentry
    obtain ⟨hother, hotherType⟩ := hserved.mem_of_answer other found hfound
    refine ⟨hserved.isValid.serial_eq_iff hmem hother, ?_⟩
    rw [htype, hotherType, Option.some.injEq]
    exact hserved.isValid.eq_iff_type_eq hmem hother
  · intro type error herror count
    exact hserved.isValid.run_replicate herror count
  · intro type
    exact ⟨by rw [answers, run_append]; rfl, by rw [after, run_append]; rfl⟩
  · rw [← hsize, size, isEmpty, List.isEmpty_iff, List.length_eq_zero_iff]

/-- Both requests for a line are answered with the same entry. That for a group, which fails between
    them, leaves no trace. -/
theorem run_transparent_drawing :
    ∃ entry found error,
      answers Drawing.schema [.line, .group, .line] = [.ok entry, .error error, .ok found] ∧
      entry.serial = found.serial ∧
      (after Drawing.schema [.line, .group, .line]).size = 1 := by
  obtain ⟨-, hsame, -, -, hsize, -⟩ := run_transparent Drawing.schema [.line, .group, .line]
  have hanswers : answers Drawing.schema [.line, .group, .line] =
      [.ok ⟨0, .line, ⟨[Drawing.stopBinding]⟩⟩, .error (.recursiveRecord "Group" "parts"),
        .ok ⟨0, .line, ⟨[Drawing.stopBinding]⟩⟩] := by decide +kernel
  have hcount : (boundTypes Drawing.schema [.line, .group, .line]).length = 1 := by decide +kernel
  rw [hanswers] at hsame
  obtain ⟨hserial, hentry⟩ := hsame 0 2 _ _ rfl rfl
  exact ⟨_, _, _, hanswers, hserial.2 (hentry.2 rfl), hsize.trans hcount⟩

end ResourceNames.BindingCache
