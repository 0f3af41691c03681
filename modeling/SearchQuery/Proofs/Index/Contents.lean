import Mathlib.Data.List.Dedup
import Mathlib.Data.List.Induction
import SearchQuery.Proofs.Plan.TermLists

/-!
# What an index holds

An index is filled by calls, each of which adds terms to a field or adds a document.  After any
calls it holds what they add and nothing else, so neither their order nor their repetition can be
told from it (`ofAdditions_congr`).
-/

set_option autoImplicit false
namespace SearchQuery

namespace Index

/-- A call that adds to an index. -/
inductive Addition where
  | toField (field : String) (terms : List String)
  | ofDocument (id : String) (texts : List (String × String)) (analyze : Analyzer)

namespace Addition

def apply : Addition → Index → Index
  | .toField field terms, index => index.addTerms field terms
  | .ofDocument id texts analyze, index => index.addDocument id texts analyze

/-- The call names the field, with or without terms for it. -/
def Names (field : String) : Addition → Prop
  | .toField name _ => name = field
  | .ofDocument _ texts _ => ∃ text, (field, text) ∈ texts

/-- The call adds the term to the field. -/
def Adds (field term : String) : Addition → Prop
  | .toField name terms => name = field ∧ term ∈ terms
  | .ofDocument _ texts analyze =>
    ∃ text, (field, text) ∈ texts ∧ ∃ token ∈ analyze text, token.term = term

def id? : Addition → Option String
  | .toField _ _ => none
  | .ofDocument id _ _ => some id

def entries : Addition → List (String × List String)
  | .toField field terms => [(field, terms)]
  | .ofDocument _ texts analyze =>
    texts.map fun (field, text) => (field, (analyze text).map (·.term))

theorem names_iff {field : String} {a : Addition} :
    a.Names field ↔ ∃ terms, (field, terms) ∈ a.entries := by
  cases a with
  | toField name terms => simp [Names, entries, eq_comm]
  | ofDocument id texts analyze => simp [Names, entries]

theorem adds_iff {field term : String} {a : Addition} :
    a.Adds field term ↔ ∃ terms, (field, terms) ∈ a.entries ∧ term ∈ terms := by
  cases a with
  | toField name terms => simp [Adds, entries, eq_comm]
  | ofDocument id texts analyze => simp [Adds, entries]

end Addition

/-- The index that calls make of an empty one. -/
def ofAdditions (calls : List Addition) : Index :=
  calls.foldl (fun index a => a.apply index) empty

def IsOrdered (fields : List (String × TermSet)) : Prop := fields.Pairwise fun a b => a.1 < b.1

theorem mem_addToField {field : String} {terms : List String} {fields : List (String × TermSet)}
    {entry : String × TermSet} (h : entry ∈ addToField field terms fields) :
    entry.1 = field ∨ entry ∈ fields := by
  fun_induction addToField field terms fields with
  | case1 => exact .inl (by rw [List.mem_singleton.1 h])
  | case2 name known rest before =>
    rcases List.mem_cons.1 h with rfl | h
    · exact .inl rfl
    · exact .inr h
  | case3 known rest before =>
    rcases List.mem_cons.1 h with rfl | h
    · exact .inl rfl
    · exact .inr (List.mem_cons_of_mem _ h)
  | case4 name known rest before other ih =>
    rcases List.mem_cons.1 h with rfl | h
    · exact .inr List.mem_cons_self
    · exact (ih h).imp_right (List.mem_cons_of_mem _)

theorem isOrdered_addToField {fields : List (String × TermSet)} (h : IsOrdered fields)
    (field : String) (terms : List String) : IsOrdered (addToField field terms fields) := by
  unfold IsOrdered at h ⊢
  fun_induction addToField field terms fields with
  | case1 => exact List.pairwise_singleton _ _
  | case2 name known rest before =>
    refine List.pairwise_cons.2 ⟨fun entry mem => ?_, h⟩
    rcases List.mem_cons.1 mem with rfl | mem
    · exact before
    · exact String.lt_trans before ((List.pairwise_cons.1 h).1 entry mem)
  | case3 known rest before => exact List.pairwise_cons.2 (List.pairwise_cons.1 h)
  | case4 name known rest before other ih =>
    obtain ⟨behind, sorted⟩ := List.pairwise_cons.1 h
    refine List.pairwise_cons.2 ⟨fun entry mem => ?_, ih sorted⟩
    rcases mem_addToField mem with same | mem
    · rw [same]
      exact Std.lt_of_le_of_ne (String.not_lt.1 before) (Ne.symm other)
    · exact behind entry mem

theorem IsOrdered.lookup_eq_some_iff {fields : List (String × TermSet)} (h : IsOrdered fields)
    {name : String} {set : TermSet} : fields.lookup name = some set ↔ (name, set) ∈ fields := by
  rw [List.lookup_eq_some_iff]
  constructor
  · rintro ⟨before, behind, rfl, -⟩
    simp
  · intro mem
    obtain ⟨before, behind, rfl⟩ := List.append_of_mem mem
    refine ⟨before, behind, rfl, fun entry earlier => ?_⟩
    have lt := (List.pairwise_append.1 h).2.2 entry earlier (name, set) List.mem_cons_self
    exact bne_iff_ne.2 ((String.ne_of_lt lt).symm)

/-- Ordered fields are told by what stands under each name. -/
theorem IsOrdered.ext {a b : List (String × TermSet)} (ha : IsOrdered a) (hb : IsOrdered b)
    (same : ∀ name, a.lookup name = b.lookup name) : a = b := by
  refine eq_of_mem_iff_ascending ha hb fun (name, set) => ?_
  rw [← ha.lookup_eq_some_iff, ← hb.lookup_eq_some_iff, same]

theorem lookup_cons_eq (first name : String) (known : TermSet)
    (rest : List (String × TermSet)) :
    List.lookup name ((first, known) :: rest) =
      if name = first then some known else rest.lookup name := by
  rw [List.lookup_cons]
  by_cases same : name = first
  · simp [same]
  · simp [same, beq_eq_false_iff_ne.2 same]

theorem lookup_addToField {fields : List (String × TermSet)} (h : IsOrdered fields)
    (field name : String) (terms : List String) :
    (addToField field terms fields).lookup name =
      if name = field then some (((fields.lookup field).getD ∅).insertAll terms)
      else fields.lookup name := by
  unfold IsOrdered at h
  fun_induction addToField field terms fields with
  | case1 => exact lookup_cons_eq field name _ []
  | case2 first known rest before =>
    -- The field comes before all that exist, so none of them has its name.
    have new : List.lookup field ((first, known) :: rest) = none := by
      refine List.lookup_eq_none_iff.2 fun entry mem => bne_iff_ne.2 ?_
      rcases List.mem_cons.1 mem with rfl | mem
      · exact String.ne_of_lt before
      · exact String.ne_of_lt (String.lt_trans before ((List.pairwise_cons.1 h).1 entry mem))
    rw [new, lookup_cons_eq]
    rfl
  | case3 known rest before =>
    simp only [lookup_cons_eq, ite_true, Option.getD_some]
    split
    · rfl
    · rfl
  | case4 first known rest before other ih =>
    simp only [lookup_cons_eq, ih (List.pairwise_cons.1 h).2, if_neg other]
    split
    · rename_i same
      rw [if_neg fun eq => other (eq.symm.trans same)]
    · rfl

def dictionary (entries : List (String × List String)) : List (String × TermSet) :=
  entries.foldl (fun fields (field, terms) => addToField field terms fields) []

theorem dictionary_concat (entries : List (String × List String)) (field : String)
    (terms : List String) :
    dictionary (entries ++ [(field, terms)]) = addToField field terms (dictionary entries) := by
  simp [dictionary]

theorem isOrdered_dictionary (entries : List (String × List String)) :
    IsOrdered (dictionary entries) := by
  induction entries using List.reverseRecOn with
  | nil => exact .nil
  | append_singleton entries entry ih =>
    rw [dictionary_concat]
    exact isOrdered_addToField ih entry.1 entry.2

theorem isSome_lookup_dictionary {entries : List (String × List String)} {name : String} :
    ((dictionary entries).lookup name).isSome ↔ ∃ terms, (name, terms) ∈ entries := by
  induction entries using List.reverseRecOn with
  | nil => simp [dictionary]
  | append_singleton entries entry ih =>
    rw [dictionary_concat, lookup_addToField (isOrdered_dictionary entries)]
    split
    · rename_i same
      exact iff_of_true rfl ⟨entry.2, by simp [same]⟩
    · rename_i other
      rw [ih]
      simp [Prod.ext_iff, other]

theorem mem_lookup_dictionary {entries : List (String × List String)} {name term : String} :
    term ∈ (((dictionary entries).lookup name).getD ∅).toList ↔
      ∃ terms, (name, terms) ∈ entries ∧ term ∈ terms := by
  induction entries using List.reverseRecOn with
  | nil => simp [dictionary]
  | append_singleton entries entry ih =>
    obtain ⟨field, terms⟩ := entry
    rw [dictionary_concat, lookup_addToField (isOrdered_dictionary entries)]
    split
    · rename_i same
      subst same
      rw [Option.getD_some, TermSet.mem_insertAll, ih]
      simp [or_and_right, exists_or, or_comm]
    · rename_i other
      rw [ih]
      simp [other]

theorem dictionary_congr {entries entries' : List (String × List String)}
    (same : ∀ entry, entry ∈ entries ↔ entry ∈ entries') :
    dictionary entries = dictionary entries' := by
  refine (isOrdered_dictionary entries).ext (isOrdered_dictionary entries') fun name => ?_
  have exist : ((dictionary entries).lookup name).isSome ↔
      ((dictionary entries').lookup name).isSome := by
    simp only [isSome_lookup_dictionary, same]
  have terms : ((dictionary entries).lookup name).getD ∅ =
      ((dictionary entries').lookup name).getD ∅ :=
    TermSet.ext fun term => by simp only [mem_lookup_dictionary, same]
  cases left : (dictionary entries).lookup name <;>
    cases right : (dictionary entries').lookup name <;> simp_all

theorem addDocument_eq (id : String) (texts : List (String × String)) (analyze : Analyzer)
    (index : Index) :
    index.addDocument id texts analyze =
      ⟨(Addition.ofDocument id texts analyze).entries.foldl
        (fun fields (field, terms) => addToField field terms fields) index.fields,
        index.ids.insert id⟩ := by
  suffices withTexts : texts.foldl
      (fun index (field, text) => index.addTerms field ((analyze text).map (·.term))) index =
      ⟨(Addition.ofDocument id texts analyze).entries.foldl
        (fun fields (field, terms) => addToField field terms fields) index.fields, index.ids⟩ by
    simp only [addDocument, withTexts]
  induction texts generalizing index with
  | nil => rfl
  | cons text rest ih => exact ih (index.addTerms text.1 ((analyze text.2).map (·.term)))

theorem ofAdditions_concat (calls : List Addition) (a : Addition) :
    ofAdditions (calls ++ [a]) = a.apply (ofAdditions calls) := by
  simp [ofAdditions]

theorem ofAdditions_eq (calls : List Addition) :
    ofAdditions calls =
      ⟨dictionary (calls.flatMap Addition.entries), .ofList (calls.filterMap Addition.id?)⟩ := by
  induction calls using List.reverseRecOn with
  | nil => rfl
  | append_singleton calls a ih =>
    rw [ofAdditions_concat, ih]
    cases a with
    | toField field terms =>
      simp [Addition.apply, addTerms, Addition.entries, Addition.id?, List.filterMap_cons,
        dictionary_concat]
    | ofDocument id texts analyze =>
      simp [Addition.apply, addDocument_eq, Addition.id?, dictionary, TermSet.ofList,
        TermSet.insertAll]

/-- Calls that are the same but for their order and repetition make the same index. -/
theorem ofAdditions_congr {calls calls' : List Addition} (same : ∀ a, a ∈ calls ↔ a ∈ calls') :
    ofAdditions calls = ofAdditions calls' := by
  have fields : dictionary (calls.flatMap Addition.entries) =
      dictionary (calls'.flatMap Addition.entries) :=
    dictionary_congr fun entry => by simp only [List.mem_flatMap, same]
  have ids : TermSet.ofList (calls.filterMap Addition.id?) =
      .ofList (calls'.filterMap Addition.id?) :=
    TermSet.ext fun id => by simp only [TermSet.mem_ofList, List.mem_filterMap, same]
  rw [ofAdditions_eq, ofAdditions_eq, fields, ids]

theorem terms_eq (index : Index) (field : String) :
    index.terms field = ((index.fields.lookup field).getD ∅).toList := by
  unfold terms
  cases index.fields.lookup field <;> rfl

theorem mem_terms_ofAdditions {calls : List Addition} {field term : String} :
    term ∈ (ofAdditions calls).terms field ↔ ∃ a ∈ calls, a.Adds field term := by
  rw [terms_eq, ofAdditions_eq, mem_lookup_dictionary]
  simp only [List.mem_flatMap, Addition.adds_iff]
  constructor
  · rintro ⟨terms, ⟨a, mem, entry⟩, held⟩
    exact ⟨a, mem, terms, entry, held⟩
  · rintro ⟨a, mem, terms, entry, held⟩
    exact ⟨terms, ⟨a, mem, entry⟩, held⟩

theorem fieldNames_ascending (calls : List Addition) :
    IsAscending (ofAdditions calls).fieldNames := by
  rw [isAscending_iff, fieldNames, ofAdditions_eq, List.pairwise_map]
  exact isOrdered_dictionary _

theorem mem_fieldNames_ofAdditions {calls : List Addition} {field : String} :
    field ∈ (ofAdditions calls).fieldNames ↔ ∃ a ∈ calls, a.Names field := by
  have named (fields : List (String × TermSet)) :
      field ∈ fields.map (·.1) ↔ (fields.lookup field).isSome := by
    rw [List.lookup_isSome_iff, List.mem_map]
    exact exists_congr fun entry => and_congr_right fun _ => eq_comm.trans beq_iff_eq.symm
  rw [fieldNames, named, ofAdditions_eq, isSome_lookup_dictionary]
  simp only [List.mem_flatMap, Addition.names_iff]
  constructor
  · rintro ⟨terms, a, mem, entry⟩
    exact ⟨a, mem, terms, entry⟩
  · rintro ⟨a, mem, terms, entry⟩
    exact ⟨terms, a, mem, entry⟩

theorem documentCount_ofAdditions (calls : List Addition) :
    (ofAdditions calls).documentCount = (calls.filterMap Addition.id?).dedup.length := by
  rw [documentCount, ofAdditions_eq]
  refine List.Perm.length_eq ((List.perm_ext_iff_of_nodup ?_ (List.nodup_dedup _)).2 fun id => ?_)
  · exact (TermSet.ofList _).ascending.imp String.ne_of_lt
  · rw [TermSet.mem_ofList, List.mem_dedup]

/-- After any calls an index is the set of what they add, whatever their order and however often
they are made. -/
theorem ofAdditions_contents (calls : List Addition) :
    (∀ field, IsAscending ((ofAdditions calls).terms field) ∧
      ∀ term, term ∈ (ofAdditions calls).terms field ↔ ∃ a ∈ calls, a.Adds field term) ∧
    (IsAscending (ofAdditions calls).fieldNames ∧
      ∀ field, field ∈ (ofAdditions calls).fieldNames ↔ ∃ a ∈ calls, a.Names field) ∧
    (ofAdditions calls).documentCount = (calls.filterMap Addition.id?).dedup.length ∧
    (∀ calls' : List Addition, calls'.Perm calls → ofAdditions calls' = ofAdditions calls) ∧
    ∀ before behind, calls = before ++ behind → ∀ a ∈ calls,
      ofAdditions (before ++ a :: behind) = ofAdditions calls := by
  refine ⟨fun field => ⟨?_, fun _ => mem_terms_ofAdditions⟩,
    ⟨fieldNames_ascending calls, fun _ => mem_fieldNames_ofAdditions⟩,
    documentCount_ofAdditions calls, fun _ perm => ofAdditions_congr fun _ => perm.mem_iff, ?_⟩
  · exact isAscending_iff.2 (terms_ascending _ field)
  · rintro before behind rfl a again
    refine ofAdditions_congr fun b => ?_
    rw [List.perm_middle.mem_iff, List.mem_cons]
    exact or_iff_right_of_imp fun same => same ▸ again

/-- A document is indexed twice, once with a field twice, and a field stays without terms. -/
theorem ofAdditions_contents_reindexed :
    let first : Addition := .ofDocument "1" [("title", "Rust Book"), ("tag", ""), ("title", "Go")]
      .simple
    let second : Addition := .ofDocument "1" [("title", "rust")] .keyword
    let raw : Addition := .toField "title" ["tour", "rust", "tour"]
    let bare : Addition := .toField "body" []
    let index := ofAdditions [first, raw, bare, second]
    index.terms "title" = ["book", "go", "rust", "tour"] ∧ index.terms "tag" = [] ∧
      index.fieldNames = ["body", "tag", "title"] ∧ index.documentCount = 1 ∧
      IsAscending (index.terms "title") ∧ "book" ∈ index.terms "title" ∧
      "tag" ∈ index.fieldNames ∧ ofAdditions [second, bare, raw, first] = index ∧
      ofAdditions [first, raw, second, bare, second] = index := by
  intro first second raw bare index
  obtain ⟨terms, names, count, ordered, repeated⟩ :=
    ofAdditions_contents [first, raw, bare, second]
  refine ⟨by decide +kernel, by decide +kernel, by decide +kernel, count.trans (by decide),
    (terms "title").1, ((terms "title").2 "book").2 ?_, (names.2 "tag").2 ?_, ordered _ ?_, ?_⟩
  · exact ⟨first, List.mem_cons_self, "Rust Book", by simp, ⟨"book", 2, 5, 9⟩, by decide +kernel,
      rfl⟩
  · exact ⟨first, List.mem_cons_self, "", by simp⟩
  · exact List.reverse_perm [first, raw, bare, second]
  · exact repeated [first, raw] [bare, second] rfl second (by simp)

end Index

end SearchQuery
