import ErrorDerive.Loading.Declarations

/-!
# Entries under text keys

A text key is the same key as no other value.  So a mapping is edited in one place at a time:
writing an entry, and taking entries out, changes what is found under the keys concerned and
nothing else.
-/

namespace ErrorDerive

namespace Value

theorem sameKey_text_iff {name : String} {key : Value} :
    sameKey (.text name) key = true ↔ key = .text name := by
  cases key with
  | text content =>
      have compared : sameKey (.text name) (.text content) = (name == content) := rfl
      rw [compared, beq_iff_eq, Value.text.injEq]
      exact eq_comm
  | _ =>
      constructor
      · intro same
        cases same
      · intro same
        cases same

theorem lookup?_cons_text (name : String) (content : Value) (rest : List (Value × Value)) :
    lookup? name ((.text name, content) :: rest) = some content := by
  rw [lookup?, if_pos rfl]

theorem lookup?_cons_of_ne {name : String} {key : Value} (different : key ≠ .text name)
    (content : Value) (rest : List (Value × Value)) :
    lookup? name ((key, content) :: rest) = lookup? name rest := by
  cases key with
  | text other =>
      rw [lookup?, if_neg]
      rintro rfl
      exact different rfl
  | _ =>
      rfl

/-- Writing an entry under a text key changes what is found under this key only. -/
theorem lookup?_put (key name : String) (content : Value) (entries : List (Value × Value)) :
    lookup? name (put (.text key) content entries) =
      if key = name then some content else lookup? name entries := by
  induction entries with
  | nil =>
      by_cases same : key = name
      · rw [put, same, lookup?_cons_text, if_pos rfl]
      · rw [put, lookup?_cons_of_ne (by simpa using same), if_neg same]
  | cons entry rest inductionHypothesis =>
      obtain ⟨first, earlier⟩ := entry
      rw [put]
      by_cases isKey : sameKey (.text key) first = true
      · rw [if_pos isKey, sameKey_text_iff.mp isKey]
        by_cases same : key = name
        · rw [same, lookup?_cons_text, if_pos rfl]
        · have different : Value.text key ≠ .text name := by simpa using same
          rw [lookup?_cons_of_ne different, lookup?_cons_of_ne different, if_neg same]
      · rw [if_neg isKey]
        by_cases found : first = .text name
        · have different : key ≠ name := by
            rintro rfl
            exact isKey (sameKey_text_iff.mpr found)
          rw [found, lookup?_cons_text, lookup?_cons_text, if_neg different]
        · rw [lookup?_cons_of_ne found, lookup?_cons_of_ne found, inductionHypothesis]

/-- Taking entries out by their keys changes what is found under these keys only. -/
theorem lookup?_filter (keeps : Value → Bool) (name : String) (entries : List (Value × Value)) :
    lookup? name (entries.filter fun entry => keeps entry.1) =
      if keeps (.text name) then lookup? name entries else none := by
  induction entries with
  | nil =>
      cases keeps (.text name) <;> rfl
  | cons entry rest inductionHypothesis =>
      obtain ⟨first, content⟩ := entry
      rw [List.filter_cons]
      by_cases found : first = .text name
      · rw [found, lookup?_cons_text]
        by_cases kept : keeps (.text name) = true
        · rw [if_pos kept, if_pos kept, lookup?_cons_text]
        · rw [if_neg kept, inductionHypothesis, if_neg kept, if_neg kept]
      · rw [lookup?_cons_of_ne found, ← inductionHypothesis]
        by_cases kept : keeps first = true
        · rw [if_pos kept, lookup?_cons_of_ne found]
        · rw [if_neg kept]

/-- Rewriting contents changes what is found under a key only as the content there is rewritten. -/
theorem lookup?_map (change : Value → Value → Value) (name : String)
    (entries : List (Value × Value)) :
    lookup? name (entries.map fun entry => (entry.1, change entry.1 entry.2)) =
      (lookup? name entries).map (change (.text name)) := by
  induction entries with
  | nil =>
      rfl
  | cons entry rest inductionHypothesis =>
      obtain ⟨first, content⟩ := entry
      rw [List.map_cons]
      by_cases found : first = .text name
      · rw [found, lookup?_cons_text, lookup?_cons_text, Option.map_some]
      · rw [lookup?_cons_of_ne found, lookup?_cons_of_ne found, inductionHypothesis]

end Value

theorem lookup?_removeEntry (key name : String) (entries : List (Value × Value)) :
    Value.lookup? name (removeEntry key entries) =
      if key = name then none else Value.lookup? name entries := by
  unfold removeEntry
  rw [Value.lookup?_filter fun other => !Value.sameKey (.text key) other]
  by_cases same : key = name
  · rw [if_pos same, same, Value.sameKey_text_iff.mpr rfl]
    rfl
  · have different : Value.sameKey (.text key) (.text name) = false := by
      rw [Bool.eq_false_iff, Ne, Value.sameKey_text_iff, Value.text.injEq]
      exact fun isSame => same isSame.symm
    rw [if_neg same, different]
    rfl

/-- A file that was read holds the entries that are found in it. -/
theorem eq_ok_of_found
    {fault found : Type} {entries : List (Value × Value)}
    {read : Except fault (List (Value × Value))} (find? : List (Value × Value) → Option found)
    (answer : found) (finds : read.toOption.bind find? = some answer)
    (unique : ∀ others, find? others = some answer → others = entries) : read = .ok entries := by
  cases read with
  | error fault =>
      cases finds
  | ok others =>
      rw [unique others finds]

end ErrorDerive
