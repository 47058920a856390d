import ErrorDerive.Proofs.PairedRows
import ErrorDerive.Proofs.Schema.Accepting
import ErrorDerive.Proofs.Schema.Entries
import ErrorDerive.Proofs.Yaml.SetOrder
import Mathlib.Data.List.Perm.Basic

/-!
# Readings in two orders

Values that are the same but for their sets are accepted alike, and the same data are read from
them, apart from rows that are given as a set.

* `Schema.RowAlike` relates two such rows;
* `Schema.Carries` says that a reading accepts both values, with related data.
-/

namespace ErrorDerive

variable {order other : SetOrder}

/-! ## Entries -/

namespace Value

section

variable {entries others : List (Value × Value)}
  (alike : List.Forall₂ (EntryResembles order other) entries others)

include alike

/-- The contents under a key are alike, if there are any. -/
theorem lookup?_resembles (name : String) :
    Option.Rel (Resembles order other) (lookup? name entries) (lookup? name others) := by
  induction alike with
  | nil => exact .none
  | cons first _ inductionHypothesis =>
      cases first with
      | mk key contents =>
          by_cases isKey : key = .text name
          · rw [isKey, lookup?_cons_text, lookup?_cons_text]
            exact .some contents
          · rw [lookup?_cons_of_ne isKey, lookup?_cons_of_ne isKey]
            exact inductionHypothesis

theorem getD_lookup?_resembles (name : String) (default : Value) :
    Resembles order other ((lookup? name entries).getD default)
      ((lookup? name others).getD default) := by
  have found := lookup?_resembles alike name
  generalize lookup? name entries = here at found ⊢
  generalize lookup? name others = there at found ⊢
  cases found with
  | none => exact .refl default
  | some contents => exact contents

theorem put_resembles (key : Value) {content contentTaken : Value}
    (contents : Resembles order other content contentTaken) :
    List.Forall₂ (EntryResembles order other) (put key content entries)
      (put key contentTaken others) := by
  induction alike with
  | nil => exact .cons (.mk key contents) .nil
  | cons first rest inductionHypothesis =>
      cases first with
      | mk present contentsThere =>
          rw [put, put]
          split
          · exact .cons (.mk present contents) rest
          · exact .cons (.mk present contentsThere) inductionHypothesis

theorem isEmpty_resembles : entries.isEmpty = others.isEmpty := by
  cases alike with
  | nil => rfl
  | cons first rest => rfl

end

variable {value taken : Value}

theorem Resembles.exists_mapping {entries : List (Value × Value)}
    (alike : Resembles order other (.mapping entries) taken) :
    ∃ others, taken = .mapping others ∧
      List.Forall₂ (EntryResembles order other) entries others := by
  cases alike with
  | refl _ => exact ⟨entries, rfl, EntryResembles.forall₂_refl entries⟩
  | mapping pairs => exact ⟨_, rfl, pairs⟩

theorem Resembles.exists_list {items : List Value}
    (alike : Resembles order other (.list items) taken) :
    ∃ others, taken = .list others ∧ List.Forall₂ (Resembles order other) items others := by
  cases alike with
  | refl _ => exact ⟨items, rfl, Resembles.forall₂_refl items⟩
  | list pairs => exact ⟨_, rfl, pairs⟩

theorem Resembles.isHollow_eq (alike : Resembles order other value taken) :
    value.isHollow = taken.isHollow := by
  cases alike with
  | refl value => rfl
  | set items => exact (order.perm_arrange other items).isEmpty_eq
  | list items => cases items <;> rfl
  | tuple items => cases items <;> rfl
  | mapping entries => exact isEmpty_resembles entries
  | circle place parts => rfl

end Value

open Value

/-! ## Readings -/

namespace Schema

variable {α : Type}

/-- A reading accepts with a value every value that is alike, and the data are related. -/
def Carries (order other : SetOrder) (read : Value → Reading α) (related : α → α → Prop) : Prop :=
  ∀ value taken, Resembles order other value taken → ∀ data, read value = .accepted data →
    ∃ dataTaken, read taken = .accepted dataTaken ∧ related data dataTaken

/-- Two rows of data come from rows of items that are related one by one, or from one set whose
items come out in two orders. -/
inductive RowAlike (order other : SetOrder) (read : Value → Reading α) (related : α → α → Prop) :
    List α → List α → Prop
  | items {data dataTaken : List α} : List.Forall₂ related data dataTaken →
      RowAlike order other read related data dataTaken
  | set {data dataTaken : List α} (items : List Value) :
      List.Forall₂ (fun item datum => read item = .accepted datum) (order.arrange items) data →
      List.Forall₂ (fun item datum => read item = .accepted datum) (other.arrange items) dataTaken →
      RowAlike order other read related data dataTaken

variable {read : Value → Reading α} {related : α → α → Prop}

theorem carries_readText : Carries order other readText Eq := by
  intro value taken alike data accepted
  cases alike with
  | refl value => exact ⟨data, accepted, rfl⟩
  | _ => cases accepted

theorem carries_readChoice (choices : List α) (name : α → String) :
    Carries order other (readChoice choices name) Eq := by
  intro value taken alike data accepted
  cases alike with
  | refl value => exact ⟨data, accepted, rfl⟩
  | _ => cases accepted

theorem Carries.nullable (carries : Carries order other read Eq) :
    Carries order other (readNullable read) Eq := by
  intro value taken alike data accepted
  have carried (unlike : readNullable read value = some <$> read value)
      (unlikeTaken : readNullable read taken = some <$> read taken) :
      ∃ dataTaken, readNullable read taken = .accepted dataTaken ∧ data = dataTaken := by
    rw [unlike] at accepted
    obtain ⟨given, acceptedGiven, isData⟩ := Reading.map_eq_accepted_iff.mp accepted
    obtain ⟨_, acceptedTaken, rfl⟩ := carries value taken alike given acceptedGiven
    rw [unlikeTaken]
    exact ⟨data, Reading.map_eq_accepted_iff.mpr ⟨given, acceptedTaken, isData⟩, rfl⟩
  cases alike with
  | refl value => exact ⟨data, accepted, rfl⟩
  | _ => exact carried rfl rfl

theorem items?_resembles {value taken : Value} (alike : Resembles order other value taken)
    {items : List Value} (found : items? value = some items) :
    ∃ itemsTaken, items? taken = some itemsTaken ∧
      (List.Forall₂ (Resembles order other) items itemsTaken ∨
        ∃ added, items = order.arrange added ∧ itemsTaken = other.arrange added) := by
  have held := alike.opened
  unfold items? at found ⊢
  generalize value.opened = here at held found
  generalize taken.opened = there at held ⊢
  cases held with
  | refl here => exact ⟨items, found, Or.inl (Resembles.forall₂_refl items)⟩
  | set added =>
      cases found
      exact ⟨_, rfl, Or.inr ⟨added, rfl, rfl⟩⟩
  | list pairs =>
      cases found
      exact ⟨_, rfl, Or.inl pairs⟩
  | tuple pairs =>
      cases found
      exact ⟨_, rfl, Or.inl pairs⟩
  | mapping _ => cases found
  | circle _ _ => cases found

theorem Carries.readList (carries : Carries order other read related) :
    Carries order other (readList read) (RowAlike order other read related) := by
  intro value taken alike data accepted
  obtain ⟨items, isItems, accepted⟩ := readList_eq_accepted_iff.mp accepted
  obtain ⟨itemsTaken, isItemsTaken, pairs | ⟨added, rfl, rfl⟩⟩ := items?_resembles alike isItems
  · obtain ⟨dataTaken, acceptedTaken, relatedData⟩ :=
      exists_forall₂_of_carried pairs carries accepted
    exact ⟨dataTaken, readList_eq_accepted_iff.mpr ⟨itemsTaken, isItemsTaken, acceptedTaken⟩,
      .items relatedData⟩
  · obtain ⟨dataTaken, acceptedTaken, _⟩ :=
      List.perm_comp_forall₂ (other.perm_arrange order added) accepted
    exact ⟨dataTaken, readList_eq_accepted_iff.mpr ⟨_, isItemsTaken, acceptedTaken⟩,
      .set added accepted acceptedTaken⟩

/-- Rows from one set hold the same data. -/
theorem RowAlike.exists_perm (refl : ∀ datum, related datum datum) {data dataTaken : List α}
    (alike : RowAlike order other read related data dataTaken) :
    ∃ middle, data.Perm middle ∧ List.Forall₂ related middle dataTaken := by
  cases alike with
  | items pairs => exact ⟨data, .refl data, pairs⟩
  | set added accepted acceptedTaken =>
      obtain ⟨again, acceptedAgain, sameData⟩ :=
        List.perm_comp_forall₂ (order.perm_arrange other added) acceptedTaken
      have functional : Relator.RightUnique (fun item datum => read item = .accepted datum) := by
        intro item first second isFirst isSecond
        rw [isFirst] at isSecond
        exact Reading.accepted.inj isSecond
      obtain rfl := List.right_unique_forall₂' functional acceptedAgain accepted
      exact ⟨dataTaken, sameData, List.forall₂_same.mpr fun datum _ => refl datum⟩

theorem RowAlike.perm {data dataTaken : List α}
    (alike : RowAlike order other read Eq data dataTaken) :
    data.Perm dataTaken := by
  obtain ⟨middle, sameData, pairs⟩ := alike.exists_perm fun _ => rfl
  rw [List.forall₂_eq_eq_eq] at pairs
  rwa [pairs] at sameData

/-! ### Fields -/

variable {name : String} {entries others : List (Value × Value)}

/-- A reading of entries accepts with entries all that are alike, and the data are related. -/
def CarriesEntries (order other : SetOrder) (read : List (Value × Value) → Reading α)
    (related : α → α → Prop) : Prop :=
  ∀ entries others, List.Forall₂ (EntryResembles order other) entries others → ∀ data,
    read entries = .accepted data →
    ∃ dataTaken, read others = .accepted dataTaken ∧ related data dataTaken

theorem Carries.required (carries : Carries order other read related) (name : String) :
    CarriesEntries order other (required name read) related := by
  intro entries others alike data accepted
  obtain ⟨content, found, acceptedContent⟩ := required_eq_accepted_iff.mp accepted
  have contents := lookup?_resembles alike name
  rw [found] at contents
  generalize there : lookup? name others = contentTaken? at contents
  cases contents with
  | some contents =>
      obtain ⟨dataTaken, acceptedTaken, relatedData⟩ := carries _ _ contents data acceptedContent
      exact ⟨dataTaken, required_eq_accepted_iff.mpr ⟨_, there, acceptedTaken⟩, relatedData⟩

theorem Carries.optional (carries : Carries order other read related) (name : String)
    {default : α} (refl : related default default) :
    CarriesEntries order other (Schema.optional name default read) related := by
  intro entries others alike data accepted
  have contents := lookup?_resembles alike name
  generalize there : lookup? name others = contentTaken? at contents
  rcases optional_eq_accepted_iff.mp accepted with ⟨absent, rfl⟩ | ⟨content, found, acceptedHere⟩
  · rw [absent] at contents
    cases contents
    exact ⟨data, optional_eq_accepted_iff.mpr (Or.inl ⟨there, rfl⟩), refl⟩
  · rw [found] at contents
    cases contents with
    | some contents =>
        obtain ⟨dataTaken, acceptedTaken, relatedData⟩ := carries _ _ contents data acceptedHere
        exact ⟨dataTaken, optional_eq_accepted_iff.mpr (Or.inr ⟨_, there, acceptedTaken⟩),
          relatedData⟩

theorem CarriesEntries.record {read : List (Value × Value) → Reading α}
    (carries : CarriesEntries order other read related) (record : String) :
    Carries order other (readRecord record read) related := by
  intro value taken alike data accepted
  obtain ⟨entries, isMapping, acceptedEntries⟩ := readRecord_eq_accepted_iff.mp accepted
  have held := alike.opened
  rw [isMapping] at held
  obtain ⟨others, isMappingTaken, pairs⟩ := held.exists_mapping
  obtain ⟨dataTaken, acceptedTaken, relatedData⟩ := carries _ _ pairs data acceptedEntries
  exact ⟨dataTaken, readRecord_eq_accepted_iff.mpr ⟨others, isMappingTaken, acceptedTaken⟩,
    relatedData⟩

/-! ### Groups -/

/-- Two named contents have the same name, and are alike. -/
def NamedAlike (order other : SetOrder) (named taken : String × Value) : Prop :=
  named.1 = taken.1 ∧ Resembles order other named.2 taken.2

/-- Two groups of annotations are the same, but for sets in them. -/
abbrev GroupAlike (order other : SetOrder) (group taken : AnnotationGroup) : Prop :=
  List.Forall₂ (NamedAlike order other) group taken

theorem readEntries_cons_eq_accepted_iff {key content : Value} {rest : List (Value × Value)}
    {data : AnnotationGroup} :
    readEntries ((key, content) :: rest) = .accepted data ↔
      ∃ name later, readText key = .accepted name ∧ readEntries rest = .accepted later ∧
        (name, content) :: later = data := by
  have parts : readEntries ((key, content) :: rest) =
      (fun name => List.cons (name, content)) <$>
        ((readText key).under "[key]").under (keyStep key) <*> readEntries rest :=
    rfl
  rw [parts, Reading.seq_eq_accepted_iff]
  simp only [Reading.map_eq_accepted_iff, Reading.under_eq_accepted_iff]
  constructor
  · rintro ⟨_, later, ⟨name, readName, rfl⟩, readLater, same⟩
    exact ⟨name, later, readName, readLater, same⟩
  · rintro ⟨name, later, readName, readLater, same⟩
    exact ⟨_, later, ⟨name, readName, rfl⟩, readLater, same⟩

theorem carries_readEntries :
    CarriesEntries order other readEntries (GroupAlike order other) := by
  intro entries others alike
  induction alike with
  | nil =>
      intro data accepted
      cases accepted
      exact ⟨[], rfl, .nil⟩
  | cons first _ inductionHypothesis =>
      cases first with
      | mk key contents =>
          intro data accepted
          obtain ⟨name, later, readName, readLater, rfl⟩ :=
            readEntries_cons_eq_accepted_iff.mp accepted
          obtain ⟨laterTaken, readTaken, pairs⟩ := inductionHypothesis later readLater
          exact ⟨(name, _) :: laterTaken,
            readEntries_cons_eq_accepted_iff.mpr ⟨name, laterTaken, readName, readTaken, rfl⟩,
            .cons ⟨rfl, contents⟩ pairs⟩

theorem putNamed_alike {named taken : String × Value} (alike : NamedAlike order other named taken)
    {group groupTaken : AnnotationGroup} (groups : GroupAlike order other group groupTaken) :
    GroupAlike order other (putNamed named group) (putNamed taken groupTaken) := by
  induction groups with
  | nil => exact .cons alike .nil
  | cons first rest inductionHypothesis =>
      rw [putNamed, putNamed, alike.1, first.1]
      split
      · exact .cons alike rest
      · exact .cons first inductionHypothesis

theorem readGroup_eq_accepted_iff {value : Value} {group : AnnotationGroup} :
    readGroup value = .accepted group ↔
      ∃ entries, value.opened = .mapping entries ∧
        ∃ named, readEntries entries = .accepted named ∧
          named.foldl (fun seen entry => putNamed entry seen) [] = group := by
  unfold readGroup
  cases value.opened with
  | mapping entries =>
      change _ <$> readEntries entries = _ ↔ _
      rw [Reading.map_eq_accepted_iff]
      simp
  | _ => simp [Reading.objectTo]

theorem carries_readGroup : Carries order other readGroup (GroupAlike order other) := by
  intro value taken alike group accepted
  obtain ⟨entries, isMapping, named, readNamed, rfl⟩ := readGroup_eq_accepted_iff.mp accepted
  have held := alike.opened
  rw [isMapping] at held
  obtain ⟨others, isMappingTaken, pairs⟩ := held.exists_mapping
  obtain ⟨namedTaken, acceptedTaken, alikeNamed⟩ := carries_readEntries _ _ pairs named readNamed
  refine ⟨_, readGroup_eq_accepted_iff.mpr ⟨others, isMappingTaken, namedTaken, acceptedTaken, rfl⟩,
    ?_⟩
  refine List.rel_foldl ?_ .nil alikeNamed
  intro group groupTaken groups entry entryTaken entries
  exact putNamed_alike entries groups

end Schema

end ErrorDerive
