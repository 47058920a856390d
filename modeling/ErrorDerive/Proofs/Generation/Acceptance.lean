import ErrorDerive.Generation.Extraction
import ErrorDerive.Proofs.Judgement
import ErrorDerive.Proofs.Text.Stripping

/-!
# What a declaration must satisfy

The conditions on a declared variant, each said of the declaration alone, and the variant that an
acceptable declaration stands for.

* `VariantDeclaration.form` is that variant;
* `VariantDeclaration.Flaw` is the first thing wrong with a declaration that is not acceptable;
* `judges_extractVariants` says that extraction decides exactly these conditions, variant by
  variant, and answers with the first flaw of the first flawed variant.
-/

namespace ErrorDerive

/-! ## Annotations -/

/-- Whether a value is of the kind that a key takes. -/
def AnnotationKey.Takes : AnnotationKey → Value → Prop
  | .formatStr, value => ∃ content, value = .text content
  | .makeFrom, value => ∃ flag, value = .bool flag
  | .err, value => ∃ flag, value = .bool flag

/-- Annotations that can stand together: all keys are known, none occurs twice, and every value is
of the kind that its key takes. -/
structure EntriesSuit (entries : AnnotationGroup) : Prop where
  known : ∀ entry ∈ entries, ∃ key, AnnotationKey.name key = entry.1 ∧ key.Takes entry.2
  distinct : (entries.map Prod.fst).Nodup

/-- What is wrong with an annotation that comes after those with the keys `seen`. -/
inductive EntryFlaw (seen : List String) (entry : String × Value) : Malformation → Prop
  | unknown :
      (∀ key, AnnotationKey.name key ≠ entry.1) →
      EntryFlaw seen entry (.unknownKey entry.1)
  | repeated (key : AnnotationKey) :
      key.name = entry.1 → entry.1 ∈ seen →
      EntryFlaw seen entry (.repeatedKey key)
  | mistyped (key : AnnotationKey) :
      key.name = entry.1 → entry.1 ∉ seen → ¬ key.Takes entry.2 →
      EntryFlaw seen entry (.mistypedValue key)

/-- What is wrong with the first annotation that does not fit those before it. -/
def AnnotationFlaw (entries : AnnotationGroup) (cause : Malformation) : Prop :=
  ∃ earlier entry later, entries = earlier ++ entry :: later ∧ EntriesSuit earlier ∧
    EntryFlaw (earlier.map Prod.fst) entry cause

def Value.text? : Value → Option String
  | text content => some content
  | _ => none

/-- The truth value in a value, if it is one. -/
def Value.flag? : Value → Option Bool
  | bool flag => some flag
  | _ => none

def Annotations.ofEntries (entries : AnnotationGroup) : Annotations where
  formatStr := (entries.lookup AnnotationKey.formatStr.name).bind Value.text?
  makeFrom := (entries.lookup AnnotationKey.makeFrom.name).bind Value.flag?
  err := (entries.lookup AnnotationKey.err.name).bind Value.flag?

/-- The value that a record holds under a key. -/
def Annotations.value? (annotations : Annotations) : AnnotationKey → Option Value
  | .formatStr => annotations.formatStr.map .text
  | .makeFrom => annotations.makeFrom.map .bool
  | .err => annotations.err.map .bool

theorem Annotations.isSome_value? (annotations : Annotations) (key : AnnotationKey) :
    (annotations.value? key).isSome = annotations.has key := by
  cases key <;> simp [value?, has]

theorem AnnotationKey.name_injective
    {left right : AnnotationKey} (same : left.name = right.name) : left = right := by
  cases left <;> cases right <;> first | rfl | exact absurd same (by decide)

theorem AnnotationKey.ofName?_name (key : AnnotationKey) :
    AnnotationKey.ofName? key.name = some key := by
  cases key <;> decide

theorem AnnotationKey.ofName?_of_unknown
    {name : String} (unknown : ∀ key, AnnotationKey.name key ≠ name) :
    AnnotationKey.ofName? name = none := by
  simp [AnnotationKey.ofName?, unknown]

theorem EntriesSuit.nil : EntriesSuit [] where
  known := by simp
  distinct := by simp

/-- A suitable row of annotations grows by one that is known, new and of the right kind. -/
theorem entriesSuit_append_singleton (seen : AnnotationGroup) (entry : String × Value) :
    EntriesSuit (seen ++ [entry]) ↔ EntriesSuit seen ∧ entry.1 ∉ seen.map Prod.fst ∧
      ∃ key, AnnotationKey.name key = entry.1 ∧ key.Takes entry.2 := by
  have spread : ((seen ++ [entry]).map Prod.fst).Nodup ↔
      (seen.map Prod.fst).Nodup ∧ entry.1 ∉ seen.map Prod.fst := by
    rw [List.map_append, List.nodup_append]
    simp only [List.map_cons, List.map_nil, List.mem_singleton, forall_eq, List.nodup_cons,
      List.not_mem_nil, not_false_eq_true, List.nodup_nil, and_self, true_and]
    refine and_congr_right fun _ => ?_
    exact ⟨fun apart member => apart _ member rfl, fun absent _ member same =>
      absent (same ▸ member)⟩
  constructor
  · rintro ⟨known, distinct⟩
    obtain ⟨seenDistinct, absent⟩ := spread.mp distinct
    refine ⟨⟨fun other member => known other (List.mem_append_left _ member), seenDistinct⟩,
      absent, known entry (by simp)⟩
  · rintro ⟨⟨known, distinct⟩, absent, fits⟩
    refine ⟨?_, spread.mpr ⟨distinct, absent⟩⟩
    intro other member
    rcases List.mem_append.mp member with member | member
    · exact known other member
    · rw [List.mem_singleton.mp member]
      exact fits

theorem EntriesSuit.takes_of_lookup
    {entries : AnnotationGroup} (suit : EntriesSuit entries) {key : AnnotationKey} {value : Value}
    (found : entries.lookup key.name = some value) : key.Takes value := by
  obtain ⟨before, after, split, _⟩ := List.lookup_eq_some_iff.mp found
  obtain ⟨other, sameName, takes⟩ := suit.known (key.name, value) (by rw [split]; simp)
  rw [AnnotationKey.name_injective sameName] at takes
  exact takes

/-- A record made of suitable annotations holds each of them, and nothing else. -/
theorem EntriesSuit.value?_ofEntries
    {entries : AnnotationGroup} (suit : EntriesSuit entries) (key : AnnotationKey) :
    (Annotations.ofEntries entries).value? key = entries.lookup key.name := by
  cases found : entries.lookup key.name with
  | none =>
      cases key <;> simp [Annotations.value?, Annotations.ofEntries, found]
  | some value =>
      have takes := suit.takes_of_lookup found
      cases key with
      | formatStr =>
          obtain ⟨content, rfl⟩ := takes
          simp [Annotations.value?, Annotations.ofEntries, found, Value.text?]
      | makeFrom =>
          obtain ⟨flag, rfl⟩ := takes
          simp [Annotations.value?, Annotations.ofEntries, found, Value.flag?]
      | err =>
          obtain ⟨flag, rfl⟩ := takes
          simp [Annotations.value?, Annotations.ofEntries, found, Value.flag?]

/-- In a suitable row of annotations, a key is set in the record exactly if it occurs. -/
theorem EntriesSuit.has_ofEntries
    {entries : AnnotationGroup} (suit : EntriesSuit entries) (key : AnnotationKey) :
    (Annotations.ofEntries entries).has key = true ↔ key.name ∈ entries.map Prod.fst := by
  rw [← Annotations.isSome_value?, suit.value?_ofEntries]
  simp

/-- Setting a new key to a value of its kind is recording one more annotation. -/
theorem Annotations.set?_ofEntries
    {entries : AnnotationGroup} {key : AnnotationKey} {value : Value}
    (absent : key.name ∉ entries.map Prod.fst) (takes : key.Takes value) :
    (ofEntries entries).set? key value = some (ofEntries (entries ++ [(key.name, value)])) := by
  have fresh : entries.lookup key.name = none := by
    rw [List.lookup_eq_none_iff]
    intro entry member
    have different : entry.1 ≠ key.name := fun same =>
      absent (same ▸ List.mem_map_of_mem member)
    simpa using different.symm
  have others : ∀ other : AnnotationKey, other ≠ key →
      (entries ++ [(key.name, value)]).lookup other.name = entries.lookup other.name := by
    intro other different
    have namesDiffer : other.name ≠ key.name := fun same =>
      different (AnnotationKey.name_injective same)
    simp [List.lookup_append, List.lookup_cons, beq_false_of_ne namesDiffer]
  have own : (entries ++ [(key.name, value)]).lookup key.name = some value := by
    simp [List.lookup_append, fresh]
  cases key with
  | formatStr =>
      obtain ⟨content, rfl⟩ := takes
      simp only [ofEntries, set?, own, others .makeFrom (by decide), others .err (by decide)]
      rfl
  | makeFrom =>
      obtain ⟨flag, rfl⟩ := takes
      simp only [ofEntries, set?, own, others .formatStr (by decide), others .err (by decide)]
      rfl
  | err =>
      obtain ⟨flag, rfl⟩ := takes
      simp only [ofEntries, set?, own, others .formatStr (by decide), others .makeFrom (by decide)]
      rfl

theorem Annotations.set?_of_mistyped
    {annotations : Annotations} {key : AnnotationKey} {value : Value}
    (mistyped : ¬ key.Takes value) : annotations.set? key value = none := by
  cases key <;> cases value <;>
    first | rfl | exact absurd ⟨_, rfl⟩ mistyped

theorem judges_addEntry
    (variant : String) (seen : AnnotationGroup) (entry : String × Value) (suit : EntriesSuit seen) :
    Judges (addEntry variant (.ofEntries seen) entry)
      (entry.1 ∉ seen.map Prod.fst ∧ ∃ key, AnnotationKey.name key = entry.1 ∧ key.Takes entry.2)
      (.ofEntries (seen ++ [entry]))
      (blamedOn variant (EntryFlaw (seen.map Prod.fst) entry)) where
  succeeds := by
    rintro ⟨absent, key, named, takes⟩
    have sameEntry : entry = (key.name, entry.2) := by rw [named]
    have new : (Annotations.ofEntries seen).has key = false := by
      rw [Bool.eq_false_iff, Ne, suit.has_ofEntries, named]
      exact absent
    rw [← named] at absent
    rw [sameEntry]
    simp [addEntry, AnnotationKey.ofName?_name, new, Annotations.set?_ofEntries absent takes]
  fails := by
    rintro answer ⟨cause, flaw, rfl⟩
    cases flaw with
    | unknown unknown =>
        simp [addEntry, AnnotationKey.ofName?_of_unknown unknown]
    | repeated key named member =>
        have present : (Annotations.ofEntries seen).has key = true := by
          rw [suit.has_ofEntries, named]
          exact member
        simp [addEntry, ← named, AnnotationKey.ofName?_name, present]
    | mistyped key named absent mistyped =>
        have new : (Annotations.ofEntries seen).has key = false := by
          rw [Bool.eq_false_iff, Ne, suit.has_ofEntries, named]
          exact absent
        simp [addEntry, ← named, AnnotationKey.ofName?_name, new,
          Annotations.set?_of_mistyped mistyped]
  decides := by
    by_cases known : ∃ key, AnnotationKey.name key = entry.1
    · obtain ⟨key, named⟩ := known
      by_cases member : entry.1 ∈ seen.map Prod.fst
      · exact Or.inr ⟨_, _, EntryFlaw.repeated key named member, rfl⟩
      · by_cases takes : key.Takes entry.2
        · exact Or.inl ⟨member, key, named, takes⟩
        · exact Or.inr ⟨_, _, EntryFlaw.mistyped key named member takes, rfl⟩
    · have unknown : ∀ key, AnnotationKey.name key ≠ entry.1 := fun key named =>
        known ⟨key, named⟩
      exact Or.inr ⟨_, _, EntryFlaw.unknown unknown, rfl⟩

/-! ## Shape and fields -/

namespace VariantDeclaration

/-- The annotations of all groups, in order. -/
def entries (declared : VariantDeclaration) : AnnotationGroup :=
  declared.annotations.flatten

/-- The shape as declared, or the one that the fields suggest. -/
def formShape (declared : VariantDeclaration) : Shape :=
  declared.shape.getD (if declared.fields = [] then .unit else .tuple)

/-- What is wrong with the declared shape. -/
inductive ShapeFlaw (declared : VariantDeclaration) : Malformation → Prop
  | namedFields : declared.shape = some .struct → ShapeFlaw declared .namedFields
  | unitWithFields :
      declared.shape = some .unit → declared.fields ≠ [] → ShapeFlaw declared .unitWithFields

/-- A declared shape that suits the fields: not a struct, and a unit only without fields. -/
structure ShapeSuits (declared : VariantDeclaration) : Prop where
  notStruct : declared.shape ≠ some .struct
  unitIsEmpty : declared.shape = some .unit → declared.fields = []

theorem judges_resolveShape (declared : VariantDeclaration) :
    Judges declared.resolveShape declared.ShapeSuits declared.formShape
      (blamedOn declared.name declared.ShapeFlaw) where
  succeeds := by
    rintro ⟨notStruct, unitIsEmpty⟩
    cases shape : declared.shape with
    | none =>
        simp [resolveShape, formShape, shape, List.isEmpty_iff]
    | some given =>
        cases given with
        | unit =>
            simp [resolveShape, formShape, shape, unitIsEmpty shape]
        | tuple =>
            simp [resolveShape, formShape, shape]
        | struct =>
            exact absurd shape notStruct
  fails := by
    rintro answer ⟨cause, flaw, rfl⟩
    cases flaw with
    | namedFields shape =>
        simp [resolveShape, shape]
    | unitWithFields shape fields =>
        simp [resolveShape, shape, fields]
  decides := by
    by_cases struct : declared.shape = some .struct
    · exact Or.inr ⟨_, _, ShapeFlaw.namedFields struct, rfl⟩
    · by_cases unit : declared.shape = some .unit
      · by_cases fields : declared.fields = []
        · exact Or.inl ⟨struct, fun _ => fields⟩
        · exact Or.inr ⟨_, _, ShapeFlaw.unitWithFields unit fields, rfl⟩
      · exact Or.inl ⟨struct, fun isUnit => absurd isUnit unit⟩

end VariantDeclaration

/-- Whether no text of a field is blank. -/
def FieldsSuit (fields : List String) : Prop :=
  ∀ typeRef ∈ fields, Text.strip typeRef ≠ ""

/-- What is wrong with the first blank text among fields counted from an index. -/
def FieldFlaw (index : Nat) (fields : List String) (cause : Malformation) : Prop :=
  ∃ earlier blank later, fields = earlier ++ blank :: later ∧ FieldsSuit earlier ∧
    Text.strip blank = "" ∧ cause = .blankField (index + earlier.length)

/-- Stripped field texts with their places, counted from an index. -/
def numbered (index : Nat) (fields : List String) : List Field :=
  (fields.zipIdx index).map fun (typeRef, place) => ⟨place, Text.strip typeRef⟩

theorem fieldFlaw_cons (index : Nat) (typeRef : String) (rest : List String)
    (cause : Malformation) :
    FieldFlaw index (typeRef :: rest) cause ↔
      Text.strip typeRef = "" ∧ cause = .blankField index ∨
        Text.strip typeRef ≠ "" ∧ FieldFlaw (index + 1) rest cause := by
  constructor
  · rintro ⟨earlier, blank, later, split, good, empty, rfl⟩
    cases earlier with
    | nil =>
        simp only [List.nil_append] at split
        injection split with sameHead _
        exact Or.inl ⟨sameHead ▸ empty, by simp⟩
    | cons first others =>
        simp only [List.cons_append] at split
        injection split with sameHead sameTail
        refine Or.inr ⟨sameHead ▸ good first List.mem_cons_self, others, blank, later, sameTail,
          fun field member => good field (List.mem_cons_of_mem first member), empty, ?_⟩
        rw [List.length_cons, Nat.add_right_comm, Nat.add_assoc]
  · rintro (⟨empty, rfl⟩ | ⟨notEmpty, earlier, blank, later, split, good, empty, rfl⟩)
    · exact ⟨[], typeRef, rest, rfl, by simp [FieldsSuit], empty, by simp⟩
    · refine ⟨typeRef :: earlier, blank, later, by simp [split], ?_, empty, ?_⟩
      · intro field member
        rcases List.mem_cons.mp member with rfl | member
        · exact notEmpty
        · exact good field member
      · rw [List.length_cons, Nat.add_right_comm, Nat.add_assoc]

theorem judges_numberFields (variant : String) (index : Nat) (fields : List String) :
    Judges (numberFields variant index fields) (FieldsSuit fields) (numbered index fields)
      (blamedOn variant (FieldFlaw index fields)) := by
  induction fields generalizing index with
  | nil =>
      refine (Judges.ok []).reworded ?_ (fun _ => rfl) ?_
      · simp [FieldsSuit]
      · intro answer
        simp [blamedOn, FieldFlaw]
  | cons typeRef rest inductionHypothesis =>
      have later := (inductionHypothesis (index + 1)).map fun fields =>
        (⟨index, Text.strip typeRef⟩ : Field) :: fields
      have run := Judges.guarded (Text.isAllBlank typeRef = true)
        (.malformed (.blankField index) variant) fun _ => later
      refine run.reworded ?_ (fun _ => rfl) ?_
      · simp [FieldsSuit, Text.strip_eq_empty_iff]
      · intro answer
        simp only [blamedOn, fieldFlaw_cons, ne_eq, Text.strip_eq_empty_iff]
        constructor
        · rintro (⟨blank, rfl⟩ | ⟨passes, cause, flaw, rfl⟩)
          · exact ⟨_, Or.inl ⟨blank, rfl⟩, rfl⟩
          · exact ⟨cause, Or.inr ⟨passes, flaw⟩, rfl⟩
        · rintro ⟨cause, ⟨blank, rfl⟩ | ⟨passes, flaw⟩, rfl⟩
          · exact Or.inl ⟨blank, rfl⟩
          · exact Or.inr ⟨passes, cause, flaw, rfl⟩

/-! ## Whole variants -/

namespace VariantDeclaration

theorem judges_flattenAnnotations (declared : VariantDeclaration) :
    Judges declared.flattenAnnotations (EntriesSuit declared.entries)
      (.ofEntries declared.entries)
      (blamedOn declared.name (AnnotationFlaw declared.entries)) := by
  have run := Judges.foldlM entriesSuit_append_singleton (judges_addEntry declared.name)
    declared.entries [] .nil
  refine run.reworded (by simp) (fun _ => by simp) ?_
  intro answer
  simp only [List.nil_append, blamedOn, AnnotationFlaw]
  constructor
  · rintro ⟨earlier, entry, later, split, suit, cause, flaw, rfl⟩
    exact ⟨cause, ⟨earlier, entry, later, split, suit, flaw⟩, rfl⟩
  · rintro ⟨cause, ⟨earlier, entry, later, split, suit, flaw⟩, rfl⟩
    exact ⟨earlier, entry, later, split, suit, cause, flaw, rfl⟩

/-- A declared variant whose shape, fields and annotations are acceptable. -/
structure Suits (declared : VariantDeclaration) : Prop where
  shape : declared.ShapeSuits
  fields : FieldsSuit declared.fields
  annotations : EntriesSuit declared.entries

/-- The first thing wrong with the shape, the fields or the annotations, in this order. -/
inductive Flaw (declared : VariantDeclaration) (cause : Malformation) : Prop
  | shape : declared.ShapeFlaw cause → Flaw declared cause
  | field : declared.ShapeSuits → FieldFlaw 0 declared.fields cause → Flaw declared cause
  | entry :
      declared.ShapeSuits → FieldsSuit declared.fields →
      AnnotationFlaw declared.entries cause → Flaw declared cause

/-- The variant that an acceptable declaration stands for. -/
def form (declared : VariantDeclaration) : Variant where
  name := declared.name
  shape := declared.formShape
  fields := numbered 0 declared.fields
  annotations := .ofEntries declared.entries

theorem judges_toVariant (declared : VariantDeclaration) :
    Judges declared.toVariant declared.Suits declared.form
      (blamedOn declared.name declared.Flaw) := by
  have annotated := declared.judges_flattenAnnotations.map
    (Variant.mk declared.name declared.formShape (numbered 0 declared.fields))
  have fielded := (judges_numberFields declared.name 0 declared.fields).bind
    (fun fields => declared.flattenAnnotations >>= fun annotations =>
      .ok (Variant.mk declared.name declared.formShape fields annotations))
    fun _ => annotated
  have run := declared.judges_resolveShape.bind
    (fun shape => numberFields declared.name 0 declared.fields >>= fun fields =>
      declared.flattenAnnotations >>= fun annotations =>
        .ok (Variant.mk declared.name shape fields annotations))
    fun _ => fielded
  refine run.reworded ?_ (fun _ => rfl) ?_
  · constructor
    · rintro ⟨shape, fields, annotations⟩
      exact ⟨shape, fields, annotations⟩
    · rintro ⟨shape, fields, annotations⟩
      exact ⟨shape, fields, annotations⟩
  · intro answer
    constructor
    · rintro (⟨cause, flaw, rfl⟩ | ⟨shape, ⟨cause, flaw, rfl⟩ | ⟨fields, cause, flaw, rfl⟩⟩)
      · exact ⟨cause, .shape flaw, rfl⟩
      · exact ⟨cause, .field shape flaw, rfl⟩
      · exact ⟨cause, .entry shape fields flaw, rfl⟩
    · rintro ⟨cause, flaw, rfl⟩
      cases flaw with
      | shape flaw =>
          exact Or.inl ⟨cause, flaw, rfl⟩
      | field shape flaw =>
          exact Or.inr ⟨shape, Or.inl ⟨cause, flaw, rfl⟩⟩
      | entry shape fields flaw =>
          exact Or.inr ⟨shape, Or.inr ⟨fields, cause, flaw, rfl⟩⟩

end VariantDeclaration

/-! ## All variants of a type -/

/-- Declared variants that are acceptable beside one another and beside the names `taken`. -/
structure VariantsSuit (taken : List String) (declared : List VariantDeclaration) : Prop where
  identifiers : ∀ variant ∈ declared, Text.isIdentifier variant.name = true
  distinct : (declared.map VariantDeclaration.name).Nodup
  fresh : ∀ variant ∈ declared, variant.name ∉ taken
  suit : ∀ variant ∈ declared, variant.Suits

/-- The fault of a variant that is declared after the names `taken`. -/
inductive VariantFault (taken : List String) (declared : VariantDeclaration) : Fault → Prop
  | name :
      Text.isIdentifier declared.name = false →
      VariantFault taken declared (.malformed (.invalidVariantName declared.name) none)
  | repeated :
      Text.isIdentifier declared.name = true → declared.name ∈ taken →
      VariantFault taken declared (.malformed .repeatedVariant declared.name)
  | inside (cause : Malformation) :
      Text.isIdentifier declared.name = true → declared.name ∉ taken → declared.Flaw cause →
      VariantFault taken declared (.malformed cause declared.name)

theorem variantsSuit_cons
    (taken : List String) (head : VariantDeclaration) (tail : List VariantDeclaration) :
    VariantsSuit taken (head :: tail) ↔
      Text.isIdentifier head.name = true ∧ head.name ∉ taken ∧ head.Suits ∧
        VariantsSuit (head.name :: taken) tail := by
  constructor
  · rintro ⟨identifiers, distinct, fresh, suit⟩
    rw [List.map_cons, List.nodup_cons] at distinct
    refine ⟨identifiers head List.mem_cons_self, fresh head List.mem_cons_self,
      suit head List.mem_cons_self, ?_, distinct.2, ?_, ?_⟩
    · exact fun variant member => identifiers variant (List.mem_cons_of_mem head member)
    · intro variant member taken
      rcases List.mem_cons.mp taken with same | earlier
      · exact distinct.1 (same ▸ List.mem_map_of_mem member)
      · exact fresh variant (List.mem_cons_of_mem head member) earlier
    · exact fun variant member => suit variant (List.mem_cons_of_mem head member)
  · rintro ⟨identifier, isFresh, suits, identifiers, distinct, fresh, suit⟩
    refine ⟨?_, ?_, ?_, ?_⟩
    · exact List.forall_mem_cons.mpr ⟨identifier, identifiers⟩
    · rw [List.map_cons, List.nodup_cons]
      refine ⟨?_, distinct⟩
      intro member
      obtain ⟨variant, member, same⟩ := List.mem_map.mp member
      exact fresh variant member (same ▸ List.mem_cons_self)
    · refine List.forall_mem_cons.mpr ⟨isFresh, ?_⟩
      exact fun variant member earlier =>
        fresh variant member (List.mem_cons_of_mem head.name earlier)
    · exact List.forall_mem_cons.mpr ⟨suits, suit⟩

/-- The fault of the first declared variant that is not acceptable after those before it. -/
def FirstVariantFault (taken : List String) (declared : List VariantDeclaration)
    (answer : Fault) : Prop :=
  ∃ earlier flawed later, declared = earlier ++ flawed :: later ∧ VariantsSuit taken earlier ∧
    VariantFault (earlier.map VariantDeclaration.name ++ taken) flawed answer

theorem VariantFault.congr
    {taken other : List String} {declared : VariantDeclaration} {answer : Fault}
    (fault : VariantFault taken declared answer) (same : ∀ name, name ∈ taken ↔ name ∈ other) :
    VariantFault other declared answer := by
  cases fault with
  | name invalid =>
      exact .name invalid
  | repeated identifier member =>
      exact .repeated identifier ((same _).mp member)
  | inside cause identifier isFresh flaw =>
      exact .inside cause identifier (fun member => isFresh ((same _).mpr member)) flaw

theorem firstVariantFault_cons
    (taken : List String) (head : VariantDeclaration) (tail : List VariantDeclaration)
    (answer : Fault) :
    FirstVariantFault taken (head :: tail) answer ↔
      VariantFault taken head answer ∨
        (Text.isIdentifier head.name = true ∧ head.name ∉ taken ∧ head.Suits) ∧
          FirstVariantFault (head.name :: taken) tail answer := by
  constructor
  · rintro ⟨earlier, flawed, later, split, good, fault⟩
    cases earlier with
    | nil =>
        simp only [List.nil_append] at split
        injection split with sameHead _
        exact Or.inl (by simpa [sameHead] using fault)
    | cons first rest =>
        simp only [List.cons_append] at split
        injection split with sameHead sameTail
        subst sameHead
        obtain ⟨identifier, isFresh, suits, restGood⟩ := (variantsSuit_cons _ _ _).mp good
        refine Or.inr ⟨⟨identifier, isFresh, suits⟩, rest, flawed, later, sameTail, restGood, ?_⟩
        refine fault.congr fun name => ?_
        simp only [List.map_cons, List.cons_append, List.mem_cons, List.mem_append]
        exact or_left_comm
  · rintro (fault | ⟨⟨identifier, isFresh, suits⟩, earlier, flawed, later, split, good, fault⟩)
    · exact ⟨[], head, tail, rfl, ⟨by simp, by simp, by simp, by simp⟩, by simpa using fault⟩
    · refine ⟨head :: earlier, flawed, later, by simp [split],
        (variantsSuit_cons _ _ _).mpr ⟨identifier, isFresh, suits, good⟩, ?_⟩
      refine fault.congr fun name => ?_
      simp only [List.map_cons, List.cons_append, List.mem_cons, List.mem_append]
      exact or_left_comm

theorem judges_extractVariants (taken : List String) (declared : List VariantDeclaration) :
    Judges (extractVariants taken declared) (VariantsSuit taken declared)
      (declared.map VariantDeclaration.form) (FirstVariantFault taken declared) := by
  induction declared generalizing taken with
  | nil =>
      refine (Judges.ok []).reworded ?_ (fun _ => rfl) ?_
      · exact ⟨fun _ => ⟨by simp, by simp, by simp, by simp⟩, fun _ => trivial⟩
      · intro answer
        simp [FirstVariantFault]
  | cons head tail inductionHypothesis =>
      have rest := (inductionHypothesis (head.name :: taken)).map fun variants =>
        head.form :: variants
      have inside := head.judges_toVariant.bind
        (fun variant => extractVariants (head.name :: taken) tail >>= fun variants =>
          .ok (variant :: variants))
        fun _ => rest
      have named := Judges.guarded (taken.contains head.name = true)
        (.malformed .repeatedVariant head.name) fun _ => inside
      have run := Judges.guarded ((!Text.isIdentifier head.name) = true)
        (.malformed (.invalidVariantName head.name) none) fun _ => named
      refine run.reworded ?_ (fun _ => rfl) ?_
      · simp [variantsSuit_cons]
      · intro answer
        simp only [firstVariantFault_cons, Bool.not_eq_true', List.contains_iff_mem,
          Bool.not_eq_false]
        constructor
        · rintro (⟨invalid, rfl⟩ | ⟨identifier, ⟨member, rfl⟩ |
            ⟨isFresh, ⟨cause, flaw, rfl⟩ | ⟨suits, later⟩⟩⟩)
          · exact Or.inl (.name invalid)
          · exact Or.inl (.repeated identifier member)
          · exact Or.inl (.inside cause identifier isFresh flaw)
          · exact Or.inr ⟨⟨identifier, isFresh, suits⟩, later⟩
        · rintro (fault | ⟨⟨identifier, isFresh, suits⟩, later⟩)
          · cases fault with
            | name invalid =>
                exact Or.inl ⟨invalid, rfl⟩
            | repeated identifier member =>
                exact Or.inr ⟨identifier, Or.inl ⟨member, rfl⟩⟩
            | inside cause identifier isFresh flaw =>
                exact Or.inr ⟨identifier, Or.inr ⟨isFresh, Or.inl ⟨cause, flaw, rfl⟩⟩⟩
          · exact Or.inr ⟨identifier, Or.inr ⟨isFresh, Or.inr ⟨suits, later⟩⟩⟩

end ErrorDerive
