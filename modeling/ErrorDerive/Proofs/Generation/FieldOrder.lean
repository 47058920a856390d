import ErrorDerive.Proofs.Generation.AnnotationGroups
import ErrorDerive.Proofs.Generation.Comparison
import ErrorDerive.Proofs.Loading.SetOrder

/-!
# The order of fields

Two processes that load one declaration file derive the same code, although the fields of a variant
may be in another order in each.  Where there is more than one field, only their number counts.

* `Variant.Alike` and `Policy.Alike` relate what stands for one declared variant;
* `Generation.Alike` relates what is derived for one type;
* `generate_alike` says that related declarations give code alike.
-/

namespace ErrorDerive

open Schema

variable {order other : SetOrder}

/-- The texts of the fields of a variant, as two processes load them: the same, or those of the
items of one set. -/
inductive TextsAlike (order other : SetOrder) : List String → List String → Prop
  | same (texts : List String) : TextsAlike order other texts texts
  | set (items : List Value) {fields fieldsTaken : List String} :
      List.Forall₂ (fun item field => readText item = .accepted field)
        (order.arrange items) fields →
      List.Forall₂ (fun item field => readText item = .accepted field) (other.arrange items)
        fieldsTaken →
      TextsAlike order other (fields.map Text.strip) (fieldsTaken.map Text.strip)

theorem Schema.RowAlike.texts {fields fieldsTaken : List String}
    (alike : RowAlike order other readText Eq fields fieldsTaken) :
    TextsAlike order other (fields.map Text.strip) (fieldsTaken.map Text.strip) := by
  cases alike with
  | items pairs =>
      rw [List.forall₂_eq_eq_eq] at pairs
      rw [pairs]
      exact .same _
  | set items accepted acceptedTaken => exact .set items accepted acceptedTaken

/-! ## Variants -/

/-- Variants that are the same, but for the order of their fields. -/
structure Variant.Alike (left right : Variant) : Prop where
  name : left.name = right.name
  shape : left.shape = right.shape
  annotations : left.annotations = right.annotations
  places : left.fields.map Field.index = right.fields.map Field.index
  texts : (left.fields.map Field.typeRef).Perm (right.fields.map Field.typeRef)

namespace Variant.Alike

variable {left right : Variant} (alike : left.Alike right)

include alike

theorem length_eq : left.fields.length = right.fields.length := by
  have lengths := congrArg List.length alike.places
  simpa using lengths

theorem fields_eq (sole : left.fields.length = 1) : left.fields = right.fields := by
  obtain ⟨field, isField⟩ := List.length_eq_one_iff.mp sole
  obtain ⟨fieldTaken, isTaken⟩ := List.length_eq_one_iff.mp (alike.length_eq ▸ sole)
  have places := alike.places
  have texts := alike.texts
  rw [isField, isTaken] at places texts
  simp only [List.map_cons, List.map_nil, List.cons.injEq, and_true] at places
  simp only [List.map_cons, List.map_nil, List.perm_singleton, List.cons.injEq, and_true] at texts
  rw [isField, isTaken]
  cases field
  cases fieldTaken
  simp_all

theorem soleField?_eq : left.soleField? = right.soleField? := by
  by_cases sole : left.fields.length = 1
  · unfold soleField?
    rw [alike.fields_eq sole]
  · have absent {variant : Variant} (many : variant.fields.length ≠ 1) :
        variant.soleField? = none := by
      rw [← Option.not_isSome_iff_eq_none, variant.isSome_soleField?]
      exact many
    rw [absent sole, absent (alike.length_eq ▸ sole)]

variable {settings taken : Settings} (sameSettings : settings.Alike taken)

include sameSettings

omit alike in
theorem isErrorLike_eq (typeRef : String) :
    isErrorLike settings typeRef = isErrorLike taken typeRef := by
  unfold isErrorLike
  rw [sameSettings.sameMatch]
  simp only [sameSettings.names.contains_eq]

theorem wrapsCause_eq : left.wrapsCause settings = right.wrapsCause taken := by
  unfold wrapsCause infersCause
  simp only [isErrorLike_eq sameSettings]
  rw [alike.annotations, alike.soleField?_eq]

theorem asksConversion_eq : left.asksConversion settings = right.asksConversion taken := by
  unfold asksConversion
  rw [alike.annotations, alike.length_eq, alike.wrapsCause_eq sameSettings]

theorem resolveDisplay_eq : left.resolveDisplay settings = right.resolveDisplay taken := by
  have placeholders : left.fields.map (fun _ => placeholder) =
      right.fields.map fun _ => placeholder := by
    rw [List.map_const', List.map_const', alike.length_eq]
  have sameEmpty : left.fields.isEmpty = right.fields.isEmpty := by
    rw [Bool.eq_iff_iff, List.isEmpty_iff_length_eq_zero, List.isEmpty_iff_length_eq_zero,
      alike.length_eq]
  unfold resolveDisplay defaultDisplay
  rw [alike.annotations, alike.name, placeholders, sameEmpty, sameSettings.delimiter]

end Variant.Alike

/-! ## Declared variants -/

theorem map_index_numbered (index : Nat) (fields : List String) :
    (numbered index fields).map Field.index =
      (List.range' index fields.length).map Int.ofNat := by
  rw [← List.zipIdx_map_snd index fields, numbered, List.map_map, List.map_map]
  rfl

theorem map_typeRef_numbered (index : Nat) (fields : List String) :
    (numbered index fields).map Field.typeRef = fields.map Text.strip := by
  have first : fields.map Text.strip = ((fields.zipIdx index).map Prod.fst).map Text.strip := by
    rw [List.zipIdx_map_fst]
  rw [first, numbered, List.map_map, List.map_map]
  rfl

theorem AnnotationKey.Takes.eq_of_resembles {key : AnnotationKey} {value taken : Value}
    (takes : key.Takes value) (alike : Value.Resembles order other value taken) :
    value = taken := by
  cases key with
  | formatStr =>
      obtain ⟨content, rfl⟩ := takes
      cases alike
      rfl
  | makeFrom | err =>
      obtain ⟨flag, rfl⟩ := takes
      cases alike
      rfl

/-- Annotations that can stand together hold no sets, so they are the same where they are alike. -/
theorem eq_of_groupAlike {entries taken : AnnotationGroup}
    (alike : GroupAlike order other entries taken)
    (known : ∀ entry ∈ entries, ∃ key, AnnotationKey.name key = entry.1 ∧ key.Takes entry.2) :
    entries = taken := by
  induction alike with
  | nil => rfl
  | @cons entry entryTaken _ _ pair _ inductionHypothesis =>
      obtain ⟨first, rest⟩ := List.forall_mem_cons.mp known
      obtain ⟨key, _, takes⟩ := first
      rw [inductionHypothesis rest, Prod.ext pair.1 (takes.eq_of_resembles pair.2)]

namespace VariantDeclaration.Alike

variable {left right : VariantDeclaration} (alike : left.Alike order other right)

include alike

/-- Annotations that can stand together are the same in both, up to their order. -/
theorem entries_perm (suit : EntriesSuit left.entries) : left.entries.Perm right.entries := by
  obtain ⟨middle, rearranged, pairs⟩ := alike.annotations.exists_perm fun group =>
    List.forall₂_same.mpr fun entry _ => ⟨rfl, .refl entry.2⟩
  have flat : left.entries.Perm middle.flatten := rearranged.flatten
  have same : middle.flatten = right.entries :=
    eq_of_groupAlike (List.rel_flatten pairs) (suit.perm flat).known
  rwa [same] at flat

theorem suits (suits : left.Suits) : right.Suits where
  shape := by
    obtain ⟨notStruct, unitIsEmpty⟩ := suits.shape
    rw [alike.shape] at notStruct unitIsEmpty
    refine ⟨notStruct, fun isUnit => ?_⟩
    have nothing := alike.fields.perm
    rw [unitIsEmpty isUnit] at nothing
    exact nothing.symm.eq_nil
  fields := by
    intro field member
    exact suits.fields field (alike.fields.perm.mem_iff.mpr member)
  annotations := suits.annotations.perm (alike.entries_perm suits.annotations)

theorem flagsSuit (suits : left.Suits) (flags : left.FlagsSuit) : right.FlagsSuit := by
  intro flagged
  have rearranged := alike.entries_perm suits.annotations
  rw [Flagged, Flagged, ← rearranged.mem_iff, ← rearranged.mem_iff] at flagged
  rw [← alike.fields.perm.length_eq]
  exact flags flagged

theorem form (suits : left.Suits) : left.form.Alike right.form where
  name := alike.name
  shape := by
    have sameEmpty : left.fields = [] ↔ right.fields = [] := by
      rw [← List.length_eq_zero_iff, alike.fields.perm.length_eq, List.length_eq_zero_iff]
    unfold VariantDeclaration.form formShape
    simp only [alike.shape, sameEmpty]
  annotations :=
    suits.annotations.ofEntries_eq_of_perm (alike.entries_perm suits.annotations)
  places := by
    unfold VariantDeclaration.form
    rw [map_index_numbered, map_index_numbered, alike.fields.perm.length_eq]
  texts := by
    unfold VariantDeclaration.form
    rw [map_typeRef_numbered, map_typeRef_numbered]
    exact alike.fields.perm.map Text.strip

end VariantDeclaration.Alike

/-! ## Policies -/

theorem Json.texts_injective : Function.Injective Json.texts := by
  intro left right same
  exact List.map_injective_iff.mpr (fun _ _ => Json.text.inj) (Json.list.inj same)

/-- The texts of the fields that a policy is about. -/
def Policy.fieldTexts (policy : Policy) : List String :=
  policy.variant.fields.map Field.typeRef

/-- Policies that decide the same, about fields that may be in another order. -/
structure Policy.Alike (order other : SetOrder) (left right : Policy) : Prop where
  name : left.name = right.name
  shape : left.variant.shape = right.variant.shape
  display : left.display = right.display
  isCause : left.isCause = right.isCause
  makeFrom : left.makeFrom = right.makeFrom
  places : left.variant.fields.map Field.index = right.variant.fields.map Field.index
  texts : TextsAlike order other left.fieldTexts right.fieldTexts
  sole : left.makeFrom = true → left.variant.fields = right.variant.fields

theorem VariantDeclaration.Alike.policy {left right : VariantDeclaration}
    (alike : left.Alike order other right) (suits : left.Suits) (flags : left.FlagsSuit)
    {settings taken : Settings} (sameSettings : settings.Alike taken) :
    (left.policy settings).Alike order other (right.policy taken) := by
  have forms := alike.form suits
  refine ⟨forms.name, forms.shape, forms.resolveDisplay_eq sameSettings,
    forms.wrapsCause_eq sameSettings, forms.asksConversion_eq sameSettings, forms.places, ?_, ?_⟩
  · have texts := alike.fields.texts
    rw [← map_typeRef_numbered 0, ← map_typeRef_numbered 0] at texts
    exact texts
  · intro asks
    exact forms.fields_eq ((suits.eligible_iff.mpr flags).length_of_asksConversion asks)

namespace Policy.Alike

variable {left right : Policy} (alike : left.Alike order other right)

include alike

theorem displayBranch_eq : left.displayBranch = right.displayBranch := by
  have bindings : left.bindings = right.bindings := by
    have named := congrArg (List.map fun index => "f" ++ toString index) alike.places
    rw [List.map_map, List.map_map] at named
    exact named
  unfold Policy.displayBranch
  rw [alike.name, alike.shape, alike.display, bindings]

theorem sourceBranch_eq : left.sourceBranch = right.sourceBranch := by
  have lengths := congrArg List.length alike.places
  rw [List.length_map, List.length_map] at lengths
  unfold Policy.sourceBranch
  rw [alike.name, alike.shape, alike.isCause, lengths]

theorem fromFirstField_eq (asks : left.makeFrom = true) :
    left.fromFirstField = right.fromFirstField := by
  unfold Policy.fromFirstField
  rw [alike.name, alike.sole asks]

/-- The rows of two such policies differ by their fields only. -/
theorem toRow_eq_iff : left.toRow = right.toRow ↔ left.fieldTexts = right.fieldTexts := by
  unfold Policy.toRow
  rw [alike.name, alike.display, alike.isCause, alike.makeFrom]
  constructor
  · intro same
    simp only [Json.object.injEq, List.cons.injEq, Prod.mk.injEq, true_and, and_true] at same
    exact Json.texts_injective same
  · intro same
    unfold fieldTexts at same
    rw [same]

end Policy.Alike

theorem asked_eq_of_alike {left right : List Policy}
    (alike : List.Forall₂ (Policy.Alike order other) left right) :
    (left.filter Policy.makeFrom).map Policy.fromFirstField =
      (right.filter Policy.makeFrom).map Policy.fromFirstField := by
  induction alike with
  | nil => rfl
  | @cons first second _ _ pair _ inductionHypothesis =>
      rw [List.filter_cons, List.filter_cons, ← pair.makeFrom]
      by_cases asks : first.makeFrom = true
      · rw [if_pos asks, if_pos asks, List.map_cons, List.map_cons, pair.fromFirstField_eq asks,
          inductionHypothesis]
      · rw [if_neg asks, if_neg asks]
        exact inductionHypothesis

/-! ## Generations -/

/-- Generations that give the same code, about fields that may be in another order. -/
structure Generation.Alike (order other : SetOrder) (left right : Generation) : Prop where
  typeName : left.typeName = right.typeName
  policies : List.Forall₂ (Policy.Alike order other) left.policies right.policies
  display : left.display = right.display
  source : left.source = right.source
  conversions : left.conversions = right.conversions

/-- The texts of the fields of each variant. -/
def Generation.fieldTexts (generation : Generation) : List (List String) :=
  generation.policies.map Policy.fieldTexts

namespace Generation.Alike

variable {left right : Generation} (alike : left.Alike order other right)

include alike

theorem render_eq : Rust.render left = Rust.render right := by
  unfold Rust.render Rust.items
  rw [alike.typeName, alike.display, alike.source, alike.conversions]

/-- The tables of two such generations differ by the fields only. -/
theorem toTable_eq_iff : left.toTable = right.toTable ↔ left.fieldTexts = right.fieldTexts := by
  have sameRows : left.policies.map Policy.toRow = right.policies.map Policy.toRow ↔
      left.fieldTexts = right.fieldTexts :=
    map_eq_map_iff_of_forall₂ alike.policies fun _ _ pair => pair.toRow_eq_iff
  unfold Generation.toTable
  rw [alike.typeName, alike.conversions, ← sameRows]
  constructor
  · intro same
    simp only [Json.object.injEq, List.cons.injEq, Prod.mk.injEq, true_and, and_true,
      Json.list.injEq] at same
    exact same
  · intro same
    rw [same]

theorem texts :
    List.Forall₂ (TextsAlike order other) left.fieldTexts right.fieldTexts :=
  List.rel_map (fun _ _ pair => pair.texts) alike.policies

end Generation.Alike

section

variable {settings taken : Settings} {left right : TypeDeclaration}

theorem TypeDeclaration.Alike.sound (alike : left.Alike order other right) (sound : left.Sound) :
    right.Sound where
  isEnum := alike.kind ▸ sound.isEnum
  isNamed := alike.name ▸ sound.isNamed
  variants := by
    have names : left.variants.map VariantDeclaration.name =
        right.variants.map VariantDeclaration.name :=
      map_eq_of_forall₂ alike.variants fun _ _ pair => pair.name
    refine ⟨?_, names ▸ sound.variants.distinct, fun _ _ => List.not_mem_nil, ?_⟩
    · exact forall_mem_of_forall₂ alike.variants sound.variants.identifiers
        fun _ _ pair identifier => pair.name ▸ identifier
    · exact forall_mem_of_forall₂ alike.variants sound.variants.suit
        fun _ _ pair suits => pair.suits suits
  flags := by
    have sounds : ∀ declared ∈ left.variants, declared.Suits ∧ declared.FlagsSuit :=
      fun declared member => ⟨sound.variants.suit declared member, sound.flags declared member⟩
    exact forall_mem_of_forall₂ alike.variants sounds
      fun _ _ pair both => pair.flagsSuit both.1 both.2

theorem TypeDeclaration.Alike.policies (sameSettings : settings.Alike taken)
    (alike : left.Alike order other right) (sound : left.Sound) :
    List.Forall₂ (Policy.Alike order other) (left.policies settings) (right.policies taken) := by
  have pairs := List.forall₂_and_left _ _ |>.mpr ⟨sound.flags, alike.variants⟩
  have sounds := List.forall₂_and_left _ _ |>.mpr ⟨sound.variants.suit, pairs⟩
  exact List.rel_map (fun _ _ pair => pair.2.2.policy pair.1 pair.2.1 sameSettings) sounds

/-- Related declarations give code alike. -/
theorem generate_alike (sameSettings : settings.Alike taken)
    (alike : left.Alike order other right) {generation : Generation}
    (generated : generate settings left = .ok generation) :
    ∃ generationTaken, generate taken right = .ok generationTaken ∧
      generation.Alike order other generationTaken := by
  obtain ⟨⟨sound, unambiguous⟩, rfl⟩ := (judges_generate settings left).eq_ok_iff.mp generated
  have soundTaken := alike.sound sound
  have policies := alike.policies sameSettings sound
  have conversions : left.formConversions settings = right.formConversions taken :=
    asked_eq_of_alike policies
  have unambiguousTaken : right.Unambiguous taken := by
    rw [← soundTaken.nodup_sources_iff, ← conversions, sound.nodup_sources_iff]
    exact unambiguous
  refine ⟨right.generation taken, (judges_generate taken right).succeeds
    ⟨soundTaken, unambiguousTaken⟩, ?_⟩
  exact ⟨alike.name, policies, map_eq_of_forall₂ policies fun _ _ pair => pair.displayBranch_eq,
    map_eq_of_forall₂ policies fun _ _ pair => pair.sourceBranch_eq, conversions⟩

end

end ErrorDerive
