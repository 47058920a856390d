import ErrorDerive.Proofs.Generation.Outcome

/-!
# Branches of a generated declaration

What the policy and the two branches of a declared variant are in terms of the declaration, and
that they stand in a generation in the order of the declared variants.
-/

namespace ErrorDerive

namespace VariantDeclaration

/-- The names bound to the fields of a declared variant are numbered. -/
theorem bindings_policy (settings : Settings) (declared : VariantDeclaration) :
    (declared.policy settings).bindings = fieldNames declared.fields.length := by
  have places : declared.fields.zipIdx.map Prod.snd = List.range declared.fields.length := by
    rw [List.zipIdx_map_snd, List.range_eq_range']
  show (numbered 0 declared.fields).map (fun field => "f" ++ toString field.index) = _
  rw [fieldNames, ← places, numbered, List.map_map, List.map_map]
  rfl

theorem Suits.formShape_cases {declared : VariantDeclaration} (suits : declared.Suits) :
    declared.formShape = .unit ∧ declared.fields = [] ∨ declared.formShape = .tuple := by
  unfold formShape
  cases shape : declared.shape with
  | none =>
      by_cases empty : declared.fields = []
      · exact Or.inl ⟨by simp [empty], empty⟩
      · exact Or.inr (by simp [empty])
  | some given =>
      cases given with
      | unit =>
          exact Or.inl ⟨rfl, suits.shape.unitIsEmpty shape⟩
      | tuple =>
          exact Or.inr rfl
      | struct =>
          exact absurd shape suits.shape.notStruct

end VariantDeclaration

/-- What is generated is determined by the declaration, which is sound. -/
theorem generation_of_generate
    {settings : Settings} {declaration : TypeDeclaration} {generation : Generation}
    (generated : generate settings declaration = .ok generation) :
    declaration.Sound ∧ generation = declaration.generation settings := by
  obtain ⟨conditions, same⟩ := (judges_generate settings declaration).eq_ok_iff.mp generated
  exact ⟨conditions.1, same⟩

end ErrorDerive
