import ErrorDerive.Proofs.Generation.Bodies
import Mathlib.Data.List.Induction

/-!
# Conversions, group by group

What becomes of the policies that ask for a conversion, said in two ways.

* `ConversionEnd` puts it in terms of the row of these policies: the first one without exactly one
  field is refused; or else the first one that shares its source type with another is refused,
  together with all that share it; or else every one of them gives its own conversion.
* `conversionsByGroup` goes through all policies once and collects their conversions in groups, one
  for each source type, in the order in which the source types first occur.  Then it looks for a
  group with more than one member.

Blanks in a source type do not count.  `map_members_groupsOf` is the invariant of the single pass:
at any point, each group holds what has been seen from its source type, in order.
-/

namespace ErrorDerive

/-- The type of the first field of a policy, blanks apart. -/
def Policy.source (policy : Policy) : String :=
  policy.fromFirstField.source

/-- How the policies that ask for a conversion, given in order, come out. -/
inductive ConversionEnd (asking : List Policy) : Except Fault (List Conversion) → Prop
  /-- Some policy has another number of fields than one; the first such policy is named. -/
  | malformed (earlier later : List Policy) (flawed : Policy) :
      asking = earlier ++ flawed :: later →
      (∀ policy ∈ earlier, policy.variant.fields.length = 1) →
      flawed.variant.fields.length ≠ 1 →
      ConversionEnd asking (.error (.malformed .conversionWithoutSoleField flawed.name))
  /-- Some policy shares its source type with a later one, and none before it with any other; the
  message has its type as written, and the names of all that share it. -/
  | conflicting (earlier later : List Policy) (first : Policy) :
      (∀ policy ∈ asking, policy.variant.fields.length = 1) →
      asking = earlier ++ first :: later →
      first.source ∈ later.map Policy.source →
      (earlier.map Policy.source).Nodup →
      (earlier.map Policy.source).Disjoint ((first :: later).map Policy.source) →
      ConversionEnd asking (.error (.conflictingConversion first.fromFirstField.sourceType
        ((asking.filter fun policy => first.source == policy.source).map Policy.name)))
  /-- No two policies share a source type. -/
  | derived :
      (∀ policy ∈ asking, policy.variant.fields.length = 1) →
      (asking.map Policy.source).Nodup →
      ConversionEnd asking (.ok (asking.map Policy.fromFirstField))

/-! ## The first conflict in a row -/

/-- The first key that occurs again, by counting and by places. -/
private theorem firstRepeated_iff (before after : List String) (key : String) :
    (1 < (before ++ key :: after).count key ∧
      ∀ earlier ∈ before, ¬ 1 < (before ++ key :: after).count earlier) ↔
    key ∈ after ∧ before.Nodup ∧ before.Disjoint (key :: after) := by
  simp only [List.count_append]
  constructor
  · intro counted
    obtain ⟨repeated, single⟩ := counted
    have apart : before.Disjoint (key :: after) := by
      intro shared inBefore inRest
      have front := List.count_pos_iff.mpr inBefore
      have rest := List.count_pos_iff.mpr inRest
      have bound := single shared inBefore
      omega
    have absent : key ∉ before := fun member => apart member List.mem_cons_self
    have notBefore : before.count key = 0 := List.count_eq_zero_of_not_mem absent
    rw [notBefore, List.count_cons_self] at repeated
    refine ⟨List.count_pos_iff.mp (by omega), ?_, apart⟩
    rw [List.nodup_iff_count_le_one]
    intro earlier
    by_cases member : earlier ∈ before
    · have bound := single earlier member
      omega
    · rw [List.count_eq_zero_of_not_mem member]
      omega
  · intro placed
    obtain ⟨again, distinct, apart⟩ := placed
    have occurs := List.count_pos_iff.mpr again
    constructor
    · rw [List.count_cons_self]
      omega
    · intro earlier member
      have absent : earlier ∉ key :: after := fun inRest => apart member inRest
      have bound := List.nodup_iff_count_le_one.mp distinct earlier
      rw [List.count_eq_zero_of_not_mem absent]
      omega

theorem firstConflict?_eq_some_iff (all : List Conversion) (conflict : Conversion) :
    firstConflict? all = some conflict ↔
      ∃ before after, all = before ++ conflict :: after ∧
        conflict.source ∈ after.map Conversion.source ∧
        (before.map Conversion.source).Nodup ∧
        (before.map Conversion.source).Disjoint ((conflict :: after).map Conversion.source) := by
  have places : ∀ before after, all = before ++ conflict :: after →
      ((1 < (competitors all conflict).length ∧
          ∀ earlier ∈ before, ¬ 1 < (competitors all earlier).length) ↔
        conflict.source ∈ after.map Conversion.source ∧
        (before.map Conversion.source).Nodup ∧
        (before.map Conversion.source).Disjoint
          ((conflict :: after).map Conversion.source)) := by
    intro before after split
    have counts := firstRepeated_iff (before.map Conversion.source)
      (after.map Conversion.source) conflict.source
    simp only [length_competitors, split, List.map_append, List.map_cons]
    rw [List.forall_mem_map] at counts
    exact counts
  rw [firstConflict?, List.find?_eq_some_iff_append]
  simp only [decide_eq_true_eq, Bool.not_eq_true', decide_eq_false_iff_not]
  constructor
  · intro found
    obtain ⟨shared, before, after, split, single⟩ := found
    exact ⟨before, after, split, (places before after split).mp ⟨shared, single⟩⟩
  · intro placed
    obtain ⟨before, after, split, conditions⟩ := placed
    obtain ⟨shared, single⟩ := (places before after split).mpr conditions
    exact ⟨shared, before, after, split, single⟩

/-- The first conversion in conflict comes first among its competitors. -/
theorem head?_competitors_of_firstConflict?
    {all : List Conversion} {conflict : Conversion} (found : firstConflict? all = some conflict) :
    (competitors all conflict).head? = some conflict := by
  obtain ⟨before, after, split, _, _, apart⟩ := (firstConflict?_eq_some_iff all conflict).mp found
  have noneBefore : before.filter conflict.sameSource = [] := by
    rw [List.filter_eq_nil_iff]
    intro earlier member same
    have sameSource : conflict.source = earlier.source := beq_iff_eq.mp same
    exact apart (List.mem_map_of_mem member) (by simp [sameSource])
  have itself : conflict.sameSource conflict = true := beq_self_eq_true conflict.source
  rw [competitors, split, List.filter_append, noneBefore, List.filter_cons, if_pos itself]
  rfl

/-! ## The end of a synthesis -/

theorem firstConflict?_map_eq_some_iff (asking : List Policy) (conflict : Conversion) :
    firstConflict? (asking.map Policy.fromFirstField) = some conflict ↔
      ∃ earlier first later, asking = earlier ++ first :: later ∧
        first.fromFirstField = conflict ∧ first.source ∈ later.map Policy.source ∧
        (earlier.map Policy.source).Nodup ∧
        (earlier.map Policy.source).Disjoint ((first :: later).map Policy.source) := by
  have sources : ∀ part : List Policy,
      (part.map Policy.fromFirstField).map Conversion.source = part.map Policy.source := by
    intro part
    rw [List.map_map]
    rfl
  rw [firstConflict?_eq_some_iff]
  constructor
  · intro placed
    obtain ⟨before, after, split, again, distinct, apart⟩ := placed
    obtain ⟨earlier, rest, whole, rfl, sameRest⟩ := List.map_eq_append_iff.mp split
    obtain ⟨first, later, rfl, rfl, rfl⟩ := List.map_eq_cons_iff.mp sameRest
    rw [sources] at again distinct
    rw [← List.map_cons, sources, sources] at apart
    exact ⟨earlier, first, later, whole, rfl, again, distinct, apart⟩
  · intro placed
    obtain ⟨earlier, first, later, rfl, rfl, again, distinct, apart⟩ := placed
    refine ⟨earlier.map Policy.fromFirstField, later.map Policy.fromFirstField, ?_, ?_, ?_, ?_⟩
    · rw [List.map_append, List.map_cons]
    · rw [sources]
      exact again
    · rw [sources]
      exact distinct
    · rw [← List.map_cons, sources, sources]
      exact apart

theorem variants_competitors_map (asking : List Policy) (first : Policy) :
    (competitors (asking.map Policy.fromFirstField) first.fromFirstField).map Conversion.variant =
      (asking.filter fun policy => first.source == policy.source).map Policy.name := by
  rw [competitors, List.filter_map, List.map_map]
  rfl

/-- Every row of policies comes to one of the three ends. -/
theorem conversionEnd_conversions (policies : List Policy) :
    ConversionEnd (policies.filter Policy.makeFrom) (conversions policies) := by
  have judgement := judges_conversions policies
  rcases judgement.decides with ⟨sole, distinct⟩ | ⟨answer, flaw⟩
  · rw [judgement.succeeds ⟨sole, distinct⟩]
    rw [List.map_map] at distinct
    exact .derived sole distinct
  · rw [judgement.fails answer flaw]
    rcases flaw with ⟨earlier, flawed, later, split, good, many, rfl⟩ |
      ⟨sole, conflict, found, rfl⟩
    · exact .malformed earlier later flawed split good many
    · obtain ⟨earlier, first, later, split, rfl, again, distinct, apart⟩ :=
        (firstConflict?_map_eq_some_iff _ conflict).mp found
      rw [variants_competitors_map]
      exact .conflicting earlier later first sole split again distinct apart

/-- A row of policies comes to no other end than the one described. -/
theorem ConversionEnd.conversions_eq
    {policies : List Policy} {result : Except Fault (List Conversion)}
    (ending : ConversionEnd (policies.filter Policy.makeFrom) result) :
    conversions policies = result := by
  have judgement := judges_conversions policies
  cases ending with
  | malformed earlier later flawed split good many =>
      exact judgement.fails _ (Or.inl ⟨earlier, flawed, later, split, good, many, rfl⟩)
  | conflicting earlier later first sole split again distinct apart =>
      have found := (firstConflict?_map_eq_some_iff _ first.fromFirstField).mpr
        ⟨earlier, first, later, split, rfl, again, distinct, apart⟩
      rw [← variants_competitors_map]
      exact judgement.fails _ (Or.inr ⟨sole, first.fromFirstField, found, rfl⟩)
  | derived sole distinct =>
      refine judgement.succeeds ⟨sole, ?_⟩
      rw [List.map_map]
      exact distinct

/-! ## Groups -/

/-- The conversions from one source type, of which there is a first. -/
structure SourceGroup where
  first : Conversion
  others : List Conversion := []

namespace SourceGroup

def members (group : SourceGroup) : List Conversion :=
  group.first :: group.others

/-- A group with one more conversion at its end. -/
def join (group : SourceGroup) (conversion : Conversion) : SourceGroup :=
  { group with others := group.others ++ [conversion] }

theorem members_join (group : SourceGroup) (conversion : Conversion) :
    (group.join conversion).members = group.members ++ [conversion] := rfl

end SourceGroup

/-- Puts a conversion into the group of its source type, or behind all groups as a new one. -/
def addToGroups (conversion : Conversion) : List SourceGroup → List SourceGroup
  | [] => [⟨conversion, []⟩]
  | group :: rest =>
      if group.first.source = conversion.source then group.join conversion :: rest
      else group :: addToGroups conversion rest

/-- The groups with the conversion of one more policy, if the policy asks for one. -/
def collect (groups : List SourceGroup) (policy : Policy) : Except Fault (List SourceGroup) :=
  if policy.makeFrom then do
    let conversion ← policy.conversion
    return addToGroups conversion groups
  else .ok groups

/-- The first members of all groups, if none has a second member. -/
def soleMembers (groups : List SourceGroup) : Except Fault (List Conversion) :=
  match groups.find? fun group => 1 < group.members.length with
  | some group =>
    .error (.conflictingConversion group.first.sourceType (group.members.map Conversion.variant))
  | none => .ok (groups.map SourceGroup.first)

/-- The conversions of the policies that ask for one, collected in a single pass. -/
def conversionsByGroup (policies : List Policy) : Except Fault (List Conversion) := do
  let groups ← policies.foldlM collect []
  soleMembers groups

/-- The groups of conversions that were added one after the other. -/
def groupsOf (all : List Conversion) : List SourceGroup :=
  all.foldl (fun groups conversion => addToGroups conversion groups) []

/-- The conversions from a source type. -/
def conversionsFrom (all : List Conversion) (source : String) : List Conversion :=
  all.filter fun conversion => source == conversion.source

/-- The source types, in the order in which they first occur. -/
def sourcesOf (all : List Conversion) : List String :=
  (all.map Conversion.source).eraseDups

/-- The single pass stops where some policy without a sole field asks for a conversion, and groups
the conversions otherwise. -/
theorem foldlM_collect (policies : List Policy) (groups : List SourceGroup) :
    policies.foldlM collect groups =
      (policies.filter Policy.makeFrom).mapM Policy.conversion >>= fun all =>
        .ok (all.foldl (fun groups conversion => addToGroups conversion groups) groups) := by
  induction policies generalizing groups with
  | nil =>
      rfl
  | cons policy rest inductionHypothesis =>
      rw [List.foldlM_cons, List.filter_cons, collect]
      cases asks : policy.makeFrom with
      | false =>
          exact inductionHypothesis groups
      | true =>
          rw [if_pos rfl, if_pos rfl, List.mapM_cons]
          cases policy.conversion with
          | error fault =>
              rfl
          | ok conversion =>
              show rest.foldlM collect (addToGroups conversion groups) = _
              rw [inductionHypothesis]
              cases (rest.filter Policy.makeFrom).mapM Policy.conversion with
              | error fault =>
                  rfl
              | ok later =>
                  rfl

/-! ## The invariant of the single pass -/

theorem conversionsFrom_append_singleton (seen : List Conversion) (next : Conversion)
    (source : String) :
    conversionsFrom (seen ++ [next]) source =
      conversionsFrom seen source ++ if source = next.source then [next] else [] := by
  rw [conversionsFrom, List.filter_append, List.filter_singleton]
  by_cases same : source = next.source
  · simp [conversionsFrom, same]
  · simp [conversionsFrom, beq_false_of_ne same, same]

theorem mem_sourcesOf_iff (all : List Conversion) (source : String) :
    source ∈ sourcesOf all ↔ source ∈ all.map Conversion.source := by
  rw [sourcesOf, List.mem_eraseDups]

theorem sourcesOf_append_singleton (seen : List Conversion) (next : Conversion) :
    sourcesOf (seen ++ [next]) =
      if next.source ∈ sourcesOf seen then sourcesOf seen
      else sourcesOf seen ++ [next.source] := by
  have grows : sourcesOf (seen ++ [next]) =
      sourcesOf seen ++ ([next.source].removeAll (seen.map Conversion.source)).eraseDups := by
    rw [sourcesOf, List.map_append, List.eraseDups_append]
    rfl
  rw [grows]
  by_cases known : next.source ∈ sourcesOf seen
  · have member := (mem_sourcesOf_iff seen next.source).mp known
    have nothing : [next.source].removeAll (seen.map Conversion.source) = [] := by
      simpa [List.removeAll] using member
    rw [if_pos known, nothing]
    simp
  · have absent : next.source ∉ seen.map Conversion.source := fun member =>
      known ((mem_sourcesOf_iff seen next.source).mpr member)
    have itself : [next.source].removeAll (seen.map Conversion.source) = [next.source] := by
      simpa [List.removeAll] using absent
    rw [if_neg known, itself]
    simp [List.eraseDups_cons]

theorem nodup_sourcesOf (all : List Conversion) : (sourcesOf all).Nodup := by
  induction all using List.reverseRecOn with
  | nil =>
      exact List.nodup_nil
  | append_singleton seen next inductionHypothesis =>
      rw [sourcesOf_append_singleton]
      by_cases known : next.source ∈ sourcesOf seen
      · rw [if_pos known]
        exact inductionHypothesis
      · rw [if_neg known, ← List.concat_eq_append]
        exact inductionHypothesis.concat known

/-- Adding a conversion keeps the groups those of the source types seen. -/
theorem map_members_addToGroups
    {seen : List Conversion} {next : Conversion} {groups : List SourceGroup}
    {sources : List String}
    (described : groups.map SourceGroup.members = sources.map (conversionsFrom seen))
    (distinct : sources.Nodup)
    (complete : next.source ∉ sources → conversionsFrom seen next.source = []) :
    (addToGroups next groups).map SourceGroup.members =
      (if next.source ∈ sources then sources else sources ++ [next.source]).map
        (conversionsFrom (seen ++ [next])) := by
  induction groups generalizing sources with
  | nil =>
      have noSources : sources = [] := List.map_eq_nil_iff.mp described.symm
      subst noSources
      have nothing := complete List.not_mem_nil
      simp [addToGroups, SourceGroup.members, conversionsFrom_append_singleton, nothing]
  | cons group rest inductionHypothesis =>
      obtain ⟨source, others, rfl, sameGroup, sameRest⟩ :=
        List.map_eq_cons_iff.mp described.symm
      have ownSource : source = group.first.source := by
        have member : group.first ∈ conversionsFrom seen source := by
          rw [sameGroup]
          exact List.mem_cons_self
        exact beq_iff_eq.mp (List.mem_filter.mp member).2
      obtain ⟨absent, othersDistinct⟩ := List.nodup_cons.mp distinct
      rw [addToGroups]
      by_cases joins : group.first.source = next.source
      · have sameSource : source = next.source := ownSource.trans joins
        have unchanged : ∀ other ∈ others,
            conversionsFrom (seen ++ [next]) other = conversionsFrom seen other := by
          intro other member
          have different : other ≠ next.source := fun same =>
            absent (sameSource ▸ same ▸ member)
          rw [conversionsFrom_append_singleton, if_neg different, List.append_nil]
        rw [if_pos joins, if_pos (by simp [sameSource]), List.map_cons, List.map_cons,
          SourceGroup.members_join, ← sameGroup, conversionsFrom_append_singleton,
          if_pos sameSource, List.map_congr_left unchanged, sameRest]
      · have different : source ≠ next.source := fun same => joins (ownSource ▸ same)
        have unchanged : conversionsFrom (seen ++ [next]) source = group.members := by
          rw [conversionsFrom_append_singleton, if_neg different, List.append_nil, sameGroup]
        have later := inductionHypothesis sameRest.symm othersDistinct fun notLater =>
          complete (by simp [notLater, different.symm])
        rw [if_neg joins, List.map_cons, later]
        by_cases known : next.source ∈ others
        · rw [if_pos known, if_pos (List.mem_cons_of_mem source known), List.map_cons, unchanged]
        · rw [if_neg known, if_neg (by simp [known, different.symm]), List.cons_append,
            List.map_cons, unchanged]

/-- At any point of the single pass there is one group for each source type seen, and it holds what
has been seen from that source type, in order. -/
theorem map_members_groupsOf (all : List Conversion) :
    (groupsOf all).map SourceGroup.members = (sourcesOf all).map (conversionsFrom all) := by
  induction all using List.reverseRecOn with
  | nil =>
      rfl
  | append_singleton seen next inductionHypothesis =>
      have complete : next.source ∉ sourcesOf seen → conversionsFrom seen next.source = [] := by
        intro unseen
        rw [conversionsFrom, List.filter_eq_nil_iff]
        intro earlier member same
        have sameSource : next.source = earlier.source := beq_iff_eq.mp same
        apply unseen
        rw [mem_sourcesOf_iff, sameSource]
        exact List.mem_map_of_mem member
      rw [groupsOf, List.foldl_concat, sourcesOf_append_singleton]
      exact map_members_addToGroups inductionHypothesis (nodup_sourcesOf seen) complete

/-! ## Groups against the row -/

/-- The first source type that passes a test is that of the first conversion whose source type
passes it. -/
theorem find?_sourcesOf (test : String → Bool) (all : List Conversion) :
    (sourcesOf all).find? test =
      (all.find? fun conversion => test conversion.source).map Conversion.source := by
  induction all using List.reverseRecOn with
  | nil =>
      rfl
  | append_singleton seen next inductionHypothesis =>
      rw [sourcesOf_append_singleton, List.find?_append, Option.map_or, ← inductionHypothesis]
      by_cases known : next.source ∈ sourcesOf seen
      · rw [if_pos known]
        cases found : (sourcesOf seen).find? test with
        | some source =>
            rfl
        | none =>
            have fails := List.find?_eq_none.mp found next.source known
            simp [fails]
      · rw [if_neg known, List.find?_append]
        congr 1
        cases passes : test next.source with
        | false =>
            simp [passes]
        | true =>
            simp [passes]

/-- The first group with two members is that of the first conflict. -/
theorem find?_groupsOf (all : List Conversion) :
    ((groupsOf all).find? fun group => 1 < group.members.length).map SourceGroup.members =
      (firstConflict? all).map (competitors all) := by
  have onMembers := List.find?_map (f := SourceGroup.members) (l := groupsOf all)
    (p := fun members => decide (1 < members.length))
  have onSources := List.find?_map (f := conversionsFrom all) (l := sourcesOf all)
    (p := fun members => decide (1 < members.length))
  calc
    _ = ((groupsOf all).map SourceGroup.members).find? (fun members => 1 < members.length) :=
      onMembers.symm
    _ = ((sourcesOf all).map (conversionsFrom all)).find? (fun members => 1 < members.length) := by
      rw [map_members_groupsOf]
    _ = ((sourcesOf all).find? fun source => 1 < (conversionsFrom all source).length).map
        (conversionsFrom all) := onSources
    _ = (firstConflict? all).map (competitors all) := by
      rw [find?_sourcesOf, Option.map_map]
      rfl

theorem sourcesOf_of_nodup
    {all : List Conversion} (distinct : (all.map Conversion.source).Nodup) :
    sourcesOf all = all.map Conversion.source := by
  induction all using List.reverseRecOn with
  | nil =>
      rfl
  | append_singleton seen next inductionHypothesis =>
      rw [List.map_append, List.nodup_append'] at distinct
      obtain ⟨seenDistinct, _, apart⟩ := distinct
      have unknown : next.source ∉ sourcesOf seen := by
        rw [mem_sourcesOf_iff]
        intro member
        exact apart member (by simp)
      rw [sourcesOf_append_singleton, if_neg unknown, inductionHypothesis seenDistinct,
        List.map_append]
      rfl

theorem conversionsFrom_of_nodup
    {all : List Conversion} (distinct : (all.map Conversion.source).Nodup)
    {conversion : Conversion} (member : conversion ∈ all) :
    conversionsFrom all conversion.source = [conversion] := by
  have atMost := List.nodup_iff_count_le_one.mp distinct conversion.source
  rw [← length_competitors] at atMost
  have itself : conversion ∈ conversionsFrom all conversion.source :=
    List.mem_filter.mpr ⟨member, beq_self_eq_true conversion.source⟩
  have atLeast := List.length_pos_of_mem itself
  have one : (conversionsFrom all conversion.source).length = 1 := Nat.le_antisymm atMost atLeast
  obtain ⟨only, single⟩ := List.length_eq_one_iff.mp one
  rw [single] at itself ⊢
  rw [List.mem_singleton.mp itself]

/-- Without a conflict every conversion is alone in its group. -/
theorem map_first_groupsOf {all : List Conversion} (alone : firstConflict? all = none) :
    (groupsOf all).map SourceGroup.first = all := by
  have distinct := (firstConflict?_eq_none_iff all).mp alone
  have members : (groupsOf all).map SourceGroup.members =
      all.map fun conversion => [conversion] := by
    rw [map_members_groupsOf, sourcesOf_of_nodup distinct, List.map_map]
    exact List.map_congr_left fun conversion member => conversionsFrom_of_nodup distinct member
  have heads := congrArg (List.filterMap List.head?) members
  rw [List.filterMap_map, List.filterMap_map] at heads
  have firsts : (groupsOf all).filterMap (List.head? ∘ SourceGroup.members) =
      (groupsOf all).map SourceGroup.first :=
    congrFun (List.filterMap_eq_map (f := SourceGroup.first)) (groupsOf all)
  rw [← firsts, heads]
  exact List.filterMap_some

/-- Looking for a group with two members comes to the same as looking for the first conflict. -/
theorem soleMembers_groupsOf (all : List Conversion) :
    soleMembers (groupsOf all) =
      match firstConflict? all with
      | some conflict => .error (.conflictingConversion conflict.sourceType
          ((competitors all conflict).map Conversion.variant))
      | none => .ok all := by
  have found := find?_groupsOf all
  unfold soleMembers
  cases conflict? : firstConflict? all with
  | none =>
      rw [conflict?, Option.map_none, Option.map_eq_none_iff] at found
      rw [found]
      exact congrArg Except.ok (map_first_groupsOf conflict?)
  | some conflict =>
      rw [conflict?, Option.map_some, Option.map_eq_some_iff] at found
      obtain ⟨group, isGroup, members⟩ := found
      have head := head?_competitors_of_firstConflict? conflict?
      have first : group.first = conflict := by
        rw [← members] at head
        exact Option.some.inj head
      rw [isGroup]
      simp only [first, members]

/-- The conversions of a row of policies are those that a single pass collects in groups. -/
theorem conversionsByGroup_eq (policies : List Policy) :
    conversionsByGroup policies = conversions policies := by
  rw [conversionsByGroup, conversions, foldlM_collect]
  cases (policies.filter Policy.makeFrom).mapM Policy.conversion with
  | error fault =>
      rfl
  | ok all =>
      exact soleMembers_groupsOf all

/-- What comes of the policies that ask for a conversion is exactly what is described: a
malformation before any conflict, the first conflict with all that take part in it, or one
conversion for each of these policies, in order.  A single pass that collects the conversions in
groups gives the same. -/
theorem conversions_eq_iff_conversionEnd (policies : List Policy) :
    (∀ result, conversions policies = result ↔
      ConversionEnd (policies.filter Policy.makeFrom) result) ∧
    conversionsByGroup policies = conversions policies := by
  refine ⟨?_, conversionsByGroup_eq policies⟩
  intro result
  constructor
  · intro same
    rw [← same]
    exact conversionEnd_conversions policies
  · intro ending
    exact ending.conversions_eq

/-- A policy that asks for a conversion from one type. -/
def askingPolicy (name typeRef : String) : Policy where
  variant := ⟨name, .tuple, [⟨0, typeRef⟩], {}⟩
  display := .template name
  makeFrom := true

/-- Of two conflicts that lie in one another, the one that starts first is reported. -/
example : conversionsByGroup [askingPolicy "A" "Vec<u8>", askingPolicy "B" "E",
    askingPolicy "C" " E", askingPolicy "D" "Vec< u8 >"] =
    .error (.conflictingConversion "Vec<u8>" ["A", "D"]) := by
  decide

end ErrorDerive
