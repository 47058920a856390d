import ErrorDerive.Proofs.Yaml.Causes
import ErrorDerive.Yaml.TokenSequence

/-!
# Breakdowns between letters and tokens

Reading tokens breaks down only from numbers: the code of an escape that is no character, and a
version with too many digits.

* `isAmong_of_tokens` says this of the fault that cuts a token sequence short.
-/

namespace ErrorDerive.Yaml

/-- What reading tokens may break down from. -/
def tokenCauses : List Breakdown := [.impossibleValue, .oversizedNumber]

/-! ## Quoted scalars -/

theorem failsAmong_quotedBreaks (rounds : Nat) (cursor : Cursor) (seen : List Char) :
    FailsAmong tokenCauses (quotedBreaks rounds cursor seen) := by
  induction rounds generalizing cursor seen with
  | zero =>
      exact .malformed
  | succ rounds inductionHypothesis =>
      refine .ite .malformed ?_
      dsimp only
      split
      · exact inductionHypothesis _ _
      · exact .ok _

theorem failsAmong_quotedGap (cursor : Cursor) : FailsAmong tokenCauses (quotedGap cursor) := by
  unfold quotedGap
  dsimp only
  split
  · exact .ite .malformed (.ok _)
  · exact (failsAmong_quotedBreaks _ _ _).bind fun _ => .ok _

theorem failsAmong_numberedLetters (digits : List Char) :
    FailsAmong tokenCauses (numberedLetters digits) := by
  unfold numberedLetters
  split
  · exact .malformed
  · exact .ite (.ok _) (.ite (.broken (by decide)) (.broken (by decide)))

theorem failsAmong_scanNumbered (width : Nat) (cursor : Cursor) :
    FailsAmong tokenCauses (scanNumbered width cursor) :=
  .ite .malformed ((failsAmong_numberedLetters _).bind fun _ => .ok _)

theorem failsAmong_scanEscape (cursor : Cursor) : FailsAmong tokenCauses (scanEscape cursor) := by
  unfold scanEscape
  split
  · exact .malformed
  · split
    · exact .ok _
    · exact failsAmong_scanNumbered _ _
    · split
      · exact failsAmong_quotedBreaks _ _ _
      · exact .malformed

theorem failsAmong_quotedRest (isDouble : Bool) (rounds : Nat) (cursor : Cursor)
    (seen : List Char) : FailsAmong tokenCauses (quotedRest isDouble rounds cursor seen) := by
  induction rounds generalizing cursor seen with
  | zero =>
      exact .malformed
  | succ rounds inductionHypothesis =>
      rw [quotedRest]
      dsimp only
      split
      · exact .malformed
      · have afterEscape : FailsAmong tokenCauses (scanEscape cursor.next >>= fun found =>
            quotedRest isDouble rounds found.2 (found.1.reverse ++ seen)) :=
          (failsAmong_scanEscape _).bind fun _ => inductionHypothesis _ _
        have afterGap : FailsAmong tokenCauses (quotedGap cursor >>= fun found =>
            quotedRest isDouble rounds found.2 (found.1.reverse ++ seen)) :=
          (failsAmong_quotedGap _).bind fun _ => inductionHypothesis _ _
        refine .ite (.ite ?_ (.ok _)) (.ite afterEscape (.ite afterGap ?_))
        · exact inductionHypothesis _ _
        · exact inductionHypothesis _ _

theorem failsAmong_scanQuoted (isDouble : Bool) (cursor : Cursor) :
    FailsAmong tokenCauses (scanQuoted isDouble cursor) :=
  (failsAmong_quotedRest _ _ _ _).bind fun _ => .ok _

/-! ## Block scalars, names and addresses -/

theorem failsAmong_scanBlockHead (cursor : Cursor) :
    FailsAmong tokenCauses (scanBlockHead cursor) := by
  unfold scanBlockHead
  refine .guard ?_
  exact .guard (.ok _)

theorem failsAmong_scanBlock (folded : Bool) (outer : Int) (cursor : Cursor) :
    FailsAmong tokenCauses (scanBlock folded outer cursor) :=
  (failsAmong_scanBlockHead _).bind fun _ => .ok _

theorem failsAmong_scanName (cursor : Cursor) : FailsAmong tokenCauses (scanName cursor) :=
  .ite .malformed (.ok _)

theorem failsAmong_uriBytes (rounds : Nat) (cursor : Cursor) (seen : List UInt8) :
    FailsAmong tokenCauses (uriBytes rounds cursor seen) := by
  induction rounds generalizing cursor seen with
  | zero =>
      exact .malformed
  | succ rounds inductionHypothesis =>
      rw [uriBytes]
      split
      · split
        · exact inductionHypothesis _ _
        · exact .malformed
      · exact .malformed
      · exact .ok _

theorem failsAmong_scanUri (rounds : Nat) (cursor : Cursor) (seen : List Char) :
    FailsAmong tokenCauses (scanUri rounds cursor seen) := by
  induction rounds generalizing cursor seen with
  | zero =>
      exact .malformed
  | succ rounds inductionHypothesis =>
      rw [scanUri]
      split
      · exact .ite .malformed (.ok _)
      · refine .ite ?_ (.ite (inductionHypothesis _ _) (.ite .malformed (.ok _)))
        refine (failsAmong_uriBytes _ _ _).bind fun _ => ?_
        dsimp only
        split
        · exact inductionHypothesis _ _
        · exact .malformed

theorem failsAmong_scanAddress (cursor : Cursor) :
    FailsAmong tokenCauses (scanAddress cursor) :=
  (failsAmong_scanUri _ _ _).bind fun _ => .ok _

theorem failsAmong_scanHandle (cursor : Cursor) : FailsAmong tokenCauses (scanHandle cursor) := by
  unfold scanHandle
  split
  · exact .ok _
  · dsimp only
    split
    · exact .ok _
    · exact .malformed
  · exact .malformed

theorem failsAmong_scanTag (cursor : Cursor) : FailsAmong tokenCauses (scanTag cursor) := by
  unfold scanTag
  split
  · refine (failsAmong_scanAddress _).bind fun _ => .guard ?_
    exact .bind (.ok _) fun _ => .guard (.ok _)
  · refine .ite ?_ (.ite ?_ ?_)
    · exact .bind (.ok _) fun _ => .guard (.ok _)
    · refine (failsAmong_scanHandle _).bind fun _ => ?_
      refine (failsAmong_scanAddress _).bind fun _ => ?_
      exact .bind (.ok _) fun _ => .guard (.ok _)
    · refine .bind (.ok _) fun _ => ?_
      refine (failsAmong_scanAddress _).bind fun _ => ?_
      exact .bind (.ok _) fun _ => .guard (.ok _)

/-! ## Directives -/

theorem failsAmong_scanVersionNumber (cursor : Cursor) :
    FailsAmong tokenCauses (scanVersionNumber cursor) := by
  refine .ite (.broken (by decide)) ?_
  split
  · exact .ok _
  · exact .malformed

theorem failsAmong_scanDirectiveValue (name : List Char) (cursor : Cursor) :
    FailsAmong tokenCauses (scanDirectiveValue name cursor) := by
  unfold scanDirectiveValue
  refine .ite ?_ (.ite ?_ (.ok _))
  · refine (failsAmong_scanVersionNumber _).bind fun _ => .guard ?_
    exact (failsAmong_scanVersionNumber _).bind fun _ => .guard (.ok _)
  · refine (failsAmong_scanHandle _).bind fun _ => .guard ?_
    exact (failsAmong_scanAddress _).bind fun _ => .guard (.ok _)

theorem failsAmong_scanDirective (cursor : Cursor) :
    FailsAmong tokenCauses (scanDirective cursor) := by
  unfold scanDirective
  refine .guard ?_
  exact (failsAmong_scanDirectiveValue _ _).bind fun _ => .guard (.ok _)

/-! ## Tokens -/

namespace Layout

variable (layout : Layout)

theorem failsAmong_dropStaleKeys : FailsAmong tokenCauses layout.dropStaleKeys :=
  .ite .malformed (.ok _)

theorem failsAmong_dropKey : FailsAmong tokenCauses layout.dropKey :=
  .ite .malformed (.ok _)

theorem failsAmong_noteKey : FailsAmong tokenCauses layout.noteKey :=
  .ite ((failsAmong_dropKey _).bind fun _ => .ok _) (.ok _)

theorem failsAmong_finish : FailsAmong tokenCauses layout.finish :=
  (failsAmong_dropKey _).bind fun _ => .ok _

theorem failsAmong_pushDirective : FailsAmong tokenCauses layout.pushDirective := by
  refine (failsAmong_dropKey _).bind fun _ => ?_
  exact (failsAmong_scanDirective _).bind fun _ => .ok _

theorem failsAmong_pushDocumentMark (token : Token) :
    FailsAmong tokenCauses (layout.pushDocumentMark token) :=
  (failsAmong_dropKey _).bind fun _ => .ok _

theorem failsAmong_pushOpening (token : Token) :
    FailsAmong tokenCauses (layout.pushOpening token) :=
  (failsAmong_noteKey _).bind fun _ => .ok _

theorem failsAmong_pushClosing (token : Token) :
    FailsAmong tokenCauses (layout.pushClosing token) :=
  (failsAmong_dropKey _).bind fun _ => .guard (.ok _)

theorem failsAmong_pushComma : FailsAmong tokenCauses layout.pushComma :=
  (failsAmong_dropKey _).bind fun _ => .ok _

theorem failsAmong_pushHyphen : FailsAmong tokenCauses layout.pushHyphen := by
  unfold pushHyphen
  exact .guard ((failsAmong_dropKey _).bind fun _ => .ok _)

theorem failsAmong_pushQuestion : FailsAmong tokenCauses layout.pushQuestion := by
  unfold pushQuestion
  exact .guard ((failsAmong_dropKey _).bind fun _ => .ok _)

theorem failsAmong_pushColon : FailsAmong tokenCauses layout.pushColon := by
  unfold pushColon
  split
  · exact .ok _
  · exact .guard ((failsAmong_dropKey _).bind fun _ => .ok _)

theorem failsAmong_pushNamed {α : Type} {scan : Cursor → Except Fault (α × Cursor)}
    (fails : ∀ cursor, FailsAmong tokenCauses (scan cursor)) (token : α → Token) :
    FailsAmong tokenCauses (layout.pushNamed scan token) := by
  refine (failsAmong_noteKey _).bind fun _ => ?_
  exact (fails _).bind fun _ => .ok _

theorem failsAmong_pushBlockScalar (folded : Bool) :
    FailsAmong tokenCauses (layout.pushBlockScalar folded) := by
  refine (failsAmong_dropKey _).bind fun _ => ?_
  exact (failsAmong_scanBlock _ _ _).bind fun _ => .ok _

theorem failsAmong_pushPlain : FailsAmong tokenCauses layout.pushPlain :=
  (failsAmong_noteKey _).bind fun _ => .ok _

theorem failsAmong_pushToken (letter : Char) :
    FailsAmong tokenCauses (layout.pushToken letter) := by
  refine .ite (failsAmong_pushDirective _) ?_
  refine .ite (failsAmong_pushDocumentMark _ _) (.ite (failsAmong_pushDocumentMark _ _) ?_)
  refine .ite (failsAmong_pushOpening _ _) (.ite (failsAmong_pushOpening _ _) ?_)
  refine .ite (failsAmong_pushClosing _ _) (.ite (failsAmong_pushClosing _ _) ?_)
  refine .ite (failsAmong_pushComma _) (.ite (failsAmong_pushHyphen _) ?_)
  refine .ite (failsAmong_pushQuestion _) (.ite (failsAmong_pushColon _) ?_)
  refine .ite (failsAmong_pushNamed _ failsAmong_scanName _) ?_
  refine .ite (failsAmong_pushNamed _ failsAmong_scanName _) ?_
  refine .ite (failsAmong_pushNamed _ failsAmong_scanTag _) ?_
  refine .ite (failsAmong_pushBlockScalar _ _) (.ite (failsAmong_pushBlockScalar _ _) ?_)
  refine .ite (failsAmong_pushNamed _ (failsAmong_scanQuoted false) _) ?_
  refine .ite (failsAmong_pushNamed _ (failsAmong_scanQuoted true) _) ?_
  exact .ite (failsAmong_pushPlain _) .malformed

theorem failsAmong_approach : FailsAmong tokenCauses layout.approach :=
  (failsAmong_dropStaleKeys _).bind fun _ => .ok _

theorem failsAmong_advance : FailsAmong tokenCauses layout.advance := by
  refine (failsAmong_approach _).bind fun ready => ?_
  split
  · exact (failsAmong_finish _).bind fun _ => .ok _
  · exact (failsAmong_pushToken _ _).bind fun _ => .ok _

theorem isAmong_of_run {rounds : Nat} {settled layout : Layout} {fault : Fault}
    (cut : (run rounds settled layout).2 = some fault) : fault.IsAmong tokenCauses := by
  induction rounds generalizing settled layout with
  | zero =>
      cases cut
      trivial
  | succ rounds inductionHypothesis =>
      rw [run] at cut
      cases dropped : layout.dropStaleKeys with
      | error earlier =>
          rw [dropped] at cut
          cases cut
          exact failsAmong_dropStaleKeys _ _ dropped
      | ok live =>
          rw [dropped] at cut
          dsimp only at cut
          cases advanced : live.advance with
          | error earlier =>
              rw [advanced] at cut
              cases cut
              exact failsAmong_advance _ _ advanced
          | ok pair =>
              rw [advanced] at cut
              obtain ⟨later, _ | _⟩ := pair
              · exact inductionHypothesis cut
              · cases cut

end Layout

/-- The fault that cuts a token sequence short. -/
theorem isAmong_of_tokens {text : List Char} {fault : Fault}
    (cut : (tokens text).2 = some fault) : fault.IsAmong tokenCauses := by
  unfold tokens at cut
  dsimp only at cut
  split at cut
  · exact Layout.isAmong_of_run cut
  · cases cut
    trivial

end ErrorDerive.Yaml
