import SecretTemplate.Proofs.Dialogue.Course
import SecretTemplate.Proofs.Secret.Reading
import SecretTemplate.Template.Patch

/-!
# Answers that agree

What a lookup makes of a secret depends on the values of its fields. In which order a source of
secrets lists them, and whether it lists one twice, does not show. So two sources whose answers
agree lead to the same reads and the same outcome.

Results:
1. `respects_resolve`: a reference that is resolved respects agreement.
2. `respects_patch`: so does a template that is patched.
-/

namespace SecretTemplate

open Dialogue

/-- Whether two answers tell the same: the same failure, no secret, or the same fields. -/
inductive Agree : Answer → Answer → Prop where
  | failure (cause : Error) : Agree (.error cause) (.error cause)
  | absent : Agree (.ok none) (.ok none)
  | secret {x y : Record} (same : ∀ field, x.get? field = y.get? field) :
      Agree (.ok (some x)) (.ok (some y))

/-- Whether a lookup goes on alike after answers that agree. -/
def RespectsAgreement {α : Type} (l : Lookup α) : Prop :=
  Respects (fun _ => Agree) l.run

namespace Reference

/-- Records with the same fields are formatted alike. -/
theorem format_congr (r : Reference) {x y : Record} (same : ∀ field, x.get? field = y.get? field) :
    r.format x = r.format y := by
  rw [format, format, same]

theorem respects_fetch (r : Reference) : RespectsAgreement r.fetch := by
  rw [RespectsAgreement]
  cases hl : r.location with
  | error cause =>
    rw [fetch_of_location_error hl]
    exact .done _
  | ok q =>
    rw [fetch_of_location hl]
    refine .ask (fun x y agree => ?_) (fun x => ?_)
    · cases agree with
      | failure cause => rfl
      | absent => rfl
      | secret same => exact congrArg Dialogue.done (r.format_congr same)
    · rcases x with cause | _ | secret <;> exact .done _

/-- A reference that is resolved respects agreement. -/
theorem respects_resolve (raw : String) : RespectsAgreement (resolve raw) := by
  cases hp : parse raw with
  | error cause =>
    rw [resolve, hp]
    exact .done _
  | ok r =>
    rw [resolve_of_ok hp]
    exact r.respects_fetch

end Reference

namespace RespectsAgreement

variable {α β : Type}

theorem pure (a : α) : RespectsAgreement (Pure.pure a : Lookup α) :=
  .done _

theorem bind {l : Lookup α} {f : α → Lookup β} (hl : RespectsAgreement l)
    (hf : ∀ a, RespectsAgreement (f a)) : RespectsAgreement (l >>= f) := by
  refine Respects.bind hl fun outcome => ?_
  cases outcome with
  | error cause => exact .done _
  | ok a => exact hf a

theorem foldlM {f : β → α → Lookup β} (hf : ∀ b a, RespectsAgreement (f b a)) (as : List α)
    (b : β) : RespectsAgreement (as.foldlM f b) := by
  induction as generalizing b with
  | nil => exact pure b
  | cons a as ih => exact (hf b a).bind ih

end RespectsAgreement

namespace Delimiter

/-- A template that is patched respects agreement. -/
theorem respects_patch (d : Delimiter) (input : String) : RespectsAgreement (d.patch input) :=
  .foldlM (fun _ body => (Reference.respects_resolve body).bind fun _ => .pure _) _ _

end Delimiter

end SecretTemplate
