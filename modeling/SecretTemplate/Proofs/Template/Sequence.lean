import Mathlib.Data.List.Basic
import SecretTemplate.Proofs.Secret.Reading
import SecretTemplate.Template.Patch

/-!
# The order of patching

Patching resolves the tokens of a template from left to right. The tokens are those of the template,
and not of the buffer into which values are written on the way, so that what is read depends on the
template and on the answers alone. The first token that does not resolve ends the patching.

Results:
1. `against_foldlM_of_resolved`: tokens that resolve are replaced in turn, and all of them are read.
2. `against_foldlM_of_failed`: the first token that fails decides the outcome and ends the reads.
3. `patch_in_turn`: both for whole templates, with the number of reads of each token.
-/

namespace SecretTemplate

open Text Lookup Reference

namespace Delimiter

variable {d : Delimiter} {reader : Reader} {value : String → String}

/-- The buffer with the value of a token in place of the token's text. -/
def substitute (d : Delimiter) (value : String → String) (buffer body : String) : String :=
  replaceAllString (d.wrap body) (value body) buffer

theorem against_patchToken_of_ok {body : String}
    (resolved : (resolve body).outcome reader = .ok (value body)) (buffer : String) :
    (d.patchToken buffer body).against reader =
      (.ok (d.substitute value buffer body), (resolve body).reads reader) := by
  rw [patchToken, against_bind_of_ok resolved, outcome_pure, reads_pure, List.append_nil]
  rfl

theorem against_patchToken_of_error {body : String} {cause : Error}
    (failed : (resolve body).outcome reader = .error cause) (buffer : String) :
    (d.patchToken buffer body).against reader = (.error cause, (resolve body).reads reader) :=
  against_bind_of_error failed _

/-- Tokens that resolve are replaced in turn, and all of them are read. -/
theorem against_foldlM_of_resolved {bodies : List String}
    (resolved : ∀ body ∈ bodies, (resolve body).outcome reader = .ok (value body))
    (buffer : String) :
    (bodies.foldlM d.patchToken buffer).against reader =
      (.ok (bodies.foldl (d.substitute value) buffer),
        bodies.flatMap fun body => (resolve body).reads reader) := by
  induction bodies generalizing buffer with
  | nil => rfl
  | cons body later ih =>
    rw [List.forall_mem_cons] at resolved
    have step := against_patchToken_of_ok (d := d) resolved.1 buffer
    have rest := ih resolved.2 (d.substitute value buffer body)
    have ok : (d.patchToken buffer body).outcome reader =
        .ok (d.substitute value buffer body) := congrArg Prod.fst step
    rw [List.foldlM_cons, against_bind_of_ok ok, outcome, reads, reads, step, rest]
    rfl

/-- The first token that fails decides the outcome, and nothing is read behind it. -/
theorem against_foldlM_of_failed {done later : List String} {body : String} {cause : Error}
    (resolved : ∀ earlier ∈ done, (resolve earlier).outcome reader = .ok (value earlier))
    (failed : (resolve body).outcome reader = .error cause) (buffer : String) :
    ((done ++ body :: later).foldlM d.patchToken buffer).against reader =
      (.error cause, (done ++ [body]).flatMap fun b => (resolve b).reads reader) := by
  have front := against_foldlM_of_resolved (d := d) resolved buffer
  have ok : (done.foldlM d.patchToken buffer).outcome reader =
      .ok (done.foldl (d.substitute value) buffer) := congrArg Prod.fst front
  have step : ((body :: later).foldlM d.patchToken
      (done.foldl (d.substitute value) buffer)).against reader =
        (.error cause, (resolve body).reads reader) := by
    have h := against_patchToken_of_error (d := d) failed (done.foldl (d.substitute value) buffer)
    rw [List.foldlM_cons, against_bind_of_error (congrArg Prod.fst h), reads, h]
  rw [List.foldlM_append, against_bind_of_ok ok, outcome, reads, reads, front, step]
  simp

/-- Values of the tokens that resolve, as one function of their bodies. -/
theorem exists_value {bodies : List String} (resolves : ∀ body ∈ bodies, Resolves reader body) :
    ∃ value : String → String,
      ∀ body ∈ bodies, (resolve body).outcome reader = .ok (value body) := by
  choose! value resolved using resolves
  exact ⟨value, resolved⟩

/-- Either all tokens resolve, or one fails behind tokens that resolve. -/
theorem resolves_or_exists_failed (reader : Reader) (bodies : List String) :
    (∀ body ∈ bodies, Resolves reader body) ∨
      ∃ done body later cause, bodies = done ++ body :: later ∧
        (∀ earlier ∈ done, Resolves reader earlier) ∧
          (resolve body).outcome reader = .error cause := by
  induction bodies with
  | nil => exact .inl (by simp)
  | cons b bodies ih =>
    cases hb : (resolve b).outcome reader with
    | error cause => exact .inr ⟨[], b, bodies, cause, rfl, by simp, hb⟩
    | ok value =>
      rcases ih with all | ⟨done, body, later, cause, rfl, resolved, failed⟩
      · exact .inl (List.forall_mem_cons.2 ⟨⟨value, hb⟩, all⟩)
      · exact .inr ⟨b :: done, body, later, cause, rfl,
          List.forall_mem_cons.2 ⟨⟨value, hb⟩, resolved⟩, failed⟩

/-- Patching resolves the tokens of the template in turn. It succeeds exactly when all of them
resolve, and otherwise it fails as the first of them that does not. The reads are those of the
tokens up to there, one for each that resolves. -/
theorem patch_in_turn (d : Delimiter) (input : String) (reader : Reader) :
    ((∃ text, (d.patch input).outcome reader = .ok text) ↔
        ∀ body ∈ d.tokens input, Resolves reader body) ∧
      ((∀ body ∈ d.tokens input, Resolves reader body) →
        (d.patch input).reads reader =
          (d.tokens input).flatMap fun body => (resolve body).reads reader) ∧
      ((¬∀ body ∈ d.tokens input, Resolves reader body) →
        ∃ done body later cause, d.tokens input = done ++ body :: later ∧
          (∀ earlier ∈ done, Resolves reader earlier) ∧
          (resolve body).outcome reader = .error cause ∧
          (d.patch input).outcome reader = .error cause ∧
          (d.patch input).reads reader =
            (done ++ [body]).flatMap fun b => (resolve b).reads reader) ∧
      ∀ body ∈ d.tokens input,
        (Resolves reader body → ∃ q, (resolve body).reads reader = [q]) ∧
          ((resolve body).reads reader).length ≤ 1 := by
  have all (resolves : ∀ body ∈ d.tokens input, Resolves reader body) :
      ∃ text, (d.patch input).against reader =
        (.ok text, (d.tokens input).flatMap fun body => (resolve body).reads reader) := by
    obtain ⟨value, resolved⟩ := exists_value resolves
    exact ⟨_, against_foldlM_of_resolved resolved input⟩
  have first (fails : ¬∀ body ∈ d.tokens input, Resolves reader body) :
      ∃ done body later cause, d.tokens input = done ++ body :: later ∧
        (∀ earlier ∈ done, Resolves reader earlier) ∧
        (resolve body).outcome reader = .error cause ∧
        (d.patch input).against reader =
          (.error cause, (done ++ [body]).flatMap fun b => (resolve b).reads reader) := by
    obtain ⟨done, body, later, cause, split, resolves, failed⟩ :=
      (resolves_or_exists_failed reader (d.tokens input)).resolve_left fails
    obtain ⟨value, resolved⟩ := exists_value resolves
    refine ⟨done, body, later, cause, split, resolves, failed, ?_⟩
    rw [patch, split]
    exact against_foldlM_of_failed resolved failed input
  refine ⟨⟨?_, ?_⟩, ?_, ?_, ?_⟩
  · rintro ⟨text, ok⟩
    by_contra fails
    obtain ⟨_, _, _, cause, _, _, _, run⟩ := first fails
    have error : (d.patch input).outcome reader = .error cause := congrArg Prod.fst run
    rw [ok] at error
    cases error
  · intro resolves
    obtain ⟨text, run⟩ := all resolves
    exact ⟨text, congrArg Prod.fst run⟩
  · intro resolves
    obtain ⟨text, run⟩ := all resolves
    exact congrArg Prod.snd run
  · intro fails
    obtain ⟨done, body, later, cause, split, resolves, failed, run⟩ := first fails
    exact ⟨done, body, later, cause, split, resolves, failed, congrArg Prod.fst run,
      congrArg Prod.snd run⟩
  · exact fun body _ => ⟨reads_of_resolves, length_reads_resolve_le body⟩

end Delimiter

end SecretTemplate
