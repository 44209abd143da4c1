import SecretTemplate.Proofs.Secret.Kinds
import SecretTemplate.Proofs.Vault.Exchange
import SecretTemplate.Proofs.Vault.Meaning
import SecretTemplate.Proofs.Vault.Target

/-!
# The last answer decides

A read through a client comes to what the last answer of the server means. A resolution finds no
secret where the last answer means that there is none, and nowhere else: no failure on the way is
taken for the absence of a secret.

Results:
1. `Http.ends_of_course_follow`: a request that is followed comes to the last answer.
2. `Client.kind_of_read`: a read fails on the way to the store only.
3. `Client.read_verdict`: reads and resolutions, by the last answer.
-/

namespace SecretTemplate

open Dialogue (Course course_done_iff course_ask_iff course_through_iff)

namespace Http

/-- The answer that ends an exchange: the last one, and it moves nothing any more. -/
def IsFinal (log : Log Wire Wire.Answer) (r : Response) : Prop :=
  ∃ request, (exchanges log).getLast? = some (request, .answered r) ∧
    redirect? request.url r = none

variable {first : Url} {left : Nat} {request : Request} {log : Log Wire Wire.Answer}
  {result : Except Error Response} {r : Response}

instance (log : Log Wire Wire.Answer) (r : Response) : Decidable (IsFinal log r) :=
  decidable_of_iff
    (((exchanges log).getLast?.any fun e =>
      decide (e.2 = .answered r ∧ redirect? e.1.url r = none)) = true)
    (by simp [IsFinal, Option.any_eq_true])

theorem isFinal_singleton_iff {outcome : Exchange} :
    IsFinal [⟨.send request, outcome⟩] r ↔
      outcome = .answered r ∧ redirect? request.url r = none := by
  have only : (exchanges [⟨.send request, outcome⟩]).getLast? = some (request, outcome) := rfl
  rw [IsFinal, only]
  constructor
  · rintro ⟨_, same, final⟩
    cases same
    exact ⟨rfl, final⟩
  · rintro ⟨rfl, final⟩
    exact ⟨request, rfl, final⟩

/-- A request that is followed is sent. -/
theorem exchanges_ne_nil (h : Course (follow first left request) log result) :
    exchanges log ≠ [] := by
  obtain ⟨outcome, rest, rfl, -⟩ := course_follow h
  rw [exchanges_send]
  exact List.cons_ne_nil _ _

theorem IsFinal.eq {r' : Response} (h : IsFinal log r) (h' : IsFinal log r') : r = r' := by
  obtain ⟨request, last, -⟩ := h
  obtain ⟨request', last', -⟩ := h'
  cases last.symm.trans last'
  rfl

/-- The answer that ends an exchange is also the last one of all that follows its first request. -/
theorem isFinal_cons_iff {outcome : Exchange} (sent : exchanges log ≠ []) :
    IsFinal (⟨.send request, outcome⟩ :: log) r ↔ IsFinal log r := by
  rw [IsFinal, IsFinal, exchanges_send, List.getLast?_cons_of_ne_nil sent]

theorem isFinal_freshId_iff {id : String} : IsFinal (⟨.freshId, id⟩ :: log) r ↔ IsFinal log r :=
  Iff.rfl

/-- A request that is followed comes to the answer that ends the exchange. Without such an answer it
fails on the way to the store. -/
theorem ends_of_course_follow (h : Course (follow first left request) log result) :
    (∃ r, IsFinal log r ∧ result = .ok r) ∨
      (∀ r, ¬IsFinal log r) ∧ ∃ cause, result = .error cause ∧ cause.kind = .transport := by
  induction left using Nat.strongRecOn generalizing request log with
  | ind left ih =>
    rw [follow] at h
    obtain ⟨outcome, rest, rfl, next⟩ := course_ask_iff.1 h
    clear h
    change Exchange at outcome
    -- The request is the last one, and nothing that ends the exchange came of it.
    have fails {cause : Error} (kind : cause.kind = .transport)
        (open_ended : ∀ r, outcome = .answered r → redirect? request.url r ≠ none)
        (h : Course (.done (.error cause)) rest result) :
        (∃ r, IsFinal (⟨.send request, outcome⟩ :: rest) r ∧ result = .ok r) ∨
          (∀ r, ¬IsFinal (⟨.send request, outcome⟩ :: rest) r) ∧
            ∃ cause, result = .error cause ∧ cause.kind = .transport := by
      obtain ⟨rfl, rfl⟩ := course_done_iff.1 h
      refine .inr ⟨fun r final => ?_, cause, rfl, kind⟩
      obtain ⟨answered, final⟩ := isFinal_singleton_iff.1 final
      exact open_ended r answered final
    cases outcome with
    | lost => exact fails rfl (fun _ answered => by cases answered) next
    | late => exact fails rfl (fun _ answered => by cases answered) next
    | answered response =>
      dsimp only at next
      cases moved : redirect? request.url response with
      | none =>
        rw [moved] at next
        obtain ⟨rfl, rfl⟩ := course_done_iff.1 next
        exact .inl ⟨response, isFinal_singleton_iff.2 ⟨rfl, moved⟩, rfl⟩
      | some u =>
        rw [moved] at next
        have open_ended (r : Response) (answered : Exchange.answered response = .answered r) :
            redirect? request.url r ≠ none := by
          cases answered
          simp [moved]
        cases left with
        | zero => exact fails rfl open_ended next
        | succ fewer =>
          dsimp only at next
          split at next
          · simp only [isFinal_cons_iff (exchanges_ne_nil next)]
            exact ih fewer (Nat.lt_succ_self fewer) next
          · exact fails rfl open_ended next

end Http

namespace Client

open Http

variable {c : Client} {q : Read} {log : Log Wire Wire.Answer} {answer : Answer} {r : Response}

theorem kind_of_request {id : String} {cause : Error} (h : c.request q id = .error cause) :
    cause.kind = .transport := by
  unfold request at h
  split at h
  · cases h
    rfl
  · dsimp only at h
    split_ifs at h <;> cases h <;> rfl

/-- A read comes to what the last answer means. Without a last answer it fails. -/
theorem ends_of_course_read (h : Course (c.read q) log answer) :
    ∃ id, log.head? = some ⟨.freshId, id⟩ ∧
      ((∃ r, IsFinal log r ∧ answer = interpret q.engine id r) ∨
        (∀ r, ¬IsFinal log r) ∧ ∃ cause, answer = .error cause ∧ cause.kind = .transport) := by
  obtain ⟨id, rest, rfl, next⟩ := course_read h
  refine ⟨id, rfl, ?_⟩
  simp only [isFinal_freshId_iff]
  rcases next with ⟨cause, refused, rfl, rfl⟩ | ⟨request, outcome, -, followed, rfl⟩
  · refine .inr ⟨fun r final => ?_, cause, rfl, kind_of_request refused⟩
    obtain ⟨_, last, -⟩ := final
    cases last
  · rcases ends_of_course_follow followed with ⟨r, final, rfl⟩ | ⟨open_ended, cause, rfl, kind⟩
    · exact .inl ⟨r, final, rfl⟩
    · exact .inr ⟨open_ended, cause, rfl, kind⟩

/-- A read fails on the way to the store only. -/
theorem kind_of_read {cause : Error} (h : Course (c.read q) log (.error cause)) :
    cause.kind = .transport := by
  obtain ⟨id, -, ⟨r, -, same⟩ | ⟨-, cause', same, kind⟩⟩ := ends_of_course_read h
  · have means := means_interpret q.engine id r
    rw [← same] at means
    cases means <;> rfl
  · cases same
    exact kind

/-- A read finds no secret if the last answer means that there is none, and not otherwise. -/
theorem eq_none_iff_isAbsence (h : Course (c.read q) log answer) :
    answer = .ok none ↔ ∃ r, IsFinal log r ∧ IsAbsence q.engine r := by
  obtain ⟨id, -, ⟨r, final, rfl⟩ | ⟨open_ended, cause, rfl, -⟩⟩ := ends_of_course_read h
  · have means := means_interpret q.engine id r
    constructor
    · intro absent
      exact ⟨r, final, means_none_iff.1 (absent ▸ means)⟩
    · rintro ⟨r', final', absence⟩
      obtain rfl := final'.eq final
      have agree := (means_none_iff.2 absence).agree means
      generalize interpret q.engine id r' = answer at agree
      cases agree
      rfl
  · simp [open_ended]

/-- A read comes to what the last answer of the server means, where the name of the request is the
one that was made for it. A resolution finds no secret if the text is a reference that names a place
and the last answer means that there is none, and not otherwise. -/
theorem read_verdict (c : Client) :
    (∀ q log answer r, Course (c.read q) log answer → IsFinal log r →
        ∃ id, log.head? = some ⟨.freshId, id⟩ ∧ Means q.engine id r answer) ∧
      ∀ raw log result, Course (c.run (Reference.resolve raw)) log result →
        (result = .error .nilSecret ↔
          ∃ ref q r, Reference.Asks raw ref q ∧ IsFinal log r ∧ IsAbsence q.engine r) := by
  refine ⟨fun q log answer r course final => ?_, fun raw log result course => ?_⟩
  · obtain ⟨id, named, ⟨r', final', rfl⟩ | ⟨open_ended, -⟩⟩ := ends_of_course_read course
    · obtain rfl := final.eq final'
      exact ⟨id, named, means_interpret q.engine id r⟩
    · exact absurd final (open_ended r)
  · obtain ⟨turns, held, rfl, each⟩ := course_through_iff.1 course
    rw [Reference.nilSecret_iff_of_course held]
    constructor
    · rintro ⟨ref, q, answer, asks, once, absent⟩
      obtain ⟨t, rfl, same⟩ := List.map_eq_singleton_iff.1 once
      cases same
      rw [List.forall_mem_singleton] at each
      rcases absent with absent | refused
      · obtain ⟨r, final, absence⟩ := (eq_none_iff_isAbsence each).1 absent
        exact ⟨ref, t.question, r, asks, by simpa using final, absence⟩
      · cases kind_of_read (refused ▸ each)
    · rintro ⟨ref, q, r, asks, final, absence⟩
      obtain ⟨answer, once, -⟩ := asks.course_iff.1 held
      refine ⟨ref, q, answer, asks, once, .inl ?_⟩
      obtain ⟨t, rfl, same⟩ := List.map_eq_singleton_iff.1 once
      cases same
      rw [List.forall_mem_singleton] at each
      exact (eq_none_iff_isAbsence each).2 ⟨r, by simpa using final, absence⟩

/-! ## A server that moves and denies -/

/-- The answer of a server that denies what was asked for. -/
def denial : Response where
  status := 403
  headers := [("x-request-id", Text.Utf8.encodeString "r-1")]
  body := Text.Utf8.encodeString "\x7b\"errors\":[\"no\",\"policy\"]\x7d"

/-- An envelope without a record. -/
def emptyEnvelope : Response where
  status := 200
  body := Text.Utf8.encodeString "\x7b\"data\":\x7b\"data\":null\x7d\x7d"

/-- A world in which one secret has been deleted, and all else has moved to where it is denied. -/
def denyingWorld : (w : Wire) → w.Answer
  | .freshId => "id"
  | .send request =>
    if request.url.target = "/v1/kv/data/gone" then Exchange.answered emptyEnvelope
    else if request.url.target = "/denied" then Exchange.answered denial
    else Exchange.answered
      { status := 307, headers := [("location", Text.Utf8.encodeString "/denied")] }

/-- A dialogue in that world. -/
def deniedLog {α : Type} (d : Conversation α) : Log Wire Wire.Answer :=
  (d.asked denyingWorld).map fun w => ⟨w, denyingWorld w⟩

theorem read_verdict_denyingWorld :
    (∃ log answer id, Course (ofThisMachine.read ⟨.v2, "kv", "a"⟩) log answer ∧
        IsFinal log denial ∧ log.head? = some ⟨.freshId, id⟩ ∧ Means .v2 id denial answer) ∧
      ∃ log ref q r, Course (ofThisMachine.run (Reference.resolve "path=kv/gone,field=f")) log
          (.error .nilSecret) ∧
        Reference.Asks "path=kv/gone,field=f" ref q ∧ IsFinal log r ∧ IsAbsence q.engine r := by
  have course := Dialogue.course_run denyingWorld (ofThisMachine.read ⟨.v2, "kv", "a"⟩)
  have final : IsFinal (deniedLog (ofThisMachine.read ⟨.v2, "kv", "a"⟩)) denial := by
    decide +kernel
  obtain ⟨id, named, means⟩ := (read_verdict ofThisMachine).1 _ _ _ _ course final
  have resolved := Dialogue.course_run denyingWorld
    (ofThisMachine.run (Reference.resolve "path=kv/gone,field=f"))
  have absent : (ofThisMachine.run (Reference.resolve "path=kv/gone,field=f")).result denyingWorld =
      .error .nilSecret := by decide +kernel
  rw [absent] at resolved
  obtain ⟨ref, q, r, asks, final', absence⟩ :=
    ((read_verdict ofThisMachine).2 _ _ _ resolved).1 rfl
  exact ⟨⟨_, _, id, course, final, named, means⟩, _, ref, q, r, resolved, asks, final', absence⟩

end Client

end SecretTemplate
