import SecretTemplate.Proofs.Dialogue.Course
import SecretTemplate.Vault.Client

/-!
# The exchanges of a client

Which requests a client sends in the course of a read: first the one for the secret, and then one
for each answer that moves it, to where the answer says.

Results:
1. `course_follow`: a request is answered, or the answer leads to the next request.
2. `leads_of_course_follow`: every request but the first goes where the answer before it leads.
3. `Client.course_read`: a read is one request that is followed, and what the final answer means.
-/

namespace SecretTemplate

open Dialogue

namespace Http

/-- The requests of a log and what came of them, in order. -/
def exchanges (log : Log Wire Wire.Answer) : List (Request × Exchange) :=
  log.filterMap fun
    | ⟨.send request, outcome⟩ => some (request, outcome)
    | ⟨.freshId, _⟩ => none

theorem exchanges_send (request : Request) (outcome : Exchange) (log : Log Wire Wire.Answer) :
    exchanges (⟨.send request, outcome⟩ :: log) = (request, outcome) :: exchanges log := rfl

theorem exchanges_freshId (id : String) (log : Log Wire Wire.Answer) :
    exchanges (⟨.freshId, id⟩ :: log) = exchanges log := rfl

theorem exchanges_append (front back : Log Wire Wire.Answer) :
    exchanges (front ++ back) = exchanges front ++ exchanges back :=
  List.filterMap_append

/-- In a world the outcome of an exchange is what the world answers. -/
theorem exchange_of_mem {world : (w : Wire) → w.Answer} {asked : List Wire}
    {e : Request × Exchange} (h : e ∈ exchanges (asked.map fun w => ⟨w, world w⟩)) :
    e.2 = world (.send e.1) := by
  obtain ⟨entry, hentry, he⟩ := List.mem_filterMap.1 h
  obtain ⟨w, -, rfl⟩ := List.mem_map.1 hentry
  cases w with
  | freshId => cases he
  | send request =>
    obtain rfl := Option.some.inj he
    rfl

/-- Whether the outcome of an exchange moves what was asked for to a URL. -/
def Leads (e : Request × Exchange) (u : Url) : Prop :=
  ∃ response, e.2 = .answered response ∧ redirect? e.1.url response = some u

variable {first : Url} {left : Nat} {request : Request} {log : Log Wire Wire.Answer}
  {result : Except Error Response}

/-- A request is answered, or the answer leads to the next request. -/
theorem course_follow (h : Course (follow first left request) log result) :
    ∃ (outcome : Exchange) (rest : Log Wire Wire.Answer), log = ⟨.send request, outcome⟩ :: rest ∧
      ((∃ u fewer, Leads (request, outcome) u ∧
          Course (follow first fewer ⟨u, forwardHeaders request.url u request.headers⟩) rest
            result ∧ left = fewer + 1) ∨
        rest = [] ∧ ∀ response, outcome = .answered response →
          redirect? request.url response = none → result = .ok response) := by
  rw [follow] at h
  obtain ⟨outcome, rest, rfl, next⟩ := course_ask_iff.1 h
  clear h
  change Exchange at outcome
  refine ⟨outcome, rest, rfl, ?_⟩
  cases outcome with
  | lost => exact .inr ⟨(course_done_iff.1 next).1, fun _ answered => by cases answered⟩
  | late => exact .inr ⟨(course_done_iff.1 next).1, fun _ answered => by cases answered⟩
  | answered response =>
    dsimp only at next
    cases moved : redirect? request.url response with
    | none =>
      rw [moved] at next
      obtain ⟨rfl, rfl⟩ := course_done_iff.1 next
      refine .inr ⟨rfl, fun _ answered _ => ?_⟩
      cases answered
      rfl
    | some u =>
      rw [moved] at next
      -- A redirect that is not followed is an error, so `result` need not be the answer.
      have stuck {cause : Error} (h : Course (.done (.error cause)) rest result) :
          rest = [] ∧ ∀ r, Exchange.answered response = .answered r →
            redirect? request.url r = none → result = .ok r := by
        refine ⟨(course_done_iff.1 h).1, fun _ answered final => ?_⟩
        cases answered
        cases moved.symm.trans final
      cases left with
      | zero => exact .inr (stuck next)
      | succ fewer =>
        dsimp only at next
        split at next
        · exact .inl ⟨u, fewer, ⟨response, rfl, moved⟩, next, rfl⟩
        · exact .inr (stuck next)

/-- Every request but the first goes where the answer before it leads. -/
theorem leads_of_course_follow (h : Course (follow first left request) log result)
    {front back : List (Request × Exchange)} {e : Request × Exchange}
    (split : exchanges log = front ++ e :: back) :
    front = [] ∧ e.1.url = request.url ∨ ∃ e' ∈ front.getLast?, Leads e' e.1.url := by
  induction left using Nat.strongRecOn generalizing request log front with
  | ind left ih =>
    obtain ⟨outcome, rest, rfl, next⟩ := course_follow h
    clear h
    rw [exchanges_send] at split
    cases front with
    | nil =>
      obtain ⟨rfl, -⟩ := List.cons.inj split
      exact .inl ⟨rfl, rfl⟩
    | cons e' front =>
      obtain ⟨rfl, later⟩ := List.cons.inj split
      right
      rcases next with ⟨u, fewer, leads, followed, rfl⟩ | ⟨rfl, -⟩
      · rcases ih fewer (Nat.lt_succ_self _) followed later with ⟨rfl, same⟩ | ⟨e', last, leads'⟩
        · exact ⟨(request, outcome), rfl, same ▸ leads⟩
        · exact ⟨e', by simp [List.getLast?_cons, Option.mem_def.1 last], leads'⟩
      · simp [exchanges] at later

end Http

namespace Client

open Http

/-- A read is one request that is followed, and what the final answer means. -/
theorem course_read {c : Client} {q : Read} {log : Log Wire Wire.Answer} {answer : Answer}
    (h : Course (c.read q) log answer) :
    ∃ (id : String) (rest : Log Wire Wire.Answer), log = ⟨.freshId, id⟩ :: rest ∧
      ((∃ cause, c.request q id = .error cause ∧ rest = [] ∧ answer = .error cause) ∨
        ∃ request outcome, c.request q id = .ok request ∧
          Course (follow request.url maxRedirects request) rest outcome ∧
          answer = match outcome with
            | .error cause => .error cause
            | .ok response => interpret q.engine id response) := by
  obtain ⟨id, rest, rfl, next⟩ := course_ask_iff.1 h
  clear h
  refine ⟨id, rest, rfl, ?_⟩
  cases built : c.request q id with
  | error cause =>
    rw [built] at next
    obtain ⟨rfl, rfl⟩ := course_done_iff.1 next
    exact .inl ⟨cause, rfl, rfl, rfl⟩
  | ok request =>
    rw [built] at next
    obtain ⟨outcome, front, back, rfl, followed, next⟩ := course_bind_iff.1 next
    refine .inr ⟨request, outcome, rfl, ?_⟩
    cases outcome with
    | error cause =>
      obtain ⟨rfl, rfl⟩ := course_done_iff.1 next
      exact ⟨by rwa [List.append_nil], rfl⟩
    | ok response =>
      obtain ⟨rfl, rfl⟩ := course_done_iff.1 next
      exact ⟨by rwa [List.append_nil], rfl⟩

end Client

end SecretTemplate
