import SecretTemplate.Proofs.Vault.Authority
import SecretTemplate.Proofs.Vault.Exchange

/-!
# Who gets to see the token

Every request carries the token. Without permission to send it in plain to other machines, the
request for a secret is encrypted or stays on this machine. What the check of the address does not
cover is where a server sends a client: an answer that moves the secret is followed, and the token
goes along. So whatever the servers do, a request that is not guarded is one that the answer just
before it asked for.

Results:
1. `Client.token_mem_of_course`: every request carries the token.
2. `Client.isLed_of_course`: every request is guarded or goes where the answer before it leads.
-/

namespace SecretTemplate

open Dialogue Http

namespace Http

variable {first : Url} {left : Nat} {request : Request} {log : Log Wire Wire.Answer}
  {result : Except Error Response}

/-- Whether every request is guarded or goes where the answer to the request before it leads. -/
def IsLed (es : List (Request × Exchange)) : Prop :=
  ∀ front request outcome back, es = front ++ (request, outcome) :: back →
    request.url.isGuarded = true ∨ ∃ e ∈ front.getLast?, Leads e request.url

theorem isLed_nil : IsLed [] := by
  intro front _ _ back split
  simp at split

theorem IsLed.append {xs ys : List (Request × Exchange)} (hx : IsLed xs) (hy : IsLed ys) :
    IsLed (xs ++ ys) := by
  intro front request outcome back split
  rcases List.append_eq_append_iff.1 split with ⟨more, rfl, hys⟩ | ⟨more, rfl, hmore⟩
  · refine (hy more request outcome back hys).imp_right ?_
    rintro ⟨e, last, leads⟩
    exact ⟨e, by simp [List.getLast?_append, Option.mem_def.1 last], leads⟩
  · cases more with
    | nil =>
      refine (hy [] request outcome back hmore.symm).imp_right ?_
      rintro ⟨e, none, -⟩
      cases none
    | cons e more =>
      obtain ⟨rfl, rfl⟩ := List.cons.inj hmore
      exact hx front request outcome more rfl

/-- A request that is followed is led, if it is guarded. -/
theorem isLed_of_course_follow (guarded : request.url.isGuarded = true)
    (h : Course (follow first left request) log result) : IsLed (exchanges log) := by
  intro front request' outcome back split
  rcases leads_of_course_follow h split with ⟨-, start⟩ | later
  · have same : request'.url = request.url := start
    exact .inl (same ▸ guarded)
  · exact .inr later

/-- Following keeps a header field other than the authorization. -/
theorem header_mem_of_course_follow {name : String} {value : List UInt8}
    (other : name ≠ "authorization") (has : (name, value) ∈ request.headers)
    (h : Course (follow first left request) log result) :
    ∀ e ∈ exchanges log, (name, value) ∈ e.1.headers := by
  induction left using Nat.strongRecOn generalizing request log with
  | ind left ih =>
    obtain ⟨outcome, rest, rfl, next⟩ := course_follow h
    clear h
    rw [exchanges_send, List.forall_mem_cons]
    refine ⟨has, ?_⟩
    rcases next with ⟨u, fewer, -, followed, rfl⟩ | ⟨rfl, -⟩
    · exact ih fewer (Nat.lt_succ_self _) ((mem_forwardHeaders other).2 has) followed
    · simp [exchanges]

end Http

namespace Client

variable {c : Client} {α : Type} {l : Lookup α} {log : Log Wire Wire.Answer}
  {result : Except Error α}

/-- What holds of no exchanges, and of those of every read and of what follows them, holds of all
exchanges of a client. -/
theorem exchanges_of_course {P : List (Request × Exchange) → Prop} (none : P [])
    (append : ∀ xs ys, P xs → P ys → P (xs ++ ys))
    (follows : ∀ q id request first left log result, c.request q id = .ok request →
      Course (follow first left request) log result → P (exchanges log))
    (h : Course (c.run l) log result) : P (exchanges log) := by
  obtain ⟨turns, -, rfl, each⟩ := course_through_iff.1 h
  clear h
  induction turns with
  | nil => exact none
  | cons t turns ih =>
    rw [List.forall_mem_cons] at each
    rw [List.flatMap_cons, exchanges_append]
    refine append _ _ ?_ (ih each.2)
    obtain ⟨id, rest, hlog, ⟨_, -, rfl, -⟩ | ⟨request, _, built, followed, -⟩⟩ := course_read each.1
    · rw [hlog]
      exact none
    · rw [hlog, exchanges_freshId]
      exact follows _ _ _ _ _ _ _ built followed

/-- A request goes to what the URL of the read says, except for the user. -/
theorem url_of_request {q : Read} {id : String} {r : Request} (built : c.request q id = .ok r) :
    ("x-vault-token", Text.Utf8.encodeString c.config.token) ∈ r.headers ∧
      ∃ u, Url.parse? (Endpoint.url c.config.address q) = some u ∧
        r.url.scheme = u.scheme ∧ r.url.host = u.host := by
  unfold request at built
  split at built
  · cases built
  · next u parsed =>
    -- A user in the URL becomes a header field, which leaves the scheme and the host.
    have same : ∀ w,
        w = (if (credentials? u).isSome then { u with username := "", password := none } else u) →
          w.scheme = u.scheme ∧ w.host = u.host := by
      rintro _ rfl
      split <;> exact ⟨rfl, rfl⟩
    dsimp only at built
    generalize (if (credentials? u).isSome then { u with username := "", password := none }
      else u) = w at built same
    split at built
    · cases built
    split at built
    · cases built
    obtain rfl := Except.ok.inj built
    exact ⟨by simp [headers], u, parsed, same w rfl⟩

/-- Every request carries the token. -/
theorem token_mem_of_course (h : Course (c.run l) log result) :
    ∀ e ∈ exchanges log,
      ("x-vault-token", Text.Utf8.encodeString c.config.token) ∈ e.1.headers := by
  refine exchanges_of_course
    (P := fun es => ∀ e ∈ es,
      ("x-vault-token", Text.Utf8.encodeString c.config.token) ∈ e.1.headers)
    (List.forall_mem_nil _) (fun xs ys hx hy => List.forall_mem_append.2 ⟨hx, hy⟩) ?_ h
  intro q id request first left log result built followed
  exact header_mem_of_course_follow (by decide) (url_of_request built).1 followed

/-- Without permission every request is guarded, or goes where the answer to the request just before
it leads. -/
theorem isLed_of_course {s : Settings} (accepted : s.configure = .ok c.config)
    (strict : s.allowInsecureHttp = false) (h : Course (c.run l) log result) :
    ∀ front request outcome back, exchanges log = front ++ (request, outcome) :: back →
      request.url.isGuarded = true ∨
        ∃ request' response, front.getLast? = some (request', .answered response) ∧
          redirect? request'.url response = some request.url := by
  have led : IsLed (exchanges log) := by
    refine exchanges_of_course isLed_nil (fun _ _ hx hy => hx.append hy) ?_ h
    intro q id request first left log result built followed
    obtain ⟨-, u, parsed, scheme, host⟩ := url_of_request built
    have guarded : request.url.isGuarded = true := by
      rw [Url.isGuarded, scheme, Url.isLoopback_congr host, ← Url.isGuarded]
      exact Settings.isGuarded_of_configure accepted strict parsed
    exact isLed_of_course_follow guarded followed
  intro front request outcome back split
  refine (led front request outcome back split).imp_right ?_
  rintro ⟨⟨request', outcome'⟩, last, response, rfl, moved⟩
  exact ⟨request', response, last, moved⟩

/-! ## A server that moves its secrets -/

/-- The settings for an encrypted server on this machine. -/
def encryptedSettings : Settings := { address := Settings.defaultAddress, token := some "t" }

/-- The client of these settings. -/
def encrypted : Client :=
  ⟨{ address := Settings.defaultAddress, token := "t", vaultNamespace := none, timeout := 60000
     userAgentSuffix := none, allowInsecureHttp := false }⟩

/-- A world in which everything has moved to a machine that is asked in plain. -/
def movedWorld : (q : Wire) → q.Answer
  | .freshId => "id"
  | .send request =>
    if request.url.scheme = "https" then
      Exchange.answered
        { status := 302
          headers := [("location", Text.Utf8.encodeString "http://elsewhere.example/kv")] }
    else Exchange.answered { status := 404 }

/-- What a client asks for in that world when it reads a secret. -/
def movedLog : Log Wire Wire.Answer :=
  ((encrypted.run (Lookup.read ⟨.v2, "kv", "a"⟩)).asked movedWorld).map fun q => ⟨q, movedWorld q⟩

theorem course_movedLog : ∃ result,
    Course (encrypted.run (Lookup.read ⟨.v2, "kv", "a"⟩)) movedLog result :=
  ⟨_, course_run movedWorld _⟩

theorem isLed_movedLog :
    encryptedSettings.configure = .ok encrypted.config ∧
      encryptedSettings.allowInsecureHttp = false ∧
      ∃ front request outcome back, exchanges movedLog = front ++ (request, outcome) :: back ∧
        request.url.isGuarded = false ∧
        ∃ request' response, front.getLast? = some (request', .answered response) ∧
          redirect? request'.url response = some request.url := by
  obtain ⟨result, course⟩ := course_movedLog
  have two : (exchanges movedLog).length = 2 := by decide +kernel
  have second : ((exchanges movedLog)[1]?.any fun e => !e.1.url.isGuarded) = true := by
    decide +kernel
  obtain ⟨first, ⟨request, outcome⟩, hlog⟩ := List.length_eq_two.1 two
  rw [hlog] at second
  have unguarded : request.url.isGuarded = false := by simpa using second
  refine ⟨rfl, rfl, [first], request, outcome, [], hlog, unguarded, ?_⟩
  have led :=
    isLed_of_course (s := encryptedSettings) rfl rfl course [first] request outcome [] hlog
  exact led.resolve_left (by simp [unguarded])

/-- A server can have the token sent in plain to another machine. -/
theorem exists_token_unguarded :
    ∃ (s : Settings) (c : Client) (log : Log Wire Wire.Answer) (result : Answer),
      s.configure = .ok c.config ∧ s.allowInsecureHttp = false ∧
      Course (c.run (Lookup.read ⟨.v2, "kv", "a"⟩)) log result ∧
      ∃ e ∈ exchanges log,
        ("x-vault-token", Text.Utf8.encodeString c.config.token) ∈ e.1.headers ∧
          e.1.url.isGuarded = false := by
  obtain ⟨result, course⟩ := course_movedLog
  exact ⟨encryptedSettings, encrypted, movedLog, result, rfl, rfl, course, by decide +kernel⟩

end Client

end SecretTemplate
