import SecretTemplate.Http.Script
import SecretTemplate.Proofs.Reference.RoundTrip
import SecretTemplate.Proofs.Secret.Place
import SecretTemplate.Proofs.Template.Agreement
import SecretTemplate.Proofs.Vault.Exchange
import SecretTemplate.Proofs.Vault.Service
import SecretTemplate.Proofs.Vault.Target
import SecretTemplate.Secret.Store

/-!
# Servers that mirror a store

A server mirrors a store in memory if it answers a request for what the store holds with an envelope
that carries it, and every other request with the status 404. Through a client of such a server
templates and references come out as they do from the store, and what the client asks for is what
is read from the store, in order. Three things must be granted: that the address, the token and the
namespace can be sent, that no two secrets share a target, and that the URLs are not too long.

Results:
1. `Read.eq_of_names_of_isClear`: clear reads of all engines have names of their own.
2. `Client.request_of_isReady`: what a client that is ready can ask for, it asks for.
3. `Client.agree_of_course_read`: a server that mirrors a store answers a read as the store does.
4. `Client.outcome_of_mirrored`: templates and references come out as they do from the store.
5. `Client.exists_outcome_ne`: not where a URL is too long.
-/

namespace SecretTemplate

open Dialogue (Course course_ask_iff course_through_iff)
open Http Text

namespace Read

/-- Whether a read has a target of its own: the mount and the segments are names, and no path of
version 1 starts as those of version 2. -/
def IsClear (q : Read) : Prop :=
  q.IsOrdinary ∧ (q.engine = .v1 → q.segments.head? ≠ some "data")

instance : DecidablePred IsClear := fun _ => inferInstanceAs (Decidable (_ ∧ _))

/-- Clear reads have names of their own. -/
theorem eq_of_names_of_isClear {p q : Read} (hp : p.IsClear) (hq : q.IsClear)
    (same : p.names = q.names) : p = q := by
  have data {p q : Read} (hp : p.IsClear) (v1 : p.engine = .v1) (v2 : q.engine = .v2)
      (same : p.names = q.names) : False := by
    refine hp.2 v1 ?_
    simp only [names, v1, v2, List.append_nil, List.cons_append, List.nil_append,
      List.cons.injEq, true_and] at same
    rw [same.2]
    rfl
  cases hpe : p.engine <;> cases hqe : q.engine
  · exact eq_of_names (hpe.trans hqe.symm) same
  · exact (data hp hpe hqe same).elim
  · exact (data hq hqe hpe same.symm).elim
  · exact eq_of_names (hpe.trans hqe.symm) same

end Read

namespace Client

/-- The target at which a client asks for a secret. -/
def target? (c : Client) (q : Read) : Option String :=
  (Url.parse? (Endpoint.url c.config.address q)).map Url.target

/-- Whether the URL at which a client asks for a secret can be asked for. -/
def CanAsk (c : Client) (q : Read) : Prop :=
  ∀ u ∈ Url.parse? (Endpoint.url c.config.address q), isSendable u = true

/-- A client whose address is that of a place, and whose token and namespace can be sent. -/
structure IsReady (c : Client) : Prop where
  built : ∃ settings, build settings = .ok c
  bare : IsBare c.config.address
  parses : (Url.parse? c.config.address).isSome
  token : isHeaderValue (Utf8.encodeString c.config.token) = true
  vaultNamespace : ∀ n ∈ c.config.vaultNamespace, isHeaderValue (Utf8.encodeString n) = true

/-- An exchange in which a client asks a server that holds what a store holds for a target. -/
inductive Mirrors (c : Client) (store : Store) (target : String) : Exchange → Prop where
  | found {q : Read} {record sent : Record} {response : Response}
      (stored : store.reader q = .ok (some record)) (here : c.target? q = some target)
      (status : response.status = 200) (complete : response.complete = true)
      (body : Envelope.secret? q.engine response.body = some (some sent))
      (same : ∀ field, sent.get? field = record.get? field) :
      Mirrors c store target (.answered response)
  | missing {response : Response}
      (nothing : ∀ q record, store.reader q = .ok (some record) → c.target? q ≠ some target)
      (status : response.status = 404) : Mirrors c store target (.answered response)

/-- A log of a client that is ready, with a server that mirrors a store of clear secrets. -/
structure IsMirrored (c : Client) (store : Store) (log : Log Wire Wire.Answer) : Prop where
  ready : c.IsReady
  stored : ∀ q record, store.reader q = .ok (some record) → q.IsClear
  plain : ∀ q cause, store.reader q ≠ .error cause
  ids : ∀ id : String, (⟨.freshId, id⟩ : (w : Wire) × w.Answer) ∈ log →
    isHeaderValue (Utf8.encodeString id) = true
  mirrors : ∀ e ∈ exchanges log, Mirrors c store e.1.url.target e.2

variable {c : Client} {store : Store}

theorem IsMirrored.mono {log part : Log Wire Wire.Answer} (h : IsMirrored c store log)
    (sub : part ⊆ log) : IsMirrored c store part :=
  { h with
    ids := fun id hid => h.ids id (sub hid)
    mirrors := fun e he => h.mirrors e (List.filterMap_subset _ sub he) }

theorem userAgent_of_build {settings : Settings} (built : build settings = .ok c) :
    isHeaderValue (Utf8.encodeString (userAgent c.config)) = true := by
  rw [build] at built
  cases hs : settings.configure with
  | error cause =>
    rw [hs] at built
    cases built
  | ok config =>
    rw [hs] at built
    by_cases valid : isHeaderValue (Utf8.encodeString (userAgent config)) = true
    · obtain rfl : ⟨config⟩ = c := Except.ok.inj ((if_pos valid).symm.trans built)
      exact valid
    · cases (if_neg valid).symm.trans built

/-- All header fields of a client that is ready can be sent. -/
theorem headers_of_isReady (ready : c.IsReady) {id : String}
    (valid : isHeaderValue (Utf8.encodeString id) = true) :
    ∀ field ∈ c.headers id none, isHeaderValue field.2 = true := by
  obtain ⟨settings, built⟩ := ready.built
  have accept : isHeaderValue (Utf8.encodeString "*/*") = true := by decide +kernel
  have agent := userAgent_of_build built
  have namespaced := ready.vaultNamespace
  have token := ready.token
  intro field hfield
  simp only [headers, List.mem_append, List.mem_cons, List.not_mem_nil, or_false,
    Option.mem_toList, Option.map_eq_some_iff, Option.map_none] at hfield
  rcases hfield with (((rfl | rfl) | ⟨n, hn, rfl⟩) | rfl | rfl) | hfield
  · exact valid
  · exact token
  · exact namespaced n hn
  · exact accept
  · exact agent
  · cases hfield

/-- What a client that is ready can ask for, it asks for. -/
theorem request_of_isReady (ready : c.IsReady) {q : Read} (can : c.CanAsk q) {id : String}
    (valid : isHeaderValue (Utf8.encodeString id) = true) :
    ∃ request, c.request q id = .ok request ∧ c.target? q = some request.url.target := by
  obtain ⟨u, parsed⟩ := Option.isSome_iff_exists.1 ready.parses
  have url := ready.bare.parse?_url q
  rw [parsed, Option.map_some] at url
  have headers : ((c.headers id none).all fun field => isHeaderValue field.2) = true :=
    List.all_eq_true.2 (headers_of_isReady ready valid)
  refine ⟨⟨Endpoint.below u q, c.headers id none⟩, ?_, by rw [target?, url, Option.map_some]⟩
  rw [request_of_bare ready.bare, parsed]
  simp [headers, can _ url]

/-- Clear reads have targets of their own. -/
theorem eq_of_target? (ready : c.IsReady) {p q : Read} (hp : p.IsClear) (hq : q.IsClear)
    {target : String} (htp : c.target? p = some target) (htq : c.target? q = some target) :
    p = q := by
  have names {q : Read} (hq : q.IsClear) (ht : c.target? q = some target) :
      names? target = some ("" :: q.names) := by
    obtain ⟨u, parsed⟩ := Option.isSome_iff_exists.1 ready.parses
    obtain ⟨-, -, -, query⟩ := ready.bare.of_parse? parsed
    obtain ⟨ns, path, -, same⟩ := Endpoint.exists_names q
    rw [target?, ready.bare.parse?_url, parsed, Option.map_some, Option.map_some] at ht
    obtain rfl := Option.some.inj ht
    rw [← same hq.1, ← names?_path]
    simp [Url.target, Endpoint.below, query, path]
  have same := (names hp htp).symm.trans (names hq htq)
  rw [Option.some.injEq, List.cons.injEq] at same
  exact Read.eq_of_names_of_isClear hp hq same.2

/-- What a client makes of an answer of a server that mirrors a store is what the store says. -/
theorem agree_of_mirrors {log : Log Wire Wire.Answer} (h : IsMirrored c store log) {q : Read}
    (clear : q.IsClear) {target : String} (here : c.target? q = some target) {response : Response}
    (id : String) (mirrors : Mirrors c store target (.answered response)) :
    Agree (interpret q.engine id response) (store.reader q) := by
  cases mirrors with
  | @found p record sent _ hp there status complete body same =>
    obtain rfl : p = q := eq_of_target? h.ready (h.stored p record hp) clear there here
    have granted : interpret p.engine id response = .ok (some sent) := by
      simp [interpret, status, complete, body]
    rw [granted, hp]
    exact .secret same
  | missing nothing status =>
    rw [interpret_404 _ _ status]
    cases hq : store.reader q with
    | error cause => exact absurd hq (h.plain q cause)
    | ok found =>
      cases found with
      | none => exact .absent
      | some record => exact absurd here (nothing q record hq)

/-- A server that mirrors a store answers a read as the store does, and is asked once. -/
theorem agree_of_course_read {log : Log Wire Wire.Answer} (h : IsMirrored c store log) {q : Read}
    (clear : q.IsClear) (can : c.CanAsk q) {answer : Answer}
    (course : Course (c.read q) log answer) :
    Agree answer (store.reader q) ∧
      (exchanges log).map (fun e => some e.1.url.target) = [c.target? q] := by
  obtain ⟨id, rest, rfl, next⟩ := course_read course
  obtain ⟨request, built, here⟩ := request_of_isReady h.ready can (h.ids id List.mem_cons_self)
  rcases next with ⟨_, refused, -⟩ | ⟨request', outcome, built', followed, rfl⟩
  · cases built.symm.trans refused
  obtain rfl : request = request' := Except.ok.inj (built.symm.trans built')
  obtain ⟨exchange, later, rfl, next⟩ := course_follow followed
  have mirrors := h.mirrors (request, exchange) List.mem_cons_self
  obtain ⟨response, rfl⟩ : ∃ response, exchange = .answered response := by
    cases mirrors <;> exact ⟨_, rfl⟩
  -- Neither of the two statuses moves what is asked for.
  have stays : redirect? request.url response = none := by
    cases moved : redirect? request.url response with
    | none => rfl
    | some u =>
      have status := redirect?_status moved
      cases mirrors <;> simp_all
  rcases next with ⟨u, _, ⟨_, answered, moved⟩, -⟩ | ⟨rfl, final⟩
  · cases answered
    cases stays.symm.trans moved
  · obtain rfl := final response rfl stays
    refine ⟨agree_of_mirrors h clear here id mirrors, ?_⟩
    rw [exchanges_freshId, exchanges_send, here]
    rfl

/-- What turns of one exchange each show, all in order. -/
theorem map_exchanges_of_turns {β : Type} {f : Request × Exchange → β} {g : Read → β}
    {turns : List (Dialogue.Turn (fun _ : Read => Answer) Wire.Answer)}
    (each : ∀ t ∈ turns, (exchanges t.log).map f = [g t.question]) :
    (exchanges (turns.flatMap Dialogue.Turn.log)).map f =
      (turns.map Dialogue.Turn.question).map g := by
  induction turns with
  | nil => rfl
  | cons t turns ih =>
    rw [List.forall_mem_cons] at each
    rw [List.flatMap_cons, exchanges_append, List.map_append, each.1, ih each.2]
    rfl

/-- A server that mirrors a store serves it. -/
theorem IsMirrored.serves {log : Log Wire Wire.Answer} (h : IsMirrored c store log)
    {reads : List Read} (clear : ∀ q ∈ reads, q.IsClear ∧ c.CanAsk q) :
    c.Serves store.reader reads log := by
  intro q asked part answer inside course
  exact (agree_of_course_read (h.mono inside.subset) (clear q asked).1 (clear q asked).2 course).1

/-- A lookup that respects agreement comes out through a client of a server that mirrors a store as
it does from the store, and the targets are those of the reads, in order. -/
theorem mirrored_of_respects {log : Log Wire Wire.Answer} (h : IsMirrored c store log) {α : Type}
    {l : Lookup α} (respects : RespectsAgreement l)
    (reads : ∀ q ∈ l.reads store.reader, q.IsClear ∧ c.CanAsk q) {result : Except Error α}
    (course : Course (c.run l) log result) :
    result = l.outcome store.reader ∧
      (exchanges log).map (fun e => some e.1.url.target) =
        (l.reads store.reader).map c.target? := by
  obtain ⟨outcome, turns, questions, rfl, each⟩ :=
    result_of_serves respects (h.serves reads) course
  have questions : turns.map Dialogue.Turn.question = l.reads store.reader := questions
  refine ⟨outcome, ?_⟩
  rw [← questions]
  refine map_exchanges_of_turns fun t ht => ?_
  have asked : t.question ∈ l.reads store.reader := questions ▸ List.mem_map_of_mem ht
  have part : t.log ⊆ turns.flatMap Dialogue.Turn.log :=
    fun entry hentry => List.mem_flatMap.2 ⟨t, ht, hentry⟩
  exact (agree_of_course_read (h.mono part) (reads _ asked).1 (reads _ asked).2 (each t ht)).2

/-- Templates that are patched and references that are resolved through a client of a server that
mirrors a store come out as they do from the store, with the same failures, and the targets are
those of the reads from the store, in order. Nothing is asked of references that are not read. -/
theorem outcome_of_mirrored {log : Log Wire Wire.Answer} (h : IsMirrored c store log)
    {l : Lookup String}
    (made : (∃ (d : Delimiter) (input : String), l = d.patch input) ∨
      ∃ raw, l = Reference.resolve raw)
    (reads : ∀ q ∈ l.reads store.reader, q.IsClear ∧ c.CanAsk q) {result : Except Error String}
    (course : Course (c.run l) log result) :
    result = l.outcome store.reader ∧
      (exchanges log).map (fun e => some e.1.url.target) =
        (l.reads store.reader).map c.target? := by
  rcases made with ⟨d, input, rfl⟩ | ⟨raw, rfl⟩
  · exact mirrored_of_respects h (d.respects_patch input) reads course
  · exact mirrored_of_respects h (Reference.respects_resolve raw) reads course

/-! ## A store with one secret -/

theorem isReady_ofThisMachine : ofThisMachine.IsReady where
  built := ⟨{ address := "http://127.0.0.1:8200", token := some "t" }, by decide +kernel⟩
  bare := isBare_ofThisMachine
  parses := by
    rw [parse?_ofThisMachine]
    rfl
  token := by decide +kernel
  vaultNamespace := by simp [ofThisMachine]

/-- A record with one field. -/
def oneField : Record := ⟨[("f", .string "x")]⟩

/-- A store that holds it, and nothing else. -/
def oneSecret (q : Read) : Store := ({} : Store).put q (.ok oneField)

theorem reader_oneSecret (p q : Read) :
    (oneSecret q).reader p = .ok (if p = q then some oneField else none) := by
  by_cases h : p = q
  · rw [if_pos h, h]
    exact Store.reader_put_self _ _ _
  · rw [if_neg h]
    exact Store.reader_put_of_ne _ h _

theorem isClear_of_oneSecret {p q : Read} {record : Record} (clear : q.IsClear)
    (h : (oneSecret q).reader p = .ok (some record)) : p.IsClear := by
  rw [reader_oneSecret, Except.ok.injEq, Option.ite_none_right_eq_some] at h
  exact h.1 ▸ clear

theorem reader_oneSecret_ne_error (p q : Read) (cause : Error) :
    (oneSecret q).reader p ≠ .error cause := by
  rw [reader_oneSecret]
  rintro ⟨⟩

/-- The body in which a server sends it. -/
def oneFieldBody : List UInt8 :=
  Utf8.encodeString "\x7b\"data\":\x7b\"data\":\x7b\"f\":\"x\"\x7d\x7d\x7d"

/-- A server that holds the record at `kv/a`. -/
def oneSecretRoutes : List Route := [{ target := "/v1/kv/data/a", body := oneFieldBody }]

theorem secret?_oneFieldBody : Envelope.secret? .v2 oneFieldBody = some (some oneField) := by
  -- Values cannot be compared, so the members are, by their texts.
  have shape : (Envelope.secret? .v2 oneFieldBody).map (·.map fun r => r.fields.map fun field =>
      (field.1, field.2.string?)) = some (some [("f", some "x")]) := by decide +kernel
  obtain ⟨secret, read, shape⟩ := Option.map_eq_some_iff.1 shape
  obtain ⟨⟨fields⟩, rfl, one⟩ := Option.map_eq_some_iff.1 shape
  obtain ⟨⟨name, value⟩, rfl, field⟩ := List.map_eq_singleton_iff.1 one
  obtain ⟨rfl, text⟩ := Prod.mk.inj field
  obtain rfl := Json.string?_eq_some_iff.1 text
  exact read

theorem mirrors_oneSecretRoutes (request : Request) :
    Mirrors ofThisMachine (oneSecret ⟨.v2, "kv", "a"⟩) request.url.target
      (serve oneSecretRoutes request) := by
  have here : ofThisMachine.target? ⟨.v2, "kv", "a"⟩ = some "/v1/kv/data/a" := by decide +kernel
  have stored := reader_oneSecret ⟨.v2, "kv", "a"⟩ ⟨.v2, "kv", "a"⟩
  rw [if_pos rfl] at stored
  by_cases target : request.url.target = "/v1/kv/data/a"
  · have answer : serve oneSecretRoutes request =
        .answered { status := 200, body := oneFieldBody } := by
      simp [serve, oneSecretRoutes, target, Route.exchange, Route.response]
    rw [answer, target]
    exact .found stored here rfl rfl secret?_oneFieldBody fun _ => rfl
  · rw [serve_of_noRoute (by simpa [oneSecretRoutes] using Ne.symm target)]
    refine .missing (fun q record stored there => target ?_) rfl
    rw [reader_oneSecret, Except.ok.injEq, Option.ite_none_right_eq_some] at stored
    rw [stored.1, here] at there
    exact (Option.some.inj there).symm

/-- A world in which that server answers. -/
def oneSecretWorld : (w : Wire) → w.Answer
  | .freshId => "id"
  | .send request => serve oneSecretRoutes request

/-- What a client that is ready does in that world, it does with a server that mirrors the store. -/
theorem isMirrored_oneSecretWorld (asked : List Wire) :
    IsMirrored ofThisMachine (oneSecret ⟨.v2, "kv", "a"⟩)
      (asked.map fun w => ⟨w, oneSecretWorld w⟩) where
  ready := isReady_ofThisMachine
  stored _ _ := isClear_of_oneSecret (by decide)
  plain p := reader_oneSecret_ne_error p _
  ids id hid := by
    obtain ⟨w, -, h⟩ := List.mem_map.1 hid
    obtain ⟨rfl, same⟩ := Sigma.mk.inj h
    rw [← eq_of_heq same]
    decide +kernel
  mirrors e he := by
    rw [exchange_of_mem he]
    exact mirrors_oneSecretRoutes e.1

theorem outcome_of_mirrored_oneSecretWorld :
    ∃ log, Course (ofThisMachine.run (Delimiter.standard.patch "<@@path=kv/a,field=f@@>")) log
        (.ok "<x>") ∧
      (exchanges log).map (fun e => some e.1.url.target) = [some "/v1/kv/data/a"] := by
  have reads : (Delimiter.standard.patch "<@@path=kv/a,field=f@@>").reads
      (oneSecret ⟨.v2, "kv", "a"⟩).reader = [⟨.v2, "kv", "a"⟩] := by decide +kernel
  have outcome : (Delimiter.standard.patch "<@@path=kv/a,field=f@@>").outcome
      (oneSecret ⟨.v2, "kv", "a"⟩).reader = .ok "<x>" := by decide +kernel
  have target : ofThisMachine.target? ⟨.v2, "kv", "a"⟩ = some "/v1/kv/data/a" := by decide +kernel
  have clear : (⟨.v2, "kv", "a"⟩ : Read).IsClear := by decide
  have can : (Url.parse? (Endpoint.url ofThisMachine.config.address ⟨.v2, "kv", "a"⟩)).all
      isSendable = true := by decide +kernel
  have course := Dialogue.course_run oneSecretWorld
    (ofThisMachine.run (Delimiter.standard.patch "<@@path=kv/a,field=f@@>"))
  obtain ⟨result, targets⟩ := outcome_of_mirrored (isMirrored_oneSecretWorld _) (.inl ⟨_, _, rfl⟩)
    (by
      rw [reads, List.forall_mem_singleton]
      exact ⟨clear, fun u hu => (Option.all_eq_true _ _).1 can u hu⟩)
    course
  rw [outcome] at result
  rw [reads, List.map_singleton, target] at targets
  exact ⟨_, result ▸ course, targets⟩

/-! ## A path that is too long -/

/-- A name of `n + 1` letters. -/
def longName (n : Nat) : String := String.ofList (List.replicate (n + 1) 'a')

/-- A reference to a field of the secret with that name. -/
def longReference (n : Nat) : Reference := { path := "kv/" ++ longName n, field := "f" }

theorem toList_longReference (n : Nat) :
    (longReference n).path.toList = 'k' :: 'v' :: '/' :: List.replicate (n + 1) 'a' := by
  simp [longReference, longName]

theorem parse_longReference (n : Nat) :
    Reference.parse (longReference n).render = .ok (longReference n) := by
  have field : IsValue "f" := ⟨by decide, by decide +kernel⟩
  have names : IsNameList [] := ⟨List.forall_mem_nil _, List.cons_ne_nil _ _ |>.symm⟩
  have field_ne : "f" ≠ "" := by decide
  have path : IsValue (longReference n).path := by
    rw [isValue_iff, toList_longReference]
    refine ⟨by simp [List.mem_replicate], trim_eq_self_iff.2 ⟨?_, ?_⟩⟩
    · rintro c ⟨⟩
      decide
    · intro c hc
      have last : 'k' :: 'v' :: '/' :: List.replicate (n + 1) 'a' =
          ('k' :: 'v' :: '/' :: List.replicate n 'a') ++ ['a'] := by
        simp [List.replicate_succ']
      rw [last, List.getLast?_concat] at hc
      obtain rfl := Option.some.inj hc
      decide
  have ne : (longReference n).path ≠ "" := by
    intro empty
    have := toList_longReference n
    rw [empty] at this
    cases this
  exact Reference.parse_of_isReadable ⟨⟨path, field, trivial, names⟩, ne, field_ne⟩

theorem location_longReference (n : Nat) :
    (longReference n).location = .ok ⟨.v2, "kv", longName n⟩ := by
  have head : 'a' ∈ (longName n).toList.head? := by
    rw [longName, String.toList_ofList]
    rfl
  have place : IsPlace (longReference n).path "kv" (longName n) :=
    ⟨rfl, by decide, 'a', head, by decide⟩
  exact Reference.location_eq_ok_iff.2 ⟨splitMount_eq_ok_iff.2 place, .inr ⟨rfl, rfl⟩⟩

theorem not_mem_longName {c : Char} (other : c ≠ 'a') (n : Nat) : c ∉ (longName n).toList := by
  simp [longName, List.mem_replicate, other]

theorem segments_longName (n : Nat) :
    (⟨.v2, "kv", longName n⟩ : Read).segments = [longName n] := by
  rw [Read.segments, List.splitOn_eq_singleton (not_mem_longName (by decide) n), List.map_singleton,
    String.ofList_toList]

theorem isClear_longName (n : Nat) : (⟨.v2, "kv", longName n⟩ : Read).IsClear := by
  have undotted {s : String} (hs : '.' ∈ s.toList) : longName n ≠ s := by
    rintro rfl
    exact not_mem_longName (by decide) n hs
  have mount : IsName "kv" := by decide
  refine ⟨⟨mount, ?_⟩, fun v1 => nomatch v1⟩
  rw [segments_longName, List.forall_mem_singleton]
  exact ⟨not_mem_longName (by decide) n, undotted (by decide), undotted (by decide)⟩

theorem utf8ByteSize_longName (n : Nat) : (longName n).utf8ByteSize = n + 1 := by
  rw [longName]
  induction n with
  | zero => decide
  | succ n ih =>
    rw [List.replicate_succ, String.ofList_cons, String.utf8ByteSize_append, ih]
    exact Nat.add_comm 1 (n + 1)

theorem encodeSegment_longName (n : Nat) : Endpoint.encodeSegment (longName n) = longName n := by
  have same : Percent.encode Endpoint.isPlain (longName n).toList = (longName n).toList := by
    refine Percent.encode_of_allowed fun c hc => ?_
    rw [longName, String.toList_ofList] at hc
    rw [List.eq_of_mem_replicate hc]
    decide
  rw [Endpoint.encodeSegment, same, String.ofList_toList]

theorem not_isSendable_longName {n : Nat} (long : 65534 ≤ n) :
    isSendable (Endpoint.below thisMachine ⟨.v2, "kv", longName n⟩) = false := by
  obtain ⟨ns, path, -, same⟩ := Endpoint.exists_names ⟨.v2, "kv", longName n⟩
  have last : ns.map Endpoint.encodeSegment =
      (["v1", "kv", "data"].map Endpoint.encodeSegment) ++ [longName n] := by
    rw [same (isClear_longName n).1, Read.names, segments_longName, List.map_append,
      List.map_singleton, encodeSegment_longName]
    rfl
  have size : (longName n).utf8ByteSize ≤
      (Endpoint.below thisMachine ⟨.v2, "kv", longName n⟩).render.utf8ByteSize := by
    simp only [Url.render, Url.target, Endpoint.below, path, last, UrlPath.render, List.map_append,
      List.map_singleton, String.join_append, String.join_cons, String.utf8ByteSize_append]
    omega
  rw [utf8ByteSize_longName] at size
  rw [isSendable, Bool.and_eq_false_iff]
  exact .inl (by simpa using Nat.lt_of_lt_of_le (Nat.lt_succ_of_le long) size)

theorem request_longName {n : Nat} (long : 65534 ≤ n) :
    ∃ cause, ofThisMachine.request ⟨.v2, "kv", longName n⟩ "id" = .error cause := by
  rw [request_of_bare isBare_ofThisMachine, parse?_ofThisMachine]
  simp [headers_ofThisMachine, not_isSendable_longName long]

/-- A read whose URL is too long fails, and the server that has the secret is not asked. -/
theorem course_resolve_longReference {n : Nat} (long : 65534 ≤ n) :
    ∃ cause, Course (ofThisMachine.run (Reference.resolve (longReference n).render))
      [⟨.freshId, "id"⟩] (.error cause) := by
  obtain ⟨cause, refused⟩ := request_longName long
  refine ⟨cause, course_through_iff.2
    ⟨[⟨⟨.v2, "kv", longName n⟩, .error cause, [⟨.freshId, "id"⟩]⟩], ?_, rfl,
      List.forall_mem_singleton.2 ?_⟩⟩
  · rw [Reference.resolve_of_ok (parse_longReference n),
      Reference.fetch_of_location (location_longReference n)]
    exact .ask _ (.done _)
  · rw [read, course_ask_iff]
    refine ⟨"id", [], rfl, ?_⟩
    rw [refused]
    exact .done _

theorem outcome_resolve_longReference (n : Nat) :
    (Reference.resolve (longReference n).render).outcome
      (oneSecret ⟨.v2, "kv", longName n⟩).reader = .ok "x" := by
  rw [Reference.resolve_of_ok (parse_longReference n), Lookup.outcome, Reference.run_fetch,
    location_longReference]
  simp only [reader_oneSecret, if_pos]
  rfl

theorem reads_resolve_longReference (n : Nat) :
    (Reference.resolve (longReference n).render).reads
      (oneSecret ⟨.v2, "kv", longName n⟩).reader = [⟨.v2, "kv", longName n⟩] := by
  rw [Reference.resolve_of_ok (parse_longReference n), Lookup.reads, Reference.run_fetch,
    location_longReference]
  simp only [reader_oneSecret, if_pos]

theorem isMirrored_longName (n : Nat) :
    IsMirrored ofThisMachine (oneSecret ⟨.v2, "kv", longName n⟩) [⟨.freshId, "id"⟩] where
  ready := isReady_ofThisMachine
  stored _ _ := isClear_of_oneSecret (isClear_longName n)
  plain p := reader_oneSecret_ne_error p _
  ids id hid := by
    obtain ⟨-, same⟩ := Sigma.mk.inj (List.mem_singleton.1 hid)
    rw [eq_of_heq same]
    decide +kernel
  mirrors e he := by cases he

theorem outcome_ne_of_long {n : Nat} (long : 65534 ≤ n) :
    ∃ (c : Client) (store : Store) (raw : String) (log : Log Wire Wire.Answer)
      (result : Except Error String), IsMirrored c store log ∧
      (∀ q ∈ (Reference.resolve raw).reads store.reader, q.IsClear) ∧
      Course (c.run (Reference.resolve raw)) log result ∧
      result ≠ (Reference.resolve raw).outcome store.reader := by
  obtain ⟨cause, course⟩ := course_resolve_longReference long
  refine ⟨ofThisMachine, oneSecret ⟨.v2, "kv", longName n⟩, (longReference n).render, _, _,
    isMirrored_longName n, ?_, course, ?_⟩
  · rw [reads_resolve_longReference]
    exact List.forall_mem_singleton.2 (isClear_longName n)
  · rw [outcome_resolve_longReference]
    rintro ⟨⟩

/-- What the store resolves need not come out through a client: the URL may be too long. -/
theorem exists_outcome_ne :
    ∃ (c : Client) (store : Store) (raw : String) (log : Log Wire Wire.Answer)
      (result : Except Error String), IsMirrored c store log ∧
      (∀ q ∈ (Reference.resolve raw).reads store.reader, q.IsClear) ∧
      Course (c.run (Reference.resolve raw)) log result ∧
      result ≠ (Reference.resolve raw).outcome store.reader :=
  outcome_ne_of_long (Nat.le_refl 65534)

end Client

end SecretTemplate
