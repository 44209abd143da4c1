import Mathlib.Data.Set.List
import SecretTemplate.Proofs.Text.Split
import SecretTemplate.Proofs.Url.Segments
import SecretTemplate.Proofs.Url.Site
import SecretTemplate.Vault.Client

/-!
# What a request asks for

A server reads names off the target of a request: the pieces between slashes, each with its escapes
read. For a secret they should be `v1`, the mount, for engines of version 2 `data`, and the segments
of the path. This is so if the mount and the segments are names, which hold no backslash and do not
consist of one or two dots. What else a mount or a path holds, no server ever sees: a backslash
separates names, and dots lead elsewhere.

Results:
1. `Endpoint.toList_url`: the URL of a read shows the escaped names behind the address.
2. `Endpoint.exists_names`: the path of a request consists of escaped names.
3. `names?_intercalate`, `names?_path`: a server reads the names off an escaped path.
4. `IsBare.parse?_url`: the URL of a read is that of a bare address with the path of the read.
5. `Client.names?_request_iff`: when a server reads the names on the way to the secret off the
   target of the request for it, so that different secrets of one engine are asked for differently.
-/

namespace SecretTemplate

open Text

/-- Whether a segment is a name: it holds no backslash, and does not say where to go. -/
def IsName (segment : String) : Prop :=
  '\\' ∉ segment.toList ∧ segment ≠ "." ∧ segment ≠ ".."

instance : DecidablePred IsName := fun _ => inferInstanceAs (Decidable (_ ∧ _))

namespace Read

/-- The segments of the path. -/
def segments (q : Read) : List String :=
  (q.path.toList.splitOn '/').map String.ofList

/-- Whether the mount and the segments of the path are names. -/
def IsOrdinary (q : Read) : Prop :=
  IsName q.mount ∧ ∀ segment ∈ q.segments, IsName segment

instance : DecidablePred IsOrdinary := fun _ => inferInstanceAs (Decidable (_ ∧ _))

/-- The names on the way from a server to a secret. -/
def names (q : Read) : List String :=
  ["v1", q.mount] ++ (match q.engine with | .v1 => [] | .v2 => ["data"]) ++ q.segments

theorem forall_names {q : Read} : (∀ n ∈ q.names, IsName n) ↔ q.IsOrdinary := by
  have v1 : IsName "v1" := by decide
  have data : IsName "data" := by decide
  cases h : q.engine <;> simp [names, IsOrdinary, h, v1, data, or_imp, forall_and]

/-- The names lead to one secret of an engine only. -/
theorem eq_of_names {p q : Read} (engine : p.engine = q.engine) (same : p.names = q.names) :
    p = q := by
  obtain ⟨e, m, s⟩ := p
  obtain ⟨e', m', s'⟩ := q
  obtain rfl : e = e' := engine
  have parts : m = m' ∧ (Read.segments ⟨e, m, s⟩) = Read.segments ⟨e, m', s'⟩ := by
    cases e <;> simpa [names] using same
  obtain ⟨rfl, pieces⟩ := parts
  have texts : s.toList.splitOn '/' = s'.toList.splitOn '/' :=
    List.map_injective_iff.2 (fun _ _ => String.ofList_injective) pieces
  have whole := congrArg (['/'].intercalate ·) texts
  simp only [List.intercalate_splitOn] at whole
  rw [String.toList_injective whole]

end Read

namespace Endpoint

theorem toList_encodeSegment (s : String) :
    (encodeSegment s).toList = Percent.encode isPlain s.toList :=
  String.toList_ofList

/-- What the URL of a read shows behind the first slash after the address. -/
def text (q : Read) : List Char :=
  ['/'].intercalate (q.names.map fun n => Percent.encode isPlain n.toList)

/-- The URL of a read shows the escaped names behind the address. -/
theorem toList_url (address : String) (q : Read) :
    (url address q).toList = (base address).toList ++ '/' :: text q := by
  have v1 : Percent.encode isPlain ['v', '1'] = ['v', '1'] := by decide
  have data : Percent.encode isPlain ['d', 'a', 't', 'a'] = ['d', 'a', 't', 'a'] := by decide
  have path : (encodePath q.path).toList =
      ['/'].intercalate (q.segments.map fun n => Percent.encode isPlain n.toList) := by
    rw [encodePath_eq, String.toList_intercalate, Read.segments, List.map_map, List.map_map]
    simp [Function.comp_def]
  have some_segment : ∃ t ts, q.segments = t :: ts :=
    List.exists_cons_of_ne_nil (by simp [Read.segments, List.splitOn_ne_nil])
  obtain ⟨t, ts, ht⟩ := some_segment
  cases h : q.engine <;>
    simp [url, text, Read.names, h, path, ht, v1, data, toList_encodeSegment,
      List.intercalate_cons_cons]

theorem mem_text {q : Read} {c : Char} (hc : c ∈ text q) : c = '/' ∨ IsShown c := by
  rcases mem_intercalate_iff.1 hc with ⟨piece, hpiece, hc⟩ | ⟨slash, -⟩
  · obtain ⟨n, -, rfl⟩ := List.mem_map.1 hpiece
    exact .inr (isShown_encode _ c hc)
  · exact .inl slash

/-- Nothing behind the address ends the path, or is dropped from a URL. -/
theorem url_of_mem_text {q : Read} {c : Char} (hc : c ∈ '/' :: text q) :
    Url.endsPath c = false ∧ Url.isEdgeBlank c = false ∧ Url.isDropped c = false := by
  have : c = '/' ∨ IsShown c := (List.mem_cons.1 hc).elim .inl mem_text
  rcases this with rfl | shown
  · decide
  · exact ⟨shown.url.2.1, shown.url.2.2.1, shown.url.2.2.2.1⟩

/-! ## Paths -/

/-- An escaped text is of one or two dots only if the text is. -/
theorem named_iff {n : List Char} :
    (Url.dots? (Percent.encode isPlain n) ≠ some 1 ∧
      Url.dots? (Percent.encode isPlain n) ≠ some 2) ↔
      String.ofList n ≠ "." ∧ String.ofList n ≠ ".." := by
  have one : String.ofList n = String.ofList ['.'] ↔ n = List.replicate 1 '.' := String.ofList_inj
  have two : String.ofList n = String.ofList ['.', '.'] ↔ n = List.replicate 2 '.' :=
    String.ofList_inj
  rw [Ne, Ne, Ne, Ne, dots?_encode, dots?_encode, ← one, ← two]

/-- The path of a request consists of escaped names: of those on the way to the secret, if they are
names. -/
theorem exists_names (q : Read) :
    ∃ ns : List String, Url.segments true [] (text q) = ns.map encodeSegment ∧
      (∀ n ∈ ns, IsName n) ∧ (q.IsOrdinary → ns = q.names) := by
  have pieces : (text q).splitOnP (Url.isSeparator true) =
      (q.names.flatMap fun n => n.toList.splitOn '\\').map (Percent.encode isPlain) := by
    have ne : q.names.map (fun n => Percent.encode isPlain n.toList) ≠ [] := by simp [Read.names]
    rw [text, splitOnP_intercalate (by decide) ne, List.flatMap_map, List.map_flatMap]
    simp only [splitOnP_encode]
  rw [Url.segments, pieces]
  by_cases ordinary : q.IsOrdinary
  · have named := Read.forall_names.2 ordinary
    have whole : (q.names.flatMap fun n => n.toList.splitOn '\\') = q.names.map String.toList := by
      rw [List.flatMap_congr fun n hn => List.splitOn_eq_singleton (named n hn).1]
      exact List.flatMap_pure_eq_map _ _
    refine ⟨q.names, ?_, named, fun _ => rfl⟩
    rw [whole, Url.resolveDots_of_named, List.map_map, List.map_map]
    · simp [Function.comp_def, writeSegment_encode, encodeSegment]
    · simp only [List.map_map, List.forall_mem_map, Function.comp_apply]
      intro n hn
      rw [named_iff, String.ofList_toList]
      exact (named n hn).2
  · -- Backslashes and dots make other names of them, but the segments are still escaped names.
    have escaped : ∀ s ∈ Url.resolveDots false []
        ((q.names.flatMap fun n => n.toList.splitOn '\\').map (Percent.encode isPlain)),
        s ∈ Set.range fun n : { n // IsName n } => encodeSegment n := by
      intro s hs
      rcases Url.mem_resolveDots hs with none | rfl | ⟨piece, hpiece, undotted, rfl⟩
      · cases none
      · exact ⟨⟨"", by decide⟩, rfl⟩
      · obtain ⟨n, hn, rfl⟩ := List.mem_map.1 hpiece
        obtain ⟨whole, -, hn⟩ := List.mem_flatMap.1 hn
        have plain : '\\' ∉ n := not_mem_of_mem_splitOn hn
        refine ⟨⟨String.ofList n, by simpa using plain, named_iff.1 undotted⟩, ?_⟩
        simp [writeSegment_encode, encodeSegment]
    obtain ⟨ns, hns⟩ := (Set.range_list_map _).symm.subset escaped
    refine ⟨ns.map Subtype.val, ?_, ?_, fun h => absurd h ordinary⟩
    · rw [← hns, List.map_map]
      rfl
    · rintro n hn
      obtain ⟨⟨n, named⟩, -, rfl⟩ := List.mem_map.1 hn
      exact named

end Endpoint

/-! ## Targets -/

/-- The names that a server reads off a target. -/
def names? (target : String) : Option (List String) :=
  (target.toList.splitOn '/').mapM fun piece =>
    (Utf8.decodeString (Percent.decode piece)).toOption

namespace Endpoint

theorem toList_render (ns : List String) :
    (UrlPath.segments (ns.map encodeSegment)).render.toList =
      ['/'].intercalate ([] :: ns.map fun n => Percent.encode isPlain n.toList) := by
  have flat (first : List Char) : first ++ (ns.flatMap fun n => '/' :: (encodeSegment n).toList) =
      ['/'].intercalate (first :: ns.map fun n => Percent.encode isPlain n.toList) := by
    induction ns generalizing first with
    | nil => simp
    | cons n ns ih =>
      rw [List.map_cons, List.intercalate_cons_cons, ← ih, List.flatMap_cons,
        toList_encodeSegment]
      simp
  rw [← flat, UrlPath.render, String.toList_join, List.map_map, List.flatMap_map]
  simp

end Endpoint

open Endpoint in
/-- A server reads the names off escaped names with slashes between them. -/
theorem names?_intercalate {ns : List String} (ne : ns ≠ []) :
    names? (String.ofList (['/'].intercalate (ns.map fun n => Percent.encode isPlain n.toList))) =
      some ns := by
  have free : ∀ piece ∈ ns.map (fun n => Percent.encode isPlain n.toList), '/' ∉ piece := by
    rw [List.forall_mem_map]
    exact fun n _ slash => (isShown_encode _ _ slash).url.2.2.2.2 rfl
  have read (n : String) :
      (Utf8.decodeString (Percent.decode (Percent.encode isPlain n.toList))).toOption = some n := by
    have escaped : isPlain '%' = false := by decide
    have bytes := Percent.decode_encode_append escaped n.toList []
    rw [List.append_nil] at bytes
    have back := Utf8.decodeString_encodeString n
    rw [Utf8.encodeString] at back
    rw [bytes, Percent.decode, Percent.decodeFrom, List.append_nil, back]
    rfl
  have each : (fun piece => (Utf8.decodeString (Percent.decode piece)).toOption) ∘
      (fun n : String => Percent.encode isPlain n.toList) = fun n => pure (id n) := funext read
  rw [names?, String.toList_ofList, List.splitOn_intercalate _ free (by simpa using ne),
    List.mapM_map, each, List.mapM_pure, List.map_id]
  rfl

open Endpoint in
/-- A server reads the names off an escaped path. -/
theorem names?_path (ns : List String) :
    names? (UrlPath.segments (ns.map encodeSegment)).render = some ("" :: ns) := by
  have read := names?_intercalate (List.cons_ne_nil "" ns)
  rw [List.map_cons, String.toList_empty, Percent.encode, List.flatMap_nil, ← toList_render,
    String.ofList_toList] at read
  exact read

/-! ## Bare addresses -/

/-- The URL of a read at the address with the URL `u`. -/
def Endpoint.below (u : Url) (q : Read) : Url :=
  { u with path := .segments (Url.segments true [] (text q)) }

/-- Whether an address says nothing but a scheme, a host and perhaps a port. -/
def IsBare (address : String) : Prop :=
  ∃ scheme place, Url.IsWeb scheme ∧ place ≠ [] ∧
    (∀ c ∈ place, Url.endsAuthority c = false ∧ Url.isEdgeBlank c = false ∧ c ≠ '@') ∧
    address.toList = scheme.toList ++ ':' :: '/' :: '/' :: place

namespace IsBare

variable {address : String}

theorem base_eq (bare : IsBare address) : Endpoint.base address = address := by
  obtain ⟨scheme, place, -, ne, inside, h⟩ := bare
  obtain empty | ⟨s, c, rfl⟩ := List.eq_nil_or_concat place
  · exact absurd empty ne
  · have last : (c == '/') = false := by
      have := (inside c (by simp)).1
      rw [beq_eq_false_iff_ne]
      rintro rfl
      cases this
    have whole : address.toList = (scheme.toList ++ ':' :: '/' :: '/' :: s) ++ [c] := by simp [h]
    rw [Endpoint.base, trimEndString, whole,
      trimEnd_append_singleton (p := (· == '/')) last, ← whole, String.ofList_toList]

/-- The URL of an address that is nothing but a place. -/
theorem parse?_place {scheme : String} {place : List Char} (web : Url.IsWeb scheme)
    (h : address.toList = scheme.toList ++ ':' :: '/' :: '/' :: place) (ne : place ≠ [])
    (out : ∀ c ∈ place, Url.endsAuthority c = false)
    (shown : ∀ c ∈ place, Url.isEdgeBlank c = false) :
    Url.parse? address = (Url.authority? scheme place []).map fun (a, _) =>
      Url.ofAuthority scheme a [] := by
  rw [← List.append_nil place] at h
  exact Url.parse?_behind web h ne out (by simp) (by simpa using shown)

/-- The URL of a read is that of the address with the path of the read. -/
theorem parse?_url (bare : IsBare address) (q : Read) :
    Url.parse? (Endpoint.url address q) = (Url.parse? address).map (Endpoint.below · q) := by
  have base := bare.base_eq
  obtain ⟨scheme, place, web, ne, inside, h⟩ := bare
  have out : ∀ c ∈ place, Url.endsAuthority c = false := fun c hc => (inside c hc).1
  have shown : ∀ c ∈ place, Url.isEdgeBlank c = false := fun c hc => (inside c hc).2.1
  have text : (Endpoint.url address q).toList =
      scheme.toList ++ ':' :: '/' :: '/' :: (place ++ '/' :: Endpoint.text q) := by
    rw [Endpoint.toList_url, base, h]
    simp
  have whole := Url.parse?_behind web text ne out (by simp [Url.endsAuthority, Url.isSeparator])
    (List.forall_mem_append.2 ⟨shown, fun c hc => (Endpoint.url_of_mem_text hc).2.1⟩)
  have alone := parse?_place web h ne out shown
  rw [whole, alone, Option.map_map]
  have path : ∀ c ∈ Endpoint.text q, Url.endsPath c = false :=
    fun c hc => (Endpoint.url_of_mem_text (List.mem_cons_of_mem _ hc)).1
  simp only [Url.ofAuthority_path _ _ path]
  rfl

/-- The URL of a bare address has no user and no query. -/
theorem of_parse? (bare : IsBare address) {u : Url} (h : Url.parse? address = some u) :
    (u.scheme = "http" ∨ u.scheme = "https") ∧ u.username = "" ∧ u.password = none ∧
      u.query = none := by
  obtain ⟨scheme, place, web, ne, inside, hs⟩ := bare
  rw [parse?_place web hs ne (fun c hc => (inside c hc).1) fun c hc => (inside c hc).2.1] at h
  obtain ⟨⟨a, behind⟩, ha, rfl⟩ := Option.map_eq_some_iff.1 h
  have anonymous : '@' ∉ place := fun at_sign => (inside _ at_sign).2.2 rfl
  obtain ⟨name, password⟩ := Url.anonymous_of_authority? web anonymous ha
  exact ⟨web, name, password, rfl⟩

end IsBare

/-! ## Requests -/

namespace Client

theorem credentials?_of_anonymous {u : Url} (name : u.username = "")
    (password : u.password = none) : credentials? u = none := by
  rw [credentials?, name, password]
  rfl

/-- The request for a secret at a bare address. -/
theorem request_of_bare {c : Client} (bare : IsBare c.config.address) (q : Read) (id : String) :
    c.request q id =
      match Url.parse? c.config.address with
      | none => .error (.network .unbuildable)
      | some u =>
        if !((c.headers id none).all fun field => Http.isHeaderValue field.2) then
          .error (.network .unbuildable)
        else if !Http.isSendable (Endpoint.below u q) then
          .error (.network (.unsendable (Endpoint.below u q).render))
        else .ok ⟨Endpoint.below u q, c.headers id none⟩ := by
  rw [request, bare.parse?_url]
  cases h : Url.parse? c.config.address with
  | none => rfl
  | some u =>
    obtain ⟨-, name, password, -⟩ := bare.of_parse? h
    have none : credentials? (Endpoint.below u q) = none := credentials?_of_anonymous name password
    simp only [Option.map_some, none]
    rfl

/-- The target of a request, by the names that its path consists of. -/
theorem exists_names_of_request {c : Client} (bare : IsBare c.config.address) {q : Read}
    {id : String} {r : Http.Request} (sent : c.request q id = .ok r) :
    r.url.query = none ∧ ∃ ns, names? r.url.target = some ("" :: ns) ∧ (∀ n ∈ ns, IsName n) ∧
      (q.IsOrdinary → ns = q.names) := by
  rw [request_of_bare bare] at sent
  split at sent
  · cases sent
  · next u parsed =>
    obtain ⟨-, -, -, query⟩ := bare.of_parse? parsed
    split at sent
    · cases sent
    split at sent
    · cases sent
    obtain rfl := Except.ok.inj sent
    obtain ⟨ns, path, named, same⟩ := Endpoint.exists_names q
    refine ⟨query, ns, ?_, named, same⟩
    have target : (Endpoint.below u q).target =
        (UrlPath.segments (ns.map Endpoint.encodeSegment)).render := by
      simp [Url.target, Endpoint.below, query, path]
    rw [target, names?_path]

/-- A request has no query, and a server reads the names on the way to the secret off its target
exactly if the mount and the segments are names. Where they are, different secrets of one engine
have different targets. -/
theorem names?_request_iff {c : Client} (bare : IsBare c.config.address) {q : Read} {id : String}
    {r : Http.Request} (sent : c.request q id = .ok r) :
    r.url.query = none ∧ (names? r.url.target = some ("" :: q.names) ↔ q.IsOrdinary) ∧
      ∀ p id' r', c.request p id' = .ok r' → p.engine = q.engine → p.IsOrdinary → q.IsOrdinary →
        r'.url.target = r.url.target → p = q := by
  obtain ⟨query, ns, read, named, same⟩ := exists_names_of_request bare sent
  refine ⟨query, ⟨fun h => ?_, fun ordinary => ?_⟩, ?_⟩
  · rw [read, Option.some.injEq, List.cons.injEq] at h
    exact Read.forall_names.1 (h.2 ▸ named)
  · rw [read, same ordinary]
  · intro p id' r' sent' engine ordinary' ordinary target
    obtain ⟨-, ns', read', -, same'⟩ := exists_names_of_request bare sent'
    rw [target, read, Option.some.injEq, List.cons.injEq, same ordinary, same' ordinary'] at read'
    exact Read.eq_of_names engine read'.2.symm

/-! ## A server on this machine -/

/-- A client of a server on this machine. -/
def ofThisMachine : Client :=
  ⟨{ address := "http://127.0.0.1:8200", token := "t", vaultNamespace := none, timeout := 60000
     userAgentSuffix := none, allowInsecureHttp := false }⟩

/-- The URL of the server on this machine. -/
def thisMachine : Url :=
  { scheme := "http", host := some (.ipv4 0x7F000001), port := some 8200, path := .segments [""] }

theorem isBare_ofThisMachine : IsBare ofThisMachine.config.address := by
  have inside : ∀ c ∈ "127.0.0.1:8200".toList,
      Url.endsAuthority c = false ∧ Url.isEdgeBlank c = false ∧ c ≠ '@' := by
    rw [← List.forall_iff_forall_mem]
    decide
  exact ⟨"http", _, .inl rfl, by decide, inside, rfl⟩

theorem parse?_ofThisMachine : Url.parse? ofThisMachine.config.address = some thisMachine := by
  decide +kernel

theorem headers_ofThisMachine :
    ((ofThisMachine.headers "id" none).all fun field => Http.isHeaderValue field.2) = true := by
  decide +kernel

theorem request_ofThisMachine (q : Read)
    (sendable : Http.isSendable (Endpoint.below thisMachine q) = true) :
    ofThisMachine.request q "id" =
      .ok ⟨Endpoint.below thisMachine q, ofThisMachine.headers "id" none⟩ := by
  rw [request_of_bare isBare_ofThisMachine, parse?_ofThisMachine]
  simp [headers_ofThisMachine, sendable]

theorem names?_request_ofThisMachine :
    ∃ r r', ofThisMachine.request ⟨.v2, "kv", "team a/db#1"⟩ "id" = .ok r ∧
      ofThisMachine.request ⟨.v2, "kv", "team a%2Fdb#1"⟩ "id" = .ok r' ∧
      names? r.url.target = some ["", "v1", "kv", "data", "team a", "db#1"] ∧
      r'.url.target ≠ r.url.target := by
  have sent := request_ofThisMachine ⟨.v2, "kv", "team a/db#1"⟩ (by decide +kernel)
  have sent' := request_ofThisMachine ⟨.v2, "kv", "team a%2Fdb#1"⟩ (by decide +kernel)
  obtain ⟨-, read, injective⟩ := names?_request_iff isBare_ofThisMachine sent
  refine ⟨_, _, sent, sent', read.2 (by decide), fun same => ?_⟩
  exact absurd (injective _ _ _ sent' rfl (by decide) (by decide) same) (by decide)

/-- A backslash makes two secrets one, and a mount of dots leads out of the engine. -/
theorem names?_request_ne_names :
    ∃ r r' r'', ofThisMachine.request ⟨.v2, "kv", "a\\b"⟩ "id" = .ok r ∧
      ofThisMachine.request ⟨.v2, "kv", "a/b"⟩ "id" = .ok r' ∧
      ofThisMachine.request ⟨.v2, "..", "sys/seal"⟩ "id" = .ok r'' ∧
      names? r.url.target = some ["", "v1", "kv", "data", "a", "b"] ∧
      r'.url.target = r.url.target ∧
      names? r''.url.target = some ["", "data", "sys", "seal"] :=
  ⟨_, _, _, request_ofThisMachine _ (by decide +kernel),
    request_ofThisMachine _ (by decide +kernel), request_ofThisMachine _ (by decide +kernel),
    by decide +kernel, by decide +kernel, by decide +kernel⟩

end Client

end SecretTemplate
