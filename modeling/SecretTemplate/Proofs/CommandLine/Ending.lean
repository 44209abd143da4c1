import SecretTemplate.CommandLine.Run
import SecretTemplate.Proofs.FileTree.Rewriting
import SecretTemplate.Proofs.Vault.Mirror

/-!
# How a run ends

A run reads its secrets through a client. If the server serves a source of secrets, the run ends as
it does when the source itself answers the reads, and the client asks for what is read from the
source, in order. So what holds of all runs against all sources holds of the program.

Results:
1. `respects_work`: the work of a run respects agreement.
2. `course_run_iff`: a run that is ready does its work through its client.
3. `ends_of_work`: how a run ends is decided by its work against a source of secrets.
4. `exists_course_of_ends`: so it ends with a server that holds one secret.
-/

namespace SecretTemplate.CommandLine

open Dialogue Text

variable {a : Arguments} {env : Environment} {d : Delimiter} {c : Client} {input : List UInt8}
  {tree : FileTree} {reader : Reader} {p : Progress} {failure : Option RunError}
  {reads : List Read}

/-- How a run ends, and what it reads, when a source of secrets answers the reads. -/
def against (a : Arguments) (env : Environment) (input : List UInt8) (tree : FileTree)
    (reader : Reader) : Outcome × List Read :=
  match prepare a env with
  | .error cause => (conclude { tree } (some cause), [])
  | .ok (d, _) =>
    let ((p, failure), reads) := (work a d input tree).run reader
    (conclude p failure, reads)

/-- A run ends with an outcome after reads from a source of secrets: when the source answers the
reads, and whenever the run asks a server, through the client, that serves the source. -/
structure Ends (c : Client) (a : Arguments) (env : Environment) (input : List UInt8)
    (tree : FileTree) (reader : Reader) (o : Outcome) (reads : List Read) : Prop where
  against : CommandLine.against a env input tree reader = (o, reads)
  served : ∀ log other, Course (run a env input tree) log other → c.Serves reader reads log →
    other = o ∧ c.Asks reads log

theorem Ends.eq_against {o : Outcome} (h : Ends c a env input tree reader o reads) :
    o = (CommandLine.against a env input tree reader).1 ∧
      reads = (CommandLine.against a env input tree reader).2 := by
  rw [h.against]
  exact ⟨rfl, rfl⟩

@[simp] theorem tree_conclude (p : Progress) (failure : Option RunError) :
    (conclude p failure).tree = p.tree := by
  cases failure <;> rfl

theorem respects_patchInput (d : Delimiter) (input : List UInt8) :
    Respects (fun _ => Agree) (patchInput d input) := by
  unfold patchInput
  cases Utf8.decodeString input with
  | error cause => exact .done _
  | ok text => exact Respects.bind (d.respects_patch text) fun _ => .done _

/-- The work of a run respects agreement. -/
theorem respects_work (a : Arguments) (d : Delimiter) (input : List UInt8) (tree : FileTree) :
    Respects (fun _ => Agree) (work a d input tree) := by
  unfold work
  split
  · refine Respects.bind (respects_patchInput d input) fun outcome => ?_
    cases outcome <;> exact .done _
  · cases tree.collect a.recursive a.files with
    | error cause => exact .done _
    | ok paths =>
      exact Respects.bind (Progress.respects_patchAll d a.inPlace { tree } paths) fun _ => .done _

/-! ## The work against a source of secrets -/

theorem run_work_of_collect_error (input : List UInt8) (named : a.files ≠ [])
    {cause : FileError} (failed : tree.collect a.recursive a.files = .error cause) :
    (work a d input tree).run reader = (({ tree }, some (.file cause)), []) := by
  rw [work, if_neg named, failed]
  rfl

theorem run_work_of_collect (input : List UInt8) (named : a.files ≠ []) {paths : List String}
    (collected : tree.collect a.recursive a.files = .ok paths) {fault : Option FileError}
    (patched : (Progress.patchAll d a.inPlace { tree } paths).run reader = ((p, fault), reads)) :
    (work a d input tree).run reader = ((p, fault.map .file), reads) := by
  rw [work, if_neg named, collected]
  exact run_bind_of_done patched rfl

/-- A run that is ready does its work through its client. -/
theorem course_run_iff (ready : prepare a env = .ok (d, c)) {log : Log Http.Wire Http.Wire.Answer}
    {o : Outcome} :
    Course (run a env input tree) log o ↔
      ∃ p failure, Course ((work a d input tree).through c.read) log (p, failure) ∧
        o = conclude p failure := by
  rw [run, ready]
  constructor
  · intro course
    obtain ⟨⟨p, failure⟩, front, back, rfl, first, last⟩ := course_bind_iff.1 course
    obtain ⟨rfl, rfl⟩ := course_done_iff.1 last
    rw [List.append_nil]
    exact ⟨p, failure, first, rfl⟩
  · rintro ⟨p, failure, first, rfl⟩
    exact course_bind_iff.2 ⟨(p, failure), log, [], (List.append_nil log).symm, first, .done _⟩

/-- How a run ends is decided by its work against a source of secrets. -/
theorem ends_of_work (ready : prepare a env = .ok (d, c))
    (worked : (work a d input tree).run reader = ((p, failure), reads)) :
    Ends c a env input tree reader (conclude p failure) reads where
  against := by
    rw [against, ready]
    simp only [worked]
  served log other course serves := by
    obtain ⟨p', failure', through, rfl⟩ := (course_run_iff ready).1 course
    have result : (work a d input tree).result reader = (p, failure) := congrArg Prod.fst worked
    have asked : (work a d input tree).asked reader = reads := congrArg Prod.snd worked
    rw [← asked] at serves ⊢
    obtain ⟨same, asks⟩ := Client.result_of_serves (respects_work a d input tree) serves through
    obtain ⟨rfl, rfl⟩ := Prod.mk.inj (same.trans result)
    exact ⟨rfl, asks⟩

/-! ## With a server on this machine -/

/-- An environment that names that server. -/
def localEnvironment : Environment :=
  { bindings := [("VAULT_ADDR", Utf8.encodeString "http://127.0.0.1:8200"),
      ("VAULT_TOKEN", Utf8.encodeString "t")] }

theorem prepare_localEnvironment (standard : a.delimiter = none)
    (guarded : a.allowInsecureHttp = false) :
    prepare a localEnvironment = .ok (.standard, Client.ofThisMachine) := by
  have settings : localEnvironment.settings =
      .ok { address := "http://127.0.0.1:8200", token := some "t" } := by decide +kernel
  have built : Client.build { address := "http://127.0.0.1:8200", token := some "t" } =
      .ok Client.ofThisMachine := by decide +kernel
  simp only [prepare, standard, guarded, settings, Option.elim_none, Except.mapError, Bind.bind,
    Except.bind, built, Pure.pure, Except.pure]

/-- With a server that holds one secret a run that reads no other ends as it does against that
secret. -/
theorem exists_course_of_ends {o : Outcome}
    (ends : Ends Client.ofThisMachine a env input tree
      (Client.oneSecret ⟨.v2, "kv", "a"⟩).reader o reads)
    (only : ∀ q ∈ reads, q = ⟨.v2, "kv", "a"⟩) :
    ∃ log, Course (run a env input tree) log o := by
  have can : (Url.parse? (Endpoint.url Client.ofThisMachine.config.address
      ⟨.v2, "kv", "a"⟩)).all Http.isSendable = true := by decide +kernel
  have clear : ∀ q ∈ reads, q.IsClear ∧ Client.ofThisMachine.CanAsk q := by
    intro q hq
    rw [only q hq]
    exact ⟨by decide, fun u hu => (Option.all_eq_true _ _).1 can u hu⟩
  have course := course_run Client.oneSecretWorld (run a env input tree)
  have serves := (Client.isMirrored_oneSecretWorld
    ((run a env input tree).asked Client.oneSecretWorld)).serves clear
  obtain ⟨same, -⟩ := ends.served _ _ course serves
  exact ⟨_, same ▸ course⟩

end SecretTemplate.CommandLine
