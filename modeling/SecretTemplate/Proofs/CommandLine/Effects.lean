import SecretTemplate.Proofs.CommandLine.Ending

/-!
# What a run does to the files

A run over files looks at all its paths before it touches one. If they can be collected, a run in
place rewrites the files that they lead to in turn, each from its content by then, up to the first
that is refused. What it has rewritten stays, and nothing else changes.

Results:
1. `tree_of_course_work`: a run that puts texts out changes no file.
2. `effects_of_prepare`: what a run over files changes, and what it reads.
-/

namespace SecretTemplate.CommandLine

open Dialogue Text

variable {a : Arguments} {env : Environment} {d : Delimiter} {c : Client}

/-- A run that puts texts out changes no file, whatever the answers to its reads are. -/
theorem tree_of_course_work (named : a.files ≠ []) (toOutput : a.inPlace = false)
    {input : List UInt8} {tree : FileTree} {log : Log Read fun _ => Answer} {p : Progress}
    {failure : Option RunError} (course : Course (work a d input tree) log (p, failure)) :
    p.tree = tree := by
  rw [work, if_neg named] at course
  cases collected : tree.collect a.recursive a.files with
  | error cause =>
    rw [collected] at course
    obtain ⟨-, same⟩ := course_done_iff.1 course
    rw [(Prod.mk.inj same).1]
  | ok paths =>
    rw [collected, toOutput] at course
    obtain ⟨⟨q, fault⟩, _, _, -, patched, last⟩ := course_bind_iff.1 course
    obtain ⟨-, same⟩ := course_done_iff.1 last
    rw [(Prod.mk.inj same).1]
    exact Progress.tree_of_course_patchAll patched

/-- A run over files ends before it reads anything if its paths cannot be collected. It changes a
file only in place, and then only the files that its paths lead to, in turn, up to the first that is
refused: that one and those behind it are left alone, and nothing is read for those behind it. A run
that is not in place changes no file, whatever the server answers. -/
theorem effects_of_prepare (ready : prepare a env = .ok (d, c)) (named : a.files ≠ [])
    (input : List UInt8) (tree : FileTree) (reader : Reader) :
    ∃ o reads, Ends c a env input tree reader o reads ∧
      (∀ cause, tree.collect a.recursive a.files = .error cause →
        o.tree = tree ∧ reads = [] ∧ o.exitCode = 1 ∧
          ∀ log other, Course (run a env input tree) log other → other = o ∧ log = []) ∧
      (a.inPlace = false → o.tree = tree ∧
        ∀ log other, Course (run a env input tree) log other → other.tree = tree) ∧
      ∀ paths, tree.collect a.recursive a.files = .ok paths → a.inPlace = true →
        ∃ done later read, paths = done ++ later ∧
          FileTree.Rewritten reader d tree done o.tree read ∧
          (later = [] ∧ reads = read ∧ o.exitCode = 0 ∨
            ∃ bad rest cause more, later = bad :: rest ∧
              FileTree.Refuses reader d o.tree bad cause more ∧
              reads = read ++ more ∧ o.exitCode = 1) ∧
          (∀ place, (∀ path ∈ done, tree.resolve path ≠ .ok place) →
            o.tree.sight? place = tree.sight? place) ∧
          ∀ path, o.tree.resolve path = tree.resolve path := by
  generalize worked : (work a d input tree).run reader = ending
  obtain ⟨⟨p, failure⟩, reads⟩ := ending
  have ends := ends_of_work ready worked
  refine ⟨_, _, ends, ?_, ?_, ?_⟩
  · intro cause failed
    cases worked.symm.trans (run_work_of_collect_error input named failed)
    refine ⟨rfl, rfl, rfl, fun log other course => ?_⟩
    obtain ⟨same, asks⟩ := ends.served log other course (List.forall_mem_nil _)
    exact ⟨same, Client.asks_nil_iff.1 asks⟩
  · intro toOutput
    constructor
    · have course := course_run reader (work a d input tree)
      rw [result, worked] at course
      rw [tree_conclude]
      exact tree_of_course_work named toOutput course
    · intro log other course
      obtain ⟨p, failure, through, rfl⟩ := (course_run_iff ready).1 course
      obtain ⟨_, course, -⟩ := course_through_iff.1 through
      rw [tree_conclude]
      exact tree_of_course_work named toOutput course
  · intro paths collected inPlace
    obtain ⟨done, later, u, read, split, rewritten, final⟩ :=
      Progress.run_patchAll_inPlace reader d { tree } paths
    rw [← inPlace] at final
    rcases final with ⟨none, patched⟩ | ⟨bad, rest, cause, more, first, refused, patched⟩
    · cases worked.symm.trans (run_work_of_collect input named collected patched)
      exact ⟨done, later, _, split, rewritten, .inl ⟨none, rfl, rfl⟩,
        fun _ => rewritten.elsewhere, rewritten.resolve⟩
    · cases worked.symm.trans (run_work_of_collect input named collected patched)
      exact ⟨done, later, read, split, rewritten,
        .inr ⟨bad, rest, cause, more, first, refused, rfl, rfl⟩,
        fun _ => rewritten.elsewhere, rewritten.resolve⟩

/-- A template, a link to it from the root, a file that nobody can read, and another template. -/
def someFiles : FileTree :=
  { top := .dir [("w", .dir [("a", .file (Utf8.encodeString "<@@path=kv/a,field=f@@>")),
      ("b", .link "/w/a"), ("e", .file [0xFF]),
      ("f", .file (Utf8.encodeString "@@path=kv/a,field=f@@"))])]
    cwd := ["w"]
    barred := [((.read, ["w", "e"]), .denied)] }

/-- A command line that names them all, in place. -/
def someLine : Arguments := { inPlace := true, files := ["/w/a", "../w/b", "e", "f"] }

/-- The template is patched, and again through the link, which finds no token any more. The file
that nobody can read ends the run. -/
theorem effects_of_prepare_someFiles :
    ∃ log o, Course (run someLine localEnvironment [] someFiles) log o ∧ o.exitCode = 1 ∧
      o.complaint = "error: failed to read e: Permission denied (os error 13)\n" ∧
      o.tree.sight? ["w", "a"] = some (.file (Utf8.encodeString "<x>")) ∧
      o.tree.sight? ["w", "e"] = someFiles.sight? ["w", "e"] ∧
      o.tree.sight? ["w", "f"] = someFiles.sight? ["w", "f"] := by
  have named : someLine.files ≠ [] := by decide
  obtain ⟨o, reads, ends, -, -, -⟩ := effects_of_prepare (prepare_localEnvironment rfl rfl) named []
    someFiles (Client.oneSecret ⟨.v2, "kv", "a"⟩).reader
  obtain ⟨outcome, once⟩ := ends.eq_against
  have once : reads = [⟨.v2, "kv", "a"⟩] := by
    rw [once]
    decide +kernel
  obtain ⟨log, course⟩ := exists_course_of_ends ends (by simp [once])
  refine ⟨log, o, course, ?_⟩
  rw [outcome]
  refine ⟨?_, ?_, ?_, ?_, ?_⟩ <;> decide +kernel

end SecretTemplate.CommandLine
