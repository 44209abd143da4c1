import SecretTemplate.Proofs.FileTree.Order
import SecretTemplate.Proofs.FileTree.Writing
import SecretTemplate.Proofs.Lookup

/-!
# Below a directory

The names of entries lead down from a directory, and no link is followed on the way. The path that
adds these names to a path of the directory leads to what is found there, whatever links the path of
the directory itself goes through and wherever it starts.

Results:
1. `Node.forall_of_entries`: what holds of a directory if it holds of its entries holds of all
   nodes.
2. `Node.IsWellNamed.at?_cons_iff`: names lead to what they lead to from an entry.
3. `resolveFrom_append`: the end of a path may be exchanged for another.
4. `resolve_below`: the path of what is found below a directory leads there.
-/

namespace SecretTemplate

namespace Node

/-- What holds of files and links, and of a directory whose entries it holds of, holds of every
node. -/
theorem forall_of_entries {P : Node → Prop} (file : ∀ content, P (.file content))
    (link : ∀ target, P (.link target))
    (dir : ∀ entries : List (String × Node), (∀ e ∈ entries, P e.2) → P (.dir entries))
    (n : Node) : P n :=
  n.rec (motive_2 := fun entries => ∀ e ∈ entries, P e.2) (motive_3 := fun e => P e.2)
    file link dir (List.forall_mem_nil _)
    (fun _ _ first rest => List.forall_mem_cons.2 ⟨first, rest⟩) (fun _ _ h => h)

/-- Whether each directory from a node on has entries of different names, all of them names that an
entry can have. -/
def IsWellNamed (n : Node) : Prop :=
  ∀ names entries, n.at? names = some (.dir entries) →
    (entries.map Prod.fst).Nodup ∧ ∀ e ∈ entries, IsEntryName e.1

variable {n m : Node} {entries : List (String × Node)} {names : List String}

theorem IsWellNamed.at? (h : n.IsWellNamed) (there : n.at? names = some m) : m.IsWellNamed := by
  intro more entries behind
  refine h (names ++ more) entries ?_
  rw [at?_append, there]
  exact behind

/-- Nothing is behind what is no directory. -/
theorem eq_of_at?_leaf (leaf : n.entries? = none) (there : n.at? names = some m) :
    names = [] ∧ m = n := by
  cases names with
  | nil => exact ⟨rfl, (Option.some.inj there).symm⟩
  | cons name names =>
    rw [Node.at?, leaf] at there
    cases there

/-- What further names lead on from is a directory. -/
theorem exists_entries_of_at?_append {front back : List String} (ne : back ≠ [])
    (there : n.at? (front ++ back) = some m) : ∃ entries, n.at? front = some (.dir entries) := by
  rw [at?_append] at there
  obtain ⟨d, hd, onward⟩ := Option.bind_eq_some_iff.1 there
  cases d with
  | file | link => exact absurd (eq_of_at?_leaf rfl onward).1 ne
  | dir entries => exact ⟨entries, hd⟩

theorem at?_cons (entries : List (String × Node)) (name : String) (names : List String) :
    (dir entries).at? (name :: names) = (entries.lookup name).bind (·.at? names) := rfl

theorem isWellNamed_leaf (leaf : n.entries? = none) : n.IsWellNamed := by
  intro names entries there
  obtain ⟨-, rfl⟩ := eq_of_at?_leaf leaf there
  cases leaf

theorem isWellNamed_dir (nodup : (entries.map Prod.fst).Nodup)
    (each : ∀ e ∈ entries, IsEntryName e.1 ∧ e.2.IsWellNamed) : (dir entries).IsWellNamed := by
  intro names inner there
  cases names with
  | nil =>
    obtain rfl := Node.dir.inj (Option.some.inj there)
    exact ⟨nodup, fun e he => (each e he).1⟩
  | cons name names =>
    rw [at?_cons] at there
    obtain ⟨n, hn, behind⟩ := Option.bind_eq_some_iff.1 there
    exact (each (name, n) ((lookup_eq_some_iff_mem nodup).1 hn)).2 names inner behind

/-- Names lead from a directory to what they lead to from its entry of the first name. -/
theorem IsWellNamed.at?_cons_iff (h : (dir entries).IsWellNamed) {name : String} :
    (dir entries).at? (name :: names) = some m ↔
      ∃ n, (name, n) ∈ entries ∧ n.at? names = some m := by
  have nodup : (entries.map Prod.fst).Nodup := (h [] entries rfl).1
  rw [at?_cons, Option.bind_eq_some_iff]
  refine exists_congr fun n => and_congr_left fun _ => ?_
  exact lookup_eq_some_iff_mem nodup

theorem IsWellNamed.entry (h : (dir entries).IsWellNamed) {e : String × Node} (he : e ∈ entries) :
    e.2.IsWellNamed := by
  have there : (dir entries).at? [e.1] = some e.2 := h.at?_cons_iff.2 ⟨e.2, he, rfl⟩
  exact h.at? there

/-- The names on the way from a node to another are names of entries. -/
theorem IsWellNamed.isEntryName (h : n.IsWellNamed) (there : n.at? names = some m) :
    ∀ name ∈ names, IsEntryName name := by
  induction names generalizing n with
  | nil => exact List.forall_mem_nil _
  | cons name names ih =>
    cases n with
    | file | link => cases there
    | dir entries =>
      obtain ⟨n, hn, behind⟩ := h.at?_cons_iff.1 there
      exact List.forall_mem_cons.2 ⟨(h [] entries rfl).2 (name, n) hn, ih (h.entry hn) behind⟩

end Node

namespace FileTree

open Node

variable {t : FileTree} {path : String} {n : Node} {names : List String}

/-! ## Along names -/

section

variable {budget : Nat} {here rest place : List String} {name : String}

theorem resolveFrom_nil (t : FileTree) (budget : Nat) (here : List String) :
    t.resolveFrom budget here [] = .ok here := by
  cases budget <;> rfl

theorem resolveFrom_of_stop {cause : FileFault} (step : t.step here name = .stop cause) :
    t.resolveFrom budget here (name :: rest) = .error cause := by
  cases budget <;> rw [resolveFrom, walk, step]

theorem resolveFrom_of_place {there : List String} (step : t.step here name = .place there) :
    t.resolveFrom budget here (name :: rest) = t.resolveFrom budget there rest := by
  cases budget <;> rw [resolveFrom, walk, step]

/-- A link is followed if there is one more to follow, to where its target and the names behind it
lead. -/
theorem resolveFrom_of_link {target : String} (step : t.step here name = .link target) :
    t.resolveFrom budget here (name :: rest) = .ok place ↔
      ∃ fewer ahead, budget = fewer + 1 ∧ FileTree.names target = .ok ahead ∧
        t.resolveFrom fewer (origin here ahead) (ahead ++ rest) = .ok place := by
  cases budget with
  | zero =>
    rw [resolveFrom, walk, step]
    simp
  | succ fewer =>
    rw [resolveFrom, walk, step]
    cases found : FileTree.names target with
    | error cause => simp [found, bind, Except.bind]
    | ok ahead => simp [found, bind, Except.bind]

end

/-- What stands at the end of a path may be exchanged for what leads on from where it leads. The
inductions are on the number of links and on the names in front. -/
theorem resolveFrom_append {back more place goal : List String}
    (onward : ∀ budget here, t.resolveFrom budget here back = .ok place →
      t.resolveFrom budget here more = .ok goal) (budget : Nat) {here front : List String}
    (leads : t.resolveFrom budget here (front ++ back) = .ok place) :
    t.resolveFrom budget here (front ++ more) = .ok goal := by
  induction budget using Nat.strongRecOn generalizing here front with
  | ind budget through =>
    induction front generalizing here with
    | nil => exact onward budget here leads
    | cons name front along =>
      rw [List.cons_append] at leads ⊢
      cases step : t.step here name with
      | stop cause =>
        rw [resolveFrom_of_stop step] at leads
        cases leads
      | place there =>
        rw [resolveFrom_of_place step] at leads ⊢
        exact along leads
      | link target =>
        rw [resolveFrom_of_link step] at leads ⊢
        obtain ⟨fewer, ahead, rfl, found, leads⟩ := leads
        refine ⟨fewer, ahead, rfl, found, ?_⟩
        rw [← List.append_assoc] at leads ⊢
        exact through fewer (Nat.lt_succ_self fewer) leads

theorem step_empty (t : FileTree) (here : List String) :
    t.step here "" = .stop .notDirectory ∨ t.step here "" = .place here := by
  unfold step
  cases (t.top.at? here).bind entries? with
  | none => exact .inl rfl
  | some entries => exact .inr (if_pos rfl)

/-- An empty piece leads from a directory to itself, and nowhere else. -/
theorem eq_of_resolveFrom_empty {budget : Nat} {here place : List String}
    (leads : t.resolveFrom budget here [""] = .ok place) : place = here := by
  rcases t.step_empty here with stop | stay
  · rw [resolveFrom_of_stop stop] at leads
    cases leads
  · rw [resolveFrom_of_place stay, resolveFrom_nil] at leads
    exact (Except.ok.inj leads).symm

/-- An entry of a directory is found under its name, if it is no link. -/
theorem step_name {here : List String} {entries : List (String × Node)} {name : String}
    (h : IsEntryName name) (here_is : t.top.at? here = some (.dir entries))
    (free : t.bar? .search here = none) (found : entries.lookup name = some n)
    (unlinked : ∀ target, n ≠ .link target) : t.step here name = .place (here ++ [name]) := by
  have size : ¬maxName < name.utf8ByteSize := Nat.not_lt.2 h.size_le
  rw [step, here_is, Option.bind_some, entries?]
  simp only [h.ne_empty, h.ne_here, h.ne_parent, size, if_false, free, found]

/-- Whether names can be looked for from a place on, each in the directory to which those in front
of it lead. -/
def IsPassable (t : FileTree) (here names : List String) : Prop :=
  ∀ front back, names = front ++ back → back ≠ [] → t.bar? .search (here ++ front) = none

theorem IsPassable.first {here : List String} {name : String}
    (h : t.IsPassable here (name :: names)) : t.bar? .search here = none := by
  have first := h [] (name :: names) rfl (List.cons_ne_nil _ _)
  rwa [List.append_nil] at first

theorem IsPassable.rest {here : List String} {name : String}
    (h : t.IsPassable here (name :: names)) : t.IsPassable (here ++ [name]) names := by
  intro front back split ne
  rw [← List.append_cons]
  exact h (name :: front) back (congrArg (name :: ·) split) ne

/-- Names of entries lead from a place to what is below it, if that is no link. -/
theorem resolveFrom_of_at? {here : List String} (h : ∀ name ∈ names, IsEntryName name)
    (there : t.top.at? (here ++ names) = some n) (unlinked : ∀ target, n ≠ .link target)
    (free : t.IsPassable here names) (budget : Nat) :
    t.resolveFrom budget here names = .ok (here ++ names) := by
  induction names generalizing here with
  | nil => rw [resolveFrom_nil, List.append_nil]
  | cons name names ih =>
    rw [List.forall_mem_cons] at h
    obtain ⟨d, hd, inside⟩ := Option.bind_eq_some_iff.1 ((at?_append _ _ _).symm.trans there)
    cases d with
    | file | link => cases inside
    | dir entries =>
      obtain ⟨m, hm, behind⟩ := Option.bind_eq_some_iff.1 inside
      have unlinked_first : ∀ target, m ≠ .link target := by
        rintro target rfl
        cases names with
        | nil => exact unlinked target (Option.some.inj behind).symm
        | cons => cases behind
      have onward := step_name h.1 hd free.first hm unlinked_first
      rw [List.append_cons] at there
      rw [resolveFrom_of_place onward, List.append_cons here name names]
      exact ih h.2 there free.rest

/-! ## Along paths -/

/-- A path that can be followed is followed piece by piece. -/
theorem names_eq_ok {parts : List String} (h : FileTree.names path = .ok parts) :
    parts = pieces path := by
  unfold FileTree.names at h
  split at h
  · cases h
  split at h
  · cases h
  split at h
  · cases h
  · exact (Except.ok.inj h).symm

theorem resolve_eq_ok_iff {place : List String} :
    t.resolve path = .ok place ↔
      FileTree.names path = .ok (pieces path) ∧
        t.resolveFrom maxLinks (origin t.cwd (pieces path)) (pieces path) = .ok place := by
  unfold resolve
  cases parts : FileTree.names path with
  | error cause => simp [bind, Except.bind]
  | ok parts' =>
    obtain rfl := names_eq_ok parts
    simp [bind, Except.bind]

theorem node_eq_ok_iff :
    t.node path = .ok n ↔ ∃ place, t.resolve path = .ok place ∧ t.top.at? place = some n := by
  unfold node
  cases t.resolve path with
  | error cause => simp [bind, Except.bind]
  | ok place =>
    simp only [bind, Except.bind, Except.ok.injEq, exists_eq_left']
    cases t.top.at? place with
    | none => simp [throw, throwThe, MonadExceptOf.throw]
    | some m => simp [pure, Except.pure]

theorem ne_empty_of_resolve {place : List String} (leads : t.resolve path = .ok place) :
    path ≠ "" := by
  rintro rfl
  have nowhere : FileTree.names "" ≠ .ok (pieces "") := by decide
  exact nowhere (resolve_eq_ok_iff.1 leads).1

/-- Where names are followed from shows in the first of them. -/
theorem origin_append (here : List String) {front : List String} (ne : front ≠ [])
    (back : List String) : origin here (front ++ back) = origin here front := by
  obtain ⟨name, front, rfl⟩ := List.exists_cons_of_ne_nil ne
  rw [List.cons_append]
  unfold origin
  split <;> simp_all

/-- The path of what is found below a directory leads there, if that is no link. The path of the
directory may end in a slash, which the names replace. -/
theorem resolve_below {place : List String} (leads : t.resolve path = .ok place) (ne : names ≠ [])
    (h : ∀ name ∈ names, IsEntryName name) (there : t.top.at? (place ++ names) = some n)
    (unlinked : ∀ target, n ≠ .link target) (free : t.IsPassable place names)
    (look : FileTree.names (below path names) = .ok (pieces (below path names))) :
    t.resolve (below path names) = .ok (place ++ names) := by
  have there_is := ne_empty_of_resolve leads
  rw [resolve_eq_ok_iff] at leads ⊢
  refine ⟨look, ?_⟩
  obtain ⟨front, whole, ends⟩ := exists_pieces_below path ne h
  have onward := resolveFrom_of_at? h there unlinked free
  rcases ends with bare | slash
  · have front_ne : front ≠ [] := bare ▸ pieces_ne_nil path
    have leads : t.resolveFrom maxLinks (origin t.cwd front) (front ++ []) = .ok place := by
      rw [List.append_nil, ← bare]
      exact leads.2
    rw [whole, origin_append t.cwd front_ne]
    refine resolveFrom_append (fun budget here first => ?_) maxLinks leads
    obtain rfl := Except.ok.inj ((resolveFrom_nil _ _ _).symm.trans first)
    exact onward budget
  · have front_ne : front ≠ [] := by
      rintro rfl
      exact there_is (eq_empty_of_pieces slash)
    rw [slash, origin_append t.cwd front_ne] at leads
    rw [whole, origin_append t.cwd front_ne]
    refine resolveFrom_append (fun budget here first => ?_) maxLinks leads.2
    obtain rfl := eq_of_resolveFrom_empty first
    exact onward budget

end FileTree

end SecretTemplate
