import Mathlib
import SecretTemplate.Proofs.FileTree.Descent

/-!
# What directories stand for

A directory stands for the files in it and for the links in it that lead to files. On request it
also stands for those in the directories below it, but never for anything behind a link to a
directory, so links that lead in circles do no harm. Each of them is listed once, and all are in the
order of their paths. The entries of each directory are sorted by their names only, and this is
enough, since the order of paths compares components.

Results:
1. `exists_lists_listing`: the lists of the entries make up that of the directory.
2. `exists_lists_entryTargets`: what an entry stands for, by induction on what is below it.
3. `collect_expands`: what paths stand for.
-/

namespace SecretTemplate

namespace FileTree

open Node

variable {t : FileTree} {recursive : Bool} {path : String} {n m : Node}
  {entries : List (String × Node)} {names place : List String} {deep : Nat}

/-- Whether a node that is found at a path is a file, or a link that leads to one. -/
def IsPatchable (t : FileTree) (path : String) : Node → Prop
  | .file _ => True
  | .link _ => ∃ content, t.node path = .ok (.file content)
  | .dir _ => False

/-- Whether names lead no further down than one looks. -/
def Within (recursive : Bool) (deep : Nat) (names : List String) : Prop :=
  recursive = true ∨ names.length ≤ deep

/-- Everything that one looks at below the node at a place can be looked at by its path, and nothing
bars the directories that one enters. -/
structure CanLook (t : FileTree) (recursive : Bool) (deep : Nat) (path : String)
    (place : List String) (n : Node) : Prop where
  look : ∀ names m, n.at? names = some m → Within recursive deep names →
    FileTree.names (below path names) = .ok (pieces (below path names))
  enter : ∀ names entries, n.at? names = some (.dir entries) →
    recursive = true ∨ names.length < deep → ∀ access, t.bar? access (place ++ names) = none

theorem canLook_leaf (leaf : n.entries? = none) (look : FileTree.names path = .ok (pieces path)) :
    t.CanLook recursive deep path place n where
  look names m there _ := by
    obtain ⟨rfl, -⟩ := eq_of_at?_leaf leaf there
    exact look
  enter names entries there _ := by
    obtain ⟨-, rfl⟩ := eq_of_at?_leaf leaf there
    cases leaf

theorem canLook_dir (named : (Node.dir entries).IsWellNamed)
    (look : FileTree.names path = .ok (pieces path)) (enter : ∀ access, t.bar? access place = none)
    (each : ∀ e ∈ entries, t.CanLook true deep (join path e.1) (place ++ [e.1]) e.2) :
    t.CanLook true deep path place (.dir entries) where
  look names m there _ := by
    cases names with
    | nil => exact look
    | cons name names =>
      obtain ⟨n, hn, behind⟩ := named.at?_cons_iff.1 there
      exact (each (name, n) hn).look names m behind (.inl rfl)
  enter names inner there _ access := by
    cases names with
    | nil =>
      rw [List.append_nil]
      exact enter access
    | cons name names =>
      obtain ⟨n, hn, behind⟩ := named.at?_cons_iff.1 there
      rw [List.append_cons]
      exact (each (name, n) hn).enter names inner behind (.inl rfl) access

namespace CanLook

/-- What one looks at below an entry, one looks at below its directory. -/
theorem entry (h : t.CanLook recursive (deep + 1) path place (.dir entries))
    (named : (Node.dir entries).IsWellNamed) {e : String × Node} (he : e ∈ entries) :
    t.CanLook recursive deep (join path e.1) (place ++ [e.1]) e.2 where
  look names m hm within :=
    h.look (e.1 :: names) m (named.at?_cons_iff.2 ⟨e.2, he, hm⟩)
      (within.imp_right Nat.succ_le_succ)
  enter names inner hm within access := by
    rw [← List.append_cons]
    exact h.enter (e.1 :: names) inner (named.at?_cons_iff.2 ⟨e.2, he, hm⟩)
      (within.imp_right Nat.succ_lt_succ) access

theorem of_recursive (h : t.CanLook true deep path place n) (deep' : Nat) :
    t.CanLook true deep' path place n where
  look names m hm _ := h.look names m hm (.inl rfl)
  enter names inner hm _ := h.enter names inner hm (.inl rfl)

/-- The directories on the way to what one looks at are entered. -/
theorem isPassable (h : t.CanLook recursive deep path place n) (there : n.at? names = some m)
    (within : Within recursive deep names) : t.IsPassable place names := by
  rintro front back rfl ne
  obtain ⟨entries, hd⟩ := exists_entries_of_at?_append ne there
  refine h.enter front entries hd (within.imp_right fun short => ?_) .search
  rw [List.length_append] at short
  have more := List.length_pos_iff.2 ne
  omega

end CanLook

/-- The list holds the paths of what can be patched at a node and below it, in their order. -/
structure Lists (t : FileTree) (recursive : Bool) (deep : Nat) (path : String) (n : Node)
    (list : List String) : Prop where
  sorted : list.Pairwise Precedes
  mem_iff : ∀ p, p ∈ list ↔
    ∃ names m, n.at? names = some m ∧ Within recursive deep names ∧ p = below path names ∧
      t.IsPatchable p m

theorem dirTargets_eq_map (t : FileTree) (recursive : Bool) (path : String) (place : List String)
    (entries : List (String × Node)) :
    dirTargets t recursive path place entries = entries.map fun e =>
      (e.1, (t.stat place (join path e.1)).bind fun _ =>
        entryTargets t recursive (join path e.1) (place ++ [e.1]) e.2) := by
  induction entries with
  | nil => rfl
  | cons e rest ih => rw [dirTargets, ih, List.map_cons]

/-- The entries of a directory in the order of their names. -/
def byName (entries : List (String × Node)) : List (String × Node) :=
  entries.mergeSort fun a b => a.1 ≤ b.1

theorem mem_byName {e : String × Node} : e ∈ byName entries ↔ e ∈ entries :=
  (List.mergeSort_perm _ _).mem_iff

theorem byName_sorted (h : (entries.map Prod.fst).Nodup) :
    (byName entries).Pairwise fun a b => a.1 < b.1 := by
  have sorted : (byName entries).Pairwise fun a b => decide (a.1 ≤ b.1) = true := by
    refine List.pairwise_mergeSort (fun a b c hab hbc => ?_) (fun a b => ?_) entries
    · exact decide_eq_true (String.le_trans (of_decide_eq_true hab) (of_decide_eq_true hbc))
    · simpa using String.le_total a.1 b.1
  have apart : (byName entries).Pairwise fun a b => a.1 ≠ b.1 :=
    List.pairwise_map.1 (((List.mergeSort_perm _ _).map Prod.fst).nodup_iff.2 h)
  refine (sorted.and apart).imp fun {a b} ⟨le, ne⟩ => ?_
  exact String.not_le.1 fun ge => ne (String.le_antisymm (by simpa using le) ge)

/-- Lists that are all there are put one after the other, in the order of the names. -/
theorem inOrder_of_ok (entries : List (String × Node)) (lists : String × Node → List String) :
    inOrder (entries.map fun e => (e.1, .ok (lists e))) = .ok ((byName entries).flatMap lists) := by
  have sorts := List.map_mergeSort (l := entries) (r := fun a b => decide (a.1 ≤ b.1))
    (s := fun a b => decide (a.1 ≤ b.1))
    (f := fun e => (e.1, (.ok (lists e) : Except FileError (List String)))) fun _ _ _ _ => rfl
  have reads := List.mapM_pure (m := Except FileError) (l := byName entries) (f := lists)
  have each : (Prod.snd ∘ fun e : String × Node =>
      (e.1, (.ok (lists e) : Except FileError (List String)))) = fun e => pure (lists e) := rfl
  rw [inOrder, ← sorts, List.mapM_map, each, List.flatMap_def]
  change (List.mapM (fun e => pure (lists e)) (byName entries) >>= _) = _
  rw [reads]
  rfl

/-! ## What is below a node -/

/-- Behind what is no directory there is nothing. -/
theorem lists_of_leaf (leaf : n.entries? = none) {list : List String}
    (sorted : list.Pairwise Precedes) (mem : ∀ p, p ∈ list ↔ p = path ∧ t.IsPatchable path n) :
    t.Lists recursive deep path n list where
  sorted := sorted
  mem_iff p := by
    rw [mem]
    constructor
    · rintro ⟨rfl, file⟩
      exact ⟨[], n, rfl, .inr (Nat.zero_le deep), rfl, file⟩
    · rintro ⟨names, m, hm, -, rfl, file⟩
      obtain ⟨rfl, rfl⟩ := eq_of_at?_leaf leaf hm
      exact ⟨rfl, file⟩

/-- The lists of the entries make up that of the directory. What comes from one entry comes before
what comes from a later one, as the paths differ in the component of the entry first. -/
theorem lists_flatMap (named : (Node.dir entries).IsWellNamed) (there : path ≠ "")
    {lists : String × Node → List String}
    (each : ∀ e ∈ entries, t.Lists recursive deep (join path e.1) e.2 (lists e)) :
    t.Lists recursive (deep + 1) path (.dir entries) ((byName entries).flatMap lists) where
  sorted := by
    rw [List.pairwise_flatMap]
    refine ⟨fun e he => (each e (mem_byName.1 he)).sorted, ?_⟩
    have nodup : (entries.map Prod.fst).Nodup := (named [] entries rfl).1
    refine (byName_sorted nodup).imp_of_mem ?_
    intro a b ha hb lt p hp q hq
    obtain ⟨as, m, hm, -, rfl, -⟩ := ((each a (mem_byName.1 ha)).mem_iff p).1 hp
    obtain ⟨bs, k, hk, -, rfl, -⟩ := ((each b (mem_byName.1 hb)).mem_iff q).1 hq
    have names {e : String × Node} (he : e ∈ byName entries) {rest : List String} {n : Node}
        (hn : e.2.at? rest = some n) : ∀ name ∈ e.1 :: rest, IsEntryName name :=
      named.isEntryName (named.at?_cons_iff.2 ⟨e.2, mem_byName.1 he, hn⟩)
    exact precedes_of_lt there lt (names ha hm) (names hb hk)
  mem_iff p := by
    rw [List.mem_flatMap]
    constructor
    · rintro ⟨e, he, hp⟩
      have he := mem_byName.1 he
      obtain ⟨names, m, hm, within, rfl, file⟩ := ((each e he).mem_iff p).1 hp
      exact ⟨e.1 :: names, m, named.at?_cons_iff.2 ⟨e.2, he, hm⟩,
        within.imp_right Nat.succ_le_succ, rfl, file⟩
    · rintro ⟨names, m, hm, within, rfl, file⟩
      cases names with
      | nil =>
        obtain rfl := Option.some.inj hm
        exact file.elim
      | cons name names =>
        obtain ⟨n, hn, hm⟩ := named.at?_cons_iff.1 hm
        exact ⟨(name, n), mem_byName.2 hn, ((each _ hn).mem_iff _).2
          ⟨names, m, hm, within.imp_right Nat.le_of_succ_le_succ, rfl, file⟩⟩

theorem stat_of_look (look : FileTree.names path = .ok (pieces path))
    (free : t.bar? .search place = none) : t.stat place path = .ok () := by
  rw [stat, look, free]

/-- The lists of the entries make up that of the directory, if there are such lists. -/
theorem exists_lists_listing (named : (Node.dir entries).IsWellNamed) (there : path ≠ "")
    (look : t.CanLook recursive (deep + 1) path place (.dir entries))
    (each : ∀ e ∈ entries, ∃ list,
      entryTargets t recursive (join path e.1) (place ++ [e.1]) e.2 = .ok list ∧
        t.Lists recursive deep (join path e.1) e.2 list) :
    ∃ list, t.listing path place (dirTargets t recursive path place entries) = .ok list ∧
      t.Lists recursive (deep + 1) path (.dir entries) list := by
  choose! lists found listed using each
  refine ⟨(byName entries).flatMap lists, ?_, lists_flatMap named there listed⟩
  have free (access : Access) : t.bar? access place = none := by
    have here := look.enter [] entries rfl (.inr (Nat.succ_pos deep)) access
    rwa [List.append_nil] at here
  have known : dirTargets t recursive path place entries =
      entries.map fun e => (e.1, .ok (lists e)) := by
    rw [dirTargets_eq_map]
    refine List.map_congr_left fun e he => ?_
    have named_path := look.look [e.1] e.2 (named.at?_cons_iff.2 ⟨e.2, he, rfl⟩)
      (.inr (Nat.le_add_left 1 deep))
    have seen : t.stat place (join path e.1) = .ok () := stat_of_look named_path (free .search)
    rw [seen, found e he]
    rfl
  rw [listing, free .read, known]
  exact inOrder_of_ok entries lists

/-- What an entry stands for. The induction is on what is below it. -/
theorem exists_lists_entryTargets (t : FileTree) (recursive : Bool) (n : Node) {path : String}
    {place : List String} (named : n.IsWellNamed) (there : path ≠ "")
    (look : t.CanLook recursive 0 path place n) :
    ∃ list, entryTargets t recursive path place n = .ok list ∧
      t.Lists recursive 0 path n list := by
  induction n using Node.forall_of_entries generalizing path place with
  | file content =>
    exact ⟨[path], rfl, lists_of_leaf rfl (List.pairwise_singleton _ _) fun p => by
      simp [IsPatchable]⟩
  | link target =>
    by_cases file : t.IsPatchable path (.link target)
    · obtain ⟨content, leads⟩ := file
      refine ⟨[path], by simp [entryTargets, leads], ?_⟩
      refine lists_of_leaf rfl (List.pairwise_singleton _ _) fun p => ?_
      simp [IsPatchable, leads]
    · refine ⟨[], ?_, lists_of_leaf rfl .nil fun p => by simp [file]⟩
      rw [entryTargets]
      split
      · next content leads => exact absurd ⟨content, leads⟩ file
      · rfl
  | dir entries ih =>
    cases recursive with
    | false =>
      refine ⟨[], rfl, .nil, fun p => ⟨fun none => (List.not_mem_nil none).elim, ?_⟩⟩
      rintro ⟨names, m, hm, within, -, file⟩
      obtain rfl : names = [] := by simpa [Within] using within
      obtain rfl := Option.some.inj hm
      exact file.elim
    | true =>
      have look := look.of_recursive 1
      have each := fun e he =>
        ih e he (named.entry he) (join_ne_empty path e.1) (look.entry named he)
      obtain ⟨list, found, listed⟩ := exists_lists_listing named there look each
      refine ⟨list, found, listed.sorted, fun p => (listed.mem_iff p).trans ?_⟩
      simp [Within]

/-! ## What paths stand for -/

/-- What a path stands for: for itself, if it leads to no directory, and else for what can be
patched in the directory, and below it without links if `recursive`. Each of these paths leads to a
file. -/
inductive Expands (t : FileTree) (recursive : Bool) (path : String) : List String → Prop
  | entry {n : Node} (leads : t.node path = .ok n) (other : n.entries? = none) :
      Expands t recursive path [path]
  | directory {place : List String} {entries : List (String × Node)} {list : List String}
      (leads : t.resolve path = .ok place) (there : t.top.at? place = some (.dir entries))
      (sorted : list.Pairwise Precedes) (nodup : list.Nodup)
      (mem_iff : ∀ p, p ∈ list ↔
        ∃ names n, t.top.at? (place ++ names) = some n ∧
          (recursive = true ∨ names.length = 1) ∧ p = below path names ∧ t.IsPatchable p n)
      (file : ∀ p ∈ list, ∃ content, t.node p = .ok (.file content)) :
      Expands t recursive path list

/-- A path can be looked at, and so can everything that one looks at below it. -/
def IsShown (t : FileTree) (recursive : Bool) (path : String) : Prop :=
  ∃ place n, t.resolve path = .ok place ∧ t.top.at? place = some n ∧
    t.CanLook recursive 1 path place n

/-- The path of what can be patched below a directory leads to a file. -/
theorem exists_file_of_isPatchable (named : t.top.IsWellNamed) (leads : t.resolve path = .ok place)
    (there : t.top.at? (place ++ names) = some n) (ne : names ≠ [])
    (free : t.IsPassable place names)
    (look : FileTree.names (below path names) = .ok (pieces (below path names)))
    (file : t.IsPatchable (below path names) n) :
    ∃ content, t.node (below path names) = .ok (.file content) := by
  cases n with
  | dir => exact file.elim
  | link target => exact file
  | file content =>
    have entry : ∀ name ∈ names, IsEntryName name :=
      fun name h => named.isEntryName there name (List.mem_append_right place h)
    have here := resolve_below leads ne entry there (fun _ => by rintro ⟨⟩) free look
    exact ⟨content, node_eq_ok_iff.2 ⟨_, here, there⟩⟩

theorem exists_expands_targets (named : t.top.IsWellNamed) (shown : t.IsShown recursive path) :
    ∃ list, t.targets recursive path = .ok list ∧ t.Expands recursive path list := by
  obtain ⟨place, n, leads, there, look⟩ := shown
  have found : t.node path = .ok n := node_eq_ok_iff.2 ⟨place, leads, there⟩
  cases n with
  | file | link => exact ⟨[path], by simp only [targets, leads, there], .entry found rfl⟩
  | dir entries =>
    have inside : (Node.dir entries).IsWellNamed := named.at? there
    obtain ⟨list, listed, lists⟩ := exists_lists_listing inside (ne_empty_of_resolve leads) look
      fun e he => exists_lists_entryTargets t recursive e.2 (inside.entry he)
        (join_ne_empty path e.1) (look.entry inside he)
    refine ⟨list, by simpa only [targets, leads, there] using listed, ?_⟩
    have below_iff (names : List String) :
        t.top.at? (place ++ names) = (Node.dir entries).at? names := by
      rw [at?_append, there, Option.bind_some]
    have ne_nil {p : String} {names : List String} {n : Node}
        (hn : (Node.dir entries).at? names = some n) (file : t.IsPatchable p n) : names ≠ [] := by
      rintro rfl
      obtain rfl := Option.some.inj hn
      exact file
    refine .directory leads there lists.sorted (lists.sorted.imp Precedes.ne) (fun p => ?_) ?_
    · rw [lists.mem_iff]
      refine exists₂_congr fun names n => ?_
      rw [below_iff]
      refine and_congr_right fun hn => and_congr_left fun file => or_congr_right ?_
      have some_name : 0 < names.length := List.length_pos_iff.2 (ne_nil hn file.2)
      omega
    · intro p hp
      obtain ⟨names, n, hn, within, rfl, file⟩ := (lists.mem_iff p).1 hp
      exact exists_file_of_isPatchable named leads ((below_iff names).trans hn) (ne_nil hn file)
        (look.isPassable hn within) (look.look names n hn within) file

/-- What is computed of each member of a list is computed of the list. -/
theorem exists_mapM_of_forall {α β ε : Type} {f : α → Except ε β} {R : α → β → Prop} {l : List α}
    (h : ∀ a ∈ l, ∃ b, f a = .ok b ∧ R a b) : ∃ bs, l.mapM f = .ok bs ∧ List.Forall₂ R l bs := by
  induction l with
  | nil => exact ⟨[], rfl, .nil⟩
  | cons a l ih =>
    rw [List.forall_mem_cons] at h
    obtain ⟨b, hb, first⟩ := h.1
    obtain ⟨bs, hbs, rest⟩ := ih h.2
    refine ⟨b :: bs, ?_, .cons first rest⟩
    rw [List.mapM_cons, hb, hbs]
    rfl

/-- Paths stand for what each of them stands for, in order. A directory is listed completely, each
file once, in the order of the paths, and there is always an end to it. -/
theorem collect_expands (named : t.top.IsWellNamed) {paths : List String}
    (shown : ∀ path ∈ paths, t.IsShown recursive path) :
    ∃ lists, t.collect recursive paths = .ok lists.flatten ∧
      List.Forall₂ (t.Expands recursive) paths lists := by
  obtain ⟨lists, found, expands⟩ :=
    exists_mapM_of_forall fun path h => exists_expands_targets named (shown path h)
  refine ⟨lists, ?_, expands⟩
  rw [collect, found]
  rfl

/-- A directory next to a link whose name goes on with a point, and links to the file in it from the
root, to a directory above, to nothing and to itself. -/
def linkedEntries : List (String × Node) :=
  [("a.env", .link "a/x"), ("a", .dir [("up", .link ".."), ("x", .file [])]),
    ("b.env", .link "/w/d/a/x"), ("gone", .link "nowhere"), ("loop", .link "/w/d"),
    ("round", .link "round")]

/-- A tree with a directory that has these entries, and a link to it. Nobody can read the file. -/
def linkedTree : FileTree :=
  { top := .dir [("w", .dir [("d", .dir linkedEntries), ("l", .link "/w/d")])]
    cwd := ["w"]
    barred := [((.read, ["w", "d", "a", "x"]), .denied)] }

theorem isWellNamed_linkedEntries : (Node.dir linkedEntries).IsWellNamed := by
  refine isWellNamed_dir (by decide) ?_
  simp only [linkedEntries, List.forall_mem_cons]
  refine ⟨⟨by decide, isWellNamed_leaf rfl⟩, ⟨by decide, isWellNamed_dir (by decide) ?_⟩,
    ⟨by decide, isWellNamed_leaf rfl⟩, ⟨by decide, isWellNamed_leaf rfl⟩,
    ⟨by decide, isWellNamed_leaf rfl⟩, ⟨by decide, isWellNamed_leaf rfl⟩, List.forall_mem_nil _⟩
  simp only [List.forall_mem_cons]
  exact ⟨⟨by decide, isWellNamed_leaf rfl⟩, ⟨by decide, isWellNamed_leaf rfl⟩,
    List.forall_mem_nil _⟩

theorem isWellNamed_linkedTree : linkedTree.top.IsWellNamed := by
  refine isWellNamed_dir (by decide) ?_
  simp only [List.forall_mem_cons]
  refine ⟨⟨by decide, isWellNamed_dir (by decide) ?_⟩, List.forall_mem_nil _⟩
  simp only [List.forall_mem_cons]
  exact ⟨⟨by decide, isWellNamed_linkedEntries⟩, ⟨by decide, isWellNamed_leaf rfl⟩,
    List.forall_mem_nil _⟩

theorem isShown_linkedTree :
    ∀ path ∈ ["/w/l/", "../w/d/a.env"], linkedTree.IsShown true path := by
  have named := isWellNamed_linkedEntries
  have inner := named.entry (e := ("a", _)) (.tail _ (.head _))
  have enter : ∀ access, linkedTree.bar? access ["w", "d"] = none := by rintro ⟨⟩ <;> decide
  have enter_inner : ∀ access, linkedTree.bar? access ["w", "d", "a"] = none := by
    rintro ⟨⟩ <;> decide
  refine List.forall_mem_cons.2
    ⟨⟨["w", "d"], .dir linkedEntries, by cbv, rfl, canLook_dir named (by decide) enter ?_⟩,
      List.forall_mem_cons.2
        ⟨⟨["w", "d", "a", "x"], .file [], by cbv, rfl, canLook_leaf rfl (by decide)⟩,
          List.forall_mem_nil _⟩⟩
  simp only [linkedEntries, List.forall_mem_cons]
  refine ⟨canLook_leaf rfl (by decide), canLook_dir inner (by decide) enter_inner ?_,
    canLook_leaf rfl (by decide), canLook_leaf rfl (by decide), canLook_leaf rfl (by decide),
    canLook_leaf rfl (by decide), List.forall_mem_nil _⟩
  simp only [List.forall_mem_cons]
  exact ⟨canLook_leaf rfl (by decide), canLook_leaf rfl (by decide), List.forall_mem_nil _⟩

theorem targets_linkedTree : linkedTree.targets true "/w/l/" =
    .ok ["/w/l/a/x", "/w/l/a.env", "/w/l/b.env"] := by
  have leads : linkedTree.resolve "/w/l/" = .ok ["w", "d"] := by decide +kernel
  have there : linkedTree.top.at? ["w", "d"] = some (.dir linkedEntries) := rfl
  have joined : ["a.env", "a", "b.env", "gone", "loop", "round"].map (join "/w/l/") =
      ["/w/l/a.env", "/w/l/a", "/w/l/b.env", "/w/l/gone", "/w/l/loop", "/w/l/round"] := by decide
  have inner : ["up", "x"].map (join "/w/l/a") = ["/w/l/a/up", "/w/l/a/x"] := by decide
  simp only [List.map_cons, List.map_nil, List.cons.injEq, and_true] at joined inner
  simp only [targets, leads, there, linkedEntries, dirTargets, entryTargets, joined, inner]
  cbv

theorem collect_expands_linkedTree :
    linkedTree.top.IsWellNamed ∧
      (∀ path ∈ ["/w/l/", "../w/d/a.env"], linkedTree.IsShown true path) ∧
      ∃ lists, lists.flatten = ["/w/l/a/x", "/w/l/a.env", "/w/l/b.env", "../w/d/a.env"] ∧
        linkedTree.collect true ["/w/l/", "../w/d/a.env"] = .ok lists.flatten ∧
        List.Forall₂ (linkedTree.Expands true) ["/w/l/", "../w/d/a.env"] lists := by
  obtain ⟨lists, found, expands⟩ := collect_expands isWellNamed_linkedTree isShown_linkedTree
  have single : linkedTree.targets true "../w/d/a.env" = .ok ["../w/d/a.env"] := by
    decide +kernel
  have all : linkedTree.collect true ["/w/l/", "../w/d/a.env"] =
      .ok ["/w/l/a/x", "/w/l/a.env", "/w/l/b.env", "../w/d/a.env"] := by
    rw [collect, List.mapM_cons, List.mapM_cons, targets_linkedTree, single]
    rfl
  exact ⟨isWellNamed_linkedTree, isShown_linkedTree, lists, Except.ok.inj (found.symm.trans all),
    found, expands⟩

end FileTree

end SecretTemplate
