import SecretTemplate.Proofs.Template.Splice

/-!
# Templates made of references

A draft is a template before the delimiter is known: references with a text in front of each, and a
text behind them. Its template writes every reference between two delimiters. When the delimiter is
foreign to everything in the draft, and every text between two references holds a character that no
reference holds, the template renders to the draft with values in the places of the references.

Results:
1. `layoutFrom_wrapped`: the scan finds a token whose body has no characters of the delimiter.
2. `occurrences_wrapped_of_ne`: a search passes over the tokens that it is not meant for.
3. `occurrences_halfway`: a search finds the tokens that it is meant for, whatever is resolved.
4. `undisturbed_template`: no search in the template of a draft is disturbed.
5. `against_patch_template`: such a template renders to its draft, with one read for each reference.
-/

namespace SecretTemplate

open Text Lookup Reference

/-- No character of the delimiter stands in the text. -/
def Delimiter.IsForeign (d : Delimiter) (s : String) : Prop :=
  ∀ c ∈ s.toList, c ∉ d.text.toList

instance (d : Delimiter) (s : String) : Decidable (d.IsForeign s) :=
  List.decidableBAll (· ∉ d.text.toList) s.toList

/-- References with the text in front of each, and the text behind the last. -/
structure Draft where
  entries : List (String × Reference)
  last : String

namespace Draft

/-- The entries and the text behind them, with every reference written by `f`. -/
def assemble (f : Reference → String) : List (String × Reference) → String → String
  | [], last => last
  | (gap, r) :: entries, last => gap ++ f r ++ assemble f entries last

def template (t : Draft) (d : Delimiter) : String :=
  assemble (fun r => d.wrap r.render) t.entries t.last

def rendering (t : Draft) (value : Reference → String) : String :=
  assemble value t.entries t.last

def references (t : Draft) : List Reference :=
  t.entries.map Prod.snd

/-- The delimiter is foreign to the draft, and its references are kept apart: every text between two
of them holds a character that none of them holds. -/
structure IsApart (t : Draft) (d : Delimiter) : Prop where
  gap_free : ∀ e ∈ t.entries, d.IsForeign e.1
  last_free : d.IsForeign t.last
  reference_free : ∀ r ∈ t.references, '\n' ∉ r.render.toList ∧ d.IsForeign r.render
  gap_apart : ∀ e ∈ t.entries.tail, ∃ c ∈ e.1.toList, ∀ r ∈ t.references, c ∉ r.render.toList

def layoutOf : List (String × Reference) → String → Layout Reference
  | [], last => .plain last.toList
  | (gap, r) :: entries, last => .plain gap.toList ++ .slot r :: layoutOf entries last

theorem toList_assemble (f : Reference → String) (entries : List (String × Reference))
    (last : String) :
    (assemble f entries last).toList =
      (layoutOf entries last).chars fun r => (f r).toList := by
  induction entries with
  | nil => exact (Layout.chars_plain _ _).symm
  | cons e entries ih =>
    obtain ⟨gap, r⟩ := e
    rw [assemble, String.toList_append, String.toList_append, ih, layoutOf, Layout.chars_append,
      Layout.chars_plain, Layout.chars, List.append_assoc]

theorem slots_layoutOf (entries : List (String × Reference)) (last : String) :
    (layoutOf entries last).slots = entries.map Prod.snd := by
  induction entries with
  | nil => exact Layout.slots_plain _
  | cons e entries ih =>
    obtain ⟨gap, r⟩ := e
    rw [layoutOf, Layout.slots_append, Layout.slots_plain, Layout.slots, ih]
    rfl

end Draft

/-! ## Texts without characters of the delimiter -/

section Free

variable {d b y s rest : List Char}

/-- Two ways to cut a text where a property of its characters ends are the same. -/
theorem append_inj_of_head {p : Char → Bool} {u u' w w' : List Char} (h : u ++ w = u' ++ w')
    (hu : ∀ c ∈ u, p c) (hu' : ∀ c ∈ u', p c) (hw : ∀ c, w.head? = some c → p c = false)
    (hw' : ∀ c, w'.head? = some c → p c = false) : u = u' ∧ w = w' := by
  have cut {u w : List Char} (hu : ∀ c ∈ u, p c) (hw : ∀ c, w.head? = some c → p c = false) :
      (u ++ w).takeWhile p = u := by
    rw [List.takeWhile_append_of_pos hu]
    cases w with
    | nil => simp
    | cons c w => simp [hw c rfl]
  have e : u = u' := by rw [← cut hu hw, h, cut hu' hw']
  subst e
  exact ⟨rfl, List.append_cancel_left h⟩

/-- What starts with a text without characters of the delimiter starts with none of them. -/
theorem not_mem_of_head? (hy : ∀ c ∈ y, c ∉ d) (ne : y ≠ []) {c : Char}
    (h : (y ++ s).head? = some c) : c ∉ d := by
  rw [List.head?_append_of_ne_nil y ne] at h
  exact hy c (List.mem_of_mem_head? h)

/-- The text of a token that starts in a run of delimiter characters starts with the run. -/
theorem eq_of_prefix_run {u w : List Char} (hu : ∀ c ∈ u, c ∈ d)
    (hw : ∀ c, w.head? = some c → c ∉ d) (hb : ∀ c ∈ b, c ∉ d) (ne : b ≠ [])
    (h : d ++ b ++ d <+: u ++ w) : u = d ∧ b ++ d <+: w := by
  obtain ⟨t, ht⟩ := h
  have first : ∀ c, (b ++ (d ++ t)).head? = some c → c ∉ d := fun _ => not_mem_of_head? hb ne
  have whole : d ++ (b ++ (d ++ t)) = u ++ w := by
    rw [← ht]
    simp
  have cut := append_inj_of_head (p := fun c => decide (c ∈ d)) whole
    (by simp) (by simpa using hu) (by simpa using first) (by simpa using hw)
  exact ⟨cut.1.symm, t, (List.append_assoc b d t).trans cut.2⟩

/-- A text without characters of the delimiter is told from what follows by the delimiter. -/
theorem eq_of_prefix_free (hd : d ≠ []) (hb : ∀ c ∈ b, c ∉ d) (hy : ∀ c ∈ y, c ∉ d)
    (h : b ++ d <+: y ++ (d ++ rest)) : b = y := by
  obtain ⟨t, ht⟩ := h
  obtain ⟨a, d', hd'⟩ := List.exists_cons_of_ne_nil hd
  have first (x : List Char) : ∀ c, (d ++ x).head? = some c → decide (c ∉ d) = false := by
    rw [hd']
    rintro c ⟨⟩
    simp
  exact (append_inj_of_head (p := fun c => decide (c ∉ d)) (by rw [← ht, List.append_assoc])
    (by simpa using hb) (by simpa using hy) (first t) (first rest)).1

/-- No token starts where there is no character of the delimiter. -/
theorem not_prefix_of_free (hd : d ≠ []) (hy : ∀ c ∈ y, c ∉ d) (ne : y ≠ []) (x : List Char) :
    ¬ d ++ x <+: y ++ s := by
  obtain ⟨a, d, rfl⟩ := List.exists_cons_of_ne_nil hd
  obtain ⟨c, y, rfl⟩ := List.exists_cons_of_ne_nil ne
  rintro ⟨t, ht⟩
  have e : a = c := (List.cons.inj ht).1
  exact hy c List.mem_cons_self (e ▸ List.mem_cons_self)

theorem occurrences_free (hd : d ≠ []) (hy : ∀ c ∈ y, c ∉ d) (x s : List Char) :
    occurrences (d ++ x) (y ++ s) = .plain y ++ occurrences (d ++ x) s :=
  occurrences_append_of_absent fun _ hz ne =>
    not_prefix_of_free hd (fun c hc => hy c (hz.subset hc)) ne x

/-- A search passes over a token of another body, if what follows is not taken for its body. -/
theorem occurrences_wrapped_of_ne (hd : d ≠ []) (hb : ∀ c ∈ b, c ∉ d) (bne : b ≠ [])
    (hy : ∀ c ∈ y, c ∉ d) (yne : y ≠ []) (other : y ≠ b)
    (first : ∀ c, rest.head? = some c → c ∉ d) (apart : ¬ b ++ d <+: rest) :
    occurrences (d ++ b ++ d) (d ++ y ++ d ++ rest) =
      .plain (d ++ y ++ d) ++ occurrences (d ++ b ++ d) rest := by
  -- what starts in the delimiter in front of `y` would have `y` as its body
  have opening : ∀ z, z <:+ d → z ≠ [] → ¬ d ++ b ++ d <+: z ++ (y ++ (d ++ rest)) := by
    intro z hz _ h
    have body := (eq_of_prefix_run (fun c hc => hz.subset hc)
      (fun _ => not_mem_of_head? hy yne) hb bne h).2
    exact other (eq_of_prefix_free hd hb hy body).symm
  -- and what starts in the delimiter behind it would go on with the rest
  have closing : ∀ z, z <:+ d → z ≠ [] → ¬ d ++ b ++ d <+: z ++ rest := by
    intro z hz _ h
    exact apart (eq_of_prefix_run (fun c hc => hz.subset hc) first hb bne h).2
  calc occurrences (d ++ b ++ d) (d ++ y ++ d ++ rest)
      = occurrences (d ++ b ++ d) (d ++ (y ++ (d ++ rest))) := by simp only [List.append_assoc]
    _ = .plain d ++ occurrences (d ++ b ++ d) (y ++ (d ++ rest)) :=
        occurrences_append_of_absent opening
    _ = .plain d ++ (.plain y ++ occurrences (d ++ b ++ d) (d ++ rest)) := by
        rw [List.append_assoc d b d, occurrences_free hd hy]
    _ = .plain d ++ (.plain y ++ (.plain d ++ occurrences (d ++ b ++ d) rest)) := by
        rw [occurrences_append_of_absent closing]
    _ = .plain (d ++ y ++ d) ++ occurrences (d ++ b ++ d) rest := by
        simp [Layout.plain]

theorem after?_of_not_mem {c : Char} (hd : d ≠ []) (h : c ∉ d) : after? d (c :: s) = none := by
  obtain ⟨a, d, rfl⟩ := List.exists_cons_of_ne_nil hd
  rw [after?, if_neg]
  rintro rfl
  exact h List.mem_cons_self

theorem layoutFrom_free (hd : d ≠ []) (hy : ∀ c ∈ y, c ∉ d) (s : List Char) :
    Delimiter.layoutFrom d 0 (y ++ s) = .plain y ++ Delimiter.layoutFrom d 0 s := by
  induction y with
  | nil => rfl
  | cons c y ih =>
    rw [List.forall_mem_cons] at hy
    rw [List.cons_append, Delimiter.layoutFrom, Delimiter.opening?, after?_of_not_mem hd hy.1,
      ih hy.2]
    rfl

/-- The scan finds a token whose body has no characters of the delimiter. -/
theorem layoutFrom_wrapped (hd : d ≠ []) (line : '\n' ∉ y) (hy : ∀ c ∈ y, c ∉ d)
    (s : List Char) :
    Delimiter.layoutFrom d 0 (d ++ y ++ d ++ s) =
      .slot (String.ofList y) :: Delimiter.layoutFrom d 0 s := by
  have closing : Delimiter.closing? d (y ++ (d ++ s)) = some y := by
    induction y with
    | nil => exact Delimiter.closing?_append_self d s
    | cons c y ih =>
      rw [List.forall_mem_cons] at hy
      rw [List.mem_cons, not_or] at line
      rw [List.cons_append, Delimiter.closing?, after?_of_not_mem hd hy.1,
        if_neg (Ne.symm line.1), ih line.2 hy.2]
      rfl
  refine Delimiter.layoutFrom_of_opening hd ?_
  rw [Delimiter.opening?_append]
  exact closing

/-- No body with a delimiter behind it stands in a text without characters of the delimiter. -/
theorem not_append_prefix (hd : d ≠ []) (hy : ∀ c ∈ y, c ∉ d) : ¬ b ++ d <+: y := by
  intro h
  obtain ⟨c, hc⟩ := List.exists_mem_of_ne_nil d hd
  exact hy c (h.subset (List.mem_append_right b hc)) hc

/-- Nor does it start in such a text, if the text holds a character that the body does not. -/
theorem not_append_prefix_of_apart (hd : d ≠ []) (hy : ∀ c ∈ y, c ∉ d) (apart : ∃ c ∈ y, c ∉ b) :
    ¬ b ++ d <+: y ++ s := by
  intro h
  obtain ⟨c, hc, hcb⟩ := apart
  rcases List.prefix_or_prefix_of_prefix h (List.prefix_append y s) with inside | around
  · exact not_append_prefix hd hy inside
  · rcases List.mem_append.1 (around.subset hc) with hb | hd
    · exact hcb hb
    · exact hy c hc hd

end Free

namespace Draft

variable {d : Delimiter} {reader : Reader} {entries : List (String × Reference)} {last : String}

theorem toList_render_ne_nil (r : Reference) : r.render.toList ≠ [] := by
  simp [render, String.toList_append]

/-- The tokens of a template are the references of its draft. -/
theorem layoutFrom_wrapped_entries
    (gap_free : ∀ e ∈ entries, d.IsForeign e.1) (last_free : d.IsForeign last)
    (reference_free : ∀ e ∈ entries, '\n' ∉ e.2.render.toList ∧ d.IsForeign e.2.render) :
    Delimiter.layoutFrom d.text.toList 0
        ((layoutOf entries last).chars fun r => (d.wrap r.render).toList) =
      (layoutOf entries last).relabel render := by
  have hd := d.toList_text_ne_nil
  induction entries with
  | nil =>
    rw [layoutOf, Layout.chars_plain, Layout.relabel_plain]
    simpa [Delimiter.layoutFrom] using layoutFrom_free hd last_free []
  | cons e entries ih =>
    obtain ⟨gap, r⟩ := e
    rw [List.forall_mem_cons] at gap_free reference_free
    rw [layoutOf, Layout.chars_append, Layout.chars_plain, Layout.chars,
      layoutFrom_free hd gap_free.1, Delimiter.toList_wrap,
      layoutFrom_wrapped hd reference_free.1.1 reference_free.1.2,
      ih gap_free.2 reference_free.2, String.ofList_toList, Layout.relabel_append,
      Layout.relabel_plain, Layout.relabel]

/-- What follows an entry is not taken for the rest of a token. -/
theorem chars_apart {b : List Char} (f : Reference → List Char)
    (gap_free : ∀ e ∈ entries, d.IsForeign e.1) (last_free : d.IsForeign last)
    (gap_apart : ∀ e ∈ entries, ∃ c ∈ e.1.toList, c ∉ b) :
    (∀ c, ((layoutOf entries last).chars f).head? = some c → c ∉ d.text.toList) ∧
      ¬ b ++ d.text.toList <+: (layoutOf entries last).chars f := by
  have hd := d.toList_text_ne_nil
  cases entries with
  | nil =>
    rw [layoutOf, Layout.chars_plain]
    exact ⟨fun c hc => last_free c (List.mem_of_mem_head? hc), not_append_prefix hd last_free⟩
  | cons e entries =>
    obtain ⟨gap, r⟩ := e
    rw [List.forall_mem_cons] at gap_free gap_apart
    rw [layoutOf, Layout.chars_append, Layout.chars_plain]
    obtain ⟨a, ha, -⟩ := gap_apart.1
    exact ⟨fun _ => not_mem_of_head? gap_free.1 (List.ne_nil_of_mem ha),
      not_append_prefix_of_apart hd gap_free.1 gap_apart.1⟩

/-- A search finds the tokens that it is meant for, whatever has been resolved by then. -/
theorem occurrences_halfway {value : String → String} {next : String} (done : List String)
    (gap_free : ∀ e ∈ entries, d.IsForeign e.1) (last_free : d.IsForeign last)
    (reference_free : ∀ e ∈ entries, d.IsForeign e.2.render)
    (value_free : ∀ e ∈ entries, d.IsForeign (value e.2.render))
    (gap_apart : ∀ e ∈ entries.tail, ∃ c ∈ e.1.toList, c ∉ next.toList)
    (next_free : d.IsForeign next) (next_ne : next.toList ≠ []) :
    occurrences (d.wrap next).toList
        ((layoutOf entries last).chars fun r => (d.halfway value done r.render).toList) =
      (layoutOf entries last).expand fun r => d.sought value done next r.render := by
  have hd := d.toList_text_ne_nil
  have search_ne : (d.wrap next).toList ≠ [] := by simp [Delimiter.toList_wrap, hd]
  have free {y : List Char} (hy : ∀ c ∈ y, c ∉ d.text.toList) (s : List Char) :
      occurrences (d.wrap next).toList (y ++ s) =
        .plain y ++ occurrences (d.wrap next).toList s := by
    rw [Delimiter.toList_wrap, List.append_assoc]
    exact occurrences_free hd hy _ s
  induction entries with
  | nil =>
    rw [layoutOf, Layout.chars_plain, Layout.expand_plain]
    have h := free last_free []
    rwa [List.append_nil, show occurrences (d.wrap next).toList [] = [] from rfl,
      List.append_nil] at h
  | cons e entries ih =>
    obtain ⟨gap, r⟩ := e
    have behind := chars_apart (fun r => (d.halfway value done r.render).toList)
      (List.forall_mem_cons.1 gap_free).2 last_free gap_apart
    rw [List.forall_mem_cons] at gap_free reference_free value_free
    have rest := ih gap_free.2 reference_free.2 value_free.2
      fun e he => gap_apart e (List.mem_of_mem_tail he)
    rw [layoutOf, Layout.chars_append, Layout.chars_plain, Layout.chars, Layout.expand_append,
      Layout.expand_plain, Layout.expand, ← rest, free gap_free.1, Delimiter.sought]
    congr 1
    -- the slot holds a value, the token that is sought, or another token
    by_cases resolved : r.render ∈ done
    · rw [Delimiter.halfway, if_pos resolved, if_pos resolved, free value_free.1]
    · rw [Delimiter.halfway, if_neg resolved, if_neg resolved]
      by_cases same : r.render = next
      · rw [if_pos same, same, occurrences_append_self search_ne]
        rfl
      · have other : r.render.toList ≠ next.toList := fun h => same (String.toList_inj.1 h)
        rw [if_neg same, Delimiter.toList_wrap, Delimiter.toList_wrap]
        exact occurrences_wrapped_of_ne hd next_free next_ne reference_free.1
          (toList_render_ne_nil r) other behind.1 behind.2

/-! ## Templates of drafts -/

section Template

variable {t : Draft} {value : Reference → String}

/-- The values of the references, by the texts of their tokens. -/
def valueOf (value : Reference → String) (body : String) : String :=
  match parse body with
  | .ok r => value r
  | .error _ => ""

theorem mem_references {e : String × Reference} (h : e ∈ t.entries) : e.2 ∈ t.references :=
  List.mem_map_of_mem h

theorem layout_template (apart : t.IsApart d) :
    d.layout (t.template d) = (layoutOf t.entries t.last).relabel render := by
  rw [Delimiter.layout, template, toList_assemble]
  exact layoutFrom_wrapped_entries apart.gap_free apart.last_free
    fun e he => apart.reference_free e.2 (mem_references he)

theorem tokens_template (apart : t.IsApart d) :
    d.tokens (t.template d) = t.references.map render := by
  rw [← Delimiter.slots_layout, layout_template apart, Layout.slots_relabel, slots_layoutOf]
  rfl

theorem toList_write_template (apart : t.IsApart d) (f : String → String) :
    ((d.layout (t.template d)).write f).toList =
      (layoutOf t.entries t.last).chars fun r => (f r.render).toList := by
  rw [layout_template apart, Layout.toList_write, Layout.chars_relabel]

/-- The searches in the template of a draft are undisturbed by values without characters of the
delimiter. -/
theorem undisturbed_template (apart : t.IsApart d) {value : String → String}
    (value_free : ∀ r ∈ t.references, d.IsForeign (value r.render)) :
    d.Undisturbed value (t.template d) := by
  intro k hk
  have member : (d.tokens (t.template d))[k] ∈ t.references.map render :=
    tokens_template apart ▸ List.getElem_mem hk
  obtain ⟨r, hr, next⟩ := List.mem_map.1 member
  rw [← next, Delimiter.UndisturbedAt, toList_write_template apart, layout_template apart,
    Layout.expand_relabel]
  refine occurrences_halfway _ apart.gap_free apart.last_free
    (fun e he => (apart.reference_free e.2 (mem_references he)).2)
    (fun e he => value_free e.2 (mem_references he)) (fun e he => ?_)
    (apart.reference_free r hr).2 (toList_render_ne_nil r)
  obtain ⟨c, hc, absent⟩ := apart.gap_apart e he
  exact ⟨c, hc, absent r hr⟩

/-- The template of a draft renders to the draft with values in the places of its references, and
what is read is at the places that they name, in turn. -/
theorem against_patch_template (apart : t.IsApart d)
    (readable : ∀ r ∈ t.references, parse r.render = .ok r)
    (resolved : ∀ r ∈ t.references, r.fetch.outcome reader = .ok (value r))
    (value_free : ∀ r ∈ t.references, d.IsForeign (value r)) :
    ∃ reads, t.references.map location = reads.map .ok ∧
      (d.patch (t.template d)).against reader = (.ok (t.rendering value), reads) := by
  have valueOf_render : ∀ r ∈ t.references, valueOf value r.render = value r := by
    intro r hr
    rw [valueOf, readable r hr]
  have resolve_render : ∀ r ∈ t.references, resolve r.render = r.fetch :=
    fun r hr => resolve_of_ok (readable r hr)
  have tokens_resolved : ∀ body ∈ d.tokens (t.template d),
      (resolve body).outcome reader = .ok (valueOf value body) := by
    intro body hb
    rw [tokens_template apart, List.mem_map] at hb
    obtain ⟨r, hr, rfl⟩ := hb
    rw [resolve_render r hr, resolved r hr, valueOf_render r hr]
  have undisturbed : d.Undisturbed (valueOf value) (t.template d) := by
    refine undisturbed_template apart fun r hr => ?_
    rw [valueOf_render r hr]
    exact value_free r hr
  have run := Delimiter.against_patch_of_undisturbed tokens_resolved undisturbed
  have text : (d.layout (t.template d)).write (valueOf value) = t.rendering value := by
    rw [← String.toList_inj, toList_write_template apart, rendering, toList_assemble]
    refine Layout.chars_congr fun r hr => ?_
    rw [slots_layoutOf] at hr
    rw [valueOf_render r hr]
  have reads : ((d.tokens (t.template d)).flatMap fun body => (resolve body).reads reader) =
      t.references.flatMap fun r => r.fetch.reads reader := by
    rw [tokens_template apart, List.flatMap_map]
    exact List.flatMap_congr fun r hr => by rw [resolve_render r hr]
  rw [run, text, reads]
  exact ⟨_, map_location_of_fetched resolved, rfl⟩

/-- The reference to the field `f` at a path, in the version v2. -/
def plainReference (path : String) : Reference :=
  { path, field := "f" }

/-- Three references, the first of which comes again. -/
def threeReferences : Draft where
  entries := [
    ("<", plainReference "k/a"), ("\n", plainReference "k/b"), ("; ", plainReference "k/a")]
  last := ">"

/-- A template with a repeated token and an empty value. -/
theorem against_patch_threeReferences :
    threeReferences.IsApart .standard ∧
      (Delimiter.standard.patch (threeReferences.template .standard)).against
          (Delimiter.threeSecrets "A" "" "C").reader =
        (.ok "<A\n; A>", [⟨.v2, "k", "a"⟩, ⟨.v2, "k", "b"⟩, ⟨.v2, "k", "a"⟩]) := by
  have apart : threeReferences.IsApart .standard := by
    refine ⟨by decide +kernel, by decide +kernel, by decide +kernel, ?_⟩
    rw [threeReferences, List.tail_cons, List.forall_mem_cons, List.forall_mem_singleton]
    exact ⟨⟨'\n', by decide +kernel⟩, ⟨';', by decide +kernel⟩⟩
  have places : threeReferences.references.map location =
      [⟨.v2, "k", "a"⟩, ⟨.v2, "k", "b"⟩, ⟨.v2, "k", "a"⟩].map .ok := by decide +kernel
  have text : threeReferences.rendering (fun r => if r.path = "k/a" then "A" else "") =
      "<A\n; A>" := by decide +kernel
  have resolved : ∀ r ∈ threeReferences.references,
      r.fetch.outcome (Delimiter.threeSecrets "A" "" "C").reader =
        .ok (if r.path = "k/a" then "A" else "") := by decide +kernel
  obtain ⟨reads, located, run⟩ :=
    against_patch_template apart (by decide +kernel) resolved (by decide +kernel)
  have same : reads = [⟨.v2, "k", "a"⟩, ⟨.v2, "k", "b"⟩, ⟨.v2, "k", "a"⟩] :=
    List.map_injective_iff.2 (fun _ _ => Except.ok.inj) (located.symm.trans places)
  exact ⟨apart, by rw [run, text, same]⟩

end Template

end Draft

end SecretTemplate
