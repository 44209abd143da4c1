import Mathlib.Data.List.Basic
import SecretTemplate.Proofs.Template.Agreement
import SecretTemplate.Secret.Store

/-!
# What a rendering depends on

A template is rendered from the answers to its reads and from nothing else. The reads themselves
depend on answers, since a template stops at the first token that fails. But what has not been read
has no say in it: two sources of secrets that agree on the reads of the one are read alike, and
entries of a store at other places may come and go.

Results:
1. `reader_only`: what some entries of a store answer at their places.
2. `against_patch_of_agree`: a template depends on what it has read.
3. `against_patch_otherStore`: two stores that differ in all else.
-/

namespace SecretTemplate

open Lookup

/-- An answer agrees with itself. -/
theorem Agree.refl (x : Answer) : Agree x x := by
  rcases x with cause | _ | record
  · exact .failure cause
  · exact .absent
  · exact .secret fun _ => rfl

namespace Store

/-- The store with its entries at the places in `reads`, and with no others. -/
def only (store : Store) (reads : List Read) : Store :=
  ⟨store.entries.filter (·.1 ∈ reads)⟩

/-- The entries at some places answer there as the store does. -/
theorem reader_only (store : Store) {reads : List Read} {p : Read} (h : p ∈ reads) :
    (store.only reads).reader p = store.reader p := by
  have kept : (store.only reads).entries.lookup p = store.entries.lookup p :=
    lookup_filter_of_pos (fun k => decide (k ∈ reads)) (decide_eq_true h) store.entries
  rw [reader, reader, kept]

end Store

namespace Delimiter

/-- A template depends on what it has read. A source of secrets that agrees with another on the
reads from that one leads to the same text or the same failure, after the same reads. So an entry of
a store that has not been read may be put, changed or deleted, and all of them may be deleted at
once. -/
theorem against_patch_of_agree (d : Delimiter) (input : String) :
    (∀ reader other : Reader,
        (∀ q ∈ (d.patch input).reads reader, Agree (other q) (reader q)) →
          (d.patch input).against other = (d.patch input).against reader) ∧
      (∀ (store : Store) (q : Read), q ∉ (d.patch input).reads store.reader →
        (∀ entry, (d.patch input).against (store.put q entry).reader =
            (d.patch input).against store.reader) ∧
          (d.patch input).against (store.delete q).reader =
            (d.patch input).against store.reader) ∧
      ∀ store : Store,
        (d.patch input).against (store.only ((d.patch input).reads store.reader)).reader =
          (d.patch input).against store.reader := by
  have agreeing (reader other : Reader)
      (agree : ∀ q ∈ (d.patch input).reads reader, Agree (other q) (reader q)) :
      (d.patch input).against other = (d.patch input).against reader :=
    Dialogue.run_eq_of_respects (d.respects_patch input) agree
  have same {store other : Store}
      (same : ∀ q ∈ (d.patch input).reads store.reader, other.reader q = store.reader q) :
      (d.patch input).against other.reader = (d.patch input).against store.reader :=
    agreeing _ _ fun q hq => same q hq ▸ Agree.refl _
  refine ⟨agreeing, fun store q unread => ⟨fun entry => same ?_, same ?_⟩, fun store => same ?_⟩
  · intro p hp
    have ne : p ≠ q := fun e => unread (e ▸ hp)
    exact store.reader_put_of_ne ne entry
  · intro p hp
    have ne : p ≠ q := fun e => unread (e ▸ hp)
    exact store.reader_delete_of_ne ne
  · intro p hp
    exact store.reader_only hp

/-- A store with a secret that has two fields, and with another secret below it. -/
def someStore : Store :=
  (({} : Store).put ⟨.v2, "kv", "a"⟩ (.ok ⟨[("f", .string "A"), ("g", .null)]⟩)).put
    ⟨.v2, "kv", "a/b"⟩ (.ok ⟨[("f", .string "B")]⟩)

/-- A store with the first of these secrets, written in another order, and with a failure at the
same path of the other engine. -/
def otherStore : Store :=
  (({} : Store).put ⟨.v2, "kv", "a"⟩ (.ok ⟨[("g", .null), ("f", .string "A")]⟩)).put
    ⟨.v1, "kv", "a"⟩ (.error .timeout)

/-- Two tokens with the secret that both stores have, of which the second fails, and a token that is
not reached. -/
theorem against_patch_otherStore :
    (standard.patch "@@path=kv/a,field=f@@ @@path=kv/a,field=g@@ @@path=kv/a/b,field=f@@").against
        otherStore.reader =
      (.error (.fieldNotString "g"), [⟨.v2, "kv", "a"⟩, ⟨.v2, "kv", "a"⟩]) := by
  have run : (standard.patch
      "@@path=kv/a,field=f@@ @@path=kv/a,field=g@@ @@path=kv/a/b,field=f@@").against
        someStore.reader =
      (.error (.fieldNotString "g"), [⟨.v2, "kv", "a"⟩, ⟨.v2, "kv", "a"⟩]) := by decide +kernel
  have agree : Agree (otherStore.reader ⟨.v2, "kv", "a"⟩) (someStore.reader ⟨.v2, "kv", "a"⟩) := by
    have here : otherStore.reader ⟨.v2, "kv", "a"⟩ =
        .ok (some ⟨[("g", .null), ("f", .string "A")]⟩) := rfl
    have there : someStore.reader ⟨.v2, "kv", "a"⟩ =
        .ok (some ⟨[("f", .string "A"), ("g", .null)]⟩) := rfl
    rw [here, there]
    refine .secret fun field => ?_
    simp only [Record.get?, List.lookup_cons, List.lookup_nil]
    by_cases hf : field = "f"
    · subst hf
      rfl
    · rw [beq_false_of_ne hf]
  rw [← run]
  refine (against_patch_of_agree standard _).1 someStore.reader otherStore.reader ?_
  rw [reads, run]
  intro q hq
  have first : q = ⟨.v2, "kv", "a"⟩ := by simpa using hq
  rw [first]
  exact agree

end Delimiter

end SecretTemplate
