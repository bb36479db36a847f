import Mathlib.Data.List.Induction
import Mathlib.Data.List.Nodup
import SiteAudit.Export.Networks
import SiteAudit.Export.Rules

/-!
# First occurrences

Two readers of exports drop repeats while they go through a list: the entries of a
flat row, which come from several fields and groups, and the networks of a document,
which are told apart by their ids.  Both carry what was kept so far and ask it whether
the next member is there already.

What they keep is said here by places, without any reader: a member stays if none
before it has the same key.  This is a statement about the whole list, so lists that
are put together can be taken apart again, while the readers only know how to go on
at the end.  The inductions therefore add one member at the end.

## Main results

* `nodup_keys_firstOfEach` — no key is left twice.
* `firstOfEach_append` — the first occurrences in two lists, one after the other.
* `Export.pushUnique_nil`, `Export.keepFirst_eq_firstOfEach` — both readers keep the
  first occurrences.
-/

namespace SiteAudit

variable {α : Type} {key : α → String}

/-- The members of a list before which no other one has the same key. -/
def firstOfEach (key : α → String) (members : List α) : List α :=
  (members.zipIdx.filter fun entry =>
    !(members.take entry.2).any fun a => key a == key entry.1).map Prod.fst

@[simp] theorem firstOfEach_nil : firstOfEach key [] = [] := rfl

/-- One more member is kept exactly if its key is new; nothing changes about those before it. -/
theorem firstOfEach_concat (members : List α) (a : α) :
    firstOfEach key (members ++ [a]) =
      firstOfEach key members ++ if members.any (key · == key a) then [] else [a] := by
  have hbefore : members.zipIdx.filter (fun entry =>
      !((members ++ [a]).take entry.2).any fun b => key b == key entry.1) =
        members.zipIdx.filter fun entry =>
          !(members.take entry.2).any fun b => key b == key entry.1 := by
    refine List.filter_congr fun entry hentry => ?_
    have hplace : entry.2 ≤ members.length := Nat.le_of_lt (List.snd_lt_of_mem_zipIdx hentry)
    rw [List.take_append_of_le_length hplace]
  rw [firstOfEach, List.zipIdx_append, List.filter_append, List.map_append, hbefore]
  cases hknown : members.any (key · == key a) <;>
    simp [firstOfEach, List.zipIdx, hknown]

/-- The keys that are left are those of the list. -/
theorem mem_keys_firstOfEach {members : List α} {k : String} :
    k ∈ (firstOfEach key members).map key ↔ k ∈ members.map key := by
  induction members using List.reverseRecOn with
  | nil => rfl
  | append_singleton members a ih =>
      rw [firstOfEach_concat, List.map_append, List.mem_append, ih, List.map_append,
        List.mem_append]
      split
      · next hknown =>
        obtain ⟨b, hb, hkey⟩ := List.any_eq_true.1 hknown
        have hmem : key a ∈ members.map key := by
          rw [← beq_iff_eq.1 hkey]
          exact List.mem_map_of_mem hb
        simp only [List.map_nil, List.not_mem_nil, or_false, List.map_singleton,
          List.mem_singleton]
        exact ⟨Or.inl, fun h => h.elim id fun heq => heq ▸ hmem⟩
      · rfl

/-- What is kept has the key exactly if the list has. -/
theorem any_firstOfEach (members : List α) (k : String) :
    (firstOfEach key members).any (key · == k) = members.any (key · == k) := by
  have hkeys := @mem_keys_firstOfEach α key members k
  rw [List.mem_map, List.mem_map] at hkeys
  rw [Bool.eq_iff_iff, List.any_eq_true, List.any_eq_true]
  simpa only [beq_iff_eq] using hkeys

/-- No key is left twice. -/
theorem nodup_keys_firstOfEach (members : List α) :
    ((firstOfEach key members).map key).Nodup := by
  induction members using List.reverseRecOn with
  | nil => exact List.nodup_nil
  | append_singleton members a ih =>
      rw [firstOfEach_concat]
      split
      · rwa [List.append_nil]
      · next hnew =>
        rw [List.map_append, List.nodup_append]
        refine ⟨ih, List.nodup_singleton _, fun k hk other hother heq => hnew ?_⟩
        rw [List.map_singleton, List.mem_singleton] at hother
        rw [mem_keys_firstOfEach, heq, hother] at hk
        obtain ⟨b, hb, hkey⟩ := List.mem_map.1 hk
        exact List.any_eq_true.2 ⟨b, hb, beq_iff_eq.2 hkey⟩

/-- The first occurrences in two lists, one after the other: those of the first list, and of those
of the second the ones whose key the first does not have. -/
theorem firstOfEach_append (front back : List α) :
    firstOfEach key (front ++ back) =
      firstOfEach key front ++
        (firstOfEach key back).filter fun a => !front.any fun b => key b == key a := by
  induction back using List.reverseRecOn with
  | nil => simp
  | append_singleton back a ih =>
      rw [← List.append_assoc, firstOfEach_concat, firstOfEach_concat, ih, List.filter_append,
        List.append_assoc, List.any_append]
      cases hfront : front.any fun b => key b == key a <;>
        cases hback : back.any fun b => key b == key a <;> simp [hfront]

/-! ## Readers that drop repeats -/

/-- Going through a list and keeping each member whose key is not there yet keeps the first
occurrences. -/
theorem foldl_eq_firstOfEach {step : List α → α → List α}
    (hstep : ∀ kept a, step kept a = kept ++ if kept.any (key · == key a) then [] else [a])
    (members : List α) : members.foldl step [] = firstOfEach key members := by
  induction members using List.reverseRecOn with
  | nil => rfl
  | append_singleton members a ih =>
      rw [List.foldl_append, List.foldl_cons, List.foldl_nil, ih, hstep, any_firstOfEach,
        firstOfEach_concat]

namespace Export

theorem pushUnique_append (list front back : List String) :
    pushUnique list (front ++ back) = pushUnique (pushUnique list front) back :=
  List.foldl_append

/-- The texts that are pushed to an empty list stay at their first occurrences. -/
theorem pushUnique_nil (texts : List String) : pushUnique [] texts = firstOfEach id texts := by
  refine foldl_eq_firstOfEach (fun kept text => ?_) texts
  have hknown : (kept.any fun other => id other == id text) = kept.contains text := by
    rw [List.contains_eq_any_beq]
    exact List.any_congr rfl fun other => BEq.comm
  rw [hknown]
  split <;> simp

/-- Pushing texts neither loses texts nor makes any up. -/
theorem mem_pushUnique {list texts : List String} {text : String} :
    text ∈ pushUnique list texts ↔ text ∈ list ∨ text ∈ texts := by
  induction texts using List.reverseRecOn with
  | nil => simp [pushUnique]
  | append_singleton texts last ih =>
      have hlast : pushUnique list (texts ++ [last]) =
          if (pushUnique list texts).contains last then pushUnique list texts
          else pushUnique list texts ++ [last] :=
        pushUnique_append list texts [last]
      rw [hlast, List.mem_append, List.mem_singleton, ← or_assoc, ← ih]
      split
      · next hknown =>
        have hmem : last ∈ pushUnique list texts := List.contains_iff_mem.1 hknown
        exact ⟨Or.inl, fun h => h.elim (fun h => h) fun heq => heq ▸ hmem⟩
      · rw [List.mem_append, List.mem_singleton]

/-- The networks that are kept are those at the first occurrences of their ids. -/
theorem keepFirst_eq_firstOfEach (networks : List Network) :
    keepFirst networks = firstOfEach Network.id networks := by
  refine foldl_eq_firstOfEach (fun kept n => ?_) networks
  split <;> simp

end Export

end SiteAudit
