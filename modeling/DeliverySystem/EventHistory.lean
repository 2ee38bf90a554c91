import DeliverySystem.KeyedRows
import Mathlib.Data.List.Dedup

/-!
# Append-only event histories

A history records one event after another, each under a key, and never changes
what it recorded. The state of a key is its latest event. When every event that
is appended to a key follows the latest one in some order, the state of a key
only moves forward in that order.
-/
namespace DeliverySystem.EventHistory
open KeyedRows
set_option autoImplicit false

structure History (key event : Type) where
  entries : List (key × event)
deriving Repr, DecidableEq

namespace History
variable {key event : Type}

def empty : History key event := ⟨[]⟩

/-- Record an event; histories have no other writing operation. -/
def append (h : History key event) (k : key) (e : event) : History key event :=
  ⟨h.entries ++ [(k, e)]⟩

def appendAll (h : History key event) (events : List (key × event)) : History key event :=
  ⟨h.entries ++ events⟩

theorem append_eq_appendAll (h : History key event) (k : key) (e : event) :
    h.append k e = h.appendAll [(k, e)] := rfl

variable [DecidableEq key]

/-- The state of a key. -/
def latest (h : History key event) (k : key) : Option event :=
  (h.entries.reverse.find? fun entry => entry.1 = k).map Prod.snd

/-- The keys that have a state, in the order of their first events. -/
def keys (h : History key event) : List key := (h.entries.reverse.map Prod.fst).dedup.reverse

/-- The keys with their states. -/
def states (h : History key event) : List (key × event) :=
  h.keys.filterMap fun k => (h.latest k).map fun e => (k, e)

@[simp] theorem latest_empty (k : key) : (empty : History key event).latest k = none := rfl

theorem latest_append (h : History key event) (k : key) (e : event) (j : key) :
    (h.append k e).latest j = if j = k then some e else h.latest j := by
  unfold latest append
  rw [List.reverse_append, List.reverse_singleton, List.singleton_append, List.find?_cons]
  by_cases hj : j = k
  · simp [hj]
  · simp [hj, Ne.symm hj]

theorem latest_append_self (h : History key event) (k : key) (e : event) :
    (h.append k e).latest k = some e := by
  rw [latest_append, if_pos rfl]

theorem latest_append_ne (h : History key event) {k j : key} (e : event) (hne : j ≠ k) :
    (h.append k e).latest j = h.latest j := by
  rw [latest_append, if_neg hne]

/-- Events under distinct keys each become the state of their key. -/
theorem latest_appendAll (h : History key event) (events : Rows key event) (k : key) :
    (h.appendAll events.entries).latest k = (events.lookup k).or (h.latest k) := by
  have hreversed : ((events.entries.reverse).map Prod.fst).Nodup := by
    rw [List.map_reverse]
    exact List.nodup_reverse.mpr events.nodup
  have hlookup : (⟨events.entries.reverse, hreversed⟩ : Rows key event).lookup k =
      events.lookup k := by
    refine Option.ext fun e => ?_
    rw [Rows.lookup_eq_some_iff, Rows.lookup_eq_some_iff, List.mem_reverse]
  rw [← hlookup]
  unfold latest appendAll Rows.lookup
  rw [List.reverse_append, List.find?_append]
  cases events.entries.reverse.find? fun entry => entry.1 = k <;> simp

theorem latest_isSome_iff (h : History key event) (k : key) :
    (h.latest k).isSome ↔ ∃ e, (k, e) ∈ h.entries := by
  unfold latest
  rw [Option.isSome_map, List.find?_isSome]
  simp

theorem mem_keys (h : History key event) (k : key) : k ∈ h.keys ↔ (h.latest k).isSome := by
  rw [latest_isSome_iff, keys, List.mem_reverse, List.mem_dedup]
  simp

theorem mem_states (h : History key event) {k : key} {e : event} :
    (k, e) ∈ h.states ↔ h.latest k = some e := by
  simp only [states, List.mem_filterMap, Option.map_eq_some_iff, Prod.mk.injEq]
  constructor
  · rintro ⟨j, -, f, hf, rfl, rfl⟩
    exact hf
  · intro hk
    exact ⟨k, (mem_keys h k).mpr (by rw [hk, Option.isSome_some]), e, hk, rfl, rfl⟩

theorem keys_nodup (h : History key event) : h.keys.Nodup :=
  List.nodup_reverse.mpr (List.nodup_dedup _)

theorem states_keys (h : History key event) : h.states.map Prod.fst = h.keys := by
  have hall : ∀ k ∈ h.keys, ((h.latest k).map fun e => (k, e)).map Prod.fst = some k := by
    intro k hk
    obtain ⟨e, he⟩ := Option.isSome_iff_exists.mp ((mem_keys h k).mp hk)
    simp [he]
  rw [states, List.map_filterMap, List.filterMap_congr hall, List.filterMap_some]

/-- The states that `f` answers, with the answers. -/
def successors (h : History key event) (f : event → Option event) : Rows key event where
  entries := h.states.filterMap fun entry => (f entry.2).map fun e => (entry.1, e)
  nodup := by
    have hsub : ∀ states : List (key × event), List.Sublist ((states.filterMap fun entry =>
        (f entry.2).map fun e => (entry.1, e)).map Prod.fst) (states.map Prod.fst) := by
      intro states
      induction states with
      | nil => simp
      | cons entry rest ih =>
          cases hf : f entry.2 with
          | none => simpa [List.filterMap_cons, hf] using ih.cons entry.1
          | some e => simpa [List.filterMap_cons, hf] using ih.cons_cons entry.1
    have hkeys := hsub h.states
    rw [states_keys] at hkeys
    exact h.keys_nodup.sublist hkeys

theorem successors_lookup (h : History key event) (f : event → Option event) (k : key) :
    (h.successors f).lookup k = (h.latest k).bind f := by
  refine Option.ext fun e => ?_
  rw [Rows.lookup_eq_some_iff, successors, List.mem_filterMap, Option.bind_eq_some_iff]
  constructor
  · rintro ⟨⟨j, prior⟩, hmem, hmap⟩
    obtain ⟨e', he', heq⟩ := Option.map_eq_some_iff.mp hmap
    obtain ⟨rfl, rfl⟩ := Prod.mk.inj heq
    exact ⟨prior, h.mem_states.mp hmem, he'⟩
  · rintro ⟨prior, hprior, he⟩
    exact ⟨(k, prior), h.mem_states.mpr hprior, by rw [he]; rfl⟩

/-- Each state that `f` answers is superseded by its answer. -/
def supersede (h : History key event) (f : event → Option event) : History key event :=
  h.appendAll (h.successors f).entries

theorem latest_supersede (h : History key event) (f : event → Option event) (k : key) :
    (h.supersede f).latest k = (h.latest k).map fun e => (f e).getD e := by
  rw [supersede, latest_appendAll, successors_lookup]
  cases h.latest k with
  | none => rfl
  | some e => cases hf : f e <;> simp [hf]

omit [DecidableEq key] in
theorem mem_append {h : History key event} {k j : key} {e f : event} :
    (j, f) ∈ (h.append k e).entries ↔ (j, f) ∈ h.entries ∨ j = k ∧ f = e := by
  simp [append]

theorem mem_supersede {h : History key event} {f : event → Option event} {k : key} {e : event} :
    (k, e) ∈ (h.supersede f).entries ↔
      (k, e) ∈ h.entries ∨ ∃ prior, h.latest k = some prior ∧ f prior = some e := by
  rw [supersede, appendAll, List.mem_append, ← Rows.lookup_eq_some_iff, successors_lookup,
    Option.bind_eq_some_iff]

/-- A state is an event of its key. -/
theorem mem_of_latest {h : History key event} {k : key} {e : event} (he : h.latest k = some e) :
    (k, e) ∈ h.entries := by
  obtain ⟨entry, hfind, rfl⟩ := Option.map_eq_some_iff.mp he
  have hkey : entry.1 = k := by simpa using List.find?_some hfind
  have hmem := List.mem_of_find?_eq_some hfind
  rw [List.mem_reverse] at hmem
  rwa [← hkey]

/-! ## Moving forward -/

/-- Every state of `h` is a state of `h'` that follows it. -/
def Advances (r : event → event → Prop) (h h' : History key event) : Prop :=
  ∀ k e, h.latest k = some e → ∃ e', h'.latest k = some e' ∧ r e e'

section
variable {r : event → event → Prop}

theorem Advances.refl [Std.Refl r] (h : History key event) : Advances r h h :=
  fun _ e he => ⟨e, he, Std.Refl.refl e⟩

theorem Advances.trans [IsTrans event r] {h h' h'' : History key event} (hr : Advances r h h')
    (hr' : Advances r h' h'') : Advances r h h'' := by
  intro k e he
  obtain ⟨e', he', hee'⟩ := hr k e he
  obtain ⟨e'', he'', hee''⟩ := hr' k e' he'
  exact ⟨e'', he'', IsTrans.trans _ _ _ hee' hee''⟩

/-- Appending an event that follows the state of its key moves forward. -/
theorem advances_append [Std.Refl r] (h : History key event) {k : key} {e : event}
    (hnext : ∀ prior, h.latest k = some prior → r prior e) : Advances r h (h.append k e) := by
  intro j prior hprior
  rw [latest_append]
  by_cases hj : j = k
  · subst hj
    exact ⟨e, if_pos rfl, hnext prior hprior⟩
  · exact ⟨prior, by rw [if_neg hj, hprior], Std.Refl.refl prior⟩

theorem advances_supersede [Std.Refl r] (h : History key event) {f : event → Option event}
    (hnext : ∀ k prior e, h.latest k = some prior → f prior = some e → r prior e) :
    Advances r h (h.supersede f) := by
  intro k prior hprior
  rw [latest_supersede, hprior, Option.map_some]
  refine ⟨_, rfl, ?_⟩
  cases hf : f prior with
  | none => exact Std.Refl.refl prior
  | some e => exact hnext k prior e hprior hf

end
end History
end DeliverySystem.EventHistory
