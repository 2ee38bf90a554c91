import Mathlib.Data.List.Induction
import Mathlib.Data.List.Nodup
import Mathlib.Logic.Function.Basic
import Mathlib.Logic.Relation

/-!
# Logs under keys

A key is opened once, with a head that never changes, and then collects events.
The events of a log are numbered in the order in which they were appended, and
no two of them have the same name. A later state extends an
earlier one: its logs begin with the earlier logs.
-/
namespace DeliverySystem.SequencedLogs
set_option autoImplicit false

structure Log (head event : Type) where
  head : head
  events : List event

section
variable {event : Type}

/-- The events with their numbers, from zero. -/
def numbered (events : List event) : List (ℕ × event) :=
  (List.range events.length).zip events

theorem numbered_concat (events : List event) (e : event) :
    numbered (events ++ [e]) = numbered events ++ [(events.length, e)] := by
  rw [numbered, List.length_append, List.length_singleton, List.range_succ,
    List.zip_append (by simp), numbered]
  rfl

theorem numbered_fst (events : List event) :
    (numbered events).map Prod.fst = List.range events.length :=
  List.map_fst_zip (by simp)

theorem numbered_snd (events : List event) : (numbered events).map Prod.snd = events :=
  List.map_snd_zip (by simp)

@[simp] theorem numbered_length (events : List event) :
    (numbered events).length = events.length := by
  simp [numbered]

theorem numbered_initial {events events' : List event} (h : events <+: events') :
    numbered events <+: numbered events' := by
  obtain ⟨rest, rfl⟩ := h
  induction rest using List.reverseRecOn with
  | nil =>
      exact (List.append_nil events).symm ▸ List.prefix_rfl
  | append_singleton rest e ih =>
      rw [← List.append_assoc, numbered_concat]
      exact ih.trans (List.prefix_append _ _)

theorem mem_of_mem_numbered {events : List event} {n : ℕ} {e : event}
    (h : (n, e) ∈ numbered events) : e ∈ events := (List.of_mem_zip h).2

/-- The last event has as many events before it as there are others. -/
theorem numbered_getLast? (events : List event) :
    (numbered events).getLast? = events.getLast?.map fun e => (events.length - 1, e) := by
  induction events using List.reverseRecOn with
  | nil => rfl
  | append_singleton events e _ => simp [numbered_concat]

variable {ident : Type} [DecidableEq ident]

/-- The numbered event of this name. -/
def named (name : event → ident) (events : List event) (i : ident) : Option (ℕ × event) :=
  (numbered events).find? fun numbered => name numbered.2 = i

theorem named_eq_none {name : event → ident} {events : List event} {i : ident} :
    named name events i = none ↔ i ∉ events.map name := by
  rw [named, List.find?_eq_none]
  constructor
  · intro h hmem
    obtain ⟨e, he, rfl⟩ := List.mem_map.mp hmem
    rw [← numbered_snd events, List.mem_map] at he
    obtain ⟨⟨n, e'⟩, hne, rfl⟩ := he
    exact h _ hne (by simp)
  · intro h ⟨n, e⟩ hne
    rw [decide_eq_true_eq]
    rintro rfl
    exact h (List.mem_map_of_mem (mem_of_mem_numbered hne))

theorem named_eq_some {name : event → ident} {events : List event} {i : ident} {n : ℕ} {e : event}
    (h : named name events i = some (n, e)) : (n, e) ∈ numbered events ∧ name e = i :=
  ⟨List.mem_of_find?_eq_some h, by simpa using List.find?_some h⟩

/-- Among events with different names a numbered event is found by its name. -/
theorem named_of_mem {name : event → ident} {events : List event} {n : ℕ} {e : event}
    (hdistinct : (events.map name).Nodup) (h : (n, e) ∈ numbered events) :
    named name events (name e) = some (n, e) := by
  cases hfound : named name events (name e) with
  | none =>
      exact absurd (List.mem_map_of_mem (mem_of_mem_numbered h)) (named_eq_none.mp hfound)
  | some found =>
      obtain ⟨hmem, hname⟩ := named_eq_some hfound
      have hnodup : ((numbered events).map fun numbered => name numbered.2).Nodup := by
        rw [← numbered_snd events, List.map_map] at hdistinct
        exact hdistinct
      exact congrArg some (List.inj_on_of_nodup_map hnodup hmem h hname)

/-- Appending leaves the events that are there under their names. -/
theorem named_prefix {name : event → ident} {events events' : List event} {i : ident} {n : ℕ}
    {e : event} (hinitial : events <+: events') (hdistinct : (events'.map name).Nodup)
    (h : named name events i = some (n, e)) : named name events' i = some (n, e) := by
  obtain ⟨hmem, rfl⟩ := named_eq_some h
  exact named_of_mem hdistinct ((numbered_initial hinitial).subset hmem)

end

/-! ## Logs under keys -/

abbrev Logs (key head event : Type) := key → Option (Log head event)

namespace Logs
variable {key head event ident : Type} [DecidableEq key]

omit [DecidableEq key] in
def empty : Logs key head event := fun _ => none

def opened (logs : Logs key head event) (k : key) (h : head) : Logs key head event :=
  Function.update logs k (some ⟨h, []⟩)

def appended (logs : Logs key head event) (k : key) (log : Log head event) (e : event) :
    Logs key head event :=
  Function.update logs k (some { log with events := log.events ++ [e] })

/-- Every log is there in the later state, with its head, and begins it. -/
def Extends (logs logs' : Logs key head event) : Prop :=
  ∀ k log, logs k = some log →
    ∃ log', logs' k = some log' ∧ log'.head = log.head ∧ log.events <+: log'.events

/-- The events of a log have different names. -/
def Distinct (name : event → ident) (logs : Logs key head event) : Prop :=
  ∀ k log, logs k = some log → (log.events.map name).Nodup

omit [DecidableEq key] in
theorem Extends.refl (logs : Logs key head event) : logs.Extends logs :=
  fun _ log h => ⟨log, h, rfl, List.prefix_rfl⟩

omit [DecidableEq key] in
theorem Extends.trans {logs logs' logs'' : Logs key head event} (h : logs.Extends logs')
    (h' : logs'.Extends logs'') : logs.Extends logs'' := by
  intro k log hlog
  obtain ⟨log', hlog', hhead, hinitial⟩ := h k log hlog
  obtain ⟨log'', hlog'', hhead', hinitial'⟩ := h' k log' hlog'
  exact ⟨log'', hlog'', hhead'.trans hhead, hinitial.trans hinitial'⟩

/-- What happens to the logs: nothing, a key is opened, or a new event is appended. -/
inductive Step (name : event → ident) (logs : Logs key head event) : Logs key head event → Prop
  | stay : Step name logs logs
  | opened {k : key} {h : head} : logs k = none → Step name logs (logs.opened k h)
  | appended {k : key} {log : Log head event} {e : event} : logs k = some log →
      name e ∉ log.events.map name → Step name logs (logs.appended k log e)

theorem Step.extends {name : event → ident} {logs logs' : Logs key head event}
    (h : Step name logs logs') : logs.Extends logs' := by
  cases h with
  | stay => exact .refl logs
  | @opened k h hfree =>
      intro j log hlog
      have hne : j ≠ k := by
        rintro rfl
        rw [hfree] at hlog
        cases hlog
      exact ⟨log, by rw [Logs.opened, Function.update_of_ne hne, hlog], rfl, List.prefix_rfl⟩
  | @appended k log e hlog hfresh =>
      intro j log' hlog'
      by_cases hj : j = k
      · subst hj
        obtain rfl := Option.some.inj (hlog.symm.trans hlog')
        exact ⟨_, Function.update_self .., rfl, List.prefix_append _ _⟩
      · exact ⟨log', by rw [Logs.appended, Function.update_of_ne hj, hlog'], rfl, List.prefix_rfl⟩

theorem Step.distinct {name : event → ident} {logs logs' : Logs key head event}
    (h : Step name logs logs') (hdistinct : logs.Distinct name) : logs'.Distinct name := by
  cases h with
  | stay => exact hdistinct
  | @opened k h hfree =>
      intro j log hlog
      by_cases hj : j = k
      · subst hj
        rw [Logs.opened, Function.update_self] at hlog
        obtain rfl := Option.some.inj hlog
        exact List.nodup_nil
      · rw [Logs.opened, Function.update_of_ne hj] at hlog
        exact hdistinct j log hlog
  | @appended k log e hlog hfresh =>
      intro j log' hlog'
      by_cases hj : j = k
      · subst hj
        rw [Logs.appended, Function.update_self] at hlog'
        obtain rfl := Option.some.inj hlog'
        rw [List.map_append, List.map_singleton]
        exact (hdistinct j log hlog).append (List.nodup_singleton _) (by simpa using hfresh)
      · rw [Logs.appended, Function.update_of_ne hj] at hlog'
        exact hdistinct j log' hlog'

/-- Whatever moves as the logs do extends them along every run. -/
theorem run_extends {state : Type} {next : state → state → Prop}
    {represents : state → Logs key head event → Prop} {name : event → ident}
    (hstep : ∀ s s' logs, represents s logs → logs.Distinct name → next s s' →
      ∃ logs', Step name logs logs' ∧ represents s' logs')
    {s s' : state} (hrun : Relation.ReflTransGen next s s') {logs : Logs key head event}
    (hlogs : represents s logs) (hdistinct : logs.Distinct name) :
    ∃ logs', represents s' logs' ∧ logs.Extends logs' ∧ logs'.Distinct name := by
  induction hrun with
  | refl => exact ⟨logs, hlogs, .refl logs, hdistinct⟩
  | @tail s' s'' _ hnext ih =>
      obtain ⟨logs', hlogs', hextends, hdistinct'⟩ := ih
      obtain ⟨logs'', hmove, hlogs''⟩ := hstep s' s'' logs' hlogs' hdistinct' hnext
      exact ⟨logs'', hlogs'', hextends.trans hmove.extends, hmove.distinct hdistinct'⟩

end Logs
end DeliverySystem.SequencedLogs
