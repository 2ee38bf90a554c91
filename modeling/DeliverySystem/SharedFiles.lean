import DeliverySystem.FallibleRuns
import Mathlib.Data.List.Dedup

/-!
# Files that others change as well

A run works on files while other processes change them, and every operation may
fail and leave a part of its work behind. What the others leave alone can be
relied upon from one operation to the next, and what the run itself has changed
is recorded step by step.
-/
namespace DeliverySystem.SharedFiles
open FallibleRuns
set_option autoImplicit false

/-- The names on the way to a file. -/
abbrev Path := List String

/-- What a path names. A link says whether it leads to something. -/
inductive Node (C : Type) where
  | file (content : C)
  | directory
  | link (leads : Bool)
deriving Repr, DecidableEq

variable {C ε α β : Type}

/-! ## Files -/

structure Files (C : Type) where
  node : Path → Option (Node C)
  known : List Path
  complete : ∀ p, node p ≠ none → p ∈ known

namespace Files

def empty : Files C := ⟨fun _ => none, [], fun _ h => absurd rfl h⟩

def put (files : Files C) (p : Path) (n : Option (Node C)) : Files C where
  node q := if q = p then n else files.node q
  known := p :: files.known
  complete q hq := by
    by_cases h : q = p
    · exact List.mem_cons.mpr (.inl h)
    · rw [if_neg h] at hq
      exact List.mem_cons.mpr (.inr (files.complete q hq))

/-- Remove what a test selects of a path and everything below it. -/
def removeTree (files : Files C) (p : Path) (selected : Path → Bool) : Files C where
  node q := if p <+: q ∧ selected q = true then none else files.node q
  known := files.known
  complete q hq := by
    by_cases h : p <+: q ∧ selected q = true
    · rw [if_pos h] at hq
      exact absurd rfl hq
    · rw [if_neg h] at hq
      exact files.complete q hq

/-- Give a path, and everything below it, another name. -/
def move (files : Files C) (source target : Path) : Files C where
  node q :=
    if target <+: q then files.node (source ++ q.drop target.length)
    else if source <+: q then none
    else files.node q
  known := files.known.map (fun q => target ++ q.drop source.length) ++ files.known
  complete q hq := by
    by_cases htarget : target <+: q
    · rw [if_pos htarget] at hq
      obtain ⟨rest, rfl⟩ := htarget
      rw [List.drop_left] at hq
      refine List.mem_append.mpr (.inl (List.mem_map.mpr ⟨_, files.complete _ hq, ?_⟩))
      rw [List.drop_left]
    · rw [if_neg htarget] at hq
      by_cases hsource : source <+: q
      · rw [if_pos hsource] at hq
        exact absurd rfl hq
      · rw [if_neg hsource] at hq
        exact List.mem_append.mpr (.inr (files.complete q hq))

/-- The names in a directory. -/
def names (files : Files C) (directory : Path) : List String :=
  (files.known.filterMap fun p =>
    if p ≠ [] ∧ p.dropLast = directory ∧ (files.node p).isSome = true then p.getLast?
    else none).dedup

theorem mem_names {files : Files C} {directory : Path} {name : String} :
    name ∈ files.names directory ↔ files.node (directory ++ [name]) ≠ none := by
  rw [names, List.mem_dedup, List.mem_filterMap]
  constructor
  · rintro ⟨p, -, hname⟩
    split_ifs at hname with h
    obtain ⟨hne, hdirectory, hnode⟩ := h
    rw [List.getLast?_eq_some_getLast hne, Option.some.injEq] at hname
    rw [← hdirectory, ← hname, List.dropLast_append_getLast hne]
    exact Option.isSome_iff_ne_none.mp hnode
  · intro hnode
    refine ⟨directory ++ [name], files.complete _ hnode, ?_⟩
    rw [if_pos ⟨by simp, by simp, Option.isSome_iff_ne_none.mpr hnode⟩]
    simp

@[simp] theorem put_node (files : Files C) (p q : Path) (n : Option (Node C)) :
    (files.put p n).node q = if q = p then n else files.node q := rfl

@[simp] theorem removeTree_node (files : Files C) (p q : Path) (selected : Path → Bool) :
    (files.removeTree p selected).node q =
      if p <+: q ∧ selected q = true then none else files.node q := rfl

theorem move_node_target (files : Files C) (source target rest : Path) :
    (files.move source target).node (target ++ rest) = files.node (source ++ rest) := by
  rw [move]
  simp

theorem move_node_other (files : Files C) {source target q : Path} (htarget : ¬target <+: q)
    (hsource : ¬source <+: q) : (files.move source target).node q = files.node q := by
  rw [move]
  simp only [if_neg htarget, if_neg hsource]

theorem move_node_source (files : Files C) {source target q : Path} (htarget : ¬target <+: q)
    (hsource : source <+: q) : (files.move source target).node q = none := by
  rw [move]
  simp only [if_neg htarget, if_pos hsource]

end Files

/-! ## Operations -/

/-- How an operation fails: what it raises, what a write has left behind, and what of a tree
has been removed. -/
structure Fault (C ε : Type) where
  error : ε
  left : Option C
  removed : Path → Bool

/-- What happens around one operation. -/
structure Moment (C ε : Type) where
  /-- What others do to the files before it. -/
  others : Files C → Files C
  fault : Option (Fault C ε)

structure World (C ε : Type) where
  files : Files C
  moments : List (Moment C ε)
  /-- The files before and after each operation of the run. -/
  steps : List (Files C × Files C)

def World.after (w : World C ε) (before files : Files C) : World C ε where
  files := files
  moments := w.moments.tail
  steps := w.steps ++ [(before, files)]

/-- One operation, with the work it does and what is left of it when it fails. Nothing is changed
where the work itself raises. -/
def operation (work : Files C → Except ε (α × Files C))
    (broken : Fault C ε → Files C → Files C) : Run (World C ε) ε α :=
  ExceptT.mk fun w =>
    let moment := w.moments.headD ⟨id, none⟩
    let files := moment.others w.files
    match moment.fault with
    | some fault => (.error fault.error, w.after files (broken fault files))
    | none =>
        match work files with
        | .ok (a, files') => (.ok a, w.after files files')
        | .error e => (.error e, w.after files files)

/-- A look at the files. -/
def look (read : Files C → α) : Run (World C ε) ε α :=
  operation (fun files => .ok (read files, files)) fun _ files => files

/-- A change of the files, or what is left of it. -/
def change (work : Files C → Files C) (broken : Fault C ε → Files C → Files C) :
    Run (World C ε) ε Unit :=
  operation (fun files => .ok ((), work files)) broken

/-! ## What can be relied upon -/

/-- What surrounds a run: the paths that others leave alone, the errors of the system, and the
changes that the run itself may make. -/
structure Ambient (C ε : Type) where
  fixed : Path → Prop
  faults : ε → Prop
  allowed : Files C → Files C → Prop
  refl : ∀ files, allowed files files

namespace Ambient

/-- What is known of the files depends on fixed paths only. -/
def About (A : Ambient C ε) (K : Files C → Prop) : Prop :=
  ∀ files files', (∀ p, A.fixed p → files'.node p = files.node p) → K files → K files'

/-- What may happen around the operations that are left. -/
def Awaits (A : Ambient C ε) (moments : List (Moment C ε)) : Prop :=
  ∀ moment ∈ moments, (∀ files p, A.fixed p → (moment.others files).node p = files.node p) ∧
    ∀ fault, moment.fault = some fault → A.faults fault.error

/-- The world of a run, with what is known of the files. -/
structure Kept (A : Ambient C ε) (K : Files C → Prop) (w : World C ε) : Prop where
  awaits : A.Awaits w.moments
  within : ∀ step ∈ w.steps, A.allowed step.1 step.2
  files : K w.files

/-- From files of `K` the run ends in files of `Q` or raises in files of `E`, whatever happens
around it. -/
def Does (A : Ambient C ε) (K : Files C → Prop) (x : Run (World C ε) ε α)
    (Q : α → Files C → Prop) (E : ε → Files C → Prop) : Prop :=
  Meets (A.Kept K) x (fun a => A.Kept (Q a)) fun e => A.Kept (E e)

/-- If the run raises, its own steps are allowed and it ends in files of `E`. -/
def Raises (A : Ambient C ε) (K : Files C → Prop) (x : Run (World C ε) ε α)
    (E : ε → Files C → Prop) : Prop := Meets (A.Kept K) x (fun _ _ => True) fun e => A.Kept (E e)

/-- A run that changes nothing keeps whatever is known of the files. -/
def Looks (A : Ambient C ε) (x : Run (World C ε) ε α) : Prop :=
  ∀ K : Files C → Prop, A.About K → A.Does K x (fun _ => K) fun _ => K

end Ambient

open Ambient

variable {A : Ambient C ε} {K K' : Files C → Prop} {Q Q' : α → Files C → Prop}
  {E E' : ε → Files C → Prop} {x : Run (World C ε) ε α}

namespace Ambient

theorem About.and (hK : A.About K) (hK' : A.About K') : A.About fun files => K files ∧ K' files :=
  fun files files' hsame h => ⟨hK files files' hsame h.1, hK' files files' hsame h.2⟩

theorem About.const {P : Prop} : A.About fun _ => P := fun _ _ _ => id

theorem About.imp {P : Prop} (hK : P → A.About K) : A.About fun files => P → K files :=
  fun files files' hsame h hP => hK hP files files' hsame (h hP)

theorem About.node {p : Path} (hp : A.fixed p) (P : Option (Node C) → Prop) :
    A.About fun files => P (files.node p) := by
  intro files files' hsame h
  rw [hsame p hp]
  exact h

theorem About.all {ι : Type} {K : ι → Files C → Prop} (hK : ∀ i, A.About (K i)) :
    A.About fun files => ∀ i, K i files := fun files files' hsame h i => hK i files files' hsame (h i)

theorem Kept.mono {w : World C ε} (h : A.Kept K w) (hK : ∀ files, K files → K' files) :
    A.Kept K' w := ⟨h.awaits, h.within, hK _ h.files⟩

theorem Kept.after {w : World C ε} (h : A.Kept K w) {before files : Files C}
    (hallowed : A.allowed before files) (hK : K' files) : A.Kept K' (w.after before files) where
  awaits moment hmoment := h.awaits moment (List.mem_of_mem_tail hmoment)
  within step hstep := by
    rcases List.mem_append.mp hstep with hstep | hstep
    · exact h.within step hstep
    · rw [List.mem_singleton.mp hstep]
      exact hallowed
  files := hK

/-- The next operation finds what others have left alone. -/
theorem Kept.next {w : World C ε} (h : A.Kept K w) (hK : A.About K) :
    K ((w.moments.headD ⟨id, none⟩).others w.files) := by
  refine hK _ _ (fun p hp => ?_) h.files
  cases hmoments : w.moments with
  | nil => rfl
  | cons moment rest =>
      exact (h.awaits moment (by rw [hmoments]; exact List.mem_cons_self)).1 _ p hp

theorem Kept.fault {w : World C ε} (h : A.Kept K w) {fault : Fault C ε}
    (hfault : (w.moments.headD ⟨id, none⟩).fault = some fault) : A.faults fault.error := by
  cases hmoments : w.moments with
  | nil =>
      rw [hmoments] at hfault
      cases hfault
  | cons moment rest =>
      rw [hmoments] at hfault
      exact (h.awaits moment (by rw [hmoments]; exact List.mem_cons_self)).2 fault hfault

/-! ## Rules -/

namespace Does

theorem weaken (h : A.Does K x Q E) (hK : ∀ files, K' files → K files)
    (hQ : ∀ a files, Q a files → Q' a files) (hE : ∀ e files, E e files → E' e files) :
    A.Does K' x Q' E' :=
  Meets.weaken h (fun _ hw => hw.mono hK) (fun a _ hw => hw.mono (hQ a))
    fun e _ hw => hw.mono (hE e)

theorem pure {a : α} (h : ∀ files, K files → Q a files) :
    A.Does K (Pure.pure a : Run (World C ε) ε α) Q E := Meets.pure fun _ hw => hw.mono h

theorem throw {e : ε} (h : ∀ files, K files → E e files) :
    A.Does K (throw e : Run (World C ε) ε α) Q E := Meets.throw fun _ hw => hw.mono h

theorem bind {R : β → Files C → Prop} {y : Run (World C ε) ε β} {f : β → Run (World C ε) ε α}
    (hy : A.Does K y R E) (hf : ∀ b, A.Does (R b) (f b) Q E) : A.Does K (y >>= f) Q E :=
  Meets.bind hy hf

theorem tryCatch {R : ε → Files C → Prop} {handler : ε → Run (World C ε) ε α}
    (hx : A.Does K x Q R) (hhandler : ∀ e, A.Does (R e) (handler e) Q E) :
    A.Does K (tryCatch x handler) Q E := Meets.tryCatch hx hhandler

theorem mapError {handler : ε → ε} (hx : A.Does K x Q fun e => E (handler e)) :
    A.Does K (x.mapError handler) Q E := hx.tryCatch fun _ => .throw fun _ => id

theorem ofExcept {result : Except ε α} (hok : ∀ a files, result = .ok a → K files → Q a files)
    (herror : ∀ e files, result = .error e → K files → E e files) :
    A.Does K (Run.ofExcept result) Q E :=
  Meets.ofExcept (fun a _ h hw => hw.mono fun files => hok a files h)
    fun e _ h hw => hw.mono fun files => herror e files h

/-- What a run relies on may be proved for each case of what is known. -/
theorem each {ι : Type} {K : ι → Files C → Prop} (h : ∀ i, A.Does (K i) x Q E) :
    A.Does (fun files => ∃ i, K i files) x Q E := by
  intro w hw
  obtain ⟨i, hi⟩ := hw.files
  exact h i w ⟨hw.awaits, hw.within, hi⟩

theorem of_prop {P : Prop} (h : P → A.Does K x Q E) : A.Does (fun files => P ∧ K files) x Q E :=
  fun w hw => h hw.files.1 w ⟨hw.awaits, hw.within, hw.files.2⟩

/-- A whole run: its own steps are allowed, and it ends as it should. -/
theorem run (h : A.Does K x Q E) {w : World C ε} (hsteps : w.steps = [])
    (hawaits : A.Awaits w.moments) (hK : K w.files) :
    (∀ step ∈ (x.start w).2.steps, A.allowed step.1 step.2) ∧
      (∀ a, (x.start w).1 = .ok a → Q a (x.start w).2.files) ∧
      ∀ e, (x.start w).1 = .error e → E e (x.start w).2.files := by
  have hrun := h w ⟨hawaits, by simp [hsteps], hK⟩
  rcases hresult : x.start w with ⟨a | e, w'⟩
  · rw [hresult] at hrun
    refine ⟨hrun.within, nofun, ?_⟩
    rintro _ ⟨⟩
    exact hrun.files
  · rw [hresult] at hrun
    refine ⟨hrun.within, ?_, nofun⟩
    rintro _ ⟨⟩
    exact hrun.files

/-- An operation, by what its work does to files of `K` and what a failure leaves of them. -/
theorem operation {work : Files C → Except ε (α × Files C)}
    {broken : Fault C ε → Files C → Files C} (hK : A.About K)
    (hok : ∀ files a files', K files → work files = .ok (a, files') →
      A.allowed files files' ∧ Q a files')
    (herror : ∀ files e, K files → work files = .error e → E e files)
    (hfault : ∀ fault files, A.faults fault.error → K files →
      A.allowed files (broken fault files) ∧ E fault.error (broken fault files)) :
    A.Does K (SharedFiles.operation work broken) Q E := by
  intro w hw
  have hnext := hw.next hK
  have hfaulty (fault : Fault C ε)
      (hmoment : (w.moments.headD ⟨id, none⟩).fault = some fault) := hw.fault hmoment
  unfold SharedFiles.operation Run.start ExceptT.run StateT.run ExceptT.mk
  dsimp only
  split
  · rename_i fault hmoment
    obtain ⟨hallowed, hend⟩ := hfault fault _ (hfaulty fault hmoment) hnext
    exact hw.after hallowed hend
  · split
    · rename_i a files' hwork
      obtain ⟨hallowed, hend⟩ := hok _ a files' hnext hwork
      exact hw.after hallowed hend
    · rename_i e hwork
      exact hw.after (A.refl _) (herror _ e hnext hwork)

/-- A look changes nothing and sees the files as they are. -/
theorem look {read : Files C → α} (hK : A.About K) (hQ : ∀ files, K files → Q (read files) files)
    (hE : ∀ e files, A.faults e → K files → E e files) :
    A.Does K (SharedFiles.look read) Q E := by
  refine operation hK ?_ ?_ fun fault files hfault h => ⟨A.refl files, hE _ files hfault h⟩
  · rintro files _ _ h heq
    obtain ⟨rfl, rfl⟩ := Prod.mk.inj (Except.ok.inj heq)
    exact ⟨A.refl files, hQ files h⟩
  · rintro files e h heq
    cases heq

/-- A look at what is known sees that. -/
theorem look_eq {read : Files C → α} {a : α} (hK : A.About K)
    (hread : ∀ files, K files → read files = a) :
    A.Does K (SharedFiles.look read) (fun b files => b = a ∧ K files)
      fun e files => A.faults e ∧ K files :=
  look hK (fun files h => ⟨hread files h, h⟩) fun _ _ hfault h => ⟨hfault, h⟩

theorem look_keeps {read : Files C → α} (hK : A.About K) :
    A.Does K (SharedFiles.look read) (fun _ => K) fun e files => A.faults e ∧ K files :=
  look hK (fun _ => id) fun _ _ hfault h => ⟨hfault, h⟩

theorem change {work : Files C → Files C} {broken : Fault C ε → Files C → Files C}
    {Q : Unit → Files C → Prop} (hK : A.About K)
    (hQ : ∀ files, K files → A.allowed files (work files) ∧ Q () (work files))
    (hE : ∀ fault files, A.faults fault.error → K files →
      A.allowed files (broken fault files) ∧ E fault.error (broken fault files)) :
    A.Does K (SharedFiles.change work broken) Q E := by
  refine operation hK ?_ ?_ hE
  · rintro files _ _ h heq
    obtain ⟨-, rfl⟩ := Prod.mk.inj (Except.ok.inj heq)
    exact hQ files h
  · rintro files e h heq
    cases heq

end Does

namespace Raises
variable {y : Run (World C ε) ε β}

theorem of_does (h : A.Does K x Q E) : A.Raises K x E :=
  Meets.weaken h (fun _ => id) (fun _ _ _ => trivial) fun _ _ => id

theorem bind {R : β → Files C → Prop} {f : β → Run (World C ε) ε α} (hy : A.Does K y R E)
    (hf : ∀ b, A.Raises (R b) (f b) E) : A.Raises K (y >>= f) E := Meets.bind hy hf

/-- After the last part that may raise. -/
theorem last {g : β → α} (hy : A.Raises K y E) : A.Raises K (y >>= fun b => Pure.pure (g b)) E :=
  Meets.bind hy fun _ => Meets.pure fun _ _ => trivial

theorem tryCatch {R : ε → Files C → Prop} {handler : ε → Run (World C ε) ε α}
    (hx : A.Raises K x R) (hhandler : ∀ e, A.Raises (R e) (handler e) E) :
    A.Raises K (tryCatch x handler) E := Meets.tryCatch hx hhandler

theorem mapError {handler : ε → ε} (hx : A.Raises K x fun e => E (handler e)) :
    A.Raises K (x.mapError handler) E := hx.tryCatch fun _ => Meets.throw fun _ => id

theorem of_prop {P : Prop} (h : P → A.Raises K x E) : A.Raises (fun files => P ∧ K files) x E :=
  fun w hw => h hw.files.1 w ⟨hw.awaits, hw.within, hw.files.2⟩

theorem each {ι : Type} {K : ι → Files C → Prop} (h : ∀ i, A.Raises (K i) x E) :
    A.Raises (fun files => ∃ i, K i files) x E := by
  intro w hw
  obtain ⟨i, hi⟩ := hw.files
  exact h i w ⟨hw.awaits, hw.within, hi⟩

/-- An operation, whatever it does when it succeeds. -/
theorem operation {work : Files C → Except ε (α × Files C)}
    {broken : Fault C ε → Files C → Files C} (hK : A.About K)
    (herror : ∀ files e, K files → work files = .error e → E e files)
    (hfault : ∀ fault files, A.faults fault.error → K files →
      A.allowed files (broken fault files) ∧ E fault.error (broken fault files)) :
    A.Raises K (SharedFiles.operation work broken) E := by
  intro w hw
  have hnext := hw.next hK
  have hfaulty (fault : Fault C ε)
      (hmoment : (w.moments.headD ⟨id, none⟩).fault = some fault) := hw.fault hmoment
  unfold SharedFiles.operation Run.start ExceptT.run StateT.run ExceptT.mk
  dsimp only
  split
  · rename_i fault hmoment
    obtain ⟨hallowed, hend⟩ := hfault fault _ (hfaulty fault hmoment) hnext
    exact hw.after hallowed hend
  · split
    · trivial
    · rename_i e hwork
      exact hw.after (A.refl _) (herror _ e hnext hwork)

theorem steps (h : A.Raises K x E) {w : World C ε} (hsteps : w.steps = [])
    (hawaits : A.Awaits w.moments) (hK : K w.files) {e : ε} (he : (x.start w).1 = .error e) :
    ∀ step ∈ (x.start w).2.steps, A.allowed step.1 step.2 := by
  have hrun := h w ⟨hawaits, by simp [hsteps], hK⟩
  rcases hresult : x.start w with ⟨a | e', w'⟩
  · rw [hresult] at hrun
    exact hrun.within
  · rw [hresult] at he
    cases he

end Raises

namespace Looks
variable {y : Run (World C ε) ε β}

theorem does (hx : A.Looks x) (hK : A.About K) (hQ : ∀ a files, K files → Q a files)
    (hE : ∀ e files, K files → E e files) : A.Does K x Q E :=
  (hx K hK).weaken (fun _ => id) hQ hE

/-- After a run that only looks, what is known is known still. -/
theorem next {f : β → Run (World C ε) ε α} (hy : A.Looks y) (hK : A.About K)
    (hE : ∀ e files, K files → E e files) (hf : ∀ b, A.Does K (f b) Q E) :
    A.Does K (y >>= f) Q E := Does.bind (hy.does hK (fun _ _ => id) hE) hf

/-- After a run that only looks, in a run that raises. -/
theorem raises {f : β → Run (World C ε) ε α} (hy : A.Looks y) (hK : A.About K)
    (hE : ∀ e files, K files → E e files) (hf : ∀ b, A.Raises K (f b) E) :
    A.Raises K (y >>= f) E := Raises.bind (hy.does hK (fun _ _ => id) hE) hf

theorem look {read : Files C → α} : A.Looks (SharedFiles.look (ε := ε) read) :=
  fun _ hK => Does.look hK (fun _ => id) fun _ _ _ => id

/-- An operation that leaves the files as they are. -/
theorem operation {work : Files C → Except ε (α × Files C)}
    (hwork : ∀ files a files', work files = .ok (a, files') → files' = files) :
    A.Looks (SharedFiles.operation work fun _ files => files) := by
  intro K hK
  refine Does.operation hK ?_ (fun _ _ h _ => h) fun _ files _ h => ⟨A.refl files, h⟩
  intro files a files' h heq
  obtain rfl := hwork files a files' heq
  exact ⟨A.refl _, h⟩

theorem pure (a : α) : A.Looks (Pure.pure a : Run (World C ε) ε α) :=
  fun _ _ => Does.pure fun _ => id

theorem throw (e : ε) : A.Looks (throw e : Run (World C ε) ε α) :=
  fun _ _ => Does.throw fun _ => id

theorem bind {f : β → Run (World C ε) ε α} (hy : A.Looks y) (hf : ∀ b, A.Looks (f b)) :
    A.Looks (y >>= f) := fun K hK => Does.bind (hy K hK) fun b => hf b K hK

theorem tryCatch {handler : ε → Run (World C ε) ε α} (hx : A.Looks x)
    (hhandler : ∀ e, A.Looks (handler e)) : A.Looks (tryCatch x handler) :=
  fun K hK => Does.tryCatch (hx K hK) fun e => hhandler e K hK

theorem mapError {handler : ε → ε} (hx : A.Looks x) : A.Looks (x.mapError handler) :=
  fun K hK => (hx K hK).mapError

theorem ite {p : Prop} [Decidable p] {x y : Run (World C ε) ε α} (hx : A.Looks x)
    (hy : A.Looks y) : A.Looks (if p then x else y) := by
  split
  · exact hx
  · exact hy

theorem forM {items : List β} {f : β → Run (World C ε) ε PUnit} (hf : ∀ b ∈ items, A.Looks (f b)) :
    A.Looks (items.forM f) := by
  induction items with
  | nil => exact pure _
  | cons b items ih =>
      obtain ⟨hb, hrest⟩ := List.forall_mem_cons.mp hf
      exact bind hb fun _ => ih hrest

end Looks

end Ambient

/-! ## Quiet runs -/

/-- With nobody else at work and without a failure, a run returns this and leaves these files. -/
def Returns (files : Files C) (x : Run (World C ε) ε α) (a : α) (files' : Files C) : Prop :=
  ∀ steps, ∃ steps', x.start ⟨files, [], steps⟩ = (.ok a, ⟨files', [], steps'⟩)

namespace Returns
variable {files files' files'' : Files C} {a : α} {b : β}

theorem pure : Returns files (Pure.pure a : Run (World C ε) ε α) a files := fun steps => ⟨steps, rfl⟩

theorem bind {y : Run (World C ε) ε β} {f : β → Run (World C ε) ε α}
    (hy : Returns files y b files') (hf : Returns files' (f b) a files'') :
    Returns files (y >>= f) a files'' := by
  intro steps
  obtain ⟨middle, hmiddle⟩ := hy steps
  obtain ⟨last, hlast⟩ := hf middle
  exact ⟨last, start_bind_eq_ok.mpr ⟨b, _, hmiddle, hlast⟩⟩

theorem tryCatch {handler : ε → Run (World C ε) ε α} (hx : Returns files x a files') :
    Returns files (tryCatch x handler) a files' := by
  intro steps
  obtain ⟨last, hlast⟩ := hx steps
  exact ⟨last, by rw [start_tryCatch, hlast]⟩

theorem mapError {handler : ε → ε} (hx : Returns files x a files') :
    Returns files (x.mapError handler) a files' := hx.tryCatch

theorem operation {work : Files C → Except ε (α × Files C)}
    {broken : Fault C ε → Files C → Files C} (h : work files = .ok (a, files')) :
    Returns files (SharedFiles.operation work broken) a files' := by
  intro steps
  refine ⟨steps ++ [(files, files')], ?_⟩
  unfold SharedFiles.operation Run.start ExceptT.run StateT.run ExceptT.mk
  dsimp only [List.headD_nil, id_eq]
  rw [h]
  rfl

theorem look {read : Files C → α} (h : read files = a) :
    Returns files (SharedFiles.look (ε := ε) read) a files := operation (by rw [h])

theorem change {work : Files C → Files C} {broken : Fault C ε → Files C → Files C} :
    Returns files (SharedFiles.change (ε := ε) work broken) () (work files) := operation rfl

theorem forM {items : List β} {f : β → Run (World C ε) ε PUnit}
    (hf : ∀ b ∈ items, Returns files (f b) PUnit.unit files) :
    Returns files (items.forM f) PUnit.unit files := by
  induction items with
  | nil => exact pure
  | cons b items ih =>
      obtain ⟨hb, hrest⟩ := List.forall_mem_cons.mp hf
      exact bind hb (ih hrest)

end Returns

end DeliverySystem.SharedFiles
