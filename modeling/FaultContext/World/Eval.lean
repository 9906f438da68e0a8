/-
# FaultContext.World.Eval -- computations that may raise.

A computation knows which exception is being handled around it, changes the world, and returns a
value or raises an exception.  Raising while another exception is being handled records that one as
the context of the new one (`FaultContext.Store.Links`).

A computation carries three facts with it.  It keeps the world (`World.Keeps`).  An exception that
leaves it was raised under the one being handled around it, unless some other exception has been
handled on the way: handling an exception is what lets another one take its place.  And it does not
depend on how often something has been suspended before (`World.Steady`).  These facts hold of the
few primitives here and survive sequencing and handling, so nothing that is built from these has to
prove them again.

`Engine` stands for calling values and awaiting coroutines.  Everything that calls back into the
program takes an engine as an argument, and `exhausted` is what a computation ends with when calls
are nested deeper than the engine allows; it is no exception and cannot be handled.
-/
import FaultContext.Template.Parse
import FaultContext.World.Keeps
import FaultContext.World.Steady

namespace FaultContext

/-- How a computation ends other than by a value. -/
inductive Signal where
  | raised (exception : Ref)
  | exhausted

/-- A computation: what it does, whether it does so without handling an exception, and what holds
of every run. -/
structure Eval (α : Type) where
  /-- How it ends and in which world, given the exception being handled. -/
  run : Option Ref → World → Except Signal α × World
  /-- No exception is handled on the way. -/
  Direct : Option Ref → World → Prop
  /-- Everything that there is stays what it is. -/
  keeps : ∀ handled (w : World), w.Keeps (run handled w).2
  /-- What is raised is raised under the exception being handled. -/
  under : ∀ {handled r : Ref} {w w' : World}, Direct (some handled) w →
    run (some handled) w = (.error (.raised r), w') → w'.store.Under handled r
  /-- It makes no difference what has been counted before. -/
  steady : ∀ handled, World.Steady (run handled)

namespace Eval

variable {α β : Type}

/-! ## Sequencing -/

/-- The computation that only returns a value. -/
protected def pure (a : α) : Eval α where
  run _ w := (.ok a, w)
  Direct _ _ := True
  keeps _ w := .refl w
  under _ h := by cases h
  steady _ := World.Unaware.steady ⟨fun _ _ _ => rfl⟩

/-- One computation after the other. -/
protected def bind (m : Eval α) (f : α → Eval β) : Eval β where
  run handled w :=
    match m.run handled w with
    | (.ok a, w') => (f a).run handled w'
    | (.error signal, w') => (.error signal, w')
  Direct handled w := m.Direct handled w ∧
    ∀ a w', m.run handled w = (.ok a, w') → (f a).Direct handled w'
  keeps handled w := by
    have hm := m.keeps handled w
    rcases h : m.run handled w with ⟨_ | a, w'⟩ <;> rw [h] at hm
    · exact hm
    · exact hm.trans ((f a).keeps handled w')
  under := by
    rintro handled r w w'' ⟨hdirect, hnext⟩ h
    rcases hm : m.run (some handled) w with ⟨signal | a, w'⟩ <;> rw [hm] at h
    · cases h
      exact m.under hdirect hm
    · exact (f a).under (hnext a w' hm) h
  steady handled := by
    constructor
    · intro w n hw
      have hm := (m.steady handled).suspended w n hw
      have hw' := (m.steady handled).scheduled w hw
      rcases h : m.run handled w with ⟨_ | a, w'⟩ <;> rw [h] at hm hw' <;> rw [hm]
      exact ((f a).steady handled).suspended w' n hw'
    · intro w hw
      have hw' := (m.steady handled).scheduled w hw
      rcases h : m.run handled w with ⟨_ | a, w'⟩ <;> rw [h] at hw'
      · exact hw'
      · exact ((f a).steady handled).scheduled w' hw'

instance : Monad Eval where
  pure := Eval.pure
  bind := Eval.bind

/-! ## Reading and changing the world -/

/-- Looks at the world, but not at what has been counted. -/
def reading (f : World → α) (h : World.Unaware f) : Eval α where
  run _ w := (.ok (f w), w)
  Direct _ _ := True
  keeps _ w := .refl w
  under _ h := by cases h
  steady _ := World.Unaware.steady ⟨fun w n hw => by rw [h.suspended w n hw]⟩

/-- The store as it is now. -/
def store : Eval Store := reading World.store ⟨fun _ _ _ => rfl⟩

/-- The thread that is running. -/
def thread : Eval Nat := reading World.thread ⟨fun _ _ _ => rfl⟩

/-- Runs a computation and then changes the world by what it gave.  The change has to keep the
world, as far as the runs of the computation can tell. -/
def thenChange (m : Eval α) (change : α → World → β × World)
    (h : ∀ {handled : Option Ref} {w w' : World} {a : α}, m.run handled w = (.ok a, w') →
      w'.Keeps (change a w').2)
    (hsteady : ∀ a, World.Steady (change a)) :
    Eval β where
  run handled w :=
    match m.run handled w with
    | (.ok a, w') => (.ok (change a w').1, (change a w').2)
    | (.error signal, w') => (.error signal, w')
  Direct := m.Direct
  keeps handled w := by
    have hm := m.keeps handled w
    rcases hrun : m.run handled w with ⟨_ | a, w'⟩ <;> rw [hrun] at hm
    · exact hm
    · exact hm.trans (h hrun)
  under := by
    intro handled r w w'' hdirect hraised
    rcases hrun : m.run (some handled) w with ⟨_ | a, w'⟩ <;> rw [hrun] at hraised
    · cases hraised
      exact m.under hdirect hrun
    · cases hraised
  steady handled := by
    constructor
    · intro w n hw
      have hm := (m.steady handled).suspended w n hw
      have hw' := (m.steady handled).scheduled w hw
      rcases hrun : m.run handled w with ⟨_ | a, w'⟩ <;> rw [hrun] at hm hw' <;> rw [hm]
      simp only [(hsteady a).suspended w' n hw']
    · intro w hw
      have hw' := (m.steady handled).scheduled w hw
      rcases hrun : m.run handled w with ⟨_ | a, w'⟩ <;> rw [hrun] at hw'
      · exact hw'
      · exact (hsteady a).scheduled w' hw'

/-- Changes the world. -/
def change (f : World → α × World) (h : ∀ w : World, w.Keeps (f w).2)
    (hsteady : World.Steady f) : Eval α where
  run _ w := (.ok (f w).1, (f w).2)
  Direct _ _ := True
  keeps _ w := h w
  under _ h := by cases h
  steady _ := ⟨fun w n hw => by rw [hsteady.suspended w n hw], hsteady.scheduled⟩

/-- Changes the store. -/
def changeStore (f : Store → α × Store) (h : ∀ s : Store, s.Keeps (f s).2) : Eval α :=
  change (fun w => ((f w.store).1, { w with store := (f w.store).2 }))
    (fun w => w.keeps_store (h w.store)) (World.steady_store f)

/-- Changes a part of the world that nothing for good depends on. -/
def changeRest (f : World → World) (h : ∀ w : World, w.Same (f w))
    (hsteady : World.Steady fun w => ((), f w)) : Eval Unit :=
  change (fun w => ((), f w)) (fun w => (h w).keeps) hsteady

/-- Makes a new object. -/
def new (o : Object) : Eval Value :=
  changeStore (fun s => (.object (s.insert o).1, (s.insert o).2)) fun s => s.keeps_insert o

/-- Makes a new exception. -/
def newException (c : Class) (args : List Value) (attributes : Named) : Eval Ref :=
  changeStore (fun s => s.newException c args attributes) fun s =>
    s.keeps_newException c args attributes

/-- Changes an object without changing what it is. -/
def modifyObject (r : Ref) (f : Object → Object) (h : ∀ o, (f o).core = o.core) : Eval Unit :=
  changeStore (fun s => ((), s.modify r f)) fun s => s.keeps_modify r h

/-- Sets the cause of an exception. -/
def setCause (r : Ref) (cause : Option Ref) : Eval Unit :=
  changeStore (fun s => ((), s.setCause r cause)) fun s => s.keeps_setCause r cause

/-- Sets the context of an exception. -/
def setContext (r : Ref) (context : Option Ref) : Eval Unit :=
  changeStore (fun s => ((), s.setContext r context)) fun s => s.keeps_setContext r context

/-- Sets an attribute of an object. -/
def setAttribute (r : Ref) (name : String) (v : Value) : Eval Unit :=
  modifyObject r (fun o => { o with attributes := o.attributes.set name v }) fun _ => rfl

/-- Hands out a value: data that has just been made gets a number of its own. -/
def handOut (v : Value) : Eval Value :=
  change (fun w => (v.number w.handedOut, { w with handedOut := w.handedOut + 1 }))
    (fun _ => World.Same.keeps ⟨rfl, rfl, rfl, rfl⟩) ⟨fun _ _ _ => rfl, fun _ hw => hw⟩

/-- A new frame of names. -/
def newFrame (names : Named) : Eval Nat :=
  change (fun w => (w.frames.size, { w with frames := w.frames.push names }))
    (fun _ => World.Same.keeps ⟨rfl, rfl, rfl, rfl⟩) ⟨fun _ _ _ => rfl, fun _ hw => hw⟩

/-- Gives a name in a frame a value. -/
def bindIn (frame : Nat) (name : String) (v : Value) : Eval Unit :=
  changeRest (fun w => { w with frames := w.frames.modify frame (·.set name v) })
    (fun _ => ⟨rfl, rfl, rfl, rfl⟩) ⟨fun _ _ _ => rfl, fun _ hw => hw⟩

/-! ## Raising and handling -/

/-- The end of a computation that calls are nested too deep for. -/
def exhausted : Eval α where
  run _ w := (.error .exhausted, w)
  Direct _ _ := True
  keeps _ w := .refl w
  under _ h := by cases h
  steady _ := World.Unaware.steady ⟨fun _ _ _ => rfl⟩

/-- Raises the exception of a fault. -/
def fault (f : Fault) : Eval α where
  run handled w :=
    let (r, s) := w.store.exceptionOf handled f
    (.error (.raised r), { w with store := s })
  Direct _ _ := True
  keeps handled w := w.keeps_store (w.store.keeps_exceptionOf handled f)
  under := by
    rintro handled r w w' - ⟨⟩
    exact w.store.under_exceptionOf handled f
  steady _ := ⟨fun _ _ _ => rfl, fun _ hw => hw⟩

/-- Raises an exception; something else cannot be raised. -/
def raise (r : Ref) : Eval α where
  run handled w :=
    if (w.store.exception? (.object r)).isSome then
      (.error (.raised r), { w with store := w.store.raising r handled })
    else (fault .notRaisable).run handled w
  Direct _ _ := True
  keeps handled w := by
    split
    · exact w.keeps_store (w.store.keeps_raising r handled)
    · exact (fault (α := α) .notRaisable).keeps handled w
  under := by
    intro handled q w w' _ h
    split at h
    next hr =>
      cases h
      exact Store.under_recordContext hr handled
    next => exact (fault (α := α) .notRaisable).under trivial h
  steady handled := by
    have hfault := (fault (α := α) .notRaisable).steady handled
    constructor
    · intro w n hw
      rw [World.store_suspended]
      split
      · rfl
      · exact hfault.suspended w n hw
    · intro w hw
      split
      · exact hw
      · exact hfault.scheduled w hw

/-- Goes on raising the exception that is being handled. -/
def raiseAgain : Eval α where
  run
    | some r, w => (.error (.raised r), w)
    | none, w => (fault (.plain .runtimeError "No active exception to reraise")).run none w
  Direct _ _ := True
  keeps
    | some _, w => .refl w
    | none, w =>
      (fault (α := α) (.plain .runtimeError "No active exception to reraise")).keeps none w
  under := by
    rintro handled r w w' - ⟨⟩
    exact .here
  steady
    | some _ => World.Unaware.steady ⟨fun _ _ _ => rfl⟩
    | none =>
      (fault (α := α) (.plain .runtimeError "No active exception to reraise")).steady none

/-- Raises an exception with a cause. -/
def raiseFrom (r cause : Ref) : Eval α := do
  setCause r (some cause)
  raise r

/-- Raises a new exception of a class with arguments. -/
def raiseAnew (complaint : Complaint) : Eval α := do
  raise (← newException complaint.cls complaint.args [])

/-- Raises a new exception of a standard class with one message. -/
def raiseNew (c : Standard) (message : String) : Eval α := raiseAnew ⟨c, [.str .fresh message]⟩

/-- Raises a new exception of a standard class with one message, attributes and a cause. -/
def raiseNewFrom (c : Standard) (message : String) (attributes : Named) (cause : Ref) : Eval α := do
  raiseFrom (← newException c [.str .fresh message] attributes) cause

/-- The value of a pure computation, or its fault raised. -/
def lift (r : Except Fault α) : Eval α :=
  match r with
  | .ok a => pure a
  | .error f => fault f

/-- Runs a computation; an exception that passes the test is handled. -/
def catchingIf (test : Store → Ref → Bool) (m : Eval α) (handler : Ref → Eval α) : Eval α where
  run handled w :=
    match m.run handled w with
    | (.error (.raised r), w') =>
      if test w'.store r then (handler r).run (some r) w' else (.error (.raised r), w')
    | ended => ended
  Direct handled w := m.Direct handled w ∧
    ∀ r w', m.run handled w = (.error (.raised r), w') → test w'.store r = false
  keeps handled w := by
    have hm := m.keeps handled w
    rcases h : m.run handled w with ⟨(r | _) | a, w'⟩ <;> rw [h] at hm <;> dsimp only
    · split
      · exact hm.trans ((handler r).keeps (some r) w')
      · exact hm
    · exact hm
    · exact hm
  under := by
    rintro handled q w w'' ⟨hdirect, htest⟩ h
    rcases hm : m.run (some handled) w with ⟨(r | _) | a, w'⟩ <;> rw [hm] at h
    · simp only [htest r w' hm, Bool.false_eq_true, if_false] at h
      cases h
      exact m.under hdirect hm
    · cases h
    · cases h
  steady handled := by
    constructor
    · intro w n hw
      have hm := (m.steady handled).suspended w n hw
      have hw' := (m.steady handled).scheduled w hw
      rcases h : m.run handled w with ⟨(r | _) | a, w'⟩ <;> rw [h] at hm hw' <;> rw [hm]
      dsimp only
      rw [World.store_suspended]
      split
      · exact ((handler r).steady (some r)).suspended w' n hw'
      · rfl
    · intro w hw
      have hw' := (m.steady handled).scheduled w hw
      rcases h : m.run handled w with ⟨(r | _) | a, w'⟩ <;> rw [h] at hw' <;> dsimp only
      · split
        · exact ((handler r).steady (some r)).scheduled w' hw'
        · exact hw'
      · exact hw'
      · exact hw'

/-- Runs a computation; an exception of the given class is handled. -/
def catching (c : Standard) : Eval α → (Ref → Eval α) → Eval α :=
  catchingIf fun s r => s.isInstance (.object r) c

/-! ## Texts -/

/-- The text of a value for reading. -/
def str (v : Value) : Eval String := do lift ((← store).str v)

/-- The text of a value that tells it apart. -/
def repr (v : Value) : Eval String := do lift ((← store).repr v)

/-! ## What is observed -/

/-- Adds a text to the log. -/
def log (text : String) : Eval Unit :=
  changeRest (fun w => { w with observed := { w.observed with log := w.observed.log ++ [text] } })
    (fun _ => ⟨rfl, rfl, rfl, rfl⟩) ⟨fun _ _ _ => rfl, fun _ hw => hw⟩

/-- Warns. -/
def warn (category text : String) : Eval Unit :=
  changeRest (fun w =>
    { w with observed := { w.observed with
      warnings := w.observed.warnings ++ [(category, text)] } })
    (fun _ => ⟨rfl, rfl, rfl, rfl⟩) ⟨fun _ _ _ => rfl, fun _ hw => hw⟩

/-- Adds a message to the trace. -/
def addTrace (text : String) : Eval Unit :=
  changeRest (fun w =>
    { w with observed := { w.observed with trace := w.observed.trace ++ [text] } })
    (fun _ => ⟨rfl, rfl, rfl, rfl⟩) ⟨fun _ _ _ => rfl, fun _ hw => hw⟩

/-- Traces a decision of the library; the message is made only if it is wanted. -/
def trace (message : Eval String) : Eval Unit := do
  if ← reading World.tracing ⟨fun _ _ _ => rfl⟩ then addTrace (← message)

/-! ## Templates -/

/-- Raises the exception of a fault about a template. -/
def templateFault (format : Value) (f : TemplateFault) : Eval α := do
  let text := match format with
    | .str _ t => t
    | _ => ""
  let problem : Fault := .plain f.cls (← lift (f.message (← store) text))
  match f with
  | .malformed m => fault (.during (.plain .valueError m.fault.message) problem true)
  | _ => fault problem

/-- The value of a check of a template, or its fault raised. -/
def liftTemplate (format : Value) (r : Except TemplateFault α) : Eval α :=
  match r with
  | .ok a => pure a
  | .error f => templateFault format f

/-! ## Runs -/

section Runs

variable {handled : Option Ref} {w w' : World}

/-- A run keeps the world that it starts from. -/
theorem keeps_of_run {m : Eval α} {ended : Except Signal α} (h : m.run handled w = (ended, w')) :
    w.Keeps w' := by
  have hkeeps := m.keeps handled w
  rwa [h] at hkeeps

@[simp] theorem run_pure (a : α) : (pure a : Eval α).run handled w = (.ok a, w) := rfl

@[simp] theorem run_reading (f : World → α) (h : World.Unaware f) :
    (reading f h).run handled w = (.ok (f w), w) := rfl

@[simp] theorem run_store : store.run handled w = (.ok w.store, w) := rfl

theorem run_new (o : Object) :
    (new o).run handled w =
      (.ok (.object (w.store.insert o).1), { w with store := (w.store.insert o).2 }) := rfl

@[simp] theorem run_lift_ok (a : α) : (lift (.ok a)).run handled w = (.ok a, w) := rfl

theorem run_bind (m : Eval α) (f : α → Eval β) :
    (m >>= f).run handled w =
      match m.run handled w with
      | (.ok a, w') => (f a).run handled w'
      | (.error signal, w') => (.error signal, w') := rfl

/-- A sequence goes on from where its first part has ended. -/
theorem run_bind_of_ok {m : Eval α} {f : α → Eval β} {a : α} (h : m.run handled w = (.ok a, w')) :
    (m >>= f).run handled w = (f a).run handled w' := by
  rw [run_bind, h]

theorem run_bind_of_error {m : Eval α} {f : α → Eval β} {signal : Signal}
    (h : m.run handled w = (.error signal, w')) :
    (m >>= f).run handled w = (.error signal, w') := by
  rw [run_bind, h]

/-- A sequence that has ended with a value has gone through both parts. -/
theorem run_bind_eq_ok {m : Eval α} {f : α → Eval β} {b : β} :
    (m >>= f).run handled w = (.ok b, w') ↔
      ∃ a between, m.run handled w = (.ok a, between) ∧
        (f a).run handled between = (.ok b, w') := by
  rw [run_bind]
  constructor
  · intro h
    split at h
    next a between hm => exact ⟨a, between, hm, h⟩
    next => cases h
  · rintro ⟨a, between, hm, hf⟩
    rw [hm]
    exact hf

/-- A sequence that has ended otherwise has stopped in one of its parts. -/
theorem run_bind_eq_error {m : Eval α} {f : α → Eval β} {signal : Signal} :
    (m >>= f).run handled w = (.error signal, w') ↔
      m.run handled w = (.error signal, w') ∨
        ∃ a between, m.run handled w = (.ok a, between) ∧
          (f a).run handled between = (.error signal, w') := by
  rw [run_bind]
  constructor
  · intro h
    split at h
    next a between hm => exact .inr ⟨a, between, hm, h⟩
    next signal between hm => cases h; exact .inl hm
  · rintro (hm | ⟨a, between, hm, hf⟩)
    · rw [hm]
    · rw [hm]
      exact hf

theorem run_fault_ne_ok (f : Fault) {a : α} : (fault f).run handled w ≠ (.ok a, w') := by
  intro h
  cases h

theorem run_raise (r : Ref) :
    (raise r : Eval α).run handled w =
      if (w.store.exception? (.object r)).isSome then
        (.error (.raised r), { w with store := w.store.raising r handled })
      else (fault .notRaisable).run handled w := rfl

theorem run_raise_ne_ok (r : Ref) {a : α} : (raise r).run handled w ≠ (.ok a, w') := by
  rw [run_raise]
  split
  · intro h
    cases h
  · exact run_fault_ne_ok _

theorem run_raiseFrom_ne_ok (r cause : Ref) {a : α} :
    (raiseFrom r cause).run handled w ≠ (.ok a, w') := by
  intro h
  obtain ⟨_, between, -, h⟩ := run_bind_eq_ok.mp h
  exact run_raise_ne_ok r h

theorem run_raiseAnew_ne_ok (complaint : Complaint) {a : α} :
    (raiseAnew complaint).run handled w ≠ (.ok a, w') := by
  intro h
  obtain ⟨r, between, -, h⟩ := run_bind_eq_ok.mp h
  exact run_raise_ne_ok r h

theorem run_raiseNew_ne_ok (c : Standard) (message : String) {a : α} :
    (raiseNew c message).run handled w ≠ (.ok a, w') :=
  run_raiseAnew_ne_ok _

/-- A new exception is there to be raised. -/
theorem run_raiseAnew (complaint : Complaint) :
    (raiseAnew complaint : Eval α).run handled w =
      let made := w.store.newException complaint.cls complaint.args []
      (.error (.raised made.1), { w with store := made.2.raising made.1 handled }) := by
  dsimp only
  have hmade := w.store.exception?_newException complaint.cls complaint.args []
  rw [raiseAnew, run_bind]
  exact if_pos hmade

theorem run_raiseNew (c : Standard) (message : String) :
    (raiseNew c message : Eval α).run handled w =
      let made := w.store.newException c [.str .fresh message] []
      (.error (.raised made.1), { w with store := made.2.raising made.1 handled }) :=
  run_raiseAnew _

theorem run_raiseNewFrom (c : Standard) (message : String) (attributes : Named) (cause : Ref) :
    (raiseNewFrom c message attributes cause : Eval α).run handled w =
      let made := w.store.newException c [.str .fresh message] attributes
      (.error (.raised made.1),
        { w with store := (made.2.setCause made.1 (some cause)).raising made.1 handled }) := by
  dsimp only
  have hmade := w.store.exception?_newException c [.str .fresh message] attributes
  rw [raiseNewFrom, run_bind]
  exact if_pos (by simpa [Store.setCause] using hmade)

theorem run_raiseNewFrom_ne_ok (c : Standard) (message : String) (attributes : Named) (cause : Ref)
    {a : α} : (raiseNewFrom c message attributes cause).run handled w ≠ (.ok a, w') := by
  intro h
  obtain ⟨r, between, -, h⟩ := run_bind_eq_ok.mp h
  exact run_raiseFrom_ne_ok r cause h

/-- A computation in which exceptions may be handled has ended with a value by itself or after
handling one. -/
theorem run_catchingIf_eq_ok {test : Store → Ref → Bool} {m : Eval α} {handler : Ref → Eval α}
    {a : α} :
    (catchingIf test m handler).run handled w = (.ok a, w') ↔
      m.run handled w = (.ok a, w') ∨
        ∃ r between, m.run handled w = (.error (.raised r), between) ∧ test between.store r = true ∧
          (handler r).run (some r) between = (.ok a, w') := by
  dsimp only [catchingIf]
  constructor
  · intro h
    split at h
    next r between hm =>
      split at h
      next htest => exact .inr ⟨r, between, hm, htest, h⟩
      next => cases h
    next => exact .inl h
  · rintro (h | ⟨r, between, hm, htest, h⟩)
    · rw [h]
    · simp only [hm, htest, if_true, h]

end Runs

/-! ## Computations that only look

What such a computation gives depends on the world, and it leaves the world as it is unless it
raises the exception of a fault. -/

/-- Nothing happens but looking at the world and perhaps raising the exception of a fault. -/
def Looks (m : Eval α) : Prop :=
  ∀ handled w, (∃ a, m.run handled w = (.ok a, w)) ∨ ∃ f, m.run handled w = (fault f).run handled w

/-- Looking that comes to an end leaves the world as it is. -/
theorem Looks.eq_of_run {m : Eval α} (hm : m.Looks) {a : α} {handled : Option Ref} {w w' : World}
    (h : m.run handled w = (.ok a, w')) : w' = w := by
  rcases hm handled w with ⟨b, hb⟩ | ⟨problem, hproblem⟩
  · rw [hb] at h
    cases h
    rfl
  · rw [hproblem] at h
    exact absurd h (run_fault_ne_ok problem)

theorem looks_pure (a : α) : (pure a : Eval α).Looks := fun _ _ => .inl ⟨a, rfl⟩

theorem looks_lift (r : Except Fault α) : (lift r).Looks := by
  intro handled w
  cases r with
  | ok a => exact .inl ⟨a, rfl⟩
  | error f => exact .inr ⟨f, rfl⟩

theorem Looks.bind {m : Eval α} {f : α → Eval β} (hm : m.Looks) (hf : ∀ a, (f a).Looks) :
    (m >>= f).Looks := by
  intro handled w
  rcases hm handled w with ⟨a, ha⟩ | ⟨problem, hproblem⟩
  · rw [run_bind_of_ok ha]
    exact hf a handled w
  · exact .inr ⟨problem, run_bind_of_error hproblem⟩

theorem looks_store_bind {f : Store → Eval α} (hf : ∀ s, (f s).Looks) : (store >>= f).Looks :=
  Looks.bind (fun _ w => .inl ⟨w.store, rfl⟩) hf

theorem looks_str (v : Value) : (str v).Looks := looks_store_bind fun _ => looks_lift _

theorem looks_repr (v : Value) : (repr v).Looks := looks_store_bind fun _ => looks_lift _

end Eval

/-- Calling values and awaiting coroutines. -/
structure Engine where
  call : Value → List Value → Named → Eval Value
  await : Value → Eval Value

end FaultContext
