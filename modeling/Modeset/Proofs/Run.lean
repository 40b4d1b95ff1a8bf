import Modeset.Platform

/-!
# Runs of procedures

A procedure leaves open how its calls are answered. A *run* fixes the answers: it is the list of the
calls that are made, each with the answer that came back, together with the result. What holds of
every run holds whatever the device and the pool do.

What stands behind the calls may have a state of its own, which changes from call to call. `Follows`
leads from one such state to another along the calls of a run.

## Main definitions

* `Event` — a call with its answer
* `Proc.Run` — the runs of a procedure
* `Proc.replay` — the result of a procedure for a list of calls with their answers
* `Follows` — the states that a list of events leads through
* `Proc.Ends` — a procedure comes to an end, with a result and a state as they should be
* `Event.kms`, `Event.allocated`, `Event.released`, `Event.opened`, `Event.closed` — the events of a
  platform
* `Event.taken`, `Event.returned`, `Event.made`, `Event.removed` — what an event hands over

## Main results

* `Proc.run_bind_iff` — a run of a sequence is a run of its first part and one of the rest
* `Proc.Run.eq_of_append_eq` — the answers determine the run
* `Proc.replay_eq_some_iff` — replaying finds exactly the runs
* `Proc.exists_run` — if every call can be answered, every procedure has a run
-/

namespace Modeset

/-- A call and the answer that came back. -/
structure Event (S : Signature) where
  call : S.Call
  answer : S.Answer call

namespace Proc

variable {S : Signature} {α β : Type}

/-- `p.Run events a`: if its calls are those of the events, in this order, and are answered as the
events say, then the procedure `p` ends with the result `a`. Notes are not calls. -/
inductive Run : Proc S α → List (Event S) → α → Prop
  | done (a : α) : Run (.done a) [] a
  | call {c : S.Call} {next : S.Answer c → Proc S α} {answer : S.Answer c}
      {events : List (Event S)} {a : α} :
      Run (next answer) events a → Run (.call c next) (⟨c, answer⟩ :: events) a
  | note {entry : Entry} {next : Proc S α} {events : List (Event S)} {a : α} :
      Run next events a → Run (.note entry next) events a

variable {events : List (Event S)}

@[simp] theorem run_done_iff {a b : α} :
    (done a : Proc S α).Run events b ↔ events = [] ∧ b = a := by
  constructor
  · intro run
    cases run
    exact ⟨rfl, rfl⟩
  · rintro ⟨rfl, rfl⟩
    exact .done _

@[simp] theorem run_call_iff {c : S.Call} {next : S.Answer c → Proc S α} {a : α} :
    (call c next).Run events a ↔
      ∃ answer rest, events = ⟨c, answer⟩ :: rest ∧ (next answer).Run rest a := by
  constructor
  · intro run
    cases run with
    | call run => exact ⟨_, _, rfl, run⟩
  · rintro ⟨answer, rest, rfl, run⟩
    exact .call run

@[simp] theorem run_note_iff {entry : Entry} {next : Proc S α} {a : α} :
    (note entry next).Run events a ↔ next.Run events a := by
  constructor
  · intro run
    cases run with
    | note run => exact run
  · exact .note

theorem Run.bind {p : Proc S α} {f : α → Proc S β} {first rest : List (Event S)} {a : α} {b : β}
    (run : p.Run first a) (next : (f a).Run rest b) : (p >>= f).Run (first ++ rest) b := by
  induction run with
  | done a => exact next
  | call _ ih => exact .call (ih next)
  | note _ ih => exact .note (ih next)

/-- A run of the first part of a sequence is one of the whole if nothing is left to ask. -/
theorem Run.bind_nil {p : Proc S α} {f : α → Proc S β} {a : α} {b : β} (run : p.Run events a)
    (last : (f a).Run [] b) : (p >>= f).Run events b := by
  simpa using run.bind last

/-- A run of a sequence is a run of its first part followed by a run of the rest. -/
theorem run_bind_iff {p : Proc S α} {f : α → Proc S β} {b : β} :
    (p >>= f).Run events b ↔
      ∃ first a rest, p.Run first a ∧ (f a).Run rest b ∧ events = first ++ rest := by
  constructor
  · intro run
    -- The first part ends where its tree does, so the induction is on the tree.
    induction p generalizing events with
    | done a => exact ⟨[], a, events, .done a, run, rfl⟩
    | call c next ih =>
      rw [bind_call, run_call_iff] at run
      obtain ⟨answer, others, rfl, run⟩ := run
      obtain ⟨first, a, rest, hfirst, hrest, rfl⟩ := ih answer run
      exact ⟨_ :: first, a, rest, .call hfirst, hrest, rfl⟩
    | note entry next ih =>
      rw [bind_note, run_note_iff] at run
      obtain ⟨first, a, rest, hfirst, hrest, rfl⟩ := ih run
      exact ⟨first, a, rest, .note hfirst, hrest, rfl⟩
  · rintro ⟨first, a, rest, run, next, rfl⟩
    exact run.bind next

/-- What is made of the result of a procedure adds nothing to its runs. -/
theorem run_bind_pure_iff {p : Proc S α} {f : α → β} {b : β} :
    (p >>= fun a => pure (f a)).Run events b ↔ ∃ a, p.Run events a ∧ b = f a := by
  rw [run_bind_iff]
  constructor
  · rintro ⟨first, a, rest, run, last, rfl⟩
    obtain ⟨rfl, rfl⟩ := run_done_iff.mp last
    rw [List.append_nil]
    exact ⟨a, run, rfl⟩
  · rintro ⟨a, run, rfl⟩
    exact ⟨events, a, [], run, .done _, (List.append_nil events).symm⟩

theorem run_ask_iff {c : S.Call} {answer : S.Answer c} :
    (ask c).Run events answer ↔ events = [⟨c, answer⟩] := by
  constructor
  · intro run
    obtain ⟨_, rest, rfl, last⟩ := run_call_iff.mp run
    obtain ⟨rfl, rfl⟩ := run_done_iff.mp last
    rfl
  · rintro rfl
    exact .call (.done _)

/-- A procedure has no choice but in the answers: of two runs on the same answers, as far as these
go, neither goes further than the other, and the results are the same. -/
theorem Run.eq_of_append_eq {p : Proc S α} {first second rest last : List (Event S)} {a b : α}
    (run : p.Run first a) (other : p.Run second b) (same : first ++ rest = second ++ last) :
    first = second ∧ a = b := by
  induction run generalizing second with
  | done a =>
    obtain ⟨rfl, rfl⟩ := run_done_iff.mp other
    exact ⟨rfl, rfl⟩
  | call _ ih =>
    obtain ⟨answer, events, rfl, later⟩ := run_call_iff.mp other
    obtain ⟨head, tail⟩ := List.cons.inj same
    cases head
    obtain ⟨rfl, rfl⟩ := ih later tail
    exact ⟨rfl, rfl⟩
  | note _ ih => exact ih (run_note_iff.mp other) same

attribute [simp] trace debug info warn error

@[simp] theorem run_log_iff {level : Level} {topic : Topic} {text : String} {u : Unit} :
    (log level topic text : Proc S Unit).Run events u ↔ events = [] := by
  rw [log, run_note_iff, run_done_iff]
  exact and_iff_left rfl

/-- A note before the rest of a procedure does not matter for its runs. -/
@[simp] theorem run_log_bind_iff {level : Level} {topic : Topic} {text : String}
    {f : Unit → Proc S β} {b : β} :
    (log level topic text >>= f).Run events b ↔ (f ()).Run events b :=
  run_note_iff

/-- The first call of a procedure is the first event of its runs. -/
theorem run_ask_bind_iff {c : S.Call} {f : S.Answer c → Proc S β} {b : β} :
    (ask c >>= f).Run events b ↔
      ∃ answer rest, events = ⟨c, answer⟩ :: rest ∧ (f answer).Run rest b :=
  run_call_iff

section Replay

variable [DecidableEq S.Call]

/-- The result of a procedure whose calls are those of the events and are answered as they say, if
it makes these calls and no others. -/
def replay : Proc S α → List (Event S) → Option α
  | done a, [] => some a
  | done _, _ :: _ => none
  | call _ _, [] => none
  | call c next, ⟨made, answer⟩ :: rest =>
    if h : made = c then (next (h ▸ answer)).replay rest else none
  | note _ next, events => next.replay events

/-- Replaying finds exactly the runs. -/
theorem replay_eq_some_iff {p : Proc S α} {a : α} :
    p.replay events = some a ↔ p.Run events a := by
  constructor
  · intro replayed
    -- Replaying recurses on the procedure and the events at once; the procedure leads.
    induction p generalizing events with
    | done b =>
      cases events with
      | nil => cases replayed; exact .done _
      | cons => cases replayed
    | call c next ih =>
      cases events with
      | nil => cases replayed
      | cons event rest =>
        obtain ⟨made, answer⟩ := event
        simp only [replay] at replayed
        split at replayed
        · rename_i h
          subst h
          exact .call (ih _ replayed)
        · cases replayed
    | note entry next ih => exact .note (ih replayed)
  · intro run
    induction run with
    | done a => rfl
    | call _ ih => simpa [replay] using ih
    | note _ ih => exact ih

end Replay

end Proc

section Follows

variable {σ ε : Type} {step : σ → ε → σ → Prop} {s t u : σ} {events others : List ε}

/-- `Follows step s events t`: the events lead from the state `s` to the state `t`, one step after
the other. -/
@[simp] def Follows (step : σ → ε → σ → Prop) : σ → List ε → σ → Prop
  | s, [], t => t = s
  | s, event :: rest, u => ∃ t, step s event t ∧ Follows step t rest u

namespace Follows

@[simp] theorem append_iff :
    Follows step s (events ++ others) u ↔
      ∃ t, Follows step s events t ∧ Follows step t others u := by
  induction events generalizing s with
  | nil => simp
  | cons event rest ih =>
    simp only [List.cons_append, Follows, ih]
    grind

theorem append (path : Follows step s events t) (next : Follows step t others u) :
    Follows step s (events ++ others) u :=
  append_iff.mpr ⟨t, path, next⟩

/-- What every step keeps, a list of events keeps. -/
theorem keep {keeps : σ → Prop} (path : Follows step s events t)
    (stays : ∀ s, ∀ event ∈ events, ∀ t, step s event t → keeps s → keeps t) (h : keeps s) :
    keeps t := by
  induction events generalizing s with
  | nil => exact path ▸ h
  | cons event rest ih =>
    obtain ⟨r, first, path⟩ := path
    exact ih path (fun s event member => stays s event (List.mem_cons_of_mem _ member))
      (stays s event List.mem_cons_self r first h)

end Follows

end Follows

namespace Proc

variable {S : Signature} {α β σ : Type} {step : σ → Event S → σ → Prop} {s : σ}
  {p : Proc S α} {post : α → σ → Prop}

/-- Started in the state `s`, the procedure comes to an end, and however its calls are answered on
the way, `post` holds of its result and of the state that is left. -/
structure Ends (step : σ → Event S → σ → Prop) (s : σ) (p : Proc S α) (post : α → σ → Prop) :
    Prop where
  comes : ∃ events a t, p.Run events a ∧ Follows step s events t
  holds : ∀ {events a t}, p.Run events a → Follows step s events t → post a t

namespace Ends

theorem done {a : α} (h : post a s) : (Proc.done a).Ends step s post where
  comes := ⟨[], a, s, .done a, rfl⟩
  holds run path := by
    obtain ⟨rfl, rfl⟩ := run_done_iff.mp run
    cases path
    exact h

/-- A call that can be answered is followed by what is done with its answer. -/
theorem call {c : S.Call} {next : S.Answer c → Proc S α} (answered : ∃ r t, step s ⟨c, r⟩ t)
    (h : ∀ r t, step s ⟨c, r⟩ t → (next r).Ends step t post) :
    (Proc.call c next).Ends step s post where
  comes := by
    obtain ⟨r, t, first⟩ := answered
    obtain ⟨events, a, u, run, path⟩ := (h r t first).comes
    exact ⟨⟨c, r⟩ :: events, a, u, .call run, t, first, path⟩
  holds whole path := by
    obtain ⟨r, rest, rfl, run⟩ := run_call_iff.mp whole
    obtain ⟨t, first, path⟩ := path
    exact (h r t first).holds run path

theorem note {entry : Entry} (h : p.Ends step s post) : (Proc.note entry p).Ends step s post where
  comes := by
    obtain ⟨events, a, t, run, path⟩ := h.comes
    exact ⟨events, a, t, .note run, path⟩
  holds run := h.holds (run_note_iff.mp run)

theorem bind {f : α → Proc S β} {last : β → σ → Prop} (h : p.Ends step s post)
    (next : ∀ a t, post a t → (f a).Ends step t last) : (p >>= f).Ends step s last where
  comes := by
    obtain ⟨first, a, t, run, path⟩ := h.comes
    obtain ⟨rest, b, u, later, further⟩ := (next a t (h.holds run path)).comes
    exact ⟨first ++ rest, b, u, run.bind later, path.append further⟩
  holds whole path := by
    obtain ⟨first, a, rest, run, later, rfl⟩ := run_bind_iff.mp whole
    obtain ⟨t, path, further⟩ := Follows.append_iff.mp path
    exact (next a t (h.holds run path)).holds later further

theorem mono {other : α → σ → Prop} (h : p.Ends step s post)
    (weaker : ∀ a t, post a t → other a t) : p.Ends step s other where
  comes := h.comes
  holds run path := weaker _ _ (h.holds run path)

end Ends

end Proc

namespace Event

/-- A call to the open device. -/
def kms (call : Kms.Call) (answer : Kms.Answer call) : Event Platform := ⟨.inl (.kms call), answer⟩

/-- Memory was asked for. -/
def allocated (width height : UInt32) (answer : Except Fault Buffer) : Event Platform :=
  ⟨.inr (.allocate width height), answer⟩

/-- Memory was given back. -/
def released (handle : UInt32) : Event Platform := ⟨.inr (.release handle), ()⟩

/-- The device node was to be opened. -/
def opened (path : Path) (answer : Except Fault Unit) : Event Platform :=
  ⟨.inl (.openNode path), answer⟩

/-- The device node was closed. -/
def closed : Event Platform := ⟨.inl .closeNode, ()⟩

/-- The handle of the memory that was taken, unless it is null. -/
def taken (event : Event Platform) : Option UInt32 :=
  match event with
  | ⟨.inr (.allocate ..), .ok buffer⟩ => if buffer.handle = 0 then none else some buffer.handle
  | _ => none

/-- The handle of the memory that was given back. -/
def returned (event : Event Platform) : Option UInt32 :=
  match event with
  | ⟨.inr (.release handle), _⟩ => some handle
  | _ => none

/-- The number of the framebuffer that the device made, unless it is null. -/
def made (event : Event Platform) : Option UInt32 :=
  match event with
  | ⟨.inl (.kms (.addFramebuffer _)), .ok id⟩ => if id = 0 then none else some id
  | _ => none

/-- The number of the framebuffer that was to be removed. -/
def removed (event : Event Platform) : Option UInt32 :=
  match event with
  | ⟨.inl (.kms (.removeFramebuffer id)), _⟩ => some id
  | _ => none

end Event

namespace Platform

instance : DecidableEq Platform.Call := inferInstanceAs (DecidableEq (Device.Call ⊕ Pool.Call))

variable {β : Type} {b : β} {events : List (Event Platform)}

/- The answer's type is left out of the index, since for a known call it is unfolded there. -/
@[simp] theorem run_kms_bind_iff {call : Kms.Call} {f : Kms.Answer call → Proc Platform β} :
    (@Bind.bind (Proc Platform) _ (no_index (Kms.Answer call)) β (kms call) f).Run events b ↔
      ∃ answer rest, events = .kms call answer :: rest ∧ (f answer).Run rest b :=
  Proc.run_ask_bind_iff

@[simp] theorem run_kms_iff {call : Kms.Call} {answer : Kms.Answer call} :
    (@Proc.Run Platform (no_index (Kms.Answer call)) (kms call) events answer) ↔
      events = [.kms call answer] :=
  Proc.run_ask_iff

@[simp] theorem run_allocate_bind_iff {width height : UInt32}
    {f : Except Fault Buffer → Proc Platform β} :
    (allocate width height >>= f).Run events b ↔
      ∃ answer rest, events = .allocated width height answer :: rest ∧ (f answer).Run rest b :=
  Proc.run_ask_bind_iff

@[simp] theorem run_release_bind_iff {handle : UInt32} {f : Unit → Proc Platform β} :
    (release handle >>= f).Run events b ↔
      ∃ rest, events = .released handle :: rest ∧ (f ()).Run rest b :=
  Proc.run_ask_bind_iff.trans ⟨fun ⟨_, h⟩ => h, fun h => ⟨(), h⟩⟩

@[simp] theorem run_openNode_bind_iff {path : Path} {f : Except Fault Unit → Proc Platform β} :
    (openNode path >>= f).Run events b ↔
      ∃ answer rest, events = .opened path answer :: rest ∧ (f answer).Run rest b :=
  Proc.run_ask_bind_iff

@[simp] theorem run_closeNode_bind_iff {f : Unit → Proc Platform β} :
    (closeNode >>= f).Run events b ↔ ∃ rest, events = .closed :: rest ∧ (f ()).Run rest b :=
  Proc.run_ask_bind_iff.trans ⟨fun ⟨_, h⟩ => h, fun h => ⟨(), h⟩⟩

end Platform

end Modeset
