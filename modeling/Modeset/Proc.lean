import Modeset.Log

/-!
# Procedures

A program of this library never touches the outside itself. It is a tree, a *procedure*, that asks
for one call at a time, goes on with whatever answer comes back, and may leave notes in the log on
the way. What a call means is fixed only when a procedure is interpreted: by a simulated kernel, by
another procedure that carries the calls out on a lower level, or by the terminal program.

## Main definitions

* `Signature` — the calls a procedure may make, each with the type of its answers
* `Proc` — procedures over a signature, a monad
* `Proc.interpret` — run a procedure in any monad, given a meaning for its calls and notes
* `Proc.ask`, `Proc.log` — one call, one note
* `Proc.refine`, `Proc.refineFirst` — carry calls out by procedures of another signature

## Main results

* `Proc.bind_done`, `Proc.bind_assoc` — procedures form a lawful monad
* `Proc.interpret_bind` — interpretation commutes with sequencing
-/

namespace Modeset

/-- The calls a procedure may make and, for each call, the answers it may get. -/
structure Signature where
  Call : Type
  Answer : Call → Type

namespace Signature

/-- The calls of both signatures. -/
def sum (S T : Signature) : Signature where
  Call := S.Call ⊕ T.Call
  Answer := Sum.elim S.Answer T.Answer

end Signature

/-- A program that makes calls, goes on with their answers, and leaves notes. Notes stand in the
tree beside the calls, so their order relative to each call is kept, but they are not calls. -/
inductive Proc (S : Signature) (α : Type) where
  /-- The program is over with this result. -/
  | done (result : α)
  /-- Make a call and go on with its answer. -/
  | call (c : S.Call) (next : S.Answer c → Proc S α)
  /-- Leave a note and go on. -/
  | note (entry : Entry) (next : Proc S α)

namespace Proc

variable {R S T : Signature} {α β γ : Type}

/-- Go on with `f` once the procedure is done. -/
def bind : Proc S α → (α → Proc S β) → Proc S β
  | done a, f => f a
  | call c next, f => call c fun answer => (next answer).bind f
  | note entry next, f => note entry (next.bind f)

instance : Monad (Proc S) where
  pure := done
  bind := bind

@[simp] theorem pure_eq (a : α) : (pure a : Proc S α) = done a := rfl

@[simp] theorem bind_done (a : α) (f : α → Proc S β) : (done a >>= f) = f a := rfl

@[simp] theorem bind_call (c : S.Call) (next : S.Answer c → Proc S α) (f : α → Proc S β) :
    (call c next >>= f) = call c fun answer => next answer >>= f := rfl

@[simp] theorem bind_note (entry : Entry) (next : Proc S α) (f : α → Proc S β) :
    (note entry next >>= f) = note entry (next >>= f) := rfl

theorem bind_assoc (p : Proc S α) (f : α → Proc S β) (g : β → Proc S γ) :
    (p >>= f >>= g) = p >>= fun a => f a >>= g := by
  induction p with
  | done a => rfl
  | call c next ih => simp only [bind_call, ih]
  | note entry next ih => simp only [bind_note, ih]

theorem bind_pure_right (p : Proc S α) : (p >>= pure) = p := by
  induction p with
  | done a => rfl
  | call c next ih => simp only [bind_call, ih]
  | note entry next ih => simp only [bind_note, ih]

instance : LawfulMonad (Proc S) :=
  LawfulMonad.mk' (Proc S) bind_pure_right (fun _ _ => rfl) bind_assoc

/-- Make one call and return its answer. -/
def ask (c : S.Call) : Proc S (S.Answer c) := call c done

/-- Leave one note. -/
def log (level : Level) (topic : Topic) (text : String) : Proc S Unit :=
  note ⟨level, topic, text⟩ (done ())

/-- Leave a note of level `trace`. -/
def trace (topic : Topic) (text : String) : Proc S Unit := log .trace topic text

/-- Leave a note of level `debug`. -/
def debug (topic : Topic) (text : String) : Proc S Unit := log .debug topic text

/-- Leave a note of level `info`. -/
def info (topic : Topic) (text : String) : Proc S Unit := log .info topic text

/-- Leave a note of level `warn`. -/
def warn (topic : Topic) (text : String) : Proc S Unit := log .warn topic text

/-- Leave a note of level `error`. -/
def error (topic : Topic) (text : String) : Proc S Unit := log .error topic text

/-- Run a procedure in a monad that gives its calls and its notes a meaning. -/
def interpret {m : Type → Type} [Monad m] (answer : (c : S.Call) → m (S.Answer c))
    (record : Entry → m Unit) : Proc S α → m α
  | done a => pure a
  | call c next => answer c >>= fun r => (next r).interpret answer record
  | note entry next => record entry >>= fun _ => next.interpret answer record

section Interpret

variable {m : Type → Type} [Monad m] (answer : (c : S.Call) → m (S.Answer c))
  (record : Entry → m Unit)

@[simp] theorem interpret_done (a : α) :
    (done a : Proc S α).interpret answer record = pure a := rfl

@[simp] theorem interpret_call (c : S.Call) (next : S.Answer c → Proc S α) :
    (call c next).interpret answer record =
      answer c >>= fun r => (next r).interpret answer record := rfl

@[simp] theorem interpret_note (entry : Entry) (next : Proc S α) :
    (note entry next).interpret answer record =
      record entry >>= fun _ => next.interpret answer record := rfl

theorem interpret_bind [LawfulMonad m] (p : Proc S α) (f : α → Proc S β) :
    (p >>= f).interpret answer record =
      p.interpret answer record >>= fun a => (f a).interpret answer record := by
  induction p with
  | done a => simp
  | call c next ih => simp [ih]
  | note entry next ih => simp [ih]

end Interpret

/-- Carry the calls out by procedures of another signature that share a state; notes are kept. -/
def refine {σ : Type} (answer : (c : S.Call) → StateT σ (Proc T) (S.Answer c)) (p : Proc S α) :
    StateT σ (Proc T) α :=
  p.interpret answer fun entry state => note entry (done ((), state))

/-- A procedure over the first of two signatures, seen as one over both. -/
def left (p : Proc S α) : Proc (S.sum T) α :=
  p.interpret (fun c => call (S := S.sum T) (Sum.inl c) done) fun entry => note entry (done ())

/-- A procedure over the second of two signatures, seen as one over both. -/
def right (p : Proc T α) : Proc (S.sum T) α :=
  p.interpret (fun c => call (S := S.sum T) (Sum.inr c) done) fun entry => note entry (done ())

/-- One call over two signatures: of the first it is carried out by a procedure of another
signature, of the second it goes through. -/
def firstCall {σ : Type} (answer : (c : S.Call) → StateT σ (Proc T) (S.Answer c)) :
    (c : (S.sum R).Call) → StateT σ (Proc (T.sum R)) ((S.sum R).Answer c)
  | .inl c => fun state => (answer c state).left
  | .inr c => fun state => call (S := T.sum R) (Sum.inr c) fun r => done (r, state)

/-- Carry the calls of the first of two signatures out by procedures of another signature that share
a state; calls of the second go through. -/
def refineFirst {σ : Type} (answer : (c : S.Call) → StateT σ (Proc T) (S.Answer c))
    (p : Proc (S.sum R) α) : StateT σ (Proc (T.sum R)) α :=
  p.interpret (firstCall answer) fun entry state => note entry (done ((), state))

/-- The same procedure with only the notes that `keep` selects. -/
def filterNotes (keep : Entry → Bool) : Proc S α → Proc S α
  | done a => done a
  | call c next => call c fun answer => (next answer).filterNotes keep
  | note entry next =>
    if keep entry then note entry (next.filterNotes keep) else next.filterNotes keep

end Proc

end Modeset
