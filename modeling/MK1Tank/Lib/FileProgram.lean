/-
Programs over a small file system.

A program is the calls it makes, each with what it does on the reply.  It is run
against an oracle that decides how each call ends: as documented, or with a failure
that its return value reports, or, for a write, with fewer bytes stored than it was
given.  The same program can be cut: some of its calls are done, of the next one at
most a part of the data it writes, and nothing after that.
-/
import Mathlib

namespace FileProgram

/-- What is stored under each path. -/
abbrev Files (P : Type) := P → Option (List Char)

inductive Call (P : Type) where
  | mount
  /-- Open for writing: the file is created, or emptied. -/
  | openWrite (path : P)
  /-- Write at the end of the file opened for writing. -/
  | append (path : P) (bytes : List Char)
  | exist (path : P)
  | remove (path : P)
  | rename (src dst : P)
  /-- Open for reading, and read all of it. -/
  | read (path : P)
deriving DecidableEq

/-- The call can change what is stored. -/
def Call.writes {P : Type} : Call P → Bool
  | .openWrite _ | .append _ _ | .remove _ | .rename _ _ => true
  | .mount | .exist _ | .read _ => false

inductive Outcome where
  | ok
  | fail
  /-- Only so many bytes were stored. -/
  | short (stored : Nat)
deriving DecidableEq

def Outcome.succeeds : Outcome → Bool
  | .fail => false
  | _ => true

/-- The part of a write that is stored. -/
def Outcome.stored : Outcome → List Char → List Char
  | .ok, bytes => bytes
  | .fail, _ => []
  | .short n, bytes => bytes.take n

theorem Outcome.stored_length_le (outcome : Outcome) (bytes : List Char) :
    (outcome.stored bytes).length ≤ bytes.length := by
  cases outcome with
  | ok => exact Nat.le_refl _
  | fail => exact Nat.zero_le _
  | short n => exact List.length_take_le' n bytes

/-- Two writes in a row leave their whole text exactly when each of them stored all of its own. -/
theorem Outcome.stored_append_iff (o₁ o₂ : Outcome) (bytes₁ bytes₂ : List Char) :
    o₁.stored bytes₁ ++ o₂.stored bytes₂ = bytes₁ ++ bytes₂ ↔
      o₁.stored bytes₁ = bytes₁ ∧ o₂.stored bytes₂ = bytes₂ := by
  refine ⟨fun heq => ?_, fun ⟨h₁, h₂⟩ => by rw [h₁, h₂]⟩
  have hlen := congrArg List.length heq
  rw [List.length_append, List.length_append] at hlen
  have h₁ := o₁.stored_length_le bytes₁
  have h₂ := o₂.stored_length_le bytes₂
  exact List.append_inj heq (by omega)

structure Reply where
  ok : Bool
  text : List Char

variable {P : Type} [DecidableEq P] {α β : Type}

/-- One call, ending as the outcome says. -/
def perform (files : Files P) (call : Call P) (outcome : Outcome) : Files P × Reply :=
  match call with
  | .mount => (files, ⟨outcome.succeeds, []⟩)
  | .openWrite path =>
    if outcome.succeeds then (Function.update files path (some []), ⟨true, []⟩)
    else (files, ⟨false, []⟩)
  | .append path bytes =>
    (Function.update files path ((files path).map (· ++ outcome.stored bytes)),
      ⟨outcome.stored bytes = bytes, []⟩)
  | .exist path => (files, ⟨(files path).isSome, []⟩)
  | .remove path =>
    if outcome.succeeds && (files path).isSome then (Function.update files path none, ⟨true, []⟩)
    else (files, ⟨false, []⟩)
  | .rename src dst =>
    match files src with
    | some text =>
      if outcome.succeeds then
        (Function.update (Function.update files dst (some text)) src none, ⟨true, []⟩)
      else (files, ⟨false, []⟩)
    | none => (files, ⟨false, []⟩)
  | .read path =>
    match files path with
    | some text => if outcome.succeeds then (files, ⟨true, text⟩) else (files, ⟨false, []⟩)
    | none => (files, ⟨false, []⟩)

theorem perform_of_not_writes (files : Files P) {call : Call P} (outcome : Outcome)
    (h : call.writes = false) : (perform files call outcome).1 = files := by
  cases call with
  | mount => rfl
  | exist path => rfl
  | read path =>
    rcases hfile : files path with _ | text
    · simp [perform, hfile]
    · cases hs : outcome.succeeds <;> simp [perform, hfile, hs]
  | openWrite path => cases h
  | append path bytes => cases h
  | remove path => cases h
  | rename src dst => cases h

inductive Program (P : Type) (α : Type) where
  | done (result : α)
  | call (c : Call P) (next : Reply → Program P α)

namespace Program

/-- One program, then another on its result. -/
def bind : Program P α → (α → Program P β) → Program P β
  | .done a, f => f a
  | .call c next, f => .call c fun reply => (next reply).bind f

/-- Run to the end, each call ending as the oracle says. -/
def run (oracle : Call P → Outcome) : Program P α → Files P → Files P × α
  | .done a, files => (files, a)
  | .call c next, files =>
    let (files, reply) := perform files c (oracle c)
    (next reply).run oracle files

/-- The calls of a run, in order. -/
def calls (oracle : Call P → Outcome) : Program P α → Files P → List (Call P)
  | .done _, _ => []
  | .call c next, files =>
    let (files, reply) := perform files c (oracle c)
    c :: (next reply).calls oracle files

/-- The files a power cut leaves: `calls` calls are done, and of the next one, when it is a write,
its first `bytes` bytes. -/
def runCut : Program P α → Files P → Nat → Nat → Files P
  | .done _, files, _, _ => files
  | .call (.append path text) _, files, 0, bytes =>
    (perform files (.append path text) (.short bytes)).1
  | .call _ _, files, 0, _ => files
  | .call c next, files, calls + 1, bytes =>
    let (files, reply) := perform files c .ok
    (next reply).runCut files calls bytes

@[simp] theorem run_done (oracle : Call P → Outcome) (a : α) (files : Files P) :
    (done a : Program P α).run oracle files = (files, a) := rfl

theorem run_call (oracle : Call P → Outcome) (c : Call P) (next : Reply → Program P α)
    (files : Files P) :
    (call c next).run oracle files =
      (next (perform files c (oracle c)).2).run oracle (perform files c (oracle c)).1 := rfl

theorem calls_call (oracle : Call P → Outcome) (c : Call P) (next : Reply → Program P α)
    (files : Files P) :
    (call c next).calls oracle files =
      c :: (next (perform files c (oracle c)).2).calls oracle (perform files c (oracle c)).1 := rfl

/-- A run none of whose calls writes leaves the files as they were. -/
theorem run_of_not_writes (oracle : Call P → Outcome) (prog : Program P α) :
    ∀ files, (∀ c ∈ prog.calls oracle files, c.writes = false) →
      (prog.run oracle files).1 = files := by
  induction prog with
  | done a => exact fun _ _ => rfl
  | call c next ih =>
    intro files hcalls
    rw [calls_call] at hcalls
    have hfirst := perform_of_not_writes files (oracle c) (hcalls c List.mem_cons_self)
    have hrest := ih _ _ fun c' hc' => hcalls c' (List.mem_cons_of_mem _ hc')
    rw [run_call, hrest, hfirst]

theorem run_bind (oracle : Call P → Outcome) (prog : Program P α) (f : α → Program P β) :
    ∀ files, (prog.bind f).run oracle files =
      (f (prog.run oracle files).2).run oracle (prog.run oracle files).1 := by
  induction prog with
  | done a => exact fun _ => rfl
  | call c next ih => exact fun files => ih _ _

end Program

end FileProgram
